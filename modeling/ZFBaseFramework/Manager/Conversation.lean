import ZFBaseFramework.Manager.Independence

/-!
# What a client can tell from its blocks

The calls of a client's blocks, with what the code asks of the network and the file system
in between, follow a protocol: `Stage.hear` is its automaton. In runs without restarts the
client of a URL hears a word of it, and the stage it has got to is the one the download
really is in: `run_conversation`.
-/

namespace ZFBaseFramework

open ZFFileManagerTool World

/-- How far the conversation about a download has come. -/
inductive Stage where
  | idle
  /-- `downLoadWithURL:` was entered. -/
  | called
  /-- The size of the cached file was reported. -/
  | cached
  /-- A task asks for the rest of the resource. -/
  | waiting
  /-- The total was reported. -/
  | answered
  /-- A tmp file that was complete already was moved. -/
  | moved
  /-- Success was announced for a tmp file that was complete already. -/
  | settled
  | downing
  | paused
  /-- A finished tmp file was moved. -/
  | placed
  /-- Success was announced, and the success block is due. -/
  | succeeded
  /-- Fail was announced, and the fail block is due. -/
  | failed
  deriving DecidableEq

namespace Stage

/-- The announcements that a body under way allows. -/
def bodyHear (stage : Stage) : Effect → Option Stage
  | .info _ _ _ _ => some stage
  | .appended _ _ _ => some stage
  | .placed _ _ => some .placed
  | .state _ _ .success => some .succeeded
  | .state _ _ .fail => some .failed
  | _ => none

/-- The announcements that a stage allows, and the stages they lead to. -/
def hear : Stage → Effect → Option Stage
  | .idle, .called _ _ => some .called
  | .called, .info _ _ _ progress => if progress = 1 then some .cached else none
  | .called, .requested _ _ _ _ => some .waiting
  | .cached, .state _ _ .success => some .succeeded
  | .waiting, .info _ _ _ progress => if progress = 0 then some .answered else none
  | .waiting, .state _ _ .fail => some .failed
  | .answered, .placed _ _ => some .moved
  | .answered, .state _ _ .success => some .settled
  | .answered, .state _ _ .downing => some .downing
  | .moved, .state _ _ .success => some .settled
  | .settled, .state _ _ .fail => some .failed
  | .downing, .state _ _ .pause => some .paused
  | .downing, effect => bodyHear .downing effect
  | .paused, .state _ _ .downing => some .downing
  | .paused, effect => bodyHear .paused effect
  | .placed, .state _ _ .success => some .succeeded
  | .succeeded, .success _ _ _ => some .idle
  | .failed, .fail _ _ => some .idle
  | _, _ => none

/-- The stage after a list of announcements, if the protocol allows them. -/
def after (stage : Stage) (effects : List Effect) : Option Stage :=
  effects.foldlM hear stage

end Stage

/-- The stage of a registered download. -/
def Transfer.stage (transfer : Transfer) : Stage :=
  match transfer.phase, transfer.state with
  | .waiting, _ => .waiting
  | .allowed, .pause => .paused
  | .allowed, _ => .downing
  | _, _ => .settled

/-- The stage a lane is in. -/
def Lane.stage (lane : Lane) : Stage :=
  match lane.transfer with
  | none => .idle
  | some transfer => transfer.stage

/-- The state of a registered download mirrors what its task is doing. -/
inductive InStep : ZFDownLoaderState → TaskPhase → Prop where
  | unknown : InStep .unknown .waiting
  | downing : InStep .downing .allowed
  | pause : InStep .pause .allowed
  | success : InStep .success .refused

/-- The transfer of the lane, if there is one, is regular. -/
def Lane.Regular (lane : Lane) : Prop :=
  ∀ transfer, lane.transfer = some transfer →
    InStep transfer.state transfer.phase

section Steps

variable {digest : MessageDigest} {url : NSURL} {lane : Lane} {transfer : Transfer}
  {action : LaneAction}

theorem Lane.stage_of_some (held : lane.transfer = some transfer) :
    lane.stage = transfer.stage := by
  rw [Lane.stage, held]

/-- A pause or a resume is announced by the stage it leads to. -/
theorem InStep.after_switch (inStep : InStep transfer.state transfer.phase)
    (held : lane.transfer = some transfer) {source target : ZFDownLoaderState} {suspended : Bool}
    (between : source = .downing ∧ target = .pause ∨ source = .pause ∧ target = .downing) :
    transfer.stage.after (lane.switchSaid source target) =
        some (transfer.switch source target suspended).stage ∧
      InStep (transfer.switch source target suspended).state
        (transfer.switch source target suspended).phase := by
  rcases transfer with ⟨blocks, state, progress, tmpSize, totalSize, writes, offset, phase, _, _⟩
  rcases between with ⟨rfl, rfl⟩ | ⟨rfl, rfl⟩
  · cases inStep with
    | downing =>
        rw [Lane.switchSaid, held]
        exact ⟨rfl, .pause⟩
    | unknown | pause | success =>
        rw [Lane.switchSaid, held]
        exact ⟨rfl, by constructor⟩
  · cases inStep with
    | pause =>
        rw [Lane.switchSaid, held]
        exact ⟨rfl, .downing⟩
    | unknown | downing | success =>
        rw [Lane.switchSaid, held]
        exact ⟨rfl, by constructor⟩

theorem Lane.regular_of_none {lane : Lane} (none : lane.transfer = none) : lane.Regular := by
  intro transfer held
  rw [none] at held
  cases held

theorem Lane.regular_of_some (held : lane.transfer = some transfer)
    (inStep : InStep transfer.state transfer.phase) : lane.Regular := by
  intro other found
  cases held.symm.trans found
  exact inStep

/-- A call of `downLoadWithURL:` for a URL that is not registered. -/
theorem Lane.after_begun (none : lane.transfer = none) (blocks : ClientBlocks) :
    lane.stage.after (lane.said digest url (.downLoad blocks)) =
        some (lane.perform (.downLoad blocks)).stage ∧
      (lane.perform (.downLoad blocks)).Regular := by
  rcases lane with ⟨tmp, cache, transfer⟩
  cases none
  cases cached : cache.isSome with
  | true =>
      simp only [Lane.said, Lane.perform, cached, if_true]
      exact ⟨rfl, Lane.regular_of_none rfl⟩
  | false =>
      simp only [Lane.said, Lane.perform, cached, Bool.false_eq_true, if_false]
      exact ⟨rfl, Lane.regular_of_some rfl .unknown⟩

/-- The response of a waiting task. -/
theorem Lane.after_response (held : lane.transfer = some transfer)
    (waiting : transfer.phase = .waiting) {totalSize : ℤ} {io : LocalIO}
    (enough : (transfer.tmpSize : ℤ) ≤ totalSize) :
    lane.stage.after (lane.said digest url (.response totalSize io)) =
        some (lane.perform (.response totalSize io)).stage ∧
      (lane.perform (.response totalSize io)).Regular := by
  have stage : lane.stage = .waiting := by
    rw [Lane.stage_of_some held, Transfer.stage, waiting]
  rcases lt_or_eq_of_le enough with short | full
  · rw [Lane.said_opened held short, Lane.perform_opened held short, stage]
    exact ⟨rfl, Lane.regular_of_some rfl .downing⟩
  · rw [Lane.said_finished held full, Lane.perform_finished held full, stage]
    refine ⟨?_, Lane.regular_of_some rfl .success⟩
    rw [Lane.placement]
    split <;> rfl

/-- The events of a body under way. -/
theorem Lane.after_body (inStep : InStep transfer.state transfer.phase)
    (held : lane.transfer = some transfer) (allowed : transfer.phase = .allowed) :
    (lane.stage = .downing ∨ lane.stage = .paused) := by
  rw [Lane.stage_of_some held]
  rcases transfer with ⟨blocks, state, progress, tmpSize, totalSize, writes, offset, phase, _, _⟩
  cases inStep with
  | downing => exact Or.inl rfl
  | pause => exact Or.inr rfl
  | unknown | success => cases allowed

theorem Lane.Regular.after_switch (regular : lane.Regular) {source target : ZFDownLoaderState}
    {suspended : Bool}
    (between : source = .downing ∧ target = .pause ∨ source = .pause ∧ target = .downing) :
    lane.stage.after (lane.switchSaid source target) =
        some (lane.change (·.switch source target suspended)).stage ∧
      (lane.change (·.switch source target suspended)).Regular := by
  cases held : lane.transfer with
  | none =>
      rw [Lane.switchSaid, Lane.change, Lane.stage, held]
      exact ⟨rfl, Lane.regular_of_none rfl⟩
  | some transfer =>
      rcases @InStep.after_switch lane transfer (regular transfer held) held _ _ suspended
        between with ⟨follows, regular⟩
      rw [Lane.stage_of_some held, follows, Lane.change, held]
      exact ⟨rfl, Lane.regular_of_some rfl regular⟩

theorem Lane.Regular.after_data (regular : lane.Regular) (held : lane.transfer = some transfer)
    (allowed : transfer.phase = .allowed) (bytes : List UInt8) (io : LocalIO) :
    lane.stage.after (lane.said digest url (.data bytes io)) =
        some (lane.perform (.data bytes io)).stage ∧
      (lane.perform (.data bytes io)).Regular := by
  rw [Lane.said_data held, Lane.perform_data held]
  refine ⟨?_, Lane.regular_of_some rfl (regular transfer held)⟩
  have same : ∀ tmp, Lane.stage ⟨tmp, lane.cache, some (transfer.counted bytes.length)⟩ =
      lane.stage := fun _ => (Lane.stage_of_some held).symm
  rw [same]
  rcases Lane.after_body (regular transfer held) held allowed with body | body
  · rw [body]
    split <;> rfl
  · rw [body]
    split <;> rfl

theorem Lane.Regular.after_complete (regular : lane.Regular)
    (held : lane.transfer = some transfer) {error : Option NSError}
    (allowed : error = none → transfer.phase = .allowed) (io : LocalIO) :
    lane.stage.after (lane.said digest url (.complete error io)) =
        some (lane.perform (.complete error io)).stage ∧
      (lane.perform (.complete error io)).Regular := by
  cases error with
  | none =>
      refine ⟨?_, Lane.regular_of_none rfl⟩
      rw [Lane.said_complete_finished held, Lane.placement]
      rcases Lane.after_body (regular transfer held) held (allowed rfl) with body | body
      · rw [body]
        split <;> rfl
      · rw [body]
        split <;> rfl
  | some failure =>
      refine ⟨?_, Lane.regular_of_none rfl⟩
      rw [Lane.said_complete_failed held, Lane.stage_of_some held]
      rcases transfer with ⟨blocks, state, _, _, _, _, _, phase, _, _⟩
      cases regular _ held <;> rfl

/-- What a client hears of an action leads from the stage of the lane before it to the one
after it. -/
theorem Lane.Regular.step (regular : lane.Regular) (admitted : lane.Admits action)
    (alive : action ≠ .kill) :
    lane.stage.after (lane.said digest url action) = some (lane.perform action).stage ∧
      (lane.perform action).Regular := by
  cases action with
  | kill => exact absurd rfl alive
  | downLoad blocks =>
      cases held : lane.transfer with
      | none => exact Lane.after_begun held blocks
      | some transfer =>
          -- a registered download treats the call as `resume`
          have resumed := @Lane.Regular.after_switch lane regular _ _ false (Or.inr ⟨rfl, rfl⟩)
          simp only [Lane.said, Lane.perform, held]
          simpa only [Lane.change, held, Option.map_some] using resumed
  | pause => exact regular.after_switch (Or.inl ⟨rfl, rfl⟩)
  | resume => exact regular.after_switch (Or.inr ⟨rfl, rfl⟩)
  | cancel =>
      cases held : lane.transfer with
      | none =>
          simp only [Lane.said, Lane.perform, Lane.change, Lane.stage, held]
          exact ⟨rfl, Lane.regular_of_none rfl⟩
      | some transfer =>
          simp only [Lane.said, Lane.perform, Lane.change, Lane.stage, held]
          exact ⟨rfl, Lane.regular_of_some rfl (regular transfer held)⟩
  | response totalSize io =>
      rcases admitted with ⟨transfer, held, waiting, enough⟩
      exact Lane.after_response held waiting enough
  | data bytes io =>
      rcases admitted with ⟨transfer, held, allowed⟩
      exact regular.after_data held allowed bytes io
  | complete error io =>
      rcases admitted with ⟨transfer, held, allowed⟩
      exact regular.after_complete held allowed io

end Steps

section Runs

variable {digest : MessageDigest} {used : Set NSURL} {url : NSURL} {files : FileSystem Path}

theorem eq_kill_of_concern {world : World} {action : ManagerAction}
    (shown : world.concern digest url action = some .kill) : action = .kill := by
  cases action with
  | kill => rfl
  | deliver event =>
      rw [World.concern] at shown
      split at shown
      · cases event <;> cases shown
      · cases shown
  | call call =>
      cases call with
      | pauseAll | resumeAll | cancelAll => cases shown
      | downLoad | pause | resume | cancel =>
          rw [World.concern] at shown
          split at shown <;> cases shown

theorem lane_conversation {lane : Lane} {actions : List LaneAction} (idle : lane.transfer = none)
    (alive : ∀ action ∈ actions, action ≠ .kill) (runs : Lane.system.Runs lane actions) :
    Stage.idle.after (Lane.system.outputs (Lane.said digest url) lane actions).flatten =
      some (Lane.system.exec lane actions).stage := by
  have stage : lane.stage = .idle := by
    rw [Lane.stage, idle]
  have living : (Lane.system.restrict fun _ action => action ≠ .kill).Runs lane actions :=
    (ActionSystem.runs_restrict_iff _ _ _ _).mpr
      ⟨runs, (ActionSystem.along_iff_forall _ _ _ _).mpr alive⟩
  have followed := @ActionSystem.Runs.followed _ _ _ _
    (Lane.system.restrict fun _ action => action ≠ .kill) Lane.Regular (Lane.said digest url)
    Stage.hear Lane.stage
    (fun regular admitted => (@Lane.Regular.step digest url _ _ regular admitted.1 admitted.2).2)
    (fun regular admitted => (regular.step admitted.1 admitted.2).1) lane actions
    (Lane.regular_of_none idle) living
  rw [ActionSystem.outputs_restrict, stage] at followed
  exact followed

/-- In a run without restarts, what the client of a URL hears from a moment at which no download is
registered follows the protocol, up to the stage that the download is in; the app is not killed
meanwhile. -/
theorem run_conversation {earlier later : List ManagerAction} (apart : Apart digest used)
    (urlUsed : url ∈ used)
    (runs : ((managerSystem digest).restrict fun world action =>
      Uses used action ∧ Restartless world action).Runs (launch files) (earlier ++ later))
    (idle : ((managerSystem digest).exec (launch files) earlier).registered digest url = none)
    (alive : .kill ∉ later) :
    Stage.idle.after ((managerSystem digest).outputs (hears digest url)
        ((managerSystem digest).exec (launch files) earlier) later).flatten =
      some (((managerSystem digest).exec (launch files) (earlier ++ later)).lane digest
        url).stage := by
  rw [ActionSystem.runs_append] at runs
  have separate : Separate digest used ((managerSystem digest).exec (launch files) earlier) :=
    (separate_preserved apart).exec (separate_launch digest used files) runs.1
  rcases (projects_lane apart urlUsed).run separate runs.2 with ⟨laneRuns, view, told⟩
  rw [ActionSystem.seen_restrict] at laneRuns view told
  rw [ActionSystem.outputs_restrict] at told
  have view : ((managerSystem digest).exec ((managerSystem digest).exec (launch files) earlier)
      later).lane digest url = _ := view
  rw [told, ActionSystem.exec_append, view]
  apply lane_conversation _ _ laneRuns
  · rw [lane_of_unregistered idle]
  · rintro action member rfl
    rcases ActionSystem.mem_seen member with ⟨world, action, listed, shown⟩
    rw [eq_kill_of_concern shown] at listed
    exact alive listed

end Runs

theorem run_conversation_besideAnother :
    Stage.idle.after ((managerSystem exampleDigests).outputs (hears exampleDigests exampleURL)
        (launch emptyContainer) besideAnother).flatten =
      some (((managerSystem exampleDigests).exec (launch emptyContainer) besideAnother).lane
        exampleDigests exampleURL).stage :=
  @run_conversation _ _ _ _ [] besideAnother apart_examples (Or.inl rfl) runs_besideAnother rfl
    (by decide)

end ZFBaseFramework
