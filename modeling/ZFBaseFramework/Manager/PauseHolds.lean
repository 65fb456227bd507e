import ZFBaseFramework.Manager.Ownership

/-!
# When a pause holds

`pause` only acts in the state Downing, while a task runs from its creation on. So a
pause is lost exactly while the response to the current task is outstanding, which
is the state Unknown: `pauseHolds_iff`. In every other state the current task is
suspended or refused afterwards, and `Quiet` says why nothing comes of it.
-/

namespace ZFBaseFramework

open ZFFileManagerTool World

/-- A downloader announces Downing or appends to its tmp file. -/
def Breaks (loader : DownLoaderId) : Effect → Prop
  | .state other _ .downing => other = loader
  | .appended other _ _ => other = loader
  | _ => False

/-- Nothing is requested for the URL, and a suspended task delivers no response or data. -/
def Unresumed (digest : MessageDigest) (url : NSURL) (world : World) : ManagerAction → Prop
  | .call (.downLoad other _) => other.key digest ≠ url.key digest
  | .call (.resume other) => other.key digest ≠ url.key digest
  | .call (.cancel other) => other.key digest ≠ url.key digest
  | .call .resumeAll => False
  | .call .cancelAll => False
  | .deliver (.response task _ _) =>
      ∀ record, world.tasks task = some record → record.suspended = false
  | .deliver (.data task _ _) =>
      ∀ record, world.tasks task = some record → record.suspended = false
  | _ => True

/-- However the run goes on without a request for the URL, the pause is not broken. -/
def PauseHolds (digest : MessageDigest) (url : NSURL) (loader : DownLoaderId) (world : World) :
    Prop :=
  ∀ actions, ((managerSystem digest).restrict (Unresumed digest url)).Runs world actions →
    ∀ effect, world.Emits ((managerSystem digest).exec world actions) effect →
      ¬Breaks loader effect

/-- The calls that pause the download of a URL. -/
inductive Pauses (url : NSURL) : ManagerCall → Prop where
  | single : Pauses url (.pause url)
  | all : Pauses url .pauseAll

/-- No task of the downloader can deliver a body: one that waits for its response meets a tmp
size beyond every 64-bit length, and one that was allowed is suspended. -/
structure Quiet (digest : MessageDigest) (url : NSURL) (loader : DownLoaderId) (world : World) :
    Prop where
  used : loader < world.downLoaderCount
  key : ∀ {key}, world.downLoaderInfos.lookup key = some loader → key = url.key digest
  waiting : ∀ {task record}, world.tasks task = some record → record.delegate = loader →
    record.phase = .waiting → 2 ^ 63 ≤ (world.downLoaders loader).tmpSize + 1
  allowed : ∀ {task record}, world.tasks task = some record → record.delegate = loader →
    record.phase = .allowed → record.suspended = true

section Steps

variable {digest : MessageDigest} {url : NSURL} {loader : DownLoaderId} {world after : World}

namespace Quiet

/-- A step that starts nothing for the downloader and keeps its tmp size. -/
theorem of_tasks (quiet : Quiet digest url loader world)
    (count : world.downLoaderCount ≤ after.downLoaderCount)
    (keys : ∀ {key}, after.downLoaderInfos.lookup key = some loader →
      world.downLoaderInfos.lookup key = some loader)
    (tmpSize : (after.downLoaders loader).tmpSize = (world.downLoaders loader).tmpSize)
    (tasks : ∀ {task record}, after.tasks task = some record → record.delegate = loader →
      record.phase = .waiting ∨ record.phase = .allowed →
      ∃ before, world.tasks task = some before ∧ before.delegate = loader ∧
        before.phase = record.phase ∧ (before.suspended = true → record.suspended = true)) :
    Quiet digest url loader after := by
  constructor
  · exact quiet.used.trans_le count
  · intro key registered
    exact quiet.key (keys registered)
  · intro task record found delegate waiting
    rcases tasks found delegate (Or.inl waiting) with
      ⟨before, foundBefore, delegateBefore, phase, _⟩
    rw [tmpSize]
    exact quiet.waiting foundBefore delegateBefore (phase.trans waiting)
  · intro task record found delegate allowed
    rcases tasks found delegate (Or.inr allowed) with
      ⟨before, foundBefore, delegateBefore, phase, suspended⟩
    exact suspended (quiet.allowed foundBefore delegateBefore (phase.trans allowed))

theorem switch (quiet : Quiet digest url loader world) (owned : Owned world)
    {other : DownLoaderId} {source target : ZFDownLoaderState} {suspended : Bool}
    (harmless : suspended = true ∨ other ≠ loader) :
    Quiet digest url loader (world.switch other source target suspended) := by
  apply quiet.of_tasks downLoaderCount_switch.ge
  · intro key registered
    rwa [downLoaderInfos_switch] at registered
  · rw [downLoaders_switch]
    exact field_update ZFDownLoader.tmpSize (by rfl) loader
  · intro task record found delegate _
    rcases exists_of_switch found with ⟨before, foundBefore, rfl | ⟨rfl, current⟩⟩
    · exact ⟨record, foundBefore, delegate, rfl, id⟩
    · refine ⟨before, foundBefore, delegate, rfl, fun _ => ?_⟩
      rcases harmless with suspends | apart
      · exact suspends
      · rcases owned.current current with ⟨held, foundHeld, delegateHeld⟩
        cases foundBefore.symm.trans foundHeld
        exact absurd (delegateHeld.symm.trans delegate) apart

theorem cancel (quiet : Quiet digest url loader world) (other : DownLoaderId) :
    Quiet digest url loader (world.cancel other) := by
  apply quiet.of_tasks downLoaderCount_cancel.ge
  · intro key registered
    rwa [downLoaderInfos_cancel] at registered
  · rw [downLoaders_cancel]
    exact field_update ZFDownLoader.tmpSize (by rfl) loader
  · intro task record found delegate _
    simp only [tasks_cancel, Option.map_eq_some_iff] at found
    rcases found with ⟨before, foundBefore, rfl⟩
    rcases marked_eq world other before with ⟨cancelled, marked⟩
    rw [marked] at delegate ⊢
    exact ⟨before, foundBefore, delegate, rfl, id⟩

theorem begin (quiet : Quiet digest url loader world) {other : NSURL} {blocks : ClientBlocks}
    (unregistered : world.registered digest other = none) :
    Quiet digest url loader (world.begin digest other blocks) ∧
      Without (Breaks loader) world (world.begin digest other blocks) := by
  have old := quiet.used.ne
  by_cases occupied : world.files.Occupied other.cachePath
  · have begins := begin_cached blocks unregistered occupied
    constructor
    · apply quiet.of_tasks
      · rw [begins.downLoaderCount]
        exact Nat.le_succ _
      · intro key registered
        rwa [begins.lookup] at registered
      · rw [begins.downLoaders, Function.update_of_ne old]
      · intro task record found delegate _
        rw [begins.tasks] at found
        exact ⟨record, found, delegate, rfl, id⟩
    · refine ⟨_, begins.log, ?_⟩
      simp [Breaks]
  · have begins := begin_task digest blocks occupied
    constructor
    · apply quiet.of_tasks
      · rw [begins.downLoaderCount]
        exact Nat.le_succ _
      · intro key registered
        rw [begins.lookup] at registered
        split at registered
        · cases registered
          exact absurd rfl old
        · exact registered
      · rw [begins.downLoaders, Function.update_of_ne old]
      · intro task record found delegate _
        by_cases fresh : task = world.taskCount
        · subst fresh
          rw [begins.tasks, Function.update_self, Option.some.injEq] at found
          subst found
          exact absurd delegate.symm old
        · rw [begins.tasks, Function.update_of_ne fresh, tasks_cancel] at found
          simp only [Option.map_eq_some_iff] at found
          rcases found with ⟨before, foundBefore, rfl⟩
          rcases marked_eq (world.register (other.key digest)) world.downLoaderCount before with
            ⟨cancelled, marked⟩
          rw [marked] at delegate ⊢
          exact ⟨before, foundBefore, delegate, rfl, id⟩
    · refine ⟨_, begins.log, ?_⟩
      simp [Breaks]

/-- An event of another downloader's task. -/
theorem of_touches (quiet : Quiet digest url loader world) {other : DownLoaderId}
    {fields : ZFDownLoader} {task : TaskId} {changed : DataTask} (apart : loader ≠ other)
    (touches : world.Touches after other fields task changed) (delegate : changed.delegate = other)
    (keys : ∀ {key}, after.downLoaderInfos.lookup key = some loader →
      world.downLoaderInfos.lookup key = some loader) : Quiet digest url loader after := by
  apply quiet.of_tasks touches.downLoaderCount.ge keys
  · rw [touches.downLoaders, Function.update_of_ne apart]
  · intro current record found delegated _
    by_cases same : current = task
    · subst same
      rw [touches.tasks, Function.update_self, Option.some.injEq] at found
      subst found
      exact absurd (delegated.symm.trans delegate) apart
    · rw [touches.tasks, Function.update_of_ne same] at found
      exact ⟨record, found, delegated, rfl, id⟩

/-- An event after which the downloader's task can deliver no more of a response or body. -/
theorem of_settled (quiet : Quiet digest url loader world) {fields : ZFDownLoader}
    {task : TaskId} {changed : DataTask}
    (touches : world.Touches after loader fields task changed)
    (settled : changed.phase ≠ .waiting ∧ changed.phase ≠ .allowed)
    (tmpSize : fields.tmpSize = (world.downLoaders loader).tmpSize)
    (keys : ∀ {key}, after.downLoaderInfos.lookup key = some loader →
      world.downLoaderInfos.lookup key = some loader) : Quiet digest url loader after := by
  apply quiet.of_tasks touches.downLoaderCount.ge keys
  · rw [touches.downLoaders, Function.update_self, tmpSize]
  · intro current record found delegated running
    by_cases same : current = task
    · subst same
      rw [touches.tasks, Function.update_self, Option.some.injEq] at found
      subst found
      rcases running with waiting | allowed
      · exact absurd waiting settled.1
      · exact absurd allowed settled.2
    · rw [touches.tasks, Function.update_of_ne same] at found
      exact ⟨record, found, delegated, rfl, id⟩

theorem restarted (quiet : Quiet digest url loader world) {task : TaskId} {record : DataTask}
    {response : NSHTTPURLResponse} {io : LocalIO} (found : world.tasks task = some record)
    (waiting : record.phase = .waiting)
    (oversized : response.totalSize < (world.downLoaders record.delegate).tmpSize) :
    Quiet digest url loader (world.deliver (.response task response io)) := by
  rcases deliver_restarted_spec io found oversized with
    ⟨downLoaders, tasks, _, downLoaderCount, infos⟩
  have tmpSize : ((world.deliver (.response task response io)).downLoaders loader).tmpSize =
      (world.downLoaders loader).tmpSize := by
    rw [downLoaders]
    exact field_update ZFDownLoader.tmpSize (by rfl) loader
  have origin : ∀ {other otherRecord},
      (world.deliver (.response task response io)).tasks other = some otherRecord →
      otherRecord = world.restartedTask record.delegate response.url ∨
        otherRecord.phase = .refused ∨ world.tasks other = some otherRecord := by
    intro other otherRecord otherFound
    rw [tasks, Function.update_apply, Function.update_apply] at otherFound
    split at otherFound
    · exact Or.inl (Option.some.inj otherFound).symm
    · split at otherFound
      · exact Or.inr (Or.inl (Option.some.inj otherFound ▸ rfl))
      · exact Or.inr (Or.inr otherFound)
  constructor
  · rw [downLoaderCount]
    exact quiet.used
  · intro key registered
    rw [infos] at registered
    exact quiet.key registered
  · intro other otherRecord otherFound delegate otherWaiting
    rw [tmpSize]
    rcases origin otherFound with rfl | refused | old
    · exact quiet.waiting found delegate waiting
    · rw [refused] at otherWaiting
      cases otherWaiting
    · exact quiet.waiting old delegate otherWaiting
  · intro other otherRecord otherFound delegate allowed
    rcases origin otherFound with rfl | refused | old
    · cases allowed
    · rw [refused] at allowed
      cases allowed
    · exact quiet.allowed old delegate allowed

theorem response (quiet : Quiet digest url loader world) {task : TaskId}
    {response : NSHTTPURLResponse} {io : LocalIO}
    (deliverable : world.Deliverable (.response task response io)) :
    Quiet digest url loader (world.deliver (.response task response io)) ∧
      Without (Breaks loader) world (world.deliver (.response task response io)) := by
  rcases exists_of_response deliverable with ⟨record, found, waiting⟩
  have infos := downLoaderInfos_response response io found
  have keys : ∀ {key}, (world.deliver (.response task response io)).downLoaderInfos.lookup key =
      some loader → world.downLoaderInfos.lookup key = some loader := by
    intro key registered
    rwa [infos] at registered
  rcases lt_trichotomy ((world.downLoaders record.delegate).tmpSize : ℤ) response.totalSize with
    short | full | oversized
  · have apart : loader ≠ record.delegate := by
      rintro rfl
      have saturated := quiet.waiting found rfl waiting
      have bounded := response.totalSize_lt
      omega
    refine ⟨quiet.of_touches apart (touches_opened io found short) rfl keys, _,
      log_opened io found short, ?_⟩
    simp [Breaks, apart.symm]
  · refine ⟨?_, _, log_finished io found full, ?_⟩
    · by_cases mine : loader = record.delegate
      · subst mine
        exact quiet.of_settled (touches_finished io found full) (by simp) rfl keys
      · exact quiet.of_touches mine (touches_finished io found full) rfl keys
    · rw [placement]
      split <;> simp [Breaks]
  · refine ⟨quiet.restarted found waiting oversized, _, log_restarted io found oversized, ?_⟩
    rw [removal]
    split <;> simp [Breaks]

theorem data (quiet : Quiet digest url loader world) {task : TaskId} {bytes : List UInt8}
    {io : LocalIO} (deliverable : world.Deliverable (.data task bytes io))
    (running : ∀ record, world.tasks task = some record → record.suspended = false) :
    Quiet digest url loader (world.deliver (.data task bytes io)) ∧
      Without (Breaks loader) world (world.deliver (.data task bytes io)) := by
  rcases exists_of_data deliverable with ⟨record, found, allowed⟩
  have apart : loader ≠ record.delegate := by
    rintro rfl
    have suspended := quiet.allowed found rfl allowed
    rw [running record found] at suspended
    cases suspended
  refine ⟨quiet.of_touches apart (touches_data bytes io found) rfl ?_, _, log_data bytes io found,
    ?_⟩
  · intro key registered
    rwa [downLoaderInfos_data bytes io found] at registered
  · split <;> simp [Breaks, apart.symm]

theorem complete (quiet : Quiet digest url loader world) {task : TaskId}
    {error : Option NSError} {io : LocalIO}
    (deliverable : world.Deliverable (.complete task error io)) :
    Quiet digest url loader (world.deliver (.complete task error io)) ∧
      Without (Breaks loader) world (world.deliver (.complete task error io)) := by
  rcases exists_of_complete deliverable with ⟨record, found, _, _⟩
  have touches := touches_complete error io found
  have keys : ∀ {key}, (world.deliver (.complete task error io)).downLoaderInfos.lookup key =
      some loader → world.downLoaderInfos.lookup key = some loader := by
    intro key registered
    rw [downLoaderInfos_complete error io found, lookup_withoutKey] at registered
    split at registered
    · cases registered
    · exact registered
  constructor
  · by_cases mine : loader = record.delegate
    · subst mine
      exact quiet.of_settled touches (by simp) rfl keys
    · exact quiet.of_touches mine touches rfl keys
  · cases error with
    | none =>
        refine ⟨_, log_complete_finished io found, ?_⟩
        rw [placement]
        split <;> simp [Breaks]
    | some failure =>
        refine ⟨_, log_complete_failed io found failure, ?_⟩
        simp [Breaks]

theorem kill (quiet : Quiet digest url loader world) : Quiet digest url loader world.kill where
  used := quiet.used
  key := nofun
  waiting := by
    intro task record found _ waiting
    simp only [World.kill, Option.map_eq_some_iff] at found
    rcases found with ⟨before, _, rfl⟩
    cases waiting
  allowed := by
    intro task record found _ allowed
    simp only [World.kill, Option.map_eq_some_iff] at found
    rcases found with ⟨before, _, rfl⟩
    cases allowed

theorem call (quiet : Quiet digest url loader world) (owned : Owned world) {call : ManagerCall}
    (unresumed : Unresumed digest url world (.call call)) :
    Quiet digest url loader (world.call digest call) ∧
      Without (Breaks loader) world (world.call digest call) := by
  have apart : ∀ {other : NSURL} {registered}, other.key digest ≠ url.key digest →
      world.registered digest other = some registered → registered ≠ loader := by
    rintro other registered different found rfl
    exact different (quiet.key found)
  cases call with
  | downLoad other blocks =>
      cases found : world.registered digest other with
      | none =>
          rw [World.call, managerDownLoadWithURL_unregistered found]
          exact quiet.begin found
      | some registered =>
          rw [World.call, managerDownLoadWithURL_registered found]
          have different := apart unresumed found
          exact ⟨quiet.switch owned (Or.inr different), without_switch fun _ => different⟩
  | resume other =>
      apply send_induction (motive := fun after =>
        Quiet digest url loader after ∧ Without (Breaks loader) world after) ⟨quiet, .of_eq rfl⟩
      intro registered found
      have different := apart unresumed found
      exact ⟨quiet.switch owned (Or.inr different), without_switch fun _ => different⟩
  | cancel other =>
      apply send_induction (motive := fun after =>
        Quiet digest url loader after ∧ Without (Breaks loader) world after) ⟨quiet, .of_eq rfl⟩
      intro registered found
      exact ⟨quiet.cancel registered, .of_eq log_cancel⟩
  | pause other =>
      apply send_induction (motive := fun after =>
        Quiet digest url loader after ∧ Without (Breaks loader) world after) ⟨quiet, .of_eq rfl⟩
      intro registered found
      exact ⟨quiet.switch owned (Or.inl rfl), without_switch fun _ => id⟩
  | pauseAll =>
      have paused : Owned (world.sendAll World.pause) ∧
          Quiet digest url loader (world.sendAll World.pause) ∧
          Without (Breaks loader) world (world.sendAll World.pause) := by
        apply sendAll_induction (motive := fun after =>
          Owned after ∧ Quiet digest url loader after ∧ Without (Breaks loader) world after)
          ⟨owned, quiet, .of_eq rfl⟩
        rintro middle other ⟨ownedMiddle, quietMiddle, silent⟩
        exact ⟨ownedMiddle.switch other (Or.inl ⟨rfl, rfl, rfl⟩),
          quietMiddle.switch ownedMiddle (Or.inl rfl), silent.trans (without_switch fun _ => id)⟩
      exact paused.2
  | resumeAll => exact unresumed.elim
  | cancelAll => exact unresumed.elim

end Quiet

/-- Quiet downloaders stay quiet and silent. -/
theorem quiet_preserved (digest : MessageDigest) (url : NSURL) (loader : DownLoaderId)
    (start : World) :
    ((managerSystem digest).restrict (Unresumed digest url)).Preserves fun world =>
      Owned world ∧ Quiet digest url loader world ∧ Without (Breaks loader) start world := by
  rintro world action ⟨owned, quiet, silent⟩ ⟨admitted, unresumed⟩
  refine ⟨owned_preserved digest world action owned admitted, ?_⟩
  have step : Quiet digest url loader ((managerSystem digest).perform world action) ∧
      Without (Breaks loader) world ((managerSystem digest).perform world action) := by
    cases action with
    | call call => exact quiet.call owned unresumed
    | deliver event =>
        cases event with
        | response task response io => exact quiet.response admitted
        | data task bytes io => exact quiet.data admitted unresumed
        | complete task error io => exact quiet.complete admitted
    | kill => exact ⟨quiet.kill, .of_eq rfl⟩
  exact ⟨step.1, silent.trans step.2⟩

theorem Quiet.pauseHolds (quiet : Quiet digest url loader world) (owned : Owned world) :
    PauseHolds digest url loader world := by
  intro actions runs effect emitted
  have invariant := (quiet_preserved digest url loader world).exec
    ⟨owned, quiet, .of_eq rfl⟩ runs
  exact invariant.2.2.not_of_emits emitted

/-- Pausing a list of downloaders reaches the members in the state Downing. -/
theorem state_foldl_pause (loaders : List DownLoaderId) :
    ((loaders.foldl World.pause world).downLoaders loader).state =
      if loader ∈ loaders ∧ (world.downLoaders loader).state = .downing then .pause
      else (world.downLoaders loader).state := by
  induction loaders generalizing world with
  | nil => simp
  | cons first rest ih =>
      rw [List.foldl_cons, ih, World.pause, downLoaders_switch]
      by_cases mine : loader = first
      · subst mine
        by_cases downing : (world.downLoaders loader).state = .downing <;> simp [downing]
      · simp [mine]

/-- What a pausing call does to a registered downloader. -/
theorem call_pauses {call : ManagerCall} (registered : world.registered digest url = some loader)
    (pauses : Pauses url call) :
    (world.call digest call).registered digest url = some loader ∧
      ((world.call digest call).downLoaders loader).tmpSize =
        (world.downLoaders loader).tmpSize ∧
      ((world.call digest call).downLoaders loader).state =
        if (world.downLoaders loader).state = .downing then .pause
        else (world.downLoaders loader).state := by
  have member : loader ∈ world.downLoaderInfos.entries.map Sigma.snd := by
    rw [World.registered, ← Option.mem_def, AList.mem_lookup_iff] at registered
    exact List.mem_map.mpr ⟨_, registered, rfl⟩
  cases pauses with
  | single =>
      have single : world.call digest (.pause url) = world.pause loader := by
        simp [World.call, send, registered]
      rw [single]
      refine ⟨?_, ?_, ?_⟩
      · rw [World.registered, World.pause, downLoaderInfos_switch]
        exact registered
      · rw [World.pause, downLoaders_switch, Function.update_self]
      · rw [World.pause, downLoaders_switch, Function.update_self]
  | all =>
      refine ⟨?_, ?_, ?_⟩
      · apply sendAll_induction (motive := fun after =>
          after.registered digest url = some loader) registered
        intro middle other kept
        rw [World.registered, World.pause, downLoaderInfos_switch]
        exact kept
      · apply sendAll_induction (motive := fun after =>
          (after.downLoaders loader).tmpSize = (world.downLoaders loader).tmpSize) rfl
        intro middle other kept
        rw [World.pause, downLoaders_switch, ← kept]
        exact field_update ZFDownLoader.tmpSize (by rfl) loader
      · rw [World.call, sendAll, state_foldl_pause]
        simp [member]

/-- A registered downloader is quiet unless it is downing or waits for a response. -/
theorem Owned.quiet (owned : Owned world) (registered : world.registered digest url = some loader)
    (notDowning : (world.downLoaders loader).state ≠ .downing)
    (saturated : (world.downLoaders loader).state = .unknown →
      2 ^ 63 ≤ (world.downLoaders loader).tmpSize + 1) : Quiet digest url loader world := by
  have entry := owned.entry registered
  rcases entry.mirrors with ⟨current, currentRecord, held, currentFound, mirrors⟩
  have active : ∀ {task record}, world.tasks task = some record → record.delegate = loader →
      record.phase = .waiting ∨ record.phase = .allowed → record = currentRecord := by
    rintro task record found rfl running
    have same := owned.active found running
    rw [held, Option.some.injEq] at same
    subst same
    exact Option.some.inj (found.symm.trans currentFound)
  constructor
  · exact entry.used
  · intro key other
    have keyed := (owned.entry other).success
    rw [entry.success, Option.some.injEq] at keyed
    exact keyed.symm
  · intro task record found delegate waiting
    rw [active found delegate (Or.inl waiting)] at waiting
    exact saturated (mirrors.of_waiting waiting).1
  · intro task record found delegate allowed
    have same := active found delegate (Or.inr allowed)
    rw [same] at allowed ⊢
    exact (mirrors.of_allowed allowed).resolve_left notDowning

/-- A response to the outstanding request announces Downing. -/
theorem not_pauseHolds (owned : Owned world)
    (registered : world.registered digest url = some loader)
    (unknown : (world.downLoaders loader).state = .unknown)
    (small : (world.downLoaders loader).tmpSize + 1 < 2 ^ 63) :
    ¬PauseHolds digest url loader world := by
  rcases (owned.entry registered).mirrors with ⟨task, record, held, found, mirrors⟩
  rcases owned.current held with ⟨heldRecord, heldFound, delegate⟩
  cases found.symm.trans heldFound
  have standing := mirrors.of_unknown unknown
  have fits : (StatedReply.mk 200 (some ((world.downLoaders loader).tmpSize + 1)) none).Fits :=
    ⟨by rintro other ⟨rfl⟩; exact small, by rintro range other ⟨⟩⟩
  have short : ((world.downLoaders record.delegate).tmpSize : ℤ) <
      ((StatedReply.mk 200 (some ((world.downLoaders loader).tmpSize + 1)) none).render
        url).totalSize := by
    rw [StatedReply.totalSize_render fits, delegate]
    exact_mod_cast Nat.lt_succ_self _
  intro holds
  apply holds [.deliver (.response task
    ((StatedReply.mk 200 (some ((world.downLoaders loader).tmpSize + 1)) none).render url)
    .healthy)] ?_ (.state loader (world.downLoaders loader).dloadStateChange .downing) ?_ rfl
  · refine ⟨⟨?_, ?_⟩, trivial⟩
    · exact (phaseOf_eq found).trans (congrArg some standing.1)
    · rintro other otherFound
      cases found.symm.trans otherFound
      exact standing.2
  · refine ⟨_, log_opened .healthy found short, ?_⟩
    simp [delegate]

/-- A pause of a registered download holds exactly if it does not fall between a request and
its response. -/
theorem pauseHolds_iff {files : FileSystem Path} {call : ManagerCall}
    (reachable : (managerSystem digest).Reachable (launch files) world)
    (registered : world.registered digest url = some loader) (pauses : Pauses url call) :
    PauseHolds digest url loader (world.call digest call) ↔
      ¬((world.downLoaders loader).state = .unknown ∧
        (world.downLoaders loader).tmpSize + 1 < 2 ^ 63) := by
  have owned := (owned_reachable reachable).call digest call
  rcases call_pauses registered pauses with ⟨registeredAfter, tmpSize, state⟩
  constructor
  · rintro holds ⟨unknown, small⟩
    apply not_pauseHolds owned registeredAfter _ _ holds
    · simp [state, unknown]
    · rwa [tmpSize]
  · intro honoured
    apply (owned.quiet registeredAfter _ _).pauseHolds owned
    · rw [state]
      split
      · decide
      · assumption
    · rw [state, tmpSize]
      split
      · nofun
      · intro unknown
        by_contra small
        exact honoured ⟨unknown, by omega⟩

end Steps

/-- Two of the example's five bytes have arrived, and its download is paused. -/
def midway : List ManagerAction :=
  [.call (.downLoad exampleURL exampleBlocks),
   .deliver (.response 0 ((StatedReply.mk 200 (some 5) none).render exampleURL) .healthy),
   .deliver (.data 0 [1, 2] .healthy)]

theorem pauseHolds_midway :
    PauseHolds exampleDigest exampleURL 0
        (((managerSystem exampleDigest).exec (launch emptyContainer) midway).call exampleDigest
          (.pause exampleURL)) ↔
      ¬((((managerSystem exampleDigest).exec (launch emptyContainer) midway).downLoaders 0).state =
          .unknown ∧
        (((managerSystem exampleDigest).exec (launch emptyContainer) midway).downLoaders 0).tmpSize
          + 1 < 2 ^ 63) :=
  pauseHolds_iff ⟨midway, by decide, rfl⟩ (by decide) .single

/-- A pause right after the download call is lost: the response announces Downing. -/
theorem early_pause_lost :
    ((exampleStart []).registered exampleDigest exampleURL = some 0) ∧
      ¬PauseHolds exampleDigest exampleURL 0
        ((exampleStart []).call exampleDigest (.pause exampleURL)) := by
  refine ⟨by decide, ?_⟩
  intro holds
  apply holds [.deliver (.response 0 ((StatedReply.mk 200 (some 5) none).render exampleURL)
    .healthy)] ⟨⟨by decide, ?_⟩, trivial⟩ (.state 0 (some 1) .downing)
    ⟨[.state 0 (some 1) .downing, .info 0 (some 0) 5 0], rfl, by simp⟩ rfl
  rintro record found
  cases found
  rfl

end ZFBaseFramework
