import ZFBaseFramework.DownLoader.Download

/-!
# Events of earlier downloads

A downloader that is called again keeps hearing from the tasks of its earlier calls.
`Reuse` numbers the downloads of one downloader and notes for which of them a task was
started; a call that finds its own task under way continues the download. By
`staleHarmless_iff` the events of earlier downloads are harmless in exactly the runs in
which each of them finds everything done that it would do, and no block to call.
-/

namespace ZFBaseFramework

open ZFFileManagerTool World

/-- What can happen to a downloader that is used again. -/
inductive ReuseAction where
  | downLoad (url : NSURL) (blocks : DownLoadBlocks)
  | deliver (event : DelegateEvent)
  deriving DecidableEq

/-- The app with the number of the current download and the downloads its tasks belong to. -/
structure Reuse where
  world : World
  download : ℕ
  startedFor : TaskId → ℕ

namespace Reuse

/-- The app before the first download. -/
def launch (files : FileSystem Path) : Reuse := ⟨World.launch files, 0, fun _ => 0⟩

/-- A step to a world in which a download is current; its new tasks belong to `owner`. -/
def advance (state : Reuse) (after : World) (download owner : ℕ) : Reuse where
  world := after
  download := download
  startedFor task :=
    if state.world.taskCount ≤ task ∧ task < after.taskCount then owner
    else state.startedFor task

/-- The number of the download after a call: a call that keeps its task continues it. -/
def called (state : Reuse) (url : NSURL) : ℕ :=
  if state.world.Keeps 0 url then state.download else state.download + 1

/-- The event of a task that was started for an earlier download. -/
def Stale (state : Reuse) : ReuseAction → Prop
  | .downLoad _ _ => False
  | .deliver event => state.startedFor event.task ≠ state.download

instance (state : Reuse) : ∀ action, Decidable (state.Stale action)
  | .downLoad _ _ => isFalse id
  | .deliver event => inferInstanceAs (Decidable (state.startedFor event.task ≠ state.download))

end Reuse

/-- The runs of one downloader that is called again and again. -/
def reuseSystem (digest : MessageDigest) : ActionSystem Reuse ReuseAction where
  Admits state
    | .downLoad _ _ => True
    | .deliver event => state.world.Deliverable event
  perform state
    | .downLoad url blocks =>
        state.advance (state.world.downLoadWithURLBlocks digest 0 url blocks) (state.called url)
          (state.called url)
    | .deliver event =>
        state.advance (state.world.deliver event) state.download (state.startedFor event.task)

instance (digest : MessageDigest) (state : Reuse) :
    ∀ action, Decidable ((reuseSystem digest).Admits state action)
  | .downLoad _ _ => isTrue trivial
  | .deliver event => inferInstanceAs (Decidable (state.world.Deliverable event))

/-- The effects that a client or a server notices. -/
def Effect.isReport : Effect → Bool
  | .called _ _ => true
  | .requested _ _ _ _ => true
  | .info _ block _ _ => block.isSome
  | .state _ block _ => block.isSome
  | .success _ block _ => block.isSome
  | .fail _ block => block.isSome
  | .appended _ _ _ => false
  | .placed _ _ => false
  | .removed _ _ => false

/-- The calls, requests and called blocks of a log. -/
def reports (log : List Effect) : List Effect :=
  log.filter Effect.isReport

/-- What can be observed of a downloader and its files. -/
structure Observation where
  state : ZFDownLoaderState
  progress : CGFloat
  tmpSize : ℕ
  totalSize : ℤ
  outputSream : Option NSOutputStream
  files : FileSystem Path
  reports : List Effect

/-- The observation of the downloader. -/
def observe (world : World) : Observation where
  state := (world.downLoaders 0).state
  progress := (world.downLoaders 0).progress
  tmpSize := (world.downLoaders 0).tmpSize
  totalSize := (world.downLoaders 0).totalSize
  outputSream := (world.downLoaders 0).outputSream
  files := world.files
  reports := reports world.log

/-- Stale events change nothing, and the run without them looks the same. -/
structure StaleHarmless (digest : MessageDigest) (start : Reuse) (actions : List ReuseAction) :
    Prop where
  unchanged : (reuseSystem digest).Along (fun state action => state.Stale action →
    observe ((reuseSystem digest).perform state action).world = observe state.world) start actions
  runs : (reuseSystem digest).Runs start ((reuseSystem digest).audible Reuse.Stale start actions)
  same : observe ((reuseSystem digest).exec start
      ((reuseSystem digest).audible Reuse.Stale start actions)).world =
    observe ((reuseSystem digest).exec start actions).world

/-- A move of the tmp file would be carried out. -/
def WouldMove (world : World) (io : LocalIO) : Prop :=
  io.moves = true ∧ CanMove world.files (world.downLoaders 0).downLoadTmpPath
    (world.downLoaders 0).downLoadCachePath

/-- The stream that opening the tmp file of a downloader gives is there already. -/
structure Opened (world : World) (io : LocalIO) : Prop where
  present : ∀ path, (world.downLoaders 0).downLoadTmpPath = some path → io.opens = true →
    world.files.Occupied path
  stream : (world.downLoaders 0).outputSream = some
    ⟨if io.opens then (world.downLoaders 0).downLoadTmpPath.bind world.files.writable else none⟩

/-- Everything the event would do is done already, and there is no block for it to call. -/
def Inert (world : World) : DelegateEvent → Prop
  | .response _ response io =>
      (world.downLoaders 0).dloadInfo = none ∧ (world.downLoaders 0).dloadStateChange = none ∧
        (world.downLoaders 0).totalSize = response.totalSize ∧
        (((world.downLoaders 0).tmpSize : ℤ) = response.totalSize ∧
            (world.downLoaders 0).state = .success ∧ ¬WouldMove world io ∨
          ((world.downLoaders 0).tmpSize : ℤ) < response.totalSize ∧
            (world.downLoaders 0).state = .downing ∧ Opened world io)
  | .data _ bytes _ =>
      (world.downLoaders 0).dloadInfo = none ∧ bytes = [] ∧
        (world.downLoaders 0).progress =
          .quotient (world.downLoaders 0).tmpSize (world.downLoaders 0).totalSize
  | .complete _ error io =>
      (world.downLoaders 0).dloadStateChange = none ∧
        outcomeBlock (world.downLoaders 0) error = none ∧
        (world.downLoaders 0).state = finalState error ∧
        (world.downLoaders 0).outputSream = none ∧ (error = none → ¬WouldMove world io)

/-- Every task was created by the one downloader. -/
def Single (world : World) : Prop :=
  ∀ task record, world.tasks task = some record → record.delegate = 0

theorem reports_append_eq_iff (fresh log : List Effect) :
    reports (fresh ++ log) = reports log ↔ ∀ effect ∈ fresh, effect.isReport = false := by
  simp [reports]

theorem observe_eq_iff {before after : World} :
    observe after = observe before ↔
      (after.downLoaders 0).state = (before.downLoaders 0).state ∧
      (after.downLoaders 0).progress = (before.downLoaders 0).progress ∧
      (after.downLoaders 0).tmpSize = (before.downLoaders 0).tmpSize ∧
      (after.downLoaders 0).totalSize = (before.downLoaders 0).totalSize ∧
      (after.downLoaders 0).outputSream = (before.downLoaders 0).outputSream ∧
      after.files = before.files ∧ reports after.log = reports before.log := by
  simp [observe]

/-- A move that is carried out is noticed. -/
theorem moveFile_eq_self_iff {files : FileSystem Path} {source target : Option Path} :
    moveFile files source target = files ↔ ¬CanMove files source target := by
  constructor
  · rintro same movable
    cases source with
    | none => exact movable
    | some source =>
        cases target with
        | none => exact movable
        | some target =>
            have movable : files.Movable source target := movable
            rw [moveFile, if_pos movable] at same
            have moved := FileSystem.lookup_move files source target target
            rw [same, if_pos rfl] at moved
            apply movable.2
            rw [FileSystem.Occupied, moved]
            exact movable.1
  · intro stuck
    cases source with
    | none => rfl
    | some source =>
        cases target with
        | none => rfl
        | some target => exact if_neg stuck

theorem moved_eq_self_iff {world : World} {io : LocalIO} :
    (if io.moves then moveFile world.files (world.downLoaders 0).downLoadTmpPath
      (world.downLoaders 0).downLoadCachePath else world.files) = world.files ↔
      ¬WouldMove world io := by
  rw [WouldMove]
  split
  · rename_i moves
    rw [moveFile_eq_self_iff]
    simp [moves]
  · rename_i still
    simp [still]

/-- Opening the tmp file is noticed unless the file and the stream are there already. -/
theorem opened_iff {world : World} {io : LocalIO} :
    some (NSOutputStream.openAppending world.files (world.downLoaders 0).downLoadTmpPath io).2 =
        (world.downLoaders 0).outputSream ∧
      (NSOutputStream.openAppending world.files (world.downLoaders 0).downLoadTmpPath io).1 =
        world.files ↔ Opened world io := by
  cases held : (world.downLoaders 0).downLoadTmpPath with
  | none =>
      constructor
      · rintro ⟨stream, _⟩
        refine ⟨by simp [held], ?_⟩
        rw [← stream, held]
        simp [NSOutputStream.openAppending]
      · rintro ⟨_, stream⟩
        rw [stream, held]
        simp [NSOutputStream.openAppending]
  | some path =>
      by_cases opens : io.opens = true
      · constructor
        · rintro ⟨stream, same⟩
          simp only [NSOutputStream.openAppending, opens, if_true] at stream same
          refine ⟨?_, ?_⟩
          · rintro other named _
            cases held.symm.trans named
            exact FileSystem.touch_eq_self_iff.mp same
          · rw [← stream, same, held, if_pos opens]
            rfl
        · rintro ⟨present, stream⟩
          have same := FileSystem.touch_eq_self_iff.mpr (present path held opens)
          simp only [NSOutputStream.openAppending, opens, if_true]
          rw [stream, held, if_pos opens, same]
          exact ⟨rfl, rfl⟩
      · constructor
        · rintro ⟨stream, _⟩
          refine ⟨fun _ _ opening => absurd opening opens, ?_⟩
          rw [← stream, if_neg opens]
          simp [NSOutputStream.openAppending, opens]
        · rintro ⟨_, stream⟩
          rw [stream, if_neg opens]
          simp [NSOutputStream.openAppending, opens]

section Observing

variable {world : World} {task : TaskId} {record : DataTask}

theorem observe_finished_iff {response : NSHTTPURLResponse} {io : LocalIO}
    (found : world.tasks task = some record) (mine : record.delegate = 0)
    (full : ((world.downLoaders 0).tmpSize : ℤ) = response.totalSize) :
    observe (world.deliver (.response task response io)) = observe world ↔
      Inert world (.response task response io) := by
  rw [← mine] at full
  have fields := (touches_finished io found full).downLoaders
  have logged := log_finished io found full
  have files := files_finished io found full
  rw [mine] at fields logged files full
  rw [observe_eq_iff, fields, Function.update_self, files, moved_eq_self_iff, logged,
    reports_append_eq_iff]
  constructor
  · rintro ⟨state, _, _, total, _, still, quiet⟩
    have info := quiet (.info 0 (world.downLoaders 0).dloadInfo response.totalSize 0) (by simp)
    have announced := quiet (.state 0 (world.downLoaders 0).dloadStateChange .success) (by simp)
    exact ⟨by simpa [Effect.isReport] using info, by simpa [Effect.isReport] using announced,
      total.symm, Or.inl ⟨full, state.symm, still⟩⟩
  · rintro ⟨info, announced, total, ⟨_, state, still⟩ | ⟨short, _⟩⟩
    · refine ⟨state.symm, rfl, rfl, total.symm, rfl, still, ?_⟩
      rw [info, announced, placement]
      split <;> simp [Effect.isReport]
    · exact absurd short (by omega)

theorem observe_opened_iff {response : NSHTTPURLResponse} {io : LocalIO}
    (found : world.tasks task = some record) (mine : record.delegate = 0)
    (short : ((world.downLoaders 0).tmpSize : ℤ) < response.totalSize) :
    observe (world.deliver (.response task response io)) = observe world ↔
      Inert world (.response task response io) := by
  rw [← mine] at short
  have fields := (touches_opened io found short).downLoaders
  have logged := log_opened io found short
  have files := files_opened io found short
  rw [mine] at fields logged files short
  rw [observe_eq_iff, fields, Function.update_self, files, logged, reports_append_eq_iff]
  constructor
  · rintro ⟨state, _, _, total, stream, same, quiet⟩
    have info := quiet (.info 0 (world.downLoaders 0).dloadInfo response.totalSize 0) (by simp)
    have announced := quiet (.state 0 (world.downLoaders 0).dloadStateChange .downing) (by simp)
    exact ⟨by simpa [Effect.isReport] using info, by simpa [Effect.isReport] using announced,
      total.symm, Or.inr ⟨short, state.symm, opened_iff.mp ⟨stream, same⟩⟩⟩
  · rintro ⟨info, announced, total, ⟨full, _⟩ | ⟨_, state, there⟩⟩
    · exact absurd short (by omega)
    · rcases opened_iff.mpr there with ⟨stream, same⟩
      refine ⟨state.symm, rfl, rfl, total.symm, stream, same, ?_⟩
      rw [info, announced]
      simp [Effect.isReport]

theorem observe_restarted_iff {response : NSHTTPURLResponse} {io : LocalIO}
    (found : world.tasks task = some record) (mine : record.delegate = 0)
    (oversized : response.totalSize < (world.downLoaders 0).tmpSize) :
    observe (world.deliver (.response task response io)) = observe world ↔
      Inert world (.response task response io) := by
  rw [← mine] at oversized
  have logged := log_restarted io found oversized
  rw [mine] at logged oversized
  constructor
  · intro same
    have quiet := (observe_eq_iff.mp same).2.2.2.2.2.2
    rw [logged, reports_append_eq_iff] at quiet
    have requested := quiet (.requested 0 world.taskCount response.url 0) (by simp)
    cases requested
  · rintro ⟨_, _, _, ⟨full, _⟩ | ⟨short, _⟩⟩
    · exact absurd full (by omega)
    · exact absurd short (by omega)

theorem observe_data_iff {bytes : List UInt8} {io : LocalIO}
    (found : world.tasks task = some record) (mine : record.delegate = 0) :
    observe (world.deliver (.data task bytes io)) = observe world ↔
      Inert world (.data task bytes io) := by
  have fields := (touches_data bytes io found).downLoaders
  have logged := log_data bytes io found
  have files := files_data bytes io found
  rw [mine] at fields logged files
  rw [observe_eq_iff, fields, Function.update_self, files, logged, reports_append_eq_iff]
  constructor
  · rintro ⟨_, progress, size, _, _, _, quiet⟩
    have info := quiet (.info 0 (world.downLoaders 0).dloadInfo (world.downLoaders 0).totalSize
      (.quotient ((world.downLoaders 0).tmpSize + bytes.length) (world.downLoaders 0).totalSize))
      (by simp)
    obtain rfl : bytes = [] := by simpa using size
    exact ⟨by simpa [Effect.isReport] using info, rfl, by simpa using progress.symm⟩
  · rintro ⟨info, rfl, progress⟩
    refine ⟨rfl, by simpa using progress.symm, rfl, rfl, rfl, ?_, ?_⟩
    · rw [io.taken_nil]
      split <;> simp
    · rw [info]
      split <;> simp [Effect.isReport]

theorem observe_complete_iff {error : Option NSError} {io : LocalIO}
    (found : world.tasks task = some record) (mine : record.delegate = 0) :
    observe (world.deliver (.complete task error io)) = observe world ↔
      Inert world (.complete task error io) := by
  have fields := (touches_complete error io found).downLoaders
  rw [mine] at fields
  rw [observe_eq_iff, fields, Function.update_self]
  cases error with
  | none =>
      have logged := log_complete_finished io found
      have files := files_complete_finished io found
      rw [mine] at logged files
      rw [files, moved_eq_self_iff, logged, reports_append_eq_iff]
      constructor
      · rintro ⟨state, _, _, _, stream, still, quiet⟩
        have called := quiet (.success 0 (world.downLoaders 0).dloadSuccess
          (world.downLoaders 0).downLoadCachePath) (by simp)
        have announced := quiet (.state 0 (world.downLoaders 0).dloadStateChange .success) (by simp)
        have handed : (world.downLoaders 0).dloadSuccess = none := by
          simpa [Effect.isReport] using called
        exact ⟨by simpa [Effect.isReport] using announced, handed, state.symm, stream.symm,
          fun _ => still⟩
      · rintro ⟨announced, handed, state, stream, still⟩
        have handed : (world.downLoaders 0).dloadSuccess = none := handed
        refine ⟨state.symm, rfl, rfl, rfl, stream.symm, still rfl, ?_⟩
        rw [announced, handed, placement]
        split <;> simp [Effect.isReport]
  | some failure =>
      have logged := log_complete_failed io found failure
      have files := files_complete_failed io found failure
      rw [mine] at logged
      rw [files, logged, reports_append_eq_iff]
      constructor
      · rintro ⟨state, _, _, _, stream, _, quiet⟩
        have called := quiet (.fail 0 (world.downLoaders 0).dlFail) (by simp)
        have announced := quiet (.state 0 (world.downLoaders 0).dloadStateChange .fail) (by simp)
        have handed : (world.downLoaders 0).dlFail = none := by
          simpa [Effect.isReport] using called
        refine ⟨by simpa [Effect.isReport] using announced, handed, state.symm, stream.symm, ?_⟩
        intro finished
        cases finished
      · rintro ⟨announced, handed, state, stream, _⟩
        have handed : (world.downLoaders 0).dlFail = none := handed
        refine ⟨state.symm, rfl, rfl, rfl, stream.symm, rfl, ?_⟩
        rw [announced, handed]
        simp [Effect.isReport]

/-- An event leaves the observation alone exactly if it is inert. -/
theorem observe_deliver_iff {event : DelegateEvent} (single : Single world)
    (deliverable : world.Deliverable event) :
    observe (world.deliver event) = observe world ↔ Inert world event := by
  cases event with
  | response task response io =>
      rcases exists_of_response deliverable with ⟨record, found, _⟩
      have mine := single task record found
      rcases lt_trichotomy ((world.downLoaders 0).tmpSize : ℤ) response.totalSize with
        short | full | oversized
      · exact observe_opened_iff found mine short
      · exact observe_finished_iff found mine full
      · exact observe_restarted_iff found mine oversized
  | data task bytes io =>
      rcases exists_of_data deliverable with ⟨record, found, _⟩
      exact observe_data_iff found (single task record found)
  | complete task error io =>
      rcases exists_of_complete deliverable with ⟨record, found, _, _⟩
      exact observe_complete_iff found (single task record found)

end Observing

/-- The two worlds agree on the downloader, apart from its current task, and on some tasks. -/
structure Agree (own : TaskId → Prop) (world follower : World) : Prop where
  files : follower.files = world.files
  taskCount : follower.taskCount = world.taskCount
  sessionCount : follower.sessionCount = world.sessionCount
  reports : reports follower.log = reports world.log
  fields : ∃ current, follower.downLoaders 0 = { world.downLoaders 0 with task := current }
  tasks : ∀ task, own task → follower.tasks task = world.tasks task

/-- The two worlds agree, and the downloaders have the same current task. -/
structure Follows (own : TaskId → Prop) (world follower : World) : Prop
    extends Agree own world follower where
  current : (follower.downLoaders 0).task = (world.downLoaders 0).task

theorem reports_congr (fresh : List Effect) {log other : List Effect}
    (same : reports other = reports log) : reports (fresh ++ other) = reports (fresh ++ log) := by
  rw [reports, List.filter_append, ← reports, ← reports, same, reports, reports,
    ← List.filter_append, ← reports]

theorem Agree.observe_eq {own : TaskId → Prop} {world follower : World}
    (agree : Agree own world follower) : observe follower = observe world := by
  rcases agree.fields with ⟨current, fields⟩
  rw [observe_eq_iff, fields]
  exact ⟨rfl, rfl, rfl, rfl, rfl, agree.files, agree.reports⟩

namespace Follows

variable {own : TaskId → Prop} {world follower after afterFollower : World} {task : TaskId}
  {record changed : DataTask} {fields fieldsFollower : ZFDownLoader}

theorem fields_eq (follows : Follows own world follower) :
    follower.downLoaders 0 = world.downLoaders 0 := by
  have current := follows.current
  rcases follows.fields with ⟨pointer, fields⟩
  rw [fields] at current ⊢
  rw [show pointer = (world.downLoaders 0).task from current]

theorem mono {other : TaskId → Prop} (follows : Follows own world follower)
    (included : ∀ task, other task → own task) : Follows other world follower where
  files := follows.files
  taskCount := follows.taskCount
  sessionCount := follows.sessionCount
  reports := follows.reports
  fields := follows.fields
  tasks task present := follows.tasks task (included task present)
  current := follows.current

theorem of_touches (follows : Follows own world follower)
    (touches : world.Touches after 0 fields task changed)
    (touchesFollower : follower.Touches afterFollower 0 fieldsFollower task changed)
    (same : fieldsFollower = fields) (files : afterFollower.files = after.files)
    (sessionCount : after.sessionCount = world.sessionCount)
    (sessionCountFollower : afterFollower.sessionCount = follower.sessionCount)
    (reports : reports afterFollower.log = reports after.log) :
    Follows (fun task => own task ∨ world.taskCount ≤ task ∧ task < after.taskCount) after
      afterFollower := by
  constructor
  case toAgree =>
    constructor
    case files => exact files
    case taskCount => rw [touchesFollower.taskCount, touches.taskCount, follows.taskCount]
    case sessionCount => rw [sessionCountFollower, sessionCount, follows.sessionCount]
    case reports => exact reports
    case fields =>
      refine ⟨fields.task, ?_⟩
      rw [touchesFollower.downLoaders, touches.downLoaders, Function.update_self,
        Function.update_self, same]
    case tasks =>
      rintro other (mine | ⟨created, below⟩)
      · rw [touchesFollower.tasks, touches.tasks]
        by_cases touched : other = task
        · rw [touched, Function.update_self, Function.update_self]
        · rw [Function.update_of_ne touched, Function.update_of_ne touched,
            follows.tasks other mine]
      · rw [touches.taskCount] at below
        exact absurd (created.trans_lt below) (lt_irrefl _)
  case current =>
    rw [touchesFollower.downLoaders, touches.downLoaders, Function.update_self,
      Function.update_self, same]

theorem response (follows : Follows own world follower) {response : NSHTTPURLResponse}
    {io : LocalIO} (found : world.tasks task = some record) (mine : record.delegate = 0)
    (owned : own task) :
    Follows
      (fun other => own other ∨
        world.taskCount ≤ other ∧ other < (world.deliver (.response task response io)).taskCount)
      (world.deliver (.response task response io))
      (follower.deliver (.response task response io)) := by
  have same := follows.fields_eq
  have foundFollower : follower.tasks task = some record := (follows.tasks task owned).trans found
  rcases lt_trichotomy ((world.downLoaders 0).tmpSize : ℤ) response.totalSize with
    short | full | oversized
  · have shortFollower : ((follower.downLoaders 0).tmpSize : ℤ) < response.totalSize := by
      rwa [same]
    rw [← mine] at short shortFollower
    have touches := touches_opened io found short
    have touchesFollower := touches_opened io foundFollower shortFollower
    rw [mine] at touches touchesFollower
    refine follows.of_touches touches touchesFollower ?_ ?_ (sessionCount_opened io found short)
      (sessionCount_opened io foundFollower shortFollower) ?_
    · rw [same, follows.files]
    · rw [files_opened io found short, files_opened io foundFollower shortFollower, mine, same,
        follows.files]
    · rw [log_opened io found short, log_opened io foundFollower shortFollower, mine, same]
      exact reports_congr _ follows.reports
  · have fullFollower : ((follower.downLoaders 0).tmpSize : ℤ) = response.totalSize := by
      rwa [same]
    rw [← mine] at full fullFollower
    have touches := touches_finished io found full
    have touchesFollower := touches_finished io foundFollower fullFollower
    rw [mine] at touches touchesFollower
    refine follows.of_touches touches touchesFollower ?_ ?_ (sessionCount_finished io found full)
      (sessionCount_finished io foundFollower fullFollower) ?_
    · rw [same]
    · rw [files_finished io found full, files_finished io foundFollower fullFollower, mine, same,
        follows.files]
    · rw [log_finished io found full, log_finished io foundFollower fullFollower, mine, placement,
        placement, same, follows.files]
      exact reports_congr _ follows.reports
  · have oversizedFollower : response.totalSize < (follower.downLoaders 0).tmpSize := by
      rwa [same]
    rw [← mine] at oversized oversizedFollower
    have logged := log_restarted io found oversized
    have loggedFollower := log_restarted io foundFollower oversizedFollower
    have sessions := sessionCount_restarted io found oversized
    have sessionsFollower := sessionCount_restarted io foundFollower oversizedFollower
    have files := files_restarted io found oversized
    have filesFollower := files_restarted io foundFollower oversizedFollower
    rcases deliver_restarted_spec io found oversized with ⟨fields, tasks, count, _, _⟩
    rcases deliver_restarted_spec io foundFollower oversizedFollower with
      ⟨fieldsFollower, tasksFollower, countFollower, _, _⟩
    rw [mine] at logged loggedFollower sessions sessionsFollower files filesFollower
    rw [mine] at fields fieldsFollower tasks tasksFollower
    have session : follower.sessionOf 0 = world.sessionOf 0 := by
      rw [sessionOf, sessionOf, same, follows.sessionCount]
    constructor
    case toAgree =>
      constructor
      case files => rw [files, filesFollower, same, follows.files]
      case taskCount => rw [count, countFollower, follows.taskCount]
      case sessionCount => rw [sessions, sessionsFollower, same, follows.sessionCount]
      case reports =>
        rw [logged, loggedFollower, removal, removal, same, follows.files, follows.taskCount]
        exact reports_congr _ follows.reports
      case fields =>
        refine ⟨some world.taskCount, ?_⟩
        rw [fields, fieldsFollower, Function.update_self, Function.update_self, same, session,
          follows.taskCount]
      case tasks =>
        intro other kept
        rw [tasks, tasksFollower, follows.taskCount, restartedTask, restartedTask, session]
        by_cases created : other = world.taskCount
        · rw [created, Function.update_self, Function.update_self]
        · rw [Function.update_of_ne created, Function.update_of_ne created]
          by_cases touched : other = task
          · rw [touched, Function.update_self, Function.update_self]
          · rw [Function.update_of_ne touched, Function.update_of_ne touched]
            apply follows.tasks
            rcases kept with old | ⟨above, below⟩
            · exact old
            · rw [count] at below
              exact absurd (Nat.le_antisymm (Nat.le_of_lt_succ below) above) created
    case current =>
      rw [fields, fieldsFollower, Function.update_self, Function.update_self, follows.taskCount]

theorem deliver (follows : Follows own world follower) {event : DelegateEvent}
    (single : Single world) (deliverable : world.Deliverable event) (owned : own event.task) :
    Follows
      (fun other => own other ∨
        world.taskCount ≤ other ∧ other < (world.deliver event).taskCount)
      (world.deliver event) (follower.deliver event) := by
  have same := follows.fields_eq
  cases event with
  | response task response io =>
      rcases exists_of_response deliverable with ⟨record, found, _⟩
      exact follows.response found (single task record found) owned
  | data task bytes io =>
      rcases exists_of_data deliverable with ⟨record, found, _⟩
      have mine := single task record found
      have foundFollower : follower.tasks task = some record :=
        (follows.tasks task owned).trans found
      have touches := touches_data bytes io found
      have touchesFollower := touches_data bytes io foundFollower
      rw [mine] at touches touchesFollower
      refine follows.of_touches touches touchesFollower ?_ ?_ (sessionCount_data bytes io found)
        (sessionCount_data bytes io foundFollower) ?_
      · rw [same]
      · rw [files_data bytes io found, files_data bytes io foundFollower, mine, same, follows.files]
      · rw [log_data bytes io found, log_data bytes io foundFollower, mine, same]
        exact reports_congr _ follows.reports
  | complete task error io =>
      rcases exists_of_complete deliverable with ⟨record, found, _, _⟩
      have mine := single task record found
      have foundFollower : follower.tasks task = some record :=
        (follows.tasks task owned).trans found
      have touches := touches_complete error io found
      have touchesFollower := touches_complete error io foundFollower
      rw [mine] at touches touchesFollower
      refine follows.of_touches touches touchesFollower ?_ ?_ (sessionCount_complete error io)
        (sessionCount_complete error io) ?_
      · rw [same]
      · cases error with
        | none =>
            rw [files_complete_finished io found, files_complete_finished io foundFollower, mine,
              same, follows.files]
        | some failure =>
            rw [files_complete_failed io found, files_complete_failed io foundFollower,
              follows.files]
      · cases error with
        | none =>
            rw [log_complete_finished io found, log_complete_finished io foundFollower, mine,
              placement, placement, same, follows.files]
            exact reports_congr _ follows.reports
        | some failure =>
            rw [log_complete_failed io found, log_complete_failed io foundFollower, mine, same]
            exact reports_congr _ follows.reports

/-- The current task of the downloader is one of those on which the worlds agree. -/
def OwnsCurrent (own : TaskId → Prop) (world : World) : Prop :=
  ∀ task, (world.downLoaders 0).task = some task → own task

theorem keeps_iff (follows : Follows own world follower) (owns : OwnsCurrent own world)
    (url : NSURL) : follower.Keeps 0 url ↔ world.Keeps 0 url := by
  have same := follows.fields_eq
  have taskURL : follower.taskURL 0 = world.taskURL 0 := by
    rw [World.taskURL, World.taskURL, same]
    cases current : (world.downLoaders 0).task with
    | none => rfl
    | some task => rw [Option.bind_some, Option.bind_some, follows.tasks task (owns task current)]
  rw [Keeps, Keeps, follows.files, taskURL, same]

theorem named (follows : Follows own world follower) (digest : MessageDigest) (url : NSURL)
    (blocks : DownLoadBlocks) :
    Follows own (named digest world 0 url blocks) (World.named digest follower 0 url blocks) where
  files := follows.files
  taskCount := follows.taskCount
  sessionCount := follows.sessionCount
  reports := reports_congr [.called 0 url] follows.reports
  fields := by
    refine ⟨(world.downLoaders 0).task, ?_⟩
    rw [downLoaders_named, downLoaders_named, Function.update_self, Function.update_self,
      follows.fields_eq]
    rfl
  tasks := follows.tasks
  current := by
    rw [downLoaders_named, downLoaders_named, Function.update_self, Function.update_self,
      follows.fields_eq]

theorem switch (follows : Follows own world follower) (source target : ZFDownLoaderState)
    (suspended : Bool) :
    Follows own (world.switch 0 source target suspended)
      (follower.switch 0 source target suspended) := by
  have same := follows.fields_eq
  constructor
  case toAgree =>
    constructor
    case files => rw [files_switch, files_switch, follows.files]
    case taskCount => rw [taskCount_switch, taskCount_switch, follows.taskCount]
    case sessionCount => rw [sessionCount_switch, sessionCount_switch, follows.sessionCount]
    case reports =>
      rw [log_switch, log_switch, same]
      split
      · exact reports_congr [_] follows.reports
      · exact follows.reports
    case fields =>
      refine ⟨(world.downLoaders 0).task, ?_⟩
      rw [downLoaders_switch, downLoaders_switch, Function.update_self, Function.update_self, same]
    case tasks =>
      intro task owned
      rw [World.switch, World.switch, same]
      split
      · simp only [setState, setSuspended, record_tasks, modify_tasks, mapTasks_tasks, same,
          follows.tasks task owned]
      · exact follows.tasks task owned
  case current =>
    rw [downLoaders_switch, downLoaders_switch, Function.update_self, Function.update_self, same]

/-- A call that keeps its task. -/
theorem kept (follows : Follows own world follower) (owns : OwnsCurrent own world)
    {digest : MessageDigest} {url : NSURL} {blocks : DownLoadBlocks} (keeps : world.Keeps 0 url) :
    Follows own (world.downLoadWithURLBlocks digest 0 url blocks)
      (follower.downLoadWithURLBlocks digest 0 url blocks) := by
  have keepsFollower := (follows.keeps_iff owns url).mpr keeps
  have same := follows.fields_eq
  rcases keeps.2.2 with downing | paused
  · rw [call_downing keeps downing, call_downing keepsFollower (by rw [same, downing])]
    exact follows.named digest url blocks
  · rw [call_paused keeps paused, call_paused keepsFollower (by rw [same, paused])]
    exact (follows.named digest url blocks).switch _ _ _

end Follows

namespace Agree

variable {own : TaskId → Prop} {world follower : World} {digest : MessageDigest} {url : NSURL}
  {blocks : DownLoadBlocks}

variable (digest url blocks) in
theorem calledFields_eq (agree : Agree own world follower) :
    ∃ current, calledFields digest (follower.downLoaders 0) url blocks =
      { calledFields digest (world.downLoaders 0) url blocks with task := current } := by
  rcases agree.fields with ⟨current, fields⟩
  exact ⟨current, by rw [fields]; rfl⟩

variable (digest blocks) in
/-- A call that finds its file cached. -/
theorem cached (agree : Agree own world follower) (occupied : world.files.Occupied url.cachePath) :
    Agree (fun _ => False) (world.downLoadWithURLBlocks digest 0 url blocks)
      (follower.downLoadWithURLBlocks digest 0 url blocks) := by
  have occupiedFollower : follower.files.Occupied url.cachePath := by
    rwa [agree.files]
  constructor
  case files => rw [files_call_cached occupied, files_call_cached occupiedFollower, agree.files]
  case taskCount =>
    rw [taskCount_call_cached occupied, taskCount_call_cached occupiedFollower, agree.taskCount]
  case sessionCount =>
    rw [sessionCount_call_cached occupied, sessionCount_call_cached occupiedFollower,
      agree.sessionCount]
  case reports =>
    rw [log_call_cached occupied, log_call_cached occupiedFollower, agree.files]
    exact reports_congr _ agree.reports
  case fields =>
    rcases agree.calledFields_eq digest url blocks with
      ⟨current, fields⟩
    refine ⟨current, ?_⟩
    rw [downLoaders_call_cached occupied, downLoaders_call_cached occupiedFollower,
      Function.update_self, Function.update_self, fields]
  case tasks => exact fun _ => False.elim

variable (digest blocks) in
/-- A call that starts a task. -/
theorem started (agree : Agree own world follower) (free : ¬world.files.Occupied url.cachePath)
    (starts : ¬world.Keeps 0 url) (startsFollower : ¬follower.Keeps 0 url) :
    Follows (fun task => task = world.taskCount)
      (world.downLoadWithURLBlocks digest 0 url blocks)
      (follower.downLoadWithURLBlocks digest 0 url blocks) := by
  have freeFollower : ¬follower.files.Occupied url.cachePath := by
    rwa [agree.files]
  have session : follower.freshSession 0 = world.freshSession 0 := by
    rcases agree.fields with ⟨current, fields⟩
    rw [freshSession, freshSession, fields, agree.sessionCount]
  constructor
  case toAgree =>
    constructor
    case files =>
      rw [files_call_started free starts, files_call_started freeFollower startsFollower,
        agree.files]
    case taskCount =>
      rw [taskCount_call_started free starts, taskCount_call_started freeFollower startsFollower,
        agree.taskCount]
    case sessionCount =>
      rw [sessionCount_call_started free starts,
        sessionCount_call_started freeFollower startsFollower, session]
    case reports =>
      rw [log_call_started free starts, log_call_started freeFollower startsFollower, agree.files,
        agree.taskCount]
      exact reports_congr _ agree.reports
    case fields =>
      rcases agree.calledFields_eq digest url blocks with
        ⟨current, same⟩
      refine ⟨some world.taskCount, ?_⟩
      rw [downLoaders_call_started free starts,
        downLoaders_call_started freeFollower startsFollower, Function.update_self,
        Function.update_self, startedFields, startedFields, same, session, agree.files,
        agree.taskCount]
    case tasks =>
      rintro task rfl
      rw [tasks_call_started free starts, tasks_call_started freeFollower startsFollower,
        agree.taskCount, Function.update_self, Function.update_self, startedTask, startedTask,
        session, agree.files]
  case current =>
    rw [downLoaders_call_started free starts,
      downLoaders_call_started freeFollower startsFollower, Function.update_self,
      Function.update_self, startedFields_task, startedFields_task, agree.taskCount]

end Agree

section Inert

variable {world follower : World} {event : DelegateEvent}

/-- An inert event lets go of its task, and changes no other field of the downloader. -/
theorem touches_inert (single : Single world) (deliverable : world.Deliverable event)
    (inert : Inert world event) :
    ∃ current changed, world.Touches (world.deliver event) 0
      { world.downLoaders 0 with task := current } event.task changed ∧
      (world.deliver event).sessionCount = world.sessionCount ∧
      (current = (world.downLoaders 0).task ∨ (world.downLoaders 0).task = some event.task) := by
  cases event with
  | response task response io =>
      rcases exists_of_response deliverable with ⟨record, found, _⟩
      have mine := single task record found
      rcases inert with ⟨_, _, total, ⟨full, state, _⟩ | ⟨short, state, opened⟩⟩
      · rw [← mine] at full
        have touches := touches_finished io found full
        rw [mine, ← total, ← state] at touches
        exact ⟨(world.downLoaders 0).task, _, touches, sessionCount_finished io found full,
          Or.inl rfl⟩
      · rw [← mine] at short
        have touches := touches_opened io found short
        rw [mine, (opened_iff.mpr opened).1, ← total, ← state] at touches
        exact ⟨(world.downLoaders 0).task, _, touches, sessionCount_opened io found short,
          Or.inl rfl⟩
  | data task bytes io =>
      rcases exists_of_data deliverable with ⟨record, found, _⟩
      have mine := single task record found
      rcases inert with ⟨_, rfl, progress⟩
      have touches := touches_data [] io found
      rw [mine, List.length_nil, Nat.add_zero, ← progress] at touches
      exact ⟨(world.downLoaders 0).task, _, touches, sessionCount_data [] io found, Or.inl rfl⟩
  | complete task error io =>
      rcases exists_of_complete deliverable with ⟨record, found, _, _⟩
      have mine := single task record found
      rcases inert with ⟨_, _, state, stream, _⟩
      have touches := touches_complete error io found
      rw [mine, ← state, ← stream] at touches
      refine ⟨_, _, touches, sessionCount_complete error io, ?_⟩
      split
      · rename_i current
        exact Or.inr current
      · exact Or.inl rfl

end Inert

/-- Whether an event can be delivered depends on its task only. -/
theorem deliverable_congr {world follower : World} {event : DelegateEvent}
    (same : follower.tasks event.task = world.tasks event.task) :
    follower.Deliverable event ↔ world.Deliverable event := by
  have phase : follower.phaseOf event.task = world.phaseOf event.task := by
    rw [phaseOf, phaseOf, same]
  cases event with
  | response task response io =>
      have atTask : follower.phaseOf task = world.phaseOf task := phase
      rw [Deliverable, Deliverable, atTask]
  | data task bytes io =>
      have atTask : follower.phaseOf task = world.phaseOf task := phase
      rw [Deliverable, Deliverable, atTask]
  | complete task error io =>
      have atTask : follower.phaseOf task = world.phaseOf task := phase
      cases error <;> rw [Deliverable, Deliverable, atTask]

/-- After an event the current task is the one before it or one that the event started. -/
theorem current_deliver {world : World} {event : DelegateEvent} {task : TaskId}
    (single : Single world) (deliverable : world.Deliverable event)
    (current : ((world.deliver event).downLoaders 0).task = some task) :
    (world.downLoaders 0).task = some task ∨
      world.taskCount ≤ task ∧ task < (world.deliver event).taskCount := by
  rcases delivered deliverable with ⟨record, found, step⟩
  have mine := single event.task record found
  cases step with
  | goesOn _ _ _ _ _ _ touched =>
      rw [touched.downLoaders, mine, Function.update_self] at current
      exact Or.inl current
  | completes _ _ _ _ touched =>
      rw [touched.downLoaders, mine, Function.update_self] at current
      dsimp only at current
      split at current
      · cases current
      · exact Or.inl current
  | restarts _ _ _ fields _ count =>
      rw [fields, mine, Function.update_self, Option.some_inj] at current
      rw [count, ← current]
      exact Or.inr ⟨le_rfl, Nat.lt_succ_self _⟩

/-- A call that keeps its task starts none. -/
theorem keeps_spec (digest : MessageDigest) {world : World} {url : NSURL} (blocks : DownLoadBlocks)
    (keeps : world.Keeps 0 url) :
    (world.downLoadWithURLBlocks digest 0 url blocks).taskCount = world.taskCount ∧
      ((world.downLoadWithURLBlocks digest 0 url blocks).downLoaders 0).task =
        (world.downLoaders 0).task := by
  rcases keeps.2.2 with downing | paused
  · rw [call_downing keeps downing, downLoaders_named, Function.update_self]
    exact ⟨rfl, rfl⟩
  · rw [call_paused keeps paused, World.resume, taskCount_switch, downLoaders_switch,
      downLoaders_named, Function.update_self, Function.update_self]
    exact ⟨rfl, rfl⟩

section Single

variable {world after : World}

theorem Single.of_unflagged (single : Single world)
    (tasks : ∀ task, (after.tasks task).map DataTask.unflagged =
      (world.tasks task).map DataTask.unflagged) : Single after := by
  intro task record found
  rcases DataTask.exists_of_unflagged (tasks task) found with ⟨before, foundBefore, agree⟩
  rw [← DataTask.delegate_eq agree]
  exact single task before foundBefore

theorem Single.of_update (single : Single world) {task : TaskId} {record : DataTask}
    (tasks : after.tasks = Function.update world.tasks task (some record))
    (mine : record.delegate = 0) : Single after := by
  intro other otherRecord found
  rw [tasks] at found
  by_cases same : other = task
  · rw [same, Function.update_self, Option.some.injEq] at found
    rwa [← found]
  · rw [Function.update_of_ne same] at found
    exact single other otherRecord found

theorem Single.deliver (single : Single world) {event : DelegateEvent}
    (deliverable : world.Deliverable event) : Single (world.deliver event) := by
  rcases delivered deliverable with ⟨record, found, step⟩
  have mine := single event.task record found
  cases step with
  | goesOn _ _ _ _ _ _ touched delegate =>
      exact single.of_update touched.tasks (delegate.trans mine)
  | completes _ _ _ _ touched => exact single.of_update touched.tasks mine
  | restarts _ _ refused _ tasks _ delegate =>
      have answered : Single { world with
          tasks := Function.update world.tasks event.task (some refused) } :=
        single.of_update rfl (delegate.trans mine)
      exact answered.of_update tasks mine

theorem Single.call (single : Single world) (digest : MessageDigest) (url : NSURL)
    (blocks : DownLoadBlocks) : Single (world.downLoadWithURLBlocks digest 0 url blocks) := by
  by_cases keeps : world.Keeps 0 url
  · rcases keeps.2.2 with downing | paused
    · rw [call_downing keeps downing]
      exact single
    · rw [call_paused keeps paused]
      exact single.of_unflagged unflagged_switch
  · by_cases occupied : world.files.Occupied url.cachePath
    · intro task record found
      rw [tasks_call_cached occupied] at found
      exact single task record found
    · have cancelled : Single (world.cancel 0) := single.of_unflagged unflagged_cancel
      exact cancelled.of_update (tasks_call_started occupied keeps) rfl

end Single

/-- Every task belongs to the downloader, and to a download so far. -/
structure Numbered (state : Reuse) : Prop where
  single : Single state.world
  bounded : ∀ task, state.startedFor task ≤ state.download

theorem numbered_preserved (digest : MessageDigest) : (reuseSystem digest).Preserves Numbered := by
  rintro state action ⟨single, bounded⟩ admitted
  cases action with
  | downLoad url blocks =>
      refine ⟨single.call digest url blocks, ?_⟩
      intro task
      have later : state.download ≤ state.called url := by
        rw [Reuse.called]
        split <;> omega
      simp only [reuseSystem, Reuse.advance]
      split
      · exact le_rfl
      · exact (bounded task).trans later
  | deliver event =>
      refine ⟨single.deliver admitted, ?_⟩
      intro task
      simp only [reuseSystem, Reuse.advance]
      split
      · exact bounded event.task
      · exact bounded task

theorem numbered_launch (files : FileSystem Path) : Numbered (.launch files) where
  single := by
    intro task record found
    cases found
  bounded _ := le_rfl

namespace Reuse

/-- The task was started for the current download. -/
def Own (state : Reuse) (task : TaskId) : Prop :=
  state.startedFor task = state.download

/-- The current download has a task that can deliver events, or could. -/
structure Running (state : Reuse) (follower : World) : Prop where
  follows : Follows state.Own state.world follower
  current : Follows.OwnsCurrent state.Own state.world

/-- No task of the current download can deliver anything, and no call would keep one. -/
structure Idle (state : Reuse) (follower : World) : Prop where
  agree : Agree state.Own state.world follower
  resting : (state.world.downLoaders 0).state ≠ .downing ∧
    (state.world.downLoaders 0).state ≠ .pause
  ended : ∀ task, state.Own task → ¬state.world.Live task

/-- The second state is the one that the run without stale events has reached. -/
structure Matches (state follower : Reuse) : Prop where
  numbered : Numbered state
  download : follower.download = state.download
  startedFor : follower.startedFor = state.startedFor
  standing : Running state follower.world ∨ Idle state follower.world

theorem advance_of_taskCount {state : Reuse} {after : World}
    (same : after.taskCount = state.world.taskCount) (download owner : ℕ) :
    state.advance after download owner = ⟨after, download, state.startedFor⟩ := by
  rw [advance]
  congr 1
  funext task
  rw [if_neg]
  rintro ⟨above, below⟩
  rw [same] at below
  exact absurd (above.trans_lt below) (lt_irrefl _)

theorem own_advance_iff {state : Reuse} {after : World} {download owner : ℕ} {task : TaskId} :
    (state.advance after download owner).Own task ↔
      if state.world.taskCount ≤ task ∧ task < after.taskCount then owner = download
      else state.startedFor task = download := by
  rw [Own]
  simp only [advance]
  split <;> rfl

namespace Matches

variable {state follower : Reuse}

theorem agree (same : Matches state follower) : Agree state.Own state.world follower.world := by
  rcases same.standing with running | idle
  · exact running.follows.toAgree
  · exact idle.agree

/-- Two steps whose worlds still match. -/
theorem advance (same : Matches state follower) {after afterFollower : World} {download owner : ℕ}
    (numbered : Numbered (state.advance after download owner))
    (standing : Running (state.advance after download owner) afterFollower ∨
      Idle (state.advance after download owner) afterFollower) :
    Matches (state.advance after download owner)
      (follower.advance afterFollower download owner) where
  numbered := numbered
  download := rfl
  startedFor := by
    have count : afterFollower.taskCount = after.taskCount := by
      rcases standing with running | idle
      · exact running.follows.taskCount
      · exact idle.agree.taskCount
    simp only [Reuse.advance, same.agree.taskCount, count, same.startedFor]
  standing := standing

/-- An inert event of an earlier download keeps the match. -/
theorem skip (same : Matches state follower) {event : DelegateEvent} {digest : MessageDigest}
    (deliverable : state.world.Deliverable event) (inert : Inert state.world event)
    (stale : state.Stale (.deliver event)) :
    Matches ((reuseSystem digest).perform state (.deliver event)) follower := by
  have single := same.numbered.single
  rcases touches_inert single deliverable inert with ⟨current, changed, touches, sessions, kept⟩
  have numbered := numbered_preserved digest state (.deliver event) same.numbered deliverable
  rcases observe_eq_iff.mp ((observe_deliver_iff single deliverable).mpr inert) with
    ⟨standing, _, _, _, _, files, reports⟩
  have fields : (state.world.deliver event).downLoaders 0 =
      { state.world.downLoaders 0 with task := current } := by
    rw [touches.downLoaders, Function.update_self]
  have others : ∀ task, state.Own task →
      (state.world.deliver event).tasks task = state.world.tasks task := by
    intro task own
    rw [touches.tasks, Function.update_of_ne]
    rintro rfl
    exact stale own
  have agree : Agree state.Own (state.world.deliver event) follower.world := by
    constructor
    case files => rw [files, same.agree.files]
    case taskCount => rw [touches.taskCount, same.agree.taskCount]
    case sessionCount => rw [sessions, same.agree.sessionCount]
    case reports => rw [reports, same.agree.reports]
    case fields =>
      rcases same.agree.fields with ⟨pointer, fieldsFollower⟩
      exact ⟨pointer, by rw [fieldsFollower, fields]⟩
    case tasks =>
      intro task own
      rw [others task own, same.agree.tasks task own]
  have performed : (reuseSystem digest).perform state (.deliver event) =
      ⟨state.world.deliver event, state.download, state.startedFor⟩ :=
    advance_of_taskCount touches.taskCount _ _
  rw [performed] at numbered ⊢
  refine ⟨numbered, same.download, same.startedFor, ?_⟩
  rcases same.standing with running | idle
  · left
    have current : ((state.world.deliver event).downLoaders 0).task =
        (state.world.downLoaders 0).task := by
      rw [fields]
      rcases kept with unchanged | mine
      · exact unchanged
      · exact absurd (running.current event.task mine) stale
    refine ⟨⟨agree, running.follows.current.trans current.symm⟩, ?_⟩
    intro task held
    exact running.current task (current ▸ held)
  · right
    refine ⟨agree, ?_, ?_⟩
    · change ((state.world.deliver event).downLoaders 0).state ≠ .downing ∧
        ((state.world.deliver event).downLoaders 0).state ≠ .pause
      rw [standing]
      exact idle.resting
    · rintro task own ⟨record, found, live⟩
      exact idle.ended task own ⟨record, (others task own).symm.trans found, live⟩

/-- The events of the current download are followed. -/
theorem deliver (same : Matches state follower) {event : DelegateEvent} {digest : MessageDigest}
    (deliverable : state.world.Deliverable event) (own : ¬state.Stale (.deliver event)) :
    follower.world.Deliverable event ∧
      Matches ((reuseSystem digest).perform state (.deliver event))
        ((reuseSystem digest).perform follower (.deliver event)) := by
  have single := same.numbered.single
  have own : state.Own event.task := not_not.mp own
  have tasks := same.agree.tasks event.task own
  have numbered := numbered_preserved digest state (.deliver event) same.numbered deliverable
  refine ⟨(deliverable_congr tasks).mpr deliverable, ?_⟩
  rcases same.standing with running | idle
  · have owner : state.startedFor event.task = state.download := own
    have performed : (reuseSystem digest).perform follower (.deliver event) =
        follower.advance (follower.world.deliver event) state.download
          (state.startedFor event.task) := by
      simp only [reuseSystem, same.download, same.startedFor]
    rw [performed]
    apply same.advance numbered
    left
    constructor
    · apply (running.follows.deliver single deliverable own).mono
      intro task mine
      rw [own_advance_iff] at mine
      split at mine
      · rename_i created
        exact Or.inr created
      · exact Or.inl mine
    · intro task current
      rw [own_advance_iff]
      split
      · exact owner
      · rename_i old
        exact running.current task ((current_deliver single deliverable current).resolve_right old)
  · exact absurd (live_of_deliverable deliverable) (idle.ended event.task own)

theorem keeps_iff (same : Matches state follower) (url : NSURL) :
    follower.world.Keeps 0 url ↔ state.world.Keeps 0 url := by
  rcases same.standing with running | idle
  · exact running.follows.keeps_iff running.current url
  · rcases idle.agree.fields with ⟨current, fields⟩
    have rests : ∀ world : World, (world.downLoaders 0).state = (state.world.downLoaders 0).state →
        ¬world.Keeps 0 url := by
      rintro world standing ⟨_, _, downing | paused⟩
      · exact idle.resting.1 (standing.symm.trans downing)
      · exact idle.resting.2 (standing.symm.trans paused)
    exact iff_of_false (rests _ (by rw [fields])) (rests _ rfl)

/-- A call is followed. -/
theorem call (same : Matches state follower) (digest : MessageDigest) (url : NSURL)
    (blocks : DownLoadBlocks) :
    Matches ((reuseSystem digest).perform state (.downLoad url blocks))
      ((reuseSystem digest).perform follower (.downLoad url blocks)) := by
  have numbered := numbered_preserved digest state (.downLoad url blocks) same.numbered trivial
  have number : follower.called url = state.called url := by
    simp only [called, same.keeps_iff url, same.download]
  have performed : (reuseSystem digest).perform follower (.downLoad url blocks) =
      follower.advance (follower.world.downLoadWithURLBlocks digest 0 url blocks)
        (state.called url) (state.called url) := by
    simp only [reuseSystem, number]
  rw [performed]
  apply same.advance numbered
  by_cases keeps : state.world.Keeps 0 url
  · have running : Running state follower.world := by
      apply same.standing.resolve_right
      intro idle
      rcases keeps.2.2 with downing | paused
      · exact idle.resting.1 downing
      · exact idle.resting.2 paused
    rcases keeps_spec digest blocks keeps with ⟨count, current⟩
    left
    rw [advance_of_taskCount count, called, if_pos keeps]
    refine ⟨running.follows.kept running.current keeps, ?_⟩
    intro task held
    exact running.current task (current ▸ held)
  · have fresh : ∀ task, state.startedFor task ≠ state.called url := by
      intro task numbered
      have bounded := same.numbered.bounded task
      rw [numbered, called, if_neg keeps] at bounded
      omega
    by_cases occupied : state.world.files.Occupied url.cachePath
    · have none : ∀ task, ¬(state.advance (state.world.downLoadWithURLBlocks digest 0 url blocks)
          (state.called url) (state.called url)).Own task := by
        rw [advance_of_taskCount (taskCount_call_cached occupied)]
        exact fresh
      right
      refine ⟨?_, ?_, fun task own => absurd own (none task)⟩
      · have agree := same.agree.cached digest blocks occupied
        exact ⟨agree.files, agree.taskCount, agree.sessionCount, agree.reports, agree.fields,
          fun task own => absurd own (none task)⟩
      · simp only [Reuse.advance]
        rw [downLoaders_call_cached occupied, Function.update_self]
        exact ⟨nofun, nofun⟩
    · left
      have starts := same.agree.started digest blocks occupied keeps
        (mt (same.keeps_iff url).mp keeps)
      constructor
      · apply starts.mono
        intro task own
        rw [own_advance_iff, taskCount_call_started occupied keeps] at own
        split at own
        · rename_i created
          exact Nat.le_antisymm (Nat.le_of_lt_succ created.2) created.1
        · exact absurd own (fresh task)
      · intro task current
        simp only [Reuse.advance] at current
        rw [downLoaders_call_started occupied keeps, Function.update_self] at current
        cases current
        rw [own_advance_iff, taskCount_call_started occupied keeps,
          if_pos ⟨le_rfl, Nat.lt_succ_self _⟩]

end Matches

theorem matches_launch (files : FileSystem Path) : Matches (.launch files) (.launch files) where
  numbered := numbered_launch files
  download := rfl
  startedFor := rfl
  standing := Or.inl ⟨⟨⟨rfl, rfl, rfl, rfl, ⟨none, rfl⟩, fun _ _ => rfl⟩, rfl⟩, nofun⟩

end Reuse

/-- An event of an earlier download finds nothing left to do. -/
def StaleInert (state : Reuse) : ReuseAction → Prop
  | .downLoad _ _ => True
  | .deliver event => state.Stale (.deliver event) → Inert state.world event

/-- Stale events are harmless in exactly the runs in which they are all inert. -/
theorem staleHarmless_iff {digest : MessageDigest} {files : FileSystem Path}
    {actions : List ReuseAction} (runs : (reuseSystem digest).Runs (.launch files) actions) :
    StaleHarmless digest (.launch files) actions ↔
      (reuseSystem digest).Along StaleInert (.launch files) actions := by
  have numbered : ∀ condition, ((reuseSystem digest).restrict condition).Preserves Numbered :=
    fun condition state action numbered admitted =>
      numbered_preserved digest state action numbered admitted.1
  constructor
  · intro harmless
    have guarded := ((reuseSystem digest).runs_restrict_iff _ _ _).mpr ⟨runs, harmless.unchanged⟩
    rw [← ActionSystem.along_restrict]
    apply (numbered _).along _ (numbered_launch files) guarded
    rintro state action numbered ⟨admitted, unchanged⟩
    cases action with
    | downLoad url blocks => trivial
    | deliver event =>
        intro stale
        exact (observe_deliver_iff numbered.single admitted).mp (unchanged stale)
  · intro inert
    have guarded := ((reuseSystem digest).runs_restrict_iff _ _ _).mpr ⟨runs, inert⟩
    have followed := guarded.audible Reuse.Stale Reuse.Matches
      (fun state follower action same admitted inert stale => by
        cases action with
        | downLoad url blocks => exact absurd stale id
        | deliver event => exact same.skip admitted (inert stale) stale)
      (fun state follower action same admitted own => by
        cases action with
        | downLoad url blocks => exact ⟨trivial, same.call digest url blocks⟩
        | deliver event => exact same.deliver admitted own)
      (Reuse.matches_launch files)
    refine ⟨?_, followed.1, followed.2.agree.observe_eq⟩
    rw [← ActionSystem.along_restrict]
    apply (numbered _).along _ (numbered_launch files) guarded
    rintro state action numbered ⟨admitted, inert⟩ stale
    cases action with
    | downLoad url blocks => exact absurd stale id
    | deliver event => exact (observe_deliver_iff numbered.single admitted).mpr (inert stale)

/-- Two calls without blocks; the second download fails before the first one is reported
cancelled. -/
def unheard : List ReuseAction :=
  [.downLoad exampleURL ⟨none, none, none, none⟩, .downLoad exampleURL ⟨none, none, none, none⟩,
   .deliver (.complete 1 (some .transfer) .healthy),
   .deliver (.complete 0 (some .cancelled) .healthy)]

theorem staleHarmless_unheard : StaleHarmless exampleDigest (.launch emptyContainer) unheard := by
  refine (staleHarmless_iff (by decide)).mpr ⟨trivial, trivial, ?_, ?_, trivial⟩
  · intro stale
    exact absurd stale (by decide)
  · intro _
    exact ⟨rfl, rfl, rfl, rfl, nofun⟩

/-- A second call before the first response, and the cancellation of the first task. -/
def calledTwice : List ReuseAction :=
  [.downLoad exampleURL exampleDownLoadBlocks, .downLoad exampleURL exampleDownLoadBlocks,
   .deliver (.complete 0 (some .cancelled) .healthy)]

/-- The second download is told Fail while its own task goes on. -/
theorem calledTwice_not_staleHarmless :
    (reuseSystem exampleDigest).Runs (.launch emptyContainer) calledTwice ∧
      ((reuseSystem exampleDigest).exec (.launch emptyContainer) calledTwice).world.phaseOf 1 =
        some .waiting ∧
      ¬StaleHarmless exampleDigest (.launch emptyContainer) calledTwice := by
  refine ⟨by decide, by decide, ?_⟩
  intro harmless
  have same := congrArg Observation.state (harmless.unchanged.2.2.1 (by decide))
  revert same
  decide

end ZFBaseFramework
