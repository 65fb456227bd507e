import ZFBaseFramework.DownLoader.Download

/-!
# One outcome per download

A download over a free cache path ends with the completion event of its task. If
every response announces more bytes than the tmp file holds, the task passes from
waiting to running to over, and `Underway` ties that to what has been announced so
far; `run_oneOutcome` reads the outcome off the end. A response that finds the tmp
file full announces Success although its task still completes with an error.
-/

namespace ZFBaseFramework

open ZFFileManagerTool World

/-- The two outcomes of a download. -/
inductive Outcome where
  | success
  | fail
  deriving DecidableEq

namespace Outcome

/-- The state announced for an outcome. -/
def state : Outcome → ZFDownLoaderState
  | .success => .success
  | .fail => .fail

/-- The call of the block for an outcome. -/
def call (url : NSURL) (blocks : DownLoadBlocks) : Outcome → Effect
  | .success => .success 0 blocks.success (some url.cachePath)
  | .fail => .fail 0 blocks.fail

end Outcome

/-- The calls of success and fail blocks, newest first. -/
def outcomeCalls (log : List Effect) : List Effect :=
  log.filter fun
    | .success _ _ _ => true
    | .fail _ _ => true
    | _ => false

/-- The announced states, newest first. -/
def announced (log : List Effect) : List ZFDownLoaderState :=
  log.filterMap fun
    | .state _ _ state => some state
    | _ => none

/-- Success and Fail among the announced states. -/
def announcedOutcomes (log : List Effect) : List ZFDownLoaderState :=
  (announced log).filter fun state => state = .success ∨ state = .fail

/-- A finished download told its client one story. -/
structure OneOutcome (url : NSURL) (blocks : DownLoadBlocks) (world : World)
    (outcome : Outcome) : Prop where
  /-- One block was called, once. -/
  called : outcomeCalls world.log = [outcome.call url blocks]
  /-- One of Success and Fail was announced, once, and it matches the block. -/
  matching : announcedOutcomes world.log = [outcome.state]
  /-- No state was announced after it. -/
  last : (announced world.log).head? = some outcome.state
  /-- Success means that the file is at the cache path. -/
  placed : outcome = .success ↔ world.files.Occupied url.cachePath

/-- The response promises bytes beyond the tmp file, which can be opened or is there
already, and the final move is carried out. -/
def Continues (world : World) : DownLoadAction → Prop
  | .deliver (.response _ response io) =>
      ((world.downLoaders 0).tmpSize : ℤ) < response.totalSize ∧
        (io.opens = true ∨ isFileExists world.files (world.downLoaders 0).downLoadTmpPath = true)
  | .deliver (.complete _ none io) => io.moves = true
  | _ => True

/-- How far the only task has come: its phase against the state and the files. -/
inductive Standing (digest : MessageDigest) (url : NSURL) (files : FileSystem Path) :
    TaskPhase → ZFDownLoaderState → Prop where
  | waiting : Standing digest url files .waiting .unknown
  | downing (present : files.Occupied (url.tmpPath digest)) :
      Standing digest url files .allowed .downing
  | pause (present : files.Occupied (url.tmpPath digest)) :
      Standing digest url files .allowed .pause

namespace Standing

variable {digest : MessageDigest} {url : NSURL} {files : FileSystem Path} {phase : TaskPhase}
  {state : ZFDownLoaderState}

theorem present (standing : Standing digest url files phase state) (allowed : phase = .allowed) :
    files.Occupied (url.tmpPath digest) := by
  cases standing with
  | waiting => cases allowed
  | downing present => exact present
  | pause present => exact present

theorem unfinished (standing : Standing digest url files phase state) : phase ≠ .ended := by
  cases standing <;> decide

theorem mono (standing : Standing digest url files phase state) {later : FileSystem Path}
    (kept : files.Occupied (url.tmpPath digest) → later.Occupied (url.tmpPath digest)) :
    Standing digest url later phase state := by
  cases standing with
  | waiting => exact .waiting
  | downing present => exact .downing (kept present)
  | pause present => exact .pause (kept present)

theorem switch (standing : Standing digest url files phase state) {target : ZFDownLoaderState}
    (between : state = .downing ∧ target = .pause ∨ state = .pause ∧ target = .downing) :
    Standing digest url files phase target := by
  cases standing with
  | waiting => simp at between
  | downing present =>
      simp only [reduceCtorEq, false_and, or_false, true_and] at between
      exact between ▸ .pause present
  | pause present =>
      simp only [reduceCtorEq, false_and, false_or, true_and] at between
      exact between ▸ .downing present

end Standing

/-- The task of the call is on its way, and no outcome was told. -/
structure Underway (digest : MessageDigest) (url : NSURL) (blocks : DownLoadBlocks)
    (world : World) (record : DataTask) : Prop where
  tasks : world.tasks = Function.update (fun _ => none) 0 (some record)
  delegate : record.delegate = 0
  current : (world.downLoaders 0).task = some 0
  success : (world.downLoaders 0).dloadSuccess = blocks.success
  fail : (world.downLoaders 0).dlFail = blocks.fail
  cachePath : (world.downLoaders 0).downLoadCachePath = some url.cachePath
  tmpPath : (world.downLoaders 0).downLoadTmpPath = some (url.tmpPath digest)
  free : ¬world.files.Occupied url.cachePath
  uncalled : outcomeCalls world.log = []
  unannounced : announcedOutcomes world.log = []
  standing : Standing digest url world.files record.phase (world.downLoaders 0).state

/-- Every task is over, and one outcome was told. -/
structure Finished (url : NSURL) (blocks : DownLoadBlocks) (world : World) : Prop where
  ended : ∀ task, ¬world.Live task
  told : ∃ outcome, OneOutcome url blocks world outcome ∧
    (world.downLoaders 0).state = outcome.state

/-- A download is on its way or over. -/
def Consistent (digest : MessageDigest) (url : NSURL) (blocks : DownLoadBlocks)
    (world : World) : Prop :=
  (∃ record, Underway digest url blocks world record) ∨ Finished url blocks world

section Steps

variable {digest : MessageDigest} {url : NSURL} {blocks : DownLoadBlocks} {world : World}
  {record : DataTask}

theorem consistent_begun (digest : MessageDigest) (files : FileSystem Path) (url : NSURL)
    (blocks : DownLoadBlocks) : Consistent digest url blocks (begun digest files url blocks) := by
  by_cases occupied : files.Occupied url.cachePath
  · right
    constructor
    · rintro task ⟨record, found, _⟩
      rw [begun, tasks_call_cached occupied] at found
      cases found
    · refine ⟨.success, ⟨?_, ?_, ?_, ?_⟩, ?_⟩
      · rw [begun, log_call_cached occupied]
        rfl
      · rw [begun, log_call_cached occupied]
        rfl
      · rw [begun, log_call_cached occupied]
        rfl
      · rw [files_begun]
        exact ⟨fun _ => occupied, fun _ => rfl⟩
      · rw [begun, downLoaders_call_cached occupied, Function.update_self]
        rfl
  · left
    refine ⟨startedTask digest (launch files) 0 url, ?_⟩
    have fields := downLoaders_begun digest blocks occupied
    constructor
    case tasks => exact tasks_begun occupied
    case delegate => rfl
    case free => rwa [files_begun]
    case uncalled | unannounced =>
      rw [begun, log_call_started occupied not_keeps_launch]
      rfl
    case standing =>
      rw [fields]
      exact .waiting
    all_goals
      rw [fields]
      rfl

namespace Underway

theorem found (underway : Underway digest url blocks world record) :
    world.tasks 0 = some record := by
  rw [underway.tasks, Function.update_self]

theorem eq_zero (underway : Underway digest url blocks world record) {task : TaskId}
    {other : DataTask} (found : world.tasks task = some other) : task = 0 := by
  by_contra ne
  rw [underway.tasks, Function.update_of_ne ne] at found
  cases found

/-- Only the task of the call can deliver anything. -/
theorem task_eq_zero (underway : Underway digest url blocks world record)
    {event : DelegateEvent} (deliverable : world.Deliverable event) : event.task = 0 := by
  rcases (live_of_deliverable deliverable).exists with ⟨other, found⟩
  exact underway.eq_zero found

theorem switch (underway : Underway digest url blocks world record)
    {source target : ZFDownLoaderState} {suspended : Bool}
    (between : source = .downing ∧ target = .pause ∨ source = .pause ∧ target = .downing) :
    ∃ switched, Underway digest url blocks (world.switch 0 source target suspended) switched := by
  by_cases standing : (world.downLoaders 0).state = source
  · have touched := touches_switch target suspended standing
      underway.current underway.found
    have logged := log_switch world 0 source target suspended
    rw [if_pos standing] at logged
    refine ⟨{ record with suspended }, ?_⟩
    constructor
    case tasks => rw [touched.tasks, underway.tasks, Function.update_idem]
    case delegate => exact underway.delegate
    case free => simpa using underway.free
    case uncalled => simpa [logged, outcomeCalls] using underway.uncalled
    case unannounced =>
      have := underway.unannounced
      rcases between with ⟨_, rfl⟩ | ⟨_, rfl⟩ <;>
        simpa [logged, announcedOutcomes, announced] using this
    case standing =>
      rw [touched.downLoaders, Function.update_self, files_switch]
      exact underway.standing.switch (by rwa [standing])
    all_goals
      rw [touched.downLoaders, Function.update_self]
      simp [underway.current, underway.success, underway.fail, underway.cachePath,
        underway.tmpPath]
  · rw [switch_of_ne standing]
    exact ⟨record, underway⟩

theorem cancel (underway : Underway digest url blocks world record) :
    ∃ cancelled, Underway digest url blocks (world.cancel 0) cancelled := by
  refine ⟨world.marked 0 record, ?_⟩
  rcases marked_eq world 0 record with ⟨mark, marked⟩
  constructor
  case tasks =>
    rw [tasks_cancel, underway.tasks]
    funext task
    by_cases same : task = 0
    · subst same
      simp
    · simp [same]
  case delegate =>
    rw [marked]
    exact underway.delegate
  case free => simpa using underway.free
  case uncalled => simpa using underway.uncalled
  case unannounced => simpa using underway.unannounced
  case standing =>
    rw [downLoaders_cancel, Function.update_self, files_cancel, marked]
    exact underway.standing
  all_goals
    rw [downLoaders_cancel, Function.update_self]
    simp [underway.current, underway.success, underway.fail, underway.cachePath,
      underway.tmpPath]

theorem response (underway : Underway digest url blocks world record)
    {task : TaskId} {response : NSHTTPURLResponse} {io : LocalIO}
    (deliverable : world.Deliverable (.response task response io))
    (continues : Continues world (.deliver (.response task response io))) :
    ∃ answered, Underway digest url blocks (world.deliver (.response task response io))
      answered := by
  rcases continues with ⟨short, opens⟩
  obtain rfl : task = 0 := underway.task_eq_zero deliverable
  have short : ((world.downLoaders record.delegate).tmpSize : ℤ) < response.totalSize := by
    rwa [underway.delegate]
  have touched := touches_opened io underway.found short
  have logged := log_opened io underway.found short
  have opened : (world.deliver (.response 0 response io)).files =
      (NSOutputStream.openAppending world.files (some (url.tmpPath digest)) io).1 := by
    rw [files_opened io underway.found short, underway.delegate, underway.tmpPath]
  rw [underway.delegate] at touched logged
  refine ⟨{ record with delegate := 0, reply := some response, phase := .allowed }, ?_⟩
  constructor
  case tasks => rw [touched.tasks, underway.tasks, Function.update_idem]
  case delegate => rfl
  case free =>
    rw [opened, NSOutputStream.openAppending]
    split
    · simpa [FileSystem.lookup_touch] using underway.free
    · exact underway.free
  case uncalled => simpa [logged, outcomeCalls] using underway.uncalled
  case unannounced => simpa [logged, announcedOutcomes, announced] using underway.unannounced
  case standing =>
    rw [touched.downLoaders, Function.update_self]
    refine .downing ?_
    rw [opened, NSOutputStream.openAppending]
    split
    · simp [FileSystem.lookup_touch]
    · rename_i closed
      rw [underway.tmpPath, isFileExists, decide_eq_true_iff] at opens
      exact opens.resolve_left closed
  all_goals
    rw [touched.downLoaders, Function.update_self]
    simp [underway.current, underway.success, underway.fail, underway.cachePath,
      underway.tmpPath]

theorem data (underway : Underway digest url blocks world record)
    {task : TaskId} {bytes : List UInt8} {io : LocalIO}
    (deliverable : world.Deliverable (.data task bytes io)) :
    ∃ advanced, Underway digest url blocks (world.deliver (.data task bytes io)) advanced := by
  obtain rfl : task = 0 := underway.task_eq_zero deliverable
  have touched := touches_data bytes io underway.found
  have logged := log_data bytes io underway.found
  have written := files_data bytes io underway.found
  rw [underway.delegate] at touched logged written
  have occupied : ∀ path, (world.deliver (.data 0 bytes io)).files.Occupied path ↔
      world.files.Occupied path := by
    intro path
    rw [written]
    split
    · rfl
    · simp only [FileSystem.Occupied, FileSystem.lookup_append]
      split <;> simp
  refine ⟨{ record with delegate := 0, received := record.received + bytes.length }, ?_⟩
  constructor
  case tasks => rw [touched.tasks, underway.tasks, Function.update_idem]
  case delegate => rfl
  case free =>
    rw [occupied]
    exact underway.free
  case uncalled =>
    rw [logged]
    split <;> simpa [outcomeCalls] using underway.uncalled
  case unannounced =>
    rw [logged]
    split <;> simpa [announcedOutcomes, announced] using underway.unannounced
  case standing =>
    rw [touched.downLoaders, Function.update_self]
    exact underway.standing.mono (occupied _).mpr
  all_goals
    rw [touched.downLoaders, Function.update_self]
    simp [underway.current, underway.success, underway.fail, underway.cachePath,
      underway.tmpPath]

theorem complete (underway : Underway digest url blocks world record)
    {task : TaskId} {error : Option NSError} {io : LocalIO}
    (deliverable : world.Deliverable (.complete task error io))
    (continues : Continues world (.deliver (.complete task error io))) :
    Finished url blocks (world.deliver (.complete task error io)) := by
  obtain rfl : task = 0 := underway.task_eq_zero deliverable
  have touched := touches_complete error io underway.found
  rw [underway.delegate] at touched
  constructor
  · rintro task ⟨other, found, live⟩
    rw [touched.tasks, underway.tasks, Function.update_idem] at found
    by_cases same : task = 0
    · subst same
      simp only [Function.update_self, Option.some.injEq] at found
      subst found
      exact live rfl
    · rw [Function.update_of_ne same] at found
      cases found
  cases error with
  | none =>
      have allowed : record.phase = .allowed := by
        simpa [Deliverable, phaseOf_eq underway.found] using deliverable
      have movable : world.files.Movable (url.tmpPath digest) url.cachePath :=
        ⟨underway.standing.present allowed, underway.free⟩
      have logged := log_complete_finished io underway.found
      have moved := files_complete_finished io underway.found
      simp only [underway.delegate, underway.success, underway.cachePath, underway.tmpPath,
        placement, CanMove, moveFile, movable, and_true, if_true,
        show io.moves = true from continues] at logged moved
      refine ⟨.success, ⟨?_, ?_, ?_, ?_⟩, ?_⟩
      · simpa [logged, outcomeCalls, Outcome.call] using underway.uncalled
      · simpa [logged, announcedOutcomes, announced, Outcome.state] using underway.unannounced
      · simp [logged, announced, Outcome.state]
      · simpa [moved, FileSystem.lookup_move] using movable.1
      · rw [touched.downLoaders, Function.update_self]
        rfl
  | some failure =>
      have logged := log_complete_failed io underway.found failure
      have kept := files_complete_failed io underway.found failure
      simp only [underway.delegate, underway.fail] at logged
      refine ⟨.fail, ⟨?_, ?_, ?_, ?_⟩, ?_⟩
      · simpa [logged, outcomeCalls, Outcome.call] using underway.uncalled
      · simpa [logged, announcedOutcomes, announced, Outcome.state] using underway.unannounced
      · simp [logged, announced, Outcome.state]
      · rw [kept]
        exact iff_of_false (by decide) underway.free
      · rw [touched.downLoaders, Function.update_self]
        rfl

end Underway

namespace Finished

variable (finished : Finished url blocks world)

include finished

theorem switch {source target : ZFDownLoaderState} {suspended : Bool}
    (running : source = .downing ∨ source = .pause) :
    world.switch 0 source target suspended = world := by
  rcases finished.told with ⟨outcome, _, standing⟩
  apply switch_of_ne
  rw [standing]
  rcases running with rfl | rfl <;> cases outcome <;> decide

theorem cancel : Finished url blocks (world.cancel 0) := by
  constructor
  · rintro task ⟨record, found, unfinished⟩
    rcases DataTask.exists_of_unflagged (unflagged_cancel task) found with
      ⟨before, foundBefore, agree⟩
    rw [← DataTask.phase_eq agree] at unfinished
    exact finished.ended task ⟨before, foundBefore, unfinished⟩
  · rcases finished.told with ⟨outcome, one, standing⟩
    refine ⟨outcome, ⟨?_, ?_, ?_, ?_⟩, ?_⟩
    · simpa using one.called
    · simpa using one.matching
    · simpa using one.last
    · simpa using one.placed
    · simpa [downLoaders_cancel] using standing

end Finished

theorem consistent_step {action : DownLoadAction}
    (consistent : Consistent digest url blocks world)
    (admitted : downLoadSystem.Admits world action) (continues : Continues world action) :
    Consistent digest url blocks (downLoadSystem.perform world action) := by
  rcases consistent with ⟨record, underway⟩ | finished
  · cases action with
    | resume => exact Or.inl (underway.switch (Or.inr ⟨rfl, rfl⟩))
    | pause => exact Or.inl (underway.switch (Or.inl ⟨rfl, rfl⟩))
    | cancel => exact Or.inl underway.cancel
    | deliver event =>
        cases event with
        | response task response io => exact Or.inl (underway.response admitted continues)
        | data task bytes io => exact Or.inl (underway.data admitted)
        | complete task error io => exact Or.inr (underway.complete admitted continues)
  · cases action with
    | resume =>
        right
        simp only [downLoadSystem, World.resume, finished.switch (Or.inr rfl)]
        exact finished
    | pause =>
        right
        simp only [downLoadSystem, World.pause, finished.switch (Or.inl rfl)]
        exact finished
    | cancel => exact Or.inr finished.cancel
    | deliver event => exact absurd (live_of_deliverable admitted) (finished.ended _)

end Steps

/-- Once the completion event was delivered, the download had one outcome, in every run
whose responses continue the tmp file. -/
theorem run_oneOutcome (digest : MessageDigest) (files : FileSystem Path) (url : NSURL)
    (blocks : DownLoadBlocks) {actions : List DownLoadAction}
    (runs : (downLoadSystem.restrict Continues).Runs (begun digest files url blocks) actions)
    (ended : ∀ task, ¬(downLoadSystem.exec (begun digest files url blocks) actions).Live task) :
    ∃ outcome, OneOutcome url blocks
      (downLoadSystem.exec (begun digest files url blocks) actions) outcome := by
  have preserved : (downLoadSystem.restrict Continues).Preserves
      (Consistent digest url blocks) :=
    fun _ _ consistent admitted => consistent_step consistent admitted.1 admitted.2
  rcases preserved.exec (consistent_begun digest files url blocks) runs with
    ⟨record, underway⟩ | finished
  · exact absurd ⟨record, underway.found, underway.standing.unfinished⟩ (ended 0)
  · rcases finished.told with ⟨outcome, one, _⟩
    exact ⟨outcome, one⟩

/-- Three of the example's five bytes are on disk; the download is paused once. -/
theorem run_oneOutcome_resumed : ∃ outcome, OneOutcome exampleURL exampleDownLoadBlocks
    (downLoadSystem.exec (exampleBegun [1, 2, 3])
      [.deliver (.response 0
        ((StatedReply.mk 206 (some 2) (some (.span 3 4 (some 5)))).render exampleURL) .healthy),
       .pause, .resume, .deliver (.data 0 [4, 5] .healthy),
       .deliver (.complete 0 none .healthy)]) outcome := by
  apply run_oneOutcome
  · exact ⟨⟨rfl, by decide, Or.inl rfl⟩, ⟨trivial, trivial⟩, ⟨trivial, trivial⟩,
      ⟨rfl, trivial⟩, ⟨rfl, rfl⟩, trivial⟩
  · rintro (_ | task) ⟨record, found, unfinished⟩
    · cases found
      exact unfinished rfl
    · cases found

/-- The events of a download whose tmp file is already full. -/
def alreadyFull : List DownLoadAction :=
  [.deliver (.response 0 ((StatedReply.mk 416 none (some (.unsatisfied 3))).render exampleURL)
    .healthy),
   .deliver (.complete 0 (some .cancelled) .healthy)]

/-- Success is announced, the success block is not called, and the completion event of the
refused task announces Fail. -/
theorem alreadyFull_not_oneOutcome :
    downLoadSystem.Runs (exampleBegun [1, 2, 3]) alreadyFull ∧
      (∀ task, ¬(downLoadSystem.exec (exampleBegun [1, 2, 3]) alreadyFull).Live task) ∧
      announced (downLoadSystem.exec (exampleBegun [1, 2, 3]) alreadyFull).log =
        [.fail, .success] ∧
      ¬∃ outcome, OneOutcome exampleURL exampleDownLoadBlocks
        (downLoadSystem.exec (exampleBegun [1, 2, 3]) alreadyFull) outcome := by
  refine ⟨by decide, ?_, by decide, ?_⟩
  · rintro (_ | task) ⟨record, found, unfinished⟩
    · cases found
      exact unfinished rfl
    · cases found
  · rintro ⟨outcome, one⟩
    have matching := one.matching
    cases outcome <;> revert matching <;> decide

end ZFBaseFramework
