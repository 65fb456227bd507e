import ZFBaseFramework.Manager.Calls

/-!
# Who owns which task

The invariant of every run of the manager: a task that can still deliver a response
or a body is the current task of its delegate, and an entry of the dictionary leads
to a downloader whose state mirrors its current task. It needs nothing of the
responses, so it also holds where later files find the manager at fault.
-/

namespace ZFBaseFramework

open ZFFileManagerTool World

/-- How the state of a registered downloader mirrors the phase of its current task, and
whether that task is suspended. -/
inductive Mirrors : ZFDownLoaderState → TaskPhase → Bool → Prop where
  | unknown : Mirrors .unknown .waiting false
  | downing : Mirrors .downing .allowed false
  | pause : Mirrors .pause .allowed true
  | success : Mirrors .success .refused false

theorem Mirrors.switch {source target : ZFDownLoaderState} {phase : TaskPhase}
    {before suspended : Bool} (mirrors : Mirrors source phase before)
    (between : source = .downing ∧ target = .pause ∧ suspended = true ∨
      source = .pause ∧ target = .downing ∧ suspended = false) :
    Mirrors target phase suspended := by
  rcases between with ⟨rfl, rfl, rfl⟩ | ⟨rfl, rfl, rfl⟩
  · cases mirrors
    exact .pause
  · cases mirrors
    exact .downing

theorem Mirrors.of_waiting {state : ZFDownLoaderState} {phase : TaskPhase} {suspended : Bool}
    (mirrors : Mirrors state phase suspended) (waiting : phase = .waiting) :
    state = .unknown ∧ suspended = false := by
  cases mirrors with
  | unknown => exact ⟨rfl, rfl⟩
  | downing | pause | success => cases waiting

/-- The downloader of an entry has not seen a completion event, which would remove the
entry through the key in its blocks. -/
structure Entry (world : World) (key : String) (loader : DownLoaderId) : Prop where
  used : loader < world.downLoaderCount
  success : (world.downLoaders loader).dloadSuccess.bind CompletionBlock.registryKey = some key
  fail : (world.downLoaders loader).dlFail.bind CompletionBlock.registryKey = some key
  mirrors : ∃ task record, (world.downLoaders loader).task = some task ∧
    world.tasks task = some record ∧
    Mirrors (world.downLoaders loader).state record.phase record.suspended

theorem Mirrors.of_allowed {state : ZFDownLoaderState} {phase : TaskPhase} {suspended : Bool}
    (mirrors : Mirrors state phase suspended) (allowed : phase = .allowed) :
    state = .downing ∨ suspended = true := by
  cases mirrors with
  | downing => exact Or.inl rfl
  | pause => exact Or.inr rfl
  | unknown | success => cases allowed

theorem Mirrors.of_unknown {state : ZFDownLoaderState} {phase : TaskPhase} {suspended : Bool}
    (mirrors : Mirrors state phase suspended) (unknown : state = .unknown) :
    phase = .waiting ∧ suspended = false := by
  cases mirrors with
  | unknown => exact ⟨rfl, rfl⟩
  | downing | pause | success => cases unknown

/-- An entry stands as long as its downloader is left alone and the current task of it gets
no more than a cancellation mark. -/
theorem Entry.of_marked {world after : World} {key : String} {loader : DownLoaderId}
    (entry : Entry world key loader) (count : world.downLoaderCount ≤ after.downLoaderCount)
    (same : after.downLoaders loader = world.downLoaders loader)
    (tasks : ∀ {task record}, (world.downLoaders loader).task = some task →
      world.tasks task = some record →
      ∃ cancelled, after.tasks task = some { record with cancelled }) :
    Entry after key loader := by
  rcases entry with ⟨used, success, fail, task, record, held, found, mirrors⟩
  rcases tasks held found with ⟨cancelled, foundAfter⟩
  refine ⟨used.trans_le count, ?_, ?_, task, { record with cancelled }, ?_, foundAfter, ?_⟩
  · rwa [same]
  · rwa [same]
  · rwa [same]
  · rwa [same]

/-- An entry stands as long as its downloader and the current task of it are left alone. -/
theorem Entry.of_same {world after : World} {key : String} {loader : DownLoaderId}
    (entry : Entry world key loader) (count : world.downLoaderCount ≤ after.downLoaderCount)
    (same : after.downLoaders loader = world.downLoaders loader)
    (tasks : ∀ {task}, (world.downLoaders loader).task = some task →
      after.tasks task = world.tasks task) : Entry after key loader := by
  apply entry.of_marked count same
  intro task record held found
  exact ⟨record.cancelled, (tasks held).trans found⟩

/-- Tasks, downloaders and entries fit together. -/
structure Owned (world : World) : Prop where
  used : ∀ {task record}, world.tasks task = some record →
    task < world.taskCount ∧ record.delegate < world.downLoaderCount
  current : ∀ {loader task}, (world.downLoaders loader).task = some task →
    ∃ record, world.tasks task = some record ∧ record.delegate = loader
  active : ∀ {task record}, world.tasks task = some record →
    record.phase = .waiting ∨ record.phase = .allowed →
    (world.downLoaders record.delegate).task = some task
  entry : ∀ {key loader}, world.downLoaderInfos.lookup key = some loader →
    Entry world key loader

section Steps

variable {world after : World} {task : TaskId} {record changed : DataTask}
  {fields : ZFDownLoader}

theorem owned_launch (files : FileSystem Path) : Owned (launch files) where
  used := nofun
  current := nofun
  active := nofun
  entry := nofun

namespace Owned

/-- The current task of one downloader is no task of another. -/
theorem apart (owned : Owned world) (found : world.tasks task = some record)
    {loader : DownLoaderId} {other : TaskId} (different : loader ≠ record.delegate)
    (held : (world.downLoaders loader).task = some other) : other ≠ task := by
  rintro rfl
  rcases owned.current held with ⟨heldRecord, heldFound, heldDelegate⟩
  cases found.symm.trans heldFound
  exact different heldDelegate.symm

/-- A step that touches only a downloader and its current task. -/
theorem of_touches (owned : Owned world) (found : world.tasks task = some record)
    (current : (world.downLoaders record.delegate).task = some task)
    (touches : world.Touches after record.delegate fields task changed)
    (delegate : changed.delegate = record.delegate)
    (kept : fields.task = (world.downLoaders record.delegate).task)
    (success : fields.dloadSuccess = (world.downLoaders record.delegate).dloadSuccess)
    (fail : fields.dlFail = (world.downLoaders record.delegate).dlFail)
    (infos : after.downLoaderInfos = world.downLoaderInfos)
    (mirrors : Mirrors (world.downLoaders record.delegate).state record.phase record.suspended →
      Mirrors fields.state changed.phase changed.suspended) : Owned after := by
  have foundAfter : after.tasks task = some changed := by
    rw [touches.tasks, Function.update_self]
  have fieldsAfter : after.downLoaders record.delegate = fields := by
    rw [touches.downLoaders, Function.update_self]
  constructor
  · intro other otherRecord otherFound
    rw [touches.taskCount, touches.downLoaderCount]
    by_cases same : other = task
    · subst same
      cases foundAfter.symm.trans otherFound
      rw [delegate]
      exact owned.used found
    · rw [touches.tasks, Function.update_of_ne same] at otherFound
      exact owned.used otherFound
  · intro loader other held
    by_cases mine : loader = record.delegate
    · subst mine
      rw [fieldsAfter, kept, current, Option.some.injEq] at held
      subst held
      exact ⟨changed, foundAfter, delegate⟩
    · rw [touches.downLoaders, Function.update_of_ne mine] at held
      rcases owned.current held with ⟨otherRecord, otherFound, otherDelegate⟩
      refine ⟨otherRecord, ?_, otherDelegate⟩
      rwa [touches.tasks, Function.update_of_ne (owned.apart found mine held)]
  · intro other otherRecord otherFound running
    by_cases same : other = task
    · subst same
      cases foundAfter.symm.trans otherFound
      rw [delegate, fieldsAfter, kept, current]
    · rw [touches.tasks, Function.update_of_ne same] at otherFound
      have otherCurrent := owned.active otherFound running
      have apart : otherRecord.delegate ≠ record.delegate := by
        intro mine
        rw [mine, current, Option.some.injEq] at otherCurrent
        exact same otherCurrent.symm
      rwa [touches.downLoaders, Function.update_of_ne apart]
  · intro key loader registered
    rw [infos] at registered
    by_cases mine : loader = record.delegate
    · subst mine
      rcases owned.entry registered with ⟨used, successKey, failKey, other, otherRecord, held,
        otherFound, otherMirrors⟩
      rw [current, Option.some.injEq] at held
      subst held
      cases found.symm.trans otherFound
      refine ⟨by rwa [touches.downLoaderCount], ?_, ?_, task, changed, ?_, foundAfter, ?_⟩
      · rwa [fieldsAfter, success]
      · rwa [fieldsAfter, fail]
      · rw [fieldsAfter, kept, current]
      · rw [fieldsAfter]
        exact mirrors otherMirrors
    · apply (owned.entry registered).of_same touches.downLoaderCount.ge
      · rw [touches.downLoaders, Function.update_of_ne mine]
      · intro other held
        rw [touches.tasks, Function.update_of_ne (owned.apart found mine held)]

/-- A step that changes no more than the cancellation marks of tasks and the sessions of
downloaders. -/
theorem cancel (owned : Owned world) (loader : DownLoaderId) : Owned (world.cancel loader) := by
  have origin : ∀ {other otherRecord}, (world.cancel loader).tasks other = some otherRecord →
      ∃ before, world.tasks other = some before ∧ before.delegate = otherRecord.delegate ∧
        before.phase = otherRecord.phase := by
    intro other otherRecord found
    rcases DataTask.exists_of_unflagged (unflagged_cancel other) found with
      ⟨before, foundBefore, agree⟩
    exact ⟨before, foundBefore, DataTask.delegate_eq agree, DataTask.phase_eq agree⟩
  have sameFields : ∀ other, ∃ session, (world.cancel loader).downLoaders other =
      { world.downLoaders other with session } := by
    intro other
    rw [downLoaders_cancel]
    by_cases same : other = loader
    · subst same
      exact ⟨none, Function.update_self ..⟩
    · exact ⟨(world.downLoaders other).session, Function.update_of_ne same ..⟩
  constructor
  · intro other otherRecord found
    rcases origin found with ⟨before, foundBefore, delegate, _⟩
    simpa [delegate] using owned.used foundBefore
  · intro other task held
    rcases sameFields other with ⟨session, same⟩
    rw [same] at held
    rcases owned.current held with ⟨before, foundBefore, delegate⟩
    refine ⟨world.marked loader before, by simp [tasks_cancel, foundBefore], ?_⟩
    rcases marked_eq world loader before with ⟨mark, marked⟩
    rw [marked]
    exact delegate
  · intro other otherRecord found running
    rcases origin found with ⟨before, foundBefore, delegate, phase⟩
    rcases sameFields otherRecord.delegate with ⟨session, same⟩
    rw [same, ← delegate]
    rw [← phase] at running
    exact owned.active foundBefore running
  · intro key other registered
    rw [downLoaderInfos_cancel] at registered
    rcases owned.entry registered with ⟨used, success, fail, task, before, held, foundBefore,
      mirrors⟩
    rcases sameFields other with ⟨session, same⟩
    rcases marked_eq world loader before with ⟨mark, marked⟩
    refine ⟨by simpa using used, ?_, ?_, task, world.marked loader before, ?_, ?_, ?_⟩
    · rwa [same]
    · rwa [same]
    · rwa [same]
    · simp [tasks_cancel, foundBefore]
    · rw [same, marked]
      exact mirrors

/-- A step that changes no more than a downloader without a current task. -/
theorem of_idle (owned : Owned world) {loader : DownLoaderId}
    (idle : (world.downLoaders loader).task = none)
    (downLoaders : after.downLoaders = Function.update world.downLoaders loader fields)
    (kept : fields.task = none) (tasks : after.tasks = world.tasks)
    (taskCount : after.taskCount = world.taskCount)
    (downLoaderCount : after.downLoaderCount = world.downLoaderCount)
    (infos : after.downLoaderInfos = world.downLoaderInfos) : Owned after := by
  constructor
  · rw [tasks, taskCount, downLoaderCount]
    exact owned.used
  · intro other task held
    rw [downLoaders] at held
    by_cases same : other = loader
    · subst same
      rw [Function.update_self, kept] at held
      cases held
    · rw [Function.update_of_ne same] at held
      rw [tasks]
      exact owned.current held
  · intro task record found running
    rw [tasks] at found
    have current := owned.active found running
    have apart : record.delegate ≠ loader := by
      intro same
      rw [same, idle] at current
      cases current
    rwa [downLoaders, Function.update_of_ne apart]
  · intro key other registered
    rw [infos] at registered
    apply (owned.entry registered).of_same downLoaderCount.ge
    · rw [downLoaders, Function.update_of_ne]
      rintro rfl
      rcases (owned.entry registered).mirrors with ⟨task, _, held, _⟩
      rw [idle] at held
      cases held
    · intro task _
      rw [tasks]

theorem switch (owned : Owned world) (loader : DownLoaderId) {source target : ZFDownLoaderState}
    {suspended : Bool}
    (between : source = .downing ∧ target = .pause ∧ suspended = true ∨
      source = .pause ∧ target = .downing ∧ suspended = false) :
    Owned (world.switch loader source target suspended) := by
  by_cases standing : (world.downLoaders loader).state = source
  · cases current : (world.downLoaders loader).task with
    | none =>
        exact owned.of_idle current downLoaders_switch current (tasks_switch_of_none current)
          taskCount_switch downLoaderCount_switch downLoaderInfos_switch
    | some task =>
        rcases owned.current current with ⟨record, found, rfl⟩
        have touches := touches_switch target suspended standing current found
        refine owned.of_touches found current touches rfl rfl rfl
          rfl downLoaderInfos_switch ?_
        intro mirrors
        rw [standing] at mirrors
        exact mirrors.switch between
  · rwa [switch_of_ne standing]

/-- The second task takes the place of the first as the current one. -/
theorem restarted (owned : Owned world) {response : NSHTTPURLResponse} {io : LocalIO}
    (found : world.tasks task = some record) (waiting : record.phase = .waiting)
    (oversized : response.totalSize < (world.downLoaders record.delegate).tmpSize) :
    Owned (world.deliver (.response task response io)) := by
  have current := owned.active found (Or.inl waiting)
  rcases deliver_restarted_spec io found oversized with
    ⟨downLoaders, tasks, taskCount, downLoaderCount, infos⟩
  have second : (world.deliver (.response task response io)).tasks world.taskCount =
      some (world.restartedTask record.delegate response.url) := by
    rw [tasks, Function.update_self]
  have otherTasks : ∀ {other}, other ≠ task → other ≠ world.taskCount →
      (world.deliver (.response task response io)).tasks other = world.tasks other := by
    intro other apart old
    rw [tasks, Function.update_of_ne old, Function.update_of_ne apart]
  constructor
  · intro other otherRecord otherFound
    rw [taskCount, downLoaderCount]
    by_cases fresh : other = world.taskCount
    · subst fresh
      cases second.symm.trans otherFound
      exact ⟨Nat.lt_succ_self _, (owned.used found).2⟩
    · by_cases same : other = task
      · subst same
        rw [tasks, Function.update_of_ne fresh, Function.update_self,
          Option.some.injEq] at otherFound
        subst otherFound
        have bounds := owned.used found
        exact ⟨Nat.lt_succ_of_lt bounds.1, bounds.2⟩
      · rw [otherTasks same fresh] at otherFound
        have bounds := owned.used otherFound
        exact ⟨Nat.lt_succ_of_lt bounds.1, bounds.2⟩
  · intro loader other held
    by_cases mine : loader = record.delegate
    · subst mine
      rw [downLoaders, Function.update_self] at held
      cases held
      exact ⟨_, second, rfl⟩
    · rw [downLoaders, Function.update_of_ne mine] at held
      rcases owned.current held with ⟨otherRecord, otherFound, otherDelegate⟩
      refine ⟨otherRecord, ?_, otherDelegate⟩
      rwa [otherTasks (owned.apart found mine held) (owned.used otherFound).1.ne]
  · intro other otherRecord otherFound running
    by_cases fresh : other = world.taskCount
    · subst fresh
      cases second.symm.trans otherFound
      rw [restartedTask_delegate, downLoaders, Function.update_self]
    · by_cases same : other = task
      · subst same
        rw [tasks, Function.update_of_ne fresh, Function.update_self,
          Option.some.injEq] at otherFound
        subst otherFound
        simp at running
      · rw [otherTasks same fresh] at otherFound
        have otherCurrent := owned.active otherFound running
        have apart : otherRecord.delegate ≠ record.delegate := by
          intro mine
          rw [mine, current, Option.some.injEq] at otherCurrent
          exact same otherCurrent.symm
        rwa [downLoaders, Function.update_of_ne apart]
  · intro key loader registered
    rw [infos] at registered
    by_cases mine : loader = record.delegate
    · subst mine
      rcases owned.entry registered with ⟨used, success, fail, other, otherRecord, held,
        otherFound, mirrors⟩
      rw [current, Option.some.injEq] at held
      subst held
      cases found.symm.trans otherFound
      refine ⟨by rwa [downLoaderCount], ?_, ?_, world.taskCount, _, ?_, second, ?_⟩
      · rwa [downLoaders, Function.update_self]
      · rwa [downLoaders, Function.update_self]
      · rw [downLoaders, Function.update_self]
      · rw [downLoaders, Function.update_self]
        simp only [(mirrors.of_waiting waiting).1]
        exact .unknown
    · apply (owned.entry registered).of_same downLoaderCount.ge
      · rw [downLoaders, Function.update_of_ne mine]
      · intro other held
        rcases owned.current held with ⟨otherRecord, otherFound, _⟩
        exact otherTasks (owned.apart found mine held) (owned.used otherFound).1.ne

theorem response (owned : Owned world) {response : NSHTTPURLResponse} {io : LocalIO}
    (deliverable : world.Deliverable (.response task response io)) :
    Owned (world.deliver (.response task response io)) := by
  rcases exists_of_response deliverable with ⟨record, found, waiting⟩
  have current := owned.active found (Or.inl waiting)
  have infos := downLoaderInfos_response response io found
  rcases lt_trichotomy ((world.downLoaders record.delegate).tmpSize : ℤ) response.totalSize with
    short | full | oversized
  · refine owned.of_touches found current (touches_opened io found short) rfl rfl rfl rfl infos ?_
    intro mirrors
    simp only [(mirrors.of_waiting waiting).2]
    exact .downing
  · refine owned.of_touches found current (touches_finished io found full) rfl rfl rfl rfl infos ?_
    intro mirrors
    simp only [(mirrors.of_waiting waiting).2]
    exact .success
  · exact owned.restarted found waiting oversized

theorem data (owned : Owned world) {bytes : List UInt8} {io : LocalIO}
    (deliverable : world.Deliverable (.data task bytes io)) :
    Owned (world.deliver (.data task bytes io)) := by
  rcases exists_of_data deliverable with ⟨record, found, allowed⟩
  exact owned.of_touches found (owned.active found (Or.inr allowed)) (touches_data bytes io found)
    rfl rfl rfl rfl (downLoaderInfos_data bytes io found) id

/-- The entry of the delegate goes with the first completion event of one of its tasks. -/
theorem complete (owned : Owned world) {error : Option NSError} {io : LocalIO}
    (deliverable : world.Deliverable (.complete task error io)) :
    Owned (world.deliver (.complete task error io)) := by
  rcases exists_of_complete deliverable with ⟨record, found, _, _⟩
  have touches := touches_complete error io found
  have ended : (world.deliver (.complete task error io)).tasks task =
      some { record with phase := .ended } := by
    rw [touches.tasks, Function.update_self]
  constructor
  · intro other otherRecord otherFound
    rw [touches.taskCount, touches.downLoaderCount]
    by_cases same : other = task
    · subst same
      cases ended.symm.trans otherFound
      have bounds := owned.used found
      exact bounds
    · rw [touches.tasks, Function.update_of_ne same] at otherFound
      exact owned.used otherFound
  · intro loader other held
    have heldBefore : (world.downLoaders loader).task = some other ∧ other ≠ task := by
      by_cases mine : loader = record.delegate
      · subst mine
        rw [touches.downLoaders, Function.update_self] at held
        simp only at held
        split at held
        · cases held
        · rename_i released
          refine ⟨held, ?_⟩
          rintro rfl
          exact released held
      · rw [touches.downLoaders, Function.update_of_ne mine] at held
        exact ⟨held, owned.apart found mine held⟩
    rcases owned.current heldBefore.1 with ⟨otherRecord, otherFound, otherDelegate⟩
    refine ⟨otherRecord, ?_, otherDelegate⟩
    rwa [touches.tasks, Function.update_of_ne heldBefore.2]
  · intro other otherRecord otherFound running
    by_cases same : other = task
    · subst same
      cases ended.symm.trans otherFound
      simp at running
    · rw [touches.tasks, Function.update_of_ne same] at otherFound
      have current := owned.active otherFound running
      by_cases mine : otherRecord.delegate = record.delegate
      · rw [mine] at current ⊢
        rw [touches.downLoaders, Function.update_self]
        simp [current, same]
      · rwa [touches.downLoaders, Function.update_of_ne mine]
  · intro key loader registered
    rw [downLoaderInfos_complete error io found, lookup_withoutKey] at registered
    split at registered
    · cases registered
    · rename_i kept
      have different : loader ≠ record.delegate := by
        rintro rfl
        apply kept
        cases error with
        | none => exact (owned.entry registered).success
        | some failure => exact (owned.entry registered).fail
      apply (owned.entry registered).of_same touches.downLoaderCount.ge
      · rw [touches.downLoaders, Function.update_of_ne different]
      · intro other held
        rw [touches.tasks, Function.update_of_ne (owned.apart found different held)]

theorem beginsCached (owned : Owned world) {digest : MessageDigest} {url : NSURL}
    {blocks : ClientBlocks} (begins : BeginsCached digest world url blocks after) :
    Owned after := by
  have other : ∀ {loader}, loader < world.downLoaderCount →
      after.downLoaders loader = world.downLoaders loader := by
    intro loader old
    rw [begins.downLoaders, Function.update_of_ne old.ne]
  constructor
  · intro task record found
    rw [begins.tasks] at found
    rw [begins.taskCount, begins.downLoaderCount]
    have bounds := owned.used found
    exact ⟨bounds.1, Nat.lt_succ_of_lt bounds.2⟩
  · intro loader task held
    rw [begins.downLoaders] at held
    rw [begins.tasks]
    by_cases fresh : loader = world.downLoaderCount
    · subst fresh
      rw [Function.update_self] at held
      cases held
    · rw [Function.update_of_ne fresh] at held
      exact owned.current held
  · intro task record found running
    rw [begins.tasks] at found
    rw [other (owned.used found).2]
    exact owned.active found running
  · intro key loader registered
    rw [begins.lookup] at registered
    apply (owned.entry registered).of_same
    · rw [begins.downLoaderCount]
      exact Nat.le_succ _
    · exact other (owned.entry registered).used
    · intro task _
      rw [begins.tasks]

theorem beginsTask (owned : Owned world) {digest : MessageDigest} {url : NSURL}
    {blocks : ClientBlocks} (begins : BeginsTask digest world url blocks after) :
    Owned after := by
  have started : after.tasks world.taskCount =
      some (begunTask digest world url) := by
    rw [begins.tasks, Function.update_self]
  have current : (after.downLoaders world.downLoaderCount).task = some world.taskCount := by
    rw [begins.downLoaders, Function.update_self]
    rfl
  have other : ∀ {loader}, loader < world.downLoaderCount →
      after.downLoaders loader = world.downLoaders loader := by
    intro loader old
    rw [begins.downLoaders, Function.update_of_ne old.ne]
  have kept : ∀ {task record}, world.tasks task = some record →
      ∃ cancelled, after.tasks task = some { record with cancelled } := by
    intro task record found
    rcases marked_eq (world.register (url.key digest)) world.downLoaderCount
      record with ⟨cancelled, marked⟩
    refine ⟨cancelled, ?_⟩
    rw [begins.tasks, Function.update_of_ne (owned.used found).1.ne, tasks_cancel, ← marked]
    simp [register, found]
  have old : ∀ {task record}, task ≠ world.taskCount → after.tasks task = some record →
      ∃ before, world.tasks task = some before ∧ before.phase = record.phase ∧
        before.delegate = record.delegate := by
    intro task record different found
    rw [begins.tasks, Function.update_of_ne different] at found
    rcases DataTask.exists_of_unflagged (unflagged_cancel task) found with
      ⟨before, foundBefore, agree⟩
    exact ⟨before, foundBefore, DataTask.phase_eq agree, DataTask.delegate_eq agree⟩
  constructor
  · intro task record found
    rw [begins.taskCount, begins.downLoaderCount]
    by_cases fresh : task = world.taskCount
    · subst fresh
      cases started.symm.trans found
      exact ⟨Nat.lt_succ_self _, Nat.lt_succ_self _⟩
    · rcases old fresh found with ⟨before, foundBefore, _, delegate⟩
      have bounds := owned.used foundBefore
      rw [← delegate]
      exact ⟨Nat.lt_succ_of_lt bounds.1, Nat.lt_succ_of_lt bounds.2⟩
  · intro loader task held
    by_cases fresh : loader = world.downLoaderCount
    · subst fresh
      cases current.symm.trans held
      exact ⟨_, started, rfl⟩
    · rw [begins.downLoaders, Function.update_of_ne fresh] at held
      rcases owned.current held with ⟨record, found, delegate⟩
      rcases kept found with ⟨cancelled, foundAfter⟩
      exact ⟨_, foundAfter, delegate⟩
  · intro task record found running
    by_cases fresh : task = world.taskCount
    · subst fresh
      cases started.symm.trans found
      exact current
    · rcases old fresh found with ⟨before, foundBefore, phase, delegate⟩
      rw [← delegate, other (owned.used foundBefore).2]
      rw [← phase] at running
      exact owned.active foundBefore running
  · intro key loader registered
    rw [begins.lookup] at registered
    split at registered
    · rename_i same
      cases registered
      subst same
      refine ⟨by rw [begins.downLoaderCount]; exact Nat.lt_succ_self _, ?_, ?_, _, _, current,
        started, ?_⟩
      all_goals rw [begins.downLoaders, Function.update_self]
      · rfl
      · rfl
      · exact .unknown
    · apply (owned.entry registered).of_marked
      · rw [begins.downLoaderCount]
        exact Nat.le_succ _
      · exact other (owned.entry registered).used
      · intro task record _ found
        exact kept found

theorem kill (owned : Owned world) : Owned world.kill where
  used := by
    intro task record found
    simp only [World.kill, Option.map_eq_some_iff] at found
    rcases found with ⟨before, foundBefore, rfl⟩
    have bounds := owned.used foundBefore
    exact bounds
  current := nofun
  active := by
    intro task record found running
    simp only [World.kill, Option.map_eq_some_iff] at found
    rcases found with ⟨before, foundBefore, rfl⟩
    simp at running
  entry := nofun

theorem begin (owned : Owned world) {digest : MessageDigest} {url : NSURL}
    {blocks : ClientBlocks} (unregistered : world.registered digest url = none) :
    Owned (world.begin digest url blocks) := by
  by_cases occupied : world.files.Occupied url.cachePath
  · exact owned.beginsCached (begin_cached blocks unregistered occupied)
  · exact owned.beginsTask (begin_task _ blocks occupied)

theorem deliver (owned : Owned world) {event : DelegateEvent}
    (deliverable : world.Deliverable event) : Owned (world.deliver event) := by
  cases event with
  | response task response io => exact owned.response deliverable
  | data task bytes io => exact owned.data deliverable
  | complete task error io => exact owned.complete deliverable

theorem call (owned : Owned world) (digest : MessageDigest) (call : ManagerCall) :
    Owned (world.call digest call) := by
  apply call_induction owned
  · intro world loader owned
    exact owned.switch loader (Or.inl ⟨rfl, rfl, rfl⟩)
  · intro world loader owned
    exact owned.switch loader (Or.inr ⟨rfl, rfl, rfl⟩)
  · intro world loader owned
    exact owned.cancel loader
  · intro url blocks _ unregistered
    exact owned.begin unregistered

end Owned

theorem owned_preserved (digest : MessageDigest) : (managerSystem digest).Preserves Owned := by
  intro world action owned admitted
  cases action with
  | call call => exact owned.call digest call
  | deliver event => exact owned.deliver admitted
  | kill => exact owned.kill

/-- The invariant holds in every state that a run of the app reaches. -/
theorem owned_reachable {digest : MessageDigest} {files : FileSystem Path}
    (reachable : (managerSystem digest).Reachable (launch files) world) : Owned world :=
  (owned_preserved digest).reachable (owned_launch files) reachable

end Steps

end ZFBaseFramework
