import ZFBaseFramework.Manager.Reentrancy
import ZFBaseFramework.Manager.Registry

/-!
# The dictionary while client blocks run

A client block may call the manager when a completion has removed an entry but its task is
not released yet, or when a cached file is announced for a downloader without a task.
`Coherent` says how far the dictionary and the live tasks are apart in between: by the
downloaders that pending calls announce, and by the task that a pending completion
releases. When the main queue is free again they mirror each other.
-/

namespace ZFBaseFramework

open World

/-- What ties a task to the dictionary. -/
def DataTask.role (record : DataTask) : NSURL × DownLoaderId × Prop :=
  (record.originalURL, record.delegate, record.phase = .ended)

/-- What ties a downloader to the dictionary. -/
def ZFDownLoader.role (fields : ZFDownLoader) :
    Option TaskId × Option Path × Option CompletionBlock × Option CompletionBlock :=
  (fields.task, fields.downLoadTmpPath, fields.dloadSuccess, fields.dlFail)

/-- The downloader whose success or fail block is called. -/
def Effect.concludes : Effect → Option DownLoaderId
  | .success loader _ _ => some loader
  | .fail loader _ => some loader
  | _ => none

/-- The downloaders that have called a completion block, once for each call. -/
def World.concluded (world : World) : List DownLoaderId := world.log.filterMap Effect.concludes

/-- The tasks that there were still have their roles. -/
def KeepsRoles (world after : World) : Prop :=
  ∀ {task record}, world.tasks task = some record →
    ∃ later, after.tasks task = some later ∧ later.role = record.role

/-- Tasks and downloaders have the roles they had, and the dictionary is the same. -/
structure SameRoles (world after : World) : Prop where
  tasks : ∀ task, (after.tasks task).map DataTask.role = (world.tasks task).map DataTask.role
  downLoaders : ∀ loader, (after.downLoaders loader).role = (world.downLoaders loader).role
  downLoaderInfos : after.downLoaderInfos = world.downLoaderInfos
  taskCount : after.taskCount = world.taskCount
  downLoaderCount : after.downLoaderCount = world.downLoaderCount
  concluded : after.concluded = world.concluded

namespace Frame

/-- The downloader without a task that a pending call has registered. -/
def announces : Frame → Option DownLoaderId
  | .announceCached loader => some loader
  | .succeed loader => some loader
  | _ => none

/-- The frame belongs to a call of the manager. -/
def InCall : Frame → Prop
  | .announceCached _ => True
  | .succeed _ => True
  | .pauseRest _ => True
  | .resumeRest _ => True
  | .nothing => True
  | _ => False

/-- What a pending method of the delegate relies on. -/
def Fits (world : World) : Frame → Prop
  | .settle _ task _ _ => world.Live task
  | .answer task phase => world.Live task ∧ phase ≠ .ended
  | .write _ _ _ _ => True
  | .outcome loader task _ => ∃ record, world.tasks task = some record ∧
      record.phase ≠ .ended ∧ record.delegate = loader
  | .release _ task => world.Live task
  | _ => False

/-- The tmp file turns out to be longer than the resource, and the downloader starts over. -/
def Restarts (world : World) : Frame → Prop
  | .settle loader _ _ _ =>
      (world.downLoaders loader).totalSize < (world.downLoaders loader).tmpSize
  | _ => False

end Frame

/-- A completion has called its outcome block and will release the task. -/
def Releases (event : Option Frame) (task : TaskId) : Prop :=
  ∃ loader, event = some (.release loader task)

/-- The task is the current one of the downloader that is registered for its URL. -/
structure Holds (digest : MessageDigest) (world : World) (task : TaskId) (record : DataTask) :
    Prop where
  registered : world.registered digest record.originalURL = some record.delegate
  current : (world.downLoaders record.delegate).task = some task
  tmpPath : (world.downLoaders record.delegate).downLoadTmpPath =
    some (record.originalURL.tmpPath digest)

/-- The dictionary and the live tasks mirror each other up to what is pending. -/
structure Coherent (digest : MessageDigest) (used : Set NSURL) (world : World)
    (announced : List DownLoaderId) (event : Option Frame) : Prop where
  bounds : ∀ {task record}, world.tasks task = some record →
    task < world.taskCount ∧ record.delegate < world.downLoaderCount
  live : ∀ {task record}, world.tasks task = some record → record.phase ≠ .ended →
    record.originalURL ∈ used ∧ (Holds digest world task record ∨ Releases event task)
  entry : ∀ {key loader}, world.downLoaderInfos.lookup key = some loader →
    loader < world.downLoaderCount ∧
      (world.downLoaders loader).dloadSuccess.bind CompletionBlock.registryKey = some key ∧
      (world.downLoaders loader).dlFail.bind CompletionBlock.registryKey = some key ∧
      (loader ∈ announced ∨ ∃ task record, world.tasks task = some record ∧
        record.phase ≠ .ended ∧ record.originalURL.key digest = key ∧
        record.delegate = loader ∧ ¬Releases event task)
  taskless : ∀ loader ∈ announced, (∃ key, world.downLoaderInfos.lookup key = some loader) ∧
    (world.downLoaders loader).task = none
  distinct : announced.Nodup
  concluded : ∀ loader ∈ world.concluded, loader < world.downLoaderCount ∧
    ∀ key, world.downLoaderInfos.lookup key ≠ some loader
  once : world.concluded.Nodup
  fits : ∀ frame ∈ event, frame.Fits world

section Roles

variable {world middle after : World} {loader : DownLoaderId} {task : TaskId} {frame : Frame}

theorem Frame.Fits.of_keepsRoles (fits : frame.Fits world) (keeps : KeepsRoles world after) :
    frame.Fits after := by
  have live : ∀ {task record}, world.tasks task = some record → record.phase ≠ .ended →
      ∃ later, after.tasks task = some later ∧ later.phase ≠ .ended ∧
        later.delegate = record.delegate := by
    intro task record found unfinished
    rcases keeps found with ⟨later, foundLater, same⟩
    simp only [DataTask.role, Prod.mk.injEq] at same
    exact ⟨later, foundLater, same.2.2.to_iff.not.mpr unfinished, same.2.1⟩
  cases frame with
  | settle | release =>
      rcases fits with ⟨record, found, unfinished⟩
      rcases live found unfinished with ⟨later, foundLater, unfinishedLater, _⟩
      exact ⟨later, foundLater, unfinishedLater⟩
  | answer task phase =>
      rcases fits with ⟨⟨record, found, unfinished⟩, open_⟩
      rcases live found unfinished with ⟨later, foundLater, unfinishedLater, _⟩
      exact ⟨⟨later, foundLater, unfinishedLater⟩, open_⟩
  | outcome loader task error =>
      rcases fits with ⟨record, found, unfinished, delegate⟩
      rcases live found unfinished with ⟨later, foundLater, unfinishedLater, same⟩
      exact ⟨later, foundLater, unfinishedLater, same.trans delegate⟩
  | write => trivial
  | announceCached | succeed | pauseRest | resumeRest | nothing => exact fits.elim

namespace SameRoles

theorem refl (world : World) : SameRoles world world :=
  ⟨fun _ => rfl, fun _ => rfl, rfl, rfl, rfl, rfl⟩

theorem trans (first : SameRoles world middle) (second : SameRoles middle after) :
    SameRoles world after where
  tasks task := (second.tasks task).trans (first.tasks task)
  downLoaders loader := (second.downLoaders loader).trans (first.downLoaders loader)
  downLoaderInfos := second.downLoaderInfos.trans first.downLoaderInfos
  taskCount := second.taskCount.trans first.taskCount
  downLoaderCount := second.downLoaderCount.trans first.downLoaderCount
  concluded := second.concluded.trans first.concluded

theorem symm (same : SameRoles world after) : SameRoles after world where
  tasks task := (same.tasks task).symm
  downLoaders loader := (same.downLoaders loader).symm
  downLoaderInfos := same.downLoaderInfos.symm
  taskCount := same.taskCount.symm
  downLoaderCount := same.downLoaderCount.symm
  concluded := same.concluded.symm

theorem keepsRoles (same : SameRoles world after) : KeepsRoles world after := by
  intro task record found
  have later := same.tasks task
  rw [found, Option.map_some, Option.map_eq_some_iff] at later
  exact later

theorem of_sameTransfers (same : SameTransfers world after)
    (taskCount : after.taskCount = world.taskCount)
    (downLoaderCount : after.downLoaderCount = world.downLoaderCount)
    (concluded : after.concluded = world.concluded) : SameRoles world after where
  tasks task := by
    have role : DataTask.role = DataTask.role ∘ DataTask.unflagged := rfl
    rw [role, ← Option.map_map, ← Option.map_map, same.tasks]
  downLoaders loader := by
    rcases same.downLoaders loader with ⟨state, session, fields⟩
    rw [fields, ZFDownLoader.role, ZFDownLoader.role]
  downLoaderInfos := same.downLoaderInfos
  taskCount := taskCount
  downLoaderCount := downLoaderCount
  concluded := concluded

variable (world loader) in
theorem modify {change : ZFDownLoader → ZFDownLoader}
    (kept : (change (world.downLoaders loader)).role = (world.downLoaders loader).role) :
    SameRoles world (world.modify loader change) where
  tasks _ := rfl
  downLoaders other := by
    rw [modify_downLoaders, Function.update_apply]
    split
    · rename_i same
      rw [kept, same]
    · rfl
  downLoaderInfos := rfl
  taskCount := rfl
  downLoaderCount := rfl
  concluded := rfl

variable (world task) in
theorem mapTask {change : DataTask → DataTask}
    (kept : ∀ record, world.tasks task = some record → (change record).role = record.role) :
    SameRoles world (world.mapTask task change) where
  tasks other := by
    simp only [World.mapTask, mapTasks_tasks]
    cases found : world.tasks other with
    | none => rfl
    | some record =>
        rw [Option.map_some, Option.map_some, Option.map_some]
        split
        · rename_i same
          rw [kept record (same ▸ found)]
        · rfl
  downLoaders _ := rfl
  downLoaderInfos := rfl
  taskCount := rfl
  downLoaderCount := rfl
  concluded := rfl

variable (world loader)

theorem record {effect : Effect} (silent : effect.concludes = none) :
    SameRoles world (world.record effect) where
  tasks _ := rfl
  downLoaders _ := rfl
  downLoaderInfos := rfl
  taskCount := rfl
  downLoaderCount := rfl
  concluded := List.filterMap_cons_none silent

theorem withFiles (files : FileSystem Path) : SameRoles world (world.withFiles files) :=
  ⟨fun _ => rfl, fun _ => rfl, rfl, rfl, rfl, rfl⟩

theorem moveTmp (io : LocalIO) : SameRoles world (world.moveTmp loader io) where
  tasks _ := rfl
  downLoaders _ := rfl
  downLoaderInfos := rfl
  taskCount := rfl
  downLoaderCount := rfl
  concluded := by
    rw [World.concluded, World.moveTmp, recordIf_log]
    split <;> rfl

theorem setState (state : ZFDownLoaderState) : SameRoles world (world.setState loader state) :=
  (modify world loader rfl).trans (record _ rfl)

theorem switch (source target : ZFDownLoaderState) (suspended : Bool) :
    SameRoles world (world.switch loader source target suspended) := by
  apply of_sameTransfers (sameTransfers_switch world loader source target suspended)
    taskCount_switch downLoaderCount_switch
  rw [World.concluded, log_switch]
  split <;> rfl

theorem cancel : SameRoles world (world.cancel loader) := by
  apply of_sameTransfers (sameTransfers_cancel world loader) taskCount_cancel
    downLoaderCount_cancel
  rw [World.concluded, log_cancel, World.concluded]

theorem writeBytes (task : TaskId) (bytes : List UInt8) (io : LocalIO) :
    SameRoles world (world.writeBytes loader task bytes io) := by
  rw [World.writeBytes]
  split
  · exact refl world
  · exact (withFiles world _).trans (record _ rfl)

theorem finish (error : Option NSError) (io : LocalIO) :
    SameRoles world (world.finish loader error io) := by
  have closed : SameRoles world (world.closeStream loader) := modify world loader rfl
  cases error with
  | none => exact (closed.trans (moveTmp _ loader io)).trans (setState _ loader .success)
  | some failure => exact closed.trans (setState _ loader .fail)

theorem answer {phase : TaskPhase} (live : world.Live task) (running : phase ≠ .ended) :
    SameRoles world (world.answer task phase) := by
  apply mapTask
  intro record found
  rcases live with ⟨other, otherFound, unfinished⟩
  cases found.symm.trans otherFound
  simp only [DataTask.role, Prod.mk.injEq, true_and, eq_iff_iff]
  exact iff_of_false running unfinished

end SameRoles

section Registration

variable {digest : MessageDigest} {url : NSURL} {blocks : ClientBlocks}

/-- A fresh downloader with these fields is registered for a URL. -/
structure Registers (digest : MessageDigest) (world : World) (url : NSURL) (fields : ZFDownLoader)
    (after : World) : Prop where
  unregistered : world.registered digest url = none
  downLoaders : after.downLoaders =
    Function.update world.downLoaders world.downLoaderCount fields
  downLoaderCount : after.downLoaderCount = world.downLoaderCount + 1
  lookup : ∀ key, after.downLoaderInfos.lookup key =
    if key = url.key digest then some world.downLoaderCount
    else world.downLoaderInfos.lookup key
  success : fields.dloadSuccess.bind CompletionBlock.registryKey = some (url.key digest)
  fail : fields.dlFail.bind CompletionBlock.registryKey = some (url.key digest)
  keeps : KeepsRoles world after
  concluded : after.concluded = world.concluded

theorem registers_named (unregistered : world.registered digest url = none)
    (blocks : ClientBlocks) :
    Registers digest world url (calledFields digest {} url (blocks.wrap (url.key digest)))
      ((named digest (world.register (url.key digest)) world.downLoaderCount url
        (blocks.wrap (url.key digest))).reportCached world.downLoaderCount url) where
  unregistered := unregistered
  downLoaders := by simp [reportCached, callInfo, register]
  downLoaderCount := rfl
  lookup key := by
    by_cases same : key = url.key digest
    · subst same
      simp [reportCached, callInfo, register]
    · simp [reportCached, callInfo, register, same, AList.lookup_insert_ne same]
  success := rfl
  fail := rfl
  keeps found := ⟨_, found, rfl⟩
  concluded := rfl

/-- A task that there was before a download began. -/
theorem exists_of_beginsTask (begins : BeginsTask digest world url blocks after)
    {record : DataTask} (found : after.tasks task = some record) (old : task ≠ world.taskCount) :
    ∃ before, world.tasks task = some before ∧ before.role = record.role := by
  rw [begins.tasks, Function.update_of_ne old] at found
  rcases DataTask.exists_of_unflagged (unflagged_cancel task) found with
    ⟨before, foundBefore, agree⟩
  have same : before.unflagged.role = record.unflagged.role := congrArg DataTask.role agree
  exact ⟨before, foundBefore, same⟩

theorem registers_of_beginsTask (unregistered : world.registered digest url = none)
    (begins : BeginsTask digest world url blocks after)
    (old : ∀ {task record}, world.tasks task = some record → task ≠ world.taskCount) :
    Registers digest world url (begunFields digest world url blocks) after where
  unregistered := unregistered
  downLoaders := begins.downLoaders
  downLoaderCount := begins.downLoaderCount
  lookup := begins.lookup
  success := rfl
  fail := rfl
  keeps := by
    intro task record found
    rcases marked_eq (world.register (url.key digest)) world.downLoaderCount record with
      ⟨cancelled, marked⟩
    refine ⟨{ record with cancelled }, ?_, rfl⟩
    rw [begins.tasks, Function.update_of_ne (old found), tasks_cancel, ← marked]
    simp [register, found]
  concluded := by
    rw [World.concluded, begins.log]
    rfl

end Registration

/-- A downloader calls its completion block, which removes its entry. -/
structure Concludes (world : World) (key : String) (loader : DownLoaderId) (after : World) :
    Prop where
  found : world.downLoaderInfos.lookup key = some loader
  lookup : ∀ other, after.downLoaderInfos.lookup other =
    if key = other then none else world.downLoaderInfos.lookup other
  tasks : after.tasks = world.tasks
  downLoaders : after.downLoaders = world.downLoaders
  taskCount : after.taskCount = world.taskCount
  downLoaderCount : after.downLoaderCount = world.downLoaderCount
  concluded : after.concluded = loader :: world.concluded

/-- An entry that is left was there before, under another key. -/
theorem Concludes.lookup_eq_some {key otherKey : String} {other : DownLoaderId}
    (concludes : Concludes world key loader after)
    (registered : after.downLoaderInfos.lookup otherKey = some other) :
    key ≠ otherKey ∧ world.downLoaderInfos.lookup otherKey = some other := by
  rw [concludes.lookup] at registered
  split at registered
  · cases registered
  · rename_i apart
    exact ⟨apart, registered⟩

end Roles

namespace Coherent

variable {digest : MessageDigest} {used : Set NSURL} {world after : World}
  {announced : List DownLoaderId} {event next : Option Frame} {loader : DownLoaderId}
  {task : TaskId} {url : NSURL} {fields : ZFDownLoader}

/-- Nothing moves in the dictionary, and a pending method of the delegate goes on. -/
theorem of_sameRoles (coherent : Coherent digest used world announced event)
    (same : SameRoles world after) (releases : ∀ task, Releases next task ↔ Releases event task)
    (fits : ∀ frame ∈ next, frame.Fits after) : Coherent digest used after announced next := by
  have before : ∀ {task record}, after.tasks task = some record →
      ∃ earlier, world.tasks task = some earlier ∧
        earlier.originalURL = record.originalURL ∧ earlier.delegate = record.delegate ∧
        (earlier.phase = .ended ↔ record.phase = .ended) := by
    intro task record found
    rcases same.symm.keepsRoles found with ⟨earlier, foundBefore, roles⟩
    simp only [DataTask.role, Prod.mk.injEq, eq_iff_iff] at roles
    exact ⟨earlier, foundBefore, roles⟩
  have fields : ∀ loader, (after.downLoaders loader).task = (world.downLoaders loader).task ∧
      (after.downLoaders loader).downLoadTmpPath = (world.downLoaders loader).downLoadTmpPath ∧
      (after.downLoaders loader).dloadSuccess = (world.downLoaders loader).dloadSuccess ∧
      (after.downLoaders loader).dlFail = (world.downLoaders loader).dlFail := by
    intro loader
    have roles := same.downLoaders loader
    simpa only [ZFDownLoader.role, Prod.mk.injEq] using roles
  constructor
  · intro task record found
    rcases before found with ⟨earlier, foundBefore, _, delegate, _⟩
    rw [same.taskCount, same.downLoaderCount, ← delegate]
    exact coherent.bounds foundBefore
  · intro task record found unfinished
    rcases before found with ⟨earlier, foundBefore, url, delegate, phase⟩
    rcases coherent.live foundBefore (phase.not.mpr unfinished) with ⟨usedURL, state⟩
    refine ⟨url ▸ usedURL, ?_⟩
    rw [releases]
    apply state.imp_left
    rintro ⟨registered, current, tmpPath⟩
    rw [url, delegate] at registered tmpPath
    rw [delegate] at current
    refine ⟨?_, ?_, ?_⟩
    · rwa [World.registered, same.downLoaderInfos]
    · rwa [(fields _).1]
    · rwa [(fields _).2.1]
  · intro key loader found
    rw [same.downLoaderInfos] at found
    rcases coherent.entry found with ⟨below, success, fail, state⟩
    rw [same.downLoaderCount, (fields loader).2.2.1, (fields loader).2.2.2]
    refine ⟨below, success, fail, state.imp_right ?_⟩
    rintro ⟨task, record, foundBefore, unfinished, keyed, delegate, kept⟩
    rcases same.keepsRoles foundBefore with ⟨later, foundLater, roles⟩
    simp only [DataTask.role, Prod.mk.injEq, eq_iff_iff] at roles
    refine ⟨task, later, foundLater, roles.2.2.not.mpr unfinished, ?_, ?_, ?_⟩
    · rwa [roles.1]
    · rwa [roles.2.1]
    · rwa [releases]
  · intro loader listed
    rw [same.downLoaderInfos, (fields loader).1]
    exact coherent.taskless loader listed
  · exact coherent.distinct
  · rw [same.concluded, same.downLoaderCount, same.downLoaderInfos]
    exact coherent.concluded
  · rw [same.concluded]
    exact coherent.once
  · exact fits

/-- A call of the manager on top of it leaves a pending method of the delegate alone. -/
theorem call_sameRoles (coherent : Coherent digest used world announced event)
    (same : SameRoles world after) : Coherent digest used after announced event := by
  apply coherent.of_sameRoles same (fun _ => Iff.rfl)
  intro frame pending
  exact (coherent.fits frame pending).of_keepsRoles same.keepsRoles

/-- Every entry is that of an old downloader, and a registration leaves that alone. -/
theorem old_of_registers (coherent : Coherent digest used world announced event)
    (registers : Registers digest world url fields after) {key : String}
    (found : world.downLoaderInfos.lookup key = some loader) :
    loader < world.downLoaderCount ∧ after.downLoaders loader = world.downLoaders loader ∧
      after.downLoaderInfos.lookup key = some loader := by
  have below := (coherent.entry found).1
  refine ⟨below, ?_, ?_⟩
  · rw [registers.downLoaders, Function.update_of_ne below.ne]
  · rw [registers.lookup, if_neg]
    · exact found
    · rintro rfl
      have unregistered := registers.unregistered
      rw [World.registered, found] at unregistered
      cases unregistered

/-- What is known of a task that there was before a registration. -/
theorem live_of_registers (coherent : Coherent digest used world announced event)
    (registers : Registers digest world url fields after) {record before : DataTask}
    (found : world.tasks task = some before) (same : before.role = record.role)
    (unfinished : record.phase ≠ .ended) :
    record.originalURL ∈ used ∧ (Holds digest after task record ∨ Releases event task) := by
  simp only [DataTask.role, Prod.mk.injEq, eq_iff_iff] at same
  rcases same with ⟨origin, delegate, phase⟩
  rcases coherent.live found (phase.not.mpr unfinished) with ⟨usedURL, state⟩
  refine ⟨origin ▸ usedURL, state.imp_left ?_⟩
  rintro ⟨registered, current, tmpPath⟩
  rw [origin, delegate] at registered tmpPath
  rw [delegate] at current
  rcases coherent.old_of_registers registers registered with ⟨_, kept, registered⟩
  exact ⟨registered, by rwa [kept], by rwa [kept]⟩

/-- The entries after a registration, of which the new one is still to be justified. -/
theorem entry_of_registers (coherent : Coherent digest used world announced event)
    (registers : Registers digest world url fields after) {later : List DownLoaderId}
    (listed : ∀ loader ∈ announced, loader ∈ later)
    (justified : world.downLoaderCount ∈ later ∨ ∃ task record, after.tasks task = some record ∧
      record.phase ≠ .ended ∧ record.originalURL.key digest = url.key digest ∧
      record.delegate = world.downLoaderCount ∧ ¬Releases event task)
    {key : String} (found : after.downLoaderInfos.lookup key = some loader) :
    loader < after.downLoaderCount ∧
      (after.downLoaders loader).dloadSuccess.bind CompletionBlock.registryKey = some key ∧
      (after.downLoaders loader).dlFail.bind CompletionBlock.registryKey = some key ∧
      (loader ∈ later ∨ ∃ task record, after.tasks task = some record ∧
        record.phase ≠ .ended ∧ record.originalURL.key digest = key ∧
        record.delegate = loader ∧ ¬Releases event task) := by
  rw [registers.lookup] at found
  rw [registers.downLoaderCount]
  split at found
  · rename_i same
    cases found
    rw [registers.downLoaders, Function.update_self, same]
    exact ⟨Nat.lt_succ_self _, registers.success, registers.fail, justified⟩
  · rcases coherent.old_of_registers registers found with ⟨below, kept, _⟩
    rcases coherent.entry found with ⟨_, success, fail, state⟩
    rw [kept]
    refine ⟨Nat.lt_succ_of_lt below, success, fail, state.imp (listed loader) ?_⟩
    rintro ⟨task, record, foundTask, unfinished, keyed, delegate, going⟩
    rcases registers.keeps foundTask with ⟨laterRecord, foundLater, same⟩
    simp only [DataTask.role, Prod.mk.injEq, eq_iff_iff] at same
    refine ⟨task, laterRecord, foundLater, same.2.2.not.mpr unfinished, ?_, ?_, going⟩
    · rwa [same.1]
    · rwa [same.2.1]

theorem taskless_of_registers (coherent : Coherent digest used world announced event)
    (registers : Registers digest world url fields after) (listed : loader ∈ announced) :
    (∃ key, after.downLoaderInfos.lookup key = some loader) ∧
      (after.downLoaders loader).task = none := by
  rcases coherent.taskless loader listed with ⟨⟨key, found⟩, idle⟩
  rcases coherent.old_of_registers registers found with ⟨_, kept, registered⟩
  exact ⟨⟨key, registered⟩, by rwa [kept]⟩

/-- A registration gives no entry to a downloader that has called its block. -/
theorem concluded_of_registers (coherent : Coherent digest used world announced event)
    (registers : Registers digest world url fields after) (listed : loader ∈ after.concluded) :
    loader < after.downLoaderCount ∧
      ∀ key, after.downLoaderInfos.lookup key ≠ some loader := by
  rw [registers.concluded] at listed
  rcases coherent.concluded loader listed with ⟨below, absent⟩
  refine ⟨registers.downLoaderCount ▸ Nat.lt_succ_of_lt below, ?_⟩
  intro key found
  rw [registers.lookup] at found
  split at found
  · cases found
    exact below.false
  · exact absent key found

/-- A cached file is announced for a downloader that is registered without a task. -/
theorem announce (coherent : Coherent digest used world announced event)
    (unregistered : world.registered digest url = none) (blocks : ClientBlocks) :
    Coherent digest used ((named digest (world.register (url.key digest)) world.downLoaderCount url
      (blocks.wrap (url.key digest))).reportCached world.downLoaderCount url)
      (world.downLoaderCount :: announced) event := by
  have registers := registers_named unregistered blocks
  constructor
  · intro task record found
    exact (coherent.bounds found).imp_right Nat.lt_succ_of_lt
  · intro task record found unfinished
    exact coherent.live_of_registers registers found rfl unfinished
  · intro key loader found
    exact coherent.entry_of_registers registers (fun _ => List.mem_cons_of_mem _)
      (Or.inl List.mem_cons_self) found
  · intro loader listed
    rcases List.mem_cons.mp listed with rfl | listed
    · refine ⟨⟨url.key digest, ?_⟩, ?_⟩
      · rw [registers.lookup, if_pos rfl]
      · rw [registers.downLoaders, Function.update_self]
        rfl
    · exact coherent.taskless_of_registers registers listed
  · refine List.nodup_cons.mpr ⟨?_, coherent.distinct⟩
    intro listed
    rcases coherent.taskless _ listed with ⟨⟨key, found⟩, _⟩
    exact (coherent.entry found).1.false
  · intro loader listed
    exact coherent.concluded_of_registers registers listed
  · rw [registers.concluded]
    exact coherent.once
  · intro frame pending
    exact (coherent.fits frame pending).of_keepsRoles registers.keeps

/-- A download begins with a task. -/
theorem begin (coherent : Coherent digest used world announced event) {blocks : ClientBlocks}
    (usedURL : url ∈ used) (unregistered : world.registered digest url = none)
    (begins : BeginsTask digest world url blocks after) :
    Coherent digest used after announced event := by
  have old : ∀ {task record}, world.tasks task = some record → task ≠ world.taskCount :=
    fun found => (coherent.bounds found).1.ne
  have registers := registers_of_beginsTask unregistered begins old
  have started : after.tasks world.taskCount = some (begunTask digest world url) := by
    rw [begins.tasks, Function.update_self]
  have fields : after.downLoaders world.downLoaderCount = begunFields digest world url blocks := by
    rw [begins.downLoaders, Function.update_self]
  constructor
  · intro task record found
    rw [begins.taskCount, begins.downLoaderCount]
    by_cases fresh : task = world.taskCount
    · subst fresh
      cases started.symm.trans found
      exact ⟨Nat.lt_succ_self _, Nat.lt_succ_self _⟩
    · rcases exists_of_beginsTask begins found fresh with ⟨before, foundBefore, same⟩
      simp only [DataTask.role, Prod.mk.injEq] at same
      rw [← same.2.1]
      exact (coherent.bounds foundBefore).imp Nat.lt_succ_of_lt Nat.lt_succ_of_lt
  · intro task record found unfinished
    by_cases fresh : task = world.taskCount
    · subst fresh
      cases started.symm.trans found
      refine ⟨usedURL, Or.inl ⟨?_, ?_, ?_⟩⟩
      · rw [World.registered, begins.lookup, begunTask_originalURL, if_pos rfl, begunTask_delegate]
      · rw [begunTask_delegate, fields, begunFields_task]
      · rw [begunTask_delegate, fields, begunFields_downLoadTmpPath, begunTask_originalURL,
          calledFields_downLoadTmpPath]
    · rcases exists_of_beginsTask begins found fresh with ⟨before, foundBefore, same⟩
      exact coherent.live_of_registers registers foundBefore same unfinished
  · intro key loader found
    refine coherent.entry_of_registers registers (fun _ => id)
      (Or.inr ⟨_, _, started, ?_, rfl, rfl, ?_⟩) found
    · rintro ⟨⟩
    · rintro ⟨loader, rfl⟩
      rcases coherent.fits _ rfl with ⟨record, foundBefore, _⟩
      exact (coherent.bounds foundBefore).1.false
  · intro loader listed
    exact coherent.taskless_of_registers registers listed
  · exact coherent.distinct
  · intro loader listed
    exact coherent.concluded_of_registers registers listed
  · rw [registers.concluded]
    exact coherent.once
  · intro frame pending
    exact (coherent.fits frame pending).of_keepsRoles registers.keeps

/-- The completion block of a registered downloader takes its entry out. -/
theorem concludes_callOutcome (coherent : Coherent digest used world announced event)
    {key : String} (found : world.downLoaderInfos.lookup key = some loader)
    (error : Option NSError) : Concludes world key loader (world.callOutcome loader error) := by
  rcases coherent.entry found with ⟨_, success, fail, _⟩
  have lookup : ∀ {block : Option CompletionBlock}, block.bind CompletionBlock.registryKey =
      some key → ∀ other, (withoutKey world.downLoaderInfos block).lookup other =
        if key = other then none else world.downLoaderInfos.lookup other := by
    intro block held other
    rw [lookup_withoutKey, held]
    simp only [Option.some.injEq]
  cases error with
  | none => exact ⟨found, lookup success, rfl, rfl, rfl, rfl, rfl⟩
  | some failure => exact ⟨found, lookup fail, rfl, rfl, rfl, rfl, rfl⟩

/-- The task of another downloader stays registered. -/
theorem holds_of_concludes {record : DataTask} (holds : Holds digest world task record)
    {key : String} (concludes : Concludes world key loader after)
    (different : record.delegate ≠ loader) : Holds digest after task record := by
  refine ⟨?_, ?_, ?_⟩
  · rw [World.registered, concludes.lookup, if_neg]
    · exact holds.registered
    · rintro rfl
      have registered := holds.registered
      rw [World.registered, concludes.found, Option.some.injEq] at registered
      exact different registered.symm
  · rw [concludes.downLoaders]
    exact holds.current
  · rw [concludes.downLoaders]
    exact holds.tmpPath

/-- A downloader that has called its completion block is in the dictionary under no key. -/
theorem concluded_of_concludes (coherent : Coherent digest used world announced event)
    {key : String} (concludes : Concludes world key loader after) :
    (∀ other ∈ after.concluded, other < after.downLoaderCount ∧
      ∀ otherKey, after.downLoaderInfos.lookup otherKey ≠ some other) ∧ after.concluded.Nodup := by
  rw [concludes.concluded, concludes.downLoaderCount]
  constructor
  · intro other listed
    rcases List.mem_cons.mp listed with rfl | listed
    · refine ⟨(coherent.entry concludes.found).1, ?_⟩
      intro otherKey registered
      rcases concludes.lookup_eq_some registered with ⟨apart, before⟩
      have same := (coherent.entry concludes.found).2.1.symm.trans (coherent.entry before).2.1
      exact apart (Option.some.inj same)
    · refine (coherent.concluded other listed).imp_right ?_
      intro absent otherKey registered
      exact absent otherKey (concludes.lookup_eq_some registered).2
  · refine List.nodup_cons.mpr ⟨?_, coherent.once⟩
    intro listed
    exact (coherent.concluded loader listed).2 key concludes.found

/-- The success block for a cached file removes the entry of its own downloader. -/
theorem succeed (coherent : Coherent digest used world (loader :: announced) event) :
    Coherent digest used (world.callSuccess loader) announced event := by
  rcases coherent.taskless loader List.mem_cons_self with ⟨⟨key, found⟩, idle⟩
  rcases List.nodup_cons.mp coherent.distinct with ⟨absent, distinct⟩
  have concludes : Concludes world key loader (world.callSuccess loader) :=
    coherent.concludes_callOutcome found none
  rcases coherent.concluded_of_concludes concludes with ⟨gone, once⟩
  refine ⟨coherent.bounds, ?_, ?_, ?_, distinct, gone, once, coherent.fits⟩
  · intro task record foundTask unfinished
    rcases coherent.live foundTask unfinished with ⟨usedURL, state⟩
    refine ⟨usedURL, state.imp_left ?_⟩
    intro holds
    apply holds_of_concludes holds concludes
    rintro same
    have current := holds.current
    rw [same, idle] at current
    cases current
  · intro other otherLoader registered
    rcases concludes.lookup_eq_some registered with ⟨apart, before⟩
    rcases coherent.entry before with ⟨below, success, fail, state⟩
    refine ⟨below, success, fail, state.imp_left ?_⟩
    intro listed
    rcases List.mem_cons.mp listed with rfl | listed
    · rw [(coherent.entry found).2.1, Option.some.injEq] at success
      exact absurd success apart
    · exact listed
  · intro other listed
    rcases coherent.taskless other (List.mem_cons_of_mem _ listed) with ⟨⟨otherKey, held⟩, free⟩
    refine ⟨⟨otherKey, ?_⟩, free⟩
    rw [concludes.lookup, if_neg]
    · exact held
    · rintro rfl
      rw [found, Option.some.injEq] at held
      exact absent (held ▸ listed)

/-- The block of a completion removes the entry of its task, which will be released. -/
theorem outcome {error : Option NSError}
    (coherent : Coherent digest used world [] (some (.outcome loader task error))) :
    Coherent digest used (world.callOutcome loader error) [] (some (.release loader task)) := by
  rcases coherent.fits _ rfl with ⟨record, found, unfinished, rfl⟩
  have holding : ∀ {other otherRecord}, world.tasks other = some otherRecord →
      otherRecord.phase ≠ .ended → Holds digest world other otherRecord := by
    intro other otherRecord otherFound otherLive
    apply (coherent.live otherFound otherLive).2.resolve_right
    rintro ⟨loader, ⟨⟩⟩
  have holds := holding found unfinished
  have concludes := coherent.concludes_callOutcome holds.registered error
  rcases coherent.concluded_of_concludes concludes with ⟨gone, once⟩
  refine ⟨?_, ?_, ?_, ?_, List.nodup_nil, gone, once, ?_⟩
  · rw [concludes.tasks, concludes.taskCount, concludes.downLoaderCount]
    exact coherent.bounds
  · intro other otherRecord otherFound otherLive
    rw [concludes.tasks] at otherFound
    refine ⟨(coherent.live otherFound otherLive).1, ?_⟩
    by_cases same : other = task
    · exact Or.inr ⟨record.delegate, same ▸ rfl⟩
    · have otherHolds := holding otherFound otherLive
      refine Or.inl (holds_of_concludes otherHolds concludes ?_)
      intro mine
      have current := otherHolds.current
      rw [mine, holds.current, Option.some.injEq] at current
      exact same current.symm
  · intro key other registered
    rcases concludes.lookup_eq_some registered with ⟨apart, before⟩
    rcases coherent.entry before with ⟨below, success, fail, listed | present⟩
    · cases listed
    · rcases present with ⟨otherTask, otherRecord, otherFound, otherLive, keyed, owner, _⟩
      rw [concludes.downLoaders, concludes.downLoaderCount, concludes.tasks]
      refine ⟨below, success, fail,
        Or.inr ⟨otherTask, otherRecord, otherFound, otherLive, keyed, owner, ?_⟩⟩
      rintro ⟨releasing, same⟩
      cases same
      cases found.symm.trans otherFound
      exact apart keyed
  · rintro other ⟨⟩
  · rintro frame ⟨⟩
    exact ⟨record, concludes.tasks ▸ found, unfinished⟩

theorem releases_release_iff {other : TaskId} :
    Releases (some (.release loader task)) other ↔ other = task := by
  constructor
  · rintro ⟨releasing, same⟩
    cases same
    rfl
  · rintro rfl
    exact ⟨loader, rfl⟩

/-- The live tasks after a release are the other ones that were live before. -/
theorem found_of_releaseTask {record otherRecord : DataTask} {other : TaskId}
    (found : world.tasks task = some record)
    (otherFound : (world.releaseTask loader task).tasks other = some otherRecord)
    (otherLive : otherRecord.phase ≠ .ended) :
    other ≠ task ∧ world.tasks other = some otherRecord := by
  have tasks : (world.releaseTask loader task).tasks =
      Function.update world.tasks task (some { record with phase := .ended }) :=
    tasks_mapTask found _
  have different : other ≠ task := by
    rintro rfl
    rw [tasks, Function.update_self, Option.some.injEq] at otherFound
    subst otherFound
    exact otherLive rfl
  rw [tasks, Function.update_of_ne different] at otherFound
  exact ⟨different, otherFound⟩

theorem downLoaders_releaseTask (other : DownLoaderId) :
    (world.releaseTask loader task).downLoaders other =
      if other = loader ∧ (world.downLoaders other).task = some task then
        { world.downLoaders other with task := none }
      else world.downLoaders other := by
  rw [releaseTask, modify_downLoaders]
  by_cases same : other = loader
  · subst same
    by_cases current : (world.downLoaders other).task = some task
    · simp [answer, World.mapTask, current]
    · simp [answer, World.mapTask, current]
  · simp [answer, World.mapTask, same]

/-- The task of a completion is released, and nothing is pending any more. -/
theorem release (coherent : Coherent digest used world [] (some (.release loader task))) :
    Coherent digest used (world.releaseTask loader task) [] none := by
  rcases coherent.fits _ rfl with ⟨record, found, unfinished⟩
  have tasks : (world.releaseTask loader task).tasks =
      Function.update world.tasks task (some { record with phase := .ended }) :=
    tasks_mapTask found _
  constructor
  · intro other otherRecord otherFound
    by_cases same : other = task
    · subst same
      rw [tasks, Function.update_self, Option.some.injEq] at otherFound
      subst otherFound
      have recordBounds := coherent.bounds found
      exact recordBounds
    · rw [tasks, Function.update_of_ne same] at otherFound
      exact coherent.bounds otherFound
  · intro other otherRecord otherFound otherLive
    rcases found_of_releaseTask found otherFound otherLive with ⟨different, foundBefore⟩
    rcases coherent.live foundBefore otherLive with ⟨usedURL, state⟩
    have holds := state.resolve_right fun releases =>
      different (releases_release_iff.mp releases)
    refine ⟨usedURL, Or.inl ⟨holds.registered, ?_, ?_⟩⟩
    · rw [downLoaders_releaseTask, if_neg]
      · exact holds.current
      · rintro ⟨_, held⟩
        rw [holds.current, Option.some.injEq] at held
        exact different held
    · rw [downLoaders_releaseTask]
      split <;> exact holds.tmpPath
  · intro key other registered
    rcases coherent.entry registered with ⟨below, success, fail, listed | present⟩
    · cases listed
    · rcases present with ⟨otherTask, otherRecord, otherFound, otherLive, keyed, owner, kept⟩
      have different : otherTask ≠ task := fun same => kept (releases_release_iff.mpr same)
      refine ⟨below, ?_, ?_, Or.inr ⟨otherTask, otherRecord, ?_, otherLive, keyed, owner, ?_⟩⟩
      · rw [downLoaders_releaseTask]
        split <;> exact success
      · rw [downLoaders_releaseTask]
        split <;> exact fail
      · rw [tasks, Function.update_of_ne different]
        exact otherFound
      · rintro ⟨releasing, none⟩
        cases none
  · rintro other ⟨⟩
  · exact List.nodup_nil
  · exact coherent.concluded
  · exact coherent.once
  · rintro frame ⟨⟩

theorem kill (coherent : Coherent digest used world announced event) :
    Coherent digest used world.kill [] none := by
  have before : ∀ {task record}, world.kill.tasks task = some record →
      ∃ earlier, world.tasks task = some earlier ∧ { earlier with phase := .ended } = record := by
    intro task record found
    exact Option.map_eq_some_iff.mp found
  constructor
  · intro task record found
    rcases before found with ⟨earlier, foundBefore, rfl⟩
    have earlierBounds := coherent.bounds foundBefore
    exact earlierBounds
  · intro task record found unfinished
    rcases before found with ⟨earlier, _, rfl⟩
    exact absurd rfl unfinished
  · rintro key other ⟨⟩
  · rintro other ⟨⟩
  · exact List.nodup_nil
  · intro other listed
    refine ⟨(coherent.concluded other listed).1, ?_⟩
    rintro key ⟨⟩
  · exact coherent.once
  · rintro frame ⟨⟩

/-- A call of the manager is entered, whatever is pending below it. -/
theorem invoke (coherent : Coherent digest used world announced event) {call : ManagerCall}
    (uses : Uses used (.call call)) :
    let result := invoke digest world call
    Coherent digest used result.1
        ((result.2.bind fun top => top.rest.announces).toList ++ announced) event ∧
      ∀ top ∈ result.2, top.rest.InCall := by
  cases call with
  | downLoad url blocks =>
      simp only [ZFBaseFramework.invoke]
      cases found : world.registered digest url with
      | some loader =>
          refine ⟨coherent.call_sameRoles (.switch world loader _ _ _), ?_⟩
          rintro top ⟨⟩
          trivial
      | none =>
          by_cases occupied : ZFFileManagerTool.isFileExists world.files (some url.cachePath) = true
          · simp only [occupied, if_true]
            refine ⟨coherent.announce found blocks, ?_⟩
            rintro top ⟨⟩
            trivial
          · have free : ¬world.files.Occupied url.cachePath :=
              fun present => occupied (decide_eq_true present)
            simp only [occupied]
            refine ⟨coherent.begin uses found (begin_task digest blocks free), ?_⟩
            rintro top ⟨⟩
  | pause url | resume url =>
      simp only [ZFBaseFramework.invoke]
      cases world.registered digest url with
      | some loader =>
          refine ⟨coherent.call_sameRoles (.switch world loader _ _ _), ?_⟩
          rintro top ⟨⟩
          trivial
      | none =>
          refine ⟨coherent, ?_⟩
          rintro top ⟨⟩
  | cancel url =>
      refine ⟨?_, ?_⟩
      · apply send_induction (motive := fun after => Coherent digest used after announced event)
          coherent
        intro loader _
        exact coherent.call_sameRoles (.cancel world loader)
      · rintro top ⟨⟩
  | pauseAll | resumeAll =>
      refine ⟨coherent, ?_⟩
      rintro top ⟨⟩
      trivial
  | cancelAll =>
      refine ⟨?_, ?_⟩
      · apply sendAll_induction (motive := fun after => Coherent digest used after announced event)
          coherent
        intro middle loader kept
        exact kept.call_sameRoles (.cancel middle loader)
      · rintro top ⟨⟩

/-- The innermost pending call goes on. -/
theorem proceed_call {frame : Frame} (inCall : frame.InCall)
    (coherent : Coherent digest used world (frame.announces.toList ++ announced) event) :
    let result := proceed world frame
    Coherent digest used result.1
        ((result.2.bind fun top => top.rest.announces).toList ++ announced) event ∧
      ∀ top ∈ result.2, top.rest.InCall := by
  cases frame with
  | announceCached loader =>
      refine ⟨coherent.call_sameRoles (.setState world loader _), ?_⟩
      rintro top ⟨⟩
      trivial
  | succeed loader =>
      refine ⟨coherent.succeed, ?_⟩
      rintro top ⟨⟩
      trivial
  | pauseRest loaders | resumeRest loaders =>
      cases loaders with
      | nil =>
          refine ⟨coherent, ?_⟩
          rintro top ⟨⟩
      | cons loader rest =>
          refine ⟨coherent.call_sameRoles (.switch world loader _ _ _), ?_⟩
          rintro top ⟨⟩
          trivial
  | nothing =>
      refine ⟨coherent, ?_⟩
      rintro top ⟨⟩
  | settle | answer | write | outcome | release => exact inCall.elim

/-- A method of the delegate is entered or goes on, and does not release its task yet. -/
theorem proceed_sameRoles (coherent : Coherent digest used world [] event)
    (same : SameRoles world after) (unreleased : ∀ task, ¬Releases event task)
    (fits : ∀ frame ∈ next, frame.Fits after) (unreleasing : ∀ task, ¬Releases next task) :
    Coherent digest used after [] next :=
  coherent.of_sameRoles same (fun task => iff_of_false (unreleasing task) (unreleased task)) fits

/-- A method of the delegate is entered on the free main queue. -/
theorem enter (coherent : Coherent digest used world [] none) {delegateEvent : DelegateEvent}
    (deliverable : world.Deliverable delegateEvent) :
    let result := enter world delegateEvent
    Coherent digest used result.1 [] (result.2.map Pending.rest) := by
  have free : ∀ task, ¬Releases none task := by
    rintro task ⟨loader, ⟨⟩⟩
  cases delegateEvent with
  | response task response io =>
      have noted : SameRoles world (world.noteReply task response) :=
        .mapTask world task fun _ _ => rfl
      have read : SameRoles (world.noteReply task response)
          ((world.noteReply task response).readResponse (world.delegateOf task) response) :=
        (SameRoles.modify _ _ rfl).trans (.record _ rfl)
      rcases exists_of_response deliverable with ⟨record, found, waiting⟩
      apply coherent.proceed_sameRoles (noted.trans read) free
      · rintro frame ⟨⟩
        have fits : (Frame.settle (world.delegateOf task) task response io).Fits world :=
          ⟨record, found, by simp [waiting]⟩
        exact fits.of_keepsRoles (noted.trans read).keepsRoles
      · rintro other ⟨loader, ⟨⟩⟩
  | data task bytes io =>
      have noted : SameRoles world (world.noteReceived task bytes.length) :=
        .mapTask world task fun _ _ => rfl
      have counted : SameRoles (world.noteReceived task bytes.length)
          ((world.noteReceived task bytes.length).countBytes (world.delegateOf task) bytes) :=
        ((SameRoles.modify _ _ rfl).trans (.modify _ _ rfl)).trans (.record _ rfl)
      apply coherent.proceed_sameRoles (noted.trans counted) free
      · rintro frame ⟨⟩
        trivial
      · rintro other ⟨loader, ⟨⟩⟩
  | complete task error io =>
      have finished := SameRoles.finish world (world.delegateOf task) error io
      rcases exists_of_complete deliverable with ⟨record, found, unfinished, _⟩
      apply coherent.proceed_sameRoles finished free
      · rintro frame ⟨⟩
        have fits : (Frame.outcome (world.delegateOf task) task error).Fits world :=
          ⟨record, found, unfinished, (delegateOf_eq found).symm⟩
        exact fits.of_keepsRoles finished.keepsRoles
      · rintro other ⟨loader, ⟨⟩⟩

/-- The pending method of the delegate goes on, without starting the download over. -/
theorem proceed_event {frame : Frame} (coherent : Coherent digest used world [] (some frame))
    (continues : ¬frame.Restarts world) :
    let result := proceed world frame
    Coherent digest used result.1 [] (result.2.map Pending.rest) := by
  have fits := coherent.fits frame rfl
  cases frame with
  | settle loader task response io =>
      have unreleased : ∀ other, ¬Releases (some (.settle loader task response io)) other := by
        rintro other ⟨releasing, ⟨⟩⟩
      simp only [proceed]
      by_cases full : ((world.downLoaders loader).tmpSize : ℤ) =
          (world.downLoaders loader).totalSize
      · rw [if_pos full]
        have moved : SameRoles world ((world.moveTmp loader io).setState loader .success) :=
          (SameRoles.moveTmp world loader io).trans (.setState _ loader _)
        apply coherent.proceed_sameRoles moved unreleased
        · rintro frame ⟨⟩
          have open_ : (Frame.answer task .refused).Fits world := ⟨fits, by simp⟩
          exact open_.of_keepsRoles moved.keepsRoles
        · rintro other ⟨releasing, ⟨⟩⟩
      · rw [Frame.Restarts] at continues
        rw [if_neg full, if_neg continues]
        have opened : SameRoles world ((world.openStream loader io).setState loader .downing) :=
          ((SameRoles.modify world loader rfl).trans (.withFiles _ _)).trans
            (.setState _ loader _)
        apply coherent.proceed_sameRoles opened unreleased
        · rintro frame ⟨⟩
          have open_ : (Frame.answer task .allowed).Fits world := ⟨fits, by simp⟩
          exact open_.of_keepsRoles opened.keepsRoles
        · rintro other ⟨releasing, ⟨⟩⟩
  | answer task phase =>
      apply coherent.proceed_sameRoles (.answer world fits.1 fits.2)
      · rintro other ⟨releasing, ⟨⟩⟩
      · rintro frame ⟨⟩
      · rintro other ⟨releasing, ⟨⟩⟩
  | write loader task bytes io =>
      apply coherent.proceed_sameRoles (.writeBytes world loader task bytes io)
      · rintro other ⟨releasing, ⟨⟩⟩
      · rintro frame ⟨⟩
      · rintro other ⟨releasing, ⟨⟩⟩
  | outcome loader task error => exact coherent.outcome
  | release loader task => exact coherent.release
  | announceCached | succeed | pauseRest | resumeRest | nothing => exact fits.elim

theorem faithful (coherent : Coherent digest used world [] none) :
    Faithful digest used world where
  live := by
    intro task record found unfinished
    rcases coherent.live found unfinished with ⟨usedURL, holds | ⟨loader, ⟨⟩⟩⟩
    exact ⟨usedURL, holds.registered, holds.current, holds.tmpPath⟩
  entry := by
    intro key loader found
    rcases coherent.entry found with ⟨_, _, _, listed | present⟩
    · cases listed
    · rcases present with ⟨task, record, foundTask, unfinished, keyed, delegate, _⟩
      exact ⟨task, record, foundTask, unfinished, keyed, delegate⟩

end Coherent

namespace Activity

/-- The task is over, but the method that handles its completion is not. -/
def Releasing (activity : Activity) (task : TaskId) : Prop :=
  ∃ top ∈ activity.pending, ∃ loader, top.rest = .release loader task

/-- Two live tasks that go on have different tmp files. -/
def WritersApart (activity : Activity) : Prop :=
  ∀ {first second firstRecord secondRecord},
    activity.world.tasks first = some firstRecord → firstRecord.phase ≠ .ended →
    ¬activity.Releasing first →
    activity.world.tasks second = some secondRecord → secondRecord.phase ≠ .ended →
    ¬activity.Releasing second →
    (activity.world.downLoaders firstRecord.delegate).downLoadTmpPath =
      (activity.world.downLoaders secondRecord.delegate).downLoadTmpPath → first = second

/-- Pending calls lie on top of at most one method of the delegate. -/
def Coherent (digest : MessageDigest) (used : Set NSURL) (activity : Activity) : Prop :=
  ∃ calls event, activity.pending.map Pending.rest = calls ++ event.toList ∧
    (∀ frame ∈ calls, frame.InCall) ∧
    ZFBaseFramework.Coherent digest used activity.world (calls.filterMap Frame.announces) event

/-- Only these URLs are downloaded, and no download starts over. -/
def Continues (used : Set NSURL) (activity : Activity) : ReentrantAction → Prop
  | .call call => Uses used (.call call)
  | .leave => ∀ top ∈ activity.pending.head?, ¬top.rest.Restarts activity.world
  | _ => True

variable {digest : MessageDigest} {used : Set NSURL} {activity : Activity}

/-- What a call does on top of the pending calls. -/
theorem coherent_push {world : World} {pending : List Pending} {top : Option Pending}
    {calls : List Frame} {event : Option Frame}
    (shape : pending.map Pending.rest = calls ++ event.toList)
    (inCall : ∀ frame ∈ calls, frame.InCall)
    (coherent : ZFBaseFramework.Coherent digest used world
      ((top.bind fun top => top.rest.announces).toList ++ calls.filterMap Frame.announces) event)
    (topInCall : ∀ frame ∈ top, frame.rest.InCall) :
    Coherent digest used ⟨world, top.toList ++ pending⟩ := by
  cases top with
  | none => exact ⟨calls, event, shape, inCall, coherent⟩
  | some top =>
      refine ⟨top.rest :: calls, event, congrArg (top.rest :: ·) shape, ?_, ?_⟩
      · exact List.forall_mem_cons.mpr ⟨topInCall top rfl, inCall⟩
      · cases announced : top.rest.announces with
        | none => simpa [announced] using coherent
        | some loader => simpa [announced] using coherent

theorem coherent_event {world : World} {top : Option Pending}
    (coherent : ZFBaseFramework.Coherent digest used world [] (top.map Pending.rest)) :
    Coherent digest used ⟨world, top.toList⟩ := by
  refine ⟨[], top.map Pending.rest, ?_, ?_, coherent⟩
  · cases top <;> rfl
  · rintro frame ⟨⟩

theorem Coherent.leave {top : Pending} {rest : List Pending}
    (coherent : Coherent digest used ⟨activity.world, top :: rest⟩)
    (continues : ¬top.rest.Restarts activity.world) :
    Coherent digest used (.push rest (proceed activity.world top.rest)) := by
  rcases coherent with ⟨calls, event, shape, inCall, coherent⟩
  cases calls with
  | nil =>
      cases event with
      | none => cases shape
      | some frame =>
          rcases List.cons.inj shape with ⟨rfl, empty⟩
          rw [List.map_eq_nil_iff] at empty
          rw [push, empty, List.append_nil]
          exact coherent_event (coherent.proceed_event continues)
  | cons frame calls =>
      rcases List.cons.inj shape with ⟨rfl, below⟩
      rcases List.forall_mem_cons.mp inCall with ⟨topInCall, inCall⟩
      have announced : (top.rest :: calls).filterMap Frame.announces =
          top.rest.announces.toList ++ calls.filterMap Frame.announces := by
        rw [List.filterMap_cons]
        cases top.rest.announces <;> rfl
      rw [announced] at coherent
      rcases coherent.proceed_call topInCall with ⟨proceeds, later⟩
      exact coherent_push below inCall proceeds later

theorem coherent_preserved (digest : MessageDigest) (used : Set NSURL) :
    ((reentrantSystem digest).restrict (Continues used)).Preserves (Coherent digest used) := by
  rintro ⟨world, pending⟩ action coherent ⟨admitted, continues⟩
  cases action with
  | call call =>
      rcases coherent with ⟨calls, event, shape, inCall, coherent⟩
      rcases coherent.invoke continues with ⟨invoked, later⟩
      exact coherent_push shape inCall invoked later
  | deliver event =>
      rcases admitted with ⟨idle, deliverable⟩
      rcases coherent with ⟨calls, below, shape, inCall, coherent⟩
      simp only at idle
      subst idle
      rcases List.append_eq_nil_iff.mp shape.symm with ⟨rfl, none⟩
      cases below with
      | some frame => cases none
      | none =>
          change Coherent digest used ⟨(enter world event).1, (enter world event).2.toList ++ []⟩
          rw [List.append_nil]
          exact coherent_event (coherent.enter deliverable)
  | leave =>
      cases pending with
      | nil => exact absurd rfl admitted
      | cons top rest => exact coherent.leave (continues top rfl)
  | kill =>
      rcases coherent with ⟨calls, event, _, _, coherent⟩
      refine ⟨[], none, rfl, ?_, coherent.kill⟩
      rintro frame ⟨⟩

theorem coherent_launch (digest : MessageDigest) (used : Set NSURL) (files : FileSystem Path) :
    Coherent digest used ⟨launch files, []⟩ := by
  refine ⟨[], none, rfl, ?_, ?_⟩
  · rintro frame ⟨⟩
  · constructor
    · rintro task record ⟨⟩
    · rintro task record ⟨⟩
    · rintro key loader ⟨⟩
    · rintro loader ⟨⟩
    · exact List.nodup_nil
    · rintro loader ⟨⟩
    · exact List.nodup_nil
    · rintro frame ⟨⟩

namespace Coherent

theorem faithful (coherent : Coherent digest used activity) (idle : activity.pending = []) :
    Faithful digest used activity.world := by
  rcases coherent with ⟨calls, event, shape, _, coherent⟩
  rw [idle] at shape
  rcases List.append_eq_nil_iff.mp shape.symm with ⟨rfl, none⟩
  cases event with
  | some frame => cases none
  | none => exact coherent.faithful

theorem holds (coherent : Coherent digest used activity) {task : TaskId} {record : DataTask}
    (found : activity.world.tasks task = some record) (unfinished : record.phase ≠ .ended)
    (kept : ¬activity.Releasing task) :
    record.originalURL ∈ used ∧ Holds digest activity.world task record := by
  rcases coherent with ⟨calls, event, shape, _, coherent⟩
  rcases coherent.live found unfinished with ⟨usedURL, holds | ⟨loader, rfl⟩⟩
  · exact ⟨usedURL, holds⟩
  · have pending : Frame.release loader task ∈ activity.pending.map Pending.rest := by
      rw [shape]
      exact List.mem_append_right _ List.mem_cons_self
    rcases List.mem_map.mp pending with ⟨top, listed, same⟩
    exact absurd ⟨top, listed, loader, same⟩ kept

theorem writersApart (coherent : Coherent digest used activity)
    (injective : used.InjOn (NSURL.key digest)) : activity.WritersApart := by
  intro first second firstRecord secondRecord firstFound firstLive firstKept secondFound secondLive
    secondKept same
  rcases coherent.holds firstFound firstLive firstKept with ⟨firstUsed, firstHolds⟩
  rcases coherent.holds secondFound secondLive secondKept with ⟨secondUsed, secondHolds⟩
  rw [firstHolds.tmpPath, secondHolds.tmpPath, Option.some.injEq, NSURL.tmpPath_inj] at same
  have registered := firstHolds.registered
  rw [injective firstUsed secondUsed same, secondHolds.registered, Option.some.injEq] at registered
  have current := firstHolds.current
  rw [← registered, secondHolds.current, Option.some.injEq] at current
  exact current.symm

end Coherent

end Activity

/-- Whatever client blocks call in the middle of the manager's methods, the dictionary and the
live tasks mirror each other whenever the main queue is free, and no two tasks write to one tmp
file in between. -/
theorem run_reentrantRegistry {digest : MessageDigest} {used : Set NSURL} {files : FileSystem Path}
    {activity : Activity} (injective : used.InjOn (NSURL.key digest))
    (reachable : ((reentrantSystem digest).restrict (Activity.Continues used)).Reachable
      ⟨launch files, []⟩ activity) :
    (activity.pending = [] → RegistryFaithful digest used activity.world) ∧
      activity.WritersApart := by
  have coherent := (Activity.coherent_preserved digest used).reachable
    (Activity.coherent_launch digest used files) reachable
  exact ⟨fun idle => (coherent.faithful idle).registryFaithful injective,
    coherent.writersApart injective⟩

/-- However client blocks and events interleave, a downloader calls one of its completion blocks
once at most, and the manager has dropped it by then for good. -/
theorem run_reentrantOutcome {digest : MessageDigest} {used : Set NSURL} {files : FileSystem Path}
    {activity : Activity}
    (reachable : ((reentrantSystem digest).restrict (Activity.Continues used)).Reachable
      ⟨launch files, []⟩ activity) :
    activity.world.concluded.Nodup ∧ ∀ loader ∈ activity.world.concluded,
      ∀ key, activity.world.downLoaderInfos.lookup key ≠ some loader := by
  rcases (Activity.coherent_preserved digest used).reachable
    (Activity.coherent_launch digest used files) reachable with ⟨calls, event, _, _, coherent⟩
  exact ⟨coherent.once, fun loader listed => (coherent.concluded loader listed).2⟩

/-- The example's download fails, and its fail block asks for it once more. -/
def askedAgain : List ReentrantAction :=
  [.call (.downLoad exampleURL exampleBlocks),
   .deliver (.complete 0 (some .transfer) .healthy), .leave,
   .call (.downLoad exampleURL exampleBlocks), .leave]

theorem reachable_askedAgain :
    ((reentrantSystem exampleDigest).restrict (Activity.Continues {exampleURL})).Reachable
      ⟨launch ZFFileManagerTool.emptyContainer, []⟩
      ((reentrantSystem exampleDigest).exec
        ⟨launch ZFFileManagerTool.emptyContainer, []⟩ askedAgain) := by
  refine ⟨askedAgain, ?_, rfl⟩
  refine ⟨⟨?_, rfl⟩, ⟨⟨rfl, by decide⟩, trivial⟩, ⟨?_, ?_⟩, ⟨?_, rfl⟩, ⟨?_, ?_⟩, trivial⟩
  · rintro top ⟨⟩
  · rintro ⟨⟩
  · rintro top ⟨⟩
    exact id
  · rintro top ⟨⟩
    rfl
  · rintro ⟨⟩
  · rintro top ⟨⟩
    exact id

theorem run_reentrantRegistry_askedAgain :
    RegistryFaithful exampleDigest {exampleURL}
      ((reentrantSystem exampleDigest).exec
        ⟨launch ZFFileManagerTool.emptyContainer, []⟩ askedAgain).world :=
  (run_reentrantRegistry (Set.injOn_singleton _ _) reachable_askedAgain).1 rfl

theorem run_reentrantOutcome_askedAgain :
    ((reentrantSystem exampleDigest).exec
      ⟨launch ZFFileManagerTool.emptyContainer, []⟩ askedAgain).world.concluded.Nodup :=
  (run_reentrantOutcome reachable_askedAgain).1

end ZFBaseFramework
