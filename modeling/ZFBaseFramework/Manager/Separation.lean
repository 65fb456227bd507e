import ZFBaseFramework.Manager.Lane

/-!
# What keeps the downloads of a manager apart

In a run without restarts every task has a session, a stream and paths that no other
task has: `Separate` is the invariant, for URLs whose keys and cache paths differ. A
cancellation reaches tasks by their session, and a stream reaches files by their node,
so this is what confines a step to the URL it is about.
-/

namespace ZFBaseFramework

open ZFFileManagerTool World

/-- Keys and cache paths tell the URLs apart. -/
structure Apart (digest : MessageDigest) (used : Set NSURL) : Prop where
  keys : used.InjOn (NSURL.key digest)
  caches : used.InjOn NSURL.cachePath

/-- Only the two paths of the URL may have changed. -/
def Confined (digest : MessageDigest) (url : NSURL) (before after : FileSystem Path) : Prop :=
  ∀ path, path ≠ url.tmpPath digest → path ≠ url.cachePath →
    after.lookup path = before.lookup path ∧ after.node path = before.node path

/-- A live task goes with the fields of its downloader. -/
structure Bound (digest : MessageDigest) (world : World) (record : DataTask) : Prop where
  cachePath : (world.downLoaders record.delegate).downLoadCachePath =
    some record.originalURL.cachePath
  stream : record.phase = .allowed → ∀ node,
    (world.downLoaders record.delegate).streamNode = some node →
    world.files.node (record.originalURL.tmpPath digest) = some node
  session : ∀ session, (world.downLoaders record.delegate).session = some session →
    record.session = session
  cancelled : (world.downLoaders record.delegate).session = none → record.cancelled = true

/-- The tasks of a manager do not get into each other's way. -/
structure Separate (digest : MessageDigest) (used : Set NSURL) (world : World) : Prop where
  owned : Owned world
  faithful : Faithful digest used world
  bound : ∀ {task record}, world.tasks task = some record → record.phase ≠ .ended →
    Bound digest world record
  sessions : ∀ {task record}, world.tasks task = some record → record.session < world.sessionCount
  unshared : ∀ {first second firstRecord secondRecord}, world.tasks first = some firstRecord →
    world.tasks second = some secondRecord → firstRecord.session = secondRecord.session →
    first = second

section Paths

variable {digest : MessageDigest} {used : Set NSURL} {first second : NSURL}

theorem Apart.tmpPath_ne (apart : Apart digest used) (firstUsed : first ∈ used)
    (secondUsed : second ∈ used) (different : first ≠ second) :
    first.tmpPath digest ≠ second.tmpPath digest := by
  intro same
  exact different (apart.keys firstUsed secondUsed (NSURL.tmpPath_inj.mp same))

theorem Apart.cachePath_ne (apart : Apart digest used) (firstUsed : first ∈ used)
    (secondUsed : second ∈ used) (different : first ≠ second) :
    first.cachePath ≠ second.cachePath :=
  fun same => different (apart.caches firstUsed secondUsed same)

/-- What is confined to one URL leaves the files of the others alone. -/
theorem Confined.elsewhere {before after : FileSystem Path}
    (confined : Confined digest second before after) (apart : Apart digest used)
    (firstUsed : first ∈ used) (secondUsed : second ∈ used) (different : first ≠ second) :
    after.lookup (first.tmpPath digest) = before.lookup (first.tmpPath digest) ∧
      after.lookup first.cachePath = before.lookup first.cachePath ∧
      after.node (first.tmpPath digest) = before.node (first.tmpPath digest) := by
  have tmp := confined (first.tmpPath digest) (apart.tmpPath_ne firstUsed secondUsed different)
    (NSURL.tmpPath_ne_cachePath digest first second)
  have cache := confined first.cachePath (NSURL.cachePath_ne_tmpPath digest second first)
    (apart.cachePath_ne firstUsed secondUsed different)
  exact ⟨tmp.1, cache.1, tmp.2⟩

theorem confined_move (files : FileSystem Path) (url : NSURL) (io : LocalIO) :
    Confined digest url files
      (if io.moves then moveFile files (some (url.tmpPath digest)) (some url.cachePath)
       else files) := by
  intro path notTmp notCache
  split
  · exact moveFile_confined notTmp notCache
  · exact ⟨rfl, rfl⟩

theorem confined_open (files : FileSystem Path) (url : NSURL) (io : LocalIO) :
    Confined digest url files
      (NSOutputStream.openAppending files (some (url.tmpPath digest)) io).1 := by
  intro path notTmp _
  simp only [NSOutputStream.openAppending]
  split
  · rw [FileSystem.lookup_touch, if_neg notTmp]
    exact ⟨rfl, FileSystem.node_touch_of_ne notTmp⟩
  · exact ⟨rfl, rfl⟩

theorem confined_append {files : FileSystem Path} {url : NSURL} {node : ℕ} (bytes : List UInt8)
    (linked : files.node (url.tmpPath digest) = some node) :
    Confined digest url files (files.append node bytes) := by
  intro path notTmp _
  rw [FileSystem.lookup_append, if_neg, FileSystem.node_append]
  · exact ⟨rfl, rfl⟩
  · exact fun same => notTmp (files.node_inj same linked)

end Paths

section Steps

variable {digest : MessageDigest} {used : Set NSURL} {world after : World} {task : TaskId}
  {record changed : DataTask} {fields : ZFDownLoader}

/-- A task is bound as before where neither it nor its downloader has changed. -/
theorem Bound.of_same (bound : Bound digest world record)
    (same : after.downLoaders record.delegate = world.downLoaders record.delegate)
    (node : after.files.node (record.originalURL.tmpPath digest) =
      world.files.node (record.originalURL.tmpPath digest)) : Bound digest after record := by
  rcases bound with ⟨cachePath, stream, session, cancelled⟩
  rw [← same] at cachePath stream session cancelled
  refine ⟨cachePath, ?_, session, cancelled⟩
  intro allowed other held
  exact node.trans (stream allowed other held)

theorem session_marked (world : World) (loader : DownLoaderId) (record : DataTask) :
    (world.marked loader record).session = record.session := by
  rcases marked_eq world loader record with ⟨cancelled, same⟩
  rw [same]

theorem delegate_marked (world : World) (loader : DownLoaderId) (record : DataTask) :
    (world.marked loader record).delegate = record.delegate :=
  DataTask.delegate_eq (unflagged_marked record)

theorem sessionCount_le_cancel (world : World) (loader : DownLoaderId) :
    world.sessionCount ≤ (world.cancel loader).sessionCount := by
  simp only [World.cancel, openSession, modify_sessionCount, mapTasks_sessionCount,
    withSessionCount_sessionCount]
  split
  · exact le_rfl
  · exact Nat.le_succ _

/-- A cancellation is noted in the task, or it was before. -/
theorem Bound.cancel (bound : Bound digest world record) (loader : DownLoaderId)
    (live : record.phase ≠ .ended) :
    Bound digest (world.cancel loader) (world.marked loader record) := by
  have noted : record.delegate = loader → (world.marked loader record).cancelled = true := by
    rintro rfl
    rw [marked]
    split
    · rfl
    · rename_i unmarked
      cases held : (world.downLoaders record.delegate).session with
      | none => exact bound.cancelled held
      | some session =>
          refine absurd ⟨?_, live⟩ unmarked
          rw [bound.session session held, sessionOf, held, Option.getD_some]
  have stays : record.cancelled = true → (world.marked loader record).cancelled = true := by
    intro cancelled
    rw [marked]
    split
    · rfl
    · exact cancelled
  have mine : ∀ other, (world.cancel loader).downLoaders other =
      if other = loader then { world.downLoaders other with session := none }
      else world.downLoaders other := by
    intro other
    rw [downLoaders_cancel, Function.update_apply]
    split
    · rename_i same
      rw [same]
    · rfl
  rcases marked_eq world loader record with ⟨cancelled, same⟩
  rw [same] at noted stays ⊢
  by_cases own : record.delegate = loader
  · constructor <;> simp only [mine, if_pos own]
    · exact bound.cachePath
    · rw [files_cancel]
      exact bound.stream
    · rintro session ⟨⟩
    · exact fun _ => noted own
  · constructor <;> simp only [mine, if_neg own]
    · exact bound.cachePath
    · rw [files_cancel]
      exact bound.stream
    · exact bound.session
    · exact fun none => stays (bound.cancelled none)

theorem separate_launch (digest : MessageDigest) (used : Set NSURL) (files : FileSystem Path) :
    Separate digest used (launch files) where
  owned := owned_launch files
  faithful := faithful_launch digest used files
  bound := nofun
  sessions := nofun
  unshared := nofun

namespace Separate

/-- A step that touches only a live task, its downloader and the paths of its URL. -/
theorem of_touches (separate : Separate digest used world) (apart : Apart digest used)
    (found : world.tasks task = some record) (live : record.phase ≠ .ended)
    (owned : Owned after) (faithful : Faithful digest used after)
    (touches : world.Touches after record.delegate fields task changed)
    (session : changed.session = record.session)
    (sessionCount : after.sessionCount = world.sessionCount)
    (confined : Confined digest record.originalURL world.files after.files)
    (bound : changed.phase ≠ .ended → Bound digest after changed) :
    Separate digest used after := by
  have origin : ∀ {other otherRecord}, after.tasks other = some otherRecord →
      ∃ before, world.tasks other = some before ∧ before.session = otherRecord.session := by
    intro other otherRecord otherFound
    by_cases same : other = task
    · subst same
      rw [touches.tasks, Function.update_self, Option.some.injEq] at otherFound
      subst otherFound
      exact ⟨record, found, session.symm⟩
    · rw [touches.tasks, Function.update_of_ne same] at otherFound
      exact ⟨otherRecord, otherFound, rfl⟩
  refine ⟨owned, faithful, ?_, ?_, ?_⟩
  · intro other otherRecord otherFound otherLive
    by_cases same : other = task
    · subst same
      rw [touches.tasks, Function.update_self, Option.some.injEq] at otherFound
      subst otherFound
      exact bound otherLive
    · rw [touches.tasks, Function.update_of_ne same] at otherFound
      have mine := separate.faithful.live found live
      have others := separate.faithful.live otherFound otherLive
      have differs : otherRecord.delegate ≠ record.delegate := by
        intro shared
        rw [shared, mine.2.2.1, Option.some.injEq] at others
        exact same others.2.2.1.symm
      have urls : otherRecord.originalURL ≠ record.originalURL := by
        intro shared
        rw [shared, mine.2.1, Option.some.injEq] at others
        exact differs others.2.1.symm
      apply (separate.bound otherFound otherLive).of_same
      · rw [touches.downLoaders, Function.update_of_ne differs]
      · exact (confined.elsewhere apart others.1 mine.1 urls).2.2
  · intro other otherRecord otherFound
    rcases origin otherFound with ⟨before, foundBefore, same⟩
    rw [← same, sessionCount]
    exact separate.sessions foundBefore
  · intro first second firstRecord secondRecord firstFound secondFound shared
    rcases origin firstFound with ⟨firstBefore, firstFoundBefore, firstSame⟩
    rcases origin secondFound with ⟨secondBefore, secondFoundBefore, secondSame⟩
    rw [← firstSame, ← secondSame] at shared
    exact separate.unshared firstFoundBefore secondFoundBefore shared

theorem response (separate : Separate digest used world) (apart : Apart digest used)
    {response : NSHTTPURLResponse} {io : LocalIO}
    (deliverable : world.Deliverable (.response task response io))
    (restartless : Restartless world (.deliver (.response task response io))) :
    Separate digest used (world.deliver (.response task response io)) := by
  rcases exists_of_response deliverable with ⟨record, found, waiting⟩
  have live : record.phase ≠ .ended := by simp [waiting]
  have bound := separate.bound found live
  rcases separate.faithful.live found live with ⟨_, _, _, tmpPath⟩
  have owned := separate.owned.response deliverable
  have faithful := separate.faithful.deliver separate.owned deliverable restartless
  have enough : ((world.downLoaders record.delegate).tmpSize : ℤ) ≤ response.totalSize := by
    simpa [Restartless, delegateOf_eq found] using restartless
  rcases lt_or_eq_of_le enough with short | full
  · have touches := touches_opened io found short
    have files := files_opened io found short
    rw [tmpPath] at files
    refine separate.of_touches apart found live owned faithful touches rfl
      (sessionCount_opened io found short) ?_ fun _ => ⟨?_, ?_, ?_, ?_⟩
    · rw [files]
      exact confined_open world.files record.originalURL io
    all_goals rw [touches.downLoaders, Function.update_self]
    · exact bound.cachePath
    · intro _ node held
      rw [files]
      simp only [ZFDownLoader.streamNode, tmpPath, NSOutputStream.openAppending,
        Option.bind_some] at held ⊢
      split at held
      · rename_i opens
        rw [if_pos opens]
        exact (FileSystem.writable_eq_some_iff.mp held).1
      · cases held
    · exact bound.session
    · exact bound.cancelled
  · have touches := touches_finished io found full
    have files := files_finished io found full
    rw [tmpPath, bound.cachePath] at files
    refine separate.of_touches apart found live owned faithful touches rfl
      (sessionCount_finished io found full) ?_ fun _ => ⟨?_, by simp, ?_, ?_⟩
    · rw [files]
      exact confined_move world.files record.originalURL io
    all_goals rw [touches.downLoaders, Function.update_self]
    · exact bound.cachePath
    · exact bound.session
    · exact bound.cancelled

theorem data (separate : Separate digest used world) (apart : Apart digest used)
    {bytes : List UInt8} {io : LocalIO} (deliverable : world.Deliverable (.data task bytes io)) :
    Separate digest used (world.deliver (.data task bytes io)) := by
  rcases exists_of_data deliverable with ⟨record, found, allowed⟩
  have live : record.phase ≠ .ended := by simp [allowed]
  have bound := separate.bound found live
  have touches := touches_data bytes io found
  have files := files_data bytes io found
  have node : ∀ path, (world.deliver (.data task bytes io)).files.node path =
      world.files.node path := by
    intro path
    rw [files]
    split <;> rfl
  refine separate.of_touches apart found live (separate.owned.data deliverable)
    (separate.faithful.deliver separate.owned deliverable trivial) touches rfl
    (sessionCount_data bytes io found) ?_ fun _ => ⟨?_, ?_, ?_, ?_⟩
  · rw [files]
    split
    · exact fun _ _ _ => ⟨rfl, rfl⟩
    · rename_i opened held
      exact confined_append _ (bound.stream allowed opened held)
  · rw [touches.downLoaders, Function.update_self]
    exact bound.cachePath
  · intro _ opened held
    rw [touches.downLoaders, Function.update_self] at held
    rw [node]
    exact bound.stream allowed opened held
  · rw [touches.downLoaders, Function.update_self]
    exact bound.session
  · rw [touches.downLoaders, Function.update_self]
    exact bound.cancelled

theorem complete (separate : Separate digest used world) (apart : Apart digest used)
    {error : Option NSError} {io : LocalIO}
    (deliverable : world.Deliverable (.complete task error io)) :
    Separate digest used (world.deliver (.complete task error io)) := by
  rcases exists_of_complete deliverable with ⟨record, found, live, _⟩
  rcases separate.faithful.live found live with ⟨_, _, _, tmpPath⟩
  refine separate.of_touches apart found live (separate.owned.complete deliverable)
    (separate.faithful.deliver separate.owned deliverable trivial) (touches_complete error io found)
    rfl (sessionCount_complete error io) ?_ fun unfinished => absurd rfl unfinished
  cases error with
  | none =>
      rw [files_complete_finished io found, tmpPath, (separate.bound found live).cachePath]
      exact confined_move world.files record.originalURL io
  | some failure =>
      rw [files_complete_failed io found]
      exact fun _ _ _ => ⟨rfl, rfl⟩

theorem deliver (separate : Separate digest used world) (apart : Apart digest used)
    {event : DelegateEvent} (deliverable : world.Deliverable event)
    (restartless : Restartless world (.deliver event)) :
    Separate digest used (world.deliver event) := by
  cases event with
  | response task response io => exact separate.response apart deliverable restartless
  | data task bytes io => exact separate.data apart deliverable
  | complete task error io => exact separate.complete apart deliverable

theorem switch (separate : Separate digest used world) (loader : DownLoaderId)
    {source target : ZFDownLoaderState} {suspended : Bool}
    (between : source = .downing ∧ target = .pause ∧ suspended = true ∨
      source = .pause ∧ target = .downing ∧ suspended = false) :
    Separate digest used (world.switch loader source target suspended) := by
  have origin : ∀ {other otherRecord},
      (world.switch loader source target suspended).tasks other = some otherRecord →
      ∃ before suspended, world.tasks other = some before ∧
        otherRecord = { before with suspended } := by
    intro other otherRecord found
    rcases exists_of_switch found with ⟨before, foundBefore, same | ⟨same, _⟩⟩
    · exact ⟨before, before.suspended, foundBefore, same⟩
    · exact ⟨before, suspended, foundBefore, same⟩
  have fields : ∀ other, ∃ state,
      (world.switch loader source target suspended).downLoaders other =
        { world.downLoaders other with state } := by
    intro other
    rw [downLoaders_switch]
    by_cases same : other = loader
    · subst same
      exact ⟨_, Function.update_self ..⟩
    · exact ⟨_, Function.update_of_ne same ..⟩
  refine ⟨separate.owned.switch loader between,
    separate.faithful.switch loader source target suspended, ?_, ?_, ?_⟩
  · intro other otherRecord found live
    rcases origin found with ⟨before, flag, foundBefore, rfl⟩
    rcases separate.bound foundBefore live with ⟨cachePath, stream, session, cancelled⟩
    rcases fields before.delegate with ⟨state, same⟩
    rw [← files_switch] at stream
    refine ⟨?_, ?_, ?_, ?_⟩ <;> simp only [same]
    · exact cachePath
    · exact stream
    · exact session
    · exact cancelled
  · intro other otherRecord found
    rcases origin found with ⟨before, flag, foundBefore, rfl⟩
    rw [sessionCount_switch]
    have bounds := separate.sessions foundBefore
    exact bounds
  · intro first second firstRecord secondRecord firstFound secondFound shared
    rcases origin firstFound with ⟨firstBefore, _, firstFoundBefore, rfl⟩
    rcases origin secondFound with ⟨secondBefore, _, secondFoundBefore, rfl⟩
    exact separate.unshared firstFoundBefore secondFoundBefore shared

theorem cancel (separate : Separate digest used world) (loader : DownLoaderId) :
    Separate digest used (world.cancel loader) := by
  have origin : ∀ {other otherRecord}, (world.cancel loader).tasks other = some otherRecord →
      ∃ before, world.tasks other = some before ∧ otherRecord = world.marked loader before := by
    intro other otherRecord found
    rw [tasks_cancel, Option.map_eq_some_iff] at found
    rcases found with ⟨before, foundBefore, same⟩
    exact ⟨before, foundBefore, same.symm⟩
  refine ⟨separate.owned.cancel loader, separate.faithful.cancel loader, ?_, ?_, ?_⟩
  · intro other otherRecord found live
    rcases origin found with ⟨before, foundBefore, rfl⟩
    have phase := DataTask.phase_eq (@unflagged_marked world loader before)
    have bound := separate.bound foundBefore (phase ▸ live)
    exact bound.cancel loader (phase ▸ live)
  · intro other otherRecord found
    rcases origin found with ⟨before, foundBefore, rfl⟩
    rw [session_marked]
    exact (separate.sessions foundBefore).trans_le (sessionCount_le_cancel world loader)
  · intro first second firstRecord secondRecord firstFound secondFound shared
    rcases origin firstFound with ⟨firstBefore, firstFoundBefore, rfl⟩
    rcases origin secondFound with ⟨secondBefore, secondFoundBefore, rfl⟩
    rw [session_marked, session_marked] at shared
    exact separate.unshared firstFoundBefore secondFoundBefore shared

/-- The session of a downloader that was never used reaches no task. -/
theorem tasks_cancel_fresh (separate : Separate digest used world) (key : String) :
    ((world.register key).cancel world.downLoaderCount).tasks = world.tasks := by
  funext task
  rw [tasks_cancel]
  cases found : world.tasks task with
  | none => simp [register, found]
  | some record =>
      have old := separate.sessions found
      have unmarked : (world.register key).marked world.downLoaderCount record = record := by
        rw [marked, if_neg]
        rintro ⟨same, _⟩
        simp only [register, sessionOf, Function.update_self, Option.getD_none] at same
        exact old.ne same
      simpa [register, found] using unmarked

theorem beginsCached (separate : Separate digest used world) {url : NSURL}
    {blocks : ClientBlocks} (unregistered : world.registered digest url = none)
    (occupied : world.files.Occupied url.cachePath) :
    Separate digest used (world.begin digest url blocks) := by
  have begins := begin_cached blocks unregistered occupied
  have sessionCount : (world.begin digest url blocks).sessionCount = world.sessionCount := by
    have occupied : (world.register (url.key digest)).files.Occupied url.cachePath := occupied
    exact sessionCount_call_cached occupied
  refine ⟨separate.owned.begin unregistered,
    separate.faithful.beginsCached separate.owned begins, ?_, ?_, ?_⟩
  · intro task record found live
    rw [begins.tasks] at found
    apply (separate.bound found live).of_same
    · rw [begins.downLoaders, Function.update_of_ne (separate.owned.used found).2.ne]
    · rw [begins.files]
  · rw [begins.tasks, sessionCount]
    exact separate.sessions
  · rw [begins.tasks]
    exact separate.unshared

theorem bound_begunTask {url : NSURL} {blocks : ClientBlocks}
    (begins : BeginsTask digest world url blocks after) :
    Bound digest after (begunTask digest world url) := by
  have mine : after.downLoaders world.downLoaderCount = begunFields digest world url blocks := by
    rw [begins.downLoaders, Function.update_self]
  constructor
  · rw [begunTask_delegate, mine]
    rfl
  · rintro ⟨⟩
  · rw [begunTask_delegate, mine]
    rintro session ⟨⟩
    rfl
  · rw [begunTask_delegate, mine]
    rintro ⟨⟩

/-- The session of a new task is newer than those of all tasks before it. -/
theorem unshared_begunTask (separate : Separate digest used world) (url : NSURL)
    {first second : TaskId} {firstRecord secondRecord : DataTask}
    (firstFound : Function.update world.tasks world.taskCount
      (some (begunTask digest world url)) first = some firstRecord)
    (secondFound : Function.update world.tasks world.taskCount
      (some (begunTask digest world url)) second = some secondRecord)
    (shared : firstRecord.session = secondRecord.session) : first = second := by
  have older : ∀ {task record}, world.tasks task = some record →
      record.session ≠ (begunTask digest world url).session := by
    intro task record found same
    have bounds := separate.sessions found
    rw [same, begunTask_session] at bounds
    exact absurd bounds (Nat.not_lt.mpr (Nat.le_succ _))
  by_cases firstFresh : first = world.taskCount <;>
    by_cases secondFresh : second = world.taskCount
  · rw [firstFresh, secondFresh]
  · rw [firstFresh, Function.update_self, Option.some.injEq] at firstFound
    rw [Function.update_of_ne secondFresh] at secondFound
    rw [← firstFound] at shared
    exact absurd shared.symm (older secondFound)
  · rw [secondFresh, Function.update_self, Option.some.injEq] at secondFound
    rw [Function.update_of_ne firstFresh] at firstFound
    rw [← secondFound] at shared
    exact absurd shared (older firstFound)
  · rw [Function.update_of_ne firstFresh] at firstFound
    rw [Function.update_of_ne secondFresh] at secondFound
    exact separate.unshared firstFound secondFound shared

theorem beginsTask (separate : Separate digest used world) {url : NSURL} {blocks : ClientBlocks}
    (usedURL : url ∈ used) (unregistered : world.registered digest url = none)
    (free : ¬world.files.Occupied url.cachePath) :
    Separate digest used (world.begin digest url blocks) := by
  have begins := begin_task digest blocks free
  have sessionCount : (world.begin digest url blocks).sessionCount = world.sessionCount + 2 := by
    have free : ¬(world.register (url.key digest)).files.Occupied url.cachePath := free
    have fresh : ¬(world.register (url.key digest)).Keeps world.downLoaderCount url :=
      not_keeps_register (url.key digest)
    rw [World.begin, sessionCount_call_started free fresh]
    simp [register, freshSession]
  have tasks := begins.tasks
  rw [separate.tasks_cancel_fresh] at tasks
  refine ⟨separate.owned.begin unregistered,
    separate.faithful.beginsTask separate.owned usedURL unregistered begins, ?_, ?_, ?_⟩
  · intro task record found live
    by_cases fresh : task = world.taskCount
    · subst fresh
      rw [tasks, Function.update_self, Option.some.injEq] at found
      subst found
      exact bound_begunTask begins
    · rw [tasks, Function.update_of_ne fresh] at found
      apply (separate.bound found live).of_same
      · rw [begins.downLoaders, Function.update_of_ne (separate.owned.used found).2.ne]
      · rw [begins.files]
  · intro task record found
    rw [sessionCount]
    by_cases fresh : task = world.taskCount
    · subst fresh
      rw [tasks, Function.update_self, Option.some.injEq] at found
      subst found
      exact Nat.lt_succ_self _
    · rw [tasks, Function.update_of_ne fresh] at found
      exact (separate.sessions found).trans (by simp)
  · rw [tasks]
    exact separate.unshared_begunTask url

theorem begin (separate : Separate digest used world) {url : NSURL} {blocks : ClientBlocks}
    (usedURL : url ∈ used) (unregistered : world.registered digest url = none) :
    Separate digest used (world.begin digest url blocks) := by
  by_cases occupied : world.files.Occupied url.cachePath
  · exact separate.beginsCached unregistered occupied
  · exact separate.beginsTask usedURL unregistered occupied

theorem kill (separate : Separate digest used world) : Separate digest used world.kill := by
  have origin : ∀ {task record}, world.kill.tasks task = some record →
      ∃ before, world.tasks task = some before ∧ record = { before with phase := .ended } := by
    intro task record found
    simp only [World.kill, Option.map_eq_some_iff] at found
    rcases found with ⟨before, foundBefore, same⟩
    exact ⟨before, foundBefore, same.symm⟩
  refine ⟨separate.owned.kill, Faithful.kill digest used world, ?_, ?_, ?_⟩
  · intro task record found live
    rcases origin found with ⟨before, _, rfl⟩
    exact absurd rfl live
  · intro task record found
    rcases origin found with ⟨before, foundBefore, rfl⟩
    have bounds := separate.sessions foundBefore
    exact bounds
  · intro first second firstRecord secondRecord firstFound secondFound shared
    rcases origin firstFound with ⟨firstBefore, firstFoundBefore, rfl⟩
    rcases origin secondFound with ⟨secondBefore, secondFoundBefore, rfl⟩
    exact separate.unshared firstFoundBefore secondFoundBefore shared

/-- The task of a registered downloader is the only one that its session reaches. -/
theorem touches_cancel (separate : Separate digest used world)
    (found : world.tasks task = some record) (live : record.phase ≠ .ended) :
    world.Touches (world.cancel record.delegate) record.delegate
      { world.downLoaders record.delegate with session := none } task
      { record with cancelled := true } := by
  have bound := separate.bound found live
  have marks := bound.cancel record.delegate live
  constructor
  case downLoaders => exact downLoaders_cancel
  case taskCount => exact taskCount_cancel
  case downLoaderCount => exact downLoaderCount_cancel
  case tasks =>
    funext other
    simp only [tasks_cancel]
    by_cases same : other = task
    · subst same
      have noted : (world.marked record.delegate record).cancelled = true := by
        apply marks.cancelled
        rw [delegate_marked, downLoaders_cancel, Function.update_self]
      rcases marked_eq world record.delegate record with ⟨cancelled, marked⟩
      rw [marked] at noted
      rw [found, Function.update_self, Option.map_some, marked, ← noted]
    · rw [Function.update_of_ne same]
      cases otherFound : world.tasks other with
      | none => rfl
      | some otherRecord =>
          have unmarked : world.marked record.delegate otherRecord = otherRecord := by
            rw [marked, if_neg]
            rintro ⟨shared, _⟩
            cases held : (world.downLoaders record.delegate).session with
            | none =>
                rw [sessionOf, held, Option.getD_none] at shared
                exact (separate.sessions otherFound).ne shared
            | some session =>
                rw [sessionOf, held, Option.getD_some] at shared
                exact same (separate.unshared otherFound found
                  (shared.trans (bound.session session held).symm))
          rw [Option.map_some, unmarked]

end Separate

theorem separate_preserved (apart : Apart digest used) :
    ((managerSystem digest).restrict fun world action =>
      Uses used action ∧ Restartless world action).Preserves (Separate digest used) := by
  rintro world action separate ⟨admitted, uses, restartless⟩
  cases action with
  | call call =>
      apply call_induction (motive := Separate digest used) separate
      · intro world loader separate
        exact separate.switch loader (Or.inl ⟨rfl, rfl, rfl⟩)
      · intro world loader separate
        exact separate.switch loader (Or.inr ⟨rfl, rfl, rfl⟩)
      · intro world loader separate
        exact separate.cancel loader
      · rintro url blocks rfl unregistered
        exact separate.begin uses unregistered
  | deliver event => exact separate.deliver apart admitted restartless
  | kill => exact separate.kill

end Steps

end ZFBaseFramework
