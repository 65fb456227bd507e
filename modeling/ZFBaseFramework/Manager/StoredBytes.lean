import ZFBaseFramework.Manager.ResumeIntegrity

/-!
# Local failures

The bytes of a chunk are counted before they are offered to the stream, and the results
of the write and of the final move are dropped. Over the sessions of one resource, with
any pattern of such failures, the tmp file, `_tmpSize` and the announcement of Success
are right exactly as long as every chunk reaches the tmp file whole and every final
move leaves a file at the cache path.
-/

namespace ZFBaseFramework

open ZFFileManagerTool World

/-- A resource and its URL. -/
structure Resource (digest : MessageDigest) where
  url : NSURL
  content : List UInt8
  small : content.length < 2 ^ 63

namespace Resource

variable {digest : MessageDigest} (resource : Resource digest)

def tmpPath : Path := resource.url.tmpPath digest

def cachePath : Path := resource.url.cachePath

/-- The answer to a request from a given offset; the whole may be asked for without a range. -/
def Answers (record : DataTask) (response : NSHTTPURLResponse) : Prop :=
  (response.statusCode = 206 ∧ record.offset < resource.content.length ∧
    response.contentRange = some (StatedRange.render
      (.span record.offset (resource.content.length - 1) (some resource.content.length)))) ∨
  (response.statusCode = 416 ∧ resource.content.length ≤ record.offset ∧
    response.contentRange = some (StatedRange.render (.unsatisfied resource.content.length))) ∨
  (response.statusCode = 200 ∧ record.offset = 0 ∧ response.contentRange = none ∧
    response.contentLength = some (toString resource.content.length))

/-- The server behaves: the answers are right, the body continues where the request and the bytes
so far left off, and it is complete when the transfer ends without an error. -/
def Serves (world : World) : ManagerAction → Prop
  | .call (.downLoad url _) => url = resource.url
  | .deliver (.response task response _) =>
      ∀ record, world.tasks task = some record → resource.Answers record response
  | .deliver (.data task bytes _) => ∀ record, world.tasks task = some record →
      bytes <+: resource.content.drop (record.offset + record.received)
  | .deliver (.complete task none _) => ∀ record, world.tasks task = some record →
      record.offset + record.received = resource.content.length
  | _ => True

/-- The sessions of the app that download the resource. -/
def system : ActionSystem World ManagerAction :=
  (managerSystem digest).restrict resource.Serves

/-- The tmp file is a prefix of the resource. -/
def TmpIntact (files : FileSystem Path) : Prop :=
  HoldsPrefix files resource.tmpPath resource.content

/-- The cached file is the whole resource. -/
def CacheIntact (files : FileSystem Path) : Prop :=
  ∀ item, files.lookup resource.cachePath = some item → item = .file resource.content

/-- The announcement of Success. -/
def Announces (effect : Effect) : Prop :=
  (∃ loader block, effect = .state loader block .success) ∨
    ∃ loader block path, effect = .success loader block path

/-- What is wanted of a step: the tmp file is a prefix of the resource, `_tmpSize` is its size
after a data event, and Success is announced only for the whole resource. -/
structure Reported (world : World) (action : ManagerAction) : Prop where
  tmp : resource.TmpIntact ((managerSystem digest).perform world action).files
  counted : ∀ task bytes io, action = .deliver (.data task bytes io) →
    (((managerSystem digest).perform world action).downLoaders (world.delegateOf task)).tmpSize =
      fileTotalSize ((managerSystem digest).perform world action).files (some resource.tmpPath)
  success : ∀ effect, Announces effect →
    world.Emits ((managerSystem digest).perform world action) effect →
    ((managerSystem digest).perform world action).files.lookup resource.cachePath =
      some (.file resource.content)

/-- A file is at the cache path, or the tmp file can be moved there. -/
def Places (world : World) (io : LocalIO) : Prop :=
  world.files.Occupied resource.cachePath ∨
    (io.moves = true ∧ world.files.Occupied resource.tmpPath)

/-- No bytes of a chunk are lost, and a download that ends with Success leaves its file. -/
def Stored (world : World) : ManagerAction → Prop
  | .deliver (.response task response io) =>
      ((world.downLoaders (world.delegateOf task)).tmpSize : ℤ) = response.totalSize →
        resource.Places world io
  | .deliver (.data task bytes io) => bytes = [] ∨
      ((world.downLoaders (world.delegateOf task)).streamNode.isSome = true ∧
        LocalIO.taken io bytes = bytes)
  | .deliver (.complete _ none io) => resource.Places world io
  | _ => True

theorem tmpPath_ne_cachePath : resource.tmpPath ≠ resource.cachePath :=
  NSURL.tmpPath_ne_cachePath digest resource.url resource.url

theorem totalSize_answer {record : DataTask} {response : NSHTTPURLResponse}
    (answers : resource.Answers record response) :
    response.totalSize = resource.content.length := by
  rcases answers with ⟨_, _, span⟩ | ⟨_, _, unsatisfied⟩ | ⟨_, _, whole, length⟩
  · exact NSHTTPURLResponse.totalSize_of_range span rfl resource.small
  · exact NSHTTPURLResponse.totalSize_of_range unsatisfied rfl resource.small
  · rw [NSHTTPURLResponse.totalSize, whole, length]
    exact NSHTTPURLResponse.longLongValue_toString resource.small

section Files

variable {resource} {files : FileSystem Path}

theorem CacheIntact.touch (intact : resource.CacheIntact files) :
    resource.CacheIntact (files.touch resource.tmpPath) := by
  intro item found
  rw [FileSystem.lookup_touch, if_neg resource.tmpPath_ne_cachePath.symm] at found
  exact intact item found

/-- Opening the stream adds no bytes, and an open stream writes to the tmp file. -/
theorem TmpIntact.openAppending (tmp : resource.TmpIntact files)
    (cache : resource.CacheIntact files) (io : LocalIO) :
    let opened := NSOutputStream.openAppending files (some resource.tmpPath) io
    resource.TmpIntact opened.1 ∧ resource.CacheIntact opened.1 ∧
      fileTotalSize opened.1 (some resource.tmpPath) =
        fileTotalSize files (some resource.tmpPath) ∧
      ∀ node, opened.2.node = some node → opened.1.node resource.tmpPath = some node := by
  cases opens : io.opens with
  | false =>
      simp only [NSOutputStream.openAppending, opens, Bool.false_eq_true, if_false]
      refine ⟨tmp, cache, trivial, ?_⟩
      intro node held
      cases held
  | true =>
      simp only [NSOutputStream.openAppending, opens, if_true]
      refine ⟨tmp.touch, cache.touch, ?_, ?_⟩
      · rw [fileTotalSize, fileTotalSize, FileSystem.lookup_touch, if_pos rfl]
        cases files.lookup resource.tmpPath <;> rfl
      · intro node writable
        exact (FileSystem.writable_eq_some_iff.mp writable).1

/-- Bytes that are appended to the tmp file do not reach the cached one. -/
theorem lookup_append_cachePath {node : ℕ} {bytes : List UInt8}
    (linked : files.node resource.tmpPath = some node) :
    (files.append node bytes).lookup resource.cachePath = files.lookup resource.cachePath := by
  rw [FileSystem.lookup_append, if_neg]
  intro same
  exact resource.tmpPath_ne_cachePath (files.node_inj linked same)

/-- The move of a finished download, if it is not refused. -/
def placed (resource : Resource digest) (files : FileSystem Path) (io : LocalIO) :
    FileSystem Path :=
  if io.moves then moveFile files (some resource.tmpPath) (some resource.cachePath) else files

theorem TmpIntact.placed (intact : resource.TmpIntact files) (io : LocalIO) :
    resource.TmpIntact (resource.placed files io) := by
  rw [Resource.placed]
  split
  · rw [moveFile]
    split
    · intro item found
      rw [FileSystem.lookup_move, if_neg resource.tmpPath_ne_cachePath, if_pos rfl] at found
      cases found
    · exact intact
  · exact intact

theorem lookup_placed_occupied {io : LocalIO} (occupied : files.Occupied resource.cachePath) :
    (resource.placed files io).lookup resource.cachePath = files.lookup resource.cachePath := by
  have stuck : ¬files.Movable resource.tmpPath resource.cachePath := fun movable =>
    movable.2 occupied
  rw [Resource.placed]
  split
  · rw [moveFile, if_neg stuck]
  · rfl

theorem lookup_placed_free {io : LocalIO} (free : ¬files.Occupied resource.cachePath) :
    (resource.placed files io).lookup resource.cachePath =
      if io.moves then files.lookup resource.tmpPath else none := by
  rw [Resource.placed]
  split
  · by_cases occupied : files.Occupied resource.tmpPath
    · rw [moveFile, if_pos ⟨occupied, free⟩, FileSystem.lookup_move, if_pos rfl]
    · have stuck : ¬files.Movable resource.tmpPath resource.cachePath := fun movable =>
        occupied movable.1
      rw [moveFile, if_neg stuck, FileSystem.not_occupied_iff.mp occupied,
        FileSystem.not_occupied_iff.mp free]
  · exact FileSystem.not_occupied_iff.mp free

section Full

variable (tmp : resource.TmpIntact files) (cache : resource.CacheIntact files)
  (full : fileTotalSize files (some resource.tmpPath) = resource.content.length)

include tmp cache full

theorem CacheIntact.placed (io : LocalIO) : resource.CacheIntact (resource.placed files io) := by
  intro item found
  by_cases occupied : files.Occupied resource.cachePath
  · rw [lookup_placed_occupied occupied] at found
    exact cache item found
  · rw [lookup_placed_free occupied] at found
    split at found
    · have present : files.Occupied resource.tmpPath := FileSystem.occupied_iff.mpr ⟨item, found⟩
      rw [tmp.eq_content full present, Option.some.injEq] at found
      exact found.symm
    · cases found

/-- The whole resource is at the cache path afterwards exactly if a file was there, or the tmp
file is there and its move is not refused. -/
theorem lookup_placed_iff (io : LocalIO) :
    (resource.placed files io).lookup resource.cachePath = some (.file resource.content) ↔
      files.Occupied resource.cachePath ∨
        (io.moves = true ∧ files.Occupied resource.tmpPath) := by
  by_cases occupied : files.Occupied resource.cachePath
  · rcases FileSystem.occupied_iff.mp occupied with ⟨item, found⟩
    rw [lookup_placed_occupied occupied, found, cache item found]
    exact iff_of_true rfl (Or.inl occupied)
  · rw [lookup_placed_free occupied]
    constructor
    · intro found
      split at found
      · rename_i moves
        exact Or.inr ⟨moves, FileSystem.occupied_iff.mpr ⟨_, found⟩⟩
      · cases found
    · intro places
      rcases places.resolve_left occupied with ⟨moves, present⟩
      rw [if_pos moves, tmp.eq_content full present]

end Full

end Files

end Resource

theorem LocalIO.taken_eq_of_length {io : LocalIO} {bytes : List UInt8}
    (whole : (io.taken bytes).length = bytes.length) : io.taken bytes = bytes := by
  unfold LocalIO.taken at whole ⊢
  split
  · rfl
  · rename_i count accepts
    rw [accepts] at whole
    exact List.take_of_length_le (by simpa using whole)

/-- A running task, its downloader and its tmp file agree on how far the download has come, and
an open stream writes to the tmp file. -/
structure Storing {digest : MessageDigest} (resource : Resource digest) (world : World)
    (record : DataTask) : Prop where
  cachePath : (world.downLoaders record.delegate).downLoadCachePath = some resource.cachePath
  counted : record.phase = .waiting ∨ record.phase = .allowed →
    (world.downLoaders record.delegate).tmpSize = record.offset + record.received
  onDisk : record.phase = .waiting ∨ record.phase = .allowed →
    fileTotalSize world.files (some resource.tmpPath) = record.offset + record.received
  stream : record.phase = .allowed → ∀ node,
    (world.downLoaders record.delegate).streamNode = some node →
    world.files.node resource.tmpPath = some node

/-- The invariant of the sessions as long as no bytes and no file are lost. -/
structure Secure {digest : MessageDigest} (resource : Resource digest) (world : World) : Prop where
  owned : Owned world
  faithful : Faithful digest {resource.url} world
  tmp : resource.TmpIntact world.files
  cache : resource.CacheIntact world.files
  storing : ∀ {task record}, world.tasks task = some record → record.phase ≠ .ended →
    Storing resource world record

section Steps

variable {digest : MessageDigest} {resource : Resource digest} {world after : World}
  {task : TaskId} {record changed : DataTask} {fields : ZFDownLoader}

theorem Storing.of_same (storing : Storing resource world record)
    (agree : changed.unflagged = record.unflagged)
    (cachePath : (after.downLoaders record.delegate).downLoadCachePath =
      (world.downLoaders record.delegate).downLoadCachePath)
    (tmpSize : (after.downLoaders record.delegate).tmpSize =
      (world.downLoaders record.delegate).tmpSize)
    (stream : (after.downLoaders record.delegate).streamNode =
      (world.downLoaders record.delegate).streamNode)
    (files : after.files = world.files) : Storing resource after changed := by
  constructor
  · rw [DataTask.delegate_eq agree, cachePath]
    exact storing.cachePath
  · rw [DataTask.delegate_eq agree, DataTask.offset_eq agree, DataTask.received_eq agree,
      DataTask.phase_eq agree, tmpSize]
    exact storing.counted
  · rw [DataTask.offset_eq agree, DataTask.received_eq agree, DataTask.phase_eq agree, files]
    exact storing.onDisk
  · rw [DataTask.delegate_eq agree, DataTask.phase_eq agree, stream, files]
    exact storing.stream

namespace Secure

theorem tmpPath (secure : Secure resource world) (found : world.tasks task = some record)
    (live : record.phase ≠ .ended) :
    (world.downLoaders record.delegate).downLoadTmpPath = some resource.tmpPath := by
  rcases secure.faithful.live found live with ⟨same, _, _, held⟩
  rw [held, Set.mem_singleton_iff.mp same, Resource.tmpPath]

theorem only (secure : Secure resource world) (found : world.tasks task = some record)
    (live : record.phase ≠ .ended) {other : TaskId} {otherRecord : DataTask}
    (otherFound : world.tasks other = some otherRecord) (otherLive : otherRecord.phase ≠ .ended) :
    other = task := by
  by_contra different
  have apart := secure.faithful.apart found live otherFound otherLive different
  have mine := (secure.faithful.live found live).1
  have others := (secure.faithful.live otherFound otherLive).1
  rw [Set.mem_singleton_iff] at mine others
  exact apart.2 (others.trans mine.symm)

/-- A step that touches no more than the live task, its downloader and its files. -/
theorem of_touches (secure : Secure resource world) (found : world.tasks task = some record)
    (live : record.phase ≠ .ended) (owned : Owned after)
    (faithful : Faithful digest {resource.url} after)
    (touches : world.Touches after record.delegate fields task changed)
    (tmp : resource.TmpIntact after.files) (cache : resource.CacheIntact after.files)
    (storing : changed.phase ≠ .ended → Storing resource after changed) :
    Secure resource after := by
  refine ⟨owned, faithful, tmp, cache, ?_⟩
  intro other otherRecord otherFound otherLive
  by_cases same : other = task
  · subst same
    rw [touches.tasks, Function.update_self, Option.some.injEq] at otherFound
    subst otherFound
    exact storing otherLive
  · rw [touches.tasks, Function.update_of_ne same] at otherFound
    exact absurd (secure.only found live otherFound otherLive) same

theorem of_sameTransfers (secure : Secure resource world) (owned : Owned after)
    (same : SameTransfers world after) : Secure resource after := by
  refine ⟨owned, secure.faithful.of_sameTransfers same, same.files ▸ secure.tmp,
    same.files ▸ secure.cache, ?_⟩
  intro task record found live
  rcases DataTask.exists_of_unflagged (same.tasks task) found with ⟨before, foundBefore, agree⟩
  rcases same.downLoaders before.delegate with ⟨state, session, fields⟩
  apply (secure.storing foundBefore (DataTask.phase_eq agree ▸ live)).of_same agree.symm
  · rw [fields]
  · rw [fields]
  · rw [fields]
    rfl
  · exact same.files

theorem switch (secure : Secure resource world) (loader : DownLoaderId)
    {source target : ZFDownLoaderState} {suspended : Bool}
    (between : source = .downing ∧ target = .pause ∧ suspended = true ∨
      source = .pause ∧ target = .downing ∧ suspended = false) :
    Secure resource (world.switch loader source target suspended) :=
  secure.of_sameTransfers (secure.owned.switch loader between)
    (sameTransfers_switch world loader source target suspended)

theorem cancel (secure : Secure resource world) (loader : DownLoaderId) :
    Secure resource (world.cancel loader) :=
  secure.of_sameTransfers (secure.owned.cancel loader) (sameTransfers_cancel world loader)

theorem begin (secure : Secure resource world) {url : NSURL} {blocks : ClientBlocks}
    (same : url = resource.url) (unregistered : world.registered digest url = none) :
    Secure resource (world.begin digest url blocks) := by
  have used : url ∈ ({resource.url} : Set NSURL) := same
  have idle : ∀ {task record}, world.tasks task = some record → record.phase = .ended := by
    intro task record found
    by_contra live
    rcases secure.faithful.live found live with ⟨mine, registered, _, _⟩
    rw [Set.mem_singleton_iff.mp mine, ← same, unregistered] at registered
    cases registered
  have owned : Owned (world.begin digest url blocks) := secure.owned.begin unregistered
  by_cases occupied : world.files.Occupied url.cachePath
  · have begins := begin_cached blocks unregistered occupied
    refine ⟨owned, secure.faithful.beginsCached secure.owned begins, begins.files ▸ secure.tmp,
      begins.files ▸ secure.cache, ?_⟩
    intro task record found live
    rw [begins.tasks] at found
    exact absurd (idle found) live
  · have begins := begin_task digest blocks occupied
    refine ⟨owned, secure.faithful.beginsTask secure.owned used unregistered begins,
      begins.files ▸ secure.tmp, begins.files ▸ secure.cache, ?_⟩
    intro task record found live
    by_cases fresh : task = world.taskCount
    · subst fresh
      rw [begins.tasks, Function.update_self, Option.some.injEq] at found
      subst found
      have mine : (world.begin digest url blocks).downLoaders world.downLoaderCount =
          begunFields digest world url blocks := by
        rw [begins.downLoaders, Function.update_self]
      refine ⟨?_, ?_, ?_, nofun⟩
      · rw [begunTask_delegate, mine, Resource.cachePath, ← same]
        rfl
      · intro _
        rw [begunTask_delegate, mine]
        rfl
      · intro _
        rw [begins.files, Resource.tmpPath, ← same]
        rfl
    · rw [begins.tasks, Function.update_of_ne fresh] at found
      rcases DataTask.exists_of_unflagged (unflagged_cancel task) found with
        ⟨before, foundBefore, agree⟩
      exact absurd ((DataTask.phase_eq agree).symm.trans (idle foundBefore)) live

theorem full_of_response (secure : Secure resource world) {response : NSHTTPURLResponse}
    (found : world.tasks task = some record) (waiting : record.phase = .waiting)
    (answers : resource.Answers record response)
    (full : ((world.downLoaders record.delegate).tmpSize : ℤ) = response.totalSize) :
    fileTotalSize world.files (some resource.tmpPath) = resource.content.length := by
  have storing := secure.storing found (by simp [waiting])
  rw [storing.onDisk (Or.inl waiting), ← storing.counted (Or.inl waiting)]
  rw [resource.totalSize_answer answers] at full
  exact_mod_cast full

theorem full_of_complete (secure : Secure resource world)
    (found : world.tasks task = some record) (allowed : record.phase = .allowed)
    (whole : record.offset + record.received = resource.content.length) :
    fileTotalSize world.files (some resource.tmpPath) = resource.content.length := by
  have storing := secure.storing found (by simp [allowed])
  rw [storing.onDisk (Or.inr allowed), whole]

theorem enough_of_response (secure : Secure resource world) {response : NSHTTPURLResponse}
    (found : world.tasks task = some record) (waiting : record.phase = .waiting)
    (answers : resource.Answers record response) :
    ((world.downLoaders record.delegate).tmpSize : ℤ) ≤ response.totalSize := by
  have storing := secure.storing found (by simp [waiting])
  rw [storing.counted (Or.inl waiting), ← storing.onDisk (Or.inl waiting),
    resource.totalSize_answer answers]
  exact_mod_cast secure.tmp.size_le

theorem files_response_full (secure : Secure resource world) {response : NSHTTPURLResponse}
    (io : LocalIO) (found : world.tasks task = some record) (waiting : record.phase = .waiting)
    (full : ((world.downLoaders record.delegate).tmpSize : ℤ) = response.totalSize) :
    (world.deliver (.response task response io)).files = resource.placed world.files io := by
  have live : record.phase ≠ .ended := by simp [waiting]
  rw [files_finished io found full, secure.tmpPath found live,
    (secure.storing found live).cachePath, Resource.placed]

theorem files_complete (secure : Secure resource world) (io : LocalIO)
    (found : world.tasks task = some record) (live : record.phase ≠ .ended) :
    (world.deliver (.complete task none io)).files = resource.placed world.files io := by
  rw [files_complete_finished io found, secure.tmpPath found live,
    (secure.storing found live).cachePath, Resource.placed]

theorem response (secure : Secure resource world) {response : NSHTTPURLResponse} {io : LocalIO}
    (deliverable : world.Deliverable (.response task response io))
    (answers : ∀ record, world.tasks task = some record → resource.Answers record response) :
    Secure resource (world.deliver (.response task response io)) := by
  rcases exists_of_response deliverable with ⟨record, found, waiting⟩
  have live : record.phase ≠ .ended := by simp [waiting]
  have storing := secure.storing found live
  have owned := secure.owned.response deliverable
  have enough := secure.enough_of_response found waiting (answers record found)
  have restartless : Restartless world (.deliver (.response task response io)) := by
    simpa [Restartless, delegateOf_eq found] using enough
  have faithful := secure.faithful.deliver secure.owned deliverable restartless
  rcases lt_or_eq_of_le enough with short | full
  · have touches := touches_opened io found short
    have opened := files_opened io found short
    rw [secure.tmpPath found live] at opened touches
    rcases secure.tmp.openAppending secure.cache io with ⟨tmp, cache, size, linked⟩
    rw [← opened] at tmp cache size linked
    apply secure.of_touches found live owned faithful touches tmp cache
    intro _
    refine ⟨?_, ?_, ?_, ?_⟩
    · rw [touches.downLoaders, Function.update_self]
      exact storing.cachePath
    · intro _
      rw [touches.downLoaders, Function.update_self]
      exact storing.counted (Or.inl waiting)
    · intro _
      rw [size]
      exact storing.onDisk (Or.inl waiting)
    · intro _ node held
      rw [touches.downLoaders, Function.update_self] at held
      exact linked node held
  · have size := secure.full_of_response found waiting (answers record found) full
    have moved := secure.files_response_full io found waiting full
    have touches := touches_finished io found full
    apply secure.of_touches found live owned faithful touches
    · rw [moved]
      exact secure.tmp.placed io
    · rw [moved]
      exact secure.cache.placed secure.tmp size io
    intro _
    refine ⟨?_, by simp, by simp, by simp⟩
    rw [touches.downLoaders, Function.update_self]
    exact storing.cachePath

/-- Bytes that reach the stream whole are appended where the tmp file ends. -/
theorem data (secure : Secure resource world) {bytes : List UInt8} {io : LocalIO}
    (deliverable : world.Deliverable (.data task bytes io))
    (next : ∀ record, world.tasks task = some record →
      bytes <+: resource.content.drop (record.offset + record.received))
    (stored : resource.Stored world (.deliver (.data task bytes io))) :
    Secure resource (world.deliver (.data task bytes io)) := by
  rcases exists_of_data deliverable with ⟨record, found, allowed⟩
  have live : record.phase ≠ .ended := by simp [allowed]
  have storing := secure.storing found live
  have owned := secure.owned.data deliverable
  have faithful := secure.faithful.deliver secure.owned deliverable trivial
  have touches := touches_data bytes io found
  have written := files_data bytes io found
  have onDisk := storing.onDisk (Or.inr allowed)
  have counted := storing.counted (Or.inr allowed)
  rw [Resource.Stored, delegateOf_eq found] at stored
  cases stream : (world.downLoaders record.delegate).streamNode with
  | none =>
      rw [stream] at written
      obtain rfl : bytes = [] := by simpa [stream] using stored
      apply secure.of_touches found live owned faithful touches (written ▸ secure.tmp)
        (written ▸ secure.cache)
      intro _
      refine ⟨?_, ?_, ?_, ?_⟩
      · rw [touches.downLoaders, Function.update_self]
        exact storing.cachePath
      · intro _
        rw [touches.downLoaders, Function.update_self]
        exact counted
      · intro _
        rw [written]
        exact onDisk
      · intro _ node held
        rw [touches.downLoaders, Function.update_self] at held
        rw [written]
        exact storing.stream allowed node held
  | some node =>
      have linked := storing.stream allowed node stream
      have taken : LocalIO.taken io bytes = bytes := by
        rcases stored with rfl | ⟨_, taken⟩
        · exact LocalIO.taken_nil io
        · exact taken
      rw [stream, taken] at written
      apply secure.of_touches found live owned faithful touches
      · rw [written]
        apply secure.tmp.append linked
        rw [onDisk]
        exact next record found
      · intro item present
        rw [written, Resource.lookup_append_cachePath linked] at present
        exact secure.cache item present
      intro _
      refine ⟨?_, ?_, ?_, ?_⟩
      · rw [touches.downLoaders, Function.update_self]
        exact storing.cachePath
      · intro _
        rw [touches.downLoaders, Function.update_self]
        simp only [counted, Nat.add_assoc]
      · intro _
        rw [written, secure.tmp.size_append linked, onDisk, Nat.add_assoc]
      · intro _ other held
        rw [touches.downLoaders, Function.update_self] at held
        rw [written, FileSystem.node_append]
        exact storing.stream allowed other held

theorem complete (secure : Secure resource world) {error : Option NSError} {io : LocalIO}
    (deliverable : world.Deliverable (.complete task error io))
    (whole : error = none → ∀ record, world.tasks task = some record →
      record.offset + record.received = resource.content.length) :
    Secure resource (world.deliver (.complete task error io)) := by
  rcases exists_of_complete deliverable with ⟨record, found, live, allowed⟩
  have owned := secure.owned.complete deliverable
  have faithful := secure.faithful.deliver secure.owned deliverable trivial
  have touches := touches_complete error io found
  cases error with
  | none =>
      have size := secure.full_of_complete found (allowed rfl) (whole rfl record found)
      have moved := secure.files_complete io found live
      apply secure.of_touches found live owned faithful touches
      · rw [moved]
        exact secure.tmp.placed io
      · rw [moved]
        exact secure.cache.placed secure.tmp size io
      · exact fun unfinished => absurd rfl unfinished
  | some failure =>
      have same := files_complete_failed io found failure
      apply secure.of_touches found live owned faithful touches
      · rw [same]
        exact secure.tmp
      · rw [same]
        exact secure.cache
      · exact fun unfinished => absurd rfl unfinished

theorem kill (secure : Secure resource world) : Secure resource world.kill := by
  refine ⟨secure.owned.kill, Faithful.kill digest _ world, secure.tmp, secure.cache, ?_⟩
  intro task record found live
  simp only [World.kill, Option.map_eq_some_iff] at found
  rcases found with ⟨before, _, rfl⟩
  exact absurd rfl live

theorem perform (secure : Secure resource world) {action : ManagerAction}
    (admitted : (managerSystem digest).Admits world action)
    (serves : resource.Serves world action) (stored : resource.Stored world action) :
    Secure resource ((managerSystem digest).perform world action) := by
  cases action with
  | call call =>
      apply call_induction (motive := Secure resource) secure
      · intro middle loader secure
        exact secure.switch loader (Or.inl ⟨rfl, rfl, rfl⟩)
      · intro middle loader secure
        exact secure.switch loader (Or.inr ⟨rfl, rfl, rfl⟩)
      · intro middle loader secure
        exact secure.cancel loader
      · rintro url blocks rfl unregistered
        exact secure.begin serves unregistered
  | deliver event =>
      cases event with
      | response task response io => exact secure.response admitted serves
      | data task bytes io => exact secure.data admitted serves stored
      | complete task error io =>
          apply secure.complete admitted
          rintro rfl
          exact serves
  | kill => exact secure.kill

theorem cached_of_call (secure : Secure resource world) {call : ManagerCall} {effect : Effect}
    (announces : Resource.Announces effect)
    (emitted : world.Emits (world.call digest call) effect)
    (serves : resource.Serves world (.call call)) :
    (world.call digest call).files.lookup resource.cachePath = some (.file resource.content) := by
  by_cases begins : ∃ url blocks, call = .downLoad url blocks ∧
    world.registered digest url = none
  · rcases begins with ⟨url, blocks, rfl, unregistered⟩
    obtain rfl : url = resource.url := serves
    rw [World.call, managerDownLoadWithURL_unregistered unregistered] at emitted ⊢
    by_cases occupied : world.files.Occupied resource.url.cachePath
    · have begins := begin_cached blocks unregistered occupied
      rcases FileSystem.occupied_iff.mp occupied with ⟨item, found⟩
      rw [begins.files, Resource.cachePath, found, secure.cache item found]
    · have begins := begin_task digest blocks occupied
      rw [emits_iff begins.log] at emitted
      simp only [List.mem_cons, List.not_mem_nil, or_false] at emitted
      rcases emitted with rfl | rfl <;> simp [Resource.Announces] at announces
  · have without : Without Resource.Announces world (world.call digest call) := by
      apply call_without
      · simp [Resource.Announces]
      · simp [Resource.Announces]
      · intro url blocks same unregistered
        exact absurd ⟨url, blocks, same, unregistered⟩ begins
    exact absurd announces (without.not_of_emits emitted)

/-- A response is reported right exactly if a full tmp file gets to the cache path. -/
theorem reported_response_iff (secure : Secure resource world) {response : NSHTTPURLResponse}
    {io : LocalIO} (deliverable : world.Deliverable (.response task response io))
    (serves : resource.Serves world (.deliver (.response task response io))) :
    resource.Reported world (.deliver (.response task response io)) ↔
      resource.Stored world (.deliver (.response task response io)) := by
  rcases exists_of_response deliverable with ⟨record, found, waiting⟩
  have enough := secure.enough_of_response found waiting (serves record found)
  rw [Resource.Stored, delegateOf_eq found]
  rcases lt_or_eq_of_le enough with short | full
  · refine iff_of_true ⟨(secure.response deliverable serves).tmp, nofun, ?_⟩ ?_
    · intro effect announces emitted
      have listed := (emits_iff (log_opened io found short)).mp emitted
      simp only [List.mem_cons, List.not_mem_nil, or_false] at listed
      rcases listed with rfl | rfl <;> simp [Resource.Announces] at announces
    · intro full
      exact absurd full short.ne
  · have size := secure.full_of_response found waiting (serves record found) full
    have placed := Resource.lookup_placed_iff secure.tmp secure.cache size io
    rw [← secure.files_response_full io found waiting full] at placed
    constructor
    · intro reported _
      apply placed.mp
      apply reported.success (.state record.delegate
        (world.downLoaders record.delegate).dloadStateChange .success)
      · exact Or.inl ⟨_, _, rfl⟩
      · exact (emits_iff (log_finished io found full)).mpr (by simp)
    · intro stored
      refine ⟨(secure.response deliverable serves).tmp, nofun, ?_⟩
      intro _ _ _
      exact placed.mpr (stored full)

/-- A chunk is counted right exactly if all of it reaches the tmp file. -/
theorem reported_data_iff (secure : Secure resource world) {bytes : List UInt8} {io : LocalIO}
    (deliverable : world.Deliverable (.data task bytes io))
    (serves : resource.Serves world (.deliver (.data task bytes io))) :
    resource.Reported world (.deliver (.data task bytes io)) ↔
      resource.Stored world (.deliver (.data task bytes io)) := by
  rcases exists_of_data deliverable with ⟨record, found, allowed⟩
  have live : record.phase ≠ .ended := by simp [allowed]
  have touches := touches_data bytes io found
  constructor
  · intro reported
    have storing := secure.storing found live
    have counted : ((world.deliver (.data task bytes io)).downLoaders record.delegate).tmpSize =
        fileTotalSize (world.deliver (.data task bytes io)).files (some resource.tmpPath) := by
      rw [← delegateOf_eq found]
      exact reported.counted task bytes io rfl
    have before := (storing.counted (Or.inr allowed)).trans (storing.onDisk (Or.inr allowed)).symm
    rw [touches.downLoaders, Function.update_self, files_data bytes io found] at counted
    simp only [before] at counted
    rw [Resource.Stored, delegateOf_eq found]
    cases stream : (world.downLoaders record.delegate).streamNode with
    | none =>
        simp only [stream] at counted
        exact Or.inl (List.length_eq_zero_iff.mp (by omega))
    | some node =>
        have linked := storing.stream allowed node stream
        rw [stream] at counted
        simp only [secure.tmp.size_append linked] at counted
        exact Or.inr ⟨rfl, LocalIO.taken_eq_of_length (by omega)⟩
  · intro stored
    have later := secure.data deliverable serves stored
    refine ⟨later.tmp, ?_, ?_⟩
    · rintro _ _ _ ⟨⟩
      have foundAfter : (world.deliver (.data task bytes io)).tasks task =
          some { record with received := record.received + bytes.length } := by
        rw [touches.tasks, Function.update_self]
      have storing := later.storing foundAfter live
      rw [delegateOf_eq found]
      exact (storing.counted (Or.inr allowed)).trans (storing.onDisk (Or.inr allowed)).symm
    · intro effect announces emitted
      have listed := (emits_iff (log_data bytes io found)).mp emitted
      split at listed
      · simp only [List.nil_append, List.mem_singleton] at listed
        subst listed
        simp [Resource.Announces] at announces
      · simp only [List.cons_append, List.nil_append, List.mem_cons, List.not_mem_nil,
          or_false] at listed
        rcases listed with rfl | rfl <;> simp [Resource.Announces] at announces

/-- The end of a transfer is reported right exactly if its file gets to the cache path. -/
theorem reported_complete_iff (secure : Secure resource world) {error : Option NSError}
    {io : LocalIO} (deliverable : world.Deliverable (.complete task error io))
    (serves : resource.Serves world (.deliver (.complete task error io))) :
    resource.Reported world (.deliver (.complete task error io)) ↔
      resource.Stored world (.deliver (.complete task error io)) := by
  rcases exists_of_complete deliverable with ⟨record, found, live, allowed⟩
  cases error with
  | none =>
      have size := secure.full_of_complete found (allowed rfl) (serves record found)
      have placed := Resource.lookup_placed_iff secure.tmp secure.cache size io
      rw [← secure.files_complete io found live] at placed
      constructor
      · intro reported
        apply placed.mp
        apply reported.success (.state record.delegate
          (world.downLoaders record.delegate).dloadStateChange .success)
        · exact Or.inl ⟨_, _, rfl⟩
        · exact (emits_iff (log_complete_finished io found)).mpr (by simp)
      · intro stored
        refine ⟨(secure.complete deliverable fun _ => serves).tmp, nofun, ?_⟩
        intro _ _ _
        exact placed.mpr stored
  | some failure =>
      refine iff_of_true ⟨(secure.complete deliverable nofun).tmp, nofun, ?_⟩ trivial
      intro effect announces emitted
      have listed := (emits_iff (log_complete_failed io found failure)).mp emitted
      simp only [List.mem_cons, List.not_mem_nil, or_false] at listed
      rcases listed with rfl | rfl <;> simp [Resource.Announces] at announces

theorem reported_iff (secure : Secure resource world) {action : ManagerAction}
    (admitted : resource.system.Admits world action) :
    resource.Reported world action ↔ resource.Stored world action := by
  rcases admitted with ⟨admitted, serves⟩
  cases action with
  | call call =>
      refine iff_of_true ⟨(secure.perform admitted serves trivial).tmp, nofun, ?_⟩ trivial
      intro effect announces emitted
      exact secure.cached_of_call announces emitted serves
  | deliver event =>
      cases event with
      | response task response io => exact secure.reported_response_iff admitted serves
      | data task bytes io => exact secure.reported_data_iff admitted serves
      | complete task error io => exact secure.reported_complete_iff admitted serves
  | kill =>
      refine iff_of_true ⟨secure.tmp, nofun, ?_⟩ trivial
      rintro effect _ ⟨fresh, logged, present⟩
      rw [show ((managerSystem digest).perform world .kill).log = world.log from rfl,
        List.self_eq_append_left] at logged
      rw [logged] at present
      cases present

end Secure

/-- Local failures are reported in every step of a run exactly if no step loses bytes of a chunk
or the file of a finished download. -/
theorem run_reported_iff {files : FileSystem Path} (tmp : resource.TmpIntact files)
    (cache : resource.CacheIntact files) {actions : List ManagerAction}
    (runs : resource.system.Runs (launch files) actions) :
    resource.system.Along resource.Reported (launch files) actions ↔
      resource.system.Along resource.Stored (launch files) actions := by
  have secure : Secure resource (launch files) :=
    ⟨owned_launch files, faithful_launch digest _ files, tmp, cache, nofun⟩
  refine ActionSystem.along_iff_along ?_ ?_ secure runs
  · rintro world action secure ⟨admitted, serves⟩ stored
    exact secure.perform admitted serves stored
  · intro world action secure admitted
    exact secure.reported_iff admitted

end Steps

/-- The example's resource of five bytes. -/
def exampleResource : Resource exampleDigest where
  url := exampleURL
  content := [1, 2, 3, 4, 5]
  small := by decide

/-- The container with the first two bytes in the tmp file. -/
def leftBehind : FileSystem Path :=
  emptyContainer.put exampleResource.tmpPath (.file [1, 2])

theorem tmpIntact_leftBehind : exampleResource.TmpIntact leftBehind := by
  intro item found
  have present : leftBehind.lookup exampleResource.tmpPath = some (.file [1, 2]) := by decide
  rw [present, Option.some.injEq] at found
  exact ⟨[1, 2], found.symm, [3, 4, 5], rfl⟩

theorem cacheIntact_leftBehind : exampleResource.CacheIntact leftBehind := by
  intro item found
  have free : leftBehind.lookup exampleResource.cachePath = none := by decide
  rw [free] at found
  cases found

/-- The rest of the resource is fetched. -/
def resumed : List ManagerAction :=
  [.call (.downLoad exampleURL exampleBlocks),
   .deliver (.response 0 ((StatedReply.mk 206 none (some (.span 2 4 (some 5)))).render exampleURL)
     .healthy),
   .deliver (.data 0 [3, 4, 5] .healthy),
   .deliver (.complete 0 none .healthy)]

theorem runs_resumed : exampleResource.system.Runs (launch leftBehind) resumed := by
  refine ⟨⟨trivial, rfl⟩, ⟨by decide, ?_⟩, ⟨by decide, ?_⟩, ⟨by decide, ?_⟩, trivial⟩
  · rintro record ⟨⟩
    exact Or.inl ⟨rfl, by decide, rfl⟩
  · rintro record ⟨⟩
    exact ⟨[], rfl⟩
  · rintro record ⟨⟩
    rfl

theorem run_reported_resumed :
    exampleResource.system.Along exampleResource.Reported (launch leftBehind) resumed := by
  refine (run_reported_iff tmpIntact_leftBehind cacheIntact_leftBehind runs_resumed).mpr ?_
  refine ⟨trivial, ?_, ?_, ?_, trivial⟩
  · intro full
    exact absurd full (by decide)
  · exact Or.inr ⟨by decide, rfl⟩
  · exact Or.inr ⟨rfl, by decide⟩

/-- A write takes one of three bytes, and the transfer goes on to its end. -/
def shortWrite : List ManagerAction :=
  [.call (.downLoad exampleURL exampleBlocks),
   .deliver (.response 0 ((StatedReply.mk 206 none (some (.span 0 4 (some 5)))).render exampleURL)
     .healthy),
   .deliver (.data 0 [1, 2, 3] ⟨true, some 1, true⟩),
   .deliver (.data 0 [4, 5] .healthy),
   .deliver (.complete 0 none .healthy)]

/-- The file of a successful download has a gap. -/
theorem shortWrite_not_reported :
    exampleResource.system.Runs (launch emptyContainer) shortWrite ∧
      (exampleResource.system.exec (launch emptyContainer) shortWrite).files.lookup
        exampleResource.cachePath = some (.file [1, 4, 5]) ∧
      ¬exampleResource.system.Along exampleResource.Reported (launch emptyContainer)
        shortWrite := by
  refine ⟨?_, by decide, ?_⟩
  · refine ⟨⟨trivial, rfl⟩, ⟨by decide, ?_⟩, ⟨by decide, ?_⟩, ⟨by decide, ?_⟩, ⟨by decide, ?_⟩,
      trivial⟩
    · rintro record ⟨⟩
      exact Or.inl ⟨rfl, by decide, rfl⟩
    · rintro record ⟨⟩
      exact ⟨[4, 5], rfl⟩
    · rintro record ⟨⟩
      exact ⟨[], rfl⟩
    · rintro record ⟨⟩
      rfl
  · rintro ⟨_, _, reported, _⟩
    have counted := reported.counted 0 _ _ rfl
    revert counted
    decide

end ZFBaseFramework
