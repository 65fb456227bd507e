import ZFBaseFramework.Manager.Registry

/-!
# Resume integrity

Against a server that answers ranges correctly, and whatever the order of calls,
events, failures and kills, the tmp file of a URL is a prefix of its resource and the
cached file is the whole of it, as long as the last path components of the URLs are
names of files: for `/` the code hands out Caches itself. The invariant ties four things
that different callbacks update: the bytes on disk, `_tmpSize`, the offset of the request
with the bytes received since, and the node the output stream writes to. `Faithful` adds
that no second task writes to the same file.
-/

namespace ZFBaseFramework

open ZFFileManagerTool World

/-- What is at the path, if anything, is a file with the first bytes of the content. -/
def HoldsPrefix (files : FileSystem Path) (path : Path) (content : List UInt8) : Prop :=
  ∀ item, files.lookup path = some item → ∃ bytes, item = .file bytes ∧ bytes <+: content

namespace HoldsPrefix

variable {files : FileSystem Path} {path : Path} {content : List UInt8}

theorem congr {after : FileSystem Path} (holds : HoldsPrefix files path content)
    (same : after.lookup path = files.lookup path) : HoldsPrefix after path content := by
  intro item found
  exact holds item (same.symm.trans found)

theorem size_le (holds : HoldsPrefix files path content) :
    fileTotalSize files (some path) ≤ content.length := by
  rw [fileTotalSize]
  cases found : files.lookup path with
  | none => simp
  | some item =>
      rcases holds item found with ⟨bytes, rfl, initial⟩
      simpa using initial.length_le

/-- A full file is the whole content. -/
theorem eq_content (holds : HoldsPrefix files path content)
    (full : fileTotalSize files (some path) = content.length) (occupied : files.Occupied path) :
    files.lookup path = some (.file content) := by
  rcases FileSystem.occupied_iff.mp occupied with ⟨item, found⟩
  rcases holds item found with ⟨bytes, rfl, initial⟩
  simp only [fileTotalSize, found, Option.map_some, Option.getD_some, Item.size_file] at full
  rw [found, initial.eq_of_length full]

/-- A file is created empty where there is none. -/
theorem touch (holds : HoldsPrefix files path content) :
    HoldsPrefix (files.touch path) path content := by
  intro item found
  rw [FileSystem.lookup_touch, if_pos rfl, Option.some.injEq] at found
  cases present : files.lookup path with
  | none =>
      rw [present] at found
      exact ⟨[], found.symm, List.nil_prefix⟩
  | some old =>
      rw [present] at found
      subst found
      exact holds old present

theorem size_append {node : ℕ} {bytes : List UInt8} (holds : HoldsPrefix files path content)
    (linked : files.node path = some node) :
    fileTotalSize (files.append node bytes) (some path) =
      fileTotalSize files (some path) + bytes.length := by
  have present := FileSystem.lookup_eq_of_node linked
  rcases holds _ present with ⟨old, isFile, _⟩
  rw [fileTotalSize, fileTotalSize, FileSystem.lookup_append, if_pos linked, present, isFile]
  simp

/-- The next bytes of the content are appended. -/
theorem append {node : ℕ} {bytes : List UInt8} (holds : HoldsPrefix files path content)
    (linked : files.node path = some node)
    (next : bytes <+: content.drop (fileTotalSize files (some path))) :
    HoldsPrefix (files.append node bytes) path content := by
  intro item found
  rw [FileSystem.lookup_append, if_pos linked, Option.map_eq_some_iff] at found
  rcases found with ⟨old, present, rfl⟩
  rcases holds old present with ⟨oldBytes, rfl, rest, whole⟩
  rcases next with ⟨tail, next⟩
  simp only [fileTotalSize, present, Option.map_some, Option.getD_some, Item.size_file,
    ← whole, List.drop_left] at next
  refine ⟨oldBytes ++ bytes, rfl, tail, ?_⟩
  rw [← whole, ← next, List.append_assoc]

end HoldsPrefix

/-- The resources behind the URLs in use. -/
structure Site (digest : MessageDigest) where
  used : Set NSURL
  content : NSURL → List UInt8
  keys_injOn : used.InjOn (NSURL.key digest)
  names_injOn : used.InjOn NSURL.lastPathComponent
  named : ∀ url ∈ used, url.lastPathComponent ≠ ""
  nonempty : ∀ url ∈ used, 0 < (content url).length
  small : ∀ url ∈ used, (content url).length < 2 ^ 63

namespace Site

variable {digest : MessageDigest} (site : Site digest)

/-- The answer to a request from a given offset. -/
def Answers (record : DataTask) (response : NSHTTPURLResponse) : Prop :=
  if record.offset < (site.content record.originalURL).length then
    response.statusCode = 206 ∧ response.contentRange = some (StatedRange.render
      (.span record.offset ((site.content record.originalURL).length - 1)
        (some (site.content record.originalURL).length)))
  else
    response.statusCode = 416 ∧ response.contentRange = some (StatedRange.render
      (.unsatisfied (site.content record.originalURL).length))

/-- The server and the output stream behave: the answers are right, the body continues where
the request and the bytes so far left off, it is complete when the transfer ends without an
error, and streams open and take every byte. -/
def Serves (world : World) : ManagerAction → Prop
  | .call (.downLoad url _) => url ∈ site.used
  | .deliver (.response task response io) =>
      io.opens = true ∧
        ∀ record, world.tasks task = some record → site.Answers record response
  | .deliver (.data task bytes io) =>
      io.accepts = none ∧ ∀ record, world.tasks task = some record →
        bytes <+: (site.content record.originalURL).drop (record.offset + record.received)
  | .deliver (.complete task none _) =>
      ∀ record, world.tasks task = some record →
        record.offset + record.received = (site.content record.originalURL).length
  | _ => True

/-- The runs of the app against the site. -/
def system : ActionSystem World ManagerAction :=
  (managerSystem digest).restrict site.Serves

/-- The last path components of the URLs in use are names of files. -/
def NamesFiles : Prop :=
  ∀ url ∈ site.used, url.NamesFile

/-- The files of the site's URLs hold nothing but their resources. -/
structure FilesIntact (files : FileSystem Path) : Prop where
  /-- The tmp file is a prefix of the resource. -/
  tmp : ∀ url ∈ site.used, HoldsPrefix files (url.tmpPath digest) (site.content url)
  /-- The cached file is the whole resource. -/
  cache : ∀ url ∈ site.used, ∀ item, files.lookup url.cachePath = some item →
    item = .file (site.content url)

theorem totalSize_answer {record : DataTask} {response : NSHTTPURLResponse}
    (used : record.originalURL ∈ site.used) (answers : site.Answers record response) :
    response.totalSize = (site.content record.originalURL).length := by
  have small := site.small _ used
  rw [Answers] at answers
  split at answers
  · exact NSHTTPURLResponse.totalSize_of_range answers.2 rfl small
  · exact NSHTTPURLResponse.totalSize_of_range answers.2 rfl small

theorem tmpPath_ne {first second : NSURL} (firstUsed : first ∈ site.used)
    (secondUsed : second ∈ site.used) (different : first ≠ second) :
    first.tmpPath digest ≠ second.tmpPath digest := by
  intro same
  rw [NSURL.tmpPath_inj] at same
  exact different (site.keys_injOn firstUsed secondUsed same)

variable {site} in
theorem NamesFiles.cachePath_ne (names : site.NamesFiles) {first second : NSURL}
    (firstUsed : first ∈ site.used) (secondUsed : second ∈ site.used)
    (different : first ≠ second) : first.cachePath ≠ second.cachePath := by
  apply NSURL.cachePath_ne_of_names (names first firstUsed).belowCaches
    (names second secondUsed).belowCaches
  exact fun same => different (site.names_injOn firstUsed secondUsed same)

/-- What a step may do to the files of one URL keeps those of the others intact. -/
theorem FilesIntact.of_confined {before after : FileSystem Path} {url : NSURL}
    (intact : site.FilesIntact before) (names : site.NamesFiles) (used : url ∈ site.used)
    (confined : ∀ path, path ≠ url.tmpPath digest → path ≠ url.cachePath →
      after.lookup path = before.lookup path)
    (tmp : HoldsPrefix after (url.tmpPath digest) (site.content url))
    (cache : ∀ item, after.lookup url.cachePath = some item →
      item = .file (site.content url)) : site.FilesIntact after := by
  constructor
  · intro other otherUsed
    by_cases same : other = url
    · subst same
      exact tmp
    · exact (intact.tmp other otherUsed).congr
        (confined _ (site.tmpPath_ne otherUsed used same) (by simp))
  · intro other otherUsed item found
    by_cases same : other = url
    · subst same
      exact cache item found
    · rw [confined _ (by simp) (names.cachePath_ne otherUsed used same)] at found
      exact intact.cache other otherUsed item found

/-- A full tmp file is the whole resource. -/
theorem FilesIntact.eq_content {files : FileSystem Path} {url : NSURL}
    (intact : site.FilesIntact files) (used : url ∈ site.used)
    (full : fileTotalSize files (some (url.tmpPath digest)) = (site.content url).length) :
    files.lookup (url.tmpPath digest) = some (.file (site.content url)) := by
  apply (intact.tmp url used).eq_content full
  apply FileSystem.occupied_iff.mpr
  cases found : files.lookup (url.tmpPath digest) with
  | none =>
      have positive := site.nonempty url used
      simp [fileTotalSize, found] at full
      omega
  | some item => exact ⟨item, rfl⟩

/-- Moving the full tmp file, whether or not it can be carried out. -/
theorem FilesIntact.move {files : FileSystem Path} {url : NSURL} (intact : site.FilesIntact files)
    (names : site.NamesFiles) (used : url ∈ site.used)
    (full : fileTotalSize files (some (url.tmpPath digest)) = (site.content url).length) :
    site.FilesIntact (moveFile files (some (url.tmpPath digest)) (some url.cachePath)) := by
  have whole := intact.eq_content site used full
  rw [moveFile]
  split
  · apply intact.of_confined site names used
    · intro path notTmp notCache
      rw [FileSystem.lookup_move, if_neg notCache, if_neg notTmp]
    · intro item found
      simp [FileSystem.lookup_move] at found
    · intro item found
      rw [FileSystem.lookup_move, if_pos rfl, whole, Option.some.injEq] at found
      exact found.symm
  · exact intact

/-- After a move that works, the cached file is the whole resource. -/
theorem FilesIntact.cached_after_move {files : FileSystem Path} {url : NSURL}
    (intact : site.FilesIntact files) (used : url ∈ site.used)
    (full : fileTotalSize files (some (url.tmpPath digest)) = (site.content url).length) :
    (moveFile files (some (url.tmpPath digest)) (some url.cachePath)).lookup url.cachePath =
      some (.file (site.content url)) := by
  have whole := intact.eq_content site used full
  rw [moveFile]
  split
  · rw [FileSystem.lookup_move, if_pos rfl, whole]
  · rename_i stuck
    have occupied : files.Occupied url.cachePath := by
      by_contra free
      exact stuck ⟨FileSystem.occupied_iff.mpr ⟨_, whole⟩, free⟩
    rcases FileSystem.occupied_iff.mp occupied with ⟨item, found⟩
    rw [found, intact.cache url used item found]

/-- Opening the tmp file, which is created empty where there is none. -/
theorem FilesIntact.touch {files : FileSystem Path} {url : NSURL} (intact : site.FilesIntact files)
    (names : site.NamesFiles) (used : url ∈ site.used) :
    site.FilesIntact (files.touch (url.tmpPath digest)) := by
  apply intact.of_confined site names used
  · intro path notTmp _
    rw [FileSystem.lookup_touch, if_neg notTmp]
  · exact (intact.tmp url used).touch
  · intro item found
    rw [FileSystem.lookup_touch, if_neg (by simp)] at found
    exact intact.cache url used item found

/-- Appending the next bytes of the resource to the tmp file. -/
theorem FilesIntact.append {files : FileSystem Path} {url : NSURL} {node : ℕ}
    {bytes : List UInt8} (intact : site.FilesIntact files) (names : site.NamesFiles)
    (used : url ∈ site.used) (linked : files.node (url.tmpPath digest) = some node)
    (next : bytes <+: (site.content url).drop
      (fileTotalSize files (some (url.tmpPath digest)))) :
    site.FilesIntact (files.append node bytes) := by
  have others : ∀ path, path ≠ url.tmpPath digest →
      (files.append node bytes).lookup path = files.lookup path := by
    intro path different
    rw [FileSystem.lookup_append, if_neg]
    intro same
    exact different (files.node_inj same linked)
  apply intact.of_confined site names used
  · intro path notTmp _
    exact others path notTmp
  · exact (intact.tmp url used).append linked next
  · intro item found
    rw [others _ (by simp)] at found
    exact intact.cache url used item found

end Site

/-- A running task, its downloader and its tmp file agree on how far the download has come. -/
structure Fetching (digest : MessageDigest) (world : World) (record : DataTask) : Prop where
  cachePath : (world.downLoaders record.delegate).downLoadCachePath =
    some record.originalURL.cachePath
  counted : record.phase = .waiting ∨ record.phase = .allowed →
    (world.downLoaders record.delegate).tmpSize = record.offset + record.received
  onDisk : record.phase = .waiting ∨ record.phase = .allowed →
    fileTotalSize world.files (some (record.originalURL.tmpPath digest)) =
      record.offset + record.received
  stream : record.phase = .allowed → ∃ node,
    (world.downLoaders record.delegate).streamNode = some node ∧
      world.files.node (record.originalURL.tmpPath digest) = some node

/-- The invariant of the runs against a site. -/
structure Intact {digest : MessageDigest} (site : Site digest) (world : World) : Prop where
  named : site.NamesFiles
  owned : Owned world
  faithful : Faithful digest site.used world
  files : site.FilesIntact world.files
  fetching : ∀ {task record}, world.tasks task = some record → record.phase ≠ .ended →
    Fetching digest world record

section Steps

variable {digest : MessageDigest} {site : Site digest} {world after : World} {task : TaskId}
  {record changed : DataTask} {fields : ZFDownLoader}

/-- A task stays as it is when its downloader and its tmp file do. -/
theorem Fetching.of_same (fetching : Fetching digest world record)
    (agree : changed.unflagged = record.unflagged)
    (cachePath : (after.downLoaders record.delegate).downLoadCachePath =
      (world.downLoaders record.delegate).downLoadCachePath)
    (tmpSize : (after.downLoaders record.delegate).tmpSize =
      (world.downLoaders record.delegate).tmpSize)
    (stream : (after.downLoaders record.delegate).streamNode =
      (world.downLoaders record.delegate).streamNode)
    (lookup : after.files.lookup (record.originalURL.tmpPath digest) =
      world.files.lookup (record.originalURL.tmpPath digest))
    (node : after.files.node (record.originalURL.tmpPath digest) =
      world.files.node (record.originalURL.tmpPath digest)) : Fetching digest after changed := by
  constructor
  · rw [DataTask.delegate_eq agree, DataTask.originalURL_eq agree, cachePath]
    exact fetching.cachePath
  · rw [DataTask.delegate_eq agree, DataTask.offset_eq agree, DataTask.received_eq agree,
      DataTask.phase_eq agree, tmpSize]
    exact fetching.counted
  · rw [DataTask.originalURL_eq agree, DataTask.offset_eq agree, DataTask.received_eq agree,
      DataTask.phase_eq agree, fileTotalSize, lookup]
    exact fetching.onDisk
  · rw [DataTask.delegate_eq agree, DataTask.originalURL_eq agree, DataTask.phase_eq agree,
      stream, node]
    exact fetching.stream

/-- Two live tasks have different downloaders and different URLs. -/
theorem Faithful.apart {used : Set NSURL} (faithful : Faithful digest used world)
    {other : TaskId} {otherRecord : DataTask} (found : world.tasks task = some record)
    (live : record.phase ≠ .ended) (otherFound : world.tasks other = some otherRecord)
    (otherLive : otherRecord.phase ≠ .ended) (different : other ≠ task) :
    otherRecord.delegate ≠ record.delegate ∧ otherRecord.originalURL ≠ record.originalURL := by
  rcases faithful.live found live with ⟨_, registered, current, _⟩
  rcases faithful.live otherFound otherLive with ⟨_, otherRegistered, otherCurrent, _⟩
  have delegates : otherRecord.delegate ≠ record.delegate := by
    intro same
    rw [same, current, Option.some.injEq] at otherCurrent
    exact different otherCurrent.symm
  refine ⟨delegates, ?_⟩
  intro same
  rw [same, registered, Option.some.injEq] at otherRegistered
  exact delegates otherRegistered.symm

namespace Intact

/-- The response of a well-behaved server causes no restart. -/
theorem restartless (intact : Intact site world) {action : ManagerAction}
    (admitted : (managerSystem digest).Admits world action) (serves : site.Serves world action) :
    Restartless world action := by
  cases action with
  | call call => trivial
  | kill => trivial
  | deliver event =>
      cases event with
      | data task bytes io => trivial
      | complete task error io => trivial
      | response task response io =>
          have deliverable : world.Deliverable (.response task response io) := admitted
          rcases exists_of_response deliverable with ⟨record, found, waiting⟩
          have live : record.phase ≠ .ended := by simp [waiting]
          have used := (intact.faithful.live found live).1
          have fetching := intact.fetching found live
          rw [Restartless, delegateOf_eq found, fetching.counted (Or.inl waiting),
            ← fetching.onDisk (Or.inl waiting),
            site.totalSize_answer used (serves.2 record found), Nat.cast_le]
          exact (intact.files.tmp _ used).size_le

/-- What is left to show of a step that touches the files of one live task only. -/
theorem fetching_of_touches (intact : Intact site world) (found : world.tasks task = some record)
    (live : record.phase ≠ .ended)
    (touches : world.Touches after record.delegate fields task changed)
    (confined : ∀ path, path ≠ record.originalURL.tmpPath digest →
      path ≠ record.originalURL.cachePath →
      after.files.lookup path = world.files.lookup path ∧
        after.files.node path = world.files.node path)
    (fetching : changed.phase ≠ .ended → Fetching digest after changed)
    {other : TaskId} {otherRecord : DataTask} (otherFound : after.tasks other = some otherRecord)
    (otherLive : otherRecord.phase ≠ .ended) : Fetching digest after otherRecord := by
  by_cases same : other = task
  · subst same
    rw [touches.tasks, Function.update_self, Option.some.injEq] at otherFound
    subst otherFound
    exact fetching otherLive
  · rw [touches.tasks, Function.update_of_ne same] at otherFound
    rcases intact.faithful.apart found live otherFound otherLive same with ⟨delegates, urls⟩
    have paths := site.tmpPath_ne (intact.faithful.live otherFound otherLive).1
      (intact.faithful.live found live).1 urls
    have unchanged := confined _ paths (by simp)
    apply (intact.fetching otherFound otherLive).of_same rfl
    · rw [touches.downLoaders, Function.update_of_ne delegates]
    · rw [touches.downLoaders, Function.update_of_ne delegates]
    · rw [touches.downLoaders, Function.update_of_ne delegates]
    · exact unchanged.1
    · exact unchanged.2

/-- A response either opens the tmp file or finds it full. -/
theorem response (intact : Intact site world) {response : NSHTTPURLResponse} {io : LocalIO}
    (deliverable : world.Deliverable (.response task response io)) (opens : io.opens = true)
    (answers : ∀ record, world.tasks task = some record → site.Answers record response)
    (restartless : Restartless world (.deliver (.response task response io))) :
    Intact site (world.deliver (.response task response io)) := by
  rcases exists_of_response deliverable with ⟨record, found, waiting⟩
  have live : record.phase ≠ .ended := by simp [waiting]
  have fetching := intact.fetching found live
  rcases intact.faithful.live found live with ⟨used, _, _, tmpPath⟩
  have owned := intact.owned.response deliverable
  have faithful := intact.faithful.deliver intact.owned deliverable restartless
  have enough : ((world.downLoaders record.delegate).tmpSize : ℤ) ≤ response.totalSize := by
    simpa [Restartless, delegateOf_eq found] using restartless
  rcases lt_or_eq_of_le enough with short | full
  · have touches := touches_opened io found short
    have opened : (world.deliver (.response task response io)).files =
        world.files.touch (record.originalURL.tmpPath digest) := by
      rw [files_opened io found short, tmpPath]
      simp [NSOutputStream.openAppending, opens]
    have files := intact.files.touch site intact.named used
    rw [← opened] at files
    refine ⟨intact.named, owned, faithful, files,
      intact.fetching_of_touches found live touches ?_ fun _ => ?_⟩
    · intro path notTmp _
      rw [opened, FileSystem.lookup_touch, if_neg notTmp]
      exact ⟨rfl, FileSystem.node_touch_of_ne notTmp⟩
    · constructor
      · rw [touches.downLoaders, Function.update_self]
        exact fetching.cachePath
      · intro _
        rw [touches.downLoaders, Function.update_self]
        exact fetching.counted (Or.inl waiting)
      · intro _
        have onDisk := fetching.onDisk (Or.inl waiting)
        rw [← onDisk, opened, fileTotalSize, fileTotalSize, FileSystem.lookup_touch, if_pos rfl]
        cases world.files.lookup (record.originalURL.tmpPath digest) <;> rfl
      · intro _
        have present : (world.deliver (.response task response io)).files.lookup
            (record.originalURL.tmpPath digest) =
              some ((world.files.lookup (record.originalURL.tmpPath digest)).getD (.file [])) := by
          rw [opened, FileSystem.lookup_touch, if_pos rfl]
        rcases files.tmp _ used _ present with ⟨bytes, isFile, _⟩
        rcases FileSystem.node_of_lookup present with ⟨node, linked, held⟩
        refine ⟨node, ?_, linked⟩
        rw [touches.downLoaders, Function.update_self, ZFDownLoader.streamNode, tmpPath]
        simp only [NSOutputStream.openAppending, opens, if_true, Option.bind_some]
        rw [FileSystem.writable_eq_some_iff, ← opened, held, isFile]
        exact ⟨linked, trivial⟩
  · have touches := touches_finished io found full
    have size : fileTotalSize world.files (some (record.originalURL.tmpPath digest)) =
        (site.content record.originalURL).length := by
      rw [fetching.onDisk (Or.inl waiting), ← fetching.counted (Or.inl waiting)]
      rw [site.totalSize_answer used (answers record found)] at full
      exact_mod_cast full
    have moved := files_finished io found full
    rw [tmpPath, fetching.cachePath] at moved
    refine ⟨intact.named, owned, faithful, ?_,
      intact.fetching_of_touches found live touches ?_ fun _ => ?_⟩
    · rw [moved]
      split
      · exact intact.files.move site intact.named used size
      · exact intact.files
    · intro path notTmp notCache
      rw [moved]
      split
      · exact moveFile_confined notTmp notCache
      · exact ⟨rfl, rfl⟩
    · refine ⟨?_, by simp, by simp, by simp⟩
      rw [touches.downLoaders, Function.update_self]
      exact fetching.cachePath

/-- The bytes of a body are appended where the tmp file ends. -/
theorem data (intact : Intact site world) {bytes : List UInt8} {io : LocalIO}
    (deliverable : world.Deliverable (.data task bytes io)) (accepts : io.accepts = none)
    (next : ∀ record, world.tasks task = some record →
      bytes <+: (site.content record.originalURL).drop (record.offset + record.received)) :
    Intact site (world.deliver (.data task bytes io)) := by
  rcases exists_of_data deliverable with ⟨record, found, allowed⟩
  have live : record.phase ≠ .ended := by simp [allowed]
  have fetching := intact.fetching found live
  have used := (intact.faithful.live found live).1
  have touches := touches_data bytes io found
  have onDisk := fetching.onDisk (Or.inr allowed)
  rcases fetching.stream allowed with ⟨node, stream, linked⟩
  have written : (world.deliver (.data task bytes io)).files = world.files.append node bytes := by
    rw [files_data bytes io found, stream]
    simp [accepts, LocalIO.taken]
  refine ⟨intact.named, intact.owned.data deliverable,
    intact.faithful.deliver intact.owned deliverable trivial, ?_,
    intact.fetching_of_touches found live touches ?_ fun _ => ?_⟩
  · rw [written]
    apply intact.files.append site intact.named used linked
    rw [onDisk]
    exact next record found
  · intro path notTmp _
    rw [written, FileSystem.lookup_append, if_neg, FileSystem.node_append]
    · exact ⟨rfl, rfl⟩
    · intro same
      exact notTmp (world.files.node_inj same linked)
  · constructor
    · rw [touches.downLoaders, Function.update_self]
      exact fetching.cachePath
    · intro _
      rw [touches.downLoaders, Function.update_self]
      simp only [fetching.counted (Or.inr allowed), Nat.add_assoc]
    · intro _
      rw [written, (intact.files.tmp _ used).size_append linked, onDisk, Nat.add_assoc]
    · intro _
      refine ⟨node, ?_, ?_⟩
      · rw [touches.downLoaders, Function.update_self]
        exact stream
      · rw [written, FileSystem.node_append]
        exact linked

/-- The end of a transfer, after its whole body or with an error. -/
theorem complete (intact : Intact site world) {error : Option NSError} {io : LocalIO}
    (deliverable : world.Deliverable (.complete task error io))
    (whole : error = none → ∀ record, world.tasks task = some record →
      record.offset + record.received = (site.content record.originalURL).length) :
    Intact site (world.deliver (.complete task error io)) := by
  rcases exists_of_complete deliverable with ⟨record, found, live, allowed⟩
  have fetching := intact.fetching found live
  rcases intact.faithful.live found live with ⟨used, _, _, tmpPath⟩
  have touches := touches_complete error io found
  have files : site.FilesIntact (world.deliver (.complete task error io)).files ∧
      ∀ path, path ≠ record.originalURL.tmpPath digest → path ≠ record.originalURL.cachePath →
        (world.deliver (.complete task error io)).files.lookup path = world.files.lookup path ∧
          (world.deliver (.complete task error io)).files.node path = world.files.node path := by
    cases error with
    | none =>
        have size : fileTotalSize world.files (some (record.originalURL.tmpPath digest)) =
            (site.content record.originalURL).length := by
          rw [fetching.onDisk (Or.inr (allowed rfl))]
          exact whole rfl record found
        rw [files_complete_finished io found, tmpPath, fetching.cachePath]
        split
        · exact ⟨intact.files.move site intact.named used size, fun path => moveFile_confined⟩
        · exact ⟨intact.files, fun _ _ _ => ⟨rfl, rfl⟩⟩
    | some failure =>
        rw [files_complete_failed io found]
        exact ⟨intact.files, fun _ _ _ => ⟨rfl, rfl⟩⟩
  exact ⟨intact.named, intact.owned.complete deliverable,
    intact.faithful.deliver intact.owned deliverable trivial, files.1,
    intact.fetching_of_touches found live touches files.2 fun unfinished => absurd rfl unfinished⟩

theorem of_sameTransfers (intact : Intact site world) (owned : Owned after)
    (same : SameTransfers world after) : Intact site after := by
  refine ⟨intact.named, owned, intact.faithful.of_sameTransfers same, same.files ▸ intact.files,
    ?_⟩
  intro task record found live
  rcases DataTask.exists_of_unflagged (same.tasks task) found with ⟨before, foundBefore, agree⟩
  rcases same.downLoaders before.delegate with ⟨state, session, fields⟩
  apply (intact.fetching foundBefore (DataTask.phase_eq agree ▸ live)).of_same agree.symm
  · rw [fields]
  · rw [fields]
  · rw [fields]
    rfl
  · rw [same.files]
  · rw [same.files]

theorem switch (intact : Intact site world) (loader : DownLoaderId)
    {source target : ZFDownLoaderState} {suspended : Bool}
    (between : source = .downing ∧ target = .pause ∧ suspended = true ∨
      source = .pause ∧ target = .downing ∧ suspended = false) :
    Intact site (world.switch loader source target suspended) :=
  intact.of_sameTransfers (intact.owned.switch loader between)
    (sameTransfers_switch world loader source target suspended)

theorem cancel (intact : Intact site world) (loader : DownLoaderId) :
    Intact site (world.cancel loader) :=
  intact.of_sameTransfers (intact.owned.cancel loader) (sameTransfers_cancel world loader)

theorem begin (intact : Intact site world) {url : NSURL} {blocks : ClientBlocks}
    (used : url ∈ site.used) (unregistered : world.registered digest url = none) :
    Intact site (world.begin digest url blocks) := by
  have owned : Owned (world.begin digest url blocks) := intact.owned.begin unregistered
  by_cases occupied : world.files.Occupied url.cachePath
  · have begins := begin_cached blocks unregistered occupied
    refine ⟨intact.named, owned, intact.faithful.beginsCached intact.owned begins,
      begins.files ▸ intact.files, ?_⟩
    intro task record found live
    rw [begins.tasks] at found
    have same : (world.begin digest url blocks).downLoaders record.delegate =
        world.downLoaders record.delegate := by
      rw [begins.downLoaders, Function.update_of_ne (intact.owned.used found).2.ne]
    apply (intact.fetching found live).of_same rfl
    · rw [same]
    · rw [same]
    · rw [same]
    · rw [begins.files]
    · rw [begins.files]
  · have begins := begin_task digest blocks occupied
    refine ⟨intact.named, owned,
      intact.faithful.beginsTask intact.owned used unregistered begins,
      begins.files ▸ intact.files, ?_⟩
    intro task record found live
    by_cases fresh : task = world.taskCount
    · subst fresh
      rw [begins.tasks, Function.update_self, Option.some.injEq] at found
      subst found
      have mine : (world.begin digest url blocks).downLoaders world.downLoaderCount =
          begunFields digest world url blocks := by
        rw [begins.downLoaders, Function.update_self]
      constructor
      · rw [begunTask_delegate, mine]
        rfl
      · intro _
        rw [begunTask_delegate, mine]
        rfl
      · intro _
        rw [begins.files]
        rfl
      · exact nofun
    · rw [begins.tasks, Function.update_of_ne fresh] at found
      rcases DataTask.exists_of_unflagged (unflagged_cancel task) found with
        ⟨before, foundBefore, agree⟩
      have same : (world.begin digest url blocks).downLoaders before.delegate =
          world.downLoaders before.delegate := by
        rw [begins.downLoaders, Function.update_of_ne (intact.owned.used foundBefore).2.ne]
      apply (intact.fetching foundBefore (DataTask.phase_eq agree ▸ live)).of_same agree.symm
      · rw [same]
      · rw [same]
      · rw [same]
      · rw [begins.files]
      · rw [begins.files]

theorem kill (intact : Intact site world) : Intact site world.kill := by
  refine ⟨intact.named, intact.owned.kill, Faithful.kill digest site.used world, intact.files, ?_⟩
  intro task record found live
  simp only [World.kill, Option.map_eq_some_iff] at found
  rcases found with ⟨before, _, rfl⟩
  exact absurd rfl live

end Intact

theorem intact_preserved (site : Site digest) : site.system.Preserves (Intact site) := by
  rintro world action intact ⟨admitted, serves⟩
  have restartless := intact.restartless admitted serves
  cases action with
  | call call =>
      apply call_induction (motive := Intact site) intact
      · intro middle loader intact
        exact intact.switch loader (Or.inl ⟨rfl, rfl, rfl⟩)
      · intro middle loader intact
        exact intact.switch loader (Or.inr ⟨rfl, rfl, rfl⟩)
      · intro middle loader intact
        exact intact.cancel loader
      · rintro url blocks rfl unregistered
        exact intact.begin serves unregistered
  | deliver event =>
      cases event with
      | response task response io => exact intact.response admitted serves.1 serves.2 restartless
      | data task bytes io => exact intact.data admitted serves.1 serves.2
      | complete task error io =>
          apply intact.complete admitted
          rintro rfl
          exact serves
  | kill => exact intact.kill

theorem filesIntact_emptyContainer {site : Site digest} (names : site.NamesFiles) :
    site.FilesIntact emptyContainer := by
  constructor
  · intro url _ item found
    rw [lookup_tmpPath_emptyContainer] at found
    cases found
  · intro url used item found
    rw [lookup_cachePath_emptyContainer (names url used)] at found
    cases found

theorem intact_launch {site : Site digest} (names : site.NamesFiles) :
    Intact site (launch emptyContainer) where
  named := names
  owned := owned_launch emptyContainer
  faithful := faithful_launch digest site.used emptyContainer
  files := filesIntact_emptyContainer names
  fetching := nofun

/-- The move of the step, if it makes one, works. -/
def Moves : ManagerAction → Prop
  | .deliver event => event.io.moves = true
  | _ => True

/-- The announcement of Success by a downloader. -/
def IsSuccess (loader : DownLoaderId) (effect : Effect) : Prop :=
  ∃ block, effect = .state loader block .success

/-- The file that a downloader hands out is the whole resource of a URL. -/
def HandsOut (site : Site digest) (world : World) (loader : DownLoaderId) : Prop :=
  ∃ url ∈ site.used, (world.downLoaders loader).downLoadCachePath = some url.cachePath ∧
    world.files.lookup url.cachePath = some (.file (site.content url))

namespace Intact

theorem handsOut_begin (intact : Intact site world) {url : NSURL} {blocks : ClientBlocks}
    (used : url ∈ site.used) (unregistered : world.registered digest url = none)
    {loader : DownLoaderId} {effect : Effect} (success : IsSuccess loader effect)
    (emitted : world.Emits (world.begin digest url blocks) effect) :
    HandsOut site (world.begin digest url blocks) loader := by
  rcases success with ⟨block, rfl⟩
  by_cases occupied : world.files.Occupied url.cachePath
  · have begins := begin_cached blocks unregistered occupied
    rw [emits_iff begins.log] at emitted
    obtain rfl : loader = world.downLoaderCount := by
      simp at emitted
      exact emitted.1
    refine ⟨url, used, ?_, ?_⟩
    · rw [begins.downLoaders, Function.update_self]
      rfl
    · rcases FileSystem.occupied_iff.mp occupied with ⟨item, found⟩
      rw [begins.files, found, intact.files.cache url used item found]
  · have begins := begin_task digest blocks occupied
    rw [emits_iff begins.log] at emitted
    simp at emitted

theorem handsOut_call (intact : Intact site world) {call : ManagerCall}
    (serves : site.Serves world (.call call)) {loader : DownLoaderId} {effect : Effect}
    (success : IsSuccess loader effect) (emitted : world.Emits (world.call digest call) effect) :
    HandsOut site (world.call digest call) loader := by
  by_cases begins : ∃ url blocks, call = .downLoad url blocks ∧
    world.registered digest url = none
  · rcases begins with ⟨url, blocks, rfl, unregistered⟩
    rw [World.call, managerDownLoadWithURL_unregistered unregistered] at emitted ⊢
    exact intact.handsOut_begin serves unregistered success emitted
  · have without : Without (IsSuccess loader) world (world.call digest call) := by
      apply call_without
      · rintro other block ⟨_, same⟩
        cases same
      · rintro other block ⟨_, same⟩
        cases same
      · intro url blocks same unregistered
        exact absurd ⟨url, blocks, same, unregistered⟩ begins
    exact absurd success (without.not_of_emits emitted)

theorem handsOut_response (intact : Intact site world) {response : NSHTTPURLResponse}
    {io : LocalIO} (deliverable : world.Deliverable (.response task response io))
    (answers : ∀ record, world.tasks task = some record → site.Answers record response)
    (restartless : Restartless world (.deliver (.response task response io)))
    (moves : io.moves = true) {loader : DownLoaderId} {effect : Effect}
    (success : IsSuccess loader effect)
    (emitted : world.Emits (world.deliver (.response task response io)) effect) :
    HandsOut site (world.deliver (.response task response io)) loader := by
  rcases success with ⟨block, rfl⟩
  rcases exists_of_response deliverable with ⟨record, found, waiting⟩
  have live : record.phase ≠ .ended := by simp [waiting]
  have fetching := intact.fetching found live
  rcases intact.faithful.live found live with ⟨used, _, _, tmpPath⟩
  have enough : ((world.downLoaders record.delegate).tmpSize : ℤ) ≤ response.totalSize := by
    simpa [Restartless, delegateOf_eq found] using restartless
  rcases lt_or_eq_of_le enough with short | full
  · rw [emits_iff (log_opened io found short)] at emitted
    simp at emitted
  · rw [emits_iff (log_finished io found full), placement] at emitted
    obtain rfl : loader = record.delegate := by
      split at emitted <;> simp at emitted <;> exact emitted.1
    refine ⟨record.originalURL, used, ?_, ?_⟩
    · rw [(touches_finished io found full).downLoaders, Function.update_self]
      exact fetching.cachePath
    · rw [files_finished io found full, tmpPath, fetching.cachePath, if_pos moves]
      apply intact.files.cached_after_move site used
      rw [fetching.onDisk (Or.inl waiting), ← fetching.counted (Or.inl waiting)]
      rw [site.totalSize_answer used (answers record found)] at full
      exact_mod_cast full

theorem handsOut_complete (intact : Intact site world) {error : Option NSError} {io : LocalIO}
    (deliverable : world.Deliverable (.complete task error io))
    (whole : error = none → ∀ record, world.tasks task = some record →
      record.offset + record.received = (site.content record.originalURL).length)
    (moves : io.moves = true) {loader : DownLoaderId} {effect : Effect}
    (success : IsSuccess loader effect)
    (emitted : world.Emits (world.deliver (.complete task error io)) effect) :
    HandsOut site (world.deliver (.complete task error io)) loader := by
  rcases success with ⟨block, rfl⟩
  rcases exists_of_complete deliverable with ⟨record, found, live, allowed⟩
  have fetching := intact.fetching found live
  rcases intact.faithful.live found live with ⟨used, _, _, tmpPath⟩
  cases error with
  | none =>
      rw [emits_iff (log_complete_finished io found), placement] at emitted
      obtain rfl : loader = record.delegate := by
        split at emitted <;> simp at emitted <;> exact emitted.1
      refine ⟨record.originalURL, used, ?_, ?_⟩
      · rw [(touches_complete none io found).downLoaders, Function.update_self]
        exact fetching.cachePath
      · rw [files_complete_finished io found, tmpPath, fetching.cachePath, if_pos moves]
        apply intact.files.cached_after_move site used
        rw [fetching.onDisk (Or.inr (allowed rfl))]
        exact whole rfl record found
  | some failure =>
      rw [emits_iff (log_complete_failed io found failure)] at emitted
      simp at emitted

theorem handsOut (intact : Intact site world) {action : ManagerAction}
    (admitted : site.system.Admits world action) (moves : Moves action)
    {loader : DownLoaderId} {effect : Effect} (success : IsSuccess loader effect)
    (emitted : world.Emits (site.system.perform world action) effect) :
    HandsOut site (site.system.perform world action) loader := by
  have restartless := intact.restartless admitted.1 admitted.2
  cases action with
  | call call => exact intact.handsOut_call admitted.2 success emitted
  | deliver event =>
      cases event with
      | response task response io =>
          exact intact.handsOut_response admitted.1 admitted.2.2 restartless moves success emitted
      | data task bytes io =>
          have deliverable : world.Deliverable (.data task bytes io) := admitted.1
          rcases exists_of_data deliverable with ⟨record, found, _⟩
          rcases success with ⟨block, rfl⟩
          have logged := (emits_iff (log_data bytes io found)).mp emitted
          split at logged <;> simp at logged
      | complete task error io =>
          apply intact.handsOut_complete admitted.1 _ moves success emitted
          rintro rfl
          exact admitted.2
  | kill =>
      rcases emitted with ⟨fresh, logged, present⟩
      rw [show (site.system.perform world .kill).log = world.log from rfl,
        List.self_eq_append_left] at logged
      rw [logged] at present
      cases present

end Intact

/-- The files of every URL in use hold nothing but their resources, a running download counts
what is on disk, and what is handed out with Success is the whole resource. -/
structure ResumeIntegrity (site : Site digest) (world : World) : Prop where
  files : site.FilesIntact world.files
  counted : ∀ {task record}, world.tasks task = some record →
    record.phase = .waiting ∨ record.phase = .allowed →
    (world.downLoaders record.delegate).tmpSize =
      fileTotalSize world.files (some (record.originalURL.tmpPath digest))
  success : ∀ action, site.system.Admits world action → Moves action →
    ∀ loader effect, IsSuccess loader effect →
      world.Emits (site.system.perform world action) effect →
      HandsOut site (site.system.perform world action) loader

/-- Over URLs that name files, resume integrity holds in every state of every run against a
well-behaved server. -/
theorem run_resumeIntegrity {site : Site digest} (names : site.NamesFiles)
    (reachable : site.system.Reachable (launch emptyContainer) world) :
    ResumeIntegrity site world := by
  have intact := (intact_preserved site).reachable (intact_launch names) reachable
  refine ⟨intact.files, ?_, ?_⟩
  · intro task record found running
    have fetching := intact.fetching found (by rcases running with phase | phase <;> simp [phase])
    rw [fetching.counted running, fetching.onDisk running]
  · intro action admitted moves loader effect success emitted
    exact intact.handsOut admitted moves success emitted

end Steps

/-- The example's site with its one resource of five bytes. -/
def exampleSite : Site exampleDigest where
  used := {exampleURL}
  content _ := [1, 2, 3, 4, 5]
  keys_injOn := Set.injOn_singleton _ _
  names_injOn := Set.injOn_singleton _ _
  named := by
    rintro url rfl
    decide
  nonempty _ _ := by decide
  small _ _ := by decide

/-- Killed with two bytes on disk, and resumed from there. -/
def interrupted : List ManagerAction :=
  [.call (.downLoad exampleURL exampleBlocks),
   .deliver (.response 0
     ((StatedReply.mk 206 none (some (.span 0 4 (some 5)))).render exampleURL) .healthy),
   .deliver (.data 0 [1, 2] .healthy),
   .kill,
   .call (.downLoad exampleURL exampleBlocks),
   .deliver (.response 1
     ((StatedReply.mk 206 none (some (.span 2 4 (some 5)))).render exampleURL) .healthy)]

theorem namesFiles_exampleSite : exampleSite.NamesFiles := by
  rintro url rfl
  exact ⟨by decide, by decide, by decide, by decide⟩

theorem run_resumeIntegrity_interrupted : ResumeIntegrity exampleSite
    ((managerSystem exampleDigest).exec (launch emptyContainer) interrupted) := by
  refine run_resumeIntegrity namesFiles_exampleSite ⟨interrupted, ?_, rfl⟩
  refine ⟨⟨trivial, rfl⟩, ⟨by decide, rfl, ?_⟩, ⟨by decide, rfl, ?_⟩, ⟨trivial, trivial⟩,
    ⟨trivial, rfl⟩, ⟨by decide, rfl, ?_⟩, trivial⟩
  · rintro record ⟨⟩
    exact ⟨rfl, rfl⟩
  · rintro record ⟨⟩
    exact ⟨[3, 4, 5], rfl⟩
  · rintro record ⟨⟩
    exact ⟨rfl, rfl⟩

/-- A site with one resource, at the root of its host. -/
def rootSite : Site rootDigest where
  used := {rootURL}
  content _ := [1, 2, 3, 4, 5]
  keys_injOn := Set.injOn_singleton _ _
  names_injOn := Set.injOn_singleton _ _
  named := by
    rintro url rfl
    decide
  nonempty _ _ := by decide
  small _ _ := by decide

/-- The first call of a fresh app hands out `Caches` itself with Success. -/
theorem root_not_resumeIntegrity :
    let download : ManagerAction := .call (.downLoad rootURL exampleBlocks)
    rootSite.system.Admits (launch emptyContainer) download ∧
      (launch emptyContainer).Emits
        (rootSite.system.perform (launch emptyContainer) download) (.state 0 (some 1) .success) ∧
      ¬ResumeIntegrity rootSite (launch emptyContainer) := by
  intro download
  have admitted : rootSite.system.Admits (launch emptyContainer) download := ⟨trivial, rfl⟩
  have announced : (launch emptyContainer).Emits
      (rootSite.system.perform (launch emptyContainer) download) (.state 0 (some 1) .success) :=
    ⟨_, (List.append_nil _).symm, by decide⟩
  refine ⟨admitted, announced, ?_⟩
  intro integrity
  rcases integrity.success download admitted trivial 0 _ ⟨_, rfl⟩ announced with
    ⟨url, used, _, found⟩
  cases Set.mem_singleton_iff.mp used
  have directory : (rootSite.system.perform (launch emptyContainer) download).files.lookup
      rootURL.cachePath = some (.directory 64) := by
    decide
  cases directory.symm.trans found

end ZFBaseFramework
