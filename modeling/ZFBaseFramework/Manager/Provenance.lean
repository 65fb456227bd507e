import ZFBaseFramework.Manager.Calls

/-!
# Where a handed out file comes from

Finished files are kept in `Caches` under the last path component of their URL, where
other parts of the app keep files as well. An `AppState` adds to the world the URL
whose download put an item at a path. `run_provenance` shows that downloads hand out
nothing but their own files as long as last path components tell URLs apart and
nothing else comes to the paths they name.
-/

namespace ZFBaseFramework

open ZFFileManagerTool World

/-- The URL a downloader was called with. -/
def downLoadURL (log : List Effect) (loader : DownLoaderId) : Option NSURL :=
  log.findSome? fun
    | .called other url => if other = loader then some url else none
    | _ => none

/-- The downloader that moved its tmp file to a path. -/
def placerOf (effects : List Effect) (path : Path) : Option DownLoaderId :=
  effects.findSome? fun
    | .placed loader (some target) => if target = path then some loader else none
    | _ => none

/-- What the log of the second world has in addition. -/
def freshEffects (before after : World) : List Effect :=
  after.log.take (after.log.length - before.log.length)

/-- The app, and for each path the URL whose download put the item there. -/
structure AppState where
  world : World
  origin : Path → Option NSURL

namespace AppState

/-- The app right after a launch; no item is known to come from a download. -/
def launch (files : FileSystem Path) : AppState := ⟨World.launch files, fun _ => none⟩

/-- A step of the manager, with the origin of the file it moves. A download has completed, and moves
its tmp file, when a transfer ends without an error, but also when the response states the size the
tmp file has and its body is refused. -/
def advance (state : AppState) (after : World) : AppState where
  world := after
  origin path :=
    match placerOf (freshEffects state.world after) path with
    | some loader => downLoadURL after.log loader
    | none => state.origin path

/-- Another part of the app puts an item at a path. -/
def keep (state : AppState) (path : Path) (item : Item) : AppState where
  world := state.world.withFiles (state.world.files.put path item)
  origin := Function.update state.origin path none

end AppState

/-- What can happen in the app: a step of the manager, or another part of the app, such as
`openDB:`, puts an item into `Caches`. -/
inductive AppAction where
  | manager (action : ManagerAction)
  | keep (path : Path) (item : Item)

/-- The runs of the app with its other parts. -/
def appSystem (digest : MessageDigest) : ActionSystem AppState AppAction where
  Admits state
    | .manager action => (managerSystem digest).Admits state.world action
    | .keep path _ => path.directory = .caches
  perform state
    | .manager action => state.advance ((managerSystem digest).perform state.world action)
    | .keep path item => state.keep path item

instance (digest : MessageDigest) (state : AppState) :
    ∀ action, Decidable ((appSystem digest).Admits state action)
  | .manager action =>
      inferInstanceAs (Decidable ((managerSystem digest).Admits state.world action))
  | .keep path _ => inferInstanceAs (Decidable (path.directory = .caches))

/-- Whatever was handed out as finished is a regular file from a download of the same URL. -/
def Provenance (state : AppState) : Prop :=
  ∀ loader block path, Effect.success loader block path ∈ state.world.log →
    ∃ url place bytes, downLoadURL state.world.log loader = some url ∧ path = some place ∧
      state.world.files.lookup place = some (.file bytes) ∧ state.origin place = some url

/-- The last path components lead below `Caches` and tell the URLs apart. -/
structure Distinct (used : Set NSURL) : Prop where
  below : ∀ url ∈ used, url.BelowCaches
  injective : used.InjOn NSURL.lastPathComponent

/-- The paths of the URLs before a run: free in `Caches`, and no directory in `tmp`. -/
structure Untaken (digest : MessageDigest) (used : Set NSURL) (files : FileSystem Path) : Prop where
  cache : ∀ url ∈ used, ¬files.Occupied url.cachePath
  tmp : ∀ url ∈ used, ∀ item, files.lookup (url.tmpPath digest) = some item → item.IsFile

/-- Only these URLs are downloaded, a transfer that ends without an error leaves a file to
move or one at the cache path already, and other parts of the app keep off these paths. -/
def Separated (used : Set NSURL) (state : AppState) : AppAction → Prop
  | .manager (.call (.downLoad url _)) => url ∈ used
  | .manager (.deliver (.complete task none io)) =>
      let fields := state.world.downLoaders (state.world.delegateOf task)
      isFileExists state.world.files fields.downLoadCachePath = true ∨
        io.moves = true ∧ isFileExists state.world.files fields.downLoadTmpPath = true
  | .keep path _ => ∀ url ∈ used, path ≠ url.cachePath
  | _ => True

/-- The files of the URLs in use, against the origins of the cached ones. -/
structure Filed (digest : MessageDigest) (used : Set NSURL) (files : FileSystem Path)
    (origin : Path → Option NSURL) : Prop where
  tmp : ∀ url ∈ used, ∀ item, files.lookup (url.tmpPath digest) = some item → item.IsFile
  cache : ∀ url ∈ used, ∀ item, files.lookup url.cachePath = some item →
    item.IsFile ∧ origin url.cachePath = some url

/-- The paths of live tasks are those of the URL their downloader was called with, and what
was handed out is there. -/
structure Traced (digest : MessageDigest) (used : Set NSURL) (state : AppState) : Prop where
  filed : Filed digest used state.world.files state.origin
  called : ∀ {loader url}, downLoadURL state.world.log loader = some url →
    loader < state.world.downLoaderCount ∧ url ∈ used
  paths : ∀ {task record}, state.world.tasks task = some record → record.phase ≠ .ended →
    ∃ url, downLoadURL state.world.log record.delegate = some url ∧
      (state.world.downLoaders record.delegate).downLoadCachePath = some url.cachePath ∧
      (state.world.downLoaders record.delegate).downLoadTmpPath = some (url.tmpPath digest)
  success : ∀ {loader block path}, .success loader block path ∈ state.world.log →
    ∃ url, downLoadURL state.world.log loader = some url ∧ path = some url.cachePath ∧
      state.world.files.Occupied url.cachePath

/-- Everything was handed out by its own download. -/
theorem Traced.provenance {digest : MessageDigest} {used : Set NSURL} {state : AppState}
    (traced : Traced digest used state) : Provenance state := by
  intro loader block path present
  rcases traced.success present with ⟨url, called, rfl, occupied⟩
  rcases FileSystem.occupied_iff.mp occupied with ⟨item, found⟩
  rcases traced.filed.cache url (traced.called called).2 item found with ⟨isFile, origin⟩
  cases item with
  | file bytes => exact ⟨url, url.cachePath, bytes, called, rfl, found, origin⟩
  | directory size => exact absurd isFile id

theorem freshEffects_eq {before after : World} {fresh : List Effect}
    (logged : after.log = fresh ++ before.log) : freshEffects before after = fresh := by
  rw [freshEffects, logged, List.length_append, Nat.add_sub_cancel, List.take_left]

theorem downLoadURL_append {fresh log : List Effect} {loader : DownLoaderId}
    (uncalled : ∀ url, Effect.called loader url ∉ fresh) :
    downLoadURL (fresh ++ log) loader = downLoadURL log loader := by
  have none : downLoadURL fresh loader = none := by
    rw [downLoadURL, List.findSome?_eq_none_iff]
    intro effect present
    cases effect with
    | called other url =>
        have different : other ≠ loader := by
          rintro rfl
          exact uncalled url present
        simp [different]
    | _ => rfl
  rw [downLoadURL, List.findSome?_append, ← downLoadURL, none, Option.none_or, ← downLoadURL]

/-- The effects that tell where an item comes from and which of them are handed out. -/
def Tells : Effect → Prop
  | .called _ _ => True
  | .success _ _ _ => True
  | .placed _ _ => True
  | _ => False

/-- A file was moved to its cache path. -/
def IsPlacement (effect : Effect) : Prop :=
  ∃ loader path, effect = .placed loader path

theorem placerOf_eq_none {effects : List Effect} (path : Path)
    (unplaced : ∀ loader target, Effect.placed loader target ∉ effects) :
    placerOf effects path = none := by
  rw [placerOf, List.findSome?_eq_none_iff]
  intro effect present
  cases effect with
  | placed loader target => exact absurd present (unplaced loader target)
  | _ => rfl

theorem downLoadURL_of_without {before after : World} (without : Without Tells before after)
    (loader : DownLoaderId) :
    downLoadURL after.log loader = downLoadURL before.log loader := by
  rcases without with ⟨fresh, logged, quiet⟩
  rw [logged]
  exact downLoadURL_append fun url present => quiet _ present trivial

theorem success_of_without {before after : World} (without : Without Tells before after)
    {loader : DownLoaderId} {block : Option CompletionBlock} {path : Option Path}
    (present : Effect.success loader block path ∈ after.log) :
    Effect.success loader block path ∈ before.log := by
  rcases without with ⟨fresh, logged, quiet⟩
  rw [logged] at present
  exact (List.mem_append.mp present).resolve_left fun new => quiet _ new trivial

theorem AppState.advance_of_without {state : AppState} {after : World} {kind : Effect → Prop}
    (without : Without kind state.world after)
    (placed : ∀ loader path, kind (.placed loader path)) :
    state.advance after = ⟨after, state.origin⟩ := by
  rcases without with ⟨fresh, logged, quiet⟩
  rw [AppState.advance, freshEffects_eq logged]
  congr 1
  funext path
  rw [placerOf_eq_none path fun loader target present => quiet _ present (placed loader target)]

section Paths

variable {digest : MessageDigest} {used : Set NSURL} {files : FileSystem Path}
  {origin : Path → Option NSURL}

theorem Distinct.cachePath_ne (distinct : Distinct used) {first second : NSURL}
    (firstUsed : first ∈ used) (secondUsed : second ∈ used) (different : first ≠ second) :
    first.cachePath ≠ second.cachePath := by
  intro same
  rw [NSURL.cachePath_eq (distinct.below first firstUsed),
    NSURL.cachePath_eq (distinct.below second secondUsed)] at same
  simp only [Path.mk.injEq, List.cons.injEq, and_true, true_and] at same
  exact different (distinct.injective firstUsed secondUsed same)

theorem Filed.touch (filed : Filed digest used files origin) (url : NSURL) :
    Filed digest used (files.touch (url.tmpPath digest)) origin := by
  constructor
  · intro other otherUsed item found
    rw [FileSystem.lookup_touch] at found
    split at found
    · rename_i same
      cases present : files.lookup (url.tmpPath digest) with
      | none =>
          rw [present, Option.some.injEq] at found
          rw [← found]
          trivial
      | some old =>
          rw [present, Option.some.injEq] at found
          subst found
          exact filed.tmp other otherUsed old (same ▸ present)
    · exact filed.tmp other otherUsed item found
  · intro other otherUsed item found
    rw [FileSystem.lookup_touch, if_neg (by simp)] at found
    exact filed.cache other otherUsed item found

theorem Filed.append (filed : Filed digest used files origin) (node : ℕ) (bytes : List UInt8) :
    Filed digest used (files.append node bytes) origin := by
  have before : ∀ path item, (files.append node bytes).lookup path = some item →
      ∃ old, files.lookup path = some old ∧ (item.IsFile ↔ old.IsFile) := by
    intro path item found
    rw [FileSystem.lookup_append] at found
    split at found
    · simp only [Option.map_eq_some_iff] at found
      rcases found with ⟨old, present, rfl⟩
      exact ⟨old, present, Item.isFile_extend bytes old⟩
    · exact ⟨item, found, Iff.rfl⟩
  constructor
  · intro url usedURL item found
    rcases before _ _ found with ⟨old, present, same⟩
    exact same.mpr (filed.tmp url usedURL old present)
  · intro url usedURL item found
    rcases before _ _ found with ⟨old, present, same⟩
    rcases filed.cache url usedURL old present with ⟨isFile, known⟩
    exact ⟨same.mpr isFile, known⟩

theorem Filed.removeTmp (filed : Filed digest used files origin) (url : NSURL) :
    Filed digest used (removeFileAtPath files (some (url.tmpPath digest))) origin := by
  rw [removeFileAtPath]
  split
  · constructor
    · intro other otherUsed item found
      rw [FileSystem.lookup_remove] at found
      split at found
      · cases found
      · exact filed.tmp other otherUsed item found
    · intro other otherUsed item found
      rw [FileSystem.lookup_remove, if_neg (by simp)] at found
      exact filed.cache other otherUsed item found
  · exact filed

/-- The move of a download's tmp file, whether or not it is carried out. -/
theorem Filed.moveTmp (filed : Filed digest used files origin) (distinct : Distinct used)
    {url : NSURL} (usedURL : url ∈ used) (moves : Bool) :
    Filed digest used
      (if moves then moveFile files (some (url.tmpPath digest)) (some url.cachePath) else files)
      (if moves ∧ files.Movable (url.tmpPath digest) url.cachePath then
        Function.update origin url.cachePath (some url) else origin) := by
  by_cases carried : moves ∧ files.Movable (url.tmpPath digest) url.cachePath
  · rw [if_pos carried, if_pos carried.1, moveFile, if_pos carried.2]
    constructor
    · intro other otherUsed item found
      rw [FileSystem.lookup_move, if_neg (by simp)] at found
      split at found
      · cases found
      · exact filed.tmp other otherUsed item found
    · intro other otherUsed item found
      by_cases same : other = url
      · subst same
        rw [FileSystem.lookup_move, if_pos rfl] at found
        exact ⟨filed.tmp other otherUsed item found, Function.update_self _ _ _⟩
      · have apart := distinct.cachePath_ne otherUsed usedURL same
        rw [FileSystem.lookup_move, if_neg apart, if_neg (by simp)] at found
        rw [Function.update_of_ne apart]
        exact filed.cache other otherUsed item found
  · rw [if_neg carried]
    split
    · rename_i moving
      rw [moveFile, if_neg fun movable => carried ⟨moving, movable⟩]
      exact filed
    · exact filed

/-- No move empties a cache path. -/
theorem occupied_moveTmp {url other : NSURL} (moves : Bool)
    (occupied : files.Occupied other.cachePath) :
    (if moves then moveFile files (some (url.tmpPath digest)) (some url.cachePath)
      else files).Occupied other.cachePath := by
  split
  · rw [moveFile]
    split
    · rename_i movable
      rw [FileSystem.Occupied, FileSystem.lookup_move]
      split
      · exact movable.1
      · rwa [if_neg (by simp)]
    · exact occupied
  · exact occupied

/-- After the last move there is an item at the cache path. -/
theorem occupied_moved {url : NSURL} {moves : Bool}
    (present : files.Occupied url.cachePath ∨ moves = true ∧ files.Occupied (url.tmpPath digest)) :
    (if moves then moveFile files (some (url.tmpPath digest)) (some url.cachePath)
      else files).Occupied url.cachePath := by
  by_cases occupied : files.Occupied url.cachePath
  · exact occupied_moveTmp moves occupied
  · rcases present.resolve_left occupied with ⟨moving, source⟩
    rw [if_pos moving, moveFile, if_pos ⟨source, occupied⟩, FileSystem.Occupied,
      FileSystem.lookup_move, if_pos rfl]
    exact source

theorem Filed.keep (filed : Filed digest used files origin) {path : Path} (item : Item)
    (directory : path.directory = .caches) (apart : ∀ url ∈ used, path ≠ url.cachePath) :
    Filed digest used (files.put path item) (Function.update origin path none) := by
  constructor
  · intro url usedURL kept found
    rw [FileSystem.lookup_put, if_neg] at found
    · exact filed.tmp url usedURL kept found
    · rintro rfl
      rw [NSURL.tmpPath_eq] at directory
      cases directory
  · intro url usedURL kept found
    rw [FileSystem.lookup_put, if_neg (apart url usedURL).symm] at found
    rw [Function.update_of_ne (apart url usedURL).symm]
    exact filed.cache url usedURL kept found

end Paths

section Steps

variable {digest : MessageDigest} {used : Set NSURL} {state : AppState} {after : World}
  {task : TaskId} {record changed : DataTask} {fields : ZFDownLoader}

/-- Every live task of the second world has the downloader of one of the first. -/
def Inherits (before after : World) : Prop :=
  ∀ task record, after.tasks task = some record → record.phase ≠ .ended →
    ∃ other origin, before.tasks other = some origin ∧ origin.phase ≠ .ended ∧
      origin.delegate = record.delegate

/-- No downloader has other paths in the second world. -/
def SamePaths (before after : World) : Prop :=
  ∀ loader,
    (after.downLoaders loader).downLoadCachePath =
      (before.downLoaders loader).downLoadCachePath ∧
    (after.downLoaders loader).downLoadTmpPath = (before.downLoaders loader).downLoadTmpPath

theorem inherits_of_unflagged {before : World}
    (same : ∀ task, (after.tasks task).map DataTask.unflagged =
      (before.tasks task).map DataTask.unflagged) : Inherits before after := by
  intro task record found live
  rcases DataTask.exists_of_unflagged (same task) found with ⟨origin, foundBefore, agree⟩
  refine ⟨task, origin, foundBefore, ?_, DataTask.delegate_eq agree⟩
  rwa [DataTask.phase_eq agree]

theorem inherits_of_touches {before : World} {loader : DownLoaderId}
    (found : before.tasks task = some record) (live : record.phase ≠ .ended)
    (touches : before.Touches after loader fields task changed)
    (delegate : changed.delegate = record.delegate) : Inherits before after := by
  intro other otherRecord otherFound otherLive
  by_cases same : other = task
  · subst same
    rw [touches.tasks, Function.update_self, Option.some.injEq] at otherFound
    subst otherFound
    exact ⟨other, record, found, live, delegate.symm⟩
  · rw [touches.tasks, Function.update_of_ne same] at otherFound
    exact ⟨other, otherRecord, otherFound, otherLive, rfl⟩

theorem samePaths_of_update {before : World} {loader : DownLoaderId}
    (downLoaders : after.downLoaders = Function.update before.downLoaders loader fields)
    (cachePath : fields.downLoadCachePath = (before.downLoaders loader).downLoadCachePath)
    (tmpPath : fields.downLoadTmpPath = (before.downLoaders loader).downLoadTmpPath) :
    SamePaths before after := by
  intro other
  rw [downLoaders]
  exact ⟨field_update ZFDownLoader.downLoadCachePath cachePath other,
    field_update ZFDownLoader.downLoadTmpPath tmpPath other⟩

namespace Traced

/-- A step that calls no downloader. -/
theorem of_uncalled (traced : Traced digest used state)
    (urls : ∀ loader, downLoadURL after.log loader = downLoadURL state.world.log loader)
    (count : state.world.downLoaderCount = after.downLoaderCount)
    (inherits : Inherits state.world after) (samePaths : SamePaths state.world after)
    {later : Path → Option NSURL} (filed : Filed digest used after.files later)
    (success : ∀ {loader block path}, Effect.success loader block path ∈ after.log →
      ∃ url, downLoadURL state.world.log loader = some url ∧ path = some url.cachePath ∧
        after.files.Occupied url.cachePath) : Traced digest used ⟨after, later⟩ := by
  constructor
  case filed => exact filed
  case called =>
    intro loader url called
    rw [urls] at called
    rw [← count]
    exact traced.called called
  case paths =>
    intro task record found live
    rcases inherits task record found live with ⟨other, origin, foundBefore, liveBefore, delegate⟩
    rw [urls, (samePaths record.delegate).1, (samePaths record.delegate).2, ← delegate]
    exact traced.paths foundBefore liveBefore
  case success =>
    intro loader block path present
    rw [urls]
    exact success present

/-- A step that neither calls a downloader nor moves or hands out a file. -/
theorem of_quiet (traced : Traced digest used state) (quiet : Without Tells state.world after)
    (count : state.world.downLoaderCount = after.downLoaderCount)
    (inherits : Inherits state.world after) (samePaths : SamePaths state.world after)
    (filed : Filed digest used after.files state.origin)
    (occupied : ∀ url : NSURL, state.world.files.Occupied url.cachePath →
      after.files.Occupied url.cachePath) : Traced digest used ⟨after, state.origin⟩ := by
  apply traced.of_uncalled (downLoadURL_of_without quiet) count inherits samePaths filed
  intro loader block path present
  rcases traced.success (success_of_without quiet present) with ⟨url, called, same, found⟩
  exact ⟨url, called, same, occupied url found⟩

theorem switch (traced : Traced digest used state) (loader : DownLoaderId)
    (source target : ZFDownLoaderState) (suspended : Bool) :
    Traced digest used ⟨state.world.switch loader source target suspended, state.origin⟩ := by
  apply traced.of_quiet (without_switch fun _ => id) downLoaderCount_switch.symm
    (inherits_of_unflagged unflagged_switch) (samePaths_of_update downLoaders_switch rfl rfl)
  · rw [files_switch]
    exact traced.filed
  · intro url occupied
    rwa [files_switch]

theorem cancel (traced : Traced digest used state) (loader : DownLoaderId) :
    Traced digest used ⟨state.world.cancel loader, state.origin⟩ := by
  apply traced.of_quiet (.of_eq log_cancel) downLoaderCount_cancel.symm
    (inherits_of_unflagged unflagged_cancel) (samePaths_of_update downLoaders_cancel rfl rfl)
  · rw [files_cancel]
    exact traced.filed
  · intro url occupied
    rwa [files_cancel]

variable (digest) in
/-- The origins after a step whose only move is that of a downloader's tmp file. -/
theorem origin_advance {loader : DownLoaderId} {io : LocalIO} {url : NSURL} {front : List Effect}
    (back : List Effect)
    (logged : after.log = (front ++ state.world.placement loader io ++ back) ++ state.world.log)
    (quiet : ∀ effect ∈ front ++ back, ∀ other path, effect ≠ .placed other path)
    (called : downLoadURL after.log loader = some url)
    (cachePath : (state.world.downLoaders loader).downLoadCachePath = some url.cachePath)
    (tmpPath : (state.world.downLoaders loader).downLoadTmpPath = some (url.tmpPath digest)) :
    (state.advance after).origin =
      if io.moves ∧ state.world.files.Movable (url.tmpPath digest) url.cachePath then
        Function.update state.origin url.cachePath (some url)
      else state.origin := by
  have frontNone : ∀ path, placerOf front path = none := fun path =>
    placerOf_eq_none path fun other target present =>
      quiet _ (List.mem_append_left back present) other target rfl
  have backNone : ∀ path, placerOf back path = none := fun path =>
    placerOf_eq_none path fun other target present =>
      quiet _ (List.mem_append_right front present) other target rfl
  have placer : ∀ path, placerOf (freshEffects state.world after) path =
      placerOf (state.world.placement loader io) path := by
    intro path
    have first := frontNone path
    have last := backNone path
    rw [placerOf] at first last
    rw [freshEffects_eq logged, placerOf, List.findSome?_append, List.findSome?_append, first,
      last, Option.none_or, Option.or_none, placerOf]
  funext path
  simp only [AppState.advance, placer, placement, cachePath, tmpPath, CanMove]
  by_cases carried : io.moves ∧ state.world.files.Movable (url.tmpPath digest) url.cachePath
  · rw [if_pos carried, if_pos carried]
    by_cases same : path = url.cachePath
    · subst same
      simp [placerOf, called]
    · simp [placerOf, Function.update_of_ne same, Ne.symm same]
  · rw [if_neg carried, if_neg carried]
    simp [placerOf]

theorem advance_quiet (traced : Traced digest used ⟨after, state.origin⟩)
    (quiet : Without Tells state.world after) : Traced digest used (state.advance after) := by
  rwa [AppState.advance_of_without quiet fun _ _ => trivial]

theorem data (traced : Traced digest used state) {bytes : List UInt8} {io : LocalIO}
    (deliverable : state.world.Deliverable (.data task bytes io)) :
    Traced digest used (state.advance (state.world.deliver (.data task bytes io))) := by
  rcases exists_of_data deliverable with ⟨record, found, allowed⟩
  have live : record.phase ≠ .ended := by simp [allowed]
  have touches := touches_data bytes io found
  have quiet : Without Tells state.world (state.world.deliver (.data task bytes io)) := by
    refine ⟨_, log_data bytes io found, ?_⟩
    split <;> simp [Tells]
  apply advance_quiet _ quiet
  apply traced.of_quiet quiet touches.downLoaderCount.symm
    (inherits_of_touches found live touches rfl) (samePaths_of_update touches.downLoaders rfl rfl)
  · rw [files_data bytes io found]
    split
    · exact traced.filed
    · exact traced.filed.append _ _
  · intro url occupied
    rw [files_data bytes io found]
    split
    · exact occupied
    · rw [FileSystem.Occupied, FileSystem.lookup_append]
      split
      · rw [Option.isSome_map]
        exact occupied
      · exact occupied

theorem opened (traced : Traced digest used state) {response : NSHTTPURLResponse} {io : LocalIO}
    (found : state.world.tasks task = some record) (live : record.phase ≠ .ended)
    (short : ((state.world.downLoaders record.delegate).tmpSize : ℤ) < response.totalSize) :
    Traced digest used (state.advance (state.world.deliver (.response task response io))) := by
  have touches := touches_opened io found short
  rcases traced.paths found live with ⟨url, called, _, tmpPath⟩
  have quiet : Without Tells state.world (state.world.deliver (.response task response io)) :=
    ⟨_, log_opened io found short, by simp [Tells]⟩
  apply advance_quiet _ quiet
  apply traced.of_quiet quiet touches.downLoaderCount.symm
    (inherits_of_touches found live touches rfl) (samePaths_of_update touches.downLoaders rfl rfl)
  · rw [files_opened io found short, tmpPath, NSOutputStream.openAppending]
    split
    · exact traced.filed.touch url
    · exact traced.filed
  · intro other occupied
    rw [files_opened io found short, tmpPath, NSOutputStream.openAppending]
    split
    · rw [FileSystem.Occupied, FileSystem.lookup_touch, if_neg (by simp)]
      exact occupied
    · exact occupied

theorem restarted (traced : Traced digest used state) {response : NSHTTPURLResponse}
    {io : LocalIO} (found : state.world.tasks task = some record) (live : record.phase ≠ .ended)
    (oversized : response.totalSize < (state.world.downLoaders record.delegate).tmpSize) :
    Traced digest used (state.advance (state.world.deliver (.response task response io))) := by
  rcases deliver_restarted_spec io found oversized with ⟨downLoaders, tasks, _, count, _⟩
  rcases traced.paths found live with ⟨url, called, _, tmpPath⟩
  have quiet : Without Tells state.world (state.world.deliver (.response task response io)) := by
    refine ⟨_, log_restarted io found oversized, ?_⟩
    rw [removal]
    split <;> simp [Tells]
  have inherits : Inherits state.world (state.world.deliver (.response task response io)) := by
    intro other otherRecord otherFound otherLive
    rw [tasks] at otherFound
    by_cases fresh : other = state.world.taskCount
    · subst fresh
      rw [Function.update_self, Option.some.injEq] at otherFound
      subst otherFound
      exact ⟨task, record, found, live, rfl⟩
    · rw [Function.update_of_ne fresh] at otherFound
      by_cases same : other = task
      · subst same
        rw [Function.update_self, Option.some.injEq] at otherFound
        subst otherFound
        exact ⟨other, record, found, live, rfl⟩
      · rw [Function.update_of_ne same] at otherFound
        exact ⟨other, otherRecord, otherFound, otherLive, rfl⟩
  apply advance_quiet _ quiet
  apply traced.of_quiet quiet count.symm inherits (samePaths_of_update downLoaders rfl rfl)
  · rw [files_restarted io found oversized, tmpPath]
    exact traced.filed.removeTmp url
  · intro other occupied
    rw [files_restarted io found oversized, tmpPath, removeFileAtPath]
    split
    · rw [FileSystem.Occupied, FileSystem.lookup_remove, if_neg (by simp)]
      exact occupied
    · exact occupied

theorem finished (traced : Traced digest used state) (distinct : Distinct used)
    {response : NSHTTPURLResponse} {io : LocalIO} (found : state.world.tasks task = some record)
    (live : record.phase ≠ .ended)
    (full : ((state.world.downLoaders record.delegate).tmpSize : ℤ) = response.totalSize) :
    Traced digest used (state.advance (state.world.deliver (.response task response io))) := by
  have touches := touches_finished io found full
  have logged := log_finished io found full
  rcases traced.paths found live with ⟨url, called, cachePath, tmpPath⟩
  have urls : ∀ loader, downLoadURL (state.world.deliver (.response task response io)).log loader =
      downLoadURL state.world.log loader := by
    intro loader
    rw [logged, downLoadURL_append]
    intro other
    rw [placement]
    split <;> simp
  have files := files_finished io found full
  rw [cachePath, tmpPath] at files
  have origin := origin_advance digest _ logged (by simp) ((urls _).trans called) cachePath
    tmpPath
  have filed := traced.filed.moveTmp distinct (traced.called called).2 io.moves
  rw [← files, ← origin] at filed
  apply traced.of_uncalled urls touches.downLoaderCount.symm
    (inherits_of_touches found live touches rfl) (samePaths_of_update touches.downLoaders rfl rfl)
    filed
  intro loader block path present
  have old : Effect.success loader block path ∈ state.world.log := by
    rw [logged, placement] at present
    split at present <;> simpa using present
  rcases traced.success old with ⟨other, otherCalled, same, occupied⟩
  refine ⟨other, otherCalled, same, ?_⟩
  rw [files]
  exact occupied_moveTmp io.moves occupied

theorem response (traced : Traced digest used state) (distinct : Distinct used)
    {response : NSHTTPURLResponse} {io : LocalIO}
    (deliverable : state.world.Deliverable (.response task response io)) :
    Traced digest used (state.advance (state.world.deliver (.response task response io))) := by
  rcases exists_of_response deliverable with ⟨record, found, waiting⟩
  have live : record.phase ≠ .ended := by simp [waiting]
  rcases lt_trichotomy ((state.world.downLoaders record.delegate).tmpSize : ℤ)
    response.totalSize with short | full | oversized
  · exact traced.opened found live short
  · exact traced.finished distinct found live full
  · exact traced.restarted found live oversized

theorem failed (traced : Traced digest used state) {failure : NSError} {io : LocalIO}
    (deliverable : state.world.Deliverable (.complete task (some failure) io)) :
    Traced digest used
      (state.advance (state.world.deliver (.complete task (some failure) io))) := by
  rcases exists_of_complete deliverable with ⟨record, found, live, _⟩
  have touches := touches_complete (some failure) io found
  have files := files_complete_failed io found failure
  have quiet : Without Tells state.world
      (state.world.deliver (.complete task (some failure) io)) :=
    ⟨_, log_complete_failed io found failure, by simp [Tells]⟩
  apply advance_quiet _ quiet
  apply traced.of_quiet quiet touches.downLoaderCount.symm
    (inherits_of_touches found live touches rfl) (samePaths_of_update touches.downLoaders rfl rfl)
  · rw [files]
    exact traced.filed
  · intro url occupied
    rwa [files]

theorem completed (traced : Traced digest used state) (distinct : Distinct used) {io : LocalIO}
    (deliverable : state.world.Deliverable (.complete task none io))
    (separated : Separated used state (.manager (.deliver (.complete task none io)))) :
    Traced digest used (state.advance (state.world.deliver (.complete task none io))) := by
  rcases exists_of_complete deliverable with ⟨record, found, live, _⟩
  have touches := touches_complete none io found
  have logged := log_complete_finished io found
  rcases traced.paths found live with ⟨url, called, cachePath, tmpPath⟩
  have urls : ∀ loader, downLoadURL (state.world.deliver (.complete task none io)).log loader =
      downLoadURL state.world.log loader := by
    intro loader
    rw [logged, downLoadURL_append]
    intro other
    rw [placement]
    split <;> simp
  have files := files_complete_finished io found
  rw [cachePath, tmpPath] at files
  have origin := origin_advance digest [] (by rw [logged, List.append_nil]) (by simp)
    ((urls _).trans called) cachePath tmpPath
  have filed := traced.filed.moveTmp distinct (traced.called called).2 io.moves
  rw [← files, ← origin] at filed
  have present : state.world.files.Occupied url.cachePath ∨
      io.moves = true ∧ state.world.files.Occupied (url.tmpPath digest) := by
    simpa only [Separated, delegateOf_eq found, cachePath, tmpPath, isFileExists,
      decide_eq_true_eq] using separated
  apply traced.of_uncalled urls touches.downLoaderCount.symm
    (inherits_of_touches found live touches rfl) (samePaths_of_update touches.downLoaders rfl rfl)
    filed
  intro loader block path handed
  rw [files]
  by_cases old : Effect.success loader block path ∈ state.world.log
  · rcases traced.success old with ⟨other, otherCalled, same, occupied⟩
    exact ⟨other, otherCalled, same, occupied_moveTmp io.moves occupied⟩
  · obtain ⟨rfl, same⟩ : loader = record.delegate ∧
        path = (state.world.downLoaders record.delegate).downLoadCachePath := by
      rw [logged, placement] at handed
      split at handed <;> simp [old] at handed <;> exact ⟨handed.1, handed.2.2⟩
    exact ⟨url, called, same.trans cachePath, occupied_moved present⟩

theorem deliver (traced : Traced digest used state) (distinct : Distinct used)
    {event : DelegateEvent} (deliverable : state.world.Deliverable event)
    (separated : Separated used state (.manager (.deliver event))) :
    Traced digest used (state.advance (state.world.deliver event)) := by
  cases event with
  | response task response io => exact traced.response distinct deliverable
  | data task bytes io => exact traced.data deliverable
  | complete task error io =>
      cases error with
      | none => exact traced.completed distinct deliverable separated
      | some failure => exact traced.failed deliverable

/-- A step that calls a fresh downloader and leaves the files alone. -/
theorem of_called (traced : Traced digest used state) {url : NSURL} (usedURL : url ∈ used)
    {front : List Effect}
    (logged : after.log =
      (front ++ [.called state.world.downLoaderCount url]) ++ state.world.log)
    (uncalled : ∀ loader other, Effect.called loader other ∉ front)
    (count : after.downLoaderCount = state.world.downLoaderCount + 1)
    (files : after.files = state.world.files)
    (downLoaders : after.downLoaders =
      Function.update state.world.downLoaders state.world.downLoaderCount fields)
    (cachePath : fields.downLoadCachePath = some url.cachePath)
    (tmpPath : fields.downLoadTmpPath = some (url.tmpPath digest))
    (tasks : ∀ task record, after.tasks task = some record → record.phase ≠ .ended →
      record.delegate = state.world.downLoaderCount ∨
        ∃ other origin, state.world.tasks other = some origin ∧ origin.phase ≠ .ended ∧
          origin.delegate = record.delegate)
    (success : ∀ {loader block path}, Effect.success loader block path ∈ front →
      loader = state.world.downLoaderCount ∧ path = some url.cachePath ∧
        state.world.files.Occupied url.cachePath) : Traced digest used ⟨after, state.origin⟩ := by
  have urls : ∀ loader, downLoadURL after.log loader =
      if loader = state.world.downLoaderCount then some url
      else downLoadURL state.world.log loader := by
    intro loader
    rw [logged, List.append_assoc, downLoadURL_append (uncalled loader)]
    by_cases mine : loader = state.world.downLoaderCount
    · simp [downLoadURL, mine]
    · simp [downLoadURL, mine, Ne.symm mine]
  have old : ∀ {loader called}, downLoadURL state.world.log loader = some called →
      loader ≠ state.world.downLoaderCount := fun called => (traced.called called).1.ne
  constructor
  case filed =>
    rw [files]
    exact traced.filed
  case called =>
    intro loader called found
    rw [urls] at found
    rw [count]
    split at found
    · rename_i mine
      cases found
      exact ⟨mine ▸ Nat.lt_succ_self _, usedURL⟩
    · rcases traced.called found with ⟨below, calledUsed⟩
      exact ⟨Nat.lt_succ_of_lt below, calledUsed⟩
  case paths =>
    intro task record found live
    rcases tasks task record found live with mine | ⟨other, origin, foundBefore, liveBefore, same⟩
    · refine ⟨url, ?_, ?_, ?_⟩
      · rw [urls, if_pos mine]
      · rw [mine, downLoaders, Function.update_self, cachePath]
      · rw [mine, downLoaders, Function.update_self, tmpPath]
    · rcases traced.paths foundBefore liveBefore with ⟨called, known, paths⟩
      rw [same] at known paths
      refine ⟨called, ?_, ?_⟩
      · rw [urls, if_neg (old known), known]
      · rwa [downLoaders, Function.update_of_ne (old known)]
  case success =>
    intro loader block path present
    rw [files]
    rw [logged, List.append_assoc] at present
    rcases List.mem_append.mp present with new | present
    · rcases success new with ⟨rfl, same, occupied⟩
      exact ⟨url, by rw [urls, if_pos rfl], same, occupied⟩
    · rcases traced.success (by simpa using present) with ⟨called, known, same, occupied⟩
      exact ⟨called, by rw [urls, if_neg (old known), known], same, occupied⟩

/-- A download that begins hands out what an earlier download of its URL left. -/
theorem begin (traced : Traced digest used state) {url : NSURL} {blocks : ClientBlocks}
    (usedURL : url ∈ used) (unregistered : state.world.registered digest url = none) :
    Traced digest used (state.advance (state.world.begin digest url blocks)) := by
  by_cases occupied : state.world.files.Occupied url.cachePath
  · have begins := begin_cached blocks unregistered occupied
    have unplaced : Without IsPlacement state.world (state.world.begin digest url blocks) :=
      ⟨_, begins.log, by simp [IsPlacement]⟩
    have logged : (state.world.begin digest url blocks).log =
        ([.success state.world.downLoaderCount (blocks.wrap (url.key digest)).success
            (some url.cachePath),
          .state state.world.downLoaderCount blocks.state .success,
          .info state.world.downLoaderCount blocks.progress
            (fileTotalSize state.world.files (some url.cachePath)) 1] ++
          [.called state.world.downLoaderCount url]) ++ state.world.log := begins.log
    rw [AppState.advance_of_without unplaced fun loader path => ⟨loader, path, rfl⟩]
    refine traced.of_called usedURL logged (by simp) begins.downLoaderCount begins.files
      begins.downLoaders rfl rfl ?_ ?_
    · intro task record found live
      rw [begins.tasks] at found
      exact Or.inr ⟨task, record, found, live, rfl⟩
    · intro loader block path present
      simp only [List.mem_cons, Effect.success.injEq, reduceCtorEq, List.not_mem_nil,
        or_false] at present
      exact ⟨present.1, present.2.2, occupied⟩
  · have begins := begin_task digest blocks occupied
    have marked : Inherits state.world
        ((state.world.register (url.key digest)).cancel state.world.downLoaderCount) :=
      inherits_of_unflagged unflagged_cancel
    have unplaced : Without IsPlacement state.world (state.world.begin digest url blocks) :=
      ⟨_, begins.log, by simp [IsPlacement]⟩
    have logged : (state.world.begin digest url blocks).log =
        ([.requested state.world.downLoaderCount state.world.taskCount url
            (fileTotalSize state.world.files (some (url.tmpPath digest)))] ++
          [.called state.world.downLoaderCount url]) ++ state.world.log := begins.log
    rw [AppState.advance_of_without unplaced fun loader path => ⟨loader, path, rfl⟩]
    refine traced.of_called usedURL logged (by simp) begins.downLoaderCount begins.files
      begins.downLoaders rfl rfl ?_ ?_
    · intro task record found live
      rw [begins.tasks] at found
      by_cases fresh : task = state.world.taskCount
      · subst fresh
        rw [Function.update_self, Option.some.injEq] at found
        exact Or.inl (found ▸ rfl)
      · rw [Function.update_of_ne fresh] at found
        exact Or.inr (marked task record found live)
    · intro loader block path present
      simp at present

theorem kill (traced : Traced digest used state) :
    Traced digest used (state.advance state.world.kill) := by
  have quiet : Without Tells state.world state.world.kill := .of_eq rfl
  rw [AppState.advance_of_without quiet fun _ _ => trivial]
  refine ⟨traced.filed, traced.called, ?_, traced.success⟩
  intro task record found live
  simp only [World.kill, Option.map_eq_some_iff] at found
  rcases found with ⟨before, _, rfl⟩
  exact absurd rfl live

theorem call (traced : Traced digest used state) {call : ManagerCall}
    (separated : Separated used state (.manager (.call call))) :
    Traced digest used (state.advance (state.world.call digest call)) := by
  by_cases begins : ∃ url blocks, call = .downLoad url blocks ∧
    state.world.registered digest url = none
  · rcases begins with ⟨url, blocks, rfl, unregistered⟩
    rw [World.call, managerDownLoadWithURL_unregistered unregistered]
    exact traced.begin separated unregistered
  · have apart : ∀ url blocks, call = .downLoad url blocks →
        state.world.registered digest url ≠ none :=
      fun url blocks same unregistered => begins ⟨url, blocks, same, unregistered⟩
    apply advance_quiet
    · refine call_induction (motive := fun middle => Traced digest used ⟨middle, state.origin⟩)
        traced ?_ ?_ ?_ ?_
      · intro middle loader traced
        exact traced.switch loader _ _ _
      · intro middle loader traced
        exact traced.switch loader _ _ _
      · intro middle loader traced
        exact traced.cancel loader
      · intro url blocks same unregistered
        exact absurd unregistered (apart url blocks same)
    · apply call_without
      · exact fun _ _ => id
      · exact fun _ _ => id
      · intro url blocks same unregistered
        exact absurd unregistered (apart url blocks same)

theorem keep (traced : Traced digest used state) {path : Path} (item : Item)
    (directory : path.directory = .caches) (apart : ∀ url ∈ used, path ≠ url.cachePath) :
    Traced digest used (state.keep path item) := by
  refine ⟨traced.filed.keep item directory apart, traced.called, traced.paths, ?_⟩
  intro loader block handed present
  rcases traced.success present with ⟨url, called, same, occupied⟩
  refine ⟨url, called, same, ?_⟩
  rw [AppState.keep, withFiles_files, FileSystem.Occupied, FileSystem.lookup_put]
  split
  · rfl
  · exact occupied

end Traced

theorem traced_preserved (digest : MessageDigest) (distinct : Distinct used) :
    ((appSystem digest).restrict (Separated used)).Preserves (Traced digest used) := by
  rintro state action traced ⟨admitted, separated⟩
  cases action with
  | manager action =>
      cases action with
      | call call => exact traced.call separated
      | deliver event => exact traced.deliver distinct admitted separated
      | kill => exact traced.kill
  | keep path item => exact traced.keep item admitted separated

theorem traced_launch {files : FileSystem Path} (untaken : Untaken digest used files) :
    Traced digest used (.launch files) where
  filed := by
    refine ⟨untaken.tmp, ?_⟩
    intro url usedURL item found
    exact absurd (FileSystem.occupied_iff.mpr ⟨item, found⟩) (untaken.cache url usedURL)
  called := nofun
  paths := nofun
  success := nofun

end Steps

/-- The example's download beside a database. -/
def besideDatabase : List AppAction :=
  [.keep (cachePath.appendingPathComponent "common.db") (.file [83, 81, 76]),
   .manager (.call (.downLoad exampleURL exampleBlocks)),
   .manager (.deliver
     (.response 0 ((StatedReply.mk 200 (some 2) none).render exampleURL) .healthy)),
   .manager (.deliver (.data 0 [1, 2] .healthy)),
   .manager (.deliver (.complete 0 none .healthy))]

end ZFBaseFramework
