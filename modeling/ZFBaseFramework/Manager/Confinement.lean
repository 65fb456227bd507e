import ZFBaseFramework.DownLoader.Clearing
import ZFBaseFramework.Manager.ReentrantRegistry

/-!
# What a download never touches

A downloader writes through an open stream, which follows its file when that is moved,
and it moves and removes what is at its two paths. The files that it changes are those
of the URLs it was given: `Enclosed` holds of whatever the server replies, in whatever
order the events come, also where two URLs share a path and where client blocks call the
manager in the middle of its methods.
-/

namespace ZFBaseFramework

open ZFFileManagerTool World

/-- The path is the other one or leads into the directory there. -/
def Path.Below (path top : Path) : Prop :=
  path.directory = top.directory ∧ top.components <+: path.components

instance (path top : Path) : Decidable (path.Below top) := inferInstanceAs (Decidable (_ ∧ _))

theorem Path.below_self (path : Path) : path.Below path := ⟨rfl, List.prefix_refl _⟩

/-- The path belongs to the files of a URL, which may be directories. The names `.` and `..` stand
for directories with other files, so that any path may belong to them. -/
def NSURL.Owns (digest : MessageDigest) (url : NSURL) (path : Path) : Prop :=
  path.Below (url.tmpPath digest) ∨ path.Below url.cachePath ∨
    url.lastPathComponent = "." ∨ url.lastPathComponent = ".."

instance (digest : MessageDigest) (url : NSURL) (path : Path) :
    Decidable (url.Owns digest path) :=
  inferInstanceAs (Decidable (_ ∨ _))

/-- Only these paths may have changed, and all that downloaders hold is among them. -/
structure Enclosed (inside : Path → Prop) (files : FileSystem Path) (world : World) : Prop where
  files : files.SameOutside inside world.files
  tmp : ∀ loader path, (world.downLoaders loader).downLoadTmpPath = some path → inside path
  cache : ∀ loader path, (world.downLoaders loader).downLoadCachePath = some path → inside path
  stream : ∀ loader node, (world.downLoaders loader).streamNode = some node →
    world.files.HeldInside inside node

section Tool

variable {inside : Path → Prop} {files : FileSystem Path} {source target path : Option Path}

theorem sameOutside_moveFile (fromWithin : ∀ path, source = some path → inside path)
    (toWithin : ∀ path, target = some path → inside path) :
    files.SameOutside inside (moveFile files source target) := by
  cases source with
  | none => exact .refl _ _
  | some source =>
      cases target with
      | none => exact .refl _ _
      | some target =>
          rw [moveFile]
          split
          · exact FileSystem.sameOutside_move (fromWithin source rfl) (toWithin target rfl)
          · exact .refl _ _

theorem sameOutside_removeFileAtPath (within : ∀ other, path = some other → inside other) :
    files.SameOutside inside (removeFileAtPath files path) := by
  cases path with
  | none => exact .refl _ _
  | some path =>
      rw [removeFileAtPath]
      split
      · exact FileSystem.sameOutside_remove (within path rfl)
      · exact .refl _ _

/-- A stream is opened at a path, and writes to the node there. -/
theorem sameOutside_openAppending (within : ∀ other, path = some other → inside other)
    (io : LocalIO) :
    let opened := NSOutputStream.openAppending files path io
    files.SameOutside inside opened.1 ∧
      ∀ node, opened.2.node = some node → opened.1.HeldInside inside node := by
  cases path with
  | none =>
      refine ⟨.refl _ _, ?_⟩
      rintro node ⟨⟩
  | some path =>
      rw [NSOutputStream.openAppending]
      split
      · refine ⟨FileSystem.sameOutside_touch (within path rfl), ?_⟩
        intro node writes
        exact FileSystem.heldInside_of_linked (within path rfl)
          (FileSystem.writable_eq_some_iff.mp writes).1
      · refine ⟨.refl _ _, ?_⟩
        rintro node ⟨⟩

end Tool

namespace Enclosed

variable {inside : Path → Prop} {files : FileSystem Path} {world after : World}
  (enclosed : Enclosed inside files world)

include enclosed

theorem congr (downLoaders : after.downLoaders = world.downLoaders)
    (same : after.files = world.files) : Enclosed inside files after := by
  rcases enclosed with ⟨outside, tmp, cache, stream⟩
  rw [← downLoaders] at tmp cache stream
  rw [← same] at outside stream
  exact ⟨outside, tmp, cache, stream⟩

theorem withFiles {changed : FileSystem Path} (same : world.files.SameOutside inside changed) :
    Enclosed inside files (world.withFiles changed) where
  files := enclosed.files.trans same
  tmp := enclosed.tmp
  cache := enclosed.cache
  stream loader node held := same.heldInside (enclosed.stream loader node held)

/-- The fields of a downloader change, and what it holds afterwards is inside as well. -/
theorem modify {loader : DownLoaderId} {change : ZFDownLoader → ZFDownLoader}
    (tmp : ∀ path, (change (world.downLoaders loader)).downLoadTmpPath = some path → inside path)
    (cache : ∀ path,
      (change (world.downLoaders loader)).downLoadCachePath = some path → inside path)
    (stream : ∀ node, (change (world.downLoaders loader)).streamNode = some node →
      world.files.HeldInside inside node) :
    Enclosed inside files (world.modify loader change) := by
  have fields : ∀ other, (world.modify loader change).downLoaders other =
      if other = loader then change (world.downLoaders loader) else world.downLoaders other := by
    intro other
    rw [modify_downLoaders, Function.update_apply]
  refine ⟨enclosed.files, ?_, ?_, ?_⟩
  · intro other
    rw [fields]
    split_ifs
    · exact tmp
    · exact enclosed.tmp other
  · intro other
    rw [fields]
    split_ifs
    · exact cache
    · exact enclosed.cache other
  · intro other
    rw [fields]
    split_ifs
    · exact stream
    · exact enclosed.stream other

/-- Fields change that a downloader reaches no files by. -/
theorem modify_plain {loader : DownLoaderId} {change : ZFDownLoader → ZFDownLoader}
    (kept : ∀ fields, (change fields).downLoadTmpPath = fields.downLoadTmpPath ∧
      (change fields).downLoadCachePath = fields.downLoadCachePath ∧
      (change fields).outputSream = fields.outputSream) :
    Enclosed inside files (world.modify loader change) := by
  rcases kept (world.downLoaders loader) with ⟨tmp, cache, stream⟩
  apply enclosed.modify
  · rw [tmp]
    exact enclosed.tmp loader
  · rw [cache]
    exact enclosed.cache loader
  · rw [ZFDownLoader.streamNode, stream]
    exact enclosed.stream loader

theorem of_sameTransfers (same : SameTransfers world after) : Enclosed inside files after := by
  have fields := same.downLoaders
  refine ⟨same.files ▸ enclosed.files, ?_, ?_, ?_⟩
  · intro loader
    rcases fields loader with ⟨state, session, changed⟩
    rw [changed]
    exact enclosed.tmp loader
  · intro loader
    rcases fields loader with ⟨state, session, changed⟩
    rw [changed]
    exact enclosed.cache loader
  · intro loader
    rcases fields loader with ⟨state, session, changed⟩
    rw [changed, same.files]
    exact enclosed.stream loader

variable (loader : DownLoaderId) (task : TaskId)

theorem record (effect : Effect) : Enclosed inside files (world.record effect) :=
  enclosed.congr rfl rfl

theorem setState (state : ZFDownLoaderState) :
    Enclosed inside files (world.setState loader state) := by
  apply Enclosed.record
  apply enclosed.modify_plain
  exact fun _ => ⟨rfl, rfl, rfl⟩

theorem callInfo (fileSize : ℤ) (progress : CGFloat) :
    Enclosed inside files (world.callInfo loader fileSize progress) :=
  enclosed.record _

theorem callSuccess : Enclosed inside files (world.callSuccess loader) := enclosed.congr rfl rfl

theorem callFail : Enclosed inside files (world.callFail loader) := enclosed.congr rfl rfl

theorem answer (phase : TaskPhase) : Enclosed inside files (world.answer task phase) :=
  enclosed.congr rfl rfl

theorem switch (source target : ZFDownLoaderState) (suspended : Bool) :
    Enclosed inside files (world.switch loader source target suspended) :=
  enclosed.of_sameTransfers (sameTransfers_switch world loader source target suspended)

theorem cancel : Enclosed inside files (world.cancel loader) :=
  enclosed.of_sameTransfers (sameTransfers_cancel world loader)

theorem cancelAndClearCache : Enclosed inside files (world.cancelAndClearCache loader) := by
  have cancelled := enclosed.cancel loader
  exact cancelled.withFiles (sameOutside_removeFileAtPath (cancelled.cache loader))

theorem downLoadWithURLOffset (url : NSURL) (offset : ℕ) :
    Enclosed inside files (world.downLoadWithURLOffset loader url offset) := by
  have opened : Enclosed inside files (world.modify loader fun fields =>
      { fields with session := some (world.sessionOf loader) }) :=
    enclosed.modify_plain fun _ => ⟨rfl, rfl, rfl⟩
  have added : Enclosed inside files ((world.openSession loader).addTask
      { originalURL := url, offset, session := world.sessionOf loader, delegate := loader }) :=
    opened.congr rfl rfl
  apply Enclosed.record
  apply added.modify_plain
  exact fun _ => ⟨rfl, rfl, rfl⟩

/-- The paths of another URL are given to a downloader whose stream may still be open. -/
theorem assignPaths {digest : MessageDigest} {url : NSURL}
    (tmp : inside (url.tmpPath digest)) (cache : inside url.cachePath) :
    Enclosed inside files (world.assignPaths digest loader url) := by
  apply Enclosed.record
  apply enclosed.modify
  · rintro path ⟨⟩
    exact tmp
  · rintro path ⟨⟩
    exact cache
  · exact enclosed.stream loader

theorem startFromTmp (url : NSURL) : Enclosed inside files (world.startFromTmp loader url) := by
  apply Enclosed.downLoadWithURLOffset
  apply (enclosed.cancel loader).modify_plain
  exact fun _ => ⟨rfl, rfl, rfl⟩

theorem downLoadWithURLBlocks {digest : MessageDigest} {url : NSURL}
    (tmp : inside (url.tmpPath digest)) (cache : inside url.cachePath) (blocks : DownLoadBlocks) :
    Enclosed inside files (world.downLoadWithURLBlocks digest loader url blocks) := by
  have assigned : Enclosed inside files (world.assignBlocks loader blocks) := by
    apply enclosed.modify_plain
    exact fun _ => ⟨rfl, rfl, rfl⟩
  have named := assigned.assignPaths loader tmp cache
  rw [World.downLoadWithURLBlocks, downLoadWithURL]
  split_ifs
  · exact ((named.callInfo loader _ _).setState loader _).callSuccess loader
  · exact named
  · exact named.switch loader _ _ _
  · exact named.startFromTmp loader url

theorem moveTmp (io : LocalIO) : Enclosed inside files (world.moveTmp loader io) := by
  refine (enclosed.withFiles ?_).congr rfl rfl
  split
  · exact sameOutside_moveFile (enclosed.tmp loader) (enclosed.cache loader)
  · exact .refl _ _

theorem removeTmp : Enclosed inside files (world.removeTmp loader) :=
  (enclosed.withFiles (sameOutside_removeFileAtPath (enclosed.tmp loader))).congr rfl rfl

theorem openStream (io : LocalIO) : Enclosed inside files (world.openStream loader io) := by
  rcases sameOutside_openAppending (enclosed.tmp loader) io with ⟨touched, written⟩
  change Enclosed inside files ((world.withFiles _).modify loader fun fields =>
    { fields with outputSream := some _ })
  apply (enclosed.withFiles touched).modify
  · exact enclosed.tmp loader
  · exact enclosed.cache loader
  · exact written

theorem closeStream : Enclosed inside files (world.closeStream loader) :=
  enclosed.modify (enclosed.tmp loader) (enclosed.cache loader) nofun

theorem writeBytes (bytes : List UInt8) (io : LocalIO) :
    Enclosed inside files (world.writeBytes loader task bytes io) := by
  rw [World.writeBytes]
  split
  · exact enclosed
  · rename_i node held
    exact (enclosed.withFiles
      (FileSystem.sameOutside_append (enclosed.stream loader node held) _)).record _

theorem readResponse (response : NSHTTPURLResponse) :
    Enclosed inside files (world.readResponse loader response) := by
  apply Enclosed.callInfo
  apply enclosed.modify_plain
  exact fun _ => ⟨rfl, rfl, rfl⟩

theorem settleResponse (response : NSHTTPURLResponse) (io : LocalIO) :
    Enclosed inside files (world.settleResponse loader task response io) := by
  rw [World.settleResponse]
  split_ifs
  · exact ((enclosed.moveTmp loader io).setState loader _).answer task _
  · exact ((enclosed.removeTmp loader).answer task _).downLoadWithURLOffset loader _ _
  · exact ((enclosed.openStream loader io).setState loader _).answer task _

theorem countBytes (bytes : List UInt8) :
    Enclosed inside files (world.countBytes loader bytes) := by
  apply Enclosed.callInfo
  apply Enclosed.modify_plain
  · apply enclosed.modify_plain
    exact fun _ => ⟨rfl, rfl, rfl⟩
  · exact fun _ => ⟨rfl, rfl, rfl⟩

theorem finish (error : Option NSError) (io : LocalIO) :
    Enclosed inside files (world.finish loader error io) := by
  have closed := enclosed.closeStream loader
  cases error with
  | none => exact (closed.moveTmp loader io).setState loader _
  | some failure => exact closed.setState loader _

theorem callOutcome (error : Option NSError) :
    Enclosed inside files (world.callOutcome loader error) := by
  cases error with
  | none => exact enclosed.callSuccess loader
  | some failure => exact enclosed.callFail loader

theorem releaseTask : Enclosed inside files (world.releaseTask loader task) := by
  apply (enclosed.answer task .ended).modify_plain
  exact fun _ => ⟨rfl, rfl, rfl⟩

theorem deliver (event : DelegateEvent) : Enclosed inside files (world.deliver event) := by
  cases event with
  | response task response io =>
      have noted : Enclosed inside files (world.noteReply task response) :=
        enclosed.congr rfl rfl
      exact (noted.readResponse _ response).settleResponse _ task response io
  | data task bytes io =>
      have noted : Enclosed inside files (world.noteReceived task bytes.length) :=
        enclosed.congr rfl rfl
      exact (noted.countBytes _ bytes).writeBytes _ task bytes io
  | complete task error io =>
      exact ((enclosed.finish _ error io).callOutcome _ error).releaseTask _ task

theorem register (key : String) : Enclosed inside files (world.register key) := by
  have made : Enclosed inside files (world.modify world.downLoaderCount fun _ => {}) :=
    enclosed.modify nofun nofun nofun
  exact made.congr rfl rfl

theorem settle (response : NSHTTPURLResponse) (io : LocalIO) :
    Enclosed inside files (proceed world (.settle loader task response io)).1 := by
  simp only [proceed]
  split_ifs
  · exact (enclosed.moveTmp loader io).setState loader _
  · exact ((enclosed.removeTmp loader).answer task _).downLoadWithURLOffset loader _ _
  · exact (enclosed.openStream loader io).setState loader _

theorem proceed (frame : Frame) : Enclosed inside files (proceed world frame).1 := by
  cases frame with
  | settle loader task response io => exact enclosed.settle loader task response io
  | answer task phase => exact enclosed.answer task phase
  | write loader task bytes io => exact enclosed.writeBytes loader task bytes io
  | outcome loader task error => exact enclosed.callOutcome loader error
  | release loader task => exact enclosed.releaseTask loader task
  | announceCached loader => exact enclosed.setState loader _
  | succeed loader => exact enclosed.callSuccess loader
  | pauseRest loaders =>
      cases loaders with
      | nil => exact enclosed
      | cons loader rest => exact enclosed.switch loader _ _ _
  | resumeRest loaders =>
      cases loaders with
      | nil => exact enclosed
      | cons loader rest => exact enclosed.switch loader _ _ _
  | nothing => exact enclosed

theorem enter (event : DelegateEvent) : Enclosed inside files (enter world event).1 := by
  cases event with
  | response task response io =>
      have noted : Enclosed inside files (world.noteReply task response) :=
        enclosed.congr rfl rfl
      exact noted.readResponse _ response
  | data task bytes io =>
      have noted : Enclosed inside files (world.noteReceived task bytes.length) :=
        enclosed.congr rfl rfl
      exact noted.countBytes _ bytes
  | complete task error io => exact enclosed.finish _ error io

theorem invoke {digest : MessageDigest} {call : ManagerCall}
    (given : ∀ url blocks, call = .downLoad url blocks →
      inside (url.tmpPath digest) ∧ inside url.cachePath) :
    Enclosed inside files (invoke digest world call).1 := by
  cases call with
  | downLoad url blocks =>
      rcases given url blocks rfl with ⟨tmp, cache⟩
      simp only [ZFBaseFramework.invoke]
      split
      · exact enclosed.switch _ _ _ _
      · split_ifs
        · have assigned : Enclosed inside files ((world.register (url.key digest)).assignBlocks
              world.downLoaderCount (blocks.wrap (url.key digest))) := by
            apply (enclosed.register (url.key digest)).modify_plain
            exact fun _ => ⟨rfl, rfl, rfl⟩
          exact (assigned.assignPaths _ tmp cache).callInfo _ _ _
        · exact (enclosed.register _).downLoadWithURLBlocks _ tmp cache _
  | pause url =>
      simp only [ZFBaseFramework.invoke]
      split
      · exact enclosed.switch _ _ _ _
      · exact enclosed
  | resume url =>
      simp only [ZFBaseFramework.invoke]
      split
      · exact enclosed.switch _ _ _ _
      · exact enclosed
  | cancel url => exact send_induction enclosed url fun loader _ => enclosed.cancel loader
  | pauseAll => exact enclosed
  | resumeAll => exact enclosed
  | cancelAll =>
      apply sendAll_induction enclosed
      exact fun _ loader enclosed => enclosed.cancel loader

theorem kill : Enclosed inside files world.kill := ⟨enclosed.files, nofun, nofun, nofun⟩

end Enclosed

theorem enclosed_launch (inside : Path → Prop) (files : FileSystem Path) :
    Enclosed inside files (launch files) :=
  ⟨.refl _ _, nofun, nofun, nofun⟩

section Runs

variable {digest : MessageDigest} {files : FileSystem Path} {path : Path}

theorem NSURL.owns_paths (digest : MessageDigest) (url : NSURL) :
    url.Owns digest (url.tmpPath digest) ∧ url.Owns digest url.cachePath :=
  ⟨Or.inl (Path.below_self _), Or.inr (Or.inl (Path.below_self _))⟩

/-- The database of the SQLite tool for a user. -/
def personsPath : Path := cachePath.appendingPathComponent "Persons.db"

/-- A container with the user's database. -/
def personsContainer : FileSystem Path := emptyContainer.put personsPath (.file [83, 81, 76])

end Runs

end ZFBaseFramework
