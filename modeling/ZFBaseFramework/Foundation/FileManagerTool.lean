import Mathlib.Tactic
import ZFBaseFramework.Library.FileSystem

/-!
# Paths, MD5 names and the file tool

`NSURL`, the path arithmetic of Foundation that the downloader uses, the MD5 name
of a string (`NSString+ZFTool`) and `ZFFileManagerTool`. `CC_MD5` is a parameter:
a digest is any function from bytes to sixteen bytes.
-/

namespace ZFBaseFramework

/-- A URL, through the two accessors the code reads. -/
structure NSURL where
  absoluteString : String
  lastPathComponent : String
  deriving DecidableEq, Repr

/-- `CC_MD5`. -/
abbrev MessageDigest := List UInt8 → Vector UInt8 16

/-- One byte under the format `%02x`. -/
def hexByte (byte : UInt8) : List Char :=
  [Nat.digitChar (byte.toNat / 16), Nat.digitChar (byte.toNat % 16)]

/-- `-[NSString md5Str]`: the C string ends at the first zero byte. -/
def md5Str (digest : MessageDigest) (text : String) : String :=
  String.ofList ((digest (text.toUTF8.toList.takeWhile (· ≠ 0))).toList.flatMap hexByte)

/-- The directories of the app's container that the code writes to. -/
inductive Directory where
  | caches
  | tmp
  deriving DecidableEq, Repr

/-- A path below one of the container's directories. -/
structure Path where
  directory : Directory
  components : List String
  deriving DecidableEq, Repr

/-- `stringByAppendingPathComponent:`; an empty component and the root mark `/` that
`lastPathComponent` gives for the path `/` add nothing. Any other component is kept as it is
spelled: `.` and `..` are entries of every directory, and with a `/` inside it the path leads
through a further directory. -/
def Path.appendingPathComponent (path : Path) (component : String) : Path :=
  if component = "" ∨ component = "/" then path
  else { path with components := path.components ++ [component] }

namespace ZFFileManagerTool

/-- `+[ZFFileManagerTool cachePath]` -/
def cachePath : Path := ⟨.caches, []⟩

/-- `+[ZFFileManagerTool tmpPath]` -/
def tmpPath : Path := ⟨.tmp, []⟩

/-- `isFileExists:`; nothing exists at a nil path. -/
def isFileExists (files : FileSystem Path) : Option Path → Bool
  | none => false
  | some path => decide (files.Occupied path)

/-- `fileTotalSize:` -/
def fileTotalSize (files : FileSystem Path) : Option Path → ℕ
  | none => 0
  | some path => ((files.lookup path).map Item.size).getD 0

/-- The move of `moveFile:toPath:` can be carried out. -/
def CanMove (files : FileSystem Path) : Option Path → Option Path → Prop
  | some source, some target => files.Movable source target
  | _, _ => False

instance decidableCanMove (files : FileSystem Path) :
    ∀ source target, Decidable (CanMove files source target)
  | some source, some target => inferInstanceAs (Decidable (files.Movable source target))
  | none, _ => isFalse id
  | some _, none => isFalse id

/-- `moveFile:toPath:`; a move that cannot be carried out is ignored. -/
def moveFile (files : FileSystem Path) : Option Path → Option Path → FileSystem Path
  | some source, some target =>
      if files.Movable source target then files.move source target else files
  | _, _ => files

/-- `removeFileAtPath:` -/
def removeFileAtPath (files : FileSystem Path) : Option Path → FileSystem Path
  | none => files
  | some path => if files.Occupied path then files.remove path else files

/-- The container after installation: the two directories with nothing in them, and the entries
`.` and `..` of Caches, which are Caches itself and Library. -/
def emptyContainer : FileSystem Path :=
  FileSystem.ofList [(cachePath, .directory 64), (tmpPath, .directory 64),
    (cachePath.appendingPathComponent ".", .directory 64),
    (cachePath.appendingPathComponent "..", .directory 96)]

/-- Only an existing item has a size. -/
theorem isFileExists_of_size {files : FileSystem Path} {path : Option Path}
    (sized : fileTotalSize files path ≠ 0) : isFileExists files path = true := by
  cases path with
  | none => exact absurd rfl sized
  | some path =>
      cases found : files.lookup path with
      | none => simp [fileTotalSize, found] at sized
      | some item => simp [isFileExists, found]

/-- A move concerns its two paths only. -/
theorem moveFile_confined {files : FileSystem Path} {source target path : Path}
    (notSource : path ≠ source) (notTarget : path ≠ target) :
    (moveFile files (some source) (some target)).lookup path = files.lookup path ∧
      (moveFile files (some source) (some target)).node path = files.node path := by
  rw [moveFile]
  split
  · rw [FileSystem.lookup_move, if_neg notTarget, if_neg notSource]
    exact ⟨rfl, FileSystem.node_move_of_ne notSource notTarget⟩
  · exact ⟨rfl, rfl⟩

end ZFFileManagerTool

/-- Where a finished download of the URL is kept. -/
def NSURL.cachePath (url : NSURL) : Path :=
  ZFFileManagerTool.cachePath.appendingPathComponent url.lastPathComponent

/-- Where an unfinished download of the URL is kept. -/
def NSURL.tmpPath (digest : MessageDigest) (url : NSURL) : Path :=
  ZFFileManagerTool.tmpPath.appendingPathComponent (md5Str digest url.absoluteString)

@[simp]
theorem length_toList_md5Str (digest : MessageDigest) (text : String) :
    (md5Str digest text).toList.length = 32 := by
  have twice : ∀ bytes : List UInt8, (bytes.flatMap hexByte).length = 2 * bytes.length := by
    intro bytes
    induction bytes with
    | nil => rfl
    | cons byte rest ih =>
        simp only [List.flatMap_cons, List.length_append, List.length_cons, ih]
        simp [hexByte]
        omega
  rw [md5Str, String.toList_ofList, twice, Vector.length_toList]

/-- An MD5 name is a proper path component. -/
theorem md5Str_proper (digest : MessageDigest) (text : String) :
    ¬(md5Str digest text = "" ∨ md5Str digest text = "/") := by
  have len := length_toList_md5Str digest text
  rintro (empty | root)
  · rw [empty] at len
    simp at len
  · rw [root] at len
    simp at len

theorem NSURL.tmpPath_eq (digest : MessageDigest) (url : NSURL) :
    url.tmpPath digest = ⟨.tmp, [md5Str digest url.absoluteString]⟩ := by
  rw [NSURL.tmpPath, Path.appendingPathComponent, if_neg (md5Str_proper digest _)]
  rfl

theorem NSURL.tmpPath_inj {digest : MessageDigest} {first second : NSURL} :
    first.tmpPath digest = second.tmpPath digest ↔
      md5Str digest first.absoluteString = md5Str digest second.absoluteString := by
  simp [NSURL.tmpPath_eq]

@[simp]
theorem NSURL.directory_cachePath (url : NSURL) : url.cachePath.directory = .caches := by
  simp only [NSURL.cachePath, Path.appendingPathComponent]
  split <;> rfl

@[simp]
theorem NSURL.tmpPath_ne_cachePath (digest : MessageDigest) (url other : NSURL) :
    url.tmpPath digest ≠ other.cachePath := by
  intro same
  have directories := congrArg Path.directory same
  rw [NSURL.tmpPath_eq, NSURL.directory_cachePath] at directories
  cases directories

@[simp]
theorem NSURL.cachePath_ne_tmpPath (digest : MessageDigest) (url other : NSURL) :
    other.cachePath ≠ url.tmpPath digest :=
  (NSURL.tmpPath_ne_cachePath digest url other).symm

/-- A last path component that leads below the directory. -/
def NSURL.BelowCaches (url : NSURL) : Prop :=
  url.lastPathComponent ≠ "" ∧ url.lastPathComponent ≠ "/"

/-- A last path component that is the name of a file, also where it was decoded: it is neither
empty nor an entry of every directory, and leads through no further directory. -/
structure NSURL.NamesFile (url : NSURL) : Prop where
  nonempty : url.lastPathComponent ≠ ""
  notSelf : url.lastPathComponent ≠ "."
  notParent : url.lastPathComponent ≠ ".."
  single : '/' ∉ url.lastPathComponent.toList

theorem NSURL.NamesFile.belowCaches {url : NSURL} (names : url.NamesFile) : url.BelowCaches := by
  refine ⟨names.nonempty, ?_⟩
  intro root
  have single := names.single
  rw [root] at single
  exact single (by decide)

theorem NSURL.cachePath_eq {url : NSURL} (below : url.BelowCaches) :
    url.cachePath = ⟨.caches, [url.lastPathComponent]⟩ := by
  rw [NSURL.cachePath, Path.appendingPathComponent, if_neg (by
    rintro (empty | root)
    · exact below.1 empty
    · exact below.2 root)]
  rfl

theorem NSURL.cachePath_ne_of_names {first second : NSURL} (below : first.BelowCaches)
    (secondBelow : second.BelowCaches)
    (different : first.lastPathComponent ≠ second.lastPathComponent) :
    first.cachePath ≠ second.cachePath := by
  rw [NSURL.cachePath_eq below, NSURL.cachePath_eq secondBelow]
  simpa using different

theorem lookup_tmpPath_emptyContainer (digest : MessageDigest) (url : NSURL) :
    ZFFileManagerTool.emptyContainer.lookup (url.tmpPath digest) = none := by
  simp [ZFFileManagerTool.emptyContainer, FileSystem.ofList, FileSystem.lookup_put,
    NSURL.tmpPath_eq, ZFFileManagerTool.cachePath, ZFFileManagerTool.tmpPath,
    Path.appendingPathComponent]

/-- Nothing is there yet under the name of a file. -/
theorem lookup_cachePath_emptyContainer {url : NSURL} (names : url.NamesFile) :
    ZFFileManagerTool.emptyContainer.lookup url.cachePath = none := by
  simp [ZFFileManagerTool.emptyContainer, FileSystem.ofList, FileSystem.lookup_put,
    NSURL.cachePath_eq names.belowCaches, ZFFileManagerTool.cachePath, ZFFileManagerTool.tmpPath,
    Path.appendingPathComponent, names.notSelf, names.notParent]

end ZFBaseFramework
