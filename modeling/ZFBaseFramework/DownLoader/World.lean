import Mathlib.Data.List.AList
import Mathlib.Data.Rat.Defs
import ZFBaseFramework.Foundation.FileManagerTool

/-!
# The state of the downloader and of what it talks to

A `World` holds the file system, every `ZFDownLoader` and every data task that
was created, the manager's dictionary, and a log of what the code did towards the
outside, newest first. Downloaders, tasks, sessions and blocks are known by
number. The session side of a task (its phase, whether it is suspended or
cancelled, the reply it got, the body bytes delivered so far) is the bookkeeping
of `NSURLSession`; the code under `ZFDownLoaderFramework` never reads it.
-/

namespace ZFBaseFramework

abbrev DownLoaderId := ℕ
abbrev TaskId := ℕ
abbrev SessionId := ℕ
abbrev BlockId := ℕ

/-- `ZFDownLoaderState` -/
inductive ZFDownLoaderState where
  | unknown
  | pause
  | downing
  | success
  | fail
  deriving DecidableEq, Repr

/-- `NSHTTPURLResponse`, with the two header fields the code looks up. -/
structure NSHTTPURLResponse where
  url : NSURL
  statusCode : ℕ
  contentLength : Option String
  contentRange : Option String
  deriving DecidableEq, Repr

/-- The error of a completion event. -/
inductive NSError where
  | cancelled
  | transfer
  deriving DecidableEq, Repr

/-- A success or fail block as a downloader holds it. The manager's closure first
removes `registryKey` from its dictionary and then calls the client's block, if any. -/
structure CompletionBlock where
  registryKey : Option String
  client : Option BlockId
  deriving DecidableEq, Repr

/-- `NSOutputStream`; a stream that failed to open writes to no node. -/
structure NSOutputStream where
  node : Option ℕ
  deriving DecidableEq, Repr

/-- A `CGFloat` that a division gives, exact where it is finite. -/
inductive CGFloat where
  | finite (value : ℚ)
  | infinity
  | nan
  deriving DecidableEq, Repr

namespace CGFloat

instance : Zero CGFloat := ⟨.finite 0⟩

instance : One CGFloat := ⟨.finite 1⟩

/-- `(size * 1.0) / total` -/
def quotient (size : ℕ) (total : ℤ) : CGFloat :=
  if total ≠ 0 then .finite (size / total) else if size = 0 then .nan else .infinity

/-- Nothing is less than a NaN, and a NaN is less than nothing. -/
instance : LT CGFloat where
  lt
    | .finite first, .finite second => first < second
    | .finite _, .infinity => True
    | _, _ => False

instance : LE CGFloat where
  le
    | .finite first, .finite second => first ≤ second
    | .finite _, .infinity => True
    | .infinity, .infinity => True
    | _, _ => False

theorem quotient_eq_finite (size : ℕ) {total : ℤ} (stated : total ≠ 0) :
    quotient size total = .finite (size / total) := if_pos stated

end CGFloat

/-- The instance variables and properties of a `ZFDownLoader`. -/
structure ZFDownLoader where
  state : ZFDownLoaderState := .unknown
  progress : CGFloat := 0
  tmpSize : ℕ := 0
  totalSize : ℤ := 0
  dloadInfo : Option BlockId := none
  dloadStateChange : Option BlockId := none
  dloadSuccess : Option CompletionBlock := none
  dlFail : Option CompletionBlock := none
  downLoadCachePath : Option Path := none
  downLoadTmpPath : Option Path := none
  session : Option SessionId := none
  outputSream : Option NSOutputStream := none
  task : Option TaskId := none

/-- The node an open stream of the downloader writes to. -/
def ZFDownLoader.streamNode (fields : ZFDownLoader) : Option ℕ :=
  fields.outputSream.bind NSOutputStream.node

/-- Where a data task stands: its response is outstanding, was answered with
`NSURLSessionResponseAllow` or with `NSURLSessionResponseCancel`, or the task is over. -/
inductive TaskPhase where
  | waiting
  | allowed
  | refused
  | ended
  deriving DecidableEq, Repr

/-- A data task. `offset` is the first byte asked for by its `Range` header. -/
structure DataTask where
  originalURL : NSURL
  offset : ℕ
  session : SessionId
  delegate : DownLoaderId
  phase : TaskPhase := .waiting
  suspended : Bool := false
  cancelled : Bool := false
  reply : Option NSHTTPURLResponse := none
  received : ℕ := 0
  deriving DecidableEq

/-- What the code does towards the outside. The block of an entry is the one that was
called, if one was set. -/
inductive Effect where
  /-- `downLoadWithURL:` was entered. -/
  | called (loader : DownLoaderId) (url : NSURL)
  /-- A data task was created and resumed. -/
  | requested (loader : DownLoaderId) (task : TaskId) (url : NSURL) (offset : ℕ)
  /-- `dloadInfo(fileSize, progress)` -/
  | info (loader : DownLoaderId) (block : Option BlockId) (fileSize : ℤ) (progress : CGFloat)
  /-- `setState:` with its call of `dloadStateChange`. -/
  | state (loader : DownLoaderId) (block : Option BlockId) (state : ZFDownLoaderState)
  /-- `dloadSuccess(cachePath)` -/
  | success (loader : DownLoaderId) (block : Option CompletionBlock) (path : Option Path)
  /-- `dlFail()` -/
  | fail (loader : DownLoaderId) (block : Option CompletionBlock)
  /-- Bytes of a task's body reached the tmp file. -/
  | appended (loader : DownLoaderId) (task : TaskId) (bytes : List UInt8)
  /-- The tmp file was moved to the cache path. -/
  | placed (loader : DownLoaderId) (path : Option Path)
  /-- The tmp file was deleted. -/
  | removed (loader : DownLoaderId) (path : Option Path)
  deriving DecidableEq

/-- The local results of file and stream calls. -/
structure LocalIO where
  /-- Opening the output stream succeeds. -/
  opens : Bool
  /-- How many of the offered bytes a write takes; `none` takes them all. -/
  accepts : Option ℕ
  /-- The file system does not refuse a move to a free path, as it does where the directory of
  that path is missing. -/
  moves : Bool
  deriving DecidableEq, Repr

/-- No local failure. -/
def LocalIO.healthy : LocalIO := ⟨true, none, true⟩

/-- The bytes a write takes. -/
def LocalIO.taken (io : LocalIO) (bytes : List UInt8) : List UInt8 :=
  match io.accepts with
  | none => bytes
  | some count => bytes.take count

theorem LocalIO.taken_nil (io : LocalIO) : io.taken [] = [] := by
  unfold LocalIO.taken
  split
  · rfl
  · exact List.take_nil

/-- `outputStreamToFileAtPath:append:` with `open`: the file is created where there is none. -/
def NSOutputStream.openAppending (files : FileSystem Path) (path : Option Path) (io : LocalIO) :
    FileSystem Path × NSOutputStream :=
  match path with
  | none => (files, ⟨none⟩)
  | some path =>
      if io.opens then (files.touch path, ⟨(files.touch path).writable path⟩)
      else (files, ⟨none⟩)

/-- The app, the file system and the sessions. -/
structure World where
  files : FileSystem Path
  downLoaders : DownLoaderId → ZFDownLoader
  downLoaderCount : ℕ
  tasks : TaskId → Option DataTask
  taskCount : ℕ
  sessionCount : ℕ
  downLoaderInfos : AList fun _ : String => DownLoaderId
  log : List Effect

namespace World

/-- The app right after a launch with the given files. -/
def launch (files : FileSystem Path) : World where
  files := files
  downLoaders _ := {}
  downLoaderCount := 0
  tasks _ := none
  taskCount := 0
  sessionCount := 0
  downLoaderInfos := ∅
  log := []

/-- The phase of a task. -/
def phaseOf (world : World) (task : TaskId) : Option TaskPhase :=
  (world.tasks task).map DataTask.phase

/-- The task was created and its completion event has not been delivered. -/
def Live (world : World) (task : TaskId) : Prop :=
  ∃ record, world.tasks task = some record ∧ record.phase ≠ .ended

/-- Replace a downloader's fields. -/
@[simps -fullyApplied]
def modify (world : World) (loader : DownLoaderId) (change : ZFDownLoader → ZFDownLoader) :
    World :=
  { world with
    downLoaders := Function.update world.downLoaders loader (change (world.downLoaders loader)) }

/-- Replace the bookkeeping of tasks. -/
@[simps -fullyApplied]
def mapTasks (world : World) (change : TaskId → DataTask → DataTask) : World :=
  { world with tasks := fun task => (world.tasks task).map (change task) }

/-- Replace the bookkeeping of one task. -/
def mapTask (world : World) (task : TaskId) (change : DataTask → DataTask) : World :=
  world.mapTasks fun other record => if other = task then change record else record

/-- Add a task. -/
@[simps -fullyApplied]
def addTask (world : World) (record : DataTask) : World :=
  { world with
    tasks := Function.update world.tasks world.taskCount (some record)
    taskCount := world.taskCount + 1 }

/-- Replace the file system. -/
@[simps -fullyApplied]
def withFiles (world : World) (files : FileSystem Path) : World :=
  { world with files }

/-- Replace the manager's dictionary. -/
@[simps -fullyApplied]
def withInfos (world : World) (downLoaderInfos : AList fun _ : String => DownLoaderId) : World :=
  { world with downLoaderInfos }

/-- Replace the number of sessions. -/
@[simps -fullyApplied]
def withSessionCount (world : World) (sessionCount : ℕ) : World :=
  { world with sessionCount }

/-- Add an entry to the log. -/
@[simps -fullyApplied]
def record (world : World) (effect : Effect) : World :=
  { world with log := effect :: world.log }

/-- Add an entry to the log where the condition holds. -/
@[simps -fullyApplied]
def recordIf (world : World) (condition : Prop) [Decidable condition] (effect : Effect) : World :=
  { world with log := if condition then effect :: world.log else world.log }

theorem tasks_mapTask {world : World} {task : TaskId} {record : DataTask}
    (found : world.tasks task = some record) (change : DataTask → DataTask) :
    (world.mapTask task change).tasks =
      Function.update world.tasks task (some (change record)) := by
  funext other
  by_cases same : other = task
  · subst same
    simp [mapTask, found]
  · simp [mapTask, same]

theorem Live.exists {world : World} {task : TaskId} (live : world.Live task) :
    ∃ record, world.tasks task = some record := by
  rcases live with ⟨record, found, _⟩
  exact ⟨record, found⟩

end World

end ZFBaseFramework
