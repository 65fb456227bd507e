import ZFBaseFramework.DownLoader.Response

/-!
# The methods of `ZFDownLoader`

Each method is a function on the world, written from the pieces between two calls
of a client block: a block may call back into the framework, so these pieces are
also what `Manager.Reentrancy` interleaves. The second half of the file is the
delegate: `World.deliver` hands an event of a task to the downloader that created
the task's session, around the bookkeeping of the session itself.
-/

namespace ZFBaseFramework

open ZFFileManagerTool

namespace World

/-- `setState:` -/
def setState (world : World) (loader : DownLoaderId) (state : ZFDownLoaderState) : World :=
  (world.modify loader fun fields => { fields with state }).record
    (.state loader (world.downLoaders loader).dloadStateChange state)

/-- The guarded call of `dloadInfo`. -/
def callInfo (world : World) (loader : DownLoaderId) (fileSize : ℤ) (progress : CGFloat) : World :=
  world.record (.info loader (world.downLoaders loader).dloadInfo fileSize progress)

/-- `setProgress:` -/
def setProgress (world : World) (loader : DownLoaderId) (progress : CGFloat) : World :=
  (world.modify loader fun fields => { fields with progress }).callInfo loader
    (world.downLoaders loader).totalSize progress

/-- The dictionary without the key that a completion block removes. -/
def withoutKey (infos : AList fun _ : String => DownLoaderId) (block : Option CompletionBlock) :
    AList fun _ : String => DownLoaderId :=
  match block.bind CompletionBlock.registryKey with
  | none => infos
  | some key => infos.erase key

/-- `[downLoaderInfos removeObjectForKey:]`, as the manager's completion blocks do it. -/
def removeRegistered (world : World) (block : Option CompletionBlock) : World :=
  world.withInfos (withoutKey world.downLoaderInfos block)

/-- The guarded call of `dloadSuccess`. -/
def callSuccess (world : World) (loader : DownLoaderId) : World :=
  (world.removeRegistered (world.downLoaders loader).dloadSuccess).record
    (.success loader (world.downLoaders loader).dloadSuccess
      (world.downLoaders loader).downLoadCachePath)

/-- The guarded call of `dlFail`. -/
def callFail (world : World) (loader : DownLoaderId) : World :=
  (world.removeRegistered (world.downLoaders loader).dlFail).record
    (.fail loader (world.downLoaders loader).dlFail)

/-- The session that `-session` returns. -/
def sessionOf (world : World) (loader : DownLoaderId) : SessionId :=
  (world.downLoaders loader).session.getD world.sessionCount

/-- `-session` creates a session where there is none. -/
def openSession (world : World) (loader : DownLoaderId) : World :=
  (world.modify loader fun fields =>
    { fields with session := some (world.sessionOf loader) }).withSessionCount
      (if (world.downLoaders loader).session.isSome then world.sessionCount
       else world.sessionCount + 1)

/-- `suspend` and `resume` of `NSURLSessionTask`, sent to `self.task`. -/
def setSuspended (world : World) (loader : DownLoaderId) (suspended : Bool) : World :=
  world.mapTasks fun task record =>
    if (world.downLoaders loader).task = some task then { record with suspended } else record

/-- In the state `source` the task is switched and the state `target` announced; in any
other state nothing happens. -/
def switch (world : World) (loader : DownLoaderId) (source target : ZFDownLoaderState)
    (suspended : Bool) : World :=
  if (world.downLoaders loader).state = source then
    (world.setSuspended loader suspended).setState loader target
  else world

/-- `resume` -/
def resume (world : World) (loader : DownLoaderId) : World :=
  world.switch loader .pause .downing false

/-- `pause` -/
def pause (world : World) (loader : DownLoaderId) : World :=
  world.switch loader .downing .pause true

/-- `cancel`: `invalidateAndCancel` reaches the outstanding tasks of the session. -/
def cancel (world : World) (loader : DownLoaderId) : World :=
  ((world.openSession loader).mapTasks fun _ record =>
    if record.session = world.sessionOf loader ∧ record.phase ≠ .ended then
      { record with cancelled := true }
    else record).modify loader fun fields => { fields with session := none }

/-- `cancelAndClearCache` -/
def cancelAndClearCache (world : World) (loader : DownLoaderId) : World :=
  let cancelled := world.cancel loader
  cancelled.withFiles
    (removeFileAtPath cancelled.files (cancelled.downLoaders loader).downLoadCachePath)

/-- `downLoadWithURL:offset:` -/
def downLoadWithURLOffset (world : World) (loader : DownLoaderId) (url : NSURL) (offset : ℕ) :
    World :=
  (((world.openSession loader).addTask
    { originalURL := url, offset, session := world.sessionOf loader, delegate := loader }).modify
      loader fun fields => { fields with task := some world.taskCount }).record
        (.requested loader world.taskCount url offset)

/-- `self.task.originalRequest.URL` -/
def taskURL (world : World) (loader : DownLoaderId) : Option NSURL :=
  ((world.downLoaders loader).task.bind world.tasks).map DataTask.originalURL

/-- The paths of a download. -/
def assignPaths (digest : MessageDigest) (world : World) (loader : DownLoaderId) (url : NSURL) :
    World :=
  (world.modify loader fun fields =>
    { fields with
      downLoadCachePath := some url.cachePath
      downLoadTmpPath := some (url.tmpPath digest) }).record (.called loader url)

/-- The first report about a file that is already at the cache path. -/
def reportCached (world : World) (loader : DownLoaderId) (url : NSURL) : World :=
  world.callInfo loader (fileTotalSize world.files (some url.cachePath)) 1

/-- The tail of `downLoadWithURL:`, which resumes from the bytes in the tmp file. -/
def startFromTmp (world : World) (loader : DownLoaderId) (url : NSURL) : World :=
  let size := fileTotalSize world.files (world.downLoaders loader).downLoadTmpPath
  ((world.cancel loader).modify loader fun fields =>
    { fields with tmpSize := size }).downLoadWithURLOffset loader url size

/-- `downLoadWithURL:` -/
def downLoadWithURL (digest : MessageDigest) (world : World) (loader : DownLoaderId)
    (url : NSURL) : World :=
  let named := world.assignPaths digest loader url
  if isFileExists named.files (some url.cachePath) then
    ((named.reportCached loader url).setState loader .success).callSuccess loader
  else if named.taskURL loader = some url ∧ (world.downLoaders loader).state = .downing then
    named
  else if named.taskURL loader = some url ∧ (world.downLoaders loader).state = .pause then
    named.resume loader
  else
    named.startFromTmp loader url

/-- The blocks of a download call. -/
structure DownLoadBlocks where
  downLoadInfo : Option BlockId
  stateChange : Option BlockId
  success : Option CompletionBlock
  fail : Option CompletionBlock
  deriving DecidableEq, Repr

/-- The blocks of a call replace those of the call before. -/
def assignBlocks (world : World) (loader : DownLoaderId) (blocks : DownLoadBlocks) : World :=
  world.modify loader fun fields =>
    { fields with
      dloadInfo := blocks.downLoadInfo
      dloadStateChange := blocks.stateChange
      dloadSuccess := blocks.success
      dlFail := blocks.fail }

/-- `downLoadWithURL:downLoadInfo:downLoadStateChange:downLoadSuccess:downLoadFail:` -/
def downLoadWithURLBlocks (digest : MessageDigest) (world : World) (loader : DownLoaderId)
    (url : NSURL) (blocks : DownLoadBlocks) : World :=
  (world.assignBlocks loader blocks).downLoadWithURL digest loader url

/-- `moveFile:toPath:` from the tmp path to the cache path. -/
def moveTmp (world : World) (loader : DownLoaderId) (io : LocalIO) : World :=
  let source := (world.downLoaders loader).downLoadTmpPath
  let target := (world.downLoaders loader).downLoadCachePath
  (world.withFiles (if io.moves then moveFile world.files source target else world.files)).recordIf
    (io.moves ∧ CanMove world.files source target) (.placed loader target)

/-- `removeFileAtPath:` on the tmp path. -/
def removeTmp (world : World) (loader : DownLoaderId) : World :=
  let path := (world.downLoaders loader).downLoadTmpPath
  (world.withFiles (removeFileAtPath world.files path)).recordIf
    (isFileExists world.files path) (.removed loader path)

/-- The output stream on the tmp path, opened for appending. -/
def openStream (world : World) (loader : DownLoaderId) (io : LocalIO) : World :=
  let path := (world.downLoaders loader).downLoadTmpPath
  let opened := NSOutputStream.openAppending world.files path io
  (world.modify loader fun fields => { fields with outputSream := some opened.2 }).withFiles
    opened.1

/-- `[self.outputSream close]` and the release of the stream. -/
def closeStream (world : World) (loader : DownLoaderId) : World :=
  world.modify loader fun fields => { fields with outputSream := none }

/-- `write:maxLength:`, whose result is dropped. -/
def writeBytes (world : World) (loader : DownLoaderId) (task : TaskId) (bytes : List UInt8)
    (io : LocalIO) : World :=
  match (world.downLoaders loader).streamNode with
  | none => world
  | some node =>
      (world.withFiles (world.files.append node (io.taken bytes))).record
        (.appended loader task (io.taken bytes))

/-- `completionHandler(NSURLSessionResponseAllow)`, or `…Cancel` for a refused response. -/
def answer (world : World) (task : TaskId) (phase : TaskPhase) : World :=
  world.mapTask task fun record => { record with phase }

/-- The start of `didReceiveResponse`: the total is read and reported. -/
def readResponse (world : World) (loader : DownLoaderId) (response : NSHTTPURLResponse) : World :=
  (world.modify loader fun fields => { fields with totalSize := response.totalSize }).callInfo
    loader response.totalSize 0

/-- The rest of `didReceiveResponse`, which compares the two sizes. -/
def settleResponse (world : World) (loader : DownLoaderId) (task : TaskId)
    (response : NSHTTPURLResponse) (io : LocalIO) : World :=
  if ((world.downLoaders loader).tmpSize : ℤ) = (world.downLoaders loader).totalSize then
    ((world.moveTmp loader io).setState loader .success).answer task .refused
  else if (world.downLoaders loader).totalSize < (world.downLoaders loader).tmpSize then
    ((world.removeTmp loader).answer task .refused).downLoadWithURLOffset loader response.url 0
  else
    ((world.openStream loader io).setState loader .downing).answer task .allowed

/-- `URLSession:dataTask:didReceiveResponse:completionHandler:` -/
def didReceiveResponse (world : World) (loader : DownLoaderId) (task : TaskId)
    (response : NSHTTPURLResponse) (io : LocalIO) : World :=
  (world.readResponse loader response).settleResponse loader task response io

/-- The start of `didReceiveData`: the bytes are counted and reported. -/
def countBytes (world : World) (loader : DownLoaderId) (bytes : List UInt8) : World :=
  let size := (world.downLoaders loader).tmpSize + bytes.length
  (world.modify loader fun fields => { fields with tmpSize := size }).setProgress loader
    (.quotient size (world.downLoaders loader).totalSize)

/-- `URLSession:dataTask:didReceiveData:` -/
def didReceiveData (world : World) (loader : DownLoaderId) (task : TaskId) (bytes : List UInt8)
    (io : LocalIO) : World :=
  (world.countBytes loader bytes).writeBytes loader task bytes io

/-- `didCompleteWithError` up to the announcement of the final state. -/
def finish (world : World) (loader : DownLoaderId) (error : Option NSError) (io : LocalIO) :
    World :=
  match error with
  | none => ((world.closeStream loader).moveTmp loader io).setState loader .success
  | some _ => (world.closeStream loader).setState loader .fail

/-- The block that `didCompleteWithError` calls last. -/
def callOutcome (world : World) (loader : DownLoaderId) (error : Option NSError) : World :=
  match error with
  | none => world.callSuccess loader
  | some _ => world.callFail loader

/-- `URLSession:task:didCompleteWithError:` -/
def didCompleteWithError (world : World) (loader : DownLoaderId) (error : Option NSError)
    (io : LocalIO) : World :=
  (world.finish loader error io).callOutcome loader error

/-- The session keeps the reply of a task. -/
def noteReply (world : World) (task : TaskId) (response : NSHTTPURLResponse) : World :=
  world.mapTask task fun record => { record with reply := some response }

/-- The session counts the body bytes it delivers. -/
def noteReceived (world : World) (task : TaskId) (count : ℕ) : World :=
  world.mapTask task fun record => { record with received := record.received + count }

/-- The session lets go of a task, and the weak reference to it becomes nil. -/
def releaseTask (world : World) (loader : DownLoaderId) (task : TaskId) : World :=
  (world.answer task .ended).modify loader fun fields =>
    { fields with task := if fields.task = some task then none else fields.task }

end World

/-- The events by which a session drives its delegate. -/
inductive DelegateEvent where
  | response (task : TaskId) (response : NSHTTPURLResponse) (io : LocalIO)
  | data (task : TaskId) (bytes : List UInt8) (io : LocalIO)
  | complete (task : TaskId) (error : Option NSError) (io : LocalIO)
  deriving DecidableEq

namespace DelegateEvent

/-- The task an event is about. -/
def task : DelegateEvent → TaskId
  | .response task _ _ => task
  | .data task _ _ => task
  | .complete task _ _ => task

/-- The local results an event meets. -/
def io : DelegateEvent → LocalIO
  | .response _ _ io => io
  | .data _ _ io => io
  | .complete _ _ io => io

end DelegateEvent

namespace World

/-- What a session may deliver: one response, body bytes once the response was
allowed, and one completion event, without an error only for an allowed body. A task
that was cancelled or suspended may still deliver what was queued before. -/
def Deliverable (world : World) : DelegateEvent → Prop
  | .response task _ _ => world.phaseOf task = some .waiting
  | .data task _ _ => world.phaseOf task = some .allowed
  | .complete task none _ => world.phaseOf task = some .allowed
  | .complete task (some _) _ => ∃ phase, world.phaseOf task = some phase ∧ phase ≠ .ended

instance decidableDeliverable (world : World) : ∀ event, Decidable (world.Deliverable event)
  | .response task _ _ => inferInstanceAs (Decidable (world.phaseOf task = some .waiting))
  | .data task _ _ => inferInstanceAs (Decidable (world.phaseOf task = some .allowed))
  | .complete task none _ => inferInstanceAs (Decidable (world.phaseOf task = some .allowed))
  | .complete task (some _) _ =>
      match phase : world.phaseOf task with
      | none => isFalse (by simp [Deliverable, phase])
      | some .ended => isFalse (by simp [Deliverable, phase])
      | some .waiting => isTrue ⟨_, phase, by decide⟩
      | some .allowed => isTrue ⟨_, phase, by decide⟩
      | some .refused => isTrue ⟨_, phase, by decide⟩

/-- The delegate of the session a task belongs to. -/
def delegateOf (world : World) (task : TaskId) : DownLoaderId :=
  ((world.tasks task).map DataTask.delegate).getD 0

/-- Deliver an event to the delegate of its task. -/
def deliver (world : World) : DelegateEvent → World
  | .response task response io =>
      (world.noteReply task response).didReceiveResponse (world.delegateOf task) task response io
  | .data task bytes io =>
      (world.noteReceived task bytes.length).didReceiveData (world.delegateOf task) task bytes io
  | .complete task error io =>
      (world.didCompleteWithError (world.delegateOf task) error io).releaseTask
        (world.delegateOf task) task

end World

end ZFBaseFramework
