import ZFBaseFramework.Library.ActionSystem
import ZFBaseFramework.DownLoader.Operations

/-!
# `ZFDownLoaderManager`

The shared manager and the runs of the app around it. A run interleaves calls of
the manager, delegate events that the sessions may deliver, and kills of the app;
all of them happen on the main queue, one after another.
-/

namespace ZFBaseFramework

/-- The dictionary key of a URL. -/
def NSURL.key (digest : MessageDigest) (url : NSURL) : String :=
  md5Str digest url.absoluteString

/-- The blocks a client gives to the manager. -/
structure ClientBlocks where
  progress : Option BlockId
  state : Option BlockId
  success : Option BlockId
  fail : Option BlockId
  deriving DecidableEq, Repr

namespace ClientBlocks

/-- The blocks the manager passes on; its closures unregister the download first. -/
def wrap (blocks : ClientBlocks) (key : String) : World.DownLoadBlocks where
  downLoadInfo := blocks.progress
  stateChange := blocks.state
  success := some ⟨some key, blocks.success⟩
  fail := some ⟨some key, blocks.fail⟩

end ClientBlocks

namespace World

/-- `[[ZFDownLoader alloc] init]` stored under a key. -/
def register (world : World) (key : String) : World :=
  { world with
    downLoaders := Function.update world.downLoaders world.downLoaderCount {}
    downLoaderCount := world.downLoaderCount + 1
    downLoaderInfos := world.downLoaderInfos.insert key world.downLoaderCount }

/-- The manager's downloader of a URL. -/
def registered (digest : MessageDigest) (world : World) (url : NSURL) : Option DownLoaderId :=
  world.downLoaderInfos.lookup (url.key digest)

/-- A message to the downloader of a URL; without one it is a message to nil. -/
def send (digest : MessageDigest) (world : World) (url : NSURL)
    (method : World → DownLoaderId → World) : World :=
  match world.registered digest url with
  | none => world
  | some loader => method world loader

/-- `[[downLoaderInfos allValues] makeObjectsPerformSelector:]` -/
def sendAll (world : World) (method : World → DownLoaderId → World) : World :=
  (world.downLoaderInfos.entries.map Sigma.snd).foldl method world

/-- `downLoadWithURL:progress:state:success:fail:` of the manager. -/
def managerDownLoadWithURL (digest : MessageDigest) (world : World) (url : NSURL)
    (blocks : ClientBlocks) : World :=
  match world.registered digest url with
  | some loader => world.resume loader
  | none =>
      (world.register (url.key digest)).downLoadWithURLBlocks digest world.downLoaderCount url
        (blocks.wrap (url.key digest))

/-- The app is killed: its memory and its transfers are gone, the files stay. -/
def kill (world : World) : World :=
  { launch world.files with
    downLoaderCount := world.downLoaderCount
    tasks := fun task => (world.tasks task).map fun record => { record with phase := .ended }
    taskCount := world.taskCount
    sessionCount := world.sessionCount
    log := world.log }

end World

/-- The public methods of the manager. -/
inductive ManagerCall where
  | downLoad (url : NSURL) (blocks : ClientBlocks)
  | pause (url : NSURL)
  | resume (url : NSURL)
  | cancel (url : NSURL)
  | pauseAll
  | resumeAll
  | cancelAll
  deriving DecidableEq, Repr

/-- Perform a call of the manager. -/
def World.call (world : World) (digest : MessageDigest) : ManagerCall → World
  | .downLoad url blocks => world.managerDownLoadWithURL digest url blocks
  | .pause url => world.send digest url World.pause
  | .resume url => world.send digest url World.resume
  | .cancel url => world.send digest url World.cancel
  | .pauseAll => world.sendAll World.pause
  | .resumeAll => world.sendAll World.resume
  | .cancelAll => world.sendAll World.cancel

/-- What can happen next in a run of the app. -/
inductive ManagerAction where
  | call (call : ManagerCall)
  | deliver (event : DelegateEvent)
  | kill
  deriving DecidableEq

/-- The runs of the app. -/
def managerSystem (digest : MessageDigest) : ActionSystem World ManagerAction where
  Admits world
    | .deliver event => world.Deliverable event
    | _ => True
  perform world
    | .call call => world.call digest call
    | .deliver event => world.deliver event
    | .kill => world.kill

/-- The URL that the example app's view controller downloads. -/
def exampleURL : NSURL where
  absoluteString := "http://audio.xmcdn.com/group23/M06/5C/70/wKgJL1g0DVahoMhrAMJMkvfN17c025.m4a"
  lastPathComponent := "wKgJL1g0DVahoMhrAMJMkvfN17c025.m4a"

/-- The MD5 digest of `exampleURL`. -/
def exampleDigest : MessageDigest := fun _ =>
  #v[110, 139, 35, 145, 125, 51, 233, 68, 206, 131, 26, 100, 172, 72, 227, 8]

/-- A URL whose path is the root. -/
def rootURL : NSURL := ⟨"http://audio.xmcdn.com/", "/"⟩

/-- The MD5 digest of `rootURL`. -/
def rootDigest : MessageDigest := fun _ =>
  #v[113, 45, 140, 254, 200, 65, 243, 88, 4, 108, 59, 14, 55, 174, 116, 220]

/-- The four blocks that the example app passes. -/
def exampleBlocks : ClientBlocks := ⟨some 0, some 1, some 2, some 3⟩

/-- The example app right after it started its download over the given tmp bytes. -/
def exampleStart (bytes : List UInt8) : World :=
  (World.launch (ZFFileManagerTool.emptyContainer.put (exampleURL.tmpPath exampleDigest)
    (.file bytes))).call exampleDigest (.downLoad exampleURL exampleBlocks)

instance (digest : MessageDigest) (world : World) :
    ∀ action, Decidable ((managerSystem digest).Admits world action)
  | .call _ => isTrue trivial
  | .deliver event => inferInstanceAs (Decidable (world.Deliverable event))
  | .kill => isTrue trivial

end ZFBaseFramework
