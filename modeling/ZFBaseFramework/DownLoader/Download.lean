import ZFBaseFramework.DownLoader.Effects

/-!
# One download of a fresh downloader

`begun` is a downloader right after its first download call, over arbitrary files,
and `downLoadSystem` is everything that can happen to it from then on. Its tasks
are numbered from zero, so the task of the call is task `0`.
-/

namespace ZFBaseFramework

open ZFFileManagerTool

/-- What can happen to a download after its call. -/
inductive DownLoadAction where
  | resume
  | pause
  | cancel
  | deliver (event : DelegateEvent)
  deriving DecidableEq

/-- The runs of one download. -/
def downLoadSystem : ActionSystem World DownLoadAction where
  Admits world
    | .deliver event => world.Deliverable event
    | _ => True
  perform world
    | .resume => world.resume 0
    | .pause => world.pause 0
    | .cancel => world.cancel 0
    | .deliver event => world.deliver event

instance (world : World) : ∀ action, Decidable (downLoadSystem.Admits world action)
  | .resume => isTrue trivial
  | .pause => isTrue trivial
  | .cancel => isTrue trivial
  | .deliver event => inferInstanceAs (Decidable (world.Deliverable event))

/-- A fresh downloader right after a download call. -/
def begun (digest : MessageDigest) (files : FileSystem Path) (url : NSURL)
    (blocks : World.DownLoadBlocks) : World :=
  (World.launch files).downLoadWithURLBlocks digest 0 url blocks

/-- The blocks of the example app, passed straight to a downloader. -/
def exampleDownLoadBlocks : World.DownLoadBlocks :=
  ⟨some 0, some 1, some ⟨none, some 2⟩, some ⟨none, some 3⟩⟩

/-- The example's download, begun over the given tmp bytes. -/
def exampleBegun (bytes : List UInt8) : World :=
  begun exampleDigest (emptyContainer.put (exampleURL.tmpPath exampleDigest) (.file bytes))
    exampleURL exampleDownLoadBlocks

section Begun

open World

variable {digest : MessageDigest} {files : FileSystem Path} {url : NSURL}
  {blocks : DownLoadBlocks}

theorem not_keeps_launch : ¬(launch files).Keeps 0 url := by
  rintro ⟨_, same, _⟩
  simp [taskURL, launch] at same

theorem files_begun : (begun digest files url blocks).files = files := by
  by_cases occupied : files.Occupied url.cachePath
  · exact files_call_cached occupied
  · exact files_call_started occupied not_keeps_launch

variable (digest blocks) in
theorem downLoaders_begun (free : ¬files.Occupied url.cachePath) :
    (begun digest files url blocks).downLoaders 0 =
      startedFields digest (launch files) 0 url blocks := by
  rw [begun, downLoaders_call_started free not_keeps_launch]
  simp

theorem tasks_begun (free : ¬files.Occupied url.cachePath) :
    (begun digest files url blocks).tasks =
      Function.update (fun _ => none) 0 (some (startedTask digest (launch files) 0 url)) := by
  rw [begun, tasks_call_started free not_keeps_launch, tasks_cancel]
  rfl

end Begun

end ZFBaseFramework
