import ZFBaseFramework.DownLoader.Effects

/-!
# What the calls of the manager do

A download call either reaches a registered downloader or begins a download with a
fresh one, which finds the file cached or starts a task. Every call of the manager is
made of these and of the methods of single downloaders: `World.call_induction`.
-/

namespace ZFBaseFramework

open ZFFileManagerTool

namespace World

section Calls

variable {digest : MessageDigest} {world : World} {url : NSURL} {blocks : ClientBlocks}

theorem lookup_withoutKey (infos : AList fun _ : String => DownLoaderId)
    (block : Option CompletionBlock) (key : String) :
    (withoutKey infos block).lookup key =
      if block.bind CompletionBlock.registryKey = some key then none else infos.lookup key := by
  rw [withoutKey]
  cases held : block.bind CompletionBlock.registryKey with
  | none => simp
  | some other =>
      by_cases same : other = key
      · subst same
        simp
      · simp [same, AList.lookup_erase_ne (Ne.symm same)]

/-- The download that the manager begins for an unregistered URL. -/
def begin (digest : MessageDigest) (world : World) (url : NSURL) (blocks : ClientBlocks) : World :=
  (world.register (url.key digest)).downLoadWithURLBlocks digest world.downLoaderCount url
    (blocks.wrap (url.key digest))

theorem not_keeps_register (key : String) :
    ¬(world.register key).Keeps world.downLoaderCount url := by
  rintro ⟨_, same, _⟩
  simp [taskURL, register] at same

/-- The fields of a downloader whose URL was cached. -/
def cachedFields (digest : MessageDigest) (url : NSURL) (blocks : ClientBlocks) : ZFDownLoader :=
  { calledFields digest {} url (blocks.wrap (url.key digest)) with state := .success }

/-- A cached file is reported by a downloader that is registered only in between. -/
structure BeginsCached (digest : MessageDigest) (world : World) (url : NSURL)
    (blocks : ClientBlocks) (after : World) : Prop where
  downLoaders : after.downLoaders =
    Function.update world.downLoaders world.downLoaderCount (cachedFields digest url blocks)
  downLoaderCount : after.downLoaderCount = world.downLoaderCount + 1
  tasks : after.tasks = world.tasks
  taskCount : after.taskCount = world.taskCount
  lookup : ∀ key, after.downLoaderInfos.lookup key = world.downLoaderInfos.lookup key
  files : after.files = world.files
  log : after.log =
    [.success world.downLoaderCount (blocks.wrap (url.key digest)).success (some url.cachePath),
      .state world.downLoaderCount blocks.state .success,
      .info world.downLoaderCount blocks.progress
        (fileTotalSize world.files (some url.cachePath)) 1,
      .called world.downLoaderCount url] ++ world.log

variable (blocks) in
theorem begin_cached (unregistered : world.registered digest url = none)
    (occupied : world.files.Occupied url.cachePath) :
    BeginsCached digest world url blocks (world.begin digest url blocks) := by
  have occupied : (world.register (url.key digest)).files.Occupied url.cachePath := occupied
  constructor
  case downLoaders =>
    rw [begin, downLoaders_call_cached occupied]
    simp [register, cachedFields]
  case downLoaderCount => exact downLoaderCount_call_cached occupied
  case tasks => exact tasks_call_cached occupied
  case taskCount => exact taskCount_call_cached occupied
  case lookup =>
    intro key
    rw [begin, downLoaderInfos_call_cached occupied, lookup_withoutKey]
    by_cases same : url.key digest = key
    · subst same
      simpa [ClientBlocks.wrap, registered] using unregistered.symm
    · simp [ClientBlocks.wrap, register, same, AList.lookup_insert_ne (Ne.symm same)]
  case files => exact files_call_cached occupied
  case log => exact log_call_cached occupied

/-- The fields of a downloader that has begun a task. -/
@[simps]
def begunFields (digest : MessageDigest) (world : World) (url : NSURL) (blocks : ClientBlocks) :
    ZFDownLoader :=
  { calledFields digest {} url (blocks.wrap (url.key digest)) with
    session := some (world.sessionCount + 1)
    tmpSize := fileTotalSize world.files (some (url.tmpPath digest))
    task := some world.taskCount }

/-- The task that a download begins with. -/
@[simps]
def begunTask (digest : MessageDigest) (world : World) (url : NSURL) : DataTask where
  originalURL := url
  offset := fileTotalSize world.files (some (url.tmpPath digest))
  session := world.sessionCount + 1
  delegate := world.downLoaderCount

/-- A download starts with a task that asks for what the tmp file lacks. -/
structure BeginsTask (digest : MessageDigest) (world : World) (url : NSURL)
    (blocks : ClientBlocks) (after : World) : Prop where
  downLoaders : after.downLoaders =
    Function.update world.downLoaders world.downLoaderCount (begunFields digest world url blocks)
  downLoaderCount : after.downLoaderCount = world.downLoaderCount + 1
  tasks : after.tasks =
    Function.update ((world.register (url.key digest)).cancel world.downLoaderCount).tasks
      world.taskCount (some (begunTask digest world url))
  taskCount : after.taskCount = world.taskCount + 1
  lookup : ∀ key, after.downLoaderInfos.lookup key =
    if key = url.key digest then some world.downLoaderCount else world.downLoaderInfos.lookup key
  files : after.files = world.files
  log : after.log =
    [.requested world.downLoaderCount world.taskCount url
        (fileTotalSize world.files (some (url.tmpPath digest))),
      .called world.downLoaderCount url] ++ world.log

variable (digest blocks) in
theorem begin_task (free : ¬world.files.Occupied url.cachePath) :
    BeginsTask digest world url blocks (world.begin digest url blocks) := by
  have free : ¬(world.register (url.key digest)).files.Occupied url.cachePath := free
  have fresh : ¬(world.register (url.key digest)).Keeps world.downLoaderCount url :=
    not_keeps_register (url.key digest)
  constructor
  case downLoaders =>
    rw [begin, downLoaders_call_started free fresh]
    simp [register, startedFields, begunFields, freshSession]
  case downLoaderCount => exact downLoaderCount_call_started free fresh
  case tasks =>
    rw [begin, tasks_call_started free fresh]
    simp [register, startedTask, begunTask, freshSession]
  case taskCount => exact taskCount_call_started free fresh
  case lookup =>
    intro key
    rw [begin, downLoaderInfos_call_started free fresh]
    by_cases same : key = url.key digest
    · subst same
      simp [register]
    · simp [register, same, AList.lookup_insert_ne same]
  case files => exact files_call_started free fresh
  case log => exact log_call_started free fresh

theorem managerDownLoadWithURL_registered {loader : DownLoaderId}
    (registered : world.registered digest url = some loader) :
    world.managerDownLoadWithURL digest url blocks = world.resume loader := by
  simp [managerDownLoadWithURL, registered]

theorem managerDownLoadWithURL_unregistered (unregistered : world.registered digest url = none) :
    world.managerDownLoadWithURL digest url blocks = world.begin digest url blocks := by
  simp [managerDownLoadWithURL, unregistered, begin]

theorem send_induction {motive : World → Prop} (holds : motive world) (url : NSURL)
    {method : World → DownLoaderId → World}
    (preserved : ∀ loader, world.registered digest url = some loader →
      motive (method world loader)) : motive (world.send digest url method) := by
  rw [send]
  cases found : world.registered digest url with
  | none => exact holds
  | some loader => exact preserved loader found

theorem sendAll_induction {motive : World → Prop} (holds : motive world)
    {method : World → DownLoaderId → World}
    (preserved : ∀ world loader, motive world → motive (method world loader)) :
    motive (world.sendAll method) := by
  rw [sendAll]
  generalize world.downLoaderInfos.entries.map Sigma.snd = loaders
  induction loaders generalizing world with
  | nil => exact holds
  | cons loader rest ih => exact ih (preserved world loader holds)

/-- A call pauses, resumes or cancels downloaders one by one, or begins a download. -/
theorem call_induction {motive : World → Prop} {call : ManagerCall} (holds : motive world)
    (pause : ∀ world loader, motive world → motive (world.pause loader))
    (resume : ∀ world loader, motive world → motive (world.resume loader))
    (cancel : ∀ world loader, motive world → motive (world.cancel loader))
    (start : ∀ url blocks, call = .downLoad url blocks → world.registered digest url = none →
      motive (world.begin digest url blocks)) :
    motive (world.call digest call) := by
  cases call with
  | downLoad url blocks =>
      cases found : world.registered digest url with
      | none =>
          rw [World.call, managerDownLoadWithURL_unregistered found]
          exact start url blocks rfl found
      | some loader =>
          rw [World.call, managerDownLoadWithURL_registered found]
          exact resume world loader holds
  | pause url => exact send_induction holds url fun loader _ => pause world loader holds
  | resume url => exact send_induction holds url fun loader _ => resume world loader holds
  | cancel url => exact send_induction holds url fun loader _ => cancel world loader holds
  | pauseAll => exact sendAll_induction holds pause
  | resumeAll => exact sendAll_induction holds resume
  | cancelAll => exact sendAll_induction holds cancel

/-- Apart from a download that begins, a call has no effects but switches of state. -/
theorem call_without {kind : Effect → Prop} {call : ManagerCall}
    (pause : ∀ loader block, ¬kind (.state loader block .pause))
    (downing : ∀ loader block, ¬kind (.state loader block .downing))
    (start : ∀ url blocks, call = .downLoad url blocks → world.registered digest url = none →
      Without kind world (world.begin digest url blocks)) :
    Without kind world (world.call digest call) := by
  apply call_induction (motive := Without kind world) (.of_eq rfl) _ _ _ start
  · intro middle loader free
    exact free.trans (without_switch (pause loader))
  · intro middle loader free
    exact free.trans (without_switch (downing loader))
  · intro middle loader free
    exact free.trans (.of_eq log_cancel)

end Calls

end World

end ZFBaseFramework
