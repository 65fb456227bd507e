import ZFBaseFramework.Manager.Ownership

/-!
# The dictionary and the live tasks

As long as no response makes a downloader restart, the dictionary and the live tasks
mirror each other: `run_registryFaithful`. A restart leaves two live tasks behind one
entry, and the completion event of the first one removes it.
-/

namespace ZFBaseFramework

open ZFFileManagerTool World

/-- The dictionary tells who downloads what. -/
structure RegistryFaithful (digest : MessageDigest) (used : Set NSURL) (world : World) : Prop where
  /-- A URL has at most one live task. -/
  unique : ∀ {first second firstRecord secondRecord},
    world.tasks first = some firstRecord → firstRecord.phase ≠ .ended →
    world.tasks second = some secondRecord → secondRecord.phase ≠ .ended →
    firstRecord.originalURL = secondRecord.originalURL → first = second
  /-- A URL has an entry exactly if it has a live task, and the entry is its owner. -/
  owner : ∀ url ∈ used, ∀ loader, world.registered digest url = some loader ↔
    ∃ task record, world.tasks task = some record ∧ record.phase ≠ .ended ∧
      record.originalURL = url ∧ record.delegate = loader
  /-- No two live tasks append to one tmp file. -/
  writers : ∀ {first second firstRecord secondRecord},
    world.tasks first = some firstRecord → firstRecord.phase ≠ .ended →
    world.tasks second = some secondRecord → secondRecord.phase ≠ .ended →
    (world.downLoaders firstRecord.delegate).downLoadTmpPath =
      (world.downLoaders secondRecord.delegate).downLoadTmpPath → first = second

/-- Only these URLs are downloaded. -/
def Uses (used : Set NSURL) : ManagerAction → Prop
  | .call (.downLoad url _) => url ∈ used
  | _ => True

/-- The response is not shorter than the tmp file, so that it causes no restart. -/
def Restartless (world : World) : ManagerAction → Prop
  | .deliver (.response task response _) =>
      ((world.downLoaders (world.delegateOf task)).tmpSize : ℤ) ≤ response.totalSize
  | _ => True

instance (world : World) : ∀ action, Decidable (Restartless world action)
  | .call _ => isTrue trivial
  | .kill => isTrue trivial
  | .deliver (.data _ _ _) => isTrue trivial
  | .deliver (.complete _ _ _) => isTrue trivial
  | .deliver (.response task response _) =>
      inferInstanceAs (Decidable
        (((world.downLoaders (world.delegateOf task)).tmpSize : ℤ) ≤ response.totalSize))

/-- Every live task is the current task of the downloader registered for its URL, and every
entry leads to such a task. -/
structure Faithful (digest : MessageDigest) (used : Set NSURL) (world : World) : Prop where
  live : ∀ {task record}, world.tasks task = some record → record.phase ≠ .ended →
    record.originalURL ∈ used ∧
      world.registered digest record.originalURL = some record.delegate ∧
      (world.downLoaders record.delegate).task = some task ∧
      (world.downLoaders record.delegate).downLoadTmpPath =
        some (record.originalURL.tmpPath digest)
  entry : ∀ {key loader}, world.downLoaderInfos.lookup key = some loader →
    ∃ task record, world.tasks task = some record ∧ record.phase ≠ .ended ∧
      record.originalURL.key digest = key ∧ record.delegate = loader

section Steps

variable {digest : MessageDigest} {used : Set NSURL} {world after : World} {task : TaskId}
  {record changed : DataTask} {fields : ZFDownLoader}

theorem Faithful.registryFaithful (faithful : Faithful digest used world)
    (injective : used.InjOn (NSURL.key digest)) : RegistryFaithful digest used world := by
  have unique : ∀ {first second firstRecord secondRecord},
      world.tasks first = some firstRecord → firstRecord.phase ≠ .ended →
      world.tasks second = some secondRecord → secondRecord.phase ≠ .ended →
      firstRecord.originalURL = secondRecord.originalURL → first = second := by
    intro first second firstRecord secondRecord firstFound firstLive secondFound secondLive same
    rcases faithful.live firstFound firstLive with ⟨_, firstRegistered, firstCurrent, _⟩
    rcases faithful.live secondFound secondLive with ⟨_, secondRegistered, secondCurrent, _⟩
    rw [same, secondRegistered, Option.some.injEq] at firstRegistered
    rw [← firstRegistered, secondCurrent, Option.some.injEq] at firstCurrent
    exact firstCurrent.symm
  refine ⟨unique, ?_, ?_⟩
  · intro url usedURL loader
    constructor
    · intro registered
      rcases faithful.entry registered with ⟨task, record, found, unfinished, key, delegate⟩
      exact ⟨task, record, found, unfinished,
        injective (faithful.live found unfinished).1 usedURL key, delegate⟩
    · rintro ⟨task, record, found, unfinished, rfl, rfl⟩
      exact (faithful.live found unfinished).2.1
  · intro first second firstRecord secondRecord firstFound firstLive secondFound secondLive same
    rcases faithful.live firstFound firstLive with ⟨firstUsed, _, _, firstPath⟩
    rcases faithful.live secondFound secondLive with ⟨secondUsed, _, _, secondPath⟩
    rw [firstPath, secondPath, Option.some.injEq, NSURL.tmpPath_inj] at same
    exact unique firstFound firstLive secondFound secondLive
      (injective firstUsed secondUsed same)

theorem faithful_launch (digest : MessageDigest) (used : Set NSURL) (files : FileSystem Path) :
    Faithful digest used (launch files) where
  live := nofun
  entry := nofun

namespace Faithful

theorem of_sameTransfers (faithful : Faithful digest used world)
    (same : SameTransfers world after) : Faithful digest used after := by
  constructor
  · intro task record found unfinished
    rcases DataTask.exists_of_unflagged (same.tasks task) found with ⟨before, foundBefore, agree⟩
    rcases same.downLoaders record.delegate with ⟨state, session, fields⟩
    have live := faithful.live foundBefore (DataTask.phase_eq agree ▸ unfinished)
    rw [DataTask.delegate_eq agree, DataTask.originalURL_eq agree] at live
    rwa [registered, same.downLoaderInfos, fields]
  · intro key loader found
    rw [same.downLoaderInfos] at found
    rcases faithful.entry found with ⟨task, record, foundBefore, unfinished, keyed, delegate⟩
    rcases DataTask.exists_of_unflagged (same.tasks task).symm foundBefore with
      ⟨later, foundAfter, agree⟩
    refine ⟨task, later, foundAfter, ?_, ?_, ?_⟩
    · rwa [DataTask.phase_eq agree]
    · rwa [DataTask.originalURL_eq agree]
    · rwa [DataTask.delegate_eq agree]

theorem switch (faithful : Faithful digest used world) (loader : DownLoaderId)
    (source target : ZFDownLoaderState) (suspended : Bool) :
    Faithful digest used (world.switch loader source target suspended) :=
  faithful.of_sameTransfers (sameTransfers_switch world loader source target suspended)

theorem cancel (faithful : Faithful digest used world) (loader : DownLoaderId) :
    Faithful digest used (world.cancel loader) :=
  faithful.of_sameTransfers (sameTransfers_cancel world loader)

/-- A step that touches only a downloader and its current task, which stays live. -/
theorem of_touches (faithful : Faithful digest used world)
    (found : world.tasks task = some record) (unfinished : record.phase ≠ .ended)
    (touches : world.Touches after record.delegate fields task changed)
    (delegate : changed.delegate = record.delegate)
    (url : changed.originalURL = record.originalURL) (live : changed.phase ≠ .ended)
    (current : fields.task = (world.downLoaders record.delegate).task)
    (tmpPath : fields.downLoadTmpPath = (world.downLoaders record.delegate).downLoadTmpPath)
    (infos : after.downLoaderInfos = world.downLoaderInfos) : Faithful digest used after := by
  have currentAfter : ∀ loader,
      (after.downLoaders loader).task = (world.downLoaders loader).task := by
    rw [touches.downLoaders]
    exact field_update ZFDownLoader.task current
  have tmpPathAfter : ∀ loader, (after.downLoaders loader).downLoadTmpPath =
      (world.downLoaders loader).downLoadTmpPath := by
    rw [touches.downLoaders]
    exact field_update ZFDownLoader.downLoadTmpPath tmpPath
  constructor
  · intro other otherRecord otherFound otherLive
    rw [registered, infos, currentAfter, tmpPathAfter]
    by_cases same : other = task
    · subst same
      rw [touches.tasks, Function.update_self, Option.some.injEq] at otherFound
      subst otherFound
      rw [delegate, url]
      exact faithful.live found unfinished
    · rw [touches.tasks, Function.update_of_ne same] at otherFound
      exact faithful.live otherFound otherLive
  · intro key loader registered
    rw [infos] at registered
    rcases faithful.entry registered with ⟨other, otherRecord, otherFound, otherLive, keyed, owner⟩
    by_cases same : other = task
    · subst same
      cases found.symm.trans otherFound
      refine ⟨other, changed, ?_, live, ?_, ?_⟩
      · rw [touches.tasks, Function.update_self]
      · rwa [url]
      · rwa [delegate]
    · refine ⟨other, otherRecord, ?_, otherLive, keyed, owner⟩
      rwa [touches.tasks, Function.update_of_ne same]

/-- The completed task takes the entry of its own URL with it, and no other. -/
theorem complete (faithful : Faithful digest used world) (owned : Owned world)
    {error : Option NSError} {io : LocalIO}
    (deliverable : world.Deliverable (.complete task error io)) :
    Faithful digest used (world.deliver (.complete task error io)) := by
  rcases exists_of_complete deliverable with ⟨record, found, unfinished, _⟩
  rcases faithful.live found unfinished with ⟨_, registeredBefore, current, _⟩
  have touches := touches_complete error io found
  have removed : (outcomeBlock (world.downLoaders record.delegate) error).bind
      CompletionBlock.registryKey = some (record.originalURL.key digest) := by
    cases error with
    | none => exact (owned.entry registeredBefore).success
    | some failure => exact (owned.entry registeredBefore).fail
  have lookup : ∀ key, (world.deliver (.complete task error io)).downLoaderInfos.lookup key =
      if record.originalURL.key digest = key then none else world.downLoaderInfos.lookup key := by
    intro key
    rw [downLoaderInfos_complete error io found, lookup_withoutKey]
    simp only [removed, Option.some.injEq]
  constructor
  · intro other otherRecord otherFound otherLive
    have different : other ≠ task := by
      rintro rfl
      rw [touches.tasks, Function.update_self, Option.some.injEq] at otherFound
      subst otherFound
      exact otherLive rfl
    rw [touches.tasks, Function.update_of_ne different] at otherFound
    rcases faithful.live otherFound otherLive with ⟨usedURL, registered, otherCurrent, tmpPath⟩
    have apart : otherRecord.delegate ≠ record.delegate := by
      intro same
      rw [same, current, Option.some.injEq] at otherCurrent
      exact different otherCurrent.symm
    refine ⟨usedURL, ?_, ?_, ?_⟩
    · rw [World.registered, lookup, if_neg]
      · exact registered
      · intro same
        rw [World.registered, ← same] at registered
        exact apart (Option.some.inj (registered.symm.trans registeredBefore))
    · rwa [touches.downLoaders, Function.update_of_ne apart]
    · rwa [touches.downLoaders, Function.update_of_ne apart]
  · intro key loader registered
    rw [lookup] at registered
    split at registered
    · cases registered
    · rename_i kept
      rcases faithful.entry registered with
        ⟨other, otherRecord, otherFound, otherLive, keyed, owner⟩
      refine ⟨other, otherRecord, ?_, otherLive, keyed, owner⟩
      rw [touches.tasks, Function.update_of_ne]
      · exact otherFound
      · rintro rfl
        cases found.symm.trans otherFound
        exact kept keyed

theorem deliver (faithful : Faithful digest used world) (owned : Owned world)
    {event : DelegateEvent} (deliverable : world.Deliverable event)
    (restartless : Restartless world (.deliver event)) :
    Faithful digest used (world.deliver event) := by
  cases event with
  | response task response io =>
      rcases exists_of_response deliverable with ⟨record, found, waiting⟩
      have infos := downLoaderInfos_response response io found
      have unfinished : record.phase ≠ .ended := by simp [waiting]
      have enough : ((world.downLoaders record.delegate).tmpSize : ℤ) ≤ response.totalSize := by
        simpa [Restartless, delegateOf_eq found] using restartless
      rcases lt_or_eq_of_le enough with short | full
      · exact faithful.of_touches found unfinished (touches_opened io found short) rfl rfl nofun
          rfl rfl infos
      · exact faithful.of_touches found unfinished (touches_finished io found full) rfl rfl nofun
          rfl rfl infos
  | data task bytes io =>
      rcases exists_of_data deliverable with ⟨record, found, allowed⟩
      have unfinished : record.phase ≠ .ended := by simp [allowed]
      exact faithful.of_touches found unfinished (touches_data bytes io found) rfl rfl unfinished
        rfl rfl (downLoaderInfos_data bytes io found)
  | complete task error io => exact faithful.complete owned deliverable

theorem beginsCached (faithful : Faithful digest used world) (owned : Owned world) {url : NSURL}
    {blocks : ClientBlocks} (begins : BeginsCached digest world url blocks after) :
    Faithful digest used after := by
  constructor
  · intro task record found unfinished
    rw [begins.tasks] at found
    rw [registered, begins.lookup, begins.downLoaders, Function.update_of_ne
      (owned.used found).2.ne]
    exact faithful.live found unfinished
  · intro key loader found
    rw [begins.lookup] at found
    rw [begins.tasks]
    exact faithful.entry found

theorem beginsTask (faithful : Faithful digest used world) (owned : Owned world) {url : NSURL}
    {blocks : ClientBlocks} (usedURL : url ∈ used)
    (unregistered : world.registered digest url = none)
    (begins : BeginsTask digest world url blocks after) : Faithful digest used after := by
  have started : after.tasks world.taskCount = some (begunTask digest world url) := by
    rw [begins.tasks, Function.update_self]
  constructor
  · intro task record found unfinished
    by_cases fresh : task = world.taskCount
    · subst fresh
      cases started.symm.trans found
      refine ⟨usedURL, ?_, ?_, ?_⟩
      · rw [registered, begins.lookup, begunTask_originalURL, if_pos rfl, begunTask_delegate]
      · rw [begins.downLoaders, begunTask_delegate, Function.update_self, begunFields_task]
      · rw [begins.downLoaders, begunTask_delegate, Function.update_self,
          begunFields_downLoadTmpPath, begunTask_originalURL, calledFields_downLoadTmpPath]
    · rw [begins.tasks, Function.update_of_ne fresh] at found
      rcases DataTask.exists_of_unflagged (unflagged_cancel task) found with
        ⟨before, foundBefore, agree⟩
      rcases faithful.live foundBefore (DataTask.phase_eq agree ▸ unfinished) with
        ⟨usedBefore, registeredBefore, current, tmpPath⟩
      rw [DataTask.originalURL_eq agree] at usedBefore registeredBefore tmpPath
      rw [DataTask.delegate_eq agree] at registeredBefore current tmpPath
      have old : record.delegate ≠ world.downLoaderCount := by
        rw [← DataTask.delegate_eq agree]
        exact (owned.used foundBefore).2.ne
      refine ⟨usedBefore, ?_, ?_, ?_⟩
      · rw [registered, begins.lookup, if_neg]
        · exact registeredBefore
        · intro same
          rw [registered, same] at registeredBefore
          rw [registered, registeredBefore] at unregistered
          cases unregistered
      · rwa [begins.downLoaders, Function.update_of_ne old]
      · rwa [begins.downLoaders, Function.update_of_ne old]
  · intro key loader found
    rw [begins.lookup] at found
    split at found
    · rename_i same
      cases found
      have waiting : (begunTask digest world url).phase ≠ .ended := by
        intro ended
        cases ended
      exact ⟨_, _, started, waiting, same.symm, rfl⟩
    · rcases faithful.entry found with ⟨task, record, foundBefore, unfinished, keyed, delegate⟩
      rcases marked_eq (world.register (url.key digest)) world.downLoaderCount record with
        ⟨cancelled, marked⟩
      refine ⟨task, { record with cancelled }, ?_, unfinished, keyed, delegate⟩
      rw [begins.tasks, Function.update_of_ne (owned.used foundBefore).1.ne, tasks_cancel, ← marked]
      simp [register, foundBefore]

theorem kill (digest : MessageDigest) (used : Set NSURL) (world : World) :
    Faithful digest used world.kill where
  live := by
    intro task record found unfinished
    simp only [World.kill, Option.map_eq_some_iff] at found
    rcases found with ⟨before, _, rfl⟩
    exact absurd rfl unfinished
  entry := nofun

theorem call (faithful : Faithful digest used world) (owned : Owned world) {call : ManagerCall}
    (uses : Uses used (.call call)) : Faithful digest used (world.call digest call) := by
  apply call_induction faithful
  · intro world loader faithful
    exact faithful.switch loader _ _ _
  · intro world loader faithful
    exact faithful.switch loader _ _ _
  · intro world loader faithful
    exact faithful.cancel loader
  · rintro url blocks rfl unregistered
    by_cases occupied : world.files.Occupied url.cachePath
    · exact faithful.beginsCached owned (begin_cached blocks unregistered occupied)
    · exact faithful.beginsTask owned uses unregistered (begin_task _ blocks occupied)

end Faithful

theorem faithful_preserved (digest : MessageDigest) (used : Set NSURL) :
    ((managerSystem digest).restrict fun world action =>
      Uses used action ∧ Restartless world action).Preserves fun world =>
        Owned world ∧ Faithful digest used world := by
  rintro world action ⟨owned, faithful⟩ ⟨admitted, uses, restartless⟩
  refine ⟨owned_preserved digest world action owned admitted, ?_⟩
  cases action with
  | call call => exact faithful.call owned uses
  | deliver event => exact faithful.deliver owned admitted restartless
  | kill => exact Faithful.kill digest used world

end Steps

/-- In every run without a restart the dictionary is faithful to the live tasks. -/
theorem run_registryFaithful {digest : MessageDigest} {used : Set NSURL} {files : FileSystem Path}
    {world : World} (injective : used.InjOn (NSURL.key digest))
    (reachable : ((managerSystem digest).restrict fun world action =>
      Uses used action ∧ Restartless world action).Reachable (launch files) world) :
    RegistryFaithful digest used world := by
  have invariant := (faithful_preserved digest used).reachable
    ⟨owned_launch files, faithful_launch digest used files⟩ reachable
  exact invariant.2.registryFaithful injective

/-- The example's download, paused with two of five bytes on disk. -/
def pausedMidway : List ManagerAction :=
  [.call (.downLoad exampleURL exampleBlocks),
   .deliver (.response 0 ((StatedReply.mk 200 (some 5) none).render exampleURL) .healthy),
   .deliver (.data 0 [1, 2] .healthy), .call .pauseAll]

theorem run_registryFaithful_pausedMidway : RegistryFaithful exampleDigest {exampleURL}
    ((managerSystem exampleDigest).exec (launch emptyContainer) pausedMidway) :=
  run_registryFaithful (Set.injOn_singleton _ _) ⟨pausedMidway,
    ⟨⟨trivial, rfl, trivial⟩, ⟨by decide, trivial, by decide⟩, ⟨by decide, trivial, trivial⟩,
      ⟨trivial, trivial, trivial⟩, trivial⟩, rfl⟩

/-- The resource shrank: after the completion event of the refused first task the second one
lives on without an entry. -/
def shrunk : List ManagerAction :=
  [.call (.downLoad exampleURL exampleBlocks),
   .deliver (.response 0 ((StatedReply.mk 200 (some 3) none).render exampleURL) .healthy),
   .deliver (.complete 0 (some .cancelled) .healthy)]

theorem shrunk_not_registryFaithful :
    let files := emptyContainer.put (exampleURL.tmpPath exampleDigest) (.file [1, 2, 3, 4, 5])
    (managerSystem exampleDigest).Runs (launch files) shrunk ∧
      (∀ action ∈ shrunk, Uses {exampleURL} action) ∧
      ¬RegistryFaithful exampleDigest {exampleURL}
        ((managerSystem exampleDigest).exec (launch files) shrunk) := by
  refine ⟨by decide, ?_, ?_⟩
  · simp only [shrunk, List.mem_cons, List.not_mem_nil, or_false]
    rintro action (rfl | rfl | rfl) <;> simp [Uses]
  · intro faithful
    have registered := (faithful.owner exampleURL rfl 0).mpr ⟨1, _, rfl, by decide, rfl, rfl⟩
    revert registered
    decide

end ZFBaseFramework
