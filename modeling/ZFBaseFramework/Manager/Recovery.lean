import ZFBaseFramework.Manager.FetchedOnce

/-!
# Every download can be finished

A transfer may fail, be cancelled or be killed at any point, and the manager may be left
with a downloader that answers no more. Against a well-behaved server a relaunch of the
app gets out of every such state: the request goes through to the cached file, and what
arrives for it is only what the tmp file lacks.
-/

namespace ZFBaseFramework

open ZFFileManagerTool World

/-- The right answer to a request. -/
def Site.reply {digest : MessageDigest} (site : Site digest) (record : DataTask) :
    NSHTTPURLResponse :=
  let length := (site.content record.originalURL).length
  if record.offset < length then
    (StatedReply.mk 206 none (some (.span record.offset (length - 1) (some length)))).render
      record.originalURL
  else (StatedReply.mk 416 none (some (.unsatisfied length))).render record.originalURL

theorem Site.answers_reply {digest : MessageDigest} (site : Site digest) (record : DataTask) :
    site.Answers record (site.reply record) := by
  rw [Site.Answers, Site.reply]
  split
  · exact ⟨rfl, rfl⟩
  · exact ⟨rfl, rfl⟩

section Continuations

variable {digest : MessageDigest} {site : Site digest} {world : World} {url : NSURL}
  {task : TaskId} {record : DataTask}

/-- Some continuation brings the cached file of the URL. -/
def Finishable (site : Site digest) (url : NSURL) (world : World) : Prop :=
  ∃ rest, site.system.Runs world rest ∧
    (site.system.exec world rest).files.lookup url.cachePath = some (.file (site.content url))

theorem Finishable.step {action : ManagerAction} (admitted : site.system.Admits world action)
    (later : Finishable site url (site.system.perform world action)) :
    Finishable site url world := by
  rcases later with ⟨rest, runs, cached⟩
  exact ⟨action :: rest, ⟨admitted, runs⟩, cached⟩

namespace Outstanding

variable (used : url ∈ site.used)

include used

theorem finishable_complete (outstanding : Outstanding site url world)
    (found : world.tasks task = some record) (allowed : record.phase = .allowed)
    (mine : record.originalURL = url)
    (whole : record.offset + record.received = (site.content url).length) :
    Finishable site url world := by
  subst mine
  have live : record.phase ≠ .ended := by simp [allowed]
  have fetching := outstanding.intact.fetching found live
  have admitted : site.system.Admits world (.deliver (.complete task none .healthy)) := by
    constructor
    · change world.phaseOf task = some .allowed
      rw [phaseOf, found, Option.map_some, allowed]
    · intro other otherFound
      rw [found, Option.some.injEq] at otherFound
      rw [← otherFound]
      exact whole
  have cached : (site.system.perform world (.deliver (.complete task none .healthy))).files.lookup
      record.originalURL.cachePath = some (.file (site.content record.originalURL)) := by
    have files : (site.system.perform world (.deliver (.complete task none .healthy))).files = _ :=
      files_complete_finished .healthy found
    rw [files, (outstanding.intact.faithful.live found live).2.2.2, fetching.cachePath,
      if_pos (show LocalIO.healthy.moves = true from rfl)]
    apply outstanding.intact.files.cached_after_move site used
    rw [fetching.onDisk (Or.inr allowed), whole]
  exact ⟨[_], ⟨admitted, trivial⟩, cached⟩

/-- A body that was allowed can arrive in one piece. -/
theorem finishable_data (outstanding : Outstanding site url world)
    (found : world.tasks task = some record) (allowed : record.phase = .allowed)
    (mine : record.originalURL = url) : Finishable site url world := by
  subst mine
  have live : record.phase ≠ .ended := by simp [allowed]
  have fetching := outstanding.intact.fetching found live
  set missing := (site.content record.originalURL).drop (record.offset + record.received)
  have admitted : site.system.Admits world (.deliver (.data task missing .healthy)) := by
    constructor
    · change world.phaseOf task = some .allowed
      rw [phaseOf, found, Option.map_some, allowed]
    · refine ⟨rfl, ?_⟩
      intro other otherFound
      rw [found, Option.some.injEq] at otherFound
      rw [← otherFound]
  have touches := touches_data missing .healthy found
  have foundAfter : (site.system.perform world (.deliver (.data task missing .healthy))).tasks
      task = some { record with received := record.received + missing.length } := by
    exact (congrFun touches.tasks task).trans (Function.update_self _ _ _)
  have enough : record.offset + record.received ≤ (site.content record.originalURL).length := by
    rw [← fetching.onDisk (Or.inr allowed)]
    exact (outstanding.intact.files.tmp _ used).size_le
  apply Finishable.step admitted
  have performed := outstanding.perform used admitted
  apply performed.1.finishable_complete used foundAfter allowed rfl
  simp only [missing, List.length_drop]
  omega

/-- A response lets the body come, or it finds the tmp file full. -/
theorem finishable_response (outstanding : Outstanding site url world)
    (found : world.tasks task = some record) (waiting : record.phase = .waiting)
    (mine : record.originalURL = url) : Finishable site url world := by
  subst mine
  have live : record.phase ≠ .ended := by simp [waiting]
  have fetching := outstanding.intact.fetching found live
  have answers := site.answers_reply record
  have admitted : site.system.Admits world
      (.deliver (.response task (site.reply record) .healthy)) := by
    constructor
    · change world.phaseOf task = some .waiting
      rw [phaseOf, found, Option.map_some, waiting]
    · refine ⟨rfl, ?_⟩
      intro other otherFound
      rw [found, Option.some.injEq] at otherFound
      rw [← otherFound]
      exact answers
  have enough := outstanding.intact.restartless admitted.1 admitted.2
  rw [Restartless, delegateOf_eq found] at enough
  rcases lt_or_eq_of_le enough with short | full
  · have touches := touches_opened .healthy found short
    apply Finishable.step admitted
    exact (outstanding.perform used admitted).1.finishable_data used
      ((congrFun touches.tasks task).trans (Function.update_self _ _ _)) rfl rfl
  · refine ⟨[_], ⟨admitted, trivial⟩, ?_⟩
    have files : (site.system.perform world
        (.deliver (.response task (site.reply record) .healthy))).files = _ :=
      files_finished .healthy found full
    change (site.system.perform world _).files.lookup _ = _
    rw [files, (outstanding.intact.faithful.live found live).2.2.2, fetching.cachePath,
      if_pos (show LocalIO.healthy.moves = true from rfl)]
    apply outstanding.intact.files.cached_after_move site used
    rw [fetching.onDisk (Or.inl waiting), ← fetching.counted (Or.inl waiting)]
    rw [site.totalSize_answer used answers] at full
    exact_mod_cast full

/-- A request for a URL without a downloader goes through. -/
theorem finishable_begin (outstanding : Outstanding site url world)
    (unregistered : world.registered digest url = none)
    (free : ¬world.files.Occupied url.cachePath) (blocks : ClientBlocks) :
    Finishable site url (world.call digest (.downLoad url blocks)) := by
  have admitted : site.system.Admits world (.call (.downLoad url blocks)) := ⟨trivial, used⟩
  have begins := begin_task digest blocks free
  have begun : world.call digest (.downLoad url blocks) = world.begin digest url blocks :=
    managerDownLoadWithURL_unregistered unregistered
  have later := (outstanding.perform used admitted).1
  have found : (world.call digest (.downLoad url blocks)).tasks world.taskCount =
      some (begunTask digest world url) := by
    rw [begun, begins.tasks, Function.update_self]
  exact later.finishable_response used found rfl rfl

end Outstanding

/-- Over URLs that name files, and with streams that open and take every byte: from wherever
sessions of the app have led, a relaunch can bring the cached file of a URL, and all that arrives on
the way is what the tmp file lacks. -/
theorem run_recovers {files : FileSystem Path} (names : site.NamesFiles)
    (filesIntact : site.FilesIntact files) (used : url ∈ site.used) {actions : List ManagerAction}
    (runs : site.system.Runs (launch files) actions) (blocks : ClientBlocks) :
    let world := site.system.exec (launch files) actions
    ∃ rest, let relaunch := .kill :: .call (.downLoad url blocks) :: rest
      site.system.Runs world relaunch ∧
        (site.system.exec world relaunch).files.lookup url.cachePath =
          some (.file (site.content url)) ∧
        (site.system.outputs (World.fetched url) world relaunch).flatten =
          if world.files.Occupied url.cachePath then []
          else (site.content url).drop (world.files.bytesAt (url.tmpPath digest)).length := by
  intro world
  have intact : Intact site world :=
    (intact_preserved site).exec (intact_launch_of names filesIntact) runs
  by_cases present : world.files.Occupied url.cachePath
  · rcases FileSystem.occupied_iff.mp present with ⟨item, found⟩
    have begins := @begin_cached digest world.kill url blocks rfl present
    refine ⟨[], ⟨⟨trivial, trivial⟩, ⟨trivial, used⟩, trivial⟩, ?_, ?_⟩
    · have files : (world.kill.call digest (.downLoad url blocks)).files = world.files :=
        begins.files
      change (world.kill.call digest (.downLoad url blocks)).files.lookup url.cachePath = _
      rw [files, found, intact.files.cache url used item found]
    · rw [if_pos present]
      rfl
  · have outstanding : Outstanding site url world := intact.outstanding present
    rcases outstanding.kill.finishable_begin used rfl present blocks with
      ⟨rest, restRuns, cached⟩
    have relaunches : site.system.Runs world (.kill :: .call (.downLoad url blocks) :: rest) :=
      ⟨⟨trivial, trivial⟩, ⟨trivial, used⟩, restRuns⟩
    refine ⟨rest, relaunches, cached, ?_⟩
    have occupied := FileSystem.occupied_iff.mpr ⟨_, cached⟩
    have whole := (outstanding.exec used relaunches).stored_of_occupied used occupied
    rw [outstanding.stored_exec used relaunches, NSURL.stored_of_free present] at whole
    rw [if_neg present, ← whole, List.drop_left]

end Continuations

/-- The download that was killed with two bytes on disk, and is under way again. -/
theorem run_recovers_interrupted :
    ∃ rest, exampleSite.system.Runs (exampleSite.system.exec (launch emptyContainer) interrupted)
        (.kill :: .call (.downLoad exampleURL exampleBlocks) :: rest) ∧
      (exampleSite.system.exec (exampleSite.system.exec (launch emptyContainer) interrupted)
        (.kill :: .call (.downLoad exampleURL exampleBlocks) :: rest)).files.lookup
          exampleURL.cachePath = some (.file [1, 2, 3, 4, 5]) := by
  rcases run_recovers namesFiles_exampleSite (filesIntact_emptyContainer namesFiles_exampleSite)
    (Set.mem_singleton _) runs_interrupted exampleBlocks with ⟨rest, relaunches, cached, _⟩
  exact ⟨rest, relaunches, cached⟩

end ZFBaseFramework
