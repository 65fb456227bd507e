import ZFBaseFramework.Manager.ResumeIntegrity

/-!
# Bytes that are fetched once

What the container holds of a URL is its tmp file, or its cached file once the download
is finished. Over all sessions against a site, with kills, cancelled and failed
transfers and refused moves in any order, it grows by exactly the chunks that arrive for
the URL: a later session continues where the bytes on disk end, nothing on disk is lost,
and no byte arrives twice. The invariant is that a running download has no cached file
and a cached file no tmp file beside it.
-/

namespace ZFBaseFramework

open ZFFileManagerTool World

/-- What the container holds of a URL. -/
def NSURL.stored (digest : MessageDigest) (url : NSURL) (files : FileSystem Path) : List UInt8 :=
  files.bytesAt (url.tmpPath digest) ++ files.bytesAt url.cachePath

/-- The bytes that arrive for a URL. -/
def World.fetched (url : NSURL) (world : World) : ManagerAction → List UInt8
  | .deliver (.data task bytes _) =>
      if (world.tasks task).map DataTask.originalURL = some url then bytes else []
  | _ => []

/-- The task waits for its response or for bytes. -/
def DataTask.Running (record : DataTask) : Prop :=
  record.phase = .waiting ∨ record.phase = .allowed

theorem DataTask.Running.live {record : DataTask} (running : record.Running) :
    record.phase ≠ .ended := by
  rcases running with waiting | allowed
  · simp [waiting]
  · simp [allowed]

/-- A URL of the site is downloaded to its tmp file until it has a cached file instead. -/
structure Outstanding {digest : MessageDigest} (site : Site digest) (url : NSURL) (world : World) :
    Prop where
  intact : Intact site world
  running : ∀ {task record}, world.tasks task = some record → record.originalURL = url →
    record.Running → ¬world.files.Occupied url.cachePath
  single : world.files.Occupied url.cachePath → ¬world.files.Occupied (url.tmpPath digest)

section Steps

variable {digest : MessageDigest} {site : Site digest} {world after : World} {url : NSURL}
  {task : TaskId} {record changed : DataTask} {fields : ZFDownLoader}

theorem NSURL.stored_congr {before later : FileSystem Path}
    (tmp : later.lookup (url.tmpPath digest) = before.lookup (url.tmpPath digest))
    (cache : later.lookup url.cachePath = before.lookup url.cachePath) :
    url.stored digest later = url.stored digest before := by
  rw [NSURL.stored, NSURL.stored, FileSystem.bytesAt_congr tmp, FileSystem.bytesAt_congr cache]

theorem NSURL.stored_of_free {files : FileSystem Path} (free : ¬files.Occupied url.cachePath) :
    url.stored digest files = files.bytesAt (url.tmpPath digest) := by
  rw [NSURL.stored, FileSystem.bytesAt_of_free free, List.append_nil]

namespace Outstanding

theorem of_files (outstanding : Outstanding site url world) (intact : Intact site after)
    (tmp : after.files.lookup (url.tmpPath digest) = world.files.lookup (url.tmpPath digest))
    (cache : after.files.lookup url.cachePath = world.files.lookup url.cachePath)
    (running : ∀ {other otherRecord}, after.tasks other = some otherRecord →
      otherRecord.originalURL = url → otherRecord.Running →
      ¬world.files.Occupied url.cachePath) :
    Outstanding site url after ∧ url.stored digest after.files = url.stored digest world.files := by
  refine ⟨⟨intact, ?_, ?_⟩, NSURL.stored_congr tmp cache⟩
  · intro other otherRecord found same active
    rw [FileSystem.Occupied, cache]
    exact running found same active
  · rw [FileSystem.Occupied, FileSystem.Occupied, tmp, cache]
    exact outstanding.single

/-- After a step of one task, the running tasks of the URL are those that ran before. -/
theorem running_of_touches (outstanding : Outstanding site url world)
    (found : world.tasks task = some record)
    (touches : world.Touches after record.delegate fields task changed)
    (origin : changed.originalURL = record.originalURL)
    (still : changed.Running → record.Running)
    {other : TaskId} {otherRecord : DataTask} (otherFound : after.tasks other = some otherRecord)
    (same : otherRecord.originalURL = url) (active : otherRecord.Running) :
    ¬world.files.Occupied url.cachePath := by
  rw [touches.tasks] at otherFound
  by_cases mine : other = task
  · subst mine
    rw [Function.update_self, Option.some.injEq] at otherFound
    subst otherFound
    exact outstanding.running found (origin ▸ same) (still active)
  · rw [Function.update_of_ne mine] at otherFound
    exact outstanding.running otherFound same active

/-- No second task of the URL runs. -/
theorem not_running_of_touches (outstanding : Outstanding site url world)
    (found : world.tasks task = some record) (live : record.phase ≠ .ended)
    (mine : record.originalURL = url)
    (touches : world.Touches after record.delegate fields task changed)
    (done : ¬changed.Running)
    {other : TaskId} {otherRecord : DataTask} (otherFound : after.tasks other = some otherRecord)
    (same : otherRecord.originalURL = url) : ¬otherRecord.Running := by
  intro active
  rw [touches.tasks] at otherFound
  by_cases own : other = task
  · subst own
    rw [Function.update_self, Option.some.injEq] at otherFound
    subst otherFound
    exact done active
  · rw [Function.update_of_ne own] at otherFound
    have apart := outstanding.intact.faithful.apart found live otherFound active.live own
    exact apart.2 (same.trans mine.symm)

section Url

variable (used : url ∈ site.used)

include used

/-- The paths of two URLs of the site differ. -/
theorem paths_ne (outstanding : Outstanding site url world) (found : world.tasks task = some record)
    (live : record.phase ≠ .ended) (different : record.originalURL ≠ url) :
    url.tmpPath digest ≠ record.originalURL.tmpPath digest ∧
      url.cachePath ≠ record.originalURL.cachePath := by
  have other := (outstanding.intact.faithful.live found live).1
  exact ⟨site.tmpPath_ne used other different.symm,
    outstanding.intact.named.cachePath_ne used other different.symm⟩

/-- The end of a download hands the bytes over from the tmp file to the cached file, or leaves
them where they are. -/
theorem moved (outstanding : Outstanding site url world) (found : world.tasks task = some record)
    (live : record.phase ≠ .ended) (intact : Intact site after)
    (touches : world.Touches after record.delegate fields task changed)
    (origin : changed.originalURL = record.originalURL) (done : ¬changed.Running) (moves : Bool)
    (files : after.files = if moves then
      moveFile world.files (some (record.originalURL.tmpPath digest))
        (some record.originalURL.cachePath) else world.files) :
    Outstanding site url after ∧ url.stored digest after.files = url.stored digest world.files := by
  have running : ∀ {other otherRecord}, after.tasks other = some otherRecord →
      otherRecord.originalURL = url → otherRecord.Running →
      ¬world.files.Occupied url.cachePath :=
    outstanding.running_of_touches found touches origin fun active => absurd active done
  by_cases stays : after.files = world.files
  · exact outstanding.of_files intact (by rw [stays]) (by rw [stays]) running
  by_cases mine : record.originalURL = url
  · subst mine
    have idle : ∀ {other otherRecord}, after.tasks other = some otherRecord →
        otherRecord.originalURL = record.originalURL → ¬otherRecord.Running :=
      outstanding.not_running_of_touches found live rfl touches done
    by_cases moving : moves = true ∧
      world.files.Movable (record.originalURL.tmpPath digest) record.originalURL.cachePath
    · rw [if_pos moving.1, moveFile, if_pos moving.2] at files
      have handed := FileSystem.bytesAt_move moving.2
        (NSURL.tmpPath_ne_cachePath digest record.originalURL record.originalURL)
      refine ⟨⟨intact, ?_, ?_⟩, ?_⟩
      · intro other otherRecord otherFound same active
        exact absurd active (idle otherFound same)
      · intro _
        rw [files, FileSystem.not_occupied_iff, FileSystem.lookup_move,
          if_neg (NSURL.tmpPath_ne_cachePath digest record.originalURL record.originalURL),
          if_pos rfl]
      · rw [files, NSURL.stored, NSURL.stored, handed.1, handed.2.1, handed.2.2,
          List.nil_append, List.append_nil]
    · refine absurd ?_ stays
      rw [files]
      split
      · rename_i carried
        rw [moveFile, if_neg fun movable => moving ⟨carried, movable⟩]
      · rfl
  · rcases outstanding.paths_ne used found live mine with ⟨tmpNe, cacheNe⟩
    have carried : after.files = moveFile world.files
        (some (record.originalURL.tmpPath digest)) (some record.originalURL.cachePath) := by
      split at files
      · exact files
      · exact absurd files stays
    apply outstanding.of_files intact _ _ running
    · rw [carried]
      exact (moveFile_confined tmpNe (by simp)).1
    · rw [carried]
      exact (moveFile_confined (by simp) cacheNe).1

/-- A response opens the tmp file, or it finds it full and ends the download. -/
theorem response (outstanding : Outstanding site url world) {response : NSHTTPURLResponse}
    {io : LocalIO}
    (deliverable : world.Deliverable (.response task response io))
    (intact : Intact site (world.deliver (.response task response io)))
    (opens : io.opens = true)
    (enough : Restartless world (.deliver (.response task response io))) :
    Outstanding site url (world.deliver (.response task response io)) ∧
      url.stored digest (world.deliver (.response task response io)).files =
        url.stored digest world.files := by
  rcases exists_of_response deliverable with ⟨record, found, waiting⟩
  have live : record.phase ≠ .ended := by simp [waiting]
  rcases outstanding.intact.faithful.live found live with ⟨_, _, _, tmpPath⟩
  rw [Restartless, delegateOf_eq found] at enough
  rcases lt_or_eq_of_le enough with short | full
  · have touches := touches_opened io found short
    have opened := files_opened io found short
    rw [tmpPath] at opened
    simp only [NSOutputStream.openAppending, opens, if_true] at opened
    have running : ∀ {other otherRecord},
        (world.deliver (.response task response io)).tasks other = some otherRecord →
        otherRecord.originalURL = url → otherRecord.Running →
        ¬world.files.Occupied url.cachePath :=
      outstanding.running_of_touches found touches rfl fun _ => Or.inl waiting
    have cache : (world.deliver (.response task response io)).files.lookup url.cachePath =
        world.files.lookup url.cachePath := by
      rw [opened, FileSystem.lookup_touch, if_neg (by simp)]
    refine ⟨⟨intact, ?_, ?_⟩, ?_⟩
    · intro other otherRecord otherFound same active
      rw [FileSystem.Occupied, cache]
      exact running otherFound same active
    · intro occupied
      rw [FileSystem.Occupied, cache] at occupied
      have different : url.tmpPath digest ≠ record.originalURL.tmpPath digest := by
        intro same
        refine outstanding.running found ?_ (Or.inl waiting) occupied
        by_contra other
        exact (outstanding.paths_ne used found live other).1 same
      rw [FileSystem.Occupied, opened, FileSystem.lookup_touch, if_neg different]
      exact outstanding.single occupied
    · rw [opened, NSURL.stored, NSURL.stored, FileSystem.bytesAt_touch, FileSystem.bytesAt_touch]
  · have touches := touches_finished io found full
    have files := files_finished io found full
    rw [tmpPath, (outstanding.intact.fetching found live).cachePath] at files
    exact outstanding.moved used found live intact touches rfl (by simp [DataTask.Running])
      io.moves files

/-- The bytes that arrive for the URL end up behind those that are there. -/
theorem data (outstanding : Outstanding site url world) {bytes : List UInt8} {io : LocalIO}
    (deliverable : world.Deliverable (.data task bytes io))
    (intact : Intact site (world.deliver (.data task bytes io))) (accepts : io.accepts = none) :
    Outstanding site url (world.deliver (.data task bytes io)) ∧
      url.stored digest (world.deliver (.data task bytes io)).files =
        url.stored digest world.files ++ world.fetched url (.deliver (.data task bytes io)) := by
  rcases exists_of_data deliverable with ⟨record, found, allowed⟩
  have live : record.phase ≠ .ended := by simp [allowed]
  have touches := touches_data bytes io found
  rcases (outstanding.intact.fetching found live).stream allowed with ⟨node, stream, linked⟩
  have written : (world.deliver (.data task bytes io)).files = world.files.append node bytes := by
    rw [files_data bytes io found, stream]
    simp [accepts, LocalIO.taken]
  have running : ∀ {other otherRecord},
      (world.deliver (.data task bytes io)).tasks other = some otherRecord →
      otherRecord.originalURL = url → otherRecord.Running →
      ¬world.files.Occupied url.cachePath :=
    outstanding.running_of_touches found touches rfl id
  have others : ∀ path, path ≠ record.originalURL.tmpPath digest →
      (world.deliver (.data task bytes io)).files.lookup path = world.files.lookup path := by
    intro path different
    rw [written, FileSystem.lookup_append, if_neg]
    intro same
    exact different (world.files.node_inj same linked)
  rw [World.fetched, found, Option.map_some]
  by_cases mine : record.originalURL = url
  · subst mine
    have free := outstanding.running found rfl (Or.inr allowed)
    have cache := others record.originalURL.cachePath (by simp)
    rw [if_pos rfl]
    refine ⟨⟨intact, ?_, ?_⟩, ?_⟩
    · intro other otherRecord otherFound same active
      rw [FileSystem.Occupied, cache]
      exact running otherFound same active
    · intro occupied
      rw [FileSystem.Occupied, cache] at occupied
      exact absurd occupied free
    · have used := (outstanding.intact.faithful.live found live).1
      have isFile : (world.files.item node).IsFile := by
        rcases outstanding.intact.files.tmp _ used _ (FileSystem.lookup_eq_of_node linked) with
          ⟨old, held, _⟩
        rw [held]
        trivial
      rw [NSURL.stored, NSURL.stored, FileSystem.bytesAt_congr cache, written,
        FileSystem.bytesAt_append linked isFile, FileSystem.bytesAt_of_free free,
        List.append_nil, List.append_nil]
  · rcases outstanding.paths_ne used found live mine with ⟨tmpNe, _⟩
    rw [if_neg fun same => mine (Option.some.inj same), List.append_nil]
    exact outstanding.of_files intact (others _ tmpNe) (others _ (by simp)) running

theorem complete (outstanding : Outstanding site url world) {error : Option NSError} {io : LocalIO}
    (deliverable : world.Deliverable (.complete task error io))
    (intact : Intact site (world.deliver (.complete task error io))) :
    Outstanding site url (world.deliver (.complete task error io)) ∧
      url.stored digest (world.deliver (.complete task error io)).files =
        url.stored digest world.files := by
  rcases exists_of_complete deliverable with ⟨record, found, live, _⟩
  have touches := touches_complete error io found
  have done : ¬({ record with phase := .ended } : DataTask).Running := by
    simp [DataTask.Running]
  cases error with
  | none =>
      have files := files_complete_finished io found
      rw [(outstanding.intact.faithful.live found live).2.2.2,
        (outstanding.intact.fetching found live).cachePath] at files
      exact outstanding.moved used found live intact touches rfl done io.moves files
  | some failure =>
      exact outstanding.moved used found live intact touches rfl done false
        (files_complete_failed io found failure)

end Url

theorem of_sameTransfers (outstanding : Outstanding site url world) (intact : Intact site after)
    (same : SameTransfers world after) :
    Outstanding site url after ∧ url.stored digest after.files = url.stored digest world.files := by
  apply outstanding.of_files intact (by rw [same.files]) (by rw [same.files])
  intro task record found origin active
  rcases DataTask.exists_of_unflagged (same.tasks task) found with ⟨before, foundBefore, agree⟩
  apply outstanding.running foundBefore ((DataTask.originalURL_eq agree).trans origin)
  rw [DataTask.Running, DataTask.phase_eq agree]
  exact active

/-- A download is begun only where there is no cached file. -/
theorem begin (outstanding : Outstanding site url world) {other : NSURL} {blocks : ClientBlocks}
    (intact : Intact site (world.begin digest other blocks))
    (unregistered : world.registered digest other = none) :
    Outstanding site url (world.begin digest other blocks) ∧
      url.stored digest (world.begin digest other blocks).files =
        url.stored digest world.files := by
  by_cases occupied : world.files.Occupied other.cachePath
  · have begins := begin_cached blocks unregistered occupied
    apply outstanding.of_files intact (by rw [begins.files]) (by rw [begins.files])
    intro task record found
    rw [begins.tasks] at found
    exact outstanding.running found
  · have begins := begin_task digest blocks occupied
    apply outstanding.of_files intact (by rw [begins.files]) (by rw [begins.files])
    intro task record found origin active
    by_cases fresh : task = world.taskCount
    · subst fresh
      rw [begins.tasks, Function.update_self, Option.some.injEq] at found
      subst found
      exact (show other = url from origin) ▸ occupied
    · rw [begins.tasks, Function.update_of_ne fresh] at found
      rcases DataTask.exists_of_unflagged (unflagged_cancel task) found with
        ⟨before, foundBefore, agree⟩
      apply outstanding.running foundBefore ((DataTask.originalURL_eq agree).trans origin)
      rw [DataTask.Running, DataTask.phase_eq agree]
      exact active

theorem kill (outstanding : Outstanding site url world) : Outstanding site url world.kill := by
  refine ⟨outstanding.intact.kill, ?_, outstanding.single⟩
  intro task record found _ active
  simp only [World.kill, Option.map_eq_some_iff] at found
  rcases found with ⟨before, _, rfl⟩
  exact absurd rfl active.live

theorem perform (outstanding : Outstanding site url world) (used : url ∈ site.used)
    {action : ManagerAction} (admitted : site.system.Admits world action) :
    Outstanding site url (site.system.perform world action) ∧
      url.stored digest (site.system.perform world action).files =
        url.stored digest world.files ++ world.fetched url action := by
  have intact := intact_preserved site world action outstanding.intact admitted
  have restartless := outstanding.intact.restartless admitted.1 admitted.2
  cases action with
  | call call =>
      simp only [World.fetched, List.append_nil]
      apply call_induction (motive := fun middle => Outstanding site url middle ∧
        url.stored digest middle.files = url.stored digest world.files) ⟨outstanding, rfl⟩
      · rintro middle loader ⟨outstanding, same⟩
        rw [← same]
        have intact := outstanding.intact.switch loader (Or.inl ⟨rfl, rfl, rfl⟩)
        exact outstanding.of_sameTransfers intact
          (sameTransfers_switch middle loader .downing .pause true)
      · rintro middle loader ⟨outstanding, same⟩
        rw [← same]
        have intact := outstanding.intact.switch loader (Or.inr ⟨rfl, rfl, rfl⟩)
        exact outstanding.of_sameTransfers intact
          (sameTransfers_switch middle loader .pause .downing false)
      · rintro middle loader ⟨outstanding, same⟩
        rw [← same]
        exact outstanding.of_sameTransfers (outstanding.intact.cancel loader)
          (sameTransfers_cancel middle loader)
      · rintro other blocks rfl unregistered
        exact outstanding.begin (outstanding.intact.begin admitted.2 unregistered) unregistered
  | deliver event =>
      cases event with
      | response task response io =>
          simp only [World.fetched, List.append_nil]
          exact outstanding.response used admitted.1 intact admitted.2.1 restartless
      | data task bytes io => exact outstanding.data used admitted.1 intact admitted.2.1
      | complete task error io =>
          simp only [World.fetched, List.append_nil]
          exact outstanding.complete used admitted.1 intact
  | kill =>
      simp only [World.fetched, List.append_nil]
      exact ⟨outstanding.kill, rfl⟩

section Url

variable (used : url ∈ site.used)

include used

theorem preserved : site.system.Preserves (Outstanding site url) :=
  fun _ _ outstanding admitted => (outstanding.perform used admitted).1

theorem exec (outstanding : Outstanding site url world) {actions : List ManagerAction}
    (runs : site.system.Runs world actions) :
    Outstanding site url (site.system.exec world actions) :=
  (preserved used).exec outstanding runs

/-- What is stored grows by what arrives. -/
theorem stored_exec (outstanding : Outstanding site url world) {actions : List ManagerAction}
    (runs : site.system.Runs world actions) :
    url.stored digest (site.system.exec world actions).files = url.stored digest world.files ++
      (site.system.outputs (World.fetched url) world actions).flatten :=
  @ActionSystem.Preserves.accumulates _ _ site.system _ _ (preserved used)
    (fun world => url.stored digest world.files) _
    (fun _ _ outstanding admitted => (outstanding.perform used admitted).2) _ _
    outstanding runs

/-- A cached file is the whole resource, and then nothing else is stored. -/
theorem stored_of_occupied (outstanding : Outstanding site url world)
    (occupied : world.files.Occupied url.cachePath) :
    url.stored digest world.files = site.content url := by
  rcases FileSystem.occupied_iff.mp occupied with ⟨item, found⟩
  have whole := outstanding.intact.files.cache url used item found
  rw [NSURL.stored, FileSystem.bytesAt_of_free (outstanding.single occupied),
    FileSystem.bytesAt_of_lookup (found.trans (congrArg some whole)), List.nil_append]

/-- What is stored is a prefix of the resource. -/
theorem stored_prefix (outstanding : Outstanding site url world) :
    url.stored digest world.files <+: site.content url := by
  by_cases occupied : world.files.Occupied url.cachePath
  · rw [outstanding.stored_of_occupied used occupied]
  · rw [NSURL.stored_of_free occupied, FileSystem.bytesAt]
    split
    · rename_i bytes found
      rcases outstanding.intact.files.tmp url used _ found with ⟨_, ⟨⟩, initial⟩
      exact initial
    · exact List.nil_prefix

end Url

end Outstanding

theorem Intact.outstanding (intact : Intact site world)
    (free : ¬world.files.Occupied url.cachePath) : Outstanding site url world :=
  ⟨intact, fun _ _ _ => free, fun occupied => absurd occupied free⟩

theorem intact_launch_of {files : FileSystem Path} (names : site.NamesFiles)
    (filesIntact : site.FilesIntact files) : Intact site (launch files) :=
  ⟨names, owned_launch files, faithful_launch digest site.used files, filesIntact, nofun⟩

/-- Over URLs that name files, and with streams that open and take every byte: what the container
holds of a URL after any sessions is what its tmp file held at first and every chunk that arrived
for the URL since, in this order and each once; it is a prefix of the resource, and all of it where
there is a cached file. -/
theorem run_fetchedOnce {files : FileSystem Path} (names : site.NamesFiles)
    (filesIntact : site.FilesIntact files) (used : url ∈ site.used)
    (free : ¬files.Occupied url.cachePath)
    {actions : List ManagerAction} (runs : site.system.Runs (launch files) actions) :
    let final := (site.system.exec (launch files) actions).files
    let received := files.bytesAt (url.tmpPath digest) ++
      (site.system.outputs (World.fetched url) (launch files) actions).flatten
    url.stored digest final = received ∧ received <+: site.content url ∧
      (final.Occupied url.cachePath → received = site.content url) := by
  intro final received
  have start : Outstanding site url (launch files) :=
    (intact_launch_of names filesIntact).outstanding free
  have outstanding := start.exec used runs
  have kept : url.stored digest final = received := by
    have grown := start.stored_exec used runs
    rw [show url.stored digest (launch files).files = files.bytesAt (url.tmpPath digest) from
      NSURL.stored_of_free free] at grown
    exact grown
  refine ⟨kept, ?_, ?_⟩
  · rw [← kept]
    exact outstanding.stored_prefix used
  · intro occupied
    rw [← kept]
    exact outstanding.stored_of_occupied used occupied

end Steps

theorem runs_interrupted : exampleSite.system.Runs (launch emptyContainer) interrupted := by
  refine ⟨⟨trivial, rfl⟩, ⟨by decide, rfl, ?_⟩, ⟨by decide, rfl, ?_⟩, ⟨trivial, trivial⟩,
    ⟨trivial, rfl⟩, ⟨by decide, rfl, ?_⟩, trivial⟩
  · rintro record ⟨⟩
    exact ⟨rfl, rfl⟩
  · rintro record ⟨⟩
    exact ⟨[3, 4, 5], rfl⟩
  · rintro record ⟨⟩
    exact ⟨rfl, rfl⟩

/-- The two bytes that arrived before the kill are there when the next session continues. -/
theorem run_fetchedOnce_interrupted : exampleURL.stored exampleDigest
    (exampleSite.system.exec (launch emptyContainer) interrupted).files = [1, 2] := by
  have free : ¬emptyContainer.Occupied exampleURL.cachePath := by decide
  have once := run_fetchedOnce namesFiles_exampleSite
    (filesIntact_emptyContainer namesFiles_exampleSite) (Set.mem_singleton _) free runs_interrupted
  exact once.1.trans (by decide +kernel)

end ZFBaseFramework
