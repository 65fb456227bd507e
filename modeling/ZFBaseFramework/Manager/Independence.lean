import ZFBaseFramework.Library.Projection
import ZFBaseFramework.Manager.Separation

/-!
# Downloads are independent

A step of the manager concerns one URL, or all of them in the same way: `Alone` says what
it does to the lanes. In runs without restarts over URLs with different keys and cache
paths, every URL therefore goes through what it would go through on its own, whatever is
downloaded beside it: `run_lane`, and the client of a URL cannot tell two runs apart in
which the same things happen to it: `runs_lane_agree`.
-/

namespace ZFBaseFramework

open ZFFileManagerTool World

/-- The step changes the lane of one URL as an action of its own does and tells its client as much;
the other URLs neither change nor hear anything. -/
structure Alone (digest : MessageDigest) (used : Set NSURL) (url : NSURL) (world after : World)
    (action : LaneAction) : Prop where
  lane : after.lane digest url = (world.lane digest url).perform action
  heard : heard digest url world after = (world.lane digest url).said digest url action
  elsewhere : ∀ other ∈ used, other ≠ url →
    after.lane digest other = world.lane digest other ∧ World.heard digest other world after = []

section Files

variable {digest : MessageDigest} {url : NSURL} {files : FileSystem Path} {lane : Lane}

theorem placeable_iff (io : LocalIO) (tmp : files.lookup (url.tmpPath digest) = lane.tmp)
    (cache : files.lookup url.cachePath = lane.cache) :
    lane.Placeable io ↔
      io.moves = true ∧ CanMove files (some (url.tmpPath digest)) (some url.cachePath) := by
  rw [Lane.Placeable, ← tmp, ← cache]
  rfl

/-- Moving the tmp file shows as placing it. -/
theorem lookup_move_lane (io : LocalIO) (tmp : files.lookup (url.tmpPath digest) = lane.tmp)
    (cache : files.lookup url.cachePath = lane.cache) :
    let moved := if io.moves then moveFile files (some (url.tmpPath digest)) (some url.cachePath)
      else files
    moved.lookup (url.tmpPath digest) = (lane.place io).tmp ∧
      moved.lookup url.cachePath = (lane.place io).cache := by
  have distinct := NSURL.tmpPath_ne_cachePath digest url url
  by_cases placeable : lane.Placeable io
  · rcases (placeable_iff io tmp cache).mp placeable with ⟨moves, movable⟩
    have movable : files.Movable (url.tmpPath digest) url.cachePath := movable
    simp only [moves, if_true, moveFile, if_pos movable, Lane.place, if_pos placeable,
      FileSystem.lookup_move, if_neg distinct, tmp]
    exact ⟨trivial, trivial⟩
  · have still : (if io.moves then
        moveFile files (some (url.tmpPath digest)) (some url.cachePath) else files) = files := by
      split
      · rename_i moves
        rw [moveFile, if_neg]
        exact fun movable => placeable ((placeable_iff io tmp cache).mpr ⟨moves, movable⟩)
      · rfl
    simp only [still, Lane.place, if_neg placeable]
    exact ⟨tmp, cache⟩

theorem reverse_placement (world : World) (loader : DownLoaderId) (io : LocalIO) :
    (world.placement loader io).reverse = world.placement loader io := by
  rw [World.placement]
  split <;> rfl

/-- The announcement of a move shows as that of placing the tmp file. -/
theorem Separate.placement_lane {used : Set NSURL} {world : World} {task : TaskId}
    {record : DataTask} (separate : Separate digest used world)
    (found : world.tasks task = some record) (live : record.phase ≠ .ended) (io : LocalIO) :
    (world.placement record.delegate io).map Effect.unnumbered =
      (world.lane digest record.originalURL).placement record.originalURL io := by
  have tmpPath := (separate.faithful.live found live).2.2.2
  have cachePath := (separate.bound found live).cachePath
  have same := @placeable_iff digest record.originalURL world.files
    (world.lane digest record.originalURL) io rfl rfl
  rw [World.placement, tmpPath, cachePath, Lane.placement, apply_ite (List.map Effect.unnumbered)]
  exact if_congr same.symm rfl rfl

/-- Opening the output stream shows as opening the tmp file. -/
theorem open_lane (io : LocalIO) (tmp : files.lookup (url.tmpPath digest) = lane.tmp)
    (cache : files.lookup url.cachePath = lane.cache) :
    let opening := NSOutputStream.openAppending files (some (url.tmpPath digest)) io
    opening.1.lookup (url.tmpPath digest) = lane.opened io ∧
      opening.1.lookup url.cachePath = lane.cache ∧ opening.2.node.isSome = lane.takes io := by
  have distinct := NSURL.cachePath_ne_tmpPath digest url url
  cases opens : io.opens with
  | false => simp [NSOutputStream.openAppending, opens, Lane.opened, Lane.takes, tmp, cache]
  | true =>
      simp only [NSOutputStream.openAppending, opens, if_true, Lane.opened, Lane.takes,
        Bool.true_and, FileSystem.lookup_touch, if_neg distinct, tmp, cache, true_and]
      have present : (files.touch (url.tmpPath digest)).lookup (url.tmpPath digest) =
          some (lane.tmp.getD (.file [])) := by
        rw [FileSystem.lookup_touch, if_pos rfl, tmp]
      rcases FileSystem.node_of_lookup present with ⟨node, linked, held⟩
      rw [FileSystem.writable, present]
      cases lane.tmp.getD (.file []) with
      | file bytes => simp [linked]
      | directory size => rfl

end Files

theorem eq_wrapped {block : Option CompletionBlock} {key : String}
    (keyed : block.bind CompletionBlock.registryKey = some key) :
    block = some ⟨some key, block.bind CompletionBlock.client⟩ := by
  rcases Option.bind_eq_some_iff.mp keyed with ⟨⟨held, client⟩, rfl, rfl⟩
  rfl

section Steps

variable {digest : MessageDigest} {used : Set NSURL} {world after : World} {url : NSURL}
  {task : TaskId} {record changed : DataTask} {fields : ZFDownLoader} {action : LaneAction}

theorem lane_of_registered {loader : DownLoaderId}
    (registered : world.registered digest url = some loader)
    (current : (world.downLoaders loader).task = some task)
    (found : world.tasks task = some record) :
    world.lane digest url =
      ⟨world.files.lookup (url.tmpPath digest), world.files.lookup url.cachePath,
        some (.of (world.downLoaders loader) record)⟩ := by
  simp [World.lane, registered, current, found]

theorem lane_of_unregistered (unregistered : world.registered digest url = none) :
    world.lane digest url =
      ⟨world.files.lookup (url.tmpPath digest), world.files.lookup url.cachePath, none⟩ := by
  simp [World.lane, unregistered]

/-- The registered downloader of a URL in use has its live task. -/
theorem Separate.registered (separate : Separate digest used world) (apart : Apart digest used)
    (usedURL : url ∈ used) {loader : DownLoaderId}
    (registered : world.registered digest url = some loader) :
    ∃ task record, world.tasks task = some record ∧ record.phase ≠ .ended ∧
      record.originalURL = url ∧ record.delegate = loader ∧
      (world.downLoaders loader).task = some task := by
  rcases separate.faithful.entry registered with ⟨task, record, found, live, keyed, rfl⟩
  have facts := separate.faithful.live found live
  exact ⟨task, record, found, live, apart.keys facts.1 usedURL keyed, rfl, facts.2.2.1⟩

theorem heard_of_own {fresh : List Effect} (logged : after.log = fresh ++ world.log)
    (own : ∀ effect ∈ fresh, (after.downLoaders effect.loader).downLoadTmpPath =
      some (url.tmpPath digest)) :
    heard digest url world after = fresh.reverse.map Effect.unnumbered := by
  rw [heard, freshEffects_eq logged, List.filter_eq_self.mpr]
  intro effect present
  exact decide_eq_true (own effect (List.mem_reverse.mp present))

theorem heard_of_foreign {fresh : List Effect} (logged : after.log = fresh ++ world.log)
    (foreign : ∀ effect ∈ fresh, (after.downLoaders effect.loader).downLoadTmpPath ≠
      some (url.tmpPath digest)) : heard digest url world after = [] := by
  rw [heard, freshEffects_eq logged, List.filter_eq_nil_iff.mpr]
  · rfl
  · intro effect present same
    exact foreign effect (List.mem_reverse.mp present) (of_decide_eq_true same)

/-- The lanes of other URLs stay, as long as their files, entries, downloaders and tasks do. -/
theorem Separate.lane_elsewhere (separate : Separate digest used world)
    (apart : Apart digest used) (urlUsed : url ∈ used)
    (tmp : after.files.lookup (url.tmpPath digest) = world.files.lookup (url.tmpPath digest))
    (cache : after.files.lookup url.cachePath = world.files.lookup url.cachePath)
    (registered : after.registered digest url = world.registered digest url)
    (kept : ∀ {task record}, world.tasks task = some record → record.phase ≠ .ended →
      record.originalURL = url →
      after.downLoaders record.delegate = world.downLoaders record.delegate ∧
        after.tasks task = some record) :
    after.lane digest url = world.lane digest url := by
  cases held : world.registered digest url with
  | none =>
      rw [held] at registered
      rw [lane_of_unregistered registered, lane_of_unregistered held, tmp, cache]
  | some loader =>
      rcases separate.registered apart urlUsed held with
        ⟨task, record, found, live, same, rfl, current⟩
      rcases kept found live same with ⟨fields, foundAfter⟩
      rw [held] at registered
      rw [lane_of_registered held current found, lane_of_registered registered _ foundAfter, tmp,
        cache, fields]
      rwa [fields]

/-- A step that touches only a live task, its downloader and the paths of its URL. -/
theorem Alone.of_touches (separate : Separate digest used world) (apart : Apart digest used)
    (found : world.tasks task = some record) (live : record.phase ≠ .ended)
    (touches : world.Touches after record.delegate fields task changed)
    (confined : Confined digest record.originalURL world.files after.files)
    (tmpPath : fields.downLoadTmpPath = (world.downLoaders record.delegate).downLoadTmpPath)
    (registered : ∀ other ∈ used, other ≠ record.originalURL →
      after.registered digest other = world.registered digest other)
    {fresh : List Effect} (logged : after.log = fresh ++ world.log)
    (own : ∀ effect ∈ fresh, effect.loader = record.delegate)
    (lane : after.lane digest record.originalURL =
      (world.lane digest record.originalURL).perform action)
    (said : fresh.reverse.map Effect.unnumbered =
      (world.lane digest record.originalURL).said digest record.originalURL action) :
    Alone digest used record.originalURL world after action := by
  have facts := separate.faithful.live found live
  have path : ∀ effect ∈ fresh, (after.downLoaders effect.loader).downLoadTmpPath =
      some (record.originalURL.tmpPath digest) := by
    intro effect present
    rw [own effect present, touches.downLoaders, Function.update_self, tmpPath]
    exact facts.2.2.2
  refine ⟨lane, ?_, ?_⟩
  · rw [heard_of_own logged path, said]
  · intro other otherUsed different
    have files := confined.elsewhere apart otherUsed facts.1 different
    constructor
    · apply separate.lane_elsewhere apart otherUsed files.1 files.2.1
        (registered other otherUsed different)
      intro otherTask otherRecord otherFound otherLive same
      have others := separate.faithful.live otherFound otherLive
      have tasks : otherTask ≠ task := by
        rintro rfl
        cases found.symm.trans otherFound
        exact different same.symm
      have delegates : otherRecord.delegate ≠ record.delegate := by
        intro shared
        rw [shared, facts.2.2.1, Option.some.injEq] at others
        exact tasks others.2.2.1.symm
      rw [touches.downLoaders, touches.tasks, Function.update_of_ne delegates,
        Function.update_of_ne tasks]
      exact ⟨rfl, otherFound⟩
    · apply heard_of_foreign logged
      intro effect present
      rw [path effect present, ne_eq, Option.some.injEq]
      exact apart.tmpPath_ne facts.1 otherUsed different.symm

/-- A live task shows as the transfer of its URL. -/
theorem Separate.lane_live (separate : Separate digest used world)
    (found : world.tasks task = some record) (live : record.phase ≠ .ended) :
    world.lane digest record.originalURL =
      ⟨world.files.lookup (record.originalURL.tmpPath digest),
        world.files.lookup record.originalURL.cachePath,
        some (.of (world.downLoaders record.delegate) record)⟩ :=
  have facts := separate.faithful.live found live
  lane_of_registered facts.2.1 facts.2.2.1 found

/-- So it does after a step that keeps it live. -/
theorem Separate.lane_touched (separate : Separate digest used world)
    (found : world.tasks task = some record) (live : record.phase ≠ .ended)
    (touches : world.Touches after record.delegate fields task changed)
    (current : fields.task = (world.downLoaders record.delegate).task)
    (infos : after.downLoaderInfos = world.downLoaderInfos) :
    after.lane digest record.originalURL =
      ⟨after.files.lookup (record.originalURL.tmpPath digest),
        after.files.lookup record.originalURL.cachePath, some (.of fields changed)⟩ := by
  have facts := separate.faithful.live found live
  have mine : after.downLoaders record.delegate = fields := by
    rw [touches.downLoaders, Function.update_self]
  have registered : after.registered digest record.originalURL = some record.delegate := by
    rw [World.registered, infos]
    exact facts.2.1
  have foundAfter : after.tasks task = some changed := by
    rw [touches.tasks, Function.update_self]
  have currentAfter : (after.downLoaders record.delegate).task = some task := by
    rw [mine, current, facts.2.2.1]
  rw [lane_of_registered registered currentAfter foundAfter, mine]

theorem Alone.response (separate : Separate digest used world) (apart : Apart digest used)
    (found : world.tasks task = some record) (live : record.phase ≠ .ended)
    {response : NSHTTPURLResponse} {io : LocalIO}
    (enough : ((world.downLoaders record.delegate).tmpSize : ℤ) ≤ response.totalSize) :
    Alone digest used record.originalURL world (world.deliver (.response task response io))
      (.response response.totalSize io) := by
  have tmpPath := (separate.faithful.live found live).2.2.2
  have cachePath := (separate.bound found live).cachePath
  have infos := downLoaderInfos_response response io found
  have lane := separate.lane_live found live
  have registered : ∀ other, (world.deliver (.response task response io)).registered digest other =
      world.registered digest other := by
    intro other
    rw [World.registered, infos]
    rfl
  have held : (world.lane digest record.originalURL).transfer =
      some (.of (world.downLoaders record.delegate) record) := by
    rw [lane]
  rcases lt_or_eq_of_le enough with short | full
  · have touches := touches_opened io found short
    have files := files_opened io found short
    rw [tmpPath] at files
    rcases @open_lane digest record.originalURL world.files
      (world.lane digest record.originalURL) io rfl rfl with ⟨tmp, cache, takes⟩
    refine Alone.of_touches separate apart found live touches ?_ rfl
      (fun other _ _ => registered other) (log_opened io found short) ?_ ?_ ?_
    · rw [files]
      exact confined_open world.files record.originalURL io
    · simp [Effect.loader]
    · rw [separate.lane_touched found live touches rfl infos, files, tmp, cache,
        Lane.perform_opened held short, ← takes, tmpPath]
      rfl
    · rw [Lane.said_opened held short]
      rfl
  · have touches := touches_finished io found full
    have files := files_finished io found full
    rw [tmpPath, cachePath] at files
    rcases @lookup_move_lane digest record.originalURL world.files
      (world.lane digest record.originalURL) io rfl rfl with ⟨tmp, cache⟩
    refine Alone.of_touches separate apart found live touches ?_ rfl
      (fun other _ _ => registered other) (log_finished io found full) ?_ ?_ ?_
    · rw [files]
      exact confined_move world.files record.originalURL io
    · rw [placement]
      split <;> simp [Effect.loader]
    · rw [separate.lane_touched found live touches rfl infos, files, tmp, cache,
        Lane.perform_finished held full]
      rfl
    · rw [Lane.said_finished held full, ← separate.placement_lane found live]
      simp [Effect.unnumbered, reverse_placement, Transfer.of]

theorem Alone.data (separate : Separate digest used world) (apart : Apart digest used)
    (found : world.tasks task = some record) (allowed : record.phase = .allowed)
    (bytes : List UInt8) (io : LocalIO) :
    Alone digest used record.originalURL world (world.deliver (.data task bytes io))
      (.data bytes io) := by
  have live : record.phase ≠ .ended := by simp [allowed]
  have bound := separate.bound found live
  have infos := downLoaderInfos_data bytes io found
  have touches := touches_data bytes io found
  have files := files_data bytes io found
  have lane := separate.lane_live found live
  have held : (world.lane digest record.originalURL).transfer =
      some (.of (world.downLoaders record.delegate) record) := by
    rw [lane]
  have tmpCache : (world.deliver (.data task bytes io)).files.lookup
        (record.originalURL.tmpPath digest) =
      (if (world.downLoaders record.delegate).streamNode.isSome then
        (world.files.lookup (record.originalURL.tmpPath digest)).map (Item.extend (io.taken bytes))
       else world.files.lookup (record.originalURL.tmpPath digest)) ∧
      (world.deliver (.data task bytes io)).files.lookup record.originalURL.cachePath =
        world.files.lookup record.originalURL.cachePath := by
    rw [files]
    cases opened : (world.downLoaders record.delegate).streamNode with
    | none => exact ⟨rfl, rfl⟩
    | some node =>
        have linked := bound.stream allowed node opened
        have different : world.files.node record.originalURL.cachePath ≠ some node := fun same =>
          NSURL.cachePath_ne_tmpPath _ _ _ (world.files.node_inj same linked)
        exact ⟨by simp [FileSystem.lookup_append, linked],
          by simp [FileSystem.lookup_append, different]⟩
  refine Alone.of_touches separate apart found live touches ?_ rfl (fun _ _ _ => ?_)
    (log_data bytes io found) ?_ ?_ ?_
  · rw [files]
    split
    · exact fun _ _ _ => ⟨rfl, rfl⟩
    · rename_i node opened
      exact confined_append _ (bound.stream allowed node opened)
  · rw [World.registered, infos]
    rfl
  · split <;> simp [Effect.loader]
  · rw [separate.lane_touched found live touches rfl infos, tmpCache.1, tmpCache.2,
      Lane.perform_data held, lane]
    rfl
  · rw [Lane.said_data held]
    cases opened : (world.downLoaders record.delegate).streamNode with
    | none => simp [Effect.unnumbered, Transfer.of, opened]
    | some node => simp [Effect.unnumbered, Transfer.of, opened]

/-- A completion removes the entry of its URL, whether the transfer has failed or not. -/
theorem registered_complete (separate : Separate digest used world)
    (found : world.tasks task = some record) (live : record.phase ≠ .ended)
    (error : Option NSError) (io : LocalIO) (other : NSURL) :
    (world.deliver (.complete task error io)).registered digest other =
      if record.originalURL.key digest = other.key digest then none
      else world.registered digest other := by
  have entry := separate.owned.entry (separate.faithful.live found live).2.1
  have removed : (outcomeBlock (world.downLoaders record.delegate) error).bind
      CompletionBlock.registryKey = some (record.originalURL.key digest) := by
    cases error with
    | none => exact entry.success
    | some failure => exact entry.fail
  rw [World.registered, downLoaderInfos_complete error io found, lookup_withoutKey]
  simp only [removed, Option.some.injEq]
  rfl

theorem Alone.complete (separate : Separate digest used world) (apart : Apart digest used)
    (found : world.tasks task = some record) (live : record.phase ≠ .ended)
    (error : Option NSError) (io : LocalIO) :
    Alone digest used record.originalURL world (world.deliver (.complete task error io))
      (.complete error io) := by
  have facts := separate.faithful.live found live
  have cachePath := (separate.bound found live).cachePath
  have entry := separate.owned.entry facts.2.1
  have touches := touches_complete error io found
  have lane := separate.lane_live found live
  have held : (world.lane digest record.originalURL).transfer =
      some (.of (world.downLoaders record.delegate) record) := by
    rw [lane]
  have unregistered : (world.deliver (.complete task error io)).registered digest
      record.originalURL = none := by
    rw [registered_complete separate found live, if_pos rfl]
  have others : ∀ other ∈ used, other ≠ record.originalURL →
      (world.deliver (.complete task error io)).registered digest other =
        world.registered digest other := by
    intro other otherUsed different
    rw [registered_complete separate found live, if_neg]
    exact fun same => different (apart.keys otherUsed facts.1 same.symm)
  cases error with
  | none =>
      have files := files_complete_finished io found
      rw [facts.2.2.2, cachePath] at files
      rcases @lookup_move_lane digest record.originalURL world.files
        (world.lane digest record.originalURL) io rfl rfl with ⟨tmp, cache⟩
      refine Alone.of_touches separate apart found live touches ?_ rfl others
        (log_complete_finished io found) ?_ ?_ ?_
      · rw [files]
        exact confined_move world.files record.originalURL io
      · rw [placement]
        split <;> simp [Effect.loader]
      · rw [lane_of_unregistered unregistered, files, tmp, cache]
        rfl
      · rw [Lane.said_complete_finished held, ← separate.placement_lane found live, cachePath,
          eq_wrapped entry.success]
        simp [Effect.unnumbered, reverse_placement, Transfer.of, ClientBlocks.wrap]
  | some failure =>
      have files := files_complete_failed io found failure
      refine Alone.of_touches separate apart found live touches ?_ rfl others
        (log_complete_failed io found failure) (by simp [Effect.loader]) ?_ ?_
      · rw [files]
        exact fun _ _ _ => ⟨rfl, rfl⟩
      · rw [lane_of_unregistered unregistered, files, lane]
        rfl
      · rw [Lane.said_complete_failed held, eq_wrapped entry.fail]
        simp [Effect.unnumbered, Transfer.of, ClientBlocks.wrap]

theorem heard_self (digest : MessageDigest) (url : NSURL) (world : World) :
    heard digest url world world = [] :=
  @heard_of_foreign digest world world url [] rfl nofun

/-- Pausing or resuming the registered download of a URL. -/
theorem Alone.switch (separate : Separate digest used world) (apart : Apart digest used)
    (found : world.tasks task = some record) (live : record.phase ≠ .ended)
    {source target : ZFDownLoaderState} {suspended : Bool}
    (perform : ∀ lane : Lane, lane.perform action = lane.change (·.switch source target suspended))
    (said : ∀ lane : Lane, lane.said digest record.originalURL action =
      lane.switchSaid source target) :
    Alone digest used record.originalURL world
      (world.switch record.delegate source target suspended) action := by
  have facts := separate.faithful.live found live
  have lane := separate.lane_live found live
  by_cases standing : (world.downLoaders record.delegate).state = source
  · have touches := touches_switch target suspended standing facts.2.2.1 found
    have logged : (world.switch record.delegate source target suspended).log =
        [.state record.delegate (world.downLoaders record.delegate).dloadStateChange target] ++
          world.log := by
      rw [log_switch, if_pos standing]
      rfl
    refine Alone.of_touches separate apart found live touches ?_ rfl (fun _ _ _ => ?_) logged
      (by simp [Effect.loader]) ?_ ?_
    · rw [files_switch]
      exact fun _ _ _ => ⟨rfl, rfl⟩
    · rw [World.registered, downLoaderInfos_switch]
      rfl
    · rw [separate.lane_touched found live touches rfl downLoaderInfos_switch, files_switch,
        perform, lane]
      simp [Lane.change, Transfer.switch, Transfer.of, standing, ZFDownLoader.streamNode]
    · simp [said, lane, Lane.switchSaid, Transfer.of, standing, Effect.unnumbered]
  · rw [switch_of_ne standing]
    refine ⟨?_, ?_, fun other _ _ => ⟨rfl, heard_self digest other world⟩⟩
    · rw [perform, lane]
      simp [Lane.change, Transfer.switch, Transfer.of, standing]
    · rw [heard_self, said, lane]
      simp [Lane.switchSaid, Transfer.of, standing]

/-- Cancelling the registered download of a URL. -/
theorem Alone.cancel (separate : Separate digest used world) (apart : Apart digest used)
    (found : world.tasks task = some record) (live : record.phase ≠ .ended) :
    Alone digest used record.originalURL world (world.cancel record.delegate) .cancel := by
  have touches := separate.touches_cancel found live
  have lane := separate.lane_live found live
  have logged : (world.cancel record.delegate).log = [] ++ world.log := log_cancel
  refine Alone.of_touches separate apart found live touches ?_ rfl (fun _ _ _ => ?_) logged nofun
    ?_ rfl
  · rw [files_cancel]
    exact fun _ _ _ => ⟨rfl, rfl⟩
  · rw [World.registered, downLoaderInfos_cancel]
    rfl
  · rw [separate.lane_touched found live touches rfl downLoaderInfos_cancel, files_cancel, lane]
    rfl

/-- A step that no more than gives the URL a downloader of its own. -/
theorem Alone.of_begun (separate : Separate digest used world) (apart : Apart digest used)
    (usedURL : url ∈ used)
    (downLoaders : after.downLoaders =
      Function.update world.downLoaders world.downLoaderCount fields)
    (tmpPath : fields.downLoadTmpPath = some (url.tmpPath digest))
    (tasks : ∀ {task record}, world.tasks task = some record → after.tasks task = some record)
    (files : after.files = world.files)
    (registered : ∀ other ∈ used, other ≠ url →
      after.registered digest other = world.registered digest other)
    {fresh : List Effect} (logged : after.log = fresh ++ world.log)
    (own : ∀ effect ∈ fresh, effect.loader = world.downLoaderCount)
    (lane : after.lane digest url = (world.lane digest url).perform action)
    (said : fresh.reverse.map Effect.unnumbered =
      (world.lane digest url).said digest url action) :
    Alone digest used url world after action := by
  have path : ∀ effect ∈ fresh, (after.downLoaders effect.loader).downLoadTmpPath =
      some (url.tmpPath digest) := by
    intro effect present
    rw [own effect present, downLoaders, Function.update_self, tmpPath]
  refine ⟨lane, ?_, ?_⟩
  · rw [heard_of_own logged path, said]
  · intro other otherUsed different
    constructor
    · apply separate.lane_elsewhere apart otherUsed (by rw [files]) (by rw [files])
        (registered other otherUsed different)
      intro task record found _ _
      rw [downLoaders, Function.update_of_ne (separate.owned.used found).2.ne]
      exact ⟨rfl, tasks found⟩
    · apply heard_of_foreign logged
      intro effect present
      rw [path effect present, ne_eq, Option.some.injEq]
      exact apart.tmpPath_ne usedURL otherUsed different.symm

/-- A download that begins, with or without a cached file. -/
theorem Alone.begin (separate : Separate digest used world) (apart : Apart digest used)
    (usedURL : url ∈ used) (unregistered : world.registered digest url = none)
    (blocks : ClientBlocks) :
    Alone digest used url world (world.begin digest url blocks) (.downLoad blocks) := by
  have lane := lane_of_unregistered unregistered
  by_cases occupied : world.files.Occupied url.cachePath
  · have begins := begin_cached blocks unregistered occupied
    have present : (world.files.lookup url.cachePath).isSome = true := occupied
    refine Alone.of_begun separate apart usedURL begins.downLoaders rfl ?_ begins.files
      (fun other _ _ => begins.lookup (other.key digest)) begins.log (by simp [Effect.loader]) ?_ ?_
    · intro task record found
      rwa [begins.tasks]
    · have still : (world.begin digest url blocks).registered digest url = none :=
        (begins.lookup (url.key digest)).trans unregistered
      rw [lane_of_unregistered still, lane, begins.files]
      simp [Lane.perform, present]
    · simp [lane, Lane.said, present, Effect.unnumbered, fileTotalSize, Lane.size]
  · have begins := begin_task digest blocks occupied
    have absent : ¬(world.files.lookup url.cachePath).isSome = true := occupied
    have tasks := begins.tasks
    rw [separate.tasks_cancel_fresh] at tasks
    refine Alone.of_begun separate apart usedURL begins.downLoaders rfl ?_ begins.files
      ?_ begins.log (by simp [Effect.loader]) ?_ ?_
    · intro task record found
      rw [tasks, Function.update_of_ne (separate.owned.used found).1.ne]
      exact found
    · intro other otherUsed different
      rw [World.registered, begins.lookup, if_neg]
      · rfl
      · exact fun same => different (apart.keys otherUsed usedURL same)
    · have mine : (world.begin digest url blocks).registered digest url =
          some world.downLoaderCount := by
        rw [World.registered, begins.lookup, if_pos rfl]
      have fields : (world.begin digest url blocks).downLoaders world.downLoaderCount =
          begunFields digest world url blocks := by
        rw [begins.downLoaders, Function.update_self]
      have started : (world.begin digest url blocks).tasks world.taskCount =
          some (begunTask digest world url) := by
        rw [tasks, Function.update_self]
      rw [lane_of_registered mine (by rw [fields]; rfl) started, fields, lane, begins.files]
      simp [Lane.perform, absent]
      rfl
    · simp [lane, Lane.said, absent, Effect.unnumbered, fileTotalSize, Lane.size]

/-- A message that the manager sends to its downloaders, and the action that the URL of each of
them sees. -/
structure Message (digest : MessageDigest) (used : Set NSURL)
    (method : World → DownLoaderId → World) (action : LaneAction) : Prop where
  kept : ∀ {world} loader, Separate digest used world → Separate digest used (method world loader)
  same : ∀ world loader, SameTransfers world (method world loader)
  logged : ∀ world loader, ∃ fresh, (method world loader).log = fresh ++ world.log
  alone : ∀ {world task record}, Separate digest used world → world.tasks task = some record →
    record.phase ≠ .ended →
    Alone digest used record.originalURL world (method world record.delegate) action
  idle : ∀ url, ∀ lane : Lane, lane.transfer = none →
    lane.perform action = lane ∧ lane.said digest url action = []

theorem message_switch (apart : Apart digest used) {source target : ZFDownLoaderState}
    {suspended : Bool}
    (between : source = .downing ∧ target = .pause ∧ suspended = true ∨
      source = .pause ∧ target = .downing ∧ suspended = false)
    (perform : ∀ lane : Lane, lane.perform action = lane.change (·.switch source target suspended))
    (said : ∀ url, ∀ lane : Lane, lane.said digest url action = lane.switchSaid source target) :
    Message digest used (fun world loader => world.switch loader source target suspended)
      action where
  kept loader separate := separate.switch loader between
  same world loader := sameTransfers_switch world loader source target suspended
  logged world loader := by
    rw [log_switch]
    split
    · exact ⟨[_], rfl⟩
    · exact ⟨[], rfl⟩
  alone separate found live := Alone.switch separate apart found live perform (said _)
  idle url lane none := by
    rcases lane with ⟨tmp, cache, transfer⟩
    cases none
    rw [perform, said]
    exact ⟨rfl, rfl⟩

theorem message_pause (apart : Apart digest used) : Message digest used World.pause .pause :=
  message_switch apart (Or.inl ⟨rfl, rfl, rfl⟩) (fun _ => rfl) fun _ _ => rfl

theorem message_resume (apart : Apart digest used) : Message digest used World.resume .resume :=
  message_switch apart (Or.inr ⟨rfl, rfl, rfl⟩) (fun _ => rfl) fun _ _ => rfl

theorem message_cancel (apart : Apart digest used) : Message digest used World.cancel .cancel where
  kept loader separate := separate.cancel loader
  same world loader := sameTransfers_cancel world loader
  logged world loader := ⟨[], log_cancel⟩
  alone separate found live := Alone.cancel separate apart found live
  idle url lane none := by
    rcases lane with ⟨tmp, cache, transfer⟩
    cases none
    exact ⟨rfl, rfl⟩

/-- What is heard of two steps, as long as the second one leaves the tmp paths of downloaders
alone. -/
theorem heard_trans {middle : World} {first second : List Effect}
    (firstLogged : middle.log = first ++ world.log)
    (secondLogged : after.log = second ++ middle.log)
    (paths : ∀ loader, (after.downLoaders loader).downLoadTmpPath =
      (middle.downLoaders loader).downLoadTmpPath) :
    heard digest url world after =
      heard digest url world middle ++ heard digest url middle after := by
  have logged : after.log = (second ++ first) ++ world.log := by
    rw [secondLogged, firstLogged, List.append_assoc]
  rw [heard, heard, heard, freshEffects_eq logged, freshEffects_eq firstLogged,
    freshEffects_eq secondLogged, List.reverse_append, List.filter_append, List.map_append]
  simp only [paths]

namespace Message

variable {method : World → DownLoaderId → World}

theorem paths (message : Message digest used method action) (world : World)
    (loader other : DownLoaderId) :
    ((method world loader).downLoaders other).downLoadTmpPath =
      (world.downLoaders other).downLoadTmpPath := by
  rcases (message.same world loader).downLoaders other with ⟨state, session, fields⟩
  rw [fields]

/-- A message to the downloader of one URL. -/
theorem send (message : Message digest used method action) (separate : Separate digest used world)
    (apart : Apart digest used) (urlUsed : url ∈ used) (other : NSURL) :
    if other.key digest = url.key digest then
      (world.send digest other method).lane digest url = (world.lane digest url).perform action ∧
        heard digest url world (world.send digest other method) =
          (world.lane digest url).said digest url action
    else
      (world.send digest other method).lane digest url = world.lane digest url ∧
        heard digest url world (world.send digest other method) = [] := by
  rw [World.send]
  cases held : world.registered digest other with
  | none =>
      split
      · rename_i same
        have mine : world.registered digest url = none := by
          rw [World.registered, ← same]
          exact held
        have none : (world.lane digest url).transfer = none := by
          rw [lane_of_unregistered mine]
        rw [(message.idle url _ none).1, (message.idle url _ none).2]
        exact ⟨rfl, heard_self digest url world⟩
      · exact ⟨rfl, heard_self digest url world⟩
  | some loader =>
      rcases separate.faithful.entry held with ⟨task, record, found, live, keyed, rfl⟩
      have alone := message.alone separate found live
      have recordUsed := (separate.faithful.live found live).1
      simp only [← keyed]
      split
      · rename_i same
        rw [← apart.keys recordUsed urlUsed same]
        exact ⟨alone.lane, alone.heard⟩
      · rename_i different
        exact alone.elsewhere url urlUsed fun same => different (by rw [same])

/-- The downloaders of different entries are different. -/
theorem nodup_loaders (separate : Separate digest used world) :
    (world.downLoaderInfos.entries.map Sigma.snd).Nodup := by
  apply List.Nodup.map_on _ world.downLoaderInfos.nodupKeys.nodup
  rintro ⟨firstKey, first⟩ firstMember ⟨secondKey, second⟩ secondMember same
  have firstKeyed := (separate.owned.entry (AList.mem_lookup_iff.mpr firstMember)).success
  have secondKeyed := (separate.owned.entry (AList.mem_lookup_iff.mpr secondMember)).success
  simp only at same
  rw [same, secondKeyed, Option.some.injEq] at firstKeyed
  rw [same, firstKeyed]

/-- A message to all downloaders is on its way to them since a moment. -/
structure Broadcasting (digest : MessageDigest) (used : Set NSURL) (start world : World) :
    Prop where
  separate : Separate digest used world
  downLoaderInfos : world.downLoaderInfos = start.downLoaderInfos
  logged : ∃ fresh, world.log = fresh ++ start.log

/-- What a URL has come to since a moment. -/
def since (digest : MessageDigest) (url : NSURL) (start world : World) : Lane × List Effect :=
  (world.lane digest url, heard digest url start world)

theorem broadcasting (message : Message digest used method action) {middle : World}
    (loader : DownLoaderId) (going : Broadcasting digest used world middle) :
    Broadcasting digest used world (method middle loader) := by
  rcases going with ⟨separate, infos, fresh, logged⟩
  rcases message.logged middle loader with ⟨news, newsLogged⟩
  refine ⟨message.kept loader separate, ?_, news ++ fresh, ?_⟩
  · rw [(message.same middle loader).downLoaderInfos, infos]
  · rw [newsLogged, logged, List.append_assoc]

theorem heard_method (message : Message digest used method action) {middle : World}
    (loader : DownLoaderId) (going : Broadcasting digest used world middle) :
    heard digest url world (method middle loader) =
      heard digest url world middle ++ heard digest url middle (method middle loader) := by
  rcases going.logged with ⟨fresh, logged⟩
  rcases message.logged middle loader with ⟨news, newsLogged⟩
  exact heard_trans logged newsLogged (message.paths middle loader)

/-- The downloader of another entry has its message. -/
theorem since_of_other (message : Message digest used method action) (urlUsed : url ∈ used)
    {middle : World} {loader : DownLoaderId} (going : Broadcasting digest used world middle)
    (member : loader ∈ world.downLoaderInfos.entries.map Sigma.snd)
    (other : world.registered digest url ≠ some loader) :
    since digest url world (method middle loader) = since digest url world middle := by
  rcases List.mem_map.mp member with ⟨⟨key, held⟩, listed, rfl⟩
  have registered : middle.downLoaderInfos.lookup key = some held := by
    rw [going.downLoaderInfos]
    exact AList.mem_lookup_iff.mpr listed
  rcases going.separate.faithful.entry registered with ⟨task, record, found, live, keyed, rfl⟩
  have alone := message.alone going.separate found live
  have elsewhere := alone.elsewhere url urlUsed (by
    rintro rfl
    rw [going.downLoaderInfos, ← keyed] at registered
    exact other registered)
  simp only [since, elsewhere.1, message.heard_method record.delegate going, elsewhere.2,
    List.append_nil]

/-- The downloader of the URL has its message. -/
theorem since_of_registered (message : Message digest used method action)
    (apart : Apart digest used) (urlUsed : url ∈ used) {middle : World} {loader : DownLoaderId}
    (going : Broadcasting digest used world middle)
    (registered : world.registered digest url = some loader) :
    since digest url world (method middle loader) =
      ((middle.lane digest url).perform action,
        heard digest url world middle ++ (middle.lane digest url).said digest url action) := by
  have registered : middle.registered digest url = some loader := by
    rw [World.registered, going.downLoaderInfos]
    exact registered
  rcases going.separate.registered apart urlUsed registered with
    ⟨task, record, found, live, rfl, rfl, _⟩
  have alone := message.alone going.separate found live
  simp only [since, alone.lane, message.heard_method record.delegate going, alone.heard]

/-- A message to all downloaders, one after another in whatever order, is for each URL a message to
its own one. -/
theorem broadcast (message : Message digest used method action)
    (separate : Separate digest used world) (apart : Apart digest used) (urlUsed : url ∈ used)
    {order : List DownLoaderId}
    (perm : order.Perm (world.downLoaderInfos.entries.map Sigma.snd)) :
    (order.foldl method world).lane digest url = (world.lane digest url).perform action ∧
      heard digest url world (order.foldl method world) =
        (world.lane digest url).said digest url action := by
  let act := fun shown : Lane × List Effect =>
    (shown.1.perform action, shown.2 ++ shown.1.said digest url action)
  have start : Broadcasting digest used world world := ⟨separate, rfl, [], rfl⟩
  have silent : heard digest url world world = [] := heard_self digest url world
  have kept : ∀ {middle} loader, Broadcasting digest used world middle →
      Broadcasting digest used world (method middle loader) :=
    fun loader going => message.broadcasting loader going
  cases held : world.registered digest url with
  | none =>
      have none : (world.lane digest url).transfer = none := by
        rw [lane_of_unregistered held]
      have shown : since digest url world (order.foldl method world) =
          since digest url world world := by
        apply ActionSystem.view_foldl_of_still kept _ start
        intro middle going loader member
        exact message.since_of_other urlUsed going (perm.mem_iff.mp member) (by simp [held])
      rcases Prod.mk.inj shown with ⟨lane, heard⟩
      rw [lane, heard, silent, (message.idle url _ none).1, (message.idle url _ none).2]
      exact ⟨rfl, rfl⟩
  | some loader =>
      have nodup := perm.nodup_iff.mpr (nodup_loaders separate)
      have member : loader ∈ order := perm.mem_iff.mpr
        (List.mem_map.mpr ⟨⟨url.key digest, loader⟩, AList.mem_lookup_iff.mp held, rfl⟩)
      have own : ∀ {middle}, Broadcasting digest used world middle →
          since digest url world (method middle loader) = act (since digest url world middle) :=
        fun going => message.since_of_registered apart urlUsed going held
      have shown : since digest url world (order.foldl method world) =
          act (since digest url world world) := by
        apply ActionSystem.view_foldl_of_mem kept nodup member own _ start
        intro middle going other listed different
        refine message.since_of_other urlUsed going (perm.mem_iff.mp listed) ?_
        rw [held, ne_eq, Option.some.injEq]
        exact different.symm
      rcases Prod.mk.inj shown with ⟨lane, heard⟩
      rw [lane, heard]
      simp only [since, silent, List.nil_append, and_self]

end Message

/-- What an action does to the lane of a URL, and what its client hears. -/
def InLane (digest : MessageDigest) (url : NSURL) (world after : World) : Option LaneAction → Prop
  | none => after.lane digest url = world.lane digest url ∧ heard digest url world after = []
  | some action => Lane.system.Admits (world.lane digest url) action ∧
      after.lane digest url = Lane.system.perform (world.lane digest url) action ∧
      heard digest url world after = (world.lane digest url).said digest url action

theorem Alone.inLane {owner : NSURL} (alone : Alone digest used owner world after action)
    (urlUsed : url ∈ used) (admits : owner = url → (world.lane digest url).Admits action) :
    InLane digest url world after (if owner = url then some action else none) := by
  split
  · rename_i same
    subst same
    exact ⟨admits rfl, alone.lane, alone.heard⟩
  · rename_i different
    exact alone.elsewhere url urlUsed fun same => different same.symm

theorem inLane_downLoad (separate : Separate digest used world) (apart : Apart digest used)
    (urlUsed : url ∈ used) {other : NSURL} (otherUsed : other ∈ used) (blocks : ClientBlocks) :
    InLane digest url world (world.managerDownLoadWithURL digest other blocks)
      (if other = url then some (.downLoad blocks) else none) := by
  cases held : world.registered digest other with
  | none =>
      rw [managerDownLoadWithURL_unregistered held]
      exact (Alone.begin separate apart otherUsed held blocks).inLane urlUsed fun _ => trivial
  | some loader =>
      rw [managerDownLoadWithURL_registered held]
      rcases separate.registered apart otherUsed held with ⟨task, record, found, live, rfl, rfl, _⟩
      have alone := (message_resume apart).alone separate found live
      have lane := separate.lane_live found live
      -- a registered download treats the call as `resume`
      have same : Alone digest used record.originalURL world (world.resume record.delegate)
          (.downLoad blocks) := by
        refine ⟨alone.lane.trans ?_, alone.heard.trans ?_, alone.elsewhere⟩
        · rw [lane]
          rfl
        · rw [lane]
          rfl
      exact same.inLane urlUsed fun _ => trivial

theorem inLane_deliver (separate : Separate digest used world) (apart : Apart digest used)
    (urlUsed : url ∈ used) {event : DelegateEvent} (deliverable : world.Deliverable event)
    (restartless : Restartless world (.deliver event)) :
    InLane digest url world (world.deliver event) (world.concern digest url (.deliver event)) := by
  have concern : ∀ {task record}, world.tasks task = some record → event.task = task →
      world.concern digest url (.deliver event) =
        if record.originalURL = url then some event.unnumbered else none := by
    rintro task record found rfl
    rw [World.concern, found]
    simp only [Option.map_some, Option.some.injEq]
  cases event with
  | response task response io =>
      rcases exists_of_response deliverable with ⟨record, found, waiting⟩
      have live : record.phase ≠ .ended := by simp [waiting]
      have enough : ((world.downLoaders record.delegate).tmpSize : ℤ) ≤ response.totalSize := by
        simpa [Restartless, delegateOf_eq found] using restartless
      rw [concern found rfl]
      apply (Alone.response separate apart found live enough).inLane urlUsed
      rintro rfl
      rw [separate.lane_live found live]
      exact ⟨_, rfl, waiting, enough⟩
  | data task bytes io =>
      rcases exists_of_data deliverable with ⟨record, found, allowed⟩
      rw [concern found rfl]
      apply (Alone.data separate apart found allowed bytes io).inLane urlUsed
      rintro rfl
      rw [separate.lane_live found (by simp [allowed])]
      exact ⟨_, rfl, allowed⟩
  | complete task error io =>
      rcases exists_of_complete deliverable with ⟨record, found, live, allowed⟩
      rw [concern found rfl]
      apply (Alone.complete separate apart found live error io).inLane urlUsed
      rintro rfl
      rw [separate.lane_live found live]
      exact ⟨_, rfl, allowed⟩

theorem inLane_kill (world : World) :
    InLane digest url world world.kill (some .kill) := by
  refine ⟨trivial, ?_, ?_⟩
  · rw [lane_of_unregistered (show world.kill.registered digest url = none from rfl)]
    rfl
  · exact @heard_of_foreign digest world world.kill url [] rfl nofun

theorem Message.inLane_send {method : World → DownLoaderId → World}
    (message : Message digest used method action) (separate : Separate digest used world)
    (apart : Apart digest used) (urlUsed : url ∈ used) (other : NSURL)
    (admits : ∀ lane : Lane, lane.Admits action) :
    InLane digest url world (world.send digest other method)
      (if other.key digest = url.key digest then some action else none) := by
  have sent := message.send separate apart urlUsed other
  split at sent
  · rename_i same
    rw [if_pos same]
    exact ⟨admits _, sent⟩
  · rename_i different
    rwa [if_neg different]

theorem Message.inLane_sendAll {method : World → DownLoaderId → World}
    (message : Message digest used method action) (separate : Separate digest used world)
    (apart : Apart digest used) (urlUsed : url ∈ used)
    (admits : ∀ lane : Lane, lane.Admits action) :
    InLane digest url world (world.sendAll method) (some action) :=
  ⟨admits _, message.broadcast separate apart urlUsed (List.Perm.refl _)⟩

theorem inLane_perform (separate : Separate digest used world) (apart : Apart digest used)
    (urlUsed : url ∈ used) {action : ManagerAction}
    (admitted : (managerSystem digest).Admits world action) (uses : Uses used action)
    (restartless : Restartless world action) :
    InLane digest url world ((managerSystem digest).perform world action)
      (world.concern digest url action) := by
  cases action with
  | kill => exact inLane_kill world
  | deliver event => exact inLane_deliver separate apart urlUsed admitted restartless
  | call call =>
      cases call with
      | downLoad other blocks =>
          have same : other.key digest = url.key digest ↔ other = url :=
            ⟨apart.keys uses urlUsed, fun same => by rw [same]⟩
          have inLane := inLane_downLoad separate apart urlUsed uses blocks
          simp only [← same] at inLane
          exact inLane
      | pause other =>
          exact (message_pause apart).inLane_send separate apart urlUsed other fun _ => trivial
      | resume other =>
          exact (message_resume apart).inLane_send separate apart urlUsed other fun _ => trivial
      | cancel other =>
          exact (message_cancel apart).inLane_send separate apart urlUsed other fun _ => trivial
      | pauseAll =>
          exact (message_pause apart).inLane_sendAll separate apart urlUsed fun _ => trivial
      | resumeAll =>
          exact (message_resume apart).inLane_sendAll separate apart urlUsed fun _ => trivial
      | cancelAll =>
          exact (message_cancel apart).inLane_sendAll separate apart urlUsed fun _ => trivial

/-- In runs without restarts, a URL goes through the steps of its own lane and its client hears of
them, whatever happens to other URLs. -/
theorem projects_lane (apart : Apart digest used) (urlUsed : url ∈ used) :
    ((managerSystem digest).restrict fun world action =>
      Uses used action ∧ Restartless world action).Projects Lane.system (Separate digest used)
        (lane digest url) (concern digest url) (hears digest url) (Lane.said digest url) where
  kept separate admitted := separate_preserved apart _ _ separate admitted
  unseen := by
    rintro world action separate ⟨admitted, uses, restartless⟩ unseen
    have inLane := inLane_perform separate apart urlUsed admitted uses restartless
    rw [unseen] at inLane
    exact inLane
  shown := by
    rintro world action sight separate ⟨admitted, uses, restartless⟩ seen
    have inLane := inLane_perform separate apart urlUsed admitted uses restartless
    rw [seen] at inLane
    exact inLane

end Steps

section Runs

/-- A URL in use that is looked at. It names a file: what is at the cache path of `/` is Caches
itself, the size of which other downloads change. -/
structure Watched (used : Set NSURL) (url : NSURL) : Prop where
  used : url ∈ used
  named : url.NamesFile

variable {digest : MessageDigest} {used otherUsed : Set NSURL} {url : NSURL}

/-- The URL that the example app's player plays. -/
def playedURL : NSURL where
  absoluteString := "http://audio.xmcdn.com/group23/M04/63/C5/wKgJNFg2qdLCziiYAGQxcTOSBEw402.m4a"
  lastPathComponent := "wKgJNFg2qdLCziiYAGQxcTOSBEw402.m4a"

/-- The MD5 digests of the example app's two URLs, which differ at the `4` of `M04`. -/
def exampleDigests : MessageDigest := fun bytes =>
  if bytes[33]? = some 52 then
    #v[100, 35, 215, 216, 48, 149, 198, 47, 252, 99, 162, 203, 83, 101, 32, 154]
  else exampleDigest bytes

theorem key_played_ne : playedURL.key exampleDigests ≠ exampleURL.key exampleDigests := by
  decide +kernel

theorem watched_exampleURL {used : Set NSURL} (listed : exampleURL ∈ used) :
    Watched used exampleURL :=
  ⟨listed, by decide, by decide, by decide, by decide⟩

theorem apart_examples : Apart exampleDigests {exampleURL, playedURL} := by
  constructor
  · rintro first (rfl | rfl) second (rfl | rfl) same
    · rfl
    · exact absurd same.symm key_played_ne
    · exact absurd same key_played_ne
    · rfl
  · rintro first (rfl | rfl) second (rfl | rfl) same
    · rfl
    · exact absurd same (by decide)
    · exact absurd same (by decide)
    · rfl

/-- The example's download with two bytes on disk. -/
def begunExample : List ManagerAction :=
  [.call (.downLoad exampleURL exampleBlocks),
   .deliver (.response 0 ((StatedReply.mk 200 (some 5) none).render exampleURL) .healthy),
   .deliver (.data 0 [1, 2] .healthy)]

/-- A second download begins beside it and is cancelled, before both are paused. -/
def besideAnother : List ManagerAction :=
  begunExample ++ [.call (.downLoad playedURL exampleBlocks), .call (.cancel playedURL),
    .call .pauseAll]

theorem runs_besideAnother : ((managerSystem exampleDigests).restrict fun world action =>
    Uses {exampleURL, playedURL} action ∧ Restartless world action).Runs (launch emptyContainer)
      besideAnother := by
  refine ⟨⟨trivial, Or.inl rfl, trivial⟩, ⟨by decide +kernel, trivial, by decide +kernel⟩,
    ⟨by decide +kernel, trivial, trivial⟩, ⟨trivial, Or.inr rfl, trivial⟩,
    ⟨trivial, trivial, trivial⟩, ⟨trivial, trivial, trivial⟩, trivial⟩

theorem seen_besideAnother :
    (managerSystem exampleDigests).seen (concern exampleDigests exampleURL) (launch emptyContainer)
      besideAnother =
        [.downLoad exampleBlocks, .response 5 .healthy, .data [1, 2] .healthy, .pause] := by
  have first : (managerSystem exampleDigests).seen (concern exampleDigests exampleURL)
      (launch emptyContainer) begunExample =
        [.downLoad exampleBlocks, .response 5 .healthy, .data [1, 2] .healthy] := by
    decide +kernel
  rw [besideAnother, ActionSystem.seen_append, first]
  simp [ActionSystem.seen, concern, key_played_ne]

end Runs

/-- The first download without the second. -/
def withoutAnother : List ManagerAction :=
  begunExample ++ [.call (.pause exampleURL)]

end ZFBaseFramework
