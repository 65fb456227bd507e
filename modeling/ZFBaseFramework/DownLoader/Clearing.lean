import ZFBaseFramework.DownLoader.StaleEvents

/-!
# Clearing a download

`cancelAndClearCache` removes the file at the cache path, but an unfinished download is
in the tmp file, and the events that a cancelled task still has to deliver may open,
remove or move that file. `cleared_iff` says for which of these events nothing is left
once all of them have arrived.
-/

namespace ZFBaseFramework

open ZFFileManagerTool World

inductive ClientAction where
  | downLoad (url : NSURL) (blocks : DownLoadBlocks)
  | resume
  | pause
  | cancel
  | cancelAndClearCache
  | deliver (event : DelegateEvent)
  deriving DecidableEq

/-- The runs of one downloader in the hands of its client. -/
def clientSystem (digest : MessageDigest) : ActionSystem World ClientAction where
  Admits world
    | .deliver event => world.Deliverable event
    | _ => True
  perform world
    | .downLoad url blocks => world.downLoadWithURLBlocks digest 0 url blocks
    | .resume => world.resume 0
    | .pause => world.pause 0
    | .cancel => world.cancel 0
    | .cancelAndClearCache => world.cancelAndClearCache 0
    | .deliver event => world.deliver event

instance (digest : MessageDigest) (world : World) :
    ∀ action, Decidable ((clientSystem digest).Admits world action)
  | .downLoad _ _ => isTrue trivial
  | .resume => isTrue trivial
  | .pause => isTrue trivial
  | .cancel => isTrue trivial
  | .cancelAndClearCache => isTrue trivial
  | .deliver event => inferInstanceAs (Decidable (world.Deliverable event))

/-- The URL that the downloader was given last. -/
def givenURL (actions : List ClientAction) : Option NSURL :=
  (actions.filterMap fun
    | .downLoad url _ => some url
    | _ => none).getLast?

/-- The events of the tasks that there were before. -/
def lateSystem (before : World) : ActionSystem World DelegateEvent where
  Admits world event := world.Deliverable event ∧ (before.tasks event.task).isSome
  perform := World.deliver

def World.afterLate (world : World) (late : List DelegateEvent) : World :=
  (lateSystem world).exec world late

/-- All the events that the tasks of the world still have to deliver, in some order. -/
structure Remaining (world : World) (late : List DelegateEvent) : Prop where
  runs : (lateSystem world).Runs world late
  ended : ∀ task, (world.tasks task).isSome → ¬(world.afterLate late).Live task

/-- The world in which the downloader is told to clear after the given actions. -/
def clearedAfter (digest : MessageDigest) (files : FileSystem Path) (actions : List ClientAction) :
    World :=
  ((clientSystem digest).exec (World.launch files) actions).cancelAndClearCache 0

/-- Nothing is left of a download, and the next call asks for the first byte. -/
structure Cleared (digest : MessageDigest) (url : NSURL) (world : World) : Prop where
  tmp : ¬world.files.Occupied (url.tmpPath digest)
  cache : ¬world.files.Occupied url.cachePath
  next : ∀ blocks, ∃ task,
    world.Emits (world.downLoadWithURLBlocks digest 0 url blocks) (.requested 0 task url 0)

/-- The event moves the tmp file to the cache path. -/
def MovesTmp (world : World) : DelegateEvent → Prop
  | .response _ response io =>
      ((world.downLoaders 0).tmpSize : ℤ) = response.totalSize ∧ WouldMove world io
  | .data _ _ _ => False
  | .complete _ error io => error = none ∧ WouldMove world io

/-- The event opens the output stream, which creates the tmp file where there is none. -/
def OpensTmp (world : World) : DelegateEvent → Prop
  | .response _ response io =>
      ((world.downLoaders 0).tmpSize : ℤ) < response.totalSize ∧ io.opens = true
  | .data _ _ _ => False
  | .complete _ _ _ => False

/-- The event states a length below `_tmpSize`, so that the tmp file is removed. -/
def RemovesTmp (world : World) : DelegateEvent → Prop
  | .response _ response _ => response.totalSize < (world.downLoaders 0).tmpSize
  | .data _ _ _ => False
  | .complete _ _ _ => False

/-- No event moves the tmp file, and either there is none and none is opened, or it is removed
and not opened again. -/
structure LeavesNothing (world : World) (late : List DelegateEvent) : Prop where
  stays : (lateSystem world).Along (fun state event => ¬MovesTmp state event) world late
  gone : isFileExists world.files (world.downLoaders 0).downLoadTmpPath = false ∧
      (lateSystem world).Along (fun state event => ¬OpensTmp state event) world late ∨
    (lateSystem world).Reset OpensTmp RemovesTmp world late

/-- The downloader was given the URL last. -/
structure Named (digest : MessageDigest) (url : NSURL) (world : World) : Prop where
  cachePath : (world.downLoaders 0).downLoadCachePath = some url.cachePath
  tmpPath : (world.downLoaders 0).downLoadTmpPath = some (url.tmpPath digest)

def CurrentLive (world : World) : Prop :=
  ∀ task, (world.downLoaders 0).task = some task → world.Live task

section Deliver

variable {world : World} {event : DelegateEvent}

/-- Events leave the names of the files alone. -/
theorem paths_deliver (single : Single world) (deliverable : world.Deliverable event) :
    ((world.deliver event).downLoaders 0).downLoadCachePath =
        (world.downLoaders 0).downLoadCachePath ∧
      ((world.deliver event).downLoaders 0).downLoadTmpPath =
        (world.downLoaders 0).downLoadTmpPath := by
  rcases delivered deliverable with ⟨record, found, step⟩
  have mine := single event.task record found
  cases step with
  | goesOn _ _ _ _ _ _ touched =>
      rw [touched.downLoaders, mine, Function.update_self]
      exact ⟨rfl, rfl⟩
  | completes _ _ _ _ touched =>
      rw [touched.downLoaders, mine, Function.update_self]
      exact ⟨rfl, rfl⟩
  | restarts _ _ _ fields =>
      rw [fields, mine, Function.update_self]
      exact ⟨rfl, rfl⟩

theorem live_of_update {after : World} {task other : TaskId} {record : DataTask}
    (tasks : after.tasks = Function.update world.tasks task (some record))
    (unfinished : record.phase ≠ .ended) (live : world.Live other) : after.Live other := by
  rcases live with ⟨before, found, running⟩
  by_cases same : other = task
  · exact ⟨record, by rw [tasks, same, Function.update_self], unfinished⟩
  · exact ⟨before, by rw [tasks, Function.update_of_ne same, found], running⟩

theorem CurrentLive.of_unflagged {after : World} (live : CurrentLive world)
    (same : SameTransfers world after) : CurrentLive after := by
  intro task current
  rcases same.downLoaders 0 with ⟨state, session, fields⟩
  rw [fields] at current
  rcases live task current with ⟨before, found, unfinished⟩
  rcases DataTask.exists_of_unflagged (same.tasks task).symm found with ⟨record, foundAfter, agree⟩
  exact ⟨record, foundAfter, by rwa [DataTask.phase_eq agree]⟩

theorem CurrentLive.deliver (live : CurrentLive world) (single : Single world)
    (deliverable : world.Deliverable event) : CurrentLive (world.deliver event) := by
  rcases delivered deliverable with ⟨record, found, step⟩
  have mine := single event.task record found
  intro task current
  cases step with
  | goesOn _ _ _ _ _ _ touched _ unfinished =>
      rw [touched.downLoaders, mine, Function.update_self] at current
      exact live_of_update touched.tasks unfinished (live task current)
  | completes _ _ _ _ touched =>
      rw [touched.downLoaders, mine, Function.update_self] at current
      dsimp only at current
      split at current
      · cases current
      · rename_i other
        rcases live task current with ⟨before, foundBefore, unfinished⟩
        have apart : task ≠ event.task := by
          rintro rfl
          exact other current
        exact ⟨before, by rw [touched.tasks, Function.update_of_ne apart, foundBefore], unfinished⟩
  | restarts _ _ _ fields tasks =>
      rw [fields, mine, Function.update_self, Option.some_inj] at current
      exact ⟨_, by rw [tasks, ← current, Function.update_self], by simp⟩

end Deliver

section Files

variable {digest : MessageDigest} {url : NSURL} {world : World} {event : DelegateEvent}

theorem wouldMove_iff (named : Named digest url world) {io : LocalIO} :
    WouldMove world io ↔
      io.moves = true ∧ world.files.Movable (url.tmpPath digest) url.cachePath := by
  rw [WouldMove, named.tmpPath, named.cachePath]
  rfl

/-- What a step means for the two files, by whether it moves, opens or removes the tmp file. -/
structure Leaves (digest : MessageDigest) (url : NSURL) (before after : World)
    (moves opens removes : Prop) : Prop where
  cache : ¬after.files.Occupied url.cachePath ↔
    ¬before.files.Occupied url.cachePath ∧ ¬moves
  tmp : ¬moves → (¬after.files.Occupied (url.tmpPath digest) ↔
    removes ∨ ¬before.files.Occupied (url.tmpPath digest) ∧ ¬opens)

theorem leaves_of_occupied {after : World}
    (same : ∀ path, after.files.Occupied path ↔ world.files.Occupied path)
    {moves opens removes : Prop} (moving : ¬moves) (opening : ¬opens) (removing : ¬removes) :
    Leaves digest url world after moves opens removes := by
  constructor
  · exact (not_congr (same _)).trans (and_iff_left moving).symm
  · intro _
    rw [same, or_iff_right removing, and_iff_left opening]

theorem leaves_moved (named : Named digest url world) {after : World} {io : LocalIO}
    (files : after.files = if io.moves then moveFile world.files
      (world.downLoaders 0).downLoadTmpPath (world.downLoaders 0).downLoadCachePath
      else world.files) {moves opens removes : Prop} (moving : moves ↔ WouldMove world io)
    (opening : ¬opens) (removing : ¬removes) :
    Leaves digest url world after moves opens removes := by
  by_cases would : WouldMove world io
  · have ⟨allowed, movable⟩ := (wouldMove_iff named).mp would
    rw [if_pos allowed, named.tmpPath, named.cachePath, moveFile, if_pos movable] at files
    have placed : after.files.Occupied url.cachePath := by
      rw [files, FileSystem.Occupied, FileSystem.lookup_move, if_pos rfl]
      exact movable.1
    constructor
    · exact iff_of_false (not_not_intro placed) fun both => both.2 (moving.mpr would)
    · intro still
      exact absurd (moving.mpr would) still
  · have same : after.files = world.files := files.trans (moved_eq_self_iff.mpr would)
    exact leaves_of_occupied (fun _ => by rw [same]) (fun moves => would (moving.mp moves))
      opening removing

theorem leaves_opened {after : World} {io : LocalIO}
    (files : after.files =
      (NSOutputStream.openAppending world.files (some (url.tmpPath digest)) io).1)
    {moves opens removes : Prop} (opening : opens ↔ io.opens = true) (moving : ¬moves)
    (removing : ¬removes) : Leaves digest url world after moves opens removes := by
  rw [NSOutputStream.openAppending] at files
  split at files
  · rename_i created
    have cache : after.files.Occupied url.cachePath ↔ world.files.Occupied url.cachePath := by
      rw [files, FileSystem.Occupied, FileSystem.lookup_touch, if_neg (by simp),
        FileSystem.Occupied]
    have tmp : after.files.Occupied (url.tmpPath digest) := by
      rw [files, FileSystem.Occupied, FileSystem.lookup_touch, if_pos rfl]
      rfl
    constructor
    · exact (not_congr cache).trans (and_iff_left moving).symm
    · intro _
      exact iff_of_false (not_not_intro tmp) fun either =>
        (either.resolve_left removing).2 (opening.mpr created)
  · rename_i closed
    exact leaves_of_occupied (fun _ => by rw [files]) moving
      (fun opens => closed (opening.mp opens)) removing

theorem leaves_removed {after : World}
    (files : after.files = removeFileAtPath world.files (some (url.tmpPath digest)))
    {moves opens removes : Prop} (removing : removes) (moving : ¬moves) :
    Leaves digest url world after moves opens removes := by
  have tmp : ¬after.files.Occupied (url.tmpPath digest) := by
    rw [files, removeFileAtPath]
    split
    · simp [FileSystem.Occupied, FileSystem.lookup_remove]
    · assumption
  have cache : after.files.Occupied url.cachePath ↔ world.files.Occupied url.cachePath := by
    rw [files, removeFileAtPath]
    split
    · simp [FileSystem.Occupied, FileSystem.lookup_remove]
    · rfl
  constructor
  · exact (not_congr cache).trans (and_iff_left moving).symm
  · intro _
    exact iff_of_true tmp (Or.inl removing)

theorem leaves_deliver (named : Named digest url world) (single : Single world)
    (deliverable : world.Deliverable event) :
    Leaves digest url world (world.deliver event) (MovesTmp world event) (OpensTmp world event)
      (RemovesTmp world event) := by
  cases event with
  | response task response io =>
      rcases exists_of_response deliverable with ⟨record, found, _⟩
      have mine := single task record found
      simp only [MovesTmp, OpensTmp, RemovesTmp]
      rcases lt_trichotomy ((world.downLoaders 0).tmpSize : ℤ) response.totalSize
        with short | full | oversized
      · have files := files_opened io found (by rwa [mine])
        rw [mine, named.tmpPath] at files
        exact leaves_opened files (and_iff_right short) (fun moves => short.ne moves.1)
          short.le.not_gt
      · have files := files_finished io found (by rwa [mine])
        rw [mine] at files
        exact leaves_moved named files (and_iff_right full) (fun opens => opens.1.ne full)
          full.le.not_gt
      · have files := files_restarted io found (by rwa [mine])
        rw [mine, named.tmpPath] at files
        exact leaves_removed files oversized fun moves => oversized.ne' moves.1
  | data task bytes io =>
      rcases exists_of_data deliverable with ⟨record, found, _⟩
      have files := files_data bytes io found
      refine leaves_of_occupied ?_ id id id
      intro path
      rw [files]
      split
      · rfl
      · rw [FileSystem.Occupied, FileSystem.lookup_append, FileSystem.Occupied]
        split <;> simp
  | complete task error io =>
      rcases exists_of_complete deliverable with ⟨record, found, _, _⟩
      have mine := single task record found
      cases error with
      | some failure =>
          have files := files_complete_failed io found failure
          have stays : ¬(some failure = none ∧ WouldMove world io) := by
            simp
          exact leaves_of_occupied (fun _ => by rw [files]) stays id id
      | none =>
          have files := files_complete_finished io found
          rw [mine] at files
          exact leaves_moved named files (and_iff_right rfl) id id

end Files

section Late

variable {digest : MessageDigest} {url : NSURL} {world : World} {late : List DelegateEvent}
  {before : World}

structure Tidy (digest : MessageDigest) (url : NSURL) (world : World) : Prop where
  named : Named digest url world
  single : Single world

theorem tidy_preserved (digest : MessageDigest) (url : NSURL) (before : World) :
    (lateSystem before).Preserves (Tidy digest url) := by
  rintro world event tidy ⟨deliverable, _⟩
  rcases paths_deliver tidy.single deliverable with ⟨cachePath, tmpPath⟩
  refine ⟨⟨?_, ?_⟩, tidy.single.deliver deliverable⟩
  · exact cachePath.trans tidy.named.cachePath
  · exact tmpPath.trans tidy.named.tmpPath

theorem cache_late_iff (tidy : Tidy digest url world) (runs : (lateSystem before).Runs world late) :
    ¬((lateSystem before).exec world late).files.Occupied url.cachePath ↔
      ¬world.files.Occupied url.cachePath ∧
        (lateSystem before).Along (fun state event => ¬MovesTmp state event) world late := by
  induction late generalizing world with
  | nil => exact (and_iff_left trivial).symm
  | cons event rest ih =>
      have leaves := leaves_deliver tidy.named tidy.single runs.1.1
      have later := tidy_preserved digest url before world event tidy runs.1
      rw [ActionSystem.exec_cons, ih later runs.2, ActionSystem.Along, ← and_assoc]
      exact and_congr_left fun _ => leaves.cache

theorem tmp_late_iff (tidy : Tidy digest url world) (runs : (lateSystem before).Runs world late)
    (stays : (lateSystem before).Along (fun state event => ¬MovesTmp state event) world late) :
    ¬((lateSystem before).exec world late).files.Occupied (url.tmpPath digest) ↔
      ¬world.files.Occupied (url.tmpPath digest) ∧
          (lateSystem before).Along (fun state event => ¬OpensTmp state event) world late ∨
        (lateSystem before).Reset OpensTmp RemovesTmp world late := by
  have step : ∀ state event, Tidy digest url state → (lateSystem before).Admits state event →
      ¬MovesTmp state event →
      (¬((lateSystem before).perform state event).files.Occupied (url.tmpPath digest) ↔
        RemovesTmp state event ∨
          ¬state.files.Occupied (url.tmpPath digest) ∧ ¬OpensTmp state event) := by
    intro state event tidy admitted still
    exact (leaves_deliver tidy.named tidy.single admitted.1).tmp still
  exact @ActionSystem.Runs.not_exec_iff _ _ _ _
    (fun world => world.files.Occupied (url.tmpPath digest)) _ _ _
    (tidy_preserved digest url before) step _ _ tidy
    ((ActionSystem.runs_restrict_iff _ _ _ _).mpr ⟨runs, stays⟩)

theorem late_iff (tidy : Tidy digest url world) (runs : (lateSystem world).Runs world late)
    (free : ¬world.files.Occupied url.cachePath) :
    ¬(world.afterLate late).files.Occupied (url.tmpPath digest) ∧
        ¬(world.afterLate late).files.Occupied url.cachePath ↔
      LeavesNothing world late := by
  have missing : isFileExists world.files (world.downLoaders 0).downLoadTmpPath = false ↔
      ¬world.files.Occupied (url.tmpPath digest) := by
    rw [tidy.named.tmpPath]
    exact decide_eq_false_iff_not
  rw [afterLate, cache_late_iff tidy runs, and_iff_right free]
  constructor
  · rintro ⟨tmp, stays⟩
    refine ⟨stays, ?_⟩
    rw [missing]
    exact (tmp_late_iff tidy runs stays).mp tmp
  · rintro ⟨stays, gone⟩
    rw [missing] at gone
    exact ⟨(tmp_late_iff tidy runs stays).mpr gone, stays⟩

/-- A task is over only through its completion event. -/
theorem eq_complete_of_ended {event : DelegateEvent} (deliverable : world.Deliverable event)
    (ended : ¬(world.deliver event).Live event.task) :
    ∃ task error io, event = .complete task error io := by
  have live := live_of_deliverable deliverable
  rcases delivered deliverable with ⟨record, found, step⟩
  cases step with
  | goesOn _ _ _ _ _ _ touched _ unfinished =>
      exact absurd (live_of_update touched.tasks unfinished live) ended
  | completes task error io same => exact ⟨task, error, io, same⟩
  | restarts _ _ refused _ tasks _ _ unfinished =>
      have answered : { world with
          tasks := Function.update world.tasks event.task (some refused) }.Live event.task :=
        live_of_update rfl unfinished live
      exact absurd (live_of_update tasks (by simp) answered) ended

theorem state_complete {task : TaskId} {error : Option NSError} {io : LocalIO}
    (single : Single world) (deliverable : world.Deliverable (.complete task error io)) :
    ((world.deliver (.complete task error io)).downLoaders 0).state = finalState error := by
  rcases exists_of_complete deliverable with ⟨record, found, _, _⟩
  rw [(touches_complete error io found).downLoaders, single task record found,
    Function.update_self]

/-- Once all events have arrived, there is no task that a call would keep. -/
theorem not_keeps_of_remaining (tidy : Tidy digest url world) (current : CurrentLive world)
    (remaining : Remaining world late) : ¬(world.afterLate late).Keeps 0 url := by
  rintro ⟨_, same, standing⟩
  rcases List.eq_nil_or_concat late with rfl | ⟨initial, last, rfl⟩
  · rcases Option.map_eq_some_iff.mp same with ⟨record, found, _⟩
    rcases Option.bind_eq_some_iff.mp found with ⟨task, isCurrent, present⟩
    exact remaining.ended task (Option.isSome_iff_exists.mpr ⟨record, present⟩)
      (current task isCurrent)
  · rcases remaining with ⟨runs, ended⟩
    rw [List.concat_eq_append, ActionSystem.runs_append] at runs
    rw [List.concat_eq_append, afterLate, ActionSystem.exec_append] at ended standing
    rcases runs with ⟨runs, ⟨deliverable, known⟩, _⟩
    rcases eq_complete_of_ended deliverable (ended last.task known) with ⟨task, error, io, rfl⟩
    have before := (tidy_preserved digest url world).exec tidy runs
    have state : (((lateSystem world).exec ((lateSystem world).exec world initial)
        [.complete task error io]).downLoaders 0).state = finalState error :=
      state_complete before.single deliverable
    rw [state] at standing
    cases error <;> simp [finalState] at standing

theorem next_of_free (keeps : ¬world.Keeps 0 url)
    (tmp : ¬world.files.Occupied (url.tmpPath digest)) (cache : ¬world.files.Occupied url.cachePath)
    (blocks : DownLoadBlocks) :
    world.Emits (world.downLoadWithURLBlocks digest 0 url blocks)
      (.requested 0 world.taskCount url 0) := by
  have size : fileTotalSize world.files (some (url.tmpPath digest)) = 0 := by
    rw [fileTotalSize, FileSystem.not_occupied_iff.mp tmp]
    rfl
  have logged := @log_call_started digest world 0 url blocks cache keeps
  rw [size] at logged
  exact ⟨_, logged, List.mem_cons_self⟩

theorem cleared_remaining_iff (tidy : Tidy digest url world) (current : CurrentLive world)
    (free : ¬world.files.Occupied url.cachePath) (remaining : Remaining world late) :
    Cleared digest url (world.afterLate late) ↔ LeavesNothing world late := by
  rw [← late_iff tidy remaining.runs free]
  constructor
  · intro cleared
    exact ⟨cleared.tmp, cleared.cache⟩
  · rintro ⟨tmp, cache⟩
    have keeps := not_keeps_of_remaining tidy current remaining
    exact ⟨tmp, cache, fun blocks => ⟨_, next_of_free keeps tmp cache blocks⟩⟩

end Late

section Runs

variable {digest : MessageDigest} {url : NSURL} {world : World}

structure InHand (digest : MessageDigest) (past : List ClientAction) (world : World) : Prop where
  named : ∀ url, givenURL past = some url → Named digest url world
  single : Single world
  current : CurrentLive world

theorem givenURL_append (past : List ClientAction) (action : ClientAction) :
    givenURL (past ++ [action]) = match action with
      | .downLoad url _ => some url
      | _ => givenURL past := by
  cases action <;> simp [givenURL]

theorem InHand.of_sameTransfers {past : List ClientAction} (inHand : InHand digest past world)
    {after : World} (same : SameTransfers world after) : InHand digest past after := by
  rcases same.downLoaders 0 with ⟨state, session, fields⟩
  refine ⟨?_, inHand.single.of_unflagged same.tasks, inHand.current.of_unflagged same⟩
  intro url given
  rcases inHand.named url given with ⟨cachePath, tmpPath⟩
  exact ⟨by rw [fields]; exact cachePath, by rw [fields]; exact tmpPath⟩

theorem InHand.withFiles {past : List ClientAction} (inHand : InHand digest past world)
    (files : FileSystem Path) : InHand digest past (world.withFiles files) := by
  refine ⟨?_, inHand.single, inHand.current⟩
  intro url given
  rcases inHand.named url given with ⟨cachePath, tmpPath⟩
  exact ⟨cachePath, tmpPath⟩

theorem InHand.of_given {past later : List ClientAction} (inHand : InHand digest past world)
    (same : givenURL later = givenURL past) : InHand digest later world :=
  ⟨fun url given => inHand.named url (same ▸ given), inHand.single, inHand.current⟩

theorem named_call (blocks : DownLoadBlocks) :
    Named digest url (world.downLoadWithURLBlocks digest 0 url blocks) := by
  by_cases keeps : world.Keeps 0 url
  · rcases keeps.2.2 with downing | paused
    · rw [call_downing keeps downing]
      constructor <;> rw [downLoaders_named, Function.update_self] <;> rfl
    · rw [call_paused keeps paused, World.resume]
      constructor <;>
        rw [downLoaders_switch, Function.update_self, downLoaders_named, Function.update_self] <;>
        rfl
  · by_cases occupied : world.files.Occupied url.cachePath
    · constructor <;> rw [downLoaders_call_cached occupied, Function.update_self] <;> rfl
    · constructor <;> rw [downLoaders_call_started occupied keeps, Function.update_self] <;> rfl

theorem CurrentLive.call (live : CurrentLive world) (digest : MessageDigest) (url : NSURL)
    (blocks : DownLoadBlocks) :
    CurrentLive (world.downLoadWithURLBlocks digest 0 url blocks) := by
  by_cases keeps : world.Keeps 0 url
  · have named : CurrentLive (named digest world 0 url blocks) := by
      intro task current
      rw [downLoaders_named, Function.update_self] at current
      exact live task current
    rcases keeps.2.2 with downing | paused
    · rw [call_downing keeps downing]
      exact named
    · rw [call_paused keeps paused, World.resume]
      exact named.of_unflagged (sameTransfers_switch _ _ _ _ _)
  · by_cases occupied : world.files.Occupied url.cachePath
    · intro task current
      rw [downLoaders_call_cached occupied, Function.update_self] at current
      rcases live task current with ⟨record, found, unfinished⟩
      exact ⟨record, by rw [tasks_call_cached occupied, found], unfinished⟩
    · intro task current
      rw [downLoaders_call_started occupied keeps, Function.update_self, startedFields_task,
        Option.some_inj] at current
      exact ⟨startedTask digest world 0 url,
        by rw [tasks_call_started occupied keeps, ← current, Function.update_self], by simp⟩

theorem inHand_step {past : List ClientAction} {action : ClientAction}
    (inHand : InHand digest past world) (admitted : (clientSystem digest).Admits world action) :
    InHand digest (past ++ [action]) ((clientSystem digest).perform world action) := by
  cases action with
  | downLoad url blocks =>
      refine ⟨?_, inHand.single.call digest url blocks, inHand.current.call digest url blocks⟩
      intro other given
      rw [givenURL_append, Option.some_inj] at given
      exact given ▸ named_call blocks
  | resume =>
      have kept := inHand.of_sameTransfers (sameTransfers_switch world 0 .pause .downing false)
      exact kept.of_given (givenURL_append past .resume)
  | pause =>
      have kept := inHand.of_sameTransfers (sameTransfers_switch world 0 .downing .pause true)
      exact kept.of_given (givenURL_append past .pause)
  | cancel =>
      have kept := inHand.of_sameTransfers (sameTransfers_cancel world 0)
      exact kept.of_given (givenURL_append past .cancel)
  | cancelAndClearCache =>
      have kept := inHand.of_sameTransfers (sameTransfers_cancel world 0)
      exact (kept.withFiles _).of_given (givenURL_append past .cancelAndClearCache)
  | deliver event =>
      refine ⟨?_, inHand.single.deliver admitted, inHand.current.deliver inHand.single admitted⟩
      intro url given
      rw [givenURL_append] at given
      rcases paths_deliver inHand.single admitted with ⟨cachePath, tmpPath⟩
      have named := inHand.named url given
      exact ⟨cachePath.trans named.cachePath, tmpPath.trans named.tmpPath⟩

theorem inHand_launch (digest : MessageDigest) (files : FileSystem Path) :
    InHand digest [] (launch files) :=
  ⟨nofun, nofun, nofun⟩

theorem cache_free_of_clear (named : Named digest url world) :
    ¬(world.cancelAndClearCache 0).files.Occupied url.cachePath := by
  have held : ((world.cancel 0).downLoaders 0).downLoadCachePath = some url.cachePath := by
    rw [downLoaders_cancel, Function.update_self]
    exact named.cachePath
  simp only [cancelAndClearCache, withFiles_files, held, removeFileAtPath]
  split
  · simp [FileSystem.lookup_remove]
  · assumption

end Runs

/-- Three of five bytes have come. -/
def threeBytes : List ClientAction :=
  [.downLoad exampleURL exampleDownLoadBlocks,
   .deliver (.response 0 ((StatedReply.mk 206 none (some (.span 0 4 (some 5)))).render exampleURL)
     .healthy),
   .deliver (.data 0 [1, 2, 3] .healthy)]

end ZFBaseFramework
