import ZFBaseFramework.Manager.Operations

/-!
# What each step does

One lemma for every way a delegate event or a method call can end. Most of them
touch a single downloader and a single task, which `World.Touches` states once; the
files and the log are described beside it. Later files cite these lemmas and do not
unfold the methods again.
-/

namespace ZFBaseFramework

open ZFFileManagerTool

/-- A task apart from the two flags that the methods of a downloader set. -/
def DataTask.unflagged (record : DataTask) : DataTask :=
  { record with suspended := false, cancelled := false }

theorem DataTask.phase_eq {first second : DataTask} (agree : first.unflagged = second.unflagged) :
    first.phase = second.phase :=
  show first.unflagged.phase = second.unflagged.phase from agree ▸ rfl

theorem DataTask.delegate_eq {first second : DataTask}
    (agree : first.unflagged = second.unflagged) : first.delegate = second.delegate :=
  show first.unflagged.delegate = second.unflagged.delegate from agree ▸ rfl

theorem DataTask.originalURL_eq {first second : DataTask}
    (agree : first.unflagged = second.unflagged) : first.originalURL = second.originalURL :=
  show first.unflagged.originalURL = second.unflagged.originalURL from agree ▸ rfl

theorem DataTask.offset_eq {first second : DataTask} (agree : first.unflagged = second.unflagged) :
    first.offset = second.offset :=
  show first.unflagged.offset = second.unflagged.offset from agree ▸ rfl

theorem DataTask.received_eq {first second : DataTask}
    (agree : first.unflagged = second.unflagged) : first.received = second.received :=
  show first.unflagged.received = second.unflagged.received from agree ▸ rfl

theorem DataTask.exists_of_unflagged {after before : Option DataTask} {record : DataTask}
    (same : after.map DataTask.unflagged = before.map DataTask.unflagged)
    (found : after = some record) :
    ∃ origin, before = some origin ∧ origin.unflagged = record.unflagged := by
  rw [found, Option.map_some] at same
  simpa using same.symm

/-- What an update of a downloader leaves of a field it does not change. -/
theorem field_update {Value : Type} (field : ZFDownLoader → Value)
    {downLoaders : DownLoaderId → ZFDownLoader} {loader : DownLoaderId} {fields : ZFDownLoader}
    (same : field fields = field (downLoaders loader)) (other : DownLoaderId) :
    field (Function.update downLoaders loader fields other) = field (downLoaders other) := by
  by_cases mine : other = loader
  · rw [mine, Function.update_self, same]
  · rw [Function.update_of_ne mine]

namespace World

/-- The task of a response event is waiting for it. -/
theorem exists_of_response {world : World} {task : TaskId} {response : NSHTTPURLResponse}
    {io : LocalIO} (deliverable : world.Deliverable (.response task response io)) :
    ∃ record, world.tasks task = some record ∧ record.phase = .waiting := by
  simpa [Deliverable, phaseOf] using deliverable

/-- The task of a data event was allowed. -/
theorem exists_of_data {world : World} {task : TaskId} {bytes : List UInt8} {io : LocalIO}
    (deliverable : world.Deliverable (.data task bytes io)) :
    ∃ record, world.tasks task = some record ∧ record.phase = .allowed := by
  simpa [Deliverable, phaseOf] using deliverable

/-- The task of a completion event is not over, and was allowed if there is no error. -/
theorem exists_of_complete {world : World} {task : TaskId} {error : Option NSError} {io : LocalIO}
    (deliverable : world.Deliverable (.complete task error io)) :
    ∃ record, world.tasks task = some record ∧ record.phase ≠ .ended ∧
      (error = none → record.phase = .allowed) := by
  cases error with
  | none =>
      simp only [Deliverable, phaseOf, Option.map_eq_some_iff] at deliverable
      rcases deliverable with ⟨record, found, allowed⟩
      exact ⟨record, found, by simp [allowed], fun _ => allowed⟩
  | some failure =>
      simp only [Deliverable, phaseOf, Option.map_eq_some_iff] at deliverable
      rcases deliverable with ⟨phase, ⟨record, found, rfl⟩, unfinished⟩
      exact ⟨record, found, unfinished, nofun⟩

/-- Only tasks whose completion is outstanding deliver events. -/
theorem live_of_deliverable {world : World} {event : DelegateEvent}
    (deliverable : world.Deliverable event) : world.Live event.task := by
  cases event with
  | response task response io =>
      rcases exists_of_response deliverable with ⟨record, found, waiting⟩
      exact ⟨record, found, by simp [waiting]⟩
  | data task bytes io =>
      rcases exists_of_data deliverable with ⟨record, found, allowed⟩
      exact ⟨record, found, by simp [allowed]⟩
  | complete task error io =>
      rcases exists_of_complete deliverable with ⟨record, found, unfinished, _⟩
      exact ⟨record, found, unfinished⟩

/-- Only this downloader and this task differ between the two worlds, as far as
downloaders and tasks are concerned. -/
structure Touches (before after : World) (loader : DownLoaderId) (fields : ZFDownLoader)
    (task : TaskId) (record : DataTask) : Prop where
  downLoaders : after.downLoaders = Function.update before.downLoaders loader fields
  tasks : after.tasks = Function.update before.tasks task (some record)
  taskCount : after.taskCount = before.taskCount
  downLoaderCount : after.downLoaderCount = before.downLoaderCount

theorem delegateOf_eq {world : World} {task : TaskId} {record : DataTask}
    (found : world.tasks task = some record) : world.delegateOf task = record.delegate := by
  simp [delegateOf, found]

theorem phaseOf_eq {world : World} {task : TaskId} {record : DataTask}
    (found : world.tasks task = some record) : world.phaseOf task = some record.phase := by
  simp [phaseOf, found]

@[simp]
theorem tasks_mapTask_apply (world : World) (task other : TaskId) (change : DataTask → DataTask) :
    (world.mapTask task change).tasks other =
      if other = task then (world.tasks other).map change else world.tasks other := by
  by_cases same : other = task
  · simp [mapTask, same]
  · simp [mapTask, same]

@[simp]
theorem downLoaders_mapTask (world : World) (task : TaskId) (change : DataTask → DataTask) :
    (world.mapTask task change).downLoaders = world.downLoaders := rfl

@[simp]
theorem files_mapTask (world : World) (task : TaskId) (change : DataTask → DataTask) :
    (world.mapTask task change).files = world.files := rfl

@[simp]
theorem taskCount_mapTask (world : World) (task : TaskId) (change : DataTask → DataTask) :
    (world.mapTask task change).taskCount = world.taskCount := rfl

@[simp]
theorem downLoaderCount_mapTask (world : World) (task : TaskId) (change : DataTask → DataTask) :
    (world.mapTask task change).downLoaderCount = world.downLoaderCount := rfl

@[simp]
theorem downLoaderInfos_mapTask (world : World) (task : TaskId) (change : DataTask → DataTask) :
    (world.mapTask task change).downLoaderInfos = world.downLoaderInfos := rfl

@[simp]
theorem log_mapTask (world : World) (task : TaskId) (change : DataTask → DataTask) :
    (world.mapTask task change).log = world.log := rfl

@[simp]
theorem sessionCount_mapTask (world : World) (task : TaskId) (change : DataTask → DataTask) :
    (world.mapTask task change).sessionCount = world.sessionCount := rfl

/-- The entry for moving the tmp file, where the move is carried out. -/
def placement (world : World) (loader : DownLoaderId) (io : LocalIO) : List Effect :=
  if io.moves ∧ CanMove world.files (world.downLoaders loader).downLoadTmpPath
      (world.downLoaders loader).downLoadCachePath then
    [.placed loader (world.downLoaders loader).downLoadCachePath]
  else []

/-- The entry for deleting the tmp file, where there is one. -/
def removal (world : World) (loader : DownLoaderId) : List Effect :=
  if isFileExists world.files (world.downLoaders loader).downLoadTmpPath then
    [.removed loader (world.downLoaders loader).downLoadTmpPath]
  else []

@[simp]
theorem log_moveTmp (world : World) (loader : DownLoaderId) (io : LocalIO) :
    (world.moveTmp loader io).log = world.placement loader io ++ world.log := by
  simp only [moveTmp, placement, recordIf_log, withFiles_log]
  split <;> rfl

@[simp]
theorem downLoaders_moveTmp (world : World) (loader : DownLoaderId) (io : LocalIO) :
    (world.moveTmp loader io).downLoaders = world.downLoaders := rfl

@[simp]
theorem log_removeTmp (world : World) (loader : DownLoaderId) :
    (world.removeTmp loader).log = world.removal loader ++ world.log := by
  simp only [removeTmp, removal, recordIf_log, withFiles_log]
  split <;> rfl

@[simp]
theorem taskCount_removeTmp (world : World) (loader : DownLoaderId) :
    (world.removeTmp loader).taskCount = world.taskCount := rfl

/-- The effect is one of those that turn the first log into the second. -/
def Emits (before after : World) (effect : Effect) : Prop :=
  ∃ fresh, after.log = fresh ++ before.log ∧ effect ∈ fresh

theorem emits_iff {before after : World} {fresh : List Effect} {effect : Effect}
    (logged : after.log = fresh ++ before.log) : before.Emits after effect ↔ effect ∈ fresh := by
  constructor
  · rintro ⟨other, otherLogged, present⟩
    rw [logged] at otherLogged
    rwa [List.append_cancel_right otherLogged]
  · intro present
    exact ⟨fresh, logged, present⟩

/-- The steps between the two worlds had no effect of this kind. -/
def Without (kind : Effect → Prop) (before after : World) : Prop :=
  ∃ fresh, after.log = fresh ++ before.log ∧ ∀ effect ∈ fresh, ¬kind effect

namespace Without

variable {kind : Effect → Prop} {before middle after : World}

theorem of_eq (same : after.log = before.log) : Without kind before after :=
  ⟨[], same, by simp⟩

theorem trans (first : Without kind before middle) (second : Without kind middle after) :
    Without kind before after := by
  rcases first with ⟨firstFresh, firstLogged, firstFree⟩
  rcases second with ⟨secondFresh, secondLogged, secondFree⟩
  refine ⟨secondFresh ++ firstFresh, ?_, ?_⟩
  · rw [secondLogged, firstLogged, List.append_assoc]
  · intro effect present
    rcases List.mem_append.mp present with later | earlier
    · exact secondFree effect later
    · exact firstFree effect earlier

theorem not_of_emits (without : Without kind before after) {effect : Effect}
    (emitted : before.Emits after effect) : ¬kind effect := by
  rcases without with ⟨fresh, logged, free⟩
  exact free effect ((emits_iff logged).mp emitted)

end Without

section Requests

variable (world : World) (loader : DownLoaderId) (url : NSURL) (offset : ℕ)

@[simp]
theorem downLoaders_downLoadWithURLOffset :
    (world.downLoadWithURLOffset loader url offset).downLoaders =
      Function.update world.downLoaders loader
        { world.downLoaders loader with
          session := some (world.sessionOf loader), task := some world.taskCount } := by
  simp [downLoadWithURLOffset, openSession]

@[simp]
theorem tasks_downLoadWithURLOffset :
    (world.downLoadWithURLOffset loader url offset).tasks =
      Function.update world.tasks world.taskCount
        (some { originalURL := url, offset, session := world.sessionOf loader,
                delegate := loader }) := by
  simp [downLoadWithURLOffset, openSession]

@[simp]
theorem taskCount_downLoadWithURLOffset :
    (world.downLoadWithURLOffset loader url offset).taskCount = world.taskCount + 1 := by
  simp [downLoadWithURLOffset, openSession]

@[simp]
theorem downLoaderCount_downLoadWithURLOffset :
    (world.downLoadWithURLOffset loader url offset).downLoaderCount = world.downLoaderCount := by
  simp [downLoadWithURLOffset, openSession]

@[simp]
theorem sessionCount_downLoadWithURLOffset :
    (world.downLoadWithURLOffset loader url offset).sessionCount =
      if (world.downLoaders loader).session.isSome then world.sessionCount
      else world.sessionCount + 1 := by
  simp [downLoadWithURLOffset, openSession]

@[simp]
theorem downLoaderInfos_downLoadWithURLOffset :
    (world.downLoadWithURLOffset loader url offset).downLoaderInfos = world.downLoaderInfos := by
  simp [downLoadWithURLOffset, openSession]

@[simp]
theorem files_downLoadWithURLOffset :
    (world.downLoadWithURLOffset loader url offset).files = world.files := by
  simp [downLoadWithURLOffset, openSession]

@[simp]
theorem log_downLoadWithURLOffset :
    (world.downLoadWithURLOffset loader url offset).log =
      .requested loader world.taskCount url offset :: world.log := by
  simp [downLoadWithURLOffset, openSession]

end Requests

section Response

variable {world : World} {task : TaskId} {record : DataTask} {response : NSHTTPURLResponse}
  (io : LocalIO)

/-- The response as the session notes it and the downloader reads it. -/
def responseRead (world : World) (loader : DownLoaderId) (task : TaskId)
    (response : NSHTTPURLResponse) : World :=
  (world.noteReply task response).readResponse loader response

theorem deliver_finished (found : world.tasks task = some record)
    (full : ((world.downLoaders record.delegate).tmpSize : ℤ) = response.totalSize) :
    world.deliver (.response task response io) =
      (((world.responseRead record.delegate task response).moveTmp record.delegate io).setState
        record.delegate .success).answer task .refused := by
  simp [deliver, didReceiveResponse, settleResponse, noteReply, readResponse, callInfo,
    delegateOf_eq found, full, responseRead]

theorem deliver_restarted (found : world.tasks task = some record)
    (oversized : response.totalSize < (world.downLoaders record.delegate).tmpSize) :
    world.deliver (.response task response io) =
      (((world.responseRead record.delegate task response).removeTmp record.delegate).answer task
        .refused).downLoadWithURLOffset record.delegate response.url 0 := by
  simp [deliver, didReceiveResponse, settleResponse, noteReply, readResponse, callInfo,
    delegateOf_eq found, oversized, oversized.ne', responseRead]

theorem deliver_opened (found : world.tasks task = some record)
    (short : ((world.downLoaders record.delegate).tmpSize : ℤ) < response.totalSize) :
    world.deliver (.response task response io) =
      (((world.responseRead record.delegate task response).openStream record.delegate io).setState
        record.delegate .downing).answer task .allowed := by
  simp [deliver, didReceiveResponse, settleResponse, noteReply, readResponse, callInfo,
    delegateOf_eq found, short.ne, short.not_gt, responseRead]

@[simp]
theorem downLoaders_responseRead (loader : DownLoaderId) :
    (world.responseRead loader task response).downLoaders =
      Function.update world.downLoaders loader
        { world.downLoaders loader with totalSize := response.totalSize } := by
  simp [responseRead, noteReply, readResponse, callInfo]

@[simp]
theorem files_responseRead (loader : DownLoaderId) :
    (world.responseRead loader task response).files = world.files := by
  simp [responseRead, noteReply, readResponse, callInfo]

@[simp]
theorem taskCount_responseRead (loader : DownLoaderId) :
    (world.responseRead loader task response).taskCount = world.taskCount := by
  simp [responseRead, noteReply, readResponse, callInfo]

@[simp]
theorem sessionCount_responseRead (loader : DownLoaderId) :
    (world.responseRead loader task response).sessionCount = world.sessionCount := by
  simp [responseRead, noteReply, readResponse, callInfo, mapTask]

@[simp]
theorem downLoaderCount_responseRead (loader : DownLoaderId) :
    (world.responseRead loader task response).downLoaderCount = world.downLoaderCount := by
  simp [responseRead, noteReply, readResponse, callInfo]

@[simp]
theorem downLoaderInfos_responseRead (loader : DownLoaderId) :
    (world.responseRead loader task response).downLoaderInfos = world.downLoaderInfos := by
  simp [responseRead, noteReply, readResponse, callInfo]

@[simp]
theorem log_responseRead (loader : DownLoaderId) :
    (world.responseRead loader task response).log =
      .info loader (world.downLoaders loader).dloadInfo response.totalSize 0 :: world.log := by
  simp [responseRead, noteReply, readResponse, callInfo]

theorem tasks_responseRead (loader : DownLoaderId) (found : world.tasks task = some record) :
    (world.responseRead loader task response).tasks =
      Function.update world.tasks task (some { record with reply := some response }) :=
  tasks_mapTask found _

/-- The tmp file is taken for finished. -/
theorem touches_finished (found : world.tasks task = some record)
    (full : ((world.downLoaders record.delegate).tmpSize : ℤ) = response.totalSize) :
    world.Touches (world.deliver (.response task response io)) record.delegate
      { world.downLoaders record.delegate with
        totalSize := response.totalSize, state := .success }
      task { record with reply := some response, phase := .refused } := by
  rw [deliver_finished io found full]
  constructor
  case tasks =>
    funext other
    by_cases same : other = task <;>
      simp [moveTmp, setState, answer, tasks_responseRead _ found, same]
  all_goals simp [moveTmp, setState, answer]

/-- The body is let through to the output stream. -/
theorem touches_opened (found : world.tasks task = some record)
    (short : ((world.downLoaders record.delegate).tmpSize : ℤ) < response.totalSize) :
    world.Touches (world.deliver (.response task response io)) record.delegate
      { world.downLoaders record.delegate with
        totalSize := response.totalSize
        outputSream := some (NSOutputStream.openAppending world.files
          (world.downLoaders record.delegate).downLoadTmpPath io).2
        state := .downing }
      task { record with reply := some response, phase := .allowed } := by
  rw [deliver_opened io found short]
  constructor
  case tasks =>
    funext other
    by_cases same : other = task <;>
      simp [openStream, setState, answer, tasks_responseRead _ found, same]
  all_goals simp [openStream, setState, answer]

/-- The task that a restart creates. -/
@[simps]
def restartedTask (world : World) (loader : DownLoaderId) (url : NSURL) : DataTask where
  originalURL := url
  offset := 0
  session := world.sessionOf loader
  delegate := loader

/-- The tmp file is dropped and a second task asks for the whole resource. -/
theorem deliver_restarted_spec (found : world.tasks task = some record)
    (oversized : response.totalSize < (world.downLoaders record.delegate).tmpSize) :
    (world.deliver (.response task response io)).downLoaders =
        Function.update world.downLoaders record.delegate
          { world.downLoaders record.delegate with
            totalSize := response.totalSize
            session := some (world.sessionOf record.delegate)
            task := some world.taskCount } ∧
      (world.deliver (.response task response io)).tasks =
        Function.update
          (Function.update world.tasks task
            (some { record with reply := some response, phase := .refused }))
          world.taskCount (some (world.restartedTask record.delegate response.url)) ∧
      (world.deliver (.response task response io)).taskCount = world.taskCount + 1 ∧
      (world.deliver (.response task response io)).downLoaderCount = world.downLoaderCount ∧
      (world.deliver (.response task response io)).downLoaderInfos = world.downLoaderInfos := by
  rw [deliver_restarted io found oversized]
  refine ⟨?_, ?_, ?_, ?_, ?_⟩
  case refine_2 =>
    funext other
    by_cases fresh : other = world.taskCount
    · subst fresh
      simp [removeTmp, answer, sessionOf, restartedTask]
    · by_cases same : other = task
      · subst same
        simp [removeTmp, answer, tasks_responseRead _ found, fresh]
      · simp [removeTmp, answer, tasks_responseRead _ found, same, fresh]
  all_goals simp [removeTmp, answer, sessionOf]

theorem files_finished (found : world.tasks task = some record)
    (full : ((world.downLoaders record.delegate).tmpSize : ℤ) = response.totalSize) :
    (world.deliver (.response task response io)).files =
      if io.moves then moveFile world.files (world.downLoaders record.delegate).downLoadTmpPath
        (world.downLoaders record.delegate).downLoadCachePath else world.files := by
  rw [deliver_finished io found full]
  simp [moveTmp, setState, answer]

theorem log_finished (found : world.tasks task = some record)
    (full : ((world.downLoaders record.delegate).tmpSize : ℤ) = response.totalSize) :
    (world.deliver (.response task response io)).log =
      ([.state record.delegate (world.downLoaders record.delegate).dloadStateChange .success] ++
        world.placement record.delegate io ++
        [.info record.delegate (world.downLoaders record.delegate).dloadInfo
          response.totalSize 0]) ++ world.log := by
  rw [deliver_finished io found full]
  simp [setState, answer, placement]

theorem files_restarted (found : world.tasks task = some record)
    (oversized : response.totalSize < (world.downLoaders record.delegate).tmpSize) :
    (world.deliver (.response task response io)).files =
      removeFileAtPath world.files (world.downLoaders record.delegate).downLoadTmpPath := by
  rw [deliver_restarted io found oversized]
  simp [removeTmp, answer]

theorem log_restarted (found : world.tasks task = some record)
    (oversized : response.totalSize < (world.downLoaders record.delegate).tmpSize) :
    (world.deliver (.response task response io)).log =
      ([.requested record.delegate world.taskCount response.url 0] ++
        world.removal record.delegate ++
        [.info record.delegate (world.downLoaders record.delegate).dloadInfo
          response.totalSize 0]) ++ world.log := by
  rw [deliver_restarted io found oversized]
  simp [answer, removal]

theorem files_opened (found : world.tasks task = some record)
    (short : ((world.downLoaders record.delegate).tmpSize : ℤ) < response.totalSize) :
    (world.deliver (.response task response io)).files =
      (NSOutputStream.openAppending world.files
        (world.downLoaders record.delegate).downLoadTmpPath io).1 := by
  rw [deliver_opened io found short]
  simp [openStream, setState, answer]

theorem log_opened (found : world.tasks task = some record)
    (short : ((world.downLoaders record.delegate).tmpSize : ℤ) < response.totalSize) :
    (world.deliver (.response task response io)).log =
      [.state record.delegate (world.downLoaders record.delegate).dloadStateChange .downing,
        .info record.delegate (world.downLoaders record.delegate).dloadInfo
          response.totalSize 0] ++ world.log := by
  rw [deliver_opened io found short]
  simp [openStream, setState, answer]

theorem sessionCount_opened (found : world.tasks task = some record)
    (short : ((world.downLoaders record.delegate).tmpSize : ℤ) < response.totalSize) :
    (world.deliver (.response task response io)).sessionCount = world.sessionCount := by
  rw [deliver_opened io found short]
  simp [openStream, setState, answer]

theorem sessionCount_finished (found : world.tasks task = some record)
    (full : ((world.downLoaders record.delegate).tmpSize : ℤ) = response.totalSize) :
    (world.deliver (.response task response io)).sessionCount = world.sessionCount := by
  rw [deliver_finished io found full]
  simp [moveTmp, setState, answer]

theorem sessionCount_restarted (found : world.tasks task = some record)
    (oversized : response.totalSize < (world.downLoaders record.delegate).tmpSize) :
    (world.deliver (.response task response io)).sessionCount =
      if (world.downLoaders record.delegate).session.isSome then world.sessionCount
      else world.sessionCount + 1 := by
  rw [deliver_restarted io found oversized]
  simp [removeTmp, answer]

variable (response) in
/-- A response leaves the dictionary alone. -/
theorem downLoaderInfos_response (found : world.tasks task = some record) :
    (world.deliver (.response task response io)).downLoaderInfos = world.downLoaderInfos := by
  rcases lt_trichotomy ((world.downLoaders record.delegate).tmpSize : ℤ) response.totalSize with
    short | full | oversized
  · rw [deliver_opened io found short]
    simp [openStream, setState, answer]
  · rw [deliver_finished io found full]
    simp [moveTmp, setState, answer]
  · rw [deliver_restarted io found oversized]
    simp [removeTmp, answer]

end Response

section Data

variable {world : World} {task : TaskId} {record : DataTask} (bytes : List UInt8) (io : LocalIO)

/-- The bytes are counted before they are offered to the stream. -/
theorem touches_data (found : world.tasks task = some record) :
    world.Touches (world.deliver (.data task bytes io)) record.delegate
      { world.downLoaders record.delegate with
        tmpSize := (world.downLoaders record.delegate).tmpSize + bytes.length
        progress := .quotient ((world.downLoaders record.delegate).tmpSize + bytes.length)
          (world.downLoaders record.delegate).totalSize }
      task { record with received := record.received + bytes.length } := by
  constructor
  case tasks =>
    funext other
    by_cases same : other = task <;>
      simp only [deliver, didReceiveData, writeBytes, delegateOf_eq found] <;> split <;>
        simp [countBytes, setProgress, callInfo, noteReceived, same, found]
  all_goals
    simp only [deliver, didReceiveData, writeBytes, delegateOf_eq found]
    split <;> simp [countBytes, setProgress, callInfo, noteReceived]

theorem files_data (found : world.tasks task = some record) :
    (world.deliver (.data task bytes io)).files =
      match (world.downLoaders record.delegate).streamNode with
      | none => world.files
      | some node => world.files.append node (io.taken bytes) := by
  simp only [deliver, didReceiveData, writeBytes, delegateOf_eq found]
  simp only [countBytes, setProgress, callInfo, noteReceived, record_downLoaders,
    modify_downLoaders, downLoaders_mapTask, Function.update_self, ZFDownLoader.streamNode]
  cases (world.downLoaders record.delegate).outputSream.bind NSOutputStream.node <;> simp

theorem log_data (found : world.tasks task = some record) :
    (world.deliver (.data task bytes io)).log =
      ((match (world.downLoaders record.delegate).streamNode with
        | none => []
        | some _ => [.appended record.delegate task (io.taken bytes)]) ++
        [.info record.delegate (world.downLoaders record.delegate).dloadInfo
          (world.downLoaders record.delegate).totalSize
          (.quotient ((world.downLoaders record.delegate).tmpSize + bytes.length)
            (world.downLoaders record.delegate).totalSize)]) ++ world.log := by
  simp only [deliver, didReceiveData, writeBytes, delegateOf_eq found]
  simp only [countBytes, setProgress, callInfo, noteReceived, record_downLoaders,
    modify_downLoaders, downLoaders_mapTask, Function.update_self, ZFDownLoader.streamNode]
  cases (world.downLoaders record.delegate).outputSream.bind NSOutputStream.node <;> simp

theorem downLoaderInfos_data (found : world.tasks task = some record) :
    (world.deliver (.data task bytes io)).downLoaderInfos = world.downLoaderInfos := by
  simp only [deliver, didReceiveData, writeBytes, delegateOf_eq found]
  split <;> simp [countBytes, setProgress, callInfo, noteReceived]

theorem sessionCount_data (found : world.tasks task = some record) :
    (world.deliver (.data task bytes io)).sessionCount = world.sessionCount := by
  simp only [deliver, didReceiveData, writeBytes, delegateOf_eq found]
  split <;> simp [countBytes, setProgress, callInfo, noteReceived]

end Data

section Completion

/-- The state that a completion event announces. -/
def finalState : Option NSError → ZFDownLoaderState
  | none => .success
  | some _ => .fail

/-- The block that a completion event calls. -/
def outcomeBlock (fields : ZFDownLoader) : Option NSError → Option CompletionBlock
  | none => fields.dloadSuccess
  | some _ => fields.dlFail

variable {world : World} {task : TaskId} {record : DataTask} (error : Option NSError)
  (io : LocalIO)

theorem touches_complete (found : world.tasks task = some record) :
    world.Touches (world.deliver (.complete task error io)) record.delegate
      { world.downLoaders record.delegate with
        outputSream := none
        state := finalState error
        task :=
          if (world.downLoaders record.delegate).task = some task then none
          else (world.downLoaders record.delegate).task }
      task { record with phase := .ended } := by
  constructor
  case tasks =>
    funext other
    cases error <;> by_cases same : other = task <;>
      simp [deliver, didCompleteWithError, releaseTask, finish, callOutcome, callSuccess, callFail,
        removeRegistered, closeStream, moveTmp, setState, answer, same, found]
  all_goals
    cases error <;>
      simp [deliver, didCompleteWithError, releaseTask, finish, callOutcome, callSuccess, callFail,
        removeRegistered, closeStream, moveTmp, setState, answer, finalState, delegateOf_eq found]

theorem downLoaderInfos_complete (found : world.tasks task = some record) :
    (world.deliver (.complete task error io)).downLoaderInfos =
      withoutKey world.downLoaderInfos
        (outcomeBlock (world.downLoaders record.delegate) error) := by
  cases error <;>
    simp [deliver, didCompleteWithError, releaseTask, finish, callOutcome, callSuccess, callFail,
      removeRegistered, closeStream, moveTmp, setState, answer, outcomeBlock, delegateOf_eq found]

theorem files_complete_failed (found : world.tasks task = some record) (failure : NSError) :
    (world.deliver (.complete task (some failure) io)).files = world.files := by
  simp [deliver, didCompleteWithError, releaseTask, finish, callOutcome, callFail, removeRegistered,
    closeStream, setState, answer, delegateOf_eq found]

theorem files_complete_finished (found : world.tasks task = some record) :
    (world.deliver (.complete task none io)).files =
      if io.moves then moveFile world.files (world.downLoaders record.delegate).downLoadTmpPath
        (world.downLoaders record.delegate).downLoadCachePath else world.files := by
  simp [deliver, didCompleteWithError, releaseTask, finish, callOutcome, callSuccess,
    removeRegistered, closeStream, moveTmp, setState, answer, delegateOf_eq found]

theorem log_complete_failed (found : world.tasks task = some record) (failure : NSError) :
    (world.deliver (.complete task (some failure) io)).log =
      [.fail record.delegate (world.downLoaders record.delegate).dlFail,
        .state record.delegate (world.downLoaders record.delegate).dloadStateChange .fail] ++
        world.log := by
  simp [deliver, didCompleteWithError, releaseTask, finish, callOutcome, callFail, removeRegistered,
    closeStream, setState, answer, delegateOf_eq found]

theorem log_complete_finished (found : world.tasks task = some record) :
    (world.deliver (.complete task none io)).log =
      ([.success record.delegate (world.downLoaders record.delegate).dloadSuccess
          (world.downLoaders record.delegate).downLoadCachePath,
        .state record.delegate (world.downLoaders record.delegate).dloadStateChange .success] ++
        world.placement record.delegate io) ++ world.log := by
  simp [deliver, didCompleteWithError, releaseTask, finish, callOutcome, callSuccess,
    removeRegistered, closeStream, setState, answer, placement, delegateOf_eq found]

theorem sessionCount_complete :
    (world.deliver (.complete task error io)).sessionCount = world.sessionCount := by
  cases error <;>
    simp [deliver, didCompleteWithError, releaseTask, finish, callOutcome, callSuccess, callFail,
      removeRegistered, closeStream, moveTmp, setState, answer]

end Completion

/-- What an event can do to its downloader and its task: the task goes on or is over, or a second
task takes its place. -/
inductive Delivered (world after : World) (event : DelegateEvent) (record : DataTask) : Prop where
  | goesOn (state : ZFDownLoaderState) (progress : CGFloat) (tmpSize : ℕ) (totalSize : ℤ)
      (outputSream : Option NSOutputStream) (changed : DataTask)
      (touched : world.Touches after record.delegate
        { world.downLoaders record.delegate with
          state, progress, tmpSize, totalSize, outputSream } event.task changed)
      (delegate : changed.delegate = record.delegate) (unfinished : changed.phase ≠ .ended)
  | completes (task : TaskId) (error : Option NSError) (io : LocalIO)
      (same : event = .complete task error io)
      (touched : world.Touches after record.delegate
        { world.downLoaders record.delegate with
          outputSream := none
          state := finalState error
          task :=
            if (world.downLoaders record.delegate).task = some event.task then none
            else (world.downLoaders record.delegate).task }
        event.task { record with phase := .ended })
  | restarts (totalSize : ℤ) (url : NSURL) (refused : DataTask)
      (downLoaders : after.downLoaders = Function.update world.downLoaders record.delegate
        { world.downLoaders record.delegate with
          totalSize
          session := some (world.sessionOf record.delegate)
          task := some world.taskCount })
      (tasks : after.tasks = Function.update
        (Function.update world.tasks event.task (some refused))
        world.taskCount (some (world.restartedTask record.delegate url)))
      (taskCount : after.taskCount = world.taskCount + 1)
      (delegate : refused.delegate = record.delegate) (unfinished : refused.phase ≠ .ended)

/-- Every event is about a task and does one of these things to it. -/
theorem delivered {world : World} {event : DelegateEvent}
    (deliverable : world.Deliverable event) :
    ∃ record, world.tasks event.task = some record ∧
      Delivered world (world.deliver event) event record := by
  cases event with
  | response task response io =>
      rcases exists_of_response deliverable with ⟨record, found, _⟩
      refine ⟨record, found, ?_⟩
      rcases lt_trichotomy ((world.downLoaders record.delegate).tmpSize : ℤ)
        response.totalSize with short | full | oversized
      · exact .goesOn _ _ _ _ _ _ (touches_opened io found short) rfl (by simp)
      · exact .goesOn _ _ _ _ _ _ (touches_finished io found full) rfl (by simp)
      · rcases deliver_restarted_spec io found oversized with ⟨downLoaders, tasks, taskCount, _⟩
        exact .restarts _ _ _ downLoaders tasks taskCount rfl (by simp)
  | data task bytes io =>
      rcases exists_of_data deliverable with ⟨record, found, allowed⟩
      exact ⟨record, found,
        .goesOn _ _ _ _ _ _ (touches_data bytes io found) rfl (by simp [allowed])⟩
  | complete task error io =>
      rcases exists_of_complete deliverable with ⟨record, found, _, _⟩
      exact ⟨record, found, .completes task error io rfl (touches_complete error io found)⟩

section Methods

variable {world : World} {loader : DownLoaderId} {source target : ZFDownLoaderState}
  {suspended : Bool}

theorem switch_of_ne (other : (world.downLoaders loader).state ≠ source) :
    world.switch loader source target suspended = world :=
  if_neg other

variable (target suspended) in
theorem touches_switch {task : TaskId} {record : DataTask}
    (standing : (world.downLoaders loader).state = source)
    (current : (world.downLoaders loader).task = some task)
    (found : world.tasks task = some record) :
    world.Touches (world.switch loader source target suspended) loader
      { world.downLoaders loader with state := target }
      task { record with suspended } := by
  rw [switch, if_pos standing]
  constructor
  case tasks =>
    funext other
    by_cases same : other = task
    · subst same
      simp [setState, setSuspended, current, found]
    · simp [setState, setSuspended, current, same, Ne.symm same]
  all_goals simp [setState, setSuspended]

theorem downLoaders_switch :
    (world.switch loader source target suspended).downLoaders =
      Function.update world.downLoaders loader
        { world.downLoaders loader with
          state := if (world.downLoaders loader).state = source then target
            else (world.downLoaders loader).state } := by
  rw [switch]
  split <;> simp [setState, setSuspended]

@[simp]
theorem taskCount_switch :
    (world.switch loader source target suspended).taskCount = world.taskCount := by
  rw [switch]
  split <;> simp [setState, setSuspended]

@[simp]
theorem downLoaderCount_switch :
    (world.switch loader source target suspended).downLoaderCount = world.downLoaderCount := by
  rw [switch]
  split <;> simp [setState, setSuspended]

@[simp]
theorem sessionCount_switch :
    (world.switch loader source target suspended).sessionCount = world.sessionCount := by
  rw [switch]
  split <;> simp [setState, setSuspended]

/-- Without a current task there is nothing to switch but the state. -/
theorem tasks_switch_of_none (idle : (world.downLoaders loader).task = none) :
    (world.switch loader source target suspended).tasks = world.tasks := by
  rw [switch]
  split
  · simp [setState, setSuspended, idle]
  · rfl

/-- A switch sets the flag of the current task, if of any. -/
theorem exists_of_switch {task : TaskId} {record : DataTask}
    (found : (world.switch loader source target suspended).tasks task = some record) :
    ∃ before, world.tasks task = some before ∧
      (record = before ∨
        record = { before with suspended } ∧ (world.downLoaders loader).task = some task) := by
  rw [switch] at found
  split at found
  · simp only [setState, setSuspended, record_tasks, modify_tasks, mapTasks_tasks,
      Option.map_eq_some_iff] at found
    rcases found with ⟨before, foundBefore, rfl⟩
    refine ⟨before, foundBefore, ?_⟩
    split
    · rename_i current
      exact Or.inr ⟨rfl, current⟩
    · exact Or.inl rfl
  · exact ⟨record, found, Or.inl rfl⟩

/-- Switching a task changes no more than whether it is suspended. -/
theorem unflagged_switch (task : TaskId) :
    ((world.switch loader source target suspended).tasks task).map DataTask.unflagged =
      (world.tasks task).map DataTask.unflagged := by
  rw [switch]
  split
  · simp only [setState, setSuspended, record_tasks, modify_tasks, mapTasks_tasks, Option.map_map]
    congr 1
    funext record
    simp only [Function.comp_apply]
    split <;> rfl
  · rfl

@[simp]
theorem downLoaderInfos_switch :
    (world.switch loader source target suspended).downLoaderInfos = world.downLoaderInfos := by
  rw [switch]
  split <;> simp [setState, setSuspended]

@[simp]
theorem files_switch : (world.switch loader source target suspended).files = world.files := by
  rw [switch]
  split <;> simp [setState, setSuspended]

variable (world loader source target suspended) in
theorem log_switch :
    (world.switch loader source target suspended).log =
      if (world.downLoaders loader).state = source then
        .state loader (world.downLoaders loader).dloadStateChange target :: world.log
      else world.log := by
  rw [switch]
  split <;> simp [setState, setSuspended]

theorem without_switch {kind : Effect → Prop}
    (harmless : ∀ block, ¬kind (.state loader block target)) :
    Without kind world (world.switch loader source target suspended) := by
  by_cases standing : (world.downLoaders loader).state = source
  · refine ⟨[.state loader (world.downLoaders loader).dloadStateChange target], ?_, ?_⟩
    · rw [log_switch, if_pos standing]
      rfl
    · intro effect present
      rw [List.mem_singleton.mp present]
      exact harmless _
  · exact .of_eq (by rw [log_switch, if_neg standing])

/-- The mark that a cancellation leaves on the unfinished tasks of the session. -/
def marked (world : World) (loader : DownLoaderId) (record : DataTask) : DataTask :=
  if record.session = world.sessionOf loader ∧ record.phase ≠ .ended then
    { record with cancelled := true }
  else record

variable (world loader) in
theorem marked_eq (record : DataTask) :
    ∃ cancelled, world.marked loader record = { record with cancelled } := by
  rw [marked]
  split
  · exact ⟨true, rfl⟩
  · exact ⟨record.cancelled, rfl⟩

@[simp]
theorem unflagged_marked (record : DataTask) :
    (world.marked loader record).unflagged = record.unflagged := by
  rcases marked_eq world loader record with ⟨cancelled, same⟩
  rw [same]
  rfl

/-- Cancelling marks the tasks of the session and forgets it; nothing else changes. -/
theorem tasks_cancel :
    (world.cancel loader).tasks = fun task => (world.tasks task).map (world.marked loader) := by
  simp [cancel, openSession]
  rfl

theorem unflagged_cancel (task : TaskId) :
    ((world.cancel loader).tasks task).map DataTask.unflagged =
      (world.tasks task).map DataTask.unflagged := by
  rw [tasks_cancel, Option.map_map]
  congr 1
  funext record
  exact unflagged_marked record

theorem downLoaders_cancel :
    (world.cancel loader).downLoaders =
      Function.update world.downLoaders loader
        { world.downLoaders loader with session := none } := by
  simp [cancel, openSession]

@[simp]
theorem taskCount_cancel : (world.cancel loader).taskCount = world.taskCount := by
  simp [cancel, openSession]

@[simp]
theorem downLoaderCount_cancel : (world.cancel loader).downLoaderCount = world.downLoaderCount := by
  simp [cancel, openSession]

@[simp]
theorem downLoaderInfos_cancel : (world.cancel loader).downLoaderInfos = world.downLoaderInfos := by
  simp [cancel, openSession]

@[simp]
theorem files_cancel : (world.cancel loader).files = world.files := by
  simp [cancel, openSession]

@[simp]
theorem log_cancel : (world.cancel loader).log = world.log := by
  simp [cancel, openSession]

/-- Only flags of tasks and the states and sessions of downloaders differ. -/
structure SameTransfers (before after : World) : Prop where
  tasks : ∀ task, (after.tasks task).map DataTask.unflagged =
    (before.tasks task).map DataTask.unflagged
  downLoaders : ∀ loader, ∃ state session,
    after.downLoaders loader = { before.downLoaders loader with state, session }
  downLoaderInfos : after.downLoaderInfos = before.downLoaderInfos
  files : after.files = before.files

variable (world loader source target suspended) in
theorem sameTransfers_switch :
    SameTransfers world (world.switch loader source target suspended) where
  tasks := unflagged_switch
  downLoaders := by
    intro other
    rw [downLoaders_switch]
    by_cases same : other = loader
    · subst same
      exact ⟨_, _, Function.update_self ..⟩
    · exact ⟨_, _, Function.update_of_ne same ..⟩
  downLoaderInfos := downLoaderInfos_switch
  files := files_switch

variable (world loader) in
theorem sameTransfers_cancel : SameTransfers world (world.cancel loader) where
  tasks := unflagged_cancel
  downLoaders := by
    intro other
    rw [downLoaders_cancel]
    by_cases same : other = loader
    · subst same
      exact ⟨_, _, Function.update_self ..⟩
    · exact ⟨_, _, Function.update_of_ne same ..⟩
  downLoaderInfos := downLoaderInfos_cancel
  files := files_cancel

end Methods

section DownLoadCalls

variable {digest : MessageDigest} {world : World} {loader : DownLoaderId} {url : NSURL}
  {blocks : DownLoadBlocks}

/-- The downloader after it has taken the blocks and paths of a call. -/
@[simps]
def calledFields (digest : MessageDigest) (fields : ZFDownLoader) (url : NSURL)
    (blocks : DownLoadBlocks) : ZFDownLoader :=
  { fields with
    dloadInfo := blocks.downLoadInfo
    dloadStateChange := blocks.stateChange
    dloadSuccess := blocks.success
    dlFail := blocks.fail
    downLoadCachePath := some url.cachePath
    downLoadTmpPath := some (url.tmpPath digest) }

/-- The call finds its own task under way, which it leaves to the new blocks. -/
def Keeps (world : World) (loader : DownLoaderId) (url : NSURL) : Prop :=
  ¬world.files.Occupied url.cachePath ∧ world.taskURL loader = some url ∧
    ((world.downLoaders loader).state = .downing ∨ (world.downLoaders loader).state = .pause)

instance (world : World) (loader : DownLoaderId) (url : NSURL) :
    Decidable (world.Keeps loader url) :=
  inferInstanceAs (Decidable (_ ∧ _ ∧ _))

/-- The world with the blocks and paths of a call. -/
def named (digest : MessageDigest) (world : World) (loader : DownLoaderId) (url : NSURL)
    (blocks : DownLoadBlocks) : World :=
  (world.assignBlocks loader blocks).assignPaths digest loader url

@[simp]
theorem downLoaders_named :
    (named digest world loader url blocks).downLoaders =
      Function.update world.downLoaders loader
        (calledFields digest (world.downLoaders loader) url blocks) := by
  simp [named, assignPaths, assignBlocks, calledFields]

@[simp]
theorem tasks_named : (named digest world loader url blocks).tasks = world.tasks := rfl

@[simp]
theorem files_named : (named digest world loader url blocks).files = world.files := rfl

@[simp]
theorem taskCount_named : (named digest world loader url blocks).taskCount = world.taskCount := rfl

@[simp]
theorem sessionCount_named :
    (named digest world loader url blocks).sessionCount = world.sessionCount := rfl

@[simp]
theorem downLoaderCount_named :
    (named digest world loader url blocks).downLoaderCount = world.downLoaderCount := rfl

@[simp]
theorem downLoaderInfos_named :
    (named digest world loader url blocks).downLoaderInfos = world.downLoaderInfos := rfl

@[simp]
theorem log_named :
    (named digest world loader url blocks).log = .called loader url :: world.log := rfl

@[simp]
theorem taskURL_named :
    (named digest world loader url blocks).taskURL loader = world.taskURL loader := by
  simp [taskURL, calledFields]

variable (digest blocks) in
theorem taskURL_called (same : world.taskURL loader = some url) :
    (named digest world loader url blocks).taskURL loader = some url := by
  rw [taskURL_named, same]

variable (digest blocks) in
theorem isFileExists_named_iff :
    isFileExists (named digest world loader url blocks).files (some url.cachePath) = true ↔
      world.files.Occupied url.cachePath :=
  decide_eq_true_iff

theorem downLoadWithURLBlocks_eq :
    world.downLoadWithURLBlocks digest loader url blocks =
      if isFileExists (named digest world loader url blocks).files (some url.cachePath) then
        (((named digest world loader url blocks).reportCached loader url).setState loader
          .success).callSuccess loader
      else if (named digest world loader url blocks).taskURL loader = some url ∧
          (world.downLoaders loader).state = .downing then
        named digest world loader url blocks
      else if (named digest world loader url blocks).taskURL loader = some url ∧
          (world.downLoaders loader).state = .pause then
        (named digest world loader url blocks).resume loader
      else
        (named digest world loader url blocks).startFromTmp loader url := by
  have standing : ((world.assignBlocks loader blocks).downLoaders loader).state =
      (world.downLoaders loader).state := by
    simp [assignBlocks]
  rw [downLoadWithURLBlocks, downLoadWithURL, standing]
  rfl

theorem call_cached (occupied : world.files.Occupied url.cachePath) :
    world.downLoadWithURLBlocks digest loader url blocks =
      (((named digest world loader url blocks).reportCached loader url).setState loader
        .success).callSuccess loader := by
  rw [downLoadWithURLBlocks_eq, if_pos ((isFileExists_named_iff digest blocks).mpr occupied)]

theorem call_downing (kept : world.Keeps loader url)
    (downing : (world.downLoaders loader).state = .downing) :
    world.downLoadWithURLBlocks digest loader url blocks =
      named digest world loader url blocks := by
  rcases kept with ⟨free, same, _⟩
  rw [downLoadWithURLBlocks_eq, if_neg (mt (isFileExists_named_iff digest blocks).mp free),
    if_pos ⟨taskURL_called digest blocks same, downing⟩]

theorem call_paused (kept : world.Keeps loader url)
    (paused : (world.downLoaders loader).state = .pause) :
    world.downLoadWithURLBlocks digest loader url blocks =
      (named digest world loader url blocks).resume loader := by
  rcases kept with ⟨free, same, _⟩
  rw [downLoadWithURLBlocks_eq, if_neg (mt (isFileExists_named_iff digest blocks).mp free),
    if_neg (by simp [paused]), if_pos ⟨taskURL_called digest blocks same, paused⟩]

theorem call_started (free : ¬world.files.Occupied url.cachePath)
    (started : ¬world.Keeps loader url) :
    world.downLoadWithURLBlocks digest loader url blocks =
      (named digest world loader url blocks).startFromTmp loader url := by
  have apart : ∀ state, state = .downing ∨ state = .pause →
      ¬((named digest world loader url blocks).taskURL loader = some url ∧
        (world.downLoaders loader).state = state) := by
    rintro state standing ⟨same, rfl⟩
    rw [taskURL_named] at same
    exact started ⟨free, same, standing⟩
  rw [downLoadWithURLBlocks_eq, if_neg (mt (isFileExists_named_iff digest blocks).mp free),
    if_neg (apart _ (Or.inl rfl)), if_neg (apart _ (Or.inr rfl))]

@[simp]
theorem marked_named :
    (named digest world loader url blocks).marked loader = world.marked loader := by
  funext record
  have same : (named digest world loader url blocks).sessionOf loader = world.sessionOf loader := by
    simp [sessionOf]
  rw [marked, marked, same]

/-- The session of the next task after a cancellation. -/
def freshSession (world : World) (loader : DownLoaderId) : SessionId :=
  if (world.downLoaders loader).session.isSome then world.sessionCount
  else world.sessionCount + 1

/-- The fields of a downloader that has just started a task. -/
@[simps]
def startedFields (digest : MessageDigest) (world : World) (loader : DownLoaderId) (url : NSURL)
    (blocks : DownLoadBlocks) : ZFDownLoader :=
  { calledFields digest (world.downLoaders loader) url blocks with
    session := some (world.freshSession loader)
    tmpSize := fileTotalSize world.files (some (url.tmpPath digest))
    task := some world.taskCount }

/-- The task that a call has just started. -/
@[simps]
def startedTask (digest : MessageDigest) (world : World) (loader : DownLoaderId) (url : NSURL) :
    DataTask where
  originalURL := url
  offset := fileTotalSize world.files (some (url.tmpPath digest))
  session := world.freshSession loader
  delegate := loader

section Started

variable (free : ¬world.files.Occupied url.cachePath) (started : ¬world.Keeps loader url)

include free started

theorem downLoaders_call_started :
    (world.downLoadWithURLBlocks digest loader url blocks).downLoaders =
      Function.update world.downLoaders loader
        (startedFields digest world loader url blocks) := by
  rw [call_started free started]
  simp [startFromTmp, downLoaders_cancel, startedFields, calledFields, sessionOf]
  simp [cancel, openSession, freshSession, calledFields]

theorem tasks_call_started :
    (world.downLoadWithURLBlocks digest loader url blocks).tasks =
      Function.update (world.cancel loader).tasks world.taskCount
        (some (startedTask digest world loader url)) := by
  rw [call_started free started]
  simp [startFromTmp, tasks_cancel, startedTask, calledFields, sessionOf, downLoaders_cancel]
  simp [cancel, openSession, freshSession, calledFields]

theorem taskCount_call_started :
    (world.downLoadWithURLBlocks digest loader url blocks).taskCount = world.taskCount + 1 := by
  rw [call_started free started]
  simp [startFromTmp]

theorem downLoaderCount_call_started :
    (world.downLoadWithURLBlocks digest loader url blocks).downLoaderCount =
      world.downLoaderCount := by
  rw [call_started free started]
  simp [startFromTmp]

theorem sessionCount_call_started :
    (world.downLoadWithURLBlocks digest loader url blocks).sessionCount =
      world.freshSession loader + 1 := by
  rw [call_started free started]
  simp [startFromTmp, downLoaders_cancel]
  simp [cancel, openSession, freshSession, calledFields]

theorem downLoaderInfos_call_started :
    (world.downLoadWithURLBlocks digest loader url blocks).downLoaderInfos =
      world.downLoaderInfos := by
  rw [call_started free started]
  simp [startFromTmp]

theorem files_call_started :
    (world.downLoadWithURLBlocks digest loader url blocks).files = world.files := by
  rw [call_started free started]
  simp [startFromTmp]

theorem log_call_started :
    (world.downLoadWithURLBlocks digest loader url blocks).log =
      [.requested loader world.taskCount url
          (fileTotalSize world.files (some (url.tmpPath digest))),
        .called loader url] ++ world.log := by
  rw [call_started free started]
  simp [startFromTmp, calledFields]

end Started

section Cached

variable (occupied : world.files.Occupied url.cachePath)

include occupied

theorem downLoaders_call_cached :
    (world.downLoadWithURLBlocks digest loader url blocks).downLoaders =
      Function.update world.downLoaders loader
        { calledFields digest (world.downLoaders loader) url blocks with state := .success } := by
  rw [call_cached occupied]
  simp [reportCached, callInfo, setState, callSuccess, removeRegistered]

theorem tasks_call_cached :
    (world.downLoadWithURLBlocks digest loader url blocks).tasks = world.tasks := by
  rw [call_cached occupied]
  simp [reportCached, callInfo, setState, callSuccess, removeRegistered]

theorem taskCount_call_cached :
    (world.downLoadWithURLBlocks digest loader url blocks).taskCount = world.taskCount := by
  rw [call_cached occupied]
  simp [reportCached, callInfo, setState, callSuccess, removeRegistered]

theorem downLoaderCount_call_cached :
    (world.downLoadWithURLBlocks digest loader url blocks).downLoaderCount =
      world.downLoaderCount := by
  rw [call_cached occupied]
  simp [reportCached, callInfo, setState, callSuccess, removeRegistered]

theorem sessionCount_call_cached :
    (world.downLoadWithURLBlocks digest loader url blocks).sessionCount = world.sessionCount := by
  rw [call_cached occupied]
  simp [reportCached, callInfo, setState, callSuccess, removeRegistered]

theorem downLoaderInfos_call_cached :
    (world.downLoadWithURLBlocks digest loader url blocks).downLoaderInfos =
      withoutKey world.downLoaderInfos blocks.success := by
  rw [call_cached occupied]
  simp [reportCached, callInfo, setState, callSuccess, removeRegistered, calledFields]

theorem files_call_cached :
    (world.downLoadWithURLBlocks digest loader url blocks).files = world.files := by
  rw [call_cached occupied]
  simp [reportCached, callInfo, setState, callSuccess, removeRegistered]

theorem log_call_cached :
    (world.downLoadWithURLBlocks digest loader url blocks).log =
      [.success loader blocks.success (some url.cachePath),
        .state loader blocks.stateChange .success,
        .info loader blocks.downLoadInfo (fileTotalSize world.files (some url.cachePath)) 1,
        .called loader url] ++ world.log := by
  rw [call_cached occupied]
  simp [reportCached, callInfo, setState, callSuccess, removeRegistered, calledFields]

end Cached

end DownLoadCalls

end World

end ZFBaseFramework
