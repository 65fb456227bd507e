import ZFBaseFramework.DownLoader.Download

/-!
# Restarts from offset zero

A response whose length is below the tmp size makes the downloader delete the tmp
file and ask again from offset zero. The tmp size itself is not reset, so with a
server that keeps stating the same length the next response is again too short:
`requests_unbounded`. `restarts_bounded_iff` says when the chain of requests is short.
-/

namespace ZFBaseFramework

open ZFFileManagerTool World

/-- The number of requests that were sent. -/
def requests (log : List Effect) : ℕ :=
  log.countP fun
    | .requested _ _ _ _ => true
    | _ => false

/-- A response of the action states this length. -/
def Stating (length : ℕ) (_ : World) : DownLoadAction → Prop
  | .deliver (.response _ response _) => response.totalSize = length
  | _ => True

/-- No restart has happened, and the outstanding response will not cause one. -/
structure Unrestarted (length : ℕ) (world : World) : Prop where
  once : requests world.log ≤ 1
  single : ∀ {task record}, world.tasks task = some record →
    task = 0 ∧ record.delegate = 0 ∧
      (record.phase = .waiting → (world.downLoaders 0).tmpSize ≤ length)

/-- The downloader waits for the response to its latest request, which will be too short. -/
structure Restarting (size count : ℕ) (world : World) : Prop where
  taskCount : world.taskCount = count + 1
  waiting : ∃ record, world.tasks count = some record ∧ record.phase = .waiting ∧
    record.delegate = 0
  tmpSize : (world.downLoaders 0).tmpSize = size
  requested : requests world.log = count + 1

section Steps

variable {digest : MessageDigest} {files : FileSystem Path} {url : NSURL}
  {blocks : DownLoadBlocks} {length size count : ℕ} {world : World}

theorem unrestarted_begun
    (enough : files.Occupied url.cachePath ∨
      fileTotalSize files (some (url.tmpPath digest)) ≤ length) :
    Unrestarted length (begun digest files url blocks) := by
  by_cases occupied : files.Occupied url.cachePath
  · constructor
    · rw [begun, log_call_cached occupied]
      simp [requests, launch]
    · intro task record found
      rw [begun, tasks_call_cached occupied] at found
      cases found
  · constructor
    · rw [begun, log_call_started occupied not_keeps_launch]
      simp [requests, launch]
    · intro task record found
      rw [tasks_begun occupied] at found
      by_cases first : task = 0
      · subst first
        simp only [Function.update_self, Option.some.injEq] at found
        subst found
        refine ⟨rfl, rfl, fun _ => ?_⟩
        rw [downLoaders_begun _ _ occupied]
        exact enough.resolve_left occupied
      · rw [Function.update_of_ne first] at found
        cases found

theorem Unrestarted.of_unflagged (unrestarted : Unrestarted length world) {after : World}
    (same : ∀ task, (after.tasks task).map DataTask.unflagged =
      (world.tasks task).map DataTask.unflagged)
    (tmpSize : (after.downLoaders 0).tmpSize = (world.downLoaders 0).tmpSize)
    (logged : requests after.log = requests world.log) : Unrestarted length after := by
  constructor
  · rw [logged]
    exact unrestarted.once
  · intro task record found
    rcases DataTask.exists_of_unflagged (same task) found with ⟨origin, foundBefore, agree⟩
    rcases unrestarted.single foundBefore with ⟨first, delegate, fits⟩
    refine ⟨first, ?_, fun waiting => ?_⟩
    · rw [← DataTask.delegate_eq agree, delegate]
    · rw [tmpSize]
      exact fits ((DataTask.phase_eq agree).trans waiting)

theorem Unrestarted.switch (unrestarted : Unrestarted length world)
    {source target : ZFDownLoaderState} {suspended : Bool} :
    Unrestarted length (world.switch 0 source target suspended) := by
  apply unrestarted.of_unflagged unflagged_switch
  · simp [downLoaders_switch]
  · rw [log_switch]
    split <;> simp [requests]

theorem Unrestarted.cancel (unrestarted : Unrestarted length world) :
    Unrestarted length (world.cancel 0) := by
  apply unrestarted.of_unflagged unflagged_cancel
  · simp [downLoaders_cancel]
  · simp

theorem Unrestarted.of_touches (unrestarted : Unrestarted length world) {task : TaskId}
    (first : task = 0) {after : World} {fields : ZFDownLoader} {changed : DataTask}
    (touches : world.Touches after 0 fields task changed) (delegate : changed.delegate = 0)
    (fits : changed.phase = .waiting → fields.tmpSize ≤ length)
    (logged : requests after.log = requests world.log) : Unrestarted length after := by
  constructor
  · rw [logged]
    exact unrestarted.once
  · intro other record found
    rw [touches.tasks] at found
    rw [touches.downLoaders, Function.update_self]
    by_cases same : other = task
    · subst same
      simp only [Function.update_self, Option.some.injEq] at found
      subst found
      exact ⟨first, delegate, fits⟩
    · rw [Function.update_of_ne same] at found
      exact absurd ((unrestarted.single found).1.trans first.symm) same

theorem Unrestarted.response (unrestarted : Unrestarted length world) {task : TaskId}
    {response : NSHTTPURLResponse} {io : LocalIO}
    (deliverable : world.Deliverable (.response task response io))
    (stating : response.totalSize = length) :
    Unrestarted length (world.deliver (.response task response io)) := by
  rcases exists_of_response deliverable with ⟨record, found, waiting⟩
  rcases unrestarted.single found with ⟨first, delegate, fits⟩
  have enough : ((world.downLoaders record.delegate).tmpSize : ℤ) ≤ response.totalSize := by
    rw [stating, delegate]
    exact_mod_cast fits waiting
  rcases lt_or_eq_of_le enough with short | full
  · have touches := touches_opened io found short
    rw [delegate] at touches
    refine unrestarted.of_touches first touches rfl nofun ?_
    rw [log_opened io found short]
    simp [requests]
  · have touches := touches_finished io found full
    rw [delegate] at touches
    refine unrestarted.of_touches first touches rfl nofun ?_
    rw [log_finished io found full, placement]
    split <;> simp [requests]

theorem Unrestarted.data (unrestarted : Unrestarted length world) {task : TaskId}
    {bytes : List UInt8} {io : LocalIO} (deliverable : world.Deliverable (.data task bytes io)) :
    Unrestarted length (world.deliver (.data task bytes io)) := by
  rcases exists_of_data deliverable with ⟨record, found, allowed⟩
  rcases unrestarted.single found with ⟨first, delegate, _⟩
  have touches := touches_data bytes io found
  rw [delegate] at touches
  refine unrestarted.of_touches first touches rfl (by simp [allowed]) ?_
  rw [log_data bytes io found]
  split <;> simp [requests]

theorem Unrestarted.complete (unrestarted : Unrestarted length world) {task : TaskId}
    {error : Option NSError} {io : LocalIO}
    (deliverable : world.Deliverable (.complete task error io)) :
    Unrestarted length (world.deliver (.complete task error io)) := by
  rcases exists_of_complete deliverable with ⟨record, found, _, _⟩
  rcases unrestarted.single found with ⟨first, delegate, _⟩
  have touches := touches_complete error io found
  rw [delegate] at touches
  refine unrestarted.of_touches first touches rfl nofun ?_
  cases error with
  | none =>
      rw [log_complete_finished io found, placement]
      split <;> simp [requests]
  | some failure =>
      rw [log_complete_failed io found]
      simp [requests]

theorem unrestarted_preserved :
    (downLoadSystem.restrict (Stating length)).Preserves (Unrestarted length) := by
  rintro world action unrestarted ⟨admitted, stating⟩
  cases action with
  | resume => exact unrestarted.switch
  | pause => exact unrestarted.switch
  | cancel => exact unrestarted.cancel
  | deliver event =>
      cases event with
      | response task response io => exact unrestarted.response admitted stating
      | data task bytes io => exact unrestarted.data admitted
      | complete task error io => exact unrestarted.complete admitted

theorem restarting_begun (free : ¬files.Occupied url.cachePath) :
    Restarting (fileTotalSize files (some (url.tmpPath digest))) 0
      (begun digest files url blocks) := by
  refine ⟨taskCount_call_started free not_keeps_launch,
    ⟨startedTask digest (launch files) 0 url, ?_, rfl, rfl⟩, ?_, ?_⟩
  · rw [tasks_begun free, Function.update_self]
  · rw [downLoaders_begun _ _ free]
    rfl
  · rw [begun, log_call_started free not_keeps_launch]
    simp [requests, launch]

/-- The tmp size survives a restart, so the next response restarts again. -/
theorem Restarting.deliver (restarting : Restarting size count world)
    {response : NSHTTPURLResponse} (oversized : response.totalSize < size) (io : LocalIO) :
    Restarting size (count + 1) (world.deliver (.response count response io)) := by
  rcases restarting.waiting with ⟨record, found, _, delegate⟩
  have oversized : response.totalSize < (world.downLoaders record.delegate).tmpSize := by
    rwa [delegate, restarting.tmpSize]
  rcases deliver_restarted_spec io found oversized with ⟨fields, tasks, taskCount, _, _⟩
  refine ⟨?_, ⟨world.restartedTask record.delegate response.url, ?_, rfl, delegate⟩, ?_, ?_⟩
  · rw [taskCount, restarting.taskCount]
  · rw [tasks, restarting.taskCount, Function.update_self]
  · rw [fields, delegate, Function.update_self]
    exact restarting.tmpSize
  · rw [log_restarted io found oversized, removal]
    have requested := restarting.requested
    split <;> simpa [requests] using requested

/-- An oversized tmp file allows a run with any number of requests. -/
theorem requests_unbounded (free : ¬files.Occupied url.cachePath) (small : length < 2 ^ 63)
    (oversized : length < fileTotalSize files (some (url.tmpPath digest))) (count : ℕ) :
    ∃ actions,
      (downLoadSystem.restrict (Stating length)).Runs (begun digest files url blocks) actions ∧
        Restarting (fileTotalSize files (some (url.tmpPath digest))) count
          (downLoadSystem.exec (begun digest files url blocks) actions) := by
  induction count with
  | zero => exact ⟨[], trivial, restarting_begun free⟩
  | succ count ih =>
      rcases ih with ⟨actions, runs, restarting⟩
      have fits : (StatedReply.mk 200 (some length) none).Fits :=
        ⟨by rintro other ⟨rfl⟩; exact small, by rintro range other ⟨⟩⟩
      have stated := StatedReply.totalSize_render fits url
      refine ⟨actions ++ [.deliver (.response count
        ((StatedReply.mk 200 (some length) none).render url) .healthy)], ?_, ?_⟩
      · rcases restarting.waiting with ⟨record, found, waiting, _⟩
        simp only [ActionSystem.runs_append, ActionSystem.runs_cons, ActionSystem.runs_nil,
          and_true]
        refine ⟨runs, ?_, stated⟩
        exact (phaseOf_eq found).trans (congrArg some waiting)
      · rw [ActionSystem.exec_append]
        apply restarting.deliver
        rw [stated]
        exact_mod_cast oversized

end Steps

/-- A call sends at most two requests, whatever happens, exactly if the file is cached or the
tmp file is no longer than the length that the server states. -/
theorem restarts_bounded_iff (digest : MessageDigest) (files : FileSystem Path) (url : NSURL)
    (blocks : DownLoadBlocks) {length : ℕ} (small : length < 2 ^ 63) :
    (∀ actions,
        (downLoadSystem.restrict (Stating length)).Runs (begun digest files url blocks) actions →
        requests (downLoadSystem.exec (begun digest files url blocks) actions).log ≤ 2) ↔
      files.Occupied url.cachePath ∨
        fileTotalSize files (some (url.tmpPath digest)) ≤ length := by
  constructor
  · intro bounded
    by_contra neither
    rw [not_or, not_le] at neither
    rcases requests_unbounded neither.1 small neither.2 2 with ⟨actions, runs, restarting⟩
    have many := bounded actions runs
    rw [restarting.requested] at many
    omega
  · intro enough actions runs
    have unrestarted := unrestarted_preserved.exec (unrestarted_begun enough) runs
    exact unrestarted.once.trans one_le_two

/-- Two of the example's five bytes are on disk. -/
theorem restarts_bounded_resumed :
    (∀ actions,
        (downLoadSystem.restrict (Stating 5)).Runs (exampleBegun [1, 2]) actions →
        requests (downLoadSystem.exec (exampleBegun [1, 2]) actions).log ≤ 2) ↔
      (emptyContainer.put (exampleURL.tmpPath exampleDigest) (.file [1, 2])).Occupied
          exampleURL.cachePath ∨
        fileTotalSize (emptyContainer.put (exampleURL.tmpPath exampleDigest) (.file [1, 2]))
          (some (exampleURL.tmpPath exampleDigest)) ≤ 5 :=
  restarts_bounded_iff exampleDigest _ exampleURL exampleDownLoadBlocks (by decide)

/-- The resource shrank from five bytes to three: every answer causes another request. -/
theorem shrunk_three_requests :
    let answer := ((StatedReply.mk 200 (some 3) none).render exampleURL)
    let actions : List DownLoadAction :=
      [.deliver (.response 0 answer .healthy), .deliver (.response 1 answer .healthy)]
    downLoadSystem.Runs (exampleBegun [1, 2, 3, 4, 5]) actions ∧
      (∀ action ∈ actions, Stating 3 (exampleBegun [1, 2, 3, 4, 5]) action) ∧
      requests (downLoadSystem.exec (exampleBegun [1, 2, 3, 4, 5]) actions).log = 3 := by
  refine ⟨by decide, ?_, by decide⟩
  simp only [List.mem_cons, List.not_mem_nil, or_false]
  rintro action (rfl | rfl) <;> exact rfl

end ZFBaseFramework
