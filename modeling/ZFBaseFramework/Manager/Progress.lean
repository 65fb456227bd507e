import ZFBaseFramework.DownLoader.Download
import ZFBaseFramework.Manager.StoredBytes

/-!
# The reported progress

The value reported for a chunk divides `_tmpSize`, which starts from the tmp file of an
earlier session and counts every chunk, by `_totalSize`, which was read from the
response. For a server that honours `Range`, both are tied to the resource as long as
its one task goes on: `Progressing` is the invariant, over the chunks delivered so far.
-/

namespace ZFBaseFramework

open ZFFileManagerTool World

/-- The values given to the progress block, in the order of the calls. -/
def reported (log : List Effect) : List CGFloat :=
  log.reverse.filterMap fun
    | .info _ _ _ progress => some progress
    | _ => none

def chunks (actions : List DownLoadAction) : List (List UInt8) :=
  actions.filterMap fun
    | .deliver (.data _ bytes _) => some bytes
    | _ => none

/-- The part of the whole that is there after each chunk. -/
def partsAfter (total received : ℕ) : List (List UInt8) → List ℚ
  | [] => []
  | bytes :: rest =>
      ((received + bytes.length : ℕ) : ℚ) / total :: partsAfter total (received + bytes.length) rest

/-- Whenever Success was announced, the last reported value was 1. -/
def SuccessAtOne (log : List Effect) : Prop :=
  ∀ later announcement earlier, log = later ++ announcement :: earlier →
    Resource.Announces announcement → (reported earlier).getLast? = some 1

section Parts

variable {total received : ℕ} {delivered : List (List UInt8)}

theorem partsAfter_append (bytes : List UInt8) :
    partsAfter total received (delivered ++ [bytes]) =
      partsAfter total received delivered ++
        [((received + delivered.flatten.length + bytes.length : ℕ) : ℚ) / total] := by
  induction delivered generalizing received with
  | nil => simp [partsAfter]
  | cons first rest ih =>
      rw [List.cons_append, partsAfter, ih, partsAfter, List.flatten_cons, List.length_append,
        List.cons_append]
      simp only [Nat.add_assoc]

/-- All later parts are larger, and none exceeds the whole. -/
theorem partsAfter_bounds (positive : 0 < total) (nonempty : ∀ bytes ∈ delivered, bytes ≠ [])
    (within : received + delivered.flatten.length ≤ total) :
    ∀ part ∈ partsAfter total received delivered, (received : ℚ) / total < part ∧ part ≤ 1 := by
  have wholePositive : (0 : ℚ) < total := by exact_mod_cast positive
  induction delivered generalizing received with
  | nil => simp [partsAfter]
  | cons first rest ih =>
      rw [List.flatten_cons, List.length_append, ← Nat.add_assoc] at within
      have grows : received < received + first.length := by
        have := List.length_pos_iff.mpr (nonempty first List.mem_cons_self)
        omega
      have larger : (received : ℚ) / total < ((received + first.length : ℕ) : ℚ) / total := by
        gcongr
      intro part member
      rcases List.mem_cons.mp member with rfl | later
      · refine ⟨larger, ?_⟩
        rw [div_le_one wholePositive]
        exact_mod_cast le_trans (Nat.le_add_right _ _) within
      · have bounds := ih (fun bytes present => nonempty bytes (List.mem_cons_of_mem _ present))
          within part later
        exact ⟨larger.trans bounds.1, bounds.2⟩

theorem partsAfter_increasing (positive : 0 < total) (nonempty : ∀ bytes ∈ delivered, bytes ≠ [])
    (within : received + delivered.flatten.length ≤ total) :
    (partsAfter total received delivered).Pairwise (· < ·) := by
  induction delivered generalizing received with
  | nil => exact List.Pairwise.nil
  | cons first rest ih =>
      rw [List.flatten_cons, List.length_append, ← Nat.add_assoc] at within
      have restNonempty : ∀ bytes ∈ rest, bytes ≠ [] := fun bytes present =>
        nonempty bytes (List.mem_cons_of_mem _ present)
      refine List.pairwise_cons.mpr ⟨?_, ih restNonempty within⟩
      intro part later
      exact (partsAfter_bounds positive restNonempty within part later).1

theorem partsAfter_getLast (positive : 0 < total) (missing : received < total)
    (complete : received + delivered.flatten.length = total) :
    (partsAfter total received delivered).getLast? = some 1 := by
  rcases List.eq_nil_or_concat delivered with rfl | ⟨initial, bytes, rfl⟩
  · simp at complete
    omega
  · rw [List.concat_eq_append] at complete ⊢
    rw [List.flatten_append, List.length_append, List.flatten_singleton, ← Nat.add_assoc]
      at complete
    rw [partsAfter_append, List.getLast?_concat, complete, div_self (by positivity)]

end Parts

section Log

variable {log : List Effect}

theorem reported_append (news : List Effect) :
    reported (news ++ log) = reported log ++ reported news := by
  simp [reported]

theorem SuccessAtOne.cons (holds : SuccessAtOne log) {effect : Effect}
    (last : Resource.Announces effect → (reported log).getLast? = some 1) :
    SuccessAtOne (effect :: log) := by
  intro later announcement earlier split announces
  cases later with
  | nil =>
      rcases List.cons_eq_cons.mp split with ⟨rfl, rfl⟩
      exact last announces
  | cons _ rest => exact holds rest announcement earlier (List.cons_eq_cons.mp split).2 announces

end Log

namespace Resource

variable {digest : MessageDigest} (resource : Resource digest)

/-- The server behaves, and no chunk is empty. -/
def Supplies (world : World) : DownLoadAction → Prop
  | .deliver event => resource.Serves world (.deliver event) ∧
      ∀ task bytes io, event = .data task bytes io → bytes ≠ []
  | _ => True

/-- What the progress block of a download was told, of which the given chunks have arrived over
so many bytes in the tmp file. -/
structure HonestProgress (size : ℕ) (block : Option BlockId) (delivered : List (List UInt8))
    (log : List Effect) : Prop where
  total : ∀ loader called fileSize progress, Effect.info loader called fileSize progress ∈ log →
    called = block ∧ fileSize = resource.content.length
  counted : reported log = [] ∧ delivered = [] ∨
    reported log = 0 :: (partsAfter resource.content.length size delivered).map .finite
  increasing : (reported log).tail.Pairwise (· < ·)
  inRange : ∀ progress ∈ (reported log).tail, 0 < progress ∧ progress ≤ 1
  finished : SuccessAtOne log

/-- What the log says of the chunks delivered so far. -/
structure Told (size : ℕ) (block : Option BlockId) (delivered : List (List UInt8))
    (log : List Effect) : Prop where
  total : ∀ loader called fileSize progress, Effect.info loader called fileSize progress ∈ log →
    called = block ∧ fileSize = resource.content.length
  counted : reported log = [] ∧ delivered = [] ∨
    reported log = 0 :: (partsAfter resource.content.length size delivered).map .finite
  finished : SuccessAtOne log

/-- How far the task has come: nothing was reported before its response, and from then on the
total is the length of the resource. -/
structure Carries (size : ℕ) (delivered : List (List UInt8)) (world : World)
    (record : DataTask) : Prop where
  delegate : record.delegate = 0
  offset : record.offset = size
  received : record.received = delivered.flatten.length
  waiting : record.phase = .waiting → reported world.log = [] ∧ delivered = []
  allowed : record.phase = .allowed →
    (world.downLoaders 0).totalSize = resource.content.length ∧
      reported world.log = 0 :: (partsAfter resource.content.length size delivered).map .finite

structure Progressing (size : ℕ) (block : Option BlockId) (delivered : List (List UInt8))
    (world : World) : Prop where
  dloadInfo : (world.downLoaders 0).dloadInfo = block
  nonempty : ∀ bytes ∈ delivered, bytes ≠ []
  within : size + delivered.flatten.length ≤ resource.content.length
  tmpSize : (world.downLoaders 0).tmpSize = size + delivered.flatten.length
  single : ∀ task record, world.tasks task = some record → task = 0
  carries : ∀ record, world.tasks 0 = some record → resource.Carries size delivered world record
  told : resource.Told size block delivered world.log

/-- Calls of the progress block and announcements of Success. -/
def Speaks (effect : Effect) : Prop :=
  (∃ loader called fileSize progress, effect = .info loader called fileSize progress) ∨
    Announces effect

theorem not_speaks_state {loader : DownLoaderId} {held : Option BlockId}
    {state : ZFDownLoaderState} (unannounced : state ≠ .success) :
    ¬Speaks (.state loader held state) := by
  rintro (⟨_, _, _, _, same⟩ | ⟨_, _, same⟩ | ⟨_, _, _, same⟩)
  · cases same
  · cases same
    exact unannounced rfl
  · cases same

section Log

variable {resource} {size : ℕ} {block : Option BlockId} {delivered : List (List UInt8)}

theorem reported_append_of_silent {news log : List Effect}
    (silent : ∀ effect ∈ news, ¬Speaks effect) : reported (news ++ log) = reported log := by
  have none : reported news = [] := by
    rw [reported, List.filterMap_eq_nil_iff]
    intro effect member
    have quiet := silent effect (List.mem_reverse.mp member)
    cases effect with
    | info loader called fileSize progress => exact absurd (Or.inl ⟨_, _, _, _, rfl⟩) quiet
    | _ => rfl
  rw [reported_append, none, List.append_nil]

theorem Told.cons {log : List Effect} (told : resource.Told size block delivered log)
    {effect : Effect} (silent : ¬Speaks effect) :
    resource.Told size block delivered (effect :: log) := by
  constructor
  case counted =>
    have alone : ∀ other ∈ [effect], ¬Speaks other := by
      simpa using silent
    have kept : reported (effect :: log) = reported log := reported_append_of_silent alone
    rw [kept]
    exact told.counted
  case total =>
    intro loader called fileSize progress present
    rcases List.mem_cons.mp present with rfl | old
    · exact absurd (Or.inl ⟨_, _, _, _, rfl⟩) silent
    · exact told.total loader called fileSize progress old
  case finished => exact told.finished.cons fun announces => absurd (Or.inr announces) silent

theorem Told.append {news log : List Effect} (told : resource.Told size block delivered log)
    (silent : ∀ effect ∈ news, ¬Speaks effect) :
    resource.Told size block delivered (news ++ log) := by
  induction news with
  | nil => exact told
  | cons effect rest ih =>
      have silentRest : ∀ other ∈ rest, ¬Speaks other := fun other present =>
        silent other (List.mem_cons_of_mem _ present)
      exact (ih silentRest).cons (silent effect List.mem_cons_self)

theorem Told.announce {log : List Effect} (told : resource.Told size block delivered log)
    {announcement : Effect} (announces : Announces announcement)
    (last : (reported log).getLast? = some 1) :
    resource.Told size block delivered (announcement :: log) ∧
      reported (announcement :: log) = reported log := by
  have same : reported (announcement :: log) = reported log := by
    rcases announces with ⟨_, _, rfl⟩ | ⟨_, _, _, rfl⟩ <;> simp [reported]
  refine ⟨⟨?_, ?_, ?_⟩, same⟩
  · intro loader called fileSize progress present
    refine told.total loader called fileSize progress ((List.mem_cons.mp present).resolve_left ?_)
    rintro rfl
    rcases announces with ⟨_, _, same⟩ | ⟨_, _, _, same⟩ <;> cases same
  · rw [same]
    exact told.counted
  · exact told.finished.cons fun _ => last

theorem Told.info {log : List Effect} (told : resource.Told size block delivered log)
    {received : List (List UInt8)} {progress : CGFloat}
    (counted : reported log ++ [progress] =
      0 :: (partsAfter resource.content.length size received).map .finite) :
    resource.Told size block received (.info 0 block resource.content.length progress :: log) := by
  constructor
  case counted =>
    right
    rw [← counted]
    exact reported_append [_]
  case total =>
    intro loader called fileSize value present
    rcases List.mem_cons.mp present with fresh | old
    · cases fresh
      exact ⟨rfl, rfl⟩
    · exact told.total loader called fileSize value old
  case finished =>
    refine told.finished.cons ?_
    rintro (⟨_, _, same⟩ | ⟨_, _, _, same⟩) <;> cases same

end Log

namespace Progressing

variable {resource} {size : ℕ} {block : Option BlockId} {delivered : List (List UInt8)}
  {world : World}

theorem honest (progressing : resource.Progressing size block delivered world)
    (positive : 0 < resource.content.length) :
    resource.HonestProgress size block delivered world.log := by
  have bounds := partsAfter_bounds positive progressing.nonempty progressing.within
  have increasing := partsAfter_increasing positive progressing.nonempty progressing.within
  have fromZero : (0 : ℚ) ≤ (size : ℚ) / resource.content.length := by positivity
  constructor
  case total => exact progressing.told.total
  case counted => exact progressing.told.counted
  case finished => exact progressing.told.finished
  case increasing =>
    rcases progressing.told.counted with ⟨silent, _⟩ | counted
    · rw [silent]
      exact List.Pairwise.nil
    · rw [counted, List.tail_cons, List.pairwise_map]
      exact increasing
  case inRange =>
    rcases progressing.told.counted with ⟨silent, _⟩ | counted
    · simp [silent]
    · rw [counted, List.tail_cons]
      intro progress member
      rcases List.mem_map.mp member with ⟨part, present, rfl⟩
      have bounds := bounds part present
      exact ⟨fromZero.trans_lt bounds.1, bounds.2⟩

/-- Pausing, resuming and cancelling change nothing that the progress depends on. -/
theorem of_sameTransfers (progressing : resource.Progressing size block delivered world)
    {later : World} (same : SameTransfers world later) (without : Without Speaks world later) :
    resource.Progressing size block delivered later := by
  rcases same.downLoaders 0 with ⟨state, session, fields⟩
  rcases without with ⟨news, logged, silent⟩
  have kept : reported later.log = reported world.log := by
    rw [logged]
    exact reported_append_of_silent silent
  have origin : ∀ task record, later.tasks task = some record →
      ∃ before, world.tasks task = some before ∧ before.unflagged = record.unflagged :=
    fun task record found => DataTask.exists_of_unflagged (same.tasks task) found
  constructor
  case nonempty => exact progressing.nonempty
  case within => exact progressing.within
  case told =>
    rw [logged]
    exact progressing.told.append silent
  case single =>
    intro task record found
    rcases origin task record found with ⟨before, foundBefore, _⟩
    exact progressing.single task before foundBefore
  case carries =>
    intro record found
    rcases origin 0 record found with ⟨before, foundBefore, agree⟩
    have carries := progressing.carries before foundBefore
    constructor
    case delegate => rw [← DataTask.delegate_eq agree, carries.delegate]
    case offset => rw [← DataTask.offset_eq agree, carries.offset]
    case received => rw [← DataTask.received_eq agree, carries.received]
    case waiting =>
      rw [← DataTask.phase_eq agree, kept]
      exact carries.waiting
    case allowed =>
      rw [← DataTask.phase_eq agree, kept, fields]
      exact carries.allowed
  all_goals
    rw [fields]
    first | exact progressing.dloadInfo | exact progressing.tmpSize

theorem switch (progressing : resource.Progressing size block delivered world)
    {source target : ZFDownLoaderState} {suspended : Bool} (unannounced : target ≠ .success) :
    resource.Progressing size block delivered (world.switch 0 source target suspended) := by
  refine progressing.of_sameTransfers (sameTransfers_switch world 0 source target suspended) ?_
  exact without_switch fun _ => not_speaks_state unannounced

theorem of_touches (progressing : resource.Progressing size block delivered world)
    {later : World} {fields : ZFDownLoader} {record : DataTask}
    (touched : world.Touches later 0 fields 0 record) {received : List (List UInt8)}
    (dloadInfo : fields.dloadInfo = block) (nonempty : ∀ bytes ∈ received, bytes ≠ [])
    (within : size + received.flatten.length ≤ resource.content.length)
    (tmpSize : fields.tmpSize = size + received.flatten.length)
    (carries : resource.Carries size received later record)
    (told : resource.Told size block received later.log) :
    resource.Progressing size block received later := by
  have current : later.downLoaders 0 = fields := by
    rw [touched.downLoaders, Function.update_self]
  constructor
  case dloadInfo => rw [current, dloadInfo]
  case nonempty => exact nonempty
  case within => exact within
  case tmpSize => rw [current, tmpSize]
  case told => exact told
  case single =>
    intro task other found
    by_contra ne
    rw [touched.tasks, Function.update_of_ne ne] at found
    exact ne (progressing.single task other found)
  case carries =>
    intro other found
    rw [touched.tasks, Function.update_self, Option.some_inj] at found
    rwa [← found]

theorem response (progressing : resource.Progressing size block delivered world)
    (missing : size < resource.content.length) {task : TaskId} {response : NSHTTPURLResponse}
    {io : LocalIO} (deliverable : world.Deliverable (.response task response io))
    (serves : resource.Serves world (.deliver (.response task response io))) :
    resource.Progressing size block delivered (world.deliver (.response task response io)) := by
  rcases exists_of_response deliverable with ⟨record, found, isWaiting⟩
  obtain rfl := progressing.single task record found
  have carries := progressing.carries record found
  rcases carries.waiting isWaiting with ⟨silent, rfl⟩
  have total : response.totalSize = resource.content.length :=
    resource.totalSize_answer (serves record found)
  have tmpSize : (world.downLoaders 0).tmpSize = size := progressing.tmpSize
  have short : ((world.downLoaders record.delegate).tmpSize : ℤ) < response.totalSize := by
    rw [carries.delegate, tmpSize, total]
    exact_mod_cast missing
  have touched := touches_opened io found short
  have logged := log_opened io found short
  rw [carries.delegate, total] at touched
  rw [carries.delegate, progressing.dloadInfo, total] at logged
  have initial : reported world.log ++ [0] =
      0 :: (partsAfter resource.content.length size []).map .finite := by
    rw [silent]
    rfl
  have counted : reported (world.deliver (.response 0 response io)).log =
      0 :: (partsAfter resource.content.length size []).map .finite := by
    rw [logged, ← initial]
    exact reported_append _
  refine progressing.of_touches touched progressing.dloadInfo progressing.nonempty
    progressing.within progressing.tmpSize ?_ ?_
  · constructor
    case delegate => rfl
    case offset => exact carries.offset
    case received => exact carries.received
    case waiting => nofun
    case allowed =>
      intro _
      rw [touched.downLoaders, Function.update_self]
      exact ⟨rfl, counted⟩
  · rw [logged]
    exact (progressing.told.info initial).cons (not_speaks_state (by decide))

theorem data (progressing : resource.Progressing size block delivered world)
    {task : TaskId} {bytes : List UInt8} {io : LocalIO}
    (deliverable : world.Deliverable (.data task bytes io))
    (serves : resource.Serves world (.deliver (.data task bytes io))) (nonempty : bytes ≠ []) :
    resource.Progressing size block (delivered ++ [bytes])
      (world.deliver (.data task bytes io)) := by
  rcases exists_of_data deliverable with ⟨record, found, isAllowed⟩
  obtain rfl := progressing.single task record found
  have carries := progressing.carries record found
  rcases carries.allowed isAllowed with ⟨total, soFar⟩
  have touched := touches_data bytes io found
  have logged := log_data bytes io found
  rw [carries.delegate] at touched logged
  have stated : (resource.content.length : ℤ) ≠ 0 := by
    have next := progressing.within
    have grows := List.length_pos_iff.mpr nonempty
    have fits := (serves record found).length_le
    rw [List.length_drop] at fits
    omega
  rw [progressing.dloadInfo, total, progressing.tmpSize, CGFloat.quotient_eq_finite _ stated,
    Int.cast_natCast, List.append_assoc, List.singleton_append] at logged
  obtain ⟨written, logged, silent⟩ : ∃ written,
      (world.deliver (.data 0 bytes io)).log = written ++ .info 0 block resource.content.length
        (.finite (((size + delivered.flatten.length + bytes.length : ℕ) : ℚ) /
          resource.content.length)) :: world.log ∧ ∀ effect ∈ written, ¬Speaks effect := by
    refine ⟨_, logged, ?_⟩
    split
    · simp
    · simp [Speaks, Announces]
  have length : (delivered ++ [bytes]).flatten.length =
      delivered.flatten.length + bytes.length := by
    simp
  have within : size + (delivered ++ [bytes]).flatten.length ≤ resource.content.length := by
    have next := (serves record found).length_le
    rw [List.length_drop, carries.offset, carries.received] at next
    have before := progressing.within
    omega
  have counted : reported world.log ++
      [.finite (((size + delivered.flatten.length + bytes.length : ℕ) : ℚ) /
        resource.content.length)] =
        0 :: (partsAfter resource.content.length size (delivered ++ [bytes])).map .finite := by
    rw [soFar, partsAfter_append, List.cons_append, List.map_append, List.map_singleton]
  have told := progressing.told.info counted
  refine progressing.of_touches touched progressing.dloadInfo ?_ within ?_ ?_ ?_
  · intro chunk member
    rcases List.mem_append.mp member with earlier | last
    · exact progressing.nonempty chunk earlier
    · rwa [List.mem_singleton.mp last]
  · rw [length, ← Nat.add_assoc, ← progressing.tmpSize]
  · constructor
    case delegate => rfl
    case offset => exact carries.offset
    case received => rw [length, ← carries.received]
    case waiting =>
      intro isWaiting
      rw [isAllowed] at isWaiting
      cases isWaiting
    case allowed =>
      intro _
      rw [touched.downLoaders, Function.update_self]
      refine ⟨total, ?_⟩
      rw [logged, reported_append_of_silent silent, ← counted]
      exact reported_append [_]
  · rw [logged]
    exact told.append silent

theorem complete (progressing : resource.Progressing size block delivered world)
    (missing : size < resource.content.length) {task : TaskId} {error : Option NSError}
    {io : LocalIO} (deliverable : world.Deliverable (.complete task error io))
    (serves : resource.Serves world (.deliver (.complete task error io))) :
    resource.Progressing size block delivered (world.deliver (.complete task error io)) := by
  rcases exists_of_complete deliverable with ⟨record, found, _, allowed⟩
  obtain rfl := progressing.single task record found
  have carries := progressing.carries record found
  have touched := touches_complete error io found
  rw [carries.delegate] at touched
  refine progressing.of_touches touched progressing.dloadInfo progressing.nonempty
    progressing.within progressing.tmpSize ?_ ?_
  · exact ⟨rfl, carries.offset, carries.received, nofun, nofun⟩
  · cases error with
    | some failure =>
        rw [log_complete_failed io found failure, carries.delegate]
        refine progressing.told.append ?_
        simp [Speaks, Announces]
    | none =>
        -- the whole body has arrived, so its last chunk was reported as the whole
        have whole : size + delivered.flatten.length = resource.content.length := by
          rw [← carries.offset, ← carries.received]
          exact serves record found
        have last : (reported world.log).getLast? = some 1 := by
          rw [(carries.allowed (allowed rfl)).2, List.getLast?_cons, List.getLast?_map,
            partsAfter_getLast (by omega) missing whole]
          rfl
        have silent : ∀ effect ∈ world.placement 0 io, ¬Speaks effect := by
          rw [placement]
          split <;> simp [Speaks, Announces]
        have placed := progressing.told.append silent
        rw [← reported_append_of_silent silent] at last
        rcases placed.announce (Or.inl ⟨_, _, rfl⟩) last with ⟨announced, same⟩
        rw [← same] at last
        rw [log_complete_finished io found, carries.delegate]
        exact (announced.announce (Or.inr ⟨_, _, _, rfl⟩) last).1

end Progressing

section Runs

variable {resource} {files : FileSystem Path}

theorem progressing_begun (blocks : DownLoadBlocks)
    (free : ¬files.Occupied resource.cachePath)
    (missing : fileTotalSize files (some resource.tmpPath) < resource.content.length) :
    resource.Progressing (fileTotalSize files (some resource.tmpPath)) blocks.downLoadInfo []
      (begun digest files resource.url blocks) := by
  have fields := downLoaders_begun digest blocks free
  have logged : (begun digest files resource.url blocks).log =
      [.requested 0 0 resource.url (fileTotalSize files (some resource.tmpPath)),
        .called 0 resource.url] ++ [] :=
    log_call_started free not_keeps_launch
  have silent : reported (begun digest files resource.url blocks).log = [] := by
    rw [logged]
    rfl
  constructor
  case dloadInfo | tmpSize =>
    rw [fields]
    rfl
  case nonempty => nofun
  case within => exact missing.le
  case single =>
    intro task record found
    by_contra ne
    rw [tasks_begun free, Function.update_of_ne ne] at found
    cases found
  case carries =>
    intro record found
    rw [tasks_begun free, Function.update_self, Option.some_inj] at found
    subst found
    exact ⟨rfl, rfl, rfl, fun _ => ⟨silent, rfl⟩, nofun⟩
  case told =>
    have nothing : resource.Told (fileTotalSize files (some resource.tmpPath))
        blocks.downLoadInfo [] [] := by
      refine ⟨nofun, Or.inl ⟨rfl, rfl⟩, ?_⟩
      intro later announcement earlier split
      simp at split
    rw [logged]
    refine nothing.append ?_
    simp [Speaks, Announces]

theorem progressing_step {size : ℕ} {block : Option BlockId}
    (missing : size < resource.content.length) {past : List DownLoadAction} {world : World}
    {action : DownLoadAction}
    (progressing : resource.Progressing size block (chunks past) world)
    (admitted : (downLoadSystem.restrict resource.Supplies).Admits world action) :
    resource.Progressing size block (chunks (past ++ [action]))
      (downLoadSystem.perform world action) := by
  have delivered : chunks (past ++ [action]) = chunks past ++ chunks [action] :=
    List.filterMap_append
  rw [delivered]
  have unchanged : ∀ {other : List (List UInt8)} {later : World}, other = [] →
      resource.Progressing size block (chunks past) later →
      resource.Progressing size block (chunks past ++ other) later := by
    rintro _ later rfl kept
    rwa [List.append_nil]
  cases action with
  | resume => exact unchanged rfl (progressing.switch (by decide))
  | pause => exact unchanged rfl (progressing.switch (by decide))
  | cancel =>
      have silent : Without Speaks world (world.cancel 0) := .of_eq log_cancel
      exact unchanged rfl (progressing.of_sameTransfers (sameTransfers_cancel world 0) silent)
  | deliver event =>
      rcases admitted with ⟨deliverable, serves, nonempty⟩
      cases event with
      | response task response io =>
          exact unchanged rfl (progressing.response missing deliverable serves)
      | data task bytes io =>
          exact progressing.data deliverable serves (nonempty task bytes io rfl)
      | complete task error io =>
          exact unchanged rfl (progressing.complete missing deliverable serves)

/-- In every run of a download over a server that honours `Range`, the reported progress is
honest. -/
theorem run_honestProgress (blocks : DownLoadBlocks) (free : ¬files.Occupied resource.cachePath)
    (missing : fileTotalSize files (some resource.tmpPath) < resource.content.length)
    {actions : List DownLoadAction}
    (runs : (downLoadSystem.restrict resource.Supplies).Runs
      (begun digest files resource.url blocks) actions) :
    resource.HonestProgress (fileTotalSize files (some resource.tmpPath)) blocks.downLoadInfo
      (chunks actions)
      (downLoadSystem.exec (begun digest files resource.url blocks) actions).log := by
  have initially := progressing_begun blocks free missing
  have progressing : resource.Progressing (fileTotalSize files (some resource.tmpPath))
      blocks.downLoadInfo (chunks actions)
      (downLoadSystem.exec (begun digest files resource.url blocks) actions) :=
    @ActionSystem.Runs.history _ _ (downLoadSystem.restrict resource.Supplies)
      (fun past world => resource.Progressing _ _ (chunks past) world)
      (fun _ _ _ => progressing_step missing) [] actions _ initially runs
  exact progressing.honest (Nat.zero_lt_of_lt missing)

end Runs

end Resource

/-- Two of the five bytes are there; the rest comes in two chunks, around a pause. -/
def halted : List DownLoadAction :=
  [.deliver (.response 0 ((StatedReply.mk 206 none (some (.span 2 4 (some 5)))).render exampleURL)
     .healthy),
   .deliver (.data 0 [3] .healthy), .pause, .resume,
   .deliver (.data 0 [4, 5] .healthy),
   .deliver (.complete 0 none .healthy)]

theorem run_honestProgress_halted :
    exampleResource.HonestProgress 2 (some 0) [[3], [4, 5]]
      (downLoadSystem.exec (begun exampleDigest leftBehind exampleURL exampleDownLoadBlocks)
        halted).log := by
  have size : fileTotalSize leftBehind (some exampleResource.tmpPath) = 2 := by
    decide
  have honest := @Resource.run_honestProgress _ exampleResource leftBehind exampleDownLoadBlocks
    (by decide) (by decide) halted
  rw [size] at honest
  refine honest ⟨⟨by decide, ?_, nofun⟩, ⟨by decide, ?_, ?_⟩, ⟨trivial, trivial⟩,
    ⟨trivial, trivial⟩, ⟨by decide, ?_, ?_⟩, ⟨by decide, ?_, nofun⟩, trivial⟩
  · rintro record ⟨⟩
    exact Or.inl ⟨rfl, by decide, rfl⟩
  · rintro record ⟨⟩
    exact ⟨[4, 5], rfl⟩
  · rintro task bytes io ⟨⟩
    decide
  · rintro record ⟨⟩
    exact ⟨[], rfl⟩
  · rintro task bytes io ⟨⟩
    decide
  · rintro record ⟨⟩
    rfl

end ZFBaseFramework
