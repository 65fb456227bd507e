import ZFBaseFramework.DownLoader.Effects

/-!
# The resume decision

`didReceiveResponse` finishes, restarts or continues a download by comparing the
size of the tmp file with one number read from the headers. This file states what
those three decisions ought to rest on, namely the length of the resource that the
reply states and the byte at which the body starts, and proves for which replies
the comparison gets it right: `resumeDecision_sound_iff`.
-/

namespace ZFBaseFramework

open ZFFileManagerTool

namespace StatedReply

/-- The full length of the resource, where the reply states it: by the total of
`Content-Range`, or by `Content-Length` when the whole resource is sent. -/
def fullLength (reply : StatedReply) : Option ℕ :=
  match reply.contentRange.bind StatedRange.total with
  | some total => some total
  | none => if reply.statusCode = 200 then reply.contentLength else none

/-- The body of the reply starts at this byte of the resource. -/
def StartsAt (reply : StatedReply) (size : ℕ) : Prop :=
  (reply.statusCode = 206 ∧ reply.contentRange.bind StatedRange.firstByte = some size) ∨
    (reply.statusCode = 200 ∧ size = 0)

/-- The reply states a full length below the size, or its body starts elsewhere. -/
def Contradicts (reply : StatedReply) (size : ℕ) : Prop :=
  (∃ length, reply.fullLength = some length ∧ length < size) ∨ ¬reply.StartsAt size

/-- The replies on which comparing the size with `readTotal` decides wrongly, by the
form of their headers:
* a total is stated and larger than the size, but the body is not the rest of the resource;
* the total is `*`, and nothing is on disk, or the body is the rest of the resource;
* no range is stated, and the size equals a length which is not that of the resource,
  or is below a length although the body does not continue it. -/
def Misjudged (reply : StatedReply) (size : ℕ) : Prop :=
  match reply.contentRange with
  | some (.span first _ (some total)) =>
      size < total ∧ ¬(reply.statusCode = 206 ∧ first = size) ∧
        ¬(reply.statusCode = 200 ∧ size = 0)
  | some (.unsatisfied total) =>
      size < total ∧ ¬(reply.statusCode = 200 ∧ size = 0)
  | some (.span first _ none) =>
      (size = 0 ∧ ¬(reply.statusCode = 200 ∧ reply.contentLength = some 0)) ∨
        (0 < size ∧ reply.statusCode = 206 ∧ first = size)
  | none =>
      (reply.contentLength.getD 0 = size ∧
          ¬(reply.statusCode = 200 ∧ reply.contentLength = some size)) ∨
        (size < reply.contentLength.getD 0 ∧ ¬(reply.statusCode = 200 ∧ size = 0))

instance (reply : StatedReply) (size : ℕ) : Decidable (reply.StartsAt size) :=
  inferInstanceAs (Decidable (_ ∨ _))

/-- The three ways the sizes can compare, each with what has to hold there. -/
theorem not_misjudged_iff (reply : StatedReply) (size : ℕ) :
    ¬reply.Misjudged size ↔
      (reply.readTotal = size → reply.fullLength = some size) ∧
        (size < reply.readTotal → reply.StartsAt size) ∧
        (reply.readTotal < size → reply.Contradicts size) := by
  cases ranged : reply.contentRange with
  | none =>
      cases stated : reply.contentLength <;>
        simp [Misjudged, readTotal, fullLength, StartsAt, Contradicts, ranged, stated] <;> grind
  | some range =>
      cases range with
      | span first last total =>
          cases total with
          | none =>
              simp [Misjudged, readTotal, fullLength, StartsAt, Contradicts, ranged,
                StatedRange.total, StatedRange.firstByte]
              grind
          | some total =>
              simp [Misjudged, readTotal, fullLength, StartsAt, Contradicts, ranged,
                StatedRange.total, StatedRange.firstByte]
              grind
      | unsatisfied total =>
          simp [Misjudged, readTotal, fullLength, StartsAt, Contradicts, ranged,
            StatedRange.total, StatedRange.firstByte]
          grind

end StatedReply

/-- What `didReceiveResponse` may do with a tmp file of this size, given the reply. -/
structure ResumeDecisionSound (before after : World) (loader : DownLoaderId) (task : TaskId)
    (size : ℕ) (reply : StatedReply) : Prop where
  /-- The tmp file counts as finished only at the stated full length. -/
  finishes : ∀ block, before.Emits after (.state loader block .success) →
    reply.fullLength = some size
  /-- The tmp file is moved to the cache only at the stated full length. -/
  places : ∀ path, before.Emits after (.placed loader path) → reply.fullLength = some size
  /-- A stream is opened only for a body that continues the tmp file. -/
  opens : (after.downLoaders loader).outputSream ≠ (before.downLoaders loader).outputSream →
    reply.StartsAt size
  /-- The body is allowed only if it continues the tmp file. -/
  allows : after.phaseOf task = some .allowed → reply.StartsAt size
  /-- The tmp file is deleted only when the reply contradicts it. -/
  deletes : ∀ path, before.Emits after (.removed loader path) → reply.Contradicts size

section Decision

open World

variable {world : World} {task : TaskId} {record : DataTask} {url : NSURL} {reply : StatedReply}
  {io : LocalIO}

theorem sound_finished_iff (found : world.tasks task = some record) (fits : reply.Fits)
    (full : reply.readTotal = (world.downLoaders record.delegate).tmpSize) :
    ResumeDecisionSound world (world.deliver (.response task (reply.render url) io))
        record.delegate task (world.downLoaders record.delegate).tmpSize reply ↔
      reply.fullLength = some (world.downLoaders record.delegate).tmpSize := by
  have fullRead : ((world.downLoaders record.delegate).tmpSize : ℤ) =
      (reply.render url).totalSize := by
    rw [StatedReply.totalSize_render fits, full]
  have touched := touches_finished io found fullRead
  have logged := log_finished io found fullRead
  constructor
  · intro sound
    apply sound.finishes (world.downLoaders record.delegate).dloadStateChange
    rw [emits_iff logged]
    simp
  · intro stated
    refine ⟨fun _ _ => stated, fun _ _ => stated, ?_, ?_, ?_⟩
    · intro changed
      simp [touched.downLoaders] at changed
    · intro allowed
      simp [phaseOf, touched.tasks] at allowed
    · intro path emitted
      rw [emits_iff logged] at emitted
      simp only [placement] at emitted
      split at emitted <;> simp at emitted

theorem sound_opened_iff (found : world.tasks task = some record) (fits : reply.Fits)
    (short : (world.downLoaders record.delegate).tmpSize < reply.readTotal) :
    ResumeDecisionSound world (world.deliver (.response task (reply.render url) io))
        record.delegate task (world.downLoaders record.delegate).tmpSize reply ↔
      reply.StartsAt (world.downLoaders record.delegate).tmpSize := by
  have shortRead : ((world.downLoaders record.delegate).tmpSize : ℤ) <
      (reply.render url).totalSize := by
    rw [StatedReply.totalSize_render fits]
    exact_mod_cast short
  have touched := touches_opened io found shortRead
  have logged := log_opened io found shortRead
  constructor
  · intro sound
    apply sound.allows
    simp [phaseOf, touched.tasks]
  · intro starts
    refine ⟨?_, ?_, fun _ => starts, fun _ => starts, ?_⟩ <;>
      · intro _ emitted
        rw [emits_iff logged] at emitted
        simp at emitted

theorem sound_restarted_iff (found : world.tasks task = some record) (fits : reply.Fits)
    (sized : fileTotalSize world.files (world.downLoaders record.delegate).downLoadTmpPath =
      (world.downLoaders record.delegate).tmpSize)
    (oversized : reply.readTotal < (world.downLoaders record.delegate).tmpSize) :
    ResumeDecisionSound world (world.deliver (.response task (reply.render url) io))
        record.delegate task (world.downLoaders record.delegate).tmpSize reply ↔
      reply.Contradicts (world.downLoaders record.delegate).tmpSize := by
  have oversizedRead : (reply.render url).totalSize <
      (world.downLoaders record.delegate).tmpSize := by
    rw [StatedReply.totalSize_render fits]
    exact_mod_cast oversized
  have spec := deliver_restarted_spec io found oversizedRead
  have logged := log_restarted io found oversizedRead
  constructor
  · intro sound
    apply sound.deletes (world.downLoaders record.delegate).downLoadTmpPath
    rw [emits_iff logged]
    have exists_tmp := isFileExists_of_size (by omega : fileTotalSize world.files
      (world.downLoaders record.delegate).downLoadTmpPath ≠ 0)
    simp [removal, exists_tmp]
  · intro contradicts
    refine ⟨?_, ?_, ?_, ?_, fun _ _ => contradicts⟩
    · intro block emitted
      rw [emits_iff logged] at emitted
      simp only [removal] at emitted
      split at emitted <;> simp at emitted
    · intro path emitted
      rw [emits_iff logged] at emitted
      simp only [removal] at emitted
      split at emitted <;> simp at emitted
    · intro changed
      simp [spec.1] at changed
    · intro allowed
      simp [phaseOf, spec.2.1, Function.update_apply] at allowed
      split at allowed <;> simp at allowed

/-- Comparing the two sizes decides soundly exactly for the replies that are not misjudged. The
counted size is that of the tmp file: a request that starts over leaves `_tmpSize` at the size of
the deleted file, so the response to it is not covered. -/
theorem resumeDecision_sound_iff (found : world.tasks task = some record) (fits : reply.Fits)
    (sized : fileTotalSize world.files (world.downLoaders record.delegate).downLoadTmpPath =
      (world.downLoaders record.delegate).tmpSize) :
    ResumeDecisionSound world (world.deliver (.response task (reply.render url) io))
        record.delegate task (world.downLoaders record.delegate).tmpSize reply ↔
      ¬reply.Misjudged (world.downLoaders record.delegate).tmpSize := by
  rw [StatedReply.not_misjudged_iff]
  rcases lt_trichotomy (world.downLoaders record.delegate).tmpSize reply.readTotal with
    short | full | oversized
  · rw [sound_opened_iff found fits short]
    simp [short, short.ne', short.not_gt]
  · rw [sound_finished_iff found fits full.symm]
    simp [full.symm]
  · rw [sound_restarted_iff found fits sized oversized]
    simp [oversized, oversized.ne, oversized.not_gt]

end Decision

/-- Three bytes are on disk and the reply continues them. -/
theorem resumeDecision_sound_continued :
    ResumeDecisionSound (exampleStart [1, 2, 3])
        ((exampleStart [1, 2, 3]).deliver (.response 0
          ((StatedReply.mk 206 (some 2) (some (.span 3 4 (some 5)))).render exampleURL) .healthy))
        0 0 3 (StatedReply.mk 206 (some 2) (some (.span 3 4 (some 5)))) ↔
      ¬(StatedReply.mk 206 (some 2) (some (.span 3 4 (some 5)))).Misjudged 3 :=
  @resumeDecision_sound_iff (exampleStart [1, 2, 3]) 0
    { originalURL := exampleURL, offset := 3, session := 1, delegate := 0 } exampleURL _ .healthy
    rfl ⟨by simp, by rintro _ length ⟨rfl⟩ ⟨rfl⟩; decide⟩ (by decide)

/-- A reply without a length makes an empty tmp file count as the finished download. -/
theorem resumeDecision_unsound_chunked :
    (StatedReply.mk 200 none none).Fits ∧
      (exampleStart []).phaseOf 0 = some .waiting ∧
      ((exampleStart []).downLoaders 0).tmpSize = 0 ∧
      ¬ResumeDecisionSound (exampleStart [])
        ((exampleStart []).deliver (.response 0
          ((StatedReply.mk 200 none none).render exampleURL) .healthy))
        0 0 0 (StatedReply.mk 200 none none) := by
  refine ⟨⟨by simp, by simp⟩, rfl, rfl, ?_⟩
  intro sound
  have finished := sound.finishes (some 1)
    ⟨[.state 0 (some 1) .success, .placed 0 (some exampleURL.cachePath), .info 0 (some 0) 0 0],
      rfl, by simp⟩
  simp [StatedReply.fullLength] at finished

end ZFBaseFramework
