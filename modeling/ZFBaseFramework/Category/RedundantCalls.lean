import Mathlib.Tactic
import ZFBaseFramework.Category.PauseAnimate

/-!
# Pausing twice and resuming twice

Neither call asks whether the layer is paused. A resume of a running layer takes its
`timeOffset` for the time of a pause, which sets the local time to zero; a pause of a
paused layer converts the time of a layer that stands still. So a redundant call is
harmless only where these happen to give the local time the layer has.
-/

namespace ZFBaseFramework

namespace Timeline

/-- A resume while the layer runs, or a pause while it is paused. -/
def Redundant (timeline : Timeline) : LayerAction → Prop
  | .pauseAnimate _ => timeline.pausedSince ≠ none
  | .resumeAnimate _ => timeline.pausedSince = none

/-- If the call is redundant, the local time stays as it is from the call on. -/
def Harmless (stopped : CALayer → ℚ → ℚ) (timeline : Timeline) (action : LayerAction) : Prop :=
  timeline.Redundant action → ∀ moment, action.mediaTime ≤ moment →
    (timeline.perform stopped action).localTime moment = timeline.localTime moment

/-- A redundant pause comes where the time of the standing layer converts to where it stands,
and a redundant resume at the media time at which the layer began. -/
def Coincides (stopped : CALayer → ℚ → ℚ) (timeline : Timeline) : LayerAction → Prop
  | .pauseAnimate mediaTime => timeline.pausedSince ≠ none →
      stopped timeline.layer mediaTime = timeline.layer.timeOffset
  | .resumeAnimate mediaTime => timeline.pausedSince = none →
      timeline.layer.beginTime = mediaTime

/-- A running layer has the speed 1 and no offset, a paused one stands still. -/
def Shaped (timeline : Timeline) : Prop :=
  match timeline.pausedSince with
  | none => timeline.layer.RunsBehind timeline.layer.beginTime
  | some _ => timeline.layer.FrozenAt timeline.layer.timeOffset

variable {stopped : CALayer → ℚ → ℚ} {timeline : Timeline} {mediaTime : ℚ}

theorem Shaped.running (shaped : timeline.Shaped) (running : timeline.pausedSince = none) :
    timeline.layer.RunsBehind timeline.layer.beginTime := by
  rwa [Shaped, running] at shaped

theorem Shaped.paused (shaped : timeline.Shaped) (paused : timeline.pausedSince ≠ none) :
    timeline.layer.FrozenAt timeline.layer.timeOffset := by
  rcases Option.ne_none_iff_exists'.mp paused with ⟨since, paused⟩
  rwa [Shaped, paused] at shaped

theorem shaped_perform (action : LayerAction) : (timeline.perform stopped action).Shaped := by
  cases action with
  | pauseAnimate mediaTime => exact ⟨rfl, rfl⟩
  | resumeAnimate mediaTime => exact ⟨rfl, rfl, rfl⟩

/-- A second pause freezes the layer at the converted time. -/
theorem harmless_pauseAnimate_iff (shaped : timeline.Shaped) :
    timeline.Harmless stopped (.pauseAnimate mediaTime) ↔
      timeline.Coincides stopped (.pauseAnimate mediaTime) := by
  refine forall_congr' fun paused => ?_
  have before := shaped.paused paused
  have after : (timeline.layer.pauseAnimate stopped mediaTime).FrozenAt
      (stopped timeline.layer mediaTime) := by
    refine ⟨rfl, ?_⟩
    rw [CALayer.pauseAnimate, CALayer.convertTimeToLayerNil, if_pos before.1]
  constructor
  · intro unmoved
    have moment := unmoved mediaTime le_rfl
    rwa [perform, localTime, localTime, after.convertTimeFromLayerNil,
      before.convertTimeFromLayerNil] at moment
  · intro same moment _
    rw [perform, localTime, localTime, after.convertTimeFromLayerNil,
      before.convertTimeFromLayerNil, same]

/-- A second resume makes the local time zero. -/
theorem harmless_resumeAnimate_iff (shaped : timeline.Shaped) :
    timeline.Harmless stopped (.resumeAnimate mediaTime) ↔
      timeline.Coincides stopped (.resumeAnimate mediaTime) := by
  refine forall_congr' fun running => ?_
  have before := shaped.running running
  have after : (timeline.layer.resumeAnimate stopped mediaTime).RunsBehind mediaTime := by
    refine ⟨rfl, rfl, ?_⟩
    rw [CALayer.resumeAnimate, CALayer.convertTimeToLayerNil, if_neg one_ne_zero, before.2.1]
    ring
  constructor
  · intro unmoved
    have moment := unmoved mediaTime le_rfl
    rw [perform, localTime, localTime, after.convertTimeFromLayerNil,
      before.convertTimeFromLayerNil] at moment
    linarith
  · intro same moment _
    rw [perform, localTime, localTime, after.convertTimeFromLayerNil,
      before.convertTimeFromLayerNil, same]

end Timeline

/-- Redundant calls do nothing all along exactly if each of them meets the condition. -/
theorem run_harmless_iff {stopped : CALayer → ℚ → ℚ} {start : ℚ} {actions : List LayerAction}
    (runs : (layerSystem stopped).Runs (Timeline.fresh start) actions) :
    (layerSystem stopped).Along (Timeline.Harmless stopped) (Timeline.fresh start) actions ↔
      (layerSystem stopped).Along (Timeline.Coincides stopped) (Timeline.fresh start) actions := by
  have fresh : (Timeline.fresh start).Shaped := ⟨rfl, rfl, rfl⟩
  refine ActionSystem.along_iff_along ?_ ?_ fresh runs
  · intro timeline action _ _ _
    exact Timeline.shaped_perform action
  · intro timeline action shaped _
    cases action with
    | pauseAnimate mediaTime => exact Timeline.harmless_pauseAnimate_iff shaped
    | resumeAnimate mediaTime => exact Timeline.harmless_resumeAnimate_iff shaped

/-- A resume at 0 of the layer that runs since 0, and two pauses at 0 and 2, of which the second
is at the time of the resume that ends them. -/
def repeatedAtOnce : List LayerAction :=
  [.resumeAnimate 0, .pauseAnimate 0, .pauseAnimate 2, .resumeAnimate 2]

theorem run_harmless_repeatedAtOnce :
    (layerSystem keepsStanding).Along (Timeline.Harmless keepsStanding) (Timeline.fresh 0)
      repeatedAtOnce := by
  have later : (0 : ℚ) ≤ 2 := by norm_num
  have runs : (layerSystem keepsStanding).Runs (Timeline.fresh 0) repeatedAtOnce :=
    ⟨le_refl (0 : ℚ), le_refl (0 : ℚ), later, le_refl (2 : ℚ), trivial⟩
  exact (run_harmless_iff runs).mpr ⟨fun _ => rfl, nofun, fun _ => rfl, nofun, trivial⟩

/-- A resume at 1 sets the local time of the running layer from 1 to 0. -/
def resumedRunning : List LayerAction := [.resumeAnimate 1]

theorem resumedRunning_not_harmless :
    (layerSystem keepsStanding).Runs (Timeline.fresh 0) resumedRunning ∧
      ¬(layerSystem keepsStanding).Along (Timeline.Harmless keepsStanding) (Timeline.fresh 0)
        resumedRunning := by
  have later : (0 : ℚ) ≤ 1 := by norm_num
  refine ⟨⟨later, trivial⟩, ?_⟩
  rintro ⟨harmless, _⟩
  have moment := harmless rfl 1 le_rfl
  norm_num [Timeline.perform, Timeline.localTime, Timeline.fresh, CALayer.resumeAnimate,
    CALayer.convertTimeFromLayerNil, CALayer.convertTimeToLayerNil] at moment

end ZFBaseFramework
