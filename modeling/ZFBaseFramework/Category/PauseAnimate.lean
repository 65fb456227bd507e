import Mathlib.Tactic
import ZFBaseFramework.Library.ActionSystem

/-!
# Pausing and resuming a layer's animations

`CALayer+ZFPauseAimate` over Core Animation's time mapping for a layer whose
superlayers keep media time, in exact rationals. No media time belongs to a local time
of a layer that stands still, so what Core Animation converts it to is a parameter. A
`Timeline` keeps, beside the layer, the media time of the last call and how long the
layer has been paused. `pauseAnimate`
converts media time with the mapping that leads from local to media time, so it is
right exactly while the two agree, which is before any time was spent paused.
-/

namespace ZFBaseFramework

/-- The timing fields of a `CALayer`. -/
structure CALayer where
  speed : ℚ := 1
  timeOffset : ℚ := 0
  beginTime : ℚ := 0
  deriving DecidableEq, Repr

namespace CALayer

section Calls

variable (stopped : CALayer → ℚ → ℚ)

/-- `convertTime:fromLayer:nil`, the local time at a media time. -/
def convertTimeFromLayerNil (layer : CALayer) (mediaTime : ℚ) : ℚ :=
  (mediaTime - layer.beginTime) * layer.speed + layer.timeOffset

/-- `convertTime:toLayer:nil`, the media time at a local time. -/
def convertTimeToLayerNil (layer : CALayer) (localTime : ℚ) : ℚ :=
  if layer.speed = 0 then stopped layer localTime
  else (localTime - layer.timeOffset) / layer.speed + layer.beginTime

/-- `-[CALayer pauseAnimate]` at the media time `CACurrentMediaTime()` gives. -/
def pauseAnimate (layer : CALayer) (mediaTime : ℚ) : CALayer :=
  let pauseTime := layer.convertTimeToLayerNil stopped mediaTime
  { layer with speed := 0, timeOffset := pauseTime }

/-- `-[CALayer resumeAnimate]` -/
def resumeAnimate (layer : CALayer) (mediaTime : ℚ) : CALayer :=
  let pauseTime := layer.timeOffset
  let reset : CALayer := { layer with speed := 1, timeOffset := 0, beginTime := 0 }
  let timeSincePause := reset.convertTimeToLayerNil stopped mediaTime - pauseTime
  { reset with beginTime := timeSincePause }

end Calls

/-- The layer runs, and has been held back for some time. -/
def RunsBehind (layer : CALayer) (delay : ℚ) : Prop :=
  layer.speed = 1 ∧ layer.timeOffset = 0 ∧ layer.beginTime = delay

/-- The layer stands still at a local time. -/
def FrozenAt (layer : CALayer) (localTime : ℚ) : Prop :=
  layer.speed = 0 ∧ layer.timeOffset = localTime

variable {stopped : CALayer → ℚ → ℚ} {layer : CALayer} {delay localTime mediaTime : ℚ}

theorem RunsBehind.convertTimeFromLayerNil (behind : layer.RunsBehind delay) :
    layer.convertTimeFromLayerNil mediaTime = mediaTime - delay := by
  rcases behind with ⟨speed, timeOffset, beginTime⟩
  rw [CALayer.convertTimeFromLayerNil, speed, timeOffset, beginTime]
  ring

theorem FrozenAt.convertTimeFromLayerNil (frozen : layer.FrozenAt localTime) :
    layer.convertTimeFromLayerNil mediaTime = localTime := by
  rcases frozen with ⟨speed, timeOffset⟩
  rw [CALayer.convertTimeFromLayerNil, speed, timeOffset]
  ring

/-- A pause adds the delay where it should take it away. -/
theorem RunsBehind.pauseAnimate (behind : layer.RunsBehind delay) :
    (layer.pauseAnimate stopped mediaTime).FrozenAt (mediaTime + delay) := by
  rcases behind with ⟨speed, timeOffset, beginTime⟩
  refine ⟨rfl, ?_⟩
  rw [CALayer.pauseAnimate, convertTimeToLayerNil, if_neg (by simp [speed]), speed, timeOffset,
    beginTime]
  ring

theorem FrozenAt.resumeAnimate (frozen : layer.FrozenAt localTime) :
    (layer.resumeAnimate stopped mediaTime).RunsBehind (mediaTime - localTime) := by
  rcases frozen with ⟨_, timeOffset⟩
  refine ⟨rfl, rfl, ?_⟩
  rw [CALayer.resumeAnimate, convertTimeToLayerNil, if_neg one_ne_zero, timeOffset]
  ring

end CALayer

/-- The two calls, each at its media time. -/
inductive LayerAction where
  | pauseAnimate (mediaTime : ℚ)
  | resumeAnimate (mediaTime : ℚ)
  deriving DecidableEq, Repr

def LayerAction.mediaTime : LayerAction → ℚ
  | .pauseAnimate mediaTime => mediaTime
  | .resumeAnimate mediaTime => mediaTime

/-- A layer with its history: when it was called last, since when it is paused, if it is, and
how long earlier pauses took. -/
structure Timeline where
  layer : CALayer
  now : ℚ
  pausedSince : Option ℚ
  spent : ℚ

namespace Timeline

/-- A fresh layer. -/
def fresh (now : ℚ) : Timeline := ⟨{}, now, none, 0⟩

/-- The local time of the layer at a media time. -/
def localTime (timeline : Timeline) (mediaTime : ℚ) : ℚ :=
  timeline.layer.convertTimeFromLayerNil mediaTime

/-- The total time spent paused up to a media time. -/
def pausedTime (timeline : Timeline) (mediaTime : ℚ) : ℚ :=
  match timeline.pausedSince with
  | none => timeline.spent
  | some since => timeline.spent + (mediaTime - since)

/-- One call. The history of a pause that is not over goes on, and so does that of none. -/
def perform (stopped : CALayer → ℚ → ℚ) (timeline : Timeline) : LayerAction → Timeline
  | .pauseAnimate mediaTime =>
      { layer := timeline.layer.pauseAnimate stopped mediaTime
        now := mediaTime
        pausedSince := some (timeline.pausedSince.getD mediaTime)
        spent := timeline.spent }
  | .resumeAnimate mediaTime =>
      { layer := timeline.layer.resumeAnimate stopped mediaTime
        now := mediaTime
        pausedSince := none
        spent := timeline.pausedTime mediaTime }

/-- The call is the next one of an alternating sequence. -/
def Alternates (timeline : Timeline) : LayerAction → Prop
  | .pauseAnimate _ => timeline.pausedSince = none
  | .resumeAnimate _ => timeline.pausedSince ≠ none

end Timeline

/-- Calls at non-decreasing media times. -/
def layerSystem (stopped : CALayer → ℚ → ℚ) : ActionSystem Timeline LayerAction where
  Admits timeline action := timeline.now ≤ action.mediaTime
  perform := Timeline.perform stopped

/-- Pauses and resumes in alternation, a pause first. -/
def alternatingSystem (stopped : CALayer → ℚ → ℚ) : ActionSystem Timeline LayerAction :=
  (layerSystem stopped).restrict Timeline.Alternates

namespace Timeline

/-- From now until the next call the local time is the elapsed media time without the pauses. -/
def Continuous (timeline : Timeline) : Prop :=
  ∀ mediaTime, timeline.now ≤ mediaTime →
    timeline.localTime mediaTime = mediaTime - timeline.pausedTime mediaTime

/-- A call neither moves the local time at its moment nor falsifies the law afterwards; a pause
leaves the local time where it stands. -/
def Seamless (stopped : CALayer → ℚ → ℚ) (timeline : Timeline) (action : LayerAction) : Prop :=
  (timeline.perform stopped action).Continuous ∧
    (timeline.perform stopped action).localTime action.mediaTime =
      timeline.localTime action.mediaTime ∧
    ∀ start, action = .pauseAnimate start → ∀ mediaTime, start ≤ mediaTime →
      (timeline.perform stopped action).localTime mediaTime = timeline.localTime start

/-- No time was spent paused before a pause. -/
def Undelayed (timeline : Timeline) : LayerAction → Prop
  | .pauseAnimate _ => timeline.spent = 0
  | .resumeAnimate _ => True

/-- What the timing fields are while the law holds. -/
def Timed (timeline : Timeline) : Prop :=
  match timeline.pausedSince with
  | none => timeline.layer.RunsBehind timeline.spent
  | some since => timeline.layer.FrozenAt (since - timeline.spent)

variable {stopped : CALayer → ℚ → ℚ} {timeline : Timeline} {mediaTime : ℚ}

theorem Timed.continuous (timed : timeline.Timed) : timeline.Continuous := by
  intro moment _
  rw [localTime, pausedTime]
  rw [Timed] at timed
  split at timed
  · exact timed.convertTimeFromLayerNil
  · rw [timed.convertTimeFromLayerNil]
    ring

/-- A pause in time freezes the layer where it stands; a late one jumps by twice the delay. -/
theorem seamless_pauseAnimate_iff (timed : timeline.Timed) (running : timeline.pausedSince = none) :
    timeline.Seamless stopped (.pauseAnimate mediaTime) ↔ timeline.spent = 0 := by
  rw [Timed, running] at timed
  have frozen : (timeline.layer.pauseAnimate stopped mediaTime).FrozenAt
      (mediaTime + timeline.spent) :=
    timed.pauseAnimate
  constructor
  · rintro ⟨_, unmoved, _⟩
    simp only [perform, localTime, LayerAction.mediaTime, frozen.convertTimeFromLayerNil,
      timed.convertTimeFromLayerNil] at unmoved
    linarith
  · intro undelayed
    rw [undelayed] at timed frozen
    refine ⟨?_, ?_, ?_⟩
    · apply Timed.continuous
      simp only [Timed, perform, running, Option.getD_none, undelayed]
      simpa using frozen
    · simp only [perform, localTime, LayerAction.mediaTime, frozen.convertTimeFromLayerNil,
        timed.convertTimeFromLayerNil]
      ring
    · rintro start ⟨⟩ moment _
      simp only [perform, localTime, frozen.convertTimeFromLayerNil, timed.convertTimeFromLayerNil]
      ring

theorem timed_pauseAnimate (timed : timeline.Timed) (running : timeline.pausedSince = none)
    (undelayed : timeline.spent = 0) :
    (timeline.perform stopped (.pauseAnimate mediaTime)).Timed := by
  rw [Timed, running] at timed
  have frozen : (timeline.layer.pauseAnimate stopped mediaTime).FrozenAt
      (mediaTime + timeline.spent) :=
    timed.pauseAnimate
  simpa [Timed, perform, running, undelayed] using frozen

theorem timed_resumeAnimate (timed : timeline.Timed) (paused : timeline.pausedSince ≠ none) :
    (timeline.perform stopped (.resumeAnimate mediaTime)).Timed := by
  rcases Option.ne_none_iff_exists'.mp paused with ⟨since, paused⟩
  rw [Timed, paused] at timed
  have running : (timeline.layer.resumeAnimate stopped mediaTime).RunsBehind
      (mediaTime - (since - timeline.spent)) := timed.resumeAnimate
  have total : mediaTime - (since - timeline.spent) = timeline.spent + (mediaTime - since) := by
    ring
  rw [total] at running
  simpa [Timed, perform, pausedTime, paused] using running

/-- A resume always continues from where the layer stands. -/
theorem seamless_resumeAnimate (timed : timeline.Timed) (paused : timeline.pausedSince ≠ none)
    (ordered : timeline.now ≤ mediaTime) :
    timeline.Seamless stopped (.resumeAnimate mediaTime) := by
  have later : (timeline.perform stopped (.resumeAnimate mediaTime)).Continuous :=
    (timed_resumeAnimate timed paused).continuous
  refine ⟨later, ?_, nofun⟩
  rw [LayerAction.mediaTime, later mediaTime le_rfl, timed.continuous mediaTime ordered]
  rfl

end Timeline

/-- Pauses and resumes are seamless all along exactly if no pause follows time spent paused. -/
theorem pauseAnimate_seamless_iff {stopped : CALayer → ℚ → ℚ} {start : ℚ}
    {actions : List LayerAction}
    (runs : (alternatingSystem stopped).Runs (Timeline.fresh start) actions) :
    (alternatingSystem stopped).Along (Timeline.Seamless stopped) (Timeline.fresh start) actions ↔
      (alternatingSystem stopped).Along Timeline.Undelayed (Timeline.fresh start) actions := by
  have fresh : (Timeline.fresh start).Timed := ⟨rfl, rfl, rfl⟩
  refine ActionSystem.along_iff_along ?_ ?_ fresh runs
  · rintro timeline action timed ⟨_, alternates⟩ undelayed
    cases action with
    | pauseAnimate mediaTime => exact Timeline.timed_pauseAnimate timed alternates undelayed
    | resumeAnimate mediaTime => exact Timeline.timed_resumeAnimate timed alternates
  · rintro timeline action timed ⟨ordered, alternates⟩
    cases action with
    | pauseAnimate mediaTime => exact Timeline.seamless_pauseAnimate_iff timed alternates
    | resumeAnimate mediaTime =>
        have seamless : timeline.Seamless stopped (.resumeAnimate mediaTime) :=
          Timeline.seamless_resumeAnimate timed alternates ordered
        exact ⟨fun _ => trivial, fun _ => seamless⟩

/-- A layer that stands still keeps its local time under conversion. -/
def keepsStanding (layer : CALayer) (_ : ℚ) : ℚ := layer.timeOffset

/-- One pause from 1 to 3. -/
def pausedOnce : List LayerAction := [.pauseAnimate 1, .resumeAnimate 3]

theorem pauseAnimate_seamless_pausedOnce :
    (alternatingSystem keepsStanding).Along (Timeline.Seamless keepsStanding) (Timeline.fresh 0)
      pausedOnce := by
  have first : (0 : ℚ) ≤ 1 := by norm_num
  have second : (1 : ℚ) ≤ 3 := by norm_num
  have runs : (alternatingSystem keepsStanding).Runs (Timeline.fresh 0) pausedOnce :=
    ⟨⟨first, rfl⟩, ⟨second, nofun⟩, trivial⟩
  exact (pauseAnimate_seamless_iff runs).mpr ⟨rfl, trivial, trivial⟩

/-- The second pause, at 4, freezes the layer at 6 although it stands at 2. -/
def pausedTwice : List LayerAction := [.pauseAnimate 1, .resumeAnimate 3, .pauseAnimate 4]

theorem pausedTwice_not_seamless :
    (alternatingSystem keepsStanding).Runs (Timeline.fresh 0) pausedTwice ∧
      ¬(alternatingSystem keepsStanding).Along (Timeline.Seamless keepsStanding)
        (Timeline.fresh 0) pausedTwice := by
  have first : (0 : ℚ) ≤ 1 := by norm_num
  have second : (1 : ℚ) ≤ 3 := by norm_num
  have third : (3 : ℚ) ≤ 4 := by norm_num
  refine ⟨⟨⟨first, rfl⟩, ⟨second, nofun⟩, ⟨third, rfl⟩, trivial⟩, ?_⟩
  rintro ⟨_, _, ⟨_, unmoved, _⟩, _⟩
  norm_num [alternatingSystem, layerSystem, ActionSystem.restrict, Timeline.perform,
    Timeline.localTime, Timeline.fresh, LayerAction.mediaTime, CALayer.pauseAnimate,
    CALayer.resumeAnimate, CALayer.convertTimeFromLayerNil,
    CALayer.convertTimeToLayerNil] at unmoved

end ZFBaseFramework
