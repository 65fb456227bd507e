import ZFBaseFramework.Category.PauseAnimate

/-!
# How far a layer's time drifts

Over alternating pauses and resumes the delay of a layer is the alternating sum of the
pauses, the last one counted positively: each pause is added to what it takes the place
of. The layer should be behind by all of them. So it is ahead by twice every second
pause, counted back from the last but one, and a layer that is paused is ahead by what
the pauses before it add to.
-/

namespace ZFBaseFramework

namespace Timeline

/-- The length of the pause that a resume ends. -/
def pauseEnded (timeline : Timeline) : LayerAction → List ℚ
  | .pauseAnimate _ => []
  | .resumeAnimate mediaTime => (timeline.pausedSince.map fun since => mediaTime - since).toList

/-- The delay after pauses of these lengths, the newest last. -/
def delay (pauses : List ℚ) : ℚ := pauses.reverse.alternatingSum

/-- The second entry of a list, the fourth and so on, added up. -/
def everySecond : List ℚ → ℚ
  | [] => 0
  | [_] => 0
  | _ :: second :: rest => second + everySecond rest

theorem sum_sub_alternatingSum : ∀ entries : List ℚ,
    entries.sum - entries.alternatingSum = 2 * everySecond entries
  | [] => by simp [everySecond]
  | [_] => by simp [everySecond]
  | first :: second :: rest => by
      have later := sum_sub_alternatingSum rest
      rw [List.sum_cons, List.sum_cons, List.alternatingSum_cons_cons, everySecond]
      linarith

theorem delay_append (pauses : List ℚ) (last : ℚ) :
    delay (pauses ++ [last]) = last - delay pauses := by
  rw [delay, List.reverse_append, List.reverse_singleton, List.singleton_append,
    List.alternatingSum_cons, delay]

/-- What the timing fields and the history are after these pauses. -/
def Drifted (pauses : List ℚ) (timeline : Timeline) : Prop :=
  timeline.spent = pauses.sum ∧
    match timeline.pausedSince with
    | none => timeline.layer.RunsBehind (delay pauses)
    | some since => timeline.layer.FrozenAt (since + delay pauses)

variable {stopped : CALayer → ℚ → ℚ} {timeline : Timeline} {pauses : List ℚ}

theorem drifted_fresh (start : ℚ) : Drifted [] (fresh start) := ⟨rfl, rfl, rfl, rfl⟩

theorem Drifted.perform {action : LayerAction} (drifted : Drifted pauses timeline)
    (alternates : timeline.Alternates action) :
    Drifted (pauses ++ timeline.pauseEnded action) (timeline.perform stopped action) := by
  rcases drifted with ⟨spent, fields⟩
  cases action with
  | pauseAnimate mediaTime =>
      have running : timeline.pausedSince = none := alternates
      rw [running] at fields
      refine ⟨?_, ?_⟩
      · simpa [pauseEnded, Timeline.perform] using spent
      · simpa [pauseEnded, Timeline.perform, running] using fields.pauseAnimate
  | resumeAnimate mediaTime =>
      rcases Option.ne_none_iff_exists'.mp alternates with ⟨since, paused⟩
      rw [paused] at fields
      have ended : timeline.pauseEnded (.resumeAnimate mediaTime) = [mediaTime - since] := by
        simp [pauseEnded, paused]
      have resumed : (timeline.layer.resumeAnimate stopped mediaTime).RunsBehind
          (mediaTime - (since + delay pauses)) := fields.resumeAnimate
      rw [ended]
      refine ⟨?_, ?_⟩
      · simp [Timeline.perform, pausedTime, paused, spent]
      · rw [← sub_sub, ← delay_append] at resumed
        exact resumed

/-- How far the layer is from the media time that was not spent paused. -/
def ahead (timeline : Timeline) (mediaTime : ℚ) : ℚ :=
  timeline.localTime mediaTime - (mediaTime - timeline.pausedTime mediaTime)

theorem Drifted.ahead (drifted : Drifted pauses timeline) (mediaTime : ℚ) :
    timeline.ahead mediaTime =
      match timeline.pausedSince with
      | none => 2 * everySecond pauses.reverse
      | some _ => 2 * everySecond (0 :: pauses.reverse) := by
  rcases drifted with ⟨spent, fields⟩
  cases paused : timeline.pausedSince with
  | none =>
      rw [paused] at fields
      have total := sum_sub_alternatingSum pauses.reverse
      rw [List.sum_reverse, ← delay, ← spent] at total
      rw [Timeline.ahead, localTime, fields.convertTimeFromLayerNil, pausedTime, paused]
      linarith
  | some since =>
      rw [paused] at fields
      have total := sum_sub_alternatingSum (0 :: pauses.reverse)
      rw [List.sum_cons, List.alternatingSum_cons, List.sum_reverse, ← delay, ← spent] at total
      rw [Timeline.ahead, localTime, fields.convertTimeFromLayerNil, pausedTime, paused]
      linarith

end Timeline

open Timeline

/-- After any alternating sequence of pauses and resumes a running layer is ahead by twice every
second pause, counted back from the last but one, and a paused layer by twice the others. -/
theorem run_drift {stopped : CALayer → ℚ → ℚ} {start : ℚ} {actions : List LayerAction}
    (runs : (alternatingSystem stopped).Runs (fresh start) actions) (mediaTime : ℚ) :
    let timeline := (alternatingSystem stopped).exec (fresh start) actions
    let pauses := ((alternatingSystem stopped).outputs pauseEnded (fresh start) actions).flatten
    timeline.ahead mediaTime =
      match timeline.pausedSince with
      | none => 2 * everySecond pauses.reverse
      | some _ => 2 * everySecond (0 :: pauses.reverse) := by
  have drifted := runs.collected (fun _ _ _ drifted admitted => drifted.perform admitted.2)
    (drifted_fresh start)
  exact drifted.ahead mediaTime

theorem run_drift_pausedTwice :
    ((alternatingSystem keepsStanding).exec (fresh 0) pausedTwice).ahead 4 = 4 := by
  have first : (0 : ℚ) ≤ 1 := by norm_num
  have second : (1 : ℚ) ≤ 3 := by norm_num
  have third : (3 : ℚ) ≤ 4 := by norm_num
  have runs : (alternatingSystem keepsStanding).Runs (fresh 0) pausedTwice := by
    refine ⟨⟨first, rfl⟩, ⟨second, ?_⟩, ⟨third, rfl⟩, trivial⟩
    rintro ⟨⟩
  refine (run_drift runs 4).trans ?_
  change 2 * everySecond [0, 3 - 1] = 4
  norm_num [everySecond]

end ZFBaseFramework
