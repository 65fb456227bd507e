import Mathlib.Tactic
import ZFBaseFramework.SegmentBar.Arrangement

/-!
# Where a click scrolls to

The end of `btnClick:` moves the target to the right as far as 0, and then to the left
as far as the last position that fills the bar. Where the content is narrower than the
bar, that last position is negative, and the second bound undoes the first.
-/

namespace ZFBaseFramework

namespace ZFUISegmentBar

/-- The offset at which a button stands in the middle of the bar. -/
def centringOffset (bar : ZFUISegmentBar) (button : ℕ) : ℚ :=
  (bar.buttons button).frame.centerX - bar.contentFrame.width / 2

/-- How far the content can be scrolled. -/
def scrollRange (bar : ZFUISegmentBar) : ℚ := max 0 (bar.contentWidth - bar.contentFrame.width)

/-- A click scrolls to an offset in the range, and centres its button where that is one. -/
structure ScrollsInRange (bar : ZFUISegmentBar) (button : ℕ) : Prop where
  nonnegative : 0 ≤ (bar.btnClick button).contentOffset
  bounded : (bar.btnClick button).contentOffset ≤ bar.scrollRange
  centred : 0 ≤ bar.centringOffset button → bar.centringOffset button ≤ bar.scrollRange →
    (bar.btnClick button).contentOffset = bar.centringOffset button

variable {measure : UIFont → String → ℚ × ℚ} {bar : ZFUISegmentBar}

theorem contentOffset_btnClick (bar : ZFUISegmentBar) (button : ℕ) :
    (bar.btnClick button).contentOffset =
      min (bar.contentWidth - bar.contentFrame.width) (max (bar.centringOffset button) 0) := by
  have moved := unmoved_btnClick bar button
  have contentWidth : (bar.btnClick button).contentWidth = bar.contentWidth := moved.contentWidth
  have contentFrame : (bar.btnClick button).contentFrame = bar.contentFrame := moved.contentFrame
  have centre := moved.buttonFrame button
  rw [min_def_lt, max_def_lt, centringOffset, ← contentWidth, ← contentFrame, ← centre,
    div_eq_mul_one_div]
  rfl

theorem scrollsInRange_iff_fills (bar : ZFUISegmentBar) (button : ℕ) :
    bar.ScrollsInRange button ↔ bar.contentFrame.width ≤ bar.contentWidth := by
  have target := contentOffset_btnClick bar button
  constructor
  · intro inRange
    have reached := inRange.nonnegative
    rw [target, le_min_iff] at reached
    exact sub_nonneg.mp reached.1
  · intro fills
    have range : bar.scrollRange = bar.contentWidth - bar.contentFrame.width :=
      max_eq_right (sub_nonneg.mpr fills)
    refine ⟨?_, ?_, ?_⟩
    · rw [target, le_min_iff]
      exact ⟨sub_nonneg.mpr fills, le_max_right _ _⟩
    · rw [target, range]
      exact min_le_left _ _
    · intro nonnegative bounded
      rw [range] at bounded
      rw [target, max_eq_left nonnegative, min_eq_right bounded]

theorem scrollsInRange_iff (arranged : bar.WellArranged measure) (button : ℕ) :
    bar.ScrollsInRange button ↔
      bar.frame.width ≤
        (bar.fittingWidths measure).sum + 30 * (bar.fittingWidths measure).length := by
  rw [scrollsInRange_iff_fills, arranged.spaced.contentFrame, arranged.spaced.contentWidth,
    SideBySide.le_total_spread_iff _ _ (by norm_num), SideBySide.total, mul_comm]

end ZFUISegmentBar

/-- A click scrolls to an offset in the range exactly if the buttons with their least gaps are at
least as wide as the bar. -/
theorem btnClick_scrollsInRange_iff {measure : UIFont → String → ℚ × ℚ} {frame : CGRect}
    {items : Option (List String)} {bar : ZFUISegmentBar}
    (reachable : (segmentSystem measure).Reachable
      (ZFUISegmentBar.segmentBarWithFrame measure frame items) (some bar)) (button : ℕ) :
    bar.ScrollsInRange button ↔
      bar.frame.width ≤
        (bar.fittingWidths measure).sum + 30 * (bar.fittingWidths measure).length :=
  ZFUISegmentBar.scrollsInRange_iff (ZFUISegmentBar.reachable_wellArranged reachable rfl) button

/-- Three buttons in a bar of the width 60. -/
theorem btnClick_scrollsInRange_crowded :
    ∃ bar, ZFUISegmentBar.segmentBarWithFrame measureLetters ⟨0, 0, 60, 40⟩
        (some ["a", "b", "c"]) = some bar ∧ bar.ScrollsInRange 2 := by
  refine ⟨_, rfl, (@btnClick_scrollsInRange_iff measureLetters ⟨0, 0, 60, 40⟩
    (some ["a", "b", "c"]) _ ⟨[], trivial, rfl⟩ 2).mpr ?_⟩
  change (60 : ℚ) ≤ ([1, 1, 1].map fun length : ℕ => (length : ℚ)).sum + 30 * (3 : ℕ)
  norm_num

/-- One button in a bar of the width 320: the click scrolls to a negative offset. -/
theorem lone_not_scrollsInRange :
    ∃ bar, ZFUISegmentBar.segmentBarWithFrame measureLetters ⟨0, 0, 320, 40⟩ (some ["a"]) =
        some bar ∧ 0 ∈ bar.itemBtns ∧ ¬bar.ScrollsInRange 0 := by
  refine ⟨_, rfl, by decide, ?_⟩
  rw [ZFUISegmentBar.scrollsInRange_iff (@ZFUISegmentBar.reachable_wellArranged measureLetters _
    ⟨0, 0, 320, 40⟩ (some ["a"]) _ ⟨[], trivial, rfl⟩ rfl)]
  change ¬(320 : ℚ) ≤ ([1].map fun length : ℕ => (length : ℚ)).sum + 30 * (1 : ℕ)
  norm_num

end ZFBaseFramework
