import Mathlib.Tactic
import ZFBaseFramework.SegmentBar.IndexSafety

/-!
# One selection, seen the same everywhere

The selected index, the highlighted button and the last selection made agree all along a
run exactly if taps hit the selected index only, and no update brings items after the
first selection. A tap leaves `selectedIndex` as it is, and an update makes new buttons
without highlighting one of them.
-/

namespace ZFBaseFramework

namespace ZFUISegmentBar

/-- Exactly one current button is highlighted, it is the one the selected index and the latest
selection name, and a layout pass centres the indicator on it. -/
def Highlights (measure : UIFont → String → ℚ × ℚ) (bar : ZFUISegmentBar)
    (latest : SelectionReport) : Prop :=
  ∃ button ∈ bar.itemBtns,
    (∀ other ∈ bar.itemBtns, (bar.buttons other).selected = true ↔ other = button) ∧
    ((bar.buttons button).tag : ℤ) = bar.selectedIndex ∧
    latest.toIndex = (bar.buttons button).tag ∧
    ∀ frame after, { bar with frame }.layoutSubviews measure = some after →
      ∃ indicator, after.indicatorView = some indicator ∧
        indicator.centerX = (after.buttons button).frame.centerX

/-- After the first selection, and where the selected index is valid, there is one selection. -/
def OneSelection (measure : UIFont → String → ℚ × ℚ) (state : Option ZFUISegmentBar) : Prop :=
  ∀ bar, state = some bar → ∀ latest earlier, bar.reports = latest :: earlier →
    0 ≤ bar.selectedIndex → bar.selectedIndex < bar.itemBtns.length →
    bar.Highlights measure latest

/-- A tap hits the selected index, and an update brings items only before the first selection,
or too few of them for the selected index. -/
def KeepsSelection (state : Option ZFUISegmentBar) : SegmentAction → Prop
  | .updateSegmentConfig config => ∀ bar items, state = some bar →
      (bar.configured config).itemDatas = some items → items ≠ [] →
      bar.reports = [] ∨ items.length ≤ bar.selectedIndex
  | .tap position => ∀ bar, state = some bar → (position : ℤ) = bar.selectedIndex
  | _ => True

/-- How the buttons are numbered and highlighted in every reachable state. -/
structure Built (bar : ZFUISegmentBar) : Prop where
  inBounds : bar.InBounds
  nonnegative : 0 ≤ bar.selectedIndex
  nodup : bar.itemBtns.Nodup
  tag : ∀ {position button}, bar.itemBtns[position]? = some button →
    (bar.buttons button).tag = position
  made : ∀ {button}, button ∈ bar.itemBtns ∨ bar.lastSelectedBtn = some button →
    button < bar.buttonCount
  highlighted : ∀ {button}, button ∈ bar.itemBtns → (bar.buttons button).selected = true →
    bar.lastSelectedBtn = some button

section Steps

variable {measure : UIFont → String → ℚ × ℚ} {bar after : ZFUISegmentBar} {button : ℕ}

/-- A click highlights its button and reports it. -/
structure Clicked (bar after : ZFUISegmentBar) (button : ℕ) : Prop where
  itemBtns : after.itemBtns = bar.itemBtns
  selectedIndex : after.selectedIndex = bar.selectedIndex
  buttonCount : after.buttonCount = bar.buttonCount
  lastSelectedBtn : after.lastSelectedBtn = some button
  reports : ∃ fromIndex, after.reports = ⟨(bar.buttons button).tag, fromIndex⟩ :: bar.reports
  tag : ∀ other, (after.buttons other).tag = (bar.buttons other).tag
  selected : ∀ other, (after.buttons other).selected =
    if other = button then true
    else if bar.lastSelectedBtn = some other then false
    else (bar.buttons other).selected

theorem clicked_btnClick (bar : ZFUISegmentBar) (button : ℕ) :
    Clicked bar (bar.btnClick button) button := by
  constructor
  case itemBtns => exact itemBtns_btnClick bar button
  case selectedIndex => exact selectedIndex_btnClick bar button
  case buttonCount =>
    rw [btnClick, finishClick, scrollTo, selectButton]
    cases (bar.reportSelection button).lastSelectedBtn <;> rfl
  case lastSelectedBtn => rfl
  case reports =>
    refine ⟨(bar.lastSelectedBtn.map fun last => (bar.buttons last).tag).getD 0, ?_⟩
    rw [btnClick, finishClick, scrollTo, selectButton]
    cases (bar.reportSelection button).lastSelectedBtn <;> rfl
  case tag => exact fun other => by rw [buttons_btnClick]
  case selected => exact fun other => by rw [buttons_btnClick]

namespace Built

theorem position (built : Built bar) (present : button ∈ bar.itemBtns) :
    bar.itemBtns[(bar.buttons button).tag]? = some button := by
  rcases List.getElem?_of_mem present with ⟨position, found⟩
  rwa [built.tag found]

theorem of_relaid (built : Built bar) (relaid : Relaid bar after) : Built after where
  inBounds := relaid.inBounds_iff.mpr built.inBounds
  nonnegative := relaid.selectedIndex ▸ built.nonnegative
  nodup := relaid.itemBtns ▸ built.nodup
  tag := by
    intro position button found
    rw [relaid.itemBtns] at found
    rw [relaid.tag, built.tag found]
  made := by
    intro button known
    rw [relaid.itemBtns, relaid.lastSelectedBtn] at known
    rw [relaid.buttonCount]
    exact built.made known
  highlighted := by
    intro button present selected
    rw [relaid.itemBtns] at present
    rw [relaid.selected] at selected
    rw [relaid.lastSelectedBtn]
    exact built.highlighted present selected

theorem selected_iff (built : Built bar) (clicked : Clicked bar after button) {other : ℕ}
    (present : other ∈ bar.itemBtns) :
    (after.buttons other).selected = true ↔ other = button := by
  rw [clicked.selected]
  split
  · rename_i same
    exact iff_of_true rfl same
  · rename_i different
    refine iff_of_false ?_ different
    split
    · simp
    · rename_i other
      intro selected
      exact other (built.highlighted present selected)

theorem of_clicked (built : Built bar) (present : button ∈ bar.itemBtns)
    (clicked : Clicked bar after button) : Built after where
  inBounds := by
    rw [InBounds, clicked.itemBtns, clicked.selectedIndex]
    exact built.inBounds
  nonnegative := clicked.selectedIndex ▸ built.nonnegative
  nodup := clicked.itemBtns ▸ built.nodup
  tag := by
    intro position other found
    rw [clicked.itemBtns] at found
    rw [clicked.tag, built.tag found]
  made := by
    intro other known
    rw [clicked.itemBtns, clicked.lastSelectedBtn] at known
    rw [clicked.buttonCount]
    rcases known with known | known
    · exact built.made (Or.inl known)
    · cases known
      exact built.made (Or.inl present)
  highlighted := by
    intro other known selected
    rw [clicked.itemBtns] at known
    rw [(built.selected_iff clicked known).mp selected, clicked.lastSelectedBtn]

theorem of_rebuilt {count : ℕ} (made : ∀ {button}, bar.lastSelectedBtn = some button →
      button < bar.buttonCount) (nonnegative : 0 ≤ bar.selectedIndex)
    (rebuilt : Rebuilt bar after count) (inBounds : after.InBounds) : Built after where
  inBounds := inBounds
  nonnegative := rebuilt.selectedIndex ▸ nonnegative
  nodup := by
    rw [rebuilt.itemBtns]
    exact List.nodup_range'
  tag := by
    intro position button found
    rw [rebuilt.itemBtns] at found
    rcases List.getElem?_eq_some_iff.mp found with ⟨below, value⟩
    rw [List.length_range'] at below
    rw [List.getElem_range', Nat.one_mul] at value
    rw [← value, rebuilt.tag position below]
  made := by
    intro button known
    rw [rebuilt.itemBtns, rebuilt.lastSelectedBtn] at known
    rw [rebuilt.buttonCount]
    rcases known with known | known
    · rw [List.mem_range'_1] at known
      exact known.2
    · exact Nat.lt_add_right count (made known)
  highlighted := by
    intro button present selected
    rw [rebuilt.itemBtns, List.mem_range'_1] at present
    have fresh := rebuilt.selected (button - bar.buttonCount) (by omega)
    rw [Nat.add_sub_cancel' present.1, selected] at fresh
    cases fresh

end Built

theorem centred_layoutSubviews (laidOut : bar.layoutSubviews measure = some after)
    (found : objectAtIndex bar.itemBtns bar.selectedIndex = some button) :
    ∃ indicator, after.indicatorView = some indicator ∧
      indicator.centerX = (after.buttons button).frame.centerX := by
  have arranged := Relaid.arrangeButtons measure bar
  rw [layoutSubviews] at laidOut
  split at laidOut
  · rename_i empty
    rw [arranged.itemBtns, List.length_eq_zero_iff] at empty
    rw [empty] at found
    simp [objectAtIndex] at found
  · rw [arranged.itemBtns, arranged.selectedIndex, found, Option.map_some,
      Option.some.injEq] at laidOut
    subst laidOut
    exact ⟨_, rfl, by simp [moveIndicator]⟩

theorem highlights_of_found (built : Built bar) {latest : SelectionReport}
    (found : objectAtIndex bar.itemBtns bar.selectedIndex = some button)
    (only : ∀ other ∈ bar.itemBtns, (bar.buttons other).selected = true ↔ other = button)
    (reported : (latest.toIndex : ℤ) = bar.selectedIndex) : bar.Highlights measure latest := by
  rcases objectAtIndex_eq_some_iff.mp found with ⟨nonnegative, placed⟩
  have tag := built.tag placed
  have index : ((bar.buttons button).tag : ℤ) = bar.selectedIndex := by omega
  refine ⟨button, List.mem_of_getElem? placed, only, index, by omega, ?_⟩
  intro frame after laidOut
  exact centred_layoutSubviews laidOut found

theorem Highlights.found (built : Built bar) {latest : SelectionReport}
    (highlights : bar.Highlights measure latest) :
    ∃ button, objectAtIndex bar.itemBtns bar.selectedIndex = some button ∧
      (∀ other ∈ bar.itemBtns, (bar.buttons other).selected = true ↔ other = button) ∧
      (latest.toIndex : ℤ) = bar.selectedIndex := by
  rcases highlights with ⟨button, present, only, index, reported, _⟩
  refine ⟨button, objectAtIndex_eq_some_iff.mpr ⟨built.nonnegative, ?_⟩, only, by omega⟩
  rw [← index, Int.toNat_natCast]
  exact built.position present

theorem oneSelection_relaid (built : Built bar) (one : OneSelection measure (some bar))
    (relaid : Relaid bar after) : OneSelection measure (some after) := by
  rintro _ ⟨⟩ latest earlier reported nonnegative below
  rw [relaid.reports] at reported
  rw [relaid.selectedIndex] at nonnegative below
  rw [relaid.itemBtns] at below
  rcases (one bar rfl latest earlier reported nonnegative below).found built with
    ⟨button, found, only, toIndex⟩
  have still : objectAtIndex after.itemBtns after.selectedIndex = some button := by
    rwa [relaid.itemBtns, relaid.selectedIndex]
  apply highlights_of_found (built.of_relaid relaid) still
  · intro other present
    rw [relaid.itemBtns] at present
    rw [relaid.selected]
    exact only other present
  · rwa [relaid.selectedIndex]

/-- A click keeps the one selection exactly if it is on the button at the selected index. -/
theorem oneSelection_clicked_iff (built : Built bar) (clicked : Clicked bar after button)
    {position : ℕ} (placed : bar.itemBtns[position]? = some button) :
    OneSelection measure (some after) ↔ (position : ℤ) = bar.selectedIndex := by
  have present : button ∈ bar.itemBtns := List.mem_of_getElem? placed
  have builtAfter := built.of_clicked present clicked
  rcases clicked.reports with ⟨fromIndex, reports⟩
  constructor
  · intro one
    have inside := built.inBounds (List.ne_nil_of_mem present)
    have highlights := one after rfl _ _ reports
      (by rw [clicked.selectedIndex]; exact inside.1)
      (by rw [clicked.selectedIndex, clicked.itemBtns]; exact inside.2)
    rcases highlights.found builtAfter with ⟨_, _, _, toIndex⟩
    rw [clicked.selectedIndex] at toIndex
    rw [← toIndex, built.tag placed]
  · rintro same _ ⟨⟩ latest earlier reported nonnegative below
    rw [reports, List.cons.injEq] at reported
    rcases reported with ⟨rfl, _⟩
    have found : objectAtIndex after.itemBtns after.selectedIndex = some button := by
      rw [clicked.itemBtns, clicked.selectedIndex, ← same]
      exact objectAtIndex_eq_some_iff.mpr ⟨Int.natCast_nonneg position, placed⟩
    apply highlights_of_found builtAfter found
    · intro other known
      rw [clicked.itemBtns] at known
      exact built.selected_iff clicked known
    · rw [built.tag placed, clicked.selectedIndex, same]

theorem oneSelection_none : OneSelection measure none := by
  intro bar same
  cases same

/-- A layout pass keeps the one selection, if it raises no exception. -/
theorem oneSelection_layoutSubviews (built : Built bar) (one : OneSelection measure (some bar)) :
    OneSelection measure (bar.layoutSubviews measure) := by
  cases laidOut : bar.layoutSubviews measure with
  | none => exact oneSelection_none
  | some after => exact oneSelection_relaid built one (relaid_layoutSubviews laidOut)

/-- New buttons show no selection. -/
theorem oneSelection_rebuilt_iff {count : ℕ}
    (made : ∀ {button}, bar.lastSelectedBtn = some button → button < bar.buttonCount)
    (nonnegative : 0 ≤ bar.selectedIndex) (rebuilt : Rebuilt bar after count)
    (positive : 0 < count) :
    OneSelection measure (after.layoutSubviews measure) ↔
      bar.reports = [] ∨ count ≤ bar.selectedIndex := by
  have inside := rebuilt.inBounds_iff nonnegative positive
  cases laidOut : after.layoutSubviews measure with
  | none =>
      refine iff_of_true oneSelection_none (Or.inr ?_)
      by_contra below
      rcases exists_layoutSubviews_iff.mpr (inside.mpr (not_le.mp below)) with ⟨_, laid⟩
      rw [laidOut] at laid
      cases laid
  | some final =>
      have inBounds := exists_layoutSubviews_iff.mp ⟨final, laidOut⟩
      have below := inside.mp inBounds
      have relaid := relaid_layoutSubviews laidOut
      have built := (Built.of_rebuilt made nonnegative rebuilt inBounds).of_relaid relaid
      constructor
      · intro one
        left
        cases reports : bar.reports with
        | nil => rfl
        | cons latest earlier =>
            have length : final.itemBtns.length = count := by
              rw [relaid.itemBtns, rebuilt.itemBtns, List.length_range']
            have index : final.selectedIndex = bar.selectedIndex := by
              rw [relaid.selectedIndex, rebuilt.selectedIndex]
            have highlights := one final rfl latest earlier
              (by rw [relaid.reports, rebuilt.reports, reports])
              (by rw [index]; exact nonnegative) (by rw [index, length]; exact below)
            rcases highlights with ⟨button, present, only, _⟩
            have selected := (only button present).mpr rfl
            rw [relaid.itemBtns, rebuilt.itemBtns, List.mem_range'_1] at present
            have fresh := rebuilt.selected (button - bar.buttonCount) (by omega)
            rw [Nat.add_sub_cancel' present.1, ← relaid.selected, selected] at fresh
            cases fresh
      · rintro (unselected | short)
        · rintro _ ⟨⟩ latest earlier reported
          rw [relaid.reports, rebuilt.reports, unselected] at reported
          cases reported
        · omega

theorem oneSelection_updateSegmentConfig_iff (built : Built bar)
    (one : OneSelection measure (some bar))
    (config : Option (ZFUISegmentBarConfig → ZFUISegmentBarConfig)) :
    OneSelection measure (bar.updateSegmentConfig measure config) ↔
      KeepsSelection (some bar) (.updateSegmentConfig config) := by
  have relaid := Relaid.restyle bar (bar.configured config)
  have restyled := built.of_relaid relaid
  rw [updateSegmentConfig, KeepsSelection]
  by_cases idle : ∀ items, (bar.configured config).itemDatas = some items → items = []
  · rw [setItems_of_idle idle]
    refine iff_of_true
      (oneSelection_layoutSubviews restyled (oneSelection_relaid built one relaid)) ?_
    intro other items same given nonempty
    cases same
    exact absurd (idle items given) nonempty
  · push Not at idle
    rcases idle with ⟨items, given, nonempty⟩
    rw [given, setItems_of_items nonempty,
      oneSelection_rebuilt_iff (fun known => restyled.made (Or.inr known)) restyled.nonnegative
        (rebuilt_rebuild _ items) (List.length_pos_iff.mpr nonempty),
      relaid.reports, relaid.selectedIndex]
    constructor
    · intro allowed other others same sameItems _
      cases same
      cases given.symm.trans sameItems
      exact allowed
    · intro keeps
      exact keeps bar items rfl given nonempty

theorem oneSelection_setSelectedIndex (built : Built bar) (one : OneSelection measure (some bar))
    (index : ℤ) : OneSelection measure (bar.setSelectedIndex index) := by
  by_cases inside : 0 ≤ index ∧ index < bar.itemBtns.length
  · rcases exists_setSelectedIndex inside.1 inside.2 with ⟨button, found, selected⟩
    rcases objectAtIndex_eq_some_iff.mp found with ⟨_, placed⟩
    have moved : Built { bar with selectedIndex := index } :=
      ⟨fun _ => inside, inside.1, built.nodup, built.tag, built.made, built.highlighted⟩
    rw [selected, oneSelection_clicked_iff moved (clicked_btnClick _ button) placed]
    exact Int.toNat_of_nonneg inside.1
  · rwa [setSelectedIndex_ignored inside]

theorem oneSelection_perform_iff (built : Built bar) (one : OneSelection measure (some bar))
    {action : SegmentAction} (admitted : Admits (some bar) action) :
    OneSelection measure (bar.perform measure action) ↔ KeepsSelection (some bar) action := by
  cases action with
  | updateSegmentConfig config => exact oneSelection_updateSegmentConfig_iff built one config
  | setSelectedIndex index =>
      exact iff_of_true (oneSelection_setSelectedIndex built one index) trivial
  | tap position =>
      rcases admitted with ⟨_, same, touched⟩
      cases same
      have placed := List.getElem?_eq_getElem (touched position rfl)
      rw [perform, placed, Option.map_some, oneSelection_clicked_iff built
        (clicked_btnClick bar _) placed, KeepsSelection]
      constructor
      · rintro same _ ⟨⟩
        exact same
      · intro keeps
        exact keeps bar rfl
  | layout frame =>
      have framed : Relaid bar { bar with frame } :=
        ⟨rfl, rfl, rfl, rfl, rfl, fun _ => rfl, fun _ => rfl⟩
      refine iff_of_true ?_ trivial
      exact oneSelection_layoutSubviews (built.of_relaid framed)
        (oneSelection_relaid built one framed)

theorem built_layoutSubviews (built : Built bar)
    (laidOut : bar.layoutSubviews measure = some after) : Built after :=
  built.of_relaid (relaid_layoutSubviews laidOut)

theorem built_setItems (built : Built bar) {items : Option (List String)}
    (set : bar.setItems measure items = some after) : Built after := by
  by_cases idle : ∀ list, items = some list → list = []
  · rw [setItems_of_idle idle] at set
    exact built_layoutSubviews built set
  · push Not at idle
    rcases idle with ⟨list, rfl, nonempty⟩
    rw [setItems_of_items nonempty] at set
    have inBounds := exists_layoutSubviews_iff.mp ⟨after, set⟩
    exact built_layoutSubviews (Built.of_rebuilt (fun known => built.made (Or.inr known))
      built.nonnegative (rebuilt_rebuild bar list) inBounds) set

theorem built_perform (built : Built bar) {action : SegmentAction}
    (performed : bar.perform measure action = some after) : Built after := by
  cases action with
  | updateSegmentConfig config =>
      exact built_setItems (built.of_relaid (Relaid.restyle bar (bar.configured config))) performed
  | setSelectedIndex index =>
      by_cases inside : 0 ≤ index ∧ index < bar.itemBtns.length
      · rcases exists_setSelectedIndex inside.1 inside.2 with ⟨button, found, selected⟩
        rw [perform, selected, Option.some.injEq] at performed
        rw [← performed]
        have moved : Built { bar with selectedIndex := index } :=
          ⟨fun _ => inside, inside.1, built.nodup, built.tag, built.made, built.highlighted⟩
        exact moved.of_clicked (List.mem_of_getElem? (objectAtIndex_eq_some_iff.mp found).2)
          (clicked_btnClick _ button)
      · rw [perform, setSelectedIndex_ignored inside, Option.some.injEq] at performed
        rwa [← performed]
  | tap position =>
      simp only [perform, Option.map_eq_some_iff] at performed
      rcases performed with ⟨button, placed, rfl⟩
      exact built.of_clicked (List.mem_of_getElem? placed) (clicked_btnClick bar button)
  | layout frame =>
      have framed : Relaid bar { bar with frame } :=
        ⟨rfl, rfl, rfl, rfl, rfl, fun _ => rfl, fun _ => rfl⟩
      exact built_layoutSubviews (built.of_relaid framed) performed

/-- The bar, if it is still there, is built well. -/
def WellBuilt (state : Option ZFUISegmentBar) : Prop :=
  ∀ bar, state = some bar → Built bar

theorem built_empty (frame : CGRect) : Built { frame } := by
  refine ⟨fun present => absurd rfl present, le_rfl, List.nodup_nil, ?_, ?_, ?_⟩
  · intro position button found
    simp at found
  · intro button known
    simp at known
  · intro button present
    simp at present

theorem wellBuilt_segmentBarWithFrame (frame : CGRect) (items : Option (List String)) :
    WellBuilt (segmentBarWithFrame measure frame items) := by
  intro bar created
  exact built_setItems (built_empty frame) created

theorem oneSelection_segmentBarWithFrame (frame : CGRect) (items : Option (List String)) :
    OneSelection measure (segmentBarWithFrame measure frame items) := by
  have built := built_empty frame
  rw [segmentBarWithFrame]
  by_cases idle : ∀ list, items = some list → list = []
  · rw [setItems_of_idle idle]
    apply oneSelection_layoutSubviews built
    rintro _ ⟨⟩ latest earlier reported
    cases reported
  · push Not at idle
    rcases idle with ⟨list, rfl, nonempty⟩
    rw [setItems_of_items nonempty, oneSelection_rebuilt_iff
      (fun known => built.made (Or.inr known)) built.nonnegative (rebuilt_rebuild _ list)
      (List.length_pos_iff.mpr nonempty)]
    exact Or.inl rfl

end Steps

end ZFUISegmentBar

/-- There is one selection all along a run exactly if taps hit the selected index only and no
update brings items after the first selection. -/
theorem run_oneSelection_iff {measure : UIFont → String → ℚ × ℚ} {frame : CGRect}
    {items : Option (List String)} {actions : List SegmentAction}
    (runs : (segmentSystem measure).Runs
      (ZFUISegmentBar.segmentBarWithFrame measure frame items) actions) :
    (segmentSystem measure).Throughout (ZFUISegmentBar.OneSelection measure)
        (ZFUISegmentBar.segmentBarWithFrame measure frame items) actions ↔
      (segmentSystem measure).Along ZFUISegmentBar.KeepsSelection
        (ZFUISegmentBar.segmentBarWithFrame measure frame items) actions := by
  refine ActionSystem.throughout_iff_along ?_ ?_
    (ZFUISegmentBar.wellBuilt_segmentBarWithFrame frame items)
    (ZFUISegmentBar.oneSelection_segmentBarWithFrame frame items) runs
  · rintro state action built _ ⟨bar, rfl, _⟩ after performed
    exact ZFUISegmentBar.built_perform (built bar rfl) performed
  · rintro state action built one admitted
    rcases admitted with ⟨bar, rfl, touched⟩
    exact ZFUISegmentBar.oneSelection_perform_iff (built bar rfl) one ⟨bar, rfl, touched⟩

/-- The second item is selected, and its button touched. -/
def selectedTwice : List SegmentAction := [.setSelectedIndex 1, .layout ⟨0, 0, 100, 40⟩, .tap 1]

theorem run_oneSelection_selectedTwice :
    (segmentSystem measureLetters).Throughout (ZFUISegmentBar.OneSelection measureLetters)
      (ZFUISegmentBar.segmentBarWithFrame measureLetters {} (some ["a", "b", "c"]))
      selectedTwice := by
  have runs : (segmentSystem measureLetters).Runs
      (ZFUISegmentBar.segmentBarWithFrame measureLetters {} (some ["a", "b", "c"]))
      selectedTwice := by
    refine ⟨⟨_, rfl, nofun⟩, ⟨_, rfl, nofun⟩, ⟨_, rfl, ?_⟩, trivial⟩
    rintro position ⟨⟩
    decide
  refine (run_oneSelection_iff runs).mpr ⟨trivial, trivial, ?_, trivial⟩
  rintro bar ⟨⟩
  rfl

/-- A touch of the third button highlights it while the selected index stays 0. -/
theorem touched_not_oneSelection :
    (segmentSystem measureLetters).Runs
        (ZFUISegmentBar.segmentBarWithFrame measureLetters {} (some ["a", "b", "c"])) [.tap 2] ∧
      ¬(segmentSystem measureLetters).Throughout (ZFUISegmentBar.OneSelection measureLetters)
        (ZFUISegmentBar.segmentBarWithFrame measureLetters {} (some ["a", "b", "c"]))
        [.tap 2] := by
  refine ⟨⟨⟨_, rfl, ?_⟩, trivial⟩, ?_⟩
  · rintro position ⟨⟩
    decide
  · rintro ⟨_, touched⟩
    rcases touched _ rfl _ _ rfl (by decide) (by decide) with ⟨button, _, only, index, _⟩
    have third : 2 = button := (only 2 (by decide)).mp rfl
    subst third
    revert index
    decide

end ZFBaseFramework
