import Mathlib.Tactic
import ZFBaseFramework.SegmentBar.Bar

/-!
# Index safety of the segment bar

Layout reads `itemBtns[selectedIndex]`, and an update of the items keeps
`selectedIndex` as it was. The access is in bounds all along a run exactly if every
non-empty update brings more items than the index it meets. What layout leaves alone is
said once, in `Relaid`.
-/

namespace ZFBaseFramework

theorem objectAtIndex_eq_some_iff {α : Type} {array : List α} {index : ℤ} {object : α} :
    objectAtIndex array index = some object ↔ 0 ≤ index ∧ array[index.toNat]? = some object := by
  rw [objectAtIndex]
  split
  · rename_i nonnegative
    simp [nonnegative]
  · rename_i negative
    simp [negative]

theorem exists_objectAtIndex_iff {α : Type} {array : List α} {index : ℤ} :
    (∃ object, objectAtIndex array index = some object) ↔
      0 ≤ index ∧ index < array.length := by
  constructor
  · rintro ⟨object, found⟩
    rcases objectAtIndex_eq_some_iff.mp found with ⟨nonnegative, found⟩
    rcases List.getElem?_eq_some_iff.mp found with ⟨below, _⟩
    exact ⟨nonnegative, by omega⟩
  · rintro ⟨nonnegative, below⟩
    have inside : index.toNat < array.length := by omega
    exact ⟨array[index.toNat], objectAtIndex_eq_some_iff.mpr
      ⟨nonnegative, List.getElem?_eq_getElem inside⟩⟩

namespace ZFUISegmentBar

/-- The selected index is that of a button, if there are any. -/
def InBounds (bar : ZFUISegmentBar) : Prop :=
  bar.itemBtns ≠ [] → 0 ≤ bar.selectedIndex ∧ bar.selectedIndex < bar.itemBtns.length

/-- The bars agree on all that selecting reads and writes, geometry apart. -/
structure Relaid (bar after : ZFUISegmentBar) : Prop where
  itemBtns : after.itemBtns = bar.itemBtns
  selectedIndex : after.selectedIndex = bar.selectedIndex
  lastSelectedBtn : after.lastSelectedBtn = bar.lastSelectedBtn
  reports : after.reports = bar.reports
  buttonCount : after.buttonCount = bar.buttonCount
  tag : ∀ button, (after.buttons button).tag = (bar.buttons button).tag
  selected : ∀ button, (after.buttons button).selected = (bar.buttons button).selected

namespace Relaid

theorem refl (bar : ZFUISegmentBar) : Relaid bar bar :=
  ⟨rfl, rfl, rfl, rfl, rfl, fun _ => rfl, fun _ => rfl⟩

theorem trans {bar middle after : ZFUISegmentBar} (first : Relaid bar middle)
    (second : Relaid middle after) : Relaid bar after where
  itemBtns := second.itemBtns.trans first.itemBtns
  selectedIndex := second.selectedIndex.trans first.selectedIndex
  lastSelectedBtn := second.lastSelectedBtn.trans first.lastSelectedBtn
  reports := second.reports.trans first.reports
  buttonCount := second.buttonCount.trans first.buttonCount
  tag button := (second.tag button).trans (first.tag button)
  selected button := (second.selected button).trans (first.selected button)

theorem modifyButton (bar : ZFUISegmentBar) (button : ℕ) {change : UIButton → UIButton}
    (tag : ∀ button, (change button).tag = button.tag)
    (selected : ∀ button, (change button).selected = button.selected) :
    Relaid bar (bar.modifyButton button change) := by
  refine ⟨rfl, rfl, rfl, rfl, rfl, ?_, ?_⟩
  · intro other
    by_cases same : other = button
    · simp [ZFUISegmentBar.modifyButton, same, tag]
    · simp [ZFUISegmentBar.modifyButton, same]
  · intro other
    by_cases same : other = button
    · simp [ZFUISegmentBar.modifyButton, same, selected]
    · simp [ZFUISegmentBar.modifyButton, same]

theorem modifyButtons {change : UIButton → UIButton}
    (tag : ∀ button, (change button).tag = button.tag)
    (selected : ∀ button, (change button).selected = button.selected) (buttons : List ℕ)
    (bar : ZFUISegmentBar) :
    Relaid bar (buttons.foldl (fun bar button => bar.modifyButton button change) bar) := by
  induction buttons generalizing bar with
  | nil => exact refl bar
  | cons button rest ih => exact (modifyButton bar button tag selected).trans (ih _)

theorem placeButtons (margin : ℚ) (buttons : List ℕ) (lastBtnX : ℚ) (bar : ZFUISegmentBar) :
    Relaid bar (placeButtons margin buttons lastBtnX bar) := by
  induction buttons generalizing lastBtnX bar with
  | nil => exact ⟨rfl, rfl, rfl, rfl, rfl, fun _ => rfl, fun _ => rfl⟩
  | cons button rest ih =>
      have moved : Relaid bar (bar.modifyButton button fun placed =>
          { placed with frame := (placed.frame.setY 0).setX lastBtnX }) :=
        modifyButton bar button (fun _ => rfl) fun _ => rfl
      exact moved.trans (ih _ _)

theorem arrangeButtons (measure : UIFont → String → ℚ × ℚ) (bar : ZFUISegmentBar) :
    Relaid bar (bar.arrangeButtons measure) := by
  have framed : Relaid bar
      { bar with contentFrame := ⟨0, 0, bar.frame.width, bar.frame.height⟩ } :=
    ⟨rfl, rfl, rfl, rfl, rfl, fun _ => rfl, fun _ => rfl⟩
  have sized : Relaid bar (bar.itemBtns.foldl
      (fun bar button => bar.modifyButton button (sizeToFit measure))
      { bar with contentFrame := ⟨0, 0, bar.frame.width, bar.frame.height⟩ }) := by
    apply framed.trans
    apply modifyButtons
    · intro button
      rfl
    · intro button
      rfl
  exact sized.trans (placeButtons _ _ _ _)

theorem moveIndicator (bar : ZFUISegmentBar) (button : ℕ) :
    Relaid bar (bar.moveIndicator button) :=
  ⟨rfl, rfl, rfl, rfl, rfl, fun _ => rfl, fun _ => rfl⟩

theorem restyle (bar : ZFUISegmentBar) (config : ZFUISegmentBarConfig) :
    Relaid bar (bar.restyle config) := by
  have shown : Relaid bar
      { bar with config, indicatorView := some { bar with config }.indicator } :=
    ⟨rfl, rfl, rfl, rfl, rfl, fun _ => rfl, fun _ => rfl⟩
  apply shown.trans
  apply modifyButtons
  · intro button
    rfl
  · intro button
    rfl

theorem inBounds_iff {bar after : ZFUISegmentBar} (relaid : Relaid bar after) :
    after.InBounds ↔ bar.InBounds := by
  rw [InBounds, InBounds, relaid.itemBtns, relaid.selectedIndex]

end Relaid

variable {measure : UIFont → String → ℚ × ℚ} {bar after : ZFUISegmentBar}

theorem relaid_layoutSubviews (laidOut : bar.layoutSubviews measure = some after) :
    Relaid bar after := by
  have arranged := Relaid.arrangeButtons measure bar
  rw [layoutSubviews] at laidOut
  split at laidOut
  · cases laidOut
    exact arranged
  · rw [Option.map_eq_some_iff] at laidOut
    rcases laidOut with ⟨button, _, rfl⟩
    exact arranged.trans (Relaid.moveIndicator _ button)

/-- Layout raises no exception exactly if the selected index is in bounds. -/
theorem exists_layoutSubviews_iff :
    (∃ after, bar.layoutSubviews measure = some after) ↔ bar.InBounds := by
  have arranged := Relaid.arrangeButtons measure bar
  rw [← arranged.inBounds_iff, layoutSubviews]
  split
  · rename_i empty
    rw [List.length_eq_zero_iff] at empty
    exact iff_of_true ⟨_, rfl⟩ fun some => absurd empty some
  · rename_i present
    rw [List.length_eq_zero_iff] at present
    simp only [Option.map_eq_some_iff, InBounds]
    rw [← exists_objectAtIndex_iff]
    constructor
    · rintro ⟨_, button, found, _⟩ _
      exact ⟨button, found⟩
    · intro found
      rcases found present with ⟨button, found⟩
      exact ⟨_, button, found, rfl⟩

/-- The bar after some rounds of the loop of `setItems:`. -/
structure Rebuilt (bar after : ZFUISegmentBar) (count : ℕ) : Prop where
  selectedIndex : after.selectedIndex = bar.selectedIndex
  lastSelectedBtn : after.lastSelectedBtn = bar.lastSelectedBtn
  reports : after.reports = bar.reports
  buttonCount : after.buttonCount = bar.buttonCount + count
  itemBtns : after.itemBtns = List.range' bar.buttonCount count
  tag : ∀ position, position < count → (after.buttons (bar.buttonCount + position)).tag = position
  selected : ∀ position, position < count →
    (after.buttons (bar.buttonCount + position)).selected = false

theorem Rebuilt.addButton {count : ℕ} (rebuilt : Rebuilt bar after count) (item : String) :
    Rebuilt bar (after.addButton item) (count + 1) where
  selectedIndex := rebuilt.selectedIndex
  lastSelectedBtn := rebuilt.lastSelectedBtn
  reports := rebuilt.reports
  buttonCount := by
    rw [ZFUISegmentBar.addButton, rebuilt.buttonCount]
    rfl
  itemBtns := by
    rw [ZFUISegmentBar.addButton, rebuilt.buttonCount, rebuilt.itemBtns, List.range'_1_concat]
  tag := by
    intro position below
    rcases Nat.lt_succ_iff_lt_or_eq.mp below with earlier | rfl
    · simpa [ZFUISegmentBar.addButton, rebuilt.buttonCount, earlier.ne] using
        rebuilt.tag position earlier
    · simp [ZFUISegmentBar.addButton, rebuilt.buttonCount, rebuilt.itemBtns]
  selected := by
    intro position below
    rcases Nat.lt_succ_iff_lt_or_eq.mp below with earlier | rfl
    · simpa [ZFUISegmentBar.addButton, rebuilt.buttonCount, earlier.ne] using
        rebuilt.selected position earlier
    · simp [ZFUISegmentBar.addButton, rebuilt.buttonCount]

theorem Rebuilt.addButtons {count : ℕ} (rebuilt : Rebuilt bar after count) (items : List String) :
    Rebuilt bar (items.foldl ZFUISegmentBar.addButton after) (count + items.length) := by
  induction items generalizing after count with
  | nil => exact rebuilt
  | cons item rest ih =>
      have built := ih (rebuilt.addButton item)
      rwa [List.length_cons, Nat.add_comm rest.length, ← Nat.add_assoc]

theorem setItems_of_idle {items : Option (List String)}
    (idle : ∀ list, items = some list → list = []) :
    bar.setItems measure items = bar.layoutSubviews measure := by
  cases items with
  | none => rfl
  | some list =>
      cases list with
      | nil => rfl
      | cons item rest => cases idle _ rfl

theorem rebuilt_rebuild (bar : ZFUISegmentBar) (items : List String) :
    Rebuilt bar (bar.rebuild items) items.length := by
  have start : Rebuilt bar { bar with items := some items, itemBtns := [] } 0 :=
    ⟨rfl, rfl, rfl, rfl, rfl, nofun, nofun⟩
  have built := start.addButtons items
  rwa [Nat.zero_add] at built

theorem setItems_of_items {items : List String} (nonempty : items ≠ []) :
    bar.setItems measure (some items) = (bar.rebuild items).layoutSubviews measure := by
  cases items with
  | nil => exact absurd rfl nonempty
  | cons item rest => rfl

theorem Rebuilt.inBounds_iff {count : ℕ} (rebuilt : Rebuilt bar after count)
    (nonnegative : 0 ≤ bar.selectedIndex) (positive : 0 < count) :
    after.InBounds ↔ bar.selectedIndex < count := by
  have length : after.itemBtns.length = count := by
    rw [rebuilt.itemBtns, List.length_range']
  have present : after.itemBtns ≠ [] := by
    rw [← List.length_pos_iff, length]
    exact positive
  rw [InBounds, rebuilt.selectedIndex, length]
  constructor
  · intro inside
    exact (inside present).2
  · intro below _
    exact ⟨nonnegative, below⟩

section Selecting

variable (bar) in
theorem itemBtns_btnClick (button : ℕ) : (bar.btnClick button).itemBtns = bar.itemBtns := by
  rw [btnClick, finishClick, scrollTo, selectButton]
  cases (bar.reportSelection button).lastSelectedBtn <;> rfl

variable (bar) in
theorem selectedIndex_btnClick (button : ℕ) :
    (bar.btnClick button).selectedIndex = bar.selectedIndex := by
  rw [btnClick, finishClick, scrollTo, selectButton]
  cases (bar.reportSelection button).lastSelectedBtn <;> rfl

/-- A click turns one highlight on and one off, and leaves the buttons as they are otherwise. -/
theorem buttons_btnClick (bar : ZFUISegmentBar) (button other : ℕ) :
    (bar.btnClick button).buttons other = { bar.buttons other with
      selected := if other = button then true
        else if bar.lastSelectedBtn = some other then false
        else (bar.buttons other).selected } := by
  rw [btnClick, finishClick, scrollTo, selectButton, reportSelection]
  rcases bar.lastSelectedBtn with _ | last
  · by_cases same : other = button
    · simp [modifyButton, same]
    · simp [modifyButton, same]
  · by_cases same : other = button
    · by_cases again : button = last <;> simp [modifyButton, same, again]
    · by_cases again : last = other
      · subst again
        simp [modifyButton, same]
      · simp [modifyButton, same, again, Ne.symm again]

theorem setSelectedIndex_ignored {index : ℤ}
    (outside : ¬(0 ≤ index ∧ index < bar.itemBtns.length)) :
    bar.setSelectedIndex index = some bar := by
  rw [setSelectedIndex, if_pos]
  omega

theorem exists_setSelectedIndex {index : ℤ} (nonnegative : 0 ≤ index)
    (below : index < bar.itemBtns.length) :
    ∃ button, objectAtIndex bar.itemBtns index = some button ∧
      bar.setSelectedIndex index = some ({ bar with selectedIndex := index }.btnClick button) := by
  rcases exists_objectAtIndex_iff.mpr ⟨nonnegative, below⟩ with ⟨button, found⟩
  refine ⟨button, found, ?_⟩
  rw [setSelectedIndex, if_neg, found]
  · rfl
  · omega

end Selecting

/-- The bar is there, and its selected index is in bounds. -/
def IndexSafe (state : Option ZFUISegmentBar) : Prop :=
  ∃ bar, state = some bar ∧ bar.InBounds

/-- An update brings no items or more of them than the selected index. -/
def KeepsIndex (state : Option ZFUISegmentBar) : SegmentAction → Prop
  | .updateSegmentConfig config => ∀ bar items, state = some bar →
      (bar.configured config).itemDatas = some items → items ≠ [] →
      bar.selectedIndex < items.length
  | _ => True

/-- The selected index is not negative, buttons or not. -/
def Nonnegative (state : Option ZFUISegmentBar) : Prop :=
  ∀ bar, state = some bar → 0 ≤ bar.selectedIndex

theorem indexSafe_layoutSubviews_iff :
    IndexSafe (bar.layoutSubviews measure) ↔ bar.InBounds := by
  rw [← exists_layoutSubviews_iff]
  constructor
  · rintro ⟨after, laidOut, _⟩
    exact ⟨after, laidOut⟩
  · rintro ⟨after, laidOut⟩
    have inBounds := exists_layoutSubviews_iff.mp ⟨after, laidOut⟩
    exact ⟨after, laidOut, (relaid_layoutSubviews laidOut).inBounds_iff.mpr inBounds⟩

theorem indexSafe_updateSegmentConfig_iff (inBounds : bar.InBounds)
    (nonnegative : 0 ≤ bar.selectedIndex)
    (config : Option (ZFUISegmentBarConfig → ZFUISegmentBarConfig)) :
    IndexSafe (bar.updateSegmentConfig measure config) ↔
      KeepsIndex (some bar) (.updateSegmentConfig config) := by
  have relaid := Relaid.restyle bar (bar.configured config)
  rw [updateSegmentConfig, KeepsIndex]
  by_cases idle : ∀ items, (bar.configured config).itemDatas = some items → items = []
  · rw [setItems_of_idle idle, indexSafe_layoutSubviews_iff, relaid.inBounds_iff]
    refine iff_of_true inBounds ?_
    intro other items same given nonempty
    cases same
    exact absurd (idle items given) nonempty
  · push Not at idle
    rcases idle with ⟨items, given, nonempty⟩
    rw [← relaid.selectedIndex] at nonnegative
    rw [given, setItems_of_items nonempty, indexSafe_layoutSubviews_iff,
      (rebuilt_rebuild _ items).inBounds_iff nonnegative (List.length_pos_iff.mpr nonempty),
      relaid.selectedIndex]
    constructor
    · intro below other others same sameItems _
      cases same
      cases given.symm.trans sameItems
      exact below
    · intro keeps
      exact keeps bar items rfl given nonempty

theorem indexSafe_setSelectedIndex (inBounds : bar.InBounds) (index : ℤ) :
    IndexSafe (bar.setSelectedIndex index) := by
  by_cases inside : 0 ≤ index ∧ index < bar.itemBtns.length
  · rcases exists_setSelectedIndex inside.1 inside.2 with ⟨button, _, selected⟩
    refine ⟨_, selected, ?_⟩
    rw [InBounds, itemBtns_btnClick, selectedIndex_btnClick]
    intro _
    exact inside
  · exact ⟨bar, setSelectedIndex_ignored inside, inBounds⟩

theorem indexSafe_perform_iff (inBounds : bar.InBounds) (nonnegative : 0 ≤ bar.selectedIndex)
    {action : SegmentAction} (admitted : Admits (some bar) action) :
    IndexSafe (bar.perform measure action) ↔ KeepsIndex (some bar) action := by
  cases action with
  | updateSegmentConfig config =>
      exact indexSafe_updateSegmentConfig_iff inBounds nonnegative config
  | setSelectedIndex index => exact iff_of_true (indexSafe_setSelectedIndex inBounds index) trivial
  | tap position =>
      rcases admitted with ⟨_, same, touched⟩
      cases same
      have inside := touched position rfl
      refine iff_of_true ⟨bar.btnClick bar.itemBtns[position], ?_, ?_⟩ trivial
      · rw [perform, List.getElem?_eq_getElem inside]
        rfl
      · rw [InBounds, itemBtns_btnClick, selectedIndex_btnClick]
        exact inBounds
  | layout frame => exact iff_of_true (indexSafe_layoutSubviews_iff.mpr inBounds) trivial

theorem nonnegative_setItems (nonnegative : 0 ≤ bar.selectedIndex)
    {items : Option (List String)} (set : bar.setItems measure items = some after) :
    0 ≤ after.selectedIndex := by
  by_cases idle : ∀ list, items = some list → list = []
  · rw [setItems_of_idle idle] at set
    rwa [(relaid_layoutSubviews set).selectedIndex]
  · push Not at idle
    rcases idle with ⟨list, rfl, nonempty⟩
    rw [setItems_of_items nonempty] at set
    rwa [(relaid_layoutSubviews set).selectedIndex, (rebuilt_rebuild bar list).selectedIndex]

theorem nonnegative_perform (nonnegative : 0 ≤ bar.selectedIndex) {action : SegmentAction}
    (performed : bar.perform measure action = some after) : 0 ≤ after.selectedIndex := by
  cases action with
  | updateSegmentConfig config =>
      rw [← (Relaid.restyle bar (bar.configured config)).selectedIndex] at nonnegative
      exact nonnegative_setItems nonnegative performed
  | setSelectedIndex index =>
      by_cases inside : 0 ≤ index ∧ index < bar.itemBtns.length
      · rcases exists_setSelectedIndex inside.1 inside.2 with ⟨button, _, selected⟩
        rw [perform, selected, Option.some.injEq] at performed
        rw [← performed, selectedIndex_btnClick]
        exact inside.1
      · rw [perform, setSelectedIndex_ignored inside, Option.some.injEq] at performed
        rwa [← performed]
  | tap position =>
      simp only [perform, Option.map_eq_some_iff] at performed
      rcases performed with ⟨button, _, rfl⟩
      rwa [selectedIndex_btnClick]
  | layout frame =>
      rwa [(relaid_layoutSubviews performed).selectedIndex]

theorem indexSafe_segmentBarWithFrame (frame : CGRect) (items : Option (List String)) :
    IndexSafe (segmentBarWithFrame measure frame items) := by
  rw [segmentBarWithFrame]
  by_cases idle : ∀ list, items = some list → list = []
  · rw [setItems_of_idle idle, indexSafe_layoutSubviews_iff]
    intro present
    exact absurd rfl present
  · push Not at idle
    rcases idle with ⟨list, rfl, nonempty⟩
    have positive := List.length_pos_iff.mpr nonempty
    rw [setItems_of_items nonempty, indexSafe_layoutSubviews_iff,
      (rebuilt_rebuild _ list).inBounds_iff le_rfl positive]
    exact Int.natCast_pos.mpr positive

theorem nonnegative_segmentBarWithFrame (frame : CGRect) (items : Option (List String)) :
    Nonnegative (segmentBarWithFrame measure frame items) := by
  intro bar created
  exact nonnegative_setItems le_rfl created

end ZFUISegmentBar

/-- Every access to the selected button is in bounds all along a run exactly if every update
brings no items or more of them than the selected index. -/
theorem run_indexSafe_iff {measure : UIFont → String → ℚ × ℚ} {frame : CGRect}
    {items : Option (List String)} {actions : List SegmentAction}
    (runs : (segmentSystem measure).Runs
      (ZFUISegmentBar.segmentBarWithFrame measure frame items) actions) :
    (segmentSystem measure).Throughout ZFUISegmentBar.IndexSafe
        (ZFUISegmentBar.segmentBarWithFrame measure frame items) actions ↔
      (segmentSystem measure).Along ZFUISegmentBar.KeepsIndex
        (ZFUISegmentBar.segmentBarWithFrame measure frame items) actions := by
  refine ActionSystem.throughout_iff_along ?_ ?_
    (ZFUISegmentBar.nonnegative_segmentBarWithFrame frame items)
    (ZFUISegmentBar.indexSafe_segmentBarWithFrame frame items) runs
  · rintro state action nonnegative ⟨bar, rfl, _⟩ _ after performed
    exact ZFUISegmentBar.nonnegative_perform (nonnegative bar rfl) performed
  · rintro state action nonnegative ⟨bar, rfl, inBounds⟩ admitted
    exact ZFUISegmentBar.indexSafe_perform_iff inBounds (nonnegative bar rfl) admitted

/-- Every title is as wide as it is long. -/
def measureLetters (_ : UIFont) (title : String) : ℚ × ℚ := (title.length, 20)

/-- The items become these. -/
def reload (items : List String) : SegmentAction :=
  .updateSegmentConfig (some fun config => { config with itemDatas := some items })

/-- The third of three items is selected, then they are replaced by three others. -/
def replaced : List SegmentAction := [.setSelectedIndex 2, reload ["d", "e", "f"], .tap 0]

theorem run_indexSafe_replaced :
    (segmentSystem measureLetters).Throughout ZFUISegmentBar.IndexSafe
      (ZFUISegmentBar.segmentBarWithFrame measureLetters {} (some ["a", "b", "c"])) replaced := by
  have runs : (segmentSystem measureLetters).Runs
      (ZFUISegmentBar.segmentBarWithFrame measureLetters {} (some ["a", "b", "c"])) replaced := by
    refine ⟨⟨_, rfl, nofun⟩, ⟨_, rfl, nofun⟩, ⟨_, rfl, ?_⟩, trivial⟩
    rintro position ⟨⟩
    decide
  refine (run_indexSafe_iff runs).mpr ⟨trivial, ?_, trivial, trivial⟩
  rintro bar items ⟨⟩ ⟨⟩ _
  decide

/-- The third of three items is selected, then one item replaces them. -/
def shortened : List SegmentAction := [.setSelectedIndex 2, reload ["d"]]

theorem shortened_not_indexSafe :
    (segmentSystem measureLetters).Runs
        (ZFUISegmentBar.segmentBarWithFrame measureLetters {} (some ["a", "b", "c"])) shortened ∧
      ¬(segmentSystem measureLetters).Throughout ZFUISegmentBar.IndexSafe
        (ZFUISegmentBar.segmentBarWithFrame measureLetters {} (some ["a", "b", "c"]))
        shortened := by
  refine ⟨⟨⟨_, rfl, nofun⟩, ⟨_, rfl, nofun⟩, trivial⟩, ?_⟩
  rintro ⟨_, _, bar, laidOut, _⟩
  cases laidOut

end ZFBaseFramework
