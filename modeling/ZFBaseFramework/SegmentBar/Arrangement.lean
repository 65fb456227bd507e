import Mathlib.Tactic
import ZFBaseFramework.Library.SideBySide
import ZFBaseFramework.SegmentBar.OneSelection

/-!
# The arrangement of the buttons

Layout puts the buttons of the items side by side with one margin behind each, spread
over the bar where it is wide enough. Clicks change no geometry and every update of the
items lays out, so the buttons are arranged in every state of a run.
-/

namespace ZFBaseFramework

namespace ZFUISegmentBar

/-- The frames of the current buttons, in their order. -/
def frames (bar : ZFUISegmentBar) : List CGRect :=
  bar.itemBtns.map fun button => (bar.buttons button).frame

/-- The titles of the current buttons. -/
def titles (bar : ZFUISegmentBar) : List String :=
  bar.itemBtns.map fun button => (bar.buttons button).title

/-- The widths to which the current buttons fit. -/
def fittingWidths (measure : UIFont → String → ℚ × ℚ) (bar : ZFUISegmentBar) : List ℚ :=
  bar.itemBtns.map fun button => (measure (bar.buttons button).font (bar.buttons button).title).1

/-- Frames of the given widths stand apart in their order with the same gap of at least 30
between neighbours, inside a content that is as wide as they are with a gap for each. -/
structure InOrder (barWidth : ℚ) (widths : List ℚ) (frames : List CGRect) (contentWidth : ℚ) :
    Prop where
  fit : frames.map CGRect.width = widths
  gaps : ∃ gap, 30 ≤ gap ∧
    (frames.IsChain fun frame next => next.x = frame.x + frame.width + gap) ∧
    contentWidth = widths.sum + widths.length * gap
  apart : frames.Pairwise fun frame later => frame.x + frame.width < later.x
  inside : ∀ frame ∈ frames, 0 ≤ frame.x ∧ frame.x + frame.width ≤ contentWidth
  scrolls : barWidth < contentWidth ↔ barWidth < widths.sum + 30 * widths.length

/-- The buttons are those of the items, and they stand in order. -/
def Arranged (measure : UIFont → String → ℚ × ℚ) (state : Option ZFUISegmentBar) : Prop :=
  ∀ bar, state = some bar → bar.itemBtns ≠ [] →
    (∀ width ∈ bar.fittingWidths measure, 0 ≤ width) →
      bar.items = some bar.titles ∧
        InOrder bar.frame.width (bar.fittingWidths measure) bar.frames bar.contentWidth

/-- The left edge and the width of a frame. -/
def extent (frame : CGRect) : ℚ × ℚ := (frame.x, frame.width)

/-- What layout makes of the widths. -/
structure Spaced (measure : UIFont → String → ℚ × ℚ) (bar : ZFUISegmentBar) : Prop where
  extents : bar.frames.map extent =
    SideBySide.boxes (SideBySide.spread 30 bar.frame.width (bar.fittingWidths measure)) 0
      (bar.fittingWidths measure)
  contentWidth : bar.contentWidth =
    SideBySide.total (SideBySide.spread 30 bar.frame.width (bar.fittingWidths measure))
      (bar.fittingWidths measure)
  contentFrame : bar.contentFrame.width = bar.frame.width

section Steps

variable {measure : UIFont → String → ℚ × ℚ} {bar after : ZFUISegmentBar}

theorem Spaced.inOrder (spaced : bar.Spaced measure)
    (nonnegative : ∀ width ∈ bar.fittingWidths measure, 0 ≤ width) :
    InOrder bar.frame.width (bar.fittingWidths measure) bar.frames bar.contentWidth := by
  set widths := bar.fittingWidths measure
  set gap := SideBySide.spread 30 bar.frame.width widths
  have least : 30 ≤ gap := SideBySide.least_le_spread
  have gaps : 0 ≤ gap := by linarith
  refine ⟨?_, ⟨gap, least, ?_, spaced.contentWidth⟩, ?_, ?_, ?_⟩
  · rw [← SideBySide.map_snd_boxes gap 0 widths, ← spaced.extents, List.map_map]
    rfl
  · have chain := SideBySide.isChain_boxes gap 0 widths
    rwa [← spaced.extents, List.isChain_map] at chain
  · have pairs := @SideBySide.pairwise_boxes _ _ _ _ gap 0 widths gaps nonnegative
    rw [← spaced.extents, List.pairwise_map] at pairs
    refine pairs.imp ?_
    intro frame later behind
    simp only [extent] at behind
    linarith
  · intro frame present
    have box : extent frame ∈ SideBySide.boxes gap 0 widths := by
      rw [← spaced.extents]
      exact List.mem_map_of_mem present
    have left := SideBySide.left_le_of_mem_boxes gaps nonnegative box
    have right := SideBySide.right_le_of_mem_boxes gaps nonnegative box
    rw [← spaced.contentWidth] at right
    simp only [extent] at left right
    exact ⟨left, by linarith⟩
  · rw [spaced.contentWidth, SideBySide.lt_total_spread_iff widths bar.frame.width (by norm_num),
      SideBySide.total, mul_comm]

/-- The same items, and buttons with the same titles. -/
structure SameTitles (bar after : ZFUISegmentBar) : Prop where
  itemBtns : after.itemBtns = bar.itemBtns
  items : after.items = bar.items
  title : ∀ button, (after.buttons button).title = (bar.buttons button).title

/-- The same bar and buttons, up to where the buttons stand. -/
structure SameFit (bar after : ZFUISegmentBar) : Prop extends SameTitles bar after where
  frame : after.frame = bar.frame
  contentFrame : after.contentFrame = bar.contentFrame
  font : ∀ button, (after.buttons button).font = (bar.buttons button).font

theorem SameTitles.titles (same : SameTitles bar after) : after.titles = bar.titles := by
  simp only [ZFUISegmentBar.titles, same.itemBtns, same.title]

namespace SameFit

theorem refl (bar : ZFUISegmentBar) : SameFit bar bar :=
  ⟨⟨rfl, rfl, fun _ => rfl⟩, rfl, rfl, fun _ => rfl⟩

theorem trans {middle : ZFUISegmentBar} (first : SameFit bar middle)
    (second : SameFit middle after) : SameFit bar after where
  itemBtns := second.itemBtns.trans first.itemBtns
  items := second.items.trans first.items
  title button := (second.title button).trans (first.title button)
  frame := second.frame.trans first.frame
  contentFrame := second.contentFrame.trans first.contentFrame
  font button := (second.font button).trans (first.font button)

theorem modifyButton (bar : ZFUISegmentBar) (button : ℕ) {change : UIButton → UIButton}
    (title : ∀ button, (change button).title = button.title)
    (font : ∀ button, (change button).font = button.font) :
    SameFit bar (bar.modifyButton button change) := by
  refine ⟨⟨rfl, rfl, ?_⟩, rfl, rfl, ?_⟩
  · intro other
    by_cases same : other = button
    · simp [ZFUISegmentBar.modifyButton, same, title]
    · simp [ZFUISegmentBar.modifyButton, same]
  · intro other
    by_cases same : other = button
    · simp [ZFUISegmentBar.modifyButton, same, font]
    · simp [ZFUISegmentBar.modifyButton, same]

theorem fittingWidths (same : SameFit bar after) :
    after.fittingWidths measure = bar.fittingWidths measure := by
  simp only [ZFUISegmentBar.fittingWidths, same.itemBtns, same.font, same.title]

end SameFit

theorem buttons_modifyButton_of_ne {button other : ℕ} {change : UIButton → UIButton}
    (different : other ≠ button) :
    (bar.modifyButton button change).buttons other = bar.buttons other :=
  Function.update_of_ne different _ _

/-- What is left as it is where nothing is laid out. -/
structure Unmoved (bar after : ZFUISegmentBar) : Prop extends SameFit bar after where
  contentWidth : after.contentWidth = bar.contentWidth
  buttonFrame : ∀ button, (after.buttons button).frame = (bar.buttons button).frame

theorem Spaced.of_unmoved (spaced : bar.Spaced measure) (unmoved : Unmoved bar after) :
    after.Spaced measure := by
  have widths : after.fittingWidths measure = bar.fittingWidths measure :=
    unmoved.toSameFit.fittingWidths
  have same : after.frames = bar.frames := by
    simp only [frames, unmoved.itemBtns, unmoved.buttonFrame]
  refine ⟨?_, ?_, ?_⟩
  · rw [same, widths, unmoved.frame]
    exact spaced.extents
  · rw [unmoved.contentWidth, widths, unmoved.frame]
    exact spaced.contentWidth
  · rw [unmoved.contentFrame, unmoved.frame]
    exact spaced.contentFrame

theorem unmoved_btnClick (bar : ZFUISegmentBar) (button : ℕ) :
    Unmoved bar (bar.btnClick button) := by
  have fields : (bar.btnClick button).items = bar.items ∧
      (bar.btnClick button).frame = bar.frame ∧
      (bar.btnClick button).contentFrame = bar.contentFrame ∧
      (bar.btnClick button).contentWidth = bar.contentWidth := by
    rw [btnClick, finishClick, scrollTo, selectButton]
    cases (bar.reportSelection button).lastSelectedBtn <;> exact ⟨rfl, rfl, rfl, rfl⟩
  rcases fields with ⟨items, frame, contentFrame, contentWidth⟩
  exact ⟨⟨⟨itemBtns_btnClick bar button, items, fun _ => by rw [buttons_btnClick]⟩, frame,
    contentFrame, fun _ => by rw [buttons_btnClick]⟩, contentWidth,
    fun _ => by rw [buttons_btnClick]⟩

theorem unmoved_moveIndicator (bar : ZFUISegmentBar) (button : ℕ) :
    Unmoved bar (bar.moveIndicator button) :=
  ⟨⟨⟨rfl, rfl, fun _ => rfl⟩, rfl, rfl, fun _ => rfl⟩, rfl, fun _ => rfl⟩

section Placing

variable {margin lastBtnX : ℚ} {buttons : List ℕ}

theorem sameFit_placeButtons (margin : ℚ) (buttons : List ℕ) (lastBtnX : ℚ)
    (bar : ZFUISegmentBar) : SameFit bar (placeButtons margin buttons lastBtnX bar) := by
  induction buttons generalizing lastBtnX bar with
  | nil => exact ⟨⟨rfl, rfl, fun _ => rfl⟩, rfl, rfl, fun _ => rfl⟩
  | cons button rest ih =>
      have moved : SameFit bar (bar.modifyButton button fun placed =>
          { placed with frame := (placed.frame.setY 0).setX lastBtnX }) :=
        SameFit.modifyButton bar button (fun _ => rfl) fun _ => rfl
      exact moved.trans (ih _ _)

theorem buttons_placeButtons_of_notMem {button : ℕ} (absent : button ∉ buttons) :
    (placeButtons margin buttons lastBtnX bar).buttons button = bar.buttons button := by
  induction buttons generalizing lastBtnX bar with
  | nil => rfl
  | cons first rest ih =>
      rw [List.mem_cons, not_or] at absent
      rw [placeButtons, ih absent.2, buttons_modifyButton_of_ne absent.1]

theorem extents_placeButtons (nodup : buttons.Nodup) :
    (buttons.map fun button =>
        extent ((placeButtons margin buttons lastBtnX bar).buttons button).frame) =
      SideBySide.boxes margin lastBtnX
        (buttons.map fun button => (bar.buttons button).frame.width) := by
  induction buttons generalizing lastBtnX bar with
  | nil => rfl
  | cons button rest ih =>
      rw [List.nodup_cons] at nodup
      rw [List.map_cons, List.map_cons, SideBySide.boxes, placeButtons, ih nodup.2,
        buttons_placeButtons_of_notMem nodup.1]
      congr 1
      · simp [modifyButton, extent, CGRect.setX, CGRect.setY]
      · congr 1
        apply List.map_congr_left
        intro other present
        rw [buttons_modifyButton_of_ne (ne_of_mem_of_not_mem present nodup.1)]

theorem contentWidth_placeButtons (nodup : buttons.Nodup) :
    (placeButtons margin buttons lastBtnX bar).contentWidth =
      lastBtnX + SideBySide.total margin
        (buttons.map fun button => (bar.buttons button).frame.width) := by
  induction buttons generalizing lastBtnX bar with
  | nil => simp [placeButtons]
  | cons button rest ih =>
      rw [List.nodup_cons] at nodup
      have rest_widths : (rest.map fun other => ((bar.modifyButton button fun placed =>
          { placed with frame := (placed.frame.setY 0).setX lastBtnX }).buttons
            other).frame.width) = rest.map fun other => (bar.buttons other).frame.width := by
        apply List.map_congr_left
        intro other present
        rw [buttons_modifyButton_of_ne (ne_of_mem_of_not_mem present nodup.1)]
      rw [placeButtons, ih nodup.2, rest_widths, List.map_cons, SideBySide.total_cons]
      ring

end Placing

theorem sizeToFit_sizeToFit (measure : UIFont → String → ℚ × ℚ) (button : UIButton) :
    sizeToFit measure (sizeToFit measure button) = sizeToFit measure button := rfl

/-- Each of the listed buttons gets the size of its title, and no other button is touched. -/
theorem buttons_foldl_sizeToFit (measure : UIFont → String → ℚ × ℚ) (buttons : List ℕ)
    (bar : ZFUISegmentBar) (button : ℕ) :
    (buttons.foldl (fun bar button => bar.modifyButton button (sizeToFit measure)) bar).buttons
        button =
      if button ∈ buttons then sizeToFit measure (bar.buttons button) else bar.buttons button := by
  induction buttons generalizing bar with
  | nil => rfl
  | cons first rest ih =>
      rw [List.foldl_cons, ih]
      by_cases same : button = first
      · subst same
        have sized : (bar.modifyButton button (sizeToFit measure)).buttons button =
          sizeToFit measure (bar.buttons button) := Function.update_self ..
        rw [sized, sizeToFit_sizeToFit, ite_self, if_pos List.mem_cons_self]
      · rw [buttons_modifyButton_of_ne same]
        simp only [List.mem_cons, same, false_or]

/-- The bar with its buttons sized, but not yet placed. -/
def fitted (measure : UIFont → String → ℚ × ℚ) (bar : ZFUISegmentBar) : ZFUISegmentBar :=
  bar.itemBtns.foldl (fun bar button => bar.modifyButton button (sizeToFit measure))
    { bar with contentFrame := ⟨0, 0, bar.frame.width, bar.frame.height⟩ }

theorem buttons_fitted (measure : UIFont → String → ℚ × ℚ) {button : ℕ}
    (present : button ∈ bar.itemBtns) :
    (bar.fitted measure).buttons button = sizeToFit measure (bar.buttons button) := by
  rw [fitted, buttons_foldl_sizeToFit, if_pos present]

theorem sameFit_fitted (measure : UIFont → String → ℚ × ℚ) (bar : ZFUISegmentBar) :
    SameFit { bar with contentFrame := ⟨0, 0, bar.frame.width, bar.frame.height⟩ }
      (bar.fitted measure) := by
  have steps (buttons : List ℕ) (bar : ZFUISegmentBar) : SameFit bar
      (buttons.foldl (fun bar button => bar.modifyButton button (sizeToFit measure)) bar) := by
    induction buttons generalizing bar with
    | nil => exact SameFit.refl bar
    | cons button rest ih =>
        have sized : SameFit bar (bar.modifyButton button (sizeToFit measure)) :=
          SameFit.modifyButton bar button (fun _ => rfl) fun _ => rfl
        exact sized.trans (ih _)
  exact steps _ _

theorem widths_fitted (measure : UIFont → String → ℚ × ℚ) (bar : ZFUISegmentBar) :
    ((bar.fitted measure).itemBtns.map fun button =>
        ((bar.fitted measure).buttons button).frame.width) =
      (bar.fitted measure).fittingWidths measure := by
  apply List.map_congr_left
  intro button present
  rw [(sameFit_fitted measure bar).itemBtns] at present
  have sized : (bar.fitted measure).buttons button = sizeToFit measure (bar.buttons button) :=
    buttons_fitted measure present
  rw [sized]
  rfl

theorem arrangeButtons_eq (measure : UIFont → String → ℚ × ℚ) (bar : ZFUISegmentBar) :
    bar.arrangeButtons measure =
      placeButtons (SideBySide.spread 30 (bar.fitted measure).frame.width
        ((bar.fitted measure).fittingWidths measure)) (bar.fitted measure).itemBtns 0
        (bar.fitted measure) := by
  rw [← widths_fitted, SideBySide.spread, List.length_map]
  rfl

theorem sameFit_arrangeButtons (measure : UIFont → String → ℚ × ℚ) (bar : ZFUISegmentBar) :
    SameFit { bar with contentFrame := ⟨0, 0, bar.frame.width, bar.frame.height⟩ }
      (bar.arrangeButtons measure) := by
  rw [arrangeButtons_eq]
  exact (sameFit_fitted measure bar).trans (sameFit_placeButtons _ _ _ _)

theorem spaced_arrangeButtons (measure : UIFont → String → ℚ × ℚ) (nodup : bar.itemBtns.Nodup) :
    (bar.arrangeButtons measure).Spaced measure := by
  have fitted := sameFit_fitted measure bar
  have placed : SameFit (bar.fitted measure) (bar.arrangeButtons measure) := by
    rw [arrangeButtons_eq]
    exact sameFit_placeButtons _ _ _ _
  have distinct : (bar.fitted measure).itemBtns.Nodup := by
    rw [fitted.itemBtns]
    exact nodup
  refine ⟨?_, ?_, ?_⟩
  · rw [placed.fittingWidths, placed.frame, frames, List.map_map, placed.itemBtns,
      arrangeButtons_eq]
    exact (extents_placeButtons distinct).trans (by rw [widths_fitted])
  · rw [placed.fittingWidths, placed.frame, arrangeButtons_eq,
      contentWidth_placeButtons distinct, widths_fitted, zero_add]
  · rw [placed.contentFrame, placed.frame, fitted.contentFrame, fitted.frame]

theorem spaced_layoutSubviews (nodup : bar.itemBtns.Nodup)
    (laidOut : bar.layoutSubviews measure = some after) : after.Spaced measure := by
  have spaced := spaced_arrangeButtons measure nodup
  rw [layoutSubviews] at laidOut
  split at laidOut
  · cases laidOut
    exact spaced
  · rw [Option.map_eq_some_iff] at laidOut
    rcases laidOut with ⟨button, _, rfl⟩
    exact spaced.of_unmoved (unmoved_moveIndicator _ button)

/-- Every button is one of the items. -/
def Titled (bar : ZFUISegmentBar) : Prop :=
  bar.itemBtns ≠ [] → bar.items = some bar.titles

theorem Titled.of_sameTitles (titled : bar.Titled) (same : SameTitles bar after) :
    after.Titled := by
  rw [Titled, same.itemBtns, same.items, same.titles]
  exact titled

theorem titled_layoutSubviews (titled : bar.Titled)
    (laidOut : bar.layoutSubviews measure = some after) : after.Titled := by
  have framed : Titled { bar with contentFrame := ⟨0, 0, bar.frame.width, bar.frame.height⟩ } :=
    titled
  have arranged := framed.of_sameTitles (sameFit_arrangeButtons measure bar).toSameTitles
  rw [layoutSubviews] at laidOut
  split at laidOut
  · cases laidOut
    exact arranged
  · rw [Option.map_eq_some_iff] at laidOut
    rcases laidOut with ⟨button, _, rfl⟩
    exact arranged.of_sameTitles (unmoved_moveIndicator _ button).toSameTitles

theorem titles_addButtons (items : List String)
    (made : ∀ button ∈ bar.itemBtns, button < bar.buttonCount) :
    (items.foldl addButton bar).titles = bar.titles ++ items := by
  induction items generalizing bar with
  | nil => simp
  | cons item rest ih =>
      have added : (bar.addButton item).titles = bar.titles ++ [item] := by
        rw [titles, addButton, List.map_append]
        congr 1
        · apply List.map_congr_left
          intro button present
          exact congrArg UIButton.title (Function.update_of_ne (made button present).ne _ _)
        · simp
      have still : ∀ button ∈ (bar.addButton item).itemBtns,
          button < (bar.addButton item).buttonCount := by
        intro button present
        rw [addButton, List.mem_append, List.mem_singleton] at present
        rcases present with old | rfl
        · exact (made button old).trans (Nat.lt_succ_self _)
        · exact Nat.lt_succ_self _
      rw [List.foldl_cons, ih still, added, List.append_assoc]
      rfl

theorem items_addButtons (items : List String) (bar : ZFUISegmentBar) :
    (items.foldl addButton bar).items = bar.items := by
  induction items generalizing bar with
  | nil => rfl
  | cons item rest ih => exact ih _

theorem titled_rebuild (bar : ZFUISegmentBar) (items : List String) :
    (bar.rebuild items).Titled := by
  intro _
  rw [rebuild, items_addButtons, titles_addButtons _ (by simp)]
  simp [titles]

/-- What every step keeps of a bar. -/
structure WellArranged (measure : UIFont → String → ℚ × ℚ) (bar : ZFUISegmentBar) : Prop where
  built : Built bar
  titled : bar.Titled
  spaced : bar.Spaced measure

theorem wellArranged_layoutSubviews (built : Built bar) (titled : bar.Titled)
    (laidOut : bar.layoutSubviews measure = some after) : after.WellArranged measure :=
  ⟨built_layoutSubviews built laidOut, titled_layoutSubviews titled laidOut,
    spaced_layoutSubviews built.nodup laidOut⟩

theorem wellArranged_setItems (built : Built bar) (titled : bar.Titled)
    {items : Option (List String)} (set : bar.setItems measure items = some after) :
    after.WellArranged measure := by
  by_cases idle : ∀ list, items = some list → list = []
  · rw [setItems_of_idle idle] at set
    exact wellArranged_layoutSubviews built titled set
  · push Not at idle
    rcases idle with ⟨list, rfl, nonempty⟩
    rw [setItems_of_items nonempty] at set
    have inBounds := exists_layoutSubviews_iff.mp ⟨after, set⟩
    exact wellArranged_layoutSubviews (Built.of_rebuilt (fun known => built.made (Or.inr known))
      built.nonnegative (rebuilt_rebuild bar list) inBounds) (titled_rebuild bar list) set

theorem sameTitles_restyle (bar : ZFUISegmentBar) (config : ZFUISegmentBarConfig) :
    SameTitles bar (bar.restyle config) := by
  have steps (buttons : List ℕ) (bar : ZFUISegmentBar) : SameTitles bar
      (buttons.foldl (fun bar button => bar.modifyButton button fun styled =>
        { styled with font := config.itemFont }) bar) := by
    induction buttons generalizing bar with
    | nil => exact ⟨rfl, rfl, fun _ => rfl⟩
    | cons button rest ih =>
        have later := ih (bar.modifyButton button fun styled =>
          { styled with font := config.itemFont })
        refine ⟨later.itemBtns, later.items, ?_⟩
        intro other
        rw [List.foldl_cons, later.title]
        by_cases same : other = button
        · simp [modifyButton, same]
        · rw [buttons_modifyButton_of_ne same]
  have shown := steps bar.itemBtns
    { bar with config, indicatorView := some { bar with config }.indicator }
  exact ⟨shown.itemBtns, shown.items, shown.title⟩

theorem wellArranged_btnClick (arranged : bar.WellArranged measure) {button : ℕ}
    (present : button ∈ bar.itemBtns) : (bar.btnClick button).WellArranged measure := by
  have unmoved := unmoved_btnClick bar button
  exact ⟨arranged.built.of_clicked present (clicked_btnClick bar button),
    arranged.titled.of_sameTitles unmoved.toSameTitles, arranged.spaced.of_unmoved unmoved⟩

theorem wellArranged_perform (arranged : bar.WellArranged measure) {action : SegmentAction}
    (performed : bar.perform measure action = some after) : after.WellArranged measure := by
  cases action with
  | updateSegmentConfig config =>
      have restyled := Relaid.restyle bar (bar.configured config)
      exact wellArranged_setItems (arranged.built.of_relaid restyled)
        (arranged.titled.of_sameTitles (sameTitles_restyle bar _)) performed
  | setSelectedIndex index =>
      by_cases inside : 0 ≤ index ∧ index < bar.itemBtns.length
      · rcases exists_setSelectedIndex inside.1 inside.2 with ⟨button, found, selected⟩
        rw [perform, selected, Option.some.injEq] at performed
        rw [← performed]
        have built := arranged.built
        have moved : WellArranged measure { bar with selectedIndex := index } :=
          ⟨⟨fun _ => inside, inside.1, built.nodup, built.tag, built.made, built.highlighted⟩,
            arranged.titled, ⟨arranged.spaced.extents, arranged.spaced.contentWidth,
              arranged.spaced.contentFrame⟩⟩
        exact wellArranged_btnClick moved
          (List.mem_of_getElem? (objectAtIndex_eq_some_iff.mp found).2)
      · rw [perform, setSelectedIndex_ignored inside, Option.some.injEq] at performed
        rwa [← performed]
  | tap position =>
      simp only [perform, Option.map_eq_some_iff] at performed
      rcases performed with ⟨button, placed, rfl⟩
      exact wellArranged_btnClick arranged (List.mem_of_getElem? placed)
  | layout frame =>
      have framed : Relaid bar { bar with frame } :=
        ⟨rfl, rfl, rfl, rfl, rfl, fun _ => rfl, fun _ => rfl⟩
      exact wellArranged_layoutSubviews (arranged.built.of_relaid framed) arranged.titled performed

theorem reachable_wellArranged {frame : CGRect} {items : Option (List String)}
    {state : Option ZFUISegmentBar}
    (reachable : (segmentSystem measure).Reachable (segmentBarWithFrame measure frame items) state)
    (present : state = some bar) : bar.WellArranged measure := by
  have preserves : (segmentSystem measure).Preserves fun state =>
      ∀ bar, state = some bar → bar.WellArranged measure := by
    rintro state action arranged ⟨bar, rfl, _⟩ after performed
    exact wellArranged_perform (arranged bar rfl) performed
  refine preserves.reachable ?_ reachable bar present
  intro created same
  exact wellArranged_setItems (built_empty frame) (fun none => absurd rfl none) same

end Steps

end ZFUISegmentBar

end ZFBaseFramework
