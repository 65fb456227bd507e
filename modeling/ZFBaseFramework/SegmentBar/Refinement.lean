import Mathlib.Tactic
import ZFBaseFramework.SegmentBar.Strip

/-!
# The segment bar shows its strip

`Reads` relates a bar to a strip as far as layout does not matter, and `Shows` adds what
layout establishes. Layout leads from the one to the other, clicks keep the second, and
the remaining methods are changes after which the bar is laid out.
-/

namespace ZFBaseFramework

namespace ZFUISegmentBar

/-- What can be seen of a bar; the indicator is under some button. -/
def view (bar : ZFUISegmentBar) : SegmentView where
  buttons := bar.itemBtns.map fun button =>
    ((bar.buttons button).title, (bar.buttons button).frame, (bar.buttons button).selected)
  indicator := if bar.itemBtns = [] then none else bar.indicatorView
  contentFrame := bar.contentFrame
  contentWidth := bar.contentWidth
  contentOffset := bar.contentOffset
  selectedIndex := bar.selectedIndex
  reports := bar.reports

/-- The bar has what the strip remembers, laid out or not. -/
structure Reads (bar : ZFUISegmentBar) (strip : SegmentStrip) : Prop where
  built : bar.InBounds → Built bar
  titled : bar.Titled
  nodup : bar.itemBtns.Nodup
  frame : strip.frame = bar.frame
  config : strip.config = bar.config
  titles : strip.titles = bar.titles
  selectedIndex : strip.selectedIndex = bar.selectedIndex
  contentOffset : strip.contentOffset = bar.contentOffset
  reports : strip.reports = bar.reports
  lastIndex : strip.lastIndex =
    (bar.lastSelectedBtn.map fun last => (bar.buttons last).tag).getD 0
  highlighted : ∀ {position button}, bar.itemBtns[position]? = some button →
    ((bar.buttons button).selected = true ↔ strip.highlighted = some position)
  font : ∀ button ∈ bar.itemBtns, (bar.buttons button).font = bar.config.itemFont

/-- The bar is laid out as the strip says. -/
structure Shows (measure : UIFont → String → ℚ × ℚ) (bar : ZFUISegmentBar)
    (strip : SegmentStrip) : Prop extends Reads bar strip where
  inBounds : bar.InBounds
  spaced : bar.Spaced measure
  contentFrame : bar.contentFrame = ⟨0, 0, bar.frame.width, bar.frame.height⟩
  level : ∀ button ∈ bar.itemBtns, (bar.buttons button).frame.y = 0 ∧
    (bar.buttons button).frame.height =
      (measure (bar.buttons button).font (bar.buttons button).title).2
  marked : bar.itemBtns ≠ [] → ∃ button, bar.itemBtns[strip.marked]? = some button ∧
    bar.indicatorView =
      some (bar.frame.indicatorUnder bar.config (bar.buttons button).frame)

section Steps

variable {measure : UIFont → String → ℚ × ℚ} {bar after : ZFUISegmentBar} {strip : SegmentStrip}
  {button position : ℕ}

section Geometry

/-- What only the owner of a bar and clicks change. -/
structure SameSettings (bar after : ZFUISegmentBar) : Prop where
  frame : after.frame = bar.frame
  config : after.config = bar.config
  contentOffset : after.contentOffset = bar.contentOffset

theorem sameSettings_modifyButtons (change : UIButton → UIButton) (buttons : List ℕ)
    (bar : ZFUISegmentBar) :
    SameSettings bar (buttons.foldl (fun bar button => bar.modifyButton button change) bar) := by
  induction buttons generalizing bar with
  | nil => exact ⟨rfl, rfl, rfl⟩
  | cons button rest ih => exact ⟨(ih _).frame, (ih _).config, (ih _).contentOffset⟩

theorem sameSettings_placeButtons (margin : ℚ) (buttons : List ℕ) (lastBtnX : ℚ)
    (bar : ZFUISegmentBar) : SameSettings bar (placeButtons margin buttons lastBtnX bar) := by
  induction buttons generalizing lastBtnX bar with
  | nil => exact ⟨rfl, rfl, rfl⟩
  | cons button rest ih => exact ⟨(ih _ _).frame, (ih _ _).config, (ih _ _).contentOffset⟩

theorem sameSettings_arrangeButtons (measure : UIFont → String → ℚ × ℚ) (bar : ZFUISegmentBar) :
    SameSettings bar (bar.arrangeButtons measure) := by
  have fitted : SameSettings { bar with
      contentFrame := ⟨0, 0, bar.frame.width, bar.frame.height⟩ } (bar.fitted measure) :=
    sameSettings_modifyButtons _ _ _
  have placed := sameSettings_placeButtons (SideBySide.spread 30 (bar.fitted measure).frame.width
    ((bar.fitted measure).fittingWidths measure)) (bar.fitted measure).itemBtns 0
    (bar.fitted measure)
  rw [arrangeButtons_eq]
  exact ⟨placed.frame.trans fitted.frame, placed.config.trans fitted.config,
    placed.contentOffset.trans fitted.contentOffset⟩

/-- A button that is on the base line with the height of its title. -/
def Tall (measure : UIFont → String → ℚ × ℚ) (bar : ZFUISegmentBar) (button : ℕ) : Prop :=
  (bar.buttons button).frame.height =
    (measure (bar.buttons button).font (bar.buttons button).title).2

/-- Placing changes no heights, and puts the placed buttons on the base line. -/
theorem level_placeButtons (margin : ℚ) (buttons : List ℕ) (lastBtnX : ℚ) (bar : ZFUISegmentBar)
    (button : ℕ) :
    ((placeButtons margin buttons lastBtnX bar).buttons button).frame.height =
        (bar.buttons button).frame.height ∧
      (button ∈ buttons ∨ (bar.buttons button).frame.y = 0 →
        ((placeButtons margin buttons lastBtnX bar).buttons button).frame.y = 0) := by
  induction buttons generalizing lastBtnX bar with
  | nil => exact ⟨rfl, fun known => known.resolve_left List.not_mem_nil⟩
  | cons first rest ih =>
      have later := ih (lastBtnX + (bar.buttons first).frame.width + margin)
        (bar.modifyButton first fun placed =>
          { placed with frame := (placed.frame.setY 0).setX lastBtnX })
      rw [placeButtons]
      by_cases same : button = first
      · subst same
        refine ⟨later.1.trans ?_, fun _ => later.2 (Or.inr ?_)⟩
        · simp [modifyButton, CGRect.setX, CGRect.setY]
        · simp [modifyButton, CGRect.setX, CGRect.setY]
      · rw [buttons_modifyButton_of_ne same] at later
        refine ⟨later.1, fun known => later.2 ?_⟩
        rw [List.mem_cons] at known
        rcases known with (first | behind) | base
        · exact absurd first same
        · exact Or.inl behind
        · exact Or.inr base

theorem level_arrangeButtons (measure : UIFont → String → ℚ × ℚ) (bar : ZFUISegmentBar)
    (present : button ∈ bar.itemBtns) :
    ((bar.arrangeButtons measure).buttons button).frame.y = 0 ∧
      (bar.arrangeButtons measure).Tall measure button := by
  have fitted := sameFit_fitted measure bar
  have placed := sameFit_placeButtons (SideBySide.spread 30 (bar.fitted measure).frame.width
    ((bar.fitted measure).fittingWidths measure)) (bar.fitted measure).itemBtns 0
    (bar.fitted measure)
  have level := level_placeButtons (SideBySide.spread 30 (bar.fitted measure).frame.width
    ((bar.fitted measure).fittingWidths measure)) (bar.fitted measure).itemBtns 0
    (bar.fitted measure) button
  have tall : (bar.fitted measure).Tall measure button := by
    rw [Tall, buttons_fitted measure present]
    rfl
  rw [arrangeButtons_eq]
  refine ⟨level.2 (Or.inl ?_), ?_⟩
  · rw [fitted.itemBtns]
    exact present
  · rw [Tall, level.1, placed.font, placed.title]
    exact tall

end Geometry

/-- Only what a strip remembers matters to it. -/
theorem Reads.of_same (reads : Reads bar strip) (relaid : Relaid bar after)
    (titles : SameTitles bar after) (settings : SameSettings bar after)
    (font : ∀ button, (after.buttons button).font = (bar.buttons button).font) :
    Reads after strip where
  built inBounds := (reads.built (relaid.inBounds_iff.mp inBounds)).of_relaid relaid
  titled := reads.titled.of_sameTitles titles
  nodup := relaid.itemBtns ▸ reads.nodup
  frame := reads.frame.trans settings.frame.symm
  config := reads.config.trans settings.config.symm
  titles := reads.titles.trans titles.titles.symm
  selectedIndex := reads.selectedIndex.trans relaid.selectedIndex.symm
  contentOffset := reads.contentOffset.trans settings.contentOffset.symm
  reports := reads.reports.trans relaid.reports.symm
  lastIndex := by
    rw [reads.lastIndex, relaid.lastSelectedBtn]
    simp only [relaid.tag]
  highlighted := by
    intro position button placed
    rw [relaid.itemBtns] at placed
    rw [relaid.selected]
    exact reads.highlighted placed
  font := by
    intro button present
    rw [relaid.itemBtns] at present
    rw [font, settings.config]
    exact reads.font button present

theorem Reads.mark (reads : Reads bar strip) (marked : ℕ) :
    Reads bar { strip with marked } :=
  ⟨reads.built, reads.titled, reads.nodup, reads.frame, reads.config, reads.titles,
    reads.selectedIndex, reads.contentOffset, reads.reports, reads.lastIndex, reads.highlighted,
    reads.font⟩

theorem Reads.arrangeButtons (reads : Reads bar strip) (measure : UIFont → String → ℚ × ℚ) :
    Reads (bar.arrangeButtons measure) strip := by
  have fit := sameFit_arrangeButtons measure bar
  exact reads.of_same (Relaid.arrangeButtons measure bar)
    ⟨fit.itemBtns, fit.items, fit.title⟩ (sameSettings_arrangeButtons measure bar) fit.font

theorem Reads.moveIndicator (reads : Reads bar strip) (button : ℕ) :
    Reads (bar.moveIndicator button) strip :=
  reads.of_same (Relaid.moveIndicator bar button)
    (unmoved_moveIndicator bar button).toSameTitles ⟨rfl, rfl, rfl⟩ fun _ => rfl

theorem indicatorView_moveIndicator (bar : ZFUISegmentBar) (button : ℕ) :
    (bar.moveIndicator button).indicatorView =
      some (bar.frame.indicatorUnder bar.config (bar.buttons button).frame) := rfl

/-- Layout raises an exception exactly if the strip does not settle, and leads to a bar that
shows the settled strip. -/
theorem shows_layoutSubviews (reads : Reads bar strip) :
    Option.Rel (Shows measure) (bar.layoutSubviews measure) strip.settle := by
  have arranged := reads.arrangeButtons measure
  have relaid := Relaid.arrangeButtons measure bar
  have fit := sameFit_arrangeButtons measure bar
  have length : strip.titles.length = bar.itemBtns.length := by
    rw [reads.titles, ZFUISegmentBar.titles, List.length_map]
  have level : ∀ button ∈ (bar.arrangeButtons measure).itemBtns,
      ((bar.arrangeButtons measure).buttons button).frame.y = 0 ∧
        (bar.arrangeButtons measure).Tall measure button := by
    intro button present
    rw [relaid.itemBtns] at present
    exact level_arrangeButtons measure bar present
  have spaced := spaced_arrangeButtons measure reads.nodup
  have contentFrame : (bar.arrangeButtons measure).contentFrame =
      ⟨0, 0, (bar.arrangeButtons measure).frame.width,
        (bar.arrangeButtons measure).frame.height⟩ := by
    rw [fit.contentFrame, fit.frame]
  rw [layoutSubviews, SegmentStrip.settle]
  by_cases empty : bar.itemBtns = []
  · have untitled : strip.titles = [] := by
      rw [← List.length_eq_zero_iff, length, empty]
      rfl
    rw [if_pos untitled, relaid.itemBtns, empty, if_pos List.length_nil]
    apply Option.Rel.some
    refine ⟨arranged, ?_, spaced, contentFrame, level, ?_⟩
    · intro present
      rw [relaid.itemBtns] at present
      exact absurd empty present
    · intro present
      rw [relaid.itemBtns] at present
      exact absurd empty present
  · have titled : strip.titles ≠ [] := by
      rw [← List.length_pos_iff, length, List.length_pos_iff]
      exact empty
    rw [if_neg titled, relaid.itemBtns, if_neg (by rwa [List.length_eq_zero_iff]),
      relaid.selectedIndex, ← reads.selectedIndex, length]
    split
    · rename_i inside
      rcases exists_objectAtIndex_iff.mpr inside with ⟨button, found⟩
      rw [found, Option.map_some]
      apply Option.Rel.some
      have inBounds : (bar.arrangeButtons measure).InBounds := by
        rw [relaid.inBounds_iff, InBounds, ← reads.selectedIndex]
        exact fun _ => inside
      refine ⟨(arranged.moveIndicator button).mark _, inBounds,
        spaced.of_unmoved (unmoved_moveIndicator _ button), contentFrame, level, ?_⟩
      intro _
      refine ⟨button, ?_, indicatorView_moveIndicator _ button⟩
      change (bar.arrangeButtons measure).itemBtns[_]? = _
      rw [relaid.itemBtns]
      exact (objectAtIndex_eq_some_iff.mp found).2
    · rename_i outside
      have absent : objectAtIndex bar.itemBtns strip.selectedIndex = none := by
        by_contra present
        exact outside (exists_objectAtIndex_iff.mp (Option.ne_none_iff_exists'.mp present))
      rw [absent]
      exact Option.Rel.none

section Shown

variable (shows : Shows measure bar strip)

include shows

theorem Shows.fittingWidths : strip.widths measure = bar.fittingWidths measure := by
  rw [SegmentStrip.widths, shows.titles, shows.config, ZFUISegmentBar.titles, List.map_map,
    ZFUISegmentBar.fittingWidths]
  apply List.map_congr_left
  intro button present
  rw [shows.font button present]
  rfl

theorem Shows.frames : strip.frames measure = bar.frames := by
  have heights : strip.heights measure = bar.frames.map CGRect.height := by
    rw [SegmentStrip.heights, shows.titles, shows.config, ZFUISegmentBar.titles, List.map_map,
      ZFUISegmentBar.frames, List.map_map]
    apply List.map_congr_left
    intro button present
    have tall := (shows.level button present).2
    rw [shows.font button present] at tall
    exact tall.symm
  have base : ∀ frame ∈ bar.frames, frame.y = 0 := by
    intro frame present
    rcases List.mem_map.mp present with ⟨button, listed, rfl⟩
    exact (shows.level button listed).1
  rw [SegmentStrip.frames, SegmentStrip.gap, shows.fittingWidths, shows.frame,
    ← shows.spaced.extents, heights, List.zipWith_map, List.zipWith_self]
  calc bar.frames.map (fun frame => ⟨(extent frame).1, 0, (extent frame).2, frame.height⟩)
      = bar.frames.map id := by
        apply List.map_congr_left
        intro frame present
        simp [extent, ← base frame present]
    _ = bar.frames := List.map_id _

theorem Shows.contentWidth : strip.contentWidth measure = bar.contentWidth := by
  rw [SegmentStrip.contentWidth, SegmentStrip.gap, shows.fittingWidths, shows.frame,
    shows.spaced.contentWidth]

theorem Shows.length : strip.titles.length = bar.itemBtns.length := by
  rw [shows.titles, ZFUISegmentBar.titles, List.length_map]

theorem Shows.frame_getElem? (placed : bar.itemBtns[position]? = some button) :
    (strip.frames measure)[position]? = some (bar.buttons button).frame := by
  rw [shows.frames, ZFUISegmentBar.frames, List.getElem?_map, placed, Option.map_some]

theorem Shows.highlights : strip.highlights =
    bar.itemBtns.map fun button => (bar.buttons button).selected := by
  apply List.ext_getElem?
  intro position
  rw [SegmentStrip.highlights, List.getElem?_map, List.getElem?_map]
  by_cases inside : position < bar.itemBtns.length
  · have placed := List.getElem?_eq_getElem inside
    rw [List.getElem?_range (by rwa [shows.length]), placed, Option.map_some, Option.map_some,
      Option.some.injEq, Bool.eq_iff_iff, decide_eq_true_iff]
    exact (shows.highlighted placed).symm
  · rw [List.getElem?_eq_none (by rw [List.length_range, shows.length]; omega),
      List.getElem?_eq_none (by omega)]
    rfl

/-- What is seen of a bar is what its strip says. -/
theorem Shows.view : bar.view = strip.view measure := by
  have indicator : (if bar.itemBtns = [] then none else bar.indicatorView) =
      (strip.frames measure)[strip.marked]?.map (strip.frame.indicatorUnder strip.config) := by
    split
    · rename_i empty
      rw [shows.frames, ZFUISegmentBar.frames, empty]
      rfl
    · rename_i present
      rcases shows.marked present with ⟨button, placed, under⟩
      rw [shows.frame_getElem? placed, Option.map_some, under, shows.frame, shows.config]
  have buttons : (bar.itemBtns.map fun button =>
      ((bar.buttons button).title, (bar.buttons button).frame, (bar.buttons button).selected)) =
        strip.titles.zip ((strip.frames measure).zip strip.highlights) := by
    rw [shows.titles, shows.frames, shows.highlights, ZFUISegmentBar.titles,
      ZFUISegmentBar.frames, List.zip_map', List.zip_map']
  rw [ZFUISegmentBar.view, SegmentStrip.view, indicator, buttons, shows.contentFrame,
    ← shows.contentWidth, shows.frame, shows.contentOffset, shows.selectedIndex, shows.reports]

end Shown

section Clicking

/-- What a click does besides highlighting its button. -/
structure ClickedOn (bar after : ZFUISegmentBar) (button : ℕ) : Prop where
  config : after.config = bar.config
  reports : after.reports = ⟨(bar.buttons button).tag,
    (bar.lastSelectedBtn.map fun last => (bar.buttons last).tag).getD 0⟩ :: bar.reports
  indicatorView : after.indicatorView = some ((bar.indicator.setWidth
    ((bar.buttons button).frame.width + bar.config.indicatorSB * 2)).setCenterX
      (bar.buttons button).frame.centerX)

theorem indicatorView_btnClick (bar : ZFUISegmentBar) (button : ℕ) :
    (bar.btnClick button).indicatorView = some ((bar.indicator.setWidth
      (((bar.btnClick button).buttons button).frame.width + bar.config.indicatorSB * 2)).setCenterX
        ((bar.btnClick button).buttons button).frame.centerX) := by
  rw [btnClick, finishClick, scrollTo, selectButton]
  cases (bar.reportSelection button).lastSelectedBtn <;> rfl

theorem clickedOn_btnClick (bar : ZFUISegmentBar) (button : ℕ) :
    ClickedOn bar (bar.btnClick button) button := by
  constructor
  · rw [btnClick, finishClick, scrollTo, selectButton]
    cases (bar.reportSelection button).lastSelectedBtn <;> rfl
  · rw [btnClick, finishClick, scrollTo, selectButton]
    cases (bar.reportSelection button).lastSelectedBtn <;> rfl
  · rw [indicatorView_btnClick, (unmoved_btnClick bar button).buttonFrame]

/-- The indicator comes from under one button to under another on its level. -/
theorem indicatorUnder_moved (bar : CGRect) (config : ZFUISegmentBarConfig)
    (button other : CGRect) :
    (((bar.indicatorUnder config other).setWidth
      (button.width + config.indicatorSB * 2)).setCenterX button.centerX) =
        bar.indicatorUnder config button := rfl

theorem Shows.btnClick (shows : Shows measure bar strip)
    (placed : bar.itemBtns[position]? = some button) :
    Shows measure (bar.btnClick button) (strip.click measure position) := by
  have built := shows.built shows.inBounds
  have present : button ∈ bar.itemBtns := List.mem_of_getElem? placed
  have clicked := clicked_btnClick bar button
  have on := clickedOn_btnClick bar button
  have unmoved := unmoved_btnClick bar button
  have later := built.of_clicked present clicked
  constructor
  case toReads =>
    constructor
    case built => exact fun _ => later
    case titled => exact shows.titled.of_sameTitles unmoved.toSameTitles
    case nodup => exact later.nodup
    case frame => exact shows.frame.trans unmoved.frame.symm
    case config => exact shows.config.trans on.config.symm
    case titles => exact shows.titles.trans unmoved.toSameTitles.titles.symm
    case selectedIndex => exact shows.selectedIndex.trans clicked.selectedIndex.symm
    case contentOffset =>
      rw [contentOffset_btnClick, centringOffset, ← shows.contentWidth, shows.contentFrame,
        ← shows.frame]
      simp only [SegmentStrip.click, SegmentStrip.offsetFor, shows.frame_getElem? placed,
        Option.map_some, Option.getD_some]
    case reports =>
      rw [on.reports, built.tag placed, ← shows.lastIndex, ← shows.reports]
      rfl
    case lastIndex =>
      rw [clicked.lastSelectedBtn, Option.map_some, Option.getD_some, clicked.tag,
        built.tag placed]
      rfl
    case highlighted =>
      intro other otherButton otherPlaced
      rw [clicked.itemBtns] at otherPlaced
      rw [built.selected_iff clicked (List.mem_of_getElem? otherPlaced)]
      change otherButton = button ↔ some position = some other
      rw [Option.some.injEq]
      constructor
      · rintro rfl
        rw [← built.tag placed, built.tag otherPlaced]
      · rintro rfl
        exact Option.some.inj (otherPlaced.symm.trans placed)
    case font =>
      intro other otherPresent
      rw [clicked.itemBtns] at otherPresent
      rw [unmoved.font, on.config]
      exact shows.font other otherPresent
  case inBounds => exact later.inBounds
  case spaced => exact shows.spaced.of_unmoved unmoved
  case contentFrame => rw [unmoved.contentFrame, unmoved.frame, shows.contentFrame]
  case level =>
    intro other otherPresent
    rw [clicked.itemBtns] at otherPresent
    rw [unmoved.buttonFrame, unmoved.font, unmoved.title]
    exact shows.level other otherPresent
  case marked =>
    intro _
    refine ⟨button, ?_, ?_⟩
    · rw [clicked.itemBtns]
      exact placed
    · rcases shows.marked (List.ne_nil_of_mem present) with ⟨old, _, under⟩
      rw [on.indicatorView, indicator, under, Option.getD_some, indicatorUnder_moved,
        unmoved.frame, on.config, unmoved.buttonFrame]

end Clicking

section Updating

theorem font_modifyButtons {font : UIFont} {buttons : List ℕ}
    (known : button ∈ buttons ∨ (bar.buttons button).font = font) :
    ((buttons.foldl (fun bar button => bar.modifyButton button fun styled =>
      { styled with font }) bar).buttons button).font = font := by
  induction buttons generalizing bar with
  | nil => exact known.resolve_left List.not_mem_nil
  | cons first rest ih =>
      apply ih
      by_cases same : button = first
      · right
        subst same
        simp [modifyButton]
      · rw [List.mem_cons] at known
        rcases known with (first | later) | styled
        · exact absurd first same
        · exact Or.inl later
        · right
          rwa [buttons_modifyButton_of_ne same]

theorem Reads.restyle (reads : Reads bar strip) (config : ZFUISegmentBarConfig) :
    Reads (bar.restyle config) { strip with config } := by
  have relaid := Relaid.restyle bar config
  have titles := sameTitles_restyle bar config
  have settings := sameSettings_modifyButtons
    (fun styled => { styled with font := config.itemFont }) bar.itemBtns
    { bar with config, indicatorView := some { bar with config }.indicator }
  constructor
  case built => exact fun inBounds =>
    (reads.built (relaid.inBounds_iff.mp inBounds)).of_relaid relaid
  case titled => exact reads.titled.of_sameTitles titles
  case nodup => exact relaid.itemBtns ▸ reads.nodup
  case frame => exact reads.frame.trans settings.frame.symm
  case config => exact settings.config.symm
  case titles => exact reads.titles.trans titles.titles.symm
  case selectedIndex => exact reads.selectedIndex.trans relaid.selectedIndex.symm
  case contentOffset => exact reads.contentOffset.trans settings.contentOffset.symm
  case reports => exact reads.reports.trans relaid.reports.symm
  case lastIndex =>
    rw [relaid.lastSelectedBtn]
    simp only [relaid.tag]
    exact reads.lastIndex
  case highlighted =>
    intro position button placed
    rw [relaid.itemBtns] at placed
    rw [relaid.selected]
    exact reads.highlighted placed
  case font =>
    intro button present
    rw [relaid.itemBtns] at present
    have config_eq : (bar.restyle config).config = config := settings.config
    rw [config_eq]
    exact font_modifyButtons (Or.inl present)

/-- New buttons come behind those that were made before, which stay as they are. -/
theorem buttons_addButtons (items : List String) (bar : ZFUISegmentBar)
    (made : button < bar.buttonCount) :
    (items.foldl addButton bar).buttons button = bar.buttons button := by
  induction items generalizing bar with
  | nil => rfl
  | cons item rest ih =>
      rw [List.foldl_cons, ih _ (made.trans (Nat.lt_succ_self _))]
      exact Function.update_of_ne made.ne _ _

theorem sameSettings_addButtons (items : List String) (bar : ZFUISegmentBar) :
    SameSettings bar (items.foldl addButton bar) := by
  induction items generalizing bar with
  | nil => exact ⟨rfl, rfl, rfl⟩
  | cons item rest ih => exact ⟨(ih _).frame, (ih _).config, (ih _).contentOffset⟩

theorem font_addButtons (items : List String) (bar : ZFUISegmentBar)
    (known : ∀ button ∈ bar.itemBtns, button < bar.buttonCount ∧
      (bar.buttons button).font = bar.config.itemFont)
    (present : button ∈ (items.foldl addButton bar).itemBtns) :
    ((items.foldl addButton bar).buttons button).font = bar.config.itemFont := by
  induction items generalizing bar with
  | nil => exact (known button present).2
  | cons item rest ih =>
      refine ih (bar.addButton item) ?_ present
      intro other listed
      rw [addButton, List.mem_append, List.mem_singleton] at listed
      rcases listed with old | rfl
      · rcases known other old with ⟨made, font⟩
        exact ⟨made.trans (Nat.lt_succ_self _),
          (congrArg UIButton.font (Function.update_of_ne made.ne _ _)).trans font⟩
      · have made : (bar.addButton item).buttons bar.buttonCount = _ := Function.update_self _ _ _
        rw [made]
        exact ⟨Nat.lt_succ_self _, rfl⟩

theorem Reads.rebuild (reads : Reads bar strip) (inBounds : bar.InBounds) (items : List String) :
    Reads (bar.rebuild items) { strip with titles := items, highlighted := none } := by
  have built := reads.built inBounds
  have rebuilt := rebuilt_rebuild bar items
  have settings := sameSettings_addButtons items { bar with items := some items, itemBtns := [] }
  constructor
  case built => exact fun later =>
    Built.of_rebuilt (fun known => built.made (Or.inr known)) built.nonnegative rebuilt later
  case titled => exact titled_rebuild bar items
  case nodup =>
    rw [rebuilt.itemBtns]
    exact List.nodup_range'
  case frame => exact reads.frame.trans settings.frame.symm
  case config => exact reads.config.trans settings.config.symm
  case titles =>
    rw [ZFUISegmentBar.rebuild, titles_addButtons _ (by simp)]
    simp [ZFUISegmentBar.titles]
  case selectedIndex => exact reads.selectedIndex.trans rebuilt.selectedIndex.symm
  case contentOffset => exact reads.contentOffset.trans settings.contentOffset.symm
  case reports => exact reads.reports.trans rebuilt.reports.symm
  case lastIndex =>
    rw [rebuilt.lastSelectedBtn]
    change strip.lastIndex = _
    rw [reads.lastIndex]
    cases last : bar.lastSelectedBtn with
    | none => rfl
    | some button =>
        rw [Option.map_some, Option.map_some, ZFUISegmentBar.rebuild,
          buttons_addButtons items { bar with items := some items, itemBtns := [] }
            (built.made (Or.inr last))]
  case highlighted =>
    intro position button placed
    rw [rebuilt.itemBtns] at placed
    rcases List.getElem?_eq_some_iff.mp placed with ⟨below, value⟩
    rw [List.length_range'] at below
    rw [List.getElem_range', Nat.one_mul] at value
    rw [← value, rebuilt.selected position below]
    simp
  case font =>
    intro button present
    have config_eq : (bar.rebuild items).config = bar.config := settings.config
    rw [config_eq]
    apply font_addButtons items { bar with items := some items, itemBtns := [] } _ present
    rintro button ⟨⟩

/-- Setting the items brings the bar to what the strip makes of them. -/
theorem shows_setItems (reads : Reads bar strip) (inBounds : bar.InBounds)
    (items : Option (List String)) :
    Option.Rel (Shows measure) (bar.setItems measure items) (strip.retitle items).settle := by
  match items with
  | none => exact shows_layoutSubviews reads
  | some [] => exact shows_layoutSubviews reads
  | some (item :: rest) => exact shows_layoutSubviews (reads.rebuild inBounds (item :: rest))

end Updating

theorem Shows.configured (shows : Shows measure bar strip)
    (config : Option (ZFUISegmentBarConfig → ZFUISegmentBarConfig)) :
    strip.configured config = bar.configured config := by
  cases config with
  | none => exact shows.config
  | some block => exact congrArg block shows.config

theorem Shows.selectIndex (shows : Shows measure bar strip) {index : ℤ}
    (inside : 0 ≤ index ∧ index < bar.itemBtns.length) :
    Shows measure { bar with selectedIndex := index } { strip with selectedIndex := index } := by
  have built := shows.built shows.inBounds
  have moved : Built { bar with selectedIndex := index } :=
    ⟨fun _ => inside, inside.1, built.nodup, built.tag, built.made, built.highlighted⟩
  have reads : Reads { bar with selectedIndex := index } { strip with selectedIndex := index } :=
    ⟨fun _ => moved, shows.titled, shows.nodup, shows.frame, shows.config, shows.titles, rfl,
      shows.contentOffset, shows.reports, shows.lastIndex, shows.highlighted, shows.font⟩
  exact ⟨reads, fun _ => inside, ⟨shows.spaced.extents, shows.spaced.contentWidth,
    shows.spaced.contentFrame⟩, shows.contentFrame, shows.level, shows.marked⟩

theorem Shows.perform (shows : Shows measure bar strip) {action : SegmentAction}
    (touched : ∀ position, action = .tap position → position < bar.itemBtns.length) :
    Option.Rel (Shows measure) (bar.perform measure action) (strip.perform measure action) := by
  cases action with
  | updateSegmentConfig config =>
      have restyled := shows.toReads.restyle (bar.configured config)
      rw [ZFUISegmentBar.perform, SegmentStrip.perform, updateSegmentConfig,
        shows.configured config]
      exact shows_setItems restyled
        ((Relaid.restyle bar (bar.configured config)).inBounds_iff.mpr shows.inBounds) _
  | setSelectedIndex index =>
      rw [ZFUISegmentBar.perform, SegmentStrip.perform, shows.length]
      by_cases inside : 0 ≤ index ∧ index < bar.itemBtns.length
      · rcases exists_setSelectedIndex inside.1 inside.2 with ⟨button, found, selected⟩
        rw [selected, if_pos inside]
        apply Option.Rel.some
        exact (shows.selectIndex inside).btnClick (objectAtIndex_eq_some_iff.mp found).2
      · rw [setSelectedIndex_ignored inside, if_neg inside]
        exact Option.Rel.some shows
  | tap position =>
      have inside := touched position rfl
      have placed := List.getElem?_eq_getElem inside
      rw [ZFUISegmentBar.perform, SegmentStrip.perform, shows.length, if_pos inside, placed,
        Option.map_some]
      exact Option.Rel.some (shows.btnClick placed)
  | layout frame =>
      have framed : Relaid bar { bar with frame } :=
        ⟨rfl, rfl, rfl, rfl, rfl, fun _ => rfl, fun _ => rfl⟩
      have reads : Reads { bar with frame } { strip with frame } :=
        ⟨fun _ => (shows.built shows.inBounds).of_relaid framed, shows.titled, shows.nodup, rfl,
          shows.config, shows.titles, shows.selectedIndex, shows.contentOffset, shows.reports,
          shows.lastIndex, shows.highlighted, shows.font⟩
      exact shows_layoutSubviews reads

/-- An empty bar has what a strip begins with. -/
theorem reads_empty (frame : CGRect) : Reads { frame } { frame } :=
  ⟨fun _ => built_empty frame, fun present => absurd rfl present, List.nodup_nil, rfl, rfl, rfl,
    rfl, rfl, rfl, rfl, nofun, nofun⟩

theorem shows_segmentBarWithFrame (frame : CGRect) (items : Option (List String)) :
    Option.Rel (Shows measure) (segmentBarWithFrame measure frame items)
      (SegmentStrip.start frame items) :=
  shows_setItems (reads_empty frame) (fun present => absurd rfl present) items

theorem map_view_of_shows {state : Option ZFUISegmentBar} {follower : Option SegmentStrip}
    (shows : Option.Rel (Shows measure) state follower) :
    state.map view = follower.map (SegmentStrip.view measure) := by
  cases shows with
  | none => rfl
  | some shows => rw [Option.map_some, Option.map_some, shows.view]

end Steps

end ZFUISegmentBar

open ZFUISegmentBar

theorem shows_exec {measure : UIFont → String → ℚ × ℚ} {state : Option ZFUISegmentBar}
    {follower : Option SegmentStrip} {actions : List SegmentAction}
    (shows : Option.Rel (Shows measure) state follower)
    (runs : (segmentSystem measure).Runs state actions) :
    (stripSystem measure).Runs follower actions ∧
      Option.Rel (Shows measure) ((segmentSystem measure).exec state actions)
        ((stripSystem measure).exec follower actions) := by
  refine ActionSystem.Runs.related ?_ shows runs
  rintro _ follower action related ⟨bar, rfl, touched⟩
  cases related with
  | some shows =>
      refine ⟨⟨_, rfl, ?_⟩, shows.perform touched⟩
      intro position tapped
      rw [shows.length]
      exact touched position tapped

/-- After any run a segment bar shows what its strip says, and it has raised an exception exactly
if the strip has come to an end. -/
theorem run_showsStrip {measure : UIFont → String → ℚ × ℚ} {frame : CGRect}
    {items : Option (List String)} {actions : List SegmentAction}
    (runs : (segmentSystem measure).Runs (segmentBarWithFrame measure frame items) actions) :
    (stripSystem measure).Runs (SegmentStrip.start frame items) actions ∧
      ((segmentSystem measure).exec (segmentBarWithFrame measure frame items) actions).map view =
        ((stripSystem measure).exec (SegmentStrip.start frame items) actions).map
          (SegmentStrip.view measure) :=
  have followed := shows_exec (shows_segmentBarWithFrame frame items) runs
  ⟨followed.1, map_view_of_shows followed.2⟩

theorem run_showsStrip_replaced :
    ((segmentSystem measureLetters).exec
        (segmentBarWithFrame measureLetters ⟨0, 0, 320, 40⟩ (some ["a", "b", "c"]))
        replaced).map view =
      ((stripSystem measureLetters).exec
        (SegmentStrip.start ⟨0, 0, 320, 40⟩ (some ["a", "b", "c"])) replaced).map
          (SegmentStrip.view measureLetters) := by
  refine (run_showsStrip ?_).2
  refine ⟨⟨_, rfl, nofun⟩, ⟨_, rfl, nofun⟩, ⟨_, rfl, ?_⟩, trivial⟩
  rintro position ⟨⟩
  decide

/-- Reports of the same selections, up to where the oldest of them came from. -/
structure SameSelections (made otherMade : List SelectionReport) : Prop where
  toIndex : otherMade.map SelectionReport.toIndex = made.map SelectionReport.toIndex
  newer : otherMade.dropLast = made.dropLast

theorem SameSelections.eq_nil_iff {made otherMade : List SelectionReport}
    (same : SameSelections made otherMade) : otherMade = [] ↔ made = [] := by
  rw [← List.map_eq_nil_iff, same.toIndex, List.map_eq_nil_iff]

/-- The reports on top of `past` and `otherPast` are of the same selections, and once there is one
of them, the last selection is the same as well. -/
def SameSince (past otherPast : List SelectionReport) (lastIndex otherLast : ℕ)
    (reports otherReports : List SelectionReport) : Prop :=
  ∃ made otherMade, reports = made ++ past ∧ otherReports = otherMade ++ otherPast ∧
    SameSelections made otherMade ∧ (made ≠ [] → otherLast = lastIndex)

theorem sameSince_past (past otherPast : List SelectionReport) (lastIndex otherLast : ℕ) :
    SameSince past otherPast lastIndex otherLast past otherPast :=
  ⟨[], [], rfl, rfl, ⟨rfl, rfl⟩, fun selected => absurd rfl selected⟩

/-- A selection comes from the last one, which both have in common from the second on. -/
theorem SameSince.select {past otherPast reports otherReports : List SelectionReport}
    {lastIndex otherLast : ℕ}
    (since : SameSince past otherPast lastIndex otherLast reports otherReports) (position : ℕ) :
    SameSince past otherPast position position (⟨position, lastIndex⟩ :: reports)
      (⟨position, otherLast⟩ :: otherReports) := by
  rcases since with ⟨made, otherMade, rfl, rfl, same, known⟩
  refine ⟨⟨position, lastIndex⟩ :: made, ⟨position, otherLast⟩ :: otherMade, rfl, rfl,
    ⟨congrArg (position :: ·) same.toIndex, ?_⟩, fun _ => rfl⟩
  by_cases oldest : made = []
  · rw [oldest, same.eq_nil_iff.mpr oldest]
    rfl
  · have others : otherMade ≠ [] := mt same.eq_nil_iff.mp oldest
    rw [List.dropLast_cons_of_ne_nil oldest, List.dropLast_cons_of_ne_nil others, same.newer,
      known oldest]

namespace SegmentStrip

variable {measure : UIFont → String → ℚ × ℚ} {first second : SegmentStrip}
  {past otherPast : List SelectionReport}

/-- The strips differ at most in the selections made up to some point, and in where the first
selection after it came from. -/
def Alike (past otherPast : List SelectionReport) (first second : SegmentStrip) : Prop :=
  ∃ lastIndex reports,
    SameSince past otherPast first.lastIndex lastIndex first.reports reports ∧
      second = { first with lastIndex, reports }

theorem Alike.settle (alike : Alike past otherPast first second) :
    Option.Rel (Alike past otherPast) first.settle second.settle := by
  rcases alike with ⟨lastIndex, reports, since, rfl⟩
  rw [SegmentStrip.settle, SegmentStrip.settle]
  split
  · exact Option.Rel.some ⟨lastIndex, reports, since, rfl⟩
  · split
    · exact Option.Rel.some ⟨lastIndex, reports, since, rfl⟩
    · exact Option.Rel.none

theorem Alike.click (alike : Alike past otherPast first second) (position : ℕ) :
    Alike past otherPast (first.click measure position) (second.click measure position) := by
  rcases alike with ⟨lastIndex, reports, since, rfl⟩
  exact ⟨position, ⟨position, lastIndex⟩ :: reports, since.select position, rfl⟩

theorem Alike.retitle (alike : Alike past otherPast first second) (items : Option (List String)) :
    Alike past otherPast (first.retitle items) (second.retitle items) := by
  rcases alike with ⟨lastIndex, reports, since, rfl⟩
  match items with
  | none => exact ⟨lastIndex, reports, since, rfl⟩
  | some [] => exact ⟨lastIndex, reports, since, rfl⟩
  | some (title :: rest) => exact ⟨lastIndex, reports, since, rfl⟩

theorem Alike.perform (alike : Alike past otherPast first second) (action : SegmentAction) :
    Option.Rel (Alike past otherPast) (first.perform measure action)
      (second.perform measure action) := by
  cases action with
  | updateSegmentConfig config =>
      rcases alike with ⟨lastIndex, reports, since, rfl⟩
      apply Alike.settle
      apply Alike.retitle
      exact ⟨lastIndex, reports, since, rfl⟩
  | setSelectedIndex index =>
      rcases alike with ⟨lastIndex, reports, since, rfl⟩
      rw [SegmentStrip.perform, SegmentStrip.perform]
      split
      · apply Option.Rel.some
        apply Alike.click
        exact ⟨lastIndex, reports, since, rfl⟩
      · exact Option.Rel.some ⟨lastIndex, reports, since, rfl⟩
  | tap position =>
      rcases alike with ⟨lastIndex, reports, since, rfl⟩
      rw [SegmentStrip.perform, SegmentStrip.perform]
      split
      · apply Option.Rel.some
        apply Alike.click
        exact ⟨lastIndex, reports, since, rfl⟩
      · exact Option.Rel.none
  | layout frame =>
      rcases alike with ⟨lastIndex, reports, since, rfl⟩
      apply Alike.settle
      exact ⟨lastIndex, reports, since, rfl⟩

theorem alike_exec {state follower : Option SegmentStrip}
    (alike : Option.Rel (Alike past otherPast) state follower) (actions : List SegmentAction) :
    Option.Rel (Alike past otherPast) ((stripSystem measure).exec state actions)
      ((stripSystem measure).exec follower actions) := by
  induction actions generalizing state follower with
  | nil => exact alike
  | cons action rest ih =>
      apply ih
      cases alike with
      | none => exact Option.Rel.none
      | some alike => exact alike.perform action

theorem settle_retitle (strip : SegmentStrip) (title : String) (rest : List String) :
    (strip.retitle (some (title :: rest))).settle =
      if 0 ≤ strip.selectedIndex ∧ strip.selectedIndex < ((title :: rest).length : ℤ) then
        some { strip with
          titles := title :: rest
          highlighted := none
          marked := strip.selectedIndex.toNat }
      else none :=
  if_neg (List.cons_ne_nil title rest)

/-- New titles bring the indicator to the selected index, wherever it was. -/
theorem alike_settle (frames : second.frame = first.frame)
    (indices : second.selectedIndex = first.selectedIndex)
    (offsets : second.contentOffset = first.contentOffset) (config : ZFUISegmentBarConfig)
    (title : String) (rest : List String) :
    Option.Rel (Alike first.reports second.reports)
      ({ first with config }.retitle (some (title :: rest))).settle
      ({ second with config }.retitle (some (title :: rest))).settle := by
  simp only [settle_retitle, frames, indices, offsets]
  split
  · apply Option.Rel.some
    exact ⟨second.lastIndex, second.reports, sameSince_past _ _ _ _, rfl⟩
  · exact Option.Rel.none

end SegmentStrip

/-- What can be seen of a bar but for the selections that were reported. -/
def SegmentView.unreported (view : SegmentView) : SegmentView := { view with reports := [] }

theorem exists_shows {measure : UIFont → String → ℚ × ℚ} {frame : CGRect}
    {items : Option (List String)} {past : List SegmentAction} {bar : ZFUISegmentBar}
    (reached : (segmentSystem measure).exec (segmentBarWithFrame measure frame items) past =
      some bar)
    (runs : (segmentSystem measure).Runs (segmentBarWithFrame measure frame items) past) :
    ∃ strip, Shows measure bar strip := by
  have followed := (shows_exec (shows_segmentBarWithFrame frame items) runs).2
  rw [reached] at followed
  generalize (stripSystem measure).exec _ _ = follower at followed
  cases followed with
  | some shows => exact ⟨_, shows⟩

/-- Both bars show the same, and since they had reported `past` and `otherPast` they have reported
the same selections. -/
structure AlikeSince (past otherPast : List SelectionReport) (bar other : ZFUISegmentBar) :
    Prop where
  view : other.view.unreported = bar.view.unreported
  reports : ∃ made otherMade, bar.reports = made ++ past ∧ other.reports = otherMade ++ otherPast ∧
    SameSelections made otherMade

theorem alikeSince_of_shows {measure : UIFont → String → ℚ × ℚ}
    {state other : Option ZFUISegmentBar} {follower otherFollower : Option SegmentStrip}
    {past otherPast : List SelectionReport}
    (shows : Option.Rel (Shows measure) state follower)
    (otherShows : Option.Rel (Shows measure) other otherFollower)
    (alike : Option.Rel (SegmentStrip.Alike past otherPast) follower otherFollower) :
    Option.Rel (AlikeSince past otherPast) state other := by
  cases alike with
  | none =>
      cases shows
      cases otherShows
      exact Option.Rel.none
  | some alike =>
      cases shows with
      | some shows =>
          cases otherShows with
          | some otherShows =>
              rcases alike with ⟨lastIndex, reports, since, rfl⟩
              rcases since with ⟨made, otherMade, reported, otherReported, same, _⟩
              refine Option.Rel.some ⟨?_, made, otherMade, ?_, ?_, same⟩
              · rw [shows.view, otherShows.view]
                rfl
              · rw [← shows.reports, reported]
              · rw [← otherShows.reports, otherReported]

/-- An update that brings items wipes out what a bar was before, up to its place, its
configuration, its selected index and its scroll position. Two bars that agree on these show the
same and report the same selections from then on, whatever they had shown and whatever was
selected; only where the first of these selections came from is told from the past. -/
theorem runs_afresh {measure : UIFont → String → ℚ × ℚ} {frame otherFrame : CGRect}
    {items otherItems : Option (List String)} {past otherPast later : List SegmentAction}
    {config : Option (ZFUISegmentBarConfig → ZFUISegmentBarConfig)} {bar other : ZFUISegmentBar}
    (reached : (segmentSystem measure).exec (segmentBarWithFrame measure frame items) past =
      some bar)
    (otherReached : (segmentSystem measure).exec
      (segmentBarWithFrame measure otherFrame otherItems) otherPast = some other)
    (runs : (segmentSystem measure).Runs (segmentBarWithFrame measure frame items)
      (past ++ .updateSegmentConfig config :: later))
    (otherRuns : (segmentSystem measure).Runs (segmentBarWithFrame measure otherFrame otherItems)
      (otherPast ++ .updateSegmentConfig config :: later))
    (sameFrame : other.frame = bar.frame)
    (sameConfig : other.configured config = bar.configured config)
    (sameIndex : other.selectedIndex = bar.selectedIndex)
    (sameOffset : other.contentOffset = bar.contentOffset)
    (brings : ∃ item rest, (bar.configured config).itemDatas = some (item :: rest)) :
    Option.Rel (AlikeSince bar.reports other.reports)
      ((segmentSystem measure).exec (some bar) (.updateSegmentConfig config :: later))
      ((segmentSystem measure).exec (some other) (.updateSegmentConfig config :: later)) := by
  rw [ActionSystem.runs_append] at runs otherRuns
  rcases exists_shows reached runs.1 with ⟨strip, shows⟩
  rcases exists_shows otherReached otherRuns.1 with ⟨otherStrip, otherShows⟩
  rw [reached] at runs
  rw [otherReached] at otherRuns
  have followed := (shows_exec (Option.Rel.some shows) runs.2).2
  have otherFollowed := (shows_exec (Option.Rel.some otherShows) otherRuns.2).2
  have updated : Option.Rel (SegmentStrip.Alike bar.reports other.reports)
      (strip.perform measure (.updateSegmentConfig config))
      (otherStrip.perform measure (.updateSegmentConfig config)) := by
    rcases brings with ⟨item, rest, given⟩
    have frames : otherStrip.frame = strip.frame := by
      rw [otherShows.frame, shows.frame, sameFrame]
    have indices : otherStrip.selectedIndex = strip.selectedIndex := by
      rw [otherShows.selectedIndex, shows.selectedIndex, sameIndex]
    have offsets : otherStrip.contentOffset = strip.contentOffset := by
      rw [otherShows.contentOffset, shows.contentOffset, sameOffset]
    rw [SegmentStrip.perform, SegmentStrip.perform, shows.configured, otherShows.configured,
      sameConfig, given, ← shows.reports, ← otherShows.reports]
    exact SegmentStrip.alike_settle frames indices offsets _ item rest
  exact alikeSince_of_shows followed otherFollowed (SegmentStrip.alike_exec updated later)

theorem runs_afresh_reloaded :
    ∃ bar other,
      (segmentSystem measureLetters).exec
          (segmentBarWithFrame measureLetters ⟨0, 0, 320, 40⟩ (some ["a", "b", "c"]))
          [.setSelectedIndex 1] = some bar ∧
        (segmentSystem measureLetters).exec
          (segmentBarWithFrame measureLetters ⟨0, 0, 320, 40⟩ (some ["x", "y", "z"]))
          [.tap 0, .setSelectedIndex 1] = some other ∧
        Option.Rel (AlikeSince bar.reports other.reports)
          ((segmentSystem measureLetters).exec (some bar) [reload ["d", "e", "f"], .tap 2])
          ((segmentSystem measureLetters).exec (some other) [reload ["d", "e", "f"], .tap 2]) := by
  refine ⟨_, _, rfl, rfl, @runs_afresh measureLetters ⟨0, 0, 320, 40⟩ ⟨0, 0, 320, 40⟩
    (some ["a", "b", "c"]) (some ["x", "y", "z"]) [.setSelectedIndex 1]
    [.tap 0, .setSelectedIndex 1] [.tap 2] _ _ _ rfl rfl ?_ ?_ rfl ?_ rfl ?_
    ⟨"d", ["e", "f"], rfl⟩⟩
  · refine ⟨⟨_, rfl, nofun⟩, ⟨_, rfl, nofun⟩, ⟨_, rfl, ?_⟩, trivial⟩
    rintro position ⟨⟩
    decide
  · refine ⟨⟨_, rfl, ?_⟩, ⟨_, rfl, nofun⟩, ⟨_, rfl, nofun⟩, ⟨_, rfl, ?_⟩, trivial⟩
    · rintro position ⟨⟩
      decide
    · rintro position ⟨⟩
      decide
  · rfl
  · decide +kernel

end ZFBaseFramework
