import Mathlib.Tactic
import ZFBaseFramework.SegmentBar.Scrolling

/-!
# The segment bar without its views

A `SegmentStrip` says what a segment bar is for: titles in a row, one of them
highlighted, one marked by the indicator, and a scroll position. Where everything stands
is computed from the titles, the configuration and the size of the bar. The bar itself
keeps numbered buttons with frames that its methods change one by one; what is seen of it
is what its strip says, after any run.
-/

namespace ZFBaseFramework

/-- What a segment bar remembers. -/
structure SegmentStrip where
  frame : CGRect
  config : ZFUISegmentBarConfig := {}
  titles : List String := []
  selectedIndex : ℤ := 0
  /-- The position that is highlighted. -/
  highlighted : Option ℕ := none
  /-- The position that the indicator marks. -/
  marked : ℕ := 0
  contentOffset : ℚ := 0
  /-- The position that was selected last, among the titles there were then. -/
  lastIndex : ℕ := 0
  reports : List SelectionReport := []

/-- What can be seen of a segment bar. -/
structure SegmentView where
  /-- The title and the frame of each button, and whether it is highlighted. -/
  buttons : List (String × CGRect × Bool)
  indicator : Option CGRect
  contentFrame : CGRect
  contentWidth : ℚ
  contentOffset : ℚ
  selectedIndex : ℤ
  reports : List SelectionReport

/-- The frame of the indicator under a button. -/
def CGRect.indicatorUnder (bar : CGRect) (config : ZFUISegmentBarConfig) (button : CGRect) :
    CGRect where
  x := button.centerX - (button.width + config.indicatorSB * 2) / 2
  y := bar.height - config.indicatorHeight
  width := button.width + config.indicatorSB * 2
  height := config.indicatorHeight

namespace SegmentStrip

section Seen

variable (measure : UIFont → String → ℚ × ℚ) (strip : SegmentStrip)

def widths : List ℚ := strip.titles.map fun title => (measure strip.config.itemFont title).1

def heights : List ℚ := strip.titles.map fun title => (measure strip.config.itemFont title).2

/-- The margin behind each button. -/
def gap : ℚ := SideBySide.spread 30 strip.frame.width (strip.widths measure)

def frames : List CGRect :=
  List.zipWith (fun box height => ⟨box.1, 0, box.2, height⟩)
    (SideBySide.boxes (strip.gap measure) 0 (strip.widths measure)) (strip.heights measure)

def contentWidth : ℚ := SideBySide.total (strip.gap measure) (strip.widths measure)

def highlights : List Bool :=
  (List.range strip.titles.length).map fun position => decide (strip.highlighted = some position)

def view : SegmentView where
  buttons := strip.titles.zip ((strip.frames measure).zip strip.highlights)
  indicator := (strip.frames measure)[strip.marked]?.map (strip.frame.indicatorUnder strip.config)
  contentFrame := ⟨0, 0, strip.frame.width, strip.frame.height⟩
  contentWidth := strip.contentWidth measure
  contentOffset := strip.contentOffset
  selectedIndex := strip.selectedIndex
  reports := strip.reports

/-- The offset that brings a position as close to the middle as the ends of the content allow,
of which the right one takes precedence. -/
def offsetFor (position : ℕ) : ℚ :=
  min (strip.contentWidth measure - strip.frame.width)
    (max ((((strip.frames measure)[position]?.map CGRect.centerX).getD 0) -
      strip.frame.width / 2) 0)

/-- The selection of a position. -/
def click (position : ℕ) : SegmentStrip :=
  { strip with
    highlighted := some position
    marked := position
    contentOffset := strip.offsetFor measure position
    lastIndex := position
    reports := ⟨position, strip.lastIndex⟩ :: strip.reports }

end Seen

/-- The indicator goes to the selected index, which has to be that of a title. -/
def settle (strip : SegmentStrip) : Option SegmentStrip :=
  if strip.titles = [] then some strip
  else if 0 ≤ strip.selectedIndex ∧ strip.selectedIndex < strip.titles.length then
    some { strip with marked := strip.selectedIndex.toNat }
  else none

/-- Other titles, none of them highlighted. -/
def retitle (strip : SegmentStrip) : Option (List String) → SegmentStrip
  | none => strip
  | some [] => strip
  | some (title :: rest) => { strip with titles := title :: rest, highlighted := none }

/-- A new strip. -/
def start (frame : CGRect) (items : Option (List String)) : Option SegmentStrip :=
  (({ frame } : SegmentStrip).retitle items).settle

def configured (strip : SegmentStrip)
    (config : Option (ZFUISegmentBarConfig → ZFUISegmentBarConfig)) : ZFUISegmentBarConfig :=
  config.elim strip.config fun block => block strip.config

def perform (measure : UIFont → String → ℚ × ℚ) (strip : SegmentStrip) :
    SegmentAction → Option SegmentStrip
  | .updateSegmentConfig config =>
      ({ strip with config := strip.configured config }.retitle
        (strip.configured config).itemDatas).settle
  | .setSelectedIndex selectedIndex =>
      if 0 ≤ selectedIndex ∧ selectedIndex < strip.titles.length then
        some ({ strip with selectedIndex }.click measure selectedIndex.toNat)
      else some strip
  | .tap position => if position < strip.titles.length then some (strip.click measure position)
      else none
  | .layout frame => { strip with frame }.settle

end SegmentStrip

/-- The life of a strip. -/
def stripSystem (measure : UIFont → String → ℚ × ℚ) :
    ActionSystem (Option SegmentStrip) SegmentAction where
  Admits state action := ∃ strip, state = some strip ∧
    ∀ position, action = .tap position → position < strip.titles.length
  perform state action := state.bind fun strip => strip.perform measure action

end ZFBaseFramework
