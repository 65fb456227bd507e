import Mathlib.Tactic
import ZFBaseFramework.Library.ActionSystem

/-!
# The segment bar

`ZFUISegmentBar` with its buttons, its indicator and the geometry it computes, in exact
rationals. Buttons are objects: they have a number, the bar lists the numbers of its
current items, and `_lastSelectedBtn` may be a button of earlier items. What a title
measures is a parameter. An access beyond the end of an array raises an exception, for
which an operation gives `none`. Colours play no part and are left out.
-/

namespace ZFBaseFramework

/-- `CGRect`, with the accessors of `UIView+ZFLayout` for a view that has this frame. -/
structure CGRect where
  x : ℚ := 0
  y : ℚ := 0
  width : ℚ := 0
  height : ℚ := 0
  deriving DecidableEq, Repr

namespace CGRect

def centerX (frame : CGRect) : ℚ := frame.x + frame.width / 2

def setX (frame : CGRect) (x : ℚ) : CGRect := { frame with x }

def setY (frame : CGRect) (y : ℚ) : CGRect := { frame with y }

def setWidth (frame : CGRect) (width : ℚ) : CGRect := { frame with width }

def setHeight (frame : CGRect) (height : ℚ) : CGRect := { frame with height }

/-- Setting the centre moves the frame. -/
def setCenterX (frame : CGRect) (centerX : ℚ) : CGRect :=
  { frame with x := centerX - frame.width / 2 }

@[simp]
theorem centerX_setCenterX (frame : CGRect) (centerX : ℚ) :
    (frame.setCenterX centerX).centerX = centerX := by
  simp [CGRect.centerX, setCenterX]

@[simp]
theorem centerX_setHeight (frame : CGRect) (height : ℚ) :
    (frame.setHeight height).centerX = frame.centerX := rfl

end CGRect

structure UIFont where
  pointSize : ℚ
  deriving DecidableEq, Repr

structure UIButton where
  tag : ℕ := 0
  title : String := ""
  font : UIFont := ⟨15⟩
  selected : Bool := false
  frame : CGRect := {}
  deriving DecidableEq, Repr

/-- `ZFUISegmentBarConfig` with the values of `defaultConfig`. -/
structure ZFUISegmentBarConfig where
  itemFont : UIFont := ⟨15⟩
  indicatorHeight : ℚ := 4
  indicatorSB : ℚ := 5
  itemDatas : Option (List String) := none
  deriving DecidableEq, Repr

/-- What `segmentBar:didSelectedIndex:fromIndex:` is called with. -/
structure SelectionReport where
  toIndex : ℕ
  fromIndex : ℕ
  deriving DecidableEq, Repr

structure ZFUISegmentBar where
  frame : CGRect
  items : Option (List String) := none
  config : ZFUISegmentBarConfig := {}
  selectedIndex : ℤ := 0
  lastSelectedBtn : Option ℕ := none
  itemBtns : List ℕ := []
  buttons : ℕ → UIButton := fun _ => {}
  buttonCount : ℕ := 0
  indicatorView : Option CGRect := none
  contentFrame : CGRect := {}
  contentWidth : ℚ := 0
  contentOffset : ℚ := 0
  /-- The selections made so far, newest first. -/
  reports : List SelectionReport := []

/-- `objectAtIndexedSubscript:` -/
def objectAtIndex {α : Type} (array : List α) (index : ℤ) : Option α :=
  if 0 ≤ index then array[index.toNat]? else none

namespace ZFUISegmentBar

/-- A change of one button. -/
def modifyButton (bar : ZFUISegmentBar) (button : ℕ) (change : UIButton → UIButton) :
    ZFUISegmentBar :=
  { bar with buttons := Function.update bar.buttons button (change (bar.buttons button)) }

/-- `indicatorView`, which is made when it is first asked for. -/
def indicator (bar : ZFUISegmentBar) : CGRect :=
  bar.indicatorView.getD ⟨0, bar.frame.height - bar.config.indicatorHeight, 0, 0⟩

/-- The call of the delegate at the start of `btnClick:`. -/
def reportSelection (bar : ZFUISegmentBar) (button : ℕ) : ZFUISegmentBar :=
  let fromIndex := (bar.lastSelectedBtn.map fun last => (bar.buttons last).tag).getD 0
  { bar with reports := ⟨(bar.buttons button).tag, fromIndex⟩ :: bar.reports }

/-- `btnClick:` between the call of the delegate and the scrolling. -/
def selectButton (bar : ZFUISegmentBar) (button : ℕ) : ZFUISegmentBar :=
  let deselected := match bar.lastSelectedBtn with
    | none => bar
    | some last => bar.modifyButton last fun last => { last with selected := false }
  let selected := deselected.modifyButton button fun button => { button with selected := true }
  let frame := (selected.buttons button).frame
  { selected with
    lastSelectedBtn := some button
    indicatorView := some ((selected.indicator.setWidth
      (frame.width + selected.config.indicatorSB * 2)).setCenterX frame.centerX) }

/-- The end of `btnClick:`, which scrolls the button towards the middle. -/
def scrollTo (bar : ZFUISegmentBar) (button : ℕ) : ZFUISegmentBar :=
  let scrollX := (bar.buttons button).frame.centerX - bar.contentFrame.width * (1 / 2)
  let notLeft := if scrollX < 0 then 0 else scrollX
  let farthest := bar.contentWidth - bar.contentFrame.width
  { bar with contentOffset := if farthest < notLeft then farthest else notLeft }

/-- What `btnClick:` does after the call of the delegate. -/
def finishClick (bar : ZFUISegmentBar) (button : ℕ) : ZFUISegmentBar :=
  (bar.selectButton button).scrollTo button

/-- `btnClick:` -/
def btnClick (bar : ZFUISegmentBar) (button : ℕ) : ZFUISegmentBar :=
  (bar.reportSelection button).finishClick button

/-- `setSelectedIndex:` -/
def setSelectedIndex (bar : ZFUISegmentBar) (selectedIndex : ℤ) : Option ZFUISegmentBar :=
  if bar.itemBtns.length = 0 ∨ selectedIndex < 0 ∨ selectedIndex > bar.itemBtns.length - 1 then
    some bar
  else
    (objectAtIndex bar.itemBtns selectedIndex).map fun button =>
      { bar with selectedIndex }.btnClick button

/-- The indicator is put under the selected button. -/
def moveIndicator (bar : ZFUISegmentBar) (button : ℕ) : ZFUISegmentBar :=
  let frame := (bar.buttons button).frame
  { bar with
    indicatorView := some ((((bar.indicator.setWidth
      (frame.width + bar.config.indicatorSB * 2)).setY
      (bar.frame.height - bar.config.indicatorHeight)).setCenterX frame.centerX).setHeight
      bar.config.indicatorHeight) }

/-- The buttons are put side by side, and the width they take is kept. -/
def placeButtons (margin : ℚ) : List ℕ → ℚ → ZFUISegmentBar → ZFUISegmentBar
  | [], lastBtnX, bar => { bar with contentWidth := lastBtnX }
  | button :: rest, lastBtnX, bar =>
      placeButtons margin rest (lastBtnX + (bar.buttons button).frame.width + margin)
        (bar.modifyButton button fun placed =>
          { placed with frame := (placed.frame.setY 0).setX lastBtnX })

section Measured

variable (measure : UIFont → String → ℚ × ℚ)

/-- `sizeToFit` -/
def sizeToFit (button : UIButton) : UIButton :=
  let size := measure button.font button.title
  { button with frame := (button.frame.setWidth size.1).setHeight size.2 }

/-- `layoutSubviews` up to the content size. -/
def arrangeButtons (bar : ZFUISegmentBar) : ZFUISegmentBar :=
  let framed := { bar with contentFrame := ⟨0, 0, bar.frame.width, bar.frame.height⟩ }
  let sized := framed.itemBtns.foldl
    (fun bar button => bar.modifyButton button (sizeToFit measure)) framed
  let totalBtnWidth := (sized.itemBtns.map fun button => (sized.buttons button).frame.width).sum
  let gap := (sized.frame.width - totalBtnWidth) / ((sized.itemBtns.length : ℚ) + 1)
  let margin := if gap < 30 then 30 else gap
  placeButtons margin sized.itemBtns 0 sized

/-- `layoutSubviews` -/
def layoutSubviews (bar : ZFUISegmentBar) : Option ZFUISegmentBar :=
  let arranged := bar.arrangeButtons measure
  if arranged.itemBtns.length = 0 then some arranged
  else (objectAtIndex arranged.itemBtns arranged.selectedIndex).map arranged.moveIndicator

/-- One round of the loop of `setItems:`. -/
def addButton (bar : ZFUISegmentBar) (item : String) : ZFUISegmentBar :=
  { bar with
    buttons := Function.update bar.buttons bar.buttonCount
      { tag := bar.itemBtns.length, title := item, font := bar.config.itemFont }
    buttonCount := bar.buttonCount + 1
    itemBtns := bar.itemBtns ++ [bar.buttonCount] }

/-- `setItems:` up to the layout: the old buttons go, and there is one for each item. -/
def rebuild (bar : ZFUISegmentBar) (items : List String) : ZFUISegmentBar :=
  items.foldl addButton { bar with items := some items, itemBtns := [] }

/-- `setItems:`, which lays the bar out at once. -/
def setItems (bar : ZFUISegmentBar) : Option (List String) → Option ZFUISegmentBar
  | none => bar.layoutSubviews measure
  | some [] => bar.layoutSubviews measure
  | some (item :: rest) => (bar.rebuild (item :: rest)).layoutSubviews measure

/-- `segmentBarWithFrame:items:` -/
def segmentBarWithFrame (frame : CGRect) (items : Option (List String)) : Option ZFUISegmentBar :=
  ({ frame } : ZFUISegmentBar).setItems measure items

/-- The configuration after the block, if there is one. -/
def configured (bar : ZFUISegmentBar)
    (config : Option (ZFUISegmentBarConfig → ZFUISegmentBarConfig)) : ZFUISegmentBarConfig :=
  match config with
  | none => bar.config
  | some block => block bar.config

/-- `updateSegmentConfig:` up to the items. -/
def restyle (bar : ZFUISegmentBar) (config : ZFUISegmentBarConfig) : ZFUISegmentBar :=
  let changed := { bar with config }
  let shown := { changed with indicatorView := some changed.indicator }
  shown.itemBtns.foldl (fun bar button => bar.modifyButton button fun styled =>
    { styled with font := config.itemFont }) shown

/-- `updateSegmentConfig:` -/
def updateSegmentConfig (bar : ZFUISegmentBar)
    (config : Option (ZFUISegmentBarConfig → ZFUISegmentBarConfig)) : Option ZFUISegmentBar :=
  (bar.restyle (bar.configured config)).setItems measure (bar.configured config).itemDatas

end Measured

end ZFUISegmentBar

/-- What happens to a segment bar. -/
inductive SegmentAction where
  | updateSegmentConfig (config : Option (ZFUISegmentBarConfig → ZFUISegmentBarConfig))
  | setSelectedIndex (selectedIndex : ℤ)
  /-- A touch of the button at a position. -/
  | tap (position : ℕ)
  /-- A layout pass with the frame the bar has by then. -/
  | layout (frame : CGRect)

namespace ZFUISegmentBar

/-- Only a button that is there can be touched. -/
def Admits (state : Option ZFUISegmentBar) (action : SegmentAction) : Prop :=
  ∃ bar, state = some bar ∧
    ∀ position, action = .tap position → position < bar.itemBtns.length

def perform (measure : UIFont → String → ℚ × ℚ) (bar : ZFUISegmentBar) :
    SegmentAction → Option ZFUISegmentBar
  | .updateSegmentConfig config => bar.updateSegmentConfig measure config
  | .setSelectedIndex selectedIndex => bar.setSelectedIndex selectedIndex
  | .tap position => (bar.itemBtns[position]?).map bar.btnClick
  | .layout frame => { bar with frame }.layoutSubviews measure

end ZFUISegmentBar

/-- The life of a segment bar; an exception ends it. -/
def segmentSystem (measure : UIFont → String → ℚ × ℚ) :
    ActionSystem (Option ZFUISegmentBar) SegmentAction where
  Admits := ZFUISegmentBar.Admits
  perform state action := state.bind fun bar => bar.perform measure action

end ZFBaseFramework
