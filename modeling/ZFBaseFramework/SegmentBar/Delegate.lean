import Mathlib.Tactic
import ZFBaseFramework.SegmentBar.OneSelection

/-!
# A delegate that selects from inside its callback

`btnClick:` calls the delegate before it moves the selection, so what the delegate sets
from inside the callback happens in the middle of a click. A `DelegateAnswer` is what
one callback does: the indexes it sets, each with the answer to the callback that leads
to. With a delegate that only listens, the life of a bar is that of `segmentSystem`.
-/

namespace ZFBaseFramework

/-- What a delegate does in one callback: it sets the selected index some times, and answers
the callbacks inside. -/
inductive DelegateAnswer where
  | done
  | setSelectedIndex (selectedIndex : ℤ) (inner next : DelegateAnswer)
  deriving DecidableEq, Repr

namespace ZFUISegmentBar

/-- `btnClick:` with a delegate whose callback changes the bar. -/
def btnClickCalling (callback : ZFUISegmentBar → Option ZFUISegmentBar) (bar : ZFUISegmentBar)
    (button : ℕ) : Option ZFUISegmentBar :=
  (callback (bar.reportSelection button)).map fun called => called.finishClick button

/-- `setSelectedIndex:` with such a delegate. -/
def setSelectedIndexCalling (callback : ZFUISegmentBar → Option ZFUISegmentBar)
    (bar : ZFUISegmentBar) (selectedIndex : ℤ) : Option ZFUISegmentBar :=
  if bar.itemBtns.length = 0 ∨ selectedIndex < 0 ∨ selectedIndex > bar.itemBtns.length - 1 then
    some bar
  else
    (objectAtIndex bar.itemBtns selectedIndex).bind fun button =>
      { bar with selectedIndex }.btnClickCalling callback button

/-- What an answer does to the bar. -/
def answered : DelegateAnswer → ZFUISegmentBar → Option ZFUISegmentBar
  | .done, bar => some bar
  | .setSelectedIndex selectedIndex inner next, bar =>
      (bar.setSelectedIndexCalling (answered inner) selectedIndex).bind (answered next)

/-- An action, with the delegate's answer to the callback it leads to. -/
def performAnswered (measure : UIFont → String → ℚ × ℚ) (bar : ZFUISegmentBar) :
    SegmentAction × DelegateAnswer → Option ZFUISegmentBar
  | (.setSelectedIndex selectedIndex, answer) =>
      bar.setSelectedIndexCalling (answered answer) selectedIndex
  | (.tap position, answer) =>
      (bar.itemBtns[position]?).bind (bar.btnClickCalling (answered answer))
  | (.updateSegmentConfig config, _) => bar.updateSegmentConfig measure config
  | (.layout frame, _) => { bar with frame }.layoutSubviews measure

variable {bar : ZFUISegmentBar} {button : ℕ}

/-- A callback that leaves the bar alone makes no difference to a click. -/
theorem btnClickCalling_some (bar : ZFUISegmentBar) (button : ℕ) :
    bar.btnClickCalling some button = some (bar.btnClick button) := rfl

/-- The second half selects as a click does, and reports nothing. -/
theorem finishClick_eq (bar : ZFUISegmentBar) (button : ℕ) :
    bar.finishClick button = { bar.btnClick button with reports := bar.reports } := by
  rw [btnClick, finishClick, finishClick, scrollTo, scrollTo, selectButton, selectButton,
    reportSelection]
  cases bar.lastSelectedBtn with
  | none => rfl
  | some last => rfl

theorem setSelectedIndexCalling_some (bar : ZFUISegmentBar) (index : ℤ) :
    bar.setSelectedIndexCalling some index = bar.setSelectedIndex index := by
  rw [setSelectedIndexCalling, setSelectedIndex, Option.map_eq_bind]
  rfl

theorem performAnswered_done (measure : UIFont → String → ℚ × ℚ) (bar : ZFUISegmentBar)
    (action : SegmentAction) :
    bar.performAnswered measure (action, .done) = bar.perform measure action := by
  cases action with
  | setSelectedIndex index => exact setSelectedIndexCalling_some bar index
  | tap position =>
      rw [performAnswered, perform, Option.map_eq_bind]
      rfl
  | updateSegmentConfig config => rfl
  | layout frame => rfl

end ZFUISegmentBar

/-- The life of a segment bar with a delegate. -/
def delegateSystem (measure : UIFont → String → ℚ × ℚ) :
    ActionSystem (Option ZFUISegmentBar) (SegmentAction × DelegateAnswer) where
  Admits state action := ZFUISegmentBar.Admits state action.1
  perform state action := state.bind fun bar => bar.performAnswered measure action

/-- With a delegate that only listens, a bar lives as it does without one. -/
theorem exec_listening (measure : UIFont → String → ℚ × ℚ) (state : Option ZFUISegmentBar)
    (actions : List SegmentAction) :
    (delegateSystem measure).exec state (actions.map fun action => (action, .done)) =
      (segmentSystem measure).exec state actions := by
  induction actions generalizing state with
  | nil => rfl
  | cons action rest ih =>
      have step : (delegateSystem measure).perform state (action, .done) =
          (segmentSystem measure).perform state action := by
        cases state with
        | none => rfl
        | some bar => exact ZFUISegmentBar.performAnswered_done measure bar action
      rw [List.map_cons, ActionSystem.exec_cons, ActionSystem.exec_cons, step, ih]

end ZFBaseFramework
