import Mathlib.Tactic
import ZFBaseFramework.SegmentBar.Delegate

/-!
# The reports of the selections

The reports are a chain, with valid indexes and the highlighted button last, exactly
while two things hold: whenever the delegate selects from inside its callback, and when
the outermost call returns, the click that ended last has the index of the one that
began last; and no update brings items after the first selection. Inside a callback the
clicks that began are not over, so `fromIndex` is that of an earlier one.
-/

namespace ZFBaseFramework

/-- The index selected last, newest report first. -/
def lastIndex : List SelectionReport → ℕ
  | [] => 0
  | latest :: _ => latest.toIndex

/-- Every selection leads on from the one before. -/
def Linked : List SelectionReport → Prop
  | [] => True
  | latest :: earlier => latest.fromIndex = lastIndex earlier ∧ Linked earlier

namespace DelegateAnswer

/-- The index of the click that began last, among `count` items. -/
def lastBegun (count : ℕ) : ℤ → DelegateAnswer → ℤ
  | begun, .done => begun
  | begun, .setSelectedIndex index inner next =>
      if 0 ≤ index ∧ index < count then lastBegun count (lastBegun count index inner) next
      else lastBegun count begun next

/-- Every click of the answer begins where the click that ended last has the index of the one
that began last. -/
def InStep (count : ℕ) : ℤ → ℤ → DelegateAnswer → Prop
  | _, _, .done => True
  | ended, begun, .setSelectedIndex index inner next =>
      if 0 ≤ index ∧ index < count then
        ended = begun ∧ InStep count ended index inner ∧
          InStep count index (lastBegun count index inner) next
      else InStep count ended begun next

/-- The answer to a click keeps the reports a chain. -/
def Chains (count : ℕ) (ended index : ℤ) (answer : DelegateAnswer) : Prop :=
  InStep count ended index answer ∧ lastBegun count index answer = index

end DelegateAnswer

namespace ZFUISegmentBar

/-- The latest report names the one highlighted button. -/
def LatestHighlighted (bar : ZFUISegmentBar) : Prop :=
  ∀ latest earlier, bar.reports = latest :: earlier → ∃ button ∈ bar.itemBtns,
    (bar.buttons button).tag = latest.toIndex ∧
      ∀ other ∈ bar.itemBtns, (bar.buttons other).selected = true ↔ other = button

/-- The reports made have the indexes of items that are shown. -/
def ReportsValid (bar after : ZFUISegmentBar) : Prop :=
  ∃ made, after.reports = made ++ bar.reports ∧
    ∀ report ∈ made, report.toIndex < bar.itemBtns.length ∧
      report.fromIndex < bar.itemBtns.length

/-- The reports of an action are valid and carry on the chain, and the last one names the
highlighted button when the action is over. -/
def Chained (measure : UIFont → String → ℚ × ℚ) (state : Option ZFUISegmentBar)
    (action : SegmentAction × DelegateAnswer) : Prop :=
  ∀ bar after, state = some bar → bar.performAnswered measure action = some after →
    ReportsValid bar after ∧ Linked after.reports ∧ after.LatestHighlighted

/-- Clicks are answered in step, and an update brings items only before the first selection,
or too few of them for the selected index. -/
def KeepsChain (state : Option ZFUISegmentBar) : SegmentAction × DelegateAnswer → Prop
  | (.setSelectedIndex index, answer) => ∀ bar, state = some bar →
      0 ≤ index ∧ index < bar.itemBtns.length →
      answer.Chains bar.itemBtns.length (lastIndex bar.reports) index
  | (.tap position, answer) => ∀ bar, state = some bar →
      answer.Chains bar.itemBtns.length (lastIndex bar.reports) position
  | (.updateSegmentConfig config, _) => ∀ bar items, state = some bar →
      (bar.configured config).itemDatas = some items → items ≠ [] →
      bar.reports = [] ∨ items.length ≤ bar.selectedIndex
  | (.layout _, _) => True

/-- The index of the button that was selected last. -/
def lastTag (bar : ZFUISegmentBar) : ℕ :=
  (bar.lastSelectedBtn.map fun last => (bar.buttons last).tag).getD 0

/-- The button that was selected last is a current one. -/
def LastShown (bar : ZFUISegmentBar) : Prop :=
  ∀ last, bar.lastSelectedBtn = some last → last ∈ bar.itemBtns

section Clicks

variable {bar called after : ZFUISegmentBar} {button : ℕ} {answer : DelegateAnswer}

theorem Built.tag_lt (built : Built bar) (present : button ∈ bar.itemBtns) :
    (bar.buttons button).tag < bar.itemBtns.length := by
  rcases List.getElem?_eq_some_iff.mp (built.position present) with ⟨below, _⟩
  exact below

theorem lastTag_lt (built : Built bar) (shown : bar.LastShown) (some : bar.itemBtns ≠ []) :
    bar.lastTag < bar.itemBtns.length := by
  rw [lastTag]
  cases selected : bar.lastSelectedBtn with
  | none => exact List.length_pos_iff.mpr some
  | some last => exact built.tag_lt (shown last selected)

/-- What the callback of a click, or a whole click, does to the reports of a bar. -/
structure Reporting (bar after : ZFUISegmentBar) (begun : ℤ) (linked : Prop) : Prop where
  built : Built after
  shown : after.LastShown
  itemBtns : after.itemBtns = bar.itemBtns
  tag : ∀ button, (after.buttons button).tag = (bar.buttons button).tag
  valid : ReportsValid bar after
  begun : (lastIndex after.reports : ℤ) = begun
  linked_iff : Linked after.reports ↔ Linked bar.reports ∧ linked

theorem Reporting.refl (built : Built bar) (shown : bar.LastShown) :
    Reporting bar bar (lastIndex bar.reports) True :=
  ⟨built, shown, rfl, fun _ => rfl, ⟨[], rfl, nofun⟩, rfl, (iff_of_eq (and_true _)).symm⟩

theorem Reporting.trans {middle : ZFUISegmentBar} {firstBegun begun : ℤ} {first second : Prop}
    (one : Reporting bar middle firstBegun first) (two : Reporting middle after begun second) :
    Reporting bar after begun (first ∧ second) where
  built := two.built
  shown := two.shown
  itemBtns := two.itemBtns.trans one.itemBtns
  tag button := (two.tag button).trans (one.tag button)
  valid := by
    rcases one.valid with ⟨earlier, before, earlierValid⟩
    rcases two.valid with ⟨later, behind, laterValid⟩
    rw [one.itemBtns] at laterValid
    refine ⟨later ++ earlier, ?_, ?_⟩
    · rw [behind, before, List.append_assoc]
    · intro report made
      rcases List.mem_append.mp made with made | made
      · exact laterValid report made
      · exact earlierValid report made
  begun := two.begun
  linked_iff := by
    rw [two.linked_iff, one.linked_iff, and_assoc]

theorem built_reportSelection (built : Built bar) (button : ℕ) :
    Built (bar.reportSelection button) :=
  ⟨built.inBounds, built.nonnegative, built.nodup, built.tag, built.made, built.highlighted⟩

theorem lastTag_finishClick (bar : ZFUISegmentBar) (button : ℕ) :
    (bar.finishClick button).lastTag = (bar.buttons button).tag := by
  rw [finishClick_eq]
  exact (clicked_btnClick bar button).tag button

/-- A click with its callback reports its button, and then what the callback does. -/
theorem Reporting.click {begun : ℤ} {linked : Prop} (built : Built bar) (shown : bar.LastShown)
    (present : button ∈ bar.itemBtns)
    (callback : Reporting (bar.reportSelection button) called begun linked) :
    Reporting bar (called.finishClick button) begun
      ((bar.lastTag : ℤ) = lastIndex bar.reports ∧ linked) := by
  have clicked := clicked_btnClick called button
  have still : button ∈ called.itemBtns := by
    rw [callback.itemBtns]
    exact present
  have again := callback.built.of_clicked still clicked
  rw [finishClick_eq]
  refine ⟨⟨again.inBounds, again.nonnegative, again.nodup, again.tag, again.made,
    again.highlighted⟩, ?_, clicked.itemBtns.trans callback.itemBtns, ?_, ?_, callback.begun, ?_⟩
  · intro last selected
    cases clicked.lastSelectedBtn.symm.trans selected
    exact clicked.itemBtns.symm ▸ still
  · intro other
    exact (clicked.tag other).trans (callback.tag other)
  · rcases callback.valid with ⟨made, reports, valid⟩
    refine ⟨made ++ [⟨(bar.buttons button).tag, bar.lastTag⟩], ?_, ?_⟩
    · rw [List.append_assoc]
      exact reports
    · intro report reported
      rcases List.mem_append.mp reported with later | first
      · exact valid report later
      · rw [List.mem_singleton] at first
        subst first
        exact ⟨built.tag_lt present, lastTag_lt built shown (List.ne_nil_of_mem present)⟩
  · have linkedFirst : Linked (bar.reportSelection button).reports ↔
        bar.lastTag = lastIndex bar.reports ∧ Linked bar.reports := Iff.rfl
    have counted : (bar.lastTag : ℤ) = lastIndex bar.reports ↔
        bar.lastTag = lastIndex bar.reports := Nat.cast_inj
    rw [counted]
    have after := callback.linked_iff
    rw [linkedFirst] at after
    tauto

theorem setSelectedIndexCalling_ignored {callback : ZFUISegmentBar → Option ZFUISegmentBar}
    {index : ℤ} (outside : ¬(0 ≤ index ∧ index < bar.itemBtns.length)) :
    bar.setSelectedIndexCalling callback index = some bar := by
  rw [setSelectedIndexCalling, if_pos]
  omega

theorem setSelectedIndexCalling_found {callback : ZFUISegmentBar → Option ZFUISegmentBar}
    {index : ℤ} (inside : 0 ≤ index ∧ index < bar.itemBtns.length)
    (found : objectAtIndex bar.itemBtns index = some button) :
    bar.setSelectedIndexCalling callback index =
      { bar with selectedIndex := index }.btnClickCalling callback button := by
  rw [setSelectedIndexCalling, if_neg, found]
  · rfl
  · omega

theorem Built.tag_found (built : Built bar) {index : ℤ}
    (found : objectAtIndex bar.itemBtns index = some button) :
    ((bar.buttons button).tag : ℤ) = index := by
  rcases objectAtIndex_eq_some_iff.mp found with ⟨nonnegative, placed⟩
  rw [built.tag placed, Int.toNat_of_nonneg nonnegative]

theorem Built.moved (built : Built bar) {index : ℤ}
    (inside : 0 ≤ index ∧ index < bar.itemBtns.length) :
    Built { bar with selectedIndex := index } :=
  ⟨fun _ => inside, inside.1, built.nodup, built.tag, built.made, built.highlighted⟩

/-- The callback of a click does what the delegate's answer says. -/
theorem reporting_answered (answer : DelegateAnswer) (built : Built bar) (shown : bar.LastShown) :
    ∃ after, answered answer bar = some after ∧
      Reporting bar after (answer.lastBegun bar.itemBtns.length (lastIndex bar.reports))
        (answer.InStep bar.itemBtns.length bar.lastTag (lastIndex bar.reports)) := by
  induction answer generalizing bar with
  | done => exact ⟨bar, rfl, Reporting.refl built shown⟩
  | setSelectedIndex index inner next ihInner ihNext =>
      rw [answered, DelegateAnswer.lastBegun, DelegateAnswer.InStep]
      by_cases inside : 0 ≤ index ∧ index < bar.itemBtns.length
      · rw [if_pos inside, if_pos inside]
        rcases exists_objectAtIndex_iff.mpr inside with ⟨button, found⟩
        have present := List.mem_of_getElem? (objectAtIndex_eq_some_iff.mp found).2
        have tag := built.tag_found found
        have moved := built.moved inside
        have begun : (lastIndex ({ bar with selectedIndex := index }.reportSelection
            button).reports : ℤ) = index := tag
        rcases ihInner (built_reportSelection moved button) shown with ⟨called, calls, inner⟩
        rw [begun] at inner
        have click := Reporting.click moved shown present inner
        rcases ihNext click.built click.shown with ⟨after, rest, later⟩
        refine ⟨after, ?_, ?_⟩
        · rw [setSelectedIndexCalling_found inside found, btnClickCalling, calls]
          exact rest
        · have ended : ((called.finishClick button).lastTag : ℤ) = index := by
            rw [lastTag_finishClick, inner.tag]
            exact tag
          have whole := click.trans later
          rw [click.begun, click.itemBtns, ended, and_assoc] at whole
          exact ⟨whole.built, whole.shown, whole.itemBtns, whole.tag, whole.valid, whole.begun,
            whole.linked_iff⟩
      · rw [if_neg inside, if_neg inside, setSelectedIndexCalling_ignored inside]
        exact ihNext built shown

theorem latestHighlighted_finishClick_iff (built : Built bar) (present : button ∈ bar.itemBtns)
    (reported : bar.reports ≠ []) :
    (bar.finishClick button).LatestHighlighted ↔
      lastIndex bar.reports = (bar.buttons button).tag := by
  have clicked := clicked_btnClick bar button
  have highlighted {other : ℕ} (known : other ∈ bar.itemBtns) :
      ((bar.btnClick button).buttons other).selected = true ↔ other = button :=
    built.selected_iff clicked known
  rw [finishClick_eq]
  constructor
  · intro named
    rcases List.exists_cons_of_ne_nil reported with ⟨latest, earlier, reports⟩
    rcases named latest earlier reports with ⟨other, _, tag, only⟩
    have chosen : button = other := by
      apply (only button _).mp ((highlighted present).mpr rfl)
      rw [itemBtns_btnClick]
      exact present
    rw [reports, lastIndex, ← tag, ← chosen]
    exact clicked.tag button
  · intro index latest earlier reports
    refine ⟨button, clicked.itemBtns.symm ▸ present, ?_, ?_⟩
    · rw [show bar.reports = latest :: earlier from reports, lastIndex] at index
      rw [index]
      exact clicked.tag button
    · intro other known
      exact highlighted (clicked.itemBtns ▸ known)

/-- The invariant of the bar while the reports are a chain. -/
structure InChain (bar : ZFUISegmentBar) : Prop where
  built : Built bar
  shown : bar.LastShown
  linked : Linked bar.reports
  latest : bar.LatestHighlighted
  last : bar.lastTag = lastIndex bar.reports
  unselected : bar.reports = [] → bar.lastSelectedBtn = none

theorem InChain.moved (chain : InChain bar) {index : ℤ}
    (inside : 0 ≤ index ∧ index < bar.itemBtns.length) :
    InChain { bar with selectedIndex := index } :=
  ⟨chain.built.moved inside, chain.shown, chain.linked, chain.latest, chain.last,
    chain.unselected⟩

theorem InChain.of_relaid (chain : InChain bar) (relaid : Relaid bar after) : InChain after where
  built := chain.built.of_relaid relaid
  shown := by
    intro last selected
    rw [relaid.lastSelectedBtn] at selected
    rw [relaid.itemBtns]
    exact chain.shown last selected
  linked := relaid.reports ▸ chain.linked
  latest := by
    intro latest earlier reports
    rw [relaid.reports] at reports
    simp only [relaid.itemBtns, relaid.tag, relaid.selected]
    exact chain.latest latest earlier reports
  last := by
    simp only [lastTag, relaid.lastSelectedBtn, relaid.tag, relaid.reports]
    exact chain.last
  unselected := by
    rw [relaid.reports, relaid.lastSelectedBtn]
    exact chain.unselected

/-- A click carries on the chain exactly if it is answered in step. -/
theorem exists_click (chain : InChain bar) {index : ℤ}
    (found : objectAtIndex bar.itemBtns index = some button) (answer : DelegateAnswer) :
    ∃ after, bar.btnClickCalling (answered answer) button = some after ∧
      ReportsValid bar after ∧
      (Linked after.reports ∧ after.LatestHighlighted ↔
        answer.Chains bar.itemBtns.length (lastIndex bar.reports) index) ∧
      (Linked after.reports → after.LatestHighlighted → InChain after) := by
  have present := List.mem_of_getElem? (objectAtIndex_eq_some_iff.mp found).2
  have tag := chain.built.tag_found found
  rcases reporting_answered answer (built_reportSelection chain.built button) chain.shown with
    ⟨called, calls, callback⟩
  have begun : (lastIndex (bar.reportSelection button).reports : ℤ) = index := tag
  have ended : (bar.reportSelection button).lastTag = lastIndex bar.reports := chain.last
  rw [begun, ended] at callback
  have click := Reporting.click chain.built chain.shown present callback
  have still : button ∈ called.itemBtns := by
    rw [callback.itemBtns]
    exact present
  have reported : called.reports ≠ [] := by
    rcases callback.valid with ⟨made, reports, _⟩
    rw [reports]
    exact List.append_ne_nil_of_right_ne_nil made (List.cons_ne_nil _ _)
  have named := latestHighlighted_finishClick_iff callback.built still reported
  have same : lastIndex called.reports = (called.buttons button).tag ↔
      answer.lastBegun bar.itemBtns.length index = index := by
    have numbers : ((called.buttons button).tag : ℤ) = index := by
      rw [callback.tag]
      exact tag
    have last : (lastIndex called.reports : ℤ) = answer.lastBegun bar.itemBtns.length index :=
      callback.begun
    omega
  refine ⟨called.finishClick button, by rw [btnClickCalling, calls]; rfl, click.valid, ?_, ?_⟩
  · rw [click.linked_iff, named, same, DelegateAnswer.Chains, chain.last]
    exact and_congr_left fun _ => ⟨fun all => all.2.2, fun inStep => ⟨chain.linked, rfl, inStep⟩⟩
  · intro linked latest
    have reports : (called.finishClick button).reports = called.reports := by
      rw [finishClick_eq]
    refine ⟨click.built, click.shown, linked, latest, ?_, ?_⟩
    · rw [lastTag_finishClick, reports]
      exact (named.mp latest).symm
    · intro none
      exact absurd (reports ▸ none) reported

end Clicks

section Steps

variable {measure : UIFont → String → ℚ × ℚ} {bar after : ZFUISegmentBar}

theorem chained_some_iff {action : SegmentAction × DelegateAnswer}
    (performed : bar.performAnswered measure action = some after) :
    Chained measure (some bar) action ↔
      ReportsValid bar after ∧ Linked after.reports ∧ after.LatestHighlighted := by
  constructor
  · intro chained
    exact chained bar after rfl performed
  · rintro holds _ _ ⟨⟩ same
    cases performed.symm.trans same
    exact holds

/-- A step carries on the chain exactly if it meets the condition, and then it keeps the
invariant. -/
def ExactStep (measure : UIFont → String → ℚ × ℚ) (bar : ZFUISegmentBar)
    (action : SegmentAction × DelegateAnswer) : Prop :=
  (Chained measure (some bar) action ↔ KeepsChain (some bar) action) ∧
    (KeepsChain (some bar) action → ∀ after,
      bar.performAnswered measure action = some after → InChain after)

theorem exactStep_click {moved : ZFUISegmentBar} {button : ℕ} {index : ℤ}
    {action : SegmentAction × DelegateAnswer} (chain : InChain moved)
    (found : objectAtIndex moved.itemBtns index = some button)
    (valid : ∀ after, ReportsValid moved after → ReportsValid bar after)
    (performs : bar.performAnswered measure action =
      moved.btnClickCalling (answered action.2) button)
    (keeps : KeepsChain (some bar) action ↔
      action.2.Chains moved.itemBtns.length (lastIndex moved.reports) index) :
    ExactStep measure bar action := by
  rcases exists_click chain found action.2 with ⟨after, clicks, reported, exact, later⟩
  have performed := performs.trans clicks
  rw [ExactStep, keeps, ← exact, chained_some_iff performed]
  refine ⟨and_iff_right (valid after reported), ?_⟩
  rintro ⟨linked, latest⟩ other same
  cases performed.symm.trans same
  exact later linked latest

theorem exactStep_relaid {action : SegmentAction × DelegateAnswer} (chain : InChain bar)
    (performed : bar.performAnswered measure action = some after) (relaid : Relaid bar after)
    (keeps : KeepsChain (some bar) action) : ExactStep measure bar action := by
  have later := chain.of_relaid relaid
  refine ⟨iff_of_true ?_ keeps, ?_⟩
  · rw [chained_some_iff performed]
    exact ⟨⟨[], relaid.reports, nofun⟩, later.linked, later.latest⟩
  · intro _ other same
    cases performed.symm.trans same
    exact later

theorem exactStep_setSelectedIndex (chain : InChain bar) (index : ℤ) (answer : DelegateAnswer) :
    ExactStep measure bar (.setSelectedIndex index, answer) := by
  by_cases inside : 0 ≤ index ∧ index < bar.itemBtns.length
  · rcases exists_objectAtIndex_iff.mpr inside with ⟨button, found⟩
    refine exactStep_click (chain.moved inside) found ?_ ?_ ?_
    · intro after valid
      exact valid
    · exact setSelectedIndexCalling_found inside found
    · constructor
      · intro keeps
        exact keeps bar rfl inside
      · rintro chains _ ⟨⟩ _
        exact chains
  · refine exactStep_relaid chain (setSelectedIndexCalling_ignored inside) (Relaid.refl bar) ?_
    rintro _ ⟨⟩ within
    exact absurd within inside

theorem exactStep_tap (chain : InChain bar) {position : ℕ} (answer : DelegateAnswer)
    (below : position < bar.itemBtns.length) :
    ExactStep measure bar (.tap position, answer) := by
  have placed := List.getElem?_eq_getElem below
  have found : objectAtIndex bar.itemBtns position = some bar.itemBtns[position] :=
    objectAtIndex_eq_some_iff.mpr ⟨Int.natCast_nonneg position, placed⟩
  refine exactStep_click chain found ?_ ?_ ?_
  · intro after valid
    exact valid
  · rw [performAnswered, placed]
    rfl
  · constructor
    · intro keeps
      exact keeps bar rfl
    · rintro chains _ ⟨⟩
      exact chains

theorem exactStep_layout (chain : InChain bar) (frame : CGRect) (answer : DelegateAnswer) :
    ExactStep measure bar (.layout frame, answer) := by
  have framed : Relaid bar { bar with frame } :=
    ⟨rfl, rfl, rfl, rfl, rfl, fun _ => rfl, fun _ => rfl⟩
  have inBounds := (chain.of_relaid framed).built.inBounds
  rcases exists_layoutSubviews_iff.mpr inBounds with ⟨final, laidOut⟩
  exact exactStep_relaid chain laidOut (framed.trans (relaid_layoutSubviews laidOut)) trivial

theorem InChain.of_rebuilt {count : ℕ} (chain : InChain bar) (unreported : bar.reports = [])
    (rebuilt : Rebuilt bar after count) (inBounds : after.InBounds) : InChain after := by
  have unselected := chain.unselected unreported
  have reports : after.reports = [] := rebuilt.reports.trans unreported
  have none : after.lastSelectedBtn = none := rebuilt.lastSelectedBtn.trans unselected
  refine ⟨Built.of_rebuilt (fun known => chain.built.made (Or.inr known)) chain.built.nonnegative
    rebuilt inBounds, ?_, ?_, ?_, ?_, fun _ => none⟩
  · intro last selected
    rw [none] at selected
    cases selected
  · rw [reports]
    trivial
  · intro latest earlier reported
    rw [reports] at reported
    cases reported
  · rw [lastTag, none, reports]
    rfl

/-- New buttons break the chain once something was selected. -/
theorem not_latestHighlighted_rebuilt {count : ℕ} (rebuilt : Rebuilt bar after count)
    (reported : bar.reports ≠ []) : ¬after.LatestHighlighted := by
  intro named
  rcases List.exists_cons_of_ne_nil reported with ⟨latest, earlier, reports⟩
  rcases named latest earlier (rebuilt.reports.trans reports) with ⟨button, present, _, only⟩
  have selected := (only button present).mpr rfl
  rw [rebuilt.itemBtns, List.mem_range'_1] at present
  have fresh := rebuilt.selected (button - bar.buttonCount) (by omega)
  rw [Nat.add_sub_cancel' present.1, selected] at fresh
  cases fresh

theorem latestHighlighted_relaid_iff (relaid : Relaid bar after) :
    after.LatestHighlighted ↔ bar.LatestHighlighted := by
  simp only [LatestHighlighted, relaid.itemBtns, relaid.reports, relaid.tag, relaid.selected]

section Updates

variable {config : Option (ZFUISegmentBarConfig → ZFUISegmentBarConfig)}

theorem exactStep_idle (chain : InChain bar) (answer : DelegateAnswer)
    (idle : ∀ items, (bar.configured config).itemDatas = some items → items = []) :
    ExactStep measure bar (.updateSegmentConfig config, answer) := by
  have relaid := Relaid.restyle bar (bar.configured config)
  have inBounds := (chain.of_relaid relaid).built.inBounds
  rcases exists_layoutSubviews_iff.mpr inBounds with ⟨final, laidOut⟩
  have performed : bar.updateSegmentConfig measure config = some final :=
    (setItems_of_idle idle).trans laidOut
  refine exactStep_relaid chain performed (relaid.trans (relaid_layoutSubviews laidOut)) ?_
  rintro _ items ⟨⟩ given nonempty
  exact absurd (idle items given) nonempty

theorem keepsChain_items_iff {items : List String} {answer : DelegateAnswer}
    (given : (bar.configured config).itemDatas = some items) (nonempty : items ≠ []) :
    KeepsChain (some bar) (.updateSegmentConfig config, answer) ↔
      bar.reports = [] ∨ items.length ≤ bar.selectedIndex := by
  constructor
  · intro keeps
    exact keeps bar items rfl given nonempty
  · rintro allowed _ others ⟨⟩ same _
    cases given.symm.trans same
    exact allowed

theorem exactStep_items (chain : InChain bar) {items : List String} (answer : DelegateAnswer)
    (given : (bar.configured config).itemDatas = some items) (nonempty : items ≠ []) :
    ExactStep measure bar (.updateSegmentConfig config, answer) := by
  have relaid := Relaid.restyle bar (bar.configured config)
  have restyled := chain.of_relaid relaid
  have rebuilt := rebuilt_rebuild (bar.restyle (bar.configured config)) items
  have inside := rebuilt.inBounds_iff restyled.built.nonnegative (List.length_pos_iff.mpr nonempty)
  rw [relaid.selectedIndex, ← @exists_layoutSubviews_iff measure] at inside
  have updates : bar.performAnswered measure (.updateSegmentConfig config, answer) =
      ((bar.restyle (bar.configured config)).rebuild items).layoutSubviews measure := by
    rw [performAnswered, updateSegmentConfig, given, setItems_of_items nonempty]
  rw [ExactStep, keepsChain_items_iff given nonempty]
  by_cases below : bar.selectedIndex < items.length
  · rcases inside.mpr below with ⟨final, laidOut⟩
    have performed := updates.trans laidOut
    have settled := relaid_layoutSubviews laidOut
    have inBounds := exists_layoutSubviews_iff.mp ⟨final, laidOut⟩
    have later (unreported : bar.reports = []) : InChain final :=
      (restyled.of_rebuilt (relaid.reports.trans unreported) rebuilt inBounds).of_relaid settled
    have short : ¬(items.length : ℤ) ≤ bar.selectedIndex := not_le.mpr below
    rw [or_iff_left short, chained_some_iff performed]
    refine ⟨⟨?_, ?_⟩, ?_⟩
    · rintro ⟨_, _, named⟩
      by_contra reported
      rw [latestHighlighted_relaid_iff settled] at named
      rw [← relaid.reports] at reported
      exact not_latestHighlighted_rebuilt rebuilt reported named
    · intro unreported
      have chained := later unreported
      refine ⟨⟨[], ?_, ?_⟩, chained.linked, chained.latest⟩
      · exact settled.reports.trans (rebuilt.reports.trans relaid.reports)
      · intro report member
        cases member
    · intro unreported other same
      cases performed.symm.trans same
      exact later unreported
  · have raises {after : ZFUISegmentBar} : bar.performAnswered measure
        (.updateSegmentConfig config, answer) ≠ some after := by
      intro performed
      exact below (inside.mp ⟨after, updates.symm.trans performed⟩)
    refine ⟨iff_of_true ?_ (Or.inr (not_lt.mp below)), ?_⟩
    · rintro _ after ⟨⟩ performed
      exact absurd performed raises
    · intro _ after performed
      exact absurd performed raises

end Updates

theorem exactStep (chain : InChain bar) {action : SegmentAction × DelegateAnswer}
    (admitted : Admits (some bar) action.1) : ExactStep measure bar action := by
  rcases action with ⟨action, answer⟩
  cases action with
  | updateSegmentConfig config =>
      by_cases idle : ∀ items, (bar.configured config).itemDatas = some items → items = []
      · exact exactStep_idle chain answer idle
      · push Not at idle
        rcases idle with ⟨items, given, nonempty⟩
        exact exactStep_items chain answer given nonempty
  | setSelectedIndex index => exact exactStep_setSelectedIndex chain index answer
  | tap position =>
      rcases admitted with ⟨_, same, touched⟩
      cases same
      exact exactStep_tap chain answer (touched position rfl)
  | layout frame => exact exactStep_layout chain frame answer

/-- The bar, if it is still there, is in chain. -/
def ReportsInChain (state : Option ZFUISegmentBar) : Prop :=
  ∀ bar, state = some bar → InChain bar

theorem reportsInChain_segmentBarWithFrame (frame : CGRect) (items : Option (List String)) :
    ReportsInChain (segmentBarWithFrame measure frame items) := by
  intro bar created
  have start : InChain { frame } :=
    ⟨built_empty frame, nofun, trivial, nofun, rfl, fun _ => rfl⟩
  rw [segmentBarWithFrame] at created
  by_cases idle : ∀ list, items = some list → list = []
  · rw [setItems_of_idle idle] at created
    exact start.of_relaid (relaid_layoutSubviews created)
  · push Not at idle
    rcases idle with ⟨list, rfl, nonempty⟩
    rw [setItems_of_items nonempty] at created
    have inBounds := exists_layoutSubviews_iff.mp ⟨bar, created⟩
    have rebuilt := rebuilt_rebuild { frame } list
    exact (start.of_rebuilt rfl rebuilt inBounds).of_relaid (relaid_layoutSubviews created)

end Steps

end ZFUISegmentBar

/-- The reports of a run are a chain exactly if its clicks are answered in step and no update
brings items after the first selection. -/
theorem run_chained_iff {measure : UIFont → String → ℚ × ℚ} {frame : CGRect}
    {items : Option (List String)} {actions : List (SegmentAction × DelegateAnswer)}
    (runs : (delegateSystem measure).Runs
      (ZFUISegmentBar.segmentBarWithFrame measure frame items) actions) :
    (delegateSystem measure).Along (ZFUISegmentBar.Chained measure)
        (ZFUISegmentBar.segmentBarWithFrame measure frame items) actions ↔
      (delegateSystem measure).Along ZFUISegmentBar.KeepsChain
        (ZFUISegmentBar.segmentBarWithFrame measure frame items) actions := by
  refine ActionSystem.along_iff_along ?_ ?_
    (ZFUISegmentBar.reportsInChain_segmentBarWithFrame frame items) runs
  · rintro _ action chain ⟨bar, rfl, touched⟩ keeps after performed
    exact (ZFUISegmentBar.exactStep (chain bar rfl) ⟨bar, rfl, touched⟩).2 keeps after performed
  · rintro _ action chain ⟨bar, rfl, touched⟩
    exact (ZFUISegmentBar.exactStep (chain bar rfl) ⟨bar, rfl, touched⟩).1

/-- The third button is touched; then it is set again, and the delegate visits the second. -/
def visited : List (SegmentAction × DelegateAnswer) :=
  [(.tap 2, .done),
    (.setSelectedIndex 2, .setSelectedIndex 1 .done (.setSelectedIndex 2 .done .done))]

theorem run_chained_visited :
    (delegateSystem measureLetters).Along (ZFUISegmentBar.Chained measureLetters)
      (ZFUISegmentBar.segmentBarWithFrame measureLetters {} (some ["a", "b", "c"])) visited := by
  refine (run_chained_iff ?_).mpr ?_
  · refine ⟨⟨_, rfl, ?_⟩, ⟨_, rfl, nofun⟩, trivial⟩
    rintro position ⟨⟩
    decide
  · refine ⟨?_, ?_, trivial⟩
    · rintro bar ⟨⟩
      exact ⟨trivial, rfl⟩
    · rintro bar ⟨⟩ _
      exact ⟨⟨rfl, trivial, rfl, trivial, trivial⟩, rfl⟩

/-- The second button is touched, and the delegate sets the third from inside its callback. -/
def redirected : List (SegmentAction × DelegateAnswer) :=
  [(.tap 1, .setSelectedIndex 2 .done .done)]

/-- The second report starts from 0, though the first one ended at 1. -/
theorem redirected_not_chained :
    (delegateSystem measureLetters).Runs
        (ZFUISegmentBar.segmentBarWithFrame measureLetters {} (some ["a", "b", "c"])) redirected ∧
      ¬(delegateSystem measureLetters).Along (ZFUISegmentBar.Chained measureLetters)
        (ZFUISegmentBar.segmentBarWithFrame measureLetters {} (some ["a", "b", "c"]))
        redirected := by
  refine ⟨⟨⟨_, rfl, ?_⟩, trivial⟩, ?_⟩
  · rintro position ⟨⟩
    decide
  · rintro ⟨chained, _⟩
    rcases chained _ _ rfl rfl with ⟨_, linked, _⟩
    cases linked.1

end ZFBaseFramework
