import ZFBaseFramework.Library.ActionSystem

/-!
# A system seen through a smaller one

A view shows a part of the state of a system, and of its actions those that concern this
part. Where every step either is not seen or shows as a step of a smaller system, a run
shows as the run of the smaller system over the actions that are seen: `Projects.run`.
Runs that show the same actions then end in states that show the same: `Projects.agree`.
Of a broadcast to many parts, a view of one part shows one step: `view_foldl_of_mem`.
-/

namespace ZFBaseFramework

universe u v w x y z t

namespace ActionSystem

variable {State : Type u} {Action : Type v} {Shown : Type w} {Sight : Type x} {Output : Type y}

/-- The actions of a list that are seen, as what they show at the moment they are performed. -/
def seen (system : ActionSystem State Action) (sees : State → Action → Option Sight)
    (start : State) : List Action → List Sight
  | [] => []
  | action :: rest =>
      (sees start action).toList ++ seen system sees (system.perform start action) rest

theorem seen_append (system : ActionSystem State Action) (sees : State → Action → Option Sight)
    (start : State) (first second : List Action) :
    system.seen sees start (first ++ second) =
      system.seen sees start first ++ system.seen sees (system.exec start first) second := by
  induction first generalizing start with
  | nil => rfl
  | cons action rest ih =>
      rw [List.cons_append, seen, ih, seen, List.append_assoc]
      rfl

theorem mem_seen {system : ActionSystem State Action} {sees : State → Action → Option Sight}
    {start : State} {actions : List Action} {sight : Sight}
    (member : sight ∈ system.seen sees start actions) :
    ∃ state, ∃ action ∈ actions, sees state action = some sight := by
  induction actions generalizing start with
  | nil => cases member
  | cons action rest ih =>
      rcases List.mem_append.mp member with now | later
      · exact ⟨start, action, List.mem_cons_self, Option.mem_toList.mp now⟩
      · rcases ih later with ⟨state, other, listed, shown⟩
        exact ⟨state, other, List.mem_cons_of_mem _ listed, shown⟩

/-- What is seen by looking at the actions alone. -/
theorem seen_filter (system : ActionSystem State Action) (looks : Action → Prop)
    [DecidablePred looks] (start : State) (actions : List Action) :
    system.seen (fun _ action => if looks action then some action else none) start actions =
      actions.filter (looks ·) := by
  induction actions generalizing start with
  | nil => rfl
  | cons action rest ih =>
      rw [seen, ih, List.filter_cons]
      by_cases looked : looks action
      · simp [looked]
      · simp [looked]

@[simp]
theorem seen_restrict (system : ActionSystem State Action) (condition : State → Action → Prop)
    (sees : State → Action → Option Sight) (start : State) (actions : List Action) :
    (system.restrict condition).seen sees start actions = system.seen sees start actions := by
  induction actions generalizing start with
  | nil => rfl
  | cons action rest ih =>
      exact congrArg ((sees start action).toList ++ ·) (ih (system.perform start action))

@[simp]
theorem outputs_restrict (system : ActionSystem State Action)
    (condition : State → Action → Prop) (output : State → Action → Output) (start : State)
    (actions : List Action) :
    (system.restrict condition).outputs output start actions =
      system.outputs output start actions := by
  induction actions generalizing start with
  | nil => rfl
  | cons action rest ih =>
      exact congrArg (output start action :: ·) (ih (system.perform start action))

/-- Every step from a state with the invariant is unseen, or shows as a step of the smaller
system with the same outputs. -/
structure Projects (system : ActionSystem State Action) (smaller : ActionSystem Shown Sight)
    (invariant : State → Prop) (view : State → Shown) (sees : State → Action → Option Sight)
    (output : State → Action → List Output) (smallerOutput : Shown → Sight → List Output) :
    Prop where
  kept : ∀ {state action}, invariant state → system.Admits state action →
    invariant (system.perform state action)
  unseen : ∀ {state action}, invariant state → system.Admits state action →
    sees state action = none →
    view (system.perform state action) = view state ∧ output state action = []
  shown : ∀ {state action sight}, invariant state → system.Admits state action →
    sees state action = some sight →
    smaller.Admits (view state) sight ∧
      view (system.perform state action) = smaller.perform (view state) sight ∧
      output state action = smallerOutput (view state) sight

namespace Projects

variable {OtherState : Type z} {OtherAction : Type t} {system : ActionSystem State Action}
  {smaller : ActionSystem Shown Sight}
  {invariant : State → Prop} {view : State → Shown} {sees : State → Action → Option Sight}
  {output : State → Action → List Output} {smallerOutput : Shown → Sight → List Output}
  (projects : system.Projects smaller invariant view sees output smallerOutput)

include projects

/-- A run shows as a run of the smaller system, with the same outputs. -/
theorem run {start : State} {actions : List Action} (holds : invariant start)
    (runs : system.Runs start actions) :
    smaller.Runs (view start) (system.seen sees start actions) ∧
      view (system.exec start actions) =
        smaller.exec (view start) (system.seen sees start actions) ∧
      (system.outputs output start actions).flatten =
        (smaller.outputs smallerOutput (view start) (system.seen sees start actions)).flatten := by
  induction actions generalizing start with
  | nil => exact ⟨trivial, rfl, rfl⟩
  | cons action rest ih =>
      rcases runs with ⟨admitted, later⟩
      rcases ih (projects.kept holds admitted) later with ⟨runs, same, told⟩
      rw [seen, outputs, List.flatten_cons, told, exec_cons, same]
      cases found : sees start action with
      | none =>
          rcases projects.unseen holds admitted found with ⟨still, silent⟩
          rw [still] at runs ⊢
          rw [silent]
          exact ⟨runs, rfl, rfl⟩
      | some sight =>
          rcases projects.shown holds admitted found with ⟨follows, moves, gives⟩
          rw [moves] at runs ⊢
          rw [gives]
          exact ⟨⟨follows, runs⟩, rfl, rfl⟩

/-- Runs of two systems that show the same actions from the same view end in the same view and
give out the same. -/
theorem agree {otherSystem : ActionSystem OtherState OtherAction}
    {otherInvariant : OtherState → Prop} {otherView : OtherState → Shown}
    {otherSees : OtherState → OtherAction → Option Sight}
    {otherOutput : OtherState → OtherAction → List Output}
    (others : otherSystem.Projects smaller otherInvariant otherView otherSees otherOutput
      smallerOutput)
    {first : State} {second : OtherState} {firstActions : List Action}
    {secondActions : List OtherAction}
    (firstHolds : invariant first) (secondHolds : otherInvariant second)
    (firstRuns : system.Runs first firstActions)
    (secondRuns : otherSystem.Runs second secondActions) (same : view first = otherView second)
    (shown : system.seen sees first firstActions =
      otherSystem.seen otherSees second secondActions) :
    view (system.exec first firstActions) = otherView (otherSystem.exec second secondActions) ∧
      (system.outputs output first firstActions).flatten =
        (otherSystem.outputs otherOutput second secondActions).flatten := by
  rcases projects.run firstHolds firstRuns with ⟨_, firstView, firstTold⟩
  rcases others.run secondHolds secondRuns with ⟨_, secondView, secondTold⟩
  rw [firstView, secondView, firstTold, secondTold, same, shown]
  exact ⟨rfl, rfl⟩

end Projects

/-- A listener that follows the outputs of every step follows those of a run. -/
theorem Runs.followed {system : ActionSystem State Action} {invariant : State → Prop}
    {output : State → Action → List Output} {listen : Shown → Output → Option Shown}
    {stage : State → Shown}
    (kept : ∀ {state action}, invariant state → system.Admits state action →
      invariant (system.perform state action))
    (step : ∀ {state action}, invariant state → system.Admits state action →
      (output state action).foldlM listen (stage state) =
        some (stage (system.perform state action)))
    {start : State} {actions : List Action} (holds : invariant start)
    (runs : system.Runs start actions) :
    (system.outputs output start actions).flatten.foldlM listen (stage start) =
      some (stage (system.exec start actions)) := by
  induction actions generalizing start with
  | nil => rfl
  | cons action rest ih =>
      rcases runs with ⟨admitted, later⟩
      rw [outputs, List.flatten_cons, List.foldlM_append, step holds admitted]
      exact ih (kept holds admitted) later

section Broadcast

variable {Index : Type v} {step : State → Index → State} {view : State → Shown}
  {act : Shown → Shown} {invariant : State → Prop} {start : State} {indices : List Index}
  (kept : ∀ {state} index, invariant state → invariant (step state index))

include kept

/-- Steps that are not seen, one after another. -/
theorem view_foldl_of_still
    (still : ∀ {state}, invariant state → ∀ index ∈ indices, view (step state index) = view state)
    (holds : invariant start) : view (indices.foldl step start) = view start := by
  induction indices generalizing start with
  | nil => rfl
  | cons index rest ih =>
      have later := ih (fun holds other member => still holds other (List.mem_cons_of_mem _ member))
        (kept index holds)
      rw [List.foldl_cons, later, still holds index List.mem_cons_self]

/-- Of the steps of different indices, only the one of its own index is seen. -/
theorem view_foldl_of_mem {mine : Index} (nodup : indices.Nodup) (member : mine ∈ indices)
    (own : ∀ {state}, invariant state → view (step state mine) = act (view state))
    (still : ∀ {state}, invariant state → ∀ index ∈ indices, index ≠ mine →
      view (step state index) = view state)
    (holds : invariant start) : view (indices.foldl step start) = act (view start) := by
  induction indices generalizing start with
  | nil => cases member
  | cons index rest ih =>
      rcases List.nodup_cons.mp nodup with ⟨fresh, nodup⟩
      rw [List.foldl_cons]
      rcases List.mem_cons.mp member with rfl | later
      · have unseen : view (rest.foldl step (step start mine)) = view (step start mine) := by
          apply view_foldl_of_still kept _ (kept mine holds)
          intro state holds other listed
          refine still holds other (List.mem_cons_of_mem _ listed) ?_
          rintro rfl
          exact fresh listed
        rw [unseen, own holds]
      · have different : index ≠ mine := by
          rintro rfl
          exact fresh later
        rw [ih nodup later (fun holds other listed => still holds other
          (List.mem_cons_of_mem _ listed)) (kept index holds),
          still holds index List.mem_cons_self different]

end Broadcast

end ActionSystem

end ZFBaseFramework
