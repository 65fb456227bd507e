import Mathlib.Tactic.Common

/-!
# Runs of guarded action systems

An action system performs actions one after another; a guard says which actions
a state admits. Performing is total and deterministic, so a run is determined by
its start and its list of actions, and everything below is induction over that
list: `Preserves.exec` carries an invariant along a run, `Preserves.along` reads off
what it says about the steps, and `restrict` adds a condition that every step of a
run has to meet.
-/

namespace ZFBaseFramework

universe u v w

/-- A deterministic system whose states admit some of its actions. -/
structure ActionSystem (State : Type u) (Action : Type v) where
  /-- The guard: which actions can happen in a state. -/
  Admits : State → Action → Prop
  /-- The effect of an action. -/
  perform : State → Action → State

namespace ActionSystem

variable {State : Type u} {Action : Type v} (system : ActionSystem State Action)

/-- The state a list of actions leads to. -/
def exec (start : State) (actions : List Action) : State :=
  actions.foldl system.perform start

/-- Every action of the list is admitted at the moment it is performed. -/
def Runs (start : State) : List Action → Prop
  | [] => True
  | action :: rest =>
      system.Admits start action ∧ Runs (system.perform start action) rest

/-- Every step of the list is as the relation between a state and its next action says. -/
def Along (relation : State → Action → Prop) (start : State) : List Action → Prop
  | [] => True
  | action :: rest =>
      relation start action ∧ Along relation (system.perform start action) rest

/-- Every state reached along the list, the first one included, has the property. -/
def Throughout (property : State → Prop) (start : State) : List Action → Prop
  | [] => property start
  | action :: rest => property start ∧ Throughout property (system.perform start action) rest

/-- Some action of the list resets, and no later one sets. -/
def Reset (sets resets : State → Action → Prop) (start : State) (actions : List Action) : Prop :=
  ∃ before action after, actions = before ++ action :: after ∧
    resets (system.exec start before) action ∧
    system.Along (fun state action => ¬sets state action)
      (system.exec start (before ++ [action])) after

/-- What the actions of the list give out, one after another. -/
def outputs {Output : Type w} (output : State → Action → Output) (start : State) :
    List Action → List Output
  | [] => []
  | action :: rest => output start action :: outputs output (system.perform start action) rest

/-- The states some run leads to. -/
def Reachable (start state : State) : Prop :=
  ∃ actions, system.Runs start actions ∧ system.exec start actions = state

/-- The system whose steps meet an additional condition on the state before them. -/
def restrict (condition : State → Action → Prop) : ActionSystem State Action where
  Admits state action := system.Admits state action ∧ condition state action
  perform := system.perform

/-- No admitted action breaks the property. -/
def Preserves (property : State → Prop) : Prop :=
  ∀ state action, property state → system.Admits state action →
    property (system.perform state action)

instance decidableRuns [∀ state action, Decidable (system.Admits state action)] :
    ∀ (start : State) (actions : List Action), Decidable (system.Runs start actions)
  | _, [] => isTrue trivial
  | start, action :: rest =>
      have := decidableRuns (system.perform start action) rest
      inferInstanceAs (Decidable (system.Admits start action ∧
        system.Runs (system.perform start action) rest))

@[simp]
theorem exec_nil (start : State) : system.exec start [] = start := rfl

@[simp]
theorem exec_cons (start : State) (action : Action) (rest : List Action) :
    system.exec start (action :: rest) = system.exec (system.perform start action) rest := rfl

@[simp]
theorem exec_append (start : State) (first second : List Action) :
    system.exec start (first ++ second) = system.exec (system.exec start first) second :=
  List.foldl_append

@[simp]
theorem runs_nil (start : State) : system.Runs start [] := trivial

@[simp]
theorem runs_cons (start : State) (action : Action) (rest : List Action) :
    system.Runs start (action :: rest) ↔
      system.Admits start action ∧ system.Runs (system.perform start action) rest := Iff.rfl

@[simp]
theorem runs_append (start : State) (first second : List Action) :
    system.Runs start (first ++ second) ↔
      system.Runs start first ∧ system.Runs (system.exec start first) second := by
  induction first generalizing start with
  | nil => simp
  | cons action rest ih => simp [ih, and_assoc]

@[simp]
theorem along_restrict (condition relation : State → Action → Prop) (start : State)
    (actions : List Action) :
    (system.restrict condition).Along relation start actions ↔
      system.Along relation start actions := by
  induction actions generalizing start with
  | nil => rfl
  | cons action rest ih => exact and_congr Iff.rfl (ih (system.perform start action))

theorem along_and (first second : State → Action → Prop) (start : State) (actions : List Action) :
    system.Along (fun state action => first state action ∧ second state action) start actions ↔
      system.Along first start actions ∧ system.Along second start actions := by
  induction actions generalizing start with
  | nil => simp [Along]
  | cons action rest ih =>
      rw [Along, Along, Along, ih]
      exact and_and_and_comm

theorem along_iff_forall (condition : Action → Prop) (start : State) (actions : List Action) :
    system.Along (fun _ action => condition action) start actions ↔
      ∀ action ∈ actions, condition action := by
  induction actions generalizing start with
  | nil => simp [Along]
  | cons action rest ih =>
      rw [List.forall_mem_cons]
      exact and_congr Iff.rfl (ih (system.perform start action))

/-- What a run gives out is among what its actions are about. -/
theorem sublist_outputs {Output : Type w} {output : State → Action → List Output}
    {about : Action → List Output}
    (sublist : ∀ state action, (output state action).Sublist (about action)) (start : State)
    (actions : List Action) :
    (system.outputs output start actions).flatten.Sublist (actions.flatMap about) := by
  induction actions generalizing start with
  | nil => exact List.Sublist.slnil
  | cons action rest ih =>
      rw [outputs, List.flatten_cons, List.flatMap_cons]
      exact (sublist start action).append (ih (system.perform start action))

theorem not_reset_nil (sets resets : State → Action → Prop) (start : State) :
    ¬system.Reset sets resets start [] := by
  rintro ⟨before, action, after, split, _⟩
  simp at split

theorem reset_cons (sets resets : State → Action → Prop) (start : State) (action : Action)
    (rest : List Action) :
    system.Reset sets resets start (action :: rest) ↔
      resets start action ∧
          system.Along (fun state action => ¬sets state action) (system.perform start action) rest ∨
        system.Reset sets resets (system.perform start action) rest := by
  constructor
  · rintro ⟨before, last, after, split, reset, along⟩
    cases before with
    | nil =>
        rcases List.cons_eq_cons.mp split with ⟨rfl, rfl⟩
        exact Or.inl ⟨reset, along⟩
    | cons first before =>
        rcases List.cons_eq_cons.mp split with ⟨rfl, rfl⟩
        exact Or.inr ⟨before, last, after, rfl, reset, along⟩
  · rintro (⟨reset, along⟩ | ⟨before, last, after, rfl, reset, along⟩)
    · exact ⟨[], action, rest, rfl, reset, along⟩
    · exact ⟨action :: before, last, after, rfl, reset, along⟩

theorem runs_restrict_iff (condition : State → Action → Prop) (start : State)
    (actions : List Action) :
    (system.restrict condition).Runs start actions ↔
      system.Runs start actions ∧ system.Along condition start actions := by
  induction actions generalizing start with
  | nil => simp [Along]
  | cons action rest ih =>
      have later := ih (system.perform start action)
      constructor
      · rintro ⟨⟨admitted, holds⟩, runs⟩
        exact ⟨⟨admitted, (later.mp runs).1⟩, holds, (later.mp runs).2⟩
      · rintro ⟨⟨admitted, runs⟩, holds, along⟩
        exact ⟨⟨admitted, holds⟩, later.mpr ⟨runs, along⟩⟩

/-- The actions of a list without those that are silent at the moment they are performed. -/
def audible (silent : State → Action → Prop) [∀ state action, Decidable (silent state action)]
    (start : State) : List Action → List Action
  | [] => []
  | action :: rest =>
      if silent start action then audible silent (system.perform start action) rest
      else action :: audible silent (system.perform start action) rest

variable {system}

/-- Where silent steps keep a relation to a second state and the others are followed by it, the
second state follows the run without its silent steps. -/
theorem Runs.audible {condition : State → Action → Prop} (silent : State → Action → Prop)
    [∀ state action, Decidable (silent state action)] (related : State → State → Prop)
    (skip : ∀ state follower action, related state follower → system.Admits state action →
      condition state action → silent state action →
      related (system.perform state action) follower)
    (follow : ∀ state follower action, related state follower → system.Admits state action →
      ¬silent state action → system.Admits follower action ∧
      related (system.perform state action) (system.perform follower action))
    {start follower : State} {actions : List Action} (holds : related start follower)
    (runs : (system.restrict condition).Runs start actions) :
    system.Runs follower (system.audible silent start actions) ∧
      related (system.exec start actions)
        (system.exec follower (system.audible silent start actions)) := by
  induction actions generalizing start follower with
  | nil => exact ⟨trivial, holds⟩
  | cons action rest ih =>
      rcases runs with ⟨⟨admitted, met⟩, runs⟩
      rw [ActionSystem.audible]
      split
      · rename_i quiet
        exact ih (skip start follower action holds admitted met quiet) runs
      · rename_i loud
        rcases follow start follower action holds admitted loud with ⟨followed, later⟩
        rcases ih later runs with ⟨rest, final⟩
        exact ⟨⟨followed, rest⟩, final⟩

theorem Runs.of_restrict {condition : State → Action → Prop} {start : State}
    {actions : List Action} (runs : (system.restrict condition).Runs start actions) :
    system.Runs start actions := by
  induction actions generalizing start with
  | nil => trivial
  | cons action rest ih => exact ⟨runs.1.1, ih runs.2⟩

/-- Where related states give out the same and stay related, runs give out the same. -/
theorem Runs.outputs_eq {Follower : Type u} {Output : Type w} {other : ActionSystem Follower Action}
    {output : State → Action → Output} {otherOutput : Follower → Action → Output}
    {condition : State → Action → Prop} (related : State → Follower → Prop)
    (step : ∀ state follower action, related state follower → system.Admits state action →
      condition state action → output state action = otherOutput follower action ∧
      related (system.perform state action) (other.perform follower action))
    {start : State} {follower : Follower} {actions : List Action} (holds : related start follower)
    (runs : (system.restrict condition).Runs start actions) :
    system.outputs output start actions = other.outputs otherOutput follower actions := by
  induction actions generalizing start follower with
  | nil => rfl
  | cons action rest ih =>
      rcases runs with ⟨⟨admitted, met⟩, runs⟩
      rcases step start follower action holds admitted met with ⟨same, later⟩
      rw [outputs, outputs, same, ih later runs]

/-- Where a second system follows every step in a related state, it follows every run. -/
theorem Runs.related {Follower : Type w} {other : ActionSystem Follower Action}
    {related : State → Follower → Prop}
    (step : ∀ state follower action, related state follower → system.Admits state action →
      other.Admits follower action ∧
        related (system.perform state action) (other.perform follower action))
    {start : State} {follower : Follower} {actions : List Action} (holds : related start follower)
    (runs : system.Runs start actions) :
    other.Runs follower actions ∧ related (system.exec start actions)
      (other.exec follower actions) := by
  induction actions generalizing start follower with
  | nil => exact ⟨trivial, holds⟩
  | cons action rest ih =>
      rcases step start follower action holds runs.1 with ⟨followed, later⟩
      rcases ih later runs.2 with ⟨rest, final⟩
      exact ⟨⟨followed, rest⟩, final⟩

/-- Where every step is matched by actions of a second system in a related state, a run is matched
by those of all its steps. -/
theorem Runs.matched {Follower : Type w} {Other : Type v} {other : ActionSystem Follower Other}
    {related : State → Follower → Prop} {condition : State → Action → Prop}
    {instead : State → Action → List Other}
    (step : ∀ state follower action, related state follower → system.Admits state action →
      condition state action → other.Runs follower (instead state action) ∧
        related (system.perform state action) (other.exec follower (instead state action)))
    {start : State} {follower : Follower} {actions : List Action} (holds : related start follower)
    (runs : (system.restrict condition).Runs start actions) :
    other.Runs follower (system.outputs instead start actions).flatten ∧
      related (system.exec start actions)
        (other.exec follower (system.outputs instead start actions).flatten) := by
  induction actions generalizing start follower with
  | nil => exact ⟨trivial, holds⟩
  | cons action rest ih =>
      rcases runs with ⟨⟨admitted, met⟩, runs⟩
      rcases step start follower action holds admitted met with ⟨followed, later⟩
      rcases ih later runs with ⟨rest, final⟩
      rw [outputs, List.flatten_cons, runs_append, exec_append]
      exact ⟨⟨followed, rest⟩, final⟩

theorem Preserves.exec {property : State → Prop} (preserves : system.Preserves property)
    {start : State} {actions : List Action} (holds : property start)
    (runs : system.Runs start actions) : property (system.exec start actions) := by
  induction actions generalizing start with
  | nil => exact holds
  | cons action rest ih => exact ih (preserves start action holds runs.1) runs.2

/-- A property that the actions of a list do not break. -/
theorem Runs.exec_of_mem {property : State → Prop} {start : State} {actions : List Action}
    (step : ∀ state, ∀ action ∈ actions, property state → system.Admits state action →
      property (system.perform state action))
    (holds : property start) (runs : system.Runs start actions) :
    property (system.exec start actions) := by
  induction actions generalizing start with
  | nil => exact holds
  | cons action rest ih =>
      have later := fun state other listed => step state other (List.mem_cons_of_mem _ listed)
      exact ih later (step start action List.mem_cons_self holds runs.1) runs.2

/-- An invariant that also speaks of the actions performed so far. -/
theorem Runs.history {property : List Action → State → Prop}
    (step : ∀ past state action, property past state → system.Admits state action →
      property (past ++ [action]) (system.perform state action))
    {past actions : List Action} {start : State} (holds : property past start)
    (runs : system.Runs start actions) :
    property (past ++ actions) (system.exec start actions) := by
  induction actions generalizing past start with
  | nil => simpa using holds
  | cons action rest ih =>
      simpa using ih (step past start action holds runs.1) runs.2

/-- Where actions set and reset a property, it is lost at the end of a run exactly if it was lost
at the start and no action sets it, or it is reset and not set again. -/
theorem Runs.not_exec_iff {invariant property : State → Prop}
    {condition sets resets : State → Action → Prop}
    (kept : ∀ state action, invariant state → system.Admits state action →
      invariant (system.perform state action))
    (step : ∀ state action, invariant state → system.Admits state action →
      condition state action → (¬property (system.perform state action) ↔
        resets state action ∨ ¬property state ∧ ¬sets state action))
    {start : State} {actions : List Action} (holds : invariant start)
    (runs : (system.restrict condition).Runs start actions) :
    ¬property (system.exec start actions) ↔
      ¬property start ∧ system.Along (fun state action => ¬sets state action) start actions ∨
        system.Reset sets resets start actions := by
  induction actions generalizing start with
  | nil =>
      have never := system.not_reset_nil sets resets start
      exact ⟨fun lost => Or.inl ⟨lost, trivial⟩, fun either => (either.resolve_right never).1⟩
  | cons action rest ih =>
      rcases runs with ⟨⟨admitted, met⟩, later⟩
      rw [exec_cons, ih (kept start action holds admitted) later, reset_cons, Along,
        step start action holds admitted met]
      tauto

/-- An invariant that also speaks of the outputs so far. -/
theorem Runs.collected {Item : Type w} {property : List Item → State → Prop}
    {output : State → Action → List Item}
    (step : ∀ past state action, property past state → system.Admits state action →
      property (past ++ output state action) (system.perform state action))
    {past : List Item} {start : State} {actions : List Action} (holds : property past start)
    (runs : system.Runs start actions) :
    property (past ++ (system.outputs output start actions).flatten)
      (system.exec start actions) := by
  induction actions generalizing past start with
  | nil => simpa [outputs] using holds
  | cons action rest ih =>
      simpa [outputs] using ih (step past start action holds runs.1) runs.2

/-- Where every step adds its output to what is kept, a run adds the outputs of all its steps. -/
theorem Preserves.accumulates {Item : Type w} {property : State → Prop}
    (preserves : system.Preserves property) {kept : State → List Item}
    {output : State → Action → List Item}
    (step : ∀ state action, property state → system.Admits state action →
      kept (system.perform state action) = kept state ++ output state action)
    {start : State} {actions : List Action} (holds : property start)
    (runs : system.Runs start actions) :
    kept (system.exec start actions) =
      kept start ++ (system.outputs output start actions).flatten := by
  have collected := @Runs.collected _ _ system _ (fun past state =>
    property state ∧ kept state = kept start ++ past) output ?_ [] start actions ⟨holds, by simp⟩
    runs
  · exact collected.2
  · rintro past state action ⟨holds, same⟩ admitted
    refine ⟨preserves state action holds admitted, ?_⟩
    rw [step state action holds admitted, same, List.append_assoc]

theorem Preserves.reachable {property : State → Prop} (preserves : system.Preserves property)
    {start state : State} (holds : property start)
    (reachable : system.Reachable start state) : property state := by
  rcases reachable with ⟨actions, runs, rfl⟩
  exact preserves.exec holds runs

/-- Where a step is related to the state before it exactly if it meets the condition, and such
steps keep the invariant, a run is related throughout exactly if all its steps meet it. -/
theorem along_iff_along {invariant : State → Prop} {relation condition : State → Action → Prop}
    (preserved : ∀ state action, invariant state → system.Admits state action →
      condition state action → invariant (system.perform state action))
    (exact : ∀ state action, invariant state → system.Admits state action →
      (relation state action ↔ condition state action))
    {start : State} {actions : List Action} (holds : invariant start)
    (runs : system.Runs start actions) :
    system.Along relation start actions ↔ system.Along condition start actions := by
  induction actions generalizing start with
  | nil => exact Iff.rfl
  | cons action rest ih =>
      rcases runs with ⟨admitted, later⟩
      have step := exact start action holds admitted
      constructor
      · rintro ⟨related, along⟩
        have met := step.mp related
        exact ⟨met, (ih (preserved start action holds admitted met) later).mp along⟩
      · rintro ⟨met, along⟩
        exact ⟨step.mpr met, (ih (preserved start action holds admitted met) later).mpr along⟩

theorem throughout_iff {property : State → Prop} {start : State} {actions : List Action} :
    system.Throughout property start actions ↔
      property start ∧
        system.Along (fun state action => property (system.perform state action)) start
          actions := by
  induction actions generalizing start with
  | nil => exact ⟨fun holds => ⟨holds, trivial⟩, fun holds => holds.1⟩
  | cons action rest ih => exact and_congr Iff.rfl ih

/-- Where a step keeps the property exactly if it meets the condition, a run keeps it throughout
exactly if all its steps meet the condition. -/
theorem throughout_iff_along {invariant property : State → Prop}
    {condition : State → Action → Prop}
    (preserved : ∀ state action, invariant state → property state → system.Admits state action →
      invariant (system.perform state action))
    (exact : ∀ state action, invariant state → property state → system.Admits state action →
      (property (system.perform state action) ↔ condition state action))
    {start : State} {actions : List Action} (stable : invariant start) (holds : property start)
    (runs : system.Runs start actions) :
    system.Throughout property start actions ↔ system.Along condition start actions := by
  rw [throughout_iff, and_iff_right holds]
  have both : ∀ state action, invariant state ∧ property state → system.Admits state action →
      condition state action → invariant (system.perform state action) ∧
        property (system.perform state action) := by
    rintro state action ⟨stable, holds⟩ admitted met
    exact ⟨preserved state action stable holds admitted,
      (exact state action stable holds admitted).mpr met⟩
  exact along_iff_along both (fun state action => fun ⟨stable, holds⟩ admitted =>
    exact state action stable holds admitted) ⟨stable, holds⟩ runs

/-- What an invariant implies of an admitted action holds along every run. -/
theorem Preserves.along {property : State → Prop} (preserves : system.Preserves property)
    {relation : State → Action → Prop}
    (implied : ∀ state action, property state → system.Admits state action →
      relation state action)
    {start : State} {actions : List Action} (holds : property start)
    (runs : system.Runs start actions) : system.Along relation start actions := by
  induction actions generalizing start with
  | nil => trivial
  | cons action rest ih =>
      exact ⟨implied start action holds runs.1,
        ih (preserves start action holds runs.1) runs.2⟩

end ActionSystem

end ZFBaseFramework
