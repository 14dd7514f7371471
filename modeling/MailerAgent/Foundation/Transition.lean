import Mathlib.Logic.Relation

/-!
# Labelled transition systems

A system is a partial step function on states: an action that is not enabled
yields `none`, and every external choice (what a peer answers, which thread
moves, whether a commit is reported) is part of the action. Reachability
quantifies over all finite sequences of actions, so a statement about every
reachable state is a statement about every interleaving.
-/

namespace Transition

universe u v

/-- Initial states and a deterministic step for every action. -/
structure System
    (State : Type u)
    (Action : Type v) where
  initial : State → Prop
  step : State → Action → Option State

namespace System

variable {State : Type u} {Action : Type v}
variable (system : System State Action)

/-- One step under some action. -/
def Steps (before after : State) : Prop :=
  ∃ action, system.step before action = some after

/-- Finitely many steps. -/
def Reaches (before after : State) : Prop :=
  Relation.ReflTransGen system.Steps before after

/-- States reached from an initial state. -/
def Reachable (state : State) : Prop :=
  ∃ start, system.initial start ∧ system.Reaches start state

/-- Perform a list of actions in order. -/
def run : State → List Action → Option State
  | state, [] => some state
  | state, action :: actions =>
      (system.step state action).bind fun next => run next actions

variable {system}

theorem Reaches.refl (state : State) : system.Reaches state state :=
  Relation.ReflTransGen.refl

theorem Reaches.trans
    {first second third : State}
    (left : system.Reaches first second)
    (right : system.Reaches second third) :
    system.Reaches first third :=
  Relation.ReflTransGen.trans left right

theorem Reaches.of_step
    {before after : State}
    {action : Action}
    (stepped : system.step before action = some after) :
    system.Reaches before after :=
  Relation.ReflTransGen.single ⟨action, stepped⟩

theorem reaches_of_run
    {before after : State}
    {actions : List Action}
    (ran : system.run before actions = some after) :
    system.Reaches before after := by
  induction actions generalizing before with
  | nil =>
      injection ran with equal
      exact equal ▸ Reaches.refl before
  | cons action actions inductionHypothesis =>
      obtain ⟨next, stepped, rest⟩ := Option.bind_eq_some_iff.mp ran
      exact (Reaches.of_step stepped).trans (inductionHypothesis rest)

theorem Reachable.of_initial
    {state : State}
    (initial : system.initial state) :
    system.Reachable state :=
  ⟨state, initial, Reaches.refl state⟩

theorem Reachable.reaches
    {before after : State}
    (reachable : system.Reachable before)
    (reaches : system.Reaches before after) :
    system.Reachable after := by
  obtain ⟨start, initial, first⟩ := reachable
  exact ⟨start, initial, first.trans reaches⟩

theorem Reachable.step
    {before after : State}
    {action : Action}
    (reachable : system.Reachable before)
    (stepped : system.step before action = some after) :
    system.Reachable after :=
  reachable.reaches (Reaches.of_step stepped)

/-- A property of the initial states that every step from a reachable state
keeps holds in every reachable state. -/
theorem Reachable.invariant
    {property : State → Prop}
    (initially : ∀ state, system.initial state → property state)
    (preserved : ∀ before action after,
      system.Reachable before → property before →
      system.step before action = some after → property after)
    {state : State}
    (reachable : system.Reachable state) :
    property state := by
  obtain ⟨start, initial, reaches⟩ := reachable
  have both : system.Reachable state ∧ property state := by
    induction reaches with
    | refl => exact ⟨.of_initial initial, initially start initial⟩
    | tail _ stepped inductionHypothesis =>
        obtain ⟨action, stepped⟩ := stepped
        exact ⟨inductionHypothesis.1.step stepped,
          preserved _ action _ inductionHypothesis.1
            inductionHypothesis.2 stepped⟩
  exact both.2

/-- A property of a reachable state that every step from a reachable state keeps
holds along every run from there. -/
theorem Reaches.invariant
    {before after : State}
    (reaches : system.Reaches before after)
    (property : State → Prop)
    (reachable : system.Reachable before)
    (initially : property before)
    (preserved : ∀ state action next, system.Reachable state → property state →
      system.step state action = some next → property next) :
    property after := by
  induction reaches with
  | refl => exact initially
  | tail earlier stepped inductionHypothesis =>
      obtain ⟨action, stepped⟩ := stepped
      exact preserved _ action _ (reachable.reaches earlier) inductionHypothesis stepped

/-- A state with a decidable property, computed by a list of actions. -/
theorem exists_reaches_of_run
    {start : State}
    {actions : List Action}
    {property : State → Bool}
    (ran : (system.run start actions).any property = true) :
    ∃ state, system.Reaches start state ∧ property state = true := by
  obtain ⟨state, result, holds⟩ := (Option.any_eq_true _ _).mp ran
  exact ⟨state, reaches_of_run result, holds⟩

/-- The same from an initial state. -/
theorem exists_reachable_of_run
    {start : State}
    (initial : system.initial start)
    (actions : List Action)
    (property : State → Bool)
    (ran : (system.run start actions).any property = true) :
    ∃ state, system.Reachable state ∧ property state = true := by
  obtain ⟨state, reaches, holds⟩ := exists_reaches_of_run ran
  exact ⟨state, (Reachable.of_initial initial).reaches reaches, holds⟩

/-! ## Restricted systems -/

variable (system) in
/-- The system in which only some actions may be taken. -/
def restrict (allowed : State → Action → Bool) : System State Action where
  initial := system.initial
  step state action := if allowed state action then system.step state action else none

theorem step_of_restrict
    {allowed : State → Action → Bool}
    {before after : State}
    {action : Action}
    (stepped : (system.restrict allowed).step before action = some after) :
    allowed before action = true ∧ system.step before action = some after := by
  have taken : (if allowed before action then system.step before action else none) =
      some after := stepped
  split at taken
  · next permitted => exact ⟨permitted, taken⟩
  · cases taken

theorem Reachable.of_restrict
    {allowed : State → Action → Bool}
    {state : State}
    (reachable : (system.restrict allowed).Reachable state) :
    system.Reachable state :=
  reachable.invariant (fun _ initial => .of_initial initial)
    fun _ _ _ _ reached stepped => reached.step (step_of_restrict stepped).2

/-! ## Runs whose steps meet a condition -/

variable (system) in
/-- Finitely many steps, each of which meets a condition on the state before it. -/
def ReachesWhen
    (condition : State → Action → Prop)
    (before after : State) : Prop :=
  Relation.ReflTransGen
    (fun state next => ∃ action, condition state action ∧
      system.step state action = some next) before after

variable (system) in
/-- States reached from an initial state by such steps. -/
def ReachableWhen
    (condition : State → Action → Prop)
    (state : State) : Prop :=
  ∃ start, system.initial start ∧ system.ReachesWhen condition start state

section When

variable {condition : State → Action → Prop}

/-- A property that such steps keep holds along the run. -/
theorem ReachesWhen.invariant
    {before after : State}
    (reaches : system.ReachesWhen condition before after)
    (property : State → Prop)
    (initially : property before)
    (preserved : ∀ state action next, property state → condition state action →
      system.step state action = some next → property next) :
    property after := by
  induction reaches with
  | refl => exact initially
  | tail _ stepped inductionHypothesis =>
      obtain ⟨action, meets, stepped⟩ := stepped
      exact preserved _ action _ inductionHypothesis meets stepped

/-- A condition that follows from the given one along the run, by an invariant of it. -/
theorem ReachesWhen.imp_of_invariant
    {other : State → Action → Prop}
    {before after : State}
    (reaches : system.ReachesWhen condition before after)
    (property : State → Prop)
    (initially : property before)
    (preserved : ∀ state action next, property state → condition state action →
      system.step state action = some next → property next)
    (implies : ∀ state action, property state → condition state action → other state action) :
    system.ReachesWhen other before after := by
  induction reaches with
  | refl => exact .refl
  | tail earlier stepped inductionHypothesis =>
      obtain ⟨action, meets, stepped⟩ := stepped
      have holds := ReachesWhen.invariant earlier property initially preserved
      exact inductionHypothesis.tail ⟨action, implies _ action holds meets, stepped⟩

theorem ReachableWhen.invariant
    {property : State → Prop}
    (initially : ∀ state, system.initial state → property state)
    (preserved : ∀ state action next, property state → condition state action →
      system.step state action = some next → property next)
    {state : State}
    (reachable : system.ReachableWhen condition state) :
    property state := by
  obtain ⟨start, initial, reaches⟩ := reachable
  exact reaches.invariant property (initially start initial) preserved

theorem ReachableWhen.reachable
    {state : State}
    (reachable : system.ReachableWhen condition state) :
    system.Reachable state :=
  reachable.invariant (fun _ initial => .of_initial initial)
    fun _ _ _ reached _ stepped => reached.step stepped

/-- A weaker condition. -/
theorem ReachableWhen.imp
    {weaker : State → Action → Prop}
    {state : State}
    (reachable : system.ReachableWhen condition state)
    (implies : ∀ before action, condition before action → weaker before action) :
    system.ReachableWhen weaker state := by
  obtain ⟨start, initial, reaches⟩ := reachable
  refine ⟨start, initial, ?_⟩
  induction reaches with
  | refl => exact .refl
  | tail _ stepped inductionHypothesis =>
      obtain ⟨action, meets, stepped⟩ := stepped
      exact inductionHypothesis.tail ⟨action, implies _ action meets, stepped⟩

/-- A condition that every step meets. -/
theorem Reachable.when
    {state : State}
    (reachable : system.Reachable state)
    (meets : ∀ before action, condition before action) :
    system.ReachableWhen condition state := by
  obtain ⟨start, initial, reaches⟩ := reachable
  refine ⟨start, initial, ?_⟩
  induction reaches with
  | refl => exact .refl
  | tail _ stepped inductionHypothesis =>
      obtain ⟨action, stepped⟩ := stepped
      exact inductionHypothesis.tail ⟨action, meets _ action, stepped⟩

/-- A run of given actions, with a property of the states that lets each of them meet the
condition. -/
theorem reachesWhen_of_run
    {before after : State}
    {actions : List Action}
    (property : State → Prop)
    (initially : property before)
    (meets : ∀ state action, action ∈ actions → property state → condition state action)
    (preserved : ∀ state action next, action ∈ actions → property state →
      system.step state action = some next → property next)
    (ran : system.run before actions = some after) :
    system.ReachesWhen condition before after := by
  induction actions generalizing before with
  | nil =>
      cases ran
      exact .refl
  | cons action actions inductionHypothesis =>
      obtain ⟨next, stepped, rest⟩ := Option.bind_eq_some_iff.mp ran
      refine .head ⟨action, meets before action List.mem_cons_self initially, stepped⟩ ?_
      refine inductionHypothesis (preserved before action next List.mem_cons_self initially
        stepped) ?_ ?_ rest
      · intro state other member
        exact meets state other (List.mem_cons_of_mem _ member)
      · intro state other after member
        exact preserved state other after (List.mem_cons_of_mem _ member)

variable (system) in
/-- Perform a list of actions in order, each of them checked in its state. -/
def runWhen (check : State → Action → Bool) : State → List Action → Option State
  | state, [] => some state
  | state, action :: actions =>
      if check state action then
        (system.step state action).bind fun next => runWhen check next actions
      else none

/-- A run of given actions, each of which was seen to meet the condition. -/
theorem reachesWhen_of_runWhen
    {check : State → Action → Bool}
    {before after : State}
    {actions : List Action}
    (meets : ∀ state action, check state action = true → condition state action)
    (ran : system.runWhen check before actions = some after) :
    system.ReachesWhen condition before after := by
  induction actions generalizing before with
  | nil =>
      cases ran
      exact .refl
  | cons action actions inductionHypothesis =>
      unfold runWhen at ran
      split at ran
      · next checked =>
          obtain ⟨next, stepped, rest⟩ := Option.bind_eq_some_iff.mp ran
          exact .head ⟨action, meets before action checked, stepped⟩ (inductionHypothesis rest)
      · cases ran

end When

/-! ## Runs with their past -/

variable (system) in
/-- A run from an initial state, with the states it went through and the actions that were
taken in them. -/
inductive Run : List (State × Action) → State → Prop where
  | start {state : State} (initial : system.initial state) : Run [] state
  | step
      {past : List (State × Action)}
      {state next : State}
      {action : Action}
      (run : Run past state)
      (stepped : system.step state action = some next) :
      Run (past ++ [(state, action)]) next

theorem Run.reachable
    {past : List (State × Action)}
    {state : State}
    (run : system.Run past state) :
    system.Reachable state := by
  induction run with
  | start initial => exact .of_initial initial
  | step _ stepped inductionHypothesis => exact inductionHypothesis.step stepped

variable (system) in
/-- Perform a list of actions in order and keep their past. -/
def record : List (State × Action) → State → List Action →
    Option (List (State × Action) × State)
  | past, state, [] => some (past, state)
  | past, state, action :: actions =>
      (system.step state action).bind fun next =>
        record (past ++ [(state, action)]) next actions

theorem Run.of_record
    {past later : List (State × Action)}
    {state final : State}
    {actions : List Action}
    (run : system.Run past state)
    (recorded : system.record past state actions = some (later, final)) :
    system.Run later final := by
  induction actions generalizing past state with
  | nil =>
      cases recorded
      exact run
  | cons action actions inductionHypothesis =>
      obtain ⟨next, stepped, rest⟩ := Option.bind_eq_some_iff.mp recorded
      exact inductionHypothesis (run.step stepped) rest

/-- A run with a decidable property, computed by a list of actions. -/
theorem exists_run_of_record
    {start : State}
    (initial : system.initial start)
    (actions : List Action)
    (property : List (State × Action) × State → Bool)
    (recorded : (system.record [] start actions).any property = true) :
    ∃ past final, system.Run past final ∧ property (past, final) = true := by
  obtain ⟨⟨past, final⟩, result, holds⟩ := (Option.any_eq_true _ _).mp recorded
  exact ⟨past, final, (Run.start initial).of_record result, holds⟩

end System
end Transition
