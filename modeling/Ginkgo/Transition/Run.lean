import Mathlib.Data.List.Basic

/-!
# Runs of deterministic step functions

A run folds a step function over a list of events. `Transition.Always` says
that a predicate holds in every state a run visits and `Transition.EachStep`
that every step of a run meets a condition on the state before it and the event.
When the condition of a step decides whether the predicate survives it, the two
say the same of every run (`Transition.always_iff_eachStep`).
-/

namespace Transition

variable {State Event : Type*} (step : State → Event → State)

/-- The state after a list of events. -/
def run (state : State) (events : List Event) : State := events.foldl step state

/-- The predicate holds in every state of the run, the first one included. -/
def Always (predicate : State → Prop) : State → List Event → Prop
  | state, [] => predicate state
  | state, event :: events => predicate state ∧ Always predicate (step state event) events

/-- Every step of the run meets the condition. -/
def EachStep (condition : State → Event → Prop) : State → List Event → Prop
  | _, [] => True
  | state, event :: events => condition state event ∧ EachStep condition (step state event) events

variable {step}

instance decidableAlways {predicate : State → Prop} [DecidablePred predicate] :
    (state : State) → (events : List Event) → Decidable (Always step predicate state events)
  | state, [] => inferInstanceAs (Decidable (predicate state))
  | state, event :: events =>
      have : Decidable (Always step predicate (step state event) events) := decidableAlways _ _
      inferInstanceAs (Decidable (_ ∧ _))

instance decidableEachStep {condition : State → Event → Prop}
    [∀ state event, Decidable (condition state event)] :
    (state : State) → (events : List Event) → Decidable (EachStep step condition state events)
  | _, [] => .isTrue trivial
  | state, event :: events =>
      have : Decidable (EachStep step condition (step state event) events) :=
        decidableEachStep _ _
      inferInstanceAs (Decidable (_ ∧ _))

@[simp] theorem run_nil (state : State) : run step state [] = state := rfl

@[simp] theorem run_cons (state : State) (event : Event) (events : List Event) :
    run step state (event :: events) = run step (step state event) events := rfl

/-- A run is continued. -/
theorem run_append (state : State) (first second : List Event) :
    run step state (first ++ second) = run step (run step state first) second :=
  List.foldl_append

/-- The steps of a run that is continued. -/
theorem eachStep_append {condition : State → Event → Prop} (state : State)
    (first second : List Event) :
    EachStep step condition state (first ++ second) ↔
      EachStep step condition state first ∧
        EachStep step condition (run step state first) second := by
  induction first generalizing state with
  | nil => simp [EachStep]
  | cons event events ih =>
      simp only [List.cons_append, EachStep, run_cons, ih, and_assoc]

/-- What holds throughout a run holds at its end. -/
theorem Always.last {predicate : State → Prop} {state : State} {events : List Event}
    (always : Always step predicate state events) : predicate (run step state events) := by
  induction events generalizing state with
  | nil => exact always
  | cons event events ih => exact ih always.2

theorem Always.mono {weak strong : State → Prop} (implies : ∀ state, strong state → weak state)
    {state : State} {events : List Event} (always : Always step strong state events) :
    Always step weak state events := by
  induction events generalizing state with
  | nil => exact implies _ always
  | cons event events ih => exact ⟨implies _ always.1, ih always.2⟩

theorem EachStep.mono {weak strong : State → Event → Prop}
    (implies : ∀ state event, strong state event → weak state event) {state : State}
    {events : List Event} (each : EachStep step strong state events) :
    EachStep step weak state events := by
  induction events generalizing state with
  | nil => trivial
  | cons event events ih => exact ⟨implies _ _ each.1, ih each.2⟩

/-- A condition that the steps meet under a hypothesis. -/
theorem EachStep.under {hypothesis : Prop} {condition : State → Event → Prop} {state : State}
    {events : List Event} (each : hypothesis → EachStep step condition state events) :
    EachStep step (fun state event => hypothesis → condition state event) state events := by
  induction events generalizing state with
  | nil => trivial
  | cons event events ih =>
      exact ⟨fun holds => (each holds).1, ih fun holds => (each holds).2⟩

/-- A predicate that every step meeting the condition preserves holds throughout a
run whose steps meet the condition. -/
theorem always_of_eachStep {predicate : State → Prop} {condition : State → Event → Prop}
    (preserves : ∀ state event, predicate state → condition state event →
      predicate (step state event))
    {state : State} (initial : predicate state) {events : List Event}
    (each : EachStep step condition state events) : Always step predicate state events := by
  induction events generalizing state with
  | nil => exact initial
  | cons event events ih =>
      exact ⟨initial, ih (preserves state event initial each.1) each.2⟩

/-- The trivial condition is met by every step. -/
theorem eachStep_true (state : State) (events : List Event) :
    EachStep step (fun _ _ => True) state events := by
  induction events generalizing state with
  | nil => trivial
  | cons event events ih => exact ⟨trivial, ih (step state event)⟩

/-- A condition on the events alone. -/
theorem eachStep_of_forall {condition : Event → Prop} {events : List Event}
    (all : ∀ event ∈ events, condition event) (state : State) :
    EachStep step (fun _ event => condition event) state events := by
  induction events generalizing state with
  | nil => trivial
  | cons event events ih =>
      obtain ⟨first, rest⟩ := List.forall_mem_cons.mp all
      exact ⟨first, ih rest (step state event)⟩

/-- An inductive invariant holds throughout every run. -/
theorem always_of_invariant {predicate : State → Prop}
    (preserves : ∀ state event, predicate state → predicate (step state event))
    {state : State} (initial : predicate state) (events : List Event) :
    Always step predicate state events :=
  always_of_eachStep (fun state event holds _ => preserves state event holds) initial
    (eachStep_true state events)

/-- What an invariant and the condition imply is met by every step of a run whose steps meet
the condition and so preserve the invariant. -/
theorem EachStep.of_invariant {invariant : State → Prop}
    {condition conclusion : State → Event → Prop}
    (preserves : ∀ state event, invariant state → condition state event →
      invariant (step state event))
    (meets : ∀ state event, invariant state → condition state event → conclusion state event)
    {state : State} (initial : invariant state) {events : List Event}
    (each : EachStep step condition state events) : EachStep step conclusion state events := by
  induction events generalizing state with
  | nil => trivial
  | cons event events ih =>
      exact ⟨meets state event initial each.1, ih (preserves state event initial each.1) each.2⟩

/-- A condition that an inductive invariant implies is met by every step. -/
theorem eachStep_of_invariant {invariant : State → Prop} {condition : State → Event → Prop}
    (preserves : ∀ state event, invariant state → invariant (step state event))
    (meets : ∀ state event, invariant state → condition state event)
    {state : State} (initial : invariant state) (events : List Event) :
    EachStep step condition state events :=
  EachStep.of_invariant (fun state event valid _ => preserves state event valid)
    (fun state event valid _ => meets state event valid) initial (eachStep_true state events)

/-- **Two conditions that decide alike.** If an invariant and a condition that every step meets
make two others equivalent and either keeps the invariant, then every step meets the one exactly
when every step meets the other. -/
theorem eachStep_congr_of_invariant {invariant : State → Prop}
    {domain first second : State → Event → Prop}
    (same : ∀ state event, invariant state → domain state event →
      (first state event ↔ second state event))
    (preserves : ∀ state event, invariant state → domain state event → first state event →
      invariant (step state event))
    {state : State} (initial : invariant state) {events : List Event}
    (inside : EachStep step domain state events) :
    EachStep step first state events ↔ EachStep step second state events := by
  induction events generalizing state with
  | nil => exact Iff.rfl
  | cons event events ih =>
      have decides := same state event initial inside.1
      constructor
      · rintro ⟨meets, rest⟩
        have next := preserves state event initial inside.1 meets
        exact ⟨decides.mp meets, (ih next inside.2).mp rest⟩
      · rintro ⟨meets, rest⟩
        have next := preserves state event initial inside.1 (decides.mpr meets)
        exact ⟨decides.mpr meets, (ih next inside.2).mpr rest⟩

/-- What every step preserves holds after a run. -/
theorem run_of_invariant {predicate : State → Prop}
    (preserves : ∀ state event, predicate state → predicate (step state event))
    {state : State} (initial : predicate state) (events : List Event) :
    predicate (run step state events) :=
  (always_of_invariant preserves initial events).last

/-- **When the condition decides.** If, in the states where an invariant and the
predicate hold, the predicate survives a step exactly when the step meets the
condition, then along every run the predicate always holds exactly when every
step meets the condition. The invariant need only survive with the predicate. -/
theorem always_iff_eachStep_of_survives (invariant : State → Prop) {predicate : State → Prop}
    {condition : State → Event → Prop}
    (preserves : ∀ state event, invariant state → predicate state →
      predicate (step state event) → invariant (step state event))
    (decides : ∀ state event, invariant state → predicate state →
      (predicate (step state event) ↔ condition state event))
    {state : State} (valid : invariant state) (initial : predicate state)
    (events : List Event) :
    Always step predicate state events ↔ EachStep step condition state events := by
  induction events generalizing state with
  | nil => simp [Always, EachStep, initial]
  | cons event events ih =>
      constructor
      · intro always
        have survives : predicate (step state event) := by
          cases events with
          | nil => exact always.2
          | cons event events => exact always.2.1
        have next := preserves state event valid initial survives
        exact ⟨(decides state event valid initial).mp survives, (ih next survives).mp always.2⟩
      · intro each
        have survives := (decides state event valid initial).mpr each.1
        have next := preserves state event valid initial survives
        exact ⟨initial, (ih next survives).mpr each.2⟩

/-- The same with an invariant that survives every step. -/
theorem always_iff_eachStep (invariant : State → Prop) {predicate : State → Prop}
    {condition : State → Event → Prop}
    (preserves : ∀ state event, invariant state → predicate state →
      invariant (step state event))
    (decides : ∀ state event, invariant state → predicate state →
      (predicate (step state event) ↔ condition state event))
    {state : State} (valid : invariant state) (initial : predicate state)
    (events : List Event) :
    Always step predicate state events ↔ EachStep step condition state events := by
  have survives : ∀ state event, invariant state → predicate state →
      predicate (step state event) → invariant (step state event) :=
    fun state event valid holds _ => preserves state event valid holds
  exact always_iff_eachStep_of_survives invariant survives decides valid initial events

/-! ## Reaching a state -/

variable (step) in
/-- Some run whose steps meet the condition leads from one state to the other. -/
def Reaches (condition : State → Event → Prop) (state state' : State) : Prop :=
  ∃ events, EachStep step condition state events ∧ run step state events = state'

namespace Reaches

variable {condition : State → Event → Prop} {state state' state'' : State}

theorem refl (state : State) : Reaches step condition state state := ⟨[], trivial, rfl⟩

/-- A step reaches the next state. -/
theorem single {event : Event} (meets : condition state event) :
    Reaches step condition state (step state event) := ⟨[event], ⟨meets, trivial⟩, rfl⟩

/-- What is reached from a state that is reached is reached. -/
theorem trans (first : Reaches step condition state state')
    (second : Reaches step condition state' state'') :
    Reaches step condition state state'' := by
  obtain ⟨events, each, rfl⟩ := first
  obtain ⟨later, each', rfl⟩ := second
  exact ⟨events ++ later, (eachStep_append _ _ _).mpr ⟨each, each'⟩, run_append _ _ _⟩

/-- What the steps that meet the condition preserve holds in every state that is reached. -/
theorem preserved {predicate : State → Prop}
    (preserves : ∀ state event, predicate state → condition state event →
      predicate (step state event))
    (reaches : Reaches step condition state state') (initial : predicate state) :
    predicate state' := by
  obtain ⟨events, each, rfl⟩ := reaches
  exact (always_of_eachStep preserves initial each).last

end Reaches

end Transition
