import Ginkgo.Calls.Session

/-!
# What a session costs

Every exchange has a weight, and a negative one is a credit. `Calls.Session.Costs` bounds what a
session adds to the weight of its log, whatever is answered and however the session ends. There is
one rule for each way to put sessions together.
-/

namespace Calls.Session

universe u

variable {State Exit Call : Type u} {Answer : Call → Type u} {α β : Type u}

/-- The weight of all that has been called and answered. -/
def weigh (weight : Exchange Call Answer → Int) : Log Call Answer → Int
  | [] => 0
  | exchange :: earlier => weigh weight earlier + weight exchange

/-- The session adds so much at most. -/
def Costs (weight : Exchange Call Answer → Int) (most : Nat)
    (session : Session State Exit Call Answer α) : Prop :=
  ∀ spent : Int, session.Ensures (fun _ log => weigh weight log ≤ spent)
    (fun _ _ log => weigh weight log ≤ spent + most) fun _ _ log => weigh weight log ≤ spent + most

namespace Costs

variable {weight : Exchange Call Answer → Int} {first second : Nat}
  {session : Session State Exit Call Answer α}

/-- What a session costs is what its runs weigh. -/
theorem runs (costs : Costs weight first session) {state : State}
    {outcome : Except Exit α × State} {log : Log Call Answer}
    (runs : (session state).Runs [] outcome log) : weigh weight log ≤ first := by
  have ends := Program.wp_iff_runs.mp (costs 0 state [] (Int.le_refl 0)) _ _ runs
  obtain ⟨result, after⟩ := outcome
  cases result with
  | ok value => exact Int.zero_add (first : Int) ▸ ends
  | error left => exact Int.zero_add (first : Int) ▸ ends

theorem mono (costs : Costs weight first session) (le : first ≤ second) :
    Costs weight second session := fun spent =>
  (costs spent).mono (fun _ _ => id) (fun _ _ _ within => by omega) fun _ _ _ within => by omega

/-- The costs of two sessions add up. -/
theorem bind {rest : α → Session State Exit Call Answer β} (costs : Costs weight first session)
    (next : ∀ value, Costs weight second (rest value)) :
    Costs weight (first + second) (session >>= rest) := fun spent =>
  .bind _ ((costs spent).early fun _ _ _ within => by omega) fun value =>
    (next value (spent + first)).mono (fun _ _ => id) (fun _ _ _ within => by omega)
      fun _ _ _ within => by omega

/-- What comes first is free. -/
theorem after {rest : α → Session State Exit Call Answer β} (costs : Costs weight 0 session)
    (next : ∀ value, Costs weight second (rest value)) : Costs weight second (session >>= rest) :=
  (costs.bind next).mono (Nat.le_of_eq (Nat.zero_add second))

/-- What follows is free. -/
theorem followed {rest : α → Session State Exit Call Answer β} (costs : Costs weight first session)
    (next : ∀ value, Costs weight 0 (rest value)) : Costs weight first (session >>= rest) :=
  costs.bind next

/-- A call costs its weight at most. -/
theorem request {call : Call} (least : ∀ answer, weight ⟨call, answer⟩ ≤ first) :
    Costs weight first (Session.request call : Session State Exit Call Answer (Answer call)) := by
  intro spent state log within answer
  have least := least answer
  change weigh weight log + weight ⟨call, answer⟩ ≤ spent + first
  omega

/-- A call whose answer is a credit pays for what follows. -/
theorem credit {call : Call} {rest : Answer call → Session State Exit Call Answer β}
    (gain : ∀ answer, weight ⟨call, answer⟩ ≤ -(second : Int))
    (next : ∀ answer, Costs weight second (rest answer)) :
    Costs weight 0
      ((Session.request call : Session State Exit Call Answer (Answer call)) >>= rest) := by
  intro spent
  refine .bind (fun _ _ log => weigh weight log ≤ spent - second) ?_ fun answer =>
    (next answer (spent - second)).mono (fun _ _ => id) (fun _ _ _ within => by omega)
      fun _ _ _ within => by omega
  intro state log within answer
  have gain := gain answer
  change weigh weight log + weight ⟨call, answer⟩ ≤ spent - second
  omega

/-- A value costs nothing. -/
theorem pure {value : α} :
    Costs weight first (Pure.pure value : Session State Exit Call Answer α) :=
  fun _ _ _ within => by change _ ≤ _; omega

/-- Leaving costs nothing. -/
theorem exit {left : Exit} :
    Costs weight first (Session.exit left : Session State Exit Call Answer α) :=
  fun _ _ _ within => by change _ ≤ _; omega

/-- Reading the state costs nothing. -/
theorem get : Costs weight 0 (Session.get : Session State Exit Call Answer State) :=
  fun _ _ _ within => by change _ ≤ _; omega

/-- Changing it costs nothing. -/
theorem modify {change : State → State} :
    Costs weight 0 (Session.modify change : Session State Exit Call Answer PUnit) :=
  fun _ _ _ within => by change _ ≤ _; omega

/-- A branch costs as much as either side may. -/
theorem ite {condition : Prop} [Decidable condition] {other : Session State Exit Call Answer α}
    (costs : Costs weight first session) (same : Costs weight first other) :
    Costs weight first (if condition then session else other) := by
  split
  · exact costs
  · exact same

end Costs

end Calls.Session
