import Mathlib.Data.List.Basic

/-!
# Programs that call their surroundings

A program makes calls, and each answer decides how it goes on. What the surroundings answer is
not known, so a program is judged by all its runs: `Calls.Program.Runs` relates what has been
called and answered before a run to its value and to what has been called and answered after it.
A log has its latest exchange first. `Calls.Program.wp` is the weakest condition on the log under
which every run ends well (`Calls.Program.wp_iff_runs`).

Surroundings with a state of their own answer in one way: `Calls.Program.eval` is then the run.
-/

namespace Calls

universe u

/-- A program whose calls are answered by its surroundings. -/
inductive Program (Call : Type u) (Answer : Call → Type u) (α : Type u) where
  | done (value : α)
  | call (request : Call) (next : Answer request → Program Call Answer α)

/-- A call and its answer. -/
structure Exchange (Call : Type u) (Answer : Call → Type u) where
  request : Call
  answer : Answer request

/-- The calls and their answers, the last one first. -/
abbrev Log (Call : Type u) (Answer : Call → Type u) := List (Exchange Call Answer)

/-- Every call is allowed by what has been called and answered before it. -/
def Justified {Call : Type u} {Answer : Call → Type u} (allowed : Log Call Answer → Call → Prop) :
    Log Call Answer → Prop
  | [] => True
  | exchange :: earlier => allowed earlier exchange.request ∧ Justified allowed earlier

/-- Each call of a justified log was allowed by those before it. -/
theorem Justified.allowed {Call : Type u} {Answer : Call → Type u}
    {allowed : Log Call Answer → Call → Prop} {later earlier : Log Call Answer}
    {exchange : Exchange Call Answer} (justified : Justified allowed (later ++ exchange :: earlier)) :
    allowed earlier exchange.request := by
  induction later with
  | nil => exact justified.1
  | cons _ later ih => exact ih justified.2

namespace Program

variable {Call : Type u} {Answer : Call → Type u} {α β : Type u}

/-- One program after the other. -/
def bind : Program Call Answer α → (α → Program Call Answer β) → Program Call Answer β
  | .done value, rest => rest value
  | .call request next, rest => .call request fun answer => (next answer).bind rest

instance : Monad (Program Call Answer) where
  pure := .done
  bind := bind

/-- The program that makes one call. -/
def request (call : Call) : Program Call Answer (Answer call) := .call call .done

/-- From one log a run ends with a value and another log. -/
inductive Runs : Program Call Answer α → Log Call Answer → α → Log Call Answer → Prop
  | done (value : α) (log : Log Call Answer) : Runs (.done value) log value log
  | call {request : Call} {next : Answer request → Program Call Answer α}
      {before after : Log Call Answer} {value : α} (answer : Answer request)
      (rest : Runs (next answer) (⟨request, answer⟩ :: before) value after) :
      Runs (.call request next) before value after

/-- The weakest condition on the log under which every run ends well. -/
def wp (post : α → Log Call Answer → Prop) : Program Call Answer α → Log Call Answer → Prop
  | .done value, log => post value log
  | .call request next, log => ∀ answer, (next answer).wp post (⟨request, answer⟩ :: log)

/-- A weakest precondition speaks of all runs. -/
theorem wp_iff_runs {post : α → Log Call Answer → Prop} {program : Program Call Answer α}
    {log : Log Call Answer} :
    program.wp post log ↔ ∀ value after, program.Runs log value after → post value after := by
  induction program generalizing log with
  | done value =>
      constructor
      · intro holds _ _ runs
        cases runs
        exact holds
      · exact fun all => all value log (.done value log)
  | call request next ih =>
      constructor
      · intro holds value after runs
        cases runs with
        | call answer rest => exact (ih answer).mp (holds answer) value after rest
      · intro all answer
        exact (ih answer).mpr fun value after rest => all value after (.call answer rest)

/-- What holds after every run may be weakened. -/
theorem wp_mono {strong weak : α → Log Call Answer → Prop}
    (implies : ∀ value log, strong value log → weak value log) {program : Program Call Answer α}
    {log : Log Call Answer} (holds : program.wp strong log) : program.wp weak log :=
  wp_iff_runs.mpr fun value after runs => implies value after (wp_iff_runs.mp holds value after runs)

/-- The precondition of two programs, one after the other. -/
theorem wp_bind {post : β → Log Call Answer → Prop} (program : Program Call Answer α)
    (rest : α → Program Call Answer β) (log : Log Call Answer) :
    (program.bind rest).wp post log ↔ program.wp (fun value => (rest value).wp post) log := by
  induction program generalizing log with
  | done value => exact Iff.rfl
  | call request next ih => exact forall_congr' fun answer => ih answer _

/-- What every further exchange keeps is kept by a program. -/
theorem wp_frame {fact : Log Call Answer → Prop}
    (stable : ∀ exchange log, fact log → fact (exchange :: log))
    {post : α → Log Call Answer → Prop} {program : Program Call Answer α} {log : Log Call Answer}
    (holds : program.wp post log) (known : fact log) :
    program.wp (fun value log => post value log ∧ fact log) log := by
  induction program generalizing log with
  | done value => exact ⟨holds, known⟩
  | call request next ih => exact fun answer => ih answer (holds answer) (stable _ _ known)

/-- The run in surroundings that answer from a state. -/
def eval {World : Type u} (world : World → (request : Call) → Answer request × World) :
    Program Call Answer α → World → Log Call Answer → α × Log Call Answer × World
  | .done value, state, log => (value, log, state)
  | .call request next, state, log =>
      (next (world state request).1).eval world (world state request).2
        (⟨request, (world state request).1⟩ :: log)

/-- A run in given surroundings is a run. -/
theorem runs_eval {World : Type u} (world : World → (request : Call) → Answer request × World)
    (program : Program Call Answer α) (state : World) (log : Log Call Answer) :
    program.Runs log (program.eval world state log).1 (program.eval world state log).2.1 := by
  induction program generalizing state log with
  | done value => exact .done value log
  | call request next ih => exact .call _ (ih _ _ _)

/-- In a run every answer is one of the surroundings'. -/
theorem answer_of_mem_eval {World : Type u} {world : World → (request : Call) → Answer request × World}
    {program : Program Call Answer α} {state : World} {log : Log Call Answer}
    {exchange : Exchange Call Answer} (member : exchange ∈ (program.eval world state log).2.1) :
    exchange ∈ log ∨ ∃ state, exchange.answer = (world state exchange.request).1 := by
  induction program generalizing state log with
  | done value => exact .inl member
  | call request next ih =>
      rcases ih _ member with before | answered
      · rcases List.mem_cons.mp before with rfl | earlier
        · exact .inr ⟨state, rfl⟩
        · exact .inl earlier
      · exact .inr answered

end Program

end Calls
