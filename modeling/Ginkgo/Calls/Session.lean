import Ginkgo.Calls.Program

/-!
# Sessions

A session is a program with a state of its own that can be left early, as a script is by `exit`.
`Calls.Session.Ensures` is the triple of a session: from a state and a log that meet the first
condition every run meets the second one, or the third one when the session is left. A session
that keeps an invariant, left or not, is `Calls.Session.Keeps`.
-/

namespace Calls

universe u

/-- A program with a state, left early with an `Exit`. -/
def Session (State Exit Call : Type u) (Answer : Call → Type u) (α : Type u) :=
  State → Program Call Answer (Except Exit α × State)

namespace Session

variable {State Exit Call : Type u} {Answer : Call → Type u} {α β : Type u}

/-- What comes after a session that has not been left. -/
def bind (first : Session State Exit Call Answer α) (rest : α → Session State Exit Call Answer β) :
    Session State Exit Call Answer β := fun state =>
  (first state).bind fun
    | (.ok value, state) => rest value state
    | (.error left, state) => .done (.error left, state)

instance : Monad (Session State Exit Call Answer) where
  pure value := fun state => .done (.ok value, state)
  bind := bind

/-- The session that makes one call. -/
def request (call : Call) : Session State Exit Call Answer (Answer call) :=
  fun state => .call call fun answer => .done (.ok answer, state)

/-- The session that reads its state. -/
def get : Session State Exit Call Answer State := fun state => .done (.ok state, state)

/-- The session that changes its state. -/
def modify (change : State → State) : Session State Exit Call Answer PUnit :=
  fun state => .done (.ok ⟨⟩, change state)

/-- What an inner session is left with does not leave the outer one. -/
def attempt (inner : Session State Exit Call Answer α) :
    Session State Exit Call Answer (Except Exit α) := fun state =>
  (inner state).bind fun (result, state) => .done (.ok result, state)

/-- The session is left. -/
def exit (left : Exit) : Session State Exit Call Answer α := fun state => .done (.error left, state)

/-- From a state and a log that meet the first condition every run meets the second one, or the
third one when the session is left. -/
def Ensures (pre : State → Log Call Answer → Prop) (session : Session State Exit Call Answer α)
    (post : α → State → Log Call Answer → Prop) (leave : Exit → State → Log Call Answer → Prop) :
    Prop :=
  ∀ state log, pre state log → (session state).wp (fun
    | (.ok value, state) => post value state
    | (.error left, state) => leave left state) log

/-- The session keeps an invariant, also when it is left. -/
def Keeps (invariant : State → Log Call Answer → Prop) (session : Session State Exit Call Answer α) :
    Prop :=
  session.Ensures invariant (fun _ => invariant) fun _ => invariant

section Rules

variable {pre : State → Log Call Answer → Prop} {post : α → State → Log Call Answer → Prop}
  {leave : Exit → State → Log Call Answer → Prop} {session : Session State Exit Call Answer α}

/-- What a session ensures holds of its runs. -/
theorem Ensures.runs (ensures : session.Ensures pre post leave) {state state' : State}
    {log log' : Log Call Answer} (holds : pre state log) {value : α}
    (runs : (session state).Runs log (.ok value, state') log') : post value state' log' :=
  Program.wp_iff_runs.mp (ensures state log holds) _ _ runs

/-- A triple holds of stronger conditions before it and of weaker ones after it. -/
theorem Ensures.mono {pre' : State → Log Call Answer → Prop}
    {post' : α → State → Log Call Answer → Prop} {leave' : Exit → State → Log Call Answer → Prop}
    (ensures : session.Ensures pre post leave) (before : ∀ state log, pre' state log → pre state log)
    (after : ∀ value state log, post value state log → post' value state log)
    (early : ∀ left state log, leave left state log → leave' left state log) :
    session.Ensures pre' post' leave' := by
  intro state log holds
  refine Program.wp_mono ?_ (ensures state log (before state log holds))
  rintro ⟨result, state'⟩ log' ends
  cases result with
  | ok value => exact after value state' log' ends
  | error left => exact early left state' log' ends

/-- A stronger condition before. -/
theorem Ensures.before {pre' : State → Log Call Answer → Prop}
    (ensures : session.Ensures pre post leave)
    (before : ∀ state log, pre' state log → pre state log) : session.Ensures pre' post leave :=
  fun state log holds => ensures state log (before state log holds)

/-- A weaker condition where it is left. -/
theorem Ensures.early {leave' : Exit → State → Log Call Answer → Prop}
    (ensures : session.Ensures pre post leave)
    (early : ∀ left state log, leave left state log → leave' left state log) :
    session.Ensures pre post leave' :=
  ensures.mono (fun _ _ => id) (fun _ _ _ => id) early

/-- Two triples of one session at once. -/
theorem Ensures.and {pre' : State → Log Call Answer → Prop}
    {post' : α → State → Log Call Answer → Prop} {leave' : Exit → State → Log Call Answer → Prop}
    (ensures : session.Ensures pre post leave) (ensures' : session.Ensures pre' post' leave') :
    session.Ensures (fun state log => pre state log ∧ pre' state log)
      (fun value state log => post value state log ∧ post' value state log)
      fun left state log => leave left state log ∧ leave' left state log := by
  rintro state log ⟨holds, holds'⟩
  refine Program.wp_iff_runs.mpr fun ⟨result, state'⟩ after runs => ?_
  have first := Program.wp_iff_runs.mp (ensures state log holds) _ _ runs
  have second := Program.wp_iff_runs.mp (ensures' state log holds') _ _ runs
  cases result with
  | ok value => exact ⟨first, second⟩
  | error left => exact ⟨first, second⟩

/-- A condition that some index meets, before. -/
theorem Ensures.of_exists {ι : Sort*} {pre : ι → State → Log Call Answer → Prop}
    (ensures : ∀ i, session.Ensures (pre i) post leave) :
    session.Ensures (fun state log => ∃ i, pre i state log) post leave :=
  fun state log holds => holds.elim fun i holds => ensures i state log holds

/-- What every further exchange keeps is kept by a session. -/
theorem Ensures.frame {fact : Log Call Answer → Prop}
    (stable : ∀ exchange log, fact log → fact (exchange :: log))
    (ensures : session.Ensures pre post leave) :
    session.Ensures (fun state log => pre state log ∧ fact log)
      (fun value state log => post value state log ∧ fact log)
      fun left state log => leave left state log ∧ fact log := by
  rintro state log ⟨holds, known⟩
  refine Program.wp_mono ?_ (Program.wp_frame stable (ensures state log holds) known)
  rintro ⟨result, state'⟩ log' ends
  cases result with
  | ok value => exact ends
  | error left => exact ends

/-- One session after the other. -/
theorem Ensures.bind (mid : α → State → Log Call Answer → Prop)
    {post : β → State → Log Call Answer → Prop} {rest : α → Session State Exit Call Answer β}
    (first : session.Ensures pre mid leave)
    (next : ∀ value, (rest value).Ensures (mid value) post leave) :
    Ensures pre (session >>= rest) post leave := by
  intro state log holds
  refine (Program.wp_bind _ _ _).mpr (Program.wp_mono ?_ (first state log holds))
  rintro ⟨result, state'⟩ log' ends
  cases result with
  | ok value => exact next value state' log' ends
  | error left => exact ends

/-- A value changes nothing. -/
theorem Ensures.pure {value : α} (after : ∀ state log, pre state log → post value state log) :
    Ensures pre (Pure.pure value : Session State Exit Call Answer α) post leave := after

/-- Leaving changes nothing. -/
theorem Ensures.exit {left : Exit} (after : ∀ state log, pre state log → leave left state log) :
    Ensures pre (Session.exit left : Session State Exit Call Answer α) post leave := after

/-- What an inner session is left with is its value. -/
theorem Ensures.attempt {post : Except Exit α → State → Log Call Answer → Prop}
    {other : Exit → State → Log Call Answer → Prop}
    (ensures : session.Ensures pre (fun value => post (.ok value)) fun left => post (.error left)) :
    session.attempt.Ensures pre post other := by
  intro state log holds
  refine (Program.wp_bind _ _ _).mpr (Program.wp_mono ?_ (ensures state log holds))
  rintro ⟨result, state'⟩ log' ends
  cases result with
  | ok value => exact ends
  | error left => exact ends

/-- The state that is read. -/
theorem Ensures.get {post : State → State → Log Call Answer → Prop}
    (after : ∀ state log, pre state log → post state state log) :
    Ensures pre (Session.get : Session State Exit Call Answer State) post leave := after

/-- The state that is changed. -/
theorem Ensures.modify {change : State → State} {post : PUnit → State → Log Call Answer → Prop}
    (after : ∀ state log, pre state log → post ⟨⟩ (change state) log) :
    Ensures pre (Session.modify change : Session State Exit Call Answer PUnit) post leave := after

/-- A call and its answer are logged. -/
theorem Ensures.request {call : Call} {post : Answer call → State → Log Call Answer → Prop}
    (after : ∀ answer state log, pre state log → post answer state (⟨call, answer⟩ :: log)) :
    Ensures pre (Session.request call : Session State Exit Call Answer (Answer call)) post leave :=
  fun state log holds answer => after answer state log holds

/-- A branch of two sessions, each of which may use the condition. -/
theorem Ensures.ite {condition : Prop} [Decidable condition]
    {other : Session State Exit Call Answer α}
    (yes : condition → session.Ensures pre post leave)
    (no : ¬condition → other.Ensures pre post leave) :
    Ensures pre (if condition then session else other) post leave := by
  split
  · next holds => exact yes holds
  · next fails => exact no fails

/-- What holds before a session whatever its state and its log are. -/
theorem Ensures.assume {fact : Prop} (known : ∀ state log, pre state log → fact)
    (ensures : fact → session.Ensures pre post leave) : session.Ensures pre post leave :=
  fun state log holds => ensures (known state log holds) state log holds

end Rules

end Session

end Calls
