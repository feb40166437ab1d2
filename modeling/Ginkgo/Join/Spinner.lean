import Ginkgo.Join.Steps

/-!
# The connect spinner

While `connecting` is set the HUD polls nothing and refuses new joins, so something must
be going to reset it: a connect job in flight, a queued join, or the wait for a
confirmation. That holds in every state of every run in which each start of the connect
script succeeds (`Ginkgo.Hud.connecting_awaits`). `wifi_connect` does not look at the
result of the start, and one start that fails leaves the spinner on
(`Ginkgo.Hud.connecting_stuck`).
-/

namespace Ginkgo

open CText JoinState Transition

/-- Something is going to reset the spinner. -/
def JoinState.Awaits (v : JoinState) : Prop :=
  v.connecting = true → v.InFlight ∨ v.wantConnect = true ∨ v.joinWaitLive = true

instance (v : JoinState) : Decidable v.Awaits := inferInstanceAs (Decidable (_ → _))

/-- A start of the connect script that failed. -/
def Obs.isFailedConnect : Obs → Bool
  | .start .connect _ false => true
  | _ => false

/-- No start of the connect script has failed. -/
def NoFailedConnect (trace : List Obs) : Prop := ∀ obs ∈ trace, obs.isFailedConnect = false

instance (trace : List Obs) : Decidable (NoFailedConnect trace) :=
  inferInstanceAs (Decidable (∀ _ ∈ _, _))

/-- No connect job has failed before either. -/
theorem NoFailedConnect.of_cons {obs : Obs} {trace : List Obs}
    (starts : NoFailedConnect (obs :: trace)) : NoFailedConnect trace :=
  fun old member => starts old (List.mem_cons_of_mem obs member)

namespace JoinState

/-- What holds while every start of the connect script succeeds: a queued join has a
name, so that the queue does start it. -/
structure Steady (v : JoinState) : Prop where
  awaits : v.Awaits
  queued : v.wantConnect = true → v.pendSsid.text ≠ []

variable {v : JoinState}

/-- Where no join is going on, nothing is waited for. -/
theorem awaits_of_idle (idle : v.connecting = false) : v.Awaits := by
  intro connecting
  rw [idle] at connecting
  cases connecting

/-- A child other than a connect job leaves the spinner with what it awaits. -/
theorem Steady.start (steady : v.Steady) {kind : JobKind} {argv : List Text}
    {child : Option Nat} (free : child ≠ none → v.pid = none) : (v.start kind argv child).Steady := by
  cases child with
  | none => exact ⟨steady.awaits, steady.queued⟩
  | some pid =>
      refine ⟨fun connecting => ?_, steady.queued⟩
      rcases steady.awaits connecting with running | wants | waits
      · exact absurd (free (by simp)) running.1
      · exact .inr (.inl wants)
      · exact .inr (.inr waits)

/-- A call whose start succeeds puts its job in flight. -/
theorem Steady.connect (queued : v.wantConnect = true → v.pendSsid.text ≠ [])
    {call : ConnectCall} {argv : List Text} {child : Option Nat}
    (starts : NoFailedConnect (v.connect call argv child).trace) :
    (v.connect call argv child).Steady := by
  cases child with
  | none => exact absurd (starts _ List.mem_cons_self) (by simp [Obs.isFailedConnect])
  | some pid => exact ⟨fun _ => .inl ⟨by simp [JoinState.connect, JoinState.start], rfl⟩, queued⟩

/-- A child that is started adds to the history only. -/
theorem trace_start {kind : JobKind} {argv : List Text} {child : Option Nat}
    (starts : NoFailedConnect (v.start kind argv child).trace) : NoFailedConnect v.trace := by
  cases child <;> exact starts.of_cons

theorem trace_connect {call : ConnectCall} {argv : List Text} {child : Option Nat}
    (starts : NoFailedConnect (v.connect call argv child).trace) : NoFailedConnect v.trace :=
  (trace_start (v := { v with
    connecting := true
    joinWaitLive := false
    connectSsid := _
    pid := none
    overlapped := _
    trace := .connect call :: v.trace }) starts).of_cons

/-- **The spinner's invariant.** -/
theorem steady_invariant : Invariant fun v => NoFailedConnect v.trace → v.Steady where
  blank boot _ :=
    ⟨awaits_of_idle rfl, fun wants => absurd wants Bool.false_ne_true⟩
  opened v shown _ _ _ steady starts := ⟨awaits_of_idle rfl, (steady starts).queued⟩
  move v v' _ move steady starts := by
    cases move with
    | tapped x y => exact ⟨(steady starts.of_cons).awaits, (steady starts.of_cons).queued⟩
    | typed c nonzero room => exact ⟨(steady starts).awaits, (steady starts).queued⟩
    | erased filled => exact ⟨(steady starts).awaits, (steady starts).queued⟩
    | left sheet other => exact ⟨(steady starts).awaits, (steady starts).queued⟩
    | selected name nonempty elsewhere => exact ⟨(steady starts).awaits, (steady starts).queued⟩
    | queued name nonempty asked busy => exact ⟨fun _ => .inr (.inl rfl), fun _ => nonempty⟩
    | started kind argv child other free => exact (steady (trace_start starts)).start free
    | joined call argv child passes idle free =>
        exact .connect (steady (trace_connect starts)).queued starts
    | kicked call argv child passes wants free =>
        exact Steady.connect (v := { v with wantConnect := false }) nofun starts
    | dropped empty wants free => exact absurd empty ((steady starts).queued wants)
    | forgot argv child =>
        refine Steady.start (v := { v with
          joinWaitLive := false, connecting := false, wantConnect := false, pid := none }) ?_ ?_
        · exact ⟨nofun, nofun⟩
        · exact fun _ => rfl
    | confirmed waits => exact ⟨awaits_of_idle rfl, (steady starts).queued⟩
    | ended other =>
        refine ⟨fun connecting => ?_, (steady starts).queued⟩
        rcases (steady starts).awaits connecting with running | wants | waits
        · exact absurd running.2 other
        · exact .inr (.inl wants)
        · exact .inr (.inr waits)
    | succeeded want sheet running kept other =>
        exact ⟨fun _ => .inr (.inr rfl), fun wants => (steady starts).queued (kept wants)⟩
    | retried want call argv child running kept passes =>
        have before : NoFailedConnect v.trace :=
          trace_connect (v := { v with wantConnect := want }) starts
        have queued : want = true → v.pendSsid.text ≠ [] := fun wants =>
          (steady before).queued (kept wants)
        exact Steady.connect (v := { v with wantConnect := want }) queued starts
    | waited running wants nonempty => exact ⟨awaits_of_idle rfl, fun _ => nonempty⟩
    | failed sheet running other => exact ⟨awaits_of_idle rfl, (steady starts).queued⟩

end JoinState

namespace Hud

/-- **The spinner is never left on.** In every run in which each start of the connect
script succeeds, `connecting` awaits a connect job, a queued join or a confirmation. -/
theorem connecting_awaits (boot : Boot) (events : List Event)
    (starts : EachStep step (fun h event => NoFailedConnect (h.step event).trace)
      boot.hud events) :
    Always step (fun h => h.joinState.Awaits) boot.hud events := by
  have initial : NoFailedConnect boot.hud.trace := by
    obtain ⟨argv, child, joins⟩ := boot.hud_joinState
    have trace : boot.hud.trace = (boot.blank.joinState.start .radio argv child).trace :=
      congrArg JoinState.trace joins
    rw [trace]
    cases child <;> simp [NoFailedConnect, JoinState.start, Boot.blank, joinState, Obs.isFailedConnect]
  refine Always.mono (fun h (kept : (h.WellFormed ∧ h.joinState.Steady) ∧ NoFailedConnect h.trace) =>
    kept.1.2.awaits) (always_of_eachStep (fun h event kept started => ?_) ?_ starts)
  · refine ⟨⟨step_wellFormed kept.1.1 event, ?_⟩, started⟩
    exact steady_invariant.step kept.1.1 event (fun _ => kept.1.2) started
  · exact ⟨⟨boot.hud_wellFormed, steady_invariant.boot boot initial⟩, initial⟩

/-- A join from the detail sheet; the last tap gets the given answer to its start. -/
def joinFrames (answer : Spawn) : List Frame :=
  let ok : Sys := { spawn := .child 7 }
  let dev := Dev.slotted 1080 2340
  [.settled [] (.ended "" 0 ok) ok,
    .settled (tapInputs dev 500 400 1000000000 ok) (.ended "Home:70:WPA2:2412 MHz:no" 0 ok) ok,
    .settled (tapInputs dev 510 458 2000000000 ok) (.running ok) ok,
    .settled (tapInputs dev 500 2080 3000000000 { spawn := answer }) (.running ok) ok]

/-- The spinner of the one join. -/
theorem connecting_awaits_join :
    Always step (fun h => h.joinState.Awaits)
      (Boot.hud { W := 1080, H := 2340, sys := { spawn := .child 7 } })
      (loopEvents (joinFrames (.child 8))) :=
  connecting_awaits _ _ (by decide +kernel)

/-- A start that fails leaves the spinner on at the end of an iteration. -/
theorem connecting_stuck :
    ¬∀ (boot : Boot) (frames : List Frame),
      (run step boot.hud (loopEvents frames)).joinState.Awaits := by
  intro always
  have awaits := always { W := 1080, H := 2340, sys := { spawn := .child 7 } } (joinFrames .noFork)
  have stuck : ¬(run step (Boot.hud { W := 1080, H := 2340, sys := { spawn := .child 7 } })
      (loopEvents (joinFrames .noFork))).joinState.Awaits := by decide +kernel
  exact stuck awaits

end Hud

end Ginkgo
