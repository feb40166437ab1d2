import Ginkgo.Join.Steps

/-!
# What a join is started with

`wifi_connect` overwrites `connect_ssid` before it reads its arguments, and two of its
callers pass `connect_ssid` itself. A call passes on the name and the password it was
given exactly when its name argument is another array
(`Ginkgo.Hud.calls_faithful_iff`); otherwise the script gets an empty name
(`Ginkgo.Hud.call_unfaithful`).
-/

namespace Ginkgo

open CText JoinState Transition

/-- The call passed on, or queued, the name and the password it was given. -/
def ConnectCall.Faithful (call : ConnectCall) : Prop :=
  match call.outcome with
  | .argv s1 s2 _ => s1 = call.ssidText ∧ s2 = call.passText
  | .queued pendSsid pendPass _ => pendSsid = call.ssidText ∧ pendPass = call.passText
  | .kept => True

instance (call : ConnectCall) : Decidable call.Faithful := by
  unfold ConnectCall.Faithful
  split <;> infer_instance

/-- The calls of `wifi_connect` in a history. -/
def connectCalls (trace : List Obs) : List ConnectCall :=
  trace.filterMap fun
    | .connect call => some call
    | _ => none

namespace JoinState

variable {v : JoinState}

/-- **A call is faithful exactly when its name is not `connect_ssid` itself**, and only
such a call copies an array onto itself. -/
structure CallsPass (v : JoinState) : Prop where
  faithful : ∀ call ∈ connectCalls v.trace, call.Faithful ↔ call.ssid ≠ .var .connectSsid
  overlapped : v.overlapped = true ↔ ∃ call ∈ connectCalls v.trace, call.ssid = .var .connectSsid

/-- A call is faithful unless it is given `connect_ssid` itself. -/
theorem Passes.faithful_iff {call : ConnectCall} {array : Var} {name : Text}
    (passes : Passes call array name) : call.Faithful ↔ call.ssid ≠ .var .connectSsid := by
  have nonempty := passes.nonempty
  rw [ConnectCall.Faithful, passes.outcome, passes.ssidText, passes.ssid]
  by_cases same : array = .connectSsid
  · simp [same, nonempty.symm]
  · simp [same]

/-- A change that makes no call. -/
theorem CallsPass.of_same {v' : JoinState} (pass : v.CallsPass)
    (calls : connectCalls v'.trace = connectCalls v.trace)
    (overlapped : v'.overlapped = v.overlapped) : v'.CallsPass := by
  refine ⟨?_, ?_⟩
  · rw [calls]
    exact pass.faithful
  · rw [calls, overlapped]
    exact pass.overlapped

/-- A child other than a connect job calls nothing. -/
theorem CallsPass.start (pass : v.CallsPass) {kind : JobKind} {argv : List Text}
    {child : Option Nat} : (v.start kind argv child).CallsPass := by
  cases child <;> exact pass.of_same rfl rfl

/-- One more call, whatever becomes of the start of its script. -/
theorem CallsPass.connect (pass : v.CallsPass) {call : ConnectCall} {argv : List Text}
    {child : Option Nat} {array : Var} {name : Text} (passes : Passes call array name) :
    (v.connect call argv child).CallsPass := by
  have added : (v.connect call argv child).CallsPass ↔
      (∀ old ∈ call :: connectCalls v.trace, old.Faithful ↔ old.ssid ≠ .var .connectSsid) ∧
        ((v.overlapped || decide (call.ssid = Arg.var .connectSsid)) = true ↔
          ∃ old ∈ call :: connectCalls v.trace, old.ssid = .var .connectSsid) := by
    cases child <;> exact ⟨fun pass => ⟨pass.faithful, pass.overlapped⟩, fun pass => ⟨pass.1, pass.2⟩⟩
  rw [added]
  constructor
  · intro old member
    rcases List.mem_cons.mp member with rfl | member
    · exact passes.faithful_iff
    · exact pass.faithful old member
  · rw [Bool.or_eq_true, pass.overlapped, decide_eq_true_eq]
    constructor
    · rintro (⟨old, member, same⟩ | same)
      · exact ⟨old, List.mem_cons_of_mem call member, same⟩
      · exact ⟨call, List.mem_cons_self, same⟩
    · rintro ⟨old, member, same⟩
      rcases List.mem_cons.mp member with rfl | member
      · exact .inr same
      · exact .inl ⟨old, member, same⟩

/-- **Every move keeps what the calls pass.** -/
theorem callsPass_invariant : Invariant CallsPass where
  blank boot := by constructor <;> simp [Hud.joinState, Boot.blank, connectCalls]
  opened v shown _ _ _ pass := pass.of_same rfl rfl
  move v v' _ move pass := by
    cases move with
    | started kind argv child other free => exact pass.start
    | joined call argv child passes idle free =>
        rcases passes with passes | passes
        · exact pass.connect passes
        · exact pass.connect passes
    | kicked call argv child passes wants free =>
        have idle : CallsPass { v with wantConnect := false } := pass.of_same rfl rfl
        exact idle.connect passes
    | retried want call argv child running kept passes =>
        have kept : CallsPass { v with wantConnect := want } := pass.of_same rfl rfl
        exact kept.connect passes
    | forgot argv child =>
        have idle : CallsPass { v with
            joinWaitLive := false, connecting := false, wantConnect := false, pid := none } :=
          pass.of_same rfl rfl
        exact idle.start
    | tapped x y => exact pass.of_same rfl rfl
    | typed c nonzero room => exact pass.of_same rfl rfl
    | erased filled => exact pass.of_same rfl rfl
    | left sheet other => exact pass.of_same rfl rfl
    | selected name nonempty elsewhere => exact pass.of_same rfl rfl
    | queued name nonempty asked busy => exact pass.of_same rfl rfl
    | dropped empty wants free => exact pass.of_same rfl rfl
    | confirmed waits => exact pass.of_same rfl rfl
    | ended other => exact pass.of_same rfl rfl
    | succeeded want sheet running kept other => exact pass.of_same rfl rfl
    | waited running wants nonempty => exact pass.of_same rfl rfl
    | failed sheet running other => exact pass.of_same rfl rfl

end JoinState

namespace Hud

/-- **Joins are started with what was asked for, unless the name is `connect_ssid` itself.**
In every state of every run, each call so far has passed on the name and the password it
was given exactly when its name argument was another array, and an array has been copied
onto itself exactly when there was a call for which it was not. -/
theorem calls_faithful_iff (boot : Boot) (events : List Event) :
    (∀ call ∈ connectCalls (run step boot.hud events).trace,
        call.Faithful ↔ call.ssid ≠ .var .connectSsid) ∧
      ((run step boot.hud events).overlapped = false ↔
        ∀ call ∈ connectCalls (run step boot.hud events).trace, call.ssid ≠ .var .connectSsid) := by
  have pass := (callsPass_invariant.always boot events).last.2
  refine ⟨pass.faithful, ?_⟩
  rw [← Bool.not_eq_true]
  change ¬(run step boot.hud events).joinState.overlapped = true ↔ _
  rw [pass.overlapped]
  simp only [not_exists, not_and, ne_eq]
  rfl

/-- A network asks for its password, and the user enters one and submits it. -/
def submitFrames : List Frame :=
  let ok : Sys := { spawn := .child 7 }
  let dev := Dev.slotted 1080 2340
  let key (n : Nat) := tapInputs dev (50 + n) (1980 + n) (4000000000 + n * 1000000000) ok
  [.settled [] (.ended "" 0 ok) ok,
    .settled (tapInputs dev 500 400 1000000000 ok) (.ended "Home:70:WPA2:2412 MHz:no" 0 ok) ok,
    .settled (tapInputs dev 510 458 2000000000 ok) (.running ok) ok,
    .settled (tapInputs dev 500 2080 3000000000 ok) (.ended "NEED_PASSWORD" 2 ok) ok,
    .settled ((List.range 8).flatMap key) (.running ok) ok,
    .settled (tapInputs dev 900 450 20000000000 ok) (.running ok) ok]

/-- Submitting a password after a join has named its network loses that name. -/
theorem call_unfaithful :
    ¬∀ (boot : Boot) (frames : List Frame),
      (∀ call ∈ connectCalls (run step boot.hud (loopEvents frames)).trace, call.Faithful) ∧
        (run step boot.hud (loopEvents frames)).overlapped = false := by
  intro always
  have faithful := always { W := 1080, H := 2340, sys := { spawn := .child 7 } } submitFrames
  have lost : ¬∀ call ∈ connectCalls (run step
      (Boot.hud { W := 1080, H := 2340, sys := { spawn := .child 7 } })
      (loopEvents submitFrames)).trace, call.Faithful := by decide +kernel
  exact lost faithful.1

end Hud

end Ginkgo
