import Ginkgo.Join.Steps

/-!
# Whom the password is for

The password sheet shows the selected name, or the joined one when nothing is selected;
`wifi_submit_pass` sends the password to the joined name, or the selected one when nothing
is joined. The two agree as long as every end of a connect job that opens the sheet shows
the name of the join that goes on (`Ginkgo.Hud.passSheet_agrees_iff`). A plain failure
opens the sheet without selecting the joined network, and then they need not agree
(`Ginkgo.Hud.passSheet_disagrees`).
-/

namespace Ginkgo

open CText JoinState Transition

namespace JoinState

/-- Names that a reader of both cannot tell apart: one is missing, or they are equal. -/
def Match (first second : Text) : Prop := first = [] ∨ second = [] ∨ first = second

instance (first second : Text) : Decidable (Match first second) :=
  inferInstanceAs (Decidable (_ ∨ _))

/-- The name shown is the name the password is for. -/
def Agrees (v : JoinState) : Prop := v.sheetTgt = .pass → v.shownName = v.passName

/-- A join queued while the password sheet is open is for the name it shows. -/
def QueueAgrees (v : JoinState) : Prop :=
  v.sheetTgt = .pass → v.wantConnect = true →
    v.selectedSsid.text = [] ∨ v.pendSsid.text = v.selectedSsid.text

variable {v v' : JoinState}

/-- The name on the sheet is the one the password is for exactly when the two names go together.
-/
theorem shownName_eq_passName_iff :
    v.shownName = v.passName ↔ Match v.selectedSsid.text v.connectSsid.text := by
  unfold JoinState.shownName JoinState.passName Match
  by_cases selected : v.selectedSsid.text = []
  · by_cases joined : v.connectSsid.text = [] <;> simp [selected, joined]
  · by_cases joined : v.connectSsid.text = [] <;> simp [selected, joined]

/-- Away from the sheet nothing is asked. -/
theorem agrees_of_elsewhere (elsewhere : v.sheetTgt ≠ .pass) : v.Agrees ∧ v.QueueAgrees :=
  ⟨fun open' => absurd open' elsewhere, fun open' => absurd open' elsewhere⟩

/-- A change that keeps the names and the sheet, and wants no more than before. -/
theorem agrees_of_same (agrees : v.Agrees ∧ v.QueueAgrees)
    (joined : v'.connectSsid = v.connectSsid) (selected : v'.selectedSsid = v.selectedSsid)
    (queued : v'.pendSsid = v.pendSsid) (sheet : v'.sheetTgt = v.sheetTgt)
    (wants : v'.wantConnect = true → v.wantConnect = true) : v'.Agrees ∧ v'.QueueAgrees := by
  obtain ⟨agrees, queue⟩ := agrees
  constructor
  · intro shown
    rw [shownName_eq_passName_iff, joined, selected, ← shownName_eq_passName_iff]
    exact agrees (sheet ▸ shown)
  · intro shown want
    rw [queued, selected]
    exact queue (sheet ▸ shown) (wants want)

/-- A call for a name that matches the selected one. -/
theorem agrees_connect (queue : v.QueueAgrees) {call : ConnectCall} {argv : List Text}
    {child : Option Nat}
    (matching : v.sheetTgt = .pass → Match v.selectedSsid.text
      (if call.ssid = Arg.var .connectSsid then [] else (Buf.print 96 call.ssidText).text)) :
    (v.connect call argv child).Agrees ∧ (v.connect call argv child).QueueAgrees := by
  have names : (v.connect call argv child).connectSsid.text =
      if call.ssid = Arg.var .connectSsid then [] else (Buf.print 96 call.ssidText).text := by
    cases child <;> simp only [JoinState.connect, JoinState.start] <;> split <;> rfl
  have same : (v.connect call argv child).selectedSsid = v.selectedSsid ∧
      (v.connect call argv child).sheetTgt = v.sheetTgt := by
    cases child <;> exact ⟨rfl, rfl⟩
  constructor
  · intro shown
    rw [shownName_eq_passName_iff, names, same.1]
    exact matching (same.2 ▸ shown)
  · cases child <;> exact queue

/-- **Every move keeps the two names together**, unless it opens the sheet for another. -/
theorem Move.agrees (move : Move v v') (agrees : v.Agrees ∧ v.QueueAgrees) :
    v'.Agrees ∧ v'.QueueAgrees := by
  cases move with
  | tapped x y => exact agrees_of_same agrees rfl rfl rfl rfl id
  | typed c nonzero room => exact agrees_of_same agrees rfl rfl rfl rfl id
  | erased filled => exact agrees_of_same agrees rfl rfl rfl rfl id
  | left sheet other => exact agrees_of_elsewhere other
  | selected name nonempty elsewhere => exact agrees_of_elsewhere elsewhere
  | queued name nonempty asked busy =>
      refine ⟨agrees.1, fun shown _ => ?_⟩
      have same := shownName_eq_passName_iff.mp (agrees.1 shown)
      change v.selectedSsid.text = [] ∨ name.text = v.selectedSsid.text
      rw [asked]
      rcases same with none | none | same
      · exact .inl none
      · exact .inr (by simp [JoinState.passName, none])
      · refine .inr ?_
        unfold JoinState.passName
        split
        · exact same.symm
        · rfl
  | started kind argv child other free =>
      cases child <;> exact agrees_of_same agrees rfl rfl rfl rfl id
  | joined call argv child passes idle free =>
      refine agrees_connect agrees.2 fun _ => ?_
      rcases passes with passes | passes
      · rw [passes.ssid, passes.ssidText, if_neg (by decide), Buf.print_text]
        exact .inr (.inr rfl)
      · rw [passes.ssid, if_pos rfl]
        exact .inr (.inl rfl)
  | kicked call argv child passes wants free =>
      have idle : QueueAgrees { v with wantConnect := false } := fun _ => nofun
      refine agrees_connect idle fun shown => ?_
      rw [passes.ssid, passes.ssidText, if_neg (by decide), Buf.print_text]
      rcases agrees.2 shown wants with none | same
      · exact .inl none
      · exact .inr (.inr same.symm)
  | dropped empty wants free => exact agrees_of_same agrees rfl rfl rfl rfl nofun
  | forgot argv child =>
      cases child <;> exact agrees_of_same agrees rfl rfl rfl rfl nofun
  | confirmed waits => exact agrees_of_same agrees rfl rfl rfl rfl id
  | ended other => exact agrees_of_same agrees rfl rfl rfl rfl id
  | succeeded want sheet running kept other => exact agrees_of_elsewhere other
  | retried want call argv child running kept passes =>
      have queue : QueueAgrees { v with wantConnect := want } := fun shown wants =>
        agrees.2 shown (kept wants)
      refine agrees_connect queue fun _ => ?_
      rw [passes.ssid, if_pos rfl]
      exact .inr (.inl rfl)
  | waited running wants nonempty => exact agrees_of_same agrees rfl rfl rfl rfl id
  | failed sheet running other => exact agrees_of_elsewhere other

end JoinState

namespace Hud

/-- The password sheet shows the name `wifi_submit_pass` sends the password to. -/
def PassSheetAgrees (h : Hud) : Prop :=
  h.ui.sheetTgt = .pass → h.passSheetName = h.load h.gwPassSsid

instance (h : Hud) : Decidable h.PassSheetAgrees := inferInstanceAs (Decidable (_ → _))

/-- When the event is the end of a connect job that opens the password sheet, the name it
will show matches the name of the join that goes on: the queued one if there is one. -/
def OpensMatched (h : Hud) (event : Event) : Prop :=
  ∀ shown ∈ h.opensPass event, Match shown.text
    (if h.join.wantConnect = true ∧ h.bufs.pendSsid.text ≠ [] then h.bufs.pendSsid.text
      else h.bufs.connectSsid.text)

/-- What the HUD shows is what the join machine shows. -/
theorem passSheetAgrees_iff {h : Hud} : h.PassSheetAgrees ↔ h.joinState.Agrees := by
  unfold PassSheetAgrees
  rw [load_gwPassSsid]
  rfl

/-- Whether the sheet agrees after a step that opens it. -/
theorem opened_agrees_iff {h : Hud} (wf : h.WellFormed) {event : Event} {shown : Buf 96}
    (opens : h.opensPass event = some shown) :
    ((h.step event).joinState.Agrees ↔ Match shown.text
      (if h.join.wantConnect = true ∧ h.bufs.pendSsid.text ≠ [] then h.bufs.pendSsid.text
        else h.bufs.connectSsid.text)) ∧ (h.step event).joinState.QueueAgrees := by
  obtain ⟨g, sys, opened, joins, stepped, -⟩ := step_opens wf opens
  have free : g.job.pid = none := congrArg JoinState.pid joins
  have kicked := g.kickPending_kicked sys opened.valid free
  rw [stepped]
  generalize (g.kickPending sys).joinState = v at kicked
  rw [joins] at kicked
  have shownSheet : v.sheetTgt = .pass := kicked.sheetTgt
  constructor
  · have names : v.connectSsid.text =
        if h.join.wantConnect = true ∧ h.bufs.pendSsid.text ≠ [] then h.bufs.pendSsid.text
        else h.bufs.connectSsid.text := by
      rw [kicked.connectSsid]
      exact apply_ite Buf.text _ _ _
    have selected : v.selectedSsid = shown := kicked.selectedSsid
    rw [← names, ← selected, ← shownName_eq_passName_iff]
    exact ⟨fun agrees => agrees shownSheet, fun same _ => same⟩
  · intro _ wants
    rw [kicked.wantConnect] at wants
    cases wants

/-- Without an opening both agreements survive. -/
theorem calm_agrees {h : Hud} (wf : h.WellFormed) (agrees : h.PassSheetAgrees)
    (queue : h.joinState.QueueAgrees) {event : Event} (calm : h.opensPass event = none) :
    (h.step event).joinState.Agrees ∧ (h.step event).joinState.QueueAgrees :=
  (h.step_refines calm wf).2.keep (fun _ _ move => move.agrees)
    ⟨passSheetAgrees_iff.mp agrees, queue⟩

/-- At the start the sheet is closed. -/
theorem boot_agrees (boot : Boot) : boot.hud.joinState.Agrees ∧ boot.hud.joinState.QueueAgrees := by
  obtain ⟨argv, child, joins⟩ := boot.hud_joinState
  rw [joins]
  apply agrees_of_elsewhere
  cases child <;> exact nofun

/-- **The password sheet and the password's network agree in every state of a run exactly
when every step of the run that opens the sheet shows the name of the join that goes on.** -/
theorem passSheet_agrees_iff (boot : Boot) (events : List Event) :
    Always step PassSheetAgrees boot.hud events ↔ EachStep step OpensMatched boot.hud events := by
  obtain ⟨agrees, queue⟩ := boot_agrees boot
  refine always_iff_eachStep (fun h => h.WellFormed ∧ h.joinState.QueueAgrees)
    (fun h event kept agrees => ?_) (fun h event kept agrees => ?_)
    ⟨boot.hud_wellFormed, queue⟩ (passSheetAgrees_iff.mpr agrees) events
  · refine ⟨step_wellFormed kept.1 event, ?_⟩
    cases opens : h.opensPass event with
    | none => exact (calm_agrees kept.1 agrees kept.2 opens).2
    | some shown => exact (opened_agrees_iff kept.1 opens).2
  · rw [passSheetAgrees_iff]
    cases opens : h.opensPass event with
    | none =>
        have survives := (calm_agrees kept.1 agrees kept.2 opens).1
        simp [OpensMatched, opens, survives]
    | some shown =>
        rw [(opened_agrees_iff kept.1 opens).1]
        simp [OpensMatched, opens]

/-- The user joins a network again with its remembered password, looks at another row of
the list meanwhile, and the join fails without naming a reason. -/
def otherRowFrames : List Frame :=
  let ok : Sys := { spawn := .child 7 }
  let tapAt (x y : Int) (n : Nat) := tapInputs (.slotted 1080 2340) x y (n * 1000000000) ok
  let still (taps : List Input) := Frame.settled taps (.running ok) ok
  [.settled [] (.ended "" 0 ok) ok,
    .settled (tapAt 500 400 1) (.ended "Home:70:WPA2:2412 MHz:no\nCafe:60:WPA2:2412 MHz:no" 0 ok) ok,
    still (tapAt 510 458 2),
    .settled (tapAt 500 2080 3) (.ended "NEED_PASSWORD" 2 ok) ok,
    still ((List.range 8).flatMap fun n : Nat => tapAt (50 + n) (1980 + n) (4 + n)),
    .settled (tapAt 900 450 20) (.ended "failed" 1 ok) ok,
    still (tapAt 100 455 21),
    still (tapAt 500 2080 22),
    still (tapAt 100 256 23),
    .settled (tapAt 500 626 24) (.ended "failed" 1 ok) ok]

/-- After that failure the sheet shows the other row, and the password would go to the
joined network. -/
theorem passSheet_disagrees :
    ¬∀ (boot : Boot) (frames : List Frame),
      (run step boot.hud (loopEvents frames)).PassSheetAgrees := by
  intro always
  have agrees := always { W := 1080, H := 2340, sys := { spawn := .child 7 } } otherRowFrames
  have differs : ¬(run step (Boot.hud { W := 1080, H := 2340, sys := { spawn := .child 7 } })
      (loopEvents otherRowFrames)).PassSheetAgrees := by decide +kernel
  exact differs agrees

end Hud

end Ginkgo
