import Ginkgo.Join.Steps

/-!
# Whose password it is

The history of the password notes, for every character in it, the name the password sheet
showed when the character was typed. While the sheet is open all of them are the name it
shows, as long as every end of a connect job that opens the sheet finds the password
empty or typed for the name it opens the sheet for
(`Ginkgo.Hud.password_owned_iff`). The reset at the opening only wipes a password that is
already empty, so an old password stays (`Ginkgo.Hud.password_stays`).
-/

namespace Ginkgo

open CText JoinState Transition

namespace JoinState

/-- Every character was typed while the sheet was open for the name it is open for. -/
def Owned (v : JoinState) : Prop :=
  v.sheetTgt = .pass → ∀ entry ∈ v.typed, entry.2 = some v.shownName

/-- Until a row has been selected nothing has been joined, queued or asked. -/
def Selects (v : JoinState) : Prop :=
  v.selectedSsid.text = [] →
    v.connectSsid.text = [] ∧ v.wantConnect = false ∧ v.sheetTgt ≠ .pass ∧ ¬v.InFlight

variable {v v' : JoinState}

/-- Where a row has been selected, nothing else is asked. -/
theorem selects_of_ne (selected : v.selectedSsid.text ≠ []) : v.Selects :=
  fun none => absurd none selected

/-- Whoever is joined, queued, asked for or in flight has been selected. -/
theorem Selects.ne (selects : v.Selects)
    (begun : v.connectSsid.text ≠ [] ∨ v.wantConnect = true ∨ v.sheetTgt = .pass ∨ v.InFlight) :
    v.selectedSsid.text ≠ [] := by
  intro none
  obtain ⟨joined, wants, sheet, flight⟩ := selects none
  rcases begun with begun | begun | begun | begun
  · exact begun joined
  · rw [wants] at begun
    cases begun
  · exact sheet begun
  · exact flight begun

/-- A child other than a connect job. -/
theorem Selects.start (selects : v.Selects) {kind : JobKind} {argv : List Text}
    {child : Option Nat} (other : kind ≠ .connect) : (v.start kind argv child).Selects := by
  cases child with
  | none => exact selects
  | some pid =>
      intro none
      obtain ⟨joined, wants, sheet, -⟩ := selects none
      exact ⟨joined, wants, sheet, fun running => other running.2⟩

/-- A connect job leaves the selected name. -/
theorem connect_selectedSsid (v : JoinState) (call : ConnectCall) (argv : List Text)
    (child : Option Nat) : (v.connect call argv child).selectedSsid = v.selectedSsid := by
  cases child <;> rfl

/-- Every move keeps that something was selected first. -/
theorem selects_invariant : Invariant Selects where
  blank boot _ := ⟨rfl, rfl, nofun, fun running => running.1 rfl⟩
  opened v shown _ running offers selects := by
    apply selects_of_ne
    rcases offers with rfl | ⟨rfl, joined⟩
    · exact selects.ne (.inr (.inr (.inr running)))
    · exact joined
  move v v' _ move selects := by
    cases move with
    | tapped x y => exact selects
    | typed c nonzero room => exact selects
    | erased filled => exact selects
    | left sheet other =>
        intro none
        obtain ⟨joined, wants, -, flight⟩ := selects none
        exact ⟨joined, wants, other, flight⟩
    | selected name nonempty elsewhere => exact selects_of_ne nonempty
    | queued name nonempty asked busy =>
        refine selects_of_ne fun none => nonempty ?_
        rw [asked, JoinState.passName, (selects none).1]
        exact none
    | started kind argv child other free => exact selects.start other
    | joined call argv child passes idle free =>
        apply selects_of_ne
        rw [connect_selectedSsid]
        rcases passes with passes | passes
        · exact passes.nonempty
        · exact selects.ne (.inl passes.nonempty)
    | kicked call argv child passes wants free =>
        apply selects_of_ne
        rw [connect_selectedSsid]
        exact selects.ne (.inr (.inl wants))
    | dropped empty wants free => exact selects_of_ne (selects.ne (.inr (.inl wants)))
    | forgot argv child =>
        have idle : Selects { v with
            joinWaitLive := false, connecting := false, wantConnect := false, pid := none } := by
          intro none
          exact ⟨(selects none).1, rfl, (selects none).2.2.1, fun running => running.1 rfl⟩
        have other : JobKind.forget ≠ .connect := by decide
        exact idle.start other
    | confirmed waits => exact selects
    | ended other =>
        intro none
        obtain ⟨joined, wants, sheet, -⟩ := selects none
        exact ⟨joined, wants, sheet, fun running => running.1 rfl⟩
    | succeeded want sheet running kept other =>
        exact selects_of_ne (selects.ne (.inr (.inr (.inr running))))
    | retried want call argv child running kept passes =>
        apply selects_of_ne
        rw [connect_selectedSsid]
        exact selects.ne (.inl passes.nonempty)
    | waited running wants nonempty => exact selects_of_ne (selects.ne (.inr (.inl wants)))
    | failed sheet running other => exact selects_of_ne (selects.ne (.inr (.inr (.inr running))))

/-- The sheet shows the selected name. -/
theorem shownName_of_selected (selected : v.selectedSsid.text ≠ []) :
    v.shownName = v.selectedSsid.text := if_pos selected

/-- Away from the sheet nothing is asked. -/
theorem owned_of_elsewhere (elsewhere : v.sheetTgt ≠ .pass) : v.Owned :=
  fun shown => absurd shown elsewhere

/-- A change that keeps the password, the sheet and the selected name. -/
theorem Owned.of_same (owned : v.Owned) (selects : v.Selects) (typed : v'.typed = v.typed)
    (selected : v'.selectedSsid = v.selectedSsid) (sheet : v'.sheetTgt = v.sheetTgt) :
    v'.Owned := by
  intro shown entry member
  have open' : v.sheetTgt = .pass := sheet ▸ shown
  have named : v.selectedSsid.text ≠ [] := selects.ne (.inr (.inr (.inl open')))
  rw [shownName_of_selected (selected ▸ named), selected, ← shownName_of_selected named]
  exact owned open' entry (typed ▸ member)

/-- **Every move keeps the characters with their name**, as long as the sheet is not opened for
another. -/
theorem Move.owned (move : Move v v') (selects : v.Selects) (owned : v.Owned) : v'.Owned := by
  cases move with
  | tapped x y => exact owned.of_same selects rfl rfl rfl
  | typed c nonzero room =>
      intro shown entry member
      have shown : v.sheetTgt = .pass := shown
      rcases List.mem_append.mp member with old | new
      · exact owned shown entry old
      · rw [List.mem_singleton.mp new]
        exact if_pos shown
  | erased filled =>
      exact fun shown entry member => owned shown entry (List.mem_of_mem_dropLast member)
  | left sheet other => exact owned_of_elsewhere other
  | selected name nonempty elsewhere => exact owned_of_elsewhere elsewhere
  | queued name nonempty asked busy => exact owned.of_same selects rfl rfl rfl
  | started kind argv child other free => cases child <;> exact owned.of_same selects rfl rfl rfl
  | joined call argv child passes idle free =>
      cases child <;> exact owned.of_same selects rfl rfl rfl
  | kicked call argv child passes wants free =>
      cases child <;> exact owned.of_same selects rfl rfl rfl
  | dropped empty wants free => exact owned.of_same selects rfl rfl rfl
  | forgot argv child => cases child <;> exact owned.of_same selects rfl rfl rfl
  | confirmed waits => exact owned.of_same selects rfl rfl rfl
  | ended other => exact owned.of_same selects rfl rfl rfl
  | succeeded want sheet running kept other => exact owned_of_elsewhere other
  | retried want call argv child running kept passes =>
      cases child <;> exact owned.of_same selects rfl rfl rfl
  | waited running wants nonempty => exact owned.of_same selects rfl rfl rfl
  | failed sheet running other => exact owned_of_elsewhere other

end JoinState

namespace Hud

/-- The password is what was typed, and while the sheet is open all of it was typed for the
name the sheet shows. -/
def PasswordOwned (h : Hud) : Prop :=
  h.osk.password.text = h.osk.typed.map Prod.fst ∧ h.osk.pwLen = h.osk.typed.length ∧
    (h.ui.sheetTgt = .pass → ∀ entry ∈ h.osk.typed, entry.2 = some h.passSheetName)

instance (h : Hud) : Decidable h.PasswordOwned := inferInstanceAs (Decidable (_ ∧ _ ∧ (_ → _)))

/-- When the event opens the password sheet, the characters still in the password were
typed for the name it opens the sheet for. -/
def OpensOwned (h : Hud) (event : Event) : Prop :=
  ∀ shown ∈ h.opensPass event, ∀ entry ∈ h.osk.typed, entry.2 = some shown.text

/-- Opening the sheet for the name the characters were typed for keeps them. -/
def ReopenKeeps (h : Hud) (event : Event) : Prop :=
  h.OpensOwned event → ∀ shown ∈ h.opensPass event,
    (h.step event).osk.password.text = h.osk.password.text

/-- A step that opens the sheet keeps the characters, and shows the name it opens for. -/
theorem step_opened {h : Hud} (wf : h.WellFormed) (selects : h.joinState.Selects)
    {event : Event} {shown : Buf 96} (opens : h.opensPass event = some shown) :
    (h.step event).osk.typed = h.osk.typed ∧ (h.step event).ui.sheetTgt = .pass ∧
      (h.step event).passSheetName = shown.text := by
  obtain ⟨g, sys, opened, joins, stepped, running⟩ := step_opens wf opens
  have free : g.job.pid = none := congrArg JoinState.pid joins
  have kicked := g.kickPending_kicked sys opened.valid free
  rw [joins, ← stepped] at kicked
  have named : shown.text ≠ [] := by
    rcases opensPass_offers opens with rfl | ⟨rfl, joined⟩
    · exact selects.ne (.inr (.inr (.inr running)))
    · exact joined
  have selected : (h.step event).scan.selectedSsid = shown := kicked.selectedSsid
  refine ⟨kicked.typed, kicked.sheetTgt, ?_⟩
  rw [passSheetName, selected, if_pos named]

/-- What the HUD has is what the join machine has. -/
theorem passwordOwned_iff {h : Hud} (wf : h.WellFormed) : h.PasswordOwned ↔ h.joinState.Owned :=
  ⟨fun owned => owned.2.2, fun owned => ⟨wf.sound.password, wf.sound.pwLen, owned⟩⟩

/-- Opening the sheet again keeps the characters. -/
theorem reopenKeeps {h : Hud} (wf : h.WellFormed) (selects : h.joinState.Selects) (event : Event) :
    h.ReopenKeeps event := by
  intro _ shown opens
  have after : (h.step event).osk.password.text = (h.step event).osk.typed.map Prod.fst :=
    (step_wellFormed wf event).sound.password
  have before : h.osk.password.text = h.osk.typed.map Prod.fst := wf.sound.password
  rw [after, before, (step_opened wf selects opens).1]

/-- Whether the password belongs to the name on display after a step. -/
theorem step_owned_iff {h : Hud} (wf : h.WellFormed) (selects : h.joinState.Selects)
    (owned : h.PasswordOwned) (event : Event) :
    (h.step event).PasswordOwned ↔ h.OpensOwned event := by
  rw [passwordOwned_iff (step_wellFormed wf event)]
  cases opens : h.opensPass event with
  | none =>
      have keeps : ∀ v v', Move v v' → v.Sound ∧ v.Selects ∧ v.Owned →
          v'.Sound ∧ v'.Selects ∧ v'.Owned := fun v v' move kept =>
        ⟨move.sound kept.1, selects_invariant.move v v' kept.1 move kept.2.1,
          move.owned kept.2.1 kept.2.2⟩
      have survives := (h.step_refines opens wf).2.keep keeps ⟨wf.sound, selects, owned.2.2⟩
      simp [OpensOwned, opens, survives.2.2]
  | some shown =>
      obtain ⟨typed, sheet, name⟩ := step_opened wf selects opens
      have same : (h.step event).joinState.Owned ↔
          ((h.step event).ui.sheetTgt = .pass → ∀ entry ∈ (h.step event).osk.typed,
            entry.2 = some (h.step event).passSheetName) := Iff.rfl
      rw [same, typed, name]
      simp [OpensOwned, opens, sheet]

/-- **The password belongs to the network on display in every state of a run, and
re-opening the sheet keeps it, exactly when every step of the run that opens the sheet
finds the password empty or typed for the name it opens the sheet for.** -/
theorem password_owned_iff (boot : Boot) (events : List Event) :
    Always step PasswordOwned boot.hud events ∧ EachStep step ReopenKeeps boot.hud events ↔
      EachStep step OpensOwned boot.hud events := by
  have selects := selects_invariant.boot boot
  have initial : boot.hud.PasswordOwned := by
    rw [passwordOwned_iff boot.hud_wellFormed]
    obtain ⟨argv, child, joins⟩ := boot.hud_joinState
    rw [joins]
    apply owned_of_elsewhere
    cases child <;> exact nofun
  have keeps : EachStep step ReopenKeeps boot.hud events :=
    eachStep_of_invariant
      (fun h event (kept : h.WellFormed ∧ h.joinState.Selects) =>
        ⟨step_wellFormed kept.1 event, selects_invariant.step kept.1 event kept.2⟩)
      (fun h event kept => reopenKeeps kept.1 kept.2 event) ⟨boot.hud_wellFormed, selects⟩ events
  have owned : Always step PasswordOwned boot.hud events ↔
      EachStep step OpensOwned boot.hud events := by
    refine always_iff_eachStep (fun h => h.WellFormed ∧ h.joinState.Selects)
      (fun h event kept _ => ?_) (fun h event kept owned => ?_)
      ⟨boot.hud_wellFormed, selects⟩ initial events
    · exact ⟨step_wellFormed kept.1 event, selects_invariant.step kept.1 event kept.2⟩
    · exact step_owned_iff kept.1 kept.2 owned event
  rw [owned]
  exact ⟨And.left, fun opens => ⟨opens, keeps⟩⟩

/-- The user enters a password for one network, cancels, and joins another one that asks
for its password. -/
def keptPasswordFrames : List Frame :=
  let ok : Sys := { spawn := .child 7 }
  let tapAt (x y : Int) (n : Nat) := tapInputs (.slotted 1080 2340) x y (n * 1000000000) ok
  let still (taps : List Input) := Frame.settled taps (.running ok) ok
  [.settled [] (.ended "" 0 ok) ok,
    .settled (tapAt 500 400 1) (.ended "Home:70:WPA2:2412 MHz:no\nCafe:60:WPA2:2412 MHz:no" 0 ok)
      ok,
    still (tapAt 510 458 2),
    .settled (tapAt 500 2080 3) (.ended "NEED_PASSWORD" 2 ok) ok,
    still ((List.range 8).flatMap fun n : Nat => tapAt (50 + n) (1980 + n) (4 + n)),
    still (tapAt 100 450 20),
    still (tapAt 110 256 21),
    still (tapAt 500 626 22),
    .settled (tapAt 510 2080 23) (.ended "NEED_PASSWORD" 2 ok) ok]

/-- The password entered for the first network is on the sheet of the second. -/
theorem password_stays :
    ¬∀ (boot : Boot) (frames : List Frame),
      (run step boot.hud (loopEvents frames)).PasswordOwned := by
  intro always
  have owned := always { W := 1080, H := 2340, sys := { spawn := .child 7 } } keptPasswordFrames
  have foreign : ¬(run step (Boot.hud { W := 1080, H := 2340, sys := { spawn := .child 7 } })
      (loopEvents keptPasswordFrames)).PasswordOwned := by decide +kernel
  exact foreign owned

end Hud

end Ginkgo
