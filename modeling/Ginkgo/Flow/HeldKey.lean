import Ginkgo.Flow.Concealed
import Ginkgo.Touch.Aside

/-!
# Keys and the password sheet

A press counts for the keyboard only on an open password sheet, but the key acts when the
contact ends, and by then the end of a job or the confirmation of a join may have closed the
sheet. In every run in which nothing closes the sheet while a key is held
(`Ginkgo.Hud.Closes`), keys act on an open password sheet only
(`Ginkgo.Hud.keys_act_on_pass`). A join that succeeds while a key is held lets the key act on
another sheet (`Ginkgo.Hud.key_acts_elsewhere`).
-/

namespace Ginkgo

open CText Transition

namespace Hud

/-- The key that an event lets `osk_activate` act on, and the state in which it does. -/
def activation (h : Hud) (event : Event) : Option (OskKey × Hud) :=
  (h.contactEnd event).bind ContactEnd.activation

/-- **Keys act on an open password sheet.** -/
def ActsOnPass (h : Hud) (event : Event) : Prop :=
  ∀ pressed ∈ h.activation event, pressed.2.ui.sheetTgt = .pass

instance (h : Hud) (event : Event) : Decidable (h.ActsOnPass event) :=
  inferInstanceAs (Decidable (∀ _ ∈ _, _))

/-- A join is waited for and its network is live: `maybe_confirm_join` goes home. -/
def JoinUp (h : Hud) : Prop :=
  h.join.joinWaitLive = true ∧ h.bufs.connectSsid.text ≠ [] ∧
    gwJoinConfirmOk h.wifi.connected h.wifi.ssid.text h.bufs.connectSsid.text = true

instance (h : Hud) : Decidable h.JoinUp := inferInstanceAs (Decidable (_ ∧ _ ∧ _))

/-- The end of a job closes the password sheet: a report confirms a join, a connect job has
succeeded or failed without a password, or a forget is over. -/
def EndCloses (h : Hud) (kind : JobKind) (exit : Exit) (now : Nat) (out : Text) : Prop :=
  match kind with
  | .radio => False
  | .info => (h.parseInfo now out).JoinUp
  | .scan => (h.parseScan out).JoinUp
  | .link => (h.parseLink out).JoinUp
  | .connect =>
      gwOnConnectJob (h.connectIn exit.rc out) = .success ∨
        gwOnConnectJob (h.connectIn exit.rc out) = .fail ∧ h.join.connectNeedPass = false
  | .forget => True

instance (h : Hud) (kind : JobKind) (exit : Exit) (now : Nat) (out : Text) :
    Decidable (h.EndCloses kind exit now out) :=
  match kind with
  | .radio => .isFalse id
  | .info => inferInstanceAs (Decidable (h.parseInfo now out).JoinUp)
  | .scan => inferInstanceAs (Decidable (h.parseScan out).JoinUp)
  | .link => inferInstanceAs (Decidable (h.parseLink out).JoinUp)
  | .connect => inferInstanceAs (Decidable (_ ∨ _ ∧ _))
  | .forget => .isTrue trivial

/-- **An event closes the password sheet**, other than by the user's hand. -/
def Closes (h : Hud) : Event → Prop
  | .poll poll =>
      h.job.pid ≠ none ∧
        ∃ exit ∈ poll.exit, h.closeJob.EndCloses h.job.kind exit poll.now (h.collected poll)
  | .confirm _ => h.JoinUp
  | _ => False

instance (h : Hud) (event : Event) : Decidable (h.Closes event) :=
  match event with
  | .poll _ => inferInstanceAs (Decidable (_ ∧ _))
  | .confirm _ => inferInstanceAs (Decidable h.JoinUp)
  | .input _ | .idleOff _ | .animate _ | .render | .sample _ | .kick _
  | .schedule _ _ => .isFalse id

/-! ## What leaves the sheet alone -/

/-- A quiet change leaves the sheet that is open. -/
theorem Quiet.sheetTgt {h h' : Hud} (quiet : Quiet h h') : h'.ui.sheetTgt = h.ui.sheetTgt :=
  congrArg JoinState.sheetTgt quiet.joins

variable {h g : Hud} {event : Event}

theorem startNmcli_sheetTgt (h : Hud) (kind : JobKind) (argv : List Text) (spawn : Spawn) :
    (startNmcli kind argv spawn h).1.ui.sheetTgt = h.ui.sheetTgt := by
  rcases startNmcli_cases kind argv spawn h with ⟨pid, -, started⟩ | ⟨line, started⟩ <;>
    rw [started]

/-- So does a report, when its second attempt does. -/
theorem startReport_sheetTgt (h : Hud) {kind : JobKind} {argv : List Text} {retry : Hud → Hud}
    (sys : Sys) (again : ∀ g, (retry g).ui.sheetTgt = g.ui.sheetTgt) :
    (h.startReport kind argv retry sys).ui.sheetTgt = h.ui.sheetTgt := by
  have started := h.startNmcli_sheetTgt kind argv sys.spawn
  unfold startReport
  simp only
  split
  · exact started
  · exact (again _).trans started

/-- A call of `wifi_connect` leaves it. -/
theorem wifiConnect_sheetTgt (h : Hud) (ssid pass sec : Arg) (sys : Sys) :
    (h.wifiConnect ssid pass sec sys).ui.sheetTgt = h.ui.sheetTgt := by
  have begun : (h.beginConnect ssid).ui.sheetTgt = h.ui.sheetTgt := by
    unfold beginConnect abortJob
    simp only
    split_ifs <;> simp [setStatus, closeJob, joinFlags]
  unfold wifiConnect
  split
  · rfl
  · simp only
    generalize h.beginConnect ssid = g at begun ⊢
    split_ifs
    · exact begun
    · refine Eq.trans ?_ begun
      simp [observe, queueConnect]
    · rw [startNmcli_sheetTgt]
      refine Eq.trans ?_ begun
      simp [observe, fillArgv]

/-- `kick_pending` leaves it when no forget is queued. -/
theorem kickPending_sheetTgt (unasked : h.forget.wantForget = false) (sys : Sys) :
    (h.kickPending sys).ui.sheetTgt = h.ui.sheetTgt := by
  unfold kickPending
  simp only [unasked, Bool.false_eq_true, if_false]
  split_ifs
  · rfl
  · exact wifiConnect_sheetTgt _ _ _ _ sys
  · exact startReport_sheetTgt { h with want.scan := false } sys fun _ => rfl
  · exact startReport_sheetTgt { h with want.link := false } sys fun _ => rfl
  · exact startReport_sheetTgt { h with want.info := false } sys fun _ => rfl
  · rfl

/-- The timers of the loop leave it. -/
theorem schedule_sheetTgt (h : Hud) (now : Nat) (sys : Sys) :
    (h.schedule now sys).ui.sheetTgt = h.ui.sheetTgt := by
  unfold schedule
  split_ifs
  · exact startReport_sheetTgt h sys fun _ => rfl
  · exact startReport_sheetTgt h sys fun _ => rfl
  · rfl
  · rfl

/-! ## What keeps the password sheet open -/

/-- A wait whose time is over leaves the password sheet open. -/
theorem joinTimedOut_pass (onPass : g.ui.sheetTgt = .pass) :
    g.joinTimedOut.ui.sheetTgt = .pass := by
  unfold joinTimedOut
  simp only
  generalize (if (g.joinOver true).join.lastFailKind = .unknown then FailKind.timeout
    else (g.joinOver true).join.lastFailKind) = kind
  generalize (if gwJoinFellBack _ _ _ then _ else _) = fellBack
  have told : ({ g.joinOver true with join.lastFailKind := kind }.fillFailStatus kind
      fellBack).ui.sheetTgt = .pass := (fillFailStatus_quiet _ kind fellBack).sheetTgt.trans onPass
  rw [if_neg (by rw [told]; decide)]
  exact told

theorem maybeConfirmJoin_pass (now : Nat) (onPass : g.ui.sheetTgt = .pass) (down : ¬g.JoinUp) :
    (g.maybeConfirmJoin now).ui.sheetTgt = .pass := by
  unfold maybeConfirmJoin
  split
  · exact onPass
  · next waiting =>
      rw [not_or, Bool.not_eq_false] at waiting
      split
      · next up => exact absurd ⟨waiting.1, waiting.2, up⟩ down
      · simp only
        split
        · exact onPass
        · exact joinTimedOut_pass onPass

/-- A join that is tried again leaves the sheet. -/
theorem connectRetryPsk_sheetTgt (g : Hud) (sys : Sys) :
    (g.connectRetryPsk sys).ui.sheetTgt = g.ui.sheetTgt := by
  unfold connectRetryPsk
  rw [wifiConnect_sheetTgt]
  rfl

/-- A password that is needed opens the password sheet. -/
theorem connectOpenPass_pass (g : Hud) (out : Text) :
    (g.connectOpenPass out).ui.sheetTgt = .pass := by
  unfold connectOpenPass
  simp only
  generalize selectJoined _ = k
  split
  · rfl
  · rfl

/-- So does a failure for want of one, which does not leave for home. -/
theorem connectFailed_pass (need : g.join.connectNeedPass = true) :
    (g.connectFailed false).ui.sheetTgt = .pass := by
  unfold connectFailed
  simp only [Bool.false_eq_true, if_false]
  rw [if_pos (g.showFailure_needPass.trans need)]

/-- The end of a connect job goes home only with a success and to another sheet only with a
failure without a password. -/
theorem connectDone_pass {now : Nat} {retry : Sys} {rc : Nat} {out : Text}
    (onPass : g.ui.sheetTgt = .pass)
    (kept : ¬(gwOnConnectJob (g.connectIn rc out) = .success ∨
      gwOnConnectJob (g.connectIn rc out) = .fail ∧ g.join.connectNeedPass = false)) :
    (g.connectDone now retry rc out).ui.sheetTgt = .pass := by
  rw [not_or] at kept
  unfold connectDone
  simp only
  cases act : gwOnConnectJob (g.connectIn rc out) with
  | success => exact absurd act kept.1
  | retryPsk => exact (connectRetryPsk_sheetTgt _ retry).trans onPass
  | wrongPass => rfl
  | openPass => exact connectOpenPass_pass _ out
  | waitPending => exact onPass
  | fail =>
      have need : g.join.connectNeedPass = true := by
        by_contra none
        exact kept.2 ⟨act, by simpa using none⟩
      have home : (g.connectIn rc out).leftHome = false := by simp [connectIn, onPass]
      simp only [home]
      exact connectFailed_pass need

/-- **The end of a job** that does not close the password sheet leaves it open. -/
theorem jobDone_pass {poll : Poll} {exit : Exit} {kind : JobKind} {out : Text}
    (onPass : g.ui.sheetTgt = .pass) (kept : ¬g.EndCloses kind exit poll.now out) :
    (g.jobDone poll exit kind out).ui.sheetTgt = .pass := by
  cases kind with
  | radio => exact onPass
  | info =>
      have parsed : (g.parseInfo poll.now out).ui.sheetTgt = .pass :=
        (g.parseInfo_quiet poll.now out).sheetTgt.trans onPass
      change ¬(g.parseInfo poll.now out).JoinUp at kept
      unfold jobDone infoDone
      simp only
      generalize g.parseInfo poll.now out = k at parsed kept ⊢
      split
      · exact maybeConfirmJoin_pass poll.now parsed kept
      · exact maybeConfirmJoin_pass poll.now parsed kept
  | scan =>
      have parsed : (g.parseScan out).ui.sheetTgt = .pass :=
        (congrArg JoinState.sheetTgt (g.parseScan_joins out).1).trans onPass
      change ¬(g.parseScan out).JoinUp at kept
      unfold jobDone scanDone
      simp only
      generalize g.parseScan out = k at parsed kept ⊢
      split_ifs
      all_goals exact maybeConfirmJoin_pass poll.now parsed kept
  | connect => exact connectDone_pass onPass kept
  | link =>
      have parsed : (g.parseLink out).ui.sheetTgt = .pass :=
        (g.parseLink_quiet out).sheetTgt.trans onPass
      have confirmed := maybeConfirmJoin_pass poll.now parsed kept
      unfold jobDone linkDone
      simp only
      split
      · exact confirmed
      · exact confirmed
  | forget => exact absurd trivial kept

/-- `poll_job` leaves the password sheet open, unless it closes it. -/
theorem pollJob_pass {poll : Poll} (exclusive : Exclusive h) (onPass : h.ui.sheetTgt = .pass)
    (kept : ¬h.Closes (.poll poll)) : (h.pollJob poll).ui.sheetTgt = .pass := by
  by_cases free : h.job.pid = none
  · rw [pollJob, if_pos free]
    exact onPass
  · cases ended : poll.exit with
    | none =>
        rw [pollJob, if_neg free]
        simp only [ended]
        exact onPass
    | some exit =>
        have open' : ¬h.closeJob.EndCloses h.job.kind exit poll.now (h.collected poll) :=
          fun closes => kept ⟨free, exit, ended, closes⟩
        have read : Exclusive ((h.readJob poll.first).readJob poll.rest) :=
          exclusive.soften (Still.softens (h := h) rfl)
        have done : Effects h (.poll poll) ((h.readJob poll.first).readJob poll.rest)
            (h.closeJob.jobDone poll exit h.job.kind (h.collected poll)) :=
          jobDone_effects rfl ended free rfl rfl
        have after := done.keep (fun _ _ effect before => Exclusive.effect effect before) read
        rw [pollJob_ended free ended]
        exact (kickPending_sheetTgt after.unasked poll.kick).trans (jobDone_pass onPass open')

/-! ## Runs -/

/-- While a key is held, the password sheet is open. -/
def HeldOnPass (h : Hud) : Prop := h.osk.held = true → h.ui.sheetTgt = .pass

/-- A change on the surface keeps the keys on the password sheet. -/
theorem Handles.heldOnPass {h h' : Hud} (handles : Handles h h') (before : HeldOnPass h) :
    HeldOnPass h' := by
  intro held
  rw [handles.sheetTgt]
  rcases handles.held held with pressed | onPass
  · exact before pressed
  · exact onPass

/-- The end of a contact lets go of the keys. -/
theorem up_released (c : ContactEnd) : c.up.osk.held = false := by
  rw [c.up_eq]
  split
  · rfl
  · next idle =>
      have free : c.committed.osk.held = false := by simpa using idle
      split
      · have tapped := tap_touchView free c.point.1 c.point.2 c.env.sys
        exact (congrArg TouchView.held tapped).trans free
      · exact free

theorem handleEv_heldOnPass (h : Hud) (dev : Dev) (ev : Ev) (env : EvEnv) (before : HeldOnPass h) :
    HeldOnPass (h.handleEv dev ev env) := by
  cases found : h.evEnd dev ev env with
  | none => exact (handleEv_handles found).heldOnPass before
  | some c =>
      obtain ⟨-, after⟩ := handleEv_ends found
      refine after.heldOnPass fun held => ?_
      rw [up_released c] at held
      cases held

/-- **A step keeps the password sheet open while a key is held**, unless it closes the sheet. -/
theorem step_heldOnPass (exclusive : Exclusive h) (before : HeldOnPass h)
    (kept : h.osk.held = true → ¬h.Closes event) : HeldOnPass (h.step event) := by
  have sheet {h' : Hud} (aside : Aside h h')
      (opened : h.osk.held = true → h'.ui.sheetTgt = .pass) : HeldOnPass h' := by
    intro held
    have same : h'.osk.held = h.osk.held := congrArg TouchView.held aside
    exact opened (same ▸ held)
  cases event with
  | input input => exact h.handleEv_heldOnPass input.dev input.ev input.env before
  | idleOff now => exact (h.idleOff_handles now).heldOnPass before
  | animate animation =>
      exact ((h.animateSheet_handles animation).trans (animateList_handles _ _)).heldOnPass before
  | poll poll =>
      exact sheet (h.pollJob_apart poll).aside fun held =>
        pollJob_pass exclusive (before held) (kept held)
  | confirm now =>
      exact sheet (h.maybeConfirmJoin_apart now).aside fun held =>
        maybeConfirmJoin_pass now (before held) (kept held)
  | render =>
    exact sheet h.render_informs.apart.aside fun held =>
      h.render_quiet.sheetTgt.trans (before held)
  | sample sample =>
      exact sheet (h.sampleAll_informs sample).apart.aside fun held =>
        (h.sampleAll_quiet sample).sheetTgt.trans (before held)
  | kick sys =>
      exact sheet (h.kickPending_apart sys).aside fun held =>
        (kickPending_sheetTgt exclusive.unasked sys).trans (before held)
  | schedule now sys =>
      exact sheet (h.schedule_apart now sys).aside fun held =>
        (h.schedule_sheetTgt now sys).trans (before held)

/-- A key that acts does so on the sheet that is open before the event. -/
theorem HeldOnPass.acts (before : HeldOnPass h) : h.ActsOnPass event := by
  rintro ⟨k, g⟩ acts
  cases event with
  | input input =>
      obtain ⟨c, ends, activates⟩ := Option.bind_eq_some_iff.mp acts
      obtain ⟨handles, -⟩ := handleEv_ends ends
      have committed := handles.trans c.committed_handles
      unfold ContactEnd.activation at activates
      split at activates
      · next held =>
          simp only [Option.map_eq_some_iff, Prod.mk.injEq] at activates
          obtain ⟨_, -, -, rfl⟩ := activates
          exact committed.heldOnPass before held
      · cases activates
  | _ => cases acts

end Hud

/-- No key is held at the start. -/
theorem Boot.hud_released (boot : Boot) : boot.hud.osk.held = false := by
  obtain ⟨g, apart, started⟩ := boot.hud_apart
  rw [started]
  exact (congrArg TouchView.held apart.aside).trans
    (congrArg TouchView.held boot.findBacklight_aside)

namespace Hud

/-- **Keys act on an open password sheet.** In every run in which nothing closes the sheet while
a key is held, every key that acts does so on an open password sheet. -/
theorem keys_act_on_pass (boot : Boot) (events : List Event)
    (kept : EachStep step (fun h event => h.osk.held = true → ¬h.Closes event) boot.hud events) :
    EachStep step ActsOnPass boot.hud events := by
  have initial : HeldOnPass boot.hud := by
    intro held
    rw [boot.hud_released] at held
    cases held
  have preserves : ∀ h event, Exclusive h ∧ HeldOnPass h →
      (h.osk.held = true → ¬h.Closes event) →
        Exclusive (h.step event) ∧ HeldOnPass (h.step event) :=
    fun h event before kept =>
      ⟨exclusive_step before.1 event, step_heldOnPass before.1 before.2 kept⟩
  exact EachStep.of_invariant preserves (fun h event before _ => before.2.acts)
    ⟨boot.hud_exclusive, initial⟩ kept

/-- A join of the network Home that asks for its password, eight keys of which are typed. -/
def typedFrames : List Frame :=
  [iterationAt 2 [] (.ended "" 0 forks),
    iterationAt 5 (tapAt 500 400 3) (.ended "Home:70:WPA2:2412 MHz:no" 0 forks),
    iterationAt 12 (tapAt 510 458 10) (.ended "Home:70:WPA2:2412 MHz:no" 0 forks),
    iterationAt 22 (tapAt 500 2080 20) (.running forks),
    iterationAt 24 [] (.ended "NEED_PASSWORD" 2 forks)] ++
  (List.range 8).map fun i =>
    iterationAt (32 + 2 * i) (tapAt (50 + i) (1980 + i) (30 + 2 * i)) (.running forks)

/-- The password is submitted, and while its join is under way a finger lands on the keyboard
at a point. -/
def pressedFrames (x y : Int) : List Frame :=
  typedFrames ++ [iterationAt 62 (tapAt 900 470 60) (.running forks),
    iterationAt 71 (landAt x y 70) (.running forks)]

/-- The finger is lifted. -/
def liftedKey : List Event := (liftAt 60 1980 73).map .input

/-- The run up to the press, in which the sheet is open. -/
theorem keys_act_on_pass_typed :
    EachStep step ActsOnPass homeBoot.hud (loopEvents (pressedFrames 60 1980) ++ liftedKey) :=
  keys_act_on_pass homeBoot _ (by decide +kernel)

/-- The join succeeds before the finger is lifted, and the key acts on the sheet of the
network. -/
theorem key_acts_elsewhere :
    ¬∀ (boot : Boot) (events : List Event), EachStep step ActsOnPass boot.hud events := by
  intro always
  have acts := always homeBoot (loopEvents (pressedFrames 60 1980 ++
    [iterationAt 72 [] (.ended "" 0 forks)]) ++ liftedKey)
  rw [eachStep_append] at acts
  exact absurd acts.2 (by decide +kernel)

end Hud

end Ginkgo
