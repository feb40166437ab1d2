import Ginkgo.Hud.Informs

/-!
# Changes that no finger notices

What becomes of a contact depends on the touch state, on whether the keyboard or the
brightness bar has taken the contact, on the screen and on the size of the picture:
`Ginkgo.Hud.touchView`. Reports, joins, animations and samples change none of it, dispatch
no taps and leave the backlight alone (`Ginkgo.Hud.Apart`), so a run may do any of them
between two events of a contact (`Ginkgo.Hud.step_apart`). The brightness functions change
the backlight only (`Ginkgo.Hud.Aside`). A tap leaves only itself behind, and a key press
nothing at all (`Ginkgo.Hud.tap_touchView`, `Ginkgo.Hud.oskOnUp_touchView`).
-/

namespace Ginkgo

open CText

/-- What the handling of a contact depends on, and the taps dispatched so far. -/
structure TouchView where
  touch : Touch
  draggingBl : Bool
  held : Bool
  screenOff : Bool
  tUnblank : Nat
  W : Int
  H : Int
  taps : List (Int × Int)

/-- The taps of a trace, the oldest first. -/
def tapsOf (trace : List Obs) : List (Int × Int) :=
  trace.reverse.filterMap fun
    | .tap x y => some (x, y)
    | _ => none

namespace Hud

/-- The taps that have been dispatched, the oldest first. -/
def taps (h : Hud) : List (Int × Int) := tapsOf h.trace

/-- What the handling of a contact reads of the state. -/
def touchView (h : Hud) : TouchView where
  touch := h.touch
  draggingBl := h.light.draggingBl
  held := h.osk.held
  screenOff := h.screen.screenOff
  tUnblank := h.screen.tUnblank
  W := h.ui.W
  H := h.ui.H
  taps := h.taps

/-- **A change that no finger notices.** -/
def Aside (h h' : Hud) : Prop := h'.touchView = h.touchView

/-- **A change that the backlight does not notice either.** -/
def Apart (h h' : Hud) : Prop := (h'.touchView, h'.light) = (h.touchView, h.light)

namespace Aside

variable {h h' h'' : Hud}

/-- Two changes that no finger notices, one after the other. -/
theorem trans (first : Aside h h') (second : Aside h' h'') : Aside h h'' := Eq.trans second first

theorem ite {condition : Prop} [Decidable condition] (yes : Aside h h') (no : Aside h h'') :
    Aside h (if condition then h' else h'') := by
  split
  · exact yes
  · exact no

end Aside

namespace Apart

variable {h h' h'' : Hud}

/-- What is apart is aside. -/
theorem aside (apart : Apart h h') : Aside h h' := congrArg Prod.fst apart

/-- What is apart leaves the backlight alone. -/
theorem light (apart : Apart h h') : h'.light = h.light := congrArg Prod.snd apart

theorem refl (h : Hud) : Apart h h := rfl

theorem trans (first : Apart h h') (second : Apart h' h'') : Apart h h'' := Eq.trans second first

theorem ite {condition : Prop} [Decidable condition] (yes : Apart h h') (no : Apart h h'') :
    Apart h (if condition then h' else h'') := by
  split
  · exact yes
  · exact no

end Apart

/-- No finger notices what the HUD learns of the networks. -/
theorem Informs.apart {h h' : Hud} (informs : Informs h h') : Apart h h' :=
  informs.same (fun g => (g.touchView, g.light)) fun _ => rfl

variable (h : Hud)

/-- Only a tap that is observed shows in the taps. -/
theorem observe_apart {obs : Obs} (other : ∀ x y, obs ≠ .tap x y) : Apart h (h.observe obs) := by
  have same : (h.observe obs).taps = h.taps := by
    unfold taps tapsOf observe
    rw [List.reverse_cons, List.filterMap_append]
    cases obs with
    | tap x y => exact absurd rfl (other x y)
    | connect call => exact List.append_nil _
    | start kind argv started => exact List.append_nil _
  unfold Apart touchView
  rw [same]
  rfl

/-- A tap that is observed is the last of the taps. -/
theorem observe_tap_taps (x y : Int) : (h.observe (.tap x y)).taps = h.taps ++ [(x, y)] := by
  simp [taps, tapsOf, observe]

/-! ## Jobs and joins -/

/-- `abort_job` is apart. -/
theorem abortJob_apart : Apart h h.abortJob := by
  unfold abortJob
  exact .ite rfl rfl

/-- Starting a child is apart. -/
theorem startNmcli_apart (kind : JobKind) (argv : List Text) (spawn : Spawn) :
    Apart h (startNmcli kind argv spawn h).1 := by
  have started (started : Bool) : ∀ x y, Obs.start kind argv started ≠ .tap x y := nofun
  rcases startNmcli_cases kind argv spawn h with ⟨pid, -, same⟩ | ⟨line, same⟩ <;> rw [same]
  · exact observe_apart _ (started true)
  · exact observe_apart _ (started false)

/-- So is a report, when what is done before its second attempt is. -/
theorem startReport_apart (kind : JobKind) (argv : List Text) {retry : Hud → Hud} (sys : Sys)
    (aside : ∀ g, Apart g (retry g)) : Apart h (h.startReport kind argv retry sys) := by
  unfold startReport
  exact (h.startNmcli_apart kind argv sys.spawn).trans (.ite rfl (aside _))

/-- `wifi_radio` is apart. -/
theorem wifiRadio_apart (sys : Sys) : Apart h (h.wifiRadio sys) :=
  h.startReport_apart _ _ sys fun _ => rfl

/-- `wifi_info` is apart. -/
theorem wifiInfo_apart (sys : Sys) : Apart h (h.wifiInfo sys) :=
  h.startReport_apart _ _ sys fun _ => rfl

/-- `wifi_scan` is apart. -/
theorem wifiScan_apart (sys : Sys) : Apart h (h.wifiScan sys) :=
  h.startReport_apart _ _ sys fun _ => rfl

/-- `wifi_link` is apart. -/
theorem wifiLink_apart (sys : Sys) : Apart h (h.wifiLink sys) :=
  h.startReport_apart _ _ sys fun _ => rfl

/-- Remembering a password is apart. -/
theorem rememberPsk_apart (ssid pass : Text) : Apart h (h.rememberPsk ssid pass) := by
  unfold rememberPsk
  exact .ite rfl rfl

/-- Forgetting one is. -/
theorem forgetPsk_apart (ssid : Text) : Apart h (h.forgetPsk ssid) := by
  unfold forgetPsk
  exact .ite rfl rfl

/-- Writing a buffer is apart. -/
theorem snprintf_apart (dst : Dst) (src : Arg) : Apart h (h.snprintf dst src) := by
  unfold snprintf
  split <;> cases dst <;> rfl

/-- Queueing a join is apart. -/
theorem queueConnect_apart (ssid pass sec : Arg) : Apart h (h.queueConnect ssid pass sec) :=
  ((h.snprintf_apart _ _).trans (snprintf_apart _ _ _)).trans (snprintf_apart _ _ _)

/-- Filling the arguments of a join is. -/
theorem fillArgv_apart (ssid pass sec : Arg) : Apart h (h.fillArgv ssid pass sec) :=
  (((h.snprintf_apart _ _).trans (snprintf_apart _ _ _)).trans (snprintf_apart _ _ _)).trans
    (snprintf_apart _ _ _)

theorem beginConnect_apart (ssid : Arg) : Apart h (h.beginConnect ssid) := by
  unfold beginConnect
  have named : Apart h (h.joinFlags.snprintf .connectSsid ssid) :=
    Apart.trans rfl (snprintf_apart _ _ _)
  exact named.trans (.ite (abortJob_apart _) rfl)

/-- `wifi_connect` is apart. -/
theorem wifiConnect_apart (ssid pass sec : Arg) (sys : Sys) :
    Apart h (h.wifiConnect ssid pass sec sys) := by
  have noted (g : Hud) (call : ConnectCall) : Apart g (g.observe (.connect call)) :=
    g.observe_apart nofun
  unfold wifiConnect
  refine .ite rfl ((h.beginConnect_apart ssid).trans (.ite (.ite (noted _ _) ?_) ?_))
  · exact (queueConnect_apart _ ssid pass sec).trans (noted _ _)
  · exact ((fillArgv_apart _ ssid pass sec).trans (noted _ _)).trans (startNmcli_apart _ _ _ _)

/-- `wifi_submit_pass` is apart. -/
theorem wifiSubmitPass_apart (sys : Sys) : Apart h (h.wifiSubmitPass sys) := by
  unfold wifiSubmitPass
  simp only
  refine .ite rfl (.ite rfl (.ite rfl ?_))
  have flagged : Apart h { h with join.connectNeedPass := true } := rfl
  have remembered : Apart h ({ h with join.connectNeedPass := true }.rememberPsk
      (Hud.load { h with join.connectNeedPass := true } h.gwPassSsid) h.osk.password.text) :=
    flagged.trans (rememberPsk_apart _ _ _)
  apply remembered.trans
  generalize Hud.rememberPsk _ _ _ = g
  exact .ite (g.queueConnect_apart _ _ _) (g.wifiConnect_apart _ _ _ sys)

/-- The start of a forget is apart. -/
theorem beginForget_apart (ssid : Text) : Apart h (h.beginForget ssid) := by
  unfold beginForget
  simp only
  split_ifs <;> rfl

/-- `wifi_forget` is apart. -/
theorem wifiForget_apart (ssid : Text) (sys : Sys) : Apart h (h.wifiForget ssid sys) := by
  unfold wifiForget
  simp only
  refine .ite rfl (.ite rfl ((h.beginForget_apart ssid).trans ?_))
  generalize h.beginForget ssid = g
  have aborted : Apart g (if g.job.pid ≠ none ∧ g.job.kind ≠ .forget then g.abortJob else g) :=
    .ite g.abortJob_apart rfl
  refine aborted.trans (.ite rfl ?_)
  exact (startNmcli_apart _ _ _ _).trans (.ite rfl rfl)

/-- `wifi_join_picked` is apart, although it may close a sheet. -/
theorem wifiJoinPicked_apart (sys : Sys) : Apart h (h.wifiJoinPicked sys) := by
  have noted (need : Bool) : Apart h { h with join.connectNeedPass := need } := rfl
  unfold wifiJoinPicked
  simp only
  refine .ite rfl (.ite rfl (.ite rfl (.ite ?_ ?_)))
  · exact (noted true).trans (wifiConnect_apart _ _ _ _ sys)
  · exact (noted false).trans (wifiConnect_apart _ _ _ _ sys)

/-- `kick_pending` is apart. -/
theorem kickPending_apart (sys : Sys) : Apart h (h.kickPending sys) := by
  have want : Apart h { h with forget.wantForget := false } := rfl
  have joins : Apart h { h with join.wantConnect := false } := rfl
  have scans : Apart h { h with want.scan := false } := rfl
  have links : Apart h { h with want.link := false } := rfl
  have infos : Apart h { h with want.info := false } := rfl
  unfold kickPending
  refine .ite rfl (.ite ?_ (.ite ?_ (.ite ?_ (.ite ?_ (.ite ?_ rfl)))))
  · exact want.trans (wifiForget_apart _ _ sys)
  · exact joins.trans (wifiConnect_apart _ _ _ _ sys)
  · exact scans.trans (wifiScan_apart _ sys)
  · exact links.trans (wifiLink_apart _ sys)
  · exact infos.trans (wifiInfo_apart _ sys)

/-! ## The end of a job -/

/-- A join that is confirmed is apart, although it goes home. -/
theorem joinConfirmed_apart : Apart h h.joinConfirmed := by
  have ended : Apart h (h.joinOver false) := rfl
  unfold joinConfirmed
  exact ended.trans (markApActive_informs _ _).apart

/-- A join whose time is over is apart. -/
theorem joinTimedOut_apart : Apart h h.joinTimedOut := by
  have ended : Apart h (h.joinOver true) := rfl
  unfold joinTimedOut
  apply ended.trans
  generalize h.joinOver true = g
  simp only
  generalize (if g.join.lastFailKind = .unknown then _ else _) = kind
  have kinded : Apart g { g with join.lastFailKind := kind } := rfl
  exact (kinded.trans (fillFailStatus_informs _ _ _).apart).trans (.ite rfl rfl)

/-- `maybe_confirm_join` is apart. -/
theorem maybeConfirmJoin_apart (now : Nat) : Apart h (h.maybeConfirmJoin now) := by
  unfold maybeConfirmJoin
  exact .ite rfl (.ite h.joinConfirmed_apart (.ite rfl h.joinTimedOut_apart))

/-- A join that is tried again with the remembered password is apart. -/
theorem connectRetryPsk_apart (retry : Sys) : Apart h (h.connectRetryPsk retry) := by
  have dropped : Apart h h.dropProbe := rfl
  unfold connectRetryPsk
  exact dropped.trans (wifiConnect_apart _ _ _ _ retry)

/-- A wrong password, which opens the password sheet, is apart. -/
theorem connectWrongPass_apart : Apart h h.connectWrongPass := by
  unfold connectWrongPass
  apply (h.forgetPsk_apart h.bufs.connectSsid.text).trans
  generalize h.forgetPsk h.bufs.connectSsid.text = g
  have failed : Apart g { g with join.connectFail := true } := rfl
  exact (failed.trans (fillFailStatus_informs _ _ _).apart).trans (selectJoined_informs _).apart

/-- A password that is needed is apart too. -/
theorem connectOpenPass_apart (out : Text) : Apart h (h.connectOpenPass out) := by
  have failed : Apart h { h with join.connectFail := h.join.connectNeedPass } := rfl
  unfold connectOpenPass
  simp only
  generalize { h with join.connectFail := h.join.connectNeedPass } = g at failed
  generalize (if out ≠ [] then out else txt "NEED_PASSWORD") = raw
  have shown := (g.setConnectStatus_informs raw).apart.trans (selectJoined_informs _).apart
  generalize (g.setConnectStatus raw).selectJoined = k at shown
  exact (failed.trans shown).trans (.ite rfl rfl)

theorem connectFailed_apart (leftHome : Bool) : Apart h (h.connectFailed leftHome) := by
  have failed : Apart h { h with join.connectFail := true } := rfl
  have shown : Apart h h.showFailure := failed.trans (fillFailStatus_informs _ _ _).apart
  unfold connectFailed
  exact shown.trans (.ite rfl rfl)

/-- The end of a join is apart, whatever it opens or closes. -/
theorem connectDone_apart (now : Nat) (retry : Sys) (rc : Nat) (out : Text) :
    Apart h (h.connectDone now retry rc out) := by
  have ended : Apart h (h.endConnect out) := rfl
  unfold connectDone
  simp only
  apply ended.trans
  generalize h.endConnect out = g
  cases gwOnConnectJob (h.connectIn rc out) with
  | success =>
      have awaited : Apart g (g.awaitLive now) := rfl
      exact awaited.trans (maybeConfirmJoin_apart _ now)
  | retryPsk => exact g.connectRetryPsk_apart retry
  | wrongPass => exact g.connectWrongPass_apart
  | openPass => exact g.connectOpenPass_apart out
  | waitPending => rfl
  | fail => exact g.connectFailed_apart _

/-- The end of a forget is apart. -/
theorem forgetDone_apart (rc : Nat) (out : Text) : Apart h (h.forgetDone rc out) := by
  obtain ⟨wifi, tAssoc, aps, active, ssid, psk, sheet, line, want, same, -⟩ :=
    h.forgetDone_writes rc out
  rw [same]
  rfl

/-- The end of a device list is apart. -/
theorem infoDone_apart (now : Nat) (out : Text) : Apart h (h.infoDone now out) := by
  unfold infoDone
  simp only
  refine (h.parseInfo_informs now out).apart.trans (Apart.trans ?_ (maybeConfirmJoin_apart _ now))
  exact .ite rfl rfl

/-- The end of a scan is apart. -/
theorem scanDone_apart (now : Nat) (out : Text) : Apart h (h.scanDone now out) := by
  unfold scanDone
  simp only
  refine (h.parseScan_informs out).apart.trans (Apart.trans ?_ (maybeConfirmJoin_apart _ now))
  generalize h.parseScan out = g
  have status (s : Text) : Apart g (g.setStatus s) := rfl
  exact .ite (status _) (.ite (status _) (.refl g))

/-- The end of a link report is apart. -/
theorem linkDone_apart (now : Nat) (out : Text) : Apart h (h.linkDone now out) := by
  unfold linkDone
  simp only
  apply ((h.parseLink_informs out).apart.trans (maybeConfirmJoin_apart _ now)).trans
  exact .ite rfl (.refl _)

/-- The end of a job is apart. -/
theorem jobDone_apart (poll : Poll) (exit : Exit) (kind : JobKind) (out : Text) :
    Apart h (h.jobDone poll exit kind out) := by
  cases kind with
  | radio => rfl
  | info => exact h.infoDone_apart poll.now out
  | scan => exact h.scanDone_apart poll.now out
  | connect => exact h.connectDone_apart poll.now poll.retry exit.rc out
  | link => exact h.linkDone_apart poll.now out
  | forget => exact h.forgetDone_apart exit.rc out

/-- `poll_job` is apart. -/
theorem pollJob_apart (poll : Poll) : Apart h (h.pollJob poll) := by
  unfold pollJob
  refine .ite rfl ?_
  cases poll.exit with
  | none => rfl
  | some exit =>
      simp only
      have read : Apart h ((h.readJob poll.first).readJob poll.rest) := rfl
      apply read.trans
      generalize (h.readJob poll.first).readJob poll.rest = g
      have closed : Apart g g.closeJob := rfl
      have ended := closed.trans (g.closeJob.jobDone_apart poll exit g.job.kind (cstr g.job.buf.text))
      exact ended.trans (kickPending_apart _ poll.kick)

/-! ## The main loop -/

/-- Nobody has been away for so long that the screen is blanked. -/
def Attended (now : Nat) (h : Hud) : Prop := now - h.screen.tUser ≤ hudIdleOffNs

/-- The idle timer is apart while somebody attends. -/
theorem idleOff_apart {now : Nat} (attended : h.Attended now) : Apart h (h.idleOff now) := by
  unfold idleOff
  rw [if_neg]
  · exact .refl h
  · rintro ⟨-, -, -, -, -, away⟩
    exact absurd attended (Nat.not_le.mpr away)

/-- The timers of the loop are apart. -/
theorem schedule_apart (now : Nat) (sys : Sys) : Apart h (h.schedule now sys) := by
  unfold schedule
  exact .ite (.ite (h.wifiScan_apart sys) (.ite (h.wifiInfo_apart sys) rfl)) rfl

/-- The parts of the main loop between two events of a contact. -/
def Meanwhile (h : Hud) : Event → Prop
  | .input _ => False
  | .idleOff now => h.Attended now
  | _ => True

instance : (event : Event) → Decidable (h.Meanwhile event)
  | .input _ => .isFalse id
  | .idleOff now => inferInstanceAs (Decidable (now - h.screen.tUser ≤ hudIdleOffNs))
  | .poll _ | .confirm _ | .animate _ | .render | .sample _ | .kick _ | .schedule _ _ =>
      .isTrue trivial

/-- **The rest of the main loop leaves a contact alone.** -/
theorem step_apart {event : Event} (meanwhile : h.Meanwhile event) : Apart h (h.step event) := by
  cases event with
  | input input => exact meanwhile.elim
  | idleOff now => exact h.idleOff_apart meanwhile
  | poll poll => exact h.pollJob_apart poll
  | confirm now => exact h.maybeConfirmJoin_apart now
  | animate animation =>
      have moved : Apart h (h.animateSheet animation) := by
        unfold animateSheet
        exact .ite rfl rfl
      exact moved
  | render => exact h.render_informs.apart
  | sample sample => exact (h.sampleAll_informs sample).apart
  | kick sys => exact h.kickPending_apart sys
  | schedule now sys => exact h.schedule_apart now sys

/-! ## Keys, taps and the brightness -/

/-- A brightness that is set is aside: it changes the backlight only. -/
theorem applyBlPct_aside (pct : Int) : Aside h (h.applyBlPct pct) := by
  unfold applyBlPct
  simp only
  split_ifs <;> rfl

/-- The backlight that is found is aside. -/
theorem findBacklight_aside (found : Option (Int × Int)) : Aside h (h.findBacklight found) := by
  unfold findBacklight
  cases found with
  | none => rfl
  | some found =>
      have noted : Aside h { h with
          light.blMax := found.1
          light.blPath := true
          light.blCur := if 0 < found.2 then found.2 else h.light.blCur } := rfl
      have kept (g : Hud) :
          Aside g ({ g with light.blKeep := g.light.blPct }.applyBlPct g.light.blPct) :=
        Aside.trans rfl (applyBlPct_aside { g with light.blKeep := g.light.blPct } _)
      exact noted.trans (.ite (kept _) (.ite rfl rfl))

/-- A drag on the bar is aside, once the bar has the contact. -/
theorem applyBlFromX_aside (x : Int) : Aside h (h.applyBlFromX x) := by
  unfold applyBlFromX
  exact .ite rfl (h.applyBlPct_aside _)

/-- Keeping the brightness is aside. -/
theorem commitBl_aside : Aside h h.commitBl := by
  unfold commitBl
  exact .ite rfl rfl

/-- The row under the finger is apart. -/
theorem hoverFromPoint_apart (x y : Int) : Apart h (h.hoverFromPoint x y) := by
  unfold hoverFromPoint
  refine .ite rfl ?_
  simp only
  split <;> rfl

/-- A press may be the keyboard's. -/
theorem oskOnDown_touchView (x y : Int) :
    (h.oskOnDown x y).1.touchView =
      { h.touchView with held := h.osk.held || (h.oskOnDown x y).2 } := by
  unfold oskOnDown
  split_ifs
  · rw [Bool.or_false]
    rfl
  · simp only
    split_ifs
    · rw [Bool.or_false]
      rfl
    · rw [Bool.or_true]
      rfl

/-- The key under the finger is apart. -/
theorem oskOnMove_apart (x y : Int) : Apart h (h.oskOnMove x y) := by
  have laid : Apart h h.layoutKeys := rfl
  unfold oskOnMove
  refine .ite rfl (laid.trans ?_)
  generalize h.layoutKeys = g
  rfl

/-- A key that acts is apart, whatever it opens or closes. -/
theorem oskActivate_apart (k : OskKey) (sys : Sys) : Apart h (h.oskActivate k sys) := by
  have feed (c : UInt8) : Apart h (h.oskFeed c) := by
    unfold oskFeed
    exact .ite rfl rfl
  unfold oskActivate
  cases k.kind with
  | char => exact (feed k.ch).trans (.ite rfl rfl)
  | shift => rfl
  | sym => rfl
  | more => rfl
  | space => exact feed 32
  | bksp =>
      unfold oskErase
      exact .ite rfl rfl
  | go => exact h.wifiSubmitPass_apart sys

/-- A release ends the keyboard's hold of the contact. -/
theorem oskOnUp_released (x y : Int) (sys : Sys) :
    (h.oskOnUp x y sys).1.touchView = { h.touchView with held := false } ∧
      (h.oskOnUp x y sys).1.light = h.light := by
  unfold oskOnUp
  split
  · next free =>
      refine ⟨?_, rfl⟩
      change h.touchView = _
      rw [← free]
      rfl
  · have laid : Apart h h.layoutKeys := rfl
    simp only
    have released (g : Hud) (same : Apart h g) :
        ({ g with osk.held := false, osk.hi := none } : Hud).touchView =
          { h.touchView with held := false } ∧ g.light = h.light := by
      refine ⟨?_, same.light⟩
      rw [← same.aside]
      rfl
    apply released
    split
    · exact laid.trans (oskActivate_apart _ _ sys)
    · exact laid

/-- A key that is let go is no longer held, and that is all a finger notices. -/
theorem oskOnUp_touchView (x y : Int) (sys : Sys) :
    (h.oskOnUp x y sys).1.touchView = { h.touchView with held := false } :=
  (h.oskOnUp_released x y sys).1

/-- A tap on a network's own sheet is apart. -/
theorem tapDetail_apart (x y y0 : Int) (sys : Sys) : Apart h (h.tapDetail x y y0 sys) := by
  unfold tapDetail
  refine .ite (.ite rfl rfl) (.ite (h.wifiJoinPicked_apart sys) (.ite (.ite ?_ rfl) rfl))
  exact h.wifiForget_apart _ sys

/-- Selecting a row is apart. -/
theorem tapSelect_apart (i : Nat) : Apart h (h.tapSelect i) := by
  unfold tapSelect
  exact (h.selectApIdx_informs i).apart.trans (.ite (.refl _) rfl)

/-- A tap on the list is apart. -/
theorem tapList_apart (x y y0 : Int) (sys : Sys) : Apart h (h.tapList x y y0 sys) := by
  have scanned : Apart h (h.wifiScan sys) := h.wifiScan_apart sys
  unfold tapList
  refine .ite (.ite rfl rfl) (.ite (.ite rfl rfl) (.ite (.ite rfl scanned) ?_))
  cases h.tapRow x y y0 with
  | none => rfl
  | some i => exact h.tapSelect_apart i

/-- A tap on the home sheet is apart. -/
theorem tapHome_apart (x y : Int) (sys : Sys) : Apart h (h.tapHome x y sys) := by
  have opened : Apart h { h with ui.sheetTgt := .list } := rfl
  unfold tapHome
  refine .ite (.ite rfl (opened.trans (.ite ?_ rfl))) rfl
  exact wifiScan_apart _ sys

/-- A tap is apart from the one it records, when no key is held. -/
theorem tap_apart {h : Hud} (free : h.osk.held = false) (x y : Int) (sys : Sys) :
    Apart (h.observe (.tap x y)) (h.tap x y sys) := by
  have lang (g : Hud) : Apart g g.tapLang := by
    unfold tapLang
    exact .ite rfl rfl
  have pass (g : Hud) (y0 : Int) (free : g.osk.held = false) : Apart g (g.tapPass x y y0 sys) := by
    have left : Apart g g.tapCancel := by
      unfold Apart touchView
      rw [free]
      rfl
    unfold tapPass
    exact .ite left (.ite (g.wifiSubmitPass_apart sys) rfl)
  have free : (h.observe (.tap x y)).osk.held = false := free
  unfold tap
  simp only
  generalize h.observe (.tap x y) = g at free
  refine .ite (lang g) (.ite (pass g _ free) (.ite (g.tapDetail_apart _ _ _ sys) ?_))
  exact .ite (g.tapList_apart _ _ _ sys) (g.tapHome_apart _ _ sys)

/-- **A tap leaves only itself behind**, as far as contacts are concerned. -/
theorem tap_touchView {h : Hud} (free : h.osk.held = false) (x y : Int) (sys : Sys) :
    (h.tap x y sys).touchView = { h.touchView with taps := h.taps ++ [(x, y)] } := by
  have noted : (h.observe (.tap x y)).touchView =
      { h.touchView with taps := h.taps ++ [(x, y)] } := by
    rw [← observe_tap_taps]
    rfl
  exact Eq.trans (tap_apart free x y sys).aside noted

end Hud

/-! ## The start -/

/-- Nothing has been touched when the backlight has been found. -/
theorem Boot.findBacklight_aside (boot : Boot) : Hud.Aside boot.blank
    ((boot.blank.loadHudConf boot.lang boot.bl).findBacklight boot.backlight) := by
  have configured : Hud.Aside boot.blank (boot.blank.loadHudConf boot.lang boot.bl) := by
    unfold Hud.loadHudConf
    cases boot.lang <;> cases boot.bl <;> rfl
  exact configured.trans (Hud.findBacklight_aside _ boot.backlight)

/-- What follows the reset of the touch state notes the time and leaves that state alone. -/
theorem Boot.hud_apart (boot : Boot) : ∃ g,
    Hud.Apart { ((boot.blank.loadHudConf boot.lang boot.bl).findBacklight
      boot.backlight).resetTouch with touch.mtNslots := boot.nslots } g ∧
      boot.hud = { g with screen.tUser := boot.now, screen.tUnblank := boot.now } := by
  refine ⟨_, ?_, rfl⟩
  exact ((Hud.sysfsWifi_informs _ boot.sample.ifacePresent boot.sample.ifaceFound).apart.trans
    (Hud.sampleLink_informs _ boot.sample.up boot.sample.ip).apart).trans
      (((Hud.sampleIp_informs _ boot.sample.ip boot.sample.gw).apart.trans
        (Hud.sampleSignal_informs _ boot.sample.wireless).apart).trans
        (Hud.wifiRadio_apart _ boot.sys))

end Ginkgo
