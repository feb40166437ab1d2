import Ginkgo.Join.Refine

/-!
# The steps of the HUD and the join machine

Every step of the HUD moves the join machine, except that the end of a connect job may
open the password sheet (`Ginkgo.Hud.opensPass`) before it goes on with the queue
(`Ginkgo.Hud.step_refines`, `Ginkgo.Hud.step_opens`).
-/

namespace Ginkgo

open CText JoinState

namespace Hud

variable {h : Hud} {sys : Sys}

/-! ## Sheets, selection and keys -/

/-- Going to another sheet than the password sheet. -/
theorem Refines.leaving {h' : Hud} {sheet : Sheet} (other : sheet ≠ .pass)
    (joins : h'.joinState = { h.joinState with sheetTgt := sheet }) (valid : h.Valid → h'.Valid) :
    Refines h h' := .move valid (joins ▸ .left h.joinState sheet other)

/-- Selecting a row that is not the sheet's refines a selection. -/
theorem selectApIdx_refines (h : Hud) (i : Nat) (elsewhere : h.ui.sheetTgt ≠ .pass) :
    Refines h (h.selectApIdx i) := by
  unfold selectApIdx
  cases found : h.scan.aps[i]? with
  | none => exact .refl h
  | some ap =>
      intro wf
      refine ⟨wf.valid, .single ?_⟩
      have named : ap.ssid.text ≠ [] := wf.valid.1 ap (List.mem_of_getElem? found)
      rw [← Buf.print_text ap.ssid] at named
      exact .selected h.joinState _ named elsewhere

/-- A character that is typed. -/
theorem oskFeed_refines (h : Hud) {c : UInt8} (nonzero : c ≠ 0) : Refines h (h.oskFeed c) := by
  unfold oskFeed
  refine .ite (fun _ => .refl h) fun short => .move id ?_
  have room : h.osk.pwLen < 63 := by
    simp only [pwMax] at short
    omega
  exact .typed h.joinState c nonzero room

/-- A character that is erased. -/
theorem oskErase_refines (h : Hud) : Refines h h.oskErase := by
  unfold oskErase
  exact .ite (fun filled => .move id (.erased h.joinState filled)) fun _ => .refl h

/-- A key that acts is a move of the join. -/
theorem oskActivate_refines (h : Hud) (k : OskKey) (sys : Sys) (carries : k.kind = .char → k.ch ≠ 0) :
    Refines h (h.oskActivate k sys) := by
  unfold oskActivate
  cases kind : k.kind with
  | char =>
      refine (h.oskFeed_refines (carries kind)).trans (Quiet.refines ?_)
      exact .ite ⟨rfl, id, rfl⟩ (.refl _)
  | shift => exact Quiet.refines ⟨rfl, id, rfl⟩
  | sym => exact Quiet.refines ⟨rfl, id, rfl⟩
  | more => exact Quiet.refines ⟨rfl, id, rfl⟩
  | space => exact h.oskFeed_refines (by decide)
  | bksp => exact h.oskErase_refines
  | go => exact h.wifiSubmitPass_refines sys

/-- So is one that is let go. -/
theorem oskOnUp_refines (h : Hud) (x y : Int) (sys : Sys) : Refines h (h.oskOnUp x y sys).1 := by
  unfold oskOnUp
  split
  · exact .refl h
  · refine Refines.after ?_ h.layoutKeys_handles.quiet
    generalize h.layoutKeys = g
    simp only
    generalize (g.oskKeyAt x y <|> g.osk.hi) = hit
    have released (k : Hud) : Refines k { k with osk.held := false, osk.hi := none } :=
      Quiet.refines ⟨rfl, id, rfl⟩
    refine Refines.trans ?_ (released _)
    cases found : hit.bind fun i => g.osk.keys[i]? with
    | none => exact .refl g
    | some k =>
        refine .assume fun wf => g.oskActivate_refines k sys ?_
        obtain ⟨i, -, member⟩ := Option.bind_eq_some_iff.mp found
        exact wf.valid.2.1 k (List.mem_of_getElem? member)

/-! ## Taps -/

/-- Cancelling a sheet. -/
theorem tapCancel_refines (h : Hud) : Refines h h.tapCancel := by
  have other : (if h.scan.selectedSsid.text ≠ [] then Sheet.detail else .list) ≠ .pass := by
    split <;> decide
  exact .leaving other rfl id

/-- A row of the list that is tapped. -/
theorem tapSelect_refines (h : Hud) (i : Nat) (elsewhere : h.ui.sheetTgt ≠ .pass) :
    Refines h (h.tapSelect i) := by
  unfold tapSelect
  refine (h.selectApIdx_refines i elsewhere).trans (.ite (fun _ => .refl _) fun _ => ?_)
  have opened : Sheet.detail ≠ .pass := by decide
  exact .leaving opened rfl id

/-- A tap on the password sheet. -/
theorem tapPass_refines (h : Hud) (x y y0 : Int) (sys : Sys) :
    Refines h (h.tapPass x y y0 sys) := by
  unfold tapPass
  exact .ite (fun _ => h.tapCancel_refines)
    fun _ => .ite (fun _ => h.wifiSubmitPass_refines sys) fun _ => .refl h

/-- A tap on a network's own sheet. -/
theorem tapDetail_refines (h : Hud) (x y y0 : Int) (sys : Sys) :
    Refines h (h.tapDetail x y y0 sys) := by
  unfold tapDetail
  refine .ite (fun _ => ?back) fun _ => .ite (fun _ => ?join) fun _ => .ite (fun _ => ?forget)
    fun _ => .refl h
  case back =>
    have opened : Sheet.list ≠ .pass := by decide
    exact .ite (fun _ => .refl h) fun _ => .leaving opened rfl id
  case join => exact h.wifiJoinPicked_refines sys
  case forget => exact .ite (fun _ => h.wifiForget_refines _ sys) fun _ => .refl h

/-- A tap on the list. -/
theorem tapList_refines (h : Hud) (x y y0 : Int) (sys : Sys) (onList : h.ui.sheetTgt = .list) :
    Refines h (h.tapList x y y0 sys) := by
  have shut : Sheet.none ≠ .pass := by decide
  have closed : Refines h (if h.join.connecting then h else { h with ui.sheetTgt := .none }) :=
    .ite (fun _ => .refl h) fun _ => .leaving shut rfl id
  unfold tapList
  refine .ite (fun _ => closed) fun _ => .ite (fun _ => closed) fun _ => .ite (fun _ => ?_)
    fun _ => ?_
  · exact .ite (fun _ => .refl h) fun _ =>
      (h.wifiScan_refines sys).trans (setStatus_quiet _ _).refines
  · cases h.tapRow x y y0 with
    | none => exact .refl h
    | some i => exact h.tapSelect_refines i (by rw [onList]; decide)

/-- A tap on the home sheet. -/
theorem tapHome_refines (h : Hud) (x y : Int) (sys : Sys) : Refines h (h.tapHome x y sys) := by
  unfold tapHome
  refine .ite (fun _ => .ite (fun _ => .refl h) fun _ => ?_) fun _ => .refl h
  have other : Sheet.list ≠ .pass := by decide
  have opened : Refines h { h with ui.sheetTgt := .list } := .leaving other rfl id
  exact opened.trans (.ite (fun _ => wifiScan_refines _ sys) fun _ => .refl _)

/-- The language has nothing to do with a join. -/
theorem tapLang_quiet (h : Hud) : Quiet h h.tapLang := by
  unfold tapLang
  refine Quiet.trans ?_ (.ite (setStatus_quiet _ _) (.refl _))
  exact ⟨rfl, id, rfl⟩

/-- **A tap moves the join machine.** -/
theorem tap_refines (h : Hud) (x y : Int) (sys : Sys) : Refines h (h.tap x y sys) := by
  unfold tap
  have noted : Refines h (h.observe (.tap x y)) := .move id (.tapped h.joinState x y)
  apply noted.trans
  refine .ite (fun _ => (tapLang_quiet _).refines) fun _ => ?_
  refine .ite (fun _ => tapPass_refines _ _ _ _ sys) fun _ => ?_
  refine .ite (fun _ => tapDetail_refines _ _ _ _ sys) fun _ => ?_
  refine .ite (fun shown => tapList_refines _ _ _ _ sys shown.2) fun _ => ?_
  exact tapHome_refines _ _ _ sys

/-! ## Touch -/

/-- The end of a contact refines what the tap or the key does. -/
theorem contactUp_refines (h : Hud) (dev : Dev) (armed : Bool) (env : EvEnv) :
    Refines h (h.contactUp dev armed env) := by
  unfold contactUp
  simp only
  have committed : Quiet h (if h.light.draggingBl then h.commitBl else h) :=
    .ite h.commitBl_handles.quiet (.refl h)
  refine Refines.after ?_ committed
  generalize (if h.light.draggingBl then h.commitBl else h) = g
  refine .ite (fun _ => g.oskOnUp_refines _ _ _) fun _ => ?_
  exact .ite (fun _ => g.tap_refines _ _ _) fun _ => .refl g

/-- **An input event moves the join machine.** -/
theorem handleEv_refines (h : Hud) (dev : Dev) (ev : Ev) (env : EvEnv) :
    Refines h (h.handleEv dev ev env) := by
  cases found : h.evEnd dev ev env with
  | none => exact (handleEv_handles found).quiet.refines
  | some c =>
      obtain ⟨before, after⟩ := handleEv_ends found
      have lifted : Refines c.hud c.up := c.hud.contactUp_refines c.dev c.armed c.env
      exact before.quiet.refines.trans (lifted.trans after.quiet.refines)

/-! ## The confirmation and the main loop -/

/-- A wait that is over, whichever way it has ended. -/
theorem joinOver_refines (h : Hud) (failed : Bool) (waits : h.join.joinWaitLive = true) :
    Refines h (h.joinOver failed) := .move id (.confirmed h.joinState waits)

/-- A wait that has been confirmed. -/
theorem joinConfirmed_refines (h : Hud) (waits : h.join.joinWaitLive = true) :
    Refines h h.joinConfirmed := by
  have closed : Sheet.none ≠ .pass := by decide
  unfold joinConfirmed
  apply (h.joinOver_refines false waits).trans
  generalize h.joinOver false = g
  have marked := g.markApActive_quiet g.bufs.connectSsid.text
  refine Refines.after ?_ marked
  exact .leaving closed rfl id

/-- A wait whose time is over. -/
theorem joinTimedOut_refines (h : Hud) (waits : h.join.joinWaitLive = true) :
    Refines h h.joinTimedOut := by
  have opened : Sheet.detail ≠ .pass := by decide
  unfold joinTimedOut
  apply (h.joinOver_refines true waits).trans
  generalize h.joinOver true = g
  simp only
  refine Refines.trans (Quiet.refines (Quiet.trans ?_ (fillFailStatus_quiet _ _ _)))
    (.ite (fun _ => .leaving opened rfl id) fun _ => .refl _)
  exact ⟨rfl, id, rfl⟩

/-- `maybe_confirm_join` ends a wait or leaves it. -/
theorem maybeConfirmJoin_refines (h : Hud) (now : Nat) : Refines h (h.maybeConfirmJoin now) := by
  unfold maybeConfirmJoin
  refine .ite (fun _ => .refl h) fun waiting => ?_
  have waits : h.join.joinWaitLive = true := by
    by_contra idle
    exact waiting (.inl (by simpa using idle))
  refine .ite (fun _ => h.joinConfirmed_refines waits) fun _ => ?_
  exact .ite (fun _ => .refl h) fun _ => h.joinTimedOut_refines waits

/-- The timers of the loop only ask for reports. -/
theorem schedule_refines (h : Hud) (now : Nat) (sys : Sys) : Refines h (h.schedule now sys) := by
  unfold schedule
  refine .ite (fun _ => ?_) fun _ => .refl h
  refine .ite (fun _ => ?_) fun _ => .ite (fun _ => ?_) fun _ => .refl h
  · exact (h.wifiScan_refines sys).trans (Quiet.refines ⟨rfl, id, rfl⟩)
  · exact (h.wifiInfo_refines sys).trans (Quiet.refines ⟨rfl, id, rfl⟩)

/-! ## The end of a job -/

/-- The end of a device list may confirm a join. -/
theorem infoDone_refines (h : Hud) (now : Nat) (out : Text) : Refines h (h.infoDone now out) := by
  unfold infoDone
  refine Refines.after ?_ (h.parseInfo_quiet now out)
  refine (maybeConfirmJoin_refines _ now).after (.ite ⟨rfl, id, rfl⟩ (.refl _))

/-- So may the end of a scan. -/
theorem scanDone_refines (h : Hud) (now : Nat) (out : Text) : Refines h (h.scanDone now out) := by
  have scanned : Refines h (h.parseScan out) := by
    obtain ⟨joins, valid⟩ := h.parseScan_joins out
    intro wf
    refine ⟨valid wf.valid, ?_⟩
    rw [joins]
  unfold scanDone
  apply scanned.trans
  apply (maybeConfirmJoin_refines _ now).after
  exact .ite (setStatus_quiet _ _) (.ite (setStatus_quiet _ _) (.refl _))

/-- And the end of a link report. -/
theorem linkDone_refines (h : Hud) (now : Nat) (out : Text) : Refines h (h.linkDone now out) := by
  unfold linkDone
  refine Refines.after ?_ (h.parseLink_quiet out)
  refine (maybeConfirmJoin_refines _ now).trans (Quiet.refines ?_)
  exact .ite ⟨rfl, id, rfl⟩ (.refl _)

/-- Removing a forgotten network from the view is none of a join's business. -/
theorem dropForgotten_quiet (h : Hud) (forgot selected : Text) :
    Quiet h (h.dropForgotten forgot selected) := by
  unfold dropForgotten
  exact .ite ⟨rfl, id, rfl⟩ (.refl h)

/-- The end of a forget leaves the join alone. -/
theorem forgetDone_refines (h : Hud) (rc : Nat) (out : Text) : Refines h (h.forgetDone rc out) := by
  have ended : Quiet h { h with forget.forgetting := false } := ⟨rfl, id, rfl⟩
  unfold forgetDone
  refine Refines.after ?_ ended
  generalize { h with forget.forgetting := false } = g
  refine .ite (fun _ => ?_) fun _ => ?_
  · have opened : Sheet.list ≠ .pass := by decide
    simp only
    generalize g.forget.forgetSsid.text = forgot
    generalize g.scan.selectedSsid.text = selected
    have marked := g.markApInactive_quiet (if forgot ≠ [] then forgot else selected)
    have forgotten := marked.trans
      ((dropForgotten_quiet _ forgot selected).trans (forgetPsk_quiet _ selected))
    refine Refines.after ?_ forgotten
    exact .leaving opened rfl id
  · have opened : Sheet.detail ≠ .pass := by decide
    refine Refines.after ?_ (g.setConnectStatus_quiet
      (if out ≠ [] then out else g.T "忘记失败" "Forget failed"))
    exact .leaving opened rfl id

/-- The name that the password sheet is opened for after a request for a password. -/
def joinedName (h : Hud) : Buf 96 :=
  if h.bufs.connectSsid.text ≠ [] then h.bufs.connectSsid else h.scan.selectedSsid

/-- The name the password sheet is opened for when a connect job ends with this exit code
and output. -/
def opensAfter (h : Hud) (rc : Nat) (out : Text) : Option (Buf 96) :=
  match gwOnConnectJob (h.connectIn rc out) with
  | .wrongPass | .openPass => some h.joinedName
  | .fail =>
      if h.ui.sheetTgt ≠ .none ∧ h.join.connectNeedPass then some h.scan.selectedSsid else none
  | _ => none

section ConnectDone

variable {now : Nat} {retry : Sys} {rc : Nat} {out : Text}

/-- A join that nmcli has accepted is waited for. -/
theorem awaitLive_refines (running : h.connectInFlight) :
    Refines h ((h.closeJob.endConnect out).awaitLive now) := by
  let dropped := gwDropPending true h.bufs.connectSsid.text h.bufs.pendSsid.text
  have kept : (if dropped then false else h.join.wantConnect) = true →
      h.join.wantConnect = true := by
    intro want
    split at want
    · cases want
    · exact want
  have other : (if h.ui.sheetTgt = .pass then Sheet.detail else h.ui.sheetTgt) ≠ .pass := by
    split
    · decide
    · assumption
  exact .move id (.succeeded h.joinState _ _ running kept other)

/-- A join that is tried again with the password that is remembered. -/
theorem connectRetryPsk_refines (running : h.connectInFlight)
    (retries : gwOnConnectJob (h.connectIn rc out) = .retryPsk) :
    Refines h ((h.closeJob.endConnect out).connectRetryPsk retry) := by
  have known := gwOnConnectJob_retryPsk retries
  have joined : h.bufs.connectSsid.text ≠ [] := by
    simp only [connectIn, gwJoinUseSessionPsk, decide_eq_true_eq] at known
    exact (gwSsidEq_iff.mp known.1).1
  have kept : (h.closeJob.endConnect out).dropProbe.join.wantConnect = true →
      h.join.wantConnect = true := by
    unfold dropProbe
    simp only
    split
    · exact nofun
    · exact id
  unfold connectRetryPsk
  generalize dropped : (h.closeJob.endConnect out).dropProbe = g at kept
  have state : g.joinState = { h.joinState with
      pid := none, connecting := false, wantConnect := g.join.wantConnect } := by
    rw [← dropped]
    rfl
  have same : g.bufs = h.bufs := by
    rw [← dropped]
    rfl
  have valid : g.Valid ↔ h.Valid := by
    rw [← dropped]
    rfl
  have callable : Callable g .connectSsid (.var .knownPsk) g.pickedSec :=
    ⟨by simp, by decide, g.pickedSec_steady, g.bufs.knownPsk.fits, load_pickedSec_fits g g⟩
  have named : g.load (.var .connectSsid) = h.bufs.connectSsid.text :=
    congrArg (fun bufs : Bufs => bufs.connectSsid.text) same
  have free : ¬g.connectInFlight := fun running => running.1 (congrArg JoinState.pid state)
  obtain ⟨argv, child, joins, called, -⟩ :=
    wifiConnect_joinState retry callable (named ▸ joined) free
  refine .move (fun before => called.mpr (valid.mpr before)) ?_
  have passes := callOf_passes g .connectSsid (.var .knownPsk) g.pickedSec (named ▸ joined)
  rw [named] at passes
  rw [joins, state]
  exact .retried h.joinState _ _ argv child running kept passes

/-- A join that has given way to a queued one. -/
theorem waitPending_refines (running : h.connectInFlight)
    (waits : gwOnConnectJob (h.connectIn rc out) = .waitPending) :
    Refines h { h.closeJob.endConnect out with join.connectFail := false } := by
  obtain ⟨wants, same⟩ := gwOnConnectJob_waitPending waits
  exact .move id (.waited h.joinState running wants (gwSsidEq_iff.mp same).1)

/-- The text of a failure is not part of a join. -/
theorem showFailure_quiet (h : Hud) : Quiet h h.showFailure := by
  refine Quiet.trans ?_ (fillFailStatus_quiet _ _ _)
  exact ⟨rfl, id, rfl⟩

/-- It does not say whether a password is needed. -/
theorem showFailure_needPass (h : Hud) :
    h.showFailure.join.connectNeedPass = h.join.connectNeedPass := by
  unfold showFailure fillFailStatus
  simp only
  split_ifs <;> rfl

/-- A failed join that does not open the password sheet. -/
theorem connectFailed_refines (running : h.connectInFlight)
    (calm : h.ui.sheetTgt = .none ∨ h.join.connectNeedPass = false) :
    Refines h ((h.closeJob.endConnect out).connectFailed (h.ui.sheetTgt = .none)) := by
  have shown := showFailure_quiet (h.closeJob.endConnect out)
  have need := showFailure_needPass (h.closeJob.endConnect out)
  have opened : Sheet.detail ≠ .pass := by decide
  unfold connectFailed
  simp only
  generalize (h.closeJob.endConnect out).showFailure = g at shown need
  by_cases home : h.ui.sheetTgt = .none
  · rw [if_pos (by simpa using home)]
    have other : h.ui.sheetTgt ≠ .pass := by
      rw [home]
      decide
    refine .move shown.valid ?_
    rw [shown.joins]
    exact .failed h.joinState h.ui.sheetTgt running other
  · have plain : g.join.connectNeedPass = false := need.trans (calm.resolve_left home)
    rw [if_neg (by simpa using home), if_neg (by simp [plain])]
    refine .move shown.valid ?_
    change Move h.joinState { g.joinState with sheetTgt := .detail }
    rw [shown.joins]
    exact .failed h.joinState .detail running opened

/-- **A connect job that does not open the password sheet moves the machine.** -/
theorem connectDone_refines (running : h.connectInFlight) (calm : h.opensAfter rc out = none) :
    Refines h (h.closeJob.connectDone now retry rc out) := by
  have same : h.closeJob.connectIn rc out = h.connectIn rc out := rfl
  unfold opensAfter at calm
  unfold connectDone
  simp only [same]
  cases act : gwOnConnectJob (h.connectIn rc out) with
  | success => exact (awaitLive_refines running).trans (maybeConfirmJoin_refines _ now)
  | openPass => simp [act] at calm
  | wrongPass => simp [act] at calm
  | retryPsk => exact connectRetryPsk_refines running act
  | waitPending => exact waitPending_refines running act
  | fail =>
      apply connectFailed_refines running
      by_contra opens
      simp only [not_or, Bool.not_eq_false] at opens
      simp [act, opens] at calm

/-! ### Opening the password sheet -/

/-- Wiping an empty password changes nothing. -/
theorem store_zero_of_empty {a : Cells 64} (empty : a.text = []) : a.store 0 0 = a := by
  obtain ⟨bytes, size⟩ := a
  cases bytes with
  | nil => rfl
  | cons c rest =>
      simp only [Cells.text, cstr, List.takeWhile_cons] at empty
      split at empty
      · cases empty
      · next zero =>
          have zero : c = 0 := by simpa using zero
          subst zero
          rfl

/-- Selecting the joined network writes the selection and nothing else of a join. -/
theorem selectJoined_joinState (h : Hud) :
    h.selectJoined.joinState = { h.joinState with
      selectedSsid :=
        if h.bufs.connectSsid.text ≠ [] then h.bufs.connectSsid else h.scan.selectedSsid } ∧
      (h.Valid → h.selectJoined.Valid) := by
  unfold selectJoined
  by_cases joined : h.bufs.connectSsid.text = []
  · simp [joined, joinState]
  · rw [if_pos joined, if_pos joined]
    have synced := syncSelectedAp_quiet { h with
      scan.selectedSsid := .print 96 h.bufs.connectSsid.text }
    refine ⟨synced.joins.trans ?_, fun valid => synced.valid valid⟩
    simp [joinState]

/-- Selecting the joined network and opening the password sheet. -/
theorem reopen_joinState {g : Hud} (quiet : Quiet h g) :
    joinState { g.selectJoined with ui.sheetTgt := .pass } =
        { h.joinState with selectedSsid := h.joinedName, sheetTgt := .pass } ∧
      (h.Valid → Valid { g.selectJoined with ui.sheetTgt := .pass }) := by
  obtain ⟨joins, valid⟩ := g.selectJoined_joinState
  have joined : g.bufs.connectSsid = h.bufs.connectSsid :=
    congrArg JoinState.connectSsid quiet.joins
  have selected : g.scan.selectedSsid = h.scan.selectedSsid :=
    congrArg JoinState.selectedSsid quiet.joins
  rw [joined, selected] at joins
  refine ⟨?_, fun before => valid (quiet.valid before)⟩
  change { g.selectJoined.joinState with sheetTgt := Sheet.pass } = _
  rw [joins, quiet.joins]
  rfl

/-- A wrong password selects the network and opens its sheet. -/
theorem connectWrongPass_joinState (h : Hud) :
    h.connectWrongPass.joinState =
        { h.joinState with selectedSsid := h.joinedName, sheetTgt := .pass } ∧
      (h.Valid → h.connectWrongPass.Valid) := by
  refine reopen_joinState (Quiet.trans (h.forgetPsk_quiet h.bufs.connectSsid.text) ?_)
  refine Quiet.trans ?_ (fillFailStatus_quiet _ _ _)
  exact ⟨rfl, id, rfl⟩

/-- A password that is needed does so too, in a sound state. -/
theorem connectOpenPass_joinState (sound : h.joinState.Sound) :
    (h.connectOpenPass out).joinState =
        { h.joinState with selectedSsid := h.joinedName, sheetTgt := .pass } ∧
      (h.Valid → (h.connectOpenPass out).Valid) := by
  have quiet : Quiet h (Hud.setConnectStatus { h with join.connectFail := h.join.connectNeedPass }
      (if out ≠ [] then out else txt "NEED_PASSWORD")) := by
    refine Quiet.trans ?_ (setConnectStatus_quiet _ _)
    exact ⟨rfl, id, rfl⟩
  obtain ⟨joins, valid⟩ := reopen_joinState quiet
  unfold connectOpenPass
  simp only
  generalize Hud.setConnectStatus _ _ = g at joins valid ⊢
  split
  · next wiped =>
      have length : h.joinState.pwLen = 0 := (congrArg JoinState.pwLen joins).symm.trans wiped.2
      have typed : h.joinState.typed = [] :=
        List.length_eq_zero_iff.mp (sound.pwLen.symm.trans length)
      have text : h.joinState.password.text = [] := by rw [sound.password, typed, List.map_nil]
      have same : g.selectJoined.osk.password = h.joinState.password :=
        congrArg JoinState.password joins
      refine ⟨?_, valid⟩
      change { Hud.joinState { g.selectJoined with ui.sheetTgt := .pass } with
        password := g.selectJoined.osk.password.store 0 0, pwLen := 0, typed := [] } = _
      rw [joins, same, store_zero_of_empty text, ← length, ← typed]
  · exact ⟨joins, valid⟩

/-- A join that fails for want of a password opens the sheet. -/
theorem connectFailed_opens (home : h.ui.sheetTgt ≠ .none) (need : h.join.connectNeedPass = true) :
    (h.connectFailed (h.ui.sheetTgt = .none)).joinState = { h.joinState with sheetTgt := .pass } ∧
      (h.Valid → (h.connectFailed (h.ui.sheetTgt = .none)).Valid) := by
  have shown := h.showFailure_quiet
  have kept := h.showFailure_needPass
  unfold connectFailed
  simp only
  generalize h.showFailure = g at shown kept
  rw [if_neg (by simpa using home), kept, need, if_pos rfl]
  refine ⟨?_, shown.valid⟩
  change { g.joinState with sheetTgt := Sheet.pass } = _
  rw [shown.joins]

/-- **A connect job that opens the password sheet** does nothing else to the machine. -/
theorem connectDone_opens (now : Nat) (retry : Sys) (sound : h.joinState.Sound) {shown : Buf 96}
    (opens : h.opensAfter rc out = some shown) :
    (h.closeJob.connectDone now retry rc out).joinState = h.joinState.openPass shown ∧
      (h.Valid → (h.closeJob.connectDone now retry rc out).Valid) := by
  have same : h.closeJob.connectIn rc out = h.connectIn rc out := rfl
  have ended : (h.closeJob.endConnect out).joinState.Sound :=
    sound.flags rfl rfl rfl fun running => absurd rfl running.1
  unfold opensAfter at opens
  unfold connectDone
  simp only [same]
  cases act : gwOnConnectJob (h.connectIn rc out) with
  | wrongPass =>
      simp only [act, Option.some.injEq] at opens
      subst opens
      exact connectWrongPass_joinState (h.closeJob.endConnect out)
  | openPass =>
      simp only [act, Option.some.injEq] at opens
      subst opens
      exact connectOpenPass_joinState ended
  | fail =>
      simp only [act, Option.ite_none_right_eq_some, Option.some.injEq] at opens
      obtain ⟨⟨home, need⟩, rfl⟩ := opens
      exact connectFailed_opens (h := h.closeJob.endConnect out) home need
  | success => simp [act] at opens
  | retryPsk => simp [act] at opens
  | waitPending => simp [act] at opens

end ConnectDone

/-! ## Every step -/

/-- The output of the running child, what is read at its end included. -/
def collected (h : Hud) (poll : Poll) : Text :=
  cstr ((h.readJob poll.first).readJob poll.rest).job.buf.text

/-- The name the password sheet is opened for by an event, if the event opens it. Only the
end of a connect job does. -/
def opensPass (h : Hud) : Event → Option (Buf 96)
  | .poll poll =>
      match poll.exit with
      | some exit =>
          if h.connectInFlight then h.opensAfter exit.rc (h.collected poll) else none
      | none => none
  | _ => none

/-- The end of a job other than a join's. -/
theorem jobDone_refines (poll : Poll) (exit : Exit) (kind : JobKind) (out : Text)
    (other : kind ≠ .connect) : Refines h (h.jobDone poll exit kind out) := by
  cases kind with
  | radio => exact Quiet.refines ⟨rfl, id, rfl⟩
  | info => exact h.infoDone_refines poll.now out
  | scan => exact h.scanDone_refines poll.now out
  | connect => exact absurd rfl other
  | link => exact h.linkDone_refines poll.now out
  | forget => exact h.forgetDone_refines exit.rc out

/-- What `poll_job` does with a child that has ended: read, close, end the job, and start what
waits. -/
theorem pollJob_ended {poll : Poll} {exit : Exit} (running : h.job.pid ≠ none)
    (ended : poll.exit = some exit) :
    h.pollJob poll = (((h.readJob poll.first).readJob poll.rest).closeJob.jobDone poll exit
      h.job.kind (h.collected poll)).kickPending poll.kick := by
  unfold pollJob
  rw [if_neg running]
  simp only [ended]
  rfl

/-- A poll that does not open the password sheet is a move of the join. -/
theorem pollJob_refines (poll : Poll) (calm : h.opensPass (.poll poll) = none) :
    Refines h (h.pollJob poll) := by
  by_cases free : h.job.pid = none
  · rw [pollJob, if_pos free]
    exact .refl h
  have read := (h.readJob_quiet poll.first).trans (readJob_quiet _ poll.rest)
  unfold opensPass at calm
  cases ended : poll.exit with
  | none =>
      rw [pollJob, if_neg free]
      simp only [ended]
      exact (h.readJob_quiet poll.first).refines
  | some exit =>
      rw [pollJob_ended free ended]
      simp only [ended] at calm
      refine Refines.trans (Refines.after ?_ read) (kickPending_refines _ poll.kick)
      by_cases kind : h.job.kind = .connect
      · rw [if_pos ⟨free, kind⟩] at calm
        rw [kind]
        exact connectDone_refines (h := (h.readJob poll.first).readJob poll.rest) ⟨free, kind⟩ calm
      · refine Refines.trans ?_ (jobDone_refines poll exit h.job.kind _ kind)
        exact .move id (.ended (Hud.joinState ((h.readJob poll.first).readJob poll.rest)) kind)

/-- **A step that does not open the password sheet moves the join machine.** -/
theorem step_refines (h : Hud) {event : Event} (calm : h.opensPass event = none) :
    Refines h (h.step event) := by
  cases event with
  | input input => exact h.handleEv_refines input.dev input.ev input.env
  | idleOff now => exact (h.idleOff_handles now).quiet.refines
  | poll poll => exact pollJob_refines poll calm
  | confirm now => exact h.maybeConfirmJoin_refines now
  | animate animation =>
      exact ((h.animateSheet_handles animation).trans (animateList_handles _ _)).quiet.refines
  | render => exact h.render_quiet.refines
  | sample sample => exact (h.sampleAll_quiet sample).refines
  | kick sys => exact h.kickPending_refines sys
  | schedule now sys => exact h.schedule_refines now sys

/-- The name of a join is one that it offers. -/
theorem joinedName_offers (h : Hud) : h.joinState.Offers h.joinedName := by
  unfold joinedName
  split
  · exact .inr ⟨rfl, ‹_›⟩
  · exact .inl rfl

/-- The sheet is opened for the selected name or for a joined one. -/
theorem opensPass_offers {event : Event} {shown : Buf 96} (opens : h.opensPass event = some shown) :
    h.joinState.Offers shown := by
  have after {rc : Nat} {out : Text} (opens : h.opensAfter rc out = some shown) :
      h.joinState.Offers shown := by
    unfold opensAfter at opens
    cases act : gwOnConnectJob (h.connectIn rc out) with
    | wrongPass =>
        simp only [act, Option.some.injEq] at opens
        exact opens ▸ h.joinedName_offers
    | openPass =>
        simp only [act, Option.some.injEq] at opens
        exact opens ▸ h.joinedName_offers
    | fail =>
        simp only [act, Option.ite_none_right_eq_some, Option.some.injEq] at opens
        exact .inl opens.2.symm
    | success => simp [act] at opens
    | retryPsk => simp [act] at opens
    | waitPending => simp [act] at opens
  unfold opensPass at opens
  split at opens
  · split at opens
    · split at opens
      · exact after opens
      · cases opens
    · cases opens
  · cases opens

/-- **A step that opens the password sheet** opens it and goes on with the queue. -/
theorem step_opens (wf : h.WellFormed) {event : Event} {shown : Buf 96}
    (opens : h.opensPass event = some shown) :
    ∃ (g : Hud) (sys : Sys), g.WellFormed ∧ g.joinState = h.joinState.openPass shown ∧
      h.step event = g.kickPending sys ∧ h.connectInFlight := by
  unfold opensPass at opens
  split at opens
  · next poll =>
      split at opens
      · next exit ended =>
          split at opens
          · next running =>
              have read := (h.readJob_quiet poll.first).trans (readJob_quiet _ poll.rest)
              have sound : Sound (Hud.joinState ((h.readJob poll.first).readJob poll.rest)) :=
                read.joins ▸ wf.sound
              obtain ⟨joins, valid⟩ := connectDone_opens
                (h := (h.readJob poll.first).readJob poll.rest) poll.now poll.retry sound opens
              rw [read.joins] at joins
              refine ⟨_, poll.kick, ⟨valid (read.valid wf.valid), ?_⟩, joins, ?_, running⟩
              · rw [joins]
                exact wf.sound.openPass shown
              · change h.pollJob poll = _
                rw [pollJob_ended running.1 ended, running.2]
                rfl
          · cases opens
      · cases opens
  · cases opens

/-- **A step keeps a state well formed.** -/
theorem step_wellFormed (wf : h.WellFormed) (event : Event) : (h.step event).WellFormed := by
  cases opens : h.opensPass event with
  | none => exact (h.step_refines opens).wellFormed wf
  | some shown =>
      obtain ⟨g, sys, opened, -, stepped, -⟩ := step_opens wf opens
      rw [stepped]
      exact (g.kickPending_refines sys).wellFormed opened

/-- What going on with the queue does when the slot is free: a queued join becomes the
join, and the sheet, the selection and the password are left alone. -/
structure Kicked (v v' : JoinState) : Prop where
  connectSsid : v'.connectSsid =
    if v.wantConnect = true ∧ v.pendSsid.text ≠ [] then v.pendSsid else v.connectSsid
  wantConnect : v'.wantConnect = false
  selectedSsid : v'.selectedSsid = v.selectedSsid
  sheetTgt : v'.sheetTgt = v.sheetTgt
  typed : v'.typed = v.typed

/-- A report that is started takes no join up. -/
theorem Kicked.start {v : JoinState} (idle : v.wantConnect = false) (kind : JobKind)
    (argv : List Text) (child : Option Nat) : Kicked v (v.start kind argv child) := by
  cases child <;> exact ⟨by simp [JoinState.start, idle], idle, rfl, rfl, rfl⟩

/-- The join that was asked for is taken up, with the names that were kept for it. -/
theorem Kicked.connect {v : JoinState} {call : ConnectCall} (argv : List Text)
    (child : Option Nat) (wants : v.wantConnect = true)
    (passes : Passes call .pendSsid v.pendSsid.text) :
    Kicked v ({ v with wantConnect := false }.connect call argv child) := by
  have joined : ({ v with wantConnect := false }.connect call argv child).connectSsid =
      v.pendSsid := by
    have other : call.ssid ≠ Arg.var .connectSsid := by
      rw [passes.ssid]
      decide
    cases child <;> simp [JoinState.connect, JoinState.start, other, passes.ssidText]
  refine ⟨?_, ?_, ?_, ?_, ?_⟩
  · rw [joined, if_pos ⟨wants, passes.nonempty⟩]
  all_goals cases child <;> rfl

/-- A report starts one child at most, and leaves the rest of a join alone. -/
theorem startReport_joinState (h : Hud) (kind : JobKind) (argv : List Text) {retry : Hud → Hud}
    (sys : Sys) (quiet : ∀ g, Quiet g (retry g)) :
    ∃ child, (h.startReport kind argv retry sys).joinState = h.joinState.start kind argv child := by
  obtain ⟨child, joins, -⟩ := startNmcli_joinState kind argv sys.spawn h
  refine ⟨child, ?_⟩
  rw [← joins]
  unfold startReport
  simp only
  split
  · rfl
  · exact (quiet _).joins

/-- The radio is such a report. -/
theorem wifiRadio_joinState (h : Hud) (sys : Sys) :
    ∃ argv child, (h.wifiRadio sys).joinState = h.joinState.start .radio argv child :=
  ⟨_, h.startReport_joinState .radio _ sys fun _ => ⟨rfl, id, rfl⟩⟩

/-- So a report takes no join up, when none was asked for. -/
theorem startReport_kicked (h : Hud) (kind : JobKind) (argv : List Text) {retry : Hud → Hud}
    (sys : Sys) (idle : h.join.wantConnect = false) (quiet : ∀ g, Quiet g (retry g)) :
    Kicked h.joinState (h.startReport kind argv retry sys).joinState := by
  obtain ⟨child, joins⟩ := h.startReport_joinState kind argv sys quiet
  rw [joins]
  exact .start idle kind argv child

/-- **What `kick_pending` starts** is the join that waits, or a report when none does. -/
theorem kickPending_kicked (h : Hud) (sys : Sys) (valid : h.Valid) (free : h.job.pid = none) :
    Kicked h.joinState (h.kickPending sys).joinState := by
  unfold kickPending
  rw [if_neg (not_not.mpr free), if_neg (by simp [valid.2.2])]
  by_cases wants : h.join.wantConnect = true
  · rw [if_pos wants]
    by_cases empty : h.bufs.pendSsid.text = []
    · have refused : Hud.wifiConnect (.var .pendSsid) (.var .pendPass) (.var .pendSec) sys
          { h with join.wantConnect := false } = { h with join.wantConnect := false } := if_pos empty
      rw [refused]
      exact ⟨by simp [joinState, empty], rfl, rfl, rfl, rfl⟩
    · have callable : Callable { h with join.wantConnect := false } .pendSsid (.var .pendPass)
          (.var .pendSec) :=
        ⟨by simp, by decide, by decide, h.bufs.pendPass.fits, h.bufs.pendSec.fits⟩
      obtain ⟨argv, child, joins, -, -⟩ :=
        wifiConnect_joinState sys callable empty fun running => running.1 free
      rw [joins]
      exact Kicked.connect argv child wants (callOf_passes _ _ _ _ empty)
  · have idle : h.join.wantConnect = false := by simpa using wants
    rw [if_neg wants]
    split_ifs
    · exact startReport_kicked { h with want.scan := false } _ _ _ idle fun _ => ⟨rfl, id, rfl⟩
    · exact startReport_kicked { h with want.link := false } _ _ _ idle fun _ => ⟨rfl, id, rfl⟩
    · exact startReport_kicked { h with want.info := false } _ _ _ idle fun _ => ⟨rfl, id, rfl⟩
    · exact ⟨by simp [joinState, idle], idle, rfl, rfl, rfl⟩

end Hud

/-! ## Runs -/

/-- The blank state is well formed. -/
theorem Boot.blank_wellFormed (boot : Boot) : boot.blank.WellFormed where
  valid := ⟨nofun, nofun, rfl⟩
  sound := ⟨Cells.zero_text, rfl, Nat.succ_pos 63, fun running => absurd rfl running.1⟩

/-- Before the first report is asked for, the start of the program is quiet. -/
theorem Boot.hud_radio (boot : Boot) :
    ∃ h : Hud, boot.blank.Quiet h ∧ (h.wifiRadio boot.sys).Quiet boot.hud := by
  have configured := (boot.blank.loadHudConf_quiet boot.lang boot.bl).trans
    (Hud.findBacklight_handles _ boot.backlight).quiet
  unfold Boot.hud
  simp only
  generalize (boot.blank.loadHudConf boot.lang boot.bl).findBacklight boot.backlight = g at configured ⊢
  have reset : Hud.Quiet g { g.resetTouch with touch.mtNslots := boot.nslots } := ⟨rfl, id, rfl⟩
  generalize { g.resetTouch with touch.mtNslots := boot.nslots } = k at reset ⊢
  have sampled := (((k.sysfsWifi_quiet boot.sample.ifacePresent boot.sample.ifaceFound).trans
    (Hud.sampleLink_quiet _ boot.sample.up boot.sample.ip)).trans
    (Hud.sampleIp_quiet _ boot.sample.ip boot.sample.gw)).trans
    (Hud.sampleSignal_quiet _ boot.sample.wireless)
  exact ⟨_, configured.trans (reset.trans sampled), ⟨rfl, id, rfl⟩⟩

/-- The join machine starts with the start of the first report. -/
theorem Boot.hud_joinState (boot : Boot) :
    ∃ argv child, boot.hud.joinState = boot.blank.joinState.start .radio argv child := by
  obtain ⟨h, quiet, started⟩ := boot.hud_radio
  obtain ⟨argv, child, joins⟩ := h.wifiRadio_joinState boot.sys
  refine ⟨argv, child, ?_⟩
  rw [started.joins, joins, quiet.joins]

/-- So is the state in which the loop starts. -/
theorem Boot.hud_wellFormed (boot : Boot) : boot.hud.WellFormed := by
  obtain ⟨h, quiet, started⟩ := boot.hud_radio
  have refines : boot.blank.Refines boot.hud :=
    ((h.wifiRadio_refines boot.sys).trans started.refines).after quiet
  exact refines.wellFormed boot.blank_wellFormed

namespace Hud

/-- **A run keeps a state well formed.** -/
theorem run_wellFormed {h : Hud} (wf : h.WellFormed) (events : List Event) :
    (Transition.run step h events).WellFormed := by
  have preserves : ∀ g event, WellFormed g → WellFormed (step g event) :=
    fun g event before => step_wellFormed before event
  exact Transition.run_of_invariant preserves wf events

/-- The state of some run. -/
def Reachable (h : Hud) : Prop := ∃ boot events, Transition.run step (Boot.hud boot) events = h

/-- Every reachable state is well formed. -/
theorem Reachable.wellFormed {h : Hud} (reachable : h.Reachable) : h.WellFormed := by
  obtain ⟨boot, events, rfl⟩ := reachable
  exact run_wellFormed boot.hud_wellFormed events

end Hud

namespace JoinState

/-- An invariant of the join machine. -/
structure Invariant (predicate : JoinState → Prop) : Prop where
  blank : ∀ boot : Boot, predicate boot.blank.joinState
  move : ∀ v v', v.Sound → Move v v' → predicate v → predicate v'
  opened : ∀ v shown, v.Sound → v.InFlight → v.Offers shown → predicate v →
    predicate (v.openPass shown)

variable {predicate : JoinState → Prop}

/-- An invariant of the moves holds after several. -/
theorem Invariant.moves (invariant : Invariant predicate) {v v' : JoinState} (sound : v.Sound)
    (moves : Moves v v') (holds : predicate v) : predicate v' := by
  have keeps : ∀ first second, Move first second → first.Sound ∧ predicate first →
      second.Sound ∧ predicate second := fun first second move kept =>
    ⟨move.sound kept.1, invariant.move first second kept.1 move kept.2⟩
  exact (Moves.keep keeps moves ⟨sound, holds⟩).2

theorem Invariant.step (invariant : Invariant predicate) {h : Hud} (wf : h.WellFormed)
    (event : Event) (holds : predicate h.joinState) : predicate (h.step event).joinState := by
  cases opens : h.opensPass event with
  | none => exact invariant.moves wf.sound (h.step_refines opens wf).2 holds
  | some shown =>
      obtain ⟨g, sys, opened, joins, stepped, running⟩ := Hud.step_opens wf opens
      rw [stepped]
      apply invariant.moves opened.sound (g.kickPending_refines sys opened).2
      rw [joins]
      exact invariant.opened _ shown wf.sound running (Hud.opensPass_offers opens) holds

/-- And it holds at the start when it holds of the blank state. -/
theorem Invariant.boot (invariant : Invariant predicate) (boot : Boot) :
    predicate boot.hud.joinState := by
  obtain ⟨argv, child, joins⟩ := boot.hud_joinState
  have other : JobKind.radio ≠ .connect := by decide
  rw [joins]
  exact invariant.move _ _ boot.blank_wellFormed.sound
    (.started _ .radio argv child other fun _ => rfl) (invariant.blank boot)

/-- **An invariant of the join machine holds throughout every run of the HUD.** -/
theorem Invariant.always (invariant : Invariant predicate) (boot : Boot) (events : List Event) :
    Transition.Always Hud.step (fun h => h.WellFormed ∧ predicate h.joinState) boot.hud events := by
  refine Transition.always_of_invariant (fun h event kept => ?_) ?_ events
  · exact ⟨Hud.step_wellFormed kept.1 event, invariant.step kept.1 event kept.2⟩
  · exact ⟨boot.hud_wellFormed, invariant.boot boot⟩

end JoinState

end Ginkgo
