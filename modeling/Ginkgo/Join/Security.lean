import Ginkgo.Join.Arguments

/-!
# The security of the tapped row

A tap on a row of the list copies the row's security to the selection, but
`wifi_join_picked` looks the selected name up in the list again and takes the first row
of that name. Until the user is back on the list, nothing but the end of a connect job
changes the selected name (`Ginkgo.Hud.run_keeps`), so a join is sent with the security
of the tapped row exactly when the first row of its name has the same one
(`Ginkgo.Hud.joinPicked_security_iff`).
-/

namespace Ginkgo

open CText Transition

/-- The security of the first row of a name. -/
def securityOf (listing : List (Buf 96 × Buf 40)) (ssid : Text) : Option Text :=
  (listing.find? fun row => row.1.text = ssid).map fun row => row.2.text

namespace Hud

/-- The selected name and the listing stay. -/
structure Keeps (h h' : Hud) : Prop where
  selected : h'.scan.selectedSsid = h.scan.selectedSsid
  listing : h'.listing = h.listing

variable {h h' h'' : Hud} {sys : Sys}

theorem Keeps.refl (h : Hud) : Keeps h h := ⟨rfl, rfl⟩

/-- Two changes that keep both, one after the other. -/
theorem Keeps.trans (first : Keeps h h') (second : Keeps h' h'') : Keeps h h'' :=
  ⟨second.selected.trans first.selected, second.listing.trans first.listing⟩

theorem Keeps.ite {condition : Prop} [Decidable condition] (yes : condition → Keeps h h')
    (no : ¬condition → Keeps h h'') : Keeps h (if condition then h' else h'') := by
  split
  · exact yes ‹_›
  · exact no ‹_›

/-- A change that leaves the scan data keeps both. -/
theorem Keeps.of_scan (same : h'.scan = h.scan) : Keeps h h' := by
  refine ⟨by rw [same], ?_⟩
  rw [Hud.listing, same]
  rfl

/-- A change outside the scan data may come first. -/
theorem Keeps.after (keeps : Keeps h' h'') (same : h'.scan = h.scan) : Keeps h h'' :=
  .trans (.of_scan same) keeps

/-- A change that is quiet for the joins keeps both. -/
theorem Quiet.keeps (quiet : Quiet h h') : Keeps h h' :=
  ⟨congrArg JoinState.selectedSsid quiet.joins, quiet.listing⟩

/-! ## Starts and joins -/

/-- Starting a child keeps both. -/
theorem startNmcli_keeps (kind : JobKind) (argv : List Text) (spawn : Spawn) (h : Hud) :
    Keeps h (startNmcli kind argv spawn h).1 := by
  obtain ⟨child, -, -, -, -, scan⟩ := startNmcli_joinState kind argv spawn h
  exact .of_scan scan

/-- A report keeps both, when its second attempt does. -/
theorem startReport_keeps (h : Hud) {kind : JobKind} {argv : List Text} {retry : Hud → Hud}
    (sys : Sys) (plain : ∀ g, (retry g).scan = g.scan) :
    Keeps h (h.startReport kind argv retry sys) := by
  have started := startNmcli_keeps kind argv sys.spawn h
  unfold startReport
  simp only
  exact .ite (fun _ => started) fun _ => started.trans (.of_scan (plain _))

/-- `wifi_info` keeps both. -/
theorem wifiInfo_keeps (h : Hud) (sys : Sys) : Keeps h (h.wifiInfo sys) :=
  h.startReport_keeps sys fun _ => rfl

/-- `wifi_scan` keeps both until its answer is there. -/
theorem wifiScan_keeps (h : Hud) (sys : Sys) : Keeps h (h.wifiScan sys) :=
  h.startReport_keeps sys fun _ => rfl

/-- `wifi_link` keeps both. -/
theorem wifiLink_keeps (h : Hud) (sys : Sys) : Keeps h (h.wifiLink sys) :=
  h.startReport_keeps sys fun _ => rfl

/-- A queued join keeps both. -/
theorem queueConnect_keeps (h : Hud) (ssid pass sec : Arg) :
    Keeps h (h.queueConnect ssid pass sec) := by
  refine .of_scan ?_
  unfold queueConnect
  simp only [snprintf_scan]

/-- A call of `wifi_connect` keeps both. -/
theorem wifiConnect_keeps (h : Hud) (ssid pass sec : Arg) (sys : Sys) :
    Keeps h (h.wifiConnect ssid pass sec sys) := by
  have begun : Keeps h (h.beginConnect ssid) := .of_scan beginConnect_scan
  unfold wifiConnect
  refine .ite (fun _ => .refl h) fun _ => ?_
  simp only
  refine .ite (fun _ => .ite (fun _ => ?_) fun _ => ?_) fun _ => ?_
  · exact begun.trans (.of_scan rfl)
  · exact begun.trans ((queueConnect_keeps _ ssid pass sec).trans (.of_scan rfl))
  · have filled : Keeps (h.beginConnect ssid) ((h.beginConnect ssid).fillArgv ssid pass sec) := by
      refine .of_scan ?_
      unfold fillArgv
      simp only [snprintf_scan]
    refine begun.trans (filled.trans ?_)
    generalize (h.beginConnect ssid).fillArgv ssid pass sec = g
    have noted (obs : Obs) : Keeps g (g.observe obs) := .of_scan rfl
    exact (noted _).trans (startNmcli_keeps _ _ _ _)

/-- `wifi_submit_pass` keeps both. -/
theorem wifiSubmitPass_keeps (h : Hud) (sys : Sys) : Keeps h (h.wifiSubmitPass sys) := by
  unfold wifiSubmitPass
  simp only
  refine .ite (fun _ => .refl h) fun _ => .ite (fun _ => .of_scan rfl) fun _ =>
    .ite (fun _ => .of_scan rfl) fun _ => ?_
  have remembered : Keeps h ({ h with join.connectNeedPass := true }.rememberPsk
      (Hud.load { h with join.connectNeedPass := true } h.gwPassSsid) h.osk.password.text) := by
    refine Keeps.trans ?_ (rememberPsk_quiet _ _ _).keeps
    exact .of_scan rfl
  exact .ite (fun _ => remembered.trans (queueConnect_keeps _ _ _ _))
    fun _ => remembered.trans (wifiConnect_keeps _ _ _ _ sys)

/-- `wifi_join_picked` keeps both. -/
theorem wifiJoinPicked_keeps (h : Hud) (sys : Sys) : Keeps h (h.wifiJoinPicked sys) := by
  unfold wifiJoinPicked
  simp only
  refine .ite (fun _ => .refl h) fun _ => .ite (fun _ => .refl h) fun _ =>
    .ite (fun _ => .of_scan rfl) fun _ => .ite (fun _ => ?_) fun _ => ?_
  · exact (wifiConnect_keeps _ _ _ _ sys).after rfl
  · exact (wifiConnect_keeps _ _ _ _ sys).after rfl

/-- The start of a forget keeps both. -/
theorem beginForget_keeps (h : Hud) (ssid : Text) : Keeps h (h.beginForget ssid) := by
  obtain ⟨begun, quiet, scan, -⟩ := h.beginForget_quiet ssid
  exact quiet.keeps.after scan

/-- `wifi_forget` keeps both until it has succeeded. -/
theorem wifiForget_keeps (h : Hud) (ssid : Text) (sys : Sys) : Keeps h (h.wifiForget ssid sys) := by
  unfold wifiForget
  refine .ite (fun _ => .refl h) fun _ => .ite (fun _ => .refl h) fun _ => ?_
  have begun := h.beginForget_keeps ssid
  simp only
  generalize h.beginForget ssid = g at begun
  have aborted : Keeps g (if g.job.pid ≠ none ∧ g.job.kind ≠ .forget then g.abortJob else g) := by
    refine .ite (fun _ => ?_) fun _ => .refl g
    unfold abortJob
    exact .ite (fun _ => .refl g) fun _ => .of_scan rfl
  refine begun.trans (aborted.trans ?_)
  generalize (if g.job.pid ≠ none ∧ g.job.kind ≠ .forget then g.abortJob else g) = k
  have started := startNmcli_keeps .forget (forgetArgv (.print 96 ssid) (.print 32 k.wifi.iface.text))
    sys.spawn k
  exact .ite (fun _ => .refl k) fun _ =>
    .ite (fun _ => started) fun _ => started.trans (.of_scan rfl)

/-- `kick_pending` keeps both. -/
theorem kickPending_keeps (h : Hud) (sys : Sys) : Keeps h (h.kickPending sys) := by
  unfold kickPending
  refine .ite (fun _ => .refl h) fun _ => .ite (fun _ => ?_) fun _ => .ite (fun _ => ?_) fun _ =>
    .ite (fun _ => ?_) fun _ => .ite (fun _ => ?_) fun _ => .ite (fun _ => ?_) fun _ => .refl h
  · exact (wifiForget_keeps _ _ sys).after rfl
  · exact (wifiConnect_keeps _ _ _ _ sys).after rfl
  · exact (wifiScan_keeps _ sys).after rfl
  · exact (wifiLink_keeps _ sys).after rfl
  · exact (wifiInfo_keeps _ sys).after rfl

/-- The timers of the loop keep both. -/
theorem schedule_keeps (h : Hud) (now : Nat) (sys : Sys) : Keeps h (h.schedule now sys) := by
  unfold schedule
  refine .ite (fun _ => .ite (fun _ => ?_) fun _ => .ite (fun _ => ?_) fun _ => .refl h)
    fun _ => .refl h
  · exact (h.wifiScan_keeps sys).trans (.of_scan rfl)
  · exact (h.wifiInfo_keeps sys).trans (.of_scan rfl)

/-- A join that is confirmed or given up keeps both. -/
theorem maybeConfirmJoin_keeps (h : Hud) (now : Nat) : Keeps h (h.maybeConfirmJoin now) := by
  unfold maybeConfirmJoin
  refine .ite (fun _ => .refl h) fun _ => .ite (fun _ => ?_) fun _ =>
    .ite (fun _ => .refl h) fun _ => ?_
  · unfold joinConfirmed
    refine Keeps.trans (Keeps.trans ?_ (markApActive_quiet _ _).keeps) (.of_scan rfl)
    exact .of_scan rfl
  · unfold joinTimedOut
    simp only
    refine Keeps.trans (Keeps.trans ?_ (fillFailStatus_quiet _ _ _).keeps)
      (.ite (fun _ => .of_scan rfl) fun _ => .refl _)
    exact .of_scan rfl

/-! ## Taps away from the list -/

/-- A key keeps both. -/
theorem oskActivate_keeps (h : Hud) (k : OskKey) (sys : Sys) : Keeps h (h.oskActivate k sys) := by
  have fed (g : Hud) (c : UInt8) : Keeps g (g.oskFeed c) :=
    .ite (fun _ => .refl g) fun _ => .of_scan rfl
  unfold oskActivate
  cases k.kind with
  | char => exact (fed h k.ch).trans (.ite (fun _ => .of_scan rfl) fun _ => .refl _)
  | shift => exact .of_scan rfl
  | sym => exact .of_scan rfl
  | more => exact .of_scan rfl
  | space => exact fed h 32
  | bksp => exact .ite (fun _ => .of_scan rfl) fun _ => .refl h
  | go => exact h.wifiSubmitPass_keeps sys

/-- So does one that is let go. -/
theorem oskOnUp_keeps (h : Hud) (x y : Int) (sys : Sys) : Keeps h (h.oskOnUp x y sys).1 := by
  unfold oskOnUp
  split
  · exact .refl h
  · apply h.layoutKeys_handles.quiet.keeps.trans
    generalize h.layoutKeys = g
    simp only
    generalize (g.oskKeyAt x y <|> g.osk.hi) = hit
    have released (k : Hud) : Keeps k { k with osk.held := false, osk.hi := none } := .of_scan rfl
    refine Keeps.trans ?_ (released _)
    cases hit.bind fun i => g.osk.keys[i]? with
    | none => exact .refl g
    | some k => exact g.oskActivate_keeps k sys

/-- A tap away from the list keeps both. -/
theorem tap_keeps (h : Hud) (x y : Int) (sys : Sys) (away : h.ui.sheetTgt ≠ .list) :
    Keeps h (h.tap x y sys) := by
  have noted : Keeps h (h.observe (.tap x y)) := .of_scan rfl
  have elsewhere : (h.observe (.tap x y)).ui.sheetTgt ≠ .list := away
  unfold tap
  simp only
  apply noted.trans
  generalize h.observe (.tap x y) = g at elsewhere
  refine .ite (fun _ => ?lang) fun _ => .ite (fun _ => ?pass) fun _ => .ite (fun _ => ?detail)
    fun _ => .ite (fun shown => absurd shown.2 elsewhere) fun _ => ?home
  case lang => exact g.tapLang_quiet.keeps
  case pass =>
    unfold tapPass
    exact .ite (fun _ => .of_scan rfl) fun _ =>
      .ite (fun _ => g.wifiSubmitPass_keeps sys) fun _ => .refl g
  case detail =>
    unfold tapDetail
    refine .ite (fun _ => ?_) fun _ => .ite (fun _ => g.wifiJoinPicked_keeps sys) fun _ =>
      .ite (fun _ => ?_) fun _ => .refl g
    · exact .ite (fun _ => .refl g) fun _ => .of_scan rfl
    · exact .ite (fun _ => g.wifiForget_keeps _ sys) fun _ => .refl g
  case home =>
    have opened : Keeps g { g with ui.sheetTgt := .list } := .of_scan rfl
    unfold tapHome
    exact .ite (fun _ => .ite (fun _ => .refl g) fun _ => opened.trans
      (.ite (fun _ => wifiScan_keeps _ sys) fun _ => .refl _)) fun _ => .refl g

/-- A contact that ends away from the list keeps both. -/
theorem contactUp_keeps (h : Hud) (dev : Dev) (armed : Bool) (env : EvEnv)
    (away : h.ui.sheetTgt ≠ .list) : Keeps h (h.contactUp dev armed env) := by
  have committed : Quiet h (if h.light.draggingBl then h.commitBl else h) :=
    .ite h.commitBl_handles.quiet (.refl h)
  unfold contactUp
  simp only
  apply committed.keeps.trans
  have same := congrArg JoinState.sheetTgt committed.joins
  generalize (if h.light.draggingBl then h.commitBl else h) = g at same
  have elsewhere : g.ui.sheetTgt ≠ .list := fun onList => away (same.symm.trans onList)
  exact .ite (fun _ => g.oskOnUp_keeps _ _ _) fun _ =>
    .ite (fun _ => g.tap_keeps _ _ _ elsewhere) fun _ => .refl g

/-- Every input that finds another sheet open keeps both. -/
theorem handleEv_keeps (h : Hud) (dev : Dev) (ev : Ev) (env : EvEnv)
    (away : h.ui.sheetTgt ≠ .list) : Keeps h (h.handleEv dev ev env) := by
  cases found : h.evEnd dev ev env with
  | none => exact (handleEv_handles found).quiet.keeps
  | some c =>
      obtain ⟨before, after⟩ := handleEv_ends found
      have elsewhere : c.hud.ui.sheetTgt ≠ .list := before.sheetTgt ▸ away
      have lifted : Keeps c.hud c.up := c.hud.contactUp_keeps c.dev c.armed c.env elsewhere
      exact before.quiet.keeps.trans (lifted.trans after.quiet.keeps)

/-! ## Between the tap and the join -/

/-- A connect job that does not open the password sheet. -/
theorem connectDone_keeps (now : Nat) (retry : Sys) {rc : Nat} {out : Text}
    (calm : h.opensAfter rc out = none) : Keeps h (h.closeJob.connectDone now retry rc out) := by
  have same : h.closeJob.connectIn rc out = h.connectIn rc out := rfl
  have ended : Keeps h (h.closeJob.endConnect out) := .of_scan rfl
  unfold opensAfter at calm
  unfold connectDone
  simp only [same]
  apply ended.trans
  generalize h.closeJob.endConnect out = g
  cases act : gwOnConnectJob (h.connectIn rc out) with
  | success => exact (maybeConfirmJoin_keeps _ now).after rfl
  | openPass => simp [act] at calm
  | wrongPass => simp [act] at calm
  | retryPsk => exact (wifiConnect_keeps _ _ _ _ retry).after rfl
  | waitPending => exact .of_scan rfl
  | fail => exact g.showFailure_quiet.keeps.trans (.ite (fun _ => .refl _) fun _ => .of_scan rfl)

/-- The end of a scan keeps the selected name, whatever it lists. -/
theorem scanDone_selected (h : Hud) (now : Nat) (out : Text) :
    (h.scanDone now out).scan.selectedSsid = h.scan.selectedSsid := by
  have scanned : (h.parseScan out).scan.selectedSsid = h.scan.selectedSsid :=
    congrArg JoinState.selectedSsid (h.parseScan_joins out).1
  unfold scanDone
  rw [(maybeConfirmJoin_keeps _ now).selected, ← scanned]
  exact congrArg JoinState.selectedSsid
    (Quiet.ite (setStatus_quiet _ _) (.ite (setStatus_quiet _ _) (.refl _))).joins

/-- The end of a device list keeps both. -/
theorem infoDone_keeps (h : Hud) (now : Nat) (out : Text) : Keeps h (h.infoDone now out) := by
  unfold infoDone
  refine (h.parseInfo_quiet now out).keeps.trans (Keeps.trans ?_ (maybeConfirmJoin_keeps _ now))
  exact .ite (fun _ => .of_scan rfl) fun _ => .refl _

/-- The end of a link report keeps both. -/
theorem linkDone_keeps (h : Hud) (now : Nat) (out : Text) : Keeps h (h.linkDone now out) := by
  unfold linkDone
  refine (h.parseLink_quiet out).keeps.trans ((maybeConfirmJoin_keeps _ now).trans ?_)
  exact .ite (fun _ => .of_scan rfl) fun _ => .refl _

/-- The end of a forget keeps both. -/
theorem forgetDone_keeps (h : Hud) (rc : Nat) (out : Text) : Keeps h (h.forgetDone rc out) := by
  have ended : Keeps h { h with forget.forgetting := false } := .of_scan rfl
  unfold forgetDone
  apply ended.trans
  generalize { h with forget.forgetting := false } = g
  refine .ite (fun _ => ?_) fun _ => ?_
  · simp only
    generalize g.forget.forgetSsid.text = forgot
    generalize g.scan.selectedSsid.text = selected
    have marked := g.markApInactive_quiet (if forgot ≠ [] then forgot else selected)
    have forgotten := marked.trans
      ((dropForgotten_quiet _ forgot selected).trans (forgetPsk_quiet _ selected))
    exact forgotten.keeps.trans (.of_scan rfl)
  · exact (g.setConnectStatus_quiet _).keeps.trans (.of_scan rfl)

/-- The end of a job keeps the selected name, unless it opens the password sheet. -/
theorem pollJob_selected (h : Hud) (poll : Poll) (calm : h.opensPass (.poll poll) = none) :
    (h.pollJob poll).scan.selectedSsid = h.scan.selectedSsid := by
  by_cases free : h.job.pid = none
  · rw [pollJob, if_pos free]
  unfold opensPass at calm
  cases ended : poll.exit with
  | none =>
      rw [pollJob, if_neg free]
      simp only [ended]
      rfl
  | some exit =>
      rw [pollJob_ended free ended, (kickPending_keeps _ poll.kick).selected]
      simp only [ended] at calm
      let read := (h.readJob poll.first).readJob poll.rest
      change _ = read.closeJob.scan.selectedSsid
      cases kind : h.job.kind with
      | radio => rfl
      | info => exact (read.closeJob.infoDone_keeps _ _).selected
      | scan =>
          change (read.closeJob.scanDone poll.now (h.collected poll)).scan.selectedSsid = _
          exact read.closeJob.scanDone_selected _ _
      | connect =>
          rw [if_pos ⟨free, kind⟩] at calm
          exact (connectDone_keeps (h := read) _ _ calm).selected
      | link => exact (read.closeJob.linkDone_keeps _ _).selected
      | forget => exact (read.closeJob.forgetDone_keeps _ _).selected

/-- What may happen between the tap and the join: frames, the user's fingers away from the
list, and ends of jobs that bring the same listing and do not open the password sheet. -/
def Between (h : Hud) : Event → Prop
  | .input _ => h.ui.sheetTgt ≠ .list
  | .poll poll => h.opensPass (.poll poll) = none ∧ (h.pollJob poll).listing = h.listing
  | _ => True

instance (h : Hud) : (event : Event) → Decidable (h.Between event)
  | .input _ => inferInstanceAs (Decidable (_ ≠ _))
  | .poll _ => inferInstanceAs (Decidable (_ ∧ _))
  | .idleOff _ | .confirm _ | .animate _ | .render | .sample _ | .kick _ | .schedule _ _ =>
      .isTrue trivial

/-- **A step between the tap and the join keeps both.** -/
theorem step_keeps (h : Hud) (event : Event) (between : h.Between event) :
    Keeps h (h.step event) := by
  cases event with
  | input input => exact h.handleEv_keeps input.dev input.ev input.env between
  | idleOff now => exact (h.idleOff_handles now).quiet.keeps
  | poll poll => exact ⟨h.pollJob_selected poll between.1, between.2⟩
  | confirm now => exact h.maybeConfirmJoin_keeps now
  | animate animation =>
      exact ((h.animateSheet_handles animation).trans (animateList_handles _ _)).quiet.keeps
  | render => exact h.render_quiet.keeps
  | sample sample => exact (h.sampleAll_quiet sample).keeps
  | kick sys => exact h.kickPending_keeps sys
  | schedule now sys => exact h.schedule_keeps now sys

/-- **Between the tap and the join the selected name and the listing stay.** -/
theorem run_keeps {events : List Event} (between : EachStep step Between h events) :
    Keeps h (run step h events) := by
  induction events generalizing h with
  | nil => exact .refl h
  | cons event events ih => exact (h.step_keeps event between.1).trans (ih between.2)

/-! ## The join -/

/-- The picked security is that of the first row of the selected name. -/
theorem load_pickedSec (idle : h.join.connecting = false)
    (selected : h.scan.selectedSsid.text ≠ []) {sec : Text}
    (listed : securityOf h.listing h.scan.selectedSsid.text = some sec) :
    h.load h.pickedSec = sec := by
  have picked : h.pickedSsid = h.scan.selectedSsid.text := by
    simp [pickedSsid, idle, selected]
  rw [securityOf, Hud.listing, List.find?_map, Option.map_map, Option.map_eq_some_iff] at listed
  obtain ⟨ap, found, rfl⟩ := listed
  obtain ⟨same, i, inside, rfl, earlier⟩ := List.find?_eq_some_iff_getElem.mp found
  have first : h.findAp h.pickedSsid = some i := by
    rw [picked, findAp, findApIn_eq_some_iff]
    refine ⟨selected, inside, by simpa using same, fun j before => ?_⟩
    simpa using earlier j before
  rw [pickedSec, first]
  simp [load, inside]

/-- Whether the join needs a password is not among what a call reads. -/
theorem load_connectNeedPass (h : Hud) (need : Bool) (arg : Arg) :
    Hud.load { h with join.connectNeedPass := need } arg = h.load arg := by
  cases arg with
  | var name => cases name <;> rfl
  | _ => rfl

/-- A call that finds no connect job and no empty name is recorded with its security. -/
theorem wifiConnect_calls {array : Var} {pass sec : Arg} (callable : Callable h array pass sec)
    (nonempty : h.load (.var array) ≠ []) (free : ¬h.connectInFlight) (sys : Sys) :
    ∃ call, connectCalls (h.wifiConnect (.var array) pass sec sys).trace =
      call :: connectCalls h.trace ∧ call.secText = h.load sec := by
  obtain ⟨argv, child, joins, -⟩ := wifiConnect_joinState sys callable nonempty free
  refine ⟨h.callOf (.var array) pass sec, ?_, rfl⟩
  have trace := congrArg JoinState.trace joins
  change connectCalls (h.wifiConnect (.var array) pass sec sys).joinState.trace = _
  rw [trace]
  cases child <;> rfl

/-- A call for the selected network is recorded with the picked security. -/
theorem picked_call (wf : h.WellFormed) (idle : h.join.connecting = false)
    (selected : h.scan.selectedSsid.text ≠ []) (need : Bool) (pass : Arg) (steady : pass.Steady)
    (fits : (h.load pass).length < 64) (sys : Sys) :
    ∃ call, connectCalls (Hud.wifiConnect (.var .selectedSsid) pass h.pickedSec sys
        { h with join.connectNeedPass := need }).trace = call :: connectCalls h.trace ∧
      call.secText = h.load h.pickedSec := by
  have free : ¬h.connectInFlight := by
    intro running
    have busy : h.join.connecting = true := (wf.sound.busy running).1
    rw [idle] at busy
    cases busy
  have callable : Callable { h with join.connectNeedPass := need } .selectedSsid pass h.pickedSec :=
    ⟨by simp, steady, h.pickedSec_steady, by rwa [load_connectNeedPass], h.load_pickedSec_fits _⟩
  rw [← load_connectNeedPass h need h.pickedSec]
  exact wifiConnect_calls callable selected free sys

/-- A join from the detail sheet makes one call at most, with the picked security. -/
theorem wifiJoinPicked_calls (wf : h.WellFormed) (sys : Sys) :
    connectCalls (h.wifiJoinPicked sys).trace = connectCalls h.trace ∨
      h.join.connecting = false ∧ h.scan.selectedSsid.text ≠ [] ∧
        ∃ call, connectCalls (h.wifiJoinPicked sys).trace = call :: connectCalls h.trace ∧
          call.secText = h.load h.pickedSec := by
  unfold wifiJoinPicked
  simp only
  by_cases refused : h.scan.selectedSsid.text = [] ∨ h.join.connecting ∨ h.forget.forgetting
  · rw [if_pos refused]
    exact .inl rfl
  rw [if_neg refused]
  simp only [not_or, Bool.not_eq_true] at refused
  obtain ⟨selected, idle, -⟩ := refused
  split_ifs with current enterprise known
  · exact .inl rfl
  · exact .inl rfl
  · have called := picked_call wf idle selected true (.var .knownPsk) (by decide)
      h.bufs.knownPsk.fits sys
    exact .inr ⟨idle, selected, called⟩
  · have called := picked_call wf idle selected false (.lit []) (by decide) (Nat.succ_pos 63) sys
    exact .inr ⟨idle, selected, called⟩

/-- What a tap on a row selects. -/
theorem tapSelect_selects (h : Hud) {i : Nat} (inside : i < h.scan.aps.length) :
    (h.tapSelect i).scan.selectedSsid = h.scan.aps[i].ssid ∧
      (h.tapSelect i).listing = h.listing := by
  unfold tapSelect selectApIdx
  simp only [List.getElem?_eq_getElem inside]
  split <;> exact ⟨Buf.print_text _, rfl⟩

/-- A listed row has a first row of its name. -/
theorem exists_securityOf (h : Hud) {i : Nat} (inside : i < h.scan.aps.length) :
    ∃ sec, securityOf h.listing h.scan.aps[i].ssid.text = some sec := by
  have listed : h.scan.aps[i] ∈ h.scan.aps := List.getElem_mem inside
  rw [← Option.isSome_iff_exists, securityOf, Option.isSome_map, List.find?_isSome]
  exact ⟨_, List.mem_map_of_mem listed, by simp⟩

/-- **A join gets the security of the tapped row exactly when the first row of its name has
it.** The row is tapped in any reachable state that shows the list, and the join follows
after any number of frames, rescans that return the same list and touches away from the
list. -/
theorem joinPicked_security_iff (reachable : h.Reachable) {i : Nat}
    (inside : i < h.scan.aps.length) (onList : h.ui.sheetTgt = .list) {between : List Event}
    (steady : EachStep step Between (h.tapSelect i) between) (sys : Sys) {call : ConnectCall}
    (joins : connectCalls ((run step (h.tapSelect i) between).wifiJoinPicked sys).trace =
      call :: connectCalls (run step (h.tapSelect i) between).trace) :
    call.secText = h.scan.aps[i].security.text ↔
      securityOf h.listing h.scan.aps[i].ssid.text = some h.scan.aps[i].security.text := by
  have wf := reachable.wellFormed
  have tapped : (h.tapSelect i).WellFormed :=
    (h.tapSelect_refines i (by rw [onList]; decide)).wellFormed wf
  have later := run_wellFormed tapped between
  have kept := run_keeps steady
  obtain ⟨selected, listing⟩ := h.tapSelect_selects inside
  generalize run step (h.tapSelect i) between = g at *
  have name : g.scan.selectedSsid = h.scan.aps[i].ssid := kept.selected.trans selected
  have listed : g.listing = h.listing := kept.listing.trans listing
  rcases wifiJoinPicked_calls later sys with none | ⟨idle, nonempty, made, calls, security⟩
  · rw [none] at joins
    exact absurd joins.symm (List.cons_ne_self call _)
  · have same : made = call := by
      rw [calls] at joins
      exact (List.cons.inj joins).1
    rw [same] at security
    rw [security]
    obtain ⟨sec, first⟩ := h.exists_securityOf inside
    have picked : g.load g.pickedSec = sec := by
      apply load_pickedSec idle nonempty
      rw [listed, name, first]
    rw [picked, first, Option.some.injEq]

/-- Two networks of one name, the first of them open, and a tap on the card that shows
them. -/
def twinFrames : List Frame :=
  let ok : Sys := { spawn := .child 7 }
  [.settled [] (.ended "" 0 ok) ok,
    .settled (tapInputs (.slotted 1080 2340) 500 400 1000000000 ok)
      (.ended "Cafe:70::2412 MHz:no\nCafe:60:WPA2:2412 MHz:no" 0 ok) ok,
    .settled [] (.running ok) ok]

/-- The list of the two. -/
@[irreducible] def twins : Hud :=
  run step (Boot.hud { W := 1080, H := 2340, sys := { spawn := .child 7 } }) (loopEvents twinFrames)

/-- The list is reached by a session. -/
theorem twins_reachable : twins.Reachable := by
  unfold twins
  exact ⟨_, _, rfl⟩

/-- It has a first row. -/
theorem twins_first : 0 < twins.scan.aps.length := by decide +kernel

theorem twins_second : 1 < twins.scan.aps.length := by decide +kernel

/-- A frame in which nothing is touched. -/
def calmFrame : Frame :=
  let ok : Sys := { spawn := .child 7 }
  .settled [] (.running ok) ok

/-- The call for either of the two. -/
def twinCall : ConnectCall where
  ssid := .var .selectedSsid
  pass := .lit []
  sec := .apSecurity 0
  ssidText := txt "Cafe"
  passText := []
  secText := []
  outcome := .argv (txt "Cafe") [] []

/-- The frame between the tap and the join. -/
theorem twins_between : EachStep step Between (twins.tapSelect 0) (loopEvents [calmFrame]) := by
  decide +kernel

/-- The first of the two is joined with its own security. -/
theorem joinPicked_security_iff_first :
    twinCall.secText = (getElem twins.scan.aps 0 twins_first).security.text ↔
      securityOf twins.listing (getElem twins.scan.aps 0 twins_first).ssid.text =
        some (getElem twins.scan.aps 0 twins_first).security.text := by
  have onList : twins.ui.sheetTgt = .list := by decide +kernel
  have joins : connectCalls ((run step (twins.tapSelect 0)
      (loopEvents [calmFrame])).wifiJoinPicked { spawn := .child 8 }).trace =
      twinCall :: connectCalls (run step (twins.tapSelect 0) (loopEvents [calmFrame])).trace := by
    decide +kernel
  exact joinPicked_security_iff twins_reachable twins_first onList twins_between _ joins

/-- A join that starts from the secured row of the two is sent without a security. -/
theorem joinPicked_other_security :
    ¬∀ (h : Hud), h.Reachable → ∀ (i : Nat) (inside : i < h.scan.aps.length),
      h.ui.sheetTgt = .list → ∀ between, EachStep step Between (h.tapSelect i) between →
      ∀ sys call, connectCalls ((run step (h.tapSelect i) between).wifiJoinPicked sys).trace =
        call :: connectCalls (run step (h.tapSelect i) between).trace →
      call.secText = h.scan.aps[i].security.text := by
  intro always
  have onList : twins.ui.sheetTgt = .list := by decide +kernel
  have steady : EachStep step Between (twins.tapSelect 1) (loopEvents [calmFrame]) := by
    decide +kernel
  have joins : connectCalls ((run step (twins.tapSelect 1)
      (loopEvents [calmFrame])).wifiJoinPicked { spawn := .child 8 }).trace =
      twinCall :: connectCalls (run step (twins.tapSelect 1) (loopEvents [calmFrame])).trace := by
    decide +kernel
  have same := always twins twins_reachable 1 twins_second onList _ steady _ twinCall joins
  have other : ¬(twinCall.secText = (getElem twins.scan.aps 1 twins_second).security.text) := by
    decide +kernel
  exact other same

end Hud

end Ginkgo
