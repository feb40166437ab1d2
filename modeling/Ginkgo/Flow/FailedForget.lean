import Ginkgo.Flow.Concealed
import Ginkgo.Reports.Confirm

/-!
# A failed forget

`wifi_forget` holds the network before its job is started, and neither of the failing ends lets
it go: not the one of a start that fails, and not the one of a job that ends with another status
than 0. A failed forget is undone exactly when the job has run and something else has released
the hold before its end (`Ginkgo.Hud.failed_forget_undone_iff`). A start that fails leaves the
network hidden (`Ginkgo.Hud.failed_forget_hidden`).
-/

namespace Ginkgo

open CText Transition

/-- The device list says that the radio is connected. -/
def SaysConnected (report : Text) : Prop :=
  Hud.infoError report = false ∧
    ((lines report).foldl Hud.parseInfoLine {}).sawWifi = true ∧
    ((lines report).foldl Hud.parseInfoLine {}).wifiUp = true

instance (report : Text) : Decidable (SaysConnected report) :=
  inferInstanceAs (Decidable (_ ∧ _ ∧ _))

namespace Hud

/-- What decides about a reported name is the same. -/
structure SameNames (h h' : Hud) : Prop where
  ssid : h'.wifi.ssid = h.wifi.ssid
  connectSsid : h'.bufs.connectSsid = h.bufs.connectSsid
  hold : h'.forget.forgetSsid = h.forget.forgetSsid

/-- **The forget of a network has left no trace**: it is over, its hold is gone, and the network
is shown as connected after a device list that says so and a report of its name. -/
structure ForgetUndone (h : Hud) (name : JoinedName) : Prop where
  ended : h.forget.forgetting = false
  released : h.forget.forgetSsid.text = []
  shown : ∀ g, SameNames h g → ∀ now devices, SaysConnected devices →
    ∀ k, SameNames (g.parseInfo now devices) k →
      k.wifi.connected = (g.parseInfo now devices).wifi.connected → ∀ report : LinkReport,
        (k.parseLink (report.text name)).wifi.connected = true ∧
          (k.parseLink (report.text name)).wifi.ssid.text = name.text ∧
          (k.parseLink (report.text name)).apIsCurrent name.text = true

/-- **The forget job of a network fails**: it cannot be started, or it ends with another status
than 0. -/
def ForgetFails (h : Hud) (event : Event) (ssid : Text) : Prop :=
  (∃ newer argv, startsOf (h.step event).trace = newer ++ startsOf h.trace ∧
      (.forget, argv, false) ∈ newer ∧ argv[3]? = some ssid) ∨
    ∃ poll exit, event = .poll poll ∧ poll.exit = some exit ∧ exit.rc ≠ 0 ∧
      h.job.pid ≠ none ∧ h.job.kind = .forget ∧ h.job.argv[3]? = some ssid

/-- A report of the name is ignored: a name of the same family is being joined, or a longer one
is live. -/
def setsAside (h : Hud) (name : Text) : Bool :=
  (h.bufs.connectSsid.text ≠ [] ∧ name ≠ h.bufs.connectSsid.text ∧
      (isSibling name h.bufs.connectSsid.text ∨ isSibling h.bufs.connectSsid.text name)) ∨
    isSibling name h.wifi.ssid.text

/-- The job has run, the hold is already gone, and the name can become the live one. -/
def Traceless (h : Hud) (event : Event) (name : JoinedName) : Prop :=
  (∃ poll, event = .poll poll) ∧ h.forget.forgetSsid.text = [] ∧
    if h.setsAside (cutAt carriageReturn name.text) then h.wifi.ssid.text = name.text
    else carriageReturn ∉ name.text

/-! ## What a step starts -/

/-- The end of a forget starts nothing. -/
theorem forgetDone_trace (h : Hud) (rc : Nat) (out : Text) :
    (h.forgetDone rc out).trace = h.trace := by
  obtain ⟨wifi, tAssoc, aps, active, ssid, psk, sheet, line, want, same, -⟩ :=
    h.forgetDone_writes rc out
  rw [same]

section

variable {h g g' : Hud} {event : Event}

/-- A change starts at most one job, and a forget only when it is asked for or queued. -/
def Starts (h : Hud) (event : Event) (g g' : Hud) : Prop :=
  startsOf g'.trace = startsOf g.trace ∨ ∃ kind argv started,
    startsOf g'.trace = (kind, argv, started) :: startsOf g.trace ∧
      (kind = .forget → (∃ ssid, h.request event = some (.forget ssid)) ∨ g.forget.wantForget = true)

/-- A call that starts a connect job starts no forget. -/
theorem Connects.starts {ssid : Arg} {k : Hud} (connects : Connects ssid k g')
    (past : startsOf k.trace = startsOf g.trace) : Starts h event g g' := by
  rcases connects.slot with ⟨-, -, -, same⟩ | ⟨-, -, -, argv, started, same⟩
  · exact .inl (same.trans past)
  · exact .inr ⟨.connect, argv, started, past ▸ same, fun kind => by cases kind⟩

/-- A call that forgets starts one forget. -/
theorem wifiForget_starts {k : Hud} (ssid : Text) (sys : Sys)
    (past : startsOf k.trace = startsOf g.trace)
    (asked : (∃ ssid, h.request event = some (.forget ssid)) ∨ g.forget.wantForget = true) :
    Starts h event g (k.wifiForget ssid sys) := by
  rcases k.wifiForget_cases ssid sys with same | ⟨-, d, -, -, argv, started, begun, ends⟩
  · exact .inl (by rw [same, past])
  · refine .inr ⟨.forget, argv, started, ?_, fun _ => asked⟩
    rw [past] at begun
    rcases ends with ⟨-, -, same⟩ | ⟨-, -, same⟩ <;> rw [same, ← begun]

/-- **What each change starts.** -/
theorem Effect.starts (effect : Effect h event g g') : Starts h event g g' := by
  cases effect with
  | still same => exact .inl same.softens.starts
  | submitted sys asked same =>
      cases g.wifiSubmitPass_submits sys with
      | refused same => exact .inl same.softens.starts
      | queued k free busy prepared launches slot past => exact .inl (past.trans prepared.past)
      | called ssid k free idle prepared connects => exact connects.starts prepared.past
  | joined sys asked same =>
      rcases g.wifiJoinPicked_cases sys with still | ⟨-, -, connects⟩
      · exact .inl still.softens.starts
      · exact connects.starts rfl
  | forgot ssid sys asked same => exact wifiForget_starts ssid.text sys rfl (.inl ⟨ssid, asked⟩)
  | reported kind argv spawn other nor =>
      refine .inr ⟨kind, argv, (startNmcli kind argv spawn g).2, ?_, fun same => absurd same nor⟩
      rw [startNmcli_snd]
      rfl
  | named name => exact .inl (g.applyWifiSsid_softens name).starts
  | closed => exact .inl rfl
  | informed now seen => exact .inl (g.applyInfo_softens now seen).starts
  | listed poll exit polled ended running kind => exact .inl (g.parseScan_softens _).starts
  | waited failed waits => exact .inl rfl
  | confirmed up =>
      unfold markApActive
      split <;> exact .inl rfl
  | ended out running => exact .inl rfl
  | succeeded out now running => exact .inl rfl
  | dropped ssid =>
      unfold forgetPsk
      split <;> exact .inl rfl
  | retried rc out sys running decided =>
      exact (connectRetryPsk_connects decided sys).starts rfl
  | forgetEnded rc out running kind =>
      exact .inl (congrArg startsOf (g.closeJob.forgetDone_trace rc out))
  | requeued sys wants => exact wifiForget_starts g.forget.pendForget.text sys rfl (.inr wants)
  | kicked sys free wants =>
      rcases wifiConnect_cases { g with join.wantConnect := false } (.var .pendSsid)
        (.var .pendPass) (.var .pendSec) sys with same | called
      · rw [same]
        exact .inl rfl
      · exact called.starts rfl

/-- None of the jobs started since is a forget. -/
def Unforgotten (h g : Hud) : Prop :=
  ∃ newer, startsOf g.trace = newer ++ startsOf h.trace ∧ ∀ start ∈ newer, start.1 ≠ .forget

/-- A step that is not asked to forget a network starts no forget. -/
theorem unasked_starts (exclusive : Exclusive h)
    (unasked : ∀ ssid, h.request event ≠ some (.forget ssid)) : Unforgotten h (h.step event) := by
  have keeps : ∀ g g', Effect h event g g' → Exclusive g → Unforgotten h g → Unforgotten h g' := by
    rintro g g' effect exclusive ⟨newer, past, others⟩
    rcases effect.starts with same | ⟨kind, argv, started, same, asks⟩
    · exact ⟨newer, same.trans past, others⟩
    · refine ⟨(kind, argv, started) :: newer, by rw [same, past, List.cons_append], ?_⟩
      intro start member
      rcases List.mem_cons.mp member with rfl | old
      · intro forget
        rcases asks forget with ⟨ssid, asked⟩ | wants
        · exact unasked ssid asked
        · rw [exclusive.unasked] at wants
          cases wants
      · exact others start old
  exact (step_exclusive_keeps keeps exclusive ⟨[], rfl, nofun⟩).2

end

/-! ## The end of a failed forget -/

/-- What leaves the network state alone launches nothing. -/
theorem Still.launches {h h' : Hud} (same : Still h h') : Launches h h' where
  net := by
    rw [same]
    have bufs : h'.bufs = h.bufs := congrArg NetView.bufs same
    have wants : h'.join.wantConnect = h.join.wantConnect := congrArg NetView.wantConnect same
    have pid : h'.job.pid = h.job.pid := congrArg NetView.pid same
    have kind : h'.job.kind = h.job.kind := congrArg NetView.kind same
    have starts : startsOf h'.trace = startsOf h.trace := congrArg NetView.starts same
    rw [bufs, wants, pid, kind, starts]
    rfl
  connectSsid := congrArg (fun view : NetView => view.bufs.connectSsid) same
  knownPskSsid := congrArg (fun view : NetView => view.bufs.knownPskSsid) same
  knownPsk := congrArg (fun view : NetView => view.bufs.knownPsk) same

/-- A report launches its child. -/
theorem startReport_launches (h : Hud) {kind : JobKind} {argv : List Text} {retry : Hud → Hud}
    (sys : Sys) (again : ∀ g, Still g (retry g)) :
    Launches h (h.startReport kind argv retry sys) := by
  have started := h.startNmcli_launches kind argv sys.spawn
  unfold startReport
  simp only
  split
  · exact started
  · exact started.trans (again _).launches

/-- When nothing but reports is queued, the next job is one of them. -/
theorem kickPending_launches (h : Hud) (sys : Sys) (unasked : h.forget.wantForget = false)
    (unwanted : h.join.wantConnect = false) : Launches h (h.kickPending sys) := by
  have scan : Still h { h with want.scan := false } := rfl
  have link : Still h { h with want.link := false } := rfl
  have info : Still h { h with want.info := false } := rfl
  unfold kickPending
  simp only [unasked, unwanted, Bool.false_eq_true, if_false]
  split_ifs
  · exact (Still.refl h).launches
  · exact scan.launches.trans (startReport_launches _ sys fun _ => rfl)
  · exact link.launches.trans (startReport_launches _ sys fun _ => rfl)
  · exact info.launches.trans (startReport_launches _ sys fun _ => rfl)
  · exact (Still.refl h).launches

/-- A forget job that ends with another status than 0 only clears the flag. -/
theorem forgetDone_failed (h : Hud) {rc : Nat} (failed : rc ≠ 0) (out : Text) :
    Still { h with forget.forgetting := false } (h.forgetDone rc out) := by
  unfold forgetDone
  simp only [if_neg failed]
  exact (setConnectStatus_still _ _).trans rfl

/-- After a forget job has failed, the names are as before, and so is the hold. -/
theorem pollJob_failed_forget {h : Hud} (exclusive : Exclusive h) {poll : Poll} {exit : Exit}
    (ended : poll.exit = some exit) (failed : exit.rc ≠ 0) (running : h.job.pid ≠ none)
    (kind : h.job.kind = .forget) :
    SameNames h (h.pollJob poll) ∧ (h.pollJob poll).forget.forgetting = false := by
  obtain ⟨-, -, unwanted⟩ := exclusive.apart (exclusive.forgets running kind)
  rw [pollJob_ended running ended]
  have closed : ((h.readJob poll.first).readJob poll.rest).closeJob = h.closeJob := rfl
  simp only [kind, jobDone, closed]
  have done := h.closeJob.forgetDone_failed failed (h.collected poll)
  generalize Hud.forgetDone exit.rc (h.collected poll) h.closeJob = g at done ⊢
  have ssid : g.wifi.ssid = h.wifi.ssid := congrArg NetView.ssid done
  have bufs : g.bufs = h.bufs := congrArg NetView.bufs done
  have forget : g.forget = { h.forget with forgetting := false } := congrArg NetView.forget done
  have wants : g.join.wantConnect = false := (congrArg NetView.wantConnect done).trans unwanted
  have asked : g.forget.wantForget = false := by
    rw [forget]
    exact exclusive.unasked
  have launches := g.kickPending_launches poll.kick asked wants
  refine ⟨⟨launches.live.trans ssid, ?_, ?_⟩, ?_⟩
  · rw [launches.connectSsid, bufs]
  · rw [launches.forget, forget]
  · rw [launches.forget, forget]

/-! ## What is reported afterwards -/

/-- While nothing is held, a reported name becomes the live one unless it is set aside. -/
theorem applyWifiSsid_released (h : Hud) (free : h.forget.forgetSsid.text = []) {s : Text}
    (reported : skipBlanks s ≠ [] ∧ skipBlanks s ≠ txt "--") :
    (h.applyWifiSsid s).forget = h.forget ∧ (h.applyWifiSsid s).wifi.ssid =
      if h.setsAside (reportedSsid (skipBlanks s)) then h.wifi.ssid
      else .print 96 (reportedSsid (skipBlanks s)) := by
  have held (name : Text) : gwSsidEq [] name = false := by simp
  unfold applyWifiSsid setsAside
  simp only [reported, free, held, or_self, false_and, if_false, ne_eq, not_true_eq_false,
    Bool.false_eq_true, decide_eq_true_eq]
  generalize reportedSsid (skipBlanks s) = name
  split_ifs <;> simp_all

/-- **When a report of a name makes it the live one.** -/
theorem parseLink_live_iff (h : Hud) (free : h.forget.forgetSsid.text = []) (report : LinkReport)
    (name : JoinedName) :
    (h.parseLink (report.text name)).wifi.ssid.text = name.text ↔
      if h.setsAside (cutAt carriageReturn name.text) then h.wifi.ssid.text = name.text
      else carriageReturn ∉ name.text := by
  obtain ⟨s, same, reported, taken⟩ := report.parseLink_text name h
  obtain ⟨-, live⟩ := h.applyWifiSsid_released free reported
  rw [same.ssid, live, taken]
  split
  · exact Iff.rfl
  · have short : (cutAt carriageReturn name.text).length < 96 := by
      have prefixed : (cutAt carriageReturn name.text).length ≤ name.text.length :=
        (List.takeWhile_prefix _).length_le
      have := name.short
      omega
    rw [Buf.print_of_lt short]
    constructor
    · intro whole returns
      rw [← whole] at returns
      exact notMem_cutAt _ _ returns
    · exact cutAt_of_notMem

/-- What is set aside depends on the names. -/
theorem SameNames.setsAside {h h' : Hud} (same : SameNames h h') (name : Text) :
    h'.setsAside name = h.setsAside name := by
  unfold Hud.setsAside
  rw [same.ssid, same.connectSsid]

/-- Two changes that leave the names, one after the other. -/
theorem SameNames.trans {h g h' : Hud} (first : SameNames h g) (second : SameNames g h') :
    SameNames h h' where
  ssid := second.ssid.trans first.ssid
  connectSsid := second.connectSsid.trans first.connectSsid
  hold := second.hold.trans first.hold

/-- Without a hold, a device list leaves the names alone. -/
theorem parseInfo_sameNames (h : Hud) (now : Nat) (buf : Text) (free : h.forget.forgetSsid.text = []) :
    SameNames h (h.parseInfo now buf) := by
  obtain ⟨ssid, forget, -, bufs⟩ := h.parseInfo_frame now buf free
  exact ⟨ssid, congrArg Bufs.connectSsid bufs, congrArg Forget.forgetSsid forget⟩

/-- A device list that says so connects the radio, when nothing is held. -/
theorem parseInfo_connected (h : Hud) (now : Nat) {devices : Text} (up : SaysConnected devices)
    (free : h.forget.forgetSsid.text = []) : (h.parseInfo now devices).wifi.connected = true := by
  obtain ⟨understood, saw, shown⟩ := up
  unfold parseInfo
  rw [if_neg (by simp [understood]), (h.applyInfo_frame now _ free).2.2.2.2, if_pos saw, shown]

/-- A forget that is over has left no trace exactly when the hold is gone and the name can become
the live one. -/
theorem forgetUndone_iff (h : Hud) (name : JoinedName) :
    h.ForgetUndone name ↔ h.forget.forgetting = false ∧ h.forget.forgetSsid.text = [] ∧
      if h.setsAside (cutAt carriageReturn name.text) then h.wifi.ssid.text = name.text
      else carriageReturn ∉ name.text := by
  constructor
  · rintro ⟨ended, released, shown⟩
    have same := h.parseInfo_sameNames 1 wlanDevices.text released
    obtain ⟨-, live, -⟩ := shown h ⟨rfl, rfl, rfl⟩ 1 wlanDevices.text (by decide +kernel) _
      ⟨rfl, rfl, rfl⟩ rfl (.iw wlanLink)
    rw [parseLink_live_iff _ (same.hold ▸ released), same.setsAside, same.ssid] at live
    exact ⟨ended, released, live⟩
  · rintro ⟨ended, released, readable⟩
    refine ⟨ended, released, ?_⟩
    intro g before now devices seen k after connected report
    have free : g.forget.forgetSsid.text = [] := before.hold ▸ released
    have same := (before.trans (g.parseInfo_sameNames now devices free)).trans after
    have held : k.forget.forgetSsid.text = [] := same.hold ▸ released
    have live : (k.parseLink (report.text name)).wifi.ssid.text = name.text := by
      rw [parseLink_live_iff k held, same.setsAside, same.ssid]
      exact readable
    obtain ⟨s, told, reported, -⟩ := report.parseLink_text name k
    have up : (k.parseLink (report.text name)).wifi.connected = true := by
      rw [told.connected, (k.applyWifiSsid_untouched s).1, connected,
        g.parseInfo_connected now seen free]
    refine ⟨up, live, ?_⟩
    have on : gwAlreadyOn true name.text name.text = true := gwSsidEq_iff.mpr ⟨name.nonempty, rfl⟩
    unfold apIsCurrent
    rw [told.forget, (k.applyWifiSsid_released held reported).1, held, up, live, on]
    simp

/-- A forget that cannot be started has been asked for by an event of an input device, and its
network stays held. -/
theorem failed_start_held {h : Hud} (exclusive : Exclusive h) {event : Event}
    {newer : List (JobKind × List Text × Bool)} {argv : List Text}
    (past : startsOf (h.step event).trace = newer ++ startsOf h.trace)
    (failed : (.forget, argv, false) ∈ newer) :
    (∃ input, event = .input input) ∧ (h.step event).forget.forgetSsid.text ≠ [] := by
  have asked : ∃ ssid, h.request event = some (.forget ssid) := by
    by_contra unasked
    obtain ⟨others, same, none⟩ := unasked_starts exclusive (not_exists.mp unasked)
    have equal := List.append_cancel_right (past.symm.trans same)
    exact none _ (equal ▸ failed) rfl
  obtain ⟨ssid, asked⟩ := asked
  cases event with
  | input input =>
      refine ⟨⟨input, rfl⟩, ?_⟩
      obtain ⟨sys, g, before, after⟩ := h.input_performs input
      rw [asked] at after
      have forget : (h.step (.input input)).forget = (g.wifiForget ssid.text sys).forget :=
        congrArg NetView.forget after
      have starts : newer ++ startsOf g.trace = startsOf (g.wifiForget ssid.text sys).trace := by
        rw [show startsOf g.trace = startsOf h.trace from congrArg NetView.starts before, ← past]
        exact congrArg NetView.starts after
      rw [forget]
      rcases g.wifiForget_cases ssid.text sys with
        same | ⟨named, k, launches, -, own, started, begun, ends⟩
      · -- Without a call that goes through nothing is started.
        rw [same] at starts
        rw [List.append_left_eq_self.mp starts] at failed
        cases failed
      · have held : k.forget.forgetSsid.text = ssid.text := by
          rw [launches.forget, (g.beginForget_forgets ssid.text).forget, Buf.print_text]
        rcases ends with ⟨yes, -, same⟩ | ⟨-, -, same⟩
        · rw [same, begun, yes] at starts
          have only := List.append_cancel_right (starts.trans (List.singleton_append ..).symm)
          rw [only] at failed
          simp at failed
        · rw [same]
          exact held ▸ named
  | _ => cases asked

/-- **When a failed forget leaves no trace.** In every state of every run, an event in which the
forget job of a network fails leaves no trace exactly when the job has run, its hold has been
released before its end, and no other name stands in the way of the reported one. -/
theorem failed_forget_undone_iff {h : Hud} (reachable : h.Reachable) {event : Event}
    {name : JoinedName} (fails : h.ForgetFails event name.text) :
    (h.step event).ForgetUndone name ↔ h.Traceless event name := by
  have exclusive := reachable.exclusive
  rcases fails with
    ⟨newer, argv, past, failed, -⟩ | ⟨poll, exit, rfl, ended, failed, running, kind, -⟩
  · obtain ⟨⟨input, rfl⟩, held⟩ := failed_start_held exclusive past failed
    constructor
    · intro undone
      exact absurd undone.released held
    · rintro ⟨⟨poll, polled⟩, -⟩
      cases polled
  · obtain ⟨same, ended⟩ := pollJob_failed_forget exclusive ended failed running kind
    have polled : ∃ other, Event.poll poll = .poll other := ⟨poll, rfl⟩
    change (h.pollJob poll).ForgetUndone name ↔ _
    rw [forgetUndone_iff, same.hold, same.setsAside, same.ssid, and_iff_right ended]
    exact (and_iff_right polled).symm

/-- The finger is on the button that forgets the network Home. -/
def pressedHud : Hud :=
  run step homeBoot.hud
    (loopEvents homeFrames ++ (((forgetFrame .noFork).drained.take 5).map .input))

/-- The finger is lifted, and the script cannot be started. -/
def unstartedLift : Event :=
  .input ⟨.slotted 1080 2340, .syn,
    { now := 3100000000, slots := some (.first (-1) 500 2200), sys := { spawn := .noFork } }⟩

/-- The forget job runs. -/
def forgettingHud : Hud :=
  run step homeBoot.hud (loopEvents (homeFrames ++ [forgetFrame (.child 7)]))

/-- The arguments of that job. -/
def homeForgetArgv : List Text := forgetArgv (.print 96 (txt "Home")) (.print 32 (txt "wlan0"))

/-- The forget job of the network Home fails. -/
theorem failed_forget_undone_home :
    (forgettingHud.step (.poll (.ended "" 1 ⟨.child 7, true⟩))).ForgetUndone homeName ↔
      forgettingHud.Traceless (.poll (.ended "" 1 ⟨.child 7, true⟩)) homeName :=
  failed_forget_undone_iff ⟨homeBoot, _, rfl⟩ (.inr ⟨_, .status 1, rfl, rfl, by decide,
    by decide +kernel, by decide +kernel, by decide +kernel⟩)

/-- The network stays hidden after a forget that could not be started. -/
theorem failed_forget_hidden :
    ¬∀ h : Hud, h.Reachable → ∀ event name, h.ForgetFails event name.text →
      (h.step event).ForgetUndone name := by
  intro always
  have fails : pressedHud.ForgetFails unstartedLift homeName.text :=
    .inl ⟨[(.forget, homeForgetArgv, false)], homeForgetArgv, by decide +kernel, by decide,
      by decide +kernel⟩
  have undone := always pressedHud ⟨homeBoot, _, rfl⟩ unstartedLift homeName fails
  have held : (pressedHud.step unstartedLift).forget.forgetSsid.text = txt "Home" := by
    decide +kernel
  rw [undone.released] at held
  exact absurd held (by decide)

end Hud

end Ginkgo
