import Ginkgo.Flow.Request
import Ginkgo.Join.Steps

/-!
# What a step can do to the network state

`Ginkgo.Hud.Effect` lists the calls through which a step changes the network state, with the
circumstances in which each is made. Every step is a sequence of them
(`Ginkgo.Hud.step_effects`), so an invariant of the network state has to be checked against
this list only.
-/

namespace Ginkgo

open CText

namespace Hud

/-- **A change of the network state** during the step that an event makes from a state `h`. -/
inductive Effect (h : Hud) (event : Event) : Hud → Hud → Prop
  | still {g g' : Hud} (same : Still g g') : Effect h event g g'
  | submitted (g : Hud) (sys : Sys) (asked : h.request event = some .submit) (same : Still h g) :
      Effect h event g (g.wifiSubmitPass sys)
  | joined (g : Hud) (sys : Sys) (asked : h.request event = some .join) (same : Still h g) :
      Effect h event g (g.wifiJoinPicked sys)
  | forgot (g : Hud) (ssid : Buf 96) (sys : Sys) (asked : h.request event = some (.forget ssid))
      (same : Still h g) : Effect h event g (g.wifiForget ssid.text sys)
  | reported (g : Hud) (kind : JobKind) (argv : List Text) (spawn : Spawn)
      (other : kind ≠ .connect) (nor : kind ≠ .forget) :
      Effect h event g (startNmcli kind argv spawn g).1
  | named (g : Hud) (name : Text) : Effect h event g (g.applyWifiSsid name)
  | closed (g : Hud) (other : g.job.kind ≠ .forget) : Effect h event g g.closeJob
  | informed (g : Hud) (now : Nat) (seen : InfoScan) : Effect h event g (g.applyInfo now seen)
  | listed (g : Hud) (poll : Poll) (exit : Exit) (polled : event = .poll poll)
      (ended : poll.exit = some exit) (running : h.job.pid ≠ none) (kind : h.job.kind = .scan) :
      Effect h event g (g.parseScan (h.collected poll))
  | waited (g : Hud) (failed : Bool) (waits : g.join.joinWaitLive = true) :
      Effect h event g (g.joinOver failed)
  | confirmed (g : Hud) (up : gwJoinConfirmOk g.wifi.connected g.wifi.ssid.text
      g.bufs.connectSsid.text = true) : Effect h event g (g.markApActive g.bufs.connectSsid.text)
  | ended (g : Hud) (out : Text) (running : g.connectInFlight) :
      Effect h event g (g.closeJob.endConnect out)
  | succeeded (g : Hud) (out : Text) (now : Nat) (running : g.connectInFlight) :
      Effect h event g ((g.closeJob.endConnect out).awaitLive now)
  | dropped (g : Hud) (ssid : Text) : Effect h event g (g.forgetPsk ssid)
  | retried (g : Hud) (rc : Nat) (out : Text) (sys : Sys) (running : g.connectInFlight)
      (decided : gwOnConnectJob (g.connectIn rc out) = .retryPsk) :
      Effect h event g ((g.closeJob.endConnect out).connectRetryPsk sys)
  | forgetEnded (g : Hud) (rc : Nat) (out : Text) (running : g.job.pid ≠ none)
      (kind : g.job.kind = .forget) {poll : Poll} {exit : Exit} (polled : event = .poll poll)
      (ended : poll.exit = some exit) : Effect h event g (g.closeJob.forgetDone rc out)
  | requeued (g : Hud) (sys : Sys) (wants : g.forget.wantForget = true) :
      Effect h event g ({ g with forget.wantForget := false }.wifiForget g.forget.pendForget.text sys)
  | kicked (g : Hud) (sys : Sys) (free : g.job.pid = none) (wants : g.join.wantConnect = true) :
      Effect h event g ({ g with join.wantConnect := false }.wifiConnect (.var .pendSsid)
        (.var .pendPass) (.var .pendSec) sys)

/-- Any number of changes. -/
abbrev Effects (h : Hud) (event : Event) : Hud → Hud → Prop :=
  Relation.ReflTransGen (Effect h event)

variable {h g g' k : Hud} {event : Event}

/-- No change, for a state that is left alone. -/
theorem Still.effects (same : Still g g') : Effects h event g g' := .single (.still same)

/-- One change. -/
theorem Effect.effects (effect : Effect h event g g') : Effects h event g g' := .single effect

/-- What every change keeps, any number of changes keep. -/
theorem Effects.keep {predicate : Hud → Prop}
    (keeps : ∀ g g', Effect h event g g' → predicate g → predicate g')
    (effects : Effects h event g g') (initial : predicate g) : predicate g' := by
  induction effects with
  | refl => exact initial
  | tail _ effect ih => exact keeps _ _ effect ih

theorem Effects.ite {condition : Prop} [Decidable condition]
    (yes : condition → Effects h event g g') (no : ¬condition → Effects h event g k) :
    Effects h event g (if condition then g' else k) := by
  split
  · exact yes ‹_›
  · exact no ‹_›

/-- A name that is brought is a change. -/
theorem Named.effects (named : Named g g') : Effects h event g g' := by
  cases named with
  | still same => exact same.effects
  | named name k before after =>
      exact before.effects.trans ((Effect.named k name).effects.trans after.effects)

/-! ## Jobs -/

/-- A report that is started is one. -/
theorem startReport_effects {kind : JobKind} {argv : List Text} {retry : Hud → Hud} (sys : Sys)
    (other : kind ≠ .connect) (nor : kind ≠ .forget) (again : ∀ g, Still g (retry g)) :
    Effects h event g (g.startReport kind argv retry sys) := by
  have started : Effect h event g (startNmcli kind argv sys.spawn g).1 :=
    .reported g kind argv sys.spawn other nor
  unfold startReport
  simp only
  exact .ite (fun _ => started.effects) fun _ => started.effects.trans (again _).effects

/-- `wifi_scan` is one. -/
theorem wifiScan_effects (g : Hud) (sys : Sys) : Effects h event g (g.wifiScan sys) :=
  startReport_effects sys (by decide) (by decide) fun _ => rfl

/-- `wifi_info` is one. -/
theorem wifiInfo_effects (g : Hud) (sys : Sys) : Effects h event g (g.wifiInfo sys) :=
  startReport_effects sys (by decide) (by decide) fun _ => rfl

/-- `wifi_link` is one. -/
theorem wifiLink_effects (g : Hud) (sys : Sys) : Effects h event g (g.wifiLink sys) :=
  startReport_effects sys (by decide) (by decide) fun _ => rfl

/-- `kick_pending` starts what is queued. -/
theorem kickPending_effects (g : Hud) (sys : Sys) : Effects h event g (g.kickPending sys) := by
  unfold kickPending
  refine .ite (fun _ => .refl) fun busy => ?_
  have free : g.job.pid = none := not_not.mp busy
  refine .ite (fun wants => (Effect.requeued g sys wants).effects) fun _ => ?_
  refine .ite (fun wants => (Effect.kicked g sys free wants).effects) fun _ => ?_
  have scans : Still g { g with want.scan := false } := rfl
  have links : Still g { g with want.link := false } := rfl
  have informs : Still g { g with want.info := false } := rfl
  refine .ite (fun _ => scans.effects.trans (wifiScan_effects _ sys)) fun _ => ?_
  refine .ite (fun _ => links.effects.trans (wifiLink_effects _ sys)) fun _ => ?_
  exact .ite (fun _ => informs.effects.trans (wifiInfo_effects _ sys)) fun _ => .refl

/-- The timers of the loop start reports. -/
theorem schedule_effects (g : Hud) (now : Nat) (sys : Sys) :
    Effects h event g (g.schedule now sys) := by
  have scanned (k : Hud) : Still k { k with want.tScan := now } := rfl
  have informed (k : Hud) : Still k { k with want.tWifi := now } := rfl
  unfold schedule
  refine .ite (fun _ => ?_) fun _ => .refl
  refine .ite (fun _ => (wifiScan_effects g sys).trans (scanned _).effects) fun _ => ?_
  exact .ite (fun _ => (wifiInfo_effects g sys).trans (informed _).effects) fun _ => .refl

/-! ## The end of a job -/

/-- A confirmed wait ends. -/
theorem joinConfirmed_effects (g : Hud) (waits : g.join.joinWaitLive = true)
    (up : gwJoinConfirmOk g.wifi.connected g.wifi.ssid.text g.bufs.connectSsid.text = true) :
    Effects h event g g.joinConfirmed := by
  have ended : Effect h event g (g.joinOver false) := .waited g false waits
  have marked : Effect h event (g.joinOver false)
      ((g.joinOver false).markApActive (g.joinOver false).bufs.connectSsid.text) :=
    .confirmed (g.joinOver false) up
  have shown (k : Hud) : Still k ({ { k with ui.sheetTgt := .none }.setStatus
      ({ k with ui.sheetTgt := .none }.T "已连接" "Connected") with want.scan := true }) := rfl
  exact ended.effects.trans (marked.effects.trans (shown _).effects)

/-- A wait whose time is over ends. -/
theorem joinTimedOut_effects (g : Hud) (waits : g.join.joinWaitLive = true) :
    Effects h event g g.joinTimedOut := by
  have ended : Effect h event g (g.joinOver true) := .waited g true waits
  refine ended.effects.trans (Still.effects ?_)
  unfold joinTimedOut
  generalize g.joinOver true = k
  simp only
  generalize (if k.join.lastFailKind = .unknown then FailKind.timeout else k.join.lastFailKind) =
    kind
  have noted : Still k { k with join.lastFailKind := kind } := rfl
  exact (noted.trans (fillFailStatus_still _ _ _)).trans (.ite rfl (.refl _))

/-- `maybe_confirm_join` does one of these or nothing. -/
theorem maybeConfirmJoin_effects (g : Hud) (now : Nat) :
    Effects h event g (g.maybeConfirmJoin now) := by
  unfold maybeConfirmJoin
  refine .ite (fun _ => .refl) fun waiting => ?_
  have waits : g.join.joinWaitLive = true := by
    by_contra idle
    exact waiting (.inl (by simpa using idle))
  refine .ite (fun up => joinConfirmed_effects g waits up) fun _ => ?_
  exact .ite (fun _ => .refl) fun _ => joinTimedOut_effects g waits

/-- What the end of a device list changes. -/
theorem infoDone_effects (g : Hud) (now : Nat) (out : Text) :
    Effects h event g (g.infoDone now out) := by
  have parsed : Effects h event g (g.parseInfo now out) := by
    unfold parseInfo
    exact .ite (fun _ => Still.effects rfl) fun _ => (Effect.informed g now _).effects
  unfold infoDone
  apply parsed.trans
  generalize g.parseInfo now out = k
  have queued : Still k (if k.wifi.connected ∨ k.wifi.busy ∨ k.join.joinWaitLive then
      { k with want.link := true } else k) := .ite rfl (.refl k)
  exact queued.effects.trans (maybeConfirmJoin_effects _ now)

/-- What the end of a link report changes. -/
theorem linkDone_effects (g : Hud) (now : Nat) (out : Text) :
    Effects h event g (g.linkDone now out) := by
  have parsed : Effects h event g (g.parseLink out) := by
    unfold parseLink
    exact (((g.linkName_named out).trans (linkSignal_still _ out)).trans
      (linkFreq_still _ out)).effects.trans (linkRow_named _ out).effects
  unfold linkDone
  apply (parsed.trans (maybeConfirmJoin_effects _ now)).trans
  generalize (g.parseLink out).maybeConfirmJoin now = k
  have queued : Still k (if k.join.joinWaitLive then { k with want.info := true } else k) :=
    .ite rfl (.refl k)
  exact queued.effects

/-- What the end of a scan changes: the rows, with the name in use. -/
theorem scanDone_effects (g : Hud) (now : Nat) {poll : Poll} {exit : Exit}
    (polled : event = .poll poll) (ended : poll.exit = some exit) (running : h.job.pid ≠ none)
    (kind : h.job.kind = .scan) : Effects h event g (g.scanDone now (h.collected poll)) := by
  have parsed : Effect h event g (g.parseScan (h.collected poll)) :=
    .listed g poll exit polled ended running kind
  unfold scanDone
  apply parsed.effects.trans
  generalize g.parseScan (h.collected poll) = k
  have counted : Still k
      (if k.scan.aps = [] ∧ k.ui.statusLine.text = [] ∧ k.join.connectFail = false ∧
          k.join.joinWaitLive = false then
        k.setStatus (k.T "没有扫描到网络，请再点刷新" "No networks found, tap Refresh")
      else if k.scan.aps ≠ [] ∧ k.join.connectFail = false ∧ k.join.joinWaitLive = false then
        k.setStatus (k.T "找到 " "Found " ++ decimal k.scan.aps.length ++ k.T " 个网络" " networks")
      else k) := .ite rfl (.ite rfl (.refl k))
  exact counted.effects.trans (maybeConfirmJoin_effects _ now)

/-- What the end of a join changes, by how it has ended. -/
theorem connectDone_effects (running : g.connectInFlight) (now : Nat) (retry : Sys) (rc : Nat)
    (out : Text) : Effects h event g (g.closeJob.connectDone now retry rc out) := by
  have ended : Effects h event g (g.closeJob.endConnect out) := (Effect.ended g out running).effects
  have decides : g.closeJob.connectIn rc out = g.connectIn rc out := rfl
  unfold connectDone
  simp only [decides]
  cases act : gwOnConnectJob (g.connectIn rc out) with
  | success =>
      exact (Effect.succeeded g out now running).effects.trans (maybeConfirmJoin_effects _ now)
  | retryPsk => exact (Effect.retried g rc out retry running act).effects
  | wrongPass =>
      apply ended.trans
      generalize g.closeJob.endConnect out = k
      have dropped : Effect h event k (k.forgetPsk k.bufs.connectSsid.text) := .dropped k _
      refine dropped.effects.trans (Still.effects ?_)
      unfold connectWrongPass
      simp only
      generalize k.forgetPsk k.bufs.connectSsid.text = d
      have failed : Still d { d with join.connectFail := true } := rfl
      exact ((failed.trans (fillFailStatus_still _ _ _)).trans (selectJoined_still _)).trans rfl
  | openPass =>
      refine ended.trans (Still.effects ?_)
      generalize g.closeJob.endConnect out = k
      unfold connectOpenPass
      simp only
      have failed : Still k { k with join.connectFail := k.join.connectNeedPass } := rfl
      have told (s : Text) : Still k
          ({ k with join.connectFail := k.join.connectNeedPass }.setConnectStatus s).selectJoined :=
        (failed.trans (setConnectStatus_still _ s)).trans (selectJoined_still _)
      apply (told (if out ≠ [] then out else txt "NEED_PASSWORD")).trans
      generalize selectJoined _ = d
      have opened : Still d { d with ui.sheetTgt := .pass } := rfl
      exact opened.trans (.ite rfl (.refl _))
  | waitPending => exact ended.trans (Still.effects rfl)
  | fail =>
      refine ended.trans (Still.effects ?_)
      generalize g.closeJob.endConnect out = k
      unfold connectFailed
      exact k.showFailure_still.trans (.ite (.refl _) rfl)

/-- What the end of a job changes, by its kind. -/
theorem jobDone_effects {poll : Poll} {exit : Exit} (polled : event = .poll poll)
    (ended : poll.exit = some exit) (running : h.job.pid ≠ none) (pid : g.job.pid = h.job.pid)
    (same : g.job.kind = h.job.kind) :
    Effects h event g (g.closeJob.jobDone poll exit h.job.kind (h.collected poll)) := by
  have closed (other : h.job.kind ≠ .forget) : Effects h event g g.closeJob :=
    (Effect.closed g (same ▸ other)).effects
  have busy : g.job.pid ≠ none := pid ▸ running
  cases kind : h.job.kind with
  | radio => exact (closed (by simp [kind])).trans (Still.effects rfl)
  | info => exact (closed (by simp [kind])).trans (infoDone_effects _ _ _)
  | scan =>
      exact (closed (by simp [kind])).trans (scanDone_effects _ _ polled ended running kind)
  | connect => exact connectDone_effects ⟨busy, same.trans kind⟩ _ _ _ _
  | link => exact (closed (by simp [kind])).trans (linkDone_effects _ _ _)
  | forget => exact (Effect.forgetEnded g _ _ busy (same.trans kind) polled ended).effects

/-- **`poll_job` is a sequence of changes.** -/
theorem pollJob_effects (h : Hud) (poll : Poll) : Effects h (.poll poll) h (h.pollJob poll) := by
  by_cases free : h.job.pid = none
  · rw [pollJob, if_pos free]
  · cases ended : poll.exit with
    | none =>
        rw [pollJob, if_neg free]
        simp only [ended]
        exact Still.effects rfl
    | some exit =>
        rw [pollJob_ended free ended]
        have read : Still h ((h.readJob poll.first).readJob poll.rest) := rfl
        have done : Effects h (.poll poll) ((h.readJob poll.first).readJob poll.rest)
            (((h.readJob poll.first).readJob poll.rest).closeJob.jobDone poll exit h.job.kind
              (h.collected poll)) := jobDone_effects rfl ended free rfl rfl
        exact read.effects.trans (done.trans (kickPending_effects _ poll.kick))

/-- What is asked for is a change. -/
theorem Performs.effects (performs : Performs (h.request event) h k) : Effects h event h k := by
  obtain ⟨sys, g, before, after⟩ := performs
  have performed : Effects h event g (g.perform sys (h.request event)) := by
    cases asked : h.request event with
    | none => exact .refl
    | some request =>
        cases request with
        | submit => exact (Effect.submitted g sys asked before).effects
        | join => exact (Effect.joined g sys asked before).effects
        | forget ssid => exact (Effect.forgot g ssid sys asked before).effects
        | scan => exact wifiScan_effects g sys
  exact before.effects.trans (performed.trans after.effects)

/-- **Every step is a sequence of changes.** -/
theorem step_effects (h : Hud) (event : Event) : Effects h event h (h.step event) := by
  cases event with
  | input input => exact (h.input_performs input).effects
  | idleOff now => exact (h.idleOff_handles now).still.effects
  | poll poll => exact h.pollJob_effects poll
  | confirm now => exact maybeConfirmJoin_effects h now
  | animate animation =>
      exact ((h.animateSheet_handles animation).trans (animateList_handles _ _)).still.effects
  | render => exact h.render_still.effects
  | sample sample => exact (h.sampleAll_named sample).effects
  | kick sys => exact kickPending_effects h sys
  | schedule now sys => exact schedule_effects h now sys

end Hud

/-- Before the first report is asked for, the start of the program leaves the network state
alone. -/
theorem Boot.hud_still (boot : Boot) :
    ∃ g : Hud, boot.blank.Still g ∧ (g.wifiRadio boot.sys).Still boot.hud := by
  have configured : Hud.Still boot.blank (boot.blank.loadHudConf boot.lang boot.bl) := by
    unfold Hud.loadHudConf
    cases boot.lang <;> cases boot.bl <;> rfl
  have lit := configured.trans (Hud.findBacklight_handles _ boot.backlight).still
  unfold Boot.hud
  simp only
  generalize (boot.blank.loadHudConf boot.lang boot.bl).findBacklight boot.backlight = g at lit ⊢
  have reset : Hud.Still g { g.resetTouch with touch.mtNslots := boot.nslots } := rfl
  generalize { g.resetTouch with touch.mtNslots := boot.nslots } = k at reset ⊢
  have sampled := ((k.sysfsWifi_still boot.sample.ifacePresent boot.sample.ifaceFound).trans
    (Hud.sampleLink_still _ boot.sample.up boot.sample.ip)).trans
    (Hud.sampleIp_still _ boot.sample.ip boot.sample.gw)
  generalize Hud.sampleIp _ _ _ = s at sampled ⊢
  have before := lit.trans (reset.trans sampled)
  have empty : s.scan.aps = [] := by
    have rows : s.rows = [] := congrArg NetView.rows before
    simpa [Hud.rows] using rows
  refine ⟨s.sampleSignal boot.sample.wireless, before.trans ?_, rfl⟩
  have none : s.applyActiveAp = s := by
    unfold Hud.applyActiveAp
    simp [empty]
  unfold Hud.sampleSignal
  rw [none]
  refine .ite (.refl s) ?_
  cases boot.sample.wireless with
  | none => exact .refl s
  | some row => exact .ite (s.applySignalDbm_still _) (.ite (.ite rfl rfl) (.refl s))

end Ginkgo
