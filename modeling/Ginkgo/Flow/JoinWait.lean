import Ginkgo.Flow.Connects
import Ginkgo.Hud.Informs
import Ginkgo.Join.Arguments

/-!
# The wait for a confirmation

The periodic reports rest while a join is going on, so a join that waits for its confirmation
asks for reports of its own: the end of a device report asks for a link report and the other way
round, and a request that cannot be started yet stays queued. `Ginkgo.WaitView` is what the wait
depends on and `Ginkgo.WaitView.Watched` says that the wait has a name and a time and that a
report is queued or in flight. Every part of the main loop keeps it
(`Ginkgo.Hud.watched_step`), provided that no join without a name is reported as a success.
-/

namespace Ginkgo

open CText Transition

/-- What the wait for a confirmation depends on: its flags, name and time, the job slot and the
queued reports that can confirm a join. -/
structure WaitView where
  connecting : Bool
  joinWaitLive : Bool
  tJoinWait : Nat
  connectSsid : Buf 96
  pid : Option Nat
  kind : JobKind
  argv : List Text
  info : Bool
  link : Bool

namespace WaitView

variable {v : WaitView}

/-- The name that the script was given. -/
def given (v : WaitView) : Option Text := v.argv[2]?

/-- A report that can confirm a join is queued or in flight. -/
def Asks (v : WaitView) : Prop :=
  v.pid ≠ none ∧ (v.kind = .info ∨ v.kind = .link) ∨ v.info = true ∨ v.link = true

/-- The wait has a name and a time, and no connect job runs during it. A connect job was given
the name of the join. -/
structure Sound (v : WaitView) : Prop where
  waits : v.joinWaitLive = true →
    v.connectSsid.text ≠ [] ∧ v.connecting = true ∧ v.tJoinWait ≠ 0
  joins : v.pid ≠ none → v.kind = .connect →
    v.connecting = true ∧ v.joinWaitLive = false ∧ v.given = some v.connectSsid.text

/-- **The wait is never starved.** -/
structure Watched (v : WaitView) : Prop extends Sound v where
  asks : v.joinWaitLive = true → v.Asks

/-- Without a wait and a connect job there is nothing to watch. -/
theorem Watched.of_idle (waits : v.joinWaitLive = false)
    (joins : v.pid ≠ none → v.kind = .connect →
      v.connecting = true ∧ v.given = some v.connectSsid.text) : v.Watched where
  waits := by
    rw [waits]
    exact nofun
  joins := fun busy kind => ⟨(joins busy kind).1, waits, (joins busy kind).2⟩
  asks := by
    rw [waits]
    exact nofun

/-- A free slot and no wait leave nothing to watch. -/
theorem Watched.of_free (waits : v.joinWaitLive = false) (free : v.pid = none) : v.Watched :=
  .of_idle waits fun busy => absurd free busy

/-- No connect job runs while no join is going on. -/
theorem Sound.unjoined (sound : v.Sound) (idle : v.connecting = false) :
    ¬(v.pid ≠ none ∧ v.kind = .connect) := by
  rintro ⟨busy, kind⟩
  have joining := (sound.joins busy kind).1
  rw [idle] at joining
  cases joining

/-- Another report in flight does not disturb what is queued. -/
theorem Watched.start (watched : v.Watched) {pid : Nat} {kind : JobKind} {argv : List Text}
    (free : v.pid = none) (other : kind ≠ .connect) :
    { v with pid := some pid, kind := kind, argv := argv }.Watched where
  waits := watched.waits
  joins := fun _ same => absurd same other
  asks := by
    intro waits
    rcases watched.asks waits with running | queued
    · exact absurd free running.1
    · exact .inr queued

/-- A report that can confirm the join is in flight. -/
theorem Sound.ask (sound : v.Sound) {pid : Nat} {kind : JobKind} {argv : List Text}
    (confirms : kind = .info ∨ kind = .link) :
    { v with pid := some pid, kind := kind, argv := argv }.Watched where
  waits := sound.waits
  joins := by
    rintro - same
    rcases confirms with rfl | rfl <;> cases same
  asks := fun _ => .inl ⟨nofun, confirms⟩

/-- A device report is queued. -/
theorem Sound.info (sound : v.Sound) : { v with info := true }.Watched where
  waits := sound.waits
  joins := sound.joins
  asks := fun _ => .inr (.inl rfl)

/-- A link report is queued. -/
theorem Sound.link (sound : v.Sound) : { v with link := true }.Watched where
  waits := sound.waits
  joins := sound.joins
  asks := fun _ => .inr (.inr rfl)

/-- The end of a job keeps the wait sound. -/
theorem Sound.close (sound : v.Sound) : { v with pid := none, argv := [] }.Sound where
  waits := sound.waits
  joins := fun busy => absurd rfl busy

/-- The end of a job that cannot confirm a join leaves the queued reports. -/
theorem Watched.close (watched : v.Watched) (other : ¬(v.kind = .info ∨ v.kind = .link)) :
    { v with pid := none, argv := [] }.Watched where
  toSound := watched.toSound.close
  asks := by
    intro waits
    rcases watched.asks waits with running | queued
    · exact absurd running.2 other
    · exact .inr queued

/-- The wait ends. -/
theorem Sound.done (sound : v.Sound) (waits : v.joinWaitLive = true) :
    { v with joinWaitLive := false, connecting := false }.Watched := by
  refine .of_idle rfl fun busy kind => ?_
  have idle := (sound.joins busy kind).2.1
  rw [waits] at idle
  cases idle

end WaitView

namespace Hud

/-- What the wait depends on, in a state of the HUD. -/
def waitView (h : Hud) : WaitView where
  connecting := h.join.connecting
  joinWaitLive := h.join.joinWaitLive
  tJoinWait := h.join.tJoinWait
  connectSsid := h.bufs.connectSsid
  pid := h.job.pid
  kind := h.job.kind
  argv := h.job.argv
  info := h.want.info
  link := h.want.link

/-- **A change that leaves the wait alone.** -/
def Calm (h h' : Hud) : Prop := h'.waitView = h.waitView

namespace Calm

variable {h h' h'' : Hud}

theorem refl (h : Hud) : Calm h h := rfl

/-- Two changes that leave it alone, one after the other. -/
theorem trans (first : Calm h h') (second : Calm h' h'') : Calm h h'' := Eq.trans second first

theorem ite {condition : Prop} [Decidable condition] (yes : Calm h h') (no : Calm h h'') :
    Calm h (if condition then h' else h'') := by
  split
  · exact yes
  · exact no

/-- A wait that is left alone is still fed. -/
theorem watched (calm : Calm h h') (watched : h.waitView.Watched) : h'.waitView.Watched := by
  rwa [calm]

end Calm

/-- What a finger or a frame changes leaves the wait alone. -/
theorem Handles.calm {h h' : Hud} (handles : Handles h h') : Calm h h' :=
  handles.same waitView fun _ => rfl

/-- So does what the HUD learns of the networks. -/
theorem Informs.calm {h h' : Hud} (informs : Informs h h') : Calm h h' :=
  informs.same waitView fun _ => rfl

variable {h g : Hud} {sys : Sys}

/-! ## Reports -/

/-- A report other than a join's keeps the wait fed. -/
theorem startReport_watched {kind : JobKind} {argv : List Text} {retry : Hud → Hud}
    (watched : h.waitView.Watched) (other : kind ≠ .connect) (again : ∀ g, Calm g (retry g)) :
    (h.startReport kind argv retry sys).waitView.Watched := by
  unfold startReport
  rcases startNmcli_cases kind argv sys.spawn h with ⟨pid, free, same⟩ | ⟨line, same⟩
  · rw [same]
    exact watched.start free other
  · rw [same]
    exact (again _).watched watched

/-- A report that can confirm the join is in flight, or it stays queued. -/
theorem startReport_asks {kind : JobKind} {argv : List Text} {retry : Hud → Hud}
    (sound : h.waitView.Sound) (confirms : kind = .info ∨ kind = .link)
    (again : ∀ g : Hud, g.waitView.Sound → (retry g).waitView.Watched) :
    (h.startReport kind argv retry sys).waitView.Watched := by
  unfold startReport
  rcases startNmcli_cases kind argv sys.spawn h with ⟨pid, -, same⟩ | ⟨line, same⟩
  · rw [same]
    exact sound.ask confirms
  · rw [same]
    exact again _ sound

/-- `wifi_scan` keeps it fed. -/
theorem wifiScan_watched (watched : h.waitView.Watched) (sys : Sys) :
    (h.wifiScan sys).waitView.Watched :=
  startReport_watched watched (by decide) fun _ => rfl

/-- `wifi_info` feeds it, whether or not it was fed before. -/
theorem wifiInfo_watched (sound : h.waitView.Sound) (sys : Sys) :
    (h.wifiInfo sys).waitView.Watched :=
  startReport_asks sound (.inl rfl) fun _ kept => kept.info

theorem wifiLink_watched (sound : h.waitView.Sound) (sys : Sys) :
    (h.wifiLink sys).waitView.Watched :=
  startReport_asks sound (.inr rfl) fun _ kept => kept.link

/-! ## Joins and forgets -/

/-- Only its own writes change the first argument. -/
theorem snprintf_s1 (h : Hud) {dst : Dst} (src : Arg) (other : dst ≠ .s1) :
    (h.snprintf dst src).bufs.s1 = h.bufs.s1 := by
  unfold snprintf
  split <;> cases dst <;> first | exact absurd rfl other | rfl

/-- The script's first argument is the name the call was given. -/
theorem fillArgv_s1 (h : Hud) {ssid : Arg} (pass sec : Arg) (apart : ssid ≠ .var .s1) :
    (h.fillArgv ssid pass sec).bufs.s1 = .print 96 (h.load ssid) := by
  unfold fillArgv
  simp only
  rw [snprintf_s1 _ _ (by decide), snprintf_s1 _ _ (by decide), snprintf_s1 _ _ (by decide),
    @snprintf_of_ne _ .s1 _ apart]
  rfl

/-- A join that starts was given the name that it waits for. -/
theorem startConnect_watched {argv : List Text} (waits : g.join.joinWaitLive = false)
    (joins : g.join.connecting = true) (free : g.job.pid = none)
    (given : argv[2]? = some g.bufs.connectSsid.text) (spawn : Spawn) :
    (startNmcli .connect argv spawn g).1.waitView.Watched := by
  rcases startNmcli_cases .connect argv spawn g with ⟨child, -, same⟩ | ⟨line, same⟩
  · rw [same]
    exact .of_idle waits fun _ _ => ⟨joins, given⟩
  · rw [same]
    exact .of_free waits free

/-- **A call starts a job with the name of the join, or no job runs.** -/
theorem wifiConnect_watched {array : Var} {pass sec : Arg}
    (source : array ∈ [Var.selectedSsid, .connectSsid, .pendSsid])
    (watched : h.waitView.Watched) (free : ¬h.connectInFlight) (sys : Sys) :
    (h.wifiConnect (.var array) pass sec sys).waitView.Watched := by
  by_cases named : h.load (.var array) = []
  · rw [wifiConnect, if_pos named]
    exact watched
  have begun := h.beginConnect_begun (.var array)
  have loaded := @beginConnect_load_source h _ source
  have slot : (h.beginConnect (.var array)).job.pid = none := by
    rcases h.beginConnect_slot (.var array) with ⟨running, -⟩ | ⟨-, slot⟩
    · exact absurd running free
    · exact slot
  unfold wifiConnect
  rw [if_neg named]
  simp only
  rw [if_neg (not_not.mpr slot)]
  generalize h.beginConnect (.var array) = g at begun loaded slot ⊢
  have filled := g.fillArgv_launches (.var array) pass sec
  have name : (g.fillArgv (.var array) pass sec).bufs.s1.text = g.bufs.connectSsid.text := by
    rw [fillArgv_s1 g pass sec (sources_apart array source .s1 (by decide)), loaded,
      begun.connectSsid]
    split
    · rw [Buf.print_nil]
    · rfl
  have pid : (g.fillArgv (.var array) pass sec).job.pid = none := by simp [fillArgv, slot]
  generalize g.fillArgv (.var array) pass sec = f at filled name pid ⊢
  have joined : f.bufs.connectSsid = g.bufs.connectSsid := filled.connectSsid
  have waits : f.join.joinWaitLive = false := filled.joinWaitLive.trans begun.joinWaitLive
  have joins : f.join.connecting = true := filled.connecting.trans begun.connecting
  refine startConnect_watched (g := f.observe _) waits joins pid ?_ sys.spawn
  exact congrArg some (name.trans (congrArg Buf.text joined.symm))

/-- A queued join leaves the wait alone. -/
theorem queueConnect_calm (h : Hud) (ssid pass sec : Arg) :
    Calm h (h.queueConnect ssid pass sec) := by
  have copied (g : Hud) {dst : Dst} (src : Arg) (other : dst ≠ .connectSsid) :
      Calm g (g.snprintf dst src) := by
    unfold snprintf
    split <;> cases dst <;> first | exact absurd rfl other | rfl
  unfold queueConnect
  exact (((copied h ssid (by decide : Dst.pendSsid ≠ .connectSsid)).trans
    (copied _ pass (by decide : Dst.pendPass ≠ .connectSsid))).trans
    (copied _ sec (by decide : Dst.pendSec ≠ .connectSsid))).trans rfl

/-- Remembering a password does too. -/
theorem rememberPsk_calm (h : Hud) (ssid pass : Text) : Calm h (h.rememberPsk ssid pass) := by
  unfold rememberPsk
  exact .ite (.refl h) rfl

/-- No connect job is in flight when no join is going on. -/
theorem not_connectInFlight (sound : h.waitView.Sound) (idle : h.join.connecting = false) :
    ¬h.connectInFlight := sound.unjoined idle

/-- A password that is submitted keeps the wait fed. -/
theorem wifiSubmitPass_watched (watched : h.waitView.Watched) (sys : Sys) :
    (h.wifiSubmitPass sys).waitView.Watched := by
  unfold wifiSubmitPass
  simp only
  split_ifs with refused enterprise short busy
  · exact watched
  · exact watched
  · exact watched
  · exact ((rememberPsk_calm _ _ _).trans (queueConnect_calm _ _ _ _)).watched watched
  · have kept := (rememberPsk_calm { h with join.connectNeedPass := true }
      (Hud.load { h with join.connectNeedPass := true } h.gwPassSsid)
      h.osk.password.text).watched watched
    generalize Hud.rememberPsk _ _ _ = g at busy kept ⊢
    have free := not_connectInFlight kept.toSound (by simpa using busy)
    rcases h.gwPassSsid_cases fun empty => refused (.inl empty) with same | same
    · rw [same]
      exact wifiConnect_watched (by decide) kept free sys
    · rw [same]
      exact wifiConnect_watched (by decide) kept free sys

/-- So does a join from the network's own sheet. -/
theorem wifiJoinPicked_watched (watched : h.waitView.Watched) (sys : Sys) :
    (h.wifiJoinPicked sys).waitView.Watched := by
  unfold wifiJoinPicked
  simp only
  split_ifs with refused unwanted enterprise known
  · exact watched
  · exact watched
  · exact watched
  all_goals
    have idle : h.join.connecting = false := by
      by_contra busy
      exact refused (.inr (.inl (by simpa using busy)))
    have free := not_connectInFlight watched.toSound idle
  · exact wifiConnect_watched (h := { h with join.connectNeedPass := true }) (by decide) watched
      free sys
  · exact wifiConnect_watched (h := { h with join.connectNeedPass := false }) (by decide) watched
      free sys

/-- And a forget, which aborts no join. -/
theorem wifiForget_watched (watched : h.waitView.Watched) (ssid : Text) (sys : Sys) :
    (h.wifiForget ssid sys).waitView.Watched := by
  rcases h.wifiForget_cases ssid sys with same | ⟨-, g, launches, -, argv, started, -, ends⟩
  · rw [same]
    exact watched
  · have waits : g.join.joinWaitLive = false :=
      launches.joinWaitLive.trans (h.beginForget_forgets ssid).joinWaitLive
    rcases ends with ⟨-, running, same⟩ | ⟨-, free, same⟩
    · rw [same]
      refine .of_idle waits fun _ kind => ?_
      rw [show g.waitView.kind = .forget from running.2] at kind
      cases kind
    · rw [same]
      exact .of_free waits free

/-- The queue passes the reports on. -/
theorem kickPending_watched (watched : h.waitView.Watched) (sys : Sys) :
    (h.kickPending sys).waitView.Watched := by
  unfold kickPending
  split_ifs with busy forgets joins scans links informs
  · exact watched
  · exact wifiForget_watched (h := { h with forget.wantForget := false }) watched _ sys
  · refine wifiConnect_watched (h := { h with join.wantConnect := false }) (by decide) watched
      ?_ sys
    exact fun running => busy running.1
  · exact wifiScan_watched (h := { h with want.scan := false }) watched sys
  · exact wifiLink_watched (h := { h with want.link := false }) ⟨watched.waits, watched.joins⟩ sys
  · exact wifiInfo_watched (h := { h with want.info := false }) ⟨watched.waits, watched.joins⟩ sys
  · exact watched

/-- The timers of the loop keep it fed. -/
theorem schedule_watched (watched : h.waitView.Watched) (now : Nat) (sys : Sys) :
    (h.schedule now sys).waitView.Watched := by
  unfold schedule
  split_ifs
  · exact wifiScan_watched watched sys
  · exact wifiInfo_watched watched.toSound sys
  · exact watched
  · exact watched

/-! ## The end of a job -/

/-- A join that is confirmed ends the wait. -/
theorem joinConfirmed_calm (h : Hud) : Calm (h.joinOver false) h.joinConfirmed :=
  ((h.joinOver false).markApActive_informs _).calm.trans rfl

/-- So does one whose time is over. -/
theorem joinTimedOut_calm (h : Hud) : Calm (h.joinOver true) h.joinTimedOut := by
  unfold joinTimedOut
  simp only
  generalize h.joinOver true = g
  generalize (if g.join.lastFailKind = .unknown then FailKind.timeout else g.join.lastFailKind) =
    kind
  have noted : Calm g { g with join.lastFailKind := kind } := rfl
  exact (noted.trans (fillFailStatus_informs _ _ _).calm).trans (.ite rfl (.refl _))

/-- A look at the wait leaves it alone or ends it. -/
theorem maybeConfirmJoin_cases (h : Hud) (now : Nat) : h.maybeConfirmJoin now = h ∨
    h.join.joinWaitLive = true ∧ (h.maybeConfirmJoin now).waitView =
      { h.waitView with joinWaitLive := false, connecting := false } := by
  unfold maybeConfirmJoin
  by_cases waiting : h.join.joinWaitLive = true
  · simp only
    split_ifs
    · exact .inl rfl
    · exact .inr ⟨waiting, h.joinConfirmed_calm⟩
    · exact .inl rfl
    · exact .inr ⟨waiting, h.joinTimedOut_calm⟩
  · exact .inl (if_pos (.inl (by simpa using waiting)))

/-- Past the limit a look at the wait ends it. -/
theorem maybeConfirmJoin_late {now : Nat} (named : h.bufs.connectSsid.text ≠ [])
    (set : h.join.tJoinWait ≠ 0) (late : joinWaitLimit < now - h.join.tJoinWait) :
    (h.maybeConfirmJoin now).join.joinWaitLive = false := by
  by_cases waits : h.join.joinWaitLive = true
  · have ended (failed : Bool) {g : Hud} (calm : Calm (h.joinOver failed) g) :
        g.join.joinWaitLive = false := congrArg WaitView.joinWaitLive calm
    unfold maybeConfirmJoin
    rw [if_neg (by simp [waits, named])]
    split
    · exact ended false h.joinConfirmed_calm
    · next down =>
        have fails : gwJoinConfirmFail true h.wifi.connected h.wifi.ssid.text
            h.bufs.connectSsid.text = true := by
          simpa [gwJoinConfirmOk, gwJoinConfirmFail] using down
        simp only [set, late, ne_eq, not_false_eq_true, and_self, decide_true, fails,
          Bool.true_eq_false, if_false]
        exact ended true h.joinTimedOut_calm
  · rw [maybeConfirmJoin, if_pos (.inl (by simpa using waits))]
    simpa using waits

/-- `maybe_confirm_join` keeps the wait fed. -/
theorem maybeConfirmJoin_watched (watched : h.waitView.Watched) (now : Nat) :
    (h.maybeConfirmJoin now).waitView.Watched := by
  rcases h.maybeConfirmJoin_cases now with same | ⟨waits, same⟩
  · rwa [same]
  · rw [same]
    exact watched.toSound.done waits

theorem maybeConfirmJoin_sound (sound : h.waitView.Sound) (now : Nat) :
    (h.maybeConfirmJoin now).waitView.Sound := by
  rcases h.maybeConfirmJoin_cases now with same | ⟨waits, same⟩
  · rwa [same]
  · rw [same]
    exact (sound.done waits).toSound

/-- The end of a device report asks for a link report. -/
theorem infoDone_watched (sound : h.waitView.Sound) (now : Nat) (out : Text) :
    (h.infoDone now out).waitView.Watched := by
  have parsed := (h.parseInfo_informs now out).calm
  unfold infoDone
  simp only
  generalize h.parseInfo now out = g at parsed ⊢
  rw [← show g.waitView = h.waitView from parsed] at sound
  refine maybeConfirmJoin_watched ?_ now
  split_ifs with asked
  · exact sound.link
  · exact ⟨sound, fun waits => absurd (.inr (.inr waits)) asked⟩

/-- The end of a link report asks for a device report. -/
theorem linkDone_watched (sound : h.waitView.Sound) (now : Nat) (out : Text) :
    (h.linkDone now out).waitView.Watched := by
  have parsed := (h.parseLink_informs out).calm
  unfold linkDone
  simp only
  rw [← show (h.parseLink out).waitView = h.waitView from parsed] at sound
  have kept := maybeConfirmJoin_sound sound now
  generalize (h.parseLink out).maybeConfirmJoin now = g at kept ⊢
  split_ifs with waits
  · exact kept.info
  · exact ⟨kept, fun still => absurd still waits⟩

/-- The end of a scan keeps the wait fed. -/
theorem scanDone_watched (watched : h.waitView.Watched) (now : Nat) (out : Text) :
    (h.scanDone now out).waitView.Watched := by
  have parsed := (h.parseScan_informs out).calm.watched watched
  unfold scanDone
  simp only
  generalize h.parseScan out = g at parsed ⊢
  refine maybeConfirmJoin_watched ?_ now
  split_ifs <;> exact parsed

/-- Forgetting a password leaves it alone. -/
theorem forgetPsk_calm (h : Hud) (ssid : Text) : Calm h (h.forgetPsk ssid) := by
  unfold forgetPsk
  exact .ite (.refl h) rfl

/-- The end of a forget job leaves the wait alone, and one that succeeded asks for a device
report. -/
theorem forgetDone_watched (watched : h.waitView.Watched) (rc : Nat) (out : Text) :
    (h.forgetDone rc out).waitView.Watched := by
  by_cases ended : rc = 0
  · let forgot := h.forget.forgetSsid.text
    let selected := h.scan.selectedSsid.text
    let marked := { h with forget.forgetting := false }.markApInactive
      (if forgot ≠ [] then forgot else selected)
    obtain ⟨wifi, tAssoc, same, -⟩ := marked.dropForgotten_writes forgot selected
    have dropped : Calm h (marked.dropForgotten forgot selected) := by
      rw [same]
      rfl
    have kept := dropped.trans (forgetPsk_calm _ selected)
    rw [forgetDone, if_pos ended]
    exact (kept.watched watched).toSound.info
  · rw [forgetDone, if_neg ended]
    have told := (setConnectStatus_informs { h with forget.forgetting := false }
      (if out ≠ [] then out else
        { h with forget.forgetting := false }.T "忘记失败" "Forget failed")).calm
    exact told.watched watched

/-- The job slot is free and no join waits. -/
theorem watched_of_free (free : h.job.pid = none) (idle : h.join.joinWaitLive = false)
    (calm : Calm h g) : g.waitView.Watched := calm.watched (.of_free idle free)

/-- **The end of a connect job.** A success is waited for by its name and its time. -/
theorem connectDone_watched (free : h.job.pid = none) (idle : h.join.joinWaitLive = false)
    {now rc : Nat} {out : Text} (credible : gwOnConnectJob (h.connectIn rc out) = .success →
      h.bufs.connectSsid.text ≠ [] ∧ now ≠ 0) (retry : Sys) :
    (h.connectDone now retry rc out).waitView.Watched := by
  unfold connectDone
  simp only
  cases act : gwOnConnectJob (h.connectIn rc out) with
  | success =>
      obtain ⟨named, timed⟩ := credible act
      refine maybeConfirmJoin_watched ?_ now
      exact ⟨⟨fun _ => ⟨named, rfl, timed⟩, fun busy => absurd free busy⟩, fun _ => .inr (.inl rfl)⟩
  | retryPsk =>
      refine wifiConnect_watched (h := (h.endConnect out).dropProbe) (by decide)
        (.of_free idle free) ?_ retry
      exact fun running => running.1 free
  | wrongPass =>
      apply watched_of_free (h := h.endConnect out) free idle
      generalize h.endConnect out = g
      unfold connectWrongPass
      simp only
      have dropped := g.forgetPsk_calm g.bufs.connectSsid.text
      generalize g.forgetPsk g.bufs.connectSsid.text = k at dropped ⊢
      have failed : Calm k { k with join.connectFail := true } := rfl
      exact (((dropped.trans failed).trans (fillFailStatus_informs _ _ _).calm).trans
        (selectJoined_informs _).calm).trans rfl
  | openPass =>
      apply watched_of_free (h := h.endConnect out) free idle
      generalize h.endConnect out = g
      unfold connectOpenPass
      simp only
      have failed : Calm g { g with join.connectFail := g.join.connectNeedPass } := rfl
      have told := (failed.trans (setConnectStatus_informs _
        (if out ≠ [] then out else txt "NEED_PASSWORD")).calm).trans (selectJoined_informs _).calm
      generalize selectJoined _ = k at told ⊢
      have opened : Calm k { k with ui.sheetTgt := .pass } := rfl
      exact (told.trans opened).trans (.ite rfl (.refl _))
  | waitPending => exact watched_of_free (h := h.endConnect out) free idle rfl
  | fail =>
      apply watched_of_free (h := h.endConnect out) free idle
      generalize h.endConnect out = g
      unfold connectFailed showFailure
      have failed : Calm g { g with join.connectFail := true } := rfl
      exact (failed.trans (fillFailStatus_informs _ _ _).calm).trans (.ite (.refl _) rfl)

/-- `poll_job` takes the end of a connect job for a success. -/
def ReportsSuccess (h : Hud) (poll : Poll) : Prop :=
  h.connectInFlight ∧ match poll.exit with
    | some exit => gwOnConnectJob (h.connectIn exit.rc (h.collected poll)) = .success
    | none => False

instance (h : Hud) (poll : Poll) : Decidable (h.ReportsSuccess poll) :=
  @instDecidableAnd _ _ _ <| match poll.exit with
    | some _ => inferInstanceAs (Decidable (_ = _))
    | none => .isFalse id

/-- **The script succeeds with a name only**, and the clock runs by then. -/
def Credible (h : Hud) : Event → Prop
  | .poll poll => h.ReportsSuccess poll → h.waitView.given ≠ some [] ∧ poll.now ≠ 0
  | _ => True

instance (h : Hud) (event : Event) : Decidable (h.Credible event) :=
  match event with
  | .input _ | .idleOff _ | .confirm _ | .animate _ | .render | .sample _ | .kick _
  | .schedule _ _ => .isTrue trivial
  | .poll _ => inferInstanceAs (Decidable (_ → _ ∧ _))

/-- **`poll_job` keeps the wait fed**, when a success is credible. -/
theorem pollJob_watched (watched : h.waitView.Watched) {poll : Poll}
    (credible : h.Credible (.poll poll)) : (h.pollJob poll).waitView.Watched := by
  by_cases free : h.job.pid = none
  · rwa [pollJob, if_pos free]
  cases ended : poll.exit with
  | none =>
      rw [pollJob, if_neg free]
      simp only [ended]
      exact watched
  | some exit =>
      rw [pollJob_ended free ended]
      refine kickPending_watched ?_ poll.kick
      generalize closed : ((h.readJob poll.first).readJob poll.rest).closeJob = g
      have view : g.waitView = { h.waitView with pid := none, argv := [] } := by
        rw [← closed]
        rfl
      have sound : g.waitView.Sound := view ▸ watched.toSound.close
      have other (kind : ¬(h.job.kind = .info ∨ h.job.kind = .link)) : g.waitView.Watched :=
        view ▸ watched.close kind
      cases kind : h.job.kind with
      | radio => exact (other (by simp [kind])).toSound.info
      | info => exact infoDone_watched sound _ _
      | scan => exact scanDone_watched (other (by simp [kind])) _ _
      | link => exact linkDone_watched sound _ _
      | forget => exact forgetDone_watched (other (by simp [kind])) _ _
      | connect =>
          obtain ⟨-, idle, given⟩ := watched.joins free kind
          have slot : g.job.pid = none := congrArg WaitView.pid view
          have waits : g.join.joinWaitLive = false :=
            (congrArg WaitView.joinWaitLive view).trans idle
          have named : g.bufs.connectSsid = h.bufs.connectSsid := congrArg WaitView.connectSsid view
          refine connectDone_watched slot waits (fun success => ?_) poll.retry
          have reports : h.ReportsSuccess poll := by
            refine ⟨⟨free, kind⟩, ?_⟩
            rw [ended]
            rw [← closed] at success
            exact success
          obtain ⟨nonempty, timed⟩ := credible reports
          rw [given] at nonempty
          rw [named]
          exact ⟨fun empty => nonempty (congrArg some empty), timed⟩

/-! ## The main loop -/

/-- A key keeps it fed. -/
theorem oskActivate_watched (watched : h.waitView.Watched) (k : OskKey) (sys : Sys) :
    (h.oskActivate k sys).waitView.Watched := by
  have fed (c : UInt8) : Calm h (h.oskFeed c) := by
    unfold oskFeed
    exact .ite (.refl h) rfl
  have erased : Calm h h.oskErase := by
    unfold oskErase
    exact .ite rfl (.refl h)
  unfold oskActivate
  cases k.kind with
  | char =>
      have typed := (fed k.ch).watched watched
      simp only
      split_ifs <;> exact typed
  | shift => exact watched
  | sym => exact watched
  | more => exact watched
  | space => exact (fed 32).watched watched
  | bksp => exact erased.watched watched
  | go => exact wifiSubmitPass_watched watched sys

/-- So does one that is let go. -/
theorem oskOnUp_watched (watched : h.waitView.Watched) (x y : Int) (sys : Sys) :
    (h.oskOnUp x y sys).1.waitView.Watched := by
  unfold oskOnUp
  split
  · exact watched
  · have laid := h.layoutKeys_handles.calm.watched watched
    generalize h.layoutKeys = g at laid ⊢
    simp only
    cases (g.oskKeyAt x y <|> g.osk.hi).bind fun i => g.osk.keys[i]? with
    | none => exact laid
    | some k => exact oskActivate_watched laid k sys

theorem tap_watched (watched : h.waitView.Watched) (x y : Int) (sys : Sys) :
    (h.tap x y sys).waitView.Watched := by
  have noted : (h.observe (.tap x y)).waitView.Watched := watched
  unfold tap
  simp only
  generalize h.observe (.tap x y) = g at noted ⊢
  split_ifs
  · unfold tapLang
    simp only
    split_ifs <;> exact noted
  · unfold tapPass
    split_ifs
    · exact noted
    · exact wifiSubmitPass_watched noted sys
    · exact noted
  · unfold tapDetail
    simp only
    split_ifs
    · exact noted
    · exact noted
    · exact wifiJoinPicked_watched noted sys
    · exact wifiForget_watched noted _ sys
    · exact noted
    · exact noted
  · unfold tapList
    simp only
    split_ifs
    · exact noted
    · exact noted
    · exact noted
    · exact noted
    · exact noted
    · exact wifiScan_watched noted sys
    · cases g.tapRow x y _ with
      | none => exact noted
      | some i =>
          have selected := (g.selectApIdx_informs i).calm.watched noted
          unfold tapSelect
          simp only
          split_ifs <;> exact selected
  · unfold tapHome
    simp only
    split_ifs
    · exact noted
    · exact wifiScan_watched (h := { g with ui.sheetTgt := .list }) noted sys
    · exact noted
    · exact noted

/-- The end of a contact keeps it fed. -/
theorem contactUp_watched (watched : h.waitView.Watched) (dev : Dev) (armed : Bool) (env : EvEnv) :
    (h.contactUp dev armed env).waitView.Watched := by
  have committed : Handles h (if h.light.draggingBl then h.commitBl else h) :=
    .ite h.commitBl_handles (.refl h)
  have kept := committed.calm.watched watched
  unfold contactUp
  simp only
  generalize (if h.light.draggingBl then h.commitBl else h) = g at kept ⊢
  split_ifs
  · exact oskOnUp_watched kept _ _ _
  · exact tap_watched kept _ _ _
  · exact kept

/-- Every input does. -/
theorem handleEv_watched (watched : h.waitView.Watched) (dev : Dev) (ev : Ev) (env : EvEnv) :
    (h.handleEv dev ev env).waitView.Watched := by
  cases found : h.evEnd dev ev env with
  | none => exact (handleEv_handles found).calm.watched watched
  | some c =>
      obtain ⟨before, after⟩ := handleEv_ends found
      exact after.calm.watched
        (contactUp_watched (before.calm.watched watched) c.dev c.armed c.env)

/-- **Every part of the main loop keeps the wait fed.** -/
theorem watched_step {event : Event} (watched : h.waitView.Watched) (credible : h.Credible event) :
    (h.step event).waitView.Watched := by
  cases event with
  | input input => exact handleEv_watched watched _ _ _
  | idleOff now => exact (h.idleOff_handles now).calm.watched watched
  | poll poll => exact pollJob_watched watched credible
  | confirm now => exact maybeConfirmJoin_watched watched now
  | animate animation =>
      refine Calm.watched (Handles.calm ?_) watched
      exact (h.animateSheet_handles animation).trans (animateList_handles _ _)
  | render => exact h.render_informs.calm.watched watched
  | sample sample => exact (h.sampleAll_informs sample).calm.watched watched
  | kick sys => exact kickPending_watched watched sys
  | schedule now sys => exact schedule_watched watched now sys

end Hud

/-- At the start no join waits. -/
theorem Boot.hud_watched (boot : Boot) : boot.hud.waitView.Watched := by
  obtain ⟨g, before, after⟩ := boot.hud_still
  have idle : g.join.joinWaitLive = false := congrArg NetView.joinWaitLive before
  have free : g.job.pid = none := congrArg NetView.pid before
  have asked : (g.wifiRadio boot.sys).join.joinWaitLive = false ∧
      ((g.wifiRadio boot.sys).job.pid ≠ none → (g.wifiRadio boot.sys).job.kind = .radio) := by
    unfold Hud.wifiRadio Hud.startReport
    rcases Hud.startNmcli_cases .radio
      [txt "nmcli", txt "-c", txt "no", txt "radio", txt "wifi", txt "on"] boot.sys.spawn g with
      ⟨pid, -, same⟩ | ⟨line, same⟩
    · rw [same]
      exact ⟨idle, fun _ => rfl⟩
    · rw [same]
      exact ⟨idle, fun busy => absurd free busy⟩
  have waits : boot.hud.join.joinWaitLive = false :=
    (congrArg NetView.joinWaitLive after).trans asked.1
  have pid : boot.hud.job.pid = (g.wifiRadio boot.sys).job.pid := congrArg NetView.pid after
  have kind : boot.hud.job.kind = (g.wifiRadio boot.sys).job.kind := congrArg NetView.kind after
  refine .of_idle waits fun busy connects => ?_
  have radio := asked.2 (pid ▸ busy)
  rw [← kind, show boot.hud.job.kind = .connect from connects] at radio
  cases radio

namespace Hud

/-- **A join that waits is never starved.** In every state of every run whose successes are
credible, so also at the end of every iteration of the main loop, a join that waits for its
confirmation has a name and a time, and a report that can confirm it is queued or in flight;
and a look at it after the limit ends the wait. -/
theorem wait_never_starved (boot : Boot) {events : List Event}
    (credible : EachStep step Credible boot.hud events) :
    Always step (fun h => h.join.joinWaitLive = true →
      h.bufs.connectSsid.text ≠ [] ∧ h.join.connecting = true ∧ h.join.tJoinWait ≠ 0 ∧
        (h.job.pid ≠ none ∧ (h.job.kind = .info ∨ h.job.kind = .link) ∨
          h.want.info = true ∨ h.want.link = true) ∧
        ∀ now, joinWaitLimit < now - h.join.tJoinWait →
          (h.maybeConfirmJoin now).join.joinWaitLive = false) boot.hud events := by
  have preserves : ∀ h event, (waitView h).Watched → Credible h event →
      (waitView (step h event)).Watched :=
    fun h event watched credible => watched_step watched credible
  have always : Always step (fun h => (waitView h).Watched) boot.hud events :=
    always_of_eachStep preserves boot.hud_watched credible
  refine always.mono fun h watched waits => ?_
  obtain ⟨named, joining, set⟩ := watched.waits waits
  exact ⟨named, joining, set, watched.asks waits,
    fun now late => maybeConfirmJoin_late named set late⟩

/-- The user selects a network and joins it, and the script succeeds. -/
def joinedFrames : List Frame :=
  submitFrames.take 3 ++ [iterationAt 32 (tapAt 500 2080 30) (.running forks),
    iterationAt 40 [] (.ended "" 0 forks)]

/-- A phone on which children can be started. -/
def phoneBoot : Boot := { W := 1080, H := 2340, sys := forks }

/-- The wait for the network that has been joined. -/
theorem wait_never_starved_joined :
    let h := run step phoneBoot.hud (loopEvents joinedFrames)
    h.join.joinWaitLive = true ∧ h.bufs.connectSsid.text = txt "Home" ∧
      (h.job.pid ≠ none ∧ (h.job.kind = .info ∨ h.job.kind = .link) ∨
        h.want.info = true ∨ h.want.link = true) := by
  have waits : (run step phoneBoot.hud (loopEvents joinedFrames)).join.joinWaitLive = true := by
    decide +kernel
  have credible : EachStep step Credible phoneBoot.hud (loopEvents joinedFrames) := by
    decide +kernel
  obtain ⟨-, -, -, asks, -⟩ := (wait_never_starved phoneBoot credible).last waits
  exact ⟨waits, by decide +kernel, asks⟩

/-- A password submitted again loses the name of the join. If the script took that for a
success, the join would wait for a network without a name, and nothing would end the wait. -/
theorem nameless_wait :
    let h := run step phoneBoot.hud
      (loopEvents (submitFrames ++ [iterationAt 220 [] (.ended "已连接" 0 forks)]))
    h.join.joinWaitLive = true ∧ h.bufs.connectSsid.text = [] := by
  decide +kernel

end Hud

end Ginkgo
