import Ginkgo.Flow.Connects

/-!
# A join and a forget exclude each other

A join releases the forget hold and keeps the HUD busy, and a forget drops the join in progress
and the queued one. Therefore the hold and a join never stand side by side, and nothing is
queued while a forget is under way. `Ginkgo.Hud.Exclusive` says so and holds in every state of
every run (`Ginkgo.Hud.Reachable.exclusive`); other invariants of the network state may rely on
it (`Ginkgo.Hud.always_of_effects`).
-/

namespace Ginkgo

open CText Transition

namespace Hud

/-- **A join and a forget exclude each other.** -/
structure Exclusive (h : Hud) : Prop where
  unasked : h.forget.wantForget = false
  connects : h.job.pid ≠ none → h.job.kind = .connect →
    h.join.connecting = true ∧ h.join.joinWaitLive = false
  forgets : h.job.pid ≠ none → h.job.kind = .forget → h.forget.forgetting = true
  apart : h.forget.forgetting = true →
    h.join.connecting = false ∧ h.join.joinWaitLive = false ∧ h.join.wantConnect = false
  released : h.join.connecting = true ∨ h.join.joinWaitLive = true ∨ h.join.wantConnect = true →
    h.forget.forgetSsid.text = []

/-- A change that leaves the joins and the job slot alone, starts nothing and can at most release
the hold. -/
structure Softens (h h' : Hud) : Prop where
  connecting : h'.join.connecting = h.join.connecting
  joinWaitLive : h'.join.joinWaitLive = h.join.joinWaitLive
  wantConnect : h'.join.wantConnect = h.join.wantConnect
  pid : h'.job.pid = h.job.pid
  kind : h'.job.kind = h.job.kind
  forgetting : h'.forget.forgetting = h.forget.forgetting
  wantForget : h'.forget.wantForget = h.forget.wantForget
  hold : h'.forget.forgetSsid = h.forget.forgetSsid ∨ h'.forget.forgetSsid = .empty 96
  starts : startsOf h'.trace = startsOf h.trace

theorem Softens.trans {h g h' : Hud} (first : Softens h g) (second : Softens g h') :
    Softens h h' where
  connecting := second.connecting.trans first.connecting
  joinWaitLive := second.joinWaitLive.trans first.joinWaitLive
  wantConnect := second.wantConnect.trans first.wantConnect
  pid := second.pid.trans first.pid
  kind := second.kind.trans first.kind
  forgetting := second.forgetting.trans first.forgetting
  wantForget := second.wantForget.trans first.wantForget
  hold := by
    rcases second.hold with same | empty
    · rw [same]
      exact first.hold
    · exact .inr empty
  starts := second.starts.trans first.starts

/-- What leaves the network state alone softens. -/
theorem Still.softens {h h' : Hud} (same : Still h h') : Softens h h' where
  connecting := congrArg NetView.connecting same
  joinWaitLive := congrArg NetView.joinWaitLive same
  wantConnect := congrArg NetView.wantConnect same
  pid := congrArg NetView.pid same
  kind := congrArg NetView.kind same
  forgetting := congrArg (fun view : NetView => view.forget.forgetting) same
  wantForget := congrArg (fun view : NetView => view.forget.wantForget) same
  hold := .inl (congrArg (fun view : NetView => view.forget.forgetSsid) same)
  starts := congrArg NetView.starts same

/-- A reported name does. -/
theorem applyWifiSsid_softens (h : Hud) (name : Text) : Softens h (h.applyWifiSsid name) := by
  obtain ⟨hold, ssid, same, released⟩ := h.applyWifiSsid_writes name
  rw [same]
  exact ⟨rfl, rfl, rfl, rfl, rfl, rfl, rfl, released, rfl⟩

/-- What a device list says does. -/
theorem applyInfo_softens (h : Hud) (now : Nat) (seen : InfoScan) :
    Softens h (h.applyInfo now seen) := by
  obtain ⟨wifi, hold, tAssoc, same, released, -⟩ := h.applyInfo_writes now seen
  rw [same]
  exact ⟨rfl, rfl, rfl, rfl, rfl, rfl, rfl, released, rfl⟩

/-- A name that is brought does. -/
theorem Named.softens {h h' : Hud} (named : Named h h') : Softens h h' := by
  cases named with
  | still same => exact same.softens
  | named name g before after =>
      exact (before.softens.trans (g.applyWifiSsid_softens name)).trans after.softens

/-- A scan replaces the rows and may bring a live name. -/
theorem parseScan_named (h : Hud) (buf : Text) :
    ∃ g, Still h g ∧ Named { g with
      scan.aps := ((lines (if scanError buf then cutAt newline buf else buf)).filterMap
        (parseScanRow g.forget.forgetSsid.text)).take maxAp } (h.parseScan buf) := by
  unfold parseScan
  simp only
  generalize (if scanError buf then cutAt newline buf else buf) = report
  have told : Still h (if scanError buf then h.setStatus (Buf.print 96 report).text else h) :=
    .ite rfl (.refl h)
  generalize (if scanError buf then h.setStatus (Buf.print 96 report).text else h) = g at told ⊢
  exact ⟨g, told, (applyActiveAp_named _).after (reselectAp_still _)⟩

/-- A scan does. -/
theorem parseScan_softens (h : Hud) (buf : Text) : Softens h (h.parseScan buf) := by
  obtain ⟨g, told, named⟩ := h.parseScan_named buf
  refine told.softens.trans (Softens.trans ?_ named.softens)
  exact ⟨rfl, rfl, rfl, rfl, rfl, rfl, rfl, .inl rfl, rfl⟩

/-- The end of a forget job takes the flag back and leaves the joins alone. -/
theorem forgetDone_frame (h : Hud) (rc : Nat) (out : Text) :
    (h.forgetDone rc out).join = h.join ∧ (h.forgetDone rc out).job = h.job ∧
      (h.forgetDone rc out).forget = { h.forget with forgetting := false } := by
  obtain ⟨wifi, tAssoc, aps, active, ssid, psk, sheet, line, want, same, -⟩ :=
    h.forgetDone_writes rc out
  rw [same]
  exact ⟨rfl, rfl, rfl⟩

namespace Exclusive

variable {h g g' : Hud} {event : Event} {ssid : Arg}

/-- What softens keeps a join and a forget apart. -/
theorem soften (softens : Softens g g') (exclusive : Exclusive g) : Exclusive g' where
  unasked := softens.wantForget.trans exclusive.unasked
  connects := by
    rw [softens.pid, softens.kind, softens.connecting, softens.joinWaitLive]
    exact exclusive.connects
  forgets := by
    rw [softens.pid, softens.kind, softens.forgetting]
    exact exclusive.forgets
  apart := by
    rw [softens.forgetting, softens.connecting, softens.joinWaitLive, softens.wantConnect]
    exact exclusive.apart
  released := by
    rw [softens.connecting, softens.joinWaitLive, softens.wantConnect]
    intro joining
    rcases softens.hold with same | empty
    · rw [same]
      exact exclusive.released joining
    · rw [empty]
      exact Buf.empty_text

/-- No forget is under way while a join is in progress. -/
theorem unforgetting (exclusive : Exclusive g) (busy : g.join.connecting = true) :
    g.forget.forgetting = false := by
  by_contra forgetting
  have idle := (exclusive.apart (by simpa using forgetting)).1
  rw [busy] at idle
  cases idle

/-- No forget is under way while a join is queued. -/
theorem unforgetting_of_wants (exclusive : Exclusive g) (wants : g.join.wantConnect = true) :
    g.forget.forgetting = false := by
  by_contra forgetting
  have idle := (exclusive.apart (by simpa using forgetting)).2.2
  rw [wants] at idle
  cases idle

/-- A call of `wifi_connect` while no forget is under way. -/
theorem connect (connects : Connects ssid g g') (free : g.forget.forgetting = false)
    (unasked : g.forget.wantForget = false) : Exclusive g' where
  unasked := by rw [connects.forget]; exact unasked
  connects := fun _ _ => ⟨connects.connecting, connects.joinWaitLive⟩
  forgets := by
    intro busy kind
    rcases connects.slot with ⟨running, -, same, -⟩ | ⟨-, -, started, -⟩
    · rw [same, running.2] at kind
      cases kind
    · rw [started busy] at kind
      cases kind
  apart := by
    intro forgetting
    rw [connects.forget] at forgetting
    rw [free] at forgetting
    cases forgetting
  released := by
    intro _
    rw [connects.forget]
    exact Buf.empty_text

/-- A call that submits the password. -/
theorem submit (exclusive : Exclusive g) (submits : Submits g g') : Exclusive g' := by
  cases submits with
  | refused same => exact exclusive.soften same.softens
  | queued k free busy prepared launches slot past =>
      have connecting : g'.join.connecting = true :=
        (launches.connecting.trans prepared.connecting).trans busy
      have forget : g'.forget = g.forget := launches.forget.trans prepared.forget
      have waits : g'.join.joinWaitLive = g.join.joinWaitLive :=
        launches.joinWaitLive.trans prepared.joinWaitLive
      have pid : g'.job.pid = g.job.pid := (congrArg Job.pid slot).trans prepared.pid
      have kind : g'.job.kind = g.job.kind := (congrArg Job.kind slot).trans prepared.kind
      refine ⟨forget ▸ exclusive.unasked, ?_, ?_, ?_, ?_⟩
      · rw [pid, kind, connecting, waits]
        exact fun running kind => ⟨rfl, (exclusive.connects running kind).2⟩
      · rw [pid, kind, forget]
        exact exclusive.forgets
      · rw [forget, free]
        exact (absurd · Bool.false_ne_true)
      · intro _
        rw [forget]
        exact exclusive.released (.inl busy)
  | called ssid k free idle prepared connects =>
      have forget := prepared.forget
      exact connect connects (forget ▸ free) (forget ▸ exclusive.unasked)

/-- A call that forgets a network. -/
theorem forget (exclusive : Exclusive g) (ssid : Text) (sys : Sys) :
    Exclusive (g.wifiForget ssid sys) := by
  rcases g.wifiForget_cases ssid sys with same | ⟨-, k, launches, wants, argv, started, -, ends⟩
  · rw [same]
    exact exclusive
  · have begun := g.beginForget_forgets ssid
    have connecting : k.join.connecting = false :=
      (congrArg NetView.connecting launches.net).trans begun.connecting
    have waits : k.join.joinWaitLive = false :=
      (congrArg NetView.joinWaitLive launches.net).trans begun.joinWaitLive
    have forget : k.forget = { g.forget with forgetting := true, forgetSsid := .print 96 ssid } :=
      (congrArg NetView.forget launches.net).trans begun.forget
    have idle : ¬(k.join.connecting = true ∨ k.join.joinWaitLive = true ∨
        k.join.wantConnect = true) := by
      simp [connecting, waits, wants]
    rcases ends with ⟨-, kind, same⟩ | ⟨-, free, same⟩
    · rw [same]
      refine ⟨?_, ?_, ?_, fun _ => ⟨connecting, waits, wants⟩, fun joining => absurd joining idle⟩
      · rw [forget]
        exact exclusive.unasked
      · intro _ other
        rw [kind.2] at other
        cases other
      · intro _ _
        rw [forget]
    · rw [same]
      refine ⟨?_, fun busy => absurd free busy, fun busy => absurd free busy,
        fun forgetting => absurd forgetting (by simp), fun joining => absurd joining idle⟩
      change k.forget.wantForget = false
      rw [forget]
      exact exclusive.unasked

/-- The start of a report. -/
theorem report (exclusive : Exclusive g) {kind : JobKind} (argv : List Text) (spawn : Spawn)
    (other : kind ≠ .connect) (nor : kind ≠ .forget) :
    Exclusive (startNmcli kind argv spawn g).1 := by
  rcases startNmcli_cases kind argv spawn g with ⟨pid, -, started⟩ | ⟨line, started⟩
  · rw [started]
    exact ⟨exclusive.unasked, fun _ same => absurd same other, fun _ same => absurd same nor,
      exclusive.apart, exclusive.released⟩
  · rw [started]
    exact ⟨exclusive.unasked, exclusive.connects, exclusive.forgets, exclusive.apart,
      exclusive.released⟩

/-- **Every change keeps a join and a forget apart.** -/
theorem effect (effect : Effect h event g g') (exclusive : Exclusive g) : Exclusive g' := by
  cases effect with
  | still same => exact exclusive.soften same.softens
  | submitted sys asked same => exact exclusive.submit (g.wifiSubmitPass_submits sys)
  | joined sys asked same =>
      rcases g.wifiJoinPicked_cases sys with still | ⟨idle, free, connects⟩
      · exact exclusive.soften still.softens
      · exact connect connects free exclusive.unasked
  | forgot ssid sys asked same => exact exclusive.forget ssid.text sys
  | reported kind argv spawn other nor => exact exclusive.report argv spawn other nor
  | named name => exact exclusive.soften (g.applyWifiSsid_softens name)
  | closed =>
      exact ⟨exclusive.unasked, fun busy => absurd rfl busy, fun busy => absurd rfl busy,
        exclusive.apart, exclusive.released⟩
  | informed now seen => exact exclusive.soften (g.applyInfo_softens now seen)
  | listed poll exit polled ended running kind => exact exclusive.soften (g.parseScan_softens _)
  | waited failed waits =>
      refine ⟨exclusive.unasked, fun running kind => ?_, exclusive.forgets,
        fun forgetting => ?_, ?_⟩
      · have idle := (exclusive.connects running kind).2
        rw [waits] at idle
        cases idle
      · exact ⟨rfl, rfl, (exclusive.apart forgetting).2.2⟩
      · exact fun joining => exclusive.released (.inr (.inl waits))
  | confirmed up =>
      apply exclusive.soften
      unfold markApActive
      split <;> exact ⟨rfl, rfl, rfl, rfl, rfl, rfl, rfl, .inl rfl, rfl⟩
  | ended out running =>
      obtain ⟨busy, idle⟩ := exclusive.connects running.1 running.2
      refine ⟨exclusive.unasked, fun busy => absurd rfl busy, fun busy => absurd rfl busy,
        fun forgetting => ?_, fun _ => exclusive.released (.inl busy)⟩
      have free := exclusive.unforgetting busy
      exact absurd (free.symm.trans forgetting) (by decide)
  | succeeded out now running =>
      have busy := (exclusive.connects running.1 running.2).1
      refine ⟨exclusive.unasked, fun busy => absurd rfl busy, fun busy => absurd rfl busy,
        fun forgetting => ?_, fun _ => exclusive.released (.inl busy)⟩
      have free := exclusive.unforgetting busy
      exact absurd (free.symm.trans forgetting) (by decide)
  | dropped ssid =>
      apply exclusive.soften
      unfold forgetPsk
      split <;> exact ⟨rfl, rfl, rfl, rfl, rfl, rfl, rfl, .inl rfl, rfl⟩
  | retried rc out sys running decided =>
      have free := exclusive.unforgetting (exclusive.connects running.1 running.2).1
      exact connect (connectRetryPsk_connects decided sys) free exclusive.unasked
  | forgetEnded rc out running kind =>
      obtain ⟨join, job, forget⟩ := g.closeJob.forgetDone_frame rc out
      have free : (g.closeJob.forgetDone rc out).job.pid = none := by rw [job]; rfl
      refine ⟨forget ▸ exclusive.unasked, fun busy => absurd free busy,
        fun busy => absurd free busy, ?_, ?_⟩
      · rw [forget]
        exact (absurd · Bool.false_ne_true)
      · rw [join, forget]
        exact exclusive.released
  | requeued sys wants =>
      rw [exclusive.unasked] at wants
      cases wants
  | kicked sys free wants =>
      have unforgetting := exclusive.unforgetting_of_wants wants
      rcases wifiConnect_cases { g with join.wantConnect := false } (.var .pendSsid)
        (.var .pendPass) (.var .pendSec) sys with same | called
      · rw [same]
        exact ⟨exclusive.unasked, exclusive.connects, exclusive.forgets,
          fun forgetting => absurd (unforgetting.symm.trans forgetting) (by decide),
          fun _ => exclusive.released (.inr (.inr wants))⟩
      · exact connect called unforgetting exclusive.unasked

end Exclusive

/-- What every change keeps, given that a join and a forget exclude each other, every step
keeps. -/
theorem step_exclusive_keeps {predicate : Hud → Prop} {h : Hud} {event : Event}
    (keeps : ∀ g g', Effect h event g g' → Exclusive g → predicate g → predicate g')
    (exclusive : Exclusive h) (initial : predicate h) :
    Exclusive (h.step event) ∧ predicate (h.step event) := by
  have kept : ∀ g g', Effect h event g g' → Exclusive g ∧ predicate g →
      Exclusive g' ∧ predicate g' :=
    fun g g' effect before => ⟨before.1.effect effect, keeps g g' effect before.1 before.2⟩
  exact (h.step_effects event).keep kept ⟨exclusive, initial⟩

/-- **Every step keeps a join and a forget apart.** -/
theorem exclusive_step {h : Hud} (exclusive : Exclusive h) (event : Event) :
    Exclusive (h.step event) :=
  (h.step_effects event).keep (fun _ _ effect before => before.effect effect) exclusive

end Hud

/-- At the start nothing is under way. -/
theorem Boot.blank_exclusive (boot : Boot) : boot.blank.Exclusive :=
  ⟨rfl, fun busy => absurd rfl busy, fun busy => absurd rfl busy, nofun, fun _ => rfl⟩

/-- What the start of the program leaves alone and the first report keeps. -/
theorem Boot.hud_keeps {predicate : Hud → Prop} (boot : Boot)
    (still : ∀ g g', Hud.Still g g' → predicate g → predicate g')
    (started : ∀ g argv spawn, predicate g → predicate (Hud.startNmcli .radio argv spawn g).1)
    (initial : predicate boot.blank) : predicate boot.hud := by
  obtain ⟨g, before, after⟩ := boot.hud_still
  apply still _ _ after
  unfold Hud.wifiRadio Hud.startReport
  simp only
  generalize [txt "nmcli", txt "-c", txt "no", txt "radio", txt "wifi", txt "on"] = argv
  have asked : predicate (Hud.startNmcli .radio argv boot.sys.spawn g).1 :=
    started g argv boot.sys.spawn (still _ _ before initial)
  refine still _ _ (.ite (.refl _) ?_) asked
  rfl

/-- At the start of the loop they are. -/
theorem Boot.hud_exclusive (boot : Boot) : boot.hud.Exclusive := by
  refine boot.hud_keeps (fun _ _ same before => before.soften same.softens) ?_ boot.blank_exclusive
  exact fun g argv spawn before => before.report argv spawn (by decide) (by decide)

namespace Hud

/-- They are in every reachable state. -/
theorem Reachable.exclusive {h : Hud} (reachable : h.Reachable) : h.Exclusive := by
  obtain ⟨boot, events, rfl⟩ := reachable
  have preserves : ∀ g event, Exclusive g → Exclusive (step g event) :=
    fun g event before => exclusive_step before event
  exact run_of_invariant preserves boot.hud_exclusive events

/-- **An invariant of the network state**: what the start keeps and every change made by a step
that meets the condition keeps holds throughout every run of such steps. -/
theorem always_of_effects {predicate : Hud → Prop} {condition : Hud → Event → Prop} (boot : Boot)
    (initial : predicate boot.hud)
    (keeps : ∀ h event, Exclusive h → predicate h → condition h event → ∀ g g',
      Effect h event g g' → Exclusive g → predicate g → predicate g')
    {events : List Event} (each : EachStep step condition boot.hud events) :
    Always step (fun h => Exclusive h ∧ predicate h) boot.hud events := by
  refine always_of_eachStep (fun h event before meets => ?_) ⟨boot.hud_exclusive, initial⟩ each
  exact step_exclusive_keeps (keeps h event before.1 before.2 meets) before.1 before.2

end Hud

end Ginkgo
