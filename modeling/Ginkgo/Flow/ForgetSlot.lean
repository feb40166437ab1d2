import Ginkgo.Flow.FailedForget

/-!
# A forget owns the job slot

`wifi_connect` and `wifi_forget` kill whatever else runs before they start their own job, so a
forget is safe only because neither is called while it runs: `forgetting` keeps the user's calls
out, and the queue is empty. `Ginkgo.Hud.forget_owns_slot` says that the flag stands exactly as
long as the forget job is in flight, and that the job which was started runs until `poll_job`
acts on its exit.
-/

namespace Ginkgo

open CText Transition

/-- The children that were started, the latest first. -/
def childrenOf (trace : List Obs) : List (JobKind × List Text × Bool) :=
  (startsOf trace).filter fun start => start.2.2

/-- `poll_job` is told that the child has ended. -/
def Event.reaps : Event → Prop
  | .poll told => told.exit ≠ none
  | _ => False

/-- A poll that finds the child ended. -/
theorem Event.reaps_of {event : Event} {poll : Poll} {exit : Exit} (polled : event = .poll poll)
    (ended : poll.exit = some exit) : event.reaps := by
  subst polled
  change poll.exit ≠ none
  rw [ended]
  exact nofun

namespace Hud

/-- **The flag of the forget is the forget job**, and no join is under way beside it. -/
structure ForgetOwned (h : Hud) : Prop where
  owns : h.forget.forgetting = true ↔ h.forgetInFlight
  alone : h.forgetInFlight → h.join.connecting = false ∧ h.join.joinWaitLive = false

/-- The job slot holds the same child as before. -/
structure SameChild (h h' : Hud) : Prop where
  pid : h'.job.pid = h.job.pid
  kind : h'.job.kind = h.job.kind
  children : childrenOf h'.trace = childrenOf h.trace

/-- **The step kills no forget job**: the one in flight stays in the slot unless the step acts on
its exit, and one that the step starts is in flight after it. -/
structure ForgetSpared (h : Hud) (event : Event) : Prop where
  kept : h.forgetInFlight → ¬event.reaps → SameChild h (h.step event)
  ended : h.forgetInFlight → ∀ poll exit, event = .poll poll → poll.exit = some exit →
    h.step event = (h.closeJob.forgetDone exit.rc (h.collected poll)).kickPending poll.kick
  begun : ∀ newer, startsOf (h.step event).trace = newer ++ startsOf h.trace →
    ∀ argv, (.forget, argv, true) ∈ newer → (h.step event).forgetInFlight

variable {h g g' : Hud} {event : Event}

theorem SameChild.refl (h : Hud) : SameChild h h := ⟨rfl, rfl, rfl⟩

/-- Two changes that leave it, one after the other. -/
theorem SameChild.trans (first : SameChild h g) (second : SameChild g g') : SameChild h g' :=
  ⟨second.pid.trans first.pid, second.kind.trans first.kind,
    second.children.trans first.children⟩

/-- A forget job that is in flight stays so. -/
theorem SameChild.running (same : SameChild h g) (running : h.forgetInFlight) :
    g.forgetInFlight :=
  ⟨same.pid ▸ running.1, same.kind ▸ running.2⟩

/-- What softens leaves the child. -/
theorem Softens.sameChild (softens : Softens g g') : SameChild g g' :=
  ⟨softens.pid, softens.kind, congrArg (List.filter _) softens.starts⟩

/-! ## What a change does to the forget job -/

/-- While a forget job is in flight, a change leaves it in the slot, unless it is the end of the
job. -/
theorem Effect.sameChild (effect : Effect h event g g') (exclusive : Exclusive g)
    (running : g.forgetInFlight) (goes : ¬event.reaps) : SameChild g g' := by
  have forgetting := exclusive.forgets running.1 running.2
  have taken {condition : Prop} (free : g.forget.forgetting = false) : condition :=
    absurd (free.symm.trans forgetting) (by decide)
  have unconnected : ¬g.connectInFlight := fun other => by
    have kind := running.2
    rw [other.2] at kind
    cases kind
  cases effect with
  | still same => exact same.softens.sameChild
  | submitted sys asked same =>
      cases g.wifiSubmitPass_submits sys with
      | refused same => exact same.softens.sameChild
      | queued k free busy prepared launches slot past => exact taken free
      | called ssid k free idle prepared connects => exact taken free
  | joined sys asked same =>
      rcases g.wifiJoinPicked_cases sys with still | ⟨-, free, -⟩
      · exact still.softens.sameChild
      · exact taken free
  | forgot ssid sys asked same =>
      rw [wifiForget_of_inFlight running]
      exact .refl g
  | reported kind argv spawn other nor =>
      rcases startNmcli_cases kind argv spawn g with ⟨pid, free, -⟩ | ⟨line, started⟩
      · exact absurd free running.1
      · rw [started]
        exact ⟨rfl, rfl, rfl⟩
  | named name => exact (g.applyWifiSsid_softens name).sameChild
  | closed other => exact absurd running.2 other
  | informed now seen => exact (g.applyInfo_softens now seen).sameChild
  | listed poll exit polled ended running kind => exact (g.parseScan_softens _).sameChild
  | waited failed waits => exact ⟨rfl, rfl, rfl⟩
  | confirmed up =>
      unfold markApActive
      split <;> exact ⟨rfl, rfl, rfl⟩
  | ended out connects => exact absurd connects unconnected
  | succeeded out now connects => exact absurd connects unconnected
  | dropped ssid =>
      unfold forgetPsk
      split <;> exact ⟨rfl, rfl, rfl⟩
  | retried rc out sys connects decided => exact absurd connects unconnected
  | forgetEnded rc out _ _ polled ended => exact absurd (Event.reaps_of polled ended) goes
  | requeued sys wants =>
      rw [exclusive.unasked] at wants
      cases wants
  | kicked sys free wants => exact absurd free running.1

/-- The flag is set by a start of the job and taken back by its end. -/
theorem Effect.forgetting (effect : Effect h event g g') (exclusive : Exclusive g)
    (owned : g.forget.forgetting = true → g.forgetInFlight) :
    g'.forget.forgetting = true → g'.forgetInFlight := by
  have softened (softens : Softens g g') :
      g'.forget.forgetting = true → g'.forgetInFlight := fun forgetting =>
    softens.sameChild.running (owned (softens.forgetting.symm.trans forgetting))
  have idle {k : Hud} (free : g.forget.forgetting = false) (same : k.forget.forgetting =
      g.forget.forgetting) : k.forget.forgetting = true → k.forgetInFlight := fun forgetting =>
    absurd ((same.trans free).symm.trans forgetting) (by decide)
  have ending (connects : g.connectInFlight) : g.forget.forgetting = false :=
    exclusive.unforgetting (exclusive.connects connects.1 connects.2).1
  cases effect with
  | still same => exact softened same.softens
  | submitted sys asked same =>
      cases g.wifiSubmitPass_submits sys with
      | refused same => exact softened same.softens
      | queued k free busy prepared launches slot past =>
          exact idle free (congrArg Forget.forgetting (launches.forget.trans prepared.forget))
      | called ssid k free unqueued prepared connects =>
          apply idle free
          rw [connects.forget, prepared.forget]
  | joined sys asked same =>
      rcases g.wifiJoinPicked_cases sys with still | ⟨-, free, connects⟩
      · exact softened still.softens
      · exact idle free (by rw [connects.forget])
  | forgot ssid sys asked same =>
      rcases g.wifiForget_cases ssid.text sys with same | ⟨-, k, -, -, argv, started, -, ends⟩
      · rw [same]
        exact owned
      · rcases ends with ⟨-, runs, same⟩ | ⟨-, -, same⟩
        · rw [same]
          exact fun _ => runs
        · rw [same]
          exact (absurd · Bool.false_ne_true)
  | reported kind argv spawn other nor =>
      rcases startNmcli_cases kind argv spawn g with ⟨pid, free, started⟩ | ⟨line, started⟩
      · rw [started]
        exact fun forgetting => absurd free (owned forgetting).1
      · rw [started]
        exact owned
  | named name => exact softened (g.applyWifiSsid_softens name)
  | closed other => exact fun forgetting => absurd (owned forgetting).2 other
  | informed now seen => exact softened (g.applyInfo_softens now seen)
  | listed poll exit polled ended running kind => exact softened (g.parseScan_softens _)
  | waited failed waits => exact owned
  | confirmed up =>
      unfold markApActive
      split <;> exact owned
  | ended out connects => exact idle (ending connects) rfl
  | succeeded out now connects => exact idle (ending connects) rfl
  | dropped ssid =>
      unfold forgetPsk
      split <;> exact owned
  | retried rc out sys connects decided =>
      apply idle (ending connects)
      rw [(connectRetryPsk_connects decided sys).forget]
      rfl
  | forgetEnded rc out running kind polled ended =>
      rw [(g.closeJob.forgetDone_frame rc out).2.2]
      exact (absurd · Bool.false_ne_true)
  | requeued sys wants =>
      rw [exclusive.unasked] at wants
      cases wants
  | kicked sys free wants =>
      have unforgetting := exclusive.unforgetting_of_wants wants
      rcases wifiConnect_cases { g with join.wantConnect := false } (.var .pendSsid)
        (.var .pendPass) (.var .pendSec) sys with same | called
      · rw [same]
        exact owned
      · exact idle unforgetting (by rw [called.forget])

/-! ## What a step does to it -/

/-- Where a join and a forget exclude each other, the flag is all that is to be shown. -/
theorem forgetOwned_of (exclusive : Exclusive h)
    (owned : h.forget.forgetting = true → h.forgetInFlight) : ForgetOwned h where
  owns := ⟨owned, fun running => exclusive.forgets running.1 running.2⟩
  alone running := by
    have apart := exclusive.apart (exclusive.forgets running.1 running.2)
    exact ⟨apart.1, apart.2.1⟩

/-- **Every step keeps the flag with its job.** -/
theorem step_forgetOwned (exclusive : Exclusive h) (owned : ForgetOwned h) (event : Event) :
    ForgetOwned (h.step event) := by
  have keeps := fun g g' (effect : Effect h event g g') exclusive =>
    effect.forgetting exclusive
  have kept := step_exclusive_keeps keeps exclusive owned.owns.mp
  exact forgetOwned_of kept.1 kept.2

/-- A forget job that a step starts is in flight after it. -/
theorem started_forget_runs (exclusive : Exclusive h)
    {newer : List (JobKind × List Text × Bool)} {argv : List Text}
    (past : startsOf (h.step event).trace = newer ++ startsOf h.trace)
    (started : (.forget, argv, true) ∈ newer) : (h.step event).forgetInFlight := by
  have asked : ∃ ssid, h.request event = some (.forget ssid) := by
    by_contra unasked
    obtain ⟨others, same, none⟩ := unasked_starts exclusive (not_exists.mp unasked)
    have equal := List.append_cancel_right (past.symm.trans same)
    exact none _ (equal ▸ started) rfl
  obtain ⟨ssid, asked⟩ := asked
  cases event with
  | input input =>
      obtain ⟨sys, g, before, after⟩ := h.input_performs input
      rw [asked] at after
      have starts : newer ++ startsOf g.trace = startsOf (g.wifiForget ssid.text sys).trace := by
        rw [show startsOf g.trace = startsOf h.trace from congrArg NetView.starts before, ← past]
        exact congrArg NetView.starts after
      have slot : SameChild (g.wifiForget ssid.text sys) (h.step (.input input)) :=
        Softens.sameChild (Still.softens after)
      rcases g.wifiForget_cases ssid.text sys with
        same | ⟨-, k, -, -, own, began, begun, ends⟩
      · -- Without a call that goes through nothing is started.
        rw [same] at starts
        rw [List.append_left_eq_self.mp starts] at started
        cases started
      · rcases ends with ⟨-, runs, same⟩ | ⟨no, -, same⟩
        · rw [same] at slot
          exact slot.running runs
        · rw [same, begun, no] at starts
          have only := List.append_cancel_right (starts.trans (List.singleton_append ..).symm)
          rw [only] at started
          simp at started
  | _ => cases asked

/-- **Every step spares a forget job.** -/
theorem step_forgetSpared (exclusive : Exclusive h) (event : Event) : ForgetSpared h event where
  kept running goes := by
    have keeps : ∀ g g', Effect h event g g' → Exclusive g → SameChild h g → SameChild h g' :=
      fun g g' effect exclusive same =>
        same.trans (effect.sameChild exclusive (same.running running) goes)
    exact (step_exclusive_keeps keeps exclusive (.refl h)).2
  ended running poll exit polled ended := by
    subst polled
    change h.pollJob poll = _
    rw [pollJob_ended running.1 ended, running.2]
    rfl
  begun newer past argv started := started_forget_runs exclusive past started

end Hud

/-- At the start no forget is flagged. -/
theorem Boot.hud_forgetOwned (boot : Boot) : boot.hud.ForgetOwned := by
  let free (g : Hud) : Prop := g.forget.forgetting = false
  have still : ∀ g g', Hud.Still g g' → free g → free g' := fun g g' same before =>
    same.softens.forgetting.trans before
  have started : ∀ g argv spawn, free g → free (Hud.startNmcli .radio argv spawn g).1 :=
    fun g argv spawn before =>
      (congrArg Forget.forgetting (g.startNmcli_launches .radio argv spawn).forget).trans before
  have unforgetting : boot.hud.forget.forgetting = false := boot.hud_keeps still started rfl
  refine Hud.forgetOwned_of boot.hud_exclusive fun forgetting => ?_
  exact absurd (unforgetting.symm.trans forgetting) (by decide)

namespace Hud

/-- **A forget owns the job slot**: whatever the user taps, whatever is queued and whichever
starts fail, `forgetting` stands exactly while the forget job is in flight, no join is under way
then, and no step kills the job before `poll_job` acts on its exit. -/
theorem forget_owns_slot (boot : Boot) (events : List Event) :
    Always step ForgetOwned boot.hud events ∧ EachStep step ForgetSpared boot.hud events := by
  have preserves : ∀ h event, Exclusive h ∧ ForgetOwned h →
      Exclusive (step h event) ∧ ForgetOwned (step h event) := fun h event before =>
    ⟨exclusive_step before.1 event, step_forgetOwned before.1 before.2 event⟩
  have initial : Exclusive boot.hud ∧ ForgetOwned boot.hud :=
    ⟨boot.hud_exclusive, boot.hud_forgetOwned⟩
  refine ⟨(always_of_invariant preserves initial events).mono fun h holds => holds.2, ?_⟩
  exact eachStep_of_invariant preserves (fun h event before => step_forgetSpared before.1 event)
    initial events

end Hud

end Ginkgo
