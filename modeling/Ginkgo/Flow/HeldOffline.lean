import Ginkgo.Flow.FailedForget

/-!
# The queries that release a held forget

While a forget is held and no live name is known, a device list that says "connected" is
overruled: the HUD shows itself offline. The hold is released by a report that names another
network, but the overruled device list does not ask for one, since it has just cleared what it
would ask for it by. A query that can name the live network is under way after it exactly when
one was queued before it (`Ginkgo.Hud.overruled_queried_iff`), and there are runs in which none
was (`Ginkgo.Hud.overruled_unqueried`).
-/

namespace Ginkgo

open CText Transition

namespace Hud

/-- The device list whose job ends says that the radio is connected, and the hold overrules it. -/
structure Overruled (h : Hud) (poll : Poll) : Prop where
  ended : poll.exit ≠ none
  running : h.job.pid ≠ none
  kind : h.job.kind = .info
  connected : SaysConnected (h.collected poll)
  hold : gwForgetHoldConnected h.forget.forgetSsid.text true h.wifi.ssid.text = true

/-- A query that can name the live network is queued or in flight. -/
def LiveNameComing (h : Hud) : Prop :=
  h.want.scan = true ∨ h.want.link = true ∨
    h.job.pid ≠ none ∧ (h.job.kind = .scan ∨ h.job.kind = .link)

instance (h : Hud) : Decidable h.LiveNameComing := inferInstanceAs (Decidable (_ ∨ _ ∨ _))

variable {h : Hud}

/-- A forget is held when it overrules a report. -/
theorem held_of_holdConnected {held live : Text} (hold : gwForgetHoldConnected held true live = true) :
    held ≠ [] := by
  rintro rfl
  simp [gwForgetHoldConnected] at hold

/-- While a forget is held, no join is waited for or queued. -/
theorem Exclusive.idle (exclusive : Exclusive h) (held : h.forget.forgetSsid.text ≠ []) :
    h.join.joinWaitLive = false ∧ h.join.wantConnect = false := by
  constructor
  · by_contra waits
    exact held (exclusive.released (.inr (.inl (by simpa using waits))))
  · by_contra wants
    exact held (exclusive.released (.inr (.inr (by simpa using wants))))

/-- An overruled device list takes the connection away and keeps everything that is queued. -/
theorem applyInfo_overruled (now : Nat) {seen : InfoScan} (saw : seen.sawWifi = true)
    (up : seen.wifiUp = true)
    (hold : gwForgetHoldConnected h.forget.forgetSsid.text true h.wifi.ssid.text = true) :
    (h.applyInfo now seen).wifi.connected = false ∧ (h.applyInfo now seen).wifi.busy = false ∧
      (h.applyInfo now seen).join = h.join ∧ (h.applyInfo now seen).forget = h.forget ∧
      (h.applyInfo now seen).want = h.want ∧ (h.applyInfo now seen).job = h.job := by
  unfold applyInfo clearLive
  simp only [saw, up, hold, Bool.true_eq_false, Bool.false_eq_true, if_true, if_false, true_and]
  split_ifs <;> exact ⟨rfl, rfl, rfl, rfl, rfl, rfl⟩

/-- The end of such a report queues nothing. -/
theorem infoDone_overruled (h : Hud) (now : Nat) {out : Text} (connected : SaysConnected out)
    (hold : gwForgetHoldConnected h.forget.forgetSsid.text true h.wifi.ssid.text = true)
    (waits : h.join.joinWaitLive = false) :
    (h.infoDone now out).join = h.join ∧ (h.infoDone now out).forget = h.forget ∧
      (h.infoDone now out).want = h.want ∧ (h.infoDone now out).job = h.job := by
  obtain ⟨understood, saw, up⟩ := connected
  obtain ⟨offline, idle, join, forget, want, job⟩ := applyInfo_overruled now saw up hold
  have parsed : h.parseInfo now out = h.applyInfo now ((lines out).foldl parseInfoLine {}) :=
    if_neg (by simp [understood])
  unfold infoDone
  simp only [parsed]
  generalize h.applyInfo now ((lines out).foldl parseInfoLine {}) = g at *
  have waiting : g.join.joinWaitLive = false := by
    rw [join]
    exact waits
  rw [if_neg (by simp [offline, idle, waiting]), maybeConfirmJoin, if_pos (.inl waiting)]
  exact ⟨join, forget, want, job⟩

/-! ## The next job -/

/-- A query that is asked for is in flight or queued again. -/
theorem startReport_coming {kind : JobKind} {argv : List Text} {retry : Hud → Hud} {sys : Sys}
    (query : kind = .scan ∨ kind = .link)
    (again : ∀ g, (retry g).want.scan = true ∨ (retry g).want.link = true) :
    (h.startReport kind argv retry sys).LiveNameComing := by
  unfold startReport
  rcases startNmcli_cases kind argv sys.spawn h with ⟨pid, -, started⟩ | ⟨line, started⟩
  · rw [started]
    exact .inr (.inr ⟨by simp, query⟩)
  · rw [started]
    rcases again { h with
        ui.statusLine := line, trace := .start kind argv false :: h.trace } with scan | link
    · exact .inl scan
    · exact .inr (.inl link)

/-- The device list is no such query. -/
theorem wifiInfo_not_coming {sys : Sys} (free : h.job.pid = none) (scan : h.want.scan = false)
    (link : h.want.link = false) : ¬(h.wifiInfo sys).LiveNameComing := by
  unfold wifiInfo startReport LiveNameComing
  generalize [txt "nmcli", _, _, _, _, _, _] = argv
  rcases startNmcli_cases .info argv sys.spawn h with ⟨pid, -, started⟩ | ⟨line, started⟩
  · rw [started]
    simp [scan, link]
  · rw [started]
    simp [scan, link, free]

/-- **When a query is under way after the next job has been chosen.** -/
theorem kickPending_coming_iff (sys : Sys) (free : h.job.pid = none)
    (unasked : h.forget.wantForget = false) (unwanted : h.join.wantConnect = false) :
    (h.kickPending sys).LiveNameComing ↔ h.want.scan = true ∨ h.want.link = true := by
  unfold kickPending
  rw [if_neg (not_not.mpr free)]
  simp only [unasked, unwanted, Bool.false_eq_true, if_false]
  by_cases scan : h.want.scan = true
  · rw [if_pos scan]
    exact iff_of_true (startReport_coming (.inl rfl) fun _ => .inl rfl) (.inl scan)
  · rw [if_neg scan]
    by_cases link : h.want.link = true
    · rw [if_pos link]
      exact iff_of_true (startReport_coming (.inr rfl) fun _ => .inr rfl) (.inr link)
    · rw [if_neg link]
      refine iff_of_false ?_ (not_or.mpr ⟨scan, link⟩)
      rw [Bool.not_eq_true] at scan link
      split
      · exact wifiInfo_not_coming free scan link
      · simp [LiveNameComing, scan, link, free]

/-- **When the hold cannot starve its own release.** After a device list that the hold has
overruled, in every state of every run, a query that can name the live network is queued or in
flight exactly when one was queued before the list was read. -/
theorem overruled_queried_iff (reachable : h.Reachable) {poll : Poll} (overruled : h.Overruled poll) :
    (h.step (.poll poll)).LiveNameComing ↔ h.want.scan = true ∨ h.want.link = true := by
  have exclusive := reachable.exclusive
  obtain ⟨ended, running, kind, connected, hold⟩ := overruled
  obtain ⟨waits, unwanted⟩ := exclusive.idle (held_of_holdConnected hold)
  obtain ⟨exit, ended⟩ := Option.ne_none_iff_exists'.mp ended
  change (h.pollJob poll).LiveNameComing ↔ _
  rw [pollJob_ended running ended]
  have closed : ((h.readJob poll.first).readJob poll.rest).closeJob = h.closeJob := rfl
  simp only [kind, jobDone, closed]
  obtain ⟨join, forget, want, job⟩ := h.closeJob.infoDone_overruled poll.now connected hold waits
  generalize h.closeJob.infoDone poll.now (h.collected poll) = g at *
  have free : g.job.pid = none := by
    rw [job]
    rfl
  have unasked : g.forget.wantForget = false := by
    rw [forget]
    exact exclusive.unasked
  have idle : g.join.wantConnect = false := by
    rw [join]
    exact unwanted
  rw [kickPending_coming_iff poll.kick free unasked idle, want]
  exact Iff.rfl

/-- The forget has succeeded, and a scan has found no network in use. -/
def forgottenHomeFrames : List Frame :=
  homeFrames ++ [forgetFrame (.child 7), iterationAt 34 [] (.ended "" 0 forks),
    iterationAt 36 [] (.ended "Home:70:WPA2:2412 MHz:no\nCafe:60::2412 MHz:no" 0 forks)]

/-- The state after the forget. -/
def forgottenHome : Hud := run step homeBoot.hud (loopEvents forgottenHomeFrames)

/-- It is reached by a session. -/
theorem forgottenHome_reachable : forgottenHome.Reachable :=
  ⟨homeBoot, loopEvents forgottenHomeFrames, rfl⟩

/-- By now the radio is connected to another saved network. -/
def cafeConnected : Poll :=
  { Poll.ended "wlan0:wifi:connected:Cafe" 0 forks with now := 3800000000 }

/-- The report that names another network overrules the hold. -/
theorem forgottenHome_overruled : forgottenHome.Overruled cafeConnected where
  ended := by decide
  running := by decide +kernel
  kind := by decide +kernel
  connected := by decide +kernel
  hold := by decide +kernel

/-- It is not followed by a query. -/
theorem overruled_queried_home :
    (forgottenHome.step (.poll cafeConnected)).LiveNameComing ↔
      forgottenHome.want.scan = true ∨ forgottenHome.want.link = true :=
  overruled_queried_iff forgottenHome_reachable forgottenHome_overruled

/-- The HUD stays offline, and nothing that could name the live network is asked for. -/
theorem overruled_unqueried :
    ¬∀ (h : Hud) (poll : Poll), h.Reachable → h.Overruled poll →
      (h.step (.poll poll)).LiveNameComing := by
  intro always
  have coming := always forgottenHome cafeConnected forgottenHome_reachable forgottenHome_overruled
  exact absurd coming (by decide +kernel)

end Hud

end Ginkgo
