import Ginkgo.Flow.FailedForget
import Ginkgo.Flow.HeldKey
import Mathlib.Data.List.Chain

/-!
# Retries

A connect job is started by the user, from the queue, or by the retry with the remembered
password. Since the user last asked for a join, at most one has been started, and none while a
request is queued (`Ginkgo.Hud.Paced`), provided that the user does not ask for a new join while
an old request is still queued (`Ginkgo.Hud.Timely`). In such runs no password is tried twice in
a row without the user (`Ginkgo.Hud.unasked_retries_none`). A request that a confirmation in
vain leaves in the queue is tried again by itself (`Ginkgo.Hud.password_retried`).
-/

namespace Ginkgo

open CText Transition

/-- Between two equal entries of a log there is a mark. -/
def Spaced {Job : Type} (log : List (Option Job)) : Prop :=
  ∀ front middle back job, log = front ++ some job :: (middle ++ some job :: back) → none ∈ middle

/-- No two entries stand side by side. -/
def Alternating {Job : Type} (log : List (Option Job)) : Prop :=
  log.IsChain fun first second => first = none ∨ second = none

/-- Where no two entries stand side by side, equal ones do not. -/
theorem Alternating.spaced {Job : Type} {log : List (Option Job)} (alternating : Alternating log) :
    Spaced log := by
  rintro front middle back job rfl
  have after : Alternating (some job :: (middle ++ some job :: back)) :=
    List.IsChain.right_of_append alternating
  cases middle with
  | nil =>
      obtain ⟨beside, -⟩ := List.isChain_cons_cons.mp after
      simp at beside
  | cons entry middle =>
      obtain ⟨beside, -⟩ := List.isChain_cons_cons.mp after
      rcases beside with impossible | mark
      · cases impossible
      · rw [mark]
        exact List.mem_cons_self

/-- At most one new entry, which follows a mark and is followed by one. -/
theorem Alternating.append {Job : Type} {jobs : List Job} {rest : List (Option Job)}
    {count more : Nat} (few : jobs.length ≤ more) (once : count + more ≤ 1)
    (alternating : Alternating rest)
    (marked : 0 < count + more → ∀ entry ∈ rest.head?, entry = none) :
    Alternating (jobs.map some ++ rest) ∧
      (0 < count → ∀ entry ∈ (jobs.map some ++ rest).head?, entry = none) := by
  rcases jobs with _ | ⟨job, _ | ⟨second, others⟩⟩
  · exact ⟨alternating, fun before => marked (by omega)⟩
  · simp only [List.length_cons, List.length_nil] at few
    refine ⟨List.isChain_cons.mpr ⟨fun entry first => .inr ?_, alternating⟩, fun before => by omega⟩
    exact marked (by omega) entry first
  · simp only [List.length_cons] at few
    omega

/-- The name and the password of a connect job that has been started with a password. -/
def joinOf : JobKind × List Text × Bool → Option (Text × Text)
  | (.connect, _ :: _ :: ssid :: pass :: _, true) => if pass = [] then none else some (ssid, pass)
  | _ => none

/-- The number of connect jobs among starts. -/
def connects (starts : List (JobKind × List Text × Bool)) : Nat :=
  starts.countP fun start => start.1 = .connect

/-- A join with a password is a connect job. -/
theorem length_joins_le (starts : List (JobKind × List Text × Bool)) :
    (starts.filterMap joinOf).length ≤ connects starts := by
  induction starts with
  | nil => exact Nat.le_refl 0
  | cons start starts ih =>
      unfold connects at ih ⊢
      rw [List.countP_cons]
      cases found : joinOf start with
      | none =>
          rw [List.filterMap_cons_none found]
          exact ih.trans (Nat.le_add_right _ _)
      | some join =>
          have kind : start.1 = .connect := by
            unfold joinOf at found
            split at found
            · rfl
            · cases found
          rw [List.filterMap_cons_some found]
          simpa [kind] using ih

namespace Hud

/-- The jobs that a step starts, the first one first. -/
def startedBy (h : Hud) (event : Event) : List (JobKind × List Text × Bool) :=
  let starts := startsOf (h.step event).trace
  (starts.take (starts.length - (startsOf h.trace).length)).reverse

/-- **The log of a run**: its connect jobs with a password, and a mark for each call of
`wifi_join_picked` or `wifi_submit_pass`. -/
def joinLog (h : Hud) : List Event → List (Option (Text × Text))
  | [] => []
  | event :: events =>
      (if h.asks event then [none] else []) ++
        (((h.startedBy event).filterMap joinOf).map some ++ joinLog (h.step event) events)

/-- **The retry is given the password that the ended job has carried.** -/
def RetriesCarried (h : Hud) : Event → Prop
  | .poll poll =>
      h.connectInFlight ∧ h.job.argv[3]? = some h.bufs.knownPsk.text ∧
        ∃ exit ∈ poll.exit,
          gwOnConnectJob (h.connectIn exit.rc (h.collected poll)) = .retryPsk
  | _ => False

/-- **The user does not ask for a new join while an old request is queued**: what is called
while no join is under way finds an empty queue. -/
def Timely (h : Hud) (event : Event) : Prop :=
  h.asks event = true → h.join.connecting = false → h.join.wantConnect = false

instance (h : Hud) (event : Event) : Decidable (h.Timely event) :=
  inferInstanceAs (Decidable (_ → _ → _))

/-- The password of the join in progress is remembered. -/
def sessionKnown (h : Hud) : Bool :=
  gwJoinUseSessionPsk h.bufs.connectSsid.text h.bufs.knownPskSsid.text h.bufs.knownPsk.text

/-- **What keeps retries apart** when `count` connect jobs have been started since the user last
asked for a join: a queued request and a job for a network with a remembered password are known
to carry a password, and of a start and a queued request there is at most one. -/
structure Paced (count : Nat) (h : Hud) : Prop where
  queued : h.join.wantConnect = true → h.join.connectNeedPass = true
  carried : h.connectInFlight → h.join.connectNeedPass = true ∨ h.sessionKnown = false
  once : count ≤ 1
  fresh : h.join.wantConnect = true → count = 0

/-- A change that starts nothing, queues nothing and remembers nothing. -/
structure Calms (h h' : Hud) : Prop where
  need : h'.join.connectNeedPass = h.join.connectNeedPass
  wants : h'.join.wantConnect = true → h.join.wantConnect = true
  known : h'.sessionKnown = true → h.sessionKnown = true
  inFlight : h'.connectInFlight → h.connectInFlight
  starts : connects (startsOf h'.trace) = connects (startsOf h.trace)

section Calm

variable {h g g' : Hud} {event : Event}

theorem Calms.trans {k : Hud} (first : Calms g k) (second : Calms k g') : Calms g g' where
  need := second.need.trans first.need
  wants := first.wants ∘ second.wants
  known := first.known ∘ second.known
  inFlight := first.inFlight ∘ second.inFlight
  starts := second.starts.trans first.starts

/-- Whether the password is remembered depends on the names and passwords only. -/
theorem sessionKnown_congr (bufs : g'.bufs = g.bufs) : g'.sessionKnown = g.sessionKnown := by
  unfold sessionKnown
  rw [bufs]

/-- A change that softens and leaves the joins and their names alone. -/
theorem Softens.calms (softens : Softens g g')
    (need : g'.join.connectNeedPass = g.join.connectNeedPass) (bufs : g'.bufs = g.bufs) : Calms g g' where
  need := need
  wants := by
    rw [softens.wantConnect]
    exact id
  known := by
    rw [sessionKnown_congr bufs]
    exact id
  inFlight := by
    unfold connectInFlight
    rw [softens.pid, softens.kind]
    exact id
  starts := congrArg connects softens.starts

/-- What leaves the network state alone is calm. -/
theorem Still.calms (same : Still g g') : Calms g g' :=
  same.softens.calms (congrArg NetView.connectNeedPass same) (congrArg NetView.bufs same)

/-- A reported name is. -/
theorem applyWifiSsid_calms (g : Hud) (name : Text) : Calms g (g.applyWifiSsid name) := by
  obtain ⟨-, join, bufs⟩ := g.applyWifiSsid_untouched name
  exact (g.applyWifiSsid_softens name).calms (congrArg Join.connectNeedPass join) bufs

/-- So is a name that is brought. -/
theorem Named.calms (named : Named g g') : Calms g g' := by
  cases named with
  | still same => exact same.calms
  | named name k before after =>
      exact (before.calms.trans (k.applyWifiSsid_calms name)).trans after.calms

/-- What a device list says is. -/
theorem applyInfo_calms (g : Hud) (now : Nat) (seen : InfoScan) :
    Calms g (g.applyInfo now seen) := by
  obtain ⟨wifi, hold, tAssoc, same, -, -⟩ := g.applyInfo_writes now seen
  rw [same]
  exact ⟨rfl, id, id, id, rfl⟩

/-- A scan is. -/
theorem parseScan_calms (g : Hud) (buf : Text) : Calms g (g.parseScan buf) := by
  obtain ⟨k, told, named⟩ := g.parseScan_named buf
  have listed (aps : List Ap) : Calms k { k with scan.aps := aps } :=
    ⟨rfl, id, id, id, rfl⟩
  exact (told.calms.trans (listed _)).trans named.calms

/-- A password that is dropped is not remembered. -/
theorem forgetPsk_known (ssid : Text) (known : (g.forgetPsk ssid).sessionKnown = true) :
    g.sessionKnown = true := by
  unfold forgetPsk at known
  split at known
  · exact known
  · simp [sessionKnown, gwJoinUseSessionPsk] at known

/-- Dropping a password is. -/
theorem forgetPsk_calms (g : Hud) (ssid : Text) : Calms g (g.forgetPsk ssid) := by
  refine ⟨?_, ?_, forgetPsk_known ssid, ?_, ?_⟩ <;> unfold forgetPsk <;> split <;>
    first | rfl | exact id

/-- The end of a forget is. -/
theorem forgetDone_calms (g : Hud) (rc : Nat) (out : Text) : Calms g (g.forgetDone rc out) := by
  obtain ⟨wifi, tAssoc, aps, active, ssid, psk, sheet, line, want, same, -, -, remembered⟩ :=
    g.forgetDone_writes rc out
  rw [same]
  refine ⟨rfl, id, fun known => ?_, id, rfl⟩
  rcases remembered with ⟨rfl, rfl⟩ | rfl
  · exact known
  · simp [sessionKnown, gwJoinUseSessionPsk] at known

/-- A child other than a join's is. -/
theorem startNmcli_calms (g : Hud) {kind : JobKind} (argv : List Text) (spawn : Spawn)
    (other : kind ≠ .connect) : Calms g (startNmcli kind argv spawn g).1 := by
  rcases startNmcli_cases kind argv spawn g with ⟨pid, -, started⟩ | ⟨line, started⟩
  · rw [started]
    refine ⟨rfl, id, id, fun running => absurd running.2 other, ?_⟩
    exact List.countP_cons_of_neg (by simpa using other)
  · rw [started]
    exact ⟨rfl, id, id, id, List.countP_cons_of_neg (by simpa using other)⟩

/-- A forget is, although it drops the joins. -/
theorem wifiForget_calms (g : Hud) (ssid : Text) (sys : Sys) : Calms g (g.wifiForget ssid sys) := by
  rcases g.wifiForget_cases ssid sys with same | ⟨-, k, launches, wants, argv, started, past, ends⟩
  · rw [same]
    exact Still.calms (.refl g)
  · have begun := g.beginForget_forgets ssid
    have need : k.join.connectNeedPass = g.join.connectNeedPass :=
      launches.connectNeedPass.trans begun.connectNeedPass
    have known : k.sessionKnown = g.sessionKnown := by
      unfold sessionKnown
      rw [launches.connectSsid, launches.knownPskSsid, launches.knownPsk, begun.bufs]
    have starts : connects (startsOf k.trace) = connects (startsOf g.trace) := by
      rw [past]
      exact List.countP_cons_of_neg (by simp)
    have unwanted : k.join.wantConnect = true → g.join.wantConnect = true := by
      rw [wants]
      exact nofun
    rcases ends with ⟨-, kind, same⟩ | ⟨-, free, same⟩
    · rw [same]
      refine ⟨need, unwanted, by rw [known]; exact id, fun running => ?_, starts⟩
      exact absurd (running.2.symm.trans kind.2) (by decide)
    · rw [same]
      exact ⟨need, unwanted, fun after => known.symm.trans after,
        fun running => absurd free running.1, starts⟩

end Calm

/-! ## What a step starts -/

section Step

variable {h g g' : Hud} {event : Event} {count base : Nat} {ssid : Arg}

/-- A calm change keeps the pace. -/
theorem Paced.calm (paced : Paced count g) (calms : Calms g g') : Paced count g' where
  queued wants := calms.need.trans (paced.queued (calms.wants wants))
  carried running := by
    rw [calms.need]
    rcases paced.carried (calms.inFlight running) with need | unknown
    · exact .inl need
    · refine .inr ?_
      rw [← Bool.not_eq_true] at unknown ⊢
      exact unknown ∘ calms.known
  once := paced.once
  fresh wants := paced.fresh (calms.wants wants)

/-- The pace after a change, when there were `base` connect jobs before the step. -/
def Since (count base : Nat) (g : Hud) : Prop :=
  ∃ more, connects (startsOf g.trace) = base + more ∧ Paced (count + more) g

/-- It keeps it within a step. -/
theorem Since.calm (since : Since count base g) (calms : Calms g g') : Since count base g' := by
  obtain ⟨more, starts, paced⟩ := since
  exact ⟨more, calms.starts.trans starts, paced.calm calms⟩

/-- **A call that starts a connect job**: the first one since the user has asked, with no request
left in the queue. -/
theorem Since.call (none : count = 0) (starts : connects (startsOf g.trace) = base)
    (called : Connects ssid g g') (idle : ¬g.connectInFlight)
    (unwanted : g.join.wantConnect = false)
    (carries : g.join.connectNeedPass = true ∨ g'.sessionKnown = false) : Since count base g' := by
  rcases called.slot with ⟨running, -⟩ | ⟨-, wants, -, argv, started, past⟩
  · exact absurd running idle
  · have left : g'.join.wantConnect = false := wants.trans unwanted
    refine ⟨1, ?_, ?_⟩
    · rw [past, ← starts]
      exact List.countP_cons_of_pos (by simp)
    · refine ⟨fun queued => ?_, fun _ => ?_, by omega, fun queued => ?_⟩
      · rw [left] at queued
        cases queued
      · rw [called.connectNeedPass]
        exact carries
      · rw [left] at queued
        cases queued

/-- A call of the user while no join is under way finds the slot without a connect job and the
queue empty. -/
theorem Timely.idle (timely : h.Timely event) (asks : h.asks event = true) (same : Still h g)
    (exclusive : Exclusive g) (idle : g.join.connecting = false) :
    ¬g.connectInFlight ∧ g.join.wantConnect = false := by
  constructor
  · intro running
    rw [(exclusive.connects running.1 running.2).1] at idle
    cases idle
  · have connecting : g.join.connecting = h.join.connecting := same.softens.connecting
    exact same.softens.wantConnect.trans (timely asks (connecting ▸ idle))

/-- A call that submits the password. -/
theorem Since.submit (timely : h.Timely event) (asks : h.asks event = true) (none : count = 0)
    (same : Still h g) (exclusive : Exclusive g) (submits : Submits g g')
    (since : Since count (connects (startsOf h.trace)) g) :
    Since count (connects (startsOf h.trace)) g' := by
  have begun : connects (startsOf g.trace) = connects (startsOf h.trace) := same.calms.starts
  cases submits with
  | refused same => exact since.calm same.calms
  | queued k free busy prepared launches slot past =>
      have need : g'.join.connectNeedPass = true :=
        launches.connectNeedPass.trans prepared.connectNeedPass
      refine ⟨0, ?_, fun _ => need, fun _ => .inl need, by omega, fun _ => none⟩
      rw [past, prepared.past]
      exact begun
  | called ssid k free idle prepared called =>
      obtain ⟨waits, unwanted⟩ := timely.idle asks same exclusive idle
      refine .call none ?_ called ?_ (prepared.wantConnect.trans unwanted)
        (.inl prepared.connectNeedPass)
      · rw [prepared.past]
        exact begun
      · unfold connectInFlight
        rw [prepared.pid, prepared.kind]
        exact waits

/-- A call that joins the selected network: without a remembered password for it, no job for it
has one to retry with. -/
theorem Since.join (timely : h.Timely event) (asks : h.asks event = true) (none : count = 0)
    (same : Still h g) (exclusive : Exclusive g) (sys : Sys)
    (since : Since count (connects (startsOf h.trace)) g) :
    Since count (connects (startsOf h.trace)) (g.wifiJoinPicked sys) := by
  rcases g.wifiJoinPicked_cases sys with still | ⟨idle, -, called⟩
  · exact since.calm still.calms
  · obtain ⟨waits, unwanted⟩ := timely.idle asks same exclusive idle
    have begun : connects (startsOf g.trace) = connects (startsOf h.trace) := same.calms.starts
    refine Since.call none ?_ called ?_ ?_ ?_
    · exact begun
    · exact waits
    · exact unwanted
    have joined := called.connectSsid
    rw [if_neg (by decide)] at joined
    change _ = Buf.print 96 g.scan.selectedSsid.text at joined
    rw [Buf.print_text] at joined
    unfold sessionKnown
    rw [joined, called.knownPskSsid, called.knownPsk]
    simp only
    cases gwJoinUseSessionPsk g.scan.selectedSsid.text g.bufs.knownPskSsid.text g.bufs.knownPsk.text
    · exact .inr rfl
    · exact .inl rfl

/-- **Every change keeps the pace.** -/
theorem Since.effect (timely : h.Timely event) (asked : h.asks event = true → count = 0)
    (effect : Effect h event g g') (exclusive : Exclusive g)
    (since : Since count (connects (startsOf h.trace)) g) :
    Since count (connects (startsOf h.trace)) g' := by
  cases effect with
  | still same => exact since.calm same.calms
  | submitted sys submit same =>
      have asks : h.asks event = true := by simp [asks, submit, Request.asks]
      exact since.submit timely asks (asked asks) same exclusive (g.wifiSubmitPass_submits sys)
  | joined sys join same =>
      have asks : h.asks event = true := by simp [asks, join, Request.asks]
      exact since.join timely asks (asked asks) same exclusive sys
  | forgot ssid sys forget same => exact since.calm (g.wifiForget_calms ssid.text sys)
  | reported kind argv spawn other nor => exact since.calm (g.startNmcli_calms argv spawn other)
  | named name => exact since.calm (g.applyWifiSsid_calms name)
  | closed => exact since.calm ⟨rfl, id, id, fun running => absurd rfl running.1, rfl⟩
  | informed now seen => exact since.calm (g.applyInfo_calms now seen)
  | listed poll exit polled ended running kind => exact since.calm (g.parseScan_calms _)
  | waited failed waits => exact since.calm ⟨rfl, id, id, id, rfl⟩
  | confirmed up =>
      apply since.calm
      unfold markApActive
      split <;> exact ⟨rfl, id, id, id, rfl⟩
  | ended out running =>
      exact since.calm ⟨rfl, id, id, fun running => absurd rfl running.1, rfl⟩
  | succeeded out now running =>
      refine since.calm ⟨rfl, fun wants => ?_, id, fun running => absurd rfl running.1, rfl⟩
      unfold awaitLive at wants
      simp only at wants
      split at wants
      · cases wants
      · exact wants
  | dropped ssid => exact since.calm (g.forgetPsk_calms ssid)
  | retried rc out sys running decided =>
      -- A job for a network with a remembered password has carried one.
      obtain ⟨more, starts, paced⟩ := since
      have known : g.sessionKnown = true := gwOnConnectJob_retryPsk decided
      rcases paced.carried running with need | unknown
      · have unused : g.join.connectNeedPass = false := (gwOnConnectJob_retries decided).1
        rw [need] at unused
        cases unused
      · rw [known] at unknown
        cases unknown
  | forgetEnded rc out running kind =>
      have closed : Calms g g.closeJob := ⟨rfl, id, id, fun running => absurd rfl running.1, rfl⟩
      exact since.calm (closed.trans (g.closeJob.forgetDone_calms rc out))
  | requeued sys wants =>
      have taken : Calms g { g with forget.wantForget := false } := ⟨rfl, id, id, id, rfl⟩
      exact since.calm (taken.trans (wifiForget_calms _ _ sys))
  | kicked sys free wants =>
      obtain ⟨more, starts, paced⟩ := since
      have none := paced.fresh wants
      have taken : Calms g { g with join.wantConnect := false } :=
        ⟨rfl, nofun, id, id, rfl⟩
      rcases wifiConnect_cases { g with join.wantConnect := false } (.var .pendSsid)
        (.var .pendPass) (.var .pendSec) sys with same | called
      · rw [same]
        exact Since.calm ⟨more, starts, paced⟩ taken
      · refine .call (by omega) ?_ called (fun running => running.1 free) rfl
          (.inl (paced.queued wants))
        change connects (startsOf g.trace) = _
        omega

/-- **A step keeps the pace**; a call of the user starts the count again. -/
theorem step_since (timely : h.Timely event) (exclusive : Exclusive h) (paced : Paced count h) :
    Since (if h.asks event then 0 else count) (connects (startsOf h.trace)) (h.step event) := by
  have keeps : ∀ g g', Effect h event g g' → Exclusive g →
      Since (if h.asks event then 0 else count) (connects (startsOf h.trace)) g →
        Since (if h.asks event then 0 else count) (connects (startsOf h.trace)) g' :=
    fun g g' effect exclusive since =>
      since.effect timely (fun asks => by rw [if_pos asks]) effect exclusive
  refine (step_exclusive_keeps keeps exclusive ⟨0, rfl, ?_⟩).2
  split
  · exact ⟨paced.queued, paced.carried, by omega, fun _ => rfl⟩
  · exact paced

end Step

/-! ## Runs -/

section Run

variable {h : Hud} {event : Event} {count : Nat}

/-- A step adds its starts to the history. -/
theorem step_starts (h : Hud) (event : Event) :
    startsOf (h.step event).trace = (h.startedBy event).reverse ++ startsOf h.trace := by
  have keeps : ∀ g g', Effect h event g g' →
      (∃ newer, startsOf g.trace = newer ++ startsOf h.trace) →
        ∃ newer, startsOf g'.trace = newer ++ startsOf h.trace := by
    rintro g g' effect ⟨newer, past⟩
    rcases effect.starts with same | ⟨kind, argv, started, same, -⟩
    · exact ⟨newer, same.trans past⟩
    · exact ⟨(kind, argv, started) :: newer, by rw [same, past, List.cons_append]⟩
  obtain ⟨newer, past⟩ := (h.step_effects event).keep keeps ⟨[], rfl⟩
  unfold startedBy
  simp only [past, List.reverse_reverse]
  simp

/-- The retry is never given a password that the ended job has carried. -/
theorem Paced.not_retriesCarried (paced : Paced count h) : ¬h.RetriesCarried event := by
  intro carried
  cases event with
  | poll poll =>
      obtain ⟨running, -, exit, -, decided⟩ := carried
      obtain ⟨unused, known⟩ := gwOnConnectJob_retries decided
      rcases paced.carried running with need | unknown
      · exact absurd (need.symm.trans unused) (by decide)
      · exact absurd (unknown.symm.trans known) (by decide)
  | _ => exact carried

/-- In the log of a run no two joins stand side by side, and a mark comes first when a join has
been started since the last one. -/
theorem joinLog_alternating (exclusive : Exclusive h) (paced : Paced count h) {events : List Event}
    (timely : EachStep step Timely h events) :
    Alternating (joinLog h events) ∧
      (0 < count → ∀ entry ∈ (joinLog h events).head?, entry = none) := by
  induction events generalizing h count with
  | nil => exact ⟨.nil, fun _ => nofun⟩
  | cons event events ih =>
      obtain ⟨more, starts, next⟩ := step_since timely.1 exclusive paced
      obtain ⟨alternating, marked⟩ := ih (exclusive_step exclusive event) next timely.2
      have few : ((h.startedBy event).filterMap joinOf).length ≤ more := by
        refine (length_joins_le _).trans (Nat.le_of_eq ?_)
        rw [h.step_starts event, connects, List.countP_append, List.countP_reverse] at starts
        unfold connects at starts ⊢
        omega
      have appended := alternating.append few next.once marked
      unfold joinLog
      split at appended
      · next asks =>
          rw [if_pos asks]
          refine ⟨List.isChain_cons.mpr ⟨fun _ _ => .inl rfl, appended.1⟩, fun _ entry first => ?_⟩
          exact (Option.some.inj first).symm
      · next quiet =>
          rw [if_neg quiet]
          exact appended

end Run

end Hud

/-- At the start no join is queued and none runs. -/
theorem Boot.hud_unjoined (boot : Boot) :
    ¬boot.hud.connectInFlight ∧ boot.hud.join.wantConnect = false := by
  have calm : ∀ g g' : Hud, g.Calms g' → ¬g.connectInFlight ∧ g.join.wantConnect = false →
      ¬g'.connectInFlight ∧ g'.join.wantConnect = false := by
    rintro g g' calms ⟨idle, unwanted⟩
    refine ⟨fun running => idle (calms.inFlight running), ?_⟩
    by_contra wants
    have before := calms.wants (by simpa using wants)
    exact absurd (before.symm.trans unwanted) (by decide)
  have other : JobKind.radio ≠ .connect := by decide
  exact boot.hud_keeps (fun g g' same => calm g g' same.calms)
    (fun g argv spawn => calm g _ (g.startNmcli_calms argv spawn other))
    ⟨fun running => running.1 rfl, rfl⟩

/-- The program starts at pace. -/
theorem Boot.hud_paced (boot : Boot) : boot.hud.Paced 0 := by
  obtain ⟨idle, unwanted⟩ := boot.hud_unjoined
  exact ⟨fun wants => absurd (unwanted.symm.trans wants) (by decide),
    fun running => absurd running idle, Nat.zero_le 1, fun _ => rfl⟩

namespace Hud

/-- **No retries without the user.** In every run in which the user never asks for a new join
while an old request is queued, two connect jobs for the same network with the same password
have a call of the user between them, and the retry is never given the password that the ended
job has carried. -/
theorem unasked_retries_none (boot : Boot) (events : List Event)
    (timely : EachStep step Timely boot.hud events) :
    Spaced (joinLog boot.hud events) ∧
      EachStep step (fun h event => ¬h.RetriesCarried event) boot.hud events := by
  refine ⟨(joinLog_alternating boot.hud_exclusive boot.hud_paced timely).1.spaced, ?_⟩
  have preserves : ∀ h event, (Exclusive h ∧ ∃ count, Paced count h) → h.Timely event →
      Exclusive (h.step event) ∧ ∃ count, Paced count (h.step event) := by
    rintro h event ⟨exclusive, count, paced⟩ timely
    obtain ⟨more, -, next⟩ := step_since timely exclusive paced
    exact ⟨exclusive_step exclusive event, _, next⟩
  refine EachStep.of_invariant preserves ?_ ⟨boot.hud_exclusive, 0, boot.hud_paced⟩ timely
  rintro h event ⟨-, count, paced⟩ -
  exact paced.not_retriesCarried

/-- A run in which the user joins once, with eight keys and one submission. -/
theorem unasked_retries_none_typed :
    let events := loopEvents (typedFrames ++ [iterationAt 62 (tapAt 900 470 60) (.running forks)])
    Spaced (joinLog homeBoot.hud events) ∧
      EachStep step (fun h event => ¬h.RetriesCarried event) homeBoot.hud events :=
  unasked_retries_none homeBoot _ (by decide +kernel)

/-- The password is submitted twice, and GO is held while the second join runs. It succeeds
before the key is lifted, which queues the join again. The confirmation waits for a link job
in vain, and the user joins the picked network, which ends with an error. -/
def staleFrames : List Frame :=
  typedFrames ++ [iterationAt 62 (tapAt 900 470 60) (.running forks),
    iterationAt 67 (tapAt 910 475 65) (.running forks),
    iterationAt 68 [] (.ended "" 3 forks),
    iterationAt 71 (landAt 980 2269 70) (.running forks),
    iterationAt 80 [] (.ended "" 0 forks),
    iterationAt 82 (liftAt 980 2269 81) (.running forks),
    iterationAt 300 [] (.running forks),
    iterationAt 312 (tapAt 500 2080 310) (.running forks),
    iterationAt 320 [] (.ended "" 3 forks)]

/-- The stale request is still queued when the last join ends, and the same password is tried
again at once. -/
theorem password_retried :
    ¬∀ (boot : Boot) (events : List Event), Spaced (joinLog boot.hud events) ∧
      EachStep step (fun h event => ¬h.RetriesCarried event) boot.hud events := by
  intro always
  have spaced := (always homeBoot (loopEvents staleFrames)).1
  have between := spaced ((joinLog homeBoot.hud (loopEvents staleFrames)).take 7) [] []
    (txt "Home", txt "qqqqqqqq") (by decide +kernel)
  cases between

end Hud

end Ginkgo
