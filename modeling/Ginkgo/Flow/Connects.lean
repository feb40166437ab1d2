import Ginkgo.Flow.Effect

/-!
# What the calls leave

The effect on the network state of the functions that start a join or a forget: a call of
`wifi_connect` releases the forget hold and keeps the HUD busy
(`Ginkgo.Hud.wifiConnect_connects`), which is what `wifi_submit_pass` and `wifi_join_picked`
come down to, and `wifi_forget` drops the join in progress and the queued one
(`Ginkgo.Hud.wifiForget_cases`).
-/

namespace Ginkgo

open CText

namespace Hud

variable {h g h' : Hud} {ssid pass sec : Arg} {sys : Sys}

/-! ## What a call of wifi_connect leaves -/

/-- A change of the job slot, the queue, the history and those arrays that belong to no join in
progress. -/
structure Launches (h h' : Hud) : Prop where
  net : h'.netView = { h.netView with
    bufs := h'.bufs
    wantConnect := h'.join.wantConnect
    pid := h'.job.pid
    kind := h'.job.kind
    starts := startsOf h'.trace }
  connectSsid : h'.bufs.connectSsid = h.bufs.connectSsid
  knownPskSsid : h'.bufs.knownPskSsid = h.bufs.knownPskSsid
  knownPsk : h'.bufs.knownPsk = h.bufs.knownPsk

theorem Launches.trans (first : Launches h g) (second : Launches g h') : Launches h h' where
  net := by rw [second.net, first.net]
  connectSsid := second.connectSsid.trans first.connectSsid
  knownPskSsid := second.knownPskSsid.trans first.knownPskSsid
  knownPsk := second.knownPsk.trans first.knownPsk

section

variable (launches : Launches h h')

include launches

/-- Whether a join is going on is left. -/
theorem Launches.connecting : h'.join.connecting = h.join.connecting :=
  congrArg NetView.connecting launches.net

/-- Whether one waits is left. -/
theorem Launches.joinWaitLive : h'.join.joinWaitLive = h.join.joinWaitLive :=
  congrArg NetView.joinWaitLive launches.net

/-- Whether a password is needed is left. -/
theorem Launches.connectNeedPass : h'.join.connectNeedPass = h.join.connectNeedPass :=
  congrArg NetView.connectNeedPass launches.net

/-- What is being forgotten is left. -/
theorem Launches.forget : h'.forget = h.forget := congrArg NetView.forget launches.net

/-- The live name is left. -/
theorem Launches.live : h'.wifi.ssid = h.wifi.ssid := congrArg NetView.ssid launches.net

/-- The rows are left. -/
theorem Launches.rows : h'.rows = h.rows := congrArg NetView.rows launches.net

end

/-- A name that is copied elsewhere than to `connect_ssid` launches nothing. -/
theorem snprintf_launches (h : Hud) {dst : Dst} (src : Arg) (other : dst ≠ .connectSsid) :
    Launches h (h.snprintf dst src) := by
  unfold snprintf
  split <;> cases dst <;> first | exact absurd rfl other | exact ⟨rfl, rfl, rfl, rfl⟩

/-- Filling the arguments does not touch the join in progress. -/
theorem fillArgv_launches (h : Hud) (ssid pass sec : Arg) :
    Launches h (h.fillArgv ssid pass sec) :=
  (((h.snprintf_launches ssid (by decide)).trans (snprintf_launches _ pass (by decide))).trans
    (snprintf_launches _ _ (by decide))).trans (snprintf_launches _ sec (by decide))

theorem queueConnect_launches (h : Hud) (ssid pass sec : Arg) :
    Launches h (h.queueConnect ssid pass sec) := by
  have copied := ((h.snprintf_launches ssid (by decide : Dst.pendSsid ≠ .connectSsid)).trans
    (snprintf_launches _ pass (by decide : Dst.pendPass ≠ .connectSsid))).trans
    (snprintf_launches _ sec (by decide : Dst.pendSec ≠ .connectSsid))
  exact copied.trans ⟨rfl, rfl, rfl, rfl⟩

theorem startNmcli_launches (h : Hud) (kind : JobKind) (argv : List Text) (spawn : Spawn) :
    Launches h (startNmcli kind argv spawn h).1 := by
  rcases startNmcli_cases kind argv spawn h with ⟨pid, -, started⟩ | ⟨line, started⟩
  · rw [started]
    exact ⟨rfl, rfl, rfl, rfl⟩
  · rw [started]
    exact ⟨rfl, rfl, rfl, rfl⟩

/-- What a call of `wifi_connect` has done before it looks at the slot. -/
structure Begun (ssid : Arg) (h h' : Hud) : Prop where
  connecting : h'.join.connecting = true
  joinWaitLive : h'.join.joinWaitLive = false
  connectNeedPass : h'.join.connectNeedPass = h.join.connectNeedPass
  forget : h'.forget = { h.forget with forgetSsid := .empty 96 }
  live : h'.wifi.ssid = h.wifi.ssid
  rows : h'.rows = h.rows
  knownPskSsid : h'.bufs.knownPskSsid = h.bufs.knownPskSsid
  knownPsk : h'.bufs.knownPsk = h.bufs.knownPsk
  connectSsid : h'.bufs.connectSsid =
    if ssid = .var .connectSsid then .empty 96 else .print 96 (h.load ssid)

/-- **What a call of `wifi_connect` with a name leaves**: its start stands in the history when
no connect job was in flight, and otherwise the job goes on. -/
structure Connects (ssid : Arg) (h h' : Hud) : Prop extends Begun ssid h h' where
  slot : h.connectInFlight ∧ h'.job.pid = h.job.pid ∧ h'.job.kind = h.job.kind ∧
      startsOf h'.trace = startsOf h.trace ∨
    ¬h.connectInFlight ∧ h'.join.wantConnect = h.join.wantConnect ∧
      (h'.job.pid ≠ none → h'.job.kind = .connect) ∧
      ∃ argv started, startsOf h'.trace = (.connect, argv, started) :: startsOf h.trace

/-- What follows the beginning of a call leaves what it has done. -/
theorem Begun.launched (begun : Begun ssid h g) (launches : Launches g h') :
    Begun ssid h h' where
  connecting := launches.connecting.trans begun.connecting
  joinWaitLive := launches.joinWaitLive.trans begun.joinWaitLive
  connectNeedPass := launches.connectNeedPass.trans begun.connectNeedPass
  forget := launches.forget.trans begun.forget
  live := launches.live.trans begun.live
  rows := launches.rows.trans begun.rows
  knownPskSsid := launches.knownPskSsid.trans begun.knownPskSsid
  knownPsk := launches.knownPsk.trans begun.knownPsk
  connectSsid := launches.connectSsid.trans begun.connectSsid

/-- The flags of a join do not change what an argument points to. -/
theorem joinFlags_load (h : Hud) (arg : Arg) : h.joinFlags.load arg = h.load arg := by
  cases arg with
  | var name => cases name <;> rfl
  | apSecurity row => rfl
  | lit text => rfl

/-- The name has been copied to `connect_ssid`. -/
theorem copyJoined_begun (h : Hud) (ssid : Arg) :
    Begun ssid h (h.joinFlags.snprintf .connectSsid ssid) := by
  have loaded := h.joinFlags_load ssid
  by_cases same : ssid = .var .connectSsid
  · subst same
    exact ⟨rfl, rfl, rfl, rfl, rfl, rfl, rfl, rfl, rfl⟩
  · rw [@snprintf_of_ne _ .connectSsid _ same, loaded]
    exact ⟨rfl, rfl, rfl, rfl, rfl, rfl, rfl, rfl, (if_neg same).symm⟩

/-- So a call has begun when the slot is free or its own. -/
theorem beginConnect_begun (h : Hud) (ssid : Arg) : Begun ssid h (h.beginConnect ssid) := by
  have copied := h.copyJoined_begun ssid
  unfold beginConnect abortJob
  simp only
  generalize h.joinFlags.snprintf .connectSsid ssid = g at copied ⊢
  obtain ⟨connecting, waits, need, forget, live, rows, named, psk, joined⟩ := copied
  split_ifs <;> exact ⟨connecting, waits, need, forget, live, rows, named, psk, joined⟩

/-- A connect job keeps its slot, and any other job is gone. -/
theorem beginConnect_slot (h : Hud) (ssid : Arg) :
    h.connectInFlight ∧ (h.beginConnect ssid).job = h.job ∨
      ¬h.connectInFlight ∧ (h.beginConnect ssid).job.pid = none := by
  have job : (h.joinFlags.snprintf .connectSsid ssid).job = h.job := snprintf_job ..
  unfold beginConnect
  simp only
  generalize h.joinFlags.snprintf .connectSsid ssid = g at job ⊢
  generalize shown : g.setStatus _ = k
  have same : k.job = h.job := by rw [← shown, ← job]; rfl
  by_cases running : h.connectInFlight
  · have kept : ¬(k.job.pid ≠ none ∧ k.job.kind ≠ .connect) := by
      rw [same]
      exact fun other => other.2 running.2
    rw [if_neg kept]
    exact .inl ⟨running, same⟩
  · refine .inr ⟨running, ?_⟩
    split
    · exact k.abortJob_pid
    · next kept =>
        rw [same] at kept ⊢
        by_contra busy
        exact kept ⟨busy, fun kind => running ⟨busy, kind⟩⟩

/-- It starts nothing. -/
theorem beginConnect_trace (h : Hud) (ssid : Arg) : (h.beginConnect ssid).trace = h.trace := by
  unfold beginConnect abortJob
  simp only
  split_ifs <;> exact snprintf_trace ..

/-- It queues nothing. -/
theorem beginConnect_wantConnect (h : Hud) (ssid : Arg) :
    (h.beginConnect ssid).join.wantConnect = h.join.wantConnect := by
  have join : (h.joinFlags.snprintf .connectSsid ssid).join.wantConnect = h.join.wantConnect := by
    rw [snprintf_join]
    rfl
  unfold beginConnect abortJob
  simp only
  generalize h.joinFlags.snprintf .connectSsid ssid = g at join ⊢
  split_ifs <;> exact join

/-- The start of the job of a join. -/
theorem startNmcli_connects (begun : Begun ssid h g) (idle : ¬h.connectInFlight)
    (free : g.job.pid = none) (wants : g.join.wantConnect = h.join.wantConnect)
    (past : startsOf g.trace = startsOf h.trace) (argv : List Text) (spawn : Spawn) :
    Connects ssid h (startNmcli .connect argv spawn g).1 := by
  refine ⟨begun.launched (g.startNmcli_launches .connect argv spawn), .inr ⟨idle, ?_⟩⟩
  rcases startNmcli_cases .connect argv spawn g with ⟨pid, -, started⟩ | ⟨line, started⟩
  · rw [started]
    exact ⟨wants, fun _ => rfl, argv, true, congrArg _ past⟩
  · rw [started]
    exact ⟨wants, fun busy => absurd free busy, argv, false, congrArg _ past⟩

/-- **A call of `wifi_connect`.** -/
theorem wifiConnect_connects (h : Hud) (pass sec : Arg) (sys : Sys) (named : h.load ssid ≠ []) :
    Connects ssid h (h.wifiConnect ssid pass sec sys) := by
  have begun := h.beginConnect_begun ssid
  have slot := h.beginConnect_slot ssid
  have past : startsOf (h.beginConnect ssid).trace = startsOf h.trace :=
    congrArg startsOf (h.beginConnect_trace ssid)
  have wants := h.beginConnect_wantConnect ssid
  have observed (g : Hud) (call : ConnectCall) : Launches g (g.observe (.connect call)) :=
    ⟨rfl, rfl, rfl, rfl⟩
  unfold wifiConnect
  rw [if_neg named]
  simp only
  generalize h.beginConnect ssid = g at begun slot past wants ⊢
  rcases slot with ⟨running, same⟩ | ⟨idle, free⟩
  · -- The job in flight goes on and the request is queued, or an earlier one is kept.
    rw [if_pos (same ▸ running.1)]
    split
    · exact ⟨begun.launched (observed g _), .inl ⟨running, congrArg Job.pid same,
        congrArg Job.kind same, past⟩⟩
    · have queued := begun.launched (g.queueConnect_launches ssid pass sec)
      have slot : (g.queueConnect ssid pass sec).job = g.job := by simp [queueConnect]
      have unstarted : startsOf (g.queueConnect ssid pass sec).trace = startsOf g.trace := by
        simp [queueConnect]
      generalize g.queueConnect ssid pass sec = q at queued slot unstarted ⊢
      have same := slot.trans same
      exact ⟨queued.launched (observed q _), .inl ⟨running, congrArg Job.pid same,
        congrArg Job.kind same, unstarted.trans past⟩⟩
  · -- The slot is free: the arguments are copied and the job is started.
    rw [if_neg (not_not.mpr free)]
    have filled := begun.launched (g.fillArgv_launches ssid pass sec)
    have slot : (g.fillArgv ssid pass sec).job = g.job := by simp [fillArgv]
    have kept : (g.fillArgv ssid pass sec).join = g.join := by simp [fillArgv]
    have unstarted : startsOf (g.fillArgv ssid pass sec).trace = startsOf g.trace := by
      simp [fillArgv]
    generalize g.fillArgv ssid pass sec = f at filled slot kept unstarted ⊢
    refine startNmcli_connects (filled.launched (observed f _)) idle ?_ ?_ ?_ _ _
    · exact (congrArg Job.pid slot).trans free
    · exact (congrArg Join.wantConnect kept).trans wants
    · exact unstarted.trans past

/-- Without a name a call does nothing. -/
theorem wifiConnect_cases (h : Hud) (ssid pass sec : Arg) (sys : Sys) :
    h.wifiConnect ssid pass sec sys = h ∨ Connects ssid h (h.wifiConnect ssid pass sec sys) := by
  by_cases unnamed : h.load ssid = []
  · exact .inl (if_pos unnamed)
  · exact .inr (h.wifiConnect_connects pass sec sys unnamed)

/-- The retry is a call for the network of the join that has ended. -/
theorem connectRetryPsk_connects {rc : Nat} {out : Text}
    (decided : gwOnConnectJob (g.connectIn rc out) = .retryPsk) (sys : Sys) :
    Connects (.var .connectSsid) (g.closeJob.endConnect out).dropProbe
      ((g.closeJob.endConnect out).connectRetryPsk sys) := by
  have known := gwOnConnectJob_retryPsk decided
  have named : g.bufs.connectSsid.text ≠ [] := (gwSsidEq_iff.mp (of_decide_eq_true known).1).1
  exact wifiConnect_connects _ _ _ sys named

/-! ## What the user's calls leave -/

/-- The password has been remembered for the call. -/
structure Prepared (h h' : Hud) : Prop where
  connectNeedPass : h'.join.connectNeedPass = true
  net : { h'.netView with connectNeedPass := h.join.connectNeedPass, bufs := h.bufs } = h.netView
  connectSsid : h'.bufs.connectSsid = h.bufs.connectSsid

section

variable (prepared : Prepared h h')

include prepared

/-- Remembering the password leaves the flag of the join. -/
theorem Prepared.connecting : h'.join.connecting = h.join.connecting :=
  congrArg NetView.connecting prepared.net

theorem Prepared.joinWaitLive : h'.join.joinWaitLive = h.join.joinWaitLive :=
  congrArg NetView.joinWaitLive prepared.net

theorem Prepared.wantConnect : h'.join.wantConnect = h.join.wantConnect :=
  congrArg NetView.wantConnect prepared.net

theorem Prepared.live : h'.wifi.ssid = h.wifi.ssid := congrArg NetView.ssid prepared.net

theorem Prepared.rows : h'.rows = h.rows := congrArg NetView.rows prepared.net

theorem Prepared.forget : h'.forget = h.forget := congrArg NetView.forget prepared.net

theorem Prepared.pid : h'.job.pid = h.job.pid := congrArg NetView.pid prepared.net

theorem Prepared.kind : h'.job.kind = h.job.kind := congrArg NetView.kind prepared.net

theorem Prepared.past : startsOf h'.trace = startsOf h.trace :=
  congrArg NetView.starts prepared.net

end

theorem rememberPsk_prepared (h : Hud) (ssid pass : Text) :
    Prepared h ({ h with join.connectNeedPass := true }.rememberPsk ssid pass) := by
  unfold rememberPsk
  split
  · exact ⟨rfl, rfl, rfl⟩
  · exact ⟨rfl, rfl, rfl⟩

/-- **What `wifi_submit_pass` does**: nothing to the network state, a request for the queue, or
a call with the password. -/
inductive Submits (h : Hud) : Hud → Prop
  | refused {h' : Hud} (same : Still h h') : Submits h h'
  | queued {h' : Hud} (g : Hud) (free : h.forget.forgetting = false)
      (busy : h.join.connecting = true) (prepared : Prepared h g) (launches : Launches g h')
      (slot : h'.job = g.job) (past : startsOf h'.trace = startsOf g.trace) : Submits h h'
  | called {h' : Hud} (ssid : Arg) (g : Hud) (free : h.forget.forgetting = false)
      (idle : h.join.connecting = false) (prepared : Prepared h g) (connects : Connects ssid g h') :
      Submits h h'

/-- `wifi_submit_pass` does one of these. -/
theorem wifiSubmitPass_submits (h : Hud) (sys : Sys) : Submits h (h.wifiSubmitPass sys) := by
  unfold wifiSubmitPass
  simp only
  split
  · exact .refused (.refl h)
  · next allowed =>
      split
      · exact .refused rfl
      · split
        · exact .refused rfl
        · have free : h.forget.forgetting = false := by
            by_contra forgetting
            exact allowed (.inr (by simpa using forgetting))
          have named : h.load h.gwPassSsid ≠ [] := fun empty => allowed (.inl empty)
          have prepared := h.rememberPsk_prepared
            ({ h with join.connectNeedPass := true }.load h.gwPassSsid) h.osk.password.text
          have loaded : ({ h with join.connectNeedPass := true }.rememberPsk
              ({ h with join.connectNeedPass := true }.load h.gwPassSsid)
              h.osk.password.text).load h.gwPassSsid = h.load h.gwPassSsid := by
            unfold rememberPsk gwPassSsid
            split_ifs <;> rfl
          generalize rememberPsk _ _ _ = g at prepared loaded ⊢
          have connecting := prepared.connecting
          split
          · next busy =>
              have launches := g.queueConnect_launches h.gwPassSsid (.var .password) h.pickedSec
              exact .queued g free (connecting ▸ busy) prepared launches
                (by simp [queueConnect]) (by simp [queueConnect])
          · next idle =>
              have ready : h.join.connecting = false := by simpa [connecting] using idle
              exact .called _ g free ready prepared
                (g.wifiConnect_connects _ _ sys (by rw [loaded]; exact named))

/-- **What `wifi_join_picked` does**: nothing to the network state, or a call that carries the
remembered password if there is one. -/
theorem wifiJoinPicked_cases (h : Hud) (sys : Sys) :
    Still h (h.wifiJoinPicked sys) ∨
      h.join.connecting = false ∧ h.forget.forgetting = false ∧
        Connects (.var .selectedSsid)
          { h with
            join.connectNeedPass := gwJoinUseSessionPsk h.scan.selectedSsid.text
              h.bufs.knownPskSsid.text h.bufs.knownPsk.text }
          (h.wifiJoinPicked sys) := by
  unfold wifiJoinPicked
  simp only
  split
  · exact .inl (.refl h)
  · next allowed =>
      have named : h.scan.selectedSsid.text ≠ [] := fun empty => allowed (.inl empty)
      have idle : h.join.connecting = false := by
        by_contra busy
        exact allowed (.inr (.inl (by simpa using busy)))
      have free : h.forget.forgetting = false := by
        by_contra forgetting
        exact allowed (.inr (.inr (by simpa using forgetting)))
      split
      · exact .inl (.refl h)
      · split
        · exact .inl rfl
        · split
          · next known =>
              rw [known]
              exact .inr ⟨idle, free, wifiConnect_connects _ _ _ sys named⟩
          · next unknown =>
              have none : gwJoinUseSessionPsk h.scan.selectedSsid.text h.bufs.knownPskSsid.text
                  h.bufs.knownPsk.text = false := by simpa using unknown
              rw [none]
              exact .inr ⟨idle, free, wifiConnect_connects _ _ _ sys named⟩

/-- The flags and names with which a forget begins; the job slot is as before. -/
structure Forgets (ssid : Text) (h h' : Hud) : Prop where
  connecting : h'.join.connecting = false
  joinWaitLive : h'.join.joinWaitLive = false
  wantConnect : h'.join.wantConnect = false
  connectNeedPass : h'.join.connectNeedPass = h.join.connectNeedPass
  forget : h'.forget = { h.forget with forgetting := true, forgetSsid := .print 96 ssid }
  bufs : h'.bufs = h.bufs
  job : h'.job = h.job
  trace : h'.trace = h.trace

/-- `wifi_forget` begins so. -/
theorem beginForget_forgets (h : Hud) (ssid : Text) : Forgets ssid h (h.beginForget ssid) := by
  unfold beginForget
  simp only
  split_ifs <;> exact ⟨rfl, rfl, rfl, rfl, rfl, rfl, rfl, rfl⟩

/-- A job of another kind is killed. -/
theorem abort_other_launches (other : g.job.pid ≠ none → g.job.kind ≠ .forget) :
    ∃ k, (if g.job.pid ≠ none ∧ g.job.kind ≠ .forget then g.abortJob else g) = k ∧
      Launches g k ∧ k.job.pid = none ∧ k.join = g.join ∧ k.trace = g.trace := by
  refine ⟨_, rfl, ?_⟩
  by_cases free : g.job.pid = none
  · rw [if_neg fun busy => busy.1 free]
    exact ⟨⟨rfl, rfl, rfl, rfl⟩, free, rfl, rfl⟩
  · rw [if_pos ⟨free, other free⟩, abortJob, if_neg free]
    exact ⟨⟨rfl, rfl, rfl, rfl⟩, rfl, rfl, rfl⟩

/-- **What `wifi_forget` does**: nothing, or the join in progress and the queued one are dropped
and the forget job is started; when that fails, the flag is taken back. -/
theorem wifiForget_cases (h : Hud) (ssid : Text) (sys : Sys) :
    h.wifiForget ssid sys = h ∨
      ssid ≠ [] ∧ ∃ g, Launches (h.beginForget ssid) g ∧ g.join.wantConnect = false ∧
        ∃ argv started, startsOf g.trace = (.forget, argv, started) :: startsOf h.trace ∧
          (started = true ∧ g.forgetInFlight ∧ h.wifiForget ssid sys = g ∨
            started = false ∧ g.job.pid = none ∧
              h.wifiForget ssid sys = { g with forget.forgetting := false }) := by
  unfold wifiForget
  split
  · exact .inl rfl
  · next named =>
      split
      · exact .inl rfl
      · next startable =>
          refine .inr ⟨named, ?_⟩
          have begun := h.beginForget_forgets ssid
          simp only
          generalize h.beginForget ssid = g at begun ⊢
          have other : g.job.pid ≠ none → g.job.kind ≠ .forget := by
            intro busy kind
            rw [begun.job] at busy kind
            simp [gwForgetCanStart, busy, kind] at startable
          obtain ⟨k, aborted, launches, free, join, trace⟩ := abort_other_launches other
          rw [aborted, if_neg (not_not.mpr free)]
          have wants : k.join.wantConnect = false := by rw [join, begun.wantConnect]
          have past : startsOf k.trace = startsOf h.trace := by rw [trace, begun.trace]
          have launched := launches.trans
            (k.startNmcli_launches .forget (forgetArgv (.print 96 ssid) (.print 32 k.wifi.iface.text))
              sys.spawn)
          generalize forgetArgv _ _ = argv at launched ⊢
          rcases startNmcli_cases .forget argv sys.spawn k with ⟨pid, -, started⟩ | ⟨line, started⟩
          · rw [started] at launched ⊢
            have running : some pid ≠ none := Option.some_ne_none pid
            exact ⟨_, launched, wants, argv, true, congrArg _ past, .inl ⟨rfl, ⟨running, rfl⟩, rfl⟩⟩
          · rw [started] at launched ⊢
            exact ⟨_, launched, wants, argv, false, congrArg _ past, .inr ⟨rfl, free, rfl⟩⟩

/-- While a forget job is in flight `wifi_forget` does nothing. -/
theorem wifiForget_of_inFlight {h : Hud} (running : h.forgetInFlight) (ssid : Text) (sys : Sys) :
    h.wifiForget ssid sys = h := by
  unfold wifiForget
  split
  · rfl
  · exact if_pos (by simp [gwForgetCanStart, running.1, running.2])

end Hud

end Ginkgo
