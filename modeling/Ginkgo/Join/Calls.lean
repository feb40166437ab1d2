import Ginkgo.Hud.Contact

/-!
# What the functions that start joins do

The effect of `wifi_connect`, `wifi_submit_pass`, `wifi_join_picked`, `wifi_forget` and
`kick_pending` on the join machine. A call of `wifi_connect` that finds no connect job in
flight passes its password and security on as they are, and its name unless the name is
`connect_ssid` itself (`Ginkgo.Hud.wifiConnect_joinState`).
-/

namespace Ginkgo

open CText

/-- The argument is none of the arrays that `wifi_connect` overwrites on its way to the
script. -/
def Arg.Steady (arg : Arg) : Prop :=
  ∀ dst ∈ [Dst.connectSsid, .s1, .s2, .s3, .s4], arg ≠ .var dst.var

instance (arg : Arg) : Decidable arg.Steady := inferInstanceAs (Decidable (∀ _ ∈ _, _))

namespace Hud

variable {h : Hud} {ssid pass sec arg : Arg} {array : Var} {sys : Sys}

/-- What starting a child does, as the join machine sees it. -/
theorem startNmcli_joinState (kind : JobKind) (argv : List Text) (spawn : Spawn) (h : Hud) :
    ∃ child, (startNmcli kind argv spawn h).1.joinState = h.joinState.start kind argv child ∧
      ((startNmcli kind argv spawn h).2 = true ↔ child ≠ none) ∧ (child ≠ none → h.job.pid = none) ∧
      ((startNmcli kind argv spawn h).1.Valid ↔ h.Valid) ∧
      (startNmcli kind argv spawn h).1.scan = h.scan := by
  rcases startNmcli_cases kind argv spawn h with ⟨pid, free, same⟩ | ⟨line, same⟩
  · exact ⟨some pid, by rw [same]; rfl, by simp [same], fun _ => free, by rw [same]; rfl,
      by rw [same]⟩
  · exact ⟨none, by rw [same]; rfl, by simp [same], fun some => absurd rfl some, by rw [same]; rfl,
      by rw [same]⟩

/-! ## The call -/

/-- A child of the wanted kind keeps its slot; any other one is killed. -/
theorem abort_other_joinState (h : Hud) (kind : JobKind) :
    (if h.job.pid ≠ none ∧ h.job.kind ≠ kind then h.abortJob else h).joinState =
      if h.job.pid ≠ none ∧ h.job.kind = kind then h.joinState
      else { h.joinState with pid := none } := by
  by_cases free : h.job.pid = none
  · simp [free, joinState]
  · by_cases wanted : h.job.kind = kind
    · simp [free, wanted]
    · simp only [free, wanted, abortJob, ne_eq, not_false_eq_true, and_self, ↓reduceIte, and_false]
      rfl

/-- A job of another kind that is killed matters to nothing that is laid down. -/
theorem abort_other_valid (h : Hud) (kind : JobKind) :
    (if h.job.pid ≠ none ∧ h.job.kind ≠ kind then h.abortJob else h).Valid ↔ h.Valid := by
  unfold abortJob
  split_ifs <;> rfl

/-- Its beginning does not change what the other arguments of a call point to. -/
theorem beginConnect_load (steady : arg.Steady) : (h.beginConnect ssid).load arg = h.load arg := by
  have other : arg ≠ .var Dst.connectSsid.var := steady .connectSsid (by simp)
  have copied : (h.joinFlags.snprintf .connectSsid ssid).load arg = h.load arg :=
    (load_snprintf_of_ne other).trans (by cases arg with | var name => cases name <;> rfl | _ => rfl)
  rw [← copied]
  unfold beginConnect abortJob
  simp only
  split_ifs <;> cases arg with | var name => cases name <;> rfl | _ => rfl

/-- It leaves the scan data. -/
theorem beginConnect_scan : (h.beginConnect ssid).scan = h.scan := by
  unfold beginConnect abortJob
  simp only
  split_ifs <;> exact snprintf_scan ..

/-- It leaves what the join machine relies on. -/
theorem beginConnect_valid (ssid : Arg) : (h.beginConnect ssid).Valid ↔ h.Valid := by
  have forget : (h.beginConnect ssid).forget = h.joinFlags.forget := by
    unfold beginConnect abortJob
    simp only
    split_ifs <;> exact snprintf_forget ..
  have osk : (h.beginConnect ssid).osk = h.osk := by
    unfold beginConnect abortJob
    simp only
    split_ifs <;> exact snprintf_osk ..
  rw [Valid, beginConnect_scan, forget, osk]
  rfl

/-- Before the slot is looked at, the flags are set, the name is copied and any child
that is not a connect job is gone. -/
theorem beginConnect_joinState (ssid : Arg) (free : ¬h.connectInFlight) :
    (h.beginConnect ssid).joinState =
      { h.joinState with
        connecting := true
        joinWaitLive := false
        pid := none
        connectSsid :=
          if ssid = Arg.var .connectSsid then .empty 96 else .print 96 (h.load ssid)
        overlapped := h.overlapped || ssid = Arg.var .connectSsid } := by
  have entered : (h.joinFlags.snprintf .connectSsid ssid).joinState =
      { h.joinState with
        connecting := true
        joinWaitLive := false
        connectSsid :=
          if ssid = Arg.var .connectSsid then .empty 96 else .print 96 (h.load ssid)
        overlapped := h.overlapped || ssid = Arg.var .connectSsid } := by
    by_cases same : ssid = Arg.var .connectSsid
    · subst same
      simp [snprintf, Dst.var, put, joinState, joinFlags]
    · have loaded : h.joinFlags.load ssid = h.load ssid := by
        cases ssid with
        | var name => cases name <;> rfl
        | _ => rfl
      rw [@snprintf_of_ne _ .connectSsid _ same, loaded]
      simp [put, joinState, joinFlags, same]
  unfold beginConnect
  simp only
  rw [abort_other_joinState _ .connect]
  have idle : ¬connectInFlight ((h.joinFlags.snprintf .connectSsid ssid).setStatus
      ((h.joinFlags.snprintf .connectSsid ssid).T "正在连接…" "Connecting…")) := by
    simpa [connectInFlight, setStatus, joinFlags] using free
  rw [connectInFlight] at idle
  rw [if_neg idle]
  change { (h.joinFlags.snprintf .connectSsid ssid).joinState with pid := none } = _
  rw [entered]

/-- Filling the arrays of the script from arguments that are not among them. -/
theorem fillArgv_eq (apart : ∀ dst ∈ [Dst.s1, .s2, .s3, .s4],
      ssid ≠ .var dst.var ∧ pass ≠ .var dst.var ∧ sec ≠ .var dst.var) :
    h.fillArgv ssid pass sec =
      { h with
        bufs.s1 := .print 96 (h.load ssid)
        bufs.s2 := .print 64 (h.load pass)
        bufs.s3 := .print 32 h.wifi.iface.text
        bufs.s4 := .print 40 (h.load sec) } := by
  obtain ⟨ssid1, pass1, sec1⟩ := apart .s1 (by simp)
  obtain ⟨-, pass2, sec2⟩ := apart .s2 (by simp)
  obtain ⟨-, -, sec3⟩ := apart .s3 (by simp)
  obtain ⟨-, -, sec4⟩ := apart .s4 (by simp)
  have iface3 : Arg.var .iface ≠ .var Dst.s3.var := by decide
  unfold fillArgv
  simp only
  rw [snprintf_of_ne ssid1, snprintf_of_ne pass2, snprintf_of_ne iface3, snprintf_of_ne sec4,
    load_put_of_ne sec3, load_put_of_ne sec2, load_put_of_ne sec1, load_put_of_ne pass1,
    load_put_of_ne (by decide), load_put_of_ne (by decide)]
  rfl

/-- The call as the history records it. -/
def callOf (h : Hud) (ssid pass sec : Arg) : ConnectCall where
  ssid := ssid
  pass := pass
  sec := sec
  ssidText := h.load ssid
  passText := h.load pass
  secText := h.load sec
  outcome :=
    .argv (if ssid = Arg.var .connectSsid then [] else h.load ssid) (h.load pass) (h.load sec)

/-- What a call gets: a name in one of three arrays, and a password and a security that
are not overwritten and fit their arrays. -/
structure Callable (h : Hud) (array : Var) (pass sec : Arg) : Prop where
  source : array ∈ [Var.selectedSsid, .connectSsid, .pendSsid]
  passSteady : pass.Steady
  secSteady : sec.Steady
  passFits : (h.load pass).length < 64
  secFits : (h.load sec).length < 40

/-- A name fits the arrays of names. -/
theorem load_source_fits (source : array ∈ [Var.selectedSsid, .connectSsid, .pendSsid]) :
    (h.load (.var array)).length < 96 := by
  simp only [List.mem_cons, List.not_mem_nil, or_false] at source
  rcases source with rfl | rfl | rfl
  · exact h.scan.selectedSsid.fits
  · exact h.bufs.connectSsid.fits
  · exact h.bufs.pendSsid.fits

/-- What the name argument points to after `connect_ssid` has been overwritten. -/
theorem beginConnect_load_source (source : array ∈ [Var.selectedSsid, .connectSsid, .pendSsid]) :
    (h.beginConnect (.var array)).load (.var array) =
      if Arg.var array = Arg.var .connectSsid then [] else h.load (.var array) := by
  simp only [List.mem_cons, List.not_mem_nil, or_false] at source
  rcases source with rfl | rfl | rfl
  · exact beginConnect_load (by decide)
  · rw [if_pos rfl]
    unfold beginConnect abortJob
    simp only
    split_ifs <;> rfl
  · exact beginConnect_load (by decide)

/-- The arrays that hold names are not the arrays of the script. -/
theorem sources_apart : ∀ array ∈ [Var.selectedSsid, .connectSsid, .pendSsid],
    ∀ dst ∈ [Dst.s1, .s2, .s3, .s4], Arg.var array ≠ .var dst.var := by decide

/-- **A call that finds no connect job in flight.** It reaches the script with the
password and the security it was given, and with the name unless that was `connect_ssid`. -/
theorem wifiConnect_joinState (sys : Sys) (callable : Callable h array pass sec)
    (nonempty : h.load (.var array) ≠ []) (free : ¬h.connectInFlight) :
    ∃ argv child, (h.wifiConnect (.var array) pass sec sys).joinState =
        h.joinState.connect (h.callOf (.var array) pass sec) argv child ∧
      ((h.wifiConnect (.var array) pass sec sys).Valid ↔ h.Valid) ∧
      (h.wifiConnect (.var array) pass sec sys).scan = h.scan := by
  have begun := beginConnect_joinState (.var array) free
  have slot : (h.beginConnect (.var array)).job.pid = none := congrArg JoinState.pid begun
  unfold wifiConnect
  rw [if_neg nonempty]
  simp only
  rw [if_neg (not_not.mpr slot)]
  have apart : ∀ dst ∈ [Dst.s1, .s2, .s3, .s4],
      Arg.var array ≠ .var dst.var ∧ pass ≠ .var dst.var ∧ sec ≠ .var dst.var := by
    intro dst member
    have listed : dst ∈ [Dst.connectSsid, .s1, .s2, .s3, .s4] := List.mem_cons_of_mem _ member
    refine ⟨?_, callable.passSteady dst listed, callable.secSteady dst listed⟩
    exact sources_apart array callable.source dst member
  rw [fillArgv_eq apart, beginConnect_load_source callable.source,
    beginConnect_load callable.passSteady, beginConnect_load callable.secSteady]
  have passed : (if Arg.var array = Arg.var .connectSsid then [] else h.load (.var array)).length
      < 96 := by
    split
    · decide
    · exact load_source_fits callable.source
  simp only [Buf.print_of_lt passed, Buf.print_of_lt callable.passFits,
    Buf.print_of_lt callable.secFits]
  generalize filled : Hud.observe _ _ = g
  have joins : g.joinState = { (h.beginConnect (.var array)).joinState with
      trace := .connect (h.callOf (.var array) pass sec) ::
        (h.beginConnect (.var array)).joinState.trace } := by rw [← filled]; rfl
  have unchanged : g.scan = h.scan := by rw [← filled]; exact beginConnect_scan
  have valid : g.Valid ↔ h.Valid := by rw [← filled]; exact beginConnect_valid (.var array)
  generalize connectArgv g.bufs.s1 g.bufs.s2 g.bufs.s3 g.bufs.s4 = argv
  obtain ⟨child, started, -, -, kept, scan⟩ := startNmcli_joinState .connect argv sys.spawn g
  refine ⟨argv, child, started.trans ?_, kept.trans valid, scan.trans unchanged⟩
  rw [joins, begun]
  rfl

end Hud

end Ginkgo
