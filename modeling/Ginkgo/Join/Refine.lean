import Ginkgo.Join.Calls

/-!
# The HUD refines the join machine

Every function of the HUD moves the join machine (`Ginkgo.Hud.Refines`), and so does
every step of the main loop, except that the end of a connect job may also open the
password sheet (`Ginkgo.Hud.step_refines`). An invariant of the machine is therefore an
invariant of the HUD (`Ginkgo.JoinState.Invariant.always`).
-/

namespace Ginkgo

open CText JoinState

namespace Hud

/-- What holds in every state of every run. -/
structure WellFormed (h : Hud) : Prop where
  valid : h.Valid
  sound : h.joinState.Sound

/-- **From a well-formed state the join machine gets there by its moves.** -/
def Refines (h h' : Hud) : Prop :=
  h.WellFormed → h'.Valid ∧ Moves h.joinState h'.joinState

variable {h h' h'' : Hud} {sys : Sys}

/-- What a refinement reaches from a well-formed state is well formed. -/
theorem Refines.wellFormed (refines : Refines h h') (wf : h.WellFormed) : h'.WellFormed where
  valid := (refines wf).1
  sound := (refines wf).2.keep (fun _ _ move sound => move.sound sound) wf.sound

theorem Refines.refl (h : Hud) : Refines h h := fun wf => ⟨wf.valid, .refl⟩

theorem Refines.trans (first : Refines h h') (second : Refines h' h'') : Refines h h'' := by
  intro wf
  obtain ⟨valid, moves⟩ := second (first.wellFormed wf)
  exact ⟨valid, (first wf).2.trans moves⟩

/-- A branch of two of them, each of which may use the condition. -/
theorem Refines.ite {condition : Prop} [Decidable condition] (yes : condition → Refines h h')
    (no : ¬condition → Refines h h'') : Refines h (if condition then h' else h'') := by
  split
  · exact yes ‹_›
  · exact no ‹_›

/-- A single move. -/
theorem Refines.move (valid : h.Valid → h'.Valid) (move : Move h.joinState h'.joinState) :
    Refines h h' := fun wf => ⟨valid wf.valid, .single move⟩

/-- What no join notices is no move. -/
theorem Quiet.refines (quiet : Quiet h h') : Refines h h' := by
  intro wf
  refine ⟨quiet.valid wf.valid, ?_⟩
  rw [quiet.joins]

/-- What no join notices may come first. -/
theorem Refines.after (refines : Refines h' h'') (quiet : Quiet h h') : Refines h h'' :=
  quiet.refines.trans refines

/-- What only holds of well-formed states may be used of the first state. -/
theorem Refines.assume (refines : h.WellFormed → Refines h h') : Refines h h' :=
  fun wf => refines wf wf

/-! ## Starts -/

/-- A child other than a join's is a move that starts it. -/
theorem startNmcli_refines (h : Hud) {kind : JobKind} (argv : List Text) (spawn : Spawn)
    (other : kind ≠ .connect) : Refines h (startNmcli kind argv spawn h).1 := by
  obtain ⟨child, joins, -, free, valid, -⟩ := startNmcli_joinState kind argv spawn h
  refine .move valid.mpr ?_
  rw [joins]
  exact .started h.joinState kind argv child other free

theorem startReport_refines (h : Hud) {kind : JobKind} (argv : List Text) {retry : Hud → Hud}
    (sys : Sys) (other : kind ≠ .connect) (quiet : ∀ g, Quiet g (retry g)) :
    Refines h (h.startReport kind argv retry sys) := by
  have started := h.startNmcli_refines argv sys.spawn other
  unfold startReport
  simp only
  exact started.trans (.ite (fun _ => .refl _) fun _ => (quiet _).refines)

/-- `wifi_radio` is a move. -/
theorem wifiRadio_refines (h : Hud) (sys : Sys) : Refines h (h.wifiRadio sys) :=
  h.startReport_refines _ sys nofun fun _ => ⟨rfl, id, rfl⟩

/-- `wifi_info` is. -/
theorem wifiInfo_refines (h : Hud) (sys : Sys) : Refines h (h.wifiInfo sys) :=
  h.startReport_refines _ sys nofun fun _ => ⟨rfl, id, rfl⟩

/-- `wifi_scan` is. -/
theorem wifiScan_refines (h : Hud) (sys : Sys) : Refines h (h.wifiScan sys) :=
  h.startReport_refines _ sys nofun fun _ => ⟨rfl, id, rfl⟩

/-- `wifi_link` is. -/
theorem wifiLink_refines (h : Hud) (sys : Sys) : Refines h (h.wifiLink sys) :=
  h.startReport_refines _ sys nofun fun _ => ⟨rfl, id, rfl⟩

/-! ## Joins -/

/-- A reached call is a move of the machine, by the array it was given. -/
theorem callOf_passes (h : Hud) (array : Var) (pass sec : Arg)
    (nonempty : h.load (.var array) ≠ []) :
    Passes (h.callOf (.var array) pass sec) array (h.load (.var array)) where
  ssid := rfl
  ssidText := rfl
  nonempty := nonempty
  outcome := by simp [callOf]

/-- The security passed on is a row's, the selected one, or none. -/
theorem pickedSec_cases (h : Hud) :
    (∃ row, h.pickedSec = .apSecurity row) ∨ h.pickedSec = .var .selectedSec ∨
      h.pickedSec = .lit [] := by
  unfold pickedSec
  split
  · exact .inl ⟨_, rfl⟩
  · split
    · exact .inr (.inl rfl)
    · exact .inr (.inr rfl)

/-- The picked security is not among what a call writes. -/
theorem pickedSec_steady (h : Hud) : h.pickedSec.Steady := by
  rcases h.pickedSec_cases with ⟨row, same⟩ | same | same <;> rw [same]
  · intro dst _ equal
    cases equal
  · decide
  · decide

/-- The security fits its array, also when it is read later. -/
theorem load_pickedSec_fits (h g : Hud) : (g.load h.pickedSec).length < 40 := by
  rcases h.pickedSec_cases with ⟨row, same⟩ | same | same <;> rw [same]
  · change ((g.scan.aps[row]?.map fun ap => ap.security.text).getD []).length < 40
    cases g.scan.aps[row]? with
    | none => decide
    | some ap => exact ap.security.fits
  · exact g.scan.selectedSec.fits
  · exact Nat.succ_pos 39

/-- A call from the user is a move. -/
theorem wifiConnect_joined {array : Var} {pass sec : Arg}
    (callable : Callable h array pass sec)
    (asked : array = .selectedSsid ∨ array = .connectSsid)
    (idle : h.join.connecting = false) (nonempty : h.load (.var array) ≠ []) :
    Refines h (h.wifiConnect (.var array) pass sec sys) := by
  refine .assume fun wf => ?_
  have free : ¬h.joinState.InFlight := by
    intro running
    have busy : h.join.connecting = true := (wf.sound.busy running).1
    rw [idle] at busy
    cases busy
  obtain ⟨argv, child, joins, valid, -⟩ := wifiConnect_joinState sys callable nonempty free
  refine .move valid.mpr ?_
  rw [joins]
  refine .joined _ _ argv child ?_ idle free
  rcases asked with rfl | rfl
  · exact .inl (h.callOf_passes _ pass sec nonempty)
  · exact .inr (h.callOf_passes _ pass sec nonempty)

/-- The name that the password is for, as the join machine has it. -/
theorem load_gwPassSsid (h : Hud) : h.load h.gwPassSsid = h.joinState.passName := by
  unfold gwPassSsid JoinState.passName
  by_cases joined : h.bufs.connectSsid.text = []
  · by_cases selected : h.scan.selectedSsid.text = []
    · simp [joined, selected, joinState, load]
    · simp [joined, selected, joinState, load, get]
  · simp [joined, joinState, load, get]

/-- The array the password is for. -/
theorem gwPassSsid_cases (h : Hud) (nonempty : h.load h.gwPassSsid ≠ []) :
    h.gwPassSsid = .var .connectSsid ∨ h.gwPassSsid = .var .selectedSsid := by
  unfold gwPassSsid at nonempty ⊢
  split_ifs at nonempty ⊢
  · exact .inl rfl
  · exact .inr rfl
  · exact absurd rfl nonempty

/-- A join is queued with what its arguments point to, when they are not its own arrays. -/
theorem queueConnect_eq {ssid pass sec : Arg} (ssidApart : ssid ≠ .var .pendSsid)
    (passApart : pass ≠ .var .pendSsid ∧ pass ≠ .var .pendPass)
    (secApart : sec ≠ .var .pendSsid ∧ sec ≠ .var .pendPass ∧ sec ≠ .var .pendSec) :
    h.queueConnect ssid pass sec =
      { h with
        bufs.pendSsid := .print 96 (h.load ssid)
        bufs.pendPass := .print 64 (h.load pass)
        bufs.pendSec := .print 40 (h.load sec)
        join.wantConnect := true } := by
  unfold queueConnect
  simp only
  rw [@snprintf_of_ne _ .pendSsid _ ssidApart, @snprintf_of_ne _ .pendPass _ passApart.2,
    @snprintf_of_ne _ .pendSec _ secApart.2.2, @load_put_of_ne _ _ .pendPass _ secApart.2.1,
    @load_put_of_ne _ _ .pendSsid _ secApart.1, @load_put_of_ne _ _ .pendSsid _ passApart.1]
  rfl

/-- The picked security is none of the queue's arrays. -/
theorem pickedSec_apart (h : Hud) : h.pickedSec ≠ .var .pendSsid ∧ h.pickedSec ≠ .var .pendPass ∧
    h.pickedSec ≠ .var .pendSec := by
  rcases h.pickedSec_cases with ⟨row, same⟩ | same | same <;> rw [same]
  · exact ⟨nofun, nofun, nofun⟩
  · decide
  · exact ⟨nofun, nofun, nofun⟩

/-- That name fits its array. -/
theorem passName_fits (v : JoinState) : v.passName.length < 96 := by
  unfold JoinState.passName
  split
  · exact v.connectSsid.fits
  · exact v.selectedSsid.fits

/-- A password entered while a join is going on is queued under the name it is for. -/
theorem queueConnect_refines {sec : Arg}
    (secApart : sec ≠ .var .pendSsid ∧ sec ≠ .var .pendPass ∧ sec ≠ .var .pendSec)
    (busy : h.join.connecting = true) (nonempty : h.load h.gwPassSsid ≠ []) :
    Refines h (h.queueConnect h.gwPassSsid (.var .password) sec) := by
  have apart : h.gwPassSsid ≠ .var .pendSsid := by
    rcases h.gwPassSsid_cases nonempty with same | same <;> rw [same] <;> decide
  rw [queueConnect_eq apart (by decide) secApart, load_gwPassSsid]
  rw [load_gwPassSsid] at nonempty
  refine .move id ?_
  have stored : (Buf.print 96 h.joinState.passName).text = h.joinState.passName :=
    Buf.print_of_lt (passName_fits _)
  exact .queued h.joinState _ (by rwa [stored]) stored busy

/-- A password that is submitted is a move, for a name that is not empty. -/
theorem submit_joined {sec : Arg} (steady : sec.Steady) (secFits : (h.load sec).length < 40)
    (idle : h.join.connecting = false) (nonempty : h.load h.gwPassSsid ≠ []) :
    Refines h (h.wifiConnect h.gwPassSsid (.var .password) sec sys) := by
  refine .assume fun wf => ?_
  have passFits : h.osk.password.text.length < 64 := by
    have length : h.osk.password.text.length = h.osk.pwLen := wf.sound.textLength
    have room : h.osk.pwLen < 64 := wf.sound.room
    omega
  rcases h.gwPassSsid_cases nonempty with same | same
  · rw [same] at nonempty ⊢
    exact wifiConnect_joined ⟨by simp, by decide, steady, passFits, secFits⟩ (.inr rfl) idle nonempty
  · rw [same] at nonempty ⊢
    exact wifiConnect_joined ⟨by simp, by decide, steady, passFits, secFits⟩ (.inl rfl) idle nonempty

/-- The array the password is for depends on the joined and the selected name only. -/
theorem gwPassSsid_congr {g : Hud} (same : g.joinState = h.joinState) :
    g.gwPassSsid = h.gwPassSsid := by
  have joined : g.bufs.connectSsid = h.bufs.connectSsid := congrArg JoinState.connectSsid same
  have selected : g.scan.selectedSsid = h.scan.selectedSsid := congrArg JoinState.selectedSsid same
  unfold gwPassSsid
  rw [joined, selected]

/-- **`wifi_submit_pass` is a move**, or none. -/
theorem wifiSubmitPass_refines (h : Hud) (sys : Sys) : Refines h (h.wifiSubmitPass sys) := by
  unfold wifiSubmitPass
  simp only
  refine .ite (fun _ => .refl h) fun allowed => ?_
  refine .ite (fun _ => (Quiet.refines ⟨rfl, id, rfl⟩)) fun _ => ?_
  refine .ite (fun _ => (Quiet.refines ⟨rfl, id, rfl⟩)) fun _ => ?_
  have remembered : Quiet h ({ h with join.connectNeedPass := true }.rememberPsk
      (Hud.load { h with join.connectNeedPass := true } h.gwPassSsid) h.osk.password.text) := by
    refine Quiet.trans ?_ (rememberPsk_quiet _ _ _)
    exact ⟨rfl, id, rfl⟩
  apply remembered.refines.trans
  generalize Hud.rememberPsk _ _ _ = g at remembered ⊢
  have same := gwPassSsid_congr remembered.joins
  have nonempty : g.load g.gwPassSsid ≠ [] := by
    rw [load_gwPassSsid, remembered.joins, ← load_gwPassSsid]
    exact fun empty => allowed (.inl empty)
  rw [← same]
  refine .ite (fun busy => ?_) fun idle => ?_
  · exact queueConnect_refines h.pickedSec_apart busy nonempty
  · have idle : g.join.connecting = false := by simpa using idle
    exact submit_joined h.pickedSec_steady (h.load_pickedSec_fits g) idle nonempty

/-- **`wifi_join_picked` is a move**, or none. -/
theorem wifiJoinPicked_refines (h : Hud) (sys : Sys) : Refines h (h.wifiJoinPicked sys) := by
  unfold wifiJoinPicked
  simp only
  refine .ite (fun _ => .refl h) fun allowed => ?_
  refine .ite (fun _ => .refl h) fun _ => ?_
  refine .ite (fun _ => (h.setStatus_quiet _).refines) fun _ => ?_
  have nonempty : h.scan.selectedSsid.text ≠ [] := fun empty => allowed (.inl empty)
  have idle : h.join.connecting = false := by
    by_contra busy
    exact allowed (.inr (.inl (by simpa using busy)))
  have noted (need : Bool) : Refines h { h with join.connectNeedPass := need } :=
    Quiet.refines ⟨rfl, id, rfl⟩
  refine .ite (fun _ => (noted true).trans ?_) fun _ => (noted false).trans ?_
  · refine wifiConnect_joined ⟨by simp, by decide, h.pickedSec_steady, ?_, ?_⟩ (.inl rfl) idle nonempty
    · exact h.bufs.knownPsk.fits
    · exact h.load_pickedSec_fits _
  · refine wifiConnect_joined ⟨by simp, nofun, h.pickedSec_steady, ?_, ?_⟩ (.inl rfl) idle nonempty
    · exact Nat.succ_pos 63
    · exact h.load_pickedSec_fits _

/-! ## The queue -/

/-- Before the slot is looked at, a forget gives up the join and the queue; the rest of what
it does no join notices. -/
theorem beginForget_quiet (h : Hud) (ssid : Text) :
    ∃ g : Hud, Quiet g (h.beginForget ssid) ∧ g.scan = h.scan ∧ (h.Valid → g.Valid) ∧
      g.joinState =
        { h.joinState with joinWaitLive := false, connecting := false, wantConnect := false } := by
  refine ⟨{ h with
      join.joinWaitLive := false
      join.connecting := false
      wifi.busy := false
      join.wantConnect := false
      want.scan := false
      want.info := false
      want.link := false
      forget.forgetting := true
      forget.forgetSsid := .print 96 ssid }, ?_, rfl, id, rfl⟩
  unfold beginForget
  refine Quiet.trans (Quiet.trans (markApInactive_quiet _ ssid) ?_) (setStatus_quiet _ _)
  exact .ite (clearLive_quiet _) (.refl _)

/-- **`wifi_forget` is a move**, or none. -/
theorem wifiForget_refines (h : Hud) (ssid : Text) (sys : Sys) :
    Refines h (h.wifiForget ssid sys) := by
  unfold wifiForget
  refine .ite (fun _ => .refl h) fun _ => .ite (fun _ => .refl h) fun startable => ?_
  obtain ⟨begun, quiet, -, kept, idle⟩ := h.beginForget_quiet ssid
  have joins := quiet.joins.trans idle
  have valid : h.Valid → (h.beginForget ssid).Valid := fun before => quiet.valid (kept before)
  simp only
  generalize h.beginForget ssid = g at joins valid
  have other : ¬(g.job.pid ≠ none ∧ g.job.kind = .forget) := by
    intro running
    have pid : g.job.pid = h.job.pid := congrArg JoinState.pid joins
    have kind : g.job.kind = h.job.kind := congrArg JoinState.kind joins
    rw [pid, kind] at running
    simp [gwForgetCanStart, running] at startable
  have aborted := g.abort_other_joinState .forget
  rw [if_neg other, joins] at aborted
  have kept := g.abort_other_valid .forget
  generalize (if g.job.pid ≠ none ∧ g.job.kind ≠ .forget then g.abortJob else g) = k at aborted kept
  have free : k.job.pid = none := congrArg JoinState.pid aborted
  rw [if_neg (not_not.mpr free)]
  generalize forgetArgv _ _ = argv
  obtain ⟨child, started, -, -, validStart, -⟩ := startNmcli_joinState .forget argv sys.spawn k
  refine Refines.trans (.move (fun before => validStart.mpr (kept.mpr (valid before))) ?_)
    (.ite (fun _ => .refl _) fun _ => Quiet.refines ⟨rfl, id, rfl⟩)
  rw [started, aborted]
  exact .forgot h.joinState argv child

/-- **`kick_pending` is a move**: it starts what waits in the queue. -/
theorem kickPending_refines (h : Hud) (sys : Sys) : Refines h (h.kickPending sys) := by
  refine .assume fun wf => ?_
  unfold kickPending
  refine .ite (fun _ => .refl h) fun idle => ?_
  have free : h.job.pid = none := not_not.mp idle
  rw [if_neg (by simp [wf.valid.2.2])]
  refine .ite (fun wants => ?_) fun _ => ?_
  · by_cases empty : h.bufs.pendSsid.text = []
    · have refused : Hud.wifiConnect (.var .pendSsid) (.var .pendPass) (.var .pendSec) sys
          { h with join.wantConnect := false } = { h with join.wantConnect := false } := if_pos empty
      rw [refused]
      exact .move id (.dropped h.joinState empty wants free)
    · have callable : Callable { h with join.wantConnect := false } .pendSsid (.var .pendPass)
          (.var .pendSec) :=
        ⟨by simp, by decide, by decide, h.bufs.pendPass.fits, h.bufs.pendSec.fits⟩
      obtain ⟨argv, child, joins, valid, -⟩ :=
        wifiConnect_joinState sys callable empty fun running => running.1 free
      refine .move valid.mpr ?_
      rw [joins]
      exact .kicked h.joinState _ argv child (callOf_passes _ _ _ _ empty) wants free
  · refine .ite (fun _ => ?_) fun _ => .ite (fun _ => ?_) fun _ => .ite (fun _ => ?_) fun _ => .refl h
    · exact (wifiScan_refines _ sys).after ⟨rfl, id, rfl⟩
    · exact (wifiLink_refines _ sys).after ⟨rfl, id, rfl⟩
    · exact (wifiInfo_refines _ sys).after ⟨rfl, id, rfl⟩

end Hud

end Ginkgo
