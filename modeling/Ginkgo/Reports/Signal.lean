import Ginkgo.Join.Steps
import Ginkgo.Transition.Gauge

/-!
# The live signal

The percentage and the level of the live network are written by the scan list, the samples of
the kernel, the two kinds of link report and the device list, each on its own schedule. Together
they are a gauge (`Ginkgo.SignalGauge`): a level is a live reading, the percentages of the other
sources are estimates, and a device list without a network clears it. Whatever the HUD does is
something that the gauge does (`Ginkgo.Hud.step_gauged`), so in every reachable state the two
show what a gauge can show (`Ginkgo.Hud.Reachable.displays`).
-/

namespace Ginkgo

open CText Transition

/-- The levels that `apply_signal_dbm` takes over. -/
def LiveDbm (dbm : Int) : Prop := -120 ≤ dbm ∧ dbm < 0

/-- The gauge whose levels are in dBm and whose percentages `rssi_to_pct` computes. -/
abbrev SignalGauge := Gauge rssiToPct LiveDbm

/-- **A higher level is no lower percentage.** -/
theorem rssiToPct_mono {low high : Int} (le : low ≤ high) : rssiToPct low ≤ rssiToPct high := by
  have slope {dbm : Int} (above : -100 < dbm) (below : dbm < -55) :
      ((dbm + 100) * 100).tdiv 45 = (dbm + 100) * 100 / 45 :=
    Int.tdiv_eq_ediv_of_nonneg (by omega)
  unfold rssiToPct
  split_ifs with full weak full' weak'
  · exact le_rfl
  · omega
  · omega
  · decide
  · exact le_rfl
  · rw [slope (by omega) (by omega)]
    omega
  · rw [slope (by omega) (by omega)]
    omega
  · omega
  · rw [slope (by omega) (by omega), slope (by omega) (by omega)]
    omega

namespace Hud

/-- The percentage and the level. -/
def signal (h : Hud) : Int × Int := (h.wifi.signal, h.wifi.signalDbm)

/-- The level, when one is shown. -/
def shownDbm (h : Hud) : Option Int := if h.wifi.signalDbm < 0 then some h.wifi.signalDbm else none

/-- **The percentage and the level are those of a gauge.** -/
structure Displays (h : Hud) (gauge : SignalGauge) : Prop where
  live : gauge.live.map Subtype.val = h.shownDbm
  shown : gauge.shown = h.wifi.signal

/-- A change that a gauge can follow. -/
def Gauged (h h' : Hud) : Prop :=
  ∀ gauge, h.Displays gauge → ∃ acts, h'.Displays (run Gauge.act gauge acts)

namespace Gauged

variable {h h' h'' : Hud}

/-- Two changes that a gauge can follow, one after the other. -/
theorem trans (first : Gauged h h') (second : Gauged h' h'') : Gauged h h'' := by
  intro gauge displays
  obtain ⟨acts, displays'⟩ := first gauge displays
  obtain ⟨later, displays''⟩ := second _ displays'
  exact ⟨acts ++ later, by rwa [run_append]⟩

/-- A branch whose two sides a gauge can follow. -/
theorem ite {condition : Prop} [Decidable condition] (yes : Gauged h h') (no : Gauged h h'') :
    Gauged h (if condition then h' else h'') := by
  split
  · exact yes
  · exact no

/-- Both are left alone. -/
theorem same (signal : h'.signal = h.signal) : Gauged h h' := by
  obtain ⟨shown, dbm⟩ := Prod.mk.inj signal
  intro gauge displays
  refine ⟨[], ?_, displays.shown.trans shown.symm⟩
  rw [run_nil, displays.live, shownDbm, shownDbm, dbm]

theorem refl (h : Hud) : Gauged h h := same rfl

/-- A level comes with its percentage. -/
theorem measured {dbm : Int} (valid : LiveDbm dbm) (signal : h'.signal = (rssiToPct dbm, dbm)) :
    Gauged h h' := by
  obtain ⟨shown, level⟩ := Prod.mk.inj signal
  intro gauge _
  refine ⟨[.measure ⟨dbm, valid⟩], ?_, shown.symm⟩
  rw [shownDbm, level, if_pos valid.2]
  rfl

/-- Without a level any percentage can be shown. -/
theorem estimated (unread : 0 ≤ h.wifi.signalDbm)
    (dbm : h'.wifi.signalDbm = h.wifi.signalDbm) : Gauged h h' := by
  intro gauge displays
  have none : gauge.live = none := by
    have live := displays.live
    rw [shownDbm, if_neg (by omega)] at live
    exact Option.map_eq_none_iff.mp live
  refine ⟨[.estimate h'.wifi.signal], ?_, ?_⟩
  · rw [run_cons, run_nil, Gauge.act_estimate none, shownDbm, if_neg (by omega)]
    rfl
  · rw [run_cons, run_nil, Gauge.act_estimate none]
    rfl

/-- The level is dropped and the percentage stays. -/
theorem cleared (shown : h'.wifi.signal = h.wifi.signal) (dbm : h'.wifi.signalDbm = 0) :
    Gauged h h' := by
  intro gauge displays
  refine ⟨[.clear], ?_, displays.shown.trans shown.symm⟩
  rw [shownDbm, if_neg (by omega)]
  rfl

end Gauged

/-- What a finger or a frame changes leaves the percentage and the level alone. -/
theorem Handles.gauged {h h' : Hud} (handles : Handles h h') : Gauged h h' :=
  .same (handles.same signal fun _ => rfl)

variable (h : Hud)

/-! ## The writers -/

/-- `apply_signal_dbm` measures: it takes a live level over together with its percentage. -/
theorem applySignalDbm_gauged (dbm : Int) : Gauged h (h.applySignalDbm dbm) := by
  unfold applySignalDbm
  split
  · exact .refl h
  · next accepted =>
      have valid : LiveDbm dbm := ⟨by omega, by omega⟩
      exact .measured valid rfl

/-- A reported name leaves both alone. -/
theorem applyWifiSsid_gauged (name : Text) : Gauged h (h.applyWifiSsid name) := by
  obtain ⟨hold, ssid, same, -⟩ := h.applyWifiSsid_writes name
  rw [same]
  exact .same rfl

/-- The row in use gives an estimate, and only when no level is known. -/
theorem applyActiveAp_gauged : Gauged h h.applyActiveAp := by
  unfold applyActiveAp
  simp only
  split
  · exact .refl h
  · next ap _ =>
      have named : Gauged h (if ap.ssid.text ≠ [] then h.applyWifiSsid ap.ssid.text else h) :=
        .ite (h.applyWifiSsid_gauged _) (.refl h)
      apply named.trans
      generalize (if ap.ssid.text ≠ [] then _ else _) = g
      have shown : Gauged g (if 0 ≤ g.wifi.signalDbm ∧ 0 < ap.signal then
          { g with wifi.signal := ap.signal } else g) := by
        split
        · next unread => exact .estimated unread.1 rfl
        · exact .refl g
      exact shown.trans (.ite (.same rfl) (.refl _))

/-- The row of the kernel's wireless table measures, or estimates when it has no level. -/
theorem sampleSignal_gauged (row : Option (Int × Int)) : Gauged h (h.sampleSignal row) := by
  unfold sampleSignal
  refine h.applyActiveAp_gauged.trans (.ite (.refl _) ?_)
  generalize h.applyActiveAp = g
  cases row with
  | none => exact .refl g
  | some row =>
      refine .ite (g.applySignalDbm_gauged _) ?_
      split
      · next unread => exact .ite (.estimated unread.1 rfl) (.estimated unread.1 rfl)
      · exact .refl g

/-- A `signal:` label measures. -/
theorem linkSignal_gauged (buf : Text) : Gauged h (h.linkSignal buf) := by
  unfold linkSignal
  rcases scanLabel (txt "signal avg:") buf with _ | _ | dbm
  · rcases scanLabel (txt "signal:") buf with _ | _ | dbm
    · exact .refl h
    · exact .refl h
    · exact h.applySignalDbm_gauged dbm
  · exact .refl h
  · exact h.applySignalDbm_gauged dbm

/-- The row of a link report estimates. -/
theorem applyLinkRow_gauged (row : Text × Text × Option Text) : Gauged h (h.applyLinkRow row) := by
  obtain ⟨signal, freq, name⟩ := row
  unfold applyLinkRow
  simp only
  have shown : Gauged h (if 0 ≤ h.wifi.signalDbm ∧ 0 < atoi signal then
      { h with wifi.signal := clampi (atoi signal) 0 100 } else h) := by
    split
    · next unread => exact .estimated unread.1 rfl
    · exact .refl h
  apply shown.trans
  generalize (if 0 ≤ h.wifi.signalDbm ∧ 0 < atoi signal then _ else h) = g
  have tuned : Gauged g (if freq ≠ [] ∧ freq ≠ txt "--" then
      { g with wifi.freq := .print 32 freq } else g) := .ite (.same rfl) (.refl g)
  apply tuned.trans
  cases name with
  | none => exact .refl _
  | some name => exact .ite (applyWifiSsid_gauged _ _) (.refl _)

/-- A device list without a network clears the level; what it says else leaves both alone. -/
theorem applyInfo_gauged (now : Nat) (seen : InfoScan) : Gauged h (h.applyInfo now seen) := by
  have held (g : Hud) : Gauged g
      (if gwForgetHoldConnected g.forget.forgetSsid.text g.wifi.connected g.wifi.ssid.text then
        g.clearLive
      else if seen.wifiUp = false ∧ seen.wifiBusy = false ∧ g.forget.forgetSsid.text ≠ [] then
        { g with forget.forgetSsid := .empty 96 }
      else g) := .ite (.same rfl) (.ite (.same rfl) (.refl g))
  have taken : Gauged h { h with
      wifi.haveDev := true
      wifi.iface := if seen.iface.text ≠ [] then seen.iface else h.wifi.iface
      wifi.connected := seen.wifiUp
      wifi.busy := seen.wifiBusy } := .same rfl
  unfold applyInfo
  refine .ite (.refl h) ((taken.trans (held _)).trans ?_)
  simp only
  generalize (if gwForgetHoldConnected _ _ _ then _ else _) = g
  exact .ite (.ite (.same rfl) (.refl g)) (.ite (.cleared rfl rfl) (.refl g))

/-! ## Reports and samples -/

/-- Following the selected row leaves both alone. -/
theorem syncSelectedAp_gauged : Gauged h h.syncSelectedAp := by
  obtain ⟨scan, same, -⟩ := syncSelectedAp_frame h
  rw [same]
  exact .same rfl

/-- So `parse_info` is something that a gauge can follow. -/
theorem parseInfo_gauged (now : Nat) (buf : Text) : Gauged h (h.parseInfo now buf) := by
  unfold parseInfo
  exact .ite (.same rfl) (h.applyInfo_gauged now _)

/-- Restoring the selection by its name leaves both alone. -/
theorem reselectAp_gauged : Gauged h h.reselectAp := by
  unfold reselectAp
  refine .ite (.refl h) ?_
  simp only
  generalize (h.scan.hoverAp.filter _).getD 0 = i
  have hovered : Gauged h { h with scan.hoverAp := some i } := .same rfl
  exact (hovered.trans (syncSelectedAp_gauged _)).trans (.same rfl)

/-- `parse_scan` estimates at most. -/
theorem parseScan_gauged (buf : Text) : Gauged h (h.parseScan buf) := by
  unfold parseScan
  simp only
  generalize (if scanError buf then cutAt newline buf else buf) = report
  have told : Gauged h (if scanError buf then h.setStatus (Buf.print 96 report).text else h) :=
    .ite (.same rfl) (.refl h)
  generalize (if scanError buf then h.setStatus (Buf.print 96 report).text else h) = g at told ⊢
  have listed (aps : List Ap) : Gauged g { g with scan.aps := aps } := .same rfl
  exact told.trans (((listed _).trans (reselectAp_gauged _)).trans (applyActiveAp_gauged _))

/-- An `SSID:` label leaves both alone. -/
theorem linkName_gauged (buf : Text) : Gauged h (h.linkName buf) := by
  unfold linkName
  cases strstr buf (txt "SSID:") with
  | none => exact .refl h
  | some found => exact h.applyWifiSsid_gauged _

/-- A frequency leaves both alone. -/
theorem applyFreq_gauged (mhz : Option Int) : Gauged h (h.applyFreq mhz) := by
  unfold applyFreq
  cases mhz with
  | none => exact .refl h
  | some mhz => exact .ite (.same rfl) (.refl h)

/-- A `freq:` label does too. -/
theorem linkFreq_gauged (buf : Text) : Gauged h (h.linkFreq buf) := by
  unfold linkFreq
  rcases scanLabel (txt "\tfreq:") buf with _ | mhz
  · rcases scanLabel (txt "freq:") buf with _ | mhz
    · exact .refl h
    · exact h.applyFreq_gauged mhz
  · exact h.applyFreq_gauged mhz

/-- The rows of a link report estimate at most. -/
theorem linkRow_gauged (buf : Text) : Gauged h (h.linkRow buf) := by
  unfold linkRow
  cases (lines buf).findSome? parseLinkRow with
  | none => exact .refl h
  | some row => exact h.applyLinkRow_gauged row

/-- `parse_link` measures by its label and estimates by its row. -/
theorem parseLink_gauged (buf : Text) : Gauged h (h.parseLink buf) :=
  (((h.linkName_gauged buf).trans (linkSignal_gauged _ buf)).trans (linkFreq_gauged _ buf)).trans
    (linkRow_gauged _ buf)

/-- `sysfs_wifi` leaves both alone. -/
theorem sysfsWifi_gauged (present : Bool) (found : Option Text) :
    Gauged h (h.sysfsWifi present found) := by
  unfold sysfsWifi
  cases found <;> simp only <;> split_ifs <;> exact .same rfl

/-- `sample_link` leaves both alone. -/
theorem sampleLink_gauged (up : Bool) (ip : Option Text) : Gauged h (h.sampleLink up ip) := by
  unfold sampleLink
  cases ip <;> exact .ite (.same rfl) (.ite (.same rfl) (.same rfl))

/-- The addresses leave both alone. -/
theorem sampleIp_gauged (ip gw : Option Text) : Gauged h (h.sampleIp ip gw) := by
  unfold sampleIp
  cases ip <;> cases gw <;> exact .ite (.same rfl) (.same rfl)

/-- The samples of a round, one after the other. -/
theorem sampleAll_gauged (sample : Sample) : Gauged h (h.sampleAll sample) :=
  ((h.sampleSignal_gauged _).trans (sysfsWifi_gauged _ _ _)).trans
    ((sampleLink_gauged _ _ _).trans (sampleIp_gauged _ _ _))

/-! ## Jobs -/

/-- Starting a child leaves both alone. -/
theorem startNmcli_gauged (kind : JobKind) (argv : List Text) (spawn : Spawn) :
    Gauged h (startNmcli kind argv spawn h).1 := by
  rcases startNmcli_cases kind argv spawn h with ⟨pid, -, same⟩ | ⟨line, same⟩
  · rw [same]
    exact .same rfl
  · rw [same]
    exact .same rfl

/-- A report that is started, or aborts one first, leaves them to what its retry does. -/
theorem startReport_gauged {kind : JobKind} {argv : List Text} {retry : Hud → Hud} (sys : Sys)
    (again : ∀ g, Gauged g (retry g)) : Gauged h (h.startReport kind argv retry sys) := by
  have started := h.startNmcli_gauged kind argv sys.spawn
  unfold startReport
  exact .ite started (started.trans (again _))

/-- `wifi_radio` starts a child. -/
theorem wifiRadio_gauged (sys : Sys) : Gauged h (h.wifiRadio sys) :=
  h.startReport_gauged sys fun _ => .same rfl

/-- `wifi_info` starts one. -/
theorem wifiInfo_gauged (sys : Sys) : Gauged h (h.wifiInfo sys) :=
  h.startReport_gauged sys fun _ => .same rfl

/-- `wifi_scan` starts one. -/
theorem wifiScan_gauged (sys : Sys) : Gauged h (h.wifiScan sys) :=
  h.startReport_gauged sys fun _ => .same rfl

/-- `wifi_link` starts one. -/
theorem wifiLink_gauged (sys : Sys) : Gauged h (h.wifiLink sys) :=
  h.startReport_gauged sys fun _ => .same rfl

/-- Writing a buffer leaves both alone. -/
theorem snprintf_gauged (dst : Dst) (src : Arg) : Gauged h (h.snprintf dst src) := by
  unfold snprintf
  split <;> cases dst <;> exact .same rfl

/-- `abort_job` leaves both alone. -/
theorem abortJob_gauged : Gauged h h.abortJob := by
  unfold abortJob
  exact .ite (.refl h) (.same rfl)

/-- The start of a join leaves both alone. -/
theorem beginConnect_gauged (ssid : Arg) : Gauged h (h.beginConnect ssid) := by
  have flagged : Gauged h h.joinFlags := .same rfl
  have named := flagged.trans (h.joinFlags.snprintf_gauged .connectSsid ssid)
  unfold beginConnect
  simp only
  generalize h.joinFlags.snprintf .connectSsid ssid = g at named ⊢
  have told : Gauged g (g.setStatus (g.T "正在连接…" "Connecting…")) := .same rfl
  exact (named.trans told).trans (.ite (abortJob_gauged _) (.refl _))

/-- A join that is queued leaves both alone. -/
theorem queueConnect_gauged (ssid pass sec : Arg) : Gauged h (h.queueConnect ssid pass sec) := by
  unfold queueConnect
  exact (((h.snprintf_gauged _ _).trans (snprintf_gauged _ _ _)).trans
    (snprintf_gauged _ _ _)).trans (.same rfl)

/-- Filling the arguments leaves both alone. -/
theorem fillArgv_gauged (ssid pass sec : Arg) : Gauged h (h.fillArgv ssid pass sec) := by
  unfold fillArgv
  exact (((h.snprintf_gauged _ _).trans (snprintf_gauged _ _ _)).trans
    (snprintf_gauged _ _ _)).trans (snprintf_gauged _ _ _)

/-- `wifi_connect` is made of these. -/
theorem wifiConnect_gauged (ssid pass sec : Arg) (sys : Sys) :
    Gauged h (h.wifiConnect ssid pass sec sys) := by
  have begun := h.beginConnect_gauged ssid
  unfold wifiConnect
  refine .ite (.refl h) ?_
  simp only
  generalize h.beginConnect ssid = g at begun ⊢
  refine begun.trans (.ite (.ite (.same rfl) ?_) ?_)
  · exact (g.queueConnect_gauged ssid pass sec).trans (.same rfl)
  · have filled := g.fillArgv_gauged ssid pass sec
    generalize g.fillArgv ssid pass sec = k at filled ⊢
    have noted (obs : Obs) : Gauged k (k.observe obs) := .same rfl
    exact (filled.trans (noted _)).trans (startNmcli_gauged _ _ _ _)

/-- Remembering a password leaves both alone. -/
theorem rememberPsk_gauged (ssid pass : Text) : Gauged h (h.rememberPsk ssid pass) := by
  unfold rememberPsk
  exact .ite (.refl h) (.same rfl)

/-- Forgetting it does too. -/
theorem forgetPsk_gauged (ssid : Text) : Gauged h (h.forgetPsk ssid) := by
  unfold forgetPsk
  exact .ite (.refl h) (.same rfl)

/-- `wifi_submit_pass` asks for a join. -/
theorem wifiSubmitPass_gauged (sys : Sys) : Gauged h (h.wifiSubmitPass sys) := by
  have flagged : Gauged h { h with join.connectNeedPass := true } := .same rfl
  unfold wifiSubmitPass
  simp only
  split_ifs
  · exact .refl h
  · exact .same rfl
  · exact .same rfl
  · exact (flagged.trans (rememberPsk_gauged _ _ _)).trans (queueConnect_gauged _ _ _ _)
  · exact (flagged.trans (rememberPsk_gauged _ _ _)).trans (wifiConnect_gauged _ _ _ _ _)

/-- `wifi_join_picked` asks for a join or closes the sheet. -/
theorem wifiJoinPicked_gauged (sys : Sys) : Gauged h (h.wifiJoinPicked sys) := by
  have flagged (need : Bool) : Gauged h { h with join.connectNeedPass := need } := .same rfl
  unfold wifiJoinPicked
  refine .ite (.refl h) (.ite (.refl h) (.ite (.same rfl) (.ite ?_ ?_)))
  · exact (flagged true).trans (wifiConnect_gauged _ _ _ _ _)
  · exact (flagged false).trans (wifiConnect_gauged _ _ _ _ _)

/-- The start of a forget leaves both alone. -/
theorem beginForget_gauged (ssid : Text) : Gauged h (h.beginForget ssid) := by
  unfold beginForget
  simp only
  split <;> exact .same rfl

/-- `wifi_forget` aborts a job and starts one. -/
theorem wifiForget_gauged (ssid : Text) (sys : Sys) : Gauged h (h.wifiForget ssid sys) := by
  unfold wifiForget
  refine .ite (.refl h) (.ite (.refl h) ?_)
  have begun := h.beginForget_gauged ssid
  simp only
  generalize h.beginForget ssid = g at begun ⊢
  have aborted : Gauged g (if g.job.pid ≠ none ∧ g.job.kind ≠ .forget then g.abortJob else g) :=
    .ite g.abortJob_gauged (.refl g)
  refine (begun.trans aborted).trans (.ite (.refl _) ?_)
  have started := startNmcli_gauged
    (if g.job.pid ≠ none ∧ g.job.kind ≠ .forget then g.abortJob else g) .forget
  exact .ite (started _ _) ((started _ _).trans (.same rfl))

/-- `kick_pending` starts what has been asked for. -/
theorem kickPending_gauged (sys : Sys) : Gauged h (h.kickPending sys) := by
  have forgot : Gauged h { h with forget.wantForget := false } := .same rfl
  have joined : Gauged h { h with join.wantConnect := false } := .same rfl
  have scanned : Gauged h { h with want.scan := false } := .same rfl
  have linked : Gauged h { h with want.link := false } := .same rfl
  have informed : Gauged h { h with want.info := false } := .same rfl
  unfold kickPending
  split_ifs
  · exact .refl h
  · exact forgot.trans (wifiForget_gauged _ _ _)
  · exact joined.trans (wifiConnect_gauged _ _ _ _ _)
  · exact scanned.trans (wifiScan_gauged _ _)
  · exact linked.trans (wifiLink_gauged _ _)
  · exact informed.trans (wifiInfo_gauged _ _)
  · exact .refl h

/-- The timers of the loop ask for reports. -/
theorem schedule_gauged (now : Nat) (sys : Sys) : Gauged h (h.schedule now sys) := by
  unfold schedule
  refine .ite (.ite ?_ (.ite ?_ (.refl h))) (.refl h)
  · exact (h.wifiScan_gauged sys).trans (.same rfl)
  · exact (h.wifiInfo_gauged sys).trans (.same rfl)

/-! ## The end of a job -/

/-- The text of a failure leaves both alone. -/
theorem fillFailStatus_gauged (kind : FailKind) (fellBack : Text) :
    Gauged h (h.fillFailStatus kind fellBack) := by
  obtain ⟨line, same⟩ := h.fillFailStatus_line kind fellBack
  rw [same]
  exact .same rfl

/-- The text of a join does too. -/
theorem setConnectStatus_gauged (raw : Text) : Gauged h (h.setConnectStatus raw) := by
  obtain ⟨line, same⟩ := h.setConnectStatus_line raw
  rw [same]
  exact .same rfl

/-- Marking the row of a name leaves both alone. -/
theorem markApActive_gauged (ssid : Text) : Gauged h (h.markApActive ssid) := by
  unfold markApActive
  exact .ite (.refl h) (.same rfl)

/-- Selecting the joined network does too. -/
theorem selectJoined_gauged : Gauged h h.selectJoined := by
  have named (ssid : Buf 96) : Gauged h { h with scan.selectedSsid := ssid } := .same rfl
  unfold selectJoined
  exact .ite ((named _).trans (syncSelectedAp_gauged _)) (.refl h)

/-- `maybe_confirm_join` ends the wait for a join. -/
theorem maybeConfirmJoin_gauged (now : Nat) : Gauged h (h.maybeConfirmJoin now) := by
  have ended (failed : Bool) : Gauged h (h.joinOver failed) := .same rfl
  have confirmed : Gauged h h.joinConfirmed :=
    ((ended false).trans (markApActive_gauged _ _)).trans (.same rfl)
  have timedOut : Gauged h h.joinTimedOut := by
    apply (ended true).trans
    unfold joinTimedOut
    simp only
    generalize h.joinOver true = g
    have noted (kind : FailKind) : Gauged g { g with join.lastFailKind := kind } := .same rfl
    exact ((noted _).trans (fillFailStatus_gauged _ _ _)).trans (.ite (.same rfl) (.refl _))
  unfold maybeConfirmJoin
  exact .ite (.refl h) (.ite confirmed (.ite (.refl h) timedOut))

/-- The end of a device list is its parsing and what follows from it. -/
theorem infoDone_gauged (now : Nat) (out : Text) : Gauged h (h.infoDone now out) := by
  have parsed := h.parseInfo_gauged now out
  unfold infoDone
  simp only
  generalize h.parseInfo now out = g at parsed ⊢
  have asked : Gauged g (if g.wifi.connected ∨ g.wifi.busy ∨ g.join.joinWaitLive then
      { g with want.link := true } else g) := .ite (.same rfl) (.refl g)
  exact (parsed.trans asked).trans (maybeConfirmJoin_gauged _ now)

/-- The end of a scan is its parsing. -/
theorem scanDone_gauged (now : Nat) (out : Text) : Gauged h (h.scanDone now out) := by
  have parsed := h.parseScan_gauged out
  unfold scanDone
  simp only
  generalize h.parseScan out = g at parsed ⊢
  refine (parsed.trans ?_).trans (maybeConfirmJoin_gauged _ now)
  split_ifs <;> exact .same rfl

/-- The end of a link report is its parsing. -/
theorem linkDone_gauged (now : Nat) (out : Text) : Gauged h (h.linkDone now out) := by
  have parsed := (h.parseLink_gauged out).trans (maybeConfirmJoin_gauged _ now)
  unfold linkDone
  exact parsed.trans (.ite (.same rfl) (.refl _))

/-- The end of a forget leaves both alone; the reports that follow do not. -/
theorem forgetDone_gauged (rc : Nat) (out : Text) : Gauged h (h.forgetDone rc out) := by
  have freed : Gauged h { h with forget.forgetting := false } := .same rfl
  have marked (g : Hud) (ssid : Text) : Gauged g (g.markApInactive ssid) := .same rfl
  have dropped (g : Hud) (forgot selected : Text) : Gauged g (g.dropForgotten forgot selected) := by
    unfold dropForgotten
    exact .ite (.same rfl) (.refl g)
  unfold forgetDone
  refine .ite ?_ ?_
  · exact (((freed.trans (marked _ _)).trans (dropped _ _ _)).trans (forgetPsk_gauged _ _)).trans
      (.same rfl)
  · exact (freed.trans (setConnectStatus_gauged _ _)).trans (.same rfl)

/-- The end of a join leaves both alone, whichever way it has ended. -/
theorem connectDone_gauged (now : Nat) (retry : Sys) (rc : Nat) (out : Text) :
    Gauged h (h.connectDone now retry rc out) := by
  have ended : Gauged h (h.endConnect out) := .same rfl
  unfold connectDone
  simp only
  apply ended.trans
  generalize h.endConnect out = g
  have failed (fail : Bool) : Gauged g { g with join.connectFail := fail } := .same rfl
  cases gwOnConnectJob (h.connectIn rc out) with
  | success =>
      have awaits : Gauged g (g.awaitLive now) := .same rfl
      exact awaits.trans (maybeConfirmJoin_gauged _ now)
  | retryPsk =>
      have dropped : Gauged g g.dropProbe := .same rfl
      exact dropped.trans (wifiConnect_gauged _ _ _ _ _)
  | wrongPass =>
      have forgot := g.forgetPsk_gauged g.bufs.connectSsid.text
      unfold connectWrongPass
      simp only
      generalize g.forgetPsk g.bufs.connectSsid.text = k at forgot ⊢
      have refused : Gauged k { k with join.connectFail := true } := .same rfl
      exact (((forgot.trans refused).trans (fillFailStatus_gauged _ _ _)).trans
        (selectJoined_gauged _)).trans (.same rfl)
  | openPass =>
      unfold connectOpenPass
      simp only
      have told := ((failed g.join.connectNeedPass).trans (setConnectStatus_gauged _
        (if out ≠ [] then out else txt "NEED_PASSWORD"))).trans (selectJoined_gauged _)
      generalize selectJoined _ = k at told ⊢
      exact told.trans (.ite (.same rfl) (.same rfl))
  | waitPending => exact failed false
  | fail =>
      unfold connectFailed showFailure
      exact ((failed true).trans (fillFailStatus_gauged _ _ _)).trans (.ite (.refl _) (.same rfl))

/-- The end of a job, by its kind. -/
theorem jobDone_gauged (poll : Poll) (exit : Exit) (kind : JobKind) (out : Text) :
    Gauged h (h.jobDone poll exit kind out) := by
  cases kind with
  | radio => exact .same rfl
  | info => exact h.infoDone_gauged _ _
  | scan => exact h.scanDone_gauged _ _
  | connect => exact h.connectDone_gauged _ _ _ _
  | link => exact h.linkDone_gauged _ _
  | forget => exact h.forgetDone_gauged _ _

/-- `poll_job` reads, and ends the job when the child has. -/
theorem pollJob_gauged (poll : Poll) : Gauged h (h.pollJob poll) := by
  unfold pollJob
  refine .ite (.refl h) ?_
  cases poll.exit with
  | none => exact .same rfl
  | some exit =>
      have closed : Gauged h ((h.readJob poll.first).readJob poll.rest).closeJob := .same rfl
      exact (closed.trans (jobDone_gauged _ _ _ _ _)).trans (kickPending_gauged _ _)

/-! ## The main loop -/

/-- A key leaves both alone, unless it submits a password. -/
theorem oskActivate_gauged (k : OskKey) (sys : Sys) : Gauged h (h.oskActivate k sys) := by
  have fed (c : UInt8) : Gauged h (h.oskFeed c) := by
    unfold oskFeed
    exact .ite (.refl h) (.same rfl)
  have erased : Gauged h h.oskErase := by
    unfold oskErase
    exact .ite (.same rfl) (.refl h)
  unfold oskActivate
  cases k.kind with
  | char => exact (fed _).trans (.ite (.same rfl) (.refl _))
  | shift => exact .same rfl
  | sym => exact .same rfl
  | more => exact .same rfl
  | space => exact fed 32
  | bksp => exact erased
  | go => exact h.wifiSubmitPass_gauged sys

/-- So does a key that is let go. -/
theorem oskOnUp_gauged (x y : Int) (sys : Sys) : Gauged h (h.oskOnUp x y sys).1 := by
  have laid := h.layoutKeys_handles.gauged
  unfold oskOnUp
  split
  · exact .refl h
  · generalize h.layoutKeys = g at laid ⊢
    simp only
    cases (g.oskKeyAt x y <|> g.osk.hi).bind fun i => g.osk.keys[i]? with
    | none => exact laid.trans (.same rfl)
    | some k => exact (laid.trans (g.oskActivate_gauged k sys)).trans (.same rfl)

/-- A tap on the list selects a row, joins or closes. -/
theorem tapList_gauged (x y y0 : Int) (sys : Sys) : Gauged h (h.tapList x y y0 sys) := by
  have closed : Gauged h (if h.join.connecting then h else { h with ui.sheetTgt := .none }) :=
    .ite (.refl h) (.same rfl)
  unfold tapList
  refine .ite closed (.ite closed (.ite (.ite (.refl h) ?_) ?_))
  · exact (h.wifiScan_gauged sys).trans (.same rfl)
  · cases h.tapRow x y y0 with
    | none => exact .refl h
    | some i =>
        obtain ⟨scan, same, -⟩ := selectApIdx_frame h i
        have selected : Gauged h (h.selectApIdx i) := by
          rw [same]
          exact .same rfl
        exact selected.trans (.ite (.refl _) (.same rfl))

/-- `tap` is followed on every sheet. -/
theorem tap_gauged (x y : Int) (sys : Sys) : Gauged h (h.tap x y sys) := by
  have noted : Gauged h (h.observe (.tap x y)) := .same rfl
  unfold tap
  simp only
  apply noted.trans
  generalize h.observe (.tap x y) = g
  refine .ite ?_ (.ite ?_ (.ite ?_ (.ite (g.tapList_gauged x y _ sys) ?_)))
  · exact .ite (.same rfl) (.same rfl)
  · exact .ite (.same rfl) (.ite (g.wifiSubmitPass_gauged sys) (.refl g))
  · exact .ite (.ite (.refl g) (.same rfl)) (.ite (g.wifiJoinPicked_gauged sys)
      (.ite (.ite (g.wifiForget_gauged _ sys) (.refl g)) (.refl g)))
  · have opened : Gauged g { g with ui.sheetTgt := .list } := .same rfl
    exact .ite (.ite (.refl g) (.ite (opened.trans (wifiScan_gauged _ sys)) opened)) (.refl g)

/-- A contact that ends is at most a tap or a key. -/
theorem contactUp_gauged (dev : Dev) (armed : Bool) (env : EvEnv) :
    Gauged h (h.contactUp dev armed env) := by
  have committed : Handles h (if h.light.draggingBl then h.commitBl else h) :=
    .ite h.commitBl_handles (.refl h)
  unfold contactUp
  simp only
  apply committed.gauged.trans
  generalize (if h.light.draggingBl then h.commitBl else h) = g
  exact .ite (g.oskOnUp_gauged _ _ _) (.ite (g.tap_gauged _ _ _) (.refl g))

/-- `handle_ev` is followed whatever the event. -/
theorem handleEv_gauged (dev : Dev) (ev : Ev) (env : EvEnv) :
    Gauged h (h.handleEv dev ev env) := by
  cases found : h.evEnd dev ev env with
  | none => exact (handleEv_handles found).gauged
  | some c =>
      obtain ⟨before, after⟩ := handleEv_ends found
      exact (before.gauged.trans (contactUp_gauged _ c.dev c.armed c.env)).trans after.gauged

/-- `render` leaves both alone. -/
theorem render_gauged : Gauged h h.render := by
  unfold render
  exact .ite (.refl h) (.ite (.refl h) (.ite h.syncSelectedAp_gauged (.refl h)))

/-- **A gauge can follow every part of the main loop.** -/
theorem step_gauged (event : Event) : Gauged h (h.step event) := by
  cases event with
  | input input => exact h.handleEv_gauged _ _ _
  | idleOff now => exact (h.idleOff_handles now).gauged
  | poll poll => exact h.pollJob_gauged poll
  | confirm now => exact h.maybeConfirmJoin_gauged now
  | animate animation =>
      exact ((h.animateSheet_handles animation).trans (animateList_handles _ _)).gauged
  | render => exact h.render_gauged
  | sample sample => exact h.sampleAll_gauged sample
  | kick sys => exact h.kickPending_gauged sys
  | schedule now sys => exact h.schedule_gauged now sys

/-- **A run is something that a gauge can follow.** -/
theorem run_gauged (events : List Event) : Gauged h (run step h events) := by
  induction events generalizing h with
  | nil => exact .refl h
  | cons event events ih => exact (h.step_gauged event).trans (ih _)

end Hud

theorem Boot.hud_gauged (boot : Boot) : boot.blank.Gauged boot.hud := by
  have configured : boot.blank.Gauged (boot.blank.loadHudConf boot.lang boot.bl) := by
    unfold Hud.loadHudConf
    cases boot.lang <;> cases boot.bl <;> exact .same rfl
  have lit := configured.trans (Hud.findBacklight_handles _ boot.backlight).gauged
  unfold Boot.hud
  simp only
  generalize (boot.blank.loadHudConf boot.lang boot.bl).findBacklight boot.backlight = g at lit ⊢
  have reset : g.Gauged { g.resetTouch with touch.mtNslots := boot.nslots } := .same rfl
  generalize { g.resetTouch with touch.mtNslots := boot.nslots } = k at reset ⊢
  have sampled := (((k.sysfsWifi_gauged boot.sample.ifacePresent boot.sample.ifaceFound).trans
    (Hud.sampleLink_gauged _ boot.sample.up boot.sample.ip)).trans
    (Hud.sampleIp_gauged _ boot.sample.ip boot.sample.gw)).trans
    (Hud.sampleSignal_gauged _ boot.sample.wireless)
  have started (s : Hud) :
      s.Gauged { s with screen.tUser := boot.now, screen.tUnblank := boot.now } := .same rfl
  exact ((lit.trans (reset.trans sampled)).trans (Hud.wifiRadio_gauged _ boot.sys)).trans
    (started _)

namespace Hud

/-- **In every reachable state the percentage and the level are those of a gauge.** -/
theorem Reachable.displays {h : Hud} (reachable : h.Reachable) :
    ∃ gauge : SignalGauge, h.Displays gauge := by
  obtain ⟨boot, events, rfl⟩ := reachable
  have blank : boot.blank.Displays (.blind 0) := ⟨(if_neg (lt_irrefl 0)).symm, rfl⟩
  obtain ⟨acts, displays⟩ := (boot.hud_gauged.trans (run_gauged _ events)) _ blank
  exact ⟨_, displays⟩

end Hud

end Ginkgo
