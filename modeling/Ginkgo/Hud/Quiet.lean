import Ginkgo.Hud.Loop
import Ginkgo.Join.Machine

/-!
# Changes that no join notices

Most of what the HUD does leaves the joins, the password and the sheets alone: reports
about the network, samples, messages and drawing. `Ginkgo.Hud.Quiet` says that of two
states, and this file has one theorem for each such function.
-/

namespace Ginkgo

open CText

/-- Every row of the scan list has a name. -/
def Scan.Named (scan : Scan) : Prop := ∀ ap ∈ scan.aps, ap.ssid.text ≠ []

/-- Every character key carries a character. -/
def Osk.Lettered (osk : Osk) : Prop := ∀ k ∈ osk.keys, k.kind = .char → k.ch ≠ 0

namespace Hud

/-- What the join machine relies on: rows have names, keys have characters, and nothing
is ever put into the queue of forgets. -/
def Valid (h : Hud) : Prop :=
  h.scan.Named ∧ h.osk.Lettered ∧ h.forget.wantForget = false

/-- The names and securities of the rows of the scan list. -/
def listing (h : Hud) : List (Buf 96 × Buf 40) :=
  h.scan.aps.map fun ap => (ap.ssid, ap.security)

/-- **A change that no join notices**; the scan list keeps its names and securities. -/
structure Quiet (h h' : Hud) : Prop where
  joins : h'.joinState = h.joinState
  valid : h.Valid → h'.Valid
  listing : h'.listing = h.listing

namespace Quiet

variable {h h' h'' : Hud}

theorem refl (h : Hud) : Quiet h h := ⟨rfl, id, rfl⟩

theorem trans (first : Quiet h h') (second : Quiet h' h'') : Quiet h h'' :=
  ⟨second.joins.trans first.joins, second.valid ∘ first.valid,
    second.listing.trans first.listing⟩

theorem ite {condition : Prop} [Decidable condition] (yes : Quiet h h') (no : Quiet h h'') :
    Quiet h (if condition then h' else h'') := by
  split
  · exact yes
  · exact no

end Quiet

variable (h : Hud)

/-! ## Messages and the scan list -/

/-- A line of status is quiet. -/
theorem setStatus_quiet (s : Text) : Quiet h (h.setStatus s) := ⟨rfl, id, rfl⟩

/-- The text of a failure is quiet. -/
theorem fillFailStatus_quiet (kind : FailKind) (fellBack : Text) :
    Quiet h (h.fillFailStatus kind fellBack) := by
  unfold fillFailStatus
  exact .ite (h.setStatus_quiet _) (h.setStatus_quiet _)

/-- So is the text of a join. -/
theorem setConnectStatus_quiet (raw : Text) : Quiet h (h.setConnectStatus raw) := by
  unfold setConnectStatus
  exact .ite (h.setStatus_quiet _) (h.fillFailStatus_quiet _ _)

/-- Rewriting rows without touching their names keeps them named. -/
theorem named_map {h : Hud} {change : Ap → Ap} (keeps : ∀ ap, (change ap).ssid = ap.ssid)
    (named : h.scan.Named) : ∀ ap ∈ h.scan.aps.map change, ap.ssid.text ≠ [] := by
  intro ap member
  obtain ⟨row, inside, rfl⟩ := List.mem_map.mp member
  rw [keeps]
  exact named row inside

/-- Rewriting rows without touching their names and securities keeps the listing. -/
theorem listing_map {change : Ap → Ap}
    (keeps : ∀ ap, ((change ap).ssid, (change ap).security) = (ap.ssid, ap.security)) :
    (h.scan.aps.map change).map (fun ap => (ap.ssid, ap.security)) = h.listing := by
  rw [List.map_map]
  exact List.map_congr_left fun ap _ => keeps ap

/-- Marking the rows of a name as in use is quiet. -/
theorem markApActive_quiet (ssid : Text) : Quiet h (h.markApActive ssid) := by
  unfold markApActive
  refine .ite (.refl h) ⟨rfl, fun valid => ⟨named_map (fun _ => rfl) valid.1, valid.2⟩, ?_⟩
  exact h.listing_map fun _ => rfl

/-- So is marking them as not in use. -/
theorem markApInactive_quiet (ssid : Text) : Quiet h (h.markApInactive ssid) := by
  refine ⟨rfl, fun valid => ⟨named_map (fun ap => ?_) valid.1, valid.2⟩,
    h.listing_map fun ap => ?_⟩
  · split <;> rfl
  · split <;> rfl

/-- Clearing the live network is quiet. -/
theorem clearLive_quiet : Quiet h h.clearLive := ⟨rfl, id, rfl⟩

/-- Following the selected row is quiet: it reads the listing only. -/
theorem syncSelectedAp_quiet : Quiet h h.syncSelectedAp := by
  obtain ⟨scan, same, rows, selected⟩ := syncSelectedAp_frame h
  rw [same]
  refine ⟨by simp only [joinState, selected], fun valid => ⟨?_, valid.2⟩, ?_⟩
  · change ∀ ap ∈ scan.aps, _
    rw [rows]
    exact valid.1
  · simp only [Hud.listing, rows]

/-- Remembering a password is quiet. -/
theorem rememberPsk_quiet (ssid pass : Text) : Quiet h (h.rememberPsk ssid pass) := by
  unfold rememberPsk
  exact .ite (.refl h) ⟨rfl, id, rfl⟩

/-- Forgetting one is. -/
theorem forgetPsk_quiet (ssid : Text) : Quiet h (h.forgetPsk ssid) := by
  unfold forgetPsk
  exact .ite (.refl h) ⟨rfl, id, rfl⟩

/-! ## Reports and samples -/

/-- A reported name is quiet. -/
theorem applyWifiSsid_quiet (s : Text) : Quiet h (h.applyWifiSsid s) := by
  unfold applyWifiSsid
  simp only
  split_ifs <;> exact ⟨rfl, id, rfl⟩

/-- The row in use is quiet. -/
theorem applyActiveAp_quiet : Quiet h h.applyActiveAp := by
  unfold applyActiveAp
  simp only
  split
  · exact .refl h
  · next ap _ =>
      have name : Quiet h (if ap.ssid.text ≠ [] then h.applyWifiSsid ap.ssid.text else h) :=
        .ite (h.applyWifiSsid_quiet _) (.refl h)
      apply name.trans
      generalize (if ap.ssid.text ≠ [] then _ else _) = named
      split_ifs <;> exact ⟨rfl, id, rfl⟩

/-- A level is quiet. -/
theorem applySignalDbm_quiet (dbm : Int) : Quiet h (h.applySignalDbm dbm) := by
  unfold applySignalDbm
  exact .ite (.refl h) ⟨rfl, id, rfl⟩

/-- The kernel's wireless table is quiet. -/
theorem sampleSignal_quiet (row : Option (Int × Int)) : Quiet h (h.sampleSignal row) := by
  unfold sampleSignal
  refine h.applyActiveAp_quiet.trans (.ite (.refl _) ?_)
  cases row with
  | none => exact .refl _
  | some row =>
      refine .ite (applySignalDbm_quiet _ _) (.ite (.ite ⟨rfl, id, rfl⟩ ⟨rfl, id, rfl⟩) (.refl _))

/-- The interfaces that the kernel lists are quiet. -/
theorem sysfsWifi_quiet (present : Bool) (found : Option Text) :
    Quiet h (h.sysfsWifi present found) := by
  unfold sysfsWifi
  cases found <;> simp only <;> split_ifs <;> exact ⟨rfl, id, rfl⟩

/-- The state of the link is quiet. -/
theorem sampleLink_quiet (up : Bool) (ip : Option Text) : Quiet h (h.sampleLink up ip) := by
  unfold sampleLink
  refine .ite (.refl h) (.ite (.refl h) ?_)
  cases ip with
  | none => exact .refl h
  | some ip => exact ⟨rfl, id, rfl⟩

/-- The addresses are quiet. -/
theorem sampleIp_quiet (ip gw : Option Text) : Quiet h (h.sampleIp ip gw) := by
  unfold sampleIp
  refine .ite (.refl h) ?_
  cases ip <;> cases gw <;> exact ⟨rfl, id, rfl⟩

/-- A round of samples is quiet. -/
theorem sampleAll_quiet (sample : Sample) : Quiet h (h.sampleAll sample) :=
  ((h.sampleSignal_quiet _).trans (sysfsWifi_quiet _ _ _)).trans
    ((sampleLink_quiet _ _ _).trans (sampleIp_quiet _ _ _))

/-- What a device list says is quiet. -/
theorem applyInfo_quiet (now : Nat) (seen : InfoScan) : Quiet h (h.applyInfo now seen) := by
  obtain ⟨wifi, hold, tAssoc, same, -, -⟩ := h.applyInfo_writes now seen
  rw [same]
  exact ⟨rfl, id, rfl⟩

/-- `parse_info` is quiet. -/
theorem parseInfo_quiet (now : Nat) (buf : Text) : Quiet h (h.parseInfo now buf) := by
  unfold parseInfo
  exact .ite (h.setStatus_quiet _) (h.applyInfo_quiet now _)

/-- A parsed row has a name. -/
theorem parseScanRow_named {forgetSsid line : Text} {ap : Ap}
    (parsed : parseScanRow forgetSsid line = some ap) : ap.ssid.text ≠ [] := by
  unfold parseScanRow at parsed
  split at parsed
  · next name signal sec fourth rest _ =>
      split at parsed
      · cases parsed
      · next nonempty =>
          cases parsed
          rw [ne_eq, Buf.print_text_eq_nil_iff (by decide)]
          cases name with
          | nil => exact absurd rfl nonempty
          | cons c name => cases name with
            | nil => simp [unescape]
            | cons d name =>
                rw [unescape]
                split <;> simp
  · cases parsed

/-- Restoring the selection by its name is quiet. -/
theorem reselectAp_quiet : Quiet h h.reselectAp := by
  unfold reselectAp
  refine .ite (.refl h) ?_
  simp only
  generalize (h.scan.hoverAp.filter _).getD 0 = i
  have hovered : Quiet h { h with scan.hoverAp := some i } := ⟨rfl, id, rfl⟩
  exact (hovered.trans (syncSelectedAp_quiet _)).trans ⟨rfl, id, rfl⟩

/-- A scan replaces the list and is otherwise quiet: no join notices, and the new rows
have names. -/
theorem parseScan_joins (buf : Text) :
    (h.parseScan buf).joinState = h.joinState ∧ (h.Valid → (h.parseScan buf).Valid) := by
  unfold parseScan
  simp only
  have line : Quiet h (if scanError buf then
      h.setStatus (Buf.print 96 (if scanError buf then cutAt newline buf else buf)).text else h) :=
    .ite (h.setStatus_quiet _) (.refl h)
  generalize (if scanError buf then h.setStatus _ else h) = g at line ⊢
  have listed (k : Hud) : Quiet k k.reselectAp.applyActiveAp :=
    (reselectAp_quiet k).trans (applyActiveAp_quiet _)
  refine ⟨(listed _).joins.trans line.joins, fun before => (listed _).valid ?_⟩
  refine ⟨fun ap member => ?_, (line.valid before).2⟩
  obtain ⟨row, -, parsed⟩ := List.mem_filterMap.mp (List.mem_of_mem_take member)
  exact parseScanRow_named parsed

/-- A frequency is quiet. -/
theorem applyFreq_quiet (mhz : Option Int) : Quiet h (h.applyFreq mhz) := by
  unfold applyFreq
  cases mhz with
  | none => exact .refl h
  | some mhz => exact .ite ⟨rfl, id, rfl⟩ (.refl h)

/-- The row of a link report is quiet. -/
theorem applyLinkRow_quiet (row : Text × Text × Option Text) : Quiet h (h.applyLinkRow row) := by
  obtain ⟨signal, freq, name⟩ := row
  obtain ⟨level, freq', g, shown, same⟩ := h.applyLinkRow_eq signal freq name
  have first : Quiet h g := by
    rw [shown]
    exact ⟨rfl, id, rfl⟩
  rw [same]
  apply first.trans
  cases name with
  | none => exact .refl _
  | some name => exact .ite (applyWifiSsid_quiet _ _) (.refl _)

/-- Its `SSID:` label is. -/
theorem linkName_quiet (buf : Text) : Quiet h (h.linkName buf) := by
  unfold linkName
  cases strstr buf (txt "SSID:") with
  | none => exact .refl h
  | some found => exact h.applyWifiSsid_quiet _

/-- Its `signal:` label is. -/
theorem linkSignal_quiet (buf : Text) : Quiet h (h.linkSignal buf) := by
  unfold linkSignal
  rcases scanLabel (txt "signal avg:") buf with _ | _ | dbm
  · rcases scanLabel (txt "signal:") buf with _ | _ | dbm
    · exact .refl h
    · exact .refl h
    · exact h.applySignalDbm_quiet dbm
  · exact .refl h
  · exact h.applySignalDbm_quiet dbm

/-- Its `freq:` label is. -/
theorem linkFreq_quiet (buf : Text) : Quiet h (h.linkFreq buf) := by
  unfold linkFreq
  rcases scanLabel (txt "\tfreq:") buf with _ | mhz
  · rcases scanLabel (txt "freq:") buf with _ | mhz
    · exact .refl h
    · exact h.applyFreq_quiet mhz
  · exact h.applyFreq_quiet mhz

/-- The search for the row is. -/
theorem linkRow_quiet (buf : Text) : Quiet h (h.linkRow buf) := by
  unfold linkRow
  cases (lines buf).findSome? parseLinkRow with
  | none => exact .refl h
  | some row => exact h.applyLinkRow_quiet row

theorem parseLink_quiet (buf : Text) : Quiet h (h.parseLink buf) :=
  (((h.linkName_quiet buf).trans (linkSignal_quiet _ buf)).trans (linkFreq_quiet _ buf)).trans
    (linkRow_quiet _ buf)

/-- Reading what the child has written is quiet. -/
theorem readJob_quiet (bytes : Text) : Quiet h (h.readJob bytes) := ⟨rfl, id, rfl⟩

/-! ## Drawing and configuration -/

/-- `render` is quiet. -/
theorem render_quiet : Quiet h h.render := by
  unfold render
  exact .ite (.refl h) (.ite (.refl h) (.ite h.syncSelectedAp_quiet (.refl h)))

/-- Reading the configuration is quiet. -/
theorem loadHudConf_quiet (lang : Option Bool) (bl : Option Int) :
    Quiet h (h.loadHudConf lang bl) := by
  unfold loadHudConf
  cases lang <;> cases bl <;> exact ⟨rfl, id, rfl⟩

end Hud

end Ginkgo
