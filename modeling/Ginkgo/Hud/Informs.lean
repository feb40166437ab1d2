import Ginkgo.Hud.Loop

/-!
# Reports and messages

What the HUD knows of the networks and what it says are written by the reports, the samples and
the messages, and by nothing that they write is the rest of the HUD changed:
`Ginkgo.Hud.uninformed` is the rest, `Ginkgo.Hud.Informs` says that it is left alone, and this
file has one theorem for each such function. A view of the rest stays the same
(`Ginkgo.Hud.Informs.same`).
-/

namespace Ginkgo

open CText

namespace Hud

/-- The HUD without the networks and the message line. -/
def uninformed (h : Hud) : Hud :=
  { h with
    wifi := {}
    scan := {}
    forget := {}
    tAssoc := 0
    ui.statusLine := .empty 96 }

/-- **A change of what the HUD knows of the networks and of what it says.** -/
def Informs (h h' : Hud) : Prop := h'.uninformed = h.uninformed

namespace Informs

variable {h h' h'' : Hud}

theorem refl (h : Hud) : Informs h h := rfl

/-- Two changes of this kind, one after the other. -/
theorem trans (first : Informs h h') (second : Informs h' h'') : Informs h h'' :=
  Eq.trans second first

theorem ite {condition : Prop} [Decidable condition] (yes : Informs h h') (no : Informs h h'') :
    Informs h (if condition then h' else h'') := by
  split
  · exact yes
  · exact no

/-- A view of the rest stays the same. -/
theorem same {β : Type} (informs : Informs h h') (view : Hud → β)
    (outside : ∀ g : Hud, view g.uninformed = view g) : view h' = view h := by
  rw [← outside h', show h'.uninformed = h.uninformed from informs, outside h]

end Informs

variable (h : Hud)

/-! ## Messages and the selection -/

/-- The text of a failure says something. -/
theorem fillFailStatus_informs (kind : FailKind) (fellBack : Text) :
    Informs h (h.fillFailStatus kind fellBack) := by
  obtain ⟨line, same⟩ := h.fillFailStatus_line kind fellBack
  rw [same]
  rfl

/-- So does the text of a join. -/
theorem setConnectStatus_informs (raw : Text) : Informs h (h.setConnectStatus raw) := by
  obtain ⟨line, same⟩ := h.setConnectStatus_line raw
  rw [same]
  rfl

/-- Following the selected row changes what is known of the networks. -/
theorem syncSelectedAp_informs : Informs h h.syncSelectedAp := by
  obtain ⟨scan, same, -⟩ := syncSelectedAp_frame h
  rw [same]
  rfl

theorem selectApIdx_informs (i : Nat) : Informs h (h.selectApIdx i) := by
  obtain ⟨scan, same, -⟩ := selectApIdx_frame h i
  rw [same]
  rfl

/-- Marking the row in use does. -/
theorem markApActive_informs (ssid : Text) : Informs h (h.markApActive ssid) := by
  unfold markApActive
  exact .ite (.refl h) rfl

/-- Selecting the joined network does. -/
theorem selectJoined_informs : Informs h h.selectJoined := by
  unfold selectJoined
  refine .ite (Informs.trans ?_ (syncSelectedAp_informs _)) (.refl h)
  rfl

/-- A reported name does. -/
theorem applyWifiSsid_informs (name : Text) : Informs h (h.applyWifiSsid name) := by
  obtain ⟨hold, ssid, same, -⟩ := h.applyWifiSsid_writes name
  rw [same]
  rfl

/-- The row in use does. -/
theorem applyActiveAp_informs : Informs h h.applyActiveAp := by
  unfold applyActiveAp
  simp only
  split
  · exact .refl h
  · next ap _ =>
      have named : Informs h (if ap.ssid.text ≠ [] then h.applyWifiSsid ap.ssid.text else h) :=
        .ite (h.applyWifiSsid_informs _) (.refl h)
      apply named.trans
      generalize (if ap.ssid.text ≠ [] then _ else _) = g
      have shown : Informs g (if 0 ≤ g.wifi.signalDbm ∧ 0 < ap.signal then
          { g with wifi.signal := ap.signal } else g) := .ite rfl (.refl g)
      exact shown.trans (.ite rfl (.refl _))

/-- A level does. -/
theorem applySignalDbm_informs (dbm : Int) : Informs h (h.applySignalDbm dbm) := by
  unfold applySignalDbm
  exact .ite (.refl h) rfl

/-! ## Samples -/

/-- The kernel's wireless table does. -/
theorem sampleSignal_informs (row : Option (Int × Int)) : Informs h (h.sampleSignal row) := by
  unfold sampleSignal
  refine h.applyActiveAp_informs.trans (.ite (.refl _) ?_)
  cases row with
  | none => exact .refl _
  | some row => exact .ite (applySignalDbm_informs _ _) (.ite (.ite rfl rfl) (.refl _))

/-- The interfaces that it lists do. -/
theorem sysfsWifi_informs (present : Bool) (found : Option Text) :
    Informs h (h.sysfsWifi present found) := by
  unfold sysfsWifi
  cases found <;> simp only <;> split_ifs <;> rfl

/-- The state of the link does. -/
theorem sampleLink_informs (up : Bool) (ip : Option Text) : Informs h (h.sampleLink up ip) := by
  unfold sampleLink
  cases ip <;> exact .ite rfl (.ite rfl rfl)

/-- The addresses do. -/
theorem sampleIp_informs (ip gw : Option Text) : Informs h (h.sampleIp ip gw) := by
  unfold sampleIp
  cases ip <;> cases gw <;> exact .ite rfl rfl

/-- A round of samples is made of these. -/
theorem sampleAll_informs (sample : Sample) : Informs h (h.sampleAll sample) :=
  ((h.sampleSignal_informs _).trans (sysfsWifi_informs _ _ _)).trans
    ((sampleLink_informs _ _ _).trans (sampleIp_informs _ _ _))

/-! ## Reports -/

/-- `parse_info` is of this kind. -/
theorem parseInfo_informs (now : Nat) (buf : Text) : Informs h (h.parseInfo now buf) := by
  unfold parseInfo
  refine .ite rfl ?_
  obtain ⟨wifi, hold, tAssoc, same, -⟩ :=
    h.applyInfo_writes now ((lines buf).foldl parseInfoLine {})
  rw [same]
  rfl

/-- Restoring the selection is. -/
theorem reselectAp_informs : Informs h h.reselectAp := by
  unfold reselectAp
  refine .ite (.refl h) ?_
  simp only
  generalize (h.scan.hoverAp.filter _).getD 0 = i
  have hovered : Informs h { h with scan.hoverAp := some i } := rfl
  exact (hovered.trans (syncSelectedAp_informs _)).trans rfl

/-- `parse_scan` is. -/
theorem parseScan_informs (buf : Text) : Informs h (h.parseScan buf) := by
  unfold parseScan
  simp only
  generalize (if scanError buf then cutAt newline buf else buf) = report
  have told : Informs h (if scanError buf then h.setStatus (Buf.print 96 report).text else h) :=
    .ite rfl (.refl h)
  generalize (if scanError buf then h.setStatus (Buf.print 96 report).text else h) = g at told ⊢
  have listed (aps : List Ap) : Informs g { g with scan.aps := aps } := rfl
  exact told.trans (((listed _).trans (reselectAp_informs _)).trans (applyActiveAp_informs _))

/-- A frequency is. -/
theorem applyFreq_informs (mhz : Option Int) : Informs h (h.applyFreq mhz) := by
  unfold applyFreq
  cases mhz with
  | none => exact .refl h
  | some mhz => exact .ite rfl (.refl h)

/-- The `SSID:` label is. -/
theorem linkName_informs (buf : Text) : Informs h (h.linkName buf) := by
  unfold linkName
  cases strstr buf (txt "SSID:") with
  | none => exact .refl h
  | some found => exact h.applyWifiSsid_informs _

/-- The `signal:` label is. -/
theorem linkSignal_informs (buf : Text) : Informs h (h.linkSignal buf) := by
  unfold linkSignal
  rcases scanLabel (txt "signal avg:") buf with _ | _ | dbm
  · rcases scanLabel (txt "signal:") buf with _ | _ | dbm
    · exact .refl h
    · exact .refl h
    · exact h.applySignalDbm_informs dbm
  · exact .refl h
  · exact h.applySignalDbm_informs dbm

/-- The `freq:` label is. -/
theorem linkFreq_informs (buf : Text) : Informs h (h.linkFreq buf) := by
  unfold linkFreq
  rcases scanLabel (txt "\tfreq:") buf with _ | mhz
  · rcases scanLabel (txt "freq:") buf with _ | mhz
    · exact .refl h
    · exact h.applyFreq_informs mhz
  · exact h.applyFreq_informs mhz

/-- The fields of a row are. -/
theorem applyLinkRow_informs (row : Text × Text × Option Text) :
    Informs h (h.applyLinkRow row) := by
  obtain ⟨signal, freq, name⟩ := row
  obtain ⟨level, freq', g, shown, same⟩ := h.applyLinkRow_eq signal freq name
  have first : Informs h g := by
    rw [shown]
    rfl
  rw [same]
  apply first.trans
  cases name with
  | none => exact .refl _
  | some name => exact .ite (applyWifiSsid_informs _ _) (.refl _)

/-- The search for the row is. -/
theorem linkRow_informs (buf : Text) : Informs h (h.linkRow buf) := by
  unfold linkRow
  cases (lines buf).findSome? parseLinkRow with
  | none => exact .refl h
  | some row => exact h.applyLinkRow_informs row

theorem parseLink_informs (buf : Text) : Informs h (h.parseLink buf) :=
  (((h.linkName_informs buf).trans (linkSignal_informs _ buf)).trans (linkFreq_informs _ buf)).trans
    (linkRow_informs _ buf)

/-! ## Drawing -/

/-- `render` is, since it only follows the selected row. -/
theorem render_informs : Informs h h.render := by
  unfold render
  exact .ite (.refl h) (.ite (.refl h) (.ite h.syncSelectedAp_informs (.refl h)))

end Hud

end Ginkgo
