import Ginkgo.Hud.Contact

/-!
# The network state

What the HUD knows and wants of the network (`Ginkgo.NetView`) is changed by a few functions
only: those that start jobs or act on their end, the reports and the samples. Messages, the
selection, the queued reports, the keyboard, drawing and everything on the surface leave it
alone (`Ginkgo.Hud.Still`).
-/

namespace Ginkgo

open CText

/-- The starts of jobs in a trace, the latest first. -/
def startsOf (trace : List Obs) : List (JobKind × List Text × Bool) :=
  trace.filterMap fun
    | .start kind argv started => some (kind, argv, started)
    | _ => none

/-- What the HUD knows and wants of the network: the live network, the joins and the forget
with their names, the job slot and the jobs started. -/
structure NetView where
  connected : Bool
  busy : Bool
  ssid : Buf 96
  rows : List (Buf 96 × Bool)
  connecting : Bool
  connectNeedPass : Bool
  joinWaitLive : Bool
  wantConnect : Bool
  bufs : Bufs
  forget : Forget
  pid : Option Nat
  kind : JobKind
  starts : List (JobKind × List Text × Bool)

namespace Hud

/-- The names of the rows of the scan list, and whether each is in use. -/
def rows (h : Hud) : List (Buf 96 × Bool) := h.scan.aps.map fun ap => (ap.ssid, ap.active)

/-- What it knows and wants, in a state of the HUD. -/
def netView (h : Hud) : NetView where
  connected := h.wifi.connected
  busy := h.wifi.busy
  ssid := h.wifi.ssid
  rows := h.rows
  connecting := h.join.connecting
  connectNeedPass := h.join.connectNeedPass
  joinWaitLive := h.join.joinWaitLive
  wantConnect := h.join.wantConnect
  bufs := h.bufs
  forget := h.forget
  pid := h.job.pid
  kind := h.job.kind
  starts := startsOf h.trace

/-- **A change that leaves the network state alone.** -/
def Still (h h' : Hud) : Prop := h'.netView = h.netView

namespace Still

variable {h h' h'' : Hud}

theorem refl (h : Hud) : Still h h := rfl

theorem trans (first : Still h h') (second : Still h' h'') : Still h h'' := Eq.trans second first

theorem ite {condition : Prop} [Decidable condition] (yes : Still h h') (no : Still h h'') :
    Still h (if condition then h' else h'') := by
  split
  · exact yes
  · exact no

end Still

/-- What a finger or a frame changes leaves it alone. -/
theorem Handles.still {h h' : Hud} (handles : Handles h h') : Still h h' :=
  handles.same netView fun _ => rfl

variable (h : Hud)

/-- The text of a failure does. -/
theorem fillFailStatus_still (kind : FailKind) (fellBack : Text) :
    Still h (h.fillFailStatus kind fellBack) := by
  unfold fillFailStatus
  exact .ite rfl rfl

/-- So does the text of a join. -/
theorem setConnectStatus_still (raw : Text) : Still h (h.setConnectStatus raw) := by
  unfold setConnectStatus
  exact .ite rfl (h.fillFailStatus_still _ _)

/-- Selecting a row leaves it alone. -/
theorem selectApIdx_still (i : Nat) : Still h (h.selectApIdx i) := by
  obtain ⟨scan, same, rows⟩ := selectApIdx_frame h i
  rw [same]
  simp only [Still, netView, Hud.rows, rows]

theorem syncSelectedAp_still : Still h h.syncSelectedAp := by
  obtain ⟨scan, same, rows, -⟩ := syncSelectedAp_frame h
  rw [same]
  simp only [Still, netView, Hud.rows, rows]

theorem render_still : Still h h.render := by
  unfold render
  exact .ite (.refl h) (.ite (.refl h) (.ite h.syncSelectedAp_still (.refl h)))

/-- Restoring the selection by its name leaves it alone. -/
theorem reselectAp_still : Still h h.reselectAp := by
  unfold reselectAp
  refine .ite (.refl h) ?_
  simp only
  generalize (h.scan.hoverAp.filter _).getD 0 = i
  have hovered : Still h { h with scan.hoverAp := some i } := rfl
  exact (hovered.trans (syncSelectedAp_still _)).trans rfl

/-- A level does. -/
theorem applySignalDbm_still (dbm : Int) : Still h (h.applySignalDbm dbm) := by
  unfold applySignalDbm
  exact .ite (.refl h) rfl

/-- So do the interfaces that the kernel lists. -/
theorem sysfsWifi_still (present : Bool) (found : Option Text) :
    Still h (h.sysfsWifi present found) := by
  unfold sysfsWifi
  cases found <;> simp only <;> split_ifs <;> rfl

/-- The state of the link does. -/
theorem sampleLink_still (up : Bool) (ip : Option Text) : Still h (h.sampleLink up ip) := by
  unfold sampleLink
  cases ip <;> exact .ite rfl (.ite rfl rfl)

/-- The addresses do. -/
theorem sampleIp_still (ip gw : Option Text) : Still h (h.sampleIp ip gw) := by
  unfold sampleIp
  cases ip <;> cases gw <;> exact .ite rfl rfl

/-- A frequency does. -/
theorem applyFreq_still (mhz : Option Int) : Still h (h.applyFreq mhz) := by
  unfold applyFreq
  cases mhz with
  | none => exact .refl h
  | some mhz => exact .ite rfl (.refl h)

/-- A `signal:` label does. -/
theorem linkSignal_still (buf : Text) : Still h (h.linkSignal buf) := by
  unfold linkSignal
  rcases scanLabel (txt "signal avg:") buf with _ | _ | dbm
  · rcases scanLabel (txt "signal:") buf with _ | _ | dbm
    · exact .refl h
    · exact .refl h
    · exact h.applySignalDbm_still dbm
  · exact .refl h
  · exact h.applySignalDbm_still dbm

/-- A `freq:` label does. -/
theorem linkFreq_still (buf : Text) : Still h (h.linkFreq buf) := by
  unfold linkFreq
  rcases scanLabel (txt "\tfreq:") buf with _ | mhz
  · rcases scanLabel (txt "freq:") buf with _ | mhz
    · exact .refl h
    · exact h.applyFreq_still mhz
  · exact h.applyFreq_still mhz

/-- Showing a failure leaves it alone. -/
theorem showFailure_still : Still h h.showFailure := by
  unfold showFailure
  refine Still.trans ?_ (fillFailStatus_still _ _ _)
  rfl

theorem selectJoined_still : Still h h.selectJoined := by
  unfold selectJoined
  refine .ite (Still.trans ?_ (syncSelectedAp_still _)) (.refl h)
  rfl

/-- A character that is typed does. -/
theorem oskFeed_still (c : UInt8) : Still h (h.oskFeed c) := by
  unfold oskFeed
  exact .ite (.refl h) rfl

/-- One that is erased does. -/
theorem oskErase_still : Still h h.oskErase := by
  unfold oskErase
  exact .ite rfl (.refl h)

/-- The language does. -/
theorem tapLang_still : Still h h.tapLang := by
  unfold tapLang
  exact Still.trans rfl (.ite rfl (.refl _))

/-- A row that is tapped does. -/
theorem tapSelect_still (i : Nat) : Still h (h.tapSelect i) := by
  unfold tapSelect
  exact (h.selectApIdx_still i).trans (.ite (.refl _) rfl)

/-! ## The live name

The reports and the samples bring names, each of which passes through `apply_wifi_ssid`. -/

/-- **A live name has been brought**, or nothing: the network state is left alone but for a
name that goes through `apply_wifi_ssid`. -/
inductive Named (h h' : Hud) : Prop
  | still (same : Still h h')
  | named (name : Text) (g : Hud) (before : Still h g) (after : Still (g.applyWifiSsid name) h')

variable {h} {h' g : Hud}

/-- What comes first and leaves the network state alone does not count. -/
theorem Named.after (named : Named g h') (first : Still h g) : Named h h' := by
  cases named with
  | still same => exact .still (first.trans same)
  | named name k before after => exact .named name k (first.trans before) after

theorem Named.trans (named : Named h g) (last : Still g h') : Named h h' := by
  cases named with
  | still same => exact .still (same.trans last)
  | named name k before after => exact .named name k before (after.trans last)

/-- The row in use brings its name at most. -/
theorem applyActiveAp_named (h : Hud) : Named h h.applyActiveAp := by
  unfold applyActiveAp
  simp only
  split
  · exact .still rfl
  · next ap _ =>
      have named : Named h (if ap.ssid.text ≠ [] then h.applyWifiSsid ap.ssid.text else h) := by
        split
        · exact .named ap.ssid.text h (.refl h) (.refl _)
        · exact .still (.refl h)
      apply named.trans
      generalize (if ap.ssid.text ≠ [] then _ else _) = g
      have shown : Still g (if 0 ≤ g.wifi.signalDbm ∧ 0 < ap.signal then
          { g with wifi.signal := ap.signal } else g) := .ite rfl (.refl g)
      exact shown.trans (.ite rfl (.refl _))

/-- A round of samples brings that name at most. -/
theorem sampleAll_named (h : Hud) (sample : Sample) : Named h (h.sampleAll sample) := by
  unfold sampleAll
  refine Named.trans (Named.trans (Named.trans ?_ (sysfsWifi_still _ _ _)) (sampleLink_still _ _ _))
    (sampleIp_still _ _ _)
  unfold sampleSignal
  refine h.applyActiveAp_named.trans (.ite (.refl _) ?_)
  cases sample.wireless with
  | none => exact .refl _
  | some row => exact .ite (applySignalDbm_still _ _) (.ite (.ite rfl rfl) (.refl _))

/-- The label of a link report brings a name. -/
theorem linkName_named (h : Hud) (buf : Text) : Named h (h.linkName buf) := by
  unfold linkName
  cases strstr buf (txt "SSID:") with
  | none => exact .still (.refl h)
  | some found => exact .named _ h (.refl h) (.refl _)

/-- Its row brings one. -/
theorem linkRow_named (h : Hud) (buf : Text) : Named h (h.linkRow buf) := by
  unfold linkRow
  cases (lines buf).findSome? parseLinkRow with
  | none => exact .still (.refl h)
  | some row =>
      obtain ⟨signal, freq, name⟩ := row
      obtain ⟨level, freq', g, shown, same⟩ := h.applyLinkRow_eq signal freq name
      have first : Still h g := by
        rw [shown]
        rfl
      change Named h (h.applyLinkRow (signal, freq, name))
      rw [same]
      cases name with
      | none => exact .still first
      | some name =>
          have last : Named g
              (if name ≠ [] ∧ name ≠ txt "--" then g.applyWifiSsid (unescape name) else g) := by
            split
            · exact .named _ g (.refl g) (.refl _)
            · exact .still (.refl g)
          exact last.after first

end Hud

end Ginkgo
