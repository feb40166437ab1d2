import Ginkgo.CText.Terse
import Ginkgo.Hud.Reports

/-!
# Reading the device list

A device list of `nmcli` with one wifi device, which is connected, and any number of
other devices. `parse_info` finds the wifi device unless it takes the whole list for a
diagnostic or the device is called like a peer-to-peer one
(`Ginkgo.Hud.parseInfo_connected_iff`).
-/

namespace Ginkgo

open CText

/-- A device that is not a wifi one, in the order DEVICE, TYPE, STATE, CONNECTION. -/
structure OtherDevice where
  device : Text
  type : Text
  state : Text
  connection : Text
  otherType : type ≠ txt "wifi"
  otherName : ¬txt ":wifi" <:+ device
  deviceLine : newline ∉ device
  typePlain : ∀ c ∈ type, c ≠ colon ∧ c ≠ backslash ∧ c ≠ newline
  stateLine : newline ∉ state
  connectionLine : newline ∉ connection

/-- The device as `nmcli` prints it. -/
def OtherDevice.line (row : OtherDevice) : Text :=
  escape row.device ++ colon :: (row.type ++ colon :: (escape row.state ++
    colon :: escape row.connection))

/-- A list with one wifi device, which is connected. -/
structure DeviceList where
  before : List OtherDevice
  device : Text
  connection : Text
  after : List OtherDevice
  devicePlain : ∀ c ∈ device, c ≠ colon ∧ c ≠ backslash ∧ c ≠ newline
  connectionLine : newline ∉ connection

namespace DeviceList

/-- The row of the wifi device. -/
def wifiLine (devices : DeviceList) : Text :=
  devices.device ++ colon :: (txt "wifi" ++ colon :: (txt "connected" ++
    colon :: escape devices.connection))

/-- The list as `nmcli` prints it. -/
def text (devices : DeviceList) : Text :=
  [newline].intercalate (devices.before.map OtherDevice.line ++
    devices.wifiLine :: devices.after.map OtherDevice.line)

end DeviceList

/-! ## Rows -/

namespace OtherDevice

/-- The second of the fields that `parse_info` sees is not `wifi`: it is the type, or a
part of the device's name. -/
theorem splitColons_line (row : OtherDevice) :
    ∃ first second rest, splitColons 5 row.line = first :: second :: rest ∧
      second ≠ txt "wifi" := by
  have type : colon ∉ row.type := fun member => (row.typePlain _ member).1 rfl
  -- A colon in the name of the device is printed after a backslash but ends a field all the same.
  have named (front back : Text) (absent : colon ∉ front) (limit : Nat) (rest : Text) :
      splitColons (limit + 1) (escape (front ++ colon :: back) ++ rest) =
        (escape front ++ [backslash]) :: splitColons limit (escape back ++ rest) := by
    have ends : colon ∉ escape front ++ [backslash] := by
      simp [notMem_escape absent (by decide), show colon ≠ backslash by decide]
    rw [← splitColons_append limit ends, escape_append, escape, if_pos (.inl rfl)]
    simp
  by_cases first : colon ∈ row.device
  · obtain ⟨front, back, device, absent⟩ := List.eq_append_cons_of_mem first
    rw [line, device, named front back absent]
    by_cases second : colon ∈ back
    · obtain ⟨middle, back, rfl, absent⟩ := List.eq_append_cons_of_mem second
      rw [named middle back absent]
      refine ⟨_, _, _, rfl, fun wifi => ?_⟩
      have slash : backslash ∈ txt "wifi" := by simp [← wifi]
      exact absurd slash (by decide)
    · rw [splitColons_append _ (notMem_escape second (by decide))]
      refine ⟨_, _, _, rfl, fun wifi => row.otherName ?_⟩
      have name : back = txt "wifi" := by
        rw [← unescape_escape back, wifi]
        decide
      rw [device, name]
      exact List.suffix_append front _
  · rw [line, splitColons_append _ (notMem_escape first (by decide)), splitColons_append _ type]
    exact ⟨_, _, _, rfl, row.otherType⟩

/-- The row of another device says nothing of the wifi device. -/
theorem parseInfoLine_line (row : OtherDevice) (seen : Hud.InfoScan) :
    Hud.parseInfoLine seen row.line = seen := by
  obtain ⟨first, second, rest, fields, other⟩ := row.splitColons_line
  rw [Hud.parseInfoLine, fields]
  cases rest with
  | nil => rfl
  | cons third rest => exact if_neg fun wifi => other wifi.1

/-- It is a line. -/
theorem line_clean (row : OtherDevice) : newline ∉ row.line ∧ row.line ≠ [] := by
  constructor
  · intro member
    have other : newline ≠ colon := by decide
    simp only [line, List.mem_append, List.mem_cons, other, false_or] at member
    rcases member with inside | inside | inside | inside
    · exact notMem_escape row.deviceLine (by decide) inside
    · exact (row.typePlain _ inside).2.2 rfl
    · exact notMem_escape row.stateLine (by decide) inside
    · exact notMem_escape row.connectionLine (by decide) inside
  · simp [line]

end OtherDevice

/-! ## The whole list -/

namespace DeviceList

/-- The device is called like a peer-to-peer one. -/
def IsPeer (devices : DeviceList) : Prop := txt "p2p-" <+: devices.device

instance (devices : DeviceList) : Decidable devices.IsPeer :=
  decidable_of_iff ((txt "p2p-").isPrefixOf devices.device) List.isPrefixOf_iff_prefix

/-- The row of the wifi device is a line. -/
theorem wifiLine_clean (devices : DeviceList) :
    newline ∉ devices.wifiLine ∧ devices.wifiLine ≠ [] := by
  constructor
  · intro member
    have other : newline ≠ colon := by decide
    simp only [wifiLine, List.mem_append, List.mem_cons, other, false_or] at member
    rcases member with inside | inside | inside | inside
    · exact (devices.devicePlain _ inside).2.2 rfl
    · exact absurd inside (by decide)
    · exact absurd inside (by decide)
    · exact notMem_escape devices.connectionLine (by decide) inside
  · simp [wifiLine]

/-- The lines of a list. -/
theorem lines_text (devices : DeviceList) :
    lines devices.text = devices.before.map OtherDevice.line ++
      devices.wifiLine :: devices.after.map OtherDevice.line := by
  refine lines_intercalate fun s member => ?_
  rcases List.mem_append.mp member with inside | inside
  · obtain ⟨row, -, rfl⟩ := List.mem_map.mp inside
    exact row.line_clean
  · rcases List.mem_cons.mp inside with rfl | inside
    · exact devices.wifiLine_clean
    · obtain ⟨row, -, rfl⟩ := List.mem_map.mp inside
      exact row.line_clean

/-- Rows of other devices change nothing. -/
theorem foldl_others (rows : List OtherDevice) (seen : Hud.InfoScan) :
    (rows.map OtherDevice.line).foldl Hud.parseInfoLine seen = seen := by
  induction rows with
  | nil => rfl
  | cons row rows ih =>
      rw [List.map_cons, List.foldl_cons, row.parseInfoLine_line]
      exact ih

/-- What `parse_info` sees of the list. -/
theorem foldl_text (devices : DeviceList) :
    (lines devices.text).foldl Hud.parseInfoLine {} =
      if devices.IsPeer then {}
      else { sawWifi := true, wifiUp := true, iface := .print 32 devices.device } := by
  have device : colon ∉ devices.device := fun member => (devices.devicePlain _ member).1 rfl
  have fields : splitColons 5 devices.wifiLine =
      devices.device :: txt "wifi" :: txt "connected" ::
        splitColons 2 (escape devices.connection) := by
    rw [wifiLine, splitColons_append _ device, splitColons_append _ (by decide),
      splitColons_append _ (by decide)]
  have row : Hud.parseInfoLine {} devices.wifiLine =
      if devices.IsPeer then {}
      else { sawWifi := true, wifiUp := true, iface := .print 32 devices.device } := by
    have peer : (txt "p2p-").isPrefixOf devices.device = false ↔ ¬devices.IsPeer := by
      rw [IsPeer, ← List.isPrefixOf_iff_prefix, Bool.not_eq_true]
    rw [Hud.parseInfoLine, fields]
    simp only [peer, true_and]
    by_cases named : devices.IsPeer
    · simp [named]
    · rw [if_pos named, if_neg named]
      rfl
  rw [lines_text, List.foldl_append, foldl_others, List.foldl_cons, row, foldl_others]

end DeviceList

namespace Hud

/-- While no forget is held, a device list sets whether the radio is connected, and nothing
else that a join depends on. -/
theorem applyInfo_frame (h : Hud) (now : Nat) (seen : InfoScan)
    (free : h.forget.forgetSsid.text = []) :
    (h.applyInfo now seen).wifi.ssid = h.wifi.ssid ∧ (h.applyInfo now seen).forget = h.forget ∧
      (h.applyInfo now seen).join = h.join ∧ (h.applyInfo now seen).bufs = h.bufs ∧
      (h.applyInfo now seen).wifi.connected =
        if seen.sawWifi then seen.wifiUp else h.wifi.connected := by
  have hold (up : Bool) (live : Text) : gwForgetHoldConnected [] up live = false := by
    simp [gwForgetHoldConnected]
  unfold applyInfo
  by_cases saw : seen.sawWifi
  · simp only [saw, free, hold, ne_eq, not_true_eq_false, and_false, if_false, if_true,
      Bool.true_eq_false, Bool.false_eq_true]
    split_ifs <;> exact ⟨rfl, rfl, rfl, rfl, rfl⟩
  · simp [saw]

/-- A device list leaves the names and the joins, when nothing is held. -/
theorem parseInfo_frame (h : Hud) (now : Nat) (buf : Text) (free : h.forget.forgetSsid.text = []) :
    (h.parseInfo now buf).wifi.ssid = h.wifi.ssid ∧ (h.parseInfo now buf).forget = h.forget ∧
      (h.parseInfo now buf).join = h.join ∧ (h.parseInfo now buf).bufs = h.bufs := by
  unfold parseInfo
  split
  · exact ⟨rfl, rfl, rfl, rfl⟩
  · obtain ⟨ssid, forget, join, bufs, -⟩ :=
      h.applyInfo_frame now ((lines buf).foldl parseInfoLine {}) free
    exact ⟨ssid, forget, join, bufs⟩

/-- **When a connected device is seen.** -/
theorem parseInfo_connected_iff (h : Hud) (now : Nat) (devices : DeviceList)
    (free : h.forget.forgetSsid.text = []) :
    (h.parseInfo now devices.text).wifi.connected = true ↔
      h.wifi.connected = true ∨ infoError devices.text = false ∧ ¬devices.IsPeer := by
  unfold parseInfo
  by_cases failed : infoError devices.text
  · simp [failed, setStatus]
  · obtain ⟨-, -, -, -, connected⟩ :=
      h.applyInfo_frame now ((lines devices.text).foldl parseInfoLine {}) free
    rw [if_neg failed, connected, devices.foldl_text]
    by_cases peer : devices.IsPeer <;> simp [peer, failed]

end Hud

end Ginkgo
