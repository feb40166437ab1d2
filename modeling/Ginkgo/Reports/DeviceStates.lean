import Ginkgo.Reports.DeviceList

/-!
# The states of the device list

A device list with one wifi device in any state, beside peer-to-peer interfaces and other devices.
`parse_info` classifies the state by words that may stand anywhere in it, which agrees with its
beginning for every state of `nmcli` (`Ginkgo.StateRead`), and it shows that state unless a name
in the list makes it take the whole list for a diagnostic (`Ginkgo.Hud.parseInfo_shown_iff`).
-/

namespace Ginkgo

open CText

/-- A peer-to-peer interface that is listed as a wifi device. -/
structure PeerDevice where
  device : Text
  state : Text
  connection : Text
  peer : txt "p2p-" <+: device
  devicePlain : ∀ c ∈ device, c ≠ colon ∧ c ≠ backslash ∧ c ≠ newline
  statePlain : ∀ c ∈ state, c ≠ colon ∧ c ≠ backslash ∧ c ≠ newline
  connectionLine : newline ∉ connection

/-- The row of a device of the type `wifi` as `nmcli` prints it. -/
def wifiRow (device state connection : Text) : Text :=
  device ++ colon :: (txt "wifi" ++ colon :: (state ++ colon :: escape connection))

/-- A row that says nothing about the wifi device. -/
inductive OtherRow where
  | other (row : OtherDevice)
  | peer (row : PeerDevice)

/-- The line of such a row. -/
def OtherRow.line : OtherRow → Text
  | .other row => row.line
  | .peer row => wifiRow row.device row.state row.connection

/-- A list with one wifi device. Its name is the one of a network interface. -/
structure StatedDevices where
  before : List OtherRow
  device : Text
  state : Text
  connection : Text
  after : List OtherRow
  nonempty : device ≠ []
  short : device.length < 16
  unpeered : ¬txt "p2p-" <+: device
  devicePlain : ∀ c ∈ device, c ≠ colon ∧ c ≠ backslash ∧ c ≠ newline
  statePlain : ∀ c ∈ state, c ≠ colon ∧ c ≠ backslash ∧ c ≠ newline
  connectionLine : newline ∉ connection

/-! ## States -/

/-- The state is `connected`, with a remark or without one. -/
def IsConnected (state : Text) : Prop := state = txt "connected" ∨ txt "connected (" <+: state

/-- The state is `connecting`, with a remark or without one. -/
def IsConnecting (state : Text) : Prop := txt "connecting" <+: state

/-- The words by which `parse_info` tells that the device is down. -/
def downWords (state : Text) : Bool :=
  has state (txt "disconnected") || has state (txt "unavailable") || has state (txt "unmanaged")

/-- The words by which it tells that the device is busy. -/
def busyWords (state : Text) : Bool :=
  has state (txt "connecting") || has state (txt "preparing") || has state (txt "configuring") ||
    has state (txt "getting IP") || has state (txt "checking IP")

instance (state : Text) : Decidable (IsConnected state) :=
  decidable_of_iff (state = txt "connected" ∨ (txt "connected (").isPrefixOf state)
    (or_congr_right List.isPrefixOf_iff_prefix)

instance (state : Text) : Decidable (IsConnecting state) :=
  decidable_of_iff ((txt "connecting").isPrefixOf state) List.isPrefixOf_iff_prefix

/-- **The words in a state agree with its beginning.** -/
def StateRead (state : Text) : Prop :=
  if IsConnected state then downWords state = false ∧ busyWords state = false
  else if IsConnecting state then downWords state = false
  else downWords state = true ∨ busyWords state = false ∧ has state (txt "connected") = false

instance (state : Text) : Decidable (StateRead state) := by
  unfold StateRead
  infer_instance

/-- The states of a device that `nmcli` prints. -/
def nmcliStates : List String :=
  ["unknown", "unmanaged", "unavailable", "disconnected", "connecting (prepare)",
    "connecting (configuring)", "connecting (need authentication)",
    "connecting (getting IP configuration)", "connecting (checking IP connectivity)",
    "connecting (starting secondary connections)", "connecting (externally)", "connected",
    "connected (externally)", "deactivating", "deactivating (externally)", "connection failed"]

/-- Every state of `nmcli` is read as it begins. -/
example : ∀ state ∈ nmcliStates, StateRead (txt state) := by decide +kernel

/-- A connected device is not connecting. -/
theorem IsConnected.not_connecting {state : Text} (up : IsConnected state) :
    ¬IsConnecting state := by
  intro busy
  rcases up with rfl | up
  · exact absurd busy (by decide)
  · rcases List.prefix_or_prefix_of_prefix up busy with inside | inside
    · exact absurd inside (by decide)
    · exact absurd inside (by decide)

/-- **How a state is classified**: up exactly for a connected device and busy exactly for a
connecting one, when its words agree with its beginning. -/
theorem stateRead_iff (state : Text) :
    StateRead state ↔
      ((downWords state = false ∧ busyWords state = false ∧ has state (txt "connected") = true ↔
          IsConnected state) ∧
        (downWords state = false ∧ busyWords state = true ↔ IsConnecting state)) := by
  have connected (up : IsConnected state) : has state (txt "connected") = true := by
    rw [has_iff_isInfix]
    rcases up with rfl | up
    · exact List.infix_refl _
    · exact (List.IsPrefix.trans (by decide) up).isInfix
  have connecting (busy : IsConnecting state) : busyWords state = true := by
    have inside : has state (txt "connecting") = true := has_iff_isInfix.mpr busy.isInfix
    simp [busyWords, inside]
  unfold StateRead
  by_cases up : IsConnected state
  · have idle := up.not_connecting
    have word := connected up
    cases downWords state <;> cases busyWords state <;> simp [up, idle, word]
  · by_cases busy : IsConnecting state
    · have word := connecting busy
      cases downWords state <;> simp [up, busy, word]
    · cases downWords state <;> cases busyWords state <;>
        cases has state (txt "connected") <;> simp [up, busy]

/-! ## Rows -/

/-- A row of a device is a line. -/
theorem wifiRow_clean {device state connection : Text}
    (devicePlain : ∀ c ∈ device, c ≠ colon ∧ c ≠ backslash ∧ c ≠ newline)
    (statePlain : ∀ c ∈ state, c ≠ colon ∧ c ≠ backslash ∧ c ≠ newline)
    (connectionLine : newline ∉ connection) :
    newline ∉ wifiRow device state connection ∧ wifiRow device state connection ≠ [] := by
  constructor
  · intro member
    have other : newline ≠ colon := by decide
    simp only [wifiRow, List.mem_append, List.mem_cons, other, false_or] at member
    rcases member with inside | inside | inside | inside
    · exact (devicePlain _ inside).2.2 rfl
    · exact absurd inside (by decide)
    · exact (statePlain _ inside).2.2 rfl
    · exact notMem_escape connectionLine (by decide) inside
  · simp [wifiRow]

/-- Its fields are read back. -/
theorem splitColons_wifiRow {device state : Text} (connection : Text)
    (devicePlain : ∀ c ∈ device, c ≠ colon ∧ c ≠ backslash ∧ c ≠ newline)
    (statePlain : ∀ c ∈ state, c ≠ colon ∧ c ≠ backslash ∧ c ≠ newline) :
    splitColons 5 (wifiRow device state connection) =
      device :: txt "wifi" :: state :: splitColons 2 (escape connection) := by
  rw [wifiRow, splitColons_append _ fun member => (devicePlain _ member).1 rfl,
    splitColons_append _ (by decide), splitColons_append _ fun member => (statePlain _ member).1 rfl]

namespace OtherRow

/-- Such a row is a line. -/
theorem line_clean (row : OtherRow) : newline ∉ row.line ∧ row.line ≠ [] := by
  cases row with
  | other row => exact row.line_clean
  | peer row => exact wifiRow_clean row.devicePlain row.statePlain row.connectionLine

/-- It says nothing of the wifi device. -/
theorem parseInfoLine_line (row : OtherRow) (seen : Hud.InfoScan) :
    Hud.parseInfoLine seen row.line = seen := by
  cases row with
  | other row => exact row.parseInfoLine_line seen
  | peer row =>
      rw [Hud.parseInfoLine, line, splitColons_wifiRow _ row.devicePlain row.statePlain]
      refine if_neg fun wifi => ?_
      have peer := List.isPrefixOf_iff_prefix.mpr row.peer
      rw [wifi.2] at peer
      cases peer

/-- Other rows change nothing. -/
theorem foldl_lines (rows : List OtherRow) (seen : Hud.InfoScan) :
    (rows.map line).foldl Hud.parseInfoLine seen = seen := by
  induction rows with
  | nil => rfl
  | cons row rows ih =>
      rw [List.map_cons, List.foldl_cons, row.parseInfoLine_line]
      exact ih

end OtherRow

/-! ## The whole list -/

namespace StatedDevices

/-- The list as `nmcli` prints it. -/
def text (devices : StatedDevices) : Text :=
  [newline].intercalate (devices.before.map OtherRow.line ++
    wifiRow devices.device devices.state devices.connection :: devices.after.map OtherRow.line)

/-- The lines of a list. -/
theorem lines_text (devices : StatedDevices) :
    lines devices.text = devices.before.map OtherRow.line ++
      wifiRow devices.device devices.state devices.connection ::
        devices.after.map OtherRow.line := by
  refine lines_intercalate fun s member => ?_
  rcases List.mem_append.mp member with inside | inside
  · obtain ⟨row, -, rfl⟩ := List.mem_map.mp inside
    exact row.line_clean
  · rcases List.mem_cons.mp inside with rfl | inside
    · exact wifiRow_clean devices.devicePlain devices.statePlain devices.connectionLine
    · obtain ⟨row, -, rfl⟩ := List.mem_map.mp inside
      exact row.line_clean

/-- What `parse_info` sees of the list. -/
theorem foldl_text (devices : StatedDevices) :
    (lines devices.text).foldl Hud.parseInfoLine {} = {
      sawWifi := true
      wifiUp := !downWords devices.state && !busyWords devices.state &&
        has devices.state (txt "connected")
      wifiBusy := !downWords devices.state && busyWords devices.state
      iface := .print 32 devices.device } := by
  have unpeered : (txt "p2p-").isPrefixOf devices.device = false := by
    rw [← Bool.not_eq_true, List.isPrefixOf_iff_prefix]
    exact devices.unpeered
  have row : Hud.parseInfoLine {} (wifiRow devices.device devices.state devices.connection) = {
      sawWifi := true
      wifiUp := !downWords devices.state && !busyWords devices.state &&
        has devices.state (txt "connected")
      wifiBusy := !downWords devices.state && busyWords devices.state
      iface := .print 32 devices.device } := by
    rw [Hud.parseInfoLine, splitColons_wifiRow _ devices.devicePlain devices.statePlain]
    simp only [unpeered, and_self, if_true]
    change (if downWords devices.state = true then _ else if busyWords devices.state = true then _
      else _) = _
    cases downWords devices.state <;> cases busyWords devices.state <;>
      cases has devices.state (txt "connected") <;> rfl
  rw [lines_text, List.foldl_append, OtherRow.foldl_lines, List.foldl_cons, row,
    OtherRow.foldl_lines]

/-- **The HUD shows the wifi device as the list has it.** -/
structure ShownBy (devices : StatedDevices) (h : Hud) : Prop where
  iface : h.wifi.iface.text = devices.device
  connected : h.wifi.connected = true ↔ IsConnected devices.state
  busy : h.wifi.busy = true ↔ IsConnecting devices.state

end StatedDevices

namespace Hud

/-- While no forget is held, a device report is taken over. -/
theorem applyInfo_shows (h : Hud) (now : Nat) {seen : InfoScan} (saw : seen.sawWifi = true)
    (named : seen.iface.text ≠ []) (free : h.forget.forgetSsid.text = []) :
    (h.applyInfo now seen).wifi.iface = seen.iface ∧
      (h.applyInfo now seen).wifi.connected = seen.wifiUp ∧
      (h.applyInfo now seen).wifi.busy = seen.wifiBusy := by
  have hold (up : Bool) (live : Text) : gwForgetHoldConnected [] up live = false := by
    simp [gwForgetHoldConnected]
  unfold applyInfo
  simp only [saw, free, hold, named, ne_eq, not_true_eq_false, not_false_eq_true, and_false,
    if_false, if_true, Bool.true_eq_false, Bool.false_eq_true]
  split_ifs <;> exact ⟨rfl, rfl, rfl⟩

/-- **When the device list is shown**: when it is not taken for a diagnostic and the words of the
state agree with its beginning. A list that is taken for a diagnostic changes nothing. -/
theorem parseInfo_shown_iff (h : Hud) (now : Nat) (devices : StatedDevices)
    (free : h.forget.forgetSsid.text = []) :
    devices.ShownBy (h.parseInfo now devices.text) ↔
      if infoError devices.text then devices.ShownBy h else StateRead devices.state := by
  unfold parseInfo
  split
  · exact ⟨fun shown => ⟨shown.iface, shown.connected, shown.busy⟩,
      fun shown => ⟨shown.iface, shown.connected, shown.busy⟩⟩
  · have stored : (Buf.print 32 devices.device).text = devices.device := by
      have short := devices.short
      exact Buf.print_of_lt (by omega)
    rw [devices.foldl_text, stateRead_iff]
    generalize seenAs : ({
      sawWifi := true
      wifiUp := !downWords devices.state && !busyWords devices.state &&
        has devices.state (txt "connected")
      wifiBusy := !downWords devices.state && busyWords devices.state
      iface := .print 32 devices.device } : InfoScan) = seen
    have saw : seen.sawWifi = true := by rw [← seenAs]
    have named : seen.iface.text = devices.device := by rw [← seenAs, stored]
    have up : seen.wifiUp = true ↔ downWords devices.state = false ∧
        busyWords devices.state = false ∧ has devices.state (txt "connected") = true := by
      simp [← seenAs, and_assoc]
    have busy : seen.wifiBusy = true ↔
        downWords devices.state = false ∧ busyWords devices.state = true := by
      simp [← seenAs]
    obtain ⟨iface, connected, working⟩ :=
      h.applyInfo_shows now saw (named ▸ devices.nonempty) free
    constructor
    · rintro ⟨-, shownUp, shownBusy⟩
      rw [connected, up] at shownUp
      rw [working, busy] at shownBusy
      exact ⟨shownUp, shownBusy⟩
    · rintro ⟨readUp, readBusy⟩
      refine ⟨by rw [iface, named], ?_, ?_⟩
      · rw [connected, up]
        exact readUp
      · rw [working, busy]
        exact readBusy

/-- A phone on a network of that name, beside the interface for peers. -/
def wlanStates (network : String) (line : newline ∉ txt network) : StatedDevices where
  before := [.peer {
    device := txt "p2p-dev-wlan0"
    state := txt "disconnected"
    connection := []
    peer := by decide +kernel
    devicePlain := by decide +kernel
    statePlain := by decide +kernel
    connectionLine := by decide }]
  device := txt "wlan0"
  state := txt "connected"
  connection := txt network
  after := []
  nonempty := by decide +kernel
  short := by decide +kernel
  unpeered := by decide +kernel
  devicePlain := by decide +kernel
  statePlain := by decide +kernel
  connectionLine := line

/-- A phone that has just been started. -/
def startedHud : Hud := { ui := { W := 1080, H := 2340 } }

/-- A phone on the network `Home: 5` is shown as connected. -/
theorem parseInfo_shown_home :
    (wlanStates "Home: 5" (by decide +kernel)).ShownBy
      (startedHud.parseInfo 1 (wlanStates "Home: 5" (by decide +kernel)).text) :=
  (parseInfo_shown_iff startedHud 1 (wlanStates "Home: 5" (by decide +kernel)) rfl).mpr (by
    rw [if_neg (by decide +kernel)]
    decide +kernel)

/-- A phone on the network `Error 404` is never shown as connected. -/
theorem parseInfo_misses :
    ¬∀ (h : Hud) (now : Nat) (devices : StatedDevices), h.forget.forgetSsid.text = [] →
      devices.ShownBy (h.parseInfo now devices.text) := by
  intro always
  have shown := (always startedHud 1 (wlanStates "Error 404" (by decide +kernel)) rfl).connected
  exact absurd (shown.mpr (by decide +kernel)) (by decide +kernel)

end Hud

end Ginkgo
