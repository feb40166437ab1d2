import Ginkgo.CText.Terse
import Ginkgo.Hud.Selection

/-!
# Reports about the network

What the HUD makes of the output of `nmcli` and `iw`: the device list
(`Ginkgo.Hud.parseInfo`), the scan list (`Ginkgo.Hud.parseScan`) and the link report
(`Ginkgo.Hud.parseLink`), and of the samples it takes from the kernel every second.
A name reported as live passes through `Ginkgo.Hud.applyWifiSsid`.
-/

namespace Ginkgo

open CText

/-- The longer name is the shorter one continued by a dash or an underscore. -/
def isSibling (short long : Text) : Bool :=
  short.length < long.length ∧ short.isPrefixOf long ∧
    (long[short.length]? = some dash ∨ long[short.length]? = some underscore)

/-- The name in a report: blanks, a `gemini-` at the front and what follows a line end
are not part of it. -/
def reportedSsid (s : Text) : Text :=
  let s := if (txt "gemini-").isPrefixOf s ∧ 7 < s.length then s.drop 7 else s
  cutAt carriageReturn (cutAt newline (Buf.print 96 s).text)

/-- `rssi_to_pct`. -/
def rssiToPct (dbm : Int) : Int :=
  if -55 ≤ dbm then 100
  else if dbm ≤ -100 then 0
  else ((dbm + 100) * 100).tdiv 45

namespace Hud

/-- `apply_wifi_ssid` -/
def applyWifiSsid (s : Text) (h : Hud) : Hud :=
  let s := skipBlanks s
  if s = [] ∨ s = txt "--" then h
  else
    let tmp := reportedSsid s
    let joined := h.bufs.connectSsid.text
    if joined ≠ [] ∧ tmp ≠ joined ∧ (isSibling tmp joined ∨ isSibling joined tmp) then h
    else if gwSsidEq h.forget.forgetSsid.text tmp then h
    else
      let h := if h.forget.forgetSsid.text ≠ [] ∧ tmp ≠ [] then
          { h with forget.forgetSsid := .empty 96 } else h
      if isSibling tmp h.wifi.ssid.text then h
      else { h with wifi.ssid := .print 96 tmp }

/-- A reported name is written to the live name at most, and may release the hold. -/
theorem applyWifiSsid_writes (h : Hud) (s : Text) :
    ∃ hold ssid, h.applyWifiSsid s = { h with forget.forgetSsid := hold, wifi.ssid := ssid } ∧
      (hold = h.forget.forgetSsid ∨ hold = .empty 96) := by
  have released (tmp : Text) : ∃ hold,
      (if h.forget.forgetSsid.text ≠ [] ∧ tmp ≠ [] then { h with forget.forgetSsid := .empty 96 }
        else h) = { h with forget.forgetSsid := hold } ∧
        (hold = h.forget.forgetSsid ∨ hold = .empty 96) := by
    split
    · exact ⟨_, rfl, .inr rfl⟩
    · exact ⟨_, rfl, .inl rfl⟩
  unfold applyWifiSsid
  simp only
  split
  · exact ⟨_, _, rfl, .inl rfl⟩
  · split
    · exact ⟨_, _, rfl, .inl rfl⟩
    · split
      · exact ⟨_, _, rfl, .inl rfl⟩
      · obtain ⟨hold, same, kept⟩ := released (reportedSsid (skipBlanks s))
        rw [same]
        split
        · exact ⟨_, _, rfl, kept⟩
        · exact ⟨_, _, rfl, kept⟩

/-- `apply_active_ap` -/
def applyActiveAp (h : Hud) : Hud :=
  let current (ap : Ap) : Bool :=
    (ap.active || (h.wifi.ssid.text ≠ [] ∧ ap.ssid.text = h.wifi.ssid.text)) &&
      !gwSsidEq h.forget.forgetSsid.text ap.ssid.text
  match h.scan.aps.find? current with
  | none => h
  | some ap =>
      let h := if ap.ssid.text ≠ [] then h.applyWifiSsid ap.ssid.text else h
      let h := if 0 ≤ h.wifi.signalDbm ∧ 0 < ap.signal then
          { h with wifi.signal := ap.signal } else h
      if ap.freq.text ≠ [] ∧ h.wifi.freq.text = [] then
        { h with wifi.freq := .print 32 ap.freq.text } else h

/-- `apply_signal_dbm` -/
def applySignalDbm (dbm : Int) (h : Hud) : Hud :=
  if 0 ≤ dbm ∨ dbm < -120 then h
  else { h with wifi.signalDbm := dbm, wifi.signal := rssiToPct dbm }

/-- One second's signal sample; `row` holds the link quality and the level of the
interface's row in `/proc/net/wireless`, when there is one. -/
def sampleSignal (row : Option (Int × Int)) (h : Hud) : Hud :=
  let h := h.applyActiveAp
  if h.wifi.iface.text = [] then h
  else match row with
    | none => h
    | some (link, level) =>
        if level ≤ -20 ∧ -120 ≤ level then h.applySignalDbm level
        else if 0 ≤ h.wifi.signalDbm ∧ 0 < link then
          if link ≤ 70 then { h with wifi.signal := clampi ((link * 100).tdiv 70) 0 100 }
          else { h with wifi.signal := clampi link 0 100 }
        else h

/-- `sysfs_wifi`: whether the known interface is still a wireless one, and the first
wireless interface otherwise. -/
def sysfsWifi (present : Bool) (found : Option Text) (h : Hud) : Hud :=
  let h := if h.wifi.iface.text ≠ [] ∧ present = false then
      { h with wifi.haveDev := false, wifi.iface := .empty 32 } else h
  if h.wifi.iface.text ≠ [] then { h with wifi.haveDev := true }
  else match found with
    | none => h
    | some name => { h with wifi.haveDev := true, wifi.iface := .print 32 name }

/-- `sample_link`: the address of an interface whose operational state is up. -/
def sampleLink (up : Bool) (ip : Option Text) (h : Hud) : Hud :=
  if h.wifi.iface.text = [] ∨ up = false then h
  else if gwForgetHoldConnected h.forget.forgetSsid.text true h.wifi.ssid.text then h
  else match ip with
    | none => h
    | some ip => { h with wifi.ip := .print 64 ip }

/-- `sample_ip`: the address and the default gateway of the interface. -/
def sampleIp (ip gw : Option Text) (h : Hud) : Hud :=
  if h.wifi.iface.text = [] then h
  else
    let h := match ip with
      | none => h
      | some ip => { h with wifi.ip := .print 64 ip }
    match gw with
    | none => h
    | some gw => { h with wifi.gw := .print 64 gw }

/-! ## The device list -/

/-- What `parse_info` has read of the wifi device. -/
structure InfoScan where
  sawWifi : Bool := false
  wifiUp : Bool := false
  wifiBusy : Bool := false
  iface : Buf 32 := .empty 32

/-- One line of the device list. The type must be exactly `wifi`. -/
def parseInfoLine (seen : InfoScan) (line : Text) : InfoScan :=
  match splitColons 5 line with
  | device :: type :: st :: _ =>
      if type = txt "wifi" ∧ (txt "p2p-").isPrefixOf device = false then
        let seen := { seen with sawWifi := true, iface := .print 32 device }
        if has st (txt "disconnected") || has st (txt "unavailable") ||
            has st (txt "unmanaged") then
          { seen with wifiUp := false, wifiBusy := false }
        else if has st (txt "connecting") || has st (txt "preparing") ||
            has st (txt "configuring") || has st (txt "getting IP") ||
            has st (txt "checking IP") then
          { seen with wifiUp := false, wifiBusy := true }
        else if has st (txt "connected") then { seen with wifiUp := true, wifiBusy := false }
        else seen
      else seen
  | _ => seen

/-- The texts by which `parse_info` recognises a diagnostic of `nmcli`. -/
def infoError (buf : Text) : Bool := has buf (txt "Error") || has buf (txt "error:")

/-- Take over what has been read of the wifi device. -/
def applyInfo (now : Nat) (seen : InfoScan) (h : Hud) : Hud :=
  if seen.sawWifi = false then h
  else
    let h := { h with
      wifi.haveDev := true
      wifi.iface := if seen.iface.text ≠ [] then seen.iface else h.wifi.iface
      wifi.connected := seen.wifiUp
      wifi.busy := seen.wifiBusy }
    let h :=
      if gwForgetHoldConnected h.forget.forgetSsid.text h.wifi.connected h.wifi.ssid.text then
        h.clearLive
      else if seen.wifiUp = false ∧ seen.wifiBusy = false ∧ h.forget.forgetSsid.text ≠ [] then
        { h with forget.forgetSsid := .empty 96 }
      else h
    if h.wifi.connected then
      if h.tAssoc = 0 then { h with tAssoc := now } else h
    else if h.wifi.busy = false ∧ h.join.connecting = false ∧ h.join.joinWaitLive = false then
      { h with tAssoc := 0, wifi.signalDbm := 0 }
    else h

/-- A device report is written to what is shown of the wifi device, and may release the hold. -/
theorem applyInfo_writes (h : Hud) (now : Nat) (seen : InfoScan) :
    ∃ wifi hold tAssoc, h.applyInfo now seen =
        { h with wifi := wifi, forget.forgetSsid := hold, tAssoc := tAssoc } ∧
      (hold = h.forget.forgetSsid ∨ hold = .empty 96) ∧
      (wifi.ssid = h.wifi.ssid ∨ wifi.ssid = .empty 96) := by
  have held (g : Hud) : ∃ wifi hold tAssoc,
      (if gwForgetHoldConnected g.forget.forgetSsid.text g.wifi.connected g.wifi.ssid.text then
          g.clearLive
        else if seen.wifiUp = false ∧ seen.wifiBusy = false ∧ g.forget.forgetSsid.text ≠ [] then
          { g with forget.forgetSsid := .empty 96 }
        else g) = { g with wifi := wifi, forget.forgetSsid := hold, tAssoc := tAssoc } ∧
        (hold = g.forget.forgetSsid ∨ hold = .empty 96) ∧
        (wifi.ssid = g.wifi.ssid ∨ wifi.ssid = .empty 96) := by
    split
    · exact ⟨_, _, _, rfl, .inl rfl, .inr rfl⟩
    · split
      · exact ⟨_, _, _, rfl, .inr rfl, .inl rfl⟩
      · exact ⟨_, _, _, rfl, .inl rfl, .inl rfl⟩
  unfold applyInfo
  split
  · exact ⟨_, _, _, rfl, .inl rfl, .inl rfl⟩
  · obtain ⟨wifi, hold, tAssoc, same, released, live⟩ := held { h with
      wifi.haveDev := true
      wifi.iface := if seen.iface.text ≠ [] then seen.iface else h.wifi.iface
      wifi.connected := seen.wifiUp
      wifi.busy := seen.wifiBusy }
    simp only [same]
    split
    · split
      · exact ⟨_, _, _, rfl, released, live⟩
      · exact ⟨_, _, _, rfl, released, live⟩
    · split
      · exact ⟨_, _, _, rfl, released, live⟩
      · exact ⟨_, _, _, rfl, released, live⟩

/-- `parse_info` -/
def parseInfo (now : Nat) (buf : Text) (h : Hud) : Hud :=
  if infoError buf then h.setStatus (cutAt newline buf)
  else h.applyInfo now ((lines buf).foldl parseInfoLine {})

/-! ## The scan list -/

/-- One line of the scan list: name, signal, security, frequency and whether it is in use. -/
def parseScanRow (forgetSsid : Text) (line : Text) : Option Ap :=
  match splitFields 8 line with
  | name :: signal :: sec :: fourth :: rest =>
      if name = [] then none
      else
        let act := rest.headD fourth
        some {
          ssid := .print 96 (unescape name)
          signal := atoi signal
          security := .print 40 sec
          freq := if rest = [] then .empty 24 else .print 24 fourth
          secure := sec ≠ [] ∧ sec ≠ txt "--"
          active := (act.head? = some 121 ∨ act.head? = some 89) ∧
            gwSsidEq forgetSsid (unescape name) = false }
  | _ => none

/-- The texts by which `parse_scan` recognises a diagnostic of `nmcli`. -/
def scanError (buf : Text) : Bool :=
  has buf (txt "Error") || has buf (txt "not running") || has buf (txt "No such")

/-- After a scan: keep the highlighted and the selected row inside the list and look the
selected name up again. -/
def reselectAp (h : Hud) : Hud :=
  let inList (i : Nat) : Bool := i < h.scan.aps.length
  if h.scan.aps = [] then h
  else
    let h := { h with scan.hoverAp := some ((h.scan.hoverAp.filter inList).getD 0) }.syncSelectedAp
    { h with scan.selectedAp := h.scan.selectedAp.filter inList <|> h.scan.hoverAp }

/-- `parse_scan` -/
def parseScan (buf : Text) (h : Hud) : Hud :=
  let failed := scanError buf
  let buf := if failed then cutAt newline buf else buf
  let h := if failed then h.setStatus (Buf.print 96 buf).text else h
  let aps := ((lines buf).filterMap (parseScanRow h.forget.forgetSsid.text)).take maxAp
  { h with scan.aps := aps }.reselectAp.applyActiveAp

/-! ## The link report -/

/-- A number after a label, as `sscanf(p, "label %d", &value)` reads it. -/
def scanLabel (label : Text) (buf : Text) : Option (Option Int) :=
  (strstr buf label).map fun found => scanInt (found.drop label.length)

/-- The in-use row of a terse listing: its signal, frequency and name. -/
def parseLinkRow (line : Text) : Option (Text × Text × Option Text) :=
  match splitFields 4 line with
  | mark :: signal :: freq :: rest =>
      if mark.head? = some 42 ∨ mark = txt "yes" ∨ mark = txt "Yes" then
        some (signal, freq, rest.head?)
      else none
  | _ => none

/-- What the in-use row of a terse listing sets. -/
def applyLinkRow (row : Text × Text × Option Text) (h : Hud) : Hud :=
  let (signal, freq, name) := row
  let h := if 0 ≤ h.wifi.signalDbm ∧ 0 < atoi signal then
      { h with wifi.signal := clampi (atoi signal) 0 100 } else h
  let h := if freq ≠ [] ∧ freq ≠ txt "--" then { h with wifi.freq := .print 32 freq } else h
  match name with
  | some name => if name ≠ [] ∧ name ≠ txt "--" then h.applyWifiSsid (unescape name) else h
  | none => h

/-- A row shows its level and its frequency, and then it brings its name. -/
theorem applyLinkRow_eq (signal freq : Text) (name : Option Text) (h : Hud) :
    ∃ level shown g, g = { h with wifi.signal := level, wifi.freq := shown } ∧
      h.applyLinkRow (signal, freq, name) =
        match name with
        | some name => if name ≠ [] ∧ name ≠ txt "--" then g.applyWifiSsid (unescape name) else g
        | none => g := by
  refine ⟨if 0 ≤ h.wifi.signalDbm ∧ 0 < atoi signal then clampi (atoi signal) 0 100
      else h.wifi.signal, if freq ≠ [] ∧ freq ≠ txt "--" then .print 32 freq else h.wifi.freq,
    _, rfl, ?_⟩
  unfold applyLinkRow
  simp only
  split_ifs <;> rfl

/-- Show a frequency. -/
def applyFreq (mhz : Option Int) (h : Hud) : Hud :=
  match mhz with
  | some mhz => if 0 < mhz then { h with wifi.freq := .print 32 (decimal mhz) } else h
  | none => h

/-- The name of an `iw` report. -/
def linkName (buf : Text) (h : Hud) : Hud :=
  match strstr buf (txt "SSID:") with
  | some found => h.applyWifiSsid (found.drop 5)
  | none => h

/-- The signal of an `iw` report. -/
def linkSignal (buf : Text) (h : Hud) : Hud :=
  match scanLabel (txt "signal avg:") buf with
  | some (some dbm) => h.applySignalDbm dbm
  | some none => h
  | none => match scanLabel (txt "signal:") buf with
    | some (some dbm) => h.applySignalDbm dbm
    | _ => h

/-- The frequency of an `iw` report. -/
def linkFreq (buf : Text) (h : Hud) : Hud :=
  match scanLabel (txt "\tfreq:") buf with
  | some mhz => h.applyFreq mhz
  | none => match scanLabel (txt "freq:") buf with
    | some mhz => h.applyFreq mhz
    | none => h

/-- The in-use row of a terse listing. -/
def linkRow (buf : Text) (h : Hud) : Hud :=
  match (lines buf).findSome? parseLinkRow with
  | some row => h.applyLinkRow row
  | none => h

/-- `parse_link` -/
def parseLink (buf : Text) (h : Hud) : Hud :=
  (((h.linkName buf).linkSignal buf).linkFreq buf).linkRow buf

end Hud

end Ginkgo
