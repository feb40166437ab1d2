import Ginkgo.Hud.State

/-!
# The selected network

Rows of the scan list are found again by name, and the first row of that name is
taken. `Ginkgo.Hud.syncSelectedAp` therefore keeps the selected name but may replace
the row's other data.
-/

namespace Ginkgo

open CText

/-- `wifi_sec_enterprise`. -/
def wifiSecEnterprise (sec : Text) : Bool :=
  has sec (txt "802.1") || has sec (txt "EAP") || has sec (txt "Enterprise") ||
    has sec (txt "enterprise")

/-- The index of the first row with a nonempty name. -/
def findApIn (aps : List Ap) (ssid : Text) : Option Nat :=
  if ssid = [] then none else aps.findIdx? fun ap => ap.ssid.text = ssid

namespace Hud

/-- `mark_ap_active` -/
def markApActive (h : Hud) (ssid : Text) : Hud :=
  if ssid = [] then h
  else { h with scan.aps := h.scan.aps.map fun ap => { ap with active := ap.ssid.text = ssid } }

/-- `mark_ap_inactive` -/
def markApInactive (h : Hud) (ssid : Text) : Hud :=
  { h with
    scan.aps := h.scan.aps.map fun ap =>
      if ssid = [] ∨ ap.ssid.text = ssid then { ap with active := false } else ap
    scan.selectedActive :=
      if ssid = [] ∨ gwSsidEq h.scan.selectedSsid.text ssid then false
      else h.scan.selectedActive }

/-- Forget everything shown about the live network. -/
def clearLive (h : Hud) : Hud :=
  { h with
    wifi.connected := false
    wifi.busy := false
    wifi.ssid := .empty 96
    wifi.ip := .empty 64
    wifi.gw := .empty 64
    tAssoc := 0 }

/-- `find_ap` -/
def findAp (h : Hud) (ssid : Text) : Option Nat := findApIn h.scan.aps ssid

/-- Copy a row to the selection. -/
def selectApIdx (h : Hud) (i : Nat) : Hud :=
  match h.scan.aps[i]? with
  | none => h
  | some ap =>
      { h with
        scan.hoverAp := some i
        scan.selectedAp := some i
        scan.selectedSsid := .print 96 ap.ssid.text
        scan.selectedSec := .print 40 ap.security.text
        scan.selectedFreq := .print 24 ap.freq.text
        scan.selectedSignal := ap.signal
        scan.selectedSecure := ap.secure
        scan.selectedActive := ap.active }

/-- `sync_selected_ap` -/
def syncSelectedAp (h : Hud) : Hud :=
  match h.findAp h.scan.selectedSsid.text with
  | some i => h.selectApIdx i
  | none => h

/-- `ap_is_current` -/
def apIsCurrent (h : Hud) (ssid : Text) : Bool :=
  if gwSsidEq h.forget.forgetSsid.text ssid then false
  else if gwAlreadyOn h.wifi.connected h.wifi.ssid.text ssid then true
  else if ssid = [] ∨ h.wifi.connected = false then false
  else match h.findAp ssid with
    | some i => (h.scan.aps[i]?.map fun ap => ap.active).getD false
    | none => false

/-- `picked_ssid` -/
def pickedSsid (h : Hud) : Text :=
  if h.join.connecting ∧ h.bufs.connectSsid.text ≠ [] then h.bufs.connectSsid.text
  else if h.scan.selectedSsid.text ≠ [] then h.scan.selectedSsid.text
  else match h.scan.selectedAp with
    | some i => (h.scan.aps[i]?.map fun ap => ap.ssid.text).getD []
    | none => []

/-- The array that holds the security of the picked network. -/
def pickedSec (h : Hud) : Arg :=
  match h.findAp h.pickedSsid with
  | some i => .apSecurity i
  | none => if h.scan.selectedSec.text ≠ [] then .var .selectedSec else .lit []

/-- The array that holds the name the password sheet belongs to. -/
def gwPassSsid (h : Hud) : Arg :=
  if h.bufs.connectSsid.text ≠ [] then .var .connectSsid
  else if h.scan.selectedSsid.text ≠ [] then .var .selectedSsid
  else .lit []

/-- The message for a failed join; `fellBack` is the network the radio is back on. -/
def fillFailStatus (h : Hud) (kind : FailKind) (fellBack : Text) : Hud :=
  let why := match kind with
    | .wrongPw => h.T "密码不对，请再试一次" "Wrong password, try again"
    | .needPw => h.T "需要密码" "Password required"
    | .notFound => h.T "找不到这个网络" "Network not found"
    | .timeout => h.T "连接超时" "Connection timed out"
    | .noDevice => h.T "网卡不匹配" "Wi-Fi device mismatch"
    | .dhcp => h.T "没拿到地址" "No IP address"
    | .unknown => h.T "未能加入此网络" "Could not join this network"
  if fellBack ≠ [] then
    h.setStatus (why ++ txt " · " ++ h.T "已回到" "back on" ++ txt " " ++ fellBack)
  else h.setStatus why

/-- `set_connect_status` -/
def setConnectStatus (h : Hud) (raw : Text) : Hud :=
  if has raw (txt "企业") then
    h.setStatus (h.T "暂不支持企业级网络" "Enterprise Wi-Fi is not supported")
  else h.fillFailStatus (gwClassifyFail raw) []

/-- A message is all that is written. -/
theorem fillFailStatus_line (h : Hud) (kind : FailKind) (fellBack : Text) :
    ∃ line, h.fillFailStatus kind fellBack = h.setStatus line := by
  unfold fillFailStatus
  simp only
  split
  · exact ⟨_, rfl⟩
  · exact ⟨_, rfl⟩

/-- The text of a join is a line of status. -/
theorem setConnectStatus_line (h : Hud) (raw : Text) :
    ∃ line, h.setConnectStatus raw = h.setStatus line := by
  unfold setConnectStatus
  split
  · exact ⟨_, rfl⟩
  · exact h.fillFailStatus_line _ _

end Hud

/-! ## Finding a row -/

/-- The row of a name is the first one with it. -/
theorem findApIn_eq_some_iff {aps : List Ap} {ssid : Text} {i : Nat} :
    findApIn aps ssid = some i ↔
      ssid ≠ [] ∧ ∃ inside : i < aps.length, aps[i].ssid.text = ssid ∧
        ∀ j (earlier : j < i), aps[j].ssid.text ≠ ssid := by
  unfold findApIn
  by_cases empty : ssid = []
  · simp [empty]
  · simp [empty, List.findIdx?_eq_some_iff_getElem]

namespace Hud

/-- Selecting the row found by the selected name keeps the name. -/
theorem syncSelectedAp_selectedSsid (h : Hud) :
    h.syncSelectedAp.scan.selectedSsid = h.scan.selectedSsid := by
  unfold syncSelectedAp
  cases found : h.findAp h.scan.selectedSsid.text with
  | none => rfl
  | some i =>
      obtain ⟨-, inside, same, -⟩ := findApIn_eq_some_iff.mp found
      simp only [selectApIdx, List.getElem?_eq_getElem inside, same, Buf.print_text]

/-- Selecting a row changes the selection and the highlighted row only. -/
theorem selectApIdx_frame (h : Hud) (i : Nat) :
    ∃ scan : Scan, h.selectApIdx i = { h with scan := scan } ∧ scan.aps = h.scan.aps := by
  unfold selectApIdx
  cases h.scan.aps[i]? with
  | none => exact ⟨h.scan, rfl, rfl⟩
  | some ap => exact ⟨_, rfl, rfl⟩

/-- Following the selected row changes the scan data only. -/
theorem syncSelectedAp_frame (h : Hud) :
    ∃ scan : Scan, h.syncSelectedAp = { h with scan := scan } ∧ scan.aps = h.scan.aps ∧
      scan.selectedSsid = h.scan.selectedSsid := by
  have named := syncSelectedAp_selectedSsid h
  unfold syncSelectedAp at named ⊢
  cases found : h.findAp h.scan.selectedSsid.text with
  | none => exact ⟨h.scan, rfl, rfl, rfl⟩
  | some i =>
      obtain ⟨scan, same, rows⟩ := selectApIdx_frame h i
      simp only [found] at named
      refine ⟨scan, same, rows, ?_⟩
      rw [same] at named
      exact named

end Hud

end Ginkgo
