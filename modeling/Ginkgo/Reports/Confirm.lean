import Ginkgo.Hud.Poll
import Ginkgo.Reports.DeviceList
import Ginkgo.Reports.LinkReport

/-!
# Confirming a join

A join waits until the reports say that the radio is connected to the joined network.
They do unless the device list is not understood, the name has a carriage return, or the
network was live under a longer name of the same family: a report of the shorter name is
then dropped, although it is the name that is being joined
(`Ginkgo.Hud.join_confirmed_iff`, `Ginkgo.Hud.join_unconfirmed`).
-/

namespace Ginkgo

open CText

/-- The name of a network that can be joined and reported. -/
structure JoinedName where
  text : Text
  nonempty : text ≠ []
  short : text.length ≤ 32
  line : newline ∉ text
  head : ∀ c ∈ text.head?, c ≠ space ∧ c ≠ tab
  shown : text ≠ txt "--"
  plain : ¬txt "gemini-" <+: text

/-- A report about the live network. -/
inductive LinkReport where
  | iw (link : IwLink)
  | nmcli (list : LinkList)

/-- The report when the live network is called `name`. -/
def LinkReport.text (report : LinkReport) (name : JoinedName) : Text :=
  match report with
  | .iw link => link.text name.text
  | .nmcli list => list.text name.text name.line

/-- What `apply_wifi_ssid` makes of the name in either report. -/
theorem LinkReport.parseLink_text (report : LinkReport) (name : JoinedName) (h : Hud) :
    ∃ s, Hud.SameLive (h.applyWifiSsid s) (h.parseLink (report.text name)) ∧
      (skipBlanks s ≠ [] ∧ skipBlanks s ≠ txt "--") ∧
      reportedSsid (skipBlanks s) = cutAt carriageReturn name.text := by
  have short : name.text.length < 96 := by
    have := name.short
    omega
  cases report with
  | iw link =>
      obtain ⟨c, rest, same⟩ := List.exists_cons_of_ne_nil name.nonempty
      have whole : skipBlanks (name.text ++ newline :: link.tail) =
          name.text ++ newline :: link.tail := by
        refine skipBlanks_of_head fun d first => name.head d ?_
        rw [same] at first ⊢
        exact first
      refine ⟨_, link.parseLink_text name.line h, ?_, ?_⟩
      · rw [whole]
        exact line_shown name.text link.tail
      · rw [whole, reportedSsid_line name.line short, stripGemini, if_neg name.plain]
  | nmcli list =>
      have whole := skipBlanks_of_head name.head
      refine ⟨_, list.parseLink_text name.line name.nonempty name.shown h, ?_, ?_⟩
      · rw [whole]
        exact ⟨name.nonempty, name.shown⟩
      · rw [whole, reportedSsid_whole name.line short name.plain]

/-! ## The live name -/

/-- What a sibling is. -/
theorem isSibling_iff {first second : Text} :
    isSibling first second = true ↔ first.length < second.length ∧ first <+: second ∧
      (second[first.length]? = some dash ∨ second[first.length]? = some underscore) := by
  simp [isSibling]

/-- No name is its own sibling. -/
theorem not_isSibling_self (s : Text) : isSibling s s = false := by
  rw [← Bool.not_eq_true, isSibling_iff]
  exact fun sibling => absurd sibling.1 (lt_irrefl _)

/-- A name cut at another byte than a dash or an underscore is no sibling of the whole one. -/
theorem cutAt_not_sibling {c : UInt8} (other : c ≠ dash ∧ c ≠ underscore) (s : Text) :
    isSibling (cutAt c s) s = false ∧ isSibling s (cutAt c s) = false := by
  by_cases inside : c ∈ s
  · obtain ⟨front, back, rfl, absent⟩ := List.eq_append_cons_of_mem inside
    rw [cutAt_append absent]
    constructor
    · rw [← Bool.not_eq_true, isSibling_iff]
      rintro ⟨-, -, next⟩
      simp [other] at next
    · rw [← Bool.not_eq_true, isSibling_iff]
      rintro ⟨longer, -⟩
      simp only [List.length_append, List.length_cons] at longer
      omega
  · rw [cutAt_of_notMem inside]
    exact ⟨not_isSibling_self s, not_isSibling_self s⟩

namespace Hud

/-- A reported name changes neither the connection nor a join. -/
theorem applyWifiSsid_untouched (h : Hud) (s : Text) :
    (h.applyWifiSsid s).wifi.connected = h.wifi.connected ∧ (h.applyWifiSsid s).join = h.join ∧
      (h.applyWifiSsid s).bufs = h.bufs := by
  obtain ⟨hold, ssid, same, -⟩ := h.applyWifiSsid_writes s
  rw [same]
  exact ⟨rfl, rfl, rfl⟩

/-- A report of the joined name, cut at a carriage return, is dropped only in favour of a
longer live name. -/
theorem applyWifiSsid_joined (h : Hud) {name : Text} (joined : h.bufs.connectSsid.text = name)
    (free : h.forget.forgetSsid.text = []) {s : Text}
    (reported : skipBlanks s ≠ [] ∧ skipBlanks s ≠ txt "--")
    (same : reportedSsid (skipBlanks s) = cutAt carriageReturn name) :
    (h.applyWifiSsid s).wifi.ssid =
      if isSibling (cutAt carriageReturn name) h.wifi.ssid.text then h.wifi.ssid
      else .print 96 (cutAt carriageReturn name) := by
  obtain ⟨shorter, longer⟩ := cutAt_not_sibling (c := carriageReturn) (by decide) name
  have held : gwSsidEq [] (cutAt carriageReturn name) = false := by
    rw [← Bool.not_eq_true, gwSsidEq_iff]
    exact fun both => both.1 rfl
  unfold applyWifiSsid
  simp only [reported, same, joined, free, shorter, longer, held, or_self, and_false, if_false,
    ne_eq, not_true_eq_false, false_and, Bool.false_eq_true]
  split <;> rfl

/-- **When the joined name is live after a report of it.** -/
theorem applyWifiSsid_joined_iff (h : Hud) (name : JoinedName)
    (joined : h.bufs.connectSsid.text = name.text) (free : h.forget.forgetSsid.text = [])
    {s : Text} (reported : skipBlanks s ≠ [] ∧ skipBlanks s ≠ txt "--")
    (same : reportedSsid (skipBlanks s) = cutAt carriageReturn name.text) :
    (h.applyWifiSsid s).wifi.ssid.text = name.text ↔
      carriageReturn ∉ name.text ∧ isSibling name.text h.wifi.ssid.text = false := by
  rw [h.applyWifiSsid_joined joined free reported same]
  have short : (cutAt carriageReturn name.text).length < 96 := by
    have prefixed : (cutAt carriageReturn name.text).length ≤ name.text.length :=
      (List.takeWhile_prefix _).length_le
    have := name.short
    omega
  by_cases returns : carriageReturn ∈ name.text
  · have cut : cutAt carriageReturn name.text ≠ name.text := by
      intro whole
      rw [← whole] at returns
      exact notMem_cutAt _ _ returns
    split
    · next dropped =>
        have other : h.wifi.ssid.text ≠ name.text := by
          intro live
          rw [live, (cutAt_not_sibling (by decide) name.text).1] at dropped
          cases dropped
        simp [returns, other]
    · rw [Buf.print_of_lt short]
      simp [returns, cut]
  · rw [cutAt_of_notMem returns] at short ⊢
    split
    · next dropped =>
        have other : h.wifi.ssid.text ≠ name.text := by
          intro live
          rw [live, not_isSibling_self] at dropped
          cases dropped
        simp [dropped, other]
    · next kept =>
        rw [Buf.print_of_lt short]
        simp [returns, kept]

/-! ## The confirmation -/

/-- A join that is confirmed is over and has not failed. -/
theorem joinConfirmed_join (h : Hud) :
    h.joinConfirmed.join =
      { h.join with joinWaitLive := false, connecting := false, connectFail := false } := by
  unfold joinConfirmed markApActive
  simp only
  split <;> rfl

/-- A join whose time is over has failed. -/
theorem joinTimedOut_connectFail (h : Hud) : h.joinTimedOut.join.connectFail = true := by
  unfold joinTimedOut
  simp only
  generalize (if (h.joinOver true).join.lastFailKind = .unknown then FailKind.timeout
    else (h.joinOver true).join.lastFailKind) = kind
  generalize (if gwJoinFellBack _ _ _ then _ else _) = fellBack
  obtain ⟨line, told⟩ := fillFailStatus_line
    { h.joinOver true with join.lastFailKind := kind } kind fellBack
  rw [told]
  split <;> rfl

/-- While a join waits, the success branch is taken exactly when the joined network is
live. -/
theorem maybeConfirmJoin_eq_joinConfirmed_iff (h : Hud) (now : Nat)
    (waits : h.join.joinWaitLive = true) (joined : h.bufs.connectSsid.text ≠ []) :
    h.maybeConfirmJoin now = h.joinConfirmed ↔
      h.wifi.connected = true ∧ h.wifi.ssid.text = h.bufs.connectSsid.text := by
  have live : gwJoinConfirmOk h.wifi.connected h.wifi.ssid.text h.bufs.connectSsid.text = true ↔
      h.wifi.connected = true ∧ h.wifi.ssid.text = h.bufs.connectSsid.text := by
    rw [gwJoinConfirmOk, gwAlreadyOn, Bool.and_eq_true, gwSsidEq_iff]
    constructor
    · rintro ⟨connected, -, same⟩
      exact ⟨connected, same⟩
    · rintro ⟨connected, same⟩
      exact ⟨connected, same ▸ joined, same⟩
  rw [← live]
  unfold maybeConfirmJoin
  rw [if_neg (by simp [waits, joined])]
  simp only
  split_ifs with ok kept
  · exact ⟨fun _ => ok, fun _ => rfl⟩
  · refine ⟨fun same => ?_, fun yes => absurd yes ok⟩
    have settled : h.join.joinWaitLive = false := by
      rw [same, joinConfirmed_join]
    rw [waits] at settled
    cases settled
  · refine ⟨fun same => ?_, fun yes => absurd yes ok⟩
    have failed := h.joinTimedOut_connectFail
    rw [same, joinConfirmed_join] at failed
    cases failed

/-- The state after a device list and a link report. -/
def reported (h : Hud) (seen : Nat) (devices : DeviceList) (report : LinkReport)
    (name : JoinedName) : Hud :=
  (h.parseInfo seen devices.text).parseLink (report.text name)

/-- **When a successful join is confirmed.** The reports say that the radio is connected to
the joined network, and the next `maybe_confirm_join` takes its success branch exactly when
the radio counts as connected, the name has no carriage return, and the name that was live
before is not the joined one continued by a dash or an underscore. -/
theorem join_confirmed_iff (h : Hud) (name : JoinedName) (waits : h.join.joinWaitLive = true)
    (joined : h.bufs.connectSsid.text = name.text) (free : h.forget.forgetSsid.text = [])
    (devices : DeviceList) (report : LinkReport) (seen now : Nat) :
    (h.reported seen devices report name).maybeConfirmJoin now =
        (h.reported seen devices report name).joinConfirmed ↔
      (h.wifi.connected = true ∨ infoError devices.text = false ∧ ¬devices.IsPeer) ∧
        carriageReturn ∉ name.text ∧ isSibling name.text h.wifi.ssid.text = false := by
  obtain ⟨ssid, forget, join, bufs⟩ := h.parseInfo_frame seen devices.text free
  rw [← h.parseInfo_connected_iff seen devices free, ← ssid]
  unfold reported
  generalize h.parseInfo seen devices.text = g at *
  obtain ⟨s, same, nonempty, taken⟩ := report.parseLink_text name g
  obtain ⟨connected', join', bufs'⟩ := g.applyWifiSsid_untouched s
  have waiting : (g.parseLink (report.text name)).join.joinWaitLive = true := by
    rw [same.join, join', join, waits]
  have target : (g.parseLink (report.text name)).bufs.connectSsid.text = name.text := by
    rw [same.bufs, bufs', bufs, joined]
  rw [maybeConfirmJoin_eq_joinConfirmed_iff _ now waiting (target ▸ name.nonempty), target,
    same.connected, connected', same.ssid,
    g.applyWifiSsid_joined_iff name (bufs ▸ joined) (forget ▸ free) nonempty taken]

/-- The name of a network of two frequency bands on the lower one. -/
def homeName : JoinedName where
  text := txt "Home"
  nonempty := by decide +kernel
  short := by decide +kernel
  line := by decide +kernel
  head := by decide +kernel
  shown := by decide +kernel
  plain := by decide +kernel

/-- The name of the interface is printed as it is. -/
theorem wlan_plain : ∀ c ∈ txt "wlan0", c ≠ colon ∧ c ≠ backslash ∧ c ≠ newline := by
  decide +kernel

/-- The device list while the radio is connected. -/
def wlanDevices : DeviceList where
  before := []
  device := txt "wlan0"
  connection := txt "Home"
  after := []
  devicePlain := wlan_plain
  connectionLine := by decide +kernel

/-- A report of `iw` about the live network. -/
def wlanLink : IwLink where
  peer := txt "02:00:00:00:00:01 (on wlan0)"
  rest := [txt "freq: 2412"]
  peerLine := by decide +kernel
  peerPlain := by rw [← has_iff_isInfix]; decide
  restLine := by decide +kernel

/-- A join to that network waits while another name is live. -/
def waitingHud (live : String) : Hud where
  ui := { W := 1080, H := 2340 }
  wifi := { connected := true, ssid := .print 96 (txt live) }
  join := { connecting := true, joinWaitLive := true }
  bufs := { connectSsid := .print 96 (txt "Home") }

/-- The join of Home is confirmed when Cafe has been shown before. -/
theorem join_confirmed_iff_cafe :
    ((waitingHud "Cafe").reported 1 wlanDevices (.iw wlanLink) homeName).maybeConfirmJoin 2 =
      ((waitingHud "Cafe").reported 1 wlanDevices (.iw wlanLink) homeName).joinConfirmed :=
  (join_confirmed_iff (waitingHud "Cafe") homeName rfl (by decide) rfl wlanDevices
    (.iw wlanLink) 1 2).mpr (by decide)

/-- The join from the higher band to the lower one is never confirmed. -/
theorem join_unconfirmed :
    ¬∀ (h : Hud) (name : JoinedName), h.join.joinWaitLive = true →
      h.bufs.connectSsid.text = name.text → h.forget.forgetSsid.text = [] →
      ∀ (devices : DeviceList) (report : LinkReport) (seen now : Nat),
        (h.reported seen devices report name).maybeConfirmJoin now =
          (h.reported seen devices report name).joinConfirmed := by
  intro always
  have confirmed := always (waitingHud "Home-5G") homeName rfl (by decide) rfl wlanDevices
    (.iw wlanLink) 1 2
  have settled := congrArg (fun h : Hud => h.join.joinWaitLive) confirmed
  have waits : ¬((waitingHud "Home-5G").reported 1 wlanDevices (.iw wlanLink) homeName
        |>.maybeConfirmJoin 2).join.joinWaitLive =
      ((waitingHud "Home-5G").reported 1 wlanDevices (.iw wlanLink) homeName
        |>.joinConfirmed).join.joinWaitLive := by
    decide +kernel
  exact waits settled

end Hud

end Ginkgo
