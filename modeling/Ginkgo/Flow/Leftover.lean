import Ginkgo.Reports.Confirm
import Ginkgo.Reports.ScanList
import Ginkgo.Flow.Concealed

/-!
# What an old join leaves behind

`apply_wifi_ssid` sets a reported name aside when it belongs to the family of `connect_ssid`. The
name of a join outlives the join, and the filter does not ask whether one is in progress.
`Ginkgo.LiveName.hear` is what a name does on its own; a report does what the names in it do that
the old name lets through (`Ginkgo.Hud.read_liveName`), and it brings two names at most
(`Ginkgo.Hud.length_names`). `Ginkgo.LiveName.Alike` says when two old names make no difference to
them, by which names the two set aside and what those that they treat differently would change
(`Ginkgo.Hud.leftover_ignored_iff`).
-/

namespace Ginkgo

open CText

/-- The text that `parse_link` or `parse_scan` is given, or the rows that `apply_active_ap` looks
through. -/
inductive NameReport where
  | link (out : Text)
  | scan (out : Text)
  | signal

/-- The live name and the name that is held after a forget. -/
structure LiveName where
  ssid : Text
  hold : Text
  deriving DecidableEq

/-- A join of the one name sets the other aside. -/
def setAsideBy (joined name : Text) : Bool :=
  joined ≠ [] ∧ name ≠ joined ∧ (isSibling name joined ∨ isSibling joined name)

/-- The name in a report, if there is one. -/
def reportedName (s : Text) : Option Text :=
  if skipBlanks s = [] ∨ skipBlanks s = txt "--" then none else some (reportedSsid (skipBlanks s))

namespace LiveName

/-- **What a reported name does** when no join sets it aside. -/
def hear (live : LiveName) (name : Text) : LiveName :=
  if gwSsidEq live.hold name then live
  else {
    ssid := if isSibling name live.ssid then live.ssid else name
    hold := if live.hold ≠ [] ∧ name ≠ [] then [] else live.hold }

/-- The name is held, or live already, or given up for a longer live one, and nothing else is
held. -/
def Keeps (live : LiveName) (name : Text) : Prop :=
  gwSsidEq live.hold name = true ∨
    (live.hold = [] ∨ name = []) ∧ (isSibling name live.ssid = true ∨ name = live.ssid)

instance (live : LiveName) (name : Text) : Decidable (live.Keeps name) :=
  inferInstanceAs (Decidable (_ ∨ _))

/-- When a name changes nothing. -/
theorem hear_eq_iff {live : LiveName} {name : Text} : live.hear name = live ↔ live.Keeps name := by
  obtain ⟨ssid, hold⟩ := live
  unfold hear Keeps
  by_cases held : gwSsidEq hold name = true
  · simp [held]
  · have shown : (if isSibling name ssid then ssid else name) = ssid ↔
        isSibling name ssid = true ∨ name = ssid := by
      split <;> simp_all
    have released : (if hold ≠ [] ∧ name ≠ [] then [] else hold) = hold ↔
        hold = [] ∨ name = [] := by
      cases hold <;> cases name <;> simp
    simp only [held, Bool.false_eq_true, if_false, mk.injEq, shown, released, false_or]
    exact And.comm

/-- The names that a join lets through, one after the other. -/
def hearAll (live : LiveName) (joined : Text) (names : List Text) : LiveName :=
  (names.filter fun name => !setAsideBy joined name).foldl hear live

/-- The live name stays when the name is reported: it is that name, or a longer one of its
family. -/
def Shows (live : LiveName) (name : Text) : Prop :=
  isSibling name live.ssid = true ∨ name = live.ssid

/-- The second of two names leaves what it would have left without the first: the first changes
nothing, or the second replaces the live name and the hold is lost either way. -/
def Covers (live : LiveName) (label row : Text) : Prop :=
  live.Keeps label ∨
    gwSsidEq live.hold row = false ∧ (live.hold = [] ∨ label = [] ∨ row ≠ []) ∧
      (live.Shows label ∨ isSibling row label = false ∧ isSibling row live.ssid = false)

/-- Two names together change nothing: neither does, or the second brings the live name back. -/
def Returns (live : LiveName) (label row : Text) : Prop :=
  live.Keeps label ∧ live.Keeps row ∨
    (live.hold = [] ∨ label = [] ∧ row = []) ∧ row = live.ssid ∧ isSibling row label = false

/-- Two names do the same: they are one, or neither changes anything, or both end the hold and
leave the live name. -/
def Agrees (live : LiveName) (label row : Text) : Prop :=
  label = row ∨ live.Keeps label ∧ live.Keeps row ∨
    (live.Shows label ∧ live.Shows row) ∧ (label ≠ [] ∧ row ≠ []) ∧
      gwSsidEq live.hold label = false ∧ gwSsidEq live.hold row = false

/-- A name that is not held ends what is held, and is shown unless a longer one of its family
is. -/
theorem hear_of_unheld {live : LiveName} {name : Text} (unheld : gwSsidEq live.hold name = false) :
    live.hear name = ⟨if isSibling name live.ssid then live.ssid else name,
      if live.hold ≠ [] ∧ name ≠ [] then [] else live.hold⟩ := by
  unfold hear
  rw [unheld, if_neg Bool.false_ne_true]

/-- When two names together leave what they have found. -/
theorem hear_hear_iff_returns {live : LiveName} {label row : Text} :
    (live.hear label).hear row = live ↔ live.Returns label row := by
  obtain ⟨ssid, hold⟩ := live
  have self := not_isSibling_self ssid
  by_cases held : gwSsidEq hold label = true
  · have same : hear ⟨ssid, hold⟩ label = ⟨ssid, hold⟩ := if_pos held
    rw [same, hear_eq_iff]
    grind [Returns, Keeps, gwSsidEq]
  · have heard : hear ⟨ssid, hold⟩ label = _ := hear_of_unheld (Bool.eq_false_iff.mpr held)
    rw [heard]
    grind [Returns, Keeps, gwSsidEq, hear]

/-- When the first of two names makes no difference. -/
theorem hear_hear_iff_covers {live : LiveName} {label row : Text} :
    (live.hear label).hear row = live.hear row ↔ live.Covers label row := by
  obtain ⟨ssid, hold⟩ := live
  have self := not_isSibling_self ssid
  have selfLabel := not_isSibling_self label
  by_cases held : gwSsidEq hold label = true
  · have same : hear ⟨ssid, hold⟩ label = ⟨ssid, hold⟩ := if_pos held
    rw [same]
    exact iff_of_true rfl (.inl (.inl held))
  · have heard : hear ⟨ssid, hold⟩ label = _ := hear_of_unheld (Bool.eq_false_iff.mpr held)
    rw [heard]
    grind [Covers, Keeps, Shows, gwSsidEq, hear]

/-- When either of two names may be reported instead of the other. -/
theorem hear_iff_agrees {live : LiveName} {label row : Text} :
    live.hear label = live.hear row ↔ live.Agrees label row := by
  obtain ⟨ssid, hold⟩ := live
  by_cases held : gwSsidEq hold label = true
  · have same : hear ⟨ssid, hold⟩ label = ⟨ssid, hold⟩ := if_pos held
    rw [same, eq_comm, hear_eq_iff]
    grind [Agrees, Keeps, gwSsidEq]
  · have heard : hear ⟨ssid, hold⟩ label = _ := hear_of_unheld (Bool.eq_false_iff.mpr held)
    rw [heard]
    grind [Agrees, Keeps, Shows, gwSsidEq, hear]

/-- **Two old names make no difference to the names of a report**, by what they set aside. A
single name has to change nothing unless both old names treat it alike. Of two, the first and
the second may each be one that the old names treat differently. -/
def Alike (live : LiveName) (first second : Text) : List Text → Prop
  | [] => True
  | [name] => setAsideBy first name = setAsideBy second name ∨ live.Keeps name
  | [label, row] =>
      if setAsideBy first label = setAsideBy second label then
        setAsideBy first row = setAsideBy second row ∨
          (if setAsideBy first label then live else live.hear label).Keeps row
      else if setAsideBy first row = setAsideBy second row then
        if setAsideBy first row then live.Keeps label else live.Covers label row
      -- Both are treated differently: one old name lets the two through and the other neither,
      -- or each of them one.
      else if setAsideBy first label = setAsideBy first row then live.Returns label row
      else live.Agrees label row
  | _ => False

/-- `Alike` is what it says: the names that the two let through leave the same. -/
theorem alike_iff {live : LiveName} {first second : Text} {names : List Text}
    (few : names.length ≤ 2) :
    live.Alike first second names ↔ live.hearAll first names = live.hearAll second names := by
  match names with
  | [] => exact iff_of_true trivial rfl
  | [name] =>
      change _ ∨ live.Keeps name ↔ _
      rw [← hear_eq_iff]
      unfold hearAll
      cases ofFirst : setAsideBy first name <;> cases ofSecond : setAsideBy second name
      · simp [ofFirst, ofSecond]
      · simp [ofFirst, ofSecond]
      · simp [ofFirst, ofSecond, eq_comm]
      · simp [ofFirst, ofSecond]
  | [label, row] =>
      change (if _ then _ else _) ↔ _
      unfold hearAll
      cases ofLabel : setAsideBy first label <;> cases ofLabel' : setAsideBy second label <;>
        cases ofRow : setAsideBy first row <;> cases ofRow' : setAsideBy second row <;>
        simp [ofLabel, ofLabel', ofRow, ofRow', ← hear_eq_iff, ← hear_hear_iff_covers,
          ← hear_hear_iff_returns, ← hear_iff_agrees, eq_comm]
  | _ :: _ :: _ :: _ => exact absurd few (by simp)

end LiveName

namespace Hud

/-- The live name and the hold, in a state of the HUD. -/
def liveName (h : Hud) : LiveName := ⟨h.wifi.ssid.text, h.forget.forgetSsid.text⟩

/-- The state with another old name. -/
def withJoined (h : Hud) (joined : Buf 96) : Hud := { h with bufs.connectSsid := joined }

/-- A report is read. -/
def read (report : NameReport) (h : Hud) : Hud :=
  match report with
  | .link out => h.parseLink out
  | .scan out => h.parseScan out
  | .signal => h.applyActiveAp

/-! ## The names in a report -/

/-- The names in a link report: the one of `iw` and the one of the row in use. -/
def linkNames (out : Text) : List Text :=
  let ofIw := (strstr out (txt "SSID:")).map fun found => found.drop 5
  let ofRow := (((lines out).findSome? parseLinkRow).bind fun row => row.2.2).filter fun name =>
    name ≠ [] ∧ name ≠ txt "--"
  (ofIw.toList ++ (ofRow.map unescape).toList).filterMap reportedName

/-- The name of the row that is in use, if any. -/
def currentNames (live : LiveName) (aps : List Ap) : List Text :=
  let current (ap : Ap) : Bool :=
    (ap.active || (live.ssid ≠ [] ∧ ap.ssid.text = live.ssid)) && !gwSsidEq live.hold ap.ssid.text
  (((aps.find? current).map fun ap => ap.ssid.text).toList).filterMap reportedName

/-- The rows that `parse_scan` stores. -/
def scanRows (hold out : Text) : List Ap :=
  ((lines (if scanError out then cutAt newline out else out)).filterMap (parseScanRow hold)).take maxAp

/-- The names in a report. -/
def names (report : NameReport) (h : Hud) : List Text :=
  match report with
  | .link out => linkNames out
  | .scan out => currentNames h.liveName (scanRows h.forget.forgetSsid.text out)
  | .signal => currentNames h.liveName h.scan.aps

/-- One row at most is current. -/
theorem length_currentNames (live : LiveName) (aps : List Ap) :
    (currentNames live aps).length ≤ 1 := by
  unfold currentNames
  exact (List.length_filterMap_le _ _).trans (by cases aps.find? _ <;> simp)

/-- A report brings two names at most, and two only when a text has both a label and a row. -/
theorem length_names (report : NameReport) (h : Hud) : (h.names report).length ≤ 2 := by
  cases report with
  | link out =>
      refine (List.length_filterMap_le _ _).trans ?_
      rw [List.length_append]
      exact Nat.add_le_add Option.length_toList_le Option.length_toList_le
  | scan out => exact (length_currentNames _ _).trans (Nat.le_succ 1)
  | signal => exact (length_currentNames _ _).trans (Nat.le_succ 1)

/-! ## What a report does -/

/-- A reported name fits its array. -/
theorem reportedSsid_length (s : Text) : (reportedSsid s).length < 96 := by
  unfold reportedSsid cutAt
  simp only
  generalize Buf.print 96 _ = printed
  have first := (List.takeWhile_prefix (fun c => decide (c ≠ newline)) (l := printed.text)).length_le
  have second := (List.takeWhile_prefix (fun c => decide (c ≠ carriageReturn))
    (l := printed.text.takeWhile fun c => decide (c ≠ newline))).length_le
  have fits := printed.fits
  omega

/-- A reported name that the old join lets through is heard. -/
theorem applyWifiSsid_liveName (h : Hud) (s : Text) :
    (h.applyWifiSsid s).liveName =
      h.liveName.hearAll h.bufs.connectSsid.text (reportedName s).toList := by
  unfold applyWifiSsid reportedName
  by_cases blank : skipBlanks s = [] ∨ skipBlanks s = txt "--"
  · simp only [if_pos blank]
    rfl
  · simp only [if_neg blank]
    have short := reportedSsid_length (skipBlanks s)
    generalize reportedSsid (skipBlanks s) = name at short ⊢
    have stored : (Buf.print 96 name).text = name := Buf.print_of_lt short
    unfold LiveName.hearAll
    by_cases aside : setAsideBy h.bufs.connectSsid.text name = true
    · have filtered : h.bufs.connectSsid.text ≠ [] ∧ name ≠ h.bufs.connectSsid.text ∧
          (isSibling name h.bufs.connectSsid.text ∨ isSibling h.bufs.connectSsid.text name) := by
        simpa [setAsideBy] using aside
      rw [if_pos filtered]
      simp [aside]
    · have through : ¬(h.bufs.connectSsid.text ≠ [] ∧ name ≠ h.bufs.connectSsid.text ∧
          (isSibling name h.bufs.connectSsid.text ∨ isSibling h.bufs.connectSsid.text name)) := by
        simpa [setAsideBy] using aside
      rw [if_neg through]
      simp only [aside, Option.toList_some, List.filter_cons_of_pos, Bool.not_false,
        List.filter_nil, List.foldl_cons, List.foldl_nil, LiveName.hear, liveName]
      split
      · rfl
      · split_ifs <;> simp [stored]

/-- The names have been reported one after the other, and the old name is as before. -/
structure Hears (h h' : Hud) (names : List Text) : Prop where
  live : h'.liveName = h.liveName.hearAll h.bufs.connectSsid.text names
  joined : h'.bufs.connectSsid = h.bufs.connectSsid

/-- What two parts of a report do, one after the other. -/
theorem Hears.trans {h g h' : Hud} {first second : List Text} (one : Hears h g first)
    (two : Hears g h' second) : Hears h h' (first ++ second) where
  live := by
    rw [two.live, one.live, one.joined]
    unfold LiveName.hearAll
    rw [List.filter_append, List.foldl_append]
  joined := two.joined.trans one.joined

/-- A part that leaves the network state alone brings no name. -/
theorem Still.hears {h h' : Hud} (same : Still h h') : Hears h h' [] where
  live := by
    have ssid : h'.wifi.ssid = h.wifi.ssid := congrArg NetView.ssid same
    have forget : h'.forget = h.forget := congrArg NetView.forget same
    unfold liveName
    rw [ssid, forget]
    rfl
  joined := congrArg (fun view : NetView => view.bufs.connectSsid) same

/-- `apply_wifi_ssid` hears the name that it is given. -/
theorem applyWifiSsid_hears (h : Hud) (s : Text) :
    Hears h (h.applyWifiSsid s) ([s].filterMap reportedName) where
  live := by
    rw [applyWifiSsid_liveName]
    cases found : reportedName s <;> simp [found]
  joined := congrArg Bufs.connectSsid (h.applyWifiSsid_untouched s).2.2

/-- The label of a link report is heard. -/
theorem linkName_hears (h : Hud) (out : Text) :
    Hears h (h.linkName out)
      ((((strstr out (txt "SSID:")).map fun found => found.drop 5).toList).filterMap reportedName) := by
  unfold linkName
  cases strstr out (txt "SSID:") with
  | none => exact Still.hears (.refl h)
  | some found => exact h.applyWifiSsid_hears (found.drop 5)

/-- So is the name of the row in use. -/
theorem linkRow_hears (h : Hud) (out : Text) :
    Hears h (h.linkRow out)
      ((((((lines out).findSome? parseLinkRow).bind fun row => row.2.2).filter fun name =>
        name ≠ [] ∧ name ≠ txt "--").map unescape).toList.filterMap reportedName) := by
  unfold linkRow
  cases (lines out).findSome? parseLinkRow with
  | none => exact Still.hears (.refl h)
  | some row =>
      obtain ⟨signal, freq, name⟩ := row
      obtain ⟨level, freq', g, shown, same⟩ := h.applyLinkRow_eq signal freq name
      have first : Still h g := by
        rw [shown]
        rfl
      change Hears h (h.applyLinkRow (signal, freq, name)) _
      rw [same]
      cases name with
      | none => exact first.hears
      | some name =>
          by_cases named : name ≠ [] ∧ name ≠ txt "--"
          · simp only [if_pos named]
            have heard := first.hears.trans (g.applyWifiSsid_hears (unescape name))
            simpa [Option.filter, named] using heard
          · simp only [if_neg named]
            simpa [Option.filter, named] using first.hears

/-- **A link report brings its two names.** -/
theorem parseLink_hears (h : Hud) (out : Text) : Hears h (h.parseLink out) (linkNames out) := by
  have shown := ((h.linkName_hears out).trans ((h.linkName out).linkSignal_still out).hears).trans
    (((h.linkName out).linkSignal out).linkFreq_still out).hears
  rw [List.append_nil, List.append_nil] at shown
  have heard := shown.trans (linkRow_hears _ out)
  unfold linkNames
  rw [List.filterMap_append]
  exact heard

/-- The row in use brings its name. -/
theorem applyActiveAp_hears (h : Hud) :
    Hears h h.applyActiveAp (currentNames h.liveName h.scan.aps) := by
  unfold applyActiveAp currentNames liveName
  simp only
  generalize h.scan.aps.find? _ = current
  cases current with
  | none => exact Still.hears (.refl h)
  | some ap =>
      have heard : Hears h (if ap.ssid.text ≠ [] then h.applyWifiSsid ap.ssid.text else h)
          ([ap.ssid.text].filterMap reportedName) := by
        split
        · exact h.applyWifiSsid_hears ap.ssid.text
        · next empty =>
            rw [not_not.mp empty]
            exact Still.hears (.refl h)
      simp only [Option.map_some, Option.toList_some]
      generalize (if ap.ssid.text ≠ [] then _ else _) = g at heard ⊢
      have shown : Still g (if 0 ≤ g.wifi.signalDbm ∧ 0 < ap.signal then
          { g with wifi.signal := ap.signal } else g) := .ite rfl (.refl g)
      have last (k : Hud) : Still k (if ap.freq.text ≠ [] ∧ k.wifi.freq.text = [] then
          { k with wifi.freq := .print 32 ap.freq.text } else k) := .ite rfl (.refl k)
      have all := heard.trans (shown.trans (last _)).hears
      rw [List.append_nil] at all
      exact all

/-- **A scan brings the name of the row that is in use afterwards.** -/
theorem parseScan_hears (h : Hud) (out : Text) :
    Hears h (h.parseScan out) (currentNames h.liveName (scanRows h.forget.forgetSsid.text out)) := by
  unfold parseScan scanRows
  simp only
  generalize (if scanError out then cutAt newline out else out) = report
  have told : Still h (if scanError out then h.setStatus (Buf.print 96 report).text else h) :=
    .ite rfl (.refl h)
  generalize (if scanError out then h.setStatus (Buf.print 96 report).text else h) = g at told ⊢
  have held : g.forget.forgetSsid.text = h.forget.forgetSsid.text :=
    congrArg (fun view : NetView => view.forget.forgetSsid.text) told
  rw [held]
  generalize List.take maxAp _ = aps
  have listed : Hears g { g with scan.aps := aps } [] := ⟨rfl, rfl⟩
  generalize listing : ({ g with scan.aps := aps } : Hud) = k at listed ⊢
  have shown := (told.hears.trans listed).trans (reselectAp_still k).hears
  have live : k.reselectAp.liveName = h.liveName := shown.live
  have rows : k.reselectAp.scan.aps = aps := by rw [(reselectAp_frame k).1, ← listing]
  have heard := shown.trans (applyActiveAp_hears k.reselectAp)
  rw [live, rows] at heard
  exact heard

/-- **What a report does**: the names in it that the old join lets through are heard. -/
theorem read_hears (report : NameReport) (h : Hud) :
    Hears h (h.read report) (h.names report) := by
  cases report with
  | link out => exact h.parseLink_hears out
  | scan out => exact h.parseScan_hears out
  | signal => exact h.applyActiveAp_hears

/-- The names in a report do not depend on the old name. -/
theorem names_withJoined (report : NameReport) (h : Hud) (joined : Buf 96) :
    (h.withJoined joined).names report = h.names report := by
  cases report <;> rfl

/-- **What a report leaves is what its names do**, as far as the old name lets them through. -/
theorem read_liveName (report : NameReport) (h : Hud) (joined : Buf 96) :
    ((h.withJoined joined).read report).liveName =
      h.liveName.hearAll joined.text (h.names report) := by
  rw [((h.withJoined joined).read_hears report).live, names_withJoined]
  rfl

/-- **When the name of an old join makes no difference** to the live name and the hold: when both
old names let the same names of the report through, or what the others would do does not show. -/
theorem leftover_ignored_iff (h : Hud) (first second : Buf 96) (report : NameReport) :
    ((h.withJoined first).read report).liveName = ((h.withJoined second).read report).liveName ↔
      h.liveName.Alike first.text second.text (h.names report) := by
  rw [read_liveName, read_liveName, LiveName.alike_iff (h.length_names report)]

/-- A join of the 5 GHz network that is long over hides its 2.4 GHz sibling. -/
theorem leftover_decides :
    ¬∀ (h : Hud) (first second : Buf 96) (report : NameReport),
      h.join.connecting = false → h.join.joinWaitLive = false →
      ((h.withJoined first).read report).liveName = ((h.withJoined second).read report).liveName := by
  intro ignored
  have same := ignored homeBoot.hud (.empty 96) (.print 96 (txt "Lab-5G"))
    (.link (txt "Connected to 11:22:33:44:55:66 (on wlan0)\n\tSSID: Lab\n\tfreq: 2412\n")) rfl rfl
  exact absurd same (by decide +kernel)

end Hud

end Ginkgo
