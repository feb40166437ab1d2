import Ginkgo.CText.Decimal
import Ginkgo.Hud.Reports

/-!
# Reading the scan list

`nmcli` prints a scan list in terse records (`Ginkgo.ScanRow`, `Ginkgo.terse`).
`parse_scan` reads every such list back, except that a list in which one of the texts of
a diagnostic occurs is cut after its first row and shown as a message, and that a long
security or frequency is cut to its array (`Ginkgo.Hud.parseScan_terse_iff`). A network
may well be called like a diagnostic (`Ginkgo.Hud.parseScan_cuts`).
-/

namespace Ginkgo

open CText

/-- A row of `nmcli -t -f SSID,SIGNAL,SECURITY,FREQ,ACTIVE device wifi list`. -/
structure ScanRow where
  ssid : Text
  signal : Nat
  security : Text
  freq : Text
  active : Text
  named : ssid ≠ []
  ssidFits : ssid.length < 96
  ssidLine : newline ∉ ssid
  signalRange : signal ≤ 100
  securityPlain : ∀ c ∈ security, c ≠ colon ∧ c ≠ backslash ∧ c ≠ newline
  freqPlain : ∀ c ∈ freq, c ≠ colon ∧ c ≠ backslash ∧ c ≠ newline
  activeLine : newline ∉ active

namespace ScanRow

/-- The row as `nmcli` prints it. -/
def line (row : ScanRow) : Text :=
  escape row.ssid ++ colon :: (decimal row.signal ++ colon :: (row.security ++
    colon :: (row.freq ++ colon :: row.active)))

/-- The first byte of ACTIVE is a `y` or a `Y`. -/
def saysActive (row : ScanRow) : Prop := row.active.head? = some 121 ∨ row.active.head? = some 89

instance (row : ScanRow) : Decidable row.saysActive := inferInstanceAs (Decidable (_ ∨ _))

/-- The entry of the list is the row. -/
structure Stored (forgetSsid : Text) (row : ScanRow) (ap : Ap) : Prop where
  ssid : ap.ssid.text = row.ssid
  signal : ap.signal = row.signal
  security : ap.security.text = row.security
  freq : ap.freq.text = row.freq
  secure : ap.secure = true ↔ row.security ≠ [] ∧ row.security ≠ txt "--"
  active : ap.active = true ↔ row.saysActive ∧ row.ssid ≠ forgetSsid

/-- The entry that `parse_scan` makes of the row. -/
def entry (forgetSsid : Text) (row : ScanRow) : Ap where
  ssid := .print 96 row.ssid
  signal := row.signal
  security := .print 40 row.security
  freq := .print 24 row.freq
  secure := row.security ≠ [] ∧ row.security ≠ txt "--"
  active := row.saysActive ∧ gwSsidEq forgetSsid row.ssid = false

/-- No field but the last two can grow past its array. -/
theorem stored_entry_iff (forgetSsid : Text) (row : ScanRow) :
    row.Stored forgetSsid (row.entry forgetSsid) ↔
      row.security.length < 40 ∧ row.freq.length < 24 := by
  constructor
  · intro stored
    have security : (Buf.print 40 row.security).text = row.security := stored.security
    have freq : (Buf.print 24 row.freq).text = row.freq := stored.freq
    rw [← security, ← freq]
    exact ⟨Buf.fits _, Buf.fits _⟩
  · rintro ⟨security, freq⟩
    have forgotten : gwSsidEq forgetSsid row.ssid = false ↔ row.ssid ≠ forgetSsid := by
      rw [← Bool.not_eq_true, gwSsidEq_iff]
      constructor
      · rintro differs rfl
        exact differs ⟨row.named, rfl⟩
      · rintro differs ⟨-, rfl⟩
        exact differs rfl
    exact {
      ssid := Buf.print_of_lt row.ssidFits
      signal := rfl
      security := Buf.print_of_lt security
      freq := Buf.print_of_lt freq
      secure := by simp [entry]
      active := by simp [entry, forgotten] }

/-- A row is a line. -/
theorem line_clean (row : ScanRow) : newline ∉ row.line ∧ row.line ≠ [] := by
  constructor
  · intro member
    have other : newline ≠ colon ∧ newline ≠ backslash := by decide
    simp only [line, List.mem_append, List.mem_cons, other.1, false_or] at member
    rcases member with inside | inside | inside | inside | inside
    · exact (mem_of_mem_escape inside).elim other.2 row.ssidLine
    · exact absurd (isDigit_of_mem_decimal inside) (by decide)
    · exact (row.securityPlain _ inside).2.2 rfl
    · exact (row.freqPlain _ inside).2.2 rfl
    · exact row.activeLine inside
  · simp [line]

/-- The fields after FREQ start as ACTIVE does. -/
theorem splitFields_active (limit : Nat) (active : Text) :
    ∃ field fields, splitFields limit active = field :: fields ∧
      ∀ c, c ≠ colon → (field.head? = some c ↔ active.head? = some c) := by
  cases active with
  | nil => exact ⟨[], [], by cases limit <;> rfl, fun _ _ => Iff.rfl⟩
  | cons d rest =>
      by_cases stops : d = colon
      · subst stops
        cases limit with
        | zero => exact ⟨_, _, rfl, fun _ _ => Iff.rfl⟩
        | succ limit =>
            refine ⟨[], splitFields limit rest, by rw [splitFields, cutField_colon], ?_⟩
            intro c other
            simp [other.symm]
      · obtain ⟨field, fields, split, head⟩ := @splitFields_head limit d rest stops
        exact ⟨field, fields, split, fun c _ => by rw [head]; rfl⟩

/-- **A printed row is read back.** -/
theorem parseScanRow_line (forgetSsid : Text) (row : ScanRow) :
    Hud.parseScanRow forgetSsid row.line = some (row.entry forgetSsid) := by
  obtain ⟨field, fields, split, head⟩ := splitFields_active 4 row.active
  have fields : splitFields 8 row.line =
      escape row.ssid :: decimal row.signal :: row.security :: row.freq :: field :: fields := by
    rw [line, splitFields_escape_append, splitFields_plain_append _ (decimal_plain row.signal),
      splitFields_plain_append _ fun c member => ⟨(row.securityPlain c member).1,
        (row.securityPlain c member).2.1⟩,
      splitFields_plain_append _ fun c member => ⟨(row.freqPlain c member).1,
        (row.freqPlain c member).2.1⟩, split]
  have named : escape row.ssid ≠ [] := fun empty => row.named (escape_eq_nil_iff.mp empty)
  have signal : atoi (decimal row.signal) = row.signal := atoi_decimal (by
    have := row.signalRange
    omega)
  rw [Hud.parseScanRow, fields]
  simp only [if_neg named, unescape_escape, signal, List.headD_cons, head 121 (by decide),
    head 89 (by decide)]
  congr 2

end ScanRow

/-- The list as `nmcli` prints it. -/
def terse (rows : List ScanRow) : Text := [newline].intercalate (rows.map ScanRow.line)

namespace Hud

/-! ## What a scan leaves alone -/

/-- A reported name leaves the rows and the picture. -/
theorem applyWifiSsid_frame (h : Hud) (s : Text) :
    (h.applyWifiSsid s).scan = h.scan ∧ (h.applyWifiSsid s).ui = h.ui := by
  obtain ⟨hold, ssid, same, -⟩ := h.applyWifiSsid_writes s
  rw [same]
  exact ⟨rfl, rfl⟩

theorem applyActiveAp_frame (h : Hud) :
    h.applyActiveAp.scan = h.scan ∧ h.applyActiveAp.ui = h.ui := by
  unfold applyActiveAp
  simp only
  split
  · exact ⟨rfl, rfl⟩
  · next ap _ =>
      obtain ⟨scan, ui⟩ := h.applyWifiSsid_frame ap.ssid.text
      split_ifs <;> first | exact ⟨rfl, rfl⟩ | exact ⟨scan, ui⟩

/-- Restoring the selection leaves the rows. -/
theorem reselectAp_frame (h : Hud) :
    h.reselectAp.scan.aps = h.scan.aps ∧ h.reselectAp.ui = h.ui := by
  unfold reselectAp
  simp only
  generalize (h.scan.hoverAp.filter _).getD 0 = row
  obtain ⟨scan, same, rows, -⟩ := syncSelectedAp_frame { h with scan.hoverAp := some row }
  rw [same]
  split
  · exact ⟨rfl, rfl⟩
  · exact ⟨rows, rfl⟩

/-- The text that is left of a scan list: a diagnostic keeps its first line. -/
def scanText (buf : Text) : Text := if scanError buf then cutAt newline buf else buf

/-- The rows are those that can be read, as far as there is room. -/
theorem parseScan_aps (h : Hud) (buf : Text) :
    (h.parseScan buf).scan.aps =
      ((lines (scanText buf)).filterMap (parseScanRow h.forget.forgetSsid.text)).take maxAp := by
  unfold parseScan scanText
  simp only
  rw [(applyActiveAp_frame _).1, (reselectAp_frame _).1]
  split <;> rfl

/-- The message is the diagnostic, if there is one. -/
theorem parseScan_statusLine (h : Hud) (buf : Text) :
    (h.parseScan buf).ui.statusLine =
      if scanError buf then .print 96 (scanText buf) else h.ui.statusLine := by
  unfold parseScan scanText
  simp only
  rw [(applyActiveAp_frame _).2, (reselectAp_frame _).2]
  split
  · exact Buf.print_text _
  · rfl

/-! ## Whole lists -/

/-- The rows that are left of a printed list. -/
theorem lines_scanText_terse (rows : List ScanRow) :
    lines (scanText (terse rows)) =
      ((if scanError (terse rows) then rows.take 1 else rows).map ScanRow.line) := by
  have whole (some : List ScanRow) : lines (terse some) = some.map ScanRow.line := by
    refine lines_intercalate fun s member => ?_
    obtain ⟨row, -, rfl⟩ := List.mem_map.mp member
    exact row.line_clean
  unfold scanText
  split
  · cases rows with
    | nil => exact whole []
    | cons row rows =>
        have first : cutAt newline (terse (row :: rows)) = terse [row] := by
          rw [terse, List.map_cons, cutAt_intercalate row.line_clean.1]
          simp [terse]
        rw [first]
        exact whole [row]
  · exact whole rows

/-- A single row is not cut. -/
theorem scanText_terse_single (row : ScanRow) : scanText (terse [row]) = terse [row] := by
  unfold scanText
  split
  · rw [terse, List.map_singleton, cutAt_intercalate row.line_clean.1]
    simp
  · rfl

/-- What is stored of a printed list. -/
theorem parseScan_terse (h : Hud) {rows : List ScanRow} (few : rows.length ≤ maxAp) :
    (h.parseScan (terse rows)).scan.aps =
      (if scanError (terse rows) then rows.take 1 else rows).map
        (ScanRow.entry h.forget.forgetSsid.text) := by
  have short : (if scanError (terse rows) then rows.take 1 else rows).length ≤ maxAp := by
    split
    · exact (List.length_take_le 1 rows).trans (by decide)
    · exact few
  rw [parseScan_aps, lines_scanText_terse, List.filterMap_map]
  generalize (if scanError (terse rows) then rows.take 1 else rows) = left at short
  have read : (parseScanRow h.forget.forgetSsid.text ∘ ScanRow.line) =
      some ∘ ScanRow.entry h.forget.forgetSsid.text := by
    funext row
    exact row.parseScanRow_line _
  rw [read, List.filterMap_eq_map, List.take_of_length_le (by simpa using short)]

/-- **Which scan lists are read back.** The list of entries is the list of rows and the
message stays exactly when no diagnostic is recognised in the list, or it has one row
that is the message already, and no security or frequency is longer than its array. -/
theorem parseScan_terse_iff (h : Hud) (rows : List ScanRow) (few : rows.length ≤ maxAp) :
    List.Forall₂ (ScanRow.Stored h.forget.forgetSsid.text) rows
          (h.parseScan (terse rows)).scan.aps ∧
        (h.parseScan (terse rows)).ui.statusLine = h.ui.statusLine ↔
      (scanError (terse rows) = false ∨
          rows.length = 1 ∧ h.ui.statusLine.text = (terse rows).take 95) ∧
        ∀ row ∈ rows, row.security.length < 40 ∧ row.freq.length < 24 := by
  rw [parseScan_terse h few, parseScan_statusLine, List.forall₂_map_right_iff]
  by_cases recognised : scanError (terse rows)
  · rw [if_pos recognised, if_pos recognised]
    rcases rows with _ | ⟨row, _ | ⟨second, rows⟩⟩
    · exact absurd recognised (by decide)
    · have same : Buf.print 96 (terse [row]) = h.ui.statusLine ↔
          h.ui.statusLine.text = (terse [row]).take 95 := by
        rw [Buf.ext_iff]
        exact eq_comm
      rw [scanText_terse_single, same]
      simp [recognised, ScanRow.stored_entry_iff, and_comm]
    · constructor
      · rintro ⟨stored, -⟩
        have lengths := stored.length_eq
        simp at lengths
      · rintro ⟨kept | ⟨single, -⟩, -⟩
        · rw [recognised] at kept
          cases kept
        · simp at single
  · rw [if_neg recognised, if_neg recognised, List.forall₂_same]
    simp [recognised, ScanRow.stored_entry_iff]

/-- The row of a network in use. -/
def homeRow : ScanRow where
  ssid := txt "Home: 5G"
  signal := 60
  security := txt "WPA2"
  freq := txt "2437 MHz"
  active := txt "yes"
  named := by decide +kernel
  ssidFits := by decide +kernel
  ssidLine := by decide +kernel
  signalRange := by decide +kernel
  securityPlain := by decide +kernel
  freqPlain := by decide +kernel
  activeLine := by decide +kernel

/-- The row of a network called like a diagnostic. -/
def luckRow : ScanRow :=
  { homeRow with
    ssid := txt "No such luck"
    active := txt "no"
    named := by decide +kernel
    ssidFits := by decide +kernel
    ssidLine := by decide +kernel
    activeLine := by decide +kernel }

/-- The list of the network in use is read back. -/
theorem parseScan_terse_iff_home :
    List.Forall₂ (ScanRow.Stored []) [homeRow]
        (parseScan (terse [homeRow]) { ui := { W := 1080, H := 2340 } }).scan.aps ∧
      (parseScan (terse [homeRow]) { ui := { W := 1080, H := 2340 } }).ui.statusLine = .empty 96 :=
  (parseScan_terse_iff { ui := { W := 1080, H := 2340 } } [homeRow] (by decide)).mpr
    ⟨.inl (by decide), by decide⟩

/-- The network called like a diagnostic hides the others. -/
theorem parseScan_cuts :
    ¬∀ (h : Hud) (rows : List ScanRow), rows.length ≤ maxAp →
      List.Forall₂ (ScanRow.Stored h.forget.forgetSsid.text) rows
          (h.parseScan (terse rows)).scan.aps ∧
        (h.parseScan (terse rows)).ui.statusLine = h.ui.statusLine := by
  intro always
  have read := (always { ui := { W := 1080, H := 2340 } } [luckRow, homeRow] (by decide)).1.length_eq
  have short : ¬[luckRow, homeRow].length =
      (parseScan (terse [luckRow, homeRow]) { ui := { W := 1080, H := 2340 } }).scan.aps.length := by
    decide +kernel
  exact short read

end Hud

end Ginkgo
