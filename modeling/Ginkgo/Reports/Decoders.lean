import Ginkgo.Reports.Confirm
import Ginkgo.Reports.ScanList

/-!
# The same name in the list and live

A network's name reaches the HUD in two ways: in the scan list of `nmcli`, which escapes
colons and backslashes, and as the live name in the report of `iw`, which escapes what is
not printable (`Ginkgo.iwName`). A name that `iw` prints as it is becomes the same name in
both, except that the live name loses a `gemini-` at its front
(`Ginkgo.Hud.decoders_agree`, `Ginkgo.Hud.decoders_disagree`).
-/

namespace Ginkgo

open CText

/-- A lower-case hexadecimal digit. -/
def hexDigit (n : UInt8) : UInt8 := if n < 10 then 48 + n else 87 + n

/-- `isprint` in the C locale. -/
def isPrint (c : UInt8) : Bool := 32 ≤ c ∧ c < 127

/-- A byte of a name as `iw` prints it; `edge` says that it is the first or the last one. -/
def iwByte (edge : Bool) (c : UInt8) : Text :=
  if isPrint c ∧ c ≠ backslash ∧ ¬(edge ∧ c = space) then [c]
  else [backslash, 120, hexDigit (c / 16), hexDigit (c % 16)]

/-- A name as `iw` prints it. -/
def iwName (s : Text) : Text :=
  s.zipIdx.flatMap fun (c, i) => iwByte (i = 0 ∨ i + 1 = s.length) c

/-- A name that `iw` prints as it is. -/
structure Verbatim (s : Text) : Prop where
  printed : ∀ c ∈ s, isPrint c = true ∧ c ≠ backslash
  head : s.head? ≠ some space
  last : s.getLast? ≠ some space

/-- A name that `iw` prints as it is. -/
theorem iwName_of_verbatim {s : Text} (verbatim : Verbatim s) : iwName s = s := by
  have bytes : ∀ entry ∈ s.zipIdx,
      iwByte (entry.2 = 0 ∨ entry.2 + 1 = s.length) entry.1 = [entry.1] := by
    rintro ⟨c, i⟩ member
    have found : s[i]? = some c := List.mem_zipIdx_iff_getElem?.mp member
    obtain ⟨printed, plain⟩ := verbatim.printed c (List.mem_of_getElem? found)
    refine if_pos ⟨printed, plain, ?_⟩
    rintro ⟨edge, rfl⟩
    rcases of_decide_eq_true edge with first | last
    · have first : i = 0 := first
      rw [first, ← List.head?_eq_getElem?] at found
      exact verbatim.head found
    · have last : i = s.length - 1 := Nat.eq_sub_of_add_eq last
      rw [last, ← List.getLast?_eq_getElem?] at found
      exact verbatim.last found
  calc iwName s = s.zipIdx.flatMap fun entry => [entry.1] := List.flatMap_congr bytes
    _ = s.zipIdx.map Prod.fst := List.map_eq_flatMap.symm
    _ = s := List.zipIdx_map_fst 0 s

/-- Control characters are not printed as they are. -/
theorem Verbatim.notMem {s : Text} (verbatim : Verbatim s) {c : UInt8} (control : isPrint c = false) :
    c ∉ s := by
  intro member
  have printed := (verbatim.printed c member).1
  rw [control] at printed
  cases printed

/-- Taking `gemini-` away adds no byte. -/
theorem mem_of_mem_stripGemini {c : UInt8} {s : Text} (member : c ∈ stripGemini s) : c ∈ s := by
  unfold stripGemini at member
  split at member
  · exact List.mem_of_mem_drop member
  · exact member

/-- Nor does it make a name longer. -/
theorem length_stripGemini_le (s : Text) : (stripGemini s).length ≤ s.length := by
  unfold stripGemini
  split
  · simp
  · exact le_rfl

namespace Hud

/-- No name is live, joined or being forgotten. -/
structure Fresh (h : Hud) : Prop where
  live : h.wifi.ssid.text = []
  joined : h.bufs.connectSsid.text = []
  forgotten : h.forget.forgetSsid.text = []

variable {h k : Hud}

/-- A reported name is taken over where nothing stands against it. -/
theorem Fresh.applyWifiSsid (fresh : h.Fresh) {s : Text}
    (reported : skipBlanks s ≠ [] ∧ skipBlanks s ≠ txt "--") :
    (h.applyWifiSsid s).wifi.ssid = .print 96 (reportedSsid (skipBlanks s)) := by
  have held (name : Text) : gwSsidEq [] name = false := by
    rw [← Bool.not_eq_true, gwSsidEq_iff]
    exact fun both => both.1 rfl
  have longer (name : Text) : isSibling name [] = false := by
    rw [← Bool.not_eq_true, isSibling_iff]
    exact fun sibling => absurd sibling.1 (Nat.not_lt_zero _)
  unfold Hud.applyWifiSsid
  simp only [reported, fresh.live, fresh.joined, fresh.forgotten, held, longer, or_self, if_false,
    ne_eq, not_true_eq_false, false_and, Bool.false_eq_true]

/-- The live name of a network that `iw` prints as it is. -/
theorem parseLink_verbatim (fresh : h.Fresh) {s : Text} (named : s ≠ []) (short : s.length < 96)
    (verbatim : Verbatim s) (link : IwLink) :
    (h.parseLink (link.text (iwName s))).wifi.ssid.text = stripGemini s := by
  have line : newline ∉ s := verbatim.notMem (by decide)
  have returns : carriageReturn ∉ stripGemini s := fun member =>
    verbatim.notMem (by decide) (mem_of_mem_stripGemini member)
  have whole : skipBlanks (s ++ newline :: link.tail) = s ++ newline :: link.tail := by
    obtain ⟨c, rest, rfl⟩ := List.exists_cons_of_ne_nil named
    refine skipBlanks_of_head fun d first => ?_
    rw [← Option.some.inj first]
    constructor
    · rintro rfl
      exact verbatim.head rfl
    · rintro rfl
      exact absurd (verbatim.printed tab (by simp)).1 (by decide)
  have reported : skipBlanks (s ++ newline :: link.tail) ≠ [] ∧
      skipBlanks (s ++ newline :: link.tail) ≠ txt "--" := by
    rw [whole]
    exact line_shown s link.tail
  have fits : (stripGemini s).length < 96 := (length_stripGemini_le s).trans_lt short
  rw [iwName_of_verbatim verbatim, (link.parseLink_text line h).ssid, fresh.applyWifiSsid reported,
    whole, reportedSsid_line line short, cutAt_of_notMem returns, Buf.print_of_lt fits]

/-- The stored name of a row of the list. -/
theorem parseScan_ssid {rows : List ScanRow} (few : rows.length ≤ maxAp) {i : Nat} {row : ScanRow}
    {ap : Ap} (listed : rows[i]? = some row)
    (stored : (k.parseScan (terse rows)).scan.aps[i]? = some ap) : ap.ssid.text = row.ssid := by
  have left : ∃ found, rows[i]? = some found ∧ found.entry k.forget.forgetSsid.text = ap := by
    rw [parseScan_terse k few, List.getElem?_map, Option.map_eq_some_iff] at stored
    obtain ⟨found, inside, rfl⟩ := stored
    refine ⟨found, ?_, rfl⟩
    split at inside
    · rw [List.getElem?_take] at inside
      split at inside
      · exact inside
      · cases inside
    · exact inside
  obtain ⟨found, inside, rfl⟩ := left
  rw [listed] at inside
  cases inside
  exact Buf.print_of_lt row.ssidFits

/-- The HUD before any report. -/
def freshHud : Hud := { ui := { W := 1080, H := 2340 } }

/-- A network that is listed alone has the name of the list when it is live. -/
def SameName (row : ScanRow) : Prop :=
  ((freshHud.parseScan (terse [row])).scan.aps.map fun ap => ap.ssid.text) =
    [(freshHud.parseLink (wlanLink.text (iwName row.ssid))).wifi.ssid.text]

instance (row : ScanRow) : Decidable (SameName row) := inferInstanceAs (Decidable (_ = _))

/-- A row of a network whose name starts with `gemini-`. -/
def geminiRow : ScanRow :=
  { homeRow with
    ssid := txt "gemini-Home"
    named := by decide +kernel
    ssidFits := by decide +kernel
    ssidLine := by decide +kernel }

/-- A row of a network whose name is not ASCII. -/
def accentRow : ScanRow :=
  { homeRow with
    ssid := txt "Café"
    named := by decide +kernel
    ssidFits := by decide +kernel
    ssidLine := by decide +kernel }

end Hud

end Ginkgo
