import Ginkgo.CText.Decimal
import Ginkgo.Hud.Reports
import Mathlib.Data.List.Chain

/-!
# Reading the link report

The live network is reported by `iw dev … link` (`Ginkgo.IwLink`), or by the terse
listing of `nmcli` where there is no `iw` (`Ginkgo.LinkList`). Whatever else a report
says, `parse_link` takes over the reported name as `apply_wifi_ssid` reads it
(`Ginkgo.IwLink.parseLink_text`, `Ginkgo.LinkList.parseLink_text`).
-/

namespace Ginkgo

open CText

/-! ## The reported name -/

/-- A name begins with `gemini-` whatever comes after its line. -/
theorem gemini_isPrefix_append {name tail : Text} :
    txt "gemini-" <+: name ++ newline :: tail ↔ txt "gemini-" <+: name := by
  constructor
  · intro starts
    rcases isPrefix_or_mem_of_isPrefix_append starts with inside | past
    · exact inside
    · exact absurd past (by decide)
  · intro starts
    exact starts.trans (List.prefix_append name _)

/-- A name without its `gemini-`. -/
def stripGemini (name : Text) : Text := if txt "gemini-" <+: name then name.drop 7 else name

/-- What is cut off at a line end is the line, when there is room for it. -/
theorem cutAt_take_append {c : UInt8} {front : Text} (absent : c ∉ front) {n : Nat}
    (room : front.length ≤ n) (tail : Text) : cutAt c ((front ++ c :: tail).take n) = front := by
  rw [List.take_append, List.take_of_length_le room]
  cases n - front.length with
  | zero => simpa using cutAt_of_notMem absent
  | succ k => simpa using cutAt_append absent _

/-- A name at the end of a line of a report. -/
theorem reportedSsid_line {name : Text} (line : newline ∉ name) (short : name.length < 96)
    (tail : Text) :
    reportedSsid (name ++ newline :: tail) = cutAt carriageReturn (stripGemini name) := by
  unfold reportedSsid stripGemini
  simp only [List.isPrefixOf_iff_prefix, gemini_isPrefix_append, Buf.print]
  by_cases gemini : txt "gemini-" <+: name
  · have long : 7 ≤ name.length := gemini.length_le
    have rest : newline ∉ name.drop 7 := fun member => line (List.mem_of_mem_drop member)
    have dropped : (name ++ newline :: tail).drop 7 = name.drop 7 ++ newline :: tail :=
      List.drop_append_of_le_length long
    rw [if_pos ⟨gemini, by simp; omega⟩, if_pos gemini, dropped,
      cutAt_take_append rest (by simp; omega)]
  · rw [if_neg (fun both => gemini both.1), if_neg gemini, cutAt_take_append line (by omega)]

/-- A line is not taken for a missing name. -/
theorem line_shown (name tail : Text) :
    name ++ newline :: tail ≠ [] ∧ name ++ newline :: tail ≠ txt "--" := by
  refine ⟨by simp, fun dashes => ?_⟩
  have ends : newline ∈ txt "--" := by simp [← dashes]
  exact absurd ends (by decide)

/-- A whole text as a name; a bare `gemini-` is left alone. -/
theorem reportedSsid_whole {name : Text} (line : newline ∉ name) (short : name.length < 96)
    (plain : ¬txt "gemini-" <+: name) : reportedSsid name = cutAt carriageReturn name := by
  unfold reportedSsid
  simp only [List.isPrefixOf_iff_prefix]
  rw [if_neg (fun both => plain both.1), Buf.print_of_lt short, cutAt_of_notMem line]

/-- A name that begins with no blank has none to skip. -/
theorem skipBlanks_of_head {name : Text} (head : ∀ c ∈ name.head?, c ≠ space ∧ c ≠ tab) :
    skipBlanks name = name := by
  cases name with
  | nil => rfl
  | cons c rest =>
      obtain ⟨blank, tabulated⟩ := head c rfl
      simp [skipBlanks, blank, tabulated]

/-- One blank more is skipped. -/
theorem skipBlanks_space (s : Text) : skipBlanks (space :: s) = skipBlanks s := by
  simp [skipBlanks]

namespace Hud

/-- The data that decides about a join is the same. -/
structure SameLive (h h' : Hud) : Prop where
  ssid : h'.wifi.ssid = h.wifi.ssid
  connected : h'.wifi.connected = h.wifi.connected
  join : h'.join = h.join
  bufs : h'.bufs = h.bufs
  forget : h'.forget = h.forget

variable {h h' h'' : Hud}

theorem SameLive.refl (h : Hud) : SameLive h h := ⟨rfl, rfl, rfl, rfl, rfl⟩

/-- Two changes that leave it, one after the other. -/
theorem SameLive.trans (first : SameLive h h') (second : SameLive h' h'') : SameLive h h'' :=
  ⟨second.ssid.trans first.ssid, second.connected.trans first.connected,
    second.join.trans first.join, second.bufs.trans first.bufs, second.forget.trans first.forget⟩

/-- A report is taken over in the same way. -/
theorem SameLive.applyWifiSsid (same : SameLive h h') (s : Text) :
    SameLive (h.applyWifiSsid s) (h'.applyWifiSsid s) := by
  have written {k k' : Hud} (freed : SameLive k k') (tmp : Text) :
      SameLive (if isSibling tmp k.wifi.ssid.text then k else { k with wifi.ssid := .print 96 tmp })
        (if isSibling tmp k'.wifi.ssid.text then k' else { k' with wifi.ssid := .print 96 tmp }) := by
    rw [freed.ssid]
    split
    · exact freed
    · exact ⟨rfl, freed.connected, freed.join, freed.bufs, freed.forget⟩
  unfold Hud.applyWifiSsid
  rw [same.bufs, same.forget]
  simp only
  split
  · exact same
  · split
    · exact same
    · split
      · exact same
      · refine written ?_ _
        split
        · exact ⟨same.ssid, same.connected, same.join, rfl, rfl⟩
        · exact same

/-- A level leaves it. -/
theorem applySignalDbm_sameLive (h : Hud) (dbm : Int) : SameLive h (h.applySignalDbm dbm) := by
  unfold applySignalDbm
  split
  · exact .refl h
  · exact ⟨rfl, rfl, rfl, rfl, rfl⟩

theorem applyFreq_sameLive (h : Hud) (mhz : Option Int) : SameLive h (h.applyFreq mhz) := by
  unfold applyFreq
  split
  · split
    · exact ⟨rfl, rfl, rfl, rfl, rfl⟩
    · exact .refl h
  · exact .refl h

/-- A `signal:` label does. -/
theorem linkSignal_sameLive (h : Hud) (buf : Text) : SameLive h (h.linkSignal buf) := by
  unfold linkSignal
  split
  · exact h.applySignalDbm_sameLive _
  · exact .refl h
  · split
    · exact h.applySignalDbm_sameLive _
    · exact .refl h

/-- A `freq:` label does. -/
theorem linkFreq_sameLive (h : Hud) (buf : Text) : SameLive h (h.linkFreq buf) := by
  unfold linkFreq
  split
  · exact h.applyFreq_sameLive _
  · split
    · exact h.applyFreq_sameLive _
    · exact .refl h

/-- The rest of a report without an in-use row. -/
theorem parseLink_sameLive (h : Hud) {buf : Text}
    (unused : (lines buf).findSome? parseLinkRow = none) :
    SameLive (h.linkName buf) (h.parseLink buf) := by
  unfold parseLink linkRow
  rw [unused]
  exact (linkSignal_sameLive _ buf).trans (linkFreq_sameLive _ buf)

/-- A blank before a name does not matter. -/
theorem applyWifiSsid_space (h : Hud) (s : Text) :
    h.applyWifiSsid (space :: s) = h.applyWifiSsid s := by
  unfold applyWifiSsid
  rw [skipBlanks_space]

end Hud

/-- A row is in use only when it starts with a star or a `y`. -/
theorem parseLinkRow_of_head {c : UInt8} (inside : c ≠ colon) (star : c ≠ 42)
    (yes : c ≠ 121 ∧ c ≠ 89) (rest : Text) : Hud.parseLinkRow (c :: rest) = none := by
  obtain ⟨field, fields, split, head⟩ := @splitFields_head 4 c rest inside
  unfold Hud.parseLinkRow
  rw [split]
  have other : ∀ s : Text, field = s → s.head? = some c := fun s same => same ▸ head
  rcases fields with _ | ⟨signal, _ | ⟨freq, fields⟩⟩
  · rfl
  · rfl
  · refine if_neg fun used => ?_
    rcases used with used | used | used
    · rw [head] at used
      exact star (Option.some.inj used)
    · exact yes.1 (Option.some.inj (other _ used)).symm
    · exact yes.2 (Option.some.inj (other _ used)).symm

/-! ## The report of `iw` -/

/-- What `iw dev … link` prints about a connection, except for the name: the rest of the
line with the access point's address, and the lines after the name. -/
structure IwLink where
  peer : Text
  rest : List Text
  peerLine : newline ∉ peer
  peerPlain : ¬txt "SSID:" <:+: peer
  restLine : ∀ s ∈ rest, newline ∉ s

namespace IwLink

/-- The lines after the name. -/
def tail (link : IwLink) : Text := link.rest.flatMap fun s => tab :: s ++ [newline]

/-- The report about the network that is printed as `name`. -/
def text (link : IwLink) (name : Text) : Text :=
  txt "Connected to " ++ (link.peer ++ newline :: (tab :: txt "SSID: " ++
    (name ++ newline :: link.tail)))

/-- The first `SSID:` of a report is before the name. -/
theorem strstr_text (link : IwLink) (name : Text) :
    strstr (link.text name) (txt "SSID:") =
      some (txt "SSID: " ++ (name ++ newline :: link.tail)) := by
  have pattern : txt "SSID:" = 83 :: txt "SID:" := by decide
  have found : txt "SSID:" <+: txt "SSID: " ++ (name ++ newline :: link.tail) :=
    List.IsPrefix.trans (by decide) (List.prefix_append (txt "SSID: ") _)
  have skip : newline :: (tab :: txt "SSID: " ++ (name ++ newline :: link.tail)) =
      [newline, tab] ++ (txt "SSID: " ++ (name ++ newline :: link.tail)) := rfl
  have header : strstr (link.text name) (txt "SSID:") =
      strstr (newline :: (tab :: txt "SSID: " ++ (name ++ newline :: link.tail))) (txt "SSID:") := by
    rw [text, pattern, strstr_append_of_notMem (by decide), ← pattern,
      strstr_append_of_not_isInfix link.peerPlain (by decide)]
  rw [header, skip, pattern, strstr_append_of_notMem (by decide), ← pattern,
    strstr_of_isPrefix found]

/-- The lines of the rest. -/
theorem lines_tail {rest : List Text} (clean : ∀ s ∈ rest, newline ∉ s) :
    lines (rest.flatMap fun s => tab :: s ++ [newline]) = rest.map (tab :: ·) := by
  induction rest with
  | nil => decide
  | cons s rest ih =>
      have head : newline ∉ tab :: s := by
        simp [clean s (by simp), show newline ≠ tab by decide]
      rw [List.flatMap_cons, List.append_assoc, List.singleton_append,
        lines_append ⟨head, by simp⟩, ih fun t member => clean t (by simp [member])]
      rfl

/-- The lines of a report. -/
theorem lines_text (link : IwLink) {name : Text} (line : newline ∉ name) :
    lines (link.text name) =
      (txt "Connected to " ++ link.peer) :: (tab :: txt "SSID: " ++ name) ::
        link.rest.map (tab :: ·) := by
  have first : newline ∉ txt "Connected to " ++ link.peer := by
    simp [link.peerLine, show newline ∉ txt "Connected to " by decide]
  have second : newline ∉ tab :: txt "SSID: " ++ name := by
    intro member
    rcases List.mem_append.mp member with inside | inside
    · exact absurd inside (by decide)
    · exact line inside
  rw [text, ← List.append_assoc, lines_append ⟨first, by simp [show txt "Connected to " ≠ [] by decide]⟩,
    ← List.append_assoc, lines_append ⟨second, by simp⟩, tail, lines_tail link.restLine]

/-- No line of the report is an in-use row of `nmcli`. -/
theorem findSome_lines_text (link : IwLink) {name : Text} (line : newline ∉ name) :
    (lines (link.text name)).findSome? Hud.parseLinkRow = none := by
  rw [link.lines_text line, List.findSome?_eq_none_iff]
  intro s member
  rcases List.mem_cons.mp member with rfl | member
  · exact parseLinkRow_of_head (c := 67) (by decide) (by decide) (by decide) _
  · have tabbed : ∃ rest, s = tab :: rest := by
      rcases List.mem_cons.mp member with rfl | member
      · exact ⟨_, rfl⟩
      · obtain ⟨rest, -, rfl⟩ := List.mem_map.mp member
        exact ⟨rest, rfl⟩
    obtain ⟨rest, rfl⟩ := tabbed
    exact parseLinkRow_of_head (by decide) (by decide) (by decide) rest

/-- **The name `iw` reports is taken over.** -/
theorem parseLink_text (link : IwLink) {name : Text} (line : newline ∉ name) (h : Hud) :
    Hud.SameLive (h.applyWifiSsid (name ++ newline :: link.tail)) (h.parseLink (link.text name)) := by
  have named : h.linkName (link.text name) = h.applyWifiSsid (name ++ newline :: link.tail) := by
    rw [← h.applyWifiSsid_space, Hud.linkName, link.strstr_text name]
    rfl
  rw [← named]
  exact h.parseLink_sameLive (link.findSome_lines_text line)

end IwLink

/-! ## The listing of `nmcli` -/

/-- A row of `nmcli -t -f IN-USE,SIGNAL,FREQ,SSID device wifi list`. -/
structure LinkRow where
  inUse : Bool
  signal : Nat
  freq : Nat
  ssid : Text
  ssidLine : newline ∉ ssid

namespace LinkRow

/-- A star, or a blank. -/
def mark (row : LinkRow) : UInt8 := if row.inUse then 42 else space

/-- The frequency with its unit. -/
def freqText (row : LinkRow) : Text := decimal row.freq ++ txt " MHz"

/-- The row as `nmcli` prints it. -/
def line (row : LinkRow) : Text :=
  [row.mark] ++ colon :: (decimal row.signal ++ colon :: (row.freqText ++
    colon :: escape row.ssid))

/-- The mark is a star or a blank. -/
theorem mark_cases (row : LinkRow) : row.mark = 42 ∨ row.mark = space := by
  unfold mark
  split
  · exact .inl rfl
  · exact .inr rfl

/-- The frequency is printed as it is. -/
theorem freqText_plain (row : LinkRow) : ∀ c ∈ row.freqText, c ≠ colon ∧ c ≠ backslash := by
  intro c member
  rcases List.mem_append.mp member with inside | inside
  · exact decimal_plain row.freq c inside
  · have unit : ∀ c ∈ txt " MHz", c ≠ colon ∧ c ≠ backslash := by decide +kernel
    exact unit c inside

/-- The fields of a row are read back. -/
theorem splitFields_line (row : LinkRow) :
    splitFields 4 row.line =
      [[row.mark], decimal row.signal, row.freqText, escape row.ssid] := by
  have mark : ∀ c ∈ [row.mark], c ≠ colon ∧ c ≠ backslash := by
    intro c member
    rw [List.mem_singleton.mp member]
    rcases row.mark_cases with same | same <;> rw [same] <;> decide
  rw [line, splitFields_plain_append _ mark, splitFields_plain_append _ (decimal_plain row.signal),
    splitFields_plain_append _ row.freqText_plain, splitFields_escape]

/-- A row is taken over when it is in use. -/
theorem parseLinkRow_line (row : LinkRow) :
    Hud.parseLinkRow row.line =
      if row.inUse then some (decimal row.signal, row.freqText, some (escape row.ssid))
      else none := by
  unfold Hud.parseLinkRow
  rw [row.splitFields_line]
  unfold mark
  cases row.inUse <;> rfl

/-- It is a line. -/
theorem line_clean (row : LinkRow) : newline ∉ row.line ∧ row.line ≠ [] := by
  constructor
  · intro member
    have other : newline ≠ colon := by decide
    simp only [line, List.mem_append, List.mem_cons, other, false_or, List.not_mem_nil,
      or_false] at member
    rcases member with inside | inside | inside | inside
    · rcases row.mark_cases with same | same <;> rw [same] at inside <;> exact absurd inside (by decide)
    · exact absurd (isDigit_of_mem_decimal inside) (by decide)
    · rcases List.mem_append.mp inside with digits | unit
      · exact absurd (isDigit_of_mem_decimal digits) (by decide)
      · exact absurd unit (by decide)
    · exact notMem_escape row.ssidLine (by decide) inside
  · simp [line]

end LinkRow

/-- A listing in which a network is in use; no earlier row is. -/
structure LinkList where
  before : List LinkRow
  signal : Nat
  freq : Nat
  after : List LinkRow
  beforeUnused : ∀ row ∈ before, row.inUse = false

namespace LinkList

/-- The rows when the network in use is called `name`. -/
def rows (list : LinkList) (name : Text) (line : newline ∉ name) : List LinkRow :=
  list.before ++ { inUse := true, signal := list.signal, freq := list.freq, ssid := name,
                   ssidLine := line } :: list.after

/-- The listing as `nmcli` prints it. -/
def text (list : LinkList) (name : Text) (line : newline ∉ name) : Text :=
  [newline].intercalate ((list.rows name line).map LinkRow.line)

/-! In such a listing no colon follows the last letter of a label, so it has none of the labels
of `iw`. -/

/-- The last letters of `SSID:`, `signal:`, `signal avg:` and `freq:`. -/
def labelEnds : List UInt8 := [68, 108, 103, 113]

/-- No colon follows the last letter of a label. -/
def NoLabel (s : Text) : Prop := s.IsChain fun c d => d = colon → c ∉ labelEnds

/-- An escaped text has no label: its colons follow a backslash. -/
theorem noLabel_escape (s : Text) : NoLabel (escape s) ∧ (escape s).head? ≠ some colon := by
  induction s with
  | nil => exact ⟨.nil, nofun⟩
  | cons c rest ih =>
      have after : NoLabel (c :: escape rest) := by
        refine List.isChain_cons.mpr ⟨fun d head stops => ?_, ih.1⟩
        rw [Option.mem_def, stops] at head
        exact absurd head ih.2
      rw [escape]
      split
      · refine ⟨List.isChain_cons.mpr ⟨fun _ _ _ => by decide, after⟩, fun head => ?_⟩
        exact absurd (Option.some.inj head) (by decide)
      · next plain => exact ⟨after, fun head => plain (.inl (Option.some.inj head))⟩

/-- A field without colons and those letters may come before a colon. -/
theorem noLabel_field {field rest : Text} (plain : colon ∉ field ∧ ∀ c ∈ field, c ∉ labelEnds)
    (after : NoLabel rest) : NoLabel (field ++ colon :: rest) := by
  have next : NoLabel (colon :: rest) :=
    List.isChain_cons.mpr ⟨fun _ _ _ => by decide, after⟩
  induction field with
  | nil => exact next
  | cons c field ih =>
      refine List.isChain_cons.mpr ⟨fun _ _ _ => plain.2 c (by simp), ?_⟩
      exact ih ⟨fun member => plain.1 (by simp [member]),
        fun d member => plain.2 d (by simp [member])⟩

theorem noLabel_line (row : LinkRow) : NoLabel row.line := by
  have mark : colon ∉ [row.mark] ∧ ∀ c ∈ [row.mark], c ∉ labelEnds := by
    rcases row.mark_cases with same | same <;> rw [same] <;> decide +kernel
  have digits (n : Nat) : colon ∉ decimal n ∧ ∀ c ∈ decimal n, c ∉ labelEnds := by
    refine ⟨fun member => absurd (isDigit_of_mem_decimal member) (by decide), ?_⟩
    intro c member ends
    have digit := isDigit_of_mem_decimal member
    have letters : ∀ c ∈ labelEnds, isDigit c = false := by decide +kernel
    rw [letters c ends] at digit
    cases digit
  have freq : colon ∉ row.freqText ∧ ∀ c ∈ row.freqText, c ∉ labelEnds := by
    refine ⟨fun member => (row.freqText_plain colon member).1 rfl, fun c member => ?_⟩
    have unit : ∀ c ∈ txt " MHz", c ∉ labelEnds := by decide +kernel
    rcases List.mem_append.mp member with inside | inside
    · exact (digits row.freq).2 c inside
    · exact unit c inside
  exact noLabel_field mark (noLabel_field (digits row.signal)
    (noLabel_field freq (noLabel_escape row.ssid).1))

theorem noLabel_text (rows : List LinkRow) :
    NoLabel ([newline].intercalate (rows.map LinkRow.line)) := by
  induction rows with
  | nil => exact .nil
  | cons row rows ih =>
      cases rows with
      | nil => simpa using noLabel_line row
      | cons second rows =>
          rw [List.map_cons, List.map_cons, List.intercalate_cons_cons, List.append_assoc,
            List.singleton_append]
          refine List.isChain_append.mpr ⟨noLabel_line row, ?_, ?_⟩
          · exact List.isChain_cons.mpr ⟨fun _ _ _ => by decide, ih⟩
          · intro c _ d head stops
            rw [← Option.some.inj head] at stops
            exact absurd stops (by decide)

/-- A label is not found in the listing. -/
theorem strstr_text (list : LinkList) {name : Text} (line : newline ∉ name) {label : Text}
    (labels : ¬NoLabel label) : strstr (list.text name line) label = none := by
  rw [strstr_eq_none_iff]
  intro inside
  have unlabelled : NoLabel label := List.IsChain.infix (noLabel_text _) inside
  exact labels unlabelled

/-- `SSID:` has one. -/
theorem ssid_labels : ¬NoLabel (txt "SSID:") := by
  unfold NoLabel
  decide

/-- The first row in use is the listing's. -/
theorem findSome_lines_text (list : LinkList) {name : Text} (line : newline ∉ name) :
    (lines (list.text name line)).findSome? Hud.parseLinkRow =
      some (decimal list.signal, decimal list.freq ++ txt " MHz", some (escape name)) := by
  have clean : ∀ s ∈ (list.rows name line).map LinkRow.line, newline ∉ s ∧ s ≠ [] := by
    intro s member
    obtain ⟨row, -, rfl⟩ := List.mem_map.mp member
    exact row.line_clean
  have unused : (list.before.map LinkRow.line).findSome? Hud.parseLinkRow = none := by
    rw [List.findSome?_eq_none_iff]
    intro s member
    obtain ⟨row, inside, rfl⟩ := List.mem_map.mp member
    rw [row.parseLinkRow_line, list.beforeUnused row inside]
    rfl
  rw [text, lines_intercalate clean, rows, List.map_append, List.findSome?_append, unused,
    List.map_cons, List.findSome?_cons, LinkRow.parseLinkRow_line]
  rfl

/-- **The name `nmcli` reports is taken over.** -/
theorem parseLink_text (list : LinkList) {name : Text} (line : newline ∉ name) (named : name ≠ [])
    (shown : name ≠ txt "--") (h : Hud) :
    Hud.SameLive (h.applyWifiSsid name) (h.parseLink (list.text name line)) := by
  have unnamed : h.linkName (list.text name line) = h := by
    rw [Hud.linkName, list.strstr_text line ssid_labels]
  have nonempty : escape name ≠ [] := fun empty => named (escape_eq_nil_iff.mp empty)
  have dashes : escape name ≠ txt "--" := by
    intro same
    have whole : name = txt "--" := by
      rw [← unescape_escape name, same]
      decide
    exact shown whole
  unfold Hud.parseLink Hud.linkRow
  rw [unnamed, list.findSome_lines_text line]
  simp only [Hud.applyLinkRow, nonempty, dashes, ne_eq, not_false_eq_true, and_self, if_true,
    unescape_escape]
  have kept : Hud.SameLive h ((h.linkSignal (list.text name line)).linkFreq (list.text name line)) :=
    (h.linkSignal_sameLive _).trans (Hud.linkFreq_sameLive _ _)
  generalize (h.linkSignal (list.text name line)).linkFreq (list.text name line) = g at kept
  refine Hud.SameLive.applyWifiSsid (kept.trans ?_) name
  split_ifs <;> exact ⟨rfl, rfl, rfl, rfl, rfl⟩

end LinkList

end Ginkgo
