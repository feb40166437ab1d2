import Ginkgo.Reports.LinkReport

/-!
# The values of the link report

`parse_link` looks for its labels in the whole text, names included. The frequency of `iw` is
looked for with the tab before it, which no name can have, while the signal is looked for without:
it is read from its own line as long as neither the name nor a line before it contains the label.
In the listing of `nmcli` no label can occur, but a signal of 0 is taken for a missing one
(`Ginkgo.Hud.parseLink_values`).
-/

namespace Ginkgo

open CText

/-- The printable characters other than the backslash. -/
def Printable (name : Text) : Prop := ∀ c ∈ name, 32 ≤ c ∧ c ≤ 126 ∧ c ≠ backslash

instance (name : Text) : Decidable (Printable name) := inferInstanceAs (Decidable (∀ _ ∈ _, _))

/-- A printable name is on one line. -/
theorem Printable.line {name : Text} (printable : Printable name) : newline ∉ name :=
  fun member => absurd (printable newline member).1 (by decide)

/-- The text has none of the labels of a signal. -/
def Unsignalled (s : Text) : Prop := ¬txt "signal:" <:+: s ∧ ¬txt "signal avg:" <:+: s

instance (s : Text) : Decidable (Unsignalled s) :=
  decidable_of_iff (has s (txt "signal:") = false ∧ has s (txt "signal avg:") = false) (by
    unfold Unsignalled
    rw [← has_iff_isInfix, ← has_iff_isInfix, Bool.not_eq_true, Bool.not_eq_true])

/-- What `iw dev … link` prints about a connection, except for the name: the address of the
access point, the interface, the frequency, some lines, and the level of the signal below 0. -/
structure SignalLink where
  mac : Text
  iface : Text
  freq : Nat
  further : List Text
  level : Nat
  macHex : ∀ c ∈ mac, isDigit c = true ∨ (97 ≤ c ∧ c ≤ 102) ∨ c = colon
  ifacePlain : ∀ c ∈ iface, c ≠ colon ∧ isSpace c = false
  freqPositive : 0 < freq
  freqInt : freq < 2 ^ 31
  furtherLine : ∀ s ∈ further, newline ∉ s
  levelPositive : 0 < level
  levelLow : level ≤ 120

namespace SignalLink

/-- The first line. -/
def header (link : SignalLink) : Text :=
  txt "Connected to " ++ link.mac ++ txt " (on " ++ link.iface ++ txt ")"

/-- The line with the level. -/
def signalLine (link : SignalLink) : Text :=
  tab :: txt "signal: " ++ (dash :: decimal link.level ++ txt " dBm")

/-- The lines before the one of the signal. -/
def front (link : SignalLink) (name : Text) : List Text :=
  link.header :: (tab :: txt "SSID: " ++ name) :: (tab :: txt "freq: " ++ decimal link.freq) ::
    link.further.map (tab :: ·)

/-- The report about the network that is printed as `name`. -/
def text (link : SignalLink) (name : Text) : Text :=
  (link.front name).flatMap (fun s => s ++ [newline]) ++ (link.signalLine ++ [newline])

/-- The level of the signal. -/
def dbm (link : SignalLink) : Int := -(link.level : Int)

/-! ## Where the labels are -/

/-- A byte of an address is none of the label's. -/
theorem ne_of_lowerHex {c d : UInt8} (hex : isDigit c = true ∨ (97 ≤ c ∧ c ≤ 102) ∨ c = colon)
    (other : isDigit d = false ∧ ¬(97 ≤ d ∧ d ≤ 102) ∧ d ≠ colon) : c ≠ d := by
  rintro rfl
  rcases hex with digit | letter | stop
  · rw [other.1] at digit
    cases digit
  · exact other.2.1 letter
  · exact other.2.2 stop

/-- A label does not occur in the first line: the colons there are those of an address. -/
theorem header_unlabelled (link : SignalLink) (c : UInt8) (label : Text)
    (fixed : c ∉ txt "Connected to " ∧ c ∉ txt " (on ")
    (other : isDigit c = false ∧ ¬(97 ≤ c ∧ c ≤ 102) ∧ c ≠ colon) (stops : colon ∈ label) :
    ¬(c :: label) <:+: link.header := by
  have absent : c ∉ txt "Connected to " ++ link.mac ++ txt " (on " := by
    simp only [List.mem_append, not_or]
    exact ⟨⟨fixed.1, fun member => ne_of_lowerHex (link.macHex c member) other rfl⟩, fixed.2⟩
  have ends : colon ∉ link.iface ++ txt ")" := by
    simp only [List.mem_append, not_or]
    exact ⟨fun member => (link.ifacePlain _ member).1 rfl, by decide⟩
  rw [header, List.append_assoc, isInfix_append_of_notMem absent]
  exact fun inside => ends (inside.subset (List.mem_cons_of_mem c stops))

/-- The header is one line without tabs. -/
theorem header_plain (link : SignalLink) : newline ∉ link.header ∧ tab ∉ link.header := by
  have mac (d : UInt8) (other : isDigit d = false ∧ ¬(97 ≤ d ∧ d ≤ 102) ∧ d ≠ colon) :
      d ∉ link.mac := fun member => ne_of_lowerHex (link.macHex d member) other rfl
  have iface (d : UInt8) (blank : isSpace d = true) : d ∉ link.iface := fun member => by
    rw [(link.ifacePlain d member).2] at blank
    cases blank
  simp only [header, List.mem_append, not_or]
  exact ⟨⟨⟨⟨⟨by decide, mac _ (by decide)⟩, by decide⟩, iface _ (by decide)⟩, by decide⟩,
    ⟨⟨⟨⟨by decide, mac _ (by decide)⟩, by decide⟩, iface _ (by decide)⟩, by decide⟩⟩

/-- The decimal digits are none of the letters of a label. -/
theorem notMem_decimal {c : UInt8} (other : isDigit c = false) (n : Nat) : c ∉ decimal n := by
  intro member
  rw [isDigit_of_mem_decimal member] at other
  cases other

/-- No line before the one of the signal has a label of a signal, when neither the name nor a
further line has one. -/
theorem front_unsignalled (link : SignalLink) {name : Text} (named : Unsignalled name)
    (further : ∀ s ∈ link.further, Unsignalled s) : ∀ s ∈ link.front name, Unsignalled s := by
  have after (front : Text) {rest : Text} (absent : 115 ∉ front) (clean : Unsignalled rest) :
      Unsignalled (front ++ rest) := by
    constructor
    · exact (@isInfix_append_of_notMem front rest (txt "ignal:") 115 absent).not.mpr clean.1
    · exact (@isInfix_append_of_notMem front rest (txt "ignal avg:") 115 absent).not.mpr clean.2
  intro s member
  simp only [front, List.mem_cons, List.mem_map] at member
  rcases member with rfl | rfl | rfl | ⟨t, inside, rfl⟩
  · exact ⟨link.header_unlabelled 115 (txt "ignal:") (by decide) (by decide) (by decide),
      link.header_unlabelled 115 (txt "ignal avg:") (by decide) (by decide) (by decide)⟩
  · exact after (tab :: txt "SSID: ") (by decide) named
  · have clean : Unsignalled (decimal link.freq) := by
      have letter := notMem_decimal (c := colon) (by decide) link.freq
      exact ⟨fun inside => letter (inside.subset (by decide)),
        fun inside => letter (inside.subset (by decide))⟩
    exact after (tab :: txt "freq: ") (by decide) clean
  · exact after [tab] (by decide) (further t inside)

/-- **The signal is read from its own line.** -/
theorem scanLabel_signal (link : SignalLink) {name : Text} (named : Unsignalled name)
    (further : ∀ s ∈ link.further, Unsignalled s) :
    Hud.scanLabel (txt "signal avg:") (link.text name) = none ∧
      Hud.scanLabel (txt "signal:") (link.text name) = some (some link.dbm) := by
  have clean := link.front_unsignalled named further
  constructor
  · have last : strstr (link.signalLine ++ [newline]) (txt "signal avg:") = none := by
      have digits := notMem_decimal (c := 118) (by decide) link.level
      have absent : (118 : UInt8) ∉ link.signalLine ++ [newline] := by
        simp [signalLine, digits]
        decide
      exact strstr_eq_none_iff.mpr fun inside => absent (inside.subset (by decide))
    rw [Hud.scanLabel, text, strstr_flatMap_lines (by decide) (by decide)
      (fun s member => (clean s member).2), last]
    rfl
  · have tabbed : link.signalLine ++ [newline] =
        [tab] ++ (txt "signal: " ++ (dash :: (decimal link.level ++ (txt " dBm" ++ [newline])))) := by
      simp [signalLine]
    have found : txt "signal:" <+:
        txt "signal: " ++ (dash :: (decimal link.level ++ (txt " dBm" ++ [newline]))) :=
      List.IsPrefix.trans (by decide) (List.prefix_append (txt "signal: ") _)
    have last : strstr (link.signalLine ++ [newline]) (txt "signal:") =
        some (txt "signal: " ++ (dash :: (decimal link.level ++ (txt " dBm" ++ [newline])))) := by
      have pattern : txt "signal:" = 115 :: txt "ignal:" := by decide
      rw [tabbed, pattern, strstr_append_of_notMem (by decide), ← pattern, strstr_of_isPrefix found]
    have low := link.levelLow
    rw [Hud.scanLabel, text, strstr_flatMap_lines (by decide) (by decide)
      (fun s member => (clean s member).1), last]
    change some (scanInt (space :: (dash :: (decimal link.level ++ (txt " dBm" ++ [newline]))))) = _
    have stops : ∀ c ∈ (txt " dBm" ++ [newline]).head?, isDigit c = false := by
      rintro c ⟨⟩
      rfl
    rw [scanInt_blank (by decide), scanInt_dash_decimal_append (by omega) stops]
    rfl

/-- **The frequency is read from its own line**, whatever the name is. -/
theorem scanLabel_freq (link : SignalLink) {name : Text} (printable : Printable name) :
    Hud.scanLabel (txt "\tfreq:") (link.text name) = some (some (link.freq : Int)) := by
  have pattern : txt "\tfreq:" = tab :: txt "freq:" := by decide
  have untabbed : tab ∉ name := fun member => absurd (printable tab member).1 (by decide)
  have first : ¬txt "\tfreq:" <:+: link.header := fun inside =>
    link.header_plain.2 (inside.subset (by decide))
  have second : ¬txt "\tfreq:" <:+: tab :: txt "SSID: " ++ name := by
    have absent : tab ∉ txt "SSID: " ++ name := by
      simp only [List.mem_append, not_or]
      exact ⟨by decide, untabbed⟩
    have differs : ¬txt "\tfreq:" <+: tab :: (txt "SSID: " ++ name) := by
      intro starts
      change tab :: 102 :: txt "req:" <+: tab :: 83 :: (txt "SID: " ++ name) at starts
      have letter := (List.cons_prefix_cons.mp (List.cons_prefix_cons.mp starts).2).1
      exact absurd letter (by decide)
    rw [← strstr_eq_none_iff, List.cons_append, strstr_cons_of_not_isPrefix differs,
      strstr_eq_none_iff]
    exact fun inside => absent (inside.subset (by decide))
  have found : txt "\tfreq:" <+: (tab :: txt "freq: ") ++ (decimal link.freq ++ newline ::
      ((link.further.map (tab :: ·)).flatMap (fun s => s ++ [newline]) ++
        (link.signalLine ++ [newline]))) :=
    List.IsPrefix.trans (by decide) (List.prefix_append (tab :: txt "freq: ") _)
  have rest : link.text name =
      [link.header, tab :: txt "SSID: " ++ name].flatMap (fun s => s ++ [newline]) ++
        ((tab :: txt "freq: ") ++ (decimal link.freq ++ newline ::
          ((link.further.map (tab :: ·)).flatMap (fun s => s ++ [newline]) ++
            (link.signalLine ++ [newline])))) := by
    simp [text, front]
  have absent : ∀ s ∈ [link.header, tab :: txt "SSID: " ++ name], ¬txt "\tfreq:" <:+: s := by
    intro s member
    rcases List.mem_cons.mp member with rfl | member
    · exact first
    · rw [List.mem_singleton.mp member]
      exact second
  rw [Hud.scanLabel, rest, strstr_flatMap_lines (by decide) (by decide) absent,
    strstr_of_isPrefix found]
  change some (scanInt (space :: (decimal link.freq ++ newline :: _))) = _
  have stops (after : Text) : ∀ c ∈ (newline :: after).head?, isDigit c = false := by
    intro c head
    rw [← Option.some.inj head]
    decide
  rw [scanInt_blank (by decide), scanInt_decimal_append link.freqInt (stops _)]

/-- The report as one of those that bring a name. -/
def toIw (link : SignalLink) : IwLink where
  peer := link.mac ++ txt " (on " ++ link.iface ++ txt ")"
  rest := (txt "freq: " ++ decimal link.freq) ::
    (link.further ++ [txt "signal: " ++ (dash :: decimal link.level ++ txt " dBm")])
  peerLine := by
    have clean := link.header_plain.1
    simp only [header, List.mem_append, not_or] at clean ⊢
    exact ⟨⟨⟨clean.1.1.1.2, clean.1.1.2⟩, clean.1.2⟩, clean.2⟩
  peerPlain := by
    intro inside
    apply link.header_unlabelled 83 (txt "SID:") (by decide) (by decide) (by decide)
    refine inside.trans ⟨txt "Connected to ", [], ?_⟩
    simp [header]
  restLine := by
    have digits := notMem_decimal (c := newline) (by decide)
    intro s member
    simp only [List.mem_cons, List.mem_append, List.not_mem_nil, or_false] at member
    rcases member with rfl | inside | rfl
    · simp only [List.mem_append, not_or]
      exact ⟨by decide, digits _⟩
    · exact link.furtherLine s inside
    · simp only [List.mem_append, List.mem_cons, not_or]
      exact ⟨by decide, ⟨by decide, digits _⟩, by decide⟩

/-- It is a report of `iw` as the one about names has it. -/
theorem toIw_text (link : SignalLink) (name : Text) : link.toIw.text name = link.text name := by
  simp [IwLink.text, IwLink.tail, toIw, text, front, header, signalLine, List.flatMap_map]

end SignalLink

namespace Hud

/-- What a report leaves of the values shown. -/
theorem applyWifiSsid_values (h : Hud) (s : Text) :
    (h.applyWifiSsid s).wifi.signal = h.wifi.signal ∧
      (h.applyWifiSsid s).wifi.signalDbm = h.wifi.signalDbm ∧
      (h.applyWifiSsid s).wifi.freq = h.wifi.freq := by
  obtain ⟨hold, ssid, same, -⟩ := h.applyWifiSsid_writes s
  rw [same]
  exact ⟨rfl, rfl, rfl⟩

/-- The values that an in-use row leaves. -/
theorem applyLinkRow_values (h : Hud) (signal freq : Text) (name : Option Text) :
    (h.applyLinkRow (signal, freq, name)).wifi.signal =
        (if 0 ≤ h.wifi.signalDbm ∧ 0 < atoi signal then clampi (atoi signal) 0 100
          else h.wifi.signal) ∧
      (h.applyLinkRow (signal, freq, name)).wifi.signalDbm = h.wifi.signalDbm ∧
      (h.applyLinkRow (signal, freq, name)).wifi.freq =
        if freq ≠ [] ∧ freq ≠ txt "--" then .print 32 freq else h.wifi.freq := by
  have first : ∃ k, (if 0 ≤ h.wifi.signalDbm ∧ 0 < atoi signal then
        { h with wifi.signal := clampi (atoi signal) 0 100 } else h) = k ∧
      k.wifi.signal = (if 0 ≤ h.wifi.signalDbm ∧ 0 < atoi signal then clampi (atoi signal) 0 100
        else h.wifi.signal) ∧
      k.wifi.signalDbm = h.wifi.signalDbm ∧ k.wifi.freq = h.wifi.freq :=
    ⟨_, rfl, by split <;> rfl, by split <;> rfl, by split <;> rfl⟩
  obtain ⟨k, measured, ofSignal, ofDbm, ofFreq⟩ := first
  have second : ∃ g, (if freq ≠ [] ∧ freq ≠ txt "--" then
        { k with wifi.freq := .print 32 freq } else k) = g ∧
      g.wifi.signal = k.wifi.signal ∧ g.wifi.signalDbm = k.wifi.signalDbm ∧
      g.wifi.freq = if freq ≠ [] ∧ freq ≠ txt "--" then .print 32 freq else k.wifi.freq :=
    ⟨_, rfl, by split <;> rfl, by split <;> rfl, by split <;> rfl⟩
  obtain ⟨g, tuned, sameSignal, sameDbm, ofTuned⟩ := second
  have whole := And.intro (sameSignal.trans ofSignal) (And.intro (sameDbm.trans ofDbm)
    (ofFreq ▸ ofTuned))
  unfold applyLinkRow
  simp only
  rw [measured, tuned]
  cases name with
  | none => exact whole
  | some name =>
      simp only
      split
      · obtain ⟨lastSignal, lastDbm, lastFreq⟩ := g.applyWifiSsid_values (unescape name)
        rw [lastSignal, lastDbm, lastFreq]
        exact whole
      · exact whole

/-- The values that a report of `iw` leaves. -/
theorem parseLink_iw (h : Hud) (link : SignalLink) {name : Text} (printable : Printable name) :
    (h.parseLink (link.text name)).wifi.freq.text = decimal link.freq ∧
      (Unsignalled name → (∀ s ∈ link.further, Unsignalled s) →
        (h.parseLink (link.text name)).wifi.signalDbm = link.dbm) := by
  have unused : (lines (link.text name)).findSome? parseLinkRow = none := by
    rw [← link.toIw_text]
    exact link.toIw.findSome_lines_text printable.line
  have positive : (0 : Int) < link.freq := by exact_mod_cast link.freqPositive
  have stored : (Buf.print 32 (decimal link.freq)).text = decimal link.freq := by
    have short := decimal_length link.freqInt
    exact Buf.print_of_lt (by omega)
  have shown (g : Hud) : g.linkFreq (link.text name) =
      { g with wifi.freq := .print 32 (decimal link.freq) } := by
    unfold linkFreq
    rw [link.scanLabel_freq printable]
    exact if_pos positive
  unfold parseLink linkRow
  rw [unused, shown]
  refine ⟨stored, fun named further => ?_⟩
  obtain ⟨average, plain⟩ := link.scanLabel_signal named further
  have levelPositive := link.levelPositive
  have levelLow := link.levelLow
  have range : ¬(0 ≤ link.dbm ∨ link.dbm < -120) := by
    unfold SignalLink.dbm
    omega
  unfold linkSignal applySignalDbm
  rw [average, plain]
  simp only [if_neg range]

/-- The values that a listing of `nmcli` leaves. -/
theorem parseLink_nmcli (h : Hud) (list : LinkList) {name : Text} (line : newline ∉ name)
    (percent : list.signal ≤ 100) (int : list.freq < 2 ^ 31) (level : h.wifi.signalDbm = 0) :
    (h.parseLink (list.text name line)).wifi.freq.text = decimal list.freq ++ txt " MHz" ∧
      (h.parseLink (list.text name line)).wifi.signalDbm = 0 ∧
      (h.parseLink (list.text name line)).wifi.signal =
        if 0 < list.signal then (list.signal : Int) else h.wifi.signal := by
  have unnamed : h.linkName (list.text name line) = h := by
    rw [linkName, list.strstr_text line LinkList.ssid_labels]
  have unlabelled (label : Text) (labels : ¬LinkList.NoLabel label) :
      scanLabel label (list.text name line) = none := by
    rw [scanLabel, list.strstr_text line labels]
    rfl
  have unsignalled : h.linkSignal (list.text name line) = h := by
    unfold linkSignal
    rw [unlabelled _ (by unfold LinkList.NoLabel; decide),
      unlabelled _ (by unfold LinkList.NoLabel; decide)]
  have untuned : h.linkFreq (list.text name line) = h := by
    unfold linkFreq
    rw [unlabelled _ (by unfold LinkList.NoLabel; decide),
      unlabelled _ (by unfold LinkList.NoLabel; decide)]
  have number : atoi (decimal list.signal) = list.signal := atoi_decimal (by omega)
  have unit : (77 : UInt8) ∈ decimal list.freq ++ txt " MHz" :=
    List.mem_append_right _ (by decide)
  have shown : decimal list.freq ++ txt " MHz" ≠ [] ∧
      decimal list.freq ++ txt " MHz" ≠ txt "--" := by
    constructor
    · intro empty
      rw [empty] at unit
      cases unit
    · intro dashes
      rw [dashes] at unit
      exact absurd unit (by decide)
  have stored : (Buf.print 32 (decimal list.freq ++ txt " MHz")).text =
      decimal list.freq ++ txt " MHz" := by
    have short := decimal_length int
    have four : (txt " MHz").length = 4 := by decide
    exact Buf.print_of_lt (by rw [List.length_append]; omega)
  unfold parseLink linkRow
  rw [unnamed, unsignalled, untuned, list.findSome_lines_text line]
  obtain ⟨signal, dbm, freq⟩ := h.applyLinkRow_values (decimal list.signal)
    (decimal list.freq ++ txt " MHz") (some (escape name))
  rw [freq, if_pos shown, dbm, signal, number, level]
  refine ⟨stored, rfl, ?_⟩
  have whole : clampi list.signal 0 100 = list.signal := by
    unfold clampi
    rw [if_neg (by omega), if_neg (by omega)]
  by_cases positive : 0 < list.signal
  · rw [if_pos ⟨le_rfl, by exact_mod_cast positive⟩, if_pos positive, whole]
  · rw [if_neg fun both => positive (by exact_mod_cast both.2), if_neg positive]

/-- **The values of a link report.** Of a report of `iw` the frequency is taken over whatever the
network is called, and the signal when no label of a signal stands before its line. Of a listing
of `nmcli` the frequency is taken over, and the signal unless it is 0. -/
theorem parseLink_values (h : Hud) {name : Text} (printable : Printable name) :
    (∀ link : SignalLink,
      (h.parseLink (link.text name)).wifi.freq.text = decimal link.freq ∧
        (Unsignalled name → (∀ s ∈ link.further, Unsignalled s) →
          (h.parseLink (link.text name)).wifi.signalDbm = link.dbm)) ∧
    ∀ list : LinkList, list.signal ≤ 100 → list.freq < 2 ^ 31 → h.wifi.signalDbm = 0 →
      (h.parseLink (list.text name printable.line)).wifi.freq.text =
          decimal list.freq ++ txt " MHz" ∧
        (h.parseLink (list.text name printable.line)).wifi.signalDbm = 0 ∧
        (h.parseLink (list.text name printable.line)).wifi.signal =
          if 0 < list.signal then (list.signal : Int) else h.wifi.signal :=
  ⟨fun link => h.parseLink_iw link printable,
    fun list percent int level => h.parseLink_nmcli list printable.line percent int level⟩

/-- A report of `iw` on a phone. -/
def phoneLink : SignalLink where
  mac := txt "02:00:00:00:00:01"
  iface := txt "wlan0"
  freq := 2412
  further := [txt "RX: 100 bytes (1 packets)"]
  level := 60
  macHex := by decide +kernel
  ifacePlain := by decide +kernel
  freqPositive := by decide
  freqInt := by decide
  furtherLine := by decide +kernel
  levelPositive := by decide
  levelLow := by decide

/-- A listing of `nmcli` in which the network in use has a signal. -/
def phoneList (signal : Nat) : LinkList where
  before := []
  signal := signal
  freq := 2412
  after := [⟨false, 30, 2437, txt "Cafe: 2", by decide +kernel⟩]
  beforeUnused := nofun

/-- A phone whose signal has not been measured. -/
def unmeasuredHud : Hud where
  ui := { W := 1080, H := 2340 }
  wifi := { signal := 70 }

/-- A name that contains a colon is printable. -/
theorem homeFive_printable : Printable (txt "Home: 5") := by decide +kernel

/-- The level of the phone's report, and the percentage of its listing. -/
theorem parseLink_values_home :
    (unmeasuredHud.parseLink (phoneLink.text (txt "Home: 5"))).wifi.signalDbm = -60 ∧
      (unmeasuredHud.parseLink
        ((phoneList 40).text (txt "Home: 5") homeFive_printable.line)).wifi.signal = 40 :=
  have values := @parseLink_values unmeasuredHud (txt "Home: 5") homeFive_printable
  ⟨(values.1 phoneLink).2 (by decide +kernel) (by decide +kernel),
    (values.2 (phoneList 40) (by decide) (by decide) rfl).2.2⟩

/-- The signal of the network `Free signal: yes` is never read, and a signal of 0 leaves the last
one. -/
theorem parseLink_misreads :
    (¬∀ (h : Hud) (name : Text), Printable name → ∀ link : SignalLink,
      (∀ s ∈ link.further, Unsignalled s) →
        (h.parseLink (link.text name)).wifi.signalDbm = link.dbm) ∧
    ¬∀ (h : Hud) (name : Text) (printable : Printable name) (list : LinkList),
      list.signal ≤ 100 → list.freq < 2 ^ 31 → h.wifi.signalDbm = 0 →
        (h.parseLink (list.text name printable.line)).wifi.signal = list.signal := by
  constructor
  · intro always
    have read := always unmeasuredHud (txt "Free signal: yes") (by decide +kernel) phoneLink
      (by decide +kernel)
    exact absurd read (by decide +kernel)
  · intro always
    have read := always unmeasuredHud (txt "Home") (by decide +kernel) (phoneList 0) (by decide)
      (by decide) rfl
    exact absurd read (by decide +kernel)

end Hud

end Ginkgo
