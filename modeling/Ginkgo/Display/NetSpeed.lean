import Mathlib.Data.List.DropRight
import Mathlib.Data.Rat.Floor
import Ginkgo.CText.Decimal
import Ginkgo.CText.Fgets
import Ginkgo.Display.CpuLoad
import Ginkgo.Numbers.Binary64
import Ginkgo.Transition.Run

/-!
# The network speed

`sample_net` reads the byte counters of the connected interface from `/proc/net/dev` and turns
two readings into a speed. What it reads of a table like the one of the kernel is what the table
says of the interface (`Ginkgo.readDev_render`); and a speed that is shown is the one between two
readings since the connection was last seen, with nothing left out that would have given a newer
one (`Ginkgo.NetSpeed.speed_exact`).
-/

namespace Ginkgo

open CText Transition

/-! ## Reading the table -/

/-- `%31s` of `scanf`, empty if it finds nothing. -/
def scanWord31 (s : Text) : Text :=
  ((s.dropWhile isSpace).takeWhile fun c => !isSpace c).take 31

/-- The body of the loop of `sample_net`: what a line says of the interface. -/
def devLine (want line : Text) : Option (UInt64 × UInt64) :=
  let line := cstr line
  if colon ∈ line then
    let ifn := scanWord31 (cutAt colon line)
    if ifn = [] ∨ ifn ≠ want then none
    else
      -- Both conversions succeed when the ninth number is there.
      let values := scanLlus 9 ((line.dropWhile (· ≠ colon)).drop 1)
      match values[0]?, values[8]? with
      | some r, some t => some (r, t)
      | _, _ => none
  else none

/-- The first line that says something of the interface ends the loop. -/
def readDev (want file : Text) : Option (UInt64 × UInt64) :=
  (fgetsLines 256 file).findSome? (devLine want)

/-! ## The speed -/

/-- What `sample_net` meets: the connection, what `/proc/net/dev` holds if it can be opened, and
the clock in nanoseconds. -/
structure NetTick where
  connected : Bool
  iface : Text
  dev : Option Text
  now : UInt64

/-- What `sample_net` keeps: the speeds, and the reading that the next one is compared with. -/
structure NetSpeed where
  ready : Bool := false
  rxBps : Nat := 0
  txBps : Nat := 0
  t : UInt64 := 0
  rxB : UInt64 := 0
  txB : UInt64 := 0
  iface : Text := []

/-- `(double)span / 1e9`: nanoseconds in seconds. -/
def seconds (span : UInt64) : ℚ :=
  Binary64.round (Binary64.round (span.toNat : ℚ) / 1000000000)

/-- `(unsigned long)(bytes / dt)`: a quotient of doubles, of which the whole part is taken. -/
def perSecond (bytes : UInt64) (dt : ℚ) : Nat :=
  (Binary64.round (Binary64.round (bytes.toNat : ℚ) / dt)).floor.toNat

namespace NetTick

/-- There is a connection, and an interface to read. -/
def online (tick : NetTick) : Bool := tick.connected && !tick.iface.isEmpty

/-- The counters that are read, if there is a connection to read them of. -/
def reading (tick : NetTick) : Option (UInt64 × UInt64) :=
  if tick.online then tick.dev.bind (readDev tick.iface) else none

end NetTick

namespace NetSpeed

/-- `sample_net`. -/
def sampleNet (net : NetSpeed) (tick : NetTick) : NetSpeed :=
  if !tick.online then if net.ready || !net.iface.isEmpty then {} else net
  else
    match tick.dev.bind (readDev tick.iface) with
    | none => net
    | some (rx, tx) =>
        if net.iface ≠ tick.iface ∨ net.t = 0 ∨ rx < net.rxB ∨ tx < net.txB then
          { net with iface := tick.iface.take 31, rxB := rx, txB := tx, t := tick.now }
        else
          let dt := seconds (tick.now - net.t)
          if dt < Binary64.round (8 / 10) then net
          else
            { net with
              rxBps := perSecond (rx - net.rxB) dt
              txBps := perSecond (tx - net.txB) dt
              rxB := rx
              txB := tx
              t := tick.now
              ready := true }

end NetSpeed

/-! ## What a table says is read -/

/-- A line of the table: the name and the counters, each behind some spaces. -/
structure DevRow where
  pad : Nat
  name : Text
  counters : List (Nat × UInt64)

namespace DevRow

/-- The counters of a line, each behind its spaces. -/
def fields (counters : List (Nat × UInt64)) : Text :=
  counters.flatMap fun field => List.replicate field.1 space ++ decimal field.2.toNat

/-- The line of an interface. -/
def line (row : DevRow) : Text :=
  List.replicate row.pad space ++ row.name ++ colon :: fields row.counters

/-- The bytes received and sent. -/
def bytes (row : DevRow) : UInt64 × UInt64 :=
  ((row.counters[0]?.map (·.2)).getD 0, (row.counters[8]?.map (·.2)).getD 0)

/-- A line as the kernel writes it, with a name and a length that `sample_net` has room for. -/
structure Plain (row : DevRow) : Prop where
  named : row.name ≠ []
  short : row.name.length ≤ 31
  word : ∀ c ∈ row.name, isSpace c = false ∧ c ≠ colon ∧ c ≠ 0
  enough : 9 ≤ row.counters.length
  apart : ∀ field ∈ row.counters.tail, 0 < field.1
  fits : row.line.length < 255

end DevRow

/-- The table: some lines without a colon, and then the interfaces. -/
def renderDev (heads : List Text) (rows : List DevRow) : Text :=
  (heads ++ rows.map DevRow.line).flatMap (· ++ [newline])

section Table

/-- Spaces in front of a text that is scanned do not matter. -/
theorem replicate_space_dropWhile (n : Nat) (s : Text) :
    (List.replicate n space ++ s).dropWhile isSpace = s.dropWhile isSpace := by
  rw [List.dropWhile_append_of_pos]
  intro c member
  rw [List.eq_of_mem_replicate member]
  rfl

/-- A number behind spaces is read, and what follows it is left. -/
theorem scanLlu_decimal (n : Nat) (value : UInt64) {rest : Text}
    (stops : ∀ c ∈ rest.head?, isDigit c = false) :
    scanLlu (List.replicate n space ++ decimal value.toNat ++ rest) = some (value, rest) := by
  have digit : ∀ c ∈ decimal value.toNat, isDigit c := fun c => isDigit_of_mem_decimal
  have taken := takeWhile_decimal_append value.toNat stops
  have number := digitsValue_decimal value.toNat
  have nonempty := decimal_ne_nil value.toNat
  have dropped : (decimal value.toNat ++ rest).dropWhile isDigit = rest := by
    have whole := List.takeWhile_append_dropWhile (p := isDigit) (l := decimal value.toNat ++ rest)
    rw [taken] at whole
    exact List.append_cancel_left whole
  have small : ¬2 ^ 64 ≤ value.toNat := not_le.mpr value.toNat_lt
  have body : (List.replicate n space ++ (decimal value.toNat ++ rest)).dropWhile isSpace =
        decimal value.toNat ++ rest ∧
      (decimal value.toNat ++ rest).head? ≠ some dash ∧
      (decimal value.toNat ++ rest).head? ≠ some 43 := by
    rw [replicate_space_dropWhile]
    generalize decimal (value.toNat : Int) = digits at nonempty digit
    obtain ⟨c, tail, rfl⟩ := List.exists_cons_of_ne_nil nonempty
    obtain ⟨plain, unsigned, unsigned'⟩ := isDigit_plain (digit c List.mem_cons_self)
    simp [plain, unsigned, unsigned']
  obtain ⟨body, unsigned, unsigned'⟩ := body
  have part : unsignedPart (List.replicate n space ++ (decimal value.toNat ++ rest)) =
      decimal value.toNat ++ rest := by
    unfold unsignedPart
    simp only
    rw [body, if_neg (not_or.mpr ⟨unsigned, unsigned'⟩)]
  rw [List.append_assoc, scanLlu]
  simp only
  rw [part, taken, dropped, body, if_neg nonempty, number, if_neg small, if_neg unsigned,
    UInt64.ofNat_toNat]

/-- One number is read and then the others. -/
theorem scanLlus_succ {count : Nat} {s rest : Text} {value : UInt64}
    (read : scanLlu s = some (value, rest)) :
    scanLlus (count + 1) s = value :: scanLlus count rest := by
  rw [scanLlus, read]

/-- Numbers apart from each other are read one after the other. -/
theorem scanLlus_fields {counters : List (Nat × UInt64)}
    (apart : ∀ field ∈ counters.tail, 0 < field.1) {rest : Text}
    (stops : ∀ c ∈ rest.head?, isDigit c = false) :
    ∀ count ≤ counters.length,
      scanLlus count (DevRow.fields counters ++ rest) = (counters.take count).map (·.2) := by
  induction counters with
  | nil =>
      intro count least
      rw [Nat.le_zero.mp least]
      rfl
  | cons field counters ih =>
      intro count least
      cases count with
      | zero => rfl
      | succ count =>
          have ends : ∀ c ∈ (DevRow.fields counters ++ rest).head?, isDigit c = false := by
            cases counters with
            | nil => exact stops
            | cons next counters =>
                obtain ⟨n, positive⟩ : ∃ n, next.1 = n + 1 :=
                  ⟨next.1 - 1, by have := apart next (by simp); omega⟩
                rintro c member
                simp only [DevRow.fields, List.flatMap_cons, positive, List.replicate_succ,
                  List.cons_append, List.head?_cons, Option.mem_def, Option.some.injEq] at member
                rw [← member]
                rfl
          have later := ih (fun field member => apart field (List.mem_of_mem_tail member)) count
            (Nat.le_of_succ_le_succ least)
          have shape : DevRow.fields (field :: counters) ++ rest =
              List.replicate field.1 space ++ decimal field.2.toNat ++
                (DevRow.fields counters ++ rest) :=
            List.append_assoc _ _ _
          rw [shape, scanLlus_succ (scanLlu_decimal field.1 field.2 ends), later,
            List.take_succ_cons, List.map_cons]

/-- A line without a colon says nothing. -/
theorem devLine_head {want head : Text} (plain : colon ∉ head) :
    devLine want (head ++ [newline]) = none := by
  have absent : colon ∉ cstr (head ++ [newline]) := by
    intro member
    rcases List.mem_append.mp (List.takeWhile_subset _ member) with inside | inside
    · exact plain inside
    · exact absurd (List.mem_singleton.mp inside) (by decide : colon ≠ newline)
  unfold devLine
  simp only
  rw [if_neg absent]

/-- A name that fits its conversion is read whole. -/
theorem scanWord31_word {name : Text} (pad : Nat) (some : name ≠ []) (short : name.length ≤ 31)
    (word : ∀ c ∈ name, isSpace c = false) :
    scanWord31 (List.replicate pad space ++ name) = name := by
  obtain ⟨c, tail, rfl⟩ := List.exists_cons_of_ne_nil some
  have first := word c List.mem_cons_self
  have all : (c :: tail).takeWhile (fun c => !isSpace c) = c :: tail := by
    rw [List.takeWhile_eq_self_iff]
    intro d member
    rw [word d member]
    rfl
  rw [scanWord31, replicate_space_dropWhile, List.dropWhile_cons_of_neg (by simp [first]), all,
    List.take_of_length_le short]

/-- What a line of the table is made of. -/
theorem DevRow.mem_line {row : DevRow} {c : UInt8} (member : c ∈ row.line) :
    c ∈ row.name ∨ c = space ∨ c = colon ∨ isDigit c = true := by
  simp only [DevRow.line, List.mem_append, List.mem_cons] at member
  rcases member with (blank | letter) | same | digit
  · exact .inr (.inl (List.eq_of_mem_replicate blank))
  · exact .inl letter
  · exact .inr (.inr (.inl same))
  · obtain ⟨field, -, inside⟩ := List.mem_flatMap.mp digit
    rcases List.mem_append.mp inside with blank | digit
    · exact .inr (.inl (List.eq_of_mem_replicate blank))
    · exact .inr (.inr (.inr (isDigit_of_mem_decimal digit)))

/-- A line of the table is a string, on one line. -/
theorem DevRow.Plain.clean {row : DevRow} (plain : row.Plain) :
    0 ∉ row.line ∧ newline ∉ row.line := by
  constructor
  · intro member
    rcases DevRow.mem_line member with letter | same | same | digit
    · exact (plain.word 0 letter).2.2 rfl
    · exact absurd same (by decide)
    · exact absurd same (by decide)
    · exact absurd digit (by decide)
  · intro member
    rcases DevRow.mem_line member with letter | same | same | digit
    · exact absurd (plain.word newline letter).1 (by decide)
    · exact absurd same (by decide)
    · exact absurd same (by decide)
    · exact absurd digit (by decide)

/-- A line of the table says what it says to the one who asks for its name only. -/
theorem devLine_row {want : Text} {row : DevRow} (plain : row.Plain) :
    devLine want (row.line ++ [newline]) = if row.name = want then some row.bytes else none := by
  have whole : cstr (row.line ++ [newline]) = row.line ++ [newline] := by
    refine cstr_eq fun c member => ?_
    rintro rfl
    rcases List.mem_append.mp member with inside | last
    · exact plain.clean.1 inside
    · exact absurd (List.mem_singleton.mp last) (by decide)
  have before : colon ∉ List.replicate row.pad space ++ row.name := by
    intro member
    rcases List.mem_append.mp member with blank | letter
    · exact absurd (List.eq_of_mem_replicate blank) (by decide)
    · exact (plain.word colon letter).2.1 rfl
  have shape : row.line ++ [newline] =
      (List.replicate row.pad space ++ row.name) ++
        colon :: (DevRow.fields row.counters ++ [newline]) := by
    simp [DevRow.line]
  have after : ((row.line ++ [newline]).dropWhile (· ≠ colon)).drop 1 =
      DevRow.fields row.counters ++ [newline] := by
    rw [shape, List.dropWhile_append_of_pos, List.dropWhile_cons_of_neg (by simp), List.drop_one,
      List.tail_cons]
    rintro c member
    rw [decide_eq_true_eq]
    rintro rfl
    exact before member
  have name : scanWord31 (cutAt colon (row.line ++ [newline])) = row.name := by
    rw [shape, cutAt_append before]
    exact scanWord31_word row.pad plain.named plain.short fun c member => (plain.word c member).1
  have ends : ∀ c ∈ [newline].head?, isDigit c = false := by simp [isDigit, newline]
  have values := scanLlus_fields plain.apart ends 9 plain.enough
  have member : colon ∈ row.line ++ [newline] := by
    rw [shape]
    simp
  unfold devLine
  simp only
  rw [whole, if_pos member, name, after, values]
  by_cases same : row.name = want
  · have enough := plain.enough
    rw [if_neg (not_or.mpr ⟨plain.named, not_not.mpr same⟩), if_pos same, DevRow.bytes]
    simp only [List.getElem?_map, List.getElem?_take]
    rw [if_pos (by omega), if_pos (by omega),
      List.getElem?_eq_getElem (by omega : 0 < row.counters.length),
      List.getElem?_eq_getElem (by omega : 8 < row.counters.length)]
    rfl
  · rw [if_pos (.inr same), if_neg same]

/-- **What the table says of an interface is read**, from the first line that has its name, and
nothing if none has it. -/
theorem readDev_render {want : Text} {heads : List Text} {rows : List DevRow}
    (plain : ∀ row ∈ rows, row.Plain)
    (above : ∀ head ∈ heads, colon ∉ head ∧ newline ∉ head ∧ head.length < 255) :
    readDev want (renderDev heads rows) = (rows.find? (·.name = want)).map DevRow.bytes := by
  have fit : ∀ line ∈ heads ++ rows.map DevRow.line, newline ∉ line ∧ line.length < 256 - 1 := by
    intro line member
    rcases List.mem_append.mp member with head | below
    · exact (above line head).2
    · obtain ⟨row, inside, rfl⟩ := List.mem_map.mp below
      exact ⟨(plain row inside).clean.2, (plain row inside).fits⟩
  rw [readDev, renderDev, fgetsLines_lines fit, List.map_append, List.findSome?_append]
  have none_above : (heads.map (· ++ [newline])).findSome? (devLine want) = none := by
    rw [List.findSome?_eq_none_iff]
    intro line member
    obtain ⟨head, inside, rfl⟩ := List.mem_map.mp member
    exact devLine_head (above head inside).1
  rw [none_above, Option.none_or]
  clear fit none_above
  induction rows with
  | nil => rfl
  | cons row rows ih =>
      have first := @devLine_row want row (plain row List.mem_cons_self)
      have rest := ih fun other member => plain other (List.mem_cons_of_mem row member)
      rw [List.map_cons, List.map_cons, List.findSome?_cons, first]
      by_cases same : row.name = want
      · rw [if_pos same, List.find?_cons_of_pos (by simpa using same), Option.map_some]
      · rw [if_neg same, List.find?_cons_of_neg (by simpa using same)]
        exact rest

/-- The interface that loops back. -/
def loRow : DevRow := ⟨4, txt "lo", (1, 960) :: List.replicate 7 (4, 0) ++ [(1, 960)]⟩

/-- An interface that has received 5000 bytes and sent 700. -/
def wlanRow : DevRow :=
  ⟨1, txt "wlan0", (1, 5000) :: List.replicate 7 (4, 0) ++ [(7, 700), (1, 12)]⟩

/-- Its bytes are read from a table that has another interface before it. -/
theorem readDev_render_wlan :
    readDev (txt "wlan0")
        (renderDev [txt "Inter-|   Receive", txt " face |bytes    packets"] [loRow, wlanRow]) =
      some (5000, 700) := by
  have lo : loRow.Plain :=
    ⟨by decide, by decide, by decide +kernel, by decide, by decide, by decide⟩
  have wlan : wlanRow.Plain :=
    ⟨by decide, by decide, by decide +kernel, by decide, by decide, by decide⟩
  exact readDev_render (List.forall_mem_cons.mpr ⟨lo, List.forall_mem_singleton.mpr wlan⟩)
    (by decide +kernel)

end Table

/-! ## What is shown -/

namespace NetTick

/-- The interval after which a speed is taken, 0.8 s. -/
abbrev gap : Nat := 800000000

/-- The readings that come too early after one for a speed. -/
def Early (mark : NetTick) (ticks : List NetTick) : Prop :=
  ∀ tick ∈ ticks, tick.reading ≠ none → tick.now.toNat < mark.now.toNat + gap

/-- The ticks since the connection was last missing. -/
def live (ticks : List NetTick) : List NetTick := ticks.rtakeWhile online

/-- The interface stays the same and its counters never fall. -/
def Steady (ticks : List NetTick) : Prop :=
  ticks.Pairwise fun a b => ∀ ra ∈ a.reading, ∀ rb ∈ b.reading,
    a.iface = b.iface ∧ ra.1 ≤ rb.1 ∧ ra.2 ≤ rb.2

/-- The clock has been started and never goes back. -/
structure Clocked (ticks : List NetTick) : Prop where
  started : ∀ tick ∈ ticks, 0 < tick.now
  forward : ticks.Pairwise fun a b => a.now ≤ b.now

/-- A part of the ticks is clocked too. -/
theorem Clocked.sublist {part ticks : List NetTick} (clocked : Clocked ticks)
    (sub : part.Sublist ticks) : Clocked part where
  started tick member := clocked.started tick (sub.subset member)
  forward := List.Pairwise.sublist sub clocked.forward

/-- The last tick is the latest. -/
theorem Clocked.last {ticks : List NetTick} {tick other : NetTick}
    (clocked : Clocked (ticks ++ [tick])) (member : other ∈ ticks) : other.now ≤ tick.now :=
  (List.pairwise_append.mp clocked.forward).2.2 other member tick (List.mem_singleton_self tick)

end NetTick

namespace NetSpeed

open NetTick

/-- What is shown of so many bytes in so many nanoseconds: the whole part of the quotient, with
each operation rounded to a double. -/
def Rate (bytes span shown : Nat) : Prop :=
  shown = (Binary64.round (Binary64.round (bytes : ℚ) /
    Binary64.round (Binary64.round (span : ℚ) / 1000000000))).floor.toNat

/-- How good a speed is: less than one and `2 ^ -49` of it away from the exact one. -/
def Near (bytes span shown : Nat) : Prop :=
  |(shown : ℚ) - bytes * 1000000000 / span| < 1 + bytes * 1000000000 / span / 2 ^ 49

/-- The speeds are those between two readings of one interface, whose counters have not fallen
and which are far enough apart. -/
def Between (a b : NetTick) (net : NetSpeed) : Prop :=
  ∃ ra ∈ a.reading, ∃ rb ∈ b.reading, a.iface = b.iface ∧ ra.1 ≤ rb.1 ∧ ra.2 ≤ rb.2 ∧
    a.now.toNat + gap ≤ b.now.toNat ∧
    (Rate (rb.1.toNat - ra.1.toNat) (b.now.toNat - a.now.toNat) net.rxBps ∧
      Near (rb.1.toNat - ra.1.toNat) (b.now.toNat - a.now.toNat) net.rxBps) ∧
    Rate (rb.2.toNat - ra.2.toNat) (b.now.toNat - a.now.toNat) net.txBps ∧
      Near (rb.2.toNat - ra.2.toNat) (b.now.toNat - a.now.toNat) net.txBps

/-- The speeds that are shown, and where their readings stand among the ticks. -/
def Shown (ticks : List NetTick) (net : NetSpeed) : Prop :=
  ∃ before a mid b later, ticks = before ++ a :: mid ++ b :: later ∧ Between a b net ∧
    Early a mid ∧ (Steady ticks → net.t = b.now ∧ Early b later)

/-- The reading that the next one is compared with. -/
structure Marked (old : List NetTick) (mark : NetTick) (after : List NetTick) (net : NetSpeed) :
    Prop where
  reading : mark.reading = some (net.rxB, net.txB)
  iface : net.iface = mark.iface
  time : net.t = mark.now
  early : Early mark after
  first : Steady (old ++ mark :: after) → net.ready = false → ∀ tick ∈ old, tick.reading = none

/-- What `sample_net` keeps after the ticks since the connection was last missing. -/
structure Tracks (ticks : List NetTick) (net : NetSpeed) : Prop where
  base : (net = {} ∧ ∀ tick ∈ ticks, tick.reading = none) ∨
    ∃ old mark after, ticks = old ++ mark :: after ∧ Marked old mark after net
  shown : net.ready = true → Shown ticks net

section Run

variable {ticks old after : List NetTick} {mark tick : NetTick} {net : NetSpeed}

/-- The test for 0.8 seconds is exact, though it compares doubles. -/
theorem seconds_lt_iff (span : UInt64) :
    seconds span < Binary64.round (8 / 10) ↔ span.toNat < gap := by
  unfold seconds
  constructor
  · intro soon
    by_contra late
    rw [not_lt] at late
    have least := Binary64.round_mono (Nat.cast_le (α := ℚ).mpr late)
    rw [Binary64.round_natCast (by decide)] at least
    have apart : (8 / 10 : ℚ) ≤ Binary64.round (span.toNat : ℚ) / 1000000000 := by
      rw [le_div_iff₀ (by norm_num)]
      norm_num at least ⊢
      exact least
    exact not_lt.mpr (Binary64.round_mono apart) soon
  · intro (soon : span.toNat < 800000000)
    have most : span.toNat ≤ 799999999 := by omega
    have before : Binary64.round (799999999 / 1000000000) < Binary64.round (8 / 10) := by
      decide +kernel
    rw [Binary64.round_natCast (by omega)]
    refine (Binary64.round_mono ?_).trans_lt before
    have most' : (span.toNat : ℚ) ≤ 799999999 := by exact_mod_cast most
    linarith

/-- `perSecond` is the rate of the bytes and the nanoseconds. -/
theorem perSecond_rate (bytes span : UInt64) :
    Rate bytes.toNat span.toNat (perSecond bytes (seconds span)) := rfl

/-- **Four roundings** change a speed by `2 ^ -49` of it at most, and its fraction is dropped. -/
theorem perSecond_near (bytes : UInt64) {span : UInt64} (some : 0 < span.toNat) :
    Near bytes.toNat span.toNat (perSecond bytes (seconds span)) := by
  unfold Near perSecond seconds
  generalize bytes.toNat = b
  generalize span.toNat = s at some
  have positive : (0 : ℚ) < s := Nat.cast_pos.mpr some
  have least : (0 : ℚ) ≤ b := Nat.cast_nonneg b
  -- The time is rounded twice, the bytes once, and then their quotient.
  have time := ((Binary64.within_round positive.le).div_const
    (by norm_num : (0 : ℚ) < 1000000000)).round (by positivity) (by norm_num) (by norm_num)
  have quotient := (Binary64.within_round least).div time least (by positivity) (by norm_num)
    (by norm_num) (by norm_num) (by norm_num)
  have done := (quotient.round (by positivity) (by norm_num) (by norm_num)).abs_sub_le
  rw [div_div_eq_mul_div] at done
  have speed : (0 : ℚ) ≤ b * 1000000000 / s := by positivity
  have known := Binary64.round_nonneg
    (Binary64.round (b : ℚ) / Binary64.round (Binary64.round (s : ℚ) / 1000000000))
  generalize Binary64.round (Binary64.round (b : ℚ) / _) = shown at done known ⊢
  have whole : ((shown.floor.toNat : ℕ) : ℚ) = shown.floor := by
    have floor : 0 ≤ shown.floor := Int.floor_nonneg.mpr known
    rw [← Int.cast_natCast, Int.toNat_of_nonneg floor]
  obtain ⟨low, high⟩ := Binary64.floor_bounds shown
  rw [abs_le] at done
  rw [whole, abs_lt]
  constructor <;> norm_num at done ⊢ <;> linarith

/-- 401 bytes in 0.802 seconds are 500 a second, of which the doubles leave 499. -/
example : perSecond 401 (seconds 802000000) = 499 := by decide +kernel

/-- Only an interface whose name fits its conversion is read. -/
theorem readDev_short {want file : Text} {bytes : UInt64 × UInt64}
    (read : readDev want file = some bytes) : want.length ≤ 31 := by
  obtain ⟨line, -, said⟩ := List.exists_of_findSome?_eq_some read
  unfold devLine at said
  simp only at said
  split at said
  · split at said
    · cases said
    · next named =>
        rw [not_or, not_not] at named
        rw [← named.2, scanWord31, List.length_take]
        omega
  · cases said

/-- A tick with a reading has a connection and an interface. -/
theorem online_of_reading (read : tick.reading ≠ none) : tick.online = true := by
  by_contra off
  rw [NetTick.reading, if_neg off] at read
  exact read rfl

/-- Without an interface there is no connection. -/
theorem iface_of_online (online : tick.online = true) : tick.iface ≠ [] := by
  intro none
  rw [NetTick.online, none, List.isEmpty_nil, Bool.not_true, Bool.and_false] at online
  cases online

/-- What `sample_net` does: it forgets the speed without a connection, keeps it where it reads
nothing or too early, and else starts again from the reading or takes a new speed. -/
inductive Sampled (net : NetSpeed) (tick : NetTick) : NetSpeed → Prop
  | reset : tick.online = false → (net.ready = true ∨ net.iface ≠ []) → Sampled net tick {}
  | idle : tick.online = false → net.ready = false → net.iface = [] → Sampled net tick net
  | keep : tick.online = true →
      (tick.reading ≠ none → net.t ≠ 0 ∧ (tick.now - net.t).toNat < gap) → Sampled net tick net
  | restart (rx tx : UInt64) : tick.reading = some (rx, tx) →
      (net.iface ≠ tick.iface ∨ net.t = 0 ∨ rx < net.rxB ∨ tx < net.txB) →
      Sampled net tick { net with iface := tick.iface, rxB := rx, txB := tx, t := tick.now }
  | measure (rx tx : UInt64) : tick.reading = some (rx, tx) → net.iface = tick.iface →
      net.t ≠ 0 → net.rxB ≤ rx → net.txB ≤ tx → gap ≤ (tick.now - net.t).toNat →
      Sampled net tick
        { net with
          rxBps := perSecond (rx - net.rxB) (seconds (tick.now - net.t))
          txBps := perSecond (tx - net.txB) (seconds (tick.now - net.t))
          rxB := rx
          txB := tx
          t := tick.now
          ready := true }

/-- `sample_net` does one of these. -/
theorem sampled (net : NetSpeed) (tick : NetTick) : Sampled net tick (net.sampleNet tick) := by
  unfold sampleNet
  by_cases online : tick.online = true
  swap
  · rw [Bool.not_eq_true] at online
    rw [if_pos (by rw [online]; rfl)]
    split
    · next known =>
        refine .reset online ?_
        simpa using known
    · next unknown =>
        rw [Bool.not_eq_true, Bool.or_eq_false_iff] at unknown
        exact .idle online unknown.1 (by simpa using unknown.2)
  rw [if_neg (by rw [online]; decide)]
  have same : tick.reading = tick.dev.bind (readDev tick.iface) := if_pos online
  rw [← same]
  cases read : tick.reading with
  | none => exact .keep online fun some => absurd read some
  | some bytes =>
      obtain ⟨rx, tx⟩ := bytes
      have short : tick.iface.length ≤ 31 := by
        obtain ⟨file, -, said⟩ := Option.bind_eq_some_iff.mp (same.symm.trans read)
        exact readDev_short said
      simp only
      split
      · next again =>
          rw [List.take_of_length_le short]
          exact .restart rx tx read again
      · next known =>
          simp only [not_or, not_not, UInt64.not_lt] at known
          obtain ⟨known, set, more, more'⟩ := known
          simp only [seconds_lt_iff]
          split
          · next soon => exact .keep online fun _ => ⟨set, soon⟩
          · next late => exact .measure rx tx read known set more more' (not_lt.mp late)

/-- One reading more that comes too early. -/
theorem Early.concat {a : NetTick} {mid : List NetTick} (early : Early a mid)
    (soon : tick.reading ≠ none → tick.now.toNat < a.now.toNat + gap) : Early a (mid ++ [tick]) := by
  rintro other member read
  rcases List.mem_append.mp member with inside | last
  · exact early other inside read
  · rw [List.mem_singleton.mp last] at read ⊢
    exact soon read

/-- A reading that is not taken for a speed changes nothing. -/
theorem Tracks.keep (tracks : Tracks ticks net)
    (soon : tick.reading ≠ none → net.t ≠ 0 ∧ tick.now.toNat < net.t.toNat + gap) :
    Tracks (ticks ++ [tick]) net := by
  have steady (all : Steady (ticks ++ [tick])) : Steady ticks :=
    List.Pairwise.sublist (List.sublist_append_left _ _) all
  constructor
  · rcases tracks.base with ⟨rfl, unread⟩ | ⟨old, mark, after, rfl, marked⟩
    · refine .inl ⟨rfl, fun other member => ?_⟩
      rcases List.mem_append.mp member with inside | last
      · exact unread other inside
      · by_contra read
        rw [List.mem_singleton.mp last] at read
        exact (soon read).1 rfl
    · refine .inr ⟨old, mark, after ++ [tick], by simp, marked.reading, marked.iface, marked.time,
        Early.concat marked.early fun read => ?_, fun all => ?_⟩
      · rw [← marked.time]
        exact (soon read).2
      · refine marked.first (steady ?_)
        rwa [List.append_assoc, List.cons_append]
  · intro ready
    obtain ⟨before, a, mid, b, later, rfl, between, early, fresh⟩ := tracks.shown ready
    refine ⟨before, a, mid, b, later ++ [tick], by simp, between, early, fun all => ?_⟩
    obtain ⟨time, quiet⟩ := fresh (steady all)
    refine ⟨time, Early.concat quiet fun read => ?_⟩
    rw [← time]
    exact (soon read).2

/-- When the readings start again after all, none of the ones before counts. -/
theorem Tracks.unread (tracks : Tracks ticks net) (started : ∀ tick ∈ ticks, 0 < tick.now)
    {rx tx : UInt64} (read : tick.reading = some (rx, tx))
    (again : net.iface ≠ tick.iface ∨ net.t = 0 ∨ rx < net.rxB ∨ tx < net.txB)
    (steady : Steady (ticks ++ [tick])) : ∀ other ∈ ticks, other.reading = none := by
  rcases tracks.base with ⟨-, unread⟩ | ⟨old, mark, after, rfl, marked⟩
  · exact unread
  · have member : mark ∈ old ++ mark :: after := by simp
    have both := (List.pairwise_append.mp steady).2.2 mark member tick (by simp)
    obtain ⟨same, more, more'⟩ := both _ marked.reading _ read
    have positive := started mark member
    rcases again with differs | unset | less | less
    · exact absurd (marked.iface.trans same) differs
    · rw [← marked.time, unset] at positive
      exact absurd positive (by decide)
    · exact absurd more (UInt64.not_le.mpr less)
    · exact absurd more' (UInt64.not_le.mpr less)

/-- After a fresh start the reading is the one to compare with. -/
theorem Tracks.restart (tracks : Tracks ticks net) (started : ∀ tick ∈ ticks, 0 < tick.now)
    {rx tx : UInt64} (read : tick.reading = some (rx, tx))
    (again : net.iface ≠ tick.iface ∨ net.t = 0 ∨ rx < net.rxB ∨ tx < net.txB) :
    Tracks (ticks ++ [tick])
      { net with iface := tick.iface, rxB := rx, txB := tx, t := tick.now } := by
  have unread := tracks.unread started read again
  constructor
  · exact .inr ⟨ticks, tick, [], rfl, read, rfl, rfl, fun _ => nofun, fun steady _ => unread steady⟩
  · intro ready
    obtain ⟨before, a, mid, b, later, rfl, between, early, -⟩ := tracks.shown ready
    refine ⟨before, a, mid, b, later ++ [tick], by simp, between, early, fun steady => ?_⟩
    obtain ⟨-, -, rb, read', -⟩ := between
    rw [unread steady b (by simp)] at read'
    cases read'

/-- A speed is taken, and the reading is the next one to compare with. -/
theorem Tracks.measure (tracks : Tracks ticks net) (clocked : Clocked (ticks ++ [tick]))
    {rx tx : UInt64} (read : tick.reading = some (rx, tx)) (same : net.iface = tick.iface)
    (set : net.t ≠ 0) (more : net.rxB ≤ rx) (more' : net.txB ≤ tx)
    (apart : gap ≤ (tick.now - net.t).toNat) :
    Tracks (ticks ++ [tick])
      { net with
        rxBps := perSecond (rx - net.rxB) (seconds (tick.now - net.t))
        txBps := perSecond (tx - net.txB) (seconds (tick.now - net.t))
        rxB := rx
        txB := tx
        t := tick.now
        ready := true } := by
  constructor
  · exact .inr ⟨ticks, tick, [], rfl, read, same, rfl, fun _ => nofun, fun _ => nofun⟩
  · rintro -
    rcases tracks.base with ⟨rfl, -⟩ | ⟨old, mark, after, rfl, marked⟩
    · exact absurd rfl set
    · have forward : mark.now ≤ tick.now := clocked.last (by simp)
      have forward' := UInt64.le_iff_toNat_le.mp forward
      rw [marked.time] at apart ⊢
      have far : 0 < (tick.now - mark.now).toNat := Nat.lt_of_lt_of_le (by decide) apart
      have received := And.intro (perSecond_rate (rx - net.rxB) (tick.now - mark.now))
        (perSecond_near (rx - net.rxB) far)
      have sent := And.intro (perSecond_rate (tx - net.txB) (tick.now - mark.now))
        (perSecond_near (tx - net.txB) far)
      rw [UInt64.toNat_sub_of_le _ _ forward] at apart received sent
      rw [UInt64.toNat_sub_of_le _ _ more] at received
      rw [UInt64.toNat_sub_of_le _ _ more'] at sent
      exact ⟨old, mark, after, tick, [], by simp,
        ⟨_, marked.reading, _, read, marked.iface.symm.trans same, more, more', by omega, received,
          sent⟩,
        marked.early, fun _ => ⟨rfl, fun _ => nofun⟩⟩

/-- **One step.** -/
theorem Tracks.step (tracks : Tracks ticks net) (clocked : Clocked (ticks ++ [tick])) :
    Tracks (if tick.online then ticks ++ [tick] else []) (net.sampleNet tick) := by
  have started := (clocked.sublist (List.sublist_append_left _ _)).started
  have empty : Tracks [] {} := ⟨.inl ⟨rfl, fun _ => nofun⟩, nofun⟩
  have done := sampled net tick
  generalize net.sampleNet tick = net' at done
  cases done with
  | reset off _ =>
      rw [if_neg (by rw [off]; decide)]
      exact empty
  | idle off quiet unnamed =>
      rw [if_neg (by rw [off]; decide)]
      rcases tracks.base with ⟨rfl, -⟩ | ⟨old, mark, after, -, marked⟩
      · exact empty
      · have online := online_of_reading (marked.reading.symm ▸ Option.some_ne_none _)
        exact absurd (marked.iface.symm.trans unnamed) (iface_of_online online)
  | keep online soon =>
      rw [if_pos online]
      refine tracks.keep fun read => ?_
      obtain ⟨set, early⟩ := soon read
      refine ⟨set, ?_⟩
      rcases tracks.base with ⟨rfl, -⟩ | ⟨old, mark, after, rfl, marked⟩
      · exact absurd rfl set
      · have forward : mark.now ≤ tick.now := clocked.last (by simp)
        rw [← marked.time] at forward
        rw [UInt64.toNat_sub_of_le _ _ forward] at early
        omega
  | restart rx tx read again =>
      rw [if_pos (online_of_reading (read ▸ Option.some_ne_none _))]
      exact tracks.restart started read again
  | measure rx tx read same set more more' apart =>
      rw [if_pos (online_of_reading (read ▸ Option.some_ne_none _))]
      exact tracks.measure clocked read same set more more' apart

/-- Every run keeps track of the ticks since the connection was last missing. -/
theorem tracks_run (clocked : Clocked ticks) : Tracks (live ticks) (run sampleNet {} ticks) := by
  induction ticks using List.reverseRecOn with
  | nil => exact ⟨.inl ⟨rfl, fun _ => nofun⟩, nofun⟩
  | append_singleton ticks tick ih =>
      have before : Clocked ticks := clocked.sublist (List.sublist_append_left _ _)
      have now : Clocked (live ticks ++ [tick]) := clocked.sublist
        (List.Sublist.append (List.rtakeWhile_suffix _ _).sublist (List.Sublist.refl _))
      rw [run_append, run_cons, run_nil, live, List.rtakeWhile_concat]
      exact (ih before).step now

/-- Two readings that are far enough apart have given a speed. -/
theorem Tracks.ready (tracks : Tracks ticks net) (clocked : Clocked ticks) (steady : Steady ticks)
    {a b : NetTick} (member : a ∈ ticks) (member' : b ∈ ticks) (read : a.reading ≠ none)
    (read' : b.reading ≠ none) (apart : a.now.toNat + gap ≤ b.now.toNat) : net.ready = true := by
  by_contra pending
  rw [Bool.not_eq_true] at pending
  rcases tracks.base with ⟨-, unread⟩ | ⟨old, mark, after, rfl, marked⟩
  · exact read (unread a member)
  · have unread := marked.first steady pending
    have forward := (List.pairwise_append.mp clocked.forward).2.1
    have low : mark.now ≤ a.now := by
      rcases List.mem_append.mp member with inside | inside
      · exact absurd (unread a inside) read
      · rcases List.mem_cons.mp inside with rfl | inside
        · exact UInt64.le_refl _
        · exact (List.pairwise_cons.mp forward).1 a inside
    rw [UInt64.le_iff_toNat_le] at low
    have high : b.now.toNat < mark.now.toNat + gap := by
      rcases List.mem_append.mp member' with inside | inside
      · exact absurd (unread b inside) read'
      · rcases List.mem_cons.mp inside with rfl | inside
        · exact Nat.lt_add_of_pos_right (by decide)
        · exact marked.early b inside read'
    omega

/-- **A speed that is shown is one of the connection.** It is the one between two of its
readings, the later one the first that was far enough from the other. As long as the interface
stays the same and its counters never fall, a speed is shown as soon as there are two readings
far enough apart, and no later reading would have given a newer one. -/
theorem speed_exact (clocked : Clocked ticks) :
    ((run sampleNet {} ticks).ready = true → Shown (live ticks) (run sampleNet {} ticks)) ∧
      (Steady (live ticks) → ((run sampleNet {} ticks).ready = true ↔
        ∃ a ∈ live ticks, ∃ b ∈ live ticks, a.reading ≠ none ∧ b.reading ≠ none ∧
          a.now.toNat + gap ≤ b.now.toNat)) := by
  have tracks := tracks_run clocked
  have now : Clocked (live ticks) := clocked.sublist (List.rtakeWhile_suffix _ _).sublist
  refine ⟨tracks.shown, fun steady => ⟨fun ready => ?_, ?_⟩⟩
  · obtain ⟨before, a, mid, b, later, same, between, -, -⟩ := tracks.shown ready
    obtain ⟨ra, read, rb, read', -, -, -, apart, -, -⟩ := between
    refine ⟨a, by rw [same]; simp, b, by rw [same]; simp, ?_, ?_, apart⟩
    · rw [read]
      exact Option.some_ne_none _
    · rw [read']
      exact Option.some_ne_none _
  · rintro ⟨a, member, b, member', read, read', apart⟩
    exact tracks.ready now steady member member' read read' apart

/-- A reading of one interface. -/
def walkTick (now : UInt64) (line : String) : NetTick :=
  ⟨true, txt "wlan0", some ([txt line].flatMap (· ++ [newline])), now⟩

/-- The first reading of the interface. -/
def walkStart : NetTick := walkTick 1000000000 " wlan0: 1000 1 0 0 0 0 0 0 500 1"

/-- One second later, with 3000 bytes received and 1000 sent. -/
def walkEnd : NetTick := walkTick 2000000000 " wlan0: 4000 2 0 0 0 0 0 0 1500 2"

/-- The reading is what the line says. -/
theorem walkTick_reading (now : UInt64) {line : String}
    (fits : newline ∉ txt line ∧ (txt line).length < 255) :
    (walkTick now line).reading = devLine (txt "wlan0") (txt line ++ [newline]) := by
  have one := fgetsLines_lines (n := 256) (List.forall_mem_singleton.mpr fits)
  have online : (walkTick now line).online = true := rfl
  rw [NetTick.reading, if_pos online]
  change readDev _ _ = _
  rw [readDev, one, List.map_singleton, List.findSome?_singleton]
  rfl

/-- The one speed of the two readings is shown. -/
theorem speed_exact_walk : (run sampleNet {} [walkStart, walkEnd]).ready = true ∧
    Shown [walkStart, walkEnd] (run sampleNet {} [walkStart, walkEnd]) := by
  have first : walkStart.reading = some (1000, 500) :=
    (walkTick_reading _ (by decide)).trans (by decide)
  have second : walkEnd.reading = some (4000, 1500) :=
    (walkTick_reading _ (by decide)).trans (by decide)
  have steady : Steady [walkStart, walkEnd] := by
    refine List.pairwise_pair.mpr fun ra read rb read' => ?_
    rw [first, Option.mem_some_iff] at read
    rw [second, Option.mem_some_iff] at read'
    rw [← read, ← read']
    exact ⟨rfl, by decide, by decide⟩
  have apart : walkStart.now.toNat + gap ≤ walkEnd.now.toNat := by
    change 1000000000 + 800000000 ≤ 2000000000
    decide
  obtain ⟨shown, ready⟩ := @speed_exact [walkStart, walkEnd] ⟨by decide, by decide⟩
  have known := (ready steady).mpr ⟨walkStart, List.mem_cons_self, walkEnd,
    List.mem_cons_of_mem _ List.mem_cons_self, ?_, ?_, apart⟩
  · exact ⟨known, shown known⟩
  · rw [first]
    exact Option.some_ne_none _
  · rw [second]
    exact Option.some_ne_none _

end Run

end NetSpeed

end Ginkgo
