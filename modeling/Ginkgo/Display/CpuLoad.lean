import Mathlib.Algebra.Order.Field.Rat
import Mathlib.Data.Rat.Cast.Order
import Mathlib.Tactic.Linarith
import Ginkgo.CText.Basic

/-!
# The processor load

`sample_cpu` of `ginkgo-status.c` reads `/proc/stat` once a second. A line of it has eight
counters; the load of an interval is the part of their sum that the idle counter does not
account for, in percent. The quotient is exact here, where the source converts to `float` and
divides: what it shows may differ from this by the roundings.

The busy time is a difference of 64-bit numbers that is clamped only after it has been
converted, so an idle counter that runs ahead of the sum, which happens when another counter
goes backwards, gives a full load (`Ginkgo.CpuEntry.stored_of_idle_ahead`).
`Ginkgo.CpuState.load_iff` says when the load is the one of the integers.
-/

namespace Ginkgo

open CText

/-! ## Reading the lines -/

/-- A number without the blanks and the sign before it. -/
def unsignedPart (s : Text) : Text :=
  let body := s.dropWhile isSpace
  if body.head? = some dash ∨ body.head? = some 43 then body.tail else body

/-- `%d` of `scanf`, and what follows the number. -/
def scanD (s : Text) : Option (Int × Text) :=
  (scanInt s).map fun value => (value, (unsignedPart s).dropWhile isDigit)

/-- `%llu` of `scanf`, and what follows the number. -/
def scanLlu (s : Text) : Option (UInt64 × Text) :=
  let negative := (s.dropWhile isSpace).head? = some dash
  let digits := (unsignedPart s).takeWhile isDigit
  if digits = [] then none
  else
    let value : UInt64 :=
      if 2 ^ 64 ≤ digitsValue 0 digits then .ofNat (2 ^ 64 - 1)
      else if negative then -.ofNat (digitsValue 0 digits) else .ofNat (digitsValue 0 digits)
    some (value, (unsignedPart s).dropWhile isDigit)

/-- So many `%llu` after another; the first that reads nothing ends it. -/
def scanLlus : Nat → Text → List UInt64
  | 0, _ => []
  | count + 1, s =>
      match scanLlu s with
      | none => []
      | some (value, rest) => value :: scanLlus count rest

/-- The counters of a line, under the names they have in the source. -/
structure Counters where
  u : UInt64 := 0
  n : UInt64 := 0
  s : UInt64 := 0
  id : UInt64 := 0
  io : UInt64 := 0
  irq : UInt64 := 0
  sirq : UInt64 := 0
  st : UInt64 := 0
  deriving DecidableEq

/-- The numbers read replace what the variables held. -/
def Counters.fill (stack : Counters) (values : List UInt64) : Counters where
  u := values[0]?.getD stack.u
  n := values[1]?.getD stack.n
  s := values[2]?.getD stack.s
  id := values[3]?.getD stack.id
  io := values[4]?.getD stack.io
  irq := values[5]?.getD stack.irq
  sirq := values[6]?.getD stack.sirq
  st := values[7]?.getD stack.st

/-- `MAX_CPU` -/
abbrev maxCpu : Nat := 8

/-- What `fgets` returns, and what the variables of the loop hold before they are read. -/
structure StatLine where
  text : Text
  stack : Counters := {}

/-- The processor of a line, none for the sum of all, and its counters. -/
def StatLine.reading (line : StatLine) : Option (Option (Fin maxCpu) × Counters) :=
  if (txt "cpu ").isPrefixOf line.text then
    let values := scanLlus 8 (line.text.drop 3)
    if values.length < 5 then none else some (none, line.stack.fill values)
  else if (txt "cpu").isPrefixOf line.text then
    match scanD (line.text.drop 3) with
    | none => none
    | some (core, rest) =>
        let values := scanLlus 8 rest
        if 1 + values.length < 6 then none
        else if inside : 0 ≤ core ∧ core < maxCpu then
          some (some ⟨core.toNat, by omega⟩, line.stack.fill values)
        else none
  else none

/-! ## The load -/

/-- `clampf` -/
def clampf (v a b : ℚ) : ℚ := if v < a then a else if b < v then b else v

/-- The sum of the counters, as the source adds them. -/
def Counters.tot (c : Counters) : UInt64 :=
  c.u + c.n + c.s + c.id + c.io + c.irq + c.sirq + c.st

/-- The load of a processor, and its last counters. -/
structure CpuEntry where
  t : ℚ := 0
  idle : UInt64 := 0
  tot : UInt64 := 0

namespace CpuEntry

/-- The load that a line stores, if it stores one. -/
def stored (entry : CpuEntry) (c : Counters) : Option ℚ :=
  let tot := c.tot
  if entry.tot ≠ 0 ∧ entry.tot < tot then
    let busy := (tot - entry.tot) - (c.id - entry.idle)
    some (clampf (100 * (busy.toNat : ℚ) / ((tot - entry.tot).toNat : ℚ)) 0 100)
  else none

/-- A line replaces the counters, and stores a load where the sum has grown. -/
def sample (entry : CpuEntry) (c : Counters) : CpuEntry where
  t := (entry.stored c).getD entry.t
  idle := c.id
  tot := c.tot

end CpuEntry

/-- The loads that `sample_cpu` keeps, of all processors together and of each. -/
structure CpuState where
  entry : Option (Fin maxCpu) → CpuEntry := fun _ => {}
  ncpu : Nat := 0

namespace CpuState

/-- One line of `/proc/stat`. -/
def sampleLine (state : CpuState) (line : StatLine) : CpuState :=
  match line.reading with
  | none => state
  | some (key, c) =>
      { entry := Function.update state.entry key ((state.entry key).sample c)
        ncpu := match key with
          | none => state.ncpu
          | some core => if state.ncpu < core + 1 then core + 1 else state.ncpu }

/-- `sample_cpu`, with the lines of `/proc/stat` if it can be opened. -/
def sampleCpu (state : CpuState) (file : Option (List StatLine)) : CpuState :=
  match file with
  | none => state
  | some lines => lines.foldl sampleLine state

end CpuState

/-! ## The load over the integers -/

/-- The sum of the counters. -/
def Counters.total (c : Counters) : Int :=
  c.u.toNat + c.n.toNat + c.s.toNat + c.id.toNat + c.io.toNat + c.irq.toNat + c.sirq.toNat +
    c.st.toNat

/-- How far the idle counter has moved. -/
def Counters.didle (a b : Counters) : Int := b.id.toNat - a.id.toNat

/-- How far the sum of 64 bits has moved. -/
def Counters.dtot (a b : Counters) : Int := b.tot.toNat - a.tot.toNat

/-- A part of a sum, in percent. -/
def percent (part sum : Int) : ℚ := clampf (100 * (part : ℚ) / (sum : ℚ)) 0 100

/-- The load of an interval, over the integers. -/
def Counters.load (a b : Counters) : ℚ :=
  percent (b.total - a.total - a.didle b) (b.total - a.total)

/-- **The differences do not wrap.** There is a previous sum, it has grown, and the busy time is
a number of 64 bits; if the sum itself has wrapped, the idle counter has not grown. -/
structure Counters.Measures (a b : Counters) : Prop where
  known : a.tot ≠ 0
  grown : 0 < a.dtot b
  idle : a.didle b ≤ a.dtot b
  busy : a.dtot b - a.didle b < 2 ^ 64
  total : b.total - a.total = a.dtot b ∨ a.didle b ≤ 0

section Load

variable {a b : Counters}

/-- The sum of 64 bits is the remainder of the sum. -/
theorem Counters.total_tot (c : Counters) : c.total % 2 ^ 64 = c.tot.toNat := by
  unfold total tot
  simp only [UInt64.toNat_add]
  omega

/-- The sum of 64 bits lags behind by whole multiples. -/
theorem Counters.dtot_le (more : a.total < b.total) : a.dtot b ≤ b.total - a.total ∧
    (b.total - a.total ≠ a.dtot b → a.dtot b + 2 ^ 64 ≤ b.total - a.total) := by
  have first := a.total_tot
  have second := b.total_tot
  unfold dtot
  omega

/-- A difference of 64-bit counters is less than their range. -/
theorem Counters.didle_bounds (a b : Counters) : -(2 ^ 64) < a.didle b ∧ a.didle b < 2 ^ 64 := by
  have first := a.id.toNat_lt
  have second := b.id.toNat_lt
  unfold didle
  omega

theorem Counters.dtot_lt (a b : Counters) : a.dtot b < 2 ^ 64 := by
  have second := b.tot.toNat_lt
  unfold dtot
  omega

/-- A part that is not smaller than the sum is all of it. -/
theorem percent_full {part sum : Int} (positive : 0 < sum) (full : sum ≤ part) :
    percent part sum = 100 := by
  have size : (0 : ℚ) < sum := Int.cast_pos.mpr positive
  have more : (sum : ℚ) ≤ part := Int.cast_le.mpr full
  have high : 100 ≤ 100 * (part : ℚ) / (sum : ℚ) := by
    rw [le_div_iff₀ size]
    linarith
  unfold percent clampf
  split_ifs <;> linarith

/-- A part of a sum is not clamped. -/
theorem percent_inside {part sum : Int} (positive : 0 < sum) (low : 0 ≤ part)
    (high : part ≤ sum) : percent part sum = 100 * (part : ℚ) / (sum : ℚ) := by
  have size : (0 : ℚ) < sum := Int.cast_pos.mpr positive
  have least : (0 : ℚ) ≤ part := Int.cast_nonneg low
  have most : (part : ℚ) ≤ sum := Int.cast_le.mpr high
  unfold percent clampf
  rw [if_neg (not_lt.mpr (div_nonneg (by linarith) size.le)), if_neg]
  rw [not_lt, div_le_iff₀ size]
  linarith

/-- A part that is smaller than the sum is less than all of it. -/
theorem percent_lt {part sum : Int} (positive : 0 < sum) (less : part < sum) :
    percent part sum < 100 := by
  have size : (0 : ℚ) < sum := Int.cast_pos.mpr positive
  have more : (part : ℚ) < sum := Int.cast_lt.mpr less
  have below : 100 * (part : ℚ) / (sum : ℚ) < 100 := by
    rw [div_lt_iff₀ size]
    linarith
  unfold percent clampf
  split_ifs <;> linarith

/-- What is left of a sum after a part is more of it, the larger the sum. -/
theorem percent_sub_lt {part small large : Int} (positive : 0 < part) (inside : part ≤ small)
    (larger : small < large) : percent (small - part) small < percent (large - part) large := by
  rw [percent_inside (by omega) (by omega) (by omega),
    percent_inside (by omega) (by omega) (by omega)]
  have size : (0 : ℚ) < small := Int.cast_pos.mpr (by omega)
  have size' : (0 : ℚ) < large := Int.cast_pos.mpr (by omega)
  have more : (small : ℚ) < large := Int.cast_lt.mpr larger
  have some_part : (0 : ℚ) < part := Int.cast_pos.mpr positive
  rw [div_lt_div_iff₀ size size']
  push_cast
  nlinarith

/-- The busy time, as a remainder. -/
theorem CpuEntry.stored_sample (entry : CpuEntry) (a b : Counters) :
    (entry.sample a).stored b =
      if a.tot ≠ 0 ∧ 0 < a.dtot b then
        some (percent ((a.dtot b - a.didle b) % 2 ^ 64) (a.dtot b))
      else none := by
  have order : a.tot < b.tot ↔ 0 < a.dtot b := by
    rw [UInt64.lt_iff_toNat_lt]
    unfold Counters.dtot
    omega
  unfold stored sample
  simp only [order]
  split
  · next guard =>
      have sum : (((b.tot - a.tot).toNat : Int)) = a.dtot b := by
        have grown := guard.2
        have top := b.tot.toNat_lt
        rw [UInt64.toNat_sub]
        unfold Counters.dtot at grown ⊢
        omega
      have busy : ((b.tot - a.tot - (b.id - a.id)).toNat : Int) =
          (a.dtot b - a.didle b) % 2 ^ 64 := by
        simp only [UInt64.toNat_sub]
        unfold Counters.dtot Counters.didle
        have top := a.tot.toNat_lt
        have idle := a.id.toNat_lt
        omega
      unfold percent
      rw [← busy, ← sum, Int.cast_natCast, Int.cast_natCast]
  · rfl

/-- When the idle counter runs ahead of the sum, the processor counts as fully loaded. -/
theorem CpuEntry.stored_of_idle_ahead (entry : CpuEntry) (known : a.tot ≠ 0)
    (grown : 0 < a.dtot b) (ahead : a.dtot b < a.didle b) :
    (entry.sample a).stored b = some 100 := by
  obtain ⟨-, bound⟩ := a.didle_bounds b
  have wrapped : (a.dtot b - a.didle b) % 2 ^ 64 = a.dtot b - a.didle b + 2 ^ 64 := by omega
  rw [entry.stored_sample, if_pos ⟨known, grown⟩, wrapped, percent_full grown (by omega)]

/-- A line stores the load over the integers exactly when the differences do not wrap. -/
theorem CpuEntry.stored_iff (entry : CpuEntry) (more : a.total < b.total) :
    (entry.sample a).stored b = some (a.load b) ↔ a.Measures b := by
  by_cases guard : a.tot ≠ 0 ∧ 0 < a.dtot b
  swap
  · rw [entry.stored_sample, if_neg guard]
    refine iff_of_false nofun fun measures => guard ⟨measures.known, measures.grown⟩
  obtain ⟨known, grown⟩ := guard
  obtain ⟨lower, bound⟩ := a.didle_bounds b
  obtain ⟨least, jump⟩ := Counters.dtot_le more
  have small := a.dtot_lt b
  unfold Counters.load
  by_cases ahead : a.dtot b < a.didle b
  · -- The busy time is negative: all of the interval is taken for busy.
    rw [entry.stored_of_idle_ahead known grown ahead]
    refine iff_of_false (fun same => ?_) fun measures => absurd measures.idle (not_le.mpr ahead)
    have less : percent (b.total - a.total - a.didle b) (b.total - a.total) < 100 :=
      percent_lt (by omega) (by omega)
    rw [← Option.some.inj same] at less
    exact lt_irrefl _ less
  rw [entry.stored_sample, if_pos ⟨known, grown⟩, Option.some.injEq]
  by_cases long : 2 ^ 64 ≤ a.dtot b - a.didle b
  · -- The idle counter has gone back by so much that the busy time wraps.
    have wrapped : (a.dtot b - a.didle b) % 2 ^ 64 = a.dtot b - a.didle b - 2 ^ 64 := by omega
    rw [wrapped]
    refine iff_of_false (fun same => ?_) fun measures => absurd measures.busy (not_lt.mpr long)
    have less : percent (a.dtot b - a.didle b - 2 ^ 64) (a.dtot b) < 100 :=
      percent_lt grown (by omega)
    rw [same, percent_full (by omega) (by omega)] at less
    exact lt_irrefl _ less
  have plain : (a.dtot b - a.didle b) % 2 ^ 64 = a.dtot b - a.didle b := by omega
  rw [plain]
  by_cases level : b.total - a.total = a.dtot b
  · rw [level]
    exact iff_of_true rfl ⟨known, grown, by omega, by omega, .inl level⟩
  by_cases still : a.didle b ≤ 0
  · rw [percent_full grown (by omega), percent_full (by omega) (by omega)]
    exact iff_of_true rfl ⟨known, grown, by omega, by omega, .inr still⟩
  · have less : percent (a.dtot b - a.didle b) (a.dtot b) <
        percent (b.total - a.total - a.didle b) (b.total - a.total) :=
      percent_sub_lt (by omega) (by omega) (by omega)
    refine iff_of_false less.ne fun measures => ?_
    exact measures.total.elim level still

end Load

/-! ## Samples -/

/-- The counters that the lines have for a processor. -/
def readings (key : Option (Fin maxCpu)) (lines : List StatLine) : List Counters :=
  lines.filterMap fun line => line.reading.bind fun (core, c) => if core = key then some c else none

namespace CpuState

/-- A sample takes the counters of a processor one after the other, whatever else it reads. -/
theorem sampleCpu_entry (state : CpuState) (lines : List StatLine) (key : Option (Fin maxCpu)) :
    (state.sampleCpu (some lines)).entry key =
      (readings key lines).foldl CpuEntry.sample (state.entry key) := by
  unfold sampleCpu readings
  simp only
  induction lines generalizing state with
  | nil => rfl
  | cons line lines ih =>
      rw [List.foldl_cons, ih, List.filterMap_cons]
      unfold sampleLine
      cases line.reading with
      | none => rfl
      | some reading =>
          obtain ⟨core, c⟩ := reading
          simp only [Option.bind_some]
          by_cases same : core = key
          · rw [if_pos same, same, Function.update_self]
            rfl
          · rw [if_neg same, Function.update_of_ne (Ne.symm same)]

/-- **When the load does not wrap.** For two successive samples, each with a line for the
processor, and a sum that has grown: the second sample stores the load over the integers exactly
when the differences of 64 bits do not wrap. -/
theorem load_iff (state : CpuState) {first second : List StatLine} {key : Option (Fin maxCpu)}
    {a b : Counters} (one : readings key first = [a]) (two : readings key second = [b])
    (more : a.total < b.total) :
    (((state.sampleCpu (some first)).entry key).stored b = some (a.load b) ∧
      (((state.sampleCpu (some first)).sampleCpu (some second)).entry key).t = a.load b) ↔
        a.Measures b := by
  have before : (state.sampleCpu (some first)).entry key = (state.entry key).sample a := by
    rw [sampleCpu_entry, one]
    rfl
  have after : (((state.sampleCpu (some first)).sampleCpu (some second)).entry key) =
      ((state.entry key).sample a).sample b := by
    rw [sampleCpu_entry, two, before]
    rfl
  rw [before, after, ← (state.entry key).stored_iff more]
  constructor
  · exact And.left
  · intro stored
    refine ⟨stored, ?_⟩
    unfold CpuEntry.sample at stored ⊢
    simp only at stored ⊢
    rw [stored, Option.getD_some]

/-- A file with one line, for all processors together. -/
def statFile (line : String) : List StatLine := [{ text := txt line }]

/-- After the first sample. -/
def firstSample : CpuState :=
  ({} : CpuState).sampleCpu (some (statFile "cpu  100 0 100 1000 50 0 0 0 0 0\n"))

/-- A second of which half is busy. -/
theorem load_iff_halfBusy :
    (firstSample.entry none).stored ⟨130, 0, 120, 1050, 50, 0, 0, 0⟩ = some 50 ∧
      ((firstSample.sampleCpu (some (statFile "cpu  130 0 120 1050 50 0 0 0 0 0\n"))).entry
        none).t = 50 := by
  have one : readings none (statFile "cpu  100 0 100 1000 50 0 0 0 0 0\n") =
      [⟨100, 0, 100, 1000, 50, 0, 0, 0⟩] := by decide +kernel
  have two : readings none (statFile "cpu  130 0 120 1050 50 0 0 0 0 0\n") =
      [⟨130, 0, 120, 1050, 50, 0, 0, 0⟩] := by decide +kernel
  have measures : Counters.Measures ⟨100, 0, 100, 1000, 50, 0, 0, 0⟩
      ⟨130, 0, 120, 1050, 50, 0, 0, 0⟩ := by
    constructor <;> decide +kernel
  have loads := (load_iff {} one two (by decide +kernel)).mpr measures
  have half : Counters.load ⟨100, 0, 100, 1000, 50, 0, 0, 0⟩
      ⟨130, 0, 120, 1050, 50, 0, 0, 0⟩ = 50 := by decide +kernel
  rwa [half] at loads

/-- The idle counter grows by ten while the other time of waiting goes back by ten: the sum
grows by six. -/
theorem idle_ahead_fully_loaded :
    ¬∀ (state : CpuState) (first second : List StatLine) (key : Option (Fin maxCpu))
      (a b : Counters), readings key first = [a] → readings key second = [b] →
      a.total < b.total →
      ((state.sampleCpu (some first)).entry key).stored b = some (a.load b) ∧
        (((state.sampleCpu (some first)).sampleCpu (some second)).entry key).t = a.load b := by
  intro always
  have loads := (always {} (statFile "cpu  100 0 100 1000 50 0 0 0 0 0\n")
    (statFile "cpu  103 0 103 1010 40 0 0 0 0 0\n") none ⟨100, 0, 100, 1000, 50, 0, 0, 0⟩
    ⟨103, 0, 103, 1010, 40, 0, 0, 0⟩ (by decide +kernel) (by decide +kernel)
    (by decide +kernel)).1
  revert loads
  decide +kernel

end CpuState

end Ginkgo
