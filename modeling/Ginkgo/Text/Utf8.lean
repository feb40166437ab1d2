import Ginkgo.CText.Basic
import Mathlib.Tactic.Common

/-!
# Reading UTF-8

`u8next` of `ginkgo-status.c` and the loop `while ((cp = u8next(&p)))` around it. A string is
the list of its bytes before the terminator; what is read behind the last byte is the
terminator, and `0 ∉ s` says that there is none before.

A string falls into forms (`forms`): a lead byte with the bytes that it asks for, as long as
they are there, and any other byte alone. `u8next` reads one form (`u8next_eq`). On the
encoding of characters it gives the characters back (`decoded_encode`), and a loop reads the
whole string exactly when no form spells the number zero at length (`eachCp_rest_iff`).
-/

namespace Ginkgo

open CText

/-- `u8next`: the code point, and the string behind it. -/
def u8next (s : Text) : UInt32 × Text :=
  let p (i : Nat) : UInt8 := s.getD i 0
  if p 0 = 0 then (0, s)
  else if p 0 < 0x80 then ((p 0).toUInt32, s.drop 1)
  else if p 0 &&& 0xe0 = 0xc0 ∧ p 1 ≠ 0 then
    ((p 0 &&& 0x1f).toUInt32 <<< 6 ||| (p 1 &&& 0x3f).toUInt32, s.drop 2)
  else if p 0 &&& 0xf0 = 0xe0 ∧ p 1 ≠ 0 ∧ p 2 ≠ 0 then
    ((p 0 &&& 0x0f).toUInt32 <<< 12 ||| (p 1 &&& 0x3f).toUInt32 <<< 6 |||
      (p 2 &&& 0x3f).toUInt32, s.drop 3)
  else if p 0 &&& 0xf8 = 0xf0 ∧ p 1 ≠ 0 ∧ p 2 ≠ 0 ∧ p 3 ≠ 0 then
    ((p 0 &&& 0x07).toUInt32 <<< 18 ||| (p 1 &&& 0x3f).toUInt32 <<< 12 |||
      (p 2 &&& 0x3f).toUInt32 <<< 6 ||| (p 3 &&& 0x3f).toUInt32, s.drop 4)
  else (63, s.drop 1)

/-- In front of the terminator a call goes on. -/
theorem u8next_shorter {s : Text} (some : s.getD 0 0 ≠ 0) :
    (u8next s).2.length < s.length := by
  cases s with
  | nil => exact absurd rfl some
  | cons b rest =>
      unfold u8next
      simp only [some, ↓reduceIte]
      split_ifs <;> simp only [List.length_drop, List.length_cons] <;> omega

/-- Nothing is read at the end of a string. -/
theorem u8next_eq_zero {s : Text} (ended : s.getD 0 0 = 0) : u8next s = (0, s) := by
  simp only [u8next, ended, ↓reduceIte]

/-- `while ((cp = u8next(&p)))`: the state after the loop, and where it has stopped. -/
def eachCp {State : Type*} (body : State → UInt32 → State) (state : State) (s : Text) :
    State × Text :=
  if (u8next s).1 = 0 then (state, (u8next s).2)
  else eachCp body (body state (u8next s).1) (u8next s).2
termination_by s.length
decreasing_by exact u8next_shorter fun ended => ‹¬_› (congrArg Prod.fst (u8next_eq_zero ended))

/-- What a loop reads. -/
def decoded (s : Text) : List UInt32 × Text := eachCp (fun read cp => read ++ [cp]) [] s

/-! ## Forms -/

/-- The length of the form that starts with a byte when `more` bytes follow. -/
def formLength (b : UInt8) (more : Nat) : Nat :=
  if 0xc0 ≤ b ∧ b < 0xe0 ∧ 1 ≤ more then 2
  else if 0xe0 ≤ b ∧ b < 0xf0 ∧ 2 ≤ more then 3
  else if 0xf0 ≤ b ∧ b < 0xf8 ∧ 3 ≤ more then 4
  else 1

/-- The number that a form spells. -/
def formValue : Text → Nat
  | [b] => if b < 0x80 then b.toNat else 63
  | [b, c] => b.toNat % 32 * 64 + c.toNat % 64
  | [b, c, d] => b.toNat % 16 * 4096 + c.toNat % 64 * 64 + d.toNat % 64
  | [b, c, d, e] =>
      b.toNat % 8 * 262144 + c.toNat % 64 * 4096 + d.toNat % 64 * 64 + e.toNat % 64
  | _ => 0

/-- A form has a byte at least. -/
theorem formLength_pos (b : UInt8) (more : Nat) : 0 < formLength b more := by
  unfold formLength
  split_ifs <;> omega

/-- It has no more bytes than there are. -/
theorem formLength_le (b : UInt8) (more : Nat) : formLength b more ≤ more + 1 := by
  unfold formLength
  split_ifs <;> omega

theorem formLength_le_four (b : UInt8) (more : Nat) : formLength b more ≤ 4 := by
  unfold formLength
  split_ifs <;> omega

/-- The forms of a string, in their order. -/
def forms : Text → List Text
  | [] => []
  | b :: rest =>
      (b :: rest).take (formLength b rest.length) ::
        forms ((b :: rest).drop (formLength b rest.length))
termination_by s => s.length
decreasing_by
  have := formLength_pos b rest.length
  simp only [List.length_drop, List.length_cons]
  omega

/-- The forms make up the string. -/
theorem forms_flatten (s : Text) : (forms s).flatten = s := by
  induction s using forms.induct with
  | case1 => rw [forms, List.flatten_nil]
  | case2 b rest ih => rw [forms, List.flatten_cons, ih, List.take_append_drop]

section Bits

/-- The bits that mark a lead byte, as bounds. -/
private theorem lead_iff (b : UInt8) :
    (b &&& 0xe0 = 0xc0 ↔ 0xc0 ≤ b ∧ b < 0xe0) ∧ (b &&& 0xf0 = 0xe0 ↔ 0xe0 ≤ b ∧ b < 0xf0) ∧
      (b &&& 0xf8 = 0xf0 ↔ 0xf0 ≤ b ∧ b < 0xf8) := by
  have all : ∀ n : Fin 256,
      (UInt8.ofFin n &&& 0xe0 = 0xc0 ↔ 0xc0 ≤ UInt8.ofFin n ∧ UInt8.ofFin n < 0xe0) ∧
      (UInt8.ofFin n &&& 0xf0 = 0xe0 ↔ 0xe0 ≤ UInt8.ofFin n ∧ UInt8.ofFin n < 0xf0) ∧
      (UInt8.ofFin n &&& 0xf8 = 0xf0 ↔ 0xf0 ≤ UInt8.ofFin n ∧ UInt8.ofFin n < 0xf8) := by
    decide +kernel
  exact all b.toFin

/-- Bits in their place, above what is there. -/
private theorem or_shift (high low width : Nat) (fits : low < 2 ^ width) :
    high * 2 ^ width ||| low = high * 2 ^ width + low := by
  rw [← Nat.shiftLeft_eq, Nat.shiftLeft_add_eq_or_of_lt fits]

/-- A shift that loses nothing of 32 bits. -/
private theorem shift_mod (v count width : Nat) (small : v < 2 ^ count)
    (fits : count + width ≤ 32) : v * 2 ^ width % 2 ^ 32 = v * 2 ^ width := by
  apply Nat.mod_eq_of_lt
  calc v * 2 ^ width < 2 ^ count * 2 ^ width :=
        Nat.mul_lt_mul_of_pos_right small (Nat.two_pow_pos width)
    _ = 2 ^ (count + width) := (Nat.pow_add 2 count width).symm
    _ ≤ 2 ^ 32 := Nat.pow_le_pow_right (by decide) fits

/-- The masks of the bits that count, as remainders. -/
private theorem and_mask (b : UInt8) :
    (b &&& 0x1f).toNat = b.toNat % 32 ∧ (b &&& 0x0f).toNat = b.toNat % 16 ∧
      (b &&& 0x07).toNat = b.toNat % 8 ∧ (b &&& 0x3f).toNat = b.toNat % 64 :=
  ⟨Nat.and_two_pow_sub_one_eq_mod _ 5, Nat.and_two_pow_sub_one_eq_mod _ 4,
    Nat.and_two_pow_sub_one_eq_mod _ 3, Nat.and_two_pow_sub_one_eq_mod _ 6⟩

private theorem six_bits (b : UInt8) : b.toNat % 64 < 2 ^ 6 := Nat.mod_lt _ (by decide)

/-- A form of two bytes spells its value. -/
private theorem two_value (b c : UInt8) :
    ((b &&& 0x1f).toUInt32 <<< 6 ||| (c &&& 0x3f).toUInt32).toNat = formValue [b, c] := by
  obtain ⟨lead, -, -, -⟩ := and_mask b
  obtain ⟨-, -, -, next⟩ := and_mask c
  have shifted := shift_mod (b.toNat % 32) 5 6 (Nat.mod_lt _ (by decide)) (by decide)
  simp only [UInt32.toNat_or, UInt32.toNat_shiftLeft, UInt8.toNat_toUInt32, lead, next,
    Nat.shiftLeft_eq, UInt32.reduceToNat, Nat.reduceMod, shifted, formValue]
  exact or_shift _ _ 6 (six_bits c)

private theorem three_value (b c d : UInt8) :
    ((b &&& 0x0f).toUInt32 <<< 12 ||| (c &&& 0x3f).toUInt32 <<< 6 |||
      (d &&& 0x3f).toUInt32).toNat = formValue [b, c, d] := by
  obtain ⟨-, lead, -, -⟩ := and_mask b
  obtain ⟨-, -, -, second⟩ := and_mask c
  obtain ⟨-, -, -, third⟩ := and_mask d
  have shifted := shift_mod (b.toNat % 16) 4 12 (Nat.mod_lt _ (by decide)) (by decide)
  have shifted' := shift_mod (c.toNat % 64) 6 6 (six_bits c) (by decide)
  simp only [UInt32.toNat_or, UInt32.toNat_shiftLeft, UInt8.toNat_toUInt32, lead, second, third,
    Nat.shiftLeft_eq, UInt32.reduceToNat, Nat.reduceMod, shifted, shifted', formValue]
  -- The digits in base 64, one after the other.
  calc b.toNat % 16 * 2 ^ 12 ||| c.toNat % 64 * 2 ^ 6 ||| d.toNat % 64
    _ = (b.toNat % 16 * 2 ^ 6 ||| c.toNat % 64) * 2 ^ 6 ||| d.toNat % 64 := by
      rw [← Nat.shiftLeft_eq (_ ||| _) 6, Nat.shiftLeft_or_distrib]
      simp only [Nat.shiftLeft_eq, Nat.mul_assoc, ← Nat.pow_add]
    _ = (b.toNat % 16 * 2 ^ 6 + c.toNat % 64) * 2 ^ 6 + d.toNat % 64 := by
      rw [or_shift _ _ 6 (six_bits c), or_shift _ _ 6 (six_bits d)]
    _ = b.toNat % 16 * 4096 + c.toNat % 64 * 64 + d.toNat % 64 := by
      simp only [Nat.add_mul, Nat.mul_assoc, Nat.reducePow, Nat.reduceMul]

private theorem four_value (b c d e : UInt8) :
    ((b &&& 0x07).toUInt32 <<< 18 ||| (c &&& 0x3f).toUInt32 <<< 12 |||
      (d &&& 0x3f).toUInt32 <<< 6 ||| (e &&& 0x3f).toUInt32).toNat = formValue [b, c, d, e] := by
  obtain ⟨-, -, lead, -⟩ := and_mask b
  obtain ⟨-, -, -, second⟩ := and_mask c
  obtain ⟨-, -, -, third⟩ := and_mask d
  obtain ⟨-, -, -, fourth⟩ := and_mask e
  have shifted := shift_mod (b.toNat % 8) 3 18 (Nat.mod_lt _ (by decide)) (by decide)
  have shifted' := shift_mod (c.toNat % 64) 6 12 (six_bits c) (by decide)
  have shifted'' := shift_mod (d.toNat % 64) 6 6 (six_bits d) (by decide)
  simp only [UInt32.toNat_or, UInt32.toNat_shiftLeft, UInt8.toNat_toUInt32, lead, second, third,
    fourth, Nat.shiftLeft_eq, UInt32.reduceToNat, Nat.reduceMod, shifted, shifted', shifted'',
    formValue]
  calc b.toNat % 8 * 2 ^ 18 ||| c.toNat % 64 * 2 ^ 12 ||| d.toNat % 64 * 2 ^ 6 ||| e.toNat % 64
    _ = ((b.toNat % 8 * 2 ^ 6 ||| c.toNat % 64) * 2 ^ 6 ||| d.toNat % 64) * 2 ^ 6 |||
        e.toNat % 64 := by
      rw [← Nat.shiftLeft_eq (_ ||| _) 6, Nat.shiftLeft_or_distrib,
        ← Nat.shiftLeft_eq (_ ||| _) 6, Nat.shiftLeft_or_distrib, Nat.shiftLeft_or_distrib]
      simp only [Nat.shiftLeft_eq, Nat.mul_assoc, ← Nat.pow_add]
    _ = ((b.toNat % 8 * 2 ^ 6 + c.toNat % 64) * 2 ^ 6 + d.toNat % 64) * 2 ^ 6 +
        e.toNat % 64 := by
      rw [or_shift _ _ 6 (six_bits c), or_shift _ _ 6 (six_bits d), or_shift _ _ 6 (six_bits e)]
    _ = b.toNat % 8 * 262144 + c.toNat % 64 * 4096 + d.toNat % 64 * 64 + e.toNat % 64 := by
      simp only [Nat.add_mul, Nat.mul_assoc, Nat.reducePow, Nat.reduceMul]

end Bits

/-! ## One call -/

/-- At the terminator `u8next` returns zero and does not move. -/
@[simp] theorem u8next_nil : u8next [] = (0, []) := rfl

/-- **`u8next` reads one form.** -/
theorem u8next_cons {b : UInt8} {rest : Text} (clean : 0 ∉ b :: rest) :
    (u8next (b :: rest)).2 = (b :: rest).drop (formLength b rest.length) ∧
      (u8next (b :: rest)).1.toNat =
        formValue ((b :: rest).take (formLength b rest.length)) := by
  obtain ⟨two, three, four⟩ := lead_iff b
  have some : b ≠ 0 := by
    rintro rfl
    exact clean List.mem_cons_self
  have present (i : Nat) : rest.getD i 0 ≠ 0 ↔ i < rest.length := by
    constructor
    · intro nonzero
      by_contra beyond
      rw [List.getD_eq_getElem?_getD, List.getElem?_eq_none (by omega)] at nonzero
      exact nonzero rfl
    · intro inside zero
      rw [List.getD_eq_getElem?_getD, List.getElem?_eq_getElem inside, Option.getD_some] at zero
      exact clean (List.mem_cons_of_mem _ (zero ▸ List.getElem_mem inside))
  have ranges : b < 0x80 → ¬0xc0 ≤ b ∧ ¬0xe0 ≤ b ∧ ¬0xf0 ≤ b := by
    simp only [UInt8.lt_iff_toNat_lt, UInt8.le_iff_toNat_le, UInt8.reduceToNat]
    omega
  have room (n : Nat) : (0 < n ↔ 1 ≤ n) ∧ (0 < n ∧ 1 < n ↔ 2 ≤ n) ∧
      (0 < n ∧ 1 < n ∧ 2 < n ↔ 3 ≤ n) := by omega
  obtain ⟨one, both, all⟩ := room rest.length
  have stray (wide : ¬b < 0x80) : (63 : UInt32).toNat = formValue [b] := by
    rw [formValue, if_neg wide]
    rfl
  simp only [u8next, List.getD_cons_zero, List.getD_cons_succ, some, ↓reduceIte, two, three,
    four, present, and_assoc, formLength]
  simp only [all, both]
  simp only [one]
  by_cases ascii : b < 0x80
  · obtain ⟨c, e, f⟩ := ranges ascii
    simp only [ascii, c, e, f, ↓reduceIte, false_and, List.take_succ_cons, List.take_zero,
      formValue, UInt8.toNat_toUInt32, and_self]
  · simp only [ascii, ↓reduceIte]
    split_ifs with pair triple quadruple
    · obtain ⟨c, rest, rfl⟩ := List.exists_cons_of_length_pos pair.2.2
      exact ⟨rfl, two_value b c⟩
    · rcases rest with _ | ⟨c, _ | ⟨d, rest⟩⟩
      · exact absurd triple.2.2 (by decide)
      · exact absurd triple.2.2 (by simp)
      · exact ⟨rfl, three_value b c d⟩
    · rcases rest with _ | ⟨c, _ | ⟨d, _ | ⟨e, rest⟩⟩⟩
      · exact absurd quadruple.2.2 (by decide)
      · exact absurd quadruple.2.2 (by simp)
      · exact absurd quadruple.2.2 (by simp)
      · exact ⟨rfl, four_value b c d e⟩
    · exact ⟨rfl, stray ascii⟩

/-- At any place of the string a call stays at the terminator or goes on by one to four bytes,
and never beyond the terminator. -/
theorem u8next_moves {s : Text} (clean : 0 ∉ s) :
    s = [] ∧ u8next s = (0, s) ∨
      s ≠ [] ∧ ∃ n, 1 ≤ n ∧ n ≤ 4 ∧ n ≤ s.length ∧ (u8next s).2 = s.drop n := by
  cases s with
  | nil => exact .inl ⟨rfl, rfl⟩
  | cons b rest =>
      exact .inr ⟨List.cons_ne_nil _ _, formLength b rest.length, formLength_pos _ _,
        formLength_le_four _ _, formLength_le _ _, (u8next_cons clean).1⟩

/-! ## Encoded characters -/

/-- The bytes of a character are one form, whatever follows. -/
theorem utf8EncodeChar_form {c : Char} (some : c.val ≠ 0) :
    ∃ b rest, String.utf8EncodeChar c = b :: rest ∧ 0 ∉ b :: rest ∧
      formValue (b :: rest) = c.val.toNat ∧
      ∀ more, rest.length ≤ more → formLength b more = rest.length + 1 := by
  have positive : 0 < c.val.toNat :=
    Nat.pos_of_ne_zero fun zero => some (UInt32.toNat_inj.mp zero)
  have bounded : c.val.toNat < 0x110000 := by
    rcases c.valid with low | high
    · exact Nat.lt_trans low (by decide)
    · exact high.2
  have byte (n : Nat) (fits : n < 256) : (UInt8.ofNat n).toNat = n :=
    UInt8.toNat_ofNat_of_lt' fits
  have present (n : Nat) (fits : n < 256) (nonzero : n ≠ 0) : (0 : UInt8) ≠ UInt8.ofNat n := by
    intro zero
    have := congrArg UInt8.toNat zero
    rw [byte n fits] at this
    exact nonzero this.symm
  unfold String.utf8EncodeChar
  generalize c.val.toNat = v at *
  dsimp only
  split
  · refine ⟨_, _, rfl, ?_, ?_, ?_⟩
    · simp only [List.mem_singleton]
      exact present v (by omega) (by omega)
    · rw [formValue, if_pos, byte v (by omega)]
      rw [UInt8.lt_iff_toNat_lt, byte v (by omega)]
      exact Nat.lt_succ_of_le ‹_›
    · intro more _
      unfold formLength
      simp only [UInt8.le_iff_toNat_le, byte v (by omega), UInt8.reduceToNat, List.length_nil]
      rw [if_neg (by omega), if_neg (by omega), if_neg (by omega)]
  · split
    · refine ⟨_, _, rfl, ?_, ?_, ?_⟩
      · simp only [List.mem_cons, List.not_mem_nil, or_false, not_or]
        exact ⟨present _ (by omega) (by omega), present _ (by omega) (by omega)⟩
      · rw [formValue, byte _ (by omega), byte _ (by omega)]
        omega
      · intro more enough
        simp only [List.length_cons, List.length_nil] at enough ⊢
        simp only [formLength, UInt8.le_iff_toNat_le, UInt8.lt_iff_toNat_lt,
          byte (v / 64 % 0x20 + 0xc0) (by omega), UInt8.reduceToNat]
        rw [if_pos (by omega)]
    · split
      · refine ⟨_, _, rfl, ?_, ?_, ?_⟩
        · simp only [List.mem_cons, List.not_mem_nil, or_false, not_or]
          exact ⟨present _ (by omega) (by omega), present _ (by omega) (by omega),
            present _ (by omega) (by omega)⟩
        · rw [formValue, byte _ (by omega), byte _ (by omega), byte _ (by omega)]
          omega
        · intro more enough
          simp only [List.length_cons, List.length_nil] at enough ⊢
          simp only [formLength, UInt8.le_iff_toNat_le, UInt8.lt_iff_toNat_lt,
            byte (v / 4096 % 0x10 + 0xe0) (by omega), UInt8.reduceToNat]
          rw [if_neg (by omega), if_pos (by omega)]
      · refine ⟨_, _, rfl, ?_, ?_, ?_⟩
        · simp only [List.mem_cons, List.not_mem_nil, or_false, not_or]
          exact ⟨present _ (by omega) (by omega), present _ (by omega) (by omega),
            present _ (by omega) (by omega), present _ (by omega) (by omega)⟩
        · rw [formValue, byte _ (by omega), byte _ (by omega), byte _ (by omega),
            byte _ (by omega)]
          omega
        · intro more enough
          simp only [List.length_cons, List.length_nil] at enough ⊢
          simp only [formLength, UInt8.le_iff_toNat_le, UInt8.lt_iff_toNat_lt,
            byte (v / 262144 % 0x08 + 0xf0) (by omega), UInt8.reduceToNat]
          rw [if_neg (by omega), if_neg (by omega), if_pos (by omega)]

/-- A character that is encoded is read back. -/
theorem u8next_encode {c : Char} {rest : Text} (some : c.val ≠ 0) (clean : 0 ∉ rest) :
    u8next (String.utf8EncodeChar c ++ rest) = (c.val, rest) := by
  obtain ⟨b, tail, encoded, nonzero, value, length⟩ := utf8EncodeChar_form some
  have clean' : 0 ∉ b :: (tail ++ rest) := by
    intro zero
    rw [← List.cons_append] at zero
    exact (List.mem_append.mp zero).elim nonzero clean
  have whole : formLength b (tail ++ rest).length = (b :: tail).length :=
    length _ (by rw [List.length_append]; omega)
  obtain ⟨behind, read⟩ := u8next_cons clean'
  rw [whole, ← List.cons_append, List.take_left, value] at read
  rw [whole, ← List.cons_append, List.drop_left] at behind
  rw [encoded]
  exact Prod.ext (UInt32.toNat_inj.mp read) behind

/-- The encoding of characters. -/
def encode (chars : List Char) : Text := chars.flatMap String.utf8EncodeChar

/-- What is encoded has no zero byte. -/
theorem encode_clean {chars : List Char} (some : ∀ c ∈ chars, c.val ≠ 0) : 0 ∉ encode chars := by
  intro zero
  obtain ⟨c, member, within⟩ := List.mem_flatMap.mp zero
  obtain ⟨b, tail, encoded, nonzero, -, -⟩ := utf8EncodeChar_form (some c member)
  rw [encoded] at within
  exact nonzero within

/-- **`u8next` decodes what has been encoded**, and then is at the terminator. -/
theorem decoded_encode {chars : List Char} (some : ∀ c ∈ chars, c.val ≠ 0) :
    decoded (encode chars) = (chars.map (·.val), []) := by
  suffices general : ∀ read, eachCp (fun read cp => read ++ [cp]) read (encode chars) =
      (read ++ chars.map (·.val), []) from general []
  induction chars with
  | nil =>
      intro read
      rw [eachCp]
      simp [encode]
  | cons c chars ih =>
      intro read
      have clean := encode_clean fun c member => some c (List.mem_cons_of_mem _ member)
      have first := some c List.mem_cons_self
      have next : u8next (encode (c :: chars)) = (c.val, encode chars) :=
        u8next_encode first clean
      rw [eachCp, next, if_neg first,
        ih (fun c member => some c (List.mem_cons_of_mem _ member)), List.map_cons,
        List.append_assoc, List.singleton_append]

/-! ## Loops on any string -/

/-- A form of several bytes that spells zero: C0, E0 or F0, and only bytes whose low six bits
are zero. -/
def ZeroForm : Text → Prop
  | b :: c :: rest => (b = 0xc0 ∨ b = 0xe0 ∨ b = 0xf0) ∧ ∀ d ∈ c :: rest, d.toNat % 64 = 0
  | _ => False

/-- The form that starts a string spells zero exactly when it is a zero form. -/
theorem formValue_eq_zero_iff {b : UInt8} {rest : Text} (clean : 0 ∉ b :: rest) :
    formValue ((b :: rest).take (formLength b rest.length)) = 0 ↔
      ZeroForm ((b :: rest).take (formLength b rest.length)) := by
  have some : b.toNat ≠ 0 := by
    intro zero
    have : b = 0 := UInt8.toNat_inj.mp zero
    exact clean (this ▸ List.mem_cons_self)
  unfold formLength
  simp only [UInt8.le_iff_toNat_le, UInt8.lt_iff_toNat_lt, UInt8.reduceToNat]
  split_ifs with pair triple quadruple
  · obtain ⟨c, rest, rfl⟩ := List.exists_cons_of_length_pos pair.2.2
    simp only [List.take_succ_cons, List.take_zero, formValue, ZeroForm, ← UInt8.toNat_inj,
      UInt8.reduceToNat, List.forall_mem_singleton]
    omega
  · rcases rest with _ | ⟨c, _ | ⟨d, rest⟩⟩
    · exact absurd triple.2.2 (by decide)
    · exact absurd triple.2.2 (by simp)
    · simp only [List.take_succ_cons, List.take_zero, formValue, ZeroForm, List.mem_cons,
        List.not_mem_nil, or_false, forall_eq_or_imp, forall_eq]
      simp only [← UInt8.toNat_inj, UInt8.reduceToNat]
      omega
  · rcases rest with _ | ⟨c, _ | ⟨d, _ | ⟨e, rest⟩⟩⟩
    · exact absurd quadruple.2.2 (by decide)
    · exact absurd quadruple.2.2 (by simp)
    · exact absurd quadruple.2.2 (by simp)
    · simp only [List.take_succ_cons, List.take_zero, formValue, ZeroForm, List.mem_cons,
        List.not_mem_nil, or_false, forall_eq_or_imp, forall_eq]
      simp only [← UInt8.toNat_inj, UInt8.reduceToNat]
      omega
  · simp only [List.take_succ_cons, List.take_zero, formValue, ZeroForm, iff_false]
    split <;> omega

/-- Only the empty string has no form. -/
theorem forms_eq_nil_iff (s : Text) : forms s = [] ↔ s = [] := by
  cases s with
  | nil => simp only [forms]
  | cons b rest =>
      rw [forms]
      exact iff_of_false (List.cons_ne_nil _ _) (List.cons_ne_nil _ _)

/-- **When a loop reads the whole string.** `while ((cp = u8next(&p)))` stops at the terminator
exactly when no form of the string, except perhaps the last one, is a zero form. -/
theorem eachCp_rest_iff {State : Type*} (body : State → UInt32 → State) (state : State) {s : Text}
    (clean : 0 ∉ s) :
    (eachCp body state s).2 = [] ↔ ∀ form ∈ (forms s).dropLast, ¬ZeroForm form := by
  induction s using forms.induct generalizing state with
  | case1 =>
      rw [eachCp]
      simp [forms]
  | case2 b rest ih =>
      obtain ⟨behind, read⟩ := u8next_cons clean
      have zero : (u8next (b :: rest)).1 = 0 ↔
          ZeroForm ((b :: rest).take (formLength b rest.length)) := by
        rw [← formValue_eq_zero_iff clean, ← read]
        exact UInt32.toNat_inj.symm
      have clean' : 0 ∉ (b :: rest).drop (formLength b rest.length) := fun member =>
        clean (List.mem_of_mem_drop member)
      rw [eachCp, forms, behind]
      by_cases ended : (b :: rest).drop (formLength b rest.length) = []
      · rw [ended, (forms_eq_nil_iff []).mpr rfl]
        split
        · simp
        · rw [eachCp]
          simp
      · have more : forms ((b :: rest).drop (formLength b rest.length)) ≠ [] := fun none =>
          ended ((forms_eq_nil_iff _).mp none)
        rw [List.dropLast_cons_of_ne_nil more, List.forall_mem_cons]
        split
        · next stops => exact iff_of_false ended fun all => all.1 (zero.mp stops)
        · next goes =>
            rw [ih _ clean']
            exact (and_iff_right fun form => goes (zero.mpr form)).symm

/-! ## Cutting between forms -/

/-- How many bytes a lead byte asks for; none when the byte is no lead byte. -/
def asks (b : UInt8) : Nat :=
  if 0xc0 ≤ b ∧ b < 0xe0 then 1
  else if 0xe0 ≤ b ∧ b < 0xf0 then 2
  else if 0xf0 ≤ b ∧ b < 0xf8 then 3
  else 0

/-- A lead byte asks for three bytes at most. -/
theorem asks_le_three (b : UInt8) : asks b ≤ 3 := by
  unfold asks
  split_ifs <;> omega

/-- How long a form is, by what its lead byte asks for. -/
theorem formLength_eq (b : UInt8) (more : Nat) :
    formLength b more = if asks b ≤ more then asks b + 1 else 1 := by
  unfold formLength asks
  simp only [UInt8.le_iff_toNat_le, UInt8.lt_iff_toNat_lt, UInt8.reduceToNat]
  split_ifs <;> omega

/-- A form with all the bytes that its first one asks for. -/
def Finished : Text → Prop
  | [] => False
  | b :: rest => rest.length = asks b

/-- What is a form when `behind` bytes follow: it is finished, or it is a lead byte and too few
bytes follow. -/
def IsForm (behind : Nat) : Text → Prop
  | [] => False
  | b :: rest => rest.length = asks b ∨ rest = [] ∧ behind < asks b

/-- A finished form is one whatever follows. -/
theorem Finished.isForm {form : Text} (finished : Finished form) (behind : Nat) :
    IsForm behind form := by
  cases form with
  | nil => exact finished
  | cons b rest => exact .inl finished

theorem IsForm.mono {form : Text} {more fewer : Nat} (isForm : IsForm more form)
    (le : fewer ≤ more) : IsForm fewer form := by
  cases form with
  | nil => exact isForm
  | cons b rest => exact isForm.imp_right fun alone => ⟨alone.1, le.trans_lt alone.2⟩

/-- A form is read as such. -/
theorem forms_append_form {form rest : Text} (isForm : IsForm rest.length form) :
    forms (form ++ rest) = form :: forms rest := by
  cases form with
  | nil => exact isForm.elim
  | cons b tail =>
      have size : formLength b (tail ++ rest).length = (b :: tail).length := by
        rw [formLength_eq, List.length_append, List.length_cons]
        rcases isForm with finished | ⟨rfl, alone⟩
        · rw [if_pos (by omega), finished]
        · rw [if_neg (by rw [List.length_nil]; omega)]
          rfl
      rw [List.cons_append, forms, size, ← List.cons_append, List.take_left, List.drop_left]

/-- The first form of a string. -/
theorem forms_eq_cons {s form : Text} {more : List Text} (first : forms s = form :: more) :
    ∃ rest, s = form ++ rest ∧ forms rest = more ∧ IsForm rest.length form := by
  cases s with
  | nil => rw [forms] at first; cases first
  | cons b tail =>
      rw [forms, List.cons.injEq] at first
      obtain ⟨rfl, rfl⟩ := first
      refine ⟨_, (List.take_append_drop _ _).symm, rfl, ?_⟩
      rw [List.length_drop, List.length_cons, formLength_eq]
      split
      · refine .inl ?_
        rw [List.length_take]
        omega
      · exact .inr ⟨rfl, by omega⟩

/-- What is cut off between two forms keeps its forms, on both sides. -/
theorem forms_cut {s : Text} {before after : List Text} (cut : forms s = before ++ after) :
    forms before.flatten = before ∧ forms after.flatten = after := by
  induction before generalizing s with
  | nil =>
      rw [List.nil_append] at cut
      refine ⟨by rw [List.flatten_nil, forms], ?_⟩
      rw [← cut, forms_flatten]
  | cons form before ih =>
      rw [List.cons_append] at cut
      obtain ⟨rest, rfl, behind, isForm⟩ := forms_eq_cons cut
      obtain ⟨left, right⟩ := ih behind
      have shorter : before.flatten.length ≤ rest.length := by
        rw [← forms_flatten rest, behind, List.flatten_append, List.length_append]
        exact Nat.le_add_right _ _
      rw [List.flatten_cons, forms_append_form (isForm.mono shorter), left]
      exact ⟨rfl, right⟩

/-- Finished forms are read as such, whatever follows. -/
theorem forms_append_of_finished {before : List Text} (finished : ∀ form ∈ before, Finished form)
    (rest : Text) : forms (before.flatten ++ rest) = before ++ forms rest := by
  induction before with
  | nil => rfl
  | cons form before ih =>
      have first := finished form List.mem_cons_self
      rw [List.flatten_cons, List.append_assoc, forms_append_form (first.isForm _),
        ih fun form member => finished form (List.mem_cons_of_mem _ member), List.cons_append]

/-- A form that is not finished is a lead byte alone, and too few bytes follow it. -/
theorem forms_unfinished {s form : Text} {before after : List Text}
    (cut : forms s = before ++ form :: after) (unfinished : ¬Finished form) :
    ∃ lead, form = [lead] ∧ after.flatten.length < asks lead := by
  obtain ⟨-, behind⟩ := forms_cut cut
  obtain ⟨rest, -, onward, isForm⟩ := forms_eq_cons behind
  have same : rest = after.flatten := by rw [← onward, forms_flatten]
  cases form with
  | nil => exact isForm.elim
  | cons b tail =>
      rcases isForm with finished | ⟨rfl, alone⟩
      · exact absurd finished unfinished
      · exact ⟨b, rfl, same ▸ alone⟩

/-- A form has four bytes at most. -/
theorem IsForm.length_le_four {behind : Nat} {form : Text} (isForm : IsForm behind form) :
    form.length ≤ 4 := by
  cases form with
  | nil => exact isForm.elim
  | cons b rest =>
      have := asks_le_three b
      rw [List.length_cons]
      rcases isForm with finished | ⟨rfl, -⟩
      · omega
      · exact Nat.le_add_left 1 3

/-- `u8next` in front of a form goes behind it. -/
theorem u8next_form {form : Text} {rest : Text} (isForm : IsForm rest.length form)
    (clean : 0 ∉ form ++ rest) :
    (form ++ rest).getD 0 0 ≠ 0 ∧ (u8next (form ++ rest)).2 = rest := by
  have first := forms_append_form isForm
  cases form with
  | nil => exact isForm.elim
  | cons b tail =>
      rw [List.cons_append] at clean first ⊢
      rw [forms, List.cons.injEq] at first
      refine ⟨fun zero => clean ?_, ?_⟩
      · exact List.mem_cons.mpr (.inl zero.symm)
      · have parted := List.take_append_drop (formLength b (tail ++ rest).length)
          (b :: (tail ++ rest))
        rw [first.1, List.cons_append] at parted
        rw [(u8next_cons clean).1]
        exact List.append_cancel_left (List.cons.inj parted).2

end Ginkgo
