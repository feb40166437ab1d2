import Ginkgo.CText.Basic

/-!
# Decimal numbers

A number printed by `printf` is read back by `strtol` when no further digit follows it
(`CText.strtol_decimal_append`), and by `atoi` when it is an `int`
(`CText.atoi_decimal`).
-/

namespace CText

/-- The byte of an ASCII character. -/
def byteOf (c : Char) : UInt8 := UInt8.ofNat c.toNat

/-- A digit keeps its number as a byte. -/
theorem byteOf_toNat {c : Char} (digit : c.isDigit) : (byteOf c).toNat = c.toNat := by
  simp only [Char.isDigit, Bool.and_eq_true, decide_eq_true_eq] at digit
  have above : c.toNat ≤ 57 := digit.2
  rw [byteOf, UInt8.toNat_ofNat']
  omega

/-- And it is a digit as a byte. -/
theorem isDigit_byteOf {c : Char} (digit : c.isDigit) : isDigit (byteOf c) := by
  have same := byteOf_toNat digit
  simp only [Char.isDigit, Bool.and_eq_true, decide_eq_true_eq] at digit
  have below : 48 ≤ c.toNat := digit.1
  have above : c.toNat ≤ 57 := digit.2
  simp only [isDigit, decide_eq_true_eq, UInt8.le_iff_toNat_le]
  rw [same]
  exact ⟨below, above⟩

/-- A natural number is printed by its digits. -/
theorem decimal_natCast (n : Nat) : decimal n = (Nat.toDigits 10 n).map byteOf := rfl

/-- What is printed are digits. -/
theorem isDigit_of_mem_decimal {n : Nat} {c : UInt8} (member : c ∈ decimal n) : isDigit c := by
  rw [decimal_natCast] at member
  obtain ⟨digit, inside, rfl⟩ := List.mem_map.mp member
  exact isDigit_byteOf (Nat.isDigit_of_mem_toDigits (by decide) (by decide) inside)

/-- A number has no byte that a terse record escapes. -/
theorem decimal_plain (n : Nat) : ∀ c ∈ decimal n, c ≠ colon ∧ c ≠ backslash := by
  intro c member
  have digit := isDigit_of_mem_decimal member
  constructor
  · rintro rfl
    exact absurd digit (by decide)
  · rintro rfl
    exact absurd digit (by decide)

/-- Something is printed. -/
theorem decimal_ne_nil (n : Nat) : decimal n ≠ [] := by
  rw [decimal_natCast, ne_eq, List.map_eq_nil_iff]
  exact Nat.toDigits_ne_nil

/-- The value of some digits is the one that the library computes. -/
theorem digitsValue_map {digits : List Char} (all : ∀ c ∈ digits, c.isDigit) (value : Nat) :
    digitsValue value (digits.map byteOf) = Nat.ofDigitChars 10 digits value := by
  induction digits generalizing value with
  | nil => simp [digitsValue]
  | cons c digits ih =>
      have head : (byteOf c).toNat = c.toNat := byteOf_toNat (all c (by simp))
      have tail := ih (fun d member => all d (by simp [member])) (10 * value + (c.toNat - 48))
      rw [Nat.ofDigitChars_cons]
      simp only [digitsValue, List.map_cons, List.foldl_cons, head] at tail ⊢
      exact tail

/-- The value of what is printed is the number. -/
theorem digitsValue_decimal (n : Nat) : digitsValue 0 (decimal n) = n := by
  have digits : ∀ c ∈ Nat.toDigits 10 n, c.isDigit := fun c member =>
    Nat.isDigit_of_mem_toDigits (by decide) (by decide) member
  rw [decimal_natCast, digitsValue_map digits, Nat.ofDigitChars_ten_toDigits]

/-- A digit is neither a blank nor a sign. -/
theorem isDigit_plain {c : UInt8} (digit : isDigit c) : isSpace c = false ∧ c ≠ dash ∧ c ≠ 43 := by
  simp only [isDigit, decide_eq_true_eq, UInt8.le_iff_toNat_le] at digit
  refine ⟨?_, ?_, ?_⟩
  · simp only [isSpace, decide_eq_false_iff_not, UInt8.le_iff_toNat_le, not_or, not_and]
    constructor
    · rintro rfl
      exact absurd digit.1 (by decide)
    · intro _ low
      have := digit.1
      simp at *
      omega
  · rintro rfl
    exact absurd digit.1 (by decide)
  · rintro rfl
    exact absurd digit.1 (by decide)

/-- The digits in front of anything else are those of the number. -/
theorem takeWhile_decimal_append (n : Nat) {rest : Text}
    (stops : ∀ c ∈ rest.head?, isDigit c = false) :
    (decimal n ++ rest).takeWhile isDigit = decimal n := by
  rw [List.takeWhile_append_of_pos fun c member => isDigit_of_mem_decimal member]
  cases rest with
  | nil => simp
  | cons c rest => simp [stops c rfl]

/-- **A printed number is read back.** -/
theorem strtol_decimal_append (n : Nat) {rest : Text} (stops : ∀ c ∈ rest.head?, isDigit c = false) :
    strtol (decimal n ++ rest) = some (min (n : Int) (2 ^ 63 - 1)) := by
  have taken := takeWhile_decimal_append n stops
  have value := digitsValue_decimal n
  have digit : ∀ c ∈ decimal n, isDigit c := fun c => isDigit_of_mem_decimal
  have nonempty := decimal_ne_nil n
  unfold strtol
  generalize decimal n = digits at *
  obtain ⟨c, tail, rfl⟩ := List.exists_cons_of_ne_nil nonempty
  obtain ⟨plain, unsigned, unsigned'⟩ := isDigit_plain (digit c (by simp))
  simp only [List.cons_append] at taken ⊢
  simp only [List.dropWhile_cons, plain, Bool.false_eq_true, ↓reduceIte, List.head?_cons,
    Option.some.injEq, unsigned, unsigned', or_self, taken, nonempty, value]
  have least : -2 ^ 63 ≤ min (n : Int) (2 ^ 63 - 1) := by omega
  rw [max_eq_right least]

/-- `atoi` reads a number back. -/
theorem atoi_decimal {n : Nat} (small : n < 2 ^ 31) : atoi (decimal n) = n := by
  have read : strtol (decimal n) = some (min (n : Int) (2 ^ 63 - 1)) := by
    have whole := @strtol_decimal_append n [] (by simp)
    rwa [List.append_nil] at whole
  have short : min (n : Int) (2 ^ 63 - 1) = n := min_eq_left (by omega)
  have narrow : (n : Int).bmod (2 ^ 32) = n := Int.bmod_eq_of_le (by omega) (by omega)
  rw [atoi, scanInt, read, short, Option.map_some, narrow, Option.getD_some]

/-- A blank before a number is skipped. -/
theorem strtol_blank {c : UInt8} (blank : isSpace c = true) (s : Text) :
    strtol (c :: s) = strtol s := by
  simp [strtol, blank]

/-- **A printed negative number is read back.** -/
theorem strtol_dash_decimal_append (n : Nat) {rest : Text}
    (stops : ∀ c ∈ rest.head?, isDigit c = false) :
    strtol (dash :: (decimal n ++ rest)) = some (max (-2 ^ 63) (-(n : Int))) := by
  have taken := takeWhile_decimal_append n stops
  have value := digitsValue_decimal n
  have nonempty := decimal_ne_nil n
  have plain : isSpace dash = false := by decide
  have most : min (-(n : Int)) (2 ^ 63 - 1) = -n := min_eq_left (by omega)
  unfold strtol
  simp only [List.dropWhile_cons, plain, Bool.false_eq_true, ↓reduceIte, List.head?_cons, true_or,
    List.tail_cons, taken, nonempty, value, most]

/-- `%d` skips blanks. -/
theorem scanInt_blank {c : UInt8} (blank : isSpace c = true) (s : Text) :
    scanInt (c :: s) = scanInt s := by
  rw [scanInt, strtol_blank blank, scanInt]

/-- An `int` is read back up to a byte that is no digit. -/
theorem scanInt_decimal_append {n : Nat} (small : n < 2 ^ 31) {rest : Text}
    (stops : ∀ c ∈ rest.head?, isDigit c = false) : scanInt (decimal n ++ rest) = some (n : Int) := by
  have short : min (n : Int) (2 ^ 63 - 1) = n := min_eq_left (by omega)
  have narrow : (n : Int).bmod (2 ^ 32) = n := Int.bmod_eq_of_le (by omega) (by omega)
  rw [scanInt, strtol_decimal_append n stops, short, Option.map_some, narrow]

/-- A negative `int` is read back up to a byte that is no digit. -/
theorem scanInt_dash_decimal_append {n : Nat} (small : n < 2 ^ 31) {rest : Text}
    (stops : ∀ c ∈ rest.head?, isDigit c = false) :
    scanInt (dash :: (decimal n ++ rest)) = some (-(n : Int)) := by
  have short : max (-2 ^ 63) (-(n : Int)) = -n := max_eq_right (by omega)
  have narrow : (-(n : Int)).bmod (2 ^ 32) = -n := Int.bmod_eq_of_le (by omega) (by omega)
  rw [scanInt, strtol_dash_decimal_append n stops, short, Option.map_some, narrow]

/-- An `int` has at most ten digits. -/
theorem decimal_length {n : Nat} (small : n < 2 ^ 31) : (decimal n).length ≤ 10 := by
  rw [decimal_natCast, List.length_map, Nat.length_toDigits_le_iff (by decide) (by decide)]
  omega

end CText
