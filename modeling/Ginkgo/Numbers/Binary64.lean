import Mathlib.Algebra.Order.Field.Power
import Mathlib.Data.Rat.Floor
import Mathlib.Tactic.Linarith
import Mathlib.Tactic.NormNum
import Mathlib.Tactic.Positivity

/-!
# Numbers of double precision

`Binary64.round` takes a rational number to the nearest one that has 53 binary digits, and to the
even one of two that are equally near. It is what an operation on doubles delivers when the exact
result is not negative and neither overflows nor underflows; the exponent has no bounds here.

Rounding is monotone (`Binary64.round_mono`), keeps the natural numbers below `2 ^ 53`
(`Binary64.round_natCast`) and changes a number by `2 ^ -53` of it at most
(`Binary64.round_close`).
-/

namespace Binary64

/-- A power of two. -/
def pow2 : ℤ → ℚ
  | .ofNat n => ((2 ^ n : ℕ) : ℚ)
  | .negSucc n => 1 / ((2 ^ (n + 1) : ℕ) : ℚ)

/-- It is the power of the rationals. -/
theorem pow2_eq (k : ℤ) : pow2 k = (2 : ℚ) ^ k := by
  cases k with
  | ofNat n =>
      rw [pow2, Int.ofNat_eq_natCast, zpow_natCast]
      push_cast
      rfl
  | negSucc n =>
      rw [pow2, zpow_negSucc, one_div]
      push_cast
      rfl

/-- A power of two is positive. -/
theorem pow2_pos (k : ℤ) : 0 < pow2 k := by
  rw [pow2_eq]
  positivity

/-- Exponents add up. -/
theorem pow2_add (j k : ℤ) : pow2 (j + k) = pow2 j * pow2 k := by
  simp only [pow2_eq]
  exact zpow_add₀ two_ne_zero j k

/-- A power of two grows with its exponent. -/
theorem pow2_mono {j k : ℤ} (le : j ≤ k) : pow2 j ≤ pow2 k := by
  simp only [pow2_eq]
  exact zpow_le_zpow_right₀ one_le_two le

/-! ## The place of a number -/

/-- The number of the binary place of the first digit. -/
def exponent (q : ℚ) : ℤ :=
  let k : ℤ := (q.num.natAbs.log2 : ℤ) - (q.den.log2 : ℤ)
  if pow2 k ≤ q then k else k - 1

/-- A positive number is between two powers of two. -/
theorem exponent_spec {q : ℚ} (positive : 0 < q) :
    pow2 (exponent q) ≤ q ∧ q < pow2 (exponent q + 1) := by
  have top : q.num.natAbs ≠ 0 := Int.natAbs_ne_zero.mpr (Rat.num_ne_zero.mpr positive.ne')
  have value : q * q.den = q.num.natAbs := by
    have whole : ((q.num.natAbs : ℤ) : ℚ) = q.num := by
      rw [Int.natAbs_of_nonneg (Rat.num_nonneg.mpr positive.le)]
    rw [← Int.cast_natCast q.num.natAbs, whole, Rat.mul_den_eq_num]
  have low : (2 : ℚ) ^ q.num.natAbs.log2 ≤ q.num.natAbs := by
    exact_mod_cast Nat.log2_self_le top
  have high : (q.num.natAbs : ℚ) < 2 ^ (q.num.natAbs.log2 + 1) := by
    exact_mod_cast Nat.lt_log2_self
  have low' : (2 : ℚ) ^ q.den.log2 ≤ q.den := by exact_mod_cast Nat.log2_self_le q.den_nz
  have high' : (q.den : ℚ) < 2 ^ (q.den.log2 + 1) := by exact_mod_cast Nat.lt_log2_self
  have above : q < pow2 ((q.num.natAbs.log2 : ℤ) - q.den.log2 + 1) := by
    have powers : pow2 ((q.num.natAbs.log2 : ℤ) - q.den.log2 + 1) =
        2 ^ (q.num.natAbs.log2 + 1) / 2 ^ q.den.log2 := by
      rw [pow2_eq, sub_add_eq_add_sub, zpow_sub₀ two_ne_zero]
      norm_cast
    rw [powers, lt_div_iff₀ (by positivity)]
    calc q * 2 ^ q.den.log2 ≤ q * q.den := mul_le_mul_of_nonneg_left low' positive.le
      _ = q.num.natAbs := value
      _ < 2 ^ (q.num.natAbs.log2 + 1) := high
  have below : pow2 ((q.num.natAbs.log2 : ℤ) - q.den.log2 - 1) ≤ q := by
    have powers : pow2 ((q.num.natAbs.log2 : ℤ) - q.den.log2 - 1) =
        2 ^ q.num.natAbs.log2 / 2 ^ (q.den.log2 + 1) := by
      rw [pow2_eq, sub_sub, zpow_sub₀ two_ne_zero]
      norm_cast
    rw [powers, div_le_iff₀ (by positivity)]
    calc (2 : ℚ) ^ q.num.natAbs.log2 ≤ q.num.natAbs := low
      _ = q * q.den := value.symm
      _ ≤ q * 2 ^ (q.den.log2 + 1) := mul_le_mul_of_nonneg_left high'.le positive.le
  unfold exponent
  simp only
  split
  · next reached => exact ⟨reached, above⟩
  · next short =>
      rw [sub_add_cancel]
      exact ⟨below, not_le.mp short⟩

/-- A larger number starts at the same place or at a higher one. -/
theorem exponent_mono {x y : ℚ} (positive : 0 < x) (le : x ≤ y) : exponent x ≤ exponent y := by
  by_contra less
  rw [not_le] at less
  have low := (exponent_spec positive).1
  have high := (exponent_spec (positive.trans_le le)).2
  have step := pow2_mono (Int.add_one_le_iff.mpr less)
  linarith

/-! ## The nearest whole number -/

/-- The nearest whole number, and the even one of two that are equally near. -/
def nearestEven (q : ℚ) : ℤ :=
  let n := q.floor
  if q - n < 1 / 2 then n
  else if 1 / 2 < q - n then n + 1
  else if n % 2 = 0 then n
  else n + 1

/-- A number lies between its floor and the next whole number. -/
theorem floor_bounds (q : ℚ) : (q.floor : ℚ) ≤ q ∧ q < q.floor + 1 :=
  ⟨Int.floor_le q, Int.lt_floor_add_one q⟩

/-- The nearest whole number is the floor or the next one. -/
theorem nearestEven_bounds (q : ℚ) : q.floor ≤ nearestEven q ∧ nearestEven q ≤ q.floor + 1 := by
  unfold nearestEven
  simp only
  split_ifs <;> omega

/-- It is at most a half away. -/
theorem nearestEven_close (q : ℚ) : |(nearestEven q : ℚ) - q| ≤ 1 / 2 := by
  obtain ⟨low, high⟩ := floor_bounds q
  rw [abs_le]
  unfold nearestEven
  simp only
  split_ifs <;> push_cast <;> constructor <;> linarith

/-- Going to the nearest whole number keeps the order. -/
theorem nearestEven_mono {x y : ℚ} (le : x ≤ y) : nearestEven x ≤ nearestEven y := by
  have floors : x.floor ≤ y.floor := Int.floor_le_floor le
  rcases floors.lt_or_eq with less | same
  · have first := (nearestEven_bounds x).2
    have second := (nearestEven_bounds y).1
    omega
  · unfold nearestEven
    simp only [same]
    -- Both are between the same whole numbers, the second not below the first.
    split_ifs <;> first | omega | linarith

/-- A whole number is its own nearest. -/
theorem nearestEven_intCast (n : ℤ) : nearestEven n = n := by
  have whole : (n : ℚ).floor = n := Rat.floor_intCast n
  unfold nearestEven
  simp only [whole, sub_self]
  rw [if_pos (by norm_num)]

/-! ## Rounding -/

/-- How far apart the numbers of 53 digits are at a number. -/
def spacing (q : ℚ) : ℚ := pow2 (exponent q - 52)

/-- The nearest double to a number that is not negative. -/
def round (q : ℚ) : ℚ := if q ≤ 0 then 0 else nearestEven (q / spacing q) * spacing q

/-- The doubles lie apart. -/
theorem spacing_pos (q : ℚ) : 0 < spacing q := pow2_pos _

/-- How a positive number is rounded. -/
theorem round_of_pos {q : ℚ} (positive : 0 < q) :
    round q = nearestEven (q / spacing q) * spacing q := if_neg (not_le.mpr positive)

/-- **Rounding is exact to 53 digits.** -/
theorem round_close {q : ℚ} (least : 0 ≤ q) : |round q - q| ≤ q / 2 ^ 53 := by
  rcases least.eq_or_lt with rfl | positive
  · simp [round]
  · have far := spacing_pos q
    have near := nearestEven_close (q / spacing q)
    have scaled : round q - q = (nearestEven (q / spacing q) - q / spacing q) * spacing q := by
      rw [round_of_pos positive, sub_mul, div_mul_cancel₀ _ far.ne']
    have digits : spacing q * 2 ^ 52 ≤ q := by
      have power : (2 : ℚ) ^ 52 = pow2 52 := by rw [pow2_eq]; norm_num
      rw [spacing, power, ← pow2_add, sub_add_cancel]
      exact (exponent_spec positive).1
    rw [scaled, abs_mul, abs_of_pos far]
    calc |(nearestEven (q / spacing q) : ℚ) - q / spacing q| * spacing q
        ≤ 1 / 2 * spacing q := mul_le_mul_of_nonneg_right near far.le
      _ ≤ q / 2 ^ 53 := by linarith

/-- A number is not rounded across a power of two. -/
theorem round_between {q : ℚ} (positive : 0 < q) :
    pow2 (exponent q) ≤ round q ∧ round q ≤ pow2 (exponent q + 1) := by
  have far := spacing_pos q
  obtain ⟨low, high⟩ := exponent_spec positive
  have power (k : ℕ) : pow2 (exponent q - 52 + k) = ((2 ^ k : ℤ) : ℚ) * spacing q := by
    rw [pow2_add, mul_comm, spacing, pow2_eq k, zpow_natCast]
    push_cast
    rfl
  have first := power 52
  have second := power 53
  rw [show exponent q - 52 + (52 : ℕ) = exponent q by push_cast; ring] at first
  rw [show exponent q - 52 + (53 : ℕ) = exponent q + 1 by push_cast; ring] at second
  rw [first, second, round_of_pos positive]
  rw [first, ← le_div_iff₀ far] at low
  rw [second, ← div_lt_iff₀ far] at high
  have above := nearestEven_mono low
  have below := nearestEven_mono high.le
  rw [nearestEven_intCast] at above below
  exact ⟨mul_le_mul_of_nonneg_right (Int.cast_le.mpr above) far.le,
    mul_le_mul_of_nonneg_right (Int.cast_le.mpr below) far.le⟩

/-- What is not negative stays so. -/
theorem round_nonneg (q : ℚ) : 0 ≤ round q := by
  by_cases positive : 0 < q
  · exact (pow2_pos _).le.trans (round_between positive).1
  · rw [round, if_pos (not_lt.mp positive)]

/-- **Rounding keeps the order.** -/
theorem round_mono {x y : ℚ} (le : x ≤ y) : round x ≤ round y := by
  by_cases positive : 0 < x
  · have positive' := positive.trans_le le
    rcases (exponent_mono positive le).lt_or_eq with less | same
    · exact (round_between positive).2.trans
        ((pow2_mono (Int.add_one_le_iff.mpr less)).trans (round_between positive').1)
    · have spaced : spacing x = spacing y := congrArg (fun e => pow2 (e - 52)) same
      rw [round_of_pos positive, round_of_pos positive', spaced]
      have far := spacing_pos y
      exact mul_le_mul_of_nonneg_right
        (Int.cast_le.mpr (nearestEven_mono (div_le_div_of_nonneg_right le far.le))) far.le
  · rw [round, if_pos (not_lt.mp positive)]
    exact round_nonneg y

/-- Natural numbers of 53 digits are doubles. -/
theorem round_natCast {n : ℕ} (small : n < 2 ^ 53) : round n = n := by
  rcases Nat.eq_zero_or_pos n with rfl | positive
  · simp [round]
  · have positive' : (0 : ℚ) < n := Nat.cast_pos.mpr positive
    have place : exponent n ≤ 52 := by
      by_contra high
      rw [not_le] at high
      have reached := (pow2_mono (Int.add_one_le_iff.mpr high)).trans (exponent_spec positive').1
      have small' : (n : ℚ) < 2 ^ 53 := by exact_mod_cast small
      rw [pow2_eq] at reached
      norm_num at reached small'
      linarith
    obtain ⟨k, step⟩ := Int.eq_ofNat_of_zero_le (sub_nonneg.mpr place)
    have inverse : (n : ℚ) / spacing n = ((n * 2 ^ k : ℕ) : ℤ) := by
      have power : spacing n = ((2 : ℚ) ^ k)⁻¹ := by
        rw [spacing, ← neg_sub, step, pow2_eq, zpow_neg, zpow_natCast]
      rw [power, div_inv_eq_mul]
      push_cast
      rfl
    rw [round_of_pos positive', inverse, nearestEven_intCast, ← inverse,
      div_mul_cancel₀ _ (spacing_pos _).ne']

/-! ## Errors of several operations -/

/-- A number is known up to a part of it. -/
def Within (part x q : ℚ) : Prop := q * (1 - part) ≤ x ∧ x ≤ q * (1 + part)

/-- A number that is known up to a part is that close. -/
theorem Within.abs_sub_le {part x q : ℚ} (within : Within part x q) : |x - q| ≤ q * part :=
  abs_le.mpr ⟨by linarith [within.1], by linarith [within.2]⟩

/-- A rounded number is known up to `2 ^ -53`. -/
theorem within_round {q : ℚ} (least : 0 ≤ q) : Within (1 / 2 ^ 53) (round q) q := by
  have close := abs_le.mp (round_close least)
  exact ⟨by linarith [close.1], by linarith [close.2]⟩

/-- Errors go with the unit. -/
theorem Within.div_const {part x q c : ℚ} (within : Within part x q) (positive : 0 < c) :
    Within part (x / c) (q / c) := by
  constructor
  · rw [div_mul_eq_mul_div]
    exact div_le_div_of_nonneg_right within.1 positive.le
  · rw [div_mul_eq_mul_div]
    exact div_le_div_of_nonneg_right within.2 positive.le

/-- What rounding adds to an error. -/
theorem Within.round {part x q : ℚ} (within : Within part x q) (least : 0 ≤ q)
    (some : 0 ≤ part) (small : part ≤ 1) : Within (part + 1 / 2 ^ 52) (Binary64.round x) q := by
  have positive : 0 ≤ x := (mul_nonneg least (by linarith)).trans within.1
  obtain ⟨low, high⟩ := within_round positive
  have rest := mul_nonneg least some
  have most := mul_le_mul_of_nonneg_left small least
  constructor
  · calc q * (1 - (part + 1 / 2 ^ 52)) ≤ q * (1 - part) * (1 - 1 / 2 ^ 53) := by linarith
      _ ≤ x * (1 - 1 / 2 ^ 53) := mul_le_mul_of_nonneg_right within.1 (by norm_num)
      _ ≤ Binary64.round x := low
  · calc Binary64.round x ≤ x * (1 + 1 / 2 ^ 53) := high
      _ ≤ q * (1 + part) * (1 + 1 / 2 ^ 53) := mul_le_mul_of_nonneg_right within.2 (by norm_num)
      _ ≤ q * (1 + (part + 1 / 2 ^ 52)) := by linarith

/-- The error of a quotient. -/
theorem Within.div {part part' x y q d : ℚ} (within : Within part x q) (within' : Within part' y d)
    (least : 0 ≤ q) (positive : 0 < d) (some : 0 ≤ part) (small : part ≤ 1 / 4) (some' : 0 ≤ part')
    (small' : part' ≤ 1 / 4) : Within (part + 2 * part') (x / y) (q / d) := by
  have above : 0 < y := (mul_pos positive (by linarith)).trans_le within'.1
  obtain ⟨e, rfl⟩ : ∃ e, q = e * d := ⟨q / d, (div_mul_cancel₀ q positive.ne').symm⟩
  have ratio : 0 ≤ e := nonneg_of_mul_nonneg_left least positive
  have cross : part * part' ≤ 1 / 4 * part' := mul_le_mul_of_nonneg_right small some'
  have square : part' * part' ≤ 1 / 4 * part' := mul_le_mul_of_nonneg_right small' some'
  have cross' := mul_nonneg some some'
  have square' := mul_nonneg some' some'
  rw [mul_div_cancel_right₀ e positive.ne']
  constructor
  · rw [le_div_iff₀ above]
    calc e * (1 - (part + 2 * part')) * y
        ≤ e * (1 - (part + 2 * part')) * (d * (1 + part')) :=
          mul_le_mul_of_nonneg_left within'.2 (mul_nonneg ratio (by linarith))
      _ = e * d * ((1 - (part + 2 * part')) * (1 + part')) := by ring
      _ ≤ e * d * (1 - part) := mul_le_mul_of_nonneg_left (by linarith) least
      _ ≤ x := within.1
  · rw [div_le_iff₀ above]
    calc x ≤ e * d * (1 + part) := within.2
      _ ≤ e * d * ((1 + (part + 2 * part')) * (1 - part')) :=
        mul_le_mul_of_nonneg_left (by linarith) least
      _ = e * (1 + (part + 2 * part')) * (d * (1 - part')) := by ring
      _ ≤ e * (1 + (part + 2 * part')) * y :=
        mul_le_mul_of_nonneg_left within'.1 (mul_nonneg ratio (by linarith))

end Binary64
