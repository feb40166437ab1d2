import Ginkgo.CText.Basic
import Mathlib.Tactic.Common

/-!
# Fixed-size character buffers

A `CText.Buf n` is the string held by a `char [n]`: it always leaves room for
the terminator. `CText.Buf.print` is `snprintf(dst, n, "%s", src)`; it cuts the
source to the buffer, and copying between buffers of one size loses nothing
(`CText.Buf.print_text`). A `CText.Cells n` is the raw `char [n]`, written byte by
byte.
-/

namespace CText

/-- What is cut before more is appended would be cut afterwards. -/
theorem take_take_append {α : Type*} (n : Nat) (front rest : List α) :
    (front.take n ++ rest).take n = (front ++ rest).take n := by
  have left : n - min n front.length = n - front.length := by omega
  rw [List.take_append, List.take_append, List.take_take, min_self, List.length_take, left]

/-- The string held by a `char [n]` that was filled by `snprintf`. -/
structure Buf (n : Nat) where
  text : Text
  fits : text.length < n
  deriving DecidableEq

namespace Buf

variable {n : Nat}

@[ext] theorem ext {first second : Buf n} (same : first.text = second.text) : first = second := by
  cases first
  cases second
  cases same
  rfl

variable [NeZero n]

/-- `snprintf(dst, n, "%s", s)`. -/
def print (n : Nat) [NeZero n] (s : Text) : Buf n where
  text := s.take (n - 1)
  fits := by
    have positive := Nat.pos_of_neZero n
    have short := List.length_take_le (n - 1) s
    omega

/-- The empty string. -/
def empty (n : Nat) [NeZero n] : Buf n := ⟨[], by simpa using Nat.pos_of_neZero n⟩

@[simp] theorem empty_text : (empty n).text = [] := rfl

/-- A string that fits is stored whole. -/
theorem print_of_lt {s : Text} (short : s.length < n) : (print n s).text = s :=
  List.take_of_length_le (by omega)

@[simp] theorem print_nil : print n [] = empty n := by
  ext1
  simp [print]

/-- Copying a buffer to one of the same size keeps the string. -/
@[simp] theorem print_text (b : Buf n) : print n b.text = b := by
  ext1
  exact print_of_lt b.fits

/-- Copying keeps emptiness. -/
theorem print_text_eq_nil_iff (large : 1 < n) {s : Text} : (print n s).text = [] ↔ s = [] := by
  have : n - 1 ≠ 0 := by omega
  simp [print, List.take_eq_nil_iff, this]

end Buf

/-- The bytes of a `char [n]`. -/
structure Cells (n : Nat) where
  bytes : List UInt8
  size : bytes.length = n
  deriving DecidableEq

namespace Cells

variable {n : Nat}

/-- A zeroed array. -/
def zero (n : Nat) : Cells n := ⟨List.replicate n 0, by simp⟩

/-- `a[i] = c`. -/
def store (a : Cells n) (i : Nat) (c : UInt8) : Cells n := ⟨a.bytes.set i c, by simp [a.size]⟩

/-- The array read as a C string. -/
def text (a : Cells n) : Text := cstr a.bytes

@[simp] theorem zero_text : (zero n).text = [] := by
  cases n <;> simp [zero, text, cstr, List.replicate_succ]

/-- Terminating the string after its first `i` bytes. -/
theorem store_zero_text {a : Cells n} {i : Nat} (inside : i ≤ a.text.length) (room : i < n) :
    (a.store i 0).text = a.text.take i := by
  obtain ⟨bytes, size⟩ := a
  simp only [text, store, cstr] at inside ⊢
  clear size
  induction bytes generalizing i n with
  | nil => simp
  | cons c bytes ih =>
      cases i with
      | zero => simp
      | succ i =>
          by_cases stopped : c = 0
          · simp [stopped] at inside
          · simp only [List.takeWhile_cons, ne_eq, stopped, not_false_eq_true, decide_true,
              ↓reduceIte, List.length_cons, Nat.add_le_add_iff_right] at inside
            simp only [List.set_cons_succ, List.takeWhile_cons, ne_eq, stopped,
              not_false_eq_true, decide_true, ↓reduceIte, List.take_succ_cons]
            rw [ih (n := n) (by omega) inside]

/-- Replacing the terminator by a nonzero byte and terminating after it appends the byte. -/
theorem store_append_text {a : Cells n} {c : UInt8} (nonzero : c ≠ 0)
    (room : a.text.length + 1 < n) :
    ((a.store a.text.length c).store (a.text.length + 1) 0).text = a.text ++ [c] := by
  obtain ⟨bytes, size⟩ := a
  simp only [text, store, cstr] at room ⊢
  subst size
  induction bytes with
  | nil => simp at room
  | cons d bytes ih =>
      by_cases stopped : d = 0
      · cases bytes with
        | nil => simp [stopped] at room
        | cons e bytes => simp [stopped, nonzero]
      · simp only [List.takeWhile_cons, ne_eq, stopped, not_false_eq_true, decide_true,
          ↓reduceIte, List.length_cons, Nat.add_lt_add_iff_right] at room
        simp only [List.takeWhile_cons, ne_eq, stopped, not_false_eq_true, decide_true,
          ↓reduceIte, List.length_cons, List.set_cons_succ, List.cons_append, List.cons.injEq,
          true_and]
        exact ih room

end Cells

end CText
