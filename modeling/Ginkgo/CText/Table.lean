import Mathlib.Tactic.Common
import Mathlib.Data.List.Basic

/-!
# Arrays filled from the front

A `CText.Table n α` is an array of `n` elements together with the counter of those that have been
stored. A store at the counter succeeds while the counter is inside the array
(`CText.Table.push`); a loop of stores succeeds as a whole exactly when what it stores fits
(`CText.Table.pushAll_eq_some_iff`).
-/

namespace CText

/-- The first elements of an array of `n` elements. -/
structure Table (n : Nat) (α : Type*) where
  entries : List α
  fits : entries.length ≤ n

namespace Table

variable {n : Nat} {α : Type*}

@[ext] theorem ext {first second : Table n α} (same : first.entries = second.entries) :
    first = second := by
  cases first
  cases second
  cases same
  rfl

/-- The table without entries. -/
def empty (n : Nat) (α : Type*) : Table n α := ⟨[], Nat.zero_le n⟩

@[simp] theorem empty_entries : (empty n α).entries = [] := rfl

/-- The counter. -/
def count (table : Table n α) : Nat := table.entries.length

/-- `a[count++] = x`; nothing when the counter is outside the array. -/
def push (table : Table n α) (x : α) : Option (Table n α) :=
  if room : table.count < n then
    some ⟨table.entries ++ [x], by
      rw [List.length_append]
      exact room⟩
  else none

/-- Store one element after the other. -/
def pushAll (table : Table n α) : List α → Option (Table n α)
  | [] => some table
  | x :: xs => (table.push x).bind fun table => table.pushAll xs

@[simp] theorem pushAll_singleton (table : Table n α) (x : α) :
    table.pushAll [x] = table.push x := by
  simp [pushAll]

/-- What is stored comes last, where there is room. -/
theorem push_eq_some_iff {table stored : Table n α} {x : α} :
    table.push x = some stored ↔ table.count < n ∧ stored.entries = table.entries ++ [x] := by
  unfold push
  split
  · next room =>
      constructor
      · intro same
        rw [← Option.some.inj same]
        exact ⟨room, rfl⟩
      · rintro ⟨-, same⟩
        exact congrArg some (Table.ext same.symm)
  · next full => exact iff_of_false nofun fun both => full both.1

/-- **When a loop of stores stays inside the array**, and what it stores. -/
theorem pushAll_eq_some_iff {table stored : Table n α} {xs : List α} :
    table.pushAll xs = some stored ↔
      table.count + xs.length ≤ n ∧ stored.entries = table.entries ++ xs := by
  induction xs generalizing table with
  | nil =>
      rw [pushAll, List.append_nil]
      constructor
      · intro same
        rw [← Option.some.inj same]
        exact ⟨table.fits, rfl⟩
      · rintro ⟨-, same⟩
        exact congrArg some (Table.ext same.symm)
  | cons x xs ih =>
      rw [pushAll, Option.bind_eq_some_iff]
      constructor
      · rintro ⟨next, first, rest⟩
        obtain ⟨room, head⟩ := push_eq_some_iff.mp first
        obtain ⟨fits, tail⟩ := ih.mp rest
        have counted : next.count = table.count + 1 := by simp [count, head]
        refine ⟨?_, by rw [tail, head]; simp⟩
        rw [List.length_cons]
        omega
      · rintro ⟨fits, same⟩
        rw [List.length_cons] at fits
        have room : table.count < n := by omega
        have length : (table.entries ++ [x]).length ≤ n := by
          rw [List.length_append]
          exact room
        refine ⟨⟨table.entries ++ [x], length⟩, push_eq_some_iff.mpr ⟨room, rfl⟩, ?_⟩
        refine ih.mpr ⟨?_, by rw [same]; simp⟩
        simp only [count, List.length_append, List.length_singleton] at fits ⊢
        omega

end Table

end CText
