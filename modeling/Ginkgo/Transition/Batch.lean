import Mathlib.Data.List.Basic
import Mathlib.Tactic.Common

/-!
# Output in batches

A buffer that collects items and sends them in batches. A batch is sent under the setting that
is in force when it is sent, so the buffer is flushed before the setting changes, and it is
flushed when it is full. A flush refuses a buffer of fewer than `least` items.

When the items come in blocks whose size divides the capacity, no block is cut
(`Transition.Batcher.Whole.pushAll`) and every item goes out under the setting that was in
force when it came (`Transition.Batcher.pushAll_out`, `Transition.Batcher.Whole.switch_out`).
-/

namespace Transition

/-- Items that were sent together, under one setting. -/
structure Batch (Setting Item : Type*) where
  setting : Setting
  items : List Item

/-- The setting, what is pending, and what has been sent. -/
structure Batcher (Setting Item : Type*) where
  setting : Setting
  pending : List Item
  sent : List (Batch Setting Item)

namespace Batcher

variable {Setting Item : Type*}

/-- Send what is pending, unless that is less than `least`. -/
def flush (least : Nat) (b : Batcher Setting Item) : Batcher Setting Item :=
  if b.pending.length < least then b
  else { b with pending := [], sent := b.sent ++ [⟨b.setting, b.pending⟩] }

/-- Add an item, after a flush when `most` are pending. -/
def push (least most : Nat) (b : Batcher Setting Item) (item : Item) : Batcher Setting Item :=
  let b := if most ≤ b.pending.length then b.flush least else b
  { b with pending := b.pending ++ [item] }

/-- Several items are added. -/
def pushAll (least most : Nat) (b : Batcher Setting Item) (items : List Item) :
    Batcher Setting Item :=
  items.foldl (push least most) b

/-- Change the setting, after a flush. -/
def switch (least : Nat) (setting : Setting) (b : Batcher Setting Item) : Batcher Setting Item :=
  { b.flush least with setting }

/-- The items of sent batches, each with the setting of its batch. -/
def tagged (batches : List (Batch Setting Item)) : List (Setting × Item) :=
  batches.flatMap fun batch => batch.items.map (batch.setting, ·)

/-- Everything that has been sent or is pending, with its setting. -/
def out (b : Batcher Setting Item) : List (Setting × Item) :=
  tagged b.sent ++ b.pending.map (b.setting, ·)

/-- What is pending and every batch are made of blocks of `size` items and not longer than
`most`. -/
structure Whole (size most : Nat) (b : Batcher Setting Item) : Prop where
  blocks : size ∣ b.pending.length
  short : b.pending.length ≤ most
  sent : ∀ batch ∈ b.sent, size ∣ batch.items.length ∧ batch.items.length ≤ most

/-- Without their settings, the items are those of the batches in their order. -/
theorem tagged_map_snd (batches : List (Batch Setting Item)) :
    (tagged batches).map Prod.snd = batches.flatMap (·.items) := by
  simp only [tagged, List.map_flatMap, List.map_map, Function.comp_def, List.map_id']

variable {least most size : Nat} {b : Batcher Setting Item}

@[simp] theorem flush_setting : (b.flush least).setting = b.setting := by
  unfold flush
  split <;> rfl

/-- A flush keeps the order and the setting of everything. -/
theorem flush_out : (b.flush least).out = b.out := by
  unfold flush
  split
  · rfl
  · simp only [out, tagged, List.flatMap_append, List.flatMap_cons, List.flatMap_nil,
      List.map_nil, List.append_nil]

/-- An item comes after everything else, whether or not there is a flush before it. -/
theorem push_out (item : Item) : (b.push least most item).out = b.out ++ [(b.setting, item)] := by
  have kept : (if most ≤ b.pending.length then b.flush least else b).out = b.out ∧
      (if most ≤ b.pending.length then b.flush least else b).setting = b.setting := by
    split
    · exact ⟨flush_out, flush_setting⟩
    · exact ⟨rfl, rfl⟩
  unfold push
  generalize (if most ≤ b.pending.length then b.flush least else b) = ready at kept ⊢
  rw [← kept.1, ← kept.2]
  simp only [out, List.map_append, List.map_cons, List.map_nil, List.append_assoc]

@[simp] theorem push_setting (item : Item) : (b.push least most item).setting = b.setting := by
  unfold push
  dsimp only
  split
  · exact flush_setting
  · rfl

/-- Several items leave it too. -/
theorem pushAll_setting (items : List Item) :
    (b.pushAll least most items).setting = b.setting := by
  induction items generalizing b with
  | nil => rfl
  | cons item items ih => exact ih.trans (push_setting item)

/-- Several items come after everything else, in their order. -/
theorem pushAll_out (items : List Item) :
    (b.pushAll least most items).out = b.out ++ items.map (b.setting, ·) := by
  induction items generalizing b with
  | nil => rw [List.map_nil, List.append_nil]; rfl
  | cons item items ih =>
      calc ((b.push least most item).pushAll least most items).out
        _ = (b.push least most item).out ++ items.map (b.setting, ·) := by
          rw [ih, push_setting]
        _ = b.out ++ (item :: items).map (b.setting, ·) := by
          rw [push_out, List.append_assoc, List.map_cons, List.singleton_append]

/-- Items that have room are just added. -/
theorem pushAll_of_room {items : List Item} (room : b.pending.length + items.length ≤ most) :
    b.pushAll least most items = { b with pending := b.pending ++ items } := by
  induction items generalizing b with
  | nil =>
      rw [List.append_nil]
      rfl
  | cons item items ih =>
      rw [List.length_cons] at room
      have first : b.push least most item = { b with pending := b.pending ++ [item] } := by
        unfold push
        rw [if_neg (by omega)]
      calc (b.push least most item).pushAll least most items
        _ = { b with pending := b.pending ++ [item] ++ items } := by
          rw [first]
          exact ih (by rw [List.length_append, List.length_singleton]; omega)
        _ = { b with pending := b.pending ++ item :: items } := by
          rw [List.append_assoc, List.singleton_append]

/-- The first item that finds the buffer full makes it flush. -/
theorem pushAll_of_full {items : List Item} (some : items ≠ []) (full : most ≤ b.pending.length)
    (empty : (b.flush least).pending = []) (positive : 0 < most) :
    b.pushAll least most items = (b.flush least).pushAll least most items := by
  obtain ⟨item, items, rfl⟩ := List.exists_cons_of_ne_nil some
  have first : b.push least most item = (b.flush least).push least most item := by
    unfold push
    rw [if_pos full, if_neg (by rw [empty]; exact Nat.not_le.mpr positive)]
  exact congrArg (pushAll least most · items) first

namespace Whole

variable (whole : b.Whole size most)
include whole

/-- After a flush nothing is pending, since less than a block is nothing. -/
theorem flush_pending (enough : least ≤ size) : (b.flush least).pending = [] := by
  unfold Batcher.flush
  split
  · next few =>
      rw [← List.length_eq_zero_iff]
      exact Nat.eq_zero_of_dvd_of_lt whole.blocks (by omega)
  · rfl

/-- A flush keeps blocks whole. -/
theorem flush (least : Nat) : (b.flush least).Whole size most := by
  unfold Batcher.flush
  split
  · exact whole
  · refine ⟨Nat.dvd_zero size, Nat.zero_le _, fun batch member => ?_⟩
    rcases List.mem_append.mp member with earlier | new
    · exact whole.sent batch earlier
    · rw [List.mem_singleton.mp new]
      exact ⟨whole.blocks, whole.short⟩

/-- So does a change of the setting. -/
theorem switch (least : Nat) (setting : Setting) : (b.switch least setting).Whole size most :=
  have flushed := whole.flush least
  ⟨flushed.blocks, flushed.short, flushed.sent⟩

/-- A flush before a change of the setting leaves nothing for the new one. -/
theorem switch_out (enough : least ≤ size) (setting : Setting) :
    (b.switch least setting).out = b.out := by
  have empty := whole.flush_pending enough
  rw [← @flush_out _ _ least b]
  simp only [out, Batcher.switch, empty, List.map_nil]

/-- A flush at the end sends everything. -/
theorem tagged_sent (enough : least ≤ size) : tagged (b.flush least).sent = b.out := by
  rw [← @flush_out _ _ least b, out, whole.flush_pending enough, List.map_nil, List.append_nil]

/-- A block that has room stays whole. -/
theorem pushAll_of_room {items : List Item} (block : items.length = size)
    (room : b.pending.length + size ≤ most) : (b.pushAll least most items).Whole size most := by
  rw [Batcher.pushAll_of_room (by omega)]
  refine ⟨?_, ?_, whole.sent⟩
  · rw [List.length_append, block]
    exact Nat.dvd_add whole.blocks (Nat.dvd_refl size)
  · rw [List.length_append]
    omega

/-- **A block is never cut.** When the size of the blocks divides the capacity, adding a block
leaves whole blocks in the buffer and in every batch. -/
theorem pushAll {items : List Item} (block : items.length = size) (divides : size ∣ most)
    (positive : 0 < most) (enough : least ≤ size) :
    (b.pushAll least most items).Whole size most := by
  have atMost : size ≤ most := Nat.le_of_dvd positive divides
  have nonempty : items ≠ [] := by
    rintro rfl
    rw [← block] at divides
    exact Nat.ne_of_gt positive (Nat.eq_zero_of_zero_dvd divides)
  by_cases room : b.pending.length + size ≤ most
  · exact whole.pushAll_of_room block room
  · -- Multiples of the block size: what has no room for a block is full.
    have full : most ≤ b.pending.length := by
      obtain ⟨filled, filledEq⟩ := whole.blocks
      obtain ⟨blocks, rfl⟩ := divides
      rw [filledEq] at room ⊢
      rw [← Nat.mul_succ] at room
      exact Nat.mul_le_mul_left _
        (Nat.lt_succ_iff.mp (Nat.lt_of_mul_lt_mul_left (Nat.lt_of_not_le room)))
    have empty := whole.flush_pending enough
    rw [pushAll_of_full nonempty full empty positive]
    exact (whole.flush least).pushAll_of_room block (by rw [empty, List.length_nil]; omega)

end Whole

end Batcher

end Transition
