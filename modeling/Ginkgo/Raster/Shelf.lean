import Mathlib.Order.Lattice
import Mathlib.Order.Basic
import Mathlib.Tactic.Common

/-!
# Rectangles on shelves

Pictures that are stored row by row in one array, and the packing of rectangles on shelves:
side by side from left to right, and on a new shelf when the current one is full.

A shelf that is `Raster.Shelf.Clear` of what has been placed stays clear of it, and what is
placed next lies `Raster.Rect.Apart` from it, with a free column or a free row between
(`Raster.Shelf.Clear.apart`).
-/

namespace Raster

/-- The place of a cell in the array. -/
def spot (width x y : Nat) : Nat := y * width + x

/-! ## Copying into the array -/

section Copy

variable {Cell : Type*}

/-- Copy `count` cells to the place `start`. -/
def copy (start count : Nat) (source : Nat → Cell) (cells : Nat → Cell) : Nat → Cell :=
  fun i => if start ≤ i ∧ i < start + count then source (i - start) else cells i

/-- Copying a row into a grid changes that row only, and there only the columns that are copied
to. -/
theorem copy_spot_of_row {width x y w col row : Nat} {source cells : Nat → Cell}
    (fits : x + w ≤ width) (inside : col < width) :
    copy (spot width x y) w source cells (spot width col row) =
      if row = y ∧ x ≤ col ∧ col < x + w then source (col - x)
      else cells (spot width col row) := by
  unfold copy
  by_cases sameRow : row = y
  · subst sameRow
    have shifted : spot width col row - spot width x row = col - x := by
      unfold spot
      omega
    have covered : (spot width x row ≤ spot width col row ∧
        spot width col row < spot width x row + w) ↔ x ≤ col ∧ col < x + w := by
      unfold spot
      omega
    simp only [covered, shifted, true_and]
  · have missed : ¬(spot width x y ≤ spot width col row ∧
        spot width col row < spot width x y + w) := by
      rintro ⟨from_, upto⟩
      have low : y * width < (row + 1) * width := by
        unfold spot at from_
        rw [Nat.add_mul]
        omega
      have high : row * width < (y + 1) * width := by
        unfold spot at upto
        rw [Nat.add_mul]
        omega
      have := Nat.lt_of_mul_lt_mul_right low
      have := Nat.lt_of_mul_lt_mul_right high
      omega
    rw [if_neg missed, if_neg fun same => sameRow same.1]

end Copy

/-! ## Rectangles -/

/-- A rectangle of a grid. -/
structure Rect where
  x : Nat
  y : Nat
  w : Nat
  h : Nat
  deriving DecidableEq

namespace Rect

/-- The rectangle covers a cell. -/
def Covers (r : Rect) (col row : Nat) : Prop :=
  r.x ≤ col ∧ col < r.x + r.w ∧ r.y ≤ row ∧ row < r.y + r.h

instance (r : Rect) (col row : Nat) : Decidable (r.Covers col row) :=
  inferInstanceAs (Decidable (_ ∧ _))

/-- A free column or a free row lies between the two. -/
def Apart (r s : Rect) : Prop :=
  r.x + r.w < s.x ∨ s.x + s.w < r.x ∨ r.y + r.h < s.y ∨ s.y + s.h < r.y

/-- Rectangles that are apart have no cell in common. -/
theorem Apart.not_covers {r s : Rect} (apart : r.Apart s) {col row : Nat}
    (covered : r.Covers col row) : ¬ s.Covers col row := by
  unfold Apart Covers at *
  omega

end Rect

/-! ## Shelves -/

/-- Where the next rectangle goes, and the height of the shelf so far. -/
structure Shelf where
  x : Nat
  y : Nat
  height : Nat

namespace Shelf

/-- Go to a new shelf when a rectangle of width `w` has no room on this one. -/
def wrap (width w : Nat) (s : Shelf) : Shelf :=
  if width ≤ s.x + w + 1 then ⟨1, s.y + (s.height + 1), 0⟩ else s

/-- What the next rectangle covers. -/
def slot (s : Shelf) (w h : Nat) : Rect := ⟨s.x, s.y, w, h⟩

/-- Go on behind a rectangle that has been placed. -/
def advance (w h : Nat) (s : Shelf) : Shelf := ⟨s.x + (w + 1), s.y, max s.height h⟩

/-- The rectangle lies above the shelf, or on it and left of the next one. -/
def Clear (s : Shelf) (r : Rect) : Prop :=
  r.y + r.h < s.y ∨ r.y = s.y ∧ r.h ≤ s.height ∧ r.x + r.w < s.x

/-- After a new row has been begun if need be, there is room for the width. -/
theorem wrap_room {width w : Nat} (narrow : w + 2 < width) (s : Shelf) :
    (s.wrap width w).x + w + 1 < width := by
  unfold wrap
  split
  · dsimp only
    omega
  · omega

/-- A rectangle that is out of the way stays so when a new row is begun. -/
theorem Clear.wrap {s : Shelf} {r : Rect} (clear : s.Clear r) (width w : Nat) :
    (s.wrap width w).Clear r := by
  unfold Shelf.wrap
  split
  · unfold Clear at *
    dsimp only
    omega
  · exact clear

theorem Clear.advance {s : Shelf} {r : Rect} (clear : s.Clear r) (w h : Nat) :
    (s.advance w h).Clear r := by
  unfold Clear Shelf.advance at *
  dsimp only
  omega

/-- What has been placed is out of the way of what comes next. -/
theorem clear_slot (s : Shelf) (w h : Nat) : (s.advance w h).Clear (s.slot w h) := by
  unfold Clear advance slot
  dsimp only
  omega

/-- **What is placed next lies apart from everything the shelf is clear of.** -/
theorem Clear.apart {s : Shelf} {r : Rect} (clear : s.Clear r) (w h : Nat) :
    r.Apart (s.slot w h) := by
  unfold Clear at clear
  unfold Rect.Apart slot
  dsimp only
  omega

end Shelf

end Raster
