import Ginkgo.Hud.State
import Ginkgo.Raster.Shelf
import Mathlib.Tactic.GCongr
import Mathlib.Tactic.Linarith

/-!
# Filled rectangles of the software path

`fill_rect` and `fill_round` of `ginkgo-status.c` with `use_gl` off, on a back buffer of
`W` by `H` pixels.

The search for the inset of a row stops at once: next to the arc's centre a row is never
longer than the radius (`rowInset_eq_zero`). So a rounded rectangle is painted as a plain one
(`fillRound_pixel`), and it is round only where that does not show (`rounds_iff`).
-/

namespace Ginkgo

open Raster

/-- Rows of `count` pixels from the column `x` on, `rows` of them from the row `y` on. -/
def fillRows (W x count : Nat) (c : UInt32) (y : Nat) : Nat → (Nat → UInt32) → Nat → UInt32
  | 0, back => back
  | rows + 1, back =>
      copy (spot W x (y + rows)) count (fun _ => c) (fillRows W x count c y rows back)

/-- `fill_rect`. -/
def fillRect (W H : Nat) (x y w h : Int) (c : UInt32) (back : Nat → UInt32) : Nat → UInt32 :=
  let x1 := clampi (x + w) 0 W
  let y1 := clampi (y + h) 0 H
  let x := clampi x 0 W
  let y := clampi y 0 H
  fillRows W x.toNat (x1 - x).toNat c y.toNat (y1 - y).toNat back

/-- The search for the inset of a row that is `dy` away from the row of the arc's centre. -/
def inset (r dy dx : Int) : Int :=
  if r * r < dx * dx + dy * dy ∧ dx < r then inset r dy (dx + 1) else dx
termination_by (r - dx).toNat
decreasing_by omega

/-- The inset of the row `yy`. -/
def rowInset (h r yy : Int) : Int :=
  if yy < r then inset r (r - 1 - yy) 0
  else if h - r ≤ yy then inset r (yy - (h - r)) 0
  else 0

/-- The first `rows` rows of the loop of `fill_round`. -/
def roundRows (W H : Nat) (x y w h r : Int) (c : UInt32) : Nat → (Nat → UInt32) → Nat → UInt32
  | 0, back => back
  | yy + 1, back =>
      let dx := rowInset h r yy
      fillRect W H (x + dx) (y + yy) (w - 2 * dx) 1 c (roundRows W H x y w h r c yy back)

/-- `fill_round`. -/
def fillRound (W H : Nat) (x y w h r : Int) (c : UInt32) (back : Nat → UInt32) : Nat → UInt32 :=
  if r < 1 then fillRect W H x y w h c back
  else roundRows W H x y w h r c h.toNat back

/-! ## What is painted -/

/-- What some rows of one width have painted. -/
theorem fillRows_pixel {W x count y : Nat} {c : UInt32} {back : Nat → UInt32} {px py : Nat}
    (fits : x + count ≤ W) (inside : px < W) (rows : Nat) :
    fillRows W x count c y rows back (spot W px py) =
      if x ≤ px ∧ px < x + count ∧ y ≤ py ∧ py < y + rows then c
      else back (spot W px py) := by
  induction rows with
  | zero =>
      rw [if_neg (by omega)]
      rfl
  | succ rows ih =>
      rw [fillRows, copy_spot_of_row fits inside, ih]
      by_cases across : x ≤ px ∧ px < x + count
      · by_cases last : py = y + rows
        · rw [if_pos ⟨last, across⟩, if_pos (by omega)]
        · rw [if_neg fun same => last same.1]
          congr 1
          simp only [eq_iff_iff]
          omega
      · rw [if_neg (by omega), if_neg (by omega), if_neg (by omega)]

/-- **`fill_rect` paints the pixels of the rectangle that are on the screen**, and no other. -/
theorem fillRect_pixel {W H : Nat} {x y w h : Int} {c : UInt32} {back : Nat → UInt32}
    {px py : Nat} (inside : px < W) (below : py < H) :
    fillRect W H x y w h c back (spot W px py) =
      if x ≤ px ∧ px < x + w ∧ y ≤ py ∧ py < y + h then c else back (spot W px py) := by
  have clamped (v : Int) (size : Nat) : 0 ≤ clampi v 0 size ∧ clampi v 0 size ≤ size ∧
      (v < clampi v 0 size → clampi v 0 size = 0) ∧
      (clampi v 0 size < v → clampi v 0 size = size) := by
    unfold clampi
    omega
  obtain ⟨leftLow, leftHigh, left, left'⟩ := clamped x W
  obtain ⟨rightLow, rightHigh, right, right'⟩ := clamped (x + w) W
  obtain ⟨topLow, topHigh, top, top'⟩ := clamped y H
  obtain ⟨bottomLow, bottomHigh, bottom, bottom'⟩ := clamped (y + h) H
  unfold fillRect
  rw [fillRows_pixel (by omega) inside]
  congr 1
  simp only [eq_iff_iff]
  omega

/-- A row next to the arc's centre is never longer than the radius, so the search stops where
it starts. -/
theorem rowInset_eq_zero {h r yy : Int} (round : 1 ≤ r) (low : 0 ≤ yy) (high : yy < h) :
    rowInset h r yy = 0 := by
  have stops (dy : Int) (nonneg : 0 ≤ dy) (short : dy ≤ r) : inset r dy 0 = 0 := by
    have square : dy * dy ≤ r * r := Int.mul_le_mul short short nonneg (by omega)
    rw [inset, if_neg]
    omega
  unfold rowInset
  split
  · exact stops _ (by omega) (by omega)
  · split
    · exact stops _ (by omega) (by omega)
    · rfl

/-- What the rows of a rounded rectangle have painted. -/
theorem roundRows_pixel {W H : Nat} {x y w h r : Int} {c : UInt32} {back : Nat → UInt32}
    {px py : Nat} (round : 1 ≤ r) (inside : px < W) (below : py < H) (rows : Nat)
    (few : rows ≤ h.toNat) :
    roundRows W H x y w h r c rows back (spot W px py) =
      if x ≤ px ∧ px < x + w ∧ y ≤ py ∧ py < y + rows then c else back (spot W px py) := by
  induction rows with
  | zero =>
      rw [if_neg (by omega)]
      rfl
  | succ yy ih =>
      rw [roundRows, rowInset_eq_zero round (by omega) (by omega)]
      rw [fillRect_pixel inside below, ih (by omega)]
      by_cases last : py = y + yy
      · by_cases across : x ≤ px ∧ px < x + w
        · rw [if_pos (by omega), if_pos (by omega)]
        · rw [if_neg (by omega), if_neg (by omega), if_neg (by omega)]
      · rw [if_neg (by omega)]
        congr 1
        simp only [eq_iff_iff]
        omega

/-- **`fill_round` paints a plain rectangle**, whatever its radius. -/
theorem fillRound_pixel {W H : Nat} {x y w h r : Int} {c : UInt32} {back : Nat → UInt32}
    {px py : Nat} (inside : px < W) (below : py < H) :
    fillRound W H x y w h r c back (spot W px py) =
      if x ≤ px ∧ px < x + w ∧ y ≤ py ∧ py < y + h then c else back (spot W px py) := by
  unfold fillRound
  split
  · exact fillRect_pixel inside below
  · rw [roundRows_pixel (by omega) inside below _ le_rfl]
    congr 1
    simp only [eq_iff_iff]
    omega

/-! ## What would be round -/

/-- Whether the `i`-th of `size` columns or rows passes through corner squares. -/
def Corner (size r i : Int) : Prop := 0 ≤ i ∧ i < r ∨ size - r ≤ i ∧ i < size

/-- Twice the distance, along one axis, between the centre of the `i`-th pixel and the centre of
the arc in its corner square. -/
def arcOffset (size r i : Int) : Int := if i < r then 2 * (r - i) - 1 else 2 * (i - (size - r)) + 1

/-- Four times the squared distance between the centre of the pixel in a corner square and the
centre of the arc. -/
def arcDistance (w h r i j : Int) : Int := arcOffset w r i ^ 2 + arcOffset h r j ^ 2

/-- The picture is a rounded rectangle up to one pixel: outside the corner squares the whole
rectangle is painted and outside the rectangle nothing; in a corner square what is at most
`r - 1` away from the centre of the arc is painted, and nothing that is farther than `r + 1`.
A pixel is painted when it has the colour, and is not when it is as before. -/
def Rounds (W H : Nat) (x y w h r : Int) : Prop :=
  ∀ (c : UInt32) (back : Nat → UInt32) (px py : Nat), px < W → py < H →
    let i := px - x
    let j := py - y
    let within := 0 ≤ i ∧ i < w ∧ 0 ≤ j ∧ j < h
    let corner := Corner w r i ∧ Corner h r j
    let painted := fillRound W H x y w h r c back (spot W px py) = c
    let untouched := fillRound W H x y w h r c back (spot W px py) = back (spot W px py)
    (within → ¬corner → painted) ∧
      (¬within → untouched) ∧
      (corner → arcDistance w h r i j ≤ (2 * (r - 1)) ^ 2 → painted) ∧
      (corner → (2 * (r + 1)) ^ 2 < arcDistance w h r i j → untouched)

/-- Twice the distance, along one axis, of the farthest corner column or row on the screen from
the centre of its arc; zero when none is on the screen. The rectangle starts at `pos`. -/
def cornerReach (screen : Nat) (pos size r : Int) : Int :=
  let first := max 0 (-pos)
  let last := min (size - 1) (screen - 1 - pos)
  max (if first < r ∧ pos + first < screen then 2 * (r - first) - 1 else 0)
    (if size - r ≤ last ∧ 0 ≤ pos + last then 2 * (last - (size - r)) + 1 else 0)

section Reach

variable {screen : Nat} {pos size r : Int}

/-- In a corner the arc is away from the edge. -/
theorem arcOffset_pos {i : Int} (corner : Corner size r i) : 0 < arcOffset size r i := by
  unfold arcOffset
  unfold Corner at corner
  split <;> omega

/-- The reach of a corner, from the one edge to the other. -/
theorem cornerReach_bounds (round : 1 ≤ r) :
    0 ≤ cornerReach screen pos size r ∧ cornerReach screen pos size r ≤ 2 * r - 1 := by
  unfold cornerReach
  dsimp only
  split <;> split <;> omega

/-- What is seen of an arc lies inside its reach. -/
theorem arcOffset_le_reach {p : Nat} (wide : 2 * r ≤ size) (visible : p < screen)
    (corner : Corner size r (p - pos)) :
    arcOffset size r (p - pos) ≤ cornerReach screen pos size r := by
  unfold arcOffset cornerReach
  unfold Corner at corner
  dsimp only
  split <;> omega

/-- What is reached is reached by a column or row of the screen. -/
theorem cornerReach_attained (wide : 2 * r ≤ size) (some : 0 < cornerReach screen pos size r) :
    ∃ p : Nat, p < screen ∧ Corner size r (p - pos) ∧
      arcOffset size r (p - pos) = cornerReach screen pos size r := by
  have reached (p : Int) (low : 0 ≤ p) (visible : p < screen) (corner : Corner size r (p - pos))
      (offset : arcOffset size r (p - pos) = cornerReach screen pos size r) :
      ∃ p : Nat, p < screen ∧ Corner size r (p - pos) ∧
        arcOffset size r (p - pos) = cornerReach screen pos size r :=
    ⟨p.toNat, by omega, by rwa [Int.toNat_of_nonneg low], by rwa [Int.toNat_of_nonneg low]⟩
  -- The farther of the first and the last column on the screen.
  by_cases left : cornerReach screen pos size r =
      2 * (r - max 0 (-pos)) - 1 ∧ max 0 (-pos) < r ∧ pos + max 0 (-pos) < screen
  · apply reached (pos + max 0 (-pos)) (by omega) (by omega) (.inl (by omega))
    rw [left.1]
    unfold arcOffset
    split <;> omega
  · obtain ⟨reach, some', low⟩ : cornerReach screen pos size r =
          2 * (min (size - 1) (screen - 1 - pos) - (size - r)) + 1 ∧
        size - r ≤ min (size - 1) (screen - 1 - pos) ∧
        0 ≤ pos + min (size - 1) (screen - 1 - pos) := by
      unfold cornerReach at some left ⊢
      dsimp only at some left ⊢
      omega
    refine reached (pos + min (size - 1) (screen - 1 - pos)) low (by omega)
      (.inr (by omega)) ?_
    rw [reach]
    unfold arcOffset
    split <;> omega

end Reach

/-- **When the software path rounds.** `fill_round` paints a rounded rectangle up to one pixel
exactly when no corner column and corner row on the screen reach farther than `r + 1` from the
centre of the arc. -/
theorem rounds_iff {W H : Nat} {x y w h r : Int} (round : 1 ≤ r) (wide : 2 * r ≤ min w h) :
    Rounds W H x y w h r ↔
      cornerReach W x w r ^ 2 + cornerReach H y h r ^ 2 ≤ (2 * (r + 1)) ^ 2 := by
  obtain ⟨acrossLow, acrossHigh⟩ := @cornerReach_bounds W x w r round
  obtain ⟨downLow, downHigh⟩ := @cornerReach_bounds H y h r round
  have short {reach : Int} (low : 0 ≤ reach) (high : reach ≤ 2 * r - 1) :
      reach ^ 2 ≤ (2 * (r + 1)) ^ 2 := by
    nlinarith
  constructor
  · intro rounds
    by_contra far
    rw [not_le] at far
    -- Both reach somewhere: one of them alone stays within the bound.
    have across : 0 < cornerReach W x w r := by
      refine lt_of_le_of_ne acrossLow fun none => far.not_ge ?_
      rw [← none, zero_pow two_ne_zero, zero_add]
      exact short downLow downHigh
    have down : 0 < cornerReach H y h r := by
      refine lt_of_le_of_ne downLow fun none => far.not_ge ?_
      rw [← none, zero_pow two_ne_zero, add_zero]
      exact short acrossLow acrossHigh
    obtain ⟨px, visible, column, offset⟩ := cornerReach_attained (by omega) across
    obtain ⟨py, visible', row, offset'⟩ := cornerReach_attained (by omega) down
    obtain ⟨-, -, -, blank⟩ := rounds 1 (fun _ => 0) px py visible visible'
    have same := blank ⟨column, row⟩ (by rwa [arcDistance, offset, offset'])
    unfold Corner at column row
    rw [fillRound_pixel visible visible', if_pos (by omega)] at same
    cases same
  · intro near c back px py visible visible' i j within corner painted untouched
    have pixel := @fillRound_pixel W H x y w h r c back px py visible visible'
    have outside : ¬within → untouched := by
      intro off
      exact pixel.trans (if_neg (by omega))
    have inside : within → painted := fun on => pixel.trans (if_pos (by omega))
    refine ⟨fun on _ => inside on, outside, ?_, ?_⟩
    · rintro ⟨column, row⟩ -
      unfold Corner at column row
      exact inside (by omega)
    · rintro ⟨column, row⟩ far
      have across := arcOffset_le_reach (by omega) visible column
      have down := arcOffset_le_reach (by omega) visible' row
      have positive := arcOffset_pos column
      have positive' := arcOffset_pos row
      refine absurd (far.trans_le ?_) near.not_gt
      unfold arcDistance
      gcongr

/-- Radii up to four never show. -/
theorem rounds_of_small {W H : Nat} {x y w h r : Int} (round : 1 ≤ r) (small : r ≤ 4)
    (wide : 2 * r ≤ min w h) : Rounds W H x y w h r := by
  rw [rounds_iff round wide]
  obtain ⟨acrossLow, acrossHigh⟩ := @cornerReach_bounds W x w r round
  obtain ⟨downLow, downHigh⟩ := @cornerReach_bounds H y h r round
  nlinarith

/-- On the screen, larger radii always show. -/
theorem rounds_iff_of_onScreen {W H : Nat} {x y w h r : Int} (round : 1 ≤ r)
    (wide : 2 * r ≤ min w h) (left : 0 ≤ x) (right : x + w ≤ W) (top : 0 ≤ y)
    (bottom : y + h ≤ H) : Rounds W H x y w h r ↔ r ≤ 4 := by
  have across : cornerReach W x w r = 2 * r - 1 := by
    unfold cornerReach
    dsimp only
    omega
  have down : cornerReach H y h r = 2 * r - 1 := by
    unfold cornerReach
    dsimp only
    omega
  rw [rounds_iff round wide, across, down]
  constructor
  · intro near
    nlinarith
  · intro small
    nlinarith

/-- The background of a button of 60 by 40 pixels. -/
theorem rounds_iff_button :
    Rounds 480 640 10 10 60 40 8 ↔
      cornerReach 480 10 60 8 ^ 2 + cornerReach 640 10 40 8 ^ 2 ≤ (2 * (8 + 1)) ^ 2 :=
  rounds_iff (by decide) (by decide)

/-- So not every rectangle is rounded whose radius fits. -/
theorem button_not_rounded :
    ¬∀ (W H : Nat) (x y w h r : Int), 1 ≤ r → 2 * r ≤ min w h → Rounds W H x y w h r := by
  intro always
  have rounds := always 480 640 10 10 60 40 8 (by decide) (by decide)
  obtain ⟨-, -, -, blank⟩ := rounds 1 (fun _ => 0) 10 10 (by decide) (by decide)
  have same := blank ⟨.inl (by decide), .inl (by decide)⟩ (by decide)
  rw [fillRound_pixel (by decide) (by decide)] at same
  revert same
  decide

end Ginkgo
