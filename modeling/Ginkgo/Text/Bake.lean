import Ginkgo.Text.Draw
import Mathlib.Data.List.Dedup
import Mathlib.Data.List.Sort

/-!
# Baking fonts

`cps`, `raster` and `dump_face` of `scripts/gen-ginkgo-status-font.py`, which write the tables of
`ginkgo-status-font.h`, and the numbers that the compiler keeps of them. What the font library
draws is a parameter.
-/

namespace Ginkgo

open CText

/-! ## The generator -/

/-- What the font library says of a face: the lengths of its characters, rounded, and how dark each
pixel of a character's canvas is. -/
structure Face where
  px : Nat
  ascent : Nat
  descent : Nat
  length : Char → Nat
  data : Char → Nat → Nat → UInt8

/-- A glyph as the generator has it. -/
structure Rastered where
  cp : Char
  w : Nat
  h : Nat
  adv : Nat
  xoff : Int
  yoff : Int
  bits : List UInt8

/-- The order of `ord`. -/
def Upto (a b : Char) : Prop := a.toNat ≤ b.toNat

instance (a b : Char) : Decidable (Upto a b) := Nat.decLe _ _

instance : Std.Total Upto := ⟨fun a b => Nat.le_total a.toNat b.toNat⟩

instance : IsTrans Char Upto := ⟨fun _ _ _ => Nat.le_trans⟩

/-- `cps`: the characters of the sources, each of them once and in order. -/
def cps (text : List Char) : List Char :=
  (text.filter (· ≠ '\n')).dedup.insertionSort Upto

namespace Face

/-- The margin of a canvas. -/
def pad : Nat := 8

variable (face : Face) (ch : Char)

/-- The advance of a character: its length, or a guess where the font gives none. -/
def adv : Nat :=
  if face.length ch ≠ 0 then face.length ch
  else if 127 < ch.toNat then face.px else max (face.px / 3) 1

/-- How wide the canvas of a character is. -/
def canvasW : Nat := max (max (face.px * 3) (face.adv ch + pad * 2)) 16

/-- How high the canvas of every character is. -/
def canvasH : Nat := pad + face.ascent + face.descent + pad

/-- A pixel that counts. -/
def Dark (x y : Nat) : Prop := 12 < face.data ch x y

instance (x y : Nat) : Decidable (face.Dark ch x y) := inferInstanceAs (Decidable (12 < _))

/-- The rows with a dark pixel. -/
def ys : List Nat :=
  (List.range face.canvasH).filter fun y =>
    (List.range (face.canvasW ch)).any fun x => face.Dark ch x y

/-- The columns with a dark pixel. -/
def xs : List Nat :=
  (List.range (face.canvasW ch)).filter fun x =>
    (List.range face.canvasH).any fun y => face.Dark ch x y

/-- The glyph of a character without a dark pixel. -/
def empty : Rastered := ⟨ch, 0, 0, face.adv ch, 0, 0, []⟩

/-- The canvas from a corner on, row by row. -/
def crop (x y w h : Nat) : List UInt8 :=
  (List.range h).flatMap fun iy => (List.range w).map fun ix => face.data ch (x + ix) (y + iy)

/-- `raster`: the glyph of a character is cropped to its dark pixels. -/
def raster : Rastered :=
  if ch = ' ' then face.empty ch
  else
    match face.xs ch, face.ys ch with
    | nx0 :: xs, ny0 :: ys =>
        let nw := xs.getLastD nx0 + 1 - nx0
        let nh := ys.getLastD ny0 + 1 - ny0
        ⟨ch, nw, nh, face.adv ch, nx0 - pad, ny0 - pad, face.crop ch nx0 ny0 nw nh⟩
    | _, _ => face.empty ch

/-- The loop of `dump_face`: the glyphs with their offsets, and the bitmap. -/
def dump : List Char → List UInt8 → List (Rastered × Nat) × List UInt8
  | [], blob => ([], blob)
  | cp :: codes, blob =>
      let g := face.raster cp
      let rest := dump codes (blob ++ g.bits)
      ((g, blob.length) :: rest.1, rest.2)

end Face

/-- The fields of `struct gs_glyph` as the compiler keeps them. -/
def Rastered.compile (g : Rastered) (off : Nat) : GsGlyph where
  cp := g.cp.val
  w := g.w % 2 ^ 16
  h := g.h % 2 ^ 16
  adv := g.adv % 2 ^ 16
  xoff := g.xoff.bmod (2 ^ 16)
  yoff := g.yoff.bmod (2 ^ 16)
  off := off % 2 ^ 32

/-- The font that `dump_face` writes for some characters. -/
def Face.bake (face : Face) (codes : List Char) : GsFont where
  px := face.px
  g := (face.dump codes []).1.map fun entry => entry.1.compile entry.2
  bits := (face.dump codes []).2

/-- The numbers of the table fit its fields: the canvases have less than 2¹⁵ columns and rows, and
the bitmap has 32-bit offsets. -/
structure Face.Small (face : Face) (codes : List Char) : Prop where
  width : ∀ ch ∈ codes, face.canvasW ch < 2 ^ 15
  height : face.canvasH < 2 ^ 15
  blob : (face.bake codes).bits.length < 2 ^ 32

/-! ## The search -/

/-- The binary search finds what there is when the characters are in order. -/
theorem GsFont.bisect_complete {f : GsFont} (sorted : f.g.Pairwise fun a b => a.cp < b.cp) {i : Nat}
    {g : GsGlyph} (here : f.g[i]? = some g) (lo hi : Int) (low : 0 ≤ lo ∧ lo ≤ i)
    (high : i ≤ hi ∧ hi < f.g.length) : f.bisect g.cp lo hi = some ⟨i, g⟩ := by
  have ordered {j k : Nat} {a b : GsGlyph} (left : f.g[j]? = some a) (right : f.g[k]? = some b)
      (less : j < k) : a.cp < b.cp := by
    obtain ⟨inside, rfl⟩ := List.getElem?_eq_some_iff.mp left
    obtain ⟨inside', rfl⟩ := List.getElem?_eq_some_iff.mp right
    exact List.pairwise_iff_getElem.mp sorted j k inside inside' less
  induction lo, hi using GsFont.bisect.induct f g.cp with
  | case1 lo hi inside mid missing =>
      have within : mid.toNat < f.g.length := by dsimp only [mid]; omega
      simp only [List.getElem?_eq_getElem within, reduceCtorEq] at missing
  | case2 lo hi inside mid other there same =>
      have place : mid.toNat = i := by
        rcases Nat.lt_trichotomy mid.toNat i with less | equal | more
        · exact absurd (same ▸ ordered there here less) (UInt32.lt_irrefl _)
        · exact equal
        · exact absurd (same ▸ ordered here there more) (UInt32.lt_irrefl _)
      rw [place, here, Option.some.injEq] at there
      subst there
      rw [bisect, if_pos inside]
      simp only [mid] at place
      simp only [place, here, ↓reduceIte]
      congr 2
      omega
  | case3 lo hi inside mid other there differs less ih =>
      have right : mid.toNat < i := by
        rcases Nat.lt_trichotomy mid.toNat i with less' | equal | more
        · exact less'
        · rw [equal, here, Option.some.injEq] at there
          exact absurd (congrArg GsGlyph.cp there.symm) differs
        · exact absurd (UInt32.lt_trans less (ordered here there more)) (UInt32.lt_irrefl _)
      rw [bisect, if_pos inside]
      simp only [mid] at there
      simp only [there, differs, less, ↓reduceIte]
      exact ih ⟨by dsimp only [mid]; omega, by omega⟩ high
  | case4 lo hi inside mid other there differs more ih =>
      have left : i < mid.toNat := by
        rcases Nat.lt_trichotomy mid.toNat i with less | equal | more'
        · exact absurd (ordered there here less) more
        · rw [equal, here, Option.some.injEq] at there
          exact absurd (congrArg GsGlyph.cp there.symm) differs
        · exact more'
      rw [bisect, if_pos inside]
      simp only [mid] at there
      simp only [there, differs, more, ↓reduceIte]
      exact ih low ⟨by omega, by dsimp only [mid]; omega⟩
  | case5 lo hi outside => exact absurd (low.2.trans high.1) outside

/-! ## What is baked -/

/-- The characters are in order, each of them once. -/
theorem cps_sorted (text : List Char) : (cps text).Pairwise fun a b => a.val < b.val := by
  have ordered : (cps text).Pairwise Upto := List.pairwise_insertionSort Upto _
  have once : (cps text).Nodup :=
    (List.perm_insertionSort Upto _).nodup_iff.mpr (List.nodup_dedup _)
  refine (ordered.and once).imp ?_
  rintro a b ⟨le, ne⟩
  exact UInt32.lt_of_le_of_ne le fun same => ne (Char.ext same)

/-- All but the line ends are there. -/
theorem mem_cps {text : List Char} {c : Char} : c ∈ cps text ↔ c ∈ text ∧ c ≠ '\n' := by
  simp [cps]

/-- A list in order lies between its first and its last element. -/
theorem between_ends {l : List Nat} {first : Nat} (sorted : (first :: l).Pairwise (· < ·)) :
    l.getLastD first ∈ first :: l ∧ ∀ n ∈ first :: l, first ≤ n ∧ n ≤ l.getLastD first := by
  induction l generalizing first with
  | nil => simp
  | cons second l ih =>
      obtain ⟨below, rest⟩ := List.pairwise_cons.mp sorted
      obtain ⟨member, within⟩ := ih rest
      rw [List.getLastD_cons]
      have least := below _ member
      refine ⟨List.mem_cons_of_mem _ member, fun n inside => ?_⟩
      rcases List.mem_cons.mp inside with rfl | inside
      · exact ⟨Nat.le_refl _, Nat.le_of_lt least⟩
      · exact ⟨Nat.le_of_lt (below n inside), (within n inside).2⟩

/-- What is selected of a range is in order. -/
theorem sorted_filter_range {n : Nat} {p : Nat → Bool} :
    ((List.range n).filter p).Pairwise (· < ·) :=
  List.Pairwise.filter _ List.pairwise_lt_range

namespace Face

variable {face : Face} {ch : Char}

/-- A part of a canvas has its rows and columns. -/
theorem crop_length (x y w h : Nat) : (face.crop ch x y w h).length = h * w := by
  simp [crop, List.length_flatMap]

/-- A byte of it is the pixel at its place. -/
theorem crop_getElem? (x y : Nat) {w h ix iy : Nat} (across : ix < w) (down : iy < h) :
    (face.crop ch x y w h)[iy * w + ix]? = some (face.data ch (x + ix) (y + iy)) := by
  induction h with
  | zero => exact absurd down (Nat.not_lt_zero _)
  | succ h ih =>
      have split : face.crop ch x y w (h + 1) = face.crop ch x y w h ++
          (List.range w).map fun ix => face.data ch (x + ix) (y + h) := by
        simp [crop, List.range_succ]
      rw [split]
      rcases Nat.lt_or_eq_of_le (Nat.le_of_lt_succ down) with above | rfl
      · have inside : iy * w + ix < h * w :=
          Nat.lt_of_lt_of_le (Nat.add_lt_add_left across _)
            (Nat.succ_mul iy w ▸ Nat.mul_le_mul_right w above)
        rw [List.getElem?_append_left ((crop_length ..).symm ▸ inside)]
        exact ih above
      · rw [List.getElem?_append_right (by rw [crop_length]; omega), crop_length,
          Nat.add_sub_cancel_left]
        simp [across]

/-- What a rastered character has of its canvas. -/
structure Cropped (face : Face) (ch : Char) (g : Rastered) (nx0 ny0 : Nat) : Prop where
  cp : g.cp = ch
  adv : g.adv = face.adv ch
  width : g.w + nx0 ≤ face.canvasW ch
  height : g.h + ny0 ≤ face.canvasH
  xoff : g.xoff = nx0 - pad
  yoff : g.yoff = ny0 - pad
  bits : g.bits = face.crop ch nx0 ny0 g.w g.h
  box : ch ≠ ' ' → ∀ x y, x < face.canvasW ch → y < face.canvasH → face.Dark ch x y →
    (nx0 ≤ x ∧ x < nx0 + g.w) ∧ ny0 ≤ y ∧ y < ny0 + g.h

/-- A dark pixel lies in one of the columns. -/
theorem mem_xs {x y : Nat} (across : x < face.canvasW ch) (down : y < face.canvasH)
    (dark : face.Dark ch x y) : x ∈ face.xs ch :=
  List.mem_filter.mpr ⟨List.mem_range.mpr across,
    List.any_eq_true.mpr ⟨y, List.mem_range.mpr down, decide_eq_true dark⟩⟩

theorem mem_ys {x y : Nat} (across : x < face.canvasW ch) (down : y < face.canvasH)
    (dark : face.Dark ch x y) : y ∈ face.ys ch :=
  List.mem_filter.mpr ⟨List.mem_range.mpr down,
    List.any_eq_true.mpr ⟨x, List.mem_range.mpr across, decide_eq_true dark⟩⟩

/-- A character without a dark pixel, or the blank. -/
theorem empty_cropped (bare : ch ≠ ' ' → ∀ x y, x < face.canvasW ch → y < face.canvasH →
    ¬face.Dark ch x y) : Cropped face ch (face.empty ch) pad pad where
  cp := rfl
  adv := rfl
  width := by
    have : face.adv ch + pad * 2 ≤ face.canvasW ch :=
      Nat.le_trans (Nat.le_max_right _ _) (Nat.le_max_left _ _)
    simp only [empty]
    omega
  height := by
    simp only [empty, canvasH]
    omega
  xoff := rfl
  yoff := rfl
  bits := rfl
  box other x y across down dark := absurd dark (bare other x y across down)

/-- **Each character is cropped to its dark pixels.** -/
theorem raster_cropped (face : Face) (ch : Char) :
    ∃ nx0 ny0, Cropped face ch (face.raster ch) nx0 ny0 := by
  unfold raster
  split
  · next blank => exact ⟨pad, pad, empty_cropped (absurd blank ·)⟩
  · split
    · next nx0 xs ny0 ys columns rows =>
        obtain ⟨lastX, acrossX⟩ := between_ends (columns ▸ sorted_filter_range : (nx0 :: xs).Pairwise _)
        obtain ⟨lastY, acrossY⟩ := between_ends (rows ▸ sorted_filter_range : (ny0 :: ys).Pairwise _)
        have firstX := (acrossX _ lastX).1
        have firstY := (acrossY _ lastY).1
        have insideX := List.mem_range.mp (List.mem_of_mem_filter (columns ▸ lastX))
        have insideY := List.mem_range.mp (List.mem_of_mem_filter (rows ▸ lastY))
        refine ⟨nx0, ny0, rfl, rfl, ?_, ?_, rfl, rfl, rfl, ?_⟩
        · dsimp only
          omega
        · dsimp only
          omega
        · intro _ x y across down dark
          have left := acrossX x (columns ▸ mem_xs across down dark)
          have top := acrossY y (rows ▸ mem_ys across down dark)
          dsimp only
          omega
    · next none =>
        refine ⟨pad, pad, empty_cropped fun _ x y across down dark => ?_⟩
        obtain ⟨nx0, xs, columns⟩ := List.exists_cons_of_ne_nil
          (List.ne_nil_of_mem (mem_xs across down dark))
        obtain ⟨ny0, ys, rows⟩ := List.exists_cons_of_ne_nil
          (List.ne_nil_of_mem (mem_ys across down dark))
        exact none nx0 xs ny0 ys columns rows

/-- The bitmap has the bits of each glyph at its offset. -/
theorem dump_slice (face : Face) (codes : List Char) (blob : List UInt8) :
    blob <+: (face.dump codes blob).2 ∧ ∀ entry ∈ (face.dump codes blob).1,
      ∃ before after, (face.dump codes blob).2 = before ++ entry.1.bits ++ after ∧
        before.length = entry.2 := by
  induction codes generalizing blob with
  | nil => exact ⟨List.prefix_rfl, fun _ member => absurd member List.not_mem_nil⟩
  | cons cp codes ih =>
      obtain ⟨kept, slices⟩ := ih (blob ++ (face.raster cp).bits)
      obtain ⟨after, rest⟩ := kept
      refine ⟨⟨(face.raster cp).bits ++ after, ?_⟩, fun entry member => ?_⟩
      · exact (List.append_assoc ..).symm.trans rest
      · rcases List.mem_cons.mp member with rfl | member
        · exact ⟨blob, after, rest.symm, rfl⟩
        · exact slices entry member

/-- The glyphs come in the order of their characters. -/
theorem dump_codes (face : Face) (codes : List Char) (blob : List UInt8) :
    (face.dump codes blob).1.map (·.1) = codes.map face.raster := by
  induction codes generalizing blob with
  | nil => rfl
  | cons cp codes ih => exact congrArg (face.raster cp :: ·) (ih _)

/-- What the compiler has kept of a glyph. -/
structure Baked (face : Face) (codes : List Char) (ch : Char) (g : GsGlyph) (nx0 ny0 : Nat) :
    Prop where
  cp : g.cp = ch.val
  adv : g.adv = face.adv ch
  width : g.w + nx0 ≤ face.canvasW ch
  height : g.h + ny0 ≤ face.canvasH
  xoff : g.xoff = nx0 - pad
  yoff : g.yoff = ny0 - pad
  covered : g.off + g.w * g.h ≤ (face.bake codes).bits.length
  bits : ∀ ix iy, ix < g.w → iy < g.h →
    (face.bake codes).bits[g.off + iy * g.w + ix]? = some (face.data ch (nx0 + ix) (ny0 + iy))
  box : ch ≠ ' ' → ∀ x y, x < face.canvasW ch → y < face.canvasH → face.Dark ch x y →
    (nx0 ≤ x ∧ x < nx0 + g.w) ∧ ny0 ≤ y ∧ y < ny0 + g.h

variable {codes : List Char}

/-- A small number less the margin fits sixteen bits. -/
theorem bmod_of_small {n : Nat} (small : n < 2 ^ 15) :
    ((n : Int) - pad).bmod (2 ^ 16) = n - pad :=
  Int.bmod_eq_of_le (by simp only [pad]; omega) (by simp only [pad]; omega)

/-- What has been cropped is kept by the compiler, when the numbers fit. -/
theorem Cropped.baked (small : face.Small codes) (member : ch ∈ codes) {r : Rastered} {nx0 ny0 : Nat}
    (cropped : Cropped face ch r nx0 ny0) {before after : List UInt8}
    (slice : (face.bake codes).bits = before ++ r.bits ++ after) :
    Baked face codes ch (r.compile before.length) nx0 ny0 := by
  have narrow := small.width ch member
  have low := small.height
  have short := small.blob
  have across := cropped.width
  have down := cropped.height
  have long : r.bits.length = r.h * r.w := by rw [cropped.bits, crop_length]
  have total : before.length + r.h * r.w ≤ (face.bake codes).bits.length := by
    rw [slice, List.length_append, List.length_append, long]
    exact Nat.le_add_right ..
  have advance : face.adv ch + pad * 2 ≤ face.canvasW ch :=
    Nat.le_trans (Nat.le_max_right _ _) (Nat.le_max_left _ _)
  have compiled : r.compile before.length =
      ⟨ch.val, r.w, r.h, face.adv ch, nx0 - pad, ny0 - pad, before.length⟩ := by
    simp only [Rastered.compile, cropped.cp, cropped.adv, cropped.xoff, cropped.yoff]
    rw [bmod_of_small (by omega), bmod_of_small (by omega), Nat.mod_eq_of_lt (by omega),
      Nat.mod_eq_of_lt (by omega), Nat.mod_eq_of_lt (by omega), Nat.mod_eq_of_lt (by omega)]
  rw [compiled]
  refine ⟨rfl, rfl, across, down, rfl, rfl, Nat.mul_comm r.h r.w ▸ total, ?_, cropped.box⟩
  intro ix iy inRow inGlyph
  have inside : iy * r.w + ix < r.bits.length := by
    rw [long]
    exact Nat.lt_of_lt_of_le (Nat.add_lt_add_left inRow _)
      (Nat.succ_mul iy r.w ▸ Nat.mul_le_mul_right r.w inGlyph)
  dsimp only
  rw [slice, List.append_assoc, Nat.add_assoc, List.getElem?_append_right (Nat.le_add_right ..),
    Nat.add_sub_cancel_left, List.getElem?_append_left inside, cropped.bits]
  exact crop_getElem? nx0 ny0 inRow inGlyph

/-- Each glyph of a baked font is what has been baked for its character. -/
theorem bake_glyph (small : face.Small codes) {i : Nat} {g : GsGlyph}
    (here : (face.bake codes).g[i]? = some g) :
    ∃ ch, codes[i]? = some ch ∧ ∃ nx0 ny0, Baked face codes ch g nx0 ny0 := by
  obtain ⟨⟨r, off⟩, entry, rfl⟩ := List.getElem?_map .. ▸ here |> Option.map_eq_some_iff.mp
  have coded := congrArg (·[i]?) (dump_codes face codes [])
  simp only [List.getElem?_map, entry, Option.map_some] at coded
  obtain ⟨ch, code, rfl⟩ := Option.map_eq_some_iff.mp coded.symm
  obtain ⟨before, after, slice, rfl⟩ := (dump_slice face codes []).2 _ (List.mem_of_getElem? entry)
  obtain ⟨nx0, ny0, cropped⟩ := raster_cropped face ch
  exact ⟨ch, code, nx0, ny0, cropped.baked small (List.mem_of_getElem? code) slice⟩

/-- A font has a glyph for each character. -/
theorem bake_length (face : Face) (codes : List Char) :
    (face.bake codes).g.length = codes.length := by
  have same := congrArg List.length (dump_codes face codes [])
  rw [List.length_map, List.length_map] at same
  exact (List.length_map _).trans same

/-- Its glyphs are in the order of their characters. -/
theorem bake_sorted {text : List Char} (small : face.Small (cps text)) :
    (face.bake (cps text)).g.Pairwise fun a b => a.cp < b.cp := by
  rw [List.pairwise_iff_getElem]
  intro i j left right less
  obtain ⟨a, first, _, _, baked⟩ := bake_glyph small (List.getElem?_eq_getElem left)
  obtain ⟨b, second, _, _, baked'⟩ := bake_glyph small (List.getElem?_eq_getElem right)
  obtain ⟨inside, rfl⟩ := List.getElem?_eq_some_iff.mp first
  obtain ⟨inside', rfl⟩ := List.getElem?_eq_some_iff.mp second
  rw [baked.cp, baked'.cp]
  exact List.pairwise_iff_getElem.mp (cps_sorted text) i j inside inside' less

/-- The search finds each baked character, and the binary search alone does. -/
theorem findG_baked {text : List Char} (small : face.Small (cps text)) (member : ch ∈ cps text) :
    ∃ i g, (face.bake (cps text)).findG ch.val = some ⟨(i : Nat), g⟩ ∧
      (face.bake (cps text)).bisect ch.val 0 ((face.bake (cps text)).g.length - 1) =
        some ⟨(i : Nat), g⟩ ∧
      (face.bake (cps text)).g[i]? = some g ∧
      ∃ nx0 ny0, Baked face (cps text) ch g nx0 ny0 := by
  obtain ⟨i, inside, rfl⟩ := List.getElem_of_mem member
  have within : i < (face.bake (cps text)).g.length := (bake_length ..).symm ▸ inside
  have here := List.getElem?_eq_getElem within
  obtain ⟨ch, code, nx0, ny0, baked⟩ := bake_glyph small here
  rw [List.getElem?_eq_getElem inside, Option.some.injEq] at code
  have found := GsFont.bisect_complete (bake_sorted small) here 0
    ((face.bake (cps text)).g.length - 1) (by omega) (by omega)
  rw [baked.cp, ← code] at found
  refine ⟨i, _, ?_, found, here, nx0, ny0, code ▸ baked⟩
  rw [GsFont.findG, found]

end Face

end Ginkgo
