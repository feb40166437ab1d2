import Ginkgo.Raster.Shelf
import Ginkgo.Text.Font
import Ginkgo.Transition.Run
import Mathlib.Algebra.Group.Nat.Defs

/-!
# The glyph atlas

`hud_gl_pack_font` of `ginkgo-status-gpu.c`. A font is named by its address, and `font` says
what is there. The atlas is the array that the calls fill; `Atlas.writes` is history: the
places that `memcpy` has written, as the first one and their number.

`Atlas.pack_sound` is the result: when no call has failed, nothing has been written outside
the array, the glyphs of the packed fonts lie apart from each other, and where a glyph lies
the atlas has its bits.
-/

namespace Ginkgo

open Raster

/-- `MAX_FONTS` -/
def maxFonts : Nat := 4

/-- `ATLAS_W` -/
def atlasW : Nat := 2048

/-- `ATLAS_H` -/
def atlasH : Nat := 2048

/-- `struct packed_font`. -/
structure PackedFont where
  f : Nat
  x : Nat → Nat := fun _ => 0
  y : Nat → Nat := fun _ => 0

/-- The array, the place where the next glyph goes, the fonts packed so far, and whether a call
has failed. -/
structure Atlas where
  cells : Nat → UInt8 := fun _ => 0
  allocated : Bool := false
  packX : Nat := 1
  packY : Nat := 1
  packRowH : Nat := 0
  fail : Bool := false
  fonts : List PackedFont := []
  writes : List (Nat × Nat) := []

/-- A call of `hud_gl_pack_font`: the font, and whether memory is there for the atlas and for
the places of the glyphs. -/
structure PackCall where
  font : Option Nat
  atlas : Bool := true
  x : Bool := true
  y : Bool := true

/-- A glyph without pixels. -/
def GsGlyph.Blank (g : GsGlyph) : Prop := g.w < 1 ∨ g.h < 1

instance (g : GsGlyph) : Decidable g.Blank := inferInstanceAs (Decidable (_ ∨ _))

namespace Atlas

/-- `memcpy` of some bytes of a bitmap into the array. -/
def memcpy (start count : Nat) (bits : List UInt8) (off : Nat) (a : Atlas) : Atlas :=
  { a with
    cells := copy start count (fun i => bits.getD (off + i) 0) a.cells
    writes := a.writes ++ [(start, count)] }

/-- The rows of a glyph, up to `row`. The offset of a row is added to a pointer, and fits in
32 bits because the width and the height of a glyph fit in 16. -/
def copyRows (f : GsFont) (g : GsGlyph) (x y : Nat) : Nat → Atlas → Atlas
  | 0, a => a
  | row + 1, a =>
      (a.copyRows f g x y row).memcpy ((y + row) * atlasW + x) g.w f.bits (g.off + row * g.w)

/-- Go to the next row of the atlas when the glyph does not fit in this one. -/
def wrap (g : GsGlyph) (a : Atlas) : Atlas :=
  if atlasW ≤ a.packX + g.w + 1 then
    { a with packX := 1, packY := a.packY + (a.packRowH + 1), packRowH := 0 }
  else a

/-- The glyph is copied and the place behind it comes next. -/
def place (f : GsFont) (g : GsGlyph) (a : Atlas) : Atlas :=
  let a := a.copyRows f g a.packX a.packY g.h
  { a with
    packX := a.packX + (g.w + 1)
    packRowH := if a.packRowH < g.h then g.h else a.packRowH }

/-- The loop over the glyphs from the `i`-th on. -/
def packGlyphs (f : GsFont) : Nat → List GsGlyph → Atlas → PackedFont → Atlas × PackedFont
  | _, [], a, p => (a, p)
  | i, g :: gs, a, p =>
      if g.Blank then packGlyphs f (i + 1) gs a p
      else
        let a := a.wrap g
        if atlasH ≤ a.packY + g.h + 1 then ({ a with fail := true }, p)
        else
          packGlyphs f (i + 1) gs (a.place f g)
            { p with
              x := Function.update p.x i (a.packX % 2 ^ 16)
              y := Function.update p.y i (a.packY % 2 ^ 16) }

/-- `hud_gl_pack_font`. -/
def packFont (font : Nat → GsFont) (a : Atlas) (call : PackCall) : Atlas :=
  match call.font with
  | none => a
  | some f =>
      if maxFonts ≤ a.fonts.length ∨ a.fail then a
      else if a.allocated = false ∧ call.atlas = false then { a with fail := true }
      else
        let a := { a with allocated := true }
        if call.x = false ∨ call.y = false then
          { a with fonts := a.fonts ++ [{ f := f }], fail := true }
        else
          let (a, p) := a.packGlyphs (font f) 0 (font f).g { f := f }
          { a with fonts := a.fonts ++ [p] }

/-- The atlas after a sequence of calls from the start. -/
def packed (font : Nat → GsFont) (calls : List PackCall) : Atlas :=
  Transition.run (packFont font) {} calls

end Atlas

/-! ## What lies where -/

/-- A glyph in the atlas: what `hud_gl_glyph` samples for it, and where its bits come from. -/
structure Placement where
  rect : Rect
  bits : List UInt8
  off : Nat

/-- The atlas has exactly the glyph's bits there. -/
def Placement.Printed (m : Placement) (cells : Nat → UInt8) : Prop :=
  ∀ col row, col < m.rect.w → row < m.rect.h →
    m.bits[m.off + row * m.rect.w + col]? =
      some (cells (spot atlasW (m.rect.x + col) (m.rect.y + row)))

namespace PackedFont

/-- The place of a glyph, and its bits. -/
def placement (p : PackedFont) (f : GsFont) (i : Nat) (g : GsGlyph) : Placement :=
  ⟨⟨p.x i, p.y i, g.w, g.h⟩, f.bits, g.off⟩

/-- The glyphs with pixels among the `i`-th and the following ones. -/
def placements (p : PackedFont) (f : GsFont) : Nat → List GsGlyph → List Placement
  | _, [] => []
  | i, g :: gs =>
      if g.Blank then p.placements f (i + 1) gs
      else p.placement f i g :: p.placements f (i + 1) gs

end PackedFont

namespace Atlas

/-- The glyphs with pixels of all packed fonts. -/
def placements (font : Nat → GsFont) (a : Atlas) : List Placement :=
  a.fonts.flatMap fun p => p.placements (font p.f) 0 (font p.f).g

/-- The place where the next glyph goes, on its shelf. -/
def shelf (a : Atlas) : Shelf := ⟨a.packX, a.packY, a.packRowH⟩

/-- Going to the next row is going to the next shelf. -/
theorem wrap_shelf (g : GsGlyph) (a : Atlas) : (a.wrap g).shelf = a.shelf.wrap atlasW g.w := by
  unfold wrap shelf Shelf.wrap
  split <;> rfl

@[simp] theorem wrap_cells (g : GsGlyph) (a : Atlas) : (a.wrap g).cells = a.cells := by
  unfold wrap
  split <;> rfl

@[simp] theorem wrap_writes (g : GsGlyph) (a : Atlas) : (a.wrap g).writes = a.writes := by
  unfold wrap
  split <;> rfl

/-! ## Copying one glyph -/

section CopyRows

variable (f : GsFont) (g : GsGlyph) (x y : Nat)

/-- Copying a glyph leaves the shelf. -/
theorem copyRows_shelf (row : Nat) (a : Atlas) : (a.copyRows f g x y row).shelf = a.shelf := by
  induction row with
  | zero => rfl
  | succ row ih => exact ih

/-- Placing it advances on the shelf. -/
theorem place_shelf (a : Atlas) : (a.place f g).shelf = a.shelf.advance g.w g.h := by
  have kept := copyRows_shelf f g a.packX a.packY g.h a
  simp only [shelf, Shelf.mk.injEq] at kept
  simp only [shelf, place, Shelf.advance, kept, Shelf.mk.injEq, true_and]
  split <;> omega

/-- The rows that have been copied are the glyph's, and the rest of the atlas is as before. -/
theorem copyRows_cells (a : Atlas) {col line : Nat} (fits : x + g.w ≤ atlasW)
    (inside : col < atlasW) (row : Nat) :
    (a.copyRows f g x y row).cells (spot atlasW col line) =
      if x ≤ col ∧ col < x + g.w ∧ y ≤ line ∧ line < y + row then
        f.bits.getD (g.off + (line - y) * g.w + (col - x)) 0
      else a.cells (spot atlasW col line) := by
  induction row with
  | zero =>
      rw [if_neg (by omega)]
      rfl
  | succ row ih =>
      have copied := @copy_spot_of_row UInt8 atlasW x (y + row) g.w col line
        (fun i => f.bits.getD (g.off + row * g.w + i) 0) (a.copyRows f g x y row).cells
        fits inside
      calc (a.copyRows f g x y (row + 1)).cells (spot atlasW col line)
        _ = _ := copied
        _ = _ := by
          rw [ih]
          by_cases last : line = y + row
          · subst last
            by_cases across : x ≤ col ∧ col < x + g.w
            · rw [if_pos ⟨rfl, across⟩, if_pos (by omega), Nat.add_sub_cancel_left]
            · rw [if_neg (by omega), if_neg (by omega), if_neg (by omega)]
          · rw [if_neg fun same => last same.1]
            congr 1
            simp only [eq_iff_iff]
            omega

/-- The rows of a glyph that fits are written inside the array. -/
theorem copyRows_writes (a : Atlas) (fits : x + g.w ≤ atlasW)
    (old : ∀ write ∈ a.writes, write.1 + write.2 ≤ atlasW * atlasH) (row : Nat)
    (below : y + row ≤ atlasH) :
    ∀ write ∈ (a.copyRows f g x y row).writes, write.1 + write.2 ≤ atlasW * atlasH := by
  induction row with
  | zero => exact old
  | succ row ih =>
      intro write member
      rcases List.mem_append.mp member with earlier | new
      · exact ih (by omega) write earlier
      · rw [List.mem_singleton.mp new]
        calc (y + row) * atlasW + x + g.w ≤ (y + row) * atlasW + atlasW := by omega
          _ = atlasW * (y + row + 1) := by rw [Nat.mul_succ, Nat.mul_comm]
          _ ≤ atlasW * atlasH := Nat.mul_le_mul_left _ below

end CopyRows

/-! ## The invariant -/

/-- What has been placed lies apart and left of or above the next place, inside the array, and
the atlas has its bits. -/
structure Packing (a : Atlas) (log : List Placement) : Prop where
  apart : log.Pairwise fun m n => m.rect.Apart n.rect
  clear : ∀ m ∈ log, a.shelf.Clear m.rect
  narrow : ∀ m ∈ log, m.rect.x + m.rect.w ≤ atlasW
  printed : ∀ m ∈ log, m.Printed a.cells
  inside : ∀ write ∈ a.writes, write.1 + write.2 ≤ atlasW * atlasH

/-- The widths fit in the atlas, and the bitmap covers every glyph. -/
def Packable (f : GsFont) : Prop :=
  ∀ g ∈ f.g, g.w + 2 < atlasW ∧ g.off + g.w * g.h ≤ f.bits.length

/-- A new row keeps what has been placed. -/
theorem Packing.wrap {a : Atlas} {log : List Placement} (packing : a.Packing log) (g : GsGlyph) :
    (a.wrap g).Packing log where
  apart := packing.apart
  clear m member := by
    rw [wrap_shelf]
    exact (packing.clear m member).wrap _ _
  narrow := packing.narrow
  printed m member := by
    rw [wrap_cells]
    exact packing.printed m member
  inside := by
    rw [wrap_writes]
    exact packing.inside

/-- A glyph that fits goes next to what has been placed. -/
theorem Packing.place {a : Atlas} {log : List Placement} (packing : a.Packing log) {f : GsFont}
    {g : GsGlyph} (covered : g.off + g.w * g.h ≤ f.bits.length)
    (across : a.packX + g.w < atlasW) (down : a.packY + g.h < atlasH) :
    (a.place f g).Packing (log ++ [⟨a.shelf.slot g.w g.h, f.bits, g.off⟩]) := by
  have cells (col line : Nat) (inside : col < atlasW) :
      (a.place f g).cells (spot atlasW col line) =
        if (a.shelf.slot g.w g.h).Covers col line then
          f.bits.getD (g.off + (line - a.packY) * g.w + (col - a.packX)) 0
        else a.cells (spot atlasW col line) :=
    copyRows_cells f g a.packX a.packY a across.le inside g.h
  refine ⟨?_, ?_, ?_, ?_, ?_⟩
  · refine List.pairwise_append.mpr ⟨packing.apart, List.pairwise_singleton _ _, ?_⟩
    intro m member n new
    rw [List.mem_singleton.mp new]
    exact (packing.clear m member).apart _ _
  · intro m member
    rw [place_shelf]
    rcases List.mem_append.mp member with earlier | new
    · exact (packing.clear m earlier).advance _ _
    · rw [List.mem_singleton.mp new]
      exact Shelf.clear_slot _ _ _
  · intro m member
    rcases List.mem_append.mp member with earlier | new
    · exact packing.narrow m earlier
    · rw [List.mem_singleton.mp new]
      exact across.le
  · intro m member col row left above
    rcases List.mem_append.mp member with earlier | new
    · have fits := packing.narrow m earlier
      -- An earlier glyph is apart from the new one, which leaves its cells as they were.
      have missed := ((packing.clear m earlier).apart g.w g.h).not_covers
        (⟨by omega, by omega, by omega, by omega⟩ :
          m.rect.Covers (m.rect.x + col) (m.rect.y + row))
      rw [cells _ _ (by omega), if_neg missed]
      exact packing.printed m earlier col row left above
    · rw [List.mem_singleton.mp new] at left above ⊢
      dsimp only [Shelf.slot, shelf] at left above ⊢
      have within : row * g.w + g.w ≤ g.w * g.h := by
        calc row * g.w + g.w = g.w * (row + 1) := by rw [Nat.mul_succ, Nat.mul_comm]
          _ ≤ g.w * g.h := Nat.mul_le_mul_left _ above
      rw [cells _ _ (by omega), if_pos (by unfold Rect.Covers Shelf.slot shelf; dsimp only; omega)]
      simp only [Nat.add_sub_cancel_left]
      rw [List.getD_eq_getElem?_getD, List.getElem?_eq_getElem (by omega), Option.getD_some]
  · exact copyRows_writes f g _ _ a across.le packing.inside _ down.le

/-! ## The loop over the glyphs -/

section PackGlyphs

variable (f : GsFont)

/-- The loop leaves the places of the glyphs before the `i`-th. -/
theorem packGlyphs_frame (i : Nat) (gs : List GsGlyph) (a : Atlas) (p : PackedFont) :
    (a.packGlyphs f i gs p).1.fonts = a.fonts ∧ (a.packGlyphs f i gs p).2.f = p.f ∧
      ∀ j < i, (a.packGlyphs f i gs p).2.x j = p.x j ∧ (a.packGlyphs f i gs p).2.y j = p.y j := by
  have copied (g : GsGlyph) (x y row : Nat) (a : Atlas) :
      (a.copyRows f g x y row).fonts = a.fonts := by
    induction row with
    | zero => rfl
    | succ row ih => exact ih
  have wrapped (g : GsGlyph) (a : Atlas) : (a.wrap g).fonts = a.fonts := by
    unfold wrap
    split <;> rfl
  induction gs generalizing i a p with
  | nil => exact ⟨rfl, rfl, fun _ _ => ⟨rfl, rfl⟩⟩
  | cons g gs ih =>
      unfold packGlyphs
      split
      · obtain ⟨fonts, font, places⟩ := ih (i + 1) a p
        exact ⟨fonts, font, fun j before => places j (by omega)⟩
      · dsimp only
        split
        · exact ⟨wrapped g a, rfl, fun _ _ => ⟨rfl, rfl⟩⟩
        · obtain ⟨fonts, font, places⟩ := ih (i + 1) ((a.wrap g).place f g)
            { p with
              x := Function.update p.x i ((a.wrap g).packX % 2 ^ 16)
              y := Function.update p.y i ((a.wrap g).packY % 2 ^ 16) }
          refine ⟨fonts.trans ((copied _ _ _ _ _).trans (wrapped g a)), font, fun j before => ?_⟩
          obtain ⟨left, top⟩ := places j (by omega)
          exact ⟨left.trans (Function.update_of_ne (by omega) _ _),
            top.trans (Function.update_of_ne (by omega) _ _)⟩

/-- A loop that does not fail adds its glyphs to what has been placed. -/
theorem packGlyphs_packing (i : Nat) (gs : List GsGlyph) (a : Atlas) (p : PackedFont)
    (log : List Placement)
    (packable : ∀ g ∈ gs, g.w + 2 < atlasW ∧ g.off + g.w * g.h ≤ f.bits.length)
    (packing : a.Packing log) (succeeded : (a.packGlyphs f i gs p).1.fail = false) :
    (a.packGlyphs f i gs p).1.Packing (log ++ (a.packGlyphs f i gs p).2.placements f i gs) := by
  induction gs generalizing i a p log with
  | nil => simpa only [packGlyphs, PackedFont.placements, List.append_nil] using packing
  | cons g gs ih =>
      have rest : ∀ g ∈ gs, g.w + 2 < atlasW ∧ g.off + g.w * g.h ≤ f.bits.length :=
        fun g member => packable g (List.mem_cons_of_mem _ member)
      rw [packGlyphs] at succeeded ⊢
      rw [PackedFont.placements]
      split
      · next blank =>
          simp only [blank, ↓reduceIte] at succeeded
          exact ih (i + 1) a p log rest packing succeeded
      · next printed =>
          simp only [printed, ↓reduceIte] at succeeded ⊢
          obtain ⟨narrow, covered⟩ := packable g List.mem_cons_self
          split at succeeded
          · cases succeeded
          · next down =>
              rw [if_neg down]
              have across : (a.wrap g).packX + g.w + 1 < atlasW := by
                have room := Shelf.wrap_room narrow a.shelf
                rwa [← wrap_shelf] at room
              have placed := (packing.wrap g).place covered (by omega) (by omega)
              have onward := ih (i + 1) _ _ _ rest placed succeeded
              -- The rest of the loop leaves the place that this glyph has got.
              obtain ⟨-, -, places⟩ := packGlyphs_frame f (i + 1) gs ((a.wrap g).place f g)
                { p with
                  x := Function.update p.x i ((a.wrap g).packX % 2 ^ 16)
                  y := Function.update p.y i ((a.wrap g).packY % 2 ^ 16) }
              obtain ⟨left, top⟩ := places i (by omega)
              have short : (a.wrap g).packX % 2 ^ 16 = (a.wrap g).packX :=
                Nat.mod_eq_of_lt (by unfold atlasW at across; omega)
              have low : (a.wrap g).packY % 2 ^ 16 = (a.wrap g).packY :=
                Nat.mod_eq_of_lt (by unfold atlasH at down; omega)
              rw [List.append_assoc, List.singleton_append] at onward
              rw [PackedFont.placement, left.trans ((Function.update_self i _ _).trans short),
                top.trans ((Function.update_self i _ _).trans low)]
              exact onward

end PackGlyphs

/-! ## Whole sequences of calls -/

/-- A font that has been packed adds its glyphs. -/
theorem placements_append {font : Nat → GsFont} {a b : Atlas} {p : PackedFont} {f : Nat}
    (fonts : b.fonts = a.fonts) (same : p.f = f) :
    ({ b with fonts := b.fonts ++ [p] } : Atlas).placements font =
      a.placements font ++ p.placements (font f) 0 (font f).g := by
  simp only [placements, fonts, List.flatMap_append, List.flatMap_cons, List.flatMap_nil,
    List.append_nil, same]

/-- A call that has not failed places the glyphs of its font. -/
theorem packFont_packing {font : Nat → GsFont} {a : Atlas} {call : PackCall}
    (packable : ∀ f, call.font = some f → Packable (font f))
    (packing : a.fail = false → a.Packing (a.placements font))
    (succeeded : (a.packFont font call).fail = false) :
    (a.packFont font call).Packing ((a.packFont font call).placements font) := by
  obtain ⟨pointer, atlas, x, y⟩ := call
  cases pointer with
  | none => exact packing succeeded
  | some f =>
      simp only [packFont] at succeeded ⊢
      split at succeeded
      · next refused =>
          rw [if_pos refused]
          exact packing succeeded
      · next accepted =>
          rw [if_neg accepted]
          simp only [not_or, Bool.not_eq_true] at accepted
          split at succeeded
          · cases succeeded
          · next memory =>
              rw [if_neg memory]
              split at succeeded
              · cases succeeded
              · next room =>
                  rw [if_neg room]
                  have before := packing accepted.2
                  obtain ⟨fonts, same, -⟩ := packGlyphs_frame (font f) 0 (font f).g
                    { a with allocated := true } { f := f }
                  have after := packGlyphs_packing (font f) 0 (font f).g
                    { a with allocated := true } { f := f } _ (packable f rfl)
                    ⟨before.apart, before.clear, before.narrow, before.printed, before.inside⟩
                    succeeded
                  rw [placements_append fonts same]
                  exact ⟨after.apart, after.clear, after.narrow, after.printed, after.inside⟩

theorem run_packing {font : Nat → GsFont} {calls : List PackCall} {a : Atlas}
    (packable : ∀ call ∈ calls, ∀ f, call.font = some f → Packable (font f))
    (packing : a.fail = false → a.Packing (a.placements font))
    (succeeded : (Transition.run (packFont font) a calls).fail = false) :
    (Transition.run (packFont font) a calls).Packing
      ((Transition.run (packFont font) a calls).placements font) := by
  induction calls generalizing a with
  | nil => exact packing succeeded
  | cons call calls ih =>
      have first := packable call List.mem_cons_self
      exact ih (fun call member => packable call (List.mem_cons_of_mem _ member))
        (packFont_packing first packing) succeeded

/-- **Atlas packing is sound.** Whatever fonts the calls have been given, as long as their
glyphs are narrower than the atlas by more than two columns and covered by the bitmap: when
no call has failed, every write has stayed inside the array, the glyphs of the packed fonts
lie apart from each other, with a free column or row between, and where a glyph lies the atlas
has exactly its bits. `packed_fonts` says that the packed fonts are those of the calls. -/
theorem pack_sound {font : Nat → GsFont} {calls : List PackCall}
    (packable : ∀ call ∈ calls, ∀ f, call.font = some f → Packable (font f))
    (succeeded : (packed font calls).fail = false) :
    (∀ write ∈ (packed font calls).writes, write.1 + write.2 ≤ atlasW * atlasH) ∧
      ((packed font calls).placements font).Pairwise (fun m n => m.rect.Apart n.rect) ∧
      ∀ m ∈ (packed font calls).placements font, m.Printed (packed font calls).cells := by
  have packing := run_packing packable (a := {})
    (fun _ => ⟨List.Pairwise.nil, nofun, nofun, nofun, nofun⟩) succeeded
  exact ⟨packing.inside, packing.apart, packing.printed⟩

/-- A font of two glyphs, one of them without pixels. -/
def dotFont : GsFont where
  px := 8
  g := [⟨32, 0, 0, 3, 0, 0, 0⟩, ⟨46, 2, 1, 3, 0, 6, 1⟩]
  bits := [0, 9, 8]

/-- Two copies of the small font. -/
theorem pack_sound_dots :
    (packed (fun _ => dotFont) [⟨some 0, true, true, true⟩, ⟨some 1, true, true, true⟩]).fail =
        false ∧
      (∀ write ∈ (packed (fun _ => dotFont)
          [⟨some 0, true, true, true⟩, ⟨some 1, true, true, true⟩]).writes,
        write.1 + write.2 ≤ atlasW * atlasH) := by
  refine ⟨by decide, (pack_sound ?_ (by decide)).1⟩
  intro call _ f _ g member
  simp only [dotFont, List.mem_cons, List.not_mem_nil, or_false] at member
  rcases member with rfl | rfl <;> decide

/-! ## Which fonts are packed -/

/-- After a failure nothing is packed any more. -/
theorem packFont_fail {font : Nat → GsFont} {a : Atlas} (failed : a.fail = true)
    (call : PackCall) : a.packFont font call = a := by
  unfold packFont
  split
  · rfl
  · rw [if_pos (.inr failed)]

/-- A call that has not failed adds its font as long as there is room for one. -/
theorem packFont_fonts {font : Nat → GsFont} {a : Atlas} {call : PackCall}
    (succeeded : (a.packFont font call).fail = false) :
    (a.packFont font call).fonts.map (·.f) =
      if a.fonts.length < maxFonts then a.fonts.map (·.f) ++ call.font.toList
      else a.fonts.map (·.f) := by
  obtain ⟨pointer, atlas, x, y⟩ := call
  cases pointer with
  | none =>
      simp only [packFont, Option.toList_none, List.append_nil, ite_self]
  | some f =>
      simp only [packFont] at succeeded ⊢
      split at succeeded
      · next refused =>
          rw [if_pos refused, if_neg]
          rcases refused with full | failed
          · omega
          · simp only [succeeded, Bool.false_eq_true] at failed
      · next accepted =>
          rw [if_neg accepted, if_pos (show a.fonts.length < maxFonts by omega)]
          split at succeeded
          · cases succeeded
          · next memory =>
              rw [if_neg memory]
              split at succeeded
              · cases succeeded
              · next room =>
                  rw [if_neg room]
                  obtain ⟨fonts, same, -⟩ := packGlyphs_frame (font f) 0 (font f).g
                    { a with allocated := true } { f := f }
                  simp only [fonts, List.map_append, List.map_cons, List.map_nil, same,
                    Option.toList_some]

/-- A failure stays. -/
theorem run_fail {font : Nat → GsFont} {a : Atlas} (failed : a.fail = true)
    (calls : List PackCall) : Transition.run (packFont font) a calls = a := by
  induction calls with
  | nil => rfl
  | cons call calls ih => rwa [Transition.run_cons, packFont_fail failed]

/-- When no call has failed, the first four fonts of the calls are packed, in their order. -/
theorem packed_fonts {font : Nat → GsFont} {calls : List PackCall}
    (succeeded : (packed font calls).fail = false) :
    (packed font calls).fonts.map (·.f) = (calls.filterMap (·.font)).take maxFonts := by
  suffices general : ∀ a : Atlas, (Transition.run (packFont font) a calls).fail = false →
      a.fonts.length ≤ maxFonts →
      (Transition.run (packFont font) a calls).fonts.map (·.f) =
        (a.fonts.map (·.f) ++ calls.filterMap (·.font)).take maxFonts from
    general {} succeeded (by decide)
  clear succeeded
  induction calls with
  | nil =>
      intro a _ short
      rw [List.filterMap_nil, List.append_nil, List.take_of_length_le (by simpa using short)]
      rfl
  | cons call calls ih =>
      intro a succeeded short
      rw [Transition.run_cons] at succeeded ⊢
      have alive : (a.packFont font call).fail = false := by
        by_contra failed
        rw [Bool.not_eq_false] at failed
        rw [run_fail failed, failed] at succeeded
        cases succeeded
      have fonts := packFont_fonts alive
      have joined : (call :: calls).filterMap (·.font) =
          call.font.toList ++ calls.filterMap (·.font) := by
        cases named : call.font <;> simp [named]
      by_cases room : a.fonts.length < maxFonts
      · rw [if_pos room] at fonts
        have longer : (a.packFont font call).fonts.length ≤ maxFonts := by
          have counted := congrArg List.length fonts
          have atMost : call.font.toList.length ≤ 1 := by cases call.font <;> simp
          simp only [List.length_map, List.length_append] at counted
          omega
        rw [ih _ succeeded longer, fonts, joined, List.append_assoc]
      · rw [if_neg room] at fonts
        have full : (a.fonts.map (·.f)).length = maxFonts := by
          rw [List.length_map]
          omega
        have longer : (a.packFont font call).fonts.length ≤ maxFonts := by
          have counted := congrArg List.length fonts
          simp only [List.length_map] at counted
          omega
        rw [ih _ succeeded longer, fonts, ← full, List.take_left, List.take_left]

end Atlas

end Ginkgo
