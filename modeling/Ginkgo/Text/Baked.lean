import Ginkgo.Display.Atlas
import Ginkgo.Text.Bake

/-!
# What is shown of a baked font

The generator cuts each character out of its canvas and the HUD puts it back: on both paths a
dark pixel of the canvas is shown at its place from the pen.
-/

namespace Ginkgo

open CText Raster

/-- The loop over the encoding of characters is a loop over the characters. -/
theorem eachCp_encode {State : Type*} (body : State → UInt32 → State) (state : State)
    {chars : List Char} (some : ∀ c ∈ chars, c.val ≠ 0) :
    eachCp body state (encode chars) = (chars.foldl (fun state c => body state c.val) state, []) := by
  induction chars generalizing state with
  | nil =>
      rw [eachCp]
      rfl
  | cons c chars ih =>
      have clean := encode_clean fun c member => some c (List.mem_cons_of_mem _ member)
      have first := some c List.mem_cons_self
      have next : u8next (encode (c :: chars)) = (c.val, encode chars) := u8next_encode first clean
      rw [eachCp, next, if_neg first]
      exact ih _ fun c member => some c (List.mem_cons_of_mem _ member)

/-- A character moves the pen by its advance. -/
theorem Pen.draw_x (useGl : Bool) (f : GsFont) (y : Int) (c : UInt32) (pen : Pen) (cp : UInt32) :
    (pen.draw useGl f y c cp).x = pen.x + f.advance cp := by
  unfold Pen.draw GsFont.advance
  split
  · rfl
  · split <;> simp only [*]

/-- How far some characters move the pen on. -/
theorem foldl_draw_x (useGl : Bool) (f : GsFont) (y : Int) (c : UInt32) (pen : Pen)
    {chars : List Char} (some : ∀ ch ∈ chars, ch.val ≠ 0) :
    (chars.foldl (fun pen ch => pen.draw useGl f y c ch.val) pen).x =
      pen.x + textW f (encode chars) := by
  have moved (w : Nat) : (chars.foldl (fun pen ch => pen.draw useGl f y c ch.val) pen).x + w =
      pen.x + (chars.foldl (fun w ch => w + f.advance ch.val) w : Nat) := by
    clear some
    induction chars generalizing pen w with
    | nil => rfl
    | cons ch chars ih =>
        have := ih (pen.draw useGl f y c ch.val) (w + f.advance ch.val)
        rw [Pen.draw_x] at this
        simp only [List.foldl_cons]
        omega
  have := moved 0
  rw [textW, textWLoop, eachCp_encode _ _ some]
  dsimp only
  omega

namespace Face

variable {face : Face} {text : List Char} {ch : Char} {g : GsGlyph} {nx0 ny0 : Nat}
  {x y : Int} {c : UInt32} {call : TextCall}

/-- A pixel of a character's canvas, where the pen shows it. -/
def pixel (face : Face) (x y : Int) (c : UInt32) (ch : Char) (col row : Nat) : TextCall :=
  .plot (x + col - pad) (y + row - pad) c (face.data ch col row)

/-- What is plotted of a baked glyph. -/
theorem mem_plotGlyph (small : face.Small (cps text))
    (baked : Baked face (cps text) ch g nx0 ny0) :
    call ∈ plotGlyph (face.bake (cps text)) g x y c ↔ ∃ ix < g.w, ∃ iy < g.h,
      face.data ch (nx0 + ix) (ny0 + iy) ≠ 0 ∧
        call = face.pixel x y c ch (nx0 + ix) (ny0 + iy) := by
  have stored {ix iy : Nat} (across : ix < g.w) (down : iy < g.h) :
      (face.bake (cps text)).bits.getD ((g.off + iy * g.w + ix) % 2 ^ 32) 0 =
        face.data ch (nx0 + ix) (ny0 + iy) := by
    have here := baked.bits ix iy across down
    obtain ⟨inside, -⟩ := List.getElem?_eq_some_iff.mp here
    rw [Nat.mod_eq_of_lt (Nat.lt_trans inside small.blob), List.getD_eq_getElem?_getD, here]
    rfl
  have place (ix iy : Nat) : TextCall.plot (x + g.xoff + ix) (y + g.yoff + iy) c
      (face.data ch (nx0 + ix) (ny0 + iy)) = face.pixel x y c ch (nx0 + ix) (ny0 + iy) := by
    rw [pixel, baked.xoff, baked.yoff]
    congr 1 <;> omega
  rw [plotGlyph, List.mem_flatMap]
  constructor
  · rintro ⟨iy, down, member⟩
    obtain ⟨ix, across, plotted⟩ := List.mem_filterMap.mp member
    rw [List.mem_range] at down across
    simp only [stored across down] at plotted
    split at plotted
    · cases plotted
    · next lit =>
        rw [place, Option.some.injEq] at plotted
        exact ⟨ix, across, iy, down, lit, plotted.symm⟩
  · rintro ⟨ix, across, iy, down, lit, rfl⟩
    refine ⟨iy, List.mem_range.mpr down, List.mem_filterMap.mpr ⟨ix, List.mem_range.mpr across, ?_⟩⟩
    simp only [stored across down, if_neg lit, place]

/-- What one baked character adds. -/
theorem draw_calls (small : face.Small (cps text)) (member : ch ∈ cps text) (pen : Pen) :
    ∃ nx0 ny0 g, Baked face (cps text) ch g nx0 ny0 ∧
      (pen.draw false (face.bake (cps text)) y c ch.val).calls = pen.calls ++
        if ch = ' ' then [] else plotGlyph (face.bake (cps text)) g pen.x y c := by
  obtain ⟨i, g, found, -, -, nx0, ny0, baked⟩ := findG_baked small member
  refine ⟨nx0, ny0, g, baked, ?_⟩
  unfold Pen.draw
  by_cases blank : ch = ' '
  · have space : ch.val = 32 := congrArg Char.val blank
    rw [if_pos space, if_pos blank, List.append_nil]
  · have other : ch.val ≠ 32 := fun same => blank (Char.ext same)
    rw [if_neg other, if_neg blank, found]
    rfl

/-- What is drawn of the characters so far. -/
def drawn (face : Face) (text : List Char) (y : Int) (c : UInt32) (pen : Pen) (chars : List Char) :
    List TextCall :=
  (chars.foldl (fun pen ch => pen.draw false (face.bake (cps text)) y c ch.val) pen).calls

/-- The last character is drawn where the text before it ends. -/
theorem drawn_concat (small : face.Small (cps text)) {chars : List Char} {last : Char}
    (own : last ∈ cps text) (some : ∀ ch ∈ chars, ch.val ≠ 0) (pen : Pen) :
    ∃ nx0 ny0 g, Baked face (cps text) last g nx0 ny0 ∧
      face.drawn text y c pen (chars ++ [last]) = face.drawn text y c pen chars ++
        if last = ' ' then []
        else plotGlyph (face.bake (cps text)) g
          (pen.x + textW (face.bake (cps text)) (encode chars)) y c := by
  obtain ⟨nx0, ny0, g, baked, added⟩ := draw_calls (y := y) (c := c) small own
    (chars.foldl (fun pen ch => pen.draw false (face.bake (cps text)) y c ch.val) pen)
  refine ⟨nx0, ny0, g, baked, ?_⟩
  unfold drawn
  rw [List.foldl_append, List.foldl_cons, List.foldl_nil, added, foldl_draw_x false _ y c pen some]

/-- Each pixel that is plotted is one of a character's canvas. -/
theorem mem_drawn (small : face.Small (cps text)) {chars : List Char}
    (all : ∀ ch ∈ chars, ch ∈ cps text) (some : ∀ ch ∈ chars, ch.val ≠ 0) (pen : Pen)
    (plotted : call ∈ face.drawn text y c pen chars) :
    call ∈ pen.calls ∨ ∃ before ch after col row, chars = before ++ ch :: after ∧
      col < face.canvasW ch ∧ row < face.canvasH ∧
        call = face.pixel (pen.x + textW (face.bake (cps text)) (encode before)) y c ch col row := by
  induction chars using List.reverseRecOn with
  | nil => exact .inl plotted
  | append_singleton chars last ih =>
      have nonzero (ch) (member : ch ∈ chars) := some ch (List.mem_append_left _ member)
      obtain ⟨nx0, ny0, g, baked, split⟩ := drawn_concat (y := y) (c := c) small
        (all last (List.mem_append_right _ List.mem_cons_self)) nonzero pen
      rw [split] at plotted
      rcases List.mem_append.mp plotted with earlier | new
      · refine (ih (fun ch member => all ch (List.mem_append_left _ member)) nonzero
          earlier).imp_right ?_
        rintro ⟨before, ch, after, col, row, rfl, shown⟩
        exact ⟨before, ch, after ++ [last], col, row, by simp, shown⟩
      · split at new
        · cases new
        · obtain ⟨ix, across, iy, down, -, rfl⟩ := (mem_plotGlyph small baked).mp new
          have width := baked.width
          have height := baked.height
          exact .inr ⟨chars, last, [], nx0 + ix, ny0 + iy, rfl, by omega, by omega, rfl⟩

/-- Each dark pixel of a character's canvas is plotted. -/
theorem pixel_mem_drawn (small : face.Small (cps text)) {chars before after : List Char}
    (all : ∀ ch ∈ chars, ch ∈ cps text) (some : ∀ ch ∈ chars, ch.val ≠ 0) (pen : Pen)
    (cut : chars = before ++ ch :: after) (other : ch ≠ ' ') {col row : Nat}
    (across : col < face.canvasW ch) (down : row < face.canvasH) (dark : face.Dark ch col row) :
    face.pixel (pen.x + textW (face.bake (cps text)) (encode before)) y c ch col row ∈
      face.drawn text y c pen chars := by
  induction chars using List.reverseRecOn generalizing after with
  | nil => simp at cut
  | append_singleton chars last ih =>
      have nonzero (ch) (member : ch ∈ chars) := some ch (List.mem_append_left _ member)
      obtain ⟨nx0, ny0, g, baked, split⟩ := drawn_concat (y := y) (c := c) small
        (all last (List.mem_append_right _ List.mem_cons_self)) nonzero pen
      rw [split]
      rcases List.eq_nil_or_concat' after with rfl | ⟨after, final, rfl⟩
      · obtain ⟨rfl, same⟩ := List.append_inj' cut rfl
        obtain rfl := List.singleton_inj.mp same
        refine List.mem_append_right _ ?_
        rw [if_neg other]
        have box := baked.box other col row across down dark
        refine (mem_plotGlyph small baked).mpr ⟨col - nx0, by omega, row - ny0, by omega, ?_⟩
        rw [Nat.add_sub_cancel' box.1.1, Nat.add_sub_cancel' box.2.1]
        exact ⟨fun light => absurd (light ▸ dark : (12 : UInt8) < 0) (by decide), rfl⟩
      · rw [← List.cons_append, ← List.append_assoc] at cut
        have earlier : chars = before ++ ch :: after := (List.append_inj' cut rfl).1
        exact List.mem_append_left _
          (ih (fun ch member => all ch (List.mem_append_left _ member)) nonzero earlier)

end Face

/-- **A baked font shows what has been rastered.** The HUD draws a text of baked characters so that
each dark pixel of a character's canvas is plotted with its own darkness and at its place from where
`text_w` of the text before ends, and nothing is plotted that is not a pixel of a canvas. -/
theorem drawText_baked {face : Face} {text chars : List Char} (small : face.Small (cps text))
    (all : ∀ ch ∈ chars, ch ∈ cps text) (some : ∀ ch ∈ chars, ch.val ≠ 0) (x y : Int) (c : UInt32) :
    let f := face.bake (cps text)
    let calls := drawText false f x y (encode chars) c
    (∀ call ∈ calls, ∃ before ch after col row, chars = before ++ ch :: after ∧
        col < face.canvasW ch ∧ row < face.canvasH ∧
          call = face.pixel (x + textW f (encode before)) y c ch col row) ∧
      ∀ before ch after col row, chars = before ++ ch :: after → ch ≠ ' ' →
        col < face.canvasW ch → row < face.canvasH → face.Dark ch col row →
          face.pixel (x + textW f (encode before)) y c ch col row ∈ calls := by
  intro f calls
  have same : calls = face.drawn text y c { x } chars := by
    simp only [calls, drawText, drawTextLoop]
    rw [eachCp_encode _ _ some]
    rfl
  rw [same]
  refine ⟨fun call plotted => ?_, fun before ch after col row cut other across down dark => ?_⟩
  · exact (Face.mem_drawn small all some { x } plotted).resolve_left List.not_mem_nil
  · exact Face.pixel_mem_drawn small all some { x } cut other across down dark

/-- A face whose characters are two pixels, one of them dark. -/
def dotFace : Face where
  px := 4
  ascent := 3
  descent := 1
  length _ := 3
  data _ col row := if col = 9 ∧ row = 10 then 200 else if col = 10 ∧ row = 10 then 12 else 0

/-- The small face fits the fields of the table. -/
theorem dotFace_small : dotFace.Small (cps ['b', '\n', 'a', 'b']) where
  width _ _ := by change 19 < 32768; omega
  height := by decide
  blob := by decide +kernel

/-- The dot of the second character is drawn behind the first. -/
theorem drawText_baked_dots :
    dotFace.pixel (5 + textW (dotFace.bake (cps ['b', '\n', 'a', 'b'])) (encode ['a'])) 7 0 'b' 9 10 ∈
      drawText false (dotFace.bake (cps ['b', '\n', 'a', 'b'])) 5 7 (encode ['a', 'b']) 0 :=
  (@drawText_baked dotFace _ ['a', 'b'] dotFace_small (by simp [mem_cps]) (by simp) 5 7 0).2
    ['a'] 'b' [] 9 10 rfl (by decide) (by decide) (by decide) (by decide)

/-! ## The atlas -/

/-- A glyph with pixels has its place among those of its font. -/
theorem PackedFont.mem_placements (p : PackedFont) (f : GsFont) {gs : List GsGlyph} {i k : Nat}
    {g : GsGlyph} (here : gs[k]? = some g) (pixels : ¬g.Blank) :
    p.placement f (i + k) g ∈ p.placements f i gs := by
  induction gs generalizing i k with
  | nil => cases here
  | cons first gs ih =>
      unfold placements
      cases k with
      | zero =>
          obtain rfl : first = g := Option.some.inj here
          rw [if_neg pixels]
          exact List.mem_cons_self
      | succ k =>
          have later := @ih (i + 1) k here
          rw [Nat.add_assoc, Nat.add_comm 1 k] at later
          split
          · exact later
          · exact List.mem_cons_of_mem _ later

/-- A baked font whose glyphs are narrower than the atlas can be packed: its bitmap covers them. -/
theorem Face.bake_packable {face : Face} {codes : List Char} (small : face.Small codes)
    (narrow : ∀ g ∈ (face.bake codes).g, g.w + 2 < atlasW) : Atlas.Packable (face.bake codes) := by
  intro g member
  obtain ⟨i, here⟩ := List.getElem?_of_mem member
  obtain ⟨ch, code, nx0, ny0, baked⟩ := bake_glyph small here
  exact ⟨narrow g member, baked.covered⟩

/-- At the start nothing has been placed. -/
theorem Atlas.packing_start : Atlas.Packing {} [] where
  apart := List.Pairwise.nil
  clear _ member := absurd member List.not_mem_nil
  narrow _ member := absurd member List.not_mem_nil
  printed _ member := absurd member List.not_mem_nil
  inside _ member := absurd member List.not_mem_nil

/-- **The atlas has what has been rastered.** When baked fonts whose numbers fit the table, and whose
glyphs are narrower than the atlas, have been packed and none has failed, the search finds each
character of each of them, and the part of the atlas that is sampled for it is the part of its canvas
that lies there from the pen; every dark pixel is in that part. -/
theorem atlas_baked {face : Nat → Face} {text : Nat → List Char} {calls : List PackCall}
    (small : ∀ call ∈ calls, ∀ n, call.font = some n → (face n).Small (cps (text n)))
    (narrow : ∀ call ∈ calls, ∀ n, call.font = some n →
      ∀ g ∈ ((face n).bake (cps (text n))).g, g.w + 2 < atlasW)
    (succeeded : (Atlas.packed (fun n => (face n).bake (cps (text n))) calls).fail = false) :
    let a := Atlas.packed (fun n => (face n).bake (cps (text n))) calls
    ∀ p ∈ a.fonts, ∀ ch ∈ cps (text p.f), ∃ i g,
      ((face p.f).bake (cps (text p.f))).findG ch.val = some ⟨(i : Nat), g⟩ ∧
      (∀ ix < g.w, ∀ iy < g.h, ∃ col row : Nat, col = g.xoff + Face.pad + ix ∧
        row = g.yoff + Face.pad + iy ∧
          a.cells (spot atlasW (p.x i + ix) (p.y i + iy)) = (face p.f).data ch col row) ∧
      (ch ≠ ' ' → ∀ col row, col < (face p.f).canvasW ch → row < (face p.f).canvasH →
        (face p.f).Dark ch col row → (g.xoff + Face.pad ≤ col ∧ col < g.xoff + Face.pad + g.w) ∧
          g.yoff + Face.pad ≤ row ∧ row < g.yoff + Face.pad + g.h) := by
  intro a p packed ch member
  have named : p.f ∈ calls.filterMap (·.font) := by
    have fonts := Atlas.packed_fonts succeeded
    exact List.mem_of_mem_take (fonts ▸ List.mem_map_of_mem packed)
  obtain ⟨call, called, font⟩ := List.mem_filterMap.mp named
  obtain ⟨i, g, found, -, here, nx0, ny0, baked⟩ := Face.findG_baked (small call called p.f font) member
  have left : g.xoff + Face.pad = nx0 := by rw [baked.xoff]; omega
  have top : g.yoff + Face.pad = ny0 := by rw [baked.yoff]; omega
  have printed : ∀ m ∈ a.placements fun n => (face n).bake (cps (text n)), m.Printed a.cells :=
    (Atlas.run_packing (fun call called n font =>
      Face.bake_packable (small call called n font) (narrow call called n font))
      (fun _ => Atlas.packing_start) succeeded).printed
  refine ⟨i, g, found, fun ix across iy down => ?_, fun other col row inside inside' dark => ?_⟩
  · have pixels : ¬g.Blank := fun blank => by
      rcases blank with thin | flat
      · exact absurd across (by omega)
      · exact absurd down (by omega)
    have placed : p.placement ((face p.f).bake (cps (text p.f))) i g ∈
        a.placements fun n => (face n).bake (cps (text n)) := by
      have own := p.mem_placements ((face p.f).bake (cps (text p.f))) (i := 0) here pixels
      rw [Nat.zero_add] at own
      exact List.mem_flatMap.mpr ⟨p, packed, own⟩
    have printed := printed _ placed ix iy across down
    refine ⟨nx0 + ix, ny0 + iy, by omega, by omega, ?_⟩
    exact Option.some.inj (printed.symm.trans (baked.bits ix iy across down))
  · have box := baked.box other col row inside inside' dark
    rw [left, top]
    omega

/-- The dot of the character is in the atlas. -/
theorem atlas_baked_dots : ∃ p : PackedFont, ∃ i g,
    (dotFace.bake (cps ['b', '\n', 'a', 'b'])).findG 'b'.val = some ⟨(i : Nat), g⟩ ∧
      ∀ ix < g.w, ∀ iy < g.h, ∃ col row : Nat, col = g.xoff + Face.pad + ix ∧
        row = g.yoff + Face.pad + iy ∧
          (Atlas.packed (fun _ => dotFace.bake (cps ['b', '\n', 'a', 'b']))
            [⟨some 0, true, true, true⟩]).cells (spot atlasW (p.x i + ix) (p.y i + iy)) =
              dotFace.data 'b' col row := by
  obtain ⟨p, packed⟩ := List.exists_mem_of_length_pos (l := (Atlas.packed
    (fun _ => dotFace.bake (cps ['b', '\n', 'a', 'b'])) [⟨some 0, true, true, true⟩]).fonts)
    (by decide +kernel)
  obtain ⟨i, g, found, same, -⟩ := @atlas_baked (fun _ => dotFace)
    (fun _ => ['b', '\n', 'a', 'b']) [⟨some 0, true, true, true⟩] (fun _ _ _ _ => dotFace_small)
    (fun _ _ _ _ => by decide +kernel) (by decide +kernel) p packed 'b' (by simp [mem_cps])
  exact ⟨p, i, g, found, same⟩

end Ginkgo
