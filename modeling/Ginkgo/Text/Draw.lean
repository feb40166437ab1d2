import Ginkgo.Text.Font
import Ginkgo.Text.Utf8

/-!
# Measuring and drawing text

`text_w`, `text_ink` and `draw_text` of `ginkgo-status.c`, with `mix`. What `draw_text` draws
is the list of its calls. Each function is its loop's state, without the place where the loop
has stopped; the loop itself keeps that place.

`u8next_reads` is what all this rests on: the encoding of characters is decoded, every call
moves on inside the string, and the three functions go through the whole string exactly when
no form before the last one spells zero at length.
-/

namespace Ginkgo

open CText

/-- `px` -/
def px (r g b : UInt32) : UInt32 := r <<< 16 ||| g <<< 8 ||| b

/-- `mix`, with an `alpha` of at most 255. -/
def mix (a b : UInt32) (alpha : Nat) : UInt32 :=
  let channel (shift : UInt32) : UInt32 :=
    let source := ((a >>> shift) &&& 255).toNat
    let target := ((b >>> shift) &&& 255).toNat
    UInt32.ofNat ((target * alpha + source * (255 - alpha)) / 255)
  px (channel 16) (channel 8) (channel 0)

/-- How far a character moves on. -/
def GsFont.advance (f : GsFont) (cp : UInt32) : Nat :=
  if cp = 32 then f.px / 3
  else
    match f.findG cp with
    | none => f.px / 2
    | some g => g.glyph.adv

/-- The loop of `text_w`. -/
def textWLoop (f : GsFont) (s : Text) : Nat × Text := eachCp (fun w cp => w + f.advance cp) 0 s

/-- `text_w`. -/
def textW (f : GsFont) (s : Text) : Nat := (textWLoop f s).1

/-- The width so far and the rows of the ink. -/
structure Ink where
  w : Nat := 0
  t : Int := 10000
  b : Int := -10000

/-- The body of the loop of `text_ink`. -/
def Ink.add (f : GsFont) (ink : Ink) (cp : UInt32) : Ink :=
  if cp = 32 then { ink with w := ink.w + f.px / 3 }
  else
    match f.findG cp with
    | none => { ink with w := ink.w + f.px / 2 }
    | some ⟨_, g⟩ =>
        let ink := if 0 < g.h then
            { ink with
              t := if g.yoff < ink.t then g.yoff else ink.t
              b := if ink.b < g.yoff + g.h then g.yoff + g.h else ink.b }
          else ink
        { ink with w := ink.w + g.adv }

/-- That loop. -/
def textInkLoop (f : GsFont) (s : Text) : Ink × Text := eachCp (Ink.add f) {} s

/-- `text_ink`: the width, the first row of the ink and the row behind the last one. -/
def textInk (f : GsFont) (s : Text) : Nat × Int × Int :=
  let ink := (textInkLoop f s).1
  if ink.b ≤ ink.t then (ink.w, 0, f.px) else (ink.w, ink.t, ink.b)

/-- What `draw_text` calls: a rectangle or a glyph of the GPU, or a pixel. -/
inductive TextCall where
  | fillRect (x y w h : Int) (c : UInt32)
  | glyph (f : GsFont) (g : GlyphPtr) (x y : Int) (c : UInt32)
  | plot (x y : Int) (c : UInt32) (a : UInt8)
  deriving DecidableEq

/-- Where the next character goes, and the calls so far. -/
structure Pen where
  x : Int
  calls : List TextCall := []

/-- The pixels of a glyph on the software path. -/
def plotGlyph (f : GsFont) (g : GsGlyph) (x y : Int) (c : UInt32) : List TextCall :=
  (List.range g.h).flatMap fun iy =>
    (List.range g.w).filterMap fun ix =>
      let a := f.bits.getD ((g.off + iy * g.w + ix) % 2 ^ 32) 0
      if a = 0 then none else some (.plot (x + g.xoff + ix) (y + g.yoff + iy) c a)

/-- The body of the loop of `draw_text`. -/
def Pen.draw (useGl : Bool) (f : GsFont) (y : Int) (c : UInt32) (pen : Pen) (cp : UInt32) : Pen :=
  if cp = 32 then { pen with x := pen.x + (f.px / 3 : Nat) }
  else
    match f.findG cp with
    | none =>
        { x := pen.x + (f.px / 2 : Nat)
          calls := pen.calls ++
            [.fillRect (pen.x + 2) (y + 4) ((f.px / 2 : Nat) - 4) (f.px - 8) (mix c 0 80)] }
    | some g =>
        { x := pen.x + g.glyph.adv
          calls := pen.calls ++
            if useGl then [.glyph f g pen.x y c] else plotGlyph f g.glyph pen.x y c }

/-- That loop. -/
def drawTextLoop (useGl : Bool) (f : GsFont) (x y : Int) (s : Text) (c : UInt32) : Pen × Text :=
  eachCp (Pen.draw useGl f y c) { x } s

/-- `draw_text`. -/
def drawText (useGl : Bool) (f : GsFont) (x y : Int) (s : Text) (c : UInt32) : List TextCall :=
  (drawTextLoop useGl f x y s c).1.calls

/-! ## Going through a string -/

/-- The three functions go through the whole string and stop at its terminator. -/
def GoesThrough (f : GsFont) (s : Text) : Prop :=
  (textWLoop f s).2 = [] ∧ (textInkLoop f s).2 = [] ∧
    ∀ useGl x y c, (drawTextLoop useGl f x y s c).2 = []

/-- **What `u8next` does.** It decodes what has been encoded and then returns zero. At any place
of any string it stays at the terminator or goes on by one to four bytes and not beyond the
terminator. And the functions that read a string go through all of it exactly when no form
before the last one is a zero form. -/
theorem u8next_reads {chars : List Char} (some : ∀ c ∈ chars, c.val ≠ 0) (f : GsFont)
    {s : Text} (clean : 0 ∉ s) :
    (decoded (encode chars) = (chars.map (·.val), []) ∧ u8next [] = (0, [])) ∧
      (∀ t, t <:+ s → t = [] ∧ u8next t = (0, t) ∨
        t ≠ [] ∧ ∃ n, 1 ≤ n ∧ n ≤ 4 ∧ n ≤ t.length ∧ (u8next t).2 = t.drop n) ∧
      (GoesThrough f s ↔ ∀ form ∈ (forms s).dropLast, ¬ZeroForm form) := by
  refine ⟨⟨decoded_encode some, u8next_nil⟩, ?_, ?_⟩
  · intro t suffix
    exact u8next_moves fun zero => clean (suffix.subset zero)
  · unfold GoesThrough textWLoop textInkLoop drawTextLoop
    simp only [eachCp_rest_iff _ _ clean, forall_const, and_self]

/-- A font without glyphs. -/
def bareFont : GsFont := ⟨8, [], []⟩

/-- An accent and an ellipsis are decoded; a form that spells zero stops the loop before the
end. -/
theorem u8next_reads_accent :
    decoded (encode ['a', 'é', '…']) = ([97, 233, 8230], []) ∧
      (GoesThrough bareFont [0xc0, 0x80, 65] ↔
        ∀ form ∈ (forms [0xc0, 0x80, 65]).dropLast, ¬ZeroForm form) := by
  have clean : (0 : UInt8) ∉ [0xc0, 0x80, 65] := by decide
  obtain ⟨⟨reads, -⟩, -, through⟩ :=
    @u8next_reads ['a', 'é', '…'] (by simp) bareFont _ clean
  exact ⟨reads, through⟩

/-- The zero of two bytes in front of a letter: the loops stop before the letter. -/
theorem overlong_not_through :
    ¬∀ (f : GsFont) (s : Text), 0 ∉ s → GoesThrough f s := by
  intro all
  obtain ⟨width, -, -⟩ := all bareFont [0xc0, 0x80, 65] (by decide)
  have clean : (0 : UInt8) ∉ [0xc0, 0x80, 65] := by decide
  have sound := (eachCp_rest_iff _ _ clean).mp width [0xc0, 0x80] (by simp [forms, formLength])
  exact sound ⟨.inl rfl, by simp⟩

end Ginkgo
