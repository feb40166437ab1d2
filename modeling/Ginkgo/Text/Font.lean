import Mathlib.Data.List.Basic
import Mathlib.Tactic.Common

/-!
# Fonts

`struct gs_glyph`, `struct gs_font` and `find_g` of `ginkgo-status.c`. A font's glyphs are a
list, whose length is `n`. A pointer to a glyph is the place it points at and what is there.
-/

namespace Ginkgo

/-- `struct gs_glyph` -/
structure GsGlyph where
  cp : UInt32
  w : Nat
  h : Nat
  adv : Nat
  xoff : Int
  yoff : Int
  off : Nat
  deriving DecidableEq

/-- `struct gs_font` -/
structure GsFont where
  px : Nat
  g : List GsGlyph
  bits : List UInt8
  deriving DecidableEq

/-- A pointer into the glyphs of a font, and what it points to. -/
structure GlyphPtr where
  index : Int
  glyph : GsGlyph
  deriving DecidableEq

namespace GsFont

/-- The glyph at a place of the font, as a pointer. -/
def at? (f : GsFont) (i : Nat) : Option GlyphPtr := f.g[i]?.map fun g => ⟨i, g⟩

/-- The binary search of `find_g`, between `lo` and `hi` inclusive. -/
def bisect (f : GsFont) (cp : UInt32) (lo hi : Int) : Option GlyphPtr :=
  if lo ≤ hi then
    let mid := (lo + hi) / 2
    match f.g[mid.toNat]? with
    | none => none
    | some g =>
        if g.cp = cp then some ⟨mid, g⟩
        else if g.cp < cp then bisect f cp (mid + 1) hi
        else bisect f cp lo (mid - 1)
  else none
termination_by (hi + 1 - lo).toNat
decreasing_by all_goals omega

/-- `find_g`: a binary search, and a search from the start when that finds nothing. -/
def findG (f : GsFont) (cp : UInt32) : Option GlyphPtr :=
  match f.bisect cp 0 (f.g.length - 1) with
  | some ptr => some ptr
  | none => (f.g.findIdx? (·.cp = cp)).bind f.at?

/-- What the binary search finds is a glyph of the font with the character. -/
theorem bisect_spec (f : GsFont) (cp : UInt32) (lo hi : Int) (ptr : GlyphPtr) (low : 0 ≤ lo)
    (found : f.bisect cp lo hi = some ptr) :
    ∃ i : Nat, ptr.index = i ∧ f.g[i]? = some ptr.glyph ∧ ptr.glyph.cp = cp := by
  induction lo, hi using bisect.induct f cp with
  | case1 lo hi inside mid missing =>
      rw [bisect, if_pos inside] at found
      simp only [mid] at missing
      simp only [missing, reduceCtorEq] at found
  | case2 lo hi inside mid g here same =>
      simp only [mid] at here
      rw [bisect, if_pos inside] at found
      simp only [here, same, ↓reduceIte, Option.some.injEq] at found
      subst found
      exact ⟨mid.toNat, by dsimp only [mid]; omega, here, same⟩
  | case3 lo hi inside mid g here other small ih =>
      simp only [mid] at here
      rw [bisect, if_pos inside] at found
      simp only [here, other, small, ↓reduceIte] at found
      exact ih (by dsimp only [mid]; omega) found
  | case4 lo hi inside mid g here other large ih =>
      simp only [mid] at here
      rw [bisect, if_pos inside] at found
      simp only [here, other, large, ↓reduceIte] at found
      exact ih low found
  | case5 lo hi outside =>
      rw [bisect, if_neg outside] at found
      cases found

/-- **What `find_g` finds is a glyph of the font for the character.** -/
theorem findG_spec {f : GsFont} {cp : UInt32} {ptr : GlyphPtr} (found : f.findG cp = some ptr) :
    ∃ i : Nat, ptr.index = i ∧ f.g[i]? = some ptr.glyph ∧ ptr.glyph.cp = cp := by
  unfold findG at found
  split at found
  · next other bisected =>
      exact f.bisect_spec cp _ _ ptr (Int.le_refl 0) (bisected.trans found)
  · obtain ⟨i, first, here⟩ := Option.bind_eq_some_iff.mp found
    obtain ⟨g, stored, rfl⟩ := Option.map_eq_some_iff.mp here
    obtain ⟨inside, same, -⟩ := List.findIdx?_eq_some_iff_getElem.mp first
    refine ⟨i, rfl, stored, ?_⟩
    rw [List.getElem?_eq_getElem inside, Option.some.injEq] at stored
    rw [← stored]
    exact of_decide_eq_true same

/-- **`find_g` finds nothing only when the font has no glyph for the character**, in whatever
order its glyphs are. -/
theorem findG_eq_none_iff (f : GsFont) (cp : UInt32) :
    f.findG cp = none ↔ ∀ g ∈ f.g, g.cp ≠ cp := by
  constructor
  · intro missing
    unfold findG at missing
    split at missing
    · cases missing
    · rw [Option.bind_eq_none_iff] at missing
      have nowhere : f.g.findIdx? (·.cp = cp) = none := by
        rw [Option.eq_none_iff_forall_ne_some]
        intro i first
        obtain ⟨inside, -, -⟩ := List.findIdx?_eq_some_iff_getElem.mp first
        have := missing i first
        rw [at?, List.getElem?_eq_getElem inside] at this
        cases this
      intro g member
      simpa using List.findIdx?_eq_none_iff.mp nowhere g member
  · intro absent
    rw [Option.eq_none_iff_forall_ne_some]
    intro ptr found
    obtain ⟨i, -, stored, same⟩ := findG_spec found
    exact absent ptr.glyph (List.mem_of_getElem? stored) same

end GsFont

end Ginkgo
