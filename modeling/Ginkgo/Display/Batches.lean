import Ginkgo.Display.Atlas
import Ginkgo.Transition.Batch
import Mathlib.Data.Rat.Cast.Order
import Mathlib.Data.UInt
import Mathlib.Tactic.FieldSimp
import Mathlib.Tactic.Linarith

/-!
# The display list

`hud_gl_begin`, the drawing calls and `hud_gl_present` of `ginkgo-status-gpu.c`, as far as
they fill the buffer of vertices and send it, and the part of `hud_gl_finish` that makes the
drawing `ready`. The type of the shader's numbers is left open: nothing depends on how a
`float` rounds. `DrawList.uniform` is what the program's `u_view` holds, and
`DrawList.drawn` is history: the batches that `glDrawArrays` has been given, each with the
`u_view` that it was drawn with.

`frame_batches` is the result: the batches of a frame are the vertices of its quads, in the
order in which they were drawn, cut between quads, and each under the view in force when it
was emitted.
-/

namespace Ginkgo

open Transition

/-- `MAX_VTX` -/
def maxVtx : Nat := 24576

/-- A vertex: its place, its texture coordinates and its colour. -/
structure Vtx (F : Type) where
  x : F
  y : F
  u : F
  v : F
  r : F
  g : F
  b : F
  a : F
  ew : F
  eh : F
  er : F
  em : F

/-- `view_scale`, `view_ox` and `view_oy`. -/
structure GlView (F : Type) where
  scale : F
  xoff : F
  yoff : F

/-- The answers of GL to `build_program`. -/
structure Gl where
  links : Bool
  getUniformLocation : String → Int

/-- What the drawing calls keep: the atlas, the view, the vertices that wait, and what has been
drawn. -/
structure DrawList (F : Type) where
  atlas : Atlas
  view : GlView F
  uniform : GlView F
  uView : Int := 0
  ready : Bool := false
  vtx : List (Vtx F) := []
  statNverts : Nat := 0
  statNflushes : Nat := 0
  drawn : List (Batch (GlView F) (Vtx F)) := []

/-- The arguments of `emit_quad`. -/
structure Quad (F : Type) where
  x0 : F
  y0 : F
  x1 : F
  y1 : F
  u0 : F
  v0 : F
  u1 : F
  v1 : F
  r : F
  g : F
  b : F
  a : F
  ew : F
  eh : F
  er : F
  em : F

/-- A corner of the rectangle that a quad covers, with the texture coordinates that belong to
it. -/
def Quad.corner {F : Type} (q : Quad F) (right below : Bool) : Vtx F where
  x := bif right then q.x1 else q.x0
  y := bif below then q.y1 else q.y0
  u := bif right then q.u1 else q.u0
  v := bif below then q.v1 else q.v0
  r := q.r
  g := q.g
  b := q.b
  a := q.a
  ew := q.ew
  eh := q.eh
  er := q.er
  em := q.em

/-- What is to be drawn of a quad: the triangle at its first corner and the one at the opposite
corner, which together are the rectangle. This is the specification; the code is
`DrawList.emitQuad`. -/
def Quad.triangles {F : Type} (q : Quad F) : List (Vtx F) :=
  [q.corner false false, q.corner true false, q.corner false true] ++
    [q.corner true false, q.corner true true, q.corner false true]

/-- A drawing call. A font is given by its address, and a glyph by a pointer. -/
inductive DrawOp (F : Type) where
  | fillRound (x y w h r : Int) (c : UInt32)
  | fillRectA (x y w h : Int) (c : UInt32) (a : Int)
  | fillRect (x y w h : Int) (c : UInt32)
  | glyph (f : Option Nat) (g : Option GlyphPtr) (x y : Int) (c : UInt32)
  | setView (scale xoff yoff : F)

/-- The calls of the program in their order. -/
inductive GlCall (F : Type) where
  | packFont (call : PackCall)
  | finish
  | begin
  | draw (op : DrawOp F)
  | present

section Calls

variable {F : Type} [Add F] [Sub F] [Div F] [LT F] [DecidableLT F] [IntCast F] [OfScientific F]

/-- The view that `hud_gl_begin` sets. -/
def plainView : GlView F := ⟨(1 : Int), (0 : Int), (0 : Int)⟩

/-- One colour of `rgba`. -/
def channel (c shift : UInt32) : F := ((((c >>> shift) &&& 255).toNat : Int) : F) / 255.0

/-- The quad of `hud_gl_fill_round`, unless that returns before it emits one. -/
def fillRoundQuad (x y w h r : Int) (c : UInt32) : Option (Quad F) :=
  if w < 1 ∨ h < 1 then none
  else
    let r := if r < 0 then 0 else r
    let r := if w < r * 2 then w / 2 else r
    let r := if h < r * 2 then h / 2 else r
    some ⟨x, y, (x + w : Int), (y + h : Int), (0 : Int), (0 : Int), w, h,
      channel c 16, channel c 8, channel c 0, 1.0, w, h, r, 0.0⟩

/-- The quad of `hud_gl_fill_rect_a`. -/
def fillRectAQuad (x y w h : Int) (c : UInt32) (a : Int) : Option (Quad F) :=
  if w < 1 ∨ h < 1 ∨ a ≤ 0 then none
  else
    let a := if 255 < a then 255 else a
    some ⟨x, y, (x + w : Int), (y + h : Int), (0 : Int), (0 : Int), w, h,
      channel c 16, channel c 8, channel c 0, (a : F) / 255.0, w, h, 0.0, 0.0⟩

/-- The quad of `hud_gl_fill_rect`. -/
def fillRectQuad (x y w h : Int) (c : UInt32) : Option (Quad F) := fillRectAQuad x y w h c 255

/-- The quad of `hud_gl_glyph`: texture coordinates from the middle of the glyph's first cell
of the atlas to the middle of its last one. -/
def glyphQuad (font : Nat → GsFont) (fonts : List PackedFont) (f : Option Nat)
    (g : Option GlyphPtr) (x y : Int) (c : UInt32) : Option (Quad F) :=
  match f, g with
  | some f, some ⟨idx, g⟩ =>
      if g.w < 1 ∨ g.h < 1 then none
      else if idx < 0 ∨ (font f).g.length ≤ idx then none
      else
        match fonts.find? (·.f = f) with
        | none => none
        | some p =>
            let i := idx.toNat
            let dx := x + g.xoff
            let dy := y + g.yoff
            some ⟨dx, dy, (dx + g.w : Int), (dy + g.h : Int),
              (((p.x i : Int) : F) + 0.5) / (atlasW : Int),
              (((p.y i : Int) : F) + 0.5) / (atlasH : Int),
              (((p.x i + g.w : Int) : F) - 0.5) / (atlasW : Int),
              (((p.y i + g.h : Int) : F) - 0.5) / (atlasH : Int),
              channel c 16, channel c 8, channel c 0, 1.0, (0 : Int), (0 : Int), (0 : Int), 1.0⟩
  | _, _ => none

/-- The view after a call. -/
def DrawOp.view (view : GlView F) : DrawOp F → GlView F
  | setView scale xoff yoff => ⟨if scale < 0.05 then 0.05 else scale, xoff, yoff⟩
  | _ => view

/-- The quad that a call emits. -/
def DrawOp.quad (font : Nat → GsFont) (fonts : List PackedFont) : DrawOp F → Option (Quad F)
  | fillRound x y w h r c => fillRoundQuad x y w h r c
  | fillRectA x y w h c a => fillRectAQuad x y w h c a
  | fillRect x y w h c => fillRectQuad x y w h c
  | glyph f g x y c => glyphQuad font fonts f g x y c
  | setView _ _ _ => none

/-- The quads of a sequence of calls, each with the view in force when it is emitted. -/
def emitted (font : Nat → GsFont) (fonts : List PackedFont) :
    GlView F → List (DrawOp F) → List (GlView F × Quad F)
  | _, [] => []
  | view, op :: ops =>
      (op.quad font fonts).toList.map (view, ·) ++ emitted font fonts (op.view view) ops

namespace DrawList

/-- `flush_batch`. -/
def flushBatch (s : DrawList F) : DrawList F :=
  if s.vtx.length < 3 ∨ s.ready = false then s
  else
    let uniform := if 0 ≤ s.uView then s.view else s.uniform
    { s with
      uniform
      vtx := []
      statNverts := s.statNverts + s.vtx.length
      statNflushes := s.statNflushes + 1
      drawn := s.drawn ++ [⟨uniform, s.vtx⟩] }

/-- `emit_v`. -/
def emitV (s : DrawList F) (p : Vtx F) : DrawList F :=
  let s := if maxVtx ≤ s.vtx.length then s.flushBatch else s
  { s with vtx := s.vtx ++ [p] }

/-- `emit_quad`. -/
def emitQuad (s : DrawList F) (q : Quad F) : DrawList F :=
  let s := s.emitV ⟨q.x0, q.y0, q.u0, q.v0, q.r, q.g, q.b, q.a, q.ew, q.eh, q.er, q.em⟩
  let s := s.emitV ⟨q.x1, q.y0, q.u1, q.v0, q.r, q.g, q.b, q.a, q.ew, q.eh, q.er, q.em⟩
  let s := s.emitV ⟨q.x0, q.y1, q.u0, q.v1, q.r, q.g, q.b, q.a, q.ew, q.eh, q.er, q.em⟩
  let s := s.emitV ⟨q.x1, q.y0, q.u1, q.v0, q.r, q.g, q.b, q.a, q.ew, q.eh, q.er, q.em⟩
  let s := s.emitV ⟨q.x1, q.y1, q.u1, q.v1, q.r, q.g, q.b, q.a, q.ew, q.eh, q.er, q.em⟩
  s.emitV ⟨q.x0, q.y1, q.u0, q.v1, q.r, q.g, q.b, q.a, q.ew, q.eh, q.er, q.em⟩

/-- `hud_gl_begin`. -/
def begin (s : DrawList F) : DrawList F :=
  { s with vtx := [], statNverts := 0, statNflushes := 0, view := plainView }

/-- `hud_gl_set_view`. -/
def setView (scale xoff yoff : F) (s : DrawList F) : DrawList F :=
  { s.flushBatch with view := ⟨if scale < 0.05 then 0.05 else scale, xoff, yoff⟩ }

/-- A drawing call: it sets the view, or it emits its quad. -/
def draw (font : Nat → GsFont) (s : DrawList F) : DrawOp F → DrawList F
  | .setView scale xoff yoff => s.setView scale xoff yoff
  | op =>
      match op.quad font s.atlas.fonts with
      | none => s
      | some q => s.emitQuad q

/-- `hud_gl_present`, up to the swap of the buffers. -/
def present (s : DrawList F) : DrawList F := s.flushBatch

/-- `hud_gl_finish`, with `build_program`. -/
def finish (gl : Gl) (s : DrawList F) : DrawList F :=
  if s.atlas.fail ∨ s.atlas.allocated = false then s
  else if gl.links = false then s
  else
    { s with
      uView := gl.getUniformLocation "u_view"
      atlas := { s.atlas with allocated := false }
      ready := true }

/-- One call. -/
def step (font : Nat → GsFont) (gl : Gl) (s : DrawList F) : GlCall F → DrawList F
  | .packFont call => { s with atlas := s.atlas.packFont font call }
  | .finish => s.finish gl
  | .begin => s.begin
  | .draw op => s.draw font op
  | .present => s.present

/-- The state when the program starts. -/
def start : DrawList F where
  atlas := {}
  view := plainView
  uniform := ⟨(0 : Int), (0 : Int), (0 : Int)⟩

/-- A frame: `hud_gl_begin`, drawing calls, `hud_gl_present`. -/
def frame (font : Nat → GsFont) (s : DrawList F) (ops : List (DrawOp F)) : DrawList F :=
  (run (draw font) s.begin ops).present

end DrawList

end Calls

/-! ## The buffer as a batcher -/

namespace DrawList

section Buffer

variable {F : Type}

/-- Drawing is possible, and the program has `u_view`. -/
def Live (s : DrawList F) : Prop := s.ready = true ∧ 0 ≤ s.uView

/-- The list behaves like the batcher, after what had been drawn before. -/
structure Like (before : List (Batch (GlView F) (Vtx F))) (s : DrawList F)
    (b : Batcher (GlView F) (Vtx F)) : Prop where
  live : s.Live
  view : s.view = b.setting
  vtx : s.vtx = b.pending
  drawn : s.drawn = before ++ b.sent

variable {before : List (Batch (GlView F) (Vtx F))} {s : DrawList F}
  {b : Batcher (GlView F) (Vtx F)}

/-- Flushing is what the batcher does. -/
theorem Like.flushBatch (like : Like before s b) : Like before s.flushBatch (b.flush 3) := by
  obtain ⟨⟨ready, active⟩, view, vtx, drawn⟩ := like
  unfold DrawList.flushBatch Batcher.flush
  by_cases few : s.vtx.length < 3
  · rw [if_pos (.inl few), if_pos (vtx ▸ few)]
    exact ⟨⟨ready, active⟩, view, vtx, drawn⟩
  · have sends : ¬(s.vtx.length < 3 ∨ s.ready = false) := by
      simp only [few, ready, Bool.true_eq_false, or_self, not_false_eq_true]
    have many : ¬b.pending.length < 3 := vtx ▸ few
    rw [if_neg sends, if_neg many]
    refine ⟨⟨ready, active⟩, view, rfl, ?_⟩
    simp only [active, ↓reduceIte, drawn, view, vtx, List.append_assoc]

/-- `emit_v` adds a vertex to the batch. -/
theorem Like.emitV (like : Like before s b) (p : Vtx F) :
    Like before (s.emitV p) (b.push 3 maxVtx p) := by
  have flushed : Like before (if maxVtx ≤ s.vtx.length then s.flushBatch else s)
      (if maxVtx ≤ b.pending.length then b.flush 3 else b) := by
    rw [like.vtx]
    split
    · exact like.flushBatch
    · exact like
  exact ⟨flushed.live, flushed.view, congrArg (· ++ [p]) flushed.vtx, flushed.drawn⟩

/-- The six calls of `emit_quad` are the corners of the quad's two triangles. -/
theorem emitQuad_eq (s : DrawList F) (q : Quad F) :
    s.emitQuad q = q.triangles.foldl DrawList.emitV s :=
  rfl

/-- `emit_quad` adds the vertices of its triangles. -/
theorem Like.emitQuad (like : Like before s b) (q : Quad F) :
    Like before (s.emitQuad q) (b.pushAll 3 maxVtx q.triangles) := by
  rw [emitQuad_eq]
  unfold Batcher.pushAll
  generalize q.triangles = vertices
  induction vertices generalizing s b with
  | nil => exact like
  | cons p vertices ih => exact ih (like.emitV p)

/-- A flush and a new view. -/
theorem Like.switch (like : Like before s b) (view : GlView F) :
    Like before { s.flushBatch with view } (b.switch 3 view) :=
  have flushed := like.flushBatch
  ⟨flushed.live, rfl, flushed.vtx, flushed.drawn⟩

/-- The second state has the atlas and the program of the first. -/
structure Keeps (s s' : DrawList F) : Prop where
  atlas : s'.atlas = s.atlas
  uView : s'.uView = s.uView
  ready : s'.ready = s.ready

/-- Flushing leaves the atlas and the program. -/
theorem flushBatch_keeps (s : DrawList F) : s.Keeps s.flushBatch := by
  unfold flushBatch
  split <;> exact ⟨rfl, rfl, rfl⟩

theorem emitV_keeps (s : DrawList F) (p : Vtx F) : s.Keeps (s.emitV p) := by
  unfold emitV
  dsimp only
  split
  · have flushed := flushBatch_keeps s
    exact ⟨flushed.atlas, flushed.uView, flushed.ready⟩
  · exact ⟨rfl, rfl, rfl⟩

theorem emitQuad_keeps (s : DrawList F) (q : Quad F) : s.Keeps (s.emitQuad q) := by
  rw [emitQuad_eq]
  generalize q.triangles = vertices
  induction vertices generalizing s with
  | nil => exact ⟨rfl, rfl, rfl⟩
  | cons p vertices ih =>
      have first := emitV_keeps s p
      have rest := ih (s.emitV p)
      exact ⟨rest.atlas.trans first.atlas, rest.uView.trans first.uView,
        rest.ready.trans first.ready⟩

end Buffer

end DrawList

/-! ## Frames -/

/-- The vertices of quads, each with the view of its quad. -/
def vertexViews {F : Type} (quads : List (GlView F × Quad F)) : List (GlView F × Vtx F) :=
  quads.flatMap fun e => e.2.triangles.map (e.1, ·)

section Frames

variable {F : Type} [Add F] [Sub F] [Div F] [LT F] [DecidableLT F] [IntCast F] [OfScientific F]

namespace DrawList

variable (font : Nat → GsFont) {before : List (Batch (GlView F) (Vtx F))} {s : DrawList F}
  {b : Batcher (GlView F) (Vtx F)}

/-- A drawing call adds the vertices of its quad under the view in force, and leaves whole
quads in the buffer and in every batch. -/
theorem Like.draw (like : Like before s b) (whole : b.Whole 6 maxVtx) (op : DrawOp F) :
    ∃ b', Like before (s.draw font op) b' ∧ b'.Whole 6 maxVtx ∧
      b'.setting = op.view b.setting ∧
      b'.out = b.out ++
        vertexViews ((op.quad font s.atlas.fonts).toList.map (b.setting, ·)) := by
  have quad (emits : s.draw font op = match op.quad font s.atlas.fonts with
      | none => s
      | some q => s.emitQuad q) (same : op.view b.setting = b.setting) :
      ∃ b', Like before (s.draw font op) b' ∧ b'.Whole 6 maxVtx ∧
        b'.setting = op.view b.setting ∧
        b'.out = b.out ++
          vertexViews ((op.quad font s.atlas.fonts).toList.map (b.setting, ·)) := by
    rw [emits]
    cases op.quad font s.atlas.fonts with
    | none => exact ⟨b, like, whole, same.symm, (List.append_nil _).symm⟩
    | some q =>
        refine ⟨b.pushAll 3 maxVtx q.triangles, like.emitQuad q,
          whole.pushAll rfl (by decide) (by decide) (by decide),
          (Batcher.pushAll_setting _).trans same.symm, ?_⟩
        rw [Batcher.pushAll_out]
        simp only [vertexViews, Option.toList_some, List.map_cons, List.map_nil,
          List.flatMap_cons, List.flatMap_nil, List.append_nil]
  cases op with
  | setView scale xoff yoff =>
      exact ⟨_, like.switch _, whole.switch 3 _, rfl,
        (whole.switch_out (by decide) _).trans (List.append_nil _).symm⟩
  | fillRound x y w h r c => exact quad rfl rfl
  | fillRectA x y w h c a => exact quad rfl rfl
  | fillRect x y w h c => exact quad rfl rfl
  | glyph f g x y c => exact quad rfl rfl

theorem draw_keeps (s : DrawList F) (op : DrawOp F) : s.Keeps (s.draw font op) := by
  unfold draw
  split
  · have flushed := flushBatch_keeps s
    exact ⟨flushed.atlas, flushed.uView, flushed.ready⟩
  · split
    · exact ⟨rfl, rfl, rfl⟩
    · exact emitQuad_keeps s _

/-- **A sequence of drawing calls** adds the vertices of its quads, each under its view. -/
theorem Like.run (like : Like before s b) (whole : b.Whole 6 maxVtx) (ops : List (DrawOp F)) :
    ∃ b', Like before (Transition.run (DrawList.draw font) s ops) b' ∧ b'.Whole 6 maxVtx ∧
      b'.out = b.out ++ vertexViews (emitted font s.atlas.fonts b.setting ops) := by
  induction ops generalizing s b with
  | nil => exact ⟨b, like, whole, (List.append_nil _).symm⟩
  | cons op ops ih =>
      obtain ⟨b₁, like₁, whole₁, setting₁, out₁⟩ := like.draw font whole op
      obtain ⟨b₂, like₂, whole₂, out₂⟩ := ih like₁ whole₁
      refine ⟨b₂, like₂, whole₂, ?_⟩
      rw [out₂, out₁, setting₁, (draw_keeps font s op).atlas, List.append_assoc]
      simp only [emitted, vertexViews, List.flatMap_append]

/-- The drawing is ready only when the program has been linked and asked for `u_view`. -/
def Linked (gl : Gl) (s : DrawList F) : Prop :=
  s.ready = true → s.uView = gl.getUniformLocation "u_view"

variable {font}

/-- A call keeps the program linked. -/
theorem step_linked {gl : Gl} {s : DrawList F} (linked : s.Linked gl) (call : GlCall F) :
    (s.step font gl call).Linked gl := by
  have kept {s' : DrawList F} (keeps : s.Keeps s') : s'.Linked gl := fun ready =>
    keeps.uView.trans (linked (keeps.ready.symm.trans ready))
  cases call with
  | packFont call => exact linked
  | finish =>
      unfold step finish
      dsimp only
      split
      · exact linked
      · split
        · exact linked
        · exact fun _ => rfl
  | begin => exact linked
  | draw op => exact kept (draw_keeps font s op)
  | present => exact kept (flushBatch_keeps s)

/-- **Batching loses, splits and misplaces nothing.** Take any calls from the start of the
program on, after which drawing is ready, and any frame then; GL knows the uniform `u_view`,
which the vertex shader uses. The batches that the frame hands to `glDrawArrays` are, one
after the other, the vertices of the quads that it emits; each is made of whole quads, so of
whole triangles, and has at most `maxVtx` vertices; and every vertex is drawn with the view in
force when its quad was emitted. -/
theorem frame_batches {gl : Gl} (active : 0 ≤ gl.getUniformLocation "u_view")
    {before : List (GlCall F)} {s : DrawList F}
    (reached : s = Transition.run (step font gl) start before) (ready : s.ready = true)
    (ops : List (DrawOp F)) :
    ∃ batches : List (Batch (GlView F) (Vtx F)),
      (s.frame font ops).drawn = s.drawn ++ batches ∧
      batches.flatMap (·.items) =
        (emitted font s.atlas.fonts plainView ops).flatMap (·.2.triangles) ∧
      (∀ batch ∈ batches, 6 ∣ batch.items.length ∧ batch.items.length ≤ maxVtx) ∧
      Batcher.tagged batches = vertexViews (emitted font s.atlas.fonts plainView ops) := by
  have initial : (start : DrawList F).Linked gl := nofun
  have linked : s.Linked gl := by
    rw [reached]
    exact run_of_invariant
      (fun (s : DrawList F) (call : GlCall F) (linked : s.Linked gl) => step_linked linked call)
      initial before
  have begun : Like s.drawn s.begin ⟨plainView, [], []⟩ :=
    ⟨⟨ready, (linked ready).symm ▸ active⟩, rfl, rfl, (List.append_nil _).symm⟩
  obtain ⟨b, like, whole, out⟩ :=
    begun.run font ⟨Nat.dvd_zero 6, Nat.zero_le _, nofun⟩ ops
  have sent : Batcher.tagged (b.flush 3).sent =
      vertexViews (emitted font s.atlas.fonts plainView ops) :=
    (whole.tagged_sent (by decide)).trans out
  refine ⟨(b.flush 3).sent, like.flushBatch.drawn, ?_, (whole.flush 3).sent, sent⟩
  rw [← Batcher.tagged_map_snd, sent]
  simp only [vertexViews, List.map_flatMap, List.map_map, Function.comp_def, List.map_id']

end DrawList

end Frames

namespace DrawList

/-- A font with a dot. -/
def dotFonts : Nat → GsFont := fun _ => Atlas.dotFont

/-- GL with a program that has its uniforms at the first places. -/
def plainGl : Gl := ⟨true, fun _ => 0⟩

/-- The start of the program: one font and `hud_gl_finish`. -/
def dotStart : List (GlCall ℚ) := [.packFont ⟨some 0, true, true, true⟩, .finish]

/-- After the start drawing is ready. -/
theorem dotStart_ready :
    (Transition.run (step dotFonts plainGl) (start : DrawList ℚ) dotStart).ready =
      true := by
  decide +kernel

/-- A frame with a glyph, another view and a rectangle. -/
theorem frame_batches_dots :
    ∃ batches : List (Batch (GlView ℚ) (Vtx ℚ)),
      ((Transition.run (step dotFonts plainGl) start dotStart).frame dotFonts
        [.glyph (some 0) (some ⟨1, 46, 2, 1, 3, 0, 6, 1⟩) 5 5 0xffffff,
         .setView 1 0 (-28),
         .fillRect 0 0 10 10 0]).drawn =
        (Transition.run (step dotFonts plainGl) start dotStart).drawn ++ batches ∧
      ∀ batch ∈ batches, 6 ∣ batch.items.length ∧ batch.items.length ≤ maxVtx := by
  obtain ⟨batches, drawn, -, whole, -⟩ := @frame_batches ℚ _ _ _ _ _ _ _ dotFonts
    plainGl (by decide) dotStart _ rfl dotStart_ready
    [.glyph (some 0) (some ⟨1, 46, 2, 1, 3, 0, 6, 1⟩) 5 5 0xffffff,
     .setView 1 0 (-28),
     .fillRect 0 0 10 10 0]
  exact ⟨batches, drawn, whole⟩

end DrawList

/-! ## What a glyph samples -/

/-- **A glyph samples what has been packed for it.** The cells of the atlas whose middle lies
in the texture rectangle of the glyph's quad are the ones that the glyph covers. -/
theorem glyphQuad_samples {font : Nat → GsFont} {fonts : List PackedFont} {f : Nat} {idx : Int}
    {g : GsGlyph} {x y : Int} {c : UInt32} {q : Quad ℚ}
    (emits : glyphQuad font fonts (some f) (some ⟨idx, g⟩) x y c = some q) :
    ∃ p ∈ fonts, p.f = f ∧ ∀ col row : Nat,
      (q.u0 * atlasW ≤ col + 1 / 2 ∧ col + 1 / 2 ≤ q.u1 * atlasW ∧
        q.v0 * atlasH ≤ row + 1 / 2 ∧ row + 1 / 2 ≤ q.v1 * atlasH) ↔
      (p.placement (font f) idx.toNat g).rect.Covers col row := by
  simp only [glyphQuad] at emits
  split at emits
  · cases emits
  · split at emits
    · cases emits
    · split at emits
      · cases emits
      · next p found =>
          cases emits
          have same := List.find?_some found
          refine ⟨p, List.mem_of_find?_eq_some found, of_decide_eq_true same,
            fun col row => ?_⟩
          -- A middle lies between the first and the last middle when the cell does.
          have middle (first count cell size : Nat) (positive : 0 < size) :
              (((first : Int) : ℚ) + 0.5) / ((size : Int) : ℚ) * size ≤ cell + 1 / 2 ∧
                (cell : ℚ) + 1 / 2 ≤
                  (((first + count : Int) : ℚ) - 0.5) / ((size : Int) : ℚ) * size ↔
                first ≤ cell ∧ cell < first + count := by
            have nonzero : (size : ℚ) ≠ 0 := by positivity
            have fromBelow : ((first : ℚ) + 0.5 ≤ cell + 1 / 2) ↔ first ≤ cell := by
              rw [← @Nat.cast_le ℚ]
              constructor <;> intro <;> linarith
            have upTo : ((cell : ℚ) + 1 / 2 ≤ first + count - 0.5) ↔ cell < first + count := by
              rw [← Nat.succ_le_iff, ← @Nat.cast_le ℚ]
              push_cast
              constructor <;> intro <;> linarith
            push_cast
            rw [div_mul_cancel₀ _ nonzero, div_mul_cancel₀ _ nonzero, fromBelow, upTo]
          have across := middle (p.x idx.toNat) g.w col atlasW (by decide)
          have down := middle (p.y idx.toNat) g.h row atlasH (by decide)
          unfold PackedFont.placement Raster.Rect.Covers
          dsimp only
          tauto

end Ginkgo
