import Ginkgo.Hud.Quiet

/-!
# Handling a contact

The touch controller, the backlight, the screen, the animations and the keys on display are
the surface of the HUD; `Ginkgo.Hud.content` is the rest. Until a contact ends, handling it
stays on the surface, and so do the animations and the idle timer. A key is held only after a
press on an open password sheet. `Ginkgo.Hud.Handles` says that of two states, and this file
has one theorem for each such function.
-/

namespace Ginkgo

open CText

namespace Hud

/-- The HUD without its surface. -/
def content (h : Hud) : Hud :=
  { h with
    touch := {}
    light := {}
    screen := {}
    scan.hoverAp := none
    ui.sheet := .none
    ui.sheetT := 0
    ui.listScroll := 0
    ui.listScrollTgt := 0
    osk.keys := []
    osk.nosk := 0
    osk.held := false
    osk.hi := none }

/-- **A change on the surface**; a key is held afterwards only if one was before or the
password sheet is open. -/
structure Handles (h h' : Hud) : Prop where
  content : h'.content = h.content
  held : h'.osk.held = true → h.osk.held = true ∨ h.ui.sheetTgt = .pass
  lettered : h.osk.Lettered → h'.osk.Lettered

namespace Handles

variable {h h' h'' : Hud}

theorem refl (h : Hud) : Handles h h := ⟨rfl, .inl, id⟩

/-- What does not look at the surface is left alone. -/
theorem same {β : Type} (handles : Handles h h') (view : Hud → β)
    (inside : ∀ g : Hud, view g.content = view g) : view h' = view h := by
  rw [← inside h', handles.content, inside h]

/-- A change on the surface leaves the sheet that is open. -/
theorem sheetTgt (handles : Handles h h') : h'.ui.sheetTgt = h.ui.sheetTgt :=
  handles.same (fun g => g.ui.sheetTgt) fun _ => rfl

theorem trans (first : Handles h h') (second : Handles h' h'') : Handles h h'' where
  content := second.content.trans first.content
  held := by
    intro held
    rcases second.held held with before | opened
    · exact first.held before
    · exact .inr (first.sheetTgt ▸ opened)
  lettered := second.lettered ∘ first.lettered

theorem ite {condition : Prop} [Decidable condition] (yes : Handles h h') (no : Handles h h'') :
    Handles h (if condition then h' else h'') := by
  split
  · exact yes
  · exact no

/-- No join notices the surface. -/
theorem quiet (handles : Handles h h') : Quiet h h' where
  joins := handles.same joinState fun _ => rfl
  valid := by
    rintro ⟨named, lettered, forget⟩
    have rows : h'.scan.aps = h.scan.aps := handles.same (fun g => g.scan.aps) fun _ => rfl
    have held : h'.forget = h.forget := handles.same Hud.forget fun _ => rfl
    refine ⟨fun ap member => named ap (rows ▸ member), handles.lettered lettered, ?_⟩
    rw [held]
    exact forget
  listing := handles.same listing fun _ => rfl

end Handles

variable (h : Hud)

/-! ## The keyboard's keys -/

/-- A key that is added carries a character when it is a character key. -/
theorem oskAdd_lettered {kind : OskKind} {ch : UInt8} {x y w k : Int} {keys : List OskKey}
    (carries : kind = .char → ch ≠ 0) (lettered : ∀ key ∈ keys, key.kind = .char → key.ch ≠ 0) :
    ∀ key ∈ oskAdd kind ch x y w k keys, key.kind = .char → key.ch ≠ 0 := by
  unfold oskAdd
  split
  · exact lettered
  · intro key member
    rcases List.mem_append.mp member with old | new
    · exact lettered key old
    · cases List.mem_singleton.mp new
      exact carries

/-- So do those of a row of characters without an end of string. -/
theorem oskAddChars_lettered {kw y x : Int} {s : Text} {keys : List OskKey} (plain : 0 ∉ s)
    (lettered : ∀ key ∈ keys, key.kind = .char → key.ch ≠ 0) :
    ∀ key ∈ oskAddChars kw y x s keys, key.kind = .char → key.ch ≠ 0 := by
  induction s generalizing x keys with
  | nil => exact lettered
  | cons c rest ih =>
      have differs : c ≠ 0 := fun zero => plain (by simp [zero])
      exact ih (fun member => plain (by simp [member])) (oskAdd_lettered (fun _ => differs) lettered)

/-- And those of a row that is laid out. -/
theorem oskAddRow_lettered {W y inset : Int} {s : Text} {keys : List OskKey} (plain : 0 ∉ s)
    (lettered : ∀ key ∈ keys, key.kind = .char → key.ch ≠ 0) :
    ∀ key ∈ oskAddRow W s y inset keys, key.kind = .char → key.ch ≠ 0 := by
  unfold oskAddRow
  split
  · exact lettered
  · exact oskAddChars_lettered plain lettered

/-- The rows of every mode are made of characters. -/
theorem oskRows_plain (osk : Osk) :
    0 ∉ (oskRows osk).1 ∧ 0 ∉ (oskRows osk).2.1 ∧
      0 ∉ (oskRows osk).2.2.1.getD (oskRows osk).2.2.2 := by
  unfold oskRows
  split_ifs <;> decide

/-- The key at the start of the third row is no character key. -/
theorem shift_or_more_ne_char {condition : Prop} [Decidable condition] :
    (if condition then OskKind.shift else .more) ≠ .char := by
  split <;> decide

/-- The character keys that are laid out carry characters. -/
theorem oskLayout_lettered : ∀ key ∈ h.oskLayout, key.kind = .char → key.ch ≠ 0 := by
  obtain ⟨first, second, third⟩ := oskRows_plain h.osk
  have none : ∀ key ∈ ([] : List OskKey), key.kind = .char → key.ch ≠ 0 := by simp
  unfold oskLayout
  refine oskAdd_lettered (by simp) (oskAdd_lettered (by simp) (oskAdd_lettered (by simp) ?_))
  refine oskAdd_lettered (by simp) (oskAddChars_lettered third (oskAdd_lettered ?_ ?_))
  · exact fun same => absurd same shift_or_more_ne_char
  · exact oskAddRow_lettered second (oskAddRow_lettered first none)

/-- Laying the keys out is on the surface. -/
theorem layoutKeys_handles : Handles h h.layoutKeys := by
  refine ⟨rfl, .inl, fun lettered key member => ?_⟩
  rcases List.mem_append.mp member with new | old
  · exact oskLayout_lettered h key new
  · exact lettered key (List.mem_of_mem_drop old)

/-- A key that is pressed is held on the open password sheet only. -/
theorem oskOnDown_handles (x y : Int) : Handles h (h.oskOnDown x y).1 := by
  unfold oskOnDown
  split
  · exact .refl h
  · next shown =>
      have opened : h.ui.sheetTgt = .pass := by
        by_contra other
        exact shown (.inl other)
      have same : h.layoutKeys.ui = h.ui := rfl
      apply h.layoutKeys_handles.trans
      rw [← same] at opened
      generalize h.layoutKeys = g at opened ⊢
      simp only
      split
      · exact .refl _
      · exact ⟨rfl, fun _ => .inr opened, id⟩

/-- Moving over the keys is on the surface. -/
theorem oskOnMove_handles (x y : Int) : Handles h (h.oskOnMove x y) := by
  unfold oskOnMove
  refine .ite (.refl h) (h.layoutKeys_handles.trans ?_)
  generalize h.layoutKeys = g
  exact ⟨rfl, .inl, id⟩

/-! ## Touch, screen and animations -/

/-- The brightness is. -/
theorem applyBlPct_handles (pct : Int) : Handles h (h.applyBlPct pct) := by
  unfold applyBlPct
  simp only
  split_ifs <;> exact ⟨rfl, .inl, id⟩

/-- Keeping it is. -/
theorem commitBl_handles : Handles h h.commitBl := by
  unfold commitBl
  exact .ite ⟨rfl, .inl, id⟩ (.refl h)

/-- A drag on the bar is. -/
theorem applyBlFromX_handles (x : Int) : Handles h (h.applyBlFromX x) := by
  unfold applyBlFromX
  exact .ite (.refl h) (h.applyBlPct_handles _)

/-- A contact that is dropped is. -/
theorem resetTouch_handles : Handles h h.resetTouch := ⟨rfl, .inl, id⟩

/-- Switching the screen is: it drops the contact. -/
theorem setScreen_handles (on : Bool) (now : Nat) : Handles h (h.setScreen on now) := by
  unfold setScreen
  split
  · refine .ite (.refl h) (Handles.trans ?_ (applyBlPct_handles _ _))
    exact ⟨rfl, .inl, id⟩
  · refine .ite (.refl h) ?_
    exact ⟨rfl, .inl, id⟩

/-- Reading the slot table is. -/
theorem mtSyncFromKernel_handles (kernel : Option MtSlots) :
    Handles h (h.mtSyncFromKernel kernel) := by
  unfold mtSyncFromKernel
  cases kernel <;> exact ⟨rfl, .inl, id⟩

/-- Forgetting what is new in it is. -/
theorem mtClearFresh_handles : Handles h h.mtClearFresh := ⟨rfl, .inl, id⟩

/-- Binding a contact to a slot is. -/
theorem bindTo_handles (slot : Option (Fin maxSlots)) : Handles h (h.bindTo slot) := by
  unfold bindTo
  cases slot <;> exact ⟨rfl, .inl, id⟩

/-- The search for a finger is. -/
theorem mtFinger_handles (dev : Dev) : Handles h (h.mtFinger dev).1 := ⟨rfl, .inl, id⟩

/-- Binding the first finger is. -/
theorem mtBindPrimary_handles (dev : Dev) : Handles h (h.mtBindPrimary dev) := by
  have finger : Handles h ((h.mtFinger dev).1.bindTo (h.mtFinger dev).2) :=
    (h.mtFinger_handles dev).trans (bindTo_handles _ _)
  unfold mtBindPrimary
  split
  · exact .ite (h.bindTo_handles _) finger
  · exact finger

/-- The row under the finger is. -/
theorem hoverFromPoint_handles (x y : Int) : Handles h (h.hoverFromPoint x y) := by
  unfold hoverFromPoint
  refine .ite (.refl h) ?_
  simp only
  split
  · exact ⟨rfl, .inl, id⟩
  · exact .refl h

/-- The start of a drag on the bar is. -/
theorem startBlDrag_handles (dev : Dev) (x y : Int) : Handles h (h.startBlDrag dev x y) := by
  unfold startBlDrag
  exact .ite ⟨rfl, .inl, id⟩ (.refl h)

/-- A movement that drags the bar or the list is. -/
theorem synDrag_handles (dev : Dev) (x y : Int) : Handles h (h.synDrag dev x y) := by
  unfold synDrag
  refine .ite ⟨rfl, .inl, id⟩ ((h.startBlDrag_handles dev x y).trans ?_)
  generalize h.startBlDrag dev x y = g
  have hovered : Handles g (if g.touch.dragging then g.hoverFromPoint x y else g) :=
    .ite (g.hoverFromPoint_handles x y) (.refl g)
  exact .ite (g.applyBlFromX_handles x) (hovered.trans (.ite ⟨rfl, .inl, id⟩ (.refl _)))

/-- The movement of the followed finger is. -/
theorem synMove_handles (dev : Dev) : Handles h (h.synMove dev) := by
  unfold synMove
  refine .ite h.mtClearFresh_handles ?_
  have taken : Handles h { h with touch.mtGotPos := false } := ⟨rfl, .inl, id⟩
  apply taken.trans
  generalize { h with touch.mtGotPos := false } = g
  simp only
  refine .ite ?_ ((g.synDrag_handles dev _ _).trans (mtClearFresh_handles _))
  have pressed : Handles g (if g.osk.held then g.oskOnMove (g.mapTouch dev).1 (g.mapTouch dev).2
      else (g.oskOnDown (g.mapTouch dev).1 (g.mapTouch dev).2).1) :=
    .ite (g.oskOnMove_handles _ _) (g.oskOnDown_handles _ _)
  refine pressed.trans (.ite (mtClearFresh_handles _) ?_)
  exact (synDrag_handles _ dev _ _).trans (mtClearFresh_handles _)

/-- A finger that lands is, whether it presses a key or takes the bar. -/
theorem synLand_handles (dev : Dev) (env : EvEnv) : Handles h (h.synLand dev env) := by
  unfold synLand
  refine Handles.trans ?_ ((oskOnDown_handles _ _ _).trans (mtClearFresh_handles _))
  exact ⟨rfl, .inl, id⟩

/-- An axis event is. -/
theorem handleAbs_handles (dev : Dev) (code : AbsCode) (value : Int) :
    Handles h (h.handleAbs dev code value) := by
  unfold handleAbs
  refine .ite ?_ ?_
  · cases code <;> exact ⟨rfl, .inl, id⟩
  · cases code <;> simp only
    case mtSlot => split <;> exact ⟨rfl, .inl, id⟩
    case mtTrackingId => unfold mtTracking; exact .ite ⟨rfl, .inl, id⟩ ⟨rfl, .inl, id⟩
    all_goals exact ⟨rfl, .inl, id⟩

/-- An event that finds the screen off is. -/
theorem handleOff_handles (dev : Dev) (ev : Ev) (env : EvEnv) :
    Handles h (h.handleOff dev ev env) := by
  unfold handleOff
  refine .ite (.refl h) ?_
  cases ev with
  | syn =>
      simp only
      have synced := h.mtSyncFromKernel_handles env.slots
      generalize h.mtSyncFromKernel env.slots = g at synced ⊢
      have found : Handles g (if (g.mtFinger dev).2 ≠ none then (g.mtFinger dev).1.setScreen true env.now
          else (g.mtFinger dev).1) :=
        (g.mtFinger_handles dev).trans (.ite (setScreen_handles _ _ _) (.refl _))
      exact (synced.trans found).trans (mtClearFresh_handles _)
  | key code value => exact .refl h
  | abs code value => exact .ite (h.handleAbs_handles dev code value) (.refl h)
  | other => exact .refl h

/-- The idle timer is. -/
theorem idleOff_handles (now : Nat) : Handles h (h.idleOff now) := by
  unfold idleOff
  exact .ite (h.setScreen_handles false now) (.refl h)

/-- The movement of a sheet is. -/
theorem animateSheet_handles (animation : Animation) : Handles h (h.animateSheet animation) := by
  unfold animateSheet
  exact .ite ⟨rfl, .inl, id⟩ ⟨rfl, .inl, id⟩

/-- The movement of the list is. -/
theorem animateList_handles (smooth : ℚ) : Handles h (h.animateList smooth) := ⟨rfl, .inl, id⟩

/-! ## The start -/

/-- The backlight that is found is. -/
theorem findBacklight_handles (found : Option (Int × Int)) : Handles h (h.findBacklight found) := by
  unfold findBacklight
  cases found with
  | none => exact .refl h
  | some found =>
      have noted : Handles h { h with
          light.blMax := found.1
          light.blPath := true
          light.blCur := if 0 < found.2 then found.2 else h.light.blCur } := ⟨rfl, .inl, id⟩
      refine noted.trans (.ite (Handles.trans ?_ (applyBlPct_handles _ _))
        (.ite ⟨rfl, .inl, id⟩ ⟨rfl, .inl, id⟩))
      exact ⟨rfl, .inl, id⟩

end Hud

end Ginkgo
