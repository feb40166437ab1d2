import Ginkgo.Transition.Draft
import Ginkgo.Touch.Mirror

/-!
# The brightness

A finger that moves along the brightness bar sets the brightness at once, but the HUD keeps it
only when the finger lifts. The brightness is a draft (`Ginkgo.Light.draft`): a drag is an edit
of it, the end of the contact a commit, and the screen restores what was kept, both when it goes
off under the finger and when it comes back. Every step is one of these moves
(`Ginkgo.Hud.step_turns`), which holds because a drag belongs to a contact that is followed
(`Ginkgo.TouchView.Grip`). So what nobody drags is kept, and the screen comes back with the
brightness that was committed last (`Ginkgo.Hud.brightness_committed`).
-/

namespace Ginkgo

open Transition

/-- A percentage that the slider can be at. -/
def Fits (pct : Int) : Prop := 1 ≤ pct ∧ pct ≤ 100

/-- A percentage that is clamped fits. -/
theorem clampi_fits (pct : Int) : Fits (clampi pct 1 100) := by
  unfold clampi Fits
  split_ifs <;> omega

/-- One that fits is not clamped. -/
theorem Fits.clampi_eq {pct : Int} (fits : Fits pct) : clampi pct 1 100 = pct := by
  unfold clampi
  rw [if_neg (not_lt.mpr fits.1), if_neg (not_lt.mpr fits.2)]

/-- The brightness as a draft, edited by a drag. -/
def Light.draft (light : Light) : Draft Int := ⟨light.blPct, light.blKeep, light.draggingBl⟩

/-- What `apply_bl_pct` writes for a percentage. -/
def Light.level (light : Light) (pct : Int) : Int := 1 + pct * (light.blMax - 1) / 100

/-- **A move of the brightness** on the same backlight. -/
structure Light.Moves (light light' : Light) : Prop where
  draft : Draft.Move Fits light.draft light'.draft
  max : light'.blMax = light.blMax
  path : light'.blPath = light.blPath

theorem Light.Moves.refl (light : Light) : light.Moves light := ⟨.still, rfl, rfl⟩

/-- **A drag of the brightness belongs to a contact that is followed.** -/
def TouchView.Grip (view : TouchView) : Prop :=
  view.draggingBl = true → view.touch.contactArmed = true

/-- The level of a percentage is one of the device's, and no product on the way to it overflows
as long as the device has at most twenty million levels. -/
theorem Light.level_within {light : Light} (positive : 1 ≤ light.blMax) {pct : Int}
    (fits : Fits pct) :
    1 ≤ light.level pct ∧ light.level pct ≤ light.blMax ∧
      (light.blMax ≤ 20000000 → pct * (light.blMax - 1) < 2 ^ 31) := by
  obtain ⟨low, high⟩ := fits
  have least : 0 ≤ pct * (light.blMax - 1) := Int.mul_nonneg (by omega) (by omega)
  have most : pct * (light.blMax - 1) ≤ 100 * (light.blMax - 1) :=
    Int.mul_le_mul_of_nonneg_right high (by omega)
  unfold level
  exact ⟨by omega, by omega, by omega⟩

namespace Hud

variable {h : Hud}

/-! ## The brightness functions -/

/-- What `apply_bl_pct` changes: the percentage, and what the device has. -/
theorem applyBlPct_light (pct : Int) (h : Hud) : ∃ cur device, (h.applyBlPct pct).light =
    { h.light with blPct := clampi pct 1 100, blCur := cur, device } := by
  unfold applyBlPct
  simp only
  split_ifs <;> exact ⟨_, _, rfl⟩

/-- A drag that begins or goes on is an edit. -/
theorem drag_moves {light : Light} (dragged : h.light = { light with draggingBl := true })
    (fits : Fits light.blPct) (x : Int) : light.Moves (h.applyBlFromX x).light := by
  unfold applyBlFromX
  simp only
  split
  · -- a bar of no width: the brightness stays where it is
    rw [dragged]
    exact ⟨.edit light.blPct fits, rfl, rfl⟩
  · obtain ⟨cur, device, set⟩ := applyBlPct_light (ratTrunc _) h
    rw [set, dragged]
    exact ⟨.edit _ (clampi_fits _), rfl, rfl⟩

/-- A movement of a drag is a move. -/
theorem synDrag_moves (dev : Dev) (x y : Int) (fits : Fits h.light.blPct) :
    h.light.Moves (h.synDrag dev x y).light := by
  unfold synDrag
  simp only
  generalize (if dev.absMaxY - dev.absMinY < 1 then (1 : Int) else _) = range
  split
  · exact .refl _
  · have begun : (h.startBlDrag dev x y).light = h.light ∨
        (h.startBlDrag dev x y).light = { h.light with draggingBl := true } := by
      rcases h.startBlDrag_cases dev x y with same | drag
      · exact .inl (congrArg Hud.light same)
      · exact .inr (congrArg Hud.light drag)
    generalize h.startBlDrag dev x y = g at begun ⊢
    split
    · next drags =>
        refine drag_moves ?_ fits x
        rcases begun with same | drag
        · rw [← same, ← drags]
        · exact drag
    · next free =>
        have same : g.light = h.light := begun.resolve_right fun drag => free (by rw [drag])
        have hovered : (if g.touch.dragging then g.hoverFromPoint x y else g).light = h.light := by
          split
          · exact (g.hoverFromPoint_apart x y).light.trans same
          · exact same
        generalize (if g.touch.dragging then g.hoverFromPoint x y else g) = k at hovered ⊢
        split <;> exact hovered ▸ .refl _

/-- A key that is pressed leaves the backlight. -/
theorem oskOnDown_light (x y : Int) (h : Hud) : (h.oskOnDown x y).1.light = h.light := by
  unfold oskOnDown
  simp only
  split_ifs <;> rfl

/-- The movement of the followed finger is a move. -/
theorem synMove_moves (dev : Dev) (fits : Fits h.light.blPct) :
    h.light.Moves (h.synMove dev).light := by
  unfold synMove
  split
  · exact .refl _
  · have pressed (g : Hud) (x y : Int) :
        (if g.osk.held then g.oskOnMove x y else (g.oskOnDown x y).1).light = g.light := by
      split
      · exact (g.oskOnMove_apart x y).light
      · exact g.oskOnDown_light x y
    have noted : ({ h with touch.mtGotPos := false } : Hud).light = h.light := rfl
    generalize ({ h with touch.mtGotPos := false } : Hud) = g at noted ⊢
    rw [← noted] at fits ⊢
    simp only
    generalize g.mapTouch dev = point
    split
    · have keyed := pressed g point.1 point.2
      generalize (if g.osk.held then g.oskOnMove point.1 point.2
        else (g.oskOnDown point.1 point.2).1) = k at keyed ⊢
      rw [← keyed] at fits ⊢
      split
      · exact .refl _
      · exact synDrag_moves dev point.1 point.2 fits
    · exact synDrag_moves dev point.1 point.2 fits

/-- The end of a contact commits a drag. -/
theorem contactUp_light (dev : Dev) (armed : Bool) (env : EvEnv) (h : Hud) :
    (h.contactUp dev armed env).light =
      (if h.light.draggingBl then h.commitBl else h).light := by
  unfold contactUp
  simp only
  generalize (if h.light.draggingBl then h.commitBl else h) = g
  split
  · exact (g.oskOnUp_released _ _ _).2
  · next free =>
      split
      · exact (tap_apart (Bool.eq_false_of_not_eq_true free) _ _ _).light
      · rfl

/-- The end of a contact is a move, which commits a drag. -/
theorem synLift_moves (dev : Dev) (prev : Int) (env : EvEnv) (fits : Fits h.light.blPct) :
    h.light.Moves (h.synLift dev prev env).light := by
  unfold synLift
  split
  · next followed =>
      have ended : ({ h.contactUp dev h.touch.contactArmed env with
          touch.dragging := false
          light.draggingBl := false
          touch.contactArmed := false } : Hud).mtClearFresh.light =
            { (if h.light.draggingBl then h.commitBl else h).light with draggingBl := false } := by
        rw [← contactUp_light dev h.touch.contactArmed env]
        rfl
      rw [ended]
      cases drags : h.light.draggingBl with
      | true =>
          rw [if_pos rfl, commitBl, if_pos fits.1]
          exact ⟨.commit drags, rfl, rfl⟩
      | false =>
          rw [if_neg (by decide), ← drags]
          exact .refl _
  · exact .refl _

/-- A contact that lands drags nothing yet. -/
theorem synLand_light (dev : Dev) (env : EvEnv) (h : Hud) :
    (h.synLand dev env).light = { h.light with draggingBl := false } := by
  unfold synLand
  exact oskOnDown_light _ _ _

/-! ## The screen -/

/-- **What a step makes of the brightness.** As long as the screen stays as it is, the finger
edits it; when the screen goes off or comes back, the kept brightness is restored, and in the
latter case written. -/
structure Turns (h h' : Hud) : Prop where
  moves : h'.screen.screenOff = h.screen.screenOff → Draft.Move Fits h.light.draft h'.light.draft
  restored : h'.screen.screenOff ≠ h.screen.screenOff → h'.light.draft = h.light.draft.restore
  written : h.screen.screenOff = true → h'.screen.screenOff = false →
    h'.light.device = h.light.level h.light.blKeep
  max : h'.light.blMax = h.light.blMax
  path : h'.light.blPath = h.light.blPath
  grip : h.touchView.Grip → h'.touchView.Grip

/-- **A backlight is found**, and its brightness is sound. -/
structure Lit (max : Int) (light : Light) : Prop where
  sound : light.draft.Sound Fits
  max : light.blMax = max
  path : light.blPath = true

/-- A change of neither the brightness nor the screen, in which no contact ends. -/
structure SameLight (h h' : Hud) : Prop where
  light : h'.light = h.light
  screenOff : h'.screen.screenOff = h.screen.screenOff
  armed : h'.touch.contactArmed = h.touch.contactArmed

namespace SameLight

variable {h' h'' : Hud}

/-- Two changes that leave the light, one after the other. -/
theorem trans (first : SameLight h h') (second : SameLight h' h'') : SameLight h h'' :=
  ⟨second.light.trans first.light, second.screenOff.trans first.screenOff,
    second.armed.trans first.armed⟩

/-- What no finger and no backlight notices leaves the light. -/
theorem of_apart (apart : Apart h h') : SameLight h h' :=
  ⟨apart.light, congrArg TouchView.screenOff apart.aside,
    congrArg (fun view => view.touch.contactArmed) apart.aside⟩

/-- It leaves the grip too. -/
theorem grip (same : SameLight h h') (grip : h.touchView.Grip) : h'.touchView.Grip := by
  intro drags
  have before : h.light.draggingBl = true := same.light ▸ drags
  exact same.armed.trans (grip before)

end SameLight

namespace Turns

variable {h' g : Hud}

/-- A step that leaves the screen as it is. -/
theorem of_moves (moves : h.light.Moves h'.light)
    (screen : h'.screen.screenOff = h.screen.screenOff)
    (grip : h.touchView.Grip → h'.touchView.Grip) : h.Turns h' where
  moves _ := moves.draft
  restored other := absurd screen other
  written off on := by
    rw [screen, off] at on
    cases on
  max := moves.max
  path := moves.path
  grip := grip

/-- A step that switches the screen. -/
theorem of_switched (switched : h'.screen.screenOff ≠ h.screen.screenOff)
    (restored : h'.light.draft = h.light.draft.restore)
    (written : h'.screen.screenOff = false → h'.light.device = h.light.level h.light.blKeep)
    (max : h'.light.blMax = h.light.blMax) (path : h'.light.blPath = h.light.blPath) :
    h.Turns h' where
  moves screen := absurd screen switched
  restored _ := restored
  written _ on := written on
  max := max
  path := path
  grip _ drags := by
    have plain : h'.light.draggingBl = false := congrArg Draft.editing restored
    rw [show h'.light.draggingBl = true from drags] at plain
    cases plain

/-- A step that leaves the light turns nothing. -/
theorem of_same (same : SameLight h h') : h.Turns h' :=
  of_moves (same.light ▸ .refl _) same.screenOff same.grip

/-- Nor does one that does so at first. -/
theorem after (same : SameLight h g) (turns : g.Turns h') : h.Turns h' where
  moves screen := same.light ▸ turns.moves (screen.trans same.screenOff.symm)
  restored other := same.light ▸ turns.restored fun screen => other (screen.trans same.screenOff)
  written off on := same.light ▸ turns.written (same.screenOff.trans off) on
  max := turns.max.trans (congrArg Light.blMax same.light)
  path := turns.path.trans (congrArg Light.blPath same.light)
  grip grip := turns.grip (same.grip grip)

/-- The fresh marks of the slots may be cleared. -/
theorem cleared (turns : h.Turns h') : h.Turns h'.mtClearFresh :=
  ⟨turns.moves, turns.restored, turns.written, turns.max, turns.path, turns.grip⟩

theorem refl (h : Hud) : h.Turns h := of_same ⟨rfl, rfl, rfl⟩

end Turns

/-- A level that the device is not believed to have already is written. -/
theorem applyBlPct_written (found : 1 ≤ h.light.blMax ∧ h.light.blPath = true) {pct : Int}
    (fits : Fits pct) (other : h.light.level pct ≠ h.light.blCur) :
    (h.applyBlPct pct).light = { h.light with
      blPct := pct, blCur := h.light.level pct, device := h.light.level pct } := by
  obtain ⟨positive, path⟩ := found
  obtain ⟨low, high, -⟩ := Light.level_within positive fits
  have least : 0 ≤ pct * (h.light.blMax - 1) := Int.mul_nonneg (by have := fits.1; omega) (by omega)
  have level : 1 + (pct * (h.light.blMax - 1)).tdiv 100 = h.light.level pct := by
    rw [Int.tdiv_eq_ediv_of_nonneg least]
    rfl
  unfold applyBlPct
  simp only
  rw [fits.clampi_eq, if_neg (by simp [path, positive]), level, if_neg (not_lt.mpr low),
    if_neg (not_lt.mpr high), if_neg other]

/-- When the screen goes off, an open drag is undone. -/
theorem setScreen_off_light {now : Nat} (on : h.screen.screenOff = false) :
    (h.setScreen false now).light = { h.light with
      blPct := if h.light.draggingBl then h.light.blKeep else h.light.blPct
      draggingBl := false
      device := if h.light.blPath then 0 else h.light.device
      blCur := 0 } := by
  unfold setScreen
  rw [if_neg (by decide), if_neg (by simp [on])]
  rfl

/-- When it comes back, the kept brightness is written. -/
theorem setScreen_on_light {now : Nat} (off : h.screen.screenOff = true)
    (found : 1 ≤ h.light.blMax ∧ h.light.blPath = true) (fits : Fits h.light.blKeep) :
    (h.setScreen true now).light = { h.light with
      blPct := h.light.blKeep
      draggingBl := false
      device := h.light.level h.light.blKeep
      blCur := h.light.level h.light.blKeep } := by
  have dark : h.light.level h.light.blKeep ≠ 0 := by
    exact (Int.lt_of_lt_of_le Int.one_pos (Light.level_within found.1 fits).1).ne'
  obtain ⟨g, reset, lit⟩ : ∃ g : Hud, g.light = { h.light with draggingBl := false, blCur := 0 } ∧
      h.setScreen true now = g.applyBlPct (if 0 < h.light.blKeep then h.light.blKeep else 80) := by
    unfold setScreen
    rw [if_pos rfl, if_neg (by simp [off])]
    exact ⟨_, rfl, rfl⟩
  have level : g.light.level h.light.blKeep = h.light.level h.light.blKeep := by
    rw [reset]
    rfl
  have written : g.light.level h.light.blKeep ≠ g.light.blCur := by
    rw [level, reset]
    exact dark
  have same : 1 ≤ g.light.blMax ∧ g.light.blPath = true := by
    rw [reset]
    exact found
  have kept : 0 < h.light.blKeep := fits.1
  rw [lit, if_pos kept, applyBlPct_written same fits written, level, reset]

/-- Switching the screen off is a turn. -/
theorem setScreen_off_turns {now : Nat} {max : Int} (on : h.screen.screenOff = false)
    (lit : Lit max h.light) : h.Turns (h.setScreen false now) := by
  have light := @setScreen_off_light h now on
  have dark := h.setScreen_off_screenOff now
  have restored : (h.setScreen false now).light.draft = h.light.draft.restore := by
    rw [light]
    cases drags : h.light.draggingBl with
    | true => rfl
    | false =>
        have settled : h.light.blPct = h.light.blKeep := lit.sound.settled drags
        simp only [Light.draft, Draft.restore, Bool.false_eq_true, if_false, settled]
  refine .of_switched ?_ restored (fun again => ?_) (by rw [light]) (by rw [light])
  · rw [dark, on]
    decide
  · rw [dark] at again
    cases again

/-- Switching it on is another. -/
theorem setScreen_on_turns {now : Nat} {max : Int} (off : h.screen.screenOff = true)
    (positive : 1 ≤ max) (lit : Lit max h.light) : h.Turns (h.setScreen true now) := by
  have light := @setScreen_on_light h now off ⟨lit.max ▸ positive, lit.path⟩ lit.sound.kept
  have restored : (h.setScreen true now).light.draft = h.light.draft.restore := by
    rw [light]
    rfl
  refine .of_switched ?_ restored (fun _ => by rw [light]) (by rw [light]) (by rw [light])
  rw [setScreen_on_screenOff, off]
  decide

/-- So `set_screen` is a turn, or nothing. -/
theorem setScreen_turns (on : Bool) (now : Nat) {max : Int} (positive : 1 ≤ max)
    (lit : Lit max h.light) : h.Turns (h.setScreen on now) := by
  have idle (same : h.screen.screenOff = !on) : h.setScreen on now = h := by
    unfold setScreen
    cases on <;> simp [same]
  cases on with
  | true =>
      cases off : h.screen.screenOff with
      | true => exact setScreen_on_turns off positive lit
      | false =>
          rw [idle off]
          exact .refl h
  | false =>
      cases off : h.screen.screenOff with
      | true =>
          rw [idle off]
          exact .refl h
      | false => exact setScreen_off_turns off lit

/-! ## Steps -/

/-- The comparison with the input core leaves the light. -/
theorem mtSync_sameLight (kernel : Option MtSlots) (h : Hud) :
    SameLight h (h.mtSyncFromKernel kernel) := by
  cases kernel <;> exact ⟨rfl, rfl, rfl⟩

theorem mtBindPrimary_sameLight (dev : Dev) (h : Hud) : SameLight h (h.mtBindPrimary dev) := by
  have bound (g : Hud) (slot : Option (Fin maxSlots)) : SameLight g (g.bindTo slot) := by
    cases slot <;> exact ⟨rfl, rfl, rfl⟩
  have searched : SameLight h (h.mtFinger dev).1 := ⟨rfl, rfl, rfl⟩
  unfold mtBindPrimary
  cases h.touch.bindSlot with
  | none => exact searched.trans (bound _ _)
  | some s =>
      simp only
      split
      · exact bound h _
      · exact searched.trans (bound _ _)

/-- The report that ends a contact ends its drag with it. -/
theorem synLift_turns (dev : Dev) (prev : Int) (env : EvEnv) (fits : Fits h.light.blPct) :
    h.Turns (h.synLift dev prev env) := by
  by_cases followed : 0 ≤ prev
  · have view := synLift_touchView dev env h followed
    refine .of_moves (h.synLift_moves dev prev env fits) (congrArg TouchView.screenOff view) ?_
    intro _ drags
    rw [view] at drags
    cases drags
  · unfold synLift
    rw [if_neg followed]
    exact .cleared (.refl h)

/-- A contact that lands finds no drag. -/
theorem synLand_turns (dev : Dev) (env : EvEnv) (free : h.light.draggingBl = false) :
    h.Turns (h.synLand dev env) := by
  obtain ⟨held, view⟩ := synLand_touchView dev env h
  have same : (h.synLand dev env).light = h.light := by
    rw [synLand_light, ← free]
  refine .of_moves (same ▸ .refl _) (congrArg TouchView.screenOff view) fun _ _ => ?_
  exact congrArg (fun view => view.touch.contactArmed) view

/-- The movement of a contact that is followed edits the brightness. -/
theorem synMove_turns (dev : Dev) (fits : Fits h.light.blPct)
    (armed : h.touch.contactArmed = true) : h.Turns (h.synMove dev) := by
  obtain ⟨g, moved, steers⟩ := h.synMove_steers dev
  have moves := h.synMove_moves dev fits
  rw [moved] at moves ⊢
  refine .of_moves moves (congrArg TouchView.screenOff steers.frame) fun _ _ => ?_
  exact (congrArg (fun view => view.touch.contactArmed) steers.frame).trans armed

/-- The end of a report. -/
theorem handleSyn_turns (dev : Dev) (env : EvEnv) (fits : Fits h.light.blPct)
    (grip : h.touchView.Grip) : h.Turns (h.handleSyn dev env) := by
  obtain ⟨k, synced⟩ : ∃ k, h.mtSyncFromKernel env.slots = k := ⟨_, rfl⟩
  obtain ⟨b, bound⟩ : ∃ b, k.mtBindPrimary dev = b := ⟨_, rfl⟩
  have same : SameLight h b := by
    rw [← bound, ← synced]
    exact (mtSync_sameLight env.slots h).trans (mtBindPrimary_sameLight dev _)
  have fits : Fits b.light.blPct := same.light ▸ fits
  rw [handleSyn_eq synced bound]
  refine .after same ?_
  split
  · exact .cleared (.refl b)
  · split
    · exact synLift_turns dev k.touch.slotId env fits
    · split
      · next unarmed =>
          apply synLand_turns dev env
          by_contra drags
          have held := same.grip grip (Bool.eq_true_of_not_eq_false drags)
          rw [show b.touch.contactArmed = true from held] at unarmed
          cases unarmed
      · next armed => exact synMove_turns dev fits (Bool.eq_true_of_not_eq_false armed)

end Hud

/-- The touch devices report slots. -/
def Slotted : Event → Prop
  | .input input => input.dev.isTouch = true → input.dev.hasMt = true
  | _ => True

instance : (event : Event) → Decidable (Slotted event)
  | .input _ => inferInstanceAs (Decidable (_ → _))
  | .idleOff _ | .poll _ | .confirm _ | .animate _ | .render | .sample _ | .kick _
  | .schedule _ _ => .isTrue trivial

namespace Hud

variable {h : Hud}

/-- What the device or the input core sends about a slot changes the slot table only. -/
theorem handleAbs_turns {dev : Dev} (slots : dev.hasMt = true) (code : AbsCode) (value : Int)
    (h : Hud) : h.Turns (h.handleAbs dev code value) := by
  obtain ⟨cur, table, got, frame⟩ := handleAbs_frame slots h code value
  rw [frame]
  exact .of_moves (.refl _) rfl id

/-- **What an event makes of the brightness.** -/
theorem handleEv_turns {dev : Dev} (slots : dev.isTouch = true → dev.hasMt = true) (ev : Ev)
    (env : EvEnv) {max : Int} (positive : 1 ≤ max) (lit : Lit max h.light)
    (grip : h.touchView.Grip) : h.Turns (h.handleEv dev ev env) := by
  have searched : SameLight h ((h.mtSyncFromKernel env.slots).mtFinger dev).1 :=
    (mtSync_sameLight env.slots h).trans ⟨rfl, rfl, rfl⟩
  have noted (user : Nat) : SameLight h { h with screen.tUser := user } := ⟨rfl, rfl, rfl⟩
  have handled := handleEv_handled slots ev env h
  generalize h.handleEv dev ev env = h' at handled ⊢
  cases handled with
  | ignored => exact .refl h
  | switched =>
      have pressed : SameLight h { h with screen.tPowerKey := env.now } := ⟨rfl, rfl, rfl⟩
      exact .after pressed (setScreen_turns h.screen.screenOff env.now positive lit)
  | searched => exact .cleared (.of_same searched)
  | woken =>
      have lit := searched.light ▸ lit
      exact .cleared (.after searched (setScreen_turns true env.now positive lit))
  | noted user => exact .of_same (noted user)
  | entered user slots code value => exact .after (noted user) (handleAbs_turns slots code value _)
  | reported =>
      exact .after (noted env.now) (handleSyn_turns dev env lit.sound.shown grip)

/-- **What every step makes of the brightness.** -/
theorem step_turns {event : Event} (slotted : Slotted event) {max : Int} (positive : 1 ≤ max)
    (lit : Lit max h.light) (grip : h.touchView.Grip) : h.Turns (h.step event) := by
  cases event with
  | input input => exact handleEv_turns slotted input.ev input.env positive lit grip
  | idleOff now =>
      change h.Turns (h.idleOff now)
      unfold idleOff
      split
      · exact setScreen_turns false now positive lit
      · exact .refl h
  | _ => exact .of_same (.of_apart (h.step_apart trivial))

/-! ## Runs -/

/-- **What is on the screen is committed** unless a drag is going on. -/
def Committed (h : Hud) : Prop :=
  h.light.draggingBl = false → h.screen.screenOff = false →
    h.light.blPct = h.light.blKeep ∧ 1 ≤ h.light.blKeep ∧ h.light.blKeep ≤ 100

/-- **A step neither loses nor invents a brightness**: only a drag that ends while the screen
stays on is kept, one that the screen interrupts is undone, and the screen comes back with the
level of what is kept, which the device has. -/
structure KeepsBrightness (max : Int) (h : Hud) (event : Event) : Prop where
  lifted : h.light.draggingBl = true → h.screen.screenOff = false →
    (h.step event).light.draggingBl = false → (h.step event).screen.screenOff = false →
      (h.step event).light.blKeep = h.light.blPct
  kept : (h.step event).light.blKeep = h.light.blKeep ∨
    h.light.draggingBl = true ∧ (h.step event).light.draggingBl = false ∧
      (h.step event).screen.screenOff = h.screen.screenOff ∧
        (h.step event).light.blKeep = h.light.blPct
  undone : h.light.draggingBl = true → h.screen.screenOff = false →
    (h.step event).screen.screenOff = true →
      (h.step event).light.draggingBl = false ∧
        (h.step event).light.blPct = h.light.blKeep ∧
          (h.step event).light.blKeep = h.light.blKeep
  written : h.screen.screenOff = true → (h.step event).screen.screenOff = false →
    (h.step event).light.device = 1 + (h.step event).light.blKeep * (max - 1) / 100 ∧
      1 ≤ (h.step event).light.device ∧ (h.step event).light.device ≤ max ∧
        (max ≤ 20000000 → (h.step event).light.blKeep * (max - 1) < 2 ^ 31)

variable {max : Int} {event : Event}

/-- A turn keeps the brightness sound. -/
theorem Turns.lit {h' : Hud} (turns : h.Turns h') (lit : Lit max h.light) : Lit max h'.light where
  sound := by
    by_cases screen : h'.screen.screenOff = h.screen.screenOff
    · exact (turns.moves screen).sound lit.sound
    · rw [turns.restored screen]
      exact lit.sound.restore
  max := turns.max.trans lit.max
  path := turns.path.trans lit.path

/-- What a turn says of the brightness that is kept. -/
theorem Turns.keeps (positive : 1 ≤ max) (lit : Lit max h.light) (turns : h.Turns (h.step event)) :
    h.KeepsBrightness max event where
  lifted drags on idle on' :=
    congrArg Draft.kept ((turns.moves (on'.trans on.symm)).ended drags idle)
  kept := by
    by_cases screen : (h.step event).screen.screenOff = h.screen.screenOff
    · refine (turns.moves screen).kept.imp_right fun committed => ?_
      exact ⟨committed.1, congrArg Draft.editing committed.2, screen,
        congrArg Draft.kept committed.2⟩
    · exact .inl (congrArg Draft.kept (turns.restored screen))
  undone _ on off := by
    have switched : (h.step event).screen.screenOff ≠ h.screen.screenOff := by
      rw [on, off]
      decide
    have restored := turns.restored switched
    exact ⟨congrArg Draft.editing restored, congrArg Draft.shown restored,
      congrArg Draft.kept restored⟩
  written off on := by
    have switched : (h.step event).screen.screenOff ≠ h.screen.screenOff := by
      rw [on, off]
      decide
    have same : (h.step event).light.blKeep = h.light.blKeep :=
      congrArg Draft.kept (turns.restored switched)
    have within := @Light.level_within h.light (lit.max ▸ positive) _ lit.sound.kept
    rw [turns.written off on, same, ← lit.max]
    exact ⟨rfl, within⟩

/-! ## The start -/

/-- The configuration holds a percentage, if any. -/
theorem loadHudConf_light (boot : Boot) (lang : Option Bool) (bl : Option Int) :
    (boot.blank.loadHudConf lang bl).light.draggingBl = false ∧
      (0 < (boot.blank.loadHudConf lang bl).light.blPct →
        Fits (boot.blank.loadHudConf lang bl).light.blPct) := by
  unfold loadHudConf
  cases bl with
  | none => cases lang <;> exact ⟨rfl, nofun⟩
  | some pct => cases lang <;> exact ⟨rfl, fun _ => clampi_fits pct⟩

/-- The brightness starts sound, from the configuration or from the device. -/
theorem findBacklight_lit {h : Hud} (max cur : Int) (plain : h.light.draggingBl = false)
    (fits : 0 < h.light.blPct → Fits h.light.blPct) :
    Lit max (h.findBacklight (some (max, cur))).light ∧
      (h.findBacklight (some (max, cur))).light.draggingBl = false := by
  unfold findBacklight
  simp only
  generalize (if 0 < cur then cur else h.light.blCur) = now
  have eighty : Fits 80 := ⟨by decide, by decide⟩
  split
  · next configured =>
      have fits := fits configured
      obtain ⟨cur, device, light⟩ := applyBlPct_light h.light.blPct { h with
        light.blMax := max
        light.blPath := true
        light.blCur := now
        light.blKeep := h.light.blPct }
      rw [fits.clampi_eq] at light
      rw [light]
      exact ⟨⟨⟨fits, fits, fun _ => rfl⟩, rfl, rfl⟩, plain⟩
  · split
    · exact ⟨⟨⟨clampi_fits _, clampi_fits _, fun _ => rfl⟩, rfl, rfl⟩, plain⟩
    · exact ⟨⟨⟨eighty, eighty, fun _ => rfl⟩, rfl, rfl⟩, plain⟩

/-- A backlight that is found is there when the main loop starts. -/
theorem hud_lit (boot : Boot) {max cur : Int} (found : boot.backlight = some (max, cur)) :
    Lit max boot.hud.light := by
  obtain ⟨g, apart, started⟩ := boot.hud_apart
  obtain ⟨plain, fits⟩ := loadHudConf_light boot boot.lang boot.bl
  obtain ⟨lit, idle⟩ := findBacklight_lit max cur plain fits
  rw [← found] at lit idle
  generalize (boot.blank.loadHudConf boot.lang boot.bl).findBacklight boot.backlight = k
    at lit idle apart
  have reset : Lit max k.resetTouch.light :=
    ⟨⟨lit.sound.shown, lit.sound.kept, fun _ => lit.sound.settled idle⟩, lit.max, lit.path⟩
  have kept : Lit max g.light := by
    rw [apart.light]
    exact reset
  rw [started]
  exact kept

/-- **The brightness is kept.** With a backlight and touch devices that report slots, whatever is
on the screen is committed unless a drag is going on, a drag that the screen interrupts is undone,
and the screen comes back with the level of the brightness that was committed last. -/
theorem brightness_committed (boot : Boot) {max cur : Int}
    (found : boot.backlight = some (max, cur)) (positive : 1 ≤ max) {events : List Event}
    (slotted : ∀ event ∈ events, Slotted event) :
    Always step Committed boot.hud events ∧
      EachStep step (KeepsBrightness max) boot.hud events := by
  have initial : Lit max boot.hud.light ∧ boot.hud.touchView.Grip := by
    refine ⟨hud_lit boot found, fun drags => ?_⟩
    rw [boot.hud_reset.plain] at drags
    cases drags
  have preserves : ∀ (h : Hud) event, Lit max h.light ∧ h.touchView.Grip → Slotted event →
      Lit max (h.step event).light ∧ (h.step event).touchView.Grip := by
    rintro h event ⟨lit, grip⟩ slotted
    have turns := step_turns slotted positive lit grip
    exact ⟨turns.lit lit, turns.grip grip⟩
  have inside := @eachStep_of_forall _ _ step _ _ slotted boot.hud
  refine ⟨?_, EachStep.of_invariant preserves ?_ initial inside⟩
  · refine (always_of_eachStep preserves initial inside).mono fun h valid idle _ => ?_
    exact ⟨valid.1.sound.settled idle, valid.1.sound.kept⟩
  · exact fun h event valid slotted =>
      (step_turns slotted positive valid.1 valid.2).keeps positive valid.1

/-- A backlight with twelve bits, half bright. -/
def halfBright : Boot where
  W := 1080
  H := 2400
  backlight := some (4095, 2048)
  nslots := 10
  now := 1000000000
  sys := Mirroring.idle

/-- What the touch device sends at a time in tenths of a second. -/
def sentAt (tenths : Nat) (evs : List Ev) : List Event :=
  evs.map fun ev => .input ⟨.slotted 1080 2400, ev, ⟨tenths * 100000000, none, Mirroring.idle⟩⟩

/-- A finger lands on the brightness bar and drags it to the right. -/
def slide : List Event :=
  sentAt 20 [.abs .mtTrackingId 7, .abs .mtPositionX 500, .abs .mtPositionY 240, .syn] ++
    sentAt 21 [.abs .mtPositionX 832, .syn]

/-- The power key switches the screen off under the finger, and on again. -/
def interrupted : List Event := slide ++ sentAt 30 [.key .power 1] ++ sentAt 80 [.key .power 1]

example : (run step halfBright.hud slide).light.draggingBl = true := by decide +kernel
example : (run step halfBright.hud interrupted).light.blPct = 50 ∧
    (run step halfBright.hud interrupted).light.device = 2048 := by decide +kernel

/-- The interrupted drag is undone, and the brightness is kept. -/
theorem brightness_committed_interrupted :
    Always step Committed halfBright.hud interrupted ∧
      EachStep step (KeepsBrightness 4095) halfBright.hud interrupted :=
  brightness_committed halfBright rfl (by decide) (by decide +kernel)

end Hud

end Ginkgo
