import Ginkgo.Touch.Aside
import Ginkgo.Touch.Stream

/-!
# What becomes of a contact

A contact that has landed may be taken by the keyboard or become a drag. As long as neither
has happened, the HUD remembers where the contact started, and a vertical jump of more than
a quarter of the axis range is a new start (`Ginkgo.Hud.synMove_steers`). When the contact
ends, it is a tap unless it has been taken, was too short or too long or ended too far from
its start (`Ginkgo.Hud.contactUp_touchView`).
-/

namespace Ginkgo

/-- A change of the touch state that only steers the contact. -/
def TouchView.Steered (view view' : TouchView) : Prop :=
  view' = { view with
    touch := { view.touch with
      downX := view'.touch.downX
      downY := view'.touch.downY
      dragging := view'.touch.dragging
      mtGotPos := view'.touch.mtGotPos }
    draggingBl := view'.draggingBl
    held := view'.held }

/-- What steering a contact changes. -/
theorem TouchView.Steered.eq {view view' : TouchView} (steered : view.Steered view') :
    ∃ downX downY dragging mtGotPos draggingBl held, view' = { view with
      touch := { view.touch with downX, downY, dragging, mtGotPos }
      draggingBl
      held } := ⟨_, _, _, _, _, _, steered⟩

/-- The keyboard or a drag has taken the contact. -/
def TouchView.taken (view : TouchView) : Bool := view.held || view.touch.dragging

namespace Hud

/-- **What a report of the followed contact does.** A contact that has been taken stays
taken, and one that has not keeps its start unless it has jumped. -/
structure Steers (dev : Dev) (moved : Bool) (view view' : TouchView) : Prop where
  frame : view.Steered view'
  bl : (view.draggingBl = true → view.touch.dragging = true) →
    view'.draggingBl = true → view'.touch.dragging = true
  base : (view.draggingBl = true → view.touch.dragging = true) → view'.taken = false →
    view.taken = false ∧ (view'.touch.downX, view'.touch.downY) =
      if moved = true ∧ dev.rangeY.tdiv 4 < ((view.touch.slotY - view.touch.downY).natAbs : Int) then
        (view.touch.slotX, view.touch.slotY)
      else (view.touch.downX, view.touch.downY)

namespace Steers

variable {dev : Dev} {moved : Bool} {view view' : TouchView}

/-- A contact that has become a drag. -/
theorem of_dragging (frame : view.Steered view') (drag : view'.touch.dragging = true) :
    Steers dev moved view view' where
  frame := frame
  bl _ _ := drag
  base _ free := by
    unfold TouchView.taken at free
    rw [drag, Bool.or_true] at free
    cases free

/-- A contact that the keyboard has taken. -/
theorem of_held (frame : view.Steered view') (held : view'.held = true)
    (bl : (view.draggingBl = true → view.touch.dragging = true) →
      view'.draggingBl = true → view'.touch.dragging = true) : Steers dev moved view view' where
  frame := frame
  bl := bl
  base _ free := by
    unfold TouchView.taken at free
    rw [held, Bool.true_or] at free
    cases free

end Steers

/-! ## Moves -/

/-- A drag on the bar begins, or nothing. -/
theorem startBlDrag_cases (dev : Dev) (x y : Int) (h : Hud) :
    h.startBlDrag dev x y = h ∨
      h.startBlDrag dev x y = { h with light.draggingBl := true, touch.dragging := true } := by
  unfold startBlDrag
  simp only
  split
  · exact .inr rfl
  · exact .inl rfl

/-- A move without a jump leaves the contact alone or makes it a drag. -/
theorem synDrag_short {dev : Dev} {h : Hud} (x y : Int)
    (short : ¬(h.touch.dragging = false ∧ h.light.draggingBl = false ∧
      dev.rangeY.tdiv 4 < ((h.touch.slotY - h.touch.downY).natAbs : Int))) :
    Aside h (h.synDrag dev x y) ∨
      h.touchView.Steered (h.synDrag dev x y).touchView ∧
        (h.synDrag dev x y).touch.dragging = true := by
  unfold Dev.rangeY at short
  unfold synDrag
  simp only
  rw [if_neg short]
  rcases h.startBlDrag_cases dev x y with same | drag
  · rw [same]
    by_cases bl : h.light.draggingBl = true
    · rw [if_pos bl]
      exact .inl (h.applyBlFromX_aside x)
    · rw [if_neg bl]
      have hovered : Aside h (if h.touch.dragging then h.hoverFromPoint x y else h) :=
        .ite ((h.hoverFromPoint_apart x y).aside) rfl
      generalize (if h.touch.dragging then h.hoverFromPoint x y else h) = g at hovered ⊢
      split
      · refine .inr ⟨?_, rfl⟩
        rw [← hovered]
        rfl
      · exact .inl hovered
  · rw [drag, if_pos rfl]
    have set := applyBlFromX_aside { h with light.draggingBl := true, touch.dragging := true } x
    refine .inr ⟨?_, congrArg (fun view : TouchView => view.touch.dragging) set⟩
    rw [set]
    rfl

/-- A movement that drags steers the contact. -/
theorem synDrag_steers (dev : Dev) (x y : Int) (h : Hud) :
    Steers dev true h.touchView (h.synDrag dev x y).touchView := by
  by_cases jump : h.touch.dragging = false ∧ h.light.draggingBl = false ∧
      dev.rangeY.tdiv 4 < ((h.touch.slotY - h.touch.downY).natAbs : Int)
  · have restarted : h.synDrag dev x y =
        { h with touch.downX := h.touch.slotX, touch.downY := h.touch.slotY } := if_pos jump
    rw [restarted]
    refine ⟨rfl, id, fun _ free => ⟨free, ?_⟩⟩
    exact (if_pos ⟨rfl, jump.2.2⟩).symm
  · rcases synDrag_short x y jump with aside | ⟨frame, drag⟩
    · rw [aside]
      refine ⟨rfl, id, fun drags free => ⟨free, (if_neg ?_).symm⟩⟩
      rintro ⟨-, far⟩
      obtain ⟨-, still⟩ : h.osk.held = false ∧ h.touch.dragging = false := by
        simpa [TouchView.taken, touchView] using free
      have plain : h.light.draggingBl = false := by
        by_contra bl
        have drag : h.touch.dragging = true := drags (by simpa [touchView] using bl)
        simp [still] at drag
      exact jump ⟨still, plain, far⟩
    · exact .of_dragging frame drag

/-- On the password sheet a move may be taken by the keyboard. -/
theorem press_cases (x y : Int) (h : Hud) :
    Aside h (if h.osk.held then h.oskOnMove x y else (h.oskOnDown x y).1) ∨
      (if h.osk.held then h.oskOnMove x y else (h.oskOnDown x y).1).touchView =
        { h.touchView with held := true } := by
  by_cases held : h.osk.held = true
  · rw [if_pos held]
    exact .inl (h.oskOnMove_apart x y).aside
  · rw [if_neg held]
    have view := h.oskOnDown_touchView x y
    cases pressed : (h.oskOnDown x y).2 with
    | false =>
        rw [pressed, Bool.or_false] at view
        exact .inl view
    | true =>
        rw [pressed, Bool.or_true] at view
        exact .inr view

/-- **A report of the followed contact steers it**, and the fresh marks are cleared. -/
theorem synMove_steers (dev : Dev) (h : Hud) :
    ∃ g : Hud, h.synMove dev = g.mtClearFresh ∧
      Steers dev h.touch.mtGotPos h.touchView g.touchView := by
  unfold synMove
  by_cases still : h.touch.mtGotPos = false
  · rw [if_pos still, still]
    exact ⟨h, rfl, rfl, id, fun _ free => ⟨free, (if_neg fun jump => nomatch jump.1).symm⟩⟩
  rw [if_neg still, Bool.eq_true_of_not_eq_false still]
  have noted (view' : TouchView)
      (steers : Steers dev true { h with touch.mtGotPos := false }.touchView view') :
      Steers dev true h.touchView view' := ⟨steers.frame, steers.bl, steers.base⟩
  generalize { h with touch.mtGotPos := false } = g at noted ⊢
  simp only
  split
  · next sheet =>
      have pressed := g.press_cases (g.mapTouch dev).1 (g.mapTouch dev).2
      generalize (if g.osk.held then g.oskOnMove (g.mapTouch dev).1 (g.mapTouch dev).2
        else (g.oskOnDown (g.mapTouch dev).1 (g.mapTouch dev).2).1) = k at pressed ⊢
      split
      · next held =>
          refine ⟨k, rfl, noted _ ?_⟩
          rcases pressed with aside | view
          · rw [aside]
            have taken : g.osk.held = true := (congrArg TouchView.held aside).symm.trans held
            exact .of_held rfl taken id
          · rw [view]
            exact .of_held rfl rfl id
      · next free =>
          refine ⟨_, rfl, noted _ ?_⟩
          rcases pressed with aside | view
          · rw [← aside]
            exact synDrag_steers dev _ _ k
          · exact absurd (congrArg TouchView.held view) free
  · exact ⟨_, rfl, noted _ (synDrag_steers dev _ _ g)⟩

/-! ## Landing and lifting -/

/-- Clearing the fresh marks changes nothing else. -/
theorem mtClearFresh_touchView (h : Hud) :
    h.mtClearFresh.touchView = { h.touchView with
      touch.slots := fun s => { h.touchView.touch.slots s with fresh := false } } := rfl

/-- A landing starts a contact that no drag has taken. -/
theorem synLand_touchView (dev : Dev) (env : EvEnv) (h : Hud) :
    ∃ held : Bool, (h.synLand dev env).touchView =
      { h.touchView with
        touch := { h.touch with
          downX := h.touch.slotX
          downY := h.touch.slotY
          contactArmed := true
          dragging := false
          tDown := env.now
          mtGotPos := false
          slots := fun s => { h.touch.slots s with fresh := false } }
        draggingBl := false
        held := held } := by
  unfold synLand
  generalize landed : ({ h with
    touch.downX := h.touch.slotX
    touch.downY := h.touch.slotY
    touch.contactArmed := true
    touch.dragging := false
    light.draggingBl := false
    touch.tDown := env.now
    touch.mtGotPos := false } : Hud) = g
  have view := g.oskOnDown_touchView (g.mapTouch dev).1 (g.mapTouch dev).2
  generalize (g.oskOnDown (g.mapTouch dev).1 (g.mapTouch dev).2).2 = held at view
  refine ⟨g.osk.held || held, ?_⟩
  simp only [mtClearFresh_touchView]
  rw [view]
  subst landed
  rfl

/-- **What the end of a contact dispatches.** -/
theorem contactUp_touchView (dev : Dev) (armed : Bool) (env : EvEnv) (h : Hud) :
    (h.contactUp dev armed env).touchView = { h.touchView with
      held := false
      taps := if h.touchView.taken = false ∧ armed = true ∧ h.tapOk dev env.now = true then
          h.taps ++ [h.mapTouch dev]
        else h.taps } := by
  have committed : Aside h (if h.light.draggingBl then h.commitBl else h) :=
    .ite h.commitBl_aside rfl
  unfold contactUp
  simp only
  generalize (if h.light.draggingBl then h.commitBl else h) = g at committed ⊢
  have touch : g.touch = h.touch := congrArg TouchView.touch committed
  have held : g.osk.held = h.osk.held := congrArg TouchView.held committed
  have ok : g.tapOk dev env.now = h.tapOk dev env.now := by
    unfold tapOk
    rw [touch]
  rw [held, touch, ok]
  by_cases pressed : h.osk.held = true
  · have taken : h.touchView.taken = true := by
      unfold TouchView.taken
      rw [show h.touchView.held = true from pressed, Bool.true_or]
    rw [if_pos pressed, oskOnUp_touchView, committed, if_neg (by simp [taken])]
    rfl
  · have free : h.osk.held = false := Bool.eq_false_of_not_eq_true pressed
    have taken : h.touchView.taken = h.touch.dragging := by
      unfold TouchView.taken
      rw [show h.touchView.held = false from free, Bool.false_or]
      rfl
    rw [if_neg pressed, taken]
    split
    · have view := tap_touchView (held.trans free) (h.mapTouch dev).1 (h.mapTouch dev).2 env.sys
      have before : g.taps = h.taps := congrArg TouchView.taps committed
      rw [view, committed, before, ← free]
      rfl
    · rw [committed, ← free]
      rfl

/-- The end of the followed contact. -/
theorem synLift_touchView (dev : Dev) {prev : Int} (env : EvEnv) (h : Hud) (followed : 0 ≤ prev) :
    (h.synLift dev prev env).touchView = { h.touchView with
      touch := { h.touch with
        dragging := false
        contactArmed := false
        slots := fun s => { h.touch.slots s with fresh := false } }
      draggingBl := false
      held := false
      taps := if h.touchView.taken = false ∧ h.touch.contactArmed = true ∧
            h.tapOk dev env.now = true then
          h.taps ++ [h.mapTouch dev]
        else h.taps } := by
  have up := h.contactUp_touchView dev h.touch.contactArmed env
  have touch : (h.contactUp dev h.touch.contactArmed env).touch = h.touch :=
    congrArg TouchView.touch up
  unfold synLift
  rw [if_pos followed]
  generalize h.contactUp dev h.touch.contactArmed env = g at up touch ⊢
  have ended : ({ g with
      touch.dragging := false
      light.draggingBl := false
      touch.contactArmed := false } : Hud).mtClearFresh.touchView = { g.touchView with
        touch := { g.touch with
          dragging := false
          contactArmed := false
          slots := fun s => { g.touch.slots s with fresh := false } }
        draggingBl := false } := rfl
  rw [ended, up, touch]

/-- A contact that has not been taken is a tap by its duration and by how far it ends from
its start. -/
theorem tapOk_eq {dev : Dev} {now down : Nat} {trail : Trail} {h : Hud}
    (tDown : h.touch.tDown = down) (clock : down ≠ 0)
    (x : h.touch.slotX = trail.x) (y : h.touch.slotY = trail.y)
    (downX : h.touch.downX = trail.baseX) (downY : h.touch.downY = trail.baseY) :
    h.tapOk dev now = Lifted.isTap dev ⟨trail, down, now, false⟩ := by
  unfold tapOk
  rw [tDown, if_neg clock]
  by_cases long : now - down < 8000000 ∨ 2000000000 < now - down
  · have wrong : ¬(8000000 ≤ now - down ∧ now - down ≤ 2000000000) := by omega
    have out : Lifted.inTime ⟨trail, down, now, false⟩ = false := decide_eq_false wrong
    have refused : Lifted.isTap dev ⟨trail, down, now, false⟩ = false := by
      simp [Lifted.isTap, out]
    rw [refused]
    exact if_pos long
  · have right : 8000000 ≤ now - down ∧ now - down ≤ 2000000000 := by omega
    have within : Lifted.inTime ⟨trail, down, now, false⟩ = true := decide_eq_true right
    have measured : Lifted.isTap dev ⟨trail, down, now, false⟩ = trail.near dev := by
      simp [Lifted.isTap, within]
    simp only
    rw [measured, if_neg long, x, y, downX, downY]
    rfl

end Hud

end Ginkgo
