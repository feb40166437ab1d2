import Ginkgo.Hud.Handles

/-!
# Where a contact ends

Of all that an input event can bring about, only the end of a contact goes below the surface:
it releases a key of the keyboard or is a tap. `Ginkgo.Hud.evEnd` is the state in which an
event finds a contact at its end. What the handling of the event does before and after
`contact_up` stays on the surface (`Ginkgo.Hud.handleEv_ends`), and so does the handling of an
event that ends no contact (`Ginkgo.Hud.handleEv_handles`).
-/

namespace Ginkgo

open CText

/-- The end of a contact: the state in which `contact_up` finds it, and its arguments. -/
structure ContactEnd where
  hud : Hud
  dev : Dev
  armed : Bool
  env : EvEnv

namespace ContactEnd

/-- What `contact_up` makes of it. -/
def up (c : ContactEnd) : Hud := c.hud.contactUp c.dev c.armed c.env

/-- A brightness drag has been committed. -/
def committed (c : ContactEnd) : Hud := if c.hud.light.draggingBl then c.hud.commitBl else c.hud

/-- Where the contact ends. -/
def point (c : ContactEnd) : Int × Int := c.hud.mapTouch c.dev

/-- The key that `osk_on_up` activates and the state in which it does. -/
def activation (c : ContactEnd) : Option (OskKey × Hud) :=
  if c.committed.osk.held then
    let g := c.committed.layoutKeys
    ((g.oskKeyAt c.point.1 c.point.2 <|> g.osk.hi).bind fun i => g.osk.keys[i]?).map (·, g)
  else none

/-- The contact is a tap. -/
def isTap (c : ContactEnd) : Bool :=
  c.committed.osk.held = false ∧ c.committed.touch.dragging = false ∧ c.armed ∧
    c.committed.tapOk c.dev c.env.now

end ContactEnd

namespace Hud

/-- The end of a contact that a report brings. -/
def synEnd (dev : Dev) (env : EvEnv) (h : Hud) : Option ContactEnd :=
  let h := h.mtSyncFromKernel env.slots
  let prev := h.touch.slotId
  let h := h.mtBindPrimary dev
  if 1 < h.touch.mtNraw ∧ h.touch.contactArmed = false ∧ prev < 0 then none
  else if h.touch.slotId < 0 ∧ 0 ≤ prev then some ⟨h, dev, h.touch.contactArmed, env⟩
  else none

/-- The end of a contact that the button of a device without slots brings. -/
def btnEnd (dev : Dev) (value : Int) (env : EvEnv) (h : Hud) : Option ContactEnd :=
  if dev.hasMt = false ∧ value ≠ 1 ∧ 0 ≤ h.touch.slotId then some ⟨h, dev, true, env⟩ else none

/-- The end of a contact that an event of an input device brings. -/
def evEnd (dev : Dev) (ev : Ev) (env : EvEnv) (h : Hud) : Option ContactEnd :=
  if ev = .key .power 1 then none
  else if dev.isTouch ∧ h.screen.tUnblank ≠ 0 ∧ env.now - h.screen.tUnblank < 250000000 then none
  else if h.screen.screenOff then none
  else
    let h := { h with screen.tUser := env.now }
    if dev.isTouch = false then none
    else match ev with
      | .key .btnTouch value => h.btnEnd dev value env
      | .key .btnLeft value => h.btnEnd dev value env
      | .syn => h.synEnd dev env
      | _ => none

/-- **Handling goes below the surface at the end of a contact only.** -/
inductive Contacts (h h' : Hud) : Option ContactEnd → Prop
  | handled (handles : Handles h h') : Contacts h h' none
  | ended (c : ContactEnd) (before : Handles h c.hud) (after : Handles c.up h') :
      Contacts h h' (some c)

variable {h h' g : Hud} {found : Option ContactEnd}

/-- A change on the surface may come first. -/
theorem Contacts.after (contacts : Contacts g h' found) (first : Handles h g) :
    Contacts h h' found := by
  cases contacts with
  | handled handles => exact .handled (first.trans handles)
  | ended c before after => exact .ended c (first.trans before) after

/-- A device without slots ends a contact with its button. -/
theorem handleBtn_contacts (h : Hud) {dev : Dev} (value : Int) (env : EvEnv)
    (plain : dev.hasMt = false) :
    Contacts h (h.handleBtn dev value env) (h.btnEnd dev value env) := by
  unfold handleBtn btnEnd
  by_cases pressed : value = 1
  · rw [if_pos pressed, if_neg (by simp [pressed])]
    refine .handled (Handles.trans ?_ (oskOnDown_handles _ _ _))
    exact ⟨rfl, .inl, id⟩
  · rw [if_neg pressed]
    by_cases followed : 0 ≤ h.touch.slotId
    · rw [if_pos followed, if_pos ⟨plain, pressed, followed⟩]
      exact .ended _ (.refl h) (resetTouch_handles _)
    · rw [if_neg followed, if_neg fun found => followed found.2.2]
      exact .handled (.refl h)

/-- The end of a report ends the followed contact when it has gone. -/
theorem handleSyn_contacts (h : Hud) (dev : Dev) (env : EvEnv) :
    Contacts h (h.handleSyn dev env) (h.synEnd dev env) := by
  unfold handleSyn synEnd
  simp only
  have bound : Handles h ((h.mtSyncFromKernel env.slots).mtBindPrimary dev) :=
    (h.mtSyncFromKernel_handles env.slots).trans (mtBindPrimary_handles _ dev)
  refine Contacts.after ?_ bound
  generalize (h.mtSyncFromKernel env.slots).touch.slotId = prev
  generalize (h.mtSyncFromKernel env.slots).mtBindPrimary dev = g
  split
  · exact .handled g.mtClearFresh_handles
  · by_cases lifted : g.touch.slotId < 0
    · rw [if_pos lifted]
      unfold synLift
      by_cases followed : 0 ≤ prev
      · have ends : g.touch.slotId < 0 ∧ 0 ≤ prev := ⟨lifted, followed⟩
        rw [if_pos followed, if_pos ends]
        exact .ended _ (.refl g) ⟨rfl, .inl, id⟩
      · have idle : ¬(g.touch.slotId < 0 ∧ 0 ≤ prev) := fun ends => followed ends.2
        rw [if_neg followed, if_neg idle]
        exact .handled g.mtClearFresh_handles
    · have idle : ¬(g.touch.slotId < 0 ∧ 0 ≤ prev) := fun ends => lifted ends.1
      rw [if_neg lifted, if_neg idle]
      exact .handled (.ite (g.synLand_handles dev env) (g.synMove_handles dev))

/-- **An event of an input device.** -/
theorem handleEv_contacts (h : Hud) (dev : Dev) (ev : Ev) (env : EvEnv) :
    Contacts h (h.handleEv dev ev env) (h.evEnd dev ev env) := by
  unfold handleEv evEnd
  split
  · refine .handled (.ite (.refl h) (Handles.trans ?_ (setScreen_handles _ _ _)))
    exact ⟨rfl, .inl, id⟩
  · split
    · exact .handled (.refl h)
    · split
      · exact .handled (h.handleOff_handles dev ev env)
      · have touched : Handles h { h with screen.tUser := env.now } := ⟨rfl, .inl, id⟩
        refine Contacts.after ?_ touched
        generalize { h with screen.tUser := env.now } = g
        simp only
        split
        · exact .handled (.refl g)
        · have pressed (value : Int) : Contacts g
              (if dev.hasMt then g else g.handleBtn dev value env) (g.btnEnd dev value env) := by
            by_cases slotted : dev.hasMt = true
            · rw [if_pos slotted, btnEnd, if_neg (by simp [slotted])]
              exact .handled (.refl g)
            · rw [if_neg slotted]
              exact g.handleBtn_contacts value env (by simpa using slotted)
          cases ev with
          | syn => exact g.handleSyn_contacts dev env
          | abs code value => exact .handled (g.handleAbs_handles dev code value)
          | key code value =>
              cases code with
              | btnTouch => exact pressed value
              | btnLeft => exact pressed value
              | power => exact .handled (.refl g)
              | other => exact .handled (.refl g)
          | other => exact .handled (.refl g)

/-- An event that ends no contact stays on the surface. -/
theorem handleEv_handles {dev : Dev} {ev : Ev} {env : EvEnv} (none : h.evEnd dev ev env = none) :
    Handles h (h.handleEv dev ev env) := by
  have contacts := h.handleEv_contacts dev ev env
  rw [none] at contacts
  cases contacts with
  | handled handles => exact handles

/-- **An event that ends a contact** is `contact_up` between two changes on the surface. -/
theorem handleEv_ends {dev : Dev} {ev : Ev} {env : EvEnv} {c : ContactEnd}
    (ends : h.evEnd dev ev env = some c) :
    Handles h c.hud ∧ Handles c.up (h.handleEv dev ev env) := by
  have contacts := h.handleEv_contacts dev ev env
  rw [ends] at contacts
  cases contacts with
  | ended c before after => exact ⟨before, after⟩

end Hud

/-! ## What the end of a contact does -/

namespace ContactEnd

variable (c : ContactEnd)

/-- Committing a drag is on the surface. -/
theorem committed_handles : Hud.Handles c.hud c.committed :=
  .ite c.hud.commitBl_handles (.refl c.hud)

/-- **The end of a contact** activates a key, releases the keyboard without one, is a tap or
does nothing. -/
theorem up_eq : c.up =
    if c.committed.osk.held then
      let g := match c.activation with
        | some (k, g) => g.oskActivate k c.env.sys
        | none => c.committed.layoutKeys
      { g with osk.held := false, osk.hi := none }
    else if c.isTap then c.committed.tap c.point.1 c.point.2 c.env.sys
    else c.committed := by
  unfold up Hud.contactUp
  simp only
  change (if c.committed.osk.held then (c.committed.oskOnUp c.point.1 c.point.2 c.env.sys).1 else
    if c.committed.touch.dragging = false ∧ c.armed = true ∧ c.committed.tapOk c.dev c.env.now then
      c.committed.tap c.point.1 c.point.2 c.env.sys else c.committed) = _
  by_cases held : c.committed.osk.held = true
  · rw [if_pos held, if_pos held, Hud.oskOnUp, if_neg (by simp [held]), activation, if_pos held]
    simp only
    cases (c.committed.layoutKeys.oskKeyAt c.point.1 c.point.2 <|>
      c.committed.layoutKeys.osk.hi).bind fun i => c.committed.layoutKeys.osk.keys[i]? <;> rfl
  · rw [if_neg held, if_neg held]
    have free : c.committed.osk.held = false := by simpa using held
    simp [isTap, free]

end ContactEnd

end Ginkgo
