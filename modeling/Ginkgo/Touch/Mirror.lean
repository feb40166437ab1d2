import Ginkgo.Touch.Gesture
import Ginkgo.Touch.Slots

/-!
# The copy of the slot table and the input core

The input core keeps the slot table of a touch device and sends an event for each change;
the HUD enters the events it takes in its own copy and fills the gaps at the end of a report.
As long as every position that it takes arrives while both have the same current slot, the
copy shows every contact at the end of every report (`Ginkgo.Mirroring.contacts_shown`).
Blanking the screen forgets the current slot, which the input core does not send again: a
finger in another slot then stays where it was (`Ginkgo.Mirroring.blanked_contact_stays`).
-/

namespace Ginkgo

open CText Transition

/-! ## The input core -/

/-- A slot of the input core. -/
structure MtSlot where
  id : Int := -1
  x : Int := 0
  y : Int := 0
  major : Int := 0
  z : Int := 0

/-- The slot table of the input core; a device may have more slots than the HUD. -/
structure MtTable where
  cur : Nat := 0
  slots : Nat → MtSlot := fun _ => {}

/-- What a slot of the input core makes of an axis event. -/
def MtSlot.put (code : AbsCode) (value : Int) (slot : MtSlot) : MtSlot :=
  match code with
  | .mtTrackingId => { slot with id := value }
  | .mtPositionX => { slot with x := value }
  | .mtPositionY => { slot with y := value }
  | .mtTouchMajor => { slot with major := value }
  | .mtPressure => { slot with z := value }
  | _ => slot

/-- The value that an axis of a slot has. -/
def MtSlot.get (code : AbsCode) (slot : MtSlot) : Option Int :=
  match code with
  | .mtTrackingId => some slot.id
  | .mtPositionX => some slot.x
  | .mtPositionY => some slot.y
  | .mtTouchMajor => some slot.major
  | .mtPressure => some slot.z
  | _ => none

namespace MtTable

/-- What the slot table of the input core makes of an event. -/
def put (table : MtTable) : Ev → MtTable
  | .abs .mtSlot value => if 0 ≤ value then { table with cur := value.toNat } else table
  | .abs code value =>
      { table with
        slots := Function.update table.slots table.cur ((table.slots table.cur).put code value) }
  | _ => table

/-- What `EVIOCGMTSLOTS` answers. -/
def answer (table : MtTable) : MtSlots where
  id s := (table.slots s).id
  x s := (table.slots s).x
  y s := (table.slots s).y
  major s := (table.slots s).major
  z s := (table.slots s).z

/-- The current slot and the axes of a slot are sent only when they change. -/
def Sends (table : MtTable) : Ev → Prop
  | .abs .mtSlot value => value ≠ table.cur
  | .abs code value => (table.slots table.cur).get code ≠ some value
  | _ => True

instance (table : MtTable) : (ev : Ev) → Decidable (table.Sends ev)
  | .abs .mtSlot _ => inferInstanceAs (Decidable (_ ≠ _))
  | .abs .x _ | .abs .y _ | .abs .mtTrackingId _ | .abs .mtPositionX _ | .abs .mtPositionY _
  | .abs .mtTouchMajor _ | .abs .mtPressure _ | .abs .other _ =>
      inferInstanceAs (Decidable (_ ≠ _))
  | .syn | .key _ _ | .other => .isTrue trivial

/-- An axis event of the input core goes to its current slot. -/
theorem put_slots (table : MtTable) (code : AbsCode) (value : Int) (n : Nat) :
    (table.put (.abs code value)).slots n =
      if n = table.cur then (table.slots n).put code value else table.slots n := by
  by_cases here : n = table.cur
  · subst here
    cases code with
    | mtSlot =>
        simp only [MtTable.put, apply_ite MtTable.slots, ite_self, MtSlot.put]
    | _ => simp [MtTable.put]
  · rw [if_neg here]
    cases code with
    | mtSlot => simp only [MtTable.put, apply_ite MtTable.slots, ite_self]
    | _ => simp [MtTable.put, here]

end MtTable

/-! ## The touch device and the HUD -/

/-- The HUD, the slot table of the touch device, and the time of its last event. -/
structure Mirroring where
  hud : Hud
  table : MtTable
  clock : Nat

/-- The touch device is the only one: other input devices have keys. -/
def Elsewhere : Event → Prop
  | .input input => input.dev.isTouch = false
  | _ => True

/-- An event of the touch device, handled as soon as it is sent, or anything else that the
main loop does. -/
inductive MirrorAct where
  | touch (elapsed : Nat) (ev : Ev) (sys : Sys)
  | other (event : Event) (elsewhere : Elsewhere event)

namespace Mirroring

/-- One event of the device, or one part of the main loop. -/
def step (dev : Dev) (s : Mirroring) : MirrorAct → Mirroring
  | .touch elapsed ev sys =>
      let table := s.table.put ev
      let now := s.clock + elapsed
      { hud := s.hud.handleEv dev ev { now, slots := some table.answer, sys }, table, clock := now }
  | .other event _ => { s with hud := s.hud.step event }

/-- An event of the touch device is handled at its time, with the answer of the input core. -/
theorem step_touch (dev : Dev) (s : Mirroring) (elapsed : Nat) (ev : Ev) (sys : Sys) :
    ∃ env : EvEnv, env.now = s.clock + elapsed ∧ env.slots = some (s.table.put ev).answer ∧
      s.step dev (.touch elapsed ev sys) =
        ⟨s.hud.handleEv dev ev env, s.table.put ev, s.clock + elapsed⟩ := ⟨_, rfl, rfl, rfl⟩

/-- The screen was switched on less than a quarter of a second ago. -/
def justOn (tUnblank now : Nat) : Prop := tUnblank ≠ 0 ∧ now - tUnblank < 250000000

/-- The screen is on and has been for a quarter of a second. -/
def Listens (s : Mirroring) (now : Nat) : Prop :=
  s.hud.screen.screenOff = false ∧ ¬justOn s.hud.screen.tUnblank now

/-- The copy shows every contact at its place. -/
def Shows (s : Mirroring) : Prop :=
  ∀ slot : Fin maxSlots, slot.val < s.hud.touch.mtNslots → 0 ≤ (s.table.slots slot).id →
    (s.hud.touch.slots slot).id = (s.table.slots slot).id ∧
      (s.hud.touch.slots slot).x = (s.table.slots slot).x ∧
      (s.hud.touch.slots slot).y = (s.table.slots slot).y

/-- **The copy shows the contacts** after a report, if the HUD listens at its end. -/
def ShowsAfter (dev : Dev) (s : Mirroring) : MirrorAct → Prop
  | .touch elapsed .syn sys =>
      s.Listens (s.clock + elapsed) → (s.step dev (.touch elapsed .syn sys)).Shows
  | _ => True

/-- **A position is aimed** when the HUD, if it listens, has the current slot of the input
core. -/
def Aimed (s : Mirroring) : MirrorAct → Prop
  | .touch elapsed (.abs code _) _ =>
      code = .mtPositionX ∨ code = .mtPositionY → s.Listens (s.clock + elapsed) →
        (s.hud.touch.mtCur : Nat) = s.table.cur
  | _ => True

/-- The touch device sends changes only. -/
def Sent (s : Mirroring) : MirrorAct → Prop
  | .touch _ ev _ => s.table.Sends ev
  | .other _ _ => True

instance (tUnblank now : Nat) : Decidable (justOn tUnblank now) :=
  inferInstanceAs (Decidable (_ ∧ _))

instance (s : Mirroring) (now : Nat) : Decidable (s.Listens now) :=
  inferInstanceAs (Decidable (_ ∧ _))

instance (s : Mirroring) : Decidable s.Shows := inferInstanceAs (Decidable (∀ _, _ → _ → _))

instance (s : Mirroring) : (act : MirrorAct) → Decidable (s.Aimed act)
  | .touch _ (.abs _ _) _ => inferInstanceAs (Decidable (_ → _ → _))
  | .touch _ .syn _ | .touch _ (.key _ _) _ | .touch _ .other _ | .other _ _ => .isTrue trivial

instance (s : Mirroring) : (act : MirrorAct) → Decidable (s.Sent act)
  | .touch _ ev _ => inferInstanceAs (Decidable (s.table.Sends ev))
  | .other _ _ => .isTrue trivial

end Mirroring

/-! ## What the copy keeps -/

/-- The same slot table, but for the fresh marks, on the same screen. -/
structure TouchView.SameCopy (view view' : TouchView) : Prop where
  cur : view'.touch.mtCur = view.touch.mtCur
  count : view'.touch.mtNslots = view.touch.mtNslots
  slots : ∀ s, ∃ fresh, view'.touch.slots s = { view.touch.slots s with fresh }
  screenOff : view'.screenOff = view.screenOff
  tUnblank : view'.tUnblank = view.tUnblank

/-- No position is known. -/
def TouchView.Clear (view : TouchView) : Prop :=
  ∀ s, (view.touch.slots s).haveX = false ∧ (view.touch.slots s).haveY = false

/-- Nothing is known of the slot. -/
structure Slot.Bare (slot : Slot) : Prop where
  id : slot.id < 0
  haveX : slot.haveX = false
  haveY : slot.haveY = false
  fresh : slot.fresh = false

/-- No slot is known and no contact is followed. -/
structure TouchView.Reset (view : TouchView) : Prop where
  slots : ∀ s, (view.touch.slots s).Bare
  slotId : view.touch.slotId < 0
  unarmed : view.touch.contactArmed = false
  plain : view.draggingBl = false

/-- **The copy agrees with the input core** on the positions that it knows, and it knows none
while the screen has just been switched on. -/
structure TouchView.Tracks (table : MtTable) (clock : Nat) (view : TouchView) : Prop where
  x : ∀ s : Fin maxSlots, (view.touch.slots s).haveX = true →
    (view.touch.slots s).x = (table.slots s).x
  y : ∀ s : Fin maxSlots, (view.touch.slots s).haveY = true →
    (view.touch.slots s).y = (table.slots s).y
  clear : Mirroring.justOn view.tUnblank clock → view.Clear

namespace TouchView

variable {view view' view'' : TouchView} {table : MtTable} {clock clock' : Nat}

/-- The copy is the same after two changes that leave it. -/
theorem SameCopy.trans (first : view.SameCopy view') (second : view'.SameCopy view'') :
    view.SameCopy view'' := by
  refine ⟨second.cur.trans first.cur, second.count.trans first.count, ?_,
    second.screenOff.trans first.screenOff, second.tUnblank.trans first.tUnblank⟩
  intro s
  obtain ⟨fresh, same⟩ := second.slots s
  obtain ⟨before, earlier⟩ := first.slots s
  exact ⟨fresh, by rw [same, earlier]⟩

/-- A copy without a known position stays one. -/
theorem Clear.of_sameCopy (clear : view.Clear) (same : view.SameCopy view') : view'.Clear := by
  intro s
  obtain ⟨fresh, eq⟩ := same.slots s
  rw [eq]
  exact clear s

/-- Without a known slot no position is known. -/
theorem Reset.clear (reset : view.Reset) : view.Clear := fun s =>
  ⟨(reset.slots s).haveX, (reset.slots s).haveY⟩

/-- Whether anything is known depends on the touch state and on the bar. -/
theorem Reset.of_same (reset : view.Reset) (touch : view'.touch = view.touch)
    (plain : view'.draggingBl = view.draggingBl) : view'.Reset where
  slots := by rw [touch]; exact reset.slots
  slotId := by rw [touch]; exact reset.slotId
  unarmed := by rw [touch]; exact reset.unarmed
  plain := plain.trans reset.plain

/-- Where no position is known, the tables agree. -/
theorem Tracks.of_clear (clear : view.Clear) : view.Tracks table clock where
  x s known := by simp [(clear s).1] at known
  y s known := by simp [(clear s).2] at known
  clear _ := clear

/-- The agreement is about the copy only. -/
theorem Tracks.of_sameCopy (tracks : view.Tracks table clock) (same : view.SameCopy view') :
    view'.Tracks table clock where
  x s known := by
    obtain ⟨fresh, eq⟩ := same.slots s
    rw [eq] at known ⊢
    exact tracks.x s known
  y s known := by
    obtain ⟨fresh, eq⟩ := same.slots s
    rw [eq] at known ⊢
    exact tracks.y s known
  clear just := (tracks.clear (same.tUnblank ▸ just)).of_sameCopy same

/-- Time passes. -/
theorem Tracks.later (tracks : view.Tracks table clock) (later : clock ≤ clock') :
    view.Tracks table clock' where
  x := tracks.x
  y := tracks.y
  clear just := by
    obtain ⟨on, short⟩ := just
    exact tracks.clear ⟨on, by omega⟩

end TouchView

namespace Hud

/-! ## The screen -/

/-- After `reset_touch` nothing is known. -/
theorem resetTouch_reset (h : Hud) : h.resetTouch.touchView.Reset where
  slots _ := ⟨neg_one_lt_zero, rfl, rfl, rfl⟩
  slotId := neg_one_lt_zero
  unarmed := rfl
  plain := rfl

/-- When the screen is switched on, nothing is known. -/
theorem setScreen_on_reset {h : Hud} (off : h.screen.screenOff = true) (now : Nat) :
    (h.setScreen true now).touchView.Reset := by
  have reset := resetTouch_reset { h with screen.screenOff := false }
  have lit (g : Hud) (pct : Int) (reset : g.touchView.Reset) :
      (g.applyBlPct pct).touchView.Reset := by
    rw [g.applyBlPct_aside pct]
    exact reset
  unfold setScreen
  rw [if_pos rfl, if_neg (by simp [off])]
  exact lit _ _ ⟨reset.slots, reset.slotId, reset.unarmed, reset.plain⟩

/-- Afterwards the screen is on. -/
theorem setScreen_on_screenOff (h : Hud) (now : Nat) :
    (h.setScreen true now).screen.screenOff = false := by
  unfold setScreen
  rw [if_pos rfl]
  split
  · assumption
  · exact congrArg TouchView.screenOff (applyBlPct_aside _ _)

/-- Afterwards it is off. -/
theorem setScreen_off_screenOff (h : Hud) (now : Nat) :
    (h.setScreen false now).screen.screenOff = true := by
  unfold setScreen
  rw [if_neg (by decide)]
  split
  · assumption
  · rfl

/-- An axis event does not switch the screen. -/
theorem handleAbs_screen (dev : Dev) (code : AbsCode) (value : Int) (h : Hud) :
    (h.handleAbs dev code value).screen = h.screen := by
  unfold handleAbs
  split
  · cases code <;> rfl
  · cases code with
    | mtSlot =>
        simp only
        split <;> rfl
    | mtTrackingId =>
        simp only [mtTracking]
        split <;> rfl
    | _ => rfl

/-! ## What becomes of an event -/

/-- **What the handling of an event comes to**, if every touch device has slots. -/
inductive Handled (dev : Dev) (ev : Ev) (env : EvEnv) (h : Hud) : Hud → Prop
  | ignored : Handled dev ev env h h
  | switched (power : ev = .key .power 1) : Handled dev ev env h
      ({ h with screen.tPowerKey := env.now }.setScreen h.screen.screenOff env.now)
  | searched (off : h.screen.screenOff = true) (report : ev = .syn) : Handled dev ev env h
      ((h.mtSyncFromKernel env.slots).mtFinger dev).1.mtClearFresh
  | woken (off : h.screen.screenOff = true) (report : ev = .syn) : Handled dev ev env h
      (((h.mtSyncFromKernel env.slots).mtFinger dev).1.setScreen true env.now).mtClearFresh
  | noted (user : Nat) : Handled dev ev env h { h with screen.tUser := user }
  | entered (user : Nat) (slots : dev.hasMt = true) (code : AbsCode) (value : Int)
      (axis : ev = .abs code value) :
      Handled dev ev env h ({ h with screen.tUser := user }.handleAbs dev code value)
  | reported (touch : dev.isTouch = true) (on : h.screen.screenOff = false) (report : ev = .syn)
      (listens : ¬Mirroring.justOn h.screen.tUnblank env.now) :
      Handled dev ev env h ({ h with screen.tUser := env.now }.handleSyn dev env)

/-- An event that finds the screen off comes to one of the cases. -/
theorem handleOff_handled (dev : Dev) (ev : Ev) (env : EvEnv) {h : Hud}
    (off : h.screen.screenOff = true) : Handled dev ev env h (h.handleOff dev ev env) := by
  unfold handleOff
  split
  · exact .ignored
  · cases ev with
    | syn =>
        simp only
        split
        · exact .woken off rfl
        · exact .searched off rfl
    | abs code value =>
        simp only
        split
        · next taken => exact .entered h.screen.tUser taken.2.1 code value rfl
        · exact .ignored
    | key code value => exact .ignored
    | other => exact .ignored

/-- **Every event comes to one of the cases.** -/
theorem handleEv_handled {dev : Dev} (slots : dev.isTouch = true → dev.hasMt = true) (ev : Ev)
    (env : EvEnv) (h : Hud) : Handled dev ev env h (h.handleEv dev ev env) := by
  unfold handleEv
  split
  · next power =>
      split
      · exact .ignored
      · exact .switched power
  · split
    · exact .ignored
    · next listens =>
        split
        · next off => exact handleOff_handled dev ev env off
        · next on =>
            simp only
            split
            · exact .noted env.now
            · next touch =>
                have device : dev.isTouch = true := Bool.eq_true_of_not_eq_false touch
                cases ev with
                | syn =>
                    refine .reported device (Bool.eq_false_of_not_eq_true on) rfl fun just => ?_
                    exact listens ⟨device, just⟩
                | abs code value => exact .entered env.now (slots device) code value rfl
                | key code value =>
                    cases code <;> simp only [slots device, if_true] <;> exact .noted env.now
                | other => exact .noted env.now

/-- An event that finds the screen off and leaves it on leaves nothing known. -/
theorem handleOff_reset {dev : Dev} {ev : Ev} {env : EvEnv} {h : Hud}
    (off : h.screen.screenOff = true) (on : (h.handleOff dev ev env).screen.screenOff = false) :
    (h.handleOff dev ev env).touchView.Reset := by
  have never {g : Hud} (dark : g.screen.screenOff = true) (lit : g.screen.screenOff = false) :
      g.touchView.Reset := by simp [dark] at lit
  have searched : ((h.mtSyncFromKernel env.slots).mtFinger dev).1.screen.screenOff = true := by
    unfold mtFinger mtSyncFromKernel
    cases env.slots <;> exact off
  have handled := handleOff_handled dev ev env off
  generalize h.handleOff dev ev env = h' at handled on ⊢
  cases handled with
  | ignored => exact never off on
  | switched =>
      rw [off]
      exact @setScreen_on_reset { h with screen.tPowerKey := env.now } off env.now
  | searched => exact never searched on
  | woken =>
      have reset := setScreen_on_reset searched env.now
      exact ⟨fun s => ⟨(reset.slots s).id, (reset.slots s).haveX, (reset.slots s).haveY, rfl⟩,
        reset.slotId, reset.unarmed, reset.plain⟩
  | noted => exact never off on
  | entered user slots code value =>
      exact never ((congrArg Screen.screenOff (handleAbs_screen dev code value _)).trans off) on
  | reported touch lit =>
      rw [off] at lit
      cases lit

/-! Whatever finds or leaves the screen on has reset the contacts, or has not touched them, or
is an event of the touch device that the HUD listens to. -/

/-- The power key switches the screen on or bounces, if the screen is on afterwards. -/
theorem powerKey_lit {dev : Dev} {env : EvEnv} {h : Hud}
    (on : (h.handleEv dev (.key .power 1) env).screen.screenOff = false) :
    h.screen.screenOff = true ∧ (h.handleEv dev (.key .power 1) env).touchView.Reset ∨
      h.screen.screenOff = false ∧ h.handleEv dev (.key .power 1) env = h := by
  unfold handleEv at on ⊢
  rw [if_pos rfl] at on ⊢
  split at on
  · next bounced =>
      rw [if_pos bounced]
      exact .inr ⟨on, rfl⟩
  · next settled =>
      rw [if_neg settled]
      cases off : h.screen.screenOff with
      | true =>
          have reset := @setScreen_on_reset { h with screen.tPowerKey := env.now } off env.now
          exact .inl ⟨rfl, reset⟩
      | false =>
          rw [off, setScreen_off_screenOff] at on
          cases on

/-- An event of the touch device. -/
theorem handleEv_lit {dev : Dev} {ev : Ev} {env : EvEnv} {h : Hud} (touch : dev.isTouch = true)
    (on : (h.handleEv dev ev env).screen.screenOff = false) :
    h.screen.screenOff = true ∧ (h.handleEv dev ev env).touchView.Reset ∨
      h.screen.screenOff = false ∧ h.handleEv dev ev env = h ∧
          (Mirroring.justOn h.screen.tUnblank env.now ∨ ev = .key .power 1) ∨
        h.screen.screenOff = false ∧ ¬Mirroring.justOn h.screen.tUnblank env.now ∧
          ev ≠ .key .power 1 := by
  by_cases power : ev = .key .power 1
  · subst power
    rcases powerKey_lit on with woken | ⟨lit, bounced⟩
    · exact .inl woken
    · exact .inr (.inl ⟨lit, bounced, .inr rfl⟩)
  by_cases just : Mirroring.justOn h.screen.tUnblank env.now
  · have ignored : h.handleEv dev ev env = h := by
      unfold handleEv
      rw [if_neg power, if_pos ⟨touch, just⟩]
    rw [ignored] at on
    exact .inr (.inl ⟨on, ignored, .inl just⟩)
  cases off : h.screen.screenOff with
  | true =>
      have dark : h.handleEv dev ev env = h.handleOff dev ev env := by
        unfold handleEv
        rw [if_neg power, if_neg fun ignored => just ignored.2, if_pos off]
      rw [dark] at on ⊢
      exact .inl ⟨rfl, handleOff_reset off on⟩
  | false => exact .inr (.inr ⟨rfl, just, power⟩)

/-- Anything else that the main loop does. -/
theorem step_elsewhere {event : Event} {h : Hud} (elsewhere : Elsewhere event)
    (on : (h.step event).screen.screenOff = false) :
    h.screen.screenOff = true ∧ (h.step event).touchView.Reset ∨ Aside h (h.step event) := by
  cases event with
  | input input =>
      obtain ⟨dev, ev, env⟩ := input
      have keys : dev.isTouch = false := elsewhere
      change (h.handleEv dev ev env).screen.screenOff = false at on
      change _ ∧ (h.handleEv dev ev env).touchView.Reset ∨ Aside h (h.handleEv dev ev env)
      by_cases power : ev = .key .power 1
      · subst power
        exact (powerKey_lit on).imp_right fun bounced => congrArg touchView bounced.2
      have ignored : ¬(dev.isTouch = true ∧ h.screen.tUnblank ≠ 0 ∧
          env.now - h.screen.tUnblank < 250000000) := by simp [keys]
      unfold handleEv at on ⊢
      rw [if_neg power, if_neg ignored] at on ⊢
      split at on
      · next off =>
          rw [if_pos off]
          exact .inl ⟨off, handleOff_reset off on⟩
      · next lit =>
          rw [if_neg lit, if_pos keys]
          exact .inr rfl
  | idleOff now =>
      change (h.idleOff now).screen.screenOff = false at on
      change _ ∧ (h.idleOff now).touchView.Reset ∨ Aside h (h.idleOff now)
      unfold idleOff at on ⊢
      split at on
      · rw [setScreen_off_screenOff] at on
        cases on
      · next kept =>
          rw [if_neg kept]
          exact .inr rfl
  | _ => exact .inr (Apart.aside (step_apart h trivial))

/-! ## The end of a report -/

/-- Binding a slot leaves the copy. -/
theorem mtBindPrimary_sameCopy (dev : Dev) (h : Hud) :
    h.touchView.SameCopy (h.mtBindPrimary dev).touchView := by
  have bound (g : Hud) (slot : Option (Fin maxSlots)) :
      g.touchView.SameCopy (g.bindTo slot).touchView := by
    cases slot <;> exact ⟨rfl, rfl, fun _ => ⟨_, rfl⟩, rfl, rfl⟩
  have counted : h.touchView.SameCopy (h.mtFinger dev).1.touchView :=
    ⟨rfl, rfl, fun _ => ⟨_, rfl⟩, rfl, rfl⟩
  have searched : h.touchView.SameCopy
      ((h.mtFinger dev).1.bindTo (h.mtFinger dev).2).touchView := counted.trans (bound _ _)
  unfold mtBindPrimary
  cases h.touch.bindSlot with
  | none => exact searched
  | some s =>
      simp only
      split
      · exact bound h _
      · exact searched

/-- Clearing the fresh marks does. -/
theorem mtClearFresh_sameCopy (h : Hud) : h.touchView.SameCopy h.mtClearFresh.touchView :=
  ⟨rfl, rfl, fun _ => ⟨false, rfl⟩, rfl, rfl⟩

/-- The end of a contact does. -/
theorem synLift_sameCopy (dev : Dev) (prev : Int) (env : EvEnv) (h : Hud) :
    h.touchView.SameCopy (h.synLift dev prev env).touchView := by
  by_cases followed : 0 ≤ prev
  · rw [h.synLift_touchView dev env followed]
    exact ⟨rfl, rfl, fun _ => ⟨false, rfl⟩, rfl, rfl⟩
  · unfold synLift
    rw [if_neg followed]
    exact h.mtClearFresh_sameCopy

theorem synLand_sameCopy (dev : Dev) (env : EvEnv) (h : Hud) :
    h.touchView.SameCopy (h.synLand dev env).touchView := by
  obtain ⟨held, view⟩ := h.synLand_touchView dev env
  rw [view]
  exact ⟨rfl, rfl, fun _ => ⟨false, rfl⟩, rfl, rfl⟩

theorem synMove_sameCopy (dev : Dev) (h : Hud) :
    h.touchView.SameCopy (h.synMove dev).touchView := by
  obtain ⟨g, moved, steers⟩ := h.synMove_steers dev
  have steered : h.touchView.SameCopy g.touchView := by
    rw [steers.frame]
    exact ⟨rfl, rfl, fun _ => ⟨_, rfl⟩, rfl, rfl⟩
  rw [moved]
  exact steered.trans g.mtClearFresh_sameCopy

/-- **What a report does to the copy**: it is compared with the input core, and its fresh
marks go. -/
theorem handleSyn_sameCopy (dev : Dev) (env : EvEnv) (h : Hud) :
    (h.mtSyncFromKernel env.slots).touchView.SameCopy (h.handleSyn dev env).touchView := by
  have bound := (h.mtSyncFromKernel env.slots).mtBindPrimary_sameCopy dev
  unfold handleSyn
  simp only
  generalize (h.mtSyncFromKernel env.slots).mtBindPrimary dev = g at bound ⊢
  apply bound.trans
  split_ifs
  · exact g.mtClearFresh_sameCopy
  · exact g.synLift_sameCopy dev _ env
  · exact g.synLand_sameCopy dev env
  · exact g.synMove_sameCopy dev

section Sync

variable {h : Hud} {table : MtTable} {clock : Nat}

/-- **After the comparison every slot of the device is the input core's.** -/
theorem mtSync_shows (tracks : h.touchView.Tracks table clock) {s : Fin maxSlots}
    (counted : s.val < h.touch.mtNslots) :
    ((h.mtSyncFromKernel (some table.answer)).touch.slots s).id = (table.slots s).id ∧
      ((h.mtSyncFromKernel (some table.answer)).touch.slots s).x = (table.slots s).x ∧
      ((h.mtSyncFromKernel (some table.answer)).touch.slots s).y = (table.slots s).y := by
  have inside := slotCount_of_counted counted
  simp only [mtSyncFromKernel, MtTable.answer, if_pos inside, syncSlot_id, syncSlot_x, syncSlot_y,
    true_and]
  constructor
  · split
    · next known => exact tracks.x s known
    · rfl
  · split
    · next known => exact tracks.y s known
    · rfl

/-- The comparison with the input core keeps the agreement. -/
theorem mtSync_tracks (tracks : h.touchView.Tracks table clock)
    (settled : ¬Mirroring.justOn h.screen.tUnblank clock) :
    (h.mtSyncFromKernel (some table.answer)).touchView.Tracks table clock where
  x s known := by
    change ((h.mtSyncFromKernel (some table.answer)).touch.slots s).haveX = true at known
    change ((h.mtSyncFromKernel (some table.answer)).touch.slots s).x = _
    simp only [mtSyncFromKernel, MtTable.answer] at known ⊢
    split at known
    · next inside =>
        rw [if_pos inside, syncSlot_x]
        split
        · next held => exact tracks.x s held
        · rfl
    · cases known
  y s known := by
    change ((h.mtSyncFromKernel (some table.answer)).touch.slots s).haveY = true at known
    change ((h.mtSyncFromKernel (some table.answer)).touch.slots s).y = _
    simp only [mtSyncFromKernel, MtTable.answer] at known ⊢
    split at known
    · next inside =>
        rw [if_pos inside, syncSlot_y]
        split
        · next held => exact tracks.y s held
        · rfl
    · cases known
  clear just := absurd just settled

end Sync

/-! ## Events -/

section Events

variable {dev : Dev} {h : Hud} {table : MtTable} {clock : Nat} {ev : Ev} {env : EvEnv}

/-- The horizontal position of a slot changes by its own event only. -/
theorem put_x (code : AbsCode) (value : Int) (n : Nat) :
    ((table.put (.abs code value)).slots n).x =
      if code = .mtPositionX ∧ n = table.cur then value else (table.slots n).x := by
  rw [MtTable.put_slots]
  by_cases here : n = table.cur
  · cases code <;> simp [here, MtSlot.put]
  · simp [here]

theorem put_y (code : AbsCode) (value : Int) (n : Nat) :
    ((table.put (.abs code value)).slots n).y =
      if code = .mtPositionY ∧ n = table.cur then value else (table.slots n).y := by
  rw [MtTable.put_slots]
  by_cases here : n = table.cur
  · cases code <;> simp [here, MtSlot.put]
  · simp [here]

/-- What an axis event does to one slot of the copy. -/
theorem handleAbs_slot (slots : dev.hasMt = true) (code : AbsCode) (value : Int)
    (s : Fin maxSlots) :
    (((h.handleAbs dev code value).touch.slots s).haveX = true →
      if code = .mtPositionX ∧ s = h.touch.mtCur then
        ((h.handleAbs dev code value).touch.slots s).x = value
      else (h.touch.slots s).haveX = true ∧
        ((h.handleAbs dev code value).touch.slots s).x = (h.touch.slots s).x) ∧
    (((h.handleAbs dev code value).touch.slots s).haveY = true →
      if code = .mtPositionY ∧ s = h.touch.mtCur then
        ((h.handleAbs dev code value).touch.slots s).y = value
      else (h.touch.slots s).haveY = true ∧
        ((h.handleAbs dev code value).touch.slots s).y = (h.touch.slots s).y) := by
  by_cases select : code = .mtSlot
  · subst select
    rw [handleAbs_select slots]
    split <;> simp
  rw [handleAbs_enter slots h select]
  by_cases here : s = h.touch.mtCur
  · subst here
    simp only [Function.update_self, Slot.enter]
    cases code with
    | mtTrackingId => by_cases lifts : value < 0 <;> simp [lifts]
    | _ => simp
  · simp [here]

/-- A coordinate that the copy has is the input core's, also after an axis event that is aimed. -/
theorem entered_tracks {axis code : AbsCode} {s : Fin maxSlots} {held : Prop}
    {value before after seen : Int} (aimed : code = axis → (h.touch.mtCur : Nat) = table.cur)
    (entered : if code = axis ∧ s = h.touch.mtCur then after = value else held ∧ after = before)
    (tracks : held → before = seen) :
    after = if code = axis ∧ (s : Nat) = table.cur then value else seen := by
  by_cases sent : code = axis
  · have same : s = h.touch.mtCur ↔ (s : Nat) = table.cur := by
      rw [← aimed sent, Fin.ext_iff]
    simp only [same, sent, true_and] at entered ⊢
    split at entered
    · next here =>
        rw [if_pos here]
        exact entered
    · next other =>
        rw [if_neg other, entered.2]
        exact tracks entered.1
  · rw [if_neg fun both => sent both.1] at entered ⊢
    rw [entered.2]
    exact tracks entered.1

/-- An axis event that is taken keeps the agreement when it is aimed. -/
theorem handleAbs_tracks (slots : dev.hasMt = true) {code : AbsCode} {value : Int}
    (tracks : h.touchView.Tracks table clock)
    (settled : ¬Mirroring.justOn h.screen.tUnblank clock)
    (aimed : code = .mtPositionX ∨ code = .mtPositionY → (h.touch.mtCur : Nat) = table.cur) :
    (h.handleAbs dev code value).touchView.Tracks (table.put (.abs code value)) clock where
  x s known := by
    rw [put_x]
    exact entered_tracks (fun sent => aimed (.inl sent))
      ((h.handleAbs_slot slots code value s).1 known) (tracks.x s)
  y s known := by
    rw [put_y]
    exact entered_tracks (fun sent => aimed (.inr sent))
      ((h.handleAbs_slot slots code value s).2 known) (tracks.y s)
  clear just := by
    change Mirroring.justOn (h.handleAbs dev code value).screen.tUnblank clock at just
    rw [handleAbs_screen] at just
    exact absurd just settled

section Listening

variable (touch : dev.isTouch = true) (on : h.screen.screenOff = false)
  (settled : ¬Mirroring.justOn h.screen.tUnblank env.now)

include touch on settled

/-- What an axis event does on a lit screen. -/
theorem handleEv_abs (code : AbsCode) (value : Int) : h.handleEv dev (.abs code value) env =
    ({ h with screen.tUser := env.now } : Hud).handleAbs dev code value := by
  unfold handleEv
  rw [if_neg nofun, if_neg fun ignored => settled ignored.2, if_neg (by simp [on]),
    if_neg (by simp [touch])]

/-- What the end of a report does there. -/
theorem handleEv_syn : h.handleEv dev .syn env =
    ({ h with screen.tUser := env.now } : Hud).handleSyn dev env := by
  unfold handleEv
  rw [if_neg nofun, if_neg fun ignored => settled ignored.2, if_neg (by simp [on]),
    if_neg (by simp [touch])]

/-- The keys of a device with slots do nothing. -/
theorem handleEv_key (slots : dev.hasMt = true) {code : KeyCode} {value : Int}
    (other : Ev.key code value ≠ .key .power 1) :
    h.handleEv dev (.key code value) env = { h with screen.tUser := env.now } := by
  unfold handleEv
  rw [if_neg other, if_neg fun ignored => settled ignored.2, if_neg (by simp [on]),
    if_neg (by simp [touch])]
  cases code <;> simp only [slots, if_true]

/-- Any other event only counts as use. -/
theorem handleEv_other : h.handleEv dev .other env = { h with screen.tUser := env.now } := by
  unfold handleEv
  rw [if_neg nofun, if_neg fun ignored => settled ignored.2, if_neg (by simp [on]),
    if_neg (by simp [touch])]

end Listening

/-- **Every event of the touch device keeps the agreement**, if positions are aimed. -/
theorem handleEv_tracks (touch : dev.isTouch = true) (slots : dev.hasMt = true)
    (kernel : env.slots = some (table.put ev).answer) (later : clock ≤ env.now)
    (tracks : h.screen.screenOff = false → h.touchView.Tracks table clock)
    (aimed : ∀ code value, ev = .abs code value → code = .mtPositionX ∨ code = .mtPositionY →
      h.screen.screenOff = false → ¬Mirroring.justOn h.screen.tUnblank env.now →
        (h.touch.mtCur : Nat) = table.cur)
    (on : (h.handleEv dev ev env).screen.screenOff = false) :
    (h.handleEv dev ev env).touchView.Tracks (table.put ev) env.now := by
  rcases handleEv_lit touch on with ⟨-, reset⟩ | ⟨lit, ignored, why⟩ | ⟨lit, just, power⟩
  · exact .of_clear reset.clear
  · rw [ignored]
    rcases why with just | power
    · exact .of_clear (((tracks lit).later later).clear just)
    · subst power
      exact (tracks lit).later later
  · have noted : ({ h with screen.tUser := env.now } : Hud).touchView.Tracks table env.now :=
      (tracks lit).later later
    cases ev with
    | abs code value =>
        rw [handleEv_abs touch lit just]
        exact handleAbs_tracks slots noted just fun axis => aimed code value rfl axis lit just
    | syn =>
        have synced := mtSync_tracks noted just
        rw [handleEv_syn touch lit just]
        apply synced.of_sameCopy
        have copied := ({ h with screen.tUser := env.now } : Hud).handleSyn_sameCopy dev env
        rw [kernel] at copied
        exact copied
    | key code value =>
        rw [handleEv_key touch lit just slots power]
        exact noted
    | other =>
        rw [handleEv_other touch lit just]
        exact noted

/-- **After a report that the HUD listens to, the copy shows every contact.** -/
theorem handleSyn_shows (touch : dev.isTouch = true) {s : Fin maxSlots}
    (kernel : env.slots = some table.answer) (later : clock ≤ env.now)
    (tracks : h.touchView.Tracks table clock) (on : h.screen.screenOff = false)
    (settled : ¬Mirroring.justOn h.screen.tUnblank env.now)
    (counted : s.val < (h.handleEv dev .syn env).touch.mtNslots) :
    ((h.handleEv dev .syn env).touch.slots s).id = (table.slots s).id ∧
      ((h.handleEv dev .syn env).touch.slots s).x = (table.slots s).x ∧
      ((h.handleEv dev .syn env).touch.slots s).y = (table.slots s).y := by
  have noted : ({ h with screen.tUser := env.now } : Hud).touchView.Tracks table env.now :=
    tracks.later later
  have copied := ({ h with screen.tUser := env.now } : Hud).handleSyn_sameCopy dev env
  rw [handleEv_syn touch on settled] at counted ⊢
  rw [kernel] at copied
  obtain ⟨fresh, same⟩ := copied.slots s
  have count : (({ h with screen.tUser := env.now } : Hud).handleSyn dev env).touch.mtNslots =
      h.touch.mtNslots := copied.count
  change ((({ h with screen.tUser := env.now } : Hud).handleSyn dev env).touch.slots s) = _ at same
  rw [same]
  exact mtSync_shows noted (count ▸ counted)

/-- Anything else that the main loop does keeps the agreement. -/
theorem step_tracks {event : Event} (elsewhere : Elsewhere event)
    (tracks : h.screen.screenOff = false → h.touchView.Tracks table clock)
    (on : (h.step event).screen.screenOff = false) :
    (h.step event).touchView.Tracks table clock := by
  rcases step_elsewhere elsewhere on with ⟨-, reset⟩ | same
  · exact .of_clear reset.clear
  · have lit : h.screen.screenOff = false := (congrArg TouchView.screenOff same).symm.trans on
    rw [same]
    exact tracks lit

end Events

end Hud

/-- Nothing is known when the main loop starts. -/
theorem Boot.hud_reset (boot : Boot) : boot.hud.touchView.Reset := by
  obtain ⟨k, apart, started⟩ := boot.hud_apart
  generalize (boot.blank.loadHudConf boot.lang boot.bl).findBacklight boot.backlight = g at apart
  have reset : ({ g.resetTouch with touch.mtNslots := boot.nslots } : Hud).touchView.Reset :=
    ⟨g.resetTouch_reset.slots, neg_one_lt_zero, rfl, rfl⟩
  have sampled := reset.of_same (congrArg TouchView.touch apart.aside)
    (congrArg TouchView.draggingBl apart.aside)
  rw [started]
  exact sampled.of_same rfl rfl

namespace Mirroring

/-- The invariant of a run: while the screen is on, the copy agrees with the input core. -/
def Agrees (s : Mirroring) : Prop :=
  s.hud.screen.screenOff = false → s.hud.touchView.Tracks s.table s.clock

variable {dev : Dev}

/-- **A step keeps the agreement** when its position is aimed. -/
theorem step_agrees (touch : dev.isTouch = true) (slots : dev.hasMt = true) (s : Mirroring)
    (act : MirrorAct) (agrees : s.Agrees) (aimed : s.Aimed act) : (s.step dev act).Agrees := by
  intro on
  cases act with
  | touch elapsed ev sys =>
      refine Hud.handleEv_tracks touch slots rfl (Nat.le_add_right s.clock elapsed) agrees ?_ on
      rintro code value rfl axis lit settled
      exact aimed axis ⟨lit, settled⟩
  | other event elsewhere => exact Hud.step_tracks elsewhere agrees on

/-- What the agreement says of one step. -/
theorem step_shows (touch : dev.isTouch = true) (s : Mirroring) (act : MirrorAct)
    (agrees : s.Agrees) : s.ShowsAfter dev act := by
  cases act with
  | touch elapsed ev sys =>
      cases ev with
      | syn =>
          rintro ⟨on, settled⟩ slot counted -
          exact Hud.handleSyn_shows touch rfl (Nat.le_add_right s.clock elapsed) (agrees on) on
            settled counted
      | key code value => trivial
      | abs code value => trivial
      | other => trivial
  | other event elsewhere => trivial

/-- **The copy shows every contact after every report** that the HUD listens to, in every run
in which the positions that it takes are aimed. -/
theorem contacts_shown (touch : dev.isTouch = true) (slots : dev.hasMt = true) (boot : Boot)
    (table : MtTable) (clock : Nat) {acts : List MirrorAct}
    (aimed : EachStep (step dev) Aimed ⟨boot.hud, table, clock⟩ acts) :
    EachStep (step dev) (ShowsAfter dev) ⟨boot.hud, table, clock⟩ acts := by
  have initial : Agrees ⟨boot.hud, table, clock⟩ := fun _ => .of_clear boot.hud_reset.clear
  exact aimed.of_invariant (step_agrees touch slots)
    (fun s act agrees _ => step_shows touch s act agrees) initial

/-! ## A finger in the second slot -/

/-- No child can be started; none is asked for here. -/
def idle : Sys := { spawn := .noNmcli }

/-- The HUD has been running for a while. -/
def running : Mirroring where
  hud := ({ W := 1080, H := 2400, nslots := 10, now := 1000000000, sys := idle } : Boot).hud
  table := {}
  clock := 10000000000

/-- The changes of a report, and its end. -/
def report (elapsed : Nat) (changes : List (AbsCode × Int)) : List MirrorAct :=
  changes.map (fun change => .touch elapsed (.abs change.1 change.2) idle) ++ [.touch 0 .syn idle]

/-- A finger lands in the second slot. -/
def landing : List MirrorAct :=
  report 0 [(.mtSlot, 1), (.mtTrackingId, 7), (.mtPositionX, 500), (.mtPositionY, 900)]

/-- The power key is pressed. -/
def powerKey (now : Nat) : MirrorAct :=
  .other (.input ⟨{ isTouch := false, hasMt := false }, .key .power 1, ⟨now, none, idle⟩⟩) rfl

/-- The finger rests while the screen is switched off and on again, and moves twice
afterwards. -/
def blanked : List MirrorAct :=
  landing ++ [powerKey 11000000000, powerKey 12000000000] ++
    report 4000000000 [(.mtPositionX, 510)] ++ report 0 [(.mtPositionX, 520)]

/-- The finger that lands is shown. -/
theorem contacts_shown_landing :
    EachStep (step (.slotted 1080 2400)) (ShowsAfter (.slotted 1080 2400)) running landing :=
  contacts_shown rfl rfl _ {} 10000000000 (by decide +kernel)

/-- **After the screen has been off, a finger in the second slot stays where it was.** The
touch device does not send its slot again. -/
theorem blanked_contact_stays :
    EachStep (step (.slotted 1080 2400)) Sent running blanked ∧
      ((run (step (.slotted 1080 2400)) running blanked).hud.touch.slots 1).x = 510 ∧
      ((run (step (.slotted 1080 2400)) running blanked).table.slots 1).x = 520 ∧
      ¬EachStep (step (.slotted 1080 2400)) (ShowsAfter (.slotted 1080 2400)) running blanked := by
  have stale : ¬(run (step (.slotted 1080 2400)) running blanked).Shows := by decide +kernel
  refine ⟨by decide +kernel, by decide +kernel, by decide +kernel, ?_⟩
  intro shown
  have split : blanked = blanked.dropLast ++ [.touch 0 .syn idle] := rfl
  rw [split, eachStep_append] at shown
  apply stale
  rw [split, run_append]
  exact shown.2.1 (by decide +kernel)

end Mirroring

end Ginkgo
