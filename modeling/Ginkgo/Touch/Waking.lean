import Ginkgo.Touch.Landing

/-!
# The touch that wakes the screen

A finger that lands while the screen is off switches it on, and the HUD forgets every contact
and drops what the touch device sends for a quarter of a second. The finger is still in the slot
table of the input core, though: the first report after that time brings back its id, which the
HUD takes for a new one. From then on the finger that has only woken the screen is followed as
if it had just landed (`Ginkgo.Mirroring.waking_spared_iff`, `Ginkgo.Mirroring.waking_taps`).
-/

namespace Ginkgo

open CText Transition

/-- A change that starts nothing for a contact: none is followed that was not, no tap is
dispatched, no key is pressed and no drag begins. -/
structure TouchView.Lets (view view' : TouchView) : Prop where
  armed : view'.touch.contactArmed = true → view.touch.contactArmed = true ∧
    view'.touch.bindSlot = view.touch.bindSlot ∧ view'.touch.slotId = view.touch.slotId
  count : view'.touch.mtNslots = view.touch.mtNslots
  taps : view'.taps = view.taps
  held : view'.held = true → view.held = true
  dragging : view'.touch.dragging = true → view.touch.dragging = true
  bl : view'.draggingBl = true → view.draggingBl = true

namespace TouchView

variable {view view' view'' : TouchView}

theorem Lets.refl (view : TouchView) : view.Lets view :=
  ⟨fun armed => ⟨armed, rfl, rfl⟩, rfl, rfl, id, id, id⟩

/-- Two changes that start nothing, one after the other. -/
theorem Lets.trans (first : view.Lets view') (second : view'.Lets view'') : view.Lets view'' where
  armed armed := by
    obtain ⟨before, bound, id⟩ := second.armed armed
    obtain ⟨start, bound', id'⟩ := first.armed before
    exact ⟨start, bound.trans bound', id.trans id'⟩
  count := second.count.trans first.count
  taps := second.taps.trans first.taps
  held held := first.held (second.held held)
  dragging dragging := first.dragging (second.dragging dragging)
  bl bl := first.bl (second.bl bl)

/-- The HUD follows the contact in a slot. -/
def Attends (k : Fin maxSlots) (view : TouchView) : Prop :=
  view.touch.contactArmed = true ∧ view.touch.bindSlot = some k

instance (k : Fin maxSlots) (view : TouchView) : Decidable (view.Attends k) :=
  inferInstanceAs (Decidable (_ ∧ _))

/-- A contact that is followed afterwards was followed before. -/
theorem Lets.attends (lets : view.Lets view') {k : Fin maxSlots} (attends : view'.Attends k) :
    view.Attends k := by
  obtain ⟨armed, bound, -⟩ := lets.armed attends.1
  exact ⟨armed, bound.symm.trans attends.2⟩

/-- A contact that is followed has a slot of the device. -/
def Bound (view : TouchView) : Prop :=
  view.touch.contactArmed = true → ∃ j, view.touch.bindSlot = some j ∧
    j.val < view.touch.mtNslots ∧ 0 ≤ view.touch.slotId

/-- A contact that is followed afterwards has a slot. -/
theorem Bound.lets (bound : view.Bound) (lets : view.Lets view') : view'.Bound := by
  intro armed
  obtain ⟨before, same, id⟩ := lets.armed armed
  obtain ⟨j, slot, counted, live⟩ := bound before
  exact ⟨j, same.trans slot, lets.count ▸ counted, id ▸ live⟩

end TouchView

namespace Hud

variable {h : Hud}

/-! ## What starts nothing -/

/-- What no finger notices starts nothing. -/
theorem Aside.lets {h' : Hud} (aside : Aside h h') : h.touchView.Lets h'.touchView := by
  rw [aside]
  exact .refl _

/-- Switching the screen starts nothing: it drops the contact. -/
theorem setScreen_lets (on : Bool) (now : Nat) (h : Hud) :
    h.touchView.Lets (h.setScreen on now).touchView := by
  have lit (g : Hud) (pct : Int) : g.touchView.Lets (g.applyBlPct pct).touchView :=
    Aside.lets (g.applyBlPct_aside pct)
  unfold setScreen
  split
  · split
    · exact .refl _
    · refine TouchView.Lets.trans ?_ (lit _ _)
      exact ⟨nofun, rfl, rfl, id, nofun, nofun⟩
  · split
    · exact .refl _
    · exact ⟨nofun, rfl, rfl, id, nofun, nofun⟩

/-- The comparison with the input core starts nothing. -/
theorem mtSync_lets (kernel : Option MtSlots) (h : Hud) :
    h.touchView.Lets (h.mtSyncFromKernel kernel).touchView := by
  cases kernel <;> exact ⟨fun armed => ⟨armed, rfl, rfl⟩, rfl, rfl, id, id, id⟩

/-- Clearing the fresh marks does not either. -/
theorem mtClearFresh_lets (h : Hud) : h.touchView.Lets h.mtClearFresh.touchView :=
  ⟨fun armed => ⟨armed, rfl, rfl⟩, rfl, rfl, id, id, id⟩

theorem mtFinger_lets (dev : Dev) (h : Hud) : h.touchView.Lets (h.mtFinger dev).1.touchView :=
  ⟨fun armed => ⟨armed, rfl, rfl⟩, rfl, rfl, id, id, id⟩

theorem handleAbs_lets {dev : Dev} (slots : dev.hasMt = true) (code : AbsCode) (value : Int)
    (h : Hud) : h.touchView.Lets (h.handleAbs dev code value).touchView := by
  obtain ⟨cur, table, got, frame⟩ := handleAbs_frame slots h code value
  rw [frame]
  exact ⟨fun armed => ⟨armed, rfl, rfl⟩, rfl, rfl, id, id, id⟩

/-- **Only the end of a report that the HUD listens to starts anything.** -/
theorem handleEv_lets {dev : Dev} (slots : dev.isTouch = true → dev.hasMt = true) {ev : Ev}
    {env : EvEnv} (quiet : ¬(dev.isTouch = true ∧ ev = .syn ∧ h.screen.screenOff = false ∧
      ¬Mirroring.justOn h.screen.tUnblank env.now)) :
    h.touchView.Lets (h.handleEv dev ev env).touchView := by
  have searched := (h.mtSync_lets env.slots).trans (mtFinger_lets dev _)
  have handled := handleEv_handled slots ev env h
  generalize h.handleEv dev ev env = h' at handled ⊢
  cases handled with
  | ignored => exact .refl _
  | switched => exact setScreen_lets h.screen.screenOff env.now { h with screen.tPowerKey := env.now }
  | searched => exact searched.trans (mtClearFresh_lets _)
  | woken => exact (searched.trans (setScreen_lets true env.now _)).trans (mtClearFresh_lets _)
  | noted user => exact .refl _
  | entered user slots code value =>
      exact handleAbs_lets slots code value { h with screen.tUser := user }
  | reported touch on report listens => exact absurd ⟨touch, report, on, listens⟩ quiet

/-! ## The end of a report -/

variable {dev : Dev} {env : EvEnv}

/-- A finger that is found has a slot of the device. -/
theorem mtFinger_counted {g : Hud} {s : Fin maxSlots} (found : (g.mtFinger dev).2 = some s) :
    s.val < g.touch.mtNslots ∧ 0 ≤ (g.touch.slots s).id := by
  unfold mtFinger at found
  simp only at found
  split at found
  · next only =>
      cases found
      have inside : s ∈ g.liveSlots.filter fun s => isFinger dev (g.touch.slots s) := by
        rw [only]
        exact List.mem_singleton_self s
      have live := List.mem_of_mem_filter inside
      unfold liveSlots at live
      simpa using (List.mem_filter.mp live).2
  · cases found

section Unarmed

variable {g : Hud} (synced : h.mtSyncFromKernel env.slots = g)
  (unarmed : h.touch.contactArmed = false)

include synced unarmed

/-- What a report does while no contact is followed. -/
theorem handleSyn_unarmed : h.handleSyn dev env =
    if 1 < (g.mtFinger dev).1.touch.mtNraw ∧ h.touch.slotId < 0 then
      ((g.mtFinger dev).1.bindTo (g.mtFinger dev).2).mtClearFresh
    else match (g.mtFinger dev).2 with
      | none => ((g.mtFinger dev).1.bindTo none).synLift dev h.touch.slotId env
      | some s => ((g.mtFinger dev).1.bindTo (some s)).synLand dev env := by
  have same : g.touch.contactArmed = false ∧ g.touch.slotId = h.touch.slotId := by
    subst synced
    cases env.slots <;> exact ⟨unarmed, rfl⟩
  rw [handleSyn_eq synced (mtBindPrimary_of_unarmed same.1), same.2]
  have idle (slot : Option (Fin maxSlots)) :
      ((g.mtFinger dev).1.bindTo slot).touch.contactArmed = false := by
    cases slot <;> exact same.1
  have count (slot : Option (Fin maxSlots)) :
      ((g.mtFinger dev).1.bindTo slot).touch.mtNraw = (g.mtFinger dev).1.touch.mtNraw := by
    cases slot <;> rfl
  rw [idle, count]
  simp only [true_and]
  split
  · rfl
  · cases found : (g.mtFinger dev).2 with
    | none => exact if_pos neg_one_lt_zero
    | some s =>
        have there : ¬((g.mtFinger dev).1.bindTo (some s)).touch.slotId < 0 :=
          not_lt.mpr (mtFinger_counted found).2
        exact (if_neg there).trans (if_pos trivial)

/-- A report that finds no finger, or one among several, starts nothing. -/
theorem handleSyn_overlooks (overlooked : ∀ s, (g.mtFinger dev).2 = some s →
    1 < (g.mtFinger dev).1.touch.mtNraw ∧ h.touch.slotId < 0) :
    h.touchView.Lets (h.handleSyn dev env).touchView := by
  have start : h.touchView.Lets (g.mtFinger dev).1.touchView := by
    rw [← synced]
    exact (h.mtSync_lets env.slots).trans (mtFinger_lets dev _)
  have still : (g.mtFinger dev).1.touch.contactArmed = false := by
    by_contra armed
    have before := (start.armed (Bool.eq_true_of_not_eq_false armed)).1
    rw [show h.touchView.touch.contactArmed = false from unarmed] at before
    cases before
  have bound (slot : Option (Fin maxSlots)) :
      h.touchView.Lets ((g.mtFinger dev).1.bindTo slot).touchView := by
    apply start.trans
    cases slot
    all_goals
      refine ⟨fun armed => ?_, rfl, rfl, id, id, id⟩
      rw [show (g.mtFinger dev).1.touch.contactArmed = true from armed] at still
      cases still
  have free : ((g.mtFinger dev).1.bindTo none).touch.contactArmed = false := still
  rw [handleSyn_unarmed synced unarmed]
  split
  · exact (bound _).trans (mtClearFresh_lets _)
  · next few =>
      cases found : (g.mtFinger dev).2 with
      | some s => exact absurd (overlooked s found) few
      | none =>
          apply (bound none).trans
          simp only
          by_cases followed : 0 ≤ h.touch.slotId
          · rw [synLift_touchView dev env _ followed]
            refine ⟨nofun, rfl, if_neg ?_, nofun, nofun, nofun⟩
            rintro ⟨-, armed, -⟩
            rw [free] at armed
            cases armed
          · unfold synLift
            rw [if_neg followed]
            exact mtClearFresh_lets _

/-- A report that finds a finger follows it. -/
theorem handleSyn_attends {s : Fin maxSlots} (found : (g.mtFinger dev).2 = some s)
    (seen : ¬(1 < (g.mtFinger dev).1.touch.mtNraw ∧ h.touch.slotId < 0)) :
    (h.handleSyn dev env).touchView.Attends s ∧ (h.handleSyn dev env).touchView.Bound := by
  rw [handleSyn_unarmed synced unarmed, if_neg seen, found]
  obtain ⟨held, view⟩ := synLand_touchView dev env ((g.mtFinger dev).1.bindTo (some s))
  simp only
  rw [view]
  obtain ⟨counted, live⟩ := mtFinger_counted found
  exact ⟨⟨rfl, rfl⟩, fun _ => ⟨s, rfl, counted, live⟩⟩

end Unarmed

/-- A report while a contact is followed goes on with it or ends it. -/
theorem handleSyn_keeps (bound : h.touchView.Bound) {j : Fin maxSlots}
    (attends : h.touchView.Attends j) :
    (∀ i, (h.handleSyn dev env).touchView.Attends i → i = j) ∧
      (h.handleSyn dev env).touchView.Bound := by
  obtain ⟨armed, slot⟩ := attends
  obtain ⟨i, slot', counted, live⟩ := bound armed
  obtain rfl : j = i := Option.some.inj (slot.symm.trans slot')
  obtain ⟨g, synced⟩ : ∃ g, h.mtSyncFromKernel env.slots = g := ⟨_, rfl⟩
  have same : g.touch.contactArmed = true ∧ g.touch.bindSlot = some j ∧
      j.val < g.touch.mtNslots ∧ 0 ≤ g.touch.slotId := by
    rw [← synced]
    cases env.slots <;> exact ⟨armed, slot, counted, live⟩
  obtain ⟨armed, slot, counted, live⟩ := same
  by_cases gone : (g.touch.slots j).id < 0 ∨ (g.touch.slots j).haveY = false
  · rw [handleSyn_ends synced armed slot counted gone, synLift_touchView dev env _ live]
    exact ⟨fun i attends => (nomatch attends.1), nofun⟩
  · rw [not_or, not_lt, Bool.not_eq_false] at gone
    rw [handleSyn_goes synced armed slot counted gone.1 gone.2]
    obtain ⟨k, moved, steers⟩ := (g.bindTo (some j)).synMove_steers dev
    rw [moved, mtClearFresh_touchView, steers.frame]
    exact ⟨fun i attends => (Option.some.inj attends.2).symm, fun _ => ⟨j, rfl, counted, gone.1⟩⟩

/-- **A report does nothing for the contact in a slot** that is not followed exactly when it
overlooks that contact. -/
theorem handleSyn_spares_iff {k : Fin maxSlots} (free : ¬h.touchView.Attends k)
    (bound : h.touchView.Bound) :
    ((h.touch.contactArmed = false →
        ((h.mtSyncFromKernel env.slots).mtFinger dev).2 = some k →
          1 < ((h.mtSyncFromKernel env.slots).mtFinger dev).1.touch.mtNraw ∧ h.touch.slotId < 0) ↔
      ¬(h.handleSyn dev env).touchView.Attends k ∧
        (h.touchView.Lets (h.handleSyn dev env).touchView ∨
          ∃ j, j ≠ k ∧ (h.touchView.Attends j ∨ (h.handleSyn dev env).touchView.Attends j))) ∧
      (h.handleSyn dev env).touchView.Bound := by
  cases armed : h.touch.contactArmed with
  | true =>
      -- another contact is followed
      obtain ⟨j, slot, -⟩ := bound armed
      have other : j ≠ k := by
        rintro rfl
        exact free ⟨armed, slot⟩
      obtain ⟨only, next⟩ := @handleSyn_keeps h dev env bound j ⟨armed, slot⟩
      refine ⟨iff_of_true nofun ⟨?_, .inr ⟨j, other, .inl ⟨armed, slot⟩⟩⟩, next⟩
      intro attends
      exact other (only k attends).symm
  | false =>
      by_cases lands : ∃ s, ((h.mtSyncFromKernel env.slots).mtFinger dev).2 = some s ∧
          ¬(1 < ((h.mtSyncFromKernel env.slots).mtFinger dev).1.touch.mtNraw ∧ h.touch.slotId < 0)
      · obtain ⟨s, found, seen⟩ := lands
        obtain ⟨attends, next⟩ := handleSyn_attends rfl armed found seen
        refine ⟨?_, next⟩
        by_cases same : s = k
        · subst same
          exact iff_of_false (fun overlooked => seen (overlooked rfl found)) fun spared =>
            spared.1 attends
        · refine iff_of_true (fun _ here => absurd (Option.some.inj (found.symm.trans here)) same) ?_
          refine ⟨fun here => same (Option.some.inj (attends.2.symm.trans here.2)), ?_⟩
          exact .inr ⟨s, same, .inr attends⟩
      · have overlooked : ∀ s, ((h.mtSyncFromKernel env.slots).mtFinger dev).2 = some s →
            1 < ((h.mtSyncFromKernel env.slots).mtFinger dev).1.touch.mtNraw ∧
              h.touch.slotId < 0 := by
          intro s found
          by_contra seen
          exact lands ⟨s, found, seen⟩
        have lets := handleSyn_overlooks rfl armed overlooked
        exact ⟨iff_of_true (fun _ => overlooked k)
          ⟨fun attends => free (lets.attends attends), .inl lets⟩, bound.lets lets⟩

end Hud

namespace Mirroring

/-- **A contact wakes the screen**: the report finds it, and the screen is switched on. -/
structure Wakes (dev : Dev) (s : Mirroring) (elapsed : Nat) (sys : Sys) (k : Fin maxSlots) : Prop where
  off : s.hud.screen.screenOff = true
  found : ((s.hud.mtSyncFromKernel (some s.table.answer)).mtFinger dev).2 = some k
  on : (s.step dev (.touch elapsed .syn sys)).hud.screen.screenOff = false

/-- **An event does nothing for the contact in a slot**: that contact is not followed, and what
starts starts for another. -/
def Spares (dev : Dev) (k : Fin maxSlots) (s : Mirroring) : MirrorAct → Prop
  | .touch elapsed ev sys =>
      ¬(s.step dev (.touch elapsed ev sys)).hud.touchView.Attends k ∧
        (s.hud.touchView.Lets (s.step dev (.touch elapsed ev sys)).hud.touchView ∨
          ∃ j, j ≠ k ∧ (s.hud.touchView.Attends j ∨
            (s.step dev (.touch elapsed ev sys)).hud.touchView.Attends j))
  | .other _ _ => True

/-- **A report overlooks the contact in a slot**: when the HUD listens and follows no contact,
the contact does not stand out in the slot table, or stands out among several and no slot was
bound. -/
def Overlooks (dev : Dev) (k : Fin maxSlots) (s : Mirroring) : MirrorAct → Prop
  | .touch elapsed .syn _ => s.Listens (s.clock + elapsed) → s.hud.touch.contactArmed = false →
      ((s.hud.mtSyncFromKernel (some s.table.answer)).mtFinger dev).2 = some k →
        1 < ((s.hud.mtSyncFromKernel (some s.table.answer)).mtFinger dev).1.touch.mtNraw ∧
          s.hud.touch.slotId < 0
  | _ => True

instance (dev : Dev) (k : Fin maxSlots) (s : Mirroring) :
    (act : MirrorAct) → Decidable (s.Overlooks dev k act)
  | .touch _ .syn _ => inferInstanceAs (Decidable (_ → _ → _ → _))
  | .touch _ (.key _ _) _ | .touch _ (.abs _ _) _ | .touch _ .other _ | .other _ _ => .isTrue trivial

variable {dev : Dev} {k : Fin maxSlots}

/-- What else the main loop does starts nothing. -/
theorem other_lets (s : Mirroring) {event : Event}
    (elsewhere : Elsewhere event) :
    s.hud.touchView.Lets (s.step dev (.other event elsewhere)).hud.touchView := by
  change s.hud.touchView.Lets (s.hud.step event).touchView
  cases event with
  | input input =>
      have keys : input.dev.isTouch = false := elsewhere
      refine Hud.handleEv_lets (fun touch => ?_) fun listens => ?_
      · rw [keys] at touch
        cases touch
      · rw [keys] at listens
        cases listens.1
  | idleOff now =>
      change s.hud.touchView.Lets (s.hud.idleOff now).touchView
      unfold Hud.idleOff
      split
      · exact Hud.setScreen_lets false now s.hud
      · exact .refl _
  | _ => exact Hud.Aside.lets (Hud.Apart.aside (Hud.step_apart s.hud trivial))

/-- The contact in the slot is not followed, and one that is has a slot of the device. -/
def Free (k : Fin maxSlots) (s : Mirroring) : Prop :=
  ¬s.hud.touchView.Attends k ∧ s.hud.touchView.Bound

/-- What starts nothing leaves the contact unfollowed. -/
theorem Free.lets {s t : Mirroring} (free : s.Free k)
    (lets : s.hud.touchView.Lets t.hud.touchView) : t.Free k :=
  ⟨fun attends => free.1 (lets.attends attends), free.2.lets lets⟩

/-- Where nothing is known no contact is followed. -/
theorem Free.of_reset {s : Mirroring} (reset : s.hud.touchView.Reset) : s.Free k := by
  have never : ¬s.hud.touchView.touch.contactArmed = true := by
    rw [reset.unarmed]
    decide
  exact ⟨fun attends => never attends.1, fun armed => absurd armed never⟩

/-- **Whether one event does something for the contact.** -/
theorem step_spares_iff (touch : dev.isTouch = true) (slots : dev.hasMt = true) {s : Mirroring}
    (free : s.Free k) (act : MirrorAct) :
    (s.Overlooks dev k act ↔ s.Spares dev k act) ∧
      (s.Spares dev k act → (s.step dev act).Free k) := by
  cases act with
  | other event elsewhere =>
      exact ⟨Iff.rfl, fun _ => free.lets (other_lets s elsewhere)⟩
  | touch elapsed ev sys =>
      obtain ⟨env, now, kernel, after⟩ := step_touch dev s elapsed ev sys
      by_cases listens : ev = .syn ∧ s.Listens (s.clock + elapsed)
      · obtain ⟨rfl, lit, settled⟩ := listens
        have handled : (s.step dev (.touch elapsed .syn sys)).hud =
            ({ s.hud with screen.tUser := env.now } : Hud).handleSyn dev env := by
          rw [after]
          exact Hud.handleEv_syn touch lit (now ▸ settled)
        have answer : env.slots = some s.table.answer := kernel
        obtain ⟨iff, bound⟩ := @Hud.handleSyn_spares_iff { s.hud with screen.tUser := env.now } dev env
          k free.1 free.2
        rw [answer, ← handled] at iff
        rw [← handled] at bound
        refine ⟨?_, fun spares => ⟨spares.1, bound⟩⟩
        exact Iff.trans ⟨fun overlooks => overlooks ⟨lit, settled⟩, fun overlooks _ => overlooks⟩ iff
      · have lets : s.hud.touchView.Lets (s.step dev (.touch elapsed ev sys)).hud.touchView := by
          rw [after]
          refine Hud.handleEv_lets (fun _ => slots) fun heard => listens ?_
          exact ⟨heard.2.1, heard.2.2.1, now ▸ heard.2.2.2⟩
        have next := free.lets lets
        have overlooks : s.Overlooks dev k (.touch elapsed ev sys) := by
          cases ev with
          | syn => exact fun heard => absurd ⟨rfl, heard⟩ listens
          | _ => trivial
        exact ⟨iff_of_true overlooks ⟨next.1, .inl lets⟩, fun _ => next⟩

/-- **The touch that wakes the screen does nothing else** before it is lifted, in every run of
which every report overlooks it, and only in those. A contact is told by its slot: of a run
that goes on after the lift, both sides speak of the slot, and so of a later finger in it too. -/
theorem waking_spared_iff (touch : dev.isTouch = true) (slots : dev.hasMt = true) {s : Mirroring}
    {elapsed : Nat} {sys : Sys} (wakes : Wakes dev s elapsed sys k) (acts : List MirrorAct) :
    EachStep (step dev) (Spares dev k) (s.step dev (.touch elapsed .syn sys)) acts ↔
      EachStep (step dev) (Overlooks dev k) (s.step dev (.touch elapsed .syn sys)) acts := by
  have initial : (s.step dev (.touch elapsed .syn sys)).Free k := by
    rcases Hud.handleEv_lit touch wakes.on with ⟨-, reset⟩ | ⟨lit, -⟩ | ⟨lit, -⟩
    · exact .of_reset reset
    all_goals
      rw [wakes.off] at lit
      cases lit
  refine eachStep_congr_of_invariant ?_ ?_ initial (eachStep_true _ acts)
  · exact fun s act free _ => (step_spares_iff touch slots free act).1.symm
  · exact fun s act free _ spares => (step_spares_iff touch slots free act).2 spares

/-- The screen has been switched off, and a finger has landed in the first slot. -/
def asleep : Mirroring :=
  run (step (.slotted 1080 2400)) running
    (powerKey 11000000000 :: .touch 5000000000 (.abs .mtTrackingId 7) idle ::
      (report 0 [(.mtPositionX, 500), (.mtPositionY, 900)]).dropLast)

/-- The finger wakes the screen. -/
theorem asleep_wakes : Wakes (.slotted 1080 2400) asleep 0 idle 0 :=
  ⟨by decide +kernel, by decide +kernel, by decide +kernel⟩

/-- The finger that wakes the screen lifts after a tenth of a second. -/
theorem waking_spared_short :
    EachStep (step (.slotted 1080 2400)) (Spares (.slotted 1080 2400) 0)
      (asleep.step (.slotted 1080 2400) (.touch 0 .syn idle))
      (report 100000000 [(.mtTrackingId, -1)]) :=
  (waking_spared_iff rfl rfl asleep_wakes _).mpr (by decide +kernel)

/-- **A finger that wakes the screen, rests and lifts is a tap.** -/
theorem waking_taps :
    let woken := asleep.step (.slotted 1080 2400) (.touch 0 .syn idle)
    let resting := report 300000000 [(.mtPositionY, 905)]
    let lifting := report 100000000 [(.mtTrackingId, -1)]
    Wakes (.slotted 1080 2400) asleep 0 idle 0 ∧
      EachStep (step (.slotted 1080 2400)) Sent woken (resting ++ lifting) ∧
      ((run (step (.slotted 1080 2400)) woken resting).table.slots 0).id = (woken.table.slots 0).id ∧
      ¬EachStep (step (.slotted 1080 2400)) (Spares (.slotted 1080 2400) 0) woken resting ∧
      (run (step (.slotted 1080 2400)) woken (resting ++ lifting)).hud.taps = [(500, 905)] := by
  refine ⟨asleep_wakes, by decide +kernel, by decide +kernel, ?_, by decide +kernel⟩
  intro spares
  exact spares.2.1.1 (by decide +kernel)

end Mirroring

end Ginkgo
