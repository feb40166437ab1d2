import Ginkgo.Touch.Gesture
import Ginkgo.Touch.Slots

/-!
# The HUD follows the finger

Along a stream of one finger at a time the HUD agrees with `Ginkgo.Watch` on the slot table,
on the contact and on the taps (`Ginkgo.Follows`). Every event that it handles preserves the
agreement, provided it is awake and the kernel has not got ahead of the handled events at the
end of a report (`Ginkgo.Hud.handleEv_follows`). At the end of a report there are four cases:
no contact goes on, the finger lands, it lifts, or the contact goes on.
-/

namespace Ginkgo

/-- No contact is followed, and the coordinates of the next one will be noticed. -/
structure TouchView.Idle (view : TouchView) (panel : Panel) : Prop where
  slotId : view.touch.slotId < 0
  unarmed : view.touch.contactArmed = false
  free : view.held = false
  fresh : ∀ s, (panel.slots s).sentX = true ∨ (panel.slots s).sentY = true →
    (view.touch.slots s).fresh = true

/-- The contact is followed. -/
structure TouchView.Following (dev : Dev) (view : TouchView) (panel : Panel) (contact : Contact)
    (down : Nat) : Prop where
  live : 0 ≤ contact.id
  slotId : view.touch.slotId = contact.id
  armed : view.touch.contactArmed = true
  bound : view.touch.bindSlot = some contact.slot
  inside : contact.slot.val < view.touch.mtNslots
  x : view.touch.slotX = contact.trail.x
  y : view.touch.slotY = contact.trail.y
  tDown : view.touch.tDown = down
  clock : down ≠ 0
  bl : view.draggingBl = true → view.touch.dragging = true
  base : view.taken = false →
    view.touch.downX = contact.trail.baseX ∧ view.touch.downY = contact.trail.baseY
  steady : contact.trail.Steady dev
  still : view.touch.mtGotPos = false → (panel.slots contact.slot).x = contact.trail.x ∧
    (panel.slots contact.slot).y = contact.trail.y

/-- The HUD agrees with the events handled so far on the slot table. -/
structure TouchView.Agrees (nslots : Nat) (W H : Int) (panel : Panel) (view : TouchView) : Prop where
  cur : view.touch.mtCur = panel.cur
  mirrors : ∀ s, Mirrors (view.touch.slots s) (panel.slots s)
  count : view.touch.mtNslots = nslots
  awake : view.screenOff = false
  width : view.W = W
  height : view.H = H

/-- Clearing the fresh marks keeps the agreement, whatever becomes of the contact. -/
theorem TouchView.Agrees.cleared {nslots : Nat} {W H : Int} {panel : Panel} {view view' : TouchView}
    (agrees : view.Agrees nslots W H panel) (cur : view'.touch.mtCur = view.touch.mtCur)
    (count : view'.touch.mtNslots = view.touch.mtNslots)
    (table : view'.touch.slots = fun s => { view.touch.slots s with fresh := false })
    (screen : view'.screenOff = view.screenOff) (width : view'.W = view.W)
    (height : view'.H = view.H) : view'.Agrees nslots W H panel where
  cur := cur.trans agrees.cur
  mirrors s := by
    rw [table]
    have mirrors := agrees.mirrors s
    exact ⟨mirrors.id, mirrors.x, mirrors.y, mirrors.sentX, mirrors.sentY⟩
  count := count.trans agrees.count
  awake := screen.trans agrees.awake
  width := width.trans agrees.width
  height := height.trans agrees.height

/-- **The HUD follows the finger.** It agrees with the events handled so far on the slot
table, on the contact and on the taps dispatched after the first ones. -/
structure Follows (dev : Dev) (nslots : Nat) (W H : Int) (first : List (Int × Int)) (watch : Watch)
    (view : TouchView) : Prop where
  agrees : view.Agrees nslots W H watch.track.panel
  phase : match watch.track.contact with
    | none => view.Idle watch.track.panel
    | some contact => view.Following dev watch.track.panel contact watch.down
  taps : view.taps = first ++ watch.taps dev W H

namespace Follows

variable {dev : Dev} {nslots : Nat} {W H : Int} {first : List (Int × Int)} {watch : Watch}
  {view : TouchView}

/-- An event that changes the current slot in both tables alike. -/
theorem update (follows : Follows dev nslots W H first watch view) {slot : Slot}
    {seen : PanelSlot} {got : Bool} (mirrors : Mirrors slot seen)
    (fresh : ((watch.track.panel.slots watch.track.panel.cur).sentX = true ∨
        (watch.track.panel.slots watch.track.panel.cur).sentY = true →
          (view.touch.slots view.touch.mtCur).fresh = true) →
      seen.sentX = true ∨ seen.sentY = true → slot.fresh = true)
    (kept : got = false → view.touch.mtGotPos = false ∧
      seen.x = (watch.track.panel.slots watch.track.panel.cur).x ∧
      seen.y = (watch.track.panel.slots watch.track.panel.cur).y) :
    Follows dev nslots W H first
      { watch with track.panel.slots :=
          Function.update watch.track.panel.slots watch.track.panel.cur seen }
      { view with
        touch.slots := Function.update view.touch.slots view.touch.mtCur slot
        touch.mtGotPos := got } := by
  have cur := follows.agrees.cur
  refine { agrees := { follows.agrees with mirrors := ?_ }, phase := ?_, taps := follows.taps }
  · intro s
    by_cases here : s = watch.track.panel.cur
    · subst here
      simp only [cur, Function.update_self]
      exact mirrors
    · simp only [cur, Function.update_of_ne here]
      exact follows.agrees.mirrors s
  · have phase := follows.phase
    cases contact : watch.track.contact with
    | none =>
        simp only [contact] at phase ⊢
        refine { slotId := phase.slotId, unarmed := phase.unarmed, free := phase.free, fresh := ?_ }
        intro s sent
        by_cases here : s = watch.track.panel.cur
        · subst here
          simp only [cur, Function.update_self] at sent ⊢
          exact fresh (by rw [cur]; exact phase.fresh _) sent
        · simp only [cur, Function.update_of_ne here] at sent ⊢
          exact phase.fresh s sent
    | some c =>
        simp only [contact] at phase ⊢
        refine { phase with still := ?_ }
        intro unmoved
        obtain ⟨before, sameX, sameY⟩ := kept unmoved
        have still := phase.still before
        by_cases here : c.slot = watch.track.panel.cur
        · rw [here] at still
          simp only [here, Function.update_self, sameX, sameY]
          exact still
        · simp only [Function.update_of_ne here]
          exact still

/-- An event that selects another slot in both tables. -/
theorem select (follows : Follows dev nslots W H first watch view) (s : Fin maxSlots) :
    Follows dev nslots W H first { watch with track.panel.cur := s }
      { view with touch.mtCur := s } := by
  refine { agrees := { follows.agrees with cur := rfl }, phase := ?_, taps := follows.taps }
  have phase := follows.phase
  cases contact : watch.track.contact with
  | none =>
      simp only [contact] at phase ⊢
      exact { phase with }
  | some c =>
      simp only [contact] at phase ⊢
      exact { phase with }

end Follows

namespace Hud

variable {dev : Dev} {nslots : Nat} {W H : Int} {first : List (Int × Int)} {watch : Watch}
  {h : Hud} {env : EvEnv}

/-- An axis event between the ends of reports. -/
theorem handleAbs_follows (slots : dev.hasMt = true)
    (follows : Follows dev nslots W H first watch h.touchView) {code : AbsCode} {value : Int}
    (regular : Regular dev nslots watch.track (.abs code value)) (taken : Bool) :
    Follows dev nslots W H first (watch.put dev (.abs code value) env.now taken)
      (h.handleAbs dev code value).touchView := by
  rw [Watch.put_of_ne_syn (by simp)]
  have here : Mirrors (h.touch.slots h.touch.mtCur)
      (watch.track.panel.slots watch.track.panel.cur) := by
    rw [show h.touch.mtCur = watch.track.panel.cur from follows.agrees.cur]
    exact follows.agrees.mirrors _
  unfold handleAbs
  rw [if_neg (by simp [slots])]
  cases code with
  | mtSlot =>
      have inside : 0 ≤ value ∧ value < maxSlots := regular
      simp only [Panel.put]
      rw [dif_pos inside, dif_pos inside]
      exact follows.select _
  | mtTrackingId =>
      simp only [Panel.put, PanelSlot.put, mtTracking]
      by_cases lifts : value < 0
      · rw [if_pos lifts, if_pos lifts]
        have gone : ¬(false = true ∨ false = true) := by simp
        have unset {p : Prop} (set : false = true) : p := absurd set Bool.false_ne_true
        exact follows.update ⟨.inr ⟨neg_one_lt_zero, lifts⟩, unset, unset, unset, unset⟩
          (fun _ sent => absurd sent gone) fun still => ⟨still, rfl, rfl⟩
      · rw [if_neg lifts, if_neg lifts]
        exact follows.update ⟨.inl rfl, here.x, here.y, here.sentX, here.sentY⟩ id
          fun still => ⟨still, rfl, rfl⟩
  | mtPositionX =>
      exact follows.update ⟨here.id, fun _ => rfl, here.y, fun _ => rfl, here.sentY⟩
        (fun _ _ => rfl) (absurd · Bool.false_ne_true.symm)
  | mtPositionY =>
      exact follows.update ⟨here.id, here.x, fun _ => rfl, here.sentX, fun _ => rfl⟩
        (fun _ _ => rfl) (absurd · Bool.false_ne_true.symm)
  | mtTouchMajor =>
      exact follows.update ⟨here.id, here.x, here.y, here.sentX, here.sentY⟩ id
        fun still => ⟨still, rfl, rfl⟩
  | mtPressure =>
      exact follows.update ⟨here.id, here.x, here.y, here.sentX, here.sentY⟩ id
        fun still => ⟨still, rfl, rfl⟩
  | _ =>
      simp only [Panel.put, PanelSlot.put, Function.update_eq_self]
      exact follows

/-! ## The end of a report -/

/-- The comparison with the kernel settles the slot table. -/
theorem mtSync_follows (follows : Follows dev nslots W H first watch h.touchView) {now : Panel}
    (one : (watch.track.panel.put .syn).OneFinger dev nslots)
    (current : (watch.track.panel.put .syn).Current now) :
    Follows dev nslots W H first { watch with track.panel := watch.track.panel.put .syn }
      (h.mtSyncFromKernel (some now.answer)).touchView := by
  have settled := mtSync_settled follows.agrees.count follows.agrees.mirrors one current
  refine { agrees := { follows.agrees with mirrors := fun s => (settled s).mirrors },
           phase := ?_, taps := follows.taps }
  have phase := follows.phase
  cases contact : watch.track.contact with
  | none =>
      simp only [contact] at phase ⊢
      refine { phase with fresh := ?_ }
      intro s sent
      exact mtSync_fresh (phase.fresh s
        (sent.imp PanelSlot.sentX_of_settle PanelSlot.sentY_of_settle))
  | some c =>
      simp only [contact] at phase ⊢
      refine { phase with still := ?_ }
      intro unmoved
      simp only [Panel.put, PanelSlot.settle_x, PanelSlot.settle_y]
      exact phase.still unmoved

section Report

variable {k : Hud} (taken : Bool)

/-- A report without a finger while no contact is followed. -/
theorem syn_idle (synced : h.mtSyncFromKernel env.slots = k)
    (settled : ∀ s, Settled (k.touch.slots s) ((watch.track.panel.put .syn).slots s))
    (follows : Follows dev nslots W H first
      { watch with track.panel := watch.track.panel.put .syn } k.touchView)
    (before : watch.track.contact = none) (absent : (watch.track.panel.put .syn).finger = none) :
    Follows dev nslots W H first (watch.put dev .syn env.now taken)
      (h.handleSyn dev env).touchView := by
  have phase := follows.phase
  simp only [before] at phase
  rw [Watch.put_idle before absent, handleSyn_idle synced settled phase.unarmed phase.slotId absent]
  refine ⟨follows.agrees.cleared rfl rfl rfl rfl rfl rfl, ?_, follows.taps⟩
  exact ⟨neg_one_lt_zero, phase.unarmed, phase.free,
    fun s sent => absurd sent (Panel.unsent_of_absent absent s)⟩

/-- A report with a finger while no contact is followed: the finger has landed. -/
theorem syn_land (synced : h.mtSyncFromKernel env.slots = k)
    (settled : ∀ s, Settled (k.touch.slots s) ((watch.track.panel.put .syn).slots s))
    (follows : Follows dev nslots W H first
      { watch with track.panel := watch.track.panel.put .syn } k.touchView)
    (before : watch.track.contact = none) (one : (watch.track.panel.put .syn).OneFinger dev nslots)
    {s : Fin maxSlots} (found : (watch.track.panel.put .syn).finger = some s)
    (sent : ((watch.track.panel.put .syn).slots s).sentX = true ∨
      ((watch.track.panel.put .syn).slots s).sentY = true) (clock : env.now ≠ 0) :
    Follows dev nslots W H first (watch.put dev .syn env.now taken)
      (h.handleSyn dev env).touchView := by
  have phase := follows.phase
  simp only [before] at phase
  have live := Panel.live_of_finger found
  obtain ⟨id, haveX, haveY, x, y⟩ := (settled s).live live
  rw [Watch.put_land before found,
    handleSyn_land synced settled phase.unarmed one follows.agrees.count found (phase.fresh s sent)]
  obtain ⟨held, view⟩ := synLand_touchView dev env ({ k with touch.mtNraw := 1 }.bindTo (some s))
  rw [view]
  refine ⟨follows.agrees.cleared rfl rfl rfl rfl rfl rfl, ?_, follows.taps⟩
  have count : k.touch.mtNslots = nslots := follows.agrees.count
  have inside : s.val < k.touch.mtNslots := count.symm ▸ one.has s live
  exact {
    live := live
    slotId := id
    armed := rfl
    bound := rfl
    inside := inside
    x := x
    y := y
    tDown := rfl
    clock := clock
    bl := nofun
    base := fun _ => ⟨x, y⟩
    steady := Trail.land_steady dev _ _
    still := fun _ => ⟨rfl, rfl⟩ }

/-- A report without the finger: the contact has ended. -/
theorem syn_lift (synced : h.mtSyncFromKernel env.slots = k)
    (settled : ∀ s, Settled (k.touch.slots s) ((watch.track.panel.put .syn).slots s))
    (follows : Follows dev nslots W H first
      { watch with track.panel := watch.track.panel.put .syn } k.touchView)
    {c : Contact} (before : watch.track.contact = some c)
    (absent : (watch.track.panel.put .syn).finger = none) :
    Follows dev nslots W H first (watch.put dev .syn env.now k.touchView.taken)
      (h.handleSyn dev env).touchView := by
  have phase := follows.phase
  simp only [before] at phase
  rw [Watch.put_lift before absent,
    handleSyn_lift synced settled phase.armed phase.bound phase.inside absent]
  have followed : 0 ≤ k.touch.slotId := by
    rw [show k.touch.slotId = c.id from phase.slotId]
    exact phase.live
  rw [synLift_touchView dev env (k.bindTo none) followed]
  refine ⟨follows.agrees.cleared rfl rfl rfl rfl rfl rfl, ?_, ?_⟩
  · exact ⟨neg_one_lt_zero, rfl, rfl, fun s sent => absurd sent (Panel.unsent_of_absent absent s)⟩
  · have place : (k.bindTo none).mapTouch dev = dev.place W H c.trail.x c.trail.y := by
      rw [← follows.agrees.width, ← follows.agrees.height, ← phase.x, ← phase.y]
      rfl
    have before : k.taps = first ++ watch.taps dev W H := follows.taps
    have verdict : ((k.bindTo none).touchView.taken = false ∧
        (k.bindTo none).touch.contactArmed = true ∧ (k.bindTo none).tapOk dev env.now = true) ↔
          Lifted.isTap dev ⟨c.trail, watch.down, env.now, k.touchView.taken⟩ = true := by
      have armed : (k.bindTo none).touch.contactArmed = true := phase.armed
      have same : (k.bindTo none).touchView.taken = k.touchView.taken := rfl
      rw [same]
      cases taken : k.touchView.taken with
      | true => simp [Lifted.isTap]
      | false =>
          obtain ⟨downX, downY⟩ := phase.base taken
          have ok : (k.bindTo none).tapOk dev env.now = _ :=
            tapOk_eq phase.tDown phase.clock phase.x phase.y downX downY
          rw [ok]
          simp [armed]
    rw [Watch.taps_append]
    simp only [verdict, place]
    have same : (k.bindTo none).taps = first ++ watch.taps dev W H := before
    rw [same]
    split
    · exact List.append_assoc _ _ _
    · rw [List.append_nil]
      rfl

/-- A report with the finger: the contact may have moved. -/
theorem syn_move (synced : h.mtSyncFromKernel env.slots = k)
    (settled : ∀ s, Settled (k.touch.slots s) ((watch.track.panel.put .syn).slots s))
    (follows : Follows dev nslots W H first
      { watch with track.panel := watch.track.panel.put .syn } k.touchView)
    {c : Contact} (before : watch.track.contact = some c)
    (found : (watch.track.panel.put .syn).finger = some c.slot) :
    Follows dev nslots W H first (watch.put dev .syn env.now taken)
      (h.handleSyn dev env).touchView := by
  have phase := follows.phase
  simp only [before] at phase
  rw [Watch.put_move before found,
    handleSyn_move synced settled phase.armed phase.bound phase.inside found]
  have live := Panel.live_of_finger found
  obtain ⟨id, -, -, x, y⟩ := (settled c.slot).live live
  obtain ⟨g, moved, steers⟩ := (k.bindTo (some c.slot)).synMove_steers dev
  obtain ⟨downX, downY, dragging, gotPos, draggingBl, held, frame⟩ := steers.frame.eq
  have drags := steers.bl phase.bl
  have start := steers.base phase.bl
  rw [moved, mtClearFresh_touchView]
  rw [frame] at drags start ⊢
  refine ⟨follows.agrees.cleared rfl rfl rfl rfl rfl rfl, ?_, follows.taps⟩
  refine {
    live := live
    slotId := id
    armed := phase.armed
    bound := rfl
    inside := phase.inside
    x := by rw [Trail.move_x]; exact x
    y := by rw [Trail.move_y]; exact y
    tDown := phase.tDown
    clock := phase.clock
    bl := drags
    base := ?_
    steady := Trail.move_steady dev _ _ _
    still := fun _ => ⟨(Trail.move_x ..).symm, (Trail.move_y ..).symm⟩ }
  intro free
  obtain ⟨untaken, down⟩ := start free
  obtain ⟨startX, startY⟩ := phase.base untaken
  rw [← Prod.mk.injEq, Trail.move_base]
  apply down.trans
  change (if k.touch.mtGotPos = true ∧ dev.rangeY.tdiv 4 <
      (((k.touch.slots c.slot).y - k.touch.downY).natAbs : Int) then
        ((k.touch.slots c.slot).x, (k.touch.slots c.slot).y)
      else (k.touch.downX, k.touch.downY)) = _
  rw [x, y, show k.touch.downX = _ from startX, show k.touch.downY = _ from startY]
  cases got : k.touch.mtGotPos with
  | true => simp only [true_and]
  | false =>
      obtain ⟨sameX, sameY⟩ := phase.still got
      rw [if_neg (fun jump => nomatch jump.1), if_neg]
      rw [sameY]
      exact not_lt.mpr phase.steady

end Report

/-- The end of a report, when the kernel has not got ahead of it. -/
theorem handleSyn_follows (follows : Follows dev nslots W H first watch h.touchView)
    (regular : Regular dev nslots watch.track .syn) (clock : env.now ≠ 0) {now : Panel}
    (kernel : env.slots = some now.answer) (current : (watch.track.panel.put .syn).Current now) :
    Follows dev nslots W H first (watch.put dev .syn env.now h.touchView.taken)
      (h.handleSyn dev env).touchView := by
  obtain ⟨one, steady⟩ := regular
  have settled := mtSync_settled follows.agrees.count follows.agrees.mirrors one current
  have synced := mtSync_follows follows one current
  have taken : (h.mtSyncFromKernel (some now.answer)).touchView.taken = h.touchView.taken := rfl
  rw [← taken]
  rw [← kernel] at settled synced ⊢
  cases before : watch.track.contact with
  | none =>
      simp only [before] at steady
      cases found : (watch.track.panel.put .syn).finger with
      | none => exact syn_idle _ rfl settled synced before found
      | some s =>
          exact syn_land _ rfl settled synced before one found
            (steady s (Panel.live_of_finger found)) clock
  | some c =>
      simp only [before] at steady
      cases found : (watch.track.panel.put .syn).finger with
      | none => exact syn_lift rfl settled synced before found
      | some s =>
          obtain ⟨rfl, -⟩ := steady s (Panel.live_of_finger found)
          exact syn_move _ rfl settled synced before found

/-- **One event.** The HUD goes on following the finger when it is awake and the kernel has
not got ahead at the end of a report. -/
theorem handleEv_follows (touch : dev.isTouch = true) (slots : dev.hasMt = true)
    (follows : Follows dev nslots W H first watch h.touchView) {ev : Ev}
    (regular : Regular dev nslots watch.track ev) (clock : env.now ≠ 0)
    (awake : h.screen.tUnblank = 0 ∨ 250000000 ≤ env.now - h.screen.tUnblank) {now : Panel}
    (kernel : env.slots = some now.answer)
    (current : ev = .syn → (watch.track.panel.put .syn).Current now) :
    Follows dev nslots W H first (watch.put dev ev env.now h.touchView.taken)
      (h.handleEv dev ev env).touchView := by
  have unblanked : ¬(dev.isTouch = true ∧ h.screen.tUnblank ≠ 0 ∧
      env.now - h.screen.tUnblank < 250000000) := by
    rintro ⟨-, set, early⟩
    rcases awake with never | late
    · exact set never
    · omega
  have on : ¬h.screen.screenOff = true := by
    rw [show h.screen.screenOff = false from follows.agrees.awake]
    decide
  have power : ev ≠ .key .power 1 := by
    rintro rfl
    exact regular rfl
  unfold handleEv
  rw [if_neg power, if_neg unblanked, if_neg on]
  simp only
  rw [if_neg (by simp [touch])]
  have noted : Follows dev nslots W H first watch { h with screen.tUser := env.now }.touchView :=
    follows
  have taken : ({ h with screen.tUser := env.now } : Hud).touchView.taken = h.touchView.taken := rfl
  rw [← taken]
  generalize ({ h with screen.tUser := env.now } : Hud) = g at noted ⊢
  cases ev with
  | syn => exact handleSyn_follows noted regular clock kernel (current rfl)
  | abs code value => exact handleAbs_follows slots noted regular _
  | key code value =>
      rw [Watch.put_of_ne_syn (by simp)]
      cases code with
      | btnTouch =>
          simp only [slots, if_true]
          exact noted
      | btnLeft =>
          simp only [slots, if_true]
          exact noted
      | power => exact noted
      | other => exact noted
  | other =>
      rw [Watch.put_of_ne_syn (by simp)]
      exact noted

end Hud

end Ginkgo
