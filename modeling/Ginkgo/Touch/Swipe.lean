import Ginkgo.Touch.Landing

/-!
# Swipes

A contact that ends far from where it landed is not a tap, as long as the HUD compares its end
with its landing (`Ginkgo.Mirroring.swipe_not_tapped`). It does not always do so: a report that
finds the contact more than a quarter of the vertical range from its start, and that is not part
of a drag, moves the start to where the contact is. A slow swipe over more than that quarter can
so end next to its last start and is taken for a tap (`Ginkgo.Mirroring.swipe_tapped`).
-/

namespace Ginkgo

open CText Transition

namespace Mirroring

/-! ## Contacts from landing to lift -/

/-- A contact has just landed in a slot, and what the HUD heard of it shows it. -/
inductive Landed (dev : Dev) (k : Fin maxSlots) : Mirroring → Prop where
  | heard (boot : Boot) (table : MtTable) (clock : Nat) {acts frame : List MirrorAct}
      {elapsed : Nat} (sys : Sys) (whole : Whole acts)
      (landing : Landing dev (run (step dev) ⟨boot.hud, table, clock⟩ acts) frame elapsed k)
      (shows : (echo k (run (step dev) ⟨boot.hud, table, clock⟩ acts) frame).Shows
        ((run (step dev) ⟨boot.hud, table, clock⟩ (acts ++ frame)).table.slots k)) :
      Landed dev k
        ((run (step dev) ⟨boot.hud, table, clock⟩ (acts ++ frame)).step dev (.touch elapsed .syn sys))

/-- The contact in the slot stays. -/
def Stays (k : Fin maxSlots) (s : Mirroring) : MirrorAct → Prop
  | .touch _ ev _ => ((s.table.put ev).slots k).id = (s.table.slots k).id
  | .other _ _ => True

/-- **The rest of a contact**: whole reports in which it stays, and the frame in which it lifts. -/
structure Traces (dev : Dev) (k : Fin maxSlots) (s : Mirroring) (moves lift : List MirrorAct)
    (elapsed : Nat) : Prop where
  awake : EachStep (step dev) Awake s moves
  stays : EachStep (step dev) (Stays k) s moves
  whole : Whole moves
  heard : EachStep (step dev) Heard (run (step dev) s moves) lift
  listens : (run (step dev) s (moves ++ lift)).Listens
    ((run (step dev) s (moves ++ lift)).clock + elapsed)
  lifts : ((run (step dev) s (moves ++ lift)).table.slots k).id < 0

/-- An axis event is handled under the slot that it is sent for. -/
def Addressed (s : Mirroring) : MirrorAct → Prop
  | .touch _ (.abs code _) _ => code ≠ .mtSlot → (s.hud.touch.mtCur : Nat) = s.table.cur
  | _ => True

/-- A report finds the contact within a quarter of the vertical range of a height, unless it has
been taken. -/
def Level (dev : Dev) (k : Fin maxSlots) (height : Int) (s : Mirroring) : MirrorAct → Prop
  | .touch _ .syn _ => s.hud.touchView.taken = false →
      (((s.table.slots k).y - height).natAbs : Int) ≤ dev.rangeY.tdiv 4
  | _ => True

/-- No position is sent for the slot. -/
def Unmoved (k : Fin maxSlots) (s : Mirroring) : MirrorAct → Prop
  | .touch _ (.abs code _) _ => code = .mtPositionX ∨ code = .mtPositionY → s.table.cur ≠ k
  | _ => True

instance (k : Fin maxSlots) (s : Mirroring) : (act : MirrorAct) → Decidable (s.Stays k act)
  | .touch _ _ _ => inferInstanceAs (Decidable (_ = _))
  | .other _ _ => .isTrue trivial

instance (s : Mirroring) : (act : MirrorAct) → Decidable (s.Addressed act)
  | .touch _ (.abs _ _) _ => inferInstanceAs (Decidable (_ → _))
  | .touch _ .syn _ | .touch _ (.key _ _) _ | .touch _ .other _ | .other _ _ => .isTrue trivial

instance (dev : Dev) (k : Fin maxSlots) (height : Int) (s : Mirroring) :
    (act : MirrorAct) → Decidable (s.Level dev k height act)
  | .touch _ .syn _ => inferInstanceAs (Decidable (_ → _))
  | .touch _ (.abs _ _) _ | .touch _ (.key _ _) _ | .touch _ .other _ | .other _ _ => .isTrue trivial

instance (k : Fin maxSlots) (s : Mirroring) : (act : MirrorAct) → Decidable (s.Unmoved k act)
  | .touch _ (.abs _ _) _ => inferInstanceAs (Decidable (_ → _))
  | .touch _ .syn _ | .touch _ (.key _ _) _ | .touch _ .other _ | .other _ _ => .isTrue trivial

end Mirroring

/-! ## The HUD follows the contact -/

/-- The copy knows where the contact of the slot is. -/
structure Slot.Shown (slot : Slot) (row : MtSlot) : Prop where
  haveX : slot.haveX = true
  haveY : slot.haveY = true
  x : slot.x = row.x
  y : slot.y = row.y

/-- An axis event that leaves the contact in the slot is entered in both tables alike. -/
theorem Slot.Shown.enter {slot : Slot} {row : MtSlot} (shown : slot.Shown row) (code : AbsCode)
    (value : Int) (stays : (row.put code value).id = row.id) (live : 0 ≤ row.id) :
    (slot.enter code value).Shown (row.put code value) := by
  obtain ⟨haveX, haveY, x, y⟩ := shown
  cases code with
  | mtTrackingId =>
      have kept : ¬value < 0 := by
        simp only [MtSlot.put] at stays
        omega
      simp only [Slot.enter, MtSlot.put, if_neg kept]
      exact ⟨haveX, haveY, x, y⟩
  | mtPositionX => exact ⟨rfl, haveY, rfl, y⟩
  | mtPositionY => exact ⟨haveX, rfl, x, rfl⟩
  | _ => exact ⟨haveX, haveY, x, y⟩

namespace Hud

variable {dev : Dev} {h : Hud} {k : Fin maxSlots}

/-- The comparison with the input core keeps what is known of a contact. -/
theorem mtSync_shown {table : MtTable} (counted : k.val < h.touch.mtNslots)
    (live : 0 ≤ (table.slots k).id) (shown : (h.touch.slots k).Shown (table.slots k)) :
    ((h.mtSyncFromKernel (some table.answer)).touch.slots k).Shown (table.slots k) ∧
      ((h.mtSyncFromKernel (some table.answer)).touch.slots k).id = (table.slots k).id := by
  have id := mtSync_id counted table.answer
  have inside := slotCount_of_counted counted
  obtain ⟨haveX, haveY, x, y⟩ := shown
  have there : ¬(table.slots k).id < 0 := not_lt.mpr live
  refine ⟨?_, id⟩
  simp only [mtSyncFromKernel, MtTable.answer, if_pos inside]
  refine ⟨?_, ?_, ?_, ?_⟩
  · rw [syncSlot_haveX, if_neg there, if_pos haveX, haveX]
  · rw [syncSlot_haveY, if_neg there, if_pos haveY, haveY]
  · rw [syncSlot_x, if_pos haveX, x]
  · rw [syncSlot_y, if_pos haveY, y]

/-- A contact that ends an eighth of the larger axis range or more from its start is no tap. -/
theorem tapOk_of_far {now : Nat} (far : dev.range.tdiv 8 ≤
      ((h.touch.slotX - h.touch.downX).natAbs : Int) + ((h.touch.slotY - h.touch.downY).natAbs : Int)) :
    h.tapOk dev now = false := by
  unfold tapOk
  split
  · rfl
  · simp only
    split
    · rfl
    · exact decide_eq_false (not_lt.mpr far)

end Hud

/-- The HUD follows the contact in a slot, from where it landed unless it has been taken. -/
structure TouchView.Follows (k : Fin maxSlots) (x y : Int) (view : TouchView) : Prop where
  armed : view.touch.contactArmed = true
  bound : view.touch.bindSlot = some k
  counted : k.val < view.touch.mtNslots
  slotId : 0 ≤ view.touch.slotId
  drags : view.draggingBl = true → view.touch.dragging = true
  base : view.taken = false → view.touch.downX = x ∧ view.touch.downY = y

/-- The contact is there, and the copy shows it. -/
structure TouchView.Followed (k : Fin maxSlots) (x y : Int) (table : MtTable) (whole : Bool)
    (view : TouchView) : Prop where
  follows : view.Follows k x y
  live : 0 ≤ (table.slots k).id
  slot : (view.touch.slots k).Shown (table.slots k)
  place : whole = true →
    view.touch.slotX = (table.slots k).x ∧ view.touch.slotY = (table.slots k).y

namespace Hud

variable {dev : Dev} {h : Hud} {k : Fin maxSlots} {x y : Int} {table : MtTable} {whole : Bool}

/-- An axis event that is addressed and leaves the contact. -/
theorem handleAbs_followed (slots : dev.hasMt = true) {code : AbsCode} {value : Int}
    (followed : h.touchView.Followed k x y table whole)
    (addressed : code ≠ .mtSlot → (h.touch.mtCur : Nat) = table.cur)
    (stays : ((table.put (.abs code value)).slots k).id = (table.slots k).id) :
    (h.handleAbs dev code value).touchView.Followed k x y (table.put (.abs code value)) false := by
  obtain ⟨⟨armed, bound, counted, slotId, drags, base⟩, live, slot, -⟩ := followed
  by_cases select : code = .mtSlot
  · subst select
    have same : (table.put (.abs .mtSlot value)).slots k = table.slots k := by
      rw [MtTable.put_slots]
      simp [MtSlot.put]
    rw [handleAbs_select slots]
    split
    all_goals
      refine ⟨⟨armed, bound, counted, slotId, drags, base⟩, same ▸ live, ?_,
        (absurd · Bool.false_ne_true)⟩
      rw [same]
      exact slot
  · rw [handleAbs_enter slots h select]
    refine ⟨⟨armed, bound, counted, slotId, drags, base⟩, stays ▸ live, ?_,
      (absurd · Bool.false_ne_true)⟩
    rw [MtTable.put_slots] at stays ⊢
    change (Function.update h.touch.slots h.touch.mtCur _ k).Shown _
    by_cases here : k = h.touch.mtCur
    · subst here
      rw [if_pos (addressed select)] at stays ⊢
      rw [Function.update_self]
      exact slot.enter code value stays live
    · have away : (k : Nat) ≠ table.cur := by
        rw [← addressed select]
        exact fun same => here (Fin.ext same)
      rw [if_neg away, Function.update_of_ne here]
      exact slot

/-- A report that finds the contact near the height of its landing, unless it is taken. -/
theorem handleSyn_followed {env : EvEnv} (known : env.slots = some table.answer)
    (followed : h.touchView.Followed k x y table whole)
    (level : h.touchView.taken = false →
      (((table.slots k).y - y).natAbs : Int) ≤ dev.rangeY.tdiv 4) :
    (h.handleSyn dev env).touchView.Followed k x y table true ∧
      (h.handleSyn dev env).taps = h.taps := by
  obtain ⟨⟨armed, bound, counted, slotId, drags, base⟩, live, slot, -⟩ := followed
  obtain ⟨shown, id⟩ := mtSync_shown counted live slot
  have synced : h.mtSyncFromKernel env.slots = h.mtSyncFromKernel (some table.answer) := by
    rw [known]
  have there : 0 ≤ ((h.mtSyncFromKernel (some table.answer)).touch.slots k).id := id.symm ▸ live
  rw [handleSyn_goes synced armed bound counted there shown.haveY]
  obtain ⟨g, moved, steers⟩ :=
    ((h.mtSyncFromKernel (some table.answer)).bindTo (some k)).synMove_steers dev
  obtain ⟨downX, downY, dragging, gotPos, draggingBl, held, frame⟩ := steers.frame.eq
  have drag := steers.bl drags
  have start := steers.base drags
  have taps : g.taps = h.taps := congrArg TouchView.taps frame
  rw [moved]
  refine ⟨?_, taps⟩
  rw [mtClearFresh_touchView]
  rw [frame] at drag start ⊢
  refine ⟨⟨armed, rfl, counted, there, drag, ?_⟩, live, ?_, fun _ => ⟨shown.x, shown.y⟩⟩
  · intro free
    obtain ⟨untaken, down⟩ := start free
    obtain ⟨baseX, baseY⟩ := base untaken
    -- the report does not move the start
    have short : ¬(((h.mtSyncFromKernel (some table.answer)).bindTo (some k)).touch.mtGotPos = true ∧
        dev.rangeY.tdiv 4 < ((((h.mtSyncFromKernel (some table.answer)).touch.slots k).y -
          h.touch.downY).natAbs : Int)) := by
      rintro ⟨-, far⟩
      rw [shown.y, show h.touch.downY = y from baseY] at far
      exact absurd (level untaken) (not_le.mpr far)
    have kept := down.trans (if_neg short)
    rw [Prod.mk.injEq] at kept
    exact ⟨kept.1.trans baseX, kept.2.trans baseY⟩
  · exact ⟨shown.haveX, shown.haveY, shown.x, shown.y⟩

/-- A contact that lands where it is, is followed. -/
theorem handleSyn_landed {env : EvEnv} (known : env.slots = some table.answer)
    (unarmed : h.touch.contactArmed = false) (live : 0 ≤ (table.slots k).id)
    (alone : ∀ j : Fin maxSlots, j ≠ k → (table.slots j).id < 0)
    (counted : k.val < h.touch.mtNslots)
    (armed : (h.handleSyn dev env).touch.contactArmed = true)
    (downX : (h.handleSyn dev env).touch.downX = (table.slots k).x)
    (downY : (h.handleSyn dev env).touch.downY = (table.slots k).y) :
    (h.handleSyn dev env).touchView.Followed k (table.slots k).x (table.slots k).y table true := by
  have synced : h.mtSyncFromKernel env.slots = h.mtSyncFromKernel (some table.answer) := by
    rw [known]
  have id := mtSync_id counted table.answer
  have there : 0 ≤ ((h.mtSyncFromKernel (some table.answer)).touch.slots k).id := id.symm ▸ live
  rcases @handleSyn_of_alone dev h k env _ synced unarmed there (mtSync_others alone) counted with
    ⟨found, landed⟩ | ⟨-, unseen⟩
  · unfold isFinger at found
    obtain ⟨-, haveX, haveY, -⟩ := of_decide_eq_true found
    rw [landed] at downX downY ⊢
    obtain ⟨held, view⟩ := synLand_touchView dev env
      ({ h.mtSyncFromKernel (some table.answer) with touch.mtNraw := 1 }.bindTo (some k))
    have x : ((h.mtSyncFromKernel (some table.answer)).touch.slots k).x = (table.slots k).x :=
      (congrArg (fun view : TouchView => view.touch.downX) view).symm.trans downX
    have y : ((h.mtSyncFromKernel (some table.answer)).touch.slots k).y = (table.slots k).y :=
      (congrArg (fun view : TouchView => view.touch.downY) view).symm.trans downY
    rw [view]
    exact ⟨⟨rfl, rfl, counted, there, nofun, fun _ => ⟨x, y⟩⟩, live, ⟨haveX, haveY, x, y⟩,
      fun _ => ⟨x, y⟩⟩
  · rw [unseen] at armed
    cases armed

/-- The end of the contact is no tap if it is far from the landing. -/
theorem handleSyn_lifts {env : EvEnv} (known : env.slots = some table.answer)
    (follows : h.touchView.Follows k x y) (gone : (table.slots k).id < 0)
    (far : dev.range.tdiv 8 ≤
      ((h.touch.slotX - x).natAbs : Int) + ((h.touch.slotY - y).natAbs : Int)) :
    (h.handleSyn dev env).taps = h.taps := by
  obtain ⟨armed, bound, counted, slotId, drags, base⟩ := follows
  have synced : h.mtSyncFromKernel env.slots = h.mtSyncFromKernel (some table.answer) := by
    rw [known]
  have dead := (@mtSync_empty h k table.answer gone).1
  rw [handleSyn_ends synced armed bound counted (.inl dead)]
  have view := ((h.mtSyncFromKernel (some table.answer)).bindTo none).synLift_touchView dev env slotId
  have taps := congrArg TouchView.taps view
  refine taps.trans (if_neg ?_)
  rintro ⟨free, -, tapped⟩
  obtain ⟨baseX, baseY⟩ := base free
  rw [tapOk_of_far] at tapped
  · cases tapped
  · change dev.range.tdiv 8 ≤ ((h.touch.slotX - h.touch.downX).natAbs : Int) +
      ((h.touch.slotY - h.touch.downY).natAbs : Int)
    rw [show h.touch.downX = x from baseX, show h.touch.downY = y from baseY]
    exact far

end Hud

namespace Mirroring

variable {dev : Dev} {k : Fin maxSlots} {x y : Int}

/-- One step of the contact. -/
theorem step_followed (touch : dev.isTouch = true) (slots : dev.hasMt = true) {s : Mirroring}
    {act : MirrorAct} {whole : Bool} (awake : s.Awake act) (stays : s.Stays k act)
    (addressed : s.Addressed act) (level : s.Level dev k y act)
    (on : (s.step dev act).hud.screen.screenOff = false)
    (followed : s.hud.touchView.Followed k x y s.table whole) :
    (s.step dev act).hud.touchView.Followed k x y (s.step dev act).table (between whole act) ∧
      (s.step dev act).hud.taps = s.hud.taps := by
  rcases step_awake touch slots awake on with
    ⟨within, -, view, table⟩ | ⟨elapsed, code, value, sys, now, rfl, after⟩ |
      ⟨elapsed, sys, env, rfl, known, after⟩
  · rw [view, table]
    refine ⟨⟨followed.follows, followed.live, followed.slot, ?_⟩, congrArg TouchView.taps view⟩
    intro ended
    cases act with
    | touch elapsed ev sys => exact absurd (of_decide_eq_true ended) within
    | other event elsewhere => exact followed.place ended
  · rw [after]
    obtain ⟨cur, table, got, frame⟩ :=
      Hud.handleAbs_frame slots ({ s.hud with screen.tUser := now } : Hud) code value
    refine ⟨@Hud.handleAbs_followed dev { s.hud with screen.tUser := now } k x y s.table whole slots
      code value followed addressed stays, ?_⟩
    rw [frame]
    rfl
  · rw [after]
    exact @Hud.handleSyn_followed dev { s.hud with screen.tUser := env.now } k x y s.table whole env
      known followed level

/-- The whole reports of the contact. -/
theorem run_followed (touch : dev.isTouch = true) (slots : dev.hasMt = true) {s : Mirroring}
    {moves : List MirrorAct} {whole : Bool} (awake : EachStep (step dev) Awake s moves)
    (stays : EachStep (step dev) (Stays k) s moves)
    (addressed : EachStep (step dev) Addressed s moves)
    (level : EachStep (step dev) (Level dev k y) s moves)
    (on : (run (step dev) s moves).hud.screen.screenOff = false)
    (followed : s.hud.touchView.Followed k x y s.table whole) :
    (run (step dev) s moves).hud.touchView.Followed k x y (run (step dev) s moves).table
        (moves.foldl between whole) ∧
      (run (step dev) s moves).hud.taps = s.hud.taps := by
  induction moves generalizing s whole with
  | nil => exact ⟨followed, rfl⟩
  | cons act moves ih =>
      obtain ⟨next, quiet⟩ := step_followed touch slots awake.1 stays.1 addressed.1 level.1
        (on_of_awake awake.2 on) followed
      obtain ⟨last, still⟩ := ih awake.2 stays.2 addressed.2 level.2 on next
      exact ⟨last, still.trans quiet⟩

/-- What the frame of the lift leaves alone. -/
structure Rested (k : Fin maxSlots) (s t : Mirroring) : Prop where
  follows : ∀ {x y}, s.hud.touchView.Follows k x y → t.hud.touchView.Follows k x y
  slotX : t.hud.touch.slotX = s.hud.touch.slotX
  slotY : t.hud.touch.slotY = s.hud.touch.slotY
  x : (t.table.slots k).x = (s.table.slots k).x
  y : (t.table.slots k).y = (s.table.slots k).y
  taps : t.hud.taps = s.hud.taps

theorem Rested.trans {s t u : Mirroring} (first : s.Rested k t) (second : t.Rested k u) :
    s.Rested k u where
  follows followed := second.follows (first.follows followed)
  slotX := second.slotX.trans first.slotX
  slotY := second.slotY.trans first.slotY
  x := second.x.trans first.x
  y := second.y.trans first.y
  taps := second.taps.trans first.taps

/-- A step in which the finger does not move leaves it at rest. -/
theorem step_rested (touch : dev.isTouch = true) (slots : dev.hasMt = true) {s : Mirroring}
    {act : MirrorAct} (heard : s.Heard act) (unmoved : s.Unmoved k act)
    (on : (s.step dev act).hud.screen.screenOff = false) : s.Rested k (s.step dev act) := by
  obtain ⟨awake, within⟩ := heard
  rcases step_awake touch slots awake on with
    ⟨-, -, view, table⟩ | ⟨elapsed, code, value, sys, now, rfl, after⟩ | ⟨elapsed, sys, env, rfl, -⟩
  · have same : (s.step dev act).hud.touch = s.hud.touch := congrArg TouchView.touch view
    exact ⟨fun follows => view ▸ follows, by rw [same], by rw [same], by rw [table], by rw [table],
      congrArg TouchView.taps view⟩
  · obtain ⟨cur, table, got, frame⟩ :=
      Hud.handleAbs_frame slots ({ s.hud with screen.tUser := now } : Hud) code value
    have placeX := @Hud.put_x s.table code value k
    have placeY := @Hud.put_y s.table code value k
    rw [if_neg fun sent => unmoved (.inl sent.1) sent.2.symm] at placeX
    rw [if_neg fun sent => unmoved (.inr sent.1) sent.2.symm] at placeY
    constructor
    · intro x y follows
      rw [after, frame]
      exact ⟨follows.armed, follows.bound, follows.counted, follows.slotId, follows.drags,
        follows.base⟩
    · rw [after, frame]
    · rw [after, frame]
    · exact placeX
    · exact placeY
    · rw [after, frame]
      rfl
  · exact absurd rfl within

theorem run_rested (touch : dev.isTouch = true) (slots : dev.hasMt = true) {s : Mirroring}
    {lift : List MirrorAct} (heard : EachStep (step dev) Heard s lift)
    (unmoved : EachStep (step dev) (Unmoved k) s lift)
    (on : (run (step dev) s lift).hud.screen.screenOff = false) :
    s.Rested k (run (step dev) s lift) := by
  induction lift generalizing s with
  | nil => exact ⟨id, rfl, rfl, rfl, rfl, rfl⟩
  | cons act lift ih =>
      have next := on_of_awake (heard.2.mono fun _ _ heard => heard.1) on
      exact (step_rested touch slots heard.1 unmoved.1 next).trans (ih heard.2 unmoved.2 on)

/-- A contact that the HUD has seen land is followed. -/
theorem Landed.followed (touch : dev.isTouch = true) (slots : dev.hasMt = true) {s : Mirroring}
    (landed : Landed dev k s) :
    s.hud.touchView.Followed k (s.table.slots k).x (s.table.slots k).y s.table true := by
  obtain ⟨boot, table, clock, sys, whole, landing, shows⟩ := landed
  rename_i acts frame elapsed
  obtain ⟨unarmed, entered⟩ := landing.entered touch slots boot table clock whole
  obtain ⟨-, -, -, ⟨lit, settled⟩, live, alone, counted, inside⟩ := landing
  rw [← run_append] at lit settled live alone counted inside
  generalize run (step dev) ⟨boot.hud, table, clock⟩ (acts ++ frame) = t at *
  obtain ⟨armed, downX, downY⟩ := (@Hud.handleSyn_seen_iff dev
    { t.hud with screen.tUser := t.clock + elapsed } k _ ⟨t.clock + elapsed, some t.table.answer, sys⟩
    t.table.answer rfl unarmed entered live alone counted inside).mpr shows
  simp only [step]
  rw [Hud.handleEv_syn touch lit settled]
  exact @Hud.handleSyn_landed dev { t.hud with screen.tUser := t.clock + elapsed } k t.table
    ⟨t.clock + elapsed, some t.table.answer, sys⟩ rfl unarmed live alone counted armed downX downY

/-- **A swipe is not a tap**: a contact that ends an eighth of the larger axis range or more from
where it landed, of which every event was handled under its slot, which no report found more
than a quarter of the vertical range from the height of its landing before it was taken, and
which sends no position in the frame of its lift. -/
theorem swipe_not_tapped (touch : dev.isTouch = true) (slots : dev.hasMt = true) {s : Mirroring}
    (landed : Landed dev k s) {moves lift : List MirrorAct} {elapsed : Nat}
    (traces : Traces dev k s moves lift elapsed)
    (addressed : EachStep (step dev) Addressed s moves)
    (level : EachStep (step dev) (Level dev k (s.table.slots k).y) s moves)
    (unmoved : EachStep (step dev) (Unmoved k) (run (step dev) s moves) lift)
    (far : dev.range.tdiv 8 ≤
      ((((run (step dev) s (moves ++ lift)).table.slots k).x - (s.table.slots k).x).natAbs : Int) +
      ((((run (step dev) s (moves ++ lift)).table.slots k).y - (s.table.slots k).y).natAbs : Int))
    (sys : Sys) :
    ((run (step dev) s (moves ++ lift)).step dev (.touch elapsed .syn sys)).hud.taps =
      s.hud.taps := by
  have followed := landed.followed touch slots
  obtain ⟨awake, stays, whole, heard, ⟨lit, settled⟩, lifts⟩ := traces
  rw [run_append] at lit settled lifts far ⊢
  have on := on_of_awake (heard.mono fun _ _ heard => heard.1) lit
  obtain ⟨moved, quiet⟩ := run_followed touch slots awake stays addressed level on followed
  obtain ⟨placeX, placeY⟩ := moved.place whole
  obtain ⟨follows, slotX, slotY, x, y, still⟩ := run_rested touch slots heard unmoved lit
  generalize run (step dev) (run (step dev) s moves) lift = t at *
  simp only [step]
  rw [Hud.handleEv_syn touch lit settled]
  refine Eq.trans ?_ (still.trans quiet)
  refine @Hud.handleSyn_lifts dev { t.hud with screen.tUser := t.clock + elapsed } k _ _ t.table
    ⟨t.clock + elapsed, some t.table.answer, sys⟩ rfl (follows moved.follows) lifts ?_
  change dev.range.tdiv 8 ≤ ((t.hud.touch.slotX - _).natAbs : Int) +
    ((t.hud.touch.slotY - _).natAbs : Int)
  rw [slotX, slotY, show (run (step dev) s moves).hud.touch.slotX = _ from placeX,
    show (run (step dev) s moves).hud.touch.slotY = _ from placeY, ← x, ← y]
  exact far

/-! ## Two swipes -/

/-- The finger has landed in the second slot. -/
def touching : Mirroring := run (step (.slotted 1080 2400)) running landing

/-- The finger lifts. -/
def lifting : List MirrorAct := [.touch 100000000 (.abs .mtTrackingId (-1)) idle]

/-- The finger has landed. -/
theorem touching_landed : Landed (.slotted 1080 2400) 1 touching :=
  @Landed.heard (.slotted 1080 2400) 1
    { W := 1080, H := 2400, nslots := 10, now := 1000000000, sys := idle } {} 10000000000 []
    landing.dropLast 0 idle (by decide)
    (show Landing (.slotted 1080 2400) running landing.dropLast 0 1 by decide +kernel)
    ⟨.inl (by decide +kernel), by decide +kernel, by decide +kernel⟩

/-- Across the screen. -/
def across : List MirrorAct := report 100000000 [(.mtPositionX, 900)]

/-- The swipe across the screen is not tapped. -/
theorem swipe_not_tapped_across :
    ((run (step (.slotted 1080 2400)) touching (across ++ lifting)).step (.slotted 1080 2400)
      (.touch 0 .syn idle)).hud.taps = touching.hud.taps :=
  swipe_not_tapped rfl rfl touching_landed
    ⟨by decide +kernel, by decide +kernel, by decide +kernel, by decide +kernel, by decide +kernel,
      by decide +kernel⟩
    (by decide +kernel) (by decide +kernel) (by decide +kernel) (by decide +kernel) idle

/-- Down the screen, in four reports. -/
def downwards : List MirrorAct :=
  report 100000000 [(.mtPositionY, 1100)] ++ report 100000000 [(.mtPositionY, 1300)] ++
    report 100000000 [(.mtPositionY, 1520)] ++ report 100000000 [(.mtPositionY, 1600)]

/-- **A slow swipe down the screen is a tap.** -/
theorem swipe_tapped :
    Landed (.slotted 1080 2400) 1 touching ∧
      Traces (.slotted 1080 2400) 1 touching downwards lifting 0 ∧
      EachStep (step (.slotted 1080 2400)) Sent running
        (landing ++ downwards ++ lifting ++ [.touch 0 .syn idle]) ∧
      (run (step (.slotted 1080 2400)) touching (downwards ++ lifting)).hud.ui.sheetTgt = .none ∧
      (Dev.slotted 1080 2400).range.tdiv 8 ≤
        ((run (step (.slotted 1080 2400)) touching (downwards ++ lifting)).table.slots 1).y -
          (touching.table.slots 1).y ∧
      ((run (step (.slotted 1080 2400)) touching (downwards ++ lifting)).step (.slotted 1080 2400)
        (.touch 0 .syn idle)).hud.taps = touching.hud.taps ++ [(500, 1600)] := by
  refine ⟨touching_landed, ⟨?_, ?_, ?_, ?_, ?_, ?_⟩, ?_, ?_, ?_, ?_⟩ <;> decide +kernel

end Mirroring

end Ginkgo
