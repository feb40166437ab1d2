import Ginkgo.Touch.Mirror

/-!
# Which landings are seen

The input core does not send an axis of a slot that keeps its value. A finger that lands
where the slot's last one was therefore sends its tracking id alone, and the HUD, which has
entered the same id, takes nothing in the slot for new. A finger on the edge of an axis may
not send the zero, which the HUD takes for a coordinate that is missing. Otherwise the HUD
follows the finger from the report that ends its first frame on
(`Ginkgo.Mirroring.landing_seen_iff`).
-/

namespace Ginkgo

open CText Transition

/-! ## What the HUD hears of a slot -/

/-- What has been entered in one slot during a frame: its axes, as far as they were sent while
the slot was the current one, and whether a position was among them. -/
structure Echo where
  cur : Fin maxSlots
  slot : PanelSlot := {}
  noted : Bool := false

namespace Echo

/-- What the slot is known by after an event. -/
def put (k : Fin maxSlots) (echo : Echo) : Ev → Echo
  | .abs .mtSlot value =>
      if inside : 0 ≤ value ∧ value < maxSlots then
        { echo with cur := ⟨value.toNat, toNat_lt_maxSlots inside⟩ }
      else echo
  | .abs code value =>
      if echo.cur = k then
        { echo with
          slot := echo.slot.put code value
          noted := echo.noted || code = .mtPositionX || code = .mtPositionY }
      else echo
  | _ => echo

/-- Another step of the run. -/
def hear (k : Fin maxSlots) (echo : Echo) : MirrorAct → Echo
  | .touch _ ev _ => echo.put k ev
  | .other _ _ => echo

/-- **What is heard shows the contact**: a position, or else not the id; and of each coordinate
the right value, or else nothing while it is not zero. -/
structure Shows (echo : Echo) (slot : MtSlot) : Prop where
  noticed : echo.noted = true ∨ echo.slot.id ≠ slot.id
  x : if echo.slot.sentX then echo.slot.x = slot.x else slot.x ≠ 0
  y : if echo.slot.sentY then echo.slot.y = slot.y else slot.y ≠ 0

/-- The HUD has entered what it has heard, in a slot that was empty. -/
structure Entered (k : Fin maxSlots) (touch : Touch) (echo : Echo) : Prop where
  cur : touch.mtCur = echo.cur
  id : (touch.slots k).id = echo.slot.id ∨ (touch.slots k).id < 0 ∧ echo.slot.id < 0
  haveX : (touch.slots k).haveX = echo.slot.sentX
  haveY : (touch.slots k).haveY = echo.slot.sentY
  x : echo.slot.sentX = true → (touch.slots k).x = echo.slot.x
  y : echo.slot.sentY = true → (touch.slots k).y = echo.slot.y
  fresh : (touch.slots k).fresh = echo.noted

end Echo

namespace Hud

/-! ## Frames -/

section Frames

variable {dev : Dev} {h : Hud} {k : Fin maxSlots} {echo : Echo}

/-- Of a slot that is bare nothing is known. -/
theorem entered_of_bare (bare : (h.touch.slots k).Bare) :
    Echo.Entered k h.touch { cur := h.touch.mtCur } where
  cur := rfl
  id := .inr ⟨bare.id, neg_one_lt_zero⟩
  haveX := bare.haveX
  haveY := bare.haveY
  x := nofun
  y := nofun
  fresh := bare.fresh

/-- An axis event is entered as it is heard. -/
theorem handleAbs_entered (slots : dev.hasMt = true) (entered : Echo.Entered k h.touch echo)
    (code : AbsCode) (value : Int) :
    Echo.Entered k (h.handleAbs dev code value).touch (echo.put k (.abs code value)) := by
  obtain ⟨cur, id, haveX, haveY, x, y, fresh⟩ := entered
  by_cases select : code = .mtSlot
  · subst select
    rw [handleAbs_select slots]
    simp only [Echo.put]
    split
    · exact ⟨rfl, id, haveX, haveY, x, y, fresh⟩
    · exact ⟨cur, id, haveX, haveY, x, y, fresh⟩
  rw [handleAbs_enter slots h select]
  by_cases here : h.touch.mtCur = k
  · subst here
    have axis : echo.put h.touch.mtCur (.abs code value) = { echo with
        slot := echo.slot.put code value
        noted := echo.noted || code = .mtPositionX || code = .mtPositionY } := by
      cases code with
      | mtSlot => exact absurd rfl select
      | _ => exact if_pos cur.symm
    rw [axis]
    cases code with
    | mtTrackingId =>
        simp only [Slot.enter, PanelSlot.put]
        by_cases lifts : value < 0
        · rw [if_pos lifts, if_pos lifts]
          constructor <;> simp [cur, lifts]
          rw [← cur, fresh]
        · rw [if_neg lifts, if_neg lifts]
          constructor <;> simp_all
    | _ =>
        simp only [Slot.enter, PanelSlot.put]
        constructor <;> simp_all
  · have apart : echo.put k (.abs code value) = echo := by
      cases code with
      | mtSlot => exact absurd rfl select
      | _ => exact if_neg (cur ▸ here)
    have away : k ≠ h.touch.mtCur := Ne.symm here
    rw [apart]
    constructor <;> simpa [Function.update_of_ne away]

/-! ## The end of the frame -/

/-- With one slot in use, it is the slot of the finger if it shows a new contact inside the
axis ranges. -/
theorem mtFinger_of_alone {g : Hud} (live : 0 ≤ (g.touch.slots k).id)
    (alone : ∀ j, j ≠ k → (g.touch.slots j).id < 0) (counted : k.val < g.touch.mtNslots) :
    g.mtFinger dev = ({ g with touch.mtNraw := 1 },
      if isFinger dev (g.touch.slots k) then some k else none) := by
  have only (t : Fin maxSlots) :
      decide (t.val < g.touch.mtNslots ∧ 0 ≤ (g.touch.slots t).id) = decide (t = k) := by
    rw [decide_eq_decide]
    constructor
    · rintro ⟨-, there⟩
      by_contra other
      exact absurd there (not_le.mpr (alone t other))
    · rintro rfl
      exact ⟨counted, live⟩
  have one : g.liveSlots = [k] := by
    unfold liveSlots
    simp only [only]
    rw [List.filter_eq, List.count_eq_one_of_mem (List.nodup_finRange _) (List.mem_finRange k)]
    rfl
  unfold mtFinger
  rw [one]
  cases found : isFinger dev (g.touch.slots k) <;> simp [found]

/-- A report that ends no contact that was followed leaves none followed. -/
theorem synLift_unarmed (dev : Dev) (prev : Int) (env : EvEnv)
    (unarmed : h.touch.contactArmed = false) :
    (h.synLift dev prev env).touch.contactArmed = false := by
  unfold synLift
  simp only
  split
  · rfl
  · exact unarmed

/-- **What the end of the frame makes of the finger**: with one slot in use and no contact
followed, the finger lands if it is taken for new. -/
theorem handleSyn_of_alone {env : EvEnv} {g : Hud} (synced : h.mtSyncFromKernel env.slots = g)
    (unarmed : g.touch.contactArmed = false) (live : 0 ≤ (g.touch.slots k).id)
    (alone : ∀ j, j ≠ k → (g.touch.slots j).id < 0) (counted : k.val < g.touch.mtNslots) :
    (isFinger dev (g.touch.slots k) = true ∧
      h.handleSyn dev env = ({ g with touch.mtNraw := 1 }.bindTo (some k)).synLand dev env) ∨
      isFinger dev (g.touch.slots k) = false ∧
        (h.handleSyn dev env).touch.contactArmed = false := by
  cases found : isFinger dev (g.touch.slots k) with
  | true =>
      have bound : g.mtBindPrimary dev = { g with touch.mtNraw := 1 }.bindTo (some k) := by
        rw [mtBindPrimary_of_unarmed unarmed, mtFinger_of_alone live alone counted, found]
        rfl
      have few : ¬1 < ({ g with touch.mtNraw := 1 }.bindTo (some k)).touch.mtNraw := lt_irrefl 1
      have there : ¬({ g with touch.mtNraw := 1 }.bindTo (some k)).touch.slotId < 0 :=
        not_lt.mpr live
      have idle : ({ g with touch.mtNraw := 1 }.bindTo (some k)).touch.contactArmed = false :=
        unarmed
      rw [handleSyn_eq synced bound, if_neg (fun many => few many.1), if_neg there, if_pos idle]
      exact .inl ⟨rfl, rfl⟩
  | false =>
      have bound : g.mtBindPrimary dev = { g with touch.mtNraw := 1 }.bindTo none := by
        rw [mtBindPrimary_of_unarmed unarmed, mtFinger_of_alone live alone counted, found]
        rfl
      have few : ¬1 < ({ g with touch.mtNraw := 1 }.bindTo none).touch.mtNraw := lt_irrefl 1
      have unbound : ({ g with touch.mtNraw := 1 }.bindTo none).touch.slotId < 0 := neg_one_lt_zero
      rw [handleSyn_eq synced bound, if_neg (fun many => few many.1), if_pos unbound]
      exact .inr ⟨rfl, synLift_unarmed dev _ env unarmed⟩

/-- After the comparison with the input core the other slots are empty. -/
theorem mtSync_others {kernel : MtSlots} (alone : ∀ j, j ≠ k → kernel.id j < 0) (j : Fin maxSlots)
    (other : j ≠ k) : ((h.mtSyncFromKernel (some kernel)).touch.slots j).id < 0 := by
  simp only [mtSyncFromKernel]
  split
  · rw [syncSlot_id]
    exact alone j other
  · exact neg_one_lt_zero

/-- The comparison with the input core leaves a slot that was entered with its contact's id and
with what was heard of its place. -/
theorem mtSync_entered {kernel : MtSlots} (entered : Echo.Entered k h.touch echo)
    (live : 0 ≤ kernel.id k) (counted : k.val < h.touch.mtNslots) :
    let slot := (h.mtSyncFromKernel (some kernel)).touch.slots k
    slot.id = kernel.id k ∧
      slot.fresh = (echo.noted || decide (echo.slot.id ≠ kernel.id k)) ∧
      slot.haveX = (echo.slot.sentX || decide (kernel.x k ≠ 0)) ∧
      slot.haveY = (echo.slot.sentY || decide (kernel.y k ≠ 0)) ∧
      slot.x = (if echo.slot.sentX then echo.slot.x else kernel.x k) ∧
      slot.y = if echo.slot.sentY then echo.slot.y else kernel.y k := by
  have inside := slotCount_of_counted counted
  have there : ¬kernel.id k < 0 := not_lt.mpr live
  simp only [mtSyncFromKernel, if_pos inside, syncSlot_id, syncSlot_fresh, syncSlot_haveX,
    syncSlot_haveY, syncSlot_x, syncSlot_y, if_neg there, entered.haveX, entered.haveY,
    entered.fresh, true_and]
  refine ⟨?_, ?_, ?_, ?_, ?_⟩
  · have same : (0 ≤ kernel.id k ∧ kernel.id k ≠ (h.touch.slots k).id) ↔
        echo.slot.id ≠ kernel.id k := by
      have id := entered.id
      omega
    simp only [same]
  · cases echo.slot.sentX <;> simp
  · cases echo.slot.sentY <;> simp
  · split
    · next sent => exact entered.x sent
    · rfl
  · split
    · next sent => exact entered.y sent
    · rfl

/-- A coordinate is known and right if what was heard of it is, or else it is not zero. -/
theorem shown_iff {sent known : Bool} {heard value place : Int}
    (knows : known = (sent || decide (value ≠ 0))) (placed : place = if sent then heard else value) :
    (known = true ∧ place = value) ↔ if sent then heard = value else value ≠ 0 := by
  subst knows placed
  cases sent <;> simp

/-- What was heard of a slot shows its contact when the slot shows a new finger at its place. -/
theorem mtSync_shows_iff {kernel : MtSlots} (entered : Echo.Entered k h.touch echo)
    (live : 0 ≤ kernel.id k) (counted : k.val < h.touch.mtNslots)
    (inside : dev.absMinX ≤ kernel.x k ∧ kernel.x k ≤ dev.absMaxX ∧
      dev.absMinY ≤ kernel.y k ∧ kernel.y k ≤ dev.absMaxY) {slot : Slot}
    (synced : (h.mtSyncFromKernel (some kernel)).touch.slots k = slot) :
    echo.Shows ⟨kernel.id k, kernel.x k, kernel.y k, kernel.major k, kernel.z k⟩ ↔
      isFinger dev slot = true ∧ slot.x = kernel.x k ∧ slot.y = kernel.y k := by
  obtain ⟨id, fresh, haveX, haveY, x, y⟩ := mtSync_entered entered live counted
  rw [synced] at id fresh haveX haveY x y
  have noticed : slot.fresh = true ↔ echo.noted = true ∨ echo.slot.id ≠ kernel.id k := by
    rw [fresh]
    simp
  rw [isFinger, decide_eq_true_eq, id]
  constructor
  · rintro ⟨isNew, shownX, shownY⟩
    obtain ⟨knownX, placeX⟩ := (shown_iff haveX x).mpr shownX
    obtain ⟨knownY, placeY⟩ := (shown_iff haveY y).mpr shownY
    obtain ⟨left, right, top, bottom⟩ := inside
    rw [placeX, placeY]
    exact ⟨⟨live, knownX, knownY, left, right, top, bottom, noticed.mpr isNew⟩, rfl, rfl⟩
  · rintro ⟨⟨-, knownX, knownY, -, -, -, -, isNew⟩, placeX, placeY⟩
    exact ⟨noticed.mp isNew, (shown_iff haveX x).mp ⟨knownX, placeX⟩,
      (shown_iff haveY y).mp ⟨knownY, placeY⟩⟩

/-- **A frame is seen** when what was heard of its slot shows the contact. -/
theorem handleSyn_seen_iff {env : EvEnv} {kernel : MtSlots} (known : env.slots = some kernel)
    (unarmed : h.touch.contactArmed = false) (entered : Echo.Entered k h.touch echo)
    (live : 0 ≤ kernel.id k) (alone : ∀ j, j ≠ k → kernel.id j < 0)
    (counted : k.val < h.touch.mtNslots)
    (inside : dev.absMinX ≤ kernel.x k ∧ kernel.x k ≤ dev.absMaxX ∧
      dev.absMinY ≤ kernel.y k ∧ kernel.y k ≤ dev.absMaxY) :
    ((h.handleSyn dev env).touch.contactArmed = true ∧
        (h.handleSyn dev env).touch.downX = kernel.x k ∧
        (h.handleSyn dev env).touch.downY = kernel.y k) ↔
      echo.Shows ⟨kernel.id k, kernel.x k, kernel.y k, kernel.major k, kernel.z k⟩ := by
  rw [mtSync_shows_iff entered live counted inside rfl]
  have id := (mtSync_entered entered live counted).1
  rcases @handleSyn_of_alone dev h k env _ (congrArg h.mtSyncFromKernel known) unarmed
    (id.symm ▸ live) (mtSync_others alone) counted with ⟨found, landed⟩ | ⟨lost, unseen⟩
  · obtain ⟨held, view⟩ := synLand_touchView dev env
      ({ h.mtSyncFromKernel (some kernel) with touch.mtNraw := 1 }.bindTo (some k))
    have touch := congrArg TouchView.touch view
    have armed : (h.handleSyn dev env).touch.contactArmed = true := by
      rw [landed]
      exact congrArg Touch.contactArmed touch
    have downX : (h.handleSyn dev env).touch.downX =
        ((h.mtSyncFromKernel (some kernel)).touch.slots k).x := by
      rw [landed]
      exact congrArg Touch.downX touch
    have downY : (h.handleSyn dev env).touch.downY =
        ((h.mtSyncFromKernel (some kernel)).touch.slots k).y := by
      rw [landed]
      exact congrArg Touch.downY touch
    rw [armed, downX, downY, found]
  · refine iff_of_false (fun seen => ?_) fun shown => ?_
    · rw [unseen] at seen
      cases seen.1
    · rw [lost] at shown
      cases shown.1

/-- After a report no slot is taken for new. -/
theorem handleSyn_unfresh (dev : Dev) (env : EvEnv) (h : Hud) (s : Fin maxSlots) :
    ((h.handleSyn dev env).touch.slots s).fresh = false := by
  unfold handleSyn
  simp only
  split_ifs
  · rfl
  · rfl
  · rfl
  · obtain ⟨g, moved, -⟩ := ((h.mtSyncFromKernel env.slots).mtBindPrimary dev).synMove_steers dev
    rw [moved]
    rfl

/-- The comparison with the input core empties a slot without a contact. -/
theorem mtSync_empty {kernel : MtSlots} (absent : kernel.id k < 0) :
    ((h.mtSyncFromKernel (some kernel)).touch.slots k).id < 0 ∧
      ((h.mtSyncFromKernel (some kernel)).touch.slots k).haveX = false ∧
      ((h.mtSyncFromKernel (some kernel)).touch.slots k).haveY = false := by
  simp only [mtSyncFromKernel]
  split
  · rw [syncSlot_id, syncSlot_haveX, syncSlot_haveY, if_pos absent, if_pos absent]
    exact ⟨absent, rfl, rfl⟩
  · exact ⟨neg_one_lt_zero, rfl, rfl⟩

/-- An event that the HUD listens to is not one that switches the screen on. -/
theorem handleEv_tUnblank (touch : dev.isTouch = true) (slots : dev.hasMt = true) {ev : Ev}
    {env : EvEnv} {kernel : MtSlots} (known : env.slots = some kernel)
    (on : h.screen.screenOff = false) (settled : ¬Mirroring.justOn h.screen.tUnblank env.now)
    (power : ev ≠ .key .power 1) :
    (h.handleEv dev ev env).screen.tUnblank = h.screen.tUnblank := by
  cases ev with
  | abs code value => rw [handleEv_abs touch on settled, handleAbs_screen]
  | syn =>
      have copied := handleSyn_sameCopy dev env ({ h with screen.tUser := env.now } : Hud)
      rw [known] at copied
      rw [handleEv_syn touch on settled]
      exact copied.tUnblank
  | key code value => rw [handleEv_key touch on settled slots power]
  | other => rw [handleEv_other touch on settled]

/-- After a report nothing is known of a slot without a contact. -/
theorem handleSyn_bare {env : EvEnv} {kernel : MtSlots} (known : env.slots = some kernel)
    (absent : kernel.id k < 0) : ((h.handleSyn dev env).touch.slots k).Bare := by
  obtain ⟨id, haveX, haveY⟩ := @mtSync_empty h k kernel absent
  have unfresh := h.handleSyn_unfresh dev env k
  have copied := h.handleSyn_sameCopy dev env
  rw [known] at copied
  obtain ⟨fresh, same⟩ := copied.slots k
  change (h.handleSyn dev env).touch.slots k = _ at same
  rw [same] at unfresh ⊢
  exact ⟨id, haveX, haveY, unfresh⟩

end Frames

end Hud

namespace Mirroring

/-- Whether the touch device is between two reports. -/
def between (before : Bool) : MirrorAct → Bool
  | .touch _ ev _ => ev = .syn
  | .other _ _ => before

/-- The touch device has not begun another report. -/
def Whole (acts : List MirrorAct) : Prop := acts.foldl between true = true

/-- An event of the touch device that the HUD listens to, or anything else while the screen
is on. -/
def Awake (s : Mirroring) : MirrorAct → Prop
  | .touch elapsed _ _ => s.Listens (s.clock + elapsed)
  | .other _ _ => s.hud.screen.screenOff = false

/-- The end of a report is still to come. -/
def Within : MirrorAct → Prop
  | .touch _ ev _ => ev ≠ .syn
  | .other _ _ => True

/-- A step of a frame that the HUD listens to. -/
def Heard (s : Mirroring) (act : MirrorAct) : Prop := s.Awake act ∧ Within act

/-- What the HUD hears of a slot. -/
def echo (k : Fin maxSlots) (s : Mirroring) (frame : List MirrorAct) : Echo :=
  frame.foldl (Echo.hear k) { cur := s.hud.touch.mtCur }

/-- **A finger lands**: the table is empty and no contact is followed; at the end of the frame,
which the HUD listens to, there is one contact, in a slot of the device and inside the axis
ranges. -/
structure Landing (dev : Dev) (s : Mirroring) (frame : List MirrorAct) (elapsed : Nat)
    (k : Fin maxSlots) : Prop where
  unarmed : s.hud.touch.contactArmed = false
  empty : ∀ j : Fin maxSlots, (s.table.slots j).id < 0
  heard : EachStep (step dev) Heard s frame
  listens : (run (step dev) s frame).Listens ((run (step dev) s frame).clock + elapsed)
  live : 0 ≤ ((run (step dev) s frame).table.slots k).id
  alone : ∀ j : Fin maxSlots, j ≠ k → ((run (step dev) s frame).table.slots j).id < 0
  counted : k.val < (run (step dev) s frame).hud.touch.mtNslots
  inside : dev.absMinX ≤ ((run (step dev) s frame).table.slots k).x ∧
    ((run (step dev) s frame).table.slots k).x ≤ dev.absMaxX ∧
    dev.absMinY ≤ ((run (step dev) s frame).table.slots k).y ∧
    ((run (step dev) s frame).table.slots k).y ≤ dev.absMaxY

/-- **The landing is seen**: after the report the contact is followed from where it landed. -/
def Seen (dev : Dev) (s : Mirroring) (elapsed : Nat) (sys : Sys) (k : Fin maxSlots) : Prop :=
  (s.step dev (.touch elapsed .syn sys)).hud.touch.contactArmed = true ∧
    (s.step dev (.touch elapsed .syn sys)).hud.touch.downX = (s.table.slots k).x ∧
    (s.step dev (.touch elapsed .syn sys)).hud.touch.downY = (s.table.slots k).y

instance (acts : List MirrorAct) : Decidable (Whole acts) := inferInstanceAs (Decidable (_ = _))

instance (s : Mirroring) : (act : MirrorAct) → Decidable (s.Awake act)
  | .touch _ _ _ => inferInstanceAs (Decidable (_ ∧ _))
  | .other _ _ => inferInstanceAs (Decidable (_ = _))

instance : (act : MirrorAct) → Decidable (Within act)
  | .touch _ _ _ => inferInstanceAs (Decidable (_ ≠ _))
  | .other _ _ => .isTrue trivial

instance (s : Mirroring) (act : MirrorAct) : Decidable (s.Heard act) :=
  inferInstanceAs (Decidable (_ ∧ _))

instance (dev : Dev) (s : Mirroring) (frame : List MirrorAct) (elapsed : Nat) (k : Fin maxSlots) :
    Decidable (Landing dev s frame elapsed k) :=
  decidable_of_iff
    (s.hud.touch.contactArmed = false ∧ (∀ j : Fin maxSlots, (s.table.slots j).id < 0) ∧
      EachStep (step dev) Heard s frame ∧
      (run (step dev) s frame).Listens ((run (step dev) s frame).clock + elapsed) ∧
      0 ≤ ((run (step dev) s frame).table.slots k).id ∧
      (∀ j : Fin maxSlots, j ≠ k → ((run (step dev) s frame).table.slots j).id < 0) ∧
      k.val < (run (step dev) s frame).hud.touch.mtNslots ∧
      dev.absMinX ≤ ((run (step dev) s frame).table.slots k).x ∧
      ((run (step dev) s frame).table.slots k).x ≤ dev.absMaxX ∧
      dev.absMinY ≤ ((run (step dev) s frame).table.slots k).y ∧
      ((run (step dev) s frame).table.slots k).y ≤ dev.absMaxY)
    ⟨fun ⟨unarmed, empty, heard, listens, live, alone, counted, inside⟩ =>
        ⟨unarmed, empty, heard, listens, live, alone, counted, inside⟩,
      fun landing => ⟨landing.unarmed, landing.empty, landing.heard, landing.listens, landing.live,
        landing.alone, landing.counted, landing.inside⟩⟩

instance (dev : Dev) (s : Mirroring) (elapsed : Nat) (sys : Sys) (k : Fin maxSlots) :
    Decidable (Seen dev s elapsed sys k) := inferInstanceAs (Decidable (_ ∧ _))

/-- What the HUD knows with the screen on: nothing when it has just been switched on, and
between reports nothing of a slot without a contact. -/
structure Ready (s : Mirroring) (whole : Bool) : Prop where
  just : justOn s.hud.screen.tUnblank s.clock → s.hud.touchView.Reset
  empty : whole = true → ∀ k : Fin maxSlots, (s.table.slots k).id < 0 → (s.hud.touch.slots k).Bare

variable {dev : Dev}

/-- Where nothing is known, a finger may land. -/
theorem Ready.of_reset {s : Mirroring} (whole : Bool) (reset : s.hud.touchView.Reset) :
    s.Ready whole := ⟨fun _ => reset, fun _ k _ => reset.slots k⟩

/-- A step keeps that a finger may land, or the screen is off. -/
theorem step_ready (touch : dev.isTouch = true) (slots : dev.hasMt = true) {s : Mirroring}
    {whole : Bool} (act : MirrorAct) (ready : s.hud.screen.screenOff = false → s.Ready whole)
    (on : (s.step dev act).hud.screen.screenOff = false) :
    (s.step dev act).Ready (between whole act) := by
  cases act with
  | touch elapsed ev sys =>
      have earlier : ∀ tUnblank, justOn tUnblank (s.clock + elapsed) → justOn tUnblank s.clock :=
        fun _ just => ⟨just.1, by have := just.2; omega⟩
      obtain ⟨env, now, kernel, after⟩ := step_touch dev s elapsed ev sys
      rw [after] at on ⊢
      rcases Hud.handleEv_lit touch on with ⟨-, reset⟩ | ⟨lit, ignored, why⟩ | ⟨lit, settled, power⟩
      · exact .of_reset _ reset
      · rw [ignored]
        rcases why with just | rfl
        · exact .of_reset _ ((ready lit).just (earlier _ (now ▸ just)))
        · exact ⟨fun just => (ready lit).just (earlier _ just), nofun⟩
      · have lasts := Hud.handleEv_tUnblank touch slots kernel lit settled power
        refine ⟨fun just => absurd (lasts ▸ now ▸ just) settled, ?_⟩
        intro whole k absent
        have syn : ev = .syn := of_decide_eq_true whole
        subst syn
        change ((s.hud.handleEv dev .syn env).touch.slots k).Bare
        rw [Hud.handleEv_syn touch lit settled]
        exact Hud.handleSyn_bare kernel absent
  | other event elsewhere =>
      rcases Hud.step_elsewhere elsewhere on with ⟨-, reset⟩ | same
      · exact .of_reset _ reset
      · have lit : s.hud.screen.screenOff = false :=
          (congrArg TouchView.screenOff same).symm.trans on
        have kept := ready lit
        refine ⟨fun just => ?_, ?_⟩
        · rw [show (s.step dev (.other event elsewhere)).hud.touchView = s.hud.touchView from same]
          have lasts : (s.hud.step event).screen.tUnblank = s.hud.screen.tUnblank :=
            congrArg TouchView.tUnblank same
          exact kept.just (lasts ▸ just)
        · rw [show (s.step dev (.other event elsewhere)).hud.touch = s.hud.touch from
            congrArg TouchView.touch same]
          exact kept.empty

theorem run_ready (touch : dev.isTouch = true) (slots : dev.hasMt = true) {s : Mirroring}
    {whole : Bool} (acts : List MirrorAct) (ready : s.hud.screen.screenOff = false → s.Ready whole)
    (on : (run (step dev) s acts).hud.screen.screenOff = false) :
    (run (step dev) s acts).Ready (acts.foldl between whole) := by
  induction acts generalizing s whole with
  | nil => exact ready on
  | cons act acts ih => exact ih (step_ready touch slots act ready) on

/-- The screen is on at the start of a run of awake steps that ends with the screen on. -/
theorem on_of_awake {s : Mirroring} {acts : List MirrorAct} (awake : EachStep (step dev) Awake s acts)
    (on : (run (step dev) s acts).hud.screen.screenOff = false) :
    s.hud.screen.screenOff = false := by
  cases acts with
  | nil => exact on
  | cons act acts =>
      cases act with
      | touch elapsed ev sys => exact awake.1.1
      | other event elsewhere => exact awake.1

/-- **What a step does while the HUD listens**: nothing that a contact notices, or it enters an
axis event, or it ends a report. -/
theorem step_awake (touch : dev.isTouch = true) (slots : dev.hasMt = true) {s : Mirroring}
    {act : MirrorAct} (awake : s.Awake act)
    (on : (s.step dev act).hud.screen.screenOff = false) :
    (Within act ∧ (∀ elapsed code value sys, act ≠ .touch elapsed (.abs code value) sys) ∧
        (s.step dev act).hud.touchView = s.hud.touchView ∧ (s.step dev act).table = s.table) ∨
      (∃ elapsed code value sys now, act = .touch elapsed (.abs code value) sys ∧
        (s.step dev act).hud =
          ({ s.hud with screen.tUser := now } : Hud).handleAbs dev code value) ∨
      ∃ elapsed sys env, act = .touch elapsed .syn sys ∧ env.slots = some s.table.answer ∧
        (s.step dev act).hud = ({ s.hud with screen.tUser := env.now } : Hud).handleSyn dev env := by
  cases act with
  | touch elapsed ev sys =>
      obtain ⟨lit, settled⟩ := awake
      obtain ⟨env, now, kernel, after⟩ := step_touch dev s elapsed ev sys
      rw [← now] at settled
      rw [after] at on ⊢
      cases ev with
      | abs code value =>
          exact .inr (.inl ⟨_, _, _, _, _, rfl, Hud.handleEv_abs touch lit settled code value⟩)
      | syn => exact .inr (.inr ⟨_, _, env, rfl, kernel, Hud.handleEv_syn touch lit settled⟩)
      | key code value =>
          refine .inl ⟨nofun, nofun, ?_, rfl⟩
          by_cases power : Ev.key code value = .key .power 1
          · rw [power] at on ⊢
            rcases @Hud.powerKey_lit dev env s.hud on with ⟨off, -⟩ | ⟨-, bounced⟩
            · rw [lit] at off
              cases off
            · exact congrArg Hud.touchView bounced
          · rw [Hud.handleEv_key touch lit settled slots power]
            rfl
      | other =>
          refine .inl ⟨nofun, nofun, ?_, rfl⟩
          rw [Hud.handleEv_other touch lit settled]
          rfl
  | other event elsewhere =>
      rcases Hud.step_elsewhere elsewhere on with ⟨off, -⟩ | same
      · rw [show s.hud.screen.screenOff = false from awake] at off
        cases off
      · exact .inl ⟨trivial, nofun, same, rfl⟩

/-- An event of a frame is entered as it is heard, and no contact is followed. -/
theorem step_entered (touch : dev.isTouch = true) (slots : dev.hasMt = true) {k : Fin maxSlots}
    {s : Mirroring} {echo : Echo} {act : MirrorAct} (heard : s.Heard act)
    (on : (s.step dev act).hud.screen.screenOff = false)
    (unarmed : s.hud.touch.contactArmed = false) (entered : echo.Entered k s.hud.touch) :
    (s.step dev act).hud.touch.contactArmed = false ∧
      (echo.hear k act).Entered k (s.step dev act).hud.touch := by
  obtain ⟨awake, within⟩ := heard
  rcases step_awake touch slots awake on with
    ⟨-, silent, view, -⟩ | ⟨elapsed, code, value, sys, now, rfl, after⟩ | ⟨elapsed, sys, env, rfl, -⟩
  · have same : echo.hear k act = echo := by
      cases act with
      | touch elapsed ev sys =>
          cases ev with
          | abs code value => exact absurd rfl (silent elapsed code value sys)
          | _ => rfl
      | other event elsewhere => rfl
    rw [same, show (s.step dev act).hud.touch = s.hud.touch from congrArg TouchView.touch view]
    exact ⟨unarmed, entered⟩
  · have next := @Hud.handleAbs_entered dev { s.hud with screen.tUser := now } k echo slots entered
      code value
    obtain ⟨cur, table, got, frame⟩ :=
      Hud.handleAbs_frame slots ({ s.hud with screen.tUser := now } : Hud) code value
    rw [after]
    refine ⟨?_, next⟩
    rw [frame]
    exact unarmed
  · exact absurd rfl within

theorem run_entered (touch : dev.isTouch = true) (slots : dev.hasMt = true) {k : Fin maxSlots}
    {s : Mirroring} {echo : Echo} {frame : List MirrorAct}
    (heard : EachStep (step dev) Heard s frame)
    (on : (run (step dev) s frame).hud.screen.screenOff = false)
    (unarmed : s.hud.touch.contactArmed = false) (entered : echo.Entered k s.hud.touch) :
    (run (step dev) s frame).hud.touch.contactArmed = false ∧
      (frame.foldl (Echo.hear k) echo).Entered k (run (step dev) s frame).hud.touch := by
  induction frame generalizing s echo with
  | nil => exact ⟨unarmed, entered⟩
  | cons act frame ih =>
      obtain ⟨still, next⟩ := step_entered touch slots heard.1
        (on_of_awake (heard.2.mono fun _ _ heard => heard.1) on) unarmed entered
      exact ih heard.2 on still next

/-- At the end of the frame the slot is entered as it was heard. -/
theorem Landing.entered (touch : dev.isTouch = true) (slots : dev.hasMt = true) (boot : Boot)
    (table : MtTable) (clock : Nat) {acts : List MirrorAct} (whole : Whole acts)
    {frame : List MirrorAct} {elapsed : Nat} {k : Fin maxSlots}
    (landing : Landing dev (run (step dev) ⟨boot.hud, table, clock⟩ acts) frame elapsed k) :
    (run (step dev) ⟨boot.hud, table, clock⟩ (acts ++ frame)).hud.touch.contactArmed = false ∧
      (echo k (run (step dev) ⟨boot.hud, table, clock⟩ acts) frame).Entered k
        (run (step dev) ⟨boot.hud, table, clock⟩ (acts ++ frame)).hud.touch := by
  rw [run_append]
  have lit := landing.listens.1
  have on := on_of_awake (landing.heard.mono fun _ _ heard => heard.1) lit
  have initial : Ready ⟨boot.hud, table, clock⟩ true := .of_reset true boot.hud_reset
  have ready := run_ready touch slots acts (fun _ => initial) on
  have bare := ready.empty whole k (landing.empty k)
  exact run_entered touch slots landing.heard lit landing.unarmed (Hud.entered_of_bare bare)

/-- **Which landings are seen.** -/
theorem landing_seen_iff (touch : dev.isTouch = true) (slots : dev.hasMt = true) (boot : Boot)
    (table : MtTable) (clock : Nat) {acts : List MirrorAct} (whole : Whole acts)
    {frame : List MirrorAct} {elapsed : Nat} {k : Fin maxSlots}
    (landing : Landing dev (run (step dev) ⟨boot.hud, table, clock⟩ acts) frame elapsed k)
    (sys : Sys) :
    Seen dev (run (step dev) ⟨boot.hud, table, clock⟩ (acts ++ frame)) elapsed sys k ↔
      (echo k (run (step dev) ⟨boot.hud, table, clock⟩ acts) frame).Shows
        ((run (step dev) ⟨boot.hud, table, clock⟩ (acts ++ frame)).table.slots k) := by
  obtain ⟨unarmed, entered⟩ := landing.entered touch slots boot table clock whole
  rw [run_append] at unarmed entered ⊢
  generalize run (step dev) ⟨boot.hud, table, clock⟩ acts = s at *
  obtain ⟨-, -, -, ⟨lit, settled⟩, live, alone, counted, inside⟩ := landing
  generalize landed : run (step dev) s frame = t at *
  unfold Seen
  simp only [step]
  rw [Hud.handleEv_syn touch lit settled]
  exact @Hud.handleSyn_seen_iff dev { t.hud with screen.tUser := t.clock + elapsed } k _
    ⟨t.clock + elapsed, some t.table.answer, sys⟩ t.table.answer rfl unarmed entered live alone
    counted inside

/-- The finger that lands in the second slot is seen. -/
theorem landing_seen_second :
    Seen (.slotted 1080 2400) (run (step (.slotted 1080 2400)) running ([] ++ landing.dropLast)) 0
      idle 1 :=
  (landing_seen_iff rfl rfl _ {} 10000000000 (by decide)
    (show Landing (.slotted 1080 2400) running landing.dropLast 0 1 by decide +kernel) idle).mpr
    ⟨.inl (by decide +kernel), by decide +kernel, by decide +kernel⟩

/-- A finger that lands in the second slot and lifts. -/
def touched : List MirrorAct := landing ++ report 100000000 [(.mtTrackingId, -1)]

/-- The next finger at the same place: the device sends its id only. -/
def again : List MirrorAct := [.touch 100000000 (.abs .mtTrackingId 8) idle]

/-- **A finger that lands where the last one was is not seen.** -/
theorem landing_missed :
    Whole touched ∧
      EachStep (step (.slotted 1080 2400)) Sent running (touched ++ again ++ [.touch 0 .syn idle]) ∧
      Landing (.slotted 1080 2400) (run (step (.slotted 1080 2400)) running touched) again 0 1 ∧
      ¬Seen (.slotted 1080 2400) (run (step (.slotted 1080 2400)) running (touched ++ again)) 0
        idle 1 := by
  refine ⟨?_, ?_, ?_, ?_⟩ <;> decide +kernel

end Mirroring

end Ginkgo
