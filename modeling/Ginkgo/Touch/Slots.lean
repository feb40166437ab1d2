import Ginkgo.Touch.Aside
import Ginkgo.Touch.Stream

/-!
# The copy of the slot table

The HUD keeps its own slot table: it enters the events it handles and, at the end of every
report, compares the table with the kernel's. When the kernel has not got ahead of the
handled events (`Ginkgo.Panel.Current`), every slot then shows its contact
(`Ginkgo.Hud.mtSync_settled`), and a finger that has just landed is found
(`Ginkgo.Hud.mtFinger_of_finger`).
-/

namespace Ginkgo

/-! ## One slot -/

/-- A slot of the HUD's copy agrees with the events handled so far. -/
structure Mirrors (slot : Slot) (seen : PanelSlot) : Prop where
  id : slot.id = seen.id ∨ (slot.id < 0 ∧ seen.id < 0)
  x : slot.haveX = true → slot.x = seen.x
  y : slot.haveY = true → slot.y = seen.y
  sentX : seen.sentX = true → slot.haveX = true
  sentY : seen.sentY = true → slot.haveY = true

/-- At the end of a report, a slot with a contact shows it and a slot without one is empty. -/
structure Settled (slot : Slot) (seen : PanelSlot) : Prop where
  live : 0 ≤ seen.id → slot.id = seen.id ∧ slot.haveX = true ∧ slot.haveY = true ∧
    slot.x = seen.x ∧ slot.y = seen.y
  dead : seen.id < 0 → slot.id < 0 ∧ slot.haveX = false ∧ slot.haveY = false

/-- A settled slot agrees with the events. -/
theorem Settled.mirrors {slot : Slot} {seen : PanelSlot} (settled : Settled slot seen.settle) :
    Mirrors slot seen.settle := by
  by_cases live : 0 ≤ seen.id
  · obtain ⟨id, haveX, haveY, x, y⟩ := settled.live (by rwa [PanelSlot.settle_id])
    exact ⟨.inl id, fun _ => x, fun _ => y, fun _ => haveX, fun _ => haveY⟩
  · have dead : seen.id < 0 := not_le.mp live
    obtain ⟨id, noX, noY⟩ := settled.dead (by rwa [PanelSlot.settle_id])
    refine ⟨.inr ⟨id, by rwa [PanelSlot.settle_id]⟩, ?_, ?_, ?_, ?_⟩
    · simp [noX]
    · simp [noY]
    · simp [PanelSlot.settle, dead]
    · simp [PanelSlot.settle, dead]

/-- Forgetting the coordinates of a slot without a contact keeps the agreement. -/
theorem Mirrors.settle {slot : Slot} {seen : PanelSlot} (mirrors : Mirrors slot seen) :
    Mirrors slot seen.settle := by
  unfold PanelSlot.settle
  split
  · exact ⟨mirrors.id, mirrors.x, mirrors.y, nofun, nofun⟩
  · exact mirrors

namespace Hud

section SyncSlot

variable (slot : Slot) (id x y major z : Int)

/-- The id is the kernel's afterwards. -/
theorem syncSlot_id : (syncSlot slot id x y major z).id = id := by
  simp only [syncSlot, apply_ite Slot.id, ite_self]

/-- A slot is fresh when it was, or has a new id. -/
theorem syncSlot_fresh :
    (syncSlot slot id x y major z).fresh = (slot.fresh || decide (0 ≤ id ∧ id ≠ slot.id)) := by
  simp only [syncSlot, apply_ite Slot.fresh, ite_self]

/-- A horizontal position that is known stays. -/
theorem syncSlot_x : (syncSlot slot id x y major z).x = if slot.haveX then slot.x else x := by
  simp only [syncSlot, apply_ite Slot.x, ite_self]

theorem syncSlot_y : (syncSlot slot id x y major z).y = if slot.haveY then slot.y else y := by
  simp only [syncSlot, apply_ite Slot.y, apply_ite Slot.haveY, ite_self]

/-- The horizontal position is known when it was, or is not zero. -/
theorem syncSlot_haveX : (syncSlot slot id x y major z).haveX =
    if id < 0 then false else if slot.haveX = true then slot.haveX else decide (x ≠ 0) := by
  simp only [syncSlot, apply_ite Slot.haveX, ite_self]

theorem syncSlot_haveY : (syncSlot slot id x y major z).haveY =
    if id < 0 then false else if slot.haveY = true then slot.haveY else decide (y ≠ 0) := by
  simp only [syncSlot, apply_ite Slot.haveY, ite_self]

end SyncSlot

/-- One coordinate of a live slot: one that was sent is kept, another is the kernel's. -/
theorem syncSlot_axis {known sent : Bool} {held seen kernel : Int}
    (mirrors : known = true → held = seen) (noted : sent = true → known = true)
    (current : sent = true ∨ kernel = seen) (shown : sent = true ∨ seen ≠ 0) :
    (if known = true then known else decide (kernel ≠ 0)) = true ∧
      (if known then held else kernel) = seen := by
  by_cases there : known = true
  · rw [if_pos there, if_pos there]
    exact ⟨there, mirrors there⟩
  · have unsent : ¬sent = true := fun sent => there (noted sent)
    have same : kernel = seen := current.resolve_left unsent
    rw [if_neg there, if_neg there, same]
    exact ⟨decide_eq_true (shown.resolve_left unsent), rfl⟩

/-- A slot that is compared with the kernel's shows its contact, provided the kernel has
the id, the coordinates that were not sent and no zero among these. -/
theorem syncSlot_settled {slot : Slot} {seen : PanelSlot} {id x y major z : Int}
    (mirrors : Mirrors slot seen) (same : id = seen.id)
    (current : 0 ≤ seen.id → (seen.sentX = true ∨ x = seen.x) ∧ (seen.sentY = true ∨ y = seen.y))
    (shown : 0 ≤ seen.id → (seen.sentX = true ∨ seen.x ≠ 0) ∧ (seen.sentY = true ∨ seen.y ≠ 0)) :
    Settled (syncSlot slot id x y major z) seen := by
  subst same
  constructor
  · intro live
    have there : ¬seen.id < 0 := not_lt.mpr live
    rw [syncSlot_id, syncSlot_haveX, syncSlot_haveY, syncSlot_x, syncSlot_y, if_neg there,
      if_neg there]
    obtain ⟨haveX, placeX⟩ :=
      syncSlot_axis mirrors.x mirrors.sentX (current live).1 (shown live).1
    obtain ⟨haveY, placeY⟩ :=
      syncSlot_axis mirrors.y mirrors.sentY (current live).2 (shown live).2
    exact ⟨rfl, haveX, haveY, placeX, placeY⟩
  · intro dead
    rw [syncSlot_id, syncSlot_haveX, syncSlot_haveY, if_pos dead, if_pos dead]
    exact ⟨dead, rfl, rfl⟩

end Hud

/-! ## Axis events -/

/-- What an axis event enters in a slot. -/
def Slot.enter (code : AbsCode) (value : Int) (slot : Slot) : Slot :=
  match code with
  | .mtTrackingId =>
      if value < 0 then { slot with id := -1, haveX := false, haveY := false, major := 0 }
      else { slot with id := value }
  | .mtPositionX => { slot with x := value, haveX := true, fresh := true }
  | .mtPositionY => { slot with y := value, haveY := true, fresh := true }
  | .mtTouchMajor => { slot with major := value }
  | .mtPressure => { slot with z := value }
  | _ => slot

namespace Hud

section Axis

variable {dev : Dev} (slots : dev.hasMt = true) (h : Hud)

include slots

/-- The selection of a slot. -/
theorem handleAbs_select (value : Int) :
    h.handleAbs dev .mtSlot value =
      if inside : 0 ≤ value ∧ value < maxSlots then
        { h with touch.mtCur := ⟨value.toNat, toNat_lt_maxSlots inside⟩ }
      else h := by
  unfold handleAbs
  rw [if_neg (by simp [slots])]

/-- An axis event other than the selection of a slot is entered in the current slot. -/
theorem handleAbs_enter {code : AbsCode} (other : code ≠ .mtSlot) (value : Int) :
    h.handleAbs dev code value = { h with
      touch.slots := Function.update h.touch.slots h.touch.mtCur
        ((h.touch.slots h.touch.mtCur).enter code value)
      touch.mtGotPos := h.touch.mtGotPos || code = .mtPositionX || code = .mtPositionY } := by
  unfold handleAbs
  rw [if_neg (by simp [slots])]
  cases code with
  | mtSlot => exact absurd rfl other
  | mtTrackingId =>
      simp only [mtTracking, Slot.enter]
      split <;> simp [setSlot]
  | _ => simp [mtNotePos, setSlot, Slot.enter]

/-- An axis event changes the current slot, what is entered in it and whether a position has
come. -/
theorem handleAbs_frame (code : AbsCode) (value : Int) :
    ∃ cur table got, h.handleAbs dev code value = { h with
      touch.mtCur := cur, touch.slots := table, touch.mtGotPos := got } := by
  by_cases select : code = .mtSlot
  · subst select
    rw [handleAbs_select slots]
    split
    · exact ⟨_, _, _, rfl⟩
    · exact ⟨_, _, _, rfl⟩
  · exact ⟨_, _, _, handleAbs_enter slots h select value⟩

end Axis

end Hud

/-! ## The whole table -/

/-- The kernel has not got ahead of the handled events: it has the same contacts, and the
coordinates of a contact that were not sent. -/
def Panel.Current (panel now : Panel) : Prop :=
  ∀ s, (now.slots s).id = (panel.slots s).id ∧ (panel.Live s →
    ((panel.slots s).sentX = true ∨ (now.slots s).x = (panel.slots s).x) ∧
      ((panel.slots s).sentY = true ∨ (now.slots s).y = (panel.slots s).y))

instance (panel now : Panel) : Decidable (panel.Current now) :=
  inferInstanceAs (Decidable (∀ _, _ ∧ (_ → _)))

namespace Hud

section Sync

variable {dev : Dev} {nslots : Nat} {panel now : Panel} {h : Hud}

/-- A slot of the device is compared. -/
theorem slotCount_of_counted {s : Fin maxSlots} (counted : s.val < h.touch.mtNslots) :
    s.val < h.slotCount := by
  unfold slotCount
  split
  · exact s.isLt
  · exact counted

/-- A slot of the device has the kernel's id after the comparison. -/
theorem mtSync_id {s : Fin maxSlots} (counted : s.val < h.touch.mtNslots) (kernel : MtSlots) :
    ((h.mtSyncFromKernel (some kernel)).touch.slots s).id = kernel.id s := by
  simp only [mtSyncFromKernel, if_pos (slotCount_of_counted counted), syncSlot_id]

/-- After the comparison with the kernel every slot is settled. -/
theorem mtSync_settled (count : h.touch.mtNslots = nslots)
    (mirrors : ∀ s, Mirrors (h.touch.slots s) (panel.slots s))
    (one : (panel.put .syn).OneFinger dev nslots) (current : (panel.put .syn).Current now)
    (s : Fin maxSlots) :
    Settled ((h.mtSyncFromKernel (some now.answer)).touch.slots s) ((panel.put .syn).slots s) := by
  obtain ⟨sameId, place⟩ := current s
  simp only [mtSyncFromKernel, Panel.answer]
  by_cases counted : s.val < h.slotCount
  · rw [if_pos counted]
    exact syncSlot_settled (mirrors s).settle sameId place (one.shown s)
  · rw [if_neg counted]
    -- a slot past the device's number of slots carries no contact
    have absent : ¬(panel.put .syn).Live s := by
      intro live
      have few := one.has s live
      have small : s.val < maxSlots := s.isLt
      unfold slotCount at counted
      split_ifs at counted <;> omega
    exact ⟨fun live => absurd live absent, fun _ => ⟨neg_one_lt_zero, rfl, rfl⟩⟩

/-- The comparison keeps the fresh marks. -/
theorem mtSync_fresh {kernel : MtSlots} {s : Fin maxSlots} (fresh : (h.touch.slots s).fresh = true) :
    ((h.mtSyncFromKernel (some kernel)).touch.slots s).fresh = true := by
  simp only [mtSyncFromKernel]
  split
  · rw [syncSlot_fresh, fresh, Bool.true_or]
  · exact fresh

end Sync

/-! ## The finger -/

section Finger

variable {dev : Dev} {nslots : Nat} {panel : Panel} {h : Hud}

/-- A settled slot has a contact when the events say so. -/
theorem live_iff_of_settled (settled : ∀ s, Settled (h.touch.slots s) (panel.slots s))
    (s : Fin maxSlots) : 0 ≤ (h.touch.slots s).id ↔ panel.Live s := by
  constructor
  · intro there
    by_contra absent
    exact absurd there (not_le.mpr ((settled s).dead (not_le.mp absent)).1)
  · intro live
    rw [((settled s).live live).1]
    exact live

/-- Without a finger no slot has one. -/
theorem liveSlots_of_absent (settled : ∀ s, Settled (h.touch.slots s) (panel.slots s))
    (absent : panel.finger = none) : h.liveSlots = [] := by
  unfold liveSlots
  rw [List.filter_eq_nil_iff]
  intro s _
  have dead := Panel.finger_eq_none absent s
  rw [← live_iff_of_settled settled] at dead
  simp [dead]

/-- With one finger its slot has one, and no other. -/
theorem liveSlots_of_finger (settled : ∀ s, Settled (h.touch.slots s) (panel.slots s))
    (one : panel.OneFinger dev nslots) (count : h.touch.mtNslots = nslots) {s : Fin maxSlots}
    (found : panel.finger = some s) : h.liveSlots = [s] := by
  have live := Panel.live_of_finger found
  have only (t : Fin maxSlots) :
      decide (t.val < h.touch.mtNslots ∧ 0 ≤ (h.touch.slots t).id) = decide (t = s) := by
    rw [decide_eq_decide, live_iff_of_settled settled, count]
    constructor
    · rintro ⟨-, there⟩
      exact one.alone t s there live
    · rintro rfl
      exact ⟨one.has t live, live⟩
  unfold liveSlots
  simp only [only]
  rw [List.filter_eq, List.count_eq_one_of_mem (List.nodup_finRange _) (List.mem_finRange s)]
  rfl

/-- Without a finger none is found. -/
theorem mtFinger_of_absent (settled : ∀ s, Settled (h.touch.slots s) (panel.slots s))
    (absent : panel.finger = none) :
    h.mtFinger dev = ({ h with touch.mtNraw := 0 }, none) := by
  unfold mtFinger
  rw [liveSlots_of_absent settled absent]
  rfl

/-- A single finger with a fresh slot is found. -/
theorem mtFinger_of_finger (settled : ∀ s, Settled (h.touch.slots s) (panel.slots s))
    (one : panel.OneFinger dev nslots) (count : h.touch.mtNslots = nslots) {s : Fin maxSlots}
    (found : panel.finger = some s) (fresh : (h.touch.slots s).fresh = true) :
    h.mtFinger dev = ({ h with touch.mtNraw := 1 }, some s) := by
  have live := Panel.live_of_finger found
  obtain ⟨id, haveX, haveY, x, y⟩ := (settled s).live live
  have finger : isFinger dev (h.touch.slots s) = true := by
    unfold isFinger
    rw [id, haveX, haveY, x, y, fresh]
    obtain ⟨left, right, top, bottom⟩ := one.inside s live
    exact decide_eq_true ⟨live, rfl, rfl, left, right, top, bottom, rfl⟩
  unfold mtFinger
  rw [liveSlots_of_finger settled one count found]
  simp [finger]

/-! What the end of a report comes to, depending on whether a contact is followed and on
whether a finger is there. -/

/-- While no contact is followed, the finger that is found is bound. -/
theorem mtBindPrimary_of_unarmed (unarmed : h.touch.contactArmed = false) :
    h.mtBindPrimary dev = (h.mtFinger dev).1.bindTo (h.mtFinger dev).2 := by
  unfold mtBindPrimary
  cases h.touch.bindSlot with
  | none => rfl
  | some s =>
      simp only
      rw [if_neg (by simp [unarmed])]

/-- A followed contact stays bound as long as its slot shows it. -/
theorem mtBindPrimary_of_armed (armed : h.touch.contactArmed = true) {s : Fin maxSlots}
    (bound : h.touch.bindSlot = some s) (inside : s.val < h.touch.mtNslots) :
    h.mtBindPrimary dev =
      h.bindTo (if (h.touch.slots s).id < 0 ∨ (h.touch.slots s).haveY = false then none else some s) := by
  unfold mtBindPrimary
  rw [bound]
  simp only
  rw [if_pos ⟨armed, inside⟩]

variable {env : EvEnv} {k : Hud}

/-- The end of a report, from the table that has been compared with the kernel's and the slot
that has been bound. -/
theorem handleSyn_eq (synced : h.mtSyncFromKernel env.slots = k) {b : Hud}
    (bound : k.mtBindPrimary dev = b) :
    h.handleSyn dev env =
      if 1 < b.touch.mtNraw ∧ b.touch.contactArmed = false ∧ k.touch.slotId < 0 then b.mtClearFresh
      else if b.touch.slotId < 0 then b.synLift dev k.touch.slotId env
      else if b.touch.contactArmed = false then b.synLand dev env
      else b.synMove dev := by
  subst synced bound
  rfl

/-- The slot of the followed contact has become empty, or does not show it any more. -/
theorem handleSyn_ends (synced : h.mtSyncFromKernel env.slots = k)
    (armed : k.touch.contactArmed = true) {s : Fin maxSlots} (followed : k.touch.bindSlot = some s)
    (inside : s.val < k.touch.mtNslots)
    (gone : (k.touch.slots s).id < 0 ∨ (k.touch.slots s).haveY = false) :
    h.handleSyn dev env = (k.bindTo none).synLift dev k.touch.slotId env := by
  have bound : k.mtBindPrimary dev = k.bindTo none := by
    rw [mtBindPrimary_of_armed armed followed inside, if_pos gone]
  have busy : ¬(k.bindTo none).touch.contactArmed = false := by
    rw [show (k.bindTo none).touch.contactArmed = true from armed]
    decide
  have unbound : (k.bindTo none).touch.slotId < 0 := neg_one_lt_zero
  rw [handleSyn_eq synced bound, if_neg (fun many => busy many.2.1), if_pos unbound]

/-- The followed contact is still there. -/
theorem handleSyn_goes (synced : h.mtSyncFromKernel env.slots = k)
    (armed : k.touch.contactArmed = true) {s : Fin maxSlots} (followed : k.touch.bindSlot = some s)
    (inside : s.val < k.touch.mtNslots) (live : 0 ≤ (k.touch.slots s).id)
    (known : (k.touch.slots s).haveY = true) :
    h.handleSyn dev env = (k.bindTo (some s)).synMove dev := by
  have shown : ¬((k.touch.slots s).id < 0 ∨ (k.touch.slots s).haveY = false) := by
    rintro (gone | hidden)
    · exact absurd live (not_le.mpr gone)
    · rw [known] at hidden
      cases hidden
  have bound : k.mtBindPrimary dev = k.bindTo (some s) := by
    rw [mtBindPrimary_of_armed armed followed inside, if_neg shown]
  have busy : ¬(k.bindTo (some s)).touch.contactArmed = false := by
    rw [show (k.bindTo (some s)).touch.contactArmed = true from armed]
    decide
  have there : ¬(k.bindTo (some s)).touch.slotId < 0 := not_lt.mpr live
  rw [handleSyn_eq synced bound, if_neg (fun many => busy many.2.1), if_neg there, if_neg busy]

section Cases

variable (synced : h.mtSyncFromKernel env.slots = k)
  (settled : ∀ s, Settled (k.touch.slots s) (panel.slots s))

include synced settled

/-- **A report without a finger**, while no contact is followed. -/
theorem handleSyn_idle (unarmed : k.touch.contactArmed = false) (free : k.touch.slotId < 0)
    (absent : panel.finger = none) :
    h.handleSyn dev env = ({ k with touch.mtNraw := 0 }.bindTo none).mtClearFresh := by
  have bound : k.mtBindPrimary dev = { k with touch.mtNraw := 0 }.bindTo none := by
    rw [mtBindPrimary_of_unarmed unarmed, mtFinger_of_absent settled absent]
  have few : ¬1 < ({ k with touch.mtNraw := 0 }.bindTo none).touch.mtNraw := Nat.not_lt_zero 1
  have unbound : ({ k with touch.mtNraw := 0 }.bindTo none).touch.slotId < 0 := neg_one_lt_zero
  rw [handleSyn_eq synced bound, if_neg (fun many => few many.1), if_pos unbound]
  unfold synLift
  rw [if_neg (not_le.mpr free)]

/-- **A finger lands.** -/
theorem handleSyn_land (unarmed : k.touch.contactArmed = false)
    (one : panel.OneFinger dev nslots) (count : k.touch.mtNslots = nslots) {s : Fin maxSlots}
    (found : panel.finger = some s) (fresh : (k.touch.slots s).fresh = true) :
    h.handleSyn dev env = ({ k with touch.mtNraw := 1 }.bindTo (some s)).synLand dev env := by
  have live : 0 ≤ (k.touch.slots s).id :=
    (live_iff_of_settled settled s).mpr (Panel.live_of_finger found)
  have bound : k.mtBindPrimary dev = { k with touch.mtNraw := 1 }.bindTo (some s) := by
    rw [mtBindPrimary_of_unarmed unarmed, mtFinger_of_finger settled one count found fresh]
  have few : ¬1 < ({ k with touch.mtNraw := 1 }.bindTo (some s)).touch.mtNraw := lt_irrefl 1
  have there : ¬({ k with touch.mtNraw := 1 }.bindTo (some s)).touch.slotId < 0 := not_lt.mpr live
  have idle : ({ k with touch.mtNraw := 1 }.bindTo (some s)).touch.contactArmed = false := unarmed
  rw [handleSyn_eq synced bound, if_neg (fun many => few many.1), if_neg there, if_pos idle]

/-- **It lifts.** -/
theorem handleSyn_lift (armed : k.touch.contactArmed = true) {s : Fin maxSlots}
    (followed : k.touch.bindSlot = some s) (inside : s.val < k.touch.mtNslots)
    (absent : panel.finger = none) :
    h.handleSyn dev env = (k.bindTo none).synLift dev k.touch.slotId env := by
  have dead : (k.touch.slots s).id < 0 := by
    have gone := Panel.finger_eq_none absent s
    rw [← live_iff_of_settled settled] at gone
    exact not_le.mp gone
  exact handleSyn_ends synced armed followed inside (.inl dead)

/-- **It goes on.** -/
theorem handleSyn_move (armed : k.touch.contactArmed = true) {s : Fin maxSlots}
    (followed : k.touch.bindSlot = some s) (inside : s.val < k.touch.mtNslots)
    (found : panel.finger = some s) :
    h.handleSyn dev env = (k.bindTo (some s)).synMove dev := by
  have there := Panel.live_of_finger found
  have live : 0 ≤ (k.touch.slots s).id := (live_iff_of_settled settled s).mpr there
  exact handleSyn_goes synced armed followed inside live ((settled s).live there).2.2.1

end Cases

end Finger

end Hud

end Ginkgo
