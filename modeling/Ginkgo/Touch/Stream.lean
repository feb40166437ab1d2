import Ginkgo.Transition.Run
import Ginkgo.Hud.Touch

/-!
# The stream of a touch device

A touch device with slots reports changes of a slot table, a few events at a time and an
`EV_SYN` at the end of each report. `Ginkgo.Panel` is the table that the events so far
describe, which is also what `EVIOCGMTSLOTS` answers once they have arrived.
`Ginkgo.Track` follows the contact of one finger through the reports and `Ginkgo.Watch`
adds when its landing and its lift were handled. `Ginkgo.Regular` says what a stream of
one finger at a time looks like.

Nothing here is read off the HUD: it is what the taps of the HUD are compared with.
-/

namespace Ginkgo

/-! ## The slot table -/

/-- A slot as its events describe it. `sentX` and `sentY` say which coordinates have been
sent for its contact; a coordinate that the slot had before is not sent again. -/
structure PanelSlot where
  id : Int := -1
  x : Int := 0
  y : Int := 0
  major : Int := 0
  z : Int := 0
  sentX : Bool := false
  sentY : Bool := false
  deriving DecidableEq

namespace PanelSlot

/-- What a slot makes of an axis event. -/
def put (code : AbsCode) (value : Int) (slot : PanelSlot) : PanelSlot :=
  match code with
  | .mtTrackingId =>
      if value < 0 then { slot with id := value, sentX := false, sentY := false }
      else { slot with id := value }
  | .mtPositionX => { slot with x := value, sentX := true }
  | .mtPositionY => { slot with y := value, sentY := true }
  | .mtTouchMajor => { slot with major := value }
  | .mtPressure => { slot with z := value }
  | _ => slot

/-- At the end of a report, coordinates of a slot without a contact are forgotten. -/
def settle (slot : PanelSlot) : PanelSlot :=
  if slot.id < 0 then { slot with sentX := false, sentY := false } else slot

@[simp] theorem settle_id (slot : PanelSlot) : slot.settle.id = slot.id := by
  unfold settle
  split <;> rfl

@[simp] theorem settle_x (slot : PanelSlot) : slot.settle.x = slot.x := by
  unfold settle
  split <;> rfl

@[simp] theorem settle_y (slot : PanelSlot) : slot.settle.y = slot.y := by
  unfold settle
  split <;> rfl

/-- A coordinate that is still known after a report has been sent. -/
theorem sentX_of_settle {slot : PanelSlot} (sent : slot.settle.sentX = true) :
    slot.sentX = true := by
  unfold settle at sent
  split at sent
  · cases sent
  · exact sent

theorem sentY_of_settle {slot : PanelSlot} (sent : slot.settle.sentY = true) :
    slot.sentY = true := by
  unfold settle at sent
  split at sent
  · cases sent
  · exact sent

end PanelSlot

/-- The slots as the events of the device describe them, and the current one. -/
structure Panel where
  cur : Fin maxSlots := 0
  slots : Fin maxSlots → PanelSlot := fun _ => {}

namespace Panel

/-- What they make of an event. -/
def put (panel : Panel) : Ev → Panel
  | .syn => { panel with slots := fun s => (panel.slots s).settle }
  | .abs .mtSlot value =>
      if inside : 0 ≤ value ∧ value < maxSlots then
        { panel with cur := ⟨value.toNat, toNat_lt_maxSlots inside⟩ }
      else panel
  | .abs code value =>
      { panel with
        slots := Function.update panel.slots panel.cur ((panel.slots panel.cur).put code value) }
  | _ => panel

/-- What `EVIOCGMTSLOTS` answers. -/
def answer (panel : Panel) : MtSlots where
  id s := (panel.slots s).id
  x s := (panel.slots s).x
  y s := (panel.slots s).y
  major s := (panel.slots s).major
  z s := (panel.slots s).z

/-- The slot has a contact. -/
def Live (panel : Panel) (s : Fin maxSlots) : Prop := 0 ≤ (panel.slots s).id

instance (panel : Panel) (s : Fin maxSlots) : Decidable (panel.Live s) :=
  inferInstanceAs (Decidable (0 ≤ _))

/-- The slot of the finger. -/
def finger (panel : Panel) : Option (Fin maxSlots) :=
  (List.finRange maxSlots).find? fun s => panel.Live s

/-- Without a finger no slot has a contact. -/
theorem finger_eq_none {panel : Panel} (absent : panel.finger = none) (s : Fin maxSlots) :
    ¬panel.Live s := by
  have missing := List.find?_eq_none.mp absent s (List.mem_finRange s)
  simpa using missing

/-- The slot of the finger has one. -/
theorem live_of_finger {panel : Panel} {s : Fin maxSlots} (found : panel.finger = some s) :
    panel.Live s := by
  simpa using List.find?_some found

/-- After a report without a finger no coordinate counts as sent. -/
theorem unsent_of_absent {panel : Panel} (absent : (panel.put .syn).finger = none)
    (s : Fin maxSlots) : ¬(((panel.put .syn).slots s).sentX = true ∨
      ((panel.put .syn).slots s).sentY = true) := by
  have dead : (panel.slots s).id < 0 := by
    have gone := finger_eq_none absent s
    simp only [Live, put, PanelSlot.settle_id] at gone
    exact not_le.mp gone
  simp [put, PanelSlot.settle, dead]

/-- **A report of one finger at most**, in a slot that the device has, at a place inside the
axis ranges whose coordinates have been sent or are not zero. -/
structure OneFinger (dev : Dev) (nslots : Nat) (panel : Panel) : Prop where
  alone : ∀ s t, panel.Live s → panel.Live t → s = t
  has : ∀ s, panel.Live s → s.val < nslots
  inside : ∀ s, panel.Live s → dev.absMinX ≤ (panel.slots s).x ∧ (panel.slots s).x ≤ dev.absMaxX ∧
    dev.absMinY ≤ (panel.slots s).y ∧ (panel.slots s).y ≤ dev.absMaxY
  shown : ∀ s, panel.Live s → ((panel.slots s).sentX = true ∨ (panel.slots s).x ≠ 0) ∧
    ((panel.slots s).sentY = true ∨ (panel.slots s).y ≠ 0)

instance (dev : Dev) (nslots : Nat) (panel : Panel) : Decidable (panel.OneFinger dev nslots) :=
  decidable_of_iff
    ((∀ s t, panel.Live s → panel.Live t → s = t) ∧ (∀ s, panel.Live s → s.val < nslots) ∧
      (∀ s, panel.Live s → dev.absMinX ≤ (panel.slots s).x ∧ (panel.slots s).x ≤ dev.absMaxX ∧
        dev.absMinY ≤ (panel.slots s).y ∧ (panel.slots s).y ≤ dev.absMaxY) ∧
      ∀ s, panel.Live s → ((panel.slots s).sentX = true ∨ (panel.slots s).x ≠ 0) ∧
        ((panel.slots s).sentY = true ∨ (panel.slots s).y ≠ 0))
    ⟨fun ⟨alone, has, inside, shown⟩ => ⟨alone, has, inside, shown⟩,
      fun one => ⟨one.alone, one.has, one.inside, one.shown⟩⟩

end Panel

/-! ## Contacts -/

/-- The vertical axis range. -/
def Dev.rangeY (dev : Dev) : Int :=
  if dev.absMaxY - dev.absMinY < 1 then 1 else dev.absMaxY - dev.absMinY

/-- The larger axis range. -/
def Dev.range (dev : Dev) : Int :=
  let range := dev.absMaxX - dev.absMinX
  let range := if range < dev.absMaxY - dev.absMinY then dev.absMaxY - dev.absMinY else range
  if range < 1 then 1 else range

/-- A raw position on a picture of a given size. -/
def Dev.place (dev : Dev) (W H rawx rawy : Int) : Int × Int :=
  ({ ui := { W, H } } : Hud).mapXy dev rawx rawy

/-- Where a contact started and where it is. A vertical jump of more than a quarter of the
axis range counts as a new start. -/
structure Trail where
  baseX : Int
  baseY : Int
  x : Int
  y : Int
  deriving DecidableEq

namespace Trail

/-- A contact that has just landed. -/
def land (x y : Int) : Trail := ⟨x, y, x, y⟩

/-- A contact that moves; a jump is a new start. -/
def move (dev : Dev) (x y : Int) (trail : Trail) : Trail :=
  if dev.rangeY.tdiv 4 < ((y - trail.baseY).natAbs : Int) then land x y else { trail with x, y }

/-- The contact has stayed within an eighth of the larger axis range of its start. -/
def near (dev : Dev) (trail : Trail) : Bool :=
  ((trail.x - trail.baseX).natAbs : Int) + ((trail.y - trail.baseY).natAbs : Int) <
    dev.range.tdiv 8

/-- No vertical jump is left in the trail. -/
def Steady (dev : Dev) (trail : Trail) : Prop :=
  ((trail.y - trail.baseY).natAbs : Int) ≤ dev.rangeY.tdiv 4

/-- One that has just landed is steady. -/
theorem land_steady (dev : Dev) (x y : Int) : (land x y).Steady dev := by
  have wide : 0 ≤ dev.rangeY := by
    unfold Dev.rangeY
    split <;> omega
  unfold Steady land
  rw [Int.sub_self]
  exact Int.tdiv_nonneg wide (by decide)

/-- One that moves stays so. -/
theorem move_steady (dev : Dev) (x y : Int) (trail : Trail) : (trail.move dev x y).Steady dev := by
  unfold move
  split
  · exact land_steady dev x y
  · next short => exact not_lt.mp short

/-- Where a contact starts after it has moved. -/
theorem move_base (dev : Dev) (x y : Int) (trail : Trail) :
    ((trail.move dev x y).baseX, (trail.move dev x y).baseY) =
      if dev.rangeY.tdiv 4 < ((y - trail.baseY).natAbs : Int) then (x, y)
      else (trail.baseX, trail.baseY) := by
  unfold move
  split <;> rfl

/-- A contact that has not moved is near its start, unless the axis ranges are tiny. -/
theorem land_near {dev : Dev} (wide : 8 ≤ dev.range) (x y : Int) : (land x y).near dev = true := by
  have room : 1 ≤ dev.range.tdiv 8 := by
    rw [Int.tdiv_eq_ediv_of_nonneg (by omega)]
    omega
  unfold near land
  simp only [Int.sub_self, Int.natAbs_zero, Nat.cast_zero, Int.add_zero]
  exact decide_eq_true (by omega)

@[simp] theorem move_x (dev : Dev) (x y : Int) (trail : Trail) : (trail.move dev x y).x = x := by
  unfold move
  split <;> rfl

@[simp] theorem move_y (dev : Dev) (x y : Int) (trail : Trail) : (trail.move dev x y).y = y := by
  unfold move
  split <;> rfl

end Trail

/-- A contact that goes on. -/
structure Contact where
  slot : Fin maxSlots
  id : Int
  trail : Trail
  deriving DecidableEq

/-- The slot table and the contact of the finger. -/
structure Track where
  panel : Panel := {}
  contact : Option Contact := none

namespace Track

/-- The contact after a report. -/
def report (dev : Dev) (panel : Panel) (contact : Option Contact) : Option Contact :=
  panel.finger.map fun s =>
    { slot := s
      id := (panel.slots s).id
      trail := match contact with
        | none => .land (panel.slots s).x (panel.slots s).y
        | some c => c.trail.move dev (panel.slots s).x (panel.slots s).y }

/-- The slots and the contact after an event. -/
def put (dev : Dev) (track : Track) (ev : Ev) : Track where
  panel := track.panel.put ev
  contact := if ev = .syn then report dev (track.panel.put ev) track.contact else track.contact

end Track

/-- A finger that lands sends a coordinate, and one that stays keeps its slot and its
tracking id. -/
def Panel.Continues (panel : Panel) (s : Fin maxSlots) : Option Contact → Prop
  | none => (panel.slots s).sentX = true ∨ (panel.slots s).sentY = true
  | some c => s = c.slot ∧ (panel.slots s).id = c.id

instance (panel : Panel) (s : Fin maxSlots) :
    (contact : Option Contact) → Decidable (panel.Continues s contact)
  | none => inferInstanceAs (Decidable (_ ∨ _))
  | some _ => inferInstanceAs (Decidable (_ ∧ _))

/-- **What a stream of one finger at a time looks like**, event by event: a report shows one
finger at most, which has just landed or goes on with the contact. -/
def Regular (dev : Dev) (nslots : Nat) (track : Track) : Ev → Prop
  | .syn => (track.panel.put .syn).OneFinger dev nslots ∧
      ∀ s, (track.panel.put .syn).Live s → (track.panel.put .syn).Continues s track.contact
  | .key .power value => value ≠ 1
  | .abs .mtSlot value => 0 ≤ value ∧ value < maxSlots
  | _ => True

instance (dev : Dev) (nslots : Nat) (track : Track) :
    (ev : Ev) → Decidable (Regular dev nslots track ev)
  | .syn => inferInstanceAs (Decidable (_ ∧ _))
  | .key .power value => inferInstanceAs (Decidable (value ≠ 1))
  | .key .btnTouch _ | .key .btnLeft _ | .key .other _ => .isTrue trivial
  | .abs .mtSlot value => inferInstanceAs (Decidable (0 ≤ value ∧ value < maxSlots))
  | .abs .x _ | .abs .y _ | .abs .mtTrackingId _ | .abs .mtPositionX _ | .abs .mtPositionY _
  | .abs .mtTouchMajor _ | .abs .mtPressure _ | .abs .other _ => .isTrue trivial
  | .other => .isTrue trivial

/-- A contact that has ended: its trail, when its landing and its lift were handled, and
whether the keyboard or a drag had taken it. -/
structure Lifted where
  trail : Trail
  down : Nat
  up : Nat
  taken : Bool
  deriving DecidableEq

/-- The contact was neither too short nor too long. -/
def Lifted.inTime (lifted : Lifted) : Bool :=
  8000000 ≤ lifted.up - lifted.down ∧ lifted.up - lifted.down ≤ 2000000000

/-- The contact was a tap. -/
def Lifted.isTap (dev : Dev) (lifted : Lifted) : Bool :=
  lifted.inTime ∧ lifted.taken = false ∧ lifted.trail.near dev

/-- What is known of a stream: the contact that goes on, when it landed, and those that have
ended. -/
structure Watch where
  track : Track := {}
  down : Nat := 0
  lifted : List Lifted := []

namespace Watch

/-- Note an event that is handled at a time; `taken` says whether the contact was taken
before. -/
def put (dev : Dev) (watch : Watch) (ev : Ev) (now : Nat) (taken : Bool) : Watch :=
  let track := watch.track.put dev ev
  { track
    down := if watch.track.contact = none ∧ track.contact ≠ none then now else watch.down
    lifted := match watch.track.contact, track.contact with
      | some c, none => watch.lifted ++ [⟨c.trail, watch.down, now, taken⟩]
      | _, _ => watch.lifted }

/-- The taps of the contacts that have ended. -/
def taps (dev : Dev) (W H : Int) (watch : Watch) : List (Int × Int) :=
  (watch.lifted.filter fun lifted => lifted.isTap dev).map fun lifted =>
    dev.place W H lifted.trail.x lifted.trail.y

/-- Where the contacts that have ended started and ended. -/
def trails (watch : Watch) : List Trail := watch.lifted.map Lifted.trail

/-- Whether each of them was in time and had not been taken. -/
def verdicts (watch : Watch) : List Bool :=
  watch.lifted.map fun lifted => lifted.inTime && !lifted.taken

/-- The taps are those of the trails with a favourable verdict. -/
theorem taps_eq_zip (dev : Dev) (W H : Int) (watch : Watch) :
    watch.taps dev W H =
      ((watch.trails.zip watch.verdicts).filter fun (trail, verdict) =>
        verdict && trail.near dev).map fun (trail, _) => dev.place W H trail.x trail.y := by
  unfold taps trails verdicts
  rw [List.zip_map', List.filter_map, List.map_map]
  have same : ((fun (trail, verdict) => verdict && trail.near dev) ∘ fun lifted : Lifted =>
      (lifted.trail, lifted.inTime && !lifted.taken)) = fun lifted => lifted.isTap dev := by
    funext lifted
    simp [Lifted.isTap, Bool.and_assoc]
  rw [same]
  rfl

/-- The slot table and the contact, and with them the trails, depend on the events only. -/
theorem put_congr {dev : Dev} {watch watch' : Watch} (track : watch.track = watch'.track)
    (trails : watch.trails = watch'.trails) (ev : Ev) (now now' : Nat) (taken taken' : Bool) :
    (watch.put dev ev now taken).track = (watch'.put dev ev now' taken').track ∧
      (watch.put dev ev now taken).trails = (watch'.put dev ev now' taken').trails := by
  unfold put
  simp only [track, true_and]
  unfold Watch.trails at trails ⊢
  simp only
  split
  · simp [trails]
  · exact trails

/-- Between the ends of reports only the slot table changes. -/
theorem put_of_ne_syn {dev : Dev} {watch : Watch} {ev : Ev} {now : Nat} {taken : Bool}
    (other : ev ≠ .syn) : watch.put dev ev now taken =
      { watch with track := { watch.track with panel := watch.track.panel.put ev } } := by
  obtain ⟨⟨panel, contact⟩, down, lifted⟩ := watch
  unfold put Track.put
  cases contact <;> simp [other]

section Report

variable {dev : Dev} {watch : Watch} {now : Nat} {taken : Bool}

/-! The end of a report, depending on whether there was a contact and on whether there is a
finger now. -/

/-- A report without a finger, before and after. -/
theorem put_idle (before : watch.track.contact = none)
    (absent : (watch.track.panel.put .syn).finger = none) :
    watch.put dev .syn now taken =
      { watch with track := ⟨watch.track.panel.put .syn, none⟩ } := by
  simp [put, Track.put, Track.report, before, absent]

/-- A finger lands. -/
theorem put_land (before : watch.track.contact = none) {s : Fin maxSlots}
    (found : (watch.track.panel.put .syn).finger = some s) :
    watch.put dev .syn now taken =
      let slot := (watch.track.panel.put .syn).slots s
      { watch with
        track := ⟨watch.track.panel.put .syn, some ⟨s, slot.id, .land slot.x slot.y⟩⟩
        down := now } := by
  simp [put, Track.put, Track.report, before, found]

/-- It lifts. -/
theorem put_lift {c : Contact} (before : watch.track.contact = some c)
    (absent : (watch.track.panel.put .syn).finger = none) :
    watch.put dev .syn now taken =
      { watch with
        track := ⟨watch.track.panel.put .syn, none⟩
        lifted := watch.lifted ++ [⟨c.trail, watch.down, now, taken⟩] } := by
  simp [put, Track.put, Track.report, before, absent]

/-- It goes on. -/
theorem put_move {c : Contact} (before : watch.track.contact = some c) {s : Fin maxSlots}
    (found : (watch.track.panel.put .syn).finger = some s) :
    watch.put dev .syn now taken =
      let slot := (watch.track.panel.put .syn).slots s
      { watch with
        track := ⟨watch.track.panel.put .syn,
          some ⟨s, slot.id, c.trail.move dev slot.x slot.y⟩⟩ } := by
  simp [put, Track.put, Track.report, before, found]

end Report

/-- A contact that ends adds its tap. -/
theorem taps_append (dev : Dev) (W H : Int) (track : Track) (down : Nat) (ended : List Lifted)
    (last : Lifted) : taps dev W H ⟨track, down, ended ++ [last]⟩ =
      taps dev W H ⟨track, down, ended⟩ ++
        if last.isTap dev then [dev.place W H last.trail.x last.trail.y] else [] := by
  unfold taps
  simp only [List.filter_append, List.map_append, List.filter_cons, List.filter_nil]
  split <;> rfl

end Watch

end Ginkgo
