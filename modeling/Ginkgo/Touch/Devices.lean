import Ginkgo.Calls.Session
import Ginkgo.CText.Buffer
import Ginkgo.Touch.Drain

/-!
# The input devices

`scan_input` of `ginkgo-status.c` goes through `/dev/input` and `open_event` takes the devices that
have a key or a touch panel for the HUD into a table, which only grows. A number below 32 is noted
in `opened_ev` and not opened again; a device with another number is opened at every scan.
-/

namespace Ginkgo.Devices

open CText Calls

/-- `MAX_EV` -/
def maxEv : Nat := 32

/-- `KEY_VOLUMEDOWN` -/
def keyVolumeDown : UInt16 := 114

/-- The limits of an axis. -/
structure AbsInfo where
  minimum : Int
  maximum : Int

/-- The entries of `/dev/input`, opening a file, the bits that are set in `EVIOCGBIT` for the event
types, the keys and the axes, `EVIOCGRAB`, `EVIOCGABS` and closing. -/
inductive DevCall where
  | opendir
  | openFile (path : Text)
  | eventBits (fd : Nat)
  | keyBits (fd : Nat)
  | absBits (fd : Nat)
  | grab (fd : Nat)
  | absInfo (fd : Nat) (axis : UInt16)
  | close (fd : Nat)

/-- A request for bits that fails leaves none of them set. -/
abbrev Reply : DevCall → Type
  | .opendir => Option (List Text)
  | .openFile _ => Option Nat
  | .eventBits _ | .keyBits _ | .absBits _ => List UInt16
  | .grab _ => Bool
  | .absInfo _ _ => Option AbsInfo
  | .close _ => Unit

/-- The calls of a scan and their answers, the last one first. -/
abbrev DevLog := Log DevCall Reply

/-- An entry of `pfds` with `is_touch`, `has_mt` and the limits of its axes. The number is history:
it is the one in the name of the device. -/
structure Entry where
  fd : Nat
  num : Int
  dev : Dev

/-- What the scans keep: `opened_ev`, `pfds` and the number of slots. -/
structure Inputs where
  openedEv : Nat := 0
  pfds : List Entry := []
  mtNslots : Nat := maxSlots

/-- A function that opens devices. -/
abbrev Dv := Session Inputs Unit DevCall Reply

/-- Both axes, when they can be read and have an extent. -/
def axes (fd : Nat) (x y : UInt16) : Dv (Option (AbsInfo × AbsInfo)) := do
  let ax : Option AbsInfo ← Session.request (DevCall.absInfo fd x)
  match ax with
  | none => pure none
  | some ax => do
      let ay : Option AbsInfo ← Session.request (DevCall.absInfo fd y)
      match ay with
      | none => pure none
      | some ay =>
          if ax.minimum < ax.maximum ∧ ay.minimum < ay.maximum then pure (some (ax, ay))
          else pure none

/-- A panel with the limits of its axes. -/
def touchDev (hasMt : Bool) (ax ay : AbsInfo) : Dev where
  isTouch := true
  hasMt := hasMt
  absMinX := ax.minimum
  absMaxX := ax.maximum
  absMinY := ay.minimum
  absMaxY := ay.maximum

/-- A slotted panel tells how many slots it has. -/
def countSlots (fd : Nat) : Dv Unit := do
  let sl : Option AbsInfo ← Session.request (DevCall.absInfo fd absMtSlot)
  match sl with
  | none => pure ()
  | some sl =>
      if 0 ≤ sl.maximum ∧ sl.maximum < maxSlots then
        Session.modify fun inputs => { inputs with mtNslots := sl.maximum.toNat + 1 }
      else pure ()

/-- The axes of a panel without slots, or with slots that have no axes. -/
def plainDev (fd : Nat) (usefulTouch : Bool) : Dv Dev :=
  if usefulTouch then do
    let found ← axes fd absX absY
    match found with
    | none => pure { isTouch := false, hasMt := false }
    | some (ax, ay) => pure (touchDev false ax ay)
  else pure { isTouch := false, hasMt := false }

/-- The device behind an open file: a panel with slots, one without, or keys. -/
def findDev (fd : Nat) (mt usefulTouch : Bool) : Dv Dev :=
  if mt then do
    let found ← axes fd absMtPositionX absMtPositionY
    match found with
    | none => plainDev fd usefulTouch
    | some (ax, ay) => do
        countSlots fd
        pure (touchDev true ax ay)
  else plainDev fd usefulTouch

/-- The end of `open_event`: a new entry of the table. -/
def enter (fd : Nat) (num : Int) (dev : Dev) : Dv Unit :=
  Session.modify fun inputs =>
    { inputs with
      pfds := inputs.pfds ++ [⟨fd, num, dev⟩]
      openedEv := if 0 ≤ num ∧ num < 32 then inputs.openedEv ||| 2 ^ num.toNat else inputs.openedEv }

/-- The bits of the codes of a type, which are asked for when the device has events of it. -/
def bitsOf (evbit : List UInt16) (type : UInt16) (asked : Dv (List UInt16)) : Dv (List UInt16) :=
  if type ∈ evbit then asked else pure []

/-- `open_event` once the file is open. -/
def takeIn (fd : Nat) (num : Int) : Dv Unit := do
  let evbit : List UInt16 ← Session.request (DevCall.eventBits fd)
  let keybit ← bitsOf evbit evKey (Session.request (DevCall.keyBits fd))
  let absbit ← bitsOf evbit evAbs (Session.request (DevCall.absBits fd))
  let usefulKey : Bool := keyPower ∈ keybit ∨ keyVolumeUp ∈ keybit ∨ keyVolumeDown ∈ keybit
  let mt : Bool := absMtPositionX ∈ absbit ∧ absMtPositionY ∈ absbit
  let usefulTouch : Bool := mt ∨ absX ∈ absbit ∧ absY ∈ absbit ∧ btnTouch ∈ keybit
  if usefulKey = false ∧ usefulTouch = false then Session.request (DevCall.close fd)
  else do
    -- a device that cannot be grabbed is read all the same
    let _ : Bool ← Session.request (DevCall.grab fd)
    let dev ← findDev fd mt usefulTouch
    enter fd num dev

/-- `open_event` -/
def openEvent (path : Text) (num : Int) : Dv Unit := do
  let fd : Option Nat ← Session.request (DevCall.openFile path)
  match fd with
  | none => pure ()
  | some fd => takeIn fd num

/-- The loop of `scan_input` over the names in the directory. -/
def scanNames : List Text → Dv Unit
  | [] => pure ()
  | name :: rest => do
      let inputs ← Session.get
      if inputs.pfds.length < maxEv then
        if name.take 5 ≠ txt "event" then scanNames rest
        else
          let num := atoi (name.drop 5)
          if 0 ≤ num ∧ num < 32 ∧ inputs.openedEv.testBit num.toNat = true then scanNames rest
          else do
            openEvent (Buf.print 64 (txt "/dev/input/" ++ name)).text num
            scanNames rest
      else pure ()

/-- `scan_input` -/
def scanInput : Dv Unit := do
  let names : Option (List Text) ← Session.request DevCall.opendir
  match names with
  | none => pure ()
  | some names => scanNames names

/-- The scans of the HUD's life. -/
def scans : Nat → Dv Unit
  | 0 => pure ()
  | n + 1 => do
      scanInput
      scans n

/-! ## What the table has -/

/-- The files that have been opened. -/
def opened : DevLog → List Nat
  | [] => []
  | ⟨.openFile _, some fd⟩ :: earlier => fd :: opened earlier
  | _ :: earlier => opened earlier

/-- The files that have been closed. -/
def closed : DevLog → List Nat
  | [] => []
  | ⟨.close fd, _⟩ :: earlier => fd :: closed earlier
  | _ :: earlier => closed earlier

/-- A touch device has axes with an extent, and only a touch device has slots. -/
structure Usable (dev : Dev) : Prop where
  x : dev.isTouch = true → dev.absMinX < dev.absMaxX
  y : dev.isTouch = true → dev.absMinY < dev.absMaxY
  touch : dev.hasMt = true → dev.isTouch = true

/-- Numbers that `opened_ev` has a bit for. -/
def Noted (num : Int) : Prop := 0 ≤ num ∧ num < 32

instance (num : Int) : Decidable (Noted num) := inferInstanceAs (Decidable (_ ∧ _))

/-- What holds of the table, with `held` for the files that are open besides. -/
structure Sound (held : List Nat) (inputs : Inputs) (log : DevLog) : Prop where
  kept : (opened log).Perm (closed log ++ (held ++ inputs.pfds.map Entry.fd))
  room : inputs.pfds.length ≤ maxEv
  slots : 1 ≤ inputs.mtNslots ∧ inputs.mtNslots ≤ maxSlots
  usable : ∀ entry ∈ inputs.pfds, Usable entry.dev
  noted : ∀ entry ∈ inputs.pfds, Noted entry.num → inputs.openedEv.testBit entry.num.toNat = true
  once : inputs.pfds.Pairwise fun first second => Noted first.num → first.num ≠ second.num

/-- There is room for one more device, and it is not in the table. -/
def Fresh (num : Int) (inputs : Inputs) : Prop :=
  inputs.pfds.length < maxEv ∧ (Noted num → inputs.openedEv.testBit num.toNat = false)

/-- The file is open, and its device is to come into the table. -/
def Holding (fd : Nat) (num : Int) (inputs : Inputs) (log : DevLog) : Prop :=
  Sound [fd] inputs log ∧ Fresh num inputs

section Steps

variable {held : List Nat} {fd : Nat} {num : Int} {inputs : Inputs} {log : DevLog}

/-- A panel is usable when both axes have an extent. -/
theorem touchDev_usable {hasMt : Bool} {ax ay : AbsInfo}
    (extent : ax.minimum < ax.maximum ∧ ay.minimum < ay.maximum) : Usable (touchDev hasMt ax ay) :=
  ⟨fun _ => extent.1, fun _ => extent.2, fun _ => rfl⟩

theorem keys_usable : Usable { isTouch := false, hasMt := false } where
  x touch := absurd touch Bool.false_ne_true
  y touch := absurd touch Bool.false_ne_true
  touch mt := absurd mt Bool.false_ne_true

namespace Sound

/-- A call that neither opens nor closes a file. -/
theorem quiet (sound : Sound held inputs log) {exchange : Exchange DevCall Reply}
    (none : opened (exchange :: log) = opened log ∧ closed (exchange :: log) = closed log) :
    Sound held inputs (exchange :: log) :=
  { sound with kept := by rw [none.1, none.2]; exact sound.kept }

/-- Closing the file that is held leaves none held. -/
theorem close (sound : Sound [fd] inputs log) :
    Sound [] inputs (⟨.close fd, ()⟩ :: log) :=
  { sound with kept := sound.kept.trans List.perm_middle }

/-- A file that is opened is held. -/
theorem openFile (sound : Sound [] inputs log) {path : Text} :
    Sound [fd] inputs (⟨.openFile path, some fd⟩ :: log) :=
  { sound with kept := (sound.kept.cons fd).trans List.perm_middle.symm }

/-- The number of slots stays within the HUD's. -/
theorem counted (sound : Sound held inputs log) {n : Nat} (inside : n < maxSlots) :
    Sound held { inputs with mtNslots := n + 1 } log :=
  { sound with slots := ⟨Nat.le_add_left 1 n, inside⟩ }

/-- The device comes into the table, and its number is noted. -/
theorem enter {dev : Dev} (sound : Sound [fd] inputs log) (fresh : Fresh num inputs)
    (usable : Usable dev) :
    Sound [] { inputs with
      pfds := inputs.pfds ++ [⟨fd, num, dev⟩]
      openedEv := if 0 ≤ num ∧ num < 32 then inputs.openedEv ||| 2 ^ num.toNat
        else inputs.openedEv } log where
  kept := by
    refine sound.kept.trans (.append_left _ ?_)
    rw [List.map_append, List.nil_append]
    exact List.perm_append_comm
  room := by
    rw [List.length_append]
    exact fresh.1
  slots := sound.slots
  usable entry member := by
    rcases List.mem_append.mp member with before | new
    · exact sound.usable entry before
    · rwa [List.mem_singleton.mp new]
  noted entry member known := by
    rcases List.mem_append.mp member with before | new
    · have set := sound.noted entry before known
      split
      · rw [Nat.testBit_or, set, Bool.true_or]
      · exact set
    · obtain rfl := List.mem_singleton.mp new
      have inside : 0 ≤ num ∧ num < 32 := known
      change Nat.testBit (if 0 ≤ num ∧ num < 32 then _ else _) num.toNat = true
      rw [if_pos inside, Nat.testBit_or, Nat.testBit_two_pow_self, Bool.or_true]
  once := by
    refine List.pairwise_append.mpr ⟨sound.once, List.pairwise_singleton _ _, ?_⟩
    rintro first member second new known same
    obtain rfl := List.mem_singleton.mp new
    have same : first.num = num := same
    have set := sound.noted first member known
    rw [same] at set known
    exact Bool.false_ne_true ((fresh.2 known).symm.trans set)

end Sound

end Steps

/-! ## The functions -/

section Rules

variable {fd : Nat} {num : Int} {leave : Unit → Inputs → DevLog → Prop}

/-- Axes that are found have an extent. -/
theorem axes_ensures (x y : UInt16) :
    (axes fd x y).Ensures (Holding fd num)
      (fun found inputs log => Holding fd num inputs log ∧ ∀ pair ∈ found,
        pair.1.minimum < pair.1.maximum ∧ pair.2.minimum < pair.2.maximum) leave := by
  refine .bind (fun _ => Holding fd num) (.request fun _ _ _ holding =>
    ⟨holding.1.quiet ⟨rfl, rfl⟩, holding.2⟩) fun (ax : Option AbsInfo) => ?_
  cases ax with
  | none => exact .pure fun _ _ holding => ⟨holding, by simp⟩
  | some ax =>
      refine .bind (fun _ => Holding fd num) (.request fun _ _ _ holding =>
        ⟨holding.1.quiet ⟨rfl, rfl⟩, holding.2⟩) fun (ay : Option AbsInfo) => ?_
      cases ay with
      | none => exact .pure fun _ _ holding => ⟨holding, by simp⟩
      | some ay =>
          refine .ite (fun extent => .pure fun _ _ holding => ⟨holding, ?_⟩) fun _ =>
            .pure fun _ _ holding => ⟨holding, by simp⟩
          rintro _ ⟨⟩
          exact extent

/-- Counting the slots keeps the file held. -/
theorem countSlots_ensures :
    (countSlots fd).Ensures (Holding fd num) (fun _ => Holding fd num) leave := by
  refine .bind (fun _ => Holding fd num) (.request fun _ _ _ holding =>
    ⟨holding.1.quiet ⟨rfl, rfl⟩, holding.2⟩) fun (sl : Option AbsInfo) => ?_
  cases sl with
  | none => exact .pure fun _ _ => id
  | some sl =>
      refine .ite (fun inside => .modify fun _ _ holding => ⟨holding.1.counted ?_, holding.2⟩)
        fun _ => .pure fun _ _ => id
      omega

/-- A panel without slots is usable. -/
theorem plainDev_ensures (usefulTouch : Bool) :
    (plainDev fd usefulTouch).Ensures (Holding fd num)
      (fun dev inputs log => Holding fd num inputs log ∧ Usable dev) leave := by
  refine .ite (fun _ => .bind _ (axes_ensures absX absY) fun found => ?_) fun _ =>
    .pure fun _ _ holding => ⟨holding, keys_usable⟩
  cases found with
  | none => exact .pure fun _ _ found => ⟨found.1, keys_usable⟩
  | some pair => exact .pure fun _ _ found => ⟨found.1, touchDev_usable (found.2 pair rfl)⟩

/-- Whatever the device is, it is usable. -/
theorem findDev_ensures (mt usefulTouch : Bool) :
    (findDev fd mt usefulTouch).Ensures (Holding fd num)
      (fun dev inputs log => Holding fd num inputs log ∧ Usable dev) leave := by
  refine .ite (fun _ => .bind _ (axes_ensures absMtPositionX absMtPositionY) fun found => ?_)
    fun _ => plainDev_ensures usefulTouch
  cases found with
  | none => exact (plainDev_ensures usefulTouch).before fun _ _ found => found.1
  | some pair =>
      refine .assume (fun _ _ found => found.2 pair rfl) fun extent => ?_
      refine .bind _ (countSlots_ensures.before fun _ _ found => found.1) fun _ => ?_
      exact .pure fun _ _ holding => ⟨holding, touchDev_usable extent⟩

/-- Asking for the codes of a type keeps the file held. -/
theorem bitsOf_ensures {evbit : List UInt16} {type : UInt16} {asked : Dv (List UInt16)}
    (ensures : asked.Ensures (Holding fd num) (fun _ => Holding fd num) leave) :
    (bitsOf evbit type asked).Ensures (Holding fd num) (fun _ => Holding fd num) leave :=
  .ite (fun _ => ensures) fun _ => .pure fun _ _ => id

/-- **A device that is taken in** keeps the table sound, and so does one that is let go. -/
theorem takeIn_ensures :
    (takeIn fd num).Ensures (Holding fd num) (fun _ => Sound []) leave := by
  refine .bind (fun _ => Holding fd num) (.request fun _ _ _ holding =>
    ⟨holding.1.quiet ⟨rfl, rfl⟩, holding.2⟩) fun (evbit : List UInt16) => ?_
  refine .bind _ (bitsOf_ensures (.request fun _ _ _ holding =>
    ⟨holding.1.quiet ⟨rfl, rfl⟩, holding.2⟩)) fun keybit => ?_
  refine .bind _ (bitsOf_ensures (.request fun _ _ _ holding =>
    ⟨holding.1.quiet ⟨rfl, rfl⟩, holding.2⟩)) fun absbit => ?_
  refine Session.Ensures.ite (fun _ => .request fun _ _ _ holding => holding.1.close) fun _ => ?_
  refine .bind (fun _ => Holding fd num) (.request fun _ _ _ holding =>
    ⟨holding.1.quiet ⟨rfl, rfl⟩, holding.2⟩) fun _ => ?_
  refine .bind _ (findDev_ensures _ _) fun dev => ?_
  exact .modify fun _ _ found => found.1.1.enter found.1.2 found.2

theorem openEvent_ensures (path : Text) :
    (openEvent path num).Ensures (fun inputs log => Sound [] inputs log ∧ Fresh num inputs)
      (fun _ => Sound []) leave := by
  refine .bind (fun (fd : Option Nat) inputs log => match fd with
    | none => Sound [] inputs log
    | some fd => Holding fd num inputs log) (.request fun fd _ _ ready => ?_) fun fd => ?_
  · cases fd with
    | none => exact ready.1.quiet ⟨rfl, rfl⟩
    | some fd => exact ⟨ready.1.openFile, ready.2⟩
  · cases fd with
    | none => exact .pure fun _ _ => id
    | some fd => exact takeIn_ensures

/-- The loop over the directory does. -/
theorem scanNames_ensures (names : List Text) :
    (scanNames names).Ensures (Sound []) (fun _ => Sound []) leave := by
  induction names with
  | nil => exact .pure fun _ _ => id
  | cons name rest ih =>
      refine .bind (fun got inputs log => got = inputs ∧ Sound [] inputs log)
        (.get fun _ _ sound => ⟨rfl, sound⟩) fun got => ?_
      refine .ite (fun room => .ite (fun _ => ih.before fun _ _ known => known.2) fun _ =>
        .ite (fun _ => ih.before fun _ _ known => known.2) fun unknown => ?_) fun _ =>
          .pure fun _ _ known => known.2
      refine .bind _ ((openEvent_ensures _).before ?_) fun _ => ih
      rintro inputs log ⟨rfl, sound⟩
      refine ⟨sound, room, fun noted => ?_⟩
      rw [← Bool.not_eq_true]
      exact fun set => unknown ⟨noted.1, noted.2, set⟩

/-- A scan does. -/
theorem scanInput_ensures : scanInput.Ensures (Sound []) (fun _ => Sound []) leave := by
  refine .bind (fun _ => Sound []) (.request fun _ _ _ sound => sound.quiet ⟨rfl, rfl⟩)
    fun (names : Option (List Text)) => ?_
  cases names with
  | none => exact .pure fun _ _ => id
  | some names => exact scanNames_ensures names

/-- Any number of scans does. -/
theorem scans_ensures (n : Nat) : (scans n).Ensures (Sound []) (fun _ => Sound []) leave := by
  induction n with
  | zero => exact .pure fun _ _ => id
  | succ n ih => exact .bind _ scanInput_ensures fun _ => ih

end Rules

/-- The table is sound at the start. -/
theorem sound_start : Sound [] {} [] where
  kept := .refl _
  room := Nat.zero_le _
  slots := ⟨Nat.le_of_ble_eq_true rfl, Nat.le_refl _⟩
  usable _ member := absurd member List.not_mem_nil
  noted _ member := absurd member List.not_mem_nil
  once := .nil

/-- **The table stays sound.** After any number of scans, whatever `/dev/input` has in it and
whatever the devices answer, the files that were opened are those that were closed and those in the
table; the table has its room, its touch devices have axes with an extent, and no number below 32
is in it twice. -/
theorem scans_sound {n : Nat} {outcome : Except Unit Unit × Inputs} {log : DevLog}
    (runs : (scans n {}).Runs [] outcome log) : Sound [] outcome.2 log := by
  have ends := Program.wp_iff_runs.mp (@scans_ensures (fun _ => Sound []) n {} [] sound_start) _ _ runs
  obtain ⟨result, inputs⟩ := outcome
  cases result with
  | ok value => exact ends
  | error left => exact ends

/-- A phone with its keys, a vibrator and a panel with ten slots. -/
def phoneDevices : Unit → (call : DevCall) → Reply call × Unit
  | (), .opendir => (some [txt "event0", txt "mice", txt "event1", txt "event2"], ())
  | (), .openFile path => (some (path.getLast?.getD 0).toNat, ())
  | (), .eventBits fd => (if fd = 49 then [21] else [evKey, evAbs], ())
  | (), .keyBits fd => (if fd = 48 then [keyPower] else [btnTouch], ())
  | (), .absBits fd => (if fd = 50 then [absMtPositionX, absMtPositionY] else [], ())
  | (), .grab _ => (true, ())
  | (), .absInfo _ axis => (some ⟨0, if axis = absMtSlot then 9 else 2339⟩, ())
  | (), .close _ => ((), ())

/-- Three scans of the phone. -/
theorem scans_sound_phone :
    Sound [] ((scans 3 {}).eval phoneDevices () []).1.2 ((scans 3 {}).eval phoneDevices () []).2.1 :=
  scans_sound (Program.runs_eval phoneDevices (scans 3 {}) () [])

end Ginkgo.Devices
