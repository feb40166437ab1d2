import Ginkgo.Hud.Touch

/-!
# Draining the input devices

`drain_inputs` of `ginkgo-status.c` reads an input device until a read is short, and cuts what it
has read into records. It takes records of 24 bytes for granted when the length of a read allows
that, and of 32 bytes otherwise. Of a touch device it hands over the records of `ev_keep` only.
-/

namespace Ginkgo

/-! ## Records -/

/-- What `drain_inputs` reads of a record. -/
structure RawEvent where
  type : UInt16
  code : UInt16
  value : Int32
  deriving DecidableEq

/-- `EV_SYN` -/
def evSyn : UInt16 := 0

/-- `EV_KEY` -/
def evKey : UInt16 := 1

/-- `EV_ABS` -/
def evAbs : UInt16 := 3

/-- `KEY_VOLUMEUP` -/
def keyVolumeUp : UInt16 := 115

/-- `KEY_POWER` -/
def keyPower : UInt16 := 116

/-- `BTN_LEFT` -/
def btnLeft : UInt16 := 0x110

/-- `BTN_TOUCH` -/
def btnTouch : UInt16 := 0x14a

/-- `ABS_X` -/
def absX : UInt16 := 0

/-- `ABS_Y` -/
def absY : UInt16 := 1

/-- `ABS_MT_SLOT` -/
def absMtSlot : UInt16 := 0x2f

/-- `ABS_MT_TOUCH_MAJOR` -/
def absMtTouchMajor : UInt16 := 0x30

/-- `ABS_MT_POSITION_X` -/
def absMtPositionX : UInt16 := 0x35

/-- `ABS_MT_POSITION_Y` -/
def absMtPositionY : UInt16 := 0x36

/-- `ABS_MT_TRACKING_ID` -/
def absMtTrackingId : UInt16 := 0x39

/-- `ABS_MT_PRESSURE` -/
def absMtPressure : UInt16 := 0x3a

/-- The number that some bytes spell, the lowest one first. -/
def spelt : List UInt8 → Nat
  | [] => 0
  | b :: rest => b.toNat + 256 * spelt rest

/-- The record at the start of some bytes, with the value at its place. -/
def recordAt (place : Nat) (bytes : List UInt8) : RawEvent where
  type := UInt16.ofNat (spelt ((bytes.drop 16).take 2))
  code := UInt16.ofNat (spelt ((bytes.drop 18).take 2))
  value := (UInt32.ofNat (spelt ((bytes.drop place).take 4))).toInt32

/-- The records of a read, each of them of some size. -/
def recordsOf (size place : Nat) (buf : List UInt8) : List RawEvent :=
  (List.range (buf.length / size)).map fun i => recordAt place (buf.drop (i * size))

/-- The records of a read, unless it is the last one. -/
def recordsIn (buf : List UInt8) : Option (List RawEvent) :=
  if buf.length < 24 then none
  else if buf.length % 24 = 0 then some (recordsOf 24 20 buf)
  else if buf.length % 32 = 0 then some (recordsOf 32 24 buf)
  else none

/-- `ev_keep` -/
def evKeep (isTouch : Bool) (e : RawEvent) : Bool :=
  if isTouch = false then true
  else if e.type = evSyn ∨ e.type = evKey then true
  else if e.type ≠ evAbs then false
  else e.code ∈ [absMtSlot, absMtTrackingId, absMtPositionX, absMtPositionY, absMtTouchMajor,
    absMtPressure, absX, absY]

/-- What `drain_inputs` hands over, from what the reads of a device give. -/
def drained (isTouch : Bool) : List (List UInt8) → List RawEvent
  | [] => []
  | buf :: reads =>
      match recordsIn buf with
      | none => []
      | some records => records.filter (evKeep isTouch) ++ drained isTouch reads

/-! ## What the kernel sends -/

/-- The bytes of a number, the lowest one first. -/
def bytesOf : Nat → Nat → List UInt8
  | 0, _ => []
  | count + 1, n => UInt8.ofNat n :: bytesOf count (n / 256)

/-- An event with the time at which it has happened. -/
structure Stamped where
  event : RawEvent
  time : List UInt8
  long : time.length = 16

namespace Stamped

/-- The record of an event up to its value. -/
def front (s : Stamped) : List UInt8 :=
  s.time ++ bytesOf 2 s.event.type.toNat ++ bytesOf 2 s.event.code.toNat

/-- `struct input_event` with fields next to each other. -/
def packed (s : Stamped) : List UInt8 := s.front ++ bytesOf 4 s.event.value.toUInt32.toNat

/-- A record with the value in eight bytes. -/
def wide (s : Stamped) : List UInt8 :=
  s.front ++ List.replicate 4 0 ++ bytesOf 4 s.event.value.toUInt32.toNat ++ List.replicate 4 0

end Stamped

/-- A number is written in as many bytes as asked for. -/
theorem bytesOf_length (count n : Nat) : (bytesOf count n).length = count := by
  induction count generalizing n with
  | zero => rfl
  | succ count ih => exact congrArg (· + 1) (ih _)

/-- What is read back of a number is what its bytes have room for. -/
theorem spelt_bytesOf (count n : Nat) : spelt (bytesOf count n) = n % 256 ^ count := by
  induction count generalizing n with
  | zero => rw [Nat.pow_zero, Nat.mod_one]; rfl
  | succ count ih =>
      have low : (UInt8.ofNat n).toNat = n % 256 := UInt8.toNat_ofNat'
      rw [bytesOf, spelt, ih, low, Nat.pow_succ', Nat.mod_mul]

namespace Stamped

variable (s : Stamped)

/-- The value of a record stands twenty bytes in, when the fields lie next to each other. -/
theorem front_length : s.front.length = 20 := by
  simp only [front, List.length_append, bytesOf_length, s.long]

/-- Such a record has 24 bytes. -/
theorem packed_length : s.packed.length = 24 := by
  simp only [packed, List.length_append, bytesOf_length, s.front_length]

/-- A wide one has 32. -/
theorem wide_length : s.wide.length = 32 := by
  simp only [wide, List.length_append, bytesOf_length, s.front_length, List.length_replicate]

/-- A record is read back when its value stands where it is looked for. -/
theorem recordAt_front {place : Nat} {between rest : List UInt8}
    (there : place = 20 + between.length) :
    recordAt place (s.front ++ (between ++ (bytesOf 4 s.event.value.toUInt32.toNat ++ rest))) =
      s.event := by
  have type : ((s.front ++ (between ++ (bytesOf 4 s.event.value.toUInt32.toNat ++ rest))).drop
      16).take 2 = bytesOf 2 s.event.type.toNat := by
    rw [front, List.append_assoc, List.append_assoc, List.drop_left' s.long,
      List.take_left' (bytesOf_length ..)]
  have code : ((s.front ++ (between ++ (bytesOf 4 s.event.value.toUInt32.toNat ++ rest))).drop
      18).take 2 = bytesOf 2 s.event.code.toNat := by
    rw [front, List.append_assoc, List.drop_left' (by
      simp only [List.length_append, bytesOf_length, s.long]), List.take_left' (bytesOf_length ..)]
  have value : ((s.front ++ (between ++ (bytesOf 4 s.event.value.toUInt32.toNat ++ rest))).drop
      place).take 4 = bytesOf 4 s.event.value.toUInt32.toNat := by
    rw [← List.append_assoc, List.drop_left' (by rw [List.length_append, front_length, there]),
      List.take_left' (bytesOf_length ..)]
  rw [recordAt, type, code, value, spelt_bytesOf, spelt_bytesOf, spelt_bytesOf]
  have small : s.event.type.toNat < 256 ^ 2 := s.event.type.toNat_lt
  have small' : s.event.code.toNat < 256 ^ 2 := s.event.code.toNat_lt
  have small'' : s.event.value.toUInt32.toNat < 256 ^ 4 := s.event.value.toUInt32.toNat_lt
  rw [Nat.mod_eq_of_lt small, Nat.mod_eq_of_lt small', Nat.mod_eq_of_lt small'',
    UInt16.ofNat_toNat, UInt16.ofNat_toNat, UInt32.ofNat_toNat, Int32.toInt32_toUInt32]

/-- A record of 24 bytes is read back. -/
theorem recordAt_packed (rest : List UInt8) : recordAt 20 (s.packed ++ rest) = s.event := by
  have read := @recordAt_front s 20 [] rest rfl
  rwa [List.nil_append, ← List.append_assoc] at read

/-- One of 32 bytes is read back four bytes further in. -/
theorem recordAt_wide (rest : List UInt8) : recordAt 24 (s.wide ++ rest) = s.event := by
  have read := @recordAt_front s 24 (List.replicate 4 0) (List.replicate 4 0 ++ rest) rfl
  rwa [← List.append_assoc, ← List.append_assoc, ← List.append_assoc] at read

end Stamped

/-! ## Reads -/

/-- Dropping whole records from a read drops as many of its events. -/
theorem drop_flatMap {α : Type*} {f : α → List UInt8} {size : Nat} (sized : ∀ a, (f a).length = size)
    (l : List α) (i : Nat) : (l.flatMap f).drop (i * size) = (l.drop i).flatMap f := by
  induction i generalizing l with
  | zero => simp
  | succ i ih =>
      cases l with
      | nil => simp
      | cons a l =>
          have behind : (i + 1) * size = (f a).length + i * size := by
            rw [sized, Nat.succ_mul, Nat.add_comm]
          rw [List.flatMap_cons, List.drop_succ_cons, behind, List.drop_length_add_append]
          exact ih l

/-- A read of records of one size is as long as they are together. -/
theorem length_flatMap_of_sized {α : Type*} {f : α → List UInt8} {size : Nat}
    (sized : ∀ a, (f a).length = size) (l : List α) : (l.flatMap f).length = l.length * size := by
  simp [List.length_flatMap, sized]

/-- Records that are looked for at their size are found. -/
theorem recordsOf_flatMap {f : Stamped → List UInt8} {size place : Nat} (some : 0 < size)
    (sized : ∀ s, (f s).length = size)
    (read : ∀ (s : Stamped) rest, recordAt place (f s ++ rest) = s.event) (l : List Stamped) :
    recordsOf size place (l.flatMap f) = l.map (·.event) := by
  unfold recordsOf
  rw [length_flatMap_of_sized sized, Nat.mul_div_cancel _ some]
  apply List.ext_getElem
  · simp
  · intro i inside inside'
    rw [List.length_map] at inside'
    rw [List.getElem_map, List.getElem_range, drop_flatMap sized, List.drop_eq_getElem_cons inside',
      List.flatMap_cons, read, List.getElem_map]

/-- A read of records of 24 bytes is always understood. -/
theorem recordsIn_packed {l : List Stamped} (some : l ≠ []) :
    recordsIn (l.flatMap Stamped.packed) = .some (l.map (·.event)) := by
  have positive := List.length_pos_of_ne_nil some
  unfold recordsIn
  rw [length_flatMap_of_sized Stamped.packed_length, if_neg (by omega), if_pos (by omega),
    recordsOf_flatMap (by decide) Stamped.packed_length Stamped.recordAt_packed]

/-- A read of wide records is understood unless it could be one of packed records. -/
theorem recordsIn_wide_iff {l : List Stamped} (some : l ≠ []) :
    recordsIn (l.flatMap Stamped.wide) = .some (l.map (·.event)) ↔ ¬3 ∣ l.length := by
  have positive := List.length_pos_of_ne_nil some
  unfold recordsIn
  rw [length_flatMap_of_sized Stamped.wide_length, if_neg (by omega)]
  by_cases thirds : 3 ∣ l.length
  · refine iff_of_false (fun same => ?_) (not_not_intro thirds)
    rw [if_pos (by omega), Option.some.injEq] at same
    have count := congrArg List.length same
    rw [recordsOf, List.length_map, List.length_range, List.length_map,
      length_flatMap_of_sized Stamped.wide_length] at count
    omega
  · refine iff_of_true ?_ thirds
    rw [if_neg (by omega), if_pos (by omega),
      recordsOf_flatMap (by decide) Stamped.wide_length Stamped.recordAt_wide]

/-- **Draining hands over what has happened.** However the kernel spreads its records of 24 bytes
over reads, each event that is of use is handed over once and in order; a read of records of 32
bytes is understood exactly when their number is not divisible by three. -/
theorem drained_exact (isTouch : Bool) {reads : List (List Stamped)} {last : List UInt8}
    (some : ∀ l ∈ reads, l ≠ []) (short : last.length < 24) :
    drained isTouch (reads.map (·.flatMap Stamped.packed) ++ [last]) =
        (reads.flatten.map (·.event)).filter (evKeep isTouch) ∧
      ∀ l ∈ reads, recordsIn (l.flatMap Stamped.wide) = .some (l.map (·.event)) ↔
        ¬3 ∣ l.length := by
  refine ⟨?_, fun l member => recordsIn_wide_iff (some l member)⟩
  induction reads with
  | nil =>
      have ended : recordsIn last = none := if_pos short
      rw [List.map_nil, List.nil_append, drained, ended]
      rfl
  | cons l reads ih =>
      rw [List.map_cons, List.cons_append, drained, recordsIn_packed (some l List.mem_cons_self)]
      simp only [List.flatten_cons, List.map_append, List.filter_append]
      rw [ih fun l member => some l (List.mem_cons_of_mem _ member)]

/-- A report of two events and a lone one. -/
def pressReads : List (List Stamped) :=
  [[⟨⟨evKey, keyPower, 1⟩, List.replicate 16 7, rfl⟩, ⟨⟨evSyn, 0, 0⟩, List.replicate 16 7, rfl⟩],
    [⟨⟨evAbs, absMtTrackingId, -1⟩, List.replicate 16 8, rfl⟩]]

/-- A press in two reads is handed over as the events that are kept. -/
theorem drained_exact_press :
    drained true (pressReads.map (·.flatMap Stamped.packed) ++ [[]]) =
      (pressReads.flatten.map (·.event)).filter (evKeep true) :=
  (@drained_exact true pressReads [] (by decide) (by decide)).1

/-! ## What is not handed over -/

/-- An event as `handle_ev` reads it. -/
def RawEvent.ev (e : RawEvent) : Ev :=
  if e.type = evSyn then .syn
  else if e.type = evKey then
    .key (if e.code = keyPower then .power
      else if e.code = btnTouch then .btnTouch
      else if e.code = btnLeft then .btnLeft
      else .other) e.value.toInt
  else if e.type = evAbs then
    .abs (if e.code = absX then .x
      else if e.code = absY then .y
      else if e.code = absMtSlot then .mtSlot
      else if e.code = absMtTrackingId then .mtTrackingId
      else if e.code = absMtPositionX then .mtPositionX
      else if e.code = absMtPositionY then .mtPositionY
      else if e.code = absMtTouchMajor then .mtTouchMajor
      else if e.code = absMtPressure then .mtPressure
      else .other) e.value.toInt
  else .other

/-- The press that reboots the phone. -/
def RawEvent.Reboots (e : RawEvent) : Prop :=
  e.type = evKey ∧ e.value = 1 ∧ e.code = keyVolumeUp

instance (e : RawEvent) : Decidable e.Reboots := inferInstanceAs (Decidable (_ ∧ _))

namespace Hud

/-- `handle_ev` with each of some events; nothing comes after a reboot. -/
def handleRaw (dev : Dev) : List (RawEvent × EvEnv) → Hud → Option Hud
  | [], h => some h
  | (e, env) :: rest, h =>
      if e.Reboots then none else (h.handleEv dev e.ev env).handleRaw dev rest

/-- The HUD without the time at which it was last used. -/
def unused (h : Hud) : Hud := { h with screen.tUser := 0 }

variable {dev : Dev} {h h' : Hud}

/-- States that agree up to the time of last use differ in it only. -/
theorem eq_of_unused (same : h.unused = h'.unused) :
    h' = { h with screen.tUser := h'.screen.tUser } := by
  have back : { h.unused with screen.tUser := h'.screen.tUser } =
      { h'.unused with screen.tUser := h'.screen.tUser } := by rw [same]
  exact back.symm

/-- Switching the screen does not look at the time of last use. -/
theorem setScreen_used (on : Bool) (now t : Nat) (h : Hud) :
    ({ h with screen.tUser := t }.setScreen on now).unused = (h.setScreen on now).unused := by
  unfold setScreen
  dsimp only
  split
  · split <;> rfl
  · split <;> rfl

theorem mtSyncFromKernel_used (slots : Option MtSlots) (t : Nat) (h : Hud) :
    { h with screen.tUser := t }.mtSyncFromKernel slots =
      { h.mtSyncFromKernel slots with screen.tUser := t } := by
  cases slots <;> rfl

theorem handleAbs_used (code : AbsCode) (value : Int) (t : Nat) (h : Hud) :
    { h with screen.tUser := t }.handleAbs dev code value =
      { h.handleAbs dev code value with screen.tUser := t } := by
  unfold handleAbs mtTracking mtNotePos
  split
  · cases code <;> rfl
  · cases code with
    | mtSlot => dsimp only; split <;> rfl
    | mtTrackingId => dsimp only; split <;> rfl
    | _ => rfl

/-- Nor does an event that finds the screen off. -/
theorem handleOff_used (ev : Ev) (env : EvEnv) (t : Nat) (h : Hud) :
    ({ h with screen.tUser := t }.handleOff dev ev env).unused = (h.handleOff dev ev env).unused := by
  unfold handleOff
  split
  · rfl
  · cases ev with
    | syn =>
        dsimp only
        rw [mtSyncFromKernel_used]
        generalize h.mtSyncFromKernel env.slots = g
        change ((if (g.mtFinger dev).2 ≠ none then
            { (g.mtFinger dev).1 with screen.tUser := t }.setScreen true env.now
          else { (g.mtFinger dev).1 with screen.tUser := t }).mtClearFresh).unused = _
        split
        · exact congrArg mtClearFresh (setScreen_used true env.now t (g.mtFinger dev).1)
        · rfl
    | abs code value =>
        dsimp only
        split
        · rw [handleAbs_used]
          rfl
        · rfl
    | key code value => rfl
    | other => rfl

/-- When the HUD was last used does not matter to what an event does. -/
theorem handleEv_used (ev : Ev) (env : EvEnv) (t : Nat) (h : Hud) :
    ({ h with screen.tUser := t }.handleEv dev ev env).unused = (h.handleEv dev ev env).unused := by
  unfold handleEv
  split
  · dsimp only
    split
    · rfl
    · exact setScreen_used _ env.now t { h with screen.tPowerKey := env.now }
  · dsimp only
    split
    · rfl
    · split
      · exact handleOff_used ev env t h
      · rfl

/-- **An event keeps two states alike** up to the time of last use. -/
theorem handleEv_unused (same : h.unused = h'.unused) (ev : Ev) (env : EvEnv) :
    (h.handleEv dev ev env).unused = (h'.handleEv dev ev env).unused := by
  rw [eq_of_unused same]
  exact (handleEv_used ev env h'.screen.tUser h).symm

end Hud

/-- What is not handed over. -/
theorem RawEvent.ev_of_dropped {isTouch : Bool} {e : RawEvent} (dropped : evKeep isTouch e = false) :
    isTouch = true ∧ ¬e.Reboots ∧ (e.ev = .other ∨ e.ev = .abs .other e.value.toInt) := by
  unfold evKeep at dropped
  split at dropped
  · cases dropped
  · next touch =>
      split at dropped
      · cases dropped
      · next other =>
          have still : e.type ≠ evSyn := fun same => other (.inl same)
          have keyless : e.type ≠ evKey := fun same => other (.inr same)
          refine ⟨by simpa using touch, fun reboots => keyless reboots.1, ?_⟩
          rw [RawEvent.ev, if_neg still, if_neg keyless]
          split
          · next axis =>
              rw [if_neg (not_not_intro axis)] at dropped
              simp only [List.mem_cons, List.not_mem_nil, or_false, not_or,
                decide_eq_false_iff_not] at dropped
              obtain ⟨slot, id, x, y, major, pressure, absx, absy⟩ := dropped
              simp only [slot, id, x, y, major, pressure, absx, absy, if_false, or_true]
          · exact .inl rfl

namespace Hud

variable {dev : Dev} {h h' : Hud}

/-- An event that is not handed over would have changed nothing else. -/
theorem handleEv_dropped {e : RawEvent} (dropped : evKeep dev.isTouch e = false) (env : EvEnv) :
    (h.handleEv dev e.ev env).unused = h.unused := by
  obtain ⟨touch, -, unread⟩ := RawEvent.ev_of_dropped dropped
  have powerless : e.ev ≠ .key .power 1 := by
    rcases unread with same | same <;> rw [same] <;> exact fun clash => nomatch clash
  have bare (h : Hud) : (h.handleAbs dev .other e.value.toInt) = h := by
    unfold handleAbs
    split <;> rfl
  unfold handleEv
  rw [if_neg powerless, if_neg (by simp [touch] : ¬dev.isTouch = false)]
  split
  · rfl
  · split
    · unfold handleOff
      split
      · rfl
      · rcases unread with same | same <;> rw [same]
        dsimp only
        rw [bare, ite_self]
    · rcases unread with same | same <;> rw [same]
      · rfl
      · dsimp only
        rw [bare]
        rfl

/-- What is not handed over makes no difference to the events that are. -/
theorem handleRaw_kept (events : List (RawEvent × EvEnv)) (same : h.unused = h'.unused) :
    (h.handleRaw dev (events.filter fun e => evKeep dev.isTouch e.1)).map unused =
      (h'.handleRaw dev events).map unused := by
  induction events generalizing h h' with
  | nil => exact congrArg some same
  | cons first events ih =>
      obtain ⟨e, env⟩ := first
      by_cases kept : evKeep dev.isTouch e = true
      · rw [List.filter_cons, if_pos kept, handleRaw, handleRaw]
        split
        · rfl
        · exact ih (handleEv_unused same e.ev env)
      · have dropped := Bool.eq_false_of_not_eq_true kept
        have calm := (RawEvent.ev_of_dropped dropped).2.1
        rw [List.filter_cons, if_neg kept, handleRaw, if_neg calm]
        exact ih (same.trans (handleEv_dropped dropped env).symm)

/-- **Nothing is missed.** A device whose events are handed over as `ev_keep` says brings the HUD
where all of its events would have brought it, up to the time at which it was last used; and it
reboots the phone when these would have done so. -/
theorem drained_alike (dev : Dev) (events : List (RawEvent × EvEnv)) (h : Hud) :
    (h.handleRaw dev (events.filter fun e => evKeep dev.isTouch e.1)).map unused =
      (h.handleRaw dev events).map unused :=
  handleRaw_kept events rfl

end Hud

end Ginkgo
