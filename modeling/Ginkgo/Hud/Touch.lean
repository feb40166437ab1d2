import Ginkgo.Hud.Tap

/-!
# Touch events

`Ginkgo.Hud.handleEv` is called with every event read from an input device. It keeps a
copy of the kernel's slot table, follows one contact in it and turns that contact into
taps, key presses, brightness drags and list scrolling. What it does to the rest of the
HUD goes through `tap` and the three keyboard functions (`Ginkgo.Hud.handleEv_refines`).

Volume-up reboots the phone: no run goes past it, and there is no event for it.
-/

namespace Ginkgo

open CText

/-- What `open_event` has found out about an input device. -/
structure Dev where
  isTouch : Bool
  hasMt : Bool
  absMinX : Int := 0
  absMaxX : Int := 0
  absMinY : Int := 0
  absMaxY : Int := 0

/-- The keys that the HUD knows. -/
inductive KeyCode where
  | power
  | btnTouch
  | btnLeft
  | other
  deriving DecidableEq

/-- The axes that it knows. -/
inductive AbsCode where
  | x
  | y
  | mtSlot
  | mtTrackingId
  | mtPositionX
  | mtPositionY
  | mtTouchMajor
  | mtPressure
  | other
  deriving DecidableEq

/-- The events that `handle_ev` tells apart. -/
inductive Ev where
  | syn
  | key (code : KeyCode) (value : Int)
  | abs (code : AbsCode) (value : Int)
  | other
  deriving DecidableEq

/-- The answers of `EVIOCGMTSLOTS`. -/
structure MtSlots where
  id : Fin maxSlots → Int
  x : Fin maxSlots → Int
  y : Fin maxSlots → Int
  major : Fin maxSlots → Int := fun _ => 0
  z : Fin maxSlots → Int := fun _ => 0

/-- What the handling of an event gets from the system: the clock, the kernel's slot
table unless the request fails, and the answer to a start. -/
structure EvEnv where
  now : Nat
  slots : Option MtSlots
  sys : Sys

/-- `bl_bar_x` -/
def blBarX : Int := 220

namespace Hud

/-! ## Backlight and screen -/

/-- `apply_bl_pct` -/
def applyBlPct (pct : Int) (h : Hud) : Hud :=
  let h := { h with light.blPct := clampi pct 1 100 }
  if h.light.blMax < 1 ∨ h.light.blPath = false then h
  else
    let v := 1 + (h.light.blPct * (h.light.blMax - 1)).tdiv 100
    let v := if v < 1 then 1 else v
    let v := if h.light.blMax < v then h.light.blMax else v
    if v = h.light.blCur then h else { h with light.blCur := v, light.device := v }

/-- `commit_bl` -/
def commitBl (h : Hud) : Hud :=
  if 1 ≤ h.light.blPct then { h with light.blKeep := h.light.blPct } else h

/-- The place on the bar is a rational where the source has a `float`, so the two may differ by
one percent where a half is rounded: at `x = 577` of a bar 680 wide this sets 53, the source 52. -/
def applyBlFromX (x : Int) (h : Hud) : Hud :=
  let bw := h.ui.W - 220 - 180
  if bw < 1 then h
  else
    let t : ℚ := ((x - blBarX : Int) : ℚ) / (bw : ℚ)
    let t := if t < 0 then 0 else if 1 < t then 1 else t
    h.applyBlPct (ratTrunc (t * 100 + 1 / 2))

/-- `hit_bl` -/
def hitBl (x y : Int) (h : Hud) : Bool := hit x y 40 192 (h.ui.W - 80) 112

/-- `reset_touch` -/
def resetTouch (h : Hud) : Hud :=
  { h with
    touch.slotId := -1
    touch.dragging := false
    light.draggingBl := false
    touch.contactArmed := false
    scan.hoverAp := none
    touch.mtCur := 0
    touch.mtGotPos := false
    touch.tDown := 0
    touch.slots := fun s =>
      { h.touch.slots s with
        id := -1, haveX := false, haveY := false, major := 0, z := 0, fresh := false }
    touch.bindSlot := none }

/-- `set_screen` -/
def setScreen (on : Bool) (now : Nat) (h : Hud) : Hud :=
  if on then
    if h.screen.screenOff = false then h
    else
      let h := { h with screen.screenOff := false }.resetTouch
      let h := { h with screen.tUnblank := now, screen.tUser := now, light.blCur := 0 }
      h.applyBlPct (if 0 < h.light.blKeep then h.light.blKeep else 80)
  else if h.screen.screenOff then h
  else
    let h := { h with
      screen.screenOff := true
      screen.tBlank := now
      light.blPct := if h.light.draggingBl then h.light.blKeep else h.light.blPct }.resetTouch
    { h with
      light.device := if h.light.blPath then 0 else h.light.device
      light.blCur := 0 }

/-! ## The slot table -/

/-- A slot of the copy is overwritten. -/
def setSlot (s : Fin maxSlots) (slot : Slot) (h : Hud) : Hud :=
  { h with touch.slots := Function.update h.touch.slots s slot }

/-- `mt_note_pos` -/
def mtNotePos (s : Fin maxSlots) (yaxis : Bool) (value : Int) (h : Hud) : Hud :=
  let slot := h.touch.slots s
  let slot := if yaxis then { slot with y := value, haveY := true }
    else { slot with x := value, haveX := true }
  { h.setSlot s { slot with fresh := true } with touch.mtGotPos := true }

/-- `mt_tracking` -/
def mtTracking (s : Fin maxSlots) (value : Int) (h : Hud) : Hud :=
  let slot := h.touch.slots s
  if value < 0 then
    h.setSlot s { slot with id := -1, haveX := false, haveY := false, major := 0 }
  else h.setSlot s { slot with id := value }

/-- One slot after it has been compared with the kernel's. -/
def syncSlot (slot : Slot) (id x y major z : Int) : Slot :=
  let slot := { slot with fresh := slot.fresh || (0 ≤ id ∧ id ≠ slot.id), id := id }
  let slot := if slot.haveX then slot else { slot with x := x, haveX := x ≠ 0 }
  let slot := if slot.haveY then slot else { slot with y := y, haveY := y ≠ 0 }
  let slot := if slot.major = 0 ∧ major ≠ 0 then { slot with major := major } else slot
  let slot := if slot.z = 0 ∧ z ≠ 0 then { slot with z := z } else slot
  if id < 0 then { slot with haveX := false, haveY := false, major := 0, z := 0 } else slot

/-- How many slots are compared with the kernel's. -/
def slotCount (h : Hud) : Nat :=
  if h.touch.mtNslots < 1 ∨ maxSlots < h.touch.mtNslots then maxSlots else h.touch.mtNslots

/-- `mt_sync_from_kernel` -/
def mtSyncFromKernel (kernel : Option MtSlots) (h : Hud) : Hud :=
  match kernel with
  | none => h
  | some k =>
      { h with
        touch.slots := fun s =>
          if s.val < h.slotCount then
            syncSlot (h.touch.slots s) (k.id s) (k.x s) (k.y s) (k.major s) (k.z s)
          else { h.touch.slots s with id := -1, haveX := false, haveY := false } }

/-- `mt_clear_fresh` -/
def mtClearFresh (h : Hud) : Hud :=
  { h with touch.slots := fun s => { h.touch.slots s with fresh := false } }

/-- A slot that carries a new contact with a known position inside the axis ranges. -/
def isFinger (dev : Dev) (slot : Slot) : Bool :=
  0 ≤ slot.id ∧ slot.haveX ∧ slot.haveY ∧ dev.absMinX ≤ slot.x ∧ slot.x ≤ dev.absMaxX ∧
    dev.absMinY ≤ slot.y ∧ slot.y ≤ dev.absMaxY ∧ slot.fresh

/-- The slots that have an id. -/
def liveSlots (h : Hud) : List (Fin maxSlots) :=
  (List.finRange maxSlots).filter fun s => s.val < h.touch.mtNslots ∧ 0 ≤ (h.touch.slots s).id

/-- The only slot with a new finger; the number of live slots is kept for the caller. -/
def mtFinger (dev : Dev) (h : Hud) : Hud × Option (Fin maxSlots) :=
  ({ h with touch.mtNraw := h.liveSlots.length },
    match h.liveSlots.filter fun s => isFinger dev (h.touch.slots s) with
    | [s] => some s
    | _ => none)

/-- Take over the followed slot, if there is one. -/
def bindTo (slot : Option (Fin maxSlots)) (h : Hud) : Hud :=
  match slot with
  | none => { h with touch.slotId := -1, touch.bindSlot := none }
  | some s =>
      { h with
        touch.bindSlot := some s
        touch.slotId := (h.touch.slots s).id
        touch.slotX := (h.touch.slots s).x
        touch.slotY := (h.touch.slots s).y }

/-- `mt_bind_primary` -/
def mtBindPrimary (dev : Dev) (h : Hud) : Hud :=
  match h.touch.bindSlot with
  | some s =>
      if h.touch.contactArmed ∧ s.val < h.touch.mtNslots then
        h.bindTo (if (h.touch.slots s).id < 0 ∨ (h.touch.slots s).haveY = false then none
          else some s)
      else
        let (h, finger) := h.mtFinger dev
        h.bindTo finger
  | none =>
      let (h, finger) := h.mtFinger dev
      h.bindTo finger

/-! ## Contacts -/

/-- `map_xy` -/
def mapXy (dev : Dev) (rawx rawy : Int) (h : Hud) : Int × Int :=
  let dx := dev.absMaxX - dev.absMinX
  let dy := dev.absMaxY - dev.absMinY
  let dx := if dx < 1 then 1 else dx
  let dy := if dy < 1 then 1 else dy
  (clampi (((rawx - dev.absMinX) * h.ui.W).tdiv dx) 0 (h.ui.W - 1),
    clampi (((rawy - dev.absMinY) * h.ui.H).tdiv dy) 0 (h.ui.H - 1))

/-- `map_touch` -/
def mapTouch (dev : Dev) (h : Hud) : Int × Int := h.mapXy dev h.touch.slotX h.touch.slotY

/-- Whether the contact that ends now is a tap: its duration and how far it has moved. -/
def tapOk (dev : Dev) (now : Nat) (h : Hud) : Bool :=
  if h.touch.tDown = 0 then false
  else
    let dur := now - h.touch.tDown
    if dur < 8000000 ∨ 2000000000 < dur then false
    else
      let range := dev.absMaxX - dev.absMinX
      let range := if range < dev.absMaxY - dev.absMinY then dev.absMaxY - dev.absMinY else range
      let range := if range < 1 then 1 else range
      let dist := ((h.touch.slotX - h.touch.downX).natAbs : Int) +
        ((h.touch.slotY - h.touch.downY).natAbs : Int)
      dist < range.tdiv 8

/-- The end of a contact: a drag is committed, a held key is released, and otherwise the
contact may be a tap. -/
def contactUp (dev : Dev) (armed : Bool) (env : EvEnv) (h : Hud) : Hud :=
  let (x, y) := h.mapTouch dev
  let h := if h.light.draggingBl then h.commitBl else h
  if h.osk.held then (h.oskOnUp x y env.sys).1
  else if h.touch.dragging = false ∧ armed ∧ h.tapOk dev env.now then h.tap x y env.sys
  else h

/-- The press and the release of a device without slots. -/
def handleBtn (dev : Dev) (value : Int) (env : EvEnv) (h : Hud) : Hud :=
  if value = 1 then
    let h := { h with
      touch.slotId := 1
      touch.dragging := false
      light.draggingBl := false
      touch.contactArmed := false
      touch.tDown := env.now
      touch.downX := h.touch.slotX
      touch.downY := h.touch.slotY }
    let (x, y) := h.mapTouch dev
    (h.oskOnDown x y).1
  else if 0 ≤ h.touch.slotId then (h.contactUp dev true env).resetTouch
  else h

/-- The followed contact has ended. -/
def synLift (dev : Dev) (prev : Int) (env : EvEnv) (h : Hud) : Hud :=
  let h :=
    if 0 ≤ prev then
      let h := h.contactUp dev h.touch.contactArmed env
      { h with touch.dragging := false, light.draggingBl := false, touch.contactArmed := false }
    else h
  h.mtClearFresh

/-- A new contact has landed. -/
def synLand (dev : Dev) (env : EvEnv) (h : Hud) : Hud :=
  let h := { h with
    touch.downX := h.touch.slotX
    touch.downY := h.touch.slotY
    touch.contactArmed := true
    touch.dragging := false
    light.draggingBl := false
    touch.tDown := env.now
    touch.mtGotPos := false }
  let (x, y) := h.mapTouch dev
  (h.oskOnDown x y).1.mtClearFresh

/-- A contact that landed on the brightness bar and moves along it drags the brightness. -/
def startBlDrag (dev : Dev) (x y : Int) (h : Hud) : Hud :=
  let dy := h.touch.slotY - h.touch.downY
  let dx := h.touch.slotX - h.touch.downX
  let (downSx, downSy) := h.mapXy dev h.touch.downX h.touch.downY
  if h.touch.dragging = false ∧ h.light.draggingBl = false ∧ h.ui.sheetTgt = .none ∧
      h.hitBl downSx downSy ∧ h.hitBl x y ∧ 12 < (dx.natAbs : Int) + (dy.natAbs : Int) then
    { h with light.draggingBl := true, touch.dragging := true }
  else h

/-- The followed contact has moved on a sheet other than the keyboard's. -/
def synDrag (dev : Dev) (x y : Int) (h : Hud) : Hud :=
  let dy := h.touch.slotY - h.touch.downY
  let range := dev.absMaxY - dev.absMinY
  let range := if range < 1 then 1 else range
  if h.touch.dragging = false ∧ h.light.draggingBl = false ∧ range.tdiv 4 < (dy.natAbs : Int) then
    { h with touch.downX := h.touch.slotX, touch.downY := h.touch.slotY }
  else
    let h := h.startBlDrag dev x y
    if h.light.draggingBl then h.applyBlFromX x
    else
      let h := if h.touch.dragging then h.hoverFromPoint x y else h
      if h.ui.sheetTgt = .list ∧ 64 < (dy.natAbs : Int) then
        { h with
          touch.dragging := true
          ui.listScrollTgt := h.ui.listScroll + (dy * h.ui.H).tdiv range
          touch.downY := h.touch.slotY }
      else h

/-- The followed contact has moved. -/
def synMove (dev : Dev) (h : Hud) : Hud :=
  if h.touch.mtGotPos = false then h.mtClearFresh
  else
    let h := { h with touch.mtGotPos := false }
    let (x, y) := h.mapTouch dev
    if h.ui.sheetTgt = .pass ∧ h.light.draggingBl = false then
      let h := if h.osk.held then h.oskOnMove x y else (h.oskOnDown x y).1
      if h.osk.held then h.mtClearFresh else (h.synDrag dev x y).mtClearFresh
    else (h.synDrag dev x y).mtClearFresh

/-- The end of a report while the screen is on. -/
def handleSyn (dev : Dev) (env : EvEnv) (h : Hud) : Hud :=
  let h := h.mtSyncFromKernel env.slots
  let prev := h.touch.slotId
  let h := h.mtBindPrimary dev
  if 1 < h.touch.mtNraw ∧ h.touch.contactArmed = false ∧ prev < 0 then h.mtClearFresh
  else if h.touch.slotId < 0 then h.synLift dev prev env
  else if h.touch.contactArmed = false then h.synLand dev env
  else h.synMove dev

/-- An axis event while the screen is on. -/
def handleAbs (dev : Dev) (code : AbsCode) (value : Int) (h : Hud) : Hud :=
  if dev.hasMt = false then
    match code with
    | .x => { h with touch.slotX := value }
    | .y => { h with touch.slotY := value }
    | _ => h
  else
    let s := h.touch.mtCur
    match code with
    | .mtSlot =>
        if inside : 0 ≤ value ∧ value < maxSlots then
          { h with touch.mtCur := ⟨value.toNat, toNat_lt_maxSlots inside⟩ }
        else h
    | .mtTrackingId => h.mtTracking s value
    | .mtPositionX => h.mtNotePos s false value
    | .mtPositionY => h.mtNotePos s true value
    | .mtTouchMajor => h.setSlot s { h.touch.slots s with major := value }
    | .mtPressure => h.setSlot s { h.touch.slots s with z := value }
    | _ => h

/-- An event while the screen is off: only a finger with an id and a position wakes it. -/
def handleOff (dev : Dev) (ev : Ev) (env : EvEnv) (h : Hud) : Hud :=
  if h.screen.tBlank ≠ 0 ∧ env.now - h.screen.tBlank < 3000000000 then h
  else
    match ev with
    | .abs code value =>
        if dev.isTouch ∧ dev.hasMt ∧ code ≠ .mtPressure then h.handleAbs dev code value else h
    | .syn =>
        let h := h.mtSyncFromKernel env.slots
        let (h, finger) := h.mtFinger dev
        let h := if finger ≠ none then h.setScreen true env.now else h
        h.mtClearFresh
    | _ => h

/-- `handle_ev` -/
def handleEv (dev : Dev) (ev : Ev) (env : EvEnv) (h : Hud) : Hud :=
  if ev = .key .power 1 then
    if env.now - h.screen.tPowerKey < 400000000 then h
    else { h with screen.tPowerKey := env.now }.setScreen h.screen.screenOff env.now
  else if dev.isTouch ∧ h.screen.tUnblank ≠ 0 ∧ env.now - h.screen.tUnblank < 250000000 then h
  else if h.screen.screenOff then h.handleOff dev ev env
  else
    let h := { h with screen.tUser := env.now }
    if dev.isTouch = false then h
    else match ev with
      | .abs code value => h.handleAbs dev code value
      | .key .btnTouch value => if dev.hasMt then h else h.handleBtn dev value env
      | .key .btnLeft value => if dev.hasMt then h else h.handleBtn dev value env
      | .syn => h.handleSyn dev env
      | _ => h

end Hud

end Ginkgo
