import Ginkgo.Transition.Run
import Ginkgo.Hud.Poll
import Ginkgo.Hud.Touch

/-!
# The main loop

An iteration of the main loop drains the input devices, polls the job slot, moves the
animations, draws, samples and starts queued or periodic jobs. `Ginkgo.Frame` holds what
one iteration gets from outside and `Ginkgo.Frame.events` the order in which the parts
run. Properties that hold in every state hold for the parts in any order
(`Ginkgo.Hud.step`), so also inside an iteration; drawing and the wait for the next
frame may drain the input devices again.
-/

namespace Ginkgo

open CText

/-- An event of an input device with what its handling gets from the system. -/
structure Input where
  dev : Dev
  ev : Ev
  env : EvEnv

/-- The animation of one frame: the position of the sheet, which it has reached when the
animation is over, and the smoothing factor of the list. -/
structure Animation where
  sheetT : ℚ
  arrived : Bool
  smooth : ℚ := 0

/-- What one second's sampling reads. -/
structure Sample where
  wireless : Option (Int × Int) := none
  ifacePresent : Bool := true
  ifaceFound : Option Text := none
  up : Bool := false
  ip : Option Text := none
  gw : Option Text := none

/-- The parts of an iteration of the main loop. -/
inductive Event where
  | input (input : Input)
  | idleOff (now : Nat)
  | poll (poll : Poll)
  | confirm (now : Nat)
  | animate (animation : Animation)
  | render
  | sample (sample : Sample)
  | kick (sys : Sys)
  | schedule (now : Nat) (sys : Sys)

/-- `HUD_IDLE_OFF_NS`. -/
def hudIdleOffNs : Nat := 600000000000

namespace Hud

/-- Blank the screen when nobody has touched it for long and nothing is going on. -/
def idleOff (now : Nat) (h : Hud) : Hud :=
  if h.screen.screenOff = false ∧ h.join.connecting = false ∧ h.wifi.busy = false ∧
      h.ui.sheetTgt = .none ∧ h.screen.tUser ≤ now ∧ hudIdleOffNs < now - h.screen.tUser then
    h.setScreen false now
  else h

/-- The movement of a sheet, as the frame has computed it. -/
def animateSheet (animation : Animation) (h : Hud) : Hud :=
  if animation.arrived then
    { h with ui.sheetT := if h.ui.sheetTgt ≠ .none then 1 else 0, ui.sheet := h.ui.sheetTgt }
  else { h with ui.sheetT := animation.sheetT }

/-- Clamp the target of the list and move the list towards it. -/
def animateList (smooth : ℚ) (h : Hud) : Hud :=
  let vis := (h.sheetCardH - 240).tdiv listRowH
  let vis := if vis < 1 then 1 else vis
  let nap : Int := h.scan.aps.length
  let maxSc := if vis < nap then -(nap - vis) * listRowH else 0
  let tgt := clampi h.ui.listScrollTgt maxSc 0
  let scroll := h.ui.listScroll + ratTrunc (((tgt - h.ui.listScroll : Int) : ℚ) * smooth)
  let scroll := if (tgt - scroll).natAbs ≤ 1 then tgt else scroll
  { h with ui.listScrollTgt := tgt, ui.listScroll := scroll }

/-- The only change that drawing makes: the detail sheet looks its network up again. -/
def render (h : Hud) : Hud :=
  if h.screen.screenOff ∨ h.ui.sheetT ≤ 2 / 1000 then h
  else if h.ui.sheetTgt = .pass ∨ (h.ui.sheet = .pass ∧ 1 / 2 < h.ui.sheetT) then h
  else if h.ui.sheetTgt = .detail ∨ (h.ui.sheet = .detail ∧ 1 / 2 < h.ui.sheetT) then
    h.syncSelectedAp
  else h

/-- The samples of a round. -/
def sampleAll (sample : Sample) (h : Hud) : Hud :=
  let h := h.sampleSignal sample.wireless
  let h := h.sysfsWifi sample.ifacePresent sample.ifaceFound
  let h := h.sampleLink sample.up sample.ip
  h.sampleIp sample.ip sample.gw

/-- Start a periodic report when the slot is free and no join is going on. -/
def schedule (now : Nat) (sys : Sys) (h : Hud) : Hud :=
  if h.job.pid = none ∧ h.join.connecting = false then
    if h.ui.sheetTgt = .list ∧ 8000000000 < now - h.want.tScan then
      { h.wifiScan sys with want.tScan := now }
    else if 1000000000 < now - h.want.tWifi then { h.wifiInfo sys with want.tWifi := now }
    else h
  else h

/-- One part of an iteration. -/
def step (h : Hud) : Event → Hud
  | .input input => h.handleEv input.dev input.ev input.env
  | .idleOff now => h.idleOff now
  | .poll poll => h.pollJob poll
  | .confirm now => h.maybeConfirmJoin now
  | .animate animation => (h.animateSheet animation).animateList animation.smooth
  | .render => h.render
  | .sample sample => h.sampleAll sample
  | .kick sys => h.kickPending sys
  | .schedule now sys => h.schedule now sys

/-- `load_hud_conf`: the language and the brightness of the configuration file. -/
def loadHudConf (lang : Option Bool) (bl : Option Int) (h : Hud) : Hud :=
  let h := match lang with
    | some en => { h with ui.langEn := en }
    | none => h
  match bl with
  | some pct =>
      { h with light.blPct := clampi pct 1 100, light.blKeep := clampi pct 1 100 }
  | none => h

/-- `find_backlight`: the maximum and the current brightness of the chosen backlight. -/
def findBacklight (found : Option (Int × Int)) (h : Hud) : Hud :=
  match found with
  | none => h
  | some (max, cur) =>
      let h : Hud := { h with
        light.blMax := max
        light.blPath := true
        light.blCur := if 0 < cur then cur else h.light.blCur }
      if 0 < h.light.blPct then
        { h with light.blKeep := h.light.blPct }.applyBlPct h.light.blPct
      else if 0 < h.light.blMax ∧ 0 < h.light.blCur then
        let pct := clampi ((h.light.blCur * 100 + h.light.blMax.tdiv 2).tdiv h.light.blMax) 1 100
        { h with light.blPct := pct, light.blKeep := pct }
      else { h with light.blPct := 80, light.blKeep := 80 }

end Hud

/-- What the start of the program finds. -/
structure Boot where
  W : Int
  H : Int
  lang : Option Bool := none
  bl : Option Int := none
  backlight : Option (Int × Int) := none
  nslots : Nat := maxSlots
  sample : Sample := {}
  now : Nat := 0
  sys : Sys

/-- The initial values of the globals. -/
def Boot.blank (boot : Boot) : Hud := { ui := { W := boot.W, H := boot.H } }

/-- The state in which the main loop starts. -/
def Boot.hud (boot : Boot) : Hud :=
  let h := (boot.blank.loadHudConf boot.lang boot.bl).findBacklight boot.backlight
  let h := { h.resetTouch with touch.mtNslots := boot.nslots }
  let h := (h.sysfsWifi boot.sample.ifacePresent boot.sample.ifaceFound).sampleLink
    boot.sample.up boot.sample.ip
  let h := (h.sampleIp boot.sample.ip boot.sample.gw).sampleSignal boot.sample.wireless
  { h.wifiRadio boot.sys with screen.tUser := boot.now, screen.tUnblank := boot.now }

/-- What one iteration of the main loop gets from outside. -/
structure Frame where
  drained : List Input := []
  now : Nat := 0
  poll : Poll
  animation : Animation
  drawn : List Input := []
  sample : Option Sample := none
  kick : Sys
  schedule : Sys
  waited : List Input := []

/-- The parts of an iteration in the order of the main loop. -/
def Frame.events (frame : Frame) : List Event :=
  frame.drained.map .input ++
    [.idleOff frame.now, .poll frame.poll, .confirm frame.now, .animate frame.animation, .render] ++
    frame.drawn.map .input ++ (frame.sample.map Event.sample).toList ++
    [.kick frame.kick, .schedule frame.now frame.schedule] ++ frame.waited.map .input

/-- The parts of successive iterations. -/
def loopEvents (frames : List Frame) : List Event := frames.flatMap Frame.events

/-! ## Sessions

What a run needs to be written down: taps on a touch device with slots, children that run or have
ended, and iterations in which the sheets have come to rest. -/

/-- A touch device with slots whose axes are the screen's. -/
def Dev.slotted (W H : Int) : Dev := { isTouch := true, hasMt := true, absMaxX := W, absMaxY := H }

/-- The slot table of the kernel when a contact is in the first slot; with a negative id it has
ended there. -/
def MtSlots.first (id x y : Int) : MtSlots where
  id s := if s.val = 0 then id else -1
  x s := if s.val = 0 then x else 0
  y s := if s.val = 0 then y else 0

/-- A finger lands: the report of a contact whose number is the time in tenths of a second. -/
def landInputs (dev : Dev) (x y : Int) (now : Nat) (sys : Sys) : List Input :=
  let id : Int := (now / 100000000 : Nat)
  let env : EvEnv := { now, slots := some (.first id x y), sys }
  [⟨dev, .abs .mtTrackingId id, env⟩, ⟨dev, .abs .mtPositionX x, env⟩,
    ⟨dev, .abs .mtPositionY y, env⟩, ⟨dev, .syn, env⟩]

/-- It lifts where it has landed. -/
def liftInputs (dev : Dev) (x y : Int) (now : Nat) (sys : Sys) : List Input :=
  let env : EvEnv := { now, slots := some (.first (-1) x y), sys }
  [⟨dev, .abs .mtTrackingId (-1), env⟩, ⟨dev, .syn, env⟩]

/-- A tap that lasts a tenth of a second. -/
def tapInputs (dev : Dev) (x y : Int) (now : Nat) (sys : Sys) : List Input :=
  landInputs dev x y now sys ++ liftInputs dev x y (now + 100000000) sys

/-- The child is still running. -/
def Poll.running (sys : Sys) : Poll := { exit := none, retry := sys, kick := sys }

/-- The child has printed a text and ended. -/
def Poll.ended (out : String) (code : Nat) (sys : Sys) : Poll :=
  { first := txt out, exit := some (.status code), retry := sys, kick := sys }

/-- An iteration in which the sheets have come to rest. -/
def Frame.settled (drained : List Input) (poll : Poll) (sys : Sys) : Frame :=
  { drained, poll, animation := ⟨1, true, 0⟩, kick := sys, schedule := sys }

/-- Children can be started. -/
def forks : Sys := { spawn := .child 7 }

/-- A tap on a screen of 1080 by 2340 points, its time in tenths of a second. -/
def tapAt (x y : Int) (tenths : Nat) : List Input :=
  tapInputs (.slotted 1080 2340) x y (tenths * 100000000) forks

/-- A finger that lands and stays. -/
def landAt (x y : Int) (tenths : Nat) : List Input :=
  landInputs (.slotted 1080 2340) x y (tenths * 100000000) forks

/-- A finger that lifts where it has landed. -/
def liftAt (x y : Int) (tenths : Nat) : List Input :=
  liftInputs (.slotted 1080 2340) x y (tenths * 100000000) forks

/-- Such an iteration at a time in tenths of a second. -/
def iterationAt (tenths : Nat) (drained : List Input) (poll : Poll) : Frame :=
  let now := tenths * 100000000
  { Frame.settled drained { poll with now } forks with now }

end Ginkgo
