import Mathlib.Data.List.Basic

/-!
# The panel driver

The callbacks of `panel-huaxing-ft8719.c` and its `panel_sleep` attribute, with the DCS
commands they transfer. The driver that `0002-pmi632-qg-panel-sleep.patch` changes has the
same callbacks and attribute; only its initial commands are not in the patch, so the
driver here is one of a `Ginkgo.PanelDriver`, whose initial commands leave the display on.

A transfer fails when the DSI host answers with a negative number. `DsiPanel.wire` is
history: the commands that the panel has received, the last one first.
-/

namespace Ginkgo

/-- How a command is packed. -/
inductive PktType where
  | dcsLong
  | dcsShort
  deriving DecidableEq

/-- One command of a sequence; `waitMs` is slept after it. -/
structure DcsCmd where
  type : PktType
  waitMs : Nat := 0
  data : List UInt8
  deriving DecidableEq

/-- What a display can be. -/
inductive Power where
  | on
  | off
  deriving DecidableEq

/-- `MIPI_DCS_EXIT_SLEEP_MODE` -/
def mipiDcsExitSleepMode : UInt8 := 0x11

/-- `MIPI_DCS_SET_DISPLAY_OFF` -/
def mipiDcsSetDisplayOff : UInt8 := 0x28

/-- `MIPI_DCS_SET_DISPLAY_ON` -/
def mipiDcsSetDisplayOn : UInt8 := 0x29

/-- `MIPI_DCS_SET_DISPLAY_BRIGHTNESS` -/
def mipiDcsSetDisplayBrightness : UInt8 := 0x51

/-- `MIPI_DCS_WRITE_CONTROL_DISPLAY` -/
def mipiDcsWriteControlDisplay : UInt8 := 0x53

/-- `MIPI_DCS_WRITE_POWER_SAVE` -/
def mipiDcsWritePowerSave : UInt8 := 0x55

/-- What a command does to the display. -/
def powerOf (data : List UInt8) : Option Power :=
  if data.head? = some mipiDcsSetDisplayOn then some .on
  else if data.head? = some mipiDcsSetDisplayOff then some .off
  else none

/-- A driver by its initial commands. The last command in them that switches the display
switches it on. -/
structure PanelDriver where
  onCmds : List DcsCmd
  leavesOn : onCmds.reverse.findSome? (fun cmd => powerOf cmd.data) = some .on

/-- `on_cmds` of the Huaxing panel. -/
def huaxingOnCmds : List DcsCmd :=
  [{ type := .dcsLong, data := [0x00, 0x00] },
    { type := .dcsLong, data := [0xff, 0x87, 0x19, 0x01] },
    { type := .dcsLong, data := [0x00, 0x80] },
    { type := .dcsLong, data := [0xff, 0x87, 0x19] },
    { type := .dcsLong, data := [0x00, 0x80] },
    { type := .dcsLong
      data := [0xca, 0x80, 0x80, 0x80, 0x80, 0x80, 0x80, 0x80, 0x80, 0x80, 0x80, 0x80, 0x80] },
    { type := .dcsLong, data := [0x00, 0x90] },
    { type := .dcsLong, data := [0xca, 0xfe, 0xff, 0x66, 0xf6, 0xff, 0x66, 0xfb, 0xff, 0x32] },
    { type := .dcsLong, data := [0x00, 0xb5] },
    { type := .dcsLong, data := [0xca, 0x06] },
    { type := .dcsLong, data := [0x00, 0xb2] },
    { type := .dcsLong, data := [0xca, 0x0c] },
    { type := .dcsShort, waitMs := 120, data := [mipiDcsExitSleepMode, 0x00] },
    { type := .dcsShort, waitMs := 20, data := [mipiDcsSetDisplayOn, 0x00] },
    { type := .dcsShort, data := [mipiDcsSetDisplayBrightness, 0xb8] },
    { type := .dcsShort, data := [mipiDcsWriteControlDisplay, 0x24] },
    { type := .dcsShort, data := [mipiDcsWritePowerSave, 0x00] }]

/-- The driver of the Huaxing panel. -/
def PanelDriver.huaxing : PanelDriver := ⟨huaxingOnCmds, by decide⟩

/-- What the driver keeps, and the commands that have been transferred, the last one first. -/
structure DsiPanel where
  inited : Bool := false
  asleep : Bool := false
  wire : List (List UInt8) := []
  deriving DecidableEq

/-- A call of the driver. Callbacks come with the answers of the host, by the number of the
transfer in the call, `prepare` with that of the regulators, and a write to `panel_sleep`
with what `kstrtobool` makes of it. -/
inductive PanelCall where
  | prepare (regulators : Int)
  | enable (answers : Nat → Int)
  | disable (answer : Int)
  | unprepare
  | store (sleep : Option Bool) (answer : Int)

namespace DsiPanel

/-- A transfer that succeeds reaches the display. -/
def transfer (data : List UInt8) (answer : Int) (p : DsiPanel) : DsiPanel × Int :=
  if answer < 0 then (p, answer) else ({ p with wire := data :: p.wire }, answer)

/-- `send_cmds`: the first command that fails ends the sequence. -/
def sendCmds (answers : Nat → Int) : Nat → List DcsCmd → DsiPanel → DsiPanel × Int
  | _, [], p => (p, 0)
  | i, cmd :: cmds, p =>
      match p.transfer cmd.data (answers i) with
      | (p, err) => if err < 0 then (p, err) else sendCmds answers (i + 1) cmds p

/-- `mipi_dsi_dcs_set_display_on` -/
def setDisplayOn : Int → DsiPanel → DsiPanel × Int := transfer [mipiDcsSetDisplayOn]

/-- `mipi_dsi_dcs_set_display_off` -/
def setDisplayOff : Int → DsiPanel → DsiPanel × Int := transfer [mipiDcsSetDisplayOff]

/-- The supplies and the reset line are not part of the state. -/
def prepare (regulators : Int) (p : DsiPanel) : DsiPanel × Int :=
  if p.inited then (p, 0) else if regulators < 0 then (p, regulators) else (p, 0)

/-- The power mode that is read back after the initial commands is only logged. -/
def enable (driver : PanelDriver) (answers : Nat → Int) (p : DsiPanel) : DsiPanel × Int :=
  if p.inited then
    match p.setDisplayOn (answers 0) with
    | (p, err) => ({ p with asleep := false }, err)
  else
    match p.sendCmds answers 0 driver.onCmds with
    | (p, err) =>
        if err < 0 then (p, err) else ({ p with inited := true, asleep := false }, 0)

/-- `disable`: the display is asleep when it has been told to go off. -/
def disable (answer : Int) (p : DsiPanel) : DsiPanel × Int :=
  match p.setDisplayOff answer with
  | (p, err) => if err < 0 then (p, err) else ({ p with asleep := true }, err)

/-- `unprepare` only cuts the supplies. -/
def unprepare (p : DsiPanel) : DsiPanel × Int := (p, 0)

/-- `panel_sleep_store`. -/
def panelSleepStore (sleep : Option Bool) (answer : Int) (p : DsiPanel) : DsiPanel :=
  match sleep with
  | none => p
  | some sleep =>
      if sleep = p.asleep then p
      else
        match if sleep then p.setDisplayOff answer else p.setDisplayOn answer with
        | (p, ret) => if ret < 0 then p else { p with asleep := sleep }

/-- A call and what it returns. The return value of a write to `panel_sleep` is left out. -/
def call (driver : PanelDriver) (p : DsiPanel) : PanelCall → DsiPanel × Int
  | .prepare regulators => p.prepare regulators
  | .enable answers => p.enable driver answers
  | .disable answer => p.disable answer
  | .unprepare => p.unprepare
  | .store sleep answer => (p.panelSleepStore sleep answer, 0)

/-- One call, whatever it returns. -/
def step (driver : PanelDriver) (p : DsiPanel) (call : PanelCall) : DsiPanel :=
  (p.call driver call).1

/-- The last command received that switches the display. -/
def shown (p : DsiPanel) : Option Power := p.wire.findSome? powerOf

end DsiPanel

/-! ## The order of the callbacks -/

/-- What the DRM core knows of a panel. -/
structure PanelCore where
  prepared : Bool := false
  enabled : Bool := false

namespace PanelCore

/-- The core calls a callback only in the state it belongs to. Writes to `panel_sleep` come
at any time. -/
def allows (core : PanelCore) : PanelCall → Bool
  | .prepare _ => !core.prepared
  | .enable _ => core.prepared && !core.enabled
  | .disable _ => core.enabled
  | .unprepare => core.prepared
  | .store _ _ => true

/-- The core's state after a callback that has not returned an error. -/
def after (core : PanelCore) : PanelCall → PanelCore
  | .prepare _ => { core with prepared := true }
  | .enable _ => { core with enabled := true }
  | .disable _ => { core with enabled := false }
  | .unprepare => { core with prepared := false }
  | .store _ _ => core

/-- The order of the callbacks is that of the core. -/
def ordered (driver : PanelDriver) : PanelCore → DsiPanel → List PanelCall → Bool
  | _, _, [] => true
  | core, p, call :: calls =>
      let (next, err) := p.call driver call
      core.allows call && ordered driver (if err < 0 then core else core.after call) next calls

end PanelCore

end Ginkgo
