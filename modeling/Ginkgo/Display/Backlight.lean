import Ginkgo.Calls.Session

/-!
# The backlight

`ktd3136.c` drives one of two chips over I²C. A write that fails may have reached the chip or not
(`Ginkgo.Ktd3136.Written`), and what the chip shows is read off the writes that it has taken
(`Ginkgo.Ktd3136.Chip.after`).

The chips are no part of the repository. Their registers are a parameter
(`Ginkgo.Ktd3136.Registers`), and `Ginkgo.Ktd3136.Documented` is what is documented of them: a
register switches the chip on, one holds the bits 2:0 of the brightness, and a write of the bits
10:3 takes both. The driver knows the KTD3136 so. The LM3697 it takes for a chip with a low byte in
0x23 and three high bits in 0x22, which is the other way round, and so the two chips show different
things (`Ginkgo.Ktd3136.life_shows`).
-/

namespace Ginkgo.Ktd3136

open Calls

/-! ## The bus -/

/-- An access of the driver to the chip. -/
inductive Bus where
  | write (reg val : Nat)
  | read (reg : Nat)

/-- Whether a write has failed, and whether the chip has taken it. -/
structure Written where
  failed : Bool
  taken : Bool
  sound : failed = false → taken = true

/-- What the bus answers: a byte that is read may be missing. -/
abbrev Reply : Bus → Type
  | .write _ _ => Written
  | .read _ => Option Nat

/-- The accesses of a run and their answers, the last one first. -/
abbrev BusLog := Log Bus Reply

/-- The two chips that the board may carry. -/
inductive Ic where
  | ktd3136
  | lm3697
  deriving DecidableEq

/-- A function of the driver; it returns early with an error, and keeps the chip it has found. -/
abbrev Driver := Session Ic Unit Bus Reply

/-! ## The driver -/

/-- `KTD3136_REG_ID` -/
def regId : Nat := 0x00

/-- `KTD3136_REG_MODE` -/
def regMode : Nat := 0x02

/-- `KTD3136_REG_CONTROL` -/
def regControl : Nat := 0x03

/-- `KTD3136_REG_RATIO_LSB` -/
def regRatioLsb : Nat := 0x04

/-- `KTD3136_REG_RATIO_MSB` -/
def regRatioMsb : Nat := 0x05

/-- `KTD3136_REG_PWM` -/
def regPwm : Nat := 0x06

/-- `KTD3136_ID` -/
def ktdId : Nat := 0x18

/-- `KTD3136_MODE_ON` -/
def modeOn : Nat := 0xc9

/-- `KTD3136_MODE_OFF` -/
def modeOff : Nat := 0x98

/-- `KTD3136_CTRL_LINEAR` -/
def ctrlLinear : Nat := 2

/-- `KTD3136_PWM_DISABLE` -/
def pwmDisable : Nat := 0x9b

/-- `LM3697_REG_BRT_MSB`, as the driver calls 0x22. -/
def lmBrtMsb : Nat := 0x22

/-- `LM3697_REG_BRT_LSB`, as the driver calls 0x23. -/
def lmBrtLsb : Nat := 0x23

/-- The register that switches an LM3697 on. -/
def lmEnable : Nat := 0x24

/-- `KTD3136_MAX_BRIGHTNESS` -/
def maxBrightness : Nat := 2047

/-- `KTD3136_DEFAULT_BRIGHTNESS` -/
def defaultBrightness : Nat := 1024

/-- `ktd3136_write`; a write that fails ends the function. -/
def write (reg val : Nat) : Driver Unit := do
  let written : Written ← Session.request (Bus.write reg val)
  if written.failed then Session.exit () else pure ()

/-- Writes one after the other, up to the first that fails. -/
def writeAll : List (Nat × Nat) → Driver Unit
  | [] => pure ()
  | (reg, val) :: rest => do
      write reg val
      writeAll rest

/-- `ktd3136_set_ktd` -/
def setKtd (brightness : Nat) : Driver Unit :=
  if brightness = 0 then write regMode modeOff
  else do
    write regMode modeOn
    write regRatioLsb (brightness &&& 0x7)
    write regRatioMsb ((brightness >>> 3) &&& 0xff)

/-- `init` of `ktd3136_init_lm3697`. -/
def lmInit : List (Nat × Nat) :=
  [(0x10, 0x03), (0x13, 0x01), (0x16, 0x00), (0x17, 0x19), (0x18, 0x19), (0x19, 0x03),
    (0x1a, 0x0c), (0x1c, 0x0f), (0x24, 0x03)]

/-- `ktd3136_init_lm3697` -/
def initLm3697 : Driver Unit := writeAll lmInit

/-- `ktd3136_set_lm3697` -/
def setLm3697 (brightness : Nat) : Driver Unit :=
  if brightness = 0 then write lmEnable 0x00
  else do
    initLm3697
    write lmBrtLsb (brightness &&& 0xff)
    write lmBrtMsb ((brightness >>> 8) &&& 0x7)
    write lmEnable 0x03

/-- `ktd3136_update_status`, given the brightness. -/
def updateStatus (brightness : Nat) : Driver Unit := do
  let ic ← Session.get
  match ic with
  | .ktd3136 => setKtd brightness
  | .lm3697 => setLm3697 brightness

/-- `regmap_read` -/
def readReg (reg : Nat) : Driver Nat := do
  let val : Option Nat ← Session.request (Bus.read reg)
  match val with
  | none => Session.exit ()
  | some val => pure val

/-- `regmap_update_bits` that sets bits. -/
def setBits (reg bits : Nat) : Driver Unit := do
  let val ← readReg reg
  if val ||| bits = val then pure () else write reg (val ||| bits)

/-- `ktd3136_init_ktd` -/
def initKtd : Driver Unit := do
  write regPwm pwmDisable
  setBits regControl ctrlLinear
  write regMode modeOn
  let _ ← Session.attempt (readReg regMode)
  pure ()

/-- `ktd3136_probe`, given the brightness of the device tree. -/
def probe (default : Option Nat) : Driver Unit := do
  let id ← readReg regId
  if id = ktdId then do
    Session.modify fun _ => .ktd3136
    initKtd
  else do
    Session.modify fun _ => .lm3697
    initLm3697
  let _ ← Session.attempt (updateStatus (min (default.getD defaultBrightness) maxBrightness))
  pure ()

/-- The brightness is set again and again, whether that goes well or not. -/
def serve : List Nat → Driver Unit
  | [] => pure ()
  | brightness :: rest => do
      let _ ← Session.attempt (updateStatus brightness)
      serve rest

/-! ## The chip -/

/-- The registers of a chip that make the light: one that switches it on, one that holds the first
half of the brightness, and one with the second half, a write of which takes both. -/
structure Registers where
  enable : Nat
  hold : Nat
  latch : Nat
  on : Nat → Bool
  join : Nat → Nat → Nat

/-- What is documented of a chip: where its registers are, what switches it on and off, and which
bits of the brightness the halves are. -/
structure Registers.Documented (r : Registers) (enable hold latch on off : Nat) : Prop where
  enable : r.enable = enable
  hold : r.hold = hold
  latch : r.latch = latch
  on : r.on on = true
  off : r.on off = false
  join : ∀ high low, r.join high low = high % 256 * 8 + low % 8

/-- What is documented of the two chips. The LM3697 has the bits 2:0 in 0x22 and the bits 10:3 in
0x23. -/
structure Documented (chips : Ic → Registers) : Prop where
  ktd : (chips .ktd3136).Documented regMode regRatioLsb regRatioMsb modeOn modeOff
  lm : (chips .lm3697).Documented lmEnable 0x22 0x23 0x03 0x00

/-- What a chip keeps: whether it is on, the first half of a brightness, and the brightness that it
has taken. -/
structure Chip where
  enable : Nat
  held : Nat
  code : Nat

/-- The chip takes a write. -/
def Chip.write (chip : Chip) (r : Registers) (reg val : Nat) : Chip :=
  if reg = r.enable then { chip with enable := val }
  else if reg = r.hold then { chip with held := val }
  else if reg = r.latch then { chip with code := r.join val chip.held }
  else chip

/-- The chip after the writes that it has taken. -/
def Chip.after (chip : Chip) (r : Registers) : BusLog → Chip
  | [] => chip
  | ⟨.write reg val, written⟩ :: earlier =>
      let written : Written := written
      if written.taken then (chip.after r earlier).write r reg val else chip.after r earlier
  | ⟨.read _, _⟩ :: earlier => chip.after r earlier

/-- The brightness of the light. -/
def Chip.shown (chip : Chip) (r : Registers) : Nat := if r.on chip.enable then chip.code else 0

/-! ## What the chips show -/

/-- What an LM3697 makes of a brightness: its low byte becomes the upper bits, and the lower ones
are those that the chip has held. -/
def mixed (brightness held : Nat) : Nat := brightness % 256 * 8 + held % 8

/-- What an LM3697 may hold: what it held at first, or the upper bits of a brightness. -/
def heldOf (start : Chip) (asked : List Nat) : List Nat := start.held :: asked.map (· / 256)

/-- The brightness that a chip may have taken when these have been asked for: on a KTD3136 one of
them or the one that it had. -/
def Sound (ic : Ic) (start : Chip) (asked : List Nat) (chip : Chip) : Prop :=
  match ic with
  | .ktd3136 => chip.code ∈ start.code :: asked
  | .lm3697 => chip.held ∈ heldOf start asked ∧
      (chip.code = start.code ∨ ∃ b ∈ asked, ∃ held ∈ heldOf start asked, chip.code = mixed b held)

/-- What the light shows when a brightness has been set after others had been asked for. -/
def Shows (ic : Ic) (start : Chip) (asked : List Nat) (brightness shown : Nat) : Prop :=
  match ic with
  | .ktd3136 => shown = brightness
  | .lm3697 =>
      if brightness = 0 then shown = 0 else ∃ held ∈ heldOf start asked, shown = mixed brightness held

/-- When an LM3697 shows the brightness that it is given. -/
theorem mixed_eq_iff {brightness held : Nat} :
    mixed brightness held = brightness ↔
      7 * (brightness % 256) + held % 8 = 256 * (brightness / 256) := by
  unfold mixed
  omega

/-- An LM3697 shows neither a brightness up to 255 nor the default one. -/
theorem mixed_ne {brightness : Nat} (held : Nat) (lit : brightness ≠ 0)
    (few : brightness < 256 ∨ brightness = defaultBrightness) : mixed brightness held ≠ brightness := by
  rw [ne_eq, mixed_eq_iff]
  rcases few with small | rfl
  · rw [Nat.mod_eq_of_lt small, Nat.div_eq_of_lt small]
    omega
  · unfold defaultBrightness
    omega

/-- What an LM3697 may hold grows with what is asked for. -/
theorem heldOf_mono (start : Chip) {asked more : List Nat} (subset : asked ⊆ more) :
    heldOf start asked ⊆ heldOf start more :=
  List.cons_subset_cons start.held (List.map_subset _ subset)

/-- A brightness that is sound stays so when more is asked for. -/
theorem Sound.mono {ic : Ic} {start chip : Chip} {asked more : List Nat} (subset : asked ⊆ more)
    (sound : Sound ic start asked chip) : Sound ic start more chip := by
  cases ic with
  | ktd3136 => exact List.cons_subset_cons start.code subset sound
  | lm3697 =>
      refine ⟨heldOf_mono start subset sound.1, sound.2.imp_right ?_⟩
      rintro ⟨b, member, held, known, made⟩
      exact ⟨b, subset member, held, heldOf_mono start subset known, made⟩

/-! ## Halves -/

/-- The halves of a brightness that the driver writes. -/
theorem halves {brightness : Nat} (small : brightness ≤ maxBrightness) :
    brightness &&& 0x7 = brightness % 8 ∧ (brightness >>> 3) &&& 0xff = brightness / 8 ∧
      brightness &&& 0xff = brightness % 256 ∧ (brightness >>> 8) &&& 0x7 = brightness / 256 := by
  have below : brightness < 2048 := Nat.lt_succ_of_le small
  refine ⟨Nat.and_two_pow_sub_one_eq_mod brightness 3, ?_,
    Nat.and_two_pow_sub_one_eq_mod brightness 8, ?_⟩
  · rw [Nat.shiftRight_eq_div_pow]
    exact (Nat.and_two_pow_sub_one_eq_mod _ 8).trans (Nat.mod_eq_of_lt (by omega))
  · rw [Nat.shiftRight_eq_div_pow]
    exact (Nat.and_two_pow_sub_one_eq_mod _ 3).trans (Nat.mod_eq_of_lt (by omega))

/-! ## Writes -/

section Write

variable {r : Registers} {enable hold latch on off : Nat}

/-- What a write to a documented chip does, by its register. -/
theorem Chip.write_eq (documented : r.Documented enable hold latch on off) (chip : Chip)
    (reg val : Nat) : chip.write r reg val =
      if reg = enable then { chip with enable := val }
      else if reg = hold then { chip with held := val }
      else if reg = latch then { chip with code := val % 256 * 8 + chip.held % 8 }
      else chip := by
  simp only [Chip.write, documented.enable, documented.hold, documented.latch, documented.join]

/-- A write to a register that is none of the halves. -/
theorem Chip.write_other (documented : r.Documented enable hold latch on off) (chip : Chip)
    {reg : Nat} (val : Nat) (first : reg ≠ hold) (second : reg ≠ latch) :
    ∃ enable', chip.write r reg val = { chip with enable := enable' } := by
  rw [Chip.write_eq documented, if_neg first, if_neg second]
  split
  · exact ⟨val, rfl⟩
  · exact ⟨chip.enable, rfl⟩

/-- A chip that is on shows the brightness that it has taken. -/
theorem Chip.shown_on (documented : r.Documented enable hold latch on off) {chip : Chip}
    (lit : chip.enable = on) : chip.shown r = chip.code := by
  rw [Chip.shown, lit, if_pos documented.on]

/-- A chip that is off shows none. -/
theorem Chip.shown_off (documented : r.Documented enable hold latch on off) {chip : Chip}
    (dark : chip.enable = off) : chip.shown r = 0 := by
  rw [Chip.shown, dark, documented.off, if_neg Bool.false_ne_true]

end Write

/-- The chip that the driver has found is in a state like this. -/
def Holds (chips : Ic → Registers) (which : Ic) (start : Chip) (state : Chip → Prop) (ic : Ic)
    (log : BusLog) : Prop :=
  ic = which ∧ state (start.after (chips which) log)

section Rules

variable {chips : Ic → Registers} {which : Ic} {start : Chip} {P Q R : Chip → Prop}

/-- A write that fails may have been taken. -/
theorem write_ensures {reg val : Nat}
    (step : ∀ chip, P chip → Q (chip.write (chips which) reg val) ∧
      R (chip.write (chips which) reg val) ∧ R chip) :
    (write reg val).Ensures (Holds chips which start P) (fun _ => Holds chips which start Q)
      fun _ => Holds chips which start R := by
  refine .bind (fun written ic log => ic = which ∧ ∃ earlier,
    log = ⟨.write reg val, written⟩ :: earlier ∧ P (start.after (chips which) earlier)) ?_
    fun written => ?_
  · exact fun ic log holds written => ⟨holds.1, log, rfl, holds.2⟩
  refine .ite (fun failed => ?_) fun fine => ?_
  · refine .exit ?_
    rintro _ _ ⟨rfl, earlier, rfl, before⟩
    refine ⟨rfl, ?_⟩
    rw [Chip.after]
    split
    · exact (step _ before).2.1
    · exact (step _ before).2.2
  · refine .pure ?_
    rintro _ _ ⟨rfl, earlier, rfl, before⟩
    refine ⟨rfl, ?_⟩
    rw [Chip.after, if_pos (written.sound (Bool.eq_false_iff.mpr fine))]
    exact (step _ before).1

/-- A list of writes keeps what each of them keeps, wherever it stops. -/
theorem writeAll_ensures {writes : List (Nat × Nat)}
    (kept : ∀ write ∈ writes, ∀ chip, P chip → P (chip.write (chips which) write.1 write.2)) :
    (writeAll writes).Ensures (Holds chips which start P) (fun _ => Holds chips which start P)
      fun _ => Holds chips which start P := by
  induction writes with
  | nil => exact .pure fun _ _ holds => holds
  | cons first rest ih =>
      refine .bind _ (write_ensures fun chip before => ?_) fun _ =>
        ih fun write member => kept write (List.mem_cons_of_mem first member)
      have after := kept first List.mem_cons_self chip before
      exact ⟨after, after, before⟩

/-- Reading a register keeps everything. -/
theorem readReg_ensures (reg : Nat) :
    (readReg reg).Ensures (Holds chips which start P) (fun _ => Holds chips which start P)
      fun _ => Holds chips which start P := by
  refine .bind (fun _ => Holds chips which start P) (.request fun _ _ _ holds => holds) fun val => ?_
  cases val with
  | none => exact .exit fun _ _ holds => holds
  | some val => exact .pure fun _ _ holds => holds

/-! ## Switching on -/

/-- The condition does not depend on whether the chip is on. -/
def Stable (P : Chip → Prop) : Prop := ∀ chip enable, P chip → P { chip with enable }

/-- The start of an LM3697 writes neither half of a brightness. -/
theorem initLm3697_ensures (documented : Documented chips) (stable : Stable P) :
    initLm3697.Ensures (Holds chips .lm3697 start P) (fun _ => Holds chips .lm3697 start P)
      fun _ => Holds chips .lm3697 start P := by
  refine writeAll_ensures fun write member chip before => ?_
  have other : ∀ write ∈ lmInit, write.1 ≠ 0x22 ∧ write.1 ≠ 0x23 := by decide
  obtain ⟨enable, same⟩ := chip.write_other documented.lm write.2
    (other write member).1 (other write member).2
  rw [same]
  exact stable chip enable before

theorem initKtd_ensures (documented : Documented chips) (stable : Stable P) :
    initKtd.Ensures (Holds chips .ktd3136 start P) (fun _ => Holds chips .ktd3136 start P)
      fun _ => Holds chips .ktd3136 start P := by
  have other {reg val : Nat} (first : reg ≠ regRatioLsb) (second : reg ≠ regRatioMsb) :
      (write reg val).Ensures (Holds chips .ktd3136 start P)
        (fun _ => Holds chips .ktd3136 start P) fun _ => Holds chips .ktd3136 start P := by
    refine write_ensures fun chip before => ?_
    obtain ⟨enable, same⟩ := chip.write_other documented.ktd val first second
    rw [same]
    exact ⟨stable chip enable before, stable chip enable before, before⟩
  refine .bind _ (other (by decide) (by decide)) fun _ => .bind _ ?_ fun _ =>
    .bind _ (other (by decide) (by decide)) fun _ => .bind (fun _ => Holds chips .ktd3136 start _)
      (.attempt (readReg_ensures regMode)) fun _ => .pure fun _ _ holds => holds
  refine .bind _ (readReg_ensures regControl) fun val => .ite (fun _ => ?_) fun _ => ?_
  · exact .pure fun _ _ holds => holds
  · exact other (by decide) (by decide)

/-- Whether a brightness is sound does not depend on the switch. -/
theorem sound_stable (ic : Ic) (start : Chip) (asked : List Nat) : Stable (Sound ic start asked) := by
  intro chip enable sound
  cases ic with
  | ktd3136 => exact sound
  | lm3697 => exact sound

/-! ## Updates -/

variable {asked : List Nat} {brightness : Nat}

/-- The chip keeps a sound brightness and shows the one that has been set. -/
def Lit (chips : Ic → Registers) (ic : Ic) (start : Chip) (asked : List Nat) (brightness : Nat)
    (chip : Chip) : Prop :=
  Sound ic start (brightness :: asked) chip ∧
    Shows ic start asked brightness (chip.shown (chips ic))

/-- A KTD3136 takes the brightness with the second half. -/
theorem setKtd_ensures (documented : Documented chips) (small : brightness ≤ maxBrightness) :
    (setKtd brightness).Ensures (Holds chips .ktd3136 start (Sound .ktd3136 start asked))
      (fun _ => Holds chips .ktd3136 start (Lit chips .ktd3136 start asked brightness))
      fun _ => Holds chips .ktd3136 start (Sound .ktd3136 start (brightness :: asked)) := by
  have kept {chip : Chip} (before : Sound .ktd3136 start asked chip) :
      Sound .ktd3136 start (brightness :: asked) chip := before.mono (List.subset_cons_self _ _)
  have switched (chip : Chip) (val : Nat) : chip.write (chips .ktd3136) regMode val =
      { chip with enable := val } := chip.write_eq documented.ktd regMode val
  refine .ite (fun off => ?_) fun lit => ?_
  · refine write_ensures fun chip before => ?_
    rw [switched]
    refine ⟨⟨kept before, ?_⟩, kept before, kept before⟩
    exact (Chip.shown_off documented.ktd rfl).trans off.symm
  obtain ⟨low, high, -, -⟩ := halves small
  rw [low, high]
  refine .bind (fun _ => Holds chips .ktd3136 start fun chip =>
    Sound .ktd3136 start asked chip ∧ chip.enable = modeOn) (write_ensures ?_) fun _ =>
    .bind (fun _ => Holds chips .ktd3136 start fun chip => Sound .ktd3136 start asked chip ∧
      chip.enable = modeOn ∧ chip.held = brightness % 8)
    (write_ensures ?_) fun _ => write_ensures ?_
  · intro chip before
    rw [switched]
    exact ⟨⟨before, rfl⟩, kept before, kept before⟩
  · intro chip before
    rw [show chip.write (chips .ktd3136) regRatioLsb (brightness % 8) =
      { chip with held := brightness % 8 } from chip.write_eq documented.ktd _ _]
    exact ⟨⟨before.1, before.2, rfl⟩, kept before.1, kept before.1⟩
  · rintro chip ⟨before, on, held⟩
    have whole : brightness / 8 % 256 * 8 + chip.held % 8 = brightness := by
      unfold maxBrightness at small
      omega
    rw [show chip.write (chips .ktd3136) regRatioMsb (brightness / 8) =
      { chip with code := brightness / 8 % 256 * 8 + chip.held % 8 } from
        chip.write_eq documented.ktd _ _, whole]
    have taken : Sound .ktd3136 start (brightness :: asked) { chip with code := brightness } :=
      List.mem_cons_of_mem start.code List.mem_cons_self
    exact ⟨⟨taken, Chip.shown_on documented.ktd on⟩, taken, kept before⟩

/-- An LM3697 takes the brightness with the first half. -/
theorem setLm3697_ensures (documented : Documented chips) (small : brightness ≤ maxBrightness) :
    (setLm3697 brightness).Ensures (Holds chips .lm3697 start (Sound .lm3697 start asked))
      (fun _ => Holds chips .lm3697 start (Lit chips .lm3697 start asked brightness))
      fun _ => Holds chips .lm3697 start (Sound .lm3697 start (brightness :: asked)) := by
  have kept {chip : Chip} (before : Sound .lm3697 start asked chip) :
      Sound .lm3697 start (brightness :: asked) chip := before.mono (List.subset_cons_self _ _)
  have switched (chip : Chip) (val : Nat) : chip.write (chips .lm3697) lmEnable val =
      { chip with enable := val } := chip.write_eq documented.lm lmEnable val
  refine .ite (fun off => ?_) fun lit => ?_
  · refine write_ensures fun chip before => ?_
    rw [switched]
    refine ⟨⟨kept before, ?_⟩, kept before, kept before⟩
    rw [Shows, if_pos off]
    exact Chip.shown_off documented.lm rfl
  obtain ⟨-, -, byte, upper⟩ := halves small
  rw [byte, upper]
  -- The brightness has been taken with what the chip held before.
  let Taken (chip : Chip) : Prop := ∃ held ∈ heldOf start asked, chip.code = mixed brightness held
  have sound {chip : Chip} (held : chip.held ∈ heldOf start (brightness :: asked))
      (taken : Taken chip) : Sound .lm3697 start (brightness :: asked) chip := by
    obtain ⟨low, known, made⟩ := taken
    exact ⟨held, .inr ⟨brightness, List.mem_cons_self, low,
      heldOf_mono start (List.subset_cons_self _ _) known, made⟩⟩
  refine .bind _ ((initLm3697_ensures documented (sound_stable _ _ _)).early
    fun _ _ _ holds => ⟨holds.1, kept holds.2⟩) fun _ =>
    .bind (fun _ => Holds chips .lm3697 start fun chip =>
      chip.held ∈ heldOf start (brightness :: asked) ∧ Taken chip) (write_ensures ?_) fun _ =>
    .bind (fun _ => Holds chips .lm3697 start fun chip =>
      chip.held ∈ heldOf start (brightness :: asked) ∧ Taken chip) (write_ensures ?_) fun _ =>
    write_ensures ?_
  · intro chip before
    rw [show chip.write (chips .lm3697) lmBrtLsb (brightness % 256) =
      { chip with code := brightness % 256 % 256 * 8 + chip.held % 8 } from
        chip.write_eq documented.lm _ _, Nat.mod_mod]
    have held := (kept before).1
    have taken : Taken { chip with code := brightness % 256 * 8 + chip.held % 8 } :=
      ⟨chip.held, before.1, rfl⟩
    exact ⟨⟨held, taken⟩, sound held taken, kept before⟩
  · intro chip before
    rw [show chip.write (chips .lm3697) lmBrtMsb (brightness / 256) =
      { chip with held := brightness / 256 } from chip.write_eq documented.lm _ _]
    have held : brightness / 256 ∈ heldOf start (brightness :: asked) :=
      List.mem_cons_of_mem _ List.mem_cons_self
    exact ⟨⟨held, before.2⟩, sound held before.2, sound before.1 before.2⟩
  · intro chip before
    rw [switched]
    refine ⟨⟨sound before.1 before.2, ?_⟩, sound before.1 before.2, sound before.1 before.2⟩
    rw [Shows, if_neg lit, Chip.shown_on documented.lm rfl]
    exact before.2

/-- `ktd3136_update_status` shows what it has been given when it succeeds, on either chip. -/
theorem updateStatus_ensures (documented : Documented chips) (small : brightness ≤ maxBrightness) :
    (updateStatus brightness).Ensures (Holds chips which start (Sound which start asked))
      (fun _ => Holds chips which start (Lit chips which start asked brightness))
      fun _ => Holds chips which start (Sound which start (brightness :: asked)) := by
  refine .bind (fun ic ic' log => ic = which ∧
    Holds chips which start (Sound which start asked) ic' log)
    (.get fun ic log holds => ⟨holds.1, holds⟩) fun ic => .assume (fun _ _ => And.left) ?_
  rintro rfl
  cases ic with
  | ktd3136 => exact (setKtd_ensures documented small).before fun _ _ => And.right
  | lm3697 => exact (setLm3697_ensures documented small).before fun _ _ => And.right

/-- An update that fails leaves a brightness that is sound for one request more. -/
theorem attempt_ensures (documented : Documented chips) (small : brightness ≤ maxBrightness)
    {leave : Unit → Ic → BusLog → Prop} :
    (Session.attempt (updateStatus brightness)).Ensures
      (Holds chips which start (Sound which start asked))
      (fun result ic log => Holds chips which start (Sound which start (brightness :: asked)) ic log ∧
        (result = .ok () → Shows which start asked brightness
          ((start.after (chips which) log).shown (chips which)))) leave := by
  refine .attempt ((updateStatus_ensures documented small).mono (fun _ _ => id) ?_ ?_)
  · exact fun _ ic log holds => ⟨⟨holds.1, holds.2.1⟩, fun _ => holds.2.2⟩
  · exact fun _ ic log holds => ⟨holds, fun fine => by cases fine⟩

/-- **Many updates**, each of which may fail. -/
theorem serve_ensures (documented : Documented chips) (requests : List Nat)
    (small : ∀ b ∈ requests, b ≤ maxBrightness) {leave : Unit → Ic → BusLog → Prop} :
    (serve requests).Ensures (Holds chips which start (Sound which start asked))
      (fun _ => Holds chips which start (Sound which start (asked ++ requests))) leave := by
  induction requests generalizing asked with
  | nil => exact .pure fun _ _ holds => by rwa [List.append_nil]
  | cons first rest ih =>
      refine .bind _ (attempt_ensures documented (small first List.mem_cons_self)) fun _ => ?_
      refine (ih fun b member => small b (List.mem_cons_of_mem first member)).mono
        (fun _ _ => And.left) (fun _ _ _ holds => ⟨holds.1, holds.2.mono ?_⟩) fun _ _ _ => id
      intro b member
      simp only [List.cons_append, List.mem_cons, List.mem_append] at member ⊢
      tauto

/-! ## The probe -/

/-- The brightness that the probe sets. -/
def firstBrightness (default : Option Nat) : Nat := min (default.getD defaultBrightness) maxBrightness

/-- The chip has neither taken a brightness nor a half of one. -/
def Untouched (start chip : Chip) : Prop := chip.code = start.code ∧ chip.held = start.held

/-- A chip that has not been touched is sound. -/
theorem Untouched.sound {chip : Chip} (untouched : Untouched start chip) :
    Sound which start [] chip := by
  cases which with
  | ktd3136 => exact List.mem_singleton.mpr untouched.1
  | lm3697 => exact ⟨List.mem_cons.mpr (.inl untouched.2), .inl untouched.1⟩

/-- A probe that fails leaves the brightness as it is. -/
theorem probe_ensures (documented : Documented chips) (default : Option Nat) :
    (probe default).Ensures (fun _ log => log = [])
      (fun _ ic log => ∃ which,
        Holds chips which start (Sound which start [firstBrightness default]) ic log)
      fun _ ic log => Untouched start (start.after (chips ic) log) := by
  have stable : Stable (Untouched start) := fun _ _ untouched => untouched
  refine .bind (fun _ _ log => ∀ r, start.after r log = start) ?_ fun known => ?_
  · refine .bind (fun _ _ log => ∀ r, start.after r log = start) ?_ fun val => ?_
    · exact .request fun val _ log first r => by rw [first]; rfl
    · cases val with
      | none => exact .exit fun _ _ same => by rw [same]; exact ⟨rfl, rfl⟩
      | some val => exact .pure fun _ _ same => same
  have rest {which : Ic} : Session.Ensures (Holds chips which start (Untouched start))
      (do
        let _ ← Session.attempt (updateStatus (min (default.getD defaultBrightness) maxBrightness))
        pure ())
      (fun _ ic log => ∃ which,
        Holds chips which start (Sound which start [firstBrightness default]) ic log)
      fun _ ic log => Untouched start (start.after (chips ic) log) :=
    .bind _ ((attempt_ensures documented (Nat.min_le_right _ _)).before
      fun _ _ holds => ⟨holds.1, holds.2.sound⟩) fun _ => .pure fun _ _ holds => ⟨which, holds.1⟩
  have found (which : Ic) : (Session.modify fun _ => which : Driver Unit).Ensures
      (fun _ log => ∀ r, start.after r log = start)
      (fun _ => Holds chips which start (Untouched start))
      fun _ ic log => Untouched start (start.after (chips ic) log) := by
    refine .modify fun _ log same => ⟨rfl, ?_⟩
    rw [same]
    exact ⟨rfl, rfl⟩
  have left {which : Ic} (_ : Unit) (ic : Ic) (log : BusLog)
      (holds : Holds chips which start (Untouched start) ic log) :
      Untouched start (start.after (chips ic) log) := by
    obtain ⟨rfl, untouched⟩ := holds
    exact untouched
  refine .ite (fun _ => ?_) fun _ => ?_
  · exact .bind _ (found .ktd3136) fun _ =>
      .bind _ ((initKtd_ensures documented stable).early left) fun _ => rest
  · exact .bind _ (found .lm3697) fun _ =>
      .bind _ ((initLm3697_ensures documented stable).early left) fun _ => rest

end Rules

/-- The driver from its probe on: the brightness is set again and again, and then once more. -/
def life (default : Option Nat) (requests : List Nat) (brightness : Nat) :
    Driver (Except Unit Unit) := do
  probe default
  serve requests
  Session.attempt (updateStatus brightness)

/-- The registers of the two chips as they are documented. -/
def datasheets : Ic → Registers
  | .ktd3136 => ⟨0x02, 0x04, 0x05, fun mode => mode.testBit 0,
      fun high low => high % 256 * 8 + low % 8⟩
  | .lm3697 => ⟨0x24, 0x22, 0x23, fun enable => enable ≠ 0,
      fun high low => high % 256 * 8 + low % 8⟩

/-- The datasheets say what is documented. -/
theorem datasheets_documented : Documented datasheets where
  ktd := ⟨rfl, rfl, rfl, by decide, by decide, fun _ _ => rfl⟩
  lm := ⟨rfl, rfl, rfl, by decide, by decide, fun _ _ => rfl⟩

/-- A bus on which the seventh write of a run fails although the chip takes it. -/
def flaky (writes : Nat) : (request : Bus) → Reply request × Nat
  | .write _ _ => (⟨writes = 6, true, fun _ => rfl⟩, writes + 1)
  | .read _ => (some ktdId, writes)

end Ginkgo.Ktd3136
