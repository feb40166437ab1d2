import Ginkgo.Calls.Session
import Mathlib.Tactic.Linarith
import Mathlib.Algebra.Order.Ring.Int

/-!
# The battery gauge

`qcom-pmi632-qg.c` reads voltage, current and charge of the battery from the registers of the gauge.
An access may fail, and what a register holds is arbitrary. The current comes from the first of four
sources that has a valid sample; for the third one the gauge holds its average while it is read, and
is let go afterwards.
-/

namespace Ginkgo.Battery

open Calls

/-! ## Registers -/

/-- Registers by their offset: one byte, two bytes, and the change of some bits. -/
inductive Access where
  | read8 (off : Nat)
  | read16 (off : Nat)
  | update (off mask val : Nat)
  deriving DecidableEq

/-- The error of a failed access, and whether the gauge has made the change. -/
structure Changed where
  error : Option Nat
  made : Bool
  sound : error = none → made = true

/-- What an access gets: an error or the value, or what has become of a change. -/
abbrev Reply : Access → Type
  | .read8 _ => Except Nat UInt8
  | .read16 _ => Except Nat (UInt8 × UInt8)
  | .update _ _ _ => Changed

/-- The accesses of a run and their answers, the last one first. -/
abbrev GaugeLog := Log Access Reply

/-- A function of the driver, which keeps `i_lsb_ua` and fails with an error. -/
abbrev Driver := Session Int Nat Access Reply

/-- `QG_STATUS1` -/
def status1 : Nat := 0x08

/-- `QG_STATUS3` -/
def status3 : Nat := 0x0A

/-- `QG_DATA_CTL2` -/
def dataCtl2 : Nat := 0x42

/-- `QG_S2_AVG_V` -/
def s2AvgV : Nat := 0x80

/-- `QG_S2_AVG_I` -/
def s2AvgI : Nat := 0x82

/-- `QG_I_FIFO0` -/
def iFifo0 : Nat := 0xA0

/-- `QG_SOC_MONOTONIC` -/
def socMonotonic : Nat := 0xBF

/-- `QG_LAST_ADC_V` -/
def lastAdcV : Nat := 0xC0

/-- `QG_LAST_ADC_I` -/
def lastAdcI : Nat := 0xC2

/-- `QG_LAST_BURST_AVG_I` -/
def lastBurstAvgI : Nat := 0xC6

/-- `QG_BURST_AVG_HOLD` -/
def burstAvgHold : Nat := 1

/-- `QG_FIFO_MAX` -/
def fifoMax : Nat := 8

/-- `QG_V_LSB_UV` -/
def vLsbUv : Int := 194637

/-- `QG_I_LSB_5A_UA` -/
def iLsb5aUa : Int := 152588

/-- `QG_I_LSB_10A_UA` -/
def iLsb10aUa : Int := 305176

/-- `VBAT_MIN_UV` -/
def vbatMinUv : Int := 3400000

/-- `VBAT_MAX_UV` -/
def vbatMaxUv : Int := 4350000

/-- An access that has failed ends the function. -/
def orError {α : Type} : Except Nat α → Driver α
  | .ok value => pure value
  | .error ret => Session.exit ret

/-- `qg_read8` -/
def read8 (off : Nat) : Driver UInt8 := do
  let val : Except Nat UInt8 ← Session.request (Access.read8 off)
  orError val

/-- The word of two bytes, the low one first. -/
def word (buf : UInt8 × UInt8) : UInt16 := buf.1.toUInt16 ||| (buf.2.toUInt16 <<< 8)

/-- `qg_read16` -/
def read16 (off : Nat) : Driver UInt16 := do
  let buf : Except Nat (UInt8 × UInt8) ← Session.request (Access.read16 off)
  let buf ← orError buf
  pure (word buf)

/-- `regmap_update_bits`, whose error is not looked at. -/
def updateBits (off mask val : Nat) : Driver Unit := do
  let _ ← Session.request (Access.update off mask val)
  pure ()

/-! ## Values -/

/-- A number that is cut to an `int`. -/
def toInt (value : Int) : Int := value.bmod (2 ^ 32)

/-- `qg_raw_to_ua` -/
def rawToUa (lsb : Int) (iraw : UInt16) : Int := toInt ((iraw.toInt16.toInt * lsb).tdiv 1000)

/-- `qg_iraw_ok` -/
def irawOk (iraw : UInt16) : Bool := iraw ≠ 0 ∧ iraw ≠ 0x8000

/-- `qg_capacity_from_v` -/
def capacityFromV (uv : Int) : Int :=
  let span := vbatMaxUv - vbatMinUv
  if uv ≤ vbatMinUv then 0
  else if vbatMaxUv ≤ uv then 100
  else
    let pct := toInt (((uv - vbatMinUv) * 100).tdiv span)
    if pct < 0 then 0 else if 100 < pct then 100 else pct

/-! ## The current -/

/-- The loop of `qg_read_fifo_i`, with the number of samples that are left, the index of the next
one, the sum and the number of valid samples. -/
def fifoLoop : Nat → Nat → Int → Nat → Driver (Int × Nat)
  | 0, _, acc, n => pure (acc, n)
  | left + 1, i, acc, n => do
      let iraw ← read16 (iFifo0 + i * 2)
      if !irawOk iraw then fifoLoop left (i + 1) acc n
      else do
        let lsb ← Session.get
        fifoLoop left (i + 1) (acc + rawToUa lsb iraw) (n + 1)

/-- `ENODATA` -/
def enodata : Nat := 61

/-- `EINVAL` -/
def einval : Nat := 22

/-- `qg_read_fifo_i` -/
def readFifoI : Driver Int := do
  let nfifo ← read8 status3
  let nfifo := (nfifo &&& 0x0f).toNat
  let nfifo := if fifoMax < nfifo then fifoMax else nfifo
  let nfifo := if nfifo = 0 then 1 else nfifo
  let (acc, n) ← fifoLoop nfifo 0 0 0
  if n = 0 then Session.exit enodata else pure (toInt (acc.tdiv n))

/-- A sample, when it can be read and is valid. -/
def valid (iraw : Except Nat UInt16) : Option UInt16 :=
  match iraw with
  | .ok iraw => if irawOk iraw then some iraw else none
  | .error _ => none

/-- The last part of `qg_read_ibat`: the last sample, and nothing when it is not valid. -/
def readLastI : Driver Int := do
  let iraw ← read16 lastAdcI
  if !irawOk iraw then pure 0
  else do
    let lsb ← Session.get
    pure (rawToUa lsb iraw)

/-- The part before it: the average of the last burst, which is held while it is read. -/
def readBurstI : Driver Int := do
  updateBits dataCtl2 burstAvgHold burstAvgHold
  let iraw ← Session.attempt (read16 lastBurstAvgI)
  updateBits dataCtl2 burstAvgHold 0
  match valid iraw with
  | some iraw => do
      let lsb ← Session.get
      pure (rawToUa lsb iraw)
  | none => readLastI

/-- `qg_read_ibat` -/
def readIbat : Driver Int := do
  let fifo ← Session.attempt readFifoI
  match fifo with
  | .ok ua => pure ua
  | .error _ => do
      let iraw ← Session.attempt (read16 s2AvgI)
      match valid iraw with
      | some iraw => do
          let lsb ← Session.get
          pure (rawToUa lsb iraw)
      | none => readBurstI

/-- The voltage of `qg_last_vi`: the last one, or the average when the last one is zero. -/
def readVraw : Driver UInt16 := do
  let vraw ← read16 lastAdcV
  if vraw &&& 0x7fff = 0 then read16 s2AvgV else pure vraw

/-- `qg_last_vi`: the voltage and the current. -/
def lastVi : Driver (Int × Int) := do
  let vraw ← readVraw
  let ua ← readIbat
  pure (toInt (((vraw &&& 0x7fff).toNat * vLsbUv).tdiv 1000), ua)

/-! ## Properties -/

/-- The properties that are asked for. -/
inductive Property where
  | present
  | status
  | capacity
  | voltageNow
  | currentNow
  | other
  deriving DecidableEq

/-- `POWER_SUPPLY_STATUS_*` -/
def charging : Int := 1

/-- `POWER_SUPPLY_STATUS_DISCHARGING` -/
def discharging : Int := 2

/-- `POWER_SUPPLY_STATUS_NOT_CHARGING` -/
def notCharging : Int := 3

/-- The status that a current stands for. -/
def statusOf (ua : Int) : Int :=
  if 50000 < ua then charging else if ua < -50000 then discharging else notCharging

/-- `qg_get_property` -/
def getProperty : Property → Driver Int
  | .present => do
      let st ← read8 status1
      pure (if st &&& 1 ≠ 0 ∨ st &&& 0x80 ≠ 0 then 1 else 0)
  | .other => Session.exit einval
  | .voltageNow => do
      let vi ← lastVi
      pure vi.1
  | .currentNow => do
      let vi ← lastVi
      pure vi.2
  | .capacity => do
      let vi ← lastVi
      let soc ← Session.attempt (read8 socMonotonic)
      match soc with
      | .ok soc => pure (if 0 < soc ∧ soc ≤ 100 then (soc.toNat : Int) else capacityFromV vi.1)
      | .error _ => pure (capacityFromV vi.1)
  | .status => do
      let vi ← lastVi
      pure (statusOf vi.2)

/-- `i_lsb_ua` -/
def lsbOf : Except Nat UInt8 → Int
  | .ok type => if type = 0x04 then iLsb10aUa else iLsb5aUa
  | .error _ => iLsb5aUa

/-- `pmi632_qg_probe`, up to its registration. -/
def probe : Driver Unit := do
  let _ ← read8 0x04
  let type ← Session.attempt (read8 0x05)
  Session.modify fun _ => lsbOf type
  updateBits dataCtl2 burstAvgHold 0
  updateBits 0x41 1 0

/-! ## What a report should be -/

/-- What has been read from a register of two bytes. -/
def wordOf (registers : Nat → Bool) : Exchange Access Reply → Option UInt16
  | ⟨.read16 off, buf⟩ =>
      let buf : Except Nat (UInt8 × UInt8) := buf
      if registers off then buf.toOption.map word else none
  | ⟨.read8 _, _⟩ => none
  | ⟨.update _ _ _, _⟩ => none

/-- What has been read from a register of one byte. -/
def byteOf (register : Nat) : Exchange Access Reply → Option UInt8
  | ⟨.read8 off, val⟩ =>
      let val : Except Nat UInt8 := val
      if off = register then val.toOption else none
  | ⟨.read16 _, _⟩ => none
  | ⟨.update _ _ _, _⟩ => none

/-- The words that have been read from some registers, the latest first. -/
def words (registers : Nat → Bool) (log : GaugeLog) : List UInt16 := log.filterMap (wordOf registers)

/-- The valid samples among them. -/
def samples (registers : Nat → Bool) (log : GaugeLog) : List UInt16 :=
  (words registers log).filter irawOk

/-- What has been read from a register of one byte, the latest first. -/
def bytes (register : Nat) (log : GaugeLog) : List UInt8 := log.filterMap (byteOf register)

/-- The registers of the queue. -/
def queueOff (off : Nat) : Bool := iFifo0 ≤ off ∧ off < iFifo0 + 2 * fifoMax

/-- A failed access to the queue or to the number of its samples. -/
def failsFifo : Exchange Access Reply → Bool
  | ⟨.read8 off, val⟩ =>
      let val : Except Nat UInt8 := val
      off = status3 && !val.isOk
  | ⟨.read16 off, buf⟩ =>
      let buf : Except Nat (UInt8 × UInt8) := buf
      queueOff off && !buf.isOk
  | ⟨.update _ _ _, _⟩ => false

/-- The queue has not been read whole. -/
def fifoFailed (log : GaugeLog) : Bool := log.any failsFifo

/-- A sample in microamperes. -/
def microamps (lsb : Int) (iraw : UInt16) : Int := (iraw.toInt16.toInt * lsb).tdiv 1000

/-- The mean of samples, cut to a whole number. -/
def mean (lsb : Int) (queue : List UInt16) : Int :=
  (queue.map (microamps lsb)).sum.tdiv queue.length

/-- The samples that count when the queue gives none, the first one before the others. -/
def spare (log : GaugeLog) : List UInt16 :=
  samples (· = s2AvgI) log ++ samples (· = lastBurstAvgI) log ++ samples (· = lastAdcI) log

/-- The current of a sample, and none when there is none. -/
def ampsOf (lsb : Int) : Option UInt16 → Int
  | some iraw => microamps lsb iraw
  | none => 0

/-- The current, from what has been read: the mean of the queue's valid samples when it has been read
whole and has one, otherwise the first valid sample of the other three registers, and zero when none
of them has one. -/
def currentOf (lsb : Int) (log : GaugeLog) : Int :=
  if fifoFailed log = false ∧ samples queueOff log ≠ [] then mean lsb (samples queueOff log)
  else ampsOf lsb (spare log).head?

/-- The fifteen bits of a voltage in microvolts. -/
def microvolts (vraw : UInt16) : Int := (vraw &&& 0x7fff).toNat * 194637 / 1000

/-- The voltage, from what has been read: the last one, or the average when the last one is zero. -/
def voltageOf (log : GaugeLog) : Int :=
  let last := (words (· = lastAdcV) log).headD 0
  if last &&& 0x7fff = 0 then microvolts ((words (· = s2AvgV) log).headD 0) else microvolts last

/-- The charge that a voltage between 3.4 and 4.35 volts stands for. -/
def percentOf (uv : Int) : Int := max 0 (min 100 ((uv - 3400000) * 100 / 950000))

/-- The charge, from what has been read: the gauge's own when it is a percentage. -/
def capacityOf (log : GaugeLog) : Int :=
  match (bytes socMonotonic log).head? with
  | some soc => if 0 < soc ∧ soc ≤ 100 then soc.toNat else percentOf (voltageOf log)
  | none => percentOf (voltageOf log)

/-- A report that is what the reads say, within its bounds. -/
def Sane (lsb : Int) (log : GaugeLog) (value : Int) : Property → Prop
  | .present => ∃ st, (bytes status1 log).head? = some st ∧
      value = if st &&& 1 ≠ 0 ∨ st &&& 0x80 ≠ 0 then 1 else 0
  | .status => value = statusOf (currentOf lsb log)
  | .capacity => value = capacityOf log ∧ 0 ≤ value ∧ value ≤ 100
  | .voltageNow => value = voltageOf log ∧ 0 ≤ value ∧ value ≤ 6377670
  | .currentNow => value = currentOf lsb log ∧ -10000007 ≤ value ∧ value ≤ 10000007
  | .other => False

/-! ## Bounds of the values -/

/-- A scale that the probe sets. -/
theorem lsbOf_scale (type : Except Nat UInt8) : 0 ≤ lsbOf type ∧ lsbOf type ≤ iLsb10aUa := by
  cases type with
  | error ret => exact (by decide : 0 ≤ iLsb5aUa ∧ iLsb5aUa ≤ iLsb10aUa)
  | ok type =>
      unfold lsbOf
      dsimp only
      split <;> decide

/-- A small number is not cut to an `int`. -/
theorem toInt_eq {value : Int} (small : value.natAbs < 2 ^ 31) : toInt value = value :=
  Int.bmod_eq_of_le (by omega) (by omega)

section Scale

variable {lsb : Int} (scale : 0 ≤ lsb ∧ lsb ≤ iLsb10aUa)

include scale

/-- A sample is ten amperes at most. -/
theorem natAbs_microamps_le (iraw : UInt16) : (microamps lsb iraw).natAbs ≤ 10000007 := by
  have low : -32768 ≤ iraw.toInt16.toInt := iraw.toInt16.le_toInt
  have high : iraw.toInt16.toInt < 32768 := iraw.toInt16.toInt_lt
  have sample : iraw.toInt16.toInt.natAbs ≤ 32768 := by omega
  have unit : lsb.natAbs ≤ 305176 := by
    have top := scale.2
    unfold iLsb10aUa at top
    omega
  rw [microamps, Int.natAbs_tdiv, Int.natAbs_mul]
  calc iraw.toInt16.toInt.natAbs * lsb.natAbs / 1000
      ≤ 32768 * 305176 / 1000 := Nat.div_le_div_right (Nat.mul_le_mul sample unit)
    _ = 10000007 := by decide

/-- No sample is cut. -/
theorem rawToUa_eq (iraw : UInt16) : rawToUa lsb iraw = microamps lsb iraw :=
  toInt_eq (Nat.lt_of_le_of_lt (natAbs_microamps_le scale iraw) (by decide))

end Scale

/-- A mean is between the bounds of what it is the mean of. -/
theorem mean_between {values : List Int} {low high : Int}
    (within : ∀ v ∈ values, low ≤ v ∧ v ≤ high) (some : values ≠ []) :
    low ≤ values.sum.tdiv values.length ∧ values.sum.tdiv values.length ≤ high := by
  have sum : values.length * low ≤ values.sum ∧ values.sum ≤ values.length * high := by
    clear some
    induction values with
    | nil => simp
    | cons v rest ih =>
        have first := within v List.mem_cons_self
        have others := ih fun w member => within w (List.mem_cons_of_mem v member)
        simp only [List.length_cons, List.sum_cons, Nat.cast_add, Nat.cast_one]
        constructor
        · linarith
        · linarith
  have positive : (0 : Int) < values.length := by
    exact_mod_cast List.length_pos_iff.mpr some
  constructor
  · calc low = (values.length * low).tdiv values.length := (Int.mul_tdiv_cancel_left _ positive.ne').symm
      _ ≤ values.sum.tdiv values.length := Int.tdiv_le_tdiv positive sum.1
  · calc values.sum.tdiv values.length ≤ (values.length * high).tdiv values.length :=
          Int.tdiv_le_tdiv positive sum.2
      _ = high := Int.mul_tdiv_cancel_left _ positive.ne'

theorem mean_within {lsb : Int} (scale : 0 ≤ lsb ∧ lsb ≤ iLsb10aUa) {queue : List UInt16}
    (some : queue ≠ []) : -10000007 ≤ mean lsb queue ∧ mean lsb queue ≤ 10000007 := by
  have between := @mean_between (queue.map (microamps lsb)) (-10000007) 10000007 ?_ ?_
  · rwa [List.length_map] at between
  · intro v member
    obtain ⟨iraw, -, rfl⟩ := List.mem_map.mp member
    have bound := natAbs_microamps_le scale iraw
    omega
  · exact fun none => some (List.map_eq_nil_iff.mp none)

/-- So is the current that is reported. -/
theorem currentOf_within {lsb : Int} (scale : 0 ≤ lsb ∧ lsb ≤ iLsb10aUa) (log : GaugeLog) :
    -10000007 ≤ currentOf lsb log ∧ currentOf lsb log ≤ 10000007 := by
  unfold currentOf
  split
  · next whole => exact mean_within scale whole.2
  · cases (spare log).head? with
    | some iraw =>
        have bound := natAbs_microamps_le scale iraw
        rw [ampsOf]
        omega
    | none => exact (by decide : (-10000007 : Int) ≤ 0 ∧ (0 : Int) ≤ 10000007)

/-- A voltage is positive and below 6.4 volts. -/
theorem microvolts_within (vraw : UInt16) : 0 ≤ microvolts vraw ∧ microvolts vraw ≤ 6377670 := by
  have masked : (vraw &&& 0x7fff).toNat ≤ 32767 := by
    rw [UInt16.toNat_and]
    exact Nat.and_le_right
  unfold microvolts
  omega

/-- So is the voltage that is reported. -/
theorem voltageOf_within (log : GaugeLog) : 0 ≤ voltageOf log ∧ voltageOf log ≤ 6377670 := by
  unfold voltageOf
  dsimp only
  split
  · exact microvolts_within _
  · exact microvolts_within _

/-- No voltage is cut. -/
theorem voltage_eq (vraw : UInt16) :
    toInt (((vraw &&& 0x7fff).toNat * vLsbUv).tdiv 1000) = microvolts vraw := by
  have within := microvolts_within vraw
  have value : (((vraw &&& 0x7fff).toNat : Int) * vLsbUv).tdiv 1000 = microvolts vraw :=
    Int.tdiv_eq_ediv_of_nonneg (Int.mul_nonneg (Int.natCast_nonneg _) (by decide))
  rw [value, toInt_eq (by omega)]

/-- `qg_capacity_from_v` cuts nothing. -/
theorem capacityFromV_eq (uv : Int) : capacityFromV uv = percentOf uv := by
  unfold capacityFromV percentOf vbatMinUv vbatMaxUv
  dsimp only
  by_cases low : uv ≤ 3400000
  · rw [if_pos low]
    omega
  by_cases high : 4350000 ≤ uv
  · rw [if_neg low, if_pos high]
    omega
  have ratio : ((uv - 3400000) * 100).tdiv (4350000 - 3400000) = (uv - 3400000) * 100 / 950000 :=
    Int.tdiv_eq_ediv_of_nonneg (by omega)
  rw [if_neg low, if_neg high, ratio, toInt_eq (by omega)]
  split_ifs <;> omega

/-- What a voltage stands for is a percentage. -/
theorem percentOf_within (uv : Int) : 0 ≤ percentOf uv ∧ percentOf uv ≤ 100 := by
  unfold percentOf
  omega

/-- What is reported is one. -/
theorem capacityOf_within (log : GaugeLog) : 0 ≤ capacityOf log ∧ capacityOf log ≤ 100 := by
  unfold capacityOf
  split
  · split
    · next soc _ percent =>
        have most : soc.toNat ≤ 100 := UInt8.le_iff_toNat_le.mp percent.2
        omega
    · exact percentOf_within _
  · exact percentOf_within _

/-! ## Reads -/

section Reads

variable (registers : Nat → Bool) (log : GaugeLog)

@[simp] theorem words_read8 (off : Nat) (val : Except Nat UInt8) :
    words registers (⟨.read8 off, val⟩ :: log) = words registers log := rfl

@[simp] theorem words_update (off mask val : Nat) (changed : Changed) :
    words registers (⟨.update off mask val, changed⟩ :: log) = words registers log := rfl

@[simp] theorem words_error (off ret : Nat) :
    words registers (⟨.read16 off, .error ret⟩ :: log) = words registers log := by
  unfold words
  rw [List.filterMap_cons]
  cases same : registers off <;> simp [wordOf, same, Except.toOption]

/-- A word that has been read is the latest of its registers. -/
theorem words_ok (off : Nat) (buf : UInt8 × UInt8) :
    words registers (⟨.read16 off, .ok buf⟩ :: log) =
      if registers off then word buf :: words registers log else words registers log := by
  unfold words
  rw [List.filterMap_cons]
  cases same : registers off <;> simp [wordOf, same, Except.toOption]

/-- A read of another register. -/
theorem words_other {registers : Nat → Bool} {off : Nat} (other : registers off = false)
    (buf : Except Nat (UInt8 × UInt8)) (log : GaugeLog) :
    words registers (⟨.read16 off, buf⟩ :: log) = words registers log := by
  cases buf with
  | error ret => exact words_error registers log off ret
  | ok buf => rw [words_ok, other, if_neg Bool.false_ne_true]

/-- A read of another register. -/
theorem bytes_other {register off : Nat} (other : off ≠ register) (val : Except Nat UInt8)
    (log : GaugeLog) : bytes register (⟨.read8 off, val⟩ :: log) = bytes register log :=
  List.filterMap_cons_none (if_neg other)

/-- The queue has failed when its last access or one before has. -/
theorem fifoFailed_cons (exchange : Exchange Access Reply) :
    fifoFailed (exchange :: log) = (failsFifo exchange || fifoFailed log) := rfl

end Reads

/-- The registers other than the queue's have not been read for the current. -/
structure Unused (log : GaugeLog) : Prop where
  average : samples (· = s2AvgI) log = []
  burst : samples (· = lastBurstAvgI) log = []
  last : samples (· = lastAdcI) log = []

/-- The queue has failed, or it has no valid sample. -/
def NoQueue (log : GaugeLog) : Prop := fifoFailed log = true ∨ samples queueOff log = []

/-- Without the queue the current is that of the first valid sample elsewhere. -/
theorem NoQueue.currentOf_eq {log : GaugeLog} (noQueue : NoQueue log) (lsb : Int) :
    currentOf lsb log = ampsOf lsb (spare log).head? := by
  rw [currentOf, if_neg]
  rintro ⟨whole, some⟩
  rcases noQueue with failed | empty
  · exact Bool.false_ne_true (whole.symm.trans failed)
  · exact some empty

/-! ## The current -/

section Rules

variable {lsb : Int} {log : GaugeLog}

/-- The queue has been read so far: the sum and the number of its valid samples. -/
structure Summed (lsb : Int) (log : GaugeLog) (acc : Int) (n : Nat) : Prop where
  sum : acc = ((samples queueOff log).map (rawToUa lsb)).sum
  count : n = (samples queueOff log).length
  whole : fifoFailed log = false
  unused : Unused log

/-- A register of the queue is none of the others. -/
theorem Unused.queue {off : Nat} (inside : queueOff off = true) (unused : Unused log)
    (buf : Except Nat (UInt8 × UInt8)) : Unused (⟨.read16 off, buf⟩ :: log) := by
  have bounds : 0xA0 ≤ off ∧ off < 0xA0 + 2 * 8 := of_decide_eq_true inside
  have other (register : Nat) (outside : register < 0xA0 ∨ 0xB0 ≤ register) :
      samples (· = register) (⟨.read16 off, buf⟩ :: log) = samples (· = register) log := by
    have differs : decide (off = register) = false := decide_eq_false (by omega)
    rw [samples, words_other differs, samples]
  exact ⟨(other _ (by decide)).trans unused.average, (other _ (by decide)).trans unused.burst,
    (other _ (by decide)).trans unused.last⟩

/-- What the loop reads next is one of the queue's. -/
theorem queueOff_next {left i : Nat} (inside : i + (left + 1) ≤ fifoMax) :
    queueOff (iFifo0 + i * 2) = true := by
  unfold fifoMax at inside
  exact decide_eq_true (show 0xA0 ≤ 0xA0 + i * 2 ∧ 0xA0 + i * 2 < 0xA0 + 2 * 8 by omega)

/-- The loop begins with no more than the queue has. -/
theorem fifoCount_le (count : Nat) :
    0 + (if (if fifoMax < count then fifoMax else count) = 0 then 1
      else if fifoMax < count then fifoMax else count) ≤ fifoMax := by
  unfold fifoMax
  split_ifs <;> omega

/-- **The loop over the queue** sums its valid samples, as long as no read fails. -/
theorem fifoLoop_ensures (left i : Nat) (acc : Int) (n : Nat) (inside : i + left ≤ fifoMax) :
    (fifoLoop left i acc n).Ensures (fun state log => state = lsb ∧ Summed lsb log acc n)
      (fun sum state log => state = lsb ∧ Summed lsb log sum.1 sum.2)
      fun _ state log => state = lsb ∧ NoQueue log ∧ Unused log := by
  induction left generalizing i acc n with
  | zero => exact .pure fun _ _ pre => pre
  | succ left ih =>
      have queue := queueOff_next inside
      refine .bind (fun iraw state log => state = lsb ∧ (irawOk iraw = true →
          Summed lsb log (acc + rawToUa lsb iraw) (n + 1)) ∧
        (irawOk iraw = false → Summed lsb log acc n)) ?_ fun iraw => .ite (fun bad => ?_) fun ok => ?_
      · rintro state log ⟨rfl, summed⟩ answer
        have unused := summed.unused.queue queue answer
        cases answer with
        | error ret =>
            refine ⟨rfl, .inl ?_, unused⟩
            rw [fifoFailed_cons]
            simp [failsFifo, queue, Except.isOk, Except.toBool]
        | ok buf =>
            have whole : fifoFailed (⟨.read16 (iFifo0 + i * 2), .ok buf⟩ :: log) = false := by
              rw [fifoFailed_cons, summed.whole]
              simp [failsFifo, Except.isOk, Except.toBool]
            have read : samples queueOff (⟨.read16 (iFifo0 + i * 2), .ok buf⟩ :: log) =
                if irawOk (word buf) then word buf :: samples queueOff log
                else samples queueOff log := by
              rw [samples, words_ok, if_pos queue, List.filter_cons, samples]
            refine ⟨rfl, fun ok => ⟨?_, ?_, whole, unused⟩, fun bad => ⟨?_, ?_, whole, unused⟩⟩
            · rw [read, if_pos ok, List.map_cons, List.sum_cons, summed.sum, Int.add_comm]
            · rw [read, if_pos ok, List.length_cons, summed.count]
            · rw [read, if_neg (by simp [bad]), summed.sum]
            · rw [read, if_neg (by simp [bad]), summed.count]
      · exact (ih (i + 1) acc n (by omega)).before fun _ _ pre => ⟨pre.1, pre.2.2 (by simpa using bad)⟩
      · refine .bind (fun seen state log => seen = lsb ∧ state = lsb ∧
          Summed lsb log (acc + rawToUa lsb iraw) (n + 1)) (.get ?_) fun seen =>
          .assume (fun _ _ => And.left) ?_
        · rintro state log ⟨rfl, good, -⟩
          exact ⟨rfl, rfl, good (by simpa using ok)⟩
        · rintro rfl
          exact (ih (i + 1) _ _ (by omega)).before fun _ _ => And.right

/-- Nothing has been read for the current. -/
structure Fresh (log : GaugeLog) : Prop where
  queue : samples queueOff log = []
  whole : fifoFailed log = false
  unused : Unused log

/-- **The queue gives the current, or counts for nothing.** -/
theorem readFifoI_ensures (scale : 0 ≤ lsb ∧ lsb ≤ iLsb10aUa) :
    readFifoI.Ensures (fun state log => state = lsb ∧ Fresh log)
      (fun ua state log => state = lsb ∧ ua = currentOf lsb log)
      fun _ state log => state = lsb ∧ NoQueue log ∧ Unused log := by
  refine .bind (fun _ state log => state = lsb ∧ Fresh log) ?_ fun val => ?_
  · rintro state log ⟨rfl, fresh⟩ answer
    cases answer with
    | ok val =>
        refine ⟨rfl, fresh.queue, ?_, ⟨fresh.unused.average, fresh.unused.burst, fresh.unused.last⟩⟩
        rw [fifoFailed_cons, fresh.whole]
        simp [failsFifo, Except.isOk, Except.toBool]
    | error ret =>
        refine ⟨rfl, .inl ?_, ⟨fresh.unused.average, fresh.unused.burst, fresh.unused.last⟩⟩
        rw [fifoFailed_cons]
        simp [failsFifo, Except.isOk, Except.toBool]
  refine .bind _ ((fifoLoop_ensures _ 0 0 0 (fifoCount_le _)).before ?_) fun sum => .ite (fun none => ?_) fun some => ?_
  · intro state log pre
    refine ⟨pre.1, ?_, ?_, pre.2.whole, pre.2.unused⟩
    · rw [pre.2.queue]
      rfl
    · rw [pre.2.queue]
      rfl
  · refine .exit fun state log pre => ⟨pre.1, .inr ?_, pre.2.unused⟩
    exact List.length_eq_zero_iff.mp (pre.2.count.symm.trans none)
  · refine .pure fun state log pre => ⟨pre.1, ?_⟩
    have taken : samples queueOff log ≠ [] := by
      intro empty
      rw [pre.2.count, empty] at some
      exact some rfl
    have value : sum.1.tdiv sum.2 = mean lsb (samples queueOff log) := by
      rw [pre.2.sum, pre.2.count, funext (rawToUa_eq scale)]
      rfl
    have bound := mean_within scale taken
    rw [currentOf, if_pos ⟨pre.2.whole, taken⟩, value, toInt_eq (by omega)]

/-- A valid sample that has been read is the latest of its registers. -/
theorem samples_ok (registers : Nat → Bool) (off : Nat) (buf : UInt8 × UInt8) :
    samples registers (⟨.read16 off, .ok buf⟩ :: log) =
      if registers off && irawOk (word buf) then word buf :: samples registers log
      else samples registers log := by
  rw [samples, words_ok]
  cases registers off with
  | true => rw [if_pos rfl, List.filter_cons, Bool.true_and, samples]
  | false => rw [if_neg Bool.false_ne_true, Bool.false_and, if_neg Bool.false_ne_true, samples]

/-- What a read outside of the queue leaves of it. -/
theorem NoQueue.other {off : Nat} (outside : queueOff off = false) (noQueue : NoQueue log)
    (buf : Except Nat (UInt8 × UInt8)) : NoQueue (⟨.read16 off, buf⟩ :: log) := by
  refine noQueue.imp (fun failed => ?_) fun empty => ?_
  · rw [fifoFailed_cons, failed, Bool.or_true]
  · rwa [samples, words_other outside]

/-- One of the registers that count when the queue gives nothing. -/
def SpareOff (off : Nat) : Prop := off = s2AvgI ∨ off = lastBurstAvgI ∨ off = lastAdcI

/-- The registers that count otherwise are not the queue's. -/
theorem SpareOff.outside {off : Nat} (spared : SpareOff off) : queueOff off = false := by
  rcases spared with rfl | rfl | rfl <;> decide

/-- A valid sample of one of them is the only one. -/
theorem spare_ok {off : Nat} (spared : SpareOff off) (unused : Unused log) {buf : UInt8 × UInt8}
    (ok : irawOk (word buf) = true) : spare (⟨.read16 off, .ok buf⟩ :: log) = [word buf] := by
  rw [spare, samples_ok, samples_ok, samples_ok, unused.average, unused.burst, unused.last, ok]
  rcases spared with rfl | rfl | rfl <;> rfl

/-- A sample that is not valid does not count. -/
theorem Unused.invalid {off : Nat} (unused : Unused log) {buf : UInt8 × UInt8}
    (bad : irawOk (word buf) = false) : Unused (⟨.read16 off, .ok buf⟩ :: log) := by
  have same (registers : Nat → Bool) :
      samples registers (⟨.read16 off, .ok buf⟩ :: log) = samples registers log := by
    rw [samples_ok, bad, Bool.and_false, if_neg Bool.false_ne_true]
  exact ⟨(same _).trans unused.average, (same _).trans unused.burst, (same _).trans unused.last⟩

/-- A read that has failed uses no register. -/
theorem Unused.error {off ret : Nat} (unused : Unused log) :
    Unused (⟨.read16 off, .error ret⟩ :: log) := by
  have same (registers : Nat → Bool) :
      samples registers (⟨.read16 off, .error ret⟩ :: log) = samples registers log :=
    congrArg (List.filter irawOk) (words_error registers log off ret)
  exact ⟨(same _).trans unused.average, (same _).trans unused.burst, (same _).trans unused.last⟩

section Scale

variable (scale : 0 ≤ lsb ∧ lsb ≤ iLsb10aUa)

include scale

/-- The current is that of a valid sample, when the ones before it have given none. -/
theorem currentOf_spare {off : Nat} (spared : SpareOff off) (noQueue : NoQueue log)
    (unused : Unused log) {buf : UInt8 × UInt8} (ok : irawOk (word buf) = true) :
    currentOf lsb (⟨.read16 off, .ok buf⟩ :: log) = rawToUa lsb (word buf) := by
  rw [(noQueue.other spared.outside (.ok buf)).currentOf_eq, spare_ok spared unused ok,
    rawToUa_eq scale]
  rfl

/-- The register after the queue, or the one after that. -/
theorem attempt_ensures {off : Nat} (spared : SpareOff off) {leave : Nat → Int → GaugeLog → Prop} :
    (Session.attempt (read16 off)).Ensures
      (fun state log => state = lsb ∧ NoQueue log ∧ Unused log)
      (fun iraw state log => state = lsb ∧ NoQueue log ∧
        (∀ sample, valid iraw = some sample → rawToUa lsb sample = currentOf lsb log) ∧
        (valid iraw = none → Unused log)) leave := by
  rintro state log ⟨rfl, noQueue, unused⟩ answer
  cases answer with
  | error ret =>
      refine ⟨rfl, noQueue.other spared.outside _, ?_, fun _ => unused.error⟩
      intro sample taken
      cases taken
  | ok buf =>
      refine ⟨rfl, noQueue.other spared.outside _, fun sample taken => ?_, fun none => ?_⟩
      · by_cases ok : irawOk (word buf) = true
        · have same : word buf = sample := by simpa [valid, ok] using taken
          rw [← same, currentOf_spare scale spared noQueue unused ok]
        · simp [valid, ok] at taken
      · by_cases ok : irawOk (word buf) = true
        · simp [valid, ok] at none
        · exact unused.invalid (by simpa using ok)

/-- A sample is given in the scale that the driver keeps. -/
theorem scaled_ensures {iraw : UInt16} {leave : Nat → Int → GaugeLog → Prop} :
    (do let lsb ← Session.get; pure (rawToUa lsb iraw) : Driver Int).Ensures
      (fun state log => state = lsb ∧ rawToUa lsb iraw = currentOf lsb log)
      (fun ua state log => state = lsb ∧ ua = currentOf lsb log) leave := by
  rintro state log ⟨rfl, same⟩
  exact ⟨rfl, same⟩

/-- The last sample gives the current when nothing else has. -/
theorem readLastI_ensures :
    readLastI.Ensures (fun state log => state = lsb ∧ NoQueue log ∧ Unused log)
      (fun ua state log => state = lsb ∧ ua = currentOf lsb log) fun _ state _ => state = lsb := by
  have spared : SpareOff lastAdcI := .inr (.inr rfl)
  refine .bind (fun iraw state log => state = lsb ∧
    (irawOk iraw = true → rawToUa lsb iraw = currentOf lsb log) ∧
    (irawOk iraw = false → currentOf lsb log = 0)) ?_ fun iraw => .ite (fun bad => ?_) fun ok => ?_
  · rintro state log ⟨rfl, noQueue, unused⟩ answer
    cases answer with
    | error ret => rfl
    | ok buf =>
        refine ⟨rfl, fun ok => (currentOf_spare scale spared noQueue unused ok).symm, fun bad => ?_⟩
        have none : Unused (⟨.read16 lastAdcI, .ok buf⟩ :: log) := unused.invalid bad
        rw [(noQueue.other spared.outside (.ok buf)).currentOf_eq, spare, none.average, none.burst,
          none.last]
        rfl
  · exact .pure fun state log pre => ⟨pre.1, (pre.2.2 (by simpa using bad)).symm⟩
  · exact (scaled_ensures scale).before fun _ _ pre => ⟨pre.1, pre.2.1 (by simpa using ok)⟩

/-- So does the burst, or the last sample after it. -/
theorem readBurstI_ensures :
    readBurstI.Ensures (fun state log => state = lsb ∧ NoQueue log ∧ Unused log)
      (fun ua state log => state = lsb ∧ ua = currentOf lsb log) fun _ state _ => state = lsb := by
  refine .bind (fun _ state log => state = lsb ∧ NoQueue log ∧ Unused log) ?_ fun _ =>
    .bind _ (attempt_ensures scale (.inr (.inl rfl))) fun iraw => .bind (fun _ state log =>
      state = lsb ∧ NoQueue log ∧
        (∀ sample, valid iraw = some sample → rawToUa lsb sample = currentOf lsb log) ∧
        (valid iraw = none → Unused log)) ?_ fun _ => ?_
  · rintro state log ⟨rfl, noQueue, unused⟩ changed
    exact ⟨rfl, noQueue, unused.average, unused.burst, unused.last⟩
  · rintro state log ⟨rfl, noQueue, good, bad⟩ changed
    exact ⟨rfl, noQueue, good, fun none => ⟨(bad none).average, (bad none).burst, (bad none).last⟩⟩
  · cases valid iraw with
    | some sample => exact (scaled_ensures scale).before fun _ _ pre => ⟨pre.1, pre.2.2.1 sample rfl⟩
    | none => exact (readLastI_ensures scale).before fun _ _ pre => ⟨pre.1, pre.2.1, pre.2.2.2 rfl⟩

/-- The current is the one that the reads say. -/
theorem readIbat_ensures :
    readIbat.Ensures (fun state log => state = lsb ∧ Fresh log)
      (fun ua state log => state = lsb ∧ ua = currentOf lsb log) fun _ state _ => state = lsb := by
  refine .bind (fun fifo state log => state = lsb ∧ (∀ ua, fifo = .ok ua → ua = currentOf lsb log) ∧
    (∀ ret, fifo = .error ret → NoQueue log ∧ Unused log))
    (.attempt ((readFifoI_ensures scale).mono (fun _ _ => id) ?_ ?_)) fun fifo => ?_
  · rintro ua state log ⟨rfl, same⟩
    refine ⟨rfl, fun ua' found => Except.ok.inj found ▸ same, nofun⟩
  · exact fun ret state log pre => ⟨pre.1, nofun, fun _ _ => pre.2⟩
  cases fifo with
  | ok ua => exact .pure fun _ _ pre => ⟨pre.1, pre.2.1 ua rfl⟩
  | error ret =>
      refine .bind _ ((attempt_ensures scale (.inl rfl)).before
        fun _ _ pre => ⟨pre.1, pre.2.2 ret rfl⟩) fun iraw => ?_
      cases valid iraw with
      | some sample => exact (scaled_ensures scale).before fun _ _ pre => ⟨pre.1, pre.2.2.1 sample rfl⟩
      | none => exact (readBurstI_ensures scale).before fun _ _ pre => ⟨pre.1, pre.2.1, pre.2.2.2 rfl⟩

end Scale

/-! ## What the current leaves alone -/

/-- An access that is made for the current. -/
def ForCurrent : Access → Prop
  | .read8 off => off = status3
  | .read16 off => queueOff off = true ∨ SpareOff off
  | .update _ _ _ => True

section Keeps

variable {fact : GaugeLog → Prop}
  (stable : ∀ exchange log, ForCurrent exchange.request → fact log → fact (exchange :: log))

include stable

/-- Reading a register for the current keeps what such reads keep. -/
theorem read16_keeps {off : Nat} (asked : ForCurrent (.read16 off)) :
    (read16 off).Keeps fun _ => fact := by
  intro state log known answer
  have after : fact (⟨.read16 off, answer⟩ :: log) := stable ⟨.read16 off, answer⟩ log asked known
  cases answer with
  | ok buf => exact after
  | error ret => exact after

/-- So does the loop over the queue. -/
theorem fifoLoop_keeps (left i : Nat) (acc : Int) (n : Nat) (inside : i + left ≤ fifoMax) :
    (fifoLoop left i acc n).Keeps fun _ => fact := by
  induction left generalizing i acc n with
  | zero => exact .pure fun _ _ known => known
  | succ left ih =>
      have queue := queueOff_next inside
      refine .bind _ (read16_keeps stable (.inl queue)) fun iraw =>
        .ite (fun _ => ih _ _ _ (by omega)) fun _ => ?_
      exact .bind (fun _ _ => fact) (.get fun _ _ known => known) fun _ => ih _ _ _ (by omega)

/-- What the accesses for the current keep is kept. -/
theorem readIbat_keeps : readIbat.Keeps fun _ => fact := by
  have update (mask val : Nat) : (updateBits dataCtl2 mask val).Keeps fun _ => fact :=
    fun _ log known changed => stable ⟨.update dataCtl2 mask val, changed⟩ log trivial known
  have scaled (iraw : UInt16) :
      (do let lsb ← Session.get; pure (rawToUa lsb iraw) : Driver Int).Keeps fun _ => fact :=
    fun _ _ known => known
  have last : readLastI.Keeps fun _ => fact :=
    .bind _ (read16_keeps stable (.inr (.inr (.inr rfl)))) fun iraw =>
      .ite (fun _ => .pure fun _ _ known => known) fun _ => scaled iraw
  have burst : readBurstI.Keeps fun _ => fact := by
    refine .bind _ (update _ _) fun _ => .bind (fun _ _ => fact)
      (.attempt (read16_keeps stable (.inr (.inr (.inl rfl))))) fun iraw =>
      .bind _ (update _ _) fun _ => ?_
    cases valid iraw with
    | some sample => exact scaled sample
    | none => exact last
  have queue : readFifoI.Keeps fun _ => fact := by
    refine .bind (fun _ _ => fact) ?_ fun val => ?_
    · intro state log known answer
      have after := stable ⟨.read8 status3, answer⟩ log rfl known
      cases answer with
      | ok val => exact after
      | error ret => exact after
    exact .bind _ (fifoLoop_keeps stable _ 0 0 0 (fifoCount_le _)) fun sum =>
      .ite (fun _ => .exit fun _ _ known => known) fun _ => .pure fun _ _ known => known
  refine .bind (fun _ _ => fact) (.attempt queue) fun fifo => ?_
  cases fifo with
  | ok ua => exact .pure fun _ _ known => known
  | error ret =>
      refine .bind (fun _ _ => fact) (.attempt (read16_keeps stable (.inr (.inl rfl)))) fun iraw => ?_
      cases valid iraw with
      | some sample => exact scaled sample
      | none => exact burst

end Keeps

/-! ## The reports -/

/-- The accesses for the current read no voltage. -/
theorem voltageOf_other {exchange : Exchange Access Reply} (asked : ForCurrent exchange.request) :
    voltageOf (exchange :: log) = voltageOf log := by
  obtain ⟨request, answer⟩ := exchange
  cases request with
  | read8 off => rfl
  | update off mask val => rfl
  | read16 off =>
      have differs {register : Nat} (inside : register = lastAdcV ∨ register = s2AvgV) :
          decide (off = register) = false := by
        refine decide_eq_false ?_
        rintro rfl
        have asked : queueOff off = true ∨ off = s2AvgI ∨ off = lastBurstAvgI ∨ off = lastAdcI :=
          asked
        rcases inside with rfl | rfl <;> revert asked <;> decide
      rw [voltageOf, words_other (differs (.inl rfl)), words_other (differs (.inr rfl)), voltageOf]

/-- The voltage is the one that the reads say. -/
theorem readVraw_ensures :
    readVraw.Ensures (fun state log => state = lsb ∧ log = [])
      (fun vraw state log => state = lsb ∧ Fresh log ∧ microvolts vraw = voltageOf log ∧
        bytes socMonotonic log = []) fun _ state _ => state = lsb := by
  refine .bind (fun vraw state log => state = lsb ∧
    ∃ buf, vraw = word buf ∧ log = [⟨.read16 lastAdcV, .ok buf⟩]) ?_ fun vraw =>
    .ite (fun zero => ?_) fun some => ?_
  · rintro state log ⟨rfl, rfl⟩ answer
    cases answer with
    | error ret => rfl
    | ok buf => exact ⟨rfl, buf, rfl, rfl⟩
  · rintro state log ⟨rfl, buf, rfl, rfl⟩ answer
    cases answer with
    | error ret => rfl
    | ok buf' =>
        refine ⟨rfl, ⟨rfl, rfl, rfl, rfl, rfl⟩, ?_, rfl⟩
        exact (if_pos zero).symm
  · refine .pure ?_
    rintro state log ⟨rfl, buf, rfl, rfl⟩
    exact ⟨rfl, ⟨rfl, rfl, rfl, rfl, rfl⟩, (if_neg some).symm, rfl⟩

/-- So are the voltage and the current together. -/
theorem lastVi_ensures (scale : 0 ≤ lsb ∧ lsb ≤ iLsb10aUa) :
    lastVi.Ensures (fun state log => state = lsb ∧ log = [])
      (fun vi state log => (state = lsb ∧ vi.2 = currentOf lsb log) ∧ vi.1 = voltageOf log ∧
        bytes socMonotonic log = []) fun _ state _ => state = lsb := by
  refine .bind _ readVraw_ensures fun vraw => .bind (fun ua state log =>
    (state = lsb ∧ ua = currentOf lsb log) ∧ microvolts vraw = voltageOf log ∧
      bytes socMonotonic log = []) ?_ fun ua => .pure fun state log pre => ?_
  · refine ((readIbat_ensures scale).and (@readIbat_keeps (fun log =>
      microvolts vraw = voltageOf log ∧ bytes socMonotonic log = []) ?_)).mono ?_
      (fun _ _ _ => id) fun _ _ _ => And.left
    · rintro ⟨request, answer⟩ log asked ⟨voltage, charge⟩
      refine ⟨voltage.trans (voltageOf_other asked).symm, ?_⟩
      cases request with
      | read16 off => exact charge
      | update off mask val => exact charge
      | read8 off =>
          have other : off ≠ socMonotonic := by
            rw [show off = status3 from asked]
            decide
          exact (bytes_other other answer log).trans charge
    · exact fun state log pre => ⟨⟨pre.1, pre.2.1⟩, pre.2.2⟩
  · refine ⟨⟨pre.1.1, pre.1.2⟩, ?_, pre.2.2⟩
    dsimp only
    exact (voltage_eq vraw).trans pre.2.1

/-- **Each property is what the reads say.** -/
theorem getProperty_ensures (scale : 0 ≤ lsb ∧ lsb ≤ iLsb10aUa) (psp : Property) :
    (getProperty psp).Ensures (fun state log => state = lsb ∧ log = [])
      (fun value state log => state = lsb ∧ Sane lsb log value psp) fun _ state _ => state = lsb := by
  cases psp with
  | present =>
      refine .bind (fun st state log => state = lsb ∧ (bytes status1 log).head? = some st) ?_
        fun st => .pure fun state log pre => ⟨pre.1, st, pre.2, rfl⟩
      rintro state log ⟨rfl, rfl⟩ answer
      cases answer with
      | ok st => exact ⟨rfl, rfl⟩
      | error ret => rfl
  | other => exact .exit fun _ _ pre => pre.1
  | voltageNow =>
      refine .bind _ (lastVi_ensures scale) fun vi => .pure fun _ log pre => ⟨pre.1.1, pre.2.1, ?_⟩
      rw [pre.2.1]
      exact voltageOf_within log
  | currentNow =>
      refine .bind _ (lastVi_ensures scale) fun vi => .pure fun _ log pre => ⟨pre.1.1, pre.1.2, ?_⟩
      rw [pre.1.2]
      exact currentOf_within scale log
  | status =>
      exact .bind _ (lastVi_ensures scale) fun vi => .pure fun _ _ pre =>
        ⟨pre.1.1, congrArg statusOf pre.1.2⟩
  | capacity =>
      refine .bind _ (lastVi_ensures scale) fun vi => .bind (fun soc state log => state = lsb ∧
        vi.1 = voltageOf log ∧ bytes socMonotonic log = soc.toOption.toList) ?_ fun soc => ?_
      · rintro state log ⟨⟨rfl, -⟩, voltage, none⟩ answer
        cases answer with
        | ok soc =>
            refine ⟨rfl, voltage, ?_⟩
            exact congrArg (soc :: ·) none
        | error ret => exact ⟨rfl, voltage, none⟩
      have sane {value : Int} {log : GaugeLog} (same : value = capacityOf log) :
          Sane lsb log value .capacity := ⟨same, same ▸ capacityOf_within log⟩
      cases soc with
      | error ret =>
          refine .pure fun _ log pre => ⟨pre.1, sane ?_⟩
          rw [capacityOf, pre.2.2, capacityFromV_eq, pre.2.1]
          rfl
      | ok soc =>
          refine .pure fun _ log pre => ⟨pre.1, sane ?_⟩
          rw [capacityOf, pre.2.2, capacityFromV_eq, pre.2.1]
          rfl

end Rules

/-- The scale that a probe leaves is the one of the subtype that it has read. -/
theorem probe_ensures : probe.Ensures (fun _ _ => True)
    (fun _ lsb log => ∃ type, (⟨.read8 0x05, type⟩ : Exchange Access Reply) ∈ log ∧
      lsb = lsbOf type) fun _ _ _ => True := by
  refine .bind (fun _ _ _ => True) ?_ fun _ => ?_
  · rintro state log - answer
    cases answer <;> trivial
  · rintro state log - answer
    have member (changed changed' : Changed) :
        (⟨.read8 0x05, answer⟩ : Exchange Access Reply) ∈
          (⟨.update 0x41 1 0, changed'⟩ :: ⟨.update dataCtl2 burstAvgHold 0, changed⟩ ::
            ⟨.read8 0x05, answer⟩ :: log : GaugeLog) :=
      List.mem_cons_of_mem _ (List.mem_cons_of_mem _ List.mem_cons_self)
    cases answer with
    | ok type => exact fun changed changed' => ⟨.ok type, member changed changed', rfl⟩
    | error ret => exact fun changed changed' => ⟨.error ret, member changed changed', rfl⟩

/-- **Every report is what the registers say.** Whatever they hold and whichever accesses fail, in
the scale that the probe has found: a charge is a percentage, the gauge's own or the one that the
voltage stands for; a voltage is the fifteen bits of the last or the average one; and a current is the
mean of the queue's valid samples, or the first valid sample of the other registers when the queue
cannot be read whole or has none, and zero only when none of them has one. -/
theorem reports_sane {psp : Property} {lsb₀ lsb lsb' : Int} {outcome : Except Nat Int}
    {probed log : GaugeLog} (probes : (probe lsb₀).Runs [] (.ok (), lsb) probed)
    (runs : (getProperty psp lsb).Runs [] (outcome, lsb') log) :
    (∃ type, (⟨.read8 0x05, type⟩ : Exchange Access Reply) ∈ probed ∧ lsb = lsbOf type) ∧
      lsb' = lsb ∧ ∀ value, outcome = .ok value → Sane lsb log value psp := by
  obtain ⟨type, read, same⟩ := probe_ensures.runs trivial probes
  refine ⟨⟨type, read, same⟩, ?_⟩
  have ends := Program.wp_iff_runs.mp
    (getProperty_ensures (same ▸ lsbOf_scale type) psp lsb [] ⟨rfl, rfl⟩) _ _ runs
  cases outcome with
  | ok value =>
      refine ⟨ends.1, fun value' found => ?_⟩
      rw [← Except.ok.inj found]
      exact ends.2
  | error ret => exact ⟨ends, nofun⟩

/-- A gauge whose samples are all 100, the first one of the queue excepted. -/
def queue : Nat → (request : Access) → Reply request × Nat
  | n, .read8 _ => (.ok 2, n)
  | n, .read16 off => (.ok (if off = iFifo0 then 0 else 100, 0), n)
  | n, .update _ _ _ => (⟨none, true, fun _ => rfl⟩, n)

/-- The current of a gauge that the probe finds. -/
theorem reports_sane_queue :
    (∃ type, (⟨.read8 0x05, type⟩ : Exchange Access Reply) ∈ ((probe 0).eval queue 0 []).2.1 ∧
        iLsb5aUa = lsbOf type) ∧
      iLsb5aUa = iLsb5aUa ∧ ∀ value, (.ok 15258 : Except Nat Int) = .ok value →
        Sane iLsb5aUa ((getProperty .currentNow iLsb5aUa).eval queue 0 []).2.1 value .currentNow :=
  @reports_sane .currentNow 0 iLsb5aUa iLsb5aUa (.ok 15258) _ _
    (Program.runs_eval queue (probe 0) 0 [])
    (Program.runs_eval queue (getProperty .currentNow iLsb5aUa) 0 [])

/-! ## The hold -/

/-- Whether the gauge holds its average, from the changes that it has made. -/
def held (start : Bool) : GaugeLog → Bool
  | [] => start
  | ⟨.update off mask val, changed⟩ :: earlier =>
      let changed : Changed := changed
      if changed.made ∧ off = dataCtl2 ∧ mask.testBit 0 then val.testBit 0 else held start earlier
  | ⟨.read8 _, _⟩ :: earlier => held start earlier
  | ⟨.read16 _, _⟩ :: earlier => held start earlier

/-- An attempt to let the gauge go has failed. -/
def Stuck (log : GaugeLog) : Prop :=
  ∃ changed : Changed, (⟨.update dataCtl2 burstAvgHold 0, changed⟩ : Exchange Access Reply) ∈ log ∧
    changed.error ≠ none

/-- The gauge holds its average only when it could not be let go. -/
def Free (start : Bool) (log : GaugeLog) : Prop := held start log = true → Stuck log

/-- An attempt that has failed stays so. -/
theorem Stuck.grow (stuck : Stuck log) (exchange : Exchange Access Reply) :
    Stuck (exchange :: log) := by
  obtain ⟨changed, member, failed⟩ := stuck
  exact ⟨changed, List.mem_cons_of_mem _ member, failed⟩

section Hold

variable {start : Bool}

/-- Reading a byte holds nothing. -/
theorem read8_free (off : Nat) : (read8 off).Keeps fun _ => Free start := by
  intro state log free answer
  have after : Free start (⟨.read8 off, answer⟩ :: log) := fun holds => (free holds).grow _
  cases answer with
  | ok val => exact after
  | error ret => exact after

theorem read16_free (off : Nat) : (read16 off).Keeps fun _ => Free start := by
  intro state log free answer
  have after : Free start (⟨.read16 off, answer⟩ :: log) := fun holds => (free holds).grow _
  cases answer with
  | ok buf => exact after
  | error ret => exact after

/-- The gauge is let go, or that fails. -/
theorem release_free {leave : Nat → Int → GaugeLog → Prop} :
    (updateBits dataCtl2 burstAvgHold 0).Ensures (fun _ _ => True) (fun _ _ => Free start) leave := by
  intro state log _ changed holds
  refine ⟨changed, List.mem_cons_self, fun fine => ?_⟩
  have let_go : held start (⟨.update dataCtl2 burstAvgHold 0, changed⟩ :: log) = false :=
    if_pos ⟨changed.sound fine, rfl, by decide⟩
  exact Bool.false_ne_true (let_go.symm.trans holds)

/-- Nor does the loop over the queue. -/
theorem fifoLoop_free (left i : Nat) (acc : Int) (n : Nat) :
    (fifoLoop left i acc n).Keeps fun _ => Free start := by
  induction left generalizing i acc n with
  | zero => exact .pure fun _ _ free => free
  | succ left ih =>
      refine .bind _ (read16_free _) fun iraw => .ite (fun _ => ih _ _ _) fun _ => ?_
      exact .bind (fun _ _ => Free start) (.get fun _ _ free => free) fun _ => ih _ _ _

theorem readFifoI_free : readFifoI.Keeps fun _ => Free start := by
  refine .bind _ (read8_free _) fun val => .bind _ (fifoLoop_free _ 0 0 0) fun sum =>
    .ite (fun _ => ?_) fun _ => ?_
  · exact .exit fun _ _ free => free
  · exact .pure fun _ _ free => free

theorem readLastI_free : readLastI.Keeps fun _ => Free start := by
  refine .bind _ (read16_free _) fun iraw => .ite (fun _ => .pure fun _ _ free => free) fun _ => ?_
  exact fun _ _ free => free

/-- The gauge holds its average only while it is read. -/
theorem readBurstI_free : readBurstI.Keeps fun _ => Free start := by
  refine .bind (fun _ _ _ => True) (fun _ _ _ _ => trivial) fun _ =>
    .bind (fun _ _ _ => True) ?_ fun iraw => .bind (fun _ _ => Free start) release_free fun _ => ?_
  · rintro state log - answer
    cases answer <;> trivial
  · cases valid iraw with
    | some sample => exact fun _ _ free => free
    | none => exact readLastI_free

/-- The current leaves the gauge free. -/
theorem readIbat_free : readIbat.Keeps fun _ => Free start := by
  refine .bind (fun _ _ => Free start) (.attempt readFifoI_free) fun fifo => ?_
  cases fifo with
  | ok ua => exact .pure fun _ _ free => free
  | error ret =>
      refine .bind (fun _ _ => Free start) (.attempt (read16_free _)) fun iraw => ?_
      cases valid iraw with
      | some sample => exact fun _ _ free => free
      | none => exact readBurstI_free

theorem lastVi_free : lastVi.Keeps fun _ => Free start := by
  refine .bind (fun _ _ => Free start) ?_ fun vraw => .bind _ readIbat_free fun ua =>
    .pure fun _ _ free => free
  exact .bind _ (read16_free _) fun _ => .ite (fun _ => read16_free _) fun _ =>
    .pure fun _ _ free => free

theorem getProperty_free (psp : Property) : (getProperty psp).Keeps fun _ => Free start := by
  cases psp with
  | present => exact .bind _ (read8_free _) fun st => .pure fun _ _ free => free
  | other => exact .exit fun _ _ free => free
  | voltageNow => exact .bind _ lastVi_free fun vi => .pure fun _ _ free => free
  | currentNow => exact .bind _ lastVi_free fun vi => .pure fun _ _ free => free
  | status => exact .bind _ lastVi_free fun vi => .pure fun _ _ free => free
  | capacity =>
      refine .bind _ lastVi_free fun vi => .bind (fun _ _ => Free start) (.attempt (read8_free _))
        fun soc => ?_
      cases soc with
      | ok soc => exact .pure fun _ _ free => free
      | error ret => exact .pure fun _ _ free => free

end Hold

/-- Properties are asked for again and again, whether that goes well or not. -/
def serve : List Property → Driver Unit
  | [] => pure ()
  | psp :: rest => do
      let _ ← Session.attempt (getProperty psp)
      serve rest

theorem serve_free {start : Bool} (requests : List Property) :
    (serve requests).Keeps fun _ => Free start := by
  induction requests with
  | nil => exact .pure fun _ _ free => free
  | cons psp rest ih =>
      exact .bind (fun _ _ => Free start) (.attempt (getProperty_free psp)) fun _ => ih

/-- The driver from its probe on. -/
def life (requests : List Property) : Driver Unit := do
  probe
  serve requests

/-- **The gauge is let go.** After any requests the gauge holds its average only when an attempt to
let it go has failed, also when an earlier kernel has left it held. -/
theorem hold_released {start : Bool} {requests : List Property} {lsb lsb' : Int} {log : GaugeLog}
    (runs : (life requests lsb).Runs [] (.ok (), lsb') log) (holds : held start log = true) :
    Stuck log := by
  have anyway (off : Nat) : (read8 off).Ensures (fun _ _ => True) (fun _ _ _ => True)
      fun _ _ _ => True := by
    rintro state log - answer
    cases answer <;> trivial
  have probed : probe.Ensures (fun _ _ => True) (fun _ _ => Free start) fun _ _ _ => True := by
    refine .bind _ (anyway 0x04) fun _ => .bind (fun _ _ _ => True) (.attempt (anyway 0x05)) fun type =>
      .bind (fun _ _ _ => True) (.modify fun _ _ _ => trivial) fun _ =>
      .bind (fun _ _ => Free start) release_free fun _ => ?_
    intro state log free changed holds
    have other : held start (⟨.update 0x41 1 0, changed⟩ :: log) = held start log :=
      if_neg fun made => absurd made.2.1 (by decide)
    exact (free (other ▸ holds)).grow _
  have ensures : (life requests).Ensures (fun _ _ => True) (fun _ _ => Free start)
      fun _ _ _ => True :=
    .bind _ probed fun _ => (serve_free requests).early fun _ _ _ _ => trivial
  exact ensures.runs trivial runs holds

/-- A gauge that has no valid sample and cannot be let go. -/
def jammed : Nat → (request : Access) → Reply request × Nat
  | n, .read8 _ => (.ok 0, n)
  | n, .read16 _ => (.ok (0, 0), n)
  | n, .update _ _ val =>
      (if val = 0 then ⟨some 5, false, fun fine => absurd fine (Option.some_ne_none 5)⟩
        else ⟨none, true, fun _ => rfl⟩, n)

/-- The gauge that cannot be let go is stuck. -/
theorem hold_released_jammed : held false ((life [.currentNow] 0).eval jammed 0 []).2.1 = true ∧
    Stuck ((life [.currentNow] 0).eval jammed 0 []).2.1 :=
  ⟨by rfl, @hold_released false [.currentNow] 0 iLsb5aUa _
    (Program.runs_eval jammed (life [.currentNow] 0) 0 []) (by rfl)⟩

end Ginkgo.Battery
