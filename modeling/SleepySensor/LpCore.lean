import SleepySensor.Base
import SleepySensor.Lib.Prog

/-!
# The LP core program

`lp_core/main.cpp` as an interaction program: every load and store of a word of
`g_shared`, every I2C transfer and every delay is one operation, in program
order.  Float arithmetic is the target's own; no law of it is used.
-/

set_option autoImplicit false

namespace SleepySensor

/-- The `float` operations of the LP target. -/
class FloatOps where
  lit : ℚ → Flt
  ofNat : Nat → Flt
  add : Flt → Flt → Flt
  sub : Flt → Flt → Flt
  mul : Flt → Flt → Flt
  div : Flt → Flt → Flt
  neg : Flt → Flt

/-- Arithmetic without rounding, to run the program on. -/
@[reducible] def exactFloat : FloatOps where
  lit value := .fin value
  ofNat value := .fin value
  add
    | .fin a, .fin b => .fin (a + b)
    | _, _ => .nan
  sub
    | .fin a, .fin b => .fin (a - b)
    | _, _ => .nan
  mul
    | .fin a, .fin b => .fin (a * b)
    | _, _ => .nan
  div
    | .fin a, .fin b => .fin (a / b)
    | _, _ => .nan
  neg
    | .fin a => .fin (-a)
    | _ => .nan

namespace LpCore

/-! ## `lp_shared_state_t` -/

inductive UField where
  | sensorSamples | maxSkipCycles | heaterPeriodCycles | highRhTriggerCycles
  | heartbeatCounter | resultSeq | sensorOk | consecFailCount | shouldWakeHp | skippedCycles
  | hpAckSeq | cyclesSinceHeater | highRhCycles | heaterActive | lastHeaterRunCycle
  | lastHeaterPassed | heaterRunCount
  deriving DecidableEq, Repr

inductive FField where
  | tempOffsetC | tempMinChangeC | rhOffsetPct | rhMinChangePct | rawTempC | rawHumPct
  | calTempC | calHumPct | prevDeliveredTempC | prevDeliveredHumPct | hpAckedTempC
  | hpAckedHumPct | lastHeaterDeltaT
  deriving DecidableEq, Repr

inductive Field where
  | u (field : UField)
  | f (field : FField)
  deriving DecidableEq, Repr

abbrev Field.Val : Field → Type
  | .u _ => Nat
  | .f _ => Flt

abbrev Shared : Type := (field : Field) → field.Val

/-- `ulp_lp_core_load_binary` zeroes the shared region. -/
def zeroed : Shared
  | .u _ => (0 : Nat)
  | .f _ => Flt.fin 0

/-! ## Operations -/

/-- The six bytes of one SHT4x answer. -/
structure Raw6 where
  tempHigh : UInt8
  tempLow : UInt8
  tempCrc : UInt8
  humHigh : UInt8
  humLow : UInt8
  humCrc : UInt8
  deriving DecidableEq, Repr

inductive LpOp where
  | load (field : Field)
  | store (field : Field) (value : field.Val)
  | loadLastConsumedAckSeq
  | storeLastConsumedAckSeq (value : Nat)
  | delayUs (us : Nat)
  | i2cWrite (cmd : Nat)
  | i2cRead
  | wakeupMainProcessor

abbrev LpOp.Res : LpOp → Type
  | .load field => field.Val
  | .store _ _ => Unit
  | .loadLastConsumedAckSeq => Nat
  | .storeLastConsumedAckSeq _ => Unit
  | .delayUs _ => Unit
  | .i2cWrite _ => Bool
  | .i2cRead => Option Raw6
  | .wakeupMainProcessor => Unit

abbrev LpProg : Type → Type := Prog LpOp LpOp.Res

def loadU (field : UField) : LpProg Nat := Prog.perform (LpOp.load (.u field))
def loadF (field : FField) : LpProg Flt := Prog.perform (LpOp.load (.f field))
def storeU (field : UField) (value : Nat) : LpProg Unit :=
  Prog.perform (LpOp.store (.u field) value)

def storeF (field : FField) (value : Flt) : LpProg Unit :=
  Prog.perform (LpOp.store (.f field) value)
def delayUs (us : Nat) : LpProg Unit := Prog.perform (LpOp.delayUs us)

/-- `g_shared.field++`. -/
def increment (field : UField) : LpProg Unit := do
  let value ← loadU field
  storeU field (u32 (value + 1))

/-! ## Measuring -/

def kCmdMeasureHigh : Nat := 0xFD
def kMeasureDelayUs : Nat := 10000
def kCmdHeaterMediumShort : Nat := 0x24
def kHeaterMediumShortDelayUs : Nat := 110000
def kCmdHeaterHighLong : Nat := 0x39
def kHeaterHighLongDelayUs : Nat := 1100000
def kInterSampleDelayUs : Nat := 100000
def kHeaterDurationMs : Nat := 20000
def kCooldownMaxMs : Nat := 240000
def kCooldownPollMs : Nat := 2000
def kRhSettleMs : Nat := 90000

def crc8Bit (crc : UInt8) : UInt8 :=
  if crc &&& 0x80 ≠ 0 then (crc <<< 1) ^^^ 0x31 else crc <<< 1

def crc8Byte (crc byte : UInt8) : UInt8 := Nat.iterate crc8Bit 8 (crc ^^^ byte)

def crc8 (data : List UInt8) : UInt8 := data.foldl crc8Byte 0xFF

def Raw6.crcOk (raw : Raw6) : Bool :=
  raw.tempCrc == crc8 [raw.tempHigh, raw.tempLow] && raw.humCrc == crc8 [raw.humHigh, raw.humLow]

def Raw6.rawTemp (raw : Raw6) : Nat := raw.tempHigh.toNat * 256 + raw.tempLow.toNat
def Raw6.rawHum (raw : Raw6) : Nat := raw.humHigh.toNat * 256 + raw.humLow.toNat

def clampf (v lo hi : Flt) : Flt := if v.lt lo then lo else if hi.lt v then hi else v

variable [FloatOps]

open FloatOps

def absf (v : Flt) : Flt := if v.lt (lit 0) then neg v else v

structure Reading where
  tempC : Flt
  humPct : Flt
  deriving DecidableEq, Repr

def convert (raw : Raw6) : Reading :=
  { tempC := sub (div (mul (ofNat raw.rawTemp) (lit 175)) (lit 65535)) (lit 45)
    humPct := clampf (sub (div (mul (ofNat raw.rawHum) (lit 125)) (lit 65535)) (lit 6))
      (lit 0) (lit 100) }

def measure (cmd delay : Nat) : LpProg (Option Reading) := do
  if ← Prog.perform (LpOp.i2cWrite cmd) then
    delayUs delay
    match ← Prog.perform LpOp.i2cRead with
    | some raw => return if raw.crcOk then some (convert raw) else none
    | none => return none
  else return none

/-- The loop of `measureAveraged`, with the sums and the count of good samples. -/
def measureLoop (first : Bool) : Nat → Flt → Flt → Nat → LpProg (Flt × Flt × Nat)
  | 0, sumT, sumH, ok => return (sumT, sumH, ok)
  | remaining + 1, sumT, sumH, ok => do
    if !first then delayUs kInterSampleDelayUs
    match ← measure kCmdMeasureHigh kMeasureDelayUs with
    | some reading =>
      measureLoop false remaining (add sumT reading.tempC) (add sumH reading.humPct) (ok + 1)
    | none => measureLoop false remaining sumT sumH ok

def measureAveraged (samples : Nat) : LpProg (Option Reading) := do
  let count := if samples = 0 then 1 else samples
  let (sumT, sumH, ok) ← measureLoop true count (lit 0) (lit 0) 0
  return if ok = 0 then none
    else some { tempC := div sumT (ofNat ok), humPct := div sumH (ofNat ok) }

/-! ## Heater maintenance -/

def kSelftestDeltaT : Flt := lit 5
def kCreepDeltaT : Flt := lit 40
def kCooldownEpsilonC : Flt := lit (3 / 10)
def kHighRhThreshold : Flt := lit 90

structure HeaterRun where
  clean : Reading
  deltaT : Flt
  passed : Bool
  deriving DecidableEq, Repr

def pulseLoop (heaterCmd heaterDelay : Nat) (minDeltaT t0 : Flt) :
    Nat → Reading → LpProg Reading
  | 0, hot => return hot
  | remaining + 1, hot => do
    match ← measure heaterCmd heaterDelay with
    | some pulse =>
      if Flt.ge (sub pulse.tempC t0) minDeltaT then return pulse
      else pulseLoop heaterCmd heaterDelay minDeltaT t0 remaining pulse
    | none => pulseLoop heaterCmd heaterDelay minDeltaT t0 remaining hot

def cooldownLoop (t0 : Flt) : Nat → Reading → LpProg Reading
  | 0, last => return last
  | remaining + 1, last => do
    delayUs (kCooldownPollMs * 1000)
    match ← measure kCmdMeasureHigh kMeasureDelayUs with
    | some cooled =>
      if Flt.ge (add t0 kCooldownEpsilonC) cooled.tempC then return cooled
      else cooldownLoop t0 remaining cooled
    | none => cooldownLoop t0 remaining last

def runHeaterMaintenance (heaterCmd heaterDelay : Nat) (minDeltaT : Flt) :
    LpProg (Option HeaterRun) := do
  match ← measure kCmdMeasureHigh kMeasureDelayUs with
  | none => return none
  | some baseline =>
    let hot ← pulseLoop heaterCmd heaterDelay minDeltaT baseline.tempC
      (kHeaterDurationMs * 1000 / heaterDelay) baseline
    let deltaT := sub hot.tempC baseline.tempC
    let last ← cooldownLoop baseline.tempC (kCooldownMaxMs / kCooldownPollMs) hot
    delayUs (kRhSettleMs * 1000)
    let final ← measure kCmdMeasureHigh kMeasureDelayUs
    return some
      { clean := final.getD last, deltaT := deltaT, passed := Flt.ge deltaT minDeltaT }

/-! ## `main` -/

def consumeAck : LpProg Unit := do
  let hpAckSeq ← loadU .hpAckSeq
  let lastConsumed ← Prog.perform LpOp.loadLastConsumedAckSeq
  if hpAckSeq ≠ lastConsumed then
    storeF .prevDeliveredTempC (← loadF .hpAckedTempC)
    storeF .prevDeliveredHumPct (← loadF .hpAckedHumPct)
    storeU .skippedCycles 0
    Prog.perform (LpOp.storeLastConsumedAckSeq (← loadU .hpAckSeq))

def recordOutcome (ok : Bool) : LpProg Unit := do
  increment .heartbeatCounter
  storeU .sensorOk (if ok then 1 else 0)
  if ok then storeU .consecFailCount 0 else increment .consecFailCount

structure HeaterDue where
  periodic : Bool
  humidity : Bool
  deriving DecidableEq, Repr

/-- `schedule > 0 && counter >= schedule`. -/
def heaterDue (schedule counter : UField) : LpProg Bool := do
  if 0 < (← loadU schedule) then
    let count ← loadU counter
    return decide ((← loadU schedule) ≤ count)
  else return false

def countHighRh (precalHum : Flt) : LpProg Unit :=
  if kHighRhThreshold.lt precalHum then increment .highRhCycles else storeU .highRhCycles 0

def heaterSchedule (reading : Reading) : LpProg HeaterDue := do
  increment .cyclesSinceHeater
  countHighRh (clampf (add reading.humPct (← loadF .rhOffsetPct)) (lit 0) (lit 100))
  let periodicDue ← heaterDue .heaterPeriodCycles .cyclesSinceHeater
  let humidityDue ← heaterDue .highRhTriggerCycles .highRhCycles
  return { periodic := periodicDue, humidity := humidityDue }

def heaterRun (creep : Bool) : LpProg (Option HeaterRun) :=
  if creep then runHeaterMaintenance kCmdHeaterHighLong kHeaterHighLongDelayUs kCreepDeltaT
  else runHeaterMaintenance kCmdHeaterMediumShort kHeaterMediumShortDelayUs kSelftestDeltaT

def recordHeaterRun : Option HeaterRun → LpProg Unit
  | none => return ()
  | some run => do
    storeF .rawTempC run.clean.tempC
    storeF .rawHumPct run.clean.humPct
    storeU .lastHeaterRunCycle (← loadU .heartbeatCounter)
    storeF .lastHeaterDeltaT run.deltaT
    storeU .lastHeaterPassed (if run.passed then 1 else 0)
    increment .heaterRunCount

/-- The heater block: the intermediate publish before the long run, and the
reading the cycle goes on with. -/
def heaterBlock (creep : Bool) (reading : Reading) : LpProg Reading := do
  storeU .heaterActive 1
  increment .resultSeq
  let run ← heaterRun creep
  increment .resultSeq
  recordHeaterRun run
  storeU .heaterActive 0
  storeU .cyclesSinceHeater 0
  storeU .highRhCycles 0
  return match run with
    | some run => run.clean
    | none => reading

def maintain (due : HeaterDue) (reading : Reading) : LpProg Reading :=
  if due.periodic || due.humidity then heaterBlock due.humidity reading else return reading

def sameAsPrevDelivered (calTemp calHum : Flt) : LpProg Bool := do
  let tempChange := absf (sub calTemp (← loadF .prevDeliveredTempC))
  let rhChange := absf (sub calHum (← loadF .prevDeliveredHumPct))
  if tempChange.lt (← loadF .tempMinChangeC) then return rhChange.lt (← loadF .rhMinChangePct)
  else return false

def withinSkipBudget (same : Bool) : LpProg Bool := do
  if same then
    let skipped ← loadU .skippedCycles
    return decide (skipped < (← loadU .maxSkipCycles))
  else return false

def countSkip (skipThisCycle : Bool) : LpProg Unit :=
  if skipThisCycle then increment .skippedCycles else return ()

/-- Calibration and the skip decision; the result is `valueDriven`. -/
def calibrateAndDecide (reading : Reading) : LpProg Bool := do
  let calTemp := clampf (add reading.tempC (← loadF .tempOffsetC)) (lit (-27315 / 100)) (lit 3000)
  let calHum := clampf (add reading.humPct (← loadF .rhOffsetPct)) (lit 0) (lit 100)
  storeF .calTempC calTemp
  storeF .calHumPct calHum
  let skipThisCycle ← withinSkipBudget (← sameAsPrevDelivered calTemp calHum)
  countSkip skipThisCycle
  return !skipThisCycle

def processReading : Option Reading → LpProg Bool
  | none => return false
  | some reading => do
    storeF .rawTempC reading.tempC
    storeF .rawHumPct reading.humPct
    let due ← heaterSchedule reading
    calibrateAndDecide (← maintain due reading)

/-- The part of `main` between the two outermost bumps of `result_seq`. -/
def cycleBody (wasOk : Nat) : LpProg Unit := do
  let reading ← measureAveraged (← loadU .sensorSamples)
  recordOutcome reading.isSome
  let valueDriven ← processReading reading
  storeU .shouldWakeHp (if valueDriven || (wasOk != 0 && reading.isNone) then 1 else 0)

def main : LpProg Unit := do
  consumeAck
  let wasOk ← loadU .sensorOk
  increment .resultSeq
  cycleBody wasOk
  increment .resultSeq
  if (← loadU .shouldWakeHp) ≠ 0 then Prog.perform LpOp.wakeupMainProcessor

end LpCore

end SleepySensor
