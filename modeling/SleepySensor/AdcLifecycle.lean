import SleepySensor.Lib.BinaryRound
import SleepySensor.Lib.Prog
import SleepySensor.SensorsTask

/-!
# The battery ADC

`initAdc`, `readBatteryVoltageMilliV` and `deinitAdc` of `sensorstask.cpp` and the
lines of the sensor task that call them, over every answer of the drivers.  A
unit that still exists while the task waits for its wake keeps two power
domains on.
-/

set_option autoImplicit false

namespace SleepySensor.AdcLifecycle

open Prog SensorsTask BinaryRound

/-! ## The divider -/

/-- Resistors from the configuration, each a `float` widened to `double`.  A
resistor to ground of zero or less, or a ratio far from these, makes the cast of
a reading undefined. -/
structure Divider where
  batteryDividerRVbatOhm : ℚ
  batteryDividerRGndOhm : ℚ
  vbat_nonneg : 0 ≤ batteryDividerRVbatOhm
  gnd_least : 1 / 2 ^ 149 ≤ batteryDividerRGndOhm
  vbat_le : batteryDividerRVbatOhm ≤ 9999 * batteryDividerRGndOhm

namespace Divider

variable (divider : Divider)

def voltageDividerCoefficient : ℚ :=
  binary64.round (binary64.round (divider.batteryDividerRGndOhm + divider.batteryDividerRVbatOhm) /
    divider.batteryDividerRGndOhm)

/-- `static_cast<int>(m_voltageDividerCoefficient * pinVoltage)`. -/
def batteryVoltage (pinVoltage : Int) : Int :=
  truncate (binary64.round (divider.voltageDividerCoefficient * pinVoltage))

/-- What the two resistors make of the battery's voltage. -/
def ratio : ℚ :=
  (divider.batteryDividerRVbatOhm + divider.batteryDividerRGndOhm) / divider.batteryDividerRGndOhm

theorem gnd_pos : 0 < divider.batteryDividerRGndOhm :=
  lt_of_lt_of_le (by positivity) divider.gnd_least

theorem one_le_ratio : 1 ≤ divider.ratio := by
  rw [ratio, one_le_div divider.gnd_pos]
  linarith [divider.vbat_nonneg]

theorem ratio_le : divider.ratio ≤ 10000 := by
  rw [ratio, div_le_iff₀ divider.gnd_pos]
  linarith [divider.vbat_le]

/-- The part that one rounding of a `double` may take or add. -/
def unitRoundoff : ℚ := 1 / 2 ^ 53

theorem near_double {exact : ℚ} (normal : 1 / 2 ^ 149 ≤ |exact|) :
    Near unitRoundoff exact (binary64.round exact) := by
  refine near_round (le_trans ?_ normal)
  show (2 : ℚ) ^ (-1022 : ℤ) ≤ 1 / 2 ^ 149
  rw [show (1 / 2 ^ 149 : ℚ) = 2 ^ (-149 : ℤ) by rw [zpow_neg, one_div]; rfl]
  exact zpow_le_zpow_right₀ (by norm_num) (by norm_num)

theorem coefficient_near :
    Near (unitRoundoff + unitRoundoff + unitRoundoff * unitRoundoff) divider.ratio
      divider.voltageDividerCoefficient := by
  have gnd := divider.gnd_pos
  have sum : Near unitRoundoff (divider.batteryDividerRVbatOhm + divider.batteryDividerRGndOhm)
      (binary64.round (divider.batteryDividerRGndOhm + divider.batteryDividerRVbatOhm)) := by
    rw [add_comm divider.batteryDividerRGndOhm]
    refine near_double (le_trans divider.gnd_least (le_trans ?_ (le_abs_self _)))
    linarith [divider.vbat_nonneg]
  have quotient := sum.div divider.batteryDividerRGndOhm
  refine quotient.trans (near_double ?_) (by norm_num [unitRoundoff])
  have atLeast := quotient.half_le (by norm_num [unitRoundoff])
  have one : 1 ≤ |divider.ratio| := le_trans divider.one_le_ratio (le_abs_self _)
  refine le_trans ?_ atLeast
  exact le_trans (by norm_num) (div_le_div_of_nonneg_right one (by norm_num : (0 : ℚ) ≤ 2))

theorem product_near (pinVoltage : Int) :
    Near (4 * unitRoundoff) (divider.ratio * pinVoltage)
      (binary64.round (divider.voltageDividerCoefficient * pinVoltage)) := by
  have scaled := divider.coefficient_near.mul pinVoltage
  rcases eq_or_ne pinVoltage 0 with rfl | some_
  · simp [Near, round_zero]
  have large : 1 ≤ |divider.ratio * pinVoltage| := by
    rw [abs_mul]
    have ratio : 1 ≤ |divider.ratio| := le_trans divider.one_le_ratio (le_abs_self _)
    have pin : 1 ≤ |(pinVoltage : ℚ)| := by exact_mod_cast Int.one_le_abs some_
    exact one_le_mul_of_one_le_of_one_le ratio pin
  have atLeast := scaled.half_le (by norm_num [unitRoundoff])
  have rounded := scaled.trans (near_double (le_trans (by linarith) atLeast))
    (by norm_num [unitRoundoff])
  exact rounded.of_le (by norm_num [unitRoundoff])

end Divider

/-! ## The task -/

/-- A driver call; a handle is a number, and null is none. -/
inductive AdcOp where
  | oneshotIoToChannel
  | oneshotNewUnit
  | oneshotConfigChannel (unit : Option Nat)
  | caliCreateScheme
  | caliDeleteScheme (scheme : Nat)
  | oneshotDelUnit (unit : Nat)
  | oneshotRead (unit : Option Nat)
  | caliRawToVoltage (scheme : Option Nat) (raw : Int)
  | waitForWake
  deriving DecidableEq, Repr

@[reducible] def AdcOp.Res : AdcOp → Type
  | .oneshotIoToChannel => Option Bool
  | .oneshotNewUnit | .caliCreateScheme => Option Nat
  | .oneshotConfigChannel _ | .caliDeleteScheme _ | .oneshotDelUnit _ => Bool
  | .oneshotRead _ | .caliRawToVoltage _ _ => Option Int
  | .waitForWake => Unit

abbrev AdcProg (α : Type) : Type := Prog AdcOp AdcOp.Res α

abbrev driver (op : AdcOp) : AdcProg op.Res := perform op

/-- `adc1_handle` and `adc1_cali_chan0_handle`. -/
structure Handles where
  unit : Option Nat := none
  scheme : Option Nat := none
  deriving DecidableEq, Repr

def deleteScheme : Option Nat → AdcProg Unit
  | some scheme => do
    let _ ← driver (.caliDeleteScheme scheme)
    pure ()
  | none => pure ()

def deleteUnit : Option Nat → AdcProg Unit
  | some unit => do
    let _ ← driver (.oneshotDelUnit unit)
    pure ()
  | none => pure ()

/-- The handles are forgotten whatever the two calls answer. -/
def deinitAdc (handles : Handles) : AdcProg Handles := do
  deleteScheme handles.scheme
  deleteUnit handles.unit
  pure {}

def initAdc (handles : Handles) : AdcProg (Bool × Handles) := do
  match ← driver .oneshotIoToChannel with
  | some true =>
    match ← driver .oneshotNewUnit with
    | none => pure (false, { handles with unit := none })
    | some unit =>
      if ← driver (.oneshotConfigChannel (some unit)) then
        let scheme ← driver .caliCreateScheme
        if scheme.isSome then pure (true, { unit := some unit, scheme := scheme })
        else
          let handles ← deinitAdc { unit := some unit, scheme := scheme }
          pure (false, handles)
      else
        let handles ← deinitAdc { handles with unit := some unit }
        pure (false, handles)
  | _ => pure (false, handles)

def adcReadsCount : Nat := 10

def i32 (value : Int) : Int := Int.bmod value 4294967296

def readLoop (handles : Handles) : Nat → Int → AdcProg (Option Int)
  | 0, sum => pure (some sum)
  | turns + 1, sum => do
    match ← driver (.oneshotRead handles.unit) with
    | none => pure none
    | some raw =>
      match ← driver (.caliRawToVoltage handles.scheme raw) with
      | none => pure none
      | some voltage => readLoop handles turns (i32 (sum + voltage))

def readBatteryVoltageMilliV (divider : Divider) (handles : Handles) : AdcProg (Option Int) := do
  let sum ← readLoop handles adcReadsCount 0
  pure (sum.map fun total => divider.batteryVoltage (total.tdiv adcReadsCount))

def readBattery (divider : Divider) (handles : Handles) : AdcProg (AdcOutcome × Handles) := do
  let opened ← initAdc handles
  if opened.1 then
    let milliVolts ← readBatteryVoltageMilliV divider opened.2
    let handles ← deinitAdc opened.2
    pure (milliVolts.elim .readFailed .milliVolts, handles)
  else pure (.initFailed, opened.2)

/-- Turns of the sensor task: does it publish data with the battery, then the
wait for the next wake. -/
def wakeCycles (divider : Divider) : Handles → List Bool → AdcProg (List AdcOutcome)
  | _, [] => pure []
  | handles, false :: cycles => do
    let _ ← driver .waitForWake
    wakeCycles divider handles cycles
  | handles, true :: cycles => do
    let read ← readBattery divider handles
    let _ ← driver .waitForWake
    let others ← wakeCycles divider read.2 cycles
    pure (read.1 :: others)

/-! ## The drivers -/

structure Attempt where
  opened : Bool := true
  reads : Bool := true
  voltages : List Int := []
  deriving DecidableEq, Repr

/-- What exists in the drivers, what of it a delete has answered an error for,
the attempt of this turn and the earlier ones. -/
structure Drivers where
  units : List Nat := []
  configured : Bool := false
  schemes : List Nat := []
  keptUnits : List Nat := []
  keptSchemes : List Nat := []
  attempt : Option Attempt := none
  attempts : List Attempt := []
  deriving DecidableEq, Repr

namespace Drivers

variable (drivers : Drivers)

def note (change : Attempt → Attempt) : Drivers :=
  { drivers with attempt := drivers.attempt.map change }

def HasUnit (unit : Option Nat) : Prop :=
  ∃ handle, unit = some handle ∧ drivers.units = handle :: drivers.keptUnits

def HasScheme (scheme : Option Nat) : Prop :=
  ∃ handle, scheme = some handle ∧ drivers.schemes = handle :: drivers.keptSchemes

/-- Only one unit and one scheme at a time beside those that could not be deleted,
each deleted once and read only between, and neither there while the task waits. -/
def may : AdcOp → Prop
  | .oneshotIoToChannel => drivers.attempt = none
  | .oneshotNewUnit => drivers.units = drivers.keptUnits
  | .oneshotConfigChannel unit => drivers.HasUnit unit
  | .caliCreateScheme => drivers.schemes = drivers.keptSchemes
  | .caliDeleteScheme scheme => drivers.HasScheme (some scheme)
  | .oneshotDelUnit unit => drivers.HasUnit (some unit)
  | .oneshotRead unit => drivers.HasUnit unit ∧ drivers.configured = true
  | .caliRawToVoltage scheme _ => drivers.HasScheme scheme
  | .waitForWake => drivers.units = drivers.keptUnits ∧ drivers.schemes = drivers.keptSchemes

def deletedUnit (unit : Nat) (ok : Bool) : Drivers :=
  if ok then { drivers with units := drivers.units.erase unit }
  else { drivers with keptUnits := unit :: drivers.keptUnits }

def deletedScheme (scheme : Nat) (ok : Bool) : Drivers :=
  if ok then { drivers with schemes := drivers.schemes.erase scheme }
  else { drivers with keptSchemes := scheme :: drivers.keptSchemes }

end Drivers

/-- A calibrated voltage is below a hundred volts. -/
def maxVoltage : Int := 100000

def driversAfter (drivers : Drivers) : (op : AdcOp) → op.Res → Drivers → Prop
  | .oneshotIoToChannel, answer, after =>
    after = { drivers with attempt := some { opened := answer == some true } }
  | .oneshotNewUnit, answer, after =>
    after = { drivers with units := answer.toList ++ drivers.units, configured := false }.note
      fun attempt => { attempt with opened := answer.isSome }
  | .oneshotConfigChannel _, answer, after =>
    after = { drivers with configured := answer }.note fun attempt =>
      { attempt with opened := answer }
  | .caliCreateScheme, answer, after =>
    after = { drivers with schemes := answer.toList ++ drivers.schemes }.note fun attempt =>
      { attempt with opened := answer.isSome }
  | .caliDeleteScheme scheme, ok, after => after = drivers.deletedScheme scheme ok
  | .oneshotDelUnit unit, ok, after => after = drivers.deletedUnit unit ok
  | .oneshotRead _, answer, after =>
    after = drivers.note fun attempt => { attempt with reads := answer.isSome }
  | .caliRawToVoltage _ _, answer, after =>
    (∀ voltage ∈ answer, |voltage| ≤ maxVoltage) ∧
      after = drivers.note fun attempt =>
        { attempt with
          reads := answer.isSome
          voltages := attempt.voltages ++ answer.toList }
  | .waitForWake, _, after =>
    after = { drivers with
      attempt := none
      attempts := drivers.attempts ++ drivers.attempt.toList }

def driverContract : Contract AdcOp AdcOp.Res Drivers where
  may := Drivers.may
  effect := driversAfter

/-- What is told of an attempt: that a call failed, or the mean of all its
voltages times the ratio, the two cuts to whole millivolts and the roundings apart. -/
def Tells (ratio : ℚ) (attempt : Attempt) : AdcOutcome → Prop
  | .initFailed => attempt.opened = false
  | .readFailed => attempt.opened = true ∧ attempt.reads = false
  | .milliVolts told =>
    attempt.opened = true ∧ attempt.reads = true ∧ attempt.voltages.length = adcReadsCount ∧
      |(told : ℚ) - ratio * (attempt.voltages.sum / adcReadsCount)| < ratio + 1 + 1 / 1000000 ∧
        |told| < 2147483648

/-! ## One attempt -/

section Attempts

variable {divider : Divider} {drivers : Drivers} {attempts : List Attempt}

structure Closed (drivers : Drivers) (attempt : Option Attempt) (attempts : List Attempt) :
    Prop where
  units : drivers.units = drivers.keptUnits
  schemes : drivers.schemes = drivers.keptSchemes
  attempt : drivers.attempt = attempt
  attempts : drivers.attempts = attempts

structure Opened (drivers : Drivers) (unit scheme : Nat) (attempt : Attempt)
    (attempts : List Attempt) : Prop where
  units : drivers.units = unit :: drivers.keptUnits
  schemes : drivers.schemes = scheme :: drivers.keptSchemes
  configured : drivers.configured = true
  attempt : drivers.attempt = some attempt
  attempts : drivers.attempts = attempts

theorem wp_driver {α : Type} {op : AdcOp} {rest : op.Res → AdcProg α}
    {post : Drivers → α → Prop} (allowed : drivers.may op)
    (continues : ∀ answer after, driversAfter drivers op answer after →
      (rest answer).wp driverContract after post) :
    Prog.wp driverContract (driver op >>= rest) drivers post :=
  ⟨allowed, continues⟩

theorem Drivers.deletedUnit_units {unit : Nat} (ok : Bool)
    (has : drivers.units = unit :: drivers.keptUnits) :
    (drivers.deletedUnit unit ok).units = (drivers.deletedUnit unit ok).keptUnits := by
  cases ok with
  | false => exact has
  | true =>
    show drivers.units.erase unit = drivers.keptUnits
    rw [has, List.erase_cons_head]

theorem Drivers.deletedScheme_schemes {scheme : Nat} (ok : Bool)
    (has : drivers.schemes = scheme :: drivers.keptSchemes) :
    (drivers.deletedScheme scheme ok).schemes =
      (drivers.deletedScheme scheme ok).keptSchemes := by
  cases ok with
  | false => exact has
  | true =>
    show drivers.schemes.erase scheme = drivers.keptSchemes
    rw [has, List.erase_cons_head]

theorem deleteScheme_wp {scheme : Option Nat}
    (has : drivers.schemes = scheme.toList ++ drivers.keptSchemes) :
    (deleteScheme scheme).wp driverContract drivers fun after _ =>
      after.schemes = after.keptSchemes ∧ after.units = drivers.units ∧
        after.keptUnits = drivers.keptUnits ∧ after.attempt = drivers.attempt ∧
          after.attempts = drivers.attempts := by
  cases scheme with
  | none => exact ⟨has, rfl, rfl, rfl, rfl⟩
  | some scheme =>
    refine wp_driver ⟨scheme, rfl, has⟩ fun ok after deleted => ?_
    obtain rfl := deleted
    refine ⟨drivers.deletedScheme_schemes ok has, ?_⟩
    cases ok <;> exact ⟨rfl, rfl, rfl, rfl⟩

theorem deleteUnit_wp {unit : Option Nat}
    (has : drivers.units = unit.toList ++ drivers.keptUnits) :
    (deleteUnit unit).wp driverContract drivers fun after _ =>
      after.units = after.keptUnits ∧ after.schemes = drivers.schemes ∧
        after.keptSchemes = drivers.keptSchemes ∧ after.attempt = drivers.attempt ∧
          after.attempts = drivers.attempts := by
  cases unit with
  | none => exact ⟨has, rfl, rfl, rfl, rfl⟩
  | some unit =>
    refine wp_driver ⟨unit, rfl, has⟩ fun ok after deleted => ?_
    obtain rfl := deleted
    refine ⟨drivers.deletedUnit_units ok has, ?_⟩
    cases ok <;> exact ⟨rfl, rfl, rfl, rfl⟩

theorem deinitAdc_wp {handles : Handles}
    (units : drivers.units = handles.unit.toList ++ drivers.keptUnits)
    (schemes : drivers.schemes = handles.scheme.toList ++ drivers.keptSchemes) :
    (deinitAdc handles).wp driverContract drivers fun after released =>
      released = {} ∧ Closed after drivers.attempt drivers.attempts := by
  apply wp_seq (deleteScheme_wp schemes)
  rintro middle - ⟨noScheme, sameUnits, sameKept, sameAttempt, sameAttempts⟩
  have units' : middle.units = handles.unit.toList ++ middle.keptUnits := by
    rw [sameUnits, sameKept, units]
  apply wp_seq (deleteUnit_wp units')
  rintro after - ⟨noUnit, schemes', kept', attempt', attempts'⟩
  refine ⟨rfl, noUnit, ?_, attempt'.trans sameAttempt, attempts'.trans sameAttempts⟩
  rw [schemes', kept', noScheme]

theorem initAdc_wp (closed : Closed drivers none attempts) :
    (initAdc {}).wp driverContract drivers fun after result =>
      (result.1 = true ∧ ∃ unit scheme, result.2 = { unit := some unit, scheme := some scheme } ∧
        Opened after unit scheme {} attempts) ∨
      (result.1 = false ∧ result.2 = {} ∧
        ∃ attempt, attempt.opened = false ∧ Closed after (some attempt) attempts) := by
  obtain ⟨units, schemes, noAttempt, rfl⟩ := closed
  refine wp_driver noAttempt fun channel after asked => ?_
  obtain rfl := asked
  match channel with
  | none => exact .inr ⟨rfl, rfl, _, rfl, units, schemes, rfl, rfl⟩
  | some false => exact .inr ⟨rfl, rfl, _, rfl, units, schemes, rfl, rfl⟩
  | some true =>
    refine wp_driver units fun unit after made => ?_
    cases unit with
    | none =>
      obtain rfl := made
      exact .inr ⟨rfl, rfl, _, rfl, units, schemes, rfl, rfl⟩
    | some unit =>
      obtain rfl := made
      have held : unit :: drivers.units = unit :: drivers.keptUnits := by rw [units]
      refine wp_driver ⟨unit, rfl, held⟩ fun configured after set_ => ?_
      obtain rfl := set_
      cases configured with
      | false =>
        refine wp_seq (deinitAdc_wp held schemes) ?_
        rintro after handles ⟨rfl, closed⟩
        exact .inr ⟨rfl, rfl, _, rfl, closed⟩
      | true =>
        refine wp_driver schemes fun scheme after created => ?_
        obtain rfl := created
        cases scheme with
        | none =>
          refine wp_seq (deinitAdc_wp held schemes) ?_
          rintro after handles ⟨rfl, closed⟩
          exact .inr ⟨rfl, rfl, _, rfl, closed⟩
        | some scheme =>
          refine .inl ⟨rfl, unit, scheme, rfl, held, ?_, rfl, rfl, rfl⟩
          show scheme :: drivers.schemes = scheme :: drivers.keptSchemes
          rw [schemes]

theorem i32_small {value : Int} (small : |value| ≤ 10 * maxVoltage) : i32 value = value := by
  obtain ⟨low, high⟩ := abs_le.mp small
  unfold maxVoltage at low high
  unfold i32
  rw [Int.bmod_eq_of_le] <;> omega

theorem sum_small {voltages : List Int} (small : ∀ voltage ∈ voltages, |voltage| ≤ maxVoltage) :
    |voltages.sum| ≤ voltages.length * maxVoltage := by
  induction voltages with
  | nil => simp
  | cons voltage rest ih =>
    have here := small voltage List.mem_cons_self
    have others := ih fun other member => small other (List.mem_cons_of_mem voltage member)
    have both := abs_add_le voltage rest.sum
    rw [List.sum_cons, List.length_cons]
    push_cast
    linarith

theorem readLoop_wp {unit scheme : Nat} (turns : Nat) {voltages : List Int}
    (opened : Opened drivers unit scheme { voltages := voltages } attempts)
    (small : ∀ voltage ∈ voltages, |voltage| ≤ maxVoltage)
    (count : voltages.length + turns = adcReadsCount) :
    (readLoop { unit := some unit, scheme := some scheme } turns voltages.sum).wp
        driverContract drivers
      fun after sum => ∃ attempt, Opened after unit scheme attempt attempts ∧
        attempt.opened = true ∧
          ((sum = none ∧ attempt.reads = false) ∨
            (sum = some attempt.voltages.sum ∧ attempt.reads = true ∧
              attempt.voltages.length = adcReadsCount ∧
                ∀ voltage ∈ attempt.voltages, |voltage| ≤ maxVoltage)) := by
  induction turns generalizing voltages drivers with
  | zero => exact ⟨_, opened, rfl, .inr ⟨rfl, rfl, count, small⟩⟩
  | succ turns ih =>
    obtain ⟨units, schemes, configured, attempt, before⟩ := opened
    refine wp_driver ⟨⟨unit, rfl, units⟩, configured⟩ fun raw after read => ?_
    obtain rfl := read
    cases raw with
    | none =>
      refine ⟨{ voltages := voltages, reads := false }, ?_, rfl, .inl ⟨rfl, rfl⟩⟩
      refine ⟨units, schemes, configured, ?_, before⟩
      simp only [Drivers.note, attempt, Option.map_some]
      rfl
    | some raw =>
      refine wp_driver ⟨scheme, rfl, schemes⟩ fun voltage after converted => ?_
      obtain ⟨inRange, rfl⟩ := converted
      cases voltage with
      | none =>
        refine ⟨{ voltages := voltages ++ [], reads := false }, ?_, rfl, .inl ⟨rfl, rfl⟩⟩
        refine ⟨units, schemes, configured, ?_, before⟩
        simp only [Drivers.note, attempt, Option.map_some]
        rfl
      | some voltage =>
        have small' : ∀ other ∈ voltages ++ [voltage], |other| ≤ maxVoltage := by
          intro other member
          rcases List.mem_append.mp member with member | member
          · exact small other member
          · rw [List.mem_singleton.mp member]
            exact inRange voltage rfl
        have count' : (voltages ++ [voltage]).length + turns = adcReadsCount := by
          rw [List.length_append, List.length_singleton]
          omega
        have added : i32 (voltages.sum + voltage) = (voltages ++ [voltage]).sum := by
          rw [List.sum_append, List.sum_singleton]
          apply i32_small
          have bound := sum_small small'
          rw [List.sum_append, List.sum_singleton] at bound
          have most : ((voltages ++ [voltage]).length : Int) ≤ 10 := by
            unfold adcReadsCount at count'
            omega
          refine bound.trans ?_
          exact mul_le_mul_of_nonneg_right most (by decide)
        dsimp only
        rw [added]
        refine ih ⟨units, schemes, configured, ?_, before⟩ small' count'
        simp only [Drivers.note, attempt, Option.map_some]
        rfl

theorem pinVoltage_cut {sum : Int} (small : |sum| ≤ 10 * maxVoltage) :
    |((sum.tdiv adcReadsCount : Int) : ℚ) - sum / adcReadsCount| < 1 ∧
      |sum.tdiv adcReadsCount| ≤ maxVoltage := by
  have ten : (0 : Int) < adcReadsCount := by decide
  have parts : sum.tmod adcReadsCount + 10 * sum.tdiv adcReadsCount = sum :=
    Int.tmod_add_mul_tdiv sum adcReadsCount
  have low : -10 < sum.tmod adcReadsCount := Int.lt_tmod_of_pos sum ten
  have high : sum.tmod adcReadsCount < 10 := Int.tmod_lt_of_pos sum ten
  constructor
  · have exact_ : ((sum.tdiv adcReadsCount : Int) : ℚ) - sum / adcReadsCount =
        -(sum.tmod adcReadsCount : Int) / 10 := by
      have parts' : (sum : ℚ) = (sum.tmod adcReadsCount : Int) +
          10 * (sum.tdiv adcReadsCount : Int) := by exact_mod_cast parts.symm
      have count : (adcReadsCount : ℚ) = 10 := rfl
      rw [parts', count]
      ring
    have low' : (-10 : ℚ) < (sum.tmod adcReadsCount : Int) := by exact_mod_cast low
    have high' : ((sum.tmod adcReadsCount : Int) : ℚ) < 10 := by exact_mod_cast high
    rw [exact_, abs_lt]
    constructor <;> linarith
  · unfold maxVoltage at *
    rw [abs_le] at *
    omega

theorem abs_batteryVoltage_sub {pinVoltage : Int} (small : |pinVoltage| ≤ maxVoltage) :
    |(divider.batteryVoltage pinVoltage : ℚ) - divider.ratio * pinVoltage| < 1 + 1 / 1000000 := by
  have cut := abs_truncate_sub (binary64.round (divider.voltageDividerCoefficient * pinVoltage))
  have rounded := divider.product_near pinVoltage
  have size : |divider.ratio * pinVoltage| ≤ 10000 * 100000 := by
    have pin : |(pinVoltage : ℚ)| ≤ 100000 := by exact_mod_cast small
    have ratio : |divider.ratio| ≤ 10000 := by
      rw [abs_of_pos (lt_of_lt_of_le one_pos divider.one_le_ratio)]
      exact divider.ratio_le
    rw [abs_mul]
    exact mul_le_mul ratio pin (abs_nonneg _) (by norm_num)
  have error : 4 * Divider.unitRoundoff * |divider.ratio * pinVoltage| < 1 / 1000000 := by
    refine lt_of_le_of_lt (mul_le_mul_of_nonneg_left size ?_) ?_ <;> norm_num [Divider.unitRoundoff]
  unfold Near at rounded
  have both := abs_add_le
    ((divider.batteryVoltage pinVoltage : ℚ) -
      binary64.round (divider.voltageDividerCoefficient * pinVoltage))
    (binary64.round (divider.voltageDividerCoefficient * pinVoltage) -
      divider.ratio * pinVoltage)
  rw [sub_add_sub_cancel] at both
  unfold Divider.batteryVoltage at both ⊢
  linarith

theorem told_of_voltages {attempt : Attempt} (isOpen : attempt.opened = true)
    (read : attempt.reads = true) (length : attempt.voltages.length = adcReadsCount)
    (small : ∀ voltage ∈ attempt.voltages, |voltage| ≤ maxVoltage) :
    Tells divider.ratio attempt
      (.milliVolts (divider.batteryVoltage (attempt.voltages.sum.tdiv adcReadsCount))) := by
  have sum : |attempt.voltages.sum| ≤ 10 * maxVoltage := by
    have bound := sum_small small
    rwa [length] at bound
  obtain ⟨cut, pin⟩ := pinVoltage_cut sum
  have told := @abs_batteryVoltage_sub divider _ pin
  have one := divider.one_le_ratio
  have most := divider.ratio_le
  have scaled : |divider.ratio * ((attempt.voltages.sum.tdiv adcReadsCount : Int) : ℚ) -
      divider.ratio * (attempt.voltages.sum / adcReadsCount)| < divider.ratio := by
    rw [← mul_sub, abs_mul, abs_of_pos (by linarith : 0 < divider.ratio)]
    calc _ < divider.ratio * 1 := mul_lt_mul_of_pos_left cut (by linarith)
      _ = divider.ratio := mul_one _
  refine ⟨isOpen, read, length, ?_, ?_⟩
  · have both := abs_add_le
      ((divider.batteryVoltage (attempt.voltages.sum.tdiv adcReadsCount) : ℚ) -
        divider.ratio * ((attempt.voltages.sum.tdiv adcReadsCount : Int) : ℚ))
      (divider.ratio * ((attempt.voltages.sum.tdiv adcReadsCount : Int) : ℚ) -
        divider.ratio * (attempt.voltages.sum / adcReadsCount))
    rw [sub_add_sub_cancel] at both
    linarith
  · have size : |divider.ratio * ((attempt.voltages.sum.tdiv adcReadsCount : Int) : ℚ)| ≤
        10000 * 100000 := by
      rw [abs_mul, abs_of_pos (by linarith : 0 < divider.ratio)]
      have pin' : |((attempt.voltages.sum.tdiv adcReadsCount : Int) : ℚ)| ≤ 100000 := by
        exact_mod_cast pin
      exact mul_le_mul most pin' (abs_nonneg _) (by norm_num)
    have apart := abs_sub_abs_le_abs_sub
      (divider.batteryVoltage (attempt.voltages.sum.tdiv adcReadsCount) : ℚ)
      (divider.ratio * ((attempt.voltages.sum.tdiv adcReadsCount : Int) : ℚ))
    have fits : |(divider.batteryVoltage (attempt.voltages.sum.tdiv adcReadsCount) : ℚ)| <
        2147483648 := by linarith
    exact_mod_cast fits

theorem readBatteryVoltageMilliV_wp {unit scheme : Nat}
    (opened : Opened drivers unit scheme {} attempts) :
    (readBatteryVoltageMilliV divider { unit := some unit, scheme := some scheme }).wp
        driverContract drivers
      fun after milliVolts => ∃ attempt, Opened after unit scheme attempt attempts ∧
        Tells divider.ratio attempt (milliVolts.elim .readFailed .milliVolts) := by
  have reads := readLoop_wp adcReadsCount opened (fun voltage none_ => by cases none_)
    (Nat.zero_add _)
  apply wp_seq reads
  rintro after sum ⟨attempt, still, isOpen, ⟨rfl, failed⟩ | ⟨rfl, read, length, small⟩⟩
  · exact ⟨attempt, still, isOpen, failed⟩
  · exact ⟨attempt, still, told_of_voltages isOpen read length small⟩

theorem readBattery_wp (closed : Closed drivers none attempts) :
    (readBattery divider {}).wp driverContract drivers fun after result =>
      result.2 = {} ∧ ∃ attempt, Closed after (some attempt) attempts ∧
        Tells divider.ratio attempt result.1 := by
  apply wp_seq (initAdc_wp closed)
  rintro after ⟨ok, handles⟩
    (⟨rfl, unit, scheme, rfl, opened⟩ | ⟨rfl, rfl, attempt, failed, closed⟩)
  · apply wp_seq (readBatteryVoltageMilliV_wp opened)
    rintro after milliVolts ⟨attempt, still, tells⟩
    apply wp_seq (deinitAdc_wp still.units still.schemes)
    rintro after handles ⟨rfl, closed⟩
    rw [still.attempt, still.attempts] at closed
    exact ⟨rfl, attempt, closed, tells⟩
  · exact ⟨rfl, attempt, closed, failed⟩

/-! ## All turns -/

theorem Closed.waited {attempt : Option Attempt} (closed : Closed drivers attempt attempts) :
    Closed { drivers with
      attempt := none
      attempts := drivers.attempts ++ drivers.attempt.toList }
      none (attempts ++ attempt.toList) := by
  refine ⟨closed.units, closed.schemes, rfl, ?_⟩
  show drivers.attempts ++ _ = _
  rw [closed.attempts, closed.attempt]

/-- In every run of turns no unit or scheme is made twice, used before it is ready,
deleted twice or there over a wait, but for those whose delete answered an error,
and each attempt is told of as `Tells` has it. -/
theorem wakeCycles_release (cycles : List Bool) (closed : Closed drivers none attempts) :
    (wakeCycles divider {} cycles).wp driverContract drivers fun after told =>
      told.length = cycles.count true ∧ ∃ more, Closed after none (attempts ++ more) ∧
        List.Forall₂ (Tells divider.ratio) more told := by
  induction cycles generalizing drivers attempts with
  | nil => exact ⟨rfl, [], by simpa using closed, .nil⟩
  | cons reads cycles ih =>
    cases reads with
    | false =>
      refine wp_driver ⟨closed.units, closed.schemes⟩ fun _ after waited => ?_
      obtain rfl := waited
      apply wp_mono (ih closed.waited)
      rintro after told ⟨length, more, closed, tells⟩
      refine ⟨by simpa using length, more, ?_, tells⟩
      simpa using closed
    | true =>
      apply wp_seq (readBattery_wp closed)
      rintro middle ⟨outcome, handles⟩ ⟨rfl, attempt, there, tellsHere⟩
      refine wp_driver ⟨there.units, there.schemes⟩ fun _ after waited => ?_
      obtain rfl := waited
      apply wp_seq (ih there.waited)
      rintro after told ⟨length, more, closed, tells⟩
      refine ⟨by simpa using length, attempt :: more, ?_, .cons tellsHere tells⟩
      simpa using closed

end Attempts

def boardDivider : Divider where
  batteryDividerRVbatOhm := 5021
  batteryDividerRGndOhm := 5035
  vbat_nonneg := by norm_num
  gnd_least := by norm_num
  vbat_le := by norm_num

example : boardDivider.batteryVoltage 2059 = 4112 := by decide +kernel

theorem wakeCycles_release_boot :
    (wakeCycles boardDivider {} [false, true]).wp driverContract {} fun after told =>
      told.length = [false, true].count true ∧ ∃ more, Closed after none ([] ++ more) ∧
        List.Forall₂ (Tells boardDivider.ratio) more told :=
  wakeCycles_release [false, true] ⟨rfl, rfl, rfl, rfl⟩

end SleepySensor.AdcLifecycle
