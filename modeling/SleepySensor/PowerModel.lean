import Mathlib.Order.WithBot
import Mathlib.Tactic.FieldSimp
import SleepySensor.BatteryCurve

/-!
# The power model

`tools/power_model.py` in exact arithmetic: the average current of a window from
the totals of its phases, the same per cycle, and what the model says next to a
measured current.
-/

set_option autoImplicit false

namespace SleepySensor.PowerModel

/-! ## The radio -/

/-- The loop over neighbouring points; behind the last there is `None`. -/
def alongPoints (x : ℚ) (low : Int × Int) : List (Int × Int) → Option ℚ
  | [] => none
  | high :: rest =>
    if (low.1 : ℚ) ≤ x ∧ x ≤ high.1 then
      some (low.2 + (x - low.1) * (high.2 - low.2) / (high.1 - low.1))
    else alongPoints x high rest

def txCurrentByDbm : List (Int × Int) := [(-15, 92), (0, 119), (12, 187), (20, 305)]

def txPowerDbmDefault : ℚ := 20

def txCurrentMa (txPowerDbm : Option ℚ) : Option ℚ :=
  let dbm := txPowerDbm.getD txPowerDbmDefault
  if dbm ≤ -15 then some 92
  else if 20 ≤ dbm then some 305
  else alongPoints dbm (-15, 92) txCurrentByDbm.tail

/-! ## The constants -/

def txTimeS : ℚ := 90 / 1000
def rxTimeS : ℚ := 217 / 1000
def rxCurrentMa : ℚ := 74
def cpuTimeS : ℚ := 461 / 1000
def cpuCurrentMaLow : ℚ := 27
def cpuCurrentMaHigh : ℚ := 38
def sleepCurrentUa : ℚ := 35
def lpMeasureS : ℚ := 11 / 1000
def lpInterSampleS : ℚ := 100 / 1000
def lpActiveCurrentUa : ℚ := 9000
def lpPollIntervalDefaultS : ℚ := 20
def packCapacityMah : ℚ := 3200
def packNominalVoltage : ℚ := 37 / 10
def packEnergyMwh : ℚ := packCapacityMah * packNominalVoltage
def packMeanVoltage : ℚ := 3931 / 1000
def boardFixedUa : ℚ := 171 / 10
def railVoltage : ℚ := 33 / 10
def buckEfficiency : ℚ := 94 / 100

/-! ## The model -/

/-- `ZeroDivisionError`, arithmetic on a `None`, and the `ValueError` of a window
that is shorter than its awake time. -/
inductive ModelError where
  | divisionByZero
  | noCurrent
  | awakeExceedsWindow
  deriving DecidableEq, Repr

def divided (a b : ℚ) : Except ModelError ℚ := if b = 0 then .error .divisionByZero else .ok (a / b)

def railToBatteryUa (railUa : ℚ) : ℚ := railUa * railVoltage / packMeanVoltage / buckEfficiency

def lpActiveTimeS (sensorSamples : Int) : ℚ :=
  let samples := max sensorSamples 1
  samples * lpMeasureS + (samples - 1) * lpInterSampleS

def lpPollPeriodS (sensorSamples : Int) (lpPollIntervalSec : ℚ) : ℚ :=
  lpPollIntervalSec + lpActiveTimeS sensorSamples

def lpPollIntervalS (sensorSamples : Int) (lpPollPeriodSec : ℚ) : ℚ :=
  lpPollPeriodSec - lpActiveTimeS sensorSamples

def sensorSamplesExtraUa (sensorSamples : Int) (lpPollPeriodSec : ℚ) : Except ModelError ℚ := do
  let sleepS := lpPollIntervalS sensorSamples lpPollPeriodSec
  let duty := fun samples => divided (lpActiveTimeS samples) (sleepS + lpActiveTimeS samples)
  let sampled ← duty sensorSamples
  let once ← duty 1
  pure ((lpActiveCurrentUa - sleepCurrentUa) * (sampled - once))

structure PhaseTimes where
  txS : ℚ
  rxS : ℚ
  cpuS : ℚ
  deriving DecidableEq, Repr

def PhaseTimes.awakeS (times : PhaseTimes) : ℚ := times.txS + times.rxS + times.cpuS

/-- Totals, shared among cycles. -/
def PhaseTimes.per (times : PhaseTimes) (cycles : ℚ) : PhaseTimes :=
  { txS := times.txS / cycles, rxS := times.rxS / cycles, cpuS := times.cpuS / cycles }

/-- The flags of a run that do not say how long anything took. -/
structure Setup where
  sensorSamples : Int := 1
  lpPollPeriodSec : Option ℚ := none
  txPowerDbm : Option ℚ := none
  deriving DecidableEq, Repr

def Setup.period (setup : Setup) : ℚ :=
  setup.lpPollPeriodSec.getD (lpPollPeriodS setup.sensorSamples lpPollIntervalDefaultS)

def modelAvgCurrentUa (windowS : ℚ) (times : PhaseTimes) (cpuCurrentMa : Option ℚ)
    (setup : Setup) : Except ModelError ℚ := do
  let cpuMa := cpuCurrentMa.getD ((cpuCurrentMaLow + cpuCurrentMaHigh) / 2)
  let sleepS := windowS - times.awakeS
  if sleepS < 0 then throw .awakeExceedsWindow
  let txMa ← (txCurrentMa setup.txPowerDbm).elim (throw .noCurrent) pure
  let awakeChargeUaS := (times.txS * txMa + times.rxS * rxCurrentMa + times.cpuS * cpuMa) * 1000
  let sleepContributionUa ← divided (sleepCurrentUa * sleepS) windowS
  let awakeContributionUa ← divided awakeChargeUaS windowS
  let extraUa ← sensorSamplesExtraUa setup.sensorSamples setup.period
  pure (sleepContributionUa + awakeContributionUa + extraUa)

def calibration : PhaseTimes := { txS := txTimeS, rxS := rxTimeS, cpuS := cpuTimeS }

def cadenceCurrentUa (cadenceS : ℚ) (cpuCurrentMa : Option ℚ) (setup : Setup)
    (phaseTimesS : Option PhaseTimes) : Except ModelError ℚ :=
  modelAvgCurrentUa cadenceS (phaseTimesS.getD calibration) cpuCurrentMa setup

/-! ## The budget -/

/-- `value or default`: `0.0` is falsy. -/
def orDefault (value : Option ℚ) (default_ : ℚ) : ℚ :=
  let given := value.getD 0
  if given = 0 then default_ else given

def runtimeDays (avgCurrentUa : ℚ) (capacityMah : Option ℚ) : Except ModelError ℚ := do
  let hours ← divided (orDefault capacityMah packCapacityMah) (avgCurrentUa / 1000)
  pure (hours / 24)

/-- The residual in microamperes, and in percent a month. -/
def impliedSelfDischarge (measuredUa deviceUa : ℚ) (capacityMah : Option ℚ) : ℚ × ℚ :=
  let capacity := orDefault capacityMah packCapacityMah
  let residualUa := measuredUa - deviceUa
  (residualUa, residualUa / 1000 * (7305 / 10) / capacity * 100)

def scaleMeasurement (measuredUaAtNominal capacityMah : ℚ) (nominalMah : Option ℚ) : ℚ :=
  measuredUaAtNominal * capacityMah / orDefault nominalMah packCapacityMah

/-- `float("inf")` is the top. -/
def capacityFloor (measuredUaAtNominal deviceUa selfDischargeFloorPct : ℚ)
    (nominalMah : Option ℚ) : WithTop ℚ :=
  let nominal := orDefault nominalMah packCapacityMah
  let slope := measuredUaAtNominal / nominal - selfDischargeFloorPct / (7305 / 100)
  if 0 < slope then ((deviceUa / slope : ℚ) : WithTop ℚ) else ⊤

def capacityFloorStepsPct : List ℚ := [0, 35 / 100, 1, 2]

structure Reconciliation where
  scaledMeasuredUa : ℚ
  residualUa : ℚ
  residualPctPerMonth : ℚ
  capacityFloors : List (ℚ × WithTop ℚ)

structure Budget where
  lpPollIntervalSec : ℚ
  capacityMah : ℚ
  midUa : ℚ
  lowUa : ℚ
  highUa : ℚ
  extraUa : ℚ
  batteryUa : ℚ
  deviceUa : ℚ
  runtimeDays : ℚ
  reconciliation : Option Reconciliation

def powerBudget (cadenceS : ℚ) (setup : Setup) (capacityMah measuredUa : Option ℚ)
    (phaseTimesS : Option PhaseTimes) : Except ModelError Budget := do
  let lpPollPeriodSec := setup.period
  let capacity := orDefault capacityMah packCapacityMah
  let mid ← cadenceCurrentUa cadenceS none setup phaseTimesS
  let low ← cadenceCurrentUa cadenceS (some cpuCurrentMaLow) setup phaseTimesS
  let high ← cadenceCurrentUa cadenceS (some cpuCurrentMaHigh) setup phaseTimesS
  let batteryUa := railToBatteryUa mid
  let deviceUa := batteryUa + boardFixedUa
  let extraUa ← sensorSamplesExtraUa setup.sensorSamples lpPollPeriodSec
  let days ← runtimeDays mid (some capacity)
  pure
    { lpPollIntervalSec := lpPollIntervalS setup.sensorSamples lpPollPeriodSec
      capacityMah := capacity
      midUa := mid
      lowUa := low
      highUa := high
      extraUa := extraUa
      batteryUa := batteryUa
      deviceUa := deviceUa
      runtimeDays := days
      reconciliation := measuredUa.map fun measured =>
        let scaled := scaleMeasurement measured capacity none
        let residual := impliedSelfDischarge scaled deviceUa (some capacity)
        { scaledMeasuredUa := scaled
          residualUa := residual.1
          residualPctPerMonth := residual.2
          capacityFloors := capacityFloorStepsPct.map fun floorPct =>
            (floorPct, capacityFloor measured deviceUa floorPct none) } }

/-! ## What a window draws -/

theorem bind_ok_iff {α β : Type} {first : Except ModelError α} {rest : α → Except ModelError β}
    {result : β} :
    (first >>= rest) = .ok result ↔ ∃ value, first = .ok value ∧ rest value = .ok result := by
  cases first with
  | error error =>
    constructor
    · intro never
      cases never
    · rintro ⟨_, never, -⟩
      cases never
  | ok value =>
    constructor
    · intro same
      exact ⟨value, rfl, same⟩
    · rintro ⟨_, ⟨⟩, same⟩
      exact same

theorem divided_ok_iff {a b quotient : ℚ} :
    divided a b = .ok quotient ↔ b ≠ 0 ∧ quotient = a / b := by
  unfold divided
  split
  case isTrue none_ => simp [none_]
  case isFalse some_ =>
    constructor
    · intro same
      exact ⟨some_, (Except.ok.inj same).symm⟩
    · rintro ⟨-, rfl⟩
      rfl

/-- Inside of rising points there is a value, and it lies between theirs. -/
theorem alongPoints_between {low : Int × Int} {points : List (Int × Int)}
    (rises : BatteryCurve.Rises low points) {x : ℚ} (above : (low.1 : ℚ) ≤ x) (top : Int)
    (covers : ∃ point ∈ points, x ≤ point.1) (bounded : ∀ point ∈ points, point.2 ≤ top) :
    ∃ y, alongPoints x low points = some y ∧ (low.2 : ℚ) ≤ y ∧ y ≤ top := by
  induction points generalizing low with
  | nil =>
    obtain ⟨point, never, -⟩ := covers
    cases never
  | cons high rest ih =>
    obtain ⟨wide, rise, later⟩ := rises
    have width := BatteryCurve.width_pos wide
    have rise_ : (low.2 : ℚ) ≤ high.2 := by exact_mod_cast rise
    have high_ : (high.2 : ℚ) ≤ top := by exact_mod_cast bounded high List.mem_cons_self
    rw [alongPoints]
    split
    case isTrue within =>
      have share : (x - low.1) * (high.2 - low.2) / (high.1 - low.1) ≤ (high.2 : ℚ) - low.2 := by
        rw [div_le_iff₀ width]
        nlinarith [within.2]
      have grows : 0 ≤ (x - low.1) * (high.2 - low.2) / ((high.1 : ℚ) - low.1) := by
        apply div_nonneg _ width.le
        exact mul_nonneg (sub_nonneg.mpr above) (sub_nonneg.mpr rise_)
      refine ⟨_, rfl, ?_, ?_⟩ <;> linarith
    case isFalse beyond =>
      have behind : (high.1 : ℚ) < x := not_le.mp fun le => beyond ⟨above, le⟩
      obtain ⟨point, listed, reaches⟩ := covers
      have inRest : point ∈ rest := by
        rcases List.mem_cons.mp listed with rfl | inRest
        · exact absurd reaches (not_le.mpr behind)
        · exact inRest
      obtain ⟨y, found, low_, high_⟩ := ih later behind.le ⟨point, inRest, reaches⟩
        fun other listed => bounded other (List.mem_cons_of_mem high listed)
      exact ⟨y, found, rise_.trans low_, high_⟩

theorem txCurrentMa_between (txPowerDbm : Option ℚ) :
    ∃ ma, txCurrentMa txPowerDbm = some ma ∧ 92 ≤ ma ∧ ma ≤ 305 := by
  unfold txCurrentMa
  dsimp only
  generalize txPowerDbm.getD txPowerDbmDefault = dbm
  by_cases low : dbm ≤ -15
  · rw [if_pos low]
    exact ⟨92, rfl, le_rfl, by norm_num⟩
  · rw [if_neg low]
    by_cases high : 20 ≤ dbm
    · rw [if_pos high]
      exact ⟨305, rfl, by norm_num, le_rfl⟩
    · rw [if_neg high]
      have rises : BatteryCurve.Rises (-15, 92) txCurrentByDbm.tail := by
        simp [BatteryCurve.Rises, txCurrentByDbm]
      have above : (((-15 : Int), (92 : Int)).1 : ℚ) ≤ dbm := by
        push_cast
        linarith
      obtain ⟨ma, found, least, most⟩ := alongPoints_between rises above 305
        ⟨(20, 305), by decide, by push_cast; linarith⟩ (by decide)
      exact ⟨ma, found, by exact_mod_cast least, by exact_mod_cast most⟩

def averageUa (windowS : ℚ) (times : PhaseTimes) (txMa cpuMa extraUa : ℚ) : ℚ :=
  sleepCurrentUa * (windowS - times.awakeS) / windowS +
    (times.txS * txMa + times.rxS * rxCurrentMa + times.cpuS * cpuMa) * 1000 / windowS + extraUa

theorem modelAvgCurrentUa_ok_iff {windowS : ℚ} {times : PhaseTimes} {cpuCurrentMa : Option ℚ}
    {setup : Setup} {ua : ℚ} :
    modelAvgCurrentUa windowS times cpuCurrentMa setup = .ok ua ↔
      times.awakeS ≤ windowS ∧ windowS ≠ 0 ∧
        ∃ txMa extraUa, txCurrentMa setup.txPowerDbm = some txMa ∧
          sensorSamplesExtraUa setup.sensorSamples setup.period = .ok extraUa ∧
            ua = averageUa windowS times txMa
              (cpuCurrentMa.getD ((cpuCurrentMaLow + cpuCurrentMaHigh) / 2)) extraUa := by
  obtain ⟨txMa, tx, -, -⟩ := txCurrentMa_between setup.txPowerDbm
  unfold modelAvgCurrentUa
  rw [tx]
  by_cases short : windowS - times.awakeS < 0
  · constructor
    · intro raised
      simp [short] at raised
      cases raised
    · rintro ⟨fits, -⟩
      exact absurd fits (by linarith)
  · simp only [if_neg short]
    constructor
    · intro made
      obtain ⟨_, ⟨⟩, made⟩ := bind_ok_iff.mp made
      obtain ⟨sleep, slept, made⟩ := bind_ok_iff.mp made
      obtain ⟨awake, woke, made⟩ := bind_ok_iff.mp made
      obtain ⟨extraUa, extra, made⟩ := bind_ok_iff.mp made
      obtain ⟨some_, rfl⟩ := divided_ok_iff.mp slept
      obtain ⟨-, rfl⟩ := divided_ok_iff.mp woke
      exact ⟨by linarith, some_, txMa, extraUa, rfl, extra, (Except.ok.inj made).symm⟩
    · rintro ⟨-, some_, _, extraUa, ⟨⟩, extra, rfl⟩
      apply bind_ok_iff.mpr
      refine ⟨txMa, rfl, bind_ok_iff.mpr ⟨_, divided_ok_iff.mpr ⟨some_, rfl⟩, ?_⟩⟩
      refine bind_ok_iff.mpr ⟨_, divided_ok_iff.mpr ⟨some_, rfl⟩, ?_⟩
      exact bind_ok_iff.mpr ⟨extraUa, extra, rfl⟩

theorem lpActiveTimeS_ge (sensorSamples : Int) : lpActiveTimeS 1 ≤ lpActiveTimeS sensorSamples := by
  have more : (1 : ℚ) ≤ ((max sensorSamples 1 : Int) : ℚ) := by exact_mod_cast le_max_right _ _
  unfold lpActiveTimeS lpMeasureS lpInterSampleS
  push_cast at more ⊢
  rw [max_self]
  linarith

/-- Where the core sleeps between polls, more samples never save anything. -/
theorem sensorSamplesExtraUa_nonneg {sensorSamples : Int} {period extraUa : ℚ}
    (sleeps : 0 ≤ lpPollIntervalS sensorSamples period)
    (extra : sensorSamplesExtraUa sensorSamples period = .ok extraUa) : 0 ≤ extraUa := by
  obtain ⟨sampled, busy, made⟩ := bind_ok_iff.mp extra
  obtain ⟨once, idle, made⟩ := bind_ok_iff.mp made
  obtain ⟨-, rfl⟩ := divided_ok_iff.mp busy
  obtain ⟨-, rfl⟩ := divided_ok_iff.mp idle
  obtain rfl := Except.ok.inj made
  have some_ : 0 < lpActiveTimeS 1 := by decide +kernel
  have more := lpActiveTimeS_ge sensorSamples
  generalize lpPollIntervalS sensorSamples period = sleepS at sleeps
  have less : lpActiveTimeS 1 / (sleepS + lpActiveTimeS 1) ≤
      lpActiveTimeS sensorSamples / (sleepS + lpActiveTimeS sensorSamples) := by
    rw [div_le_div_iff₀ (by linarith) (by linarith)]
    nlinarith
  apply mul_nonneg (by decide +kernel)
  linarith

/-- Phases that took no negative time. -/
structure PhaseTimes.Lasting (times : PhaseTimes) : Prop where
  tx : 0 ≤ times.txS
  rx : 0 ≤ times.rxS
  cpu : 0 ≤ times.cpuS

theorem averageUa_nonneg {windowS : ℚ} {times : PhaseTimes} {txMa cpuMa extraUa : ℚ}
    (lasting : times.Lasting) (fits : times.awakeS ≤ windowS) (tx : 0 ≤ txMa) (cpu : 0 ≤ cpuMa)
    (extra : 0 ≤ extraUa) : 0 ≤ averageUa windowS times txMa cpuMa extraUa := by
  obtain ⟨txS, rxS, cpuS⟩ := lasting
  have awake : 0 ≤ times.awakeS := add_nonneg (add_nonneg txS rxS) cpuS
  have rests : 0 ≤ windowS - times.awakeS := sub_nonneg.mpr fits
  have window := awake.trans fits
  have sleeps : 0 ≤ sleepCurrentUa := by decide +kernel
  have receives : 0 ≤ rxCurrentMa := by decide +kernel
  unfold averageUa
  positivity

theorem averageUa_mono {windowS : ℚ} {times : PhaseTimes} {txMa cpuMa cpuMa' : ℚ} (extraUa : ℚ)
    (lasting : times.Lasting) (fits : times.awakeS ≤ windowS) (le : cpuMa ≤ cpuMa') :
    averageUa windowS times txMa cpuMa extraUa ≤ averageUa windowS times txMa cpuMa' extraUa := by
  obtain ⟨txS, rxS, cpuS⟩ := lasting
  have window : 0 ≤ windowS := (add_nonneg (add_nonneg txS rxS) cpuS).trans fits
  unfold averageUa
  gcongr

/-! ## The totals and the cycles -/

/-- The totals of a window against its cycles: over the gaps between so many
cycles, and with the phases shared among the cycles, the per-cycle form does not
raise where the totals do not, and falls short by one cycle's share of what the
device drew awake. -/
theorem forms_apart {seconds : ℚ} {times : PhaseTimes} {cpuCurrentMa : Option ℚ} {setup : Setup}
    {whole : ℚ} (lasting : times.Lasting)
    (totals : modelAvgCurrentUa seconds times cpuCurrentMa setup = .ok whole) {cycles : ℕ}
    (two : 2 ≤ cycles) :
    ∃ cycle extraUa, cadenceCurrentUa (seconds / (cycles - 1)) cpuCurrentMa setup
          (some (times.per cycles)) = .ok cycle ∧
        sensorSamplesExtraUa setup.sensorSamples setup.period = .ok extraUa ∧
          cycles * (whole - cycle) = whole - sleepCurrentUa - extraUa := by
  obtain ⟨fits, some_, txMa, extraUa, tx, extra, rfl⟩ := modelAvgCurrentUa_ok_iff.mp totals
  obtain ⟨txS, rxS, cpuS⟩ := lasting
  have awake : 0 ≤ times.awakeS := add_nonneg (add_nonneg txS rxS) cpuS
  have several : (2 : ℚ) ≤ cycles := by exact_mod_cast two
  have gaps : (0 : ℚ) < cycles - 1 := by linarith
  have shares : (times.per cycles).awakeS = times.awakeS / cycles := by
    unfold PhaseTimes.awakeS PhaseTimes.per
    ring
  refine ⟨_, extraUa, modelAvgCurrentUa_ok_iff.mpr
    ⟨?_, div_ne_zero some_ gaps.ne', txMa, extraUa, tx, extra, rfl⟩, extra, ?_⟩
  · rw [Option.getD_some, shares, div_le_div_iff₀ (by linarith) gaps]
    nlinarith
  · unfold averageUa
    rw [Option.getD_some, shares]
    unfold PhaseTimes.per
    have many : (cycles : ℚ) ≠ 0 := by linarith
    field_simp
    ring

/-! ## The smallest capacity -/

theorem orDefault_some {value default_ : ℚ} (given : value ≠ 0) :
    orDefault (some value) default_ = value := by
  unfold orDefault
  rw [Option.getD_some, if_neg given]

/-- From the floor up, and only there, the residual is the self-discharge that
the floor was asked for. -/
theorem capacityFloor_le_iff {measuredUa deviceUa : ℚ} (floorPct : ℚ) (draws : 0 < deviceUa)
    {capacity : ℚ} (positive : 0 < capacity) :
    capacityFloor measuredUa deviceUa floorPct none ≤ (capacity : WithTop ℚ) ↔
      floorPct ≤ (impliedSelfDischarge (scaleMeasurement measuredUa capacity none) deviceUa
        (some capacity)).2 := by
  have residual : floorPct ≤ (impliedSelfDischarge (scaleMeasurement measuredUa capacity none)
        deviceUa (some capacity)).2 ↔
      deviceUa ≤ capacity * (measuredUa / packCapacityMah - floorPct / (7305 / 100)) := by
    unfold impliedSelfDischarge scaleMeasurement
    dsimp only
    rw [orDefault_some positive.ne']
    have percent : (measuredUa * capacity / orDefault none packCapacityMah - deviceUa) / 1000 *
        (7305 / 10) / capacity * 100 =
        (capacity * (measuredUa / packCapacityMah) - deviceUa) * (7305 / 100) / capacity := by
      show (measuredUa * capacity / packCapacityMah - deviceUa) / 1000 * (7305 / 10) / capacity *
        100 = _
      ring
    rw [percent, le_div_iff₀ positive]
    constructor <;> intro bound <;> linarith
  rw [residual]
  unfold capacityFloor
  dsimp only
  show (if 0 < measuredUa / packCapacityMah - floorPct / (7305 / 100) then
    ((deviceUa / (measuredUa / packCapacityMah - floorPct / (7305 / 100)) : ℚ) : WithTop ℚ)
      else ⊤) ≤ _ ↔ _
  generalize measuredUa / packCapacityMah - floorPct / (7305 / 100) = slope
  by_cases rises : 0 < slope
  · rw [if_pos rises, WithTop.coe_le_coe, div_le_iff₀ rises]
  · rw [if_neg rises, top_le_iff]
    constructor
    · intro never
      cases never
    · intro bound
      nlinarith

theorem powerBudget_ok {cadenceS : ℚ} {setup : Setup} {capacityMah measuredUa : Option ℚ}
    {phaseTimesS : Option PhaseTimes} {budget : Budget}
    (made : powerBudget cadenceS setup capacityMah measuredUa phaseTimesS = .ok budget) :
    cadenceCurrentUa cadenceS none setup phaseTimesS = .ok budget.midUa ∧
      cadenceCurrentUa cadenceS (some cpuCurrentMaLow) setup phaseTimesS = .ok budget.lowUa ∧
      cadenceCurrentUa cadenceS (some cpuCurrentMaHigh) setup phaseTimesS = .ok budget.highUa ∧
      sensorSamplesExtraUa setup.sensorSamples setup.period = .ok budget.extraUa ∧
      budget.midUa / 1000 ≠ 0 ∧ budget.deviceUa = railToBatteryUa budget.midUa + boardFixedUa ∧
      budget.lpPollIntervalSec = lpPollIntervalS setup.sensorSamples setup.period ∧
      budget.reconciliation = measuredUa.map fun measured =>
        let capacity := orDefault capacityMah packCapacityMah
        let residual := impliedSelfDischarge (scaleMeasurement measured capacity none)
          budget.deviceUa (some capacity)
        { scaledMeasuredUa := scaleMeasurement measured capacity none
          residualUa := residual.1
          residualPctPerMonth := residual.2
          capacityFloors := capacityFloorStepsPct.map fun floorPct =>
            (floorPct, capacityFloor measured budget.deviceUa floorPct none) } := by
  obtain ⟨mid, mid_, made⟩ := bind_ok_iff.mp made
  obtain ⟨low, low_, made⟩ := bind_ok_iff.mp made
  obtain ⟨high, high_, made⟩ := bind_ok_iff.mp made
  obtain ⟨extra, extra_, made⟩ := bind_ok_iff.mp made
  obtain ⟨days, days_, made⟩ := bind_ok_iff.mp made
  obtain ⟨hours, hours_, -⟩ := bind_ok_iff.mp days_
  obtain rfl := Except.ok.inj made
  exact ⟨mid_, low_, high_, extra_, (divided_ok_iff.mp hours_).1, rfl, rfl, rfl⟩

theorem powerBudget_at {cadenceS : ℚ} {setup : Setup} {capacityMah measuredUa : Option ℚ}
    {phaseTimesS : Option PhaseTimes} {budget : Budget}
    (made : powerBudget cadenceS setup capacityMah measuredUa phaseTimesS = .ok budget)
    (capacity : Option ℚ) :
    ∃ other, powerBudget cadenceS setup capacity measuredUa phaseTimesS = .ok other ∧
      other.deviceUa = budget.deviceUa := by
  obtain ⟨mid, low, high, extra, some_, device, -⟩ := powerBudget_ok made
  refine ⟨_, bind_ok_iff.mpr ⟨_, mid, bind_ok_iff.mpr ⟨_, low, bind_ok_iff.mpr ⟨_, high,
    bind_ok_iff.mpr ⟨_, extra, bind_ok_iff.mpr ⟨_, bind_ok_iff.mpr ⟨_, divided_ok_iff.mpr
      ⟨some_, rfl⟩, rfl⟩, rfl⟩⟩⟩⟩⟩, device.symm⟩

/-- In every budget from phases that took no negative time and polls with sleep
between them the figures are in order, and each of its smallest capacities is
exactly where the budget at another capacity would leave that much self-discharge. -/
theorem powerBudget_floors {cadenceS : ℚ} {setup : Setup} {capacityMah : Option ℚ}
    {measuredUa : ℚ} {phaseTimesS : Option PhaseTimes} {budget : Budget}
    (made : powerBudget cadenceS setup capacityMah (some measuredUa) phaseTimesS = .ok budget)
    (lasting : (phaseTimesS.getD calibration).Lasting) (sleeps : 0 ≤ budget.lpPollIntervalSec) :
    budget.lowUa ≤ budget.midUa ∧ budget.midUa ≤ budget.highUa ∧
      ∃ found, budget.reconciliation = some found ∧ ∀ capacity : ℚ, 0 < capacity →
        ∃ other there, powerBudget cadenceS setup (some capacity) (some measuredUa) phaseTimesS =
            .ok other ∧ other.reconciliation = some there ∧ ∀ entry ∈ found.capacityFloors,
              (entry.2 ≤ (capacity : WithTop ℚ) ↔ entry.1 ≤ there.residualPctPerMonth) := by
  obtain ⟨mid, low, high, extra, -, device, interval, found⟩ := powerBudget_ok made
  obtain ⟨fits, -, txMa, extraUa, tx, extra', mid_⟩ := modelAvgCurrentUa_ok_iff.mp mid
  obtain ⟨-, -, txMaLow, extraLow, txLow, extraLow', low_⟩ := modelAvgCurrentUa_ok_iff.mp low
  obtain ⟨-, -, txMaHigh, extraHigh, txHigh, extraHigh', high_⟩ := modelAvgCurrentUa_ok_iff.mp high
  obtain rfl := Option.some.inj (tx.symm.trans txLow)
  obtain rfl := Option.some.inj (tx.symm.trans txHigh)
  obtain rfl := Except.ok.inj (extra'.symm.trans extraLow')
  obtain rfl := Except.ok.inj (extra'.symm.trans extraHigh')
  obtain ⟨ma, tx', least, -⟩ := txCurrentMa_between setup.txPowerDbm
  obtain rfl := Option.some.inj (tx.symm.trans tx')
  rw [interval] at sleeps
  have more := sensorSamplesExtraUa_nonneg sleeps extra'
  have rail : 0 ≤ budget.midUa := by
    rw [mid_]
    exact averageUa_nonneg lasting fits (by linarith) (by decide +kernel) more
  have draws : 0 < budget.deviceUa := by
    have factor : 0 ≤ railToBatteryUa budget.midUa := by
      unfold railToBatteryUa railVoltage packMeanVoltage buckEfficiency
      positivity
    have board : 0 < boardFixedUa := by decide +kernel
    rw [device]
    linarith
  refine ⟨?_, ?_, _, found, fun capacity positive => ?_⟩
  · rw [low_, mid_]
    exact averageUa_mono extraUa lasting fits (by decide +kernel)
  · rw [mid_, high_]
    exact averageUa_mono extraUa lasting fits (by decide +kernel)
  · obtain ⟨other, there, same⟩ := powerBudget_at made (some capacity)
    obtain ⟨-, -, -, -, -, -, -, reconciled⟩ := powerBudget_ok there
    refine ⟨other, _, there, reconciled, fun entry listed => ?_⟩
    obtain ⟨floorPct, -, rfl⟩ := List.mem_map.mp listed
    dsimp only
    rw [orDefault_some positive.ne', same]
    exact capacityFloor_le_iff floorPct draws positive

/-- The first of the two reconciled windows. -/
def windowSetup : Setup := { sensorSamples := 4, lpPollPeriodSec := some (203442 / 10000) }

def phaseTimesWindowAS : PhaseTimes :=
  { txS := 9901 / 100000, rxS := 36425 / 100000, cpuS := 49826 / 100000 }

theorem windowBudget_made : ∃ budget,
    powerBudget (23434 / 100) windowSetup none (some 600) (some phaseTimesWindowAS) =
      .ok budget := by
  have made : (powerBudget (23434 / 100) windowSetup none (some 600)
      (some phaseTimesWindowAS)).toBool = true := by decide +kernel
  cases result : powerBudget (23434 / 100) windowSetup none (some 600)
      (some phaseTimesWindowAS) with
  | error error =>
    rw [result] at made
    cases made
  | ok budget => exact ⟨budget, rfl⟩

theorem powerBudget_floors_window : ∃ budget found,
    powerBudget (23434 / 100) windowSetup none (some 600) (some phaseTimesWindowAS) = .ok budget ∧
      budget.reconciliation = some found ∧ ∀ capacity : ℚ, 0 < capacity →
        ∃ other there, powerBudget (23434 / 100) windowSetup (some capacity) (some 600)
            (some phaseTimesWindowAS) = .ok other ∧ other.reconciliation = some there ∧
          ∀ entry ∈ found.capacityFloors,
            (entry.2 ≤ (capacity : WithTop ℚ) ↔ entry.1 ≤ there.residualPctPerMonth) := by
  obtain ⟨budget, made⟩ := windowBudget_made
  obtain ⟨-, -, -, -, -, -, interval, -⟩ := powerBudget_ok made
  have sleeps : 0 ≤ budget.lpPollIntervalSec := by
    rw [interval]
    decide +kernel
  have lasting : phaseTimesWindowAS.Lasting :=
    ⟨by decide +kernel, by decide +kernel, by decide +kernel⟩
  obtain ⟨-, -, found, reconciled, floors⟩ := powerBudget_floors made lasting sleeps
  exact ⟨budget, found, made, reconciled, floors⟩

end SleepySensor.PowerModel
