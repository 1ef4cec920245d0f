import SleepySensor.LpCycles
import SleepySensor.SkipBudget

/-!
# The heater schedule

Two counters of sensor-ok cycles decide on heater maintenance: one for the
periodic self-test, one for the creep mitigation after a stretch of high
humidity.  The history variable keeps, for each LP cycle, the settings it began
with, the humidity it went by, and what it sent to the sensor.
-/

set_option autoImplicit false

namespace SleepySensor.HeaterSchedule

open SleepySensor.LpCore SleepySensor.Snapshot FloatOps

structure CycleRecord where
  /-- `heater_period_cycles` as the cycle began. -/
  period : Nat := 0
  /-- `high_rh_trigger_cycles` as the cycle began. -/
  trigger : Nat := 0
  ok : Bool := false
  rawHumPct : Flt := .fin 0
  /-- The calibrated RH of the reading before any heating. -/
  calibratedRh : Option Flt := none
  entered : Bool := false
  /-- The heater commands sent. -/
  pulses : List Nat := []
  /-- The maintenance got past its baseline read. -/
  heated : Bool := false
  /-- `cycles_since_heater` as the cycle left it. -/
  sinceHeater : Nat := 0
  /-- `high_rh_cycles` as the cycle left it. -/
  highRh : Nat := 0
  deriving DecidableEq, Repr

structure History where
  current : CycleRecord := {}
  cycles : List CycleRecord := []
  deriving DecidableEq, Repr

abbrev Observed := HpLp × History

namespace CycleRecord

def sent (cmd : Nat) (cycle : CycleRecord) : CycleRecord :=
  if cmd = kCmdMeasureHigh then cycle else { cycle with pulses := cmd :: cycle.pulses }

def stored : (field : Field) → field.Val → CycleRecord → CycleRecord
  | .u .sensorOk, value, cycle => { cycle with ok := decide ((value : Nat) ≠ 0) }
  | .f .rawHumPct, value, cycle =>
    if cycle.entered then cycle else { cycle with rawHumPct := value }
  | .u .heaterActive, value, cycle =>
    { cycle with entered := cycle.entered || decide ((value : Nat) ≠ 0) }
  | .u .heaterRunCount, _, cycle => { cycle with heated := true }
  | .u .cyclesSinceHeater, value, cycle => { cycle with sinceHeater := value }
  | .u .highRhCycles, value, cycle => { cycle with highRh := value }
  | _, _, cycle => cycle

/-- The words a cycle record is about, the settings included. -/
def fields : List Field :=
  [.u .sensorOk, .f .rawHumPct, .u .heaterActive, .u .heaterRunCount, .u .cyclesSinceHeater,
    .u .highRhCycles, .u .heaterPeriodCycles, .u .highRhTriggerCycles]

/-- What a load of a word must answer. -/
def Reads (cycle : CycleRecord) : (field : Field) → field.Val → Prop
  | .u .cyclesSinceHeater, value => (value : Nat) = cycle.sinceHeater
  | .u .highRhCycles, value => (value : Nat) = cycle.highRh
  | .u .heaterPeriodCycles, value => (value : Nat) = cycle.period
  | .u .highRhTriggerCycles, value => (value : Nat) = cycle.trigger
  | _, _ => True

section Program

variable [FloatOps]

/-- The first load of the offset in a cycle is for the high-RH count. -/
def loaded : (field : Field) → field.Val → CycleRecord → CycleRecord
  | .f .rhOffsetPct, offset, cycle =>
    if cycle.calibratedRh.isSome then cycle
    else
      { cycle with
        calibratedRh := some (clampf (add cycle.rawHumPct offset) (lit 0) (lit 100)) }
  | _, _, cycle => cycle

def humid (cycle : CycleRecord) : Bool := cycle.calibratedRh.any fun rh => (lit 90).lt rh

end Program

end CycleRecord

section Program

variable [FloatOps]

def performed (memory : Shared) : LpOp → CycleRecord → CycleRecord
  | .load field, cycle => cycle.loaded field (memory field)
  | .store field value, cycle => cycle.stored field value
  | .i2cWrite cmd, cycle => cycle.sent cmd
  | _, cycle => cycle

/-- A cycle begins with the settings and the counters of the shared memory. -/
def opened (memory : Shared) (last : CycleRecord) : CycleRecord :=
  { period := memory (.u .heaterPeriodCycles), trigger := memory (.u .highRhTriggerCycles)
    sinceHeater := last.sinceHeater, highRh := last.highRh }

def record (system : HpLp) (action : Action) (history : History) : History :=
  match action, system.lp with
  | .lpTimer, _ => { history with current := opened system.lock.memory history.current }
  | .lpStep _, some (.ret _) => { history with cycles := history.cycles ++ [history.current] }
  | .lpStep _, some (.call op _) =>
    { history with current := performed system.lock.memory op history.current }
  | _, _ => history

def step : Observed → Action → Option Observed := Runs.observe Snapshot.step record

end Program

def scheduleWord : Field → Bool
  | .u .heaterPeriodCycles | .u .highRhTriggerCycles => true
  | _ => false

/-- HP stores the two settings between cycles only. -/
def BetweenCycles (state : Observed) : Action → Prop
  | .hpStore field _ => scheduleWord field = true → state.1.lp.isNone = true
  | _ => True

instance : (state : Observed) → (action : Action) → Decidable (BetweenCycles state action)
  | state, .hpStore field _ =>
    inferInstanceAs (Decidable (scheduleWord field = true → state.1.lp.isNone = true))
  | _, .lpTimer | _, .lpStep _ | _, .getState _ | _, .readerStep => instDecidableTrue

/-! ## What the schedule asks for -/

section Program

variable [FloatOps]

/-- The cycles after the last one that entered maintenance, newest first. -/
def sinceEntry (past : List CycleRecord) : List CycleRecord :=
  past.reverse.takeWhile fun cycle => !cycle.entered

/-- The sensor-ok cycles since the last entry. -/
def okSince (past : List CycleRecord) : Nat :=
  ((sinceEntry past).filter CycleRecord.ok).length

/-- The streak of sensor-ok cycles above 90 % since the last entry. -/
def humidStreak (past : List CycleRecord) : Nat :=
  (((sinceEntry past).filter CycleRecord.ok).takeWhile CycleRecord.humid).length

/-- The counts with this cycle, a sensor-ok one, included. -/
def PeriodicDue (since : Nat) (cycle : CycleRecord) : Prop :=
  0 < cycle.period ∧ cycle.period ≤ since + 1

def HumidDue (streak : Nat) (cycle : CycleRecord) : Prop :=
  0 < cycle.trigger ∧ cycle.trigger ≤ if cycle.humid then streak + 1 else 0

/-- What a cycle does about the heater, when the counts were `since` and `streak`. -/
structure Settled (since streak : Nat) (cycle : CycleRecord) : Prop where
  failed : cycle.ok = false → cycle.entered = false ∧ cycle.pulses = []
  enters : cycle.ok = true →
    (cycle.entered = true ↔ PeriodicDue since cycle ∨ HumidDue streak cycle)
  creep : ∀ cmd ∈ cycle.pulses,
    (cmd = kCmdHeaterHighLong ↔ HumidDue streak cycle) ∧
      (cmd = kCmdHeaterMediumShort ↔ ¬ HumidDue streak cycle)
  pulsed : cycle.heated = true → cycle.pulses ≠ []

end Program

/-! ## One cycle -/

section Program

variable [FloatOps]

def scheduleContract : Prog.Contract LpOp LpOp.Res CycleRecord where
  may _ op := match op with
    | .store field _ => scheduleWord field = false
    | _ => True
  effect cycle op answer after := match op, answer with
    | .load field, value => after = cycle.loaded field value ∧ cycle.Reads field value
    | .store field value, _ => after = cycle.stored field value
    | .i2cWrite cmd, _ => after = cycle.sent cmd
    | _, _ => after = cycle

def OtherOp : LpOp → Prop
  | .load field => field ≠ .f .rhOffsetPct
  | .store field _ => field ∉ CycleRecord.fields
  | .i2cWrite cmd => cmd = kCmdMeasureHigh
  | _ => True

variable {cycle : CycleRecord}

theorem loaded_other {field : Field} (value : field.Val) (other : field ≠ .f .rhOffsetPct)
    (cycle : CycleRecord) : cycle.loaded field value = cycle := by
  rcases field with field | field <;> cases field <;> first | rfl | exact absurd rfl other

omit [FloatOps] in
theorem stored_other {field : Field} (value : field.Val) (other : field ∉ CycleRecord.fields)
    (cycle : CycleRecord) : cycle.stored field value = cycle := by
  rcases field with field | field <;> cases field <;>
    first | rfl | exact absurd (by decide) other

omit [FloatOps] in
theorem scheduleWord_other {field : Field} (other : field ∉ CycleRecord.fields) :
    scheduleWord field = false := by
  rcases field with field | field <;> cases field <;>
    first | rfl | exact absurd (by decide) other

theorem wp_other {α : Type} {program : LpProg α} (only : program.Only OtherOp) :
    program.wp scheduleContract cycle fun after _ => after = cycle := by
  apply Prog.wp_of_only only
  · intro op other
    cases op with
    | store field value => exact scheduleWord_other other
    | _ => trivial
  · intro op answer after other changed
    cases op with
    | load field => exact changed.1.trans (loaded_other answer other cycle)
    | store field value =>
      exact (show after = _ from changed).trans (stored_other value other cycle)
    | i2cWrite cmd => exact (show after = _ from changed).trans (if_pos other)
    | _ => exact changed

omit [FloatOps] in
theorem sensor_other (op : LpOp) (sensor : SensorOp [kCmdMeasureHigh] op) : OtherOp op := by
  cases op with
  | i2cWrite cmd => exact List.mem_singleton.mp sensor
  | load field => exact sensor.elim
  | store field value => exact sensor.elim
  | _ => trivial

theorem wp_store {field : Field} {value : field.Val} (allowed : scheduleWord field = false) :
    (Prog.perform (LpOp.store field value)).wp scheduleContract cycle fun after _ =>
      after = cycle.stored field value :=
  Prog.wp_perform allowed fun _ _ changed => changed

theorem wp_load {field : Field} (other : field ≠ .f .rhOffsetPct) :
    (Prog.perform (LpOp.load field)).wp scheduleContract cycle fun after value =>
      after = cycle ∧ cycle.Reads field value :=
  Prog.wp_perform trivial fun answer _ changed =>
    ⟨changed.1.trans (loaded_other answer other cycle), changed.2⟩

omit [FloatOps] in
theorem store_other {field : Field} (value : field.Val) (other : field ∉ CycleRecord.fields) :
    (Prog.perform (LpOp.store field value) : LpProg Unit).Only OtherOp :=
  Prog.only_perform other

theorem wp_increment_other {field : UField} (other : Field.u field ∉ CycleRecord.fields) :
    (increment field).wp scheduleContract cycle fun after _ => after = cycle :=
  wp_other (Prog.only_bind (Prog.only_perform (by rintro ⟨⟩)) fun _ => Prog.only_perform other)

theorem wp_consumeAck :
    consumeAck.wp scheduleContract cycle fun after _ => after = cycle := by
  have load : ∀ field, field ≠ .f .rhOffsetPct →
      (Prog.perform (LpOp.load field) : LpProg field.Val).Only OtherOp := fun _ other =>
    Prog.only_perform other
  refine wp_other (Prog.only_bind (load _ (by decide)) fun hpAckSeq => ?_)
  refine Prog.only_bind (Prog.only_perform trivial) fun lastConsumed => ?_
  split
  · refine Prog.only_bind (load _ (by decide)) fun _ => ?_
    refine Prog.only_bind (store_other _ (by decide)) fun _ => ?_
    refine Prog.only_bind (load _ (by decide)) fun _ => ?_
    refine Prog.only_bind (store_other _ (by decide)) fun _ => ?_
    refine Prog.only_bind (store_other _ (by decide)) fun _ => ?_
    exact Prog.only_bind (load _ (by decide)) fun _ => Prog.only_perform trivial
  · trivial

theorem wp_recordOutcome (ok : Bool) :
    (recordOutcome ok).wp scheduleContract cycle fun after _ =>
      after = { cycle with ok := ok } := by
  apply Prog.wp_seq (wp_increment_other (by decide))
  rintro _ _ rfl
  apply Prog.wp_seq (wp_store rfl)
  rintro _ _ rfl
  cases ok with
  | true => exact wp_other (store_other _ (by decide))
  | false => exact wp_increment_other (by decide)

theorem wp_heaterDue {schedule counter : UField} {limit count : Nat}
    (limits : ∀ value, cycle.Reads (.u schedule) value → value = limit)
    (counts : ∀ value, cycle.Reads (.u counter) value → value = count) :
    (heaterDue schedule counter).wp scheduleContract cycle fun after due =>
      after = cycle ∧ (due = true ↔ 0 < limit ∧ limit ≤ count) := by
  apply Prog.wp_seq (wp_load (by rintro ⟨⟩))
  rintro after first ⟨rfl, read⟩
  have isLimit := limits first read
  subst isLimit
  by_cases enabled : 0 < first
  · simp only [if_pos enabled]
    apply Prog.wp_seq (wp_load (by rintro ⟨⟩))
    rintro after counted ⟨rfl, read⟩
    have isCount := counts counted read
    subst isCount
    apply Prog.wp_seq (wp_load (by rintro ⟨⟩))
    rintro after again ⟨rfl, read⟩
    have isLimit := limits again read
    subst isLimit
    exact ⟨rfl, by simp [enabled]⟩
  · simp only [if_neg enabled]
    exact ⟨rfl, by simp [enabled]⟩

/-- A cycle on the way to the decision: a good reading, nothing sent to the heater. -/
structure Measured (humPct : Flt) (cycle : CycleRecord) : Prop where
  ok : cycle.ok = true
  raw : cycle.rawHumPct = humPct
  uncalibrated : cycle.calibratedRh = none
  cold : cycle.entered = false
  silent : cycle.pulses = []
  unheated : cycle.heated = false

/-- The decision is taken, and both counters count this cycle. -/
structure Counted (since streak : Nat) (due : HeaterDue) (cycle : CycleRecord) : Prop where
  ok : cycle.ok = true
  calibrated : cycle.calibratedRh.isSome = true
  cold : cycle.entered = false
  silent : cycle.pulses = []
  unheated : cycle.heated = false
  sinceHeater : cycle.sinceHeater = since + 1
  highRh : cycle.highRh = if cycle.humid then streak + 1 else 0
  periodic : due.periodic = true ↔ PeriodicDue since cycle
  humidity : due.humidity = true ↔ HumidDue streak cycle

theorem wp_countHighRh {rh : Flt} (calibrated : cycle.calibratedRh = some rh)
    (small : cycle.highRh + 1 < u32Mod) :
    (countHighRh rh).wp scheduleContract cycle fun after _ =>
      after = { cycle with highRh := if cycle.humid then cycle.highRh + 1 else 0 } := by
  have humid : cycle.humid = kHighRhThreshold.lt rh := by
    unfold CycleRecord.humid
    rw [calibrated]
    rfl
  unfold countHighRh
  rw [humid]
  cases kHighRhThreshold.lt rh with
  | true =>
    apply Prog.wp_seq (wp_load (by rintro ⟨⟩))
    rintro after count ⟨rfl, read⟩
    have isCount : count = after.highRh := read
    subst isCount
    rw [u32_of_lt small]
    exact wp_store rfl
  | false => exact wp_store rfl

theorem wp_heaterSchedule {since streak : Nat} (reading : Reading)
    (measured : Measured reading.humPct cycle) (since_ : cycle.sinceHeater = since)
    (streak_ : cycle.highRh = streak) (fewSince : since + 1 < u32Mod)
    (fewStreak : streak + 1 < u32Mod) :
    (heaterSchedule reading).wp scheduleContract cycle fun after due =>
      Counted since streak due after := by
  obtain ⟨ok, raw, uncalibrated, cold, silent, unheated⟩ := measured
  refine Prog.wp_seq (?_ : Prog.wp scheduleContract _ cycle fun after _ =>
    after = { cycle with sinceHeater := since + 1 }) ?_
  · apply Prog.wp_seq (wp_load (by rintro ⟨⟩))
    rintro after count ⟨rfl, read⟩
    have isCount : count = since := (show count = after.sinceHeater from read).trans since_
    rw [isCount, u32_of_lt fewSince]
    exact wp_store rfl
  · rintro _ _ rfl
    refine Prog.wp_seq (?_ : Prog.wp scheduleContract _ _ fun after offset => after =
      { cycle with
        sinceHeater := since + 1
        calibratedRh := some (clampf (add reading.humPct offset) (lit 0) (lit 100)) }) ?_
    · refine Prog.wp_perform trivial ?_
      rintro offset after ⟨same, -⟩
      rw [same]
      simp only [CycleRecord.loaded, uncalibrated, raw]
      rfl
    · rintro _ offset rfl
      refine Prog.wp_seq (wp_countHighRh rfl (by dsimp only; omega)) ?_
      rintro _ _ rfl
      refine Prog.wp_seq (wp_heaterDue (fun _ read => read) fun _ read => read) ?_
      rintro _ periodic ⟨rfl, isPeriodic⟩
      refine Prog.wp_seq (wp_heaterDue (fun _ read => read) fun _ read => read) ?_
      rintro _ humidity ⟨rfl, isHumid⟩
      subst streak_
      exact ⟨ok, rfl, cold, silent, unheated, rfl, rfl, isPeriodic, isHumid⟩

/-! ## The heater run -/

def heaterCmd (creep : Bool) : Nat :=
  if creep then kCmdHeaterHighLong else kCmdHeaterMediumShort

theorem wp_pulses {α : Type} {program : LpProg α} {cmd : Nat}
    (only : program.Only (SensorOp [kCmdMeasureHigh, cmd])) :
    program.wp scheduleContract cycle fun after _ =>
      ∃ pulses, after = { cycle with pulses := pulses ++ cycle.pulses } ∧
        ∀ pulse ∈ pulses, pulse = cmd := by
  induction program generalizing cycle with
  | ret value => exact ⟨[], rfl, by simp⟩
  | call op next ih =>
    obtain ⟨sensor, following⟩ := only
    cases op with
    | load field => exact sensor.elim
    | store field value => exact sensor.elim
    | loadLastConsumedAckSeq => exact sensor.elim
    | storeLastConsumedAckSeq value => exact sensor.elim
    | wakeupMainProcessor => exact sensor.elim
    | delayUs us =>
      refine ⟨trivial, ?_⟩
      rintro answer _ rfl
      exact ih answer (following answer)
    | i2cRead =>
      refine ⟨trivial, ?_⟩
      rintro answer _ rfl
      exact ih answer (following answer)
    | i2cWrite sent =>
      refine ⟨trivial, ?_⟩
      rintro answer _ rfl
      apply Prog.wp_mono (ih answer (following answer))
      rintro after _ ⟨pulses, same, all⟩
      unfold CycleRecord.sent at same
      split at same
      · exact ⟨pulses, same, all⟩
      · rename_i heater
        have isCmd : sent = cmd := by
          simpa [heater] using show sent ∈ [kCmdMeasureHigh, cmd] from sensor
        refine ⟨pulses ++ [sent], ?_, ?_⟩
        · rw [same]
          simp
        · intro pulse member
          rcases List.mem_append.mp member with later | first
          · exact all pulse later
          · rw [List.mem_singleton.mp first, isCmd]

theorem wp_pulseLoop {cmd : Nat} (heater : cmd ≠ kCmdMeasureHigh) (delay : Nat)
    (minDeltaT t0 : Flt) (more : Nat) (hot : Reading) :
    (pulseLoop cmd delay minDeltaT t0 (more + 1) hot).wp scheduleContract cycle fun after _ =>
      ∃ pulses, after = { cycle with pulses := pulses ++ cycle.pulses } ∧
        (∀ pulse ∈ pulses, pulse = cmd) ∧ pulses ≠ [] := by
  have only : (pulseLoop cmd delay minDeltaT t0 (more + 1) hot).Only
      (SensorOp [kCmdMeasureHigh, cmd]) := pulseLoop_sensor (by simp) _ _ _ _ _
  refine ⟨trivial, ?_⟩
  rintro answer _ rfl
  apply Prog.wp_mono (wp_pulses (only.2 answer))
  rintro after _ ⟨pulses, same, all⟩
  refine ⟨pulses ++ [cmd], ?_, ?_, by simp⟩
  · rw [same]
    simp [CycleRecord.sent, heater]
  · intro pulse member
    rcases List.mem_append.mp member with later | first
    · exact all pulse later
    · exact List.mem_singleton.mp first

/-- A run that gets past its baseline read sends at least one pulse. -/
theorem wp_runHeaterMaintenance {cmd delay : Nat} (minDeltaT : Flt)
    (heater : cmd ≠ kCmdMeasureHigh) (room : 0 < kHeaterDurationMs * 1000 / delay) :
    (runHeaterMaintenance cmd delay minDeltaT).wp scheduleContract cycle fun after run =>
      ∃ pulses, after = { cycle with pulses := pulses ++ cycle.pulses } ∧
        (∀ pulse ∈ pulses, pulse = cmd) ∧ (run.isSome = true → pulses ≠ []) := by
  have plain : (measure kCmdMeasureHigh kMeasureDelayUs).Only (SensorOp [kCmdMeasureHigh]) :=
    measure_sensor List.mem_cons_self _
  apply Prog.wp_seq (wp_other (Prog.only_mono sensor_other plain))
  rintro _ baseline rfl
  cases baseline with
  | none => exact ⟨[], rfl, by simp, fun isSome => by cases isSome⟩
  | some baseline =>
    obtain ⟨more, iterations⟩ : ∃ more, kHeaterDurationMs * 1000 / delay = more + 1 :=
      ⟨_, (Nat.succ_pred_eq_of_pos room).symm⟩
    dsimp only
    rw [iterations]
    apply Prog.wp_seq (wp_pulseLoop heater delay minDeltaT _ more baseline)
    rintro _ hot ⟨pulses, rfl, all, some_⟩
    have cooled := cooldownLoop_sensor (List.mem_cons_self (a := kCmdMeasureHigh) (l := []))
      baseline.tempC (kCooldownMaxMs / kCooldownPollMs) hot
    apply Prog.wp_seq (wp_other (Prog.only_mono sensor_other cooled))
    rintro _ last rfl
    refine Prog.wp_seq (wp_other (Prog.only_perform trivial)) ?_
    rintro _ _ rfl
    apply Prog.wp_seq (wp_other (Prog.only_mono sensor_other plain))
    rintro _ final rfl
    exact ⟨pulses, rfl, all, fun _ => some_⟩

theorem wp_heaterRun (creep : Bool) :
    (heaterRun creep).wp scheduleContract cycle fun after run =>
      ∃ pulses, after = { cycle with pulses := pulses ++ cycle.pulses } ∧
        (∀ pulse ∈ pulses, pulse = heaterCmd creep) ∧ (run.isSome = true → pulses ≠ []) := by
  cases creep with
  | true => exact wp_runHeaterMaintenance _ (by decide) (by decide)
  | false => exact wp_runHeaterMaintenance _ (by decide) (by decide)

theorem wp_recordHeaterRun (run : Option HeaterRun) (entered : cycle.entered = true) :
    (recordHeaterRun run).wp scheduleContract cycle fun after _ =>
      after = { cycle with heated := cycle.heated || run.isSome } := by
  cases run with
  | none =>
    show cycle = _
    simp
  | some run =>
    apply Prog.wp_seq (wp_other (store_other _ (by decide)))
    rintro cycle _ rfl
    apply Prog.wp_seq (wp_store rfl)
    rintro _ _ rfl
    rw [show cycle.stored (.f .rawHumPct) run.clean.humPct = cycle from if_pos entered]
    apply Prog.wp_seq (wp_load (by rintro ⟨⟩))
    rintro after _ ⟨rfl, -⟩
    apply Prog.wp_seq (wp_other (store_other _ (by decide)))
    rintro _ _ rfl
    apply Prog.wp_seq (wp_other (store_other _ (by decide)))
    rintro _ _ rfl
    apply Prog.wp_seq (wp_other (store_other _ (by decide)))
    rintro _ _ rfl
    apply Prog.wp_seq (wp_load (by rintro ⟨⟩))
    rintro after _ ⟨rfl, -⟩
    apply Prog.wp_mono (wp_store rfl)
    rintro _ _ rfl
    simp [CycleRecord.stored]

theorem wp_heaterBlock (creep : Bool) (reading : Reading) :
    (heaterBlock creep reading).wp scheduleContract cycle fun after _ =>
      ∃ pulses heated, after =
        { cycle with
          entered := true, pulses := pulses ++ cycle.pulses
          heated := cycle.heated || heated, sinceHeater := 0, highRh := 0 } ∧
        (∀ pulse ∈ pulses, pulse = heaterCmd creep) ∧ (heated = true → pulses ≠ []) := by
  apply Prog.wp_seq (wp_store rfl)
  rintro _ _ rfl
  apply Prog.wp_seq (wp_increment_other (by decide))
  rintro _ _ rfl
  apply Prog.wp_seq (wp_heaterRun creep)
  rintro _ run ⟨pulses, rfl, all, pulsed⟩
  apply Prog.wp_seq (wp_increment_other (by decide))
  rintro _ _ rfl
  apply Prog.wp_seq (wp_recordHeaterRun run (by simp [CycleRecord.stored]))
  rintro _ _ rfl
  apply Prog.wp_seq (wp_store rfl)
  rintro _ _ rfl
  apply Prog.wp_seq (wp_store rfl)
  rintro _ _ rfl
  apply Prog.wp_seq (wp_store rfl)
  rintro _ _ rfl
  refine ⟨pulses, run.isSome, ?_, all, pulsed⟩
  simp [CycleRecord.stored]

/-! ## The whole cycle -/

/-- What the counters are after the cycle. -/
structure Left (since streak : Nat) (cycle : CycleRecord) : Prop where
  sinceHeater : cycle.sinceHeater =
    if cycle.entered then 0 else if cycle.ok then since + 1 else since
  highRh : cycle.highRh =
    if cycle.entered then 0
    else if cycle.ok then (if cycle.humid then streak + 1 else 0) else streak

theorem wp_maintain {since streak : Nat} {due : HeaterDue} (reading : Reading)
    (counted : Counted since streak due cycle) :
    (maintain due reading).wp scheduleContract cycle fun after _ =>
      Settled since streak after ∧ Left since streak after ∧
        after.calibratedRh.isSome = true := by
  obtain ⟨ok, calibrated, cold, silent, unheated, sinceHeater, highRh, periodic, humidity⟩ :=
    counted
  have either : (due.periodic || due.humidity) = true ↔
      PeriodicDue since cycle ∨ HumidDue streak cycle := by
    rw [Bool.or_eq_true, periodic, humidity]
  unfold maintain
  split
  · rename_i isDue
    apply Prog.wp_mono (wp_heaterBlock due.humidity reading)
    rintro after _ ⟨pulses, heated, rfl, all, pulsed⟩
    have wanted : PeriodicDue since cycle ∨ HumidDue streak cycle := either.mp isDue
    refine ⟨⟨?_, ?_, ?_, ?_⟩, ⟨rfl, rfl⟩, calibrated⟩
    · intro failed
      rw [show cycle.ok = false from failed] at ok
      cases ok
    · exact fun _ => ⟨fun _ => wanted, fun _ => rfl⟩
    · intro cmd member
      rw [silent, List.append_nil] at member
      have sent := all cmd member
      show (cmd = kCmdHeaterHighLong ↔ HumidDue streak cycle) ∧
        (cmd = kCmdHeaterMediumShort ↔ ¬ HumidDue streak cycle)
      rw [← humidity, sent]
      cases due.humidity <;> decide
    · intro isHeated
      rw [unheated] at isHeated
      rw [silent, List.append_nil]
      exact pulsed (by simpa using isHeated)
  · rename_i notDue
    refine ⟨⟨?_, ?_, ?_, ?_⟩, ⟨?_, ?_⟩, calibrated⟩
    · intro failed
      rw [failed] at ok
      cases ok
    · intro _
      rw [cold, ← either]
      simp [notDue]
    · rw [silent]
      exact fun _ none => by cases none
    · intro isHeated
      rw [unheated] at isHeated
      cases isHeated
    · simp [cold, ok, sinceHeater]
    · simp [cold, ok, highRh]

theorem wp_calibrateAndDecide (reading : Reading) (calibrated : cycle.calibratedRh.isSome = true) :
    (calibrateAndDecide reading).wp scheduleContract cycle fun after _ => after = cycle := by
  have load : ∀ {field : Field}, field ≠ .f .rhOffsetPct →
      (Prog.perform (LpOp.load field) : LpProg field.Val).Only OtherOp := fun other =>
    Prog.only_perform other
  apply Prog.wp_seq (wp_other (load (by decide)))
  rintro cycle _ rfl
  refine Prog.wp_seq (?_ : Prog.wp scheduleContract _ cycle fun after _ => after = cycle) ?_
  · apply Prog.wp_perform trivial
    rintro offset after ⟨same, -⟩
    exact same.trans (if_pos calibrated)
  · rintro cycle offset rfl
    refine wp_other (Prog.only_bind (store_other _ (by decide)) fun _ => ?_)
    refine Prog.only_bind (store_other _ (by decide)) fun _ => ?_
    refine Prog.only_bind ?_ fun same => Prog.only_bind ?_ fun skips => Prog.only_bind ?_ fun _ =>
      trivial
    · refine Prog.only_bind (load (by decide)) fun _ => ?_
      refine Prog.only_bind (load (by decide)) fun _ => ?_
      refine Prog.only_bind (load (by decide)) fun _ => ?_
      split
      · exact Prog.only_bind (load (by decide)) fun _ => trivial
      · trivial
    · cases same with
      | false => trivial
      | true =>
        exact Prog.only_bind (load (by decide)) fun _ =>
          Prog.only_bind (load (by decide)) fun _ => trivial
    · cases skips with
      | false => trivial
      | true => exact Prog.only_bind (load (by decide)) fun _ => store_other _ (by decide)

structure Fresh (since streak : Nat) (cycle : CycleRecord) : Prop where
  ok : cycle.ok = false
  uncalibrated : cycle.calibratedRh = none
  cold : cycle.entered = false
  silent : cycle.pulses = []
  unheated : cycle.heated = false
  sinceHeater : cycle.sinceHeater = since
  highRh : cycle.highRh = streak

theorem wp_processReading {since streak : Nat} (fresh : Fresh since streak cycle)
    (fewSince : since + 1 < u32Mod) (fewStreak : streak + 1 < u32Mod) (reading : Option Reading) :
    (processReading reading).wp scheduleContract { cycle with ok := reading.isSome }
      fun after _ => Settled since streak after ∧ Left since streak after := by
  obtain ⟨-, uncalibrated, cold, silent, unheated, since_, streak_⟩ := fresh
  cases reading with
  | none =>
    refine ⟨⟨fun _ => ⟨cold, silent⟩, fun ok => (by cases ok), ?_, ?_⟩, ?_, ?_⟩
    · simp [silent]
    · simp [unheated]
    · simp [cold, since_]
    · simp [cold, streak_]
  | some reading =>
    apply Prog.wp_seq (wp_other (store_other _ (by decide)))
    rintro _ _ rfl
    refine Prog.wp_seq (wp_store rfl) ?_
    rintro _ _ rfl
    have stored : CycleRecord.stored (.f .rawHumPct) reading.humPct { cycle with ok := true } =
        { cycle with ok := true, rawHumPct := reading.humPct } := if_neg (by simp [cold])
    rw [show (some reading).isSome = true from rfl, stored]
    refine Prog.wp_seq (wp_heaterSchedule reading ⟨rfl, rfl, uncalibrated, cold, silent, unheated⟩
      since_ streak_ fewSince fewStreak) ?_
    rintro scheduled due counted
    apply Prog.wp_seq (wp_maintain reading counted)
    rintro maintained clean ⟨settled, left, calibrated⟩
    apply Prog.wp_mono (wp_calibrateAndDecide clean calibrated)
    rintro _ _ rfl
    exact ⟨settled, left⟩

theorem wp_cycleBody {since streak : Nat} (fresh : Fresh since streak cycle)
    (fewSince : since + 1 < u32Mod) (fewStreak : streak + 1 < u32Mod) (wasOk : Nat) :
    (cycleBody wasOk).wp scheduleContract cycle fun after _ =>
      Settled since streak after ∧ Left since streak after := by
  apply Prog.wp_seq (wp_load (by decide))
  rintro cycle samples ⟨rfl, -⟩
  apply Prog.wp_seq (wp_other (Prog.only_mono sensor_other (measureAveraged_sensor samples)))
  rintro cycle reading rfl
  apply Prog.wp_seq (wp_recordOutcome reading.isSome)
  rintro _ _ rfl
  apply Prog.wp_seq (wp_processReading fresh fewSince fewStreak reading)
  rintro after valueDriven done
  apply Prog.wp_mono (wp_other (store_other _ (by decide)))
  rintro _ _ rfl
  exact done

theorem wp_main {since streak : Nat} (fresh : Fresh since streak cycle)
    (fewSince : since + 1 < u32Mod) (fewStreak : streak + 1 < u32Mod) :
    main.wp scheduleContract cycle fun after _ =>
      Settled since streak after ∧ Left since streak after := by
  apply Prog.wp_seq wp_consumeAck
  rintro cycle _ rfl
  apply Prog.wp_seq (wp_load (by decide))
  rintro cycle wasOk ⟨rfl, -⟩
  apply Prog.wp_seq (wp_increment_other (by decide))
  rintro cycle _ rfl
  apply Prog.wp_seq (wp_cycleBody fresh fewSince fewStreak wasOk)
  rintro after _ done
  apply Prog.wp_seq (wp_increment_other (by decide))
  rintro _ _ rfl
  apply Prog.wp_seq (wp_load (by decide))
  rintro after flag ⟨rfl, -⟩
  split
  · refine Prog.wp_mono (wp_other (Prog.only_perform trivial)) ?_
    rintro _ _ rfl
    exact done
  · exact done

end Program

/-! ## Runs -/

section Program

variable [FloatOps]

structure Mirrors (memory : Shared) (cycle : CycleRecord) : Prop where
  sinceHeater : (memory (.u .cyclesSinceHeater) : Nat) = cycle.sinceHeater
  highRh : (memory (.u .highRhCycles) : Nat) = cycle.highRh

structure Settings (memory : Shared) (cycle : CycleRecord) : Prop where
  period : (memory (.u .heaterPeriodCycles) : Nat) = cycle.period
  trigger : (memory (.u .highRhTriggerCycles) : Nat) = cycle.trigger

structure Inv (state : Observed) : Prop where
  mirrors : Mirrors state.1.lock.memory state.2.current
  settings : state.1.lp.isSome = true → state.2.cycles.length + 1 < u32Mod →
    Settings state.1.lock.memory state.2.current
  logged : state.2.cycles.length < u32Mod →
    Runs.Logged (fun past cycle => Settled (okSince past) (humidStreak past) cycle) state.2.cycles
  resting : state.1.lp = none → state.2.cycles.length < u32Mod →
    state.2.current.sinceHeater = okSince state.2.cycles ∧
      state.2.current.highRh = humidStreak state.2.cycles
  running : ∀ program, state.1.lp = some program → state.2.cycles.length + 1 < u32Mod →
    program.wp scheduleContract state.2.current fun after _ =>
      Settled (okSince state.2.cycles) (humidStreak state.2.cycles) after ∧
        Left (okSince state.2.cycles) (humidStreak state.2.cycles) after

variable {system next : HpLp} {history : History} {cycle : CycleRecord}

omit [FloatOps] in
theorem sinceEntry_snoc (past : List CycleRecord) (cycle : CycleRecord) :
    sinceEntry (past ++ [cycle]) = if cycle.entered then [] else cycle :: sinceEntry past := by
  unfold sinceEntry
  rw [List.reverse_append, List.reverse_singleton, List.singleton_append, List.takeWhile_cons]
  cases cycle.entered <;> rfl

omit [FloatOps] in
theorem okSince_snoc (past : List CycleRecord) (cycle : CycleRecord) :
    okSince (past ++ [cycle]) =
      if cycle.entered then 0 else if cycle.ok then okSince past + 1 else okSince past := by
  unfold okSince
  rw [sinceEntry_snoc]
  cases cycle.entered <;> cases ok : cycle.ok <;> simp [ok]

theorem humidStreak_snoc (past : List CycleRecord) (cycle : CycleRecord) :
    humidStreak (past ++ [cycle]) =
      if cycle.entered then 0
      else if cycle.ok then (if cycle.humid then humidStreak past + 1 else 0)
      else humidStreak past := by
  unfold humidStreak
  rw [sinceEntry_snoc]
  cases cycle.entered <;> cases ok : cycle.ok <;> cases humid : cycle.humid <;> simp [ok, humid]

omit [FloatOps] in
theorem okSince_le (past : List CycleRecord) : okSince past ≤ past.length := by
  apply (List.length_filter_le _ _).trans
  apply (List.takeWhile_sublist _).length_le.trans
  rw [List.length_reverse]

theorem humidStreak_le (past : List CycleRecord) : humidStreak past ≤ past.length :=
  (List.takeWhile_sublist _).length_le.trans (okSince_le past)

omit [FloatOps] in
theorem opened_fresh (memory : Shared) (last : CycleRecord) :
    Fresh last.sinceHeater last.highRh (opened memory last) :=
  ⟨rfl, rfl, rfl, rfl, rfl, rfl, rfl⟩

theorem loaded_eq {field : Field} (value : field.Val) (cycle : CycleRecord) :
    ∃ rh, cycle.loaded field value = { cycle with calibratedRh := rh } := by
  by_cases other : field = .f .rhOffsetPct
  · subst other
    by_cases calibrated : cycle.calibratedRh.isSome = true
    · exact ⟨cycle.calibratedRh, if_pos calibrated⟩
    · exact ⟨_, if_neg calibrated⟩
  · exact ⟨cycle.calibratedRh, loaded_other value other cycle⟩

omit [FloatOps] in
theorem stored_raw (humPct : Flt) (cycle : CycleRecord) :
    ∃ rawHumPct, cycle.stored (.f .rawHumPct) humPct = { cycle with rawHumPct := rawHumPct } := by
  by_cases entered : cycle.entered = true
  · exact ⟨cycle.rawHumPct, if_pos entered⟩
  · exact ⟨humPct, if_neg entered⟩

omit [FloatOps] in
theorem sent_eq (cmd : Nat) (cycle : CycleRecord) :
    ∃ pulses, cycle.sent cmd = { cycle with pulses := pulses } := by
  by_cases plain : cmd = kCmdMeasureHigh
  · exact ⟨cycle.pulses, if_pos plain⟩
  · exact ⟨cmd :: cycle.pulses, if_neg plain⟩

theorem performed_settings (memory : Shared) (op : LpOp) (cycle : CycleRecord) :
    (performed memory op cycle).period = cycle.period ∧
      (performed memory op cycle).trigger = cycle.trigger := by
  cases op with
  | load field =>
    obtain ⟨rh, same⟩ := loaded_eq (memory field) cycle
    rw [show performed memory (.load field) cycle = _ from same]
    exact ⟨rfl, rfl⟩
  | store field value =>
    rcases field with field | field <;> cases field
    case f.rawHumPct =>
      obtain ⟨raw, same⟩ := stored_raw value cycle
      rw [show performed memory (.store (.f .rawHumPct) value) cycle = _ from same]
      exact ⟨rfl, rfl⟩
    all_goals exact ⟨rfl, rfl⟩
  | i2cWrite cmd =>
    obtain ⟨pulses, same⟩ := sent_eq cmd cycle
    rw [show performed memory (.i2cWrite cmd) cycle = _ from same]
    exact ⟨rfl, rfl⟩
  | _ => exact ⟨rfl, rfl⟩

theorem Mirrors.after (mirrors : Mirrors system.lock.memory cycle) (op : LpOp) :
    Mirrors (system.after op).lock.memory (performed system.lock.memory op cycle) := by
  cases op with
  | load field =>
    obtain ⟨rh, same⟩ := loaded_eq (system.lock.memory field) cycle
    rw [show performed system.lock.memory (.load field) cycle = _ from same]
    exact ⟨mirrors.sinceHeater, mirrors.highRh⟩
  | store field value =>
    rcases field with field | field <;> cases field
    case u.cyclesSinceHeater => exact ⟨layout.store_same system.lock _ value, mirrors.highRh⟩
    case u.highRhCycles => exact ⟨mirrors.sinceHeater, layout.store_same system.lock _ value⟩
    case f.rawHumPct =>
      obtain ⟨raw, same⟩ := stored_raw value cycle
      rw [show performed system.lock.memory (.store (.f .rawHumPct) value) cycle = _ from same]
      exact ⟨mirrors.sinceHeater, mirrors.highRh⟩
    all_goals exact ⟨mirrors.sinceHeater, mirrors.highRh⟩
  | i2cWrite cmd =>
    obtain ⟨pulses, same⟩ := sent_eq cmd cycle
    rw [show performed system.lock.memory (.i2cWrite cmd) cycle = _ from same]
    exact ⟨mirrors.sinceHeater, mirrors.highRh⟩
  | _ => exact ⟨mirrors.sinceHeater, mirrors.highRh⟩

theorem Settings.after (settings : Settings system.lock.memory cycle) {op : LpOp}
    (allowed : scheduleContract.may cycle op) :
    Settings (system.after op).lock.memory (performed system.lock.memory op cycle) := by
  obtain ⟨period, trigger⟩ := performed_settings system.lock.memory op cycle
  refine ⟨?_, ?_⟩
  · rw [period, ← settings.period]
    cases op with
    | store field value =>
      rcases field with field | field <;> cases field <;> first | rfl | cases allowed
    | _ => rfl
  · rw [trigger, ← settings.trigger]
    cases op with
    | store field value =>
      rcases field with field | field <;> cases field <;> first | rfl | cases allowed
    | _ => rfl

theorem effect_of_answers {op : LpOp} {answer : op.Res}
    (mirrors : Mirrors system.lock.memory cycle) (settings : Settings system.lock.memory cycle)
    (answers : system.Answers op answer) :
    scheduleContract.effect cycle op answer (performed system.lock.memory op cycle) := by
  cases op with
  | load field =>
    have loaded : answer = system.lock.memory field := answers
    subst loaded
    refine ⟨rfl, ?_⟩
    rcases field with field | field <;> cases field
    case u.cyclesSinceHeater => exact mirrors.sinceHeater
    case u.highRhCycles => exact mirrors.highRh
    case u.heaterPeriodCycles => exact settings.period
    case u.highRhTriggerCycles => exact settings.trigger
    all_goals trivial
  | _ => rfl

theorem inv_lp {answer : LpAnswer} (inv : Inv (system, history)) (move : LpMove system next) :
    Inv (next, record system (.lpStep answer) history) := by
  cases move with
  | finish running =>
    have recorded : record system (.lpStep answer) history =
        { history with cycles := history.cycles ++ [history.current] } := by
      unfold record
      rw [running]
    rw [recorded]
    have done : history.cycles.length + 1 < u32Mod →
        Settled (okSince history.cycles) (humidStreak history.cycles) history.current ∧
          Left (okSince history.cycles) (humidStreak history.cycles) history.current :=
      inv.running _ running
    refine ⟨inv.mirrors, (fun none => by cases none), fun few => ?_, fun _ few => ?_, ?_⟩
    · rw [List.length_append, List.length_singleton] at few
      exact Runs.logged_snoc (inv.logged (by dsimp only; omega)) (done few).1
    · rw [List.length_append, List.length_singleton] at few
      dsimp only
      rw [okSince_snoc, humidStreak_snoc]
      exact ⟨(done few).2.sinceHeater, (done few).2.highRh⟩
    · rintro program ⟨⟩
  | @perform op following answered running answers =>
    have recorded : record system (.lpStep answer) history =
        { history with current := performed system.lock.memory op history.current } := by
      unfold record
      rw [running]
    rw [recorded]
    have settings := inv.settings (by rw [running]; rfl)
    refine ⟨inv.mirrors.after op, fun _ few => ?_, inv.logged, (fun none => by cases none), ?_⟩
    · exact (settings few).after (inv.running _ running few).1
    · rintro program ⟨⟩ few
      exact (inv.running _ running few).2 _ _
        (effect_of_answers inv.mirrors (settings few) answers)

theorem inv_step {state next : Observed} {action : Action} (inv : Inv state)
    (between : BetweenCycles state action) (taken : step state action = some next) : Inv next := by
  obtain ⟨system, history⟩ := state
  obtain ⟨stepped, recorded⟩ := Runs.observe_step taken
  obtain ⟨after, later⟩ := next
  simp only at stepped recorded
  subst recorded
  have sameMemory : ∀ {lock}, lock.memory = system.lock.memory →
      after = { system with lock := lock } → Inv (after, history) := by
    rintro lock same rfl
    refine ⟨?_, ?_, inv.logged, inv.resting, inv.running⟩
    · dsimp only
      rw [same]
      exact inv.mirrors
    · dsimp only
      rw [same]
      exact inv.settings
  cases action with
  | lpTimer =>
    obtain ⟨asleep, same⟩ := Option.ite_none_right_eq_some.mp stepped
    rw [← Option.some.inj same]
    have rested := inv.resting (Option.isNone_iff_eq_none.mp asleep)
    refine ⟨⟨inv.mirrors.sinceHeater, inv.mirrors.highRh⟩, fun _ _ => ⟨rfl, rfl⟩, inv.logged,
      (fun none => by cases none), ?_⟩
    rintro program ⟨⟩ few
    have room : history.cycles.length + 1 < u32Mod := few
    obtain ⟨sinceHeater, highRh⟩ := rested (Nat.lt_of_succ_lt room)
    have fresh := opened_fresh system.lock.memory history.current
    rw [show history.current.sinceHeater = okSince history.cycles from sinceHeater,
      show history.current.highRh = humidStreak history.cycles from highRh] at fresh
    exact wp_main fresh (Nat.lt_of_le_of_lt (Nat.succ_le_succ (okSince_le _)) room)
      (Nat.lt_of_le_of_lt (Nat.succ_le_succ (humidStreak_le _)) room)
  | lpStep answer => exact inv_lp inv (lpStep_move stepped)
  | hpStore field value =>
    obtain ⟨owned, same⟩ := Option.ite_none_right_eq_some.mp stepped
    rw [← Option.some.inj same]
    refine ⟨?_, ?_, inv.logged, inv.resting, inv.running⟩
    · obtain ⟨sinceHeater, highRh⟩ := inv.mirrors
      rcases field with field | field <;> cases field <;>
        first | exact ⟨sinceHeater, highRh⟩ | cases owned
    · intro running few
      have settings := inv.settings running few
      have other : scheduleWord field ≠ true := by
        intro scheduled
        have idle := between scheduled
        simp only [Option.isNone_iff_eq_none] at idle
        simp [idle] at running
      obtain ⟨period, trigger⟩ := settings
      rcases field with field | field <;> cases field <;>
        first | exact ⟨period, trigger⟩ | exact absurd rfl other
  | getState contents =>
    obtain ⟨lock, called, same⟩ := Option.map_eq_some_iff.mp stepped
    exact sameMemory (Seqlock.call_memory called) same.symm
  | readerStep =>
    obtain ⟨lock, read, same⟩ := Option.map_eq_some_iff.mp stepped
    exact sameMemory (Seqlock.readerStep_memory read) same.symm

theorem inv_begun (config : Shared) : Inv (SkipBudget.begun config, {}) where
  mirrors := ⟨rfl, rfl⟩
  settings running := by cases running
  logged _ := Runs.logged_nil _
  resting _ _ := ⟨rfl, rfl⟩
  running program none := by cases none

/-- A sensor-ok cycle enters maintenance exactly when one of the two counts with it
has reached its setting, in the creep mode exactly when the humid one has. -/
theorem maintenance_scheduled (config : Shared) {actions : List Action}
    (between : Runs.Along step BetweenCycles (SkipBudget.begun config, {}) actions)
    {final : Observed} (ran : Runs.run step (SkipBudget.begun config, {}) actions = some final)
    (few : final.2.cycles.length < u32Mod) {past later : List CycleRecord} {cycle : CycleRecord}
    (cut : final.2.cycles = past ++ cycle :: later) :
    Settled (okSince past) (humidStreak past) cycle ∧
      (cycle.period = 0 → cycle.trigger = 0 → cycle.entered = false) := by
  have inv : Inv final := Runs.along_invariant Inv
    (fun _ _ _ inv between taken => inv_step inv between taken) (inv_begun config) between ran
  have settled := inv.logged few past cycle later cut
  refine ⟨settled, fun period trigger => ?_⟩
  cases ok : cycle.ok with
  | false => exact (settled.failed ok).1
  | true =>
    by_contra entered
    rcases (settled.enters ok).mp (Bool.not_eq_false _ ▸ entered) with due | due
    · exact absurd due.1 (by omega)
    · exact absurd due.1 (by omega)

end Program

/-- A self-test in every cycle. -/
def everyCycle : Shared
  | .u .heaterPeriodCycles => (1 : Nat)
  | .u _ => (0 : Nat)
  | .f _ => Flt.fin 0

def coldAnswer : LpAnswer := ⟨true, some ⟨0, 0, crc8 [0, 0], 0, 0, crc8 [0, 0]⟩⟩
def hotAnswer : LpAnswer := ⟨true, some ⟨0x40, 0, crc8 [0x40, 0], 0, 0, crc8 [0, 0]⟩⟩

/-- One LP cycle, the pulse of which warms the sensor. -/
def selftest : List Action :=
  .lpTimer :: (List.replicate 29 (.lpStep coldAnswer) ++ List.replicate 3 (.lpStep hotAnswer) ++
    List.replicate 34 (.lpStep coldAnswer))

theorem maintenance_scheduled_selftest :
    ∃ final cycle, Runs.run (@step exactFloat) (SkipBudget.begun everyCycle, {}) selftest =
        some final ∧ final.2.cycles = [cycle] ∧ cycle.pulses = [kCmdHeaterMediumShort] ∧
      @Settled exactFloat (okSince []) (@humidStreak exactFloat []) cycle := by
  let cycle : CycleRecord :=
    { period := 1, ok := true, calibratedRh := some (.fin 0), entered := true
      pulses := [kCmdHeaterMediumShort], heated := true }
  obtain ⟨final, ran, known⟩ := Runs.exists_final
    (fun final : Observed => decide (final.2.cycles = [cycle]))
    (show (Runs.run (@step exactFloat) (SkipBudget.begun everyCycle, {}) selftest).any _ = true by
      decide +kernel)
  have cycles : final.2.cycles = [cycle] := of_decide_eq_true known
  have between : Runs.Along (@step exactFloat) BetweenCycles (SkipBudget.begun everyCycle, {})
      selftest := by decide +kernel
  refine ⟨final, cycle, ran, cycles, rfl, ?_⟩
  exact (@maintenance_scheduled exactFloat everyCycle selftest between final ran
    (by rw [cycles]; decide) [] [] cycle cycles).1

end SleepySensor.HeaterSchedule
