import SleepySensor.Battery
import SleepySensor.Cadence
import SleepySensor.MqttSender

/-!
# The sensor task

The members and locals of `SensorsTask::executeTask`, and what it decides from
them.
-/

set_option autoImplicit false

namespace SleepySensor

open Cadence (WakeReason)

/-- What the cycle uses of the `lp_shared_state_t` it read. -/
structure LpSnapshot where
  heartbeatCounter : Nat := 0
  shouldWakeHp : Nat := 0
  calTempC : Flt := .fin 0
  calHumPct : Flt := .fin 0
  lastHeaterRunCycle : Nat := 0
  lastHeaterPassed : Nat := 0
  heaterRunCount : Nat := 0
  deriving DecidableEq, Repr

inductive AdcOutcome where
  | initFailed
  | readFailed
  | milliVolts (value : Int)
  deriving DecidableEq, Repr

def AdcOutcome.value : AdcOutcome → Option Int
  | .milliVolts value => some value
  | .initFailed | .readFailed => none

/-- The locals of one turn of the loop.  The last two fields number the publish
cycle that this turn started and the one whose outcome it read. -/
structure SensorCycle where
  publishedOk : Bool := false
  quietCycle : Bool := false
  lpStalledThisCycle : Bool := false
  lpProgressedThisCycle : Bool := false
  attached : Bool := false
  state : LpSnapshot := {}
  heartbeatDelta : Nat := 0
  otaOnly : Bool := false
  values : PublishParams := {}
  startedCycle : Option Nat := none
  outcomeCycle : Option Nat := none
  deriving DecidableEq, Repr

namespace SensorCycle

def shouldWake (cycle : SensorCycle) : Bool :=
  decide (0 < cycle.heartbeatDelta) && cycle.state.shouldWakeHp != 0

/-- The values of a cycle with flagged data, before the battery is read. -/
def flaggedValues (state : LpSnapshot) : PublishParams :=
  let hasRun := state.lastHeaterRunCycle != 0
  { temperature := some state.calTempC
    humidity := some state.calHumPct
    heaterProblem := if hasRun then some (state.lastHeaterPassed == 0) else none
    heaterRunCount := if hasRun then some state.heaterRunCount else none }

def withBattery (values : PublishParams) (outcome : AdcOutcome) : PublishParams :=
  match outcome.value with
  | some milliVolts =>
    { values with
      batteryMillivolts := some milliVolts
      batteryPercent := some (Battery.batteryPercent milliVolts) }
  | none => values

end SensorCycle

/-- What follows `runtime_config_tx_power_note_cycle_result`. -/
inductive AfterNote where
  | delivering
  | cycleEnd
  deriving DecidableEq, Repr

inductive SensorPc where
  | attaching
  | firstAttachCall (dbm : Int)
  | reading
  | branching
  | measuring
  | sending
  | checkBusy
  | waiting
  | readOutcome
  | noting
  | revertCall (dbm : Int) (resume : AfterNote)
  | delivering
  | timedOut
  | cycleEnd
  | beginWait
  | sleeping (otaRetryWait : Bool)
  | rebooting
  deriving DecidableEq, Repr

def AfterNote.pc : AfterNote → SensorPc
  | .delivering => .delivering
  | .cycleEnd => .cycleEnd

def lpStallRebootThreshold : Nat := 2
def unconfirmedOtaRebootAfterCycles : Nat := 5

structure SensorsTask where
  lastSeenHeartbeat : Nat := 0
  lpStalledCycles : Nat := 0
  cyclesUnconfirmedAndFailing : Nat := 0
  /-- `s_checked` of `markAppValidOnFirstConfirmedPublish`. -/
  appValidChecked : Bool := false
  /-- The running image is `ESP_OTA_IMG_PENDING_VERIFY`. -/
  pendingVerify : Bool := false
  wakeReason : WakeReason := .lpWake
  cycle : SensorCycle := {}
  pc : SensorPc := .attaching
  deriving DecidableEq, Repr

namespace SensorsTask

def takeState (task : SensorsTask) (state : LpSnapshot) : SensorsTask :=
  let delta := Cadence.heartbeatDelta state.heartbeatCounter task.lastSeenHeartbeat
  { task with
    lastSeenHeartbeat := state.heartbeatCounter
    cycle :=
      { task.cycle with
        state := state, heartbeatDelta := delta, lpProgressedThisCycle := decide (0 < delta) }
    pc := .branching }

theorem takeState_eq (task : SensorsTask) (state : LpSnapshot) :
    ∃ delta progressed, task.takeState state =
      { task with
        lastSeenHeartbeat := state.heartbeatCounter
        cycle :=
          { task.cycle with
            state := state, heartbeatDelta := delta, lpProgressedThisCycle := progressed }
        pc := .branching } := ⟨_, _, rfl⟩

/-- The four-way branch after the LP state is read. -/
def branch (task : SensorsTask) (sessionInProgress updateDue readVoltageViaAdc : Bool) :
    SensorsTask :=
  let cycle := task.cycle
  if sessionInProgress then
    { task with cycle := { cycle with quietCycle := true }, pc := .cycleEnd }
  else if task.wakeReason = .safeguardTimeout ∧ cycle.heartbeatDelta = 0 then
    { task with cycle := { cycle with lpStalledThisCycle := true }, pc := .cycleEnd }
  else if cycle.shouldWake then
    { task with
      cycle := { cycle with otaOnly := false, values := SensorCycle.flaggedValues cycle.state }
      pc := if readVoltageViaAdc then .measuring else .sending }
  else if updateDue then
    { task with cycle := { cycle with otaOnly := true, values := {} }, pc := .sending }
  else { task with cycle := { cycle with quietCycle := true }, pc := .cycleEnd }

/-- The branch touches no more than four locals, and publishes flagged data with
the values of the state it read. -/
theorem branch_eq (task : SensorsTask) (sessionInProgress updateDue readVoltageViaAdc : Bool) :
    ∃ quiet stalled otaOnly values pc,
      task.branch sessionInProgress updateDue readVoltageViaAdc =
        { task with
          cycle :=
            { task.cycle with
              quietCycle := quiet, lpStalledThisCycle := stalled
              otaOnly := otaOnly, values := values }
          pc := pc } ∧
      (pc = .cycleEnd ∨ pc = .measuring ∨ pc = .sending) ∧
      (pc ≠ .cycleEnd → otaOnly = false → values = SensorCycle.flaggedValues task.cycle.state) := by
  unfold branch
  dsimp only
  split
  · exact ⟨_, _, _, _, _, rfl, .inl rfl, fun publishing => (publishing rfl).elim⟩
  · split
    · exact ⟨_, _, _, _, _, rfl, .inl rfl, fun publishing => (publishing rfl).elim⟩
    · split
      · refine ⟨_, _, _, _, _, rfl, ?_, fun _ _ => rfl⟩
        split
        · exact .inr (.inl rfl)
        · exact .inr (.inr rfl)
      · split
        · exact ⟨_, _, _, _, _, rfl, .inr (.inr rfl), fun _ data => by cases data⟩
        · exact ⟨_, _, _, _, _, rfl, .inl rfl, fun publishing => (publishing rfl).elim⟩

/-- The battery is read right before the publish it rides on. -/
def measure (task : SensorsTask) (outcome : AdcOutcome) : SensorsTask :=
  { task with
    cycle := { task.cycle with values := SensorCycle.withBattery task.cycle.values outcome }
    pc := .sending }

def cycleOk (task : SensorsTask) (sessionInProgress : Bool) : Bool :=
  task.cycle.publishedOk || (task.cycle.attached && task.cycle.quietCycle) || sessionInProgress

/-- `esp_ota_get_state_partition` succeeded and said `ESP_OTA_IMG_PENDING_VERIFY`. -/
def stillUnconfirmed (task : SensorsTask) (stateRead : Bool) : Bool :=
  stateRead && task.pendingVerify

/-- `markAppValidOnFirstConfirmedPublish`. -/
def markAppValid (task : SensorsTask) (stateRead marked : Bool) : SensorsTask :=
  if task.appValidChecked then task
  else if task.stillUnconfirmed stateRead && marked then
    { task with appValidChecked := true, pendingVerify := false }
  else { task with appValidChecked := true }

/-- What it changes, in one equation. -/
theorem markAppValid_eq (task : SensorsTask) (stateRead marked : Bool) :
    task.markAppValid stateRead marked =
      { task with
        appValidChecked := true
        pendingVerify :=
          task.pendingVerify && (task.appValidChecked || !(stateRead && marked)) } := by
  obtain ⟨heartbeat, stalled, failing, checked, pending, reason, cycle, pc⟩ := task
  unfold markAppValid stillUnconfirmed
  cases checked <;> cases pending <;> cases stateRead <;> cases marked <;> rfl

/-- The two supervisors: the task after them, and whether one of them reboots. -/
def supervise (task : SensorsTask) (sessionInProgress stateRead : Bool) : SensorsTask × Bool :=
  let failed := task.stillUnconfirmed stateRead && !task.cycleOk sessionInProgress
  let stalled :=
    if task.cycle.lpStalledThisCycle then u32 (task.lpStalledCycles + 1)
    else if task.cycle.lpProgressedThisCycle then 0 else task.lpStalledCycles
  let failing := if failed then u32 (task.cyclesUnconfirmedAndFailing + 1) else 0
  let reboots :=
    (task.cycle.lpStalledThisCycle && decide (lpStallRebootThreshold ≤ stalled)) ||
      (failed && decide (unconfirmedOtaRebootAfterCycles ≤ failing))
  ({ task with lpStalledCycles := stalled, cyclesUnconfirmedAndFailing := failing }, reboots)

/-- Why the wait returned. -/
def wake (task : SensorsTask) (otaRetryWait lpWoke : Bool) : SensorsTask :=
  { task with
    wakeReason :=
      if lpWoke then .lpWake else if otaRetryWait then .otaRetryTimeout else .safeguardTimeout
    cycle := {}
    pc := .attaching }

end SensorsTask

end SleepySensor
