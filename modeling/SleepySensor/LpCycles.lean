import SleepySensor.Snapshot

/-!
# What the LP program stores

The words that the parts of `main` store, and one operation of the program on
the shared memory.  Contracts about some of the words are then a matter of the
parts that store them.
-/

set_option autoImplicit false

namespace SleepySensor.Snapshot

open SleepySensor SleepySensor.LpCore

/-- An operation that, if it stores a word, stores one of `fields`. -/
def StoresIn (fields : List Field) : LpOp → Prop
  | .store field _ => field ∈ fields
  | _ => True

theorem quiet_storesIn {fields : List Field} (op : LpOp) (quiet : QuietOp op) :
    StoresIn fields op := by
  cases op with
  | store field value => exact quiet.elim
  | _ => trivial

theorem storeU_storesIn {fields : List Field} {field : UField} (value : Nat)
    (listed : Field.u field ∈ fields) : (storeU field value).Only (StoresIn fields) :=
  Prog.only_perform listed

theorem storeF_storesIn {fields : List Field} {field : FField} (value : Flt)
    (listed : Field.f field ∈ fields) : (storeF field value).Only (StoresIn fields) :=
  Prog.only_perform listed

theorem increment_storesIn {fields : List Field} {field : UField}
    (listed : Field.u field ∈ fields) : (increment field).Only (StoresIn fields) :=
  Prog.only_bind (Prog.only_perform trivial) fun _ => storeU_storesIn _ listed

def heaterRunFields : List Field :=
  [.f .rawTempC, .f .rawHumPct, .u .lastHeaterRunCycle, .f .lastHeaterDeltaT,
    .u .lastHeaterPassed, .u .heaterRunCount]

def scheduleFields : List Field := [.u .cyclesSinceHeater, .u .highRhCycles]

theorem recordHeaterRun_storesIn (run : Option HeaterRun) :
    (recordHeaterRun run).Only (StoresIn heaterRunFields) := by
  cases run with
  | none => trivial
  | some run =>
    refine Prog.only_bind (storeF_storesIn _ (by decide)) fun _ => ?_
    refine Prog.only_bind (storeF_storesIn _ (by decide)) fun _ => ?_
    refine Prog.only_bind (Prog.only_perform trivial) fun _ => ?_
    refine Prog.only_bind (storeU_storesIn _ (by decide)) fun _ => ?_
    refine Prog.only_bind (storeF_storesIn _ (by decide)) fun _ => ?_
    refine Prog.only_bind (storeU_storesIn _ (by decide)) fun _ => ?_
    exact increment_storesIn (by decide)

section Program

variable [FloatOps]

theorem heaterSchedule_storesIn (reading : Reading) :
    (heaterSchedule reading).Only (StoresIn scheduleFields) := by
  have counted : ∀ humPct, (countHighRh humPct).Only (StoresIn scheduleFields) := by
    intro humPct
    unfold countHighRh
    split
    · exact increment_storesIn (by decide)
    · exact storeU_storesIn _ (by decide)
  refine Prog.only_bind (increment_storesIn (by decide)) fun _ => ?_
  refine Prog.only_bind (Prog.only_perform trivial) fun offset => ?_
  refine Prog.only_bind (counted _) fun _ => ?_
  refine Prog.only_bind (Prog.only_mono quiet_storesIn (heaterDue_quiet _ _)) fun _ => ?_
  exact Prog.only_bind (Prog.only_mono quiet_storesIn (heaterDue_quiet _ _)) fun _ => trivial

end Program

/-! ## One operation -/

def HpLp.coming (system : HpLp) : Option LpOp :=
  match system.lp with
  | some (.call op _) => some op
  | _ => none

def HpLp.after (system : HpLp) : LpOp → HpLp
  | .store field value => { system with lock := layout.store system.lock field value }
  | .storeLastConsumedAckSeq value => { system with lastConsumedAckSeq := value }
  | _ => system

/-- A load answers with the word of the shared memory, or with the LP core's own. -/
def HpLp.Answers (system : HpLp) : (op : LpOp) → op.Res → Prop
  | .load field, value => value = system.lock.memory field
  | .loadLastConsumedAckSeq, value => value = system.lastConsumedAckSeq
  | _, _ => True

inductive LpMove (system : HpLp) : HpLp → Prop where
  | finish (running : system.lp = some (.ret ())) : LpMove system { system with lp := none }
  | perform {op : LpOp} {following : op.Res → LpProg Unit} {answer : op.Res}
      (running : system.lp = some (.call op following)) (answers : system.Answers op answer) :
      LpMove system { system.after op with lp := some (following answer) }

theorem lpStep_move {system next : HpLp} {answer : LpAnswer}
    (taken : lpStep answer system = some next) : LpMove system next := by
  unfold lpStep at taken
  split at taken <;> rename_i running <;> cases taken
  · exact .finish running
  all_goals first | exact .perform running rfl | exact .perform running trivial

/-! ## The words of a cycle -/

/-- An operation on the words of these two lists, or on none. -/
def AccessOp (loads stores : List Field) : LpOp → Prop
  | .load field => field ∈ loads
  | .store field _ => field ∈ stores
  | .loadLastConsumedAckSeq | .storeLastConsumedAckSeq _ => False
  | _ => True

theorem sensor_access {cmds : List Nat} {loads stores : List Field} (op : LpOp)
    (sensor : SensorOp cmds op) : AccessOp loads stores op := by
  cases op with
  | load field => exact sensor.elim
  | store field value => exact sensor.elim
  | loadLastConsumedAckSeq => exact sensor.elim
  | storeLastConsumedAckSeq value => exact sensor.elim
  | _ => trivial

def cycleLoads : List Field :=
  [.u .sensorSamples, .f .tempOffsetC, .f .tempMinChangeC, .f .rhOffsetPct, .f .rhMinChangePct,
    .u .maxSkipCycles, .u .heaterPeriodCycles, .u .highRhTriggerCycles, .u .heartbeatCounter,
    .u .resultSeq, .u .consecFailCount, .f .prevDeliveredTempC, .f .prevDeliveredHumPct,
    .u .skippedCycles, .u .cyclesSinceHeater, .u .highRhCycles, .u .heaterRunCount]

def cycleStores : List Field :=
  [.u .heartbeatCounter, .u .resultSeq, .u .sensorOk, .u .consecFailCount, .f .rawTempC,
    .f .rawHumPct, .f .calTempC, .f .calHumPct, .u .shouldWakeHp, .u .skippedCycles,
    .u .cyclesSinceHeater, .u .highRhCycles, .u .heaterActive, .u .lastHeaterRunCycle,
    .f .lastHeaterDeltaT, .u .lastHeaterPassed, .u .heaterRunCount]

abbrev CycleOp : LpOp → Prop := AccessOp cycleLoads cycleStores

theorem load_cycle {field : Field} (listed : field ∈ cycleLoads) :
    (Prog.perform (LpOp.load field) : LpProg field.Val).Only CycleOp :=
  Prog.only_perform listed

theorem store_cycle {field : Field} (value : field.Val) (listed : field ∈ cycleStores) :
    (Prog.perform (LpOp.store field value) : LpProg Unit).Only CycleOp :=
  Prog.only_perform listed

theorem increment_cycle {field : UField} (loaded : Field.u field ∈ cycleLoads)
    (stored : Field.u field ∈ cycleStores) : (increment field).Only CycleOp :=
  Prog.only_bind (load_cycle loaded) fun _ => store_cycle _ stored

theorem recordOutcome_cycle (ok : Bool) : (recordOutcome ok).Only CycleOp := by
  refine Prog.only_bind (increment_cycle (by decide) (by decide)) fun _ => ?_
  refine Prog.only_bind (store_cycle _ (by decide)) fun _ => ?_
  cases ok with
  | true => exact store_cycle _ (by decide)
  | false => exact increment_cycle (by decide) (by decide)

theorem heaterDue_cycle {schedule counter : UField} (limit : Field.u schedule ∈ cycleLoads)
    (count : Field.u counter ∈ cycleLoads) : (heaterDue schedule counter).Only CycleOp := by
  refine Prog.only_bind (load_cycle limit) fun _ => ?_
  split
  · exact Prog.only_bind (load_cycle count) fun _ => Prog.only_bind (load_cycle limit) fun _ =>
      trivial
  · trivial

theorem recordHeaterRun_cycle (run : Option HeaterRun) : (recordHeaterRun run).Only CycleOp := by
  cases run with
  | none => trivial
  | some run =>
    refine Prog.only_bind (store_cycle _ (by decide)) fun _ => ?_
    refine Prog.only_bind (store_cycle _ (by decide)) fun _ => ?_
    refine Prog.only_bind (load_cycle (by decide)) fun _ => ?_
    refine Prog.only_bind (store_cycle _ (by decide)) fun _ => ?_
    refine Prog.only_bind (store_cycle _ (by decide)) fun _ => ?_
    refine Prog.only_bind (store_cycle _ (by decide)) fun _ => ?_
    exact increment_cycle (by decide) (by decide)

theorem withinSkipBudget_cycle (same : Bool) : (withinSkipBudget same).Only CycleOp := by
  cases same with
  | false => trivial
  | true =>
    exact Prog.only_bind (load_cycle (by decide)) fun _ =>
      Prog.only_bind (load_cycle (by decide)) fun _ => trivial

theorem countSkip_cycle (skipThisCycle : Bool) : (countSkip skipThisCycle).Only CycleOp := by
  cases skipThisCycle with
  | false => trivial
  | true => exact increment_cycle (by decide) (by decide)

section Program

variable [FloatOps]

theorem heaterSchedule_cycle (reading : Reading) : (heaterSchedule reading).Only CycleOp := by
  refine Prog.only_bind (increment_cycle (by decide) (by decide)) fun _ => ?_
  refine Prog.only_bind (load_cycle (by decide)) fun offset => ?_
  refine Prog.only_bind ?_ fun _ => ?_
  · unfold countHighRh
    split
    · exact increment_cycle (by decide) (by decide)
    · exact store_cycle _ (by decide)
  refine Prog.only_bind (heaterDue_cycle (by decide) (by decide)) fun _ => ?_
  exact Prog.only_bind (heaterDue_cycle (by decide) (by decide)) fun _ => trivial

theorem maintain_cycle (due : HeaterDue) (reading : Reading) :
    (maintain due reading).Only CycleOp := by
  unfold maintain
  split
  · refine Prog.only_bind (store_cycle _ (by decide)) fun _ => ?_
    refine Prog.only_bind (increment_cycle (by decide) (by decide)) fun _ => ?_
    refine Prog.only_bind (Prog.only_mono sensor_access (heaterRun_sensor _)) fun run => ?_
    refine Prog.only_bind (increment_cycle (by decide) (by decide)) fun _ => ?_
    refine Prog.only_bind (recordHeaterRun_cycle run) fun _ => ?_
    refine Prog.only_bind (store_cycle _ (by decide)) fun _ => ?_
    refine Prog.only_bind (store_cycle _ (by decide)) fun _ => ?_
    exact Prog.only_bind (store_cycle _ (by decide)) fun _ => trivial
  · trivial

theorem sameAsPrevDelivered_cycle (calTemp calHum : Flt) :
    (sameAsPrevDelivered calTemp calHum).Only CycleOp := by
  refine Prog.only_bind (load_cycle (by decide)) fun _ => ?_
  refine Prog.only_bind (load_cycle (by decide)) fun _ => ?_
  refine Prog.only_bind (load_cycle (by decide)) fun _ => ?_
  split
  · exact Prog.only_bind (load_cycle (by decide)) fun _ => trivial
  · trivial

theorem calibrateAndDecide_cycle (reading : Reading) :
    (calibrateAndDecide reading).Only CycleOp := by
  refine Prog.only_bind (load_cycle (by decide)) fun _ => ?_
  refine Prog.only_bind (load_cycle (by decide)) fun _ => ?_
  refine Prog.only_bind (store_cycle _ (by decide)) fun _ => ?_
  refine Prog.only_bind (store_cycle _ (by decide)) fun _ => ?_
  refine Prog.only_bind (sameAsPrevDelivered_cycle _ _) fun _ => ?_
  refine Prog.only_bind (withinSkipBudget_cycle _) fun _ => ?_
  exact Prog.only_bind (countSkip_cycle _) fun _ => trivial

theorem cycleBody_cycle (wasOk : Nat) : (cycleBody wasOk).Only CycleOp := by
  refine Prog.only_bind (load_cycle (by decide)) fun samples => ?_
  refine Prog.only_bind (Prog.only_mono sensor_access (measureAveraged_sensor _)) fun reading => ?_
  refine Prog.only_bind (recordOutcome_cycle _) fun _ => ?_
  refine Prog.only_bind ?_ fun valueDriven => store_cycle _ (by decide)
  cases reading with
  | none => trivial
  | some reading =>
    refine Prog.only_bind (store_cycle _ (by decide)) fun _ => ?_
    refine Prog.only_bind (store_cycle _ (by decide)) fun _ => ?_
    refine Prog.only_bind (heaterSchedule_cycle _) fun due => ?_
    exact Prog.only_bind (maintain_cycle due reading) fun clean => calibrateAndDecide_cycle clean

end Program

end SleepySensor.Snapshot
