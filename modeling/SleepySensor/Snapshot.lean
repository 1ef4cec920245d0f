import SleepySensor.Lib.Runs
import SleepySensor.Lib.Seqlock
import SleepySensor.LpCore

/-!
# Snapshots handed to the HP core

`lp_sensor_core_get_state` copies the shared words while the LP program runs.
The LP program keeps to the discipline of a sequence lock, so a copy during
which it changed no result field is a published snapshot.  The LP core holds the
odd window for a whole multi-sample measurement, though, and ten attempts are
over long before that.
-/

set_option autoImplicit false

namespace SleepySensor.Snapshot

open SleepySensor SleepySensor.Runs SleepySensor.Seqlock SleepySensor.LpCore

/-- The words of `lp_shared_state_t` in the order of the struct. -/
def copyOrder : List Field :=
  [.u .sensorSamples, .f .tempOffsetC, .f .tempMinChangeC, .f .rhOffsetPct, .f .rhMinChangePct,
   .u .maxSkipCycles, .u .heaterPeriodCycles, .u .highRhTriggerCycles, .u .heartbeatCounter,
   .u .resultSeq, .u .sensorOk, .u .consecFailCount, .f .rawTempC, .f .rawHumPct, .f .calTempC,
   .f .calHumPct, .u .shouldWakeHp, .f .prevDeliveredTempC, .f .prevDeliveredHumPct,
   .u .skippedCycles, .u .hpAckSeq, .f .hpAckedTempC, .f .hpAckedHumPct, .u .cyclesSinceHeater,
   .u .highRhCycles, .u .heaterActive, .u .lastHeaterRunCycle, .f .lastHeaterDeltaT,
   .u .lastHeaterPassed, .u .heaterRunCount]

/-- The words the LP program writes inside its odd windows only. -/
def resultField : Field → Bool
  | .u .heartbeatCounter | .u .sensorOk | .u .consecFailCount | .f .rawTempC | .f .rawHumPct
  | .f .calTempC | .f .calHumPct | .u .shouldWakeHp | .u .cyclesSinceHeater | .u .highRhCycles
  | .u .heaterActive | .u .lastHeaterRunCycle | .f .lastHeaterDeltaT | .u .lastHeaterPassed
  | .u .heaterRunCount => true
  | _ => false

/-- The words HP stores: the config block and the delivery ack. -/
def hpOwned : Field → Bool
  | .u .sensorSamples | .f .tempOffsetC | .f .tempMinChangeC | .f .rhOffsetPct
  | .f .rhMinChangePct | .u .maxSkipCycles | .u .heaterPeriodCycles | .u .highRhTriggerCycles
  | .u .hpAckSeq | .f .hpAckedTempC | .f .hpAckedHumPct => true
  | _ => false

def layout : Layout Field Field.Val :=
  { counter := .u .resultSeq
    count := fun (value : Nat) => value
    modulus := u32Mod
    order := copyOrder
    guarded := resultField
    attempts := 10
    counter_unguarded := rfl }

structure HpLp where
  lock : Lock Field Field.Val
  lp : Option (LpProg Unit)
  lastConsumedAckSeq : Nat

/-- What the sensor answers to the operation the LP program is at, if it asks it. -/
structure LpAnswer where
  acknowledged : Bool
  raw : Option Raw6
  deriving DecidableEq, Repr

inductive Action where
  | lpTimer
  | lpStep (answer : LpAnswer)
  | hpStore (field : Field) (value : field.Val)
  | getState (contents : Shared)
  | readerStep

/-- One operation of the LP program. -/
def lpStep (answer : LpAnswer) (system : HpLp) : Option HpLp :=
  match system.lp with
  | none => none
  | some (.ret _) => some { system with lp := none }
  | some (.call (.load field) next) =>
    some { system with lp := some (next (system.lock.memory field)) }
  | some (.call (.store field value) next) =>
    some { system with lock := layout.store system.lock field value, lp := some (next ()) }
  | some (.call .loadLastConsumedAckSeq next) =>
    some { system with lp := some (next system.lastConsumedAckSeq) }
  | some (.call (.storeLastConsumedAckSeq value) next) =>
    some { system with lp := some (next ()), lastConsumedAckSeq := value }
  | some (.call (.delayUs _) next) => some { system with lp := some (next ()) }
  | some (.call (.i2cWrite _) next) => some { system with lp := some (next answer.acknowledged) }
  | some (.call .i2cRead next) => some { system with lp := some (next answer.raw) }
  | some (.call .wakeupMainProcessor next) => some { system with lp := some (next ()) }

/-- The state after `lp_sensor_core_init`, before the first LP wake. -/
def start (contents : Shared) : HpLp :=
  { lock := initial zeroed contents, lp := none, lastConsumedAckSeq := 0 }

def step [FloatOps] (system : HpLp) : Action → Option HpLp
  | .lpTimer => if system.lp.isNone then some { system with lp := some main } else none
  | .lpStep answer => lpStep answer system
  | .hpStore field value =>
    if hpOwned field then some { system with lock := layout.store system.lock field value }
    else none
  | .getState contents =>
    (Layout.call system.lock contents).map fun lock => { system with lock := lock }
  | .readerStep => (layout.readerStep system.lock).map fun lock => { system with lock := lock }

/-! ## The LP program keeps to the lock -/

/-- The value a word carries if it is `result_seq`. -/
def seqValue : (field : Field) → field.Val → Option Nat
  | .u .resultSeq, value => some value
  | _, _ => none

theorem seqValue_other {field : Field} (differ : field ≠ .u .resultSeq) (value : field.Val) :
    seqValue field value = none := by
  unfold seqValue
  split
  · exact absurd rfl differ
  · rfl

/-- The state is `result_seq`, which only the LP program stores. -/
def seqContract : Prog.Contract LpOp LpOp.Res Nat where
  may seq op := match op with
    | .store field value =>
      (resultField field = true → seq % 2 = 1) ∧
        ∀ stored, seqValue field value = some stored → stored = u32 (seq + 1)
    | _ => True
  effect seq op answer after := match op, answer with
    | .load field, value =>
      (∀ loaded, seqValue field value = some loaded → loaded = seq) ∧ after = seq
    | .store field value, _ => after = (seqValue field value).getD seq
    | _, _ => after = seq

/-- Every operation but a store to `result_seq`. -/
def WindowOp : LpOp → Prop
  | .store field _ => field ≠ .u .resultSeq
  | _ => True

/-- An operation that stores neither `result_seq` nor a result field. -/
def OutsideOp : LpOp → Prop
  | .store field _ => field ≠ .u .resultSeq ∧ resultField field = false
  | _ => True

/-- An operation that stores nothing. -/
def QuietOp : LpOp → Prop
  | .store _ _ => False
  | _ => True

/-- A delay, or a transfer to or from the sensor that sends one of `cmds`. -/
def SensorOp (cmds : List Nat) : LpOp → Prop
  | .delayUs _ | .i2cRead => True
  | .i2cWrite cmd => cmd ∈ cmds
  | _ => False

theorem effect_frame {seq after : Nat} {op : LpOp} {answer : op.Res} (window : WindowOp op)
    (changed : seqContract.effect seq op answer after) : after = seq := by
  cases op with
  | load field => exact changed.2
  | store field value =>
    have same : after = (seqValue field value).getD seq := changed
    rw [same, seqValue_other window]
    rfl
  | loadLastConsumedAckSeq => exact changed
  | storeLastConsumedAckSeq value => exact changed
  | delayUs us => exact changed
  | i2cWrite cmd => exact changed
  | i2cRead => exact changed
  | wakeupMainProcessor => exact changed

theorem sensor_quiet {cmds : List Nat} (op : LpOp) (sensor : SensorOp cmds op) : QuietOp op := by
  cases op with
  | store field value => exact sensor.elim
  | _ => trivial

theorem quiet_outside (op : LpOp) (quiet : QuietOp op) : OutsideOp op := by
  cases op with
  | store field value => exact quiet.elim
  | _ => trivial

theorem outside_window (op : LpOp) (outside : OutsideOp op) : WindowOp op := by
  cases op with
  | store field value => exact outside.1
  | _ => trivial

theorem quiet_window (op : LpOp) (quiet : QuietOp op) : WindowOp op :=
  outside_window op (quiet_outside op quiet)

theorem storeU_window {field : UField} (value : Nat) (differ : field ≠ .resultSeq) :
    (storeU field value).Only WindowOp :=
  Prog.only_perform fun same => differ (Field.u.inj same)

theorem storeF_window (field : FField) (value : Flt) : (storeF field value).Only WindowOp :=
  Prog.only_perform fun same => by cases same

theorem wp_window {α : Type} {program : LpProg α} {seq : Nat} (odd : seq % 2 = 1)
    (only : program.Only WindowOp) :
    program.wp seqContract seq fun after _ => after = seq := by
  refine Prog.wp_of_only only (fun op window => ?_) fun op answer after => effect_frame
  cases op with
  | store field value =>
    refine ⟨fun _ => odd, fun stored isSeq => ?_⟩
    rw [seqValue_other window] at isSeq
    cases isSeq
  | _ => trivial

theorem wp_outside {α : Type} {program : LpProg α} {seq : Nat}
    (only : program.Only OutsideOp) :
    program.wp seqContract seq fun after _ => after = seq := by
  refine Prog.wp_of_only only (fun op outside => ?_) fun op answer after outside changed => ?_
  · cases op with
    | store field value =>
      refine ⟨fun guarded => ?_, fun stored isSeq => ?_⟩
      · rw [outside.2] at guarded
        cases guarded
      · rw [seqValue_other outside.1] at isSeq
        cases isSeq
    | _ => trivial
  · refine effect_frame ?_ changed
    cases op with
    | store field value => exact outside.1
    | _ => trivial

theorem wp_odd {α : Type} {program : LpProg α} {seq : Nat} (odd : seq % 2 = 1)
    (only : program.Only WindowOp) :
    program.wp seqContract seq fun after _ => after % 2 = 1 :=
  Prog.wp_mono (wp_window odd only) fun _ _ same => same ▸ odd

theorem wp_even {α : Type} {program : LpProg α} {seq : Nat} (even : seq % 2 = 0)
    (only : program.Only OutsideOp) :
    program.wp seqContract seq fun after _ => after % 2 = 0 :=
  Prog.wp_mono (wp_outside only) fun _ _ same => same ▸ even

theorem u32_parity (n : Nat) : u32 n % 2 = n % 2 := by
  unfold u32 u32Mod
  omega

theorem wp_bump (seq : Nat) :
    (increment .resultSeq).wp seqContract seq fun after _ => after = u32 (seq + 1) := by
  refine Prog.wp_bind ⟨trivial, fun value after loaded => ?_⟩
  obtain ⟨isSeq, same⟩ := loaded
  have current : value = seq := isSeq value rfl
  subst same
  refine ⟨⟨fun guarded => absurd guarded (by decide), fun stored isStored => ?_⟩, ?_⟩
  · have storedValue : u32 (value + 1) = stored := Option.some.inj isStored
    rw [← storedValue, current]
  · intro _ after changed
    have bumped : after = u32 (value + 1) := changed
    exact bumped.trans (by rw [current])

theorem wp_open {seq : Nat} (even : seq % 2 = 0) :
    (increment .resultSeq).wp seqContract seq fun after _ => after % 2 = 1 :=
  Prog.wp_mono (wp_bump seq) fun after _ bumped => by
    rw [bumped, u32_parity]
    omega

theorem wp_close {seq : Nat} (odd : seq % 2 = 1) :
    (increment .resultSeq).wp seqContract seq fun after _ => after % 2 = 0 :=
  Prog.wp_mono (wp_bump seq) fun after _ bumped => by
    rw [bumped, u32_parity]
    omega

theorem increment_window {field : UField} (differ : field ≠ .resultSeq) :
    (increment field).Only WindowOp :=
  Prog.only_bind (Prog.only_perform trivial) fun _ => storeU_window _ differ

theorem recordOutcome_window (ok : Bool) : (recordOutcome ok).Only WindowOp := by
  refine Prog.only_bind (increment_window (by decide)) fun _ => ?_
  refine Prog.only_bind (storeU_window _ (by decide)) fun _ => ?_
  cases ok with
  | true => exact storeU_window _ (by decide)
  | false => exact increment_window (by decide)

theorem heaterDue_quiet (schedule counter : UField) :
    (heaterDue schedule counter).Only QuietOp := by
  refine Prog.only_bind (Prog.only_perform trivial) fun period => ?_
  split
  · exact Prog.only_bind (Prog.only_perform trivial) fun _ =>
      Prog.only_bind (Prog.only_perform trivial) fun _ => trivial
  · trivial

theorem recordHeaterRun_window (run : Option HeaterRun) :
    (recordHeaterRun run).Only WindowOp := by
  cases run with
  | none => trivial
  | some run =>
    refine Prog.only_bind (storeF_window _ _) fun _ => ?_
    refine Prog.only_bind (storeF_window _ _) fun _ => ?_
    refine Prog.only_bind (Prog.only_perform trivial) fun _ => ?_
    refine Prog.only_bind (storeU_window _ (by decide)) fun _ => ?_
    refine Prog.only_bind (storeF_window _ _) fun _ => ?_
    refine Prog.only_bind (storeU_window _ (by decide)) fun _ => ?_
    exact increment_window (by decide)

theorem withinSkipBudget_quiet (same : Bool) : (withinSkipBudget same).Only QuietOp := by
  cases same with
  | false => trivial
  | true =>
    exact Prog.only_bind (Prog.only_perform trivial) fun _ =>
      Prog.only_bind (Prog.only_perform trivial) fun _ => trivial

theorem countSkip_window (skipThisCycle : Bool) : (countSkip skipThisCycle).Only WindowOp := by
  cases skipThisCycle with
  | false => trivial
  | true => exact increment_window (by decide)

theorem consumeAck_outside : consumeAck.Only OutsideOp := by
  refine Prog.only_bind (Prog.only_perform trivial) fun hpAckSeq => ?_
  refine Prog.only_bind (Prog.only_perform trivial) fun lastConsumed => ?_
  split
  · refine Prog.only_bind (Prog.only_perform trivial) fun _ => ?_
    refine Prog.only_bind (Prog.only_perform ⟨by decide, rfl⟩) fun _ => ?_
    refine Prog.only_bind (Prog.only_perform trivial) fun _ => ?_
    refine Prog.only_bind (Prog.only_perform ⟨by decide, rfl⟩) fun _ => ?_
    refine Prog.only_bind (Prog.only_perform ⟨by decide, rfl⟩) fun _ => ?_
    exact Prog.only_bind (Prog.only_perform trivial) fun _ => Prog.only_perform trivial
  · trivial

section Program

variable [FloatOps]

theorem measure_sensor {cmd : Nat} {cmds : List Nat} (listed : cmd ∈ cmds) (delay : Nat) :
    (measure cmd delay).Only (SensorOp cmds) := by
  refine Prog.only_bind (Prog.only_perform listed) fun acknowledged => ?_
  cases acknowledged with
  | false => trivial
  | true =>
    refine Prog.only_bind (Prog.only_perform trivial) fun _ => ?_
    refine Prog.only_bind (Prog.only_perform trivial) fun raw => ?_
    cases raw <;> trivial

theorem measureLoop_sensor (first : Bool) (remaining : Nat) (sumT sumH : Flt) (ok : Nat) :
    (measureLoop first remaining sumT sumH ok).Only (SensorOp [kCmdMeasureHigh]) := by
  induction remaining generalizing first sumT sumH ok with
  | zero => trivial
  | succ remaining ih =>
    have rest : (measureLoop true (remaining + 1) sumT sumH ok).Only
        (SensorOp [kCmdMeasureHigh]) := by
      refine Prog.only_bind (measure_sensor List.mem_cons_self _) fun reading => ?_
      cases reading with
      | none => exact ih _ _ _ _
      | some reading => exact ih _ _ _ _
    cases first with
    | true => exact rest
    | false => exact Prog.only_bind (Prog.only_perform trivial) fun _ => rest

theorem measureAveraged_sensor (samples : Nat) :
    (measureAveraged samples).Only (SensorOp [kCmdMeasureHigh]) :=
  Prog.only_bind (measureLoop_sensor _ _ _ _ _) fun _ => trivial

theorem measureAveraged_quiet (samples : Nat) : (measureAveraged samples).Only QuietOp :=
  Prog.only_mono sensor_quiet (measureAveraged_sensor samples)

theorem pulseLoop_sensor {heaterCmd : Nat} {cmds : List Nat} (listed : heaterCmd ∈ cmds)
    (heaterDelay : Nat) (minDeltaT t0 : Flt) (remaining : Nat) (hot : Reading) :
    (pulseLoop heaterCmd heaterDelay minDeltaT t0 remaining hot).Only (SensorOp cmds) := by
  induction remaining generalizing hot with
  | zero => trivial
  | succ remaining ih =>
    refine Prog.only_bind (measure_sensor listed _) fun pulse => ?_
    cases pulse with
    | none => exact ih _
    | some pulse =>
      dsimp only
      split
      · trivial
      · exact ih _

theorem cooldownLoop_sensor {cmds : List Nat} (listed : kCmdMeasureHigh ∈ cmds) (t0 : Flt)
    (remaining : Nat) (last : Reading) :
    (cooldownLoop t0 remaining last).Only (SensorOp cmds) := by
  induction remaining generalizing last with
  | zero => trivial
  | succ remaining ih =>
    refine Prog.only_bind (Prog.only_perform trivial) fun _ => ?_
    refine Prog.only_bind (measure_sensor listed _) fun cooled => ?_
    cases cooled with
    | none => exact ih _
    | some cooled =>
      dsimp only
      split
      · trivial
      · exact ih _

theorem runHeaterMaintenance_sensor (heaterCmd heaterDelay : Nat) (minDeltaT : Flt) :
    (runHeaterMaintenance heaterCmd heaterDelay minDeltaT).Only
      (SensorOp [kCmdMeasureHigh, heaterCmd]) := by
  have plain : kCmdMeasureHigh ∈ [kCmdMeasureHigh, heaterCmd] := List.mem_cons_self
  refine Prog.only_bind (measure_sensor plain _) fun baseline => ?_
  cases baseline with
  | none => trivial
  | some baseline =>
    refine Prog.only_bind (pulseLoop_sensor (by simp) _ _ _ _ _) fun hot => ?_
    refine Prog.only_bind (cooldownLoop_sensor plain _ _ _) fun last => ?_
    refine Prog.only_bind (Prog.only_perform trivial) fun _ => ?_
    exact Prog.only_bind (measure_sensor plain _) fun _ => trivial

theorem countHighRh_window (precalHum : Flt) : (countHighRh precalHum).Only WindowOp := by
  unfold countHighRh
  split
  · exact increment_window (by decide)
  · exact storeU_window _ (by decide)

theorem heaterSchedule_window (reading : Reading) : (heaterSchedule reading).Only WindowOp := by
  refine Prog.only_bind (increment_window (by decide)) fun _ => ?_
  refine Prog.only_bind (Prog.only_perform trivial) fun offset => ?_
  refine Prog.only_bind (countHighRh_window _) fun _ => ?_
  refine Prog.only_bind (Prog.only_mono quiet_window (heaterDue_quiet _ _)) fun _ => ?_
  exact Prog.only_bind (Prog.only_mono quiet_window (heaterDue_quiet _ _)) fun _ => trivial

theorem sameAsPrevDelivered_quiet (calTemp calHum : Flt) :
    (sameAsPrevDelivered calTemp calHum).Only QuietOp := by
  refine Prog.only_bind (Prog.only_perform trivial) fun _ => ?_
  refine Prog.only_bind (Prog.only_perform trivial) fun _ => ?_
  refine Prog.only_bind (Prog.only_perform trivial) fun _ => ?_
  split
  · exact Prog.only_bind (Prog.only_perform trivial) fun _ => trivial
  · trivial

theorem calibrateAndDecide_window (reading : Reading) :
    (calibrateAndDecide reading).Only WindowOp := by
  refine Prog.only_bind (Prog.only_perform trivial) fun _ => ?_
  refine Prog.only_bind (Prog.only_perform trivial) fun _ => ?_
  refine Prog.only_bind (storeF_window _ _) fun _ => ?_
  refine Prog.only_bind (storeF_window _ _) fun _ => ?_
  refine Prog.only_bind (Prog.only_mono quiet_window (sameAsPrevDelivered_quiet _ _)) fun _ => ?_
  refine Prog.only_bind (Prog.only_mono quiet_window (withinSkipBudget_quiet _)) fun _ => ?_
  exact Prog.only_bind (countSkip_window _) fun _ => trivial

theorem heaterRun_sensor (creep : Bool) :
    (heaterRun creep).Only (SensorOp
      [kCmdMeasureHigh, if creep then kCmdHeaterHighLong else kCmdHeaterMediumShort]) := by
  cases creep with
  | true => exact runHeaterMaintenance_sensor _ _ _
  | false => exact runHeaterMaintenance_sensor _ _ _

theorem heaterRun_quiet (creep : Bool) : (heaterRun creep).Only QuietOp :=
  Prog.only_mono sensor_quiet (heaterRun_sensor creep)

/-- The heater block leaves the odd window for the long run and comes back into it. -/
theorem wp_heaterBlock {seq : Nat} (odd : seq % 2 = 1) (creep : Bool) (reading : Reading) :
    (heaterBlock creep reading).wp seqContract seq fun after _ => after % 2 = 1 := by
  refine Prog.wp_seq (wp_odd odd (storeU_window _ (by decide))) fun opened _ odd => ?_
  refine Prog.wp_seq (wp_close odd) fun stable _ even => ?_
  have outside : (heaterRun creep).Only OutsideOp :=
    Prog.only_mono quiet_outside (heaterRun_quiet creep)
  refine Prog.wp_seq (wp_even even outside) fun later run even => ?_
  refine Prog.wp_seq (wp_open even) fun resumed _ odd => ?_
  refine wp_odd odd (Prog.only_bind (recordHeaterRun_window run) fun _ => ?_)
  refine Prog.only_bind (storeU_window _ (by decide)) fun _ => ?_
  refine Prog.only_bind (storeU_window _ (by decide)) fun _ => ?_
  exact Prog.only_bind (storeU_window _ (by decide)) fun _ => trivial

theorem wp_maintain {seq : Nat} (odd : seq % 2 = 1) (due : HeaterDue) (reading : Reading) :
    (maintain due reading).wp seqContract seq fun after _ => after % 2 = 1 := by
  unfold maintain
  split
  · exact wp_heaterBlock odd due.humidity reading
  · exact odd

theorem wp_processReading {seq : Nat} (odd : seq % 2 = 1) (reading : Option Reading) :
    (processReading reading).wp seqContract seq fun after _ => after % 2 = 1 := by
  cases reading with
  | none => exact odd
  | some reading =>
    refine Prog.wp_seq (wp_odd odd (storeF_window _ _)) fun _ _ odd => ?_
    refine Prog.wp_seq (wp_odd odd (storeF_window _ _)) fun _ _ odd => ?_
    refine Prog.wp_seq (wp_odd odd (heaterSchedule_window reading)) fun _ due odd => ?_
    exact Prog.wp_seq (wp_maintain odd due reading) fun _ _ odd =>
      wp_odd odd (calibrateAndDecide_window _)

theorem wp_cycleBody {seq : Nat} (odd : seq % 2 = 1) (wasOk : Nat) :
    (cycleBody wasOk).wp seqContract seq fun after _ => after % 2 = 1 := by
  refine Prog.wp_seq (wp_odd odd (Prog.only_perform trivial)) fun _ samples odd => ?_
  have averaged : (measureAveraged samples).Only WindowOp :=
    Prog.only_mono quiet_window (measureAveraged_quiet samples)
  refine Prog.wp_seq (wp_odd odd averaged) fun _ reading odd => ?_
  refine Prog.wp_seq (wp_odd odd (recordOutcome_window _)) fun _ _ odd => ?_
  exact Prog.wp_seq (wp_processReading odd reading) fun _ _ odd =>
    wp_odd odd (storeU_window _ (by decide))

theorem wp_main {seq : Nat} (even : seq % 2 = 0) :
    main.wp seqContract seq fun after _ => after % 2 = 0 := by
  refine Prog.wp_seq (wp_even even consumeAck_outside) fun _ _ even => ?_
  refine Prog.wp_seq (wp_even even (Prog.only_perform trivial)) fun _ wasOk even => ?_
  refine Prog.wp_seq (wp_open even) fun _ _ odd => ?_
  refine Prog.wp_seq (wp_cycleBody odd wasOk) fun _ _ odd => ?_
  refine Prog.wp_seq (wp_close odd) fun _ _ even => ?_
  refine wp_even even (Prog.only_bind (Prog.only_perform trivial) fun flagged => ?_)
  split
  · exact Prog.only_perform trivial
  · trivial

/-! ## Runs -/

structure Inv (system : HpLp) : Prop where
  lock : Seqlock.Inv layout system.lock
  running : ∀ program, system.lp = some program →
    program.wp seqContract (layout.countOf system.lock.memory) fun seq _ => seq % 2 = 0
  resting : system.lp = none → layout.countOf system.lock.memory % 2 = 0

omit [FloatOps] in
theorem start_inv (contents : Shared) : Inv (start contents) where
  lock := initial_inv contents (by decide)
  running := fun program none => by cases none
  resting := fun _ => rfl

omit [FloatOps] in
theorem countOf_store (lock : Lock Field Field.Val) (field : Field) (value : field.Val) :
    layout.countOf (layout.store lock field value).memory =
      (seqValue field value).getD (layout.countOf lock.memory) := by
  by_cases isSeq : field = .u .resultSeq
  · subst isSeq
    exact layout.store_same lock (.u .resultSeq) value
  · rw [seqValue_other isSeq]
    exact countOf_update value isSeq

omit [FloatOps] in
theorem keeps_of_may {lock : Lock Field Field.Val} {field : Field} {value : field.Val}
    (may : seqContract.may (layout.countOf lock.memory) (.store field value)) :
    Keeps layout lock field value where
  guarded := may.1
  counter := fun isSeq => by
    have stored := countOf_store lock field value
    have isCounter : field = .u .resultSeq := isSeq
    subst isCounter
    have bumped : (value : Nat) = u32 (layout.countOf lock.memory + 1) := may.2 value rfl
    exact stored.trans bumped

omit [FloatOps] in
theorem keeps_of_hpOwned {lock : Lock Field Field.Val} {field : Field} (value : field.Val)
    (owned : hpOwned field = true) : Keeps layout lock field value := by
  have unguarded : resultField field = false := by
    rcases field with field | field <;> cases field <;> first | rfl | cases owned
  refine ⟨fun guarded => ?_, fun isSeq => ?_⟩
  · have isGuarded : resultField field = true := guarded
    rw [unguarded] at isGuarded
    cases isGuarded
  · have isCounter : field = .u .resultSeq := isSeq
    subst isCounter
    cases owned

omit [FloatOps] in
theorem advance_inv {system : HpLp} {op : LpOp} {following : op.Res → LpProg Unit}
    (inv : Inv system) (running : system.lp = some (.call op following)) (answer : op.Res)
    (frame : seqContract.effect (layout.countOf system.lock.memory) op answer
      (layout.countOf system.lock.memory)) (consumed : Nat) :
    Inv { system with lp := some (following answer), lastConsumedAckSeq := consumed } where
  lock := inv.lock
  running := fun program same =>
    Option.some.inj same ▸ (inv.running _ running).2 answer _ frame
  resting := fun none => by cases none

omit [FloatOps] in
theorem load_effect (memory : Shared) (field : Field) :
    seqContract.effect (layout.countOf memory) (.load field) (memory field)
      (layout.countOf memory) := by
  refine ⟨fun loaded isSeq => ?_, rfl⟩
  by_cases isCounter : field = .u .resultSeq
  · subst isCounter
    exact (Option.some.inj isSeq).symm
  · rw [seqValue_other isCounter] at isSeq
    cases isSeq

omit [FloatOps] in
theorem lpStep_inv {system next : HpLp} {answer : LpAnswer} (inv : Inv system)
    (taken : lpStep answer system = some next) : Inv next := by
  unfold lpStep at taken
  split at taken <;> rename_i running <;> cases taken
  · exact ⟨inv.lock, fun program none => (by cases none), fun _ => inv.running _ running⟩
  · exact advance_inv inv running _ (load_effect _ _) _
  · have allowed := (inv.running _ running).1
    have later := (inv.running _ running).2 () _ rfl
    rw [← countOf_store] at later
    exact ⟨store_inv (keeps_of_may allowed) inv.lock,
      fun program same => Option.some.inj same ▸ later, fun none => (by cases none)⟩
  · exact advance_inv inv running _ rfl _
  · exact advance_inv inv running () rfl _
  · exact advance_inv inv running () rfl _
  · exact advance_inv inv running _ rfl _
  · exact advance_inv inv running _ rfl _
  · exact advance_inv inv running () rfl _

theorem step_inv (system : HpLp) (action : Action) (next : HpLp) (inv : Inv system)
    (taken : step system action = some next) : Inv next := by
  cases action with
  | lpTimer =>
    simp only [step, Option.ite_none_right_eq_some] at taken
    obtain ⟨asleep, result⟩ := taken
    cases result
    have even := inv.resting (Option.isNone_iff_eq_none.mp asleep)
    exact ⟨inv.lock, fun program same => Option.some.inj same ▸ wp_main even,
      fun none => (by cases none)⟩
  | lpStep answer => exact lpStep_inv inv taken
  | hpStore field value =>
    simp only [step, Option.ite_none_right_eq_some] at taken
    obtain ⟨owned, result⟩ := taken
    cases result
    have same : layout.countOf (layout.store system.lock field value).memory =
        layout.countOf system.lock.memory := by
      rw [countOf_store, seqValue_other]
      · rfl
      · rintro rfl
        cases owned
    exact ⟨store_inv (keeps_of_hpOwned value owned) inv.lock,
      fun program running => same ▸ inv.running program running,
      fun resting => same ▸ inv.resting resting⟩
  | getState contents =>
    simp only [step, Option.map_eq_some_iff] at taken
    obtain ⟨lock, called, result⟩ := taken
    cases result
    have sameMemory : lock.memory = system.lock.memory := call_memory called
    exact ⟨call_inv called inv.lock,
      fun program running => sameMemory ▸ inv.running program running,
      fun resting => sameMemory ▸ inv.resting resting⟩
  | readerStep =>
    simp only [step, Option.map_eq_some_iff] at taken
    obtain ⟨lock, read, result⟩ := taken
    cases result
    have sameMemory : lock.memory = system.lock.memory := readerStep_memory read
    exact ⟨readerStep_inv read inv.lock,
      fun program running => sameMemory ▸ inv.running program running,
      fun resting => sameMemory ▸ inv.resting resting⟩

/-- The result fields of `*out` are those of one published snapshot, and `*out`
was written. -/
def HandedPublished (system : HpLp) : Prop :=
  system.lock.written = true ∧
    ∃ snapshot ∈ system.lock.published, ∀ field, resultField field = true →
      system.lock.out field = snapshot field

/-- Some attempt found `result_seq` even, and the LP core stored no result field
while the last such attempt was copying. -/
def LastCopyIntact (system : HpLp) : Prop :=
  system.lock.written = true ∧ system.lock.torn = false

omit [FloatOps] in
theorem mem_copyOrder (field : Field) : field ∈ copyOrder := by
  rcases field with field | field <;> cases field <;> decide

/-- Whichever way a call returns, it hands over a published snapshot if its last
copy was intact; a clean return, with less than 2^32 stores to `result_seq`
meanwhile, always is. -/
theorem getState_handsPublished {contents : Shared} {actions : List Action} {final : HpLp}
    {clean : Bool} (ran : run step (start contents) actions = some final)
    (returned : final.lock.reader = .returned clean)
    (intact : (clean = true ∧ final.lock.moved < u32Mod) ∨ LastCopyIntact final) :
    HandedPublished final := by
  have inv : Inv final := run_invariant Inv step_inv (start_inv contents) ran
  have copied : LastCopyIntact final := by
    rcases intact with ⟨isClean, few⟩ | copied
    · subst isClean
      exact clean_read inv.lock returned few
    · exact copied
  obtain ⟨snapshot, member, same⟩ := returned_snapshot inv.lock returned copied.1 copied.2
  exact ⟨copied.1, snapshot, member,
    fun field result => same field result (mem_copyOrder field)⟩

end Program

theorem getState_handsPublished_asleep :
    ∃ final, run (@step exactFloat) (start zeroed)
        (.getState zeroed :: List.replicate 33 .readerStep) = some final ∧
      HandedPublished final := by
  obtain ⟨final, ran, clean⟩ := exists_final
    (fun final : HpLp => decide (final.lock.reader = .returned true ∧ final.lock.moved = 0))
    (show (run (@step exactFloat) (start zeroed)
      (.getState zeroed :: List.replicate 33 .readerStep)).any _ = true by decide)
  obtain ⟨returned, still⟩ := of_decide_eq_true clean
  refine ⟨final, ran, @getState_handsPublished exactFloat _ _ _ _ ran returned (Or.inl ⟨rfl, ?_⟩)⟩
  rw [still]
  decide

/-- A caller's struct that holds something already. -/
def filled : Shared
  | .u _ => (7 : Nat)
  | .f _ => Flt.fin 7

/-- The LP core has bumped `result_seq` and is measuring: all ten attempts find it
odd, and the caller's struct is returned as it was, no published snapshot. -/
theorem getState_unwritten :
    ∃ final, run (@step exactFloat) (start zeroed)
        (.lpTimer :: List.replicate 5 (.lpStep ⟨true, none⟩) ++
          .getState filled :: List.replicate 11 .readerStep) = some final ∧
      final.lock.reader = .returned false ∧ final.lock.written = false ∧
      (final.lock.out (.u .heartbeatCounter) : Nat) = 7 ∧
      (∀ snapshot ∈ final.lock.published, (snapshot (.u .heartbeatCounter) : Nat) = 0) ∧
      ¬ HandedPublished final := by
  obtain ⟨final, ran, gaveUp⟩ := exists_final
    (fun final : HpLp => decide (final.lock.reader = .returned false ∧
      final.lock.written = false ∧ (final.lock.out (.u .heartbeatCounter) : Nat) = 7 ∧
      final.lock.published.all fun snapshot => (snapshot (.u .heartbeatCounter) : Nat) == 0))
    (show (run (@step exactFloat) (start zeroed)
      (.lpTimer :: List.replicate 5 (.lpStep ⟨true, none⟩) ++
        .getState filled :: List.replicate 11 .readerStep)).any _ = true by decide)
  obtain ⟨returned, unwritten, kept, stable⟩ := of_decide_eq_true gaveUp
  refine ⟨final, ran, returned, unwritten, kept, fun snapshot member => ?_, fun handed => ?_⟩
  · simpa using List.all_eq_true.mp stable snapshot member
  · have written : final.lock.written = true := handed.1
    rw [unwritten] at written
    cases written

end SleepySensor.Snapshot
