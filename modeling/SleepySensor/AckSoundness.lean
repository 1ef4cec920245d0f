import SleepySensor.HpSteps
import SleepySensor.Lib.History

/-!
# Which deliveries are acked to the LP core

`s_last_ok` is one flag for all publish cycles, and `BIT_ALL_ACKED` one bit for
all PUBACKs.  The history variable holds the state messages whose PUBACK came.
A pair handed to `lp_sensor_core_ack_delivered` is one of these, if a success
that is read belongs to a publish this cycle started, and `BIT_ALL_ACKED` was
set with its state message among the acknowledged ones.
-/

set_option autoImplicit false

namespace SleepySensor.AckSoundness

open HpSystem

abbrev Observed := HpSystem × List StateMessage

def record (system : HpSystem) (action : HpAction) (delivered : List StateMessage) :
    List StateMessage :=
  (system.ackedState action).toList ++ delivered

def step (env : HpEnv) : Observed → HpAction → Option Observed :=
  Runs.observe (HpSystem.step env) record

def start (env : HpEnv) (nvs : Nvs) (cyclesStarted : Nat) (pendingVerify : Bool) : Observed :=
  (boot env nvs cyclesStarted pendingVerify, [])

/-- A data cycle that reads a success had its `mqtt_send_sensor_data` start a
task, and no task has an outcome left to store. -/
def OwnOutcome (system : HpSystem) : Prop :=
  system.mqtt.lastOk = true → system.sensor.cycle.otaOnly = false →
    system.sensor.cycle.startedCycle.isSome = true ∧
      ∀ pub ∈ system.mqtt.pub, pub.pc = .clearRunning

instance (system : HpSystem) : Decidable (OwnOutcome system) := by
  unfold OwnOutcome
  infer_instance

def Undisturbed (state : Observed) : HpAction → Prop
  | .sensor .lastOutcome => OwnOutcome state.1
  | .pub .ackWait => OwnAck state.1
  | _ => True

instance (state : Observed) (action : HpAction) : Decidable (Undisturbed state action) :=
  decidable_of_iff
    ((action = .sensor .lastOutcome → OwnOutcome state.1) ∧
      (action = .pub .ackWait → OwnAck state.1))
    (by unfold Undisturbed; split <;> simp_all)

/-- What the step acks, some delivered state message carried. -/
def PairDelivered (state : Observed) (action : HpAction) : Prop :=
  ∀ pair ∈ ackDelivered state.1 action,
    ∃ message ∈ state.2, message.params.temperature = some pair.1 ∧
      message.params.humidity = some pair.2

/-- What the step acks, a delivered state message of this cycle carried. -/
def AcksDelivered (state : Observed) (action : HpAction) : Prop :=
  ∀ pair ∈ ackDelivered state.1 action,
    ∃ message ∈ state.2, message.params.temperature = some pair.1 ∧
      message.params.humidity = some pair.2 ∧
      state.1.sensor.cycle.startedCycle = some message.cycle

instance (state : Observed) (action : HpAction) : Decidable (PairDelivered state action) := by
  unfold PairDelivered
  infer_instance

/-! ## The invariant -/

def Acked (delivered : List StateMessage) (cycle : Nat) (params : PublishParams) : Prop :=
  ∃ message ∈ delivered, message.cycle = cycle ∧ message.params = params

theorem Acked.append {delivered : List StateMessage} {cycle : Nat} {params : PublishParams}
    (acked : Acked delivered cycle params) (more : List StateMessage) :
    Acked (more ++ delivered) cycle params := by
  obtain ⟨message, member, same⟩ := acked
  exact ⟨message, List.mem_append_right more member, same⟩

def beforeSend : SensorPc → Prop
  | .attaching | .firstAttachCall _ | .reading | .branching | .measuring | .sending => True
  | _ => False

def inBranch : SensorPc → Prop
  | .measuring | .sending | .checkBusy | .waiting | .readOutcome | .noting => True
  | .revertCall _ .delivering | .delivering => True
  | _ => False

structure PubInv (mqtt : MqttSender) (delivered : List StateMessage) : Prop where
  running : ∀ pub, mqtt.pub = some pub → mqtt.taskRunning = true
  sent : ∀ pub, mqtt.pub = some pub → pub.pc = .ackWait →
    ∃ message, message.cycle = pub.cycle ∧ message.params = pub.params ∧
      (Outgoing.state message ∈ mqtt.outbox ∨ message ∈ delivered)
  ok : ∀ pub, mqtt.pub = some pub → pub.ok = true → Acked delivered pub.cycle pub.params

structure SensorInv (sensor : SensorsTask) (delivered : List StateMessage) : Prop where
  early : beforeSend sensor.pc →
    sensor.cycle.startedCycle = none ∧ sensor.cycle.publishedOk = false
  outcome : sensor.cycle.publishedOk = true → sensor.cycle.otaOnly = false →
    ∃ cycle, sensor.cycle.startedCycle = some cycle ∧
      Acked delivered cycle sensor.cycle.values
  flagged : inBranch sensor.pc → sensor.cycle.otaOnly = false →
    sensor.cycle.values.temperature = some sensor.cycle.state.calTempC ∧
      sensor.cycle.values.humidity = some sensor.cycle.state.calHumPct

/-- The publish cycle that the sensor task has started, while it runs and after. -/
structure OwnPublish (mqtt : MqttSender) (delivered : List StateMessage) (cycle : Nat)
    (values : PublishParams) : Prop where
  pub : ∀ pub, mqtt.pub = some pub → pub.cycle = cycle ∧ pub.params = values
  stored : (∀ pub, mqtt.pub = some pub → pub.pc = .clearRunning) → mqtt.lastOk = true →
    Acked delivered cycle values

structure Inv (system : HpSystem) (delivered : List StateMessage) : Prop where
  publish : PubInv system.mqtt delivered
  sensor : SensorInv system.sensor delivered
  own : ∀ cycle, system.sensor.cycle.startedCycle = some cycle →
    OwnPublish system.mqtt delivered cycle system.sensor.cycle.values

theorem inv_boot (env : HpEnv) (nvs : Nvs) (cyclesStarted : Nat) (pendingVerify : Bool)
    (delivered : List StateMessage) : Inv (boot env nvs cyclesStarted pendingVerify) delivered where
  publish := by refine ⟨?_, ?_, ?_⟩ <;> intro pub running <;> cases running
  sensor := ⟨fun _ => ⟨rfl, rfl⟩, (fun ok => by cases ok), False.elim⟩
  own := by
    intro cycle started
    cases started

variable {env : HpEnv} {system next : HpSystem} {delivered : List StateMessage}

/-! ## Steps of the sensor task -/

theorem Inv.ofSensor (inv : Inv system delivered) (mqtt : next.mqtt = system.mqtt)
    (sensor : SensorInv next.sensor delivered)
    (own : next.sensor.cycle.startedCycle = none ∨
      next.sensor.cycle.startedCycle = system.sensor.cycle.startedCycle ∧
        next.sensor.cycle.values = system.sensor.cycle.values) : Inv next delivered := by
  refine ⟨by rw [mqtt]; exact inv.publish, sensor, ?_⟩
  intro cycle started
  rcases own with none | ⟨same, values⟩
  · rw [none] at started
    cases started
  · rw [mqtt, values]
    exact inv.own cycle (same ▸ started)

theorem Inv.moved (inv : Inv system delivered) (mqtt : next.mqtt = system.mqtt)
    (cycle : next.sensor.cycle = system.sensor.cycle)
    (early : beforeSend next.sensor.pc → beforeSend system.sensor.pc)
    (inside : inBranch next.sensor.pc → inBranch system.sensor.pc) : Inv next delivered := by
  refine inv.ofSensor mqtt ⟨?_, ?_, ?_⟩ (.inr (by rw [cycle]; exact ⟨rfl, rfl⟩)) <;> rw [cycle]
  · exact fun at_ => inv.sensor.early (early at_)
  · exact inv.sensor.outcome
  · exact fun at_ => inv.sensor.flagged (inside at_)

theorem inv_attachReady (inv : Inv system delivered) (at_ : system.sensor.pc = .attaching) :
    Inv system.attachReady delivered := by
  have early := inv.sensor.early (by rw [at_]; trivial)
  refine inv.ofSensor rfl ⟨fun _ => early, inv.sensor.outcome, ?_⟩ (.inr ⟨rfl, rfl⟩)
  intro inside
  simp only [attachReady] at inside
  split at inside <;> exact inside.elim

theorem inv_noteCycleEnd (inv : Inv system delivered) :
    Inv (system.noteCycleResult false .cycleEnd) delivered := by
  refine inv.moved rfl rfl ?_ ?_ <;> intro reached <;> simp only [noteCycleResult] at reached <;>
    split at reached <;> exact reached.elim

theorem inv_note (inv : Inv system delivered) (at_ : system.sensor.pc = .noting) :
    Inv (system.noteCycleResult system.sensor.cycle.publishedOk .delivering) delivered := by
  refine inv.moved rfl rfl ?_ (fun _ => by rw [at_]; trivial)
  intro reached
  simp only [noteCycleResult] at reached
  split at reached <;> exact reached.elim

theorem inv_finishRevert {dbm : Int} {resume : AfterNote} (inv : Inv system delivered)
    (at_ : system.sensor.pc = .revertCall dbm resume) (accepted : Bool) :
    Inv (system.finishRevert dbm resume accepted) delivered := by
  refine inv.moved rfl rfl ?_ ?_ <;> rw [at_] <;> cases resume <;> exact id

theorem inv_readState (inv : Inv system delivered) (at_ : system.sensor.pc = .reading)
    (state : LpSnapshot) : Inv (system.withSensor (system.sensor.takeState state)) delivered := by
  have early := inv.sensor.early (by rw [at_]; trivial)
  obtain ⟨delta, progressed, taken⟩ := system.sensor.takeState_eq state
  rw [taken]
  exact inv.ofSensor rfl ⟨fun _ => early, inv.sensor.outcome, False.elim⟩ (.inr ⟨rfl, rfl⟩)

theorem inv_branch (inv : Inv system delivered) (at_ : system.sensor.pc = .branching)
    (inSession due viaAdc : Bool) :
    Inv (system.withSensor (system.sensor.branch inSession due viaAdc)) delivered := by
  have early := inv.sensor.early (by rw [at_]; trivial)
  obtain ⟨quiet, stalled, otaOnly, values, pc, same, place, flagged⟩ :=
    system.sensor.branch_eq inSession due viaAdc
  rw [same]
  refine inv.ofSensor rfl ⟨fun _ => early, ?_, ?_⟩ (.inl early.1)
  · intro published
    exact absurd (early.2.symm.trans published) (by decide)
  · intro publishing data
    have moved : pc ≠ .cycleEnd := by
      rintro rfl
      exact publishing
    rw [flagged moved data]
    exact ⟨rfl, rfl⟩

theorem withBattery_reading (values : PublishParams) (outcome : AdcOutcome) :
    (SensorCycle.withBattery values outcome).temperature = values.temperature ∧
      (SensorCycle.withBattery values outcome).humidity = values.humidity := by
  unfold SensorCycle.withBattery
  split <;> exact ⟨rfl, rfl⟩

theorem inv_measure (inv : Inv system delivered) (at_ : system.sensor.pc = .measuring)
    (outcome : AdcOutcome) :
    Inv (system.withSensor (system.sensor.measure outcome)) delivered := by
  have early := inv.sensor.early (by rw [at_]; trivial)
  obtain ⟨temperature, humidity⟩ := withBattery_reading system.sensor.cycle.values outcome
  refine inv.ofSensor rfl ⟨fun _ => early, ?_, ?_⟩ (.inl early.1)
  · intro published
    exact absurd (early.2.symm.trans published) (by decide)
  · intro _ data
    have flagged := inv.sensor.flagged (by rw [at_]; trivial) data
    exact ⟨temperature.trans flagged.1, humidity.trans flagged.2⟩

theorem SensorInv.sent (inv : SensorInv system.sensor delivered)
    (at_ : system.sensor.pc = .sending) (started : Option Nat) :
    SensorInv (HpSystem.sent system.sensor started) delivered := by
  have early := inv.early (by rw [at_]; trivial)
  refine ⟨False.elim, ?_, fun _ => inv.flagged (by rw [at_]; trivial)⟩
  intro published
  exact absurd (early.2.symm.trans published) (by decide)

theorem inv_sendStarted (inv : Inv system delivered) (at_ : system.sensor.pc = .sending) :
    Inv { system with
      mqtt :=
        { system.mqtt with
          taskRunning := true, idleBit := false
          pub := some { cycle := system.cyclesStarted, params := system.sensor.cycle.values } }
      sensor := sent system.sensor (some system.cyclesStarted)
      cyclesStarted := system.cyclesStarted + 1 } delivered := by
  refine ⟨⟨fun _ _ => rfl, ?_, ?_⟩, inv.sensor.sent at_ _, ?_⟩
  · rintro pub ⟨⟩ waiting
    cases waiting
  · rintro pub ⟨⟩ ok
    cases ok
  · rintro cycle ⟨⟩
    refine ⟨?_, fun finished => ?_⟩
    · rintro pub ⟨⟩
      exact ⟨rfl, rfl⟩
    · cases finished _ rfl

theorem inv_sendFailed (inv : Inv system delivered) (at_ : system.sensor.pc = .sending)
    (free : system.mqtt.taskRunning = false) :
    Inv { system with
      mqtt := { system.mqtt with taskRunning := false, idleBit := true }
      sensor := sent system.sensor none } delivered := by
  refine ⟨⟨?_, inv.publish.sent, inv.publish.ok⟩, inv.sensor.sent at_ _, ?_⟩
  · intro pub found
    exact absurd (free.symm.trans (inv.publish.running pub found)) (by decide)
  · intro cycle started
    cases started

theorem inv_readOutcome (inv : Inv system delivered) (at_ : system.sensor.pc = .readOutcome)
    (own : OwnOutcome system) : Inv system.readOutcome delivered := by
  have flagged := inv.sensor.flagged (by rw [at_]; trivial)
  refine inv.ofSensor rfl ⟨False.elim, ?_, fun _ => flagged⟩ (.inr ⟨rfl, rfl⟩)
  intro lastOk data
  obtain ⟨started, finished⟩ := own lastOk data
  obtain ⟨cycle, started⟩ := Option.isSome_iff_exists.mp started
  exact ⟨cycle, started, (inv.own cycle started).stored finished lastOk⟩

theorem inv_deliver (inv : Inv system delivered) (nowUs : Int) (stateRead marked : Bool) :
    Inv (system.deliver nowUs stateRead marked) delivered := by
  obtain ⟨log, checked, pending, same⟩ := system.deliver_eq nowUs stateRead marked
  rw [same]
  exact inv.moved rfl rfl (False.elim) (False.elim)

theorem inv_supervise (inv : Inv system delivered) (stateRead : Bool) :
    Inv (system.supervise stateRead) delivered := by
  refine inv.moved rfl rfl ?_ ?_ <;> intro reached <;>
    simp only [HpSystem.supervise, withSensor] at reached <;> split at reached <;>
    exact reached.elim

theorem inv_sensor {event : SensorEvent} (inv : Inv system delivered)
    (met : Undisturbed (system, delivered) (.sensor event))
    (move : SensorMove env system event next) : Inv next delivered := by
  cases move with
  | attached at_ => exact inv_attachReady inv at_
  | attachFailed at_ => exact inv_noteCycleEnd inv
  | firstAttachCall accepted at_ =>
    exact inv.moved rfl rfl (fun _ => by rw [at_]; trivial) (False.elim)
  | revertCall accepted at_ => exact inv_finishRevert inv at_ accepted
  | readState state at_ => exact inv_readState inv at_ state
  | branch at_ => exact inv_branch inv at_ _ _ _
  | measure outcome at_ => exact inv_measure inv at_ outcome
  | sendRefused created at_ busy => exact inv.ofSensor rfl (inv.sensor.sent at_ _) (.inl rfl)
  | sendFailed at_ free => exact inv_sendFailed inv at_ free
  | sendStarted at_ free => exact inv_sendStarted inv at_
  | isBusy at_ =>
    refine inv.moved rfl rfl ?_ (fun _ => by rw [at_]; trivial)
    simp only [atSensorPc, withSensor]
    split <;> exact False.elim
  | waitDone at_ idle =>
    exact inv.moved rfl rfl (False.elim) (fun _ => by rw [at_]; trivial)
  | waitTimeout at_ =>
    exact inv.moved rfl rfl (False.elim) (False.elim)
  | readOutcome at_ => exact inv_readOutcome inv at_ met
  | note at_ => exact inv_note inv at_
  | deliver nowUs stateRead marked at_ => exact inv_deliver inv nowUs stateRead marked
  | timeoutInSession at_ active =>
    exact inv.moved rfl rfl (False.elim) (False.elim)
  | timeoutNoted at_ inactive => exact inv_noteCycleEnd inv
  | supervise stateRead at_ => exact inv_supervise inv stateRead
  | beginWait at_ =>
    exact inv.moved rfl rfl (False.elim) (False.elim)
  | wake lpWoke at_ =>
    exact inv.ofSensor rfl ⟨fun _ => ⟨rfl, rfl⟩, (fun ok => by cases ok), False.elim⟩
      (.inl rfl)

/-! ## Steps of the publish task -/

theorem Inv.pubMoved {pub after : Pub} (inv : Inv system delivered)
    (running : system.mqtt.pub = some pub) (sensor : next.sensor = system.sensor)
    (flags : SameFlags system next) (moved : next.mqtt.pub = some after)
    (cycle : after.cycle = pub.cycle) (params : after.params = pub.params)
    (ok : after.ok = true → pub.ok = true) (notWaiting : after.pc ≠ .ackWait)
    (notDone : after.pc ≠ .clearRunning) : Inv next delivered := by
  refine ⟨⟨?_, ?_, ?_⟩, by rw [sensor]; exact inv.sensor, ?_⟩
  · intro _ _
    rw [flags.taskRunning]
    exact inv.publish.running pub running
  · intro other found waiting
    cases Option.some.inj (moved.symm.trans found)
    exact (notWaiting waiting).elim
  · intro other found succeeded
    cases Option.some.inj (moved.symm.trans found)
    rw [cycle, params]
    exact inv.publish.ok pub running (ok succeeded)
  · intro started isStarted
    rw [sensor] at isStarted ⊢
    have own := inv.own started isStarted
    refine ⟨?_, fun finished => (notDone (finished after moved)).elim⟩
    intro other found
    cases Option.some.inj (moved.symm.trans found)
    rw [cycle, params]
    exact own.pub pub running

theorem plain_ne {pc : PubPc} (isPlain : plain pc) : pc ≠ .ackWait ∧ pc ≠ .clearRunning := by
  refine ⟨?_, ?_⟩ <;> rintro rfl <;> exact isPlain

theorem inv_publishState {pub : Pub} (inv : Inv system delivered)
    (running : system.mqtt.pub = some pub) :
    Inv (system.enqueue pub [.state (system.stateMessage pub)] .ackWait) delivered := by
  refine ⟨⟨?_, ?_, ?_⟩, inv.sensor, ?_⟩
  · intro _ _
    exact inv.publish.running pub running
  · rintro other ⟨⟩ -
    refine ⟨system.stateMessage pub, rfl, rfl, .inl ?_⟩
    exact List.mem_append_right system.mqtt.outbox List.mem_cons_self
  · rintro other ⟨⟩ succeeded
    exact inv.publish.ok pub running succeeded
  · intro started isStarted
    refine ⟨?_, fun finished => by cases finished _ rfl⟩
    rintro other ⟨⟩
    exact (inv.own started isStarted).pub pub running

theorem inv_acked {pub : Pub} (inv : Inv system delivered)
    (running : system.mqtt.pub = some pub) (at_ : pub.pc = .ackWait)
    (all : system.mqtt.allAckedBit = true) (own : OwnAck system) :
    Inv (system.ackWait pub) delivered := by
  obtain ⟨message, cycle, params, place⟩ := inv.publish.sent pub running at_
  have member : message ∈ delivered :=
    place.resolve_left fun waiting => by
      have another := own all pub running _ waiting
      simp [Outgoing.isStateOf, cycle] at another
  unfold ackWait
  rw [if_pos all]
  refine ⟨⟨?_, ?_, ?_⟩, inv.sensor, ?_⟩
  · intro _ _
    exact inv.publish.running pub running
  · rintro other ⟨⟩ waiting
    cases waiting
  · rintro other ⟨⟩ -
    exact ⟨message, member, cycle, params⟩
  · intro started isStarted
    refine ⟨?_, fun finished => by cases finished _ rfl⟩
    rintro other ⟨⟩
    exact (inv.own started isStarted).pub pub running

theorem inv_storeOk {pub : Pub} (inv : Inv system delivered)
    (running : system.mqtt.pub = some pub) : Inv (system.storeOk pub) delivered := by
  refine ⟨⟨?_, ?_, ?_⟩, inv.sensor, ?_⟩
  · intro _ _
    exact inv.publish.running pub running
  · rintro other ⟨⟩ waiting
    cases waiting
  · rintro other ⟨⟩ succeeded
    exact inv.publish.ok pub running succeeded
  · intro started isStarted
    obtain ⟨cycle, params⟩ := (inv.own started isStarted).pub pub running
    refine ⟨?_, ?_⟩
    · rintro other ⟨⟩
      exact ⟨cycle, params⟩
    · intro _ succeeded
      have acked := inv.publish.ok pub running succeeded
      rw [cycle, params] at acked
      exact acked

theorem inv_clearRunning {pub : Pub} (inv : Inv system delivered)
    (running : system.mqtt.pub = some pub) (at_ : pub.pc = .clearRunning) :
    Inv system.clearRunning delivered := by
  refine ⟨(by refine ⟨?_, ?_, ?_⟩ <;> intro other found <;> cases found), inv.sensor, ?_⟩
  intro started isStarted
  refine ⟨(fun other found => by cases found), fun _ succeeded => ?_⟩
  refine (inv.own started isStarted).stored ?_ succeeded
  intro other found
  cases Option.some.inj (running.symm.trans found)
  exact at_

theorem inv_pub {pub : Pub} {event : PubEvent} (inv : Inv system delivered)
    (running : system.mqtt.pub = some pub) (met : Undisturbed (system, delivered) (.pub event))
    (move : PubMove env system pub event next) : Inv next delivered := by
  cases move with
  | quiet noTrial frame =>
    obtain ⟨after, moved, cycle, params, ok, -, isPlain⟩ := frame.pub
    obtain ⟨notWaiting, notDone⟩ := plain_ne isPlain
    exact inv.pubMoved running frame.sensor frame.flags moved cycle params ok notWaiting notDone
  | publishState at_ => exact inv_publishState inv running
  | acked at_ all => exact inv_acked inv running at_ all met
  | merge at_ trial =>
    refine inv.pubMoved running rfl ⟨rfl, rfl, rfl, rfl, rfl⟩ rfl rfl rfl id ?_ ?_ <;>
      rw [if_pos trial] <;> simp
  | trialCall accepted at_ =>
    exact inv.pubMoved running rfl ⟨rfl, rfl, rfl, rfl, rfl⟩ rfl rfl rfl id (by simp) (by simp)
  | session at_ healthy due =>
    exact inv.pubMoved running rfl ⟨rfl, rfl, rfl, rfl, rfl⟩ rfl rfl rfl id (by simp) (by simp)
  | storeOk at_ => exact inv_storeOk inv running
  | clearRunning at_ => exact inv_clearRunning inv running at_

/-! ## The other tasks, and whole runs -/

theorem Inv.record (inv : Inv system delivered) (more : List StateMessage) :
    Inv system (more ++ delivered) := by
  refine ⟨⟨inv.publish.running, ?_, ?_⟩, ⟨inv.sensor.early, ?_, inv.sensor.flagged⟩, ?_⟩
  · intro pub running waiting
    obtain ⟨message, cycle, params, place⟩ := inv.publish.sent pub running waiting
    exact ⟨message, cycle, params, place.imp_right (List.mem_append_right more)⟩
  · intro pub running ok
    exact (inv.publish.ok pub running ok).append more
  · intro published data
    obtain ⟨cycle, started, acked⟩ := inv.sensor.outcome published data
    exact ⟨cycle, started, acked.append more⟩
  · intro cycle started
    have own := inv.own cycle started
    exact ⟨own.pub, fun finished lastOk => (own.stored finished lastOk).append more⟩

theorem Inv.clientMoved (inv : Inv system delivered) (frame : ClientQuiet system next)
    (kept : ∀ message, Outgoing.state message ∈ system.mqtt.outbox →
      Outgoing.state message ∈ next.mqtt.outbox ∨ message ∈ delivered) : Inv next delivered := by
  refine ⟨⟨?_, ?_, ?_⟩, by rw [frame.sensor]; exact inv.sensor, ?_⟩
  · rw [frame.pub, frame.flags.taskRunning]
    exact inv.publish.running
  · intro pub running waiting
    rw [frame.pub] at running
    obtain ⟨message, cycle, params, place⟩ := inv.publish.sent pub running waiting
    exact ⟨message, cycle, params, place.elim (kept message) .inr⟩
  · rw [frame.pub]
    exact inv.publish.ok
  · intro cycle started
    rw [frame.sensor] at started ⊢
    have own := inv.own cycle started
    refine ⟨by rw [frame.pub]; exact own.pub, ?_⟩
    rw [frame.pub, frame.flags.lastOk]
    exact own.stored

theorem inv_client {event : ClientEvent} (inv : Inv system delivered)
    (move : ClientMove system event next) :
    Inv next (record system (.client event) delivered) := by
  cases move with
  | quiet frame states noAck =>
    apply (inv.record _).clientMoved frame
    intro message waiting
    exact .inl ((states message).mpr waiting)
  | acked frame acked kept =>
    apply (inv.record _).clientMoved frame
    intro other waiting
    rcases kept other waiting with rfl | still
    · rw [acked]
      exact .inr List.mem_cons_self
    · exact .inl still

theorem inv_step (state : Observed) (action : HpAction) (after : Observed)
    (inv : Inv state.1 state.2)
    (met : Undisturbed state action) (taken : step env state action = some after) :
    Inv after.1 after.2 := by
  obtain ⟨stepped, recorded⟩ := Runs.observe_step taken
  rw [recorded]
  obtain ⟨system, delivered⟩ := state
  obtain ⟨next, _⟩ := after
  cases step_move stepped with
  | sensor move => exact inv_sensor inv met move
  | pub running leaves move => exact inv_pub inv running met move
  | tail => exact ⟨⟨inv.publish.running, inv.publish.sent, inv.publish.ok⟩, inv.sensor,
      fun cycle started => ⟨(inv.own cycle started).pub, (inv.own cycle started).stored⟩⟩
  | client move => exact inv_client inv move
  | @ota _ event accepted _ running at_ inCycle stepped =>
    obtain ⟨radio, same⟩ := system.otaRadio_eq event accepted
    rw [same]
    exact ⟨inv.publish, inv.sensor, inv.own⟩
  | reset pendingVerify => exact inv_boot env _ _ pendingVerify _

theorem acks_of_inv (state : Observed) (action : HpAction) (inv : Inv state.1 state.2) :
    AcksDelivered state action := by
  rintro ⟨temperature, humidity⟩ acked
  cases action with
  | sensor event =>
    cases event with
    | deliver nowUs stateRead marked =>
      obtain ⟨⟨at_, published, data⟩, same⟩ := Option.ite_none_right_eq_some.mp acked
      obtain ⟨cycle, started, message, member, own, params⟩ := inv.sensor.outcome published data
      have flagged := inv.sensor.flagged (by rw [at_]; trivial) data
      cases Option.some.inj same
      exact ⟨message, member, by rw [params]; exact flagged.1, by rw [params]; exact flagged.2,
        by rw [own]; exact started⟩
    | _ => cases acked
  | _ => cases acked

/-- In every run whose steps are undisturbed, what is acked to the LP core was
delivered by the publish cycle of the same HP cycle. -/
theorem acksDelivered_run (env : HpEnv) (nvs : Nvs) (cyclesStarted : Nat) (pendingVerify : Bool)
    (actions : List HpAction)
    (met : Runs.Along (step env) Undisturbed (start env nvs cyclesStarted pendingVerify) actions) :
    Runs.Along (step env) AcksDelivered (start env nvs cyclesStarted pendingVerify) actions :=
  Runs.along_of_invariant (fun state => Inv state.1 state.2) inv_step
    (fun state action inv _ => acks_of_inv state action inv)
    (inv_boot env nvs cyclesStarted pendingVerify []) met

/-! ## One cycle, and two of which the second reads the first one's outcome -/

def publishedInTime : List HpAction :=
  attachFirst ++ takeUp (reading 1 (.fin 21)) ++ [.sensor .isBusy] ++ publishUpToState ++
    allAcked 33 ++ publishToOutcome ++ publishEnd ++ noteOutcome

/-- The first publish outlasts its wait; the second cycle's publish is refused. -/
def readsNeighbour : List HpAction :=
  attachFirst ++ takeUp (reading 1 (.fin 21)) ++ waitTimesOut ++ sleepAndWake ++
    [.sensor (.attachGate true)] ++ takeUp (reading 2 (.fin 25)) ++ [.sensor .isBusy] ++
    publishUpToState ++ allAcked 33 ++ publishToOutcome ++ publishEnd ++ noteOutcome

theorem acksDelivered_inTime :
    (Runs.run (step benchEnv) (start benchEnv Nvs.erased 0 false) publishedInTime).isSome = true ∧
      Runs.Along (step benchEnv) AcksDelivered (start benchEnv Nvs.erased 0 false)
        publishedInTime :=
  ⟨by decide +kernel, acksDelivered_run benchEnv Nvs.erased 0 false publishedInTime
    (by decide +kernel)⟩

theorem neighbour_acked :
    ¬ ∀ env nvs cyclesStarted pendingVerify actions,
      Runs.Along (step env) PairDelivered (start env nvs cyclesStarted pendingVerify) actions := by
  intro always
  have sound := always benchEnv Nvs.erased 0 false readsNeighbour
  revert sound
  decide +kernel

end SleepySensor.AckSoundness
