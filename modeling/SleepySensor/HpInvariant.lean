import SleepySensor.HpSteps

/-!
# Where the tasks of the HP core can be

What every step keeps, whatever the publish task, the broker and the radio do:
one publish task at a time, of the latest cycle, and only after the first attach
of the boot; an OTA session only inside it.
-/

set_option autoImplicit false

namespace SleepySensor.HpSystem

/-- After the attach gate of a cycle was passed. -/
def reached : SensorPc → Prop
  | .firstAttachCall _ | .reading | .branching | .measuring | .sending | .checkBusy => True
  | .waiting | .readOutcome | .noting | .revertCall _ .delivering | .delivering | .timedOut => True
  | _ => False

structure Placed (system : HpSystem) : Prop where
  running : ∀ pub ∈ system.mqtt.pub, system.mqtt.taskRunning = true
  latest : ∀ pub ∈ system.mqtt.pub, pub.cycle + 1 = system.cyclesStarted
  attachedPub : ∀ pub ∈ system.mqtt.pub, system.config.tx.firstAttachDone = true
  attached : reached system.sensor.pc → system.config.tx.firstAttachDone = true
  firstCall : ∀ dbm, system.sensor.pc = .firstAttachCall dbm → system.mqtt.pub = none
  session : system.ota.pc ≠ .idle → ∃ pub ∈ system.mqtt.pub, pub.pc = .inOta
  lastOk : system.mqtt.lastOk = true →
    ∃ cycle ∈ system.mqtt.lastOkCycle, cycle < system.cyclesStarted
  outcome : system.sensor.cycle.publishedOk = true →
    ∃ cycle ∈ system.sensor.cycle.outcomeCycle, cycle < system.cyclesStarted

theorem placed_boot (env : HpEnv) (nvs : Nvs) (cyclesStarted : Nat) (pendingVerify : Bool) :
    Placed (boot env nvs cyclesStarted pendingVerify) where
  running := by intro pub running; cases running
  latest := by intro pub running; cases running
  attachedPub := by intro pub running; cases running
  attached := False.elim
  firstCall := by intro dbm at_; cases at_
  session := fun busy => (busy rfl).elim
  lastOk := by intro ok; cases ok
  outcome := by intro ok; cases ok

variable {env : HpEnv} {system next : HpSystem}

/-! ## The sensor task -/

theorem Placed.sensorMoved (placed : Placed system) (mqtt : next.mqtt = system.mqtt)
    (ota : next.ota = system.ota) (started : next.cyclesStarted = system.cyclesStarted)
    (kept : system.config.tx.firstAttachDone = true → next.config.tx.firstAttachDone = true)
    (reach : reached next.sensor.pc → next.config.tx.firstAttachDone = true)
    (call : ∀ dbm, next.sensor.pc = .firstAttachCall dbm → system.mqtt.pub = none)
    (outcome : next.sensor.cycle.publishedOk = true →
      ∃ cycle ∈ next.sensor.cycle.outcomeCycle, cycle < system.cyclesStarted) :
    Placed next := by
  refine ⟨?_, ?_, ?_, reach, ?_, ?_, ?_, ?_⟩
  · rw [mqtt]
    exact placed.running
  · rw [mqtt, started]
    exact placed.latest
  · rw [mqtt]
    exact fun pub running => kept (placed.attachedPub pub running)
  · rw [mqtt]
    exact call
  · rw [mqtt, ota]
    exact placed.session
  · rw [mqtt, started]
    exact placed.lastOk
  · rw [started]
    exact outcome

theorem Placed.moved (placed : Placed system) (mqtt : next.mqtt = system.mqtt)
    (ota : next.ota = system.ota) (started : next.cyclesStarted = system.cyclesStarted)
    (tx : next.config.tx.firstAttachDone = system.config.tx.firstAttachDone)
    (cycle : next.sensor.cycle = system.sensor.cycle)
    (reach : reached next.sensor.pc → reached system.sensor.pc)
    (call : ∀ dbm, next.sensor.pc ≠ .firstAttachCall dbm) : Placed next :=
  placed.sensorMoved mqtt ota started (fun done => tx.trans done)
    (fun at_ => tx.trans (placed.attached (reach at_)))
    (fun dbm at_ => (call dbm at_).elim) (by rw [cycle]; exact placed.outcome)

theorem placed_attachReady (placed : Placed system) : Placed system.attachReady := by
  have done : system.attachReady.config.tx.firstAttachDone = true :=
    TxPower.noteFirstAttach_done system.config.tx
  refine placed.sensorMoved rfl rfl rfl (fun _ => done) (fun _ => done) ?_ placed.outcome
  intro dbm at_
  simp only [attachReady] at at_
  split at at_
  case h_1 first call =>
    cases running : system.mqtt.pub with
    | none => rfl
    | some pub =>
      have attached := placed.attachedPub pub running
      rw [TxPower.noteFirstAttach_call call] at attached
      cases attached
  case h_2 => cases at_

theorem placed_noteCycleResult {ok : Bool} {resume : AfterNote} (placed : Placed system)
    (place : resume = .delivering → reached system.sensor.pc) :
    Placed (system.noteCycleResult ok resume) := by
  refine placed.moved rfl rfl rfl ?_ rfl ?_ ?_
  · exact TxPower.noteCycleResult_firstAttachDone system.config.tx ok
  · intro reach
    cases resume with
    | delivering => exact place rfl
    | cycleEnd =>
      simp only [noteCycleResult] at reach
      split at reach <;> exact reach.elim
  · intro dbm at_
    simp only [noteCycleResult] at at_
    split at at_
    · cases at_
    · cases resume <;> cases at_

theorem placed_finishRevert {dbm : Int} {resume : AfterNote} (placed : Placed system)
    (at_ : system.sensor.pc = .revertCall dbm resume) (accepted : Bool) :
    Placed (system.finishRevert dbm resume accepted) := by
  refine placed.moved rfl rfl rfl ?_ rfl ?_ ?_
  · exact TxPower.applied_firstAttachDone system.config.tx dbm accepted
  · rw [at_]
    cases resume <;> exact id
  · intro other
    show resume.pc ≠ _
    cases resume <;> simp [AfterNote.pc]

theorem placed_branch (placed : Placed system) (at_ : system.sensor.pc = .branching)
    (inSession due viaAdc : Bool) :
    Placed (system.withSensor (system.sensor.branch inSession due viaAdc)) := by
  have done := placed.attached (by rw [at_]; trivial)
  obtain ⟨quiet, stalled, otaOnly, values, pc, same, place, -⟩ :=
    system.sensor.branch_eq inSession due viaAdc
  have call : ∀ dbm, pc ≠ .firstAttachCall dbm := by
    rcases place with rfl | rfl | rfl <;> simp
  rw [same]
  refine placed.sensorMoved rfl rfl rfl id (fun _ => done) (fun dbm at_ => (call dbm at_).elim) ?_
  exact placed.outcome

theorem placed_deliver (placed : Placed system) (nowUs : Int) (stateRead marked : Bool) :
    Placed (system.deliver nowUs stateRead marked) := by
  obtain ⟨log, checked, pending, same⟩ := system.deliver_eq nowUs stateRead marked
  rw [same]
  exact placed.moved rfl rfl rfl rfl rfl False.elim (by simp)

theorem placed_sendStarted (placed : Placed system) (at_ : system.sensor.pc = .sending)
    (free : system.mqtt.taskRunning = false) :
    Placed { system with
      mqtt :=
        { system.mqtt with
          taskRunning := true, idleBit := false
          pub := some { cycle := system.cyclesStarted, params := system.sensor.cycle.values } }
      sensor := sent system.sensor (some system.cyclesStarted)
      cyclesStarted := system.cyclesStarted + 1 } := by
  have done := placed.attached (by rw [at_]; trivial)
  refine ⟨fun _ _ => rfl, ?_, fun _ _ => done, fun _ => done, ?_, ?_, ?_, ?_⟩
  · rintro pub ⟨⟩
    rfl
  · intro dbm called
    cases called
  · intro busy
    obtain ⟨pub, running, -⟩ := placed.session busy
    exact absurd (free.symm.trans (placed.running pub running)) (by decide)
  · intro ok
    obtain ⟨cycle, same, earlier⟩ := placed.lastOk ok
    exact ⟨cycle, same, Nat.lt_succ_of_lt earlier⟩
  · intro ok
    obtain ⟨cycle, same, earlier⟩ := placed.outcome ok
    exact ⟨cycle, same, Nat.lt_succ_of_lt earlier⟩

theorem placed_sendFailed (placed : Placed system) (at_ : system.sensor.pc = .sending)
    (free : system.mqtt.taskRunning = false) :
    Placed { system with
      mqtt := { system.mqtt with taskRunning := false, idleBit := true }
      sensor := sent system.sensor none } := by
  refine ⟨?_, placed.latest, placed.attachedPub, fun _ => placed.attached (by rw [at_]; trivial),
    ?_, placed.session, placed.lastOk, placed.outcome⟩
  · intro pub running
    exact absurd (free.symm.trans (placed.running pub running)) (by decide)
  · intro dbm called
    cases called

theorem placed_sensor {event : SensorEvent} (placed : Placed system)
    (move : SensorMove env system event next) : Placed next := by
  cases move with
  | attached at_ => exact placed_attachReady placed
  | attachFailed at_ => exact placed_noteCycleResult placed (by simp)
  | firstAttachCall accepted at_ =>
    refine placed.moved rfl rfl rfl ?_ rfl (fun _ => by rw [at_]; trivial)
      (by simp [atSensorPc, withSensor])
    exact TxPower.applied_firstAttachDone system.config.tx _ accepted
  | revertCall accepted at_ => exact placed_finishRevert placed at_ accepted
  | readState state at_ =>
    obtain ⟨delta, progressed, taken⟩ := system.sensor.takeState_eq state
    rw [taken]
    exact placed.sensorMoved rfl rfl rfl id (fun _ => placed.attached (by rw [at_]; trivial))
      (by simp [withSensor]) placed.outcome
  | branch at_ => exact placed_branch placed at_ _ _ _
  | measure outcome at_ =>
    exact placed.sensorMoved rfl rfl rfl id (fun _ => placed.attached (by rw [at_]; trivial))
      (by simp [withSensor, SensorsTask.measure]) placed.outcome
  | sendRefused created at_ busy =>
    exact placed.sensorMoved rfl rfl rfl id (fun _ => placed.attached (by rw [at_]; trivial))
      (by simp [withSensor, sent]) placed.outcome
  | sendFailed at_ free => exact placed_sendFailed placed at_ free
  | sendStarted at_ free => exact placed_sendStarted placed at_ free
  | isBusy at_ =>
    refine placed.moved rfl rfl rfl rfl rfl (fun _ => by rw [at_]; trivial) ?_
    simp only [atSensorPc, withSensor]
    split <;> simp
  | waitDone at_ idle =>
    exact placed.moved rfl rfl rfl rfl rfl (fun _ => by rw [at_]; trivial)
      (by simp [atSensorPc, withSensor])
  | waitTimeout at_ =>
    exact placed.moved rfl rfl rfl rfl rfl (fun _ => by rw [at_]; trivial)
      (by simp [atSensorPc, withSensor])
  | readOutcome at_ =>
    exact placed.sensorMoved rfl rfl rfl id (fun _ => placed.attached (by rw [at_]; trivial))
      (by simp [HpSystem.readOutcome, withSensor]) placed.lastOk
  | note at_ => exact placed_noteCycleResult placed (fun _ => by rw [at_]; trivial)
  | deliver nowUs stateRead marked at_ => exact placed_deliver placed nowUs stateRead marked
  | timeoutInSession at_ active =>
    exact placed.moved rfl rfl rfl rfl rfl False.elim (by simp [atSensorPc, withSensor])
  | timeoutNoted at_ inactive => exact placed_noteCycleResult placed (by simp)
  | supervise stateRead at_ =>
    refine placed.moved rfl rfl rfl rfl rfl ?_ ?_ <;>
      simp only [HpSystem.supervise, withSensor] <;> split <;> simp [reached]
  | beginWait at_ =>
    exact placed.moved rfl rfl rfl rfl rfl False.elim (by simp [atSensorPc, withSensor])
  | wake lpWoke at_ =>
    exact placed.sensorMoved rfl rfl rfl id False.elim (by simp [withSensor, SensorsTask.wake])
      (by intro ok; cases ok)

/-! ## The publish task -/

theorem Placed.pubMoved {pub after : Pub} (placed : Placed system)
    (running : pub ∈ system.mqtt.pub) (sensor : next.sensor = system.sensor)
    (flags : SameFlags system next) (started : next.cyclesStarted = system.cyclesStarted)
    (tx : next.config.tx.firstAttachDone = system.config.tx.firstAttachDone)
    (moved : next.mqtt.pub = some after) (cycle : after.cycle = pub.cycle)
    (session : next.ota.pc ≠ .idle → after.pc = .inOta) : Placed next := by
  refine ⟨?_, ?_, ?_, ?_, ?_, ?_, ?_, ?_⟩
  · intro _ _
    rw [flags.taskRunning]
    exact placed.running pub running
  · intro other found
    cases Option.some.inj (moved.symm.trans found)
    rw [cycle, started]
    exact placed.latest pub running
  · intro _ _
    rw [tx]
    exact placed.attachedPub pub running
  · rw [sensor, tx]
    exact placed.attached
  · intro dbm at_
    rw [sensor] at at_
    exact absurd (running.symm.trans (placed.firstCall dbm at_)) (by simp)
  · exact fun busy => ⟨after, moved, session busy⟩
  · rw [flags.lastOk, flags.lastOkCycle, started]
    exact placed.lastOk
  · rw [sensor, started]
    exact placed.outcome

theorem Placed.notIn {pub : Pub} (placed : Placed system) (running : pub ∈ system.mqtt.pub)
    (elsewhere : pub.pc ≠ .inOta) : system.ota.pc = .idle := by
  by_contra busy
  obtain ⟨other, found, inside⟩ := placed.session busy
  cases Option.some.inj (running.symm.trans found)
  exact elsewhere inside

theorem placed_pub {pub : Pub} {event : PubEvent} (placed : Placed system)
    (running : pub ∈ system.mqtt.pub) (leaves : pub.pc = .inOta → system.ota.pc = .idle)
    (move : PubMove env system pub event next) : Placed next := by
  have idle : system.ota.pc = .idle := by
    by_cases inside : pub.pc = .inOta
    · exact leaves inside
    · exact placed.notIn running inside
  cases move with
  | quiet noTrial frame =>
    obtain ⟨after, moved, cycle, -⟩ := frame.pub
    apply placed.pubMoved running frame.sensor frame.flags frame.cyclesStarted
      (by rw [frame.tx]) moved cycle
    rw [frame.ota]
    exact fun busy => (busy idle).elim
  | publishState at_ =>
    exact placed.pubMoved running rfl ⟨rfl, rfl, rfl, rfl, rfl⟩ rfl rfl rfl rfl
      (fun busy => (busy idle).elim)
  | acked at_ all =>
    have same : system.ackWait pub = _ := if_pos all
    rw [same]
    exact placed.pubMoved running rfl ⟨rfl, rfl, rfl, rfl, rfl⟩ rfl rfl rfl rfl
      (fun busy => (busy idle).elim)
  | @merge snap at_ trial =>
    have tx : (system.merge pub snap).config.tx.firstAttachDone =
        system.config.tx.firstAttachDone := by
      simp [merge, RuntimeConfig.mergeAll, trial, TxPower.startTrial]
    exact placed.pubMoved running rfl ⟨rfl, rfl, rfl, rfl, rfl⟩ rfl tx rfl rfl
      (fun busy => (busy idle).elim)
  | trialCall accepted at_ =>
    exact placed.pubMoved running rfl ⟨rfl, rfl, rfl, rfl, rfl⟩ rfl
      (TxPower.applied_firstAttachDone system.config.tx _ accepted) rfl rfl
      (fun busy => (busy idle).elim)
  | session at_ healthy due =>
    exact placed.pubMoved running rfl ⟨rfl, rfl, rfl, rfl, rfl⟩ rfl rfl rfl rfl (fun _ => rfl)
  | storeOk at_ =>
    refine ⟨fun _ _ => placed.running pub running, ?_, fun _ _ => placed.attachedPub pub running,
      placed.attached, ?_, fun busy => (busy idle).elim, ?_, placed.outcome⟩
    · rintro other ⟨⟩
      exact placed.latest pub running
    · intro dbm called
      exact absurd (running.symm.trans (placed.firstCall dbm called)) (by simp)
    · intro _
      refine ⟨pub.cycle, rfl, ?_⟩
      have latest := placed.latest pub running
      show pub.cycle < system.cyclesStarted
      omega
  | clearRunning at_ =>
    refine ⟨?_, ?_, ?_, placed.attached, fun _ _ => rfl, fun busy => (busy idle).elim,
      placed.lastOk, placed.outcome⟩ <;> intro other found <;> cases found

/-! ## The client, the OTA session, and whole runs -/

theorem placed_client {event : ClientEvent} (placed : Placed system)
    (move : ClientMove system event next) : Placed next := by
  have moved : ∀ {after}, ClientQuiet system after → Placed after := by
    intro after frame
    refine ⟨?_, ?_, ?_, ?_, ?_, ?_, ?_, ?_⟩
    · rw [frame.pub, frame.flags.taskRunning]
      exact placed.running
    · rw [frame.pub, frame.cyclesStarted]
      exact placed.latest
    · rw [frame.pub, frame.tx]
      exact placed.attachedPub
    · rw [frame.sensor, frame.tx]
      exact placed.attached
    · rw [frame.sensor, frame.pub]
      exact placed.firstCall
    · rw [frame.pub, frame.session]
      exact placed.session
    · rw [frame.flags.lastOk, frame.flags.lastOkCycle, frame.cyclesStarted]
      exact placed.lastOk
    · rw [frame.sensor, frame.cyclesStarted]
      exact placed.outcome
  cases move with
  | quiet frame states noAck => exact moved frame
  | acked frame acked kept => exact moved frame

theorem placed_step {action : HpAction} (placed : Placed system)
    (taken : step env system action = some next) : Placed next := by
  cases step_move taken with
  | sensor move => exact placed_sensor placed move
  | pub running leaves move => exact placed_pub placed running leaves move
  | tail =>
    exact ⟨placed.running, placed.latest, placed.attachedPub, placed.attached, placed.firstCall,
      placed.session, placed.lastOk, placed.outcome⟩
  | client move => exact placed_client placed move
  | @ota pub event accepted _ running at_ inCycle stepped =>
    obtain ⟨radio, same⟩ := system.otaRadio_eq event accepted
    rw [same]
    exact ⟨placed.running, placed.latest, placed.attachedPub, placed.attached, placed.firstCall,
      fun _ => ⟨pub, running, at_⟩, placed.lastOk, placed.outcome⟩
  | reset pendingVerify => exact placed_boot env _ _ pendingVerify

end SleepySensor.HpSystem
