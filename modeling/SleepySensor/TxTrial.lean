import SleepySensor.HpInvariant
import SleepySensor.Lib.History

/-!
# What a TX power trial is confirmed by

A trial starts inside a publish cycle, after the ACK of its state message, and
the sensor task reports the outcome of that cycle next.  The history variable
holds the trial started last and the state messages sent and acknowledged since,
each with the power of the radio at that moment.
-/

set_option autoImplicit false

namespace SleepySensor.TxTrial

open HpSystem

structure Trial where
  dbm : Int
  cycle : Nat
  deriving DecidableEq, Repr

structure History where
  trial : Option Trial := none
  sent : List (StateMessage × Int) := []
  acked : List (StateMessage × Int) := []
  deriving DecidableEq, Repr

abbrev Observed := HpSystem × History

def startedTrial (system : HpSystem) : HpAction → Option Trial
  | .pub event =>
    system.mqtt.pub.bind fun pub =>
      (startsTrial pub event).map fun dbm => { dbm := dbm, cycle := pub.cycle }
  | _ => none

def record (system : HpSystem) (action : HpAction) (history : History) : History :=
  match startedTrial system action with
  | some trial => { trial := some trial }
  | none =>
    { history with
      sent := ((sentState system action).toList.map fun message => (message, system.radio)) ++
        history.sent
      acked := ((ackedState system action).toList.map fun message => (message, system.radio)) ++
        history.acked }

def step (env : HpEnv) : Observed → HpAction → Option Observed :=
  Runs.observe (HpSystem.step env) record

def start (env : HpEnv) (nvs : Nvs) (cyclesStarted : Nat) (pendingVerify : Bool) : Observed :=
  (boot env nvs cyclesStarted pendingVerify, {})

/-- A state message sent during a trial goes out with the power on trial. -/
def SentOnTrial (system : HpSystem) : Prop :=
  system.config.tx.hasPending = true → system.radio = system.config.tx.pending

/-- A success is not reported for the publish cycle that started the trial. -/
def LaterOutcome (state : Observed) : Prop :=
  state.1.sensor.cycle.publishedOk = true → state.1.config.tx.hasPending = true →
    ∀ trial ∈ state.2.trial, ∀ cycle ∈ state.1.sensor.cycle.outcomeCycle, trial.cycle < cycle

instance (system : HpSystem) : Decidable (SentOnTrial system) := by
  unfold SentOnTrial
  infer_instance

instance (state : Observed) : Decidable (LaterOutcome state) := by
  unfold LaterOutcome
  infer_instance

def OnItsOwn (state : Observed) : HpAction → Prop
  | .pub .publishState => SentOnTrial state.1
  | .pub .ackWait => OwnAck state.1
  | .sensor .note => LaterOutcome state
  | _ => True

instance (state : Observed) (action : HpAction) : Decidable (OnItsOwn state action) :=
  decidable_of_iff
    ((action = .pub .publishState → SentOnTrial state.1) ∧
      (action = .pub .ackWait → OwnAck state.1) ∧ (action = .sensor .note → LaterOutcome state))
    (by unfold OnItsOwn; split <;> simp_all)

/-- What is promoted, a state message sent and acknowledged with that power since
the start of the trial has shown to work. -/
def PromotesTried (state : Observed) (action : HpAction) : Prop :=
  ∀ dbm ∈ promoted state.1 action,
    (state.2.trial.map Trial.dbm = some dbm) ∧
      ∃ sent ∈ state.2.sent, sent.2 = dbm ∧ sent ∈ state.2.acked

instance (state : Observed) (action : HpAction) : Decidable (PromotesTried state action) := by
  unfold PromotesTried
  infer_instance

/-! ## The invariant -/

/-- What a success of a publish cycle after the trial's start stands for. -/
def Evidence (tx : TxPower) (history : History) (cycle : Nat) : Prop :=
  tx.hasPending = true → (∀ trial ∈ history.trial, trial.cycle < cycle) →
    ∃ message, (message, tx.pending) ∈ history.sent ∧ (message, tx.pending) ∈ history.acked

/-- The state message of the cycle is out with the power on trial. -/
def OnAir (system : HpSystem) (history : History) (cycle : Nat) : Prop :=
  system.radio = system.config.tx.pending ∧
    ∃ message : StateMessage, message.cycle = cycle ∧
      (message, system.config.tx.pending) ∈ history.sent ∧
      (Outgoing.state message ∈ system.mqtt.outbox ∨
        (message, system.config.tx.pending) ∈ history.acked)

structure Inv (system : HpSystem) (history : History) : Prop where
  placed : Placed system
  current : system.config.tx.firstAttachDone = true → system.config.tx.hasPending = true →
    history.trial.map Trial.dbm = some system.config.tx.pending
  earlier : ∀ trial ∈ history.trial, trial.cycle < system.cyclesStarted
  before : ∀ pub ∈ system.mqtt.pub, rank pub.pc ≤ 2 →
    ∀ trial ∈ history.trial, trial.cycle < pub.cycle
  reverting : ∀ dbm resume, system.sensor.pc = .revertCall dbm resume →
    system.config.tx.hasPending = true →
    ∀ trial ∈ history.trial, trial.cycle + 1 = system.cyclesStarted
  onAir : ∀ pub ∈ system.mqtt.pub, pub.pc = .ackWait → system.config.tx.hasPending = true →
    OnAir system history pub.cycle
  ok : ∀ pub ∈ system.mqtt.pub, pub.ok = true → Evidence system.config.tx history pub.cycle
  lastOk : system.mqtt.lastOk = true → ∀ cycle ∈ system.mqtt.lastOkCycle,
    Evidence system.config.tx history cycle
  outcome : system.sensor.cycle.publishedOk = true →
    ∀ cycle ∈ system.sensor.cycle.outcomeCycle, Evidence system.config.tx history cycle

theorem inv_boot (env : HpEnv) (nvs : Nvs) (cyclesStarted : Nat) (pendingVerify : Bool)
    (history : History) (earlier : ∀ trial ∈ history.trial, trial.cycle < cyclesStarted) :
    Inv (boot env nvs cyclesStarted pendingVerify) history where
  placed := placed_boot env nvs cyclesStarted pendingVerify
  current := by
    intro done
    have fresh : (boot env nvs cyclesStarted pendingVerify).config.tx.firstAttachDone = false := by
      simp [boot, RuntimeConfig.boot]
    rw [fresh] at done
    cases done
  earlier := earlier
  before := by intro pub running; cases running
  reverting := by intro dbm resume at_; cases at_
  onAir := by intro pub running; cases running
  ok := by intro pub running; cases running
  lastOk := by intro ok; cases ok
  outcome := by intro ok; cases ok

variable {env : HpEnv} {system next : HpSystem} {history : History}

theorem Evidence.mono {tx after : TxPower} {recorded : History} {cycle : Nat}
    (evidence : Evidence tx history cycle)
    (kept : after.hasPending = true → tx.hasPending = true ∧ after.pending = tx.pending)
    (trial : recorded.trial = history.trial) (sent : history.sent ⊆ recorded.sent)
    (acked : history.acked ⊆ recorded.acked) : Evidence after recorded cycle := by
  intro outstanding later
  obtain ⟨was, same⟩ := kept outstanding
  rw [trial] at later
  obtain ⟨message, sentThen, ackedThen⟩ := evidence was later
  rw [same]
  exact ⟨message, sent sentThen, acked ackedThen⟩

/-! ## Steps of the sensor task -/

theorem Inv.sensorMoved (inv : Inv system history) (placed : Placed next)
    (mqtt : next.mqtt = system.mqtt) (started : next.cyclesStarted = system.cyclesStarted)
    (kept : next.config.tx.hasPending = true → system.config.tx.hasPending = true ∧
      next.config.tx.pending = system.config.tx.pending ∧
      (next.config.tx.firstAttachDone = true → system.config.tx.firstAttachDone = true))
    (radio : ∀ pub ∈ system.mqtt.pub, pub.pc = .ackWait → next.config.tx.hasPending = true →
      next.radio = system.radio)
    (reverting : ∀ dbm resume, next.sensor.pc = .revertCall dbm resume →
      next.config.tx.hasPending = false)
    (outcome : next.sensor.cycle.publishedOk = true →
      ∀ cycle ∈ next.sensor.cycle.outcomeCycle, Evidence system.config.tx history cycle) :
    Inv next history := by
  have carried : ∀ {cycle}, Evidence system.config.tx history cycle →
      Evidence next.config.tx history cycle := by
    intro cycle evidence
    exact evidence.mono (fun out => ⟨(kept out).1, (kept out).2.1⟩) rfl (List.Subset.refl _)
      (List.Subset.refl _)
  refine ⟨placed, ?_, ?_, ?_, ?_, ?_, ?_, ?_, ?_⟩
  · intro done out
    obtain ⟨was, same, before⟩ := kept out
    rw [same]
    exact inv.current (before done) was
  · rw [started]
    exact inv.earlier
  · rw [mqtt]
    exact inv.before
  · intro dbm resume at_ out
    rw [reverting dbm resume at_] at out
    cases out
  · rw [mqtt]
    intro pub running waiting out
    obtain ⟨was, same, -⟩ := kept out
    obtain ⟨tuned, message, cycle, sent, place⟩ := inv.onAir pub running waiting was
    unfold OnAir
    rw [radio pub running waiting out, same, mqtt]
    exact ⟨tuned, message, cycle, sent, place⟩
  · rw [mqtt]
    exact fun pub running ok => carried (inv.ok pub running ok)
  · rw [mqtt]
    exact fun ok cycle same => carried (inv.lastOk ok cycle same)
  · exact fun ok cycle same => carried (outcome ok cycle same)

theorem Inv.moved (inv : Inv system history) (placed : Placed next)
    (mqtt : next.mqtt = system.mqtt) (started : next.cyclesStarted = system.cyclesStarted)
    (config : next.config = system.config) (radio : next.radio = system.radio)
    (reverting : ∀ dbm resume, next.sensor.pc ≠ .revertCall dbm resume)
    (published : next.sensor.cycle.publishedOk = system.sensor.cycle.publishedOk)
    (outcome : next.sensor.cycle.outcomeCycle = system.sensor.cycle.outcomeCycle) :
    Inv next history := by
  refine inv.sensorMoved placed mqtt started ?_ (fun _ _ _ _ => radio)
    (fun dbm resume at_ => (reverting dbm resume at_).elim) ?_
  · rw [config]
    exact fun out => ⟨out, rfl, id⟩
  · rw [published, outcome]
    exact inv.outcome

theorem inv_noteCycleResult {ok : Bool} {resume : AfterNote} (inv : Inv system history)
    (placed : Placed (system.noteCycleResult ok resume)) :
    Inv (system.noteCycleResult ok resume) history := by
  refine inv.sensorMoved placed rfl rfl ?_ (fun _ _ _ _ => rfl) ?_ inv.outcome
  · intro out
    obtain ⟨was, same, -⟩ := TxPower.noteCycleResult_outstanding out
    refine ⟨was, same, ?_⟩
    exact fun done => (TxPower.noteCycleResult_firstAttachDone system.config.tx ok).symm.trans done
  · intro dbm other at_
    by_contra out
    obtain ⟨-, -, verdict⟩ := TxPower.noteCycleResult_outstanding (Bool.eq_true_of_not_eq_false out)
    simp only [noteCycleResult, verdict] at at_
    cases resume <;> cases at_

theorem inv_attachReady (inv : Inv system history) (placed : Placed system.attachReady) :
    Inv system.attachReady history := by
  refine inv.sensorMoved placed rfl rfl ?_ (fun _ _ _ _ => rfl) ?_ inv.outcome
  · intro out
    obtain ⟨done, same⟩ := TxPower.noteFirstAttach_outstanding out
    have kept : system.attachReady.config.tx = system.config.tx := congrArg Prod.fst same
    rw [kept] at out ⊢
    exact ⟨out, rfl, id⟩
  · intro dbm resume at_
    simp only [attachReady] at at_
    split at at_ <;> cases at_

/-- The revert's own call comes too late to meet a state message of another trial. -/
theorem inv_finishRevert {dbm : Int} {resume : AfterNote} (inv : Inv system history)
    (at_ : system.sensor.pc = .revertCall dbm resume) (accepted : Bool)
    (placed : Placed (system.finishRevert dbm resume accepted)) :
    Inv (system.finishRevert dbm resume accepted) history := by
  have out_eq : (system.finishRevert dbm resume accepted).config.tx.hasPending =
      system.config.tx.hasPending := TxPower.applied_hasPending system.config.tx dbm accepted
  refine inv.sensorMoved placed rfl rfl ?_ ?_ ?_ inv.outcome
  · intro out
    refine ⟨out_eq ▸ out, TxPower.applied_pending system.config.tx dbm accepted, ?_⟩
    exact fun done =>
      (TxPower.applied_firstAttachDone system.config.tx dbm accepted).symm.trans done
  · intro pub running waiting out
    have was := out_eq ▸ out
    have current := inv.current (inv.placed.attachedPub pub running) was
    obtain ⟨trial, same, -⟩ := Option.map_eq_some_iff.mp current
    have latest := inv.placed.latest pub running
    have late := inv.reverting dbm resume at_ was trial same
    have early := inv.before pub running (by rw [waiting]; exact Nat.le_succ 1) trial same
    omega
  · intro other after called
    simp only [finishRevert] at called
    cases resume <;> cases called

theorem inv_sendStarted (inv : Inv system history)
    (placed : Placed { system with
      mqtt :=
        { system.mqtt with
          taskRunning := true, idleBit := false
          pub := some { cycle := system.cyclesStarted, params := system.sensor.cycle.values } }
      sensor := sent system.sensor (some system.cyclesStarted)
      cyclesStarted := system.cyclesStarted + 1 }) :
    Inv { system with
      mqtt :=
        { system.mqtt with
          taskRunning := true, idleBit := false
          pub := some { cycle := system.cyclesStarted, params := system.sensor.cycle.values } }
      sensor := sent system.sensor (some system.cyclesStarted)
      cyclesStarted := system.cyclesStarted + 1 } history := by
  refine ⟨placed, inv.current, ?_, ?_, ?_, ?_, ?_, inv.lastOk, inv.outcome⟩
  · exact fun trial same => Nat.lt_succ_of_lt (inv.earlier trial same)
  · rintro pub ⟨⟩ -
    exact inv.earlier
  · intro dbm resume called
    cases called
  · rintro pub ⟨⟩ waiting
    cases waiting
  · rintro pub ⟨⟩ ok
    cases ok

theorem inv_deliver (inv : Inv system history) (nowUs : Int) (stateRead marked : Bool)
    (placed : Placed (system.deliver nowUs stateRead marked)) :
    Inv (system.deliver nowUs stateRead marked) history := by
  obtain ⟨log, checked, pending, same⟩ := system.deliver_eq nowUs stateRead marked
  rw [same] at placed ⊢
  exact inv.moved placed rfl rfl rfl rfl (by simp) rfl rfl

theorem inv_sensor {event : SensorEvent} (inv : Inv system history)
    (move : SensorMove env system event next) : Inv next history := by
  have placed := placed_sensor inv.placed move
  cases move with
  | attached at_ => exact inv_attachReady inv placed
  | attachFailed at_ => exact inv_noteCycleResult inv placed
  | @firstAttachCall dbm accepted at_ =>
    refine inv.sensorMoved placed rfl rfl ?_ ?_ (by simp [atSensorPc, withSensor]) inv.outcome
    · intro out
      refine ⟨(TxPower.applied_hasPending system.config.tx dbm accepted).symm.trans out,
        TxPower.applied_pending system.config.tx dbm accepted, ?_⟩
      exact fun done =>
        (TxPower.applied_firstAttachDone system.config.tx dbm accepted).symm.trans done
    · intro pub running
      exact absurd (running.symm.trans (inv.placed.firstCall dbm at_)) (by simp)
  | revertCall accepted at_ => exact inv_finishRevert inv at_ accepted placed
  | readState state at_ =>
    obtain ⟨delta, progressed, taken⟩ := system.sensor.takeState_eq state
    rw [taken] at placed ⊢
    exact inv.moved placed rfl rfl rfl rfl (by simp [withSensor]) rfl rfl
  | branch at_ =>
    obtain ⟨quiet, stalled, otaOnly, values, pc, same, place, -⟩ :=
      system.sensor.branch_eq system.ota.sessionActive system.ota.updateDue
        env.yaml.readBatteryViaAdc
    have notCall : ∀ dbm resume, pc ≠ .revertCall dbm resume := by
      rcases place with rfl | rfl | rfl <;> simp
    rw [same] at placed ⊢
    exact inv.moved placed rfl rfl rfl rfl notCall rfl rfl
  | measure outcome at_ =>
    exact inv.moved placed rfl rfl rfl rfl (by simp [withSensor, SensorsTask.measure]) rfl rfl
  | sendRefused created at_ busy =>
    exact inv.moved placed rfl rfl rfl rfl (by simp [withSensor, sent]) rfl rfl
  | sendFailed at_ free =>
    exact ⟨placed, inv.current, inv.earlier, inv.before,
      (fun dbm resume called => by cases called), inv.onAir, inv.ok, inv.lastOk, inv.outcome⟩
  | sendStarted at_ free => exact inv_sendStarted inv placed
  | isBusy at_ =>
    refine inv.moved placed rfl rfl rfl rfl ?_ rfl rfl
    simp only [atSensorPc, withSensor]
    split <;> simp
  | waitDone at_ idle =>
    exact inv.moved placed rfl rfl rfl rfl (by simp [atSensorPc, withSensor]) rfl rfl
  | waitTimeout at_ =>
    exact inv.moved placed rfl rfl rfl rfl (by simp [atSensorPc, withSensor]) rfl rfl
  | readOutcome at_ =>
    exact inv.sensorMoved placed rfl rfl (fun out => ⟨out, rfl, id⟩) (fun _ _ _ _ => rfl)
      (by simp [HpSystem.readOutcome, withSensor]) inv.lastOk
  | note at_ => exact inv_noteCycleResult inv placed
  | deliver nowUs stateRead marked at_ => exact inv_deliver inv nowUs stateRead marked placed
  | timeoutInSession at_ active =>
    exact inv.moved placed rfl rfl rfl rfl (by simp [atSensorPc, withSensor]) rfl rfl
  | timeoutNoted at_ inactive => exact inv_noteCycleResult inv placed
  | supervise stateRead at_ =>
    refine inv.moved placed rfl rfl rfl rfl ?_ rfl rfl
    simp only [HpSystem.supervise, withSensor]
    split <;> simp
  | beginWait at_ =>
    exact inv.moved placed rfl rfl rfl rfl (by simp [atSensorPc, withSensor]) rfl rfl
  | wake lpWoke at_ =>
    exact inv.sensorMoved placed rfl rfl (fun out => ⟨out, rfl, id⟩) (fun _ _ _ _ => rfl)
      (by simp [withSensor, SensorsTask.wake]) (by intro ok; cases ok)

/-! ## Steps of the publish task -/

theorem record_grows {action : HpAction} (history : History)
    (noTrial : startedTrial system action = none) :
    (record system action history).trial = history.trial ∧
      history.sent ⊆ (record system action history).sent ∧
      history.acked ⊆ (record system action history).acked := by
  unfold record
  rw [noTrial]
  exact ⟨rfl, List.subset_append_right _ _, List.subset_append_right _ _⟩

theorem noTrial_pub {pub : Pub} {event : PubEvent} (running : pub ∈ system.mqtt.pub)
    (noTrial : startsTrial pub event = none) : startedTrial system (.pub event) = none := by
  have found : system.mqtt.pub = some pub := running
  simp [startedTrial, found, noTrial]

theorem Inv.pubMoved {pub after : Pub} {recorded : History} (inv : Inv system history)
    (running : pub ∈ system.mqtt.pub) (placed : Placed next)
    (trial : recorded.trial = history.trial) (grown : history.sent ⊆ recorded.sent)
    (more : history.acked ⊆ recorded.acked) (sensor : next.sensor = system.sensor)
    (tx : next.config.tx = system.config.tx ∨
      ∃ dbm accepted, next.config.tx = system.config.tx.applied dbm accepted)
    (started : next.cyclesStarted = system.cyclesStarted)
    (lastOk : next.mqtt.lastOk = true → ∀ cycle ∈ next.mqtt.lastOkCycle,
      Evidence system.config.tx history cycle)
    (moved : next.mqtt.pub = some after) (cycle : after.cycle = pub.cycle)
    (later : rank pub.pc ≤ rank after.pc)
    (onAir : after.pc = .ackWait → next.config.tx.hasPending = true →
      OnAir next recorded after.cycle)
    (ok : after.ok = true → Evidence system.config.tx history pub.cycle) :
    Inv next recorded := by
  have kept : next.config.tx.hasPending = system.config.tx.hasPending ∧
      next.config.tx.pending = system.config.tx.pending ∧
      next.config.tx.firstAttachDone = system.config.tx.firstAttachDone := by
    rcases tx with same | ⟨dbm, accepted, same⟩ <;> rw [same]
    · exact ⟨rfl, rfl, rfl⟩
    · exact ⟨TxPower.applied_hasPending .., TxPower.applied_pending ..,
        TxPower.applied_firstAttachDone ..⟩
  obtain ⟨out, pending, done⟩ := kept
  have carried : ∀ {cycle}, Evidence system.config.tx history cycle →
      Evidence next.config.tx recorded cycle := by
    intro cycle evidence
    exact evidence.mono (fun was => ⟨out ▸ was, pending⟩) trial grown more
  refine ⟨placed, ?_, ?_, ?_, ?_, ?_, ?_, ?_, ?_⟩
  · rw [out, pending, done, trial]
    exact inv.current
  · rw [trial, started]
    exact inv.earlier
  · intro other found early
    cases Option.some.inj (moved.symm.trans found)
    rw [trial, cycle]
    exact inv.before pub running (later.trans early)
  · rw [sensor, out, trial, started]
    exact inv.reverting
  · intro other found waiting
    cases Option.some.inj (moved.symm.trans found)
    exact onAir waiting
  · intro other found succeeded
    cases Option.some.inj (moved.symm.trans found)
    rw [cycle]
    exact carried (ok succeeded)
  · exact fun succeeded cycle same => carried (lastOk succeeded cycle same)
  · rw [sensor]
    exact fun succeeded cycle same => carried (inv.outcome succeeded cycle same)

theorem inv_publishState {pub : Pub} (inv : Inv system history) (running : pub ∈ system.mqtt.pub)
    (at_ : pub.pc = .stating) (tried : SentOnTrial system)
    (placed : Placed (system.enqueue pub [.state (system.stateMessage pub)] .ackWait)) :
    Inv (system.enqueue pub [.state (system.stateMessage pub)] .ackWait)
      (record system (.pub .publishState) history) := by
  obtain ⟨trial, grown, more⟩ := record_grows history (noTrial_pub running
    (show startsTrial pub .publishState = none from rfl))
  have found : system.mqtt.pub = some pub := running
  refine inv.pubMoved running placed trial grown more rfl (.inl rfl) rfl inv.lastOk rfl rfl
    (by rw [at_]; exact Nat.zero_le _) ?_ (inv.ok pub running)
  intro _ out
  refine ⟨tried out, system.stateMessage pub, rfl, ?_, ?_⟩
  · have tuned : system.radio = system.config.tx.pending := tried out
    have listed : (system.stateMessage pub, system.radio) ∈
        (record system (.pub .publishState) history).sent := by
      simp [record, startedTrial, found, startsTrial, sentState]
    rw [tuned] at listed
    exact listed
  · exact .inl (List.mem_append_right system.mqtt.outbox List.mem_cons_self)

theorem inv_acked {pub : Pub} (inv : Inv system history) (running : pub ∈ system.mqtt.pub)
    (at_ : pub.pc = .ackWait) (all : system.mqtt.allAckedBit = true) (own : OwnAck system)
    (placed : Placed (system.ackWait pub)) :
    Inv (system.ackWait pub) (record system (.pub .ackWait) history) := by
  obtain ⟨trial, grown, more⟩ := record_grows history (noTrial_pub running
    (show startsTrial pub .ackWait = none from rfl))
  have same : system.ackWait pub = _ := if_pos all
  rw [same] at placed ⊢
  apply inv.pubMoved running placed trial grown more rfl (.inl rfl) rfl inv.lastOk rfl rfl
    (by rw [at_]; exact Nat.le_succ 1) (fun waiting => by cases waiting)
  intro _ out _
  obtain ⟨-, message, cycle, sent, place⟩ := inv.onAir pub running at_ out
  refine ⟨message, sent, place.resolve_left ?_⟩
  intro waiting
  have another := own all pub running _ waiting
  simp [Outgoing.isStateOf, cycle] at another

/-- A new trial makes every success so far one of an earlier publish. -/
theorem inv_merge {pub : Pub} {snap : PendingCfg} (inv : Inv system history)
    (running : pub ∈ system.mqtt.pub) (at_ : pub.pc = .merging snap)
    (starts : snap.txPowerDbm.set = true) (placed : Placed (system.merge pub snap)) :
    Inv (system.merge pub snap) (record system (.pub .merge) history) := by
  have found : system.mqtt.pub = some pub := running
  have recorded : record system (.pub .merge) history =
      { trial := some { dbm := trialDbm snap, cycle := pub.cycle } } := by
    simp [record, startedTrial, found, startsTrial, at_, starts]
  have tx : (system.merge pub snap).config.tx =
      system.config.tx.startTrial snap.txPowerDbm.value := by
    simp [merge, RuntimeConfig.mergeAll, starts]
  have moved : (system.merge pub snap).mqtt.pub = some { pub with pc := .trialCall snap } := by
    simp [merge, starts]
  have latest := inv.placed.latest pub running
  have sameBatch : ∀ {cycle}, cycle < system.cyclesStarted →
      Evidence (system.merge pub snap).config.tx
        { trial := some { dbm := trialDbm snap, cycle := pub.cycle } } cycle := by
    intro cycle started _ later
    have after := later _ rfl
    simp only at after
    omega
  rw [recorded]
  refine ⟨placed, ?_, ?_, ?_, ?_, ?_, ?_, ?_, ?_⟩
  · intro _ _
    rw [tx]
    rfl
  · rintro trial ⟨⟩
    exact Nat.lt_of_succ_le (Nat.le_of_eq latest)
  · intro other same early
    cases Option.some.inj (moved.symm.trans same)
    exact absurd early (Nat.not_succ_le_self 2)
  · rintro dbm resume - - trial ⟨⟩
    exact latest
  · intro other same waiting
    cases Option.some.inj (moved.symm.trans same)
    cases waiting
  · intro other same _
    cases Option.some.inj (moved.symm.trans same)
    exact sameBatch (Nat.lt_of_succ_le (Nat.le_of_eq latest))
  · intro ok cycle same
    obtain ⟨known, place, started⟩ := inv.placed.lastOk ok
    cases Option.some.inj (place.symm.trans same)
    exact sameBatch started
  · intro ok cycle same
    obtain ⟨known, place, started⟩ := inv.placed.outcome ok
    cases Option.some.inj (place.symm.trans same)
    exact sameBatch started

theorem inv_pub {pub : Pub} {event : PubEvent} (inv : Inv system history)
    (running : pub ∈ system.mqtt.pub) (leaves : pub.pc = .inOta → system.ota.pc = .idle)
    (met : OnItsOwn (system, history) (.pub event)) (move : PubMove env system pub event next) :
    Inv next (record system (.pub event) history) := by
  have placed := placed_pub inv.placed running leaves move
  cases move with
  | quiet noTrial frame =>
    obtain ⟨trial, grown, more⟩ := record_grows history (noTrial_pub running noTrial)
    obtain ⟨after, moved, cycle, -, ok, later, isPlain⟩ := frame.pub
    refine inv.pubMoved running placed trial grown more frame.sensor (.inl frame.tx)
      frame.cyclesStarted ?_ moved cycle later ?_
      (fun succeeded => inv.ok pub running (ok succeeded))
    · rw [frame.flags.lastOk, frame.flags.lastOkCycle]
      exact inv.lastOk
    · intro waiting
      rw [waiting] at isPlain
      exact isPlain.elim
  | publishState at_ => exact inv_publishState inv running at_ met placed
  | acked at_ all => exact inv_acked inv running at_ all met placed
  | merge at_ trial => exact inv_merge inv running at_ trial placed
  | trialCall accepted at_ =>
    obtain ⟨trial, grown, more⟩ := record_grows history (noTrial_pub running
      (show startsTrial pub (.setTxDone accepted) = none from rfl))
    exact inv.pubMoved running placed trial grown more rfl (.inr ⟨_, _, rfl⟩) rfl inv.lastOk rfl rfl
      (by rw [at_]; exact Nat.le_succ 3) (fun waiting => by cases waiting) (inv.ok pub running)
  | @session groupCreated _ at_ healthy due =>
    obtain ⟨trial, grown, more⟩ := record_grows history (noTrial_pub running
      (show startsTrial pub (.otaGate groupCreated) = none from rfl))
    exact inv.pubMoved running placed trial grown more rfl (.inl rfl) rfl inv.lastOk rfl rfl
      (by rw [at_]; exact Nat.le_succ 4) (fun waiting => by cases waiting) (inv.ok pub running)
  | storeOk at_ =>
    obtain ⟨trial, grown, more⟩ := record_grows history (noTrial_pub running
      (show startsTrial pub .storeOk = none from rfl))
    refine inv.pubMoved running placed trial grown more rfl (.inl rfl) rfl ?_ rfl rfl
      (by rw [at_]; exact le_rfl) (fun waiting => by cases waiting) (inv.ok pub running)
    rintro succeeded cycle ⟨⟩
    exact inv.ok pub running succeeded
  | clearRunning at_ =>
    obtain ⟨trial, grown, more⟩ := record_grows history (noTrial_pub running
      (show startsTrial pub .clearRunning = none from rfl))
    have carried : ∀ {cycle}, Evidence system.config.tx history cycle →
        Evidence system.config.tx (record system (.pub .clearRunning) history) cycle :=
      fun evidence => evidence.mono (fun out => ⟨out, rfl⟩) trial grown more
    refine ⟨placed, ?_, ?_, ?_, ?_, ?_, ?_, ?_, ?_⟩
    · rw [trial]
      exact inv.current
    · rw [trial]
      exact inv.earlier
    · intro other found
      cases found
    · rw [trial]
      exact inv.reverting
    · intro other found
      cases found
    · intro other found
      cases found
    · exact fun ok cycle same => carried (inv.lastOk ok cycle same)
    · exact fun ok cycle same => carried (inv.outcome ok cycle same)

/-! ## The client, the OTA session, and whole runs -/

theorem inv_client {event : ClientEvent} (inv : Inv system history)
    (move : ClientMove system event next) :
    Inv next (record system (.client event) history) := by
  have placed := placed_client inv.placed move
  obtain ⟨trial, grown, more⟩ := record_grows history
    (show startedTrial system (.client event) = none from rfl)
  have moved : ClientQuiet system next →
      (∀ message, Outgoing.state message ∈ system.mqtt.outbox →
        Outgoing.state message ∈ next.mqtt.outbox ∨
          (message, system.radio) ∈ (record system (.client event) history).acked) →
      Inv next (record system (.client event) history) := by
    intro frame kept
    have carried : ∀ {cycle}, Evidence system.config.tx history cycle →
        Evidence next.config.tx (record system (.client event) history) cycle := by
      intro cycle evidence
      refine evidence.mono ?_ trial grown more
      rw [frame.tx]
      exact fun out => ⟨out, rfl⟩
    refine ⟨placed, ?_, ?_, ?_, ?_, ?_, ?_, ?_, ?_⟩
    · rw [frame.tx, trial]
      exact inv.current
    · rw [frame.cyclesStarted, trial]
      exact inv.earlier
    · rw [frame.pub, trial]
      exact inv.before
    · rw [frame.sensor, frame.tx, trial, frame.cyclesStarted]
      exact inv.reverting
    · unfold OnAir
      rw [frame.pub, frame.tx, frame.radio]
      intro pub running waiting out
      obtain ⟨tuned, message, cycle, sent, place⟩ := inv.onAir pub running waiting out
      refine ⟨tuned, message, cycle, grown sent, ?_⟩
      rcases place with still | acked
      · rw [← tuned]
        exact kept message still
      · exact .inr (more acked)
    · rw [frame.pub]
      exact fun pub running ok => carried (inv.ok pub running ok)
    · rw [frame.flags.lastOk, frame.flags.lastOkCycle]
      exact fun ok cycle same => carried (inv.lastOk ok cycle same)
    · rw [frame.sensor]
      exact fun ok cycle same => carried (inv.outcome ok cycle same)
  cases move with
  | quiet frame states noAck =>
    exact moved frame fun message still => .inl ((states message).mpr still)
  | acked frame acked kept =>
    apply moved frame
    intro other still
    rcases kept other still with rfl | kept
    · refine .inr ?_
      simp [record, startedTrial, acked]
    · exact .inl kept

theorem inv_ota {pub : Pub} {event : OtaEvent} {accepted : Bool} {ota : Ota}
    (inv : Inv system history) (running : pub ∈ system.mqtt.pub) (at_ : pub.pc = .inOta)
    (placed : Placed { system.otaRadio event accepted with ota := ota }) :
    Inv { system.otaRadio event accepted with ota := ota } history := by
  obtain ⟨radio, same⟩ := system.otaRadio_eq event accepted
  rw [same] at placed ⊢
  refine ⟨placed, inv.current, inv.earlier, inv.before, inv.reverting, ?_, inv.ok, inv.lastOk,
    inv.outcome⟩
  intro other found waiting
  cases Option.some.inj (running.symm.trans found)
  rw [at_] at waiting
  cases waiting

theorem inv_step (state : Observed) (action : HpAction) (after : Observed)
    (inv : Inv state.1 state.2) (met : OnItsOwn state action)
    (taken : step env state action = some after) : Inv after.1 after.2 := by
  obtain ⟨stepped, recorded⟩ := Runs.observe_step taken
  rw [recorded]
  obtain ⟨system, history⟩ := state
  obtain ⟨next, _⟩ := after
  have placed := placed_step inv.placed stepped
  cases step_move stepped with
  | sensor move => exact inv_sensor inv move
  | pub running leaves move => exact inv_pub inv running leaves met move
  | tail =>
    exact ⟨placed, inv.current, inv.earlier, inv.before, inv.reverting, inv.onAir, inv.ok,
      inv.lastOk, inv.outcome⟩
  | client move => exact inv_client inv move
  | ota running at_ inCycle stepped => exact inv_ota inv running at_ placed
  | reset pendingVerify => exact inv_boot env _ _ pendingVerify _ inv.earlier

theorem promoted_tried (state : Observed) (action : HpAction) (inv : Inv state.1 state.2)
    (met : OnItsOwn state action) : PromotesTried state action := by
  obtain ⟨system, history⟩ := state
  intro dbm promotes
  have isPromoted : promoted system action = some dbm := promotes
  unfold promoted at isPromoted
  cases reports : reported system action with
  | none => simp [reports] at isPromoted
  | some ok =>
    simp only [reports] at isPromoted
    obtain ⟨verdict, same⟩ := Option.ite_none_right_eq_some.mp isPromoted
    cases Option.some.inj same
    obtain ⟨out, rfl⟩ := TxPower.cycleVerdict_confirmed.mp verdict
    -- only the outcome of a publish is ever reported as a success
    cases action with
    | sensor event =>
      cases event with
      | note =>
        obtain ⟨at_, published⟩ := Option.ite_none_right_eq_some.mp reports
        have published := Option.some.inj published
        have done := inv.placed.attached (by rw [at_]; trivial)
        obtain ⟨cycle, place, -⟩ := inv.placed.outcome published
        refine ⟨inv.current done out, ?_⟩
        obtain ⟨message, sent, acked⟩ := inv.outcome published cycle place out
          fun trial started => met published out trial started cycle place
        exact ⟨_, sent, rfl, acked⟩
      | attachGate ready =>
        cases ready with
        | true => cases reports
        | false =>
          obtain ⟨-, failed⟩ := Option.ite_none_right_eq_some.mp reports
          cases failed
      | timeoutCheck =>
        obtain ⟨-, failed⟩ := Option.ite_none_right_eq_some.mp reports
        cases failed
      | _ => cases reports
    | _ => cases reports

/-- In every run whose steps meet `OnItsOwn`, a trial is confirmed only by a state
message sent and acknowledged with its power after its start. -/
theorem promotesTried_run (env : HpEnv) (nvs : Nvs) (cyclesStarted : Nat) (pendingVerify : Bool)
    (actions : List HpAction)
    (met : Runs.Along (step env) OnItsOwn (start env nvs cyclesStarted pendingVerify) actions) :
    Runs.Along (step env) PromotesTried (start env nvs cyclesStarted pendingVerify) actions :=
  Runs.along_of_invariant (fun state => Inv state.1 state.2) inv_step promoted_tried
    (inv_boot env nvs cyclesStarted pendingVerify {} (by intro trial none; cases none)) met

/-- The cycle that starts the trial times out; the next one is published with it. -/
def triedLater : List HpAction :=
  attachFirst ++ takeUp (reading 1 (.fin 21)) ++ waitTimesOut ++ sleepAndWake ++
    publishUpToState ++ allAcked 33 ++ publishTrial 10 ++ publishEnd ++
    [.sensor (.attachGate true)] ++ takeUp (reading 2 (.fin 22)) ++ [.sensor .isBusy] ++
    publishUpToState ++ [.client (.published 2), .client .setAllAcked] ++ publishToOutcome ++
    publishEnd ++ noteOutcome

/-- The trial of 10 dBm starts in the cycle whose success is reported next. -/
def promotedUntried : List HpAction :=
  attachFirst ++ takeUp (reading 1 (.fin 21)) ++ [.sensor .isBusy] ++ publishUpToState ++
    allAcked 33 ++ publishTrial 10 ++ publishEnd ++ noteOutcome

theorem promotesTried_later :
    (Runs.run (step benchEnv) (start benchEnv Nvs.erased 0 false) triedLater).any
        (fun final => final.1.config.tx.knownGood == 10) = true ∧
      Runs.Along (step benchEnv) PromotesTried (start benchEnv Nvs.erased 0 false) triedLater :=
  ⟨by decide +kernel, promotesTried_run benchEnv Nvs.erased 0 false triedLater
    (by decide +kernel)⟩

theorem untried_promoted :
    ¬ ∀ env nvs cyclesStarted pendingVerify actions,
      Runs.Along (step env) PromotesTried (start env nvs cyclesStarted pendingVerify) actions := by
  intro always
  have tried := always benchEnv Nvs.erased 0 false promotedUntried
  revert tried
  decide +kernel

end SleepySensor.TxTrial
