import SleepySensor.OtaSteps
import SleepySensor.PinWindow

/-!
# The radio and the TX power policy

When the power of the radio is the one the policy believes in, whatever the
calls of `setTxPowerDbm` return.
-/

set_option autoImplicit false

namespace SleepySensor.TxRadio

open HpSystem

def sensorCall : SensorPc → Option Int
  | .firstAttachCall dbm | .revertCall dbm _ => some dbm
  | _ => none

def trialCall (system : HpSystem) : Option Int :=
  system.mqtt.pub.bind fun pub =>
    match pub.pc with
    | .trialCall snap => some (trialDbm snap)
    | _ => none

/-- In every state outside an OTA window the radio has the active power and,
unless a policy function is at its call or a trial is outstanding, the
known-good one. -/
structure FollowsPolicy (system : HpSystem) : Prop where
  active : pinnedPc system.ota.pc = false → system.config.tx.activeDbm = system.radio
  knownGood : pinnedPc system.ota.pc = false → system.config.tx.hasPending = false →
    sensorCall system.sensor.pc = none → trialCall system = none →
    system.radio = system.config.tx.knownGood

/-- The call is accepted, or asks for a power that is already set. -/
def Accepted (accepted : Bool) (dbm set : Int) : Prop := accepted = true ∨ dbm = set

instance (accepted : Bool) (dbm set : Int) : Decidable (Accepted accepted dbm set) := by
  unfold Accepted
  infer_instance

/-- A trial is confirmed while its value is active or its start is at the call,
and is not reverted while its start is. -/
def VerdictHolds (system : HpSystem) (ok : Bool) : Prop :=
  match system.config.tx.cycleVerdict ok with
  | .confirmed => trialCall system = none → system.config.tx.pending = system.config.tx.activeDbm
  | .reverting => trialCall system = none
  | _ => True

instance (system : HpSystem) (ok : Bool) : Decidable (VerdictHolds system ok) := by
  unfold VerdictHolds
  split <;> infer_instance

def CallsHold (system : HpSystem) (action : HpAction) : Prop :=
  match action with
  | .sensor (.setTxDone accepted) =>
    ∀ dbm ∈ sensorCall system.sensor.pc, Accepted accepted dbm system.config.tx.activeDbm
  | .pub (.setTxDone accepted) =>
    ∀ dbm ∈ trialCall system, system.config.tx.hasPending = false →
      Accepted accepted dbm system.config.tx.activeDbm
  | .ota .unpin accepted => Accepted accepted system.config.tx.activeDbm system.radio
  | action => ∀ ok ∈ system.reported action, VerdictHolds system ok

instance (system : HpSystem) (action : HpAction) : Decidable (CallsHold system action) := by
  unfold CallsHold
  split <;> infer_instance

/-! ## The invariant -/

variable {env : HpEnv} {system next : HpSystem}

structure Inv (system : HpSystem) : Prop where
  placed : Placed system
  active : pinnedPc system.ota.pc = false → system.config.tx.activeDbm = system.radio
  call : ∀ dbm, sensorCall system.sensor.pc = some dbm → dbm = system.config.tx.knownGood
  starting : ∀ dbm, trialCall system = some dbm →
    dbm = if system.config.tx.hasPending then system.config.tx.pending
      else system.config.tx.knownGood
  rest : system.config.tx.firstAttachDone = true → system.config.tx.hasPending = false →
    sensorCall system.sensor.pc = none → trialCall system = none →
    system.config.tx.activeDbm = system.config.tx.knownGood

theorem inv_boot (env : HpEnv) (nvs : Nvs) (cyclesStarted : Nat) (pendingVerify : Bool) :
    Inv (boot env nvs cyclesStarted pendingVerify) := by
  refine ⟨placed_boot env nvs cyclesStarted pendingVerify, ?_, ?_, ?_, ?_⟩
  · intro _
    show (TxPower.init _ nvs).activeDbm = txPowerTableMaxDbm
    unfold TxPower.init
    split
    · split <;> rfl
    · rfl
  · intro dbm called
    cases called
  · intro dbm called
    cases called
  · intro done
    have fresh : (boot env nvs cyclesStarted pendingVerify).config.tx.firstAttachDone = false :=
      TxPower.init_firstAttachDone _ nvs
    exact absurd (fresh.symm.trans done) (by decide)

theorem followsPolicy_of_inv (inv : Inv system) (done : system.config.tx.firstAttachDone = true) :
    FollowsPolicy system := by
  refine ⟨inv.active, ?_⟩
  intro outside settled sensor trial
  rw [← inv.active outside]
  exact inv.rest done settled sensor trial

theorem Inv.kept (inv : Inv system) (placed : Placed next) (tx : next.config.tx = system.config.tx)
    (radio : next.radio = system.radio)
    (window : pinnedPc next.ota.pc = false → pinnedPc system.ota.pc = false)
    (sensor : sensorCall next.sensor.pc = sensorCall system.sensor.pc)
    (trial : trialCall next = trialCall system) : Inv next := by
  refine ⟨placed, ?_, ?_, ?_, ?_⟩
  · rw [tx, radio]
    exact fun outside => inv.active (window outside)
  · rw [sensor, tx]
    exact inv.call
  · rw [trial, tx]
    exact inv.starting
  · rw [sensor, trial, tx]
    exact inv.rest

theorem active_applied {dbm : Int} {accepted : Bool} {tx : TxPower}
    (held : Accepted accepted dbm tx.activeDbm) : (tx.applied dbm accepted).activeDbm = dbm := by
  cases accepted with
  | true => rfl
  | false => exact (held.resolve_left (by decide)).symm

/-- A call that a policy function makes, whatever it returns. -/
theorem active_called (inv : Inv system) (dbm : Int) (accepted : Bool)
    (outside : pinnedPc system.ota.pc = false) :
    (system.applyTxPower dbm accepted).config.tx.activeDbm =
      (system.applyTxPower dbm accepted).radio := by
  cases accepted with
  | true => rfl
  | false => exact inv.active outside

/-! ## The sensor task -/

theorem inv_attachReady (inv : Inv system) (at_ : system.sensor.pc = .attaching) :
    Inv system.attachReady := by
  have placed := placed_attachReady inv.placed
  have still : sensorCall system.sensor.pc = none := by rw [at_]; rfl
  cases done : system.config.tx.firstAttachDone with
  | true =>
    have same : system.config.tx.noteFirstAttach = (system.config.tx, none) := by
      simp [TxPower.noteFirstAttach, done]
    have tx : system.attachReady.config.tx = system.config.tx := by simp [attachReady, same]
    have pc : sensorCall system.attachReady.sensor.pc = none := by
      simp [attachReady, same, sensorCall]
    exact inv.kept placed tx rfl id (pc.trans still.symm) rfl
  | false =>
    have noPub : system.mqtt.pub = none := by
      cases running : system.mqtt.pub with
      | none => rfl
      | some pub => exact absurd (done.symm.trans (inv.placed.attachedPub pub running)) (by decide)
    have called : system.config.tx.noteFirstAttach.2 = some system.config.tx.knownGood ∧
        system.config.tx.noteFirstAttach.1.knownGood = system.config.tx.knownGood ∧
        system.config.tx.noteFirstAttach.1.activeDbm = system.config.tx.activeDbm := by
      simp only [TxPower.noteFirstAttach, done, Bool.false_eq_true, if_false]
      split <;> exact ⟨rfl, rfl, rfl⟩
    obtain ⟨call, knownGood, active⟩ := called
    have pc : sensorCall system.attachReady.sensor.pc = some system.config.tx.knownGood := by
      simp [attachReady, call, sensorCall]
    have noTrial : trialCall system.attachReady = none := by
      show system.mqtt.pub.bind _ = none
      rw [noPub]
      rfl
    refine ⟨placed, ?_, ?_, ?_, ?_⟩
    · intro outside
      exact active.trans (inv.active outside)
    · intro dbm at_
      rw [pc] at at_
      exact (Option.some.inj at_).symm.trans knownGood.symm
    · intro dbm at_
      rw [noTrial] at at_
      cases at_
    · intro _ _ quiet
      rw [pc] at quiet
      cases quiet

theorem inv_noteCycleResult {ok : Bool} {resume : AfterNote} (inv : Inv system)
    (placed : Placed (system.noteCycleResult ok resume))
    (still : sensorCall system.sensor.pc = none) (holds : VerdictHolds system ok) :
    Inv (system.noteCycleResult ok resume) := by
  have resumed : sensorCall resume.pc = none := by cases resume <;> rfl
  unfold VerdictHolds at holds
  cases verdict : system.config.tx.cycleVerdict ok with
  | noTrial =>
    refine inv.kept placed ?_ rfl id ?_ rfl
    · simp [noteCycleResult, TxPower.noteCycleResult, verdict]
    · rw [still]
      simpa [noteCycleResult, verdict] using resumed
  | counted =>
    have tx : (system.noteCycleResult ok resume).config.tx =
        { system.config.tx with
          unconfirmedCycles := u32 (system.config.tx.unconfirmedCycles + 1) } := by
      simp [noteCycleResult, TxPower.noteCycleResult, verdict]
    have pc : sensorCall (system.noteCycleResult ok resume).sensor.pc = none := by
      simpa [noteCycleResult, verdict] using resumed
    refine ⟨placed, ?_, ?_, ?_, ?_⟩
    · rw [tx]
      exact inv.active
    · intro dbm called
      rw [pc] at called
      cases called
    · rw [tx]
      exact inv.starting
    · rw [tx]
      exact fun done settled _ => inv.rest done settled still
  | confirmed =>
    rw [verdict] at holds
    obtain ⟨outstanding, -⟩ := TxPower.cycleVerdict_confirmed.mp verdict
    have tx : (system.noteCycleResult ok resume).config.tx =
        { system.config.tx with
          knownGood := system.config.tx.pending, hasPending := false, unconfirmedCycles := 0 } := by
      simp [noteCycleResult, TxPower.noteCycleResult, verdict]
    have pc : sensorCall (system.noteCycleResult ok resume).sensor.pc = none := by
      simpa [noteCycleResult, verdict] using resumed
    refine ⟨placed, ?_, ?_, ?_, ?_⟩
    · rw [tx]
      exact inv.active
    · intro dbm called
      rw [pc] at called
      cases called
    · rw [tx]
      intro dbm called
      have value := inv.starting dbm called
      rw [if_pos outstanding] at value
      exact value
    · rw [tx]
      intro _ _ _ quiet
      exact (holds quiet).symm
  | reverting =>
    rw [verdict] at holds
    have tx : (system.noteCycleResult ok resume).config.tx =
        { system.config.tx with
          rejected := system.config.tx.pending, hasRejected := true, hasPending := false
          unconfirmedCycles := 0 } := by
      simp [noteCycleResult, TxPower.noteCycleResult, verdict]
    have pc : sensorCall (system.noteCycleResult ok resume).sensor.pc =
        some system.config.tx.knownGood := by
      simp [noteCycleResult, verdict, sensorCall]
    refine ⟨placed, ?_, ?_, ?_, ?_⟩
    · rw [tx]
      exact inv.active
    · rw [tx, pc]
      intro dbm called
      exact (Option.some.inj called).symm
    · intro dbm called
      have quiet : trialCall (system.noteCycleResult ok resume) = none := holds
      rw [quiet] at called
      cases called
    · rw [pc]
      intro _ _ quiet
      cases quiet

theorem inv_sensorCall {dbm : Int} (inv : Inv system) (accepted : Bool) (placed : Placed next)
    (at_ : sensorCall system.sensor.pc = some dbm)
    (held : Accepted accepted dbm system.config.tx.activeDbm)
    (tx : next.config.tx = system.config.tx.applied dbm accepted)
    (radio : next.radio = (system.applyTxPower dbm accepted).radio)
    (ota : next.ota = system.ota) (trial : trialCall next = trialCall system)
    (left : sensorCall next.sensor.pc = none) : Inv next := by
  refine ⟨placed, ?_, ?_, ?_, ?_⟩
  · rw [ota, tx, radio]
    exact active_called inv dbm accepted
  · rw [left]
    intro other called
    cases called
  · rw [trial, tx, TxPower.applied_hasPending, TxPower.applied_pending, TxPower.applied_knownGood]
    exact inv.starting
  · rw [tx, active_applied held, TxPower.applied_knownGood]
    intro _ _ _ _
    exact inv.call dbm at_

theorem inv_sensor {event : SensorEvent} (inv : Inv system)
    (met : CallsHold system (.sensor event)) (placed : Placed next)
    (move : SensorMove env system event next) : Inv next := by
  cases move with
  | attached at_ => exact inv_attachReady inv at_
  | attachFailed at_ =>
    refine inv_noteCycleResult inv placed (by rw [at_]; rfl) (met false ?_)
    simp [reported, at_]
  | @firstAttachCall dbm accepted at_ =>
    have called : sensorCall system.sensor.pc = some dbm := by rw [at_]; rfl
    exact inv_sensorCall inv accepted placed called (met dbm called) rfl rfl rfl rfl rfl
  | @revertCall dbm resume accepted at_ =>
    have called : sensorCall system.sensor.pc = some dbm := by rw [at_]; rfl
    apply inv_sensorCall inv accepted placed called (met dbm called) rfl rfl rfl rfl
    cases resume <;> rfl
  | readState state at_ =>
    obtain ⟨delta, progressed, taken⟩ := system.sensor.takeState_eq state
    refine inv.kept placed rfl rfl id ?_ rfl
    rw [taken, at_]
    rfl
  | branch at_ =>
    obtain ⟨quiet, stalled, otaOnly, values, pc, same, place, -⟩ :=
      system.sensor.branch_eq system.ota.sessionActive system.ota.updateDue
        env.yaml.readBatteryViaAdc
    refine inv.kept placed rfl rfl id ?_ rfl
    rw [same, at_]
    rcases place with rfl | rfl | rfl <;> rfl
  | measure outcome at_ => exact inv.kept placed rfl rfl id (by rw [at_]; rfl) rfl
  | sendRefused created at_ busy => exact inv.kept placed rfl rfl id (by rw [at_]; rfl) rfl
  | sendFailed at_ free => exact inv.kept placed rfl rfl id (by rw [at_]; rfl) rfl
  | sendStarted at_ free =>
    have noPub : system.mqtt.pub = none := by
      cases running : system.mqtt.pub with
      | none => rfl
      | some pub => exact absurd (free.symm.trans (inv.placed.running pub running)) (by decide)
    apply inv.kept placed rfl rfl id (by rw [at_]; rfl)
    unfold trialCall
    rw [noPub]
    rfl
  | isBusy at_ =>
    refine inv.kept placed rfl rfl id ?_ rfl
    rw [at_]
    simp only [atSensorPc, withSensor]
    split <;> rfl
  | waitDone at_ idle => exact inv.kept placed rfl rfl id (by rw [at_]; rfl) rfl
  | waitTimeout at_ => exact inv.kept placed rfl rfl id (by rw [at_]; rfl) rfl
  | readOutcome at_ => exact inv.kept placed rfl rfl id (by rw [at_]; rfl) rfl
  | note at_ =>
    refine inv_noteCycleResult inv placed (by rw [at_]; rfl) (met _ ?_)
    simp [reported, at_]
  | deliver nowUs stateRead marked at_ =>
    obtain ⟨log, checked, pending, same⟩ := system.deliver_eq nowUs stateRead marked
    rw [same] at placed ⊢
    exact inv.kept placed rfl rfl id (by rw [at_]; rfl) rfl
  | timeoutInSession at_ active => exact inv.kept placed rfl rfl id (by rw [at_]; rfl) rfl
  | timeoutNoted at_ inactive =>
    refine inv_noteCycleResult inv placed (by rw [at_]; rfl) (met false ?_)
    simp [reported, at_, inactive]
  | supervise stateRead at_ =>
    refine inv.kept placed rfl rfl id ?_ rfl
    rw [at_]
    rcases system.supervise_pc stateRead with place | place <;> rw [place] <;> rfl
  | beginWait at_ => exact inv.kept placed rfl rfl id (by rw [at_]; rfl) rfl
  | wake lpWoke at_ => exact inv.kept placed rfl rfl id (by rw [at_]; rfl) rfl

/-! ## The publish task -/

theorem trialCall_pub {pub : Pub} (running : system.mqtt.pub = some pub) :
    trialCall system =
      match pub.pc with
      | .trialCall snap => some (trialDbm snap)
      | _ => none := by
  unfold trialCall
  rw [running]
  rfl

theorem trialCall_elsewhere {pub : Pub} (running : system.mqtt.pub = some pub)
    (elsewhere : ∀ snap, pub.pc ≠ .trialCall snap) : trialCall system = none := by
  rw [trialCall_pub running]
  split
  · exact absurd ‹_› (elsewhere _)
  · rfl

theorem pubStep_trialCall {pub : Pub} {snap : PendingCfg} {event : PubEvent}
    (at_ : pub.pc = .trialCall snap) (taken : system.pubStep env pub event = some next) :
    ∃ accepted, event = .setTxDone accepted ∧
      next = (system.applyTxPower (trialDbm snap) accepted).atPubPc pub (.persisting snap) := by
  unfold pubStep at taken
  cases event with
  | setTxDone accepted =>
    rw [at_] at taken
    exact ⟨accepted, rfl, (Option.some.inj taken).symm⟩
  | _ =>
    rw [at_] at taken
    cases taken

theorem inv_trialCall {pub : Pub} {snap : PendingCfg} (inv : Inv system)
    (running : system.mqtt.pub = some pub) (at_ : pub.pc = .trialCall snap) (accepted : Bool)
    (met : CallsHold system (.pub (.setTxDone accepted)))
    (placed : Placed
      ((system.applyTxPower (trialDbm snap) accepted).atPubPc pub (.persisting snap))) :
    Inv ((system.applyTxPower (trialDbm snap) accepted).atPubPc pub (.persisting snap)) := by
  have called : trialCall system = some (trialDbm snap) := by
    rw [trialCall_pub running, at_]
  refine ⟨placed, ?_, ?_, ?_, ?_⟩
  · exact active_called inv (trialDbm snap) accepted
  · intro dbm atCall
    exact (inv.call dbm atCall).trans
      (TxPower.applied_knownGood system.config.tx (trialDbm snap) accepted).symm
  · intro dbm absurd
    cases absurd
  · intro _ settled _ _
    have settledBefore : system.config.tx.hasPending = false :=
      (TxPower.applied_hasPending system.config.tx (trialDbm snap) accepted).symm.trans settled
    have value := inv.starting _ called
    rw [settledBefore] at value
    show (system.config.tx.applied (trialDbm snap) accepted).activeDbm =
      (system.config.tx.applied (trialDbm snap) accepted).knownGood
    rw [active_applied (met _ called settledBefore), TxPower.applied_knownGood]
    exact value

theorem inv_merge {pub : Pub} {snap : PendingCfg} (inv : Inv system)
    (trial : snap.txPowerDbm.set = true) (placed : Placed (system.merge pub snap)) :
    Inv (system.merge pub snap) := by
  have tx : (system.merge pub snap).config.tx =
      system.config.tx.startTrial snap.txPowerDbm.value := by
    simp [merge, RuntimeConfig.mergeAll, trial]
  have called : trialCall (system.merge pub snap) = some (trialDbm snap) := by
    simp [trialCall, merge, trial]
  refine ⟨placed, ?_, ?_, ?_, ?_⟩
  · rw [tx]
    exact inv.active
  · rw [tx]
    exact inv.call
  · rw [tx, called]
    intro dbm same
    exact (Option.some.inj same).symm
  · rw [called]
    intro _ _ _ quiet
    cases quiet

theorem inv_pub {pub : Pub} {event : PubEvent} (inv : Inv system)
    (running : system.mqtt.pub = some pub) (elsewhere : ∀ snap, pub.pc ≠ .trialCall snap)
    (placed : Placed next) (move : PubMove env system pub event next) : Inv next := by
  have quiet := trialCall_elsewhere running elsewhere
  have moved : ∀ after, next.mqtt.pub = some after → (∀ snap, after.pc ≠ .trialCall snap) →
      trialCall next = trialCall system := by
    intro after found left
    rw [quiet, trialCall_elsewhere found left]
  cases move with
  | quiet noTrial frame =>
    obtain ⟨after, found, -, -, -, -, isPlain⟩ := frame.pub
    refine inv.kept placed frame.tx frame.radio ?_ (by rw [frame.sensor]) (moved after found ?_)
    · rw [frame.ota]
      exact id
    · intro snap at_
      rw [at_] at isPlain
      exact isPlain
  | publishState at_ => exact inv.kept placed rfl rfl id rfl (moved _ rfl (by simp))
  | acked at_ all =>
    have same : system.ackWait pub = _ := if_pos all
    rw [same] at placed moved ⊢
    exact inv.kept placed rfl rfl id rfl (moved _ rfl (by simp))
  | merge at_ trial => exact inv_merge inv trial placed
  | trialCall accepted at_ => exact absurd at_ (elsewhere _)
  | session at_ healthy due =>
    have idle := inv.placed.notIn running (by rw [at_]; simp)
    refine inv.kept placed rfl rfl ?_ rfl (moved _ rfl (by simp))
    intro _
    rw [idle]
    rfl
  | storeOk at_ => exact inv.kept placed rfl rfl id rfl (moved _ rfl (by simp))
  | clearRunning at_ => exact inv.kept placed rfl rfl id rfl quiet.symm

/-! ## The OTA session -/

theorem pinned_kept {firmware : Firmware} {ota after : Ota} {event : OtaEvent}
    (taken : ota.step firmware event = some after) (other : event ≠ .unpin)
    (inside : pinnedPc ota.pc = true) : pinnedPc after.pc = true := by
  have pulling : ∀ {pc}, Ota.pullingPc pc = true → pinnedPc pc = true := by
    intro pc at_
    cases pc <;> first | rfl | cases at_
  cases Ota.step_kind taken with
  | manifest message at_ =>
    rw [at_] at inside
    cases inside
  | install set at_ => exact inside
  | handler handled =>
    rw [(Ota.handlerStep_kept handled).pc]
    exact inside
  | session ran =>
    cases Ota.session_kind ran with
    | prime chunk ok at_ =>
      obtain ⟨-, place⟩ := Ota.prime_frame ota chunk ok
      rcases place with place | place <;> rw [place] <;> rfl
    | wait _ => exact pulling (Ota.wait_frame ota).2
    | countDone chunkBit _ => exact pulling (Ota.countDone_frame ota chunkBit).2
    | topUp chunk nowDone ok capExceeded _ =>
      exact pulling (Ota.topUp_frame ota chunk nowDone ok capExceeded).2
    | endSession _ => rfl
    | finalize _ _ _ _ => rfl
    | endWindow _ => rfl
    | unpin _ => exact absurd rfl other
    | runIfDue at_ | connected at_ | unconnected at_ | enterSession _ at_ | activate _ _ _ at_
    | beginWindow at_ | pin at_ | report at_ | loopCheck _ at_ =>
      rw [at_] at inside
      cases inside

theorem pin_opens {firmware : Firmware} {ota after : Ota}
    (taken : ota.step firmware .pin = some after) : pinnedPc after.pc = true := by
  have ran : ota.sessionStep firmware ota.pc .pin = some after := taken
  cases Ota.session_kind ran
  rfl

theorem inv_ota {event : OtaEvent} {accepted : Bool} {after : Ota} (inv : Inv system)
    (met : CallsHold system (.ota event accepted))
    (stepped : system.ota.step env.firmware event = some after)
    (placed : Placed { system.otaRadio event accepted with ota := after }) :
    Inv { system.otaRadio event accepted with ota := after } := by
  obtain ⟨radio, same⟩ := system.otaRadio_eq event accepted
  by_cases unpins : event = .unpin
  · subst unpins
    refine ⟨placed, ?_, inv.call, inv.starting, inv.rest⟩
    intro _
    cases accepted with
    | true => rfl
    | false => exact met.resolve_left (by decide)
  by_cases pins : event = .pin
  · subst pins
    refine ⟨placed, ?_, inv.call, inv.starting, inv.rest⟩
    intro outside
    exact absurd ((pin_opens stepped).symm.trans outside) (by decide)
  · have unchanged : system.otaRadio event accepted = system := by
      cases event <;> first | rfl | exact absurd rfl unpins | exact absurd rfl pins
    rw [unchanged] at placed ⊢
    refine inv.kept placed rfl rfl ?_ rfl rfl
    intro outside
    cases inside : pinnedPc system.ota.pc with
    | false => rfl
    | true => exact absurd ((pinned_kept stepped unpins inside).symm.trans outside) (by decide)

theorem inv_step (system : HpSystem) (action : HpAction) (next : HpSystem) (inv : Inv system)
    (met : CallsHold system action) (taken : step env system action = some next) : Inv next := by
  have placed := placed_step inv.placed taken
  cases step_move taken with
  | sensor move => exact inv_sensor inv met placed move
  | @pub pub event _ running leaves move =>
    by_cases calling : ∃ snap, pub.pc = .trialCall snap
    · obtain ⟨snap, at_⟩ := calling
      simp only [step, running] at taken
      obtain ⟨accepted, rfl, rfl⟩ := pubStep_trialCall at_ taken
      exact inv_trialCall inv running at_ accepted met placed
    · exact inv_pub inv running (fun snap at_ => calling ⟨snap, at_⟩) placed move
  | tail => exact inv.kept placed rfl rfl id rfl rfl
  | client move =>
    have moved : ∀ {after}, Placed after → ClientQuiet system after → Inv after := by
      intro after placed frame
      refine inv.kept placed frame.tx frame.radio ?_ (by rw [frame.sensor]) ?_
      · rw [frame.session]
        exact id
      · unfold trialCall
        rw [frame.pub]
    cases move with
    | quiet frame => exact moved placed frame
    | acked frame => exact moved placed frame
  | ota running at_ inCycle stepped => exact inv_ota inv met stepped placed
  | reset pendingVerify => exact inv_boot env _ _ pendingVerify

/-- In every run whose steps meet `CallsHold`, the radio follows the policy from
the first attach on. -/
theorem followsPolicy_run (env : HpEnv) (nvs : Nvs) (cyclesStarted : Nat) (pendingVerify : Bool)
    (actions : List HpAction) (final : HpSystem)
    (met : Runs.Along (step env) CallsHold (boot env nvs cyclesStarted pendingVerify) actions)
    (ran : Runs.run (step env) (boot env nvs cyclesStarted pendingVerify) actions = some final)
    (done : final.config.tx.firstAttachDone = true) : FollowsPolicy final :=
  followsPolicy_of_inv (Runs.along_invariant Inv inv_step
    (inv_boot env nvs cyclesStarted pendingVerify) met ran) done

/-- A trial of 10 dBm whose call returns `accepted`, in a cycle that is
published and confirms it. -/
def confirmedTrial (accepted : Bool) : List HpAction :=
  attachFirst ++ takeUp (reading 1 (.fin 21)) ++ [.sensor .isBusy] ++ publishUpToState ++
    allAcked 33 ++
    (publishTrial 10).map (fun action =>
      if action = .pub (.setTxDone true) then .pub (.setTxDone accepted) else action) ++
    publishEnd ++ noteOutcome

theorem followsPolicy_confirmed :
    ∃ final, Runs.run (step benchEnv) (boot benchEnv Nvs.erased 0 false) (confirmedTrial true) =
        some final ∧ final.radio = 10 ∧ FollowsPolicy final := by
  obtain ⟨final, ran, found⟩ := Runs.exists_final
    (fun final : HpSystem =>
      decide (final.radio = 10 ∧ final.config.tx.firstAttachDone = true))
    (show (Runs.run (step benchEnv) (boot benchEnv Nvs.erased 0 false)
      (confirmedTrial true)).any _ = true by decide +kernel)
  obtain ⟨tuned, done⟩ := of_decide_eq_true found
  exact ⟨final, ran, tuned, followsPolicy_run benchEnv Nvs.erased 0 false (confirmedTrial true)
    final (by decide +kernel) ran done⟩

/-- A trial that never reached the radio is promoted. -/
theorem untuned_promoted :
    ¬ ∀ env nvs cyclesStarted pendingVerify actions final,
      Runs.run (step env) (boot env nvs cyclesStarted pendingVerify) actions = some final →
      final.config.tx.firstAttachDone = true → FollowsPolicy final := by
  intro always
  obtain ⟨final, ran, found⟩ := Runs.exists_final
    (fun final : HpSystem => decide (final.config.tx.firstAttachDone = true ∧
      pinnedPc final.ota.pc = false ∧ final.config.tx.hasPending = false ∧
      sensorCall final.sensor.pc = none ∧ trialCall final = none ∧
      final.radio ≠ final.config.tx.knownGood))
    (show (Runs.run (step benchEnv) (boot benchEnv Nvs.erased 0 false)
      (confirmedTrial false)).any _ = true by decide +kernel)
  obtain ⟨done, outside, settled, sensor, trial, apart⟩ := of_decide_eq_true found
  have follows := always benchEnv Nvs.erased 0 false (confirmedTrial false) final ran done
  exact apart (follows.knownGood outside settled sensor trial)

end SleepySensor.TxRadio
