import SleepySensor.HpInvariant
import SleepySensor.Lib.History

/-!
# Trials of a rejected TX power

A trial that ends without a confirmation rejects its value.  The history
variable holds the values rejected since the last start of a trial of another
value; trying one of them again is the trial/revert loop that the slot
`s_tx_power_rejected` is there to prevent.
-/

set_option autoImplicit false

namespace SleepySensor.TxRetry

open HpSystem

structure History where
  rejected : List Int := []
  deriving DecidableEq, Repr

abbrev Observed := HpSystem × History

/-- The trial that the step starts. -/
def triesDbm (system : HpSystem) : HpAction → Option Int
  | .pub event => system.mqtt.pub.bind fun pub => startsTrial pub event
  | _ => none

/-- The trial that the step reverts, or discards at the first attach. -/
def rejects (system : HpSystem) (action : HpAction) : Option Int :=
  let tx := system.config.tx
  match action, system.reported action with
  | .sensor (.attachGate true), _ =>
    if system.sensor.pc = .attaching ∧ tx.firstAttachDone = false ∧ tx.hasPending = true then
      some tx.pending
    else none
  | _, some ok => if tx.cycleVerdict ok = .reverting then some tx.pending else none
  | _, none => none

def record (system : HpSystem) (action : HpAction) (history : History) : History :=
  match action with
  | .reset _ => {}
  | _ =>
    match triesDbm system action, rejects system action with
    | some dbm, _ => { rejected := history.rejected.filter (· == dbm) }
    | none, some dbm => { rejected := dbm :: history.rejected }
    | none, none => history

def step (env : HpEnv) : Observed → HpAction → Option Observed :=
  Runs.observe (HpSystem.step env) record

/-- No trial of a rejected value starts. -/
def NoRetry (state : Observed) (action : HpAction) : Prop :=
  ∀ dbm ∈ triesDbm state.1 action, dbm ∉ state.2.rejected

instance (state : Observed) (action : HpAction) : Decidable (NoRetry state action) :=
  inferInstanceAs (Decidable (∀ dbm ∈ triesDbm state.1 action, dbm ∉ state.2.rejected))

/-- A received value that clamps to the rejected one is that value. -/
def ClampKeeps (config : RuntimeConfig) : Prop :=
  let slot := config.pending.txPowerDbm
  slot.set = true → config.tx.hasRejected = true →
    stdClamp slot.value txPowerDbmMin txPowerDbmMax = config.tx.rejected →
    slot.value = config.tx.rejected

instance (config : RuntimeConfig) : Decidable (ClampKeeps config) := by
  unfold ClampKeeps
  infer_instance

def SettledAsReceived (state : Observed) : HpAction → Prop
  | .pub .settle => ClampKeeps state.1.config
  | _ => True

instance (state : Observed) (action : HpAction) : Decidable (SettledAsReceived state action) := by
  unfold SettledAsReceived
  split <;> infer_instance

/-! ## The invariant -/

variable {env : HpEnv} {system next : HpSystem} {history : History}

structure Inv (system : HpSystem) (history : History) : Prop where
  known : ∀ dbm ∈ history.rejected,
    system.config.tx.hasRejected = true ∧ system.config.tx.rejected = dbm
  outstanding : system.config.tx.hasPending = true → history.rejected = []
  merging : ∀ pub ∈ system.mqtt.pub, ∀ snap, pub.pc = .merging snap →
    snap.txPowerDbm.set = true → trialDbm snap ∉ history.rejected ∧
      (system.config.tx.hasPending = true → trialDbm snap ≠ system.config.tx.pending)

/-- The part of the TX power state that the invariant is about. -/
structure SameTrial (system next : HpSystem) : Prop where
  hasPending : next.config.tx.hasPending = system.config.tx.hasPending
  pending : next.config.tx.pending = system.config.tx.pending
  hasRejected : next.config.tx.hasRejected = system.config.tx.hasRejected
  rejected : next.config.tx.rejected = system.config.tx.rejected

theorem sameTrial_of_tx (same : next.config.tx = system.config.tx) : SameTrial system next := by
  refine ⟨?_, ?_, ?_, ?_⟩ <;> rw [same]

theorem Inv.same (inv : Inv system history) (same : SameTrial system next)
    (merging : ∀ pub ∈ next.mqtt.pub, ∀ snap, pub.pc = .merging snap →
      snap.txPowerDbm.set = true → trialDbm snap ∉ history.rejected ∧
        (system.config.tx.hasPending = true → trialDbm snap ≠ system.config.tx.pending)) :
    Inv next history := by
  refine ⟨?_, ?_, ?_⟩
  · rw [same.hasRejected, same.rejected]
    exact inv.known
  · rw [same.hasPending]
    exact inv.outstanding
  · rw [same.hasPending, same.pending]
    exact merging

theorem Inv.rejecting (inv : Inv system history)
    (outstanding : system.config.tx.hasPending = true)
    (ended : next.config.tx.hasPending = false) (flag : next.config.tx.hasRejected = true)
    (slot : next.config.tx.rejected = system.config.tx.pending)
    (pub : next.mqtt.pub = system.mqtt.pub) :
    Inv next { rejected := system.config.tx.pending :: history.rejected } := by
  have empty := inv.outstanding outstanding
  refine ⟨?_, ?_, ?_⟩
  · intro dbm member
    rw [empty] at member
    rw [List.mem_singleton.mp member]
    exact ⟨flag, slot⟩
  · intro still
    rw [ended] at still
    cases still
  · rw [pub]
    intro publishing running snap at_ starts
    refine ⟨?_, fun still => ?_⟩
    · rw [empty, List.mem_singleton]
      exact (inv.merging publishing running snap at_ starts).2 outstanding
    · rw [ended] at still
      cases still

theorem Inv.kept (inv : Inv system history)
    (outstanding : next.config.tx.hasPending = true → system.config.tx.hasPending = true)
    (pending : next.config.tx.pending = system.config.tx.pending)
    (flag : next.config.tx.hasRejected = system.config.tx.hasRejected)
    (slot : next.config.tx.rejected = system.config.tx.rejected)
    (pub : next.mqtt.pub = system.mqtt.pub) : Inv next history := by
  refine ⟨?_, ?_, ?_⟩
  · rw [flag, slot]
    exact inv.known
  · exact fun still => inv.outstanding (outstanding still)
  · rw [pub, pending]
    intro publishing running snap at_ starts
    obtain ⟨fresh, apart⟩ := inv.merging publishing running snap at_ starts
    exact ⟨fresh, fun still => apart (outstanding still)⟩

/-! ## The sensor task -/

theorem record_sensor (event : SensorEvent) :
    record system (.sensor event) history =
      match rejects system (.sensor event) with
      | some dbm => { rejected := dbm :: history.rejected }
      | none => history := by
  unfold record triesDbm
  dsimp only
  cases rejects system (.sensor event) <;> rfl

theorem inv_noteCycleResult {event : SensorEvent} {ok : Bool} (inv : Inv system history)
    (resume : AfterNote)
    (rejecting : rejects system (.sensor event) =
      if system.config.tx.cycleVerdict ok = .reverting then some system.config.tx.pending
      else none) :
    Inv (system.noteCycleResult ok resume) (record system (.sensor event) history) := by
  rw [record_sensor, rejecting]
  have noted : (system.noteCycleResult ok resume).config.tx =
      system.config.tx.noteCycleResult ok := rfl
  by_cases reverts : system.config.tx.cycleVerdict ok = .reverting
  · rw [if_pos reverts]
    have after := TxPower.noteCycleResult_reverting reverts
    refine inv.rejecting (TxPower.cycleVerdict_reverting reverts).1 ?_ ?_ ?_ rfl <;>
      rw [noted, after]
  · rw [if_neg reverts]
    refine inv.kept (fun still => ?_) ?_ ?_ ?_ rfl
    · rw [noted] at still
      exact (TxPower.noteCycleResult_outstanding still).1
    all_goals
      rw [noted]
      unfold TxPower.noteCycleResult
      split
      case h_4 verdict => exact (reverts verdict).elim
      all_goals rfl

theorem inv_attachReady (inv : Inv system history) (at_ : system.sensor.pc = .attaching) :
    Inv system.attachReady (record system (.sensor (.attachGate true)) history) := by
  rw [record_sensor]
  have noted : system.attachReady.config.tx = system.config.tx.noteFirstAttach.1 := rfl
  have samePub : system.attachReady.mqtt.pub = system.mqtt.pub := rfl
  cases done : system.config.tx.firstAttachDone with
  | true =>
    have none_ : rejects system (.sensor (.attachGate true)) = none := by
      simp [rejects, done]
    have after : system.config.tx.noteFirstAttach.1 = system.config.tx := by
      simp [TxPower.noteFirstAttach, done]
    rw [none_]
    refine inv.kept ?_ ?_ ?_ ?_ samePub <;> rw [noted, after]
    exact id
  | false =>
    cases outstanding : system.config.tx.hasPending with
    | false =>
      have none_ : rejects system (.sensor (.attachGate true)) = none := by
        simp [rejects, outstanding]
      have after : system.config.tx.noteFirstAttach.1 =
          { system.config.tx with firstAttachDone := true } := by
        simp [TxPower.noteFirstAttach, done, outstanding]
      rw [none_]
      refine inv.kept ?_ ?_ ?_ ?_ samePub <;> rw [noted, after]
      exact id
    | true =>
      have some_ : rejects system (.sensor (.attachGate true)) =
          some system.config.tx.pending := by
        simp [rejects, at_, done, outstanding]
      have after : system.config.tx.noteFirstAttach.1 =
          { system.config.tx with
            firstAttachDone := true, rejected := system.config.tx.pending, hasRejected := true
            hasPending := false, unconfirmedCycles := 0 } := by
        simp [TxPower.noteFirstAttach, done, outstanding]
      rw [some_]
      refine inv.rejecting outstanding ?_ ?_ ?_ samePub <;> rw [noted, after]

theorem inv_sensor {event : SensorEvent} (inv : Inv system history)
    (move : SensorMove env system event next) :
    Inv next (record system (.sensor event) history) := by
  have quiet : rejects system (.sensor event) = none → SameTrial system next →
      next.mqtt.pub = system.mqtt.pub → Inv next (record system (.sensor event) history) := by
    intro none_ same samePub
    rw [record_sensor, none_]
    apply inv.same same
    rw [samePub]
    exact inv.merging
  cases move with
  | attached at_ => exact inv_attachReady inv at_
  | attachFailed at_ =>
    apply inv_noteCycleResult inv .cycleEnd
    simp [rejects, reported, at_]
  | note at_ =>
    apply inv_noteCycleResult inv .delivering
    simp [rejects, reported, at_]
  | timeoutNoted at_ inactive =>
    apply inv_noteCycleResult inv .cycleEnd
    simp [rejects, reported, at_, inactive]
  | timeoutInSession at_ active =>
    refine quiet ?_ (sameTrial_of_tx rfl) rfl
    simp [rejects, reported, active]
  | firstAttachCall accepted at_ =>
    exact quiet rfl ⟨TxPower.applied_hasPending _ _ _, TxPower.applied_pending _ _ _,
      TxPower.applied_hasRejected _ _ _, TxPower.applied_rejected _ _ _⟩ rfl
  | revertCall accepted at_ =>
    exact quiet rfl ⟨TxPower.applied_hasPending _ _ _, TxPower.applied_pending _ _ _,
      TxPower.applied_hasRejected _ _ _, TxPower.applied_rejected _ _ _⟩ rfl
  | deliver nowUs stateRead marked at_ =>
    obtain ⟨log, checked, pending, same⟩ := system.deliver_eq nowUs stateRead marked
    exact quiet rfl (sameTrial_of_tx (by rw [same])) (by rw [same])
  | sendStarted at_ free =>
    rw [record_sensor]
    refine inv.same (sameTrial_of_tx rfl) ?_
    rintro pub ⟨⟩ snap place
    cases place
  | _ => exact quiet rfl (sameTrial_of_tx rfl) rfl

/-! ## The publish task -/

/-- What `settle` starts a trial with is in range and neither in effect nor rejected. -/
theorem settled_trial {config : RuntimeConfig} {rejected : List Int}
    (keeps : ClampKeeps config)
    (known : ∀ dbm ∈ rejected, config.tx.hasRejected = true ∧ config.tx.rejected = dbm)
    (starts : config.settleAll.txPowerDbm.set = true) :
    trialDbm config.settleAll ∉ rejected ∧
      (config.tx.hasPending = true → trialDbm config.settleAll ≠ config.tx.pending) := by
  have settled : config.settleAll.txPowerDbm =
      RuntimeConfig.settleTxPower config.tx config.pending.txPowerDbm := rfl
  unfold trialDbm
  rw [settled] at starts ⊢
  unfold RuntimeConfig.settleTxPower at starts ⊢
  cases received : config.pending.txPowerDbm.set with
  | false =>
    rw [received] at starts
    simp [received] at starts
  | true =>
    rw [received] at starts
    simp only [if_true] at starts ⊢
    unfold TxPower.settleReceived at starts ⊢
    by_cases again : (config.tx.hasRejected &&
        config.pending.txPowerDbm.value == config.tx.rejected) = true
    · rw [if_pos again] at starts
      cases starts
    · rw [if_neg again] at starts ⊢
      have narrowed := TxPower.narrow_eq config.pending.txPowerDbm.value
      unfold TxPower.narrow at narrowed
      dsimp only at starts ⊢
      rw [narrowed]
      constructor
      · intro member
        obtain ⟨flag, slot⟩ := known _ member
        have same := keeps received flag slot.symm
        exact again (by simp [flag, same])
      · intro outstanding same
        have differs : stdClamp config.pending.txPowerDbm.value txPowerDbmMin txPowerDbmMax ≠
            config.tx.accepted := by simpa using starts
        refine differs (same.trans ?_)
        unfold TxPower.accepted
        rw [if_pos outstanding]

theorem record_pub {pub : Pub} {event : PubEvent} (running : system.mqtt.pub = some pub) :
    record system (.pub event) history =
      match startsTrial pub event with
      | some dbm => { rejected := history.rejected.filter (· == dbm) }
      | none => history := by
  unfold record triesDbm
  simp only [running, Option.bind_some]
  cases startsTrial pub event <;> rfl

theorem inv_merge {pub : Pub} {snap : PendingCfg} (inv : Inv system history)
    (running : system.mqtt.pub = some pub) (at_ : pub.pc = .merging snap)
    (starts : snap.txPowerDbm.set = true) :
    Inv (system.merge pub snap) (record system (.pub .merge) history) := by
  obtain ⟨fresh, -⟩ := inv.merging pub running snap at_ starts
  have started : startsTrial pub .merge = some (trialDbm snap) := by
    simp [startsTrial, at_, starts]
  -- no rejected value survives the start of the trial
  have empty : history.rejected.filter (· == trialDbm snap) = [] := by
    rw [List.filter_eq_nil_iff]
    intro dbm member same
    rw [beq_iff_eq.mp same] at member
    exact fresh member
  rw [record_pub running, started]
  dsimp only
  rw [empty]
  have moved : (system.merge pub snap).mqtt.pub = some { pub with pc := .trialCall snap } := by
    simp [merge, starts]
  refine ⟨?_, fun _ => rfl, ?_⟩
  · intro dbm member
    cases member
  · rw [moved]
    rintro after ⟨⟩ later place
    cases place

theorem inv_pub {pub : Pub} {event : PubEvent} (inv : Inv system history)
    (running : system.mqtt.pub = some pub)
    (met : SettledAsReceived (system, history) (.pub event))
    (taken : system.pubStep env pub event = some next) :
    Inv next (record system (.pub event) history) := by
  have merging : ∀ after ∈ next.mqtt.pub, ∀ snap, after.pc = .merging snap →
      snap.txPowerDbm.set = true → trialDbm snap ∉ history.rejected ∧
        (system.config.tx.hasPending = true → trialDbm snap ≠ system.config.tx.pending) := by
    intro after present snap at_ starts
    obtain ⟨rfl, rfl, rfl⟩ := pubStep_merging taken present at_
    exact settled_trial met inv.known starts
  have quiet : startsTrial pub event = none → SameTrial system next →
      Inv next (record system (.pub event) history) := by
    intro noTrial same
    rw [record_pub running, noTrial]
    exact inv.same same merging
  cases pubStep_move taken with
  | quiet noTrial frame => exact quiet noTrial (sameTrial_of_tx frame.tx)
  | merge at_ trial => exact inv_merge inv running at_ trial
  | trialCall accepted at_ =>
    exact quiet rfl ⟨TxPower.applied_hasPending _ _ _, TxPower.applied_pending _ _ _,
      TxPower.applied_hasRejected _ _ _, TxPower.applied_rejected _ _ _⟩
  | acked at_ all =>
    have same : system.ackWait pub = _ := if_pos all
    exact quiet rfl (sameTrial_of_tx (by rw [same]))
  | _ => exact quiet rfl (sameTrial_of_tx rfl)

/-! ## Whole runs -/

theorem inv_boot (env : HpEnv) (nvs : Nvs) (cyclesStarted : Nat) (pendingVerify : Bool) :
    Inv (boot env nvs cyclesStarted pendingVerify) {} := by
  refine ⟨?_, fun _ => rfl, ?_⟩
  · intro dbm member
    cases member
  · intro pub none
    cases none

theorem inv_step (state : Observed) (action : HpAction) (after : Observed)
    (inv : Inv state.1 state.2) (met : SettledAsReceived state action)
    (taken : step env state action = some after) : Inv after.1 after.2 := by
  obtain ⟨system, history⟩ := state
  obtain ⟨next, later⟩ := after
  obtain ⟨stepped, recorded⟩ := Runs.observe_step taken
  simp only at stepped recorded inv
  subst recorded
  cases action with
  | sensor event => exact inv_sensor inv (sensorStep_move stepped)
  | pub event =>
    simp only [HpSystem.step] at stepped
    split at stepped
    case h_1 pub running => exact inv_pub inv running met stepped
    case h_2 => cases stepped
  | reset pendingVerify =>
    cases Option.some.inj stepped
    exact inv_boot env _ _ _
  | tail =>
    cases step_move stepped
    exact inv.same (sameTrial_of_tx rfl) inv.merging
  | client event =>
    cases step_move stepped with
    | client move =>
      have frame : ClientQuiet system next := by
        cases move with
        | quiet frame states noAck => exact frame
        | acked frame acked kept => exact frame
      apply inv.same (sameTrial_of_tx frame.tx)
      rw [frame.pub]
      exact inv.merging
  | ota event accepted =>
    cases step_move stepped with
    | ota running at_ inCycle otaStepped =>
      obtain ⟨radio, same⟩ := otaRadio_eq system event accepted
      apply inv.same (sameTrial_of_tx (by rw [same]))
      rw [same]
      exact inv.merging

theorem noRetry_of_inv (state : Observed) (action : HpAction) (inv : Inv state.1 state.2) :
    NoRetry state action := by
  intro dbm tried
  cases action with
  | pub event =>
    obtain ⟨pub, running, starts⟩ := Option.bind_eq_some_iff.mp tried
    cases event with
    | merge =>
      simp only [startsTrial] at starts
      split at starts
      case h_1 snap at_ =>
        obtain ⟨set, same⟩ := Option.ite_none_right_eq_some.mp starts
        rw [← Option.some.inj same]
        exact (inv.merging pub running snap at_ set).1
      case h_2 => cases starts
    | _ => cases starts
  | _ => cases tried

/-- In every run in which no received value clamps to the rejected one without
being it, no rejected value is tried again before another one is. -/
theorem noRetry_run (env : HpEnv) (nvs : Nvs) (cyclesStarted : Nat) (pendingVerify : Bool)
    (actions : List HpAction)
    (met : Runs.Along (step env) SettledAsReceived
      (boot env nvs cyclesStarted pendingVerify, {}) actions) :
    Runs.Along (step env) NoRetry (boot env nvs cyclesStarted pendingVerify, {}) actions :=
  Runs.along_of_invariant (fun state => Inv state.1 state.2) inv_step
    (fun state action inv _ => noRetry_of_inv state action inv)
    (inv_boot env nvs cyclesStarted pendingVerify) met

/-- A trial of -15 dBm that an earlier boot left in NVS. -/
def leftTrial : Nvs := (Nvs.erased.set .txpPending (.i8 (-15))).set .txpPendFlag (.u8 1)

/-- The first attach rejects the trial; a payload comes back in the next publish cycle. -/
def payloadAfterReject (dbm : Int) : List HpAction :=
  attachFirst ++ takeUp (reading 1 (.fin 21)) ++ [.sensor .isBusy] ++ publishUpToState ++
    allAcked 33 ++ [.client (.cfg (.txPowerDbm dbm)), .pub .ackWait, .pub (.replay 0),
      .pub .settle, .pub .merge]

theorem noRetry_handBack :
    (Runs.run (step benchEnv) (boot benchEnv leftTrial 0 false, {})
        (payloadAfterReject (-15))).isSome = true ∧
      Runs.Along (step benchEnv) NoRetry (boot benchEnv leftTrial 0 false, {})
        (payloadAfterReject (-15)) :=
  ⟨by decide +kernel, noRetry_run benchEnv leftTrial 0 false _ (by decide +kernel)⟩

/-- -99 is not the rejected -15, but clamps to it. -/
theorem rejected_retried :
    ¬ ∀ env nvs cyclesStarted pendingVerify actions,
      Runs.Along (step env) NoRetry (boot env nvs cyclesStarted pendingVerify, {}) actions := by
  intro always
  have tried := always benchEnv leftTrial 0 false (payloadAfterReject (-99))
  revert tried
  decide +kernel

end SleepySensor.TxRetry
