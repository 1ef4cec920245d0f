import SleepySensor.HpSteps
import SleepySensor.Lib.History

/-!
# What becomes of a flagged reading

A cycle that takes up a reading either acks it to the LP core, or appends it to
the history log, or does neither.  The history variable keeps a record of each
such cycle, with what `mqtt_is_busy` and `mqtt_wait_for_idle` returned.
-/

set_option autoImplicit false

namespace SleepySensor.FlaggedReading

open HpSystem

structure CycleRecord where
  pair : Flt × Flt
  /-- `mqtt_is_busy()` after the publish was asked for. -/
  busy : Bool := false
  /-- `mqtt_wait_for_idle(PUBLISH_TIMEOUT_MS)` returned true. -/
  idle : Bool := false
  acked : Bool := false
  appended : Bool := false
  /-- A reset came before the cycle had settled the reading. -/
  cut : Bool := false
  deriving DecidableEq, Repr

structure History where
  current : Option CycleRecord := none
  closed : List CycleRecord := []
  deriving DecidableEq, Repr

abbrev Observed := HpSystem × History

/-- The reading that the step takes up for publishing. -/
def takenUp (system : HpSystem) : HpAction → Option (Flt × Flt)
  | .sensor .branch =>
    let cycle := system.sensor.cycle
    if system.sensor.pc = .branching ∧ system.ota.sessionActive = false ∧
        cycle.shouldWake = true then
      some (cycle.state.calTempC, cycle.state.calHumPct)
    else none
  | _ => none

def inBranch : SensorPc → Bool
  | .measuring | .sending | .checkBusy | .waiting | .readOutcome | .noting => true
  | .revertCall _ .delivering | .delivering => true
  | _ => false

def History.update (history : History) (change : CycleRecord → CycleRecord) : History :=
  { history with current := history.current.map change }

def History.close (history : History) (cut : Bool) : History :=
  { current := none
    closed :=
      (history.current.toList.map fun cycle => { cycle with cut := cut }) ++ history.closed }

def record (system : HpSystem) (action : HpAction) (history : History) : History :=
  match action with
  | .sensor .branch =>
    { history with current := (takenUp system action).map fun pair => { pair := pair } }
  | .sensor .isBusy =>
    history.update fun cycle => { cycle with busy := system.mqtt.taskRunning }
  | .sensor .waitDone => history.update fun cycle => { cycle with idle := true }
  | .sensor (.deliver _ _ _) =>
    history.update fun cycle =>
      { cycle with
        acked := decide (ackDelivered system action = some cycle.pair)
        appended := decide (logAppended system action = some cycle.pair) }
  | .sensor (.wake _) => history.close false
  | .reset _ => history.close (inBranch system.sensor.pc)
  | _ => history

def step (env : HpEnv) : Observed → HpAction → Option Observed :=
  Runs.observe (HpSystem.step env) record

/-! ## The invariant -/

/-- The reading is kept if the wait for the publish task ended, and only once. -/
def Settled (cycle : CycleRecord) : Prop :=
  (cycle.acked = true ∨ cycle.appended = true ↔
      cycle.busy = true ∧ cycle.idle = true ∧ cycle.cut = false) ∧
    ¬ (cycle.acked = true ∧ cycle.appended = true)

structure Undecided (sensor : SensorsTask) (cycle : CycleRecord) : Prop where
  pair : cycle.pair = (sensor.cycle.state.calTempC, sensor.cycle.state.calHumPct)
  data : sensor.cycle.otaOnly = false
  acked : cycle.acked = false
  appended : cycle.appended = false

/-- What the record of the running cycle says at each place of the task. -/
def Open (sensor : SensorsTask) (cycle : CycleRecord) : Prop :=
  match sensor.pc with
  | .attaching | .firstAttachCall _ | .reading | .branching => False
  | .measuring | .sending | .checkBusy =>
    Undecided sensor cycle ∧ cycle.busy = false ∧ cycle.idle = false
  | .waiting => Undecided sensor cycle ∧ cycle.busy = true ∧ cycle.idle = false
  | .readOutcome | .noting | .delivering =>
    Undecided sensor cycle ∧ cycle.busy = true ∧ cycle.idle = true
  | .revertCall _ .delivering => Undecided sensor cycle ∧ cycle.busy = true ∧ cycle.idle = true
  | _ => Settled cycle

structure Inv (sensor : SensorsTask) (history : History) : Prop where
  current : ∀ cycle ∈ history.current, Open sensor cycle ∧ cycle.cut = false
  closed : ∀ cycle ∈ history.closed, Settled cycle

variable {env : HpEnv} {system next : HpSystem} {history : History}

theorem Undecided.settled {sensor : SensorsTask} {cycle : CycleRecord}
    (undecided : Undecided sensor cycle)
    (lost : cycle.busy = false ∨ cycle.idle = false ∨ cycle.cut = true) : Settled cycle := by
  refine ⟨?_, ?_⟩
  · rw [undecided.acked, undecided.appended]
    refine ⟨fun kept => by simp at kept, ?_⟩
    rintro ⟨busy, idle, cut⟩
    rcases lost with never | late | reset
    · simp [busy] at never
    · simp [idle] at late
    · simp [cut] at reset
  · rw [undecided.acked]
    simp

theorem open_cut {sensor : SensorsTask} {cycle : CycleRecord} (isOpen : Open sensor cycle)
    (uncut : cycle.cut = false) : Settled { cycle with cut := inBranch sensor.pc } := by
  have still : ∀ undecided : Undecided sensor cycle,
      Undecided sensor { cycle with cut := true } := by
    intro undecided
    exact ⟨undecided.pair, undecided.data, undecided.acked, undecided.appended⟩
  have same : { cycle with cut := false } = cycle := by rw [← uncut]
  unfold Open at isOpen
  cases at_ : sensor.pc with
  | revertCall dbm resume =>
    cases resume with
    | delivering =>
      simp only [at_] at isOpen
      exact (still isOpen.1).settled (.inr (.inr rfl))
    | cycleEnd =>
      simp only [at_] at isOpen
      show Settled { cycle with cut := false }
      rw [same]
      exact isOpen
  | measuring | sending | checkBusy | waiting | readOutcome | noting | delivering =>
    simp only [at_] at isOpen
    exact (still isOpen.1).settled (.inr (.inr rfl))
  | attaching | reading | branching => simp only [at_] at isOpen
  | firstAttachCall dbm => simp only [at_] at isOpen
  | timedOut | cycleEnd | beginWait | rebooting =>
    simp only [at_] at isOpen
    show Settled { cycle with cut := false }
    rw [same]
    exact isOpen
  | sleeping otaRetryWait =>
    simp only [at_] at isOpen
    show Settled { cycle with cut := false }
    rw [same]
    exact isOpen

/-! ## Steps of the sensor task -/

theorem Inv.moved {sensor after : SensorsTask} (inv : Inv sensor history)
    (opens : ∀ cycle, Open sensor cycle → Open after cycle) : Inv after history :=
  ⟨fun cycle current => ⟨opens cycle (inv.current cycle current).1, (inv.current cycle current).2⟩,
    inv.closed⟩

theorem Inv.updated {sensor after : SensorsTask} {change : CycleRecord → CycleRecord}
    (inv : Inv sensor history)
    (opens : ∀ cycle, Open sensor cycle → cycle.cut = false →
      Open after (change cycle) ∧ (change cycle).cut = false) :
    Inv after (history.update change) := by
  refine ⟨?_, inv.closed⟩
  intro changed current
  obtain ⟨cycle, before, rfl⟩ := Option.map_eq_some_iff.mp current
  obtain ⟨isOpen, uncut⟩ := inv.current cycle before
  exact opens cycle isOpen uncut

theorem Inv.closing {sensor after : SensorsTask} {cut : Bool} (inv : Inv sensor history)
    (settles : ∀ cycle, Open sensor cycle → cycle.cut = false → Settled { cycle with cut := cut }) :
    Inv after (history.close cut) := by
  refine ⟨fun cycle current => (by cases current), ?_⟩
  intro cycle listed
  rcases List.mem_append.mp listed with last | earlier
  · obtain ⟨before, current, rfl⟩ := List.mem_map.mp last
    obtain ⟨isOpen, uncut⟩ := inv.current before (Option.mem_toList.mp current)
    exact settles before isOpen uncut
  · exact inv.closed cycle earlier

theorem not_open {sensor : SensorsTask} {cycle : CycleRecord} (isOpen : Open sensor cycle)
    (at_ : sensor.pc = .attaching ∨ (∃ dbm, sensor.pc = .firstAttachCall dbm) ∨
      sensor.pc = .reading ∨ sensor.pc = .branching) : False := by
  unfold Open at isOpen
  rcases at_ with at_ | ⟨dbm, at_⟩ | at_ | at_ <;> simp only [at_] at isOpen

theorem Undecided.kept {sensor after : SensorsTask} {cycle : CycleRecord}
    (undecided : Undecided sensor cycle) (state : after.cycle.state = sensor.cycle.state)
    (otaOnly : after.cycle.otaOnly = sensor.cycle.otaOnly) : Undecided after cycle :=
  ⟨by rw [state]; exact undecided.pair, otaOnly.trans undecided.data, undecided.acked,
    undecided.appended⟩

theorem open_asked {sensor after : SensorsTask} {cycle : CycleRecord}
    (isOpen : Open sensor cycle) (at_ : sensor.pc = .measuring ∨ sensor.pc = .sending)
    (place : after.pc = .sending ∨ after.pc = .checkBusy)
    (state : after.cycle.state = sensor.cycle.state)
    (otaOnly : after.cycle.otaOnly = sensor.cycle.otaOnly) : Open after cycle := by
  have asked : Undecided sensor cycle ∧ cycle.busy = false ∧ cycle.idle = false := by
    unfold Open at isOpen
    rcases at_ with at_ | at_ <;> simpa only [at_] using isOpen
  unfold Open
  rcases place with place | place <;> simp only [place] <;>
    exact ⟨asked.1.kept state otaOnly, asked.2⟩

theorem inv_branch (inv : Inv system.sensor history) (viaAdc : Bool) :
    Inv (system.sensor.branch system.ota.sessionActive system.ota.updateDue viaAdc)
      (record system (.sensor .branch) history) := by
  refine ⟨?_, inv.closed⟩
  intro cycle current
  obtain ⟨pair, taken, rfl⟩ := Option.map_eq_some_iff.mp current
  obtain ⟨⟨-, idle, flagged⟩, same⟩ := Option.ite_none_right_eq_some.mp taken
  cases Option.some.inj same
  have moving : ¬ (system.sensor.wakeReason = .safeguardTimeout ∧
      system.sensor.cycle.heartbeatDelta = 0) := by
    rintro ⟨-, still⟩
    simp [SensorCycle.shouldWake, still] at flagged
  refine ⟨?_, rfl⟩
  unfold SensorsTask.branch
  simp only [idle, Bool.false_eq_true, if_false, moving, flagged, if_true]
  cases viaAdc <;> exact ⟨⟨rfl, rfl, rfl, rfl⟩, rfl, rfl⟩

theorem open_deliver {cycle : CycleRecord} (at_ : system.sensor.pc = .delivering)
    (isOpen : Open system.sensor cycle) (uncut : cycle.cut = false) (action : HpAction)
    (delivers : ∃ nowUs stateRead marked, action = .sensor (.deliver nowUs stateRead marked)) :
    Settled { cycle with
      acked := decide (ackDelivered system action = some cycle.pair)
      appended := decide (logAppended system action = some cycle.pair) } := by
  obtain ⟨nowUs, stateRead, marked, rfl⟩ := delivers
  unfold Open at isOpen
  simp only [at_] at isOpen
  obtain ⟨undecided, busy, idle⟩ := isOpen
  unfold ackDelivered logAppended Settled
  cases published : system.sensor.cycle.publishedOk <;>
    simp [at_, published, undecided.data, undecided.pair, busy, idle, uncut]

theorem inv_sensor {event : SensorEvent} (inv : Inv system.sensor history)
    (move : SensorMove env system event next) :
    Inv next.sensor (record system (.sensor event) history) := by
  cases move with
  | attached at_ => exact inv.moved fun cycle isOpen => (not_open isOpen (.inl at_)).elim
  | attachFailed at_ => exact inv.moved fun cycle isOpen => (not_open isOpen (.inl at_)).elim
  | firstAttachCall accepted at_ =>
    exact inv.moved fun cycle isOpen => (not_open isOpen (.inr (.inl ⟨_, at_⟩))).elim
  | revertCall accepted at_ =>
    apply inv.moved
    intro cycle isOpen
    unfold Open at isOpen
    simp only [at_] at isOpen
    rename_i dbm resume
    cases resume with
    | delivering =>
      exact ⟨⟨isOpen.1.pair, isOpen.1.data, isOpen.1.acked, isOpen.1.appended⟩, isOpen.2⟩
    | cycleEnd => exact isOpen
  | readState state at_ =>
    exact inv.moved fun cycle isOpen => (not_open isOpen (.inr (.inr (.inl at_)))).elim
  | branch at_ => exact inv_branch inv _
  | measure outcome at_ =>
    exact inv.moved fun cycle isOpen => open_asked isOpen (.inl at_) (.inl rfl) rfl rfl
  | sendRefused created at_ busy =>
    exact inv.moved fun cycle isOpen => open_asked isOpen (.inr at_) (.inr rfl) rfl rfl
  | sendFailed at_ free =>
    exact inv.moved fun cycle isOpen => open_asked isOpen (.inr at_) (.inr rfl) rfl rfl
  | sendStarted at_ free =>
    exact inv.moved fun cycle isOpen => open_asked isOpen (.inr at_) (.inr rfl) rfl rfl
  | isBusy at_ =>
    apply inv.updated
    intro cycle isOpen uncut
    refine ⟨?_, uncut⟩
    unfold Open at isOpen
    simp only [at_] at isOpen
    obtain ⟨undecided, -, idle⟩ := isOpen
    cases running : system.mqtt.taskRunning with
    | true =>
      exact ⟨⟨undecided.pair, undecided.data, undecided.acked, undecided.appended⟩, rfl, idle⟩
    | false =>
      have still : Undecided system.sensor { cycle with busy := false } :=
        ⟨undecided.pair, undecided.data, undecided.acked, undecided.appended⟩
      exact still.settled (.inl rfl)
  | waitDone at_ idle =>
    apply inv.updated
    intro cycle isOpen uncut
    unfold Open at isOpen
    simp only [at_] at isOpen
    obtain ⟨undecided, busy, -⟩ := isOpen
    exact ⟨⟨⟨undecided.pair, undecided.data, undecided.acked, undecided.appended⟩, busy, rfl⟩,
      uncut⟩
  | waitTimeout at_ =>
    apply inv.moved
    intro cycle isOpen
    unfold Open at isOpen
    simp only [at_] at isOpen
    exact isOpen.1.settled (.inr (.inl isOpen.2.2))
  | readOutcome at_ =>
    apply inv.moved
    intro cycle isOpen
    unfold Open at isOpen
    simp only [at_] at isOpen
    exact ⟨⟨isOpen.1.pair, isOpen.1.data, isOpen.1.acked, isOpen.1.appended⟩, isOpen.2⟩
  | note at_ =>
    apply inv.moved
    intro cycle isOpen
    unfold Open at isOpen ⊢
    simp only [at_] at isOpen
    rcases system.noteCycleResult_pc system.sensor.cycle.publishedOk .delivering with
      place | ⟨dbm, place⟩ <;> simp only [place] <;>
      exact ⟨isOpen.1.kept rfl rfl, isOpen.2⟩
  | deliver nowUs stateRead marked at_ =>
    apply inv.updated
    intro cycle isOpen uncut
    have settled := open_deliver at_ isOpen uncut _ ⟨nowUs, stateRead, marked, rfl⟩
    refine ⟨?_, uncut⟩
    unfold Open
    obtain ⟨log, checked, pending, same⟩ := system.deliver_eq nowUs stateRead marked
    rw [same]
    exact settled
  | timeoutInSession at_ active =>
    apply inv.moved
    intro cycle isOpen
    unfold Open at isOpen
    simp only [at_] at isOpen
    exact isOpen
  | timeoutNoted at_ inactive =>
    apply inv.moved
    intro cycle isOpen
    unfold Open at isOpen ⊢
    simp only [at_] at isOpen
    rcases system.noteCycleResult_pc false .cycleEnd with place | ⟨dbm, place⟩ <;>
      simp only [place] <;> exact isOpen
  | supervise stateRead at_ =>
    apply inv.moved
    intro cycle isOpen
    unfold Open at isOpen ⊢
    simp only [at_] at isOpen
    rcases system.supervise_pc stateRead with place | place <;> simp only [place] <;>
      exact isOpen
  | beginWait at_ =>
    apply inv.moved
    intro cycle isOpen
    unfold Open at isOpen
    simp only [at_] at isOpen
    exact isOpen
  | wake lpWoke at_ =>
    apply inv.closing
    intro cycle isOpen uncut
    have settled := open_cut isOpen uncut
    rw [at_] at settled
    exact settled

/-! ## Whole runs -/

theorem inv_step (state : Observed) (action : HpAction) (after : Observed)
    (inv : Inv state.1.sensor state.2) (taken : step env state action = some after) :
    Inv after.1.sensor after.2 := by
  obtain ⟨stepped, recorded⟩ := Runs.observe_step taken
  rw [recorded]
  obtain ⟨system, history⟩ := state
  obtain ⟨next, _⟩ := after
  cases step_move stepped with
  | sensor move => exact inv_sensor inv move
  | pub running leaves move => rw [pub_sensor move]; exact inv
  | tail => exact inv
  | client move => rw [client_sensor move]; exact inv
  | @ota _ event accepted _ running at_ inCycle stepped =>
    obtain ⟨radio, same⟩ := system.otaRadio_eq event accepted
    rw [same]
    exact inv
  | reset pendingVerify => exact inv.closing fun cycle isOpen uncut => open_cut isOpen uncut

/-- In every run, a reading that was taken up is kept exactly if its cycle waited
for a publish task and saw it end. -/
theorem kept_iff (env : HpEnv) (nvs : Nvs) (cyclesStarted : Nat) (pendingVerify : Bool)
    (actions : List HpAction) (final : Observed)
    (ran : Runs.run (step env) (boot env nvs cyclesStarted pendingVerify, {}) actions =
      some final) :
    ∀ cycle ∈ final.2.closed,
      (cycle.acked = true ∨ cycle.appended = true ↔
          cycle.busy = true ∧ cycle.idle = true ∧ cycle.cut = false) ∧
        ¬ (cycle.acked = true ∧ cycle.appended = true) := by
  have start : Inv (boot env nvs cyclesStarted pendingVerify).sensor {} :=
    ⟨(fun cycle current => by cases current), (fun cycle listed => by cases listed)⟩
  exact (Runs.run_invariant (fun state : Observed => Inv state.1.sensor state.2)
    (fun _ _ _ inv taken => inv_step _ _ _ inv taken) start ran).closed

def lostReading : List HpAction :=
  attachFirst ++ takeUp (reading 1 (.fin 21)) ++ waitTimesOut ++ sleepAndWake

def keptReading : List HpAction :=
  attachFirst ++ takeUp (reading 1 (.fin 21)) ++
    [.sensor .isBusy, .pub (.reachable false false), .pub .windowEnd, .pub .storeOk] ++
    publishEnd ++ noteOutcome ++ sleepAndWake

theorem kept_afterFailure :
    ∃ final, Runs.run (step benchEnv) (boot benchEnv Nvs.erased 0 false, {}) keptReading =
        some final ∧ final.2.closed.length = 1 ∧
      ∀ cycle ∈ final.2.closed,
        (cycle.acked = true ∨ cycle.appended = true ↔
            cycle.busy = true ∧ cycle.idle = true ∧ cycle.cut = false) ∧
          ¬ (cycle.acked = true ∧ cycle.appended = true) := by
  obtain ⟨final, ran, one⟩ := Runs.exists_final
    (fun final : Observed => decide (final.2.closed.length = 1))
    (show (Runs.run (step benchEnv) (boot benchEnv Nvs.erased 0 false, {}) keptReading).any _ = true
      by decide +kernel)
  exact ⟨final, ran, of_decide_eq_true one,
    kept_iff benchEnv Nvs.erased 0 false keptReading final ran⟩

theorem reading_lost :
    ¬ ∀ env nvs cyclesStarted pendingVerify actions final,
      Runs.run (step env) (boot env nvs cyclesStarted pendingVerify, {}) actions = some final →
      ∀ cycle ∈ final.2.closed, cycle.acked = true ∨ cycle.appended = true := by
  intro always
  obtain ⟨final, ran, lost⟩ := Runs.exists_final
    (fun final : Observed =>
      decide (∃ cycle ∈ final.2.closed, cycle.acked = false ∧ cycle.appended = false))
    (show (Runs.run (step benchEnv) (boot benchEnv Nvs.erased 0 false, {}) lostReading).any _ = true
      by decide +kernel)
  obtain ⟨cycle, listed, unacked, unappended⟩ := of_decide_eq_true lost
  have kept := always benchEnv Nvs.erased 0 false lostReading final ran cycle listed
  simp [unacked, unappended] at kept

end SleepySensor.FlaggedReading
