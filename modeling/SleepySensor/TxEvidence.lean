import SleepySensor.HpInvariant
import SleepySensor.Lib.History

/-!
# What a revert of a TX power trial rests on

`runtime_config_tx_power_note_cycle_result` counts reports of unhealthy cycles.
The history variables hold, for each publish cycle, how far it got, and the turns
of the sensor task that were counted since the trial started.
-/

set_option autoImplicit false

namespace SleepySensor.TxRevert

open HpSystem

/-- Why a turn is counted: it did not attach, or its publish was reported failed;
with the publish cycle that the turn had started. -/
inductive Failure where
  | unattached
  | publish (started : Option Nat)
  deriving DecidableEq, Repr

/-- `carrying`, `connected`, `sent`, `acked` and `unacked` are publish cycles: those
with data to send, those whose client connected, those whose state message was
sent, and was ACKed, and those whose wait for that ended without the bit. -/
structure History where
  carrying : List Nat := []
  connected : List Nat := []
  sent : List Nat := []
  acked : List Nat := []
  unacked : List Nat := []
  turn : Nat := 0
  counted : List (Nat × Failure) := []
  deriving DecidableEq, Repr

abbrev Observed := HpSystem × History

/-- The evidence against the outstanding trial that the step reports. -/
def counts (system : HpSystem) (action : HpAction) : Option Failure :=
  if system.config.tx.hasPending = true ∧ system.reported action = some false then
    match action with
    | .sensor (.attachGate _) => some .unattached
    | _ => some (.publish system.sensor.cycle.startedCycle)
  else none

def recordPub (system : HpSystem) (pub : Pub) (event : PubEvent) (history : History) : History :=
  match event with
  | .connectWait =>
    if system.mqtt.connectedBit then
      { history with connected := pub.cycle :: history.connected }
    else history
  | .publishState => { history with sent := pub.cycle :: history.sent }
  | .ackWait =>
    if system.mqtt.allAckedBit then history
    else { history with unacked := pub.cycle :: history.unacked }
  | .merge => if (startsTrial pub .merge).isSome then { history with counted := [] } else history
  | _ => history

def recordSensor (system : HpSystem) (event : SensorEvent) (history : History) : History :=
  match event with
  | .send created =>
    if system.mqtt.taskRunning = false ∧ created = true ∧
        system.sensor.cycle.otaOnly = false then
      { history with carrying := system.cyclesStarted :: history.carrying }
    else history
  | .wake _ => { history with turn := history.turn + 1 }
  | _ =>
    match counts system (.sensor event) with
    | some failure => { history with counted := (history.turn, failure) :: history.counted }
    | none => history

def record (system : HpSystem) (action : HpAction) (history : History) : History :=
  match action with
  | .sensor event => recordSensor system event history
  | .pub event =>
    match system.mqtt.pub with
    | some pub => recordPub system pub event history
    | none => history
  | .client _ =>
    match system.ackedState action with
    | some message => { history with acked := message.cycle :: history.acked }
    | none => history
  | .reset _ => {}
  | _ => history

def start (env : HpEnv) (nvs : Nvs) (cyclesStarted : Nat) (pendingVerify : Bool) : Observed :=
  (boot env nvs cyclesStarted pendingVerify, {})

def step (env : HpEnv) : Observed → HpAction → Option Observed :=
  Runs.observe (HpSystem.step env) record

/-- The link failed in a turn: it did not attach, or it had data to send and its
client did not connect, or its state message was never ACKed. -/
def RealFailure (history : History) : Failure → Prop
  | .unattached => True
  | .publish none => False
  | .publish (some cycle) =>
    cycle ∈ history.carrying ∧
      (cycle ∉ history.connected ∨ cycle ∈ history.sent ∧ cycle ∉ history.acked)

instance (history : History) : ∀ failure, Decidable (RealFailure history failure)
  | .unattached => isTrue trivial
  | .publish none => isFalse id
  | .publish (some cycle) =>
    inferInstanceAs (Decidable (cycle ∈ history.carrying ∧
      (cycle ∉ history.connected ∨ cycle ∈ history.sent ∧ cycle ∉ history.acked)))

/-- The step reverts the outstanding trial. -/
def reverts (system : HpSystem) (action : HpAction) : Bool :=
  (system.reported action).any fun ok => system.config.tx.cycleVerdict ok == .reverting

/-- A revert rests on enough turns, each counted once, in all of which the link
failed. -/
def RevertedForFailures (state : Observed) (action : HpAction) : Prop :=
  reverts state.1 action = true →
    let counted := (record state.1 action state.2).counted
    txPowerRevertAfterCycles ≤ counted.length ∧ (counted.map Prod.fst).Nodup ∧
      ∀ turn ∈ counted, RealFailure state.2 turn.2

instance (state : Observed) (action : HpAction) : Decidable (RevertedForFailures state action) := by
  unfold RevertedForFailures
  infer_instance

def isCounted (history : History) (cycle : Nat) : Bool :=
  history.counted.any fun turn => turn.2 == .publish (some cycle)

/-- With a trial outstanding: a failed result that is noted is of the data-carrying
publish that the same turn started; a publish that is given up has not been ACKed
and is not between its connect and its state message; a wait that ends without
the bit, and a turn that was counted, get no ACK afterwards, and the latter no
connection. -/
def LinkReported (state : Observed) : HpAction → Prop
  | .sensor .note =>
    state.1.config.tx.hasPending = true → state.1.sensor.cycle.publishedOk = false →
      state.1.sensor.cycle.otaOnly = false ∧ state.1.sensor.cycle.startedCycle.isSome = true ∧
        state.1.sensor.cycle.outcomeCycle = state.1.sensor.cycle.startedCycle
  | .sensor .timeoutCheck =>
    state.1.config.tx.hasPending = true → state.1.ota.sessionActive = false →
      state.1.sensor.cycle.otaOnly = false ∧ state.1.sensor.cycle.startedCycle.isSome = true ∧
        ∀ cycle ∈ state.1.sensor.cycle.startedCycle, cycle ∉ state.2.acked ∧
          (cycle ∉ state.2.connected ∨ cycle ∈ state.2.sent)
  | .pub .ackWait =>
    state.1.config.tx.hasPending = true → state.1.mqtt.allAckedBit = false →
      ∀ pub ∈ state.1.mqtt.pub, pub.cycle ∉ state.2.acked
  | .pub .connectWait =>
    state.1.config.tx.hasPending = true → state.1.mqtt.connectedBit = true →
      ∀ pub ∈ state.1.mqtt.pub, isCounted state.2 pub.cycle = false
  | .client (.published index) =>
    state.1.config.tx.hasPending = true →
      ∀ message ∈ state.1.ackedState (.client (.published index)),
        isCounted state.2 message.cycle = false ∧
          (state.1.sensor.cycle.startedCycle = some message.cycle →
            message.cycle ∉ state.2.unacked)
  | _ => True

instance (state : Observed) (action : HpAction) : Decidable (LinkReported state action) := by
  unfold LinkReported
  split <;> infer_instance

/-! ## The invariant -/

variable {env : HpEnv} {system next : HpSystem} {pub after : Pub} {history later : History}

/-- The client did not connect, or the wait for the ACK ended without the bit. -/
def Lost (history : History) (cycle : Nat) : Prop :=
  cycle ∉ history.connected ∨ cycle ∈ history.unacked

def connecting : PubPc → Bool
  | .begin | .deciding | .connecting => true
  | _ => false

structure PubFacts (history : History) (pub : Pub) : Prop where
  data : pub.cycle ∈ history.carrying → pub.params.hasAny = true
  early : connecting pub.pc = true → pub.cycle ∉ history.connected
  waiting : pub.pc = .ackWait → pub.cycle ∈ history.sent
  hopeful : rank pub.pc ≤ 2 → pub.cycle ∉ history.unacked
  ended : 2 ≤ rank pub.pc → pub.ok = false → pub.cycle ∈ history.carrying →
    Lost history pub.cycle

def unreported : SensorPc → Bool
  | .attaching | .firstAttachCall _ | .reading | .branching | .measuring | .sending => true
  | .checkBusy | .waiting | .readOutcome | .noting | .timedOut => true
  | _ => false

/-- The publish cycle whose result is kept is older than one that has not ended. -/
def Older (system : HpSystem) (cycle : Nat) : Prop :=
  cycle < system.cyclesStarted ∧
    ∀ pub ∈ system.mqtt.pub, pub.pc ≠ .clearRunning → cycle < pub.cycle

def beforeBranch : SensorPc → Bool
  | .attaching | .firstAttachCall _ | .reading | .branching => true
  | _ => false

/-- What is kept about publish cycles outside the sensor task. -/
structure PubSide (system : HpSystem) (history : History) : Prop where
  numbers : ∀ cycle, cycle ∈ history.carrying ∨ cycle ∈ history.connected ∨
    cycle ∈ history.unacked → cycle < system.cyclesStarted
  pub : ∀ pub ∈ system.mqtt.pub, PubFacts history pub
  older : ∀ cycle ∈ system.mqtt.lastOkCycle, Older system cycle
  last : system.mqtt.lastOk = false → ∀ cycle ∈ system.mqtt.lastOkCycle,
    cycle ∈ history.carrying → Lost history cycle

/-- What the locals of a turn say. -/
structure SensorSide (system : HpSystem) (history : History) : Prop where
  older : ∀ cycle ∈ system.sensor.cycle.outcomeCycle, Older system cycle
  outcome : system.sensor.cycle.publishedOk = false →
    ∀ cycle ∈ system.sensor.cycle.outcomeCycle, cycle ∈ history.carrying → Lost history cycle
  values : system.sensor.pc = .measuring ∨ system.sensor.pc = .sending →
    system.sensor.cycle.otaOnly = false → system.sensor.cycle.values.hasAny = true
  started : ∀ cycle ∈ system.sensor.cycle.startedCycle, cycle + 1 = system.cyclesStarted ∧
    (system.sensor.cycle.otaOnly = false → cycle ∈ history.carrying)
  unsent : beforeBranch system.sensor.pc = true → system.sensor.cycle.startedCycle = none

/-- What was counted against the outstanding trial. -/
structure TrialSide (system : HpSystem) (history : History) : Prop where
  missed : system.config.tx.hasPending = true →
    ∀ cycle ∈ system.sensor.cycle.startedCycle, cycle ∈ history.unacked →
      cycle ∈ history.sent ∧ cycle ∉ history.acked
  real : system.config.tx.hasPending = true →
    ∀ turn ∈ history.counted, RealFailure history turn.2
  number : system.config.tx.hasPending = true →
    system.config.tx.unconfirmedCycles = history.counted.length ∧
      history.counted.length < txPowerRevertAfterCycles
  nodup : (history.counted.map Prod.fst).Nodup
  turns : ∀ turn ∈ history.counted, turn.1 ≤ history.turn ∧
    (unreported system.sensor.pc = true → turn.1 < history.turn)

structure Inv (system : HpSystem) (history : History) : Prop where
  placed : Placed system
  publish : PubSide system history
  sensor : SensorSide system history
  trial : TrialSide system history

theorem inv_boot (env : HpEnv) (nvs : Nvs) (cyclesStarted : Nat) (pendingVerify : Bool) :
    Inv (boot env nvs cyclesStarted pendingVerify) {} := by
  refine ⟨placed_boot env nvs cyclesStarted pendingVerify, ⟨?_, ?_, ?_, ?_⟩, ⟨?_, ?_, ?_, ?_, ?_⟩,
    ⟨?_, ?_, ?_, ?_, ?_⟩⟩
  · simp
  · rintro pub ⟨⟩
  · rintro cycle ⟨⟩
  · rintro - cycle ⟨⟩
  · rintro cycle ⟨⟩
  · rintro - cycle ⟨⟩
  · rintro (at_ | at_) <;> cases at_
  · rintro cycle ⟨⟩
  · intro _
    rfl
  · rintro - cycle ⟨⟩
  · rintro - turn ⟨⟩
  · intro _
    refine ⟨?_, by decide⟩
    simp [boot, RuntimeConfig.boot]
  · exact List.nodup_nil
  · rintro turn ⟨⟩

/-! ## The sensor task -/

theorem PubSide.frame (side : PubSide system history) (pub : next.mqtt.pub = system.mqtt.pub)
    (lastOk : next.mqtt.lastOk = system.mqtt.lastOk)
    (lastOkCycle : next.mqtt.lastOkCycle = system.mqtt.lastOkCycle)
    (started : next.cyclesStarted = system.cyclesStarted) : PubSide next history := by
  refine ⟨?_, ?_, ?_, ?_⟩
  · rw [started]
    exact side.numbers
  · rw [pub]
    exact side.pub
  · rw [lastOkCycle]
    intro cycle same
    unfold Older
    rw [started, pub]
    exact side.older cycle same
  · rw [lastOk, lastOkCycle]
    exact side.last

theorem PubSide.recounted (side : PubSide system history) (turn : Nat)
    (counted : List (Nat × Failure)) :
    PubSide system { history with turn := turn, counted := counted } := by
  refine ⟨side.numbers, ?_, side.older, side.last⟩
  intro pub running
  have facts := side.pub pub running
  exact ⟨facts.data, facts.early, facts.waiting, facts.hopeful, facts.ended⟩

theorem SensorSide.recounted (side : SensorSide system history) (turn : Nat)
    (counted : List (Nat × Failure)) :
    SensorSide system { history with turn := turn, counted := counted } :=
  ⟨side.older, side.outcome, side.values, side.started, side.unsent⟩

theorem SensorSide.frame (side : SensorSide system history)
    (pub : next.mqtt.pub = system.mqtt.pub) (started : next.cyclesStarted = system.cyclesStarted)
    (published : next.sensor.cycle.publishedOk = system.sensor.cycle.publishedOk)
    (outcome : next.sensor.cycle.outcomeCycle = system.sensor.cycle.outcomeCycle)
    (own : next.sensor.cycle.startedCycle = system.sensor.cycle.startedCycle)
    (otaOnly : beforeBranch system.sensor.pc = true ∨
      next.sensor.cycle.otaOnly = system.sensor.cycle.otaOnly)
    (values : next.sensor.pc = .measuring ∨ next.sensor.pc = .sending →
      next.sensor.cycle.otaOnly = false → next.sensor.cycle.values.hasAny = true)
    (before : beforeBranch next.sensor.pc = true → beforeBranch system.sensor.pc = true) :
    SensorSide next history := by
  refine ⟨?_, ?_, values, ?_, ?_⟩
  · rw [outcome]
    intro cycle same
    unfold Older
    rw [started, pub]
    exact side.older cycle same
  · rw [published, outcome]
    exact side.outcome
  · rw [own, started]
    rcases otaOnly with early | same
    · rw [side.unsent early]
      rintro cycle ⟨⟩
    · rw [same]
      exact side.started
  · rw [own]
    exact fun early => side.unsent (before early)

theorem TrialSide.frame (side : TrialSide system history)
    (tx : next.config.tx.hasPending = true → system.config.tx.hasPending = true ∧
      next.config.tx.unconfirmedCycles = system.config.tx.unconfirmedCycles)
    (own : next.sensor.cycle.startedCycle = system.sensor.cycle.startedCycle ∨
      next.sensor.cycle.startedCycle = none)
    (still : unreported next.sensor.pc = true → unreported system.sensor.pc = true) :
    TrialSide next history := by
  refine ⟨?_, fun out => side.real (tx out).1, ?_, side.nodup, ?_⟩
  · intro out cycle same
    rcases own with kept | gone
    · rw [kept] at same
      exact side.missed (tx out).1 cycle same
    · rw [gone] at same
      cases same
  · intro out
    rw [(tx out).2]
    exact side.number (tx out).1
  · intro turn member
    obtain ⟨below, strict⟩ := side.turns turn member
    exact ⟨below, fun open_ => strict (still open_)⟩

/-- The locals that say which publish a turn is about. -/
structure SameLocals (before after : SensorCycle) : Prop where
  published : after.publishedOk = before.publishedOk
  outcome : after.outcomeCycle = before.outcomeCycle
  own : after.startedCycle = before.startedCycle
  otaOnly : after.otaOnly = before.otaOnly

theorem Inv.turned (inv : Inv system history) (placed : Placed next)
    (pub : next.mqtt.pub = system.mqtt.pub) (lastOk : next.mqtt.lastOk = system.mqtt.lastOk)
    (lastOkCycle : next.mqtt.lastOkCycle = system.mqtt.lastOkCycle)
    (started : next.cyclesStarted = system.cyclesStarted)
    (tx : next.config.tx.hasPending = true → system.config.tx.hasPending = true ∧
      next.config.tx.unconfirmedCycles = system.config.tx.unconfirmedCycles)
    (locals : SameLocals system.sensor.cycle next.sensor.cycle)
    (place : next.sensor.pc ≠ .measuring ∧ next.sensor.pc ≠ .sending)
    (before : beforeBranch next.sensor.pc = true → beforeBranch system.sensor.pc = true)
    (still : unreported next.sensor.pc = true → unreported system.sensor.pc = true) :
    Inv next history := by
  refine ⟨placed, inv.publish.frame pub lastOk lastOkCycle started,
    inv.sensor.frame pub started locals.published locals.outcome locals.own
      (.inr locals.otaOnly) ?_ before,
    inv.trial.frame tx (.inl locals.own) still⟩
  rintro (at_ | at_)
  · exact (place.1 at_).elim
  · exact (place.2 at_).elim

theorem TrialSide.turn_new (side : TrialSide system history)
    (open_ : unreported system.sensor.pc = true) :
    history.turn ∉ history.counted.map Prod.fst := by
  intro again
  obtain ⟨turn, member, same⟩ := List.mem_map.mp again
  have strict := (side.turns turn member).2 open_
  rw [same] at strict
  exact absurd strict (lt_irrefl _)

theorem TrialSide.report {ok : Bool} {failure : Failure} (side : TrialSide system history)
    (resume : AfterNote) (open_ : unreported system.sensor.pc = true)
    (real : system.config.tx.hasPending = true → ok = false → RealFailure history failure) :
    TrialSide (system.noteCycleResult ok resume)
      (if system.config.tx.hasPending = true ∧ ok = false then
        { history with counted := (history.turn, failure) :: history.counted }
      else history) := by
  have done : unreported (system.noteCycleResult ok resume).sensor.pc = false := by
    rcases noteCycleResult_pc system ok resume with place | ⟨dbm, place⟩ <;> rw [place]
    · cases resume <;> rfl
    · rfl
  have noted : (system.noteCycleResult ok resume).config.tx =
      system.config.tx.noteCycleResult ok := rfl
  have own : (system.noteCycleResult ok resume).sensor.cycle = system.sensor.cycle := rfl
  have outstanding : (system.noteCycleResult ok resume).config.tx.hasPending = true →
      system.config.tx.hasPending = true ∧ system.config.tx.cycleVerdict ok = .counted := by
    rw [noted]
    intro out
    obtain ⟨still, -, verdict⟩ := TxPower.noteCycleResult_outstanding out
    exact ⟨still, verdict⟩
  by_cases counting : system.config.tx.hasPending = true ∧ ok = false
  · rw [if_pos counting]
    refine ⟨?_, ?_, ?_, ?_, ?_⟩
    · rw [own]
      exact fun _ => side.missed counting.1
    · intro _ turn member
      rcases List.mem_cons.mp member with rfl | earlier
      · exact real counting.1 counting.2
      · exact side.real counting.1 turn earlier
    · intro out
      obtain ⟨number, few⟩ := side.number counting.1
      have verdict := (outstanding out).2
      rw [noted]
      unfold TxPower.noteCycleResult
      rw [verdict]
      unfold TxPower.cycleVerdict at verdict
      rw [counting.1, counting.2, number] at verdict
      unfold txPowerRevertAfterCycles at few verdict ⊢
      have noWrap : u32 (history.counted.length + 1) = history.counted.length + 1 := by
        unfold u32 u32Mod
        exact Nat.mod_eq_of_lt (by omega)
      rw [noWrap] at verdict
      refine ⟨by rw [number, noWrap]; rfl, ?_⟩
      by_contra enough
      simp only [List.length_cons] at enough
      rw [if_neg enough] at verdict
      simp at verdict
    · rw [List.map_cons, List.nodup_cons]
      exact ⟨side.turn_new open_, side.nodup⟩
    · intro turn member
      rw [done]
      refine ⟨?_, fun absurd => by cases absurd⟩
      rcases List.mem_cons.mp member with rfl | earlier
      · exact le_rfl
      · exact (side.turns turn earlier).1
  · rw [if_neg counting]
    have ended : (system.noteCycleResult ok resume).config.tx.hasPending ≠ true := by
      intro out
      obtain ⟨was, verdict⟩ := outstanding out
      refine counting ⟨was, ?_⟩
      cases ok with
      | false => rfl
      | true =>
        unfold TxPower.cycleVerdict at verdict
        rw [was] at verdict
        cases verdict
    refine ⟨fun out => (ended out).elim, fun out => (ended out).elim, fun out => (ended out).elim,
      side.nodup, ?_⟩
    intro turn member
    rw [done]
    exact ⟨(side.turns turn member).1, fun absurd => by cases absurd⟩

theorem record_quiet {event : SensorEvent} (quiet : system.reported (.sensor event) = none)
    (notSend : ∀ created, event ≠ .send created) (notWake : ∀ lpWoke, event ≠ .wake lpWoke) :
    record system (.sensor event) history = history := by
  have none : counts system (.sensor event) = none := by
    unfold counts
    rw [quiet]
    simp
  unfold record recordSensor
  cases event with
  | send created => exact (notSend created rfl).elim
  | wake lpWoke => exact (notWake lpWoke rfl).elim
  | _ =>
    dsimp only
    rw [none]

theorem record_report {event : SensorEvent} {ok : Bool} {failure : Failure}
    (reported : system.reported (.sensor event) = some ok)
    (kind : counts system (.sensor event) =
      if system.config.tx.hasPending = true ∧ ok = false then some failure else none) :
    record system (.sensor event) history =
      if system.config.tx.hasPending = true ∧ ok = false then
        { history with counted := (history.turn, failure) :: history.counted }
      else history := by
  unfold record recordSensor
  cases event with
  | send created => cases reported
  | wake lpWoke => cases reported
  | _ =>
    dsimp only
    by_cases counting : system.config.tx.hasPending = true ∧ ok = false
    · rw [kind, if_pos counting, if_pos counting]
    · rw [kind, if_neg counting, if_neg counting]

theorem inv_report {event : SensorEvent} {ok : Bool} {failure : Failure} (inv : Inv system history)
    (resume : AfterNote) (placed : Placed (system.noteCycleResult ok resume))
    (open_ : unreported system.sensor.pc = true)
    (recorded : record system (.sensor event) history =
      if system.config.tx.hasPending = true ∧ ok = false then
        { history with counted := (history.turn, failure) :: history.counted }
      else history)
    (real : system.config.tx.hasPending = true → ok = false → RealFailure history failure) :
    Inv (system.noteCycleResult ok resume) (record system (.sensor event) history) := by
  have place : (system.noteCycleResult ok resume).sensor.pc ≠ .measuring ∧
      (system.noteCycleResult ok resume).sensor.pc ≠ .sending ∧
      beforeBranch (system.noteCycleResult ok resume).sensor.pc = false := by
    rcases noteCycleResult_pc system ok resume with same | ⟨dbm, same⟩ <;> rw [same]
    · cases resume <;> exact ⟨by simp [AfterNote.pc], by simp [AfterNote.pc], rfl⟩
    · exact ⟨by simp, by simp, rfl⟩
  have publish : PubSide (system.noteCycleResult ok resume) history :=
    inv.publish.frame rfl rfl rfl rfl
  have sensor : SensorSide (system.noteCycleResult ok resume) history := by
    refine inv.sensor.frame rfl rfl rfl rfl rfl (.inr rfl) ?_ ?_
    · rintro (at_ | at_)
      · exact (place.1 at_).elim
      · exact (place.2.1 at_).elim
    · rw [place.2.2]
      exact fun absurd => by cases absurd
  have trial := inv.trial.report resume open_ real
  rw [recorded]
  split
  case isTrue counting =>
    rw [if_pos counting] at trial
    exact ⟨placed, publish.recounted _ _, sensor.recounted _ _, trial⟩
  case isFalse quiet =>
    rw [if_neg quiet] at trial
    exact ⟨placed, publish, sensor, trial⟩

/-- A failed result that a turn notes of its own publish is a failure of the link. -/
theorem Inv.noted_real (inv : Inv system history)
    (met : LinkReported (system, history) (.sensor .note))
    (out : system.config.tx.hasPending = true)
    (failed : system.sensor.cycle.publishedOk = false) :
    RealFailure history (.publish system.sensor.cycle.startedCycle) := by
  obtain ⟨data, some_, same⟩ := met out failed
  obtain ⟨cycle, started⟩ := Option.isSome_iff_exists.mp some_
  have started : system.sensor.cycle.startedCycle = some cycle := started
  have carrying := (inv.sensor.started cycle started).2 data
  rw [started]
  refine ⟨carrying, ?_⟩
  rcases inv.sensor.outcome failed cycle (same.trans started) carrying with away | unacked
  · exact .inl away
  · exact .inr (inv.trial.missed out cycle started unacked)

theorem Inv.timedOut_real (inv : Inv system history)
    (met : LinkReported (system, history) (.sensor .timeoutCheck))
    (out : system.config.tx.hasPending = true) (inactive : system.ota.sessionActive = false) :
    RealFailure history (.publish system.sensor.cycle.startedCycle) := by
  obtain ⟨data, some_, own⟩ := met out inactive
  obtain ⟨cycle, started⟩ := Option.isSome_iff_exists.mp some_
  have started : system.sensor.cycle.startedCycle = some cycle := started
  obtain ⟨unacked, place⟩ := own cycle started
  rw [started]
  exact ⟨(inv.sensor.started cycle started).2 data, place.imp_right fun sent => ⟨sent, unacked⟩⟩

theorem inv_branch (inv : Inv system history) (at_ : system.sensor.pc = .branching)
    (inSession due viaAdc : Bool)
    (placed : Placed (system.withSensor (system.sensor.branch inSession due viaAdc))) :
    Inv (system.withSensor (system.sensor.branch inSession due viaAdc)) history := by
  obtain ⟨quiet, stalled, otaOnly, values, pc, same, place, flagged⟩ :=
    system.sensor.branch_eq inSession due viaAdc
  have early : beforeBranch system.sensor.pc = true := by rw [at_]; rfl
  rw [same] at placed ⊢
  refine ⟨placed, inv.publish.frame rfl rfl rfl rfl,
    inv.sensor.frame rfl rfl rfl rfl rfl (.inl early) ?_ (fun _ => early),
    inv.trial.frame (fun out => ⟨out, rfl⟩) (.inl rfl) (fun _ => by rw [at_]; rfl)⟩
  intro publishing data
  have moved : pc ≠ .cycleEnd := by
    rintro rfl
    rcases publishing with absurd | absurd <;> cases absurd
  have filled := flagged moved data
  show values.hasAny = true
  rw [filled]
  rfl

theorem hasAny_withBattery (values : PublishParams) (outcome : AdcOutcome) :
    (SensorCycle.withBattery values outcome).hasAny = values.hasAny := by
  unfold SensorCycle.withBattery
  split <;> rfl

theorem inv_notStarted {mqtt : MqttSender} (inv : Inv system history)
    (pub : mqtt.pub = system.mqtt.pub) (lastOk : mqtt.lastOk = system.mqtt.lastOk)
    (lastOkCycle : mqtt.lastOkCycle = system.mqtt.lastOkCycle)
    (at_ : system.sensor.pc = .sending)
    (placed : Placed { system with mqtt := mqtt, sensor := sent system.sensor none }) :
    Inv { system with mqtt := mqtt, sensor := sent system.sensor none } history := by
  refine ⟨placed, inv.publish.frame pub lastOk lastOkCycle rfl,
    ⟨?_, inv.sensor.outcome, ?_, ?_, ?_⟩,
    inv.trial.frame (fun out => ⟨out, rfl⟩) (.inr rfl) (fun _ => by rw [at_]; rfl)⟩
  · intro cycle same
    unfold Older
    rw [pub]
    exact inv.sensor.older cycle same
  · rintro (absurd | absurd) <;> cases absurd
  · rintro cycle ⟨⟩
  · rintro ⟨⟩

theorem RealFailure.mono {failure : Failure} (real : RealFailure history failure)
    (carrying : history.carrying ⊆ later.carrying)
    (connected : ∀ cycle, failure = .publish (some cycle) → cycle ∈ later.connected →
      cycle ∈ history.connected)
    (sent : history.sent ⊆ later.sent)
    (acked : ∀ cycle, failure = .publish (some cycle) → cycle ∈ later.acked →
      cycle ∈ history.acked) : RealFailure later failure := by
  cases failure with
  | unattached => trivial
  | publish started =>
    cases started with
    | none => exact real
    | some cycle =>
      obtain ⟨carried, away | ⟨wasSent, unacked⟩⟩ := real
      · exact ⟨carrying carried, .inl fun now => away (connected cycle rfl now)⟩
      · exact ⟨carrying carried, .inr ⟨sent wasSent, fun now => unacked (acked cycle rfl now)⟩⟩

theorem inv_sendStarted (inv : Inv system history) (at_ : system.sensor.pc = .sending)
    (carrying : List Nat)
    (grown : carrying = if system.sensor.cycle.otaOnly = false then
      system.cyclesStarted :: history.carrying else history.carrying)
    (placed : Placed { system with
      mqtt :=
        { system.mqtt with
          taskRunning := true, idleBit := false
          pub := some { cycle := system.cyclesStarted, params := system.sensor.cycle.values } }
      sensor := sent system.sensor (some system.cyclesStarted)
      cyclesStarted := system.cyclesStarted + 1 }) :
    Inv { system with
      mqtt :=
        { system.mqtt with
          taskRunning := true, idleBit := false
          pub := some { cycle := system.cyclesStarted, params := system.sensor.cycle.values } }
      sensor := sent system.sensor (some system.cyclesStarted)
      cyclesStarted := system.cyclesStarted + 1 } { history with carrying := carrying } := by
  have fresh : ∀ cycle, cycle ∈ history.carrying ∨ cycle ∈ history.connected ∨
      cycle ∈ history.unacked → cycle ≠ system.cyclesStarted := by
    intro cycle known
    exact Nat.ne_of_lt (inv.publish.numbers cycle known)
  have new : ∀ cycle ∈ carrying, cycle = system.cyclesStarted ∧
      system.sensor.cycle.otaOnly = false ∨ cycle ∈ history.carrying := by
    intro cycle member
    rw [grown] at member
    split at member
    case isTrue data =>
      rcases List.mem_cons.mp member with same | before
      · exact .inl ⟨same, data⟩
      · exact .inr before
    case isFalse => exact .inr member
  have kept : history.carrying ⊆ carrying := by
    rw [grown]
    split
    · exact List.subset_cons_self _ _
    · exact List.Subset.refl _
  have older : ∀ cycle, Older system cycle →
      (cycle < system.cyclesStarted + 1 ∧ cycle < system.cyclesStarted) := by
    intro cycle below
    exact ⟨Nat.lt_succ_of_lt below.1, below.1⟩
  refine ⟨placed, ⟨?_, ?_, ?_, ?_⟩, ⟨?_, ?_, ?_, ?_, ?_⟩, ⟨?_, ?_, inv.trial.number,
    inv.trial.nodup, ?_⟩⟩
  · rintro cycle (member | known)
    · rcases new cycle member with ⟨rfl, -⟩ | before
      · exact Nat.lt_succ_self _
      · exact Nat.lt_succ_of_lt (inv.publish.numbers cycle (.inl before))
    · exact Nat.lt_succ_of_lt (inv.publish.numbers cycle (.inr known))
  · rintro pub ⟨⟩
    refine ⟨?_, ?_, (fun waiting => by cases waiting), ?_, (fun late => by cases late)⟩
    · intro member
      rcases new _ member with ⟨-, data⟩ | before
      · exact inv.sensor.values (.inr at_) data
      · exact (fresh _ (.inl before) rfl).elim
    · exact fun _ member => fresh _ (.inr (.inl member)) rfl
    · exact fun _ member => fresh _ (.inr (.inr member)) rfl
  · intro cycle same
    obtain ⟨below, strict⟩ := older cycle (inv.publish.older cycle same)
    refine ⟨below, ?_⟩
    rintro pub ⟨⟩ -
    exact strict
  · intro failed cycle same member
    rcases new cycle member with ⟨rfl, -⟩ | before
    · exact absurd (inv.publish.older _ same).1 (lt_irrefl _)
    · exact inv.publish.last failed cycle same before
  · intro cycle same
    obtain ⟨below, strict⟩ := older cycle (inv.sensor.older cycle same)
    refine ⟨below, ?_⟩
    rintro pub ⟨⟩ -
    exact strict
  · intro failed cycle same member
    rcases new cycle member with ⟨rfl, -⟩ | before
    · exact absurd (inv.sensor.older _ same).1 (lt_irrefl _)
    · exact inv.sensor.outcome failed cycle same before
  · rintro (absurd | absurd) <;> cases absurd
  · rintro cycle ⟨⟩
    refine ⟨rfl, fun data => ?_⟩
    have data : system.sensor.cycle.otaOnly = false := data
    rw [grown, if_pos data]
    exact List.mem_cons_self
  · rintro ⟨⟩
  · rintro - cycle ⟨⟩ unacked
    exact (fresh _ (.inr (.inr unacked)) rfl).elim
  · intro out turn member
    exact (inv.trial.real out turn member).mono kept (fun _ _ => id) (List.Subset.refl _)
      (fun _ _ => id)
  · intro turn member
    obtain ⟨below, strict⟩ := inv.trial.turns turn member
    exact ⟨below, fun _ => strict (by rw [at_]; rfl)⟩

theorem inv_readOutcome (inv : Inv system history) (at_ : system.sensor.pc = .readOutcome)
    (placed : Placed system.readOutcome) : Inv system.readOutcome history := by
  refine ⟨placed, inv.publish.frame rfl rfl rfl rfl,
    ⟨inv.publish.older, inv.publish.last, ?_, inv.sensor.started, ?_⟩,
    inv.trial.frame (fun out => ⟨out, rfl⟩) (.inl rfl) (fun _ => by rw [at_]; rfl)⟩
  · rintro (absurd | absurd) <;> cases absurd
  · rintro ⟨⟩

theorem inv_wake (inv : Inv system history) (otaRetryWait lpWoke : Bool)
    (placed : Placed (system.withSensor (system.sensor.wake otaRetryWait lpWoke))) :
    Inv (system.withSensor (system.sensor.wake otaRetryWait lpWoke))
      { history with turn := history.turn + 1 } := by
  refine ⟨placed, (inv.publish.recounted _ _).frame rfl rfl rfl rfl, ⟨?_, ?_, ?_, ?_, fun _ => rfl⟩,
    ⟨?_, inv.trial.real, inv.trial.number, inv.trial.nodup, ?_⟩⟩
  · rintro cycle ⟨⟩
  · rintro - cycle ⟨⟩
  · rintro (absurd | absurd) <;> cases absurd
  · rintro cycle ⟨⟩
  · rintro - cycle ⟨⟩
  · intro turn member
    have below := (inv.trial.turns turn member).1
    exact ⟨Nat.le_succ_of_le below, fun _ => Nat.lt_succ_of_le below⟩

theorem inv_attached (inv : Inv system history) (at_ : system.sensor.pc = .attaching)
    (placed : Placed system.attachReady) : Inv system.attachReady history := by
  refine inv.turned placed rfl rfl rfl rfl ?_ ⟨rfl, rfl, rfl, rfl⟩ ?_ ?_ ?_
  · intro out
    obtain ⟨-, same⟩ := TxPower.noteFirstAttach_outstanding out
    have tx : system.attachReady.config.tx = system.config.tx := congrArg Prod.fst same
    rw [tx] at out ⊢
    exact ⟨out, rfl⟩
  · simp only [attachReady]
    split <;> simp
  · rw [at_]
    exact fun _ => rfl
  · rw [at_]
    exact fun _ => rfl

theorem inv_firstAttachCall {dbm : Int} {accepted : Bool} (inv : Inv system history)
    (at_ : system.sensor.pc = .firstAttachCall dbm)
    (placed : Placed ((system.applyTxPower dbm accepted).atSensorPc .reading)) :
    Inv ((system.applyTxPower dbm accepted).atSensorPc .reading) history := by
  refine inv.turned placed rfl rfl rfl rfl ?_ ⟨rfl, rfl, rfl, rfl⟩ ?_ ?_ ?_
  · intro out
    refine ⟨(TxPower.applied_hasPending _ _ _).symm.trans out, ?_⟩
    exact TxPower.applied_unconfirmedCycles _ _ _
  · simp [atSensorPc, withSensor]
  · rw [at_]
    exact fun _ => rfl
  · rw [at_]
    exact fun _ => rfl

theorem inv_finishRevert {dbm : Int} {resume : AfterNote} {accepted : Bool}
    (inv : Inv system history) (placed : Placed (system.finishRevert dbm resume accepted)) :
    Inv (system.finishRevert dbm resume accepted) history := by
  refine inv.turned placed rfl rfl rfl rfl ?_ ⟨rfl, rfl, rfl, rfl⟩ ?_ ?_ ?_
  · intro out
    refine ⟨(TxPower.applied_hasPending _ _ _).symm.trans out, ?_⟩
    exact TxPower.applied_unconfirmedCycles _ _ _
  · cases resume <;> exact ⟨by simp [finishRevert, AfterNote.pc],
      by simp [finishRevert, AfterNote.pc]⟩
  · cases resume <;> rintro ⟨⟩
  · cases resume <;> rintro ⟨⟩

theorem inv_readState {state : LpSnapshot} (inv : Inv system history)
    (at_ : system.sensor.pc = .reading)
    (placed : Placed (system.withSensor (system.sensor.takeState state))) :
    Inv (system.withSensor (system.sensor.takeState state)) history := by
  obtain ⟨delta, progressed, taken⟩ := system.sensor.takeState_eq state
  rw [taken] at placed ⊢
  refine ⟨placed, inv.publish.frame rfl rfl rfl rfl,
    inv.sensor.frame rfl rfl rfl rfl rfl (.inr rfl) ?_ (fun _ => by rw [at_]; rfl),
    inv.trial.frame (fun out => ⟨out, rfl⟩) (.inl rfl) (fun _ => by rw [at_]; rfl)⟩
  rintro (absurd | absurd) <;> cases absurd

theorem inv_measure {outcome : AdcOutcome} (inv : Inv system history)
    (at_ : system.sensor.pc = .measuring)
    (placed : Placed (system.withSensor (system.sensor.measure outcome))) :
    Inv (system.withSensor (system.sensor.measure outcome)) history := by
  refine ⟨placed, inv.publish.frame rfl rfl rfl rfl,
    inv.sensor.frame rfl rfl rfl rfl rfl (.inr rfl) ?_ (by rintro ⟨⟩),
    inv.trial.frame (fun out => ⟨out, rfl⟩) (.inl rfl) (fun _ => by rw [at_]; rfl)⟩
  intro _ data
  exact (hasAny_withBattery _ outcome).trans (inv.sensor.values (.inl at_) data)

theorem inv_isBusy (inv : Inv system history) (at_ : system.sensor.pc = .checkBusy)
    (placed : Placed
      (system.atSensorPc (if system.mqtt.taskRunning then .waiting else .cycleEnd))) :
    Inv (system.atSensorPc (if system.mqtt.taskRunning then .waiting else .cycleEnd)) history := by
  refine inv.turned placed rfl rfl rfl rfl (fun out => ⟨out, rfl⟩) ⟨rfl, rfl, rfl, rfl⟩ ?_ ?_
    (fun _ => by rw [at_]; rfl)
  · simp only [atSensorPc, withSensor]
    split <;> simp
  · simp only [atSensorPc, withSensor]
    split <;> rintro ⟨⟩

theorem inv_supervise {stateRead : Bool} (inv : Inv system history)
    (placed : Placed (system.supervise stateRead)) : Inv (system.supervise stateRead) history := by
  refine inv.turned placed rfl rfl rfl rfl (fun out => ⟨out, rfl⟩) ⟨rfl, rfl, rfl, rfl⟩ ?_ ?_ ?_ <;>
    rcases supervise_pc system stateRead with same | same <;> rw [same] <;>
      simp [beforeBranch, unreported]

theorem inv_attachFailed (inv : Inv system history) (at_ : system.sensor.pc = .attaching)
    (placed : Placed (system.noteCycleResult false .cycleEnd)) :
    Inv (system.noteCycleResult false .cycleEnd)
      (record system (.sensor (.attachGate false)) history) := by
  have result : system.reported (.sensor (.attachGate false)) = some false := by
    simp [reported, at_]
  have kind : counts system (.sensor (.attachGate false)) =
      if system.config.tx.hasPending = true ∧ false = false then some .unattached else none := by
    simp [counts, result]
  exact inv_report inv .cycleEnd placed (by rw [at_]; rfl) (record_report result kind)
    (fun _ _ => trivial)

theorem inv_sensor {event : SensorEvent} (inv : Inv system history)
    (met : LinkReported (system, history) (.sensor event))
    (move : SensorMove env system event next) :
    Inv next (record system (.sensor event) history) := by
  have placed := placed_sensor inv.placed move
  have quiet : system.reported (.sensor event) = none → (∀ created, event ≠ .send created) →
      (∀ lpWoke, event ≠ .wake lpWoke) → Inv next history →
      Inv next (record system (.sensor event) history) := by
    intro none notSend notWake kept
    rw [record_quiet none notSend notWake]
    exact kept
  cases move with
  | attached at_ => exact quiet rfl (by simp) (by simp) (inv_attached inv at_ placed)
  | attachFailed at_ => exact inv_attachFailed inv at_ placed
  | firstAttachCall accepted at_ =>
    exact quiet rfl (by simp) (by simp) (inv_firstAttachCall inv at_ placed)
  | revertCall accepted at_ => exact quiet rfl (by simp) (by simp) (inv_finishRevert inv placed)
  | readState state at_ => exact quiet rfl (by simp) (by simp) (inv_readState inv at_ placed)
  | branch at_ => exact quiet rfl (by simp) (by simp) (inv_branch inv at_ _ _ _ placed)
  | measure outcome at_ => exact quiet rfl (by simp) (by simp) (inv_measure inv at_ placed)
  | sendRefused created at_ busy =>
    have recorded : record system (.sensor (.send created)) history = history := by
      simp [record, recordSensor, busy]
    rw [recorded]
    exact inv_notStarted inv rfl rfl rfl at_ placed
  | sendFailed at_ free =>
    have recorded : record system (.sensor (.send false)) history = history := by
      simp [record, recordSensor]
    rw [recorded]
    exact inv_notStarted inv rfl rfl rfl at_ placed
  | sendStarted at_ free =>
    have recorded : record system (.sensor (.send true)) history =
        { history with
          carrying := if system.sensor.cycle.otaOnly = false then
            system.cyclesStarted :: history.carrying else history.carrying } := by
      cases data : system.sensor.cycle.otaOnly <;> simp [record, recordSensor, free, data]
    rw [recorded]
    exact inv_sendStarted inv at_ _ rfl placed
  | isBusy at_ => exact quiet rfl (by simp) (by simp) (inv_isBusy inv at_ placed)
  | waitDone at_ idle =>
    exact quiet rfl (by simp) (by simp)
      (inv.turned placed rfl rfl rfl rfl (fun out => ⟨out, rfl⟩) ⟨rfl, rfl, rfl, rfl⟩
        (by simp [atSensorPc, withSensor]) (by rintro ⟨⟩) (fun _ => by rw [at_]; rfl))
  | waitTimeout at_ =>
    exact quiet rfl (by simp) (by simp)
      (inv.turned placed rfl rfl rfl rfl (fun out => ⟨out, rfl⟩) ⟨rfl, rfl, rfl, rfl⟩
        (by simp [atSensorPc, withSensor]) (by rintro ⟨⟩) (fun _ => by rw [at_]; rfl))
  | readOutcome at_ => exact quiet rfl (by simp) (by simp) (inv_readOutcome inv at_ placed)
  | note at_ =>
    have result : system.reported (.sensor .note) = some system.sensor.cycle.publishedOk := by
      simp [reported, at_]
    exact inv_report inv .delivering placed (by rw [at_]; rfl)
      (record_report result (by simp [counts, result]))
      (fun out failed => inv.noted_real met out failed)
  | deliver nowUs stateRead marked at_ =>
    obtain ⟨log, checked, pending, same⟩ := system.deliver_eq nowUs stateRead marked
    apply quiet rfl (by simp) (by simp)
    rw [same] at placed ⊢
    exact inv.turned placed rfl rfl rfl rfl (fun out => ⟨out, rfl⟩) ⟨rfl, rfl, rfl, rfl⟩ (by simp)
      (by rintro ⟨⟩) (by rintro ⟨⟩)
  | timeoutInSession at_ active =>
    exact quiet (by simp [reported, active]) (by simp) (by simp)
      (inv.turned placed rfl rfl rfl rfl (fun out => ⟨out, rfl⟩) ⟨rfl, rfl, rfl, rfl⟩
        (by simp [atSensorPc, withSensor]) (by rintro ⟨⟩) (by rintro ⟨⟩))
  | timeoutNoted at_ inactive =>
    have result : system.reported (.sensor .timeoutCheck) = some false := by
      simp [reported, at_, inactive]
    exact inv_report inv .cycleEnd placed (by rw [at_]; rfl)
      (record_report result (by simp [counts, result]))
      (fun out _ => inv.timedOut_real met out inactive)
  | supervise stateRead at_ => exact quiet rfl (by simp) (by simp) (inv_supervise inv placed)
  | beginWait at_ =>
    exact quiet rfl (by simp) (by simp)
      (inv.turned placed rfl rfl rfl rfl (fun out => ⟨out, rfl⟩) ⟨rfl, rfl, rfl, rfl⟩
        (by simp [atSensorPc, withSensor]) (by rintro ⟨⟩) (by rintro ⟨⟩))
  | @wake otaRetryWait lpWoke at_ => exact inv_wake inv otaRetryWait lpWoke placed

end SleepySensor.TxRevert
