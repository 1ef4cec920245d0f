import SleepySensor.HpSystem

/-!
# What a step of the HP core can do

Most steps of the publish task and of the client move a program counter and some
counters that no property below depends on.  `PubMove`, `ClientMove` and
`SensorMove` single out the others; the rest is one case with a frame.
-/

set_option autoImplicit false

namespace SleepySensor.HpSystem

variable {env : HpEnv} {system next : HpSystem}

/-- The order of the places in a publish cycle. -/
def rank : PubPc → Nat
  | .begin | .deciding | .connecting | .subscribing | .discovering | .stating => 0
  | .setExpected .state | .resetReceived .state | .clearAllAcked .state => 0
  | .ackWait => 1
  | .setExpected (.backfill _ _) | .resetReceived (.backfill _ _)
  | .clearAllAcked (.backfill _ _) => 2
  | .replaying _ | .publishBackfill _ _ | .backfillWait _ _ | .settling | .merging _ => 2
  | .trialCall _ => 3
  | .persisting _ | .closing | .otaGate => 4
  | .inOta => 5
  | .windowEnd | .storeOk | .clearRunning => 6

/-- Neither waiting for the ACKs of the state message, nor at a `setTxPowerDbm`,
nor in a session, nor done. -/
def plain : PubPc → Prop
  | .ackWait | .trialCall _ | .inOta | .clearRunning => False
  | _ => True

def SameStates (system next : HpSystem) : Prop :=
  ∀ message, Outgoing.state message ∈ next.mqtt.outbox ↔ Outgoing.state message ∈ system.mqtt.outbox

theorem SameStates.append (messages : List Outgoing)
    (others : ∀ message, Outgoing.state message ∉ messages)
    (outbox : next.mqtt.outbox = system.mqtt.outbox ++ messages) : SameStates system next := by
  intro message
  rw [outbox, List.mem_append]
  exact ⟨fun either => either.resolve_right (others message), .inl⟩

/-- The flags between the sensor task and the publish tasks. -/
structure SameFlags (system next : HpSystem) : Prop where
  taskRunning : next.mqtt.taskRunning = system.mqtt.taskRunning
  lastOk : next.mqtt.lastOk = system.mqtt.lastOk
  lastOkCycle : next.mqtt.lastOkCycle = system.mqtt.lastOkCycle
  idleBit : next.mqtt.idleBit = system.mqtt.idleBit
  tails : next.mqtt.tails = system.mqtt.tails

structure PubQuiet (system : HpSystem) (pub : Pub) (next : HpSystem) : Prop where
  sensor : next.sensor = system.sensor
  radio : next.radio = system.radio
  ota : next.ota = system.ota
  tx : next.config.tx = system.config.tx
  cyclesStarted : next.cyclesStarted = system.cyclesStarted
  flags : SameFlags system next
  states : SameStates system next
  pub : ∃ after, next.mqtt.pub = some after ∧ after.cycle = pub.cycle ∧
    after.params = pub.params ∧ (after.ok = true → pub.ok = true) ∧
    rank pub.pc ≤ rank after.pc ∧ plain after.pc

inductive PubMove (env : HpEnv) (system : HpSystem) (pub : Pub) : PubEvent → HpSystem → Prop where
  | quiet {event next} (noTrial : startsTrial pub event = none)
      (frame : PubQuiet system pub next) : PubMove env system pub event next
  | publishState (at_ : pub.pc = .stating) :
    PubMove env system pub .publishState
      (system.enqueue pub [.state (system.stateMessage pub)] .ackWait)
  | acked (at_ : pub.pc = .ackWait) (all : system.mqtt.allAckedBit = true) :
    PubMove env system pub .ackWait (system.ackWait pub)
  | merge {snap} (at_ : pub.pc = .merging snap) (trial : snap.txPowerDbm.set = true) :
    PubMove env system pub .merge (system.merge pub snap)
  | trialCall {snap} (accepted : Bool) (at_ : pub.pc = .trialCall snap) :
    PubMove env system pub (.setTxDone accepted)
      ((system.applyTxPower (trialDbm snap) accepted).atPubPc pub (.persisting snap))
  | session {groupCreated ota} (at_ : pub.pc = .otaGate) (healthy : pub.healthy = true)
      (due : system.ota.step env.firmware .runIfDue = some ota) :
    PubMove env system pub (.otaGate groupCreated) ({ system with ota := ota }.atPubPc pub .inOta)
  | storeOk (at_ : pub.pc = .storeOk) : PubMove env system pub .storeOk (system.storeOk pub)
  | clearRunning (at_ : pub.pc = .clearRunning) :
    PubMove env system pub .clearRunning system.clearRunning

theorem pubQuiet_move (pub : Pub) {pc : PubPc} (later : rank pub.pc ≤ rank pc)
    (isPlain : plain pc) :
    PubQuiet system pub (system.atPubPc pub pc) :=
  ⟨rfl, rfl, rfl, rfl, rfl, ⟨rfl, rfl, rfl, rfl, rfl⟩, fun _ => Iff.rfl,
    _, rfl, rfl, rfl, id, later, isPlain⟩

theorem pubQuiet_enqueue (pub : Pub) {messages : List Outgoing} {pc : PubPc}
    (others : ∀ message, Outgoing.state message ∉ messages)
    (later : rank pub.pc ≤ rank pc) (isPlain : plain pc) :
    PubQuiet system pub (system.enqueue pub messages pc) :=
  ⟨rfl, rfl, rfl, rfl, rfl, ⟨rfl, rfl, rfl, rfl, rfl⟩, SameStates.append messages others rfl,
    _, rfl, rfl, rfl, id, later, isPlain⟩

theorem startPersistentClient_quiet {pub : Pub} (at_ : pub.pc = .deciding) (clientOk : Bool) :
    PubQuiet system pub (system.startPersistentClient pub clientOk) := by
  have first : rank pub.pc = 0 := by rw [at_]; rfl
  unfold startPersistentClient
  split
  · exact pubQuiet_move pub (by rw [first]; exact Nat.zero_le _) trivial
  · split
    · exact ⟨rfl, rfl, rfl, rfl, rfl, ⟨rfl, rfl, rfl, rfl, rfl⟩, fun _ => Iff.rfl,
        _, rfl, rfl, rfl, id, by rw [first]; exact Nat.zero_le _, trivial⟩
    · exact pubQuiet_move pub (by rw [first]; exact Nat.zero_le _) trivial

theorem subscribe_quiet {pub : Pub} (at_ : pub.pc = .subscribing) (link : Option LinkStats) :
    PubQuiet system pub (system.subscribe pub link) := by
  refine ⟨rfl, rfl, rfl, rfl, rfl, ⟨rfl, rfl, rfl, rfl, rfl⟩, ?_,
    _, rfl, rfl, rfl, id, by rw [at_]; exact Nat.zero_le _, trivial⟩
  by_cases known : (system.mqtt.sessionPresent && system.mqtt.sessionSubscribed) = true
  · intro message
    simp [subscribe, known]
  · exact SameStates.append [.subscribe] (by simp) (by simp [subscribe, known])

theorem discoveryMessages_noState (pub : Pub) (message : StateMessage) :
    Outgoing.state message ∉ pub.discoveryMessages := by
  intro member
  obtain ⟨bit, -, copied⟩ := List.mem_flatMap.mp member
  have same := (List.mem_replicate.mp copied).2
  simp at same

theorem replay_eq (system : HpSystem) (pub : Pub) (batch : Nat) (nowUs : Int) :
    ∃ log pc, system.replay pub batch nowUs = { system with log := log }.atPubPc pub pc ∧
      (pc = .settling ∨ ∃ entries, pc = .setExpected (.backfill batch entries)) := by
  unfold replay
  generalize system.log.peekBatch nowUs backfillBatchSize = batchOf
  obtain ⟨log, entries⟩ := batchOf
  split
  · refine ⟨log, _, rfl, ?_⟩
    split
    · exact .inl rfl
    · exact .inr ⟨entries, rfl⟩
  · exact ⟨system.log, _, rfl, .inl rfl⟩

theorem replay_quiet {pub : Pub} {batch : Nat} (at_ : pub.pc = .replaying batch) (nowUs : Int) :
    PubQuiet system pub (system.replay pub batch nowUs) := by
  have early : rank pub.pc = 2 := by rw [at_]; rfl
  obtain ⟨log, pc, same, place⟩ := system.replay_eq pub batch nowUs
  rw [same]
  refine ⟨rfl, rfl, rfl, rfl, rfl, ⟨rfl, rfl, rfl, rfl, rfl⟩, fun _ => Iff.rfl,
    _, rfl, rfl, rfl, id, ?_, ?_⟩ <;> rcases place with rfl | ⟨entries, rfl⟩
  · rw [early]
    exact le_rfl
  · rw [early]
    exact le_rfl
  · trivial
  · trivial

theorem backfillWait_quiet {pub : Pub} {batch count : Nat}
    (at_ : pub.pc = .backfillWait batch count) :
    PubQuiet system pub (system.backfillWait pub batch count) := by
  have early : rank pub.pc = 2 := by rw [at_]; rfl
  unfold backfillWait
  split
  · exact ⟨rfl, rfl, rfl, rfl, rfl, ⟨rfl, rfl, rfl, rfl, rfl⟩, fun _ => Iff.rfl,
      _, rfl, rfl, rfl, id, by rw [early]; exact le_rfl, trivial⟩
  · exact pubQuiet_move pub (by rw [early]; exact le_rfl) trivial

theorem merge_quiet {pub : Pub} {snap : PendingCfg} (at_ : pub.pc = .merging snap)
    (noTrial : snap.txPowerDbm.set = false) : PubQuiet system pub (system.merge pub snap) := by
  have early : rank pub.pc = 2 := by rw [at_]; rfl
  have kept : (system.merge pub snap).config.tx = system.config.tx := by
    simp [merge, RuntimeConfig.mergeAll, noTrial]
  have moved : (system.merge pub snap).mqtt.pub = some { pub with pc := .persisting snap } := by
    simp [merge, noTrial]
  exact ⟨rfl, rfl, rfl, kept, rfl, ⟨rfl, rfl, rfl, rfl, rfl⟩, fun _ => Iff.rfl,
    _, moved, rfl, rfl, id, by rw [early]; exact Nat.le_add_right 2 2, trivial⟩

theorem ackWait_quiet {pub : Pub} (at_ : pub.pc = .ackWait)
    (missing : system.mqtt.allAckedBit ≠ true) : PubQuiet system pub (system.ackWait pub) := by
  have early : rank pub.pc = 1 := by rw [at_]; rfl
  unfold ackWait
  rw [if_neg missing]
  refine ⟨rfl, rfl, rfl, rfl, rfl, ⟨rfl, rfl, rfl, rfl, rfl⟩, fun _ => Iff.rfl,
    _, rfl, rfl, rfl, ?_, ?_, trivial⟩
  · intro ok
    cases ok
  · rw [early]
    exact Nat.le_add_left 1 3

theorem persist_quiet {pub : Pub} {snap : PendingCfg} (at_ : pub.pc = .persisting snap) :
    PubQuiet system pub (system.persist pub snap) := by
  have others : ∀ message, Outgoing.state message ∉ (RuntimeConfig.echoes snap).map .echo := by
    intro message member
    obtain ⟨echo, -, same⟩ := List.mem_map.mp member
    cases same
  exact ⟨rfl, rfl, rfl, rfl, rfl, ⟨rfl, rfl, rfl, rfl, rfl⟩, SameStates.append _ others rfl,
    _, rfl, rfl, rfl, id, by rw [at_]; exact le_rfl, trivial⟩

theorem setExpected_quiet {pub : Pub} {arming : Arming} (at_ : pub.pc = .setExpected arming) :
    PubQuiet system pub (system.setExpected pub arming) := by
  refine ⟨rfl, rfl, rfl, rfl, rfl, ⟨rfl, rfl, rfl, rfl, rfl⟩, fun _ => Iff.rfl,
    _, rfl, rfl, rfl, id, ?_, trivial⟩
  rw [at_]
  cases arming <;> exact le_rfl

theorem resetReceived_quiet {pub : Pub} {arming : Arming}
    (at_ : pub.pc = .resetReceived arming) :
    PubQuiet system pub (system.resetReceived pub arming) := by
  refine ⟨rfl, rfl, rfl, rfl, rfl, ⟨rfl, rfl, rfl, rfl, rfl⟩, fun _ => Iff.rfl,
    _, rfl, rfl, rfl, id, ?_, trivial⟩
  rw [at_]
  cases arming <;> exact le_rfl

theorem clearAllAcked_quiet {pub : Pub} {arming : Arming}
    (at_ : pub.pc = .clearAllAcked arming) :
    PubQuiet system pub (system.clearAllAcked pub arming) := by
  refine ⟨rfl, rfl, rfl, rfl, rfl, ⟨rfl, rfl, rfl, rfl, rfl⟩, fun _ => Iff.rfl,
    _, rfl, rfl, rfl, id, ?_, ?_⟩
  · rw [at_]
    cases arming <;> exact le_rfl
  · cases arming <;> exact trivial

theorem settle_quiet {pub : Pub} (at_ : pub.pc = .settling) :
    PubQuiet system pub (system.settle pub) :=
  ⟨rfl, rfl, rfl, rfl, rfl, ⟨rfl, rfl, rfl, rfl, rfl⟩, fun _ => Iff.rfl,
    _, rfl, rfl, rfl, id, by rw [at_]; exact le_rfl, trivial⟩

theorem closeSession_quiet {pub : Pub} (at_ : pub.pc = .closing) :
    PubQuiet system pub (system.closeSession pub) :=
  ⟨rfl, rfl, rfl, rfl, rfl, ⟨rfl, rfl, rfl, rfl, rfl⟩, fun _ => Iff.rfl,
    _, rfl, rfl, rfl, id, by rw [at_]; exact le_rfl, trivial⟩

theorem otaGate_eq (env : HpEnv) (system : HpSystem) (pub : Pub) (groupCreated : Bool) :
    ∃ ota pc, system.otaGate env pub groupCreated = { system with ota := ota }.atPubPc pub pc ∧
      (pc = .inOta ∨ pc = .windowEnd) := by
  unfold otaGate
  split
  · split
    · exact ⟨_, _, rfl, .inl rfl⟩
    · exact ⟨system.ota, _, rfl, .inr rfl⟩
  · exact ⟨system.ota, _, rfl, .inr rfl⟩

theorem otaGate_move {pub : Pub} (at_ : pub.pc = .otaGate) (groupCreated : Bool) :
    PubMove env system pub (.otaGate groupCreated) (system.otaGate env pub groupCreated) := by
  have gone : PubQuiet system pub (system.atPubPc pub .windowEnd) :=
    pubQuiet_move pub (by rw [at_]; exact Nat.le_add_right 4 2) trivial
  unfold otaGate
  by_cases allowed : (pub.healthy && groupCreated) = true
  · rw [if_pos allowed]
    simp only [Bool.and_eq_true] at allowed
    cases due : system.ota.step env.firmware .runIfDue with
    | none => exact .quiet rfl gone
    | some ota => exact .session at_ allowed.1 due
  · rw [if_neg allowed]
    exact .quiet rfl gone

/-- Where each event of the publish task is taken, and what it does. -/
inductive PubCase (env : HpEnv) (system : HpSystem) (pub : Pub) : PubEvent → HpSystem → Prop where
  | reachable (reachable uriFound : Bool) (at_ : pub.pc = .begin) :
    PubCase env system pub (.reachable reachable uriFound)
      (system.atPubPc pub (if reachable && uriFound then .deciding else .windowEnd))
  | decide (clientOk : Bool) (at_ : pub.pc = .deciding) :
    PubCase env system pub (.decide clientOk) (system.startPersistentClient pub clientOk)
  | connectWait (at_ : pub.pc = .connecting) :
    PubCase env system pub .connectWait
      (system.atPubPc pub (if system.mqtt.connectedBit then .subscribing else .closing))
  | subscribe (link : Option LinkStats) (at_ : pub.pc = .subscribing) :
    PubCase env system pub (.subscribe link) (system.subscribe pub link)
  | setExpected {arming} (at_ : pub.pc = .setExpected arming) :
    PubCase env system pub .setExpected (system.setExpected pub arming)
  | resetReceived {arming} (at_ : pub.pc = .resetReceived arming) :
    PubCase env system pub .resetReceived (system.resetReceived pub arming)
  | clearAllAcked {arming} (at_ : pub.pc = .clearAllAcked arming) :
    PubCase env system pub .clearAllAcked (system.clearAllAcked pub arming)
  | discover (at_ : pub.pc = .discovering) :
    PubCase env system pub .discover
      (system.enqueue pub pub.discoveryMessages
        (if pub.params.hasAny then .stating else .replaying 0))
  | publishState (at_ : pub.pc = .stating) :
    PubCase env system pub .publishState
      (system.enqueue pub [.state (system.stateMessage pub)] .ackWait)
  | ackWait (at_ : pub.pc = .ackWait) :
    PubCase env system pub .ackWait (system.ackWait pub)
  | replay {batch} (nowUs : Int) (at_ : pub.pc = .replaying batch) :
    PubCase env system pub (.replay nowUs) (system.replay pub batch nowUs)
  | publishBackfill {batch entries} (at_ : pub.pc = .publishBackfill batch entries) :
    PubCase env system pub .publishBackfill
      (system.enqueue pub [.backfill pub.cycle batch entries] (.backfillWait batch entries.length))
  | backfillWait {batch count} (at_ : pub.pc = .backfillWait batch count) :
    PubCase env system pub .backfillWait (system.backfillWait pub batch count)
  | settle (at_ : pub.pc = .settling) :
    PubCase env system pub .settle (system.settle pub)
  | merge {snap} (at_ : pub.pc = .merging snap) :
    PubCase env system pub .merge (system.merge pub snap)
  | setTxDone {snap} (accepted : Bool) (at_ : pub.pc = .trialCall snap) :
    PubCase env system pub (.setTxDone accepted)
      ((system.applyTxPower (trialDbm snap) accepted).atPubPc pub (.persisting snap))
  | persist {snap} (at_ : pub.pc = .persisting snap) :
    PubCase env system pub .persist (system.persist pub snap)
  | close (at_ : pub.pc = .closing) (idle : system.mqtt.handler = .idle) :
    PubCase env system pub .close (system.closeSession pub)
  | otaGate (groupCreated : Bool) (at_ : pub.pc = .otaGate) :
    PubCase env system pub (.otaGate groupCreated) (system.otaGate env pub groupCreated)
  | otaDone (at_ : pub.pc = .inOta) (idle : system.ota.pc = .idle) :
    PubCase env system pub .otaDone (system.atPubPc pub .windowEnd)
  | windowEnd (at_ : pub.pc = .windowEnd) :
    PubCase env system pub .windowEnd (system.atPubPc pub .storeOk)
  | storeOk (at_ : pub.pc = .storeOk) :
    PubCase env system pub .storeOk (system.storeOk pub)
  | clearRunning (at_ : pub.pc = .clearRunning) :
    PubCase env system pub .clearRunning system.clearRunning

theorem pubStep_case {pub : Pub} {event : PubEvent}
    (taken : system.pubStep env pub event = some next) : PubCase env system pub event next := by
  cases event with
  | close =>
    simp only [pubStep] at taken
    split at taken
    case h_1 at_ =>
      split at taken
      case isTrue idle =>
        cases Option.some.inj taken
        exact .close at_ idle
      case isFalse => cases taken
    case h_2 => cases taken
  | otaDone =>
    simp only [pubStep] at taken
    split at taken
    case h_1 at_ =>
      split at taken
      case isTrue idle =>
        cases Option.some.inj taken
        exact .otaDone at_ idle
      case isFalse => cases taken
    case h_2 => cases taken
  | _ =>
    -- every other event is taken at one place and nowhere else
    simp only [pubStep] at taken
    split at taken
    case h_1 =>
      cases Option.some.inj taken
      constructor
      assumption
    case h_2 => cases taken

theorem pubStep_move {pub : Pub} {event : PubEvent}
    (taken : system.pubStep env pub event = some next) : PubMove env system pub event next := by
  cases pubStep_case taken with
  | reachable reachable uriFound at_ =>
    refine .quiet rfl (pubQuiet_move pub (by rw [at_]; exact Nat.zero_le _) ?_)
    split <;> exact trivial
  | decide clientOk at_ => exact .quiet rfl (startPersistentClient_quiet at_ clientOk)
  | connectWait at_ =>
    refine .quiet rfl (pubQuiet_move pub (by rw [at_]; exact Nat.zero_le _) ?_)
    split <;> exact trivial
  | subscribe link at_ => exact .quiet rfl (subscribe_quiet at_ link)
  | setExpected at_ => exact .quiet rfl (setExpected_quiet at_)
  | resetReceived at_ => exact .quiet rfl (resetReceived_quiet at_)
  | clearAllAcked at_ => exact .quiet rfl (clearAllAcked_quiet at_)
  | discover at_ =>
    refine .quiet rfl (pubQuiet_enqueue pub (discoveryMessages_noState pub)
      (by rw [at_]; exact Nat.zero_le _) ?_)
    split <;> exact trivial
  | publishState at_ => exact .publishState at_
  | ackWait at_ =>
    by_cases all : system.mqtt.allAckedBit = true
    · exact .acked at_ all
    · exact .quiet rfl (ackWait_quiet at_ all)
  | replay nowUs at_ => exact .quiet rfl (replay_quiet at_ nowUs)
  | publishBackfill at_ =>
    exact .quiet rfl (pubQuiet_enqueue pub (by simp) (by rw [at_]; exact le_rfl) trivial)
  | backfillWait at_ => exact .quiet rfl (backfillWait_quiet at_)
  | settle at_ => exact .quiet rfl (settle_quiet at_)
  | @merge snap at_ =>
    cases trial : snap.txPowerDbm.set with
    | false => exact .quiet (by simp [startsTrial, at_, trial]) (merge_quiet at_ trial)
    | true => exact .merge at_ trial
  | setTxDone accepted at_ => exact .trialCall accepted at_
  | persist at_ => exact .quiet rfl (persist_quiet at_)
  | close at_ idle => exact .quiet rfl (closeSession_quiet at_)
  | otaGate groupCreated at_ => exact otaGate_move at_ groupCreated
  | otaDone at_ idle =>
    exact .quiet rfl (pubQuiet_move pub (by rw [at_]; exact Nat.le_add_right 5 1) trivial)
  | windowEnd at_ => exact .quiet rfl (pubQuiet_move pub (by rw [at_]; exact le_rfl) trivial)
  | storeOk at_ => exact .storeOk at_
  | clearRunning at_ => exact .clearRunning at_

theorem pubStep_leaves {pub : Pub} {event : PubEvent} (at_ : pub.pc = .inOta)
    (taken : system.pubStep env pub event = some next) : system.ota.pc = .idle := by
  cases pubStep_case taken <;> simp_all

/-- Only the settling of the received values leads to a merge. -/
theorem pubStep_merging {pub after : Pub} {event : PubEvent} {snap : PendingCfg}
    (taken : system.pubStep env pub event = some next) (running : next.mqtt.pub = some after)
    (at_ : after.pc = .merging snap) :
    event = .settle ∧ next = system.settle pub ∧ snap = system.config.settleAll := by
  have placed : ∀ {place : Pub}, some place = some after → place.pc = .merging snap := by
    intro place same
    rw [Option.some.inj same]
    exact at_
  cases pubStep_case taken with
  | settle settling =>
    cases placed running
    exact ⟨rfl, rfl, rfl⟩
  | decide clientOk deciding =>
    unfold startPersistentClient at running
    split at running
    · cases placed running
    · split at running <;> cases placed running
  | ackWait waiting =>
    unfold ackWait at running
    dsimp only at running
    split at running <;> cases placed running
  | @replay batch nowUs replaying =>
    obtain ⟨log, pc, same, place⟩ := system.replay_eq pub batch nowUs
    rw [same] at running
    have moved := placed running
    rcases place with rfl | ⟨entries, rfl⟩ <;> cases moved
  | backfillWait waiting =>
    unfold backfillWait at running
    split at running <;> cases placed running
  | otaGate groupCreated closed =>
    unfold otaGate at running
    split at running
    · split at running <;> cases placed running
    · cases placed running
  | clearRunning done => cases running
  | _ =>
    have moved := placed running
    first
      | cases moved
      | (dsimp only at moved; split at moved <;> cases moved)

/-! ## The client -/

structure ClientQuiet (system next : HpSystem) : Prop where
  sensor : next.sensor = system.sensor
  radio : next.radio = system.radio
  nvs : next.nvs = system.nvs
  log : next.log = system.log
  tx : next.config.tx = system.config.tx
  cyclesStarted : next.cyclesStarted = system.cyclesStarted
  flags : SameFlags system next
  pub : next.mqtt.pub = system.mqtt.pub
  session : next.ota.pc = system.ota.pc
  active : next.ota.sessionActive = system.ota.sessionActive
  inSession : system.ota.pc ≠ .idle → next.ota = system.ota
  shadow : next.config.shadow = system.config.shadow
  pollIntervalSec : next.config.pollIntervalSec = system.config.pollIntervalSec

inductive ClientMove (system : HpSystem) : ClientEvent → HpSystem → Prop where
  | quiet {event next} (frame : ClientQuiet system next) (states : SameStates system next)
      (noAck : system.ackedState (.client event) = none) : ClientMove system event next
  | acked {index message next} (frame : ClientQuiet system next)
      (acked : system.ackedState (.client (.published index)) = some message)
      (kept : ∀ other, Outgoing.state other ∈ system.mqtt.outbox →
        other = message ∨ Outgoing.state other ∈ next.mqtt.outbox) :
    ClientMove system (.published index) next

theorem eraseIdx_kept {outbox : List Outgoing} {index : Nat} {message other : Outgoing}
    (found : outbox[index]? = some message) (member : other ∈ outbox) :
    other = message ∨ other ∈ outbox.eraseIdx index := by
  obtain ⟨place, at_⟩ := List.mem_iff_getElem?.mp member
  by_cases same : place = index
  · rw [same] at at_
    exact .inl (Option.some.inj (at_.symm.trans found))
  · exact .inr (List.mem_eraseIdx_iff_getElem?.mpr ⟨place, same, at_⟩)

theorem published_move {index : Nat} (taken : system.published index = some next) :
    ClientMove system (.published index) next := by
  unfold published at taken
  cases found : system.mqtt.outbox[index]? with
  | none => simp [found] at taken
  | some message =>
    simp only [found] at taken
    split at taken
    · cases Option.some.inj taken
      have frame : ClientQuiet system
          { system with mqtt := system.mqtt.countAck (system.mqtt.outbox.eraseIdx index) } :=
        ⟨rfl, rfl, rfl, rfl, rfl, rfl, ⟨rfl, rfl, rfl, rfl, rfl⟩, rfl, rfl, rfl, fun _ => rfl, rfl,
          rfl⟩
      by_cases isState : ∃ own, message = .state own
      · obtain ⟨own, rfl⟩ := isState
        have confirmed : system.ackedState (.client (.published index)) = some own := by
          simp [ackedState, found]
        refine .acked frame confirmed ?_
        intro other member
        rcases eraseIdx_kept found member with same | kept
        · exact .inl (Outgoing.state.inj same)
        · exact .inr kept
      · refine .quiet frame ?_ ?_
        · intro other
          refine ⟨List.mem_of_mem_eraseIdx, ?_⟩
          intro member
          rcases eraseIdx_kept found member with same | kept
          · exact (isState ⟨other, same.symm⟩).elim
          · exact kept
        · cases message <;> simp_all [ackedState]
    · cases taken

theorem subAck_move {accepted : Bool} (taken : system.subAck accepted = some next) :
    ClientMove system (.subAck accepted) next := by
  unfold subAck at taken
  split at taken
  · cases Option.some.inj taken
    refine .quiet
      ⟨rfl, rfl, rfl, rfl, rfl, rfl, ⟨rfl, rfl, rfl, rfl, rfl⟩, rfl, rfl, rfl, fun _ => rfl, rfl,
        rfl⟩ ?_ rfl
    intro message
    exact List.mem_erase_of_ne (by simp)
  · cases taken

theorem clientQuiet_ota {ota : Ota} {event : OtaEvent}
    (taken : system.ota.step env.firmware event = some ota)
    (outside : (∃ message, event = .manifest message) ∨ ∃ set, event = .install set) :
    ClientQuiet system { system with ota := ota } := by
  have idle : system.ota.pc = .idle ∧ ota.pc = .idle ∧
      ota.sessionActive = system.ota.sessionActive := by
    rcases outside with ⟨message, rfl⟩ | ⟨set, rfl⟩ <;>
      simp only [Ota.step, Option.ite_none_right_eq_some] at taken <;>
      obtain ⟨idle, same⟩ := taken <;> cases Option.some.inj same
    · refine ⟨idle, ?_, ?_⟩ <;> unfold Ota.handleManifest
      · split <;> first | exact idle | (split <;> exact idle)
      · split <;> first | rfl | (split <;> rfl)
    · exact ⟨idle, idle, rfl⟩
  exact ⟨rfl, rfl, rfl, rfl, rfl, rfl, ⟨rfl, rfl, rfl, rfl, rfl⟩, rfl,
    idle.2.1.trans idle.1.symm, idle.2.2, fun inSession => (inSession idle.1).elim, rfl, rfl⟩

theorem clientStep_move {event : ClientEvent} (taken : system.clientStep env event = some next) :
    ClientMove system event next := by
  unfold clientStep at taken
  split at taken
  · cases event with
    | connected sessionPresent =>
      cases Option.some.inj taken
      exact .quiet ⟨rfl, rfl, rfl, rfl, rfl, rfl, ⟨rfl, rfl, rfl, rfl, rfl⟩, rfl, rfl, rfl,
        fun _ => rfl, rfl, rfl⟩ (fun _ => Iff.rfl) rfl
    | published index => exact published_move taken
    | setAllAcked => cases taken
    | subAck accepted => exact subAck_move taken
    | error =>
      cases Option.some.inj taken
      exact .quiet ⟨rfl, rfl, rfl, rfl, rfl, rfl, ⟨rfl, rfl, rfl, rfl, rfl⟩, rfl, rfl, rfl,
        fun _ => rfl, rfl, rfl⟩ (fun _ => Iff.rfl) rfl
    | manifest message =>
      obtain ⟨ota, stepped, rfl⟩ := Option.map_eq_some_iff.mp taken
      exact .quiet (clientQuiet_ota stepped (.inl ⟨message, rfl⟩)) (fun _ => Iff.rfl) rfl
    | install set =>
      obtain ⟨ota, stepped, rfl⟩ := Option.map_eq_some_iff.mp taken
      exact .quiet (clientQuiet_ota stepped (.inr ⟨set, rfl⟩)) (fun _ => Iff.rfl) rfl
    | cfg message =>
      cases Option.some.inj taken
      exact .quiet ⟨rfl, rfl, rfl, rfl, rfl, rfl, ⟨rfl, rfl, rfl, rfl, rfl⟩, rfl, rfl, rfl,
        fun _ => rfl, rfl, rfl⟩ (fun _ => Iff.rfl) rfl
  · split at taken
    case isTrue isSet =>
      cases Option.some.inj taken
      subst isSet
      exact .quiet ⟨rfl, rfl, rfl, rfl, rfl, rfl, ⟨rfl, rfl, rfl, rfl, rfl⟩, rfl, rfl, rfl,
        fun _ => rfl, rfl, rfl⟩ (fun _ => Iff.rfl) rfl
    case isFalse => cases taken

/-! ## The sensor task -/

/-- The sensor task after `m_readyEvent`, with the publish cycle that it started. -/
def sent (sensor : SensorsTask) (started : Option Nat) : SensorsTask :=
  { sensor with cycle := { sensor.cycle with startedCycle := started }, pc := .checkBusy }

inductive SensorMove (env : HpEnv) (system : HpSystem) : SensorEvent → HpSystem → Prop where
  | attached (at_ : system.sensor.pc = .attaching) :
    SensorMove env system (.attachGate true) system.attachReady
  | attachFailed (at_ : system.sensor.pc = .attaching) :
    SensorMove env system (.attachGate false) (system.noteCycleResult false .cycleEnd)
  | firstAttachCall {dbm} (accepted : Bool) (at_ : system.sensor.pc = .firstAttachCall dbm) :
    SensorMove env system (.setTxDone accepted)
      ((system.applyTxPower dbm accepted).atSensorPc .reading)
  | revertCall {dbm resume} (accepted : Bool) (at_ : system.sensor.pc = .revertCall dbm resume) :
    SensorMove env system (.setTxDone accepted) (system.finishRevert dbm resume accepted)
  | readState (state : LpSnapshot) (at_ : system.sensor.pc = .reading) :
    SensorMove env system (.readState state) (system.withSensor (system.sensor.takeState state))
  | branch (at_ : system.sensor.pc = .branching) :
    SensorMove env system .branch
      (system.withSensor (system.sensor.branch system.ota.sessionActive system.ota.updateDue
        env.yaml.readBatteryViaAdc))
  | measure (outcome : AdcOutcome) (at_ : system.sensor.pc = .measuring) :
    SensorMove env system (.measure outcome) (system.withSensor (system.sensor.measure outcome))
  | sendRefused (created : Bool) (at_ : system.sensor.pc = .sending)
      (busy : system.mqtt.taskRunning = true) :
    SensorMove env system (.send created) (system.withSensor (sent system.sensor none))
  | sendFailed (at_ : system.sensor.pc = .sending) (free : system.mqtt.taskRunning = false) :
    SensorMove env system (.send false)
      { system with
        mqtt := { system.mqtt with taskRunning := false, idleBit := true }
        sensor := sent system.sensor none }
  | sendStarted (at_ : system.sensor.pc = .sending) (free : system.mqtt.taskRunning = false) :
    SensorMove env system (.send true)
      { system with
        mqtt :=
          { system.mqtt with
            taskRunning := true, idleBit := false
            pub := some { cycle := system.cyclesStarted, params := system.sensor.cycle.values } }
        sensor := sent system.sensor (some system.cyclesStarted)
        cyclesStarted := system.cyclesStarted + 1 }
  | isBusy (at_ : system.sensor.pc = .checkBusy) :
    SensorMove env system .isBusy
      (system.atSensorPc (if system.mqtt.taskRunning then .waiting else .cycleEnd))
  | waitDone (at_ : system.sensor.pc = .waiting) (idle : system.mqtt.idleBit = true) :
    SensorMove env system .waitDone (system.atSensorPc .readOutcome)
  | waitTimeout (at_ : system.sensor.pc = .waiting) :
    SensorMove env system .waitTimeout (system.atSensorPc .timedOut)
  | readOutcome (at_ : system.sensor.pc = .readOutcome) :
    SensorMove env system .lastOutcome system.readOutcome
  | note (at_ : system.sensor.pc = .noting) :
    SensorMove env system .note
      (system.noteCycleResult system.sensor.cycle.publishedOk .delivering)
  | deliver (nowUs : Int) (stateRead marked : Bool) (at_ : system.sensor.pc = .delivering) :
    SensorMove env system (.deliver nowUs stateRead marked)
      (system.deliver nowUs stateRead marked)
  | timeoutInSession (at_ : system.sensor.pc = .timedOut)
      (active : system.ota.sessionActive = true) :
    SensorMove env system .timeoutCheck (system.atSensorPc .cycleEnd)
  | timeoutNoted (at_ : system.sensor.pc = .timedOut)
      (inactive : system.ota.sessionActive = false) :
    SensorMove env system .timeoutCheck (system.noteCycleResult false .cycleEnd)
  | supervise (stateRead : Bool) (at_ : system.sensor.pc = .cycleEnd) :
    SensorMove env system (.supervise stateRead) (system.supervise stateRead)
  | beginWait (at_ : system.sensor.pc = .beginWait) :
    SensorMove env system .beginWait
      (system.atSensorPc (.sleeping (system.ota.updateDue && !system.ota.sessionActive)))
  | wake {otaRetryWait} (lpWoke : Bool) (at_ : system.sensor.pc = .sleeping otaRetryWait) :
    SensorMove env system (.wake lpWoke)
      (system.withSensor (system.sensor.wake otaRetryWait lpWoke))

theorem send_move (at_ : system.sensor.pc = .sending) (created : Bool) :
    SensorMove env system (.send created) (system.send created) := by
  cases busy : system.mqtt.taskRunning with
  | true =>
    have same : system.send created = system.withSensor (sent system.sensor none) := by
      simp [HpSystem.send, MqttSender.sendSensorData, busy, withSensor, sent]
    rw [same]
    exact .sendRefused created at_ busy
  | false =>
    cases created with
    | false =>
      have same : system.send false =
          { system with
            mqtt := { system.mqtt with taskRunning := false, idleBit := true }
            sensor := sent system.sensor none } := by
        simp [HpSystem.send, MqttSender.sendSensorData, busy, sent]
      rw [same]
      exact .sendFailed at_ busy
    | true =>
      have same : system.send true =
          { system with
            mqtt :=
              { system.mqtt with
                taskRunning := true, idleBit := false
                pub := some
                  { cycle := system.cyclesStarted, params := system.sensor.cycle.values } }
            sensor := sent system.sensor (some system.cyclesStarted)
            cyclesStarted := system.cyclesStarted + 1 } := by
        simp [HpSystem.send, MqttSender.sendSensorData, busy, sent]
      rw [same]
      exact .sendStarted at_ busy

theorem attachGate_move {ready : Bool}
    (taken : system.sensorStep env (.attachGate ready) = some next) :
    SensorMove env system (.attachGate ready) next := by
  simp only [sensorStep] at taken
  split at taken
  case h_1 at_ =>
    cases Option.some.inj taken
    cases ready with
    | true => exact .attached at_
    | false => exact .attachFailed at_
  case h_2 => cases taken

theorem setTxDone_move {accepted : Bool}
    (taken : system.sensorStep env (.setTxDone accepted) = some next) :
    SensorMove env system (.setTxDone accepted) next := by
  simp only [sensorStep] at taken
  split at taken
  case h_1 dbm at_ =>
    cases Option.some.inj taken
    exact .firstAttachCall accepted at_
  case h_2 dbm resume at_ =>
    cases Option.some.inj taken
    exact .revertCall accepted at_
  case h_3 => cases taken

theorem waitDone_move (taken : system.sensorStep env .waitDone = some next) :
    SensorMove env system .waitDone next := by
  simp only [sensorStep] at taken
  split at taken
  case h_1 at_ =>
    split at taken
    case isTrue idle =>
      cases Option.some.inj taken
      exact .waitDone at_ idle
    case isFalse => cases taken
  case h_2 => cases taken

theorem waitTimeout_move (taken : system.sensorStep env .waitTimeout = some next) :
    SensorMove env system .waitTimeout next := by
  simp only [sensorStep] at taken
  split at taken
  case h_1 at_ =>
    split at taken
    case isTrue => cases taken
    case isFalse =>
      cases Option.some.inj taken
      exact .waitTimeout at_
  case h_2 => cases taken

theorem timeoutCheck_move (taken : system.sensorStep env .timeoutCheck = some next) :
    SensorMove env system .timeoutCheck next := by
  simp only [sensorStep] at taken
  split at taken
  case h_1 at_ =>
    cases active : system.ota.sessionActive with
    | true =>
      rw [active] at taken
      cases Option.some.inj taken
      exact .timeoutInSession at_ active
    | false =>
      rw [active] at taken
      cases Option.some.inj taken
      exact .timeoutNoted at_ active
  case h_2 => cases taken

theorem sensorStep_move {event : SensorEvent}
    (taken : system.sensorStep env event = some next) : SensorMove env system event next := by
  cases event with
  | attachGate ready => exact attachGate_move taken
  | setTxDone accepted => exact setTxDone_move taken
  | waitDone => exact waitDone_move taken
  | waitTimeout => exact waitTimeout_move taken
  | timeoutCheck => exact timeoutCheck_move taken
  | send created =>
    simp only [sensorStep] at taken
    split at taken
    case h_1 at_ =>
      cases Option.some.inj taken
      exact send_move at_ created
    case h_2 => cases taken
  | _ =>
    simp only [sensorStep] at taken
    split at taken
    case h_1 =>
      cases Option.some.inj taken
      constructor
      assumption
    case h_2 => cases taken

theorem sensor_running {event : SensorEvent} (move : SensorMove env system event next) :
    system.sensor.pc ≠ .rebooting := by
  intro rebooting
  cases move <;> simp_all

theorem noteCycleResult_pc (system : HpSystem) (ok : Bool) (resume : AfterNote) :
    (system.noteCycleResult ok resume).sensor.pc = resume.pc ∨
      ∃ dbm, (system.noteCycleResult ok resume).sensor.pc = .revertCall dbm resume := by
  unfold noteCycleResult
  dsimp only
  split
  · exact .inr ⟨_, rfl⟩
  · exact .inl rfl

theorem supervise_pc (system : HpSystem) (stateRead : Bool) :
    (system.supervise stateRead).sensor.pc = .rebooting ∨
      (system.supervise stateRead).sensor.pc = .beginWait := by
  simp only [HpSystem.supervise, withSensor]
  split
  · exact .inl rfl
  · exact .inr rfl

theorem deliver_eq (system : HpSystem) (nowUs : Int) (stateRead marked : Bool) :
    ∃ log checked pending, system.deliver nowUs stateRead marked =
      { system with
        log := log
        sensor :=
          { system.sensor with
            appValidChecked := checked, pendingVerify := pending, pc := .cycleEnd } } := by
  unfold deliver
  dsimp only
  split
  · rw [SensorsTask.markAppValid_eq]
    exact ⟨_, _, _, rfl⟩
  · split <;> exact ⟨_, _, _, rfl⟩

theorem sensor_ota {event : SensorEvent} (move : SensorMove env system event next) :
    next.ota = system.ota := by
  cases move with
  | deliver nowUs stateRead marked at_ =>
    obtain ⟨log, checked, pending, same⟩ := system.deliver_eq nowUs stateRead marked
    rw [same]
  | _ => rfl

theorem pub_sensor {pub : Pub} {event : PubEvent} (move : PubMove env system pub event next) :
    next.sensor = system.sensor := by
  cases move with
  | quiet noTrial frame => exact frame.sensor
  | acked at_ all =>
    have same : system.ackWait pub = _ := if_pos all
    rw [same]
  | _ => rfl

theorem client_sensor {event : ClientEvent} (move : ClientMove system event next) :
    next.sensor = system.sensor := by
  cases move with
  | quiet frame states noAck => exact frame.sensor
  | acked frame acked kept => exact frame.sensor

/-! ## All of them -/

theorem otaRadio_eq (system : HpSystem) (event : OtaEvent) (accepted : Bool) :
    ∃ radio, system.otaRadio event accepted = { system with radio := radio } := by
  unfold otaRadio setRadio
  split <;> exact ⟨_, rfl⟩

inductive HpMove (env : HpEnv) (system : HpSystem) : HpAction → HpSystem → Prop where
  | sensor {event next} (move : SensorMove env system event next) :
    HpMove env system (.sensor event) next
  | pub {pub event next} (running : system.mqtt.pub = some pub)
      (leaves : pub.pc = .inOta → system.ota.pc = .idle)
      (move : PubMove env system pub event next) : HpMove env system (.pub event) next
  | tail : HpMove env system .tail
      { system with mqtt := { system.mqtt with idleBit := true, tails := system.mqtt.tails - 1 } }
  | client {event next} (move : ClientMove system event next) :
    HpMove env system (.client event) next
  | ota {pub event accepted ota} (running : system.mqtt.pub = some pub) (at_ : pub.pc = .inOta)
      (inCycle : inSession pub.params.batteryPercent event = true)
      (stepped : system.ota.step env.firmware event = some ota) :
    HpMove env system (.ota event accepted) { system.otaRadio event accepted with ota := ota }
  | reset (pendingVerify : Bool) :
    HpMove env system (.reset pendingVerify)
      (boot env system.nvs system.cyclesStarted pendingVerify)

theorem step_move {action : HpAction} (taken : step env system action = some next) :
    HpMove env system action next := by
  cases action with
  | sensor event => exact .sensor (sensorStep_move taken)
  | pub event =>
    simp only [step] at taken
    split at taken
    case h_1 pub running =>
      exact .pub running (fun at_ => pubStep_leaves at_ taken) (pubStep_move taken)
    case h_2 => cases taken
  | tail =>
    simp only [step] at taken
    split at taken
    · cases Option.some.inj taken
      exact .tail
    · cases taken
  | client event =>
    simp only [step] at taken
    split at taken
    · exact .client (clientStep_move taken)
    · cases taken
  | ota event accepted =>
    simp only [step] at taken
    split at taken
    case h_1 pub running =>
      simp only [otaStep] at taken
      split at taken
      case isTrue place =>
        obtain ⟨ota, stepped, rfl⟩ := Option.map_eq_some_iff.mp taken
        exact .ota running place.1 place.2 stepped
      case isFalse => cases taken
    case h_2 => cases taken
  | reset pendingVerify =>
    cases Option.some.inj taken
    exact .reset pendingVerify

/-- With `BIT_ALL_ACKED` set, the cycle's state message waits for no PUBACK. -/
def OwnAck (system : HpSystem) : Prop :=
  system.mqtt.allAckedBit = true → ∀ pub ∈ system.mqtt.pub,
    ∀ message ∈ system.mqtt.outbox, message.isStateOf pub.cycle = false

instance (system : HpSystem) : Decidable (OwnAck system) := by
  unfold OwnAck
  infer_instance

end SleepySensor.HpSystem
