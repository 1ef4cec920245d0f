import SleepySensor.HpInvariant
import SleepySensor.Lib.Runs

/-!
# Whether to subscribe

The persistent client and the broker that keeps its session.  One connection
carries packets both ways, in order; the broker answers them in order and sends
the retained set of a SUBSCRIBE before it answers anything later.  The device is
the HP core, whose client events now come from the broker.
-/

set_option autoImplicit false

namespace SleepySensor

/-- The broker's session for the persistent client id; `subscribed` if it holds
the manifest, install and `cfg/#` filters. -/
inductive BrokerSession where
  | absent
  | empty
  | subscribed
  deriving DecidableEq, Repr

inductive ToBroker where
  | connect
  | packet (message : Outgoing)
  deriving DecidableEq, Repr

/-- `late` marks a PUBACK that answers a message handled after the SUBSCRIBE that
the broker accepted on this connection. -/
inductive ToDevice where
  | connack (sessionPresent : Bool)
  | suback (accepted : Bool)
  | retained
  | puback (message : Outgoing) (late : Bool)
  deriving DecidableEq, Repr

structure BrokerLink where
  session : BrokerSession := .absent
  toBroker : List ToBroker := []
  toDevice : List ToDevice := []
  alive : Bool := false
  /-- The CONNECT of this connection found no session. -/
  created : Bool := false
  /-- The broker has accepted a SUBSCRIBE of this connection. -/
  granted : Bool := false
  /-- A late PUBACK of this connection was counted. -/
  answered : Bool := false
  /-- This boot has received the retained set that the session's filters brought. -/
  received : Bool := false
  deriving DecidableEq, Repr

structure Exchange where
  system : HpSystem
  link : BrokerLink

inductive ExchangeAction where
  | hp (action : HpAction)
  /-- A message of the outbox is sent again. -/
  | resend (index : Nat)
  | brokerReceive (accepts retainedFirst : Bool)
  | deviceReceive
  /-- The connection dies; the broker still gets the first `kept` packets. -/
  | die (kept : Nat)
  | loseSession
  | createEmpty
  deriving DecidableEq, Repr

namespace BrokerLink

/-- `esp_mqtt_client_start`. -/
def connect (link : BrokerLink) : BrokerLink :=
  { link with
    toBroker := [.connect], toDevice := [], alive := true
    created := false, granted := false, answered := false }

def send (link : BrokerLink) (messages : List Outgoing) : BrokerLink :=
  if link.alive then { link with toBroker := link.toBroker ++ messages.map .packet } else link

def cut (link : BrokerLink) (kept : Nat) : BrokerLink :=
  { link with
    alive := false, granted := false, toDevice := [], toBroker := link.toBroker.take kept }

/-- The broker's session becomes `session` while the client is stopped. -/
def replaceSession (link : BrokerLink) (session : BrokerSession) : BrokerLink :=
  { link.cut 0 with session := session, answered := false, received := false }

def brokerReceive (link : BrokerLink) (accepts retainedFirst : Bool) : Option BrokerLink :=
  match link.toBroker with
  | [] => none
  | .connect :: rest =>
    some { link with
      toBroker := rest
      session := if link.session = .absent then .empty else link.session
      created := decide (link.session = .absent)
      toDevice := link.toDevice ++ [.connack (decide (link.session ≠ .absent))] }
  | .packet message :: rest =>
    if link.session = .absent then none
    else if message = .subscribe then
      if accepts then
        some { link with
          toBroker := rest, session := .subscribed, granted := true
          toDevice := link.toDevice ++
            if retainedFirst then [.retained, .suback true] else [.suback true, .retained] }
      else some { link with toBroker := rest, toDevice := link.toDevice ++ [.suback false] }
    else
      some { link with
        toBroker := rest, toDevice := link.toDevice ++ [.puback message link.granted] }

end BrokerLink

namespace Exchange

open HpSystem

/-- Client events that come from the broker's answers. -/
def fromBroker : HpAction → Bool
  | .client (.connected _) | .client (.published _) | .client (.subAck _) => true
  | _ => false

/-- What the connection sees of a step of the HP core. -/
def linkAfter (link : BrokerLink) (system next : HpSystem) : HpAction → BrokerLink
  | .pub (.decide _) =>
    if next.mqtt.pub.any fun pub => decide (pub.pc = .connecting) then link.connect else link
  | .pub .close => link.cut link.toBroker.length
  | .pub _ => link.send (next.mqtt.outbox.drop system.mqtt.outbox.length)
  | .reset _ => { link.cut link.toBroker.length with answered := false, received := false }
  | _ => link

/-- The next packet from the broker, in the event task of the client.  A PUBACK or
SUBACK that the outbox does not wait for is ignored. -/
def deviceReceive (env : HpEnv) (exchange : Exchange) : Option Exchange :=
  let system := exchange.system
  let link := exchange.link
  match link.toDevice with
  | [] => none
  | .connack sessionPresent :: rest =>
    (HpSystem.step env system (.client (.connected sessionPresent))).map fun next =>
      { system := next, link := { link with toDevice := rest } }
  | .suback accepted :: rest =>
    if Outgoing.subscribe ∈ system.mqtt.outbox then
      (HpSystem.step env system (.client (.subAck accepted))).map fun next =>
        { system := next, link := { link with toDevice := rest } }
    else some { exchange with link := { link with toDevice := rest } }
  | .retained :: rest =>
    if system.mqtt.handler = .idle then
      some { exchange with link := { link with toDevice := rest, received := true } }
    else none
  | .puback message late :: rest =>
    if message ∈ system.mqtt.outbox then
      (HpSystem.step env system (.client (.published (system.mqtt.outbox.idxOf message)))).map
        fun next =>
          { system := next
            link := { link with toDevice := rest, answered := link.answered || late } }
    else some { exchange with link := { link with toDevice := rest } }

def step (env : HpEnv) (exchange : Exchange) : ExchangeAction → Option Exchange
  | .hp action =>
    if fromBroker action then none
    else
      (HpSystem.step env exchange.system action).map fun next =>
        { system := next, link := linkAfter exchange.link exchange.system next action }
  | .resend index =>
    match exchange.system.mqtt.outbox[index]? with
    | some message =>
      if exchange.system.mqtt.clientRunning && exchange.system.mqtt.connectedBit then
        some { exchange with link := exchange.link.send [message] }
      else none
    | none => none
  | .brokerReceive accepts retainedFirst =>
    (exchange.link.brokerReceive accepts retainedFirst).map fun link =>
      { exchange with link := link }
  | .deviceReceive =>
    if exchange.link.alive && exchange.system.mqtt.clientRunning then deviceReceive env exchange
    else none
  | .die kept => some { exchange with link := exchange.link.cut kept }
  | .loseSession =>
    if exchange.system.mqtt.clientRunning then none
    else some { exchange with link := exchange.link.replaceSession .absent }
  | .createEmpty =>
    if exchange.system.mqtt.clientRunning then none
    else some { exchange with link := exchange.link.replaceSession .empty }

/-- Power-up, whatever session the broker holds from before. -/
def powerUp (env : HpEnv) (nvs : Nvs) (cyclesStarted : Nat) (pendingVerify : Bool)
    (session : BrokerSession) : Exchange :=
  { system := HpSystem.boot env nvs cyclesStarted pendingVerify, link := { session := session } }

/-! ## The decision -/

/-- A connected publish cycle is about to go on without a SUBSCRIBE. -/
def skips (system : HpSystem) : ExchangeAction → Prop
  | .hp (.pub (.subscribe _)) =>
    (∃ pub ∈ system.mqtt.pub, pub.pc = .subscribing) ∧
      (system.mqtt.sessionPresent && system.mqtt.sessionSubscribed) = true
  | _ => False

def Subscribed (link : BrokerLink) : Prop :=
  link.session = .subscribed ∧ link.received = true

def SkipSound (exchange : Exchange) (action : ExchangeAction) : Prop :=
  skips exchange.system action → Subscribed exchange.link

def connecting (system : HpSystem) : Prop :=
  ∃ pub ∈ system.mqtt.pub, pub.pc = .connecting

instance (system : HpSystem) (action : ExchangeAction) : Decidable (skips system action) := by
  unfold skips
  split <;> infer_instance

instance (link : BrokerLink) : Decidable (Subscribed link) := by
  unfold Subscribed
  infer_instance

instance (system : HpSystem) : Decidable (connecting system) := by
  unfold connecting
  infer_instance

/-- With `s_session_subscribed` set, a new session is heard of: its CONNACK can
still reach the wait for it, and does before that wait ends. -/
def CreationHeard (exchange : Exchange) : ExchangeAction → Prop
  | .brokerReceive _ _ =>
    exchange.link.toBroker.head? = some .connect → exchange.link.session = .absent →
      exchange.system.mqtt.sessionSubscribed = true →
        exchange.link.alive = true ∧ connecting exchange.system
  | .hp (.pub .connectWait) =>
    exchange.system.mqtt.connectedBit = false → exchange.link.created = true →
      exchange.system.mqtt.sessionSubscribed = false
  | .createEmpty => exchange.system.mqtt.sessionSubscribed = false
  | _ => True

/-- A cycle that is about to set `s_session_subscribed` has counted the PUBACK of a
message handled after the SUBSCRIBE, or has the retained set anyway. -/
def AckAfterGrant (exchange : Exchange) : ExchangeAction → Prop
  | .hp (.pub .ackWait) =>
    (∃ pub ∈ exchange.system.mqtt.pub, pub.pc = .ackWait ∧ pub.subscribe = true) →
      exchange.system.mqtt.allAckedBit = true → exchange.system.mqtt.subscribed = true →
        exchange.link.answered = true ∨ exchange.link.received = true
  | _ => True

instance (exchange : Exchange) (action : ExchangeAction) :
    Decidable (CreationHeard exchange action) := by
  unfold CreationHeard
  split <;> infer_instance

instance (exchange : Exchange) (action : ExchangeAction) :
    Decidable (AckAfterGrant exchange action) := by
  unfold AckAfterGrant
  split <;> infer_instance

/-! ## What a step of the HP core does to the session -/

def inWindow : PubPc → Prop
  | .begin | .deciding | .otaGate | .inOta | .windowEnd | .storeOk | .clearRunning => False
  | _ => True

/-- The CONNACK of this connection is waited for, or has just come. -/
def awaits : PubPc → Prop
  | .connecting | .subscribing => True
  | _ => False

def Awaiting (system : HpSystem) : Prop :=
  ∃ pub ∈ system.mqtt.pub, awaits pub.pc

structure SessionKept (system next : HpSystem) : Prop where
  clientRunning : next.mqtt.clientRunning = system.mqtt.clientRunning
  sessionPresent : next.mqtt.sessionPresent = system.mqtt.sessionPresent
  subscribed : next.mqtt.subscribed = system.mqtt.subscribed
  sessionSubscribed : next.mqtt.sessionSubscribed = system.mqtt.sessionSubscribed
  awaiting : Awaiting system → Awaiting next
  window : (∃ pub ∈ next.mqtt.pub, inWindow pub.pc) → ∃ pub ∈ system.mqtt.pub, inWindow pub.pc

variable {env : HpEnv} {system next : HpSystem} {link : BrokerLink}

theorem SessionKept.of_mqtt (mqtt : next.mqtt = system.mqtt) : SessionKept system next := by
  refine ⟨by rw [mqtt], by rw [mqtt], by rw [mqtt], by rw [mqtt], ?_, ?_⟩
  · rintro ⟨pub, running, place⟩
    exact ⟨pub, by rw [mqtt]; exact running, place⟩
  · rw [mqtt]
    exact id

theorem SessionKept.moved {pub after : Pub} (running : system.mqtt.pub = some pub)
    (moved : next.mqtt.pub = some after)
    (clientRunning : next.mqtt.clientRunning = system.mqtt.clientRunning)
    (sessionPresent : next.mqtt.sessionPresent = system.mqtt.sessionPresent)
    (subscribed : next.mqtt.subscribed = system.mqtt.subscribed)
    (sessionSubscribed : next.mqtt.sessionSubscribed = system.mqtt.sessionSubscribed)
    (elsewhere : ¬ awaits pub.pc) (inside : inWindow after.pc → inWindow pub.pc) :
    SessionKept system next := by
  refine ⟨clientRunning, sessionPresent, subscribed, sessionSubscribed, ?_, ?_⟩
  · rintro ⟨other, found, place⟩
    cases Option.some.inj (running.symm.trans found)
    exact (elsewhere place).elim
  · rintro ⟨other, found, place⟩
    cases Option.some.inj (moved.symm.trans found)
    exact ⟨pub, running, inside place⟩

theorem sessionKept_atPubPc {pub : Pub} {pc : PubPc} (running : system.mqtt.pub = some pub)
    (elsewhere : ¬ awaits pub.pc) (inside : inWindow pc → inWindow pub.pc) :
    SessionKept system (system.atPubPc pub pc) :=
  .moved running rfl rfl rfl rfl rfl elsewhere inside

theorem sessionKept_sensor {event : SensorEvent} (placed : Placed system)
    (move : SensorMove env system event next) : SessionKept system next := by
  cases move with
  | sendFailed at_ free => exact ⟨rfl, rfl, rfl, rfl, id, id⟩
  | sendStarted at_ free =>
    refine ⟨rfl, rfl, rfl, rfl, ?_, ?_⟩
    · rintro ⟨pub, running, -⟩
      cases free.symm.trans (placed.running pub running)
    · rintro ⟨pub, running, inside⟩
      cases Option.some.inj running
      exact inside.elim
  | deliver nowUs stateRead marked at_ =>
    obtain ⟨log, checked, pending, same⟩ := system.deliver_eq nowUs stateRead marked
    rw [same]
    exact .of_mqtt rfl
  | _ => exact .of_mqtt rfl

theorem sessionKept_published {index : Nat} (taken : system.published index = some next) :
    SessionKept system next := by
  unfold published at taken
  split at taken
  · split at taken
    · cases taken
      exact ⟨rfl, rfl, rfl, rfl, id, id⟩
    · cases taken
  · cases taken

theorem sessionKept_client {event : ClientEvent} (other : fromBroker (.client event) = false)
    (taken : system.clientStep env event = some next) : SessionKept system next := by
  unfold clientStep at taken
  split at taken
  · cases event with
    | connected sessionPresent => cases other
    | published index => cases other
    | subAck accepted => cases other
    | setAllAcked => cases taken
    | error =>
      cases taken
      exact ⟨rfl, rfl, rfl, rfl, id, id⟩
    | manifest message =>
      obtain ⟨ota, -, rfl⟩ := Option.map_eq_some_iff.mp taken
      exact .of_mqtt rfl
    | install set =>
      obtain ⟨ota, -, rfl⟩ := Option.map_eq_some_iff.mp taken
      exact .of_mqtt rfl
    | cfg message =>
      cases taken
      exact .of_mqtt rfl
  · split at taken
    · cases taken
      exact ⟨rfl, rfl, rfl, rfl, id, id⟩
    · cases taken

theorem send_nil (link : BrokerLink) : link.send [] = link := by
  unfold BrokerLink.send
  split <;> simp

/-- The steps of the publish task that the session depends on, and the rest. -/
inductive PubSession (system : HpSystem) (pub : Pub) : PubEvent → HpSystem → Prop where
  | kept {event next} (kept : SessionKept system next)
      (sends : ∀ link, ∃ messages,
        linkAfter link system next (.pub event) = link.send messages) :
    PubSession system pub event next
  | start (clientOk : Bool) (at_ : pub.pc = .deciding) :
    PubSession system pub (.decide clientOk)
      { system with
        mqtt := { system.mqtt.startClient with pub := some { pub with pc := .connecting } } }
  | unheard (at_ : pub.pc = .connecting) (silent : system.mqtt.connectedBit = false) :
    PubSession system pub .connectWait (system.atPubPc pub .closing)
  | subscribe (stats : Option LinkStats) (at_ : pub.pc = .subscribing) :
    PubSession system pub (.subscribe stats) (system.subscribe pub stats)
  | acked (at_ : pub.pc = .ackWait) (all : system.mqtt.allAckedBit = true) :
    PubSession system pub .ackWait (system.ackWait pub)
  | close (at_ : pub.pc = .closing) :
    PubSession system pub .close (system.closeSession pub)

theorem pubSession_gate {pub : Pub} (running : system.mqtt.pub = some pub)
    (at_ : pub.pc = .deciding) (clientOk : Bool) :
    PubSession system pub (.decide clientOk) (system.atPubPc pub .otaGate) := by
  refine .kept (sessionKept_atPubPc running (by rw [at_]; exact id) False.elim) ?_
  intro link
  exact ⟨[], (send_nil link).symm⟩

theorem PubSession.of_kept {pub : Pub} {event : PubEvent} (kept : SessionKept system next)
    (carries : ∀ link, linkAfter link system next (.pub event) =
      link.send (next.mqtt.outbox.drop system.mqtt.outbox.length)) :
    PubSession system pub event next :=
  .kept kept fun link => ⟨_, carries link⟩

theorem pubSession {pub : Pub} {event : PubEvent} (running : system.mqtt.pub = some pub)
    (taken : system.pubStep env pub event = some next) : PubSession system pub event next := by
  cases pubStep_case taken with
  | decide clientOk at_ =>
    unfold startPersistentClient
    split
    · exact pubSession_gate running at_ clientOk
    · split
      · exact .start clientOk at_
      · exact pubSession_gate running at_ clientOk
  | connectWait at_ =>
    cases heard : system.mqtt.connectedBit with
    | false => exact .unheard at_ heard
    | true =>
      refine .of_kept ⟨rfl, rfl, rfl, rfl, ?_, ?_⟩ fun _ => rfl
      · exact fun _ => ⟨_, rfl, trivial⟩
      · exact fun _ => ⟨pub, running, by rw [at_]; trivial⟩
  | subscribe stats at_ => exact .subscribe stats at_
  | ackWait at_ =>
    by_cases all : system.mqtt.allAckedBit = true
    · exact .acked at_ all
    · have same : system.ackWait pub = system.atPubPc { pub with ok := false } .closing :=
        if_neg all
      rw [same]
      exact .of_kept (.moved running rfl rfl rfl rfl rfl (by rw [at_]; exact id)
        fun _ => by rw [at_]; trivial) fun _ => rfl
  | close at_ idle => exact .close at_
  | @replay batch nowUs at_ =>
    obtain ⟨log, pc, same, place⟩ := system.replay_eq pub batch nowUs
    rw [same]
    exact .of_kept (.moved running rfl rfl rfl rfl rfl (by rw [at_]; exact id)
      fun _ => by rw [at_]; trivial) fun _ => rfl
  | @backfillWait batch count at_ =>
    unfold backfillWait
    split
    · exact .of_kept (.moved running rfl rfl rfl rfl rfl (by rw [at_]; exact id)
        fun _ => by rw [at_]; trivial) fun _ => rfl
    · exact .of_kept (sessionKept_atPubPc running (by rw [at_]; exact id)
        fun _ => by rw [at_]; trivial) fun _ => rfl
  | otaGate groupCreated at_ =>
    obtain ⟨ota, pc, same, place⟩ := otaGate_eq env system pub groupCreated
    rw [same]
    refine .of_kept (.moved running rfl rfl rfl rfl rfl (by rw [at_]; exact id) ?_) fun _ => rfl
    intro inside
    rcases place with rfl | rfl <;> exact inside.elim
  | reachable reachable uriFound at_ =>
    refine .of_kept (sessionKept_atPubPc running (by rw [at_]; exact id) ?_) fun _ => rfl
    intro inside
    split at inside <;> exact inside.elim
  | clearRunning at_ =>
    refine .of_kept ⟨rfl, rfl, rfl, rfl, ?_, ?_⟩ fun _ => rfl
    · rintro ⟨other, found, place⟩
      cases Option.some.inj (running.symm.trans found)
      rw [at_] at place
      exact place.elim
    · rintro ⟨other, ⟨⟩, -⟩
  | otaDone at_ idle | windowEnd at_ | storeOk at_ =>
    exact .of_kept (.moved running rfl rfl rfl rfl rfl (by rw [at_]; exact id) False.elim)
      fun _ => rfl
  | setExpected at_ | resetReceived at_ | clearAllAcked at_ | discover at_ | publishState at_
  | publishBackfill at_ | settle at_ | merge at_ | persist at_ | setTxDone accepted at_ =>
    exact .of_kept (.moved running rfl rfl rfl rfl rfl (by rw [at_]; exact id)
      fun _ => by rw [at_]; trivial) fun _ => rfl

/-! ## The invariant -/

/-- No late PUBACK is in front of the retained set. -/
def RetainedFirst : List ToDevice → Prop
  | [] | .retained :: _ => True
  | .puback _ true :: _ => False
  | .puback _ false :: rest | .connack _ :: rest | .suback _ :: rest => RetainedFirst rest

theorem retainedFirst_append (first rest : List ToDevice) :
    RetainedFirst (first ++ rest) ↔
      RetainedFirst first ∧ (.retained ∈ first ∨ RetainedFirst rest) := by
  induction first with
  | nil => simp [RetainedFirst]
  | cons packet later ih =>
    cases packet with
    | retained => simp [RetainedFirst]
    | connack sessionPresent => simpa [RetainedFirst] using ih
    | suback accepted => simpa [RetainedFirst] using ih
    | puback message late =>
      cases late with
      | true => simp [RetainedFirst]
      | false => simpa [RetainedFirst] using ih

structure Inv (exchange : Exchange) : Prop where
  placed : Placed exchange.system
  window : (∃ pub ∈ exchange.system.mqtt.pub, inWindow pub.pc) →
    exchange.system.mqtt.clientRunning = true
  unhandled : .connect ∈ exchange.link.toBroker →
    exchange.system.mqtt.sessionPresent = false ∧ exchange.link.toDevice = [] ∧
      exchange.link.created = false
  once : .connect ∉ exchange.link.toBroker.tail
  resumed : exchange.system.mqtt.clientRunning = true →
    exchange.system.mqtt.sessionPresent = true →
      exchange.link.session ≠ .absent ∧ exchange.link.created = false
  resuming : .connack true ∈ exchange.link.toDevice →
    exchange.link.session ≠ .absent ∧ exchange.link.created = false
  accepted : exchange.system.mqtt.clientRunning = true →
    exchange.system.mqtt.subscribed = true → exchange.link.session = .subscribed
  accepting : .suback true ∈ exchange.link.toDevice → exchange.link.session = .subscribed
  granted : exchange.link.granted = true →
    exchange.link.received = true ∨ .retained ∈ exchange.link.toDevice
  ordered : exchange.link.received = true ∨ RetainedFirst exchange.link.toDevice
  answered : exchange.link.answered = true → exchange.link.received = true
  known : exchange.system.mqtt.sessionSubscribed = true →
    Subscribed exchange.link ∨ exchange.link.session = .absent ∨
      exchange.link.created = true ∧ Awaiting exchange.system

theorem inv_powerUp (env : HpEnv) (nvs : Nvs) (cyclesStarted : Nat) (pendingVerify : Bool)
    (session : BrokerSession) : Inv (powerUp env nvs cyclesStarted pendingVerify session) where
  placed := placed_boot env nvs cyclesStarted pendingVerify
  window := by rintro ⟨pub, ⟨⟩, -⟩
  unhandled := by rintro ⟨⟩
  once := by rintro ⟨⟩
  resumed := by rintro ⟨⟩
  resuming := by rintro ⟨⟩
  accepted := by rintro ⟨⟩
  accepting := by rintro ⟨⟩
  granted := by rintro ⟨⟩
  ordered := .inr trivial
  answered := by rintro ⟨⟩
  known := by rintro ⟨⟩

/-! ### Steps that only one side takes -/

theorem inv_kept (inv : Inv ⟨system, link⟩) (placed : Placed next)
    (kept : SessionKept system next) : Inv ⟨next, link⟩ where
  placed := placed
  window := fun inside => kept.clientRunning.trans (inv.window (kept.window inside))
  unhandled := fun coming => by
    obtain ⟨absent, rest⟩ := inv.unhandled coming
    exact ⟨kept.sessionPresent.trans absent, rest⟩
  once := inv.once
  resumed := fun running present =>
    inv.resumed (kept.clientRunning.symm.trans running) (kept.sessionPresent.symm.trans present)
  resuming := inv.resuming
  accepted := fun running subscribed =>
    inv.accepted (kept.clientRunning.symm.trans running) (kept.subscribed.symm.trans subscribed)
  accepting := inv.accepting
  granted := inv.granted
  ordered := inv.ordered
  answered := inv.answered
  known := fun known => by
    rcases inv.known (kept.sessionSubscribed.symm.trans known) with sound | gone | ⟨created, waits⟩
    · exact .inl sound
    · exact .inr (.inl gone)
    · exact .inr (.inr ⟨created, kept.awaiting waits⟩)

theorem inv_send (inv : Inv ⟨system, link⟩) (messages : List Outgoing) :
    Inv ⟨system, link.send messages⟩ := by
  unfold BrokerLink.send
  split
  · have packets : ToBroker.connect ∉ messages.map ToBroker.packet := by simp
    refine { inv with unhandled := ?_, once := ?_ }
    · intro coming
      exact inv.unhandled ((List.mem_append.mp coming).resolve_right packets)
    · intro again
      cases sent : link.toBroker with
      | nil =>
        simp only [sent, List.nil_append] at again
        exact packets (List.mem_of_mem_tail again)
      | cons first rest =>
        simp only [sent, List.cons_append, List.tail_cons] at again
        have later : ToBroker.connect ∉ rest := by simpa [sent] using inv.once
        exact (List.mem_append.mp again).elim later packets
  · exact inv

theorem inv_cut (inv : Inv ⟨system, link⟩) (kept : Nat) : Inv ⟨system, link.cut kept⟩ where
  placed := inv.placed
  window := inv.window
  unhandled := fun coming => by
    obtain ⟨absent, -, created⟩ := inv.unhandled (List.mem_of_mem_take coming)
    exact ⟨absent, rfl, created⟩
  once := fun again =>
    inv.once ((List.take_sublist kept link.toBroker).tail.subset again)
  resumed := inv.resumed
  resuming := by rintro ⟨⟩
  accepted := inv.accepted
  accepting := by rintro ⟨⟩
  granted := by rintro ⟨⟩
  ordered := .inr trivial
  answered := inv.answered
  known := inv.known

theorem inv_replaceSession (inv : Inv ⟨system, link⟩) {session : BrokerSession}
    (stopped : system.mqtt.clientRunning = false)
    (lost : system.mqtt.sessionSubscribed = true → session = .absent) :
    Inv ⟨system, link.replaceSession session⟩ where
  placed := inv.placed
  window := inv.window
  unhandled := fun coming => by simp [BrokerLink.replaceSession, BrokerLink.cut] at coming
  once := by simp [BrokerLink.replaceSession, BrokerLink.cut]
  resumed := fun running => by cases stopped.symm.trans running
  resuming := by rintro ⟨⟩
  accepted := fun running => by cases stopped.symm.trans running
  accepting := by rintro ⟨⟩
  granted := by rintro ⟨⟩
  ordered := .inr trivial
  answered := by rintro ⟨⟩
  known := fun known => .inr (.inl (lost known))

/-! ### The broker -/

theorem inv_brokerConnect {rest : List ToBroker} (inv : Inv ⟨system, link⟩)
    (head : link.toBroker = .connect :: rest)
    (heard : link.session = .absent → system.mqtt.sessionSubscribed = true → Awaiting system) :
    Inv ⟨system, { link with
      toBroker := rest
      session := if link.session = .absent then .empty else link.session
      created := decide (link.session = .absent)
      toDevice := link.toDevice ++ [.connack (decide (link.session ≠ .absent))] }⟩ := by
  obtain ⟨absent, none_, fresh⟩ : system.mqtt.sessionPresent = false ∧ link.toDevice = [] ∧
      link.created = false := inv.unhandled (by rw [head]; exact List.mem_cons_self)
  have single : ToBroker.connect ∉ rest := by simpa [head] using inv.once
  constructor
  · exact inv.placed
  · exact inv.window
  · exact fun coming => (single coming).elim
  · exact fun again => single (List.mem_of_mem_tail again)
  · intro running present
    cases absent.symm.trans present
  · intro coming
    have found : link.session ≠ .absent := by simpa [none_] using coming
    exact ⟨by simp [found], by simp [found]⟩
  · intro running subscribed
    have holds := inv.accepted running subscribed
    simp only at holds ⊢
    rw [holds]
    rfl
  · simp [none_]
  · intro granted
    exact (inv.granted granted).imp id fun member => List.mem_append_left _ member
  · simp [none_, RetainedFirst]
  · exact inv.answered
  · intro known
    rcases inv.known known with ⟨subscribed, received⟩ | gone | ⟨created, waits⟩
    · refine .inl ⟨?_, received⟩
      simp only at subscribed ⊢
      rw [subscribed]
      rfl
    · exact .inr (.inr ⟨by simpa using gone, heard gone known⟩)
    · cases fresh.symm.trans created

theorem inv_brokerPacket {rest : List ToBroker} {message : Outgoing} (inv : Inv ⟨system, link⟩)
    (head : link.toBroker = .packet message :: rest) (found : link.session ≠ .absent)
    {session : BrokerSession} {granted : Bool} {answers : List ToDevice}
    (kept : session ≠ .absent) (same : link.session = .subscribed → session = .subscribed)
    (acks : .suback true ∈ answers → session = .subscribed)
    (grants : granted = true → link.granted = true ∨ .retained ∈ answers)
    (noConnack : .connack true ∉ answers)
    (ordered : link.granted = true ∨ RetainedFirst answers) :
    Inv ⟨system, { link with
      toBroker := rest, session := session, granted := granted
      toDevice := link.toDevice ++ answers }⟩ := by
  have single : ToBroker.connect ∉ rest := by simpa [head] using inv.once
  constructor
  · exact inv.placed
  · exact inv.window
  · exact fun coming => (single coming).elim
  · exact fun again => single (List.mem_of_mem_tail again)
  · exact fun running present => ⟨kept, (inv.resumed running present).2⟩
  · intro coming
    exact ⟨kept, (inv.resuming ((List.mem_append.mp coming).resolve_right noConnack)).2⟩
  · exact fun running subscribed => same (inv.accepted running subscribed)
  · intro coming
    rcases List.mem_append.mp coming with before | now
    · exact same (inv.accepting before)
    · exact acks now
  · intro isGranted
    rcases grants isGranted with before | now
    · exact (inv.granted before).imp id fun member => List.mem_append_left _ member
    · exact .inr (List.mem_append_right _ now)
  · rcases inv.ordered with received | first
    · exact .inl received
    · rcases ordered with before | answers
      · refine (inv.granted before).imp id fun member => ?_
        exact (retainedFirst_append _ _).mpr ⟨first, .inl member⟩
      · exact .inr ((retainedFirst_append _ _).mpr ⟨first, .inr answers⟩)
  · exact inv.answered
  · intro known
    rcases inv.known known with ⟨subscribed, received⟩ | gone | waits
    · exact .inl ⟨same subscribed, received⟩
    · exact (found gone).elim
    · exact .inr (.inr waits)

theorem inv_brokerReceive {accepts retainedFirst : Bool} {after : BrokerLink}
    (inv : Inv ⟨system, link⟩)
    (heard : CreationHeard ⟨system, link⟩ (.brokerReceive accepts retainedFirst))
    (taken : link.brokerReceive accepts retainedFirst = some after) : Inv ⟨system, after⟩ := by
  unfold BrokerLink.brokerReceive at taken
  split at taken
  case h_1 => cases taken
  case h_2 rest head =>
    cases taken
    refine inv_brokerConnect inv head fun absent known => ?_
    obtain ⟨-, pub, running, at_⟩ := heard (by rw [head]; rfl) absent known
    exact ⟨pub, running, by rw [at_]; trivial⟩
  case h_3 message rest head =>
    simp only [Option.ite_none_left_eq_some] at taken
    obtain ⟨found, taken⟩ := taken
    split at taken
    · cases accepts with
      | true =>
        cases taken
        refine inv_brokerPacket inv head found (by simp) (fun _ => rfl) (fun _ => rfl) ?_ ?_
          (.inr ?_)
        · cases retainedFirst <;> simp
        · cases retainedFirst <;> simp
        · cases retainedFirst <;> simp [RetainedFirst]
      | false =>
        cases taken
        exact inv_brokerPacket inv head found found id (by simp) .inl (by simp)
          (.inr (by simp [RetainedFirst]))
    · cases taken
      apply inv_brokerPacket inv head found found id (by simp) .inl (by simp)
      cases link.granted with
      | true => exact .inl rfl
      | false => exact .inr trivial

/-! ### The event task of the client -/

theorem inv_connected {sessionPresent : Bool} {rest : List ToDevice} (inv : Inv ⟨system, link⟩)
    (head : link.toDevice = .connack sessionPresent :: rest)
    (taken : HpSystem.step env system (.client (.connected sessionPresent)) = some next) :
    Inv ⟨next, { link with toDevice := rest }⟩ := by
  have placed := placed_step inv.placed taken
  simp only [HpSystem.step, Option.ite_none_right_eq_some] at taken
  obtain ⟨running, taken⟩ := taken
  unfold clientStep at taken
  split at taken
  case h_2 => cases taken
  case h_1 =>
    cases taken
    constructor
    · exact placed
    · exact inv.window
    · intro coming
      obtain ⟨-, none_, -⟩ := inv.unhandled coming
      cases head.symm.trans none_
    · exact inv.once
    · rintro - rfl
      exact inv.resuming (by rw [head]; exact List.mem_cons_self)
    · exact fun coming => inv.resuming (by rw [head]; exact List.mem_cons_of_mem _ coming)
    · exact inv.accepted
    · exact fun coming => inv.accepting (by rw [head]; exact List.mem_cons_of_mem _ coming)
    · exact fun granted => by simpa [head] using inv.granted granted
    · simpa [head, RetainedFirst] using inv.ordered
    · exact inv.answered
    · exact inv.known

theorem inv_dropped {packet : ToDevice} {rest : List ToDevice} {answered received : Bool}
    (inv : Inv ⟨system, link⟩) (head : link.toDevice = packet :: rest)
    (retained : packet = .retained → received = true)
    (kept : link.received = true → received = true)
    (counted : answered = true → link.answered = true ∨ ∃ message, packet = .puback message true) :
    Inv ⟨system, { link with toDevice := rest, answered := answered, received := received }⟩ where
  placed := inv.placed
  window := inv.window
  unhandled := fun coming => by
    obtain ⟨-, none_, -⟩ := inv.unhandled coming
    cases head.symm.trans none_
  once := inv.once
  resumed := inv.resumed
  resuming := fun coming => inv.resuming (by rw [head]; exact List.mem_cons_of_mem _ coming)
  accepted := inv.accepted
  accepting := fun coming => inv.accepting (by rw [head]; exact List.mem_cons_of_mem _ coming)
  granted := fun granted => by
    rcases inv.granted granted with before | member
    · exact .inl (kept before)
    · rw [head] at member
      rcases List.mem_cons.mp member with same | later
      · exact .inl (retained same.symm)
      · exact .inr later
  ordered := by
    rcases inv.ordered with before | first
    · exact .inl (kept before)
    · rw [head] at first
      cases packet with
      | retained => exact .inl (retained rfl)
      | connack sessionPresent => exact .inr first
      | suback accepted => exact .inr first
      | puback message late =>
        cases late with
        | true => exact first.elim
        | false => exact .inr first
  answered := fun isAnswered => by
    rcases counted isAnswered with before | ⟨message, rfl⟩
    · exact kept (inv.answered before)
    · rcases inv.ordered with before | first
      · exact kept before
      · rw [head] at first
        exact first.elim
  known := fun known => by
    rcases inv.known known with ⟨subscribed, received⟩ | other
    · exact .inl ⟨subscribed, kept received⟩
    · exact .inr other

theorem inv_subAck {accepted : Bool} {rest : List ToDevice} (inv : Inv ⟨system, link⟩)
    (head : link.toDevice = .suback accepted :: rest)
    (taken : HpSystem.step env system (.client (.subAck accepted)) = some next) :
    Inv ⟨next, { link with toDevice := rest }⟩ := by
  have placed := placed_step inv.placed taken
  have dropped : Inv ⟨system, { link with toDevice := rest }⟩ :=
    inv_dropped inv head (by simp) id .inl
  simp only [HpSystem.step, Option.ite_none_right_eq_some] at taken
  obtain ⟨running, taken⟩ := taken
  unfold clientStep at taken
  split at taken
  case h_2 => cases taken
  case h_1 =>
    simp only [idleClientStep, subAck, Option.ite_none_right_eq_some] at taken
    cases taken.2
    refine { dropped with placed := placed, accepted := ?_ }
    intro running subscribed
    rcases (Bool.or_eq_true _ _).mp subscribed with before | rfl
    · exact inv.accepted running before
    · exact inv.accepting (by rw [head]; exact List.mem_cons_self)

theorem inv_published {index : Nat} {message : Outgoing} {late : Bool} {rest : List ToDevice}
    (inv : Inv ⟨system, link⟩) (head : link.toDevice = .puback message late :: rest)
    (taken : HpSystem.step env system (.client (.published index)) = some next) :
    Inv ⟨next, { link with toDevice := rest, answered := link.answered || late }⟩ := by
  have placed := placed_step inv.placed taken
  simp only [HpSystem.step, Option.ite_none_right_eq_some] at taken
  obtain ⟨running, taken⟩ := taken
  unfold clientStep at taken
  split at taken
  case h_2 => cases taken
  case h_1 =>
    refine inv_kept (inv_dropped inv head (by simp) id ?_) placed (sessionKept_published taken)
    intro answered
    rcases (Bool.or_eq_true _ _).mp answered with before | rfl
    · exact .inl before
    · exact .inr ⟨message, rfl⟩

theorem inv_deviceReceive {exchange after : Exchange} (inv : Inv exchange)
    (taken : deviceReceive env exchange = some after) : Inv after := by
  obtain ⟨system, link⟩ := exchange
  unfold deviceReceive at taken
  dsimp only at taken
  split at taken
  case h_1 => cases taken
  case h_2 sessionPresent rest head =>
    obtain ⟨next, stepped, rfl⟩ := Option.map_eq_some_iff.mp taken
    exact inv_connected inv head stepped
  case h_3 accepted rest head =>
    split at taken
    · obtain ⟨next, stepped, rfl⟩ := Option.map_eq_some_iff.mp taken
      exact inv_subAck inv head stepped
    · cases taken
      exact inv_dropped inv head (by simp) id .inl
  case h_4 rest head =>
    simp only [Option.ite_none_right_eq_some] at taken
    cases taken.2
    exact inv_dropped inv head (fun _ => rfl) (fun _ => rfl) .inl
  case h_5 message late rest head =>
    split at taken
    · obtain ⟨next, stepped, rfl⟩ := Option.map_eq_some_iff.mp taken
      exact inv_published inv head stepped
    · cases taken
      exact inv_dropped inv head (by simp) id .inl

/-! ### The HP core -/

theorem not_awaiting {pub : Pub} (running : system.mqtt.pub = some pub)
    (elsewhere : ¬ awaits pub.pc) : ¬ Awaiting system := by
  rintro ⟨other, found, place⟩
  cases Option.some.inj (running.symm.trans found)
  exact elsewhere place

theorem Inv.clientRuns {pub : Pub} (inv : Inv ⟨system, link⟩)
    (running : system.mqtt.pub = some pub) (inside : inWindow pub.pc) :
    system.mqtt.clientRunning = true :=
  inv.window ⟨pub, running, inside⟩

theorem inv_start {pub : Pub} (inv : Inv ⟨system, link⟩) (running : system.mqtt.pub = some pub)
    (at_ : pub.pc = .deciding)
    (placed : Placed
      { system with
        mqtt := { system.mqtt.startClient with pub := some { pub with pc := .connecting } } }) :
    Inv ⟨{ system with
      mqtt := { system.mqtt.startClient with pub := some { pub with pc := .connecting } } },
      link.connect⟩ where
  placed := placed
  window := fun _ => rfl
  unhandled := fun _ => ⟨rfl, rfl, rfl⟩
  once := by simp [BrokerLink.connect]
  resumed := by rintro - ⟨⟩
  resuming := by rintro ⟨⟩
  accepted := by rintro - ⟨⟩
  accepting := by rintro ⟨⟩
  granted := by rintro ⟨⟩
  ordered := .inr trivial
  answered := by rintro ⟨⟩
  known := fun known => by
    rcases inv.known known with sound | gone | ⟨-, waits⟩
    · exact .inl sound
    · exact .inr (.inl gone)
    · exact (not_awaiting running (by rw [at_]; exact id) waits).elim

theorem inv_unheard {pub : Pub} (inv : Inv ⟨system, link⟩) (running : system.mqtt.pub = some pub)
    (at_ : pub.pc = .connecting)
    (heard : link.created = true → system.mqtt.sessionSubscribed = false)
    (placed : Placed (system.atPubPc pub .closing)) :
    Inv ⟨system.atPubPc pub .closing, link⟩ := by
  refine { inv with placed := placed, window := ?_, known := ?_ }
  · exact fun _ => inv.clientRuns running (by rw [at_]; trivial)
  · intro known
    rcases inv.known known with sound | gone | ⟨created, -⟩
    · exact .inl sound
    · exact .inr (.inl gone)
    · cases known.symm.trans (heard created)

theorem Inv.skipped {pub : Pub} (inv : Inv ⟨system, link⟩) (running : system.mqtt.pub = some pub)
    (at_ : pub.pc = .subscribing)
    (known : (system.mqtt.sessionPresent && system.mqtt.sessionSubscribed) = true) :
    Subscribed link := by
  obtain ⟨present, subscribed⟩ := (Bool.and_eq_true _ _).mp known
  obtain ⟨found, resumed⟩ := inv.resumed (inv.clientRuns running (by rw [at_]; trivial)) present
  rcases inv.known subscribed with sound | gone | ⟨created, -⟩
  · exact sound
  · exact (found gone).elim
  · cases resumed.symm.trans created

theorem inv_subscribe {pub : Pub} {stats : Option LinkStats} (inv : Inv ⟨system, link⟩)
    (running : system.mqtt.pub = some pub) (at_ : pub.pc = .subscribing)
    (placed : Placed (system.subscribe pub stats)) :
    Inv ⟨system.subscribe pub stats, link⟩ := by
  refine { inv with placed := placed, window := ?_, known := ?_ }
  · exact fun _ => inv.clientRuns running (by rw [at_]; trivial)
  · exact fun known => .inl (inv.skipped running at_ known)

theorem inv_acked {pub : Pub} (inv : Inv ⟨system, link⟩) (running : system.mqtt.pub = some pub)
    (at_ : pub.pc = .ackWait) (all : system.mqtt.allAckedBit = true)
    (granted : AckAfterGrant ⟨system, link⟩ (.hp (.pub .ackWait)))
    (placed : Placed (system.ackWait pub)) : Inv ⟨system.ackWait pub, link⟩ := by
  have runs := inv.clientRuns running (by rw [at_]; trivial)
  have same : system.ackWait pub = _ := if_pos all
  rw [same] at placed ⊢
  refine { inv with placed := placed, window := fun _ => runs, known := ?_ }
  intro known
  rcases (Bool.or_eq_true _ _).mp known with before | now
  · rcases inv.known before with sound | gone | ⟨-, waits⟩
    · exact .inl sound
    · exact .inr (.inl gone)
    · exact (not_awaiting running (by rw [at_]; exact id) waits).elim
  · obtain ⟨subscribe, accepted⟩ := (Bool.and_eq_true _ _).mp now
    have received : link.received = true := by
      rcases granted ⟨pub, running, at_, subscribe⟩ all accepted with answered | received
      · exact inv.answered answered
      · exact received
    exact .inl ⟨inv.accepted runs accepted, received⟩

theorem inv_close {pub : Pub} (inv : Inv ⟨system, link⟩) (running : system.mqtt.pub = some pub)
    (at_ : pub.pc = .closing) (placed : Placed (system.closeSession pub)) :
    Inv ⟨system.closeSession pub, link⟩ where
  placed := placed
  window := by
    rintro ⟨other, found, inside⟩
    cases Option.some.inj found
    exact inside.elim
  unhandled := inv.unhandled
  once := inv.once
  resumed := by rintro ⟨⟩
  resuming := inv.resuming
  accepted := by rintro ⟨⟩
  accepting := inv.accepting
  granted := inv.granted
  ordered := inv.ordered
  answered := inv.answered
  known := fun known => by
    rcases inv.known known with sound | gone | ⟨-, waits⟩
    · exact .inl sound
    · exact .inr (.inl gone)
    · exact (not_awaiting running (by rw [at_]; exact id) waits).elim

theorem inv_pub {pub : Pub} {event : PubEvent} (inv : Inv ⟨system, link⟩)
    (running : system.mqtt.pub = some pub) (placed : Placed next)
    (heard : CreationHeard ⟨system, link⟩ (.hp (.pub event)))
    (granted : AckAfterGrant ⟨system, link⟩ (.hp (.pub event)))
    (taken : system.pubStep env pub event = some next) :
    Inv ⟨next, linkAfter link system next (.pub event)⟩ := by
  cases pubSession running taken with
  | kept kept sends =>
    obtain ⟨messages, sent⟩ := sends link
    rw [sent]
    exact inv_send (inv_kept inv placed kept) messages
  | start clientOk at_ => exact inv_start inv running at_ placed
  | unheard at_ silent => exact inv_send (inv_unheard inv running at_ (heard silent) placed) _
  | subscribe stats at_ => exact inv_send (inv_subscribe inv running at_ placed) _
  | acked at_ all => exact inv_send (inv_acked inv running at_ all granted placed) _
  | close at_ => exact inv_cut (inv_close inv running at_ placed) _

theorem inv_reset (inv : Inv ⟨system, link⟩) (kept : Nat) (pendingVerify : Bool) :
    Inv ⟨HpSystem.boot env system.nvs system.cyclesStarted pendingVerify,
      { link.cut kept with answered := false, received := false }⟩ := by
  obtain ⟨-, -, unhandled, once, -⟩ := inv_cut inv kept
  exact {
    placed := placed_boot env system.nvs system.cyclesStarted pendingVerify
    window := by rintro ⟨pub, ⟨⟩, -⟩
    unhandled := fun coming => ⟨rfl, rfl, (unhandled coming).2.2⟩
    once := once
    resumed := by rintro ⟨⟩
    resuming := by rintro ⟨⟩
    accepted := by rintro ⟨⟩
    accepting := by rintro ⟨⟩
    granted := by rintro ⟨⟩
    ordered := .inr trivial
    answered := by rintro ⟨⟩
    known := by rintro ⟨⟩ }

theorem inv_hp {action : HpAction} (inv : Inv ⟨system, link⟩) (own : fromBroker action = false)
    (heard : CreationHeard ⟨system, link⟩ (.hp action))
    (granted : AckAfterGrant ⟨system, link⟩ (.hp action))
    (taken : HpSystem.step env system action = some next) :
    Inv ⟨next, linkAfter link system next action⟩ := by
  have placed := placed_step inv.placed taken
  cases action with
  | sensor event =>
    exact inv_kept inv placed (sessionKept_sensor inv.placed (sensorStep_move taken))
  | pub event =>
    simp only [HpSystem.step] at taken
    split at taken
    case h_1 pub running => exact inv_pub inv running placed heard granted taken
    case h_2 => cases taken
  | tail =>
    simp only [HpSystem.step, Option.ite_none_right_eq_some] at taken
    cases taken.2
    exact inv_kept inv placed ⟨rfl, rfl, rfl, rfl, id, id⟩
  | client event =>
    simp only [HpSystem.step, Option.ite_none_right_eq_some] at taken
    exact inv_kept inv placed (sessionKept_client own taken.2)
  | ota event accepted =>
    cases step_move taken with
    | ota running at_ inCycle stepped =>
      obtain ⟨radio, same⟩ := system.otaRadio_eq event accepted
      refine inv_kept inv placed (.of_mqtt ?_)
      rw [same]
  | reset pendingVerify =>
    cases taken
    exact inv_reset inv _ pendingVerify

theorem inv_step (exchange : Exchange) (action : ExchangeAction) (after : Exchange)
    (inv : Inv exchange)
    (met : CreationHeard exchange action ∧ AckAfterGrant exchange action)
    (taken : step env exchange action = some after) : Inv after := by
  obtain ⟨system, link⟩ := exchange
  cases action with
  | hp action =>
    simp only [step, Option.ite_none_left_eq_some, Bool.not_eq_true] at taken
    obtain ⟨next, stepped, rfl⟩ := Option.map_eq_some_iff.mp taken.2
    exact inv_hp inv taken.1 met.1 met.2 stepped
  | resend index =>
    simp only [step] at taken
    split at taken
    case h_1 message found =>
      simp only [Option.ite_none_right_eq_some] at taken
      cases taken.2
      exact inv_send inv [message]
    case h_2 => cases taken
  | brokerReceive accepts retainedFirst =>
    obtain ⟨received, replied, rfl⟩ := Option.map_eq_some_iff.mp taken
    exact inv_brokerReceive inv met.1 replied
  | deviceReceive =>
    simp only [step, Option.ite_none_right_eq_some] at taken
    exact inv_deviceReceive inv taken.2
  | die kept =>
    cases taken
    exact inv_cut inv kept
  | loseSession =>
    simp only [step, Option.ite_none_left_eq_some, Bool.not_eq_true] at taken
    cases taken.2
    exact inv_replaceSession inv taken.1 fun _ => rfl
  | createEmpty =>
    simp only [step, Option.ite_none_left_eq_some, Bool.not_eq_true] at taken
    cases taken.2
    refine inv_replaceSession inv taken.1 fun known => ?_
    cases known.symm.trans met.1

theorem skipSound_of_inv (exchange : Exchange) (action : ExchangeAction) (inv : Inv exchange) :
    SkipSound exchange action := by
  obtain ⟨system, link⟩ := exchange
  intro skipped
  unfold skips at skipped
  split at skipped
  · obtain ⟨⟨pub, running, at_⟩, known⟩ := skipped
    exact inv.skipped running at_ known
  · exact skipped.elim

/-- Whatever the broker held before the power-up: no needed SUBSCRIBE is skipped in
a run where every new session is heard of and `s_session_subscribed` follows the
retained set. -/
theorem skips_sound (env : HpEnv) (nvs : Nvs) (cyclesStarted : Nat) (pendingVerify : Bool)
    (session : BrokerSession) (actions : List ExchangeAction)
    (met : Runs.Along (step env)
      (fun exchange action => CreationHeard exchange action ∧ AckAfterGrant exchange action)
      (powerUp env nvs cyclesStarted pendingVerify session) actions) :
    Runs.Along (step env) SkipSound (powerUp env nvs cyclesStarted pendingVerify session)
      actions :=
  Runs.along_of_invariant Inv inv_step
    (fun exchange action inv _ => skipSound_of_inv exchange action inv)
    (inv_powerUp env nvs cyclesStarted pendingVerify session) met

/-! ## Runs -/

/-- From the attach gate to the CONNECT. -/
def wakeAndConnect (heartbeat : Nat) : List ExchangeAction :=
  (takeUp (reading heartbeat (.fin 21))).map .hp ++
    [.hp (.sensor .isBusy), .hp (.pub (.reachable true true)), .hp (.pub (.decide true))]

def decideToSubscribe : ExchangeAction := .hp (.pub (.subscribe none))

/-- A first cycle of a boot: the broker accepts the SUBSCRIBE and answers all that
follows it. -/
def subscribeOnce : List ExchangeAction :=
  attachFirst.map .hp ++ wakeAndConnect 1 ++
    [.brokerReceive true false, .deviceReceive, .hp (.pub .connectWait), decideToSubscribe] ++
    [PubEvent.setExpected, .resetReceived, .clearAllAcked, .discover, .publishState].map
      (fun event => .hp (.pub event)) ++
    List.replicate 34 (.brokerReceive true false) ++ List.replicate 35 .deviceReceive ++
    [.hp (.client .setAllAcked)] ++
    (publishToOutcome ++ publishEnd ++ noteOutcome ++ sleepAndWake).map .hp

/-- A later cycle, up to its decision. -/
def resume (heartbeat : Nat) : List ExchangeAction :=
  .hp (.sensor (.attachGate true)) :: wakeAndConnect heartbeat ++
    [.brokerReceive true false, .deviceReceive, .hp (.pub .connectWait)]

/-- A cycle whose CONNACK is lost with its connection. -/
def connackLost : List ExchangeAction :=
  .hp (.sensor (.attachGate true)) :: wakeAndConnect 2 ++ [.brokerReceive true false, .die 0] ++
    [PubEvent.connectWait, .close, .otaGate true, .windowEnd, .storeOk].map
      (fun event => .hp (.pub event)) ++
    (publishEnd ++ noteOutcome ++ sleepAndWake).map .hp

theorem skips_sound_resumed :
    (Runs.run (step benchEnv) (powerUp benchEnv Nvs.erased 0 false .absent)
        (subscribeOnce ++ resume 2)).any
        (fun exchange => decide (skips exchange.system decideToSubscribe)) = true ∧
      Runs.Along (step benchEnv) SkipSound (powerUp benchEnv Nvs.erased 0 false .absent)
        (subscribeOnce ++ resume 2 ++ [decideToSubscribe]) :=
  ⟨by decide +kernel,
    skips_sound benchEnv Nvs.erased 0 false .absent
      (subscribeOnce ++ resume 2 ++ [decideToSubscribe]) (by decide +kernel)⟩

/-- The broker loses the session.  The next CONNECT creates an empty one and its
CONNACK is lost; the cycle after it finds a session and sends no SUBSCRIBE. -/
theorem needed_subscribe_skipped :
    ∃ final, Runs.run (step benchEnv) (powerUp benchEnv Nvs.erased 0 false .absent)
        (subscribeOnce ++ [.loseSession] ++ connackLost ++ resume 3) = some final ∧
      skips final.system decideToSubscribe ∧ final.link.session = .empty ∧
      ¬ SkipSound final decideToSubscribe := by
  obtain ⟨final, ran, reached⟩ := Runs.exists_final
    (fun final : Exchange =>
      decide (skips final.system decideToSubscribe ∧ final.link.session = .empty))
    (show (Runs.run (step benchEnv) (powerUp benchEnv Nvs.erased 0 false .absent)
      (subscribeOnce ++ [.loseSession] ++ connackLost ++ resume 3)).any _ = true by decide +kernel)
  obtain ⟨skipped, empty⟩ := of_decide_eq_true reached
  refine ⟨final, ran, skipped, empty, fun sound => ?_⟩
  have subscribed := (sound skipped).1
  rw [empty] at subscribed
  cases subscribed

end Exchange

end SleepySensor
