import SleepySensor.HistoryLog
import SleepySensor.RuntimeConfig

/-!
# The MQTT sender

The statics of `mqtt_sender.cpp`, the persistent client with its outbox, and the
places in `run_publish_cycle` between which other tasks run.  The outbox is kept
over stop and start of the client; message texts are left out.
-/

set_option autoImplicit false

namespace SleepySensor

structure PublishParams where
  temperature : Option Flt := none
  humidity : Option Flt := none
  batteryPercent : Option Flt := none
  batteryMillivolts : Option Int := none
  heaterProblem : Option Bool := none
  heaterRunCount : Option Nat := none
  deriving DecidableEq, Repr

namespace PublishParams

def hasAny (params : PublishParams) : Bool :=
  params.temperature.isSome || params.humidity.isSome

def hasBatt (params : PublishParams) : Bool :=
  params.batteryPercent.isSome && params.batteryMillivolts.isSome

def hasHeater (params : PublishParams) : Bool :=
  params.heaterProblem.isSome && params.heaterRunCount.isSome

end PublishParams

structure LinkStats where
  rssiDbm : Option Int := none
  radioTxTimeUs : Option Nat := none
  radioRxTimeUs : Option Nat := none
  txRetries : Option Nat := none
  txCcaFailures : Option Nat := none
  uplinkRssiDbm : Option Int := none
  deriving DecidableEq, Repr

inductive DiscoveryBit where
  | temp | hum | batt | update | rssi | diag | numbers | switch | heater | radio | linkq | uplink
  | txPower | awake
  deriving DecidableEq, Repr

namespace DiscoveryBit

def all : List DiscoveryBit :=
  [.temp, .hum, .batt, .rssi, .diag, .heater, .radio, .linkq, .uplink, .txPower, .awake, .update,
   .numbers, .switch]

def numberEntityCount : Nat := 11

def messages : DiscoveryBit → Nat
  | .batt | .diag | .update | .switch | .heater | .radio | .linkq => 2
  | .numbers => numberEntityCount * 2
  | .temp | .hum | .rssi | .uplink | .txPower | .awake => 1

/-- `discoveryWant`: the groups whose entities can be fed this cycle. -/
def wanted (params : PublishParams) (link : Option LinkStats) : DiscoveryBit → Bool
  | .temp => params.temperature.isSome
  | .hum => params.humidity.isSome
  | .batt => params.hasBatt
  | .rssi => link.any fun stats => stats.rssiDbm.isSome
  | .heater => params.hasHeater
  | .radio => link.any fun stats => stats.radioTxTimeUs.isSome && stats.radioRxTimeUs.isSome
  | .linkq => link.any fun stats => stats.txRetries.isSome && stats.txCcaFailures.isSome
  | .uplink => link.any fun stats => stats.uplinkRssiDbm.isSome
  | .diag | .update | .numbers | .switch | .txPower | .awake => true

end DiscoveryBit

def discoveryNeed (params : PublishParams) (link : Option LinkStats) (sent : List DiscoveryBit) :
    List DiscoveryBit :=
  if params.hasAny then
    DiscoveryBit.all.filter fun bit => bit.wanted params link && !sent.contains bit
  else []

/-- A state message, with the number of the publish cycle that sent it. -/
structure StateMessage where
  cycle : Nat
  params : PublishParams
  link : Option LinkStats
  txPowerActive : Int
  deriving DecidableEq, Repr

/-- What waits in the outbox for its PUBACK or SUBACK. -/
inductive Outgoing where
  | discovery (cycle : Nat) (bit : DiscoveryBit)
  | state (message : StateMessage)
  | backfill (cycle batch : Nat) (entries : List HistoryLogEntry)
  | echo (message : CfgMessage)
  | subscribe
  deriving DecidableEq, Repr

def Outgoing.isStateOf (cycle : Nat) : Outgoing → Bool
  | .state message => message.cycle == cycle
  | _ => false

def backfillBatchSize : Nat := 20
def backfillMaxBatchesPerCycle : Nat := 5

inductive Arming where
  | state
  | backfill (batch : Nat) (entries : List HistoryLogEntry)
  deriving DecidableEq, Repr

/-- Where `run_publish_cycle` and the end of `mqtt_publish_task` are. -/
inductive PubPc where
  | begin
  | deciding
  | connecting
  | subscribing
  | setExpected (arming : Arming)
  | resetReceived (arming : Arming)
  | clearAllAcked (arming : Arming)
  | discovering
  | stating
  | ackWait
  | replaying (batch : Nat)
  | publishBackfill (batch : Nat) (entries : List HistoryLogEntry)
  | backfillWait (batch count : Nat)
  | settling
  | merging (snap : PendingCfg)
  | trialCall (snap : PendingCfg)
  | persisting (snap : PendingCfg)
  | closing
  | otaGate
  | inOta
  | windowEnd
  | storeOk
  | clearRunning
  deriving DecidableEq, Repr

/-- A running `mqtt_pub` task.  Publish cycles are numbered as they start. -/
structure Pub where
  cycle : Nat
  params : PublishParams
  uri : Bool := false
  link : Option LinkStats := none
  subscribe : Bool := false
  need : List DiscoveryBit := []
  ok : Bool := false
  pc : PubPc := .begin
  deriving DecidableEq, Repr

namespace Pub

def expected (pub : Pub) : Nat :=
  (if pub.params.hasAny then 1 else 0) + (pub.need.map DiscoveryBit.messages).sum

/-- `ok || !hasAny`, the bar for replay, config changes, a healthy close and OTA. -/
def healthy (pub : Pub) : Bool := pub.ok || !pub.params.hasAny

def discoveryMessages (pub : Pub) : List Outgoing :=
  pub.need.flatMap fun bit => List.replicate bit.messages (.discovery pub.cycle bit)

end Pub

/-- The event task of the persistent client, between its count of a PUBACK and
the bit it sets. -/
inductive ClientHandler where
  | idle
  | setAllAcked
  deriving DecidableEq, Repr

structure MqttSender where
  discoverySent : List DiscoveryBit := []
  taskRunning : Bool := false
  lastOk : Bool := false
  /-- The publish cycle whose outcome `s_last_ok` holds. -/
  lastOkCycle : Option Nat := none
  idleBit : Bool := true
  sessionSubscribed : Bool := false
  clientRunning : Bool := false
  sessionPresent : Bool := false
  subscribed : Bool := false
  expectedAcks : Nat := 0
  receivedAcks : Nat := 0
  connectedBit : Bool := false
  errorBit : Bool := false
  allAckedBit : Bool := false
  handler : ClientHandler := .idle
  outbox : List Outgoing := []
  pub : Option Pub := none
  /-- Tasks that have cleared `s_task_running` but not yet set `BIT_IDLE`. -/
  tails : Nat := 0
  deriving DecidableEq, Repr

namespace MqttSender

/-- `start_persistent_client`. -/
def startClient (mqtt : MqttSender) : MqttSender :=
  { mqtt with
    connectedBit := false, allAckedBit := false, errorBit := false
    sessionPresent := false, subscribed := false, clientRunning := true }

/-- `mqtt_send_sensor_data`: the sender after it, and whether a task was started. -/
def sendSensorData (mqtt : MqttSender) (params : PublishParams) (cycle : Nat) (created : Bool) :
    MqttSender × Bool :=
  if mqtt.taskRunning then (mqtt, false)
  else if created then
    ({ mqtt with
      taskRunning := true, idleBit := false
      pub := some { cycle := cycle, params := params } }, true)
  else ({ mqtt with taskRunning := false, idleBit := true }, false)

def countAck (mqtt : MqttSender) (outbox : List Outgoing) : MqttSender :=
  { mqtt with
    outbox := outbox
    receivedAcks := mqtt.receivedAcks + 1
    handler := if mqtt.expectedAcks ≤ mqtt.receivedAcks + 1 then .setAllAcked else .idle }

end MqttSender

end SleepySensor
