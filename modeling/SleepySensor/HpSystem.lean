import SleepySensor.Ota
import SleepySensor.SensorsTask

/-!
# The HP core

The sensor task, the publish task, the event task of the persistent client and
the OTA session over the state they share.  A step is what one of them does up
to the point where another can come in between.  A call of
`NetworkLink::setTxPowerDbm` is a step of its own, with its result.
-/

set_option autoImplicit false

namespace SleepySensor

/-- What is fixed in a build: the running image and its `device_config.yaml`. -/
structure HpEnv where
  firmware : Firmware
  yaml : DeviceYaml

structure HpSystem where
  nvs : Nvs
  config : RuntimeConfig
  /-- The power of the last `setTxPowerDbm` that returned `ESP_OK`. -/
  radio : Int := txPowerTableMaxDbm
  ota : Ota := {}
  log : HistoryLog := {}
  mqtt : MqttSender := {}
  sensor : SensorsTask := {}
  cyclesStarted : Nat := 0

inductive SensorEvent where
  | attachGate (ready : Bool)
  | setTxDone (accepted : Bool)
  | readState (state : LpSnapshot)
  | branch
  | measure (outcome : AdcOutcome)
  | send (created : Bool)
  | isBusy
  | waitDone
  | waitTimeout
  | lastOutcome
  | note
  | deliver (nowUs : Int) (stateRead marked : Bool)
  | timeoutCheck
  | supervise (stateRead : Bool)
  | beginWait
  | wake (lpWoke : Bool)
  deriving DecidableEq, Repr

inductive PubEvent where
  | reachable (reachable uriFound : Bool)
  | decide (clientOk : Bool)
  | connectWait
  | subscribe (link : Option LinkStats)
  | setExpected
  | resetReceived
  | clearAllAcked
  | discover
  | publishState
  | ackWait
  | replay (nowUs : Int)
  | publishBackfill
  | backfillWait
  | settle
  | merge
  | setTxDone (accepted : Bool)
  | persist
  | close
  | otaGate (groupCreated : Bool)
  | otaDone
  | windowEnd
  | storeOk
  | clearRunning
  deriving DecidableEq, Repr

/-- An event of the persistent client. -/
inductive ClientEvent where
  | connected (sessionPresent : Bool)
  | published (index : Nat)
  | setAllAcked
  | subAck (accepted : Bool)
  | error
  | manifest (message : ManifestMessage)
  | install (set : Bool)
  | cfg (message : CfgMessage)
  deriving DecidableEq, Repr

inductive HpAction where
  | sensor (event : SensorEvent)
  | pub (event : PubEvent)
  /-- A finished publish task sets `BIT_IDLE`. -/
  | tail
  | client (event : ClientEvent)
  /-- An OTA event; `accepted` is the result of `setTxPowerDbm` where it calls it. -/
  | ota (event : OtaEvent) (accepted : Bool)
  /-- `esp_restart`, or a loss of power. -/
  | reset (pendingVerify : Bool)
  deriving DecidableEq, Repr

namespace HpSystem

def boot (env : HpEnv) (nvs : Nvs) (cyclesStarted : Nat) (pendingVerify : Bool) : HpSystem :=
  { nvs := nvs
    config := RuntimeConfig.boot env.yaml nvs
    sensor := { pendingVerify := pendingVerify }
    cyclesStarted := cyclesStarted }

def setRadio (system : HpSystem) (dbm : Int) (accepted : Bool) : HpSystem :=
  { system with radio := if accepted then dbm else system.radio }

/-- A `setTxPowerDbm` whose value becomes the active one if it is accepted. -/
def applyTxPower (system : HpSystem) (dbm : Int) (accepted : Bool) : HpSystem :=
  { system with
    radio := if accepted then dbm else system.radio
    config := { system.config with tx := system.config.tx.applied dbm accepted } }

def withSensor (system : HpSystem) (sensor : SensorsTask) : HpSystem :=
  { system with sensor := sensor }

def atSensorPc (system : HpSystem) (pc : SensorPc) : HpSystem :=
  system.withSensor { system.sensor with pc := pc }

def withPub (system : HpSystem) (pub : Pub) : HpSystem :=
  { system with mqtt := { system.mqtt with pub := some pub } }

/-! ## The sensor task -/

/-- `m_attachGate`, with `runtime_config_tx_power_note_first_attach` up to its call. -/
def attachReady (system : HpSystem) : HpSystem :=
  let (tx, call) := system.config.tx.noteFirstAttach
  { system with
    nvs := system.config.tx.noteFirstAttachNvs system.nvs
    config := { system.config with tx := tx }
    sensor :=
      { system.sensor with
        cycle := { system.sensor.cycle with attached := true }
        pc := match call with
          | some dbm => .firstAttachCall dbm
          | none => .reading } }

/-- `runtime_config_tx_power_note_cycle_result` up to the call that a revert makes. -/
def noteCycleResult (system : HpSystem) (ok : Bool) (resume : AfterNote) : HpSystem :=
  let tx := system.config.tx
  { system with
    nvs := if tx.cycleVerdict ok = .confirmed then tx.confirmNvs system.nvs else system.nvs
    config := { system.config with tx := tx.noteCycleResult ok }
    sensor :=
      { system.sensor with
        pc := if tx.cycleVerdict ok = .reverting then .revertCall tx.knownGood resume
          else resume.pc } }

def finishRevert (system : HpSystem) (dbm : Int) (resume : AfterNote) (accepted : Bool) :
    HpSystem :=
  let called := system.applyTxPower dbm accepted
  { called with
    nvs := TxPower.revertNvs called.nvs
    sensor := { called.sensor with pc := resume.pc } }

def send (system : HpSystem) (created : Bool) : HpSystem :=
  let sensor := system.sensor
  let (mqtt, started) :=
    system.mqtt.sendSensorData sensor.cycle.values system.cyclesStarted created
  { system with
    mqtt := mqtt
    cyclesStarted := if started then system.cyclesStarted + 1 else system.cyclesStarted
    sensor :=
      { sensor with
        cycle :=
          { sensor.cycle with
            startedCycle := if started then some system.cyclesStarted else none }
        pc := .checkBusy } }

def readOutcome (system : HpSystem) : HpSystem :=
  system.withSensor
    { system.sensor with
      cycle :=
        { system.sensor.cycle with
          publishedOk := system.mqtt.lastOk, outcomeCycle := system.mqtt.lastOkCycle }
      pc := .noting }

def deliver (system : HpSystem) (nowUs : Int) (stateRead marked : Bool) : HpSystem :=
  let sensor := system.sensor
  if sensor.cycle.publishedOk then
    system.withSensor { sensor.markAppValid stateRead marked with pc := .cycleEnd }
  else if sensor.cycle.otaOnly then system.atSensorPc .cycleEnd
  else
    { system with
      log := system.log.append nowUs sensor.cycle.state.calTempC sensor.cycle.state.calHumPct
      sensor := { sensor with pc := .cycleEnd } }

def supervise (system : HpSystem) (stateRead : Bool) : HpSystem :=
  let (sensor, reboots) := system.sensor.supervise system.ota.sessionActive stateRead
  system.withSensor { sensor with pc := if reboots then .rebooting else .beginWait }

def sensorStep (env : HpEnv) (system : HpSystem) (event : SensorEvent) : Option HpSystem :=
  let sensor := system.sensor
  match event with
  | .attachGate ready =>
    match sensor.pc with
    | .attaching =>
      some (if ready then system.attachReady else system.noteCycleResult false .cycleEnd)
    | _ => none
  | .setTxDone accepted =>
    match sensor.pc with
    | .firstAttachCall dbm => some ((system.applyTxPower dbm accepted).atSensorPc .reading)
    | .revertCall dbm resume => some (system.finishRevert dbm resume accepted)
    | _ => none
  | .readState state =>
    match sensor.pc with
    | .reading => some (system.withSensor (sensor.takeState state))
    | _ => none
  | .branch =>
    match sensor.pc with
    | .branching =>
      some (system.withSensor (sensor.branch system.ota.sessionActive system.ota.updateDue
        env.yaml.readBatteryViaAdc))
    | _ => none
  | .measure outcome =>
    match sensor.pc with
    | .measuring => some (system.withSensor (sensor.measure outcome))
    | _ => none
  | .send created =>
    match sensor.pc with
    | .sending => some (system.send created)
    | _ => none
  | .isBusy =>
    match sensor.pc with
    | .checkBusy =>
      some (system.atSensorPc (if system.mqtt.taskRunning then .waiting else .cycleEnd))
    | _ => none
  | .waitDone =>
    match sensor.pc with
    | .waiting => if system.mqtt.idleBit then some (system.atSensorPc .readOutcome) else none
    | _ => none
  | .waitTimeout =>
    match sensor.pc with
    | .waiting => if system.mqtt.idleBit then none else some (system.atSensorPc .timedOut)
    | _ => none
  | .lastOutcome =>
    match sensor.pc with
    | .readOutcome => some system.readOutcome
    | _ => none
  | .note =>
    match sensor.pc with
    | .noting => some (system.noteCycleResult sensor.cycle.publishedOk .delivering)
    | _ => none
  | .deliver nowUs stateRead marked =>
    match sensor.pc with
    | .delivering => some (system.deliver nowUs stateRead marked)
    | _ => none
  | .timeoutCheck =>
    match sensor.pc with
    | .timedOut =>
      some (if system.ota.sessionActive then system.atSensorPc .cycleEnd
        else system.noteCycleResult false .cycleEnd)
    | _ => none
  | .supervise stateRead =>
    match sensor.pc with
    | .cycleEnd => some (system.supervise stateRead)
    | _ => none
  | .beginWait =>
    match sensor.pc with
    | .beginWait =>
      some (system.atSensorPc (.sleeping (system.ota.updateDue && !system.ota.sessionActive)))
    | _ => none
  | .wake lpWoke =>
    match sensor.pc with
    | .sleeping otaRetryWait => some (system.withSensor (sensor.wake otaRetryWait lpWoke))
    | _ => none

/-! ## The publish task -/

def atPubPc (system : HpSystem) (pub : Pub) (pc : PubPc) : HpSystem :=
  system.withPub { pub with pc := pc }

def startPersistentClient (system : HpSystem) (pub : Pub) (clientOk : Bool) : HpSystem :=
  if system.ota.updateDue && !pub.params.hasAny then system.atPubPc pub .otaGate
  else if clientOk then
    { system with
      mqtt := { system.mqtt.startClient with pub := some { pub with pc := .connecting } } }
  else system.atPubPc pub .otaGate

def subscribe (system : HpSystem) (pub : Pub) (link : Option LinkStats) : HpSystem :=
  let mqtt := system.mqtt
  let known := mqtt.sessionPresent && mqtt.sessionSubscribed
  { system with
    mqtt :=
      { mqtt with
        sessionSubscribed := known
        outbox := if known then mqtt.outbox else mqtt.outbox ++ [.subscribe]
        pub := some
          { pub with
            link := link, subscribe := !known
            need := discoveryNeed pub.params link mqtt.discoverySent
            pc := .setExpected .state } } }

def setExpected (system : HpSystem) (pub : Pub) (arming : Arming) : HpSystem :=
  { system with
    mqtt :=
      { system.mqtt with
        expectedAcks := match arming with
          | .state => pub.expected
          | .backfill _ _ => 1
        pub := some { pub with pc := .resetReceived arming } } }

def resetReceived (system : HpSystem) (pub : Pub) (arming : Arming) : HpSystem :=
  { system with
    mqtt :=
      { system.mqtt with
        receivedAcks := 0, pub := some { pub with pc := .clearAllAcked arming } } }

def clearAllAcked (system : HpSystem) (pub : Pub) (arming : Arming) : HpSystem :=
  { system with
    mqtt :=
      { system.mqtt with
        allAckedBit := false
        pub := some
          { pub with
            pc := match arming with
              | .state => .discovering
              | .backfill batch entries => .publishBackfill batch entries } } }

def enqueue (system : HpSystem) (pub : Pub) (messages : List Outgoing) (pc : PubPc) : HpSystem :=
  { system with
    mqtt :=
      { system.mqtt with
        outbox := system.mqtt.outbox ++ messages, pub := some { pub with pc := pc } } }

def stateMessage (system : HpSystem) (pub : Pub) : StateMessage :=
  { cycle := pub.cycle, params := pub.params, link := pub.link
    txPowerActive := system.config.tx.activeDbm }

/-- The end of the wait for `BIT_ALL_ACKED` after the state message. -/
def ackWait (system : HpSystem) (pub : Pub) : HpSystem :=
  let mqtt := system.mqtt
  if mqtt.allAckedBit then
    { system with
      mqtt :=
        { mqtt with
          discoverySent := mqtt.discoverySent ++ pub.need
          sessionSubscribed := mqtt.sessionSubscribed || (pub.subscribe && mqtt.subscribed)
          pub := some { pub with ok := true, pc := .replaying 0 } } }
  else system.atPubPc { pub with ok := false } .closing

/-- The head of the loop in `replay_history_if_pending`. -/
def replay (system : HpSystem) (pub : Pub) (batch : Nat) (nowUs : Int) : HpSystem :=
  if decide (batch < backfillMaxBatchesPerCycle) && system.log.hasPending then
    let (log, entries) := system.log.peekBatch nowUs backfillBatchSize
    { system with
      log := log
      mqtt :=
        { system.mqtt with
          pub := some
            { pub with
              pc := if entries.isEmpty then .settling
                else .setExpected (.backfill batch entries) } } }
  else system.atPubPc pub .settling

def backfillWait (system : HpSystem) (pub : Pub) (batch count : Nat) : HpSystem :=
  if system.mqtt.allAckedBit then
    { system with
      log := system.log.advance count
      mqtt := { system.mqtt with pub := some { pub with pc := .replaying (batch + 1) } } }
  else system.atPubPc pub .settling

/-- The snapshot of `runtime_config_apply_pending` and its settling. -/
def settle (system : HpSystem) (pub : Pub) : HpSystem :=
  { system with
    config := { system.config with pending := {} }
    mqtt :=
      { system.mqtt with pub := some { pub with pc := .merging system.config.settleAll } } }

def merge (system : HpSystem) (pub : Pub) (snap : PendingCfg) : HpSystem :=
  { system with
    config := { system.config.mergeAll snap with pending := system.config.pending }
    mqtt :=
      { system.mqtt with
        pub := some
          { pub with pc := if snap.txPowerDbm.set then .trialCall snap else .persisting snap } } }

/-- The value that a trial of the settled snapshot sets. -/
def trialDbm (snap : PendingCfg) : Int := int8 snap.txPowerDbm.value

def persist (system : HpSystem) (pub : Pub) (snap : PendingCfg) : HpSystem :=
  { system with
    nvs := RuntimeConfig.persistAll snap system.nvs
    mqtt :=
      { system.mqtt with
        outbox := system.mqtt.outbox ++ (RuntimeConfig.echoes snap).map .echo
        pub := some { pub with pc := .closing } } }

def storeOk (system : HpSystem) (pub : Pub) : HpSystem :=
  { system with
    mqtt :=
      { system.mqtt with
        lastOk := pub.ok, lastOkCycle := some pub.cycle
        pub := some { pub with pc := .clearRunning } } }

def clearRunning (system : HpSystem) : HpSystem :=
  { system with
    mqtt :=
      { system.mqtt with taskRunning := false, pub := none, tails := system.mqtt.tails + 1 } }

/-- `run_ota_if_due` up to its wait for the connection. -/
def otaGate (env : HpEnv) (system : HpSystem) (pub : Pub) (groupCreated : Bool) : HpSystem :=
  if pub.healthy && groupCreated then
    match system.ota.step env.firmware .runIfDue with
    | some ota => { system with ota := ota }.atPubPc pub .inOta
    | none => system.atPubPc pub .windowEnd
  else system.atPubPc pub .windowEnd

def closeSession (system : HpSystem) (pub : Pub) : HpSystem :=
  { system with
    mqtt := { system.mqtt with clientRunning := false, pub := some { pub with pc := .otaGate } } }

def pubStep (env : HpEnv) (system : HpSystem) (pub : Pub) (event : PubEvent) : Option HpSystem :=
  match event with
  | .reachable reachable uriFound =>
    match pub.pc with
    | .begin => some (system.atPubPc pub (if reachable && uriFound then .deciding else .windowEnd))
    | _ => none
  | .decide clientOk =>
    match pub.pc with
    | .deciding => some (system.startPersistentClient pub clientOk)
    | _ => none
  | .connectWait =>
    match pub.pc with
    | .connecting =>
      some (system.atPubPc pub (if system.mqtt.connectedBit then .subscribing else .closing))
    | _ => none
  | .subscribe link =>
    match pub.pc with
    | .subscribing => some (system.subscribe pub link)
    | _ => none
  | .setExpected =>
    match pub.pc with
    | .setExpected arming => some (system.setExpected pub arming)
    | _ => none
  | .resetReceived =>
    match pub.pc with
    | .resetReceived arming => some (system.resetReceived pub arming)
    | _ => none
  | .clearAllAcked =>
    match pub.pc with
    | .clearAllAcked arming => some (system.clearAllAcked pub arming)
    | _ => none
  | .discover =>
    match pub.pc with
    | .discovering =>
      some (system.enqueue pub pub.discoveryMessages
        (if pub.params.hasAny then .stating else .replaying 0))
    | _ => none
  | .publishState =>
    match pub.pc with
    | .stating => some (system.enqueue pub [.state (system.stateMessage pub)] .ackWait)
    | _ => none
  | .ackWait =>
    match pub.pc with
    | .ackWait => some (system.ackWait pub)
    | _ => none
  | .replay nowUs =>
    match pub.pc with
    | .replaying batch => some (system.replay pub batch nowUs)
    | _ => none
  | .publishBackfill =>
    match pub.pc with
    | .publishBackfill batch entries =>
      some (system.enqueue pub [.backfill pub.cycle batch entries]
        (.backfillWait batch entries.length))
    | _ => none
  | .backfillWait =>
    match pub.pc with
    | .backfillWait batch count => some (system.backfillWait pub batch count)
    | _ => none
  | .settle =>
    match pub.pc with
    | .settling => some (system.settle pub)
    | _ => none
  | .merge =>
    match pub.pc with
    | .merging snap => some (system.merge pub snap)
    | _ => none
  | .setTxDone accepted =>
    match pub.pc with
    | .trialCall snap =>
      some ((system.applyTxPower (trialDbm snap) accepted).atPubPc pub (.persisting snap))
    | _ => none
  | .persist =>
    match pub.pc with
    | .persisting snap => some (system.persist pub snap)
    | _ => none
  | .close =>
    match pub.pc with
    | .closing =>
      -- stopping the client waits for its event task
      if system.mqtt.handler = .idle then some (system.closeSession pub) else none
    | _ => none
  | .otaGate groupCreated =>
    match pub.pc with
    | .otaGate => some (system.otaGate env pub groupCreated)
    | _ => none
  | .otaDone =>
    match pub.pc with
    | .inOta => if system.ota.pc = .idle then some (system.atPubPc pub .windowEnd) else none
    | _ => none
  | .windowEnd =>
    match pub.pc with
    | .windowEnd => some (system.atPubPc pub .storeOk)
    | _ => none
  | .storeOk =>
    match pub.pc with
    | .storeOk => some (system.storeOk pub)
    | _ => none
  | .clearRunning =>
    match pub.pc with
    | .clearRunning => some system.clearRunning
    | _ => none

/-! ## The persistent client -/

def isPublish : Outgoing → Bool
  | .subscribe => false
  | _ => true

def published (system : HpSystem) (index : Nat) : Option HpSystem :=
  match system.mqtt.outbox[index]? with
  | some message =>
    if isPublish message then
      some { system with mqtt := system.mqtt.countAck (system.mqtt.outbox.eraseIdx index) }
    else none
  | none => none

def subAck (system : HpSystem) (accepted : Bool) : Option HpSystem :=
  if Outgoing.subscribe ∈ system.mqtt.outbox then
    some { system with
      mqtt :=
        { system.mqtt with
          outbox := system.mqtt.outbox.erase .subscribe
          subscribed := system.mqtt.subscribed || accepted } }
  else none

/-- An event while the client runs.  `ota_on_mqtt_error` does nothing then, for
no session is active. -/
def idleClientStep (env : HpEnv) (system : HpSystem) : ClientEvent → Option HpSystem
  | .connected sessionPresent =>
    some { system with
      mqtt := { system.mqtt with sessionPresent := sessionPresent, connectedBit := true } }
  | .published index => system.published index
  | .setAllAcked => none
  | .subAck accepted => system.subAck accepted
  | .error => some { system with mqtt := { system.mqtt with errorBit := true } }
  | .manifest message =>
    (system.ota.step env.firmware (.manifest message)).map fun ota => { system with ota := ota }
  | .install set =>
    (system.ota.step env.firmware (.install set)).map fun ota => { system with ota := ota }
  | .cfg message => some { system with config := system.config.onMqttData message }

def setAllAcked (system : HpSystem) : HpSystem :=
  { system with mqtt := { system.mqtt with allAckedBit := true, handler := .idle } }

def clientStep (env : HpEnv) (system : HpSystem) (event : ClientEvent) : Option HpSystem :=
  match system.mqtt.handler with
  | .idle => system.idleClientStep env event
  | .setAllAcked => if event = .setAllAcked then some system.setAllAcked else none

/-! ## The OTA session in the publish task -/

/-- The events of a session whose publish cycle measured `battery`. -/
def inSession (battery : Option Flt) : OtaEvent → Bool
  | .manifest _ | .install _ | .runIfDue => false
  | .enterSession percent => percent == battery
  | _ => true

/-- What an OTA event does to the radio: `runtime_config_tx_power_pin_max_for_ota`
and `runtime_config_tx_power_unpin_after_ota`. -/
def otaRadio (system : HpSystem) (event : OtaEvent) (accepted : Bool) : HpSystem :=
  match event with
  | .pin => system.setRadio txPowerTableMaxDbm accepted
  | .unpin => system.setRadio system.config.tx.activeDbm accepted
  | _ => system

def otaStep (env : HpEnv) (system : HpSystem) (pub : Pub) (event : OtaEvent) (accepted : Bool) :
    Option HpSystem :=
  if pub.pc = .inOta ∧ inSession pub.params.batteryPercent event = true then
    (system.ota.step env.firmware event).map fun ota =>
      { system.otaRadio event accepted with ota := ota }
  else none

/-! ## All of them -/

def step (env : HpEnv) (system : HpSystem) : HpAction → Option HpSystem
  | .sensor event => system.sensorStep env event
  | .pub event =>
    match system.mqtt.pub with
    | some pub => system.pubStep env pub event
    | none => none
  | .tail =>
    if 0 < system.mqtt.tails then
      some { system with
        mqtt := { system.mqtt with idleBit := true, tails := system.mqtt.tails - 1 } }
    else none
  | .client event =>
    if system.mqtt.clientRunning then system.clientStep env event else none
  | .ota event accepted =>
    match system.mqtt.pub with
    | some pub => system.otaStep env pub event accepted
    | none => none
  | .reset pendingVerify => some (boot env system.nvs system.cyclesStarted pendingVerify)

/-! ## What the coming step does outside -/

/-- The pair it hands to `lp_sensor_core_ack_delivered`. -/
def ackDelivered (system : HpSystem) : HpAction → Option (Flt × Flt)
  | .sensor (.deliver _ _ _) =>
    let cycle := system.sensor.cycle
    if system.sensor.pc = .delivering ∧ cycle.publishedOk = true ∧ cycle.otaOnly = false then
      some (cycle.state.calTempC, cycle.state.calHumPct)
    else none
  | _ => none

/-- The pair it hands to `history_log_append`. -/
def logAppended (system : HpSystem) : HpAction → Option (Flt × Flt)
  | .sensor (.deliver _ _ _) =>
    let cycle := system.sensor.cycle
    if system.sensor.pc = .delivering ∧ cycle.publishedOk = false ∧ cycle.otaOnly = false then
      some (cycle.state.calTempC, cycle.state.calHumPct)
    else none
  | _ => none

/-- The value of the trial that a step of the publish task starts. -/
def startsTrial (pub : Pub) : PubEvent → Option Int
  | .merge =>
    match pub.pc with
    | .merging snap => if snap.txPowerDbm.set then some (trialDbm snap) else none
    | _ => none
  | _ => none

/-- The state message it sends. -/
def sentState (system : HpSystem) : HpAction → Option StateMessage
  | .pub .publishState => system.mqtt.pub.map system.stateMessage
  | _ => none

/-- The state message whose PUBACK it takes. -/
def ackedState (system : HpSystem) : HpAction → Option StateMessage
  | .client (.published index) =>
    match system.mqtt.outbox[index]? with
    | some (.state message) => some message
    | _ => none
  | _ => none

/-- The argument of its call of `runtime_config_tx_power_note_cycle_result`. -/
def reported (system : HpSystem) : HpAction → Option Bool
  | .sensor (.attachGate false) => if system.sensor.pc = .attaching then some false else none
  | .sensor .note =>
    if system.sensor.pc = .noting then some system.sensor.cycle.publishedOk else none
  | .sensor .timeoutCheck =>
    if system.sensor.pc = .timedOut ∧ system.ota.sessionActive = false then some false else none
  | _ => none

/-- The trial that it promotes to known-good. -/
def promoted (system : HpSystem) (action : HpAction) : Option Int :=
  let tx := system.config.tx
  match system.reported action with
  | some ok => if tx.cycleVerdict ok = .confirmed then some tx.pending else none
  | none => none

/-- The value of its call of `setTxPowerDbm`. -/
def radioCall (system : HpSystem) : HpAction → Option Int
  | .sensor (.setTxDone _) =>
    match system.sensor.pc with
    | .firstAttachCall dbm | .revertCall dbm _ => some dbm
    | _ => none
  | .pub (.setTxDone _) =>
    system.mqtt.pub.bind fun pub =>
      match pub.pc with
      | .trialCall snap => some (trialDbm snap)
      | _ => none
  | .ota .pin _ => if system.ota.pc = .pinning then some txPowerTableMaxDbm else none
  | .ota .unpin _ => if system.ota.pc = .unpinning then some system.config.tx.activeDbm else none
  | _ => none

/-! ## Pieces of runs -/

def benchEnv : HpEnv :=
  { firmware :=
      { runningVersion := "1.0".toList
        sha256 := fun image => BitVec.ofNat 256 (image.map UInt8.toNat).sum }
    yaml := {} }

def attachFirst : List HpAction := [.sensor (.attachGate true), .sensor (.setTxDone true)]

/-- From the LP state to `m_readyEvent`, without a measurement. -/
def takeUp (state : LpSnapshot) : List HpAction :=
  [.sensor (.readState state), .sensor .branch, .sensor (.send true)]

def publishUpToState : List HpAction :=
  [.pub (.reachable true true), .pub (.decide true), .client (.connected false),
    .pub .connectWait, .pub (.subscribe none), .pub .setExpected, .pub .resetReceived,
    .pub .clearAllAcked, .pub .discover, .pub .publishState]

/-- The PUBACKs of an outbox that a subscribe heads. -/
def allAcked (messages : Nat) : List HpAction :=
  List.replicate messages (.client (.published 1)) ++ [.client .setAllAcked]

def publishToOutcome : List HpAction :=
  [.pub .ackWait, .pub (.replay 0), .pub .settle, .pub .merge, .pub .persist, .pub .close,
    .pub (.otaGate true), .pub .windowEnd, .pub .storeOk]

/-- The same with a `tx_power_dbm` received and its echo acknowledged. -/
def publishTrial (dbm : Int) : List HpAction :=
  [.client (.cfg (.txPowerDbm dbm)), .pub .ackWait, .pub (.replay 0), .pub .settle, .pub .merge,
    .pub (.setTxDone true), .pub .persist, .client (.published 1), .client .setAllAcked,
    .pub .close, .pub (.otaGate true), .pub .windowEnd, .pub .storeOk]

def publishEnd : List HpAction := [.pub .clearRunning, .tail]

def reading (heartbeat : Nat) (temperature : Flt) : LpSnapshot :=
  { heartbeatCounter := heartbeat, shouldWakeHp := 1, calTempC := temperature
    calHumPct := .fin 50 }

def noteOutcome : List HpAction :=
  [.sensor .waitDone, .sensor .lastOutcome, .sensor .note, .sensor (.deliver 0 true true)]

def waitTimesOut : List HpAction := [.sensor .isBusy, .sensor .waitTimeout, .sensor .timeoutCheck]

def sleepAndWake : List HpAction :=
  [.sensor (.supervise true), .sensor .beginWait, .sensor (.wake true)]

end HpSystem

end SleepySensor
