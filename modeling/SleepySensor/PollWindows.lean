import SleepySensor.Lib.Prog
import SleepySensor.MqttSender
import SleepySensor.Ota

/-!
# The poll-period windows

`run_publish_cycle` with `close_session`, `run_ota_if_due` and `ota_run_session`
as programs over the calls they make, in order.  Whatever a call returns, and
whatever the statics that other tasks write hold, is an answer of its
environment; message texts are left out.  `otLinkSetPollPeriod` is a parameter,
with the periods it takes.
-/

set_option autoImplicit false

namespace SleepySensor.PollWindows

open SleepySensor

def pollFastMs : Nat := 500
def pollOtaMs : Nat := 50
def pollCloseMs : Nat := 40
def pollSlowMs : Nat := 70000

/-- The hooks of `NetworkLink` that `makeThreadLink` sets for the poll period. -/
inductive LinkHook where
  | onPublishWindowBegin
  | onPublishWindowEnd
  | onOtaWindowBegin
  | onOtaWindowEnd
  | onSessionClosing
  | onSessionClosed

/-- The period that the hook hands to `set_poll_period`. -/
def LinkHook.period : LinkHook → Nat
  | .onPublishWindowBegin => pollFastMs
  | .onPublishWindowEnd => pollSlowMs
  | .onOtaWindowBegin => pollOtaMs
  | .onOtaWindowEnd => pollFastMs
  | .onSessionClosing => pollCloseMs
  | .onSessionClosed => pollFastMs

/-- `otLinkSetPollPeriod` as a function of the period asked for and the one in
force: from OpenThread's minimum of 10 ms up to 26 bits it takes what it is given. -/
class TakesPeriods (setPollPeriod : Nat → Nat → Nat) : Prop where
  takes : ∀ ms before, 10 ≤ ms → ms < 2 ^ 26 → setPollPeriod ms before = ms

/-- Null, or the client it stands for. -/
abbrev ClientHandle : Type := Option Nat

/-- The bits that a wait on the event group of a session returns. -/
structure OtaBits where
  chunk : Bool
  fail : Bool
  deriving DecidableEq, Repr

/-- The calls that `run_publish_cycle` and what it calls make, and the accesses to
`s_persistentClient`.  A wait names the client whose context its event group is. -/
inductive PublishOp where
  | hook (hook : LinkHook)
  | waitForBrokerReachable
  | brokerUri
  | readLinkStats
  | eventGroupCreate
  | persistentClient
  | setPersistentClient (client : ClientHandle)
  | mqttClientInit (uri : List Char)
  | mqttClientRegisterEvent (client : ClientHandle)
  | mqttClientSetUri (client : ClientHandle) (uri : List Char)
  | mqttClientStart (client : ClientHandle)
  | mqttClientStop (client : ClientHandle)
  | mqttClientDestroy (client : ClientHandle)
  | mqttSubscribeMultiple (client : ClientHandle)
  | mqttSubscribe (client : ClientHandle)
  | mqttPublish (client : ClientHandle)
  | mqttOutboxSize (client : ClientHandle)
  | waitConnected (client : ClientHandle)
  | waitAllAcked (client : ClientHandle)
  | waitAckEvent (client : ClientHandle)
  | waitOtaBits
  | clearBits
  | setAbortiveClose (client : ClientHandle)
  | tickCount
  | delay
  | tcpIdle
  | sessionPresent
  | sessionSubscribed
  | subackReceived
  | discoverySent
  | publishDiscovery (client : ClientHandle) (bit : DiscoveryBit)
  | setExpectedAcks (count : Nat)
  | resetReceivedAcks
  | formatted
  | historyPending
  | peekBatch
  | historyAdvance
  | applyPending (client : ClientHandle)
  | otaUpdateDue
  | connLost
  | undeliveredStatus
  | stagedManifest
  | partialDownload
  | discardPartial
  | nextChunk
  | nextUpdatePartition
  | otaBegin
  | hashSetup
  | hashFinish
  | otaEnd
  | setBootPartition
  | setTxPower
  | restart
  | stillRunning

/-- What a call answers.  `esp_restart` does not return, and neither does a loop
that takes more turns than it is given. -/
abbrev PublishOp.Res : PublishOp → Type
  | .waitForBrokerReachable | .eventGroupCreate | .mqttSubscribeMultiple _ | .mqttSubscribe _
  | .mqttPublish _ | .waitConnected _ | .waitAllAcked _ | .tcpIdle | .sessionPresent
  | .sessionSubscribed | .subackReceived | .formatted | .historyPending | .peekBatch
  | .otaUpdateDue | .connLost | .undeliveredStatus | .otaBegin | .hashSetup | .otaEnd
  | .setBootPartition => Bool
  | .persistentClient | .mqttClientInit _ => ClientHandle
  | .brokerUri => List Char
  | .readLinkStats => Option LinkStats
  | .discoverySent => List DiscoveryBit
  | .mqttOutboxSize _ | .tickCount | .nextChunk => Nat
  | .waitOtaBits => OtaBits
  | .stagedManifest => Manifest
  | .partialDownload => Option Manifest
  | .nextUpdatePartition => Option Nat
  | .hashFinish => Option Digest
  | .restart | .stillRunning => Empty
  | _ => Unit

abbrev PublishProg : Type → Type := Prog PublishOp PublishOp.Res

def perform (op : PublishOp) : PublishProg op.Res := Prog.perform op

def callHook (hook : LinkHook) : PublishProg Unit := Prog.perform (PublishOp.hook hook)

/-- A loop has not ended within the turns it is given. -/
def outOfTurns {α : Type} : PublishProg α := .call .stillRunning fun never => never.elim

def espRestart {α : Type} : PublishProg α := .call .restart fun never => never.elim

/-! ## mqtt_sender.cpp -/

def outboxDrainCapMs : Nat := 1000
def closeTailCapMs : Nat := 300

def drainLoop (client : ClientHandle) (start cap : Nat) : Nat → PublishProg Unit
  | 0 => outOfTurns
  | turns + 1 => do
    let size ← perform (.mqttOutboxSize client)
    if 0 < size then
      let now ← perform .tickCount
      if cap ≤ u32Sub now start then
        let _ ← perform (.mqttOutboxSize client)
        pure ()
      else
        perform (.waitAckEvent client)
        drainLoop client start cap turns
    else pure ()

def waitOutboxEmpty (turns : Nat) (client : ClientHandle) (cap : Nat) : PublishProg Unit := do
  let start ← perform .tickCount
  drainLoop client start cap turns

/-- The tail of `close_session`: lwIP still holds the connection. -/
def tailLoop (tailStart : Nat) : Nat → Bool → PublishProg Unit
  | 0, _ => outOfTurns
  | turns + 1, idle =>
    if idle then pure ()
    else do
      let now ← perform .tickCount
      if u32Sub now tailStart < closeTailCapMs then
        perform .delay
        let idle ← perform .tcpIdle
        tailLoop tailStart turns idle
      else pure ()

/-- What `close_session` does between its two hooks. -/
def drainAndStop (turns : Nat) (client : ClientHandle) : PublishProg Unit := do
  let _ ← perform .tickCount
  waitOutboxEmpty turns client outboxDrainCapMs
  let _ ← perform .tickCount
  perform (.mqttClientStop client)
  let tailStart ← perform .tickCount
  let idle ← perform .tcpIdle
  tailLoop tailStart turns idle
  let _ ← perform .tickCount

def closeSession (turns : Nat) (client : ClientHandle) (healthy : Bool) : PublishProg Unit := do
  if !healthy then
    perform (.mqttClientStop client)
  else
    callHook .onSessionClosing
    drainAndStop turns client
    callHook .onSessionClosed

def startClient (uri : List Char) : PublishProg ClientHandle := do
  perform .clearBits
  let client ← perform (.mqttClientInit uri)
  perform (.mqttClientRegisterEvent client)
  perform (.mqttClientStart client)
  pure client

/-- `MqttClientDeleter`. -/
def releaseClient (client : ClientHandle) : PublishProg Unit :=
  if client.isSome then do
    perform (.mqttClientStop client)
    perform (.mqttClientDestroy client)
  else pure ()

/-- The first client of the boot that can be created is the one that is kept. -/
def createPersistentClient (uri : List Char) : PublishProg ClientHandle := do
  if ← perform .eventGroupCreate then
    let client ← perform (.mqttClientInit uri)
    perform (.setPersistentClient client)
    if client.isSome then
      perform (.mqttClientRegisterEvent client)
      pure client
    else pure none
  else pure none

/-- The client that is kept between cycles. -/
def persistentClient (uri : List Char) : PublishProg ClientHandle := do
  let client ← perform .persistentClient
  if client.isSome then
    perform (.mqttClientSetUri client uri)
    pure client
  else createPersistentClient uri

def startPersistentClient (uri : List Char) : PublishProg ClientHandle := do
  let client ← persistentClient uri
  if client.isSome then
    perform .clearBits
    perform (.mqttClientStart client)
    pure client
  else pure none

def replayHistory (client : ClientHandle) : Nat → PublishProg Unit
  | 0 => pure ()
  | batches + 1 => do
    if ← perform .historyPending then
      if ← perform .peekBatch then
        if ← perform .formatted then
          perform (.setExpectedAcks 1)
          perform .resetReceivedAcks
          perform .clearBits
          let _ ← perform (.mqttPublish client)
          if ← perform (.waitAllAcked client) then
            perform .historyAdvance
            replayHistory client batches

def replayHistoryIfPending (client : ClientHandle) : PublishProg Unit := do
  if ← perform .formatted then replayHistory client backfillMaxBatchesPerCycle

def publishDiscoveries (client : ClientHandle) : List DiscoveryBit → PublishProg Unit
  | [] => pure ()
  | bit :: rest => do
    perform (.publishDiscovery client bit)
    publishDiscoveries client rest

def publishState (client : ClientHandle) (subscribe : Bool) : PublishProg Bool := do
  if ← perform .formatted then
    let _ ← perform (.mqttPublish client)
    let ok ← perform (.waitAllAcked client)
    if ok && subscribe then
      let _ ← perform .subackReceived
      pure ok
    else pure ok
  else pure false

/-- The SUBSCRIBE of a session that does not hold the topics, if this is one. -/
def subscribeTopics (client : ClientHandle) : PublishProg Bool := do
  let present ← perform .sessionPresent
  let subscribed ← perform .sessionSubscribed
  if present && subscribed then pure false
  else
    let _ ← perform (.mqttSubscribeMultiple client)
    pure true

/-- The replay and the runtime configuration, for which a cycle must be healthy. -/
def serveBacklog (client : ClientHandle) (healthy : Bool) : PublishProg Unit :=
  if healthy then do
    replayHistoryIfPending client
    perform (.applyPending client)
  else pure ()

def publishConnected (client : ClientHandle) (params : PublishParams) : PublishProg Bool := do
  perform (.setAbortiveClose client)
  let subscribe ← subscribeTopics client
  let link ← perform .readLinkStats
  let sent ← perform .discoverySent
  let need := discoveryNeed params link sent
  perform (.setExpectedAcks
    ((if params.hasAny then 1 else 0) + (need.map DiscoveryBit.messages).sum))
  perform .resetReceivedAcks
  perform .clearBits
  publishDiscoveries client need
  let ok ← if params.hasAny then publishState client subscribe else pure false
  serveBacklog client (ok || !params.hasAny)
  pure ok

/-! ## ota_updater.cpp -/

def otaSessionCapMs : Nat := 30 * 60 * 1000

def publishStatus (client : ClientHandle) : PublishProg Unit :=
  if client.isSome then do
    let _ ← perform (.mqttPublish client)
  else pure ()

/-- `discard_partial_locked` where another image is staged; whether the download
that is kept resumes. -/
def keptDownload (manifest : Manifest) : PublishProg Bool := do
  match ← perform .partialDownload with
  | none => pure false
  | some remembered =>
    if manifest.sameImage remembered then pure true
    else
      perform .discardPartial
      pure false

/-- "fresh start or resume", with whether the session goes on. -/
def freshOrResume (client : ClientHandle) (manifest : Manifest) : PublishProg Bool := do
  if ← keptDownload manifest then pure true
  else
    let slot ← perform .nextUpdatePartition
    if !slot.any fun size => decide (manifest.size ≤ size) then
      publishStatus client
      pure false
    else if !(← perform .otaBegin) then
      publishStatus client
      pure false
    else if !(← perform .hashSetup) then
      perform .discardPartial
      publishStatus client
      pure false
    else pure true

/-- The loop that primes the window, with `subscribed_ok`. -/
def primeLoop (client : ClientHandle) : Nat → PublishProg Bool
  | 0 => pure true
  | turns + 1 => do
    if ← perform (.mqttSubscribe client) then primeLoop client turns
    else pure false

def subscribeNext (client : ClientHandle) (totalChunks chunk : Nat) : PublishProg Bool :=
  if chunk + subscribePipeline < totalChunks then perform (.mqttSubscribe client) else pure true

def reportProgress (client : ClientHandle) (totalChunks chunk : Nat) : PublishProg Unit :=
  if (chunk + 1) % max (totalChunks / 10) 1 = 0 ∧ chunk + 1 < totalChunks then
    publishStatus client
  else pure ()

/-- The loop that keeps the window deep. -/
def topUpLoop (client : ClientHandle) (totalChunks : Nat) : Nat → Nat → PublishProg Bool
  | _, 0 => pure true
  | chunk, turns + 1 => do
    if ← subscribeNext client totalChunks chunk then
      reportProgress client totalChunks chunk
      topUpLoop client totalChunks (chunk + 1) turns
    else pure false

def pullLoop (client : ClientHandle) (totalChunks startTick : Nat) :
    Nat → Bool → Nat → PublishProg Nat
  | 0, _, _ => outOfTurns
  | turns + 1, subscribedOk, done =>
    if subscribedOk && decide (done < totalChunks) then do
      let bits ← perform .waitOtaBits
      if bits.fail then
        let _ ← perform .connLost
        pure done
      else
        let nowDone ← perform .nextChunk
        if nowDone = done then
          if bits.chunk then pullLoop client totalChunks startTick turns subscribedOk done
          else pure done
        else
          let subscribedOk ← topUpLoop client totalChunks done (nowDone - done)
          let now ← perform .tickCount
          if decide (nowDone < totalChunks) && decide (otaSessionCapMs < u32Sub now startTick) then
            pure nowDone
          else pullLoop client totalChunks startTick turns subscribedOk nowDone
    else pure done

/-- The checks and calls on the way to a new boot partition. -/
def installImage (manifest : Manifest) : PublishProg Bool := do
  let sha ← perform .hashFinish
  if sha ≠ some manifest.sha256 then pure false
  else if !(← perform .otaEnd) then pure false
  else perform .setBootPartition

/-- "finalize or keep for resume", with `ok`. -/
def finalizeDownload (manifest : Manifest) (allChunks : Bool) : PublishProg Bool := do
  if allChunks then
    let ok ← installImage manifest
    perform .discardPartial
    let _ ← perform .nextChunk
    pure ok
  else
    let _ ← perform .nextChunk
    pure false

/-- What `ota_run_session` does between its two hooks. -/
def download (turns : Nat) (client : ClientHandle) (manifest : Manifest) (startChunk : Nat) :
    PublishProg Bool := do
  let totalChunks := Ota.totalChunks manifest
  perform .setTxPower
  let startTick ← perform .tickCount
  let subscribedOk ←
    primeLoop client (min (startChunk + subscribePipeline) totalChunks - startChunk)
  let done ← pullLoop client totalChunks startTick turns subscribedOk startChunk
  finalizeDownload manifest (done == totalChunks)

def reportSession (client : ClientHandle) (ok : Bool) : PublishProg Unit := do
  perform .setTxPower
  publishStatus client
  if ok then
    let _ ← perform (.mqttPublish client)
    perform .delay
    espRestart
  else pure ()

/-- A status that died with the previous connection gets a second chance. -/
def repeatStatus (client : ClientHandle) : PublishProg Unit := do
  if ← perform .undeliveredStatus then publishStatus client else pure ()

def otaRunSession (turns : Nat) (client : ClientHandle) (batteryPercent : Option Flt) :
    PublishProg Unit := do
  repeatStatus client
  let manifest ← perform .stagedManifest
  if (batteryPercent.any fun percent => Flt.lt percent otaMinBatteryPercent) &&
      !manifest.force then
    publishStatus client
  else if ← freshOrResume client manifest then
    let startChunk ← perform .nextChunk
    publishStatus client
    perform .clearBits
    callHook .onOtaWindowBegin
    let ok ← download turns client manifest startChunk
    callHook .onOtaWindowEnd
    reportSession client ok
  else pure ()

/-! ## The cycle -/

/-- The condition of the loop that resumes in-cycle. -/
def resumable : PublishProg Bool := do
  if ← perform .otaUpdateDue then perform .connLost else pure false

/-- A client for an OTA session, with whether it connects. -/
def connectOta (uri : List Char) : PublishProg (ClientHandle × Bool) := do
  let client ← startClient uri
  let connected ← perform (.waitConnected client)
  pure (client, connected)

/-- The loop that resumes after a lost connection.  The client is released with
every turn and on the way out. -/
def reconnectLoop (batteryPercent : Option Flt) : Nat → ClientHandle → PublishProg Unit
  | 0, _ => outOfTurns
  | turns + 1, client => do
    let again ← resumable
    releaseClient client
    if again then
      let uri ← perform .brokerUri
      if uri = [] then pure ()
      else
        let (client, connected) ← connectOta uri
        if connected then
          otaRunSession turns client batteryPercent
          reconnectLoop batteryPercent turns client
        else releaseClient client
    else pure ()

def runOtaIfDue (turns : Nat) (uri : List Char) (batteryPercent : Option Flt) :
    PublishProg Unit := do
  if !(← perform .otaUpdateDue) then pure ()
  else if !(← perform .eventGroupCreate) then pure ()
  else
    let (client, connected) ← connectOta uri
    if connected then
      otaRunSession turns client batteryPercent
      reconnectLoop batteryPercent turns client
    else releaseClient client

/-- The persistent client's part of a cycle, with `ok`. -/
def publishPersistent (turns : Nat) (params : PublishParams) (uri : List Char) :
    PublishProg Bool := do
  let client ← startPersistentClient uri
  if client.isSome then
    if ← perform (.waitConnected client) then
      let ok ← publishConnected client params
      closeSession turns client (ok || !params.hasAny)
      pure ok
    else
      closeSession turns client false
      pure false
  else pure false

/-- With an update due and nothing else to publish, the persistent client is skipped. -/
def publishUnlessOta (turns : Nat) (params : PublishParams) (uri : List Char) :
    PublishProg Bool := do
  if (← perform .otaUpdateDue) && !params.hasAny then pure false
  else publishPersistent turns params uri

def runPublishCycle (turns : Nat) (params : PublishParams) : PublishProg Bool := do
  callHook .onPublishWindowBegin
  if !(← perform .waitForBrokerReachable) then
    callHook .onPublishWindowEnd
    pure false
  else
    let uri ← perform .brokerUri
    if uri = [] then
      callHook .onPublishWindowEnd
      pure false
    else
      let ok ← publishUnlessOta turns params uri
      if ok || !params.hasAny then
        runOtaIfDue turns uri params.batteryPercent
        callHook .onPublishWindowEnd
        pure ok
      else
        callHook .onPublishWindowEnd
        pure ok

/-! ## Calls that leave the period alone -/

open Prog

def Quiet : PublishOp → Prop
  | .hook _ => False
  | _ => True

theorem quiet_perform {op : PublishOp} (quiet : Quiet op) : (perform op).Only Quiet :=
  only_perform quiet

theorem outOfTurns_quiet {α : Type} : (outOfTurns : PublishProg α).Only Quiet :=
  ⟨trivial, fun never => never.elim⟩

theorem publishStatus_quiet (client : ClientHandle) : (publishStatus client).Only Quiet := by
  unfold publishStatus
  split
  · exact only_bind (quiet_perform trivial) fun _ => trivial
  · trivial

theorem drainLoop_quiet (client : ClientHandle) (start cap turns : Nat) :
    (drainLoop client start cap turns).Only Quiet := by
  induction turns with
  | zero => exact outOfTurns_quiet
  | succ turns ih =>
    refine only_bind (quiet_perform trivial) fun size => ?_
    split
    · refine only_bind (quiet_perform trivial) fun now => ?_
      split
      · exact only_bind (quiet_perform trivial) fun _ => trivial
      · exact only_bind (quiet_perform trivial) fun _ => ih
    · trivial

theorem tailLoop_quiet (tailStart turns : Nat) (idle : Bool) :
    (tailLoop tailStart turns idle).Only Quiet := by
  induction turns generalizing idle with
  | zero => exact outOfTurns_quiet
  | succ turns ih =>
    unfold tailLoop
    split
    · trivial
    · refine only_bind (quiet_perform trivial) fun now => ?_
      split
      · refine only_bind (quiet_perform trivial) fun _ => ?_
        exact only_bind (quiet_perform trivial) fun idle => ih idle
      · trivial

theorem drainAndStop_quiet (turns : Nat) (client : ClientHandle) :
    (drainAndStop turns client).Only Quiet := by
  refine only_bind (quiet_perform trivial) fun _ => ?_
  refine only_bind (only_bind (quiet_perform trivial) fun start => ?_) fun _ => ?_
  · exact drainLoop_quiet client start outboxDrainCapMs turns
  refine only_bind (quiet_perform trivial) fun _ => ?_
  refine only_bind (quiet_perform trivial) fun _ => ?_
  refine only_bind (quiet_perform trivial) fun tailStart => ?_
  refine only_bind (quiet_perform trivial) fun idle => ?_
  refine only_bind (tailLoop_quiet tailStart turns idle) fun _ => ?_
  exact only_bind (quiet_perform trivial) fun _ => trivial

theorem startClient_quiet (uri : List Char) : (startClient uri).Only Quiet := by
  refine only_bind (quiet_perform trivial) fun _ => ?_
  refine only_bind (quiet_perform trivial) fun client => ?_
  refine only_bind (quiet_perform trivial) fun _ => ?_
  exact only_bind (quiet_perform trivial) fun _ => trivial

theorem releaseClient_quiet (client : ClientHandle) : (releaseClient client).Only Quiet := by
  unfold releaseClient
  split
  · exact only_bind (quiet_perform trivial) fun _ => quiet_perform trivial
  · trivial

theorem createPersistentClient_quiet (uri : List Char) :
    (createPersistentClient uri).Only Quiet := by
  refine only_bind (quiet_perform trivial) fun created => ?_
  split
  · refine only_bind (quiet_perform trivial) fun client => ?_
    refine only_bind (quiet_perform trivial) fun _ => ?_
    split
    · exact only_bind (quiet_perform trivial) fun _ => trivial
    · trivial
  · trivial

theorem persistentClient_quiet (uri : List Char) : (persistentClient uri).Only Quiet := by
  refine only_bind (quiet_perform trivial) fun existing => ?_
  split
  · exact only_bind (quiet_perform trivial) fun _ => trivial
  · exact createPersistentClient_quiet uri

theorem startPersistentClient_quiet (uri : List Char) :
    (startPersistentClient uri).Only Quiet := by
  refine only_bind (persistentClient_quiet uri) fun client => ?_
  split
  · refine only_bind (quiet_perform trivial) fun _ => ?_
    exact only_bind (quiet_perform trivial) fun _ => trivial
  · trivial

theorem replayHistory_quiet (client : ClientHandle) (batches : Nat) :
    (replayHistory client batches).Only Quiet := by
  induction batches with
  | zero => trivial
  | succ batches ih =>
    refine only_bind (quiet_perform trivial) fun pending => ?_
    split
    · refine only_bind (quiet_perform trivial) fun found => ?_
      split
      · refine only_bind (quiet_perform trivial) fun formatted => ?_
        split
        · refine only_bind (quiet_perform trivial) fun _ => ?_
          refine only_bind (quiet_perform trivial) fun _ => ?_
          refine only_bind (quiet_perform trivial) fun _ => ?_
          refine only_bind (quiet_perform trivial) fun _ => ?_
          refine only_bind (quiet_perform trivial) fun acked => ?_
          split
          · exact only_bind (quiet_perform trivial) fun _ => ih
          · trivial
        · trivial
      · trivial
    · trivial

theorem publishDiscoveries_quiet (client : ClientHandle) (need : List DiscoveryBit) :
    (publishDiscoveries client need).Only Quiet := by
  induction need with
  | nil => trivial
  | cons bit rest ih => exact only_bind (quiet_perform trivial) fun _ => ih

theorem publishState_quiet (client : ClientHandle) (subscribe : Bool) :
    (publishState client subscribe).Only Quiet := by
  refine only_bind (quiet_perform trivial) fun formatted => ?_
  split
  · refine only_bind (quiet_perform trivial) fun _ => ?_
    refine only_bind (quiet_perform trivial) fun ok => ?_
    split
    · exact only_bind (quiet_perform trivial) fun _ => trivial
    · trivial
  · trivial

theorem subscribeTopics_quiet (client : ClientHandle) :
    (subscribeTopics client).Only Quiet := by
  refine only_bind (quiet_perform trivial) fun present => ?_
  refine only_bind (quiet_perform trivial) fun subscribed => ?_
  split
  · trivial
  · exact only_bind (quiet_perform trivial) fun _ => trivial

theorem serveBacklog_quiet (client : ClientHandle) (healthy : Bool) :
    (serveBacklog client healthy).Only Quiet := by
  unfold serveBacklog
  split
  · refine only_bind (only_bind (quiet_perform trivial) fun formatted => ?_) fun _ => ?_
    · split
      · exact replayHistory_quiet client backfillMaxBatchesPerCycle
      · trivial
    · exact quiet_perform trivial
  · trivial

theorem publishConnected_quiet (client : ClientHandle) (params : PublishParams) :
    (publishConnected client params).Only Quiet := by
  refine only_bind (quiet_perform trivial) fun _ => ?_
  refine only_bind (subscribeTopics_quiet client) fun subscribe => ?_
  refine only_bind (quiet_perform trivial) fun link => ?_
  refine only_bind (quiet_perform trivial) fun sent => ?_
  refine only_bind (quiet_perform trivial) fun _ => ?_
  refine only_bind (quiet_perform trivial) fun _ => ?_
  refine only_bind (quiet_perform trivial) fun _ => ?_
  refine only_bind (publishDiscoveries_quiet client _) fun _ => ?_
  dsimp only
  split
  · refine only_bind (publishState_quiet client subscribe) fun ok => ?_
    exact only_bind (serveBacklog_quiet client _) fun _ => trivial
  · refine only_bind trivial fun ok => ?_
    exact only_bind (serveBacklog_quiet client _) fun _ => trivial

theorem freshOrResume_quiet (client : ClientHandle) (manifest : Manifest) :
    (freshOrResume client manifest).Only Quiet := by
  refine only_bind (only_bind (quiet_perform trivial) fun remembered => ?_) fun resumes => ?_
  · cases remembered with
    | none => trivial
    | some remembered =>
      dsimp only
      split
      · trivial
      · exact only_bind (quiet_perform trivial) fun _ => trivial
  split
  · trivial
  refine only_bind (quiet_perform trivial) fun slot => ?_
  split
  · exact only_bind (publishStatus_quiet client) fun _ => trivial
  refine only_bind (quiet_perform trivial) fun begun => ?_
  split
  · exact only_bind (publishStatus_quiet client) fun _ => trivial
  refine only_bind (quiet_perform trivial) fun hashed => ?_
  split
  · refine only_bind (quiet_perform trivial) fun _ => ?_
    exact only_bind (publishStatus_quiet client) fun _ => trivial
  · trivial

theorem primeLoop_quiet (client : ClientHandle) (turns : Nat) :
    (primeLoop client turns).Only Quiet := by
  induction turns with
  | zero => trivial
  | succ turns ih =>
    refine only_bind (quiet_perform trivial) fun subscribedOk => ?_
    split
    · exact ih
    · trivial

theorem topUpLoop_quiet (client : ClientHandle) (totalChunks chunk turns : Nat) :
    (topUpLoop client totalChunks chunk turns).Only Quiet := by
  induction turns generalizing chunk with
  | zero => trivial
  | succ turns ih =>
    refine only_bind ?_ fun subscribedOk => ?_
    · unfold subscribeNext
      split
      · exact quiet_perform trivial
      · trivial
    split
    · refine only_bind ?_ fun _ => ih (chunk + 1)
      unfold reportProgress
      split
      · exact publishStatus_quiet client
      · trivial
    · trivial

theorem pullLoop_quiet (client : ClientHandle) (totalChunks startTick turns : Nat)
    (subscribedOk : Bool) (done : Nat) :
    (pullLoop client totalChunks startTick turns subscribedOk done).Only Quiet := by
  induction turns generalizing subscribedOk done with
  | zero => exact outOfTurns_quiet
  | succ turns ih =>
    unfold pullLoop
    split
    · refine only_bind (quiet_perform trivial) fun bits => ?_
      split
      · exact only_bind (quiet_perform trivial) fun _ => trivial
      refine only_bind (quiet_perform trivial) fun nowDone => ?_
      split
      · split
        · exact ih subscribedOk done
        · trivial
      refine only_bind (topUpLoop_quiet client totalChunks done (nowDone - done)) fun more => ?_
      refine only_bind (quiet_perform trivial) fun now => ?_
      split
      · trivial
      · exact ih more nowDone
    · trivial

theorem finalizeDownload_quiet (manifest : Manifest) (allChunks : Bool) :
    (finalizeDownload manifest allChunks).Only Quiet := by
  unfold finalizeDownload
  split
  · refine only_bind (only_bind (quiet_perform trivial) fun sha => ?_) fun ok => ?_
    · split
      · trivial
      refine only_bind (quiet_perform trivial) fun ended => ?_
      split
      · trivial
      · exact quiet_perform trivial
    · refine only_bind (quiet_perform trivial) fun _ => ?_
      exact only_bind (quiet_perform trivial) fun _ => trivial
  · exact only_bind (quiet_perform trivial) fun _ => trivial

theorem download_quiet (turns : Nat) (client : ClientHandle) (manifest : Manifest)
    (startChunk : Nat) : (download turns client manifest startChunk).Only Quiet := by
  refine only_bind (quiet_perform trivial) fun _ => ?_
  refine only_bind (quiet_perform trivial) fun startTick => ?_
  refine only_bind (primeLoop_quiet client _) fun subscribedOk => ?_
  refine only_bind (pullLoop_quiet client _ startTick turns subscribedOk startChunk) fun done => ?_
  exact finalizeDownload_quiet manifest _

theorem reportSession_quiet (client : ClientHandle) (ok : Bool) :
    (reportSession client ok).Only Quiet := by
  refine only_bind (quiet_perform trivial) fun _ => ?_
  refine only_bind (publishStatus_quiet client) fun _ => ?_
  split
  · refine only_bind (quiet_perform trivial) fun _ => ?_
    refine only_bind (quiet_perform trivial) fun _ => ?_
    exact ⟨trivial, fun never => never.elim⟩
  · trivial

theorem repeatStatus_quiet (client : ClientHandle) : (repeatStatus client).Only Quiet := by
  refine only_bind (quiet_perform trivial) fun undelivered => ?_
  split
  · exact publishStatus_quiet client
  · trivial

theorem connectOta_quiet (uri : List Char) : (connectOta uri).Only Quiet := by
  refine only_bind (startClient_quiet uri) fun client => ?_
  exact only_bind (quiet_perform trivial) fun _ => trivial

theorem resumable_quiet : resumable.Only Quiet := by
  refine only_bind (quiet_perform trivial) fun due => ?_
  split
  · exact quiet_perform trivial
  · trivial

/-! ## The windows nest -/

/-- The period a hook finds: both inner windows lie in the fast one. -/
def LinkHook.Nests (period : Nat) : LinkHook → Prop
  | .onPublishWindowBegin => True
  | .onPublishWindowEnd | .onOtaWindowBegin | .onSessionClosing => period = pollFastMs
  | .onOtaWindowEnd => period = pollOtaMs
  | .onSessionClosed => period = pollCloseMs

def linkMay (period : Nat) : PublishOp → Prop
  | .hook hook => hook.Nests period
  | _ => True

section Bracket

variable (setPollPeriod : Nat → Nat → Nat)

def linkAfter (period : Nat) : PublishOp → Nat
  | .hook hook => setPollPeriod hook.period period
  | _ => period

/-- The poll period of the link, which only the hooks set. -/
def bracket : Contract PublishOp PublishOp.Res Nat where
  may := linkMay
  effect period op _ after := after = linkAfter setPollPeriod period op

theorem linkAfter_hook [TakesPeriods setPollPeriod] (period : Nat) (hook : LinkHook) :
    linkAfter setPollPeriod period (.hook hook) = hook.period := by
  apply TakesPeriods.takes
  · cases hook <;> decide
  · cases hook <;> decide

theorem quiet_frame {op : PublishOp} (quiet : Quiet op) (period : Nat) :
    linkMay period op ∧ linkAfter setPollPeriod period op = period := by
  cases op with
  | hook => exact quiet.elim
  | _ => exact ⟨trivial, rfl⟩

/-- The program leaves a period that it finds as it is. -/
def Restores {α : Type} (program : PublishProg α) (period : Nat) : Prop :=
  program.wp (bracket setPollPeriod) period fun after _ => after = period

end Bracket

section Restores

variable {setPollPeriod : Nat → Nat → Nat} {α β : Type} {period : Nat}

theorem restores_quiet {program : PublishProg α} (quiet : program.Only Quiet) :
    Restores setPollPeriod program period :=
  wp_of_only quiet (fun _ permitted => (quiet_frame setPollPeriod permitted period).1)
    (fun _ _ _ permitted changed => changed.trans (quiet_frame setPollPeriod permitted period).2)

theorem wp_callHook [TakesPeriods setPollPeriod] {hook : LinkHook} (nests : hook.Nests period) :
    (callHook hook).wp (bracket setPollPeriod) period fun after _ => after = hook.period :=
  wp_perform nests fun _ _ changed => changed.trans (linkAfter_hook setPollPeriod period hook)

theorem wp_hook [TakesPeriods setPollPeriod] {hook : LinkHook} {rest : PublishProg β}
    {post : Nat → β → Prop} (nests : hook.Nests period)
    (continues : rest.wp (bracket setPollPeriod) hook.period post) :
    Prog.wp (bracket setPollPeriod) (callHook hook >>= fun _ => rest) period post := by
  apply wp_seq (wp_callHook nests)
  intro after _ same
  exact same ▸ continues

theorem wp_restores {first : PublishProg α} {rest : α → PublishProg β} {post : Nat → β → Prop}
    (starts : Restores setPollPeriod first period)
    (continues : ∀ value, (rest value).wp (bracket setPollPeriod) period post) :
    Prog.wp (bracket setPollPeriod) (first >>= rest) period post :=
  wp_seq starts fun _ value same => same ▸ continues value

theorem wp_lastHook [TakesPeriods setPollPeriod] {hook : LinkHook} {value : α}
    (nests : hook.Nests period) :
    Prog.wp (bracket setPollPeriod) (callHook hook >>= fun _ => (pure value : PublishProg α)) period
      fun after _ => after = hook.period :=
  wp_hook nests rfl

end Restores

section Cycles

variable {setPollPeriod : Nat → Nat → Nat} [TakesPeriods setPollPeriod]

theorem closeSession_restores (turns : Nat) (client : ClientHandle) (healthy : Bool) :
    Restores setPollPeriod (closeSession turns client healthy) pollFastMs := by
  unfold closeSession
  split
  · exact restores_quiet (quiet_perform trivial)
  · refine wp_hook rfl ?_
    refine wp_restores (restores_quiet (drainAndStop_quiet turns client)) fun _ => ?_
    exact wp_callHook rfl

theorem otaRunSession_restores (turns : Nat) (client : ClientHandle)
    (batteryPercent : Option Flt) :
    Restores setPollPeriod (otaRunSession turns client batteryPercent) pollFastMs := by
  refine wp_restores (restores_quiet (repeatStatus_quiet client)) fun _ => ?_
  refine wp_restores (restores_quiet (quiet_perform trivial)) fun manifest => ?_
  split
  · exact restores_quiet (publishStatus_quiet client)
  refine wp_restores (restores_quiet (freshOrResume_quiet client manifest)) fun goesOn => ?_
  split
  · refine wp_restores (restores_quiet (quiet_perform trivial)) fun startChunk => ?_
    refine wp_restores (restores_quiet (publishStatus_quiet client)) fun _ => ?_
    refine wp_restores (restores_quiet (quiet_perform trivial)) fun _ => ?_
    refine wp_hook rfl ?_
    refine wp_restores (restores_quiet (download_quiet turns client manifest startChunk)) ?_
    intro ok
    refine wp_hook rfl ?_
    exact restores_quiet (reportSession_quiet client ok)
  · rfl

theorem reconnectLoop_restores (batteryPercent : Option Flt) (turns : Nat)
    (client : ClientHandle) :
    Restores setPollPeriod (reconnectLoop batteryPercent turns client) pollFastMs := by
  induction turns generalizing client with
  | zero => exact restores_quiet outOfTurns_quiet
  | succ turns ih =>
    refine wp_restores (restores_quiet resumable_quiet) fun again => ?_
    refine wp_restores (restores_quiet (releaseClient_quiet client)) fun _ => ?_
    split
    · refine wp_restores (restores_quiet (quiet_perform trivial)) fun uri => ?_
      split
      · rfl
      refine wp_restores (restores_quiet (connectOta_quiet uri)) fun opened => ?_
      obtain ⟨client, connected⟩ := opened
      dsimp only
      split
      · exact wp_restores (otaRunSession_restores turns client batteryPercent) fun _ => ih client
      · exact restores_quiet (releaseClient_quiet client)
    · rfl

theorem runOtaIfDue_restores (turns : Nat) (uri : List Char) (batteryPercent : Option Flt) :
    Restores setPollPeriod (runOtaIfDue turns uri batteryPercent) pollFastMs := by
  refine wp_restores (restores_quiet (quiet_perform trivial)) fun due => ?_
  split
  · rfl
  refine wp_restores (restores_quiet (quiet_perform trivial)) fun created => ?_
  split
  · rfl
  refine wp_restores (restores_quiet (connectOta_quiet uri)) fun opened => ?_
  obtain ⟨client, connected⟩ := opened
  dsimp only
  split
  · refine wp_restores (otaRunSession_restores turns client batteryPercent) fun _ => ?_
    exact reconnectLoop_restores batteryPercent turns client
  · exact restores_quiet (releaseClient_quiet client)

theorem publishUnlessOta_restores (turns : Nat) (params : PublishParams) (uri : List Char) :
    Restores setPollPeriod (publishUnlessOta turns params uri) pollFastMs := by
  refine wp_restores (restores_quiet (quiet_perform trivial)) fun due => ?_
  split
  · rfl
  refine wp_restores (restores_quiet (startPersistentClient_quiet uri)) fun client => ?_
  split
  · refine wp_restores (restores_quiet (quiet_perform trivial)) fun connected => ?_
    split
    · refine wp_restores (restores_quiet (publishConnected_quiet client params)) fun ok => ?_
      exact wp_restores (closeSession_restores turns client _) fun _ => rfl
    · exact wp_restores (closeSession_restores turns client false) fun _ => rfl
  · rfl

theorem runPublishCycle_slow (turns : Nat) (params : PublishParams) (period : Nat) :
    (runPublishCycle turns params).wp (bracket setPollPeriod) period fun after _ =>
      after = pollSlowMs := by
  refine wp_hook trivial ?_
  refine wp_restores (restores_quiet (quiet_perform trivial)) fun reachable => ?_
  split
  · exact wp_lastHook rfl
  refine wp_restores (restores_quiet (quiet_perform trivial)) fun uri => ?_
  split
  · exact wp_lastHook rfl
  refine wp_restores (publishUnlessOta_restores turns params uri) fun ok => ?_
  split
  · refine wp_restores (runOtaIfDue_restores turns uri params.batteryPercent) fun _ => ?_
    exact wp_lastHook rfl
  · exact wp_lastHook rfl

/-- Whatever the calls answer and however long the loops run: a cycle that
returns leaves the slow period, and within it each of the functions that change
the period has set it back to the window's when it returns. -/
theorem pollPeriod_bracketed (turns : Nat) (params : PublishParams) (uri : List Char)
    (client : ClientHandle) (batteryPercent : Option Flt) (healthy : Bool) (period : Nat) :
    ((runPublishCycle turns params).wp (bracket setPollPeriod) period fun after _ =>
        after = pollSlowMs) ∧
      Restores setPollPeriod (closeSession turns client healthy) pollFastMs ∧
      Restores setPollPeriod (otaRunSession turns client batteryPercent) pollFastMs ∧
      Restores setPollPeriod (runOtaIfDue turns uri batteryPercent) pollFastMs :=
  ⟨runPublishCycle_slow turns params period, closeSession_restores turns client healthy,
    otaRunSession_restores turns client batteryPercent,
    runOtaIfDue_restores turns uri batteryPercent⟩

end Cycles

/-- A period under the minimum is refused and a longer one is clipped. -/
def clippedPeriod (ms before : Nat) : Nat :=
  if 0 < ms ∧ ms < 10 then before else min ms (2 ^ 26 - 1)

theorem clippedPeriod_takes : TakesPeriods clippedPeriod where
  takes := by
    intro ms before atLeast below
    unfold clippedPeriod
    rw [if_neg (by omega)]
    omega

theorem pollPeriod_bracketed_clipped :
    ((runPublishCycle 3 {}).wp (bracket clippedPeriod) 0 fun after _ => after = pollSlowMs) ∧
      Restores clippedPeriod (closeSession 3 (some 0) true) pollFastMs ∧
      Restores clippedPeriod (otaRunSession 3 (some 0) none) pollFastMs ∧
      Restores clippedPeriod (runOtaIfDue 3 [] none) pollFastMs :=
  @pollPeriod_bracketed clippedPeriod clippedPeriod_takes 3 {} [] (some 0) none true 0

end SleepySensor.PollWindows
