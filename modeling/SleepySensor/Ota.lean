import SleepySensor.Base
import SleepySensor.Lib.Chunks

/-!
# The MQTT OTA updater

`ota_updater.cpp` with the loop of `run_ota_if_due`: the statics, the session
task cut at its waits and locks, and the handler that the event task of the OTA
client runs.  Every locked section is one step.  The status messages are left
out; they only inform.
-/

set_option autoImplicit false

namespace SleepySensor

abbrev Bytes := List UInt8

/-- 32 bytes of SHA-256. -/
abbrev Digest := BitVec 256

def otaMinBatteryPercent : Flt := .fin 30
def otaMaxNoProgressAttempts : Nat := 3
def otaMaxChunkSize : Nat := 8192
def subscribePipeline : Nat := 2
/-- An `ota_*` slot of `partitions.csv`, 1984K. -/
def otaSlotSize : Nat := 1984 * 1024

/-- The running image and the hash of the crypto library. -/
structure Firmware where
  runningVersion : List Char
  sha256 : Bytes → Digest

structure Manifest where
  version : List Char := []
  size : Nat := 0
  chunkSize : Nat := 0
  sha256 : Digest := 0
  force : Bool := false
  valid : Bool := false
  differsFromRunning : Bool := false
  deriving DecidableEq, Repr

def Manifest.sameImage (m o : Manifest) : Bool :=
  m.size == o.size && m.chunkSize == o.chunkSize && m.sha256 == o.sha256

/-- What `handle_manifest` finds in a body: the token of each field as it reads
it, numbers as what their digits denote. -/
structure ManifestFields where
  version : Option (List Char)
  size : Option Nat
  chunkSize : Option Nat
  sha256 : Option Digest
  force : Bool
  deriving DecidableEq, Repr

inductive ManifestMessage where
  | empty
  | spansEvents
  | body (fields : ManifestFields)
  deriving DecidableEq, Repr

/-- `from_chars` fails on what does not fit a `size_t`. -/
def parseSizeField (digits : Option Nat) : Option Nat :=
  digits.bind fun value => if value < u32Mod then some value else none

def acceptManifest (firmware : Firmware) (fields : ManifestFields) : Option Manifest :=
  match fields.version, parseSizeField fields.size, parseSizeField fields.chunkSize,
      fields.sha256 with
  | some version, some size, some chunkSize, some sha256 =>
    if version = [] ∨ size = 0 ∨ chunkSize = 0 ∨ otaMaxChunkSize < chunkSize then none
    else some
      { version := version, size := size, chunkSize := chunkSize, sha256 := sha256
        force := fields.force, valid := true
        differsFromRunning := version != firmware.runningVersion }
  | _, _, _, _ => none

/-- `psa_hash_operation_t`, with the bytes it has been fed. -/
inductive HashOp where
  | inactive
  | active (fed : Bytes)
  | error
  deriving DecidableEq, Repr

namespace HashOp

/-- `psa_hash_update`: the operation after it, and whether it succeeded. -/
def update (op : HashOp) (data : Bytes) (ok : Bool) : HashOp × Bool :=
  match op, ok with
  | .active fed, true => (.active (fed ++ data), true)
  | .active _, false => (.error, false)
  | op, _ => (op, false)

/-- `psa_hash_finish` into a buffer of 32 bytes. -/
def finish (op : HashOp) (firmware : Firmware) (ok : Bool) : Option Digest :=
  match op, ok with
  | .active fed, true => some (firmware.sha256 fed)
  | _, _ => none

end HashOp

structure ChunkMessage where
  index : Nat
  data : Bytes
  offset : Nat
  total : Nat
  deriving DecidableEq, Repr

/-- The locals of one `ota_run_session`. -/
structure Session where
  manifest : Manifest := {}
  batteryPercent : Option Flt := none
  totalChunks : Nat := 0
  startChunk : Nat := 0
  done : Nat := 0
  subscribedOk : Bool := true
  ok : Bool := false
  progressed : Nat := 0
  deriving DecidableEq, Repr

/-- Where the session task is: first in `run_ota_if_due`, then in
`ota_run_session`. -/
inductive SessionPc where
  | idle
  | connecting
  | connected
  | activating
  | starting
  | pinning
  | priming (chunk : Nat)
  | pulling
  | woke (chunkBit : Bool)
  | toppingUp (chunk nowDone : Nat)
  | ended
  | finalizing
  | closing
  | unpinning
  | reporting
  | returned
  | rebooting
  deriving DecidableEq, Repr

/-- Where the event task of the OTA client is in its handler. -/
inductive HandlerPc where
  | idle
  | chunk (message : ChunkMessage)
  | connLost
  | setChunkBit
  | setFailBit
  deriving DecidableEq, Repr

/-- A chunk the handler took, with the manifest of the session whose client
received it. -/
structure Accepted where
  index : Nat
  payload : Bytes
  session : Manifest
  deriving DecidableEq, Repr

structure BootCall where
  manifest : Manifest
  written : Bytes
  accepted : List Accepted
  deriving DecidableEq, Repr

/-- The statics of `ota_updater.cpp` and the two tasks that use them.  The last
two fields record what happened: the chunks accepted for the handle in use, and
the calls of `esp_ota_set_boot_partition`. -/
structure Ota where
  manifest : Manifest := {}
  installRequested : Bool := false
  sessionActive : Bool := false
  connLost : Bool := false
  noProgressAttempts : Nat := 0
  partialValid : Bool := false
  partialManifest : Manifest := {}
  nextChunk : Nat := 0
  received : Nat := 0
  otaHandle : Option Bytes := none
  shaOp : HashOp := .inactive
  chunkBit : Bool := false
  failBit : Bool := false
  subscribed : List Nat := []
  session : Session := {}
  pc : SessionPc := .idle
  handler : HandlerPc := .idle
  accepted : List Accepted := []
  boots : List BootCall := []
  deriving DecidableEq, Repr

namespace Ota

def handleManifest (ota : Ota) (firmware : Firmware) : ManifestMessage → Ota
  | .empty => { ota with manifest := {} }
  | .spansEvents => ota
  | .body fields =>
    match acceptManifest firmware fields with
    | some manifest => { ota with manifest := manifest }
    | none => ota

def updateDue (ota : Ota) : Bool :=
  ota.installRequested && decide (ota.noProgressAttempts < otaMaxNoProgressAttempts) &&
    (ota.manifest.valid && ota.manifest.differsFromRunning)

def expectedLen (ota : Ota) : Nat :=
  min ota.partialManifest.chunkSize
    (u32Sub ota.partialManifest.size (u32 (ota.nextChunk * ota.partialManifest.chunkSize)))

/-- The locked part of `handle_image_chunk`. -/
def handleImageChunk (ota : Ota) (message : ChunkMessage) (writeOk hashOk : Bool) : Ota :=
  if message.offset ≠ 0 ∨ message.total ≠ message.data.length then
    { ota with handler := .setFailBit }
  else if message.index ≠ ota.nextChunk then { ota with handler := .idle }
  else if message.data.length ≠ ota.expectedLen then { ota with handler := .setFailBit }
  else
    match ota.otaHandle, writeOk with
    | some written, true =>
      let flashed := some (written ++ message.data)
      let (shaOp, hashed) := ota.shaOp.update message.data hashOk
      if hashed then
        { ota with
          otaHandle := flashed
          shaOp := shaOp
          nextChunk := u32 (message.index + 1)
          received := u32 (ota.received + message.data.length)
          accepted := ota.accepted ++
            [{ index := message.index, payload := message.data, session := ota.session.manifest }]
          handler := .setChunkBit }
      else { ota with otaHandle := flashed, shaOp := shaOp, handler := .setFailBit }
    | _, _ => { ota with handler := .setFailBit }

def discardPartialLocked (ota : Ota) : Ota :=
  { ota with
    otaHandle := none
    shaOp := .inactive
    partialValid := false
    nextChunk := 0
    received := 0
    accepted := [] }

def totalChunks (manifest : Manifest) : Nat :=
  u32Sub (u32 (manifest.size + manifest.chunkSize)) 1 / manifest.chunkSize

/-- `ota_run_session` up to the battery gate. -/
def enterSession (ota : Ota) (batteryPercent : Option Flt) : Ota :=
  let deferred := (batteryPercent.any fun percent => Flt.lt percent otaMinBatteryPercent) &&
    !ota.manifest.force
  { ota with
    connLost := false
    session :=
      { manifest := ota.manifest, batteryPercent := batteryPercent
        totalChunks := totalChunks ota.manifest }
    pc := if deferred then .returned else .activating }

def failedStart (ota : Ota) : Ota :=
  { ota with noProgressAttempts := ota.noProgressAttempts + 1, pc := .returned }

def startAt (ota : Ota) (chunk : Nat) : Ota :=
  { ota with session := { ota.session with startChunk := chunk }, pc := .starting }

def activate (ota : Ota) (partitionFound beginOk hashSetupOk : Bool) : Ota :=
  let manifest := ota.session.manifest
  let kept :=
    if ota.partialValid && !manifest.sameImage ota.partialManifest then ota.discardPartialLocked
    else ota
  if kept.partialValid then kept.startAt kept.nextChunk
  else if !partitionFound || decide (otaSlotSize < manifest.size) then kept.failedStart
  else if !beginOk then { kept with otaHandle := none }.failedStart
  else if !hashSetupOk then { kept with otaHandle := some [] }.discardPartialLocked.failedStart
  else
    { kept with
      otaHandle := some []
      shaOp := .active []
      partialManifest := manifest
      partialValid := true
      nextChunk := 0
      received := 0
      accepted := [] }.startAt 0

def beginWindow (ota : Ota) : Ota :=
  { ota with chunkBit := false, failBit := false, sessionActive := true, pc := .pinning }

/-- `subscribe_chunk`. -/
def subscribeChunk (ota : Ota) (chunk : Nat) (ok : Bool) : Ota :=
  if ok then { ota with subscribed := ota.subscribed ++ [chunk] }
  else { ota with session := { ota.session with subscribedOk := false } }

/-- One turn of the loop that primes the subscription window, or its end. -/
def prime (ota : Ota) (chunk : Nat) (ok : Bool) : Ota :=
  if ota.session.subscribedOk &&
      decide (chunk < min (ota.session.startChunk + subscribePipeline) ota.session.totalChunks) then
    { ota.subscribeChunk chunk ok with pc := .priming (chunk + 1) }
  else
    { ota with session := { ota.session with done := ota.session.startChunk }, pc := .pulling }

/-- The loop head and the wait for event bits. -/
def wait (ota : Ota) : Ota :=
  if ota.session.subscribedOk && decide (ota.session.done < ota.session.totalChunks) then
    { ota with
      chunkBit := false, failBit := false
      pc := if ota.failBit then .ended else .woke ota.chunkBit }
  else { ota with pc := .ended }

def countDone (ota : Ota) (chunkBit : Bool) : Ota :=
  let nowDone := ota.nextChunk
  if nowDone = ota.session.done then { ota with pc := if chunkBit then .pulling else .ended }
  else { ota with pc := .toppingUp ota.session.done nowDone }

/-- One turn of the loop that keeps the window deep, or its end and the cap. -/
def topUp (ota : Ota) (chunk nowDone : Nat) (ok capExceeded : Bool) : Ota :=
  if ota.session.subscribedOk && decide (chunk < nowDone) then
    let ota :=
      if chunk + subscribePipeline < ota.session.totalChunks then
        ota.subscribeChunk (chunk + subscribePipeline) ok
      else ota
    { ota with pc := .toppingUp (chunk + 1) nowDone }
  else
    { ota with
      session := { ota.session with done := nowDone }
      pc := if decide (nowDone < ota.session.totalChunks) && capExceeded then .ended
        else .pulling }

def bootCall (ota : Ota) : BootCall :=
  { manifest := ota.session.manifest
    written := ota.otaHandle.getD []
    accepted := ota.accepted }

/-- The calls on the way to a new boot partition: the state after them, and
whether all of them succeeded. -/
def finalizeImage (ota : Ota) (firmware : Firmware) (hashOk endOk bootOk : Bool) : Ota × Bool :=
  match ota.shaOp.finish firmware hashOk with
  | none => (ota, false)
  | some sha =>
    if sha ≠ ota.session.manifest.sha256 then (ota, false)
    else if !endOk then ({ ota with otaHandle := none }, false)
    else ({ ota with otaHandle := none, boots := ota.boots ++ [ota.bootCall] }, bootOk)

/-- The block "finalize or keep for resume". -/
def finalize (ota : Ota) (firmware : Firmware) (hashOk endOk bootOk : Bool) : Ota :=
  let (kept, ok) :=
    if ota.session.done = ota.session.totalChunks then
      let (finished, ok) := ota.finalizeImage firmware hashOk endOk bootOk
      (finished.discardPartialLocked, ok)
    else (ota, false)
  { kept with
    session :=
      { ota.session with ok := ok, progressed := u32Sub kept.nextChunk ota.session.startChunk }
    pc := .closing }

def report (ota : Ota) : Ota :=
  if ota.session.ok then { ota with pc := .rebooting }
  else
    { ota with
      noProgressAttempts := if ota.session.progressed > 0 then 0 else ota.noProgressAttempts + 1
      pc := .returned }

def closeClient (ota : Ota) : Ota := { ota with subscribed := [], pc := .idle }

def openClient (ota : Ota) : Ota := { ota with subscribed := [], pc := .connecting }

end Ota

inductive OtaEvent where
  | manifest (message : ManifestMessage)
  | install (set : Bool)
  | runIfDue
  | connectDone (connected : Bool)
  | enterSession (batteryPercent : Option Flt)
  | activate (partitionFound beginOk hashSetupOk : Bool)
  | beginWindow
  | pin
  | prime (ok : Bool)
  | wait
  | countDone
  | topUp (ok capExceeded : Bool)
  | endSession
  | finalize (hashOk endOk bootOk : Bool)
  | endWindow
  | unpin
  | report
  | loopCheck (uriFound : Bool)
  | chunkArrives (message : ChunkMessage)
  | chunkLocked (writeOk hashOk : Bool)
  | mqttError
  | storeConnLost
  | setBit
  deriving DecidableEq, Repr

namespace Ota

/-- One event of the session task, which alone moves `pc`. -/
def sessionStep (firmware : Firmware) (ota : Ota) : SessionPc → OtaEvent → Option Ota
  | .idle, .runIfDue => if ota.updateDue then some ota.openClient else none
  | .connecting, .connectDone connected =>
    if connected then some { ota with pc := .connected }
    else if ota.handler = .idle then some ota.closeClient else none
  | .connected, .enterSession battery => some (ota.enterSession battery)
  | .activating, .activate found beginOk hashSetupOk =>
    some (ota.activate found beginOk hashSetupOk)
  | .starting, .beginWindow => some ota.beginWindow
  | .pinning, .pin => some { ota with pc := .priming ota.session.startChunk }
  | .priming chunk, .prime ok => some (ota.prime chunk ok)
  | .pulling, .wait => some ota.wait
  | .woke chunkBit, .countDone => some (ota.countDone chunkBit)
  | .toppingUp chunk nowDone, .topUp ok capExceeded =>
    some (ota.topUp chunk nowDone ok capExceeded)
  | .ended, .endSession => some { ota with sessionActive := false, pc := .finalizing }
  | .finalizing, .finalize hashOk endOk bootOk =>
    some (ota.finalize firmware hashOk endOk bootOk)
  | .closing, .endWindow => some { ota with pc := .unpinning }
  | .unpinning, .unpin => some { ota with pc := .reporting }
  | .reporting, .report => some ota.report
  | .returned, .loopCheck uriFound =>
    -- the client is stopped before it is destroyed, which waits for its handler
    if ota.handler = .idle then
      some (if ota.updateDue && ota.connLost && uriFound then ota.openClient else ota.closeClient)
    else none
  | _, _ => none

/-- One event of the handler.  A chunk arrives on a subscribed topic only. -/
def handlerStep (ota : Ota) : HandlerPc → OtaEvent → Option Ota
  | .idle, .chunkArrives message =>
    if ota.pc ≠ .idle ∧ message.index ∈ ota.subscribed then
      some (if ota.sessionActive then { ota with handler := .chunk message } else ota)
    else none
  | .idle, .mqttError =>
    if ota.pc ≠ .idle then
      some (if ota.sessionActive then { ota with handler := .connLost } else ota)
    else none
  | .chunk message, .chunkLocked writeOk hashOk =>
    some (ota.handleImageChunk message writeOk hashOk)
  | .connLost, .storeConnLost => some { ota with connLost := true, handler := .setFailBit }
  | .setChunkBit, .setBit => some { ota with chunkBit := true, handler := .idle }
  | .setFailBit, .setBit => some { ota with failBit := true, handler := .idle }
  | _, _ => none

/-- Manifest and install messages come over the persistent client, which is
stopped while an OTA client exists. -/
def step (firmware : Firmware) (ota : Ota) : OtaEvent → Option Ota
  | .manifest message =>
    if ota.pc = .idle then some (ota.handleManifest firmware message) else none
  | .install set => if ota.pc = .idle then some { ota with installRequested := set } else none
  | .chunkArrives message => ota.handlerStep ota.handler (.chunkArrives message)
  | .chunkLocked writeOk hashOk => ota.handlerStep ota.handler (.chunkLocked writeOk hashOk)
  | .mqttError => ota.handlerStep ota.handler .mqttError
  | .storeConnLost => ota.handlerStep ota.handler .storeConnLost
  | .setBit => ota.handlerStep ota.handler .setBit
  | event => ota.sessionStep firmware ota.pc event

end Ota

end SleepySensor
