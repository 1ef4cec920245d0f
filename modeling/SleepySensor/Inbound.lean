import SleepySensor.Lib.CharConv
import SleepySensor.EchoExchange
import SleepySensor.ManifestText
import SleepySensor.OtaIntegrity

/-!
# What comes in

`mqtt_event_handler` on `MQTT_EVENT_DATA`: `ota_on_mqtt_data` and
`runtime_config_on_mqtt_data` see every event of both clients, and each takes
those of its topics.  The client reports a message that its buffer does not hold
in several events, of which only the first has the topic.  Between two events the
session task runs.
-/

set_option autoImplicit false

namespace SleepySensor.Inbound

open Runs CharConv ManifestText EchoExchange

abbrev Text : Type := List Char

structure DataEvent where
  topic : Text
  data : Bytes
  offset : Nat
  total : Nat

/-- `full` of `ota_updater_init` and `runtime_config_init`. -/
def full (deviceId suffix : Text) : Text := deviceId ++ '/' :: suffix

def otaSuffixManifest : Text :=
  ['o', 't', 'a', '/', 'm', 'a', 'n', 'i', 'f', 'e', 's', 't']
def otaSuffixImage : Text := ['o', 't', 'a', '/', 'i', 'm', 'a', 'g', 'e', '/']
def otaSuffixInstall : Text := ['o', 't', 'a', '/', 'i', 'n', 's', 't', 'a', 'l', 'l']

def cfgSuffix : CfgTopicName → Text
  | .tempOffset => "cfg/temp_offset".toList
  | .tempMinChange => "cfg/temp_min_change".toList
  | .rhOffset => "cfg/rh_offset".toList
  | .rhMinChange => "cfg/rh_min_change".toList
  | .maxPublishGapSec => "cfg/max_publish_gap_sec".toList
  | .heaterPeriod => "cfg/heater_period_minutes".toList
  | .heaterHighRh => "cfg/heater_high_rh_trigger_minutes".toList
  | .extAntenna => "cfg/ext_antenna".toList
  | .txPowerDbm => "cfg/tx_power_dbm".toList
  | .sensorSamples => "cfg/sensor_samples".toList
  | .rtcCalSamples => "cfg/rtc_cal_samples".toList
  | .rtcCalPeriodSec => "cfg/rtc_cal_period_sec".toList

/-- In the order in which they are compared. -/
def cfgTopics : List CfgTopicName :=
  [.tempOffset, .tempMinChange, .rhOffset, .rhMinChange, .maxPublishGapSec, .heaterPeriod,
   .heaterHighRh, .extAntenna, .txPowerDbm, .sensorSamples, .rtcCalSamples, .rtcCalPeriodSec]

/-- The bytes of a text, one character each. -/
def asText (data : Bytes) : Text := data.map fun byte => Char.ofNat byte.toNat

section Demux

variable (deviceId : Text)

/-- What `ota_on_mqtt_data` does with the event, if anything.  Behind the image
prefix it reads a number and leaves what follows it. -/
def otaOnMqttData (event : DataEvent) : Option OtaEvent :=
  if event.topic = [] then none
  else if (full deviceId otaSuffixImage).isPrefixOf event.topic then
    let read := fromChars u32Mod (event.topic.drop (full deviceId otaSuffixImage).length)
    if read.ec = none then
      some (.chunkArrives
        { index := read.value, data := event.data, offset := event.offset, total := event.total })
    else none
  else if event.topic = full deviceId otaSuffixManifest then
    some (.manifest (manifestMessage (asText event.data) event.total))
  else if event.topic = full deviceId otaSuffixInstall then some (.install (!event.data.isEmpty))
  else none

def runtimeConfigOnMqttData (chars : FloatChars) (config : RuntimeConfig) (event : DataEvent) :
    RuntimeConfig :=
  if event.topic = [] then config
  else
    match cfgTopics.find? fun name => decide (event.topic = full deviceId (cfgSuffix name)) with
    | none => config
    | some name => onBytes chars config (name, asText event.data)

end Demux

structure Modules where
  ota : Ota := {}
  config : RuntimeConfig

/-- The firmware, its `std::from_chars` on `float` and its device id. -/
structure Env where
  firmware : Firmware
  chars : FloatChars
  deviceId : Text

section Handler

variable (env : Env)

def Modules.onOta (modules : Modules) (event : OtaEvent) : Option Modules :=
  (modules.ota.step env.firmware event).map fun ota => { modules with ota := ota }

/-- The rest of `handle_image_chunk`, with what the flash and the hash answer. -/
def Modules.finishChunk (writeOk hashOk : Bool) (modules : Modules) : Option Modules :=
  match modules.ota.handler with
  | .chunk _ => do
    let written ← modules.onOta env (.chunkLocked writeOk hashOk)
    if written.ota.handler = .idle then some written else written.onOta env .setBit
  | _ => some modules

/-- `ota_on_mqtt_data` to its end. -/
def Modules.handle (modules : Modules) (writeOk hashOk : Bool) : OtaEvent → Option Modules
  | .chunkArrives message =>
    (modules.onOta env (.chunkArrives message)).bind (Modules.finishChunk env writeOk hashOk)
  | inbound => modules.onOta env inbound

/-- The case `MQTT_EVENT_DATA`. -/
def Modules.onData (modules : Modules) (event : DataEvent) (writeOk hashOk : Bool) :
    Option Modules :=
  let taken : Option Modules :=
    match otaOnMqttData env.deviceId event with
    | none => some modules
    | some inbound => modules.handle env writeOk hashOk inbound
  taken.map fun modules =>
    { modules with
      config := runtimeConfigOnMqttData env.deviceId env.chars modules.config event }

/-- A data event, or a step of the session task. -/
inductive Input where
  | data (event : DataEvent) (writeOk hashOk : Bool)
  | task (event : OtaEvent)

def Modules.step (modules : Modules) : Input → Option Modules
  | .data event writeOk hashOk => modules.onData env event writeOk hashOk
  | .task event => modules.onOta env event

end Handler

/-! ## Messages -/

/-- What is published for the device, under a topic that it subscribes to. -/
inductive Published where
  | chunk (index : Nat) (data : Bytes)
  | manifest (body : Bytes)
  | install (data : Bytes)
  | cfg (name : CfgTopicName) (data : Bytes)
  | otherCfg (slug : Text) (data : Bytes)

namespace Published

def suffix : Published → Text
  | .chunk index _ => otaSuffixImage ++ Nat.toDigits 10 index
  | .manifest _ => otaSuffixManifest
  | .install _ => otaSuffixInstall
  | .cfg name _ => cfgSuffix name
  | .otherCfg slug _ => ['c', 'f', 'g', '/'] ++ slug

def payload : Published → Bytes
  | .chunk _ data | .manifest data | .install data | .cfg _ data | .otherCfg _ data => data

/-- A chunk that a `size_t` counts, and a setting that there is not. -/
def Proper : Published → Prop
  | .chunk index _ => index < u32Mod
  | .otherCfg slug _ => ∀ name, ['c', 'f', 'g', '/'] ++ slug ≠ cfgSuffix name
  | _ => True

end Published

/-- What comes behind the first event of a message. -/
inductive Behind where
  | piece (data : Bytes)
  | task (event : OtaEvent)

def Behind.piece? : Behind → Option Bytes
  | .piece data => some data
  | .task _ => none

def Behind.task? : Behind → Option OtaEvent
  | .piece _ => none
  | .task event => some event

/-- A message, cut where the buffer is full, with the session task's steps up to
the next one. -/
structure Delivery where
  message : Published
  first : Bytes
  behind : List Behind
  writeOk : Bool
  hashOk : Bool
  proper : message.Proper
  whole : first ++ (behind.filterMap Behind.piece?).flatten = message.payload
  begun : message.payload ≠ [] → first ≠ []

/-- The inputs behind the first. -/
def continued (total : Nat) : Nat → List Behind → List Input
  | _, [] => []
  | offset, .piece data :: rest =>
    .data { topic := [], data := data, offset := offset, total := total } true true ::
      continued total (offset + data.length) rest
  | offset, .task event :: rest => .task event :: continued total offset rest

namespace Delivery

def total (delivery : Delivery) : Nat := delivery.message.payload.length

def head (deviceId : Text) (delivery : Delivery) : DataEvent where
  topic := full deviceId delivery.message.suffix
  data := delivery.first
  offset := 0
  total := delivery.total

def inputs (deviceId : Text) (delivery : Delivery) : List Input :=
  .data (delivery.head deviceId) delivery.writeOk delivery.hashOk ::
    continued delivery.total delivery.first.length delivery.behind

def tasks (delivery : Delivery) : List OtaEvent := delivery.behind.filterMap Behind.task?

/-- What the message is to the device: each goes to one module.  Of a message that
is cut the first part counts: a chunk or a manifest is known to be cut by it, and a
setting is taken for that part. -/
def act (env : Env) (modules : Modules) (delivery : Delivery) : Option Modules :=
  match delivery.message with
  | .chunk index _ =>
    modules.handle env delivery.writeOk delivery.hashOk (.chunkArrives
      { index := index, data := delivery.first, offset := 0, total := delivery.total })
  | .manifest _ =>
    modules.onOta env (.manifest (manifestMessage (asText delivery.first) delivery.total))
  | .install data => modules.onOta env (.install (!data.isEmpty))
  | .cfg name _ =>
    some { modules with
      config := onBytes env.chars modules.config (name, asText delivery.first) }
  | .otherCfg _ _ => some modules

end Delivery

inductive Arrival where
  | message (delivery : Delivery)
  | task (event : OtaEvent)

def Arrival.inputs (deviceId : Text) : Arrival → List Input
  | .message delivery => delivery.inputs deviceId
  | .task event => [.task event]

def Arrival.act (env : Env) (modules : Modules) : Arrival → Option Modules
  | .message delivery =>
    (delivery.act env modules).bind fun taken => run (Modules.onOta env) taken delivery.tasks
  | .task event => modules.onOta env event

/-! ## Topics -/

section Topics

variable {deviceId : Text}

theorem full_inj {first second : Text} :
    full deviceId first = full deviceId second ↔ first = second := by
  simp [full]

theorem full_ne_nil (suffix : Text) : full deviceId suffix ≠ [] := by simp [full]

theorem full_isPrefixOf {first second : Text} :
    (full deviceId first).isPrefixOf (full deviceId second) = first.isPrefixOf second := by
  unfold full
  induction deviceId with
  | nil => simp
  | cons c deviceId ih => simpa [List.isPrefixOf] using ih

theorem drop_full {first second : Text} :
    (full deviceId (first ++ second)).drop (full deviceId first).length = second := by
  have cut : full deviceId (first ++ second) = full deviceId first ++ second := by simp [full]
  rw [cut, List.drop_left]

theorem cfgSuffix_head (name : CfgTopicName) :
    ∃ slug, cfgSuffix name = ['c', 'f', 'g', '/'] ++ slug := by
  cases name <;> exact ⟨_, rfl⟩

theorem cfgSuffix_inj {first second : CfgTopicName} (same : cfgSuffix first = cfgSuffix second) :
    first = second := by
  revert same
  cases first <;> cases second <;> decide

theorem mem_cfgTopics (name : CfgTopicName) : name ∈ cfgTopics := by cases name <;> decide

/-- A topic of the configuration is none of the updater's. -/
theorem otaOnMqttData_cfg {slug : Text} {event : DataEvent}
    (topic : event.topic = full deviceId (['c', 'f', 'g', '/'] ++ slug)) :
    otaOnMqttData deviceId event = none := by
  have some_ : event.topic ≠ [] := topic ▸ full_ne_nil _
  have image : (full deviceId otaSuffixImage).isPrefixOf event.topic = false := by
    rw [topic, full_isPrefixOf]
    rfl
  have manifest : event.topic ≠ full deviceId otaSuffixManifest := by
    rw [topic, Ne, full_inj]
    simp [otaSuffixManifest]
  have install : event.topic ≠ full deviceId otaSuffixInstall := by
    rw [topic, Ne, full_inj]
    simp [otaSuffixInstall]
  simp only [otaOnMqttData, some_, image, manifest, install, Bool.false_eq_true, if_false]

theorem runtimeConfigOnMqttData_ota {chars : FloatChars} {config : RuntimeConfig} {slug : Text}
    {event : DataEvent} (topic : event.topic = full deviceId (['o', 't', 'a', '/'] ++ slug)) :
    runtimeConfigOnMqttData deviceId chars config event = config := by
  have unknown : cfgTopics.find? (fun name =>
      decide (event.topic = full deviceId (cfgSuffix name))) = none := by
    rw [List.find?_eq_none]
    intro name _
    obtain ⟨rest, suffix⟩ := cfgSuffix_head name
    rw [topic, decide_eq_true_eq, full_inj, suffix]
    simp
  unfold runtimeConfigOnMqttData
  rw [unknown, ite_self]

theorem runtimeConfigOnMqttData_cfg {chars : FloatChars} {config : RuntimeConfig}
    {name : CfgTopicName} {event : DataEvent}
    (topic : event.topic = full deviceId (cfgSuffix name)) :
    runtimeConfigOnMqttData deviceId chars config event =
      onBytes chars config (name, asText event.data) := by
  have known : cfgTopics.find? (fun other =>
      decide (event.topic = full deviceId (cfgSuffix other))) = some name := by
    cases found : cfgTopics.find? (fun other =>
        decide (event.topic = full deviceId (cfgSuffix other))) with
    | none =>
      have unequal := List.find?_eq_none.mp found name (mem_cfgTopics name)
      simp [topic] at unequal
    | some other =>
      have same := List.find?_some found
      rw [topic, decide_eq_true_eq, full_inj] at same
      rw [cfgSuffix_inj same]
  unfold runtimeConfigOnMqttData
  rw [known, if_neg (by rw [topic]; exact full_ne_nil _)]

theorem runtimeConfigOnMqttData_other {chars : FloatChars} {config : RuntimeConfig} {slug : Text}
    {event : DataEvent} (topic : event.topic = full deviceId slug)
    (other : ∀ name, slug ≠ cfgSuffix name) :
    runtimeConfigOnMqttData deviceId chars config event = config := by
  have unknown : cfgTopics.find? (fun name =>
      decide (event.topic = full deviceId (cfgSuffix name))) = none := by
    rw [List.find?_eq_none]
    intro name _
    rw [topic, decide_eq_true_eq, full_inj]
    exact other name
  unfold runtimeConfigOnMqttData
  rw [unknown, ite_self]

/-- The number of a chunk is read back from its topic. -/
theorem fromChars_toDigits {index : Nat} (small : index < u32Mod) :
    (fromChars u32Mod (Nat.toDigits 10 index)).ec = none ∧
      (fromChars u32Mod (Nat.toDigits 10 index)).value = index := by
  have run : IsRun (Nat.toDigits 10 index) :=
    ⟨Nat.toDigits_ne_nil, number_digits index⟩
  have denotes : decimal (Nat.toDigits 10 index) = index := Nat.ofDigitChars_ten_toDigits
  have limited : decimal (Nat.toDigits 10 index) < u32Mod := denotes.trans_lt small
  exact ⟨(fromChars_whole_iff.mpr ⟨run, limited⟩).1, (fromChars_value run limited).trans denotes⟩

theorem otaOnMqttData_chunk {index : Nat} (small : index < u32Mod) {event : DataEvent}
    (topic : event.topic = full deviceId (otaSuffixImage ++ Nat.toDigits 10 index)) :
    otaOnMqttData deviceId event =
      some (.chunkArrives
        { index := index, data := event.data, offset := event.offset, total := event.total }) := by
  have some_ : event.topic ≠ [] := topic ▸ full_ne_nil _
  have image : (full deviceId otaSuffixImage).isPrefixOf event.topic = true := by
    rw [topic, full_isPrefixOf]
    exact List.isPrefixOf_iff_prefix.mpr (List.prefix_append _ _)
  have number : event.topic.drop (full deviceId otaSuffixImage).length = Nat.toDigits 10 index := by
    rw [topic, drop_full]
  obtain ⟨clean, value⟩ := fromChars_toDigits small
  simp only [otaOnMqttData, some_, image, number, clean, value, if_true, if_false]

theorem otaOnMqttData_manifest {event : DataEvent}
    (topic : event.topic = full deviceId otaSuffixManifest) :
    otaOnMqttData deviceId event =
      some (.manifest (manifestMessage (asText event.data) event.total)) := by
  have some_ : event.topic ≠ [] := topic ▸ full_ne_nil _
  have image : (full deviceId otaSuffixImage).isPrefixOf event.topic = false := by
    rw [topic, full_isPrefixOf]
    decide
  simp only [otaOnMqttData, some_, image, Bool.false_eq_true, if_false]
  exact if_pos topic

theorem otaOnMqttData_install {event : DataEvent}
    (topic : event.topic = full deviceId otaSuffixInstall) :
    otaOnMqttData deviceId event = some (.install (!event.data.isEmpty)) := by
  have some_ : event.topic ≠ [] := topic ▸ full_ne_nil _
  have image : (full deviceId otaSuffixImage).isPrefixOf event.topic = false := by
    rw [topic, full_isPrefixOf]
    decide
  have manifest : event.topic ≠ full deviceId otaSuffixManifest := by
    rw [topic, Ne, full_inj]
    decide
  simp only [otaOnMqttData, some_, image, manifest, Bool.false_eq_true, if_false]
  exact if_pos topic

end Topics

/-! ## Streams -/

section Streams

variable {env : Env}

/-- The pieces behind the first event of a message are dropped by both modules. -/
theorem run_continued (modules : Modules) (total offset : Nat) (behind : List Behind) :
    run (Modules.step env) modules (continued total offset behind) =
      run (Modules.onOta env) modules (behind.filterMap Behind.task?) := by
  induction behind generalizing modules offset with
  | nil => rfl
  | cons next rest ih =>
    cases next with
    | piece data => exact ih modules (offset + data.length)
    | task event =>
      simp only [continued, run, Modules.step, Behind.task?, List.filterMap_cons]
      cases modules.onOta env event with
      | none => rfl
      | some after => exact ih after offset

theorem onData_ota {modules : Modules} {event : DataEvent} {writeOk hashOk : Bool}
    {inbound : OtaEvent} {slug : Text}
    (taken : otaOnMqttData env.deviceId event = some inbound)
    (topic : event.topic = full env.deviceId (['o', 't', 'a', '/'] ++ slug)) :
    modules.onData env event writeOk hashOk = modules.handle env writeOk hashOk inbound := by
  have config : ∀ after : Modules,
      { after with
        config := runtimeConfigOnMqttData env.deviceId env.chars after.config event } = after := by
    intro after
    rw [runtimeConfigOnMqttData_ota topic]
  unfold Modules.onData
  simp only [taken, config]
  exact Option.map_id'

theorem onData_cfg {modules : Modules} {event : DataEvent} {writeOk hashOk : Bool} {slug : Text}
    (topic : event.topic = full env.deviceId (['c', 'f', 'g', '/'] ++ slug)) :
    modules.onData env event writeOk hashOk =
      some { modules with
        config := runtimeConfigOnMqttData env.deviceId env.chars modules.config event } := by
  unfold Modules.onData
  simp only [otaOnMqttData_cfg topic, Option.map_some]

theorem isEmpty_first {delivery : Delivery} :
    delivery.first.isEmpty = delivery.message.payload.isEmpty := by
  cases none_ : delivery.message.payload with
  | nil =>
    have nothing := delivery.whole
    rw [none_, List.append_eq_nil_iff] at nothing
    rw [nothing.1]
  | cons byte rest =>
    have some_ : delivery.first ≠ [] := delivery.begun (by simp [none_])
    simpa using some_

theorem onData_head (modules : Modules) (delivery : Delivery) :
    modules.onData env (delivery.head env.deviceId) delivery.writeOk delivery.hashOk =
      delivery.act env modules := by
  have empty := @isEmpty_first delivery
  obtain ⟨message, first, behind, writeOk, hashOk, proper, whole, begun⟩ := delivery
  cases message with
  | chunk index data =>
    exact onData_ota (otaOnMqttData_chunk proper rfl) rfl
  | manifest body => exact onData_ota (otaOnMqttData_manifest rfl) rfl
  | install data =>
    rw [onData_ota (otaOnMqttData_install rfl) rfl]
    exact congrArg (fun none_ => modules.onOta env (.install (!none_))) empty
  | cfg name data =>
    obtain ⟨slug, suffix⟩ := cfgSuffix_head name
    rw [onData_cfg (congrArg (full env.deviceId) suffix), runtimeConfigOnMqttData_cfg rfl]
    rfl
  | otherCfg slug data =>
    rw [onData_cfg rfl, runtimeConfigOnMqttData_other rfl proper]
    rfl

theorem run_inputs (modules : Modules) (arrival : Arrival) :
    run (Modules.step env) modules (arrival.inputs env.deviceId) = arrival.act env modules := by
  cases arrival with
  | message delivery =>
    simp only [Arrival.inputs, Delivery.inputs, run, Modules.step, onData_head, Arrival.act]
    cases delivery.act env modules with
    | none => rfl
    | some taken => exact run_continued taken delivery.total delivery.first.length delivery.behind
  | task event =>
    simp only [Arrival.inputs, run, Modules.step, Arrival.act]
    cases modules.onOta env event <;> rfl

/-- However the messages are cut, and wherever the session task runs in between, the
events of a client do to the device what the messages are to it, in their order. -/
theorem run_deliveries (env : Env) (modules : Modules) (arrivals : List Arrival) :
    run (Modules.step env) modules (arrivals.flatMap (Arrival.inputs env.deviceId)) =
      run (fun modules arrival => Arrival.act env modules arrival) modules arrivals := by
  induction arrivals generalizing modules with
  | nil => rfl
  | cons arrival rest ih =>
    rw [List.flatMap_cons, run_append, run_inputs]
    simp only [run]
    cases arrival.act env modules with
    | none => rfl
    | some next => exact ih next

def uncut (message : Published) (proper : message.Proper) (tasks : List OtaEvent) : Delivery where
  message := message
  first := message.payload
  behind := tasks.map .task
  writeOk := true
  hashOk := true
  proper := proper
  whole := by
    have none_ : (tasks.map Behind.task).filterMap Behind.piece? = [] := by
      simp [Behind.piece?]
    rw [none_]
    simp
  begun := id

/-- A setting of which the first event has 30 of 300. -/
def cutGap : Delivery where
  message := .cfg .maxPublishGapSec [0x33, 0x30, 0x30]
  first := [0x33, 0x30]
  behind := [.piece [0x30]]
  writeOk := true
  hashOk := true
  proper := trivial
  whole := rfl
  begun := fun _ => List.cons_ne_nil _ _

def smallEnv : Env where
  firmware := OtaIntegrity.smallFirmware
  chars := plainChars
  deviceId := ['d']

def smallManifest : Bytes :=
  (manifestText { version := ['2'], size := 112, sha256 := OtaIntegrity.smallDigest
                  chunkSize := 40, force := false }).map fun c => c.toUInt8

/-- The steps of the session task behind a chunk. -/
def counted : List OtaEvent := [.wait, .countDone, .topUp true false, .topUp true false]

/-- A manifest and the flag, a session of three chunks, a setting. -/
def smallStream : List Arrival :=
  [.message (uncut (.manifest smallManifest) trivial []),
   .message (uncut (.install [0x31]) trivial
    [.runIfDue, .connectDone true, .enterSession none, .activate true true true, .beginWindow,
     .pin, .prime true, .prime true, .prime true]),
   .message (uncut (.chunk 0 (OtaIntegrity.smallChunk 0).data) (show 0 < u32Mod by decide)
    counted),
   .message (uncut (.chunk 1 (OtaIntegrity.smallChunk 1).data) (show 1 < u32Mod by decide)
    counted),
   .message (uncut (.chunk 2 (OtaIntegrity.smallChunk 2).data) (show 2 < u32Mod by decide)
    (counted ++ [.wait, .endSession, .finalize true true true])),
   .message cutGap]

theorem run_deliveries_session :
    ∃ final, run (Modules.step smallEnv) { config := RuntimeConfig.boot {} Nvs.erased }
        (smallStream.flatMap (Arrival.inputs smallEnv.deviceId)) = some final ∧
      (final.ota.boots.length = 1 ∧ final.config.pending.maxPublishGapSec.value = 30) := by
  rw [run_deliveries smallEnv { config := RuntimeConfig.boot {} Nvs.erased } smallStream]
  obtain ⟨final, ran, outcome⟩ := exists_final
    (fun final : Modules => decide (final.ota.boots.length = 1 ∧
      final.config.pending.maxPublishGapSec.value = 30))
    (show (run (fun modules arrival => Arrival.act smallEnv modules arrival)
      { config := RuntimeConfig.boot {} Nvs.erased } smallStream).any _ = true by decide +kernel)
  exact ⟨final, ran, of_decide_eq_true outcome⟩

end Streams

end SleepySensor.Inbound
