import SleepySensor.Lib.JsonObject
import SleepySensor.MqttSender

/-!
# The texts of the MQTT messages

The topics and payloads that `mqtt_sender.cpp` formats into buffers of fixed size, with
the sums that the sizes are derived from.  A text is its bytes, one character each.
-/

set_option autoImplicit false

namespace SleepySensor.MqttTexts

open FormatText (Text Call bytes)

/-! ## Format strings, with their braces as `x7b` and `x7d` -/

/-- The `device` member that ends each discovery payload. -/
def deviceBlock : String :=
  "\"device\":\x7b\x7b\"identifiers\":[\"\x7b\x7d\"],\"name\":\"\x7b\x7d\"," ++
    "\"sw_version\":\"\x7b\x7d\"," ++
    "\"manufacturer\":\"Seeed Studio\",\"model\":\"XIAO ESP32-C6\"," ++
    "\"serial_number\":\"\x7b\x7d\"\x7d\x7d"

def discPartHead : Text := bytes "\x7b\x7b\"name\":\"\x7b\x7d\","
def discPartDeviceClass : Text := bytes "\"device_class\":\"\x7b\x7d\","
def discPartDiagnostic : Text := bytes "\"entity_category\":\"diagnostic\","
def discPartStateClass : Text := bytes "\"state_class\":\"\x7b\x7d\","
def discPartUnit : Text := bytes "\"unit_of_measurement\":\"\x7b\x7d\","
def discPartPrecision : Text := bytes "\"suggested_display_precision\":\x7b\x7d,"
def discPartExpire : Text := bytes "\"expire_after\":\x7b\x7d,"
def discPartTail : Text :=
  bytes ("\"state_topic\":\"\x7b\x7d/state\"," ++
    "\"value_template\":\"\x7b\x7b\x7b\x7bvalue_json.\x7b\x7d\x7d\x7d\x7d\x7d\"," ++
    "\"unique_id\":\"\x7b\x7d_\x7b\x7d\"," ++
    deviceBlock ++
    "\x7d\x7d")
def updateDiscoveryFmt : Text :=
  bytes ("\x7b\x7b" ++
    "\"name\":\"Firmware\"," ++
    "\"device_class\":\"firmware\"," ++
    "\"state_topic\":\"\x7b\x7d\"," ++
    "\"latest_version_topic\":\"\x7b\x7d\"," ++
    "\"latest_version_template\":\"\x7b\x7b\x7b\x7b value_json.version \x7d\x7d\x7d\x7d\"," ++
    "\"command_topic\":\"\x7b\x7d\"," ++
    "\"payload_install\":\"install\"," ++
    "\"retain\":true,\"qos\":1," ++
    "\"unique_id\":\"\x7b\x7d_fw\"," ++
    deviceBlock ++
    "\x7d\x7d")
def cmdPartConfigCat : Text := bytes "\"entity_category\":\"config\","
def cmdPartModeBox : Text := bytes "\"mode\":\"box\","
def cmdPartMinmaxstep : Text := bytes "\"min\":\x7b\x7d,\"max\":\x7b\x7d,\"step\":\x7b\x7d,"
def cmdPartPayloads : Text := bytes "\"payload_on\":\"\x7b\x7d\",\"payload_off\":\"\x7b\x7d\","
def cmdPartTail : Text :=
  bytes ("\"state_topic\":\"\x7b\x7d\"," ++
    "\"command_topic\":\"\x7b\x7d\"," ++
    "\"retain\":true,\"qos\":1," ++
    "\"unique_id\":\"\x7b\x7d_\x7b\x7d\"," ++
    deviceBlock ++
    "\x7d\x7d")
def discoveryTopicFmt : Text := bytes "homeassistant/sensor/\x7b\x7d/\x7b\x7d/config"
def binaryDiscoveryTopicFmt : Text := bytes "homeassistant/binary_sensor/\x7b\x7d/\x7b\x7d/config"
def updateDiscoveryTopicFmt : Text := bytes "homeassistant/update/\x7b\x7d/firmware/config"
def numberDiscoveryTopicFmt : Text := bytes "homeassistant/number/\x7b\x7d/\x7b\x7d/config"
def switchDiscoveryTopicFmt : Text := bytes "homeassistant/switch/\x7b\x7d/\x7b\x7d/config"
def stateTopicFmt : Text := bytes "\x7b\x7d/state"
def stateFmtBoth : Text := bytes "\x7b\x7b\"t\":\x7b:.3g\x7d,\"h\":\x7b:.3g\x7d\x7d\x7d"
def stateFmtTemp : Text := bytes "\x7b\x7b\"t\":\x7b:.3g\x7d\x7d\x7d"
def stateFmtHumid : Text := bytes "\x7b\x7b\"h\":\x7b:.3g\x7d\x7d\x7d"
def stateBattSuffixFmt : Text := bytes ",\"b\":\x7b:.2f\x7d,\"v\":\x7b:.3f\x7d\x7d\x7d"
def stateRssiSuffixFmt : Text := bytes ",\"r\":\x7b\x7d\x7d\x7d"
def stateDiagSuffixFmt : Text := bytes ",\"bc\":\x7b\x7d,\"rr\":\"\x7b\x7d\"\x7d\x7d"
def stateHeaterSuffixFmt : Text := bytes ",\"hp\":\"\x7b\x7d\",\"hc\":\x7b\x7d\x7d\x7d"
def stateRadioSuffixFmt : Text := bytes ",\"rt\":\x7b:.2f\x7d,\"rx\":\x7b:.2f\x7d\x7d\x7d"
def stateLinkqSuffixFmt : Text := bytes ",\"tr\":\x7b\x7d,\"cf\":\x7b\x7d\x7d\x7d"
def stateUplinkSuffixFmt : Text := bytes ",\"ur\":\x7b\x7d\x7d\x7d"
def stateTxpowerSuffixFmt : Text := bytes ",\"tp\":\x7b\x7d\x7d\x7d"
def stateAwakeSuffixFmt : Text := bytes ",\"aw\":\x7b:.2f\x7d\x7d\x7d"
def backfillTopicFmt : Text := bytes "\x7b\x7d/backfill"
def backfillArrayOpen : Text := bytes "["
def backfillEntryFirstFmt : Text :=
  bytes ("\x7b\x7b\"ago\":\x7b\x7d,\"t\":\x7b:.3g\x7d,\"h\":\x7b:.3g\x7d\x7d\x7d")
def backfillEntryRestFmt : Text :=
  bytes (",\x7b\x7b\"ago\":\x7b\x7d,\"t\":\x7b:.3g\x7d,\"h\":\x7b:.3g\x7d\x7d\x7d")
def backfillArrayClose : Text := bytes "]"

/-! ## Arguments -/

/-- The presentations of `float` in the format strings. -/
inductive FloatSpec where
  | shortest
  | general3
  | fixed2
  | fixed3
  deriving DecidableEq, Repr

def FloatSpec.ofText : Text → Option FloatSpec
  | [] => some .shortest
  | [':', '.', '3', 'g'] => some .general3
  | [':', '.', '2', 'f'] => some .fixed2
  | [':', '.', '3', 'f'] => some .fixed3
  | _ => none

/-- `std::format` on `float`, which writes finite values as numbers, and
`static_cast<float>(n) / 1000.0f`. -/
structure FloatText where
  text : FloatSpec → Flt → Text
  number : ∀ spec value, JsonObject.IsNumber (text spec (.fin value))
  thousandth : Int → ℚ

inductive Arg where
  | str (text : Text)
  | uint (value : Nat)
  | int (value : Int)
  | float (value : Flt)
  deriving DecidableEq, Repr

def render (floats : FloatText) (spec : Text) : Arg → Text
  | .str text => text
  | .uint value => Nat.toDigits 10 value
  | .int value => JsonObject.intText value
  | .float value =>
    match FloatSpec.ofText spec with
    | some presentation => floats.text presentation value
    | none => []

/-- The fields of `MqttConfig` that are written into texts, and `esp_app_desc_t::version`. -/
structure MqttConfig where
  deviceId : Text
  deviceName : Text
  expireAfterSec : Nat
  bootCount : Nat
  resetReason : Text
  version : Text

/-! ## Entities -/

structure DiscoverySpec where
  name : Text
  topicSlug : Text
  deviceClass : Option Text := none
  stateClass : Option Text := none
  unit : Option Text := none
  precision : Int := -1
  key : Text
  diagnostic : Bool := false
  deriving DecidableEq, Repr

def degreeCelsius : Text := bytes "°C"
def measurement : Option Text := some (bytes "measurement")
def totalIncreasing : Option Text := some (bytes "total_increasing")

/-- The `sensor` entities of a group, as `run_publish_cycle` publishes them. -/
def sensorSpecs : DiscoveryBit → List DiscoverySpec
  | .temp =>
    [{ name := bytes "Temperature", topicSlug := bytes "temperature"
       deviceClass := some (bytes "temperature"), stateClass := measurement
       unit := some degreeCelsius, precision := 1, key := bytes "t" }]
  | .hum =>
    [{ name := bytes "Humidity", topicSlug := bytes "humidity"
       deviceClass := some (bytes "humidity"), stateClass := measurement
       unit := some (bytes "%"), precision := 0, key := bytes "h" }]
  | .batt =>
    [{ name := bytes "Battery", topicSlug := bytes "battery"
       deviceClass := some (bytes "battery"), stateClass := measurement
       unit := some (bytes "%"), precision := 2, key := bytes "b", diagnostic := true },
     { name := bytes "Voltage", topicSlug := bytes "voltage"
       deviceClass := some (bytes "voltage"), stateClass := measurement
       unit := some (bytes "V"), precision := 2, key := bytes "v", diagnostic := true }]
  | .rssi =>
    [{ name := bytes "Signal strength", topicSlug := bytes "rssi"
       deviceClass := some (bytes "signal_strength"), stateClass := measurement
       unit := some (bytes "dBm"), precision := 0, key := bytes "r", diagnostic := true }]
  | .diag =>
    [{ name := bytes "Boot count", topicSlug := bytes "boot_count"
       stateClass := totalIncreasing, key := bytes "bc", diagnostic := true },
     { name := bytes "Reset reason", topicSlug := bytes "reset_reason"
       key := bytes "rr", diagnostic := true }]
  | .heater =>
    [{ name := bytes "Heater run count", topicSlug := bytes "heater_run_count"
       stateClass := totalIncreasing, key := bytes "hc", diagnostic := true }]
  | .radio =>
    [{ name := bytes "Radio TX time", topicSlug := bytes "radio_tx_time"
       stateClass := measurement, unit := some (bytes "ms"), precision := 1, key := bytes "rt"
       diagnostic := true },
     { name := bytes "Radio RX time", topicSlug := bytes "radio_rx_time"
       stateClass := measurement, unit := some (bytes "ms"), precision := 1, key := bytes "rx"
       diagnostic := true }]
  | .linkq =>
    [{ name := bytes "TX retries", topicSlug := bytes "tx_retries"
       stateClass := measurement, precision := 0, key := bytes "tr", diagnostic := true },
     { name := bytes "CCA failures", topicSlug := bytes "cca_failures"
       stateClass := measurement, precision := 0, key := bytes "cf", diagnostic := true }]
  | .uplink =>
    [{ name := bytes "Uplink signal strength", topicSlug := bytes "uplink_rssi"
       deviceClass := some (bytes "signal_strength"), stateClass := measurement
       unit := some (bytes "dBm"), precision := 0, key := bytes "ur", diagnostic := true }]
  | .txPower =>
    [{ name := bytes "TX power (active)", topicSlug := bytes "tx_power_active"
       stateClass := measurement, unit := some (bytes "dBm"), precision := 0, key := bytes "tp"
       diagnostic := true }]
  | .awake =>
    [{ name := bytes "HP awake time", topicSlug := bytes "hp_awake_time"
       stateClass := measurement, unit := some (bytes "ms"), precision := 2, key := bytes "aw"
       diagnostic := true }]
  | .update | .numbers | .switch => []

def binarySpecs : DiscoveryBit → List DiscoverySpec
  | .heater =>
    [{ name := bytes "Heater problem", topicSlug := bytes "heater_problem"
       deviceClass := some (bytes "problem"), key := bytes "hp", diagnostic := true }]
  | _ => []

/-- The slugs whose `sensor` config topics a group clears. -/
def retiredSlugs : DiscoveryBit → List Text
  | .batt => [bytes "battery_adc_time"]
  | .diag => [bytes "csl_status"]
  | .awake =>
    [bytes "mqtt_connect_time", bytes "mqtt_client_start_time", bytes "mqtt_subscribe_time",
      bytes "mqtt_discovery_time", bytes "mqtt_state_publish_time",
      bytes "mqtt_state_publish_raw_time", bytes "mqtt_client_stop_time",
      bytes "tx_no_ack_expiry", bytes "link_quality_out"]
  | _ => []

structure NumberEntity where
  name : Text
  slug : Text
  topicSuffix : Text
  min : Arg
  max : Arg
  step : Arg
  unit : Option Text
  deriving DecidableEq, Repr

def numberEntities : List NumberEntity :=
  [{ name := bytes "Temperature offset", slug := bytes "temp_offset"
     topicSuffix := bytes "cfg/temp_offset", min := .float tempOffsetMin
     max := .float tempOffsetMax, step := .float (.fin (1 / 10)), unit := some degreeCelsius },
   { name := bytes "Temperature min change", slug := bytes "temp_min_change"
     topicSuffix := bytes "cfg/temp_min_change", min := .float tempMinChangeMin
     max := .float tempMinChangeMax, step := .float (.fin (5 / 100)), unit := some degreeCelsius },
   { name := bytes "Humidity offset", slug := bytes "rh_offset"
     topicSuffix := bytes "cfg/rh_offset", min := .float rhOffsetMin
     max := .float rhOffsetMax, step := .float (.fin (1 / 2)), unit := some (bytes "%") },
   { name := bytes "Humidity min change", slug := bytes "rh_min_change"
     topicSuffix := bytes "cfg/rh_min_change", min := .float rhMinChangeMin
     max := .float rhMinChangeMax, step := .float (.fin (1 / 2)), unit := some (bytes "%") },
   { name := bytes "Max publish gap", slug := bytes "max_publish_gap_sec"
     topicSuffix := bytes "cfg/max_publish_gap_sec", min := .uint maxPublishGapSecMin
     max := .uint maxPublishGapSecMax, step := .uint 1, unit := some (bytes "s") },
   { name := bytes "Heater period", slug := bytes "heater_period_minutes"
     topicSuffix := bytes "cfg/heater_period_minutes", min := .uint heaterPeriodMinMinutes
     max := .uint heaterPeriodMaxMinutes, step := .uint 1, unit := some (bytes "min") },
   { name := bytes "Heater high-RH trigger", slug := bytes "heater_high_rh_trigger_minutes"
     topicSuffix := bytes "cfg/heater_high_rh_trigger_minutes"
     min := .uint heaterHighRhMinMinutes, max := .uint heaterHighRhMaxMinutes, step := .uint 1
     unit := some (bytes "min") },
   { name := bytes "TX power", slug := bytes "tx_power_dbm"
     topicSuffix := bytes "cfg/tx_power_dbm", min := .int (-15), max := .int 20
     step := .int 1, unit := some (bytes "dBm") },
   { name := bytes "Sensor samples", slug := bytes "sensor_samples"
     topicSuffix := bytes "cfg/sensor_samples", min := .uint sensorSamplesMin
     max := .uint sensorSamplesMax, step := .uint 1, unit := none },
   { name := bytes "Sleep clock cal samples", slug := bytes "rtc_cal_samples"
     topicSuffix := bytes "cfg/rtc_cal_samples", min := .uint 0
     max := .uint rtcCalSamplesMax, step := .uint 1, unit := none },
   { name := bytes "Sleep clock cal period", slug := bytes "rtc_cal_period_sec"
     topicSuffix := bytes "cfg/rtc_cal_period_sec", min := .uint 0
     max := .uint rtcCalPeriodSecMax, step := .uint 30, unit := some (bytes "s") }]

/-! ## Buffer sizes -/

def mqttMaxDeviceNameLen : Nat := 64
def mqttMacAddressBytes : Nat := 8
def mqttMaxDeviceIdLen : Nat := mqttMaxDeviceNameLen + 1 + 2 * mqttMacAddressBytes
def mqttMaxResetReasonLen : Nat := (bytes "lp_stall_reboot").length

def longest (texts : List String) : Nat :=
  (texts.map fun text => (bytes text).length).foldr max 0

def maxNameLen : Nat :=
  longest ["Temperature", "Humidity", "Battery", "Voltage", "Signal strength", "Boot count",
    "Reset reason", "Heater problem", "Heater run count", "Radio TX time", "Radio RX time",
    "TX retries", "CCA failures", "Uplink signal strength", "TX power (active)", "HP awake time"]
def maxDeviceClassLen : Nat :=
  longest ["temperature", "humidity", "battery", "voltage", "signal_strength", "problem"]
def maxTopicSlugLen : Nat :=
  max maxDeviceClassLen
    (longest ["rssi", "boot_count", "reset_reason", "csl_status", "heater_problem",
      "heater_run_count", "radio_tx_time", "radio_rx_time", "tx_retries", "cca_failures",
      "tx_no_ack_expiry", "link_quality_out", "uplink_rssi", "tx_power_active", "hp_awake_time",
      "mqtt_connect_time", "mqtt_client_start_time", "mqtt_subscribe_time", "mqtt_discovery_time",
      "mqtt_state_publish_time", "mqtt_state_publish_raw_time", "mqtt_client_stop_time"])
def maxStateClassLen : Nat := longest ["measurement", "total_increasing"]
def maxUnitLen : Nat := longest ["°C", "%", "V", "dBm", "ms"]
def maxKeyLen : Nat := longest ["t", "bc", "rr", "hp", "hc"]
def maxPrecisionLen : Nat := 1
def maxExpireLen : Nat := 10
def maxFormattedFloatLen : Nat := 24
def maxOtaTopicLen : Nat :=
  mqttMaxDeviceIdLen + 1 + longest ["ota/manifest", "ota/install", "ota/installed"]
def maxSwVersionLen : Nat := 31
def maxSerialLen : Nat := 2 * mqttMacAddressBytes

def maxDiscoveryTopicLen : Nat :=
  max discoveryTopicFmt.length binaryDiscoveryTopicFmt.length + mqttMaxDeviceIdLen +
    maxTopicSlugLen
def maxUpdateDiscoveryTopicLen : Nat := updateDiscoveryTopicFmt.length + mqttMaxDeviceIdLen
def maxStateTopicLen : Nat := stateTopicFmt.length + mqttMaxDeviceIdLen
def maxBackfillTopicLen : Nat := backfillTopicFmt.length + mqttMaxDeviceIdLen
def maxCfgNameLen : Nat :=
  longest ["Temperature offset", "Temperature min change", "Humidity offset",
    "Humidity min change", "Max publish gap", "Heater period", "Heater high-RH trigger",
    "External antenna", "TX power", "Sensor samples", "Sleep clock cal samples",
    "Sleep clock cal period"]
def maxCfgSuffixLen : Nat :=
  longest ["cfg/temp_offset", "cfg/temp_min_change", "cfg/rh_offset", "cfg/rh_min_change",
    "cfg/max_publish_gap_sec", "cfg/heater_period_minutes", "cfg/heater_high_rh_trigger_minutes",
    "cfg/ext_antenna", "cfg/tx_power_dbm", "cfg/sensor_samples", "cfg/rtc_cal_samples",
    "cfg/rtc_cal_period_sec"]
def maxCfgTopicLen : Nat := mqttMaxDeviceIdLen + 1 + maxCfgSuffixLen
def maxCfgSlugLen : Nat := maxCfgSuffixLen - (bytes "cfg/").length
def maxCfgUnitLen : Nat := max maxUnitLen (bytes "min").length
def maxNumberDiscoveryTopicLen : Nat :=
  numberDiscoveryTopicFmt.length + mqttMaxDeviceIdLen + maxCfgSlugLen
def maxSwitchDiscoveryTopicLen : Nat :=
  switchDiscoveryTopicFmt.length + mqttMaxDeviceIdLen + maxCfgSlugLen

def topicBuf : Nat :=
  max maxDiscoveryTopicLen (max maxUpdateDiscoveryTopicLen (max maxStateTopicLen
    (max maxBackfillTopicLen (max maxNumberDiscoveryTopicLen maxSwitchDiscoveryTopicLen)))) + 1

def discoveryPayloadBuf : Nat :=
  discPartHead.length + discPartDeviceClass.length + discPartDiagnostic.length +
    discPartStateClass.length + discPartUnit.length + discPartPrecision.length +
    discPartExpire.length + discPartTail.length + maxNameLen + maxDeviceClassLen +
    maxStateClassLen + maxUnitLen + maxPrecisionLen + maxExpireLen + 3 * mqttMaxDeviceIdLen +
    2 * maxKeyLen + mqttMaxDeviceNameLen + maxSwVersionLen + maxSerialLen + 1

def updateDiscoveryPayloadBuf : Nat :=
  updateDiscoveryFmt.length + 3 * maxOtaTopicLen + 2 * mqttMaxDeviceIdLen + mqttMaxDeviceNameLen +
    maxSwVersionLen + maxSerialLen + 1

def cmdDiscoveryPayloadBuf : Nat :=
  discPartHead.length + cmdPartConfigCat.length + cmdPartModeBox.length +
    cmdPartMinmaxstep.length + discPartUnit.length + cmdPartPayloads.length + cmdPartTail.length +
    maxCfgNameLen + 3 * maxFormattedFloatLen + maxCfgUnitLen + (bytes "ON").length +
    (bytes "OFF").length + 2 * maxCfgTopicLen + 2 * mqttMaxDeviceIdLen + maxCfgSlugLen +
    mqttMaxDeviceNameLen + maxSwVersionLen + maxSerialLen + 1

def maxBatteryPctLen : Nat := (bytes "100.00").length
def maxRssiLen : Nat := (bytes "-2147483648").length
def maxBootCountLen : Nat := 10
def maxHeaterRunCountLen : Nat := 10
def maxLinkCounterLen : Nat := 10
def maxOnOffLen : Nat := (bytes "OFF").length
def maxTxpowerLen : Nat := (bytes "-128").length

def stateBuf : Nat :=
  max (stateFmtBoth.length + 2 * maxFormattedFloatLen)
      (max (stateFmtTemp.length + maxFormattedFloatLen)
        (stateFmtHumid.length + maxFormattedFloatLen)) +
    stateBattSuffixFmt.length + maxBatteryPctLen + maxFormattedFloatLen +
    stateRssiSuffixFmt.length + maxRssiLen +
    stateDiagSuffixFmt.length + maxBootCountLen + mqttMaxResetReasonLen +
    stateHeaterSuffixFmt.length + maxOnOffLen + maxHeaterRunCountLen +
    stateRadioSuffixFmt.length + 2 * maxFormattedFloatLen +
    stateLinkqSuffixFmt.length + 2 * maxLinkCounterLen +
    stateUplinkSuffixFmt.length + maxRssiLen +
    stateTxpowerSuffixFmt.length + maxTxpowerLen +
    stateAwakeSuffixFmt.length + maxFormattedFloatLen + 1

def maxBackfillEntryLen : Nat :=
  backfillEntryRestFmt.length + maxExpireLen + 2 * maxFormattedFloatLen
def backfillPayloadBuf : Nat :=
  backfillArrayOpen.length + backfillBatchSize * maxBackfillEntryLen +
    backfillArrayClose.length + 1

/-! ## Discovery messages -/

section Texts

variable (floats : FloatText) (config : MqttConfig)

/-- `std::format("{}/{}", device_id, suffix)`. -/
def MqttConfig.full (suffix : Text) : Text := config.deviceId ++ '/' :: suffix

def serialFromDeviceId (deviceId : Text) : Text :=
  if maxSerialLen < deviceId.length then deviceId.drop (deviceId.length - maxSerialLen)
  else deviceId

def MqttConfig.deviceArgs : List Arg :=
  [.str config.deviceId, .str config.deviceName, .str config.version,
    .str (serialFromDeviceId config.deviceId)]

def formatTopic (fmt : Text) (args : List Text) : Option Text :=
  FormatText.formatInto (render floats) topicBuf ⟨fmt, args.map .str⟩

def discoveryParts (spec : DiscoverySpec) : List (Call Arg) :=
  (spec.deviceClass.toList.map fun text => ⟨discPartDeviceClass, [.str text]⟩) ++
    (if spec.diagnostic then [⟨discPartDiagnostic, []⟩] else []) ++
    (spec.stateClass.toList.map fun text => ⟨discPartStateClass, [.str text]⟩) ++
    (spec.unit.toList.map fun text => ⟨discPartUnit, [.str text]⟩) ++
    (if 0 ≤ spec.precision then [⟨discPartPrecision, [.int spec.precision]⟩] else []) ++
    (if 0 < config.expireAfterSec then [⟨discPartExpire, [.uint config.expireAfterSec]⟩]
      else []) ++
    [⟨discPartTail, [.str config.deviceId, .str spec.key, .str config.deviceId, .str spec.key] ++
      config.deviceArgs⟩]

/-- A first part into an empty buffer, and the others each behind the last. -/
def formatParts (capacity : Nat) (head : Call Arg) (parts : List (Call Arg)) : Option Text :=
  (FormatText.formatInto (render floats) capacity head).bind fun text =>
    FormatText.appendAll (render floats) capacity text parts

def buildDiscoveryPayload (spec : DiscoverySpec) : Option Text :=
  formatParts floats discoveryPayloadBuf ⟨discPartHead, [.str spec.name]⟩
    (discoveryParts config spec)

/-- The topic and the payload of `publish_discovery`, each `none` where it is cut. -/
def publishDiscovery (spec : DiscoverySpec) : List (Option Text) :=
  [formatTopic floats discoveryTopicFmt [config.deviceId, spec.topicSlug],
    buildDiscoveryPayload floats config spec]

def publishBinaryDiscovery (spec : DiscoverySpec) : List (Option Text) :=
  [formatTopic floats binaryDiscoveryTopicFmt [config.deviceId, spec.topicSlug],
    buildDiscoveryPayload floats config spec]

def updateDiscoveryCall : Call Arg :=
  ⟨updateDiscoveryFmt,
    [.str (config.full (bytes "ota/installed")), .str (config.full (bytes "ota/manifest")),
      .str (config.full (bytes "ota/install")), .str config.deviceId] ++ config.deviceArgs⟩

def publishUpdateDiscovery : List (Option Text) :=
  [formatTopic floats updateDiscoveryTopicFmt [config.deviceId],
    FormatText.formatInto (render floats) updateDiscoveryPayloadBuf (updateDiscoveryCall config)]

/-- The end of a `number` or `switch` config; one topic is both state and command. -/
def cmdTail (topicSuffix slug : Text) : Call Arg :=
  ⟨cmdPartTail,
    [.str (config.full topicSuffix), .str (config.full topicSuffix), .str config.deviceId,
      .str slug] ++ config.deviceArgs⟩

def numberParts (entity : NumberEntity) : List (Call Arg) :=
  [⟨cmdPartConfigCat, []⟩, ⟨cmdPartModeBox, []⟩,
    ⟨cmdPartMinmaxstep, [entity.min, entity.max, entity.step]⟩] ++
    (entity.unit.toList.map fun text => ⟨discPartUnit, [.str text]⟩) ++
    [cmdTail config entity.topicSuffix entity.slug]

def publishNumberDiscovery (entity : NumberEntity) : List (Option Text) :=
  [formatTopic floats numberDiscoveryTopicFmt [config.deviceId, entity.slug],
    formatParts floats cmdDiscoveryPayloadBuf ⟨discPartHead, [.str entity.name]⟩
      (numberParts config entity)]

/-- With the topics that the retired number entities had. -/
def publishNumberDiscoveries : List (Option Text) :=
  numberEntities.flatMap (publishNumberDiscovery floats config) ++
    [formatTopic floats numberDiscoveryTopicFmt [config.deviceId, bytes "max_skip_cycles"],
      formatTopic floats numberDiscoveryTopicFmt [config.deviceId, bytes "rtc_cal_mode"],
      formatTopic floats (bytes "\x7b\x7d/cfg/rtc_cal_mode") [config.deviceId]]

def switchParts : List (Call Arg) :=
  [⟨cmdPartConfigCat, []⟩, ⟨cmdPartPayloads, [.str (bytes "ON"), .str (bytes "OFF")]⟩,
    cmdTail config (bytes "cfg/ext_antenna") (bytes "ext_antenna")]

def publishSwitchDiscovery : List (Option Text) :=
  [formatTopic floats switchDiscoveryTopicFmt [config.deviceId, bytes "ext_antenna"],
    formatParts floats cmdDiscoveryPayloadBuf
      ⟨discPartHead, [.str (bytes "External antenna")]⟩ (switchParts config)]

/-- What `run_publish_cycle` formats for a group of discovery configs. -/
def discoveryTexts (bit : DiscoveryBit) : List (Option Text) :=
  (binarySpecs bit).flatMap (publishBinaryDiscovery floats config) ++
    (sensorSpecs bit).flatMap (publishDiscovery floats config) ++
    ((retiredSlugs bit).map fun slug =>
      formatTopic floats discoveryTopicFmt [config.deviceId, slug]) ++
    match bit with
    | .update => publishUpdateDiscovery floats config
    | .numbers => publishNumberDiscoveries floats config
    | .switch => publishSwitchDiscovery floats config
    | _ => []

/-! ## The state message -/

/-- What a cycle reads besides the values it was given. -/
structure Telemetry where
  link : Option LinkStats
  txPowerActive : Int
  hpAwakeUs : Nat

variable (params : PublishParams) (telemetry : Telemetry)

def stateBase : Call Arg :=
  match params.temperature, params.humidity with
  | some temp, some hum => ⟨stateFmtBoth, [.float temp, .float hum]⟩
  | some temp, none => ⟨stateFmtTemp, [.float temp]⟩
  | none, hum => ⟨stateFmtHumid, [.float (hum.getD (.fin 0))]⟩

def battSuffix : List (Call Arg) :=
  match params.batteryPercent, params.batteryMillivolts with
  | some percent, some millivolts =>
    [⟨stateBattSuffixFmt, [.float percent, .float (.fin (floats.thousandth millivolts))]⟩]
  | _, _ => []

def rssiSuffix : List (Call Arg) :=
  match telemetry.link.bind LinkStats.rssiDbm with
  | some rssi => [⟨stateRssiSuffixFmt, [.int rssi]⟩]
  | none => []

def heaterSuffix : List (Call Arg) :=
  match params.heaterProblem, params.heaterRunCount with
  | some problem, some runs =>
    [⟨stateHeaterSuffixFmt, [.str (bytes (if problem then "ON" else "OFF")), .uint runs]⟩]
  | _, _ => []

def radioSuffix : List (Call Arg) :=
  match telemetry.link.bind LinkStats.radioTxTimeUs,
    telemetry.link.bind LinkStats.radioRxTimeUs with
  | some tx, some rx =>
    [⟨stateRadioSuffixFmt,
      [.float (.fin (floats.thousandth tx)), .float (.fin (floats.thousandth rx))]⟩]
  | _, _ => []

def linkqSuffix : List (Call Arg) :=
  match telemetry.link.bind LinkStats.txRetries, telemetry.link.bind LinkStats.txCcaFailures with
  | some retries, some failures => [⟨stateLinkqSuffixFmt, [.uint retries, .uint failures]⟩]
  | _, _ => []

def uplinkSuffix : List (Call Arg) :=
  match telemetry.link.bind LinkStats.uplinkRssiDbm with
  | some rssi => [⟨stateUplinkSuffixFmt, [.int rssi]⟩]
  | none => []

/-- The suffixes, each written over the closing brace. -/
def stateSuffixes : List (Call Arg) :=
  battSuffix floats params ++ rssiSuffix telemetry ++ heaterSuffix params ++
    radioSuffix floats telemetry ++ linkqSuffix telemetry ++ uplinkSuffix telemetry ++
    [⟨stateDiagSuffixFmt, [.uint config.bootCount, .str config.resetReason]⟩,
      ⟨stateTxpowerSuffixFmt, [.int telemetry.txPowerActive]⟩,
      ⟨stateAwakeSuffixFmt, [.float (.fin (floats.thousandth telemetry.hpAwakeUs))]⟩]

def statePayload : Option Text :=
  (FormatText.formatInto (render floats) stateBuf (stateBase params)).bind fun text =>
    FormatText.overwriteAll (render floats) stateBuf text
      (stateSuffixes floats config params telemetry)

def stateTexts : List (Option Text) :=
  [statePayload floats config params telemetry,
    formatTopic floats stateTopicFmt [config.deviceId]]

/-! ## The backfill message -/

def backfillEntry (fmt : Text) (entry : HistoryLogEntry) : Call Arg :=
  ⟨fmt, [.uint entry.agoSec, .float entry.tempC, .float entry.humPct]⟩

def backfillParts : List HistoryLogEntry → List (Call Arg)
  | [] => [⟨backfillArrayClose, []⟩]
  | first :: rest =>
    backfillEntry backfillEntryFirstFmt first ::
      (rest.map (backfillEntry backfillEntryRestFmt) ++ [⟨backfillArrayClose, []⟩])

def backfillTexts (entries : List HistoryLogEntry) : List (Option Text) :=
  [formatTopic floats backfillTopicFmt [config.deviceId],
    formatParts floats backfillPayloadBuf ⟨backfillArrayOpen, []⟩ (backfillParts entries)]

end Texts

/-! ## The device id and the reset reason -/

/-- `addOTMacSuffix`. -/
def addOtMacSuffix (name : Text) (mac : List UInt8) : Text :=
  let ok (c : Char) : Bool := c.isAlphanum || c == '-' || c == '_'
  (name.map fun c => if ok c then c else '_') ++
    '-' :: mac.flatMap fun byte =>
      [Nat.digitChar (byte.toNat / 16), Nat.digitChar (byte.toNat % 16)]

inductive EspResetReason where
  | powerOn | sw | panic | brownout | intWdt | taskWdt | wdt | ext | deepSleep | other
  deriving DecidableEq, Repr

def resetReasonString (reason : EspResetReason) (lpStallReboot otaUnconfirmedReboot : Bool) :
    Text :=
  match reason with
  | .powerOn => bytes "power_on"
  | .sw =>
    if lpStallReboot then bytes "lp_stall_reboot"
    else if otaUnconfirmedReboot then bytes "ota_unconfirmed"
    else bytes "sw_reset"
  | .panic => bytes "panic"
  | .brownout => bytes "brownout"
  | .intWdt => bytes "int_wdt"
  | .taskWdt => bytes "task_wdt"
  | .wdt => bytes "wdt"
  | .ext => bytes "external"
  | .deepSleep => bytes "deep_sleep"
  | .other => bytes "unknown"

/-- What `app_main` makes of its settings. -/
def appMainConfig (deviceName : Text) (mac : List UInt8) (expireAfterSec bootCount : Nat)
    (reason : EspResetReason) (lpStallReboot otaUnconfirmedReboot : Bool) (version : Text) :
    MqttConfig :=
  let name := if deviceName = [] then bytes "esp32-OT-sensor" else deviceName
  let nameAndId := addOtMacSuffix (name.take mqttMaxDeviceNameLen) mac
  { deviceId := nameAndId
    deviceName := nameAndId
    expireAfterSec := expireAfterSec
    bootCount := bootCount
    resetReason :=
      (resetReasonString reason lpStallReboot otaUnconfirmedReboot).take mqttMaxResetReasonLen
    version := version }

end SleepySensor.MqttTexts
