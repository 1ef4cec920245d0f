import SleepySensor.Cadence
import SleepySensor.TxPower

/-!
# HA-tunable parameters over MQTT

`runtime_config.cpp`: the pending slots that the event handler fills, and
`runtime_config_apply_pending`, which settles each of them against the value in
effect, merges the changes, persists them and echoes what the broker does not
hold yet.  Payloads enter parsed; one that does not parse changes nothing.
-/

set_option autoImplicit false

namespace SleepySensor

/-- One field of `PendingCfg`: its `_set` flag, its value and its `_echo` flag. -/
structure Slot (T : Type) where
  set : Bool := false
  value : T
  echo : Bool := false
  deriving DecidableEq, Repr

namespace Slot

variable {T : Type}

def receive (slot : Slot T) (value : T) : Slot T := { slot with set := true, value := value }

/-- `if (snap.x_set) echoes += settle(x_set, x_echo, x, clamped, current)`. -/
def settle [CppCmp T] (slot : Slot T) (clamp : T → T) (current : T) : Slot T :=
  if slot.set then
    { set := CppCmp.ne (clamp slot.value) current
      value := clamp slot.value
      echo := CppCmp.ne slot.value current }
  else slot

/-- What the field holds after the change, if any, is applied. -/
def merge (slot : Slot T) (current : T) : T := if slot.set then slot.value else current

/-- A settled slot brings the clamp of what was received into effect, whether
it counts as a change or not. -/
theorem settle_merge [CppCmp T] (slot : Slot T) (clamp : T → T) (current : T)
    (received : slot.set = true) :
    (slot.settle clamp current).merge current = clamp slot.value := by
  simp only [settle, received, if_true, merge]
  cases changed : CppCmp.ne (clamp slot.value) current with
  | true => rfl
  | false => exact (CppCmp.eq_of_ne_false _ _ changed).symm

theorem settle_merge_unset [CppCmp T] (slot : Slot T) (clamp : T → T) (current : T)
    (quiet : slot.set = false) : (slot.settle clamp current).merge current = current := by
  simp [settle, merge, quiet]

end Slot

def tempOffsetMin : Flt := .fin (-10)
def tempOffsetMax : Flt := .fin 10
def tempMinChangeMin : Flt := .fin (5 / 100)
def tempMinChangeMax : Flt := .fin 5
def rhOffsetMin : Flt := .fin (-20)
def rhOffsetMax : Flt := .fin 20
def rhMinChangeMin : Flt := .fin (1 / 2)
def rhMinChangeMax : Flt := .fin 20
def maxPublishGapSecMin : Nat := 0
def maxPublishGapSecMax : Nat := Cadence.maxPublishGapSecMax
def heaterPeriodMinMinutes : Nat := 0
def heaterPeriodMaxMinutes : Nat := 10080
def heaterHighRhMinMinutes : Nat := 0
def heaterHighRhMaxMinutes : Nat := 1440
def sensorSamplesMin : Nat := 1
def sensorSamplesMax : Nat := 16
def rtcCalSamplesMax : Nat := 32
def rtcCalPeriodSecFloor : Nat := 30
def rtcCalPeriodSecMax : Nat := 3600

def clampTempOffset (value : Flt) : Flt := stdClamp value tempOffsetMin tempOffsetMax
def clampTempMinChange (value : Flt) : Flt := stdClamp value tempMinChangeMin tempMinChangeMax
def clampRhOffset (value : Flt) : Flt := stdClamp value rhOffsetMin rhOffsetMax
def clampRhMinChange (value : Flt) : Flt := stdClamp value rhMinChangeMin rhMinChangeMax
def clampMaxPublishGapSec (value : Nat) : Nat :=
  stdClamp value maxPublishGapSecMin maxPublishGapSecMax
def clampHeaterPeriod (value : Nat) : Nat :=
  stdClamp value heaterPeriodMinMinutes heaterPeriodMaxMinutes
def clampHeaterHighRh (value : Nat) : Nat :=
  stdClamp value heaterHighRhMinMinutes heaterHighRhMaxMinutes
def clampSensorSamples (value : Nat) : Nat := stdClamp value sensorSamplesMin sensorSamplesMax

def rtcCalClampSamples (samples : Nat) : Nat :=
  if samples < rtcCalSamplesMax then samples else rtcCalSamplesMax

def rtcCalClampPeriodSec (periodSec : Nat) : Nat :=
  if periodSec = 0 then 0
  else if periodSec < rtcCalPeriodSecFloor then rtcCalPeriodSecFloor
  else if periodSec < rtcCalPeriodSecMax then periodSec else rtcCalPeriodSecMax

structure PendingCfg where
  tempOffset : Slot Flt := { value := .fin 0 }
  tempMinChange : Slot Flt := { value := .fin 0 }
  rhOffset : Slot Flt := { value := .fin 0 }
  rhMinChange : Slot Flt := { value := .fin 0 }
  maxPublishGapSec : Slot Nat := { value := 0 }
  heaterPeriod : Slot Nat := { value := 0 }
  heaterHighRh : Slot Nat := { value := 0 }
  extAntenna : Slot Bool := { value := false }
  txPowerDbm : Slot Int := { value := 0 }
  sensorSamples : Slot Nat := { value := 0 }
  rtcCalSamples : Slot Nat := { value := 0 }
  rtcCalPeriodSec : Slot Nat := { value := 0 }
  deriving DecidableEq, Repr

inductive CfgMessage where
  | tempOffset (value : Flt)
  | tempMinChange (value : Flt)
  | rhOffset (value : Flt)
  | rhMinChange (value : Flt)
  | maxPublishGapSec (value : Nat)
  | heaterPeriod (value : Nat)
  | heaterHighRh (value : Nat)
  | extAntenna (value : Bool)
  | txPowerDbm (value : Int)
  | sensorSamples (value : Nat)
  | rtcCalSamples (value : Nat)
  | rtcCalPeriodSec (value : Nat)
  deriving DecidableEq, Repr

/-- `lp_sensor_core_config_t`. -/
structure LpConfig where
  sensorSamples : Nat
  tempOffsetC : Flt
  tempMinChangeC : Flt
  rhOffsetPct : Flt
  rhMinChangePct : Flt
  maxSkipCycles : Nat
  heaterPeriodCycles : Nat
  highRhTriggerCycles : Nat
  deriving DecidableEq, Repr

/-- The statics of `runtime_config.cpp`, with the two settings of the sleep
clock that it changes live. -/
structure RuntimeConfig where
  pollIntervalSec : Nat
  shadow : LpConfig
  maxPublishGapSec : Nat
  heaterPeriodMinutes : Nat
  heaterHighRhTriggerMinutes : Nat
  extAntennaOn : Bool
  rtcSamples : Nat
  rtcPeriodSec : Nat
  pending : PendingCfg := {}
  tx : TxPower
  deriving DecidableEq, Repr

namespace RuntimeConfig

/-- `runtime_config_on_mqtt_data`. -/
def onMqttData (config : RuntimeConfig) (message : CfgMessage) : RuntimeConfig :=
  let pending := config.pending
  { config with
    pending := match message with
      | .tempOffset v => { pending with tempOffset := pending.tempOffset.receive v }
      | .tempMinChange v => { pending with tempMinChange := pending.tempMinChange.receive v }
      | .rhOffset v => { pending with rhOffset := pending.rhOffset.receive v }
      | .rhMinChange v => { pending with rhMinChange := pending.rhMinChange.receive v }
      | .maxPublishGapSec v =>
        { pending with maxPublishGapSec := pending.maxPublishGapSec.receive v }
      | .heaterPeriod v => { pending with heaterPeriod := pending.heaterPeriod.receive v }
      | .heaterHighRh v => { pending with heaterHighRh := pending.heaterHighRh.receive v }
      | .extAntenna v => { pending with extAntenna := pending.extAntenna.receive v }
      | .txPowerDbm v => { pending with txPowerDbm := pending.txPowerDbm.receive v }
      | .sensorSamples v => { pending with sensorSamples := pending.sensorSamples.receive v }
      | .rtcCalSamples v => { pending with rtcCalSamples := pending.rtcCalSamples.receive v }
      | .rtcCalPeriodSec v =>
        { pending with rtcCalPeriodSec := pending.rtcCalPeriodSec.receive v } }

/-- The `tx_power_dbm` block has its own rule for a value that failed its trial. -/
def settleTxPower (tx : TxPower) (slot : Slot Int) : Slot Int :=
  if slot.set then
    let settled := tx.settleReceived slot.value
    { set := settled.trial, value := settled.value, echo := settled.echo }
  else slot

/-- The snapshot `snap` of `runtime_config_apply_pending` after the `settle` calls. -/
def settleAll (config : RuntimeConfig) : PendingCfg :=
  let snap := config.pending
  let shadow := config.shadow
  { tempOffset := snap.tempOffset.settle clampTempOffset shadow.tempOffsetC
    tempMinChange := snap.tempMinChange.settle clampTempMinChange shadow.tempMinChangeC
    rhOffset := snap.rhOffset.settle clampRhOffset shadow.rhOffsetPct
    rhMinChange := snap.rhMinChange.settle clampRhMinChange shadow.rhMinChangePct
    maxPublishGapSec :=
      snap.maxPublishGapSec.settle clampMaxPublishGapSec config.maxPublishGapSec
    heaterPeriod := snap.heaterPeriod.settle clampHeaterPeriod config.heaterPeriodMinutes
    heaterHighRh := snap.heaterHighRh.settle clampHeaterHighRh config.heaterHighRhTriggerMinutes
    extAntenna := snap.extAntenna.settle id config.extAntennaOn
    txPowerDbm := settleTxPower config.tx snap.txPowerDbm
    sensorSamples := snap.sensorSamples.settle clampSensorSamples shadow.sensorSamples
    rtcCalSamples := snap.rtcCalSamples.settle rtcCalClampSamples config.rtcSamples
    rtcCalPeriodSec := snap.rtcCalPeriodSec.settle rtcCalClampPeriodSec config.rtcPeriodSec }

def mergeShadow (config : RuntimeConfig) (snap : PendingCfg) : LpConfig :=
  let shadow := config.shadow
  let poll := config.pollIntervalSec
  { sensorSamples := snap.sensorSamples.merge shadow.sensorSamples
    tempOffsetC := snap.tempOffset.merge shadow.tempOffsetC
    tempMinChangeC := snap.tempMinChange.merge shadow.tempMinChangeC
    rhOffsetPct := snap.rhOffset.merge shadow.rhOffsetPct
    rhMinChangePct := snap.rhMinChange.merge shadow.rhMinChangePct
    maxSkipCycles :=
      if snap.maxPublishGapSec.set then
        Cadence.publishGapSecToSkipCycles snap.maxPublishGapSec.value poll
      else shadow.maxSkipCycles
    heaterPeriodCycles :=
      if snap.heaterPeriod.set then Cadence.minutesToLpCycles snap.heaterPeriod.value poll
      else shadow.heaterPeriodCycles
    highRhTriggerCycles :=
      if snap.heaterHighRh.set then Cadence.minutesToLpCycles snap.heaterHighRh.value poll
      else shadow.highRhTriggerCycles }

/-- `lpChanged`: the merged shadow goes to `lp_sensor_core_apply_config`. -/
def lpChanged (snap : PendingCfg) : Bool :=
  snap.tempOffset.set || snap.tempMinChange.set || snap.rhOffset.set || snap.rhMinChange.set ||
    snap.sensorSamples.set || snap.maxPublishGapSec.set || snap.heaterPeriod.set ||
    snap.heaterHighRh.set

/-- The state after the settled changes are merged; the pending slots are
cleared, and a fresh trial is started up to its `setTxPowerDbm` call. -/
def mergeAll (config : RuntimeConfig) (snap : PendingCfg) : RuntimeConfig :=
  { pollIntervalSec := config.pollIntervalSec
    shadow := config.mergeShadow snap
    maxPublishGapSec := snap.maxPublishGapSec.merge config.maxPublishGapSec
    heaterPeriodMinutes := snap.heaterPeriod.merge config.heaterPeriodMinutes
    heaterHighRhTriggerMinutes := snap.heaterHighRh.merge config.heaterHighRhTriggerMinutes
    extAntennaOn := snap.extAntenna.merge config.extAntennaOn
    -- the setters clamp once more
    rtcSamples :=
      if snap.rtcCalSamples.set then rtcCalClampSamples snap.rtcCalSamples.value
      else config.rtcSamples
    rtcPeriodSec :=
      if snap.rtcCalPeriodSec.set then rtcCalClampPeriodSec snap.rtcCalPeriodSec.value
      else config.rtcPeriodSec
    pending := {}
    tx := if snap.txPowerDbm.set then config.tx.startTrial snap.txPowerDbm.value else config.tx }

def persistSlot {T : Type} (slot : Slot T) (key : NvsKey) (entry : T → NvsValue) (nvs : Nvs) :
    Nvs :=
  if slot.set then nvs.set key (entry slot.value) else nvs

/-- The NVS writes of `runtime_config_apply_pending`, in its order. -/
def persistAll (snap : PendingCfg) (nvs : Nvs) : Nvs :=
  let nvs := persistSlot snap.tempOffset .tempOffset .floatBlob nvs
  let nvs := persistSlot snap.tempMinChange .tempMinChange .floatBlob nvs
  let nvs := persistSlot snap.rhOffset .rhOffset .floatBlob nvs
  let nvs := persistSlot snap.rhMinChange .rhMinChange .floatBlob nvs
  let nvs := persistSlot snap.maxPublishGapSec .maxPubGapS .u32 nvs
  let nvs := persistSlot snap.heaterPeriod .htrPeriodMin .u32 nvs
  let nvs := persistSlot snap.heaterHighRh .htrHiRhTrig .u32 nvs
  let nvs := persistSlot snap.extAntenna .extAntenna (fun on => .u8 (if on then 1 else 0)) nvs
  let nvs := if snap.txPowerDbm.set then TxPower.trialNvs snap.txPowerDbm.value nvs else nvs
  let nvs := persistSlot snap.sensorSamples .sensorSamples .u32 nvs
  let nvs := persistSlot snap.rtcCalSamples .rtcCalSamples .u32 nvs
  persistSlot snap.rtcCalPeriodSec .rtcCalPerS .u32 nvs

def echoOf {T : Type} (slot : Slot T) (message : T → CfgMessage) : List CfgMessage :=
  if slot.echo then [message slot.value] else []

/-- The retained echoes of `runtime_config_apply_pending`, in its order. -/
def echoes (snap : PendingCfg) : List CfgMessage :=
  echoOf snap.tempOffset .tempOffset ++ echoOf snap.tempMinChange .tempMinChange ++
  echoOf snap.rhOffset .rhOffset ++ echoOf snap.rhMinChange .rhMinChange ++
  echoOf snap.maxPublishGapSec .maxPublishGapSec ++ echoOf snap.heaterPeriod .heaterPeriod ++
  echoOf snap.heaterHighRh .heaterHighRh ++ echoOf snap.extAntenna .extAntenna ++
  echoOf snap.txPowerDbm .txPowerDbm ++ echoOf snap.sensorSamples .sensorSamples ++
  echoOf snap.rtcCalSamples .rtcCalSamples ++ echoOf snap.rtcCalPeriodSec .rtcCalPeriodSec

end RuntimeConfig

/-- The cfg values of `device_config.yaml`, or the defaults `app_main` takes for
a missing or malformed one. -/
structure DeviceYaml where
  lpPollIntervalSec : Nat := 20
  maxPublishGapSec : Nat := 0
  heaterPeriodMinutes : Nat := 1440
  heaterHighRhTriggerMinutes : Nat := 60
  txPowerDbm : Int := txPowerTableMaxDbm
  sensorSamples : Nat := 4
  tempOffset : Flt := .fin 0
  tempMinChange : Flt := .fin (2 / 10)
  rhOffset : Flt := .fin 0
  rhMinChange : Flt := .fin 2
  rtcCalSamples : Nat := 8
  rtcCalPeriodSec : Nat := 300
  readBatteryViaAdc : Bool := false
  deriving DecidableEq, Repr

namespace RuntimeConfig

def bootMaxPublishGapSec (yaml : DeviceYaml) (nvs : Nvs) : Nat :=
  nvs.overrideUint32 yaml.maxPublishGapSec .maxPubGapS

def bootMaxSkipCycles (yaml : DeviceYaml) (nvs : Nvs) : Nat :=
  Cadence.publishGapSecToSkipCycles (bootMaxPublishGapSec yaml nvs) yaml.lpPollIntervalSec

/-- `lpConfig` of `app_main`. -/
def bootLpConfig (yaml : DeviceYaml) (nvs : Nvs) : LpConfig :=
  { sensorSamples := nvs.overrideUint32 yaml.sensorSamples .sensorSamples
    tempOffsetC := nvs.overrideFloat yaml.tempOffset .tempOffset
    tempMinChangeC := nvs.overrideFloat yaml.tempMinChange .tempMinChange
    rhOffsetPct := nvs.overrideFloat yaml.rhOffset .rhOffset
    rhMinChangePct := nvs.overrideFloat yaml.rhMinChange .rhMinChange
    maxSkipCycles := bootMaxSkipCycles yaml nvs
    heaterPeriodCycles := Cadence.minutesToLpCycles
      (nvs.overrideUint32 yaml.heaterPeriodMinutes .htrPeriodMin) yaml.lpPollIntervalSec
    highRhTriggerCycles := Cadence.minutesToLpCycles
      (nvs.overrideUint32 yaml.heaterHighRhTriggerMinutes .htrHiRhTrig) yaml.lpPollIntervalSec }

/-- `app_main` with `runtime_config_init` and `rtc_clock_fix_start`. -/
def boot (yaml : DeviceYaml) (nvs : Nvs) : RuntimeConfig :=
  { pollIntervalSec := yaml.lpPollIntervalSec
    shadow := bootLpConfig yaml nvs
    maxPublishGapSec := bootMaxPublishGapSec yaml nvs
    heaterPeriodMinutes := nvs.overrideUint32 yaml.heaterPeriodMinutes .htrPeriodMin
    heaterHighRhTriggerMinutes :=
      nvs.overrideUint32 yaml.heaterHighRhTriggerMinutes .htrHiRhTrig
    extAntennaOn := nvs.overrideBool false .extAntenna
    rtcSamples := rtcCalClampSamples (nvs.overrideUint32 yaml.rtcCalSamples .rtcCalSamples)
    rtcPeriodSec := rtcCalClampPeriodSec (nvs.overrideUint32 yaml.rtcCalPeriodSec .rtcCalPerS)
    tx := TxPower.init (TxPower.bootKnownGood yaml.txPowerDbm nvs) nvs }

end RuntimeConfig

end SleepySensor
