import SleepySensor.Lib.Runs
import SleepySensor.RuntimeConfig

/-!
# Live configuration over reboots

`runtime_config_apply_pending` with everything it changes: the statics, NVS, the
configuration of the LP core and the antenna switch.  A reboot resolves all of
them again from `device_config.yaml` and NVS.
-/

set_option autoImplicit false

namespace SleepySensor

structure LiveConfig where
  nvs : Nvs
  config : RuntimeConfig
  /-- The argument of the last `lp_sensor_core_init` or `lp_sensor_core_apply_config`. -/
  lp : LpConfig
  /-- The argument of the last `enableExtAntenna`. -/
  extAntenna : Bool

namespace LiveConfig

open RuntimeConfig

def boot (yaml : DeviceYaml) (nvs : Nvs) : LiveConfig :=
  { nvs := nvs
    config := RuntimeConfig.boot yaml nvs
    lp := bootLpConfig yaml nvs
    extAntenna := nvs.overrideBool false .extAntenna }

/-- `runtime_config_apply_pending`, with its echoes left out. -/
def applyPending (live : LiveConfig) : LiveConfig :=
  let snap := live.config.settleAll
  { nvs := persistAll snap live.nvs
    config := live.config.mergeAll snap
    lp := if lpChanged snap then live.config.mergeShadow snap else live.lp
    extAntenna := if snap.extAntenna.set then snap.extAntenna.value else live.extAntenna }

inductive Event where
  | receive (message : CfgMessage)
  | applyPending
  /-- A reboot into a build with this `device_config.yaml`. -/
  | reboot (yaml : DeviceYaml)
  deriving DecidableEq, Repr

def step (live : LiveConfig) : Event → Option LiveConfig
  | .receive message => some { live with config := live.config.onMqttData message }
  | .applyPending => some live.applyPending
  | .reboot yaml => some (boot yaml live.nvs)

/-- Every reboot is into the same build. -/
def SameYaml (yaml : DeviceYaml) : Event → Prop
  | .reboot other => other = yaml
  | _ => True

instance (yaml : DeviceYaml) (event : Event) : Decidable (SameYaml yaml event) := by
  unfold SameYaml
  split <;> infer_instance

/-- The parameters other than `tx_power_dbm` in their HA-facing units, and what
the LP core, the antenna switch and the sleep clock work with. -/
structure InEffect where
  sensorSamples : Nat
  tempOffsetC : Flt
  tempMinChangeC : Flt
  rhOffsetPct : Flt
  rhMinChangePct : Flt
  maxPublishGapSec : Nat
  heaterPeriodMinutes : Nat
  heaterHighRhTriggerMinutes : Nat
  extAntennaOn : Bool
  rtcSamples : Nat
  rtcPeriodSec : Nat
  lp : LpConfig
  extAntenna : Bool
  deriving DecidableEq, Repr

def inEffect (live : LiveConfig) : InEffect :=
  { sensorSamples := live.config.shadow.sensorSamples
    tempOffsetC := live.config.shadow.tempOffsetC
    tempMinChangeC := live.config.shadow.tempMinChangeC
    rhOffsetPct := live.config.shadow.rhOffsetPct
    rhMinChangePct := live.config.shadow.rhMinChangePct
    maxPublishGapSec := live.config.maxPublishGapSec
    heaterPeriodMinutes := live.config.heaterPeriodMinutes
    heaterHighRhTriggerMinutes := live.config.heaterHighRhTriggerMinutes
    extAntennaOn := live.config.extAntennaOn
    rtcSamples := live.config.rtcSamples
    rtcPeriodSec := live.config.rtcPeriodSec
    lp := live.lp
    extAntenna := live.extAntenna }

/-! ## What is persisted -/

/-- The entry that a change leaves under a key. -/
def stored (snap : PendingCfg) : NvsKey → Option NvsValue
  | .tempOffset => if snap.tempOffset.set then some (.floatBlob snap.tempOffset.value) else none
  | .tempMinChange =>
    if snap.tempMinChange.set then some (.floatBlob snap.tempMinChange.value) else none
  | .rhOffset => if snap.rhOffset.set then some (.floatBlob snap.rhOffset.value) else none
  | .rhMinChange => if snap.rhMinChange.set then some (.floatBlob snap.rhMinChange.value) else none
  | .maxPubGapS =>
    if snap.maxPublishGapSec.set then some (.u32 snap.maxPublishGapSec.value) else none
  | .htrPeriodMin => if snap.heaterPeriod.set then some (.u32 snap.heaterPeriod.value) else none
  | .htrHiRhTrig => if snap.heaterHighRh.set then some (.u32 snap.heaterHighRh.value) else none
  | .extAntenna =>
    if snap.extAntenna.set then some (.u8 (if snap.extAntenna.value then 1 else 0)) else none
  | .sensorSamples => if snap.sensorSamples.set then some (.u32 snap.sensorSamples.value) else none
  | .rtcCalSamples => if snap.rtcCalSamples.set then some (.u32 snap.rtcCalSamples.value) else none
  | .rtcCalPerS => if snap.rtcCalPeriodSec.set then some (.u32 snap.rtcCalPeriodSec.value) else none
  | .txpPending =>
    if snap.txPowerDbm.set then some (.i8 (int8 snap.txPowerDbm.value)) else none
  | .txpPendFlag => if snap.txPowerDbm.set then some (.u8 1) else none
  | .txpKnownGood => none

theorem persistSlot_eq {T : Type} (slot : Slot T) (key other : NvsKey) (entry : T → NvsValue)
    (nvs : Nvs) :
    persistSlot slot key entry nvs other =
      if other = key then (if slot.set then some (entry slot.value) else nvs other)
      else nvs other := by
  unfold persistSlot
  cases slot.set with
  | true => rfl
  | false => simp

theorem persistAll_eq (snap : PendingCfg) (nvs : Nvs) (key : NvsKey) :
    persistAll snap nvs key = (stored snap key).or (nvs key) := by
  have trial : ∀ (before : Nvs) (other : NvsKey),
      (if snap.txPowerDbm.set then TxPower.trialNvs snap.txPowerDbm.value before
        else before) other =
        if other = .txpPendFlag then (if snap.txPowerDbm.set then some (.u8 1) else before other)
        else if other = .txpPending then
          (if snap.txPowerDbm.set then some (.i8 (int8 snap.txPowerDbm.value)) else before other)
        else before other := by
    intro before other
    cases snap.txPowerDbm.set with
    | true => simp [TxPower.trialNvs, Nvs.set]
    | false => simp
  unfold persistAll
  simp only [persistSlot_eq, trial]
  cases key <;> simp only [stored, reduceCtorEq, if_true, if_false, Option.none_or] <;>
    split <;> rfl

theorem overrideFloat_persisted {snap : PendingCfg} {nvs : Nvs} {key : NvsKey} {slot : Slot Flt}
    (entry : stored snap key = if slot.set then some (.floatBlob slot.value) else none)
    (yamlOrDefault : Flt) :
    (persistAll snap nvs).overrideFloat yamlOrDefault key =
      slot.merge (nvs.overrideFloat yamlOrDefault key) := by
  unfold Nvs.overrideFloat Nvs.getFloatBlob Slot.merge
  rw [persistAll_eq, entry]
  cases slot.set <;> rfl

theorem overrideUint32_persisted {snap : PendingCfg} {nvs : Nvs} {key : NvsKey} {slot : Slot Nat}
    (entry : stored snap key = if slot.set then some (.u32 slot.value) else none)
    (yamlOrDefault : Nat) :
    (persistAll snap nvs).overrideUint32 yamlOrDefault key =
      slot.merge (nvs.overrideUint32 yamlOrDefault key) := by
  unfold Nvs.overrideUint32 Nvs.getU32 Slot.merge
  rw [persistAll_eq, entry]
  cases slot.set <;> rfl

theorem overrideBool_persisted {snap : PendingCfg} {nvs : Nvs} {key : NvsKey} {slot : Slot Bool}
    (entry : stored snap key =
      if slot.set then some (.u8 (if slot.value then 1 else 0)) else none)
    (yamlOrDefault : Bool) :
    (persistAll snap nvs).overrideBool yamlOrDefault key =
      slot.merge (nvs.overrideBool yamlOrDefault key) := by
  unfold Nvs.overrideBool Nvs.getU8 Slot.merge
  rw [persistAll_eq, entry]
  cases slot.set with
  | true => cases slot.value <;> rfl
  | false => rfl

/-! ## A reboot resolves what was in effect -/

variable {yaml : DeviceYaml} {live next : LiveConfig}

theorem mergeShadow_unchanged {config : RuntimeConfig} {snap : PendingCfg}
    (unchanged : lpChanged snap = false) : config.mergeShadow snap = config.shadow := by
  simp only [lpChanged, Bool.or_eq_false_iff] at unchanged
  obtain ⟨⟨⟨⟨⟨⟨⟨tempOffset, tempMinChange⟩, rhOffset⟩, rhMinChange⟩, samples⟩, gap⟩, period⟩,
    highRh⟩ := unchanged
  simp [mergeShadow, Slot.merge, tempOffset, tempMinChange, rhOffset, rhMinChange, samples, gap,
    period, highRh]

/-- A reboot with this YAML would change nothing. -/
structure Resumes (yaml : DeviceYaml) (live : LiveConfig) : Prop where
  poll : live.config.pollIntervalSec = yaml.lpPollIntervalSec
  shadow : live.config.shadow = bootLpConfig yaml live.nvs
  maxPublishGapSec : live.config.maxPublishGapSec = bootMaxPublishGapSec yaml live.nvs
  heaterPeriodMinutes : live.config.heaterPeriodMinutes =
    live.nvs.overrideUint32 yaml.heaterPeriodMinutes .htrPeriodMin
  heaterHighRhTriggerMinutes : live.config.heaterHighRhTriggerMinutes =
    live.nvs.overrideUint32 yaml.heaterHighRhTriggerMinutes .htrHiRhTrig
  extAntennaOn : live.config.extAntennaOn = live.nvs.overrideBool false .extAntenna
  rtcSamples : live.config.rtcSamples =
    rtcCalClampSamples (live.nvs.overrideUint32 yaml.rtcCalSamples .rtcCalSamples)
  rtcPeriodSec : live.config.rtcPeriodSec =
    rtcCalClampPeriodSec (live.nvs.overrideUint32 yaml.rtcCalPeriodSec .rtcCalPerS)
  lp : live.lp = live.config.shadow
  extAntenna : live.extAntenna = live.config.extAntennaOn

theorem resumes_boot (yaml : DeviceYaml) (nvs : Nvs) : Resumes yaml (boot yaml nvs) :=
  ⟨rfl, rfl, rfl, rfl, rfl, rfl, rfl, rfl, rfl, rfl⟩

theorem conversion_merge {T S : Type} (convert : T → S) (slot : Slot T) (current : T) :
    convert (slot.merge current) = if slot.set then convert slot.value else convert current :=
  apply_ite convert _ _ _

theorem mergeShadow_resolved (resumes : Resumes yaml live) (snap : PendingCfg) :
    live.config.mergeShadow snap = bootLpConfig yaml (persistAll snap live.nvs) := by
  unfold bootLpConfig bootMaxSkipCycles bootMaxPublishGapSec
  rw [@overrideUint32_persisted snap live.nvs .maxPubGapS snap.maxPublishGapSec rfl,
    @overrideUint32_persisted snap live.nvs .htrPeriodMin snap.heaterPeriod rfl,
    @overrideUint32_persisted snap live.nvs .htrHiRhTrig snap.heaterHighRh rfl,
    @overrideUint32_persisted snap live.nvs .sensorSamples snap.sensorSamples rfl,
    @overrideFloat_persisted snap live.nvs .tempOffset snap.tempOffset rfl,
    @overrideFloat_persisted snap live.nvs .tempMinChange snap.tempMinChange rfl,
    @overrideFloat_persisted snap live.nvs .rhOffset snap.rhOffset rfl,
    @overrideFloat_persisted snap live.nvs .rhMinChange snap.rhMinChange rfl,
    conversion_merge (fun gap => Cadence.publishGapSecToSkipCycles gap yaml.lpPollIntervalSec),
    conversion_merge (fun minutes => Cadence.minutesToLpCycles minutes yaml.lpPollIntervalSec),
    conversion_merge (fun minutes => Cadence.minutesToLpCycles minutes yaml.lpPollIntervalSec)]
  unfold mergeShadow
  rw [resumes.shadow, resumes.poll]
  rfl

theorem resumes_applyPending (resumes : Resumes yaml live) : Resumes yaml live.applyPending := by
  unfold applyPending
  generalize live.config.settleAll = snap
  constructor
  · exact resumes.poll
  · exact mergeShadow_resolved resumes snap
  · show snap.maxPublishGapSec.merge live.config.maxPublishGapSec = _
    rw [resumes.maxPublishGapSec]
    exact (overrideUint32_persisted rfl _).symm
  · show snap.heaterPeriod.merge live.config.heaterPeriodMinutes = _
    rw [resumes.heaterPeriodMinutes]
    exact (overrideUint32_persisted rfl _).symm
  · show snap.heaterHighRh.merge live.config.heaterHighRhTriggerMinutes = _
    rw [resumes.heaterHighRhTriggerMinutes]
    exact (overrideUint32_persisted rfl _).symm
  · show snap.extAntenna.merge live.config.extAntennaOn = _
    rw [resumes.extAntennaOn]
    exact (overrideBool_persisted rfl _).symm
  · show (if snap.rtcCalSamples.set then rtcCalClampSamples snap.rtcCalSamples.value
      else live.config.rtcSamples) = _
    rw [resumes.rtcSamples, overrideUint32_persisted rfl]
    unfold Slot.merge
    split <;> rfl
  · show (if snap.rtcCalPeriodSec.set then rtcCalClampPeriodSec snap.rtcCalPeriodSec.value
      else live.config.rtcPeriodSec) = _
    rw [resumes.rtcPeriodSec, overrideUint32_persisted rfl]
    unfold Slot.merge
    split <;> rfl
  · show (if lpChanged snap then live.config.mergeShadow snap else live.lp) =
      live.config.mergeShadow snap
    cases changed : lpChanged snap with
    | true => rfl
    | false =>
      rw [mergeShadow_unchanged changed]
      exact resumes.lp
  · show (if snap.extAntenna.set then snap.extAntenna.value else live.extAntenna) =
      snap.extAntenna.merge live.config.extAntennaOn
    rw [resumes.extAntenna]
    rfl

theorem resumes_step (yaml : DeviceYaml) (live : LiveConfig) (event : Event) (next : LiveConfig)
    (resumes : Resumes yaml live) (same : SameYaml yaml event)
    (taken : step live event = some next) : Resumes yaml next := by
  cases event with
  | receive message =>
    cases Option.some.inj taken
    exact ⟨resumes.poll, resumes.shadow, resumes.maxPublishGapSec, resumes.heaterPeriodMinutes,
      resumes.heaterHighRhTriggerMinutes, resumes.extAntennaOn, resumes.rtcSamples,
      resumes.rtcPeriodSec, resumes.lp, resumes.extAntenna⟩
  | applyPending =>
    cases Option.some.inj taken
    exact resumes_applyPending resumes
  | reboot other =>
    cases Option.some.inj taken
    rw [show other = yaml from same]
    exact resumes_boot yaml live.nvs

theorem inEffect_boot (resumes : Resumes yaml live) :
    inEffect (boot yaml live.nvs) = inEffect live := by
  unfold inEffect
  rw [resumes.lp, resumes.extAntenna, resumes.shadow, resumes.maxPublishGapSec,
    resumes.heaterPeriodMinutes, resumes.heaterHighRhTriggerMinutes, resumes.extAntennaOn,
    resumes.rtcSamples, resumes.rtcPeriodSec]
  rfl

/-- Whatever was received, applied and rebooted before: a reboot changes nothing
that is in effect. -/
theorem inEffect_survives (yaml : DeviceYaml) (nvs : Nvs) (events : List Event)
    (final : LiveConfig) (same : ∀ event ∈ events, SameYaml yaml event)
    (ran : Runs.run step (boot yaml nvs) events = some final) :
    inEffect (boot yaml final.nvs) = inEffect final :=
  inEffect_boot (Runs.along_invariant (Resumes yaml) (resumes_step yaml) (resumes_boot yaml nvs)
    (Runs.along_of_forall same (boot yaml nvs)) ran)

/-- Two changes around a reboot, the second out of range. -/
def changedTwice : List Event :=
  [.receive (.tempOffset (.fin (-3 / 2))), .receive (.extAntenna true),
    .receive (.maxPublishGapSec 900), .applyPending, .reboot {},
    .receive (.rtcCalPeriodSec 4000), .receive (.heaterPeriod 30), .applyPending]

theorem inEffect_survives_changes :
    ∃ final, Runs.run step (boot {} Nvs.erased) changedTwice = some final ∧
      (inEffect final).rtcPeriodSec = 3600 ∧
      inEffect (boot {} final.nvs) = inEffect final := by
  obtain ⟨final, ran, clamped⟩ := Runs.exists_final
    (fun final : LiveConfig => decide ((inEffect final).rtcPeriodSec = 3600))
    (show (Runs.run step (boot {} Nvs.erased) changedTwice).any _ = true by decide +kernel)
  exact ⟨final, ran, of_decide_eq_true clamped,
    inEffect_survives {} Nvs.erased changedTwice final (by decide +kernel) ran⟩

end LiveConfig

end SleepySensor
