import SleepySensor.LiveConfig

/-!
# The ranges of what the LP core is configured with

The validation ranges of `runtime_config.h` against the three ways a value takes
to the LP core: `device_config.yaml` and NVS at a boot, a payload while it runs.
Only the last is clamped, and `std::clamp` hands a NaN through.
-/

set_option autoImplicit false

namespace SleepySensor.LiveConfig

open RuntimeConfig Runs

/-- `low <= value && value <= high`, which no NaN satisfies. -/
def FltWithin (value low high : Flt) : Prop := Flt.ge value low = true ∧ Flt.ge high value = true

instance (value low high : Flt) : Decidable (FltWithin value low high) := by
  unfold FltWithin
  infer_instance

def NatWithin (value low high : Nat) : Prop := low ≤ value ∧ value ≤ high

instance (value low high : Nat) : Decidable (NatWithin value low high) := by
  unfold NatWithin
  infer_instance

/-- `count` is what `convert` makes of a value up to `max`.  Anything but 0 takes
a division by the poll interval. -/
def ConvertedWithin (convert : Nat → Nat → Nat) (pollSec max value count : Nat) : Prop :=
  (value = 0 ∨ 0 < pollSec) ∧ ∃ inRange, inRange ≤ max ∧ convert inRange pollSec = count

/-- The configuration handed to the LP core is inside its declared ranges. -/
structure LpInRange (live : LiveConfig) : Prop where
  sensorSamples : NatWithin live.lp.sensorSamples sensorSamplesMin sensorSamplesMax
  tempOffsetC : FltWithin live.lp.tempOffsetC tempOffsetMin tempOffsetMax
  tempMinChangeC : FltWithin live.lp.tempMinChangeC tempMinChangeMin tempMinChangeMax
  rhOffsetPct : FltWithin live.lp.rhOffsetPct rhOffsetMin rhOffsetMax
  rhMinChangePct : FltWithin live.lp.rhMinChangePct rhMinChangeMin rhMinChangeMax
  maxSkipCycles : ConvertedWithin Cadence.publishGapSecToSkipCycles live.config.pollIntervalSec
    maxPublishGapSecMax live.config.maxPublishGapSec live.lp.maxSkipCycles
  heaterPeriodCycles : ConvertedWithin Cadence.minutesToLpCycles live.config.pollIntervalSec
    heaterPeriodMaxMinutes live.config.heaterPeriodMinutes live.lp.heaterPeriodCycles
  highRhTriggerCycles : ConvertedWithin Cadence.minutesToLpCycles live.config.pollIntervalSec
    heaterHighRhMaxMinutes live.config.heaterHighRhTriggerMinutes live.lp.highRhTriggerCycles

/-- The override, if there is one, satisfies `inRange`. -/
def OverrideFits {T : Type} (entry : Option T) (inRange : T → Prop) : Prop :=
  ∀ value, entry = some value → inRange value

/-- The YAML value satisfies `inRange`, unless it is overridden. -/
def DefaultFits {T : Type} (entry : Option T) (inRange : T → Prop) (yamlOrDefault : T) : Prop :=
  entry = none → inRange yamlOrDefault

theorem resolved_iff {T : Type} {entry : Option T} {inRange : T → Prop}
    (fits : OverrideFits entry inRange) (yamlOrDefault : T) :
    inRange (entry.getD yamlOrDefault) ↔ DefaultFits entry inRange yamlOrDefault := by
  cases entry with
  | none => exact ⟨fun met _ => met, fun met => met rfl⟩
  | some value => exact ⟨fun _ absent => (by cases absent), fun _ => fits value rfl⟩

/-- Every override that the LP core takes a value from is in range. -/
structure NvsInRange (nvs : Nvs) : Prop where
  sensorSamples : OverrideFits (nvs.getU32 .sensorSamples)
    (NatWithin · sensorSamplesMin sensorSamplesMax)
  tempOffset : OverrideFits (nvs.getFloatBlob .tempOffset)
    (FltWithin · tempOffsetMin tempOffsetMax)
  tempMinChange : OverrideFits (nvs.getFloatBlob .tempMinChange)
    (FltWithin · tempMinChangeMin tempMinChangeMax)
  rhOffset : OverrideFits (nvs.getFloatBlob .rhOffset) (FltWithin · rhOffsetMin rhOffsetMax)
  rhMinChange : OverrideFits (nvs.getFloatBlob .rhMinChange)
    (FltWithin · rhMinChangeMin rhMinChangeMax)
  maxPublishGapSec : OverrideFits (nvs.getU32 .maxPubGapS) (· ≤ maxPublishGapSecMax)
  heaterPeriod : OverrideFits (nvs.getU32 .htrPeriodMin) (· ≤ heaterPeriodMaxMinutes)
  heaterHighRh : OverrideFits (nvs.getU32 .htrHiRhTrig) (· ≤ heaterHighRhMaxMinutes)

/-- What a boot takes from `device_config.yaml` is in range, or converts like
something in range, and a poll interval of 0 comes with nothing to convert. -/
structure YamlFits (yaml : DeviceYaml) (nvs : Nvs) : Prop where
  sensorSamples : DefaultFits (nvs.getU32 .sensorSamples)
    (NatWithin · sensorSamplesMin sensorSamplesMax) yaml.sensorSamples
  tempOffset : DefaultFits (nvs.getFloatBlob .tempOffset)
    (FltWithin · tempOffsetMin tempOffsetMax) yaml.tempOffset
  tempMinChange : DefaultFits (nvs.getFloatBlob .tempMinChange)
    (FltWithin · tempMinChangeMin tempMinChangeMax) yaml.tempMinChange
  rhOffset : DefaultFits (nvs.getFloatBlob .rhOffset)
    (FltWithin · rhOffsetMin rhOffsetMax) yaml.rhOffset
  rhMinChange : DefaultFits (nvs.getFloatBlob .rhMinChange)
    (FltWithin · rhMinChangeMin rhMinChangeMax) yaml.rhMinChange
  maxPublishGapSec : DefaultFits (nvs.getU32 .maxPubGapS)
    (fun gap => ∃ inRange, inRange ≤ maxPublishGapSecMax ∧
      Cadence.publishGapSecToSkipCycles inRange yaml.lpPollIntervalSec =
        Cadence.publishGapSecToSkipCycles gap yaml.lpPollIntervalSec) yaml.maxPublishGapSec
  heaterPeriod : DefaultFits (nvs.getU32 .htrPeriodMin)
    (fun minutes => ∃ inRange, inRange ≤ heaterPeriodMaxMinutes ∧
      Cadence.minutesToLpCycles inRange yaml.lpPollIntervalSec =
        Cadence.minutesToLpCycles minutes yaml.lpPollIntervalSec) yaml.heaterPeriodMinutes
  heaterHighRh : DefaultFits (nvs.getU32 .htrHiRhTrig)
    (fun minutes => ∃ inRange, inRange ≤ heaterHighRhMaxMinutes ∧
      Cadence.minutesToLpCycles inRange yaml.lpPollIntervalSec =
        Cadence.minutesToLpCycles minutes yaml.lpPollIntervalSec) yaml.heaterHighRhTriggerMinutes
  polled : 0 < yaml.lpPollIntervalSec ∨
    bootMaxPublishGapSec yaml nvs = 0 ∧
    nvs.overrideUint32 yaml.heaterPeriodMinutes .htrPeriodMin = 0 ∧
    nvs.overrideUint32 yaml.heaterHighRhTriggerMinutes .htrHiRhTrig = 0

/-- What a pending slot is about to bring into effect meets `fits`. -/
def Pending {T : Type} (slot : Slot T) (fits : T → Prop) : Prop :=
  slot.set = true → fits slot.value

/-- None of the pending floats is a NaN, and nothing is to be converted with a
poll interval of 0. -/
structure PendingFits (config : RuntimeConfig) : Prop where
  tempOffset : Pending config.pending.tempOffset (· ≠ .nan)
  tempMinChange : Pending config.pending.tempMinChange (· ≠ .nan)
  rhOffset : Pending config.pending.rhOffset (· ≠ .nan)
  rhMinChange : Pending config.pending.rhMinChange (· ≠ .nan)
  maxPublishGapSec : Pending config.pending.maxPublishGapSec
    fun value => value = 0 ∨ 0 < config.pollIntervalSec
  heaterPeriod : Pending config.pending.heaterPeriod
    fun value => value = 0 ∨ 0 < config.pollIntervalSec
  heaterHighRh : Pending config.pending.heaterHighRh
    fun value => value = 0 ∨ 0 < config.pollIntervalSec

/-- The step takes over only what is in range or gets clamped into it. -/
def Fits (live : LiveConfig) : Event → Prop
  | .receive _ => True
  | .applyPending => PendingFits live.config
  | .reboot yaml => YamlFits yaml live.nvs

/-! ## The clamps -/

theorem ge_fin (a b : ℚ) : Flt.ge (.fin a) (.fin b) = decide (b ≤ a) := by
  have split : b ≤ a ↔ b < a ∨ a = b := by
    rw [le_iff_lt_or_eq, eq_comm]
  simp [Flt.ge, Flt.lt, Flt.ne, split]

/-- `std::clamp` brings everything but a NaN into the range. -/
theorem fltWithin_stdClamp (value : Flt) {low high : ℚ} (range : low ≤ high) :
    FltWithin (stdClamp value (.fin low) (.fin high)) (.fin low) (.fin high) ↔ value ≠ .nan := by
  have bottom : FltWithin (.fin low) (.fin low) (.fin high) := by
    simp [FltWithin, ge_fin, range]
  have top : FltWithin (.fin high) (.fin low) (.fin high) := by
    simp [FltWithin, ge_fin, range]
  cases value with
  | fin value =>
    simp only [stdClamp, CppCmp.lt, Flt.lt, decide_eq_true_eq, ne_eq, reduceCtorEq,
      not_false_eq_true, iff_true]
    split_ifs with below above
    · exact bottom
    · exact top
    · simp only [FltWithin, ge_fin, decide_eq_true_eq]
      exact ⟨le_of_not_gt below, le_of_not_gt above⟩
  | inf negative =>
    cases negative with
    | true => simpa [stdClamp, CppCmp.lt, Flt.lt] using bottom
    | false => simpa [stdClamp, CppCmp.lt, Flt.lt] using top
  | nan => simp [stdClamp, CppCmp.lt, Flt.lt, FltWithin, Flt.ge, Flt.ne]

theorem natWithin_stdClamp (value : Nat) {low high : Nat} (range : low ≤ high) :
    NatWithin (stdClamp value low high) low high := by
  simp only [NatWithin, stdClamp, CppCmp.lt, decide_eq_true_eq]
  split_ifs <;> omega

theorem stdClamp_eq_zero (value : Nat) {high : Nat} (positive : 0 < high) :
    stdClamp value 0 high = 0 ↔ value = 0 := by
  simp only [stdClamp, CppCmp.lt, decide_eq_true_eq]
  split_ifs <;> omega

theorem clampTempOffset_within (value : Flt) :
    FltWithin (clampTempOffset value) tempOffsetMin tempOffsetMax ↔ value ≠ .nan :=
  fltWithin_stdClamp value (by norm_num)

theorem clampTempMinChange_within (value : Flt) :
    FltWithin (clampTempMinChange value) tempMinChangeMin tempMinChangeMax ↔ value ≠ .nan :=
  fltWithin_stdClamp value (by norm_num)

theorem clampRhOffset_within (value : Flt) :
    FltWithin (clampRhOffset value) rhOffsetMin rhOffsetMax ↔ value ≠ .nan :=
  fltWithin_stdClamp value (by norm_num)

theorem clampRhMinChange_within (value : Flt) :
    FltWithin (clampRhMinChange value) rhMinChangeMin rhMinChangeMax ↔ value ≠ .nan :=
  fltWithin_stdClamp value (by norm_num)

theorem clampSensorSamples_within (value : Nat) :
    NatWithin (clampSensorSamples value) sensorSamplesMin sensorSamplesMax :=
  natWithin_stdClamp value (by decide)

/-! ## A change, field by field -/

section Field

variable {T : Type} [CppCmp T]

/-- What is in effect after a change is in range exactly if the clamp brought
what was received into it. -/
theorem merge_within {slot : Slot T} {clamp : T → T} {current : T} {inRange fits : T → Prop}
    (clamped : ∀ value, inRange (clamp value) ↔ fits value) (before : inRange current) :
    inRange ((slot.settle clamp current).merge current) ↔ Pending slot fits := by
  unfold Pending
  cases received : slot.set with
  | true =>
    rw [Slot.settle_merge slot clamp current received, clamped]
    exact ⟨fun met _ => met, fun met => met rfl⟩
  | false =>
    rw [Slot.settle_merge_unset slot clamp current received]
    exact ⟨fun _ absent => (by cases absent), fun _ => before⟩

theorem settled_value {slot : Slot T} {clamp : T → T} {current : T}
    (changed : (slot.settle clamp current).set = true) :
    slot.set = true ∧ (slot.settle clamp current).value = clamp slot.value := by
  unfold Slot.settle at changed ⊢
  cases received : slot.set with
  | true => exact ⟨rfl, rfl⟩
  | false =>
    rw [received, if_neg Bool.false_ne_true] at changed
    cases received.symm.trans changed

end Field

theorem convertedWithin_merge {convert : Nat → Nat → Nat} {slot : Slot Nat}
    {pollSec max current count : Nat} (positive : 0 < max)
    (before : ConvertedWithin convert pollSec max current count) :
    ConvertedWithin convert pollSec max
        ((slot.settle (stdClamp · 0 max) current).merge current)
        (if (slot.settle (stdClamp · 0 max) current).set then
          convert (slot.settle (stdClamp · 0 max) current).value pollSec else count) ↔
      Pending slot fun value => value = 0 ∨ 0 < pollSec := by
  have clamped : ∀ value, (stdClamp value 0 max = 0 ∨ 0 < pollSec) ↔ value = 0 ∨ 0 < pollSec :=
    fun value => or_congr_left (stdClamp_eq_zero value positive)
  have divides := @merge_within Nat _ slot (stdClamp · 0 max) current
    (fun value => value = 0 ∨ 0 < pollSec) _ clamped before.1
  have found : ∃ inRange, inRange ≤ max ∧ convert inRange pollSec =
      if (slot.settle (stdClamp · 0 max) current).set then
        convert (slot.settle (stdClamp · 0 max) current).value pollSec else count := by
    cases changed : (slot.settle (stdClamp · 0 max) current).set with
    | true =>
      rw [(settled_value changed).2]
      exact ⟨_, (natWithin_stdClamp slot.value (Nat.zero_le max)).2, rfl⟩
    | false => exact before.2
  exact ⟨fun met => divides.mp met.1, fun met => ⟨divides.mpr met, found⟩⟩

/-! ## What a boot and a change hand to the LP core -/

variable {live : LiveConfig}

theorem lpInRange_boot {nvs : Nvs} (sound : NvsInRange nvs) (yaml : DeviceYaml) :
    LpInRange (boot yaml nvs) ↔ YamlFits yaml nvs := by
  have samples := resolved_iff sound.sensorSamples yaml.sensorSamples
  have tempOffset := resolved_iff sound.tempOffset yaml.tempOffset
  have tempMinChange := resolved_iff sound.tempMinChange yaml.tempMinChange
  have rhOffset := resolved_iff sound.rhOffset yaml.rhOffset
  have rhMinChange := resolved_iff sound.rhMinChange yaml.rhMinChange
  have alike : ∀ (convert : Nat → Nat → Nat) (max : Nat) (entry : Option Nat) (default_ : Nat),
      OverrideFits entry (· ≤ max) →
      ((∃ inRange, inRange ≤ max ∧ convert inRange yaml.lpPollIntervalSec =
          convert (entry.getD default_) yaml.lpPollIntervalSec) ↔
        DefaultFits entry (fun value => ∃ inRange, inRange ≤ max ∧
          convert inRange yaml.lpPollIntervalSec = convert value yaml.lpPollIntervalSec)
          default_) := by
    intro convert max entry default_ fits
    have weaker : OverrideFits entry (fun value => ∃ inRange, inRange ≤ max ∧
        convert inRange yaml.lpPollIntervalSec = convert value yaml.lpPollIntervalSec) :=
      fun value present => ⟨value, fits value present, rfl⟩
    exact resolved_iff weaker default_
  have gap := alike Cadence.publishGapSecToSkipCycles _ _ yaml.maxPublishGapSec
    sound.maxPublishGapSec
  have period := alike Cadence.minutesToLpCycles _ _ yaml.heaterPeriodMinutes sound.heaterPeriod
  have highRh := alike Cadence.minutesToLpCycles _ _ yaml.heaterHighRhTriggerMinutes
    sound.heaterHighRh
  constructor
  · intro inRange
    refine ⟨samples.mp inRange.sensorSamples, tempOffset.mp inRange.tempOffsetC,
      tempMinChange.mp inRange.tempMinChangeC, rhOffset.mp inRange.rhOffsetPct,
      rhMinChange.mp inRange.rhMinChangePct, gap.mp inRange.maxSkipCycles.2,
      period.mp inRange.heaterPeriodCycles.2, highRh.mp inRange.highRhTriggerCycles.2, ?_⟩
    rcases Nat.eq_zero_or_pos yaml.lpPollIntervalSec with none | positive
    · have stopped : ¬ 0 < yaml.lpPollIntervalSec := by omega
      exact Or.inr ⟨inRange.maxSkipCycles.1.resolve_right stopped,
        inRange.heaterPeriodCycles.1.resolve_right stopped,
        inRange.highRhTriggerCycles.1.resolve_right stopped⟩
    · exact Or.inl positive
  · intro fits
    have divides : ∀ value, (0 < yaml.lpPollIntervalSec ∨ value = 0) →
        value = 0 ∨ 0 < yaml.lpPollIntervalSec := fun _ => Or.symm
    exact ⟨samples.mpr fits.sensorSamples, tempOffset.mpr fits.tempOffset,
      tempMinChange.mpr fits.tempMinChange, rhOffset.mpr fits.rhOffset,
      rhMinChange.mpr fits.rhMinChange,
      ⟨divides _ (fits.polled.imp_right (·.1)), gap.mpr fits.maxPublishGapSec⟩,
      ⟨divides _ (fits.polled.imp_right (·.2.1)), period.mpr fits.heaterPeriod⟩,
      ⟨divides _ (fits.polled.imp_right (·.2.2)), highRh.mpr fits.heaterHighRh⟩⟩

theorem applyPending_lp (seeded : live.lp = live.config.shadow) :
    live.applyPending.lp = live.config.mergeShadow live.config.settleAll := by
  unfold applyPending
  cases changed : lpChanged live.config.settleAll with
  | true => simp [changed]
  | false => simp [changed, mergeShadow_unchanged changed, seeded]

theorem lpInRange_applyPending (seeded : live.lp = live.config.shadow)
    (before : LpInRange live) : LpInRange live.applyPending ↔ PendingFits live.config := by
  have handed := applyPending_lp seeded
  obtain ⟨nvs, config, lp, antenna⟩ := live
  obtain rfl : lp = config.shadow := seeded
  have samples := @merge_within Nat _ config.pending.sensorSamples clampSensorSamples
    config.shadow.sensorSamples (NatWithin · sensorSamplesMin sensorSamplesMax) (fun _ => True)
    (fun value => iff_true_intro (clampSensorSamples_within value)) before.sensorSamples
  have tempOffset := @merge_within Flt _ config.pending.tempOffset clampTempOffset
    config.shadow.tempOffsetC (FltWithin · tempOffsetMin tempOffsetMax) _
    clampTempOffset_within before.tempOffsetC
  have tempMinChange := @merge_within Flt _ config.pending.tempMinChange clampTempMinChange
    config.shadow.tempMinChangeC (FltWithin · tempMinChangeMin tempMinChangeMax) _
    clampTempMinChange_within before.tempMinChangeC
  have rhOffset := @merge_within Flt _ config.pending.rhOffset clampRhOffset
    config.shadow.rhOffsetPct (FltWithin · rhOffsetMin rhOffsetMax) _
    clampRhOffset_within before.rhOffsetPct
  have rhMinChange := @merge_within Flt _ config.pending.rhMinChange clampRhMinChange
    config.shadow.rhMinChangePct (FltWithin · rhMinChangeMin rhMinChangeMax) _
    clampRhMinChange_within before.rhMinChangePct
  have gap := @convertedWithin_merge _ config.pending.maxPublishGapSec _ _ _ _
    (by decide) before.maxSkipCycles
  have period := @convertedWithin_merge _ config.pending.heaterPeriod _ _ _ _
    (by decide) before.heaterPeriodCycles
  have highRh := @convertedWithin_merge _ config.pending.heaterHighRh _ _ _ _
    (by decide) before.highRhTriggerCycles
  constructor
  · intro after
    obtain ⟨_, one, two, three, four, skip, cycles, trigger⟩ := after
    rw [handed] at one two three four skip cycles trigger
    exact ⟨tempOffset.mp one, tempMinChange.mp two, rhOffset.mp three, rhMinChange.mp four,
      gap.mp skip, period.mp cycles, highRh.mp trigger⟩
  · intro fits
    constructor <;> rw [handed]
    · exact samples.mpr fun _ => trivial
    · exact tempOffset.mpr fits.tempOffset
    · exact tempMinChange.mpr fits.tempMinChange
    · exact rhOffset.mpr fits.rhOffset
    · exact rhMinChange.mpr fits.rhMinChange
    · exact gap.mpr fits.maxPublishGapSec
    · exact period.mpr fits.heaterPeriod
    · exact highRh.mpr fits.heaterHighRh

/-! ## What is persisted is in range -/

theorem getU32_persisted {snap : PendingCfg} {nvs : Nvs} {key : NvsKey} {slot : Slot Nat}
    (entry : stored snap key = if slot.set then some (.u32 slot.value) else none) :
    (persistAll snap nvs).getU32 key = if slot.set then some slot.value else nvs.getU32 key := by
  unfold Nvs.getU32
  rw [persistAll_eq, entry]
  cases slot.set <;> rfl

theorem getFloatBlob_persisted {snap : PendingCfg} {nvs : Nvs} {key : NvsKey} {slot : Slot Flt}
    (entry : stored snap key = if slot.set then some (.floatBlob slot.value) else none) :
    (persistAll snap nvs).getFloatBlob key =
      if slot.set then some slot.value else nvs.getFloatBlob key := by
  unfold Nvs.getFloatBlob
  rw [persistAll_eq, entry]
  cases slot.set <;> rfl

theorem overrideFits_settled {T : Type} [CppCmp T] {slot : Slot T} {clamp : T → T} {current : T}
    {entry : Option T} {inRange fits : T → Prop}
    (clamped : ∀ value, fits value → inRange (clamp value)) (pending : Pending slot fits)
    (before : OverrideFits entry inRange) :
    OverrideFits (if (slot.settle clamp current).set then
      some (slot.settle clamp current).value else entry) inRange := by
  cases changed : (slot.settle clamp current).set with
  | true =>
    obtain ⟨received, value⟩ := settled_value changed
    intro stored present
    cases Option.some.inj present
    rw [value]
    exact clamped _ (pending received)
  | false => exact before

theorem nvsInRange_persisted {config : RuntimeConfig} {nvs : Nvs} (before : NvsInRange nvs)
    (fits : PendingFits config) : NvsInRange (persistAll config.settleAll nvs) := by
  have always : ∀ {T : Type} (slot : Slot T), Pending slot fun _ => True := fun _ _ => trivial
  constructor
  · rw [@getU32_persisted config.settleAll nvs .sensorSamples config.settleAll.sensorSamples rfl]
    exact overrideFits_settled (fun value _ => clampSensorSamples_within value) (always _)
      before.sensorSamples
  · rw [@getFloatBlob_persisted config.settleAll nvs .tempOffset config.settleAll.tempOffset rfl]
    exact overrideFits_settled (fun value => (clampTempOffset_within value).mpr)
      fits.tempOffset before.tempOffset
  · rw [@getFloatBlob_persisted config.settleAll nvs .tempMinChange
      config.settleAll.tempMinChange rfl]
    exact overrideFits_settled (fun value => (clampTempMinChange_within value).mpr)
      fits.tempMinChange before.tempMinChange
  · rw [@getFloatBlob_persisted config.settleAll nvs .rhOffset config.settleAll.rhOffset rfl]
    exact overrideFits_settled (fun value => (clampRhOffset_within value).mpr)
      fits.rhOffset before.rhOffset
  · rw [@getFloatBlob_persisted config.settleAll nvs .rhMinChange
      config.settleAll.rhMinChange rfl]
    exact overrideFits_settled (fun value => (clampRhMinChange_within value).mpr)
      fits.rhMinChange before.rhMinChange
  · rw [@getU32_persisted config.settleAll nvs .maxPubGapS config.settleAll.maxPublishGapSec rfl]
    exact overrideFits_settled (fun value _ => (natWithin_stdClamp value (by decide)).2)
      (always _) before.maxPublishGapSec
  · rw [@getU32_persisted config.settleAll nvs .htrPeriodMin config.settleAll.heaterPeriod rfl]
    exact overrideFits_settled (fun value _ => (natWithin_stdClamp value (by decide)).2)
      (always _) before.heaterPeriod
  · rw [@getU32_persisted config.settleAll nvs .htrHiRhTrig config.settleAll.heaterHighRh rfl]
    exact overrideFits_settled (fun value _ => (natWithin_stdClamp value (by decide)).2)
      (always _) before.heaterHighRh

/-! ## Runs -/

structure RangeInv (live : LiveConfig) : Prop where
  seeded : live.lp = live.config.shadow
  inRange : LpInRange live
  nvs : NvsInRange live.nvs

theorem nvsInRange_erased : NvsInRange Nvs.erased := by
  constructor <;> exact fun _ present => by cases present

theorem rangeInv_boot {nvs : Nvs} {yaml : DeviceYaml} (sound : NvsInRange nvs)
    (fits : YamlFits yaml nvs) : RangeInv (boot yaml nvs) :=
  ⟨rfl, (lpInRange_boot sound yaml).mpr fits, sound⟩

theorem rangeInv_step (live : LiveConfig) (event : Event) (next : LiveConfig)
    (inv : RangeInv live) (fits : Fits live event) (taken : step live event = some next) :
    RangeInv next := by
  obtain ⟨seeded, inRange, sound⟩ := inv
  cases event with
  | receive message =>
    cases Option.some.inj taken
    exact ⟨seeded, ⟨inRange.sensorSamples, inRange.tempOffsetC, inRange.tempMinChangeC,
      inRange.rhOffsetPct, inRange.rhMinChangePct, inRange.maxSkipCycles,
      inRange.heaterPeriodCycles, inRange.highRhTriggerCycles⟩, sound⟩
  | applyPending =>
    cases Option.some.inj taken
    exact ⟨applyPending_lp seeded, (lpInRange_applyPending seeded inRange).mpr fits,
      nvsInRange_persisted sound fits⟩
  | reboot yaml =>
    cases Option.some.inj taken
    exact rangeInv_boot sound fits

/-- What the step hands over, if anything, is in range. -/
def HandsInRange (live : LiveConfig) (event : Event) : Prop :=
  ∀ next, step live event = some next → LpInRange next

theorem handsInRange_iff (live : LiveConfig) (event : Event) (inv : RangeInv live) :
    HandsInRange live event ↔ Fits live event := by
  obtain ⟨seeded, inRange, sound⟩ := inv
  cases event with
  | receive message =>
    refine iff_of_true (fun next taken => ?_) trivial
    cases Option.some.inj taken
    exact ⟨inRange.sensorSamples, inRange.tempOffsetC, inRange.tempMinChangeC,
      inRange.rhOffsetPct, inRange.rhMinChangePct, inRange.maxSkipCycles,
      inRange.heaterPeriodCycles, inRange.highRhTriggerCycles⟩
  | applyPending =>
    simp only [HandsInRange, step, Option.some.injEq, forall_eq']
    exact lpInRange_applyPending seeded inRange
  | reboot yaml =>
    simp only [HandsInRange, step, Option.some.injEq, forall_eq']
    exact lpInRange_boot sound yaml

/-- From the first boot on, whatever is received and whatever builds are
rebooted into: everything handed to the LP core is in range exactly if no boot
takes an unfit value from its YAML and no change brings a NaN. -/
theorem lpInRange_run_iff (yaml : DeviceYaml) (events : List Event) :
    (LpInRange (boot yaml Nvs.erased) ∧ Along step HandsInRange (boot yaml Nvs.erased) events) ↔
      YamlFits yaml Nvs.erased ∧ Along step Fits (boot yaml Nvs.erased) events := by
  rw [lpInRange_boot nvsInRange_erased]
  refine and_congr_right fun fits => ?_
  exact along_iff RangeInv rangeInv_step handsInRange_iff
    (rangeInv_boot nvsInRange_erased fits) events

/-- A build with no samples to average, and a NaN that a payload leaves in NVS
for the next boot. -/
theorem lp_out_of_range :
    ¬ LpInRange (boot { sensorSamples := 0 } Nvs.erased) ∧
    ∃ final, run step (boot {} Nvs.erased)
        [.receive (.tempOffset .nan), .applyPending, .reboot {}] = some final ∧
      final.lp.tempOffsetC = .nan ∧ ¬ LpInRange final := by
  refine ⟨fun inRange => absurd inRange.sensorSamples (by decide), ?_⟩
  obtain ⟨final, ran, reached⟩ := exists_final
    (fun final : LiveConfig => decide (final.lp.tempOffsetC = .nan))
    (show (run step (boot {} Nvs.erased)
        [.receive (.tempOffset .nan), .applyPending, .reboot {}]).any _ = true by decide +kernel)
  have nan : final.lp.tempOffsetC = .nan := of_decide_eq_true reached
  refine ⟨final, ran, nan, fun inRange => ?_⟩
  have within := inRange.tempOffsetC
  rw [nan] at within
  exact absurd within (by decide)

end SleepySensor.LiveConfig
