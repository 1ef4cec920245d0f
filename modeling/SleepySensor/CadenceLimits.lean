import SleepySensor.HpInvariant
import SleepySensor.Lib.History

/-!
# The limits derived from the publish cadence

The skip budget is in LP shared memory, in `runtime_config.cpp`'s shadow and in
the settings of the sensor task; `expire_after` of the discovery messages was
derived from it too.  `app_main` fills them all, a live `max_publish_gap_sec`
changes the first two.
-/

set_option autoImplicit false

namespace SleepySensor.CadenceLimits

open HpSystem SleepySensor.Cadence

structure Limits where
  /-- `max_skip_cycles` in LP shared memory. -/
  lpMaxSkip : Nat
  /-- `SensorsTaskSettings::maxSkipCycles`. -/
  maxSkipCycles : Nat
  /-- `MqttConfig::expire_after_sec`. -/
  expireAfterSec : Nat
  deriving DecidableEq, Repr

/-- `app_main` with `lp_sensor_core_init`. -/
def bootLimits (yaml : DeviceYaml) (nvs : Nvs) : Limits :=
  { lpMaxSkip := (RuntimeConfig.bootLpConfig yaml nvs).maxSkipCycles
    maxSkipCycles := RuntimeConfig.bootMaxSkipCycles yaml nvs
    expireAfterSec :=
      Cadence.expireAfterSec yaml.lpPollIntervalSec (RuntimeConfig.bootMaxSkipCycles yaml nvs) }

abbrev Observed := HpSystem × Limits

def merging (system : HpSystem) : Option PendingCfg :=
  system.mqtt.pub.bind fun pub =>
    match pub.pc with
    | .merging snap => some snap
    | _ => none

/-- `lp_sensor_core_apply_config(&s_shadow)`, if any field of it has changed. -/
def applyConfig (config : RuntimeConfig) (snap : PendingCfg) (limits : Limits) : Limits :=
  if RuntimeConfig.lpChanged snap then
    { limits with lpMaxSkip := (config.mergeShadow snap).maxSkipCycles }
  else limits

def record (env : HpEnv) (system : HpSystem) (action : HpAction) (limits : Limits) : Limits :=
  match action with
  | .pub .merge =>
    match merging system with
    | some snap => applyConfig system.config snap limits
    | none => limits
  | .reset _ => bootLimits env.yaml system.nvs
  | _ => limits

def start (env : HpEnv) (nvs : Nvs) (cyclesStarted : Nat) (pendingVerify : Bool) : Observed :=
  (boot env nvs cyclesStarted pendingVerify, bootLimits env.yaml nvs)

def step (env : HpEnv) : Observed → HpAction → Option Observed :=
  Runs.observe (HpSystem.step env) (record env)

/-- The wait for LP's wake is two polls longer than the interval at which the LP
core forces a publish, and `expire_after` is twice as long as that wait should be. -/
def Covered (pollSec : Nat) (limits : Limits) : Prop :=
  configTickRateHz * ((limits.lpMaxSkip + 1) * pollSec + 2 * pollSec) ≤
      waitTicks false pollSec limits.maxSkipCycles ∧
    2 * ((limits.lpMaxSkip + 3) * pollSec) ≤ limits.expireAfterSec

instance (pollSec : Nat) (limits : Limits) : Decidable (Covered pollSec limits) := by
  unfold Covered
  infer_instance

def CoveredAfter (env : HpEnv) (state : Observed) (action : HpAction) : Prop :=
  Covered env.yaml.lpPollIntervalSec (record env state.1 action state.2)

instance (env : HpEnv) (state : Observed) (action : HpAction) :
    Decidable (CoveredAfter env state action) := by
  unfold CoveredAfter
  infer_instance

/-- The safeguard window of a boot fits a 32-bit count of microseconds. -/
def WindowFits (yaml : DeviceYaml) (nvs : Nvs) : Prop :=
  (RuntimeConfig.bootMaxSkipCycles yaml nvs + 3) * yaml.lpPollIntervalSec ≤ 4294

/-- A boot has a window that fits, and a live change does not raise the skip
budget above the one of the boot. -/
def NotRaised (env : HpEnv) (state : Observed) : HpAction → Prop
  | .pub .merge =>
    ∀ snap ∈ merging state.1, snap.maxPublishGapSec.set = true →
      publishGapSecToSkipCycles snap.maxPublishGapSec.value env.yaml.lpPollIntervalSec ≤
        state.2.maxSkipCycles
  | .reset _ => WindowFits env.yaml state.1.nvs
  | _ => True

/-! ## The arithmetic -/

theorem waitTicks_exact {pollSec maxSkip : Nat} (fits : (maxSkip + 3) * pollSec ≤ 4294) :
    waitTicks false pollSec maxSkip = configTickRateHz * ((maxSkip + 3) * pollSec) := by
  unfold waitTicks waitSec safeguardWakeSec waitForWakeTicks pdMsToTicks configTickRateHz
  rw [if_neg (by decide)]
  rcases Nat.eq_zero_or_pos pollSec with rfl | positive
  · simp [u32]
  have small : maxSkip + 3 ≤ (maxSkip + 3) * pollSec := Nat.le_mul_of_pos_right _ positive
  have budget : u32 (maxSkip + 3) = maxSkip + 3 := u32_of_lt (by unfold u32Mod; omega)
  rw [budget]
  generalize (maxSkip + 3) * pollSec = seconds at fits
  have inSeconds : u32 seconds = seconds := u32_of_lt (by unfold u32Mod; omega)
  have inMs : u32 (seconds * 1000) = seconds * 1000 := u32_of_lt (by unfold u32Mod; omega)
  have inTicks : u32 (seconds * 1000 * 1000) = seconds * 1000 * 1000 :=
    u32_of_lt (by unfold u32Mod; omega)
  rw [inSeconds, inMs, inTicks]
  omega

theorem waitTicks_le (pollSec maxSkip : Nat) : waitTicks false pollSec maxSkip ≤ 4294967 := by
  unfold waitTicks waitForWakeTicks pdMsToTicks u32 u32Mod
  omega

theorem expireAfterSec_exact {pollSec maxSkip : Nat} (fits : (maxSkip + 3) * pollSec ≤ 4294) :
    Cadence.expireAfterSec pollSec maxSkip = 2 * ((maxSkip + 3) * pollSec) := by
  unfold Cadence.expireAfterSec safeguardWakeSec
  rcases Nat.eq_zero_or_pos pollSec with rfl | positive
  · simp [u32]
  have small : maxSkip + 3 ≤ (maxSkip + 3) * pollSec := Nat.le_mul_of_pos_right _ positive
  have budget : u32 (maxSkip + 3) = maxSkip + 3 := u32_of_lt (by unfold u32Mod; omega)
  rw [budget]
  generalize (maxSkip + 3) * pollSec = seconds at fits
  rw [u32_of_lt (show seconds < u32Mod by unfold u32Mod; omega)]
  exact u32_of_lt (by unfold u32Mod; omega)

theorem forced_eq (maxSkip pollSec : Nat) :
    (maxSkip + 1) * pollSec + 2 * pollSec = (maxSkip + 3) * pollSec := by ring

/-- With a window that fits, the limits cover what the LP core works with while
its budget is not above the one they were derived from. -/
theorem covered_iff {pollSec : Nat} (limits : Limits)
    (fits : (limits.maxSkipCycles + 3) * pollSec ≤ 4294)
    (expire : limits.expireAfterSec = Cadence.expireAfterSec pollSec limits.maxSkipCycles) :
    Covered pollSec limits ↔
      (limits.lpMaxSkip + 3) * pollSec ≤ (limits.maxSkipCycles + 3) * pollSec := by
  unfold Covered
  rw [forced_eq, expire, waitTicks_exact fits, expireAfterSec_exact fits]
  unfold configTickRateHz
  omega

/-- A window that does not fit does not even cover the budget it was derived from. -/
theorem covered_boot_iff (yaml : DeviceYaml) (nvs : Nvs) :
    Covered yaml.lpPollIntervalSec (bootLimits yaml nvs) ↔ WindowFits yaml nvs := by
  by_cases fits : WindowFits yaml nvs
  · exact iff_of_true ((covered_iff _ fits rfl).mpr le_rfl) fits
  · refine iff_of_false ?_ fits
    rintro ⟨waited, -⟩
    have short := waitTicks_le yaml.lpPollIntervalSec (bootLimits yaml nvs).maxSkipCycles
    unfold WindowFits at fits
    have same : (bootLimits yaml nvs).lpMaxSkip = RuntimeConfig.bootMaxSkipCycles yaml nvs := rfl
    rw [forced_eq, same] at waited
    unfold configTickRateHz at waited
    omega

theorem publishGapSecToSkipCycles_zero (gapSec : Nat) :
    publishGapSecToSkipCycles gapSec 0 = 0 := by
  unfold publishGapSecToSkipCycles
  split
  · rfl
  · rw [Nat.div_zero]

/-! ## What a step does to the limits -/

variable {env : HpEnv} {system next : HpSystem} {pub : Pub} {limits : Limits}

/-- The part of `runtime_config.cpp`'s state that the skip budget is derived from. -/
structure SameCadence (system next : HpSystem) : Prop where
  shadow : next.config.shadow = system.config.shadow
  pollIntervalSec : next.config.pollIntervalSec = system.config.pollIntervalSec

theorem sensor_sameCadence {event : SensorEvent} (move : SensorMove env system event next) :
    SameCadence system next := by
  cases move with
  | deliver nowUs stateRead marked at_ =>
    obtain ⟨log, checked, pending, same⟩ := system.deliver_eq nowUs stateRead marked
    rw [same]
    exact ⟨rfl, rfl⟩
  | _ => exact ⟨rfl, rfl⟩

theorem pub_sameCadence {event : PubEvent} (taken : PubCase env system pub event next)
    (notMerge : event ≠ .merge) : SameCadence system next := by
  cases taken with
  | merge at_ => exact (notMerge rfl).elim
  | decide clientOk at_ =>
    unfold startPersistentClient
    split
    · exact ⟨rfl, rfl⟩
    · split <;> exact ⟨rfl, rfl⟩
  | ackWait at_ =>
    unfold ackWait
    dsimp only
    split <;> exact ⟨rfl, rfl⟩
  | replay nowUs at_ =>
    obtain ⟨log, pc, same, -⟩ := system.replay_eq pub _ nowUs
    rw [same]
    exact ⟨rfl, rfl⟩
  | backfillWait at_ =>
    unfold backfillWait
    split <;> exact ⟨rfl, rfl⟩
  | otaGate groupCreated at_ =>
    obtain ⟨ota, pc, same, -⟩ := system.otaGate_eq env pub groupCreated
    rw [same]
    exact ⟨rfl, rfl⟩
  | _ => exact ⟨rfl, rfl⟩

structure Inv (env : HpEnv) (system : HpSystem) (limits : Limits) : Prop where
  pollIntervalSec : system.config.pollIntervalSec = env.yaml.lpPollIntervalSec
  shadow : system.config.shadow.maxSkipCycles = limits.lpMaxSkip
  fits : (limits.maxSkipCycles + 3) * env.yaml.lpPollIntervalSec ≤ 4294
  expire : limits.expireAfterSec =
    Cadence.expireAfterSec env.yaml.lpPollIntervalSec limits.maxSkipCycles
  budget : limits.lpMaxSkip ≤ limits.maxSkipCycles

theorem inv_boot (nvs : Nvs) (cyclesStarted : Nat) (pendingVerify : Bool)
    (fits : WindowFits env.yaml nvs) :
    Inv env (boot env nvs cyclesStarted pendingVerify) (bootLimits env.yaml nvs) :=
  ⟨rfl, rfl, fits, rfl, le_rfl⟩

theorem Inv.covered (inv : Inv env system limits) :
    Covered env.yaml.lpPollIntervalSec limits :=
  (covered_iff _ inv.fits inv.expire).mpr
    (Nat.mul_le_mul_right _ (Nat.add_le_add_right inv.budget 3))

theorem Inv.frame (inv : Inv env system limits) (same : SameCadence system next) :
    Inv env next limits := by
  refine ⟨?_, ?_, inv.fits, inv.expire, inv.budget⟩
  · rw [same.pollIntervalSec]
    exact inv.pollIntervalSec
  · rw [same.shadow]
    exact inv.shadow

theorem applyConfig_lpMaxSkip (inv : Inv env system limits) (snap : PendingCfg) :
    (applyConfig system.config snap limits).lpMaxSkip =
        (system.config.mergeShadow snap).maxSkipCycles ∧
      (system.config.mergeShadow snap).maxSkipCycles =
        if snap.maxPublishGapSec.set then
          publishGapSecToSkipCycles snap.maxPublishGapSec.value env.yaml.lpPollIntervalSec
        else limits.lpMaxSkip := by
  have merged : (system.config.mergeShadow snap).maxSkipCycles =
      if snap.maxPublishGapSec.set then
        publishGapSecToSkipCycles snap.maxPublishGapSec.value env.yaml.lpPollIntervalSec
      else limits.lpMaxSkip := by
    unfold RuntimeConfig.mergeShadow
    dsimp only
    rw [inv.pollIntervalSec, inv.shadow]
  refine ⟨?_, merged⟩
  unfold applyConfig
  split
  · rfl
  · rename_i unchanged
    have quiet : snap.maxPublishGapSec.set = false := by
      unfold RuntimeConfig.lpChanged at unchanged
      simp only [Bool.or_eq_true, not_or, Bool.not_eq_true] at unchanged
      exact unchanged.1.1.2
    rw [merged, quiet]
    rfl

theorem applyConfig_derived (config : RuntimeConfig) (snap : PendingCfg) (limits : Limits) :
    (applyConfig config snap limits).maxSkipCycles = limits.maxSkipCycles ∧
      (applyConfig config snap limits).expireAfterSec = limits.expireAfterSec := by
  unfold applyConfig
  split <;> exact ⟨rfl, rfl⟩

theorem inv_merge {snap : PendingCfg} (inv : Inv env system limits)
    (budget : (applyConfig system.config snap limits).lpMaxSkip ≤ limits.maxSkipCycles) :
    Inv env (system.merge pub snap) (applyConfig system.config snap limits) := by
  obtain ⟨maxSkip, expire⟩ := applyConfig_derived system.config snap limits
  refine ⟨inv.pollIntervalSec, (applyConfig_lpMaxSkip inv snap).1.symm, ?_, ?_, ?_⟩
  · rw [maxSkip]
    exact inv.fits
  · rw [expire, maxSkip]
    exact inv.expire
  · rw [maxSkip]
    exact budget

theorem merge_covered_iff (inv : Inv env system limits) (snap : PendingCfg) :
    Covered env.yaml.lpPollIntervalSec (applyConfig system.config snap limits) ↔
      (applyConfig system.config snap limits).lpMaxSkip ≤ limits.maxSkipCycles := by
  obtain ⟨maxSkip, expire⟩ := applyConfig_derived system.config snap limits
  obtain ⟨applied, merged⟩ := applyConfig_lpMaxSkip inv snap
  have agree := covered_iff (applyConfig system.config snap limits)
    (by rw [maxSkip]; exact inv.fits) (by rw [expire, maxSkip]; exact inv.expire)
  rw [agree, maxSkip]
  rcases Nat.eq_zero_or_pos env.yaml.lpPollIntervalSec with zero | positive
  · apply iff_of_true (by rw [zero]; exact le_rfl)
    rw [applied, merged, zero, publishGapSecToSkipCycles_zero]
    split
    · exact Nat.zero_le _
    · exact inv.budget
  · rw [Nat.mul_le_mul_right_iff positive]
    exact Nat.add_le_add_iff_right

theorem notRaised_merge_iff (inv : Inv env system limits) (snap : PendingCfg) :
    (applyConfig system.config snap limits).lpMaxSkip ≤ limits.maxSkipCycles ↔
      (snap.maxPublishGapSec.set = true →
        publishGapSecToSkipCycles snap.maxPublishGapSec.value env.yaml.lpPollIntervalSec ≤
          limits.maxSkipCycles) := by
  obtain ⟨applied, merged⟩ := applyConfig_lpMaxSkip inv snap
  rw [applied, merged]
  cases snap.maxPublishGapSec.set with
  | true => simp
  | false => exact iff_of_true inv.budget fun absurd => by cases absurd

theorem coveredAfter_iff (state : Observed) (action : HpAction)
    (inv : Inv env state.1 state.2) :
    CoveredAfter env state action ↔ NotRaised env state action := by
  obtain ⟨system, limits⟩ := state
  have kept : Covered env.yaml.lpPollIntervalSec limits := inv.covered
  cases action with
  | pub event =>
    cases event with
    | merge =>
      unfold CoveredAfter record NotRaised
      dsimp only
      cases merging system with
      | none => exact iff_of_true kept fun snap absurd => by cases absurd
      | some snap =>
        dsimp only
        rw [merge_covered_iff inv, notRaised_merge_iff inv]
        simp only [Option.mem_some_iff, forall_eq']
    | _ => exact iff_of_true kept trivial
  | reset pendingVerify => exact covered_boot_iff env.yaml system.nvs
  | _ => exact iff_of_true kept trivial

theorem inv_pub {event : PubEvent} (inv : Inv env system limits)
    (met : NotRaised env (system, limits) (.pub event)) (running : system.mqtt.pub = some pub)
    (taken : PubCase env system pub event next) :
    Inv env next (record env system (.pub event) limits) := by
  by_cases isMerge : event = .merge
  · subst isMerge
    cases taken with
    | @merge snap at_ =>
      have found : merging system = some snap := by
        simp [merging, running, at_]
      have recorded : record env system (.pub .merge) limits =
          applyConfig system.config snap limits := by
        simp [record, found]
      rw [recorded]
      exact inv_merge inv ((notRaised_merge_iff inv snap).mpr (met snap found))
  · have recorded : record env system (.pub event) limits = limits := by
      cases event with
      | merge => exact (isMerge rfl).elim
      | _ => rfl
    rw [recorded]
    exact inv.frame (pub_sameCadence taken isMerge)

theorem inv_step (state : Observed) (action : HpAction) (after : Observed)
    (inv : Inv env state.1 state.2) (met : NotRaised env state action)
    (taken : step env state action = some after) : Inv env after.1 after.2 := by
  obtain ⟨stepped, recorded⟩ := Runs.observe_step taken
  rw [recorded]
  obtain ⟨system, limits⟩ := state
  obtain ⟨next, _⟩ := after
  cases action with
  | sensor event => exact inv.frame (sensor_sameCadence (sensorStep_move stepped))
  | pub event =>
    simp only [HpSystem.step] at stepped
    split at stepped
    case h_1 pub running => exact inv_pub inv met running (pubStep_case stepped)
    case h_2 => cases stepped
  | client event =>
    cases step_move stepped with
    | client move =>
      cases move with
      | quiet frame states noAck => exact inv.frame ⟨frame.shadow, frame.pollIntervalSec⟩
      | acked frame acked kept => exact inv.frame ⟨frame.shadow, frame.pollIntervalSec⟩
  | tail =>
    cases step_move stepped with
    | tail => exact inv.frame ⟨rfl, rfl⟩
  | ota event accepted =>
    cases step_move stepped with
    | ota running at_ inCycle done =>
      obtain ⟨radio, same⟩ := system.otaRadio_eq event accepted
      rw [same]
      exact inv.frame ⟨rfl, rfl⟩
  | reset pendingVerify =>
    cases Option.some.inj stepped
    exact inv_boot _ _ pendingVerify met

/-- Over any boots and live changes, the limits cover what the LP core works with
in every state exactly if the window of each boot fits and no live change raises
the skip budget above the one of its boot. -/
theorem limits_covered_run (env : HpEnv) (nvs : Nvs) (cyclesStarted : Nat)
    (pendingVerify : Bool) (actions : List HpAction) :
    (Covered env.yaml.lpPollIntervalSec (bootLimits env.yaml nvs) ∧
        Runs.Along (step env) (CoveredAfter env) (start env nvs cyclesStarted pendingVerify)
          actions) ↔
      (WindowFits env.yaml nvs ∧
        Runs.Along (step env) (NotRaised env) (start env nvs cyclesStarted pendingVerify)
          actions) := by
  rw [covered_boot_iff]
  refine and_congr_right fun fits => ?_
  exact Runs.along_iff (fun state => Inv env state.1 state.2) inv_step coveredAfter_iff
    (inv_boot nvs cyclesStarted pendingVerify fits) actions

def gapRaised : List HpAction :=
  attachFirst ++ takeUp (reading 1 (.fin 21)) ++ publishUpToState ++ allAcked 33 ++
    [.client (.cfg (.maxPublishGapSec 300)), .pub .ackWait, .pub (.replay 0), .pub .settle,
      .pub .merge]

/-- With a boot that publishes every cycle, the wait stays at 60 s while the LP
core forces a publish every 300 s only. -/
theorem gapRaised_uncovered :
    ¬ ∀ (env : HpEnv) (nvs : Nvs) (cyclesStarted : Nat) (pendingVerify : Bool)
        (actions : List HpAction),
      Covered env.yaml.lpPollIntervalSec (bootLimits env.yaml nvs) ∧
        Runs.Along (step env) (CoveredAfter env) (start env nvs cyclesStarted pendingVerify)
          actions := by
  intro always
  have covered := always benchEnv Nvs.erased 0 false gapRaised
  revert covered
  decide +kernel

end SleepySensor.CadenceLimits
