import SleepySensor.Base
import SleepySensor.Lib.History
import SleepySensor.Lib.RoundedMean

/-!
# The cold calibration of the sleep clock

`rtc_clock_fix.cpp`: the light-sleep exit callback keeps the newest 32 cold
calibrations in a ring, and the wrap of `rtc_clk_cal` hands the mean of the
newest `s_samples` of them to the sleep path.
-/

set_option autoImplicit false

namespace SleepySensor.ColdCalibration

open RoundedMean DropOldest

def u64Mod : Nat := 18446744073709551616

def rtcCalSamplesMax : Nat := 32
def sleepPathCalCycles : Nat := 10
def coldMinSleepUs : Int := 50 * 1000
def coldMaxJumpPpm : Nat := 20000
def coldMaxRejectRun : Nat := 8

def rtcCalClampSamples (samples : Nat) : Nat :=
  if samples < rtcCalSamplesMax then samples else rtcCalSamplesMax

structure ColdCal where
  samples : Nat
  ring : Nat → Nat := fun _ => 0
  count : Nat := 0
  last : Nat := 0
  mean : Nat := 0
  rejectRun : Nat := 0
  taken : Nat := 0
  rejected : Nat := 0
  restarts : Nat := 0
  sleepsCold : Nat := 0
  sleepsMeasured : Nat := 0

inductive ClkCalSource where
  | rtcSlow
  | other (source : Nat)
  deriving DecidableEq, Repr

/-- What the wrap returns: its own mean, or what `__real_rtc_clk_cal` measures. -/
inductive Period where
  | mean (period : Nat)
  | real (period : Nat)
  deriving DecidableEq, Repr

/-- `__wrap_rtc_clk_cal`; `measured` is what `__real_rtc_clk_cal` gives when called. -/
def wrapRtcClkCal (source : ClkCalSource) (cycles measured : Nat) (cal : ColdCal) :
    Period × ColdCal :=
  if source ≠ .rtcSlow ∨ cycles ≠ sleepPathCalCycles then (.real measured, cal)
  else if cal.samples ≠ 0 ∧ cal.samples ≤ cal.count then
    (.mean cal.mean, { cal with sleepsCold := u32 (cal.sleepsCold + 1) })
  else (.real measured, { cal with sleepsMeasured := u32 (cal.sleepsMeasured + 1) })

/-- The sum of `update_mean` after so many rounds of its loop. -/
def newestSum (ring : Nat → Nat) (count : Nat) : Nat → Nat
  | 0 => 0
  | i + 1 =>
    (newestSum ring count i + ring (u32Sub count (i + 1) % rtcCalSamplesMax)) % u64Mod

def updateMean (cal : ColdCal) : ColdCal :=
  let n := min cal.count cal.samples
  let sum := newestSum cal.ring cal.count n
  { cal with mean := if n ≠ 0 then u32 ((sum + n / 2) % u64Mod / n) else 0 }

def distance (cal : ColdCal) (period : Nat) : Nat :=
  if cal.mean < period then period - cal.mean else cal.mean - period

/-- The two conditions of `accept_cold`: there is a mean, and the period is far from it. -/
def jumps (cal : ColdCal) (period : Nat) : Bool :=
  cal.samples ≤ cal.count ∧
    cal.mean * coldMaxJumpPpm % u64Mod < distance cal period * 1000000 % u64Mod

def acceptCold (cal : ColdCal) (period : Nat) : ColdCal :=
  if jumps cal period ∧ u32 (cal.rejectRun + 1) < coldMaxRejectRun then
    { cal with rejectRun := u32 (cal.rejectRun + 1), rejected := u32 (cal.rejected + 1) }
  else
    let cal := if jumps cal period then
      { cal with count := 0, restarts := u32 (cal.restarts + 1) } else cal
    updateMean
      { cal with
        rejectRun := 0
        ring := fun slot => if slot = cal.count % rtcCalSamplesMax then period else cal.ring slot
        count := u32 (cal.count + 1)
        taken := u32 (cal.taken + 1)
        last := period }

/-- The value that `on_light_sleep_exit` passes on, of the `cold` one it would measure. -/
def coldReading (cal : ColdCal) (sleepTimeUs : Int) (cold : Nat) : Option Nat :=
  if cal.samples = 0 ∨ sleepTimeUs < coldMinSleepUs then none
  else if cold = 0 then none
  else some cold

def onLightSleepExit (cal : ColdCal) (sleepTimeUs : Int) (cold : Nat) : ColdCal :=
  match coldReading cal sleepTimeUs cold with
  | none => cal
  | some period => acceptCold cal period

def setSamples (cal : ColdCal) (samples : Nat) : ColdCal :=
  updateMean
    { cal with
      samples := rtcCalClampSamples samples
      count := if cal.samples = 0 then 0 else cal.count
      rejectRun := 0 }

def start (samples : Nat) : ColdCal := { samples := rtcCalClampSamples samples }

inductive Action where
  | acceptCold (period : Nat)
  | lightSleepExit (sleepTimeUs : Int) (cold : Nat)
  | setSamples (samples : Nat)
  | rtcClkCal (source : ClkCalSource) (cycles measured : Nat)
  deriving DecidableEq, Repr

def call (cal : ColdCal) : Action → Option ColdCal
  | .acceptCold period =>
    if 0 < period ∧ period < u32Mod then some (acceptCold cal period) else none
  | .lightSleepExit sleepTimeUs cold =>
    if cold < u32Mod then some (onLightSleepExit cal sleepTimeUs cold) else none
  | .setSamples samples => if samples < u32Mod then some (setSamples cal samples) else none
  | .rtcClkCal source cycles measured => some (wrapRtcClkCal source cycles measured cal).2

structure Readings where
  /-- Every value accepted, the oldest first. -/
  accepted : List Nat := []
  /-- Those since the ring last restarted or was turned on. -/
  since : List Nat := []
  /-- Rejected in a row, with no `set_samples` between. -/
  rejectedRun : Nat := 0

def Readings.read (cal : ColdCal) (period : Nat) (readings : Readings) : Readings :=
  if jumps cal period ∧ u32 (cal.rejectRun + 1) < coldMaxRejectRun then
    { readings with rejectedRun := readings.rejectedRun + 1 }
  else
    { accepted := readings.accepted ++ [period]
      since := (if jumps cal period then [] else readings.since) ++ [period] }

def record (cal : ColdCal) (action : Action) (readings : Readings) : Readings :=
  match action with
  | .acceptCold period => readings.read cal period
  | .lightSleepExit sleepTimeUs cold =>
    match coldReading cal sleepTimeUs cold with
    | none => readings
    | some period => readings.read cal period
  | .setSamples samples =>
    { readings with
      since := if cal.samples = 0 ∧ rtcCalClampSamples samples ≠ 0 then [] else readings.since
      rejectedRun := 0 }
  | .rtcClkCal _ _ _ => readings

abbrev Observed := ColdCal × Readings

def step : Observed → Action → Option Observed := Runs.observe call record

/-- What the wrap answers the sleep path with. -/
def Calibrated (cal : ColdCal) (readings : Readings) : Prop :=
  ∀ measured,
    ((wrapRtcClkCal .rtcSlow sleepPathCalCycles measured cal).1 = .mean cal.mean ↔
      cal.samples ≠ 0 ∧ cal.samples ≤ readings.since.length) ∧
    ∀ mean, (wrapRtcClkCal .rtcSlow sleepPathCalCycles measured cal).1 = .mean mean →
      (newest cal.samples readings.accepted).length = cal.samples ∧
      (mean : Int) = roundedMean (newest cal.samples readings.accepted) ∧
      ∀ low high, (∀ value ∈ newest cal.samples readings.accepted, low ≤ value ∧ value ≤ high) →
        low ≤ mean ∧ mean ≤ high

/-- No sum or product of `update_mean` and `accept_cold` leaves its type. -/
structure Exact (cal : ColdCal) : Prop where
  sum : ∀ i < min cal.count cal.samples,
    newestSum cal.ring cal.count i + cal.ring (u32Sub cal.count (i + 1) % rtcCalSamplesMax) <
      u64Mod
  half : newestSum cal.ring cal.count (min cal.count cal.samples) +
    min cal.count cal.samples / 2 < u64Mod
  mean : (newestSum cal.ring cal.count (min cal.count cal.samples) +
    min cal.count cal.samples / 2) / min cal.count cal.samples < u32Mod
  jump : ∀ period < u32Mod, cal.mean * coldMaxJumpPpm < u64Mod ∧
    distance cal period * 1000000 < u64Mod

/-! ## The invariant -/

variable {cal : ColdCal} {readings : Readings}

/-- While on, the ring holds the values since it last started. -/
structure Holds (cal : ColdCal) (since : List Nat) : Prop where
  count : cal.count = u32 since.length
  ring : Stores rtcCalSamplesMax cal.ring since

structure Inv (cal : ColdCal) (readings : Readings) : Prop where
  clamped : cal.samples ≤ rtcCalSamplesMax
  mean : cal.mean = (updateMean cal).mean
  run : cal.rejectRun = readings.rejectedRun
  short : readings.rejectedRun < coldMaxRejectRun
  suffix : ∃ earlier, readings.accepted = earlier ++ readings.since
  words : ∀ value ∈ readings.accepted, value < u32Mod
  holds : cal.samples ≠ 0 → Holds cal readings.since

theorem clampSamples_le (samples : Nat) : rtcCalClampSamples samples ≤ rtcCalSamplesMax := by
  unfold rtcCalClampSamples
  split <;> omega

theorem rejectRun_pos : 0 < coldMaxRejectRun := by decide

theorem stores_nil (ring : Nat → Nat) : Stores rtcCalSamplesMax ring [] :=
  fun _ inside => absurd inside (Nat.not_lt_zero _)

theorem inv_start (samples : Nat) : Inv (start samples) {} where
  clamped := clampSamples_le samples
  mean := by simp [start, updateMean]
  run := rfl
  short := by decide
  suffix := ⟨[], rfl⟩
  words := fun _ member => by cases member
  holds := fun _ => ⟨rfl, stores_nil _⟩

theorem Holds.append {kept : List Nat} (holds : Holds cal kept) (period : Nat) :
    Holds { cal with
        ring := fun slot => if slot = cal.count % rtcCalSamplesMax then period else cal.ring slot
        count := u32 (cal.count + 1) } (kept ++ [period]) := by
  have slot : cal.count % rtcCalSamplesMax = kept.length % rtcCalSamplesMax := by
    rw [holds.count]
    simp only [u32, u32Mod, rtcCalSamplesMax]
    omega
  refine ⟨?_, ?_⟩
  · show u32 (cal.count + 1) = u32 (kept ++ [period]).length
    rw [holds.count, List.length_append]
    exact Nat.mod_add_mod _ _ _
  · rw [slot]
    exact holds.ring.append period

theorem inv_read (inv : Inv cal readings) {period : Nat} (word : period < u32Mod) :
    Inv (acceptCold cal period) (readings.read cal period) := by
  obtain ⟨clamped, mean, run, short, ⟨earlier, suffix⟩, words, holds⟩ := inv
  have tally : u32 (cal.rejectRun + 1) = readings.rejectedRun + 1 := by
    rw [run]
    apply u32_of_lt
    simp only [coldMaxRejectRun, u32Mod] at short ⊢
    omega
  unfold acceptCold Readings.read
  split
  · rename_i rejects
    refine ⟨clamped, mean, tally, ?_, ⟨earlier, suffix⟩, words, ?_⟩
    · rw [← tally]
      exact rejects.2
    · exact fun on => ⟨(holds on).count, (holds on).ring⟩
  · rename_i accepts
    have all : ∀ value ∈ readings.accepted ++ [period], value < u32Mod := by
      intro value member
      rcases List.mem_append.mp member with old | new
      · exact words value old
      · rw [List.mem_singleton.mp new]
        exact word
    by_cases jumped : jumps cal period = true
    · simp only [jumped, if_true]
      refine ⟨clamped, rfl, rfl, rejectRun_pos, ⟨readings.accepted, rfl⟩, all, fun _ => ?_⟩
      have fresh : Holds { cal with count := 0 } [] := ⟨rfl, stores_nil _⟩
      exact ⟨(fresh.append period).count, (fresh.append period).ring⟩
    · simp only [jumped, if_false, Bool.false_eq_true]
      refine ⟨clamped, rfl, rfl, rejectRun_pos, ⟨earlier, ?_⟩, all, fun on => ?_⟩
      · rw [suffix, List.append_assoc]
      · exact ⟨((holds on).append period).count, ((holds on).append period).ring⟩

theorem inv_setSamples (inv : Inv cal readings) (samples : Nat) :
    Inv (setSamples cal samples) (record cal (.setSamples samples) readings) := by
  obtain ⟨clamped, mean, run, short, ⟨earlier, suffix⟩, words, holds⟩ := inv
  refine ⟨clampSamples_le samples, rfl, rfl, rejectRun_pos, ?_, words, ?_⟩
  · by_cases turnedOn : cal.samples = 0 ∧ rtcCalClampSamples samples ≠ 0
    · exact ⟨readings.accepted, by simp only [record, if_pos turnedOn, List.append_nil]⟩
    · exact ⟨earlier, by simp only [record, if_neg turnedOn]; exact suffix⟩
  · intro on
    have on : rtcCalClampSamples samples ≠ 0 := on
    by_cases off : cal.samples = 0
    · have since : (record cal (.setSamples samples) readings).since = [] := if_pos ⟨off, on⟩
      rw [since]
      exact ⟨if_pos off, stores_nil _⟩
    · have since : (record cal (.setSamples samples) readings).since = readings.since :=
        if_neg fun turnedOn => off turnedOn.1
      rw [since]
      exact ⟨(if_neg off).trans (holds off).count, (holds off).ring⟩

theorem inv_step (state : Observed) (action : Action) (next : Observed)
    (inv : Inv state.1 state.2) (taken : step state action = some next) : Inv next.1 next.2 := by
  obtain ⟨called, recorded⟩ := Runs.observe_step taken
  rw [recorded]
  cases action with
  | acceptCold period =>
    obtain ⟨word, same⟩ := Option.ite_none_right_eq_some.mp called
    rw [← Option.some.inj same]
    exact inv_read inv word.2
  | lightSleepExit sleepTimeUs cold =>
    obtain ⟨word, same⟩ := Option.ite_none_right_eq_some.mp called
    rw [← Option.some.inj same]
    have passed : ∀ period, coldReading state.1 sleepTimeUs cold = some period →
        period = cold := by
      intro period read
      simp only [coldReading] at read
      split at read
      · cases read
      · split at read
        · cases read
        · exact (Option.some.inj read).symm
    simp only [onLightSleepExit, record]
    cases read : coldReading state.1 sleepTimeUs cold with
    | none => exact inv
    | some period => exact inv_read inv (passed period read ▸ word)
  | setSamples samples =>
    obtain ⟨word, same⟩ := Option.ite_none_right_eq_some.mp called
    rw [← Option.some.inj same]
    exact inv_setSamples inv samples
  | rtcClkCal source cycles measured =>
    rw [← Option.some.inj called]
    obtain ⟨clamped, mean, run, short, suffix, words, holds⟩ := inv
    unfold wrapRtcClkCal
    split
    · exact ⟨clamped, mean, run, short, suffix, words, holds⟩
    · split <;> exact ⟨clamped, mean, run, short, suffix, words,
        fun on => ⟨(holds on).count, (holds on).ring⟩⟩

/-! ## The mean -/

theorem newestSum_eq {since : List Nat} (holds : Holds cal since) (few : since.length < u32Mod)
    (words : ∀ value ∈ since, value < u32Mod) {rounds : Nat} (inside : rounds ≤ since.length)
    (held : rounds ≤ rtcCalSamplesMax) :
    newestSum cal.ring cal.count rounds = (newest rounds since).sum := by
  induction rounds with
  | zero =>
    rw [newest, Nat.sub_zero, List.drop_length]
    rfl
  | succ i ih =>
    have count : cal.count = since.length := holds.count.trans (u32_of_lt few)
    have bound : (newest (i + 1) since).sum ≤ (i + 1) * (u32Mod - 1) :=
      sum_newest_le fun value member => Nat.le_sub_one_of_lt (words value member)
    rw [sum_newest holds.ring inside held] at bound ⊢
    rw [newestSum, ih (by omega) (by omega), count, u32Sub_of_le inside few]
    refine Nat.mod_eq_of_lt (lt_of_le_of_lt bound ?_)
    simp only [rtcCalSamplesMax, u32Mod, u64Mod] at held ⊢
    omega

theorem mean_small (inv : Inv cal readings) : cal.mean < u32Mod := by
  rw [inv.mean]
  unfold updateMean
  dsimp only
  split
  · exact Nat.mod_lt _ (by decide)
  · decide

theorem exact_of_inv (inv : Inv cal readings) (few : readings.since.length < u32Mod) :
    Exact cal := by
  have sums : ∀ i ≤ min cal.count cal.samples,
      newestSum cal.ring cal.count i ≤ i * (u32Mod - 1) ∧ (i < min cal.count cal.samples →
        newestSum cal.ring cal.count i +
          cal.ring (u32Sub cal.count (i + 1) % rtcCalSamplesMax) ≤ (i + 1) * (u32Mod - 1)) := by
    intro i within
    by_cases off : cal.samples = 0
    · rw [off, Nat.min_zero, Nat.le_zero] at within
      rw [off, within]
      exact ⟨Nat.zero_le _, fun inside => absurd inside (by omega)⟩
    · obtain ⟨earlier, suffix⟩ := inv.suffix
      have holds := inv.holds off
      have clamped := inv.clamped
      have words : ∀ value ∈ readings.since, value < u32Mod := fun value member =>
        inv.words value (suffix ▸ List.mem_append_right earlier member)
      have bounded : ∀ rounds, (newest rounds readings.since).sum ≤ rounds * (u32Mod - 1) :=
        fun rounds => sum_newest_le fun value member => Nat.le_sub_one_of_lt (words value member)
      have count : cal.count = readings.since.length := holds.count.trans (u32_of_lt few)
      rw [newestSum_eq holds few words (by omega) (by omega)]
      refine ⟨bounded i, fun inside => ?_⟩
      rw [count, u32Sub_of_le (by omega) few, ← sum_newest holds.ring (by omega) (by omega)]
      exact bounded (i + 1)
  have clamped := inv.clamped
  have mean := mean_small inv
  simp only [rtcCalSamplesMax] at clamped
  have whole := (sums _ le_rfl).1
  have many : min cal.count cal.samples ≤ 32 := by omega
  refine ⟨?_, ?_, ?_, ?_⟩
  · intro i inside
    apply lt_of_le_of_lt ((sums i inside.le).2 inside)
    simp only [u32Mod, u64Mod]
    omega
  · simp only [u32Mod, u64Mod] at whole ⊢
    omega
  · by_cases none_ : min cal.count cal.samples = 0
    · rw [none_, Nat.div_zero]
      decide
    · rw [Nat.div_lt_iff_lt_mul (by omega)]
      generalize newestSum cal.ring cal.count _ = sum at whole
      generalize min cal.count cal.samples = n at whole many none_
      simp only [u32Mod] at whole ⊢
      omega
  · intro period word
    simp only [distance, coldMaxJumpPpm, u32Mod, u64Mod] at mean word ⊢
    refine ⟨by omega, ?_⟩
    split <;> omega

theorem updateMean_eq (inv : Inv cal readings) (few : readings.since.length < u32Mod)
    (on : cal.samples ≠ 0) (enough : cal.samples ≤ readings.since.length) :
    (newest cal.samples readings.accepted).length = cal.samples ∧
      (cal.mean : Int) = roundedMean (newest cal.samples readings.accepted) := by
  obtain ⟨earlier, suffix⟩ := inv.suffix
  have holds := inv.holds on
  have words : ∀ value ∈ readings.since, value < u32Mod := fun value member =>
    inv.words value (suffix ▸ List.mem_append_right earlier member)
  have count : cal.count = readings.since.length := holds.count.trans (u32_of_lt few)
  have averaged : min cal.count cal.samples = cal.samples := by omega
  obtain ⟨-, half, mean, -⟩ := exact_of_inv inv few
  rw [averaged] at half mean
  have sum := newestSum_eq holds few words enough inv.clamped
  have length := length_newest enough
  rw [suffix, newest_append earlier enough]
  refine ⟨length, ?_⟩
  rw [roundedMean_eq (by omega), length, ← sum, inv.mean]
  unfold updateMean
  simp only [averaged]
  rw [if_pos on, Nat.mod_eq_of_lt half, u32_of_lt mean]

theorem calibrated_of_inv (inv : Inv cal readings) (few : readings.since.length < u32Mod) :
    Calibrated cal readings := by
  have answers : ∀ measured mean,
      (wrapRtcClkCal .rtcSlow sleepPathCalCycles measured cal).1 = .mean mean ↔
        (cal.samples ≠ 0 ∧ cal.samples ≤ readings.since.length) ∧ cal.mean = mean := by
    intro measured mean
    unfold wrapRtcClkCal
    rw [if_neg (by simp)]
    by_cases off : cal.samples = 0
    · simp [off]
    · rw [(inv.holds off).count, u32_of_lt few]
      split
      · rename_i ready
        simp [ready]
      · rename_i unready
        simp [unready]
  intro measured
  refine ⟨(answers measured cal.mean).trans (and_iff_left rfl), fun mean answered => ?_⟩
  obtain ⟨⟨on, enough⟩, rfl⟩ := (answers measured mean).mp answered
  obtain ⟨length, rounded⟩ := updateMean_eq inv few on enough
  refine ⟨length, rounded, fun low high bounded => ?_⟩
  have between := roundedMean_between (by omega) bounded
  rw [← rounded] at between
  exact ⟨Int.ofNat_le.mp between.1, Int.ofNat_le.mp between.2⟩

/-- With fewer than 2^32 values accepted, every wrapped calibration of the sleep path
answers with the mean of the newest `s_samples` accepted values once so many were
accepted, and no more than seven values in a row are rejected. -/
theorem sleepPath_calibrated {samples : Nat} {actions : List Action} {final : Observed}
    (ran : Runs.run step (start samples, {}) actions = some final)
    (few : final.2.accepted.length < u32Mod) :
    Calibrated final.1 final.2 ∧ Exact final.1 ∧ final.2.rejectedRun ≤ coldMaxRejectRun - 1 := by
  have inv : Inv final.1 final.2 :=
    Runs.run_invariant (fun state => Inv state.1 state.2) inv_step (inv_start samples) ran
  obtain ⟨earlier, suffix⟩ := inv.suffix
  have since : final.2.since.length < u32Mod := by
    rw [suffix, List.length_append] at few
    omega
  exact ⟨calibrated_of_inv inv since, exact_of_inv inv since, Nat.le_sub_one_of_lt inv.short⟩

theorem sleepPath_calibrated_twoSamples :
    ∃ final, Runs.run step (start 2, {}) [.acceptCold 1000, .lightSleepExit 60000 1003] =
        some final ∧
      Calibrated final.1 final.2 ∧ Exact final.1 ∧
        final.2.rejectedRun ≤ coldMaxRejectRun - 1 := by
  obtain ⟨final, ran, short⟩ := Runs.exists_final
    (fun final : Observed => decide (final.2.accepted.length < u32Mod))
    (show (Runs.run step (start 2, {}) [.acceptCold 1000, .lightSleepExit 60000 1003]).any _ =
      true by decide +kernel)
  exact ⟨final, ran, sleepPath_calibrated ran (of_decide_eq_true short)⟩

end SleepySensor.ColdCalibration
