import SleepySensor.Cadence

/-!
# The cadence at boot

What `app_main` makes of the poll interval, the publish gap and the two heater times of
`device_config.yaml`, in 32-bit arithmetic and with divisions that may fail.
-/

set_option autoImplicit false

namespace SleepySensor.BootCadence

open Cadence

/-- `/` on `uint32_t`, which has no outcome for a divisor of zero. -/
def divide (a b : Nat) : Option Nat := if b = 0 then none else some (a / b)

def bootMinutesToLpCycles (minutes pollSec : Nat) : Option Nat :=
  if minutes = 0 then some 0
  else divide (u32Sub (u32 (u32 (minutes * 60) + pollSec)) 1) pollSec

def bootPublishGapSecToSkipCycles (gapSec pollSec : Nat) : Option Nat :=
  if gapSec ≤ pollSec then some 0 else (divide gapSec pollSec).map (· - 1)

/-- The period that `lp_sensor_core_start` is called with. -/
def lpTimerPeriodUs (pollSec : Nat) : Nat := u32 (pollSec * 1000000)

structure Boot where
  maxSkipCycles : Nat
  expireAfterSec : Nat
  safeguardWakeSec : Nat
  heaterPeriodCycles : Nat
  highRhTriggerCycles : Nat
  lpTimerPeriodUs : Nat
  deriving DecidableEq, Repr

def appMain (pollSec gapSec periodMinutes triggerMinutes : Nat) : Option Boot :=
  (bootPublishGapSecToSkipCycles gapSec pollSec).bind fun skip =>
  (bootMinutesToLpCycles periodMinutes pollSec).bind fun period =>
  (bootMinutesToLpCycles triggerMinutes pollSec).map fun trigger =>
    { maxSkipCycles := skip
      expireAfterSec := Cadence.expireAfterSec pollSec skip
      safeguardWakeSec := Cadence.safeguardWakeSec pollSec skip
      heaterPeriodCycles := period
      highRhTriggerCycles := trigger
      lpTimerPeriodUs := lpTimerPeriodUs pollSec }

/-! ## What the conversions promise -/

/-- The ceiling of the minutes in polls, and some poll for some minutes. -/
structure CeilingOf (cycles minutes pollSec : Nat) : Prop where
  exact_ : (cycles : Int) = ⌈(60 * minutes : ℚ) / pollSec⌉
  nonzero : minutes ≠ 0 → cycles ≠ 0

structure Exact (boot : Boot) (pollSec gapSec periodMinutes triggerMinutes : Nat) : Prop where
  period : CeilingOf boot.heaterPeriodCycles periodMinutes pollSec
  trigger : CeilingOf boot.highRhTriggerCycles triggerMinutes pollSec
  gap : pollSec ≤ gapSec → (boot.maxSkipCycles + 1) * pollSec ≤ gapSec
  timer : boot.lpTimerPeriodUs = pollSec * 1000000
  safeguard : boot.safeguardWakeSec = (boot.maxSkipCycles + 3) * pollSec
  expire : boot.expireAfterSec = 2 * ((boot.maxSkipCycles + 3) * pollSec)

/-- No division by zero, and everything exact. -/
def BootsExactly (pollSec gapSec periodMinutes triggerMinutes : Nat) : Prop :=
  ∃ boot, appMain pollSec gapSec periodMinutes triggerMinutes = some boot ∧
    Exact boot pollSec gapSec periodMinutes triggerMinutes

structure Fits (pollSec gapSec periodMinutes triggerMinutes : Nat) : Prop where
  poll : pollSec = 0 → gapSec = 0 ∧ periodMinutes = 0 ∧ triggerMinutes = 0
  timer : pollSec * 1000000 < u32Mod
  period : 60 * periodMinutes + pollSec ≤ u32Mod
  trigger : 60 * triggerMinutes + pollSec ≤ u32Mod
  expire : 2 * ((max (gapSec / pollSec) 1 + 2) * pollSec) < u32Mod

variable {pollSec gapSec periodMinutes triggerMinutes minutes : Nat}

/-! ## Minutes -/

theorem minutes_eq (some_ : minutes ≠ 0) (positive : 0 < pollSec) :
    bootMinutesToLpCycles minutes pollSec =
      some ((60 * minutes + pollSec - 1) % u32Mod / pollSec) := by
  have wrapped : u32Sub (u32 (u32 (minutes * 60) + pollSec)) 1 =
      (60 * minutes + pollSec - 1) % u32Mod := by
    simp only [u32Sub, u32, u32Mod]
    omega
  rw [bootMinutesToLpCycles, if_neg some_, divide, if_neg positive.ne', wrapped]

theorem ceiling_eq (positive : 0 < pollSec) :
    ⌈(60 * minutes : ℚ) / pollSec⌉ = ((60 * minutes + pollSec - 1) / pollSec : Nat) := by
  have positive_ : (0 : ℚ) < pollSec := by exact_mod_cast positive
  have floor := Nat.div_add_mod' (60 * minutes + pollSec - 1) pollSec
  have rest := Nat.mod_lt (60 * minutes + pollSec - 1) positive
  generalize (60 * minutes + pollSec - 1) / pollSec = quotient at floor ⊢
  rw [Int.ceil_eq_iff, lt_div_iff₀ positive_, div_le_iff₀ positive_, sub_mul, one_mul]
  have below : quotient * pollSec < 60 * minutes + pollSec := by omega
  have above : 60 * minutes ≤ quotient * pollSec := by omega
  constructor
  · have below_ : ((quotient * pollSec : Nat) : ℚ) < (60 * minutes + pollSec : Nat) := by
      exact_mod_cast below
    push_cast at below_ ⊢
    linarith
  · exact_mod_cast above

/-- A wrapped dividend is never as good: what is lost is more than one poll interval. -/
theorem wrapped_iff (positive : 0 < pollSec) (word : pollSec < u32Mod) (total : Nat) :
    total % u32Mod / pollSec = total / pollSec ↔ total < u32Mod := by
  constructor
  · intro same
    by_contra wrapped
    have room : total % u32Mod + pollSec ≤ total := by
      have split := Nat.mod_add_div total u32Mod
      have once : u32Mod * 1 ≤ u32Mod * (total / u32Mod) :=
        Nat.mul_le_mul_left _ (Nat.div_pos (not_lt.mp wrapped) (by decide))
      omega
    have less := Nat.div_le_div_right (c := pollSec) room
    rw [Nat.add_div_right _ positive] at less
    omega
  · intro small
    rw [Nat.mod_eq_of_lt small]

theorem ceilingOf_iff (positive : 0 < pollSec) (word : pollSec < u32Mod) :
    CeilingOf ((60 * minutes + pollSec - 1) % u32Mod / pollSec) minutes pollSec ↔
      60 * minutes + pollSec ≤ u32Mod := by
  have small : 60 * minutes + pollSec - 1 < u32Mod ↔ 60 * minutes + pollSec ≤ u32Mod := by omega
  rw [← small, ← wrapped_iff positive word]
  constructor
  · intro ceiling
    have exact_ := ceiling.exact_
    rw [ceiling_eq positive] at exact_
    exact_mod_cast exact_
  · intro same
    rw [same]
    refine ⟨(ceiling_eq positive).symm, fun some_ => ?_⟩
    exact (Nat.div_pos (by omega) positive).ne'

theorem ceilingOf_zero : CeilingOf 0 0 pollSec := ⟨by simp, fun some_ => (some_ rfl).elim⟩

theorem minutes_exact_iff (word : pollSec < u32Mod) :
    (∃ cycles, bootMinutesToLpCycles minutes pollSec = some cycles ∧
      CeilingOf cycles minutes pollSec) ↔
      (pollSec = 0 → minutes = 0) ∧ 60 * minutes + pollSec ≤ u32Mod := by
  rcases eq_or_ne minutes 0 with rfl | some_
  · refine iff_of_true ⟨0, rfl, ceilingOf_zero⟩ ⟨fun _ => rfl, ?_⟩
    omega
  rcases Nat.eq_zero_or_pos pollSec with rfl | positive
  · refine iff_of_false ?_ fun fits => some_ (fits.1 rfl)
    rintro ⟨cycles, divided, -⟩
    simp [bootMinutesToLpCycles, some_, divide] at divided
  · rw [minutes_eq some_ positive]
    simp only [Option.some_inj, exists_eq_left', ceilingOf_iff positive word]
    exact ⟨fun fits => ⟨fun none_ => (positive.ne' none_).elim, fits⟩, fun fits => fits.2⟩

/-! ## The publish gap -/

theorem gap_eq (gapSec : Nat) (positive : 0 < pollSec) :
    bootPublishGapSecToSkipCycles gapSec pollSec = some (max (gapSec / pollSec) 1 - 1) := by
  unfold bootPublishGapSecToSkipCycles
  split
  case isTrue le =>
    have once : gapSec / pollSec ≤ 1 := by
      rw [Nat.div_le_iff_le_mul_add_pred positive]
      omega
    rw [max_eq_right once]
  case isFalse longer =>
    have once : 1 ≤ gapSec / pollSec := (Nat.one_le_div_iff positive).mpr (by omega)
    rw [divide, if_neg positive.ne', max_eq_left once]
    rfl

theorem gap_le (positive : 0 < pollSec) (le : pollSec ≤ gapSec) :
    (max (gapSec / pollSec) 1 - 1 + 1) * pollSec ≤ gapSec := by
  have once : 1 ≤ gapSec / pollSec := (Nat.one_le_div_iff positive).mpr le
  rw [max_eq_left once, Nat.sub_add_cancel once]
  exact Nat.div_mul_le_self gapSec pollSec

theorem gap_zero :
    bootPublishGapSecToSkipCycles gapSec 0 = if gapSec = 0 then some 0 else none := by
  rcases eq_or_ne gapSec 0 with rfl | some_
  · rfl
  · simp [bootPublishGapSecToSkipCycles, some_, divide]

/-! ## Products -/

theorem product_iff {product : Nat} : u32 product = product ↔ product < u32Mod := by
  constructor
  · intro same
    rw [← same]
    exact Nat.mod_lt _ (by decide)
  · exact u32_of_lt

theorem safeguard_eq (pollSec skip : Nat) :
    Cadence.safeguardWakeSec pollSec skip = u32 ((skip + 3) * pollSec) := by
  simp [Cadence.safeguardWakeSec, u32, Nat.mod_mul_mod]

theorem expire_eq (pollSec skip : Nat) :
    Cadence.expireAfterSec pollSec skip = u32 (2 * ((skip + 3) * pollSec)) := by
  rw [Cadence.expireAfterSec, safeguard_eq]
  simp [u32, Nat.mul_mod_mod]

theorem waits_exact_iff (pollSec skip : Nat) :
    (Cadence.safeguardWakeSec pollSec skip = (skip + 3) * pollSec ∧
      Cadence.expireAfterSec pollSec skip = 2 * ((skip + 3) * pollSec)) ↔
      2 * ((skip + 3) * pollSec) < u32Mod := by
  rw [safeguard_eq, expire_eq, product_iff, product_iff]
  omega

/-! ## All of them -/

theorem bootsExactly_iff (poll : pollSec < u32Mod) :
    BootsExactly pollSec gapSec periodMinutes triggerMinutes ↔
      Fits pollSec gapSec periodMinutes triggerMinutes := by
  have timer : lpTimerPeriodUs pollSec = pollSec * 1000000 ↔ pollSec * 1000000 < u32Mod :=
    product_iff
  constructor
  · rintro ⟨boot, booted, exact_⟩
    obtain ⟨skip, skipped, rest⟩ := Option.bind_eq_some_iff.mp booted
    obtain ⟨period, periodRead, rest⟩ := Option.bind_eq_some_iff.mp rest
    obtain ⟨trigger, triggerRead, rfl⟩ := Option.map_eq_some_iff.mp rest
    have periodFits := (minutes_exact_iff poll).mp ⟨period, periodRead, exact_.period⟩
    have triggerFits := (minutes_exact_iff poll).mp ⟨trigger, triggerRead, exact_.trigger⟩
    have waits := (waits_exact_iff pollSec skip).mp ⟨exact_.safeguard, exact_.expire⟩
    refine ⟨fun none_ => ⟨?_, periodFits.1 none_, triggerFits.1 none_⟩, timer.mp exact_.timer,
      periodFits.2, triggerFits.2, ?_⟩
    · by_contra some_
      rw [none_, gap_zero, if_neg some_] at skipped
      cases skipped
    · rcases Nat.eq_zero_or_pos pollSec with rfl | positive
      · rw [Nat.mul_zero]
        decide
      · rw [gap_eq gapSec positive, Option.some_inj] at skipped
        have same : max (gapSec / pollSec) 1 + 2 = skip + 3 := by omega
        rw [same]
        exact waits
  · rintro ⟨zero, timerFits, periodFits, triggerFits, expireFits⟩
    obtain ⟨period, periodRead, periodExact⟩ :=
      (minutes_exact_iff poll).mpr ⟨fun none_ => (zero none_).2.1, periodFits⟩
    obtain ⟨trigger, triggerRead, triggerExact⟩ :=
      (minutes_exact_iff poll).mpr ⟨fun none_ => (zero none_).2.2, triggerFits⟩
    have skipped : ∃ skip, bootPublishGapSecToSkipCycles gapSec pollSec = some skip ∧
        (pollSec ≤ gapSec → (skip + 1) * pollSec ≤ gapSec) ∧
        2 * ((skip + 3) * pollSec) < u32Mod := by
      rcases Nat.eq_zero_or_pos pollSec with rfl | positive
      · obtain ⟨rfl, -⟩ := zero rfl
        exact ⟨0, rfl, fun _ => le_rfl, by decide⟩
      · refine ⟨_, gap_eq gapSec positive, gap_le positive, ?_⟩
        have same : max (gapSec / pollSec) 1 - 1 + 3 = max (gapSec / pollSec) 1 + 2 := by omega
        rw [same]
        exact expireFits
    obtain ⟨skip, skipRead, gap, fits⟩ := skipped
    obtain ⟨safeguard, expire⟩ := (waits_exact_iff pollSec skip).mpr fits
    have booted : appMain pollSec gapSec periodMinutes triggerMinutes =
        some ⟨skip, Cadence.expireAfterSec pollSec skip, Cadence.safeguardWakeSec pollSec skip,
          period, trigger, lpTimerPeriodUs pollSec⟩ := by
      rw [appMain, skipRead, Option.bind_some, periodRead, Option.bind_some, triggerRead]
      rfl
    exact ⟨_, booted, periodExact, triggerExact, gap, timer.mpr timerFits, safeguard, expire⟩

/-- The values of the file that is shipped. -/
theorem bootsExactly_example : 20 < u32Mod ∧ BootsExactly 20 300 1440 60 :=
  ⟨by decide, (bootsExactly_iff (by decide)).mpr (by constructor <;> decide)⟩

/-- Without a poll interval the publish gap is divided by zero, and one of 4295 s makes
an LP timer of 32.7 ms. -/
theorem boot_wraps : ¬BootsExactly 0 300 1440 60 ∧ ¬BootsExactly 4295 300 1440 60 ∧
    lpTimerPeriodUs 4295 = 32704 := by
  refine ⟨fun exact_ => ?_, fun exact_ => ?_, by decide⟩
  · obtain ⟨boot, booted, -⟩ := exact_
    exact absurd booted (by simp [appMain, gap_zero])
  · obtain ⟨boot, booted, exact_⟩ := exact_
    have timer := exact_.timer
    have wrapped : (appMain 4295 300 1440 60).map Boot.lpTimerPeriodUs = some 32704 := by decide
    rw [booted, Option.map_some, Option.some_inj] at wrapped
    omega

end SleepySensor.BootCadence
