import Mathlib.Data.Int.Log
import Mathlib.Data.Rat.Floor
import Mathlib.Tactic

/-!
# Rounding to a binary format

Rational numbers rounded to the nearest one of a binary format, ties to even.  A
format is its significant bits and the exponent of its last place near zero; the
largest value of a format is left out, so an overflow is the caller's to exclude.
-/

set_option autoImplicit false

namespace SleepySensor.BinaryRound

/-! ## Integers -/

def nearestEven (value : ℚ) : ℤ :=
  if value - ⌊value⌋ < 1 / 2 then ⌊value⌋
  else if 1 / 2 < value - ⌊value⌋ then ⌊value⌋ + 1
  else if ⌊value⌋ % 2 = 0 then ⌊value⌋
  else ⌊value⌋ + 1

theorem abs_nearestEven_sub (value : ℚ) : |(nearestEven value : ℚ) - value| ≤ 1 / 2 := by
  have low := Int.floor_le value
  have high := Int.lt_floor_add_one value
  unfold nearestEven
  rw [abs_le]
  split_ifs with near far even
  · constructor <;> linarith
  · push_cast
    constructor <;> linarith
  · constructor <;> linarith
  · push_cast
    constructor <;> linarith

/-- Cut towards zero. -/
def truncate (value : ℚ) : ℤ := if 0 ≤ value then ⌊value⌋ else ⌈value⌉

theorem abs_truncate_sub (value : ℚ) : |(truncate value : ℚ) - value| < 1 := by
  unfold truncate
  rw [abs_lt]
  split_ifs
  · have low := Int.floor_le value
    have high := Int.lt_floor_add_one value
    constructor <;> linarith
  · have low := Int.le_ceil value
    have high := Int.ceil_lt_add_one value
    constructor <;> linarith

/-! ## Formats -/

structure Format where
  bits : Nat
  least : ℤ
  deriving DecidableEq, Repr

def binary64 : Format := { bits := 53, least := -1074 }

namespace Format

variable (format : Format)

/-- The exponent of the last place a value of this size has. -/
def lastPlace (value : ℚ) : ℤ := max (Int.log 2 |value| + 1 - format.bits) format.least

def round (value : ℚ) : ℚ :=
  nearestEven (value / 2 ^ format.lastPlace value) * 2 ^ format.lastPlace value

theorem abs_round_sub_place (value : ℚ) :
    |format.round value - value| ≤ 2 ^ format.lastPlace value / 2 := by
  have positive : (0 : ℚ) < 2 ^ format.lastPlace value := zpow_pos (by norm_num) _
  have scaled : format.round value - value =
      (nearestEven (value / 2 ^ format.lastPlace value) - value / 2 ^ format.lastPlace value) *
        2 ^ format.lastPlace value := by
    rw [sub_mul, div_mul_cancel₀ _ positive.ne']
    rfl
  rw [scaled, abs_mul, abs_of_pos positive]
  have near := abs_nearestEven_sub (value / 2 ^ format.lastPlace value)
  calc _ ≤ 1 / 2 * 2 ^ format.lastPlace value := mul_le_mul_of_nonneg_right near positive.le
    _ = _ := by ring

end Format

/-! ## Relative errors -/

/-- Off by at most a part of the exact value. -/
def Near (part exact value : ℚ) : Prop := |value - exact| ≤ part * |exact|

variable {format : Format} {part other exact value rounded : ℚ}

theorem near_round (normal : 2 ^ (format.least + format.bits - 1) ≤ |exact|) :
    Near (1 / 2 ^ format.bits) exact (format.round exact) := by
  have positive : 0 < |exact| := lt_of_lt_of_le (zpow_pos (by norm_num) _) normal
  have place : format.lastPlace exact = Int.log 2 |exact| + 1 - format.bits := by
    have atLeast : format.least + format.bits - 1 ≤ Int.log 2 |exact| :=
      (Int.zpow_le_iff_le_log (by norm_num) positive).mp (by exact_mod_cast normal)
    exact max_eq_left (by linarith)
  have log := Int.zpow_log_le_self (b := 2) (by norm_num) positive
  have two : (2 : ℚ) ≠ 0 := by norm_num
  unfold Near
  calc |format.round exact - exact| ≤ 2 ^ format.lastPlace exact / 2 :=
        format.abs_round_sub_place exact
    _ = 2 ^ Int.log 2 |exact| / 2 ^ format.bits := by
        rw [place, zpow_sub₀ two, zpow_add₀ two, zpow_one, zpow_natCast]
        ring
    _ ≤ |exact| / 2 ^ format.bits := by
        gcongr
        exact_mod_cast log
    _ = 1 / 2 ^ format.bits * |exact| := by ring

theorem round_zero : format.round 0 = 0 := by
  simp [Format.round, nearestEven]

theorem Near.of_le (near : Near part exact value) (le : part ≤ other) : Near other exact value :=
  le_trans (show |value - exact| ≤ part * |exact| from near)
    (mul_le_mul_of_nonneg_right le (abs_nonneg exact))

theorem Near.trans (first : Near part exact value) (second : Near other value rounded)
    (nonneg : 0 ≤ other) : Near (part + other + part * other) exact rounded := by
  unfold Near at *
  have size : |value| ≤ (1 + part) * |exact| := by
    calc |value| = |(value - exact) + exact| := by rw [sub_add_cancel]
      _ ≤ |value - exact| + |exact| := abs_add_le _ _
      _ ≤ part * |exact| + |exact| := by linarith
      _ = (1 + part) * |exact| := by ring
  calc |rounded - exact| = |(rounded - value) + (value - exact)| := by rw [sub_add_sub_cancel]
    _ ≤ |rounded - value| + |value - exact| := abs_add_le _ _
    _ ≤ other * |value| + part * |exact| := add_le_add second first
    _ ≤ other * ((1 + part) * |exact|) + part * |exact| := by gcongr
    _ = (part + other + part * other) * |exact| := by ring

theorem Near.mul (near : Near part exact value) (factor : ℚ) :
    Near part (exact * factor) (value * factor) := by
  unfold Near at *
  rw [← sub_mul, abs_mul, abs_mul, ← mul_assoc]
  exact mul_le_mul_of_nonneg_right near (abs_nonneg factor)

theorem Near.div (near : Near part exact value) (divisor : ℚ) :
    Near part (exact / divisor) (value / divisor) := by
  rw [div_eq_mul_inv, div_eq_mul_inv]
  exact near.mul divisor⁻¹

theorem Near.half_le (near : Near part exact value) (small : part ≤ 1 / 2) :
    |exact| / 2 ≤ |value| := by
  unfold Near at near
  have apart := abs_sub_abs_le_abs_sub exact value
  rw [abs_sub_comm] at apart
  have bound : part * |exact| ≤ 1 / 2 * |exact| :=
    mul_le_mul_of_nonneg_right small (abs_nonneg exact)
  linarith

end SleepySensor.BinaryRound
