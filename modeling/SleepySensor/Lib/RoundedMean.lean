import SleepySensor.Lib.DropOldest
import Mathlib.Algebra.Order.Floor.Ring
import Mathlib.Data.Rat.Floor

/-!
# The rounded mean of the newest values

The mean of naturals rounded half up, and the sum of the newest values kept in a
ring, read back from the newest one.
-/

set_option autoImplicit false

namespace SleepySensor.RoundedMean

/-- The mean rounded to the nearest integer, halves up. -/
def roundedMean (values : List Nat) : Int :=
  ⌊(values.sum : ℚ) / values.length + 1 / 2⌋

theorem roundedMean_eq {values : List Nat} (some_ : 0 < values.length) :
    roundedMean values = ((values.sum + values.length / 2) / values.length : Nat) := by
  generalize sum_ : values.sum = sum
  generalize length_ : values.length = count at some_
  unfold roundedMean
  rw [sum_, length_, Int.floor_eq_iff, Int.cast_natCast]
  have positive : (0 : ℚ) < count := Nat.cast_pos.mpr some_
  have below := Nat.div_mul_le_self (sum + count / 2) count
  have above := Nat.lt_div_mul_add (a := sum + count / 2) some_
  generalize (sum + count / 2) / count = mean at below above
  have low : 2 * (mean * count) ≤ 2 * sum + count := by omega
  have high : 2 * sum + count < 2 * (mean * count) + 2 * count := by omega
  have halves : (sum : ℚ) / count + 1 / 2 = (2 * sum + count) / (2 * count) := by
    field_simp
  rw [halves]
  constructor
  · rw [le_div_iff₀ (by positivity)]
    have cast : (2 * (mean * count) : ℚ) ≤ 2 * sum + count := by exact_mod_cast low
    linarith
  · rw [div_lt_iff₀ (by positivity)]
    have cast : (2 * sum + count : ℚ) < 2 * (mean * count) + 2 * count := by exact_mod_cast high
    linarith

theorem roundedMean_between {values : List Nat} {low high : Nat} (some_ : 0 < values.length)
    (bounded : ∀ value ∈ values, low ≤ value ∧ value ≤ high) :
    (low : Int) ≤ roundedMean values ∧ roundedMean values ≤ high := by
  have least := List.card_nsmul_le_sum values low fun value member => (bounded value member).1
  have most := List.sum_le_card_nsmul values high fun value member => (bounded value member).2
  rw [smul_eq_mul, Nat.mul_comm] at least most
  rw [roundedMean_eq some_]
  constructor
  · refine Int.ofNat_le.mpr ((Nat.le_div_iff_mul_le some_).mpr ?_)
    omega
  · refine Int.ofNat_le.mpr (Nat.lt_succ_iff.mp ((Nat.div_lt_iff_lt_mul some_).mpr ?_))
    rw [Nat.succ_mul]
    omega

/-! ## The newest values -/

def newest (count : Nat) (values : List Nat) : List Nat :=
  values.drop (values.length - count)

theorem length_newest {count : Nat} {values : List Nat} (enough : count ≤ values.length) :
    (newest count values).length = count := by
  rw [newest, List.length_drop]
  omega

theorem mem_of_newest {count : Nat} {values : List Nat} {value : Nat}
    (member : value ∈ newest count values) : value ∈ values :=
  List.mem_of_mem_drop member

theorem newest_succ {count : Nat} {values : List Nat} (inside : count < values.length) :
    newest (count + 1) values =
      values[values.length - (count + 1)] :: newest count values := by
  unfold newest
  rw [List.drop_eq_getElem_cons (by omega)]
  congr 2
  omega

theorem newest_append {count : Nat} (earlier : List Nat) {values : List Nat}
    (enough : count ≤ values.length) :
    newest count (earlier ++ values) = newest count values := by
  unfold newest
  rw [List.length_append, List.drop_append, List.drop_eq_nil_of_le (by omega), List.nil_append]
  congr 1
  omega

/-- The sum that a ring of the newest values gives. -/
theorem sum_newest {capacity : Nat} {ring : Nat → Nat} {values : List Nat}
    (stores : DropOldest.Stores capacity ring values) {count : Nat}
    (inside : count < values.length) (held : count < capacity) :
    (newest (count + 1) values).sum =
      (newest count values).sum + ring ((values.length - (count + 1)) % capacity) := by
  rw [newest_succ inside, List.sum_cons, stores _ (by omega) (by omega), Nat.add_comm]

theorem sum_newest_le {bound count : Nat} {values : List Nat}
    (bounded : ∀ value ∈ values, value ≤ bound) : (newest count values).sum ≤ count * bound := by
  have most := List.sum_le_card_nsmul (newest count values) bound fun value member =>
    bounded value (mem_of_newest member)
  refine le_trans most (Nat.mul_le_mul_right bound ?_)
  rw [newest, List.length_drop]
  omega

end SleepySensor.RoundedMean
