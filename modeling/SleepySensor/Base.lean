import Mathlib.Data.Rat.Defs
import Mathlib.Algebra.Order.Field.Rat
import Mathlib.Tactic

/-!
# Machine values

Unsigned 32-bit values are natural numbers reduced by `u32`; floats are finite
values, infinities or NaN under the IEEE comparisons (the sign of zero is not
kept).  `CppCmp` is what the templates of the firmware use of their type.
-/

set_option autoImplicit false

namespace SleepySensor

/-- 2^32, the modulus of `uint32_t` and of `size_t` on this target. -/
def u32Mod : Nat := 4294967296

def u32 (n : Nat) : Nat := n % u32Mod

def u32Sub (a b : Nat) : Nat := (a + u32Mod - b) % u32Mod

theorem u32_of_lt {n : Nat} (small : n < u32Mod) : u32 n = n := Nat.mod_eq_of_lt small

theorem u32Sub_of_le {a b : Nat} (le : b ≤ a) (small : a < u32Mod) : u32Sub a b = a - b := by
  have shifted : a + u32Mod - b = (a - b) + u32Mod := by omega
  rw [u32Sub, shifted, Nat.add_mod_right]
  exact Nat.mod_eq_of_lt (by omega)

/-- The difference of two wrapped counters is the wrapped difference. -/
theorem u32Sub_u32 {a b : Nat} (le : b ≤ a) : u32Sub (u32 a) (u32 b) = u32 (a - b) := by
  simp only [u32Sub, u32, u32Mod]
  omega

def int8 (n : Int) : Int := Int.bmod n 256

inductive Flt where
  | fin (value : ℚ)
  | inf (negative : Bool)
  | nan
  deriving DecidableEq, Repr

namespace Flt

def lt : Flt → Flt → Bool
  | .fin a, .fin b => decide (a < b)
  | .fin _, .inf negative => !negative
  | .inf negative, .fin _ => negative
  | .inf a, .inf b => a && !b
  | .nan, _ => false
  | _, .nan => false

/-- The `!=` of C++ on `float`: a NaN differs from everything, itself included. -/
def ne : Flt → Flt → Bool
  | .fin a, .fin b => decide (a ≠ b)
  | .inf a, .inf b => a != b
  | .fin _, .inf _ => true
  | .inf _, .fin _ => true
  | .nan, _ => true
  | _, .nan => true

/-- The `>=` of C++ on `float`. -/
def ge (a b : Flt) : Bool := lt b a || !(ne a b)

theorem eq_of_ne_false {a b : Flt} (same : ne a b = false) : a = b := by
  cases a <;> cases b <;> simp_all [ne]

end Flt

class CppCmp (T : Type) where
  lt : T → T → Bool
  ne : T → T → Bool
  eq_of_ne_false : ∀ a b : T, ne a b = false → a = b

instance : CppCmp Nat := ⟨fun a b => decide (a < b), fun a b => decide (a ≠ b), by simp⟩
instance : CppCmp Int := ⟨fun a b => decide (a < b), fun a b => decide (a ≠ b), by simp⟩
instance : CppCmp Bool := ⟨fun a b => decide (a < b), fun a b => decide (a ≠ b), by simp⟩
instance : CppCmp Flt := ⟨Flt.lt, Flt.ne, fun _ _ => Flt.eq_of_ne_false⟩

def stdClamp {T : Type} [CppCmp T] (value low high : T) : T :=
  if CppCmp.lt value low then low else if CppCmp.lt high value then high else value

theorem stdClamp_int {value low high : Int} (range : low ≤ high) :
    low ≤ stdClamp value low high ∧ stdClamp value low high ≤ high := by
  simp only [stdClamp, CppCmp.lt, decide_eq_true_eq]
  split_ifs <;> omega

theorem int8_of_range {n : Int} (low : -128 ≤ n) (high : n ≤ 127) : int8 n = n := by
  unfold int8
  rw [Int.bmod_eq_of_le] <;> omega

end SleepySensor
