import Mathlib.Data.List.GetD
import Mathlib.Algebra.Group.Nat.Even

/-!
# Cyclic redundancy checks

A register that takes bits one after the other, each shifting it by one place
and adding the polynomial where a bit falls out.  What two messages leave in it
differs by what their difference leaves in a register of zeros.
-/

set_option autoImplicit false

namespace SleepySensor.Crc

variable {w : Nat} (poly : BitVec w)

def step (register : BitVec w) (bit : Bool) : BitVec w :=
  if register.msb ^^ bit then (register <<< 1) ^^^ poly else register <<< 1

def feed (register : BitVec w) (bits : List Bool) : BitVec w := bits.foldl (step poly) register

theorem feed_append (register : BitVec w) (first later : List Bool) :
    feed poly register (first ++ later) = feed poly (feed poly register first) later :=
  List.foldl_append

theorem step_xor (r s : BitVec w) (b c : Bool) :
    step poly (r ^^^ s) (b ^^ c) = step poly r b ^^^ step poly s c := by
  have both : ((r ^^^ s).msb ^^ (b ^^ c)) = ((r.msb ^^ b) ^^ (s.msb ^^ c)) := by
    rw [BitVec.msb_xor]
    cases r.msb <;> cases s.msb <;> cases b <;> cases c <;> rfl
  have shifted : (r ^^^ s) <<< 1 = r <<< 1 ^^^ s <<< 1 := BitVec.shiftLeft_xor_distrib r s 1
  unfold step
  rw [both, shifted]
  cases r.msb ^^ b <;> cases s.msb ^^ c <;> ext i <;> simp <;> cases poly[i] <;> simp

theorem feed_xor (bits errors : List Bool) (same : bits.length = errors.length) (r s : BitVec w) :
    feed poly (r ^^^ s) (bits.zipWith (· ^^ ·) errors) =
      feed poly r bits ^^^ feed poly s errors := by
  induction bits generalizing errors r s with
  | nil =>
    obtain rfl : errors = [] := List.length_eq_zero_iff.mp same.symm
    rfl
  | cons bit bits ih =>
    cases errors with
    | nil => cases same
    | cons error errors =>
      have later := ih errors (Nat.succ.inj same) (step poly r bit) (step poly s error)
      rw [← step_xor] at later
      exact later

theorem feed_zeros (n : Nat) : feed poly 0#w (List.replicate n false) = 0#w := by
  induction n with
  | zero => rfl
  | succ n ih =>
    have still : step poly 0#w false = 0#w := by simp [step]
    rw [List.replicate_succ]
    show feed poly (step poly 0#w false) _ = _
    rw [still]
    exact ih

variable {poly}

theorem lowest (positive : 0 < w) (register : BitVec w) :
    register.getMsbD (w - 1) = register.getLsbD 0 := by
  have last : w - 1 - (w - 1) = 0 := Nat.sub_self _
  rw [BitVec.getMsbD, decide_eq_true (by omega), Bool.true_and, last]

/-- Few enough bits that end in zeros have put themselves in front of the register. -/
theorem feed_short (odd : poly.getLsbD 0 = true) {register : BitVec w} {bits : List Bool}
    (short : bits.length ≤ w) (ends : feed poly register bits = 0#w) (i : Nat) :
    register.getMsbD i = bits.getD i false := by
  induction bits generalizing register i with
  | nil =>
    obtain rfl : register = 0#w := ends
    simp
  | cons bit bits ih =>
    rw [List.length_cons] at short
    have later := fun i => ih (Nat.le_of_succ_le short) ends i
    have last : (step poly register bit).getMsbD (w - 1) = false := by
      rw [later]
      exact List.getD_eq_default bits false (by omega)
    have out : (register.msb ^^ bit) = false := by
      cases falls : register.msb ^^ bit with
      | false => rfl
      | true =>
        have positive : 0 < w := by omega
        rw [step, falls, if_pos rfl, lowest positive, BitVec.getLsbD_xor, odd,
          BitVec.getLsbD_shiftLeft] at last
        simp at last
    have shifted : step poly register bit = register <<< 1 := by
      rw [step, out, if_neg (by decide)]
    cases i with
    | zero =>
      have first : register.msb = bit := by
        revert out
        cases register.msb <;> cases bit <;> decide
      rw [← first, BitVec.msb]
      rfl
    | succ i =>
      have moved := later i
      rw [shifted, BitVec.getMsbD_shiftLeft] at moved
      rw [Nat.add_comm] at moved
      simpa [Nat.add_comm] using moved

theorem eq_zero_of_digits {register : BitVec w} (digits : ∀ i, register.getMsbD i = false) :
    register = 0#w := by
  apply BitVec.eq_of_getMsbD_eq
  intro i _
  rw [digits, BitVec.getMsbD_zero]

theorem feed_replicate_eq_zero (odd : poly.getLsbD 0 = true) (positive : 0 < w)
    {register : BitVec w} {n : Nat} (ends : feed poly register (List.replicate n false) = 0#w) :
    register = 0#w := by
  induction n generalizing register with
  | zero => exact ends
  | succ n ih =>
    have stepped : feed poly register [false] = 0#w := ih ends
    apply eq_zero_of_digits
    intro i
    rw [feed_short odd (by exact positive : [false].length ≤ w) stepped]
    cases i <;> rfl

/-- Bits among zeros, no more of them than the register has, leave nothing only if
there are none set. -/
theorem burst_clear (odd : poly.getLsbD 0 = true) (positive : 0 < w) {before after : Nat}
    {bits : List Bool} (short : bits.length ≤ w)
    (undetected : feed poly 0#w
      (List.replicate before false ++ bits ++ List.replicate after false) = 0#w) :
    ∀ bit ∈ bits, bit = false := by
  rw [feed_append, feed_append, feed_zeros] at undetected
  have ends := feed_replicate_eq_zero odd positive undetected
  intro bit listed
  obtain ⟨i, here, rfl⟩ := List.getElem_of_mem listed
  have digit := feed_short odd short ends i
  rw [BitVec.getMsbD_zero, List.getD_eq_getElem _ _ here] at digit
  exact digit.symm

/-- A parity that each step adds the bit to is that of the bits. -/
theorem feed_parity {parity : BitVec w → Bool}
    (adds : ∀ register bit, parity (step poly register bit) = (parity register ^^ bit))
    (register : BitVec w) (bits : List Bool) :
    parity (feed poly register bits) = (parity register ^^ decide (bits.count true % 2 = 1)) := by
  induction bits generalizing register with
  | nil => simp [feed]
  | cons bit bits ih =>
    show parity (feed poly (step poly register bit) bits) = _
    rw [ih, adds]
    cases bit with
    | false => simp
    | true =>
      rw [List.count_cons_self]
      cases parity register <;>
        rcases Nat.mod_two_eq_zero_or_one (bits.count true) with even | odd <;>
        simp [Nat.add_mod, *]

end SleepySensor.Crc
