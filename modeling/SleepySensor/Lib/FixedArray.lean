import Mathlib.Tactic

/-!
# Arrays of fixed size

An array is a list that keeps its length.  A store past its end has no outcome.
-/

set_option autoImplicit false

namespace SleepySensor.FixedArray

variable {A : Type}

def store (array : List A) (index : Nat) (value : A) : Option (List A) :=
  if index < array.length then some (array.set index value) else none

theorem store_next (written : List A) (old value : A) (rest : List A) :
    store (written ++ old :: rest) written.length value = some (written ++ value :: rest) := by
  have inside : written.length < (written ++ old :: rest).length := by simp
  rw [store, if_pos inside, List.set_append_right _ _ le_rfl, Nat.sub_self]
  rfl

end SleepySensor.FixedArray
