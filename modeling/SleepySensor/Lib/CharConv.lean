import Mathlib.Tactic
import Mathlib.Data.List.TakeWhile

/-!
# Unsigned decimal numbers

`std::from_chars` for an unsigned type: it takes the longest run of decimal digits,
without a sign and without blanks, and reports where the run ends.
-/

set_option autoImplicit false

namespace SleepySensor.CharConv

/-- The number that a run of digits denotes. -/
def decimal (run : List Char) : Nat :=
  run.foldl (fun value c => 10 * value + (c.toNat - '0'.toNat)) 0

/-- A run of decimal digits that is not empty. -/
def IsRun (text : List Char) : Prop := text ≠ [] ∧ text.all Char.isDigit = true

inductive Errc where
  | invalidArgument
  | resultOutOfRange
  deriving DecidableEq, Repr

/-- `std::from_chars_result`, and the value, which is left alone on an error. -/
structure FromChars where
  ptr : Nat
  ec : Option Errc := none
  value : Nat := 0
  deriving DecidableEq, Repr

/-- The outcome for the run that a text begins with. -/
def ofRun (limit : Nat) (run : List Char) : FromChars :=
  if run = [] then { ptr := 0, ec := some .invalidArgument }
  else if decimal run < limit then { ptr := run.length, value := decimal run }
  else { ptr := run.length, ec := some .resultOutOfRange }

/-- For a type of the values below a limit. -/
def fromChars (limit : Nat) (text : List Char) : FromChars :=
  ofRun limit (text.takeWhile Char.isDigit)

variable {limit : Nat} {text run : List Char}

theorem ofRun_ptr : (ofRun limit run).ptr = run.length := by
  unfold ofRun
  split
  case isTrue none_ => rw [none_]; rfl
  case isFalse => split <;> rfl

theorem ofRun_clean_iff : (ofRun limit run).ec = none ↔ run ≠ [] ∧ decimal run < limit := by
  unfold ofRun
  split
  case isTrue none_ => simp [none_]
  case isFalse some_ => split <;> simp [*]

theorem fromChars_whole_iff :
    ((fromChars limit text).ec = none ∧ (fromChars limit text).ptr = text.length) ↔
      IsRun text ∧ decimal text < limit := by
  rw [fromChars, ofRun_clean_iff, ofRun_ptr]
  constructor
  · rintro ⟨⟨some_, small⟩, whole⟩
    have same : text.takeWhile Char.isDigit = text :=
      (List.takeWhile_prefix _).eq_of_length whole
    rw [same] at some_ small
    exact ⟨⟨some_, List.all_eq_true.mpr (List.takeWhile_eq_self_iff.mp same)⟩, small⟩
  · rintro ⟨⟨some_, digits⟩, small⟩
    rw [List.takeWhile_eq_self_iff.mpr (List.all_eq_true.mp digits)]
    exact ⟨⟨some_, small⟩, rfl⟩

theorem fromChars_value (run : IsRun text) (small : decimal text < limit) :
    (fromChars limit text).value = decimal text := by
  rw [fromChars, List.takeWhile_eq_self_iff.mpr (List.all_eq_true.mp run.2), ofRun,
    if_neg run.1, if_pos small]

end SleepySensor.CharConv
