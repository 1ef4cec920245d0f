import Mathlib.Tactic

/-!
# Texts of fixed layout

A layout is a list of literal characters and of decimal numbers with a fixed
number of digits.  A text is read by it in one way only, and what is printed by
it is read back.
-/

set_option autoImplicit false

namespace SleepySensor.FixedWidth

abbrev Text := List Char

inductive Slot where
  | lit (c : Char)
  | number (width : Nat)
  deriving DecidableEq, Repr

abbrev Layout := List Slot

/-- A value in `width` places, from the highest on. -/
def padded : Nat → Nat → Text
  | 0, _ => []
  | width + 1, value => Nat.digitChar (value / 10 ^ width % 10) :: padded width value

/-- The next `width` digits, behind those that are read already. -/
def readNumber : Nat → Nat → Text → Option (Nat × Text)
  | 0, value, text => some (value, text)
  | _ + 1, _, [] => none
  | width + 1, value, c :: text =>
    if c.isDigit then readNumber width (10 * value + (c.toNat - 48)) text else none

def render : Layout → List Nat → Text
  | [], _ => []
  | .lit c :: layout, values => c :: render layout values
  | .number width :: layout, value :: values => padded width value ++ render layout values
  | .number _ :: layout, [] => render layout []

def scan : Layout → Text → Option (List Nat × Text)
  | [], text => some ([], text)
  | .lit _ :: _, [] => none
  | .lit c :: layout, next :: text => if next = c then scan layout text else none
  | .number width :: layout, text =>
    (readNumber width 0 text).bind fun number =>
      (scan layout number.2).map fun rest => (number.1 :: rest.1, rest.2)

/-- One value for each number, each in its width. -/
def Fits : Layout → List Nat → Prop
  | [], values => values = []
  | .lit _ :: layout, values => Fits layout values
  | .number width :: layout, value :: values => value < 10 ^ width ∧ Fits layout values
  | .number _ :: _, [] => False

theorem Fits.append {first second : Layout} {values more : List Nat} (fits : Fits first values)
    (fits' : Fits second more) : Fits (first ++ second) (values ++ more) := by
  induction first generalizing values with
  | nil =>
    have none_ : values = [] := fits
    rw [none_]
    exact fits'
  | cons slot layout ih =>
    cases slot with
    | lit c => exact ih fits
    | number width =>
      cases values with
      | nil => exact fits.elim
      | cons value values => exact ⟨fits.1, ih fits.2⟩

/-! ## Numbers -/

theorem digit_read : ∀ digit, digit < 10 →
    (Nat.digitChar digit).isDigit = true ∧ (Nat.digitChar digit).toNat - 48 = digit := by
  decide

theorem readNumber_padded (width value before : Nat) (rest : Text) :
    readNumber width before (padded width value ++ rest) =
      some (before * 10 ^ width + value % 10 ^ width, rest) := by
  induction width generalizing before with
  | zero => simp [readNumber, padded, Nat.mod_one]
  | succ width ih =>
    obtain ⟨isDigit, same⟩ := digit_read (value / 10 ^ width % 10) (Nat.mod_lt _ (by omega))
    simp only [padded, List.cons_append, readNumber, isDigit, if_true, same, ih]
    have split : value % 10 ^ (width + 1) =
        value % 10 ^ width + 10 ^ width * (value / 10 ^ width % 10) := by
      rw [pow_succ, Nat.mod_mul]
    rw [split]
    congr 2
    ring

/-! ## Layouts -/

theorem scan_render {layout : Layout} {values : List Nat} (fits : Fits layout values)
    (rest : Text) : scan layout (render layout values ++ rest) = some (values, rest) := by
  induction layout generalizing values with
  | nil =>
    have none_ : values = [] := fits
    rw [none_]
    rfl
  | cons slot layout ih =>
    cases slot with
    | lit c => simp only [render, List.cons_append, scan, if_true, ih fits]
    | number width =>
      cases values with
      | nil => exact fits.elim
      | cons value values =>
        obtain ⟨small, fits⟩ := fits
        simp only [render, List.append_assoc, scan, readNumber_padded, Option.bind_some, ih fits,
          Option.map_some, Nat.zero_mul, Nat.zero_add, Nat.mod_eq_of_lt small]

theorem readNumber_short (width more value before : Nat) {c : Char} (rest : Text)
    (notDigit : c.isDigit = false) :
    readNumber (width + (more + 1)) before (padded width value ++ c :: rest) = none := by
  induction width generalizing before with
  | zero => simp [readNumber, padded, notDigit]
  | succ width ih =>
    obtain ⟨isDigit, _⟩ := digit_read (value / 10 ^ width % 10) (Nat.mod_lt _ (by omega))
    have wide : width + 1 + (more + 1) = width + (more + 1) + 1 := by omega
    rw [wide, padded, List.cons_append, readNumber, if_pos isDigit, ih]

theorem isDigit_of_mem_padded {width value : Nat} {c : Char} (member : c ∈ padded width value) :
    c.isDigit = true := by
  induction width with
  | zero => cases member
  | succ width ih =>
    rcases List.mem_cons.mp member with rfl | later
    · exact (digit_read _ (Nat.mod_lt _ (by omega))).1
    · exact ih later

theorem mem_render {layout : Layout} {values : List Nat} {c : Char}
    (member : c ∈ render layout values) : c.isDigit = true ∨ Slot.lit c ∈ layout := by
  induction layout generalizing values with
  | nil => cases member
  | cons slot layout ih =>
    cases slot with
    | lit next =>
      rcases List.mem_cons.mp member with rfl | later
      · exact Or.inr List.mem_cons_self
      · exact (ih later).imp_right (List.mem_cons_of_mem _)
    | number width =>
      cases values with
      | nil => exact (ih member).imp_right (List.mem_cons_of_mem _)
      | cons value values =>
        rcases List.mem_append.mp member with digit | later
        · exact Or.inl (isDigit_of_mem_padded digit)
        · exact (ih later).imp_right (List.mem_cons_of_mem _)

end SleepySensor.FixedWidth
