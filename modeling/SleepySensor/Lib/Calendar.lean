import Mathlib.Tactic

/-!
# The proleptic Gregorian calendar

Days are counted from 1 January of year 1, which is day 0 here.
-/

set_option autoImplicit false

namespace SleepySensor.Calendar

def isLeap (year : Nat) : Bool :=
  decide (year % 4 = 0 ∧ (year % 100 ≠ 0 ∨ year % 400 = 0))

def yearLength (year : Nat) : Nat := if isLeap year then 366 else 365

def monthLengths (year : Nat) : List Nat :=
  [31, if isLeap year then 29 else 28, 31, 30, 31, 30, 31, 31, 30, 31, 30, 31]

def daysBeforeYear (year : Nat) : Nat :=
  (year - 1) * 365 + (year - 1) / 4 - (year - 1) / 100 + (year - 1) / 400

def daysInMonth (year month : Nat) : Nat := (monthLengths year).getD (month - 1) 0

structure Date where
  year : Nat
  month : Nat
  day : Nat
  year_ : 1 ≤ year
  month_ : 1 ≤ month ∧ month ≤ 12
  day_ : 1 ≤ day ∧ day ≤ daysInMonth year month

/-- A year and the day in it, from 0 on. -/
def splitYear (days : Nat) : Nat × Nat :=
  let era := days / 146097
  let inEra := days % 146097
  let century := inEra / 36524
  let inCentury := inEra % 36524
  let cycle := inCentury / 1461
  let inCycle := inCentury % 1461
  let year := era * 400 + century * 100 + cycle * 4 + inCycle / 365
  if inCycle / 365 = 4 ∨ century = 4 then (year, 365) else (year + 1, inCycle % 365)

/-! ## Years in eras of 400, centuries and cycles of four -/

/-- The year with these numbers of whole eras, centuries, cycles and years before it. -/
def yearAt (era century cycle rest : Nat) : Nat := era * 400 + century * 100 + cycle * 4 + rest + 1

section Parts

variable {era century cycle rest : Nat}

theorem exists_parts (year : Nat) (positive : 1 ≤ year) :
    ∃ era century cycle rest, century < 4 ∧ cycle < 25 ∧ rest < 4 ∧
      year = yearAt era century cycle rest :=
  ⟨(year - 1) / 400, (year - 1) % 400 / 100, (year - 1) % 100 / 4, (year - 1) % 4,
    by omega, by omega, by omega, by unfold yearAt; omega⟩

theorem isLeap_yearAt (century_ : century < 4) (cycle_ : cycle < 25) (rest_ : rest < 4) :
    isLeap (yearAt era century cycle rest) = true ↔ rest = 3 ∧ (cycle ≠ 24 ∨ century = 3) := by
  have fourth : yearAt era century cycle rest % 4 = (rest + 1) % 4 := by
    unfold yearAt
    omega
  have hundredth : yearAt era century cycle rest % 100 = (cycle * 4 + rest + 1) % 100 := by
    unfold yearAt
    omega
  have last : yearAt era century cycle rest % 400 =
      (century * 100 + cycle * 4 + rest + 1) % 400 := by
    unfold yearAt
    omega
  rw [isLeap, decide_eq_true_eq, fourth, hundredth, last]
  omega

theorem daysBeforeYear_yearAt (century_ : century < 4) (cycle_ : cycle < 25) (rest_ : rest < 4) :
    daysBeforeYear (yearAt era century cycle rest) =
      era * 146097 + century * 36524 + cycle * 1461 + rest * 365 := by
  have fourth : (yearAt era century cycle rest - 1) / 4 = era * 100 + century * 25 + cycle := by
    unfold yearAt
    omega
  have hundredth : (yearAt era century cycle rest - 1) / 100 = era * 4 + century := by
    unfold yearAt
    omega
  have last : (yearAt era century cycle rest - 1) / 400 = era := by
    unfold yearAt
    omega
  rw [daysBeforeYear, fourth, hundredth, last]
  unfold yearAt
  omega

theorem yearLength_yearAt (century_ : century < 4) (cycle_ : cycle < 25) (rest_ : rest < 4) :
    yearLength (yearAt era century cycle rest) =
      if rest = 3 ∧ (cycle ≠ 24 ∨ century = 3) then 366 else 365 := by
  rw [yearLength]
  split
  case isTrue leap => rw [if_pos ((isLeap_yearAt century_ cycle_ rest_).mp leap)]
  case isFalse common =>
    rw [if_neg fun parts => common ((isLeap_yearAt century_ cycle_ rest_).mpr parts)]

end Parts

theorem daysBeforeYear_succ {year : Nat} (positive : 1 ≤ year) :
    daysBeforeYear (year + 1) = daysBeforeYear year + yearLength year := by
  obtain ⟨era, century, cycle, rest, century_, cycle_, rest_, rfl⟩ := exists_parts year positive
  rw [daysBeforeYear_yearAt century_ cycle_ rest_, yearLength_yearAt century_ cycle_ rest_]
  have year : yearAt era century cycle rest = era * 400 + century * 100 + cycle * 4 + rest + 1 :=
    rfl
  have fourth : yearAt era century cycle rest / 4 =
      era * 100 + century * 25 + cycle + if rest = 3 then 1 else 0 := by split <;> omega
  have hundredth : yearAt era century cycle rest / 100 =
      era * 4 + century + if cycle = 24 ∧ rest = 3 then 1 else 0 := by split <;> omega
  have last : yearAt era century cycle rest / 400 =
      era + if century = 3 ∧ cycle = 24 ∧ rest = 3 then 1 else 0 := by split <;> omega
  rw [daysBeforeYear, Nat.add_sub_cancel, fourth, hundredth, last, year]
  split_ifs <;> omega

theorem splitYear_parts (days : Nat) :
    ∃ era century cycle rest day, century < 4 ∧ cycle < 25 ∧ rest < 4 ∧
      splitYear days = (yearAt era century cycle rest, day) ∧
      (day < 365 ∨ day = 365 ∧ rest = 3 ∧ (cycle ≠ 24 ∨ century = 3)) ∧
      era * 146097 + century * 36524 + cycle * 1461 + rest * 365 + day = days := by
  unfold splitYear
  dsimp only
  split
  case isTrue last =>
    by_cases full : days % 146097 / 36524 = 4
    · refine ⟨days / 146097, 3, 24, 3, 365, by omega, by omega, by omega, ?_, by omega, by omega⟩
      have cycle : days % 146097 % 36524 / 1461 = 0 := by omega
      have day : days % 146097 % 36524 % 1461 / 365 = 0 := by omega
      rw [full, cycle, day]
      rfl
    · have four := last.resolve_right full
      refine ⟨days / 146097, days % 146097 / 36524, days % 146097 % 36524 / 1461, 3, 365,
        by omega, by omega, by omega, ?_, by omega, by omega⟩
      rw [four]
      rfl
  case isFalse inner =>
    exact ⟨days / 146097, days % 146097 / 36524, days % 146097 % 36524 / 1461,
      days % 146097 % 36524 % 1461 / 365, days % 146097 % 36524 % 1461 % 365,
      by omega, by omega, by omega, rfl, by omega, by omega⟩

theorem splitYear_spec (days : Nat) :
    1 ≤ (splitYear days).1 ∧ (splitYear days).2 < yearLength (splitYear days).1 ∧
      daysBeforeYear (splitYear days).1 + (splitYear days).2 = days := by
  obtain ⟨era, century, cycle, rest, day, century_, cycle_, rest_, parts, inYear, sum⟩ :=
    splitYear_parts days
  rw [parts]
  refine ⟨by simp [yearAt], ?_, ?_⟩
  · rw [yearLength_yearAt century_ cycle_ rest_]
    split <;> omega
  · rw [daysBeforeYear_yearAt century_ cycle_ rest_]
    exact sum

theorem daysBeforeYear_mono {first later : Nat} (positive : 1 ≤ first) (le : first ≤ later) :
    daysBeforeYear first ≤ daysBeforeYear later := by
  induction later, le using Nat.le_induction with
  | base => exact Nat.le_refl _
  | succ later le ih =>
    rw [daysBeforeYear_succ (positive.trans le)]
    exact ih.trans (Nat.le_add_right _ _)

/-! ## Months -/

/-- The part of a sequence of lengths that a place lies in, and the place in it. -/
def locate : List Nat → Nat → Nat × Nat
  | [], place => (0, place)
  | length :: rest, place =>
    if place < length then (0, place)
    else ((locate rest (place - length)).1 + 1, (locate rest (place - length)).2)

theorem locate_spec {lengths : List Nat} {place : Nat} (inside : place < lengths.sum) :
    (locate lengths place).2 < lengths.getD (locate lengths place).1 0 ∧
      (lengths.take (locate lengths place).1).sum + (locate lengths place).2 = place := by
  induction lengths generalizing place with
  | nil => exact absurd inside (Nat.not_lt_zero _)
  | cons length rest ih =>
    rw [List.sum_cons] at inside
    unfold locate
    split
    case isTrue here => exact ⟨here, by simp⟩
    case isFalse later =>
      obtain ⟨within, sum⟩ := @ih (place - length) (by omega)
      refine ⟨within, ?_⟩
      rw [List.take_succ_cons, List.sum_cons]
      omega

theorem sum_monthLengths (year : Nat) : (monthLengths year).sum = yearLength year := by
  unfold monthLengths yearLength
  split <;> rfl

theorem month_of_day {year part place : Nat} (within : place < (monthLengths year).getD part 0) :
    part < 12 := by
  by_contra beyond
  have none_ : (monthLengths year)[part]? = none :=
    List.getElem?_eq_none (by simpa [monthLengths] using beyond)
  rw [List.getD_eq_getElem?_getD, none_] at within
  exact Nat.not_lt_zero _ within

theorem daysInMonth_le (year month : Nat) : daysInMonth year month ≤ 31 := by
  unfold daysInMonth
  by_cases inside : month - 1 < 12
  · have cases_ : month - 1 ∈ List.range 12 := List.mem_range.mpr inside
    generalize month - 1 = part at cases_
    unfold monthLengths
    fin_cases cases_ <;> cases isLeap year <;> decide
  · have none_ : (monthLengths year)[month - 1]? = none :=
      List.getElem?_eq_none (by simpa [monthLengths] using inside)
    rw [List.getD_eq_getElem?_getD, none_]
    exact Nat.zero_le _

/-! ## Days -/

namespace Date

def number (date : Date) : Nat :=
  daysBeforeYear date.year + (((monthLengths date.year).take (date.month - 1)).sum + (date.day - 1))

def ofNumber (days : Nat) : Date :=
  let split := splitYear days
  let month := locate (monthLengths split.1) split.2
  have spec := splitYear_spec days
  have within := (locate_spec ((sum_monthLengths split.1).symm ▸ spec.2.1)).1
  { year := split.1
    month := month.1 + 1
    day := month.2 + 1
    year_ := spec.1
    month_ := ⟨Nat.le_add_left 1 _, month_of_day within⟩
    day_ := ⟨Nat.le_add_left 1 _, within⟩ }

theorem number_ofNumber (days : Nat) : (ofNumber days).number = days := by
  obtain ⟨_, inYear, sum⟩ := splitYear_spec days
  obtain ⟨_, inMonth⟩ := @locate_spec (monthLengths (splitYear days).1) (splitYear days).2
    (by rw [sum_monthLengths]; exact inYear)
  simp only [number, ofNumber, Nat.add_sub_cancel]
  rw [inMonth, sum]

theorem ofNumber_year_lt {days year : Nat} (positive : 1 ≤ year)
    (before : days < daysBeforeYear year) :
    (ofNumber days).year < year := by
  obtain ⟨_, _, sum⟩ := splitYear_spec days
  have split : (ofNumber days).year = (splitYear days).1 := rfl
  by_contra reached
  have le := daysBeforeYear_mono positive (by omega : year ≤ (splitYear days).1)
  omega

end Date

end SleepySensor.Calendar
