import SleepySensor.Base
import SleepySensor.Lib.CharConv
import SleepySensor.Lib.FixedArray

/-!
# IPv4 literals

`parseIpv4` reads the fields between the dots one after the other into four octets.
-/

set_option autoImplicit false

namespace SleepySensor.Ipv4

open CharConv FixedArray

/-- `std::views::split`, which has no field for an empty range. -/
def viewsSplit (separator : Char) (text : List Char) : List (List Char) :=
  if text = [] then [] else text.splitOn separator

/-- The loop over the fields.  There is no outcome for a store past the octets. -/
def parseFields : List (List Char) → List UInt8 → Nat → Option (Option (List UInt8))
  | [], octets, n => some (if n = 4 then some octets else none)
  | tok :: rest, octets, n =>
    let read := fromChars u32Mod tok
    if octets.length ≤ n ∨ read.ec ≠ none ∨ read.ptr ≠ tok.length ∨ 255 < read.value then
      some none
    else
      (store octets n (UInt8.ofNat read.value)).bind fun octets => parseFields rest octets (n + 1)

def parseIpv4 (s : List Char) : Option (Option (List UInt8)) :=
  parseFields (viewsSplit '.' s) [0, 0, 0, 0] 0

/-! ## What is accepted -/

/-- Digits, as many as there may be, for a number of at most 255. -/
def IsOctet (field : List Char) : Prop := IsRun field ∧ decimal field ≤ 255

instance (field : List Char) : Decidable (IsOctet field) :=
  inferInstanceAs (Decidable ((field ≠ [] ∧ field.all Char.isDigit = true) ∧ decimal field ≤ 255))

def octetOf (field : List Char) : UInt8 := UInt8.ofNat (decimal field)

/-- Four octets with dots between them, and what they denote. -/
structure Dotted (s : List Char) (octets : List UInt8) : Prop where
  literal : ∃ a b c d, s = a ++ '.' :: (b ++ '.' :: (c ++ '.' :: d)) ∧
    (∀ field ∈ [a, b, c, d], IsOctet field) ∧
    octets.map UInt8.toNat = [decimal a, decimal b, decimal c, decimal d]

theorem octetOf_toNat {field : List Char} (octet : IsOctet field) :
    (octetOf field).toNat = decimal field := by
  have small := octet.2
  simp only [octetOf, UInt8.toNat_ofNat']
  omega

theorem refused_iff {tok : List Char} {octets : List UInt8} {n : Nat} :
    (octets.length ≤ n ∨ (fromChars u32Mod tok).ec ≠ none ∨
      (fromChars u32Mod tok).ptr ≠ tok.length ∨ 255 < (fromChars u32Mod tok).value) ↔
      ¬(n < octets.length ∧ IsOctet tok) := by
  by_cases whole : IsRun tok ∧ decimal tok < u32Mod
  · obtain ⟨clean, ended⟩ := fromChars_whole_iff.mpr whole
    rw [clean, ended, fromChars_value whole.1 whole.2]
    have run := whole.1
    simp only [IsOctet, run, true_and, ne_eq, not_true_eq_false, false_or, not_and, not_le]
    omega
  · have failed := fromChars_whole_iff.not.mpr whole
    have noOctet : ¬IsOctet tok := fun octet =>
      whole ⟨octet.1, octet.2.trans_lt (by decide)⟩
    simp only [noOctet, and_false, not_false_eq_true, iff_true]
    rw [not_and_or] at failed
    rcases failed with error | early
    · exact .inr (.inl error)
    · exact .inr (.inr (.inl early))

theorem parseFields_eq (fields : List (List Char)) (written rest : List UInt8)
    (whole : written.length + rest.length = 4) :
    parseFields fields (written ++ rest) written.length =
      some (if fields.length = rest.length ∧ ∀ field ∈ fields, IsOctet field then
        some (written ++ fields.map octetOf) else none) := by
  induction fields generalizing written rest with
  | nil =>
    rcases rest with _ | ⟨old, rest⟩
    · have four : written.length = 4 := whole
      simp [parseFields, four]
    · have short : written.length ≠ 4 := by
        rw [List.length_cons] at whole
        omega
      simp [parseFields, short]
  | cons tok fields ih =>
    rw [parseFields]
    by_cases taken : written.length < (written ++ rest).length ∧ IsOctet tok
    · rw [if_neg (refused_iff.not.mpr (not_not.mpr taken))]
      obtain ⟨place, octet⟩ := taken
      rcases rest with _ | ⟨old, rest⟩
      · simp at place
      have value : (fromChars u32Mod tok).value = decimal tok :=
        fromChars_value octet.1 (octet.2.trans_lt (by decide))
      have later := ih (written ++ [octetOf tok]) rest (by simp at whole ⊢; omega)
      rw [List.append_assoc, List.singleton_append, List.length_append, List.length_singleton]
        at later
      rw [value, store_next, Option.bind_some]
      apply later.trans
      simp [octet]
    · rw [if_pos (refused_iff.mpr taken), if_neg]
      rintro ⟨sameLength, octets⟩
      refine taken ⟨?_, octets tok List.mem_cons_self⟩
      rw [List.length_append, ← sameLength, List.length_cons]
      omega

/-! ## The fields of a literal -/

theorem no_dot {field : List Char} (octet : IsOctet field) : '.' ∉ field := by
  intro dot
  have digit := List.all_eq_true.mp octet.1.2 '.' dot
  exact absurd digit (by decide)

theorem four_joined (a b c d : List Char) :
    ['.'].intercalate [a, b, c, d] = a ++ '.' :: (b ++ '.' :: (c ++ '.' :: d)) := by
  simp [List.intercalate_cons_cons, List.intercalate_singleton]

theorem dotted_iff (s : List Char) (octets : List UInt8) :
    Dotted s octets ↔
      ((viewsSplit '.' s).length = 4 ∧ ∀ field ∈ viewsSplit '.' s, IsOctet field) ∧
        octets = (viewsSplit '.' s).map octetOf := by
  constructor
  · rintro ⟨a, b, c, d, rfl, all, denoted⟩
    have apart : ∀ field ∈ [a, b, c, d], '.' ∉ field := fun field listed =>
      no_dot (all field listed)
    have fields : viewsSplit '.' (a ++ '.' :: (b ++ '.' :: (c ++ '.' :: d))) = [a, b, c, d] := by
      rw [viewsSplit, if_neg (by simp), ← four_joined]
      exact List.splitOn_intercalate '.' apart (by simp)
    rw [fields]
    refine ⟨⟨rfl, all⟩, ?_⟩
    apply (List.map_injective_iff.mpr fun _ _ => UInt8.toNat_inj.mp)
    rw [denoted, List.map_map]
    simp only [List.forall_mem_cons] at all
    obtain ⟨first, second, third, fourth, -⟩ := all
    simp [octetOf_toNat, *]
  · rintro ⟨⟨four, all⟩, rfl⟩
    unfold viewsSplit at four all ⊢
    split at four
    · cases four
    case isFalse some_ =>
      rw [if_neg some_] at all ⊢
      have joined := @List.intercalate_splitOn _ s _ _ '.'
      obtain ⟨a, b, c, d, fields⟩ := List.length_eq_four.mp four
      rw [fields] at joined all ⊢
      refine ⟨a, b, c, d, joined.symm.trans (four_joined a b c d), all, ?_⟩
      simp only [List.forall_mem_cons] at all
      obtain ⟨first, second, third, fourth, -⟩ := all
      simp [octetOf_toNat, *]

/-! ## The parser -/

theorem parseIpv4_exact (s : List Char) :
    ∃ result, parseIpv4 s = some result ∧ ∀ octets, result = some octets ↔ Dotted s octets := by
  refine ⟨_, parseFields_eq (viewsSplit '.' s) [] [0, 0, 0, 0] rfl, fun octets => ?_⟩
  rw [dotted_iff, List.nil_append]
  split
  case isTrue accepted =>
    rw [Option.some_inj]
    exact ⟨fun same => ⟨accepted, same.symm⟩, fun dotted => dotted.2.symm⟩
  case isFalse refused =>
    exact ⟨fun none_ => (nomatch none_), fun dotted => (refused dotted.1).elim⟩

example : parseIpv4 "192.168.000000000001.20".toList = some (some [192, 168, 1, 20]) := by decide
example : parseIpv4 "1.2.3.4.".toList = some none := by decide

end SleepySensor.Ipv4
