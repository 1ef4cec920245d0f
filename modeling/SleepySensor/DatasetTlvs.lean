import SleepySensor.Base
import SleepySensor.Lib.FixedArray

/-!
# The Thread dataset of the secrets

`parse_dataset_tlvs` checks the length of its hex string and then takes two digits a
byte.  `hex_nibble` cannot report a character that is no digit: it gives zero.
-/

set_option autoImplicit false

namespace SleepySensor.DatasetTlvs

open FixedArray

/-- `otOperationalDatasetTlvs`, whose array has `OT_OPERATIONAL_DATASET_MAX_LENGTH` bytes. -/
structure OtOperationalDatasetTlvs where
  mTlvs : List UInt8
  mLength : UInt8
  deriving DecidableEq, Repr

def hexNibble (c : Char) : UInt8 :=
  if '0' ≤ c ∧ c ≤ '9' then UInt8.ofNat (c.toNat - '0'.toNat)
  else if 'a' ≤ c ∧ c ≤ 'f' then UInt8.ofNat (c.toNat - 'a'.toNat + 10)
  else if 'A' ≤ c ∧ c ≤ 'F' then UInt8.ofNat (c.toNat - 'A'.toNat + 10)
  else 0

def byteOf (high low : Char) : UInt8 := hexNibble high <<< 4 ||| hexNibble low

/-- The loop over the pairs of digits.  There is no outcome for a store past the array. -/
def parsePairs : List Char → OtOperationalDatasetTlvs → Option OtOperationalDatasetTlvs
  | high :: low :: rest, out =>
    (store out.mTlvs out.mLength.toNat (byteOf high low)).bind fun tlvs =>
      parsePairs rest ⟨tlvs, out.mLength + 1⟩
  | _, out => some out

def parseDatasetTlvs (maxLength : Nat) (hex : List Char) (out : OtOperationalDatasetTlvs) :
    Option (Bool × OtOperationalDatasetTlvs) :=
  if hex.length = 0 ∨ hex.length % 2 ≠ 0 ∨ maxLength < hex.length / 2 then some (false, out)
  else
    (parsePairs hex ⟨List.replicate maxLength 0, 0⟩).map fun parsed => (true, parsed)

/-! ## Digits -/

def IsHex (c : Char) : Prop := '0' ≤ c ∧ c ≤ '9' ∨ 'a' ≤ c ∧ c ≤ 'f' ∨ 'A' ≤ c ∧ c ≤ 'F'

instance (c : Char) : Decidable (IsHex c) :=
  inferInstanceAs (Decidable ('0' ≤ c ∧ c ≤ '9' ∨ 'a' ≤ c ∧ c ≤ 'f' ∨ 'A' ≤ c ∧ c ≤ 'F'))

def digits : List Char :=
  ['0', '1', '2', '3', '4', '5', '6', '7', '8', '9', 'a', 'b', 'c', 'd', 'e', 'f', 'A', 'B', 'C',
    'D', 'E', 'F']

theorem mem_digits {c : Char} (hex : IsHex c) : c ∈ digits := by
  have range : ∀ {low high : Char}, low ≤ c ∧ c ≤ high →
      low.toNat ≤ c.toNat ∧ c.toNat ≤ high.toNat := fun between =>
    ⟨UInt32.le_iff_toNat_le.mp between.1, UInt32.le_iff_toNat_le.mp between.2⟩
  rw [← Char.ofNat_toNat c]
  rcases hex with decimal | lower | upper
  · have between : 48 ≤ c.toNat ∧ c.toNat ≤ 57 := range decimal
    generalize c.toNat = code at between
    obtain ⟨low, high⟩ := between
    interval_cases code <;> decide
  · have between : 97 ≤ c.toNat ∧ c.toNat ≤ 102 := range lower
    generalize c.toNat = code at between
    obtain ⟨low, high⟩ := between
    interval_cases code <;> decide
  · have between : 65 ≤ c.toNat ∧ c.toNat ≤ 70 := range upper
    generalize c.toNat = code at between
    obtain ⟨low, high⟩ := between
    interval_cases code <;> decide

def hexText (bytes : List UInt8) : List Char :=
  bytes.flatMap fun byte => [Nat.digitChar (byte.toNat / 16), Nat.digitChar (byte.toNat % 16)]

theorem byteOf_text {high low : Char} (first : IsHex high) (second : IsHex low) :
    hexText [byteOf high low] = [high.toLower, low.toLower] := by
  have checked : digits.all (fun high => digits.all fun low =>
      decide (hexText [byteOf high low] = [high.toLower, low.toLower])) = true := by
    decide +kernel
  have row := List.all_eq_true.mp checked high (mem_digits first)
  exact of_decide_eq_true (List.all_eq_true.mp row low (mem_digits second))

/-! ## The loop -/

def bytesOf : List Char → List UInt8
  | high :: low :: rest => byteOf high low :: bytesOf rest
  | _ => []

theorem bytesOf_length (hex : List Char) : (bytesOf hex).length = hex.length / 2 := by
  fun_induction bytesOf hex with
  | case1 high low rest ih =>
    simp only [List.length_cons, ih]
    omega
  | case2 hex short =>
    rcases hex with _ | ⟨c, _ | ⟨next, rest⟩⟩
    · rfl
    · simp
    · exact (short c next rest rfl).elim

theorem hexText_bytesOf {hex : List Char} (even : hex.length % 2 = 0)
    (isHex : ∀ c ∈ hex, IsHex c) : hexText (bytesOf hex) = hex.map Char.toLower := by
  fun_induction bytesOf hex with
  | case1 high low rest ih =>
    simp only [List.forall_mem_cons] at isHex
    have later := ih (by simp only [List.length_cons] at even; omega) isHex.2.2
    have first := byteOf_text isHex.1 isHex.2.1
    simp only [hexText, List.flatMap_cons, List.flatMap_nil, List.append_nil] at first later ⊢
    rw [first, later]
    rfl
  | case2 hex short =>
    rcases hex with _ | ⟨c, _ | ⟨next, rest⟩⟩
    · rfl
    · simp at even
    · exact (short c next rest rfl).elim

theorem parsePairs_eq (hex : List Char) (written rest : List UInt8)
    (fits : hex.length / 2 ≤ rest.length) (small : written.length + rest.length < 256) :
    parsePairs hex ⟨written ++ rest, UInt8.ofNat written.length⟩ =
      some ⟨written ++ bytesOf hex ++ rest.drop (hex.length / 2),
        UInt8.ofNat (written.length + hex.length / 2)⟩ := by
  induction hex using bytesOf.induct generalizing written rest with
  | case1 high low more ih =>
    rcases rest with _ | ⟨old, rest⟩
    · simp only [List.length_cons, List.length_nil] at fits
      omega
    have index : (UInt8.ofNat written.length).toNat = written.length := by
      simp only [List.length_cons] at small
      simp only [UInt8.toNat_ofNat']
      omega
    have half : (high :: low :: more).length / 2 = more.length / 2 + 1 := by
      simp only [List.length_cons]
      omega
    have later := ih (written ++ [byteOf high low]) rest
      (by rw [half, List.length_cons] at fits; omega)
      (by simp only [List.length_append, List.length_cons, List.length_nil] at small ⊢; omega)
    rw [List.append_assoc, List.singleton_append, List.length_append, List.length_singleton]
      at later
    rw [parsePairs, index, FixedArray.store_next, Option.bind_some, half, bytesOf,
      List.drop_succ_cons]
    have next : UInt8.ofNat written.length + 1 = UInt8.ofNat (written.length + 1) := by
      simp
    rw [next, later]
    simp [Nat.add_comm 1, Nat.add_assoc]
  | case2 hex short =>
    rcases hex with _ | ⟨c, _ | ⟨next, more⟩⟩
    · simp [parsePairs, bytesOf]
    · simp [parsePairs, bytesOf]
    · exact (short c next more rfl).elim

/-! ## What is accepted -/

structure WellFormed (maxLength : Nat) (hex : List Char) : Prop where
  some_ : hex ≠ []
  even : hex.length % 2 = 0
  isHex : ∀ c ∈ hex, IsHex c
  fits : hex.length / 2 ≤ maxLength

/-- No store past the array, and exactly the well-formed strings accepted, into the bytes
that they encode. -/
def ParsesExactly (maxLength : Nat) (hex : List Char) (out : OtOperationalDatasetTlvs) : Prop :=
  ∃ accepted parsed, parseDatasetTlvs maxLength hex out = some (accepted, parsed) ∧
    (accepted = true ↔ WellFormed maxLength hex) ∧
    (accepted = true → parsed.mLength.toNat = hex.length / 2 ∧
      hexText (parsed.mTlvs.take parsed.mLength.toNat) = hex.map Char.toLower)

theorem parseDatasetTlvs_eq {maxLength : Nat} (byte : maxLength < 256) (hex : List Char)
    (out : OtOperationalDatasetTlvs) :
    parseDatasetTlvs maxLength hex out =
      some (if hex.length = 0 ∨ hex.length % 2 ≠ 0 ∨ maxLength < hex.length / 2 then (false, out)
        else (true, ⟨bytesOf hex ++ (List.replicate maxLength 0).drop (hex.length / 2),
          UInt8.ofNat (hex.length / 2)⟩)) := by
  unfold parseDatasetTlvs
  split
  · rfl
  · rename_i accepted
    have fits : hex.length / 2 ≤ maxLength := by omega
    have parsed := parsePairs_eq hex [] (List.replicate maxLength 0)
      (by simpa using fits) (by simpa using byte)
    simp only [List.nil_append, List.length_nil, Nat.zero_add] at parsed
    exact congrArg (Option.map fun parsed => (true, parsed)) parsed

theorem parsesExactly_iff {maxLength : Nat} (byte : maxLength < 256) (hex : List Char)
    (out : OtOperationalDatasetTlvs) :
    ParsesExactly maxLength hex out ↔
      (∀ c ∈ hex, IsHex c) ∨ hex.length = 0 ∨ hex.length % 2 ≠ 0 ∨ maxLength < hex.length / 2 := by
  unfold ParsesExactly
  rw [parseDatasetTlvs_eq byte]
  split
  case isTrue refused =>
    refine iff_of_true ⟨false, out, rfl, ?_, nofun⟩ (.inr refused)
    refine iff_of_false Bool.false_ne_true fun ⟨some_, even, _, fits⟩ => ?_
    rcases refused with empty | odd | long
    · exact some_ (List.length_eq_zero_iff.mp empty)
    · exact odd even
    · omega
  case isFalse accepted =>
    have some_ : hex ≠ [] := fun none_ => accepted (.inl (by rw [none_]; rfl))
    have even : hex.length % 2 = 0 := by omega
    have fits : hex.length / 2 ≤ maxLength := by omega
    have length : (UInt8.ofNat (hex.length / 2)).toNat = hex.length / 2 := by
      simp only [UInt8.toNat_ofNat']
      omega
    simp only [accepted, or_false]
    constructor
    · rintro ⟨_, _, same, exact_, -⟩
      obtain ⟨rfl, -⟩ := Prod.mk.inj (Option.some.inj same)
      exact (exact_.mp rfl).isHex
    · intro isHex
      refine ⟨true, _, rfl, iff_of_true rfl ⟨some_, even, isHex, fits⟩, fun _ => ⟨length, ?_⟩⟩
      rw [length, ← bytesOf_length, List.take_left']
      · exact hexText_bytesOf even isHex
      · rfl

theorem parsesExactly_example :
    (254 : Nat) < 256 ∧ ParsesExactly 254 "0E080000000000010000".toList ⟨[], 0⟩ := by
  have checked : "0E080000000000010000".toList.all (fun c => decide (IsHex c)) = true := by decide
  have isHex : ∀ c ∈ "0E080000000000010000".toList, IsHex c :=
    fun c member => of_decide_eq_true (List.all_eq_true.mp checked c member)
  exact ⟨by decide, (parsesExactly_iff (by decide) _ _).mpr (.inl isHex)⟩

/-- A mistyped digit is taken for zero. -/
theorem mistyped_accepted : ¬ParsesExactly 254 "0g".toList ⟨[], 0⟩ := by
  rintro ⟨accepted, parsed, same, exact_, -⟩
  have taken : (parseDatasetTlvs 254 "0g".toList ⟨[], 0⟩).map Prod.fst = some true := by
    decide +kernel
  rw [same, Option.map_some, Option.some_inj] at taken
  exact absurd ((exact_.mp taken).isHex 'g' (by decide)) (by decide)

end SleepySensor.DatasetTlvs
