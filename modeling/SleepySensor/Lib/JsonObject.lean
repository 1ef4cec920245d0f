import SleepySensor.Lib.FormatText

/-!
# Flat JSON objects

The grammar of an object whose values are numbers and plain strings, written without
blanks.  A suffix that begins on the closing brace adds members.
-/

set_option autoImplicit false

namespace SleepySensor.JsonObject

open FormatText (Text overwritten)

/-- No quote, no backslash and no control character. -/
def plainChar (c : Char) : Bool := decide (32 ≤ c.toNat) && c != '"' && c != '\\'

def plain (text : Text) : Prop := text.all plainChar = true

instance (text : Text) : Decidable (plain text) :=
  inferInstanceAs (Decidable (text.all plainChar = true))

def digits (text : Text) : Prop := text ≠ [] ∧ text.all Char.isDigit = true

/-- An integer part has no leading zero. -/
def whole (text : Text) : Prop := digits text ∧ (text.head? = some '0' → text = ['0'])

def fraction (text : Text) : Prop := text = [] ∨ ∃ rest, text = '.' :: rest ∧ digits rest

def exponent (text : Text) : Prop :=
  text = [] ∨ ∃ mark ∈ ['e', 'E'], ∃ sign ∈ [[], ['+'], ['-']], ∃ rest,
    text = mark :: sign ++ rest ∧ digits rest

def IsNumber (text : Text) : Prop :=
  ∃ sign ∈ [[], ['-']], ∃ before after power, text = sign ++ before ++ after ++ power ∧
    whole before ∧ fraction after ∧ exponent power

inductive IsValue : Text → Prop where
  | number {text : Text} (number : IsNumber text) : IsValue text
  | string {text : Text} (isPlain : plain text) : IsValue ('"' :: text ++ ['"'])

/-- A key with the text of its value. -/
abbrev Member : Type := Text × Text

def memberText (member : Member) : Text := '"' :: member.1 ++ ['"', ':'] ++ member.2

def membersText : List Member → Text
  | [] => []
  | [member] => memberText member
  | member :: next :: rest => memberText member ++ ',' :: membersText (next :: rest)

def objectText (members : List Member) : Text := '{' :: membersText members ++ ['}']

/-- What is written from the closing brace on to add members. -/
def suffixText (members : List Member) : Text := ',' :: membersText members ++ ['}']

theorem objectText_one (key value : Text) :
    objectText [(key, value)] = '{' :: '"' :: (key ++ '"' :: ':' :: (value ++ ['}'])) := by
  simp [objectText, membersText, memberText]

theorem objectText_two (key value next other : Text) :
    objectText [(key, value), (next, other)] =
      '{' :: '"' :: (key ++ '"' :: ':' :: (value ++
        ',' :: '"' :: (next ++ '"' :: ':' :: (other ++ ['}'])))) := by
  simp [objectText, membersText, memberText]

theorem suffixText_one (key value : Text) :
    suffixText [(key, value)] = ',' :: '"' :: (key ++ '"' :: ':' :: (value ++ ['}'])) := by
  simp [suffixText, membersText, memberText]

theorem suffixText_two (key value next other : Text) :
    suffixText [(key, value), (next, other)] =
      ',' :: '"' :: (key ++ '"' :: ':' :: (value ++
        ',' :: '"' :: (next ++ '"' :: ':' :: (other ++ ['}'])))) := by
  simp [suffixText, membersText, memberText]

structure IsObject (text : Text) (keys : List Text) : Prop where
  members : ∃ members : List Member, text = objectText members ∧ members.map Prod.fst = keys ∧
    ∀ member ∈ members, plain member.1 ∧ IsValue member.2
  distinct : keys.Nodup

/-! ## Numbers -/

theorem toDigits_head {value : Nat} (positive : 0 < value) :
    (Nat.toDigits 10 value).head? ≠ some '0' := by
  induction value using Nat.strong_induction_on with
  | _ value ih =>
    rw [Nat.toDigits_eq_if (by decide)]
    split
    case isTrue small =>
      interval_cases value <;> decide
    case isFalse large =>
      have smaller : 0 < value / 10 := by omega
      rw [List.head?_append_of_ne_nil _ Nat.toDigits_ne_nil]
      exact ih (value / 10) (by omega) smaller

theorem whole_toDigits (value : Nat) : whole (Nat.toDigits 10 value) := by
  refine ⟨⟨Nat.toDigits_ne_nil, ?_⟩, fun zero => ?_⟩
  · exact List.all_eq_true.mpr fun _ member =>
      Nat.isDigit_of_mem_toDigits (by decide) (by decide) member
  · rcases Nat.eq_zero_or_pos value with rfl | positive
    · rfl
    · exact (toDigits_head positive zero).elim

theorem isNumber_nat (value : Nat) : IsNumber (Nat.toDigits 10 value) :=
  ⟨[], by simp, _, [], [], by simp, whole_toDigits value, .inl rfl, .inl rfl⟩

def intText (value : Int) : Text :=
  if value < 0 then '-' :: Nat.toDigits 10 value.natAbs else Nat.toDigits 10 value.natAbs

theorem isNumber_int (value : Int) : IsNumber (intText value) := by
  unfold intText
  split
  · exact ⟨['-'], by simp, Nat.toDigits 10 value.natAbs, [], [], by simp, whole_toDigits _,
      .inl rfl, .inl rfl⟩
  · exact isNumber_nat _

/-! ## Members added over the closing brace -/

theorem membersText_append {first second : List Member} (some_ : first ≠ []) (more : second ≠ []) :
    membersText (first ++ second) = membersText first ++ ',' :: membersText second := by
  induction first with
  | nil => exact (some_ rfl).elim
  | cons member rest ih =>
    cases rest with
    | nil =>
      cases second with
      | nil => exact (more rfl).elim
      | cons other later => rfl
    | cons next rest =>
      have later := ih (List.cons_ne_nil _ _)
      rw [List.cons_append] at later
      rw [List.cons_append, List.cons_append, membersText, later, membersText, List.append_assoc]
      rfl

theorem objectText_suffix {members added : List Member} (some_ : members ≠ []) (more : added ≠ []) :
    (objectText members).dropLast ++ suffixText added = objectText (members ++ added) := by
  rw [objectText, List.dropLast_concat, objectText, suffixText,
    membersText_append some_ more]
  simp

theorem overwritten_object {members : List Member} {groups : List (List Member)}
    (some_ : members ≠ []) (more : ∀ group ∈ groups, group ≠ []) :
    overwritten (objectText members) (groups.map suffixText) =
      objectText (members ++ groups.flatten) := by
  induction groups generalizing members with
  | nil => simp [overwritten]
  | cons group rest ih =>
    rw [List.forall_mem_cons] at more
    have later := @ih (members ++ group) (by simp [some_]) more.2
    rw [List.map_cons, List.flatten_cons, ← List.append_assoc, ← later, overwritten,
      List.foldl_cons, objectText_suffix some_ more.1]
    rfl

/-- Outputs that each add members over the closing brace, with the keys they add. -/
def Adds (outputs keys : List Text) : Prop :=
  ∃ groups : List (List Member), outputs = groups.map suffixText ∧
    groups.flatten.map Prod.fst = keys ∧
    ∀ group ∈ groups, group ≠ [] ∧ ∀ member ∈ group, plain member.1 ∧ IsValue member.2

namespace Adds

theorem nil : Adds [] [] := ⟨[], rfl, rfl, by simp⟩

theorem one {members : List Member} (some_ : members ≠ [])
    (known : ∀ member ∈ members, plain member.1 ∧ IsValue member.2) :
    Adds [suffixText members] (members.map Prod.fst) :=
  ⟨[members], rfl, by simp, fun group listed => by
    rw [List.mem_singleton.mp listed]
    exact ⟨some_, known⟩⟩

theorem append {first second firstKeys secondKeys : List Text} (left : Adds first firstKeys)
    (right : Adds second secondKeys) : Adds (first ++ second) (firstKeys ++ secondKeys) := by
  obtain ⟨before, rfl, rfl, known⟩ := left
  obtain ⟨after, rfl, rfl, later⟩ := right
  exact ⟨before ++ after, by simp, by simp, List.forall_mem_append.mpr ⟨known, later⟩⟩

end Adds

theorem IsObject.overwritten {text : Text} {outputs keys more : List Text}
    (object : IsObject text keys) (some_ : keys ≠ []) (adds : Adds outputs more)
    (distinct : (keys ++ more).Nodup) :
    IsObject (overwritten text outputs) (keys ++ more) := by
  obtain ⟨⟨members, rfl, rfl, known⟩, -⟩ := object
  obtain ⟨groups, rfl, rfl, added⟩ := adds
  refine ⟨⟨members ++ groups.flatten, ?_, by simp, ?_⟩, distinct⟩
  · exact overwritten_object (fun none_ => some_ (by rw [none_]; rfl))
      fun group member => (added group member).1
  · refine List.forall_mem_append.mpr ⟨known, fun member listed => ?_⟩
    obtain ⟨group, inside, listed⟩ := List.mem_flatten.mp listed
    exact (added group inside).2 member listed

end SleepySensor.JsonObject
