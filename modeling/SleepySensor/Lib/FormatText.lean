import Mathlib.Tactic

/-!
# Format strings and fixed buffers

A format string has literal characters, doubled braces and replacement fields.  Its
output is as long as its literals and what its fields are filled with.  A buffer of
fixed capacity takes an output whole or not at all.
-/

set_option autoImplicit false

namespace SleepySensor.FormatText

abbrev Text : Type := List Char

/-- A literal's bytes, one character each. -/
def bytes (literal : String) : Text :=
  literal.toByteArray.data.toList.map fun byte => Char.ofNat byte.toNat

/-- A literal character, or a replacement field with what stands in it. -/
inductive Piece where
  | char (c : Char)
  | field (spec : Text)
  deriving DecidableEq, Repr

/-- The pieces of a format string; `some` inside a replacement field. -/
def pieces : Option Text → Text → List Piece
  | _, [] => []
  | none, [c] => [.char c]
  | none, c :: next :: rest =>
    if c = '{' then
      if next = '{' then .char '{' :: pieces none rest else pieces (some []) (next :: rest)
    else if c = '}' ∧ next = '}' then .char '}' :: pieces none rest
    else .char c :: pieces none (next :: rest)
  | some spec, c :: rest =>
    if c = '}' then .field spec :: pieces none rest else pieces (some (spec ++ [c])) rest

def literals : List Piece → Nat
  | [] => 0
  | .char _ :: rest => literals rest + 1
  | .field _ :: rest => literals rest

section Fill

variable {A : Type} (render : Text → A → Text)

def fill : List Piece → List A → Text
  | [], _ => []
  | .char c :: rest, args => c :: fill rest args
  | .field spec :: rest, arg :: args => render spec arg ++ fill rest args
  | .field _ :: rest, [] => fill rest []

def fields : List Piece → List A → List (Text × A)
  | [], _ => []
  | .char _ :: rest, args => fields rest args
  | .field spec :: rest, arg :: args => (spec, arg) :: fields rest args
  | .field _ :: rest, [] => fields rest []

theorem fill_length (parts : List Piece) (args : List A) :
    (fill render parts args).length =
      literals parts +
        ((fields parts args).map fun field => (render field.1 field.2).length).sum := by
  fun_induction fill render parts args with
  | case1 => rfl
  | case2 c rest args ih =>
    simp only [List.length_cons, ih, literals, fields]
    omega
  | case3 spec rest arg args ih =>
    simp only [List.length_append, ih, literals, fields, List.map_cons, List.sum_cons]
    omega
  | case4 spec rest ih => exact ih

theorem mem_of_fields {parts : List Piece} {args : List A} {field : Text × A}
    (member : field ∈ fields parts args) : field.2 ∈ args := by
  fun_induction fields parts args with
  | case1 => cases member
  | case2 c rest args ih => exact ih member
  | case3 spec rest arg args ih =>
    rcases List.mem_cons.mp member with rfl | later
    · exact List.mem_cons_self
    · exact List.mem_cons_of_mem _ (ih later)
  | case4 spec rest ih => exact ih member

/-- A format string with its arguments. -/
structure Call (A : Type) where
  fmt : Text
  args : List A

namespace Call

def text (call : Call A) : Text := fill render (pieces none call.fmt) call.args

def fields (call : Call A) : List (Text × A) := FormatText.fields (pieces none call.fmt) call.args

/-- The output is no longer than the literals and a bound for each argument. -/
def bound (size : A → Nat) (call : Call A) : Nat :=
  literals (pieces none call.fmt) + (call.args.map size).sum

end Call

variable {render}

theorem fields_sum_le {size : A → Nat} {parts : List Piece} {args : List A}
    (short : ∀ field ∈ fields parts args, (render field.1 field.2).length ≤ size field.2) :
    ((fields parts args).map fun field => (render field.1 field.2).length).sum ≤
      (args.map size).sum := by
  fun_induction fields parts args with
  | case1 => exact Nat.zero_le _
  | case2 c rest args ih => exact ih short
  | case3 spec rest arg args ih =>
    rw [List.forall_mem_cons] at short
    simp only [List.map_cons, List.sum_cons]
    exact Nat.add_le_add short.1 (ih short.2)
  | case4 spec rest ih => exact ih short

theorem Call.length_le {size : A → Nat} {call : Call A}
    (short : ∀ field ∈ call.fields, (render field.1 field.2).length ≤ size field.2) :
    (call.text render).length ≤ call.bound size := by
  rw [Call.text, fill_length]
  exact Nat.add_le_add_left (fields_sum_le short) _

/-! ## Buffers -/

variable (render)

/-- The text in the buffer, or `none` where the output is cut.  One place is for the NUL. -/
def formatInto (capacity : Nat) (call : Call A) : Option Text :=
  if (call.text render).length ≤ capacity - 1 then some (call.text render) else none

/-- The same from an offset on, over what stands there. -/
def formatAppend (capacity : Nat) (text : Text) (offset : Nat) (call : Call A) : Option Text :=
  if (call.text render).length ≤ capacity - 1 - offset then
    some (text.take offset ++ call.text render)
  else none

/-- Calls that each go on where the last one ended. -/
def appendAll (capacity : Nat) (text : Text) (calls : List (Call A)) : Option Text :=
  calls.foldlM (fun text call => formatAppend render capacity text text.length call) text

/-- Calls that each begin on the last character. -/
def overwriteAll (capacity : Nat) (text : Text) (calls : List (Call A)) : Option Text :=
  calls.foldlM (fun text call => formatAppend render capacity text (text.length - 1) call) text

def overwritten (text : Text) (outputs : List Text) : Text :=
  outputs.foldl (fun text output => text.dropLast ++ output) text

variable {render} {size : A → Nat} {capacity : Nat}

/-- What the arguments of a call take, is within their bounds. -/
def Short (render : Text → A → Text) (size : A → Nat) (call : Call A) : Prop :=
  ∀ field ∈ call.fields, (render field.1 field.2).length ≤ size field.2

theorem formatInto_fits {call : Call A} (short : Short render size call)
    (fits : call.bound size ≤ capacity - 1) :
    formatInto render capacity call = some (call.text render) :=
  if_pos ((Call.length_le short).trans fits)

theorem appendAll_fits {text : Text} {calls : List (Call A)}
    (short : ∀ call ∈ calls, Short render size call)
    (fits : text.length + (calls.map (Call.bound size)).sum ≤ capacity - 1) :
    appendAll render capacity text calls =
      some (text ++ (calls.map (Call.text render)).flatten) := by
  induction calls generalizing text with
  | nil => simp [appendAll]
  | cons call rest ih =>
    rw [List.forall_mem_cons] at short
    rw [List.map_cons, List.sum_cons] at fits
    have first := Call.length_le short.1
    have appended : formatAppend render capacity text text.length call =
        some (text ++ call.text render) := by
      rw [formatAppend, if_pos (by omega), List.take_length]
    have later := @ih (text ++ call.text render) short.2 (by rw [List.length_append]; omega)
    rw [appendAll, List.foldlM_cons, appended, Option.bind_eq_bind, Option.bind_some,
      ← appendAll, later, List.append_assoc]
    rfl

theorem overwriteAll_fits {text : Text} {calls : List (Call A)}
    (short : ∀ call ∈ calls, Short render size call)
    (fits : text.length + (calls.map (Call.bound size)).sum ≤ capacity - 1) :
    overwriteAll render capacity text calls =
      some (overwritten text (calls.map (Call.text render))) := by
  induction calls generalizing text with
  | nil => rfl
  | cons call rest ih =>
    rw [List.forall_mem_cons] at short
    rw [List.map_cons, List.sum_cons] at fits
    have first := Call.length_le short.1
    have appended : formatAppend render capacity text (text.length - 1) call =
        some (text.dropLast ++ call.text render) := by
      rw [formatAppend, if_pos (by omega), List.dropLast_eq_take]
    have later := @ih (text.dropLast ++ call.text render) short.2
      (by rw [List.length_append, List.length_dropLast]; omega)
    rw [overwriteAll, List.foldlM_cons, appended, Option.bind_eq_bind, Option.bind_some,
      ← overwriteAll, later]
    rfl

end Fill

end SleepySensor.FormatText
