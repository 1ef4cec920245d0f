import Mathlib.Data.List.DropRight
import Mathlib.Data.List.Infix
import SleepySensor.Lib.Quoted

/-!
# Searching a text with comments

Searches by position, and the search that reads the text once and skips what
stands behind a comment mark on a line.
-/

set_option autoImplicit false

namespace SleepySensor.LineSearch

variable {α : Type} [DecidableEq α]

def first (pattern : List α) : List α → Option Nat
  | [] => if pattern = [] then some 0 else none
  | head :: rest =>
    if pattern.isPrefixOf (head :: rest) then some 0 else (first pattern rest).map (· + 1)

/-- `text.find(pattern, start)`. -/
def find (pattern text : List α) (start : Nat) : Option Nat :=
  (first pattern (text.drop start)).map (· + start)

def last (mark : α) : List α → Option Nat
  | [] => none
  | head :: rest =>
    match last mark rest with
    | some position => some (position + 1)
    | none => if head = mark then some 0 else none

/-- `text.rfind(mark, start)`. -/
def rfind (mark : α) (text : List α) (start : Nat) : Option Nat := last mark (text.take (start + 1))

theorem first_bounds {pattern text : List α} {position : Nat}
    (found : first pattern text = some position) : position + pattern.length ≤ text.length := by
  induction text generalizing position with
  | nil =>
    rw [first] at found
    split at found
    · next empty_ =>
      cases found
      simp [empty_]
    · cases found
  | cons head rest ih =>
    rw [first] at found
    split at found
    · next starts =>
      cases found
      simpa using (List.isPrefixOf_iff_prefix.mp starts).length_le
    · obtain ⟨earlier, here, rfl⟩ := Option.map_eq_some_iff.mp found
      have bound := ih here
      simp only [List.length_cons]
      omega

theorem find_bounds {pattern text : List α} {start position : Nat} (some_ : pattern ≠ [])
    (found : find pattern text start = some position) :
    start ≤ position ∧ position + pattern.length ≤ text.length := by
  obtain ⟨offset, here, rfl⟩ := Option.map_eq_some_iff.mp found
  have bound := first_bounds here
  have long := List.length_pos_of_ne_nil some_
  rw [List.length_drop] at bound
  omega

theorem prefix_drop_first {pattern text : List α} {position : Nat}
    (found : first pattern text = some position) : pattern <+: text.drop position := by
  induction text generalizing position with
  | nil =>
    rw [first] at found
    split at found
    · next empty_ =>
      cases found
      simp [empty_]
    · cases found
  | cons head rest ih =>
    rw [first] at found
    split at found
    · next starts =>
      cases found
      exact List.isPrefixOf_iff_prefix.mp starts
    · obtain ⟨earlier, here, rfl⟩ := Option.map_eq_some_iff.mp found
      exact ih here

theorem first_mark (mark : α) (text : List α) :
    first [mark] text =
      if mark ∈ text then some (text.takeWhile fun c => decide (c ≠ mark)).length else none := by
  induction text with
  | nil => simp [first]
  | cons head rest ih =>
    rw [first, ih]
    by_cases here : head = mark
    · subst here
      simp [List.isPrefixOf]
    · have other : mark ≠ head := Ne.symm here
      by_cases later : mark ∈ rest
      · simp [List.isPrefixOf, here, other, later]
      · simp [List.isPrefixOf, other, later]

/-- A mark is found before the end of a line exactly when the line has one. -/
theorem mark_before (mark : α) (line rest : List α) (start : Nat) :
    ((first [mark] (line ++ rest)).map (· + start)).any (fun position =>
      decide (position < start + line.length)) = decide (mark ∈ line) := by
  rw [first_mark]
  induction line with
  | nil =>
    by_cases later : mark ∈ rest
    · simp [later]
    · simp [later]
  | cons head line ih =>
    rw [List.cons_append]
    by_cases here : head = mark
    · simp [here]
    · have other : mark ≠ head := Ne.symm here
      by_cases later : mark ∈ line ++ rest
      · rw [if_pos later] at ih
        rw [if_pos (List.mem_cons_of_mem head later)]
        simp only [List.takeWhile_cons, here, ne_eq, not_false_eq_true, decide_true,
          if_true, List.length_cons, Option.map_some, Option.any_some, List.mem_cons, other,
          false_or] at ih ⊢
        rw [← ih]
        exact decide_eq_decide.mpr (by omega)
      · have none_ : mark ∉ head :: (line ++ rest) := by
          intro member
          rcases List.mem_cons.mp member with same | member
          · exact other same
          · exact later member
        rw [if_neg later] at ih
        rw [if_neg none_]
        simpa [other] using ih

theorem last_concat (mark : α) (text : List α) (c : α) :
    last mark (text ++ [c]) = if c = mark then some text.length else last mark text := by
  induction text with
  | nil => simp [last]
  | cons head rest ih =>
    rw [List.cons_append, last, ih]
    by_cases here : c = mark
    · simp [here]
    · simp [here, last]

/-! ## Comments -/

/-- What a character does to being in a comment. -/
def inComment (newline hash : α) (commented : Bool) (c : α) : Bool :=
  !decide (c = newline) && (commented || decide (c = hash))

/-- The text behind the first occurrence outside of comments. -/
def behind (newline hash : α) (pattern : List α) : Bool → List α → Option (List α)
  | _, [] => none
  | commented, head :: rest =>
    if pattern.isPrefixOf (head :: rest) && !commented then
      some ((head :: rest).drop pattern.length)
    else behind newline hash pattern (inComment newline hash commented head) rest

variable {newline hash : α} {pattern : List α}

/-- The line that a text ends with. -/
def lineOf (newline : α) (text : List α) : List α := text.rtakeWhile fun c => decide (c ≠ newline)

theorem lineOf_concat (text : List α) (c : α) :
    lineOf newline (text ++ [c]) = if c = newline then [] else lineOf newline text ++ [c] := by
  rw [lineOf, List.rtakeWhile_concat]
  by_cases ends : c = newline
  · simp [ends]
  · simp [ends, lineOf]

theorem foldl_inComment (text : List α) (apart : hash ≠ newline) :
    text.foldl (inComment newline hash) false = decide (hash ∈ lineOf newline text) := by
  induction text using List.reverseRecOn with
  | nil => simp [lineOf]
  | append_singleton text c ih =>
    rw [List.foldl_concat, ih, lineOf_concat]
    by_cases ends : c = newline
    · simp [inComment, ends]
    · by_cases opens : c = hash
      · simp [inComment, opens, apart]
      · simp [inComment, ends, opens, Ne.symm opens]

theorem lineStart (newline : α) (text : List α) :
    text.drop ((last newline text).elim 0 (· + 1)) = lineOf newline text ∧
      (last newline text).elim 0 (· + 1) + (lineOf newline text).length = text.length := by
  induction text using List.reverseRecOn with
  | nil => simp [last, lineOf]
  | append_singleton text c ih =>
    obtain ⟨rest, length⟩ := ih
    rw [last_concat, lineOf_concat]
    by_cases ends : c = newline
    · simp [ends]
    · have le : (last newline text).elim 0 (· + 1) ≤ text.length := by omega
      rw [if_neg ends, if_neg ends, List.drop_append_of_le_length le, rest]
      refine ⟨rfl, ?_⟩
      rw [List.length_append, List.length_append, List.length_singleton]
      omega

theorem foldl_commented {text : List α} (oneLine : newline ∉ text) :
    text.foldl (inComment newline hash) true = true := by
  induction text with
  | nil => rfl
  | cons head text ih =>
    have inside : head ≠ newline := fun same => oneLine (same ▸ List.mem_cons_self)
    have still : inComment newline hash true head = true := by simp [inComment, inside]
    rw [List.foldl_cons, still]
    exact ih fun member => oneLine (List.mem_cons_of_mem head member)

theorem behind_first {text : List α} {position : Nat} (commented : Bool)
    (found : first pattern text = some position) :
    behind newline hash pattern commented text =
      behind newline hash pattern ((text.take position).foldl (inComment newline hash) commented)
        (text.drop position) := by
  induction text generalizing position commented with
  | nil => simp
  | cons head rest ih =>
    rw [first] at found
    split at found
    · cases found
      rfl
    · next misses =>
      obtain ⟨earlier, here, rfl⟩ := Option.map_eq_some_iff.mp found
      rw [behind, if_neg (by simp [misses]), ih _ here]
      rfl

theorem behind_none {text : List α} (commented : Bool) (none_ : first pattern text = none) :
    behind newline hash pattern commented text = none := by
  induction text generalizing commented with
  | nil => rfl
  | cons head rest ih =>
    rw [first] at none_
    split at none_
    · cases none_
    · next misses =>
      rw [behind, if_neg (by simp [misses])]
      exact ih _ (Option.map_eq_none_iff.mp none_)

theorem behind_commented {text rest : List α} (oneLine : newline ∉ text) :
    behind newline hash pattern true (text ++ rest) = behind newline hash pattern true rest := by
  induction text with
  | nil => rfl
  | cons head text ih =>
    have inside : head ≠ newline := fun same => oneLine (same ▸ List.mem_cons_self)
    rw [List.cons_append, behind, if_neg (by simp)]
    have still : inComment newline hash true head = true := by simp [inComment, inside]
    rw [still]
    exact ih fun member => oneLine (List.mem_cons_of_mem head member)

theorem behind_skip {start : α} {others text rest : List α} (commented : Bool)
    (fresh : start ∉ text) (oneLine : newline ∉ text) (plain : hash ∉ text) :
    behind newline hash (start :: others) commented (text ++ rest) =
      behind newline hash (start :: others) commented rest := by
  induction text with
  | nil => rfl
  | cons head text ih =>
    have apart : start ≠ head := fun same => fresh (same ▸ List.mem_cons_self)
    have inside : head ≠ newline := fun same => oneLine (same ▸ List.mem_cons_self)
    have open_ : head ≠ hash := fun same => plain (same ▸ List.mem_cons_self)
    rw [List.cons_append, behind, if_neg (by simp [List.isPrefixOf, apart])]
    have same : inComment newline hash commented head = commented := by
      simp [inComment, inside, open_]
    rw [same]
    exact ih (fun member => fresh (List.mem_cons_of_mem head member))
      (fun member => oneLine (List.mem_cons_of_mem head member))
      (fun member => plain (List.mem_cons_of_mem head member))

/-- A pattern that ends at its only quote occurs before a quote exactly when the
text up to there ends with the rest of it. -/
theorem behind_segment {quote : α} {stem segment rest : List α} (commented : Bool)
    (unquoted : quote ∉ stem) (unhashed : hash ∉ stem) (clean : quote ∉ segment)
    (oneLine : newline ∉ segment) (apart : quote ≠ newline) (differ : quote ≠ hash) :
    behind newline hash (stem ++ [quote]) commented (segment ++ quote :: rest) =
      if stem <:+ segment ∧ commented = false ∧ hash ∉ segment then some rest
      else behind newline hash (stem ++ [quote]) (commented || decide (hash ∈ segment)) rest := by
  have starts : ∀ segment : List α, quote ∉ segment →
      ((stem ++ [quote]).isPrefixOf (segment ++ quote :: rest) = true ↔ segment = stem) := by
    intro segment clean
    rw [List.isPrefixOf_iff_prefix]
    exact Quoted.prefix_marked unquoted clean
  induction segment generalizing commented with
  | nil =>
    have here := starts [] clean
    rw [List.nil_append] at here ⊢
    rw [behind]
    by_cases empty_ : stem = []
    · cases commented with
      | false => simp [empty_]
      | true => simp [empty_, inComment, apart]
    · have misses : (stem ++ [quote]).isPrefixOf (quote :: rest) = false := by
        rw [Bool.eq_false_iff, Ne, here]
        exact fun same => empty_ same.symm
      rw [misses]
      simp [empty_, inComment, apart, differ]
  | cons head segment ih =>
    have here := starts (head :: segment) clean
    have clean' : quote ∉ segment := fun member => clean (List.mem_cons_of_mem head member)
    have oneLine' : newline ∉ segment := fun member => oneLine (List.mem_cons_of_mem head member)
    have inside : head ≠ newline := fun same => oneLine (same ▸ List.mem_cons_self)
    rw [List.cons_append] at here ⊢
    rw [behind]
    simp only [List.suffix_cons_iff]
    by_cases whole : head :: segment = stem
    · cases commented with
      | false =>
        have plain : hash ∉ head :: segment := whole ▸ unhashed
        rw [if_pos (by simp [here.mpr whole]), if_pos ⟨.inl whole.symm, rfl, plain⟩]
        have long : ((head :: segment) ++ [quote]).length = segment.length + 2 := by simp
        rw [← whole, long]
        simp
      | true =>
        rw [if_neg (by simp), if_neg (by simp)]
        have still : inComment newline hash true head = true := by simp [inComment, inside]
        rw [still, ih true clean' oneLine', if_neg (by simp)]
        simp
    · have misses : (stem ++ [quote]).isPrefixOf (head :: (segment ++ quote :: rest)) = false := by
        rw [Bool.eq_false_iff, Ne, here]
        exact whole
      have state : inComment newline hash commented head = (commented || decide (head = hash)) := by
        simp [inComment, inside]
      have unequal : stem ≠ head :: segment := Ne.symm whole
      rw [misses, Bool.false_and, if_neg Bool.false_ne_true, state, ih _ clean' oneLine']
      by_cases opens : head = hash
      · simp [opens]
      · simp [opens, Ne.symm opens, unequal]

end SleepySensor.LineSearch
