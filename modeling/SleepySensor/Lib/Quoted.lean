import Mathlib.Tactic

/-!
# Looking up a quoted word

A text is cut at its quotes into segments.  A search for a word between two quotes
finds the first segment that is that word and has a quote on both sides.
-/

set_option autoImplicit false

namespace SleepySensor.Quoted

variable {α : Type} [DecidableEq α]

/-- What follows the first occurrence of a pattern. -/
def after (pattern : List α) : List α → Option (List α)
  | [] => if pattern = [] then some [] else none
  | head :: rest =>
    if pattern.isPrefixOf (head :: rest) then some ((head :: rest).drop pattern.length)
    else after pattern rest

def quoted (mark : α) (word : List α) : List α := mark :: word ++ [mark]

/-- The segments with a mark between each two. -/
def joined (mark : α) : List (List α) → List α
  | [] => []
  | [segment] => segment
  | segment :: rest => segment ++ mark :: joined mark rest

/-- The segments after the first one that is the word, of those with a mark on both sides. -/
def afterSegment (word : List α) : List (List α) → Option (List (List α))
  | _ :: other :: next :: rest =>
    if other = word then some (next :: rest) else afterSegment word (other :: next :: rest)
  | _ => none

variable {mark : α} {word : List α}

omit [DecidableEq α] in
theorem joined_cons (segment next : List α) (rest : List (List α)) :
    joined mark (segment :: next :: rest) = segment ++ mark :: joined mark (next :: rest) := rfl

omit [DecidableEq α] in
/-- Two words that end at their first mark are the same. -/
theorem prefix_marked {other text : List α} (clean : mark ∉ word) (cleanOther : mark ∉ other) :
    word ++ [mark] <+: other ++ mark :: text ↔ other = word := by
  induction word generalizing other with
  | nil =>
    cases other with
    | nil => simp
    | cons head rest =>
      have apart : mark ≠ head := fun same => cleanOther (same ▸ List.mem_cons_self)
      simp [apart]
  | cons first word ih =>
    have apart : first ≠ mark := fun same => clean (same ▸ List.mem_cons_self)
    have cleanRest : mark ∉ word := fun member => clean (List.mem_cons_of_mem _ member)
    cases other with
    | nil => simp [apart]
    | cons head rest =>
      have cleanLater : mark ∉ rest := fun member => cleanOther (List.mem_cons_of_mem _ member)
      rw [List.cons_append, List.cons_append, List.cons_prefix_cons, ih cleanRest cleanLater,
        List.cons.injEq]
      exact and_congr_left fun _ => eq_comm

theorem after_skip {lead text : List α} (clean : mark ∉ lead) :
    after (quoted mark word) (lead ++ mark :: text) = after (quoted mark word) (mark :: text) := by
  induction lead with
  | nil => rfl
  | cons head lead ih =>
    have apart : mark ≠ head := fun same => clean (same ▸ List.mem_cons_self)
    have skips : (quoted mark word).isPrefixOf (head :: (lead ++ mark :: text)) = false := by
      simp [quoted, List.isPrefixOf, apart]
    rw [List.cons_append, after, if_neg (by rw [skips]; exact Bool.false_ne_true)]
    exact ih fun member => clean (List.mem_cons_of_mem _ member)

theorem after_mark {other text : List α} (clean : mark ∉ word) (cleanOther : mark ∉ other) :
    after (quoted mark word) (mark :: (other ++ mark :: text)) =
      if other = word then some text else after (quoted mark word) (mark :: text) := by
  have found : (quoted mark word).isPrefixOf (mark :: (other ++ mark :: text)) = true ↔
      other = word := by
    rw [List.isPrefixOf_iff_prefix, quoted, List.cons_append, List.cons_prefix_cons,
      prefix_marked clean cleanOther]
    exact and_iff_right rfl
  rw [after]
  by_cases same : other = word
  · rw [if_pos (found.mpr same), if_pos same, same]
    simp [quoted]
  · rw [if_neg fun hit => same (found.mp hit), if_neg same]
    exact after_skip cleanOther

theorem after_none {text : List α} (clean : mark ∉ text) :
    after (quoted mark word) text = none := by
  induction text with
  | nil => exact if_neg (List.cons_ne_nil _ _)
  | cons head text ih =>
    have apart : mark ≠ head := fun same => clean (same ▸ List.mem_cons_self)
    have skips : (quoted mark word).isPrefixOf (head :: text) = false := by
      simp [quoted, List.isPrefixOf, apart]
    rw [after, if_neg (by rw [skips]; exact Bool.false_ne_true)]
    exact ih fun member => clean (List.mem_cons_of_mem _ member)

theorem after_last {text : List α} (clean : mark ∉ text) :
    after (quoted mark word) (mark :: text) = none := by
  have open_ : (quoted mark word).isPrefixOf (mark :: text) = false := by
    rw [Bool.eq_false_iff, Ne, List.isPrefixOf_iff_prefix, quoted, List.cons_append,
      List.cons_prefix_cons]
    rintro ⟨-, ⟨rest, rfl⟩⟩
    simp at clean
  rw [after, if_neg (by rw [open_]; exact Bool.false_ne_true)]
  exact after_none clean

theorem after_joined (cleanWord : mark ∉ word) :
    ∀ segments : List (List α), (∀ segment ∈ segments, mark ∉ segment) →
      after (quoted mark word) (joined mark segments) =
        (afterSegment word segments).map (joined mark)
  | [], _ => rfl
  | [segment], clean => after_none (clean segment List.mem_cons_self)
  | [segment, other], clean => by
    rw [joined_cons, after_skip (clean segment List.mem_cons_self)]
    exact after_last (clean other (by simp))
  | segment :: other :: next :: rest, clean => by
    have later : ∀ kept ∈ other :: next :: rest, mark ∉ kept :=
      fun kept member => clean kept (List.mem_cons_of_mem _ member)
    have cleanOther := later other List.mem_cons_self
    rw [joined_cons, after_skip (clean segment List.mem_cons_self), joined_cons,
      after_mark cleanWord cleanOther, afterSegment]
    by_cases same : other = word
    · rw [if_pos same, if_pos same]
      rfl
    · rw [if_neg same, if_neg same, ← after_joined cleanWord (other :: next :: rest) later,
        joined_cons, after_skip cleanOther]

end SleepySensor.Quoted
