import Mathlib.Data.List.Chain
import Mathlib.Data.List.Sort

/-!
# Spaced out subsequences

From a sorted list the first element is taken, and then always the next one that
is far enough from the last one taken.  No subsequence with such distances is
longer, and the elements taken cut the list into blocks.
-/

set_option autoImplicit false

namespace SleepySensor.Spaced

variable {α : Type}

/-- The pairs of neighbours in a list. -/
def steps : List α → List (α × α)
  | a :: b :: rest => (a, b) :: steps (b :: rest)
  | _ => []

theorem isChain_iff_steps {R : α → α → Prop} {xs : List α} :
    xs.IsChain R ↔ ∀ pair ∈ steps xs, R pair.1 pair.2 := by
  induction xs using steps.induct with
  | case1 x y rest ih =>
    rw [List.isChain_cons_cons, ih]
    simp [steps]
  | case2 xs short =>
    cases xs with
    | nil => simp [steps]
    | cons x rest =>
      cases rest with
      | nil => simp [steps]
      | cons y more => exact absurd rfl (short x y more)

/-- Elements no two of which lie in one of some groups are no more than these. -/
theorem length_le_of_cover {β : Type} {cover : β → α → Prop} {groups : List β} {xs : List α}
    (inside : ∀ x ∈ xs, ∃ group ∈ groups, cover group x)
    (apart : xs.Pairwise fun x y => ∀ group ∈ groups, cover group x → ¬cover group y) :
    xs.length ≤ groups.length := by
  classical
  induction groups generalizing xs with
  | nil =>
    cases xs with
    | nil => exact le_rfl
    | cons x rest => simpa using inside x List.mem_cons_self
  | cons group groups ih =>
    have one : (xs.filter fun x => decide (cover group x)).length ≤ 1 := by
      have none_ := apart.filter fun x => decide (cover group x)
      cases found : xs.filter fun x => decide (cover group x) with
      | nil => exact Nat.zero_le _
      | cons x others =>
        cases others with
        | nil => exact le_rfl
        | cons y more =>
          rw [found] at none_
          have covered : ∀ z ∈ x :: y :: more, cover group z := by
            intro z member
            rw [← found] at member
            exact of_decide_eq_true (List.mem_filter.mp member).2
          have clash := (List.pairwise_cons.mp none_).1 y List.mem_cons_self group
            List.mem_cons_self (covered x List.mem_cons_self)
          exact absurd (covered y (List.mem_cons_of_mem x List.mem_cons_self)) clash
    have others : (xs.filter fun x => !decide (cover group x)).length ≤ groups.length := by
      apply ih
      · intro x member
        obtain ⟨member, outside⟩ := List.mem_filter.mp member
        obtain ⟨other, among, covers⟩ := inside x member
        rcases List.mem_cons.mp among with rfl | later
        · simp [covers] at outside
        · exact ⟨other, later, covers⟩
      · exact (apart.filter _).imp fun clash other among =>
          clash other (List.mem_cons_of_mem group among)
    have split_ := List.length_eq_length_filter_add (l := xs) fun x => decide (cover group x)
    rw [List.length_cons]
    omega

/-! ## The greedy choice -/

section Greedy

variable (far : α → α → Prop) [DecidableRel far]

def spaced : Option α → List α → List α
  | _, [] => []
  | last, x :: rest =>
    if ∀ a ∈ last, far a x then x :: spaced (some x) rest else spaced last rest

variable {far}

theorem spaced_sublist (last : Option α) (xs : List α) : (spaced far last xs).Sublist xs := by
  induction xs generalizing last with
  | nil => exact List.Sublist.refl _
  | cons x rest ih =>
    unfold spaced
    split
    · exact (ih (some x)).cons_cons x
    · exact (ih last).cons x

theorem spaced_isChain (last : Option α) (xs : List α) :
    (last.toList ++ spaced far last xs).IsChain far := by
  induction xs generalizing last with
  | nil => cases last <;> simp [spaced]
  | cons x rest ih =>
    unfold spaced
    split
    case isTrue away =>
      cases last with
      | none => exact ih (some x)
      | some a => exact (ih (some x)).cons_cons (away a rfl)
    case isFalse => exact ih last

/-- A list in blocks that are narrow and far from each other. -/
theorem spaced_flatten {blocks : List (List α)} {last : Option α}
    (narrow : ∀ block ∈ blocks, ∃ x rest, block = x :: rest ∧ ∀ y ∈ rest, ¬far x y)
    (chain : (last.toList ++ blocks.filterMap List.head?).IsChain far) :
    spaced far last blocks.flatten = blocks.filterMap List.head? := by
  have skipped : ∀ (x : α) (rest others : List α), (∀ y ∈ rest, ¬far x y) →
      spaced far (some x) (rest ++ others) = spaced far (some x) others := by
    intro x rest others near
    induction rest with
    | nil => rfl
    | cons y rest ih =>
      have here : ¬∀ a ∈ some x, far a y := fun away => near y List.mem_cons_self (away x rfl)
      rw [List.cons_append, spaced, if_neg here]
      exact ih fun z member => near z (List.mem_cons_of_mem y member)
  induction blocks generalizing last with
  | nil => rfl
  | cons block blocks ih =>
    obtain ⟨x, rest, rfl, near⟩ := narrow block List.mem_cons_self
    have away : ∀ a ∈ last, far a x := by
      rintro a ⟨⟩
      exact (List.isChain_cons_cons.mp chain).1
    have chain' : ((some x).toList ++ blocks.filterMap List.head?).IsChain far := by
      cases last with
      | none => exact chain
      | some a => exact (List.isChain_cons_cons.mp chain).2
    rw [List.flatten_cons, List.cons_append, spaced, if_pos away, skipped x rest _ near,
      ih (fun other among => narrow other (List.mem_cons_of_mem _ among)) chain']
    rfl

theorem exists_blocks (last : Option α) (xs : List α) :
    ∃ (near : List α) (blocks : List (List α)), near ++ blocks.flatten = xs ∧
      (∀ a ∈ last, ∀ y ∈ near, ¬far a y) ∧ (last = none → near = []) ∧
      (∀ block ∈ blocks, ∃ x rest, block = x :: rest ∧ ∀ y ∈ rest, ¬far x y) ∧
      blocks.filterMap List.head? = spaced far last xs := by
  induction xs generalizing last with
  | nil => exact ⟨[], [], rfl, by simp, fun _ => rfl, by simp, rfl⟩
  | cons x rest ih =>
    unfold spaced
    split
    case isTrue away =>
      obtain ⟨near, blocks, whole, close, -, narrow, heads⟩ := ih (some x)
      refine ⟨[], (x :: near) :: blocks, by simp [whole], by simp, fun _ => rfl, ?_,
        by simp [heads]⟩
      intro block member
      rcases List.mem_cons.mp member with rfl | later
      · exact ⟨x, near, rfl, close x rfl⟩
      · exact narrow block later
    case isFalse skipped =>
      obtain ⟨near, blocks, whole, close, first, narrow, heads⟩ := ih last
      have some_ : last ≠ none := by
        rintro rfl
        exact skipped (by simp)
      refine ⟨x :: near, blocks, by simp [whole], ?_, fun none_ => absurd none_ some_, narrow,
        heads⟩
      intro a isLast y member
      rcases List.mem_cons.mp member with rfl | later
      · intro away
        refine skipped fun b isLast' => ?_
        rw [Option.mem_unique isLast' isLast]
        exact away
      · exact close a isLast y later
end Greedy

/-! ## The greedy choice stays ahead -/

variable [LinearOrder α] {far : α → α → Prop}

/-- The distance survives if the first element gets smaller. -/
def Widens (far : α → α → Prop) : Prop := ∀ a b c : α, a ≤ b → far b c → far a c

variable [DecidableRel far]

/-- The greedy choice stays ahead of every other one. -/
theorem length_le_spaced (widens : Widens far) {xs picks : List α} {last : Option α}
    (sorted : xs.Pairwise (· ≤ ·)) (within : picks.Sublist xs) (chain : picks.IsChain far)
    (start : ∀ a ∈ last, ∀ p ∈ picks.head?, far a p) :
    picks.length ≤ (spaced far last xs).length := by
  induction xs generalizing picks last with
  | nil => simp [List.sublist_nil.mp within]
  | cons x rest ih =>
    obtain ⟨least, sorted⟩ := List.pairwise_cons.mp sorted
    unfold spaced
    split
    case isTrue away =>
      rw [List.length_cons]
      cases picks with
      | nil => exact Nat.zero_le _
      | cons p others =>
        have tail : others.IsChain far := chain.tail
        have below : x ≤ p ∧ others.Sublist rest := by
          cases within with
          | cons _ later =>
            exact ⟨least p (later.subset List.mem_cons_self), List.sublist_of_cons_sublist later⟩
          | cons_cons _ later => exact ⟨le_rfl, later⟩
        refine Nat.succ_le_succ (ih sorted below.2 tail ?_)
        rintro a ⟨⟩ q head
        cases others with
        | nil => cases head
        | cons r more =>
          cases head
          exact widens _ _ _ below.1 (List.isChain_cons_cons.mp chain).1
    case isFalse near =>
      refine ih sorted ?_ chain start
      cases within with
      | cons _ later => exact later
      | cons_cons _ later => exact absurd (fun a isLast => start a isLast x rfl) near

end SleepySensor.Spaced
