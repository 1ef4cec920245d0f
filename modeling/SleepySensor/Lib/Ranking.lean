import Mathlib.Data.List.Chain
import Mathlib.Tactic

/-!
# Descending rankings

A list of ranks, the last one first, each below the one before it.  Over pairs
in lexicographic order whose second component is bounded, its length is bounded
by its first rank.
-/

set_option autoImplicit false

namespace SleepySensor.Ranking

section Measure

variable {α : Type} {below : α → α → Prop} {good : α → Prop} {measure : α → Nat}

theorem measure_add_length_le
    (smaller : ∀ rank earlier, good rank → below rank earlier → measure rank < measure earlier)
    {ranks : List α} (descending : ranks.IsChain below) (all : ∀ rank ∈ ranks, good rank) :
    ∀ last ∈ ranks.head?, ∀ first ∈ ranks.getLast?,
      measure last + ranks.length ≤ measure first + 1 := by
  induction descending with
  | nil => rintro last ⟨⟩
  | singleton rank =>
    rintro last ⟨⟩ first ⟨⟩
    exact le_rfl
  | @cons_cons rank earlier ranks lower _ ih =>
    rintro last ⟨⟩ first isFirst
    rw [List.getLast?_cons_cons] at isFirst
    have step := smaller rank earlier (all rank List.mem_cons_self) lower
    have rest := ih (fun other member => all other (List.mem_cons_of_mem _ member)) earlier rfl
      first isFirst
    rw [List.length_cons]
    omega

theorem length_le
    (smaller : ∀ rank earlier, good rank → below rank earlier → measure rank < measure earlier)
    {ranks : List α} (descending : ranks.IsChain below) (all : ∀ rank ∈ ranks, good rank)
    {first : α} (isFirst : ranks.getLast? = some first) : ranks.length ≤ measure first + 1 := by
  cases ranks with
  | nil => cases isFirst
  | cons last earlier =>
    have bounded := measure_add_length_le smaller descending all last rfl first isFirst
    exact le_trans (Nat.le_add_left _ _) bounded

end Measure

/-! ## Pairs of numbers -/

/-- The lexicographic order. -/
def Below : Nat × Nat → Nat × Nat → Prop := Prod.Lex (· < ·) (· < ·)

theorem below_iff {rank earlier : Nat × Nat} :
    Below rank earlier ↔ rank.1 < earlier.1 ∨ rank.1 = earlier.1 ∧ rank.2 < earlier.2 :=
  Prod.lex_iff

def AtMost (rank earlier : Nat × Nat) : Prop := rank = earlier ∨ Below rank earlier

theorem Below.trans_atMost {rank middle earlier : Nat × Nat} (lower : Below rank middle)
    (rest : AtMost middle earlier) : Below rank earlier := by
  rcases rest with rfl | further
  · exact lower
  · rw [below_iff] at lower further ⊢
    omega

theorem AtMost.trans {rank middle earlier : Nat × Nat} (first : AtMost rank middle)
    (rest : AtMost middle earlier) : AtMost rank earlier := by
  rcases first with rfl | lower
  · exact rest
  · exact .inr (lower.trans_atMost rest)

/-- The position of a pair in the lexicographic order, for second components up to `bound`. -/
def weight (bound : Nat) (rank : Nat × Nat) : Nat := rank.1 * (bound + 1) + rank.2

theorem weight_lt {bound : Nat} (rank earlier : Nat × Nat) (bounded : rank.2 ≤ bound)
    (lower : Below rank earlier) : weight bound rank < weight bound earlier := by
  unfold weight
  rcases below_iff.mp lower with first | ⟨same, second⟩
  · have scaled : (rank.1 + 1) * (bound + 1) ≤ earlier.1 * (bound + 1) :=
      Nat.mul_le_mul_right _ first
    rw [Nat.succ_mul] at scaled
    omega
  · rw [same]
    exact Nat.add_lt_add_left second _

/-- Descending pairs with bounded second components come to an end. -/
theorem pairs_length_le {bound : Nat} {ranks : List (Nat × Nat)}
    (descending : ranks.IsChain Below) (all : ∀ rank ∈ ranks, rank.2 ≤ bound)
    {first : Nat × Nat} (isFirst : ranks.getLast? = some first) :
    ranks.length ≤ weight bound first + 1 :=
  length_le weight_lt descending all isFirst

end SleepySensor.Ranking
