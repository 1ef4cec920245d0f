import Mathlib.Logic.Basic

/-!
# Interaction programs

A program is a tree of operations: `call op next` performs `op` on its
environment and goes on with the answer.  A `Contract` says, over a state of the
reader's choice, which operations may be performed and how an operation and its
answer change that state; `wp` is the weakest precondition over it.
-/

set_option autoImplicit false

namespace SleepySensor

inductive Prog (Op : Type) (Res : Op → Type) (α : Type) where
  | ret (value : α)
  | call (op : Op) (next : Res op → Prog Op Res α)

namespace Prog

variable {Op : Type} {Res : Op → Type} {α β σ : Type}

def bind : Prog Op Res α → (α → Prog Op Res β) → Prog Op Res β
  | .ret value, rest => rest value
  | .call op next, rest => .call op fun answer => (next answer).bind rest

instance : Monad (Prog Op Res) where
  pure := .ret
  bind := bind

/-- One operation, returning its answer. -/
def perform (op : Op) : Prog Op Res (Res op) := .call op .ret

structure Contract (Op : Type) (Res : Op → Type) (σ : Type) where
  may : σ → Op → Prop
  effect : σ → (op : Op) → Res op → σ → Prop

def wp (contract : Contract Op Res σ) : Prog Op Res α → σ → (σ → α → Prop) → Prop
  | .ret value, state, post => post state value
  | .call op next, state, post =>
    contract.may state op ∧
      ∀ answer after, contract.effect state op answer after →
        (next answer).wp contract after post

variable {contract : Contract Op Res σ}

theorem wp_mono {program : Prog Op Res α} {state : σ} {post weaker : σ → α → Prop}
    (holds : program.wp contract state post)
    (implies : ∀ after value, post after value → weaker after value) :
    program.wp contract state weaker := by
  induction program generalizing state with
  | ret value => exact implies state value holds
  | call op next ih =>
    exact ⟨holds.1, fun answer after changed => ih answer (holds.2 answer after changed)⟩

theorem wp_bind {first : Prog Op Res α} {rest : α → Prog Op Res β} {state : σ}
    {post : σ → β → Prop}
    (holds : first.wp contract state fun after value => (rest value).wp contract after post) :
    (first.bind rest).wp contract state post := by
  induction first generalizing state with
  | ret value => exact holds
  | call op next ih =>
    exact ⟨holds.1, fun answer after changed => ih answer (holds.2 answer after changed)⟩

/-- Sequencing: the second program starts from what the first one ensures. -/
theorem wp_seq {first : Prog Op Res α} {rest : α → Prog Op Res β} {state : σ}
    {middle : σ → α → Prop} {post : σ → β → Prop}
    (start : first.wp contract state middle)
    (continues : ∀ after value, middle after value → (rest value).wp contract after post) :
    (first.bind rest).wp contract state post :=
  wp_bind (wp_mono start continues)

theorem wp_perform {op : Op} {state : σ} {post : σ → Res op → Prop}
    (allowed : contract.may state op)
    (ensures : ∀ answer after, contract.effect state op answer after → post after answer) :
    (perform op : Prog Op Res (Res op)).wp contract state post :=
  ⟨allowed, ensures⟩

/-! ## Programs that perform only operations of one kind -/

def Only (allowed : Op → Prop) : Prog Op Res α → Prop
  | .ret _ => True
  | .call op next => allowed op ∧ ∀ answer, (next answer).Only allowed

variable {allowed : Op → Prop}

theorem only_perform {op : Op} (permitted : allowed op) :
    (perform op : Prog Op Res (Res op)).Only allowed :=
  ⟨permitted, fun _ => trivial⟩

theorem only_bind {first : Prog Op Res α} {rest : α → Prog Op Res β}
    (firstOnly : first.Only allowed) (restOnly : ∀ value, (rest value).Only allowed) :
    (first.bind rest).Only allowed := by
  induction first with
  | ret value => exact restOnly value
  | call op next ih => exact ⟨firstOnly.1, fun answer => ih answer (firstOnly.2 answer)⟩

theorem only_mono {program : Prog Op Res α} {wider : Op → Prop}
    (widens : ∀ op, allowed op → wider op) (only : program.Only allowed) :
    program.Only wider := by
  induction program with
  | ret value => trivial
  | call op next ih => exact ⟨widens op only.1, fun answer => ih answer (only.2 answer)⟩

/-- What every operation of a kind preserves, a program of such operations does. -/
theorem wp_of_preserved {program : Prog Op Res α} {state : σ} {inv : σ → Prop}
    (only : program.Only allowed)
    (may : ∀ op before, allowed op → inv before → contract.may before op)
    (preserved : ∀ op before answer after, allowed op → inv before →
      contract.effect before op answer after → inv after)
    (holds : inv state) : program.wp contract state fun after _ => inv after := by
  induction program generalizing state with
  | ret value => exact holds
  | call op next ih =>
    refine ⟨may op state only.1 holds, fun answer after changed => ?_⟩
    exact ih answer (only.2 answer) (preserved op state answer after only.1 holds changed)

/-- A program of operations that may always be performed and leave the state
alone leaves the state alone. -/
theorem wp_of_only {program : Prog Op Res α} {state : σ}
    (only : program.Only allowed)
    (may : ∀ op, allowed op → contract.may state op)
    (frame : ∀ op answer after, allowed op → contract.effect state op answer after →
      after = state) :
    program.wp contract state fun after _ => after = state := by
  refine wp_of_preserved only (fun op before permitted same => ?_)
    (fun op before answer after permitted same changed => ?_) rfl
  · rw [same]
    exact may op permitted
  · rw [same] at changed
    exact frame op answer after permitted changed

/-! ## Programs of bounded cost -/

/-- On every path the operations cost at most `bound` together. -/
def Costs (cost : Op → Nat) : Prog Op Res α → Nat → Prop
  | .ret _, _ => True
  | .call op next, bound =>
    cost op ≤ bound ∧ ∀ answer, (next answer).Costs cost (bound - cost op)

variable {cost : Op → Nat}

theorem costs_mono {program : Prog Op Res α} {bound wider : Nat} (costs : program.Costs cost bound)
    (widens : bound ≤ wider) : program.Costs cost wider := by
  induction program generalizing bound wider with
  | ret value => trivial
  | call op next ih =>
    refine ⟨Nat.le_trans costs.1 widens, fun answer => ?_⟩
    exact ih answer (costs.2 answer) (Nat.sub_le_sub_right widens _)

theorem costs_perform {op : Op} {bound : Nat} (affordable : cost op ≤ bound) :
    (perform op : Prog Op Res (Res op)).Costs cost bound :=
  ⟨affordable, fun _ => trivial⟩

theorem costs_bind {first : Prog Op Res α} {rest : α → Prog Op Res β} {firstBound restBound : Nat}
    (firstCosts : first.Costs cost firstBound)
    (restCosts : ∀ value, (rest value).Costs cost restBound) :
    (first.bind rest).Costs cost (firstBound + restBound) := by
  induction first generalizing firstBound with
  | ret value => exact costs_mono (restCosts value) (Nat.le_add_left _ _)
  | call op next ih =>
    refine ⟨Nat.le_trans firstCosts.1 (Nat.le_add_right _ _), fun answer => ?_⟩
    rw [Nat.sub_add_comm firstCosts.1]
    exact ih answer (firstCosts.2 answer)

theorem costs_of_only {program : Prog Op Res α} (only : program.Only allowed)
    (free : ∀ op, allowed op → cost op = 0) (bound : Nat) : program.Costs cost bound := by
  induction program generalizing bound with
  | ret value => trivial
  | call op next ih =>
    refine ⟨by rw [free op only.1]; exact Nat.zero_le _, fun answer => ?_⟩
    exact ih answer (only.2 answer) _

theorem costs_free {first : Prog Op Res α} {rest : α → Prog Op Res β} {bound : Nat}
    (only : first.Only allowed) (free : ∀ op, allowed op → cost op = 0)
    (restCosts : ∀ value, (rest value).Costs cost bound) : (first.bind rest).Costs cost bound :=
  costs_mono (costs_bind (costs_of_only only free 0) restCosts)
    (Nat.le_of_eq (Nat.zero_add bound))

end Prog

end SleepySensor
