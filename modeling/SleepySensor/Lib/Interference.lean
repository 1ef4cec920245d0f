import SleepySensor.Lib.Prog

/-!
# Programs under interference

A program runs on a state that another party changes between its operations.  A
trace keeps the operations and their answers.  A run is settled against other
answers to some of the operations when the program would go on in the same way
with them; then it is a run without interference, on a state that gives these
answers.
-/

set_option autoImplicit false

namespace SleepySensor.Prog

variable {Op : Type} {Res : Op → Type} {α β σ τ : Type}

abbrev Event (Op : Type) (Res : Op → Type) : Type := (op : Op) × Res op

/-- The operations of a program from its start to its end, with these answers. -/
def Traces : Prog Op Res α → List (Event Op Res) → α → Prop
  | .ret value, trace, result => trace = [] ∧ value = result
  | .call op next, trace, result =>
    ∃ answer rest, trace = ⟨op, answer⟩ :: rest ∧ (next answer).Traces rest result

/-- A trace whose operations with a fixed answer could have had that answer. -/
def Settled (fixed : (op : Op) → Option (Res op)) :
    Prog Op Res α → List (Event Op Res) → α → Prop
  | .ret value, trace, result => trace = [] ∧ value = result
  | .call op next, trace, result =>
    ∃ answer rest, trace = ⟨op, answer⟩ :: rest ∧
      (∀ other ∈ fixed op, next other = next answer) ∧ (next answer).Settled fixed rest result

theorem traces_bind {first : Prog Op Res α} {then_ : α → Prog Op Res β}
    {trace : List (Event Op Res)} {result : β} (traces : (first.bind then_).Traces trace result) :
    ∃ lead value rest, trace = lead ++ rest ∧ first.Traces lead value ∧
      (then_ value).Traces rest result := by
  induction first generalizing trace with
  | ret value => exact ⟨[], value, trace, rfl, ⟨rfl, rfl⟩, traces⟩
  | call op next ih =>
    obtain ⟨answer, after, rfl, traces⟩ := traces
    obtain ⟨lead, value, rest, rfl, here, later⟩ := ih answer traces
    exact ⟨⟨op, answer⟩ :: lead, value, rest, rfl, ⟨answer, lead, rfl, here⟩, later⟩

theorem Traces.only {allowed : Op → Prop} {program : Prog Op Res α} {trace : List (Event Op Res)}
    {result : α} (traces : program.Traces trace result) (only : program.Only allowed) :
    ∀ event ∈ trace, allowed event.1 := by
  induction program generalizing trace with
  | ret value =>
    obtain ⟨rfl, -⟩ := traces
    simp
  | call op next ih =>
    obtain ⟨answer, rest, rfl, traces⟩ := traces
    intro event member
    rcases List.mem_cons.mp member with rfl | later
    · exact only.1
    · exact ih answer traces (only.2 answer) event later

section Settled

variable {fixed : (op : Op) → Option (Res op)}

theorem settled_bind {first : Prog Op Res α} {then_ : α → Prog Op Res β}
    {lead rest : List (Event Op Res)} {value : α} {result : β}
    (here : first.Settled fixed lead value) (later : (then_ value).Settled fixed rest result) :
    (first.bind then_).Settled fixed (lead ++ rest) result := by
  induction first generalizing lead with
  | ret given =>
    obtain ⟨rfl, rfl⟩ := here
    exact later
  | call op next ih =>
    obtain ⟨answer, after, rfl, same, here⟩ := here
    refine ⟨answer, after ++ rest, rfl, ?_, ih answer here⟩
    intro other given
    show (next other).bind then_ = (next answer).bind then_
    rw [same other given]

theorem Traces.settled {program : Prog Op Res α} {trace : List (Event Op Res)} {result : α}
    (traces : program.Traces trace result)
    (agrees : ∀ event ∈ trace, ∀ other ∈ fixed event.1, other = event.2) :
    program.Settled fixed trace result := by
  induction program generalizing trace with
  | ret value => exact traces
  | call op next ih =>
    obtain ⟨answer, rest, rfl, traces⟩ := traces
    refine ⟨answer, rest, rfl, ?_, ih answer traces fun event member =>
      agrees event (List.mem_cons_of_mem _ member)⟩
    intro other given
    rw [agrees _ List.mem_cons_self other given]

theorem Traces.settled_of_only {allowed : Op → Prop} {program : Prog Op Res α}
    {trace : List (Event Op Res)} {result : α} (traces : program.Traces trace result)
    (only : program.Only allowed) (free : ∀ op, allowed op → fixed op = none) :
    program.Settled fixed trace result := by
  refine traces.settled fun event member other given => ?_
  rw [free event.1 (traces.only only event member)] at given
  cases given

end Settled

/-! ## Runs -/

structure Outcome (Op : Type) (Res : Op → Type) (σ α : Type) where
  result : α
  trace : List (Event Op Res)
  state : σ

/-- Before its operations, as many changes take place as the schedule says; the
changes that are left at its end come later. -/
def interleave (act : σ → (op : Op) → Res op × σ) (change : σ → τ → σ) :
    Prog Op Res α → List Nat → List τ → σ → Outcome Op Res σ α
  | .ret value, _, _, state => { result := value, trace := [], state := state }
  | .call op next, schedule, changes, state =>
    let count := schedule.headD 0
    let acted := act ((changes.take count).foldl change state) op
    let rest := interleave act change (next acted.1) schedule.tail (changes.drop count) acted.2
    { rest with trace := ⟨op, acted.1⟩ :: rest.trace }

variable {act : σ → (op : Op) → Res op × σ} {change : σ → τ → σ} {allowed : Op → Prop}

theorem traces_interleave (program : Prog Op Res α) (schedule : List Nat) (changes : List τ)
    (state : σ) :
    program.Traces (interleave act change program schedule changes state).trace
      (interleave act change program schedule changes state).result := by
  induction program generalizing schedule changes state with
  | ret value => exact ⟨rfl, rfl⟩
  | call op next ih => exact ⟨_, _, rfl, ih _ _ _ _⟩

theorem foldl_change (good : σ → Prop) (changes : List τ)
    (kept : ∀ x ∈ changes, ∀ state, good state → good (change state x)) {state : σ}
    (holds : good state) : good (changes.foldl change state) := by
  induction changes generalizing state with
  | nil => exact holds
  | cons x rest ih =>
    exact ih (fun y member => kept y (List.mem_cons_of_mem x member))
      (kept x List.mem_cons_self state holds)

/-- What changes and operations preserve holds where an operation is answered. -/
theorem interleave_answers {good : σ → Prop} {answered : Event Op Res → Prop}
    {program : Prog Op Res α} (only : program.Only allowed) (schedule : List Nat)
    {changes : List τ} (kept : ∀ x ∈ changes, ∀ state, good state → good (change state x))
    (acts : ∀ op state, allowed op → good state →
      answered ⟨op, (act state op).1⟩ ∧ good (act state op).2) {state : σ} (holds : good state) :
    ∀ event ∈ (interleave act change program schedule changes state).trace, answered event := by
  induction program generalizing schedule changes state with
  | ret value => intro event member; cases member
  | call op next ih =>
    have now := foldl_change good (changes.take (schedule.headD 0))
      (fun x member => kept x (List.mem_of_mem_take member)) holds
    obtain ⟨here, after⟩ := acts op _ only.1 now
    intro event member
    rcases List.mem_cons.mp member with rfl | later
    · exact here
    · exact ih _ (only.2 _) _ (fun x inside => kept x (List.mem_of_mem_drop inside)) after
        event later

/-- A settled run goes as one without interference from a related state does. -/
theorem interleave_settled {related : σ → σ → Prop} {fixed : (op : Op) → Option (Res op)}
    {program : Prog Op Res α} (only : program.Only allowed) (schedule : List Nat)
    {changes : List τ}
    (kept : ∀ x ∈ changes, ∀ state other, related state other → related (change state x) other)
    (acts : ∀ op state other, allowed op → related state other →
      related (act state op).2 (act other op).2 ∧
        ((act state op).1 = (act other op).1 ∨ fixed op = some (act other op).1))
    {state other : σ} (start : related state other)
    (settled : program.Settled fixed (interleave act change program schedule changes state).trace
      (interleave act change program schedule changes state).result) :
    related (interleave act change program schedule changes state).state
      (interleave act change program [] [] other).state := by
  induction program generalizing schedule changes state other with
  | ret value => exact start
  | call op next ih =>
    obtain ⟨answer, rest, cons, same, settled⟩ := settled
    obtain ⟨equal, rfl⟩ := List.cons.inj cons
    obtain rfl := eq_of_heq (Sigma.mk.inj equal).2
    have now := foldl_change (fun state => related state other)
      (changes.take (schedule.headD 0))
      (fun x member state => kept x (List.mem_of_mem_take member) state other) start
    obtain ⟨after, answers⟩ := acts op _ other only.1 now
    have goesOn : next (act other op).1 = next (act ((changes.take (schedule.headD 0)).foldl change
        state) op).1 := by
      rcases answers with equal | given
      · rw [equal]
      · exact same _ given
    have plain : (interleave act change (.call op next) [] ([] : List τ) other).state =
        (interleave act change (next (act other op).1) [] ([] : List τ) (act other op).2).state :=
          rfl
    rw [plain, goesOn]
    exact ih _ (only.2 _) _ (fun x member => kept x (List.mem_of_mem_drop member)) after settled

end SleepySensor.Prog
