import Mathlib.Algebra.Ring.Nat
import Mathlib.Data.List.Induction

/-!
# The latest entry of a history

`latest value? history` is what the last entry tells that tells anything;
`differences` are what consecutive samples of a running total differ by.
-/

set_option autoImplicit false

namespace SleepySensor

section Latest

variable {α β : Type} {value? : α → Option β}

def latest (value? : α → Option β) (history : List α) : Option β :=
  history.reverse.findSome? value?

@[simp] theorem latest_nil : latest value? [] = none := rfl

theorem latest_concat (history : List α) (entry : α) :
    latest value? (history ++ [entry]) = (value? entry).or (latest value? history) := by
  rw [latest, List.reverse_concat, List.findSome?_cons]
  cases value? entry <;> rfl

theorem latest_eq_some_iff {history : List α} {value : β} :
    latest value? history = some value ↔
      ∃ past entry later, history = past ++ entry :: later ∧ value? entry = some value ∧
        ∀ next ∈ later, value? next = none := by
  rw [latest, List.findSome?_eq_some_iff]
  constructor
  · rintro ⟨later, entry, past, cut, tells, silent⟩
    refine ⟨past.reverse, entry, later.reverse, ?_, tells, fun next listed => ?_⟩
    · rw [← List.reverse_reverse history, cut]
      simp
    · exact silent next (List.mem_reverse.mp listed)
  · rintro ⟨past, entry, later, rfl, tells, silent⟩
    refine ⟨later.reverse, entry, past.reverse, by simp, tells, fun next listed => ?_⟩
    exact silent next (List.mem_reverse.mp listed)

/-- A flag is up when some entry raised it and none after that took it down. -/
theorem latest_getD_iff {flag? : α → Option Bool} {history : List α} :
    (latest flag? history).getD false = true ↔
      ∃ past entry later, history = past ++ entry :: later ∧ flag? entry = some true ∧
        ∀ next ∈ later, flag? next ≠ some false := by
  constructor
  · intro up
    have last : latest flag? history = some true := by
      cases told : latest flag? history with
      | none => simp [told] at up
      | some value => simpa [told] using up
    obtain ⟨past, entry, later, cut, told, silent⟩ := latest_eq_some_iff.mp last
    refine ⟨past, entry, later, cut, told, fun next listed down => ?_⟩
    rw [silent next listed] at down
    cases down
  · rintro ⟨past, entry, later, rfl, told, kept⟩
    induction later using List.reverseRecOn with
    | nil => simp [latest_concat, told]
    | append_singleton later next ih =>
      have here := kept next (by simp)
      have before := ih fun other listed => kept other (by simp [listed])
      rw [← List.cons_append, ← List.append_assoc, latest_concat]
      cases said : flag? next with
      | none => exact before
      | some value =>
        cases value with
        | true => rfl
        | false => exact absurd said here

end Latest

section Differences

variable {σ δ : Type} {sub : σ → σ → δ}

def differences (sub : σ → σ → δ) (before : σ) : List σ → List δ
  | [] => []
  | sample :: rest => sub sample before :: differences sub sample rest

/-- Where each difference is exact, all of them together are what the total grew by. -/
theorem sum_differences {follows : σ → σ → Prop} {part : δ → Nat} {total : σ → Nat}
    (exact_ : ∀ before sample, follows before sample →
      total before + part (sub sample before) = total sample)
    {before : σ} {samples : List σ} (on : (before :: samples).IsChain follows) :
    total before + ((differences sub before samples).map part).sum =
      total ((before :: samples).getLast (List.cons_ne_nil _ _)) := by
  induction samples generalizing before with
  | nil => rfl
  | cons sample rest ih =>
    obtain ⟨step, on⟩ := List.isChain_cons_cons.mp on
    have later := ih on
    have here := exact_ before sample step
    rw [differences, List.map_cons, List.sum_cons, ← Nat.add_assoc, here,
      List.getLast_cons (List.cons_ne_nil _ _)]
    exact later

end Differences

end SleepySensor
