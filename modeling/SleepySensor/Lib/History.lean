import SleepySensor.Lib.Runs

/-!
# History variables

`observe step record` is the system `step` with a variable that records what its
steps do.  The variable never blocks a step, so the runs are those of `step`.
-/

set_option autoImplicit false

namespace SleepySensor.Runs

variable {σ α η : Type}

def observe (step : σ → α → Option σ) (record : σ → α → η → η) (state : σ × η) (action : α) :
    Option (σ × η) :=
  (step state.1 action).map fun next => (next, record state.1 action state.2)

theorem observe_step {step : σ → α → Option σ} {record : σ → α → η → η} {state next : σ × η}
    {action : α} (taken : observe step record state action = some next) :
    step state.1 action = some next.1 ∧ next.2 = record state.1 action state.2 := by
  unfold observe at taken
  obtain ⟨after, stepped, rfl⟩ := Option.map_eq_some_iff.mp taken
  exact ⟨stepped, rfl⟩

/-! ## Logs -/

/-- Every entry of the log is as it has to be after what was logged before it. -/
def Logged (fits : List α → α → Prop) (log : List α) : Prop :=
  ∀ past entry later, log = past ++ entry :: later → fits past entry

theorem logged_nil (fits : List α → α → Prop) : Logged fits [] := by
  intro past entry later cut
  exact absurd cut.symm (List.append_ne_nil_of_right_ne_nil past (List.cons_ne_nil entry later))

theorem logged_snoc {fits : List α → α → Prop} {log : List α} {last : α}
    (logged : Logged fits log) (fitting : fits log last) : Logged fits (log ++ [last]) := by
  intro past entry later cut
  rcases List.eq_nil_or_concat' later with rfl | ⟨front, final, rfl⟩
  · obtain ⟨rfl, ends⟩ := List.append_inj' cut rfl
    obtain ⟨rfl, -⟩ := List.cons.inj ends
    exact fitting
  · rw [← List.cons_append, ← List.append_assoc] at cut
    exact logged past entry front (List.append_inj' cut rfl).1

end SleepySensor.Runs
