import Mathlib.Data.List.Basic

/-!
# Runs of a partial step function

A system is a step function `step : σ → α → Option σ`: `none` means that the
action is not enabled.  A run is a list of actions, `run` executes it, and
`Along cond` says that every step of it was taken from a state that meets
`cond`.  The two induction rules turn what one step preserves into what every
run preserves.
-/

set_option autoImplicit false

namespace SleepySensor.Runs

variable {σ α : Type}

def run (step : σ → α → Option σ) : σ → List α → Option σ
  | state, [] => some state
  | state, action :: rest =>
    match step state action with
    | none => none
    | some next => run step next rest

/-- Every step of the run is taken from a state that meets `cond`. -/
def Along (step : σ → α → Option σ) (cond : σ → α → Prop) : σ → List α → Prop
  | _, [] => True
  | state, action :: rest =>
    cond state action ∧ ∀ next, step state action = some next → Along step cond next rest

instance alongDecidable (step : σ → α → Option σ) (cond : σ → α → Prop)
    [∀ state action, Decidable (cond state action)] :
    ∀ (state : σ) (actions : List α), Decidable (Along step cond state actions)
  | _, [] => isTrue trivial
  | state, action :: rest =>
    match found : step state action with
    | none =>
      decidable_of_iff (cond state action)
        ⟨fun met => ⟨met, fun next taken => by simp [found] at taken⟩, fun met => met.1⟩
    | some next =>
      have : Decidable (Along step cond next rest) :=
        alongDecidable step cond next rest
      decidable_of_iff (cond state action ∧ Along step cond next rest)
        ⟨fun met => ⟨met.1, fun other taken => by
            have same : next = other := Option.some.inj (found.symm.trans taken)
            exact same ▸ met.2⟩,
          fun met => ⟨met.1, met.2 next found⟩⟩

theorem run_cons {step : σ → α → Option σ} {state final : σ} {action : α}
    {rest : List α} (ran : run step state (action :: rest) = some final) :
    ∃ next, step state action = some next ∧ run step next rest = some final := by
  simp only [run] at ran
  cases taken : step state action with
  | none => simp [taken] at ran
  | some next => exact ⟨next, rfl, by simpa [taken] using ran⟩

theorem exists_final {step : σ → α → Option σ} {start : σ} {actions : List α}
    (holds : σ → Bool) (evaluated : (run step start actions).any holds = true) :
    ∃ final, run step start actions = some final ∧ holds final = true := by
  cases ran : run step start actions with
  | none => simp [ran] at evaluated
  | some final => exact ⟨final, rfl, by simpa [ran] using evaluated⟩

theorem run_append (step : σ → α → Option σ) (first later : List α) (state : σ) :
    run step state (first ++ later) =
      (run step state first).bind fun middle => run step middle later := by
  induction first generalizing state with
  | nil => rfl
  | cons action rest ih =>
    simp only [List.cons_append, run]
    cases step state action with
    | none => rfl
    | some next => exact ih next

theorem along_of_forall {step : σ → α → Option σ} {cond : α → Prop} {actions : List α}
    (all : ∀ action ∈ actions, cond action) (start : σ) :
    Along step (fun _ action => cond action) start actions := by
  induction actions generalizing start with
  | nil => trivial
  | cons action rest ih =>
    refine ⟨all action List.mem_cons_self, fun next _ => ?_⟩
    exact ih (fun other member => all other (List.mem_cons_of_mem _ member)) next

theorem along_append {step : σ → α → Option σ} {cond : σ → α → Prop} (first later : List α)
    (state : σ) :
    Along step cond state (first ++ later) ↔
      Along step cond state first ∧
        ∀ middle, run step state first = some middle → Along step cond middle later := by
  induction first generalizing state with
  | nil =>
    refine ⟨fun met => ⟨trivial, ?_⟩, fun met => met.2 state rfl⟩
    rintro middle ⟨⟩
    exact met
  | cons action rest ih =>
    rw [List.cons_append]
    cases taken : step state action with
    | none => simp [Along, run, taken]
    | some next =>
      simp only [Along, run, taken, Option.some.injEq, forall_eq']
      rw [ih, and_assoc]

/-- What every step that meets `cond` preserves holds at the end of every run
whose steps all meet it. -/
theorem along_invariant {step : σ → α → Option σ} {cond : σ → α → Prop} (inv : σ → Prop)
    (preserved : ∀ state action next, inv state → cond state action →
      step state action = some next → inv next)
    {start final : σ} {actions : List α} (initially : inv start)
    (met : Along step cond start actions) (ran : run step start actions = some final) :
    inv final := by
  induction actions generalizing start with
  | nil =>
    have same : start = final := Option.some.inj ran
    exact same ▸ initially
  | cons action rest ih =>
    obtain ⟨next, taken, later⟩ := run_cons ran
    exact ih (preserved start action next initially met.1 taken) (met.2 next taken) later

/-- What every state of such a run satisfies, its steps do. -/
theorem along_of_invariant {step : σ → α → Option σ} {cond prop : σ → α → Prop} (inv : σ → Prop)
    (preserved : ∀ state action next, inv state → cond state action →
      step state action = some next → inv next)
    (enough : ∀ state action, inv state → cond state action → prop state action)
    {start : σ} {actions : List α} (initially : inv start)
    (met : Along step cond start actions) : Along step prop start actions := by
  induction actions generalizing start with
  | nil => trivial
  | cons action rest ih =>
    refine ⟨enough start action initially met.1, ?_⟩
    intro next taken
    exact ih (preserved start action next initially met.1 taken) (met.2 next taken)

/-- What agrees in every state of an invariant agrees along every run. -/
theorem along_iff {step : σ → α → Option σ} {cond prop : σ → α → Prop} (inv : σ → Prop)
    (preserved : ∀ state action next, inv state → cond state action →
      step state action = some next → inv next)
    (agree : ∀ state action, inv state → (prop state action ↔ cond state action))
    {start : σ} (initially : inv start) (actions : List α) :
    Along step prop start actions ↔ Along step cond start actions := by
  induction actions generalizing start with
  | nil => exact Iff.rfl
  | cons action rest ih =>
    rw [Along, Along, agree start action initially]
    refine and_congr_right fun met => forall_congr' fun next => forall_congr' fun taken => ?_
    exact ih (preserved start action next initially met taken)

theorem run_invariant {step : σ → α → Option σ} (inv : σ → Prop)
    (preserved : ∀ state action next, inv state → step state action = some next → inv next)
    {start final : σ} {actions : List α} (initially : inv start)
    (ran : run step start actions = some final) : inv final := by
  induction actions generalizing start with
  | nil =>
    have same : start = final := Option.some.inj ran
    exact same ▸ initially
  | cons action rest ih =>
    obtain ⟨next, taken, later⟩ := run_cons ran
    exact ih (preserved start action next initially taken) later

end SleepySensor.Runs
