import SleepySensor.RetryBudget

/-!
# Images staged anew

When `ota_update_due` offers an image on which no session has been run, over
every history of stagings and failed sessions in one boot.
-/

set_option autoImplicit false

namespace SleepySensor.FreshImage

/-- The images that a session got past its battery gate with, and whether each
failed session made progress, the last one first. -/
structure History where
  attempted : List Manifest := []
  outcomes : List Bool := []
  deriving DecidableEq, Repr

abbrev Observed := Ota × History

def record (ota : Ota) (event : OtaEvent) (history : History) : History :=
  match event with
  | .activate found beginOk hashSetupOk =>
    { attempted := ota.session.manifest :: history.attempted
      outcomes :=
        if (ota.activate found beginOk hashSetupOk).pc = .returned then false :: history.outcomes
        else history.outcomes }
  | .report =>
    if ota.session.ok then history
    else { history with outcomes := decide (0 < ota.session.progressed) :: history.outcomes }
  | _ => history

def step (firmware : Firmware) : Observed → OtaEvent → Option Observed :=
  Runs.observe (Ota.step firmware) record

/-- The failed sessions since the last one with progress. -/
def noProgressStreak : List Bool → Nat
  | [] => 0
  | true :: _ => 0
  | false :: earlier => noProgressStreak earlier + 1

/-- An install request is set and the staged image, another than the running
one, is untried. -/
structure Fresh (ota : Ota) (history : History) : Prop where
  requested : ota.installRequested = true
  valid : ota.manifest.valid = true
  differs : ota.manifest.differsFromRunning = true
  untried : ∀ image ∈ history.attempted, ota.manifest.sameImage image = false

instance (ota : Ota) (history : History) : Decidable (Fresh ota history) :=
  decidable_of_iff
    (ota.installRequested = true ∧ ota.manifest.valid = true ∧
      ota.manifest.differsFromRunning = true ∧
      ∀ image ∈ history.attempted, ota.manifest.sameImage image = false)
    ⟨fun ⟨requested, valid, differs, untried⟩ => ⟨requested, valid, differs, untried⟩,
      fun fresh => ⟨fresh.requested, fresh.valid, fresh.differs, fresh.untried⟩⟩

/-! ## The attempt counter -/

variable {firmware : Firmware} {ota next : Ota} {history : History}

/-- The counter is the streak: nothing but a failed session touches it. -/
def Counted (state : Observed) : Prop :=
  state.1.noProgressAttempts = noProgressStreak state.2.outcomes

theorem finalize_attempts (ota : Ota) (hashOk endOk bootOk : Bool) :
    (ota.finalize firmware hashOk endOk bootOk).noProgressAttempts = ota.noProgressAttempts := by
  unfold Ota.finalize
  dsimp only
  split
  · obtain ⟨handle, boots, same⟩ := ota.finalizeImage_eq firmware hashOk endOk bootOk
    have kept : (ota.finalizeImage firmware hashOk endOk bootOk).1.noProgressAttempts =
        ota.noProgressAttempts := by
      rw [same]
    exact kept
  · rfl

/-- A session that does not start is an attempt, one that starts is none yet. -/
theorem activate_attempts (ota : Ota) (found beginOk hashSetupOk : Bool) :
    ((ota.activate found beginOk hashSetupOk).pc = .returned ∧
      (ota.activate found beginOk hashSetupOk).noProgressAttempts = ota.noProgressAttempts + 1) ∨
    ((ota.activate found beginOk hashSetupOk).pc = .starting ∧
      (ota.activate found beginOk hashSetupOk).noProgressAttempts = ota.noProgressAttempts) := by
  simp only [Ota.activate]
  generalize keptIs : (if (ota.partialValid && !ota.session.manifest.sameImage
    ota.partialManifest) = true then ota.discardPartialLocked else ota) = kept
  have same : kept.noProgressAttempts = ota.noProgressAttempts := by
    split at keptIs <;> subst keptIs <;> rfl
  split
  · exact .inr ⟨rfl, same⟩
  · split
    · exact .inl ⟨rfl, congrArg (· + 1) same⟩
    · split
      · exact .inl ⟨rfl, congrArg (· + 1) same⟩
      · split
        · exact .inl ⟨rfl, congrArg (· + 1) same⟩
        · exact .inr ⟨rfl, same⟩

theorem counted_activate (counted : Counted (ota, history)) (found beginOk hashSetupOk : Bool) :
    Counted (ota.activate found beginOk hashSetupOk,
      record ota (.activate found beginOk hashSetupOk) history) := by
  unfold Counted record at *
  dsimp only
  rcases activate_attempts ota found beginOk hashSetupOk with ⟨failed, raised⟩ | ⟨started, same⟩
  · rw [if_pos failed, raised, noProgressStreak, counted]
  · rw [if_neg (by rw [started]; simp), same]
    exact counted

theorem counted_report (counted : Counted (ota, history)) :
    Counted (ota.report, record ota .report history) := by
  unfold Counted Ota.report record at *
  dsimp only
  split
  · exact counted
  · cases progressed : decide (0 < ota.session.progressed) with
    | true =>
      rw [decide_eq_true_eq] at progressed
      rw [noProgressStreak]
      exact if_pos progressed
    | false =>
      rw [decide_eq_false_iff_not] at progressed
      rw [noProgressStreak, ← counted]
      exact if_neg progressed

theorem counted_session {event : OtaEvent} (counted : Counted (ota, history))
    (taken : ota.sessionStep firmware ota.pc event = some next) :
    Counted (next, record ota event history) := by
  cases Ota.session_kind taken with
  | activate found beginOk hashSetupOk _ => exact counted_activate counted found beginOk hashSetupOk
  | prime chunk ok _ => exact (Ota.prime_frame ota chunk ok).1.noProgressAttempts.trans counted
  | wait _ => exact (Ota.wait_frame ota).1.noProgressAttempts.trans counted
  | countDone chunkBit _ =>
    exact (Ota.countDone_frame ota chunkBit).1.noProgressAttempts.trans counted
  | topUp chunk nowDone ok capExceeded _ =>
    exact (Ota.topUp_frame ota chunk nowDone ok capExceeded).1.noProgressAttempts.trans counted
  | finalize hashOk endOk bootOk _ =>
    exact (finalize_attempts ota hashOk endOk bootOk).trans counted
  | report _ => exact counted_report counted
  | loopCheck uriFound _ _ => split <;> exact counted
  | _ => exact counted

theorem record_handler {event : OtaEvent}
    (taken : ota.handlerStep ota.handler event = some next) :
    record ota event history = history := by
  cases Ota.handler_kind taken <;> rfl

theorem counted_step (state : Observed) (event : OtaEvent) (after : Observed)
    (counted : Counted state) (taken : step firmware state event = some after) :
    Counted after := by
  obtain ⟨stepped, recorded⟩ := Runs.observe_step taken
  obtain ⟨ota, history⟩ := state
  obtain ⟨next, _⟩ := after
  obtain rfl : _ = record ota event history := recorded
  cases Ota.step_kind stepped with
  | manifest message _ =>
    obtain ⟨manifest, same⟩ := ota.handleManifest_eq firmware message
    exact (congrArg Ota.noProgressAttempts same).trans counted
  | install set _ => exact counted
  | handler handled =>
    rw [record_handler handled]
    exact (Ota.handlerStep_kept handled).noProgressAttempts.trans counted
  | session ran => exact counted_session counted ran

theorem due_iff_of_fresh (fresh : Fresh ota history) :
    ota.updateDue = true ↔ ota.noProgressAttempts < otaMaxNoProgressAttempts := by
  unfold Ota.updateDue
  rw [fresh.requested, fresh.valid, fresh.differs]
  simp

/-- In every state reached: an untried image is due when the failed sessions
before it, of whatever images, leave some of the budget. -/
theorem freshImage_due_iff (firmware : Firmware) (events : List OtaEvent) (final : Observed)
    (ran : Runs.run (step firmware) ({}, {}) events = some final) :
    (Fresh final.1 final.2 → final.1.updateDue = true) ↔
      (Fresh final.1 final.2 →
        noProgressStreak final.2.outcomes < otaMaxNoProgressAttempts) := by
  have atBoot : Counted ({}, {}) := rfl
  have counted : Counted final := Runs.run_invariant Counted counted_step atBoot ran
  refine forall_congr' fun fresh => ?_
  rw [due_iff_of_fresh fresh, counted]

/-! ## A staging whose chunks are missing -/

def stage (version : List Char) (sha256 : Digest) : List OtaEvent :=
  [.manifest .empty,
   .manifest (.body
    { version := some version, size := some 2, chunkSize := some 1, sha256 := some sha256
      force := false })]

/-- No chunk arrives before the wait times out. -/
def starvedSession : List OtaEvent :=
  RetryBudget.openClient ++ RetryBudget.beginSession 2 ++ [.wait, .countDone] ++
    RetryBudget.endSession.tail

def starved (sessions : Nat) : List OtaEvent :=
  stage ['2'] 1 ++ [.install true] ++ (List.replicate sessions starvedSession).flatten ++
    stage ['3'] 2

theorem freshImage_due_iff_twice :
    ∃ final, Runs.run (step RetryBudget.hashless) ({}, {}) (starved 2) = some final ∧
      Fresh final.1 final.2 ∧ final.1.updateDue = true := by
  obtain ⟨final, ran, found⟩ := Runs.exists_final
    (fun final : Observed => decide (Fresh final.1 final.2 ∧
      noProgressStreak final.2.outcomes < otaMaxNoProgressAttempts))
    (show (Runs.run (step RetryBudget.hashless) ({}, {}) (starved 2)).any _ = true by
      decide +kernel)
  obtain ⟨fresh, below⟩ := of_decide_eq_true found
  exact ⟨final, ran, fresh,
    (freshImage_due_iff RetryBudget.hashless (starved 2) final ran).mpr (fun _ => below) fresh⟩

/-- After three such sessions the next image is not offered. -/
theorem freshImage_blocked :
    ¬ ∀ (firmware : Firmware) (events : List OtaEvent) (final : Observed),
      Runs.run (step firmware) ({}, {}) events = some final →
      Fresh final.1 final.2 → final.1.updateDue = true := by
  intro always
  obtain ⟨final, ran, found⟩ := Runs.exists_final
    (fun final : Observed => decide (Fresh final.1 final.2 ∧ final.1.updateDue = false))
    (show (Runs.run (step RetryBudget.hashless) ({}, {}) (starved 3)).any _ = true by
      decide +kernel)
  obtain ⟨fresh, blocked⟩ := of_decide_eq_true found
  have due := always RetryBudget.hashless (starved 3) final ran fresh
  exact absurd (blocked.symm.trans due) (by decide)

end SleepySensor.FreshImage
