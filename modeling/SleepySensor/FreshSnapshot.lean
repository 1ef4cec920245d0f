import SleepySensor.Lib.FreshRead
import SleepySensor.Lib.History
import SleepySensor.LpCycles

/-!
# When a snapshot was current

A call of `lp_sensor_core_get_state` that returns from inside its loop hands out
what the shared words were at one instant of the call.  `skipped_cycles` is the
loose word of the lock: the ack block clears it while `result_seq` is even.
-/

set_option autoImplicit false

namespace SleepySensor.FreshSnapshot

open SleepySensor.LpCore SleepySensor.Snapshot Seqlock

/-- A run with the memory at every step of the current call. -/
abbrev Observed := HpLp × List Shared

def record (system : HpLp) (action : Action) (instants : List Shared) : List Shared :=
  match action with
  | .getState _ => []
  | _ => instantsAfter system.lock instants

def looseField : Field := .u .skippedCycles

/-- What a cycle stores is guarded by `result_seq`, but for these two words. -/
theorem cycleStores_guarded : ∀ field ∈ cycleStores,
    resultField field = true ∨ field = looseField ∨ field = .u .resultSeq := by decide

section Program

variable [FloatOps]

def step : Observed → Action → Option Observed := Runs.observe Snapshot.step record

structure Inv (state : Observed) : Prop where
  locked : Snapshot.Inv state.1
  fresh : Fresh layout looseField state.1.lock state.2

variable {system next : HpLp} {instants : List Shared}

omit [FloatOps] in
theorem inv_start (contents : Shared) : Inv (start contents, []) :=
  ⟨Snapshot.start_inv contents, by unfold Fresh; trivial⟩

omit [FloatOps] in
theorem fresh_lp (locked : Snapshot.Inv system) (move : LpMove system next)
    (fresh : Fresh layout looseField system.lock instants) :
    Fresh layout looseField next.lock (instantsAfter system.lock instants) := by
  cases move with
  | finish running => exact fresh_still fresh
  | @perform op following answer running answers =>
    cases op with
    | store field value =>
      exact fresh_store (keeps_of_may (locked.running _ running).1) fresh
    | _ => exact fresh_still fresh

theorem inv_step (state : Observed) (action : Action) (next : Observed) (inv : Inv state)
    (taken : step state action = some next) : Inv next := by
  obtain ⟨stepped, recorded⟩ := Runs.observe_step taken
  obtain ⟨locked, fresh⟩ := inv
  refine ⟨step_inv _ action _ locked stepped, ?_⟩
  rw [recorded]
  cases action with
  | lpTimer =>
    obtain ⟨-, same⟩ := Option.ite_none_right_eq_some.mp stepped
    rw [← Option.some.inj same]
    exact fresh_still fresh
  | lpStep answer => exact fresh_lp locked (lpStep_move stepped) fresh
  | hpStore field value =>
    obtain ⟨owned, same⟩ := Option.ite_none_right_eq_some.mp stepped
    rw [← Option.some.inj same]
    exact fresh_store (keeps_of_hpOwned value owned) fresh
  | getState contents =>
    obtain ⟨lock, called, same⟩ := Option.map_eq_some_iff.mp stepped
    rw [← same]
    exact fresh_call called _
  | readerStep =>
    obtain ⟨lock, read, same⟩ := Option.map_eq_some_iff.mp stepped
    rw [← same]
    exact fresh_readerStep locked.lock (mem_copyOrder looseField) read fresh

/-- Between LP cycles `result_seq` is even, and a clean read is of one instant of
the call at which it was even. -/
theorem cleanRead_fresh {contents : Shared} {actions : List Action} {final : Observed}
    (ran : Runs.run step (start contents, []) actions = some final) :
    (final.1.lp = none → (final.1.lock.memory (.u .resultSeq) : Nat) % 2 = 0) ∧
      (final.1.lock.reader = .returned true → final.1.lock.moved < u32Mod →
        ∃ instant ∈ final.2, (instant (.u .resultSeq) : Nat) % 2 = 0 ∧
          ∀ field ∈ cycleStores, final.1.lock.out field = instant field) := by
  have inv : Inv final := Runs.run_invariant Inv inv_step (inv_start contents) ran
  refine ⟨inv.locked.resting, fun returned few => ?_⟩
  have fresh := inv.fresh
  simp only [Fresh, returned] at fresh
  obtain ⟨instant, member, even, shows⟩ := fresh few
  exact ⟨instant, member, even, fun field stored =>
    shows field (cycleStores_guarded field stored) (mem_copyOrder field) List.not_mem_nil⟩

end Program

/-- The LP core wakes and looks for an ack while the words are being copied. -/
def wakeDuringCopy : List Action :=
  .getState zeroed :: (List.replicate 20 .readerStep ++
    (.lpTimer :: List.replicate 3 (.lpStep ⟨true, none⟩)) ++ List.replicate 13 .readerStep)

theorem cleanRead_fresh_waking :
    ∃ final, Runs.run (@step exactFloat) (start zeroed, []) wakeDuringCopy = some final ∧
      ∃ instant ∈ final.2, (instant (.u .resultSeq) : Nat) % 2 = 0 ∧
        ∀ field ∈ cycleStores, final.1.lock.out field = instant field := by
  obtain ⟨final, ran, clean⟩ := Runs.exists_final
    (fun final : Observed =>
      decide (final.1.lock.reader = .returned true ∧ final.1.lock.moved = 0))
    (show (Runs.run (@step exactFloat) (start zeroed, []) wakeDuringCopy).any _ = true by
      decide +kernel)
  obtain ⟨returned, still⟩ := of_decide_eq_true clean
  refine ⟨final, ran, (@cleanRead_fresh exactFloat _ _ _ ran).2 returned ?_⟩
  rw [still]
  decide

end SleepySensor.FreshSnapshot
