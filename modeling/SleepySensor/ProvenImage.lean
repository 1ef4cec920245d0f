import SleepySensor.HpSteps
import SleepySensor.Lib.History

/-!
# A proven image and the unconfirmed-image supervisor

The supervisor counts unhealthy cycles of a boot whose image is still pending;
`markAppValidOnFirstConfirmedPublish` is to take the image out of its reach.  The
history variable holds what happened to the two in this boot.
-/

set_option autoImplicit false

namespace SleepySensor.ProvenImage

open HpSystem

/-- Of one boot: whether the image came up pending, whether the broker has ACKed a
state message, whether the first publish that the sensor task saw confirmed could
mark it valid, and how many cycles in a row were unhealthy. -/
structure History where
  fresh : Bool := false
  acked : Bool := false
  confirmed : Option Bool := none
  unhealthy : Nat := 0
  deriving DecidableEq, Repr

abbrev Observed := HpSystem × History

/-- The supervisor sees an unhealthy cycle and can read the state of the image. -/
def seesUnhealthy (system : HpSystem) (stateRead : Bool) : Bool :=
  stateRead && !system.sensor.cycleOk system.ota.sessionActive

def record (system : HpSystem) (action : HpAction) (history : History) : History :=
  match action with
  | .sensor (.deliver _ stateRead marked) =>
    if system.sensor.cycle.publishedOk then
      { history with confirmed := some (history.confirmed.getD (stateRead && marked)) }
    else history
  | .sensor (.supervise stateRead) =>
    { history with
      unhealthy := if seesUnhealthy system stateRead then history.unhealthy + 1 else 0 }
  | .client _ =>
    { history with acked := history.acked || (system.ackedState action).isSome }
  | .reset pendingVerify => { fresh := pendingVerify }
  | _ => history

def start (env : HpEnv) (nvs : Nvs) (cyclesStarted : Nat) (pendingVerify : Bool) : Observed :=
  (boot env nvs cyclesStarted pendingVerify, { fresh := pendingVerify })

def step (env : HpEnv) : Observed → HpAction → Option Observed :=
  Runs.observe (HpSystem.step env) record

def stallReboots (sensor : SensorsTask) : Bool :=
  sensor.cycle.lpStalledThisCycle &&
    decide (lpStallRebootThreshold ≤ u32 (sensor.lpStalledCycles + 1))

/-- The unconfirmed-image supervisor calls `esp_restart`. -/
def rollsBack (system : HpSystem) : HpAction → Bool
  | .sensor (.supervise stateRead) =>
    decide (system.sensor.pc = .cycleEnd) && !stallReboots system.sensor &&
      decide ((system.supervise stateRead).sensor.pc = .rebooting)
  | _ => false

/-- An image whose state message was ACKed is not rolled back. -/
def NotRolledBack (state : Observed) (action : HpAction) : Prop :=
  state.2.acked = true → rollsBack state.1 action = false

instance (state : Observed) (action : HpAction) : Decidable (NotRolledBack state action) :=
  inferInstanceAs (Decidable (state.2.acked = true → rollsBack state.1 action = false))

/-- By its fifth unhealthy cycle in a row, an image whose state message was ACKed
has had a publish that the sensor task saw confirmed, the first of which marked it
valid. -/
def MarkedByFifth (state : Observed) : HpAction → Prop
  | .sensor (.supervise stateRead) =>
    state.1.sensor.pc = .cycleEnd → state.2.fresh = true → state.2.acked = true →
      stallReboots state.1.sensor = false → seesUnhealthy state.1 stateRead = true →
      unconfirmedOtaRebootAfterCycles ≤ state.2.unhealthy + 1 → state.2.confirmed = some true
  | _ => True

/-! ## The invariant -/

variable {env : HpEnv} {system next : HpSystem} {history : History}

structure Inv (system : HpSystem) (history : History) : Prop where
  checked : system.sensor.appValidChecked = history.confirmed.isSome
  pending : system.sensor.pendingVerify = (history.fresh && history.confirmed != some true)
  counted : system.sensor.pendingVerify = true →
    system.sensor.cyclesUnconfirmedAndFailing = history.unhealthy
  below : system.sensor.pendingVerify = true → system.sensor.pc ≠ .rebooting →
    history.unhealthy < unconfirmedOtaRebootAfterCycles

theorem inv_start (env : HpEnv) (nvs : Nvs) (cyclesStarted : Nat) (pendingVerify : Bool) :
    Inv (boot env nvs cyclesStarted pendingVerify) { fresh := pendingVerify } := by
  refine ⟨rfl, ?_, fun _ => rfl, fun _ _ => ?_⟩
  · simp [boot]
  · simp [unconfirmedOtaRebootAfterCycles]

/-- A step that leaves the supervisors' statics alone. -/
structure SameStatics (system next : HpSystem) : Prop where
  checked : next.sensor.appValidChecked = system.sensor.appValidChecked
  pending : next.sensor.pendingVerify = system.sensor.pendingVerify
  failing : next.sensor.cyclesUnconfirmedAndFailing = system.sensor.cyclesUnconfirmedAndFailing

theorem Inv.same (inv : Inv system history) (same : SameStatics system next)
    (running : system.sensor.pc ≠ .rebooting) : Inv next history := by
  refine ⟨?_, ?_, ?_, ?_⟩
  · rw [same.checked]
    exact inv.checked
  · rw [same.pending]
    exact inv.pending
  · rw [same.pending, same.failing]
    exact inv.counted
  · rw [same.pending]
    exact fun pending _ => inv.below pending running

theorem Inv.acked (inv : Inv system history) (acked : Bool) :
    Inv system { history with acked := acked } :=
  ⟨inv.checked, inv.pending, inv.counted, inv.below⟩

theorem inv_deliver (inv : Inv system history) (nowUs : Int) (stateRead marked : Bool)
    (at_ : system.sensor.pc = .delivering) :
    Inv (system.deliver nowUs stateRead marked)
      (record system (.sensor (.deliver nowUs stateRead marked)) history) := by
  have running : system.sensor.pc ≠ .rebooting := by rw [at_]; simp
  unfold record deliver
  dsimp only
  cases published : system.sensor.cycle.publishedOk with
  | false =>
    simp only [Bool.false_eq_true, if_false]
    split
    · exact inv.same ⟨rfl, rfl, rfl⟩ running
    · exact inv.same ⟨rfl, rfl, rfl⟩ running
  | true =>
    simp only [if_true]
    have checked := inv.checked
    have pending := inv.pending
    have after : (system.sensor.pendingVerify &&
        (system.sensor.appValidChecked || !(stateRead && marked))) =
        (history.fresh &&
          some (history.confirmed.getD (stateRead && marked)) != some true) := by
      rw [checked, pending]
      cases history.fresh
      · rfl
      · cases history.confirmed with
        | none => cases stateRead <;> cases marked <;> rfl
        | some outcome => cases outcome <;> rfl
    rw [SensorsTask.markAppValid_eq]
    refine ⟨rfl, after, ?_, ?_⟩
    · intro still
      simp only [withSensor, Bool.and_eq_true] at still
      exact inv.counted still.1
    · intro still _
      simp only [withSensor, Bool.and_eq_true] at still
      exact inv.below still.1 running

theorem Inv.counts (inv : Inv system history) (at_ : system.sensor.pc = .cycleEnd)
    (pending : system.sensor.pendingVerify = true) :
    system.sensor.cyclesUnconfirmedAndFailing = history.unhealthy ∧
      u32 (history.unhealthy + 1) = history.unhealthy + 1 := by
  have below := inv.below pending (by rw [at_]; simp)
  refine ⟨inv.counted pending, ?_⟩
  unfold unconfirmedOtaRebootAfterCycles at below
  unfold u32 u32Mod
  exact Nat.mod_eq_of_lt (by omega)

theorem supervise_failing (system : HpSystem) (stateRead : Bool) :
    (system.supervise stateRead).sensor.cyclesUnconfirmedAndFailing =
      if system.sensor.pendingVerify && seesUnhealthy system stateRead then
        u32 (system.sensor.cyclesUnconfirmedAndFailing + 1)
      else 0 := by
  unfold seesUnhealthy HpSystem.supervise SensorsTask.supervise SensorsTask.stillUnconfirmed
  dsimp only [withSensor]
  cases stateRead <;> cases system.sensor.pendingVerify <;> rfl

theorem supervise_reboots (system : HpSystem) (stateRead : Bool) :
    (system.supervise stateRead).sensor.pc = .rebooting ↔
      stallReboots system.sensor = true ∨
        (system.sensor.pendingVerify && seesUnhealthy system stateRead) = true ∧
          unconfirmedOtaRebootAfterCycles ≤
            (system.supervise stateRead).sensor.cyclesUnconfirmedAndFailing := by
  rw [supervise_failing]
  unfold seesUnhealthy stallReboots HpSystem.supervise SensorsTask.supervise
    SensorsTask.stillUnconfirmed
  dsimp only [withSensor]
  cases stalled : system.sensor.cycle.lpStalledThisCycle <;>
    cases stateRead <;> cases system.sensor.pendingVerify <;>
      cases system.sensor.cycleOk system.ota.sessionActive <;> simp [or_iff_not_imp_left]

theorem inv_supervise (inv : Inv system history) (stateRead : Bool)
    (at_ : system.sensor.pc = .cycleEnd) :
    Inv (system.supervise stateRead) (record system (.sensor (.supervise stateRead)) history) := by
  have reboots := supervise_reboots system stateRead
  have failing := supervise_failing system stateRead
  have samePending : (system.supervise stateRead).sensor.pendingVerify =
      system.sensor.pendingVerify := rfl
  refine ⟨inv.checked, inv.pending, ?_, ?_⟩
  · intro pending
    rw [samePending] at pending
    obtain ⟨counted, noWrap⟩ := inv.counts at_ pending
    rw [failing, pending, counted, noWrap, Bool.true_and]
    rfl
  · intro pending running
    rw [samePending] at pending
    obtain ⟨counted, noWrap⟩ := inv.counts at_ pending
    have alive := mt reboots.mpr running
    rw [failing, pending, counted, noWrap, Bool.true_and] at alive
    cases unhealthy : seesUnhealthy system stateRead with
    | false => simp [record, unhealthy, unconfirmedOtaRebootAfterCycles]
    | true =>
      rw [unhealthy] at alive
      simp only [record, unhealthy, if_true] at alive ⊢
      by_contra fifth
      exact alive (.inr ⟨trivial, not_lt.mp fifth⟩)

/-! ## One step, and whole runs -/

theorem inv_sensor {event : SensorEvent} (inv : Inv system history)
    (move : SensorMove env system event next) :
    Inv next (record system (.sensor event) history) := by
  have running := sensor_running move
  cases move with
  | deliver nowUs stateRead marked at_ => exact inv_deliver inv nowUs stateRead marked at_
  | supervise stateRead at_ => exact inv_supervise inv stateRead at_
  | branch at_ =>
    obtain ⟨quiet, stalled, otaOnly, values, pc, same, -⟩ :=
      system.sensor.branch_eq system.ota.sessionActive system.ota.updateDue
        env.yaml.readBatteryViaAdc
    rw [same]
    exact inv.same ⟨rfl, rfl, rfl⟩ running
  | _ => exact inv.same ⟨rfl, rfl, rfl⟩ running

theorem inv_step (state : Observed) (action : HpAction) (after : Observed)
    (inv : Inv state.1 state.2) (taken : step env state action = some after) :
    Inv after.1 after.2 := by
  obtain ⟨stepped, recorded⟩ := Runs.observe_step taken
  rw [recorded]
  obtain ⟨system, history⟩ := state
  obtain ⟨next, _⟩ := after
  have others : next.sensor = system.sensor → Inv next history := by
    intro same
    refine ⟨?_, ?_, ?_, ?_⟩ <;> rw [same]
    · exact inv.checked
    · exact inv.pending
    · exact inv.counted
    · exact inv.below
  cases step_move stepped with
  | sensor move => exact inv_sensor inv move
  | pub running leaves move => exact others (pub_sensor move)
  | tail => exact others rfl
  | client move => exact (others (client_sensor move)).acked _
  | @ota _ event accepted _ running at_ inCycle stepped =>
    obtain ⟨radio, same⟩ := system.otaRadio_eq event accepted
    exact others (by rw [same])
  | reset pendingVerify => exact inv_start env _ _ pendingVerify

theorem supervise_notRolledBack (inv : Inv system history) (stateRead : Bool) :
    NotRolledBack (system, history) (.sensor (.supervise stateRead)) ↔
      MarkedByFifth (system, history) (.sensor (.supervise stateRead)) := by
  have reboots := supervise_reboots system stateRead
  rw [supervise_failing] at reboots
  constructor
  · intro notBack at_ fresh acked alive unhealthy fifth
    by_contra unmarked
    have pending : system.sensor.pendingVerify = true := by
      rw [inv.pending, fresh]
      simpa using unmarked
    obtain ⟨counted, noWrap⟩ := inv.counts at_ pending
    rw [pending, unhealthy, counted, Bool.true_and, if_pos rfl, noWrap] at reboots
    have calls : rollsBack system (.sensor (.supervise stateRead)) = true := by
      simp only [rollsBack, Bool.and_eq_true, decide_eq_true_eq, Bool.not_eq_true']
      exact ⟨⟨at_, alive⟩, reboots.mpr (.inr ⟨rfl, fifth⟩)⟩
    rw [notBack acked] at calls
    cases calls
  · intro marked acked
    by_contra back
    simp only [Bool.not_eq_false, rollsBack, Bool.and_eq_true, decide_eq_true_eq,
      Bool.not_eq_true'] at back
    obtain ⟨⟨at_, alive⟩, calls⟩ := back
    rcases reboots.mp calls with stalled | ⟨both, fifth⟩
    · rw [alive] at stalled
      cases stalled
    · rw [if_pos both] at fifth
      simp only [Bool.and_eq_true] at both
      obtain ⟨counted, noWrap⟩ := inv.counts at_ both.1
      have pending := inv.pending
      rw [both.1] at pending
      obtain ⟨fresh, unmarked⟩ := Bool.and_eq_true_iff.mp pending.symm
      rw [counted, noWrap] at fifth
      rw [marked at_ fresh acked alive both.2 fifth] at unmarked
      cases unmarked

theorem notRolledBack_iff (state : Observed) (action : HpAction) (inv : Inv state.1 state.2) :
    NotRolledBack state action ↔ MarkedByFifth state action := by
  cases action with
  | sensor event =>
    cases event with
    | supervise stateRead => exact supervise_notRolledBack inv stateRead
    | _ => exact iff_of_true (fun _ => rfl) trivial
  | _ => exact iff_of_true (fun _ => rfl) trivial

/-- No boot of a run rolls an image back after an ACKed state message exactly if
each such image is marked valid before its fifth unhealthy cycle in a row. -/
theorem notRolledBack_run (env : HpEnv) (nvs : Nvs) (cyclesStarted : Nat) (pendingVerify : Bool)
    (actions : List HpAction) :
    Runs.Along (step env) NotRolledBack (start env nvs cyclesStarted pendingVerify) actions ↔
      Runs.Along (step env) MarkedByFifth (start env nvs cyclesStarted pendingVerify) actions :=
  Runs.along_iff (fun state => Inv state.1 state.2)
    (fun _ _ _ inv _ taken => inv_step _ _ _ inv taken) notRolledBack_iff
    (inv_start env nvs cyclesStarted pendingVerify) actions

/-- The state message is ACKed after its wait, and the next four cycles do not
attach. -/
def ackedAfterWait : List HpAction :=
  let failedCycle := .sensor (.attachGate false) :: sleepAndWake
  attachFirst ++ takeUp (reading 1 (.fin 21)) ++ waitTimesOut ++ publishUpToState ++
    allAcked 33 ++ sleepAndWake ++ failedCycle ++ failedCycle ++ failedCycle ++
    [.sensor (.attachGate false), .sensor (.supervise true)]

theorem acked_rolledBack :
    ¬ ∀ env nvs cyclesStarted actions,
      Runs.Along (step env) NotRolledBack (start env nvs cyclesStarted true) actions := by
  intro always
  have kept := always benchEnv Nvs.erased 0 ackedAfterWait
  revert kept
  decide +kernel

end SleepySensor.ProvenImage
