import SleepySensor.HpInvariant
import SleepySensor.Lib.Runs

/-!
# When the TX power has to be the maximum

Two windows: up to the first attach of a boot, and between the pin and the unpin
of an OTA session.  Of the calls of `setTxPowerDbm` that can fall into one, all
but the revert's set the maximum.
-/

set_option autoImplicit false

namespace SleepySensor.HpSystem

def pinnedPc : SessionPc → Bool
  | .priming _ | .pulling | .woke _ | .toppingUp _ _ | .ended | .finalizing | .closing => true
  | .unpinning => true
  | _ => false

def isUnpin : HpAction → Bool
  | .ota .unpin _ => true
  | _ => false

/-- The call falls into a window.  The unpin ends the second one. -/
def pinned (system : HpSystem) (action : HpAction) : Bool :=
  !system.config.tx.firstAttachDone || (pinnedPc system.ota.pc && !isUnpin action)

def PinRespected (system : HpSystem) (action : HpAction) : Prop :=
  system.pinned action = true → ∀ dbm ∈ system.radioCall action, dbm = txPowerTableMaxDbm

/-- A revert to a known-good value below the maximum calls `setTxPowerDbm` in
neither window. -/
def RevertOutside (system : HpSystem) : HpAction → Prop
  | .sensor (.setTxDone accepted) =>
    match system.sensor.pc with
    | .revertCall dbm _ =>
      dbm = txPowerTableMaxDbm ∨ system.pinned (.sensor (.setTxDone accepted)) = false
    | _ => True
  | _ => True

instance (system : HpSystem) (action : HpAction) : Decidable (PinRespected system action) := by
  unfold PinRespected
  infer_instance

variable {env : HpEnv} {system : HpSystem}

theorem Placed.unpinned {pub : Pub} (placed : Placed system) (running : pub ∈ system.mqtt.pub)
    (elsewhere : pub.pc ≠ .inOta) (action : HpAction) : system.pinned action = false := by
  have idle := placed.notIn running elsewhere
  have done := placed.attachedPub pub running
  simp [pinned, idle, done, pinnedPc]

theorem Placed.firstCall_unpinned {dbm : Int} (placed : Placed system)
    (at_ : system.sensor.pc = .firstAttachCall dbm) (action : HpAction) :
    system.pinned action = false := by
  have done := placed.attached (by rw [at_]; trivial)
  have alone := placed.firstCall dbm at_
  have idle : system.ota.pc = .idle := by
    by_contra busy
    obtain ⟨pub, running, -⟩ := placed.session busy
    exact absurd (running.symm.trans alone) (by simp)
  simp [pinned, idle, done, pinnedPc]

theorem pinRespected_sensor (placed : Placed system) (accepted : Bool) :
    PinRespected system (.sensor (.setTxDone accepted)) ↔
      RevertOutside system (.sensor (.setTxDone accepted)) := by
  unfold PinRespected RevertOutside radioCall
  cases at_ : system.sensor.pc with
  | firstAttachCall dbm =>
    rw [placed.firstCall_unpinned at_]
    simp
  | revertCall dbm resume =>
    constructor
    · intro respected
      cases inside : system.pinned (.sensor (.setTxDone accepted)) with
      | true => exact .inl (respected inside dbm rfl)
      | false => exact .inr inside
    · rintro (same | outside) inside other ⟨⟩
      · exact same
      · rw [outside] at inside
        cases inside
  | _ => simp

theorem pinRespected_trial (placed : Placed system) (accepted : Bool) :
    PinRespected system (.pub (.setTxDone accepted)) := by
  intro inside dbm called
  obtain ⟨pub, running, at_⟩ := Option.bind_eq_some_iff.mp called
  have elsewhere : pub.pc ≠ .inOta := by
    intro inOta
    rw [inOta] at at_
    cases at_
  rw [placed.unpinned running elsewhere] at inside
  cases inside

theorem pinRespected_unpin (placed : Placed system) (accepted : Bool) :
    PinRespected system (.ota .unpin accepted) := by
  intro inside dbm called
  obtain ⟨at_, -⟩ := Option.ite_none_right_eq_some.mp called
  obtain ⟨pub, running, -⟩ := placed.session (by rw [at_]; simp)
  simp [pinned, placed.attachedPub pub running, isUnpin] at inside

theorem pinRespected_pin (accepted : Bool) : PinRespected system (.ota .pin accepted) := by
  intro _ dbm called
  obtain ⟨-, same⟩ := Option.ite_none_right_eq_some.mp called
  exact (Option.some.inj same).symm

theorem pinRespected_iff (system : HpSystem) (action : HpAction) (placed : Placed system) :
    PinRespected system action ↔ RevertOutside system action := by
  have silent : system.radioCall action = none → PinRespected system action := by
    intro none inside dbm called
    have called : system.radioCall action = some dbm := called
    rw [none] at called
    cases called
  cases action with
  | sensor event =>
    cases event with
    | setTxDone accepted => exact pinRespected_sensor placed accepted
    | _ => exact iff_of_true (silent rfl) trivial
  | pub event =>
    cases event with
    | setTxDone accepted => exact iff_of_true (pinRespected_trial placed accepted) trivial
    | _ => exact iff_of_true (silent rfl) trivial
  | ota event accepted =>
    cases event with
    | pin => exact iff_of_true (pinRespected_pin accepted) trivial
    | unpin => exact iff_of_true (pinRespected_unpin placed accepted) trivial
    | _ => exact iff_of_true (silent rfl) trivial
  | tail => exact iff_of_true (silent rfl) trivial
  | client event => exact iff_of_true (silent rfl) trivial
  | reset pendingVerify => exact iff_of_true (silent rfl) trivial

/-- A run from boot respects both windows exactly if its reverts do. -/
theorem pinRespected_run (env : HpEnv) (nvs : Nvs) (cyclesStarted : Nat) (pendingVerify : Bool)
    (actions : List HpAction) :
    Runs.Along (step env) PinRespected (boot env nvs cyclesStarted pendingVerify) actions ↔
      Runs.Along (step env) RevertOutside (boot env nvs cyclesStarted pendingVerify) actions :=
  Runs.along_iff Placed (fun _ _ _ placed _ taken => placed_step placed taken) pinRespected_iff
    (placed_boot env nvs cyclesStarted pendingVerify) actions

/-- A boot with `tx_power_dbm` 5 and a trial of 10 left in NVS never attaches. -/
def revertedUnattached : List HpAction :=
  let failedCycle := .sensor (.attachGate false) :: sleepAndWake
  failedCycle ++ failedCycle ++ [.sensor (.attachGate false), .sensor (.setTxDone true)]

theorem revert_inWindow :
    ¬ ∀ env nvs cyclesStarted pendingVerify actions,
      Runs.Along (step env) PinRespected (boot env nvs cyclesStarted pendingVerify) actions := by
  intro always
  have respected := always { benchEnv with yaml := { txPowerDbm := 5 } }
    ((Nvs.erased.set .txpPending (.i8 10)).set .txpPendFlag (.u8 1)) 0 false revertedUnattached
  revert respected
  decide +kernel

end SleepySensor.HpSystem
