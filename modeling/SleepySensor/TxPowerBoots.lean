import SleepySensor.Lib.Runs
import SleepySensor.TxPower

/-!
# Known-good TX power over boots

Runs of trials, confirmations, reverts and reboots over one NVS namespace.  A
confirmed trial is written with `nvs_set_i8`; the boot reads the key through the
`int32_t` overload of `runtime_config_nvs_override`.
-/

set_option autoImplicit false

namespace SleepySensor.TxPowerBoots

open SleepySensor SleepySensor.Runs

structure Device where
  nvs : Nvs
  tx : TxPower
  /-- The value the last confirmed trial promoted, in any boot so far. -/
  promoted : Option Int

inductive TxAction where
  | firstAttach (accepted : Bool)
  | received (value : Int) (accepted : Bool)
  | cycleResult (ok accepted : Bool)
  | otherField (key : NvsKey) (value : NvsValue)
  | reboot
  deriving DecidableEq, Repr

def bootTx (yamlOrDefault : Int) (nvs : Nvs) : TxPower :=
  TxPower.init (TxPower.bootKnownGood yamlOrDefault nvs) nvs

def boot (yamlOrDefault : Int) (nvs : Nvs) (promoted : Option Int) : Device :=
  { nvs := nvs, tx := bootTx yamlOrDefault nvs, promoted := promoted }

def firstAttach (device : Device) (accepted : Bool) : Device :=
  let nvs := device.tx.noteFirstAttachNvs device.nvs
  match device.tx.noteFirstAttach with
  | (tx, some dbm) => { device with tx := tx.applied dbm accepted, nvs := nvs }
  | (tx, none) => { device with tx := tx, nvs := nvs }

def applyReceived (device : Device) (value : Int) (accepted : Bool) : Device :=
  let settled := device.tx.settleReceived value
  if settled.trial then
    { device with
      tx := (device.tx.startTrial settled.value).applied (int8 settled.value) accepted,
      nvs := TxPower.trialNvs settled.value device.nvs }
  else device

def cycleResult (device : Device) (ok accepted : Bool) : Device :=
  let tx := device.tx.noteCycleResult ok
  match device.tx.cycleVerdict ok with
  | .confirmed =>
    { nvs := device.tx.confirmNvs device.nvs, tx := tx, promoted := some device.tx.pending }
  | .reverting =>
    { device with tx := tx.applied tx.knownGood accepted, nvs := TxPower.revertNvs device.nvs }
  | _ => { device with tx := tx }

def step (yamlOrDefault : Int) (device : Device) : TxAction → Option Device
  | .firstAttach accepted => some (firstAttach device accepted)
  | .received value accepted => some (applyReceived device value accepted)
  | .cycleResult ok accepted => some (cycleResult device ok accepted)
  | .otherField key value =>
    if key = .txpPending ∨ key = .txpPendFlag ∨ key = .txpKnownGood then none
    else some { device with nvs := device.nvs.set key value }
  | .reboot => some (boot yamlOrDefault device.nvs device.promoted)

/-- The last promoted value is the one stored, under the type `int8_t`. -/
def PromotedStored (device : Device) : Prop :=
  ∀ dbm, device.promoted = some dbm → device.nvs .txpKnownGood = some (.i8 dbm)

theorem promotedStored_of_frame {before after : Device} (stored : PromotedStored before)
    (samePromoted : after.promoted = before.promoted)
    (sameEntry : after.nvs .txpKnownGood = before.nvs .txpKnownGood) :
    PromotedStored after := by
  intro dbm promoted
  rw [sameEntry]
  exact stored dbm (samePromoted ▸ promoted)

theorem firstAttach_promotedStored {device : Device} (accepted : Bool)
    (stored : PromotedStored device) : PromotedStored (firstAttach device accepted) := by
  have entry : (device.tx.noteFirstAttachNvs device.nvs) .txpKnownGood =
      device.nvs .txpKnownGood := by
    unfold TxPower.noteFirstAttachNvs
    split
    · exact Nvs.set_other _ _ (by decide)
    · rfl
  apply promotedStored_of_frame stored
  · unfold firstAttach
    split <;> rfl
  · unfold firstAttach
    split <;> exact entry

theorem applyReceived_promotedStored {device : Device} (value : Int) (accepted : Bool)
    (stored : PromotedStored device) : PromotedStored (applyReceived device value accepted) := by
  unfold applyReceived
  dsimp only
  split
  · refine promotedStored_of_frame stored rfl ?_
    simp [TxPower.trialNvs, Nvs.set]
  · exact stored

theorem cycleResult_promotedStored {device : Device} (ok accepted : Bool)
    (stored : PromotedStored device) : PromotedStored (cycleResult device ok accepted) := by
  unfold cycleResult
  dsimp only
  split
  · intro dbm promoted
    have same : device.tx.pending = dbm := Option.some.inj promoted
    simp [TxPower.confirmNvs, Nvs.set, same]
  · refine promotedStored_of_frame stored rfl ?_
    simp [TxPower.revertNvs, Nvs.set]
  · exact promotedStored_of_frame stored rfl rfl

theorem step_promotedStored {yamlOrDefault : Int} (device : Device) (action : TxAction)
    (next : Device) (stored : PromotedStored device)
    (taken : step yamlOrDefault device action = some next) : PromotedStored next := by
  cases action with
  | firstAttach accepted =>
    cases Option.some.inj taken
    exact firstAttach_promotedStored accepted stored
  | received value accepted =>
    cases Option.some.inj taken
    exact applyReceived_promotedStored value accepted stored
  | cycleResult ok accepted =>
    cases Option.some.inj taken
    exact cycleResult_promotedStored ok accepted stored
  | otherField key value =>
    simp only [step] at taken
    split at taken
    · cases taken
    · rename_i unrelated
      cases Option.some.inj taken
      refine promotedStored_of_frame stored rfl ?_
      exact Nvs.set_other _ _ fun same => unrelated (Or.inr (Or.inr same.symm))
  | reboot =>
    cases Option.some.inj taken
    exact promotedStored_of_frame stored rfl rfl

theorem run_promotedStored {yamlOrDefault : Int} {nvs : Nvs} {actions : List TxAction}
    {device : Device}
    (ran : run (step yamlOrDefault) (boot yamlOrDefault nvs none) actions = some device) :
    PromotedStored device :=
  run_invariant PromotedStored step_promotedStored (fun _ promoted => by cases promoted) ran

/-- At a boot after a run that confirmed a trial, `runtime_config_init` starts
from the promoted value exactly when that is the value of `device_config.yaml`:
the stored `int8_t` is not found as an `int32_t`. -/
theorem knownGood_survives_iff {yamlOrDefault : Int} {nvs : Nvs} {actions : List TxAction}
    {device : Device} {dbm : Int}
    (ran : run (step yamlOrDefault) (boot yamlOrDefault nvs none) actions = some device)
    (promoted : device.promoted = some dbm) :
    (bootTx yamlOrDefault device.nvs).knownGood = dbm ↔ dbm = TxPower.narrow yamlOrDefault := by
  have stored := run_promotedStored ran dbm promoted
  have fallback : TxPower.bootKnownGood yamlOrDefault device.nvs = yamlOrDefault :=
    Nvs.overrideInt32_of_i8 yamlOrDefault stored
  rw [bootTx, TxPower.init_knownGood, fallback]
  exact eq_comm

theorem knownGood_survives_iff_five :
    ∃ device : Device, device.promoted = some 5 ∧
      ((bootTx 20 device.nvs).knownGood = 5 ↔ (5 : Int) = TxPower.narrow 20) := by
  have ran : run (step 20) (boot 20 Nvs.erased none)
      [.firstAttach true, .received 5 true, .cycleResult true true] = some _ := rfl
  exact ⟨_, rfl, knownGood_survives_iff ran rfl⟩

/-- A trial of 5 dBm confirmed on a device whose `device_config.yaml` leaves the
table maximum: the next boot starts from 20 dBm again. -/
theorem knownGood_lost :
    ∃ device : Device,
      run (step 20) (boot 20 Nvs.erased none)
        [.firstAttach true, .received 5 true, .cycleResult true true, .reboot] = some device ∧
      device.promoted = some 5 ∧ device.tx.knownGood = 20 ∧ device.tx.knownGood ≠ 5 :=
  ⟨_, rfl, rfl, rfl, by decide⟩

end SleepySensor.TxPowerBoots
