import SleepySensor.Nvs

/-!
# TX power: pending, known-good, revert

The state machine of `runtime_config.cpp` that a `tx_power_dbm` value goes
through before it is trusted, over the statics `s_tx_power_*`.  A call of
`NetworkLink::setTxPowerDbm` returns `ESP_OK` or not.  Each function is split at
that call: the part before it, `applied` with the result, and the NVS writes
(`..Nvs`), so that the two tasks can interleave between them.
-/

set_option autoImplicit false

namespace SleepySensor

def txPowerDbmMin : Int := -15
def txPowerDbmMax : Int := 20
def txPowerTableMaxDbm : Int := 20
def txPowerRevertAfterCycles : Nat := 3

structure TxPower where
  knownGood : Int := txPowerTableMaxDbm
  pending : Int := txPowerTableMaxDbm
  hasPending : Bool := false
  unconfirmedCycles : Nat := 0
  activeDbm : Int := txPowerTableMaxDbm
  firstAttachDone : Bool := false
  rejected : Int := 0
  hasRejected : Bool := false
  deriving DecidableEq, Repr

namespace TxPower

def narrow (dbm : Int) : Int := int8 (stdClamp dbm txPowerDbmMin txPowerDbmMax)

/-- The TX power part of `runtime_config_init`. -/
def init (knownGoodDbm : Int) (nvs : Nvs) : TxPower :=
  let fresh : TxPower := { knownGood := narrow knownGoodDbm }
  match nvs.getU8 .txpPendFlag, nvs.getI8 .txpPending with
  | some pendFlag, some pending =>
    if pendFlag ≠ 0 then { fresh with pending := pending, hasPending := true } else fresh
  | _, _ => fresh

def bootKnownGood (yamlOrDefault : Int) (nvs : Nvs) : Int :=
  nvs.overrideInt32 yamlOrDefault .txpKnownGood

def applied (tx : TxPower) (dbm : Int) (accepted : Bool) : TxPower :=
  if accepted then { tx with activeDbm := dbm } else tx

def accepted (tx : TxPower) : Int := if tx.hasPending then tx.pending else tx.knownGood

/-- `runtime_config_tx_power_note_first_attach` up to its `setTxPowerDbm` call;
with the value of that call, if it is made. -/
def noteFirstAttach (tx : TxPower) : TxPower × Option Int :=
  if tx.firstAttachDone then (tx, none)
  else if tx.hasPending then
    ({ tx with firstAttachDone := true, rejected := tx.pending, hasRejected := true,
               hasPending := false, unconfirmedCycles := 0 }, some tx.knownGood)
  else ({ tx with firstAttachDone := true }, some tx.knownGood)

def noteFirstAttachNvs (tx : TxPower) (nvs : Nvs) : Nvs :=
  if !tx.firstAttachDone && tx.hasPending then nvs.set .txpPendFlag (.u8 0) else nvs

inductive CycleVerdict where
  | noTrial
  | confirmed
  | counted
  | reverting
  deriving DecidableEq, Repr

def cycleVerdict (tx : TxPower) (ok : Bool) : CycleVerdict :=
  if !tx.hasPending then .noTrial
  else if ok then .confirmed
  else if u32 (tx.unconfirmedCycles + 1) < txPowerRevertAfterCycles then .counted
  else .reverting

/-- `runtime_config_tx_power_note_cycle_result` up to the `setTxPowerDbm` call
that a revert makes. -/
def noteCycleResult (tx : TxPower) (ok : Bool) : TxPower :=
  match tx.cycleVerdict ok with
  | .noTrial => tx
  | .confirmed =>
    { tx with knownGood := tx.pending, hasPending := false, unconfirmedCycles := 0 }
  | .counted => { tx with unconfirmedCycles := u32 (tx.unconfirmedCycles + 1) }
  | .reverting =>
    { tx with rejected := tx.pending, hasRejected := true, hasPending := false,
              unconfirmedCycles := 0 }

def confirmNvs (tx : TxPower) (nvs : Nvs) : Nvs :=
  (nvs.set .txpKnownGood (.i8 tx.pending)).set .txpPendFlag (.u8 0)

def revertNvs (nvs : Nvs) : Nvs := nvs.set .txpPendFlag (.u8 0)

/-- What `runtime_config_apply_pending` does with a received `tx_power_dbm`:
whether it is a trial to start, whether to echo, and the value. -/
structure TxSettled where
  trial : Bool
  echo : Bool
  value : Int
  deriving DecidableEq, Repr

def settleReceived (tx : TxPower) (received : Int) : TxSettled :=
  if tx.hasRejected && received == tx.rejected then
    { trial := false, echo := tx.accepted != tx.rejected, value := tx.accepted }
  else
    let clamped := stdClamp received txPowerDbmMin txPowerDbmMax
    { trial := clamped != tx.accepted, echo := received != tx.accepted, value := clamped }

/-- The trial start of `runtime_config_apply_pending`, up to its `setTxPowerDbm`
call. -/
def startTrial (tx : TxPower) (dbm : Int) : TxPower :=
  { tx with pending := int8 dbm, hasPending := true, unconfirmedCycles := 0, hasRejected := false }

def trialNvs (dbm : Int) (nvs : Nvs) : Nvs :=
  (nvs.set .txpPending (.i8 (int8 dbm))).set .txpPendFlag (.u8 1)

theorem narrow_eq (dbm : Int) : narrow dbm = stdClamp dbm txPowerDbmMin txPowerDbmMax := by
  have range : txPowerDbmMin ≤ stdClamp dbm txPowerDbmMin txPowerDbmMax ∧
      stdClamp dbm txPowerDbmMin txPowerDbmMax ≤ txPowerDbmMax := stdClamp_int (by decide)
  simp only [txPowerDbmMin, txPowerDbmMax] at range
  exact int8_of_range (by simp only [txPowerDbmMin, txPowerDbmMax]; omega)
    (by simp only [txPowerDbmMin, txPowerDbmMax]; omega)

@[simp] theorem applied_knownGood (tx : TxPower) (dbm : Int) (accepted : Bool) :
    (tx.applied dbm accepted).knownGood = tx.knownGood := by cases accepted <;> rfl

@[simp] theorem applied_pending (tx : TxPower) (dbm : Int) (accepted : Bool) :
    (tx.applied dbm accepted).pending = tx.pending := by cases accepted <;> rfl

@[simp] theorem applied_hasPending (tx : TxPower) (dbm : Int) (accepted : Bool) :
    (tx.applied dbm accepted).hasPending = tx.hasPending := by cases accepted <;> rfl

@[simp] theorem applied_firstAttachDone (tx : TxPower) (dbm : Int) (accepted : Bool) :
    (tx.applied dbm accepted).firstAttachDone = tx.firstAttachDone := by cases accepted <;> rfl

@[simp] theorem applied_unconfirmedCycles (tx : TxPower) (dbm : Int) (accepted : Bool) :
    (tx.applied dbm accepted).unconfirmedCycles = tx.unconfirmedCycles := by cases accepted <;> rfl

@[simp] theorem applied_rejected (tx : TxPower) (dbm : Int) (accepted : Bool) :
    (tx.applied dbm accepted).rejected = tx.rejected := by cases accepted <;> rfl

@[simp] theorem applied_hasRejected (tx : TxPower) (dbm : Int) (accepted : Bool) :
    (tx.applied dbm accepted).hasRejected = tx.hasRejected := by cases accepted <;> rfl

theorem cycleVerdict_confirmed {tx : TxPower} {ok : Bool} :
    tx.cycleVerdict ok = .confirmed ↔ tx.hasPending = true ∧ ok = true := by
  unfold cycleVerdict
  cases tx.hasPending <;> cases ok <;> simp
  split <;> simp

theorem cycleVerdict_reverting {tx : TxPower} {ok : Bool}
    (reverts : tx.cycleVerdict ok = .reverting) : tx.hasPending = true ∧ ok = false := by
  unfold cycleVerdict at reverts
  cases pending : tx.hasPending with
  | false => simp [pending] at reverts
  | true =>
    cases ok with
    | true => simp [pending] at reverts
    | false => exact ⟨rfl, rfl⟩

theorem noteCycleResult_reverting {tx : TxPower} {ok : Bool}
    (reverts : tx.cycleVerdict ok = .reverting) :
    tx.noteCycleResult ok =
      { tx with rejected := tx.pending, hasRejected := true, hasPending := false,
                unconfirmedCycles := 0 } := by
  unfold noteCycleResult
  rw [reverts]

/-- A trial that is outstanding after a result was so before it. -/
theorem noteCycleResult_outstanding {tx : TxPower} {ok : Bool}
    (outstanding : (tx.noteCycleResult ok).hasPending = true) :
    tx.hasPending = true ∧ (tx.noteCycleResult ok).pending = tx.pending ∧
      tx.cycleVerdict ok = .counted := by
  unfold noteCycleResult at outstanding ⊢
  cases verdict : tx.cycleVerdict ok with
  | noTrial =>
    rw [verdict] at outstanding
    simp only at outstanding
    simp [cycleVerdict, outstanding] at verdict
    split at verdict
    · cases verdict
    · split at verdict <;> cases verdict
  | counted =>
    rw [verdict] at outstanding
    exact ⟨outstanding, rfl, rfl⟩
  | confirmed =>
    rw [verdict] at outstanding
    cases outstanding
  | reverting =>
    rw [verdict] at outstanding
    cases outstanding

@[simp] theorem noteCycleResult_firstAttachDone (tx : TxPower) (ok : Bool) :
    (tx.noteCycleResult ok).firstAttachDone = tx.firstAttachDone := by
  unfold noteCycleResult
  split <;> rfl

@[simp] theorem noteFirstAttach_done (tx : TxPower) :
    tx.noteFirstAttach.1.firstAttachDone = true := by
  unfold noteFirstAttach
  split
  · assumption
  · split <;> rfl

/-- The first attach ends the trial that a boot has found. -/
theorem noteFirstAttach_outstanding {tx : TxPower}
    (outstanding : tx.noteFirstAttach.1.hasPending = true) :
    tx.firstAttachDone = true ∧ tx.noteFirstAttach = (tx, none) := by
  unfold noteFirstAttach at outstanding ⊢
  cases done : tx.firstAttachDone with
  | true => exact ⟨rfl, rfl⟩
  | false =>
    cases pending : tx.hasPending <;> simp [done, pending] at outstanding

theorem noteFirstAttach_call {tx : TxPower} {dbm : Int}
    (call : tx.noteFirstAttach.2 = some dbm) : tx.firstAttachDone = false := by
  unfold noteFirstAttach at call
  cases done : tx.firstAttachDone with
  | true => simp [done] at call
  | false => rfl

@[simp] theorem init_firstAttachDone (knownGoodDbm : Int) (nvs : Nvs) :
    (init knownGoodDbm nvs).firstAttachDone = false := by
  unfold init
  split
  · split <;> rfl
  · rfl

@[simp] theorem init_unconfirmedCycles (knownGoodDbm : Int) (nvs : Nvs) :
    (init knownGoodDbm nvs).unconfirmedCycles = 0 := by
  unfold init
  split
  · split <;> rfl
  · rfl

@[simp] theorem init_knownGood (knownGoodDbm : Int) (nvs : Nvs) :
    (init knownGoodDbm nvs).knownGood = narrow knownGoodDbm := by
  unfold init
  split
  · split <;> rfl
  · rfl

end TxPower

end SleepySensor
