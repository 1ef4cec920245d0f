import Mathlib.Data.List.GetD
import SleepySensor.SkipBudget

/-!
# The baseline an ack delivers

`lp_sensor_core_ack_delivered` stores two values and bumps `hp_ack_seq`, word by
word; the block at the top of an LP cycle takes the values over when the counter
has moved, and loads the counter a second time to remember it.  The ledger
numbers the calls and keeps from which call every word is.
-/

set_option autoImplicit false

namespace SleepySensor.AckBaseline

open SleepySensor.LpCore SleepySensor.Snapshot

/-- Where a call of `lp_sensor_core_ack_delivered` is. -/
inductive AckCall where
  | idle
  | storeTemp (tempC humPct : Flt)
  | storeHum (humPct : Flt)
  | loadSeq
  | storeSeq (seq : Nat)
  deriving DecidableEq, Repr

structure AckSystem where
  core : HpLp
  call : AckCall := .idle

inductive Action where
  | lpTimer
  | lpStep (answer : LpAnswer)
  | configStore (field : Field) (value : field.Val)
  | ackDelivered (tempC humPct : Flt)
  /-- One step of the call. -/
  | hpStep

namespace AckSystem

def withCore (system : AckSystem) (core : HpLp) : AckSystem := { system with core := core }

def store (system : AckSystem) (field : Field) (value : field.Val) (call : AckCall) :
    AckSystem :=
  { core := { system.core with lock := layout.store system.core.lock field value }, call := call }

/-- A step of `lp_sensor_core_ack_delivered`. -/
def hpStep (system : AckSystem) : Option AckSystem :=
  match system.call with
  | .idle => none
  | .storeTemp tempC humPct => some (system.store (.f .hpAckedTempC) tempC (.storeHum humPct))
  | .storeHum humPct => some (system.store (.f .hpAckedHumPct) humPct .loadSeq)
  | .loadSeq =>
    some { system with call := .storeSeq (system.core.lock.memory (.u .hpAckSeq)) }
  | .storeSeq seq => some (system.store (.u .hpAckSeq) (u32 (seq + 1)) .idle)

def step [FloatOps] (system : AckSystem) : Action → Option AckSystem
  | .lpTimer => (Snapshot.step system.core .lpTimer).map system.withCore
  | .lpStep answer => (Snapshot.lpStep answer system.core).map system.withCore
  | .configStore field value =>
    if SkipBudget.configField field = true then some (system.store field value system.call)
    else none
  | .ackDelivered tempC humPct =>
    if system.call = .idle then some { system with call := .storeTemp tempC humPct } else none
  | .hpStep => system.hpStep

def start (config : Shared) : AckSystem := { core := SkipBudget.begun config }

end AckSystem

structure CycleRecord where
  /-- The calls that were complete as the cycle started. -/
  complete : Nat := 0
  /-- The calls begun when the ack block was over. -/
  begun : Nat := 0
  /-- The calls that the two words of the baseline are from after the cycle. -/
  tempFrom : Nat := 0
  humFrom : Nat := 0
  baseline : Flt × Flt := (.fin 0, .fin 0)
  deriving DecidableEq, Repr

/-- Calls are numbered from 1; 0 stands for the initial values. -/
structure Ledger where
  calls : List (Flt × Flt) := []
  completed : Nat := 0
  ackedTempFrom : Nat := 0
  ackedHumFrom : Nat := 0
  /-- The LP core has loaded the temperature, and not yet the counter again. -/
  taking : Bool := false
  loadedTempFrom : Nat := 0
  loadedHumFrom : Nat := 0
  baseTempFrom : Nat := 0
  baseHumFrom : Nat := 0
  current : CycleRecord := {}
  cycles : List CycleRecord := []
  deriving DecidableEq, Repr

abbrev Observed := AckSystem × Ledger

def passed (calls : List (Flt × Flt)) : Nat → Flt × Flt
  | 0 => (.fin 0, .fin 0)
  | number + 1 => calls.getD number (.fin 0, .fin 0)

namespace Ledger

def performed : LpOp → Ledger → Ledger
  | .load (.u .hpAckSeq), ledger => { ledger with taking := false }
  | .load (.f .hpAckedTempC), ledger =>
    { ledger with loadedTempFrom := ledger.ackedTempFrom, taking := true }
  | .store (.f .prevDeliveredTempC) _, ledger =>
    { ledger with baseTempFrom := ledger.loadedTempFrom }
  | .load (.f .hpAckedHumPct), ledger => { ledger with loadedHumFrom := ledger.ackedHumFrom }
  | .store (.f .prevDeliveredHumPct) _, ledger =>
    { ledger with baseHumFrom := ledger.loadedHumFrom }
  | .load (.u .sensorOk), ledger =>
    { ledger with current := { ledger.current with begun := ledger.calls.length } }
  | _, ledger => ledger

def ended (memory : Shared) (ledger : Ledger) : Ledger :=
  { ledger with
    cycles := ledger.cycles ++
      [{ ledger.current with
        tempFrom := ledger.baseTempFrom, humFrom := ledger.baseHumFrom
        baseline := (memory (.f .prevDeliveredTempC), memory (.f .prevDeliveredHumPct)) }] }

def called : AckCall → Ledger → Ledger
  | .storeTemp _ _, ledger => { ledger with ackedTempFrom := ledger.calls.length }
  | .storeHum _, ledger => { ledger with ackedHumFrom := ledger.calls.length }
  | .storeSeq _, ledger => { ledger with completed := ledger.completed + 1 }
  | _, ledger => ledger

end Ledger

def record (system : AckSystem) (action : Action) (ledger : Ledger) : Ledger :=
  match action, system.core.lp with
  | .lpTimer, _ => { ledger with current := { complete := ledger.completed } }
  | .lpStep _, some (.ret _) => ledger.ended system.core.lock.memory
  | .lpStep _, some (.call op _) => ledger.performed op
  | .ackDelivered tempC humPct, _ => { ledger with calls := ledger.calls ++ [(tempC, humPct)] }
  | .hpStep, _ => ledger.called system.call
  | _, _ => ledger

def step [FloatOps] : Observed → Action → Option Observed := Runs.observe AckSystem.step record

/-! ## The claim and its condition -/

/-- The baselines of the cycles are each of one call, in call order, and of the
last complete call where no newer one was begun before the ack block was over. -/
structure Consistent (ledger : Ledger) : Prop where
  single : ∀ cycle ∈ ledger.cycles, cycle.humFrom = cycle.tempFrom ∧
    cycle.tempFrom ≤ ledger.calls.length ∧ cycle.baseline = passed ledger.calls cycle.tempFrom
  ordered : ledger.cycles.Pairwise fun earlier later => earlier.tempFrom ≤ later.tempFrom
  delivered : ∀ cycle ∈ ledger.cycles, cycle.begun = cycle.complete →
    cycle.tempFrom = cycle.complete

/-- A call stores no value between the load of the temperature and the second load
of the counter, and that first load does not come between its two values. -/
def Apart (state : Observed) : Action → Prop
  | .hpStep =>
    match state.1.call with
    | .storeTemp _ _ | .storeHum _ => state.2.taking = false
    | _ => True
  | .lpStep _ =>
    match state.1.core.coming, state.1.call with
    | some (.load (.f .hpAckedTempC)), .storeHum _ => False
    | _, _ => True
  | _ => True

instance (state : Observed) (action : Action) : Decidable (Apart state action) := by
  unfold Apart
  split
  · split <;> infer_instance
  · split <;> infer_instance
  · infer_instance

/-! ## The LP program -/

/-- Where the LP program is in its ack block. -/
inductive Stage where
  | start
  | compared (seq : Nat)
  | found
  | tempLoaded (tempC : Flt)
  | tempTaken
  | humLoaded (humPct : Flt)
  | taken
  | reloaded (seq : Nat)
  | settled
  | cycling
  deriving DecidableEq, Repr

abbrev RestOp : LpOp → Prop := AccessOp (.u .shouldWakeHp :: cycleLoads) cycleStores

def ackContract : Prog.Contract LpOp LpOp.Res Stage where
  may stage op := match stage, op with
    | .start, .load (.u .hpAckSeq) => True
    | .compared _, .loadLastConsumedAckSeq => True
    | .found, .load (.f .hpAckedTempC) => True
    | .tempLoaded tempC, .store (.f .prevDeliveredTempC) value => value = tempC
    | .tempTaken, .load (.f .hpAckedHumPct) => True
    | .humLoaded humPct, .store (.f .prevDeliveredHumPct) value => value = humPct
    | .taken, .store (.u .skippedCycles) _ => True
    | .taken, .load (.u .hpAckSeq) => True
    | .reloaded seq, .storeLastConsumedAckSeq value => value = seq
    | .settled, .load (.u .sensorOk) => True
    | .cycling, op => RestOp op
    | _, _ => False
  effect stage op answer after := match stage, op, answer with
    | .start, .load (.u .hpAckSeq), seq => after = .compared seq
    | .compared seq, .loadLastConsumedAckSeq, lastConsumed =>
      after = if seq ≠ (lastConsumed : Nat) then .found else .settled
    | .found, .load (.f .hpAckedTempC), tempC => after = .tempLoaded tempC
    | .tempLoaded _, _, _ => after = .tempTaken
    | .tempTaken, .load (.f .hpAckedHumPct), humPct => after = .humLoaded humPct
    | .humLoaded _, _, _ => after = .taken
    | .taken, .load (.u .hpAckSeq), seq => after = .reloaded seq
    | .reloaded _, _, _ => after = .settled
    | .settled, _, _ => after = .cycling
    | stage, _, _ => after = stage

theorem wp_consumeAck :
    consumeAck.wp ackContract .start fun after _ => after = .settled := by
  apply Prog.wp_seq (Prog.wp_perform trivial fun _ _ changed => changed)
  rintro _ seq rfl
  apply Prog.wp_seq (Prog.wp_perform trivial fun _ _ changed => changed)
  rintro _ lastConsumed rfl
  by_cases new : seq ≠ lastConsumed
  · simp only [if_pos new]
    apply Prog.wp_seq (Prog.wp_perform trivial fun _ _ changed => changed)
    rintro _ tempC rfl
    apply Prog.wp_seq (Prog.wp_perform rfl fun _ _ changed => changed)
    rintro _ _ rfl
    apply Prog.wp_seq (Prog.wp_perform trivial fun _ _ changed => changed)
    rintro _ humPct rfl
    apply Prog.wp_seq (Prog.wp_perform rfl fun _ _ changed => changed)
    rintro _ _ rfl
    apply Prog.wp_seq (Prog.wp_perform trivial fun _ _ changed => changed)
    rintro _ _ rfl
    apply Prog.wp_seq (Prog.wp_perform trivial fun _ _ changed => changed)
    rintro _ again rfl
    exact Prog.wp_perform rfl fun _ _ changed => changed
  · simp only [if_neg new]
    rfl

theorem wp_rest {α : Type} {program : LpProg α} (only : program.Only RestOp) :
    program.wp ackContract .cycling fun after _ => after = .cycling :=
  Prog.wp_of_only only (fun _ rest => rest) fun _ _ _ _ changed => changed

theorem cycle_rest (op : LpOp) (cycle : CycleOp op) : RestOp op := by
  cases op with
  | load field => exact List.mem_cons_of_mem _ cycle
  | _ => exact cycle

section Program

variable [FloatOps]

theorem wp_main : main.wp ackContract .start fun after _ => after = .cycling := by
  apply Prog.wp_seq wp_consumeAck
  rintro _ _ rfl
  apply Prog.wp_seq (Prog.wp_perform trivial fun _ _ changed => changed)
  rintro _ wasOk rfl
  have bump : (increment .resultSeq).Only RestOp :=
    Prog.only_mono cycle_rest (increment_cycle (by decide) (by decide))
  refine wp_rest (Prog.only_bind bump fun _ => ?_)
  refine Prog.only_bind (Prog.only_mono cycle_rest (cycleBody_cycle wasOk)) fun _ => ?_
  refine Prog.only_bind bump fun _ => ?_
  refine Prog.only_bind (Prog.only_perform List.mem_cons_self) fun flag => ?_
  split
  · exact Prog.only_perform trivial
  · trivial

end Program

/-! ## The HP core -/

/-- From which calls the words are at each place of the coming call. -/
def Placed (call : AckCall) (ledger : Ledger) : Prop :=
  match call with
  | .idle =>
    ledger.calls.length = ledger.completed ∧ ledger.ackedTempFrom = ledger.completed ∧
      ledger.ackedHumFrom = ledger.completed
  | .storeTemp tempC humPct =>
    ledger.calls.length = ledger.completed + 1 ∧ ledger.ackedTempFrom = ledger.completed ∧
      ledger.ackedHumFrom = ledger.completed ∧
        passed ledger.calls ledger.calls.length = (tempC, humPct)
  | .storeHum humPct =>
    ledger.calls.length = ledger.completed + 1 ∧ ledger.ackedTempFrom = ledger.completed + 1 ∧
      ledger.ackedHumFrom = ledger.completed ∧
        (passed ledger.calls ledger.calls.length).2 = humPct
  | .loadSeq =>
    ledger.calls.length = ledger.completed + 1 ∧ ledger.ackedTempFrom = ledger.completed + 1 ∧
      ledger.ackedHumFrom = ledger.completed + 1
  | .storeSeq seq =>
    ledger.calls.length = ledger.completed + 1 ∧ ledger.ackedTempFrom = ledger.completed + 1 ∧
      ledger.ackedHumFrom = ledger.completed + 1 ∧ seq = u32 ledger.completed

/-- The words of the ack are those of the calls they are said to be from. -/
structure Acked (system : AckSystem) (ledger : Ledger) : Prop where
  seq : (system.core.lock.memory (.u .hpAckSeq) : Nat) = u32 ledger.completed
  tempC : system.core.lock.memory (.f .hpAckedTempC) =
    (passed ledger.calls ledger.ackedTempFrom).1
  humPct : system.core.lock.memory (.f .hpAckedHumPct) =
    (passed ledger.calls ledger.ackedHumFrom).2
  placed : Placed system.call ledger

theorem passed_append {calls : List (Flt × Flt)} {number : Nat} (within : number ≤ calls.length)
    (more : List (Flt × Flt)) : passed (calls ++ more) number = passed calls number := by
  cases number with
  | zero => rfl
  | succ number => exact List.getD_append _ _ _ _ within

theorem passed_last (calls : List (Flt × Flt)) (pair : Flt × Flt) :
    passed (calls ++ [pair]) (calls ++ [pair]).length = pair := by
  rw [List.length_append, List.length_singleton]
  show (calls ++ [pair]).getD calls.length _ = pair
  simp

theorem Placed.bounds {call : AckCall} {ledger : Ledger} (placed : Placed call ledger) :
    ledger.completed ≤ ledger.ackedHumFrom ∧ ledger.ackedHumFrom ≤ ledger.ackedTempFrom ∧
      ledger.ackedTempFrom ≤ ledger.calls.length := by
  cases call <;> simp only [Placed] at placed <;> omega

/-! ## The baseline -/

/-- The words of the baseline are those of the calls `temp` and `hum`. -/
structure Base (core : HpLp) (ledger : Ledger) (temp hum : Nat) : Prop where
  tempFrom : ledger.baseTempFrom = temp
  humFrom : ledger.baseHumFrom = hum
  tempC : core.lock.memory (.f .prevDeliveredTempC) = (passed ledger.calls temp).1
  humPct : core.lock.memory (.f .prevDeliveredHumPct) = (passed ledger.calls hum).2
  tempLe : temp ≤ ledger.ackedHumFrom
  humLe : hum ≤ temp
  consumed : core.lastConsumedAckSeq ≤ hum
  earlier : ∀ cycle ∈ ledger.cycles, cycle.tempFrom ≤ hum
  started : ledger.current.complete ≤ ledger.completed

/-- Both values of the ack are of one call, which no value of another one follows. -/
structure Taking (ledger : Ledger) : Prop where
  taking : ledger.taking = true
  whole : ledger.ackedHumFrom = ledger.ackedTempFrom

def Reached (core : HpLp) (ledger : Ledger) : Stage → Prop
  | .start | .found => ledger.taking = false ∧ ∃ number, Base core ledger number number
  | .compared seq => ledger.taking = false ∧ (∃ number, Base core ledger number number) ∧
      ledger.current.complete ≤ seq ∧ seq ≤ ledger.completed
  | .tempLoaded tempC => Taking ledger ∧ (∃ number, Base core ledger number number) ∧
      ledger.loadedTempFrom = ledger.ackedTempFrom ∧
        tempC = (passed ledger.calls ledger.ackedTempFrom).1
  | .tempTaken => Taking ledger ∧ ∃ number, Base core ledger ledger.ackedTempFrom number
  | .humLoaded humPct => Taking ledger ∧ (∃ number, Base core ledger ledger.ackedTempFrom number) ∧
      ledger.loadedHumFrom = ledger.ackedTempFrom ∧
        humPct = (passed ledger.calls ledger.ackedTempFrom).2
  | .taken => Taking ledger ∧ Base core ledger ledger.ackedTempFrom ledger.ackedTempFrom
  | .reloaded seq => ledger.taking = false ∧ ∃ number, Base core ledger number number ∧
      ledger.current.complete ≤ number ∧ seq ≤ number
  | .settled => ledger.taking = false ∧ ∃ number, Base core ledger number number ∧
      ledger.current.complete ≤ number
  | .cycling => ledger.taking = false ∧ ∃ number, Base core ledger number number ∧
      ledger.current.complete ≤ number ∧ number ≤ ledger.current.begun

/-! ## Steps of the LP program -/

variable {core : HpLp} {ledger later : Ledger} {temp hum : Nat}

theorem performed_rest {op : LpOp} (rest : RestOp op) : ledger.performed op = ledger := by
  cases op with
  | load field =>
    have listed : field ∈ Field.u .shouldWakeHp :: cycleLoads := rest
    rcases field with field | field <;> cases field <;>
      first | rfl | exact absurd listed (by decide)
  | store field value =>
    have listed : field ∈ cycleStores := rest
    rcases field with field | field <;> cases field <;>
      first | rfl | exact absurd listed (by decide)
  | _ => rfl

theorem Base.update (base : Base core ledger temp hum) {field : Field} (value : field.Val)
    (notTemp : field ≠ .f .prevDeliveredTempC) (notHum : field ≠ .f .prevDeliveredHumPct) :
    Base { core with lock := layout.store core.lock field value } ledger temp hum :=
  { base with
    tempC := (Function.update_of_ne notTemp.symm _ _).trans base.tempC
    humPct := (Function.update_of_ne notHum.symm _ _).trans base.humPct }

theorem reached_rest {op : LpOp} (rest : RestOp op) (reached : Reached core ledger .cycling) :
    Reached (core.after op) (ledger.performed op) .cycling := by
  rw [performed_rest rest]
  cases op with
  | store field value =>
    have listed : field ∈ cycleStores := rest
    obtain ⟨free, number, base, complete, begun⟩ := reached
    refine ⟨free, number, base.update value ?_ ?_, complete, begun⟩
    · rintro rfl
      exact absurd listed (by decide)
    · rintro rfl
      exact absurd listed (by decide)
  | storeLastConsumedAckSeq value => exact rest.elim
  | _ => exact reached

/-- The operation takes the program to its next place. -/
def Advances (system : AckSystem) (ledger : Ledger) (stage : Stage) (op : LpOp)
    (answer : op.Res) : Prop :=
  ∃ after, ackContract.effect stage op answer after ∧
    Reached (system.core.after op) (ledger.performed op) after

section Block

variable {system : AckSystem} {op : LpOp} {answer : op.Res}

theorem completed_of_load (few : ledger.calls.length < u32Mod) (acked : Acked system ledger)
    {value : Nat} (loaded : value = system.core.lock.memory (.u .hpAckSeq)) :
    value = ledger.completed := by
  obtain ⟨humBound, tempBound, length⟩ := acked.placed.bounds
  exact loaded.trans (acked.seq.trans (u32_of_lt (by omega)))

/-- Where no call is between its two values, these are of one call. -/
theorem whole_of_apart (acked : Acked system ledger)
    (calm : ∀ humPct, system.call ≠ .storeHum humPct) :
    ledger.ackedHumFrom = ledger.ackedTempFrom := by
  have placed := acked.placed
  cases call : system.call <;> simp only [call, Placed] at placed calm <;> first
    | omega
    | exact absurd rfl (calm _)

theorem advances_start (few : ledger.calls.length < u32Mod) (acked : Acked system ledger)
    (reached : Reached system.core ledger .start) (allowed : ackContract.may .start op)
    (answers : system.core.Answers op answer) : Advances system ledger .start op answer := by
  obtain ⟨free, number, base⟩ := reached
  cases op with
  | load field =>
    rcases field with field | field <;> cases field <;> try exact allowed.elim
    have loaded := completed_of_load few acked answers
    exact ⟨_, rfl, rfl, ⟨number, { base with }⟩, base.started.trans_eq loaded.symm, loaded.le⟩
  | _ => exact allowed.elim

theorem advances_compared {seen : Nat} (reached : Reached system.core ledger (.compared seen))
    (allowed : ackContract.may (.compared seen) op) (answers : system.core.Answers op answer) :
    Advances system ledger (.compared seen) op answer := by
  obtain ⟨free, ⟨number, base⟩, complete, seenBound⟩ := reached
  cases op with
  | loadLastConsumedAckSeq =>
    have last : answer = system.core.lastConsumedAckSeq := answers
    refine ⟨_, rfl, ?_⟩
    by_cases new : seen ≠ answer
    · rw [if_pos new]
      exact ⟨free, number, base⟩
    · rw [if_neg new]
      have known : seen ≤ number := ((not_not.mp new).trans last).le.trans base.consumed
      exact ⟨free, number, base, complete.trans known⟩
  | _ => exact allowed.elim

theorem advances_found (acked : Acked system ledger) (reached : Reached system.core ledger .found)
    (allowed : ackContract.may .found op) (answers : system.core.Answers op answer)
    (apart : op = .load (.f .hpAckedTempC) → ∀ humPct, system.call ≠ .storeHum humPct) :
    Advances system ledger .found op answer := by
  obtain ⟨free, number, base⟩ := reached
  cases op with
  | load field =>
    rcases field with field | field <;> cases field <;> try exact allowed.elim
    have whole := whole_of_apart acked (apart rfl)
    exact ⟨_, rfl, ⟨rfl, whole⟩, ⟨number, { base with }⟩, rfl, answers.trans acked.tempC⟩
  | _ => exact allowed.elim

theorem advances_tempLoaded {tempC : Flt}
    (reached : Reached system.core ledger (.tempLoaded tempC))
    (allowed : ackContract.may (.tempLoaded tempC) op) :
    Advances system ledger (.tempLoaded tempC) op answer := by
  obtain ⟨⟨taking, whole⟩, ⟨number, base⟩, from_, isTemp⟩ := reached
  cases op with
  | store field value =>
    rcases field with field | field <;> cases field <;> try exact allowed.elim
    have stored : value = tempC := allowed
    refine ⟨_, rfl, ⟨taking, whole⟩, number, ?_⟩
    exact
      { tempFrom := from_
        humFrom := base.humFrom
        tempC := (layout.store_same system.core.lock _ value).trans (stored.trans isTemp)
        humPct := base.humPct
        tempLe := whole.ge
        humLe := base.tempLe.trans_eq whole
        consumed := base.consumed, earlier := base.earlier, started := base.started }
  | _ => exact allowed.elim

theorem advances_tempTaken (acked : Acked system ledger)
    (reached : Reached system.core ledger .tempTaken) (allowed : ackContract.may .tempTaken op)
    (answers : system.core.Answers op answer) : Advances system ledger .tempTaken op answer := by
  obtain ⟨⟨taking, whole⟩, number, base⟩ := reached
  cases op with
  | load field =>
    rcases field with field | field <;> cases field <;> try exact allowed.elim
    have loaded := answers.trans acked.humPct
    rw [whole] at loaded
    exact ⟨_, rfl, ⟨taking, whole⟩, ⟨number, { base with }⟩, whole, loaded⟩
  | _ => exact allowed.elim

theorem advances_humLoaded {humPct : Flt}
    (reached : Reached system.core ledger (.humLoaded humPct))
    (allowed : ackContract.may (.humLoaded humPct) op) :
    Advances system ledger (.humLoaded humPct) op answer := by
  obtain ⟨⟨taking, whole⟩, ⟨number, base⟩, from_, isHum⟩ := reached
  cases op with
  | store field value =>
    rcases field with field | field <;> cases field <;> try exact allowed.elim
    have stored : value = humPct := allowed
    refine ⟨_, rfl, ⟨taking, whole⟩, ?_⟩
    exact
      { tempFrom := base.tempFrom
        humFrom := from_
        tempC := base.tempC
        humPct := (layout.store_same system.core.lock _ value).trans (stored.trans isHum)
        tempLe := base.tempLe
        humLe := le_rfl
        consumed := base.consumed.trans base.humLe
        earlier := fun cycle member => (base.earlier cycle member).trans base.humLe
        started := base.started }
  | _ => exact allowed.elim

theorem advances_taken (few : ledger.calls.length < u32Mod) (acked : Acked system ledger)
    (reached : Reached system.core ledger .taken) (allowed : ackContract.may .taken op)
    (answers : system.core.Answers op answer) : Advances system ledger .taken op answer := by
  obtain ⟨humBound, -, -⟩ := acked.placed.bounds
  obtain ⟨⟨taking, whole⟩, base⟩ := reached
  cases op with
  | load field =>
    rcases field with field | field <;> cases field <;> try exact allowed.elim
    have loaded := completed_of_load few acked answers
    refine ⟨_, rfl, rfl, ledger.ackedTempFrom, { base with }, ?_, ?_⟩
    · exact (base.started.trans humBound).trans_eq whole
    · exact (loaded.le.trans humBound).trans_eq whole
  | store field value =>
    rcases field with field | field <;> cases field <;> try exact allowed.elim
    exact ⟨_, rfl, ⟨taking, whole⟩, base.update value (by decide) (by decide)⟩
  | _ => exact allowed.elim

theorem advances_reloaded {again : Nat} (reached : Reached system.core ledger (.reloaded again))
    (allowed : ackContract.may (.reloaded again) op) :
    Advances system ledger (.reloaded again) op answer := by
  obtain ⟨free, number, base, complete, within⟩ := reached
  cases op with
  | storeLastConsumedAckSeq value =>
    have stored : value = again := allowed
    exact ⟨_, rfl, free, number, { base with consumed := stored.le.trans within }, complete⟩
  | _ => exact allowed.elim

theorem advances_settled (acked : Acked system ledger)
    (reached : Reached system.core ledger .settled) (allowed : ackContract.may .settled op) :
    Advances system ledger .settled op answer := by
  obtain ⟨humBound, tempBound, length⟩ := acked.placed.bounds
  obtain ⟨free, number, base, complete⟩ := reached
  cases op with
  | load field =>
    rcases field with field | field <;> cases field <;> try exact allowed.elim
    refine ⟨_, rfl, free, number, { base with }, complete, ?_⟩
    exact base.tempLe.trans (tempBound.trans length)
  | _ => exact allowed.elim

theorem reached_perform {stage : Stage}
    (few : ledger.calls.length < u32Mod) (acked : Acked system ledger)
    (reached : Reached system.core ledger stage) (allowed : ackContract.may stage op)
    (answers : system.core.Answers op answer)
    (apart : op = .load (.f .hpAckedTempC) → ∀ humPct, system.call ≠ .storeHum humPct) :
    Advances system ledger stage op answer := by
  cases stage with
  | cycling => exact ⟨_, rfl, reached_rest allowed reached⟩
  | start => exact advances_start few acked reached allowed answers
  | compared seen => exact advances_compared reached allowed answers
  | found => exact advances_found acked reached allowed answers apart
  | tempLoaded tempC => exact advances_tempLoaded reached allowed
  | tempTaken => exact advances_tempTaken acked reached allowed answers
  | humLoaded humPct => exact advances_humLoaded reached allowed
  | taken => exact advances_taken few acked reached allowed answers
  | reloaded again => exact advances_reloaded reached allowed
  | settled => exact advances_settled acked reached allowed

end Block

/-! ## Steps of the HP core -/

/-- What a step of the HP core may change of the ledger. -/
structure Grows (ledger later : Ledger) : Prop where
  own : later =
    { ledger with
      calls := later.calls, completed := later.completed
      ackedTempFrom := later.ackedTempFrom, ackedHumFrom := later.ackedHumFrom }
  calls : ∃ more, later.calls = ledger.calls ++ more
  completed : ledger.completed ≤ later.completed
  hum : ledger.ackedHumFrom ≤ later.ackedHumFrom
  apart : ledger.taking = true →
    later.ackedTempFrom = ledger.ackedTempFrom ∧ later.ackedHumFrom = ledger.ackedHumFrom

theorem Grows.refl (ledger : Ledger) : Grows ledger ledger :=
  ⟨rfl, ⟨[], (List.append_nil _).symm⟩, le_rfl, le_rfl, fun _ => ⟨rfl, rfl⟩⟩

structure SameBase (core next : HpLp) : Prop where
  tempC : next.lock.memory (.f .prevDeliveredTempC) = core.lock.memory (.f .prevDeliveredTempC)
  humPct : next.lock.memory (.f .prevDeliveredHumPct) = core.lock.memory (.f .prevDeliveredHumPct)
  consumed : next.lastConsumedAckSeq = core.lastConsumedAckSeq

theorem Grows.passed (grows : Grows ledger later) {number : Nat}
    (within : number ≤ ledger.calls.length) :
    passed later.calls number = passed ledger.calls number := by
  obtain ⟨more, calls⟩ := grows.calls
  rw [calls]
  exact passed_append within more

variable {next : HpLp}

theorem Base.grows (base : Base core ledger temp hum) (same : SameBase core next)
    (grows : Grows ledger later) (within : ledger.ackedHumFrom ≤ ledger.calls.length) :
    Base next later temp hum := by
  have tempPassed := grows.passed (base.tempLe.trans within)
  have humPassed := grows.passed ((base.humLe.trans base.tempLe).trans within)
  have own := grows.own
  refine
    { tempFrom := ?_, humFrom := ?_, tempC := ?_, humPct := ?_
      tempLe := base.tempLe.trans grows.hum, humLe := base.humLe, consumed := ?_, earlier := ?_
      started := ?_ }
  · rw [own]
    exact base.tempFrom
  · rw [own]
    exact base.humFrom
  · rw [same.tempC, tempPassed]
    exact base.tempC
  · rw [same.humPct, humPassed]
    exact base.humPct
  · rw [same.consumed]
    exact base.consumed
  · rw [own]
    exact base.earlier
  · rw [own]
    exact base.started.trans grows.completed

theorem Taking.grows (taking : Taking ledger) (grows : Grows ledger later) :
    Taking later ∧ later.ackedTempFrom = ledger.ackedTempFrom := by
  obtain ⟨sameTemp, sameHum⟩ := grows.apart taking.taking
  refine ⟨⟨?_, sameHum.trans (taking.whole.trans sameTemp.symm)⟩, sameTemp⟩
  rw [grows.own]
  exact taking.taking

theorem reached_grows {stage : Stage} (reached : Reached core ledger stage)
    (same : SameBase core next) (grows : Grows ledger later)
    (withinHum : ledger.ackedHumFrom ≤ ledger.calls.length)
    (withinTemp : ledger.ackedTempFrom ≤ ledger.calls.length) : Reached next later stage := by
  have free : ledger.taking = false → later.taking = false := by
    intro free
    rw [grows.own]
    exact free
  have current : later.current = ledger.current := by rw [grows.own]
  have passedTemp := grows.passed withinTemp
  cases stage with
  | start => exact ⟨free reached.1, reached.2.imp fun _ base => base.grows same grows withinHum⟩
  | found => exact ⟨free reached.1, reached.2.imp fun _ base => base.grows same grows withinHum⟩
  | compared seq =>
    obtain ⟨isFree, held, complete, seen⟩ := reached
    refine ⟨free isFree, held.imp fun _ base => base.grows same grows withinHum, ?_,
      seen.trans grows.completed⟩
    rw [current]
    exact complete
  | tempLoaded tempC =>
    obtain ⟨taking, held, from_, isTemp⟩ := reached
    obtain ⟨still, sameTemp⟩ := taking.grows grows
    refine ⟨still, held.imp fun _ base => base.grows same grows withinHum, ?_, ?_⟩
    · rw [sameTemp, grows.own]
      exact from_
    · rw [sameTemp, passedTemp]
      exact isTemp
  | tempTaken =>
    obtain ⟨taking, held⟩ := reached
    obtain ⟨still, sameTemp⟩ := taking.grows grows
    rw [← sameTemp] at held
    exact ⟨still, held.imp fun _ base => base.grows same grows withinHum⟩
  | humLoaded humPct =>
    obtain ⟨taking, held, from_, isHum⟩ := reached
    obtain ⟨still, sameTemp⟩ := taking.grows grows
    refine ⟨still, ?_, ?_, ?_⟩
    · rw [sameTemp]
      exact held.imp fun _ base => base.grows same grows withinHum
    · rw [sameTemp, grows.own]
      exact from_
    · rw [sameTemp, passedTemp]
      exact isHum
  | taken =>
    obtain ⟨taking, base⟩ := reached
    obtain ⟨still, sameTemp⟩ := taking.grows grows
    refine ⟨still, ?_⟩
    rw [sameTemp]
    exact base.grows same grows withinHum
  | reloaded seq =>
    obtain ⟨isFree, number, base, complete, within⟩ := reached
    exact ⟨free isFree, number, base.grows same grows withinHum, current ▸ complete, within⟩
  | settled =>
    obtain ⟨isFree, number, base, complete⟩ := reached
    exact ⟨free isFree, number, base.grows same grows withinHum, current ▸ complete⟩
  | cycling =>
    obtain ⟨isFree, number, base, complete, begun⟩ := reached
    exact ⟨free isFree, number, base.grows same grows withinHum, current ▸ complete,
      current ▸ begun⟩

theorem Consistent.grows (consistent : Consistent ledger) (grows : Grows ledger later) :
    Consistent later := by
  obtain ⟨more, calls⟩ := grows.calls
  have cycles : later.cycles = ledger.cycles := by rw [grows.own]
  refine ⟨?_, ?_, ?_⟩
  · rw [cycles]
    intro cycle member
    obtain ⟨whole, within, baseline⟩ := consistent.single cycle member
    refine ⟨whole, ?_, baseline.trans (grows.passed within).symm⟩
    rw [calls, List.length_append]
    exact within.trans (Nat.le_add_right _ _)
  · rw [cycles]
    exact consistent.ordered
  · rw [cycles]
    exact consistent.delivered

variable {system after : AckSystem}

theorem acked_hpStep (acked : Acked system ledger) (stepped : system.hpStep = some after) :
    Acked after (ledger.called system.call) := by
  obtain ⟨seq, tempC, humPct, placed⟩ := acked
  unfold AckSystem.hpStep at stepped
  cases call : system.call <;> simp only [call, Option.some.injEq] at stepped placed <;> try
    cases stepped
  case storeTemp newTemp newHum =>
    obtain ⟨length, sameTemp, sameHum, last⟩ := placed
    have stored := layout.store_same system.core.lock (.f .hpAckedTempC) newTemp
    exact ⟨seq, stored.trans (congrArg Prod.fst last).symm, humPct, length, length, sameHum,
      congrArg Prod.snd last⟩
  case storeHum newHum =>
    obtain ⟨length, sameTemp, sameHum, last⟩ := placed
    have stored := layout.store_same system.core.lock (.f .hpAckedHumPct) newHum
    exact ⟨seq, tempC, stored.trans last.symm, length, sameTemp, length⟩
  case loadSeq =>
    obtain ⟨length, sameTemp, sameHum⟩ := placed
    exact ⟨seq, tempC, humPct, length, sameTemp, sameHum, seq⟩
  case storeSeq old =>
    obtain ⟨length, sameTemp, sameHum, isSeq⟩ := placed
    refine ⟨?_, tempC, humPct, length, sameTemp, sameHum⟩
    apply (layout.store_same system.core.lock (.u .hpAckSeq) _).trans
    rw [isSeq]
    exact Nat.mod_add_mod _ _ _

theorem grows_hpStep (acked : Acked system ledger) (stepped : system.hpStep = some after)
    (apart : ∀ tempC humPct, system.call = .storeTemp tempC humPct ∨
      system.call = .storeHum humPct → ledger.taking = false) :
    Grows ledger (ledger.called system.call) ∧ SameBase system.core after.core := by
  have placed := acked.placed
  have free : ∀ {tempC humPct}, system.call = .storeTemp tempC humPct ∨
      system.call = .storeHum humPct → ledger.taking = true → False := by
    intro tempC humPct storing taking
    rw [apart tempC humPct storing] at taking
    cases taking
  unfold AckSystem.hpStep at stepped
  cases call : system.call <;> simp only [call, Option.some.injEq, Placed] at stepped placed <;>
    try cases stepped
  case storeTemp newTemp newHum =>
    refine ⟨⟨rfl, ⟨[], (List.append_nil _).symm⟩, le_rfl, le_rfl, ?_⟩, rfl, rfl, rfl⟩
    exact fun taking => (free (.inl call) taking).elim
  case storeHum newHum =>
    refine ⟨⟨rfl, ⟨[], (List.append_nil _).symm⟩, le_rfl, ?_, ?_⟩, rfl, rfl, rfl⟩
    · simp only [Ledger.called]
      omega
    · exact fun taking => (@free newHum newHum (.inr call) taking).elim
  case loadSeq =>
    exact ⟨⟨rfl, ⟨[], (List.append_nil _).symm⟩, le_rfl, le_rfl, fun _ => ⟨rfl, rfl⟩⟩,
      rfl, rfl, rfl⟩
  case storeSeq old =>
    exact ⟨⟨rfl, ⟨[], (List.append_nil _).symm⟩, Nat.le_succ _, le_rfl, fun _ => ⟨rfl, rfl⟩⟩,
      rfl, rfl, rfl⟩

/-! ## Runs -/

structure Good (system : AckSystem) (ledger : Ledger) : Prop where
  acked : Acked system ledger
  consistent : Consistent ledger
  resting : system.core.lp = none → Reached system.core ledger .start
  running : ∀ program, system.core.lp = some program → ∃ stage,
    program.wp ackContract stage (fun after _ => after = .cycling) ∧
      Reached system.core ledger stage

theorem Good.grows (good : Good system ledger) (acked : Acked after later)
    (lp : after.core.lp = system.core.lp) (same : SameBase system.core after.core)
    (grows : Grows ledger later) : Good after later := by
  obtain ⟨-, humBound, tempBound⟩ := good.acked.placed.bounds
  refine ⟨acked, good.consistent.grows grows, fun none => ?_, fun program running => ?_⟩
  · rw [lp] at none
    exact reached_grows (good.resting none) same grows (humBound.trans tempBound) tempBound
  · rw [lp] at running
    obtain ⟨stage, follows, reached⟩ := good.running program running
    exact ⟨stage, follows,
      reached_grows reached same grows (humBound.trans tempBound) tempBound⟩

theorem consistent_ended (acked : Acked system ledger) (consistent : Consistent ledger)
    (reached : Reached system.core ledger .cycling) :
    Consistent (ledger.ended system.core.lock.memory) := by
  obtain ⟨-, number, base, complete, begun⟩ := reached
  obtain ⟨-, humBound, tempBound⟩ := acked.placed.bounds
  refine ⟨?_, ?_, ?_⟩
  · intro cycle member
    rcases List.mem_append.mp member with earlier | last
    · exact consistent.single cycle earlier
    · rw [List.mem_singleton.mp last]
      refine ⟨base.humFrom.trans base.tempFrom.symm, ?_, ?_⟩
      · show ledger.baseTempFrom ≤ ledger.calls.length
        rw [base.tempFrom]
        exact base.tempLe.trans (humBound.trans tempBound)
      · show (_, _) = passed ledger.calls ledger.baseTempFrom
        rw [base.tempFrom, base.tempC, base.humPct]
  · show (ledger.cycles ++ [_]).Pairwise _
    refine List.pairwise_append.mpr ⟨consistent.ordered, List.pairwise_singleton _ _, ?_⟩
    intro earlier member last isLast
    rw [List.mem_singleton.mp isLast]
    show earlier.tempFrom ≤ ledger.baseTempFrom
    rw [base.tempFrom]
    exact base.earlier earlier member
  · intro cycle member
    rcases List.mem_append.mp member with earlier | last
    · exact consistent.delivered cycle earlier
    · rw [List.mem_singleton.mp last]
      intro same
      show ledger.baseTempFrom = ledger.current.complete
      rw [base.tempFrom]
      exact le_antisymm (begun.trans_eq same) complete

theorem reached_ended (reached : Reached core ledger .cycling) :
    Reached core (ledger.ended core.lock.memory) .start := by
  obtain ⟨free, number, base, -, -⟩ := reached
  refine ⟨free, number, { base with earlier := ?_ }⟩
  intro cycle member
  rcases List.mem_append.mp member with earlier | last
  · exact base.earlier cycle earlier
  · rw [List.mem_singleton.mp last]
    exact base.tempFrom.le

theorem acked_core (acked : Acked system ledger) {core : HpLp}
    (same : ∀ field, SkipBudget.ackField field = true →
      core.lock.memory field = system.core.lock.memory field) :
    Acked (system.withCore core) ledger :=
  ⟨(same _ rfl).trans acked.seq, (same _ rfl).trans acked.tempC,
    (same _ rfl).trans acked.humPct, acked.placed⟩

theorem performed_calls (op : LpOp) (ledger : Ledger) :
    (ledger.performed op).calls = ledger.calls ∧ (ledger.performed op).cycles = ledger.cycles ∧
      (ledger.performed op).completed = ledger.completed ∧
        (ledger.performed op).ackedTempFrom = ledger.ackedTempFrom ∧
          (ledger.performed op).ackedHumFrom = ledger.ackedHumFrom := by
  unfold Ledger.performed
  split <;> exact ⟨rfl, rfl, rfl, rfl, rfl⟩

theorem after_ackField {stage : Stage} {op : LpOp} (allowed : ackContract.may stage op)
    {field : Field} (isAck : SkipBudget.ackField field = true) :
    (core.after op).lock.memory field = core.lock.memory field := by
  cases op with
  | store word value =>
    refine Function.update_of_ne ?_ _ _
    rintro rfl
    rcases field with field | field <;> cases field <;> try cases isAck
    all_goals
      cases stage <;> first
        | exact allowed.elim
        | exact absurd (show _ ∈ cycleStores from allowed) (by decide)
  | _ => rfl

theorem good_lp {answer : LpAnswer} {next : HpLp} (good : Good system ledger)
    (few : ledger.calls.length < u32Mod) (apart : Apart (system, ledger) (.lpStep answer))
    (move : LpMove system.core next) :
    Good (system.withCore next) (record system (.lpStep answer) ledger) := by
  cases move with
  | finish running =>
    have recorded : record system (.lpStep answer) ledger =
        ledger.ended system.core.lock.memory := by
      unfold record
      rw [running]
    rw [recorded]
    obtain ⟨stage, ended, reached⟩ := good.running _ running
    have cycling : stage = .cycling := ended
    subst cycling
    obtain ⟨seq, tempC, humPct, placed⟩ := good.acked
    refine ⟨⟨seq, tempC, humPct, placed⟩, consistent_ended good.acked good.consistent reached,
      fun _ => ?_, fun program none => by cases none⟩
    obtain ⟨free, number, base⟩ := reached_ended reached
    exact ⟨free, number, { base with }⟩
  | @perform op following answered running answers =>
    have recorded : record system (.lpStep answer) ledger = ledger.performed op := by
      unfold record
      rw [running]
    rw [recorded]
    obtain ⟨stage, ⟨allowed, continues⟩, reached⟩ := good.running _ running
    have calm : op = .load (.f .hpAckedTempC) → ∀ humPct, system.call ≠ .storeHum humPct := by
      rintro rfl humPct calling
      simp [Apart, HpLp.coming, running, calling] at apart
    obtain ⟨after, changed, arrived⟩ :=
      reached_perform few good.acked reached allowed answers calm
    obtain ⟨sameCalls, sameCycles, completed, ackedTemp, ackedHum⟩ := performed_calls op ledger
    refine ⟨?_, ?_, (fun none => by cases none), ?_⟩
    · have acked : Acked (system.withCore { system.core.after op with
          lp := some (following answered) }) ledger :=
        acked_core good.acked fun field isAck => after_ackField allowed isAck
      refine ⟨?_, ?_, ?_, ?_⟩
      · rw [completed]
        exact acked.seq
      · rw [sameCalls, ackedTemp]
        exact acked.tempC
      · rw [sameCalls, ackedHum]
        exact acked.humPct
      · have placed := acked.placed
        unfold Placed at placed ⊢
        rw [sameCalls, completed, ackedTemp, ackedHum]
        exact placed
    · obtain ⟨single, ordered, delivered⟩ := good.consistent
      refine ⟨?_, ?_, ?_⟩
      · rw [sameCycles, sameCalls]
        exact single
      · rw [sameCycles]
        exact ordered
      · rw [sameCycles]
        exact delivered
    · rintro program ⟨⟩
      refine ⟨after, continues answered after changed, ?_⟩
      obtain ⟨-, humBound, tempBound⟩ := good.acked.placed.bounds
      refine reached_grows arrived ⟨rfl, rfl, rfl⟩ (Grows.refl _) ?_ ?_
      · rw [sameCalls, ackedHum]
        exact humBound.trans tempBound
      · rw [sameCalls, ackedTemp]
        exact tempBound

theorem acked_called (acked : Acked system ledger) (idle : system.call = .idle)
    (tempC humPct : Flt) :
    Acked { system with call := .storeTemp tempC humPct }
      { ledger with calls := ledger.calls ++ [(tempC, humPct)] } := by
  obtain ⟨completed, humBound, tempBound⟩ := acked.placed.bounds
  obtain ⟨seq, sameTemp, sameHum, placed⟩ := acked
  rw [idle] at placed
  obtain ⟨length, fromTemp, fromHum⟩ := placed
  refine ⟨seq, ?_, ?_, ?_, fromTemp, fromHum, passed_last ledger.calls (tempC, humPct)⟩
  · exact sameTemp.trans (congrArg Prod.fst (passed_append tempBound _).symm)
  · exact sameHum.trans (congrArg Prod.snd (passed_append (humBound.trans tempBound) _).symm)
  · rw [List.length_append, List.length_singleton]
    exact congrArg (· + 1) length

section Program

variable [FloatOps]

theorem good_step {state next : Observed} {action : Action} (good : Good state.1 state.2)
    (few : state.2.calls.length < u32Mod) (apart : Apart state action)
    (taken : step state action = some next) : Good next.1 next.2 := by
  obtain ⟨system, ledger⟩ := state
  obtain ⟨after, later⟩ := next
  obtain ⟨stepped, recorded⟩ := Runs.observe_step taken
  simp only at stepped recorded good few
  subst recorded
  obtain ⟨seq, tempC, humPct, placed⟩ := good.acked
  cases action with
  | lpTimer =>
    obtain ⟨core, woken, rfl⟩ := Option.map_eq_some_iff.mp stepped
    obtain ⟨asleep, same⟩ := Option.ite_none_right_eq_some.mp woken
    rw [← Option.some.inj same]
    obtain ⟨free, number, base⟩ := good.resting (Option.isNone_iff_eq_none.mp asleep)
    obtain ⟨single, ordered, delivered⟩ := good.consistent
    refine ⟨⟨seq, tempC, humPct, placed⟩, ⟨single, ordered, delivered⟩,
      (fun none => by cases none), ?_⟩
    rintro program ⟨⟩
    exact ⟨.start, wp_main, free, number, { base with started := le_rfl }⟩
  | lpStep answer =>
    obtain ⟨core, moved, rfl⟩ := Option.map_eq_some_iff.mp stepped
    exact good_lp good few apart (lpStep_move moved)
  | configStore field value =>
    obtain ⟨config, same⟩ := Option.ite_none_right_eq_some.mp stepped
    rw [← Option.some.inj same]
    have kept : ∀ word, SkipBudget.configField word = false →
        Function.update system.core.lock.memory field value word =
          system.core.lock.memory word := by
      intro word other
      refine Function.update_of_ne ?_ _ _
      rintro rfl
      rw [config] at other
      cases other
    refine good.grows ⟨?_, ?_, ?_, placed⟩ rfl ⟨?_, ?_, rfl⟩ (Grows.refl ledger)
    · exact (kept _ rfl).trans seq
    · exact (kept _ rfl).trans tempC
    · exact (kept _ rfl).trans humPct
    · exact kept _ rfl
    · exact kept _ rfl
  | ackDelivered newTemp newHum =>
    obtain ⟨idle, same⟩ := Option.ite_none_right_eq_some.mp stepped
    rw [← Option.some.inj same]
    exact good.grows (acked_called good.acked idle newTemp newHum) rfl ⟨rfl, rfl, rfl⟩
      ⟨rfl, ⟨_, rfl⟩, le_rfl, le_rfl, fun _ => ⟨rfl, rfl⟩⟩
  | hpStep =>
    have calm : ∀ tempC humPct, system.call = .storeTemp tempC humPct ∨
        system.call = .storeHum humPct → ledger.taking = false := by
      rintro newTemp newHum (calling | calling) <;> simpa [Apart, calling] using apart
    obtain ⟨grows, same⟩ := grows_hpStep good.acked stepped calm
    refine good.grows (acked_hpStep good.acked stepped) ?_ same grows
    have lp : system.hpStep = some after := stepped
    unfold AckSystem.hpStep at lp
    split at lp <;> cases lp <;> rfl

theorem calls_step {state next : Observed} {action : Action}
    (taken : step state action = some next) :
    state.2.calls.length ≤ next.2.calls.length := by
  obtain ⟨stepped, recorded⟩ := Runs.observe_step taken
  rw [recorded]
  unfold record
  split
  · exact le_rfl
  · exact le_rfl
  · rw [(performed_calls _ _).1]
  · rw [List.length_append]
    exact Nat.le_add_right _ _
  · unfold Ledger.called
    split <;> exact le_rfl
  · exact le_rfl

omit [FloatOps] in
theorem good_start (config : Shared) : Good (AckSystem.start config) {} where
  acked := ⟨rfl, rfl, rfl, rfl, rfl, rfl⟩
  consistent :=
    ⟨(fun _ none => by cases none), List.Pairwise.nil, (fun _ none => by cases none)⟩
  resting _ :=
    ⟨rfl, 0, rfl, rfl, rfl, rfl, le_rfl, le_rfl, le_rfl, (fun _ none => by cases none), le_rfl⟩
  running program none := by cases none

/-- While no call stores a value into a consumption, and none is split by one, the
baselines are those of single calls, in order, the last complete one included. -/
theorem baselines_consistent (config : Shared) {actions : List Action}
    (apart : Runs.Along step Apart (AckSystem.start config, {}) actions) {final : Observed}
    (ran : Runs.run step (AckSystem.start config, {}) actions = some final)
    (few : final.2.calls.length < u32Mod) : Consistent final.2 := by
  have inv : final.2.calls.length < u32Mod → Good final.1 final.2 :=
    Runs.along_invariant (fun state : Observed =>
        state.2.calls.length < u32Mod → Good state.1 state.2)
      (fun state action next inv apart taken few => by
        have before := (calls_step taken).trans_lt few
        exact good_step (inv before) before apart taken)
      (fun _ => good_start config) apart ran
  exact (inv few).consistent

end Program

def delivers (tempC humPct : Flt) : List Action :=
  .ackDelivered tempC humPct :: List.replicate 4 .hpStep

/-- Operations of an LP cycle whose sensor does not answer. -/
def operations (count : Nat) : List Action := List.replicate count (.lpStep ⟨false, none⟩)

def twoDeliveries : List Action :=
  delivers (.fin 21) (.fin 50) ++ (.lpTimer :: operations 24) ++
    delivers (.fin 25) (.fin 60) ++ (.lpTimer :: operations 24)

theorem baselines_consistent_twice :
    ∃ final, Runs.run (@step exactFloat) (AckSystem.start zeroed, {}) twoDeliveries = some final ∧
      final.2.cycles.map CycleRecord.baseline = [(.fin 21, .fin 50), (.fin 25, .fin 60)] ∧
      Consistent final.2 := by
  obtain ⟨final, ran, known⟩ := Runs.exists_final
    (fun final : Observed => decide (final.2.calls.length = 2 ∧
      final.2.cycles.map CycleRecord.baseline = [(.fin 21, .fin 50), (.fin 25, .fin 60)]))
    (show (Runs.run (@step exactFloat) (AckSystem.start zeroed, {}) twoDeliveries).any _ = true by
      decide +kernel)
  obtain ⟨two, baselines⟩ := of_decide_eq_true known
  exact ⟨final, ran, baselines, @baselines_consistent exactFloat zeroed twoDeliveries
    (by decide +kernel) final ran (by rw [two]; decide)⟩

/-- The second call stores its values between the two loads of the block. -/
def splitConsumption : List Action :=
  delivers (.fin 21) (.fin 50) ++ (.lpTimer :: operations 3) ++
    delivers (.fin 25) (.fin 60) ++ operations 21

/-- The baseline is of no call, and the second call is never consumed. -/
theorem baseline_torn :
    ∃ final, Runs.run (@step exactFloat) (AckSystem.start zeroed, {})
        (splitConsumption ++ (.lpTimer :: operations 17)) = some final ∧
      final.2.calls = [(.fin 21, .fin 50), (.fin 25, .fin 60)] ∧
      final.2.cycles.map CycleRecord.baseline = [(.fin 21, .fin 60), (.fin 21, .fin 60)] ∧
      ¬ Consistent final.2 := by
  obtain ⟨final, ran, known⟩ := Runs.exists_final
    (fun final : Observed => decide (final.2.calls = [(.fin 21, .fin 50), (.fin 25, .fin 60)] ∧
      final.2.cycles.map CycleRecord.baseline = [(.fin 21, .fin 60), (.fin 21, .fin 60)] ∧
      ∃ cycle ∈ final.2.cycles, cycle.humFrom ≠ cycle.tempFrom))
    (show (Runs.run (@step exactFloat) (AckSystem.start zeroed, {})
      (splitConsumption ++ (.lpTimer :: operations 17))).any _ = true by decide +kernel)
  obtain ⟨calls, baselines, cycle, member, split⟩ := of_decide_eq_true known
  exact ⟨final, ran, calls, baselines, fun consistent => split (consistent.single cycle member).1⟩

end SleepySensor.AckBaseline
