import SleepySensor.CycleReads
import SleepySensor.FlagService
import SleepySensor.FlaggedReading
import SleepySensor.FreshSnapshot

/-!
# Whether published readings are real

The sensor task publishes, acks and logs the calibrated pair of the state it read
whenever `should_wake_hp` is set.  The LP core sets that flag also when the sensor
has just failed, and then the pair is of an earlier cycle.
-/

set_option autoImplicit false

namespace SleepySensor.RealReadings

open LpCore CycleReads
open Snapshot hiding Action step start Inv
open FlagService (Cores SharedLock coresStep start taken takesFlag)

/-- What the LP core computed in which cycle, and of which cycles the state read is. -/
structure Readings where
  lp : Reads := {}
  /-- The shared words while the call of `lp_sensor_core_get_state` runs, each with
  the polls counted then. -/
  instants : List (Shared × Nat) := []
  /-- The polls counted while the call ran whose state the task took. -/
  seen : List Nat := []
  /-- That call returned from inside its loop. -/
  clean : Bool := false

abbrev Observed := Cores × Readings

def Readings.noted (readings : Readings) (core : HpLp) : Readings :=
  { readings with
    instants :=
      if core.lock.reader.inCall then (core.lock.memory, readings.lp.polls) :: readings.instants
      else readings.instants }

def returnedClean (lock : SharedLock) : Bool :=
  decide (lock.reader = Seqlock.Reader.returned true) && decide (lock.moved < u32Mod)

def lpAfter (raw : Option Raw6) (coming : Option LpOp) (reads : Reads) : Reads :=
  match coming with
  | some op => performed raw op reads
  | none => reads

def record (cores : Cores) (action : FlagService.Action) (readings : Readings) : Readings :=
  match action with
  | .lpStep answer =>
    { readings.noted cores.core with lp := lpAfter answer.raw cores.core.coming readings.lp }
  | .getState => { readings with instants := [] }
  | .readState =>
    { readings with
      seen := readings.instants.map Prod.snd, clean := returnedClean cores.core.lock }
  | .reset _ _ => {}
  | _ => readings.noted cores.core

def step [FloatOps] (env : HpEnv) : Observed → FlagService.Action → Option Observed :=
  Runs.observe (coresStep env) record

/-- The pair that the call of `m_readyEvent` publishes as current. -/
def published (system : HpSystem) : HpAction → Option (Flt × Flt)
  | .sensor (.send _) =>
    match system.sensor.cycle.values.temperature, system.sensor.cycle.values.humidity with
    | some temperature, some humidity =>
      if system.sensor.pc = .sending then some (temperature, humidity) else none
    | _, _ => none
  | _ => none

/-- The pair was computed from a read in the LP cycle that the state's heartbeat counts. -/
def Real (seen : List Nat) (computed : List (Nat × Flt × Flt)) (heartbeat : Nat)
    (pair : Flt × Flt) : Prop :=
  ∃ cycle ∈ seen, heartbeat = u32 cycle ∧ (cycle, pair) ∈ computed

/-- What is published, acked or logged is real. -/
def RealReading (state : Observed) : FlagService.Action → Prop
  | .hp action => ∀ pair, published state.1.hp action = some pair ∨
      HpSystem.ackDelivered state.1.hp action = some pair ∨
        HpSystem.logAppended state.1.hp action = some pair →
      Real state.2.seen state.2.lp.computed state.1.hp.sensor.cycle.state.heartbeatCounter pair
  | _ => True

/-- A branch that goes by the flag has a clean copy of a state with the sensor OK and
no heater run under way. -/
def SoundFlag (state : Observed) : FlagService.Action → Prop
  | .hp (.sensor .branch) => takesFlag state.1.hp = true →
      state.2.clean = true ∧ (state.1.core.lock.out (.u .sensorOk) : Nat) ≠ 0 ∧
        (state.1.core.lock.out (.u .heaterActive) : Nat) = 0
  | _ => True

/-! ## The LP core -/

/-- The marks are right about the words. -/
structure Mirrors (memory : Shared) (reads : Reads) : Prop where
  seq : layout.countOf memory = reads.seq
  active : (memory (.u .heaterActive) : Nat) = reads.active
  heartbeat : (memory (.u .heartbeatCounter) : Nat) = reads.heartbeat
  ok : (memory (.u .sensorOk) : Nat) = reads.ok
  calTemp : (memory (.f .calTempC) : Flt) = reads.calTemp
  calHum : (memory (.f .calHumPct) : Flt) = reads.calHum

structure LpInv (core : HpLp) (reads : Reads) : Prop where
  mirrors : Mirrors core.lock.memory reads
  good : Good reads
  running : ∀ program, core.lp = some program →
    program.wp readsContract reads fun after _ => Resting after
  resting : core.lp = none → Resting reads

variable {env : HpEnv} {core next : HpLp} {lock : SharedLock} {reads : Reads}

theorem Mirrors.other {memory : Shared} (mirrors : Mirrors memory reads) {field : Field}
    (value : field.Val) (unmarked : readsField field = false) :
    Mirrors (Function.update memory field value) reads := by
  have apart : ∀ marked, readsField marked = true →
      Function.update memory field value marked = memory marked := by
    intro marked isMarked
    refine Function.update_of_ne ?_ _ _
    rintro rfl
    rw [unmarked] at isMarked
    cases isMarked
  obtain ⟨seq, active, heartbeat, ok, calTemp, calHum⟩ := mirrors
  refine ⟨?_, ?_, ?_, ?_, ?_, ?_⟩
  · rw [← seq]
    exact congrArg layout.count (apart (.u .resultSeq) rfl)
  · rw [apart _ rfl]
    exact active
  · rw [apart _ rfl]
    exact heartbeat
  · rw [apart _ rfl]
    exact ok
  · rw [apart _ rfl]
    exact calTemp
  · rw [apart _ rfl]
    exact calHum

theorem Mirrors.store (mirrors : Mirrors lock.memory reads) (field : Field) (value : field.Val) :
    Mirrors (layout.store lock field value).memory
      (performed none (.store field value) reads) := by
  cases marked : readsField field with
  | false =>
    have same : performed none (.store field value) reads = reads := by
      rcases field with field | field <;> cases field <;> first | rfl | cases marked
    rw [same]
    exact mirrors.other value marked
  | true =>
    obtain ⟨seq, active, heartbeat, ok, calTemp, calHum⟩ := mirrors
    rcases field with field | field
    · cases field
      case resultSeq =>
        have stored : layout.countOf (layout.store lock (.u .resultSeq) value).memory = value :=
          layout.store_same lock (.u .resultSeq) value
        simp only [performed]
        split <;> exact ⟨stored, active, heartbeat, ok, calTemp, calHum⟩
      case heartbeatCounter =>
        exact ⟨seq, active, layout.store_same lock _ value, ok, calTemp, calHum⟩
      case sensorOk =>
        exact ⟨seq, active, heartbeat, layout.store_same lock _ value, calTemp, calHum⟩
      case heaterActive =>
        exact ⟨seq, layout.store_same lock _ value, heartbeat, ok, calTemp, calHum⟩
      all_goals cases marked
    · cases field
      case calTempC => exact ⟨seq, active, heartbeat, ok, layout.store_same lock _ value, calHum⟩
      case calHumPct => exact ⟨seq, active, heartbeat, ok, calTemp, layout.store_same lock _ value⟩
      all_goals cases marked

theorem Mirrors.effect (mirrors : Mirrors core.lock.memory reads) {op : LpOp} {reply : op.Res}
    (answers : core.Answers op reply) :
    readsContract.effect reads op reply (performed (rawOf op reply) op reads) := by
  refine ⟨rfl, ?_⟩
  cases op with
  | load field =>
    have loaded : reply = core.lock.memory field := answers
    rcases field with field | field
    · cases field <;> first
        | trivial
        | exact (congrArg (fun value : Nat => value) loaded).trans mirrors.heartbeat
        | exact (congrArg (fun value : Nat => value) loaded).trans mirrors.seq
    · trivial
  | _ => trivial

theorem LpInv.perform (inv : LpInv core reads) {op : LpOp} {following : op.Res → LpProg Unit}
    {reply : op.Res} (running : core.lp = some (.call op following))
    (answers : core.Answers op reply) :
    LpInv { core.after op with lp := some (following reply) }
      (performed (rawOf op reply) op reads) := by
  obtain ⟨allowed, continues⟩ := inv.running _ running
  have later : ∀ program, some (following reply) = some program →
      program.wp readsContract (performed (rawOf op reply) op reads)
        fun after _ => Resting after := by
    rintro program ⟨⟩
    exact continues reply _ (inv.mirrors.effect answers)
  cases op with
  | store field value =>
    exact ⟨inv.mirrors.store field value, allowed, later, fun none_ => by cases none_⟩
  | i2cRead =>
    have heard : Heard reads (performed reply .i2cRead reads) :=
      @performed_mild reads .i2cRead trivial reply
    refine ⟨?_, heard.good inv.good, later, fun none_ => by cases none_⟩
    obtain ⟨cycle, -, same⟩ := heard
    show Mirrors core.lock.memory (performed reply .i2cRead reads)
    rw [same]
    obtain ⟨seq, active, heartbeat, ok, calTemp, calHum⟩ := inv.mirrors
    exact ⟨seq, active, heartbeat, ok, calTemp, calHum⟩
  | _ => exact ⟨inv.mirrors, inv.good, later, fun none_ => by cases none_⟩

theorem performed_raw {op : LpOp} (noRead : op ≠ .i2cRead) (raw other : Option Raw6) :
    performed raw op reads = performed other op reads := by
  cases op with
  | store field value => rcases field with field | field <;> cases field <;> rfl
  | i2cRead => exact (noRead rfl).elim
  | _ => rfl

theorem LpInv.step {answer : LpAnswer} (inv : LpInv core reads)
    (stepped : lpStep answer core = some next) :
    LpInv next (lpAfter answer.raw core.coming reads) := by
  by_cases reading : ∃ following, core.lp = some (.call .i2cRead following)
  · obtain ⟨following, running⟩ := reading
    have same : next = { core with lp := some (following answer.raw) } := by
      simp only [lpStep, running, Option.some.injEq] at stepped
      exact stepped.symm
    have coming : core.coming = some .i2cRead := by
      simp only [HpLp.coming, running]
    rw [same, coming]
    exact @LpInv.perform core reads inv .i2cRead following answer.raw running trivial
  · cases lpStep_move stepped with
    | finish running =>
      have coming : core.coming = none := by
        simp only [HpLp.coming, running]
      rw [coming]
      exact ⟨inv.mirrors, inv.good, (fun _ none_ => by cases none_),
        fun _ => inv.running _ running⟩
    | @perform op following reply running answers =>
      have coming : core.coming = some op := by
        simp only [HpLp.coming, running]
      have noRead : op ≠ .i2cRead := by
        rintro rfl
        exact reading ⟨following, running⟩
      have moved := inv.perform running answers
      rw [coming]
      show LpInv _ (performed answer.raw op reads)
      rw [performed_raw noRead answer.raw (rawOf op reply)]
      exact moved

theorem performed_grows (raw : Option Raw6) (op : LpOp) {entry : Nat × Flt × Flt}
    (member : entry ∈ reads.computed) :
    entry ∈ (performed raw op reads).computed := by
  unfold performed
  split
  case h_1 => split <;> exact member
  case h_6 =>
    dsimp only
    split
    · exact List.mem_cons_of_mem _ member
    · exact member
  case h_7 => split <;> exact member
  all_goals exact member

/-! ## The instants of a call -/

def Settled (memory : Shared) (polls : Nat) (computed : List (Nat × Flt × Flt)) : Prop :=
  layout.countOf memory % 2 = 0 → (memory (.u .heaterActive) : Nat) = 0 →
    (memory (.u .sensorOk) : Nat) ≠ 0 →
      (memory (.u .heartbeatCounter) : Nat) = u32 polls ∧
        (polls, memory (.f .calTempC), memory (.f .calHumPct)) ∈ computed

theorem LpInv.settled (inv : LpInv core reads) :
    Settled core.lock.memory reads.polls reads.computed := by
  obtain ⟨⟨seq, active, heartbeat, ok, calTemp, calHum⟩, ⟨beat, fresh⟩, -, -⟩ := inv
  intro even cold isOk
  rw [seq] at even
  rw [active] at cold
  rw [ok] at isOk
  obtain ⟨polls, own⟩ := fresh even cold
  refine ⟨heartbeat.trans beat, ?_⟩
  rw [polls, calTemp, calHum]
  exact own isOk

variable {readings : Readings}

theorem noted_instants (readings : Readings) (core : HpLp) :
    (readings.noted core).instants.map Prod.fst =
      Seqlock.instantsAfter core.lock (readings.instants.map Prod.fst) := by
  unfold Readings.noted Seqlock.instantsAfter
  dsimp only
  split <;> rfl

theorem settled_noted (lp : LpInv core readings.lp)
    (settled : ∀ instant ∈ readings.instants,
      Settled instant.1 instant.2 readings.lp.computed) :
    ∀ instant ∈ (readings.noted core).instants,
      Settled instant.1 instant.2 readings.lp.computed := by
  intro instant member
  unfold Readings.noted at member
  dsimp only at member
  split at member
  · rcases List.mem_cons.mp member with rfl | earlier
    · exact lp.settled
    · exact settled instant earlier
  · exact settled instant member

/-- A clean copy is of the words at an instant of the call. -/
theorem copied_settled (fresh : Seqlock.Fresh layout FreshSnapshot.looseField lock
      (readings.instants.map Prod.fst))
    (settled : ∀ instant ∈ readings.instants,
      Settled instant.1 instant.2 readings.lp.computed)
    (clean : returnedClean lock = true) (cold : (lock.out (.u .heaterActive) : Nat) = 0)
    (isOk : (lock.out (.u .sensorOk) : Nat) ≠ 0) :
    Real (readings.instants.map Prod.snd) readings.lp.computed
      (TimedCores.snapshotOf lock.out).heartbeatCounter
      ((TimedCores.snapshotOf lock.out).calTempC, (TimedCores.snapshotOf lock.out).calHumPct) := by
  simp only [returnedClean, Bool.and_eq_true, decide_eq_true_eq] at clean
  obtain ⟨returned, few⟩ := clean
  unfold Seqlock.Fresh at fresh
  simp only [returned] at fresh
  obtain ⟨memory, listed, even, shows⟩ := fresh few
  obtain ⟨⟨_, polls⟩, member, rfl⟩ := List.mem_map.mp listed
  have same : ∀ field, resultField field = true → lock.out field = _ := fun field guarded =>
    shows field (.inl guarded) (mem_copyOrder field) List.not_mem_nil
  obtain ⟨heartbeat, own⟩ := settled _ member even ((same _ rfl).symm.trans cold)
    (fun none_ => isOk ((same _ rfl).trans none_))
  refine ⟨polls, List.mem_map.mpr ⟨_, member, rfl⟩, ?_, ?_⟩
  · exact (same (.u .heartbeatCounter) rfl).trans heartbeat
  · have temp : (lock.out (.f .calTempC) : Flt) = _ := same (.f .calTempC) rfl
    have hum : (lock.out (.f .calHumPct) : Flt) = _ := same (.f .calHumPct) rfl
    show (polls, lock.out (.f .calTempC), lock.out (.f .calHumPct)) ∈ _
    rw [temp, hum]
    exact own

/-! ## The sensor task -/

/-- The state that the turn goes by, while it has a reading to deliver. -/
structure Holds (sensor : SensorsTask) (readings : Readings) : Prop where
  real : Real readings.seen readings.lp.computed sensor.cycle.state.heartbeatCounter
    (sensor.cycle.state.calTempC, sensor.cycle.state.calHumPct)
  values : sensor.pc = .measuring ∨ sensor.pc = .sending →
    sensor.cycle.values.temperature = some sensor.cycle.state.calTempC ∧
      sensor.cycle.values.humidity = some sensor.cycle.state.calHumPct

structure HpInv (sensor : SensorsTask) (lock : SharedLock) (readings : Readings) : Prop where
  reading : lock.reader ≠ .idle → sensor.pc = .reading
  branching : sensor.pc = .branching → readings.clean = true →
    (lock.out (.u .heaterActive) : Nat) = 0 → (lock.out (.u .sensorOk) : Nat) ≠ 0 →
      Real readings.seen readings.lp.computed sensor.cycle.state.heartbeatCounter
        (sensor.cycle.state.calTempC, sensor.cycle.state.calHumPct)
  holds : FlaggedReading.inBranch sensor.pc = true → sensor.cycle.otaOnly = false →
    Holds sensor readings
  data : sensor.pc = .measuring → sensor.cycle.otaOnly = false
  empty : sensor.pc = .sending → sensor.cycle.otaOnly = true → sensor.cycle.values = {}

variable {sensor after : SensorsTask}

theorem HpInv.idle (inv : HpInv sensor lock readings) (elsewhere : sensor.pc ≠ .reading) :
    lock.reader = .idle := by
  by_contra running
  exact elsewhere (inv.reading running)

theorem Real.grows {seen : List Nat} {computed later : List (Nat × Flt × Flt)} {heartbeat : Nat}
    {pair : Flt × Flt} (real : Real seen computed heartbeat pair)
    (grows : ∀ entry ∈ computed, entry ∈ later) : Real seen later heartbeat pair := by
  obtain ⟨cycle, member, beat, own⟩ := real
  exact ⟨cycle, member, beat, grows _ own⟩

theorem HpInv.grows {other : SharedLock} {later : Readings} (inv : HpInv sensor lock readings)
    (reader : other.reader = lock.reader) (out : other.out = lock.out)
    (seen : later.seen = readings.seen) (clean : later.clean = readings.clean)
    (grows : ∀ entry ∈ readings.lp.computed, entry ∈ later.lp.computed) :
    HpInv sensor other later where
  reading := by
    rw [reader]
    exact inv.reading
  branching := by
    rw [out, seen, clean]
    exact fun at_ isClean cold isOk => (inv.branching at_ isClean cold isOk).grows grows
  holds := by
    intro inside data
    obtain ⟨real, values⟩ := inv.holds inside data
    refine ⟨?_, values⟩
    rw [seen]
    exact real.grows grows
  data := inv.data
  empty := inv.empty

theorem hpInv_reading (at_ : sensor.pc = .reading) : HpInv sensor lock readings where
  reading := fun _ => at_
  branching := by
    intro elsewhere
    cases at_.symm.trans elsewhere
  holds := by
    intro inside
    rw [at_] at inside
    cases inside
  data := by
    intro elsewhere
    cases at_.symm.trans elsewhere
  empty := by
    intro elsewhere
    cases at_.symm.trans elsewhere

theorem HpInv.leaves (inv : HpInv sensor lock readings) (elsewhere : sensor.pc ≠ .reading)
    (outside : FlaggedReading.inBranch after.pc = false) (apart : after.pc ≠ .branching) :
    HpInv after lock readings where
  reading := fun running => (running (inv.idle elsewhere)).elim
  branching := fun at_ => (apart at_).elim
  holds := by
    intro inside
    rw [outside] at inside
    cases inside
  data := by
    intro at_
    rw [at_] at outside
    cases outside
  empty := by
    intro at_
    rw [at_] at outside
    cases outside

theorem HpInv.stays (inv : HpInv sensor lock readings)
    (inside : FlaggedReading.inBranch sensor.pc = true)
    (state : after.cycle.state = sensor.cycle.state)
    (data : after.cycle.otaOnly = sensor.cycle.otaOnly) (apart : after.pc ≠ .branching)
    (past : after.pc ≠ .measuring ∧ after.pc ≠ .sending) : HpInv after lock readings where
  reading := by
    refine fun running => (running (inv.idle ?_)).elim
    intro at_
    rw [at_] at inside
    cases inside
  branching := fun at_ => (apart at_).elim
  holds := by
    rw [data]
    intro _ isData
    refine ⟨?_, ?_⟩
    · rw [state]
      exact (inv.holds inside isData).real
    · rintro (at_ | at_)
      · exact (past.1 at_).elim
      · exact (past.2 at_).elim
  data := fun at_ => (past.1 at_).elim
  empty := fun at_ => (past.2 at_).elim

theorem HpInv.branch (inv : HpInv sensor lock readings) (at_ : sensor.pc = .branching)
    {sessionInProgress : Bool} (updateDue viaAdc : Bool)
    (sound : sessionInProgress = false → sensor.cycle.shouldWake = true →
      readings.clean = true ∧ (lock.out (.u .sensorOk) : Nat) ≠ 0 ∧
        (lock.out (.u .heaterActive) : Nat) = 0) :
    HpInv (sensor.branch sessionInProgress updateDue viaAdc) lock readings := by
  have elsewhere : sensor.pc ≠ .reading := by
    rw [at_]
    decide
  unfold SensorsTask.branch
  dsimp only
  cases sessionInProgress with
  | true => exact inv.leaves elsewhere rfl (by rintro ⟨⟩)
  | false =>
    rw [if_neg Bool.false_ne_true]
    split
    · exact inv.leaves elsewhere rfl (by rintro ⟨⟩)
    · split
      case isTrue wakes =>
        obtain ⟨clean, isOk, cold⟩ := sound rfl wakes
        have real := inv.branching at_ clean cold isOk
        refine ⟨fun running => (running (inv.idle elsewhere)).elim, ?_,
          fun _ _ => ⟨real, fun _ => ⟨rfl, rfl⟩⟩, fun _ => rfl, by rintro - ⟨⟩⟩
        intro place
        simp only at place
        split at place <;> cases place
      case isFalse =>
        split
        · exact ⟨fun running => (running (inv.idle elsewhere)).elim, by rintro ⟨⟩,
            by rintro - ⟨⟩, by rintro ⟨⟩, fun _ _ => rfl⟩
        · exact inv.leaves elsewhere rfl (by rintro ⟨⟩)

open HpSystem

theorem HpInv.measure (inv : HpInv sensor lock readings) (at_ : sensor.pc = .measuring)
    (outcome : AdcOutcome) : HpInv (sensor.measure outcome) lock readings := by
  have inside : FlaggedReading.inBranch sensor.pc = true := by rw [at_]; rfl
  have data := inv.data at_
  obtain ⟨real, values⟩ := inv.holds inside data
  have idle := inv.idle (by rw [at_]; decide)
  refine ⟨fun running => (running idle).elim, by rintro ⟨⟩, fun _ _ => ⟨real, fun _ => ?_⟩,
    by rintro ⟨⟩, fun _ otaOnly => by cases data.symm.trans otaOnly⟩
  have measured : ∀ values : PublishParams,
      (SensorCycle.withBattery values outcome).temperature = values.temperature ∧
        (SensorCycle.withBattery values outcome).humidity = values.humidity := by
    intro values
    unfold SensorCycle.withBattery
    split <;> exact ⟨rfl, rfl⟩
  obtain ⟨temperature, humidity⟩ := values (.inl at_)
  exact ⟨(measured _).1.trans temperature, (measured _).2.trans humidity⟩

theorem hpInv_sensor {system after : HpSystem} {event : SensorEvent}
    (inv : HpInv system.sensor lock readings) (move : SensorMove env system event after)
    (noRead : ∀ state, event ≠ .readState state)
    (sound : event = .branch → takesFlag system = true →
      readings.clean = true ∧ (lock.out (.u .sensorOk) : Nat) ≠ 0 ∧
        (lock.out (.u .heaterActive) : Nat) = 0) :
    HpInv after.sensor lock readings := by
  have sent : ∀ started : Option Nat, system.sensor.pc = .sending →
      HpInv (sent system.sensor started) lock readings := by
    intro started at_
    exact inv.stays (by rw [at_]; rfl) rfl rfl (by rintro ⟨⟩) ⟨by rintro ⟨⟩, by rintro ⟨⟩⟩
  have ends : ∀ ok : Bool, system.sensor.pc ≠ .reading →
      HpInv (system.noteCycleResult ok .cycleEnd).sensor lock readings := by
    intro ok elsewhere
    rcases system.noteCycleResult_pc ok .cycleEnd with place | ⟨dbm, place⟩
    · exact inv.leaves elsewhere (by rw [place]; rfl) (by rw [place]; rintro ⟨⟩)
    · exact inv.leaves elsewhere (by rw [place]; rfl) (by rw [place]; rintro ⟨⟩)
  cases move with
  | readState state at_ => exact (noRead state rfl).elim
  | sendRefused created at_ busy => exact sent _ at_
  | sendFailed at_ free => exact sent _ at_
  | sendStarted at_ free => exact sent _ at_
  | branch at_ =>
    refine inv.branch at_ _ _ fun inactive wakes => sound rfl ?_
    simp [takesFlag, at_, inactive, wakes]
  | measure outcome at_ => exact inv.measure at_ outcome
  | attachFailed at_ => exact ends false (by rw [at_]; decide)
  | timeoutNoted at_ inactive => exact ends false (by rw [at_]; decide)
  | note at_ =>
    have inside : FlaggedReading.inBranch system.sensor.pc = true := by rw [at_]; rfl
    rcases system.noteCycleResult_pc system.sensor.cycle.publishedOk .delivering with
      place | ⟨dbm, place⟩
    · exact inv.stays inside rfl rfl (by rw [place]; rintro ⟨⟩)
        ⟨by rw [place]; rintro ⟨⟩, by rw [place]; rintro ⟨⟩⟩
    · exact inv.stays inside rfl rfl (by rw [place]; rintro ⟨⟩)
        ⟨by rw [place]; rintro ⟨⟩, by rw [place]; rintro ⟨⟩⟩
  | attached at_ =>
    have elsewhere : system.sensor.pc ≠ .reading := by rw [at_]; decide
    apply inv.leaves elsewhere
    · simp only [attachReady]
      split <;> rfl
    · simp only [attachReady]
      split <;> rintro ⟨⟩
  | firstAttachCall accepted at_ =>
    exact inv.leaves (by rw [at_]; rintro ⟨⟩) rfl (by rintro ⟨⟩)
  | @revertCall dbm resume accepted at_ =>
    cases resume with
    | delivering =>
      exact inv.stays (by rw [at_]; rfl) rfl rfl (by rintro ⟨⟩) ⟨by rintro ⟨⟩, by rintro ⟨⟩⟩
    | cycleEnd => exact inv.leaves (by rw [at_]; rintro ⟨⟩) rfl (by rintro ⟨⟩)
  | deliver nowUs stateRead marked at_ =>
    obtain ⟨log, checked, pending, same⟩ := system.deliver_eq nowUs stateRead marked
    rw [same]
    exact inv.leaves (by rw [at_]; decide) rfl (by rintro ⟨⟩)
  | supervise stateRead at_ =>
    have elsewhere : system.sensor.pc ≠ .reading := by rw [at_]; decide
    rcases system.supervise_pc stateRead with place | place
    · exact inv.leaves elsewhere (by rw [place]; rfl) (by rw [place]; rintro ⟨⟩)
    · exact inv.leaves elsewhere (by rw [place]; rfl) (by rw [place]; rintro ⟨⟩)
  | isBusy at_ =>
    have elsewhere : system.sensor.pc ≠ .reading := by rw [at_]; decide
    cases busy : system.mqtt.taskRunning with
    | true =>
      exact inv.stays (by rw [at_]; rfl) rfl rfl (by rintro ⟨⟩) ⟨by rintro ⟨⟩, by rintro ⟨⟩⟩
    | false => exact inv.leaves elsewhere rfl (by rintro ⟨⟩)
  | wake lpWoke at_ => exact inv.leaves (by rw [at_]; rintro ⟨⟩) rfl (by rintro ⟨⟩)
  | waitDone at_ idle =>
    exact inv.stays (by rw [at_]; rfl) rfl rfl (by rintro ⟨⟩) ⟨by rintro ⟨⟩, by rintro ⟨⟩⟩
  | readOutcome at_ =>
    exact inv.stays (by rw [at_]; rfl) rfl rfl (by rintro ⟨⟩) ⟨by rintro ⟨⟩, by rintro ⟨⟩⟩
  | waitTimeout at_ | beginWait at_ =>
    exact inv.leaves (by rw [at_]; decide) rfl (by rintro ⟨⟩)
  | timeoutInSession at_ active => exact inv.leaves (by rw [at_]; decide) rfl (by rintro ⟨⟩)

/-! ## Both cores -/

structure Inv (state : Observed) : Prop where
  lp : LpInv state.1.core state.2.lp
  lock : FreshSnapshot.Inv (state.1.core, state.2.instants.map Prod.fst)
  settled : ∀ instant ∈ state.2.instants,
    Settled instant.1 instant.2 state.2.lp.computed
  hp : HpInv state.1.hp.sensor state.1.core.lock state.2

variable {cores : Cores}

theorem initially_good : Good {} where
  beat := rfl
  fresh := fun _ _ => ⟨rfl, fun isOk => (isOk rfl).elim⟩

theorem inv_start (env : HpEnv) (nvs : Nvs) (cyclesStarted : Nat) (pendingVerify : Bool)
    (config : Shared) :
    Inv (start (HpSystem.boot env nvs cyclesStarted pendingVerify) config, {}) where
  lp := ⟨⟨rfl, rfl, rfl, rfl, rfl, rfl⟩, initially_good, by rintro program ⟨⟩,
    fun _ => ⟨initially_good, rfl, rfl⟩⟩
  lock :=
    { locked :=
        { lock := Seqlock.initial_inv zeroed (show (0 : Nat) < u32Mod by decide)
          running := by rintro program ⟨⟩
          resting := fun _ => rfl }
      fresh := by
        unfold Seqlock.Fresh
        trivial }
  settled := fun _ member => by cases member
  hp :=
    { reading := fun running => (running rfl).elim
      branching := by rintro ⟨⟩
      holds := by rintro ⟨⟩
      data := by rintro ⟨⟩
      empty := by rintro ⟨⟩ }

theorem lock_taken {instants : List Shared} (inv : FreshSnapshot.Inv (core, instants)) :
    FreshSnapshot.Inv (taken core, instants) := by
  obtain ⟨⟨⟨stable, -, -, bounded⟩, running, resting⟩, -⟩ := inv
  refine ⟨⟨⟨stable, ?_, ?_, bounded⟩, running, resting⟩, ?_⟩
  · unfold Seqlock.ReadsOne
    trivial
  · unfold Seqlock.Counted
    trivial
  · unfold Seqlock.Fresh
    trivial

section Program

variable [FloatOps]

theorem lock_step {action : Snapshot.Action} {instants : List Shared}
    (inv : FreshSnapshot.Inv (core, instants)) (taken : Snapshot.step core action = some next) :
    FreshSnapshot.Inv (next, FreshSnapshot.record core action instants) := by
  apply FreshSnapshot.inv_step (core, instants) action _ inv
  simp only [FreshSnapshot.step, Runs.observe, taken, Option.map_some]

theorem inv_lpTimer (inv : Inv (cores, readings))
    (woken : Snapshot.step cores.core .lpTimer = some next) :
    Inv (cores.withCore next, readings.noted cores.core) := by
  have lock := lock_step inv.lock woken
  obtain ⟨asleep, same⟩ := Option.ite_none_right_eq_some.mp woken
  have resting := inv.lp.resting (Option.isNone_iff_eq_none.mp asleep)
  rw [← Option.some.inj same] at lock ⊢
  refine ⟨⟨inv.lp.mirrors, inv.lp.good, ?_, fun none_ => by cases none_⟩, ?_,
    settled_noted inv.lp inv.settled, inv.hp.grows rfl rfl rfl rfl fun _ member => member⟩
  · rintro program ⟨⟩
    exact wp_main resting
  · show FreshSnapshot.Inv (_, (readings.noted cores.core).instants.map Prod.fst)
    rw [noted_instants]
    exact lock

omit [FloatOps] in
theorem lpStep_copy {answer : LpAnswer} (stepped : lpStep answer core = some next) :
    next.lock.reader = core.lock.reader ∧ next.lock.out = core.lock.out := by
  cases lpStep_move stepped with
  | finish running => exact ⟨rfl, rfl⟩
  | @perform op following reply running answers => cases op <;> exact ⟨rfl, rfl⟩

omit [FloatOps] in
theorem lpAfter_grows (raw : Option Raw6) (coming : Option LpOp) {entry : Nat × Flt × Flt}
    (member : entry ∈ reads.computed) : entry ∈ (lpAfter raw coming reads).computed := by
  unfold lpAfter
  split
  · exact performed_grows raw _ member
  · exact member

theorem inv_lpStep {answer : LpAnswer} (inv : Inv (cores, readings))
    (stepped : lpStep answer cores.core = some next) :
    Inv (cores.withCore next, record cores (.lpStep answer) readings) := by
  have lock := @lock_step cores.core next _ (.lpStep answer) _ inv.lock stepped
  obtain ⟨reader, out⟩ := lpStep_copy stepped
  refine ⟨inv.lp.step stepped, ?_, ?_,
    inv.hp.grows reader out rfl rfl fun _ member => lpAfter_grows _ _ member⟩
  · show FreshSnapshot.Inv (next, (readings.noted cores.core).instants.map Prod.fst)
    rw [noted_instants]
    exact lock
  · intro instant member even cold isOk
    obtain ⟨beat, own⟩ := settled_noted inv.lp inv.settled instant member even cold isOk
    exact ⟨beat, lpAfter_grows _ _ own⟩

omit [FloatOps] in
theorem hpOwned_unread {field : Field} (owned : hpOwned field = true) :
    readsField field = false := by
  rcases field with field | field <;> cases field <;> first | rfl | cases owned

theorem inv_hpStore {field : Field} {value : field.Val} (inv : Inv (cores, readings))
    (stored : Snapshot.step cores.core (.hpStore field value) = some next) :
    Inv (cores.withCore next, readings.noted cores.core) := by
  have lock := lock_step inv.lock stored
  obtain ⟨owned, same⟩ := Option.ite_none_right_eq_some.mp stored
  rw [← Option.some.inj same] at lock ⊢
  refine ⟨⟨inv.lp.mirrors.other value (hpOwned_unread owned), inv.lp.good, inv.lp.running,
    inv.lp.resting⟩, ?_, settled_noted inv.lp inv.settled,
    inv.hp.grows rfl rfl rfl rfl fun _ member => member⟩
  show FreshSnapshot.Inv (_, (readings.noted cores.core).instants.map Prod.fst)
  rw [noted_instants]
  exact lock

theorem inv_getState (inv : Inv (cores, readings)) (at_ : cores.hp.sensor.pc = .reading)
    (called : Snapshot.step cores.core (.getState zeroed) = some next) :
    Inv (cores.withCore next, { readings with instants := [] }) := by
  have lock := lock_step inv.lock called
  obtain ⟨started, begun, same⟩ := Option.map_eq_some_iff.mp called
  rw [← same] at lock ⊢
  have sameMemory : started.memory = cores.core.lock.memory := Seqlock.call_memory begun
  refine ⟨⟨?_, inv.lp.good, inv.lp.running, inv.lp.resting⟩, lock, (fun _ none_ => by cases none_),
    hpInv_reading at_⟩
  show Mirrors started.memory readings.lp
  rw [sameMemory]
  exact inv.lp.mirrors

theorem inv_readerStep (inv : Inv (cores, readings))
    (read : Snapshot.step cores.core .readerStep = some next) :
    Inv (cores.withCore next, readings.noted cores.core) := by
  have lock := lock_step inv.lock read
  obtain ⟨after, stepped, same⟩ := Option.map_eq_some_iff.mp read
  rw [← same] at lock ⊢
  have sameMemory : after.memory = cores.core.lock.memory := Seqlock.readerStep_memory stepped
  have running : cores.core.lock.reader ≠ .idle := by
    intro idle
    simp [Seqlock.Layout.readerStep, idle] at stepped
  refine ⟨⟨?_, inv.lp.good, inv.lp.running, inv.lp.resting⟩, ?_,
    settled_noted inv.lp inv.settled, hpInv_reading (inv.hp.reading running)⟩
  · show Mirrors after.memory readings.lp
    rw [sameMemory]
    exact inv.lp.mirrors
  · show FreshSnapshot.Inv (_, (readings.noted cores.core).instants.map Prod.fst)
    rw [noted_instants]
    exact lock

omit [FloatOps] in
theorem inv_readState {hp : HpSystem} (inv : Inv (cores, readings))
    (stepped : HpSystem.step env cores.hp
      (.sensor (.readState (TimedCores.snapshotOf cores.core.lock.out))) = some hp) :
    Inv (⟨hp, taken cores.core⟩, record cores .readState readings) := by
  cases step_move stepped with
  | sensor move =>
    cases move with
    | readState state at_ =>
      refine ⟨⟨inv.lp.mirrors, inv.lp.good, inv.lp.running, inv.lp.resting⟩, lock_taken inv.lock,
        inv.settled, ?_⟩
      obtain ⟨delta, progressed, same⟩ :=
        cores.hp.sensor.takeState_eq (TimedCores.snapshotOf cores.core.lock.out)
      show HpInv (cores.hp.sensor.takeState (TimedCores.snapshotOf cores.core.lock.out)) _ _
      rw [same]
      refine ⟨fun running => (running rfl).elim, ?_, by rintro ⟨⟩, by rintro ⟨⟩, by rintro ⟨⟩⟩
      intro _ clean cold isOk
      exact copied_settled inv.lock.fresh inv.settled clean cold isOk

omit [FloatOps] in
theorem inv_hp {action : HpAction} {hp : HpSystem} (inv : Inv (cores, readings))
    (sound : SoundFlag (cores, readings) (.hp action)) (untimed : TimedCores.timedHp action = false)
    (stepped : HpSystem.step env cores.hp action = some hp) :
    Inv (cores.withHp hp, readings.noted cores.core) := by
  have fresh : FreshSnapshot.Inv
      (cores.core, (readings.noted cores.core).instants.map Prod.fst) := by
    rw [noted_instants]
    exact ⟨inv.lock.locked, Seqlock.fresh_still inv.lock.fresh⟩
  have settled := settled_noted inv.lp inv.settled
  have noted : HpInv cores.hp.sensor cores.core.lock (readings.noted cores.core) :=
    inv.hp.grows rfl rfl rfl rfl fun _ member => member
  have kept : hp.sensor = cores.hp.sensor → Inv (cores.withHp hp, readings.noted cores.core) := by
    intro same
    refine ⟨inv.lp, fresh, settled, ?_⟩
    show HpInv hp.sensor cores.core.lock _
    rw [same]
    exact noted
  cases step_move stepped with
  | @sensor event _ move =>
    refine ⟨inv.lp, fresh, settled, hpInv_sensor noted move ?_ ?_⟩
    · rintro state rfl
      cases untimed
    · rintro rfl
      exact sound
  | pub running leaves move => exact kept (pub_sensor move)
  | tail => exact kept rfl
  | client move => exact kept (client_sensor move)
  | @ota pub event accepted ota running at_ inCycle moved =>
    obtain ⟨radio, same⟩ := cores.hp.otaRadio_eq event accepted
    apply kept
    rw [same]
  | reset pendingVerify => cases untimed

theorem inv_step (state : Observed) (action : FlagService.Action) (after : Observed)
    (inv : Inv state) (sound : SoundFlag state action)
    (stepped : step env state action = some after) : Inv after := by
  obtain ⟨cores, readings⟩ := state
  obtain ⟨later, history⟩ := after
  obtain ⟨moved, recorded⟩ := Runs.observe_step stepped
  simp only at moved recorded
  subst recorded
  cases action with
  | lpTimer =>
    obtain ⟨core, woken, rfl⟩ := Option.map_eq_some_iff.mp moved
    exact inv_lpTimer inv woken
  | lpStep answer =>
    obtain ⟨core, performed, rfl⟩ := Option.map_eq_some_iff.mp moved
    exact inv_lpStep inv performed
  | hpStore field value =>
    obtain ⟨core, stored, rfl⟩ := Option.map_eq_some_iff.mp moved
    exact inv_hpStore inv stored
  | getState =>
    simp only [coresStep, Option.ite_none_right_eq_some] at moved
    obtain ⟨⟨at_, -⟩, called⟩ := moved
    obtain ⟨core, begun, rfl⟩ := Option.map_eq_some_iff.mp called
    exact inv_getState inv at_ begun
  | readerStep =>
    obtain ⟨core, read, rfl⟩ := Option.map_eq_some_iff.mp moved
    exact inv_readerStep inv read
  | readState =>
    simp only [coresStep] at moved
    split at moved
    case h_1 clean returned =>
      obtain ⟨hp, read, rfl⟩ := Option.map_eq_some_iff.mp moved
      exact inv_readState inv read
    case h_2 => cases moved
  | hp action =>
    simp only [coresStep, Option.ite_none_left_eq_some, Bool.not_eq_true] at moved
    obtain ⟨untimed, moved⟩ := moved
    obtain ⟨hp, ran, rfl⟩ := Option.map_eq_some_iff.mp moved
    exact inv_hp inv sound untimed ran
  | reset pendingVerify config =>
    cases moved
    exact inv_start env _ _ pendingVerify config

end Program

/-! ## Published, acked and logged pairs -/

variable {system : HpSystem} {pair : Flt × Flt}

theorem published_eq {action : HpAction} (publishes : published system action = some pair) :
    system.sensor.pc = .sending ∧ system.sensor.cycle.values.temperature = some pair.1 ∧
      system.sensor.cycle.values.humidity = some pair.2 := by
  unfold published at publishes
  split at publishes
  · split at publishes
    case h_1 temperature humidity hasTemperature hasHumidity =>
      obtain ⟨at_, same⟩ := Option.ite_none_right_eq_some.mp publishes
      cases same
      exact ⟨at_, hasTemperature, hasHumidity⟩
    case h_2 => cases publishes
  · cases publishes

theorem delivered_eq {action : HpAction} (delivers :
    HpSystem.ackDelivered system action = some pair ∨
      HpSystem.logAppended system action = some pair) :
    system.sensor.pc = .delivering ∧ system.sensor.cycle.otaOnly = false ∧
      pair = (system.sensor.cycle.state.calTempC, system.sensor.cycle.state.calHumPct) := by
  rcases delivers with acked | logged
  · unfold HpSystem.ackDelivered at acked
    split at acked
    · obtain ⟨⟨at_, -, data⟩, same⟩ := Option.ite_none_right_eq_some.mp acked
      exact ⟨at_, data, (Option.some.inj same).symm⟩
    · cases acked
  · unfold HpSystem.logAppended at logged
    split at logged
    · obtain ⟨⟨at_, -, data⟩, same⟩ := Option.ite_none_right_eq_some.mp logged
      exact ⟨at_, data, (Option.some.inj same).symm⟩
    · cases logged

theorem HpInv.published (inv : HpInv sensor lock readings) (at_ : sensor.pc = .sending)
    (temperature : sensor.cycle.values.temperature = some pair.1)
    (humidity : sensor.cycle.values.humidity = some pair.2) :
    Real readings.seen readings.lp.computed sensor.cycle.state.heartbeatCounter pair := by
  have data : sensor.cycle.otaOnly = false := by
    by_contra otaOnly
    rw [inv.empty at_ (by simpa using otaOnly)] at temperature
    cases temperature
  obtain ⟨real, values⟩ := inv.holds (by rw [at_]; rfl) data
  obtain ⟨sameTemperature, sameHumidity⟩ := values (.inr at_)
  have same : pair = (sensor.cycle.state.calTempC, sensor.cycle.state.calHumPct) :=
    Prod.ext (Option.some.inj (temperature.symm.trans sameTemperature))
      (Option.some.inj (humidity.symm.trans sameHumidity))
  rw [same]
  exact real

theorem realReading_of_inv (state : Observed) (action : FlagService.Action) (inv : Inv state) :
    RealReading state action := by
  cases action with
  | hp action =>
    rintro pair (publishes | delivers)
    · obtain ⟨at_, temperature, humidity⟩ := published_eq publishes
      exact inv.hp.published at_ temperature humidity
    · obtain ⟨at_, data, same⟩ := delivered_eq delivers
      rw [same]
      exact (inv.hp.holds (by rw [at_]; rfl) data).real
  | _ => trivial

/-- In every run whose branches go by clean states with the sensor OK, every pair that
is published, acked or logged was computed from a read in the LP cycle of the state. -/
theorem realReadings_run [FloatOps] (env : HpEnv) (nvs : Nvs) (cyclesStarted : Nat)
    (pendingVerify : Bool) (config : Shared) (actions : List FlagService.Action)
    (met : Runs.Along (step env) SoundFlag
      (start (HpSystem.boot env nvs cyclesStarted pendingVerify) config, {}) actions) :
    Runs.Along (step env) RealReading
      (start (HpSystem.boot env nvs cyclesStarted pendingVerify) config, {}) actions :=
  Runs.along_of_invariant Inv inv_step
    (fun state action inv _ => realReading_of_inv state action inv)
    (inv_start env nvs cyclesStarted pendingVerify config) met

/-! ## Runs -/

def soundFlag (state : Observed) : FlagService.Action → Bool
  | .hp (.sensor .branch) => !takesFlag state.1.hp || (state.2.clean &&
      (state.1.core.lock.out (.u .sensorOk) : Nat) != 0 &&
      (state.1.core.lock.out (.u .heaterActive) : Nat) == 0)
  | _ => true

theorem soundFlag_iff (state : Observed) (action : FlagService.Action) :
    soundFlag state action = true ↔ SoundFlag state action := by
  unfold soundFlag SoundFlag
  split
  · simp [imp_iff_not_or, and_assoc]
  · simp

instance (state : Observed) (action : FlagService.Action) : Decidable (SoundFlag state action) :=
  decidable_of_iff _ (soundFlag_iff state action)

open FlagService hiding step in
/-- The second LP cycle cannot read the sensor, and flags that it is failing. -/
def failureFlagged : List FlagService.Action :=
  firstFlagServiced ++ .lpTimer :: List.replicate 27 (.lpStep ⟨true, none⟩) ++
    hpSteps [.sensor (.wake true), .sensor (.attachGate true)] ++ readAndBranch

theorem realReadings_firstFlag :
    (Runs.run (@step exactFloat benchEnv)
        (start (HpSystem.boot benchEnv Nvs.erased 0 false) (TimedCores.heaterEvery 3), {})
        FlagService.firstFlagServiced).isSome = true ∧
      Runs.Along (@step exactFloat benchEnv) RealReading
        (start (HpSystem.boot benchEnv Nvs.erased 0 false) (TimedCores.heaterEvery 3), {})
        FlagService.firstFlagServiced :=
  ⟨by decide +kernel, @realReadings_run exactFloat benchEnv Nvs.erased 0 false
    (TimedCores.heaterEvery 3) FlagService.firstFlagServiced (by decide +kernel)⟩

theorem not_realReading {state : Observed} {created : Bool}
    (publishes : (published state.1.hp (.sensor (.send created))).isSome = true)
    (older : ∀ entry ∈ state.2.lp.computed,
      u32 entry.1 ≠ state.1.hp.sensor.cycle.state.heartbeatCounter) :
    ¬ RealReading state (.hp (.sensor (.send created))) := by
  intro real
  obtain ⟨pair, publishes⟩ := Option.isSome_iff_exists.mp publishes
  obtain ⟨cycle, -, beat, own⟩ := real pair (.inl publishes)
  exact older _ own beat.symm

theorem failure_published :
    ∃ final,
      Runs.run (@step exactFloat benchEnv)
          (start (HpSystem.boot benchEnv Nvs.erased 0 false) (TimedCores.heaterEvery 3), {})
          failureFlagged = some final ∧
        final.2.clean = true ∧ (final.1.core.lock.out (.u .sensorOk) : Nat) = 0 ∧
        (final.1.core.lock.out (.u .heaterActive) : Nat) = 0 ∧
        ¬ RealReading final (.hp (.sensor (.send true))) := by
  obtain ⟨final, ran, reached⟩ := Runs.exists_final
    (fun final : Observed =>
      decide (final.2.clean = true ∧ (final.1.core.lock.out (.u .sensorOk) : Nat) = 0 ∧
        (final.1.core.lock.out (.u .heaterActive) : Nat) = 0 ∧
        (published final.1.hp (.sensor (.send true))).isSome = true ∧
        ∀ entry ∈ final.2.lp.computed,
          u32 entry.1 ≠ final.1.hp.sensor.cycle.state.heartbeatCounter))
    (show (Runs.run (@step exactFloat benchEnv)
      (start (HpSystem.boot benchEnv Nvs.erased 0 false) (TimedCores.heaterEvery 3), {})
      failureFlagged).any _ = true by decide +kernel)
  obtain ⟨clean, failing, cold, publishes, older⟩ := of_decide_eq_true reached
  exact ⟨final, ran, clean, failing, cold, not_realReading publishes older⟩

end SleepySensor.RealReadings
