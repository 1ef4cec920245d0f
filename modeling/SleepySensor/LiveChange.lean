import SleepySensor.Lib.Interference
import SleepySensor.LpCycles
import SleepySensor.RuntimeConfig

/-!
# A configuration change during a cycle

`lp_sensor_core_apply_config` stores its eight words while the LP core may be
anywhere in a cycle.  Three of them are loaded twice in a cycle.
-/

set_option autoImplicit false

namespace SleepySensor.LiveChange

open SleepySensor.LpCore Snapshot FloatOps

/-! ## One cycle -/

/-- What the LP core does besides its memory. -/
inductive Sent where
  | delay (us : Nat)
  | command (cmd : Nat)
  | read
  | wakeup
  deriving DecidableEq, Repr

/-- The sensor answers by all that was sent to it. -/
structure Sensor where
  acknowledges : List Sent → Bool
  answers : List Sent → Option Raw6

structure World where
  memory : Shared
  lastConsumedAckSeq : Nat
  sent : List Sent

def act (sensor : Sensor) (world : World) : (op : LpOp) → op.Res × World
  | .load field => (world.memory field, world)
  | .store field value =>
    ((), { world with memory := Function.update world.memory field value })
  | .loadLastConsumedAckSeq => (world.lastConsumedAckSeq, world)
  | .storeLastConsumedAckSeq value => ((), { world with lastConsumedAckSeq := value })
  | .delayUs us => ((), { world with sent := world.sent ++ [.delay us] })
  | .i2cWrite cmd =>
    (sensor.acknowledges (world.sent ++ [.command cmd]),
      { world with sent := world.sent ++ [.command cmd] })
  | .i2cRead =>
    (sensor.answers (world.sent ++ [.read]), { world with sent := world.sent ++ [.read] })
  | .wakeupMainProcessor => ((), { world with sent := world.sent ++ [.wakeup] })

abbrev ConfigStore : Type := (field : Field) × field.Val

def store (world : World) (stored : ConfigStore) : World :=
  { world with memory := Function.update world.memory stored.1 stored.2 }

@[simp] theorem store_memory (world : World) (stored : ConfigStore) :
    (store world stored).memory = Function.update world.memory stored.1 stored.2 := rfl

/-- `lp_sensor_core_apply_config`. -/
def applyConfig (config : LpConfig) : List ConfigStore :=
  [⟨.u .sensorSamples, config.sensorSamples⟩, ⟨.f .tempOffsetC, config.tempOffsetC⟩,
    ⟨.f .tempMinChangeC, config.tempMinChangeC⟩, ⟨.f .rhOffsetPct, config.rhOffsetPct⟩,
    ⟨.f .rhMinChangePct, config.rhMinChangePct⟩, ⟨.u .maxSkipCycles, config.maxSkipCycles⟩,
    ⟨.u .heaterPeriodCycles, config.heaterPeriodCycles⟩,
    ⟨.u .highRhTriggerCycles, config.highRhTriggerCycles⟩]

def word (config : LpConfig) : (field : Field) → Option field.Val
  | .u .sensorSamples => some config.sensorSamples
  | .f .tempOffsetC => some config.tempOffsetC
  | .f .tempMinChangeC => some config.tempMinChangeC
  | .f .rhOffsetPct => some config.rhOffsetPct
  | .f .rhMinChangePct => some config.rhMinChangePct
  | .u .maxSkipCycles => some config.maxSkipCycles
  | .u .heaterPeriodCycles => some config.heaterPeriodCycles
  | .u .highRhTriggerCycles => some config.highRhTriggerCycles
  | _ => none

def configField : Field → Bool
  | .u .sensorSamples | .u .maxSkipCycles => true
  | .u .heaterPeriodCycles | .u .highRhTriggerCycles => true
  | .f .tempOffsetC | .f .tempMinChangeC | .f .rhOffsetPct | .f .rhMinChangePct => true
  | _ => false

def configOf (memory : Shared) : LpConfig :=
  { sensorSamples := memory (.u .sensorSamples)
    tempOffsetC := memory (.f .tempOffsetC)
    tempMinChangeC := memory (.f .tempMinChangeC)
    rhOffsetPct := memory (.f .rhOffsetPct)
    rhMinChangePct := memory (.f .rhMinChangePct)
    maxSkipCycles := memory (.u .maxSkipCycles)
    heaterPeriodCycles := memory (.u .heaterPeriodCycles)
    highRhTriggerCycles := memory (.u .highRhTriggerCycles) }

def World.configured (world : World) (config : LpConfig) : World :=
  { world with memory := fun field => (word config field).getD (world.memory field) }

abbrev LpEvent : Type := Prog.Event LpOp LpOp.Res

def loadedU (field : UField) (value : Nat) : LpEvent := ⟨.load (.u field), value⟩
def loadedF (field : FField) (value : Flt) : LpEvent := ⟨.load (.f field), value⟩
def storedF (field : FField) (value : Flt) : LpEvent := ⟨.store (.f field) value, ()⟩

section Cycle

variable [FloatOps]

/-- A cycle with the eight stores somewhere between its operations. -/
def cycle (sensor : Sensor) (new : LpConfig) (schedule : List Nat) (world : World) :
    Prog.Outcome LpOp LpOp.Res World Unit :=
  Prog.interleave (act sensor) store main schedule (applyConfig new) world

def uninterrupted (sensor : Sensor) (world : World) : Prog.Outcome LpOp LpOp.Res World Unit :=
  Prog.interleave (act sensor) store main [] [] world

/-- The calibrated RH before any heating is above the threshold. -/
def humid (humPct offset : Flt) : Bool :=
  kHighRhThreshold.lt (clampf (add humPct offset) (lit 0) (lit 100))

/-- Where a word changes between its two loads, the first of them was for a
decision that the last value, or for a schedule either value, makes too. -/
structure Unnoticed (trace : List LpEvent) : Prop where
  offset : ∀ humPct first last,
    [storedF .rawHumPct humPct, loadedF .rhOffsetPct first, loadedF .rhOffsetPct last].Sublist
      trace → humid humPct first = humid humPct last
  period : ∀ first count last,
    [loadedU .heaterPeriodCycles first, loadedU .cyclesSinceHeater count,
      loadedU .heaterPeriodCycles last].Sublist trace → first = last ∨ 0 < last ∨ first ≤ count
  trigger : ∀ first count last,
    [loadedU .highRhTriggerCycles first, loadedU .highRhCycles count,
      loadedU .highRhTriggerCycles last].Sublist trace → first = last ∨ 0 < last ∨ first ≤ count

end Cycle

/-- Every field has either its old or its new value. -/
def Mix (old new config : LpConfig) : Prop :=
  ∀ field, word config field = word old field ∨ word config field = word new field

/-- All that the LP core leaves is the same: the transfers, the delays and the
wake-up of the cycle, and every word but the configuration. -/
structure SameOutcome (world other : World) : Prop where
  sent : world.sent = other.sent
  lastConsumedAckSeq : world.lastConsumedAckSeq = other.lastConsumedAckSeq
  memory : ∀ field, configField field = false → world.memory field = other.memory field

/-! ## Words of the configuration -/

theorem word_none_iff {config : LpConfig} {field : Field} :
    word config field = none ↔ configField field = false := by
  rcases field with field | field <;> cases field <;> simp [word, configField]

theorem eq_of_word {config other : LpConfig}
    (same : ∀ field, word config field = word other field) : config = other := by
  obtain ⟨samples, tempOffset, tempMinChange, rhOffset, rhMinChange, maxSkip, period, trigger⟩ :=
    config
  obtain rfl := Option.some.inj (same (.u .sensorSamples))
  obtain rfl := Option.some.inj (same (.f .tempOffsetC))
  obtain rfl := Option.some.inj (same (.f .tempMinChangeC))
  obtain rfl := Option.some.inj (same (.f .rhOffsetPct))
  obtain rfl := Option.some.inj (same (.f .rhMinChangePct))
  obtain rfl := Option.some.inj (same (.u .maxSkipCycles))
  obtain rfl := Option.some.inj (same (.u .heaterPeriodCycles))
  obtain rfl := Option.some.inj (same (.u .highRhTriggerCycles))
  rfl

theorem word_configOf (memory : Shared) {field : Field} (known : configField field = true) :
    word (configOf memory) field = some (memory field) := by
  rcases field with field | field <;> cases field <;> first | rfl | cases known

theorem word_applyConfig {config : LpConfig} {stored : ConfigStore}
    (member : stored ∈ applyConfig config) : word config stored.1 = some stored.2 := by
  simp only [applyConfig, List.mem_cons, List.not_mem_nil, or_false] at member
  rcases member with rfl | rfl | rfl | rfl | rfl | rfl | rfl | rfl <;> rfl

def SafeOp : LpOp → Prop
  | .store field _ => configField field = false
  | _ => True

def FreeOp : LpOp → Prop
  | .load field => configField field = false
  | _ => True

/-- What the loads of the configuration answer in a cycle with this one. -/
def fixed (config : LpConfig) : (op : LpOp) → Option op.Res
  | .load field => word config field
  | _ => none

theorem fixed_free (config : LpConfig) (op : LpOp) (free : FreeOp op) : fixed config op = none := by
  cases op with
  | load field => exact word_none_iff.mpr free
  | _ => rfl

/-! ## A cycle and an uninterrupted one -/

section Relation

variable {sensor : Sensor} {config : LpConfig}

/-- The other world has this configuration, and is the same otherwise. -/
structure Alike (config : LpConfig) (world other : World) : Prop where
  sent : world.sent = other.sent
  lastConsumedAckSeq : world.lastConsumedAckSeq = other.lastConsumedAckSeq
  memory : ∀ field, other.memory field = (word config field).getD (world.memory field)

theorem alike_configured (config : LpConfig) (world : World) :
    Alike config world (world.configured config) :=
  ⟨rfl, rfl, fun _ => rfl⟩

theorem Alike.store {world other : World} (alike : Alike config world other) {new : LpConfig}
    {stored : ConfigStore} (member : stored ∈ applyConfig new) :
    Alike config (store world stored) other := by
  refine ⟨alike.sent, alike.lastConsumedAckSeq, fun field => ?_⟩
  rw [alike.memory field, store_memory]
  by_cases same : field = stored.1
  · subst same
    have known : word config stored.1 ≠ none := by
      rw [Ne, word_none_iff, ← @word_none_iff new, word_applyConfig member]
      simp
    obtain ⟨value, found⟩ := Option.ne_none_iff_exists'.mp known
    rw [found]
    rfl
  · rw [Function.update_of_ne same]

theorem Alike.act {world other : World} (alike : Alike config world other) (op : LpOp)
    (safe : SafeOp op) :
    Alike config (act sensor world op).2 (act sensor other op).2 ∧
      ((act sensor world op).1 = (act sensor other op).1 ∨
        fixed config op = some (act sensor other op).1) := by
  have sent := alike.sent
  cases op with
  | load field =>
    refine ⟨alike, ?_⟩
    show world.memory field = other.memory field ∨ word config field = some (other.memory field)
    rw [alike.memory field]
    cases word config field with
    | none => exact .inl rfl
    | some value => exact .inr rfl
  | store field value =>
    refine ⟨⟨sent, alike.lastConsumedAckSeq, fun other_ => ?_⟩, .inl rfl⟩
    show Function.update other.memory field value other_ =
      (word config other_).getD (Function.update world.memory field value other_)
    by_cases same : other_ = field
    · subst same
      rw [Function.update_self, Function.update_self, word_none_iff.mpr safe]
      rfl
    · rw [Function.update_of_ne same, Function.update_of_ne same]
      exact alike.memory other_
  | loadLastConsumedAckSeq => exact ⟨alike, .inl alike.lastConsumedAckSeq⟩
  | storeLastConsumedAckSeq value => exact ⟨⟨sent, rfl, alike.memory⟩, .inl rfl⟩
  | delayUs us =>
    refine ⟨⟨?_, alike.lastConsumedAckSeq, alike.memory⟩, .inl rfl⟩
    exact congrArg (· ++ [Sent.delay us]) sent
  | i2cWrite cmd =>
    refine ⟨⟨?_, alike.lastConsumedAckSeq, alike.memory⟩, .inl ?_⟩
    · exact congrArg (· ++ [Sent.command cmd]) sent
    · exact congrArg (fun log => sensor.acknowledges (log ++ [Sent.command cmd])) sent
  | i2cRead =>
    refine ⟨⟨?_, alike.lastConsumedAckSeq, alike.memory⟩, .inl ?_⟩
    · exact congrArg (· ++ [Sent.read]) sent
    · exact congrArg (fun log => sensor.answers (log ++ [Sent.read])) sent
  | wakeupMainProcessor =>
    refine ⟨⟨?_, alike.lastConsumedAckSeq, alike.memory⟩, .inl rfl⟩
    exact congrArg (· ++ [Sent.wakeup]) sent

theorem Alike.sameOutcome {world other : World} (alike : Alike config world other) :
    SameOutcome world other := by
  refine ⟨alike.sent, alike.lastConsumedAckSeq, fun field rest => ?_⟩
  rw [alike.memory field, word_none_iff.mpr rest]
  rfl

def Between (old new : LpConfig) (world : World) : Prop :=
  ∀ field, configField field = true →
    word old field = some (world.memory field) ∨ word new field = some (world.memory field)

theorem Between.store {old new : LpConfig} {world : World} (between : Between old new world)
    {stored : ConfigStore} (member : stored ∈ applyConfig new) :
    Between old new (store world stored) := by
  intro field known
  rw [store_memory]
  by_cases same : field = stored.1
  · subst same
    rw [Function.update_self]
    exact .inr (word_applyConfig member)
  · rw [Function.update_of_ne same]
    exact between field known

theorem Between.act {old new : LpConfig} {world : World} (between : Between old new world)
    (op : LpOp) (safe : SafeOp op) : Between old new (act sensor world op).2 := by
  cases op with
  | store field value =>
    intro other known
    show word old other = some (Function.update world.memory field value other) ∨
      word new other = some (Function.update world.memory field value other)
    by_cases same : other = field
    · subst same
      rw [show configField other = false from safe] at known
      cases known
    · rw [Function.update_of_ne same]
      exact between other known
  | _ => exact between

/-- A load answers with the old or the new value. -/
def OldOrNew (old new : LpConfig) : LpEvent → Prop
  | ⟨.load field, value⟩ =>
    configField field = true → word old field = some value ∨ word new field = some value
  | _ => True

theorem Between.answers {old new : LpConfig} {world : World} (between : Between old new world)
    (op : LpOp) : OldOrNew old new ⟨op, (LiveChange.act sensor world op).1⟩ := by
  cases op with
  | load field => exact between field
  | _ => trivial

end Relation

/-! ## The operations of the program -/

section Operations

theorem safe_of_cycle (op : LpOp) (cycle : CycleOp op) : SafeOp op := by
  cases op with
  | store field value =>
    have apart : ∀ field ∈ cycleStores, configField field = false := by decide
    exact apart field cycle
  | _ => trivial

theorem free_of_sensor {cmds : List Nat} (op : LpOp) (sensor : Snapshot.SensorOp cmds op) :
    FreeOp op := by
  cases op with
  | load field => exact sensor.elim
  | _ => trivial

theorem increment_free {field : UField} (plain : configField (.u field) = false) :
    (increment field).Only FreeOp :=
  Prog.only_bind (Prog.only_perform plain) fun _ => Prog.only_perform trivial

theorem increment_safe {field : UField} (plain : configField (.u field) = false) :
    (increment field).Only SafeOp :=
  Prog.only_bind (Prog.only_perform trivial) fun _ => Prog.only_perform plain

def AckOp (op : LpOp) : Prop := SafeOp op ∧ FreeOp op

theorem consumeAck_only : consumeAck.Only AckOp := by
  refine Prog.only_bind (Prog.only_perform ⟨trivial, rfl⟩) fun hpAckSeq => ?_
  refine Prog.only_bind (Prog.only_perform ⟨trivial, trivial⟩) fun lastConsumed => ?_
  split
  · refine Prog.only_bind (Prog.only_perform ⟨trivial, rfl⟩) fun _ => ?_
    refine Prog.only_bind (Prog.only_perform ⟨rfl, trivial⟩) fun _ => ?_
    refine Prog.only_bind (Prog.only_perform ⟨trivial, rfl⟩) fun _ => ?_
    refine Prog.only_bind (Prog.only_perform ⟨rfl, trivial⟩) fun _ => ?_
    refine Prog.only_bind (Prog.only_perform ⟨rfl, trivial⟩) fun _ => ?_
    exact Prog.only_bind (Prog.only_perform ⟨trivial, rfl⟩) fun _ =>
      Prog.only_perform ⟨trivial, trivial⟩
  · trivial

theorem recordOutcome_free (ok : Bool) : (recordOutcome ok).Only FreeOp := by
  refine Prog.only_bind (increment_free rfl) fun _ => ?_
  refine Prog.only_bind (Prog.only_perform trivial) fun _ => ?_
  cases ok with
  | true => exact Prog.only_perform trivial
  | false => exact increment_free rfl

theorem recordHeaterRun_free (run : Option HeaterRun) : (recordHeaterRun run).Only FreeOp := by
  cases run with
  | none => trivial
  | some run =>
    refine Prog.only_bind (Prog.only_perform trivial) fun _ => ?_
    refine Prog.only_bind (Prog.only_perform trivial) fun _ => ?_
    refine Prog.only_bind (Prog.only_perform rfl) fun _ => ?_
    refine Prog.only_bind (Prog.only_perform trivial) fun _ => ?_
    refine Prog.only_bind (Prog.only_perform trivial) fun _ => ?_
    refine Prog.only_bind (Prog.only_perform trivial) fun _ => ?_
    exact increment_free rfl

theorem countSkip_free (skipThisCycle : Bool) : (countSkip skipThisCycle).Only FreeOp := by
  cases skipThisCycle with
  | false => trivial
  | true => exact increment_free rfl

section Program

variable [FloatOps]

theorem main_safe : main.Only SafeOp := by
  refine Prog.only_bind (Prog.only_mono (fun _ ack => ack.1) consumeAck_only) fun _ => ?_
  refine Prog.only_bind (Prog.only_perform trivial) fun wasOk => ?_
  refine Prog.only_bind (increment_safe rfl) fun _ => ?_
  refine Prog.only_bind (Prog.only_mono safe_of_cycle (cycleBody_cycle wasOk)) fun _ => ?_
  refine Prog.only_bind (increment_safe rfl) fun _ => ?_
  refine Prog.only_bind (Prog.only_perform trivial) fun flag => ?_
  split
  · exact Prog.only_perform trivial
  · trivial

theorem countHighRh_free (precalHum : Flt) : (countHighRh precalHum).Only FreeOp := by
  unfold countHighRh
  split
  · exact increment_free rfl
  · exact Prog.only_perform trivial

theorem maintain_free (due : HeaterDue) (reading : Reading) :
    (maintain due reading).Only FreeOp := by
  unfold maintain
  split
  · refine Prog.only_bind (Prog.only_perform trivial) fun _ => ?_
    refine Prog.only_bind (increment_free rfl) fun _ => ?_
    refine Prog.only_bind (Prog.only_mono free_of_sensor (heaterRun_sensor _)) fun run => ?_
    refine Prog.only_bind (increment_free rfl) fun _ => ?_
    refine Prog.only_bind (recordHeaterRun_free run) fun _ => ?_
    refine Prog.only_bind (Prog.only_perform trivial) fun _ => ?_
    refine Prog.only_bind (Prog.only_perform trivial) fun _ => ?_
    exact Prog.only_bind (Prog.only_perform trivial) fun _ => trivial
  · trivial

end Program

end Operations

/-! ## Loads that settle on one value -/

section Settled

variable {trace : List LpEvent}

theorem settled_free {α : Type} {program : LpProg α} {result : α} (config : LpConfig)
    (traces : program.Traces trace result) (free : program.Only FreeOp) :
    program.Settled (fixed config) trace result :=
  traces.settled_of_only free (fixed_free config)

/-- `heaterDue` after its first load. -/
def dueFrom (schedule counter : UField) (first : Nat) : LpProg Bool :=
  if 0 < first then
    .call (.load (.u counter)) fun count =>
      .call (.load (.u schedule)) fun last => .ret (decide ((last : Nat) ≤ count))
  else .ret false

theorem heaterDue_eq (schedule counter : UField) :
    heaterDue schedule counter = .call (.load (.u schedule)) (dueFrom schedule counter) := rfl

theorem dueFrom_zero {schedule counter : UField} {first : Nat} (zero : ¬0 < first) :
    dueFrom schedule counter first = .ret false := if_neg zero

theorem dueFrom_pos {schedule counter : UField} {first : Nat} (positive : 0 < first) :
    dueFrom schedule counter first =
      .call (.load (.u counter)) fun count =>
        .call (.load (.u schedule)) fun last => .ret (decide ((last : Nat) ≤ count)) :=
  if_pos positive

/-- Either the last value decides the test for zero as the first one did, or it
is zero and the first one decides the comparison as zero does. -/
theorem heaterDue_settled {schedule counter : UField} {result : Bool}
    (plain : configField (.u counter) = false)
    (traces : (heaterDue schedule counter).Traces trace result)
    (unnoticed : ∀ first count last,
      [loadedU schedule first, loadedU counter count, loadedU schedule last].Sublist trace →
        first = last ∨ 0 < last ∨ first ≤ count) :
    ∃ value, loadedU schedule value ∈ trace ∧ ∀ config, word config (.u schedule) = some value →
      (heaterDue schedule counter).Settled (fixed config) trace result := by
  rw [heaterDue_eq] at traces ⊢
  obtain ⟨first, rest, rfl, traces⟩ := traces
  have fixedLoad : ∀ config value, word config (.u schedule) = some value →
      ∀ other ∈ fixed config (.load (.u schedule)), other = value := by
    intro config value known other given
    exact (Option.some.inj (known.symm.trans given)).symm
  by_cases positive : 0 < (first : Nat)
  · rw [dueFrom_pos positive] at traces
    obtain ⟨count, rest, rfl, last, rest, rfl, rfl, rfl⟩ := traces
    have settles : ∀ value : Nat, 0 < value →
        decide (value ≤ count) = decide ((last : Nat) ≤ count) → ∀ config,
          word config (.u schedule) = some value →
            (Prog.call (.load (.u schedule)) (dueFrom schedule counter)).Settled (fixed config)
              [loadedU schedule first, loadedU counter count, loadedU schedule last]
              (decide ((last : Nat) ≤ count)) := by
      intro value positive' ends config known
      refine ⟨first, _, rfl, ?_, ?_⟩
      · intro other given
        rw [fixedLoad config value known other given, dueFrom_pos positive, dueFrom_pos positive']
      · rw [dueFrom_pos positive]
        refine ⟨count, _, rfl, ?_, last, [], rfl, ?_, rfl, rfl⟩
        · intro other given
          rw [fixed_free config (.load (.u counter)) plain] at given
          cases given
        · intro other given
          rw [fixedLoad config value known other given]
          exact congrArg Prog.ret ends
    rcases unnoticed first count last (List.Sublist.refl _) with same | some_ | reached
    · exact ⟨first, List.mem_cons_self, settles first positive (by rw [same])⟩
    · exact ⟨last, by simp [loadedU], settles last some_ rfl⟩
    · by_cases some_ : 0 < (last : Nat)
      · exact ⟨last, by simp [loadedU], settles last some_ rfl⟩
      · refine ⟨first, List.mem_cons_self, settles first positive ?_⟩
        rw [decide_eq_decide]
        exact iff_of_true reached ((Nat.eq_zero_of_not_pos some_).le.trans (Nat.zero_le _))
  · rw [dueFrom_zero positive] at traces
    obtain ⟨rfl, rfl⟩ := traces
    refine ⟨first, List.mem_cons_self, fun config known => ⟨first, [], rfl, ?_, ?_⟩⟩
    · intro other given
      rw [fixedLoad config first known other given]
    · rw [dueFrom_zero positive]
      exact ⟨rfl, rfl⟩

/-- The loads of a trace are those of a configuration. -/
def Agrees (config : LpConfig) (trace : List LpEvent) : Prop :=
  ∀ event ∈ trace, ∀ other ∈ fixed config event.1, other = event.2

theorem agrees_nil (config : LpConfig) : Agrees config [] := by
  intro event member
  cases member

theorem Agrees.append {config : LpConfig} {lead rest : List LpEvent} (first : Agrees config lead)
    (later : Agrees config rest) : Agrees config (lead ++ rest) := by
  intro event member
  rcases List.mem_append.mp member with member | member
  · exact first event member
  · exact later event member

theorem Agrees.load {config : LpConfig} {field : Field} {value : field.Val} {rest : List LpEvent}
    (known : word config field = some value) (later : Agrees config rest) :
    Agrees config (⟨.load field, value⟩ :: rest) := by
  intro event member
  rcases List.mem_cons.mp member with rfl | member
  · intro other given
    exact (Option.some.inj (known.symm.trans given)).symm
  · exact later event member

theorem Agrees.free {config : LpConfig} {op : LpOp} {answer : op.Res} {rest : List LpEvent}
    (plain : FreeOp op) (later : Agrees config rest) : Agrees config (⟨op, answer⟩ :: rest) := by
  intro event member
  rcases List.mem_cons.mp member with rfl | member
  · intro other given
    rw [fixed_free config op plain] at given
    cases given
  · exact later event member

theorem agrees_of_only {α : Type} {program : LpProg α} {result : α} (config : LpConfig)
    (traces : program.Traces trace result) (free : program.Only FreeOp) : Agrees config trace := by
  intro event member other given
  rw [fixed_free config event.1 (traces.only free event member)] at given
  cases given

/-- The words of a configuration that are not the old ones were loaded. -/
structure Taken (old chosen : LpConfig) (trace : List LpEvent) : Prop where
  sensorSamples : chosen.sensorSamples = old.sensorSamples ∨
    loadedU .sensorSamples chosen.sensorSamples ∈ trace
  tempOffsetC : chosen.tempOffsetC = old.tempOffsetC ∨
    loadedF .tempOffsetC chosen.tempOffsetC ∈ trace
  tempMinChangeC : chosen.tempMinChangeC = old.tempMinChangeC ∨
    loadedF .tempMinChangeC chosen.tempMinChangeC ∈ trace
  rhOffsetPct : chosen.rhOffsetPct = old.rhOffsetPct ∨
    loadedF .rhOffsetPct chosen.rhOffsetPct ∈ trace
  rhMinChangePct : chosen.rhMinChangePct = old.rhMinChangePct ∨
    loadedF .rhMinChangePct chosen.rhMinChangePct ∈ trace
  maxSkipCycles : chosen.maxSkipCycles = old.maxSkipCycles ∨
    loadedU .maxSkipCycles chosen.maxSkipCycles ∈ trace
  heaterPeriodCycles : chosen.heaterPeriodCycles = old.heaterPeriodCycles ∨
    loadedU .heaterPeriodCycles chosen.heaterPeriodCycles ∈ trace
  highRhTriggerCycles : chosen.highRhTriggerCycles = old.highRhTriggerCycles ∨
    loadedU .highRhTriggerCycles chosen.highRhTriggerCycles ∈ trace

theorem Taken.mono {old chosen : LpConfig} {trace wider : List LpEvent}
    (taken : Taken old chosen trace) (within : trace ⊆ wider) : Taken old chosen wider :=
  ⟨taken.sensorSamples.imp id (within ·), taken.tempOffsetC.imp id (within ·),
    taken.tempMinChangeC.imp id (within ·), taken.rhOffsetPct.imp id (within ·),
    taken.rhMinChangePct.imp id (within ·), taken.maxSkipCycles.imp id (within ·),
    taken.heaterPeriodCycles.imp id (within ·), taken.highRhTriggerCycles.imp id (within ·)⟩

theorem Taken.mix {old new chosen : LpConfig} {trace : List LpEvent}
    (taken : Taken old chosen trace) (loads : ∀ event ∈ trace, OldOrNew old new event) :
    Mix old new chosen := by
  have u : ∀ (field : UField) (value before : Nat), configField (.u field) = true →
      word old (.u field) = some before → word chosen (.u field) = some value →
      value = before ∨ loadedU field value ∈ trace →
      word chosen (.u field) = word old (.u field) ∨
        word chosen (.u field) = word new (.u field) := by
    intro field value before known isOld is origin
    rw [is]
    rcases origin with rfl | member
    · exact .inl isOld.symm
    · exact (loads _ member known).imp Eq.symm Eq.symm
  have f : ∀ (field : FField) (value before : Flt), configField (.f field) = true →
      word old (.f field) = some before → word chosen (.f field) = some value →
      value = before ∨ loadedF field value ∈ trace →
      word chosen (.f field) = word old (.f field) ∨
        word chosen (.f field) = word new (.f field) := by
    intro field value before known isOld is origin
    rw [is]
    rcases origin with rfl | member
    · exact .inl isOld.symm
    · exact (loads _ member known).imp Eq.symm Eq.symm
  intro field
  rcases field with field | field
  · cases field with
    | sensorSamples => exact u _ _ _ rfl rfl rfl taken.sensorSamples
    | maxSkipCycles => exact u _ _ _ rfl rfl rfl taken.maxSkipCycles
    | heaterPeriodCycles => exact u _ _ _ rfl rfl rfl taken.heaterPeriodCycles
    | highRhTriggerCycles => exact u _ _ _ rfl rfl rfl taken.highRhTriggerCycles
    | _ => exact .inl rfl
  · cases field with
    | tempOffsetC => exact f _ _ _ rfl rfl rfl taken.tempOffsetC
    | tempMinChangeC => exact f _ _ _ rfl rfl rfl taken.tempMinChangeC
    | rhOffsetPct => exact f _ _ _ rfl rfl rfl taken.rhOffsetPct
    | rhMinChangePct => exact f _ _ _ rfl rfl rfl taken.rhMinChangePct
    | _ => exact .inl rfl

theorem withinSkipBudget_agrees (old : LpConfig) {same : Bool} {result : Bool}
    (traces : (withinSkipBudget same).Traces trace result) :
    ∃ maxSkip, (maxSkip = old.maxSkipCycles ∨ loadedU .maxSkipCycles maxSkip ∈ trace) ∧
      ∀ config : LpConfig, config.maxSkipCycles = maxSkip → Agrees config trace := by
  cases same with
  | false =>
    obtain ⟨rfl, rfl⟩ := traces
    exact ⟨old.maxSkipCycles, .inl rfl, fun config _ => agrees_nil config⟩
  | true =>
    obtain ⟨skipped, rest, rfl, maxSkip, rest, rfl, rfl, rfl⟩ := traces
    refine ⟨maxSkip, .inr (by simp [loadedU]), fun config same => ?_⟩
    exact .free rfl (.load (congrArg some same) (agrees_nil config))

section Program

variable [FloatOps]

theorem sameAsPrevDelivered_agrees (old : LpConfig) {calTemp calHum : Flt} {result : Bool}
    (traces : (sameAsPrevDelivered calTemp calHum).Traces trace result) :
    ∃ tempMinChange rhMinChange, loadedF .tempMinChangeC tempMinChange ∈ trace ∧
      (rhMinChange = old.rhMinChangePct ∨ loadedF .rhMinChangePct rhMinChange ∈ trace) ∧
      ∀ config : LpConfig, config.tempMinChangeC = tempMinChange →
        config.rhMinChangePct = rhMinChange → Agrees config trace := by
  obtain ⟨prevTemp, rest, rfl, prevHum, rest, rfl, tempMinChange, rest, rfl, traces⟩ := traces
  change (ite _ _ _ : LpProg Bool).Traces rest result at traces
  have lead : ∀ (config : LpConfig) (rest : List LpEvent),
      config.tempMinChangeC = tempMinChange → Agrees config rest →
        Agrees config (loadedF .prevDeliveredTempC prevTemp ::
          loadedF .prevDeliveredHumPct prevHum :: loadedF .tempMinChangeC tempMinChange ::
            rest) := by
    intro config rest same later
    exact .free rfl (.free rfl (.load (congrArg some same) later))
  split at traces
  · obtain ⟨rhMinChange, rest, rfl, rfl, rfl⟩ := traces
    refine ⟨tempMinChange, rhMinChange, by simp [loadedF], .inr (by simp [loadedF]), ?_⟩
    intro config same same'
    exact lead config _ same (.load (congrArg some same') (agrees_nil config))
  · obtain ⟨rfl, rfl⟩ := traces
    refine ⟨tempMinChange, old.rhMinChangePct, by simp [loadedF], .inl rfl, ?_⟩
    intro config same _
    exact lead config _ same (agrees_nil config)

/-- The same configuration but for the sample count and the heater schedule. -/
def rescheduled (config : LpConfig) (samples period trigger : Nat) : LpConfig :=
  { config with
    sensorSamples := samples
    heaterPeriodCycles := period
    highRhTriggerCycles := trigger }

theorem calibrateAndDecide_settled (old : LpConfig) {reading : Reading} {result : Bool}
    (traces : (calibrateAndDecide reading).Traces trace result) :
    ∃ chosen, Taken old chosen trace ∧ loadedF .rhOffsetPct chosen.rhOffsetPct ∈ trace ∧
      ∀ samples period trigger, (calibrateAndDecide reading).Settled
        (fixed (rescheduled chosen samples period trigger)) trace result := by
  have whole := traces
  obtain ⟨tempOffset, rest, rfl, rhOffset, rest, rfl, ⟨⟩, rest, rfl, ⟨⟩, rest, rfl, traces⟩ :=
    traces
  change (Prog.bind (sameAsPrevDelivered _ _) _).Traces rest result at traces
  obtain ⟨sameTrace, same, rest, rfl, sameTraces, traces⟩ := Prog.traces_bind traces
  obtain ⟨skipTrace, skips, rest, rfl, skipTraces, traces⟩ := Prog.traces_bind traces
  obtain ⟨countTrace, ⟨⟩, rest, rfl, countTraces, traces⟩ := Prog.traces_bind traces
  obtain ⟨rfl, rfl⟩ := traces
  obtain ⟨tempMinChange, rhMinChange, loaded, taken, sameAgrees⟩ :=
    sameAsPrevDelivered_agrees old sameTraces
  obtain ⟨maxSkip, taken', skipAgrees⟩ := withinSkipBudget_agrees old skipTraces
  refine ⟨{ old with
    tempOffsetC := tempOffset
    rhOffsetPct := rhOffset
    tempMinChangeC := tempMinChange
    rhMinChangePct := rhMinChange
    maxSkipCycles := maxSkip }, ?_, ?_, ?_⟩
  · refine ⟨.inl rfl, .inr (by simp [loadedF]), ?_, .inr (by simp [loadedF]), ?_, ?_, .inl rfl,
      .inl rfl⟩
    · exact .inr (by simp [loaded])
    · exact taken.imp id fun member => by simp [member]
    · exact taken'.imp id fun member => by simp [member]
  · simp [loadedF]
  · intro samples period trigger
    apply whole.settled
    refine Agrees.load rfl (Agrees.load rfl (Agrees.free trivial (Agrees.free trivial ?_)))
    refine (sameAgrees _ rfl rfl).append ((skipAgrees _ rfl).append ?_)
    exact (agrees_of_only _ countTraces (countSkip_free _)).append (agrees_nil _)

theorem countHighRh_congr {humPct first last : Flt}
    (same : humid humPct first = humid humPct last) :
    countHighRh (clampf (add humPct first) (lit 0) (lit 100)) =
      countHighRh (clampf (add humPct last) (lit 0) (lit 100)) := by
  unfold humid at same
  unfold countHighRh
  rw [same]

/-- The schedule settles on the last offset and on a value of each schedule word. -/
theorem heaterSchedule_settled {reading : Reading} {result : HeaterDue}
    (traces : (heaterSchedule reading).Traces trace result) (rhOffset : Flt)
    (offset : ∀ first, loadedF .rhOffsetPct first ∈ trace →
      humid reading.humPct first = humid reading.humPct rhOffset)
    (period : ∀ first count last,
      [loadedU .heaterPeriodCycles first, loadedU .cyclesSinceHeater count,
        loadedU .heaterPeriodCycles last].Sublist trace → first = last ∨ 0 < last ∨ first ≤ count)
    (trigger : ∀ first count last,
      [loadedU .highRhTriggerCycles first, loadedU .highRhCycles count,
        loadedU .highRhTriggerCycles last].Sublist trace →
        first = last ∨ 0 < last ∨ first ≤ count) :
    ∃ periodCycles triggerCycles, loadedU .heaterPeriodCycles periodCycles ∈ trace ∧
      loadedU .highRhTriggerCycles triggerCycles ∈ trace ∧
      ∀ config : LpConfig, config.rhOffsetPct = rhOffset →
        config.heaterPeriodCycles = periodCycles → config.highRhTriggerCycles = triggerCycles →
          (heaterSchedule reading).Settled (fixed config) trace result := by
  obtain ⟨counting, ⟨⟩, _, rfl, counts, later⟩ := Prog.traces_bind traces
  obtain ⟨first, rest, rfl, later⟩ := later
  change (Prog.bind (countHighRh _) _).Traces rest result at later
  obtain ⟨humidity, ⟨⟩, _, rfl, humids, later⟩ := Prog.traces_bind later
  obtain ⟨periodTrace, periodDue, _, rfl, periods, later⟩ := Prog.traces_bind later
  obtain ⟨triggerTrace, humidityDue, _, rfl, triggers, rfl, rfl⟩ := Prog.traces_bind later
  have inPeriod : periodTrace.Sublist (counting ++ loadedF .rhOffsetPct first ::
      (humidity ++ (periodTrace ++ (triggerTrace ++ [])))) :=
    (((List.sublist_append_left _ _).trans (List.sublist_append_right humidity _)).cons _).trans
      (List.sublist_append_right counting _)
  have inTrigger : triggerTrace.Sublist (counting ++ loadedF .rhOffsetPct first ::
      (humidity ++ (periodTrace ++ (triggerTrace ++ [])))) :=
    ((((List.sublist_append_left triggerTrace []).trans
      (List.sublist_append_right periodTrace _)).trans
      (List.sublist_append_right humidity _)).cons _).trans (List.sublist_append_right counting _)
  obtain ⟨periodCycles, periodLoaded, periodSettled⟩ := heaterDue_settled rfl periods
    fun early count late within => period early count late (within.trans inPeriod)
  obtain ⟨triggerCycles, triggerLoaded, triggerSettled⟩ := heaterDue_settled rfl triggers
    fun early count late within => trigger early count late (within.trans inTrigger)
  refine ⟨periodCycles, triggerCycles, inPeriod.subset periodLoaded,
    inTrigger.subset triggerLoaded, fun config sameOffset samePeriod sameTrigger => ?_⟩
  apply Prog.settled_bind (settled_free config counts (increment_free rfl))
  refine ⟨first, _, rfl, ?_, ?_⟩
  · intro other given
    obtain rfl : config.rhOffsetPct = other := Option.some.inj given
    have same := offset first (by simp [loadedF])
    rw [← sameOffset] at same
    change Prog.bind (countHighRh _) _ = Prog.bind (countHighRh _) _
    rw [countHighRh_congr same]
  · change (Prog.bind (countHighRh _) _).Settled _ _ _
    apply Prog.settled_bind (settled_free config humids (countHighRh_free _))
    refine Prog.settled_bind (periodSettled config (congrArg some samePeriod)) ?_
    exact Prog.settled_bind (triggerSettled config (congrArg some sameTrigger)) ⟨rfl, rfl⟩

theorem processReading_settled (old : LpConfig) {reading : Option Reading} {result : Bool}
    (traces : (processReading reading).Traces trace result) (unnoticed : Unnoticed trace) :
    ∃ chosen, Taken old chosen trace ∧ ∀ samples,
      (processReading reading).Settled (fixed { chosen with sensorSamples := samples }) trace
        result := by
  cases reading with
  | none =>
    refine ⟨old, ⟨.inl rfl, .inl rfl, .inl rfl, .inl rfl, .inl rfl, .inl rfl, .inl rfl, .inl rfl⟩,
      ?_⟩
    intro samples
    exact traces
  | some reading =>
    obtain ⟨⟨⟩, _, rfl, ⟨⟩, rest, rfl, later⟩ := traces
    change (Prog.bind (heaterSchedule reading) _).Traces rest result at later
    obtain ⟨scheduling, due, _, rfl, schedules, later⟩ := Prog.traces_bind later
    obtain ⟨maintaining, clean, calibrating, rfl, maintains, calibrates⟩ := Prog.traces_bind later
    obtain ⟨chosen, taken, lastOffset, calibrated⟩ := calibrateAndDecide_settled old calibrates
    have inside : scheduling.Sublist (storedF .rawTempC reading.tempC ::
        storedF .rawHumPct reading.humPct :: (scheduling ++ (maintaining ++ calibrating))) :=
      ((List.sublist_append_left _ _).cons _).cons _
    have twice : ∀ first, loadedF .rhOffsetPct first ∈ scheduling →
        [storedF .rawHumPct reading.humPct, loadedF .rhOffsetPct first,
          loadedF .rhOffsetPct chosen.rhOffsetPct].Sublist (storedF .rawTempC reading.tempC ::
            storedF .rawHumPct reading.humPct :: (scheduling ++ (maintaining ++ calibrating))) := by
      intro first loaded
      have later : loadedF .rhOffsetPct chosen.rhOffsetPct ∈ maintaining ++ calibrating :=
        List.mem_append_right _ lastOffset
      exact (((List.singleton_sublist.mpr loaded).append
        (List.singleton_sublist.mpr later)).cons_cons _).cons _
    obtain ⟨period, trigger, periodLoaded, triggerLoaded, scheduled⟩ :=
      heaterSchedule_settled schedules chosen.rhOffsetPct
        (fun first loaded => unnoticed.offset _ _ _ (twice first loaded))
        (fun first count last within => unnoticed.period first count last (within.trans inside))
        (fun first count last within => unnoticed.trigger first count last (within.trans inside))
    refine ⟨rescheduled chosen old.sensorSamples period trigger, ?_, ?_⟩
    · have wider : Taken old chosen (storedF .rawTempC reading.tempC ::
          storedF .rawHumPct reading.humPct :: (scheduling ++ (maintaining ++ calibrating))) :=
        taken.mono fun event member => by simp [member]
      exact ⟨.inl rfl, wider.tempOffsetC, wider.tempMinChangeC, wider.rhOffsetPct,
        wider.rhMinChangePct, wider.maxSkipCycles, .inr (inside.subset periodLoaded),
        .inr (inside.subset triggerLoaded)⟩
    · intro samples
      refine ⟨(), _, rfl, fun _ _ => rfl, (), _, rfl, fun _ _ => rfl, ?_⟩
      change (Prog.bind (heaterSchedule reading) _).Settled _ _ _
      refine Prog.settled_bind (scheduled _ rfl rfl rfl) ?_
      apply Prog.settled_bind (settled_free _ maintains (maintain_free _ _))
      exact calibrated samples period trigger

theorem Unnoticed.mono {wider : List LpEvent} (unnoticed : Unnoticed wider)
    (within : trace.Sublist wider) : Unnoticed trace :=
  ⟨fun humPct first last here => unnoticed.offset humPct first last (here.trans within),
    fun first count last here => unnoticed.period first count last (here.trans within),
    fun first count last here => unnoticed.trigger first count last (here.trans within)⟩

theorem cycleBody_settled (old : LpConfig) {wasOk : Nat}
    (traces : (cycleBody wasOk).Traces trace ()) (unnoticed : Unnoticed trace) :
    ∃ chosen, Taken old chosen trace ∧ (cycleBody wasOk).Settled (fixed chosen) trace () := by
  obtain ⟨samples, rest, rfl, later⟩ := traces
  change (Prog.bind (measureAveraged samples) _).Traces rest () at later
  obtain ⟨measuring, reading, _, rfl, measures, later⟩ := Prog.traces_bind later
  obtain ⟨recording, ⟨⟩, _, rfl, records, later⟩ := Prog.traces_bind later
  obtain ⟨processing, valueDriven, storing, rfl, processes, stores⟩ := Prog.traces_bind later
  have inside : processing.Sublist (loadedU .sensorSamples samples ::
      (measuring ++ (recording ++ (processing ++ storing)))) :=
    (((List.sublist_append_left processing storing).trans
      (List.sublist_append_right recording _)).trans (List.sublist_append_right measuring _)).cons _
  obtain ⟨chosen, taken, processed⟩ :=
    processReading_settled old processes (unnoticed.mono inside)
  refine ⟨{ chosen with sensorSamples := samples }, ?_, ?_⟩
  · have wider := taken.mono inside.subset
    exact ⟨.inr (by simp [loadedU]), wider.tempOffsetC, wider.tempMinChangeC, wider.rhOffsetPct,
      wider.rhMinChangePct, wider.maxSkipCycles, wider.heaterPeriodCycles,
      wider.highRhTriggerCycles⟩
  · refine ⟨samples, _, rfl, ?_, ?_⟩
    · intro other given
      obtain rfl : samples = other := Option.some.inj given
      rfl
    · change (Prog.bind (measureAveraged samples) _).Settled _ _ _
      apply Prog.settled_bind (settled_free _ measures
        (Prog.only_mono free_of_sensor (measureAveraged_sensor samples)))
      apply Prog.settled_bind (settled_free _ records (recordOutcome_free _))
      apply Prog.settled_bind (processed samples)
      exact settled_free _ stores (Prog.only_perform trivial)

theorem main_settled (old : LpConfig) (traces : main.Traces trace ())
    (unnoticed : Unnoticed trace) :
    ∃ chosen, Taken old chosen trace ∧ main.Settled (fixed chosen) trace () := by
  obtain ⟨acking, ⟨⟩, _, rfl, acks, later⟩ := Prog.traces_bind traces
  obtain ⟨wasOk, rest, rfl, later⟩ := later
  change (Prog.bind (increment .resultSeq) _).Traces rest () at later
  obtain ⟨opening, ⟨⟩, _, rfl, opens, later⟩ := Prog.traces_bind later
  obtain ⟨body, ⟨⟩, closing, rfl, bodies, closes⟩ := Prog.traces_bind later
  have inside : body.Sublist (acking ++ loadedU .sensorOk wasOk ::
      (opening ++ (body ++ closing))) :=
    (((List.sublist_append_left body closing).trans (List.sublist_append_right opening _)).cons
      _).trans (List.sublist_append_right acking _)
  obtain ⟨chosen, taken, bodySettled⟩ := cycleBody_settled old bodies (unnoticed.mono inside)
  refine ⟨chosen, taken.mono inside.subset, ?_⟩
  apply Prog.settled_bind (settled_free chosen acks
    (Prog.only_mono (fun _ ack => ack.2) consumeAck_only))
  refine ⟨wasOk, _, rfl, ?_, ?_⟩
  · intro other given
    cases given
  · change (Prog.bind (increment .resultSeq) _).Settled _ _ _
    apply Prog.settled_bind (settled_free chosen opens (increment_free rfl))
    refine Prog.settled_bind bodySettled (settled_free chosen closes ?_)
    refine Prog.only_bind (increment_free rfl) fun _ => ?_
    refine Prog.only_bind (Prog.only_perform rfl) fun flag => ?_
    split
    · exact Prog.only_perform trivial
    · trivial

end Program

end Settled

/-! ## Every interleaving -/

theorem between_configOf (new : LpConfig) (world : World) :
    Between (configOf world.memory) new world :=
  fun _ known => .inl (word_configOf world.memory known)

section Interleavings

variable [FloatOps]

/-- A change of the configuration that the cycle does not notice half-way has
the outcome of a cycle with a mix of the old and the new configuration. -/
theorem change_unnoticed (sensor : Sensor) (new : LpConfig) (schedule : List Nat) (world : World)
    (unnoticed : Unnoticed (cycle sensor new schedule world).trace) :
    ∃ config, Mix (configOf world.memory) new config ∧
      SameOutcome (cycle sensor new schedule world).state
        (uninterrupted sensor (world.configured config)).state := by
  have traces : main.Traces (cycle sensor new schedule world).trace () :=
    Prog.traces_interleave main schedule (applyConfig new) world
  have loads : ∀ event ∈ (cycle sensor new schedule world).trace,
      OldOrNew (configOf world.memory) new event :=
    Prog.interleave_answers main_safe schedule
      (fun stored member state between => between.store member)
      (fun op state safe between => ⟨between.answers op, between.act op safe⟩)
      (between_configOf new world)
  obtain ⟨config, taken, settled⟩ := main_settled (configOf world.memory) traces unnoticed
  refine ⟨config, taken.mix loads, @Alike.sameOutcome config _ _ ?_⟩
  exact Prog.interleave_settled main_safe schedule
    (fun stored member state other alike => alike.store member)
    (fun op state other safe alike => alike.act op safe) (alike_configured config world) settled

end Interleavings

/-! ## A cycle that keeps to one value, and one that does not -/

theorem Agrees.unnoticed [FloatOps] {config : LpConfig} {trace : List LpEvent}
    (agrees : Agrees config trace) : Unnoticed trace where
  offset humPct first last within := by
    have isFirst := agrees (loadedF .rhOffsetPct first) (within.subset (by simp)) _ rfl
    have isLast := agrees (loadedF .rhOffsetPct last) (within.subset (by simp)) _ rfl
    exact congrArg (humid humPct) (isFirst.symm.trans isLast)
  period first count last within := by
    have isFirst := agrees (loadedU .heaterPeriodCycles first) (within.subset (by simp)) _ rfl
    have isLast := agrees (loadedU .heaterPeriodCycles last) (within.subset (by simp)) _ rfl
    exact .inl (isFirst.symm.trans isLast)
  trigger first count last within := by
    have isFirst := agrees (loadedU .highRhTriggerCycles first) (within.subset (by simp)) _ rfl
    have isLast := agrees (loadedU .highRhTriggerCycles last) (within.subset (by simp)) _ rfl
    exact .inl (isFirst.symm.trans isLast)

instance : (op : LpOp) → DecidableEq op.Res
  | .load (.u _) => inferInstanceAs (DecidableEq Nat)
  | .load (.f _) => inferInstanceAs (DecidableEq Flt)
  | .store _ _ => inferInstanceAs (DecidableEq Unit)
  | .loadLastConsumedAckSeq => inferInstanceAs (DecidableEq Nat)
  | .storeLastConsumedAckSeq _ => inferInstanceAs (DecidableEq Unit)
  | .delayUs _ => inferInstanceAs (DecidableEq Unit)
  | .i2cWrite _ => inferInstanceAs (DecidableEq Bool)
  | .i2cRead => inferInstanceAs (DecidableEq (Option Raw6))
  | .wakeupMainProcessor => inferInstanceAs (DecidableEq Unit)

instance (config : LpConfig) (trace : List LpEvent) : Decidable (Agrees config trace) :=
  inferInstanceAs (Decidable (∀ event ∈ trace, ∀ other ∈ fixed config event.1, other = event.2))

/-- The sensor gives one reading, and no more. -/
def oneReading : Sensor where
  acknowledges sent := decide (sent.length = 1)
  answers _ := some
    { tempHigh := 0, tempLow := 0, tempCrc := 0x81, humHigh := 0, humLow := 0, humCrc := 0x81 }

/-- A self-test every fifth cycle. -/
def everyFifth : World where
  memory := Function.update zeroed (.u .heaterPeriodCycles) (5 : Nat)
  lastConsumedAckSeq := 0
  sent := []

/-- More samples, an offset, and no self-test. -/
def otherConfig : LpConfig :=
  { configOf everyFifth.memory with
    sensorSamples := 4
    rhOffsetPct := .fin 2
    heaterPeriodCycles := 0 }

/-- The stores are made right after the load of the sample count. -/
theorem change_unnoticed_afterSamples :
    ∃ config, Mix (configOf everyFifth.memory) otherConfig config ∧
      SameOutcome (@cycle exactFloat oneReading otherConfig (List.replicate 6 0 ++ [8])
          everyFifth).state
        (@uninterrupted exactFloat oneReading (everyFifth.configured config)).state := by
  have agrees : Agrees { otherConfig with sensorSamples := 0 }
      (@cycle exactFloat oneReading otherConfig (List.replicate 6 0 ++ [8]) everyFifth).trace := by
    decide +kernel
  exact @change_unnoticed exactFloat oneReading otherConfig (List.replicate 6 0 ++ [8]) everyFifth
    (@Agrees.unnoticed exactFloat _ _ agrees)

/-- The self-test is switched off between the two loads of its period. -/
def switchedOff : LpConfig := { configOf everyFifth.memory with heaterPeriodCycles := 0 }

theorem switchedOff_word {field : Field} (other : field ≠ .u .heaterPeriodCycles) :
    word switchedOff field = word (configOf everyFifth.memory) field := by
  rcases field with field | field <;> cases field <;> first | rfl | exact absurd rfl other

/-- The heater is entered, with neither period. -/
theorem period_seen_halfWay :
    ¬∀ (ops : FloatOps) (sensor : Sensor) (new : LpConfig) (schedule : List Nat) (world : World),
      ∃ config, Mix (configOf world.memory) new config ∧
        SameOutcome (@cycle ops sensor new schedule world).state
          (@uninterrupted ops sensor (world.configured config)).state := by
  intro always
  obtain ⟨config, mix, same⟩ :=
    always exactFloat oneReading switchedOff (List.replicate 21 0 ++ [8]) everyFifth
  have entered : ((@cycle exactFloat oneReading switchedOff (List.replicate 21 0 ++ [8])
      everyFifth).state.memory (.u .cyclesSinceHeater) : Nat) = 0 := by decide +kernel
  have counted : config = configOf everyFifth.memory ∨ config = switchedOff := by
    rcases mix (.u .heaterPeriodCycles) with old | new
    · exact .inl (eq_of_word fun field => by
        by_cases period : field = .u .heaterPeriodCycles
        · rw [period, old]
        · exact (mix field).elim id fun held => held.trans (switchedOff_word period))
    · exact .inr (eq_of_word fun field => by
        by_cases period : field = .u .heaterPeriodCycles
        · rw [period, new]
        · exact (mix field).elim (fun held => held.trans (switchedOff_word period).symm) id)
  have left : ((@uninterrupted exactFloat oneReading (everyFifth.configured config)).state.memory
      (.u .cyclesSinceHeater) : Nat) = 1 := by
    rcases counted with rfl | rfl
    · decide +kernel
    · decide +kernel
  have equal := same.memory (.u .cyclesSinceHeater) rfl
  rw [entered, left] at equal
  cases equal

end SleepySensor.LiveChange
