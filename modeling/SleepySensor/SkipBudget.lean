import SleepySensor.Lib.History
import SleepySensor.LpCycles

/-!
# The skip budget of the LP core

HP delivery acks arrive between any two operations of the LP program; the
configuration stays as it was set before the LP core started.  The history
variable keeps, for each LP cycle, what it did about the skip budget.
-/

set_option autoImplicit false

namespace SleepySensor.SkipBudget

open SleepySensor.LpCore SleepySensor.Snapshot

structure CycleRecord where
  /-- The cycle took over the acked values as its baseline. -/
  consumed : Bool := false
  ok : Bool := false
  /-- The cycle set `should_wake_hp`. -/
  flagged : Bool := false
  /-- `skipped_cycles` as the cycle left it. -/
  skipped : Nat := 0
  deriving DecidableEq, Repr

structure History where
  current : CycleRecord := {}
  cycles : List CycleRecord := []
  deriving DecidableEq, Repr

abbrev Observed := HpLp × History

def performed : LpOp → CycleRecord → CycleRecord
  | .store (.f .prevDeliveredTempC) _, cycle => { cycle with consumed := true }
  | .store (.u .sensorOk) value, cycle => { cycle with ok := decide ((value : Nat) ≠ 0) }
  | .store (.u .shouldWakeHp) value, cycle => { cycle with flagged := decide ((value : Nat) ≠ 0) }
  | .store (.u .skippedCycles) value, cycle => { cycle with skipped := value }
  | _, cycle => cycle

def record (system : HpLp) (action : Action) (history : History) : History :=
  match action, system.lp with
  | .lpTimer, _ => { history with current := { skipped := history.current.skipped } }
  | .lpStep _, some (.ret _) => { history with cycles := history.cycles ++ [history.current] }
  | .lpStep _, some (.call op _) => { history with current := performed op history.current }
  | _, _ => history

def ackField : Field → Bool
  | .u .hpAckSeq | .f .hpAckedTempC | .f .hpAckedHumPct => true
  | _ => false

/-- HP stores acks only. -/
def KeepsConfig : Action → Prop
  | .hpStore field _ => ackField field = true
  | _ => True

instance (action : Action) : Decidable (KeepsConfig action) := by
  cases action with
  | hpStore field value => exact inferInstanceAs (Decidable (ackField field = true))
  | _ => exact instDecidableTrue

def configField : Field → Bool
  | .u .sensorSamples | .f .tempOffsetC | .f .tempMinChangeC | .f .rhOffsetPct
  | .f .rhMinChangePct | .u .maxSkipCycles | .u .heaterPeriodCycles
  | .u .highRhTriggerCycles => true
  | _ => false

def configured (config : Shared) : Shared :=
  fun field => if configField field = true then config field else zeroed field

def begun (config : Shared) : HpLp :=
  { lock := Seqlock.initial (configured config) zeroed, lp := none, lastConsumedAckSeq := 0 }

def maxSkip (memory : Shared) : Nat := memory (.u .maxSkipCycles)
def skippedCycles (memory : Shared) : Nat := memory (.u .skippedCycles)

section Program

variable [FloatOps]

def step : Observed → Action → Option Observed := Runs.observe Snapshot.step record

end Program

/-! ## One cycle -/

/-- What a cycle does to `skipped_cycles`, which was `before`. -/
structure Settled (limit before : Nat) (cycle : CycleRecord) : Prop where
  skip : cycle.ok = true → cycle.flagged = false →
    (if cycle.consumed then 0 else before) < limit ∧
      cycle.skipped = (if cycle.consumed then 0 else before) + 1
  kept : cycle.ok = false ∨ cycle.flagged = true →
    cycle.skipped = if cycle.consumed then 0 else before

def budgetContract (limit : Nat) : Prog.Contract LpOp LpOp.Res CycleRecord where
  may _ op := match op with
    | .store (.u .maxSkipCycles) _ => False
    | .store (.u .skippedCycles) value => (value : Nat) ≤ limit
    | _ => True
  effect cycle op answer after := after = performed op cycle ∧
    match op, answer with
    | .load (.u .skippedCycles), value => (value : Nat) = cycle.skipped
    | .load (.u .maxSkipCycles), value => (value : Nat) = limit
    | _, _ => True

/-- The words that a cycle record is about. -/
def budgetFields : List Field :=
  [.f .prevDeliveredTempC, .u .sensorOk, .u .shouldWakeHp, .u .skippedCycles, .u .maxSkipCycles]

variable {limit before : Nat} {cycle : CycleRecord}

theorem performed_other {field : Field} (value : field.Val) (other : field ∉ budgetFields)
    (cycle : CycleRecord) : performed (.store field value) cycle = cycle := by
  rcases field with field | field <;> cases field <;>
    first | rfl | exact absurd (by decide) other

theorem may_other {field : Field} (value : field.Val) (other : field ∉ budgetFields)
    (cycle : CycleRecord) : (budgetContract limit).may cycle (.store field value) := by
  rcases field with field | field <;> cases field <;>
    trivial

theorem wp_other {α : Type} {program : LpProg α} {fields : List Field}
    (only : program.Only (StoresIn fields)) (apart : ∀ field ∈ fields, field ∉ budgetFields) :
    program.wp (budgetContract limit) cycle fun after _ => after = cycle := by
  apply Prog.wp_of_only only
  · intro op stores
    cases op with
    | store field value => exact may_other value (apart field stores) cycle
    | _ => trivial
  · intro op answer after stores changed
    rw [changed.1]
    cases op with
    | store field value => exact performed_other value (apart field stores) cycle
    | _ => rfl

theorem wp_quiet {α : Type} {program : LpProg α} (only : program.Only QuietOp) :
    program.wp (budgetContract limit) cycle fun after _ => after = cycle :=
  wp_other (Prog.only_mono quiet_storesIn only) (List.forall_mem_nil _)

theorem wp_store {field : Field} {value : field.Val}
    (allowed : (budgetContract limit).may cycle (.store field value)) :
    (Prog.perform (LpOp.store field value)).wp (budgetContract limit) cycle
      fun after _ => after = performed (.store field value) cycle :=
  Prog.wp_perform allowed fun _ _ changed => changed.1

theorem wp_loadSkipped :
    (loadU .skippedCycles).wp (budgetContract limit) cycle fun after value =>
      after = cycle ∧ value = cycle.skipped :=
  Prog.wp_perform trivial fun _ _ changed => changed

theorem wp_loadLimit :
    (loadU .maxSkipCycles).wp (budgetContract limit) cycle fun after value =>
      after = cycle ∧ value = limit :=
  Prog.wp_perform trivial fun _ _ changed => changed

theorem wp_consumeAck (fresh : cycle.consumed = false) :
    consumeAck.wp (budgetContract limit) cycle fun after _ =>
      after = cycle ∨ after = { cycle with consumed := true, skipped := 0 } := by
  refine Prog.wp_seq (wp_quiet (Prog.only_perform trivial)) ?_
  rintro _ hpAckSeq rfl
  refine Prog.wp_seq (wp_quiet (Prog.only_perform trivial)) ?_
  rintro _ lastConsumed rfl
  by_cases new : hpAckSeq ≠ lastConsumed
  · simp only [if_pos new]
    refine Prog.wp_seq (wp_quiet (Prog.only_perform trivial)) ?_
    rintro _ tempC rfl
    refine Prog.wp_seq (wp_store trivial) ?_
    rintro _ _ rfl
    refine Prog.wp_seq (wp_quiet (Prog.only_perform trivial)) ?_
    rintro _ humPct rfl
    refine Prog.wp_seq (wp_store trivial) ?_
    rintro _ _ rfl
    refine Prog.wp_seq (wp_store (Nat.zero_le limit)) ?_
    rintro _ _ rfl
    refine Prog.wp_seq (wp_quiet (Prog.only_perform trivial)) ?_
    rintro _ seq rfl
    exact Prog.wp_mono (wp_quiet (Prog.only_perform trivial)) fun after _ same => .inr same
  · simp only [if_neg new]
    exact .inl rfl

theorem wp_recordOutcome (ok : Bool) :
    (recordOutcome ok).wp (budgetContract limit) cycle fun after _ =>
      after = { cycle with ok := ok } := by
  have counted : ∀ {field : UField} {cycle : CycleRecord}, Field.u field ∉ budgetFields →
      (increment field).wp (budgetContract limit) cycle fun after _ => after = cycle := by
    intro field cycle other
    apply wp_other (increment_storesIn (List.mem_singleton_self _))
    intro listed member
    rwa [List.mem_singleton.mp member]
  apply Prog.wp_seq (counted (by decide))
  rintro _ _ rfl
  refine Prog.wp_seq (wp_store trivial) ?_
  rintro _ _ rfl
  cases ok with
  | true => exact wp_other (storeU_storesIn 0 (List.mem_singleton_self _)) (by decide)
  | false => exact counted (by decide)

theorem wp_withinSkipBudget (same : Bool) :
    (withinSkipBudget same).wp (budgetContract limit) cycle fun after skipThisCycle =>
      after = cycle ∧ (skipThisCycle = true → cycle.skipped < limit) := by
  cases same with
  | false => exact ⟨rfl, fun skip => by cases skip⟩
  | true =>
    apply Prog.wp_seq wp_loadSkipped
    rintro after skipped ⟨rfl, isSkipped⟩
    apply Prog.wp_seq wp_loadLimit
    rintro after bound ⟨rfl, isLimit⟩
    refine ⟨rfl, fun within => ?_⟩
    have less : skipped < bound := of_decide_eq_true within
    omega

theorem wp_countSkip (small : limit < u32Mod) (room : cycle.skipped < limit) :
    (countSkip true).wp (budgetContract limit) cycle fun after _ =>
      after = { cycle with skipped := cycle.skipped + 1 } := by
  apply Prog.wp_seq wp_loadSkipped
  rintro after skipped ⟨rfl, isSkipped⟩
  have counted : u32 (skipped + 1) = after.skipped + 1 := by
    rw [isSkipped]
    exact u32_of_lt (by omega)
  refine Prog.wp_mono (wp_store ?_) ?_
  · show u32 (skipped + 1) ≤ limit
    omega
  · rintro _ _ rfl
    exact congrArg (fun count => { after with skipped := count }) counted

section Program

variable [FloatOps]

theorem wp_calibrateAndDecide (small : limit < u32Mod) (reading : Reading) :
    (calibrateAndDecide reading).wp (budgetContract limit) cycle fun after valueDriven =>
      (valueDriven = true ∧ after = cycle) ∨
        (valueDriven = false ∧ cycle.skipped < limit ∧
          after = { cycle with skipped := cycle.skipped + 1 }) := by
  refine Prog.wp_seq (wp_quiet (Prog.only_perform trivial)) ?_
  rintro _ tempOffset rfl
  refine Prog.wp_seq (wp_quiet (Prog.only_perform trivial)) ?_
  rintro _ rhOffset rfl
  refine Prog.wp_seq (wp_store trivial) ?_
  rintro _ _ rfl
  refine Prog.wp_seq (wp_store trivial) ?_
  rintro _ _ rfl
  apply Prog.wp_seq (wp_quiet (sameAsPrevDelivered_quiet _ _))
  rintro _ same rfl
  apply Prog.wp_seq (wp_withinSkipBudget same)
  rintro _ skipThisCycle ⟨rfl, within⟩
  cases skipThisCycle with
  | false => exact .inl ⟨rfl, rfl⟩
  | true =>
    have room := within rfl
    apply Prog.wp_seq (wp_countSkip small room)
    rintro _ _ rfl
    exact .inr ⟨rfl, room, rfl⟩

theorem wp_maintain (due : HeaterDue) (reading : Reading) :
    (maintain due reading).wp (budgetContract limit) cycle fun after _ => after = cycle := by
  unfold maintain
  split
  · have stores : (heaterBlock due.humidity reading).Only (StoresIn
        (.u .heaterActive :: .u .resultSeq :: .u .cyclesSinceHeater :: .u .highRhCycles ::
          heaterRunFields)) := by
      refine Prog.only_bind (storeU_storesIn _ (by decide)) fun _ => ?_
      refine Prog.only_bind (increment_storesIn (by decide)) fun _ => ?_
      refine Prog.only_bind (Prog.only_mono quiet_storesIn (heaterRun_quiet _)) fun run => ?_
      refine Prog.only_bind (increment_storesIn (by decide)) fun _ => ?_
      refine Prog.only_bind (Prog.only_mono ?_ (recordHeaterRun_storesIn run)) fun _ => ?_
      · intro op listed
        cases op with
        | store field value =>
          exact List.mem_cons_of_mem _ (List.mem_cons_of_mem _ (List.mem_cons_of_mem _
            (List.mem_cons_of_mem _ listed)))
        | _ => trivial
      refine Prog.only_bind (storeU_storesIn _ (by decide)) fun _ => ?_
      refine Prog.only_bind (storeU_storesIn _ (by decide)) fun _ => ?_
      exact Prog.only_bind (storeU_storesIn _ (by decide)) fun _ => trivial
    exact wp_other stores (by decide)
  · rfl

theorem wp_processReading (small : limit < u32Mod) (reading : Option Reading) :
    (processReading reading).wp (budgetContract limit) cycle fun after valueDriven =>
      (after = cycle ∧ (reading.isSome = true → valueDriven = true) ∧
        (reading.isSome = false → valueDriven = false)) ∨
        (valueDriven = false ∧ reading.isSome = true ∧ cycle.skipped < limit ∧
          after = { cycle with skipped := cycle.skipped + 1 }) := by
  cases reading with
  | none => exact .inl ⟨rfl, (fun isSome => by cases isSome), fun _ => rfl⟩
  | some reading =>
    refine Prog.wp_seq (wp_store trivial) ?_
    rintro _ _ rfl
    refine Prog.wp_seq (wp_store trivial) ?_
    rintro _ _ rfl
    apply Prog.wp_seq (wp_other (heaterSchedule_storesIn reading) (by decide))
    rintro _ due rfl
    apply Prog.wp_seq (wp_maintain due reading)
    rintro _ clean rfl
    apply Prog.wp_mono (wp_calibrateAndDecide small clean)
    rintro after valueDriven (⟨driven, same⟩ | ⟨skips, room, counted⟩)
    · exact .inl ⟨same, fun _ => driven, fun isNone => by cases isNone⟩
    · exact .inr ⟨skips, rfl, room, counted⟩

theorem wp_cycleBody (small : limit < u32Mod) (wasOk : Nat)
    (start : cycle.skipped = if cycle.consumed then 0 else before) :
    (cycleBody wasOk).wp (budgetContract limit) cycle fun after _ =>
      Settled limit before after := by
  refine Prog.wp_seq (wp_quiet (Prog.only_perform trivial)) ?_
  rintro _ samples rfl
  apply Prog.wp_seq (wp_quiet (measureAveraged_quiet samples))
  rintro _ reading rfl
  apply Prog.wp_seq (wp_recordOutcome reading.isSome)
  rintro _ _ rfl
  apply Prog.wp_seq (wp_processReading small reading)
  rintro after valueDriven decided
  refine Prog.wp_mono (wp_store trivial) ?_
  rintro _ _ rfl
  simp only [performed]
  rcases decided with ⟨rfl, driven, failed⟩ | ⟨rfl, ok, room, rfl⟩
  · refine ⟨?_, fun _ => start⟩
    intro ok silent
    simp only at ok silent
    simp [driven ok] at silent
  · rw [start] at room ⊢
    refine ⟨fun _ _ => ⟨room, rfl⟩, ?_⟩
    rintro (failed | flagged)
    · simp only at failed
      rw [ok] at failed
      cases failed
    · cases reading with
      | none => cases ok
      | some reading => simp at flagged

theorem wp_main (small : limit < u32Mod) (start : cycle.skipped = before)
    (fresh : cycle.consumed = false) :
    main.wp (budgetContract limit) cycle fun after _ => Settled limit before after := by
  apply Prog.wp_seq (wp_consumeAck fresh)
  intro acked _ consumed
  have base : acked.skipped = if acked.consumed then 0 else before := by
    rcases consumed with rfl | rfl
    · rw [fresh]
      exact start
    · rfl
  refine Prog.wp_seq (wp_quiet (Prog.only_perform trivial)) ?_
  rintro _ wasOk rfl
  have bump : ∀ cycle, (increment .resultSeq).wp (budgetContract limit) cycle
      fun after _ => after = cycle := fun _ =>
    wp_other (increment_storesIn (List.mem_singleton_self _)) (by decide)
  apply Prog.wp_seq (bump _)
  rintro _ _ rfl
  apply Prog.wp_seq (wp_cycleBody small wasOk base)
  intro decided _ settled
  apply Prog.wp_seq (bump _)
  rintro _ _ rfl
  refine Prog.wp_mono (wp_quiet (Prog.only_bind (Prog.only_perform trivial) fun flagged => ?_))
    fun after _ same => same ▸ settled
  split
  · exact Prog.only_perform trivial
  · trivial

end Program

/-! ## The cycles of a run -/

/-- `skipped_cycles` after the cycles, when it was `before`. -/
def skippedAfter (before : Nat) : List CycleRecord → Nat
  | [] => before
  | cycle :: rest => skippedAfter cycle.skipped rest

def Chain (limit : Nat) : Nat → List CycleRecord → Prop
  | _, [] => True
  | before, cycle :: rest => Settled limit before cycle ∧ Chain limit cycle.skipped rest

theorem skippedAfter_append (before : Nat) (cycles later : List CycleRecord) :
    skippedAfter before (cycles ++ later) = skippedAfter (skippedAfter before cycles) later := by
  induction cycles generalizing before with
  | nil => rfl
  | cons cycle rest ih => exact ih cycle.skipped

theorem chain_append {cycles later : List CycleRecord} :
    Chain limit before (cycles ++ later) ↔
      Chain limit before cycles ∧ Chain limit (skippedAfter before cycles) later := by
  induction cycles generalizing before with
  | nil => exact ⟨fun chain => ⟨trivial, chain⟩, fun chains => chains.2⟩
  | cons cycle rest ih =>
    simp only [List.cons_append, Chain, skippedAfter]
    rw [ih, and_assoc]

theorem Settled.within (settled : Settled limit before cycle) (start : before ≤ limit) :
    cycle.skipped ≤ limit := by
  by_cases skips : cycle.ok = true ∧ cycle.flagged = false
  · obtain ⟨room, counted⟩ := settled.skip skips.1 skips.2
    omega
  · have kept := settled.kept (by
      cases ok : cycle.ok with
      | false => exact .inl rfl
      | true => exact .inr (by simpa [ok] using skips))
    rw [kept]
    split
    · exact Nat.zero_le limit
    · exact start

theorem chain_within {cycles : List CycleRecord} (chain : Chain limit before cycles)
    (start : before ≤ limit) : skippedAfter before cycles ≤ limit := by
  induction cycles generalizing before with
  | nil => exact start
  | cons cycle rest ih => exact ih chain.2 (chain.1.within start)

theorem silent_count {cycles : List CycleRecord} (chain : Chain limit before cycles)
    (start : before ≤ limit) (unconsumed : ∀ cycle ∈ cycles, cycle.consumed = false)
    (silent : ∀ cycle ∈ cycles, cycle.ok = true → cycle.flagged = false) :
    before + (cycles.filter CycleRecord.ok).length ≤ limit := by
  induction cycles generalizing before with
  | nil => exact start
  | cons cycle rest ih =>
    obtain ⟨settled, later⟩ := chain
    have counted := ih later (settled.within start)
      (fun other member => unconsumed other (List.mem_cons_of_mem _ member))
      (fun other member => silent other (List.mem_cons_of_mem _ member))
    have own := unconsumed cycle List.mem_cons_self
    cases ok : cycle.ok with
    | false =>
      have kept := settled.kept (.inl ok)
      rw [own] at kept
      rw [List.filter_cons_of_neg (by simp [ok])]
      simp only [Bool.false_eq_true, if_false] at kept
      omega
    | true =>
      obtain ⟨-, skips⟩ := settled.skip ok (silent cycle List.mem_cons_self ok)
      rw [own] at skips
      rw [List.filter_cons_of_pos ok, List.length_cons]
      simp only [Bool.false_eq_true, if_false] at skips
      omega

/-- A window with more sensor-ok cycles than the budget, and no ack after the
first cycle, has one that sets the flag. -/
theorem window_flags {window : List CycleRecord} (chain : Chain limit before window)
    (start : before ≤ limit) (many : limit + 1 ≤ (window.filter CycleRecord.ok).length)
    (unconsumed : ∀ cycle ∈ window.tail, cycle.consumed = false) :
    ∃ cycle ∈ window, cycle.ok = true ∧ cycle.flagged = true := by
  by_contra none
  have silent : ∀ cycle ∈ window, cycle.ok = true → cycle.flagged = false := by
    intro cycle member ok
    cases flagged : cycle.flagged with
    | false => rfl
    | true => exact absurd ⟨cycle, member, ok, flagged⟩ none
  cases window with
  | nil => exact absurd many (Nat.not_succ_le_zero limit)
  | cons first rest =>
    obtain ⟨settled, later⟩ := chain
    have counted := silent_count later (settled.within start) unconsumed
      (fun other member => silent other (List.mem_cons_of_mem _ member))
    cases ok : first.ok with
    | false =>
      rw [List.filter_cons_of_neg (by simp [ok])] at many
      omega
    | true =>
      have skips := (settled.skip ok (silent first List.mem_cons_self ok)).2
      rw [List.filter_cons_of_pos ok, List.length_cons] at many
      omega

/-- At the limit only an ack gives room again. -/
theorem exhausted_flags {cycles : List CycleRecord} (chain : Chain limit limit cycles)
    (unconsumed : ∀ cycle ∈ cycles, cycle.consumed = false) :
    ∀ cycle ∈ cycles, cycle.ok = true → cycle.flagged = true := by
  induction cycles with
  | nil => exact fun _ none => by cases none
  | cons cycle rest ih =>
    obtain ⟨settled, later⟩ := chain
    have own := unconsumed cycle List.mem_cons_self
    have flags : cycle.ok = true → cycle.flagged = true := by
      intro ok
      cases flagged : cycle.flagged with
      | true => rfl
      | false =>
        have room := (settled.skip ok flagged).1
        rw [own] at room
        exact absurd room (Nat.lt_irrefl limit)
    have kept : cycle.skipped = limit := by
      have same := settled.kept (by
        cases ok : cycle.ok with
        | false => exact .inl rfl
        | true => exact .inr (flags ok))
      rw [own] at same
      exact same
    rw [kept] at later
    intro other member
    rcases List.mem_cons.mp member with rfl | member
    · exact flags
    · exact ih later (fun other member => unconsumed other (List.mem_cons_of_mem _ member)) other
        member

/-! ## Runs -/

structure Inv (limit : Nat) (state : Observed) : Prop where
  maxSkip : maxSkip state.1.lock.memory = limit
  skipped : skippedCycles state.1.lock.memory = state.2.current.skipped
  within : state.2.current.skipped ≤ limit
  chain : Chain limit 0 state.2.cycles
  resting : state.1.lp = none → state.2.current.skipped = skippedAfter 0 state.2.cycles
  running : ∀ program, state.1.lp = some program →
    program.wp (budgetContract limit) state.2.current fun after _ =>
      Settled limit (skippedAfter 0 state.2.cycles) after

theorem words_after (system : HpLp) {op : LpOp}
    (allowed : (budgetContract limit).may cycle op)
    (skipped : skippedCycles system.lock.memory = cycle.skipped) :
    maxSkip (system.after op).lock.memory = maxSkip system.lock.memory ∧
      skippedCycles (system.after op).lock.memory = (performed op cycle).skipped := by
  cases op with
  | store field value =>
    rcases field with field | field <;> cases field
    case u.maxSkipCycles => exact allowed.elim
    case u.skippedCycles => exact ⟨rfl, layout.store_same system.lock _ value⟩
    all_goals exact ⟨rfl, skipped⟩
  | _ => exact ⟨rfl, skipped⟩

theorem performed_within {op : LpOp} (allowed : (budgetContract limit).may cycle op)
    (within : cycle.skipped ≤ limit) : (performed op cycle).skipped ≤ limit := by
  cases op with
  | store field value =>
    rcases field with field | field <;> cases field
    case u.skippedCycles => exact allowed
    all_goals exact within
  | _ => exact within

theorem effect_of_answers {system : HpLp} {op : LpOp} {answer : op.Res}
    (maxSkip : maxSkip system.lock.memory = limit)
    (skipped : skippedCycles system.lock.memory = cycle.skipped)
    (answers : system.Answers op answer) :
    (budgetContract limit).effect cycle op answer (performed op cycle) := by
  refine ⟨rfl, ?_⟩
  cases op with
  | load field =>
    rcases field with field | field <;> cases field
    case u.maxSkipCycles => exact answers.trans maxSkip
    case u.skippedCycles => exact answers.trans skipped
    all_goals trivial
  | _ => trivial

theorem inv_lp {system next : HpLp} {history : History} {answer : LpAnswer}
    (inv : Inv limit (system, history)) (move : LpMove system next) :
    Inv limit (next, record system (.lpStep answer) history) := by
  cases move with
  | finish running =>
    have settled := inv.running _ running
    have recorded : record system (.lpStep answer) history =
        { history with cycles := history.cycles ++ [history.current] } := by
      unfold record
      rw [running]
    rw [recorded]
    refine ⟨inv.maxSkip, inv.skipped, inv.within, ?_, ?_, ?_⟩
    · rw [chain_append]
      exact ⟨inv.chain, settled, trivial⟩
    · exact fun _ => (skippedAfter_append 0 history.cycles [history.current]).symm
    · intro program none
      cases none
  | @perform op following answered running answers =>
    obtain ⟨allowed, continues⟩ := inv.running _ running
    have recorded : record system (.lpStep answer) history =
        { history with current := performed op history.current } := by
      unfold record
      rw [running]
    rw [recorded]
    obtain ⟨sameLimit, sameSkipped⟩ := words_after system allowed inv.skipped
    refine ⟨sameLimit.trans inv.maxSkip, sameSkipped, ?_, inv.chain, ?_, ?_⟩
    · exact performed_within allowed inv.within
    · intro none
      cases none
    · rintro program ⟨⟩
      exact continues _ _ (effect_of_answers inv.maxSkip inv.skipped answers)

section Program

variable [FloatOps]

theorem inv_step {state next : Observed} {action : Action} (small : limit < u32Mod)
    (inv : Inv limit state) (keeps : KeepsConfig action) (taken : step state action = some next) :
    Inv limit next := by
  obtain ⟨system, history⟩ := state
  obtain ⟨stepped, recorded⟩ := Runs.observe_step taken
  obtain ⟨after, later⟩ := next
  simp only at stepped recorded
  subst recorded
  cases action with
  | lpTimer =>
    obtain ⟨asleep, same⟩ := Option.ite_none_right_eq_some.mp stepped
    rw [← Option.some.inj same]
    have start := inv.resting (Option.isNone_iff_eq_none.mp asleep)
    refine ⟨inv.maxSkip, inv.skipped, inv.within, inv.chain, ?_, ?_⟩
    · intro none
      cases none
    · rintro program ⟨⟩
      exact wp_main small start rfl
  | lpStep answer => exact inv_lp inv (lpStep_move stepped)
  | hpStore field value =>
    obtain ⟨-, same⟩ := Option.ite_none_right_eq_some.mp stepped
    rw [← Option.some.inj same]
    have kept : maxSkip (layout.store system.lock field value).memory =
          maxSkip system.lock.memory ∧
        skippedCycles (layout.store system.lock field value).memory =
          skippedCycles system.lock.memory := by
      rcases field with field | field <;> cases field <;> first | exact ⟨rfl, rfl⟩ | cases keeps
    exact ⟨kept.1.trans inv.maxSkip, kept.2.trans inv.skipped, inv.within, inv.chain, inv.resting,
      inv.running⟩
  | getState contents =>
    obtain ⟨lock, called, same⟩ := Option.map_eq_some_iff.mp stepped
    rw [← same]
    have sameMemory : lock.memory = system.lock.memory := Seqlock.call_memory called
    refine ⟨?_, ?_, inv.within, inv.chain, inv.resting, inv.running⟩
    · rw [sameMemory]
      exact inv.maxSkip
    · rw [sameMemory]
      exact inv.skipped
  | readerStep =>
    obtain ⟨lock, read, same⟩ := Option.map_eq_some_iff.mp stepped
    rw [← same]
    have sameMemory : lock.memory = system.lock.memory := Seqlock.readerStep_memory read
    refine ⟨?_, ?_, inv.within, inv.chain, inv.resting, inv.running⟩
    · rw [sameMemory]
      exact inv.maxSkip
    · rw [sameMemory]
      exact inv.skipped

omit [FloatOps] in
theorem inv_begun (config : Shared) : Inv (maxSkip config) (begun config, {}) where
  maxSkip := rfl
  skipped := rfl
  within := Nat.zero_le _
  chain := trivial
  resting _ := rfl
  running program none := by cases none

/-- `skipped_cycles` stays within the budget; of `max_skip_cycles + 1` successive
sensor-ok cycles one sets the flag unless an ack was consumed after the first of
them; and with the budget used up all of them do. -/
theorem forcedPublish (config : Shared) (small : maxSkip config < u32Mod) {actions : List Action}
    (keeps : ∀ action ∈ actions, KeepsConfig action) {final : Observed}
    (ran : Runs.run step (begun config, {}) actions = some final) :
    skippedCycles final.1.lock.memory ≤ maxSkip config ∧
      (∀ earlier window later, final.2.cycles = earlier ++ window ++ later →
        maxSkip config + 1 ≤ (window.filter CycleRecord.ok).length →
        (∀ cycle ∈ window.tail, cycle.consumed = false) →
        ∃ cycle ∈ window, cycle.ok = true ∧ cycle.flagged = true) ∧
      (∀ earlier window later, final.2.cycles = earlier ++ window ++ later →
        maxSkip config ≤ skippedAfter 0 earlier →
        (∀ cycle ∈ window, cycle.consumed = false) →
        ∀ cycle ∈ window, cycle.ok = true → cycle.flagged = true) := by
  have inv : Inv (maxSkip config) final :=
    Runs.along_invariant (Inv (maxSkip config))
      (fun _ _ _ inv keeps taken => inv_step small inv keeps taken) (inv_begun config)
      (Runs.along_of_forall keeps _) ran
  have part : ∀ {earlier window later}, final.2.cycles = earlier ++ window ++ later →
      skippedAfter 0 earlier ≤ maxSkip config ∧
        Chain (maxSkip config) (skippedAfter 0 earlier) window := by
    intro earlier window later cut
    have chain := inv.chain
    rw [cut, chain_append, chain_append] at chain
    exact ⟨chain_within chain.1.1 (Nat.zero_le _), chain.1.2⟩
  refine ⟨?_, ?_, ?_⟩
  · rw [inv.skipped]
    exact inv.within
  · intro earlier window later cut many unconsumed
    obtain ⟨start, chain⟩ := part cut
    exact window_flags chain start many unconsumed
  · intro earlier window later cut exhausted unconsumed
    obtain ⟨start, chain⟩ := part cut
    rw [Nat.le_antisymm start exhausted] at chain
    exact exhausted_flags chain unconsumed

end Program

/-- A budget of one skip, and thresholds that a constant reading stays below. -/
def oneSkip : Shared
  | .u .maxSkipCycles => (1 : Nat)
  | .f .tempMinChangeC => Flt.fin 1000
  | .f .rhMinChangePct => Flt.fin 1000
  | .u _ => (0 : Nat)
  | .f _ => Flt.fin 0

/-- One LP cycle of so many operations, with a sensor that answers zeros. -/
def poll (operations : Nat) : List Action :=
  .lpTimer :: List.replicate operations
    (.lpStep ⟨true, some ⟨0, 0, crc8 [0, 0], 0, 0, crc8 [0, 0]⟩⟩)

theorem forcedPublish_second :
    ∃ final, Runs.run (@step exactFloat) (begun oneSkip, {}) (poll 38 ++ poll 37) = some final ∧
      final.2.cycles =
        [{ ok := true, skipped := 1 }, { ok := true, flagged := true, skipped := 1 }] ∧
      skippedCycles final.1.lock.memory ≤ 1 ∧
      ∃ cycle ∈ final.2.cycles, cycle.ok = true ∧ cycle.flagged = true := by
  obtain ⟨final, ran, known⟩ := Runs.exists_final
    (fun final : Observed => decide (final.2.cycles =
      [{ ok := true, skipped := 1 }, { ok := true, flagged := true, skipped := 1 }]))
    (show (Runs.run (@step exactFloat) (begun oneSkip, {}) (poll 38 ++ poll 37)).any _ = true by
      decide +kernel)
  have cycles := of_decide_eq_true known
  obtain ⟨within, windows, -⟩ := @forcedPublish exactFloat oneSkip (by decide) (poll 38 ++ poll 37)
    (by decide) final ran
  refine ⟨final, ran, cycles, within, windows [] final.2.cycles [] (by simp) ?_ ?_⟩
  · rw [cycles]
    decide
  · rw [cycles]
    decide

end SleepySensor.SkipBudget
