import SleepySensor.LpCore

/-!
# How long the LP program takes

Its time is its explicit delays.  A cycle is short up to the store to
`heartbeat_counter`, and may take minutes in the heater block after it.
-/

set_option autoImplicit false

namespace SleepySensor.LpCore

def LpOp.delay : LpOp → Nat
  | .delayUs us => us
  | _ => 0

def Instant (op : LpOp) : Prop := op.delay = 0

abbrev Lasts {α : Type} (program : LpProg α) (us : Nat) : Prop := program.Costs LpOp.delay us

/-- `measureAveraged`: the conversion waits and the spacing of its samples. -/
def measureUs (samples : Nat) : Nat :=
  let count := if samples = 0 then 1 else samples
  count * kMeasureDelayUs + (count - 1) * kInterSampleDelayUs

/-- The pulses of the longer of the two heater modes. -/
def pulsesUs : Nat :=
  max (kHeaterDurationMs * 1000 / kHeaterMediumShortDelayUs * kHeaterMediumShortDelayUs)
    (kHeaterDurationMs * 1000 / kHeaterHighLongDelayUs * kHeaterHighLongDelayUs)

/-- The longest `runHeaterMaintenance`: every pulse and every cooldown poll. -/
def heaterUs : Nat :=
  kMeasureDelayUs +
    (pulsesUs +
      (kCooldownMaxMs / kCooldownPollMs * (kCooldownPollMs * 1000 + kMeasureDelayUs) +
        (kRhSettleMs * 1000 + kMeasureDelayUs)))

example : heaterUs = 351130000 := by decide

/-- The longest time between two stores to `heartbeat_counter` of a core that
sleeps `pollSec` between its cycles. -/
def heartbeatGapUs (pollSec samples : Nat) : Nat :=
  heaterUs + pollSec * 1000000 + measureUs samples

variable {α β : Type}

theorem lasts_instant {first : LpProg α} {rest : α → LpProg β} {us : Nat}
    (instant : first.Only Instant) (lasts : ∀ value, Lasts (rest value) us) :
    Lasts (first.bind rest) us :=
  Prog.costs_free instant (fun _ none => none) lasts

theorem increment_instant (field : UField) : (increment field).Only Instant :=
  Prog.only_bind (Prog.only_perform rfl) fun _ => Prog.only_perform rfl

theorem lasts_delayUs (us : Nat) : Lasts (delayUs us) us :=
  @Prog.costs_perform LpOp LpOp.Res LpOp.delay (.delayUs us) us (le_refl us)

/-! ## The time since the last heartbeat -/

def bumps : LpOp → Bool
  | .store (.u .heartbeatCounter) _ => true
  | _ => false

/-- The state is the time since the heartbeat was stored, which stays below
`limit` while `sensor_samples` is at most `samples`. -/
def timeContract (limit samples : Nat) : Prog.Contract LpOp LpOp.Res Nat where
  may elapsed op := elapsed + op.delay ≤ limit
  effect elapsed op answer after := after = (if bumps op then 0 else elapsed + op.delay) ∧
    match op, answer with
    | .load (.u .sensorSamples), value => (value : Nat) ≤ samples
    | _, _ => True

variable {limit samples elapsed us : Nat}

theorem wp_of_lasts {program : LpProg α} (lasts : Lasts program us)
    (room : elapsed + us ≤ limit) :
    program.wp (timeContract limit samples) elapsed fun after _ => after ≤ elapsed + us := by
  induction program generalizing elapsed us with
  | ret value => exact Nat.le_add_right elapsed us
  | call op next ih =>
    have fits : op.delay ≤ us := lasts.1
    refine ⟨le_trans (Nat.add_le_add_left fits elapsed) room, ?_⟩
    rintro answer after ⟨moved, -⟩
    have later : after + (us - op.delay) ≤ elapsed + us := by
      rw [moved]
      split <;> omega
    apply Prog.wp_mono (ih answer (lasts.2 answer) (later.trans room))
    exact fun final _ bound => bound.trans later

theorem wp_instant {program : LpProg α} (instant : program.Only Instant) (room : elapsed ≤ limit) :
    program.wp (timeContract limit samples) elapsed fun after _ => after ≤ elapsed :=
  wp_of_lasts (Prog.costs_of_only instant (fun _ none => none) 0) room

theorem wp_loadSamples (room : elapsed ≤ limit) :
    (loadU .sensorSamples).wp (timeContract limit samples) elapsed fun after value =>
      after ≤ elapsed ∧ value ≤ samples :=
  Prog.wp_perform room fun _ _ changed => ⟨changed.1.le, changed.2⟩

theorem wp_recordOutcome_time (ok : Bool) (room : elapsed ≤ limit) :
    (recordOutcome ok).wp (timeContract limit samples) elapsed fun after _ => after ≤ 0 := by
  have bumped : (increment .heartbeatCounter).wp (timeContract limit samples) elapsed
      fun after _ => after ≤ 0 := by
    refine Prog.wp_seq (wp_instant (Prog.only_perform rfl) room) fun now heartbeat early => ?_
    exact Prog.wp_perform (early.trans room) fun _ _ changed => changed.1.le
  have counted : (if ok then storeU .consecFailCount 0
      else increment .consecFailCount).Only Instant := by
    cases ok with
    | true => exact Prog.only_perform rfl
    | false => exact increment_instant _
  refine Prog.wp_seq bumped fun now _ zero => ?_
  exact Prog.wp_mono (wp_instant (Prog.only_bind (Prog.only_perform rfl) fun _ => counted)
    (zero.trans (Nat.zero_le limit))) fun after _ bound => bound.trans zero

theorem measureUs_mono {fewer more : Nat} (le : fewer ≤ more) :
    measureUs fewer ≤ measureUs more := by
  simp only [measureUs, kMeasureDelayUs, kInterSampleDelayUs]
  split <;> split <;> omega

/-! ## Parts without a delay -/

theorem recordHeaterRun_instant (run : Option HeaterRun) :
    (recordHeaterRun run).Only Instant := by
  cases run with
  | none => trivial
  | some run =>
    refine Prog.only_bind (Prog.only_perform rfl) fun _ => ?_
    refine Prog.only_bind (Prog.only_perform rfl) fun _ => ?_
    refine Prog.only_bind (Prog.only_perform rfl) fun _ => ?_
    refine Prog.only_bind (Prog.only_perform rfl) fun _ => ?_
    refine Prog.only_bind (Prog.only_perform rfl) fun _ => ?_
    refine Prog.only_bind (Prog.only_perform rfl) fun _ => ?_
    exact increment_instant _

theorem heaterDue_instant (schedule counter : UField) :
    (heaterDue schedule counter).Only Instant := by
  refine Prog.only_bind (Prog.only_perform rfl) fun limit => ?_
  by_cases scheduled : 0 < limit
  · simp only [if_pos scheduled]
    refine Prog.only_bind (Prog.only_perform rfl) fun _ => ?_
    exact Prog.only_bind (Prog.only_perform rfl) fun _ => trivial
  · simp only [if_neg scheduled]
    trivial

theorem consumeAck_instant : consumeAck.Only Instant := by
  refine Prog.only_bind (Prog.only_perform rfl) fun hpAckSeq => ?_
  refine Prog.only_bind (Prog.only_perform rfl) fun lastConsumed => ?_
  by_cases new : hpAckSeq ≠ lastConsumed
  · simp only [if_pos new]
    refine Prog.only_bind (Prog.only_perform rfl) fun _ => ?_
    refine Prog.only_bind (Prog.only_perform rfl) fun _ => ?_
    refine Prog.only_bind (Prog.only_perform rfl) fun _ => ?_
    refine Prog.only_bind (Prog.only_perform rfl) fun _ => ?_
    refine Prog.only_bind (Prog.only_perform rfl) fun _ => ?_
    refine Prog.only_bind (Prog.only_perform rfl) fun _ => ?_
    exact Prog.only_perform rfl
  · simp only [if_neg new]
    trivial

section Program

variable [FloatOps]

/-! ## Measuring -/

theorem lasts_measure (cmd us : Nat) : Lasts (measure cmd us) us := by
  unfold measure
  refine lasts_instant (Prog.only_perform rfl) fun acknowledged => ?_
  split
  · refine Prog.costs_mono (Prog.costs_bind (lasts_delayUs us) fun _ => ?_) (Nat.add_zero us).le
    refine lasts_instant (Prog.only_perform rfl) fun raw => ?_
    cases raw with
    | none => trivial
    | some raw => trivial
  · trivial

theorem lasts_measureLoop (first : Bool) (remaining : Nat) (sumT sumH : Flt) (ok : Nat) :
    Lasts (measureLoop first remaining sumT sumH ok)
      (remaining * kMeasureDelayUs +
        (if first then remaining - 1 else remaining) * kInterSampleDelayUs) := by
  induction remaining generalizing first sumT sumH ok with
  | zero => trivial
  | succ remaining ih =>
    have sample : ∀ next : Option Reading → LpProg (Flt × Flt × Nat),
        Lasts (next none) (remaining * kMeasureDelayUs + remaining * kInterSampleDelayUs) →
        (∀ reading, Lasts (next (some reading))
          (remaining * kMeasureDelayUs + remaining * kInterSampleDelayUs)) →
        Lasts ((measure kCmdMeasureHigh kMeasureDelayUs).bind next)
          (kMeasureDelayUs +
            (remaining * kMeasureDelayUs + remaining * kInterSampleDelayUs)) := by
      intro next failed read
      refine Prog.costs_bind (lasts_measure _ _) fun reading => ?_
      cases reading with
      | none => exact failed
      | some reading => exact read reading
    rw [measureLoop]
    cases first with
    | true =>
      apply Prog.costs_mono (sample _ (ih false _ _ _) fun _ => ih false _ _ _)
      simp only [kMeasureDelayUs, kInterSampleDelayUs, if_true]
      omega
    | false =>
      apply Prog.costs_mono (Prog.costs_bind (lasts_delayUs _) fun _ =>
        sample _ (ih false _ _ _) fun _ => ih false _ _ _)
      simp only [kMeasureDelayUs, kInterSampleDelayUs, Bool.false_eq_true, if_false]
      omega

theorem lasts_measureAveraged (samples : Nat) :
    Lasts (measureAveraged samples) (measureUs samples) :=
  Prog.costs_mono (Prog.costs_bind (lasts_measureLoop true _ _ _ 0) fun _ => trivial)
    (Nat.add_zero _).le

/-! ## Heater maintenance -/

theorem lasts_pulseLoop (heaterCmd heaterDelay : Nat) (minDeltaT t0 : Flt) (remaining : Nat)
    (hot : Reading) :
    Lasts (pulseLoop heaterCmd heaterDelay minDeltaT t0 remaining hot)
      (remaining * heaterDelay) := by
  induction remaining generalizing hot with
  | zero => trivial
  | succ remaining ih =>
    rw [pulseLoop, Nat.succ_mul, Nat.add_comm (remaining * heaterDelay)]
    refine Prog.costs_bind (lasts_measure _ _) fun pulse => ?_
    cases pulse with
    | none => exact ih hot
    | some pulse =>
      dsimp only
      split
      · trivial
      · exact ih pulse

theorem lasts_cooldownLoop (t0 : Flt) (remaining : Nat) (last : Reading) :
    Lasts (cooldownLoop t0 remaining last)
      (remaining * (kCooldownPollMs * 1000 + kMeasureDelayUs)) := by
  induction remaining generalizing last with
  | zero => trivial
  | succ remaining ih =>
    rw [cooldownLoop, Nat.succ_mul, Nat.add_comm (remaining * _), Nat.add_assoc]
    refine Prog.costs_bind (lasts_delayUs _) fun _ => ?_
    refine Prog.costs_bind (lasts_measure _ _) fun cooled => ?_
    cases cooled with
    | none => exact ih last
    | some cooled =>
      dsimp only
      split
      · trivial
      · exact ih cooled

theorem lasts_runHeaterMaintenance {heaterCmd heaterDelay : Nat} (minDeltaT : Flt)
    (short : kHeaterDurationMs * 1000 / heaterDelay * heaterDelay ≤ pulsesUs) :
    Lasts (runHeaterMaintenance heaterCmd heaterDelay minDeltaT) heaterUs := by
  unfold runHeaterMaintenance heaterUs
  refine Prog.costs_bind (lasts_measure _ _) fun baseline => ?_
  cases baseline with
  | none => trivial
  | some baseline =>
    refine Prog.costs_bind (Prog.costs_mono (lasts_pulseLoop _ _ _ _ _ _) short) fun hot => ?_
    refine Prog.costs_bind (lasts_cooldownLoop _ _ _) fun last => ?_
    refine Prog.costs_bind (lasts_delayUs _) fun _ => ?_
    exact Prog.costs_mono (Prog.costs_bind (lasts_measure _ _) fun final => trivial)
      (Nat.add_zero _).le

theorem lasts_heaterRun (creep : Bool) : Lasts (heaterRun creep) heaterUs := by
  cases creep with
  | true => exact lasts_runHeaterMaintenance _ (le_max_right _ _)
  | false => exact lasts_runHeaterMaintenance _ (le_max_left _ _)

theorem lasts_heaterBlock (creep : Bool) (reading : Reading) :
    Lasts (heaterBlock creep reading) heaterUs := by
  unfold heaterBlock
  refine lasts_instant (Prog.only_perform rfl) fun _ => ?_
  refine lasts_instant (increment_instant _) fun _ => ?_
  refine Prog.costs_mono (Prog.costs_bind (lasts_heaterRun creep) fun run => ?_)
    (Nat.add_zero _).le
  refine lasts_instant (increment_instant _) fun _ => ?_
  refine lasts_instant (recordHeaterRun_instant run) fun _ => ?_
  refine lasts_instant (Prog.only_perform rfl) fun _ => ?_
  refine lasts_instant (Prog.only_perform rfl) fun _ => ?_
  refine lasts_instant (Prog.only_perform rfl) fun _ => ?_
  cases run <;> trivial

/-! ## A cycle -/

theorem heaterSchedule_instant (reading : Reading) :
    (heaterSchedule reading).Only Instant := by
  have counted : ∀ humPct, (countHighRh humPct).Only Instant := by
    intro humPct
    unfold countHighRh
    split
    · exact increment_instant _
    · exact Prog.only_perform rfl
  refine Prog.only_bind (increment_instant _) fun _ => ?_
  refine Prog.only_bind (Prog.only_perform rfl) fun offset => ?_
  refine Prog.only_bind (counted _) fun _ => ?_
  refine Prog.only_bind (heaterDue_instant _ _) fun _ => ?_
  exact Prog.only_bind (heaterDue_instant _ _) fun _ => trivial

theorem sameAsPrevDelivered_instant (calTemp calHum : Flt) :
    (sameAsPrevDelivered calTemp calHum).Only Instant := by
  refine Prog.only_bind (Prog.only_perform rfl) fun prevTemp => ?_
  refine Prog.only_bind (Prog.only_perform rfl) fun prevHum => ?_
  refine Prog.only_bind (Prog.only_perform rfl) fun minChange => ?_
  split
  · exact Prog.only_bind (Prog.only_perform rfl) fun _ => trivial
  · trivial

theorem calibrateAndDecide_instant (reading : Reading) :
    (calibrateAndDecide reading).Only Instant := by
  have within : ∀ same, (withinSkipBudget same).Only Instant := by
    intro same
    cases same with
    | false => trivial
    | true =>
      refine Prog.only_bind (Prog.only_perform rfl) fun _ => ?_
      exact Prog.only_bind (Prog.only_perform rfl) fun _ => trivial
  have counted : ∀ skipThisCycle, (countSkip skipThisCycle).Only Instant := by
    intro skipThisCycle
    cases skipThisCycle with
    | false => trivial
    | true => exact increment_instant _
  refine Prog.only_bind (Prog.only_perform rfl) fun _ => ?_
  refine Prog.only_bind (Prog.only_perform rfl) fun _ => ?_
  refine Prog.only_bind (Prog.only_perform rfl) fun _ => ?_
  refine Prog.only_bind (Prog.only_perform rfl) fun _ => ?_
  refine Prog.only_bind (sameAsPrevDelivered_instant _ _) fun same => ?_
  refine Prog.only_bind (within same) fun skipThisCycle => ?_
  exact Prog.only_bind (counted skipThisCycle) fun _ => trivial

theorem lasts_processReading (reading : Option Reading) :
    Lasts (processReading reading) heaterUs := by
  cases reading with
  | none => trivial
  | some reading =>
    refine lasts_instant (Prog.only_perform rfl) fun _ => ?_
    refine lasts_instant (Prog.only_perform rfl) fun _ => ?_
    refine lasts_instant (heaterSchedule_instant reading) fun due => ?_
    refine Prog.costs_mono (Prog.costs_bind ?_ fun clean => ?_) (Nat.add_zero _).le
    · unfold maintain
      split
      · exact lasts_heaterBlock due.humidity reading
      · trivial
    · exact Prog.costs_of_only (calibrateAndDecide_instant clean) (fun _ none => none) 0

theorem wp_cycleBody_time {wasOk : Nat} (short : elapsed + measureUs samples ≤ limit)
    (long : heaterUs ≤ limit) :
    (cycleBody wasOk).wp (timeContract limit samples) elapsed fun after _ => after ≤ heaterUs := by
  have room : elapsed ≤ limit := (Nat.le_add_right _ _).trans short
  refine Prog.wp_seq (wp_loadSamples room) fun start count ⟨early, few⟩ => ?_
  have fits : start + measureUs count ≤ limit :=
    (Nat.add_le_add early (measureUs_mono few)).trans short
  refine Prog.wp_seq (wp_of_lasts (lasts_measureAveraged count) fits) fun now reading bound => ?_
  refine Prog.wp_seq (wp_recordOutcome_time _ (bound.trans fits)) fun bumped _ zero => ?_
  have heated : bumped + heaterUs ≤ limit := by omega
  refine Prog.wp_seq (wp_of_lasts (lasts_processReading reading) heated) fun done _ within => ?_
  refine Prog.wp_mono (wp_instant (Prog.only_perform rfl) (within.trans heated)) ?_
  exact fun after _ later => by omega

theorem wp_main_time {pollSec : Nat} (start : elapsed ≤ heaterUs + pollSec * 1000000) :
    main.wp (timeContract (heartbeatGapUs pollSec samples) samples) elapsed
      fun after _ => after ≤ heaterUs := by
  have short : elapsed + measureUs samples ≤ heartbeatGapUs pollSec samples :=
    Nat.add_le_add_right start _
  have room : elapsed ≤ heartbeatGapUs pollSec samples := (Nat.le_add_right _ _).trans short
  have long : heaterUs ≤ heartbeatGapUs pollSec samples := by
    unfold heartbeatGapUs
    omega
  refine Prog.wp_seq (wp_instant consumeAck_instant room) fun first _ early => ?_
  have opening : (loadU .sensorOk).Only Instant := Prog.only_perform rfl
  refine Prog.wp_seq (wp_instant opening (early.trans room)) fun second wasOk early₂ => ?_
  have passed : second ≤ elapsed := early₂.trans early
  refine Prog.wp_seq (wp_instant (increment_instant .resultSeq) (passed.trans room))
    fun third _ early₃ => ?_
  have measured : third + measureUs samples ≤ heartbeatGapUs pollSec samples :=
    (Nat.add_le_add_right (early₃.trans passed) _).trans short
  refine Prog.wp_seq (wp_cycleBody_time measured long) fun fourth _ within => ?_
  have closing : (do
      increment .resultSeq
      if (← loadU .shouldWakeHp) ≠ 0 then
        (Prog.perform LpOp.wakeupMainProcessor : LpProg Unit)).Only Instant := by
    refine Prog.only_bind (increment_instant _) fun _ => Prog.only_bind (Prog.only_perform rfl) ?_
    intro flag
    split
    · exact Prog.only_perform rfl
    · trivial
  exact Prog.wp_mono (wp_instant closing (within.trans long)) fun after _ later =>
    later.trans within

end Program

end SleepySensor.LpCore
