import SleepySensor.LpCycles

/-!
# The reading behind the calibrated values

A cycle of the LP program stores `cal_temp_c` and `cal_hum_pct` only after a
successful read; a failed one leaves those of an earlier cycle.  `Reads` tells in
which cycle a pair was computed.
-/

set_option autoImplicit false

namespace SleepySensor.CycleReads

open SleepySensor SleepySensor.LpCore Snapshot

/-- The words that tell which cycle the calibrated values are of. -/
structure Reads where
  seq : Nat := 0
  active : Nat := 0
  heartbeat : Nat := 0
  ok : Nat := 0
  calTemp : Flt := .fin 0
  calHum : Flt := .fin 0
  /-- Cycles that opened their odd window, and polls counted. -/
  started : Nat := 0
  polls : Nat := 0
  /-- The last cycle in which the sensor gave an answer with good CRCs. -/
  readIn : Nat := 0
  /-- The pairs stored in a cycle with such an answer, with that cycle. -/
  computed : List (Nat × Flt × Flt) := []

/-- One operation of the LP program; `raw` is what the sensor answers to a read. -/
def performed (raw : Option Raw6) : LpOp → Reads → Reads
  | .store (.u .resultSeq) value, reads =>
    if reads.active = 0 ∧ reads.seq % 2 = 0 then
      { reads with seq := value, started := reads.started + 1 }
    else { reads with seq := value }
  | .store (.u .heaterActive) value, reads => { reads with active := value }
  | .store (.u .heartbeatCounter) value, reads =>
    { reads with heartbeat := value, polls := reads.polls + 1 }
  | .store (.u .sensorOk) value, reads => { reads with ok := value }
  | .store (.f .calTempC) value, reads => { reads with calTemp := value }
  | .store (.f .calHumPct) value, reads =>
    { reads with
      calHum := value
      computed :=
        if reads.readIn = reads.started then (reads.started, reads.calTemp, value) :: reads.computed
        else reads.computed }
  | .i2cRead, reads =>
    if raw.any Raw6.crcOk then { reads with readIn := reads.started } else reads
  | _, reads => reads

def rawOf : (op : LpOp) → op.Res → Option Raw6
  | .i2cRead, raw => raw
  | _, _ => none

def readsField : Field → Bool
  | .u .resultSeq | .u .heaterActive | .u .heartbeatCounter | .u .sensorOk => true
  | .f .calTempC | .f .calHumPct => true
  | _ => false

/-- Outside the cycles, with the sensor reported OK, the pair is of the last cycle. -/
structure Good (reads : Reads) : Prop where
  beat : reads.heartbeat = u32 reads.polls
  fresh : reads.seq % 2 = 0 → reads.active = 0 → reads.polls = reads.started ∧
    (reads.ok ≠ 0 → (reads.started, reads.calTemp, reads.calHum) ∈ reads.computed)

def readsContract : Prog.Contract LpOp LpOp.Res Reads where
  may reads op := Good (performed none op reads)
  effect reads op answer after := after = performed (rawOf op answer) op reads ∧
    match op, answer with
    | .load (.u .resultSeq), value => (value : Nat) = reads.seq
    | .load (.u .heartbeatCounter), value => (value : Nat) = reads.heartbeat
    | _, _ => True

def MildOp : LpOp → Prop
  | .store field _ => readsField field = false
  | _ => True

/-- All is as it was, but for reads of the sensor in the cycle under way. -/
def Heard (reads after : Reads) : Prop :=
  ∃ cycle, (cycle = reads.readIn ∨ cycle = reads.started) ∧ after = { reads with readIn := cycle }

variable {reads after : Reads}

theorem Heard.refl (reads : Reads) : Heard reads reads := ⟨reads.readIn, .inl rfl, rfl⟩

theorem Heard.trans {later : Reads} (first : Heard reads after) (second : Heard after later) :
    Heard reads later := by
  obtain ⟨cycle, known, rfl⟩ := first
  obtain ⟨again, from_, rfl⟩ := second
  refine ⟨again, ?_, rfl⟩
  rcases from_ with rfl | rfl
  · exact known
  · exact .inr rfl

theorem performed_mild {op : LpOp} (mild : MildOp op) (raw : Option Raw6) :
    Heard reads (performed raw op reads) := by
  cases op with
  | store field value =>
    rcases field with field | field <;> cases field <;> first | exact Heard.refl _ | cases mild
  | i2cRead =>
    simp only [performed]
    split
    · exact ⟨reads.started, .inr rfl, rfl⟩
    · exact Heard.refl _
  | _ => exact Heard.refl _

theorem Heard.good (heard : Heard reads after) (good : Good reads) : Good after := by
  obtain ⟨cycle, -, rfl⟩ := heard
  exact ⟨good.beat, good.fresh⟩

theorem mild_of_storesIn {fields : List Field}
    (apart : ∀ field ∈ fields, readsField field = false) (op : LpOp)
    (stores : StoresIn fields op) : MildOp op := by
  cases op with
  | store field value => exact apart field stores
  | _ => trivial

theorem quiet_mild (op : LpOp) (quiet : QuietOp op) : MildOp op := by
  cases op with
  | store field value => exact quiet.elim
  | _ => trivial

theorem outside_mild (op : LpOp) (outside : OutsideOp op) : MildOp op := by
  cases op with
  | store field value =>
    obtain ⟨notSeq, free⟩ := outside
    rcases field with field | field <;> cases field <;>
      first | rfl | exact (notSeq rfl).elim | cases free
  | _ => trivial

theorem wp_mild {α : Type} {program : LpProg α} (good : Good reads)
    (only : program.Only MildOp) :
    program.wp readsContract reads fun after _ => Heard reads after := by
  refine Prog.wp_of_preserved only ?_ ?_ (Heard.refl reads)
  · intro op before mild heard
    exact (performed_mild mild none).good (heard.good good)
  · rintro op before answer _ mild heard ⟨rfl, -⟩
    exact heard.trans (performed_mild mild _)

theorem wp_store {field : Field} {value : field.Val}
    (good : Good (performed none (.store field value) reads)) :
    (Prog.perform (LpOp.store field value) : LpProg Unit).wp readsContract reads fun after _ =>
      after = performed none (.store field value) reads :=
  Prog.wp_perform good fun _ _ changed => changed.1

theorem wp_bump (good : Good reads)
    (bumped : Good (performed none (.store (.u .resultSeq) (u32 (reads.seq + 1))) reads)) :
    (increment .resultSeq).wp readsContract reads fun after _ =>
      after = performed none (.store (.u .resultSeq) (u32 (reads.seq + 1))) reads := by
  refine Prog.wp_bind ⟨good, ?_⟩
  intro value after loaded
  have same : after = reads := loaded.1
  have current : value = reads.seq := loaded.2
  subst same current
  exact ⟨bumped, fun _ _ changed => changed.1⟩

/-! ## The stages of a cycle -/

/-- Inside a cycle: where `result_seq` and `heater_active` stand, and how far the
polls are behind. -/
structure At (parity behind : Nat) (hot : Bool) (reads : Reads) : Prop where
  beat : reads.heartbeat = u32 reads.polls
  parity : reads.seq % 2 = parity
  hot : reads.active ≠ 0 ↔ hot = true
  polls : reads.polls + behind = reads.started

abbrev Opened : Reads → Prop := At 1 1 false
abbrev Polled : Reads → Prop := At 1 0 false
abbrev Heating (parity : Nat) : Reads → Prop := At parity 0 true

structure Resting (reads : Reads) : Prop where
  good : Good reads
  even : reads.seq % 2 = 0
  cold : reads.active = 0

theorem At.good {parity behind : Nat} {hot : Bool} (at_ : At parity behind hot reads)
    (busy : parity = 1 ∨ hot = true) : Good reads := by
  refine ⟨at_.beat, fun even cold => ?_⟩
  rcases busy with odd | isHot
  · exact absurd (at_.parity.symm.trans even) (by omega)
  · exact absurd cold (at_.hot.mpr isHot)

theorem Heard.at_ {parity behind : Nat} {hot : Bool} (heard : Heard reads after)
    (at_ : At parity behind hot reads) : At parity behind hot after := by
  obtain ⟨cycle, -, rfl⟩ := heard
  exact ⟨at_.beat, at_.parity, at_.hot, at_.polls⟩

theorem Heard.read (heard : Heard reads after) (read : reads.readIn = reads.started) :
    after.readIn = after.started := by
  obtain ⟨cycle, rfl | rfl, rfl⟩ := heard
  · exact read
  · rfl

theorem wp_open (resting : Resting reads) :
    (increment .resultSeq).wp readsContract reads fun after _ => Opened after := by
  obtain ⟨good, even, cold⟩ := resting
  obtain ⟨polls, -⟩ := good.fresh even cold
  have bumped : performed none (.store (.u .resultSeq) (u32 (reads.seq + 1))) reads =
      { reads with seq := u32 (reads.seq + 1), started := reads.started + 1 } :=
    if_pos ⟨cold, even⟩
  have opened : Opened { reads with seq := u32 (reads.seq + 1), started := reads.started + 1 } := by
    refine ⟨good.beat, ?_, by simp [cold], congrArg (· + 1) polls⟩
    show u32 (reads.seq + 1) % 2 = 1
    rw [u32_parity]
    omega
  refine Prog.wp_mono (wp_bump good (bumped ▸ opened.good (.inl rfl))) fun after _ same => ?_
  rw [same, bumped]
  exact opened

theorem wp_poll (opened : Opened reads) :
    (increment .heartbeatCounter).wp readsContract reads fun after _ =>
      Polled after ∧ (after.readIn = after.started ↔ reads.readIn = reads.started) := by
  have beat : u32 (reads.heartbeat + 1) = u32 (reads.polls + 1) := by
    rw [opened.beat]
    exact Nat.mod_add_mod _ _ _
  have polled : Polled (performed none
      (.store (.u .heartbeatCounter) (u32 (reads.heartbeat + 1))) reads) :=
    ⟨beat, opened.parity, opened.hot, opened.polls⟩
  refine Prog.wp_bind ⟨opened.good (.inl rfl), ?_⟩
  intro value after loaded
  have same : after = reads := loaded.1
  have current : value = reads.heartbeat := loaded.2
  subst same current
  refine ⟨polled.good (.inl rfl), ?_⟩
  rintro _ _ ⟨rfl, -⟩
  exact ⟨polled, Iff.rfl⟩

theorem wp_intermediate {parity other : Nat} (heating : Heating parity reads)
    (flips : (parity + 1) % 2 = other) :
    (increment .resultSeq).wp readsContract reads fun after _ =>
      Heating other after ∧ (reads.readIn = reads.started → after.readIn = after.started) := by
  have bumped : performed none (.store (.u .resultSeq) (u32 (reads.seq + 1))) reads =
      { reads with seq := u32 (reads.seq + 1) } := if_neg fun cold => heating.hot.mpr rfl cold.1
  have later : Heating other { reads with seq := u32 (reads.seq + 1) } := by
    refine ⟨heating.beat, ?_, heating.hot, heating.polls⟩
    show u32 (reads.seq + 1) % 2 = other
    rw [u32_parity, Nat.add_mod, heating.parity]
    omega
  refine Prog.wp_mono (wp_bump (heating.good (.inr rfl)) (bumped ▸ later.good (.inr rfl)))
    fun after _ same => ?_
  rw [same, bumped]
  exact ⟨later, id⟩

/-- The cycle has read the sensor, and is yet to store what it computes from that. -/
structure HasRead (reads : Reads) : Prop where
  at_ : Polled reads
  read : reads.readIn = reads.started

/-- At the end of a cycle that reports the sensor OK, the pair is its own. -/
structure Done (reads : Reads) : Prop where
  at_ : Polled reads
  own : reads.ok ≠ 0 → (reads.started, reads.calTemp, reads.calHum) ∈ reads.computed

theorem Heard.hasRead (heard : Heard reads after) (hasRead : HasRead reads) : HasRead after :=
  ⟨heard.at_ hasRead.at_, heard.read hasRead.read⟩

theorem Heard.done (heard : Heard reads after) (done : Done reads) : Done after := by
  refine ⟨heard.at_ done.at_, ?_⟩
  obtain ⟨cycle, -, rfl⟩ := heard
  exact done.own

theorem wp_recordOutcome (opened : Opened reads) (ok : Bool)
    (read : ok = true → reads.readIn = reads.started) :
    (recordOutcome ok).wp readsContract reads fun after _ =>
      Polled after ∧ (if ok then HasRead after else after.ok = 0) := by
  refine Prog.wp_seq (wp_poll opened) fun counted _ polled => ?_
  obtain ⟨at_, same⟩ := polled
  generalize outcome : (if ok then 1 else 0) = value
  have stays : Polled (performed none (.store (.u .sensorOk) value) counted) :=
    ⟨at_.beat, at_.parity, at_.hot, at_.polls⟩
  apply Prog.wp_seq (wp_store (stays.good (.inl rfl)))
  rintro stored _ rfl
  have failures : (if ok then storeU .consecFailCount 0
      else increment .consecFailCount).Only MildOp := by
    cases ok with
    | true => exact Prog.only_perform rfl
    | false => exact Prog.only_bind (Prog.only_perform trivial) fun _ => Prog.only_perform rfl
  refine Prog.wp_mono (wp_mild (stays.good (.inl rfl)) failures) fun after _ heard => ?_
  refine ⟨heard.at_ stays, ?_⟩
  cases ok with
  | true => exact heard.hasRead ⟨stays, same.mpr (read rfl)⟩
  | false =>
    obtain ⟨cycle, -, rfl⟩ := heard
    exact outcome.symm

theorem wp_complete (done : Done reads) :
    (increment .resultSeq).wp readsContract reads fun after _ => Resting after := by
  obtain ⟨at_, own⟩ := done
  have cold : reads.active = 0 := by
    by_contra active
    exact Bool.false_ne_true (at_.hot.mp active)
  have odd : reads.seq % 2 = 1 := at_.parity
  have even : u32 (reads.seq + 1) % 2 = 0 := by
    rw [u32_parity]
    omega
  have bumped : performed none (.store (.u .resultSeq) (u32 (reads.seq + 1))) reads =
      { reads with seq := u32 (reads.seq + 1) } := by
    apply if_neg
    rintro ⟨-, even⟩
    omega
  have good : Good { reads with seq := u32 (reads.seq + 1) } :=
    ⟨at_.beat, fun _ _ => ⟨at_.polls, own⟩⟩
  refine Prog.wp_mono (wp_bump (at_.good (.inl rfl)) (bumped ▸ good)) fun after _ same => ?_
  rw [same, bumped]
  exact ⟨good, even, cold⟩

theorem Heard.resting (heard : Heard reads after) (resting : Resting reads) : Resting after := by
  refine ⟨heard.good resting.good, ?_, ?_⟩
  · obtain ⟨cycle, -, rfl⟩ := heard
    exact resting.even
  · obtain ⟨cycle, -, rfl⟩ := heard
    exact resting.cold

/-! ## Measuring -/

section Program

variable [FloatOps]

theorem wp_measure (good : Good reads) (cmd delay : Nat) :
    (measure cmd delay).wp readsContract reads fun after result =>
      Heard reads after ∧ (result.isSome = true → after.readIn = after.started) := by
  refine Prog.wp_bind ⟨good, fun acknowledged after written => ?_⟩
  have same : after = reads := written.1
  subst same
  cases acknowledged with
  | false => exact ⟨Heard.refl after, by rintro ⟨⟩⟩
  | true =>
    refine Prog.wp_bind ⟨good, fun _ before delayed => ?_⟩
    have same : before = after := delayed.1
    subst same
    refine Prog.wp_bind ⟨good, fun raw last answered => ?_⟩
    have read : last = performed raw .i2cRead before := answered.1
    subst read
    have heard : Heard before (performed raw .i2cRead before) :=
      @performed_mild before .i2cRead trivial raw
    cases raw with
    | none => exact ⟨heard, by rintro ⟨⟩⟩
    | some raw =>
      refine ⟨heard, fun read => ?_⟩
      have valid : raw.crcOk = true := by
        by_contra invalid
        simp [invalid] at read
      simp [performed, valid]

theorem wp_measureLoop (good : Good reads) (first : Bool) (remaining : Nat) (sumT sumH : Flt)
    (ok : Nat) (read : ok ≠ 0 → reads.readIn = reads.started) :
    (measureLoop first remaining sumT sumH ok).wp readsContract reads fun after result =>
      Heard reads after ∧ (result.2.2 ≠ 0 → after.readIn = after.started) := by
  induction remaining generalizing reads first sumT sumH ok with
  | zero => exact ⟨Heard.refl reads, read⟩
  | succ remaining ih =>
    have rest : (measureLoop true (remaining + 1) sumT sumH ok).wp readsContract reads
        fun after result =>
          Heard reads after ∧ (result.2.2 ≠ 0 → after.readIn = after.started) := by
      refine Prog.wp_seq (wp_measure good _ _) fun after result measured => ?_
      obtain ⟨heard, valid⟩ := measured
      have chained : ∀ last : Reads, ∀ value : Flt × Flt × Nat, Heard after last ∧
          (value.2.2 ≠ 0 → last.readIn = last.started) → Heard reads last ∧
            (value.2.2 ≠ 0 → last.readIn = last.started) :=
        fun last value known => ⟨heard.trans known.1, known.2⟩
      cases result with
      | none =>
        have before := ih (heard.good good) false sumT sumH ok fun some_ => heard.read (read some_)
        exact Prog.wp_mono before chained
      | some reading =>
        exact Prog.wp_mono (ih (heard.good good) _ _ _ _ fun _ => valid rfl) chained
    cases first with
    | true => exact rest
    | false =>
      refine Prog.wp_bind ⟨good, fun _ after delayed => ?_⟩
      have same : after = reads := delayed.1
      rw [same]
      exact rest

theorem wp_measureAveraged (good : Good reads) (samples : Nat) :
    (measureAveraged samples).wp readsContract reads fun after result =>
      Heard reads after ∧ (result.isSome = true → after.readIn = after.started) := by
  apply Prog.wp_seq (wp_measureLoop good _ _ _ _ 0 fun some_ => absurd rfl some_)
  rintro after ⟨sumT, sumH, ok⟩ ⟨heard, read⟩
  refine ⟨heard, fun result => read fun none_ => ?_⟩
  have none_ : ok = 0 := none_
  simp [none_] at result

/-! ## Whole cycles -/

theorem wp_heaterBlock (hasRead : HasRead reads) (creep : Bool) (reading : Reading) :
    (heaterBlock creep reading).wp readsContract reads fun after _ => HasRead after := by
  obtain ⟨at_, read⟩ := hasRead
  have hot : Heating 1 (performed none (.store (.u .heaterActive) (1 : Nat)) reads) :=
    ⟨at_.beat, at_.parity, iff_of_true Nat.one_ne_zero rfl, at_.polls⟩
  apply Prog.wp_seq (wp_store (hot.good (.inl rfl)))
  rintro heated _ rfl
  refine Prog.wp_seq (wp_intermediate hot rfl) fun published _ stable => ?_
  obtain ⟨stable, kept⟩ := stable
  have run : (heaterRun creep).Only MildOp := Prog.only_mono quiet_mild (heaterRun_quiet creep)
  refine Prog.wp_seq (wp_mild (stable.good (.inr rfl)) run) fun ran run heard => ?_
  refine Prog.wp_seq (wp_intermediate (heard.at_ stable) rfl) fun resumed _ writing => ?_
  obtain ⟨writing, keeps⟩ := writing
  have recorded : (recordHeaterRun run).Only MildOp :=
    Prog.only_mono (mild_of_storesIn (by decide)) (recordHeaterRun_storesIn run)
  refine Prog.wp_seq (wp_mild (writing.good (.inl rfl)) recorded) fun noted _ later => ?_
  have noted_ := later.at_ writing
  have cold : Polled (performed none (.store (.u .heaterActive) (0 : Nat)) noted) :=
    ⟨noted_.beat, noted_.parity, iff_of_false (fun isHot => isHot rfl) Bool.false_ne_true,
      noted_.polls⟩
  apply Prog.wp_seq (wp_store (cold.good (.inl rfl)))
  rintro cooled _ rfl
  have done : HasRead (performed none (.store (.u .heaterActive) (0 : Nat)) noted) :=
    ⟨cold, later.read (keeps (heard.read (kept read)))⟩
  refine Prog.wp_mono (wp_mild (cold.good (.inl rfl)) ?_) fun _ _ heard => heard.hasRead done
  exact Prog.only_bind (Prog.only_perform rfl) fun _ =>
    Prog.only_bind (Prog.only_perform rfl) fun _ => trivial

theorem wp_maintain (hasRead : HasRead reads) (due : HeaterDue) (reading : Reading) :
    (maintain due reading).wp readsContract reads fun after _ => HasRead after := by
  unfold maintain
  split
  · exact wp_heaterBlock hasRead due.humidity reading
  · exact hasRead

theorem wp_calibrateAndDecide (hasRead : HasRead reads) (reading : Reading) :
    (calibrateAndDecide reading).wp readsContract reads fun after _ => Done after := by
  have good := hasRead.at_.good (.inl rfl)
  refine Prog.wp_seq (wp_mild good (Prog.only_perform trivial)) fun first tempOffset heard => ?_
  have hasRead := heard.hasRead hasRead
  refine Prog.wp_seq (wp_mild (heard.good good) (Prog.only_perform trivial))
    fun second rhOffset heard => ?_
  obtain ⟨at_, read⟩ := heard.hasRead hasRead
  generalize clampf _ _ _ = calHum
  generalize clampf _ _ _ = calTemp
  have temp : Polled (performed none (.store (.f .calTempC) calTemp) second) :=
    ⟨at_.beat, at_.parity, at_.hot, at_.polls⟩
  apply Prog.wp_seq (wp_store (temp.good (.inl rfl)))
  rintro third _ rfl
  have both : Done (performed none (.store (.f .calHumPct) calHum)
      (performed none (.store (.f .calTempC) calTemp) second)) := by
    refine ⟨⟨at_.beat, at_.parity, at_.hot, at_.polls⟩, fun _ => ?_⟩
    simp [performed, read]
  apply Prog.wp_seq (wp_store (both.at_.good (.inl rfl)))
  rintro fourth _ rfl
  refine Prog.wp_mono (wp_mild (both.at_.good (.inl rfl)) ?_) fun _ _ heard => heard.done both
  refine Prog.only_bind (Prog.only_mono quiet_mild (sameAsPrevDelivered_quiet _ _)) fun same => ?_
  refine Prog.only_bind (Prog.only_mono quiet_mild (withinSkipBudget_quiet same)) fun skips => ?_
  refine Prog.only_bind ?_ fun _ => trivial
  cases skips with
  | true => exact Prog.only_bind (Prog.only_perform trivial) fun _ => Prog.only_perform rfl
  | false => trivial

theorem wp_processReading {reading : Option Reading}
    (polled : Polled reads ∧ (if reading.isSome then HasRead reads else reads.ok = 0)) :
    (processReading reading).wp readsContract reads fun after _ => Done after := by
  obtain ⟨at_, outcome⟩ := polled
  cases reading with
  | none => exact ⟨at_, fun ok => absurd outcome ok⟩
  | some reading =>
    have hasRead : HasRead reads := outcome
    have good := at_.good (.inl rfl)
    refine Prog.wp_seq (wp_mild good (Prog.only_perform rfl)) fun first _ heard => ?_
    have hasRead := heard.hasRead hasRead
    have good := heard.good good
    refine Prog.wp_seq (wp_mild good (Prog.only_perform rfl)) fun second _ heard => ?_
    have hasRead := heard.hasRead hasRead
    have good := heard.good good
    refine Prog.wp_seq (wp_mild good (Prog.only_mono (mild_of_storesIn (by decide))
      (heaterSchedule_storesIn reading))) fun third due heard => ?_
    refine Prog.wp_seq (wp_maintain (heard.hasRead hasRead) due reading)
      fun fourth clean hasRead => ?_
    exact wp_calibrateAndDecide hasRead clean

theorem wp_cycleBody (opened : Opened reads) (wasOk : Nat) :
    (cycleBody wasOk).wp readsContract reads fun after _ => Done after := by
  have good := opened.good (.inl rfl)
  refine Prog.wp_seq (wp_mild good (Prog.only_perform trivial)) fun first samples heard => ?_
  have opened := heard.at_ opened
  have good := heard.good good
  refine Prog.wp_seq (wp_measureAveraged good samples) fun second reading measured => ?_
  obtain ⟨heard, read⟩ := measured
  refine Prog.wp_seq (wp_recordOutcome (heard.at_ opened) reading.isSome read)
    fun third _ polled => ?_
  refine Prog.wp_seq (wp_processReading polled) fun fourth valueDriven done => ?_
  exact Prog.wp_mono (wp_mild (done.at_.good (.inl rfl)) (Prog.only_perform rfl))
    fun _ _ heard => heard.done done

/-- Between two cycles, with the sensor reported OK, the pair was computed by the
last one from a reading of its own. -/
theorem wp_main (resting : Resting reads) :
    main.wp readsContract reads fun after _ => Resting after := by
  refine Prog.wp_seq (wp_mild resting.good (Prog.only_mono outside_mild consumeAck_outside))
    fun first _ heard => ?_
  have resting := heard.resting resting
  refine Prog.wp_seq (wp_mild resting.good (Prog.only_perform trivial)) fun second wasOk heard => ?_
  have resting := heard.resting resting
  refine Prog.wp_seq (wp_open resting) fun _ _ opened => ?_
  refine Prog.wp_seq (wp_cycleBody opened wasOk) fun _ _ done => ?_
  refine Prog.wp_seq (wp_complete done) fun last _ resting => ?_
  refine Prog.wp_mono (wp_mild resting.good ?_) fun _ _ heard => heard.resting resting
  refine Prog.only_bind (Prog.only_perform trivial) fun flag => ?_
  split
  · exact Prog.only_perform trivial
  · trivial

end Program

end SleepySensor.CycleReads
