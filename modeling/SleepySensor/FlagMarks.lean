import SleepySensor.LpCycles

/-!
# The flag and the heartbeat of an LP cycle

A cycle of the LP program bumps `heartbeat_counter` early, may publish an
intermediate snapshot for its heater run, and rewrites `should_wake_hp` last.
`Marks` tells from which cycle each of the two words is.
-/

set_option autoImplicit false

namespace SleepySensor.FlagMarks

open SleepySensor SleepySensor.LpCore Snapshot

/-- The words that tell the cycles apart, and a count of the cycles. -/
structure Marks where
  seq : Nat := 0
  active : Nat := 0
  heartbeat : Nat := 0
  flag : Nat := 0
  /-- Cycles that opened their odd window. -/
  started : Nat := 0
  polls : Nat := 0
  completed : Nat := 0
  /-- The cycle that stored `should_wake_hp` last. -/
  decidedBy : Nat := 0
  /-- The cycles that stored 1. -/
  flagged : List Nat := []
  deriving DecidableEq, Repr

/-- With `heater_active` set, a bump of `result_seq` begins or ends the intermediate
snapshot; otherwise it opens or completes a cycle. -/
def performed : LpOp → Marks → Marks
  | .store (.u .resultSeq) value, marks =>
    if marks.active ≠ 0 then { marks with seq := value }
    else if marks.seq % 2 = 1 then { marks with seq := value, completed := marks.completed + 1 }
    else { marks with seq := value, started := marks.started + 1 }
  | .store (.u .heaterActive) value, marks => { marks with active := value }
  | .store (.u .heartbeatCounter) value, marks =>
    { marks with heartbeat := value, polls := marks.polls + 1 }
  | .store (.u .shouldWakeHp) value, marks =>
    { marks with
      flag := value, decidedBy := marks.started
      flagged := if (value : Nat) ≠ 0 then marks.started :: marks.flagged else marks.flagged }
  | _, marks => marks

def markField : Field → Bool
  | .u .resultSeq | .u .heaterActive | .u .heartbeatCounter | .u .shouldWakeHp => true
  | _ => false

/-- What holds between any two operations of the LP program. -/
structure Good (marks : Marks) : Prop where
  beat : marks.heartbeat = u32 marks.polls
  flag : marks.flag ≠ 0 → marks.decidedBy ∈ marks.flagged
  writing : marks.seq % 2 = 1 → marks.completed + 1 = marks.started ∧
    marks.completed ≤ marks.polls ∧ marks.polls ≤ marks.started ∧
      marks.completed ≤ marks.decidedBy ∧ marks.decidedBy ≤ marks.started
  resting : marks.seq % 2 = 0 → marks.active = 0 → marks.completed = marks.started ∧
    marks.polls = marks.started ∧ marks.decidedBy = marks.started
  heating : marks.seq % 2 = 0 → marks.active ≠ 0 → marks.completed + 1 = marks.started ∧
    marks.polls = marks.started ∧ marks.decidedBy = marks.completed

def markContract : Prog.Contract LpOp LpOp.Res Marks where
  may marks op := Good (performed op marks) ∧ match op with
    | .store field _ => markField field = true → field ≠ .u .resultSeq → marks.seq % 2 = 1
    | _ => True
  effect marks op answer after := after = performed op marks ∧ match op, answer with
    | .load (.u .resultSeq), value => (value : Nat) = marks.seq
    | .load (.u .heartbeatCounter), value => (value : Nat) = marks.heartbeat
    | _, _ => True

def OtherOp : LpOp → Prop
  | .store field _ => markField field = false
  | _ => True

variable {marks : Marks}

theorem Good.completed_le (good : Good marks) : marks.completed ≤ marks.polls := by
  rcases Nat.mod_two_eq_zero_or_one marks.seq with even | odd
  · by_cases cold : marks.active = 0
    · obtain ⟨completed, polls, -⟩ := good.resting even cold
      omega
    · obtain ⟨completed, polls, -⟩ := good.heating even cold
      omega
  · exact (good.writing odd).2.1

theorem performed_other {op : LpOp} (other : OtherOp op) : performed op marks = marks := by
  cases op with
  | store field value =>
    rcases field with field | field
    · cases field <;> first | rfl | cases other
    · rfl
  | _ => rfl

theorem other_of_storesIn {fields : List Field} (apart : ∀ field ∈ fields, markField field = false)
    (op : LpOp) (stores : StoresIn fields op) : OtherOp op := by
  cases op with
  | store field value => exact apart field stores
  | _ => trivial

theorem quiet_other (op : LpOp) (quiet : QuietOp op) : OtherOp op := by
  cases op with
  | store field value => exact quiet.elim
  | _ => trivial

theorem outside_other (op : LpOp) (outside : OutsideOp op) : OtherOp op := by
  cases op with
  | store field value =>
    obtain ⟨notSeq, free⟩ := outside
    rcases field with field | field
    · cases field <;> first | rfl | exact (notSeq rfl).elim | cases free
    · rfl
  | _ => trivial

theorem wp_other {α : Type} {program : LpProg α} (good : Good marks)
    (only : program.Only OtherOp) :
    program.wp markContract marks fun after _ => after = marks := by
  refine Prog.wp_of_only only (fun op other => ⟨?_, ?_⟩) fun op answer after other changed => ?_
  · rw [performed_other other]
    exact good
  · cases op with
    | store field value =>
      intro marked
      rw [show markField field = false from other] at marked
      cases marked
    | _ => trivial
  · exact changed.1.trans (performed_other other)

theorem storeU_other {field : UField} (value : Nat) (unmarked : markField (.u field) = false) :
    (storeU field value).Only OtherOp :=
  Prog.only_perform unmarked

theorem storeF_other (field : FField) (value : Flt) : (storeF field value).Only OtherOp :=
  Prog.only_perform rfl

theorem increment_other {field : UField} (unmarked : markField (.u field) = false) :
    (increment field).Only OtherOp :=
  Prog.only_bind (Prog.only_perform trivial) fun _ => storeU_other _ unmarked

theorem wp_store {field : UField} {value : Nat} (odd : marks.seq % 2 = 1)
    (good : Good (performed (.store (.u field) value) marks)) :
    (storeU field value).wp markContract marks fun after _ =>
      after = performed (.store (.u field) value) marks :=
  Prog.wp_perform ⟨good, fun _ _ => odd⟩ fun _ _ changed => changed.1

theorem wp_bump (good : Good marks)
    (bumped : Good (performed (.store (.u .resultSeq) (u32 (marks.seq + 1))) marks)) :
    (increment .resultSeq).wp markContract marks fun after _ =>
      after = performed (.store (.u .resultSeq) (u32 (marks.seq + 1))) marks := by
  refine Prog.wp_bind ⟨⟨good, trivial⟩, ?_⟩
  intro value after loaded
  have same : after = marks := loaded.1
  have current : value = marks.seq := loaded.2
  subst same current
  exact ⟨⟨bumped, fun _ isCounter => (isCounter rfl).elim⟩, fun _ _ changed => changed.1⟩

/-! ## The stages of a cycle -/

structure Resting (marks : Marks) : Prop where
  good : Good marks
  even : marks.seq % 2 = 0
  cold : marks.active = 0

/-- In the odd window that a cycle opened. -/
structure Writing (polls decidedBy : Marks → Nat) (marks : Marks) : Prop where
  good : Good marks
  odd : marks.seq % 2 = 1
  cold : marks.active = 0
  polls : marks.polls = polls marks
  decidedBy : marks.decidedBy = decidedBy marks

abbrev Opened : Marks → Prop := Writing Marks.completed Marks.completed
abbrev Polled : Marks → Prop := Writing Marks.started Marks.completed
abbrev Decided : Marks → Prop := Writing Marks.started Marks.started

/-- With `heater_active` set, inside the odd window or at the intermediate snapshot. -/
structure Heating (parity : Nat) (marks : Marks) : Prop where
  good : Good marks
  parity : marks.seq % 2 = parity
  hot : marks.active ≠ 0
  started : marks.completed + 1 = marks.started
  polls : marks.polls = marks.started
  decidedBy : marks.decidedBy = marks.completed

theorem wp_open (resting : Resting marks) :
    (increment .resultSeq).wp markContract marks fun after _ => Opened after := by
  obtain ⟨completed, polls, decidedBy⟩ := resting.good.resting resting.even resting.cold
  have odd : u32 (marks.seq + 1) % 2 = 1 := by
    rw [u32_parity]
    have even := resting.even
    omega
  have bumped : performed (.store (.u .resultSeq) (u32 (marks.seq + 1))) marks =
      { marks with seq := u32 (marks.seq + 1), started := marks.started + 1 } := by
    simp [performed, resting.cold, resting.even]
  have good : Good { marks with seq := u32 (marks.seq + 1), started := marks.started + 1 } := by
    refine ⟨resting.good.beat, resting.good.flag, fun _ => ?_, fun even => ?_, fun even => ?_⟩
    · dsimp only
      omega
    · rw [odd] at even
      cases even
    · rw [odd] at even
      cases even
  refine Prog.wp_mono (wp_bump resting.good (bumped ▸ good)) fun after _ same => ?_
  rw [same, bumped]
  exact ⟨good, odd, resting.cold, polls.trans completed.symm, decidedBy.trans completed.symm⟩

theorem wp_complete (decided : Decided marks) :
    (increment .resultSeq).wp markContract marks fun after _ => Resting after := by
  obtain ⟨next, -⟩ := decided.good.writing decided.odd
  have even : u32 (marks.seq + 1) % 2 = 0 := by
    rw [u32_parity]
    have odd := decided.odd
    omega
  have bumped : performed (.store (.u .resultSeq) (u32 (marks.seq + 1))) marks =
      { marks with seq := u32 (marks.seq + 1), completed := marks.completed + 1 } := by
    simp [performed, decided.cold, decided.odd]
  have good : Good { marks with seq := u32 (marks.seq + 1), completed := marks.completed + 1 } := by
    refine ⟨decided.good.beat, decided.good.flag, fun odd => ?_, fun _ _ => ?_, fun _ hot => ?_⟩
    · rw [even] at odd
      cases odd
    · exact ⟨next, decided.polls, decided.decidedBy⟩
    · exact (hot decided.cold).elim
  refine Prog.wp_mono (wp_bump decided.good (bumped ▸ good)) fun after _ same => ?_
  rw [same, bumped]
  exact ⟨good, even, decided.cold⟩

theorem wp_poll (opened : Opened marks) :
    (increment .heartbeatCounter).wp markContract marks fun after _ => Polled after := by
  obtain ⟨next, -⟩ := opened.good.writing opened.odd
  have polls : marks.polls = marks.completed := opened.polls
  have decidedBy : marks.decidedBy = marks.completed := opened.decidedBy
  refine Prog.wp_bind ⟨⟨opened.good, trivial⟩, ?_⟩
  intro value after loaded
  have same : after = marks := loaded.1
  have current : value = marks.heartbeat := loaded.2
  subst same current
  have beat : u32 (after.heartbeat + 1) = u32 (after.polls + 1) := by
    rw [opened.good.beat]
    exact Nat.mod_add_mod _ _ _
  have good : Good (performed (.store (.u .heartbeatCounter) (u32 (after.heartbeat + 1)))
      after) := by
    refine ⟨beat, opened.good.flag, fun _ => ?_, fun even => ?_, fun even => ?_⟩
    · simp only [performed]
      omega
    · exact absurd (opened.odd.symm.trans even) (by decide)
    · exact absurd (opened.odd.symm.trans even) (by decide)
  refine ⟨⟨good, fun _ _ => opened.odd⟩, ?_⟩
  rintro _ later ⟨rfl, -⟩
  refine ⟨good, opened.odd, opened.cold, ?_, decidedBy⟩
  simp only [performed]
  omega

theorem wp_decide (polled : Polled marks) (value : Nat) :
    (storeU .shouldWakeHp value).wp markContract marks fun after _ => Decided after := by
  obtain ⟨next, -⟩ := polled.good.writing polled.odd
  have polls : marks.polls = marks.started := polled.polls
  have good : Good (performed (.store (.u .shouldWakeHp) value) marks) := by
    refine ⟨polled.good.beat, fun set => ?_, fun _ => ?_, fun even => ?_, fun even => ?_⟩
    · simp only [performed] at set ⊢
      rw [if_pos set]
      exact List.mem_cons_self
    · simp only [performed]
      omega
    · exact absurd (polled.odd.symm.trans even) (by decide)
    · exact absurd (polled.odd.symm.trans even) (by decide)
  apply Prog.wp_mono (wp_store polled.odd good)
  rintro _ _ rfl
  exact ⟨good, polled.odd, polled.cold, polls, rfl⟩

/-! ## The heater run -/

theorem wp_heat (polled : Polled marks) :
    (storeU .heaterActive 1).wp markContract marks fun after _ => Heating 1 after := by
  obtain ⟨next, within⟩ := polled.good.writing polled.odd
  have good : Good (performed (.store (.u .heaterActive) 1) marks) := by
    refine ⟨polled.good.beat, polled.good.flag, fun _ => ⟨next, within⟩, fun even => ?_,
      fun even => ?_⟩
    · exact absurd (polled.odd.symm.trans even) (by decide)
    · exact absurd (polled.odd.symm.trans even) (by decide)
  apply Prog.wp_mono (wp_store polled.odd good)
  rintro _ _ rfl
  exact ⟨good, polled.odd, Nat.one_ne_zero, next, polled.polls, polled.decidedBy⟩

theorem wp_cool (heating : Heating 1 marks) :
    (storeU .heaterActive 0).wp markContract marks fun after _ => Polled after := by
  have good : Good (performed (.store (.u .heaterActive) 0) marks) := by
    refine ⟨heating.good.beat, heating.good.flag, heating.good.writing, fun even => ?_,
      fun even => ?_⟩
    · exact absurd (heating.parity.symm.trans even) (by decide)
    · exact absurd (heating.parity.symm.trans even) (by decide)
  apply Prog.wp_mono (wp_store heating.parity good)
  rintro _ _ rfl
  exact ⟨good, heating.parity, rfl, heating.polls, heating.decidedBy⟩

theorem wp_intermediate {parity other : Nat} (heating : Heating parity marks)
    (flips : (parity + 1) % 2 = other) :
    (increment .resultSeq).wp markContract marks fun after _ => Heating other after := by
  have seq : u32 (marks.seq + 1) % 2 = other := by
    rw [u32_parity, Nat.add_mod, heating.parity]
    omega
  have bumped : performed (.store (.u .resultSeq) (u32 (marks.seq + 1))) marks =
      { marks with seq := u32 (marks.seq + 1) } := by
    simp [performed, heating.hot]
  have started := heating.started
  have polls := heating.polls
  have decidedBy := heating.decidedBy
  have good : Good { marks with seq := u32 (marks.seq + 1) } := by
    refine ⟨heating.good.beat, heating.good.flag, fun _ => ?_, fun _ cold => ?_,
      fun _ _ => ⟨started, polls, decidedBy⟩⟩
    · dsimp only
      omega
    · exact (heating.hot cold).elim
  refine Prog.wp_mono (wp_bump heating.good (bumped ▸ good)) fun after _ same => ?_
  rw [same, bumped]
  exact ⟨good, seq, heating.hot, started, polls, decidedBy⟩

theorem wp_recordOutcome (opened : Opened marks) (ok : Bool) :
    (recordOutcome ok).wp markContract marks fun after _ => Polled after := by
  refine Prog.wp_seq (wp_poll opened) fun counted _ polled => ?_
  have rest : (storeU .sensorOk (if ok then 1 else 0)).Only OtherOp := storeU_other _ rfl
  apply Prog.wp_seq (wp_other polled.good rest)
  rintro _ _ rfl
  have failures : (if ok then storeU .consecFailCount 0
      else increment .consecFailCount).Only OtherOp := by
    cases ok with
    | true => exact storeU_other _ rfl
    | false => exact increment_other rfl
  exact Prog.wp_mono (wp_other polled.good failures) fun _ _ same => same ▸ polled

section Program

variable [FloatOps]

theorem wp_heaterBlock (polled : Polled marks) (creep : Bool) (reading : Reading) :
    (heaterBlock creep reading).wp markContract marks fun after _ => Polled after := by
  refine Prog.wp_seq (wp_heat polled) fun _ _ heating => ?_
  refine Prog.wp_seq (wp_intermediate heating rfl) fun stable _ heating => ?_
  apply Prog.wp_seq (wp_other heating.good (Prog.only_mono quiet_other (heaterRun_quiet creep)))
  rintro _ run rfl
  refine Prog.wp_seq (wp_intermediate heating rfl) fun resumed _ heating => ?_
  apply Prog.wp_seq (wp_other heating.good (Prog.only_mono
    (other_of_storesIn (by decide)) (recordHeaterRun_storesIn run)))
  rintro _ _ rfl
  refine Prog.wp_seq (wp_cool heating) fun _ _ polled => ?_
  apply Prog.wp_seq (wp_other polled.good (storeU_other 0 rfl))
  rintro _ _ rfl
  apply Prog.wp_seq (wp_other polled.good (storeU_other 0 rfl))
  rintro _ _ rfl
  exact polled

theorem wp_maintain (polled : Polled marks) (due : HeaterDue) (reading : Reading) :
    (maintain due reading).wp markContract marks fun after _ => Polled after := by
  unfold maintain
  split
  · exact wp_heaterBlock polled due.humidity reading
  · exact polled

theorem calibrateAndDecide_other (reading : Reading) :
    (calibrateAndDecide reading).Only OtherOp := by
  refine Prog.only_bind (Prog.only_perform trivial) fun _ => ?_
  refine Prog.only_bind (Prog.only_perform trivial) fun _ => ?_
  refine Prog.only_bind (storeF_other _ _) fun _ => ?_
  refine Prog.only_bind (storeF_other _ _) fun _ => ?_
  refine Prog.only_bind (Prog.only_mono quiet_other (sameAsPrevDelivered_quiet _ _)) fun same => ?_
  refine Prog.only_bind (Prog.only_mono quiet_other (withinSkipBudget_quiet same)) fun skips => ?_
  cases skips with
  | true => exact Prog.only_bind (increment_other rfl) fun _ => trivial
  | false => trivial

theorem wp_processReading (polled : Polled marks) (reading : Option Reading) :
    (processReading reading).wp markContract marks fun after _ => Polled after := by
  cases reading with
  | none => exact polled
  | some reading =>
    apply Prog.wp_seq (wp_other polled.good (storeF_other _ _))
    rintro _ _ rfl
    apply Prog.wp_seq (wp_other polled.good (storeF_other _ _))
    rintro _ _ rfl
    apply Prog.wp_seq (wp_other polled.good (Prog.only_mono
      (other_of_storesIn (by decide)) (heaterSchedule_storesIn reading)))
    rintro _ due rfl
    refine Prog.wp_seq (wp_maintain polled due reading) fun _ clean polled => ?_
    exact Prog.wp_mono (wp_other polled.good (calibrateAndDecide_other clean))
      fun _ _ same => same ▸ polled

theorem wp_cycleBody (opened : Opened marks) (wasOk : Nat) :
    (cycleBody wasOk).wp markContract marks fun after _ => Decided after := by
  refine Prog.wp_seq (wp_other opened.good (Prog.only_perform trivial)) ?_
  rintro _ samples rfl
  have averaged : (measureAveraged samples).Only OtherOp :=
    Prog.only_mono quiet_other (measureAveraged_quiet samples)
  apply Prog.wp_seq (wp_other opened.good averaged)
  rintro _ reading rfl
  refine Prog.wp_seq (wp_recordOutcome opened reading.isSome) fun _ _ polled => ?_
  refine Prog.wp_seq (wp_processReading polled reading) fun _ _ polled => ?_
  exact wp_decide polled _

/-- One cycle counts one start, one poll, one decision and one completion. -/
theorem wp_main (resting : Resting marks) :
    main.wp markContract marks fun after _ => Resting after := by
  apply Prog.wp_seq (wp_other resting.good (Prog.only_mono outside_other consumeAck_outside))
  rintro _ _ rfl
  refine Prog.wp_seq (wp_other resting.good (Prog.only_perform trivial)) ?_
  rintro _ wasOk rfl
  refine Prog.wp_seq (wp_open resting) fun _ _ opened => ?_
  refine Prog.wp_seq (wp_cycleBody opened wasOk) fun _ _ decided => ?_
  refine Prog.wp_seq (wp_complete decided) fun _ _ resting => ?_
  refine Prog.wp_mono (wp_other resting.good ?_) fun _ _ same => same ▸ resting
  refine Prog.only_bind (Prog.only_perform trivial) fun flag => ?_
  split
  · exact Prog.only_perform trivial
  · trivial

end Program

end SleepySensor.FlagMarks
