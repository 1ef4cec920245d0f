import SleepySensor.FlagMarks
import SleepySensor.StallTiming

/-!
# Whether a flag is serviced once

The sensor task infers from a heartbeat difference that `should_wake_hp` is of a
new LP cycle.  The LP core, the copy of the shared words and the HP core take
their steps in any order here, operation by operation.
-/

set_option autoImplicit false

namespace SleepySensor.FlagService

open SleepySensor LpCore Snapshot FlagMarks

structure Cores where
  hp : HpSystem
  core : HpLp

inductive Action where
  | lpTimer
  | lpStep (answer : LpAnswer)
  /-- A word of the configuration or of the delivery ack. -/
  | hpStore (field : Field) (value : field.Val)
  /-- The call of `lp_sensor_core_get_state`, a step of it, and its return. -/
  | getState
  | readerStep
  | readState
  | hp (action : HpAction)
  | reset (pendingVerify : Bool) (config : Shared)

/-- From which LP cycle things are: the words, what the copy took of them, what the
sensor task goes by, and the last flag a publish was started for. -/
structure Service where
  lp : Marks := {}
  /-- The polls counted by the heartbeat of the copy. -/
  copiedPolls : Nat := 0
  /-- The LP cycle that the flag of the copy is from. -/
  copiedFrom : Nat := 0
  seenPolls : Nat := 0
  /-- The last state read was one that a copy had written. -/
  known : Bool := true
  serviced : Nat := 0
  deriving DecidableEq, Repr

abbrev Observed := Cores × Service

def start (hp : HpSystem) (config : Shared) : Cores :=
  { hp := hp, core := SkipBudget.begun config }

def Cores.withCore (cores : Cores) (core : HpLp) : Cores := { cores with core := core }
def Cores.withHp (cores : Cores) (hp : HpSystem) : Cores := { cores with hp := hp }

def taken (core : HpLp) : HpLp := { core with lock := { core.lock with reader := .idle } }

def coresStep [FloatOps] (env : HpEnv) (cores : Cores) : Action → Option Cores
  | .lpTimer => (Snapshot.step cores.core .lpTimer).map cores.withCore
  | .lpStep answer => (Snapshot.lpStep answer cores.core).map cores.withCore
  | .hpStore field value => (Snapshot.step cores.core (.hpStore field value)).map cores.withCore
  | .getState =>
    if cores.hp.sensor.pc = .reading ∧ cores.core.lock.reader = .idle then
      (Snapshot.step cores.core (.getState zeroed)).map cores.withCore
    else none
  | .readerStep => (Snapshot.step cores.core .readerStep).map cores.withCore
  | .readState =>
    match cores.core.lock.reader with
    | .returned _ =>
      (HpSystem.step env cores.hp
        (.sensor (.readState (TimedCores.snapshotOf cores.core.lock.out)))).map fun hp =>
          { hp := hp, core := taken cores.core }
    | _ => none
  | .hp action =>
    if TimedCores.timedHp action then none
    else (HpSystem.step env cores.hp action).map cores.withHp
  | .reset pendingVerify config =>
    some (start (HpSystem.boot env cores.hp.nvs cores.hp.cyclesStarted pendingVerify) config)

/-- The coming `m_readyEvent` starts a publish of an LP-flagged reading. -/
def startsFlagged (system : HpSystem) (created : Bool) : Bool :=
  decide (system.sensor.pc = .sending) && !system.sensor.cycle.otaOnly &&
    !system.mqtt.taskRunning && created

def Service.copied (service : Service) : Field → Service
  | .u .heartbeatCounter => { service with copiedPolls := service.lp.polls }
  | .u .shouldWakeHp => { service with copiedFrom := service.lp.decidedBy }
  | _ => service

def Service.stepped (service : Service) : Seqlock.Reader Field → Service
  | .copying _ _ (field :: _) => service.copied field
  | _ => service

def Service.performed (service : Service) : Option LpOp → Service
  | some op => { service with lp := FlagMarks.performed op service.lp }
  | none => service

def Service.read (service : Service) (written : Bool) : Service :=
  { service with
    seenPolls := if written then service.copiedPolls else service.seenPolls, known := written }

def record (cores : Cores) : Action → Service → Service
  | .lpStep _, service => service.performed cores.core.coming
  | .readerStep, service => service.stepped cores.core.lock.reader
  | .readState, service => service.read cores.core.lock.written
  | .hp (.sensor (.send created)), service =>
    if startsFlagged cores.hp created then { service with serviced := service.copiedFrom }
    else service
  | .reset _ _, _ => {}
  | _, service => service

def step [FloatOps] (env : HpEnv) : Observed → Action → Option Observed :=
  Runs.observe (coresStep env) record

/-! ## The claim and its condition -/

/-- A publish of a flagged reading is started for the flag of a completed LP cycle
that itself set it, later than the last one serviced. -/
def ServicedOnce (state : Observed) : Action → Prop
  | .hp (.sensor (.send created)) => startsFlagged state.1.hp created = true →
      state.2.serviced < state.2.copiedFrom ∧ state.2.copiedFrom ≤ state.2.lp.completed ∧
        state.2.copiedFrom ∈ state.2.lp.flagged
  | _ => True

/-- The coming branch publishes because of the flag. -/
def takesFlag (system : HpSystem) : Bool :=
  decide (system.sensor.pc = .branching) && !system.ota.sessionActive &&
    system.sensor.cycle.shouldWake

/-- The flag that the branch goes by was copied with no bump of `result_seq` in
between, and if that was during a heater run, it was not serviced yet. -/
def FreshFlag (state : Observed) : Action → Prop
  | .hp (.sensor .branch) => takesFlag state.1.hp = true →
      state.1.core.lock.moved = 0 ∧
        ((state.1.core.lock.out (.u .heaterActive) : Nat) ≠ 0 →
          state.2.serviced < state.2.copiedFrom)
  | _ => True

instance (state : Observed) (action : Action) : Decidable (ServicedOnce state action) := by
  unfold ServicedOnce
  split <;> infer_instance

instance (state : Observed) (action : Action) : Decidable (FreshFlag state action) := by
  unfold FreshFlag
  split <;> infer_instance

/-! ## The LP core -/

abbrev SharedLock := Seqlock.Lock Field Field.Val

/-- The marks are right about the words. -/
structure Mirrors (memory : Shared) (marks : Marks) : Prop where
  seq : layout.countOf memory = marks.seq
  active : (memory (.u .heaterActive) : Nat) = marks.active
  heartbeat : (memory (.u .heartbeatCounter) : Nat) = marks.heartbeat
  flag : (memory (.u .shouldWakeHp) : Nat) = marks.flag

structure LpInv (core : HpLp) (marks : Marks) : Prop where
  mirrors : Mirrors core.lock.memory marks
  good : Good marks
  running : ∀ program, core.lp = some program →
    program.wp markContract marks fun after _ => Resting after
  resting : core.lp = none → Resting marks

variable {env : HpEnv} {core next : HpLp} {lock : SharedLock} {service : Service} {marks : Marks}

theorem Mirrors.other {memory : Shared} (mirrors : Mirrors memory marks) {field : Field}
    (value : field.Val) (unmarked : markField field = false) :
    Mirrors (Function.update memory field value) marks := by
  have apart : ∀ marked, markField marked = true →
      Function.update memory field value marked = memory marked := by
    intro marked isMarked
    refine Function.update_of_ne ?_ _ _
    rintro rfl
    rw [unmarked] at isMarked
    cases isMarked
  obtain ⟨seq, active, heartbeat, flag⟩ := mirrors
  refine ⟨?_, ?_, ?_, ?_⟩
  · rw [← seq]
    exact congrArg layout.count (apart (.u .resultSeq) rfl)
  · rw [apart _ rfl]
    exact active
  · rw [apart _ rfl]
    exact heartbeat
  · rw [apart _ rfl]
    exact flag

theorem Mirrors.store (mirrors : Mirrors lock.memory marks) (field : Field) (value : field.Val) :
    Mirrors (layout.store lock field value).memory (performed (.store field value) marks) := by
  cases marked : markField field with
  | false =>
    rw [performed_other (show OtherOp (.store field value) from marked)]
    exact mirrors.other value marked
  | true =>
    obtain ⟨seq, active, heartbeat, flag⟩ := mirrors
    rcases field with field | field
    · cases field
      case resultSeq =>
        have stored : layout.countOf (layout.store lock (.u .resultSeq) value).memory = value :=
          layout.store_same lock (.u .resultSeq) value
        simp only [performed]
        split
        · exact ⟨stored, active, heartbeat, flag⟩
        · split <;> exact ⟨stored, active, heartbeat, flag⟩
      case heartbeatCounter => exact ⟨seq, active, layout.store_same lock _ value, flag⟩
      case shouldWakeHp => exact ⟨seq, active, heartbeat, layout.store_same lock _ value⟩
      case heaterActive => exact ⟨seq, layout.store_same lock _ value, heartbeat, flag⟩
      all_goals cases marked
    · cases marked

/-- The LP program never takes a count or a flagged cycle back. -/
structure Grows (marks later : Marks) : Prop where
  started : marks.started ≤ later.started
  polls : marks.polls ≤ later.polls
  completed : marks.completed ≤ later.completed
  flagged : ∀ cycle ∈ marks.flagged, cycle ∈ later.flagged

theorem Grows.refl (marks : Marks) : Grows marks marks :=
  ⟨le_refl _, le_refl _, le_refl _, fun _ member => member⟩

theorem performed_grows (op : LpOp) (marks : Marks) : Grows marks (performed op marks) := by
  unfold performed
  split
  · split
    · exact ⟨le_refl _, le_refl _, le_refl _, fun _ member => member⟩
    · split
      · exact ⟨le_refl _, le_refl _, Nat.le_succ _, fun _ member => member⟩
      · exact ⟨Nat.le_succ _, le_refl _, le_refl _, fun _ member => member⟩
  · exact ⟨le_refl _, le_refl _, le_refl _, fun _ member => member⟩
  · exact ⟨le_refl _, Nat.le_succ _, le_refl _, fun _ member => member⟩
  · refine ⟨le_refl _, le_refl _, le_refl _, fun cycle member => ?_⟩
    dsimp only
    split
    · exact List.mem_cons_of_mem _ member
    · exact member
  · exact Grows.refl marks

theorem Mirrors.effect (mirrors : Mirrors core.lock.memory marks) {op : LpOp} {answer : op.Res}
    (answers : core.Answers op answer) :
    markContract.effect marks op answer (performed op marks) := by
  refine ⟨rfl, ?_⟩
  cases op with
  | load field =>
    have loaded : answer = core.lock.memory field := answers
    rcases field with field | field
    · cases field <;> first
        | trivial
        | exact (congrArg (fun value : Nat => value) loaded).trans mirrors.heartbeat
        | exact (congrArg (fun value : Nat => value) loaded).trans mirrors.seq
    · trivial
  | _ => trivial

theorem LpInv.mirrored (inv : LpInv core marks) (op : LpOp) :
    Mirrors (core.after op).lock.memory (performed op marks) := by
  cases op with
  | store field value => exact inv.mirrors.store field value
  | _ => exact inv.mirrors

theorem LpInv.perform (inv : LpInv core marks) {op : LpOp} {following : op.Res → LpProg Unit}
    {answer : op.Res} (running : core.lp = some (.call op following))
    (answers : core.Answers op answer) :
    LpInv { core.after op with lp := some (following answer) } (performed op marks) := by
  obtain ⟨allowed, continues⟩ := inv.running _ running
  refine ⟨inv.mirrored op, allowed.1, ?_, by rintro ⟨⟩⟩
  rintro program ⟨⟩
  exact continues answer _ (inv.mirrors.effect answers)

theorem LpInv.finish (inv : LpInv core marks) (running : core.lp = some (.ret ())) :
    LpInv { core with lp := none } marks :=
  ⟨inv.mirrors, inv.good, by rintro program ⟨⟩, fun _ => inv.running _ running⟩

/-! ## The copy -/

/-- An attempt up to the words in `rest`.  With no bump of `result_seq` since it
began, its words are those of the shared memory still. -/
structure Part (lock : SharedLock) (service : Service) (before : Nat) (rest : List Field) :
    Prop where
  beat : Field.u .heartbeatCounter ∉ rest →
    (lock.out (.u .heartbeatCounter) : Nat) = u32 service.copiedPolls
  still : lock.moved = 0 → service.lp.seq = before ∧ before % 2 = 0
  polls : lock.moved = 0 → Field.u .heartbeatCounter ∉ rest →
    service.copiedPolls = service.lp.polls
  flag : lock.moved = 0 → Field.u .shouldWakeHp ∉ rest →
    service.copiedFrom = service.lp.decidedBy ∧
      (lock.out (.u .shouldWakeHp) : Nat) = service.lp.flag
  active : lock.moved = 0 → Field.u .heaterActive ∉ rest →
    (lock.out (.u .heaterActive) : Nat) = service.lp.active

/-- A copy of one snapshot: its flag is of a completed cycle, and outside a heater
run it is of the cycle that the heartbeat counts. -/
structure Whole (lock : SharedLock) (service : Service) : Prop where
  within : service.copiedFrom ≤ service.copiedPolls
  completed : service.copiedFrom ≤ service.lp.completed
  flagged : (lock.out (.u .shouldWakeHp) : Nat) ≠ 0 → service.copiedFrom ∈ service.lp.flagged
  cold : (lock.out (.u .heaterActive) : Nat) = 0 → service.copiedFrom = service.copiedPolls
  later : service.known = false → service.serviced < service.copiedPolls

/-- No attempt has copied anything, as each found a cycle under way. -/
structure Skipped (lock : SharedLock) (service : Service) (number : Nat) : Prop where
  blank : (lock.out (.u .shouldWakeHp) : Nat) = 0
  underWay : 0 < number → service.serviced < service.lp.started

def ReaderInv (lock : SharedLock) (service : Service) : Prop :=
  match lock.reader with
  | .idle => True
  | .attempt number =>
    (lock.written = false → Skipped lock service number) ∧
      (lock.written = true →
        (lock.out (.u .heartbeatCounter) : Nat) = u32 service.copiedPolls ∧ lock.moved ≠ 0)
  | .copying _ before rest => Part lock service before rest
  | .check _ before => lock.written = true ∧ Part lock service before []
  | .returned _ =>
    (lock.written = false → Skipped lock service 1) ∧
      (lock.written = true →
        (lock.out (.u .heartbeatCounter) : Nat) = u32 service.copiedPolls ∧
          (lock.moved = 0 → Whole lock service))

theorem Whole.store (whole : Whole lock service) (field : Field) (value : field.Val)
    {later : Marks} (grows : Grows service.lp later) :
    Whole (layout.store lock field value) { service with lp := later } where
  within := whole.within
  completed := whole.completed.trans grows.completed
  flagged := fun set => grows.flagged _ (whole.flagged set)
  cold := whole.cold
  later := whole.later

theorem Skipped.store {number : Nat} (skipped : Skipped lock service number) (field : Field)
    (value : field.Val) {later : Marks} (grows : Grows service.lp later) :
    Skipped (layout.store lock field value) { service with lp := later } number where
  blank := skipped.blank
  underWay := fun some_ => (skipped.underWay some_).trans_le grows.started

theorem Part.store {before : Nat} {rest : List Field} (part : Part lock service before rest)
    (window : lock.reader.inWindow = true) (field : Field) (value : field.Val) {later : Marks}
    (quiet : field ≠ .u .resultSeq → service.lp.seq % 2 = 0 → later = service.lp) :
    Part (layout.store lock field value) { service with lp := later } before rest := by
  have unmoved : (layout.store lock field value).moved = 0 →
      lock.moved = 0 ∧ later = service.lp := by
    intro still
    by_cases isSeq : field = .u .resultSeq
    · have moved : (layout.store lock field value).moved = lock.moved + 1 := by
        simp [Seqlock.Layout.store, isSeq, window, layout]
      rw [moved] at still
      cases still
    · have moved : (layout.store lock field value).moved = lock.moved := by
        simp [Seqlock.Layout.store, isSeq, layout]
      rw [moved] at still
      obtain ⟨seq, even⟩ := part.still still
      exact ⟨still, quiet isSeq (seq ▸ even)⟩
  refine ⟨part.beat, fun moved => ?_, fun moved => ?_, fun moved => ?_, fun moved => ?_⟩ <;>
    obtain ⟨still, rfl⟩ := unmoved moved
  · exact part.still still
  · exact part.polls still
  · exact part.flag still
  · exact part.active still

theorem ReaderInv.store (inv : ReaderInv lock service) (field : Field) (value : field.Val)
    {later : Marks} (grows : Grows service.lp later)
    (quiet : field ≠ .u .resultSeq → service.lp.seq % 2 = 0 → later = service.lp) :
    ReaderInv (layout.store lock field value) { service with lp := later } := by
  have sameReader : (layout.store lock field value).reader = lock.reader := rfl
  unfold ReaderInv at *
  rw [sameReader]
  cases reader : lock.reader with
  | idle => trivial
  | attempt number =>
    rw [reader] at inv
    have moved : (layout.store lock field value).moved = lock.moved := by
      simp [Seqlock.Layout.store, reader, Seqlock.Reader.inWindow]
    refine ⟨fun unwritten => (inv.1 unwritten).store field value grows, fun written => ?_⟩
    rw [moved]
    exact inv.2 written
  | copying number before rest =>
    rw [reader] at inv
    exact inv.store (by rw [reader]; rfl) field value quiet
  | check number before =>
    rw [reader] at inv
    exact ⟨inv.1, inv.2.store (by rw [reader]; rfl) field value quiet⟩
  | returned clean =>
    rw [reader] at inv
    have moved : (layout.store lock field value).moved = lock.moved := by
      simp [Seqlock.Layout.store, reader, Seqlock.Reader.inWindow]
    refine ⟨fun unwritten => (inv.1 unwritten).store field value grows, fun written => ?_⟩
    rw [moved]
    obtain ⟨beat, whole⟩ := inv.2 written
    exact ⟨beat, fun still => (whole still).store field value grows⟩

theorem copied_frame (service : Service) (field : Field) :
    ∃ polls from_, service.copied field =
      { service with copiedPolls := polls, copiedFrom := from_ } ∧
        (field ≠ .u .heartbeatCounter → polls = service.copiedPolls) ∧
        (field ≠ .u .shouldWakeHp → from_ = service.copiedFrom) ∧
        (polls = service.copiedPolls ∨ polls = service.lp.polls) := by
  unfold Service.copied
  split
  · exact ⟨_, _, rfl, fun differ => (differ rfl).elim, fun _ => rfl, .inr rfl⟩
  · exact ⟨_, _, rfl, fun _ => rfl, fun differ => (differ rfl).elim, .inl rfl⟩
  · exact ⟨_, _, rfl, fun _ => rfl, fun _ => rfl, .inl rfl⟩

theorem Part.copy {before number : Nat} {field : Field} {rest : List Field}
    (part : Part lock service before (field :: rest)) (mirrors : Mirrors lock.memory service.lp)
    (good : Good service.lp) :
    Part { lock with
        out := Function.update lock.out field (lock.memory field)
        reader := .copying number before rest } (service.copied field) before rest := by
  have kept : ∀ word, word ≠ field →
      Function.update lock.out field (lock.memory field) word = lock.out word :=
    fun word differ => Function.update_of_ne differ _ _
  have copied : Function.update lock.out field (lock.memory field) field = lock.memory field :=
    Function.update_self ..
  have later : ∀ word, word ≠ field → word ∉ rest → word ∉ field :: rest :=
    fun word differ notIn => List.not_mem_cons_of_ne_of_not_mem differ notIn
  obtain ⟨polls, from_, same, otherPolls, otherFrom, -⟩ := copied_frame service field
  have beat : Field.u .heartbeatCounter ∉ rest →
      (Function.update lock.out field (lock.memory field) (.u .heartbeatCounter) : Nat) =
          u32 (service.copied field).copiedPolls ∧
        (lock.moved = 0 → (service.copied field).copiedPolls = service.lp.polls) := by
    intro notIn
    by_cases here : field = .u .heartbeatCounter
    · subst here
      rw [copied]
      exact ⟨mirrors.heartbeat.trans good.beat, fun _ => rfl⟩
    · rw [kept _ (Ne.symm here), same, otherPolls here]
      have notYet := later _ (Ne.symm here) notIn
      exact ⟨part.beat notYet, fun still => part.polls still notYet⟩
  have flag : lock.moved = 0 → Field.u .shouldWakeHp ∉ rest →
      (service.copied field).copiedFrom = service.lp.decidedBy ∧
        (Function.update lock.out field (lock.memory field) (.u .shouldWakeHp) : Nat) =
          service.lp.flag := by
    intro still notIn
    by_cases here : field = .u .shouldWakeHp
    · subst here
      rw [copied]
      exact ⟨rfl, mirrors.flag⟩
    · rw [kept _ (Ne.symm here), same, otherFrom here]
      exact part.flag still (later _ (Ne.symm here) notIn)
  have active : lock.moved = 0 → Field.u .heaterActive ∉ rest →
      (Function.update lock.out field (lock.memory field) (.u .heaterActive) : Nat) =
        service.lp.active := by
    intro still notIn
    by_cases here : field = .u .heaterActive
    · subst here
      rw [copied]
      exact mirrors.active
    · rw [kept _ (Ne.symm here)]
      exact part.active still (later _ (Ne.symm here) notIn)
  have sameLp : (service.copied field).lp = service.lp := by rw [same]
  refine ⟨fun notIn => (beat notIn).1, ?_, fun still notIn => ?_, fun still notIn => ?_,
    fun still notIn => ?_⟩
  · rw [sameLp]
    exact part.still
  · rw [sameLp]
    exact (beat notIn).2 still
  · rw [sameLp]
    exact flag still notIn
  · rw [sameLp]
    exact active still notIn

theorem Part.whole {before : Nat} (part : Part lock service before [])
    (good : Good service.lp) (unknown : service.known = false →
      service.serviced < service.lp.started) (still : lock.moved = 0) :
    Whole lock service := by
  obtain ⟨seq, even⟩ := part.still still
  rw [← seq] at even
  have polls := part.polls still List.not_mem_nil
  obtain ⟨from_, flag⟩ := part.flag still List.not_mem_nil
  have active := part.active still List.not_mem_nil
  have flagged : (lock.out (.u .shouldWakeHp) : Nat) ≠ 0 →
      service.copiedFrom ∈ service.lp.flagged := by
    intro set
    rw [from_]
    exact good.flag (flag ▸ set)
  by_cases cold : service.lp.active = 0
  · obtain ⟨completed, polled, decidedBy⟩ := good.resting even cold
    refine ⟨?_, ?_, flagged, fun _ => ?_, fun isUnknown => ?_⟩
    · omega
    · omega
    · omega
    · have started := unknown isUnknown
      omega
  · obtain ⟨completed, polled, decidedBy⟩ := good.heating even cold
    refine ⟨?_, ?_, flagged, fun isCold => ?_, fun isUnknown => ?_⟩
    · omega
    · omega
    · exact (cold (active.symm.trans isCold)).elim
    · have started := unknown isUnknown
      omega

theorem ReaderInv.readerStep {after : SharedLock} (inv : ReaderInv lock service)
    (mirrors : Mirrors lock.memory service.lp) (good : Good service.lp)
    (serviced : service.serviced ≤ service.lp.completed)
    (unknown : service.known = false → service.serviced < service.lp.started)
    (stepped : layout.readerStep lock = some after) :
    ReaderInv after (service.stepped lock.reader) := by
  have odd_started : layout.countOf lock.memory % 2 = 1 →
      service.serviced < service.lp.started := by
    rw [mirrors.seq]
    intro odd
    obtain ⟨next, -⟩ := good.writing odd
    omega
  unfold Seqlock.Layout.readerStep at stepped
  unfold ReaderInv at inv
  cases reader : lock.reader with
  | idle => simp [reader] at stepped
  | attempt number =>
    simp only [reader] at stepped inv
    by_cases last : number = layout.attempts
    · rw [if_pos last] at stepped
      cases stepped
      have tried : 0 < number := by rw [last]; decide
      refine ⟨fun unwritten => ?_, fun written => ?_⟩
      · obtain ⟨blank, underWay⟩ := inv.1 unwritten
        exact ⟨blank, fun _ => underWay tried⟩
      · obtain ⟨beat, moved⟩ := inv.2 written
        exact ⟨beat, fun still => (moved still).elim⟩
    · rw [if_neg last] at stepped
      by_cases odd : layout.countOf lock.memory % 2 = 1
      · rw [if_pos odd] at stepped
        cases stepped
        exact ⟨fun unwritten => ⟨(inv.1 unwritten).blank, fun _ => odd_started odd⟩, inv.2⟩
      · rw [if_neg odd] at stepped
        cases stepped
        refine ⟨fun notIn => (notIn (by decide)).elim, fun _ => ?_,
          fun _ notIn => (notIn (by decide)).elim, fun _ notIn => (notIn (by decide)).elim,
          fun _ notIn => (notIn (by decide)).elim⟩
        exact ⟨mirrors.seq.symm, by omega⟩
  | copying number before rest =>
    cases rest with
    | nil =>
      simp only [reader] at stepped inv
      cases stepped
      exact ⟨rfl, inv.beat, inv.still, inv.polls, inv.flag, inv.active⟩
    | cons field rest =>
      simp only [reader] at stepped inv
      cases stepped
      exact inv.copy mirrors good
  | check number before =>
    simp only [reader] at stepped inv
    obtain ⟨written, part⟩ := inv
    have beat := part.beat List.not_mem_nil
    by_cases same : before = layout.countOf lock.memory
    · rw [if_pos same] at stepped
      cases stepped
      refine ⟨fun unwritten => ?_, fun _ => ⟨beat, fun still => ?_⟩⟩
      · cases written.symm.trans unwritten
      · obtain ⟨within, completed, flagged, cold, later⟩ := part.whole good unknown still
        exact ⟨within, completed, flagged, cold, later⟩
    · rw [if_neg same] at stepped
      cases stepped
      refine ⟨fun unwritten => ?_, fun _ => ⟨beat, fun still => ?_⟩⟩
      · cases written.symm.trans unwritten
      · have seq := (part.still still).1
        exact same (seq.symm.trans mirrors.seq.symm)
  | returned clean => simp [reader] at stepped

/-! ## The sensor task -/

/-- What `m_lastSeenHeartbeat` says.  After a state that no copy had written it says
nothing, but then the cycle under way is a new one. -/
structure Counts (lastSeen : Nat) (service : Service) : Prop where
  copied : service.seenPolls ≤ service.copiedPolls
  polls : service.copiedPolls ≤ service.lp.polls
  serviced : service.serviced ≤ service.lp.completed
  within : service.serviced ≤ service.copiedPolls
  known : service.known = true →
    lastSeen = u32 service.seenPolls ∧ service.serviced ≤ service.seenPolls
  unknown : service.known = false → service.serviced < service.lp.started

/-- The flag that the turn goes by is of a completed cycle that was seen. -/
structure Seen (service : Service) : Prop where
  completed : service.copiedFrom ≤ service.lp.completed
  flagged : service.copiedFrom ∈ service.lp.flagged
  polls : service.copiedFrom ≤ service.seenPolls
  known : service.known = true

structure HpInv (sensor : SensorsTask) (lock : SharedLock) (service : Service) : Prop where
  counts : Counts sensor.lastSeenHeartbeat service
  reading : lock.reader ≠ .idle → sensor.pc = .reading
  branching : sensor.pc = .branching → sensor.cycle.shouldWake = true → lock.moved = 0 →
    Seen service ∧
      ((lock.out (.u .heaterActive) : Nat) = 0 → service.serviced < service.copiedFrom)
  sending : sensor.pc = .measuring ∨ sensor.pc = .sending → sensor.cycle.otaOnly = false →
    Seen service ∧ service.serviced < service.copiedFrom

variable {sensor after : SensorsTask}

theorem Counts.grows {lastSeen : Nat} (counts : Counts lastSeen service)
    (grows : Grows service.lp marks) : Counts lastSeen { service with lp := marks } where
  copied := counts.copied
  polls := counts.polls.trans grows.polls
  serviced := counts.serviced.trans grows.completed
  within := counts.within
  known := counts.known
  unknown := fun isUnknown => (counts.unknown isUnknown).trans_le grows.started

theorem Seen.grows (seen : Seen service) (grows : Grows service.lp marks) :
    Seen { service with lp := marks } where
  completed := seen.completed.trans grows.completed
  flagged := grows.flagged _ seen.flagged
  polls := seen.polls
  known := seen.known

theorem HpInv.store (inv : HpInv sensor lock service) (field : Field) (value : field.Val)
    (grows : Grows service.lp marks) :
    HpInv sensor (layout.store lock field value) { service with lp := marks } where
  counts := inv.counts.grows grows
  reading := inv.reading
  branching := by
    intro at_ wakes moved
    have idle : lock.reader = .idle := by
      by_contra running
      cases at_.symm.trans (inv.reading running)
    have still : (layout.store lock field value).moved = lock.moved := by
      simp [Seqlock.Layout.store, idle, Seqlock.Reader.inWindow]
    rw [still] at moved
    obtain ⟨seen, cold⟩ := inv.branching at_ wakes moved
    exact ⟨seen.grows grows, cold⟩
  sending := by
    intro at_ flagged
    obtain ⟨seen, unserviced⟩ := inv.sending at_ flagged
    exact ⟨seen.grows grows, unserviced⟩

theorem hpInv_reading (at_ : sensor.pc = .reading)
    (counts : Counts sensor.lastSeenHeartbeat service) : HpInv sensor lock service where
  counts := counts
  reading := fun _ => at_
  branching := by
    intro elsewhere
    cases at_.symm.trans elsewhere
  sending := by
    rintro (elsewhere | elsewhere) <;> cases at_.symm.trans elsewhere

theorem Counts.copy {lastSeen : Nat} (counts : Counts lastSeen service) (good : Good service.lp)
    (field : Field) :
    Counts lastSeen (service.copied field) := by
  obtain ⟨polls, from_, same, -, -, current⟩ := copied_frame service field
  have seen := counts.copied
  have bounded := counts.polls
  have within := counts.within
  have serviced := counts.serviced
  rw [same]
  rcases current with rfl | rfl
  · exact ⟨seen, bounded, serviced, within, counts.known, counts.unknown⟩
  · exact ⟨seen.trans bounded, le_refl _, serviced, serviced.trans good.completed_le, counts.known,
      counts.unknown⟩

theorem HpInv.takeState {clean : Bool} (inv : HpInv sensor lock service)
    (copy : ReaderInv lock service) (returned : lock.reader = .returned clean)
    {delta : Nat} (found : Cadence.heartbeatDelta (lock.out (.u .heartbeatCounter))
      sensor.lastSeenHeartbeat = delta) :
    HpInv
      { sensor with
        lastSeenHeartbeat := (TimedCores.snapshotOf lock.out).heartbeatCounter
        cycle :=
          { sensor.cycle with
            state := TimedCores.snapshotOf lock.out, heartbeatDelta := delta
            lpProgressedThisCycle := decide (0 < delta) }
        pc := .branching }
      { lock with reader := .idle } (service.read lock.written) := by
  unfold ReaderInv at copy
  rw [returned] at copy
  obtain ⟨unwritten, written⟩ := copy
  have counts := inv.counts
  cases isWritten : lock.written with
  | false =>
    obtain ⟨blank, underWay⟩ := unwritten isWritten
    have nothing : (TimedCores.snapshotOf lock.out).shouldWakeHp = 0 := blank
    refine ⟨⟨counts.copied, counts.polls, counts.serviced, counts.within, by rintro ⟨⟩,
      fun _ => underWay Nat.one_pos⟩, fun running => (running rfl).elim, fun _ wakes => ?_, ?_⟩
    · simp [SensorCycle.shouldWake, nothing] at wakes
    · rintro (elsewhere | elsewhere) <;> cases elsewhere
  | true =>
    obtain ⟨beat, whole⟩ := written isWritten
    have read : Counts (TimedCores.snapshotOf lock.out).heartbeatCounter (service.read true) :=
      ⟨le_refl _, counts.polls, counts.serviced, counts.within,
        fun _ => ⟨beat, counts.within⟩, by rintro ⟨⟩⟩
    refine ⟨read, fun running => (running rfl).elim, fun _ wakes still => ?_, ?_⟩
    · have whole := whole still
      simp only [SensorCycle.shouldWake, Bool.and_eq_true, decide_eq_true_eq, bne_iff_ne] at wakes
      obtain ⟨advanced, set⟩ := wakes
      refine ⟨⟨whole.completed, whole.flagged set, whole.within, rfl⟩, fun isCold => ?_⟩
      rw [show (service.read true).copiedFrom = service.copiedFrom from rfl,
        show (service.read true).serviced = service.serviced from rfl, whole.cold isCold]
      cases isKnown : service.known with
      | false => exact whole.later isKnown
      | true =>
        obtain ⟨lastSeen, serviced⟩ := counts.known isKnown
        have differ : service.seenPolls ≠ service.copiedPolls := by
          intro same
          rw [beat, lastSeen, same, Cadence.heartbeatDelta, u32Sub_u32 (le_refl _),
            Nat.sub_self] at found
          rw [← found] at advanced
          exact absurd advanced (by decide)
        have seen := counts.copied
        omega
    · rintro (elsewhere | elsewhere) <;> cases elsewhere

theorem HpInv.idle (inv : HpInv sensor lock service) (elsewhere : sensor.pc ≠ .reading) :
    lock.reader = .idle := by
  by_contra running
  exact elsewhere (inv.reading running)

def holdsFlag : SensorPc → Bool
  | .branching | .measuring | .sending => true
  | _ => false

theorem HpInv.moved (inv : HpInv sensor lock service) (elsewhere : sensor.pc ≠ .reading)
    (lastSeen : after.lastSeenHeartbeat = sensor.lastSeenHeartbeat)
    (apart : holdsFlag after.pc = false) : HpInv after lock service where
  counts := by
    rw [lastSeen]
    exact inv.counts
  reading := fun running => (running (inv.idle elsewhere)).elim
  branching := by
    intro at_
    rw [at_] at apart
    cases apart
  sending := by
    rintro (at_ | at_) <;>
    · rw [at_] at apart
      cases apart

theorem HpInv.branch (inv : HpInv sensor lock service) (at_ : sensor.pc = .branching)
    {sessionInProgress : Bool} (updateDue viaAdc : Bool)
    (fresh : sessionInProgress = false → sensor.cycle.shouldWake = true →
      lock.moved = 0 ∧ ((lock.out (.u .heaterActive) : Nat) ≠ 0 →
        service.serviced < service.copiedFrom)) :
    HpInv (sensor.branch sessionInProgress updateDue viaAdc) lock service := by
  have elsewhere : sensor.pc ≠ .reading := by
    rw [at_]
    decide
  unfold SensorsTask.branch
  dsimp only
  cases sessionInProgress with
  | true => exact inv.moved elsewhere rfl rfl
  | false =>
    rw [if_neg Bool.false_ne_true]
    split
    · exact inv.moved elsewhere rfl rfl
    · split
      case isTrue wakes =>
        obtain ⟨still, heating⟩ := fresh rfl wakes
        obtain ⟨seen, cold⟩ := inv.branching at_ wakes still
        have unserviced : service.serviced < service.copiedFrom := by
          by_cases isCold : (lock.out (.u .heaterActive) : Nat) = 0
          · exact cold isCold
          · exact heating isCold
        refine ⟨inv.counts, fun running => (running (inv.idle elsewhere)).elim, ?_,
          fun _ _ => ⟨seen, unserviced⟩⟩
        intro place
        simp only at place
        split at place <;> cases place
      case isFalse =>
        split
        · refine ⟨inv.counts, fun running => (running (inv.idle elsewhere)).elim, ?_, ?_⟩
          · rintro ⟨⟩
          · rintro - ⟨⟩
        · exact inv.moved elsewhere rfl rfl

/-- The publish of a flag that was seen is what that flag is serviced by. -/
theorem Counts.serve {lastSeen : Nat} (counts : Counts lastSeen service) (seen : Seen service) :
    Counts lastSeen { service with serviced := service.copiedFrom } where
  copied := counts.copied
  polls := counts.polls
  serviced := seen.completed
  within := seen.polls.trans counts.copied
  known := fun isKnown => ⟨(counts.known isKnown).1, seen.polls⟩
  unknown := fun isUnknown => by cases seen.known.symm.trans isUnknown

open HpSystem

theorem hpInv_send {system after : HpSystem} {created : Bool}
    (inv : HpInv system.sensor lock service)
    (move : SensorMove env system (.send created) after) :
    HpInv after.sensor lock
      (if startsFlagged system created then { service with serviced := service.copiedFrom }
        else service) := by
  have refused : ∀ {started : Option Nat} {later : Service}, system.sensor.pc = .sending →
      Counts system.sensor.lastSeenHeartbeat later →
        HpInv (sent system.sensor started) lock later := by
    intro started later at_ counts
    have elsewhere : system.sensor.pc ≠ .reading := by
      rw [at_]
      decide
    refine ⟨counts, fun running => (running (inv.idle elsewhere)).elim, by rintro ⟨⟩, ?_⟩
    rintro (⟨⟨⟩⟩ | ⟨⟨⟩⟩)
  cases move with
  | sendRefused created at_ busy =>
    have kept : startsFlagged system created = false := by
      simp [startsFlagged, busy]
    rw [kept]
    exact refused at_ inv.counts
  | sendFailed at_ free =>
    have kept : startsFlagged system false = false := by
      simp [startsFlagged]
    rw [kept]
    exact refused at_ inv.counts
  | sendStarted at_ free =>
    apply refused at_
    cases data : system.sensor.cycle.otaOnly with
    | true =>
      have kept : startsFlagged system true = false := by
        simp [startsFlagged, data]
      rw [kept]
      exact inv.counts
    | false =>
      have served : startsFlagged system true = true := by
        simp [startsFlagged, at_, data, free]
      rw [served]
      exact inv.counts.serve (inv.sending (.inr at_) data).1

theorem hpInv_sensor {system after : HpSystem} {event : SensorEvent}
    (inv : HpInv system.sensor lock service) (move : SensorMove env system event after)
    (noRead : ∀ state, event ≠ .readState state) (noSend : ∀ created, event ≠ .send created)
    (fresh : event = .branch → takesFlag system = true →
      lock.moved = 0 ∧ ((lock.out (.u .heaterActive) : Nat) ≠ 0 →
        service.serviced < service.copiedFrom)) :
    HpInv after.sensor lock service := by
  have noted : ∀ {ok : Bool} {resume : AfterNote}, system.sensor.pc ≠ .reading →
      HpInv (system.noteCycleResult ok resume).sensor lock service := by
    intro ok resume elsewhere
    refine inv.moved elsewhere rfl ?_
    rcases system.noteCycleResult_pc ok resume with place | ⟨dbm, place⟩
    · rw [place]
      cases resume <;> rfl
    · rw [place]
      rfl
  cases move with
  | readState state at_ => exact (noRead state rfl).elim
  | sendRefused created at_ busy => exact (noSend created rfl).elim
  | sendFailed at_ free => exact (noSend false rfl).elim
  | sendStarted at_ free => exact (noSend true rfl).elim
  | branch at_ =>
    refine inv.branch at_ _ _ fun inactive wakes => fresh rfl ?_
    simp [takesFlag, at_, inactive, wakes]
  | measure outcome at_ =>
    have idle := inv.idle (by rw [at_]; decide)
    exact ⟨inv.counts, fun running => (running idle).elim, by rintro ⟨⟩,
      fun _ data => inv.sending (.inl at_) data⟩
  | attachFailed at_ => exact noted (by rw [at_]; decide)
  | note at_ => exact noted (by rw [at_]; decide)
  | timeoutNoted at_ inactive => exact noted (by rw [at_]; decide)
  | attached at_ =>
    refine inv.moved (by rw [at_]; decide) rfl ?_
    simp only [attachReady]
    split <;> rfl
  | firstAttachCall accepted at_ => exact inv.moved (by rw [at_]; rintro ⟨⟩) rfl rfl
  | @revertCall dbm resume accepted at_ =>
    refine inv.moved (by rw [at_]; rintro ⟨⟩) rfl ?_
    cases resume <;> rfl
  | deliver nowUs stateRead marked at_ =>
    obtain ⟨log, checked, pending, same⟩ := system.deliver_eq nowUs stateRead marked
    rw [same]
    exact inv.moved (by rw [at_]; decide) rfl rfl
  | supervise stateRead at_ =>
    refine inv.moved (by rw [at_]; decide) rfl ?_
    rcases system.supervise_pc stateRead with place | place <;> rw [place] <;> rfl
  | isBusy at_ =>
    refine inv.moved (by rw [at_]; decide) rfl ?_
    simp only [atSensorPc, withSensor]
    split <;> rfl
  | wake lpWoke at_ => exact inv.moved (by rw [at_]; rintro ⟨⟩) rfl rfl
  | waitDone at_ idle => exact inv.moved (by rw [at_]; decide) rfl rfl
  | waitTimeout at_ | readOutcome at_ | beginWait at_ =>
    exact inv.moved (by rw [at_]; decide) rfl rfl
  | timeoutInSession at_ active => exact inv.moved (by rw [at_]; decide) rfl rfl

/-! ## Both cores -/

structure Inv (state : Observed) : Prop where
  lp : LpInv state.1.core state.2.lp
  reader : ReaderInv state.1.core.lock state.2
  hp : HpInv state.1.hp.sensor state.1.core.lock state.2

variable {cores : Cores}

theorem initially_good : Good {} where
  beat := rfl
  flag := fun set => (set rfl).elim
  writing := by rintro ⟨⟩
  resting := fun _ _ => ⟨rfl, rfl, rfl⟩
  heating := fun _ hot => (hot rfl).elim

theorem inv_start (env : HpEnv) (nvs : Nvs) (cyclesStarted : Nat) (pendingVerify : Bool)
    (config : Shared) :
    Inv (start (HpSystem.boot env nvs cyclesStarted pendingVerify) config, {}) where
  lp := ⟨⟨rfl, rfl, rfl, rfl⟩, initially_good, by rintro program ⟨⟩,
    fun _ => ⟨initially_good, rfl, rfl⟩⟩
  reader := trivial
  hp :=
    { counts := ⟨le_refl 0, le_refl 0, le_refl 0, le_refl 0, fun _ => ⟨rfl, le_refl 0⟩,
        by rintro ⟨⟩⟩
      reading := fun running => (running rfl).elim
      branching := by rintro ⟨⟩
      sending := by rintro (⟨⟨⟩⟩ | ⟨⟨⟩⟩) }

theorem inv_lpStep {answer : LpAnswer} (inv : Inv (cores, service))
    (stepped : Snapshot.lpStep answer cores.core = some core) :
    Inv (cores.withCore core, service.performed cores.core.coming) := by
  cases lpStep_move stepped with
  | finish running =>
    have still : service.performed cores.core.coming = service := by
      simp [HpLp.coming, running, Service.performed]
    rw [still]
    exact ⟨inv.lp.finish running, inv.reader, inv.hp⟩
  | @perform op following answered running answers =>
    have moved : service.performed cores.core.coming =
        { service with lp := performed op service.lp } := by
      simp [HpLp.coming, running, Service.performed]
    rw [moved]
    have lp := inv.lp.perform running answers
    have grows := performed_grows op service.lp
    obtain ⟨allowed, -⟩ := inv.lp.running _ running
    cases op with
    | store field value =>
      refine ⟨lp, inv.reader.store field value grows ?_, inv.hp.store field value grows⟩
      -- the words of the snapshot change in the odd window only
      intro notSeq even
      cases marked : markField field with
      | false => exact performed_other (show OtherOp (.store field value) from marked)
      | true =>
        have odd := allowed.2 marked notSeq
        exact absurd (even.symm.trans odd) (by decide)
    | _ => exact ⟨lp, inv.reader, inv.hp⟩

theorem hpOwned_unmarked {field : Field} (owned : hpOwned field = true) :
    markField field = false := by
  rcases field with field | field
  · cases field <;> first | rfl | cases owned
  · rfl

theorem inv_hpStore {field : Field} (inv : Inv (cores, service)) (value : field.Val)
    (owned : hpOwned field = true) :
    Inv (cores.withCore { cores.core with lock := layout.store cores.core.lock field value },
      service) where
  lp := ⟨inv.lp.mirrors.other value (hpOwned_unmarked owned), inv.lp.good, inv.lp.running,
    inv.lp.resting⟩
  reader := inv.reader.store field value (Grows.refl _) fun _ _ => rfl
  hp := inv.hp.store field value (Grows.refl _)

theorem inv_getState {started : SharedLock} (inv : Inv (cores, service))
    (at_ : cores.hp.sensor.pc = .reading)
    (called : Seqlock.Layout.call cores.core.lock zeroed = some started) :
    Inv (cores.withCore { cores.core with lock := started }, service) := by
  have sameMemory : started.memory = cores.core.lock.memory := Seqlock.call_memory called
  refine ⟨⟨?_, inv.lp.good, inv.lp.running, inv.lp.resting⟩, ?_,
    hpInv_reading at_ inv.hp.counts⟩
  · show Mirrors started.memory service.lp
    rw [sameMemory]
    exact inv.lp.mirrors
  · have begun : started = { cores.core.lock with
        out := zeroed, reader := .attempt 0, written := false, torn := false, moved := 0 } := by
      unfold Seqlock.Layout.call at called
      split at called <;> first | exact (Option.some.inj called).symm | cases called
    subst begun
    refine ⟨fun _ => ⟨rfl, fun tried => ?_⟩, by rintro ⟨⟩⟩
    exact absurd tried (by decide)

theorem inv_readerStep {after : SharedLock} (inv : Inv (cores, service))
    (stepped : layout.readerStep cores.core.lock = some after) :
    Inv (cores.withCore { cores.core with lock := after },
      service.stepped cores.core.lock.reader) := by
  have sameMemory : after.memory = cores.core.lock.memory := Seqlock.readerStep_memory stepped
  have running : cores.core.lock.reader ≠ .idle := by
    intro idle
    simp [Seqlock.Layout.readerStep, idle] at stepped
  have counts := inv.hp.counts
  have sameLp : (service.stepped cores.core.lock.reader).lp = service.lp := by
    unfold Service.stepped
    split
    · obtain ⟨polls, from_, same, -⟩ := copied_frame service ‹Field›
      rw [same]
    · rfl
  refine ⟨⟨?_, ?_, ?_, ?_⟩, ?_, hpInv_reading (inv.hp.reading running) ?_⟩
  · rw [sameLp]
    show Mirrors after.memory service.lp
    rw [sameMemory]
    exact inv.lp.mirrors
  · rw [sameLp]
    exact inv.lp.good
  · rw [sameLp]
    exact inv.lp.running
  · rw [sameLp]
    exact inv.lp.resting
  · exact inv.reader.readerStep inv.lp.mirrors inv.lp.good counts.serviced counts.unknown stepped
  · unfold Service.stepped
    split
    · exact counts.copy inv.lp.good _
    · exact counts

theorem inv_readState {clean : Bool} {hp : HpSystem} (inv : Inv (cores, service))
    (returned : cores.core.lock.reader = .returned clean)
    (stepped : HpSystem.step env cores.hp
      (.sensor (.readState (TimedCores.snapshotOf cores.core.lock.out))) = some hp) :
    Inv (⟨hp, taken cores.core⟩, service.read cores.core.lock.written) := by
  cases step_move stepped with
  | sensor move =>
    cases move with
    | readState state at_ =>
      generalize found : Cadence.heartbeatDelta (cores.core.lock.out (.u .heartbeatCounter))
        cores.hp.sensor.lastSeenHeartbeat = delta
      have sameTask : cores.hp.sensor.takeState (TimedCores.snapshotOf cores.core.lock.out) = _ :=
        TimedCores.takeState_delta found
      refine ⟨⟨inv.lp.mirrors, inv.lp.good, inv.lp.running, inv.lp.resting⟩, trivial, ?_⟩
      show HpInv (cores.hp.sensor.takeState (TimedCores.snapshotOf cores.core.lock.out)) _ _
      rw [sameTask]
      exact inv.hp.takeState inv.reader returned found

theorem inv_send {created : Bool} {hp : HpSystem} (inv : Inv (cores, service))
    (move : SensorMove env cores.hp (.send created) hp) :
    Inv (cores.withHp hp, record cores (.hp (.sensor (.send created))) service) := by
  have sent := hpInv_send inv.hp move
  have at_ : cores.hp.sensor.pc = .sending := by
    cases move <;> assumption
  have idle : cores.core.lock.reader = .idle := inv.hp.idle (by rw [at_]; decide)
  have blank : ∀ later, ReaderInv cores.core.lock later := by
    intro later
    unfold ReaderInv
    rw [idle]
    trivial
  refine ⟨?_, blank _, sent⟩
  have sameLp : (record cores (.hp (.sensor (.send created))) service).lp = service.lp := by
    simp only [record]
    split <;> rfl
  show LpInv cores.core (record cores (.hp (.sensor (.send created))) service).lp
  rw [sameLp]
  exact inv.lp

theorem inv_hp {action : HpAction} {hp : HpSystem} (inv : Inv (cores, service))
    (met : FreshFlag (cores, service) (.hp action)) (untimed : TimedCores.timedHp action = false)
    (stepped : HpSystem.step env cores.hp action = some hp) :
    Inv (cores.withHp hp, record cores (.hp action) service) := by
  have kept : hp.sensor = cores.hp.sensor → Inv (cores.withHp hp, service) := by
    intro same
    refine ⟨inv.lp, inv.reader, ?_⟩
    show HpInv hp.sensor cores.core.lock service
    rw [same]
    exact inv.hp
  cases step_move stepped with
  | @sensor event _ move =>
    by_cases sends : ∃ created, event = .send created
    · obtain ⟨created, rfl⟩ := sends
      exact inv_send inv move
    · have still : record cores (.hp (.sensor event)) service = service := by
        cases event <;> first | rfl | exact (sends ⟨_, rfl⟩).elim
      rw [still]
      refine ⟨inv.lp, inv.reader, ?_⟩
      refine hpInv_sensor inv.hp move ?_ (fun created same => sends ⟨created, same⟩) ?_
      · rintro state rfl
        cases untimed
      · rintro rfl
        exact met
  | pub running leaves move => exact kept (pub_sensor move)
  | tail => exact kept rfl
  | client move => exact kept (client_sensor move)
  | @ota pub event accepted ota running at_ inCycle moved =>
    obtain ⟨radio, same⟩ := cores.hp.otaRadio_eq event accepted
    apply kept
    rw [same]
  | reset pendingVerify => cases untimed

theorem inv_step [FloatOps] (state : Observed) (action : Action) (after : Observed)
    (inv : Inv state) (met : FreshFlag state action)
    (stepped : step env state action = some after) : Inv after := by
  obtain ⟨cores, service⟩ := state
  obtain ⟨later, history⟩ := after
  obtain ⟨taken, recorded⟩ := Runs.observe_step stepped
  simp only at taken recorded
  subst recorded
  cases action with
  | lpTimer =>
    obtain ⟨core, woken, rfl⟩ := Option.map_eq_some_iff.mp taken
    simp only [Snapshot.step, Option.ite_none_right_eq_some] at woken
    obtain ⟨asleep, same⟩ := woken
    cases same
    have resting := inv.lp.resting (Option.isNone_iff_eq_none.mp asleep)
    refine ⟨⟨inv.lp.mirrors, inv.lp.good, ?_, by rintro ⟨⟩⟩, inv.reader, inv.hp⟩
    rintro program ⟨⟩
    exact wp_main resting
  | lpStep answer =>
    obtain ⟨core, moved, rfl⟩ := Option.map_eq_some_iff.mp taken
    exact inv_lpStep inv moved
  | hpStore field value =>
    obtain ⟨core, stored, rfl⟩ := Option.map_eq_some_iff.mp taken
    simp only [Snapshot.step, Option.ite_none_right_eq_some] at stored
    obtain ⟨owned, same⟩ := stored
    cases same
    exact inv_hpStore inv value owned
  | getState =>
    simp only [coresStep, Option.ite_none_right_eq_some] at taken
    obtain ⟨⟨at_, idle⟩, taken⟩ := taken
    obtain ⟨core, called, rfl⟩ := Option.map_eq_some_iff.mp taken
    simp only [Snapshot.step, Option.map_eq_some_iff] at called
    obtain ⟨lock, called, rfl⟩ := called
    exact inv_getState inv at_ called
  | readerStep =>
    obtain ⟨core, read, rfl⟩ := Option.map_eq_some_iff.mp taken
    simp only [Snapshot.step, Option.map_eq_some_iff] at read
    obtain ⟨lock, read, rfl⟩ := read
    exact inv_readerStep inv read
  | readState =>
    simp only [coresStep] at taken
    split at taken
    case h_1 clean returned =>
      obtain ⟨hp, read, rfl⟩ := Option.map_eq_some_iff.mp taken
      exact inv_readState inv returned read
    case h_2 => cases taken
  | hp action =>
    simp only [coresStep, Option.ite_none_left_eq_some, Bool.not_eq_true] at taken
    obtain ⟨untimed, taken⟩ := taken
    obtain ⟨hp, moved, rfl⟩ := Option.map_eq_some_iff.mp taken
    exact inv_hp inv met untimed moved
  | reset pendingVerify config =>
    cases taken
    exact inv_start env _ _ pendingVerify config

theorem servicedOnce_of_inv (state : Observed) (action : Action) (inv : Inv state) :
    ServicedOnce state action := by
  unfold ServicedOnce
  split
  · intro starts
    simp only [startsFlagged, Bool.and_eq_true, decide_eq_true_eq, Bool.not_eq_true'] at starts
    obtain ⟨⟨⟨at_, data⟩, -⟩, -⟩ := starts
    obtain ⟨seen, unserviced⟩ := inv.hp.sending (.inr at_) data
    exact ⟨unserviced, seen.completed, seen.flagged⟩
  · trivial

/-- In every run whose branches go by fresh flags, every publish of a flagged reading
is for the flag of another LP cycle. -/
theorem servicedOnce_run [FloatOps] (env : HpEnv) (nvs : Nvs) (cyclesStarted : Nat)
    (pendingVerify : Bool) (config : Shared) (actions : List Action)
    (met : Runs.Along (step env) FreshFlag
      (start (HpSystem.boot env nvs cyclesStarted pendingVerify) config, {}) actions) :
    Runs.Along (step env) ServicedOnce
      (start (HpSystem.boot env nvs cyclesStarted pendingVerify) config, {}) actions :=
  Runs.along_of_invariant Inv inv_step
    (fun state action inv _ => servicedOnce_of_inv state action inv)
    (inv_start env nvs cyclesStarted pendingVerify config) met

/-! ## Runs -/

def lpSteps (operations : Nat) : List Action :=
  List.replicate operations (.lpStep ⟨true, some ⟨0, 0, crc8 [0, 0], 0, 0, crc8 [0, 0]⟩⟩)

def hpSteps (actions : List HpAction) : List Action := actions.map .hp

/-- `lp_sensor_core_get_state` with its first attempt clean, and the branch. -/
def readAndBranch : List Action :=
  .getState :: List.replicate 33 .readerStep ++ [.readState] ++ hpSteps [.sensor .branch]

/-- The first LP cycle flags its reading, and the first turn publishes it, has it
acknowledged and goes to sleep. -/
def firstFlagServiced : List Action :=
  .lpTimer :: lpSteps 36 ++ hpSteps attachFirst ++ readAndBranch ++
    hpSteps ([.sensor (.send true), .sensor .isBusy] ++ publishUpToState ++ allAcked 33 ++
      publishToOutcome ++ publishEnd ++ noteOutcome) ++
    [.hpStore (.f .hpAckedTempC) (Flt.fin (-45)), .hpStore (.f .hpAckedHumPct) (Flt.fin 0),
      .hpStore (.u .hpAckSeq) (1 : Nat)] ++
    hpSteps [.sensor (.supervise true), .sensor .beginWait]

/-- The second cycle flags its reading too. -/
def secondFlagServiced : List Action :=
  firstFlagServiced ++ .lpTimer :: lpSteps 46 ++
    hpSteps [.sensor (.wake true), .sensor (.attachGate true)] ++ readAndBranch ++
    hpSteps [.sensor (.send true)]

/-- The second cycle is in its heater run when the wait runs out. -/
def leftoverFlagRead : List Action :=
  firstFlagServiced ++ .lpTimer :: lpSteps 33 ++
    hpSteps [.sensor (.wake false), .sensor (.attachGate true)] ++ readAndBranch

theorem servicedOnce_twoFlags :
    (Runs.run (@step exactFloat benchEnv)
        (start (HpSystem.boot benchEnv Nvs.erased 0 false) (TimedCores.heaterEvery 3), {})
        secondFlagServiced).isSome = true ∧
      Runs.Along (@step exactFloat benchEnv) ServicedOnce
        (start (HpSystem.boot benchEnv Nvs.erased 0 false) (TimedCores.heaterEvery 3), {})
        secondFlagServiced :=
  ⟨by decide +kernel, @servicedOnce_run exactFloat benchEnv Nvs.erased 0 false
    (TimedCores.heaterEvery 3) secondFlagServiced (by decide +kernel)⟩

theorem leftover_flag_published :
    ∃ final,
      Runs.run (@step exactFloat benchEnv)
          (start (HpSystem.boot benchEnv Nvs.erased 0 false) (TimedCores.heaterEvery 2), {})
          leftoverFlagRead = some final ∧
        final.2.lp.completed = 1 ∧ final.2.serviced = 1 ∧
        (final.1.core.lock.memory (.u .heaterActive) : Nat) = 1 ∧
        ¬ ServicedOnce final (.hp (.sensor (.send true))) := by
  obtain ⟨final, ran, reached⟩ := Runs.exists_final
    (fun final : Observed =>
      decide (final.2.lp.completed = 1 ∧ final.2.serviced = 1 ∧
        (final.1.core.lock.memory (.u .heaterActive) : Nat) = 1 ∧
        ¬ ServicedOnce final (.hp (.sensor (.send true)))))
    (show (Runs.run (@step exactFloat benchEnv)
      (start (HpSystem.boot benchEnv Nvs.erased 0 false) (TimedCores.heaterEvery 2), {})
      leftoverFlagRead).any _ = true by decide +kernel)
  exact ⟨final, ran, of_decide_eq_true reached⟩

end SleepySensor.FlagService
