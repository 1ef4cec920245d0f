import SleepySensor.HpSteps
import SleepySensor.LpTiming
import SleepySensor.SkipBudget

/-!
# Whether a heater run looks like a stall

The LP core and the HP core against one clock in microseconds.  The LP core goes
on exactly when its delays and its poll sleep are over, the sensor task when its
wait is; whatever else they do takes no time, or, while the sensor task is awake,
any time.
-/

set_option autoImplicit false

namespace SleepySensor

open LpCore Snapshot

/-- What the supervision is about: the last store to `heartbeat_counter`, and the
one that the last read of the state could see. -/
structure StallWatch where
  /-- Stores to `heartbeat_counter` since the LP core was started. -/
  polls : Nat := 0
  /-- When the last of them was, or the start. -/
  polledAt : Nat
  seenPolls : Nat := 0
  seenPolledAt : Nat
  /-- When the state was last read, or the start. -/
  seenAt : Nat
  deriving DecidableEq, Repr

structure TimedCores where
  hp : HpSystem
  core : HpLp
  now : Nat
  /-- When the LP core goes on. -/
  lpAt : Nat
  /-- When the wait of a sleeping sensor task runs out. -/
  wakeAt : Nat
  watch : StallWatch

inductive TimedAction where
  | pass (us : Nat)
  | lpTimer
  | lpStep (answer : LpAnswer)
  /-- A word of the configuration or of the delivery ack. -/
  | hpStore (field : Field) (value : field.Val)
  | readState
  | hp (action : HpAction)
  | reset (pendingVerify : Bool) (config : Shared)

namespace TimedCores

/-- `lp_sensor_core_get_state` on a state that nobody changes meanwhile: in an odd
window the caller's zeroed structure stays as it is. -/
def getState (memory : Shared) : Shared :=
  if layout.countOf memory % 2 = 1 then zeroed else memory

/-- It is what the ten attempts of a reader come to. -/
theorem getState_reader {lock started : Seqlock.Lock Field Field.Val}
    (called : Seqlock.Layout.call lock zeroed = some started) :
    ∃ final, Seqlock.Alone layout started final ∧
      final.reader = .returned (decide (layout.countOf lock.memory % 2 = 0)) ∧
        final.out = getState lock.memory :=
  Seqlock.call_alone called (by decide) mem_copyOrder

theorem getState_reader_zeroed :
    ∃ final, Seqlock.Alone layout { Seqlock.initial zeroed zeroed with reader := .attempt 0 }
        final ∧
      final.reader = .returned (decide (layout.countOf zeroed % 2 = 0)) ∧
        final.out = getState zeroed :=
  @getState_reader (Seqlock.initial zeroed zeroed) _ rfl

def snapshotOf (state : Shared) : LpSnapshot :=
  { heartbeatCounter := state (.u .heartbeatCounter), shouldWakeHp := state (.u .shouldWakeHp)
    calTempC := state (.f .calTempC), calHumPct := state (.f .calHumPct)
    lastHeaterRunCycle := state (.u .lastHeaterRunCycle)
    lastHeaterPassed := state (.u .lastHeaterPassed)
    heaterRunCount := state (.u .heaterRunCount) }

/-- The LP core is started and sleeps its first poll interval. -/
def start (hp : HpSystem) (config : Shared) (pollSec now : Nat) : TimedCores :=
  { hp := hp
    core := SkipBudget.begun config
    now := now, lpAt := now + pollSec * 1000000, wakeAt := now
    watch := { polledAt := now, seenPolledAt := now, seenAt := now } }

def waitUs (otaRetryWait : Bool) (pollSec maxSkip : Nat) : Nat :=
  1000 * Cadence.waitTicks otaRetryWait pollSec maxSkip

def asleep : SensorPc → Bool
  | .sleeping _ => true
  | _ => false

/-- When the LP core goes on after the operation it is at. -/
def nextLpAt (core : HpLp) (pollSec now : Nat) : Nat :=
  match core.lp with
  | some (.call op _) => now + op.delay
  | _ => now + pollSec * 1000000

def StallWatch.performed (watch : StallWatch) (core : HpLp) (now : Nat) : StallWatch :=
  match core.coming with
  | some op => if bumps op then { watch with polls := watch.polls + 1, polledAt := now } else watch
  | none => watch

def StallWatch.read (watch : StallWatch) (now : Nat) : StallWatch :=
  { watch with seenPolls := watch.polls, seenPolledAt := watch.polledAt, seenAt := now }

/-- Steps of the HP core that go by the clock or by the shared memory. -/
def timedHp : HpAction → Bool
  | .sensor (.readState _) | .reset _ => true
  | _ => false

def step [FloatOps] (env : HpEnv) (pollSec maxSkip : Nat) (cores : TimedCores) :
    TimedAction → Option TimedCores
  | .pass us =>
    if cores.now + us ≤ cores.lpAt ∧
        (asleep cores.hp.sensor.pc = true → cores.now + us ≤ cores.wakeAt) then
      some { cores with now := cores.now + us }
    else none
  | .lpTimer =>
    if cores.now = cores.lpAt ∧ cores.core.lp.isNone = true then
      some { cores with core := { cores.core with lp := some main } }
    else none
  | .lpStep answer =>
    if cores.now = cores.lpAt then
      (Snapshot.lpStep answer cores.core).map fun core =>
        { cores with
          core := core, lpAt := nextLpAt cores.core pollSec cores.now
          watch := StallWatch.performed cores.watch cores.core cores.now }
    else none
  | .hpStore field value =>
    if hpOwned field then
      some { cores with
        core := { cores.core with lock := layout.store cores.core.lock field value } }
    else none
  | .readState =>
    (HpSystem.step env cores.hp
      (.sensor (.readState (snapshotOf (getState cores.core.lock.memory))))).map fun hp =>
        { cores with hp := hp, watch := StallWatch.read cores.watch cores.now }
  | .hp (.sensor .beginWait) =>
    (HpSystem.step env cores.hp (.sensor .beginWait)).map fun hp =>
      { cores with
        hp := hp
        wakeAt := cores.now +
          waitUs (cores.hp.ota.updateDue && !cores.hp.ota.sessionActive) pollSec maxSkip }
  | .hp (.sensor (.wake lpWoke)) =>
    if lpWoke = true ∨ cores.now = cores.wakeAt then
      (HpSystem.step env cores.hp (.sensor (.wake lpWoke))).map fun hp => { cores with hp := hp }
    else none
  | .hp action =>
    if timedHp action then none
    else (HpSystem.step env cores.hp action).map fun hp => { cores with hp := hp }
  | .reset pendingVerify config =>
    some (start (HpSystem.boot env cores.hp.nvs cores.hp.cyclesStarted pendingVerify) config pollSec
      cores.now)

/-! ## The claim of the supervisor, and its conditions -/

/-- The coming step of the supervisor does not reboot for an LP stall. -/
def NoStallReboot (cores : TimedCores) : TimedAction → Prop
  | .hp (.sensor (.supervise _)) =>
    cores.hp.sensor.pc = .cycleEnd → cores.hp.sensor.cycle.lpStalledThisCycle = true →
      u32 (cores.hp.sensor.lpStalledCycles + 1) < lpStallRebootThreshold
  | _ => True

/-- A read that finds the heartbeat unchanged is right about it. -/
def SeesPolls (cores : TimedCores) : TimedAction → Prop
  | .readState =>
    Cadence.heartbeatDelta (getState cores.core.lock.memory (.u .heartbeatCounter))
        cores.hp.sensor.lastSeenHeartbeat = 0 →
      cores.watch.polls = cores.watch.seenPolls
  | _ => True

/-- The number of samples that the coming LP step reads. -/
def samplesRead (core : HpLp) : Option Nat :=
  match core.coming with
  | some (.load (.u .sensorSamples)) => some (core.lock.memory (.u .sensorSamples))
  | _ => none

/-- Every poll takes at most `samples` samples. -/
def SamplesWithin (samples : Nat) (cores : TimedCores) : TimedAction → Prop
  | .lpStep _ => ∀ count ∈ samplesRead cores.core, count ≤ samples
  | _ => True

instance (cores : TimedCores) (action : TimedAction) : Decidable (NoStallReboot cores action) := by
  unfold NoStallReboot
  split <;> infer_instance

instance (cores : TimedCores) (action : TimedAction) : Decidable (SeesPolls cores action) := by
  unfold SeesPolls
  split <;> infer_instance

instance (samples : Nat) (cores : TimedCores) (action : TimedAction) :
    Decidable (SamplesWithin samples cores action) := by
  unfold SamplesWithin
  split <;> infer_instance

/-! ## The LP core keeps its time -/

structure LpOnTime (pollSec samples : Nat) (cores : TimedCores) : Prop where
  polled : cores.watch.polledAt ≤ cores.now
  due : cores.now ≤ cores.lpAt
  within : cores.lpAt ≤ cores.watch.polledAt + heartbeatGapUs pollSec samples
  resting : cores.core.lp = none →
    cores.lpAt ≤ cores.watch.polledAt + (heaterUs + pollSec * 1000000)
  running : ∀ program, cores.core.lp = some program →
    program.wp (timeContract (heartbeatGapUs pollSec samples) samples)
      (cores.lpAt - cores.watch.polledAt) fun after _ => after ≤ heaterUs
  seen : cores.watch.seenPolls ≤ cores.watch.polls
  unseen : cores.watch.polls = cores.watch.seenPolls →
    cores.watch.polledAt = cores.watch.seenPolledAt

variable {env : HpEnv} {pollSec maxSkip samples : Nat} {cores next : TimedCores}

theorem lpOnTime_start (hp : HpSystem) (config : Shared) (now : Nat) :
    LpOnTime pollSec samples (start hp config pollSec now) where
  polled := le_refl now
  due := Nat.le_add_right now _
  within := by
    simp only [start, heartbeatGapUs]
    omega
  resting := fun _ => by
    simp only [start]
    omega
  running := by rintro program ⟨⟩
  seen := le_refl 0
  unseen := fun _ => rfl

theorem LpOnTime.pass (onTime : LpOnTime pollSec samples cores) {us : Nat}
    (early : cores.now + us ≤ cores.lpAt) :
    LpOnTime pollSec samples { cores with now := cores.now + us } where
  polled := onTime.polled.trans (Nat.le_add_right _ us)
  due := early
  within := onTime.within
  resting := onTime.resting
  running := onTime.running
  seen := onTime.seen
  unseen := onTime.unseen

theorem LpOnTime.timer [FloatOps] (onTime : LpOnTime pollSec samples cores)
    (sleeping : cores.core.lp = none) :
    LpOnTime pollSec samples { cores with core := { cores.core with lp := some main } } where
  polled := onTime.polled
  due := onTime.due
  within := onTime.within
  resting := by rintro ⟨⟩
  running := by
    rintro program ⟨⟩
    exact wp_main_time (Nat.sub_le_iff_le_add'.mpr (onTime.resting sleeping))
  seen := onTime.seen
  unseen := onTime.unseen

theorem LpOnTime.read (onTime : LpOnTime pollSec samples cores) (hp : HpSystem) :
    LpOnTime pollSec samples
      { cores with hp := hp, watch := StallWatch.read cores.watch cores.now } where
  polled := onTime.polled
  due := onTime.due
  within := onTime.within
  resting := onTime.resting
  running := onTime.running
  seen := le_refl _
  unseen := fun _ => rfl

theorem timeContract_effect {limit elapsed : Nat} {op : LpOp} {following : op.Res → LpProg Unit}
    {answered : op.Res} {answer : LpAnswer}
    (running : cores.core.lp = some (.call op following))
    (answers : cores.core.Answers op answered)
    (few : SamplesWithin samples cores (.lpStep answer)) :
    (timeContract limit samples).effect elapsed op answered
      (if bumps op then 0 else elapsed + op.delay) := by
  refine ⟨rfl, ?_⟩
  cases op with
  | load field =>
    rcases field with field | field
    · cases field with
      | sensorSamples =>
        have same : answered = cores.core.lock.memory (.u .sensorSamples) := answers
        rw [same]
        exact few _ (by simp [samplesRead, HpLp.coming, running])
      | _ => trivial
    · trivial
  | _ => trivial

theorem lpOnTime_lpStep {answer : LpAnswer} {core : HpLp}
    (onTime : LpOnTime pollSec samples cores) (now : cores.now = cores.lpAt)
    (few : SamplesWithin samples cores (.lpStep answer))
    (taken : Snapshot.lpStep answer cores.core = some core) :
    LpOnTime pollSec samples
      { cores with
        core := core, lpAt := nextLpAt cores.core pollSec cores.now
        watch := StallWatch.performed cores.watch cores.core cores.now } := by
  have polled : cores.watch.polledAt ≤ cores.lpAt := now ▸ onTime.polled
  cases lpStep_move taken with
  | finish running =>
    have bound : cores.lpAt - cores.watch.polledAt ≤ heaterUs := onTime.running _ running
    have still : StallWatch.performed cores.watch cores.core cores.now = cores.watch := by
      simp [StallWatch.performed, HpLp.coming, running]
    have later : nextLpAt cores.core pollSec cores.now = cores.lpAt + pollSec * 1000000 := by
      simp [nextLpAt, running, now]
    rw [still, later]
    refine ⟨onTime.polled, ?_, ?_, fun _ => ?_, by rintro program ⟨⟩, onTime.seen, onTime.unseen⟩
    · exact onTime.due.trans (Nat.le_add_right _ _)
    · simp only [heartbeatGapUs]
      omega
    · simp only
      omega
  | @perform op following answered running answers =>
    obtain ⟨fits, continues⟩ := onTime.running _ running
    have fits : cores.lpAt - cores.watch.polledAt + op.delay ≤ heartbeatGapUs pollSec samples :=
      fits
    have later : nextLpAt cores.core pollSec cores.now = cores.lpAt + op.delay := by
      simp [nextLpAt, running, now]
    have continues := continues answered _ (timeContract_effect running answers few)
    rw [later]
    cases bumped : bumps op with
    | true =>
      have instant : op.delay = 0 := by
        cases op <;> first | rfl | cases bumped
      have moved : StallWatch.performed cores.watch cores.core cores.now =
          { cores.watch with polls := cores.watch.polls + 1, polledAt := cores.lpAt } := by
        simp [StallWatch.performed, HpLp.coming, running, bumped, now]
      rw [moved, instant, Nat.add_zero]
      refine ⟨now.ge, now.le, Nat.le_add_right _ _, by rintro ⟨⟩, ?_, ?_, ?_⟩
      · rintro program ⟨⟩
        rw [bumped, if_pos rfl] at continues
        simpa using continues
      · exact onTime.seen.trans (Nat.le_succ _)
      · intro same
        have seen := onTime.seen
        simp only at same
        omega
    | false =>
      have still : StallWatch.performed cores.watch cores.core cores.now = cores.watch := by
        simp [StallWatch.performed, HpLp.coming, running, bumped]
      rw [still]
      refine ⟨onTime.polled, ?_, ?_, by rintro ⟨⟩, ?_, onTime.seen, onTime.unseen⟩
      · exact now.le.trans (Nat.le_add_right _ _)
      · simp only
        omega
      · rintro program ⟨⟩
        rw [bumped, if_neg Bool.false_ne_true] at continues
        have shifted : cores.lpAt + op.delay - cores.watch.polledAt =
            cores.lpAt - cores.watch.polledAt + op.delay := Nat.sub_add_comm polled
        rw [shifted]
        exact continues

/-! ## The sensor task counts its waits -/

/-- Before the read of the state, between it and the branch, up to the supervisor,
and after it. -/
inductive SensorPhase where
  | before
  | read
  | turn
  | ended
  | asleep (otaRetryWait : Bool)
  deriving DecidableEq, Repr

def phase : SensorPc → SensorPhase
  | .attaching | .firstAttachCall _ | .reading => .before
  | .branching => .read
  | .measuring | .sending | .checkBusy | .waiting | .readOutcome | .noting => .turn
  | .revertCall _ _ | .delivering | .timedOut | .cycleEnd => .turn
  | .beginWait | .rebooting => .ended
  | .sleeping otaRetryWait => .asleep otaRetryWait

/-- A counted stall is a whole safeguard wait between the last poll that was seen
and the last read. -/
structure Accounted (wait now wakeAt : Nat) (watch : StallWatch) (sensor : SensorsTask) :
    Prop where
  past : watch.seenPolledAt ≤ watch.seenAt
  seen : watch.seenAt ≤ now
  counted : 1 ≤ sensor.lpStalledCycles →
    (phase sensor.pc = .read ∨ phase sensor.pc = .turn) ∧
        sensor.cycle.lpProgressedThisCycle = true ∨
      watch.seenPolledAt + wait ≤ watch.seenAt
  before : phase sensor.pc = .before → sensor.cycle.lpStalledThisCycle = false ∧
    (sensor.wakeReason = .safeguardTimeout → watch.seenAt + wait ≤ now)
  read : phase sensor.pc = .read → sensor.cycle.lpStalledThisCycle = false ∧
    (sensor.wakeReason = .safeguardTimeout → sensor.cycle.heartbeatDelta = 0 →
      sensor.lpStalledCycles = 0 ∧ watch.seenPolledAt + wait ≤ watch.seenAt)
  turn : phase sensor.pc = .turn → sensor.cycle.lpStalledThisCycle = true →
    sensor.lpStalledCycles = 0 ∧ watch.seenPolledAt + wait ≤ watch.seenAt
  asleep : phase sensor.pc = .asleep false → watch.seenAt + wait ≤ wakeAt

variable {wait now wakeAt : Nat} {watch : StallWatch} {sensor after : SensorsTask}

theorem accounted_start {pendingVerify : Bool} (now wakeAt : Nat) :
    Accounted wait now wakeAt { polledAt := now, seenPolledAt := now, seenAt := now }
      { pendingVerify := pendingVerify } where
  past := le_refl now
  seen := le_refl now
  counted := by rintro ⟨⟩
  before := fun _ => ⟨rfl, by rintro ⟨⟩⟩
  read := by rintro ⟨⟩
  turn := by rintro ⟨⟩
  asleep := by rintro ⟨⟩

theorem Accounted.later (accounted : Accounted wait now wakeAt watch sensor) {then_ : Nat}
    (le : now ≤ then_) : Accounted wait then_ wakeAt watch sensor :=
  { accounted with
    seen := accounted.seen.trans le
    before := fun at_ => ⟨(accounted.before at_).1,
      fun reason => ((accounted.before at_).2 reason).trans le⟩ }

theorem Accounted.polled (accounted : Accounted wait now wakeAt watch sensor) (core : HpLp)
    (at_ : Nat) : Accounted wait now wakeAt (StallWatch.performed watch core at_) sensor := by
  have same : (StallWatch.performed watch core at_).seenPolledAt = watch.seenPolledAt ∧
      (StallWatch.performed watch core at_).seenAt = watch.seenAt := by
    unfold StallWatch.performed
    split
    · split <;> exact ⟨rfl, rfl⟩
    · exact ⟨rfl, rfl⟩
  obtain ⟨past, seen, counted, before, read, turn, asleep⟩ := accounted
  constructor <;> rw [same.2]
  · rw [same.1]
    exact past
  · exact seen
  · rw [same.1]
    exact counted
  · exact before
  · rw [same.1]
    exact read
  · rw [same.1]
    exact turn
  · exact asleep

/-- What the supervisor goes by. -/
structure SameStall (sensor after : SensorsTask) : Prop where
  lpStalledCycles : after.lpStalledCycles = sensor.lpStalledCycles
  wakeReason : after.wakeReason = sensor.wakeReason
  lpStalledThisCycle : after.cycle.lpStalledThisCycle = sensor.cycle.lpStalledThisCycle
  lpProgressedThisCycle : after.cycle.lpProgressedThisCycle = sensor.cycle.lpProgressedThisCycle
  heartbeatDelta : after.cycle.heartbeatDelta = sensor.cycle.heartbeatDelta

theorem Accounted.kept (accounted : Accounted wait now wakeAt watch sensor)
    (same : SameStall sensor after)
    (moved : phase after.pc = phase sensor.pc ∨
      phase sensor.pc = .before ∧ phase after.pc = .turn) :
    Accounted wait now wakeAt watch after := by
  obtain ⟨past, seen, counted, before, read, turn, asleep⟩ := accounted
  obtain ⟨cycles, reason, stalled, progressed, delta⟩ := same
  rcases moved with samePhase | ⟨first, second⟩
  · refine ⟨past, seen, ?_, ?_, ?_, ?_, ?_⟩ <;>
      simp only [samePhase, cycles, reason, stalled, progressed, delta] <;> assumption
  · have clean := (before first).1
    refine ⟨past, seen, ?_, ?_, ?_, ?_, ?_⟩
    · rw [cycles]
      intro some_
      rcases counted some_ with ⟨elsewhere, -⟩ | waited
      · rcases elsewhere with at_ | at_ <;> cases first.symm.trans at_
      · exact .inr waited
    · intro at_
      cases second.symm.trans at_
    · intro at_
      cases second.symm.trans at_
    · intro _ isStalled
      cases clean.symm.trans (stalled.symm.trans isStalled)
    · intro at_
      cases second.symm.trans at_

theorem takeState_delta {state : LpSnapshot} {delta : Nat}
    (found : Cadence.heartbeatDelta state.heartbeatCounter sensor.lastSeenHeartbeat = delta) :
    sensor.takeState state =
      { sensor with
        lastSeenHeartbeat := state.heartbeatCounter
        cycle :=
          { sensor.cycle with
            state := state, heartbeatDelta := delta, lpProgressedThisCycle := decide (0 < delta) }
        pc := .branching } := by
  subst found
  rfl

/-- The read of the state.  One that finds the heartbeat of the last read a whole
safeguard wait later cannot be the second in a row: the LP core polls within two. -/
theorem Accounted.taken (accounted : Accounted wait now wakeAt watch sensor)
    (at_ : sensor.pc = .reading) {state : LpSnapshot} {delta : Nat}
    (found : Cadence.heartbeatDelta state.heartbeatCounter sensor.lastSeenHeartbeat = delta)
    (polled : watch.polledAt ≤ now) (next : now ≤ watch.polledAt + heartbeatGapUs pollSec samples)
    (wide : heartbeatGapUs pollSec samples < 2 * wait)
    (unseen : delta = 0 → watch.polledAt = watch.seenPolledAt) :
    Accounted wait now wakeAt (StallWatch.read watch now) (sensor.takeState state) := by
  rw [takeState_delta found]
  generalize heartbeatGapUs pollSec samples = gap at next wide
  have place : phase sensor.pc = .before := by rw [at_]; rfl
  obtain ⟨clean, waited⟩ := accounted.before place
  have noRead : 1 ≤ sensor.lpStalledCycles → watch.seenPolledAt + wait ≤ watch.seenAt := by
    intro some_
    rcases accounted.counted some_ with ⟨elsewhere, -⟩ | waited
    · rcases elsewhere with at_ | at_ <;> cases place.symm.trans at_
    · exact waited
  refine ⟨polled, le_refl now, ?_, by rintro ⟨⟩, fun _ => ⟨clean, ?_⟩, by rintro ⟨⟩,
    by rintro ⟨⟩⟩
  · intro some_
    by_cases moved : 0 < delta
    · exact .inl ⟨.inl rfl, decide_eq_true moved⟩
    · have same := unseen (Nat.eq_zero_of_not_pos moved)
      have before := noRead some_
      have seen := accounted.seen
      refine .inr ?_
      show watch.polledAt + wait ≤ now
      omega
  · intro reason still
    have same := unseen still
    have past := accounted.past
    have waited := waited reason
    refine ⟨?_, ?_⟩
    · show sensor.lpStalledCycles = 0
      by_contra some_
      have before := noRead (Nat.pos_of_ne_zero some_)
      omega
    · show watch.polledAt + wait ≤ now
      omega

theorem branch_stall (sensor : SensorsTask) (inSession due viaAdc : Bool) :
    ∃ quiet stalled otaOnly values pc,
      sensor.branch inSession due viaAdc =
        { sensor with
          cycle :=
            { sensor.cycle with
              quietCycle := quiet, lpStalledThisCycle := stalled
              otaOnly := otaOnly, values := values }
          pc := pc } ∧
      phase pc = .turn ∧
      (stalled = true → sensor.cycle.lpStalledThisCycle = true ∨
        sensor.wakeReason = .safeguardTimeout ∧ sensor.cycle.heartbeatDelta = 0) := by
  unfold SensorsTask.branch
  dsimp only
  split
  · exact ⟨_, _, _, _, _, rfl, rfl, .inl⟩
  · split
    case isTrue stall => exact ⟨_, _, _, _, _, rfl, rfl, fun _ => .inr stall⟩
    case isFalse =>
      split
      · refine ⟨_, _, _, _, _, rfl, ?_, .inl⟩
        split <;> rfl
      · split <;> exact ⟨_, _, _, _, _, rfl, rfl, .inl⟩

theorem Accounted.branch (accounted : Accounted wait now wakeAt watch sensor)
    (at_ : sensor.pc = .branching) (inSession due viaAdc : Bool) :
    Accounted wait now wakeAt watch (sensor.branch inSession due viaAdc) := by
  have place : phase sensor.pc = .read := by rw [at_]; rfl
  obtain ⟨clean, stall⟩ := accounted.read place
  obtain ⟨quiet, stalled, otaOnly, values, pc, same, moved, whence⟩ :=
    branch_stall sensor inSession due viaAdc
  rw [same]
  refine ⟨accounted.past, accounted.seen, ?_, ?_, ?_, ?_, ?_⟩
  · intro some_
    rcases accounted.counted some_ with ⟨-, progressed⟩ | waited
    · exact .inl ⟨.inr moved, progressed⟩
    · exact .inr waited
  · intro first
    cases moved.symm.trans first
  · intro first
    cases moved.symm.trans first
  · intro _ isStalled
    rcases whence isStalled with before | ⟨reason, still⟩
    · cases clean.symm.trans before
    · exact stall reason still
  · intro sleeping
    cases moved.symm.trans sleeping

theorem Accounted.supervise (accounted : Accounted wait now wakeAt watch sensor)
    (at_ : sensor.pc = .cycleEnd) (inSession stateRead : Bool) {pc : SensorPc}
    (ended : phase pc = .ended) :
    Accounted wait now wakeAt watch
      { (sensor.supervise inSession stateRead).1 with pc := pc } := by
  have place : phase sensor.pc = .turn := by rw [at_]; rfl
  refine ⟨accounted.past, accounted.seen, ?_, ?_, ?_, ?_, ?_⟩
  · intro some_
    refine .inr ?_
    simp only [SensorsTask.supervise] at some_
    cases stalled : sensor.cycle.lpStalledThisCycle with
    | true => exact (accounted.turn place stalled).2
    | false =>
      cases progressed : sensor.cycle.lpProgressedThisCycle with
      | true => simp [stalled, progressed] at some_
      | false =>
        simp only [stalled, progressed, Bool.false_eq_true, if_false] at some_
        rcases accounted.counted some_ with ⟨-, isProgress⟩ | waited
        · cases progressed.symm.trans isProgress
        · exact waited
  · intro first
    cases ended.symm.trans first
  · intro first
    cases ended.symm.trans first
  · intro first
    cases ended.symm.trans first
  · intro sleeping
    cases ended.symm.trans sleeping

theorem Accounted.beginWait (accounted : Accounted wait now wakeAt watch sensor)
    (at_ : sensor.pc = .beginWait) {otaRetryWait : Bool} {until_ : Nat}
    (waits : otaRetryWait = false → now + wait ≤ until_) :
    Accounted wait now until_ watch { sensor with pc := .sleeping otaRetryWait } := by
  have place : phase sensor.pc = .ended := by rw [at_]; rfl
  refine ⟨accounted.past, accounted.seen, ?_, by rintro ⟨⟩, by rintro ⟨⟩, by rintro ⟨⟩, ?_⟩
  · intro some_
    rcases accounted.counted some_ with ⟨elsewhere, -⟩ | waited
    · rcases elsewhere with at_ | at_ <;> cases place.symm.trans at_
    · exact .inr waited
  · intro sleeping
    have noRetry : otaRetryWait = false := by
      cases otaRetryWait with
      | false => rfl
      | true => cases sleeping
    exact (Nat.add_le_add_right accounted.seen wait).trans (waits noRetry)

theorem Accounted.wake (accounted : Accounted wait now wakeAt watch sensor)
    {otaRetryWait lpWoke : Bool} (at_ : sensor.pc = .sleeping otaRetryWait)
    (ranOut : lpWoke = true ∨ now = wakeAt) :
    Accounted wait now wakeAt watch (sensor.wake otaRetryWait lpWoke) := by
  have place : phase sensor.pc = .asleep otaRetryWait := by rw [at_]; rfl
  refine ⟨accounted.past, accounted.seen, ?_, fun _ => ⟨rfl, ?_⟩, by rintro ⟨⟩, by rintro ⟨⟩,
    by rintro ⟨⟩⟩
  · intro some_
    rcases accounted.counted some_ with ⟨elsewhere, -⟩ | waited
    · rcases elsewhere with at_ | at_ <;> cases place.symm.trans at_
    · exact .inr waited
  · intro reason
    cases lpWoke with
    | true => cases reason
    | false =>
      cases otaRetryWait with
      | true => cases reason
      | false =>
        have ended : now = wakeAt := ranOut.resolve_left Bool.false_ne_true
        rw [ended]
        exact accounted.asleep place

/-! ## Both cores -/

open HpSystem

theorem accounted_sensor {system after : HpSystem} {event : SensorEvent}
    (accounted : Accounted wait now wakeAt watch system.sensor)
    (move : SensorMove env system event after)
    (noRead : ∀ state, event ≠ .readState state) (noWait : event ≠ .beginWait)
    (noWake : ∀ lpWoke, event ≠ .wake lpWoke) :
    Accounted wait now wakeAt watch after.sensor := by
  have noted : ∀ {ok : Bool} {resume : AfterNote},
      phase (system.noteCycleResult ok resume).sensor.pc = .turn := by
    intro ok resume
    rcases system.noteCycleResult_pc ok resume with place | ⟨dbm, place⟩
    · rw [place]
      cases resume <;> rfl
    · rw [place]
      rfl
  cases move with
  | readState state at_ => exact (noRead state rfl).elim
  | beginWait at_ => exact (noWait rfl).elim
  | wake lpWoke at_ => exact (noWake lpWoke rfl).elim
  | branch at_ => exact accounted.branch at_ _ _ _
  | supervise stateRead at_ =>
    have ended : phase (system.supervise stateRead).sensor.pc = .ended := by
      rcases system.supervise_pc stateRead with place | place <;> rw [place] <;> rfl
    exact accounted.supervise at_ _ stateRead ended
  | attached at_ =>
    refine accounted.kept ⟨rfl, rfl, rfl, rfl, rfl⟩ (.inl ?_)
    rw [at_]
    simp only [attachReady]
    split <;> rfl
  | attachFailed at_ =>
    exact accounted.kept ⟨rfl, rfl, rfl, rfl, rfl⟩ (.inr ⟨by rw [at_]; rfl, noted⟩)
  | firstAttachCall accepted at_ =>
    exact accounted.kept ⟨rfl, rfl, rfl, rfl, rfl⟩ (.inl (by rw [at_]; rfl))
  | @revertCall dbm resume accepted at_ =>
    refine accounted.kept ⟨rfl, rfl, rfl, rfl, rfl⟩ (.inl ?_)
    rw [at_]
    cases resume <;> rfl
  | note at_ => exact accounted.kept ⟨rfl, rfl, rfl, rfl, rfl⟩ (.inl (by rw [noted, at_]; rfl))
  | timeoutNoted at_ inactive =>
    exact accounted.kept ⟨rfl, rfl, rfl, rfl, rfl⟩ (.inl (by rw [noted, at_]; rfl))
  | deliver nowUs stateRead marked at_ =>
    have place : phase system.sensor.pc = .turn := by rw [at_]; rfl
    obtain ⟨log, checked, pending, same⟩ := system.deliver_eq nowUs stateRead marked
    rw [same]
    exact accounted.kept ⟨rfl, rfl, rfl, rfl, rfl⟩ (.inl place.symm)
  | isBusy at_ =>
    refine accounted.kept ⟨rfl, rfl, rfl, rfl, rfl⟩ (.inl ?_)
    rw [at_]
    simp only [atSensorPc, withSensor]
    split <;> rfl
  | measure outcome at_ =>
    exact accounted.kept ⟨rfl, rfl, rfl, rfl, rfl⟩ (.inl (by rw [at_]; rfl))
  | sendRefused created at_ busy =>
    exact accounted.kept ⟨rfl, rfl, rfl, rfl, rfl⟩ (.inl (by rw [at_]; rfl))
  | sendFailed at_ free | sendStarted at_ free =>
    exact accounted.kept ⟨rfl, rfl, rfl, rfl, rfl⟩ (.inl (by rw [at_]; rfl))
  | waitDone at_ idle =>
    exact accounted.kept ⟨rfl, rfl, rfl, rfl, rfl⟩ (.inl (by rw [at_]; rfl))
  | waitTimeout at_ | readOutcome at_ =>
    exact accounted.kept ⟨rfl, rfl, rfl, rfl, rfl⟩ (.inl (by rw [at_]; rfl))
  | timeoutInSession at_ active =>
    exact accounted.kept ⟨rfl, rfl, rfl, rfl, rfl⟩ (.inl (by rw [at_]; rfl))

theorem accounted_hp {system after : HpSystem} {action : HpAction}
    (accounted : Accounted wait now wakeAt watch system.sensor)
    (taken : HpSystem.step env system action = some after)
    (untimed : timedHp action = false) (noWait : action ≠ .sensor .beginWait)
    (noWake : ∀ lpWoke, action ≠ .sensor (.wake lpWoke)) :
    Accounted wait now wakeAt watch after.sensor := by
  cases step_move taken with
  | @sensor event _ move =>
    refine accounted_sensor accounted move ?_ (fun same => noWait (by rw [same]))
      fun lpWoke same => noWake lpWoke (by rw [same])
    rintro state rfl
    cases untimed
  | pub running leaves move => rw [pub_sensor move]; exact accounted
  | tail => exact accounted
  | client move => rw [client_sensor move]; exact accounted
  | @ota pub event accepted ota running at_ inCycle stepped =>
    obtain ⟨radio, same⟩ := system.otaRadio_eq event accepted
    rw [same]
    exact accounted
  | reset pendingVerify => cases untimed

structure Inv (pollSec maxSkip samples : Nat) (cores : TimedCores) : Prop where
  lp : LpOnTime pollSec samples cores
  hp : Accounted (waitUs false pollSec maxSkip) cores.now cores.wakeAt cores.watch
    cores.hp.sensor

theorem LpOnTime.frame (onTime : LpOnTime pollSec samples cores) {after : TimedCores}
    (core : after.core.lp = cores.core.lp) (now : after.now = cores.now)
    (lpAt : after.lpAt = cores.lpAt) (watch : after.watch = cores.watch) :
    LpOnTime pollSec samples after := by
  obtain ⟨polled, due, within, resting, running, seen, unseen⟩ := onTime
  constructor <;> simp only [core, now, lpAt, watch] <;> assumption

theorem inv_readState (wide : heartbeatGapUs pollSec samples < 2 * waitUs false pollSec maxSkip)
    (inv : Inv pollSec maxSkip samples cores) (truthful : SeesPolls cores .readState)
    {hp : HpSystem}
    (taken : HpSystem.step env cores.hp
      (.sensor (.readState (snapshotOf (getState cores.core.lock.memory)))) = some hp) :
    Inv pollSec maxSkip samples
      { cores with hp := hp, watch := StallWatch.read cores.watch cores.now } := by
  refine ⟨inv.lp.read hp, ?_⟩
  have truthful : Cadence.heartbeatDelta (getState cores.core.lock.memory (.u .heartbeatCounter))
        cores.hp.sensor.lastSeenHeartbeat = 0 → cores.watch.polls = cores.watch.seenPolls :=
    truthful
  generalize found : Cadence.heartbeatDelta
    (getState cores.core.lock.memory (.u .heartbeatCounter))
    cores.hp.sensor.lastSeenHeartbeat = delta at truthful
  have next : cores.now ≤ cores.watch.polledAt + heartbeatGapUs pollSec samples :=
    inv.lp.due.trans inv.lp.within
  cases step_move taken with
  | sensor move =>
    cases move with
    | readState state at_ =>
      exact inv.hp.taken at_ found inv.lp.polled next wide fun none =>
        inv.lp.unseen (truthful none)

theorem inv_step [FloatOps]
    (wide : heartbeatGapUs pollSec samples < 2 * waitUs false pollSec maxSkip)
    (cores : TimedCores) (action : TimedAction) (after : TimedCores)
    (inv : Inv pollSec maxSkip samples cores)
    (met : SamplesWithin samples cores action ∧ SeesPolls cores action)
    (taken : step env pollSec maxSkip cores action = some after) :
    Inv pollSec maxSkip samples after := by
  unfold step at taken
  split at taken
  case h_1 us =>
    simp only [Option.ite_none_right_eq_some] at taken
    cases taken.2
    exact ⟨inv.lp.pass taken.1.1, inv.hp.later (Nat.le_add_right _ us)⟩
  case h_2 =>
    simp only [Option.ite_none_right_eq_some] at taken
    cases taken.2
    exact ⟨inv.lp.timer (Option.isNone_iff_eq_none.mp taken.1.2), inv.hp⟩
  case h_3 answer =>
    simp only [Option.ite_none_right_eq_some] at taken
    obtain ⟨core, stepped, rfl⟩ := Option.map_eq_some_iff.mp taken.2
    exact ⟨lpOnTime_lpStep inv.lp taken.1 met.1 stepped, inv.hp.polled cores.core cores.now⟩
  case h_4 field value =>
    simp only [Option.ite_none_right_eq_some] at taken
    cases taken.2
    exact ⟨inv.lp.frame rfl rfl rfl rfl, inv.hp⟩
  case h_5 =>
    obtain ⟨hp, stepped, rfl⟩ := Option.map_eq_some_iff.mp taken
    exact inv_readState wide inv met.2 stepped
  case h_6 =>
    obtain ⟨hp, stepped, rfl⟩ := Option.map_eq_some_iff.mp taken
    refine ⟨inv.lp.frame rfl rfl rfl rfl, ?_⟩
    cases step_move stepped with
    | sensor move =>
      cases move with
      | beginWait at_ =>
        refine inv.hp.beginWait at_ fun noRetry => ?_
        rw [noRetry]
  case h_7 lpWoke =>
    simp only [Option.ite_none_right_eq_some] at taken
    obtain ⟨hp, stepped, rfl⟩ := Option.map_eq_some_iff.mp taken.2
    refine ⟨inv.lp.frame rfl rfl rfl rfl, ?_⟩
    cases step_move stepped with
    | sensor move =>
      cases move with
      | wake lpWoke at_ => exact inv.hp.wake at_ taken.1
  case h_8 action noWait noWake =>
    simp only [Option.ite_none_left_eq_some, Bool.not_eq_true] at taken
    obtain ⟨hp, stepped, rfl⟩ := Option.map_eq_some_iff.mp taken.2
    exact ⟨inv.lp.frame rfl rfl rfl rfl, accounted_hp inv.hp stepped taken.1 noWait noWake⟩
  case h_9 pendingVerify config =>
    cases taken
    exact ⟨lpOnTime_start _ config cores.now, accounted_start cores.now cores.now⟩

theorem noStallReboot_of_inv (cores : TimedCores) (action : TimedAction)
    (inv : Inv pollSec maxSkip samples cores) : NoStallReboot cores action := by
  unfold NoStallReboot
  split
  · intro at_ stalled
    have place : phase cores.hp.sensor.pc = .turn := by rw [at_]; rfl
    rw [(inv.hp.turn place stalled).1]
    decide
  · trivial

/-- With two safeguard waits longer than the longest time between two polls, and
reads that do not mistake one heartbeat for another, the supervisor never reboots
for a stall of a core that keeps its time. -/
theorem never_reboots [FloatOps] (env : HpEnv) (nvs : Nvs) (cyclesStarted : Nat)
    (pendingVerify : Bool) (config : Shared) (pollSec maxSkip samples now : Nat)
    (actions : List TimedAction)
    (wide : heartbeatGapUs pollSec samples < 2 * waitUs false pollSec maxSkip)
    (met : Runs.Along (step env pollSec maxSkip)
      (fun cores action => SamplesWithin samples cores action ∧ SeesPolls cores action)
      (start (HpSystem.boot env nvs cyclesStarted pendingVerify) config pollSec now) actions) :
    Runs.Along (step env pollSec maxSkip) NoStallReboot
      (start (HpSystem.boot env nvs cyclesStarted pendingVerify) config pollSec now) actions :=
  Runs.along_of_invariant (Inv pollSec maxSkip samples) (inv_step wide)
    (fun cores action inv _ => noStallReboot_of_inv cores action inv)
    ⟨lpOnTime_start _ config now, accounted_start now now⟩ met

/-! ## Runs -/

/-- One sample per poll, and a heater run every `cycles` polls. -/
def heaterEvery (cycles : Nat) : Shared
  | .u .sensorSamples => (1 : Nat)
  | .u .heaterPeriodCycles => cycles
  | .f .tempMinChangeC => Flt.fin (1 / 10)
  | .f .rhMinChangePct => Flt.fin 1
  | .u _ => (0 : Nat)
  | .f _ => Flt.fin 0

/-- Operations of the LP program, with a sensor whose high temperature byte is `high`. -/
def lpOps (operations : Nat) (high : UInt8) : List TimedAction :=
  List.replicate operations
    (.lpStep ⟨true, some ⟨high, 0, crc8 [high, 0], 0, 0, crc8 [0, 0]⟩⟩)

/-- A poll without a heater run, `us` from now. -/
def pollAfter (us : Nat) : List TimedAction :=
  [.pass us, .lpTimer] ++ lpOps 8 0 ++ [.pass 10000] ++ lpOps 28 0

/-- A poll up to the first cooldown delay of its heater run. -/
def heatAfter (us : Nat) : List TimedAction :=
  [.pass us, .lpTimer] ++ lpOps 8 0 ++ [.pass 10000] ++ lpOps 20 0 ++ [.pass 10000] ++ lpOps 3 0 ++
    [.pass 110000] ++ lpOps 2 0x20

/-- A cooldown poll that reads `high`, `us` after the last action. -/
def cooldownAfter (us : Nat) (high : UInt8) : List TimedAction :=
  .pass us :: lpOps 2 high ++ [.pass 10000] ++ lpOps 2 high

def sensorEvents (events : List SensorEvent) : List TimedAction :=
  events.map fun event => .hp (.sensor event)

def firstTurn : List TimedAction :=
  sensorEvents [.attachGate true, .setTxDone true] ++ [.readState] ++
    sensorEvents [.branch, .supervise true, .beginWait]

/-- A turn whose publish task cannot be created. -/
def flaggedTurn (lpWoke : Bool) : List TimedAction :=
  sensorEvents [.wake lpWoke, .attachGate true] ++ [.readState] ++
    sensorEvents [.branch, .send false, .isBusy, .supervise true, .beginWait]

def stallTurn : List TimedAction :=
  sensorEvents [.wake false, .attachGate true] ++ [.readState] ++ sensorEvents [.branch]

/-- A whole heater run, with its reading published at its end. -/
def heaterRunPublished : List TimedAction :=
  firstTurn ++ pollAfter 20000000 ++ flaggedTurn true ++ pollAfter 20000000 ++ flaggedTurn true ++
    heatAfter 20000000 ++ (List.replicate 5 (cooldownAfter 2000000 0x20)).flatten ++
    cooldownAfter 2000000 0 ++ [.pass 90000000] ++ lpOps 2 0 ++ [.pass 10000] ++ lpOps 27 0 ++
    flaggedTurn true

/-- A poll interval of 20 s and a publish gap of 180 s. -/
theorem never_reboots_published :
    (Runs.run (@step exactFloat benchEnv 20 8)
        (start (HpSystem.boot benchEnv Nvs.erased 0 false) (heaterEvery 3) 20 0)
        heaterRunPublished).isSome = true ∧
      Runs.Along (@step exactFloat benchEnv 20 8) NoStallReboot
        (start (HpSystem.boot benchEnv Nvs.erased 0 false) (heaterEvery 3) 20 0)
        heaterRunPublished :=
  ⟨by decide +kernel, @never_reboots exactFloat benchEnv Nvs.erased 0 false (heaterEvery 3) 20 8 1 0
    heaterRunPublished (by decide +kernel) (by decide +kernel)⟩

/-- A poll interval of 20 s, no skip budget, and a sensor that takes 72 s to cool
down: two safeguard waits of 60 s run out during the heater run of the third poll. -/
def twoWaitsInHeaterRun : List TimedAction :=
  firstTurn ++ pollAfter 20000000 ++ flaggedTurn true ++ pollAfter 20000000 ++ flaggedTurn true ++
    heatAfter 20000000 ++ (List.replicate 19 (cooldownAfter 2000000 0x20)).flatten ++
    [.pass 1680000] ++ flaggedTurn false ++ cooldownAfter 320000 0x20 ++
    (List.replicate 15 (cooldownAfter 2000000 0x20)).flatten ++ cooldownAfter 2000000 0 ++
    [.pass 27510000] ++ stallTurn ++ sensorEvents [.supervise true, .beginWait] ++
    [.pass 60000000] ++ stallTurn

theorem heater_run_reboots :
    ∃ final,
      Runs.run (@step exactFloat benchEnv 20 0)
          (start (HpSystem.boot benchEnv Nvs.erased 0 false) (heaterEvery 3) 20 0)
          twoWaitsInHeaterRun = some final ∧
        (final.core.lock.memory (.u .heaterActive) : Nat) = 1 ∧
        ¬ NoStallReboot final (.hp (.sensor (.supervise true))) := by
  obtain ⟨final, ran, reached⟩ := Runs.exists_final
    (fun final : TimedCores =>
      decide ((final.core.lock.memory (.u .heaterActive) : Nat) = 1 ∧
        ¬ NoStallReboot final (.hp (.sensor (.supervise true)))))
    (show (Runs.run (@step exactFloat benchEnv 20 0)
      (start (HpSystem.boot benchEnv Nvs.erased 0 false) (heaterEvery 3) 20 0)
      twoWaitsInHeaterRun).any _ = true by decide +kernel)
  exact ⟨final, ran, of_decide_eq_true reached⟩

end TimedCores

end SleepySensor
