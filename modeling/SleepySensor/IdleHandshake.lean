import SleepySensor.Lib.History

/-!
# The idle handshake of the publish tasks

`mqtt_send_sensor_data`, `mqtt_publish_task` and `mqtt_wait_for_idle` in
`mqtt_sender.cpp`, one shared access at a time.  A publish task clears
`s_task_running` before it sets `BIT_IDLE`: the sensor task can start the next
cycle in between, and the bit of the old one ends its wait.
-/

set_option autoImplicit false

namespace SleepySensor.IdleHandshake

/-- Where a `mqtt_pub` task stands, with the result of its publish cycle. -/
inductive PubTask where
  | publishing
  | returned (ok : Bool)
  | stored (ok : Bool)
  | stopped (ok : Bool)
  | ended (ok : Bool)
  deriving DecidableEq, Repr

def PubTask.running : PubTask → Bool
  | .publishing | .returned _ | .stored _ => true
  | .stopped _ | .ended _ => false

/-- What the sensor task has done of a call of `mqtt_send_sensor_data`. -/
inductive SendCall where
  | rest
  | exchanged
  | marked
  | failed
  | stopped
  deriving DecidableEq, Repr

structure Sender where
  taskRunning : Bool := false
  lastOk : Bool := false
  /-- `s_idle_eg` was created. -/
  idleEg : Bool
  bitIdle : Bool
  call : SendCall := .rest
  tasks : List PubTask := []
  deriving DecidableEq, Repr

/-- After `mqtt_sender_init`. -/
def boot (created : Bool) : Sender := { idleEg := created, bitIdle := created }

def setIdle (sender : Sender) : Sender :=
  { sender with bitIdle := sender.bitIdle || sender.idleEg }

def mqttLastPublishSucceeded (sender : Sender) : Bool := sender.lastOk

/-- What `mqtt_wait_for_idle` returns when it returns now. -/
def mqttWaitForIdle (sender : Sender) : Bool := !sender.idleEg || sender.bitIdle

/-- The next step of the call; `created` is whether `xTaskCreate` succeeds. -/
def sendStep (created : Bool) (sender : Sender) : Option Sender :=
  match sender.call with
  | .rest => none
  | .exchanged => some { sender with bitIdle := false, call := .marked }
  | .marked =>
    if created then some { sender with call := .rest, tasks := sender.tasks ++ [.publishing] }
    else some { sender with call := .failed }
  | .failed => some { sender with taskRunning := false, call := .stopped }
  | .stopped => some { setIdle sender with call := .rest }

/-- The next step of a task; `ok` is what `run_publish_cycle` returns. -/
def pubStep (index : Nat) (ok : Bool) (sender : Sender) : Option Sender :=
  match sender.tasks[index]? with
  | none | some (.ended _) => none
  | some .publishing => some { sender with tasks := sender.tasks.set index (.returned ok) }
  | some (.returned result) =>
    some { sender with lastOk := result, tasks := sender.tasks.set index (.stored result) }
  | some (.stored result) =>
    some { sender with taskRunning := false, tasks := sender.tasks.set index (.stopped result) }
  | some (.stopped result) =>
    some { setIdle sender with tasks := sender.tasks.set index (.ended result) }

inductive Action where
  | send
  | sendStep (created : Bool)
  | waitForIdle
  | pub (index : Nat) (ok : Bool)
  deriving DecidableEq, Repr

def access (sender : Sender) : Action → Option Sender
  | .send =>
    if sender.call = .rest then
      if sender.taskRunning then some sender
      else some { sender with taskRunning := true, call := .exchanged }
    else none
  | .sendStep created => sendStep created sender
  | .waitForIdle => if sender.call = .rest then some sender else none
  | .pub index ok => pubStep index ok sender

/-- Since the last call of `mqtt_send_sensor_data`: the task it started, and whether
a wait returned true. -/
structure SensorCycle where
  started : Option Nat := none
  idle : Bool := false
  deriving DecidableEq, Repr

def record (sender : Sender) (action : Action) (cycle : SensorCycle) : SensorCycle :=
  match action with
  | .send => {}
  | .sendStep created =>
    if sender.call = .marked ∧ created = true then
      { cycle with started := some sender.tasks.length } else cycle
  | .waitForIdle => { cycle with idle := cycle.idle || mqttWaitForIdle sender }
  | .pub _ _ => cycle

abbrev Observed := Sender × SensorCycle

def step : Observed → Action → Option Observed := Runs.observe access record

/-- The cycle is over, with the outcome that `mqtt_last_publish_succeeded` gives. -/
def Finished (sender : Sender) (index : Nat) : Prop :=
  sender.tasks[index]? = some (.stopped (mqttLastPublishSucceeded sender)) ∨
    sender.tasks[index]? = some (.ended (mqttLastPublishSucceeded sender))

/-- A wait that returned true was for the end of the cycle started. -/
def Confirmed (state : Observed) : Prop :=
  ∀ index, state.2.started = some index → state.2.idle = true → Finished state.1 index

/-- A task sets `BIT_IDLE` after a later call cleared it for a cycle that still runs. -/
def LateBit (sender : Sender) (action : Action) : Prop :=
  ∃ index ok result, action = .pub index ok ∧ sender.tasks[index]? = some (.stopped result) ∧
    (sender.call = .marked ∨ ∃ task ∈ sender.tasks, task.running = true)

instance (sender : Sender) (action : Action) : Decidable (LateBit sender action) :=
  match action with
  | .send | .sendStep _ | .waitForIdle => isFalse (by rintro ⟨_, _, _, ⟨⟩, _⟩)
  | .pub index ok =>
    decidable_of_iff ((∃ result ∈ [false, true],
        sender.tasks[index]? = some (.stopped result)) ∧
      (sender.call = .marked ∨ ∃ task ∈ sender.tasks, task.running = true))
      ⟨fun ⟨⟨result, _, at_⟩, busy⟩ => ⟨index, ok, result, rfl, at_, busy⟩,
        fun ⟨_, _, result, same, at_, busy⟩ => by
          cases same
          exact ⟨⟨result, by cases result <;> simp, at_⟩, busy⟩⟩

/-- The event group exists and the step sets no late bit. -/
def Kept (state : Observed) (action : Action) : Prop :=
  state.1.idleEg = true ∧ ¬ LateBit state.1 action

instance (state : Observed) (action : Action) : Decidable (Kept state action) :=
  inferInstanceAs (Decidable (state.1.idleEg = true ∧ ¬ LateBit state.1 action))

/-! ## The invariant -/

def PubTask.outcome : PubTask → Option Bool
  | .publishing | .returned _ => none
  | .stored ok | .stopped ok | .ended ok => some ok

/-- Only the task started last runs, and none while a call is in progress. -/
structure Calls (sender : Sender) : Prop where
  calling : sender.call = .exchanged ∨ sender.call = .marked ∨ sender.call = .failed →
    sender.taskRunning = true
  running : ∀ (index : Nat) (task : PubTask), sender.tasks[index]? = some task →
    task.running = true →
      sender.taskRunning = true ∧ sender.call = .rest ∧ index + 1 = sender.tasks.length
  marked : sender.call = .marked → sender.bitIdle = false

/-- `BIT_IDLE` is set for the task only after it stored its outcome. -/
structure Current (sender : Sender) (idle : Bool) (index : Nat) : Prop where
  rest : sender.call = .rest
  last : index + 1 = sender.tasks.length
  outcome : ∀ (task : PubTask) (ok : Bool), sender.tasks[index]? = some task →
    task.outcome = some ok → sender.lastOk = ok
  bit : sender.bitIdle = true → ∀ task : PubTask, sender.tasks[index]? = some task →
    task.running = false
  waited : idle = true → sender.bitIdle = true

structure Inv (sender : Sender) (cycle : SensorCycle) : Prop where
  calls : Calls sender
  fresh : sender.call ≠ .rest → cycle = {}
  current : ∀ index, cycle.started = some index → Current sender cycle.idle index

variable {sender next : Sender} {cycle : SensorCycle}

theorem inv_boot (created : Bool) : Inv (boot created) {} where
  calls :=
    { calling := by rintro (calls | calls | calls) <;> cases calls
      running := fun index task at_ => by simp [boot] at at_
      marked := fun calls => by cases calls }
  fresh := fun _ => rfl
  current := fun index none_ => by cases none_

theorem inv_send (inv : Inv sender cycle) (sent : access sender .send = some next) :
    Inv next {} := by
  obtain ⟨calls, -, -⟩ := inv
  obtain ⟨rest, sent⟩ := Option.ite_none_right_eq_some.mp sent
  refine ⟨?_, fun _ => rfl, fun index none_ => by cases none_⟩
  split at sent
  · cases sent
    exact calls
  · rename_i free
    cases sent
    refine ⟨fun _ => rfl, fun index task at_ runs => ?_, fun calling => by cases calling⟩
    exact absurd (calls.running index task at_ runs).1 free

theorem inv_created (inv : Inv sender cycle) (call : sender.call = .marked) :
    Inv { sender with call := .rest, tasks := sender.tasks ++ [.publishing] }
      { cycle with started := some sender.tasks.length } := by
  obtain ⟨⟨calling, running, marked⟩, fresh, -⟩ := inv
  have stopped : ∀ (index : Nat) (task : PubTask), sender.tasks[index]? = some task →
      task.running = false := by
    intro index task at_
    cases runs : task.running with
    | false => rfl
    | true => exact absurd (running index task at_ runs).2.1 (by simp [call])
  have busy := calling (.inr (.inl call))
  have cleared := marked call
  have waiting : cycle = {} := fresh (by simp [call])
  subst waiting
  refine ⟨⟨?_, ?_, ?_⟩, ?_, ?_⟩
  · rintro (calls | calls | calls) <;> cases calls
  · grind
  · exact fun calls => by cases calls
  · exact fun calls => absurd rfl calls
  · rintro index ⟨⟩
    refine ⟨rfl, ?_, ?_, ?_, fun idle => by cases idle⟩
    · rw [List.length_append, List.length_singleton]
    · intro task ok at_ stored
      have created : task = .publishing := by simpa using at_.symm
      rw [created] at stored
      cases stored
    · exact fun set => absurd set (by simp [cleared])

theorem inv_calling (inv : Inv sender cycle) (call : sender.call ≠ .rest)
    (tasks : next.tasks = sender.tasks)
    (calling : next.call = .exchanged ∨ next.call = .marked ∨ next.call = .failed →
      next.taskRunning = true)
    (marked : next.call = .marked → next.bitIdle = false) : Inv next cycle := by
  obtain ⟨⟨-, running, -⟩, fresh, -⟩ := inv
  refine ⟨⟨calling, ?_, marked⟩, fun _ => fresh call, ?_⟩
  · intro index task at_ runs
    rw [tasks] at at_
    exact absurd (running index task at_ runs).2.1 call
  · intro index started
    rw [fresh call] at started
    cases started

theorem inv_sendStep (inv : Inv sender cycle) {created : Bool}
    (taken : sendStep created sender = some next) :
    Inv next (record sender (.sendStep created) cycle) := by
  have calling := inv.calls.calling
  unfold sendStep at taken
  cases call : sender.call with
  | rest => simp [call] at taken
  | exchanged =>
    simp only [call, Option.some.injEq] at taken
    subst taken
    simp only [record, call, reduceCtorEq, false_and, if_false]
    exact inv_calling inv (by simp [call]) rfl (fun _ => calling (.inl call)) fun _ => rfl
  | marked =>
    simp only [call] at taken
    split at taken
    · rename_i success
      cases taken
      simp only [record, call, success, and_self, if_true]
      exact inv_created inv call
    · rename_i failure
      cases taken
      simp only [record, call, failure]
      exact inv_calling inv (by simp [call]) rfl (fun _ => calling (.inr (.inl call)))
        fun calls => by cases calls
  | failed =>
    simp only [call, Option.some.injEq] at taken
    subst taken
    simp only [record, call, reduceCtorEq, false_and, if_false]
    exact inv_calling inv (by simp [call]) rfl
      (by rintro (calls | calls | calls) <;> cases calls) fun calls => by cases calls
  | stopped =>
    simp only [call, Option.some.injEq] at taken
    subst taken
    simp only [record, call, reduceCtorEq, false_and, if_false]
    exact inv_calling inv (by simp [call]) rfl
      (by rintro (calls | calls | calls) <;> cases calls) fun calls => by cases calls

/-- A task that is about to set its bit does so with no other cycle to end. -/
theorem not_late {index : Nat} {ok result : Bool} (early : ¬ LateBit sender (.pub index ok))
    (at_ : sender.tasks[index]? = some (.stopped result)) :
    sender.call ≠ .marked ∧ ∀ task ∈ sender.tasks, task.running = false := by
  constructor
  · exact fun call => early ⟨index, ok, result, rfl, at_, .inl call⟩
  · intro task member
    cases runs : task.running with
    | false => rfl
    | true => exact absurd ⟨index, ok, result, rfl, at_, .inr ⟨task, member, runs⟩⟩ early

theorem inv_pub (inv : Inv sender cycle) {index : Nat} {ok : Bool}
    (early : ¬ LateBit sender (.pub index ok))
    (taken : pubStep index ok sender = some next) : Inv next cycle := by
  obtain ⟨⟨calling, running, marked⟩, fresh, current⟩ := inv
  unfold pubStep at taken
  split at taken
  · cases taken
  · cases taken
  · rename_i at_
    cases taken
    refine ⟨?_, fresh, ?_⟩
    · constructor <;> grind [PubTask.running]
    · intro other started
      obtain ⟨rest, last, outcome, bit, waited⟩ := current other started
      constructor <;> grind [PubTask.running, PubTask.outcome]
  · rename_i result at_
    cases taken
    refine ⟨?_, fresh, ?_⟩
    · constructor <;> grind [PubTask.running]
    · intro other started
      obtain ⟨rest, last, outcome, bit, waited⟩ := current other started
      constructor <;> grind [PubTask.running, PubTask.outcome]
  · rename_i result at_
    cases taken
    refine ⟨?_, fresh, ?_⟩
    · constructor <;> grind [PubTask.running]
    · intro other started
      obtain ⟨rest, last, outcome, bit, waited⟩ := current other started
      constructor <;> grind [PubTask.running, PubTask.outcome]
  · rename_i result at_
    cases taken
    obtain ⟨unmarked, stopped⟩ := not_late early at_
    refine ⟨?_, fresh, ?_⟩
    · constructor <;> grind [PubTask.running, setIdle]
    · intro other started
      obtain ⟨rest, last, outcome, bit, waited⟩ := current other started
      constructor <;> grind [PubTask.running, PubTask.outcome, setIdle]

theorem inv_wait (inv : Inv sender cycle) (group : sender.idleEg = true)
    (rest : sender.call = .rest) : Inv sender (record sender .waitForIdle cycle) := by
  obtain ⟨calls, -, current⟩ := inv
  refine ⟨calls, fun call => absurd rest call, fun index started => ?_⟩
  obtain ⟨rest, last, outcome, bit, waited⟩ := current index started
  refine ⟨rest, last, outcome, bit, fun idle => ?_⟩
  simp only [record, mqttWaitForIdle, group, Bool.not_true, Bool.false_or, Bool.or_eq_true] at idle
  rcases idle with before | now
  · exact waited before
  · exact now

theorem inv_step (state : Observed) (action : Action) (next : Observed)
    (inv : Inv state.1 state.2) (kept : Kept state action) (taken : step state action = some next) :
    Inv next.1 next.2 := by
  obtain ⟨accessed, recorded⟩ := Runs.observe_step taken
  obtain ⟨group, early⟩ := kept
  rw [recorded]
  cases action with
  | send => exact inv_send inv accessed
  | sendStep created => exact inv_sendStep inv accessed
  | waitForIdle =>
    obtain ⟨rest, same⟩ := Option.ite_none_right_eq_some.mp accessed
    rw [← Option.some.inj same]
    exact inv_wait inv group rest
  | pub index ok => exact inv_pub inv early accessed

theorem confirmed_of_inv (inv : Inv sender cycle) : Confirmed (sender, cycle) := by
  intro index started idle
  obtain ⟨rest, last, outcome, bit, waited⟩ := inv.current index started
  have inside : index < sender.tasks.length := by omega
  have at_ := List.getElem?_eq_getElem inside
  have stopped := bit (waited idle) _ at_
  have stored : ∀ ok, sender.tasks[index].outcome = some ok → sender.lastOk = ok :=
    fun ok => outcome _ ok at_
  unfold Finished mqttLastPublishSucceeded
  rw [at_]
  cases task : sender.tasks[index] with
  | stopped ok =>
    rw [← stored ok (by rw [task]; rfl)]
    exact .inl rfl
  | ended ok =>
    rw [← stored ok (by rw [task]; rfl)]
    exact .inr rfl
  | _ =>
    rw [task] at stopped
    cases stopped

/-- With the event group created, and no task setting `BIT_IDLE` after a later call
cleared it for a cycle that still runs, a wait that returns true is for the end of
the cycle started. -/
theorem wait_confirms {actions : List Action} {final : Observed} {created : Bool}
    (kept : Runs.Along step Kept (boot created, {}) actions)
    (ran : Runs.run step (boot created, {}) actions = some final) : Confirmed final :=
  confirmed_of_inv (Runs.along_invariant (fun state => Inv state.1 state.2) inv_step
    (inv_boot created) kept ran)

def started : List Action := [.send, .sendStep true, .sendStep true]

def waitedOut : List Action :=
  started ++ (List.replicate 4 (.pub 0 true) ++ [.waitForIdle])

theorem wait_confirms_once :
    ∃ final, Runs.run step (boot true, {}) waitedOut = some final ∧
      final.2 = { started := some 0, idle := true } ∧ Confirmed final := by
  obtain ⟨final, ran, waited⟩ := Runs.exists_final
    (fun final : Observed => decide (final.2 = { started := some 0, idle := true }))
    (show (Runs.run step (boot true, {}) waitedOut).any _ = true by decide +kernel)
  refine ⟨final, ran, of_decide_eq_true waited, ?_⟩
  exact wait_confirms
    (show Runs.Along step Kept (boot true, {}) waitedOut by decide +kernel) ran

/-- The first task is preempted before it sets `BIT_IDLE`, and sets it in the cycle of
the second. -/
def preempted : List Action :=
  started ++ (List.replicate 3 (.pub 0 true) ++ (started ++ [.pub 0 true, .waitForIdle]))

theorem lateBit_endsWait :
    ∃ final, Runs.run step (boot true, {}) preempted = some final ∧ ¬ Confirmed final := by
  obtain ⟨final, ran, misled⟩ := Runs.exists_final
    (fun final : Observed => decide (final.2 = { started := some 1, idle := true } ∧
      final.1.tasks[1]? = some PubTask.publishing))
    (show (Runs.run step (boot true, {}) preempted).any _ = true by decide +kernel)
  obtain ⟨cycle, publishing⟩ := of_decide_eq_true misled
  refine ⟨final, ran, fun confirmed => ?_⟩
  have finished := confirmed 1 (by rw [cycle]) (by rw [cycle])
  unfold Finished at finished
  simp [publishing] at finished

end SleepySensor.IdleHandshake
