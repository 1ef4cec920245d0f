import SleepySensor.HpSteps
import SleepySensor.Lib.Acks
import SleepySensor.Lib.History

/-!
# What a confirmed wait says about PUBACKs

The publish task arms two counters, sends the messages of a window and waits for
`BIT_ALL_ACKED`.  The client counts every PUBACK, also of messages that an
earlier cycle left in the outbox.
-/

set_option autoImplicit false

namespace SleepySensor.AckWindow

open HpSystem

/-- What a wait is for: the state message with the owed discovery configs, or one
backfill batch. -/
inductive Window where
  | state
  | backfill (batch : Nat)
  deriving DecidableEq, Repr

def Window.counts (cycle : Nat) : Window → Outgoing → Bool
  | .state, .discovery sender _ => sender == cycle
  | .state, .state message => message.cycle == cycle
  | .backfill batch, .backfill sender other _ => sender == cycle && other == batch
  | _, _ => false

def Window.main (cycle : Nat) : Window → Outgoing → Bool
  | .state, message => message.isStateOf cycle
  | .backfill batch, message => Window.counts cycle (.backfill batch) message

/-- The messages of this boot, sent and acknowledged. -/
structure History where
  sent : List Outgoing := []
  acked : List Outgoing := []
  deriving DecidableEq, Repr

abbrev Observed := HpSystem × History

def sends (system : HpSystem) : HpAction → List Outgoing
  | .pub event =>
    match system.mqtt.pub with
    | none => []
    | some pub =>
      match event, pub.pc with
      | .subscribe _, _ =>
        if system.mqtt.sessionPresent && system.mqtt.sessionSubscribed then [] else [.subscribe]
      | .discover, _ => pub.discoveryMessages
      | .publishState, _ => [.state (system.stateMessage pub)]
      | .publishBackfill, .publishBackfill batch entries => [.backfill pub.cycle batch entries]
      | .persist, .persisting snap => (RuntimeConfig.echoes snap).map .echo
      | _, _ => []
  | _ => []

def acks (system : HpSystem) : HpAction → List Outgoing
  | .client (.published index) => system.mqtt.outbox[index]?.toList
  | .client (.subAck _) => [.subscribe]
  | _ => []

def record (system : HpSystem) (action : HpAction) (history : History) : History :=
  match action with
  | .reset _ => {}
  | _ =>
    { sent := history.sent ++ sends system action
      acked := acks system action ++ history.acked }

def start (env : HpEnv) (nvs : Nvs) (cyclesStarted : Nat) (pendingVerify : Bool) : Observed :=
  (boot env nvs cyclesStarted pendingVerify, {})

def step (env : HpEnv) : Observed → HpAction → Option Observed :=
  Runs.observe (HpSystem.step env) record

/-- The window that the step takes for acknowledged, with its publish cycle: the
two waits that end with `BIT_ALL_ACKED`, and a cycle that returns true. -/
def confirms (system : HpSystem) : HpAction → Option (Nat × Window)
  | .pub event =>
    system.mqtt.pub.bind fun pub =>
      match event, pub.pc with
      | .ackWait, .ackWait =>
        if system.mqtt.allAckedBit then some (pub.cycle, .state) else none
      | .backfillWait, .backfillWait batch _ =>
        if system.mqtt.allAckedBit then some (pub.cycle, .backfill batch) else none
      | .storeOk, .storeOk => if pub.ok then some (pub.cycle, .state) else none
      | _, _ => none
  | _ => none

/-- The window's own message was acknowledged, and every message of the window as
often as it was sent. -/
def OwnAcked (history : History) (cycle : Nat) (window : Window) : Prop :=
  (∃ message ∈ history.acked, window.main cycle message = true) ∧
    ∀ message ∈ history.sent, window.counts cycle message = true →
      history.sent.count message = history.acked.count message

def ConfirmedAcked (state : Observed) (action : HpAction) : Prop :=
  ∀ confirmed ∈ confirms state.1 action, OwnAcked state.2 confirmed.1 confirmed.2

instance (state : Observed) (action : HpAction) : Decidable (ConfirmedAcked state action) := by
  unfold ConfirmedAcked OwnAcked
  infer_instance

def Arming.window : Arming → Window
  | .state => .state
  | .backfill batch _ => .backfill batch

/-- Which part of arming a window is over: the store of the expected count, the
reset of the received count, the clearing of `BIT_ALL_ACKED`. -/
inductive Armed where
  | expecting
  | counting
  | waiting
  deriving DecidableEq, Repr

def armed : PubPc → Option (Window × Armed)
  | .resetReceived arming => some (Arming.window arming, .expecting)
  | .clearAllAcked arming => some (Arming.window arming, .counting)
  | .discovering | .stating | .ackWait => some (.state, .waiting)
  | .publishBackfill batch _ | .backfillWait batch _ => some (.backfill batch, .waiting)
  | _ => none

/-- A PUBACK that a window counts is for one of its messages, and the client is
not about to set the bit that the publish task clears. -/
def OwnCounted (state : Observed) : HpAction → Prop
  | .client (.published index) =>
    ∀ pub ∈ state.1.mqtt.pub, ∀ place ∈ armed pub.pc, place.2 ≠ .expecting →
      ∀ message ∈ state.1.mqtt.outbox[index]?, place.1.counts pub.cycle message = true
  | .pub .clearAllAcked => state.1.mqtt.handler = .idle
  | _ => True

instance (state : Observed) (action : HpAction) : Decidable (OwnCounted state action) := by
  cases action with
  | client event =>
    cases event with
    | published index =>
      exact inferInstanceAs (Decidable (∀ pub ∈ state.1.mqtt.pub, ∀ place ∈ armed pub.pc,
        place.2 ≠ .expecting → ∀ message ∈ state.1.mqtt.outbox[index]?,
          place.1.counts pub.cycle message = true))
    | _ => exact instDecidableTrue
  | pub event =>
    cases event with
    | clearAllAcked => exact inferInstanceAs (Decidable (state.1.mqtt.handler = .idle))
    | _ => exact instDecidableTrue
  | _ => exact instDecidableTrue

/-! ## The invariant -/

variable {env : HpEnv} {system next : HpSystem} {pub after : Pub} {history : History}

def Window.atLeast (batch : Nat) : Window → Prop
  | .state => False
  | .backfill other => batch ≤ other

/-- The windows that the publish task has sent nothing of when it is at a place. -/
def ahead (pc : PubPc) (window : Window) : Prop :=
  match pc with
  | .begin | .deciding | .connecting | .subscribing | .discovering => True
  | .setExpected .state | .resetReceived .state | .clearAllAcked .state => True
  | .stating | .ackWait => window.atLeast 0
  | .replaying batch | .publishBackfill batch _ => window.atLeast batch
  | .setExpected (.backfill batch _) | .resetReceived (.backfill batch _)
  | .clearAllAcked (.backfill batch _) => window.atLeast batch
  | .backfillWait batch _ => window.atLeast (batch + 1)
  | _ => False

def toSend (pub : Pub) : Nat :=
  match pub.pc with
  | .resetReceived .state | .clearAllAcked .state | .discovering => pub.expected
  | .resetReceived (.backfill _ _) | .clearAllAcked (.backfill _ _) => 1
  | .stating | .publishBackfill _ _ => 1
  | _ => 0

def awaited : PubPc → Option Window
  | .ackWait => some .state
  | .backfillWait batch _ => some (.backfill batch)
  | _ => none

structure Progress (system : HpSystem) (history : History) (pub : Pub) : Prop where
  number : pub.cycle < system.cyclesStarted
  ahead : ∀ window, ahead pub.pc window → ∀ message ∈ history.sent,
    window.counts pub.cycle message = false
  main : ∀ window, awaited pub.pc = some window →
    ∃ message ∈ history.sent, window.main pub.cycle message = true
  ok : pub.ok = true → 2 ≤ rank pub.pc ∧
    (∃ message ∈ history.sent, Window.main pub.cycle .state message = true) ∧
    ∀ message ∈ system.mqtt.outbox, Window.counts pub.cycle .state message = false

structure Counting (system : HpSystem) (history : History) (pub : Pub) : Prop where
  expected : ∀ window phase, armed pub.pc = some (window, phase) →
    system.mqtt.expectedAcks = history.sent.countP (window.counts pub.cycle) + toSend pub
  received : ∀ window phase, armed pub.pc = some (window, phase) → phase ≠ .expecting →
    system.mqtt.receivedAcks = history.acked.countP (window.counts pub.cycle)
  bit : ∀ window, armed pub.pc = some (window, .waiting) →
    system.mqtt.allAckedBit = true ∨ system.mqtt.handler = .setAllAcked →
    system.mqtt.expectedAcks ≤ system.mqtt.receivedAcks

structure Inv (system : HpSystem) (history : History) : Prop where
  tracked : Acks.Tracked history.sent system.mqtt.outbox history.acked
  numbers : ∀ message ∈ history.sent, ∀ (window : Window) (cycle : Nat),
    window.counts cycle message = true → cycle < system.cyclesStarted
  progress : ∀ pub ∈ system.mqtt.pub, Progress system history pub
  counting : ∀ pub ∈ system.mqtt.pub, Counting system history pub

theorem inv_boot (env : HpEnv) (nvs : Nvs) (cyclesStarted : Nat) (pendingVerify : Bool) :
    Inv (boot env nvs cyclesStarted pendingVerify) {} := by
  refine ⟨Acks.tracked_nil, ?_, ?_, ?_⟩
  · intro message member
    cases member
  · rintro pub ⟨⟩
  · rintro pub ⟨⟩

theorem counting_unarmed (unarmed : armed pub.pc = none) : Counting system history pub := by
  refine ⟨?_, ?_, ?_⟩
  · intro window phase place
    rw [unarmed] at place
    cases place
  · intro window phase place
    rw [unarmed] at place
    cases place
  · intro window place
    rw [unarmed] at place
    cases place

theorem awaited_unarmed {pc : PubPc} (unarmed : armed pc = none) : awaited pc = none := by
  cases pc with
  | ackWait | backfillWait batch count => cases unarmed
  | _ => rfl

/-! ## The publish task -/

theorem Inv.moved {messages : List Outgoing} (inv : Inv system history)
    (running : system.mqtt.pub = some pub) (moved : next.mqtt.pub = some after)
    (cycle : after.cycle = pub.cycle)
    (started : next.cyclesStarted = system.cyclesStarted)
    (outbox : next.mqtt.outbox = system.mqtt.outbox ++ messages)
    (own : ∀ message ∈ messages, ∀ (window : Window) (sender : Nat),
      window.counts sender message = true →
        sender = pub.cycle ∧ ¬ ahead after.pc window ∧ (window = .state → rank pub.pc = 0))
    (less : ∀ window, ahead after.pc window → ahead pub.pc window)
    (main : ∀ window, awaited after.pc = some window →
      ∃ message ∈ history.sent ++ messages, window.main pub.cycle message = true)
    (later : rank pub.pc ≤ rank after.pc)
    (ok : after.ok = true → pub.ok = true ∨ 2 ≤ rank after.pc ∧
      (∃ message ∈ history.sent, Window.main pub.cycle .state message = true) ∧
      ∀ message ∈ next.mqtt.outbox, Window.counts pub.cycle .state message = false)
    (counting : Counting next { history with sent := history.sent ++ messages } after) :
    Inv next { history with sent := history.sent ++ messages } := by
  have progress := inv.progress pub running
  refine ⟨?_, ?_, ?_, ?_⟩
  · rw [outbox]
    exact inv.tracked.send messages
  · rw [started]
    intro message member window sender counted
    rcases List.mem_append.mp member with old | new
    · exact inv.numbers message old window sender counted
    · rw [(own message new window sender counted).1]
      exact progress.number
  · rw [moved]
    rintro _ ⟨⟩
    refine ⟨by rw [cycle, started]; exact progress.number, ?_, by rw [cycle]; exact main, ?_⟩
    · intro window isAhead message member
      rw [cycle]
      rcases List.mem_append.mp member with old | new
      · exact progress.ahead window (less window isAhead) message old
      · by_contra counted
        exact (own message new window pub.cycle (by simpa using counted)).2.1 isAhead
    · intro isOk
      rw [cycle]
      rcases ok isOk with before | ⟨late, ⟨message, member, isMain⟩, gone⟩
      · obtain ⟨late, ⟨message, member, isMain⟩, gone⟩ := progress.ok before
        refine ⟨le_trans late later, ⟨message, List.mem_append_left _ member, isMain⟩, ?_⟩
        rw [outbox]
        intro other waits
        rcases List.mem_append.mp waits with old | new
        · exact gone other old
        · by_contra counted
          have early := (own other new .state pub.cycle (by simpa using counted)).2.2 rfl
          rw [early] at late
          exact absurd late (by decide)
      · exact ⟨late, ⟨message, List.mem_append_left _ member, isMain⟩, gone⟩
  · rw [moved]
    rintro _ ⟨⟩
    exact counting

theorem Inv.unarmed {messages : List Outgoing} (inv : Inv system history)
    (running : system.mqtt.pub = some pub) (moved : next.mqtt.pub = some after)
    (cycle : after.cycle = pub.cycle)
    (started : next.cyclesStarted = system.cyclesStarted)
    (outbox : next.mqtt.outbox = system.mqtt.outbox ++ messages)
    (own : ∀ message ∈ messages, ∀ (window : Window) (sender : Nat),
      window.counts sender message = true →
        sender = pub.cycle ∧ ¬ ahead after.pc window ∧ (window = .state → rank pub.pc = 0))
    (less : ∀ window, ahead after.pc window → ahead pub.pc window)
    (later : rank pub.pc ≤ rank after.pc) (ok : after.ok = true → pub.ok = true)
    (unarmed : armed after.pc = none) :
    Inv next { history with sent := history.sent ++ messages } := by
  refine inv.moved running moved cycle started outbox own less ?_ later
    (fun isOk => .inl (ok isOk)) (counting_unarmed unarmed)
  intro window place
  rw [awaited_unarmed unarmed] at place
  cases place

theorem countP_none {group : Outgoing → Bool} {messages : List Outgoing}
    (none : ∀ message ∈ messages, group message = false) : messages.countP group = 0 := by
  rw [List.countP_eq_zero]
  intro message member
  simp [none message member]

theorem discoveryMessages_own {message : Outgoing} (member : message ∈ pub.discoveryMessages) :
    ∃ bit, message = .discovery pub.cycle bit := by
  obtain ⟨bit, -, copied⟩ := List.mem_flatMap.mp member
  exact ⟨bit, (List.mem_replicate.mp copied).2⟩

theorem discoveryMessages_countP (pub : Pub) :
    pub.discoveryMessages.countP (Window.counts pub.cycle .state) =
      (pub.need.map DiscoveryBit.messages).sum := by
  have all : pub.discoveryMessages.countP (Window.counts pub.cycle .state) =
      pub.discoveryMessages.length := by
    rw [List.countP_eq_length]
    intro message member
    obtain ⟨bit, rfl⟩ := discoveryMessages_own member
    simp [Window.counts]
  rw [all, Pub.discoveryMessages, List.length_flatMap]
  simp

theorem Inv.ahead_acked (inv : Inv system history) (running : system.mqtt.pub = some pub)
    (window : Window) (isAhead : ahead pub.pc window) :
    history.sent.countP (window.counts pub.cycle) = 0 ∧
      history.acked.countP (window.counts pub.cycle) = 0 := by
  have none := countP_none ((inv.progress pub running).ahead window isAhead)
  have below := inv.tracked.countP_le (window.counts pub.cycle)
  rw [none] at below
  exact ⟨none, Nat.le_zero.mp below⟩

theorem record_pub {event : PubEvent} {messages : List Outgoing}
    (sent : sends system (.pub event) = messages) :
    record system (.pub event) history = { history with sent := history.sent ++ messages } := by
  rw [← sent]
  rfl

theorem inv_setExpected {arming : Arming} (inv : Inv system history)
    (running : system.mqtt.pub = some pub) (at_ : pub.pc = .setExpected arming) :
    Inv (system.setExpected pub arming) (record system (.pub .setExpected) history) := by
  have sent : sends system (.pub .setExpected) = [] := by
    simp [sends, running]
  have none := (inv.ahead_acked running (Arming.window arming) (by
    rw [at_]
    cases arming with
    | state => trivial
    | backfill batch entries => exact le_rfl)).1
  rw [record_pub sent]
  refine inv.moved running rfl rfl rfl (List.append_nil _).symm (by simp) ?_ (by rintro _ ⟨⟩)
    ?_ (fun isOk => .inl isOk) ⟨?_, ?_, ?_⟩
  · rw [at_]
    cases arming <;> exact fun _ isAhead => isAhead
  · rw [at_]
    cases arming <;> exact le_rfl
  · intro window phase place
    obtain ⟨rfl, rfl⟩ := Prod.mk.inj (Option.some.inj place)
    rw [List.append_nil, none, Nat.zero_add]
    cases arming <;> rfl
  · intro window phase place counting
    obtain ⟨rfl, rfl⟩ := Prod.mk.inj (Option.some.inj place)
    exact (counting rfl).elim
  · intro window place
    cases (Prod.mk.inj (Option.some.inj place)).2

theorem inv_resetReceived {arming : Arming} (inv : Inv system history)
    (running : system.mqtt.pub = some pub) (at_ : pub.pc = .resetReceived arming) :
    Inv (system.resetReceived pub arming) (record system (.pub .resetReceived) history) := by
  have sent : sends system (.pub .resetReceived) = [] := by
    simp [sends, running]
  have none := (inv.ahead_acked running (Arming.window arming) (by
    rw [at_]
    cases arming with
    | state => trivial
    | backfill batch entries => exact le_rfl)).2
  have before := (inv.counting pub running).expected (Arming.window arming) .expecting
    (by rw [at_]; rfl)
  rw [record_pub sent]
  refine inv.moved running rfl rfl rfl (List.append_nil _).symm (by simp) ?_
    (by rintro _ ⟨⟩) ?_ (fun isOk => .inl isOk) ⟨?_, ?_, ?_⟩
  · rw [at_]
    cases arming <;> exact fun _ isAhead => isAhead
  · rw [at_]
    cases arming <;> exact le_rfl
  · intro window phase place
    obtain ⟨rfl, rfl⟩ := Prod.mk.inj (Option.some.inj place)
    rw [List.append_nil]
    unfold toSend at before
    rw [at_] at before
    cases arming <;> exact before
  · intro window phase place counting
    obtain ⟨rfl, rfl⟩ := Prod.mk.inj (Option.some.inj place)
    exact none.symm
  · intro window place
    cases (Prod.mk.inj (Option.some.inj place)).2

theorem inv_clearAllAcked {arming : Arming} (inv : Inv system history)
    (running : system.mqtt.pub = some pub) (at_ : pub.pc = .clearAllAcked arming)
    (idle : system.mqtt.handler = .idle) :
    Inv (system.clearAllAcked pub arming) (record system (.pub .clearAllAcked) history) := by
  have sent : sends system (.pub .clearAllAcked) = [] := by
    simp [sends, running]
  have counting := inv.counting pub running
  have expected := counting.expected (Arming.window arming) .counting (by rw [at_]; rfl)
  have received := counting.received (Arming.window arming) .counting (by rw [at_]; rfl) (by simp)
  unfold toSend at expected
  rw [at_] at expected
  rw [record_pub sent]
  cases arming with
  | state =>
    refine inv.moved running rfl rfl rfl (List.append_nil _).symm (by simp)
      (by rw [at_]; exact fun _ isAhead => isAhead) (by rintro _ ⟨⟩) (by rw [at_]; exact le_rfl)
      (fun isOk => .inl isOk) ⟨?_, ?_, ?_⟩
    · rintro window phase ⟨⟩
      rw [List.append_nil]
      exact expected
    · rintro window phase ⟨⟩ -
      exact received
    · rintro window ⟨⟩ (cleared | pending)
      · cases cleared
      · exact absurd (idle.symm.trans pending) (by simp)
  | backfill batch entries =>
    refine inv.moved running rfl rfl rfl (List.append_nil _).symm (by simp)
      (by rw [at_]; exact fun _ isAhead => isAhead) (by rintro _ ⟨⟩) (by rw [at_]; exact le_rfl)
      (fun isOk => .inl isOk) ⟨?_, ?_, ?_⟩
    · rintro window phase ⟨⟩
      rw [List.append_nil]
      exact expected
    · rintro window phase ⟨⟩ -
      exact received
    · rintro window ⟨⟩ (cleared | pending)
      · cases cleared
      · exact absurd (idle.symm.trans pending) (by simp)

theorem inv_discover (inv : Inv system history) (running : system.mqtt.pub = some pub)
    (at_ : pub.pc = .discovering) :
    Inv (system.enqueue pub pub.discoveryMessages
      (if pub.params.hasAny then .stating else .replaying 0))
      (record system (.pub .discover) history) := by
  have sent : sends system (.pub .discover) = pub.discoveryMessages := by
    simp [sends, running]
  have counting := inv.counting pub running
  have expected := counting.expected .state .waiting (by rw [at_]; rfl)
  have received := counting.received .state .waiting (by rw [at_]; rfl) (by simp)
  have bit := counting.bit .state (by rw [at_]; rfl)
  have nothing := (inv.ahead_acked running .state (by rw [at_]; trivial)).1
  have less : ∀ pc window, ahead pc window → ahead pub.pc window := by
    rw [at_]
    exact fun _ _ _ => trivial
  have own : ∀ pc, ¬ ahead pc .state → ∀ message ∈ pub.discoveryMessages,
      ∀ (window : Window) (sender : Nat), window.counts sender message = true →
        sender = pub.cycle ∧ ¬ ahead pc window ∧ (window = .state → rank pub.pc = 0) := by
    intro pc passed message member window sender counted
    obtain ⟨bit, rfl⟩ := discoveryMessages_own member
    cases window with
    | state => exact ⟨(beq_iff_eq.mp counted).symm, passed, fun _ => by rw [at_]; rfl⟩
    | backfill batch => cases counted
  rw [record_pub sent]
  cases data : pub.params.hasAny with
  | false =>
    exact inv.unarmed running rfl rfl rfl rfl (own _ id) (less _)
      (by rw [at_]; exact Nat.zero_le _) id rfl
  | true =>
    refine inv.moved running rfl rfl rfl rfl (own _ id) (less _)
      (by rintro _ ⟨⟩) (by rw [at_]; exact Nat.zero_le _) (fun isOk => .inl isOk) ⟨?_, ?_, ?_⟩
    · rintro window phase ⟨⟩
      unfold toSend at expected
      rw [at_, nothing] at expected
      have total : pub.expected = 1 + (pub.need.map DiscoveryBit.messages).sum := by
        simp [Pub.expected, data]
      show system.mqtt.expectedAcks =
        (history.sent ++ pub.discoveryMessages).countP (Window.counts pub.cycle .state) + 1
      rw [List.countP_append, discoveryMessages_countP, nothing, expected]
      dsimp only
      rw [total]
      omega
    · rintro window phase ⟨⟩ -
      exact received
    · rintro window ⟨⟩ set
      exact bit set

theorem inv_sendLast {event : PubEvent} (window : Window) {message : Outgoing} {pc : PubPc}
    (inv : Inv system history) (running : system.mqtt.pub = some pub)
    (sent : sends system (.pub event) = [message])
    (isArmed : armed pub.pc = some (window, .waiting))
    (one : toSend pub = 1) (armedAfter : armed pc = some (window, .waiting))
    (isAwaited : awaited pc = some window) (none : toSend { pub with pc := pc } = 0)
    (counted : window.counts pub.cycle message = true)
    (isMain : window.main pub.cycle message = true)
    (own : ∀ (other : Window) (sender : Nat), other.counts sender message = true →
      sender = pub.cycle ∧ ¬ ahead pc other ∧ (other = .state → rank pub.pc = 0))
    (less : ∀ other, ahead pc other → ahead pub.pc other) (later : rank pub.pc ≤ rank pc) :
    Inv (system.enqueue pub [message] pc) (record system (.pub event) history) := by
  have counting := inv.counting pub running
  have expected := counting.expected window .waiting isArmed
  have received := counting.received window .waiting isArmed (by simp)
  have bit := counting.bit window isArmed
  rw [record_pub sent]
  refine inv.moved running rfl rfl rfl rfl ?_ less ?_ later (fun isOk => .inl isOk)
    ⟨?_, ?_, ?_⟩
  · intro other member
    rw [List.mem_singleton.mp member]
    exact own
  · intro other place
    rw [isAwaited] at place
    cases place
    exact ⟨message, by simp, isMain⟩
  · intro other phase place
    rw [armedAfter] at place
    cases place
    show system.mqtt.expectedAcks =
      (history.sent ++ [message]).countP (window.counts pub.cycle) + toSend { pub with pc := pc }
    rw [none, List.countP_append, List.countP_singleton, if_pos counted, expected, one]
  · intro other phase place _
    rw [armedAfter] at place
    cases place
    exact received
  · intro other place set
    rw [armedAfter] at place
    cases place
    exact bit set

theorem inv_publishState (inv : Inv system history) (running : system.mqtt.pub = some pub)
    (at_ : pub.pc = .stating) :
    Inv (system.enqueue pub [.state (system.stateMessage pub)] .ackWait)
      (record system (.pub .publishState) history) := by
  refine inv_sendLast .state inv running (by simp [sends, running])
    (by rw [at_]; rfl) (by unfold toSend; rw [at_]) rfl rfl rfl
    (by simp [Window.counts, stateMessage])
    (by simp [Window.main, Outgoing.isStateOf, stateMessage]) ?_ ?_
    (by rw [at_]; exact Nat.zero_le _)
  · intro other sender counted
    cases other with
    | state => exact ⟨(beq_iff_eq.mp counted).symm, id, fun _ => by rw [at_]; rfl⟩
    | backfill batch => cases counted
  · rw [at_]
    exact fun _ isAhead => isAhead

theorem inv_publishBackfill {batch : Nat} {entries : List HistoryLogEntry}
    (inv : Inv system history) (running : system.mqtt.pub = some pub)
    (at_ : pub.pc = .publishBackfill batch entries) :
    Inv (system.enqueue pub [.backfill pub.cycle batch entries]
      (.backfillWait batch entries.length)) (record system (.pub .publishBackfill) history) := by
  refine inv_sendLast (.backfill batch) inv running (by simp [sends, running, at_])
    (by rw [at_]; rfl) (by unfold toSend; rw [at_]) rfl rfl rfl (by simp [Window.counts])
    (by simp [Window.main, Window.counts]) ?_ ?_ (by rw [at_]; exact le_rfl)
  · intro other sender counted
    cases other with
    | state => cases counted
    | backfill number =>
      simp only [Window.counts, Bool.and_eq_true, beq_iff_eq] at counted
      refine ⟨counted.1.symm, ?_, fun same => by cases same⟩
      rw [← counted.2]
      exact Nat.not_succ_le_self batch
  · rw [at_]
    intro other isAhead
    cases other with
    | state => exact isAhead
    | backfill number => exact le_trans (Nat.le_succ batch) isAhead

/-- A wait that ends with the bit set: as many PUBACKs as messages. -/
theorem Inv.awaited_gone (window : Window) (inv : Inv system history)
    (running : system.mqtt.pub = some pub) (isArmed : armed pub.pc = some (window, .waiting))
    (none : toSend pub = 0) (set : system.mqtt.allAckedBit = true) :
    ∀ message ∈ system.mqtt.outbox, window.counts pub.cycle message = false := by
  have counting := inv.counting pub running
  have expected := counting.expected window .waiting isArmed
  have received := counting.received window .waiting isArmed (by simp)
  have bit := counting.bit window isArmed (.inl set)
  rw [expected, received, none] at bit
  exact inv.tracked.none_waits bit

theorem inv_ackWait (inv : Inv system history) (running : system.mqtt.pub = some pub)
    (at_ : pub.pc = .ackWait) :
    Inv (system.ackWait pub) (record system (.pub .ackWait) history) := by
  have sent : sends system (.pub .ackWait) = [] := by
    simp [sends, running]
  have less : ∀ window, ahead (.replaying 0) window → ahead pub.pc window := by
    rw [at_]
    exact fun _ isAhead => isAhead
  rw [record_pub sent]
  unfold ackWait
  dsimp only
  by_cases set : system.mqtt.allAckedBit = true
  · have gone := inv.awaited_gone .state running (by rw [at_]; rfl)
      (by unfold toSend; rw [at_]) set
    have main := (inv.progress pub running).main .state (by rw [at_]; rfl)
    rw [if_pos set]
    refine inv.moved running rfl rfl rfl (List.append_nil _).symm (by simp) less
      (by rintro _ ⟨⟩) (by rw [at_]; exact Nat.le_succ 1)
      (fun _ => .inr ⟨le_rfl, main, gone⟩) (counting_unarmed rfl)
  · rw [if_neg set]
    refine inv.unarmed running rfl rfl rfl (List.append_nil _).symm (by simp)
      (fun _ isAhead => isAhead.elim)
      (by rw [at_]; exact Nat.le_add_right 1 3) (fun isOk => by cases isOk) rfl

theorem inv_clearRunning (inv : Inv system history) :
    Inv system.clearRunning (record system (.pub .clearRunning) history) := by
  have sent : sends system (.pub .clearRunning) = [] := by
    unfold sends
    cases system.mqtt.pub <;> rfl
  rw [record_pub sent, List.append_nil]
  refine ⟨inv.tracked, inv.numbers, ?_, ?_⟩
  · rintro pub ⟨⟩
  · rintro pub ⟨⟩

theorem Inv.quiet {event : PubEvent} (inv : Inv system history)
    (running : system.mqtt.pub = some pub) (sent : sends system (.pub event) = [])
    (moved : next.mqtt.pub = some after) (cycle : after.cycle = pub.cycle)
    (started : next.cyclesStarted = system.cyclesStarted)
    (outbox : next.mqtt.outbox = system.mqtt.outbox)
    (less : ∀ window, ahead after.pc window → ahead pub.pc window)
    (later : rank pub.pc ≤ rank after.pc) (ok : after.ok = true → pub.ok = true)
    (unarmed : armed after.pc = none) : Inv next (record system (.pub event) history) := by
  rw [record_pub sent]
  exact inv.unarmed running moved cycle started (by rw [outbox, List.append_nil]) (by simp)
    less later ok unarmed

theorem inv_replay {batch : Nat} (inv : Inv system history)
    (running : system.mqtt.pub = some pub) (at_ : pub.pc = .replaying batch) (nowUs : Int) :
    Inv (system.replay pub batch nowUs) (record system (.pub (.replay nowUs)) history) := by
  have sent : sends system (.pub (.replay nowUs)) = [] := by
    simp [sends, running]
  have early : rank pub.pc = 2 := by rw [at_]; rfl
  obtain ⟨log, pc, same, place⟩ := system.replay_eq pub batch nowUs
  rw [same]
  rcases place with rfl | ⟨entries, rfl⟩
  · exact inv.quiet running sent rfl rfl rfl rfl (fun _ isAhead => isAhead.elim)
      (by rw [early]; exact le_rfl) id rfl
  · refine inv.quiet running sent rfl rfl rfl rfl ?_ (by rw [early]; exact le_rfl) id rfl
    rw [at_]
    exact fun _ isAhead => isAhead

theorem inv_backfillWait {batch count : Nat} (inv : Inv system history)
    (running : system.mqtt.pub = some pub) (at_ : pub.pc = .backfillWait batch count) :
    Inv (system.backfillWait pub batch count) (record system (.pub .backfillWait) history) := by
  have sent : sends system (.pub .backfillWait) = [] := by
    simp [sends, running]
  have early : rank pub.pc = 2 := by rw [at_]; rfl
  unfold backfillWait
  split
  · refine inv.quiet running sent rfl rfl rfl rfl ?_ (by rw [early]; exact le_rfl) id rfl
    rw [at_]
    exact fun _ isAhead => isAhead
  · exact inv.quiet running sent rfl rfl rfl rfl (fun _ isAhead => isAhead.elim)
      (by rw [early]; exact le_rfl) id rfl

theorem inv_subscribe (inv : Inv system history) (running : system.mqtt.pub = some pub)
    (at_ : pub.pc = .subscribing) (link : Option LinkStats) :
    Inv (system.subscribe pub link) (record system (.pub (.subscribe link)) history) := by
  have less : ∀ window, ahead (.setExpected .state) window → ahead pub.pc window := by
    rw [at_]
    exact fun _ isAhead => isAhead
  by_cases known : (system.mqtt.sessionPresent && system.mqtt.sessionSubscribed) = true
  · have sent : sends system (.pub (.subscribe link)) = [] := by
      simp only [sends, running]
      rw [if_pos known]
    exact inv.quiet running sent rfl rfl rfl (if_pos known) less (by rw [at_]; exact le_rfl) id rfl
  · have sent : sends system (.pub (.subscribe link)) = [.subscribe] := by
      simp only [sends, running]
      rw [if_neg known]
    rw [record_pub sent]
    refine inv.unarmed running rfl rfl rfl (if_neg known) ?_ less (by rw [at_]; exact le_rfl) id rfl
    intro message member window sender counted
    rw [List.mem_singleton.mp member] at counted
    cases window <;> cases counted

theorem inv_persist {snap : PendingCfg} (inv : Inv system history)
    (running : system.mqtt.pub = some pub) (at_ : pub.pc = .persisting snap) :
    Inv (system.persist pub snap) (record system (.pub .persist) history) := by
  have sent : sends system (.pub .persist) = (RuntimeConfig.echoes snap).map .echo := by
    simp [sends, running, at_]
  rw [record_pub sent]
  refine inv.unarmed running rfl rfl rfl rfl ?_ (fun _ isAhead => isAhead.elim)
    (by rw [at_]; exact le_rfl) id rfl
  intro message member window sender counted
  obtain ⟨echo, -, rfl⟩ := List.mem_map.mp member
  cases window <;> cases counted

theorem inv_pub {event : PubEvent} (inv : Inv system history)
    (running : system.mqtt.pub = some pub) (met : OwnCounted (system, history) (.pub event))
    (taken : system.pubStep env pub event = some next) :
    Inv next (record system (.pub event) history) := by
  have never : ∀ window, False → ahead pub.pc window := fun _ absurd => absurd.elim
  cases pubStep_case taken with
  | reachable reachable uriFound at_ =>
    have less : ∀ pc window, ahead pc window → ahead pub.pc window := by
      rw [at_]
      exact fun _ _ _ => trivial
    exact inv.quiet running (by simp [sends, running]) rfl rfl rfl rfl (less _)
      (by rw [at_]; exact Nat.zero_le _) id (by split <;> rfl)
  | decide clientOk at_ =>
    have less : ∀ pc window, ahead pc window → ahead pub.pc window := by
      rw [at_]
      exact fun _ _ _ => trivial
    unfold startPersistentClient
    split
    · exact inv.quiet running (by simp [sends, running]) rfl rfl rfl rfl (less _)
        (by rw [at_]; exact Nat.zero_le _) id rfl
    · split
      · exact inv.quiet running (by simp [sends, running]) rfl rfl rfl rfl (less _)
          (by rw [at_]; exact Nat.zero_le _) id rfl
      · exact inv.quiet running (by simp [sends, running]) rfl rfl rfl rfl (less _)
          (by rw [at_]; exact Nat.zero_le _) id rfl
  | connectWait at_ =>
    have less : ∀ pc window, ahead pc window → ahead pub.pc window := by
      rw [at_]
      exact fun _ _ _ => trivial
    exact inv.quiet running (by simp [sends, running]) rfl rfl rfl rfl (less _)
      (by rw [at_]; exact Nat.zero_le _) id (by split <;> rfl)
  | subscribe link at_ => exact inv_subscribe inv running at_ link
  | setExpected at_ => exact inv_setExpected inv running at_
  | resetReceived at_ => exact inv_resetReceived inv running at_
  | clearAllAcked at_ => exact inv_clearAllAcked inv running at_ met
  | discover at_ => exact inv_discover inv running at_
  | publishState at_ => exact inv_publishState inv running at_
  | ackWait at_ => exact inv_ackWait inv running at_
  | replay nowUs at_ => exact inv_replay inv running at_ nowUs
  | publishBackfill at_ => exact inv_publishBackfill inv running at_
  | backfillWait at_ => exact inv_backfillWait inv running at_
  | settle at_ =>
    exact inv.quiet running (by simp [sends, running]) rfl rfl rfl rfl never
      (by rw [at_]; exact le_rfl) id rfl
  | merge at_ =>
    unfold merge
    split
    · exact inv.quiet running (by simp [sends, running]) rfl rfl rfl rfl never
        (by rw [at_]; exact Nat.le_succ 2) id rfl
    · exact inv.quiet running (by simp [sends, running]) rfl rfl rfl rfl never
        (by rw [at_]; exact Nat.le_add_right 2 2) id rfl
  | setTxDone accepted at_ =>
    exact inv.quiet running (by simp [sends, running]) rfl rfl rfl rfl never
      (by rw [at_]; exact Nat.le_succ 3) id rfl
  | persist at_ => exact inv_persist inv running at_
  | close at_ idle =>
    exact inv.quiet running (by simp [sends, running]) rfl rfl rfl rfl never
      (by rw [at_]; exact le_rfl) id rfl
  | otaGate groupCreated at_ =>
    unfold otaGate
    split
    · split
      · exact inv.quiet running (by simp [sends, running]) rfl rfl rfl rfl never
          (by rw [at_]; exact Nat.le_succ 4) id rfl
      · exact inv.quiet running (by simp [sends, running]) rfl rfl rfl rfl never
          (by rw [at_]; exact Nat.le_add_right 4 2) id rfl
    · exact inv.quiet running (by simp [sends, running]) rfl rfl rfl rfl never
        (by rw [at_]; exact Nat.le_add_right 4 2) id rfl
  | otaDone at_ idle =>
    exact inv.quiet running (by simp [sends, running]) rfl rfl rfl rfl never
      (by rw [at_]; exact Nat.le_succ 5) id rfl
  | windowEnd at_ =>
    exact inv.quiet running (by simp [sends, running]) rfl rfl rfl rfl never
      (by rw [at_]; exact le_rfl) id rfl
  | storeOk at_ =>
    exact inv.quiet running (by simp [sends, running]) rfl rfl rfl rfl never
      (by rw [at_]; exact le_rfl) id rfl
  | clearRunning at_ => exact inv_clearRunning inv

/-! ## The other tasks -/

structure SameCounting (system next : HpSystem) : Prop where
  outbox : next.mqtt.outbox = system.mqtt.outbox
  expectedAcks : next.mqtt.expectedAcks = system.mqtt.expectedAcks
  receivedAcks : next.mqtt.receivedAcks = system.mqtt.receivedAcks
  allAckedBit : next.mqtt.allAckedBit = system.mqtt.allAckedBit
  handler : next.mqtt.handler = system.mqtt.handler
  pub : next.mqtt.pub = system.mqtt.pub
  cyclesStarted : next.cyclesStarted = system.cyclesStarted

theorem Inv.same (inv : Inv system history) (same : SameCounting system next) :
    Inv next history := by
  refine ⟨by rw [same.outbox]; exact inv.tracked, by rw [same.cyclesStarted]; exact inv.numbers,
    ?_, ?_⟩
  · rw [same.pub]
    intro pub running
    have progress := inv.progress pub running
    refine ⟨by rw [same.cyclesStarted]; exact progress.number, progress.ahead, progress.main, ?_⟩
    rw [same.outbox]
    exact progress.ok
  · rw [same.pub]
    intro pub running
    have counting := inv.counting pub running
    refine ⟨?_, ?_, ?_⟩
    · rw [same.expectedAcks]
      exact counting.expected
    · rw [same.receivedAcks]
      exact counting.received
    · rw [same.allAckedBit, same.handler, same.expectedAcks, same.receivedAcks]
      exact counting.bit

theorem inv_sendStarted (inv : Inv system history) (params : PublishParams)
    (sensor : SensorsTask) :
    Inv
      { system with
        mqtt :=
          { system.mqtt with
            taskRunning := true, idleBit := false
            pub := some { cycle := system.cyclesStarted, params := params } }
        sensor := sensor
        cyclesStarted := system.cyclesStarted + 1 } history := by
  refine ⟨inv.tracked, ?_, ?_, ?_⟩
  · intro message member window cycle counted
    exact Nat.lt_succ_of_lt (inv.numbers message member window cycle counted)
  · rintro pub ⟨⟩
    refine ⟨Nat.lt_succ_self _, ?_, ?_, ?_⟩
    · intro window _ message member
      by_contra counted
      have older := inv.numbers message member window system.cyclesStarted (by simpa using counted)
      exact absurd older (lt_irrefl _)
    · rintro window ⟨⟩
    · intro ok
      cases ok
  · rintro pub ⟨⟩
    exact counting_unarmed rfl

theorem inv_sensor {event : SensorEvent} (inv : Inv system history)
    (move : SensorMove env system event next) : Inv next history := by
  cases move with
  | sendStarted at_ free => exact inv_sendStarted inv _ _
  | deliver nowUs stateRead marked at_ =>
    obtain ⟨log, checked, pending, same⟩ := system.deliver_eq nowUs stateRead marked
    rw [same]
    exact inv.same ⟨rfl, rfl, rfl, rfl, rfl, rfl, rfl⟩
  | _ => exact inv.same ⟨rfl, rfl, rfl, rfl, rfl, rfl, rfl⟩

theorem inv_published {index : Nat} (inv : Inv system history)
    (met : OwnCounted (system, history) (.client (.published index)))
    (taken : system.published index = some next) :
    Inv next (record system (.client (.published index)) history) := by
  unfold published at taken
  cases found : system.mqtt.outbox[index]? with
  | none => simp [found] at taken
  | some message =>
    simp only [found] at taken
    split at taken
    · cases Option.some.inj taken
      have acked : record system (.client (.published index)) history =
          { history with acked := message :: history.acked } := by
        simp [record, sends, acks, found]
      have removed := Acks.perm_eraseIdx found
      rw [acked]
      refine ⟨inv.tracked.ack removed, inv.numbers, ?_, ?_⟩
      · intro pub running
        have progress := inv.progress pub running
        refine ⟨progress.number, progress.ahead, progress.main, fun isOk => ?_⟩
        obtain ⟨late, main, gone⟩ := progress.ok isOk
        exact ⟨late, main, fun other waits => gone other (List.mem_of_mem_eraseIdx waits)⟩
      · intro pub running
        have counting := inv.counting pub running
        refine ⟨counting.expected, ?_, ?_⟩
        · intro window phase place reset
          have own := met pub running (window, phase) place reset message found
          show system.mqtt.receivedAcks + 1 =
            (message :: history.acked).countP (window.counts pub.cycle)
          rw [counting.received window phase place reset, List.countP_cons_of_pos own]
        · intro window place set
          show system.mqtt.expectedAcks ≤ system.mqtt.receivedAcks + 1
          rcases set with before | pending
          · exact Nat.le_succ_of_le (counting.bit window place (.inl before))
          · by_contra few
            simp [MqttSender.countAck, few] at pending
    · cases taken

theorem inv_subAck {accepted : Bool} (inv : Inv system history)
    (taken : system.subAck accepted = some next) :
    Inv next (record system (.client (.subAck accepted)) history) := by
  unfold subAck at taken
  split at taken
  case isTrue waits =>
    cases Option.some.inj taken
    have acked : record system (.client (.subAck accepted)) history =
        { history with acked := .subscribe :: history.acked } := by
      simp [record, sends, acks]
    have uncounted : ∀ (window : Window) (cycle : Nat),
        window.counts cycle .subscribe = false := by
      intro window cycle
      cases window <;> rfl
    rw [acked]
    refine ⟨inv.tracked.ack (List.perm_cons_erase waits), inv.numbers, ?_, ?_⟩
    · intro pub running
      have progress := inv.progress pub running
      refine ⟨progress.number, progress.ahead, progress.main, fun isOk => ?_⟩
      obtain ⟨late, main, gone⟩ := progress.ok isOk
      exact ⟨late, main, fun other still => gone other (List.mem_of_mem_erase still)⟩
    · intro pub running
      have counting := inv.counting pub running
      refine ⟨counting.expected, ?_, counting.bit⟩
      intro window phase place reset
      show system.mqtt.receivedAcks = (.subscribe :: history.acked).countP _
      rw [List.countP_cons_of_neg (by simp [uncounted]), counting.received window phase place reset]
  case isFalse => cases taken

theorem inv_client {event : ClientEvent} (inv : Inv system history)
    (met : OwnCounted (system, history) (.client event))
    (taken : system.clientStep env event = some next) :
    Inv next (record system (.client event) history) := by
  have quiet : acks system (.client event) = [] →
      record system (.client event) history = history := by
    intro none
    simp [record, sends, none]
  unfold clientStep at taken
  split at taken
  case h_1 idle =>
    cases event with
    | published index => exact inv_published inv met taken
    | subAck accepted => exact inv_subAck inv taken
    | setAllAcked => cases taken
    | connected sessionPresent =>
      cases Option.some.inj taken
      rw [quiet rfl]
      exact inv.same ⟨rfl, rfl, rfl, rfl, rfl, rfl, rfl⟩
    | error =>
      cases Option.some.inj taken
      rw [quiet rfl]
      exact inv.same ⟨rfl, rfl, rfl, rfl, rfl, rfl, rfl⟩
    | manifest message =>
      obtain ⟨ota, -, rfl⟩ := Option.map_eq_some_iff.mp taken
      rw [quiet rfl]
      exact inv.same ⟨rfl, rfl, rfl, rfl, rfl, rfl, rfl⟩
    | install set =>
      obtain ⟨ota, -, rfl⟩ := Option.map_eq_some_iff.mp taken
      rw [quiet rfl]
      exact inv.same ⟨rfl, rfl, rfl, rfl, rfl, rfl, rfl⟩
    | cfg message =>
      cases Option.some.inj taken
      rw [quiet rfl]
      exact inv.same ⟨rfl, rfl, rfl, rfl, rfl, rfl, rfl⟩
  case h_2 pending =>
    split at taken
    case isTrue isSet =>
      subst isSet
      cases Option.some.inj taken
      rw [quiet rfl]
      refine ⟨inv.tracked, inv.numbers, ?_, ?_⟩
      · intro pub running
        have progress := inv.progress pub running
        exact ⟨progress.number, progress.ahead, progress.main, progress.ok⟩
      · intro pub running
        have counting := inv.counting pub running
        exact ⟨counting.expected, counting.received,
          fun window place _ => counting.bit window place (.inr pending)⟩
    case isFalse => cases taken

theorem inv_step (state : Observed) (action : HpAction) (after : Observed)
    (inv : Inv state.1 state.2) (met : OwnCounted state action)
    (taken : step env state action = some after) : Inv after.1 after.2 := by
  obtain ⟨stepped, recorded⟩ := Runs.observe_step taken
  rw [recorded]
  obtain ⟨system, history⟩ := state
  obtain ⟨next, _⟩ := after
  have quiet : sends system action = [] → acks system action = [] →
      (∀ pending, action ≠ .reset pending) → record system action history = history := by
    intro sent acked running
    cases action <;> simp_all [record]
  cases action with
  | sensor event =>
    rw [quiet rfl rfl (by simp)]
    exact inv_sensor inv (sensorStep_move stepped)
  | pub event =>
    simp only [HpSystem.step] at stepped
    split at stepped
    case h_1 pub running => exact inv_pub inv running met stepped
    case h_2 => cases stepped
  | tail =>
    cases step_move stepped with
    | tail =>
      rw [quiet rfl rfl (by simp)]
      exact inv.same ⟨rfl, rfl, rfl, rfl, rfl, rfl, rfl⟩
  | client event =>
    simp only [HpSystem.step] at stepped
    split at stepped
    · exact inv_client inv met stepped
    · cases stepped
  | ota event accepted =>
    cases step_move stepped with
    | ota running at_ inCycle done =>
      obtain ⟨radio, same⟩ := system.otaRadio_eq event accepted
      rw [quiet rfl rfl (by simp)]
      rw [same]
      exact inv.same ⟨rfl, rfl, rfl, rfl, rfl, rfl, rfl⟩
  | reset pendingVerify =>
    cases Option.some.inj stepped
    exact inv_boot env _ _ pendingVerify

/-! ## Confirmations -/

theorem Inv.ownAcked {cycle : Nat} {window : Window} (inv : Inv system history)
    (main : ∃ message ∈ history.sent, window.main cycle message = true)
    (gone : ∀ message ∈ system.mqtt.outbox, window.counts cycle message = false) :
    OwnAcked history cycle window := by
  have outside : ∀ message, window.counts cycle message = true → message ∉ system.mqtt.outbox := by
    intro message counted waits
    rw [gone message waits] at counted
    cases counted
  have mainCounts : ∀ message, window.main cycle message = true →
      window.counts cycle message = true := by
    intro message isMain
    cases window with
    | state => cases message <;> simp_all [Window.main, Window.counts, Outgoing.isStateOf]
    | backfill batch => exact isMain
  refine ⟨?_, ?_⟩
  · obtain ⟨message, member, isMain⟩ := main
    exact ⟨message, inv.tracked.mem_acked member (outside message (mainCounts message isMain)),
      isMain⟩
  · intro message _ counted
    exact inv.tracked.count_eq (outside message counted)

theorem confirmedAcked_of_inv (state : Observed) (action : HpAction) (inv : Inv state.1 state.2) :
    ConfirmedAcked state action := by
  obtain ⟨system, history⟩ := state
  rintro ⟨cycle, window⟩ confirmed
  cases action with
  | pub event =>
    obtain ⟨pub, running, found⟩ := Option.bind_eq_some_iff.mp confirmed
    have progress := inv.progress pub running
    split at found
    case h_1 at_ =>
      obtain ⟨set, same⟩ := Option.ite_none_right_eq_some.mp found
      cases same
      exact inv.ownAcked (progress.main .state (by rw [at_]; rfl))
        (inv.awaited_gone .state running (by rw [at_]; rfl)
          (by unfold toSend; rw [at_]) set)
    case h_2 batch count at_ =>
      obtain ⟨set, same⟩ := Option.ite_none_right_eq_some.mp found
      cases same
      exact inv.ownAcked (progress.main (.backfill batch) (by rw [at_]; rfl))
        (inv.awaited_gone (.backfill batch) running (by rw [at_]; rfl)
          (by unfold toSend; rw [at_]) set)
    case h_3 at_ =>
      obtain ⟨ok, same⟩ := Option.ite_none_right_eq_some.mp found
      cases same
      obtain ⟨-, main, gone⟩ := progress.ok ok
      exact inv.ownAcked main gone
    case h_4 => cases found
  | _ => cases confirmed

/-- In every run whose windows count only PUBACKs of their own messages, what is
taken for acknowledged was. -/
theorem confirmedAcked_run (env : HpEnv) (nvs : Nvs) (cyclesStarted : Nat) (pendingVerify : Bool)
    (actions : List HpAction)
    (met : Runs.Along (step env) OwnCounted (start env nvs cyclesStarted pendingVerify) actions) :
    Runs.Along (step env) ConfirmedAcked (start env nvs cyclesStarted pendingVerify) actions :=
  Runs.along_of_invariant (fun state => Inv state.1 state.2) inv_step
    (fun state action inv _ => confirmedAcked_of_inv state action inv)
    (inv_boot env nvs cyclesStarted pendingVerify) met

/-! ## A publish cycle, and a second one that an echo of the first confirms -/

def firstCycle : List HpAction :=
  attachFirst ++ takeUp (reading 1 (.fin 21)) ++ [.sensor .isBusy] ++ publishUpToState ++
    allAcked 33 ++ [.client (.cfg (.maxPublishGapSec 600))] ++ publishToOutcome

/-- The echo stays in the outbox; its PUBACK comes after the next state message. -/
def echoInNextWindow : List HpAction :=
  firstCycle ++ publishEnd ++ noteOutcome ++ sleepAndWake ++ [.sensor (.attachGate true)] ++
    takeUp (reading 2 (.fin 25)) ++ publishUpToState ++
    [.client (.published 1), .client .setAllAcked, .pub .ackWait]

theorem confirmedAcked_first :
    (Runs.run (step benchEnv) (start benchEnv Nvs.erased 0 false) firstCycle).isSome = true ∧
      Runs.Along (step benchEnv) ConfirmedAcked (start benchEnv Nvs.erased 0 false) firstCycle :=
  ⟨by decide +kernel, confirmedAcked_run benchEnv Nvs.erased 0 false firstCycle
    (by decide +kernel)⟩

theorem echo_confirms :
    ¬ ∀ env nvs cyclesStarted pendingVerify actions,
      Runs.Along (step env) ConfirmedAcked (start env nvs cyclesStarted pendingVerify) actions := by
  intro always
  have sound := always benchEnv Nvs.erased 0 false echoInNextWindow
  revert sound
  decide +kernel

end SleepySensor.AckWindow
