import SleepySensor.Lib.Runs
import SleepySensor.RuntimeConfig

/-!
# One `cfg/*` topic between Home Assistant, the broker and the device

The topic is command and state topic at once.  The broker keeps the last publish
as the retained value and hands every publish to the subscribed device in order;
a SUBSCRIBE hands back the retained value first.  The device publishes on the
topic too: the echo of `runtime_config_apply_pending` and, with the discovery
messages it owes once per boot, the value in effect.
-/

set_option autoImplicit false

namespace SleepySensor.CfgTopic

open SleepySensor SleepySensor.Runs

/-- One parameter of `RuntimeConfig` other than `tx_power_dbm`: its slot, its
value in effect, its clamp, and the proof that `runtime_config_apply_pending`
treats it as `settle` and `merge` say. -/
structure CfgField (T : Type) [CppCmp T] where
  clamp : T → T
  slot : PendingCfg → Slot T
  current : RuntimeConfig → T
  message : T → CfgMessage
  received : ∀ (config : RuntimeConfig) (value : T),
    slot (config.onMqttData (message value)).pending = (slot config.pending).receive value
  applied : ∀ config : RuntimeConfig,
    current (config.mergeAll config.settleAll) =
      ((slot config.pending).settle clamp (current config)).merge (current config)

theorem rtcCalClampSamples_idem (samples : Nat) :
    rtcCalClampSamples (rtcCalClampSamples samples) = rtcCalClampSamples samples := by
  unfold rtcCalClampSamples
  split_ifs <;> simp_all

theorem rtcCalClampPeriodSec_range (periodSec : Nat) :
    rtcCalClampPeriodSec periodSec = 0 ∨
      rtcCalPeriodSecFloor ≤ rtcCalClampPeriodSec periodSec ∧
        rtcCalClampPeriodSec periodSec ≤ rtcCalPeriodSecMax := by
  simp only [rtcCalClampPeriodSec, rtcCalPeriodSecFloor, rtcCalPeriodSecMax]
  grind

theorem rtcCalClampPeriodSec_fixed {periodSec : Nat}
    (range : periodSec = 0 ∨ rtcCalPeriodSecFloor ≤ periodSec ∧ periodSec ≤ rtcCalPeriodSecMax) :
    rtcCalClampPeriodSec periodSec = periodSec := by
  simp only [rtcCalClampPeriodSec, rtcCalPeriodSecFloor, rtcCalPeriodSecMax] at *
  grind

theorem rtcCalClampPeriodSec_idem (periodSec : Nat) :
    rtcCalClampPeriodSec (rtcCalClampPeriodSec periodSec) = rtcCalClampPeriodSec periodSec :=
  rtcCalClampPeriodSec_fixed (rtcCalClampPeriodSec_range periodSec)

/-- The setter of `rtc_clock_fix.cpp` clamps a settled value a second time, to
no effect. -/
theorem clamped_merge {T : Type} [CppCmp T] (slot : Slot T) (clamp : T → T) (current : T)
    (idem : ∀ value, clamp (clamp value) = clamp value) :
    (if (slot.settle clamp current).set then clamp (slot.settle clamp current).value
      else current) = (slot.settle clamp current).merge current := by
  unfold Slot.settle
  by_cases received : slot.set = true
  · simp only [received, if_true, Slot.merge, idem]
  · simp [received, Slot.merge]

def tempOffsetField : CfgField Flt :=
  ⟨clampTempOffset, (·.tempOffset), (·.shadow.tempOffsetC), .tempOffset,
    fun _ _ => rfl, fun _ => rfl⟩

def tempMinChangeField : CfgField Flt :=
  ⟨clampTempMinChange, (·.tempMinChange), (·.shadow.tempMinChangeC), .tempMinChange,
    fun _ _ => rfl, fun _ => rfl⟩

def rhOffsetField : CfgField Flt :=
  ⟨clampRhOffset, (·.rhOffset), (·.shadow.rhOffsetPct), .rhOffset,
    fun _ _ => rfl, fun _ => rfl⟩

def rhMinChangeField : CfgField Flt :=
  ⟨clampRhMinChange, (·.rhMinChange), (·.shadow.rhMinChangePct), .rhMinChange,
    fun _ _ => rfl, fun _ => rfl⟩

def maxPublishGapSecField : CfgField Nat :=
  ⟨clampMaxPublishGapSec, (·.maxPublishGapSec), (·.maxPublishGapSec), .maxPublishGapSec,
    fun _ _ => rfl, fun _ => rfl⟩

def heaterPeriodField : CfgField Nat :=
  ⟨clampHeaterPeriod, (·.heaterPeriod), (·.heaterPeriodMinutes), .heaterPeriod,
    fun _ _ => rfl, fun _ => rfl⟩

def heaterHighRhField : CfgField Nat :=
  ⟨clampHeaterHighRh, (·.heaterHighRh), (·.heaterHighRhTriggerMinutes), .heaterHighRh,
    fun _ _ => rfl, fun _ => rfl⟩

def extAntennaField : CfgField Bool :=
  ⟨id, (·.extAntenna), (·.extAntennaOn), .extAntenna, fun _ _ => rfl, fun _ => rfl⟩

def sensorSamplesField : CfgField Nat :=
  ⟨clampSensorSamples, (·.sensorSamples), (·.shadow.sensorSamples), .sensorSamples,
    fun _ _ => rfl, fun _ => rfl⟩

def rtcCalSamplesField : CfgField Nat :=
  ⟨rtcCalClampSamples, (·.rtcCalSamples), (·.rtcSamples), .rtcCalSamples,
    fun _ _ => rfl, fun config =>
      clamped_merge config.pending.rtcCalSamples _ _ rtcCalClampSamples_idem⟩

def rtcCalPeriodSecField : CfgField Nat :=
  ⟨rtcCalClampPeriodSec, (·.rtcCalPeriodSec), (·.rtcPeriodSec), .rtcCalPeriodSec,
    fun _ _ => rfl, fun config =>
      clamped_merge config.pending.rtcCalPeriodSec _ _ rtcCalClampPeriodSec_idem⟩

/-! ## The topic -/

section Topic

variable {T : Type} [CppCmp T]

inductive Packet (T : Type) where
  | subscribe
  | publish (value : T)
  deriving DecidableEq, Repr

structure Topic (T : Type) where
  retained : Option T
  session : Bool
  subscribed : Bool
  toDevice : List T
  toBroker : List (Packet T)
  lastCommand : Option T
  connected : Bool
  sessionSubscribed : Bool
  discovered : Bool
  slot : Slot T
  current : T
  stored : Option T
  /-- The broker has answered a SUBSCRIBE since the last boot. -/
  handedBack : Bool
  deriving DecidableEq, Repr

inductive TopicAction (T : Type) where
  | command (value : T)
  | connect
  | discover
  | confirm
  | brokerReceive
  | deliver
  | applyPending
  | disconnect (kept : Nat)
  | reboot (kept : Nat)
  deriving DecidableEq, Repr

/-- A device that boots for the first time on a broker that may hold a value. -/
def powerUp (yamlOrDefault : T) (retained : Option T) : Topic T :=
  { retained := retained, session := false, subscribed := false, toDevice := []
    toBroker := [], lastCommand := none, connected := false, sessionSubscribed := false
    discovered := false, slot := { value := yamlOrDefault }, current := yamlOrDefault
    stored := none, handedBack := false }

/-- The subscribe decision of `run_publish_cycle` on a fresh connection. -/
def connect (topic : Topic T) : Topic T :=
  let sessionSubscribed := topic.session && topic.sessionSubscribed
  { topic with
    connected := true
    session := true
    sessionSubscribed := sessionSubscribed
    toBroker := if sessionSubscribed then topic.toBroker else topic.toBroker ++ [.subscribe] }

def brokerPublish (topic : Topic T) (value : T) : Topic T :=
  { topic with
    retained := some value
    toDevice := if topic.subscribed then topic.toDevice ++ [value] else topic.toDevice }

def brokerSubscribe (topic : Topic T) : Topic T :=
  { topic with
    subscribed := true
    toDevice := topic.toDevice ++ topic.retained.toList
    handedBack := true }

/-- `runtime_config_apply_pending` for this parameter: what it applies it
persists, and what it settles with an echo it publishes. -/
def applyPending (field : CfgField T) (topic : Topic T) : Topic T :=
  let settled := topic.slot.settle field.clamp topic.current
  { topic with
    current := settled.merge topic.current
    stored := if settled.set then some settled.value else topic.stored
    toBroker :=
      if settled.echo then topic.toBroker ++ [.publish settled.value] else topic.toBroker
    slot := { value := topic.slot.value } }

/-- A reboot loses RAM: the pending slot and the packets not yet sent. -/
def reboot (yamlOrDefault : T) (topic : Topic T) (kept : Nat) : Topic T :=
  { topic with
    connected := false
    toBroker := topic.toBroker.take kept
    sessionSubscribed := false
    discovered := false
    slot := { value := yamlOrDefault }
    current := topic.stored.getD yamlOrDefault
    handedBack := false }

def step (field : CfgField T) (yamlOrDefault : T) (topic : Topic T) :
    TopicAction T → Option (Topic T)
  | .command value => some { brokerPublish topic value with lastCommand := some value }
  | .connect => if topic.connected then none else some (connect topic)
  | .discover =>
    if topic.connected && !topic.discovered then
      some { topic with toBroker := topic.toBroker ++ [.publish topic.current] }
    else none
  | .confirm =>
    -- the state PUBACK follows everything this connection sent before it
    if topic.connected && topic.toBroker.isEmpty then
      some { topic with discovered := true, sessionSubscribed := true }
    else none
  | .brokerReceive =>
    match topic.toBroker with
    | [] => none
    | .subscribe :: rest => some (brokerSubscribe { topic with toBroker := rest })
    | .publish value :: rest => some (brokerPublish { topic with toBroker := rest } value)
  | .deliver =>
    match topic.toDevice with
    | [] => none
    | value :: rest =>
      if topic.connected then
        some { topic with toDevice := rest, slot := topic.slot.receive value }
      else none
  | .applyPending => if topic.connected then some (applyPending field topic) else none
  | .disconnect kept =>
    if topic.connected then
      some { topic with connected := false, toBroker := topic.toBroker.take kept }
    else none
  | .reboot kept => some (reboot yamlOrDefault topic kept)

/-- Subscribed in this boot, nothing in flight, nothing pending. -/
def Quiescent (topic : Topic T) : Prop :=
  topic.sessionSubscribed = true ∧ topic.toBroker = [] ∧ topic.toDevice = [] ∧
    topic.slot.set = false

instance quiescentDecidable (topic : Topic T) : Decidable (Quiescent topic) :=
  decidable_of_iff (topic.sessionSubscribed = true ∧ topic.toBroker.isEmpty = true ∧
      topic.toDevice.isEmpty = true ∧ topic.slot.set = false)
    (by simp [Quiescent])

/-- The device works with Home Assistant's latest command. -/
def CommandInEffect (field : CfgField T) (topic : Topic T) : Prop :=
  ∀ command, topic.lastCommand = some command → topic.current = field.clamp command

/-- What the broker is about to process from the device, if a publish, brings the
same value into effect as Home Assistant's latest command. -/
def PublishesCommand (field : CfgField T) (topic : Topic T) : TopicAction T → Prop
  | .brokerReceive =>
    match topic.toBroker, topic.lastCommand with
    | .publish value :: _, some command => field.clamp value = field.clamp command
    | _, _ => True
  | _ => True

instance publishesCommandDecidable [DecidableEq T] (field : CfgField T) (topic : Topic T) :
    ∀ action, Decidable (PublishesCommand field topic action)
  | .brokerReceive =>
    match head : topic.toBroker, last : topic.lastCommand with
    | .publish value :: _, some command =>
      decidable_of_iff (field.clamp value = field.clamp command)
        (by simp [PublishesCommand, head, last])
    | [], _ => isTrue (by simp [PublishesCommand, head])
    | .subscribe :: _, _ => isTrue (by simp [PublishesCommand, head])
    | .publish _ :: _, none => isTrue (by simp [PublishesCommand, head, last])
  | .command _ => isTrue trivial
  | .connect => isTrue trivial
  | .discover => isTrue trivial
  | .confirm => isTrue trivial
  | .deliver => isTrue trivial
  | .applyPending => isTrue trivial
  | .disconnect _ => isTrue trivial
  | .reboot _ => isTrue trivial

/-- The value the device ends up with once `toDevice` is delivered and applied. -/
def settlesAt (clamp : T → T) (slot : Slot T) (current : T) : List T → T
  | [] => if slot.set then clamp slot.value else current
  | value :: rest => settlesAt clamp (slot.receive value) current rest

omit [CppCmp T] in
theorem settlesAt_append (clamp : T → T) (slot : Slot T) (current : T) (queue : List T)
    (value : T) : settlesAt clamp slot current (queue ++ [value]) = clamp value := by
  induction queue generalizing slot with
  | nil => rfl
  | cons first rest ih => exact ih (slot.receive first)

theorem settlesAt_apply (clamp : T → T) (slot : Slot T) (current : T) (queue : List T) :
    settlesAt clamp { value := slot.value } ((slot.settle clamp current).merge current) queue =
      settlesAt clamp slot current queue := by
  have dropped : ∀ (tail : List T) (before after : Slot T) (one other : T), tail ≠ [] →
      settlesAt clamp before one tail = settlesAt clamp after other tail := by
    intro tail before after one other nonempty
    obtain ⟨front, last, rfl⟩ := List.eq_nil_or_concat tail |>.resolve_left nonempty
    rw [List.concat_eq_append, settlesAt_append, settlesAt_append]
  cases queue with
  | nil =>
    cases received : slot.set with
    | true =>
      rw [Slot.settle_merge slot clamp current received]
      simp [settlesAt, received]
    | false =>
      rw [Slot.settle_merge_unset slot clamp current received]
      simp [settlesAt, received]
  | cons value rest => exact dropped (value :: rest) _ _ _ _ (by simp)

structure TopicInv (field : CfgField T) (yamlOrDefault : T) (topic : Topic T) : Prop where
  retained : ∀ command, topic.lastCommand = some command →
    ∃ value, topic.retained = some value ∧ field.clamp value = field.clamp command
  pipeline : topic.handedBack = true → ∀ command, topic.lastCommand = some command →
    settlesAt field.clamp topic.slot topic.current topic.toDevice = field.clamp command
  subscribed : topic.handedBack = true → topic.subscribed = true
  confirmed : topic.sessionSubscribed = true → topic.handedBack = true
  asked : topic.connected = true → topic.handedBack = true ∨ .subscribe ∈ topic.toBroker
  persisted : topic.current = topic.stored.getD yamlOrDefault

variable {field : CfgField T} {yamlOrDefault : T} {topic : Topic T}

theorem powerUp_inv (field : CfgField T) (yamlOrDefault : T) (retained : Option T) :
    TopicInv field yamlOrDefault (powerUp yamlOrDefault retained) where
  retained := fun _ none => by cases none
  pipeline := fun handed => by cases handed
  subscribed := fun handed => by cases handed
  confirmed := fun sub => by cases sub
  asked := fun conn => by cases conn
  persisted := rfl

theorem command_inv (inv : TopicInv field yamlOrDefault topic) (value : T) :
    TopicInv field yamlOrDefault { brokerPublish topic value with lastCommand := some value } where
  retained := fun command last => ⟨value, rfl, by cases last; rfl⟩
  pipeline := fun handed command last => by
    have subscribed : topic.subscribed = true := inv.subscribed handed
    cases last
    simp only [brokerPublish, subscribed, if_true]
    exact settlesAt_append _ _ _ _ _
  subscribed := inv.subscribed
  confirmed := inv.confirmed
  asked := inv.asked
  persisted := inv.persisted

theorem connect_inv (inv : TopicInv field yamlOrDefault topic) :
    TopicInv field yamlOrDefault (connect topic) where
  retained := inv.retained
  pipeline := inv.pipeline
  subscribed := inv.subscribed
  confirmed := fun sub => inv.confirmed (by
    simp only [connect, Bool.and_eq_true] at sub
    exact sub.2)
  asked := fun _ => by
    cases both : topic.session && topic.sessionSubscribed with
    | true =>
      simp only [Bool.and_eq_true] at both
      exact Or.inl (inv.confirmed both.2)
    | false => exact Or.inr (by simp [connect, both])
  persisted := inv.persisted

theorem discover_inv (inv : TopicInv field yamlOrDefault topic) :
    TopicInv field yamlOrDefault
      { topic with toBroker := topic.toBroker ++ [.publish topic.current] } where
  retained := inv.retained
  pipeline := inv.pipeline
  subscribed := inv.subscribed
  confirmed := inv.confirmed
  asked := fun conn => (inv.asked conn).imp id fun sub => List.mem_append_left _ sub
  persisted := inv.persisted

theorem confirm_inv (inv : TopicInv field yamlOrDefault topic) (connected : topic.connected = true)
    (drained : topic.toBroker = []) :
    TopicInv field yamlOrDefault { topic with discovered := true, sessionSubscribed := true } where
  retained := inv.retained
  pipeline := inv.pipeline
  subscribed := inv.subscribed
  confirmed := fun _ => (inv.asked connected).resolve_right (by simp [drained])
  asked := inv.asked
  persisted := inv.persisted

theorem brokerSubscribe_inv {rest : List (Packet T)} (inv : TopicInv field yamlOrDefault topic) :
    TopicInv field yamlOrDefault (brokerSubscribe { topic with toBroker := rest }) where
  retained := inv.retained
  pipeline := fun _ command last => by
    obtain ⟨value, held, same⟩ := inv.retained command last
    simp only [brokerSubscribe, held, Option.toList_some]
    rw [settlesAt_append, same]
  subscribed := fun _ => rfl
  confirmed := fun _ => rfl
  asked := fun _ => Or.inl rfl
  persisted := inv.persisted

theorem brokerPublish_inv {rest : List (Packet T)} {value : T}
    (inv : TopicInv field yamlOrDefault topic) (head : topic.toBroker = .publish value :: rest)
    (met : ∀ command, topic.lastCommand = some command →
      field.clamp value = field.clamp command) :
    TopicInv field yamlOrDefault (brokerPublish { topic with toBroker := rest } value) where
  retained := fun command last => ⟨value, rfl, met command last⟩
  pipeline := fun handed command last => by
    have subscribed : topic.subscribed = true := inv.subscribed handed
    simp only [brokerPublish, subscribed, if_true]
    rw [settlesAt_append]
    exact met command last
  subscribed := inv.subscribed
  confirmed := inv.confirmed
  asked := fun conn => (inv.asked conn).imp id fun sub => by
    rw [head] at sub
    exact (List.mem_cons.mp sub).resolve_left (by simp)
  persisted := inv.persisted

theorem deliver_inv {value : T} {rest : List T} (inv : TopicInv field yamlOrDefault topic)
    (head : topic.toDevice = value :: rest) :
    TopicInv field yamlOrDefault
      { topic with toDevice := rest, slot := topic.slot.receive value } where
  retained := inv.retained
  pipeline := fun handed command last => by
    have reached := inv.pipeline handed command last
    rw [head] at reached
    exact reached
  subscribed := inv.subscribed
  confirmed := inv.confirmed
  asked := inv.asked
  persisted := inv.persisted

theorem applyPending_inv (inv : TopicInv field yamlOrDefault topic) :
    TopicInv field yamlOrDefault (applyPending field topic) where
  retained := inv.retained
  pipeline := fun handed command last => by
    have reached := inv.pipeline handed command last
    simp only [applyPending]
    rw [settlesAt_apply]
    exact reached
  subscribed := inv.subscribed
  confirmed := inv.confirmed
  asked := fun conn => (inv.asked conn).imp id fun sub => by
    simp only [applyPending]
    split
    · exact List.mem_append_left _ sub
    · exact sub
  persisted := by
    simp only [applyPending, Slot.merge]
    split
    · rfl
    · exact inv.persisted

theorem disconnect_inv (inv : TopicInv field yamlOrDefault topic) (kept : Nat) :
    TopicInv field yamlOrDefault
      { topic with connected := false, toBroker := topic.toBroker.take kept } where
  retained := inv.retained
  pipeline := inv.pipeline
  subscribed := inv.subscribed
  confirmed := inv.confirmed
  asked := fun conn => by cases conn
  persisted := inv.persisted

theorem reboot_inv (inv : TopicInv field yamlOrDefault topic) (kept : Nat) :
    TopicInv field yamlOrDefault (reboot yamlOrDefault topic kept) where
  retained := inv.retained
  pipeline := fun handed => by cases handed
  subscribed := fun handed => by cases handed
  confirmed := fun sub => by cases sub
  asked := fun conn => by cases conn
  persisted := rfl

theorem step_inv (topic : Topic T) (action : TopicAction T) (next : Topic T)
    (inv : TopicInv field yamlOrDefault topic) (met : PublishesCommand field topic action)
    (taken : step field yamlOrDefault topic action = some next) :
    TopicInv field yamlOrDefault next := by
  cases action with
  | command value =>
    cases Option.some.inj taken
    exact command_inv inv value
  | connect =>
    simp only [step, Option.ite_none_left_eq_some] at taken
    cases taken.2
    exact connect_inv inv
  | discover =>
    simp only [step, Option.ite_none_right_eq_some] at taken
    cases taken.2
    exact discover_inv inv
  | confirm =>
    simp only [step, Option.ite_none_right_eq_some, Bool.and_eq_true,
      List.isEmpty_iff] at taken
    obtain ⟨⟨connected, drained⟩, result⟩ := taken
    cases result
    exact confirm_inv inv connected drained
  | brokerReceive =>
    simp only [step] at taken
    split at taken
    · cases taken
    · cases taken
      exact brokerSubscribe_inv inv
    · rename_i value rest head
      cases taken
      have agreed : ∀ command, topic.lastCommand = some command →
          field.clamp value = field.clamp command := by
        intro command last
        simpa [PublishesCommand, head, last] using met
      exact brokerPublish_inv inv head agreed
  | deliver =>
    simp only [step] at taken
    split at taken
    · cases taken
    · rename_i value rest head
      simp only [Option.ite_none_right_eq_some] at taken
      cases taken.2
      exact deliver_inv inv head
  | applyPending =>
    simp only [step, Option.ite_none_right_eq_some] at taken
    cases taken.2
    exact applyPending_inv inv
  | disconnect kept =>
    simp only [step, Option.ite_none_right_eq_some] at taken
    cases taken.2
    exact disconnect_inv inv kept
  | reboot kept =>
    cases taken
    exact reboot_inv inv kept

theorem command_in_effect_of_inv (inv : TopicInv field yamlOrDefault topic)
    (quiet : Quiescent topic) : CommandInEffect field topic := by
  intro command last
  obtain ⟨subscribed, _, delivered, settled⟩ := quiet
  have reached := inv.pipeline (inv.confirmed subscribed) command last
  rw [delivered] at reached
  simpa [settlesAt, settled] using reached

/-- In every run in which no publish of the device overtakes a command on the
broker, a quiescent device works with the latest command. -/
theorem command_in_effect {retained : Option T} {actions : List (TopicAction T)}
    {final : Topic T}
    (met : Along (step field yamlOrDefault) (PublishesCommand field)
      (powerUp yamlOrDefault retained) actions)
    (ran : run (step field yamlOrDefault) (powerUp yamlOrDefault retained) actions = some final)
    (quiet : Quiescent final) : CommandInEffect field final :=
  command_in_effect_of_inv
    (along_invariant (TopicInv field yamlOrDefault) step_inv
      (powerUp_inv field yamlOrDefault retained) met ran) quiet

end Topic

/-- Home Assistant commands a gap of 60 s while the device sleeps, and the next
wake takes it over. -/
theorem command_in_effect_asleep :
    ∃ final, run (step maxPublishGapSecField 300) (powerUp 300 none)
        [.connect, .brokerReceive, .confirm, .disconnect 0, .command 60, .connect, .deliver,
          .applyPending, .brokerReceive, .deliver, .applyPending] = some final ∧
      CommandInEffect maxPublishGapSecField final := by
  obtain ⟨final, ran, quiet⟩ := exists_final (fun final => decide (Quiescent final))
    (show (run (step maxPublishGapSecField 300) (powerUp 300 none)
        [.connect, .brokerReceive, .confirm, .disconnect 0, .command 60, .connect, .deliver,
          .applyPending, .brokerReceive, .deliver, .applyPending]).any _ = true by decide)
  exact ⟨final, ran, command_in_effect (by decide) ran (of_decide_eq_true quiet)⟩

/-- The gap is commanded while the device is off.  The SUBSCRIBE of the next boot
hands the command back; the current value, published with the discovery messages
of the same cycle, follows it into the one pending slot and onto the broker. -/
theorem command_lost_while_off :
    ∃ final, run (step maxPublishGapSecField 300) (powerUp 300 none)
        [.command 60, .connect, .discover, .brokerReceive, .brokerReceive, .deliver, .deliver,
          .confirm, .applyPending] = some final ∧
      Quiescent final ∧ final.lastCommand = some 60 ∧ final.current = 300 ∧
      ¬ CommandInEffect maxPublishGapSecField final := by
  obtain ⟨final, ran, reached⟩ := exists_final
    (fun final => decide (Quiescent final ∧ final.lastCommand = some 60 ∧ final.current = 300))
    (show (run (step maxPublishGapSecField 300) (powerUp 300 none)
        [.command 60, .connect, .discover, .brokerReceive, .brokerReceive, .deliver, .deliver,
          .confirm, .applyPending]).any _ = true by decide)
  obtain ⟨quiet, last, current⟩ := of_decide_eq_true reached
  refine ⟨final, ran, quiet, last, current, fun inEffect => ?_⟩
  have clamped : final.current = clampMaxPublishGapSec 60 := inEffect 60 last
  rw [current] at clamped
  exact absurd clamped (by decide)

end SleepySensor.CfgTopic
