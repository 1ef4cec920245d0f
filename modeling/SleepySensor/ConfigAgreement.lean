import SleepySensor.EchoExchange

/-!
# Home Assistant and the device at rest

One boot on a `cfg/*` topic whose packets all arrive, in order.  Commands, echoes
and the current value cross on it; once everything is delivered and applied the
broker's retained value is compared with the value in effect.
-/

set_option autoImplicit false

namespace SleepySensor.CfgTopic

open SleepySensor SleepySensor.Runs EchoExchange

section Rest

variable {T : Type} [CppCmp T]

/-- The boot goes on, and what the device has sent arrives. -/
def Lossless (topic : Topic T) : TopicAction T → Prop
  | .disconnect kept => topic.toBroker.length ≤ kept
  | .reboot _ => False
  | _ => True

instance (topic : Topic T) (action : TopicAction T) : Decidable (Lossless topic action) := by
  unfold Lossless
  split <;> infer_instance

/-- Subscribed in this boot, nothing in flight, nothing pending. -/
def AtRest (topic : Topic T) : Prop :=
  topic.handedBack = true ∧ topic.toBroker = [] ∧ topic.toDevice = [] ∧ topic.slot.set = false

def Agrees (topic : Topic T) : Prop :=
  ∀ value, topic.retained = some value → topic.current = value

/-- A boot with this value in effect, after whatever went on before it. -/
def bootTopic (value : T) (before : Topic T) (kept : Nat) : Topic T :=
  { reboot value before kept with current := value }

/-- The device is on its way to `value`: it is the last one queued, or the
pending one, or in effect unless something the device sent is about to replace
it on the broker. -/
def Follows (topic : Topic T) (value : T) : Prop :=
  topic.toDevice.getLast? = some value ∨
    topic.toDevice = [] ∧
      (topic.slot.set = true ∧ topic.slot.value = value ∨
        topic.slot.set = false ∧
          (topic.current = value ∨ ∃ sent, Packet.publish sent ∈ topic.toBroker))

structure RestInv (field : EchoedField T) (topic : Topic T) : Prop where
  clamped : field.clamp topic.current = topic.current
  fresh : topic.slot.echo = false
  subscribed : topic.handedBack = true → topic.subscribed = true
  follows : topic.handedBack = true → ∀ value, topic.retained = some value → Follows topic value

variable {field : EchoedField T} {topic : Topic T}

omit [CppCmp T] in
theorem follows_queued (queue : List T) {value : T} (queued : topic.toDevice = queue ++ [value]) :
    Follows topic value :=
  Or.inl (by rw [queued, List.getLast?_concat])

omit [CppCmp T] in
theorem follows_mono {value : T} {sent : List (Packet T)} (follows : Follows topic value)
    (more : ∀ packet ∈ topic.toBroker, packet ∈ sent) :
    Follows { topic with toBroker := sent } value := by
  rcases follows with queued | ⟨delivered, pending | ⟨unset, current | ⟨other, member⟩⟩⟩
  · exact Or.inl queued
  · exact Or.inr ⟨delivered, Or.inl pending⟩
  · exact Or.inr ⟨delivered, Or.inr ⟨unset, Or.inl current⟩⟩
  · exact Or.inr ⟨delivered, Or.inr ⟨unset, Or.inr ⟨other, more _ member⟩⟩⟩

theorem restInv_boot (value : T) (before : Topic T) (kept : Nat)
    (inRange : field.clamp value = value) : RestInv field (bootTopic value before kept) where
  clamped := inRange
  fresh := rfl
  subscribed := fun handed => by cases handed
  follows := fun handed => by cases handed

theorem restInv_publish (rest : List (Packet T)) (inv : RestInv field topic) (value : T) :
    RestInv field (brokerPublish { topic with toBroker := rest } value) where
  clamped := inv.clamped
  fresh := inv.fresh
  subscribed := inv.subscribed
  follows := fun handed other retained => by
    obtain rfl : value = other := Option.some.inj retained
    have subscribed : topic.subscribed = true := inv.subscribed handed
    apply follows_queued topic.toDevice
    simp only [brokerPublish, subscribed, if_true]

theorem restInv_subscribe {rest : List (Packet T)} (inv : RestInv field topic) :
    RestInv field (brokerSubscribe { topic with toBroker := rest }) where
  clamped := inv.clamped
  fresh := inv.fresh
  subscribed := fun _ => rfl
  follows := fun _ value retained => by
    have held : topic.retained = some value := retained
    apply follows_queued topic.toDevice
    simp only [brokerSubscribe, held, Option.toList_some]

theorem restInv_deliver {value : T} {rest : List T} (inv : RestInv field topic)
    (head : topic.toDevice = value :: rest) :
    RestInv field { topic with toDevice := rest, slot := topic.slot.receive value } where
  clamped := inv.clamped
  fresh := inv.fresh
  subscribed := inv.subscribed
  follows := fun handed last retained => by
    rcases inv.follows handed last retained with queued | ⟨delivered, _⟩
    · rw [head] at queued
      cases rest with
      | nil =>
        obtain rfl : value = last := Option.some.inj queued
        exact Or.inr ⟨rfl, Or.inl ⟨rfl, rfl⟩⟩
      | cons second later =>
        rw [List.getLast?_cons_cons] at queued
        exact Or.inl queued
    · cases head.symm.trans delivered

/-- The one step that needs the value in effect to be in range: received as it
is, it is not echoed, and its clamp is applied. -/
theorem restInv_apply (inv : RestInv field topic) :
    RestInv field (applyPending field.toCfgField topic) := by
  obtain ⟨clamped, fresh, subscribed, follows⟩ := inv
  cases received : topic.slot.set with
  | false =>
    have idle : topic.slot.settle field.clamp topic.current = topic.slot := by
      simp [Slot.settle, received]
    have same : applyPending field.toCfgField topic =
        { topic with slot := { value := topic.slot.value } } := by
      simp [applyPending, idle, Slot.merge, received, fresh]
    rw [same]
    refine ⟨clamped, rfl, subscribed, fun handed value retained => ?_⟩
    rcases follows handed value retained with queued | ⟨delivered, ⟨set, _⟩ | ⟨_, settled⟩⟩
    · exact Or.inl queued
    · cases received.symm.trans set
    · exact Or.inr ⟨delivered, Or.inr ⟨rfl, settled⟩⟩
  | true =>
    have merged := Slot.settle_merge topic.slot field.clamp topic.current received
    have echoed : (topic.slot.settle field.clamp topic.current).echo =
        CppCmp.ne topic.slot.value topic.current := by
      simp [Slot.settle, received]
    constructor
    · show field.clamp ((topic.slot.settle field.clamp topic.current).merge topic.current) = _
      rw [merged, field.idem]
      exact merged.symm
    · rfl
    · exact subscribed
    · intro handed value retained
      rcases follows handed value retained with queued | ⟨delivered, ⟨_, pending⟩ | ⟨unset, _⟩⟩
      · exact Or.inl queued
      · refine Or.inr ⟨delivered, Or.inr ⟨rfl, ?_⟩⟩
        cases differs : CppCmp.ne topic.slot.value topic.current with
        | true =>
          refine Or.inr ⟨(topic.slot.settle field.clamp topic.current).value, ?_⟩
          simp [applyPending, echoed, differs]
        | false =>
          have current : topic.slot.value = topic.current := CppCmp.eq_of_ne_false _ _ differs
          apply Or.inl
          show (topic.slot.settle field.clamp topic.current).merge topic.current = value
          rw [merged, current, clamped, ← current, pending]
      · cases unset.symm.trans received

theorem restInv_step (value : T) (topic : Topic T) (action : TopicAction T) (next : Topic T)
    (inv : RestInv field topic) (lossless : Lossless topic action)
    (taken : step field.toCfgField value topic action = some next) : RestInv field next := by
  cases action with
  | command command =>
    cases Option.some.inj taken
    obtain ⟨clamped, fresh, subscribed, follows⟩ :=
      restInv_publish topic.toBroker inv command
    exact ⟨clamped, fresh, subscribed, follows⟩
  | connect =>
    simp only [step, Option.ite_none_left_eq_some] at taken
    cases taken.2
    refine ⟨inv.clamped, inv.fresh, inv.subscribed, fun handed value retained => ?_⟩
    have more : ∀ packet ∈ topic.toBroker, packet ∈ (connect topic).toBroker := by
      intro packet member
      simp only [connect]
      split
      · exact member
      · exact List.mem_append_left _ member
    exact follows_mono (inv.follows handed value retained) more
  | discover =>
    simp only [step, Option.ite_none_right_eq_some] at taken
    cases taken.2
    refine ⟨inv.clamped, inv.fresh, inv.subscribed, fun handed value retained => ?_⟩
    exact follows_mono (inv.follows handed value retained) fun packet => List.mem_append_left _
  | confirm =>
    simp only [step, Option.ite_none_right_eq_some] at taken
    cases taken.2
    exact ⟨inv.clamped, inv.fresh, inv.subscribed, inv.follows⟩
  | brokerReceive =>
    simp only [step] at taken
    split at taken
    · cases taken
    · cases taken
      exact restInv_subscribe inv
    · cases taken
      exact restInv_publish _ inv _
  | deliver =>
    simp only [step] at taken
    split at taken
    · cases taken
    · rename_i first rest head
      simp only [Option.ite_none_right_eq_some] at taken
      cases taken.2
      exact restInv_deliver inv head
  | applyPending =>
    simp only [step, Option.ite_none_right_eq_some] at taken
    cases taken.2
    exact restInv_apply inv
  | disconnect kept =>
    simp only [step, Option.ite_none_right_eq_some] at taken
    cases taken.2
    rw [List.take_of_length_le lossless]
    exact ⟨inv.clamped, inv.fresh, inv.subscribed, inv.follows⟩
  | reboot kept => exact lossless.elim

theorem agrees_of_inv (inv : RestInv field topic) (rest : AtRest topic) : Agrees topic := by
  intro value retained
  obtain ⟨handed, arrived, delivered, settled⟩ := rest
  rcases inv.follows handed value retained with queued | ⟨_, ⟨set, _⟩ | ⟨_, current | ⟨_, sent⟩⟩⟩
  · rw [delivered] at queued
    cases queued
  · cases settled.symm.trans set
  · exact current
  · rw [arrived] at sent
    cases sent

/-! ## A run that leads away from the value in effect -/

theorem lossless_along {value : T} {actions : List (TopicAction T)}
    (all : ∀ action ∈ actions, ∀ topic : Topic T, Lossless topic action) (start : Topic T) :
    Along (step field.toCfgField value) Lossless start actions := by
  induction actions generalizing start with
  | nil => trivial
  | cons action rest ih =>
    refine ⟨all action List.mem_cons_self start, fun next _ => ?_⟩
    exact ih (fun other member => all other (List.mem_cons_of_mem _ member)) next

theorem flush (field : CfgField T) (value : T) (topic : Topic T)
    (asked : topic.handedBack = true ∧ topic.subscribed = true ∨
      Packet.subscribe ∈ topic.toBroker) :
    ∃ final, run (step field value) topic
        (List.replicate topic.toBroker.length .brokerReceive) = some final ∧
      final.toBroker = [] ∧ final.handedBack = true ∧ final.subscribed = true ∧
      final.current = topic.current ∧ final.slot = topic.slot ∧
      final.connected = topic.connected := by
  generalize sent : topic.toBroker = packets
  induction packets generalizing topic with
  | nil =>
    rw [sent] at asked
    obtain ⟨handed, subscribed⟩ := asked.resolve_right (by simp)
    exact ⟨topic, rfl, sent, handed, subscribed, rfl, rfl, rfl⟩
  | cons packet rest ih =>
    simp only [List.length_cons, List.replicate_succ, run]
    cases packet with
    | subscribe =>
      have taken : step field value topic .brokerReceive =
          some (brokerSubscribe { topic with toBroker := rest }) := by
        simp only [step, sent]
      rw [taken]
      exact ih (brokerSubscribe { topic with toBroker := rest }) (Or.inl ⟨rfl, rfl⟩) rfl
    | publish other =>
      have taken : step field value topic .brokerReceive =
          some (brokerPublish { topic with toBroker := rest } other) := by
        simp only [step, sent]
      rw [taken]
      refine ih (brokerPublish { topic with toBroker := rest } other) (asked.imp id ?_) rfl
      intro member
      rw [sent] at member
      exact (List.mem_cons.mp member).resolve_left (by simp)

theorem drain (field : CfgField T) (value : T) (topic : Topic T) (queue : List T) (last : T)
    (connected : topic.connected = true) (queued : topic.toDevice = queue ++ [last]) :
    ∃ final, run (step field value) topic (List.replicate (queue.length + 1) .deliver) =
        some final ∧
      final.toDevice = [] ∧ final.slot = { set := true, value := last, echo := topic.slot.echo } ∧
      final.connected = true ∧ final.handedBack = topic.handedBack ∧
      final.toBroker = topic.toBroker ∧ final.current = topic.current ∧
      final.retained = topic.retained := by
  induction queue generalizing topic with
  | nil =>
    have head : topic.toDevice = [last] := queued
    refine ⟨{ topic with toDevice := [], slot := topic.slot.receive last }, ?_, rfl, rfl, connected,
      rfl, rfl, rfl, rfl⟩
    simp [List.replicate_succ, run, step, head, connected]
  | cons first rest ih =>
    have head : topic.toDevice = first :: (rest ++ [last]) := queued
    have taken : step field value topic .deliver =
        some { topic with toDevice := rest ++ [last], slot := topic.slot.receive first } := by
      simp [step, head, connected]
    rw [List.length_cons, List.replicate_succ, run, taken]
    exact ih { topic with toDevice := rest ++ [last], slot := topic.slot.receive first }
      connected rfl

/-- Home Assistant sends the value that is in effect: it is not echoed, but its
clamp is applied. -/
theorem run_disagrees (value : T) (before : Topic T) (kept : Nat)
    (equal : CppCmp.ne value value = false) (outside : field.clamp value ≠ value) :
    ∃ actions final, Along (step field.toCfgField value) Lossless (bootTopic value before kept)
        actions ∧
      run (step field.toCfgField value) (bootTopic value before kept) actions = some final ∧
      AtRest final ∧ ¬ Agrees final := by
  have asked : Packet.subscribe ∈ (connect (bootTopic value before kept)).toBroker := by
    simp [connect, bootTopic, reboot]
  obtain ⟨flushed, ranFlush, arrived, handed, subscribed, current, slot, connected⟩ :=
    flush field.toCfgField value (connect (bootTopic value before kept)) (Or.inr asked)
  have queued : (brokerPublish flushed value).toDevice = flushed.toDevice ++ [value] := by
    simp [brokerPublish, subscribed]
  obtain ⟨drained, ranDrain, delivered, pending, still, answered, silent, kept', retained⟩ :=
    drain field.toCfgField value { brokerPublish flushed value with lastCommand := some value }
      flushed.toDevice value connected queued
  have applied : step field.toCfgField value drained .applyPending =
      some (applyPending field.toCfgField drained) := if_pos still
  have inEffect : drained.current = value := kept'.trans current
  have settled : drained.slot.settle field.clamp drained.current =
      { set := CppCmp.ne (field.clamp value) value
        value := field.clamp value, echo := false } := by
    rw [inEffect, pending]
    simp [Slot.settle, equal]
  refine ⟨.connect :: (List.replicate (connect (bootTopic value before kept)).toBroker.length
      .brokerReceive ++ .command value ::
        (List.replicate (flushed.toDevice.length + 1) .deliver ++ [.applyPending])),
    applyPending field.toCfgField drained, ?_, ?_, ?_, ?_⟩
  · apply lossless_along
    intro action member topic
    simp only [List.mem_cons, List.mem_append, List.mem_replicate, List.not_mem_nil,
      or_false] at member
    rcases member with rfl | ⟨_, rfl⟩ | rfl | ⟨_, rfl⟩ | rfl <;> trivial
  · show (run _ (connect (bootTopic value before kept)) _ : Option (Topic T)) = _
    rw [run_append, ranFlush]
    show (run _ { brokerPublish flushed value with lastCommand := some value } _ :
      Option (Topic T)) = _
    rw [run_append, ranDrain, Option.bind_some, run, applied]
    rfl
  · refine ⟨answered.trans handed, ?_, delivered, rfl⟩
    simp only [applyPending, settled]
    exact silent.trans arrived
  · intro agrees
    have same : (drained.slot.settle field.clamp drained.current).merge drained.current = value :=
      agrees value retained
    rw [Slot.settle_merge _ _ _ (by rw [pending]), pending] at same
    exact outside same

end Rest

def bootValue (field : EchoedField Nat) (yaml : DeviceYaml) (nvs : Nvs) : Nat :=
  field.current (RuntimeConfig.boot yaml nvs)

/-- In one boot, whatever went on before it: every rest shows the broker's value
in effect, exactly if the value that was resolved at boot is in range. -/
theorem agree_at_rest_iff (field : EchoedField Nat) (yaml : DeviceYaml) (nvs : Nvs)
    (before : Topic Nat) (kept : Nat) :
    (∀ actions final,
      Along (step field.toCfgField (bootValue field yaml nvs)) Lossless
        (bootTopic (bootValue field yaml nvs) before kept) actions →
      run (step field.toCfgField (bootValue field yaml nvs))
        (bootTopic (bootValue field yaml nvs) before kept) actions = some final →
      AtRest final → Agrees final) ↔
    field.clamp (bootValue field yaml nvs) = bootValue field yaml nvs := by
  constructor
  · intro all
    by_contra outside
    obtain ⟨actions, final, lossless, ran, rest, differs⟩ :=
      run_disagrees (bootValue field yaml nvs) before kept (ne_self_nat _) outside
    exact differs (all actions final lossless ran rest)
  · intro inRange actions final lossless ran rest
    exact agrees_of_inv (along_invariant (RestInv field) (restInv_step _)
      (restInv_boot _ before kept inRange) lossless ran) rest

/-- A gap of 30000 s in `device_config.yaml`.  The device publishes it with the
discovery messages, gets it back, applies its clamp and echoes nothing. -/
theorem own_value_disagrees :
    ∃ final, run (step maxPublishGapSecField 30000) (bootTopic 30000 (powerUp 0 none) 0)
        [.connect, .brokerReceive, .discover, .brokerReceive, .deliver, .applyPending, .confirm] =
          some final ∧
      bootValue maxPublishGapSecEchoed { maxPublishGapSec := 30000 } Nvs.erased = 30000 ∧
      AtRest final ∧ final.retained = some 30000 ∧ final.current = 21600 ∧ ¬ Agrees final := by
  obtain ⟨final, ran, reached⟩ := exists_final
    (fun final : Topic Nat => decide (final.handedBack = true ∧ final.toBroker = [] ∧
      final.toDevice = [] ∧ final.slot.set = false ∧ final.retained = some 30000 ∧
      final.current = 21600))
    (show (run (step maxPublishGapSecField 30000) (bootTopic 30000 (powerUp 0 none) 0)
        [.connect, .brokerReceive, .discover, .brokerReceive, .deliver, .applyPending,
          .confirm]).any _ = true by decide)
  obtain ⟨handed, arrived, delivered, settled, retained, current⟩ := of_decide_eq_true reached
  refine ⟨final, ran, rfl, ⟨handed, arrived, delivered, settled⟩, retained, current, ?_⟩
  intro agrees
  have same := agrees 30000 retained
  rw [current] at same
  exact absurd same (by decide)

end SleepySensor.CfgTopic
