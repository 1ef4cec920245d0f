import SleepySensor.TxEvidence

/-!
# A revert of a TX power trial is for failures of the link

The rest of the steps keep the invariant of the evidence; runs in which a revert
rests on failures of the link, and one in which every state message was ACKed.
-/

set_option autoImplicit false

namespace SleepySensor.TxRevert

open HpSystem

variable {env : HpEnv} {system next : HpSystem} {pub after : Pub} {history later : History}

/-! ## The publish task -/

theorem Inv.pubMoved (inv : Inv system history) (running : system.mqtt.pub = some pub)
    (placed : Placed next) (moved : next.mqtt.pub = some after) (cycle : after.cycle = pub.cycle)
    (lastOk : next.mqtt.lastOk = system.mqtt.lastOk)
    (lastOkCycle : next.mqtt.lastOkCycle = system.mqtt.lastOkCycle)
    (sensor : next.sensor = system.sensor) (started : next.cyclesStarted = system.cyclesStarted)
    (tx : next.config.tx.hasPending = system.config.tx.hasPending ∧
      next.config.tx.unconfirmedCycles = system.config.tx.unconfirmedCycles)
    (busy : pub.pc ≠ .clearRunning) (facts : PubFacts later after)
    (carrying : later.carrying = history.carrying) (turn : later.turn = history.turn)
    (counted : later.counted = history.counted)
    (numbers : ∀ number, number ∈ later.connected ∨ number ∈ later.unacked →
      (number ∈ history.connected ∨ number ∈ history.unacked) ∨ number = pub.cycle)
    (lost : ∀ number, number < pub.cycle → Lost history number → Lost later number)
    (missed : system.config.tx.hasPending = true →
      ∀ number ∈ system.sensor.cycle.startedCycle, number ∈ later.unacked →
        number ∈ later.sent ∧ number ∉ later.acked)
    (real : system.config.tx.hasPending = true →
      ∀ turn ∈ history.counted, RealFailure later turn.2) : Inv next later := by
  have latest := inv.placed.latest pub running
  have older : ∀ number, Older system number → Older next number ∧ number < pub.cycle := by
    intro number below
    have strict := below.2 pub running busy
    refine ⟨⟨by rw [started]; exact below.1, ?_⟩, strict⟩
    rw [moved]
    rintro _ ⟨⟩ -
    rw [cycle]
    exact strict
  refine ⟨placed, ⟨?_, ?_, ?_, ?_⟩, ⟨?_, ?_, ?_, ?_, ?_⟩, ⟨?_, ?_, ?_, ?_, ?_⟩⟩
  · rw [carrying, started]
    rintro number (known | known)
    · exact inv.publish.numbers number (.inl known)
    · rcases numbers number known with before | rfl
      · exact inv.publish.numbers number (.inr before)
      · omega
  · rw [moved]
    rintro _ ⟨⟩
    exact facts
  · rw [lastOkCycle]
    exact fun number same => (older number (inv.publish.older number same)).1
  · rw [lastOk, lastOkCycle, carrying]
    intro failed number same member
    exact lost number (older number (inv.publish.older number same)).2
      (inv.publish.last failed number same member)
  · rw [sensor]
    exact fun number same => (older number (inv.sensor.older number same)).1
  · rw [sensor, carrying]
    intro failed number same member
    exact lost number (older number (inv.sensor.older number same)).2
      (inv.sensor.outcome failed number same member)
  · rw [sensor]
    exact inv.sensor.values
  · rw [sensor, started, carrying]
    exact inv.sensor.started
  · rw [sensor]
    exact inv.sensor.unsent
  · rw [tx.1, sensor]
    exact missed
  · rw [tx.1, counted]
    exact real
  · rw [tx.1, tx.2, counted]
    exact inv.trial.number
  · rw [counted]
    exact inv.trial.nodup
  · rw [counted, turn, sensor]
    exact inv.trial.turns

theorem Inv.pubQuiet (inv : Inv system history) (running : system.mqtt.pub = some pub)
    (placed : Placed next) (moved : next.mqtt.pub = some after) (cycle : after.cycle = pub.cycle)
    (lastOk : next.mqtt.lastOk = system.mqtt.lastOk)
    (lastOkCycle : next.mqtt.lastOkCycle = system.mqtt.lastOkCycle)
    (sensor : next.sensor = system.sensor) (started : next.cyclesStarted = system.cyclesStarted)
    (tx : next.config.tx.hasPending = system.config.tx.hasPending ∧
      next.config.tx.unconfirmedCycles = system.config.tx.unconfirmedCycles)
    (busy : pub.pc ≠ .clearRunning) (facts : PubFacts history after) : Inv next history :=
  inv.pubMoved running placed moved cycle lastOk lastOkCycle sensor started tx busy facts rfl rfl
    rfl
    (fun _ known => .inl known) (fun _ _ => id) inv.trial.missed inv.trial.real

theorem PubFacts.moved (facts : PubFacts history pub) {pc : PubPc}
    (early : connecting pc = true → connecting pub.pc = true) (notWaiting : pc ≠ .ackWait)
    (hopeful : rank pc ≤ 2 → rank pub.pc ≤ 2)
    (ended : 2 ≤ rank pc → 2 ≤ rank pub.pc ∨ connecting pub.pc = true) :
    PubFacts history { pub with pc := pc } := by
  refine ⟨facts.data, fun isEarly => facts.early (early isEarly),
    fun waiting => (notWaiting waiting).elim,
    fun isHopeful => facts.hopeful (hopeful isHopeful), ?_⟩
  intro late failed member
  rcases ended late with before | away
  · exact facts.ended before failed member
  · exact .inl (facts.early away)

theorem inv_connectWait (inv : Inv system history) (running : system.mqtt.pub = some pub)
    (at_ : pub.pc = .connecting) (met : LinkReported (system, history) (.pub .connectWait))
    (placed : Placed (system.atPubPc pub
      (if system.mqtt.connectedBit then .subscribing else .closing))) :
    Inv (system.atPubPc pub (if system.mqtt.connectedBit then .subscribing else .closing))
      (record system (.pub .connectWait) history) := by
  have facts := inv.publish.pub pub running
  have busy : pub.pc ≠ .clearRunning := by rw [at_]; simp
  have recorded : record system (.pub .connectWait) history =
      if system.mqtt.connectedBit then
        { history with connected := pub.cycle :: history.connected }
      else history := by
    simp [record, running, recordPub]
  rw [recorded]
  cases connected : system.mqtt.connectedBit with
  | false =>
    rw [connected] at placed
    exact inv.pubQuiet running placed rfl rfl rfl rfl rfl rfl ⟨rfl, rfl⟩ busy
      (facts.moved (by rintro ⟨⟩) (by simp) (by rw [at_]; exact fun _ => Nat.zero_le _)
        (by rw [at_]; exact fun _ => .inr rfl))
  | true =>
    rw [connected] at placed
    have fresh : system.config.tx.hasPending = true → ∀ turn ∈ history.counted,
        turn.2 ≠ .publish (some pub.cycle) := by
      intro out turn member same
      have none := met out connected pub running
      unfold isCounted at none
      rw [List.any_eq_false] at none
      exact none turn member (by rw [same]; exact beq_self_eq_true _)
    refine inv.pubMoved running placed rfl rfl rfl rfl rfl rfl ⟨rfl, rfl⟩ busy ?_ rfl rfl rfl ?_ ?_
      inv.trial.missed ?_
    · refine ⟨facts.data, by rintro ⟨⟩, by rintro ⟨⟩, ?_, ?_⟩
      · exact fun _ => facts.hopeful (by rw [at_]; exact Nat.zero_le _)
      · intro late
        cases late
    · rintro number (member | member)
      · rcases List.mem_cons.mp member with same | before
        · exact .inr same
        · exact .inl (.inl before)
      · exact .inl (.inr member)
    · rintro number below (away | unacked)
      · refine .inl fun member => ?_
        rcases List.mem_cons.mp member with same | before
        · exact Nat.ne_of_lt below same
        · exact away before
      · exact .inr unacked
    · intro out turn member
      refine (inv.trial.real out turn member).mono (List.Subset.refl _) ?_ (List.Subset.refl _)
        (fun _ _ => id)
      intro number same now
      rcases List.mem_cons.mp now with rfl | before
      · exact (fresh out turn member same).elim
      · exact before

theorem inv_publishState (inv : Inv system history) (running : system.mqtt.pub = some pub)
    (at_ : pub.pc = .stating)
    (placed : Placed (system.enqueue pub [.state (system.stateMessage pub)] .ackWait)) :
    Inv (system.enqueue pub [.state (system.stateMessage pub)] .ackWait)
      (record system (.pub .publishState) history) := by
  have facts := inv.publish.pub pub running
  have recorded : record system (.pub .publishState) history =
      { history with sent := pub.cycle :: history.sent } := by
    simp [record, running, recordPub]
  rw [recorded]
  refine inv.pubMoved running placed rfl rfl rfl rfl rfl rfl ⟨rfl, rfl⟩ (by rw [at_]; simp) ?_
    rfl rfl rfl (fun _ known => .inl known) (fun _ _ => id) ?_ ?_
  · refine ⟨facts.data, by rintro ⟨⟩, fun _ => List.mem_cons_self, ?_, ?_⟩
    · exact fun _ => facts.hopeful (by rw [at_]; exact Nat.zero_le _)
    · intro late
      exact absurd late (Nat.not_succ_le_self 1)
  · intro out number same unacked
    obtain ⟨wasSent, missing⟩ := inv.trial.missed out number same unacked
    exact ⟨List.mem_cons_of_mem _ wasSent, missing⟩
  · intro out turn member
    exact (inv.trial.real out turn member).mono (List.Subset.refl _) (fun _ _ => id)
      (List.subset_cons_self _ _) (fun _ _ => id)

theorem inv_ackWait (inv : Inv system history) (running : system.mqtt.pub = some pub)
    (at_ : pub.pc = .ackWait) (met : LinkReported (system, history) (.pub .ackWait))
    (placed : Placed (system.ackWait pub)) :
    Inv (system.ackWait pub) (record system (.pub .ackWait) history) := by
  have facts := inv.publish.pub pub running
  have busy : pub.pc ≠ .clearRunning := by rw [at_]; simp
  have recorded : record system (.pub .ackWait) history =
      if system.mqtt.allAckedBit then history
      else { history with unacked := pub.cycle :: history.unacked } := by
    simp [record, running, recordPub]
  rw [recorded]
  cases all : system.mqtt.allAckedBit with
  | true =>
    have same : system.ackWait pub = _ := if_pos all
    rw [same] at placed ⊢
    apply inv.pubQuiet running placed rfl rfl rfl rfl rfl rfl ⟨rfl, rfl⟩ busy
    refine ⟨facts.data, by rintro ⟨⟩, by rintro ⟨⟩, ?_, ?_⟩
    · exact fun _ => facts.hopeful (by rw [at_]; exact Nat.le_succ 1)
    · intro _ failed
      cases failed
  | false =>
    have same : system.ackWait pub = _ := if_neg (by rw [all]; simp)
    rw [same] at placed ⊢
    refine inv.pubMoved running placed rfl rfl rfl rfl rfl rfl ⟨rfl, rfl⟩ busy ?_ rfl rfl rfl ?_ ?_
      ?_ inv.trial.real
    · refine ⟨facts.data, by rintro ⟨⟩, by rintro ⟨⟩, ?_, ?_⟩
      · intro early
        exact absurd (show 4 ≤ 2 from early) (by decide)
      · exact fun _ _ _ => .inr List.mem_cons_self
    · rintro number (member | member)
      · exact .inl (.inl member)
      · rcases List.mem_cons.mp member with same | before
        · exact .inr same
        · exact .inl (.inr before)
    · rintro number - (away | unacked)
      · exact .inl away
      · exact .inr (List.mem_cons_of_mem _ unacked)
    · intro out number same unacked
      rcases List.mem_cons.mp unacked with rfl | before
      · exact ⟨facts.waiting at_, met out all pub running⟩
      · exact inv.trial.missed out number same before

theorem inv_merge {snap : PendingCfg} (inv : Inv system history)
    (running : system.mqtt.pub = some pub) (at_ : pub.pc = .merging snap)
    (placed : Placed (system.merge pub snap)) :
    Inv (system.merge pub snap) (record system (.pub .merge) history) := by
  have facts := inv.publish.pub pub running
  have busy : pub.pc ≠ .clearRunning := by rw [at_]; simp
  have early : rank pub.pc = 2 := by rw [at_]; rfl
  cases starts : snap.txPowerDbm.set with
  | false =>
    have recorded : record system (.pub .merge) history = history := by
      simp [record, running, recordPub, startsTrial, at_, starts]
    have frame : PubQuiet system pub (system.merge pub snap) := merge_quiet at_ starts
    have moved : (system.merge pub snap).mqtt.pub = some { pub with pc := .persisting snap } := by
      simp [merge, starts]
    rw [recorded]
    refine inv.pubQuiet running placed moved rfl rfl rfl rfl rfl ?_ busy
      (facts.moved (by rintro ⟨⟩) (by simp) (fun absurd => ?_) (fun _ => .inl ?_))
    · rw [frame.tx]
      exact ⟨rfl, rfl⟩
    · rw [early]
    · rw [early]
  | true =>
    have recorded : record system (.pub .merge) history = { history with counted := [] } := by
      simp [record, running, recordPub, startsTrial, at_, starts]
    have tx : (system.merge pub snap).config.tx =
        system.config.tx.startTrial snap.txPowerDbm.value := by
      simp [merge, RuntimeConfig.mergeAll, starts]
    have moved : (system.merge pub snap).mqtt.pub = some { pub with pc := .trialCall snap } := by
      simp [merge, starts]
    have latest := inv.placed.latest pub running
    have moved_ : ∀ number, Older system number → Older (system.merge pub snap) number := by
      intro number below
      refine ⟨below.1, ?_⟩
      rw [moved]
      rintro _ ⟨⟩ -
      exact below.2 pub running busy
    rw [recorded]
    refine ⟨placed, ⟨inv.publish.numbers, ?_, ?_, inv.publish.last⟩,
      ⟨?_, inv.sensor.outcome, inv.sensor.values, inv.sensor.started, inv.sensor.unsent⟩,
      ⟨?_, ?_, ?_, List.nodup_nil, ?_⟩⟩
    · rw [moved]
      rintro _ ⟨⟩
      have after : PubFacts history { pub with pc := .trialCall snap } :=
        facts.moved (by rintro ⟨⟩) (by simp) (fun _ => by rw [early])
          (fun _ => .inl (by rw [early]))
      exact ⟨after.data, after.early, after.waiting, after.hopeful, after.ended⟩
    · exact fun number same => moved_ number (inv.publish.older number same)
    · exact fun number same => moved_ number (inv.sensor.older number same)
    · intro _ number same unacked
      have own : number = pub.cycle := by
        have newest := (inv.sensor.started number same).1
        omega
      rw [own] at unacked
      exact (facts.hopeful (by rw [early]) unacked).elim
    · rintro - turn ⟨⟩
    · intro _
      rw [tx]
      exact ⟨rfl, Nat.zero_lt_succ 2⟩
    · rintro turn ⟨⟩

theorem inv_storeOk (inv : Inv system history) (running : system.mqtt.pub = some pub)
    (at_ : pub.pc = .storeOk) (placed : Placed (system.storeOk pub)) :
    Inv (system.storeOk pub) history := by
  have facts := inv.publish.pub pub running
  have latest := inv.placed.latest pub running
  refine ⟨placed, ⟨inv.publish.numbers, ?_, ?_, ?_⟩,
    ⟨?_, inv.sensor.outcome, inv.sensor.values, inv.sensor.started, inv.sensor.unsent⟩,
    inv.trial.frame (fun out => ⟨out, rfl⟩) (.inl rfl) id⟩
  · rintro _ ⟨⟩
    exact facts.moved (by rintro ⟨⟩) (by simp) (by rw [at_]; exact id)
      (by rw [at_]; exact fun _ => .inl (by decide))
  · rintro number ⟨⟩
    refine ⟨?_, ?_⟩
    · show pub.cycle < system.cyclesStarted
      omega
    · rintro _ ⟨⟩ busy
      exact (busy rfl).elim
  · rintro failed number ⟨⟩ member
    exact facts.ended (by rw [at_]; decide) failed member
  · intro number same
    refine ⟨(inv.sensor.older number same).1, ?_⟩
    rintro _ ⟨⟩ busy
    exact (busy rfl).elim

theorem inv_clearRunning (inv : Inv system history) (placed : Placed system.clearRunning) :
    Inv system.clearRunning history := by
  refine ⟨placed, ⟨inv.publish.numbers, ?_, ?_, inv.publish.last⟩,
    ⟨?_, inv.sensor.outcome, inv.sensor.values, inv.sensor.started, inv.sensor.unsent⟩,
    inv.trial.frame (fun out => ⟨out, rfl⟩) (.inl rfl) id⟩
  · rintro pub ⟨⟩
  · intro number same
    refine ⟨(inv.publish.older number same).1, ?_⟩
    rintro pub ⟨⟩
  · intro number same
    refine ⟨(inv.sensor.older number same).1, ?_⟩
    rintro pub ⟨⟩

theorem inv_discover (inv : Inv system history) (running : system.mqtt.pub = some pub)
    (at_ : pub.pc = .discovering)
    (placed : Placed (system.enqueue pub pub.discoveryMessages
      (if pub.params.hasAny then .stating else .replaying 0))) :
    Inv (system.enqueue pub pub.discoveryMessages
      (if pub.params.hasAny then .stating else .replaying 0)) history := by
  have facts := inv.publish.pub pub running
  have busy : pub.pc ≠ .clearRunning := by rw [at_]; simp
  have first : rank pub.pc ≤ 2 := by rw [at_]; exact Nat.zero_le _
  apply inv.pubQuiet running placed rfl rfl rfl rfl rfl rfl ⟨rfl, rfl⟩ busy
  cases data : pub.params.hasAny with
  | true =>
    apply facts.moved (by rintro ⟨⟩) (by simp) (fun _ => first)
    intro late
    exact absurd (show 2 ≤ 0 from late) (by decide)
  | false =>
    refine ⟨facts.data, by rintro ⟨⟩, by rintro ⟨⟩, fun _ => facts.hopeful first, ?_⟩
    intro _ _ member
    have carries := facts.data member
    rw [data] at carries
    cases carries

theorem inv_reachable (inv : Inv system history) (running : system.mqtt.pub = some pub)
    (at_ : pub.pc = .begin) {found : Bool}
    (placed : Placed (system.atPubPc pub (if found then .deciding else .windowEnd))) :
    Inv (system.atPubPc pub (if found then .deciding else .windowEnd)) history := by
  have away : connecting pub.pc = true := by rw [at_]; rfl
  refine inv.pubQuiet running placed rfl rfl rfl rfl rfl rfl ⟨rfl, rfl⟩ (by rw [at_]; simp)
    ((inv.publish.pub pub running).moved (fun _ => away) ?_
      (by rw [at_]; exact fun _ => Nat.zero_le _) (fun _ => .inr away))
  split <;> simp

theorem inv_decide (inv : Inv system history) (running : system.mqtt.pub = some pub)
    (at_ : pub.pc = .deciding) {clientOk : Bool}
    (placed : Placed (system.startPersistentClient pub clientOk)) :
    Inv (system.startPersistentClient pub clientOk) history := by
  have away : connecting pub.pc = true := by rw [at_]; rfl
  have first : ∀ pc, pc ≠ .ackWait → PubFacts history { pub with pc := pc } :=
    fun pc notWaiting =>
    (inv.publish.pub pub running).moved (fun _ => away) notWaiting
      (by rw [at_]; exact fun _ => Nat.zero_le _) (fun _ => .inr away)
  have busy : pub.pc ≠ .clearRunning := by rw [at_]; simp
  unfold startPersistentClient at placed ⊢
  split
  case isTrue due =>
    rw [if_pos due] at placed
    exact inv.pubQuiet running placed rfl rfl rfl rfl rfl rfl ⟨rfl, rfl⟩ busy (first _ (by simp))
  case isFalse notDue =>
    rw [if_neg notDue] at placed
    cases clientOk with
    | true =>
      exact inv.pubQuiet running placed rfl rfl rfl rfl rfl rfl ⟨rfl, rfl⟩ busy
        (first _ (by simp))
    | false =>
      exact inv.pubQuiet running placed rfl rfl rfl rfl rfl rfl ⟨rfl, rfl⟩ busy
        (first _ (by simp))

theorem inv_subscribe (inv : Inv system history) (running : system.mqtt.pub = some pub)
    (at_ : pub.pc = .subscribing) {link : Option LinkStats}
    (placed : Placed (system.subscribe pub link)) : Inv (system.subscribe pub link) history := by
  have facts := inv.publish.pub pub running
  refine inv.pubQuiet running placed rfl rfl rfl rfl rfl rfl ⟨rfl, rfl⟩ (by rw [at_]; simp)
    ⟨facts.data, by rintro ⟨⟩, by rintro ⟨⟩, ?_, ?_⟩
  · exact fun _ => facts.hopeful (by rw [at_]; exact Nat.zero_le _)
  · intro after
    exact absurd (show 2 ≤ 0 from after) (by decide)

/-- A step among the places of one rank. -/
theorem PubFacts.level (facts : PubFacts history pub) {pc : PubPc} (level : rank pc = rank pub.pc)
    (notEarly : connecting pc = false) (notWaiting : pc ≠ .ackWait) :
    PubFacts history { pub with pc := pc } :=
  facts.moved (by rw [notEarly]; rintro ⟨⟩) notWaiting (by rw [level]; exact id)
    (by rw [level]; exact .inl)

/-- A step to another place behind the wait for the ACK. -/
theorem PubFacts.late (facts : PubFacts history pub) {pc : PubPc} (after : 2 ≤ rank pub.pc)
    (notEarly : connecting pc = false) (notWaiting : pc ≠ .ackWait)
    (hopeful : rank pc ≤ 2 → rank pub.pc ≤ 2) : PubFacts history { pub with pc := pc } :=
  facts.moved (by rw [notEarly]; rintro ⟨⟩) notWaiting hopeful (fun _ => .inl after)

theorem inv_replay (inv : Inv system history) (running : system.mqtt.pub = some pub) {batch : Nat}
    (at_ : pub.pc = .replaying batch) {nowUs : Int}
    (placed : Placed (system.replay pub batch nowUs)) :
    Inv (system.replay pub batch nowUs) history := by
  obtain ⟨log, pc, same, place⟩ := system.replay_eq pub batch nowUs
  rw [same] at placed ⊢
  refine inv.pubQuiet running placed rfl rfl rfl rfl rfl rfl ⟨rfl, rfl⟩ (by rw [at_]; simp)
    ((inv.publish.pub pub running).late (by rw [at_]; exact le_rfl) ?_ ?_
      (by rw [at_]; exact fun _ => le_rfl)) <;>
    rcases place with rfl | ⟨entries, rfl⟩ <;> simp [connecting]

theorem inv_backfillWait (inv : Inv system history) (running : system.mqtt.pub = some pub)
    {batch count : Nat} (at_ : pub.pc = .backfillWait batch count)
    (placed : Placed (system.backfillWait pub batch count)) :
    Inv (system.backfillWait pub batch count) history := by
  have facts := inv.publish.pub pub running
  have after : 2 ≤ rank pub.pc := by rw [at_]; exact le_rfl
  have busy : pub.pc ≠ .clearRunning := by rw [at_]; simp
  unfold backfillWait at placed ⊢
  split
  case isTrue all =>
    rw [if_pos all] at placed
    exact inv.pubQuiet running placed rfl rfl rfl rfl rfl rfl ⟨rfl, rfl⟩ busy
      (facts.late after rfl (by simp) (by rw [at_]; exact id))
  case isFalse missing =>
    rw [if_neg missing] at placed
    exact inv.pubQuiet running placed rfl rfl rfl rfl rfl rfl ⟨rfl, rfl⟩ busy
      (facts.late after rfl (by simp) (by rw [at_]; exact id))

theorem inv_otaGate (inv : Inv system history) (running : system.mqtt.pub = some pub)
    (at_ : pub.pc = .otaGate) {groupCreated : Bool}
    (placed : Placed (system.otaGate env pub groupCreated)) :
    Inv (system.otaGate env pub groupCreated) history := by
  obtain ⟨ota, pc, same, place⟩ := otaGate_eq env system pub groupCreated
  rw [same] at placed ⊢
  refine inv.pubQuiet running placed rfl rfl rfl rfl rfl rfl ⟨rfl, rfl⟩ (by rw [at_]; simp)
    ((inv.publish.pub pub running).late (by rw [at_]; exact Nat.le_add_right 2 2) ?_ ?_ ?_) <;>
    rcases place with rfl | rfl <;> simp [connecting, rank]

theorem inv_pub {event : PubEvent} (inv : Inv system history)
    (running : system.mqtt.pub = some pub) (leaves : pub.pc = .inOta → system.ota.pc = .idle)
    (met : LinkReported (system, history) (.pub event))
    (taken : system.pubStep env pub event = some next) :
    Inv next (record system (.pub event) history) := by
  have placed := placed_pub inv.placed running leaves (pubStep_move taken)
  have facts := inv.publish.pub pub running
  have quiet : recordPub system pub event history = history →
      record system (.pub event) history = history := by
    intro same
    simp [record, running, same]
  cases pubStep_case taken with
  | connectWait at_ => exact inv_connectWait inv running at_ met placed
  | publishState at_ => exact inv_publishState inv running at_ placed
  | ackWait at_ => exact inv_ackWait inv running at_ met placed
  | merge at_ => exact inv_merge inv running at_ placed
  | reachable reachable uriFound at_ =>
    rw [quiet rfl]
    exact inv_reachable inv running at_ placed
  | decide clientOk at_ =>
    rw [quiet rfl]
    exact inv_decide inv running at_ placed
  | subscribe link at_ =>
    rw [quiet rfl]
    exact inv_subscribe inv running at_ placed
  | discover at_ =>
    rw [quiet rfl]
    exact inv_discover inv running at_ placed
  | replay nowUs at_ =>
    rw [quiet rfl]
    exact inv_replay inv running at_ placed
  | backfillWait at_ =>
    rw [quiet rfl]
    exact inv_backfillWait inv running at_ placed
  | otaGate groupCreated at_ =>
    rw [quiet rfl]
    exact inv_otaGate inv running at_ placed
  | storeOk at_ =>
    rw [quiet rfl]
    exact inv_storeOk inv running at_ placed
  | clearRunning at_ =>
    rw [quiet rfl]
    exact inv_clearRunning inv placed
  | @setExpected arming at_ =>
    rw [quiet rfl]
    exact inv.pubQuiet running placed rfl rfl rfl rfl rfl rfl ⟨rfl, rfl⟩ (by rw [at_]; simp)
      (facts.level (by rw [at_]; cases arming <;> rfl) rfl (by simp))
  | @resetReceived arming at_ =>
    rw [quiet rfl]
    exact inv.pubQuiet running placed rfl rfl rfl rfl rfl rfl ⟨rfl, rfl⟩ (by rw [at_]; simp)
      (facts.level (by rw [at_]; cases arming <;> rfl) rfl (by simp))
  | @clearAllAcked arming at_ =>
    rw [quiet rfl]
    refine inv.pubQuiet running placed rfl rfl rfl rfl rfl rfl ⟨rfl, rfl⟩ (by rw [at_]; simp)
      (facts.level ?_ ?_ ?_)
    · rw [at_]
      cases arming <;> rfl
    · cases arming <;> rfl
    · cases arming <;> simp
  | publishBackfill at_ =>
    rw [quiet rfl]
    exact inv.pubQuiet running placed rfl rfl rfl rfl rfl rfl ⟨rfl, rfl⟩ (by rw [at_]; simp)
      (facts.late (by rw [at_]; exact le_rfl) rfl (by simp) (by rw [at_]; exact id))
  | settle at_ =>
    rw [quiet rfl]
    exact inv.pubQuiet running placed rfl rfl rfl rfl rfl rfl ⟨rfl, rfl⟩ (by rw [at_]; simp)
      (facts.late (by rw [at_]; exact le_rfl) rfl (by simp) (by rw [at_]; exact id))
  | setTxDone accepted at_ =>
    rw [quiet rfl]
    exact inv.pubQuiet running placed rfl rfl rfl rfl rfl rfl
      ⟨TxPower.applied_hasPending _ _ _, TxPower.applied_unconfirmedCycles _ _ _⟩
      (by rw [at_]; simp) (facts.late (by rw [at_]; exact Nat.le_succ 2) rfl (by simp)
        (fun early => absurd (show 4 ≤ 2 from early) (by decide)))
  | persist at_ =>
    rw [quiet rfl]
    exact inv.pubQuiet running placed rfl rfl rfl rfl rfl rfl ⟨rfl, rfl⟩ (by rw [at_]; simp)
      (facts.late (by rw [at_]; exact Nat.le_add_left 2 _) rfl (by simp) (by rw [at_]; exact id))
  | close at_ idle =>
    rw [quiet rfl]
    exact inv.pubQuiet running placed rfl rfl rfl rfl rfl rfl ⟨rfl, rfl⟩ (by rw [at_]; simp)
      (facts.late (by rw [at_]; exact Nat.le_add_left 2 _) rfl (by simp) (by rw [at_]; exact id))
  | otaDone at_ idle =>
    rw [quiet rfl]
    exact inv.pubQuiet running placed rfl rfl rfl rfl rfl rfl ⟨rfl, rfl⟩ (by rw [at_]; simp)
      (facts.late (by rw [at_]; exact Nat.le_add_left 2 _) rfl (by simp)
        (fun early => absurd (show 6 ≤ 2 from early) (by decide)))
  | windowEnd at_ =>
    rw [quiet rfl]
    exact inv.pubQuiet running placed rfl rfl rfl rfl rfl rfl ⟨rfl, rfl⟩ (by rw [at_]; simp)
      (facts.late (by rw [at_]; exact Nat.le_add_left 2 _) rfl (by simp) (by rw [at_]; exact id))

/-! ## The other tasks, and whole runs -/

theorem Inv.frame (inv : Inv system history) (placed : Placed next)
    (sensor : next.sensor = system.sensor) (tx : next.config.tx = system.config.tx)
    (pub : next.mqtt.pub = system.mqtt.pub) (lastOk : next.mqtt.lastOk = system.mqtt.lastOk)
    (lastOkCycle : next.mqtt.lastOkCycle = system.mqtt.lastOkCycle)
    (started : next.cyclesStarted = system.cyclesStarted) : Inv next history := by
  refine ⟨placed, inv.publish.frame pub lastOk lastOkCycle started,
    inv.sensor.frame pub started (by rw [sensor]) (by rw [sensor]) (by rw [sensor])
      (.inr (by rw [sensor])) (by rw [sensor]; exact inv.sensor.values) (by rw [sensor]; exact id),
    inv.trial.frame ?_ (.inl (by rw [sensor])) (by rw [sensor]; exact id)⟩
  rw [tx]
  exact fun out => ⟨out, rfl⟩

theorem inv_acked {index : Nat} {message : StateMessage} (inv : Inv system history)
    (met : LinkReported (system, history) (.client (.published index)))
    (acked : system.ackedState (.client (.published index)) = some message) :
    Inv system { history with acked := message.cycle :: history.acked } := by
  refine ⟨inv.placed, ⟨inv.publish.numbers, ?_, inv.publish.older, inv.publish.last⟩,
    ⟨inv.sensor.older, inv.sensor.outcome, inv.sensor.values, inv.sensor.started,
      inv.sensor.unsent⟩, ⟨?_, ?_, inv.trial.number, inv.trial.nodup, inv.trial.turns⟩⟩
  · intro pub running
    have facts := inv.publish.pub pub running
    exact ⟨facts.data, facts.early, facts.waiting, facts.hopeful, facts.ended⟩
  · intro out number same unacked
    obtain ⟨wasSent, missing⟩ := inv.trial.missed out number same unacked
    refine ⟨wasSent, fun now => ?_⟩
    rcases List.mem_cons.mp now with own | before
    · rw [own] at same unacked
      exact (met out message acked).2 same unacked
    · exact missing before
  · intro out turn member
    refine (inv.trial.real out turn member).mono (List.Subset.refl _) (fun _ _ => id)
      (List.Subset.refl _) ?_
    intro number same now
    rcases List.mem_cons.mp now with own | before
    · have none := (met out message acked).1
      unfold isCounted at none
      rw [List.any_eq_false] at none
      refine (none turn member ?_).elim
      rw [same, own]
      exact beq_self_eq_true _
    · exact before

theorem inv_client {event : ClientEvent} (inv : Inv system history)
    (met : LinkReported (system, history) (.client event))
    (move : ClientMove system event next) :
    Inv next (record system (.client event) history) := by
  have placed := placed_client inv.placed move
  cases move with
  | quiet frame states noAck =>
    have recorded : record system (.client event) history = history := by
      unfold record
      dsimp only
      rw [noAck]
    rw [recorded]
    exact inv.frame placed frame.sensor frame.tx frame.pub frame.flags.lastOk
      frame.flags.lastOkCycle frame.cyclesStarted
  | @acked index message _ frame acked kept =>
    have recorded : record system (.client (.published index)) history =
        { history with acked := message.cycle :: history.acked } := by
      unfold record
      dsimp only
      rw [acked]
    rw [recorded]
    exact (inv_acked inv met acked).frame placed frame.sensor frame.tx frame.pub frame.flags.lastOk
      frame.flags.lastOkCycle frame.cyclesStarted

theorem inv_step (state : Observed) (action : HpAction) (after : Observed)
    (inv : Inv state.1 state.2) (met : LinkReported state action)
    (taken : step env state action = some after) : Inv after.1 after.2 := by
  obtain ⟨stepped, recorded⟩ := Runs.observe_step taken
  rw [recorded]
  obtain ⟨system, history⟩ := state
  obtain ⟨next, _⟩ := after
  have placed : Placed next := placed_step inv.placed stepped
  cases action with
  | sensor event => exact inv_sensor inv met (sensorStep_move stepped)
  | pub event =>
    simp only [HpSystem.step] at stepped
    split at stepped
    case h_1 pub running =>
      exact inv_pub inv running (fun at_ => pubStep_leaves at_ stepped) met stepped
    case h_2 => cases stepped
  | client event =>
    cases step_move stepped with
    | client move => exact inv_client inv met move
  | tail =>
    cases step_move stepped with
    | tail => exact inv.frame placed rfl rfl rfl rfl rfl rfl
  | ota event accepted =>
    cases step_move stepped with
    | ota running at_ inCycle done =>
      obtain ⟨radio, same⟩ := system.otaRadio_eq event accepted
      rw [same] at placed ⊢
      exact inv.frame placed rfl rfl rfl rfl rfl rfl
  | reset pendingVerify =>
    cases Option.some.inj stepped
    exact inv_boot env _ _ pendingVerify

/-- The counter of a trial that is reverted stands at two counted turns. -/
theorem TrialSide.reverting {failure : Failure} (side : TrialSide system history)
    (open_ : unreported system.sensor.pc = true) (out : system.config.tx.hasPending = true)
    (verdict : system.config.tx.cycleVerdict false = .reverting)
    (real : RealFailure history failure) :
    txPowerRevertAfterCycles ≤ ((history.turn, failure) :: history.counted).length ∧
      (((history.turn, failure) :: history.counted).map Prod.fst).Nodup ∧
      ∀ turn ∈ (history.turn, failure) :: history.counted, RealFailure history turn.2 := by
  refine ⟨?_, ?_, ?_⟩
  · obtain ⟨number, few⟩ := side.number out
    unfold TxPower.cycleVerdict at verdict
    rw [out, number] at verdict
    have noWrap : u32 (history.counted.length + 1) = history.counted.length + 1 := by
      unfold txPowerRevertAfterCycles at few
      unfold u32 u32Mod
      exact Nat.mod_eq_of_lt (by omega)
    rw [noWrap] at verdict
    by_contra short
    rw [List.length_cons, not_le] at short
    simp [short] at verdict
  · rw [List.map_cons, List.nodup_cons]
    exact ⟨side.turn_new open_, side.nodup⟩
  · intro turn member
    rcases List.mem_cons.mp member with rfl | earlier
    · exact real
    · exact side.real out turn earlier

/-- A reverting step counts the third turn, in which the link failed too. -/
theorem reverted_of_inv (state : Observed) (action : HpAction) (inv : Inv state.1 state.2)
    (met : LinkReported state action) : RevertedForFailures state action := by
  obtain ⟨system, history⟩ := state
  intro reverting
  simp only [reverts, Option.any_eq_true] at reverting
  obtain ⟨ok, result, verdict⟩ := reverting
  have verdict : system.config.tx.cycleVerdict ok = .reverting := beq_iff_eq.mp verdict
  obtain ⟨out, rfl⟩ := TxPower.cycleVerdict_reverting verdict
  have assembled : ∀ event failure, action = .sensor event →
      unreported system.sensor.pc = true →
      counts system (.sensor event) =
        (if system.config.tx.hasPending = true ∧ false = false then some failure else none) →
      RealFailure history failure →
      txPowerRevertAfterCycles ≤ (record system action history).counted.length ∧
        ((record system action history).counted.map Prod.fst).Nodup ∧
        ∀ turn ∈ (record system action history).counted, RealFailure history turn.2 := by
    rintro event failure rfl open_ kind real
    rw [record_report result kind, if_pos ⟨out, rfl⟩]
    exact inv.trial.reverting open_ out verdict real
  unfold reported at result
  split at result
  · -- the attach gate
    split at result
    case isTrue at_ =>
      exact assembled _ .unattached rfl (by rw [at_]; rfl) (by simp [counts, reported, at_])
        trivial
    case isFalse => cases result
  · -- the noted outcome
    split at result
    case isTrue at_ =>
      have failed : system.sensor.cycle.publishedOk = false := Option.some.inj result
      exact assembled _ (.publish system.sensor.cycle.startedCycle) rfl (by rw [at_]; rfl)
        (by simp [counts, reported, at_, failed]) (inv.noted_real met out failed)
    case isFalse => cases result
  · -- the wait that timed out
    split at result
    case isTrue stands =>
      obtain ⟨at_, inactive⟩ := stands
      exact assembled _ (.publish system.sensor.cycle.startedCycle) rfl (by rw [at_]; rfl)
        (by simp [counts, reported, at_, inactive]) (inv.timedOut_real met out inactive)
    case isFalse => cases result
  · cases result

/-- While every step with a trial outstanding reports the link as it is, a revert
counts at least three turns in each of which the link failed. -/
theorem revertedForFailures_run (env : HpEnv) (nvs : Nvs) (cyclesStarted : Nat)
    (pendingVerify : Bool) (actions : List HpAction)
    (met : Runs.Along (step env) LinkReported (start env nvs cyclesStarted pendingVerify)
      actions) :
    Runs.Along (step env) RevertedForFailures (start env nvs cyclesStarted pendingVerify)
      actions :=
  Runs.along_of_invariant (fun state => Inv state.1 state.2) inv_step reverted_of_inv
    (inv_boot env nvs cyclesStarted pendingVerify) met

/-- Publish cycle 0 starts a trial of 10 dBm, and is not waited for. -/
def trialStarted : List HpAction :=
  attachFirst ++ takeUp (reading 1 (.fin 21)) ++ waitTimesOut ++ publishUpToState ++
    allAcked 33 ++ publishTrial 10 ++ publishEnd ++ sleepAndWake

def unattached : List HpAction := .sensor (.attachGate false) :: sleepAndWake

theorem revertedForFailures_unattached :
    ((Runs.run (step benchEnv) (start benchEnv Nvs.erased 0 false)
        (trialStarted ++ unattached ++ unattached)).any
      fun state => reverts state.1 (.sensor (.attachGate false))) = true ∧
    Runs.Along (step benchEnv) RevertedForFailures (start benchEnv Nvs.erased 0 false)
      (trialStarted ++ unattached ++ unattached ++ [.sensor (.attachGate false)]) := by
  refine ⟨by decide +kernel, ?_⟩
  apply revertedForFailures_run
  decide +kernel

/-- A turn whose state message is ACKed by a task that runs past the wait. -/
def ackedTooSlow (heartbeat : Nat) : List HpAction :=
  .sensor (.attachGate true) :: takeUp (reading heartbeat (.fin 25)) ++ publishUpToState ++
    [.client (.subAck true), .client (.published 1), .client .setAllAcked] ++ waitTimesOut

def finish : List HpAction := publishToOutcome ++ publishEnd ++ sleepAndWake

/-- Three turns whose state message was ACKed revert a trial. -/
theorem acked_reverted :
    ¬ ∀ (env : HpEnv) (nvs : Nvs) (cyclesStarted : Nat) (pendingVerify : Bool)
        (actions : List HpAction),
      Runs.Along (step env) RevertedForFailures (start env nvs cyclesStarted pendingVerify)
        actions := by
  intro always
  have reverted := always benchEnv Nvs.erased 0 false (trialStarted ++ ackedTooSlow 2 ++ finish ++
    ackedTooSlow 3 ++ finish ++ ackedTooSlow 4)
  revert reverted
  decide +kernel

end SleepySensor.TxRevert
