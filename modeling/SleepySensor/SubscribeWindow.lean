import SleepySensor.Lib.History
import SleepySensor.OtaIntegrity
import SleepySensor.OtaSteps

/-!
# The subscription window

What `ota_run_session` has subscribed to whenever its pull loop looks at the
progress, beside its `fail_reason`.
-/

set_option autoImplicit false

namespace SleepySensor.SubscribeWindow

open SleepySensor SleepySensor.OtaIntegrity

/-- `fail_reason`, up to the end of the pull loop. -/
inductive FailReason where
  | subscribeFailed (chunk : Nat)
  | lostOrRejected (chunk : Nat)
  | timedOut (chunk : Nat)
  | capExceeded
  deriving DecidableEq, Repr

/-- `fail_reason` after an event of the session task. -/
def record (ota : Ota) (event : OtaEvent) (reason : Option FailReason) : Option FailReason :=
  match ota.pc, event with
  | .activating, .activate _ _ _ => none
  | .priming chunk, .prime ok =>
    if ota.session.subscribedOk && decide
        (chunk < min (ota.session.startChunk + subscribePipeline) ota.session.totalChunks) && !ok
      then some (.subscribeFailed chunk)
    else reason
  | .pulling, .wait =>
    if ota.session.subscribedOk && decide (ota.session.done < ota.session.totalChunks) &&
        ota.failBit then some (.lostOrRejected ota.session.done)
    else reason
  | .woke chunkBit, .countDone =>
    if decide (ota.nextChunk = ota.session.done) && !chunkBit then
      some (.timedOut ota.session.done)
    else reason
  | .toppingUp chunk nowDone, .topUp ok capExceeded =>
    if ota.session.subscribedOk && decide (chunk < nowDone) then
      if decide (chunk + subscribePipeline < ota.session.totalChunks) && !ok then
        some (.subscribeFailed (chunk + subscribePipeline))
      else reason
    else if decide (nowDone < ota.session.totalChunks) && capExceeded then some .capExceeded
    else reason
  | _, _ => reason

/-- The updater and the `fail_reason` of its last session. -/
abbrev Observed := Ota × Option FailReason

def step (firmware : Firmware) : Observed → OtaEvent → Option Observed :=
  Runs.observe (Ota.step firmware) record

/-! ## The window -/

/-- The first chunk that is not subscribed yet. -/
def reach (ota : Ota) : Nat := ota.session.startChunk + ota.subscribed.length

structure Lined (ota : Ota) : Prop where
  consecutive : ota.subscribed = List.range' ota.session.startChunk ota.subscribed.length
  reached : ota.nextChunk ≤ reach ota
  inFlight : ∀ message, ota.handler = .chunk message → message.index ∈ ota.subscribed

/-- What the window holds in each phase of a session. -/
def Phase (ota : Ota) (reason : Option FailReason) : SessionPc → Prop
  | .activating => ota.session.subscribedOk = true
  | .starting | .pinning =>
    ota.session.subscribedOk = true ∧ reason = none ∧ ota.subscribed = []
  | .priming chunk =>
    ota.session.subscribedOk = true → reach ota = chunk ∧ chunk ≤ max ota.session.startChunk
      (min (ota.session.startChunk + subscribePipeline) ota.session.totalChunks)
  | .pulling | .woke _ =>
    ota.session.startChunk ≤ ota.session.done ∧ (ota.session.subscribedOk = true →
      reach ota = min (ota.session.done + subscribePipeline) ota.session.totalChunks)
  | .toppingUp chunk nowDone =>
    ota.session.startChunk ≤ ota.session.done ∧ ota.session.done ≤ chunk ∧ chunk ≤ nowDone ∧
      (ota.session.subscribedOk = true →
        reach ota = min (chunk + subscribePipeline) ota.session.totalChunks)
  | .ended => reason = none → ota.session.done = ota.session.totalChunks
  | _ => True

/-- The subscriptions are still under way. -/
def looping : SessionPc → Bool
  | .starting | .pinning | .priming _ | .pulling | .woke _ | .toppingUp _ _ => true
  | _ => false

structure Inv (firmware : Firmware) (ota : Ota) (reason : Option FailReason) : Prop where
  integrity : OtaIntegrity.Inv firmware ota
  lined : activated ota.pc = true → Lined ota
  phase : Phase ota reason ota.pc
  reasoned : looping ota.pc = true → reason = none → ota.session.subscribedOk = true

section Window

variable {firmware : Firmware} {ota next : Ota} {reason : Option FailReason}

theorem Lined.congr (lined : Lined ota)
    (startChunk : next.session.startChunk = ota.session.startChunk)
    (subscribed : next.subscribed = ota.subscribed) (nextChunk : next.nextChunk = ota.nextChunk)
    (handler : next.handler = ota.handler) : Lined next := by
  obtain ⟨consecutive, reached, inFlight⟩ := lined
  constructor
  · rw [subscribed, startChunk]
    exact consecutive
  · rw [nextChunk, reach, startChunk, subscribed]
    exact reached
  · rw [handler, subscribed]
    exact inFlight

theorem Lined.append (lined : Lined ota)
    (startChunk : next.session.startChunk = ota.session.startChunk)
    (subscribed : next.subscribed = ota.subscribed ++ [reach ota])
    (nextChunk : next.nextChunk = ota.nextChunk) (handler : next.handler = ota.handler) :
    Lined next ∧ reach next = reach ota + 1 := by
  obtain ⟨consecutive, reached, inFlight⟩ := lined
  have longer : reach next = reach ota + 1 := by
    rw [reach, subscribed, startChunk, List.length_append, List.length_singleton, reach]
    rfl
  refine ⟨⟨?_, ?_, ?_⟩, longer⟩
  · rw [subscribed, startChunk, List.length_append, List.length_singleton, List.range'_1_concat,
      ← consecutive]
    rfl
  · rw [nextChunk, longer]
    exact reached.trans (Nat.le_succ _)
  · intro message inHandler
    rw [handler] at inHandler
    rw [subscribed]
    exact List.mem_append_left _ (inFlight message inHandler)

theorem nextChunk_le (inv : OtaIntegrity.Inv firmware ota) (inWindow : activated ota.pc = true) :
    ota.nextChunk ≤ ota.session.totalChunks := by
  have valid : ota.partialValid = true := inv.current inWindow
  have within : ota.nextChunk ≤ chunkCount ota.partialManifest := inv.sound.within valid
  have geometry : Geometry ota.partialManifest := inv.sound.geometry valid
  rw [inv.total (.inr (.inl inWindow)), totalChunks_congr (inv.same (.inl inWindow) valid),
    totalChunks_eq geometry]
  exact within

theorem inv_outside (integrity : OtaIntegrity.Inv firmware ota)
    (outside : activated ota.pc = false) (notActivating : ota.pc ≠ .activating) :
    Inv firmware ota reason := by
  constructor
  · exact integrity
  · intro inWindow
    exact absurd (outside.symm.trans inWindow) (by decide)
  · revert outside notActivating
    cases ota.pc <;> simp [activated, Phase]
  · intro inLoop
    revert outside inLoop
    cases ota.pc <;> simp [activated, looping]

/-! ## Events of the session task -/

theorem inv_activate (noTopic : ota.subscribed = [])
    (noChunk : ∀ message, ota.handler ≠ .chunk message) (ok : ota.session.subscribedOk = true)
    (found beginOk hashSetupOk : Bool)
    (integrity : OtaIntegrity.Inv firmware (ota.activate found beginOk hashSetupOk)) :
    Inv firmware (ota.activate found beginOk hashSetupOk) none := by
  have started : ∀ kept : Ota, kept.subscribed = [] → (∀ message, kept.handler ≠ .chunk message) →
      kept.session.subscribedOk = true → OtaIntegrity.Inv firmware (kept.startAt kept.nextChunk) →
      Inv firmware (kept.startAt kept.nextChunk) none := by
    intro kept topics quiet subscribedOk inv
    refine ⟨inv, fun _ => ⟨?_, ?_, ?_⟩, ⟨subscribedOk, rfl, topics⟩, fun _ _ => subscribedOk⟩
    · show kept.subscribed = List.range' kept.nextChunk kept.subscribed.length
      rw [topics]
      rfl
    · exact Nat.le_add_right _ _
    · intro message inHandler
      exact absurd inHandler (quiet message)
  revert integrity
  simp only [Ota.activate]
  generalize keptIs : (if (ota.partialValid && !ota.session.manifest.sameImage
    ota.partialManifest) = true then ota.discardPartialLocked else ota) = kept
  have topics : kept.subscribed = [] := by
    split at keptIs <;> subst keptIs <;> exact noTopic
  have quiet : ∀ message, kept.handler ≠ .chunk message := by
    split at keptIs <;> subst keptIs <;> exact noChunk
  have subscribedOk : kept.session.subscribedOk = true := by
    split at keptIs <;> subst keptIs <;> exact ok
  intro integrity
  split at integrity
  case isTrue resumed =>
    rw [if_pos resumed]
    exact started kept topics quiet subscribedOk integrity
  case isFalse anew =>
    rw [if_neg anew]
    split at integrity
    case isTrue tooLarge =>
      rw [if_pos tooLarge]
      exact inv_outside integrity rfl (by simp [Ota.failedStart])
    case isFalse fits =>
      rw [if_neg fits]
      split at integrity
      case isTrue notBegun =>
        rw [if_pos notBegun]
        exact inv_outside integrity rfl (by simp [Ota.failedStart])
      case isFalse begun =>
        rw [if_neg begun]
        split at integrity
        case isTrue unhashed =>
          rw [if_pos unhashed]
          exact inv_outside integrity rfl (by simp [Ota.failedStart])
        case isFalse hashed =>
          rw [if_neg hashed]
          exact started _ topics quiet subscribedOk integrity

theorem inv_prime (inv : Inv firmware ota reason) {chunk : Nat} (at_ : ota.pc = .priming chunk)
    (ok : Bool) (integrity : OtaIntegrity.Inv firmware (ota.prime chunk ok)) :
    Inv firmware (ota.prime chunk ok) (record ota (.prime ok) reason) := by
  have inWindow : activated ota.pc = true := by rw [at_]; rfl
  have lined := inv.lined inWindow
  have reasoned := inv.reasoned (by rw [at_]; rfl)
  have phase := inv.phase
  have started := (inv.integrity.progress inWindow).1.trans (nextChunk_le inv.integrity inWindow)
  simp only [at_, Phase] at phase
  simp only [record, at_]
  revert integrity
  unfold Ota.prime
  by_cases more : (ota.session.subscribedOk && decide (chunk < min
      (ota.session.startChunk + subscribePipeline) ota.session.totalChunks)) = true
  · simp only [more, if_true, Bool.true_and]
    simp only [Bool.and_eq_true, decide_eq_true_eq] at more
    obtain ⟨sound, below⟩ := more
    obtain ⟨reached, -⟩ := phase sound
    intro integrity
    cases ok with
    | true =>
      have appended := @Lined.append ota { ota.subscribeChunk chunk true with
        pc := .priming (chunk + 1) } lined rfl (by rw [reached]; rfl) rfl rfl
      refine ⟨integrity, fun _ => appended.1, ?_, fun _ _ => sound⟩
      intro _
      refine ⟨appended.2.trans (by rw [reached]), ?_⟩
      exact (Nat.succ_le_of_lt below).trans (le_max_right _ _)
    | false =>
      refine ⟨integrity, fun _ => lined.congr rfl rfl rfl rfl, ?_, ?_⟩
      · rintro ⟨⟩
      · rintro - ⟨⟩
  · simp only [more, if_false, Bool.false_and, Bool.false_eq_true]
    intro integrity
    refine ⟨integrity, fun _ => lined.congr rfl rfl rfl rfl, ⟨le_rfl, ?_⟩, fun _ => reasoned⟩
    intro sound
    have subscribedOk : ota.session.subscribedOk = true := sound
    obtain ⟨reached, within⟩ := phase subscribedOk
    have ends : ¬chunk < min (ota.session.startChunk + subscribePipeline)
        ota.session.totalChunks := by
      simpa [subscribedOk] using more
    have primed : chunk = min (ota.session.startChunk + subscribePipeline)
        ota.session.totalChunks := by
      have small : ota.session.startChunk ≤ chunk := by
        rw [← reached]
        exact Nat.le_add_right _ _
      omega
    exact reached.trans primed

theorem inv_failed {failure : FailReason} (integrity : OtaIntegrity.Inv firmware next)
    (lined : Lined next) (ended : next.pc = .ended) : Inv firmware next (some failure) := by
  refine ⟨integrity, fun _ => lined, ?_, ?_⟩
  · rw [ended]
    exact fun noReason => absurd noReason (Option.some_ne_none failure)
  · rw [ended]
    exact fun inLoop => absurd inLoop Bool.false_ne_true

theorem inv_wait (inv : Inv firmware ota reason) (at_ : ota.pc = .pulling)
    (integrity : OtaIntegrity.Inv firmware ota.wait) :
    Inv firmware ota.wait (record ota .wait reason) := by
  have inWindow : activated ota.pc = true := by rw [at_]; rfl
  have lined := inv.lined inWindow
  have reasoned := inv.reasoned (by rw [at_]; rfl)
  have phase := inv.phase
  have written := (inv.integrity.progress inWindow).2.trans (nextChunk_le inv.integrity inWindow)
  simp only [at_, Phase] at phase
  simp only [record, at_]
  revert integrity
  unfold Ota.wait
  by_cases more : (ota.session.subscribedOk &&
      decide (ota.session.done < ota.session.totalChunks)) = true
  · simp only [more, if_true, Bool.true_and]
    intro integrity
    cases failed : ota.failBit with
    | true =>
      rw [failed] at integrity
      exact inv_failed integrity (lined.congr rfl rfl rfl rfl) rfl
    | false =>
      rw [failed] at integrity
      exact ⟨integrity, fun _ => lined.congr rfl rfl rfl rfl, phase, fun _ => reasoned⟩
  · simp only [more, if_false, Bool.false_and, Bool.false_eq_true]
    intro integrity
    refine ⟨integrity, fun _ => lined.congr rfl rfl rfl rfl, ?_,
      fun inLoop => absurd inLoop Bool.false_ne_true⟩
    intro noReason
    have ended : ¬ota.session.done < ota.session.totalChunks := by
      simpa [reasoned noReason] using more
    exact Nat.le_antisymm written (Nat.not_lt.mp ended)

theorem inv_countDone (inv : Inv firmware ota reason) {chunkBit : Bool}
    (at_ : ota.pc = .woke chunkBit)
    (integrity : OtaIntegrity.Inv firmware (ota.countDone chunkBit)) :
    Inv firmware (ota.countDone chunkBit) (record ota .countDone reason) := by
  have inWindow : activated ota.pc = true := by rw [at_]; rfl
  have lined := inv.lined inWindow
  have reasoned := inv.reasoned (by rw [at_]; rfl)
  have phase := inv.phase
  have written := (inv.integrity.progress inWindow).2
  simp only [at_, Phase] at phase
  revert integrity
  simp only [Ota.countDone]
  by_cases same : ota.nextChunk = ota.session.done
  · rw [if_pos same]
    intro integrity
    cases chunkBit with
    | true =>
      have recorded : record ota .countDone reason = reason := by simp [record, at_]
      rw [recorded]
      exact ⟨integrity, fun _ => lined.congr rfl rfl rfl rfl, phase, fun _ => reasoned⟩
    | false =>
      have recorded : record ota .countDone reason = some (.timedOut ota.session.done) := by
        simp [record, at_, same]
      rw [recorded]
      exact inv_failed integrity (lined.congr rfl rfl rfl rfl) rfl
  · rw [if_neg same]
    have recorded : record ota .countDone reason = reason := by simp [record, at_, same]
    rw [recorded]
    intro integrity
    exact ⟨integrity, fun _ => lined.congr rfl rfl rfl rfl,
      ⟨phase.1, le_rfl, written, phase.2⟩, fun _ => reasoned⟩

theorem inv_topUp (inv : Inv firmware ota reason) {chunk nowDone : Nat}
    (at_ : ota.pc = .toppingUp chunk nowDone) (ok capExceeded : Bool)
    (integrity : OtaIntegrity.Inv firmware (ota.topUp chunk nowDone ok capExceeded)) :
    Inv firmware (ota.topUp chunk nowDone ok capExceeded)
      (record ota (.topUp ok capExceeded) reason) := by
  have inWindow : activated ota.pc = true := by rw [at_]; rfl
  have lined := inv.lined inWindow
  have reasoned := inv.reasoned (by rw [at_]; rfl)
  have phase := inv.phase
  simp only [at_, Phase] at phase
  obtain ⟨started, counted, within, reached⟩ := phase
  simp only [record, at_]
  revert integrity
  unfold Ota.topUp
  by_cases more : (ota.session.subscribedOk && decide (chunk < nowDone)) = true
  · simp only [more, if_true]
    simp only [Bool.and_eq_true, decide_eq_true_eq] at more
    obtain ⟨sound, below⟩ := more
    have reached := reached sound
    by_cases inside : chunk + subscribePipeline < ota.session.totalChunks
    · rw [if_pos inside]
      have full : reach ota = chunk + subscribePipeline := by omega
      intro integrity
      cases ok with
      | true =>
        have appended := @Lined.append ota
          { ota.subscribeChunk (chunk + subscribePipeline) true with
            pc := .toppingUp (chunk + 1) nowDone } lined rfl (by rw [full]; rfl) rfl rfl
        rw [if_neg (by simp)]
        refine ⟨integrity, fun _ => appended.1,
          ⟨started, counted.trans (Nat.le_succ _), below, fun _ => ?_⟩, fun _ _ => sound⟩
        rw [appended.2, full]
        show _ = min (chunk + 1 + subscribePipeline) ota.session.totalChunks
        omega
      | false =>
        rw [if_pos (by simpa using inside)]
        refine ⟨integrity, fun _ => lined.congr rfl rfl rfl rfl,
          ⟨started, counted.trans (Nat.le_succ _), below,
            fun sound => absurd sound Bool.false_ne_true⟩, ?_⟩
        rintro - ⟨⟩
    · rw [if_neg inside, if_neg (by simp [inside])]
      intro integrity
      refine ⟨integrity, fun _ => lined.congr rfl rfl rfl rfl,
        ⟨started, counted.trans (Nat.le_succ _), below, fun _ => ?_⟩, fun _ _ => sound⟩
      show reach ota = min (chunk + 1 + subscribePipeline) ota.session.totalChunks
      omega
  · simp only [more, if_false, Bool.false_eq_true]
    intro integrity
    have left : ota.session.subscribedOk = true →
        reach ota = min (nowDone + subscribePipeline) ota.session.totalChunks := by
      intro sound
      have ends : ¬chunk < nowDone := by simpa [sound] using more
      have last : chunk = nowDone := by omega
      rw [← last]
      exact reached sound
    by_cases capped : (decide (nowDone < ota.session.totalChunks) && capExceeded) = true
    · simp only [capped, if_true] at integrity ⊢
      exact inv_failed integrity (lined.congr rfl rfl rfl rfl) rfl
    · simp only [capped, if_false, Bool.false_eq_true] at integrity ⊢
      exact ⟨integrity, fun _ => lined.congr rfl rfl rfl rfl,
        ⟨started.trans (counted.trans within), left⟩, fun _ => reasoned⟩

theorem inv_session {event : OtaEvent} (inv : Inv firmware ota reason)
    (taken : ota.sessionStep firmware ota.pc event = some next)
    (integrity : OtaIntegrity.Inv firmware next) :
    Inv firmware next (record ota event reason) := by
  cases Ota.session_kind taken with
  | runIfDue _ _ => exact inv_outside integrity rfl (by simp [Ota.openClient])
  | connected _ => exact inv_outside integrity rfl (by simp)
  | unconnected _ _ => exact inv_outside integrity rfl (by simp [Ota.closeClient])
  | enterSession battery at_ =>
    refine ⟨integrity, ?_, ?_, ?_⟩
    · intro inWindow
      revert inWindow
      unfold Ota.enterSession
      dsimp only
      split <;> simp [activated]
    · unfold Ota.enterSession
      dsimp only
      split
      · trivial
      · rfl
    · intro inLoop
      revert inLoop
      unfold Ota.enterSession
      dsimp only
      split <;> simp [looping]
  | activate found beginOk hashSetupOk at_ =>
    obtain ⟨noTopic, noChunk⟩ := inv.integrity.quiet (.inr (.inr (.inl at_)))
    have phase := inv.phase
    rw [at_] at phase
    have fresh : record ota (.activate found beginOk hashSetupOk) reason = none := by
      simp [record, at_]
    rw [fresh]
    exact inv_activate noTopic noChunk phase found beginOk hashSetupOk integrity
  | beginWindow at_ =>
    have phase := inv.phase
    rw [at_] at phase
    have kept : record ota .beginWindow reason = reason := by simp [record, at_]
    rw [kept]
    exact ⟨integrity, fun _ => (inv.lined (by rw [at_]; rfl)).congr rfl rfl rfl rfl, phase,
      fun _ _ => phase.1⟩
  | pin at_ =>
    have phase := inv.phase
    rw [at_] at phase
    have kept : record ota .pin reason = reason := by simp [record, at_]
    rw [kept]
    refine ⟨integrity, fun _ => (inv.lined (by rw [at_]; rfl)).congr rfl rfl rfl rfl, ?_,
      fun _ _ => phase.1⟩
    intro _
    refine ⟨?_, le_max_left _ _⟩
    show ota.session.startChunk + ota.subscribed.length = _
    rw [phase.2.2]
    rfl
  | prime chunk ok at_ => exact inv_prime inv at_ ok integrity
  | wait at_ => exact inv_wait inv at_ integrity
  | countDone chunkBit at_ => exact inv_countDone inv at_ integrity
  | topUp chunk nowDone ok capExceeded at_ => exact inv_topUp inv at_ ok capExceeded integrity
  | endSession at_ =>
    exact ⟨integrity, fun _ => (inv.lined (by rw [at_]; rfl)).congr rfl rfl rfl rfl, trivial,
      fun inLoop => absurd inLoop Bool.false_ne_true⟩
  | finalize hashOk endOk bootOk at_ =>
    have closing := (Ota.finalize_frame ota firmware hashOk endOk bootOk).2
    exact inv_outside integrity (by rw [closing]; rfl) (by rw [closing]; simp)
  | endWindow at_ => exact inv_outside integrity rfl (by simp)
  | unpin at_ => exact inv_outside integrity rfl (by simp)
  | report at_ =>
    have over_ := (Ota.report_frame ota).2
    exact inv_outside integrity (by rcases over_ with same | same <;> rw [same] <;> rfl)
      (by rcases over_ with same | same <;> rw [same] <;> simp)
  | loopCheck uriFound _ _ =>
    revert integrity
    split
    · intro integrity
      exact inv_outside integrity rfl (by simp [Ota.openClient])
    · intro integrity
      exact inv_outside integrity rfl (by simp [Ota.closeClient])

/-! ## Events of the handler -/

theorem handleImageChunk_nextChunk (ota : Ota) (message : ChunkMessage) (writeOk hashOk : Bool) :
    (ota.handleImageChunk message writeOk hashOk).nextChunk = ota.nextChunk ∨
      (ota.handleImageChunk message writeOk hashOk).nextChunk = u32 (message.index + 1) := by
  unfold Ota.handleImageChunk
  split
  · exact .inl rfl
  · split
    · exact .inl rfl
    · split
      · exact .inl rfl
      · split
        · dsimp only
          split
          · exact .inr rfl
          · exact .inl rfl
        · exact .inl rfl

theorem Lined.subscribed_lt (lined : Lined ota) {chunk : Nat} (member : chunk ∈ ota.subscribed) :
    chunk < reach ota := by
  rw [lined.consecutive] at member
  exact (List.mem_range'_1.mp member).2

theorem lined_handler {event : OtaEvent} (integrity : OtaIntegrity.Inv firmware ota)
    (lined : Lined ota) (taken : ota.handlerStep ota.handler event = some next) : Lined next := by
  cases Ota.handler_kind taken with
  | arrives message subscribed _ =>
    refine ⟨lined.consecutive, lined.reached, ?_⟩
    intro other inHandler
    cases HandlerPc.chunk.inj inHandler
    exact subscribed
  | dropped message _ => exact lined
  | error _ => exact ⟨lined.consecutive, lined.reached, by simp⟩
  | ignored _ => exact lined
  | chunk message writeOk hashOk inHandler =>
    obtain ⟨frame, -⟩ := handleImageChunk_frame integrity inHandler writeOk hashOk
    have member : message.index ∈ ota.subscribed := lined.inFlight message inHandler
    refine ⟨?_, ?_, ?_⟩
    · rw [frame.subscribed, frame.session]
      exact lined.consecutive
    · rw [reach, frame.session, frame.subscribed]
      rcases handleImageChunk_nextChunk ota message writeOk hashOk with same | moved
      · rw [same]
        exact lined.reached
      · rw [moved]
        exact (Nat.mod_le _ _).trans (lined.subscribed_lt member)
    · intro other inNext
      rw [frame.subscribed]
      rcases frame.handler other inNext with subscribed | before
      · exact subscribed
      · exact lined.inFlight other before
  | lost _ => exact ⟨lined.consecutive, lined.reached, by simp⟩
  | chunkBit _ => exact ⟨lined.consecutive, lined.reached, by simp⟩
  | failBit _ => exact ⟨lined.consecutive, lined.reached, by simp⟩

theorem handlerStep_subscribed {event : OtaEvent} (integrity : OtaIntegrity.Inv firmware ota)
    (taken : ota.handlerStep ota.handler event = some next) : next.subscribed = ota.subscribed := by
  cases Ota.handler_kind taken with
  | chunk message writeOk hashOk inHandler =>
    exact (handleImageChunk_frame integrity inHandler writeOk hashOk).1.subscribed
  | _ => rfl

theorem record_handler {event : OtaEvent}
    (taken : ota.handlerStep ota.handler event = some next) :
    record ota event reason = reason := by
  cases Ota.handler_kind taken <;> simp [record]

theorem inv_handler {event : OtaEvent} (inv : Inv firmware ota reason)
    (taken : ota.handlerStep ota.handler event = some next)
    (integrity : OtaIntegrity.Inv firmware next) :
    Inv firmware next (record ota event reason) := by
  obtain ⟨-, -, -, -, session, pc⟩ := Ota.handlerStep_kept taken
  have subscribed : next.subscribed = ota.subscribed := handlerStep_subscribed inv.integrity taken
  rw [record_handler taken]
  refine ⟨integrity, ?_, ?_, ?_⟩
  · intro inWindow
    rw [pc] at inWindow
    exact lined_handler inv.integrity (inv.lined inWindow) taken
  · have phase := inv.phase
    rw [pc]
    revert phase
    unfold Phase reach
    rw [session, subscribed]
    exact id
  · rw [pc, session]
    exact inv.reasoned

end Window

/-! ## Every run -/

theorem inv_step (firmware : Firmware) (state : Observed) (event : OtaEvent) (after : Observed)
    (inv : Inv firmware state.1 state.2) (taken : step firmware state event = some after) :
    Inv firmware after.1 after.2 := by
  obtain ⟨stepped, recorded⟩ := Runs.observe_step taken
  rw [recorded]
  obtain ⟨ota, reason⟩ := state
  obtain ⟨next, _⟩ := after
  have integrity := OtaIntegrity.inv_step inv.integrity stepped
  cases Ota.step_kind stepped with
  | manifest message at_ =>
    have place : (ota.handleManifest firmware message).pc = .idle := by
      obtain ⟨manifest, same⟩ := ota.handleManifest_eq firmware message
      rw [same]
      exact at_
    apply inv_outside integrity
    · exact (congrArg activated place).trans rfl
    · exact fun activating => absurd (place.symm.trans activating) (by decide)
  | install set at_ =>
    apply inv_outside integrity
    · exact (congrArg activated at_).trans rfl
    · exact fun activating => absurd (at_.symm.trans activating) (by decide)
  | handler handled => exact inv_handler inv handled integrity
  | session ran => exact inv_session inv ran integrity

theorem inv_boot (firmware : Firmware) : Inv firmware {} none :=
  inv_outside (OtaIntegrity.inv_boot firmware) rfl (by simp)

/-- What holds of the pull loop: at its head, with no failed subscribe so far,
at its end, and with `all_chunks`. -/
structure InStep (ota : Ota) (reason : Option FailReason) : Prop where
  started : ota.pc = .pulling → ota.session.startChunk ≤ ota.session.done
  subscribed : ota.pc = .pulling → ota.session.subscribedOk = true →
    ota.subscribed = List.range' ota.session.startChunk
      (min (ota.session.done + subscribePipeline) ota.session.totalChunks - ota.session.startChunk)
  written : ota.pc = .pulling → ota.session.subscribedOk = true →
    ota.nextChunk ≤ min (ota.session.done + subscribePipeline) ota.session.totalChunks
  ended : ota.pc = .ended → reason = none → ota.nextChunk = ota.session.totalChunks
  allChunks : ota.pc = .ended ∨ ota.pc = .finalizing → ota.session.done = ota.session.totalChunks →
    ota.nextChunk = ota.session.totalChunks

theorem inStep_of_inv {firmware : Firmware} {ota : Ota} {reason : Option FailReason}
    (inv : Inv firmware ota reason) : InStep ota reason := by
  have complete : activated ota.pc = true → ota.session.done = ota.session.totalChunks →
      ota.nextChunk = ota.session.totalChunks := by
    intro inWindow all
    have counted := (inv.integrity.progress inWindow).2
    rw [all] at counted
    exact Nat.le_antisymm (nextChunk_le inv.integrity inWindow) counted
  have head : ota.pc = .pulling → ota.session.startChunk ≤ ota.session.done ∧
      (ota.session.subscribedOk = true →
        reach ota = min (ota.session.done + subscribePipeline) ota.session.totalChunks) := by
    intro at_
    have phase := inv.phase
    rw [at_] at phase
    exact phase
  constructor
  · exact fun at_ => (head at_).1
  · intro at_ sound
    have lined := inv.lined (by rw [at_]; rfl)
    rw [← (head at_).2 sound, reach, Nat.add_sub_cancel_left]
    exact lined.consecutive
  · intro at_ sound
    rw [← (head at_).2 sound]
    exact (inv.lined (by rw [at_]; rfl)).reached
  · intro at_ noReason
    have phase := inv.phase
    rw [at_] at phase
    exact complete (by rw [at_]; rfl) (phase noReason)
  · intro at_ all
    refine complete ?_ all
    rcases at_ with at_ | at_ <;> rw [at_] <;> rfl

/-- Whatever sessions, completions, bits and failures came before. -/
theorem window_inStep (firmware : Firmware) (events : List OtaEvent) (final : Observed)
    (ran : Runs.run (step firmware) ({}, none) events = some final) : InStep final.1 final.2 :=
  inStep_of_inv (Runs.run_invariant (fun state => Inv firmware state.1 state.2)
    (inv_step firmware) (inv_boot firmware) ran)

/-- In a resumed session, once its first chunk is written. -/
theorem window_inStep_resumed :
    ∃ final, Runs.run (step smallFirmware) ({}, none) (lostSession ++ resumedSession.take 15) =
        some final ∧
      final.1.pc = .pulling ∧ InStep final.1 final.2 := by
  obtain ⟨final, ran, pulling⟩ := Runs.exists_final
    (fun final : Observed => decide (final.1.pc = .pulling))
    (show (Runs.run (step smallFirmware) ({}, none)
      (lostSession ++ resumedSession.take 15)).any _ = true by decide +kernel)
  exact ⟨final, ran, of_decide_eq_true pulling,
    window_inStep smallFirmware (lostSession ++ resumedSession.take 15) final ran⟩

end SleepySensor.SubscribeWindow
