import SleepySensor.OtaIntegrity
import SleepySensor.OtaSteps

/-!
# The arithmetic of a session

The divisions, products and differences of `ota_run_session` and
`handle_image_chunk`, over every interleaving of messages and sessions.
-/

set_option autoImplicit false

namespace SleepySensor.OtaArithmetic

open SleepySensor.OtaIntegrity

/-- From the manifest copy of `ota_run_session` to its return. -/
def running : SessionPc → Bool
  | .idle | .connecting | .connected => false
  | _ => true

def subscribing : SessionPc → Bool
  | .priming _ | .toppingUp _ _ => true
  | _ => false

/-- A size and a chunk size that a received manifest may have. -/
structure Chunked (manifest : Manifest) : Prop where
  nonempty : 0 < manifest.size
  positive : 1 ≤ manifest.chunkSize
  inBuffer : manifest.chunkSize ≤ otaMaxChunkSize

/-- The sum under the division fits in 32 bits and the quotient is the least
number of chunks that holds the image. -/
structure ExactCount (session : Session) : Prop where
  fits : session.manifest.size + session.manifest.chunkSize < u32Mod
  ceiling : IsLeast {n | session.manifest.size ≤ n * session.manifest.chunkSize}
    session.totalChunks

/-- `expected_len` is the length of this chunk in every image of the size. -/
structure ExactLen (ota : Ota) (index : Nat) : Prop where
  before : ota.nextChunk * ota.partialManifest.chunkSize < ota.partialManifest.size
  fits : ota.partialManifest.size < u32Mod
  length : ∀ image : Bytes, image.length = ota.partialManifest.size →
    ota.expectedLen = ((image.drop (index * ota.partialManifest.chunkSize)).take
      ota.partialManifest.chunkSize).length

structure Exact (ota : Ota) : Prop where
  copied : running ota.pc = true → Chunked ota.session.manifest
  counted : subscribing ota.pc = true → ExactCount ota.session
  compared : ∀ message, ota.handler = .chunk message → message.index = ota.nextChunk →
    ExactLen ota message.index

/-! ## What a session keeps -/

variable {firmware : Firmware} {ota next : Ota}

/-- The copy of the manifest is a received one, and `s_partial_manifest` is of
the same image for as long as a chunk can arrive, even after a discard. -/
structure Kept (ota : Ota) : Prop where
  copied : running ota.pc = true → Chunked ota.session.manifest
  remembered : Engaged ota → Geometry ota.partialManifest ∧
    ota.session.manifest.sameImage ota.partialManifest = true

theorem Kept.frame (kept : Kept ota) (partialManifest : next.partialManifest = ota.partialManifest)
    (manifest : next.session.manifest = ota.session.manifest)
    (runs : running next.pc = true → running ota.pc = true)
    (engaged : Engaged next → Engaged ota) : Kept next := by
  constructor
  · intro ran
    rw [manifest]
    exact kept.copied (runs ran)
  · intro engagedNext
    rw [manifest, partialManifest]
    exact kept.remembered (engaged engagedNext)

theorem running_of_activated {pc : SessionPc} (inWindow : activated pc = true) :
    running pc = true := by
  cases pc <;> first | rfl | cases inWindow

theorem Kept.window (kept : Kept ota) (frame : Ota.SessionFrame ota next)
    (before : activated ota.pc = true) : Kept next :=
  kept.frame frame.partialManifest frame.sessionManifest
    (fun _ => running_of_activated before) (fun _ => .inl before)

theorem engaged_of_topics (outside : activated next.pc = false)
    (subscribed : next.subscribed = ota.subscribed) (handler : next.handler = ota.handler)
    (engaged : Engaged next) : Engaged ota := by
  rcases engaged with inWindow | topics | ⟨message, inHandler⟩
  · exact absurd (outside.symm.trans inWindow) (by decide)
  · exact .inr (.inl (subscribed ▸ topics))
  · exact .inr (.inr ⟨message, handler ▸ inHandler⟩)

theorem kept_client {subscribed : List Nat} {pc : SessionPc} (idle : running pc = false)
    (noTopic : subscribed = []) (noChunk : ∀ message, ota.handler ≠ .chunk message) :
    Kept { ota with subscribed := subscribed, pc := pc } := by
  constructor
  · intro ran
    exact absurd (idle.symm.trans ran) (by decide)
  · rintro (inWindow | topics | ⟨message, inHandler⟩)
    · exact absurd (idle.symm.trans (running_of_activated inWindow)) (by decide)
    · exact absurd noTopic topics
    · exact absurd inHandler (noChunk message)

theorem kept_enterSession (inv : Inv firmware ota) (at_ : ota.pc = .connected)
    (battery : Option Flt) : Kept (ota.enterSession battery) := by
  have valid : ota.manifest.valid = true := inv.due (.inr at_)
  obtain ⟨nonempty, positive, inBuffer⟩ := inv.staged valid
  have outside : activated (ota.enterSession battery).pc = false := by
    unfold Ota.enterSession
    dsimp only
    split <;> rfl
  constructor
  · intro _
    exact ⟨nonempty, positive, inBuffer⟩
  · intro engaged
    have before : Engaged ota := engaged_of_topics outside rfl rfl engaged
    exact absurd before (not_engaged (by rw [at_]; rfl) (inv.quiet (.inr (.inl at_))))

theorem kept_activate (inv : Inv firmware ota) (kept : Kept ota) (at_ : ota.pc = .activating)
    (found beginOk hashSetupOk : Bool) : Kept (ota.activate found beginOk hashSetupOk) := by
  have started := inv_activate inv at_ found beginOk hashSetupOk
  obtain ⟨noTopic, noChunk⟩ := inv.quiet (.inr (.inr (.inl at_)))
  have frame : (ota.activate found beginOk hashSetupOk).subscribed = ota.subscribed ∧
      (ota.activate found beginOk hashSetupOk).handler = ota.handler ∧
      (ota.activate found beginOk hashSetupOk).session.manifest = ota.session.manifest := by
    simp only [Ota.activate]
    generalize keptIs : (if (ota.partialValid && !ota.session.manifest.sameImage
      ota.partialManifest) = true then ota.discardPartialLocked else ota) = left
    have same : left.subscribed = ota.subscribed ∧ left.handler = ota.handler ∧
        left.session = ota.session := by
      split at keptIs <;> subst keptIs <;> exact ⟨rfl, rfl, rfl⟩
    obtain ⟨subscribed, handler, session⟩ := same
    have manifest := congrArg Session.manifest session
    split
    · exact ⟨subscribed, handler, manifest⟩
    · split
      · exact ⟨subscribed, handler, manifest⟩
      · split
        · exact ⟨subscribed, handler, manifest⟩
        · split <;> exact ⟨subscribed, handler, manifest⟩
  obtain ⟨subscribed, handler, manifest⟩ := frame
  constructor
  · intro _
    rw [manifest]
    exact kept.copied (by rw [at_]; rfl)
  · intro engaged
    rcases engaged with inWindow | topics | ⟨message, inHandler⟩
    · have valid := started.current inWindow
      exact ⟨started.sound.geometry valid, started.same (.inl inWindow) valid⟩
    · exact absurd (subscribed.trans noTopic) topics
    · exact absurd (handler.symm.trans inHandler) (noChunk message)

theorem finalize_kept (ota : Ota) (hashOk endOk bootOk : Bool) :
    (ota.finalize firmware hashOk endOk bootOk).partialManifest = ota.partialManifest := by
  unfold Ota.finalize
  dsimp only
  split
  · obtain ⟨handle, boots, same⟩ := ota.finalizeImage_eq firmware hashOk endOk bootOk
    have kept : (ota.finalizeImage firmware hashOk endOk bootOk).1.partialManifest =
        ota.partialManifest := by
      rw [same]
    exact kept
  · rfl

theorem kept_session {event : OtaEvent} (inv : Inv firmware ota) (kept : Kept ota)
    (taken : ota.sessionStep firmware ota.pc event = some next) : Kept next := by
  have inWindow : ∀ {pc : SessionPc}, ota.pc = pc → activated pc = true →
      activated ota.pc = true := by
    intro pc at_ window
    rw [at_, window]
  cases Ota.session_kind taken with
  | runIfDue at_ _ => exact kept_client rfl rfl (inv.quiet (.inr (.inr (.inr at_)))).2
  | connected at_ =>
    obtain ⟨noTopic, noChunk⟩ := inv.quiet (.inl at_)
    exact kept_client rfl noTopic noChunk
  | unconnected at_ _ => exact kept_client rfl rfl (inv.quiet (.inl at_)).2
  | enterSession battery at_ => exact kept_enterSession inv at_ battery
  | activate found beginOk hashSetupOk at_ =>
    exact kept_activate inv kept at_ found beginOk hashSetupOk
  | beginWindow at_ =>
    exact kept.window ⟨rfl, rfl, rfl, rfl, rfl, rfl, rfl, rfl, rfl⟩ (inWindow at_ rfl)
  | pin at_ => exact kept.window ⟨rfl, rfl, rfl, rfl, rfl, rfl, rfl, rfl, rfl⟩ (inWindow at_ rfl)
  | prime chunk ok at_ => exact kept.window (Ota.prime_frame ota chunk ok).1 (inWindow at_ rfl)
  | wait at_ => exact kept.window (Ota.wait_frame ota).1 (inWindow at_ rfl)
  | countDone chunkBit at_ =>
    exact kept.window (Ota.countDone_frame ota chunkBit).1 (inWindow at_ rfl)
  | topUp chunk nowDone ok capExceeded at_ =>
    exact kept.window (Ota.topUp_frame ota chunk nowDone ok capExceeded).1 (inWindow at_ rfl)
  | endSession at_ =>
    exact kept.window ⟨rfl, rfl, rfl, rfl, rfl, rfl, rfl, rfl, rfl⟩ (inWindow at_ rfl)
  | finalize hashOk endOk bootOk at_ =>
    exact kept.frame (finalize_kept ota hashOk endOk bootOk) rfl (fun _ => by rw [at_]; rfl)
      (fun _ => .inl (inWindow at_ rfl))
  | endWindow at_ =>
    exact kept.frame rfl rfl (fun _ => by rw [at_]; rfl) (engaged_of_topics rfl rfl rfl)
  | unpin at_ =>
    exact kept.frame rfl rfl (fun _ => by rw [at_]; rfl) (engaged_of_topics rfl rfl rfl)
  | report at_ =>
    unfold Ota.report
    split
    · exact kept.frame rfl rfl (fun _ => by rw [at_]; rfl) (engaged_of_topics rfl rfl rfl)
    · exact kept.frame rfl rfl (fun _ => by rw [at_]; rfl) (engaged_of_topics rfl rfl rfl)
  | loopCheck uriFound at_ idle =>
    have noChunk : ∀ message, ota.handler ≠ .chunk message := by
      intro message
      simp [idle]
    split
    · exact kept_client rfl rfl noChunk
    · exact kept_client rfl rfl noChunk

theorem engaged_of_handler {handler : HandlerPc} (noChunk : ∀ message, handler ≠ .chunk message)
    (engaged : Engaged { ota with handler := handler }) : Engaged ota := by
  rcases engaged with inWindow | topics | ⟨message, inHandler⟩
  · exact .inl inWindow
  · exact .inr (.inl topics)
  · exact absurd inHandler (noChunk message)

theorem handlerStep_engaged {event : OtaEvent}
    (taken : ota.handlerStep ota.handler event = some next) (engaged : Engaged next) :
    Engaged ota := by
  cases Ota.handler_kind taken with
  | arrives message subscribed _ => exact .inr (.inl (List.ne_nil_of_mem subscribed))
  | dropped message _ => exact engaged
  | error _ => exact engaged_of_handler (by simp) engaged
  | ignored _ => exact engaged
  | chunk message writeOk hashOk inHandler => exact .inr (.inr ⟨message, inHandler⟩)
  | lost _ => exact @engaged_of_handler { ota with connLost := true } _ (by simp) engaged
  | chunkBit _ => exact @engaged_of_handler { ota with chunkBit := true } _ (by simp) engaged
  | failBit _ => exact @engaged_of_handler { ota with failBit := true } _ (by simp) engaged

theorem kept_handler {event : OtaEvent} (kept : Kept ota)
    (taken : ota.handlerStep ota.handler event = some next) : Kept next := by
  obtain ⟨-, -, -, partialManifest, session, pc⟩ := Ota.handlerStep_kept taken
  apply kept.frame partialManifest (congrArg Session.manifest session)
  · intro ran
    exact pc ▸ ran
  · exact handlerStep_engaged taken

theorem kept_step (firmware : Firmware) (ota : Ota) (event : OtaEvent) (next : Ota)
    (inv : Inv firmware ota ∧ Kept ota) (taken : ota.step firmware event = some next) :
    Inv firmware next ∧ Kept next := by
  obtain ⟨inv, kept⟩ := inv
  refine ⟨inv_step inv taken, ?_⟩
  cases Ota.step_kind taken with
  | manifest message at_ =>
    obtain ⟨manifest, same⟩ := ota.handleManifest_eq firmware message
    rw [same]
    exact kept.frame rfl rfl id id
  | install set at_ => exact kept.frame rfl rfl id id
  | handler handled => exact kept_handler kept handled
  | session ran => exact kept_session inv kept ran

/-! ## What the arithmetic rests on -/

theorem exactCount_of_kept (inv : Inv firmware ota) (kept : Kept ota)
    (at_ : subscribing ota.pc = true) : ExactCount ota.session := by
  have inWindow : activated ota.pc = true := by
    revert at_
    cases ota.pc <;> simp [subscribing, activated]
  obtain ⟨remembered, same⟩ := kept.remembered (.inl inWindow)
  have geometry : Geometry ota.session.manifest := remembered.congr same
  have total : ota.session.totalChunks = chunkCount ota.session.manifest := by
    rw [inv.total (.inr (.inl inWindow)), totalChunks_eq geometry]
  constructor
  · have inSlot := geometry.inSlot
    have inBuffer := geometry.inBuffer
    simp only [otaSlotSize, otaMaxChunkSize, u32Mod] at *
    omega
  · rw [total]
    refine ⟨Chunks.size_le_count_mul geometry.chunked, ?_⟩
    intro enough holds
    by_contra fewer
    have more := (Chunks.lt_count_iff geometry.chunked).mp (Nat.not_le.mp fewer)
    exact absurd holds (Nat.not_le.mpr more)

theorem exactLen_of_kept (inv : Inv firmware ota) (kept : Kept ota) {message : ChunkMessage}
    (inHandler : ota.handler = .chunk message) (waited : message.index = ota.nextChunk) :
    ExactLen ota message.index := by
  have engaged : Engaged ota := .inr (.inr ⟨message, inHandler⟩)
  obtain ⟨geometry, same⟩ := kept.remembered engaged
  have inside : message.index < ota.session.totalChunks := inv.inFlight message inHandler
  rw [inv.total (.inr engaged), totalChunks_congr same, totalChunks_eq geometry, waited] at inside
  have before := (Chunks.lt_count_iff geometry.chunked).mp inside
  have inSlot := geometry.inSlot
  constructor
  · exact before
  · simp only [otaSlotSize, u32Mod] at *
    omega
  · intro image size
    rw [expectedLen_eq geometry inside, List.length_take, List.length_drop, size, waited,
      Chunks.len]

/-- In every state reached: whatever messages, sessions and reconnects came
before, no operation of a session wraps or divides by zero. -/
theorem sessionArithmetic_exact (firmware : Firmware) (events : List OtaEvent) (final : Ota)
    (ran : Runs.run (Ota.step firmware) {} events = some final) : Exact final := by
  have atBoot : Inv firmware {} ∧ Kept {} := by
    refine ⟨inv_boot firmware, ?_, ?_⟩
    · intro ran
      cases ran
    · intro engaged
      exact absurd engaged (not_engaged rfl ((inv_boot firmware).quiet (by simp)))
  obtain ⟨inv, kept⟩ := Runs.run_invariant (fun ota => Inv firmware ota ∧ Kept ota)
    (kept_step firmware) atBoot ran
  exact ⟨kept.copied, exactCount_of_kept inv kept, fun _ => exactLen_of_kept inv kept⟩

/-- The first chunk of a resumed session on its way to the comparison. -/
theorem sessionArithmetic_resumed :
    ∃ final, Runs.run (Ota.step smallFirmware) {} (lostSession ++ resumedSession.take 9) =
        some final ∧
      final.handler = .chunk (smallChunk 1) ∧ Exact final := by
  obtain ⟨final, ran, arrived⟩ := Runs.exists_final
    (fun final : Ota => decide (final.handler = .chunk (smallChunk 1)))
    (show (Runs.run (Ota.step smallFirmware) {}
      (lostSession ++ resumedSession.take 9)).any _ = true by decide +kernel)
  exact ⟨final, ran, of_decide_eq_true arrived,
    sessionArithmetic_exact smallFirmware (lostSession ++ resumedSession.take 9) final ran⟩

end SleepySensor.OtaArithmetic
