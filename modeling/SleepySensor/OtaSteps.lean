import SleepySensor.Ota

/-!
# Frames of the session's steps

What the functions of a session leave alone: the staged manifest always, the
partial download and the attempt counter outside of start and end.
-/

set_option autoImplicit false

namespace SleepySensor.Ota

variable {ota next : Ota}

/-- The download is waited for. -/
def pullingPc : SessionPc → Bool
  | .pulling | .woke _ | .toppingUp _ _ | .ended => true
  | _ => false

structure SessionFrame (ota next : Ota) : Prop where
  manifest : next.manifest = ota.manifest
  installRequested : next.installRequested = ota.installRequested
  noProgressAttempts : next.noProgressAttempts = ota.noProgressAttempts
  partialValid : next.partialValid = ota.partialValid
  partialManifest : next.partialManifest = ota.partialManifest
  nextChunk : next.nextChunk = ota.nextChunk
  sessionManifest : next.session.manifest = ota.session.manifest
  startChunk : next.session.startChunk = ota.session.startChunk
  totalChunks : next.session.totalChunks = ota.session.totalChunks

theorem subscribeChunk_frame (ota : Ota) (chunk : Nat) (ok : Bool) :
    SessionFrame ota (ota.subscribeChunk chunk ok) := by
  unfold subscribeChunk
  split <;> exact ⟨rfl, rfl, rfl, rfl, rfl, rfl, rfl, rfl, rfl⟩

theorem prime_frame (ota : Ota) (chunk : Nat) (ok : Bool) :
    SessionFrame ota (ota.prime chunk ok) ∧
      ((ota.prime chunk ok).pc = .priming (chunk + 1) ∨ (ota.prime chunk ok).pc = .pulling) := by
  have subscribed := subscribeChunk_frame ota chunk ok
  unfold prime
  split
  · exact ⟨⟨subscribed.manifest, subscribed.installRequested, subscribed.noProgressAttempts,
      subscribed.partialValid, subscribed.partialManifest, subscribed.nextChunk,
      subscribed.sessionManifest, subscribed.startChunk, subscribed.totalChunks⟩, .inl rfl⟩
  · exact ⟨⟨rfl, rfl, rfl, rfl, rfl, rfl, rfl, rfl, rfl⟩, .inr rfl⟩

theorem wait_frame (ota : Ota) : SessionFrame ota ota.wait ∧ pullingPc ota.wait.pc = true := by
  unfold wait
  split
  · refine ⟨⟨rfl, rfl, rfl, rfl, rfl, rfl, rfl, rfl, rfl⟩, ?_⟩
    dsimp only
    split <;> rfl
  · exact ⟨⟨rfl, rfl, rfl, rfl, rfl, rfl, rfl, rfl, rfl⟩, rfl⟩

theorem countDone_frame (ota : Ota) (chunkBit : Bool) :
    SessionFrame ota (ota.countDone chunkBit) ∧ pullingPc (ota.countDone chunkBit).pc = true := by
  unfold countDone
  dsimp only
  split
  · refine ⟨⟨rfl, rfl, rfl, rfl, rfl, rfl, rfl, rfl, rfl⟩, ?_⟩
    dsimp only
    split <;> rfl
  · exact ⟨⟨rfl, rfl, rfl, rfl, rfl, rfl, rfl, rfl, rfl⟩, rfl⟩

theorem topUp_frame (ota : Ota) (chunk nowDone : Nat) (ok capExceeded : Bool) :
    SessionFrame ota (ota.topUp chunk nowDone ok capExceeded) ∧
      pullingPc (ota.topUp chunk nowDone ok capExceeded).pc = true := by
  have subscribed := subscribeChunk_frame ota (chunk + subscribePipeline) ok
  unfold topUp
  split
  · refine ⟨?_, rfl⟩
    dsimp only
    split
    · exact ⟨subscribed.manifest, subscribed.installRequested, subscribed.noProgressAttempts,
        subscribed.partialValid, subscribed.partialManifest, subscribed.nextChunk,
        subscribed.sessionManifest, subscribed.startChunk, subscribed.totalChunks⟩
    · exact ⟨rfl, rfl, rfl, rfl, rfl, rfl, rfl, rfl, rfl⟩
  · refine ⟨⟨rfl, rfl, rfl, rfl, rfl, rfl, rfl, rfl, rfl⟩, ?_⟩
    dsimp only
    split <;> rfl

theorem activate_frame (ota : Ota) (found beginOk hashSetupOk : Bool) :
    (ota.activate found beginOk hashSetupOk).manifest = ota.manifest ∧
      ((ota.activate found beginOk hashSetupOk).pc = .starting ∨
        (ota.activate found beginOk hashSetupOk).pc = .returned) := by
  simp only [activate]
  generalize keptIs : (if (ota.partialValid && !ota.session.manifest.sameImage
    ota.partialManifest) = true then ota.discardPartialLocked else ota) = kept
  have manifest : kept.manifest = ota.manifest := by
    split at keptIs <;> subst keptIs <;> rfl
  split
  · exact ⟨manifest, .inl rfl⟩
  · split
    · exact ⟨manifest, .inr rfl⟩
    · split
      · exact ⟨manifest, .inr rfl⟩
      · split
        · exact ⟨manifest, .inr rfl⟩
        · exact ⟨manifest, .inl rfl⟩

theorem finalizeImage_eq (ota : Ota) (firmware : Firmware) (hashOk endOk bootOk : Bool) :
    ∃ handle boots, (ota.finalizeImage firmware hashOk endOk bootOk).1 =
      { ota with otaHandle := handle, boots := boots } := by
  unfold finalizeImage
  split
  · exact ⟨_, _, rfl⟩
  · split
    · exact ⟨_, _, rfl⟩
    · split <;> exact ⟨_, _, rfl⟩

theorem finalize_frame (ota : Ota) (firmware : Firmware) (hashOk endOk bootOk : Bool) :
    (ota.finalize firmware hashOk endOk bootOk).manifest = ota.manifest ∧
      (ota.finalize firmware hashOk endOk bootOk).pc = .closing := by
  refine ⟨?_, rfl⟩
  unfold finalize
  dsimp only
  split
  · obtain ⟨handle, boots, same⟩ := ota.finalizeImage_eq firmware hashOk endOk bootOk
    have kept : (ota.finalizeImage firmware hashOk endOk bootOk).1.manifest = ota.manifest := by
      rw [same]
    exact kept
  · rfl

theorem report_frame (ota : Ota) :
    ota.report.manifest = ota.manifest ∧
      (ota.report.pc = .rebooting ∨ ota.report.pc = .returned) := by
  unfold report
  split
  · exact ⟨rfl, .inl rfl⟩
  · exact ⟨rfl, .inr rfl⟩

/-! ## The handler -/

/-- What a step of the handler comes to.  Without an active session it drops what
it hears. -/
inductive HandlerKind (ota : Ota) : OtaEvent → Ota → Prop where
  | arrives (message : ChunkMessage) (subscribed : message.index ∈ ota.subscribed)
    (active : ota.sessionActive = true) :
    HandlerKind ota (.chunkArrives message) { ota with handler := .chunk message }
  | dropped (message : ChunkMessage) (inactive : ota.sessionActive = false) :
    HandlerKind ota (.chunkArrives message) ota
  | error (active : ota.sessionActive = true) :
    HandlerKind ota .mqttError { ota with handler := .connLost }
  | ignored (inactive : ota.sessionActive = false) : HandlerKind ota .mqttError ota
  | chunk (message : ChunkMessage) (writeOk hashOk : Bool)
    (inHandler : ota.handler = .chunk message) :
    HandlerKind ota (.chunkLocked writeOk hashOk) (ota.handleImageChunk message writeOk hashOk)
  | lost (atLost : ota.handler = .connLost) :
    HandlerKind ota .storeConnLost { ota with connLost := true, handler := .setFailBit }
  | chunkBit (atBit : ota.handler = .setChunkBit) :
    HandlerKind ota .setBit { ota with chunkBit := true, handler := .idle }
  | failBit (atBit : ota.handler = .setFailBit) :
    HandlerKind ota .setBit { ota with failBit := true, handler := .idle }

theorem handler_kind {event : OtaEvent} (taken : ota.handlerStep ota.handler event = some next) :
    HandlerKind ota event next := by
  unfold handlerStep at taken
  split at taken
  case h_1 message idle =>
    obtain ⟨⟨-, subscribed⟩, same⟩ := Option.ite_none_right_eq_some.mp taken
    cases Option.some.inj same
    by_cases active : ota.sessionActive = true
    · rw [if_pos active]
      exact .arrives message subscribed active
    · rw [if_neg active]
      exact .dropped message (Bool.eq_false_of_not_eq_true active)
  case h_2 idle =>
    obtain ⟨-, same⟩ := Option.ite_none_right_eq_some.mp taken
    cases Option.some.inj same
    by_cases active : ota.sessionActive = true
    · rw [if_pos active]
      exact .error active
    · rw [if_neg active]
      exact .ignored (Bool.eq_false_of_not_eq_true active)
  case h_3 message writeOk hashOk inHandler =>
    cases Option.some.inj taken
    exact .chunk message writeOk hashOk inHandler
  case h_4 atLost =>
    cases Option.some.inj taken
    exact .lost atLost
  case h_5 atBit =>
    cases Option.some.inj taken
    exact .chunkBit atBit
  case h_6 atBit =>
    cases Option.some.inj taken
    exact .failBit atBit
  case h_7 => cases taken

/-- What no step of the handler touches. -/
structure HandlerKept (ota next : Ota) : Prop where
  manifest : next.manifest = ota.manifest
  noProgressAttempts : next.noProgressAttempts = ota.noProgressAttempts
  partialValid : next.partialValid = ota.partialValid
  partialManifest : next.partialManifest = ota.partialManifest
  session : next.session = ota.session
  pc : next.pc = ota.pc

theorem handleImageChunk_kept (ota : Ota) (message : ChunkMessage) (writeOk hashOk : Bool) :
    HandlerKept ota (ota.handleImageChunk message writeOk hashOk) := by
  unfold handleImageChunk
  split
  · exact ⟨rfl, rfl, rfl, rfl, rfl, rfl⟩
  · split
    · exact ⟨rfl, rfl, rfl, rfl, rfl, rfl⟩
    · split
      · exact ⟨rfl, rfl, rfl, rfl, rfl, rfl⟩
      · split
        · dsimp only
          split <;> exact ⟨rfl, rfl, rfl, rfl, rfl, rfl⟩
        · exact ⟨rfl, rfl, rfl, rfl, rfl, rfl⟩

theorem handlerStep_kept {event : OtaEvent}
    (taken : ota.handlerStep ota.handler event = some next) : HandlerKept ota next := by
  cases handler_kind taken with
  | chunk message writeOk hashOk _ => exact handleImageChunk_kept ota message writeOk hashOk
  | _ => exact ⟨rfl, rfl, rfl, rfl, rfl, rfl⟩

/-! ## The session task -/

/-- What a step of the session task comes to. -/
inductive SessionKind (firmware : Firmware) (ota : Ota) : OtaEvent → Ota → Prop where
  | runIfDue (at_ : ota.pc = .idle) (due : ota.updateDue = true) :
    SessionKind firmware ota .runIfDue ota.openClient
  | connected (at_ : ota.pc = .connecting) :
    SessionKind firmware ota (.connectDone true) { ota with pc := .connected }
  | unconnected (at_ : ota.pc = .connecting) (idle : ota.handler = .idle) :
    SessionKind firmware ota (.connectDone false) ota.closeClient
  | enterSession (battery : Option Flt) (at_ : ota.pc = .connected) :
    SessionKind firmware ota (.enterSession battery) (ota.enterSession battery)
  | activate (found beginOk hashSetupOk : Bool) (at_ : ota.pc = .activating) :
    SessionKind firmware ota (.activate found beginOk hashSetupOk)
      (ota.activate found beginOk hashSetupOk)
  | beginWindow (at_ : ota.pc = .starting) :
    SessionKind firmware ota .beginWindow ota.beginWindow
  | pin (at_ : ota.pc = .pinning) :
    SessionKind firmware ota .pin { ota with pc := .priming ota.session.startChunk }
  | prime (chunk : Nat) (ok : Bool) (at_ : ota.pc = .priming chunk) :
    SessionKind firmware ota (.prime ok) (ota.prime chunk ok)
  | wait (at_ : ota.pc = .pulling) : SessionKind firmware ota .wait ota.wait
  | countDone (chunkBit : Bool) (at_ : ota.pc = .woke chunkBit) :
    SessionKind firmware ota .countDone (ota.countDone chunkBit)
  | topUp (chunk nowDone : Nat) (ok capExceeded : Bool) (at_ : ota.pc = .toppingUp chunk nowDone) :
    SessionKind firmware ota (.topUp ok capExceeded) (ota.topUp chunk nowDone ok capExceeded)
  | endSession (at_ : ota.pc = .ended) :
    SessionKind firmware ota .endSession { ota with sessionActive := false, pc := .finalizing }
  | finalize (hashOk endOk bootOk : Bool) (at_ : ota.pc = .finalizing) :
    SessionKind firmware ota (.finalize hashOk endOk bootOk)
      (ota.finalize firmware hashOk endOk bootOk)
  | endWindow (at_ : ota.pc = .closing) :
    SessionKind firmware ota .endWindow { ota with pc := .unpinning }
  | unpin (at_ : ota.pc = .unpinning) :
    SessionKind firmware ota .unpin { ota with pc := .reporting }
  | report (at_ : ota.pc = .reporting) : SessionKind firmware ota .report ota.report
  | loopCheck (uriFound : Bool) (at_ : ota.pc = .returned) (idle : ota.handler = .idle) :
    SessionKind firmware ota (.loopCheck uriFound)
      (if ota.updateDue && ota.connLost && uriFound then ota.openClient else ota.closeClient)

theorem session_kind {firmware : Firmware} {event : OtaEvent}
    (taken : ota.sessionStep firmware ota.pc event = some next) :
    SessionKind firmware ota event next := by
  unfold sessionStep at taken
  split at taken
  case h_1 at_ =>
    obtain ⟨due, same⟩ := Option.ite_none_right_eq_some.mp taken
    cases Option.some.inj same
    exact .runIfDue at_ due
  case h_2 connected at_ =>
    cases connected with
    | true =>
      cases Option.some.inj taken
      exact .connected at_
    | false =>
      obtain ⟨idle, same⟩ := Option.ite_none_right_eq_some.mp taken
      cases Option.some.inj same
      exact .unconnected at_ idle
  case h_16 uriFound at_ =>
    obtain ⟨idle, same⟩ := Option.ite_none_right_eq_some.mp taken
    cases Option.some.inj same
    exact .loopCheck uriFound at_ idle
  case h_17 => cases taken
  all_goals
    rename_i at_
    cases Option.some.inj taken
  case h_3 battery => exact .enterSession battery at_
  case h_4 found beginOk hashSetupOk => exact .activate found beginOk hashSetupOk at_
  case h_5 => exact .beginWindow at_
  case h_6 => exact .pin at_
  case h_7 chunk ok => exact .prime chunk ok at_
  case h_8 => exact .wait at_
  case h_9 chunkBit => exact .countDone chunkBit at_
  case h_10 chunk nowDone ok capExceeded => exact .topUp chunk nowDone ok capExceeded at_
  case h_11 => exact .endSession at_
  case h_12 hashOk endOk bootOk => exact .finalize hashOk endOk bootOk at_
  case h_13 => exact .endWindow at_
  case h_14 => exact .unpin at_
  case h_15 => exact .report at_

/-! ## All of them -/

inductive StepKind (firmware : Firmware) (ota : Ota) : OtaEvent → Ota → Prop where
  | manifest (message : ManifestMessage) (at_ : ota.pc = .idle) :
    StepKind firmware ota (.manifest message) (ota.handleManifest firmware message)
  | install (set : Bool) (at_ : ota.pc = .idle) :
    StepKind firmware ota (.install set) { ota with installRequested := set }
  | handler {event next} (taken : ota.handlerStep ota.handler event = some next) :
    StepKind firmware ota event next
  | session {event next} (taken : ota.sessionStep firmware ota.pc event = some next) :
    StepKind firmware ota event next

theorem step_kind {firmware : Firmware} {event : OtaEvent}
    (taken : ota.step firmware event = some next) : StepKind firmware ota event next := by
  cases event with
  | manifest message =>
    obtain ⟨at_, same⟩ := Option.ite_none_right_eq_some.mp taken
    cases Option.some.inj same
    exact .manifest message at_
  | install set =>
    obtain ⟨at_, same⟩ := Option.ite_none_right_eq_some.mp taken
    cases Option.some.inj same
    exact .install set at_
  | chunkArrives message => exact .handler taken
  | chunkLocked writeOk hashOk => exact .handler taken
  | mqttError => exact .handler taken
  | storeConnLost => exact .handler taken
  | setBit => exact .handler taken
  | _ => exact .session taken

/-- A manifest message changes the staged manifest alone. -/
theorem handleManifest_eq (ota : Ota) (firmware : Firmware) (message : ManifestMessage) :
    ∃ manifest, ota.handleManifest firmware message = { ota with manifest := manifest } := by
  unfold handleManifest
  split
  · exact ⟨_, rfl⟩
  · exact ⟨ota.manifest, rfl⟩
  · split
    · exact ⟨_, rfl⟩
    · exact ⟨ota.manifest, rfl⟩

end SleepySensor.Ota
