import SleepySensor.RetryBudget

/-!
# The download that is kept

What the handle, the hash operation and the counters of a kept partial download
say about each other at every exit of the chunk handler and of the session.
-/

set_option autoImplicit false

namespace SleepySensor.KeptDownload

open SleepySensor.OtaIntegrity

/-- What the accepted chunks add up to. -/
def content (ota : Ota) : Bytes := (payloads ota.accepted).flatten

/-- The chunks that are missing, as the image they complete has them. -/
structure Rest (firmware : Firmware) (ota : Ota) (rest : List ChunkMessage) : Prop where
  indices : rest.map (·.index) =
    List.range' ota.nextChunk (chunkCount ota.partialManifest - ota.nextChunk)
  whole : ∀ message ∈ rest, message.offset = 0 ∧ message.total = message.data.length ∧
    message.data.length =
      Chunks.len ota.partialManifest.size ota.partialManifest.chunkSize message.index
  digest : firmware.sha256 (content ota ++ (rest.map (·.data)).flatten) =
    ota.partialManifest.sha256

/-- The handler over messages, none of whose writes and hash updates fails. -/
def feed (ota : Ota) (messages : List ChunkMessage) : Ota :=
  messages.foldl (fun ota message => ota.handleImageChunk message true true) ota

structure Resumable (firmware : Firmware) (ota : Ota) : Prop where
  indices : ota.accepted.map (·.index) = List.range ota.nextChunk
  pieces : Chunks.Pieces ota.partialManifest.size ota.partialManifest.chunkSize
    (payloads ota.accepted)
  written : ota.otaHandle = some (content ota)
  absorbed : ota.shaOp = .active (content ota)
  received : ota.received = (content ota).length
  completes : ∀ rest, Rest firmware ota rest →
    (feed ota rest).nextChunk = chunkCount ota.partialManifest ∧
      (feed ota rest).shaOp.finish firmware true = some ota.partialManifest.sha256

/-- A download that the step leaves behind can be resumed. -/
def StaysResumable (firmware : Firmware) (ota : Ota) (event : OtaEvent) : Prop :=
  ∀ next, ota.step firmware event = some next → next.partialValid = true →
    Resumable firmware next

/-- The chunk that is waited for, as `handle_image_chunk` checks it. -/
def Acceptable (ota : Ota) (message : ChunkMessage) : Prop :=
  message.offset = 0 ∧ message.total = message.data.length ∧ message.index = ota.nextChunk ∧
    message.data.length = ota.expectedLen

instance (ota : Ota) (message : ChunkMessage) : Decidable (Acceptable ota message) := by
  unfold Acceptable
  infer_instance

/-- `psa_hash_update` does not fail for a chunk of the kept download that
`esp_ota_write` has taken. -/
def HashKeepsUp (ota : Ota) : OtaEvent → Prop
  | .chunkLocked true false =>
    match ota.handler with
    | .chunk message => ota.partialValid = true → ¬Acceptable ota message
    | _ => True
  | _ => True

instance (ota : Ota) (event : OtaEvent) : Decidable (HashKeepsUp ota event) := by
  unfold HashKeepsUp
  repeat' split
  all_goals infer_instance

/-! ## The chunk handler -/

variable {firmware : Firmware} {ota next : Ota} {message : ChunkMessage}

/-- The chunk is turned down, reaches flash and hash, or reaches only flash. -/
theorem handleImageChunk_cases (ota : Ota) (message : ChunkMessage) (writeOk hashOk : Bool) :
    (∃ handler, ota.handleImageChunk message writeOk hashOk = { ota with handler := handler }) ∨
    ∃ written, Acceptable ota message ∧ writeOk = true ∧ ota.otaHandle = some written ∧
      ota.handleImageChunk message writeOk hashOk =
        if (ota.shaOp.update message.data hashOk).2 then
          { ota with
            otaHandle := some (written ++ message.data)
            shaOp := (ota.shaOp.update message.data hashOk).1
            nextChunk := u32 (message.index + 1)
            received := u32 (ota.received + message.data.length)
            accepted := ota.accepted ++
              [{ index := message.index, payload := message.data
                 session := ota.session.manifest }]
            handler := .setChunkBit }
        else
          { ota with
            otaHandle := some (written ++ message.data)
            shaOp := (ota.shaOp.update message.data hashOk).1
            handler := .setFailBit } := by
  unfold Ota.handleImageChunk
  split
  · exact .inl ⟨_, rfl⟩
  · rename_i segmented
    split
    · exact .inl ⟨_, rfl⟩
    · rename_i stale
      split
      · exact .inl ⟨_, rfl⟩
      · rename_i misfit
        split
        · rename_i written handle
          simp only [not_or, not_not] at segmented stale misfit
          exact .inr ⟨written, ⟨segmented.1, segmented.2, stale, misfit⟩, rfl, handle, rfl⟩
        · exact .inl ⟨_, rfl⟩

/-- The handle and the hash operation after `fed` and one more chunk. -/
structure Extended (ota next : Ota) (fed : Bytes) : Prop where
  partialManifest : next.partialManifest = ota.partialManifest
  handle : next.otaHandle = some fed
  active : next.shaOp = .active fed
  nextChunk : next.nextChunk = ota.nextChunk + 1

theorem feed_chunk {fed : Bytes} (geometry : Geometry ota.partialManifest)
    (more : ota.nextChunk < chunkCount ota.partialManifest) (handle : ota.otaHandle = some fed)
    (active : ota.shaOp = .active fed) (unsegmented : message.offset = 0)
    (total : message.total = message.data.length) (waited : message.index = ota.nextChunk)
    (fits : message.data.length =
      Chunks.len ota.partialManifest.size ota.partialManifest.chunkSize message.index) :
    Extended ota (ota.handleImageChunk message true true) (fed ++ message.data) := by
  have length : message.data.length = ota.expectedLen := by
    rw [expectedLen_eq geometry more, fits, waited]
  have wraps : u32 (ota.nextChunk + 1) = ota.nextChunk + 1 :=
    u32_of_lt (lt_of_le_of_lt more (chunkCount_small geometry))
  unfold Ota.handleImageChunk
  simp only [unsegmented, total, waited, length, handle, active, HashOp.update, wraps, ne_eq,
    not_true_eq_false, or_self, if_false, if_true]
  exact ⟨rfl, rfl, rfl, rfl⟩

theorem feed_all {rest : List ChunkMessage} {fed : Bytes} (geometry : Geometry ota.partialManifest)
    (handle : ota.otaHandle = some fed) (active : ota.shaOp = .active fed)
    (indices : rest.map (·.index) = List.range' ota.nextChunk rest.length)
    (inside : ota.nextChunk + rest.length ≤ chunkCount ota.partialManifest)
    (whole : ∀ message ∈ rest, message.offset = 0 ∧ message.total = message.data.length ∧
      message.data.length =
        Chunks.len ota.partialManifest.size ota.partialManifest.chunkSize message.index) :
    (feed ota rest).nextChunk = ota.nextChunk + rest.length ∧
      (feed ota rest).shaOp = .active (fed ++ (rest.map (·.data)).flatten) := by
  induction rest generalizing ota fed with
  | nil => exact ⟨rfl, by simpa [feed] using active⟩
  | cons message rest ih =>
    rw [List.map_cons, List.length_cons, List.range'_succ, List.cons.injEq] at indices
    rw [List.length_cons] at inside
    obtain ⟨waited, later⟩ := indices
    obtain ⟨unsegmented, total, fits⟩ := whole message List.mem_cons_self
    obtain ⟨partialManifest, handleNext, activeNext, counted⟩ :=
      feed_chunk geometry (by omega) handle active unsegmented total waited fits
    have rested : feed ota (message :: rest) =
        feed (ota.handleImageChunk message true true) rest := rfl
    rw [rested]
    have all := @ih (ota.handleImageChunk message true true) (fed ++ message.data)
    rw [partialManifest, counted] at all
    obtain ⟨done, absorbed⟩ := all geometry handleNext activeNext later (by omega)
      (fun other member => whole other (List.mem_cons_of_mem _ member))
    refine ⟨?_, ?_⟩
    · rw [done, List.length_cons]
      omega
    · rw [absorbed, List.map_cons, List.flatten_cons, List.append_assoc]

/-! ## The invariant -/

/-- The hash operation is fed and the byte counter exact. -/
def Fed (ota : Ota) : Prop :=
  ota.partialValid = true → (∃ fed, ota.shaOp = .active fed) ∧ ota.received = (content ota).length

theorem content_length (inv : Inv firmware ota) :
    (content ota).length ≤ ota.partialManifest.size := by
  have cut := inv.sound.pieces.flatten_length
  show (payloads ota.accepted).flatten.length ≤ _
  exact cut.trans_le (Nat.min_le_right _ _)

theorem resumable_of_fed (inv : Inv firmware ota) (fed : Fed ota)
    (valid : ota.partialValid = true) : Resumable firmware ota := by
  obtain ⟨⟨bytes, active⟩, received⟩ := fed valid
  obtain ⟨handle, flat⟩ := inv.sound.content bytes active
  have same : bytes = content ota := flat
  subst same
  refine ⟨inv.sound.indices, inv.sound.pieces, handle, active, received, ?_⟩
  intro rest missing
  have geometry : Geometry ota.partialManifest := inv.sound.geometry valid
  have within : ota.nextChunk ≤ chunkCount ota.partialManifest := inv.sound.within valid
  have length : rest.length = chunkCount ota.partialManifest - ota.nextChunk := by
    have counted := congrArg List.length missing.indices
    simpa using counted
  have indices := missing.indices
  rw [← length] at indices
  obtain ⟨counted, absorbed⟩ :=
    feed_all geometry handle active indices (by omega) missing.whole
  refine ⟨by omega, ?_⟩
  rw [absorbed]
  exact congrArg some missing.digest

/-- A chunk that flash has taken is taken by the hash, or is the one that the
condition excludes. -/
theorem fed_handleImageChunk (fed : Fed ota)
    (inHandler : ota.handler = .chunk message) (writeOk hashOk : Bool)
    (keeps : HashKeepsUp ota (.chunkLocked writeOk hashOk))
    (after : Inv firmware (ota.handleImageChunk message writeOk hashOk)) :
    Fed (ota.handleImageChunk message writeOk hashOk) := by
  rcases handleImageChunk_cases ota message writeOk hashOk with
    ⟨handler, same⟩ | ⟨written, acceptable, rfl, handle, same⟩
  · rw [same]
    exact fed
  · intro validAfter
    have valid : ota.partialValid = true := by
      rw [same] at validAfter
      split at validAfter <;> exact validAfter
    obtain ⟨⟨before, active⟩, received⟩ := fed valid
    cases hashOk with
    | false =>
      simp only [HashKeepsUp, inHandler] at keeps
      exact absurd acceptable (keeps valid)
    | true =>
      have bounded := content_length after
      have geometry := after.sound.geometry validAfter
      have inSlot := geometry.inSlot
      simp only [active, HashOp.update, if_true] at same
      rw [same] at bounded inSlot ⊢
      have grown : content { ota with
            otaHandle := some (written ++ message.data)
            shaOp := .active (before ++ message.data)
            nextChunk := u32 (message.index + 1)
            received := u32 (ota.received + message.data.length)
            accepted := ota.accepted ++
              [{ index := message.index, payload := message.data
                 session := ota.session.manifest }]
            handler := .setChunkBit } = content ota ++ message.data := by
        simp [content, payloads]
      rw [grown, List.length_append] at bounded
      refine ⟨⟨_, rfl⟩, ?_⟩
      rw [grown, List.length_append, received]
      apply u32_of_lt
      simp only [partialOf, otaSlotSize, u32Mod] at *
      omega

def download (ota : Ota) : Bool × HashOp × Nat × List Accepted :=
  (ota.partialValid, ota.shaOp, ota.received, ota.accepted)

theorem Fed.same (fed : Fed ota) (kept : download next = download ota) : Fed next := by
  simp only [download, Prod.mk.injEq] at kept
  obtain ⟨valid, shaOp, received, accepted⟩ := kept
  unfold Fed content
  rw [valid, shaOp, received, accepted]
  exact fed

theorem fed_discarded (discarded : next.partialValid = false) : Fed next := by
  intro valid
  exact absurd (discarded.symm.trans valid) (by decide)

theorem subscribeChunk_download (ota : Ota) (chunk : Nat) (ok : Bool) :
    download (ota.subscribeChunk chunk ok) = download ota := by
  unfold Ota.subscribeChunk
  split <;> rfl

theorem prime_download (ota : Ota) (chunk : Nat) (ok : Bool) :
    download (ota.prime chunk ok) = download ota := by
  unfold Ota.prime
  split
  · exact subscribeChunk_download ota chunk ok
  · rfl

theorem wait_download (ota : Ota) : download ota.wait = download ota := by
  unfold Ota.wait
  split <;> rfl

theorem countDone_download (ota : Ota) (chunkBit : Bool) :
    download (ota.countDone chunkBit) = download ota := by
  unfold Ota.countDone
  dsimp only
  split <;> rfl

theorem topUp_download (ota : Ota) (chunk nowDone : Nat) (ok capExceeded : Bool) :
    download (ota.topUp chunk nowDone ok capExceeded) = download ota := by
  unfold Ota.topUp
  split
  · dsimp only
    split
    · exact subscribeChunk_download ota (chunk + subscribePipeline) ok
    · rfl
  · rfl

theorem fed_activate (fed : Fed ota) (found beginOk hashSetupOk : Bool) :
    Fed (ota.activate found beginOk hashSetupOk) := by
  simp only [Ota.activate]
  generalize keptIs : (if (ota.partialValid && !ota.session.manifest.sameImage
    ota.partialManifest) = true then ota.discardPartialLocked else ota) = kept
  have fedKept : Fed kept := by
    split at keptIs
    · subst keptIs
      exact fed_discarded rfl
    · subst keptIs
      exact fed
  split
  · exact fedKept.same rfl
  · rename_i invalid
    have discarded : kept.partialValid = false := by simpa using invalid
    split
    · exact fed_discarded discarded
    · split
      · exact fed_discarded discarded
      · split
        · exact fed_discarded rfl
        · intro _
          exact ⟨⟨[], rfl⟩, rfl⟩

theorem fed_finalize (fed : Fed ota) (hashOk endOk bootOk : Bool) :
    Fed (ota.finalize firmware hashOk endOk bootOk) := by
  by_cases all : ota.session.done = ota.session.totalChunks
  · apply fed_discarded
    unfold Ota.finalize
    simp only [if_pos all]
    rfl
  · apply fed.same
    unfold Ota.finalize
    simp only [if_neg all]
    rfl

theorem fed_session {event : OtaEvent} (fed : Fed ota)
    (taken : ota.sessionStep firmware ota.pc event = some next) : Fed next := by
  cases Ota.session_kind taken with
  | activate found beginOk hashSetupOk _ => exact fed_activate fed found beginOk hashSetupOk
  | prime chunk ok _ => exact fed.same (prime_download ota chunk ok)
  | wait _ => exact fed.same (wait_download ota)
  | countDone chunkBit _ => exact fed.same (countDone_download ota chunkBit)
  | topUp chunk nowDone ok capExceeded _ =>
    exact fed.same (topUp_download ota chunk nowDone ok capExceeded)
  | finalize hashOk endOk bootOk _ => exact fed_finalize fed hashOk endOk bootOk
  | report _ =>
    unfold Ota.report
    split <;> exact fed
  | loopCheck uriFound _ _ => split <;> exact fed
  | _ => exact fed

theorem fed_handler {event : OtaEvent} (inv : Inv firmware ota) (fed : Fed ota)
    (keeps : HashKeepsUp ota event) (taken : ota.handlerStep ota.handler event = some next) :
    Fed next := by
  have after := inv_handlerStep inv taken
  cases Ota.handler_kind taken with
  | chunk message writeOk hashOk inHandler =>
    exact fed_handleImageChunk fed inHandler writeOk hashOk keeps after
  | _ => exact fed

theorem kept_step (firmware : Firmware) (ota : Ota) (event : OtaEvent) (next : Ota)
    (inv : Inv firmware ota ∧ Fed ota) (keeps : HashKeepsUp ota event)
    (taken : ota.step firmware event = some next) : Inv firmware next ∧ Fed next := by
  obtain ⟨inv, fed⟩ := inv
  refine ⟨inv_step inv taken, ?_⟩
  cases Ota.step_kind taken with
  | manifest message _ =>
    obtain ⟨manifest, same⟩ := ota.handleManifest_eq firmware message
    rw [same]
    exact fed.same rfl
  | install set _ => exact fed
  | handler handled => exact fed_handler inv fed keeps handled
  | session ran => exact fed_session fed ran

/-- A chunk that reaches flash only leaves the hash operation in its error state. -/
theorem keeps_of_resumable (event : OtaEvent) (inv : Inv firmware ota)
    (stays : StaysResumable firmware ota event) : HashKeepsUp ota event := by
  unfold HashKeepsUp
  split
  · split
    · rename_i message inHandler
      intro valid acceptable
      obtain ⟨handle, isOpen⟩ := Option.isSome_iff_exists.mp (inv.sound.opened valid)
      have failed : (ota.shaOp.update message.data false).2 = false := by
        cases ota.shaOp <;> rfl
      have stepped : ota.step firmware (.chunkLocked true false) =
          some (ota.handleImageChunk message true false) := by
        simp [Ota.step, Ota.handlerStep, inHandler]
      have flashedOnly : ota.handleImageChunk message true false =
          { ota with
            otaHandle := some (handle ++ message.data)
            shaOp := (ota.shaOp.update message.data false).1
            handler := .setFailBit } := by
        obtain ⟨unsegmented, total, waited, fits⟩ := acceptable
        have flash : ota.otaHandle = some handle := isOpen
        simp [Ota.handleImageChunk, unsegmented, total, waited, fits, flash, failed]
      rw [flashedOnly] at stepped
      have absorbed := (stays _ stepped valid).absorbed
      exact update_unhashed failed _ absorbed
    · trivial
  · trivial

/-- Every download that is kept in a run can be resumed, if and only if no hash
update of the run fails after its write. -/
theorem resumable_run_iff (firmware : Firmware) (events : List OtaEvent) :
    Runs.Along (Ota.step firmware) (StaysResumable firmware) {} events ↔
      Runs.Along (Ota.step firmware) HashKeepsUp {} events := by
  refine Runs.along_iff (fun ota => Inv firmware ota ∧ Fed ota) (kept_step firmware) ?_ ?_ events
  · rintro ota event ⟨inv, fed⟩
    refine ⟨keeps_of_resumable event inv, ?_⟩
    intro keeps next taken valid
    obtain ⟨invNext, fedNext⟩ := kept_step firmware ota event next ⟨inv, fed⟩ keeps taken
    exact resumable_of_fed invNext fedNext valid
  · exact ⟨inv_boot firmware, fed_discarded rfl⟩

/-- The hash update of the first chunk fails after its write. -/
def unhashedChunk : List OtaEvent :=
  RetryBudget.staging ++ RetryBudget.openClient ++ RetryBudget.beginSession 2 ++
    [.chunkArrives { index := 0, data := [0], offset := 0, total := 1 }, .chunkLocked true false]

theorem unhashed_kept :
    ¬ ∀ (firmware : Firmware) (events : List OtaEvent) (final : Ota),
      Runs.run (Ota.step firmware) {} events = some final → final.partialValid = true →
      Resumable firmware final := by
  intro always
  obtain ⟨final, ran, found⟩ := Runs.exists_final
    (fun final : Ota => decide (final.partialValid = true ∧ final.shaOp = .error))
    (show (Runs.run (Ota.step RetryBudget.hashless) {} unhashedChunk).any _ = true by
      decide +kernel)
  obtain ⟨valid, error⟩ := of_decide_eq_true found
  have absorbed := (always RetryBudget.hashless unhashedChunk final ran valid).absorbed
  rw [error] at absorbed
  cases absorbed

end SleepySensor.KeptDownload
