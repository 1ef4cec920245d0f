import SleepySensor.Lib.Runs
import SleepySensor.OtaSteps

/-!
# OTA image integrity

What the flash handle, the hash operation, `s_next_chunk` and the remembered
manifest say about each other over any number of sessions, and from that what
is in flash when a new boot partition is set.
-/

set_option autoImplicit false

namespace SleepySensor.OtaIntegrity

open SleepySensor SleepySensor.Runs SleepySensor.Chunks

/-! ## The partial download -/

structure Partial where
  valid : Bool
  manifest : Manifest
  nextChunk : Nat
  handle : Option Bytes
  shaOp : HashOp
  accepted : List Accepted

def partialOf (ota : Ota) : Partial :=
  { valid := ota.partialValid, manifest := ota.partialManifest, nextChunk := ota.nextChunk
    handle := ota.otaHandle, shaOp := ota.shaOp, accepted := ota.accepted }

/-- A size and a chunk size that the firmware takes. -/
structure Geometry (manifest : Manifest) : Prop where
  nonempty : 0 < manifest.size
  inSlot : manifest.size ≤ otaSlotSize
  chunked : 0 < manifest.chunkSize
  inBuffer : manifest.chunkSize ≤ otaMaxChunkSize

def chunkCount (manifest : Manifest) : Nat := count manifest.size manifest.chunkSize

def payloads (accepted : List Accepted) : List Bytes := accepted.map (·.payload)

structure Partial.Sound (download : Partial) : Prop where
  geometry : download.valid = true → Geometry download.manifest
  opened : download.valid = true → download.handle.isSome = true
  cleared : download.valid = false →
    download.handle = none ∧ download.nextChunk = 0 ∧ download.accepted = []
  indices : download.accepted.map (·.index) = List.range download.nextChunk
  pieces : Pieces download.manifest.size download.manifest.chunkSize (payloads download.accepted)
  within : download.valid = true → download.nextChunk ≤ chunkCount download.manifest
  content : ∀ fed, download.shaOp = .active fed →
    download.handle = some fed ∧ fed = (payloads download.accepted).flatten
  sessions : ∀ entry ∈ download.accepted, entry.session.sameImage download.manifest = true

theorem sameImage_iff {m o : Manifest} :
    m.sameImage o = true ↔ m.size = o.size ∧ m.chunkSize = o.chunkSize ∧ m.sha256 = o.sha256 := by
  simp only [Manifest.sameImage, Bool.and_eq_true, beq_iff_eq, and_assoc]

theorem sameImage_refl (m : Manifest) : m.sameImage m = true := by simp [Manifest.sameImage]

theorem sameImage_symm {m o : Manifest} (same : m.sameImage o = true) :
    o.sameImage m = true := by
  obtain ⟨size, chunkSize, sha256⟩ := sameImage_iff.mp same
  exact sameImage_iff.mpr ⟨size.symm, chunkSize.symm, sha256.symm⟩

theorem sameImage_trans {m o n : Manifest} (first : m.sameImage o = true)
    (rest : o.sameImage n = true) : m.sameImage n = true := by
  obtain ⟨size, chunkSize, sha256⟩ := sameImage_iff.mp first
  obtain ⟨size', chunkSize', sha256'⟩ := sameImage_iff.mp rest
  exact sameImage_iff.mpr ⟨size.trans size', chunkSize.trans chunkSize', sha256.trans sha256'⟩

theorem chunkCount_eq {m o : Manifest} (same : m.sameImage o = true) :
    chunkCount m = chunkCount o := by
  obtain ⟨size, chunkSize, -⟩ := sameImage_iff.mp same
  rw [chunkCount, chunkCount, size, chunkSize]

/-- The division of `ota_run_session` does not wrap for an image that fits. -/
theorem totalChunks_eq {m : Manifest} (geometry : Geometry m) :
    Ota.totalChunks m = chunkCount m := by
  obtain ⟨nonempty, inSlot, chunked, inBuffer⟩ := geometry
  have small : m.size + m.chunkSize < u32Mod := by
    simp only [otaSlotSize, otaMaxChunkSize, u32Mod] at *
    omega
  rw [Ota.totalChunks, chunkCount, count, u32_of_lt small, u32Sub_of_le (by omega) small]

theorem totalChunks_congr {m o : Manifest} (same : m.sameImage o = true) :
    Ota.totalChunks m = Ota.totalChunks o := by
  obtain ⟨size, chunkSize, -⟩ := sameImage_iff.mp same
  rw [Ota.totalChunks, Ota.totalChunks, size, chunkSize]

theorem Geometry.congr {m o : Manifest} (same : m.sameImage o = true) (geometry : Geometry o) :
    Geometry m := by
  obtain ⟨size, chunkSize, -⟩ := sameImage_iff.mp same
  exact ⟨size ▸ geometry.nonempty, size ▸ geometry.inSlot, chunkSize ▸ geometry.chunked,
    chunkSize ▸ geometry.inBuffer⟩

theorem expectedLen_eq {ota : Ota} (geometry : Geometry ota.partialManifest)
    (more : ota.nextChunk < chunkCount ota.partialManifest) :
    ota.expectedLen =
      len ota.partialManifest.size ota.partialManifest.chunkSize ota.nextChunk := by
  obtain ⟨-, inSlot, chunked, -⟩ := geometry
  have before : ota.nextChunk * ota.partialManifest.chunkSize < ota.partialManifest.size :=
    (lt_count_iff chunked).mp more
  have small : ota.partialManifest.size < u32Mod := by
    simp only [otaSlotSize, u32Mod] at *
    omega
  rw [Ota.expectedLen, u32_of_lt (by omega), u32Sub_of_le (by omega) small, len]

theorem sound_discard {ota : Ota} : (partialOf ota.discardPartialLocked).Sound where
  geometry valid := by simp [partialOf, Ota.discardPartialLocked] at valid
  opened valid := by simp [partialOf, Ota.discardPartialLocked] at valid
  cleared _ := ⟨rfl, rfl, rfl⟩
  indices := rfl
  pieces := pieces_nil
  within valid := by simp [partialOf, Ota.discardPartialLocked] at valid
  content fed active := by simp [partialOf, Ota.discardPartialLocked] at active
  sessions entry inside := by simp [partialOf, Ota.discardPartialLocked] at inside

/-- A chunk that is accepted is the one waited for; it extends flash, hash and
record by the same bytes. -/
theorem sound_accept {download : Partial} (sound : download.Sound) {written data : Bytes}
    {session : Manifest} {index : Nat} {shaOp : HashOp}
    (valid : download.valid = true) (isOpen : download.handle = some written)
    (updated : ∀ fed, shaOp = .active fed →
      ∃ before, download.shaOp = .active before ∧ fed = before ++ data)
    (next : index = download.nextChunk) (more : index < chunkCount download.manifest)
    (fits : data.length = len download.manifest.size download.manifest.chunkSize index)
    (same : session.sameImage download.manifest = true) :
    ({ download with
        nextChunk := index + 1, handle := some (written ++ data), shaOp := shaOp
        accepted := download.accepted ++ [{ index := index, payload := data, session := session }] }
      : Partial).Sound := by
  have length : (payloads download.accepted).length = download.nextChunk := by
    have counted := congrArg List.length sound.indices
    simpa [payloads] using counted
  constructor
  · exact sound.geometry
  · intro _
    rfl
  · intro invalid
    exact absurd (valid.symm.trans invalid) (by decide)
  · simp only [List.map_append, List.map_cons, List.map_nil, sound.indices, next, List.range_succ]
  · rw [payloads, List.map_append]
    apply sound.pieces.append
    show data.length = _
    rw [length, ← next]
    exact fits
  · intro _
    exact more
  · intro fed active
    obtain ⟨before, wasActive, extended⟩ := updated fed active
    obtain ⟨handle, flat⟩ := sound.content before wasActive
    have sameBytes : before = written := by
      rw [isOpen] at handle
      exact (Option.some.inj handle).symm
    refine ⟨by rw [extended, sameBytes], ?_⟩
    rw [extended, flat]
    simp [payloads]
  · intro entry inside
    rcases List.mem_append.mp inside with earlier | last
    · exact sound.sessions entry earlier
    · rw [List.mem_singleton.mp last]
      exact same

/-- Bytes that reached flash but not the hash leave the hash in its error state. -/
theorem sound_unhashed {download : Partial} (sound : download.Sound) {written : Bytes}
    {shaOp : HashOp} (valid : download.valid = true) (dead : ∀ fed, shaOp ≠ .active fed) :
    ({ download with handle := some written, shaOp := shaOp } : Partial).Sound where
  geometry := sound.geometry
  opened _ := rfl
  cleared invalid := absurd (valid.symm.trans invalid) (by decide)
  indices := sound.indices
  pieces := sound.pieces
  within := sound.within
  content fed active := absurd active (dead fed)
  sessions := sound.sessions

theorem update_hashed {op : HashOp} {data : Bytes} {ok : Bool}
    (hashed : (op.update data ok).2 = true) :
    ∃ fed, op = .active fed ∧ (op.update data ok).1 = .active (fed ++ data) := by
  cases op with
  | active fed =>
    cases ok with
    | true => exact ⟨fed, rfl, rfl⟩
    | false => simp [HashOp.update] at hashed
  | inactive => simp [HashOp.update] at hashed
  | error => simp [HashOp.update] at hashed

theorem update_unhashed {op : HashOp} {data : Bytes} {ok : Bool}
    (unhashed : (op.update data ok).2 = false) (fed : Bytes) :
    (op.update data ok).1 ≠ .active fed := by
  cases op with
  | active before =>
    cases ok with
    | true => simp [HashOp.update] at unhashed
    | false => simp [HashOp.update]
  | inactive => simp [HashOp.update]
  | error => simp [HashOp.update]

/-! ## Sessions -/

/-- From the start of a session's window to the lock that finalizes it. -/
def activated : SessionPc → Bool
  | .starting | .pinning | .priming _ | .pulling | .woke _ | .toppingUp _ _ | .ended
  | .finalizing => true
  | _ => false

def windowOpen : SessionPc → Bool
  | .pinning | .priming _ | .pulling | .woke _ | .toppingUp _ _ | .ended => true
  | _ => false

/-- Chunks of the session's image can still reach the handler, or are awaited. -/
def Engaged (ota : Ota) : Prop :=
  activated ota.pc = true ∨ ota.subscribed ≠ [] ∨ ∃ message, ota.handler = .chunk message

/-- What is in flash is the staged image. -/
structure Intact (firmware : Firmware) (call : BootCall) : Prop where
  indices : call.accepted.map (·.index) = List.range (chunkCount call.manifest)
  written : call.written = (payloads call.accepted).flatten
  length : call.written.length = call.manifest.size
  digest : firmware.sha256 call.written = call.manifest.sha256
  sessions : ∀ entry ∈ call.accepted, entry.session.sameImage call.manifest = true

structure Inv (firmware : Firmware) (ota : Ota) : Prop where
  sound : (partialOf ota).Sound
  staged : ota.manifest.valid = true → 0 < ota.manifest.size ∧ 0 < ota.manifest.chunkSize ∧
    ota.manifest.chunkSize ≤ otaMaxChunkSize
  due : ota.pc = .connecting ∨ ota.pc = .connected → ota.manifest.valid = true
  fresh : ota.pc = .activating → 0 < ota.session.manifest.size ∧
    0 < ota.session.manifest.chunkSize ∧ ota.session.manifest.chunkSize ≤ otaMaxChunkSize ∧
    ota.session.done = 0
  active : ota.sessionActive = windowOpen ota.pc
  total : ota.pc = .activating ∨ Engaged ota →
    ota.session.totalChunks = Ota.totalChunks ota.session.manifest
  current : activated ota.pc = true → ota.partialValid = true
  same : Engaged ota → ota.partialValid = true →
    ota.session.manifest.sameImage ota.partialManifest = true
  topics : ∀ chunk ∈ ota.subscribed, chunk < ota.session.totalChunks
  inFlight : ∀ message, ota.handler = .chunk message → message.index < ota.session.totalChunks
  progress : activated ota.pc = true →
    ota.session.startChunk ≤ ota.nextChunk ∧ ota.session.done ≤ ota.nextChunk
  counted : ∀ chunk nowDone, ota.pc = .toppingUp chunk nowDone → nowDone ≤ ota.nextChunk
  quiet : ota.pc = .connecting ∨ ota.pc = .connected ∨ ota.pc = .activating ∨ ota.pc = .idle →
    ota.subscribed = [] ∧ ∀ message, ota.handler ≠ .chunk message
  boots : ∀ call ∈ ota.boots, Intact firmware call

section Handler

variable {firmware : Firmware} {ota next : Ota}

/-- What no step of the handler touches. -/
structure HandlerFrame (ota next : Ota) : Prop where
  manifest : next.manifest = ota.manifest
  session : next.session = ota.session
  pc : next.pc = ota.pc
  subscribed : next.subscribed = ota.subscribed
  sessionActive : next.sessionActive = ota.sessionActive
  boots : next.boots = ota.boots
  partialValid : next.partialValid = ota.partialValid
  partialManifest : next.partialManifest = ota.partialManifest
  nextChunk : ota.nextChunk ≤ next.nextChunk
  handler : ∀ message, next.handler = .chunk message →
    message.index ∈ ota.subscribed ∨ ota.handler = .chunk message

theorem HandlerFrame.engaged (frame : HandlerFrame ota next) (engaged : Engaged next) :
    Engaged ota := by
  rcases engaged with inWindow | topics | ⟨message, inHandler⟩
  · exact .inl (frame.pc ▸ inWindow)
  · exact .inr (.inl (frame.subscribed ▸ topics))
  · rcases frame.handler message inHandler with subscribed | before
    · exact .inr (.inl (List.ne_nil_of_mem subscribed))
    · exact .inr (.inr ⟨message, before⟩)

theorem inv_handlerFrame (inv : Inv firmware ota) (frame : HandlerFrame ota next)
    (sound : (partialOf next).Sound) : Inv firmware next := by
  have inside : ∀ message, next.handler = .chunk message →
      message.index < ota.session.totalChunks := by
    intro message inHandler
    rcases frame.handler message inHandler with subscribed | before
    · exact inv.topics _ subscribed
    · exact inv.inFlight message before
  constructor
  · exact sound
  · rw [frame.manifest]
    exact inv.staged
  · rw [frame.pc, frame.manifest]
    exact inv.due
  · rw [frame.pc, frame.session]
    exact inv.fresh
  · rw [frame.sessionActive, frame.pc]
    exact inv.active
  · rw [frame.pc, frame.session]
    intro since
    exact inv.total (since.imp_right frame.engaged)
  · rw [frame.pc, frame.partialValid]
    exact inv.current
  · rw [frame.partialValid, frame.session, frame.partialManifest]
    intro engaged
    exact inv.same (frame.engaged engaged)
  · rw [frame.subscribed, frame.session]
    exact inv.topics
  · rw [frame.session]
    exact inside
  · rw [frame.pc, frame.session]
    intro inWindow
    obtain ⟨start, done⟩ := inv.progress inWindow
    exact ⟨start.trans frame.nextChunk, done.trans frame.nextChunk⟩
  · rw [frame.pc]
    intro chunk nowDone topping
    exact (inv.counted chunk nowDone topping).trans frame.nextChunk
  · rw [frame.pc, frame.subscribed]
    intro early
    obtain ⟨noTopic, noChunk⟩ := inv.quiet early
    refine ⟨noTopic, ?_⟩
    intro message inHandler
    rcases frame.handler message inHandler with subscribed | before
    · simp [noTopic] at subscribed
    · exact noChunk message before
  · rw [frame.boots]
    exact inv.boots

theorem inFlight_inside (inv : Inv firmware ota) {message : ChunkMessage}
    (inHandler : ota.handler = .chunk message) (valid : ota.partialValid = true) :
    message.index < chunkCount ota.partialManifest := by
  have engaged : Engaged ota := .inr (.inr ⟨message, inHandler⟩)
  have same := inv.same engaged valid
  have geometry := Geometry.congr same (inv.sound.geometry valid)
  have inside := inv.inFlight message inHandler
  rw [inv.total (.inr engaged), totalChunks_eq geometry, chunkCount_eq same] at inside
  exact inside

theorem chunkCount_small {manifest : Manifest} (geometry : Geometry manifest) :
    chunkCount manifest < u32Mod := by
  have le : chunkCount manifest ≤ manifest.size := count_le_size geometry.chunked
  have inSlot := geometry.inSlot
  simp only [otaSlotSize, u32Mod] at *
  omega

theorem handleImageChunk_frame (inv : Inv firmware ota) {message : ChunkMessage}
    (inHandler : ota.handler = .chunk message) (writeOk hashOk : Bool) :
    HandlerFrame ota (ota.handleImageChunk message writeOk hashOk) ∧
      (partialOf (ota.handleImageChunk message writeOk hashOk)).Sound := by
  have unchanged : ∀ pc : HandlerPc, (∀ other, pc ≠ .chunk other) →
      HandlerFrame ota { ota with handler := pc } := by
    intro pc notChunk
    exact ⟨rfl, rfl, rfl, rfl, rfl, rfl, rfl, rfl, le_rfl,
      fun other inNext => absurd inNext (notChunk other)⟩
  unfold Ota.handleImageChunk
  by_cases segmented : message.offset ≠ 0 ∨ message.total ≠ message.data.length
  · rw [if_pos segmented]
    exact ⟨unchanged .setFailBit (by simp), inv.sound⟩
  rw [if_neg segmented]
  by_cases stale : message.index ≠ ota.nextChunk
  · rw [if_pos stale]
    exact ⟨unchanged .idle (by simp), inv.sound⟩
  rw [if_neg stale]
  by_cases misfit : message.data.length ≠ ota.expectedLen
  · rw [if_pos misfit]
    exact ⟨unchanged .setFailBit (by simp), inv.sound⟩
  rw [if_neg misfit]
  cases handle : ota.otaHandle with
  | none =>
    have sound := inv.sound
    rw [partialOf, handle] at sound
    exact ⟨⟨rfl, rfl, rfl, rfl, rfl, rfl, rfl, rfl, le_rfl, by simp⟩, sound⟩
  | some written =>
    cases writeOk with
    | false =>
      have sound := inv.sound
      rw [partialOf, handle] at sound
      exact ⟨⟨rfl, rfl, rfl, rfl, rfl, rfl, rfl, rfl, le_rfl, by simp⟩, sound⟩
    | true =>
      have valid : ota.partialValid = true := by
        by_contra invalid
        have empty := (inv.sound.cleared (by simpa [partialOf] using invalid)).1
        simp [partialOf, handle] at empty
      have inside := inFlight_inside inv inHandler valid
      have geometry := inv.sound.geometry valid
      have next : message.index = ota.nextChunk := not_not.mp stale
      cases hashed : (ota.shaOp.update message.data hashOk).2 with
      | false =>
        simp only [hashed, Bool.false_eq_true, if_false]
        refine ⟨⟨rfl, rfl, rfl, rfl, rfl, rfl, rfl, rfl, le_rfl, by simp⟩, ?_⟩
        exact sound_unhashed inv.sound valid (update_unhashed hashed)
      | true =>
        simp only [hashed, if_true]
        have wraps : u32 (message.index + 1) = message.index + 1 :=
          u32_of_lt (lt_of_le_of_lt inside (chunkCount_small geometry))
        rw [wraps]
        refine ⟨⟨rfl, rfl, rfl, rfl, rfl, rfl, rfl, rfl, ?_, by simp⟩, ?_⟩
        · rw [next]
          exact Nat.le_succ _
        · obtain ⟨before, wasActive, extended⟩ := update_hashed hashed
          refine sound_accept inv.sound valid handle ?_ next inside ?_ ?_
          · intro fed active
            rw [extended] at active
            exact ⟨before, wasActive, (HashOp.active.inj active).symm⟩
          · have fits := expectedLen_eq geometry (next ▸ inside)
            rw [← next] at fits
            rw [not_not.mp misfit, fits]
            rfl
          · exact inv.same (.inr (.inr ⟨message, inHandler⟩)) valid

theorem inv_handlerStep (inv : Inv firmware ota) {event : OtaEvent}
    (taken : ota.handlerStep ota.handler event = some next) : Inv firmware next := by
  cases Ota.handler_kind taken with
  | arrives message subscribed _ =>
    refine inv_handlerFrame inv ⟨rfl, rfl, rfl, rfl, rfl, rfl, rfl, rfl, le_rfl, ?_⟩ inv.sound
    intro other inNext
    cases HandlerPc.chunk.inj inNext
    exact .inl subscribed
  | dropped message _ => exact inv
  | error _ =>
    refine inv_handlerFrame inv ⟨rfl, rfl, rfl, rfl, rfl, rfl, rfl, rfl, le_rfl, ?_⟩ inv.sound
    simp
  | ignored _ => exact inv
  | chunk message writeOk hashOk inHandler =>
    obtain ⟨frame, sound⟩ := handleImageChunk_frame inv inHandler writeOk hashOk
    exact inv_handlerFrame inv frame sound
  | lost _ =>
    refine inv_handlerFrame inv ⟨rfl, rfl, rfl, rfl, rfl, rfl, rfl, rfl, le_rfl, ?_⟩ inv.sound
    simp
  | chunkBit _ =>
    refine inv_handlerFrame inv ⟨rfl, rfl, rfl, rfl, rfl, rfl, rfl, rfl, le_rfl, ?_⟩ inv.sound
    simp
  | failBit _ =>
    refine inv_handlerFrame inv ⟨rfl, rfl, rfl, rfl, rfl, rfl, rfl, rfl, le_rfl, ?_⟩ inv.sound
    simp

end Handler

section SessionTask

variable {firmware : Firmware} {ota next : Ota}

theorem not_engaged (pc : activated ota.pc = false)
    (nothing : ota.subscribed = [] ∧ ∀ message, ota.handler ≠ .chunk message) : ¬Engaged ota := by
  rintro (inWindow | topics | ⟨message, inHandler⟩)
  · exact absurd (pc.symm.trans inWindow) (by decide)
  · exact topics nothing.1
  · exact nothing.2 message inHandler

theorem inv_client (inv : Inv firmware ota) {pc : SessionPc}
    (toPc : pc = .idle ∨ pc = .connecting ∨ pc = .connected) (closed : ota.sessionActive = false)
    (noChunk : ∀ message, ota.handler ≠ .chunk message)
    (due : pc ≠ .idle → ota.manifest.valid = true) :
    Inv firmware { ota with subscribed := [], pc := pc } := by
  have outside : activated pc = false ∧ windowOpen pc = false ∧ pc ≠ .activating ∧
      ∀ chunk nowDone, pc ≠ .toppingUp chunk nowDone := by
    rcases toPc with rfl | rfl | rfl <;> simp [activated, windowOpen]
  obtain ⟨inactive, shut, notActivating, notTopping⟩ := outside
  have apart : ¬Engaged { ota with subscribed := [], pc := pc } :=
    not_engaged inactive ⟨rfl, noChunk⟩
  constructor
  · exact inv.sound
  · exact inv.staged
  · rintro (rfl | rfl) <;> exact due (by simp)
  · intro activating
    exact absurd activating notActivating
  · exact closed.trans shut.symm
  · rintro (activating | engaged)
    · exact absurd activating notActivating
    · exact absurd engaged apart
  · intro inWindow
    exact absurd (inactive.symm.trans inWindow) (by decide)
  · intro engaged
    exact absurd engaged apart
  · intro chunk inside
    simp at inside
  · intro message inHandler
    exact absurd inHandler (noChunk message)
  · intro inWindow
    exact absurd (inactive.symm.trans inWindow) (by decide)
  · intro chunk nowDone topping
    exact absurd topping (notTopping chunk nowDone)
  · intro _
    exact ⟨rfl, noChunk⟩
  · exact inv.boots

theorem inv_discard (inv : Inv firmware ota) (inactive : activated ota.pc = false) :
    Inv firmware ota.discardPartialLocked where
  sound := sound_discard
  staged := inv.staged
  due := inv.due
  fresh := inv.fresh
  active := inv.active
  total := inv.total
  current inWindow := absurd (inactive.symm.trans inWindow) (by decide)
  same _ valid := by simp [Ota.discardPartialLocked] at valid
  topics := inv.topics
  inFlight := inv.inFlight
  progress inWindow := absurd (inactive.symm.trans inWindow) (by decide)
  counted chunk nowDone topping := by
    have topped : ota.pc = .toppingUp chunk nowDone := topping
    simp [topped, activated] at inactive
  quiet := inv.quiet
  boots := inv.boots

def winding : SessionPc → Bool
  | .closing | .unpinning | .reporting | .returned | .rebooting => true
  | _ => false

theorem inv_wind (inv : Inv firmware ota) {pc : SessionPc} {attempts : Nat} {session : Session}
    (toPc : winding pc = true) (closed : ota.sessionActive = false)
    (manifest : session.manifest = ota.session.manifest)
    (total : session.totalChunks = ota.session.totalChunks) :
    Inv firmware { ota with noProgressAttempts := attempts, session := session, pc := pc } := by
  have outside : activated pc = false ∧ windowOpen pc = false := by
    cases pc <;> simp_all [winding, activated, windowOpen]
  obtain ⟨inactive, shut⟩ := outside
  have before : Engaged { ota with noProgressAttempts := attempts, session := session, pc := pc } →
      Engaged ota := by
    rintro (inWindow | topics | inHandler)
    · exact absurd (inactive.symm.trans inWindow) (by decide)
    · exact .inr (.inl topics)
    · exact .inr (.inr inHandler)
  constructor
  · exact inv.sound
  · exact inv.staged
  · rintro (rfl | rfl) <;> simp [winding] at toPc
  · rintro rfl
    simp [winding] at toPc
  · exact closed.trans shut.symm
  · rintro (rfl | engaged)
    · simp [winding] at toPc
    · show session.totalChunks = Ota.totalChunks session.manifest
      rw [total, manifest]
      exact inv.total (.inr (before engaged))
  · intro inWindow
    exact absurd (inactive.symm.trans inWindow) (by decide)
  · intro engaged valid
    show session.manifest.sameImage _ = true
    rw [manifest]
    exact inv.same (before engaged) valid
  · show ∀ chunk ∈ ota.subscribed, chunk < session.totalChunks
    rw [total]
    exact inv.topics
  · show ∀ message, ota.handler = .chunk message → message.index < session.totalChunks
    rw [total]
    exact inv.inFlight
  · intro inWindow
    exact absurd (inactive.symm.trans inWindow) (by decide)
  · rintro chunk nowDone rfl
    simp [winding] at toPc
  · rintro (rfl | rfl | rfl | rfl) <;> simp [winding] at toPc
  · exact inv.boots

theorem inv_window (inv : Inv firmware ota) {pc : SessionPc} {active chunkBit failBit ok : Bool}
    {subscribed : List Nat} {done : Nat}
    (fromPc : activated ota.pc = true) (toPc : activated pc = true)
    (opened : active = windowOpen pc) (le : done ≤ ota.nextChunk)
    (topics : ∀ chunk ∈ subscribed, chunk < ota.session.totalChunks)
    (counted : ∀ chunk nowDone, pc = .toppingUp chunk nowDone → nowDone ≤ ota.nextChunk) :
    Inv firmware { ota with
      sessionActive := active, chunkBit := chunkBit, failBit := failBit, subscribed := subscribed
      session := { ota.session with done := done, subscribedOk := ok }, pc := pc } := by
  have engaged : Engaged ota := .inl fromPc
  constructor
  · exact inv.sound
  · exact inv.staged
  · rintro (rfl | rfl) <;> simp [activated] at toPc
  · rintro rfl
    simp [activated] at toPc
  · exact opened
  · intro _
    exact inv.total (.inr engaged)
  · intro _
    exact inv.current fromPc
  · intro _ valid
    exact inv.same engaged valid
  · exact topics
  · exact inv.inFlight
  · intro _
    exact ⟨(inv.progress fromPc).1, le⟩
  · exact counted
  · rintro (rfl | rfl | rfl | rfl) <;> simp [activated] at toPc
  · exact inv.boots

theorem topics_append (inv : Inv firmware ota) {chunk : Nat}
    (inside : chunk < ota.session.totalChunks) :
    ∀ other ∈ ota.subscribed ++ [chunk], other < ota.session.totalChunks := by
  intro other member
  rcases List.mem_append.mp member with before | last
  · exact inv.topics other before
  · rw [List.mem_singleton.mp last]
    exact inside

theorem inv_subscribeChunk (inv : Inv firmware ota) {pc : SessionPc} {chunk : Nat} (ok : Bool)
    (fromPc : windowOpen ota.pc = true) (toPc : windowOpen pc = true)
    (inside : chunk < ota.session.totalChunks)
    (counted : ∀ chunk nowDone, pc = .toppingUp chunk nowDone → nowDone ≤ ota.nextChunk) :
    Inv firmware { ota.subscribeChunk chunk ok with pc := pc } := by
  have within : ∀ pc : SessionPc, windowOpen pc = true → activated pc = true := by
    intro pc
    cases pc <;> simp [windowOpen, activated]
  have opened : ota.sessionActive = windowOpen pc := by rw [inv.active, fromPc, toPc]
  have le : ota.session.done ≤ ota.nextChunk := (inv.progress (within _ fromPc)).2
  cases ok with
  | true =>
    exact inv_window inv (within _ fromPc) (within _ toPc) opened le (topics_append inv inside)
      counted
  | false => exact inv_window inv (within _ fromPc) (within _ toPc) opened le inv.topics counted

theorem inv_move (inv : Inv firmware ota) {pc : SessionPc} {chunkBit failBit : Bool} {done : Nat}
    (fromPc : windowOpen ota.pc = true) (toPc : windowOpen pc = true) (le : done ≤ ota.nextChunk)
    (counted : ∀ chunk nowDone, pc = .toppingUp chunk nowDone → nowDone ≤ ota.nextChunk) :
    Inv firmware { ota with
      chunkBit := chunkBit, failBit := failBit
      session := { ota.session with done := done }, pc := pc } := by
  have within : ∀ pc : SessionPc, windowOpen pc = true → activated pc = true := by
    intro pc
    cases pc <;> simp [windowOpen, activated]
  exact inv_window inv (within _ fromPc) (within _ toPc) (by rw [inv.active, fromPc, toPc]) le
    inv.topics counted

theorem inv_prime (inv : Inv firmware ota) {chunk : Nat} (at_ : ota.pc = .priming chunk)
    (ok : Bool) : Inv firmware (ota.prime chunk ok) := by
  have fromPc : windowOpen ota.pc = true := by rw [at_]; rfl
  have started : ota.session.startChunk ≤ ota.nextChunk := (inv.progress (by rw [at_]; rfl)).1
  unfold Ota.prime
  split
  case isTrue more =>
    simp only [Bool.and_eq_true, decide_eq_true_eq] at more
    exact inv_subscribeChunk inv ok fromPc rfl (lt_of_lt_of_le more.2 (min_le_right _ _)) (by simp)
  case isFalse => exact inv_move inv fromPc rfl started (by simp)

theorem inv_wait (inv : Inv firmware ota) (at_ : ota.pc = .pulling) : Inv firmware ota.wait := by
  have fromPc : windowOpen ota.pc = true := by rw [at_]; rfl
  have le : ota.session.done ≤ ota.nextChunk := (inv.progress (by rw [at_]; rfl)).2
  unfold Ota.wait
  split
  case isTrue =>
    refine inv_move inv fromPc ?_ le ?_
    · split <;> rfl
    · intro chunk nowDone topping
      split at topping <;> cases topping
  case isFalse => exact inv_move inv fromPc rfl le (by simp)

theorem inv_countDone (inv : Inv firmware ota) {chunkBit : Bool} (at_ : ota.pc = .woke chunkBit) :
    Inv firmware (ota.countDone chunkBit) := by
  have fromPc : windowOpen ota.pc = true := by rw [at_]; rfl
  have le : ota.session.done ≤ ota.nextChunk := (inv.progress (by rw [at_]; rfl)).2
  simp only [Ota.countDone]
  by_cases same : ota.nextChunk = ota.session.done
  · rw [if_pos same]
    refine inv_move inv fromPc ?_ le ?_
    · split <;> rfl
    · intro chunk nowDone topping
      split at topping <;> cases topping
  · rw [if_neg same]
    apply inv_move inv fromPc rfl le
    intro chunk nowDone topping
    cases topping
    exact le_rfl

theorem inv_topUp (inv : Inv firmware ota) {chunk nowDone : Nat}
    (at_ : ota.pc = .toppingUp chunk nowDone) (ok capExceeded : Bool) :
    Inv firmware (ota.topUp chunk nowDone ok capExceeded) := by
  have fromPc : windowOpen ota.pc = true := by rw [at_]; rfl
  have le : ota.session.done ≤ ota.nextChunk := (inv.progress (by rw [at_]; rfl)).2
  have now : nowDone ≤ ota.nextChunk := inv.counted chunk nowDone at_
  have stays : ∀ other later : Nat,
      SessionPc.toppingUp (chunk + 1) nowDone = .toppingUp other later → later ≤ ota.nextChunk := by
    intro other later topping
    cases topping
    exact now
  unfold Ota.topUp
  split
  case isTrue =>
    by_cases inside : chunk + subscribePipeline < ota.session.totalChunks
    · simp only [if_pos inside]
      exact inv_subscribeChunk inv ok fromPc rfl inside stays
    · simp only [if_neg inside]
      exact inv_move inv fromPc rfl le stays
  case isFalse =>
    split
    · exact inv_move inv fromPc rfl now (by simp)
    · exact inv_move inv fromPc rfl now (by simp)

theorem inv_enterSession (inv : Inv firmware ota) (at_ : ota.pc = .connected)
    (battery : Option Flt) : Inv firmware (ota.enterSession battery) := by
  have valid : ota.manifest.valid = true := inv.due (.inr at_)
  obtain ⟨noTopic, noChunk⟩ := inv.quiet (.inr (.inl at_))
  have closed : ota.sessionActive = false := by rw [inv.active, at_]; rfl
  have target : (ota.enterSession battery).pc = .returned ∨
      (ota.enterSession battery).pc = .activating := by
    unfold Ota.enterSession
    simp only
    split
    · exact .inl rfl
    · exact .inr rfl
  have outside : activated (ota.enterSession battery).pc = false ∧
      windowOpen (ota.enterSession battery).pc = false := by
    rcases target with moved | moved <;> rw [moved] <;> exact ⟨rfl, rfl⟩
  have apart : ¬Engaged (ota.enterSession battery) := not_engaged outside.1 ⟨noTopic, noChunk⟩
  constructor
  · exact inv.sound
  · exact inv.staged
  · intro _
    exact valid
  · intro _
    obtain ⟨nonempty, chunked, inBuffer⟩ := inv.staged valid
    exact ⟨nonempty, chunked, inBuffer, rfl⟩
  · exact closed.trans outside.2.symm
  · intro _
    rfl
  · intro inWindow
    exact absurd (outside.1.symm.trans inWindow) (by decide)
  · intro engaged
    exact absurd engaged apart
  · show ∀ chunk ∈ ota.subscribed, _
    rw [noTopic]
    simp
  · intro message inHandler
    exact absurd inHandler (noChunk message)
  · intro inWindow
    exact absurd (outside.1.symm.trans inWindow) (by decide)
  · intro chunk nowDone topping
    rcases target with moved | moved <;> rw [moved] at topping <;> cases topping
  · intro _
    exact ⟨noTopic, noChunk⟩
  · exact inv.boots

theorem inv_failedStart (inv : Inv firmware ota) (closed : ota.sessionActive = false) :
    Inv firmware ota.failedStart :=
  inv_wind inv rfl closed rfl rfl

theorem inv_startAt (inv : Inv firmware ota) (at_ : ota.pc = .activating)
    (closed : ota.sessionActive = false) (valid : next.partialValid = true)
    (sound : (partialOf next).Sound)
    (same : ota.session.manifest.sameImage next.partialManifest = true)
    (rest : next = { ota with
      partialValid := next.partialValid, partialManifest := next.partialManifest
      nextChunk := next.nextChunk, received := next.received, otaHandle := next.otaHandle
      shaOp := next.shaOp, accepted := next.accepted }) :
    Inv firmware (next.startAt next.nextChunk) := by
  obtain ⟨noTopic, noChunk⟩ := inv.quiet (.inr (.inr (.inl at_)))
  have subscribed : next.subscribed = [] := by rw [rest, noTopic]
  have handler : next.handler = ota.handler := by rw [rest]
  have session : next.session = ota.session := by rw [rest]
  constructor
  · exact sound
  · show next.manifest.valid = true → _
    rw [rest]
    exact inv.staged
  · rintro (connecting | connected) <;> simp [Ota.startAt] at *
  · intro activating
    simp [Ota.startAt] at activating
  · show next.sessionActive = false
    rw [rest]
    exact closed
  · intro _
    show next.session.totalChunks = Ota.totalChunks next.session.manifest
    rw [session]
    exact inv.total (.inl at_)
  · intro _
    exact valid
  · intro _ _
    show next.session.manifest.sameImage next.partialManifest = true
    rw [session]
    exact same
  · show ∀ chunk ∈ next.subscribed, _
    rw [subscribed]
    simp
  · intro message inHandler
    exact absurd (handler ▸ inHandler) (noChunk message)
  · intro _
    refine ⟨le_rfl, ?_⟩
    show next.session.done ≤ next.nextChunk
    rw [session, (inv.fresh at_).2.2.2]
    exact Nat.zero_le _
  · intro chunk nowDone topping
    simp [Ota.startAt] at topping
  · rintro (early | early | early | early) <;> simp [Ota.startAt] at early
  · show ∀ call ∈ next.boots, _
    rw [rest]
    exact inv.boots

theorem inv_freshStart (inv : Inv firmware ota) (at_ : ota.pc = .activating)
    (closed : ota.sessionActive = false) (fits : ota.session.manifest.size ≤ otaSlotSize) :
    Inv firmware ({ ota with
      otaHandle := some [], shaOp := .active [], partialManifest := ota.session.manifest
      partialValid := true, nextChunk := 0, received := 0, accepted := [] }.startAt 0) := by
  obtain ⟨nonempty, chunked, inBuffer, -⟩ := inv.fresh at_
  refine inv_startAt inv at_ closed rfl ?_ (sameImage_refl _) rfl
  constructor
  · intro _
    exact ⟨nonempty, fits, chunked, inBuffer⟩
  · intro _
    rfl
  · intro invalid
    simp [partialOf] at invalid
  · rfl
  · exact pieces_nil
  · intro _
    exact Nat.zero_le _
  · intro fed active
    cases active
    exact ⟨rfl, rfl⟩
  · intro entry inside
    simp [partialOf] at inside

theorem inv_activate (inv : Inv firmware ota) (at_ : ota.pc = .activating)
    (found beginOk hashSetupOk : Bool) : Inv firmware (ota.activate found beginOk hashSetupOk) := by
  have closed : ota.sessionActive = false := by rw [inv.active, at_]; rfl
  simp only [Ota.activate]
  generalize keptIs : (if (ota.partialValid && !ota.session.manifest.sameImage
    ota.partialManifest) = true then ota.discardPartialLocked else ota) = kept
  -- what the block leaves of an earlier download is of the staged image
  have keeps : Inv firmware kept ∧ kept.pc = .activating ∧ kept.sessionActive = false ∧
      kept.session = ota.session ∧ (kept.partialValid = true →
        ota.session.manifest.sameImage kept.partialManifest = true) := by
    split at keptIs
    case isTrue =>
      subst keptIs
      refine ⟨inv_discard inv (by rw [at_]; rfl), at_, closed, rfl, ?_⟩
      intro valid
      simp [Ota.discardPartialLocked] at valid
    case isFalse same =>
      subst keptIs
      refine ⟨inv, at_, closed, rfl, ?_⟩
      intro valid
      simpa [valid] using same
  obtain ⟨invKept, pc, shut, session, same⟩ := keeps
  rw [← session] at same ⊢
  by_cases valid : kept.partialValid = true
  · rw [if_pos valid]
    exact inv_startAt invKept pc shut valid invKept.sound (same valid) rfl
  rw [if_neg valid]
  have invalid : kept.partialValid = false := by simpa using valid
  have empty : kept.otaHandle = none := (invKept.sound.cleared invalid).1
  by_cases tooLarge : (!found || decide (otaSlotSize < kept.session.manifest.size)) = true
  · rw [if_pos tooLarge]
    exact inv_failedStart invKept shut
  rw [if_neg tooLarge]
  by_cases noBegin : (!beginOk) = true
  · rw [if_pos noBegin]
    have unchanged : { kept with otaHandle := none } = kept := by rw [← empty]
    rw [unchanged]
    exact inv_failedStart invKept shut
  rw [if_neg noBegin]
  by_cases noHash : (!hashSetupOk) = true
  · rw [if_pos noHash]
    show Inv firmware kept.discardPartialLocked.failedStart
    exact inv_failedStart (inv_discard invKept (by rw [pc]; rfl)) shut
  rw [if_neg noHash]
  apply inv_freshStart invKept pc shut
  by_contra more
  simp [Nat.not_le.mp more] at tooLarge

theorem intact_of_finish (inv : Inv firmware ota) (at_ : ota.pc = .finalizing)
    (all : ota.session.done = ota.session.totalChunks) {hashOk : Bool} {sha : Digest}
    (finished : ota.shaOp.finish firmware hashOk = some sha)
    (matched : sha = ota.session.manifest.sha256) : Intact firmware ota.bootCall := by
  have inWindow : activated ota.pc = true := by rw [at_]; rfl
  have valid := inv.current inWindow
  have same := inv.same (.inl inWindow) valid
  have geometry := Geometry.congr same (inv.sound.geometry valid)
  have complete : ota.nextChunk = chunkCount ota.session.manifest := by
    have done := (inv.progress inWindow).2
    have within : ota.nextChunk ≤ chunkCount ota.partialManifest := inv.sound.within valid
    rw [all, inv.total (.inr (.inl inWindow)), totalChunks_eq geometry] at done
    rw [← chunkCount_eq same] at within
    exact Nat.le_antisymm within done
  obtain ⟨fed, active, digest⟩ : ∃ fed, ota.shaOp = .active fed ∧ sha = firmware.sha256 fed := by
    cases op : ota.shaOp with
    | active fed =>
      cases hashOk with
      | true =>
        simp only [op, HashOp.finish, Option.some.injEq] at finished
        exact ⟨fed, rfl, finished.symm⟩
      | false => simp [op, HashOp.finish] at finished
    | inactive => simp [op, HashOp.finish] at finished
    | error => simp [op, HashOp.finish] at finished
  obtain ⟨handle, flat⟩ := inv.sound.content fed active
  have flashed : ota.otaHandle = some fed := handle
  have written : ota.bootCall.written = fed := by simp [Ota.bootCall, flashed]
  have indices : ota.accepted.map (·.index) = List.range ota.nextChunk := inv.sound.indices
  obtain ⟨size, chunkSize, -⟩ := sameImage_iff.mp same
  constructor
  · show ota.accepted.map (·.index) = _
    rw [indices, complete]
    rfl
  · exact written.trans flat
  · have count : (payloads ota.accepted).length = chunkCount ota.partialManifest := by
      have counted := congrArg List.length indices
      rw [complete, chunkCount_eq same] at counted
      simpa [payloads] using counted
    rw [written, flat]
    show (payloads ota.accepted).flatten.length = ota.session.manifest.size
    rw [size]
    exact inv.sound.pieces.complete (inv.sound.geometry valid).chunked count
  · rw [written, ← digest, matched]
    rfl
  · intro entry inside
    have kept := sameImage_iff.mp (inv.sound.sessions entry inside)
    exact sameImage_iff.mpr ⟨kept.1.trans size.symm, kept.2.1.trans chunkSize.symm,
      kept.2.2.trans (sameImage_iff.mp same).2.2.symm⟩

theorem finalizeImage_spec (inv : Inv firmware ota) (at_ : ota.pc = .finalizing)
    (all : ota.session.done = ota.session.totalChunks) (hashOk endOk bootOk : Bool) :
    ∃ handle calls, (ota.finalizeImage firmware hashOk endOk bootOk).1 =
        { ota with otaHandle := handle, boots := ota.boots ++ calls } ∧
      ∀ call ∈ calls, Intact firmware call := by
  unfold Ota.finalizeImage
  cases finished : ota.shaOp.finish firmware hashOk with
  | none => exact ⟨ota.otaHandle, [], by simp, by simp⟩
  | some sha =>
    by_cases mismatch : sha ≠ ota.session.manifest.sha256
    · simp only [if_pos mismatch]
      exact ⟨ota.otaHandle, [], by simp, by simp⟩
    simp only [if_neg mismatch]
    cases endOk with
    | false => exact ⟨none, [], by simp, by simp⟩
    | true =>
      refine ⟨none, [ota.bootCall], rfl, ?_⟩
      intro call member
      rw [List.mem_singleton.mp member]
      exact intact_of_finish inv at_ all finished (not_not.mp mismatch)

theorem inv_boots (inv : Inv firmware ota) {calls : List BootCall}
    (intact : ∀ call ∈ calls, Intact firmware call) :
    Inv firmware { ota with boots := ota.boots ++ calls } :=
  { inv with
    boots := by
      intro call member
      rcases List.mem_append.mp member with before | last
      · exact inv.boots call before
      · exact intact call last }

theorem inv_finalize (inv : Inv firmware ota) (at_ : ota.pc = .finalizing)
    (hashOk endOk bootOk : Bool) : Inv firmware (ota.finalize firmware hashOk endOk bootOk) := by
  have closed : ota.sessionActive = false := by rw [inv.active, at_]; rfl
  have closing : ∀ session : Session, session.manifest = ota.session.manifest →
      session.totalChunks = ota.session.totalChunks →
      Inv firmware { ota with session := session, pc := .closing } := fun session =>
    inv_wind inv rfl closed
  unfold Ota.finalize
  by_cases all : ota.session.done = ota.session.totalChunks
  · obtain ⟨handle, calls, finished, intact⟩ :=
      finalizeImage_spec inv at_ all hashOk endOk bootOk
    simp only [if_pos all, finished]
    let session : Session :=
      { ota.session with
        ok := (ota.finalizeImage firmware hashOk endOk bootOk).2
        progressed := u32Sub 0 ota.session.startChunk }
    exact inv_discard (inv_boots (closing session rfl rfl) intact) rfl
  · simp only [if_neg all]
    exact closing _ rfl rfl

theorem inv_sessionStep (inv : Inv firmware ota) {event : OtaEvent}
    (taken : ota.sessionStep firmware ota.pc event = some next) : Inv firmware next := by
  have shut : ∀ {pc : SessionPc}, ota.pc = pc → windowOpen pc = false →
      ota.sessionActive = false := by
    intro pc at_ closed
    rw [inv.active, at_, closed]
  have dueValid : ota.updateDue = true → ota.manifest.valid = true := by
    intro due
    simp only [Ota.updateDue, Bool.and_eq_true] at due
    exact due.2.1
  cases Ota.session_kind taken with
  | runIfDue at_ due =>
    exact inv_client inv (.inr (.inl rfl)) (shut at_ rfl) (inv.quiet (by simp [at_])).2
      fun _ => dueValid due
  | connected at_ =>
    have quiet := inv.quiet (.inl at_)
    have unchanged : { ota with pc := .connected } =
        { ota with subscribed := [], pc := .connected } := by rw [← quiet.1]
    rw [unchanged]
    exact inv_client inv (.inr (.inr rfl)) (shut at_ rfl) quiet.2 fun _ => inv.due (.inl at_)
  | unconnected at_ _ =>
    exact inv_client inv (.inl rfl) (shut at_ rfl) (inv.quiet (.inl at_)).2 (by simp)
  | enterSession battery at_ => exact inv_enterSession inv at_ battery
  | activate found beginOk hashSetupOk at_ => exact inv_activate inv at_ found beginOk hashSetupOk
  | beginWindow at_ =>
    have inWindow : activated ota.pc = true := by rw [at_]; rfl
    exact inv_window inv inWindow rfl rfl (inv.progress inWindow).2 inv.topics (by simp)
  | pin at_ =>
    have inWindow : activated ota.pc = true := by rw [at_]; rfl
    exact inv_move inv (by rw [at_]; rfl) rfl (inv.progress inWindow).2 (by simp)
  | prime chunk ok at_ => exact inv_prime inv at_ ok
  | wait at_ => exact inv_wait inv at_
  | countDone chunkBit at_ => exact inv_countDone inv at_
  | topUp chunk nowDone ok capExceeded at_ => exact inv_topUp inv at_ ok capExceeded
  | endSession at_ =>
    have inWindow : activated ota.pc = true := by rw [at_]; rfl
    exact inv_window inv inWindow rfl rfl (inv.progress inWindow).2 inv.topics (by simp)
  | finalize hashOk endOk bootOk at_ => exact inv_finalize inv at_ hashOk endOk bootOk
  | endWindow at_ => exact inv_wind inv rfl (shut at_ rfl) rfl rfl
  | unpin at_ => exact inv_wind inv rfl (shut at_ rfl) rfl rfl
  | report at_ =>
    unfold Ota.report
    split
    · exact inv_wind inv rfl (shut at_ rfl) rfl rfl
    · exact inv_wind inv rfl (shut at_ rfl) rfl rfl
  | loopCheck uriFound at_ idle =>
    have noChunk : ∀ message, ota.handler ≠ .chunk message := by simp [idle]
    split
    case isTrue again =>
      simp only [Bool.and_eq_true] at again
      exact inv_client inv (.inr (.inl rfl)) (shut at_ rfl) noChunk fun _ => dueValid again.1.1
    case isFalse => exact inv_client inv (.inl rfl) (shut at_ rfl) noChunk (by simp)

end SessionTask

theorem acceptManifest_staged {firmware : Firmware} {fields : ManifestFields}
    {manifest : Manifest} (accepted : acceptManifest firmware fields = some manifest) :
    0 < manifest.size ∧ 0 < manifest.chunkSize ∧ manifest.chunkSize ≤ otaMaxChunkSize := by
  unfold acceptManifest at accepted
  split at accepted
  case h_1 version size chunkSize sha256 _ _ _ _ =>
    by_cases refused : version = [] ∨ size = 0 ∨ chunkSize = 0 ∨ otaMaxChunkSize < chunkSize
    · simp [refused] at accepted
    · rw [if_neg refused] at accepted
      cases Option.some.inj accepted
      simp only [not_or] at refused
      exact ⟨Nat.pos_of_ne_zero refused.2.1, Nat.pos_of_ne_zero refused.2.2.1,
        Nat.not_lt.mp refused.2.2.2⟩
  case h_2 => simp at accepted

theorem inv_manifest {firmware : Firmware} {ota : Ota} (inv : Inv firmware ota)
    (idle : ota.pc = .idle) {manifest : Manifest}
    (staged : manifest.valid = true → 0 < manifest.size ∧ 0 < manifest.chunkSize ∧
      manifest.chunkSize ≤ otaMaxChunkSize) :
    Inv firmware { ota with manifest := manifest } :=
  { inv with
    staged := staged
    due := by
      rintro (connecting | connected)
      · exact absurd (idle.symm.trans connecting) (by decide)
      · exact absurd (idle.symm.trans connected) (by decide) }

theorem inv_step {firmware : Firmware} {ota next : Ota} (inv : Inv firmware ota)
    {event : OtaEvent} (taken : ota.step firmware event = some next) : Inv firmware next := by
  unfold Ota.step at taken
  split at taken
  case h_1 message =>
    by_cases idle : ota.pc = .idle
    · rw [if_pos idle] at taken
      cases Option.some.inj taken
      cases message with
      | empty => exact inv_manifest inv idle (by simp)
      | spansEvents => exact inv
      | body fields =>
        simp only [Ota.handleManifest]
        cases accepted : acceptManifest firmware fields with
        | none => exact inv
        | some manifest => exact inv_manifest inv idle fun _ => acceptManifest_staged accepted
    · simp [idle] at taken
  case h_2 set =>
    by_cases idle : ota.pc = .idle
    · rw [if_pos idle] at taken
      cases Option.some.inj taken
      exact { inv with }
    · simp [idle] at taken
  case h_3 => exact inv_handlerStep inv taken
  case h_4 => exact inv_handlerStep inv taken
  case h_5 => exact inv_handlerStep inv taken
  case h_6 => exact inv_handlerStep inv taken
  case h_7 => exact inv_handlerStep inv taken
  case h_8 => exact inv_sessionStep inv taken

theorem inv_boot (firmware : Firmware) : Inv firmware {} where
  sound := @sound_discard {}
  staged valid := by simp at valid
  due early := by simp at early
  fresh activating := by simp at activating
  active := rfl
  total since := by simp [Engaged, activated] at since
  current inWindow := by simp [activated] at inWindow
  same _ valid := by simp at valid
  topics chunk inside := by simp at inside
  inFlight message inHandler := by simp at inHandler
  progress inWindow := by simp [activated] at inWindow
  counted chunk nowDone topping := by simp at topping
  quiet _ := ⟨rfl, by simp⟩
  boots call inside := by simp at inside

/-- Whatever the sessions of one boot went through, a new boot partition is only
set over the staged image, and nothing is added to a download of another one. -/
theorem setBoot_intact (firmware : Firmware) {events : List OtaEvent} {final : Ota}
    (ran : run (Ota.step firmware) {} events = some final) :
    (∀ call ∈ final.boots, Intact firmware call) ∧
      ∀ entry ∈ final.accepted, entry.session.sameImage final.partialManifest = true ∧
        (final.sessionActive = true →
          entry.session.sameImage final.session.manifest = true) := by
  have inv : Inv firmware final :=
    run_invariant (Inv firmware) (fun _ _ _ inv taken => inv_step inv taken) (inv_boot firmware)
      ran
  refine ⟨inv.boots, ?_⟩
  intro entry inside
  have kept : entry.session.sameImage final.partialManifest = true :=
    inv.sound.sessions entry inside
  refine ⟨kept, ?_⟩
  intro opened
  have inWindow : activated final.pc = true := by
    rw [inv.active] at opened
    cases at_ : final.pc <;> simp [at_, windowOpen, activated] at opened ⊢
  have same := sameImage_iff.mp (inv.same (.inl inWindow) (inv.current inWindow))
  have whole := sameImage_iff.mp kept
  exact sameImage_iff.mpr ⟨whole.1.trans same.1.symm, whole.2.1.trans same.2.1.symm,
    whole.2.2.trans same.2.2.symm⟩

/-- An `esp_app_desc_t` of version 2 and nothing else. -/
def smallImage : Bytes :=
  List.replicate 32 0 ++ [0x32, 0x54, 0xCD, 0xAB] ++ List.replicate 12 0 ++
    0x32 :: List.replicate 63 0

/-- Its SHA-256. -/
def smallDigest : Digest := 0x9f76eee0ac2f292065c0318c08e07480e46dfbb5f9e3907b70ace6f3d35f7680

def smallFirmware : Firmware :=
  { runningVersion := ['1'], sha256 := fun bytes => if bytes = smallImage then smallDigest else 0 }

def smallChunk (index : Nat) : ChunkMessage :=
  let data := (smallImage.drop (index * 40)).take 40
  { index := index, data := data, offset := 0, total := data.length }

/-- Chunk 0 of three, then the connection is lost. -/
def lostSession : List OtaEvent :=
  [.manifest (.body
    { version := some ['2'], size := some 112, chunkSize := some 40
      sha256 := some smallDigest, force := false }),
   .install true, .runIfDue, .connectDone true, .enterSession none, .activate true true true,
   .beginWindow, .pin, .prime true, .prime true, .prime true,
   .chunkArrives (smallChunk 0), .chunkLocked true true, .setBit, .wait, .countDone,
   .topUp true false, .topUp true false, .mqttError, .storeConnLost, .setBit, .wait,
   .endSession, .finalize true true true, .endWindow, .unpin, .report, .loopCheck true]

/-- The download goes on with chunk 1. -/
def resumedSession : List OtaEvent :=
  [.connectDone true, .enterSession none, .activate true true true,
   .beginWindow, .pin, .prime true, .prime true, .prime true,
   .chunkArrives (smallChunk 1), .chunkLocked true true, .setBit, .wait, .countDone,
   .topUp true false, .topUp true false,
   .chunkArrives (smallChunk 2), .chunkLocked true true, .setBit, .wait, .countDone,
   .topUp true false, .topUp true false, .wait, .endSession, .finalize true true true]

theorem setBoot_intact_resumed :
    ∃ final, run (Ota.step smallFirmware) {} (lostSession ++ resumedSession) = some final ∧
      final.boots.length = 1 ∧ (∀ call ∈ final.boots, Intact smallFirmware call) ∧
      ∀ entry ∈ final.accepted, entry.session.sameImage final.partialManifest = true ∧
        (final.sessionActive = true →
          entry.session.sameImage final.session.manifest = true) := by
  obtain ⟨final, ran, called⟩ := exists_final (fun final : Ota => decide (final.boots.length = 1))
    (show (run (Ota.step smallFirmware) {} (lostSession ++ resumedSession)).any _ = true by
      decide +kernel)
  obtain ⟨intact, continued⟩ := setBoot_intact smallFirmware ran
  exact ⟨final, ran, of_decide_eq_true called, intact, continued⟩

end SleepySensor.OtaIntegrity
