import SleepySensor.KeptDownload
import SleepySensor.ManifestText

/-!
# From the tool to the flash

`ota_push.py`, the broker's retained topics and the device together: any number
of stagings and clears, any of them cut short, in any order with the sessions
and the reboots of the device.
-/

set_option autoImplicit false

namespace SleepySensor.StagedUpdate

open Staging ManifestText OtaIntegrity Runs

/-- What was published stays on its way, so a message may reach the device late. -/
structure Bench where
  ota : Ota := {}
  runningVersion : List Char
  broker : Broker := ∅
  outbox : List (Topic × Payload) := []
  published : List (Topic × Payload) := []
  staged : List Push := []

inductive BenchEvent where
  | stage (push : Push)
  | clear
  | publish
  | stop
  | device (event : OtaEvent)
  | reboot (runningVersion : List Char)

/-- The device hears what was published, except for segments, of which it hears
anything.  An empty manifest is a delete. -/
def delivers (published : List (Topic × Payload)) : OtaEvent → Bool
  | .manifest (.body fields) => published.any fun message =>
    match message.2 with
    | .manifest manifest =>
      decide (message.1 = manifestTopic ∧ manifestFields (manifestText manifest) = fields)
    | .bytes _ => false
  | .chunkArrives message =>
    decide (message.offset ≠ 0 ∨ message.total ≠ message.data.length ∨
      (chunkTopic message.index, .bytes message.data) ∈ published)
  | _ => true

section Step

variable (sha256 : Bytes → Digest)

def firmwareOf (runningVersion : List Char) : Firmware :=
  { runningVersion := runningVersion, sha256 := sha256 }

/-- A version that the tool stages is printable, with no quote and no backslash in it. -/
def Bench.step (bench : Bench) : BenchEvent → Option Bench
  | .stage push =>
    if bench.outbox = [] ∧ push.version.all plain = true then
      some { bench with
        outbox := stage sha256 push bench.broker, staged := bench.staged ++ [push] }
    else none
  | .clear =>
    if bench.outbox = [] then some { bench with outbox := clearStale bench.broker ∅ } else none
  | .publish =>
    match bench.outbox with
    | [] => none
    | message :: rest =>
      some { bench with
        broker := publishRetained bench.broker message, outbox := rest
        published := bench.published ++ [message] }
  | .stop => some { bench with outbox := [] }
  | .device event =>
    if delivers bench.published event then
      (bench.ota.step (firmwareOf sha256 bench.runningVersion) event).map fun ota =>
        { bench with ota := ota }
    else none
  | .reboot runningVersion =>
    some { bench with ota := { boots := bench.ota.boots }, runningVersion := runningVersion }

end Step

/-! ## The pieces of an image -/

theorem flatten_chunkAt (image : Bytes) (chunkSize n : Nat) :
    ((List.range n).map (chunkAt image chunkSize)).flatten = image.take (n * chunkSize) := by
  induction n with
  | zero => simp
  | succ n ih =>
    rw [List.range_succ, List.map_append, List.flatten_append, ih, Nat.succ_mul, List.take_add]
    simp [chunkAt]

/-! ## Where things come from -/

section Provenance

variable (sha256 : Bytes → Digest) (staged : List Push)

def Describes (push : Push) (manifest : Manifest) : Prop :=
  manifest.size = push.image.length ∧ manifest.chunkSize = push.chunkSize ∧
    manifest.sha256 = sha256 push.image

def OfStaging (manifest : Manifest) : Prop := ∃ push ∈ staged, Describes sha256 push manifest

def Piece (index : Nat) (payload : Bytes) : Prop :=
  ∃ push ∈ staged, payload = chunkAt push.image push.chunkSize index

/-- What the tool sends: deletes, chunks, manifests, the install flag. -/
def Sent (message : Topic × Payload) : Prop :=
  message.2 = .bytes [] ∨
    (∃ push ∈ staged, ∃ n, message = (chunkTopic n, .bytes (chunkAt push.image push.chunkSize n))) ∨
      (∃ push ∈ staged, message = (manifestTopic, .manifest (push.manifest sha256))) ∨
        message.1 = installTopic

end Provenance

section Tool

variable {sha256 : Bytes → Digest} {staged : List Push}

theorem sent_stage {push : Push} (member : push ∈ staged) (retained : Broker) :
    ∀ message ∈ stage sha256 push retained, Sent sha256 staged message := by
  intro message among
  unfold stage at among
  split at among
  · cases among
  rcases List.mem_append.mp among with delete | later
  · exact .inl (clearStale_deletes delete)
  rcases List.mem_append.mp later with chunk | final
  · obtain ⟨n, -, rfl⟩ := List.mem_map.mp chunk
    exact .inr (.inl ⟨push, member, n, rfl⟩)
  · rcases List.mem_cons.mp final with rfl | install
    · exact .inr (.inr (.inl ⟨push, member, rfl⟩))
    · split at install
      · obtain rfl := List.mem_singleton.mp install
        exact .inr (.inr (.inr rfl))
      · cases install

theorem Sent.more {message : Topic × Payload} (sent : Sent sha256 staged message) (push : Push) :
    Sent sha256 (staged ++ [push]) message := by
  rcases sent with delete | ⟨other, member, found⟩ | ⟨other, member, found⟩ | install
  · exact .inl delete
  · exact .inr (.inl ⟨other, List.mem_append_left _ member, found⟩)
  · exact .inr (.inr (.inl ⟨other, List.mem_append_left _ member, found⟩))
  · exact .inr (.inr (.inr install))

theorem piece_of_sent {index : Nat} {payload : Bytes} (some_ : payload ≠ [])
    (sent : Sent sha256 staged (chunkTopic index, .bytes payload)) :
    Piece staged index payload := by
  rcases sent with delete | ⟨push, member, n, found⟩ | ⟨push, member, found⟩ | install
  · exact absurd (Payload.bytes.inj delete) some_
  · obtain ⟨topic, same⟩ := Prod.mk.inj found
    rw [chunkTopic_inj topic, Payload.bytes.inj same]
    exact ⟨push, member, rfl⟩
  · cases (Prod.mk.inj found).2
  · exact absurd install (chunkTopic_ne_install index)

/-- A manifest that the device takes from the tool's text describes the image. -/
theorem describes_of_accepted {push : Push} (printable : push.version.all plain = true)
    {firmware : Firmware} {manifest : Manifest}
    (accepted : acceptManifest firmware (manifestFields (manifestText (push.manifest sha256))) =
      some manifest) : Describes sha256 push manifest := by
  have isPlain : (push.manifest sha256).version.all plain = true := printable
  rw [manifestFields_text isPlain] at accepted
  unfold acceptManifest at accepted
  split at accepted
  case h_2 => cases accepted
  case h_1 version size chunkSize digest version_ size_ chunkSize_ digest_ =>
    have size : push.image.length = size := by
      dsimp only at size_
      split at size_
      · cases size_
      · exact (Option.ite_none_right_eq_some.mp size_).2 |> Option.some.inj
    have chunkSize : push.chunkSize = chunkSize := by
      dsimp only at chunkSize_
      split at chunkSize_
      · cases chunkSize_
      · exact (Option.ite_none_right_eq_some.mp chunkSize_).2 |> Option.some.inj
    have digest : sha256 push.image = digest := by
      dsimp only at digest_
      split at digest_
      · cases digest_
      · exact Option.some.inj digest_
    obtain ⟨-, same⟩ := Option.ite_none_left_eq_some.mp accepted
    cases Option.some.inj same
    exact ⟨size.symm, chunkSize.symm, digest.symm⟩

end Tool

/-! ## The device -/

def inSession : SessionPc → Bool
  | .activating => true
  | pc => activated pc

section Device

variable (sha256 : Bytes → Digest) (staged : List Push)

/-- Everything that the device holds of an update comes from a staging. -/
structure Taken (ota : Ota) : Prop where
  manifest : ota.manifest.valid = true → OfStaging sha256 staged ota.manifest
  session : inSession ota.pc = true → OfStaging sha256 staged ota.session.manifest
  handler : ∀ message, ota.handler = .chunk message → message.offset = 0 →
    message.total = message.data.length → message.data ≠ [] →
      Piece staged message.index message.data
  accepted : ∀ entry ∈ ota.accepted, Piece staged entry.index entry.payload
  boots : ∀ call ∈ ota.boots, OfStaging sha256 staged call.manifest ∧
    ∀ entry ∈ call.accepted, Piece staged entry.index entry.payload

end Device

/-- What a step carries over. -/
structure Carried (ota next : Ota) : Prop where
  manifest : next.manifest = ota.manifest
  session : next.session.manifest = ota.session.manifest
  handler : next.handler = ota.handler
  accepted : next.accepted = ota.accepted ∨ next.accepted = []
  boots : next.boots = ota.boots

section Frames

theorem subscribeChunk_carried (ota : Ota) (chunk : Nat) (ok : Bool) :
    Carried ota (ota.subscribeChunk chunk ok) := by
  unfold Ota.subscribeChunk
  split <;> exact ⟨rfl, rfl, rfl, .inl rfl, rfl⟩

theorem Carried.at_ {ota next : Ota} (carried : Carried ota next) (pc : SessionPc) :
    Carried ota { next with pc := pc } :=
  ⟨carried.manifest, carried.session, carried.handler, carried.accepted, carried.boots⟩

theorem prime_carried (ota : Ota) (chunk : Nat) (ok : Bool) :
    Carried ota (ota.prime chunk ok) := by
  unfold Ota.prime
  split
  · exact (subscribeChunk_carried ota chunk ok).at_ _
  · exact ⟨rfl, rfl, rfl, .inl rfl, rfl⟩

theorem wait_carried (ota : Ota) : Carried ota ota.wait := by
  unfold Ota.wait
  split <;> exact ⟨rfl, rfl, rfl, .inl rfl, rfl⟩

theorem countDone_carried (ota : Ota) (chunkBit : Bool) : Carried ota (ota.countDone chunkBit) := by
  unfold Ota.countDone
  dsimp only
  split <;> exact ⟨rfl, rfl, rfl, .inl rfl, rfl⟩

theorem topUp_carried (ota : Ota) (chunk nowDone : Nat) (ok capExceeded : Bool) :
    Carried ota (ota.topUp chunk nowDone ok capExceeded) := by
  unfold Ota.topUp
  split
  · dsimp only
    split
    · exact (subscribeChunk_carried ota (chunk + subscribePipeline) ok).at_ _
    · exact ⟨rfl, rfl, rfl, .inl rfl, rfl⟩
  · exact ⟨rfl, rfl, rfl, .inl rfl, rfl⟩

theorem activate_carried (ota : Ota) (found beginOk hashSetupOk : Bool) :
    Carried ota (ota.activate found beginOk hashSetupOk) := by
  simp only [Ota.activate]
  generalize keptIs : (if (ota.partialValid && !ota.session.manifest.sameImage
    ota.partialManifest) = true then ota.discardPartialLocked else ota) = kept
  obtain ⟨manifest, session, handler, accepted, boots⟩ : Carried ota kept := by
    split at keptIs <;> subst keptIs
    · exact ⟨rfl, rfl, rfl, .inr rfl, rfl⟩
    · exact ⟨rfl, rfl, rfl, .inl rfl, rfl⟩
  split
  · exact ⟨manifest, session, handler, accepted, boots⟩
  · split
    · exact ⟨manifest, session, handler, accepted, boots⟩
    · split
      · exact ⟨manifest, session, handler, accepted, boots⟩
      · split
        · exact ⟨manifest, session, handler, .inr rfl, boots⟩
        · exact ⟨manifest, session, handler, .inr rfl, boots⟩

theorem finalize_carried (ota : Ota) (firmware : Firmware) (hashOk endOk bootOk : Bool) :
    ∃ calls, (∀ call ∈ calls, call = ota.bootCall) ∧
      Carried { ota with boots := ota.boots ++ calls }
        (ota.finalize firmware hashOk endOk bootOk) := by
  unfold Ota.finalize
  by_cases all : ota.session.done = ota.session.totalChunks
  · simp only [if_pos all]
    unfold Ota.finalizeImage
    split
    · exact ⟨[], by simp, rfl, rfl, rfl, .inr rfl, by simp [Ota.discardPartialLocked]⟩
    · split
      · exact ⟨[], by simp, rfl, rfl, rfl, .inr rfl, by simp [Ota.discardPartialLocked]⟩
      · split
        · exact ⟨[], by simp, rfl, rfl, rfl, .inr rfl, by simp [Ota.discardPartialLocked]⟩
        · exact ⟨[ota.bootCall], by simp, rfl, rfl, rfl, .inr rfl, rfl⟩
  · simp only [if_neg all]
    exact ⟨[], by simp, rfl, rfl, rfl, .inl rfl, by simp⟩

theorem report_carried (ota : Ota) : Carried ota ota.report := by
  unfold Ota.report
  split <;> exact ⟨rfl, rfl, rfl, .inl rfl, rfl⟩

end Frames

section Steps

variable {sha256 : Bytes → Digest} {staged : List Push} {firmware : Firmware} {ota next : Ota}

theorem Taken.carried (taken : Taken sha256 staged ota) (carried : Carried ota next)
    (opens : inSession next.pc = true → inSession ota.pc = true) : Taken sha256 staged next where
  manifest := by
    rw [carried.manifest]
    exact taken.manifest
  session at_ := by
    rw [carried.session]
    exact taken.session (opens at_)
  handler := by
    rw [carried.handler]
    exact taken.handler
  accepted entry inside := by
    rcases carried.accepted with same | none_
    · exact taken.accepted entry (same ▸ inside)
    · rw [none_] at inside
      cases inside
  boots := by
    rw [carried.boots]
    exact taken.boots

theorem taken_enterSession (inv : OtaIntegrity.Inv firmware ota) (taken : Taken sha256 staged ota)
    (at_ : ota.pc = .connected) (battery : Option Flt) :
    Taken sha256 staged (ota.enterSession battery) where
  manifest := taken.manifest
  session _ := taken.manifest (inv.due (.inr at_))
  handler := taken.handler
  accepted := taken.accepted
  boots := taken.boots

theorem taken_finalize (taken : Taken sha256 staged ota) (at_ : ota.pc = .finalizing)
    (hashOk endOk bootOk : Bool) :
    Taken sha256 staged (ota.finalize firmware hashOk endOk bootOk) := by
  have inside : inSession ota.pc = true := by rw [at_]; rfl
  obtain ⟨calls, ofImage, carried⟩ := finalize_carried ota firmware hashOk endOk bootOk
  have called : Taken sha256 staged { ota with boots := ota.boots ++ calls } := by
    refine { taken with boots := ?_ }
    intro call member
    rcases List.mem_append.mp member with before | last
    · exact taken.boots call before
    · rw [ofImage call last]
      exact ⟨taken.session inside, taken.accepted⟩
  exact called.carried carried fun _ => inside

theorem taken_session {event : OtaEvent} (inv : OtaIntegrity.Inv firmware ota)
    (taken : Taken sha256 staged ota)
    (stepped : ota.sessionStep firmware ota.pc event = some next) : Taken sha256 staged next := by
  cases Ota.session_kind stepped with
  | enterSession battery at_ => exact taken_enterSession inv taken at_ battery
  | activate found beginOk hashSetupOk at_ =>
    exact taken.carried (activate_carried ota found beginOk hashSetupOk) fun _ => by rw [at_]; rfl
  | prime chunk ok at_ =>
    exact taken.carried (prime_carried ota chunk ok) fun _ => by rw [at_]; rfl
  | wait at_ => exact taken.carried (wait_carried ota) fun _ => by rw [at_]; rfl
  | countDone chunkBit at_ =>
    exact taken.carried (countDone_carried ota chunkBit) fun _ => by rw [at_]; rfl
  | topUp chunk nowDone ok capExceeded at_ =>
    exact taken.carried (topUp_carried ota chunk nowDone ok capExceeded) fun _ => by rw [at_]; rfl
  | finalize hashOk endOk bootOk at_ => exact taken_finalize taken at_ hashOk endOk bootOk
  | report at_ =>
    refine taken.carried (report_carried ota) fun inside => ?_
    rcases (Ota.report_frame ota).2 with moved | moved <;> rw [moved] at inside <;> cases inside
  | loopCheck uriFound at_ idle =>
    split
    · exact taken.carried ⟨rfl, rfl, rfl, .inl rfl, rfl⟩ fun inside =>
        absurd inside Bool.false_ne_true
    · exact taken.carried ⟨rfl, rfl, rfl, .inl rfl, rfl⟩ fun inside =>
        absurd inside Bool.false_ne_true
  | beginWindow at_ =>
    exact taken.carried ⟨rfl, rfl, rfl, .inl rfl, rfl⟩ fun _ => by rw [at_]; rfl
  | pin at_ => exact taken.carried ⟨rfl, rfl, rfl, .inl rfl, rfl⟩ fun _ => by rw [at_]; rfl
  | endSession at_ => exact taken.carried ⟨rfl, rfl, rfl, .inl rfl, rfl⟩ fun _ => by rw [at_]; rfl
  | _ =>
    -- the client is opened or closed, or the session is on its way out
    exact taken.carried ⟨rfl, rfl, rfl, .inl rfl, rfl⟩ fun inside =>
      absurd inside Bool.false_ne_true

theorem handleImageChunk_leaves (ota : Ota) (message other : ChunkMessage) (writeOk hashOk : Bool) :
    (ota.handleImageChunk message writeOk hashOk).handler ≠ .chunk other := by
  unfold Ota.handleImageChunk
  split
  · simp
  · split
    · simp
    · split
      · simp
      · split
        · dsimp only
          split <;> simp
        · simp

theorem acceptable_ne_nil (inv : OtaIntegrity.Inv firmware ota) {message : ChunkMessage}
    (inHandler : ota.handler = .chunk message) (acceptable : KeptDownload.Acceptable ota message)
    (isOpen : ota.otaHandle ≠ none) : message.data ≠ [] := by
  have valid : ota.partialValid = true := by
    by_contra invalid
    exact isOpen (inv.sound.cleared (by simpa [partialOf] using invalid)).1
  have geometry : Geometry ota.partialManifest := inv.sound.geometry valid
  obtain ⟨-, -, next, fits⟩ := acceptable
  have inside := inFlight_inside inv inHandler valid
  rw [next] at inside
  have before := (Chunks.lt_count_iff geometry.chunked).mp inside
  have chunked := geometry.chunked
  rw [expectedLen_eq geometry inside, Chunks.len] at fits
  apply List.ne_nil_of_length_pos
  omega

theorem taken_handleImageChunk (inv : OtaIntegrity.Inv firmware ota)
    (taken : Taken sha256 staged ota) {message : ChunkMessage}
    (inHandler : ota.handler = .chunk message) (writeOk hashOk : Bool) :
    Taken sha256 staged (ota.handleImageChunk message writeOk hashOk) := by
  have leaves := handleImageChunk_leaves ota message
  rcases KeptDownload.handleImageChunk_cases ota message writeOk hashOk with
    ⟨handler, same⟩ | ⟨written, acceptable, -, isOpen, same⟩
  · refine ⟨?_, ?_, fun other at_ => absurd at_ (leaves other writeOk hashOk), ?_, ?_⟩ <;> rw [same]
    exacts [taken.manifest, taken.session, taken.accepted, taken.boots]
  · have piece : Piece staged message.index message.data :=
      taken.handler message inHandler acceptable.1 acceptable.2.1
        (acceptable_ne_nil inv inHandler acceptable (by simp [isOpen]))
    refine ⟨?_, ?_, fun other at_ => absurd at_ (leaves other writeOk hashOk), ?_, ?_⟩ <;>
      rw [same] <;> split
    exacts [taken.manifest, taken.manifest, taken.session, taken.session,
      by
        intro entry inside
        rcases List.mem_append.mp inside with before | last
        · exact taken.accepted entry before
        · rw [List.mem_singleton.mp last]
          exact piece,
      taken.accepted, taken.boots, taken.boots]

theorem taken_handler {event : OtaEvent} {published : List (Topic × Payload)}
    (sent : ∀ message ∈ published, Sent sha256 staged message)
    (heard : delivers published event = true) (inv : OtaIntegrity.Inv firmware ota)
    (taken : Taken sha256 staged ota)
    (stepped : ota.handlerStep ota.handler event = some next) : Taken sha256 staged next := by
  cases Ota.handler_kind stepped with
  | arrives message _ _ =>
    refine { taken with handler := ?_ }
    intro other inNext unsegmented total some_
    cases HandlerPc.chunk.inj inNext
    have among := of_decide_eq_true heard
    simp only [unsegmented, total, ne_eq, not_true_eq_false, false_or] at among
    exact piece_of_sent some_ (sent _ among)
  | dropped message _ => exact taken
  | ignored _ => exact taken
  | chunk message writeOk hashOk inHandler =>
    exact taken_handleImageChunk inv taken inHandler writeOk hashOk
  | _ =>
    refine { taken with handler := ?_ }
    intro other inNext
    cases inNext

theorem taken_manifest {message : ManifestMessage} {published : List (Topic × Payload)}
    (printable : ∀ push ∈ staged, push.version.all plain = true)
    (sent : ∀ message ∈ published, Sent sha256 staged message)
    (heard : delivers published (.manifest message) = true) (taken : Taken sha256 staged ota) :
    Taken sha256 staged (ota.handleManifest firmware message) := by
  cases message with
  | empty => exact { taken with manifest := fun valid => absurd valid Bool.false_ne_true }
  | spansEvents => exact taken
  | body fields =>
    cases accepted : acceptManifest firmware fields with
    | none =>
      simp only [Ota.handleManifest, accepted]
      exact taken
    | some manifest =>
      simp only [Ota.handleManifest, accepted]
      refine { taken with manifest := fun _ => ?_ }
      obtain ⟨⟨topic, payload⟩, among, described⟩ := List.any_eq_true.mp heard
      cases payload with
      | bytes data => cases described
      | manifest stagedManifest =>
        obtain ⟨isManifest, same⟩ := of_decide_eq_true described
        rcases sent _ among with delete | ⟨push, member, n, found⟩ | ⟨push, member, found⟩ | install
        · cases delete
        · cases (Prod.mk.inj found).2
        · have staged_ := Payload.manifest.inj (Prod.mk.inj found).2
          rw [← same, staged_] at accepted
          exact ⟨push, member, describes_of_accepted (printable push member) accepted⟩
        · exact absurd (isManifest.symm.trans install) (by decide)

theorem taken_step {event : OtaEvent} {published : List (Topic × Payload)}
    (printable : ∀ push ∈ staged, push.version.all plain = true)
    (sent : ∀ message ∈ published, Sent sha256 staged message)
    (heard : delivers published event = true) (inv : OtaIntegrity.Inv firmware ota)
    (taken : Taken sha256 staged ota) (stepped : ota.step firmware event = some next) :
    Taken sha256 staged next := by
  cases Ota.step_kind stepped with
  | manifest message _ => exact taken_manifest printable sent heard taken
  | install set _ =>
    exact taken.carried ⟨rfl, rfl, rfl, .inl rfl, rfl⟩ fun inside => inside
  | handler handled => exact taken_handler sent heard inv taken handled
  | session ran => exact taken_session inv taken ran

end Steps

/-! ## All of them -/

section Whole

variable {sha256 : Bytes → Digest} {bench next : Bench}

structure Sourced (sha256 : Bytes → Digest) (bench : Bench) : Prop where
  device : OtaIntegrity.Inv (firmwareOf sha256 bench.runningVersion) bench.ota
  sent : ∀ message ∈ bench.published, Sent sha256 bench.staged message
  toSend : ∀ message ∈ bench.outbox, Sent sha256 bench.staged message
  printable : ∀ push ∈ bench.staged, push.version.all plain = true
  taken : Taken sha256 bench.staged bench.ota

theorem Piece.more {staged : List Push} {index : Nat} {payload : Bytes}
    (piece : Piece staged index payload) (push : Push) :
    Piece (staged ++ [push]) index payload := by
  obtain ⟨other, member, same⟩ := piece
  exact ⟨other, List.mem_append_left _ member, same⟩

theorem OfStaging.more {staged : List Push} {manifest : Manifest}
    (ofStaging : OfStaging sha256 staged manifest) (push : Push) :
    OfStaging sha256 (staged ++ [push]) manifest := by
  obtain ⟨other, member, described⟩ := ofStaging
  exact ⟨other, List.mem_append_left _ member, described⟩

theorem Taken.more {staged : List Push} {ota : Ota} (taken : Taken sha256 staged ota)
    (push : Push) : Taken sha256 (staged ++ [push]) ota where
  manifest valid := (taken.manifest valid).more push
  session inside := (taken.session inside).more push
  handler message inHandler unsegmented total some_ :=
    (taken.handler message inHandler unsegmented total some_).more push
  accepted entry inside := (taken.accepted entry inside).more push
  boots call called :=
    ⟨(taken.boots call called).1.more push,
      fun entry inside => ((taken.boots call called).2 entry inside).more push⟩

theorem sourced_stage (sourced : Sourced sha256 bench) {push : Push}
    (printable : push.version.all plain = true) :
    Sourced sha256 { bench with
      outbox := stage sha256 push bench.broker, staged := bench.staged ++ [push] } where
  device := sourced.device
  sent message among := (sourced.sent message among).more push
  toSend := sent_stage (List.mem_append_right _ List.mem_cons_self) bench.broker
  printable other member := by
    rcases List.mem_append.mp member with before | last
    · exact sourced.printable other before
    · rw [List.mem_singleton.mp last]
      exact printable
  taken := sourced.taken.more push

/-- A boot forgets all but what was flashed. -/
theorem sourced_reboot (sourced : Sourced sha256 bench) (runningVersion : List Char) :
    Sourced sha256 { bench with
      ota := { boots := bench.ota.boots }, runningVersion := runningVersion } where
  device := { inv_boot (firmwareOf sha256 runningVersion) with
    boots := by
      intro call called
      obtain ⟨indices, written, length, digest, sessions⟩ := sourced.device.boots call called
      exact ⟨indices, written, length, digest, sessions⟩ }
  sent := sourced.sent
  toSend := sourced.toSend
  printable := sourced.printable
  taken :=
    { manifest := fun valid => absurd valid Bool.false_ne_true
      session := fun inside => absurd inside Bool.false_ne_true
      handler := fun message inHandler => by cases inHandler
      accepted := fun entry inside => by cases inside
      boots := sourced.taken.boots }

theorem sourced_step (bench : Bench) (event : BenchEvent) (next : Bench)
    (sourced : Sourced sha256 bench) (stepped : bench.step sha256 event = some next) :
    Sourced sha256 next := by
  cases event with
  | stage push =>
    obtain ⟨⟨-, printable⟩, same⟩ := Option.ite_none_right_eq_some.mp stepped
    cases Option.some.inj same
    exact sourced_stage sourced printable
  | clear =>
    obtain ⟨-, same⟩ := Option.ite_none_right_eq_some.mp stepped
    cases Option.some.inj same
    exact { sourced with toSend := fun message delete => .inl (clearStale_deletes delete) }
  | publish =>
    have toSend := sourced.toSend
    simp only [Bench.step] at stepped
    cases waiting : bench.outbox with
    | nil =>
      rw [waiting] at stepped
      cases stepped
    | cons message rest =>
      rw [waiting] at stepped toSend
      cases Option.some.inj stepped
      refine { sourced with sent := ?_, toSend := ?_ }
      · intro other among
        rcases List.mem_append.mp among with before | last
        · exact sourced.sent other before
        · rw [List.mem_singleton.mp last]
          exact toSend message List.mem_cons_self
      · exact fun other among => toSend other (List.mem_cons_of_mem _ among)
  | stop =>
    cases Option.some.inj stepped
    exact { sourced with toSend := fun message among => by cases among }
  | device event =>
    obtain ⟨heard, moved⟩ := Option.ite_none_right_eq_some.mp stepped
    obtain ⟨ota, taken, rfl⟩ := Option.map_eq_some_iff.mp moved
    exact { sourced with
      device := inv_step sourced.device taken
      taken := taken_step sourced.printable sourced.sent heard sourced.device sourced.taken taken }
  | reboot runningVersion =>
    cases Option.some.inj stepped
    exact sourced_reboot sourced runningVersion

theorem sourced_start (runningVersion : List Char) :
    Sourced sha256 { runningVersion := runningVersion } where
  device := inv_boot _
  sent message among := by cases among
  toSend message among := by cases among
  printable push member := by cases member
  taken :=
    { manifest := fun valid => absurd valid Bool.false_ne_true
      session := fun inside => absurd inside Bool.false_ne_true
      handler := fun message inHandler => by cases inHandler
      accepted := fun entry inside => by cases inside
      boots := fun call called => by cases called }

/-- Chunks that are all of the image make it. -/
theorem written_of_chunks {firmware : Firmware} {call : BootCall} {push : Push}
    (intact : Intact firmware call) (length : call.written.length = push.image.length)
    (own : ∀ entry ∈ call.accepted,
      entry.payload = chunkAt push.image push.chunkSize entry.index) :
    call.written = push.image := by
  have flat : call.written =
      push.image.take (chunkCount call.manifest * push.chunkSize) := by
    rw [intact.written, ← flatten_chunkAt, ← intact.indices, List.map_map]
    exact congrArg List.flatten (List.map_congr_left own)
  have isPrefix : call.written <+: push.image := flat ▸ List.take_prefix _ _
  exact isPrefix.eq_of_length length

/-- What is set to boot has the length and the hash of an image that the tool
staged, and it is that image unless a chunk of another staging is in it. -/
theorem everyBoot_staged (sha256 : Bytes → Digest) (runningVersion : List Char)
    (events : List BenchEvent) (final : Bench)
    (ran : run (Bench.step sha256) { runningVersion := runningVersion } events = some final)
    (call : BootCall) (called : call ∈ final.ota.boots) :
    ∃ push ∈ final.staged, call.written.length = push.image.length ∧
      sha256 call.written = sha256 push.image ∧
      (call.written = push.image ∨
        ∃ entry ∈ call.accepted, ∃ other ∈ final.staged,
          entry.payload = chunkAt other.image other.chunkSize entry.index ∧
            entry.payload ≠ chunkAt push.image push.chunkSize entry.index) := by
  have sourced : Sourced sha256 final :=
    run_invariant (Sourced sha256) sourced_step (sourced_start runningVersion) ran
  obtain ⟨⟨push, member, size, -, digest⟩, pieces⟩ := sourced.taken.boots call called
  have intact := sourced.device.boots call called
  have length : call.written.length = push.image.length := intact.length.trans size
  refine ⟨push, member, length, intact.digest.trans digest, ?_⟩
  by_cases own : ∀ entry ∈ call.accepted,
      entry.payload = chunkAt push.image push.chunkSize entry.index
  · exact .inl (written_of_chunks intact length own)
  · simp only [not_forall] at own
    obtain ⟨entry, inside, foreign⟩ := own
    obtain ⟨other, staged, same⟩ := pieces entry inside
    exact .inr ⟨entry, inside, other, staged, same, foreign⟩

def threeChunks : Push where
  image := smallImage
  version := ['2']
  chunkSize := 40
  force := false
  install := true

example : readAppVersion threeChunks.image = some threeChunks.version := by decide +kernel

/-- Three chunks, the manifest and the flag are staged, taken over the air in two
sessions and booted. -/
def smallBench : List BenchEvent :=
  .stage threeChunks :: List.replicate 5 .publish ++
    (lostSession ++ resumedSession).map .device ++ [.reboot ['2']]

theorem everyBoot_staged_resumed :
    ∃ final, run (Bench.step smallFirmware.sha256) { runningVersion := ['1'] } smallBench =
        some final ∧ ∃ call ∈ final.ota.boots,
      ∃ push ∈ final.staged, call.written.length = push.image.length ∧
        smallFirmware.sha256 call.written = smallFirmware.sha256 push.image ∧
        (call.written = push.image ∨
          ∃ entry ∈ call.accepted, ∃ other ∈ final.staged,
            entry.payload = chunkAt other.image other.chunkSize entry.index ∧
              entry.payload ≠ chunkAt push.image push.chunkSize entry.index) := by
  obtain ⟨final, ran, found⟩ := exists_final
    (fun final : Bench => decide (final.ota.boots ≠ []))
    (show (run (Bench.step smallFirmware.sha256) { runningVersion := ['1'] }
      smallBench).any _ = true by decide +kernel)
  obtain ⟨call, called⟩ := List.exists_mem_of_ne_nil _ (of_decide_eq_true found)
  exact ⟨final, ran, call, called,
    everyBoot_staged smallFirmware.sha256 ['1'] smallBench final ran call called⟩

end Whole

end SleepySensor.StagedUpdate
