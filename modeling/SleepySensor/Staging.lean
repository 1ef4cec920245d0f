import Mathlib.Data.Char
import Mathlib.Data.Finmap
import Mathlib.Data.Finset.Sort
import Mathlib.Data.List.Lex
import SleepySensor.Ota

/-!
# Staging an image with `ota_push.py`

The retained topics under `<device>/ota/` and the publishes and deletes that
`main` issues for a new image: `clear_stale` in sorted order, the chunks, the
manifest, the install flag.  An image without an `esp_app_desc_t` is refused
before any of them.
-/

set_option autoImplicit false

namespace SleepySensor.Staging

/-- What follows `<device>/ota/`.  All the topics share that prefix. -/
abbrev Topic : Type := List Char

def manifestTopic : Topic := ['m', 'a', 'n', 'i', 'f', 'e', 's', 't']
def installTopic : Topic := ['i', 'n', 's', 't', 'a', 'l', 'l']
def chunkTopic (n : Nat) : Topic := ['i', 'm', 'a', 'g', 'e', '/'] ++ Nat.toDigits 10 n

/-- `topic.endswith("/ota/installed") or topic.endswith("/ota/status")`. -/
def deviceOwned (topic : Topic) : Bool :=
  "/ota/installed".toList.isSuffixOf ("/ota/".toList ++ topic) ||
    "/ota/status".toList.isSuffixOf ("/ota/".toList ++ topic)

/-- The JSON object of the manifest. -/
structure StagedManifest where
  version : List Char
  size : Nat
  sha256 : Digest
  chunkSize : Nat
  force : Bool
  deriving DecidableEq, Repr

inductive Payload where
  | bytes (data : Bytes)
  | manifest (fields : StagedManifest)
  deriving DecidableEq, Repr

/-- The retained message of each topic. -/
abbrev Broker : Type := Finmap fun _ : Topic => Payload

/-- `publish_retained`: an empty payload, or `None`, deletes the topic. -/
def publishRetained (broker : Broker) (message : Topic × Payload) : Broker :=
  if message.2 = .bytes [] then broker.erase message.1
  else broker.insert message.1 message.2

def chunkAt (image : Bytes) (chunkSize n : Nat) : Bytes :=
  (image.drop (n * chunkSize)).take chunkSize

/-! ## The image -/

def appDescOffset : Nat := 0x20

def appDescMagic : Nat := 0xABCD5432

def unpackU32 (image : Bytes) (offset : Nat) : Nat :=
  ((image.drop offset).take 4).foldr (fun byte rest => byte.toNat + 256 * rest) 0

def decode (bytes : Bytes) : Option (List Char) :=
  (ByteArray.mk bytes.toArray).utf8Decode?.map Array.toList

/-- `none` where the tool exits: too short, another magic, a version that is not UTF-8. -/
def readAppVersion (image : Bytes) : Option (List Char) :=
  if image.length < appDescOffset + 0x30 + 32 then none
  else if unpackU32 image appDescOffset ≠ appDescMagic then none
  else
    let raw := (image.drop (appDescOffset + 16)).take 32
    decode (raw.takeWhile fun byte => byte != 0)

/-! ## What the tool publishes -/

/-- The command line of a staging, with the file read. -/
structure Arguments where
  image : Bytes
  chunkSize : Nat
  force : Bool
  install : Bool
  deriving DecidableEq, Repr

/-- What `main` stages: the image and the version that goes with it. -/
structure Push where
  image : Bytes
  version : List Char
  chunkSize : Nat
  force : Bool
  install : Bool
  deriving DecidableEq, Repr

def Arguments.push (arguments : Arguments) (version : List Char) : Push :=
  { image := arguments.image, version := version, chunkSize := arguments.chunkSize
    force := arguments.force, install := arguments.install }

def Arguments.chunkCount (arguments : Arguments) : Nat :=
  Chunks.count arguments.image.length arguments.chunkSize

namespace Push

def chunkCount (push : Push) : Nat := Chunks.count push.image.length push.chunkSize

def keep (push : Push) : Finset Topic :=
  insert installTopic ((List.range push.chunkCount).map chunkTopic).toFinset

end Push

section Sha

variable (sha256 : Bytes → Digest)

def Push.manifest (push : Push) : StagedManifest :=
  { version := push.version, size := push.image.length, sha256 := sha256 push.image
    chunkSize := push.chunkSize, force := push.force }

/-- The deletes of `clear_stale`. -/
def clearStale (retained : Broker) (keep : Finset Topic) : List (Topic × Payload) :=
  (((retained.keys \ keep).sort).filter fun topic => !deviceOwned topic).map
    fun topic => (topic, .bytes [])

def chunkMessages (push : Push) : List (Topic × Payload) :=
  (List.range push.chunkCount).map fun n =>
    (chunkTopic n, .bytes (chunkAt push.image push.chunkSize n))

/-- What follows the chunks. -/
def finalMessages (push : Push) : List (Topic × Payload) :=
  (manifestTopic, .manifest (push.manifest sha256)) ::
    if push.install then [(installTopic, .bytes ("install".toList.map fun c => c.toUInt8))] else []

/-- What `main` publishes and deletes once it has the version.  With a chunk size
of 0 the slicing fails before the first of them. -/
def stage (push : Push) (retained : Broker) : List (Topic × Payload) :=
  if push.chunkSize = 0 then []
  else clearStale retained push.keep ++ (chunkMessages push ++ finalMessages sha256 push)

/-- The retained publishes and deletes of `main`, none for an image that
`read_app_version` refuses. -/
def messages (arguments : Arguments) (retained : Broker) : List (Topic × Payload) :=
  match readAppVersion arguments.image with
  | none => []
  | some version => stage sha256 (arguments.push version) retained

/-- `collect_retained_ota_topics`: every retained topic that the broker has, and no
other. -/
def Collected (broker retained : Broker) : Prop := ∀ topic, topic ∈ retained ↔ topic ∈ broker

/-- The chunk topics of the manifest hold the image that it describes. -/
def Described (broker : Broker) (manifest : StagedManifest) : Prop :=
  ∃ image : Bytes, image.length = manifest.size ∧ sha256 image = manifest.sha256 ∧
    ∀ n, n < Chunks.count manifest.size manifest.chunkSize →
      broker.lookup (chunkTopic n) = some (.bytes (chunkAt image manifest.chunkSize n))

/-- No manifest is retained without its chunks. -/
def Safe (broker : Broker) : Prop :=
  ∀ manifest, broker.lookup manifestTopic = some (.manifest manifest) →
    Described sha256 broker manifest

/-- A broker with a complete older staging. -/
structure Staged where
  broker : Broker
  manifest : StagedManifest
  held : broker.lookup manifestTopic = some (.manifest manifest)
  complete : Described sha256 broker manifest

def Staged.chunkCount {sha256 : Bytes → Digest} (old : Staged sha256) : Nat :=
  Chunks.count old.manifest.size old.manifest.chunkSize

end Sha

/-! ## Topics -/

theorem chunkTopic_inj {n m : Nat} (same : chunkTopic n = chunkTopic m) : n = m := by
  have digits : Nat.toDigits 10 n = Nat.toDigits 10 m := List.append_cancel_left same
  have read := congrArg (Nat.ofDigitChars 10 · 0) digits
  simpa only [Nat.ofDigitChars_ten_toDigits] using read

theorem chunkTopic_ne_manifest (n : Nat) : chunkTopic n ≠ manifestTopic := by
  simp [chunkTopic, manifestTopic]

theorem chunkTopic_ne_install (n : Nat) : chunkTopic n ≠ installTopic := by
  simp [chunkTopic, installTopic]

theorem chunkTopic_lt_manifest (n : Nat) : chunkTopic n < manifestTopic :=
  List.Lex.rel (by decide)

theorem manifest_not_owned : deviceOwned manifestTopic = false := by decide

theorem chunkTopic_not_owned (n : Nat) : deviceOwned (chunkTopic n) = false := by
  have suffix : ∀ (name : Topic) (last : Char), name.getLast? = some last → last.isDigit = false →
      name.isSuffixOf ("/ota/".toList ++ chunkTopic n) = false := by
    intro name last ends notDigit
    by_contra owned
    obtain ⟨front, same⟩ := List.isSuffixOf_iff_suffix.mp (Bool.eq_true_of_not_eq_false owned)
    have digit : (Nat.toDigits 10 n).getLast? = some last := by
      have tails := congrArg List.getLast? same
      rw [List.getLast?_append, ends, chunkTopic, List.getLast?_append, List.getLast?_append,
        List.getLast?_eq_some_getLast Nat.toDigits_ne_nil] at tails
      rw [List.getLast?_eq_some_getLast Nat.toDigits_ne_nil]
      exact tails.symm
    have isDigit := Nat.isDigit_of_mem_toDigits (by decide) (by decide)
      (List.mem_of_getLast? digit)
    cases notDigit.symm.trans isDigit
  unfold deviceOwned
  rw [suffix _ 'd' (by decide) (by decide), suffix _ 's' (by decide) (by decide)]
  rfl

theorem mem_keep {push : Push} {topic : Topic} :
    topic ∈ push.keep ↔ topic = installTopic ∨ ∃ n, n < push.chunkCount ∧ chunkTopic n = topic := by
  simp [Push.keep]

/-! ## What a sequence of messages does to a topic -/

theorem lookup_publish_ne {broker : Broker} {message : Topic × Payload} {topic : Topic}
    (other : topic ≠ message.1) :
    (publishRetained broker message).lookup topic = broker.lookup topic := by
  unfold publishRetained
  split
  · exact Finmap.lookup_erase_ne other
  · exact Finmap.lookup_insert_of_ne _ other

theorem lookup_publish {broker : Broker} {topic : Topic} {payload : Payload}
    (present : payload ≠ .bytes []) :
    (publishRetained broker (topic, payload)).lookup topic = some payload := by
  unfold publishRetained
  rw [if_neg present]
  exact Finmap.lookup_insert _

theorem lookup_sent_ne {topic : Topic} {sent : List (Topic × Payload)}
    (others : ∀ message ∈ sent, topic ≠ message.1) (broker : Broker) :
    (sent.foldl publishRetained broker).lookup topic = broker.lookup topic := by
  induction sent generalizing broker with
  | nil => rfl
  | cons message rest ih =>
    rw [List.foldl_cons, ih fun later member => others later (List.mem_cons_of_mem _ member)]
    exact lookup_publish_ne (others message List.mem_cons_self)

theorem lookup_deleted {sent : List (Topic × Payload)}
    (deletes : ∀ message ∈ sent, message.2 = .bytes []) (topic : Topic) (broker : Broker) :
    (sent.foldl publishRetained broker).lookup topic =
      if topic ∈ sent.map Prod.fst then none else broker.lookup topic := by
  induction sent generalizing broker with
  | nil => simp
  | cons message rest ih =>
    rw [List.foldl_cons, ih fun later member => deletes later (List.mem_cons_of_mem _ member)]
    by_cases same : topic = message.1
    · have gone : (publishRetained broker message).lookup topic = none := by
        unfold publishRetained
        rw [if_pos (deletes message List.mem_cons_self), same]
        exact Finmap.lookup_erase _ _
      rw [gone, ite_self, if_pos]
      rw [same]
      exact List.mem_cons_self
    · have elsewhere : topic ∈ (message :: rest).map Prod.fst ↔ topic ∈ rest.map Prod.fst := by
        rw [List.map_cons, List.mem_cons, or_iff_right same]
      rw [lookup_publish_ne same]
      simp only [elsewhere]

theorem prefix_append_cases {α : Type} {sent first later : List α}
    (isPrefix : sent <+: first ++ later) :
    sent <+: first ∨ ∃ rest, sent = first ++ rest ∧ rest <+: later := by
  rcases List.prefix_or_prefix_of_prefix isPrefix (List.prefix_append first later) with
    within | ⟨rest, rfl⟩
  · exact Or.inl within
  · exact Or.inr ⟨rest, rfl, (List.prefix_append_right_inj first).mp isPrefix⟩

theorem chunkAt_ne_nil {push : Push} (positive : 0 < push.chunkSize) {n : Nat}
    (inside : n < push.chunkCount) : chunkAt push.image push.chunkSize n ≠ [] := by
  have starts := (Chunks.lt_count_iff positive).mp inside
  apply List.ne_nil_of_length_pos
  simp only [chunkAt, List.length_take, List.length_drop]
  omega

theorem lookup_chunks {push : Push} (positive : 0 < push.chunkSize) (broker : Broker) {n : Nat}
    (inside : n < push.chunkCount) :
    ((chunkMessages push).foldl publishRetained broker).lookup (chunkTopic n) =
      some (.bytes (chunkAt push.image push.chunkSize n)) := by
  have upto : ∀ count, n < count → count ≤ push.chunkCount →
      (((List.range count).map fun n => (chunkTopic n,
        Payload.bytes (chunkAt push.image push.chunkSize n))).foldl publishRetained broker).lookup
          (chunkTopic n) = some (.bytes (chunkAt push.image push.chunkSize n)) := by
    intro count below within
    induction count with
    | zero => omega
    | succ count ih =>
      rw [List.range_succ, List.map_append, List.foldl_append, List.map_singleton,
        List.foldl_cons, List.foldl_nil]
      by_cases last : n = count
      · rw [last]
        apply lookup_publish
        intro empty
        exact chunkAt_ne_nil positive (by omega) (Payload.bytes.inj empty)
      · rw [lookup_publish_ne fun same => last (chunkTopic_inj same)]
        exact ih (by omega) (by omega)
  exact upto push.chunkCount inside (Nat.le_refl _)

/-! ## The clears -/

variable {sha256 : Bytes → Digest} {old : Staged sha256} {push : Push} {retained : Broker}
  {keep : Finset Topic}

theorem clearStale_deletes {message : Topic × Payload}
    (member : message ∈ clearStale retained keep) : message.2 = .bytes [] := by
  obtain ⟨topic, _, rfl⟩ := List.mem_map.mp member
  rfl

theorem mem_clearStale {topic : Topic} :
    topic ∈ (clearStale retained keep).map Prod.fst ↔
      topic ∈ retained ∧ topic ∉ keep ∧ deviceOwned topic = false := by
  simp [clearStale, and_assoc, Finmap.mem_keys]

theorem manifest_not_kept : manifestTopic ∉ push.keep := by
  intro kept
  rcases mem_keep.mp kept with install | ⟨n, _, same⟩
  · exact absurd install (by decide)
  · exact chunkTopic_ne_manifest n same

theorem chunk_kept_iff {n : Nat} : chunkTopic n ∈ push.keep ↔ n < push.chunkCount := by
  rw [mem_keep]
  constructor
  · rintro (install | ⟨m, inside, same⟩)
    · exact absurd install (chunkTopic_ne_install n)
    · rw [← chunkTopic_inj same]
      exact inside
  · exact fun inside => Or.inr ⟨n, inside, rfl⟩

/-- While stale topics are deleted, a manifest that is still there still has
its chunks if none of them is stale. -/
theorem safe_clearing (fewer : old.chunkCount ≤ push.chunkCount) {sent : List (Topic × Payload)}
    (isPrefix : sent <+: clearStale old.broker push.keep) :
    Safe sha256 (sent.foldl publishRetained old.broker) := by
  have deletes : ∀ message ∈ sent, message.2 = .bytes [] :=
    fun message member => clearStale_deletes (isPrefix.subset member)
  intro manifest found
  rw [lookup_deleted deletes] at found
  split at found
  · cases found
  · obtain rfl : old.manifest = manifest := by
      have same := old.held.symm.trans found
      injection Option.some.inj same
    obtain ⟨image, size, digest, chunks⟩ := old.complete
    refine ⟨image, size, digest, fun n inside => ?_⟩
    rw [lookup_deleted deletes, if_neg]
    · exact chunks n inside
    · intro cleared
      have stale := (isPrefix.map Prod.fst).subset cleared
      exact (mem_clearStale.mp stale).2.1 (chunk_kept_iff.mpr (by
        have bound : n < old.chunkCount := inside
        omega))

theorem manifest_cleared (old : Staged sha256) (push : Push) :
    ((clearStale old.broker push.keep).foldl publishRetained old.broker).lookup manifestTopic =
      none := by
  have stale : manifestTopic ∈ (clearStale old.broker push.keep).map Prod.fst :=
    mem_clearStale.mpr ⟨Finmap.mem_iff.mpr ⟨_, old.held⟩, manifest_not_kept, manifest_not_owned⟩
  rw [lookup_deleted fun _ => clearStale_deletes, if_pos stale]

theorem safe_of_no_manifest {broker : Broker} (absent : broker.lookup manifestTopic = none) :
    Safe sha256 broker := fun manifest found => by cases absent.symm.trans found

theorem chunkMessages_ne_manifest {message : Topic × Payload}
    (member : message ∈ chunkMessages push) : manifestTopic ≠ message.1 := by
  obtain ⟨n, _, rfl⟩ := List.mem_map.mp member
  exact (chunkTopic_ne_manifest n).symm

theorem safe_final {broker : Broker}
    (absent : broker.lookup manifestTopic = none)
    (chunks : ∀ n, n < push.chunkCount → broker.lookup (chunkTopic n) =
      some (.bytes (chunkAt push.image push.chunkSize n)))
    {sent : List (Topic × Payload)} (isPrefix : sent <+: finalMessages sha256 push) :
    Safe sha256 (sent.foldl publishRetained broker) := by
  rcases List.prefix_cons_iff.mp isPrefix with rfl | ⟨rest, rfl, installs⟩
  · exact safe_of_no_manifest absent
  have others : ∀ topic, topic ≠ installTopic → ∀ message ∈ rest, topic ≠ message.1 := by
    intro topic notInstall message member
    have inside := installs.subset member
    split at inside
    · rw [List.mem_singleton.mp inside]
      exact notInstall
    · cases inside
  intro manifest found
  rw [List.foldl_cons] at found ⊢
  rw [lookup_sent_ne (others _ (by decide)), lookup_publish (by simp)] at found
  obtain rfl : push.manifest sha256 = manifest := by
    injection Option.some.inj found
  refine ⟨push.image, rfl, rfl, fun n inside => ?_⟩
  rw [lookup_sent_ne (others _ (chunkTopic_ne_install n)),
    lookup_publish_ne (chunkTopic_ne_manifest n)]
  exact chunks n inside

theorem safe_of_fewer (positive : 0 < push.chunkSize) (fewer : old.chunkCount ≤ push.chunkCount)
    {sent : List (Topic × Payload)} (isPrefix : sent <+: stage sha256 push old.broker) :
    Safe sha256 (sent.foldl publishRetained old.broker) := by
  rw [stage, if_neg (by omega)] at isPrefix
  have absent := manifest_cleared old push
  rcases prefix_append_cases isPrefix with clearing | ⟨later, rfl, withinRest⟩
  · exact safe_clearing fewer clearing
  rw [List.foldl_append]
  generalize (clearStale old.broker push.keep).foldl publishRetained old.broker = cleared at absent
  rcases prefix_append_cases withinRest with chunking | ⟨last, rfl, withinLast⟩
  · apply safe_of_no_manifest
    rw [lookup_sent_ne fun message member => chunkMessages_ne_manifest (chunking.subset member)]
    exact absent
  · rw [List.foldl_append]
    refine safe_final ?_ (fun n => lookup_chunks positive cleared) withinLast
    rw [lookup_sent_ne fun message => chunkMessages_ne_manifest]
    exact absent

/-! ## An old chunk goes before the old manifest -/

/-- With more old chunks than new ones, deleting up to the old manifest leaves it
without the first of the chunks that are not kept. -/
theorem unsafe_of_more (positive : 0 < push.chunkSize) (more : push.chunkCount < old.chunkCount) :
    ∃ sent, sent <+: stage sha256 push old.broker ∧
      ¬ Safe sha256 (sent.foldl publishRetained old.broker) := by
  obtain ⟨image, size, digest, chunks⟩ := old.complete
  have staleManifest : manifestTopic ∈ (clearStale old.broker push.keep).map Prod.fst :=
    mem_clearStale.mpr ⟨Finmap.mem_iff.mpr ⟨_, old.held⟩, manifest_not_kept, manifest_not_owned⟩
  have staleChunk : chunkTopic push.chunkCount ∈
      (clearStale old.broker push.keep).map Prod.fst :=
    mem_clearStale.mpr ⟨Finmap.mem_iff.mpr ⟨_, chunks _ more⟩,
      fun kept => Nat.lt_irrefl _ (chunk_kept_iff.mp kept), chunkTopic_not_owned _⟩
  have sorted : ((clearStale old.broker push.keep).map Prod.fst).Pairwise (· < ·) := by
    have order := (Finset.sortedLT_sort (old.broker.keys \ push.keep)).pairwise
    have kept := order.filter fun topic => !deviceOwned topic
    simpa [clearStale, Function.comp_def] using kept
  obtain ⟨before, after, split⟩ := List.append_of_mem staleManifest
  rw [split] at sorted staleChunk
  obtain ⟨_, _, below⟩ := List.pairwise_append.mp sorted
  have first : chunkTopic push.chunkCount ∈ before := by
    rcases List.mem_append.mp staleChunk with early | late
    · exact early
    exfalso
    rcases List.mem_cons.mp late with same | later
    · exact chunkTopic_ne_manifest _ same
    · have order := (List.pairwise_cons.mp (List.pairwise_append.mp sorted).2.1).1 _ later
      exact lt_asymm order (chunkTopic_lt_manifest _)
  have still : manifestTopic ∉ before := fun member =>
    lt_irrefl _ (below _ member _ List.mem_cons_self)
  obtain ⟨sent, rest, cut, topics, _⟩ := List.map_eq_append_iff.mp split
  have deletes : ∀ message ∈ sent, message.2 = .bytes [] := fun message member =>
    clearStale_deletes (cut ▸ List.mem_append_left rest member)
  refine ⟨sent, ?_, fun safe => ?_⟩
  · rw [stage, if_neg (by omega), cut, List.append_assoc]
    exact List.prefix_append _ _
  · have found : (sent.foldl publishRetained old.broker).lookup manifestTopic =
        some (.manifest old.manifest) := by
      rw [lookup_deleted deletes, topics, if_neg still]
      exact old.held
    obtain ⟨_, _, _, complete⟩ := safe old.manifest found
    have gone := complete push.chunkCount more
    rw [lookup_deleted deletes, topics, if_pos first] at gone
    cases gone

theorem stage_collected (collected : Collected old.broker retained) :
    stage sha256 push retained = stage sha256 push old.broker := by
  have keys : retained.keys = old.broker.keys := by
    ext topic
    rw [Finmap.mem_keys, Finmap.mem_keys, collected topic]
  simp only [stage, clearStale, keys]

theorem Staged.safe (old : Staged sha256) : Safe sha256 old.broker := by
  intro manifest found
  obtain rfl : old.manifest = manifest := by
    have same := old.held.symm.trans found
    injection Option.some.inj same
  exact old.complete

theorem safe_of_silent {sent : List (Topic × Payload)} (silent : sent <+: []) :
    Safe sha256 (sent.foldl publishRetained old.broker) := by
  rw [List.prefix_nil.mp silent]
  exact old.safe

/-- At every point of the staging a retained manifest has its chunks, exactly if
the new image has at least as many chunks as the old one or the tool fails before
it publishes anything. -/
theorem staging_order_iff (sha256 : Bytes → Digest) (old : Staged sha256) (arguments : Arguments)
    (retained : Broker) (collected : Collected old.broker retained) :
    (∀ sent, sent <+: messages sha256 arguments retained →
      Safe sha256 (sent.foldl publishRetained old.broker)) ↔
    readAppVersion arguments.image = none ∨ arguments.chunkSize = 0 ∨
      old.chunkCount ≤ arguments.chunkCount := by
  unfold messages
  cases readAppVersion arguments.image with
  | none => exact iff_of_true (fun sent silent => safe_of_silent silent) (.inl rfl)
  | some version =>
    rw [or_iff_right nofun]
    dsimp only
    rw [stage_collected collected]
    rcases Nat.eq_zero_or_pos arguments.chunkSize with zero | positive
    · refine iff_of_true (fun sent isPrefix => ?_) (Or.inl zero)
      rw [stage, if_pos (show (arguments.push version).chunkSize = 0 from zero)] at isPrefix
      exact safe_of_silent isPrefix
    · rw [or_iff_right (by omega)]
      replace positive : 0 < (arguments.push version).chunkSize := positive
      constructor
      · intro all
        by_contra fewer
        obtain ⟨sent, isPrefix, broken⟩ := unsafe_of_more positive (not_le.mp fewer)
        exact broken (all sent isPrefix)
      · exact fun fewer sent isPrefix => safe_of_fewer positive fewer isPrefix

/-! ## A smaller image after a larger one -/

/-- The shortest image that the tool takes. -/
def appImage (version : Bytes) : Bytes :=
  List.replicate 32 0 ++ [0x32, 0x54, 0xCD, 0xAB] ++ List.replicate 12 0 ++ version ++
    List.replicate (64 - version.length) 0

theorem readAppVersion_appImage : readAppVersion (appImage [0x32]) = some ['2'] := by
  decide +kernel

/-- That image of another version in two chunks, under a hash that tells nothing apart. -/
def twoChunks : Staged fun _ => 0 where
  broker := (((∅ : Broker).insert (chunkTopic 0) (.bytes (chunkAt (appImage [0x31]) 56 0))).insert
    (chunkTopic 1) (.bytes (chunkAt (appImage [0x31]) 56 1))).insert manifestTopic
      (.manifest ⟨['1'], 112, 0, 56, false⟩)
  manifest := ⟨['1'], 112, 0, 56, false⟩
  held := Finmap.lookup_insert _
  complete := by
    refine ⟨appImage [0x31], by decide, rfl, fun n inside => ?_⟩
    have bound : n < 2 := inside
    rw [Finmap.lookup_insert_of_ne _ (chunkTopic_ne_manifest n)]
    interval_cases n
    · rw [Finmap.lookup_insert_of_ne _ (by decide)]
      exact Finmap.lookup_insert _
    · exact Finmap.lookup_insert _

/-- The same size in chunks of the same size. -/
theorem staging_order_sameCount :
    (∀ sent, sent <+: messages (fun _ => 0) ⟨appImage [0x32], 56, false, true⟩ twoChunks.broker →
      Safe (fun _ => 0) (sent.foldl publishRetained twoChunks.broker)) ∧
    ((appImage [0x32]).length = 112 ∧ readAppVersion (appImage [0x32]) = some ['2']) :=
  ⟨(staging_order_iff (fun _ => 0) twoChunks ⟨appImage [0x32], 56, false, true⟩ twoChunks.broker
    fun _ => Iff.rfl).mpr (.inr (.inr (by decide))), by decide, readAppVersion_appImage⟩

/-- One chunk is staged over two: chunk 1 is deleted while the old manifest is
still retained. -/
theorem smaller_image_unsafe :
    ∃ sent, sent <+: messages (fun _ => 0) ⟨appImage [0x32], 112, false, false⟩ twoChunks.broker ∧
      ¬ Safe (fun _ => 0) (sent.foldl publishRetained twoChunks.broker) := by
  unfold messages
  rw [readAppVersion_appImage]
  exact unsafe_of_more (by decide) (by decide)

end SleepySensor.Staging
