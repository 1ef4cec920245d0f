import SleepySensor.HistoryLog
import SleepySensor.Lib.DropOldest
import SleepySensor.Lib.History

/-!
# The backlog under a concurrent producer

`history_log_append` against `history_log_peek_batch` and `history_log_advance`,
one counter access or slot access at a time.  The producer never looks at the
tail: on a full ring it writes the slot that the consumer is about to copy.
-/

set_option autoImplicit false

namespace SleepySensor.BacklogRace

open DropOldest HistoryLog

/-- Where a call of `history_log_append` stands, with its copy of the head. -/
inductive Producer where
  | idle
  | loaded (head : Nat) (record : LogRecord)
  | written (head : Nat)

/-- Where a call of `history_log_peek_batch` stands; `slots` are still to be copied. -/
inductive Consumer where
  | idle
  | loadedHead (head room : Nat)
  | lapped (head tail room : Nat)
  | copying (nowUs : Int) (slots : List Nat) (out : List HistoryLogEntry)
  | returned (out : List HistoryLogEntry)

structure Backlog where
  log : HistoryLog := {}
  producer : Producer := .idle
  consumer : Consumer := .idle

def produce (backlog : Backlog) : Option Backlog :=
  match backlog.producer with
  | .idle => none
  | .loaded head record =>
    some { backlog with
      log := { backlog.log with
        ring := fun slot => if slot = ringIndex head then record else backlog.log.ring slot }
      producer := .written head }
  | .written head =>
    some { backlog with log := { backlog.log with head := u32 (head + 1) }, producer := .idle }

def beginCopy (head tail room : Nat) (nowUs : Int) : Consumer :=
  let count := min (u32Sub head tail) room
  if count = 0 then .returned []
  else
    let tailIdx := ringIndex tail
    let firstChunk := min count (capacity - tailIdx)
    .copying nowUs (List.range' tailIdx firstChunk ++ List.range' 0 (count - firstChunk)) []

/-- The next step of the peek; `nowUs` is the time when the copying begins. -/
def consume (nowUs : Int) (backlog : Backlog) : Option Backlog :=
  match backlog.consumer with
  | .idle | .returned _ => none
  | .loadedHead head room =>
    let tail := backlog.log.tail
    let corrected := correctedTail head tail
    if corrected ≠ tail then some { backlog with consumer := .lapped head corrected room }
    else some { backlog with consumer := beginCopy head tail room nowUs }
  | .lapped head tail room =>
    some { backlog with
      log := { backlog.log with tail := tail }, consumer := beginCopy head tail room nowUs }
  | .copying _ [] out => some { backlog with consumer := .returned out }
  | .copying nowUs (slot :: slots) out =>
    some { backlog with
      consumer := .copying nowUs slots (out ++ [toEntry (backlog.log.ring slot) nowUs]) }

inductive Action where
  /-- `history_log_append` loads the head. -/
  | append (record : LogRecord)
  | produce
  /-- `history_log_peek_batch` loads the head. -/
  | peekBatch (room : Nat)
  | consume (nowUs : Int)
  /-- `history_log_advance` over the batch returned. -/
  | advance
  /-- The batch was not ACKed. -/
  | leave
  deriving DecidableEq, Repr

def access (backlog : Backlog) : Action → Option Backlog
  | .append record =>
    match backlog.producer with
    | .idle => some { backlog with producer := .loaded backlog.log.head record }
    | _ => none
  | .produce => produce backlog
  | .peekBatch room =>
    match backlog.consumer with
    | .idle => some { backlog with consumer := .loadedHead backlog.log.head room }
    | _ => none
  | .consume nowUs => consume nowUs backlog
  | .advance =>
    match backlog.consumer with
    | .returned out =>
      some { backlog with log := backlog.log.advance out.length, consumer := .idle }
    | _ => none
  | .leave =>
    match backlog.consumer with
    | .returned _ => some { backlog with consumer := .idle }
    | _ => none

/-- The records are numbered in the order in which they are written. -/
structure Numbers where
  written : List LogRecord := []
  /-- The number of the record in each slot. -/
  slots : Nat → Nat := fun _ => 0
  /-- The number that the tail stands for. -/
  first : Nat := 0
  /-- The numbers of the records copied since the last call of the peek. -/
  batch : List Nat := []
  /-- Those of the batches advanced past. -/
  returned : List Nat := []

def record (backlog : Backlog) (action : Action) (numbers : Numbers) : Numbers :=
  match action with
  | .append _ | .leave => numbers
  | .produce =>
    match backlog.producer with
    | .loaded head record =>
      { numbers with
        written := numbers.written ++ [record]
        slots := fun slot =>
          if slot = ringIndex head then numbers.written.length else numbers.slots slot }
    | _ => numbers
  | .peekBatch _ => { numbers with batch := [] }
  | .consume _ =>
    match backlog.consumer with
    | .lapped _ tail _ => { numbers with first := numbers.first + u32Sub tail backlog.log.tail }
    | .copying _ (slot :: _) _ => { numbers with batch := numbers.batch ++ [numbers.slots slot] }
    | _ => numbers
  | .advance =>
    match backlog.consumer with
    | .returned out =>
      { numbers with
        first := numbers.first + out.length, returned := numbers.returned ++ numbers.batch }
    | _ => numbers

abbrev Observed := Backlog × Numbers

def step : Observed → Action → Option Observed := Runs.observe access record

/-- The records that the head counts. -/
def published (backlog : Backlog) (numbers : Numbers) : Nat :=
  match backlog.producer with
  | .written _ => numbers.written.length - 1
  | _ => numbers.written.length

def Copied (nowUs : Int) (written : List LogRecord) (batch : List Nat)
    (out : List HistoryLogEntry) : Prop :=
  out.map some = batch.map fun number => written[number]?.map (toEntry · nowUs)

/-- The batch returned is one of whole records, each older than those behind it. -/
def InOrder (state : Observed) : Prop :=
  ∀ out, state.1.consumer = .returned out →
    (∃ nowUs, Copied nowUs state.2.written state.2.batch out) ∧ state.2.batch.Pairwise (· < ·)

/-- The next peek would find the record in the range that it copies. -/
def Pending (log : HistoryLog) (number : Nat) : Prop :=
  ∃ offset < u32Sub log.head (correctedTail log.head log.tail),
    u32 (correctedTail log.head log.tail + offset) = u32 number

/-- A record neither returned nor overwritten is pending. -/
def NoneLost (state : Observed) : Prop :=
  ∀ number < published state.1 state.2, number ∉ state.2.returned →
    state.2.written.length ≤ number + capacity → Pending state.1.log number

/-- No slot is copied after its record was overwritten, and fewer than 2^32 records lie
between tail and head. -/
def unlapped (state : Observed) (action : Action) : Bool :=
  match action with
  | .consume _ =>
    match state.1.consumer with
    | .copying _ (_ :: _) out => state.2.written.length ≤ state.2.first + out.length + capacity
    | _ => true
  | .produce =>
    match state.1.producer with
    | .written _ => state.2.written.length < state.2.first + u32Mod
    | _ => true
  | _ => true

/-! ## The invariant -/

structure Held (backlog : Backlog) (numbers : Numbers) : Prop where
  head : backlog.log.head = u32 (published backlog numbers)
  tail : backlog.log.tail = u32 numbers.first
  within : numbers.first ≤ published backlog numbers
  near : published backlog numbers < numbers.first + u32Mod
  ring : Stores capacity backlog.log.ring numbers.written
  slots : Stores capacity numbers.slots (List.range numbers.written.length)
  gone : ∀ number < numbers.first,
    number ∈ numbers.returned ∨ number + capacity < numbers.written.length

def Producing (producer : Producer) (numbers : Numbers) : Prop :=
  match producer with
  | .idle => True
  | .loaded head _ => head = u32 numbers.written.length
  | .written head => 0 < numbers.written.length ∧ head = u32 (numbers.written.length - 1)

/-- The records copied are the first ones pending, and so are those to copy. -/
def Consuming (consumer : Consumer) (counted : Nat) (numbers : Numbers) : Prop :=
  match consumer with
  | .idle => True
  | .loadedHead head _ =>
    numbers.batch = [] ∧ ∃ loaded ≤ counted, numbers.first ≤ loaded ∧ head = u32 loaded
  | .lapped head tail _ =>
    numbers.batch = [] ∧ ∃ loaded ≤ counted, head = u32 loaded ∧
      ∃ target, numbers.first ≤ target ∧ target + capacity = loaded ∧ tail = u32 target
  | .copying nowUs slots out =>
    ∃ count, numbers.first + out.length + count ≤ counted ∧
      slots = (List.range' (numbers.first + out.length) count).map (· % capacity) ∧
      numbers.batch = List.range' numbers.first out.length ∧
      Copied nowUs numbers.written numbers.batch out
  | .returned out =>
    numbers.first + out.length ≤ counted ∧
      numbers.batch = List.range' numbers.first out.length ∧
      ∃ nowUs, Copied nowUs numbers.written numbers.batch out

structure Inv (backlog : Backlog) (numbers : Numbers) : Prop where
  held : Held backlog numbers
  producing : Producing backlog.producer numbers
  consuming : Consuming backlog.consumer (published backlog numbers) numbers

variable {backlog next : Backlog} {numbers : Numbers}

theorem inv_start : Inv {} {} where
  held :=
    { head := rfl
      tail := rfl
      within := le_rfl
      near := by decide
      ring := fun _ inside => absurd inside (Nat.not_lt_zero _)
      slots := fun _ inside => absurd inside (Nat.not_lt_zero _)
      gone := fun _ below => absurd below (Nat.not_lt_zero _) }
  producing := trivial
  consuming := trivial

theorem published_le (backlog : Backlog) (numbers : Numbers) :
    published backlog numbers ≤ numbers.written.length := by
  unfold published
  split <;> omega

theorem Copied.append {nowUs : Int} {written : List LogRecord} {batch : List Nat}
    {out : List HistoryLogEntry} (copied : Copied nowUs written batch out)
    (known : ∀ number ∈ batch, number < written.length) (later : LogRecord) :
    Copied nowUs (written ++ [later]) batch out := by
  refine Eq.trans copied (List.map_congr_left fun number member => ?_)
  rw [List.getElem?_append_left (known number member)]

theorem batch_known {first count bound : Nat} {batch : List Nat}
    (batch_ : batch = List.range' first count) (within : first + count ≤ bound) :
    ∀ number ∈ batch, number < bound := by
  intro number member
  rw [batch_, List.mem_range'_1] at member
  omega

/-! ## The producer -/

theorem consuming_write {consumer : Consumer} {counted : Nat}
    (known : counted ≤ numbers.written.length) (consuming : Consuming consumer counted numbers)
    (later : LogRecord) (slots : Nat → Nat) :
    Consuming consumer counted
      { numbers with written := numbers.written ++ [later], slots := slots } := by
  cases consumer with
  | idle => trivial
  | loadedHead head room => exact consuming
  | lapped head tail room => exact consuming
  | copying nowUs rest out =>
    obtain ⟨count, within, rest_, batch, copied⟩ := consuming
    exact ⟨count, within, rest_, batch, copied.append (batch_known batch (by omega)) later⟩
  | returned out =>
    obtain ⟨within, batch, nowUs, copied⟩ := consuming
    exact ⟨within, batch, nowUs, copied.append (batch_known batch (by omega)) later⟩

theorem consuming_publish {consumer : Consumer} {counted more : Nat} (grows : counted ≤ more)
    (consuming : Consuming consumer counted numbers) : Consuming consumer more numbers := by
  cases consumer with
  | idle => trivial
  | loadedHead head room =>
    obtain ⟨batch, loaded, before, known⟩ := consuming
    exact ⟨batch, loaded, before.trans grows, known⟩
  | lapped head tail room =>
    obtain ⟨batch, loaded, before, known⟩ := consuming
    exact ⟨batch, loaded, before.trans grows, known⟩
  | copying nowUs rest out =>
    obtain ⟨count, within, known⟩ := consuming
    exact ⟨count, within.trans grows, known⟩
  | returned out =>
    obtain ⟨within, known⟩ := consuming
    exact ⟨within.trans grows, known⟩

theorem inv_append (inv : Inv backlog numbers) {entry : LogRecord}
    (taken : access backlog (.append entry) = some next) : Inv next numbers := by
  obtain ⟨⟨head, tail, within, near, ring, slots, gone⟩, -, consuming⟩ := inv
  unfold access at taken
  dsimp only at taken
  split at taken
  · rename_i idle
    cases taken
    have counted : published { backlog with producer := .loaded backlog.log.head entry } numbers =
        published backlog numbers := by simp [published, idle]
    have all : published backlog numbers = numbers.written.length := by simp [published, idle]
    refine ⟨⟨?_, tail, ?_, ?_, ring, slots, gone⟩, ?_, ?_⟩
    · rw [counted]; exact head
    · rw [counted]; exact within
    · rw [counted]; exact near
    · exact head.trans (congrArg u32 all)
    · rw [counted]; exact consuming
  · cases taken

theorem inv_produce (inv : Inv backlog numbers)
    (few : unlapped (backlog, numbers) .produce = true)
    (taken : produce backlog = some next) : Inv next (record backlog .produce numbers) := by
  obtain ⟨⟨head, tail, within, near, ring, slots, gone⟩, producing, consuming⟩ := inv
  unfold produce at taken
  cases producer : backlog.producer with
  | idle => simp [producer] at taken
  | loaded loaded entry =>
    simp only [producer, Option.some.injEq] at taken
    subst taken
    simp only [producer, Producing] at producing
    have all : published backlog numbers = numbers.written.length := by simp [published, producer]
    have slot : ringIndex loaded = numbers.written.length % capacity := by
      rw [producing]
      exact ringIndex_u32 _
    rw [all] at head within near consuming
    simp only [record, producer]
    have counted : ∀ log : HistoryLog, published
        { backlog with log := log, producer := .written loaded }
        { numbers with
          written := numbers.written ++ [entry]
          slots := fun slot =>
            if slot = ringIndex loaded then numbers.written.length else numbers.slots slot } =
        numbers.written.length := by simp [published]
    refine ⟨⟨?_, tail, ?_, ?_, ?_, ?_, ?_⟩, ?_, ?_⟩
    · rw [counted]; exact head
    · rw [counted]; exact within
    · rw [counted]; exact near
    · dsimp only
      rw [slot]
      exact ring.append entry
    · dsimp only
      rw [slot, List.length_append, List.length_singleton, List.range_succ]
      have stored := slots.append numbers.written.length
      rw [List.length_range] at stored
      exact stored
    · intro number below
      rcases gone number below with read | lost
      · exact .inl read
      · right
        simp only [List.length_append, List.length_singleton]
        omega
    · refine ⟨by simp, ?_⟩
      rw [producing]
      simp
    · rw [counted]
      exact consuming_write le_rfl consuming entry _
  | written loaded =>
    simp only [producer, Option.some.injEq] at taken
    subst taken
    simp only [producer, Producing] at producing
    obtain ⟨some_, same⟩ := producing
    have before : published backlog numbers = numbers.written.length - 1 := by
      simp [published, producer]
    rw [before] at head within near consuming
    simp only [record, producer]
    have few : numbers.written.length < numbers.first + u32Mod := by
      simpa [unlapped, producer] using few
    have counted : ∀ log : HistoryLog, published
        { backlog with log := log, producer := .idle } numbers = numbers.written.length := by
      simp [published]
    refine ⟨⟨?_, tail, ?_, ?_, ring, slots, gone⟩, trivial, ?_⟩
    · rw [counted]
      show u32 (loaded + 1) = _
      rw [same, u32_add, Nat.sub_add_cancel some_]
    · rw [counted]
      omega
    · rw [counted]
      exact few
    · rw [counted]
      exact consuming_publish (by omega) consuming

/-! ## The consumer -/

theorem consuming_beginCopy {loaded counted room : Nat} {nowUs : Int}
    (before : loaded ≤ counted) (after : numbers.first ≤ loaded)
    (fits : loaded ≤ numbers.first + capacity) (empty : numbers.batch = []) :
    Consuming (beginCopy (u32 loaded) (u32 numbers.first) room nowUs) counted numbers := by
  have pending : u32Sub (u32 loaded) (u32 numbers.first) = loaded - numbers.first := by
    rw [u32Sub_u32 after]
    apply u32_of_lt
    simp only [capacity, u32Mod] at fits ⊢
    omega
  have nothing : Copied nowUs numbers.written numbers.batch [] := by
    rw [empty]
    rfl
  unfold beginCopy
  rw [pending]
  dsimp only
  split
  · exact ⟨by simp only [List.length_nil]; omega, empty, nowUs, nothing⟩
  · refine ⟨min (loaded - numbers.first) room, by simp only [List.length_nil]; omega, ?_, empty,
      nothing⟩
    have inside : numbers.first % capacity < capacity := Nat.mod_lt _ (by decide)
    rw [ringIndex_u32, seam inside (by omega), List.length_nil, Nat.add_zero,
      List.range'_eq_map_range, List.map_map]
    refine List.map_congr_left fun offset _ => ?_
    exact Nat.mod_add_mod _ _ _

/-- The tail is corrected just when the producer has lapped it. -/
theorem correctedTail_loaded {first loaded : Nat} (after : first ≤ loaded)
    (near : loaded < first + u32Mod) :
    correctedTail (u32 loaded) (u32 first) =
      if first + capacity < loaded then u32 (loaded - capacity) else u32 first := by
  have distance : u32Sub (u32 loaded) (u32 first) = loaded - first := by
    rw [u32Sub_u32 after]
    exact u32_of_lt (by omega)
  unfold correctedTail
  rw [distance]
  by_cases lapped : first + capacity < loaded
  · rw [if_pos (by omega), if_pos lapped]
    exact u32Sub_u32 (b := capacity) (by omega)
  · rw [if_neg (by omega), if_neg lapped]

theorem corrected_ne {first loaded : Nat} (near : loaded < first + u32Mod)
    (lapped : first + capacity < loaded) : u32 (loaded - capacity) ≠ u32 first := by
  intro same
  have distance := u32Sub_u32 (show first ≤ loaded - capacity by omega)
  rw [same, u32Sub_u32 le_rfl, Nat.sub_self] at distance
  rw [u32_of_lt (show loaded - capacity - first < u32Mod by omega)] at distance
  have zero : u32 0 = 0 := rfl
  omega

theorem inv_consumer (held : Held backlog numbers) (producing : Producing backlog.producer numbers)
    {consumer : Consumer} (consuming : Consuming consumer (published backlog numbers) numbers) :
    Inv { backlog with consumer := consumer } numbers :=
  ⟨⟨held.head, held.tail, held.within, held.near, held.ring, held.slots, held.gone⟩, producing,
    consuming⟩

theorem inv_consume (inv : Inv backlog numbers) {nowUs : Int}
    (own : unlapped (backlog, numbers) (.consume nowUs) = true)
    (taken : consume nowUs backlog = some next) :
    Inv next (record backlog (.consume nowUs) numbers) := by
  obtain ⟨held, producing, consuming⟩ := inv
  have held_ := held
  obtain ⟨head, tail, within, near, ring, slots, gone⟩ := held_
  have known := published_le backlog numbers
  unfold consume at taken
  cases consumer : backlog.consumer with
  | idle => simp [consumer] at taken
  | returned out => simp [consumer] at taken
  | loadedHead loadedHead room =>
    simp only [consumer] at taken consuming
    obtain ⟨batch, loaded, before, after, loadedHead_⟩ := consuming
    rw [loadedHead_] at taken
    have corrected := correctedTail_loaded after (by omega)
    simp only [record, consumer]
    rw [tail, corrected] at taken
    by_cases lapped : numbers.first + capacity < loaded
    · have apart := corrected_ne (by omega) lapped
      obtain ⟨target, target_⟩ := Nat.exists_eq_add_of_le' (show capacity ≤ loaded by omega)
      have same : loaded - capacity = target := by omega
      rw [if_pos lapped, same] at taken
      rw [same] at apart
      rw [if_pos apart, Option.some.injEq] at taken
      subst taken
      exact inv_consumer held producing
        ⟨batch, loaded, before, rfl, target, by omega, target_.symm, rfl⟩
    · rw [if_neg lapped, if_neg (not_not_intro rfl), Option.some.injEq] at taken
      subst taken
      have fits : loaded ≤ numbers.first + capacity := by omega
      exact inv_consumer held producing
        (@consuming_beginCopy numbers loaded _ room nowUs before after fits batch)
  | lapped loadedHead corrected room =>
    simp only [consumer, Option.some.injEq] at taken consuming
    subst taken
    obtain ⟨batch, loaded, before, loadedHead_, target, after, loaded_, corrected_⟩ := consuming
    have first : numbers.first + u32Sub (u32 target) backlog.log.tail = target := by
      rw [tail, u32Sub_u32 after, u32_of_lt (by omega)]
      omega
    simp only [record, consumer]
    rw [loadedHead_, corrected_, first]
    have counted : ∀ log consumer, published
        { backlog with log := log, consumer := consumer } { numbers with first := target } =
          published backlog numbers := fun _ _ => rfl
    refine ⟨⟨head, rfl, ?_, ?_, ring, slots, ?_⟩, producing, ?_⟩
    · rw [counted]
      show target ≤ published backlog numbers
      omega
    · rw [counted]
      show published backlog numbers < target + u32Mod
      omega
    · intro number below
      have below : number < target := below
      right
      show number + capacity < numbers.written.length
      omega
    · rw [counted]
      have fits : loaded ≤ target + capacity := loaded_.ge
      have later : target ≤ loaded := by omega
      exact @consuming_beginCopy { numbers with first := target } loaded _ room nowUs before later
        fits batch
  | copying began rest out =>
    cases rest with
    | nil =>
      simp only [consumer, Option.some.injEq] at taken consuming
      subst taken
      obtain ⟨count, inside, -, batch, copied⟩ := consuming
      simp only [record, consumer]
      exact inv_consumer held producing
        ⟨(Nat.le_add_right _ _).trans inside, batch, began, copied⟩
    | cons slot rest =>
      simp only [consumer, Option.some.injEq] at taken consuming
      subst taken
      obtain ⟨count, inside, slots_, batch, copied⟩ := consuming
      have own : numbers.written.length ≤ numbers.first + out.length + capacity := by
        simpa [unlapped, consumer] using own
      simp only [record, consumer]
      cases count with
      | zero => simp at slots_
      | succ count =>
        rw [List.range'_succ, List.map_cons] at slots_
        obtain ⟨slot_, rest_⟩ := List.cons.inj slots_
        have member : numbers.first + out.length < numbers.written.length := by omega
        have number : numbers.slots slot = numbers.first + out.length := by
          rw [slot_, slots _ (by simpa using member) (by simpa using own), List.getElem_range]
        have entry : backlog.log.ring slot = numbers.written[numbers.first + out.length] := by
          rw [slot_]
          exact ring _ member own
        refine ⟨⟨head, tail, within, near, ring, slots, gone⟩, producing, count, ?_, ?_, ?_, ?_⟩
        · show numbers.first + (out ++ [_]).length + count ≤ published backlog numbers
          rw [List.length_append, List.length_singleton]
          omega
        · rw [List.length_append, List.length_singleton]
          exact rest_
        · show numbers.batch ++ [numbers.slots slot] = List.range' numbers.first (out ++ [_]).length
          rw [number, batch, List.length_append, List.length_singleton, List.range'_1_concat]
        · show List.map some (out ++ [_]) = List.map _ (numbers.batch ++ [_])
          rw [List.map_append, List.map_append, number, entry, copied]
          simp [List.getElem?_eq_getElem member]

theorem inv_advance (inv : Inv backlog numbers)
    (taken : access backlog .advance = some next) : Inv next (record backlog .advance numbers) := by
  obtain ⟨⟨head, tail, within, near, ring, slots, gone⟩, producing, consuming⟩ := inv
  unfold access at taken
  cases consumer : backlog.consumer with
  | returned out =>
    simp only [consumer, Option.some.injEq] at taken consuming
    subst taken
    obtain ⟨inside, batch, -, -⟩ := consuming
    simp only [record, consumer]
    refine ⟨⟨head, ?_, inside, ?_, ring, slots, ?_⟩, producing, trivial⟩
    · show u32 (backlog.log.tail + out.length) = _
      rw [tail, u32_add]
    · show published backlog numbers < numbers.first + out.length + u32Mod
      omega
    · intro number below
      dsimp only at below ⊢
      rw [List.mem_append, batch, List.mem_range'_1]
      by_cases old : number < numbers.first
      · rcases gone number old with read | lost
        · exact .inl (.inl read)
        · exact .inr lost
      · exact .inl (.inr ⟨by omega, below⟩)
  | _ => simp [consumer] at taken

theorem inv_step (state : Observed) (action : Action) (next : Observed)
    (inv : Inv state.1 state.2) (kept : unlapped state action = true)
    (taken : step state action = some next) : Inv next.1 next.2 := by
  obtain ⟨accessed, recorded⟩ := Runs.observe_step taken
  rw [recorded]
  cases action with
  | append entry => exact inv_append inv accessed
  | produce => exact inv_produce inv kept accessed
  | consume nowUs => exact inv_consume inv kept accessed
  | advance => exact inv_advance inv accessed
  | peekBatch room =>
    obtain ⟨held, producing, consuming⟩ := inv
    unfold access at accessed
    dsimp only at accessed
    split at accessed
    · rw [← Option.some.inj accessed]
      have loads : Consuming (.loadedHead state.1.log.head room) (published state.1 state.2)
          { state.2 with batch := [] } := ⟨rfl, _, le_rfl, held.within, held.head⟩
      have same : Held state.1 { state.2 with batch := [] } :=
        ⟨held.head, held.tail, held.within, held.near, held.ring, held.slots, held.gone⟩
      exact inv_consumer same producing loads
    · cases accessed
  | leave =>
    obtain ⟨held, producing, consuming⟩ := inv
    unfold access at accessed
    dsimp only at accessed
    split at accessed
    · rw [← Option.some.inj accessed]
      exact inv_consumer held producing trivial
    · cases accessed

/-! ## Whole runs -/

theorem inOrder_of_inv (inv : Inv backlog numbers) : InOrder (backlog, numbers) := by
  intro out returned
  have consuming := inv.consuming
  simp only [show backlog.consumer = .returned out from returned, Consuming] at consuming
  obtain ⟨-, batch, copied⟩ := consuming
  refine ⟨copied, ?_⟩
  show numbers.batch.Pairwise (· < ·)
  rw [batch]
  exact List.pairwise_lt_range'

theorem noneLost_of_inv (inv : Inv backlog numbers) : NoneLost (backlog, numbers) := by
  obtain ⟨⟨head, tail, within, near, ring, slots, gone⟩, -, -⟩ := inv
  have known := published_le backlog numbers
  intro number below unread kept
  dsimp only at below unread kept
  have after : numbers.first ≤ number := by
    by_contra before
    rcases gone number (by omega) with read | lost
    · exact unread read
    · omega
  unfold Pending
  dsimp only
  rw [head, tail, correctedTail_loaded within near]
  have reached : ∀ from_ ≤ number, u32 (u32 from_ + (number - from_)) = u32 number := by
    intro from_ below
    rw [u32_add, Nat.add_sub_cancel' below]
  split
  · rw [u32Sub_u32 (by omega), u32_of_lt (by omega)]
    exact ⟨number - (published backlog numbers - capacity), by omega, reached _ (by omega)⟩
  · rw [u32Sub_u32 within, u32_of_lt (by omega)]
    exact ⟨number - numbers.first, by omega, reached _ after⟩

/-- Where no slot is copied after its record was overwritten, every batch is of whole
records in the order of their appends, and no record is lost to an advance. -/
theorem batches_inOrder {actions : List Action} {final : Observed}
    (kept : Runs.Along step (unlapped · · = true) ({}, {}) actions)
    (ran : Runs.run step ({}, {}) actions = some final) : InOrder final ∧ NoneLost final := by
  have inv : Inv final.1 final.2 :=
    Runs.along_invariant (fun state => Inv state.1 state.2) inv_step inv_start kept ran
  exact ⟨inOrder_of_inv inv, noneLost_of_inv inv⟩

def oneBatch : List Action :=
  [.append { tempC := .fin 21 }, .produce, .produce, .append { tempC := .fin 22 }, .peekBatch 50,
    .consume 0, .produce, .consume 0, .consume 0, .produce, .advance]

theorem batches_inOrder_oneBatch :
    ∃ final, Runs.run step ({}, {}) oneBatch = some final ∧ final.2.returned = [0] ∧
      InOrder final ∧ NoneLost final := by
  obtain ⟨final, ran, returned⟩ := Runs.exists_final
    (fun final : Observed => decide (final.2.returned = [0]))
    (show (Runs.run step ({}, {}) oneBatch).any _ = true by decide +kernel)
  refine ⟨final, ran, of_decide_eq_true returned, ?_⟩
  exact batches_inOrder
    (show Runs.Along step (unlapped · · = true) ({}, {}) oneBatch by decide +kernel) ran

/-! ## A full ring -/

structure Resting (state : Observed) : Prop where
  inv : Inv state.1 state.2
  producer : state.1.producer = .idle
  consumer : state.1.consumer = .idle

def blank : LogRecord := {}

def wholeAppend : List Action := [.append blank, .produce, .produce]

theorem wholeAppend_reaches {state : Observed} (resting : Resting state)
    (few : state.2.written.length + 1 < state.2.first + u32Mod) :
    ∃ next, Runs.run step state wholeAppend = some next ∧ Resting next ∧
      next.2.written.length = state.2.written.length + 1 ∧ next.2.first = state.2.first := by
  obtain ⟨⟨log, producer, consumer⟩, numbers⟩ := state
  obtain ⟨inv, idle, waits⟩ := resting
  dsimp only at inv idle waits few
  subst idle waits
  have loaded : step (⟨log, .idle, .idle⟩, numbers) (.append blank) =
      some (⟨log, .loaded log.head blank, .idle⟩, numbers) := rfl
  obtain ⟨written, wrote⟩ : ∃ written,
      step (⟨log, .loaded log.head blank, .idle⟩, numbers) .produce = some written ∧
        written.1.producer = .written log.head ∧ written.1.consumer = .idle ∧
        written.2.written = numbers.written ++ [blank] ∧ written.2.first = numbers.first :=
    ⟨_, rfl, rfl, rfl, rfl, rfl⟩
  obtain ⟨wrote, between, waits, grown, first⟩ := wrote
  have invLoaded := inv_step _ _ _ inv rfl loaded
  have invWritten := inv_step _ _ _ invLoaded rfl wrote
  have kept : unlapped written .produce = true := by
    simp only [unlapped, between, grown, first, List.length_append, List.length_singleton,
      decide_eq_true_eq]
    exact few
  obtain ⟨next, stored, idle, waits_, same, first_⟩ : ∃ next, step written .produce = some next ∧
      next.1.producer = .idle ∧ next.1.consumer = .idle ∧ next.2.written = written.2.written ∧
        next.2.first = written.2.first := by
    simp only [step, Runs.observe, access, produce, between, record, Option.map_some]
    exact ⟨_, rfl, rfl, waits, rfl, rfl⟩
  refine ⟨next, ?_, ⟨inv_step _ _ _ invWritten kept stored, idle, waits_⟩, ?_, ?_⟩
  · simp only [wholeAppend, Runs.run, loaded, wrote, stored]
  · rw [same, grown, List.length_append, List.length_singleton]
  · rw [first_, first]

def appends (count : Nat) : List Action := (List.replicate count wholeAppend).flatten

theorem appends_reach {count : Nat} {state : Observed} (resting : Resting state)
    (few : state.2.written.length + count < state.2.first + u32Mod) :
    ∃ final, Runs.run step state (appends count) = some final ∧ Resting final ∧
      final.2.written.length = state.2.written.length + count ∧
      final.2.first = state.2.first := by
  induction count generalizing state with
  | zero => exact ⟨state, rfl, resting, rfl, rfl⟩
  | succ count ih =>
    obtain ⟨next, ran, resting, length, first⟩ := wholeAppend_reaches resting (by omega)
    obtain ⟨final, later, resting, lengthLater, firstLater⟩ := ih resting (by omega)
    refine ⟨final, ?_, resting, by omega, by omega⟩
    unfold appends
    rw [List.replicate_succ, List.flatten_cons, Runs.run_append, ran]
    exact later

/-- A peek of two records, the first of them overwritten before it is copied. -/
def overwritten : List Action :=
  [.peekBatch 2, .consume 0, .append blank, .produce, .consume 0, .consume 0, .consume 0]

theorem overwritten_batch (ring : Nat → LogRecord) {numbers : Numbers}
    (full : numbers.written.length = 8192) (second : numbers.slots 1 = 1) :
    ∃ final, Runs.run step ({ log := { ring := ring, head := 8192 } }, numbers) overwritten =
        some final ∧ ∃ out, final.1.consumer = .returned out ∧ final.2.batch = [8192, 1] := by
  have copies : beginCopy 8192 0 2 0 = .copying 0 [0, 1] [] := by rfl
  have unmoved : correctedTail 8192 0 = 0 := by decide
  have slot : ringIndex 8192 = 0 := by decide
  simp only [overwritten, Runs.run, step, Runs.observe, access, produce, consume, record,
    Option.map_some, unmoved, copies, ne_eq, not_true_eq_false, if_false, slot]
  refine ⟨_, rfl, _, rfl, ?_⟩
  simp [full, second]

/-- The first record copied is the newest of all. -/
theorem overwritten_newerFirst :
    ∃ final, Runs.run step ({}, {}) (appends capacity ++ overwritten) = some final ∧
      ¬ InOrder final := by
  have start : Resting ({}, {}) := ⟨inv_start, rfl, rfl⟩
  obtain ⟨⟨⟨⟨ring, head, tail⟩, producer, consumer⟩, numbers⟩, ran, resting, length, first⟩ :=
    @appends_reach capacity _ start (by decide)
  obtain ⟨⟨held, -, -⟩, idle, waits⟩ := resting
  dsimp only at held idle waits length first
  subst idle waits
  have full : numbers.written.length = 8192 := length.trans (by decide)
  have head_ : head = 8192 := held.head.trans (congrArg u32 full)
  have tail_ : tail = 0 := held.tail.trans (congrArg u32 first)
  have second : numbers.slots 1 = 1 := by
    have inside : 1 < (List.range numbers.written.length).length := by
      rw [List.length_range, full]
      decide
    have recent : (List.range numbers.written.length).length ≤ 1 + capacity := by
      rw [List.length_range, full]
      decide
    exact (held.slots 1 inside recent).trans (List.getElem_range inside)
  subst head_ tail_
  obtain ⟨final, later, out, returned, batch⟩ := overwritten_batch ring full second
  refine ⟨final, ?_, fun ordered => ?_⟩
  · rw [Runs.run_append, ran, Option.bind_some]
    exact later
  · have older := (ordered out returned).2
    rw [batch] at older
    simp at older

end SleepySensor.BacklogRace
