import SleepySensor.HistoryLog
import SleepySensor.Lib.DropOldest
import SleepySensor.Lib.History

/-!
# The history log as a bounded queue

The calls of `history_log.h` in any order against a queue that drops its oldest.
The counters of the log are those of the queue modulo 2^32, and agree with them
while fewer than 2^32 records lie between tail and head.
-/

set_option autoImplicit false

namespace SleepySensor.HistoryQueue

open DropOldest HistoryLog

inductive LogCall where
  | append (nowUs : Int) (tempC humPct : Flt)
  | peekBatch (nowUs : Int) (room : Nat)
  | advance (count : Nat)
  deriving DecidableEq, Repr

/-- The log and its callers; `batch` counts what of the last batch peeked is not
advanced past. -/
structure Caller where
  log : HistoryLog := {}
  batch : Nat := 0

def call (caller : Caller) : LogCall → Option Caller
  | .append nowUs tempC humPct =>
    some { caller with log := caller.log.append nowUs tempC humPct }
  | .peekBatch nowUs room =>
    let (log, replayed) := caller.log.peekBatch nowUs room
    some { log := log, batch := replayed.length }
  | .advance count =>
    if count ≤ caller.batch then
      some { log := caller.log.advance count, batch := caller.batch - count }
    else none

structure Numbered where
  queue : Queue LogRecord := {}
  /-- Appends since the last peek. -/
  sincePeek : Nat := 0

def record (_ : Caller) (done : LogCall) (numbered : Numbered) : Numbered :=
  match done with
  | .append nowUs tempC humPct =>
    { queue := numbered.queue.append { capturedUs := nowUs, tempC := tempC, humPct := humPct }
      sincePeek := numbered.sincePeek + 1 }
  | .peekBatch _ room => { queue := numbered.queue.peek capacity room }
  | .advance count => { numbered with queue := numbered.queue.advance count }

@[simp] theorem record_peek_appended (caller : Caller) (nowUs : Int) (room : Nat)
    (numbered : Numbered) :
    (record caller (.peekBatch nowUs room) numbered).queue.appended =
      numbered.queue.appended := by
  unfold record
  rw [Queue.peek_appended]

abbrev Observed := Caller × Numbered

def step : Observed → LogCall → Option Observed := Runs.observe call record

/-- `has_pending` tells whether a record is pending, and a peek returns the first
of the pending records. -/
def Refines (state : Observed) (coming : LogCall) : Prop :=
  (state.1.log.hasPending = true ↔ state.2.queue.pending capacity ≠ []) ∧
    ∀ nowUs room, coming = .peekBatch nowUs room →
      (state.1.log.peekBatch nowUs room).2.map some =
        ((state.2.queue.pending capacity).take room).map fun number =>
          state.2.queue.appended[number]?.map fun found => toEntry found nowUs

def FewAppends (limit : Nat) (state : Observed) (_ : LogCall) : Prop :=
  state.2.sincePeek < limit

instance (limit : Nat) (state : Observed) (coming : LogCall) :
    Decidable (FewAppends limit state coming) :=
  inferInstanceAs (Decidable (state.2.sincePeek < limit))

/-! ## The invariant -/

variable {caller : Caller} {numbered : Numbered} {first : Nat}

/-- The tail is the number `first` of the first record not advanced past. -/
structure Counts (caller : Caller) (numbered : Numbered) (first : Nat) : Prop where
  head : caller.log.head = u32 numbered.queue.appended.length
  tail : caller.log.tail = u32 first
  front : Front capacity numbered.queue first
  near : numbered.queue.appended.length ≤ first + capacity + numbered.sincePeek
  ring : Stores capacity caller.log.ring numbered.queue.appended
  batch : caller.batch = numbered.queue.batch.length

theorem counts_boot : Counts {} {} 0 where
  head := rfl
  tail := rfl
  front :=
    { gone := fun _ below => absurd below (Nat.not_lt_zero _)
      kept := fun _ read => by cases read
      batch := rfl
      within := le_rfl }
  near := Nat.zero_le _
  ring := fun _ inside => absurd inside (Nat.not_lt_zero _)
  batch := rfl

theorem peekBatch_entries (log : HistoryLog) (nowUs : Int) (room tail : Nat)
    (corrected : correctedTail log.head log.tail = tail)
    (fits : u32Sub log.head tail ≤ capacity) :
    (log.peekBatch nowUs room).2 =
      (List.range (min (u32Sub log.head tail) room)).map fun offset =>
        toEntry (log.ring ((ringIndex tail + offset) % capacity)) nowUs := by
  have inside : ringIndex tail < capacity := Nat.mod_lt _ (by decide)
  unfold peekBatch
  simp only [corrected]
  rw [← List.map_append, seam inside (le_trans (Nat.min_le_left _ _) fits), List.map_map,
    List.map_map]
  rfl

namespace Counts

/-- The records between tail and head, the overwritten ones included. -/
theorem unread (counts : Counts caller numbered first) :
    u32Sub caller.log.head caller.log.tail =
      u32 (numbered.queue.appended.length - first) := by
  rw [counts.head, counts.tail]
  exact u32Sub_u32 (le_trans (Nat.le_add_right _ _) counts.front.within)

theorem correctedTail_eq (counts : Counts caller numbered first)
    (few : numbered.sincePeek < u32Mod - capacity) :
    correctedTail caller.log.head caller.log.tail =
      u32 (Front.start capacity numbered.queue first) := by
  have near := counts.near
  have within := counts.front.within
  have exact_ : u32Sub caller.log.head caller.log.tail =
      numbered.queue.appended.length - first := by
    rw [counts.unread]
    exact u32_of_lt (by simp only [u32Mod, capacity] at few near ⊢; omega)
  unfold correctedTail Front.start
  rw [exact_]
  by_cases lapped : capacity < numbered.queue.appended.length - first
  · rw [if_pos lapped, Nat.max_eq_right (by omega), counts.head]
    exact u32Sub_u32 (b := capacity) (by omega)
  · rw [if_neg lapped, Nat.max_eq_left (by omega)]
    exact counts.tail

theorem pending_eq (counts : Counts caller numbered first) :
    u32Sub caller.log.head (u32 (Front.start capacity numbered.queue first)) =
      numbered.queue.appended.length - Front.start capacity numbered.queue first := by
  have within := counts.front.within
  rw [counts.head, u32Sub_u32 (by unfold Front.start; omega)]
  apply u32_of_lt
  unfold Front.start
  simp only [u32Mod, capacity]
  omega

theorem hasPending_iff (counts : Counts caller numbered first)
    (few : numbered.sincePeek < u32Mod - capacity) :
    caller.log.hasPending = true ↔ numbered.queue.pending capacity ≠ [] := by
  have near := counts.near
  have within := counts.front.within
  have wide : capacity < u32Mod := by decide
  rw [counts.front.pending, Ne, List.range'_eq_nil_iff, hasPending, bne_iff_ne, Ne, counts.head,
    counts.tail]
  refine not_congr ⟨?_, ?_⟩
  · intro same
    have zero : u32 (numbered.queue.appended.length - first) = 0 := by
      rw [← counts.unread, counts.head, counts.tail, same, u32Sub_u32 le_rfl, Nat.sub_self]
      rfl
    rw [u32_of_lt (by omega)] at zero
    unfold Front.start
    omega
  · intro empty
    have same : numbered.queue.appended.length = first := by
      unfold Front.start at empty
      have positive : 0 < capacity := by decide
      omega
    rw [same]

theorem peek_eq (counts : Counts caller numbered first)
    (few : numbered.sincePeek < u32Mod - capacity) (nowUs : Int) (room : Nat) :
    (caller.log.peekBatch nowUs room).2.map some =
      ((numbered.queue.pending capacity).take room).map fun number =>
        numbered.queue.appended[number]?.map fun found => toEntry found nowUs := by
  have within := counts.front.within
  have fits : numbered.queue.appended.length - Front.start capacity numbered.queue first ≤
      capacity := by
    unfold Front.start
    omega
  rw [peekBatch_entries _ _ _ _ (counts.correctedTail_eq few)
      (by rw [counts.pending_eq]; exact fits),
    counts.pending_eq, counts.front.pending, take_range', List.range'_eq_map_range, List.map_map,
    List.map_map, Nat.min_comm]
  apply List.map_congr_left
  intro offset member
  have inside : Front.start capacity numbered.queue first + offset <
      numbered.queue.appended.length := by
    have bound := List.mem_range.mp member
    omega
  have slot : (ringIndex (u32 (Front.start capacity numbered.queue first)) + offset) % capacity =
      (Front.start capacity numbered.queue first + offset) % capacity := by
    rw [ringIndex_u32, Nat.mod_add_mod]
  have stored := counts.ring _ inside (by omega)
  simp only [Function.comp_apply]
  rw [slot, stored, List.getElem?_eq_getElem inside, Option.map_some]

theorem append (counts : Counts caller numbered first) (nowUs : Int) (tempC humPct : Flt) :
    Counts { caller with log := caller.log.append nowUs tempC humPct }
      (record caller (.append nowUs tempC humPct) numbered) first where
  head := by
    show u32 (caller.log.head + 1) = u32 (List.length (_ ++ [_]))
    rw [counts.head, List.length_append]
    exact Nat.mod_add_mod _ _ _
  tail := counts.tail
  front := counts.front.append _
  near := by
    have near := counts.near
    show List.length (_ ++ [_]) ≤ first + capacity + (numbered.sincePeek + 1)
    rw [List.length_append, List.length_singleton]
    omega
  ring := by
    have stored := counts.ring.append { capturedUs := nowUs, tempC := tempC, humPct := humPct }
    have slot : ringIndex caller.log.head = numbered.queue.appended.length % capacity := by
      rw [counts.head]
      exact ringIndex_u32 _
    rw [← slot] at stored
    exact stored
  batch := counts.batch

theorem peek (counts : Counts caller numbered first)
    (few : numbered.sincePeek < u32Mod - capacity) (nowUs : Int) (room : Nat) :
    Counts
      { log := (caller.log.peekBatch nowUs room).1
        batch := (caller.log.peekBatch nowUs room).2.length }
      (record caller (.peekBatch nowUs room) numbered)
      (Front.start capacity numbered.queue first) where
  head := by
    show (caller.log.peekBatch nowUs room).1.head = _
    rw [record_peek_appended, peekBatch_log]
    exact counts.head
  tail := by
    rw [peekBatch_log]
    exact counts.correctedTail_eq few
  front := counts.front.peek room
  near := by
    rw [record_peek_appended]
    unfold Front.start
    omega
  ring := by
    show Stores capacity (caller.log.peekBatch nowUs room).1.ring _
    rw [record_peek_appended, peekBatch_log]
    exact counts.ring
  batch := by
    have returned := congrArg List.length (counts.peek_eq few nowUs room)
    rw [List.length_map, List.length_map] at returned
    exact returned

theorem advance (counts : Counts caller numbered first) {count : Nat}
    (fits : count ≤ caller.batch) :
    Counts { log := caller.log.advance count, batch := caller.batch - count }
      (record caller (.advance count) numbered) (first + count) where
  head := counts.head
  tail := by
    show u32 (caller.log.tail + count) = u32 (first + count)
    rw [counts.tail]
    exact Nat.mod_add_mod _ _ _
  front := counts.front.advance (counts.batch ▸ fits)
  near := by
    have near := counts.near
    show numbered.queue.appended.length ≤ first + count + capacity + numbered.sincePeek
    omega
  ring := counts.ring
  batch := by
    show caller.batch - count = (numbered.queue.batch.drop count).length
    rw [List.length_drop, counts.batch]

end Counts

theorem counts_step {state next : Observed} {done : LogCall}
    (inv : ∃ first, Counts state.1 state.2 first)
    (few : FewAppends (u32Mod - capacity) state done) (taken : step state done = some next) :
    ∃ first, Counts next.1 next.2 first := by
  obtain ⟨first, counts⟩ := inv
  obtain ⟨stepped, recorded⟩ := Runs.observe_step taken
  rw [recorded]
  cases done with
  | append nowUs tempC humPct =>
    rw [← Option.some.inj stepped]
    exact ⟨first, counts.append nowUs tempC humPct⟩
  | peekBatch nowUs room =>
    rw [← Option.some.inj stepped]
    exact ⟨_, counts.peek few nowUs room⟩
  | advance count =>
    obtain ⟨fits, same⟩ := Option.ite_none_right_eq_some.mp stepped
    rw [← Option.some.inj same]
    exact ⟨first + count, counts.advance fits⟩

/-! ## Whole runs -/

/-- With fewer than 2^32 - 8192 appends between two peeks every call answers as the
queue does. -/
theorem refines_run (calls : List LogCall)
    (few : Runs.Along step (FewAppends (u32Mod - capacity)) ({}, {}) calls) :
    Runs.Along step Refines ({}, {}) calls := by
  refine Runs.along_of_invariant (fun state => ∃ first, Counts state.1 state.2 first)
    (fun _ _ _ inv met taken => counts_step inv met taken) ?_ ⟨0, counts_boot⟩ few
  rintro state coming ⟨first, counts⟩ met
  refine ⟨counts.hasPending_iff met, ?_⟩
  intro nowUs room _
  exact counts.peek_eq met nowUs room

theorem refines_oneBatch :
    Runs.Along step Refines ({}, {})
      [.append 0 (.fin 21) (.fin 40), .append 5000000 (.fin 22) (.fin 41),
        .peekBatch 9000000 1, .append 9000000 (.fin 23) (.fin 42), .advance 1,
        .peekBatch 9000000 50] :=
  refines_run _ (by decide +kernel)

def blank : LogCall := .append 0 .nan .nan

theorem append_many (count : Nat) (counts : Counts caller numbered first) :
    (∀ limit, numbered.sincePeek + count ≤ limit →
      Runs.Along step (FewAppends limit) (caller, numbered) (List.replicate count blank)) ∧
    ∃ after, Runs.run step (caller, numbered) (List.replicate count blank) = some after ∧
      Counts after.1 after.2 first ∧
      after.2.queue.appended.length = numbered.queue.appended.length + count ∧
      after.2.sincePeek = numbered.sincePeek + count := by
  induction count generalizing caller numbered with
  | zero => exact ⟨fun _ _ => trivial, (caller, numbered), rfl, counts, rfl, rfl⟩
  | succ count ih =>
    obtain ⟨few, after, ran, later, length, since⟩ := ih (counts.append 0 .nan .nan)
    have grown : (record caller blank numbered).queue.appended.length =
        numbered.queue.appended.length + 1 := List.length_append
    refine ⟨?_, after, ran, later, ?_, ?_⟩
    · intro limit bound
      refine ⟨by show numbered.sincePeek < limit; omega, ?_⟩
      rintro next ⟨⟩
      apply few limit
      show numbered.sincePeek + 1 + count ≤ limit
      omega
    · rw [length]
      exact (congrArg (· + count) grown).trans (by omega)
    · rw [since]
      show numbered.sincePeek + 1 + count = _
      omega

/-- A full ring, a peek that takes nothing, and `many` further appends. -/
def lapping (many : Nat) : List LogCall :=
  List.replicate capacity blank ++
    (LogCall.peekBatch 0 0 :: (List.replicate many blank ++ [.peekBatch 0 1]))

theorem lapping_missed {many : Nat} (wraps : capacity + many = u32Mod) :
    Runs.Along step (FewAppends u32Mod) ({}, {}) (lapping many) ∧
      ¬ Runs.Along step Refines ({}, {}) (lapping many) := by
  have wide : capacity < u32Mod - capacity := by decide
  obtain ⟨few, full, ran, counts, length, since⟩ := append_many capacity counts_boot
  have small : full.2.sincePeek < u32Mod - capacity := by
    rw [since]
    exact wide
  have start : Front.start capacity full.2.queue 0 = 0 := by
    unfold Front.start
    rw [length]
    decide
  have peeked := counts.peek small 0 0
  rw [start] at peeked
  obtain ⟨fewLater, last, ranLater, countsLater, lengthLater, sinceLater⟩ :=
    append_many many peeked
  have taken : step full (.peekBatch 0 0) = some
      ({ log := (full.1.log.peekBatch 0 0).1, batch := (full.1.log.peekBatch 0 0).2.length },
        record full.1 (.peekBatch 0 0) full.2) := rfl
  have fullLength : last.2.queue.appended.length = u32Mod := by
    rw [lengthLater, record_peek_appended, length, ← wraps]
    exact congrArg (· + many) (Nat.zero_add capacity)
  unfold lapping
  rw [Runs.along_append, Runs.along_append]
  constructor
  · refine ⟨few u32Mod (by decide), ?_⟩
    rintro middle reached
    cases Option.some.inj (ran.symm.trans reached)
    refine ⟨by show full.2.sincePeek < u32Mod; omega, ?_⟩
    intro next stepped
    cases Option.some.inj (taken.symm.trans stepped)
    rw [Runs.along_append]
    refine ⟨fewLater u32Mod ?_, ?_⟩
    · show 0 + many ≤ u32Mod
      omega
    · intro final reachedLater
      cases Option.some.inj (ranLater.symm.trans reachedLater)
      refine ⟨?_, fun _ _ => trivial⟩
      show last.2.sincePeek < u32Mod
      rw [sinceLater]
      show 0 + many < u32Mod
      have positive : 0 < capacity := by decide
      omega
  · rintro ⟨-, refined⟩
    have later := (refined full ran).2 _ taken
    rw [Runs.along_append] at later
    have answered := ((later.2 last ranLater).1).1
    have caught : last.1.log.hasPending = true := by
      rw [answered, countsLater.front.pending, Ne, List.range'_eq_nil_iff, fullLength]
      unfold Front.start
      rw [fullLength]
      decide
    rw [hasPending, bne_iff_ne, countsLater.head, countsLater.tail, fullLength] at caught
    exact caught (by decide)

/-- With 2^32 - 8192 appends after a peek that left 8192 records, the counters meet
and the log counts as empty. -/
theorem lapping_pendingLost :
    Runs.Along step (FewAppends u32Mod) ({}, {}) (lapping (u32Mod - capacity)) ∧
      ¬ Runs.Along step Refines ({}, {}) (lapping (u32Mod - capacity)) :=
  lapping_missed (by decide)

end SleepySensor.HistoryQueue
