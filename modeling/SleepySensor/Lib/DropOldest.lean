import Mathlib.Data.List.Range
import Mathlib.Tactic

/-!
# A bounded queue that drops its oldest

Records are numbered in the order of their appends.  Pending are the records
among the newest `capacity` that have not been advanced past.  `Front` says that
they are the records from one number on; `Stores` that a ring holds the newest
records, record `n` in slot `n % capacity`.
-/

set_option autoImplicit false

namespace SleepySensor.DropOldest

variable {α : Type}

structure Queue (α : Type) where
  appended : List α := []
  /-- The numbers of the records advanced past. -/
  advanced : List Nat := []
  /-- The numbers of the last batch that are not advanced past. -/
  batch : List Nat := []

namespace Queue

def pending (capacity : Nat) (queue : Queue α) : List Nat :=
  (List.range queue.appended.length).filter fun number =>
    decide (queue.appended.length ≤ number + capacity ∧ number ∉ queue.advanced)

def append (queue : Queue α) (record : α) : Queue α :=
  { queue with appended := queue.appended ++ [record] }

def peek (capacity room : Nat) (queue : Queue α) : Queue α :=
  { queue with batch := (queue.pending capacity).take room }

@[simp] theorem peek_appended (capacity room : Nat) (queue : Queue α) :
    (queue.peek capacity room).appended = queue.appended := rfl

def advance (queue : Queue α) (count : Nat) : Queue α :=
  { queue with
    advanced := queue.advanced ++ queue.batch.take count
    batch := queue.batch.drop count }

end Queue

/-! ## Where the pending records begin -/

theorem take_range' (first bound count : Nat) :
    (List.range' first bound).take count = List.range' first (min count bound) := by
  apply List.ext_getElem
  · rw [List.length_take, List.length_range', List.length_range']
  · intro place inFirst inSecond
    rw [List.getElem_take, List.getElem_range', List.getElem_range']

theorem filter_range {bound first : Nat} {keep : Nat → Bool} (within : first ≤ bound)
    (before : ∀ number < first, keep number = false)
    (after : ∀ number, first ≤ number → number < bound → keep number = true) :
    (List.range bound).filter keep = List.range' first (bound - first) := by
  have split : List.range bound = List.range first ++ List.range' first (bound - first) := by
    have joined := @List.range'_append_1 0 first (bound - first)
    rw [Nat.zero_add, Nat.add_sub_cancel' within] at joined
    rw [List.range_eq_range', List.range_eq_range']
    exact joined.symm
  rw [split, List.filter_append]
  have none_ : (List.range first).filter keep = [] := by
    rw [List.filter_eq_nil_iff]
    intro number member
    simp [before number (List.mem_range.mp member)]
  have all : (List.range' first (bound - first)).filter keep =
      List.range' first (bound - first) := by
    rw [List.filter_eq_self]
    intro number member
    rw [List.mem_range'_1] at member
    exact after number member.1 (by omega)
  rw [none_, all, List.nil_append]

/-- Every record below `first` is advanced past or dropped, and none from there on
is advanced past. -/
structure Front (capacity : Nat) (queue : Queue α) (first : Nat) : Prop where
  gone : ∀ number < first,
    number ∈ queue.advanced ∨ number + capacity < queue.appended.length
  kept : ∀ number ∈ queue.advanced, number < first
  batch : queue.batch = List.range' first queue.batch.length
  within : first + queue.batch.length ≤ queue.appended.length

namespace Front

variable {capacity first : Nat} {queue : Queue α}

/-- The first pending record when `first` is the first one not advanced past. -/
def start (capacity : Nat) (queue : Queue α) (first : Nat) : Nat :=
  max first (queue.appended.length - capacity)

theorem pending (front : Front capacity queue first) :
    queue.pending capacity =
      List.range' (start capacity queue first)
        (queue.appended.length - start capacity queue first) := by
  have within := front.within
  apply filter_range (by unfold start; omega)
  · intro number below
    rw [decide_eq_false_iff_not]
    rintro ⟨recent, unread⟩
    rcases front.gone number (by unfold start at below; omega) with read | dropped
    · exact unread read
    · omega
  · intro number above inside
    rw [decide_eq_true_iff]
    refine ⟨by unfold start at above; omega, ?_⟩
    intro read
    have below := front.kept number read
    unfold start at above
    omega

theorem append (front : Front capacity queue first) (record : α) :
    Front capacity (queue.append record) first := by
  have grown : (queue.append record).appended.length = queue.appended.length + 1 :=
    List.length_append
  refine ⟨?_, front.kept, front.batch, ?_⟩
  · intro number below
    rcases front.gone number below with read | dropped
    · exact .inl read
    · right
      omega
  · rw [grown]
    exact Nat.le_succ_of_le front.within

theorem peek (front : Front capacity queue first) (room : Nat) :
    Front capacity (queue.peek capacity room) (start capacity queue first) := by
  have within := front.within
  have taken : (queue.peek capacity room).batch = List.range' (start capacity queue first)
      (min room (queue.appended.length - start capacity queue first)) := by
    unfold Queue.peek
    rw [front.pending, take_range']
  refine ⟨?_, ?_, ?_, ?_⟩
  · intro number below
    by_cases read : number < first
    · exact front.gone number read
    · right
      show number + capacity < queue.appended.length
      unfold start at below
      omega
  · intro number read
    exact Nat.lt_of_lt_of_le (front.kept number read) (Nat.le_max_left _ _)
  · rw [taken, List.length_range']
  · rw [taken, List.length_range']
    show _ ≤ queue.appended.length
    unfold start
    omega

theorem advance (front : Front capacity queue first) {count : Nat}
    (fits : count ≤ queue.batch.length) :
    Front capacity (queue.advance count) (first + count) := by
  have passed : queue.batch.take count = List.range' first count := by
    rw [front.batch, take_range', Nat.min_eq_left fits]
  have rest : (queue.advance count).batch =
      List.range' (first + count) (queue.batch.length - count) := by
    have cut := congrArg (List.drop count) front.batch
    rw [List.drop_range', Nat.mul_one] at cut
    exact cut
  have within := front.within
  refine ⟨?_, ?_, ?_, ?_⟩
  · intro number below
    show number ∈ queue.advanced ++ queue.batch.take count ∨ _
    rw [List.mem_append, passed, List.mem_range'_1]
    by_cases before : number < first
    · rcases front.gone number before with read | dropped
      · exact .inl (.inl read)
      · exact .inr dropped
    · exact .inl (.inr ⟨by omega, below⟩)
  · intro number read
    rcases List.mem_append.mp read with old | new
    · exact Nat.lt_of_lt_of_le (front.kept number old) (Nat.le_add_right _ _)
    · rw [passed, List.mem_range'_1] at new
      exact new.2
  · rw [rest, List.length_range']
  · rw [rest, List.length_range']
    show _ ≤ queue.appended.length
    omega

end Front

/-! ## The ring -/

/-- The newest records are in their slots. -/
def Stores (capacity : Nat) (ring : Nat → α) (appended : List α) : Prop :=
  ∀ number (inside : number < appended.length), appended.length ≤ number + capacity →
    ring (number % capacity) = appended[number]

theorem Stores.append {capacity : Nat} {ring : Nat → α} {appended : List α}
    (stores : Stores capacity ring appended) (record : α) :
    Stores capacity (fun slot => if slot = appended.length % capacity then record else ring slot)
      (appended ++ [record]) := by
  intro number inside recent
  rw [List.length_append, List.length_singleton] at inside recent
  dsimp only
  by_cases last : number = appended.length
  · subst last
    rw [if_pos rfl, List.getElem_concat_length rfl]
  · have earlier : number < appended.length := by omega
    have apart : number % capacity ≠ appended.length % capacity := by
      intro same
      have gap : appended.length - number < capacity := by omega
      have multiple : capacity ∣ appended.length - number := (Nat.modEq_iff_dvd' earlier.le).mp same
      exact absurd (Nat.le_of_dvd (by omega) multiple) (by omega)
    rw [if_neg apart, List.getElem_append_left earlier]
    exact stores number earlier (by omega)

/-- A range of slots that wraps the end of the ring, cut into its two pieces. -/
theorem seam {capacity slot count : Nat} (inside : slot < capacity) (fits : count ≤ capacity) :
    List.range' slot (min count (capacity - slot)) ++
        List.range' 0 (count - min count (capacity - slot)) =
      (List.range count).map fun offset => (slot + offset) % capacity := by
  apply List.ext_getElem
  · rw [List.length_append, List.length_map, List.length_range', List.length_range',
      List.length_range]
    omega
  · intro place inFirst inSecond
    rw [List.length_map, List.length_range] at inSecond
    rw [List.getElem_map, List.getElem_range]
    by_cases front : place < min count (capacity - slot)
    · rw [List.getElem_append_left (by rw [List.length_range']; exact front),
        List.getElem_range', Nat.one_mul, Nat.mod_eq_of_lt (by omega)]
    · rw [List.getElem_append_right (by rw [List.length_range']; omega), List.getElem_range',
        List.length_range', Nat.one_mul, Nat.mod_eq_sub_mod (by omega),
        Nat.mod_eq_of_lt (by omega)]
      omega

end SleepySensor.DropOldest
