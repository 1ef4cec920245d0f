import Mathlib.Data.Nat.ModEq
import Mathlib.Tactic

/-!
# Sequence locks read with a bounded number of attempts

One writer stores words one by one and bumps a counter to odd before and to even
after it changes guarded words.  A reader copies the words between two reads of
the counter; it skips an attempt that starts at an odd counter, retries one whose
counter moved, and gives up after `attempts`.  The memory at each store that
makes the counter even is a published snapshot.
-/

set_option autoImplicit false

namespace SleepySensor.Seqlock

variable {Loc : Type} [DecidableEq Loc] {Val : Loc → Type}

structure Layout (Loc : Type) (Val : Loc → Type) where
  counter : Loc
  count : Val counter → Nat
  modulus : Nat
  order : List Loc
  guarded : Loc → Bool
  attempts : Nat
  counter_unguarded : guarded counter = false

inductive Reader (Loc : Type) where
  | idle
  | attempt (number : Nat)
  | copying (number before : Nat) (rest : List Loc)
  | check (number before : Nat)
  | returned (clean : Bool)
  deriving DecidableEq, Repr

def Reader.inCopy : Reader Loc → Bool
  | .copying _ _ _ => true
  | _ => false

def Reader.inWindow : Reader Loc → Bool
  | .copying _ _ _ => true
  | .check _ _ => true
  | _ => false

/-- The shared words and the reader, with what a proof about them needs: whether
the reader's copy was ever written, whether a guarded word changed during the
last copy, how often the counter was stored since that attempt read it, and
every published snapshot. -/
structure Lock (Loc : Type) (Val : Loc → Type) where
  memory : (loc : Loc) → Val loc
  out : (loc : Loc) → Val loc
  reader : Reader Loc
  written : Bool
  torn : Bool
  moved : Nat
  published : List ((loc : Loc) → Val loc)

def initial (memory out : (loc : Loc) → Val loc) : Lock Loc Val :=
  { memory := memory, out := out, reader := .idle, written := false, torn := false, moved := 0
    published := [memory] }

namespace Layout

def countOf (layout : Layout Loc Val) (memory : (loc : Loc) → Val loc) : Nat :=
  layout.count (memory layout.counter)

def store (layout : Layout Loc Val) (lock : Lock Loc Val) (loc : Loc) (value : Val loc) :
    Lock Loc Val :=
  let memory := Function.update lock.memory loc value
  { lock with
    memory := memory
    torn := lock.torn || (lock.reader.inCopy && layout.guarded loc)
    moved := if loc = layout.counter ∧ lock.reader.inWindow = true then lock.moved + 1
      else lock.moved
    published := if loc = layout.counter ∧ layout.countOf memory % 2 = 0
      then memory :: lock.published else lock.published }

def call (lock : Lock Loc Val) (contents : (loc : Loc) → Val loc) : Option (Lock Loc Val) :=
  let started : Lock Loc Val :=
    { lock with out := contents, reader := .attempt 0, written := false, torn := false, moved := 0 }
  match lock.reader with
  | .idle => some started
  | .returned _ => some started
  | _ => none

def readerStep (layout : Layout Loc Val) (lock : Lock Loc Val) : Option (Lock Loc Val) :=
  let count := layout.countOf lock.memory
  match lock.reader with
  | .idle => none
  | .attempt number =>
    if number = layout.attempts then some { lock with reader := .returned false }
    else if count % 2 = 1 then some { lock with reader := .attempt (number + 1) }
    else some { lock with
      reader := .copying number count layout.order, torn := false, moved := 0 }
  | .copying number before (loc :: rest) =>
    some { lock with
      out := Function.update lock.out loc (lock.memory loc)
      reader := .copying number before rest }
  | .copying number before [] =>
    some { lock with reader := .check number before, written := true }
  | .check number before =>
    if before = count then some { lock with reader := .returned true }
    else some { lock with reader := .attempt (number + 1) }
  | .returned _ => none

@[simp] theorem store_same (layout : Layout Loc Val) (lock : Lock Loc Val) (loc : Loc)
    (value : Val loc) : (layout.store lock loc value).memory loc = value := by
  simp [store]

end Layout

/-- What the writer has to keep to: guarded words change only while the counter
is odd, and the counter goes up by one. -/
structure Keeps (layout : Layout Loc Val) (lock : Lock Loc Val) (loc : Loc) (value : Val loc) :
    Prop where
  guarded : layout.guarded loc = true → layout.countOf lock.memory % 2 = 1
  counter : loc = layout.counter →
    layout.countOf (Function.update lock.memory loc value) =
      (layout.countOf lock.memory + 1) % layout.modulus

section Invariant

variable (layout : Layout Loc Val)

def Agrees (memory snapshot : (loc : Loc) → Val loc) : Prop :=
  ∀ loc, layout.guarded loc = true → memory loc = snapshot loc

def Copied (lock : Lock Loc Val) (rest : List Loc) (snapshot : (loc : Loc) → Val loc) : Prop :=
  ∀ loc, layout.guarded loc = true → loc ∈ layout.order → loc ∉ rest →
    lock.out loc = snapshot loc

/-- At an even counter the guarded words are those of a published snapshot. -/
def Stable (lock : Lock Loc Val) : Prop :=
  layout.countOf lock.memory % 2 = 0 →
    ∃ snapshot ∈ lock.published, Agrees layout lock.memory snapshot

/-- While nothing guarded changed since the copy began, what was copied so far
and what is still to be copied belong to one published snapshot. -/
def ReadsOne (lock : Lock Loc Val) : Prop :=
  match lock.reader with
  | .idle => True
  | .copying _ _ rest => lock.torn = false →
      ∃ snapshot ∈ lock.published,
        Agrees layout lock.memory snapshot ∧ Copied layout lock rest snapshot
  | _ => lock.written = true → lock.torn = false →
      ∃ snapshot ∈ lock.published, Copied layout lock [] snapshot

/-- The counter moved by as much as it was stored, and a copy can only be torn
once it moved. -/
def Counted (lock : Lock Loc Val) : Prop :=
  match lock.reader with
  | .copying _ before _ =>
      before % 2 = 0 ∧ layout.countOf lock.memory = (before + lock.moved) % layout.modulus ∧
        before < layout.modulus ∧ (lock.moved = 0 → lock.torn = false)
  | .check _ before =>
      layout.countOf lock.memory = (before + lock.moved) % layout.modulus ∧
        before < layout.modulus ∧ (lock.moved = 0 → lock.torn = false) ∧ lock.written = true
  | .returned true =>
      (lock.moved < layout.modulus → lock.torn = false) ∧ lock.written = true
  | _ => True

structure Inv (lock : Lock Loc Val) : Prop where
  stable : Stable layout lock
  readsOne : ReadsOne layout lock
  counted : Counted layout lock
  bounded : layout.countOf lock.memory < layout.modulus

variable {layout}

omit [DecidableEq Loc] in
theorem initial_inv {memory : (loc : Loc) → Val loc} (out : (loc : Loc) → Val loc)
    (bounded : layout.countOf memory < layout.modulus) : Inv layout (initial memory out) where
  stable := fun _ => ⟨memory, List.mem_singleton_self memory, fun _ _ => rfl⟩
  readsOne := trivial
  counted := trivial
  bounded := bounded

theorem published_grows (lock : Lock Loc Val) (loc : Loc) (value : Val loc)
    {snapshot : (loc : Loc) → Val loc} (member : snapshot ∈ lock.published) :
    snapshot ∈ (layout.store lock loc value).published := by
  simp only [Layout.store]
  split
  · exact List.mem_cons_of_mem _ member
  · exact member

theorem agrees_update {memory snapshot : (loc : Loc) → Val loc} {loc : Loc} (value : Val loc)
    (unguarded : layout.guarded loc = false) (agrees : Agrees layout memory snapshot) :
    Agrees layout (Function.update memory loc value) snapshot := by
  intro other guarded
  have differ : other ≠ loc := by
    rintro rfl
    rw [unguarded] at guarded
    cases guarded
  rw [Function.update_of_ne differ]
  exact agrees other guarded

theorem countOf_update {memory : (loc : Loc) → Val loc} {loc : Loc} (value : Val loc)
    (differ : loc ≠ layout.counter) :
    layout.countOf (Function.update memory loc value) = layout.countOf memory := by
  unfold Layout.countOf
  rw [Function.update_of_ne differ.symm]

theorem store_stable {lock : Lock Loc Val} {loc : Loc} {value : Val loc}
    (keeps : Keeps layout lock loc value) (stable : Stable layout lock) :
    Stable layout (layout.store lock loc value) := by
  intro even
  by_cases isCounter : loc = layout.counter
  · refine ⟨Function.update lock.memory loc value, ?_, fun _ _ => rfl⟩
    simp only [Layout.store] at even ⊢
    rw [if_pos ⟨isCounter, even⟩]
    exact List.mem_cons_self
  · have same : layout.countOf lock.memory % 2 = 0 := by
      rw [← countOf_update value isCounter]
      exact even
    have unguarded : layout.guarded loc = false := by
      cases guarded : layout.guarded loc with
      | false => rfl
      | true => have odd := keeps.guarded guarded; omega
    obtain ⟨snapshot, member, agrees⟩ := stable same
    exact ⟨snapshot, published_grows lock loc value member, agrees_update value unguarded agrees⟩

theorem store_readsOne {lock : Lock Loc Val} {loc : Loc} {value : Val loc}
    (reads : ReadsOne layout lock) : ReadsOne layout (layout.store lock loc value) := by
  have grows : ∀ snapshot ∈ lock.published,
      snapshot ∈ (layout.store lock loc value).published :=
    fun _ member => published_grows lock loc value member
  unfold ReadsOne at *
  cases reader : lock.reader with
  | idle => simp [Layout.store, reader]
  | copying number before rest =>
    simp only [Layout.store, reader] at reads ⊢
    intro intact
    simp only [Reader.inCopy, Bool.true_and, Bool.or_eq_false_iff] at intact
    obtain ⟨snapshot, member, agrees, copied⟩ := reads intact.1
    exact ⟨snapshot, grows snapshot member, agrees_update value intact.2 agrees, copied⟩
  | attempt number =>
    simp only [Layout.store, reader] at reads ⊢
    intro written intact
    simp only [Reader.inCopy, Bool.false_and, Bool.or_false] at intact
    obtain ⟨snapshot, member, copied⟩ := reads written intact
    exact ⟨snapshot, grows snapshot member, copied⟩
  | check number before =>
    simp only [Layout.store, reader] at reads ⊢
    intro written intact
    simp only [Reader.inCopy, Bool.false_and, Bool.or_false] at intact
    obtain ⟨snapshot, member, copied⟩ := reads written intact
    exact ⟨snapshot, grows snapshot member, copied⟩
  | returned clean =>
    simp only [Layout.store, reader] at reads ⊢
    intro written intact
    simp only [Reader.inCopy, Bool.false_and, Bool.or_false] at intact
    obtain ⟨snapshot, member, copied⟩ := reads written intact
    exact ⟨snapshot, grows snapshot member, copied⟩

/-- After a store the counter is where the count of stores says. -/
theorem store_count {lock : Lock Loc Val} {loc : Loc} {value : Val loc} {before : Nat}
    (keeps : Keeps layout lock loc value) (window : lock.reader.inWindow = true)
    (counted : layout.countOf lock.memory = (before + lock.moved) % layout.modulus) :
    layout.countOf (layout.store lock loc value).memory =
      (before + (layout.store lock loc value).moved) % layout.modulus := by
  by_cases isCounter : loc = layout.counter
  · have moved : (layout.store lock loc value).moved = lock.moved + 1 := by
      simp [Layout.store, isCounter, window]
    rw [moved]
    have bumped := keeps.counter isCounter
    rw [counted, Nat.mod_add_mod] at bumped
    exact bumped
  · have moved : (layout.store lock loc value).moved = lock.moved := by
      simp [Layout.store, isCounter]
    rw [moved, ← counted]
    exact countOf_update value isCounter

theorem store_counted {lock : Lock Loc Val} {loc : Loc} {value : Val loc}
    (keeps : Keeps layout lock loc value) (counted : Counted layout lock) :
    Counted layout (layout.store lock loc value) := by
  have sameReader : (layout.store lock loc value).reader = lock.reader := rfl
  have sameWritten : (layout.store lock loc value).written = lock.written := rfl
  unfold Counted at *
  rw [sameReader, sameWritten]
  cases reader : lock.reader with
  | idle => trivial
  | attempt number => trivial
  | copying number before rest =>
    rw [reader] at counted
    obtain ⟨even, count, small, untorn⟩ := counted
    refine ⟨even, store_count keeps (by simp [reader, Reader.inWindow]) count, small, ?_⟩
    intro still
    have unmoved : lock.moved = 0 ∧ loc ≠ layout.counter := by
      simp only [Layout.store, reader, Reader.inWindow] at still
      split at still <;> simp_all
    -- at an unmoved counter the writer is outside its odd window
    have unguarded : layout.guarded loc = false := by
      cases guarded : layout.guarded loc with
      | false => rfl
      | true =>
        have odd := keeps.guarded guarded
        rw [count, unmoved.1, Nat.add_zero, Nat.mod_eq_of_lt small] at odd
        omega
    simp [Layout.store, untorn unmoved.1, unguarded]
  | check number before =>
    rw [reader] at counted
    obtain ⟨count, small, untorn, written⟩ := counted
    refine ⟨store_count keeps (by simp [reader, Reader.inWindow]) count, small, ?_, written⟩
    intro still
    have unmoved : lock.moved = 0 := by
      simp only [Layout.store, reader, Reader.inWindow] at still
      split at still <;> simp_all
    simp [Layout.store, untorn unmoved, reader, Reader.inCopy]
  | returned clean =>
    rw [reader] at counted
    cases clean with
    | false => trivial
    | true =>
      refine ⟨fun few => ?_, counted.2⟩
      have unmoved : (layout.store lock loc value).moved = lock.moved := by
        simp [Layout.store, reader, Reader.inWindow]
      rw [unmoved] at few
      simp [Layout.store, counted.1 few, reader, Reader.inCopy]

theorem store_inv {lock : Lock Loc Val} {loc : Loc} {value : Val loc}
    (keeps : Keeps layout lock loc value) (inv : Inv layout lock) :
    Inv layout (layout.store lock loc value) where
  stable := store_stable keeps inv.stable
  readsOne := store_readsOne inv.readsOne
  counted := store_counted keeps inv.counted
  bounded := by
    by_cases isCounter : loc = layout.counter
    · have bumped := keeps.counter isCounter
      have positive : 0 < layout.modulus := Nat.lt_of_le_of_lt (Nat.zero_le _) inv.bounded
      exact bumped ▸ Nat.mod_lt _ positive
    · have same : layout.countOf (Function.update lock.memory loc value) =
          layout.countOf lock.memory := countOf_update value isCounter
      exact same ▸ inv.bounded

omit [DecidableEq Loc] in
theorem call_inv {lock started : Lock Loc Val} {contents : (loc : Loc) → Val loc}
    (called : Layout.call lock contents = some started) (inv : Inv layout lock) :
    Inv layout started := by
  unfold Layout.call at called
  dsimp only at called
  split at called
  · cases called
    exact ⟨inv.stable, (fun written => by cases written), trivial, inv.bounded⟩
  · cases called
    exact ⟨inv.stable, (fun written => by cases written), trivial, inv.bounded⟩
  · cases called

omit [DecidableEq Loc] in
theorem call_memory {lock started : Lock Loc Val} {contents : (loc : Loc) → Val loc}
    (called : Layout.call lock contents = some started) : started.memory = lock.memory := by
  unfold Layout.call at called
  dsimp only at called
  split at called <;> cases called <;> rfl

theorem readerStep_memory {lock next : Lock Loc Val}
    (taken : layout.readerStep lock = some next) : next.memory = lock.memory := by
  unfold Layout.readerStep at taken
  dsimp only at taken
  cases reader : lock.reader with
  | idle => simp [reader] at taken
  | returned clean => simp [reader] at taken
  | attempt number =>
    simp only [reader] at taken
    split at taken
    · cases taken
      rfl
    · split at taken <;> cases taken <;> rfl
  | copying number before rest =>
    simp only [reader] at taken
    cases rest with
    | nil => cases taken; rfl
    | cons loc rest => cases taken; rfl
  | check number before =>
    simp only [reader] at taken
    split at taken <;> cases taken <;> rfl

omit [DecidableEq Loc] in
/-- The counter is back where it was after fewer stores than its modulus: there
was none. -/
theorem unmoved {lock : Lock Loc Val} {before : Nat}
    (count : layout.countOf lock.memory = (before + lock.moved) % layout.modulus)
    (small : before < layout.modulus) (unchanged : before = layout.countOf lock.memory)
    (few : lock.moved < layout.modulus) : lock.moved = 0 := by
  rw [← unchanged] at count
  have wrapped : (before + lock.moved) % layout.modulus = before % layout.modulus := by
    rw [← count, Nat.mod_eq_of_lt small]
  have zero : lock.moved % layout.modulus = 0 :=
    Nat.mod_eq_zero_of_dvd (Nat.add_modEq_left_iff.mp wrapped)
  rwa [Nat.mod_eq_of_lt few] at zero

theorem readerStep_inv {lock next : Lock Loc Val}
    (taken : layout.readerStep lock = some next) (inv : Inv layout lock) : Inv layout next := by
  obtain ⟨stable, reads, counted, bounded⟩ := inv
  unfold Layout.readerStep at taken
  dsimp only at taken
  unfold ReadsOne at reads
  unfold Counted at counted
  cases reader : lock.reader with
  | idle => simp [reader] at taken
  | returned clean => simp [reader] at taken
  | attempt number =>
    simp only [reader] at taken reads
    split at taken
    · cases taken
      exact ⟨stable, reads, trivial, bounded⟩
    · split at taken
      · cases taken
        exact ⟨stable, reads, trivial, bounded⟩
      · rename_i even
        have isEven : layout.countOf lock.memory % 2 = 0 := by omega
        cases taken
        refine ⟨stable, fun _ => ?_, ⟨isEven, ?_, bounded, fun _ => rfl⟩, bounded⟩
        · obtain ⟨snapshot, member, agrees⟩ := stable isEven
          exact ⟨snapshot, member, agrees, fun loc _ listed missing => absurd listed missing⟩
        · exact (Nat.mod_eq_of_lt bounded).symm
  | copying number before rest =>
    rw [reader] at counted
    simp only [reader] at taken reads
    cases rest with
    | nil =>
      cases taken
      refine ⟨stable, fun _ intact => ?_, ⟨counted.2.1, counted.2.2.1, counted.2.2.2, rfl⟩, bounded⟩
      obtain ⟨snapshot, member, _, copied⟩ := reads intact
      exact ⟨snapshot, member, copied⟩
    | cons loc rest =>
      cases taken
      refine ⟨stable, fun intact => ?_, counted, bounded⟩
      obtain ⟨snapshot, member, agrees, copied⟩ := reads intact
      refine ⟨snapshot, member, agrees, fun other guarded listed missing => ?_⟩
      by_cases same : other = loc
      · subst same
        simp only [Function.update_self]
        exact agrees other guarded
      · simp only [Function.update_of_ne same]
        exact copied other guarded listed (by simp [same, missing])
  | check number before =>
    rw [reader] at counted
    simp only [reader] at taken reads
    obtain ⟨count, small, untorn, written⟩ := counted
    split at taken
    · rename_i unchanged
      cases taken
      exact ⟨stable, reads, ⟨fun few => untorn (unmoved count small unchanged few), written⟩,
        bounded⟩
    · cases taken
      exact ⟨stable, reads, trivial, bounded⟩

omit [DecidableEq Loc] in
/-- A call that wrote its copy, with no guarded word changed during the last
copy, returns the guarded words of a published snapshot. -/
theorem returned_snapshot {lock : Lock Loc Val} {clean : Bool} (inv : Inv layout lock)
    (returned : lock.reader = .returned clean) (written : lock.written = true)
    (untorn : lock.torn = false) :
    ∃ snapshot ∈ lock.published, ∀ loc, layout.guarded loc = true → loc ∈ layout.order →
      lock.out loc = snapshot loc := by
  have reads := inv.readsOne
  simp only [ReadsOne, returned] at reads
  obtain ⟨snapshot, member, copied⟩ := reads written untorn
  exact ⟨snapshot, member, fun loc guarded listed => copied loc guarded listed (by simp)⟩

omit [DecidableEq Loc] in
/-- A clean return is such a call, unless the counter went all the way round. -/
theorem clean_read {lock : Lock Loc Val} (inv : Inv layout lock)
    (returned : lock.reader = .returned true) (few : lock.moved < layout.modulus) :
    lock.written = true ∧ lock.torn = false := by
  have counted := inv.counted
  simp only [Counted, returned] at counted
  exact ⟨counted.2, counted.1 few⟩

end Invariant

section Alone

variable (layout : Layout Loc Val)

/-- Steps of the reader with no store in between. -/
abbrev Alone : Lock Loc Val → Lock Loc Val → Prop :=
  Relation.ReflTransGen fun lock next => layout.readerStep lock = some next

variable {layout}

theorem copy_alone {lock : Lock Loc Val} {number before : Nat} (rest : List Loc)
    (copying : lock.reader = .copying number before rest) :
    Alone layout lock
      { lock with
        out := fun loc => if loc ∈ rest then lock.memory loc else lock.out loc
        reader := .check number before, written := true } := by
  induction rest generalizing lock with
  | nil =>
    apply Relation.ReflTransGen.single
    simp [Layout.readerStep, copying]
  | cons loc rest ih =>
    have copied : layout.readerStep lock = some
        { lock with
          out := Function.update lock.out loc (lock.memory loc)
          reader := .copying number before rest } := by
      simp [Layout.readerStep, copying]
    have same : (fun other => if other ∈ rest then lock.memory other
          else Function.update lock.out loc (lock.memory loc) other) =
        fun other => if other ∈ loc :: rest then lock.memory other else lock.out other := by
      funext other
      by_cases here : other = loc
      · subst here
        simp
      · simp [here]
    rw [← same]
    exact Relation.ReflTransGen.head copied (ih rfl)

theorem skip_alone {lock : Lock Loc Val} (left number : Nat)
    (attempt : lock.reader = .attempt number) (last : number + left = layout.attempts)
    (odd : layout.countOf lock.memory % 2 = 1) :
    Alone layout lock { lock with reader := .returned false } := by
  induction left generalizing lock number with
  | zero =>
    apply Relation.ReflTransGen.single
    simp [Layout.readerStep, attempt, show number = layout.attempts from last]
  | succ left ih =>
    have earlier : number ≠ layout.attempts := by omega
    have skipped : layout.readerStep lock = some { lock with reader := .attempt (number + 1) } := by
      simp [Layout.readerStep, attempt, earlier, odd]
    exact Relation.ReflTransGen.head skipped (ih (number + 1) rfl (by omega) odd)

/-- A call with no store in between is clean and returns the memory at an even
counter; at an odd one it returns what the caller's copy held before. -/
theorem call_alone {lock started : Lock Loc Val} {contents : (loc : Loc) → Val loc}
    (called : Layout.call lock contents = some started) (some_ : 0 < layout.attempts)
    (all : ∀ loc, loc ∈ layout.order) :
    ∃ final, Alone layout started final ∧
      final.reader = .returned (decide (layout.countOf lock.memory % 2 = 0)) ∧
        final.out = if layout.countOf lock.memory % 2 = 1 then contents else lock.memory := by
  have begun : started = { lock with
      out := contents, reader := .attempt 0, written := false, torn := false, moved := 0 } := by
    unfold Layout.call at called
    split at called <;> first | exact (Option.some.inj called).symm | cases called
  subst begun
  by_cases odd : layout.countOf lock.memory % 2 = 1
  · rw [if_pos odd, decide_eq_false (by omega)]
    exact ⟨_, skip_alone layout.attempts 0 rfl (Nat.zero_add _) odd, rfl, rfl⟩
  · rw [if_neg odd, decide_eq_true (by omega)]
    let copying : Lock Loc Val := { lock with
      out := contents, reader := .copying 0 (layout.countOf lock.memory) layout.order
      written := false, torn := false, moved := 0 }
    let checking : Lock Loc Val := { copying with
      out := fun loc => if loc ∈ layout.order then lock.memory loc else contents loc
      reader := .check 0 (layout.countOf lock.memory), written := true }
    have first : layout.readerStep { lock with
          out := contents, reader := .attempt 0, written := false, torn := false, moved := 0 } =
        some copying := by
      simp [Layout.readerStep, odd, some_.ne, copying]
    have copied : Alone layout copying checking := copy_alone layout.order rfl
    have last : layout.readerStep checking = some { checking with reader := .returned true } := by
      simp [Layout.readerStep, checking, copying]
    have read : Alone layout { lock with
          out := contents, reader := .attempt 0, written := false, torn := false, moved := 0 }
        { checking with reader := .returned true } :=
      Relation.ReflTransGen.tail (Relation.ReflTransGen.head first copied) last
    refine ⟨_, read, rfl, ?_⟩
    funext loc
    exact if_pos (all loc)

end Alone

end SleepySensor.Seqlock
