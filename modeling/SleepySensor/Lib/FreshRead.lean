import SleepySensor.Lib.Seqlock

/-!
# When a clean read was current

A clean read is not only of some published snapshot but of an instant of the
call.  One `loose` word besides the guarded ones may change while the counter
is even: the instant is then the moment at which that word was copied.
-/

set_option autoImplicit false

namespace SleepySensor.Seqlock

variable {Loc : Type} [DecidableEq Loc] {Val : Loc → Type}

def Reader.inCall : Reader Loc → Bool
  | .attempt _ | .copying _ _ _ | .check _ _ => true
  | _ => false

/-- The memory at every step taken while the call runs. -/
def instantsAfter (lock : Lock Loc Val) (instants : List ((loc : Loc) → Val loc)) :
    List ((loc : Loc) → Val loc) :=
  if lock.reader.inCall then lock.memory :: instants else instants

variable (layout : Layout Loc Val) (loose : Loc)

/-- The copied words that `instant` agrees with: the guarded ones, the loose one and
the counter. -/
def Shows (out instant : (loc : Loc) → Val loc) (rest : List Loc) : Prop :=
  ∀ loc, layout.guarded loc = true ∨ loc = loose ∨ loc = layout.counter →
    loc ∈ layout.order → loc ∉ rest → out loc = instant loc

/-- With the counter unmoved, what was copied is still in place, the loose word
apart, for which there is an instant. -/
structure Kept (lock : Lock Loc Val) (instants : List ((loc : Loc) → Val loc)) (before : Nat)
    (rest : List Loc) : Prop where
  count : layout.countOf lock.memory = before
  copied : ∀ loc, layout.guarded loc = true ∨ loc = layout.counter → loc ∈ layout.order →
    loc ∉ rest → lock.out loc = lock.memory loc
  loose : loose ∈ layout.order → loose ∉ rest → ∃ instant ∈ instants,
    layout.countOf instant = before ∧ instant loose = lock.out loose ∧
      ∀ loc, layout.guarded loc = true ∨ loc = layout.counter → instant loc = lock.memory loc

def Fresh (lock : Lock Loc Val) (instants : List ((loc : Loc) → Val loc)) : Prop :=
  match lock.reader with
  | .copying _ before rest =>
    before % 2 = 0 ∧ (lock.moved = 0 → Kept layout loose lock instants before rest)
  | .check _ before =>
    before % 2 = 0 ∧ (lock.moved = 0 → Kept layout loose lock instants before [])
  | .returned true => lock.moved < layout.modulus → ∃ instant ∈ instants,
      layout.countOf instant % 2 = 0 ∧ Shows layout loose lock.out instant []
  | _ => True

variable {layout loose} {lock next : Lock Loc Val} {instants : List ((loc : Loc) → Val loc)}

/-- A store that leaves the counter where an attempt found it changes neither a
guarded word nor the counter. -/
theorem Kept.store {before : Nat} {rest : List Loc} {loc : Loc} {value : Val loc}
    (kept : Kept layout loose lock instants before rest) (even : before % 2 = 0)
    (keeps : Keeps layout lock loc value) (notCounter : loc ≠ layout.counter)
    (later : List ((loc : Loc) → Val loc)) :
    Kept layout loose (layout.store lock loc value) (later ++ instants) before rest := by
  have unguarded : layout.guarded loc = false := by
    cases guarded : layout.guarded loc with
    | false => rfl
    | true =>
      have odd := keeps.guarded guarded
      rw [kept.count] at odd
      omega
  have apart : ∀ other, layout.guarded other = true ∨ other = layout.counter →
      Function.update lock.memory loc value other = lock.memory other := by
    intro other fixed
    refine Function.update_of_ne ?_ _ _
    rintro rfl
    rcases fixed with guarded | isCounter
    · rw [unguarded] at guarded
      cases guarded
    · exact notCounter isCounter
  refine ⟨?_, ?_, ?_⟩
  · exact (countOf_update value notCounter).trans kept.count
  · intro other fixed listed copied
    exact (kept.copied other fixed listed copied).trans (apart other fixed).symm
  · intro listed copied
    obtain ⟨instant, member, count, same, agrees⟩ := kept.loose listed copied
    refine ⟨instant, List.mem_append_right later member, count, same, ?_⟩
    exact fun other fixed => (agrees other fixed).trans (apart other fixed).symm

theorem fresh_store {loc : Loc} {value : Val loc} (keeps : Keeps layout lock loc value)
    (fresh : Fresh layout loose lock instants) :
    Fresh layout loose (layout.store lock loc value) (instantsAfter lock instants) := by
  have unmoved : lock.reader.inWindow = true → (layout.store lock loc value).moved = 0 →
      lock.moved = 0 ∧ loc ≠ layout.counter := by
    intro window still
    simp only [Layout.store, window, and_true] at still
    split at still <;> simp_all
  unfold Fresh at fresh ⊢
  have sameReader : (layout.store lock loc value).reader = lock.reader := rfl
  rw [sameReader]
  cases reader : lock.reader with
  | idle => trivial
  | attempt number => trivial
  | copying number before rest =>
    simp only [reader] at fresh ⊢
    refine ⟨fresh.1, fun still => ?_⟩
    obtain ⟨before_, notCounter⟩ := unmoved (by rw [reader]; rfl) still
    have seen : instantsAfter lock instants = [lock.memory] ++ instants := by
      simp [instantsAfter, reader, Reader.inCall]
    rw [seen]
    exact (fresh.2 before_).store fresh.1 keeps notCounter _
  | check number before =>
    simp only [reader] at fresh ⊢
    refine ⟨fresh.1, fun still => ?_⟩
    obtain ⟨before_, notCounter⟩ := unmoved (by rw [reader]; rfl) still
    have seen : instantsAfter lock instants = [lock.memory] ++ instants := by
      simp [instantsAfter, reader, Reader.inCall]
    rw [seen]
    exact (fresh.2 before_).store fresh.1 keeps notCounter _
  | returned clean =>
    cases clean with
    | false => trivial
    | true =>
      simp only [reader] at fresh ⊢
      have seen : instantsAfter lock instants = instants := by
        simp [instantsAfter, reader, Reader.inCall]
      have moved : (layout.store lock loc value).moved = lock.moved := by
        simp [Layout.store, reader, Reader.inWindow]
      rw [seen, moved]
      exact fresh

omit [DecidableEq Loc] in
theorem Kept.more {before : Nat} {rest : List Loc}
    (kept : Kept layout loose lock instants before rest) (memory : (loc : Loc) → Val loc) :
    Kept layout loose lock (memory :: instants) before rest := by
  refine ⟨kept.count, kept.copied, fun listed copied => ?_⟩
  obtain ⟨instant, member, known⟩ := kept.loose listed copied
  exact ⟨instant, List.mem_cons_of_mem _ member, known⟩

omit [DecidableEq Loc] in
theorem fresh_still (fresh : Fresh layout loose lock instants) :
    Fresh layout loose lock (instantsAfter lock instants) := by
  unfold instantsAfter
  split
  · unfold Fresh at fresh ⊢
    cases reader : lock.reader with
    | copying number before rest =>
      simp only [reader] at fresh ⊢
      exact ⟨fresh.1, fun still => (fresh.2 still).more _⟩
    | check number before =>
      simp only [reader] at fresh ⊢
      exact ⟨fresh.1, fun still => (fresh.2 still).more _⟩
    | returned clean => simp_all [Reader.inCall]
    | _ => trivial
  · exact fresh

theorem Kept.copy {before : Nat} {loc : Loc} {rest : List Loc}
    (kept : Kept layout loose lock instants before (loc :: rest)) (reader : Reader Loc) :
    Kept layout loose
      { lock with out := Function.update lock.out loc (lock.memory loc), reader := reader }
      (lock.memory :: instants) before rest := by
  have earlier : ∀ {other}, other ≠ loc → other ∉ rest → other ∉ loc :: rest := by
    intro other differ missing member
    rcases List.mem_cons.mp member with same | later
    · exact differ same
    · exact missing later
  refine ⟨kept.count, ?_, ?_⟩
  · intro other fixed listed missing
    by_cases same : other = loc
    · subst same
      exact Function.update_self _ _ _
    · exact (Function.update_of_ne same _ _).trans
        (kept.copied other fixed listed (earlier same missing))
  · intro listed missing
    by_cases same : loose = loc
    · subst same
      exact ⟨lock.memory, List.mem_cons_self, kept.count, (Function.update_self _ _ _).symm,
        fun _ _ => rfl⟩
    · obtain ⟨instant, member, count, copied, agrees⟩ := kept.loose listed (earlier same missing)
      exact ⟨instant, List.mem_cons_of_mem _ member, count,
        copied.trans (Function.update_of_ne same _ _).symm, agrees⟩

omit [DecidableEq Loc] in
theorem Kept.shows {before : Nat} (kept : Kept layout loose lock instants before [])
    (even : before % 2 = 0) (listed : loose ∈ layout.order) : ∃ instant ∈ instants,
      layout.countOf instant % 2 = 0 ∧ Shows layout loose lock.out instant [] := by
  obtain ⟨instant, member, count, copied, agrees⟩ := kept.loose listed List.not_mem_nil
  refine ⟨instant, member, count ▸ even, ?_⟩
  rintro loc (guarded | rfl | isCounter) inOrder missing
  · exact (kept.copied loc (.inl guarded) inOrder missing).trans (agrees loc (.inl guarded)).symm
  · exact copied.symm
  · exact (kept.copied loc (.inr isCounter) inOrder missing).trans
      (agrees loc (.inr isCounter)).symm

theorem fresh_readerStep (inv : Inv layout lock) (listed : loose ∈ layout.order)
    (taken : layout.readerStep lock = some next) (fresh : Fresh layout loose lock instants) :
    Fresh layout loose next (instantsAfter lock instants) := by
  unfold Layout.readerStep at taken
  dsimp only at taken
  have counted := inv.counted
  unfold Counted at counted
  unfold Fresh at fresh
  cases reader : lock.reader with
  | idle => simp [reader] at taken
  | returned clean => simp [reader] at taken
  | attempt number =>
    simp only [reader] at taken
    split at taken
    · cases taken
      trivial
    · split at taken
      · cases taken
        trivial
      · rename_i even
        cases taken
        refine ⟨by omega, fun _ => ⟨rfl, ?_, ?_⟩⟩
        · exact fun loc _ inOrder missing => absurd inOrder missing
        · exact fun inOrder missing => absurd inOrder missing
  | copying number before rest =>
    have seen : instantsAfter lock instants = lock.memory :: instants := by
      simp [instantsAfter, reader, Reader.inCall]
    rw [seen]
    simp only [reader] at taken fresh
    cases rest with
    | nil =>
      cases taken
      refine ⟨fresh.1, fun still => ?_⟩
      obtain ⟨count, copied, loose_⟩ := (fresh.2 still).more lock.memory
      exact ⟨count, copied, loose_⟩
    | cons loc rest =>
      cases taken
      exact ⟨fresh.1, fun still => (fresh.2 still).copy _⟩
  | check number before =>
    have seen : instantsAfter lock instants = lock.memory :: instants := by
      simp [instantsAfter, reader, Reader.inCall]
    rw [seen]
    rw [reader] at counted
    simp only [reader] at taken fresh
    obtain ⟨count, small, -, -⟩ := counted
    split at taken
    · rename_i unchanged
      cases taken
      intro few
      obtain ⟨instant, member, known⟩ :=
        (fresh.2 (unmoved count small unchanged few)).shows fresh.1 listed
      exact ⟨instant, List.mem_cons_of_mem _ member, known⟩
    · cases taken
      trivial

omit [DecidableEq Loc] in
theorem fresh_call {started : Lock Loc Val} {contents : (loc : Loc) → Val loc}
    (called : Layout.call lock contents = some started)
    (later : List ((loc : Loc) → Val loc)) : Fresh layout loose started later := by
  unfold Layout.call at called
  dsimp only at called
  split at called <;> cases called <;> trivial

end SleepySensor.Seqlock
