import Mathlib.Data.List.Perm.Basic
import Mathlib.Tactic.Linarith
import Mathlib.Tactic.NormNum
import SleepySensor.HaHistory

/-!
# Reconstructing a de-duplicated history

What `cycle_anchors` and `cycle_table` make of the rows that Home Assistant
keeps, where it drops each row that repeats the value before.
-/

set_option autoImplicit false

namespace SleepySensor.Reconstruction

open SleepySensor.HaHistory SleepySensor.Spaced

variable {Value : Type} [DecidableEq Value] {py : PyFloat}

/-- One publish: its instant, and the row of every name. -/
structure Publish (Value : Type) where
  instant : Int
  stamp : Text → Int
  value : Text → Value

/-- A row is written when the value is not the one before. -/
def survives (name : Text) (before : Option (Publish Value)) (publish : Publish Value) : Bool :=
  before.all fun earlier => decide (earlier.value name ≠ publish.value name)

theorem survives_some {name : Text} {earlier publish : Publish Value} :
    survives name (some earlier) publish = true ↔ earlier.value name ≠ publish.value name := by
  simp [survives]

def row (name : Text) (publish : Publish Value) : Int × Value :=
  (publish.stamp name, publish.value name)

def surviving (name : Text) : Option (Publish Value) → List (Publish Value) → List (Int × Value)
  | _, [] => []
  | before, publish :: rest =>
    (if survives name before publish then [row name publish] else []) ++
      surviving name (some publish) rest

def dropped (name : Text) : Option (Publish Value) → List (Publish Value) → Nat
  | _, [] => 0
  | before, publish :: rest =>
    (if survives name before publish then 0 else 1) + dropped name (some publish) rest

/-- Publishes that stay apart while their rows stay together. -/
structure Published (epsilon maxHold : Seconds py) (names : List Text)
    (publishes : List (Publish Value)) : Prop where
  spread : ∀ publish ∈ publishes, ∀ name ∈ names, publish.instant ≤ publish.stamp name ∧
    ((publish.stamp name - publish.instant : Int) : ℚ) < epsilon.value * 1000000 / 2
  apart : publishes.Pairwise fun publish later =>
    2 * (epsilon.value * 1000000) ≤ ((later.instant - publish.instant : Int) : ℚ)
  changes : ∀ before publish after, publishes = before ++ publish :: after →
    ∃ name ∈ names, survives name before.getLast? publish = true
  held : ∀ name ∈ names, ∀ before publish unchanged later after,
    publishes = before ++ publish :: (unchanged ++ later :: after) →
    (∀ other ∈ unchanged ++ [later], other.value name = publish.value name) →
    ((later.instant - publish.instant : Int) : ℚ) ≤ (maxHold.value - epsilon.value) * 1000000

/-- The rest is loaded as one series per name. -/
def Loads (export_ : Export Value) (names : List Text) (publishes : List (Publish Value)) : Prop :=
  ∀ name ∈ names, ∃ series, export_.series.lookup name = some series ∧
    series.samples = surviving name none publishes

/-- A column holds what was published. -/
structure Exact_ (name : Text) (publishes : List (Publish Value)) (column : Column Value) :
    Prop where
  values : column.values = publishes.map fun publish => some (publish.value name)
  held : column.held = dropped name none publishes
  missing : column.missing = 0

def Reconstructed (export_ : Export Value) (names : List Text) (epsilon maxHold : Seconds py)
    (publishes : List (Publish Value)) : Prop :=
  ∃ anchors, cycleAnchors py export_ names epsilon = .ok anchors ∧
    anchors.length = publishes.length ∧
      ∃ table, cycleTable py export_ anchors names epsilon maxHold = .ok table ∧
        ∀ name ∈ names, ∃ column, table.columns.lookup name = some column ∧
          Exact_ name publishes column

/-! ## The rows of one publish -/

section Blocks

def block (names : List Text) (before : Option (Publish Value)) (publish : Publish Value) :
    List Int :=
  names.flatMap fun name => if survives name before publish then [publish.stamp name] else []

def blocks (names : List Text) : Option (Publish Value) → List (Publish Value) → List (List Int)
  | _, [] => []
  | before, publish :: rest =>
    (block names before publish).insertionSort (· ≤ ·) :: blocks names (some publish) rest

/-- The anchors, which are the earliest stamps that are left. -/
def anchorsOf (names : List Text) (before : Option (Publish Value))
    (publishes : List (Publish Value)) : List Int :=
  (blocks names before publishes).filterMap List.head?

variable {names : List Text} {before : Option (Publish Value)} {publish : Publish Value}

theorem mem_block {stamp : Int} :
    stamp ∈ block names before publish ↔
      ∃ name ∈ names, survives name before publish = true ∧ publish.stamp name = stamp := by
  unfold block
  rw [List.mem_flatMap]
  constructor
  · rintro ⟨name, among, member⟩
    split at member
    case isTrue left => exact ⟨name, among, left, (List.mem_singleton.mp member).symm⟩
    case isFalse => cases member
  · rintro ⟨name, among, left, rfl⟩
    exact ⟨name, among, by simp [left]⟩

/-- The earliest stamp of a publish. -/
structure Anchor (names : List Text) (before : Option (Publish Value)) (publish : Publish Value)
    (anchor : Int) : Prop where
  mem : anchor ∈ block names before publish
  least : ∀ stamp ∈ block names before publish, anchor ≤ stamp

theorem exists_anchor (left : ∃ name ∈ names, survives name before publish = true) :
    ∃ anchor rest, (block names before publish).insertionSort (· ≤ ·) = anchor :: rest ∧
      Anchor names before publish anchor := by
  have sorted := List.pairwise_insertionSort (· ≤ ·) (block names before publish)
  have same : ∀ stamp, stamp ∈ (block names before publish).insertionSort (· ≤ ·) ↔
      stamp ∈ block names before publish := fun stamp => List.mem_insertionSort _
  obtain ⟨name, among, survives_⟩ := left
  have member : publish.stamp name ∈ (block names before publish).insertionSort (· ≤ ·) :=
    (same _).mpr (mem_block.mpr ⟨name, among, survives_, rfl⟩)
  cases found : (block names before publish).insertionSort (· ≤ ·) with
  | nil =>
    rw [found] at member
    cases member
  | cons anchor rest =>
    rw [found] at sorted same
    refine ⟨anchor, rest, rfl, (same anchor).mp List.mem_cons_self, ?_⟩
    intro stamp inside
    rcases List.mem_cons.mp ((same stamp).mpr inside) with rfl | later
    · exact le_rfl
    · exact (List.pairwise_cons.mp sorted).1 stamp later

theorem anchorsOf_cons {rest : List (Publish Value)}
    (left : ∃ name ∈ names, survives name before publish = true) :
    ∃ anchor, Anchor names before publish anchor ∧
      anchorsOf names before (publish :: rest) = anchor :: anchorsOf names (some publish) rest := by
  obtain ⟨anchor, others, sorted, anchors⟩ := exists_anchor left
  refine ⟨anchor, anchors, ?_⟩
  rw [anchorsOf, blocks, sorted]
  rfl

theorem flatMap_surviving_perm (publishes : List (Publish Value)) :
    (names.flatMap fun name => (surviving name before publishes).map Prod.fst).Perm
      (blocks names before publishes).flatten := by
  induction publishes generalizing before with
  | nil =>
    simp [surviving, blocks]
  | cons publish rest ih =>
    have heads :
        (names.flatMap fun name => (surviving name before (publish :: rest)).map Prod.fst) =
        names.flatMap fun name =>
          (if survives name before publish then [publish.stamp name] else []) ++
            (surviving name (some publish) rest).map Prod.fst := by
      refine congrArg (fun f => names.flatMap f) (funext fun name => ?_)
      rw [surviving, List.map_append]
      split <;> rfl
    rw [heads, blocks, List.flatten_cons]
    apply (List.flatMap_append_perm names _ _).symm.trans
    exact (List.perm_insertionSort _ _).symm.append ih

end Blocks

/-! ## Windows and gaps -/

section Windows

variable {epsilon maxHold : Seconds py} {names : List Text}

theorem lt_window (positive : 0 < py.timedelta epsilon.value) {late : Int} (after : 0 ≤ late)
    (small : (late : ℚ) < epsilon.value * 1000000 / 2) : late < py.timedelta epsilon.value := by
  obtain ⟨low, -⟩ := abs_lt.mp (py.near epsilon.value)
  by_cases wide : 2 ≤ epsilon.value * 1000000
  · have below : (late : ℚ) < py.timedelta epsilon.value := by linarith
    exact_mod_cast below
  · have one : (late : ℚ) < 1 := by linarith
    have zero : late < 1 := by exact_mod_cast one
    omega

theorem add_window_le {late apart : Int} (after : 0 ≤ late)
    (small : (late : ℚ) < epsilon.value * 1000000 / 2)
    (far_ : 2 * (epsilon.value * 1000000) ≤ (apart : ℚ)) :
    late + py.timedelta epsilon.value ≤ apart := by
  obtain ⟨-, high⟩ := abs_lt.mp (py.near epsilon.value)
  have nonneg : (0 : ℚ) ≤ late := by exact_mod_cast after
  by_cases wide : 2 ≤ epsilon.value * 1000000
  · have below : ((late + py.timedelta epsilon.value : Int) : ℚ) ≤ apart := by
      push_cast
      linarith
    exact_mod_cast below
  · have one : (late : ℚ) < 1 := by linarith
    have zero : late < 1 := by exact_mod_cast one
    have upper : ((py.timedelta epsilon.value : Int) : ℚ) < 3 := by linarith
    have upper' : py.timedelta epsilon.value < 3 := by exact_mod_cast upper
    have some_ : (0 : ℚ) < apart := by linarith
    have some_' : 0 < apart := by exact_mod_cast some_
    by_contra less
    have two : py.timedelta epsilon.value = 2 ∧ apart = 1 := by omega
    rw [two.2, Int.cast_one] at far_
    rw [two.1] at high
    norm_num at high
    linarith

theorem not_refused {late apart : Int} (small : (late : ℚ) < epsilon.value * 1000000 / 2)
    (far_ : 2 * (epsilon.value * 1000000) ≤ (apart : ℚ)) :
    ¬refused py epsilon (totalSeconds py (apart - late)) := by
  refine not_lt.mpr (py.mono ?_)
  rw [le_div_iff₀ (by norm_num)]
  push_cast
  linarith

/-- What two rows of different publishes are to each other. -/
structure RowsApart (epsilon : Seconds py) (early late : Int) : Prop where
  le : early ≤ late
  away : far (py.timedelta epsilon.value) early late
  open_ : ¬refused py epsilon (totalSeconds py (late - early))

variable {publishes : List (Publish Value)}

theorem Published.rowsApart (published : Published epsilon maxHold names publishes)
    (positive : 0 < py.timedelta epsilon.value) {publish later : Publish Value} {name other : Text}
    (among : publish ∈ publishes) (amongLater : later ∈ publishes)
    (known : name ∈ names) (knownOther : other ∈ names)
    (far_ : 2 * (epsilon.value * 1000000) ≤ ((later.instant - publish.instant : Int) : ℚ)) :
    RowsApart epsilon (publish.stamp name) (later.stamp other) := by
  obtain ⟨after, small⟩ := published.spread publish among name known
  have afterLater := (published.spread later amongLater other knownOther).1
  have longer : later.instant - publish.instant ≤ later.stamp other - publish.instant := by omega
  have longer' : ((later.instant - publish.instant : Int) : ℚ) ≤
      ((later.stamp other - publish.instant : Int) : ℚ) := by exact_mod_cast longer
  have nonneg : 0 ≤ publish.stamp name - publish.instant := by omega
  have window := add_window_le nonneg small (far_.trans longer')
  have gap : later.stamp other - publish.instant - (publish.stamp name - publish.instant) =
      later.stamp other - publish.stamp name := by omega
  constructor
  · omega
  · rw [far]
    omega
  · have open_ := not_refused small (far_.trans longer')
    rwa [gap] at open_

end Windows

/-! ## The anchors -/

section Anchors

variable {epsilon maxHold : Seconds py} {names : List Text} {publishes : List (Publish Value)}

theorem mem_blocks {before : Option (Publish Value)} {stamp : Int}
    (member : stamp ∈ (blocks names before publishes).flatten) :
    ∃ publish ∈ publishes, ∃ name ∈ names, publish.stamp name = stamp := by
  induction publishes generalizing before with
  | nil => simp [blocks] at member
  | cons publish rest ih =>
    rw [blocks, List.flatten_cons] at member
    rcases List.mem_append.mp member with here | later
    · obtain ⟨name, among, -, same⟩ := mem_block.mp ((List.mem_insertionSort _).mp here)
      exact ⟨publish, List.mem_cons_self, name, among, same⟩
    · obtain ⟨other, member, found⟩ := ih later
      exact ⟨other, List.mem_cons_of_mem publish member, found⟩

theorem Published.split_ (published : Published epsilon maxHold names publishes)
    {before rest : List (Publish Value)} {publish : Publish Value}
    (split_ : publishes = before ++ publish :: rest) :
    publish ∈ publishes ∧ (∃ name ∈ names, survives name before.getLast? publish = true) ∧
      ∀ later ∈ rest, later ∈ publishes ∧
        2 * (epsilon.value * 1000000) ≤ ((later.instant - publish.instant : Int) : ℚ) := by
  refine ⟨by simp [split_], published.changes before publish rest split_, ?_⟩
  intro later member
  refine ⟨by simp [split_, member], ?_⟩
  have apart := published.apart
  rw [split_] at apart
  exact (List.pairwise_cons.mp (List.pairwise_append.mp apart).2.1).1 later member

theorem mem_anchorsOf {before : Option (Publish Value)} {anchor : Int}
    (member : anchor ∈ anchorsOf names before publishes) :
    ∃ publish ∈ publishes, ∃ name ∈ names, publish.stamp name = anchor := by
  obtain ⟨stamps, inBlocks, head⟩ := List.mem_filterMap.mp member
  exact mem_blocks (List.mem_flatten.mpr ⟨stamps, inBlocks, List.mem_of_head? head⟩)

variable (published : Published epsilon maxHold names publishes)
  (positive : 0 < py.timedelta epsilon.value)

include published positive

theorem blocks_sorted {before rest : List (Publish Value)} (split_ : publishes = before ++ rest) :
    (blocks names before.getLast? rest).flatten.Pairwise (· ≤ ·) := by
  induction rest generalizing before with
  | nil => simp [blocks]
  | cons publish rest ih =>
    obtain ⟨among, -, later⟩ := published.split_ split_
    rw [blocks, List.flatten_cons, List.pairwise_append]
    refine ⟨List.pairwise_insertionSort _ _, ?_, ?_⟩
    · have moved := @ih (before ++ [publish]) (by simp [split_])
      rwa [List.getLast?_concat] at moved
    · intro early inBlock late inRest
      obtain ⟨name, known, -, rfl⟩ := mem_block.mp ((List.mem_insertionSort _).mp inBlock)
      obtain ⟨other, member, name', known', rfl⟩ := mem_blocks inRest
      obtain ⟨amongLater, far_⟩ := later other member
      exact (published.rowsApart positive among amongLater known known' far_).le

theorem blocks_narrow {before rest : List (Publish Value)} (split_ : publishes = before ++ rest) :
    ∀ stamps ∈ blocks names before.getLast? rest, ∃ x others, stamps = x :: others ∧
      ∀ y ∈ others, ¬far (py.timedelta epsilon.value) x y := by
  induction rest generalizing before with
  | nil => simp [blocks]
  | cons publish rest ih =>
    obtain ⟨among, left, -⟩ := published.split_ split_
    intro stamps member
    rcases List.mem_cons.mp member with rfl | later
    · obtain ⟨anchor, others, sorted, anchors⟩ := exists_anchor left
      refine ⟨anchor, others, sorted, ?_⟩
      intro y inside away
      have inBlock : y ∈ block names before.getLast? publish := by
        rw [← List.mem_insertionSort (· ≤ ·), sorted]
        exact List.mem_cons_of_mem anchor inside
      obtain ⟨name, known, -, rfl⟩ := mem_block.mp inBlock
      obtain ⟨first, knownFirst, -, same⟩ := mem_block.mp anchors.mem
      obtain ⟨after, small⟩ := published.spread publish among name known
      have late := (published.spread publish among first knownFirst).1
      have window := @lt_window _ epsilon positive _ (by omega) small
      rw [far] at away
      omega
    · have moved := @ih (before ++ [publish]) (by simp [split_])
      rw [List.getLast?_concat] at moved
      exact moved stamps later

theorem anchorsOf_apart {before rest : List (Publish Value)}
    (split_ : publishes = before ++ rest) :
    (anchorsOf names before.getLast? rest).Pairwise (RowsApart epsilon) ∧
      (anchorsOf names before.getLast? rest).length = rest.length := by
  induction rest generalizing before with
  | nil => simp [anchorsOf, blocks]
  | cons publish rest ih =>
    obtain ⟨among, left, later⟩ := published.split_ split_
    obtain ⟨anchor, anchors, cons⟩ := @anchorsOf_cons _ _ _ _ _ rest left
    have moved := @ih (before ++ [publish]) (by simp [split_])
    rw [List.getLast?_concat] at moved
    rw [cons]
    refine ⟨List.pairwise_cons.mpr ⟨?_, moved.1⟩, by simp [moved.2]⟩
    intro late inRest
    obtain ⟨other, member, name', known', rfl⟩ := mem_anchorsOf inRest
    obtain ⟨name, known, -, rfl⟩ := mem_block.mp anchors.mem
    obtain ⟨amongLater, far_⟩ := later other member
    exact published.rowsApart positive among amongLater known known' far_

theorem cycleAnchors_ok {export_ : Export Value} (loads : Loads export_ names publishes)
    (some_ : publishes ≠ []) :
    cycleAnchors py export_ names epsilon = .ok (anchorsOf names none publishes) := by
  have whole : publishes = [] ++ publishes := rfl
  have stamps : anchorStamps export_ names = (blocks names none publishes).flatten := by
    have sorted := blocks_sorted published positive whole
    apply List.Perm.eq_of_pairwise' (r := (· ≤ ·)) (anchorStamps_sorted export_ names) sorted
    apply (List.perm_insertionSort _ _).trans
    have same : (names.flatMap fun name => (export_.series.lookup name).elim []
        fun series => series.samples.map Prod.fst) =
        names.flatMap fun name => (surviving name none publishes).map Prod.fst := by
      refine List.flatMap_congr fun name known => ?_
      obtain ⟨series, found, samples⟩ := loads name known
      rw [found, Option.elim_some, samples]
    rw [same]
    exact flatMap_surviving_perm publishes
  have apart := anchorsOf_apart published positive whole
  rw [cycleAnchors_ok_iff, stamps]
  refine ⟨?_, ?_, ?_⟩
  · cases publishes with
    | nil => exact absurd rfl some_
    | cons publish rest =>
      obtain ⟨-, left, -⟩ := published.split_ whole
      obtain ⟨anchor, others, sorted, -⟩ := exists_anchor left
      have first : blocks names none (publish :: rest) =
          (anchor :: others) :: blocks names (some publish) rest := by
        rw [blocks]
        exact congrArg (· :: _) sorted
      rw [first]
      simp
  · refine (spaced_flatten ?_ ?_).symm
    · exact blocks_narrow published positive whole
    · exact (apart.1.imp fun rows => rows.away).isChain
  · intro pair member
    exact (isChain_iff_steps.mp apart.1.isChain pair member).open_

end Anchors

/-! ## The cells of a column -/

section Cells

omit [DecidableEq Value]

theorem bisectLeft_append {early late : List Int} {bound : Int} (below : ∀ s ∈ early, s < bound)
    (above : ∀ s ∈ late, bound ≤ s) : bisectLeft (early ++ late) bound = early.length := by
  have first : (late.takeWhile fun other => decide (other < bound)) = [] := by
    cases late with
    | nil => rfl
    | cons stamp rest =>
      have here := above stamp List.mem_cons_self
      simp [here]
  unfold bisectLeft
  rw [List.takeWhile_append_of_pos fun stamp member => decide_eq_true (below stamp member), first,
    List.append_nil]

theorem sampleBefore_append {early late : List (Int × Value)} {sample : Int × Value} {bound : Int}
    (below : ∀ s ∈ early ++ [sample], s.1 < bound) (above : ∀ s ∈ late, bound ≤ s.1) :
    sampleBefore ((early ++ [sample]) ++ late) bound = some sample := by
  have index : bisectLeft (((early ++ [sample]) ++ late).map Prod.fst) bound =
      early.length + 1 := by
    rw [List.map_append, bisectLeft_append]
    · simp
    · intro stamp member
      obtain ⟨s, among, rfl⟩ := List.mem_map.mp member
      exact below s among
    · intro stamp member
      obtain ⟨s, among, rfl⟩ := List.mem_map.mp member
      exact above s among
  unfold sampleBefore
  rw [index]
  simp

theorem addCell_sampled {window : Int} {maxHold : Seconds py} {samples : List (Int × Value)}
    {column : Column Value} {anchor : Int} {sample : Int × Value}
    (found : sampleBefore samples (anchor + window) = some sample) (inside : anchor ≤ sample.1) :
    addCell py window maxHold samples column anchor =
      { column with
        values := column.values ++ [some sample.2], sampled := column.sampled + 1 } := by
  have hit : (some sample).filter (fun s => decide (anchor ≤ s.1)) = some sample := by
    simp [inside]
  unfold addCell
  rw [found, hit]

theorem addCell_held {window : Int} {maxHold : Seconds py} {samples : List (Int × Value)}
    {column : Column Value} {anchor : Int} {sample : Int × Value}
    (found : sampleBefore samples (anchor + window) = some sample) (outside : sample.1 < anchor)
    (before : sampleBefore samples anchor = some sample)
    (fresh : totalSeconds py (anchor - sample.1) ≤ maxHold.value) :
    addCell py window maxHold samples column anchor =
      { column with values := column.values ++ [some sample.2], held := column.held + 1 } := by
  have miss : (some sample).filter (fun s => decide (anchor ≤ s.1)) = none := by
    simp [outside]
  have hit : (some sample).filter (fun s =>
      decide (totalSeconds py (anchor - s.1) ≤ maxHold.value)) = some sample := by
    simp [fresh]
  unfold addCell
  rw [found, miss, before, hit]

end Cells

section Columns

variable {epsilon maxHold : Seconds py} {names : List Text} {publishes : List (Publish Value)}
  {name : Text}

theorem surviving_concat (before : Option (Publish Value)) (early : List (Publish Value))
    (publish : Publish Value) (late : List (Publish Value)) :
    surviving name before (early ++ publish :: late) =
      surviving name before early ++
        ((if survives name (early.getLast?.or before) publish then [row name publish] else []) ++
          surviving name (some publish) late) := by
  induction early generalizing before with
  | nil => rfl
  | cons first rest ih =>
    rw [List.cons_append, surviving, ih, surviving, List.append_assoc]
    have last : (first :: rest).getLast?.or before = rest.getLast?.or (some first) := by
      cases rest with
      | nil => rfl
      | cons second more => simp [List.getLast?_cons]
    rw [last]

/-- The last publish whose row of a name is left, and those after it. -/
structure LastLeft (name : Text) (publishes : List (Publish Value)) (init : List (Publish Value))
    (left : Publish Value) (unchanged : List (Publish Value)) : Prop where
  split_ : publishes = init ++ left :: unchanged
  same : ∀ other ∈ unchanged, other.value name = left.value name
  rows : ∃ early, surviving name none publishes = early ++ [row name left]

/-- A publish whose row is dropped repeats the value of the last row that is left. -/
theorem LastLeft.value_eq {init unchanged : List (Publish Value)} {left publish : Publish Value}
    (last : LastLeft name publishes init left unchanged)
    (drops : ¬survives name publishes.getLast? publish = true) :
    publish.value name = left.value name := by
  have repeats : ∀ latest : Publish Value, publishes.getLast? = some latest →
      publish.value name = latest.value name := by
    intro latest isLast
    rw [isLast] at drops
    exact (not_not.mp fun other => drops (survives_some.mpr other)).symm
  have split_ := last.split_
  rcases List.eq_nil_or_concat unchanged with rfl | ⟨others, latest, rfl⟩
  · exact repeats left (by simp [split_])
  · rw [← last.same latest (by simp)]
    apply repeats latest
    rw [split_, List.concat_eq_append, ← List.cons_append, ← List.append_assoc,
      List.getLast?_concat]

theorem exists_lastLeft (publishes : List (Publish Value)) (some_ : publishes ≠ []) :
    ∃ init left unchanged, LastLeft name publishes init left unchanged := by
  induction publishes using List.reverseRecOn with
  | nil => exact absurd rfl some_
  | append_singleton early publish ih =>
    have rows := @surviving_concat _ _ name none early publish []
    rw [Option.or_none, surviving, List.append_nil] at rows
    by_cases left : survives name early.getLast? publish = true
    · rw [if_pos left] at rows
      exact ⟨early, publish, [], rfl, by simp, surviving name none early, rows⟩
    · rw [if_neg left, List.append_nil] at rows
      have before : early ≠ [] := by
        rintro rfl
        exact left rfl
      obtain ⟨init, last, unchanged, found⟩ := ih before
      obtain ⟨first, earlier⟩ := found.rows
      refine ⟨init, last, unchanged ++ [publish], by simp [found.split_], ?_, first,
        rows.trans earlier⟩
      intro other member
      rcases List.mem_append.mp member with member | member
      · exact found.same other member
      · rw [List.mem_singleton.mp member]
        exact found.value_eq left

theorem mem_surviving {before : Option (Publish Value)} {sample : Int × Value}
    (member : sample ∈ surviving name before publishes) :
    ∃ publish ∈ publishes, row name publish = sample := by
  induction publishes generalizing before with
  | nil => cases member
  | cons publish rest ih =>
    rcases List.mem_append.mp member with here | later
    · split at here
      · exact ⟨publish, List.mem_cons_self, (List.mem_singleton.mp here).symm⟩
      · cases here
    · obtain ⟨other, among, found⟩ := ih later
      exact ⟨other, List.mem_cons_of_mem publish among, found⟩

variable (published : Published epsilon maxHold names publishes)
  (positive : 0 < py.timedelta epsilon.value) (known : name ∈ names)

include published positive known

theorem rows_around {before rest : List (Publish Value)} {publish : Publish Value} {anchor : Int}
    (split_ : publishes = before ++ publish :: rest)
    (anchors : Anchor names before.getLast? publish anchor) :
    (∀ s ∈ surviving name none before, s.1 < anchor) ∧
      publish.stamp name < anchor + py.timedelta epsilon.value ∧
        ∀ s ∈ surviving name (some publish) rest, anchor + py.timedelta epsilon.value ≤ s.1 := by
  obtain ⟨among, -, later⟩ := published.split_ split_
  obtain ⟨first, knownFirst, -, rfl⟩ := mem_block.mp anchors.mem
  refine ⟨?_, ?_, ?_⟩
  · intro s member
    obtain ⟨early, inBefore, rfl⟩ := mem_surviving member
    have apart := published.apart
    rw [split_] at apart
    have far_ := (List.pairwise_append.mp apart).2.2 early inBefore publish List.mem_cons_self
    have inside : early ∈ publishes := by simp [split_, inBefore]
    have away := (published.rowsApart positive inside among known knownFirst far_).away
    rw [far] at away
    show early.stamp name < _
    omega
  · obtain ⟨after, small⟩ := published.spread publish among name known
    have late := (published.spread publish among first knownFirst).1
    have window := @lt_window _ epsilon positive _ (by omega) small
    omega
  · intro s member
    obtain ⟨late, inRest, rfl⟩ := mem_surviving member
    obtain ⟨amongLater, far_⟩ := later late inRest
    have away := (published.rowsApart positive among amongLater knownFirst known far_).away
    rw [far] at away
    show _ ≤ late.stamp name
    omega

omit positive in
theorem held_fresh {before rest : List (Publish Value)} {publish : Publish Value} {anchor : Int}
    (split_ : publishes = before ++ publish :: rest)
    (anchors : Anchor names before.getLast? publish anchor)
    {init unchanged : List (Publish Value)} {left : Publish Value}
    (last : LastLeft name before init left unchanged)
    (drops : ¬survives name before.getLast? publish = true) :
    totalSeconds py (anchor - left.stamp name) ≤ maxHold.value := by
  obtain ⟨among, -, -⟩ := published.split_ split_
  obtain ⟨first, knownFirst, -, rfl⟩ := mem_block.mp anchors.mem
  have inside : left ∈ publishes := by simp [split_, last.split_]
  have held := published.held name known init left unchanged publish rest
    (by simp [split_, last.split_]) (by
      intro other member
      rcases List.mem_append.mp member with member | member
      · exact last.same other member
      · rw [List.mem_singleton.mp member]
        exact last.value_eq drops)
  obtain ⟨after, small⟩ := published.spread publish among first knownFirst
  have early := (published.spread left inside name known).1
  have nonneg : (0 : ℚ) ≤ ((publish.stamp first - publish.instant : Int) : ℚ) := by
    exact_mod_cast Int.sub_nonneg_of_le after
  have early' : (left.instant : ℚ) ≤ left.stamp name := by exact_mod_cast early
  have within : ((publish.stamp first - left.stamp name : Int) : ℚ) / 1000000 ≤ maxHold.value := by
    rw [div_le_iff₀ (by norm_num)]
    push_cast at small held nonneg ⊢
    linarith
  calc totalSeconds py (publish.stamp first - left.stamp name) ≤ py.round maxHold.value :=
      py.mono within
    _ = maxHold.value := maxHold.exact_

theorem addCell_publish {before rest : List (Publish Value)} {publish : Publish Value}
    {anchor : Int} (split_ : publishes = before ++ publish :: rest)
    (anchors : Anchor names before.getLast? publish anchor) (column : Column Value) :
    ∃ sampled, addCell py (py.timedelta epsilon.value) maxHold (surviving name none publishes)
        column anchor =
      { column with
        values := column.values ++ [some (publish.value name)]
        sampled := sampled
        held := column.held + if survives name before.getLast? publish then 0 else 1 } := by
  obtain ⟨earlier, here, behind⟩ := rows_around published positive known split_ anchors
  have samples := @surviving_concat _ _ name none before publish rest
  rw [← split_, Option.or_none] at samples
  by_cases left : survives name before.getLast? publish = true
  · rw [if_pos left, ← List.append_assoc] at samples
    have found : sampleBefore (surviving name none publishes)
        (anchor + py.timedelta epsilon.value) = some (row name publish) := by
      rw [samples]
      refine sampleBefore_append ?_ behind
      intro s member
      rcases List.mem_append.mp member with member | member
      · have before_ := earlier s member
        omega
      · rw [List.mem_singleton.mp member]
        exact here
    have inside : anchor ≤ (row name publish).1 :=
      anchors.least _ (mem_block.mpr ⟨name, known, left, rfl⟩)
    refine ⟨column.sampled + 1, ?_⟩
    rw [addCell_sampled found inside, if_pos left]
    rfl
  · rw [if_neg left, List.nil_append] at samples
    have some_ : before ≠ [] := by
      rintro rfl
      exact left rfl
    obtain ⟨init, last, unchanged, found⟩ := @exists_lastLeft _ _ name before some_
    obtain ⟨early, rows⟩ := found.rows
    rw [rows] at samples earlier
    have sees : ∀ bound, anchor ≤ bound → bound ≤ anchor + py.timedelta epsilon.value →
        sampleBefore (surviving name none publishes) bound = some (row name last) := by
      intro bound low high
      rw [samples]
      apply sampleBefore_append
      · intro s member
        exact lt_of_lt_of_le (earlier s member) low
      · intro s member
        exact high.trans (behind s member)
    have outside : (row name last).1 < anchor := earlier _ (by simp)
    have fresh : totalSeconds py (anchor - (row name last).1) ≤ maxHold.value :=
      held_fresh published known split_ anchors found left
    refine ⟨column.sampled, ?_⟩
    rw [addCell_held (sees _ (by omega) le_rfl) outside (sees anchor le_rfl (by omega)) fresh,
      if_neg left, found.value_eq left]
    rfl

theorem foldl_addCell {before rest : List (Publish Value)} (split_ : publishes = before ++ rest)
    (column : Column Value) :
    ∃ sampled, (anchorsOf names before.getLast? rest).foldl
        (addCell py (py.timedelta epsilon.value) maxHold (surviving name none publishes)) column =
      { column with
        values := column.values ++ rest.map fun publish => some (publish.value name)
        sampled := sampled
        held := column.held + dropped name before.getLast? rest } := by
  induction rest generalizing before column with
  | nil => exact ⟨column.sampled, by simp [anchorsOf, blocks, dropped]⟩
  | cons publish rest ih =>
    obtain ⟨-, left, -⟩ := published.split_ split_
    obtain ⟨anchor, anchors, cons⟩ := @anchorsOf_cons _ _ _ _ _ rest left
    obtain ⟨sampled, turn⟩ := addCell_publish published positive known split_ anchors column
    have moved := @ih (before ++ [publish]) (by simp [split_])
    rw [List.getLast?_concat] at moved
    obtain ⟨sampled', others⟩ := moved
      { column with
        values := column.values ++ [some (publish.value name)]
        sampled := sampled
        held := column.held + if survives name before.getLast? publish then 0 else 1 }
    refine ⟨sampled', ?_⟩
    rw [cons, List.foldl_cons, turn, others, dropped]
    simp [Nat.add_assoc]

end Columns

section Table

variable {epsilon maxHold : Seconds py} {names : List Text} {publishes : List (Publish Value)}

omit [DecidableEq Value] in
theorem cycleColumns_ok {export_ : Export Value} {window : Int} {anchors : List Int}
    (samples : Text → List (Int × Value))
    (found : ∀ name ∈ names, ∃ series, export_.series.lookup name = some series ∧
      series.samples = samples name) (columns : List (Text × Column Value)) :
    ∃ result, cycleColumns py window maxHold export_ anchors names columns = .ok result ∧
      ∀ name, result.lookup name = if name ∈ names then
        some (anchors.foldl (addCell py window maxHold (samples name))
          { name := name, values := [], sampled := 0, held := 0, missing := 0 })
      else columns.lookup name := by
  induction names generalizing columns with
  | nil => exact ⟨columns, rfl, by simp⟩
  | cons name rest ih =>
    obtain ⟨series, here, same⟩ := found name List.mem_cons_self
    have served : seriesFor export_ name = some series := by
      unfold seriesFor
      rw [here]
    obtain ⟨result, built, content⟩ := ih (fun other member =>
      found other (List.mem_cons_of_mem name member))
      (Dict.set name (anchors.foldl (addCell py window maxHold (samples name))
        { name := name, values := [], sampled := 0, held := 0, missing := 0 }) columns)
    refine ⟨result, ?_, ?_⟩
    · rw [cycleColumns, served]
      dsimp only
      rw [same]
      exact built
    · intro other
      rw [content, Dict.lookup_set]
      by_cases inRest : other ∈ rest
      · simp [inRest]
      · by_cases equal : other = name
        · subst equal
          simp [inRest]
        · simp [inRest, equal]

/-- Every de-duplicated history of at least one publish is reconstructed, if
epsilon is more than no microseconds. -/
theorem history_reconstructed (export_ : Export Value) (names : List Text)
    (epsilon maxHold : Seconds py) (publishes : List (Publish Value))
    (published : Published epsilon maxHold names publishes)
    (loads : Loads export_ names publishes) (some_ : publishes ≠ [])
    (positive : 0 < py.timedelta epsilon.value) :
    Reconstructed export_ names epsilon maxHold publishes := by
  have whole : publishes = [] ++ publishes := rfl
  refine ⟨anchorsOf names none publishes, cycleAnchors_ok published positive loads some_,
    (anchorsOf_apart published positive whole).2, ?_⟩
  obtain ⟨columns, built, content⟩ := @cycleColumns_ok _ py maxHold names export_
    (py.timedelta epsilon.value) (anchorsOf names none publishes)
    (fun name => surviving name none publishes) loads []
  refine ⟨{ anchors := anchorsOf names none publishes, columns := columns, epsilon := epsilon
            maxHold := maxHold }, ?_, ?_⟩
  · unfold cycleTable
    rw [built]
  · intro name known
    obtain ⟨sampled, column⟩ := foldl_addCell published positive known whole
      { name := name, values := [], sampled := 0, held := 0, missing := 0 }
    refine ⟨_, (content name).trans (if_pos known), ?_⟩
    rw [List.getLast?_nil] at column
    rw [column]
    exact ⟨List.nil_append _, Nat.zero_add _, rfl⟩

end Table

/-! ## A repeated value, and two rows that become two anchors -/

def twoNames : List Text := [['a'], ['b']]

def publishAt (instant late a b : Int) : Publish Int :=
  { instant := instant
    stamp := fun name => if name = ['a'] then instant + late else instant
    value := fun name => if name = ['a'] then a else b }

def kept (publishes : List (Publish Int)) : Export Int :=
  { devicePrefix := []
    series := twoNames.map fun name => (name,
      { name := name, entityId := name, samples := surviving name none publishes
        blackouts := [], boundaryStamps := 2, nonNumeric := 0 })
    start := 0
    end_ := 20000000 }

theorem loads_kept (publishes : List (Publish Int)) :
    Loads (kept publishes) twoNames publishes := by
  intro name known
  rcases List.mem_pair.mp known with rfl | rfl
  · exact ⟨_, rfl, rfl⟩
  · exact ⟨_, rfl, rfl⟩

def exactly (seconds : ℚ) : Seconds exactPy := { value := seconds, exact_ := rfl }

/-- The value of `b` does not change. -/
def twoPublishes : List (Publish Int) := [publishAt 0 3000 1 5, publishAt 20000000 3000 2 5]

theorem published_twoPublishes : Published (exactly 5) (exactly 900) twoNames twoPublishes where
  spread := by decide +kernel
  apart := by decide +kernel
  changes := by
    rintro (_ | ⟨first, _ | ⟨second, before⟩⟩) publish after split_
    · cases split_
      exact ⟨['a'], by decide, rfl⟩
    · cases split_
      exact ⟨['a'], by decide, by decide⟩
    · simp [twoPublishes] at split_
  held := by
    rintro name - before publish unchanged later after split_ -
    have count := congrArg List.length split_
    simp only [twoPublishes, List.length_append, List.length_cons, List.length_nil] at count
    obtain rfl : before = [] := List.eq_nil_of_length_eq_zero (by omega)
    obtain rfl : unchanged = [] := List.eq_nil_of_length_eq_zero (by omega)
    cases split_
    decide +kernel

theorem history_reconstructed_twoPublishes :
    Reconstructed (kept twoPublishes) twoNames (exactly 5) (exactly 900) twoPublishes :=
  history_reconstructed (kept twoPublishes) twoNames (exactly 5) (exactly 900) twoPublishes
    published_twoPublishes (loads_kept twoPublishes) (by simp [twoPublishes]) (by decide +kernel)

/-- An epsilon of 2^-24 s is no microseconds as a `timedelta`. -/
def tiny : Seconds exactPy := exactly (1 / 16777216)

theorem published_none :
    Published (exactly 5) (exactly 900) twoNames ([] : List (Publish Int)) where
  spread := by simp
  apart := List.Pairwise.nil
  changes := by simp
  held := by simp

theorem published_together : Published tiny (exactly 900) twoNames [publishAt 0 0 1 5] where
  spread := by decide +kernel
  apart := List.pairwise_singleton _ _
  changes := by
    rintro (_ | ⟨first, before⟩) publish after split_
    · cases split_
      exact ⟨['a'], by decide, rfl⟩
    · simp at split_
  held := by
    rintro name - before publish unchanged later after split_ -
    have count := congrArg List.length split_
    simp only [List.length_append, List.length_cons, List.length_nil] at count
    omega

/-- Without publishes there are no samples, and below the resolution of the
clock a publish has an anchor for each of its rows. -/
theorem history_refused :
    (Published (exactly 5) (exactly 900) twoNames ([] : List (Publish Int)) ∧
      Loads (kept []) twoNames [] ∧
      ¬Reconstructed (kept []) twoNames (exactly 5) (exactly 900) []) ∧
    (Published tiny (exactly 900) twoNames [publishAt 0 0 1 5] ∧
      Loads (kept [publishAt 0 0 1 5]) twoNames [publishAt 0 0 1 5] ∧
      ¬Reconstructed (kept [publishAt 0 0 1 5]) twoNames tiny (exactly 900)
        [publishAt 0 0 1 5]) := by
  refine ⟨⟨published_none, loads_kept _, ?_⟩, published_together, loads_kept _, ?_⟩
  · rintro ⟨anchors, found, -⟩
    exact ((cycleAnchors_ok_iff _ _ _ _).mp found).1 rfl
  · rintro ⟨anchors, found, -⟩
    obtain ⟨-, rfl, apart⟩ := (cycleAnchors_ok_iff _ _ _ _).mp found
    exact absurd apart (by decide +kernel)

end SleepySensor.Reconstruction
