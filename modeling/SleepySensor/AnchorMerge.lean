import Mathlib.Tactic.Linarith
import Mathlib.Tactic.NormNum
import SleepySensor.HaHistory

/-!
# One anchor per publish

When `cycle_anchors` keeps the publishes of a schedule apart or refuses the
export, and when it merges two of them and says nothing.
-/

set_option autoImplicit false

namespace SleepySensor.AnchorMerge

open SleepySensor.HaHistory SleepySensor.Spaced

variable {Value : Type} {py : PyFloat}

/-- The surviving rows of the anchor names, by publish. -/
structure Schedule (epsilon : Seconds py) (stamps : List Int) (publishes : List (List Int)) :
    Prop where
  rows : stamps.Perm publishes.flatten
  survives : ∀ publish ∈ publishes, publish ≠ []
  spread : ∀ publish ∈ publishes, ∀ a ∈ publish, ∀ b ∈ publish,
    ((b - a : Int) : ℚ) < epsilon.value * 1000000

/-- `cycle_anchors` raises `AnchorError` or returns one anchor per publish. -/
def OnePerPublish (export_ : Export Value) (names : List Text) (epsilon : Seconds py)
    (publishes : List (List Int)) : Prop :=
  (∃ error, cycleAnchors py export_ names epsilon = .error error) ∨
    ∃ anchors, cycleAnchors py export_ names epsilon = .ok anchors ∧
      anchors.length = publishes.length

/-- The first rows of different publishes lie at least a window apart. -/
def Apart (window : Int) (publishes : List (List Int)) : Prop :=
  (publishes.filterMap List.min?).Pairwise fun a b => window ≤ |b - a|

def Swallows (window : Int) (stamps : List Int) (publishes : List (List Int)) : Prop :=
  ¬(publishes.filterMap List.min?).Subperm (stamps.foldl (clusterStep window) [])

/-- The rows in order, cut into runs shorter than a window whose first rows lie one
and a half epsilons apart. -/
structure Bursts (epsilon : Seconds py) (stamps : List Int) (bursts : List (List Int)) : Prop where
  rows : bursts.flatten = stamps
  narrow : ∀ burst ∈ bursts, ∃ first rest, burst = first :: rest ∧
    ∀ row ∈ rest, ¬far (py.timedelta epsilon.value) first row
  clear : ∀ pair ∈ steps (bursts.filterMap List.head?),
    ¬refused py epsilon (totalSeconds py (pair.2 - pair.1))

section Publishes

variable {epsilon : Seconds py} {stamps : List Int} {publishes : List (List Int)}

theorem refused_of_spread {a b : Int} (positive : 0 < epsilon.value)
    (near : ((b - a : Int) : ℚ) < epsilon.value * 1000000) :
    refused py epsilon (totalSeconds py (b - a)) := by
  have seconds : ((b - a : Int) : ℚ) / 1000000 ≤ epsilon.value := by
    rw [div_le_iff₀ (by norm_num)]
    exact near.le
  calc totalSeconds py (b - a) ≤ py.round epsilon.value := py.mono seconds
    _ = epsilon.value := epsilon.exact_
    _ < py.round (epsilon.value * (3 / 2)) := py.more epsilon.value positive epsilon.exact_

theorem Schedule.exists_row (schedule : Schedule epsilon stamps publishes)
    (some_ : 0 < publishes.length) : ∃ stamp, stamp ∈ stamps := by
  obtain ⟨publish, among⟩ := List.exists_mem_of_length_pos some_
  obtain ⟨stamp, inside⟩ := List.exists_mem_of_ne_nil publish (schedule.survives publish among)
  exact ⟨stamp, schedule.rows.mem_iff.mpr (List.mem_flatten.mpr ⟨publish, among, inside⟩)⟩

theorem Schedule.positive (schedule : Schedule epsilon stamps publishes) {stamp : Int}
    (member : stamp ∈ stamps) : 0 < epsilon.value := by
  obtain ⟨publish, among, inside⟩ := List.mem_flatten.mp (schedule.rows.mem_iff.mp member)
  have wide := schedule.spread publish among stamp inside stamp inside
  simp only [sub_self, Int.cast_zero] at wide
  linarith

theorem Schedule.length_le (schedule : Schedule epsilon stamps publishes)
    (sorted : stamps.Pairwise (· ≤ ·)) {anchors : List Int} (within : anchors.Sublist stamps)
    (apart : ∀ pair ∈ steps anchors, ¬refused py epsilon (totalSeconds py (pair.2 - pair.1))) :
    anchors.length ≤ publishes.length := by
  let clear (a b : Int) : Prop := a ≤ b ∧ ¬refused py epsilon (totalSeconds py (b - a))
  have transitive : ∀ a b c : Int, clear a b → clear b c → clear a c := by
    rintro a b c ⟨first, open_⟩ ⟨second, -⟩
    refine ⟨first.trans second, fun close => open_ (lt_of_le_of_lt (py.mono ?_) close)⟩
    have longer : (b - a : Int) ≤ c - a := by omega
    have longer' : ((b - a : Int) : ℚ) ≤ ((c - a : Int) : ℚ) := by exact_mod_cast longer
    exact div_le_div_of_nonneg_right longer' (by norm_num)
  have neighbours : anchors.IsChain clear := by
    rw [isChain_iff_steps]
    intro pair member
    have ordered : anchors.IsChain (· ≤ ·) := (sorted.sublist within).isChain
    exact ⟨isChain_iff_steps.mp ordered pair member, apart pair member⟩
  have pairwise : anchors.Pairwise clear :=
    @List.IsChain.pairwise _ clear _ ⟨fun {a b c} => transitive a b c⟩ neighbours
  apply @length_le_of_cover _ _ (fun publish stamp => stamp ∈ publish) _ _
  · intro anchor member
    exact List.mem_flatten.mp (schedule.rows.mem_iff.mp (within.subset member))
  · apply pairwise.imp_of_mem
    rintro a b inA - ⟨-, open_⟩ publish among first second
    have positive := schedule.positive (within.subset inA)
    exact open_ (refused_of_spread positive (schedule.spread publish among a first b second))

theorem firsts_sublist_flatten (publishes : List (List Int)) :
    (publishes.filterMap List.min?).Sublist publishes.flatten := by
  induction publishes with
  | nil => exact List.Sublist.refl _
  | cons publish rest ih =>
    rw [List.flatten_cons]
    cases least : publish.min? with
    | none =>
      rw [List.filterMap_cons_none least]
      exact ih.trans (List.sublist_append_right publish _)
    | some first =>
      rw [List.filterMap_cons_some least]
      have inside : first ∈ publish := (List.min?_eq_some_iff.mp least).1
      exact (List.singleton_sublist.mpr inside).append ih

theorem Schedule.length_firsts (schedule : Schedule epsilon stamps publishes) :
    (publishes.filterMap List.min?).length = publishes.length := by
  rw [List.length_filterMap_eq_countP, List.countP_eq_length]
  intro publish among
  cases least : publish.min? with
  | none => exact absurd (List.min?_eq_none_iff.mp least) (schedule.survives publish among)
  | some first => rfl

/-- First rows that lie apart are picks, each a window after the one before. -/
theorem Schedule.length_le_spaced (schedule : Schedule epsilon stamps publishes)
    (sorted : stamps.Pairwise (· ≤ ·)) {window : Int} (apart : Apart window publishes) :
    publishes.length ≤ (spaced (far window) none stamps).length := by
  let firsts := publishes.filterMap List.min?
  have same : (firsts.insertionSort (· ≤ ·)).Perm firsts := List.perm_insertionSort _ _
  have ordered : (firsts.insertionSort (· ≤ ·)).Pairwise (· ≤ ·) := List.pairwise_insertionSort _ _
  have within : (firsts.insertionSort (· ≤ ·)).Sublist stamps :=
    List.sublist_of_subperm_of_pairwise
      (same.subperm.trans ((firsts_sublist_flatten publishes).subperm.trans
        schedule.rows.symm.subperm)) ordered sorted
  have distant : (firsts.insertionSort (· ≤ ·)).Pairwise fun a b => window ≤ |b - a| :=
    (same.pairwise_iff fun {a b} le => by rwa [abs_sub_comm]).mpr apart
  have chain : (firsts.insertionSort (· ≤ ·)).IsChain (far window) := by
    apply List.Pairwise.isChain
    refine (ordered.and distant).imp fun {a b} both => ?_
    rw [far, ← abs_of_nonneg (sub_nonneg.mpr both.1)]
    exact both.2
  calc publishes.length = (firsts.insertionSort (· ≤ ·)).length := by
        rw [same.length_eq, schedule.length_firsts]
    _ ≤ (spaced (far window) none stamps).length :=
        Spaced.length_le_spaced (widens_far window) sorted within chain (by simp)

theorem swallows_of_near (sorted : stamps.Pairwise (· ≤ ·)) {window : Int}
    (near : ¬Apart window publishes) : Swallows window stamps publishes := by
  rw [Swallows, foldl_clusterStep, List.nil_append, List.getLast?_nil]
  rintro ⟨starts, same, within⟩
  have chain : (spaced (far window) none stamps).IsChain (far window) := spaced_isChain none stamps
  have ordered : (spaced (far window) none stamps).IsChain (· ≤ ·) :=
    (sorted.sublist (spaced_sublist none stamps)).isChain
  have both : (spaced (far window) none stamps).IsChain fun a b => a ≤ b ∧ far window a b := by
    rw [isChain_iff_steps] at chain ordered ⊢
    exact fun pair member => ⟨ordered pair member, chain pair member⟩
  have pairwise := @List.IsChain.pairwise _ _ _
    ⟨fun {a b c} first second => ⟨first.1.trans second.1,
      widens_far window a b c first.1 second.2⟩⟩ both
  refine near ((same.pairwise_iff fun {a b} le => by rwa [abs_sub_comm]).mp ?_)
  refine (pairwise.sublist within).imp fun {a b} apart => ?_
  exact apart.2.trans (le_abs_self _)

theorem far_of_clear {a b : Int} (positive : 0 < epsilon.value)
    (clear : ¬refused py epsilon (totalSeconds py (b - a))) :
    far (py.timedelta epsilon.value) a b := by
  have wide : epsilon.value * 1000000 ≤ ((b - a : Int) : ℚ) :=
    not_lt.mp fun near => clear (refused_of_spread positive near)
  have near := (abs_lt.mp (py.near epsilon.value)).2
  have below : (py.timedelta epsilon.value : ℚ) < ((b - a + 1 : Int) : ℚ) := by
    push_cast at wide ⊢
    linarith
  have below' : py.timedelta epsilon.value < b - a + 1 := by exact_mod_cast below
  exact Int.lt_add_one_iff.mp below'

end Publishes

/-- Publishes are merged without a word exactly where the rows are cut into fewer
bursts than there are publishes. -/
theorem merged_iff (export_ : Export Value) (names : List Text) (epsilon : Seconds py)
    (publishes : List (List Int))
    (schedule : Schedule epsilon (anchorStamps export_ names) publishes) :
    ¬OnePerPublish export_ names epsilon publishes ↔
      ∃ bursts, Bursts epsilon (anchorStamps export_ names) bursts ∧
        bursts.length < publishes.length := by
  have sorted := anchorStamps_sorted export_ names
  have decided := cycleAnchors_ok_iff export_ names epsilon
  have counted : ∀ bursts : List (List Int), Bursts epsilon (anchorStamps export_ names) bursts →
      (bursts.filterMap List.head?).length = bursts.length := by
    intro bursts cut
    rw [List.length_filterMap_eq_countP, List.countP_eq_length]
    intro burst among
    obtain ⟨first, rest, rfl, -⟩ := cut.narrow burst among
    rfl
  constructor
  · intro merged
    cases result : cycleAnchors py export_ names epsilon with
    | error error => exact absurd (.inl ⟨error, result⟩) merged
    | ok anchors =>
      obtain ⟨some_, taken, clear⟩ := (decided anchors).mp result
      have least := schedule.length_le sorted
        (taken ▸ spaced_sublist none (anchorStamps export_ names)) clear
      have other : anchors.length ≠ publishes.length := fun same =>
        merged (.inr ⟨anchors, result, same⟩)
      obtain ⟨near, bursts, whole, -, first, narrow, heads⟩ :=
        @exists_blocks _ (far (py.timedelta epsilon.value)) _ none (anchorStamps export_ names)
      have cut : Bursts epsilon (anchorStamps export_ names) bursts := by
        refine ⟨?_, narrow, ?_⟩
        · rw [← whole, first rfl, List.nil_append]
        · rw [heads, ← taken]
          exact clear
      refine ⟨bursts, cut, ?_⟩
      rw [← counted bursts cut, heads, ← taken]
      omega
  · rintro ⟨bursts, cut, fewer⟩ one
    obtain ⟨stamp, member⟩ := schedule.exists_row (Nat.zero_lt_of_lt fewer)
    have positive := schedule.positive member
    have some_ := List.ne_nil_of_mem member
    have heads : spaced (far (py.timedelta epsilon.value)) none (anchorStamps export_ names) =
        bursts.filterMap List.head? := by
      rw [← cut.rows]
      refine spaced_flatten cut.narrow (isChain_iff_steps.mpr fun pair among => ?_)
      exact far_of_clear positive (cut.clear pair among)
    have result := (decided (bursts.filterMap List.head?)).mpr ⟨some_, heads.symm, cut.clear⟩
    rcases one with ⟨error, raised⟩ | ⟨anchors, found, same⟩
    · rw [result] at raised
      cases raised
    · rw [result] at found
      cases found
      rw [counted bursts cut] at same
      omega

/-- Publishes whose first rows lie at least a window apart are not merged without
a word.  Of any others the first row of one is swallowed by a window, and only the
rows elsewhere decide whether that is noticed. -/
theorem onePerPublish_of_apart (export_ : Export Value) (names : List Text) (epsilon : Seconds py)
    (publishes : List (List Int))
    (schedule : Schedule epsilon (anchorStamps export_ names) publishes) :
    (Apart (py.timedelta epsilon.value) publishes →
        OnePerPublish export_ names epsilon publishes) ∧
      (¬Apart (py.timedelta epsilon.value) publishes →
        Swallows (py.timedelta epsilon.value) (anchorStamps export_ names) publishes) := by
  have sorted := anchorStamps_sorted export_ names
  refine ⟨fun apart => ?_, swallows_of_near sorted⟩
  cases result : cycleAnchors py export_ names epsilon with
  | error error => exact .inl ⟨error, result⟩
  | ok anchors =>
    obtain ⟨-, taken, clear⟩ := (cycleAnchors_ok_iff export_ names epsilon anchors).mp result
    refine .inr ⟨anchors, result, Nat.le_antisymm ?_ ?_⟩
    · exact schedule.length_le sorted
        (taken ▸ spaced_sublist none (anchorStamps export_ names)) clear
    · rw [taken]
      exact schedule.length_le_spaced sorted apart

/-! ## A publish 2 s after another one -/

def rowsAt (stamps : List Int) : Export Int :=
  { devicePrefix := []
    series := [(['v'],
      { name := ['v'], entityId := ['v'], samples := stamps.map fun stamp => (stamp, stamp)
        blackouts := [], boundaryStamps := 2, nonNumeric := 0 })]
    start := stamps.headD 0
    end_ := stamps.getLastD 0 }

/-- `CYCLE_EPSILON_S` of the exact arithmetic. -/
def fiveSeconds : Seconds exactPy := { value := 5, exact_ := rfl }

theorem onePerPublish_twoPublishes :
    OnePerPublish (rowsAt [0, 4000, 20000000]) [['v']] fiveSeconds [[4000, 0], [20000000]] := by
  refine (onePerPublish_of_apart (rowsAt [0, 4000, 20000000]) [['v']] fiveSeconds
    [[4000, 0], [20000000]] ⟨by decide, by simp, by decide +kernel⟩).1 ?_
  unfold Apart
  decide +kernel

theorem retry_merged :
    ¬∀ (py : PyFloat) (export_ : Export Int) (names : List Text) (epsilon : Seconds py)
      (publishes : List (List Int)), Schedule epsilon (anchorStamps export_ names) publishes →
      OnePerPublish export_ names epsilon publishes := by
  intro always
  have one := always exactPy (rowsAt [0, 2000000, 100000000]) [['v']] fiveSeconds
    [[0], [2000000], [100000000]] ⟨by decide, by simp, by decide +kernel⟩
  have result : cycleAnchors exactPy (rowsAt [0, 2000000, 100000000]) [['v']] fiveSeconds =
      .ok [0, 100000000] := by
    rw [cycleAnchors_ok_iff]
    decide +kernel
  rcases one with ⟨error, raised⟩ | ⟨anchors, found, same⟩
  · rw [result] at raised
    cases raised
  · rw [result] at found
    cases found
    exact absurd same (by decide)

theorem merged_iff_retry :
    ¬OnePerPublish (rowsAt [0, 2000000, 100000000]) [['v']] fiveSeconds
        [[0], [2000000], [100000000]] ↔
      ∃ bursts, Bursts fiveSeconds (anchorStamps (rowsAt [0, 2000000, 100000000]) [['v']]) bursts ∧
        bursts.length < 3 :=
  merged_iff (rowsAt [0, 2000000, 100000000]) [['v']] fiveSeconds [[0], [2000000], [100000000]]
    ⟨by decide, by simp, by decide +kernel⟩

end SleepySensor.AnchorMerge
