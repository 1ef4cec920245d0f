import Mathlib.Data.List.Induction
import Mathlib.Data.List.Nodup

/-!
# Dictionaries in insertion order

A dictionary is the list of its entries; a key that is set again keeps its place.
-/

set_option autoImplicit false

namespace SleepySensor.Dict

variable {κ ν : Type} [DecidableEq κ]

/-- `d[key] = value`. -/
def set (key : κ) (value : ν) : List (κ × ν) → List (κ × ν)
  | [] => [(key, value)]
  | entry :: rest =>
    if entry.1 = key then (key, value) :: rest else entry :: set key value rest

/-- `d.setdefault(key, []).append(value)`. -/
def push (key : κ) (value : ν) : List (κ × List ν) → List (κ × List ν)
  | [] => [(key, [value])]
  | entry :: rest =>
    if entry.1 = key then (key, entry.2 ++ [value]) :: rest else entry :: push key value rest

def keys (dict : List (κ × ν)) : List κ := dict.map Prod.fst

omit [DecidableEq κ] in
theorem mem_keys {dict : List (κ × ν)} {entry : κ × ν} (member : entry ∈ dict) :
    entry.1 ∈ keys dict :=
  List.mem_map_of_mem member

theorem keys_set (key : κ) (value : ν) (dict : List (κ × ν)) :
    keys (set key value dict) = if key ∈ keys dict then keys dict else keys dict ++ [key] := by
  induction dict with
  | nil => simp [set, keys]
  | cons entry rest ih =>
    unfold set
    by_cases same : entry.1 = key
    · simp [same, keys]
    · have other : key ≠ entry.1 := Ne.symm same
      rw [if_neg same]
      simp only [keys, List.map_cons] at ih ⊢
      rw [ih]
      by_cases known : key ∈ rest.map Prod.fst <;> simp [known, other]

theorem nodup_keys_set {key : κ} {value : ν} {dict : List (κ × ν)} (nodup : (keys dict).Nodup) :
    (keys (set key value dict)).Nodup := by
  rw [keys_set]
  split
  · exact nodup
  · next absent => simpa using List.Nodup.concat absent nodup

theorem mem_set_iff {key : κ} {value : ν} {dict : List (κ × ν)} (nodup : (keys dict).Nodup)
    (entry : κ × ν) :
    entry ∈ set key value dict ↔ entry = (key, value) ∨ entry ∈ dict ∧ entry.1 ≠ key := by
  induction dict with
  | nil => simp [set]
  | cons first rest ih =>
    obtain ⟨fresh, nodup⟩ := List.nodup_cons.mp nodup
    unfold set
    by_cases same : first.1 = key
    · rw [if_pos same, List.mem_cons]
      have apart : ∀ other ∈ rest, other.1 ≠ key := by
        intro other member equal
        apply fresh
        rw [same, ← equal]
        exact mem_keys member
      constructor
      · rintro (new | member)
        · exact .inl new
        · exact .inr ⟨List.mem_cons_of_mem first member, apart entry member⟩
      · rintro (new | ⟨member, other⟩)
        · exact .inl new
        · rcases List.mem_cons.mp member with rfl | member
          · exact absurd same other
          · exact .inr member
    · rw [if_neg same, List.mem_cons, ih nodup, List.mem_cons]
      constructor
      · rintro (rfl | new | ⟨member, other⟩)
        · exact .inr ⟨.inl rfl, same⟩
        · exact .inl new
        · exact .inr ⟨.inr member, other⟩
      · rintro (new | ⟨rfl | member, other⟩)
        · exact .inr (.inl new)
        · exact .inl rfl
        · exact .inr (.inr ⟨member, other⟩)

theorem lookup_set [BEq κ] [LawfulBEq κ] (key : κ) (value : ν) (dict : List (κ × ν)) (other : κ) :
    (set key value dict).lookup other = if other = key then some value else dict.lookup other := by
  induction dict with
  | nil =>
    rw [set, List.lookup_cons]
    by_cases same : other = key
    · simp [same]
    · have differs : (other == key) = false := by simpa using same
      rw [differs, if_neg same]
  | cons entry rest ih =>
    obtain ⟨first, content⟩ := entry
    unfold set
    by_cases here : first = key
    · subst here
      rw [if_pos rfl, List.lookup_cons, List.lookup_cons]
      by_cases same : other = first
      · simp [same]
      · have differs : (other == first) = false := by simpa using same
        rw [differs, if_neg same]
    · rw [if_neg here, List.lookup_cons, ih, List.lookup_cons]
      by_cases same : other = first
      · subst same
        simp [here]
      · have differs : (other == first) = false := by simpa using same
        rw [differs]

/-- A dictionary that is built from entries, in order. -/
def ofEntries (entries : List (κ × ν)) : List (κ × ν) :=
  entries.foldl (fun dict entry => set entry.1 entry.2 dict) []

theorem ofEntries_append (entries : List (κ × ν)) (entry : κ × ν) :
    ofEntries (entries ++ [entry]) = set entry.1 entry.2 (ofEntries entries) := by
  simp [ofEntries]

theorem nodup_keys_ofEntries (entries : List (κ × ν)) : (keys (ofEntries entries)).Nodup := by
  induction entries using List.reverseRecOn with
  | nil => simp [ofEntries, keys]
  | append_singleton entries entry ih =>
    rw [ofEntries_append]
    exact nodup_keys_set ih

/-- The last value that was set for a key stays. -/
theorem mem_ofEntries_iff (entries : List (κ × ν)) (entry : κ × ν) :
    entry ∈ ofEntries entries ↔
      ∃ before after, entries = before ++ entry :: after ∧ ∀ later ∈ after, later.1 ≠ entry.1 := by
  induction entries using List.reverseRecOn with
  | nil => simp [ofEntries]
  | append_singleton entries last ih =>
    rw [ofEntries_append, mem_set_iff (nodup_keys_ofEntries entries), ih]
    constructor
    · rintro (rfl | ⟨⟨before, after, rfl, none_⟩, other⟩)
      · exact ⟨entries, [], rfl, by simp⟩
      · refine ⟨before, after ++ [last], by simp, ?_⟩
        intro later member
        rcases List.mem_append.mp member with member | member
        · exact none_ later member
        · rw [List.mem_singleton.mp member]
          exact Ne.symm other
    · rintro ⟨before, after, split_, none_⟩
      rcases List.eq_nil_or_concat after with rfl | ⟨after, other, rfl⟩
      · obtain ⟨-, same⟩ := List.append_inj' split_ rfl
        exact .inl (List.cons.inj same).1.symm
      · rw [List.concat_eq_append] at split_ none_
        have cut : entries ++ [last] = (before ++ entry :: after) ++ [other] := by
          rw [split_]
          simp
        obtain ⟨same, lasts⟩ := List.append_inj' cut rfl
        obtain rfl := (List.cons.inj lasts).1
        refine .inr ⟨⟨before, after, same, fun later member => ?_⟩, ?_⟩
        · exact none_ later (List.mem_append_left _ member)
        · exact Ne.symm (none_ last (by simp))

theorem set_of_absent {key : κ} {value : ν} {dict : List (κ × ν)} (absent : key ∉ keys dict) :
    set key value dict = dict ++ [(key, value)] := by
  induction dict with
  | nil => rfl
  | cons entry rest ih =>
    have other : entry.1 ≠ key := fun same => absent (same ▸ List.mem_cons_self)
    rw [set, if_neg other, ih fun member => absent (List.mem_cons_of_mem _ member)]
    rfl

theorem ofEntries_of_nodup {entries : List (κ × ν)} (nodup : (keys entries).Nodup) :
    ofEntries entries = entries := by
  induction entries using List.reverseRecOn with
  | nil => rfl
  | append_singleton entries entry ih =>
    have split_ : keys (entries ++ [entry]) = keys entries ++ [entry.1] := by simp [keys]
    rw [split_] at nodup
    obtain ⟨nodup', -, apart⟩ := List.nodup_append.mp nodup
    rw [ofEntries_append, ih nodup', set_of_absent]
    intro member
    exact apart entry.1 member entry.1 (List.mem_singleton_self _) rfl

/-! ## Grouping -/

/-- The groups that rows fall into by a key, as `push` builds them. -/
def groupBy {ρ : Type} (key : ρ → κ) (value : ρ → ν) (rows : List ρ) : List (κ × List ν) :=
  rows.foldl (fun dict row => push (key row) (value row) dict) []

theorem keys_push (key : κ) (value : ν) (dict : List (κ × List ν)) :
    keys (push key value dict) = if key ∈ keys dict then keys dict else keys dict ++ [key] := by
  induction dict with
  | nil => simp [push, keys]
  | cons entry rest ih =>
    unfold push
    by_cases same : entry.1 = key
    · simp [same, keys]
    · have other : key ≠ entry.1 := Ne.symm same
      rw [if_neg same]
      simp only [keys, List.map_cons] at ih ⊢
      rw [ih]
      by_cases known : key ∈ rest.map Prod.fst <;> simp [known, other]

/-- Each key stands for its rows, in order. -/
structure Grouped {ρ : Type} (key : ρ → κ) (value : ρ → ν) (rows : List ρ)
    (dict : List (κ × List ν)) : Prop where
  nodup : (keys dict).Nodup
  known : ∀ k, k ∈ keys dict ↔ ∃ row ∈ rows, key row = k
  content : ∀ entry ∈ dict, entry.2 = (rows.filter fun row => key row = entry.1).map value

theorem Grouped.push {ρ : Type} {key : ρ → κ} {value : ρ → ν} {rows : List ρ}
    {dict : List (κ × List ν)} (grouped : Grouped key value rows dict) (row : ρ) :
    Grouped key value (rows ++ [row]) (push (key row) (value row) dict) := by
  have same : ∀ (dict : List (κ × List ν)), (keys dict).Nodup →
      (∀ entry ∈ dict, entry.2 = (rows.filter fun row => key row = entry.1).map value) →
      (key row ∉ keys dict → rows.filter (fun other => key other = key row) = []) →
      ∀ entry ∈ Dict.push (key row) (value row) dict,
        entry.2 = ((rows ++ [row]).filter fun row => key row = entry.1).map value := by
    intro dict nodup content absent
    induction dict with
    | nil =>
      intro entry member
      rw [List.mem_singleton.mp member]
      simp [absent (by simp [keys])]
    | cons first rest ih =>
      obtain ⟨fresh, nodup⟩ := List.nodup_cons.mp nodup
      unfold Dict.push
      by_cases here : first.1 = key row
      · rw [if_pos here]
        intro entry member
        rcases List.mem_cons.mp member with rfl | member
        · have before := content first List.mem_cons_self
          simp [before, here]
        · have other : ¬key row = entry.1 := by
            intro equal
            apply fresh
            rw [here, equal]
            exact mem_keys member
          rw [content entry (List.mem_cons_of_mem first member)]
          simp [other]
      · rw [if_neg here]
        intro entry member
        rcases List.mem_cons.mp member with rfl | member
        · rw [content entry List.mem_cons_self]
          simp [Ne.symm here]
        · refine ih nodup (fun other among => content other (List.mem_cons_of_mem first among)) ?_
            entry member
          intro unknown
          exact absent (by simpa [keys, Ne.symm here] using unknown)
  have absent : key row ∉ keys dict → rows.filter (fun other => key other = key row) = [] := by
    intro unknown
    rw [List.filter_eq_nil_iff]
    intro other member
    simp only [decide_eq_true_eq]
    intro equal
    exact unknown ((grouped.known _).mpr ⟨other, member, equal⟩)
  constructor
  · rw [keys_push]
    split
    · exact grouped.nodup
    · next fresh => simpa using List.Nodup.concat fresh grouped.nodup
  · intro k
    rw [keys_push]
    split
    · next known =>
      rw [grouped.known]
      constructor
      · rintro ⟨other, member, equal⟩
        exact ⟨other, List.mem_append_left _ member, equal⟩
      · rintro ⟨other, member, equal⟩
        rcases List.mem_append.mp member with member | member
        · exact ⟨other, member, equal⟩
        · rw [← equal, List.mem_singleton.mp member]
          exact (grouped.known _).mp known
    · simp [List.mem_append, grouped.known, or_and_right, exists_or, eq_comm]
  · exact same dict grouped.nodup grouped.content absent

theorem grouped_groupBy {ρ : Type} (key : ρ → κ) (value : ρ → ν) (rows : List ρ) :
    Grouped key value rows (groupBy key value rows) := by
  induction rows using List.reverseRecOn with
  | nil => exact ⟨by simp [groupBy, keys], by simp [groupBy, keys], by simp [groupBy]⟩
  | append_singleton rows row ih =>
    have step : groupBy key value (rows ++ [row]) =
        push (key row) (value row) (groupBy key value rows) := by
      simp [groupBy]
    rw [step]
    exact ih.push row

end SleepySensor.Dict
