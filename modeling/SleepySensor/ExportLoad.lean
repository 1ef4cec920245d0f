import Mathlib.Data.List.Dedup
import Mathlib.Data.List.DropRight
import Mathlib.Data.List.Infix
import Mathlib.Order.Bounds.Basic
import SleepySensor.HaHistory

/-!
# Loading an export

What `load_export` keeps of the rows of each entity, and which ids are lost
behind another one of the same name.
-/

set_option autoImplicit false

namespace SleepySensor.ExportLoad

open SleepySensor.HaHistory

variable {Value : Type}

/-! ## What an export should hold -/

def timeline (csv : List Row) (entity : Text) : List (Int × Text) :=
  ((csv.filter fun row => row.entity = entity).map fun row =>
    (row.stamp, row.state)).insertionSort fun row other => row.1 ≤ other.1

def sampleOf (parse : Text → Option Value) (row : Int × Text) : Option (Int × Value) :=
  if notANumber row.2 then none else (parse row.2).map fun value => (row.1, value)

/-- A row that is neither numeric nor unavailable or unknown. -/
def isText (parse : Text → Option Value) (row : Int × Text) : Bool :=
  !notANumber row.2 && (parse row.2).isNone

/-- A marker stands among the rows since the last numeric one. -/
def runOpen (parse : Text → Option Value) (before : List (Int × Text)) : Bool :=
  (before.reverse.takeWhile fun row => (sampleOf parse row).isNone).any fun row => notANumber row.2

/-- The stamp of the next numeric row, or the end of the export. -/
def runEnd (parse : Text → Option Value) (end_ : Int) (after : List (Int × Text)) : Int :=
  ((after.filterMap (sampleOf parse)).head?.map Prod.fst).getD end_

/-- Start and end of the runs of markers: a marker is the first of its run when
none is open before it. -/
def runs (parse : Text → Option Value) (end_ : Int) :
    List (Int × Text) → List (Int × Text) → List (Int × Int)
  | _, [] => []
  | before, row :: after =>
    (if notANumber row.2 && !runOpen parse before then [(row.1, runEnd parse end_ after)]
      else []) ++
      runs parse end_ (before ++ [row]) after

def span (blackout : Blackout) : Int × Int := (blackout.start, blackout.end_)

def IsLast (csv : List Row) (end_ : Int) : Prop :=
  IsGreatest { stamp | ∃ row ∈ csv, row.stamp = stamp } end_

/-- A series has all that the rows of its entity say. -/
structure Holds (parse : Text → Option Value) (csv : List Row) (entity : Text)
    (series : Series Value) : Prop where
  samples : series.samples = (timeline csv entity).filterMap (sampleOf parse)
  nonNumeric : series.nonNumeric = (timeline csv entity).countP (isText parse)
  blackouts : ∃ end_, IsLast csv end_ ∧
    series.blackouts.map span = runs parse end_ [] (timeline csv entity)

/-- Every entity id has one series, with its rows. -/
def Complete (py : PyFloat) (parse : Text → Option Value) (csv : List Row) : Prop :=
  ∃ export_, loadExport py parse csv = .ok export_ ∧
    ∀ row ∈ csv, ∃ entry, export_.series.filter (fun entry => entry.2.entityId = row.entity) =
      [entry] ∧ Holds parse csv row.entity entry.2

/-- An id whose name is the stem of the names of all, its own included. -/
def Stem (csv : List Row) (entity : Text) : Prop :=
  (objectId entity).getLast? = some '_' ∧
    (∀ row ∈ csv, row.entity ≠ [] → objectId entity <+: objectId row.entity) ∧
      ∃ row ∈ csv, row.entity ≠ [] ∧ row.entity ≠ entity

/-- No two ids have the same part behind the domain, and none that is the stem
of the others stands beside an empty id. -/
def Distinguished (csv : List Row) : Prop :=
  (∀ row ∈ csv, ∀ other ∈ csv, objectId row.entity = objectId other.entity →
    row.entity = other.entity) ∧
    ∀ blank ∈ csv, blank.entity = [] → ∀ row ∈ csv, row.entity ≠ [] → ¬Stem csv row.entity

/-! ## One series -/

section Read

variable {py : PyFloat} {parse : Text → Option Value} {start end_ : Int}

theorem runOpen_concat (before : List (Int × Text)) (row : Int × Text) :
    runOpen parse (before ++ [row]) =
      ((sampleOf parse row).isNone && (notANumber row.2 || runOpen parse before)) := by
  unfold runOpen
  rw [List.reverse_append, List.reverse_singleton, List.singleton_append, List.takeWhile_cons]
  cases (sampleOf parse row).isNone with
  | true => simp
  | false => simp

theorem runEnd_cons (row : Int × Text) (after : List (Int × Text)) :
    runEnd parse end_ (row :: after) =
      (sampleOf parse row).elim (runEnd parse end_ after) Prod.fst := by
  unfold runEnd
  rw [List.filterMap_cons]
  cases sampleOf parse row with
  | none => rfl
  | some sample => rfl

theorem sampleOf_marker {row : Int × Text} (marker : notANumber row.2 = true) :
    sampleOf parse row = none := by
  rw [sampleOf, if_pos marker]

/-- What the loop makes of rows behind those before, an open run among them. -/
structure Reads (py : PyFloat) (parse : Text → Option Value) (end_ : Int)
    (before rows : List (Int × Text)) (reading result : Reading Value) : Prop where
  samples : result.samples = reading.samples ++ rows.filterMap (sampleOf parse)
  nonNumeric : result.nonNumeric = reading.nonNumeric + rows.countP (isText parse)
  blackouts : (result.blackouts ++ (result.pending.map fun pending =>
      blackout py pending.1 pending.2 end_ true).toList).map span =
    reading.blackouts.map span ++
      ((reading.pending.map fun pending => (pending.1, runEnd parse end_ rows)).toList ++
        runs parse end_ before rows)

theorem reads_foldl (before rows : List (Int × Text)) (reading : Reading Value)
    (pending : reading.pending.isSome = runOpen parse before) :
    Reads py parse end_ before rows reading (rows.foldl (readRow py parse start end_) reading) := by
  induction rows generalizing before reading with
  | nil =>
    refine ⟨by simp, by simp, ?_⟩
    cases waits : reading.pending with
    | none => simp [runs, waits]
    | some first => simp [runs, waits, runEnd, span, blackout]
  | cons row rest ih =>
    rw [List.foldl_cons]
    by_cases marker : notANumber row.2 = true
    · have step : readRow py parse start end_ reading row =
          { reading with pending := some (reading.pending.getD (row.1, row.2)) } := by
        rw [readRow, if_pos marker]
      have none_ : sampleOf parse row = none := sampleOf_marker marker
      have text : isText parse row = false := by simp [isText, marker]
      rw [step]
      obtain ⟨samples, nonNumeric, blackouts⟩ := ih (before ++ [row])
        { reading with pending := some (reading.pending.getD (row.1, row.2)) }
        (by rw [runOpen_concat]; simp [none_, marker])
      refine ⟨by simp [samples, none_], by simp [nonNumeric, text], ?_⟩
      rw [blackouts, runEnd_cons, none_, runs, ← pending, marker]
      cases reading.pending with
      | none => simp
      | some first => simp
    · have marker' : notANumber row.2 = false := by simpa using marker
      cases parsed : parse row.2 with
      | none =>
        have step : readRow py parse start end_ reading row =
            { reading with nonNumeric := reading.nonNumeric + 1 } := by
          rw [readRow, if_neg marker, parsed]
        have none_ : sampleOf parse row = none := by simp [sampleOf, marker', parsed]
        have text : isText parse row = true := by simp [isText, marker', parsed]
        rw [step]
        obtain ⟨samples, nonNumeric, blackouts⟩ := ih (before ++ [row])
          { reading with nonNumeric := reading.nonNumeric + 1 }
          (by rw [runOpen_concat]; simp [none_, marker', pending])
        refine ⟨by simp [samples, none_], ?_, ?_⟩
        · rw [nonNumeric, List.countP_cons, if_pos text]
          dsimp only
          omega
        · rw [blackouts, runEnd_cons, none_, runs, marker']
          simp
      | some value =>
        have some_ : sampleOf parse row = some (row.1, value) := by
          simp [sampleOf, marker', parsed]
        have text : isText parse row = false := by simp [isText, parsed]
        have step : readRow py parse start end_ reading row =
            { samples := reading.samples ++ [(row.1, value)]
              blackouts := reading.blackouts ++ (reading.pending.map fun pending =>
                blackout py pending.1 pending.2 row.1 (pending.1 == start)).toList
              boundary := reading.boundary + if row.1 = start ∨ row.1 = end_ then 1 else 0
              nonNumeric := reading.nonNumeric
              pending := none } := by
          rw [readRow, if_neg marker, parsed]
        rw [step]
        obtain ⟨samples, nonNumeric, blackouts⟩ := ih (before ++ [row])
          { samples := reading.samples ++ [(row.1, value)]
            blackouts := reading.blackouts ++ (reading.pending.map fun pending =>
              blackout py pending.1 pending.2 row.1 (pending.1 == start)).toList
            boundary := reading.boundary + if row.1 = start ∨ row.1 = end_ then 1 else 0
            nonNumeric := reading.nonNumeric
            pending := none }
          (by rw [runOpen_concat]; simp [some_])
        refine ⟨by simp [samples, some_], by simp [nonNumeric, text], ?_⟩
        rw [blackouts, runEnd_cons, some_, runs, marker']
        cases reading.pending with
        | none => simp
        | some first => simp [span, blackout]

end Read

/-! ## The rows of an entity -/

section Sorted

instance : Std.Total rowLe where
  total r s := by
    rcases lt_trichotomy r.stamp s.stamp with early | same | late
    · exact .inl (.inl early)
    · exact (le_total r.entity s.entity).imp (fun le => .inr ⟨same, le⟩)
        (fun le => .inr ⟨same.symm, le⟩)
    · exact .inr (.inl late)

instance : IsTrans Row rowLe where
  trans r s t := by
    rintro (early | ⟨same, le⟩) (early' | ⟨same', le'⟩)
    · exact .inl (early.trans early')
    · exact .inl (same' ▸ early)
    · exact .inl (same ▸ early')
    · exact .inr ⟨same.trans same', le.trans le'⟩

variable {α : Type} {r : α → α → Prop} [DecidableRel r] [IsTrans α r]

theorem filter_orderedInsert (keep : α → Bool) (a : α) (l : List α) (sorted : l.Pairwise r) :
    (l.orderedInsert r a).filter keep =
      if keep a then (l.filter keep).orderedInsert r a else l.filter keep := by
  induction l with
  | nil => by_cases kept : keep a = true <;> simp [kept]
  | cons b rest ih =>
    obtain ⟨least, sorted⟩ := List.pairwise_cons.mp sorted
    by_cases before : r a b
    · rw [List.orderedInsert_cons_of_le r rest before, List.filter_cons]
      split
      · have first : ∀ c ∈ (b :: rest).filter keep, r a c := by
          intro c member
          rcases List.mem_cons.mp (List.mem_of_mem_filter member) with rfl | member
          · exact before
          · exact trans_of r before (least c member)
        cases left : (b :: rest).filter keep with
        | nil => rfl
        | cons c others =>
          rw [List.orderedInsert_cons_of_le r others (first c (by simp [left]))]
      · rfl
    · rw [List.orderedInsert_of_not_le r rest before, List.filter_cons, ih sorted, List.filter_cons]
      by_cases kept : keep b = true
      · simp only [if_pos kept]
        split
        · rw [List.orderedInsert_of_not_le r _ before]
        · rfl
      · simp only [if_neg kept]

theorem filter_insertionSort [Std.Total r] (keep : α → Bool) (l : List α) :
    (l.insertionSort r).filter keep = (l.filter keep).insertionSort r := by
  induction l with
  | nil => rfl
  | cons a rest ih =>
    rw [List.insertionSort_cons, filter_orderedInsert keep a _ (List.pairwise_insertionSort r rest),
      ih, List.filter_cons]
    split <;> rfl

end Sorted

theorem filter_sortRows (csv : List Row) (entity : Text) :
    ((sortRows csv).filter fun row => row.entity = entity).map (fun row => (row.stamp, row.state)) =
      timeline csv entity := by
  rw [sortRows, filter_insertionSort, timeline]
  apply List.map_insertionSort _ _ _ _
  intro row member other member'
  have same : row.entity = entity := by simpa using (List.mem_filter.mp member).2
  have same' : other.entity = entity := by simpa using (List.mem_filter.mp member').2
  unfold rowLe
  rw [same, same']
  constructor
  · rintro (early | ⟨equal, -⟩)
    · exact early.le
    · exact equal.le
  · intro le
    exact le.lt_or_eq.imp id fun equal => ⟨equal, le_rfl⟩

theorem mem_sortRows {csv : List Row} {row : Row} : row ∈ sortRows csv ↔ row ∈ csv :=
  List.mem_insertionSort rowLe

theorem isLast_getLast {csv : List Row} {last : Row} (found : (sortRows csv).getLast? = some last) :
    IsLast csv last.stamp := by
  have sorted : (sortRows csv).Pairwise rowLe := List.pairwise_insertionSort rowLe csv
  refine ⟨⟨last, mem_sortRows.mp (List.mem_of_getLast? found), rfl⟩, ?_⟩
  rintro stamp ⟨row, member, rfl⟩
  obtain ⟨init, split_⟩ := List.getLast?_eq_some_iff.mp found
  have among : row ∈ sortRows csv := mem_sortRows.mpr member
  rw [split_] at sorted among
  rcases List.mem_append.mp among with earlier | isLast
  · have le := (List.pairwise_append.mp sorted).2.2 row earlier last (by simp)
    exact le.elim Int.le_of_lt fun same => same.1.le
  · rw [List.mem_singleton.mp isLast]

/-! ## Names -/

theorem prefix_shorten {text name : Text} (turns : Nat) (start : Text)
    (enough : start.length ≤ turns) :
    text <+: shorten name turns start ↔ text <+: start ∧ text <+: name := by
  induction turns generalizing start with
  | zero =>
    obtain rfl : start = [] := List.eq_nil_of_length_eq_zero (Nat.le_zero.mp enough)
    rw [shorten, List.prefix_nil]
    constructor
    · rintro rfl
      exact ⟨rfl, List.nil_prefix⟩
    · exact And.left
  | succ turns ih =>
    rw [shorten]
    by_cases starts : start.isPrefixOf name = true
    · rw [if_pos starts]
      exact ⟨fun le => ⟨le, le.trans (List.isPrefixOf_iff_prefix.mp starts)⟩, And.left⟩
    · rw [if_neg starts, ih _ (by simp; omega)]
      refine and_congr_left fun within => ?_
      constructor
      · intro le
        exact le.trans (List.dropLast_prefix start)
      · intro le
        rcases List.eq_nil_or_concat start with rfl | ⟨init, last, rfl⟩
        · simpa using le
        · rw [List.concat_eq_append] at le starts ⊢
          rw [List.dropLast_concat]
          rcases List.prefix_concat_iff.mp le with rfl | shorter
          · exact absurd (List.isPrefixOf_iff_prefix.mpr within) starts
          · exact shorter

theorem prefix_foldl_shorten {text : Text} (names : List Text) (first : Text) :
    text <+: names.foldl (fun start name => shorten name start.length start) first ↔
      text <+: first ∧ ∀ name ∈ names, text <+: name := by
  induction names generalizing first with
  | nil => simp
  | cons name rest ih =>
    rw [List.foldl_cons, ih, prefix_shorten _ _ le_rfl, List.forall_mem_cons, and_assoc]

theorem upToUnderscore_starts (text : Text) : upToUnderscore text <+: text :=
  List.rdropWhile_prefix (fun c => decide (c ≠ '_')) text

theorem prefix_upToUnderscore {text stem : Text} (ends : stem.getLast? = some '_')
    (le : stem <+: text) : stem <+: upToUnderscore text := by
  show stem <+: List.rdropWhile _ text
  induction text using List.reverseRecOn with
  | nil => exact le
  | append_singleton init last ih =>
    rw [List.rdropWhile_concat]
    split
    · next other =>
      rcases List.prefix_concat_iff.mp le with rfl | shorter
      · simp at ends other
        exact absurd ends other
      · exact ih shorter
    · exact le

theorem upToUnderscore_ends (text : Text) (some_ : upToUnderscore text ≠ []) :
    (upToUnderscore text).getLast? = some '_' := by
  have last : ¬decide ((upToUnderscore text).getLast some_ ≠ '_') = true :=
    List.rdropWhile_last_not (fun c => decide (c ≠ '_')) text some_
  have last' : (upToUnderscore text).getLast some_ = '_' :=
    not_not.mp fun other => last (decide_eq_true other)
  rw [List.getLast?_eq_getLast_of_ne_nil some_, last']

/-- The prefix of at least two ids: it starts all of them, and there is no
longer one that ends in an underscore. -/
theorem prefix_devicePrefixOf {stem : Text} {ids : List Text} (ends : stem.getLast? = some '_')
    (starts : ∀ id ∈ ids, stem <+: objectId id) (two : 2 ≤ ids.length) :
    stem <+: devicePrefixOf ids := by
  obtain ⟨first, second, rest, rfl⟩ : ∃ first second rest, ids = first :: second :: rest := by
    rcases ids with _ | ⟨first, _ | ⟨second, rest⟩⟩
    · simp at two
    · simp at two
    · exact ⟨first, second, rest, rfl⟩
  refine prefix_upToUnderscore ends ((prefix_foldl_shorten _ _).mpr ⟨starts first (by simp), ?_⟩)
  intro name member
  have mapped : name ∈ (second :: rest).map objectId := member
  obtain ⟨id, among, rfl⟩ := List.mem_map.mp mapped
  exact starts id (List.mem_cons_of_mem first among)

theorem devicePrefixOf_starts {ids : List Text} {id : Text} (member : id ∈ ids) :
    devicePrefixOf ids <+: objectId id := by
  rcases ids with _ | ⟨first, _ | ⟨second, rest⟩⟩
  · cases member
  · exact List.nil_prefix
  · have all := (prefix_foldl_shorten ((second :: rest).map objectId) (objectId first)).mp
      (upToUnderscore_starts _)
    rcases List.mem_cons.mp member with rfl | among
    · exact all.1
    · exact all.2 _ (List.mem_map_of_mem among)

theorem devicePrefixOf_ends {ids : List Text} (some_ : devicePrefixOf ids ≠ []) :
    (devicePrefixOf ids).getLast? = some '_' ∧ 2 ≤ ids.length := by
  rcases ids with _ | ⟨first, _ | ⟨second, rest⟩⟩
  · exact absurd rfl some_
  · exact absurd rfl some_
  · exact ⟨upToUnderscore_ends _ some_, by simp⟩

theorem shortName_of_prefix {devicePrefix entity : Text}
    (starts : devicePrefix <+: objectId entity) :
    shortName devicePrefix entity = (objectId entity).drop devicePrefix.length := by
  rw [shortName, if_pos (List.isPrefixOf_iff_prefix.mpr starts)]

theorem shortName_blank (devicePrefix : Text) : shortName devicePrefix [] = [] := by
  unfold shortName
  simp [objectId]

theorem mem_entityIds {rows : List Row} {id : Text} :
    id ∈ entityIds rows ↔ ∃ row ∈ rows, row.entity = id ∧ id ≠ [] := by
  rw [entityIds, List.mem_insertionSort, List.mem_dedup, List.mem_filter, List.mem_map]
  simp only [decide_eq_true_eq]
  constructor
  · rintro ⟨⟨row, member, same⟩, some_⟩
    exact ⟨row, member, same, some_⟩
  · rintro ⟨row, member, same, some_⟩
    exact ⟨⟨row, member, same⟩, some_⟩

theorem nodup_entityIds (rows : List Row) : (entityIds rows).Nodup :=
  (List.perm_insertionSort _ _).nodup_iff.mpr (List.nodup_dedup _)

theorem two_le_length {ids : List Text} {id other : Text} (member : id ∈ ids) (among : other ∈ ids)
    (differ : other ≠ id) : 2 ≤ ids.length := by
  rcases ids with _ | ⟨first, _ | ⟨second, rest⟩⟩
  · cases member
  · rw [List.mem_singleton] at member among
    exact absurd (among.trans member.symm) differ
  · simp

theorem exists_other {ids : List Text} (nodup : ids.Nodup) (two : 2 ≤ ids.length) (id : Text) :
    ∃ other ∈ ids, other ≠ id := by
  rcases ids with _ | ⟨first, _ | ⟨second, rest⟩⟩
  · simp at two
  · simp at two
  · by_cases same : first = id
    · refine ⟨second, by simp, ?_⟩
      rintro rfl
      simp [same] at nodup
    · exact ⟨first, by simp, same⟩

def NamesApart (csv : List Row) : Prop :=
  ∀ row ∈ csv, ∀ other ∈ csv,
    shortName (devicePrefixOf (entityIds (sortRows csv))) row.entity =
      shortName (devicePrefixOf (entityIds (sortRows csv))) other.entity →
    row.entity = other.entity

section Names

variable {csv : List Row}

theorem mem_ids {row : Row} (member : row ∈ csv) (named : row.entity ≠ []) :
    row.entity ∈ entityIds (sortRows csv) :=
  mem_entityIds.mpr ⟨row, mem_sortRows.mpr member, rfl, named⟩

theorem shortName_named {row : Row} (member : row ∈ csv) (named : row.entity ≠ []) :
    shortName (devicePrefixOf (entityIds (sortRows csv))) row.entity =
      (objectId row.entity).drop (devicePrefixOf (entityIds (sortRows csv))).length :=
  shortName_of_prefix (devicePrefixOf_starts (mem_ids member named))

/-- A named id has the empty name when it is the stem of all, or has no name. -/
theorem shortName_eq_nil_iff {row : Row} (member : row ∈ csv) (named : row.entity ≠ []) :
    shortName (devicePrefixOf (entityIds (sortRows csv))) row.entity = [] ↔
      objectId row.entity = [] ∨ Stem csv row.entity := by
  have starts := devicePrefixOf_starts (mem_ids member named)
  rw [shortName_named member named, List.drop_eq_nil_iff]
  constructor
  · intro short
    have whole := starts.eq_of_length_le short
    by_cases empty_ : objectId row.entity = []
    · exact .inl empty_
    · obtain ⟨ends, two⟩ := devicePrefixOf_ends (whole ▸ empty_)
      obtain ⟨other, among, differs⟩ := exists_other (nodup_entityIds _) two row.entity
      obtain ⟨another, inRows, rfl, named'⟩ := mem_entityIds.mp among
      refine .inr ⟨whole ▸ ends, ?_, another, mem_sortRows.mp inRows, named', differs⟩
      intro each inCsv named
      exact whole ▸ devicePrefixOf_starts (mem_ids inCsv named)
  · rintro (empty_ | ⟨ends, all, other, inCsv, named', differs⟩)
    · simp [empty_]
    · refine (prefix_devicePrefixOf ends ?_
        (two_le_length (mem_ids member named) (mem_ids inCsv named') differs)).length_le
      intro id among
      obtain ⟨each, inRows, rfl, named⟩ := mem_entityIds.mp among
      exact all each (mem_sortRows.mp inRows) named

theorem namesApart_iff : NamesApart csv ↔ Distinguished csv := by
  constructor
  · intro apart
    constructor
    · intro row member other among same
      apply apart row member other among
      unfold shortName
      rw [same]
    · intro blank member empty_ row among named stem
      refine named ((apart row among blank member ?_).trans empty_)
      rw [(shortName_eq_nil_iff among named).mpr (.inr stem), empty_, shortName_blank]
  · rintro ⟨distinct, stems⟩ row member other among same
    by_cases named : row.entity = []
    · by_cases named' : other.entity = []
      · rw [named, named']
      · rw [named, shortName_blank] at same
        rcases (shortName_eq_nil_iff among named').mp same.symm with empty_ | stem
        · exact distinct row member other among (by rw [named, empty_]; rfl)
        · exact absurd stem (stems row member named other among named')
    · by_cases named' : other.entity = []
      · rw [named', shortName_blank] at same
        rcases (shortName_eq_nil_iff member named).mp same with empty_ | stem
        · exact distinct row member other among (by rw [named', empty_]; rfl)
        · exact absurd stem (stems other among named' row member named)
      · rw [shortName_named member named, shortName_named among named'] at same
        apply distinct row member other among
        have starts := devicePrefixOf_starts (mem_ids member named)
        have starts' := devicePrefixOf_starts (mem_ids among named')
        calc objectId row.entity = _ ++ (objectId row.entity).drop _ :=
            List.prefix_iff_eq_append.mp starts |>.symm
          _ = _ ++ (objectId other.entity).drop _ := congrArg _ same
          _ = objectId other.entity := List.prefix_iff_eq_append.mp starts'

end Names

/-! ## The whole export -/

section Whole

variable (py : PyFloat) (parse : Text → Option Value) {csv : List Row}

/-- The series as the loop over the entities builds them. -/
def entriesOf (csv : List Row) (start end_ : Int) : List (Text × Series Value) :=
  (Dict.groupBy Row.entity (fun row => (row.stamp, row.state)) (sortRows csv)).map fun entry =>
    (shortName (devicePrefixOf (entityIds (sortRows csv))) entry.1,
      readSeries py parse start end_ (devicePrefixOf (entityIds (sortRows csv))) entry.1 entry.2)

theorem loadExport_ok (some_ : csv ≠ []) :
    ∃ start end_, IsLast csv end_ ∧ ∃ export_, loadExport py parse csv = .ok export_ ∧
      export_.series = Dict.ofEntries (entriesOf py parse csv start end_) := by
  have rows : sortRows csv ≠ [] := by
    intro none_
    have perm : (sortRows csv).Perm csv := List.perm_insertionSort rowLe csv
    rw [none_] at perm
    exact some_ perm.symm.eq_nil
  obtain ⟨first, head⟩ : ∃ first, (sortRows csv).head? = some first :=
    ⟨_, List.head?_eq_some_head rows⟩
  obtain ⟨last, found⟩ : ∃ last, (sortRows csv).getLast? = some last :=
    ⟨_, List.getLast?_eq_getLast_of_ne_nil rows⟩
  refine ⟨first.stamp, last.stamp, isLast_getLast found, ?_⟩
  unfold loadExport
  dsimp only
  rw [head, found]
  exact ⟨_, rfl, rfl⟩

variable {py parse} {start end_ : Int}

theorem mem_entriesOf {entry : Text × Series Value} :
    entry ∈ entriesOf py parse csv start end_ ↔ ∃ row ∈ csv,
      entry = (shortName (devicePrefixOf (entityIds (sortRows csv))) row.entity,
        readSeries py parse start end_ (devicePrefixOf (entityIds (sortRows csv))) row.entity
          (timeline csv row.entity)) := by
  have grouped := Dict.grouped_groupBy Row.entity (fun row => (row.stamp, row.state)) (sortRows csv)
  unfold entriesOf
  rw [List.mem_map]
  constructor
  · rintro ⟨group, member, rfl⟩
    obtain ⟨row, inRows, same⟩ := (grouped.known group.1).mp (Dict.mem_keys member)
    refine ⟨row, mem_sortRows.mp inRows, ?_⟩
    rw [grouped.content group member, filter_sortRows, same]
  · rintro ⟨row, inCsv, rfl⟩
    obtain ⟨group, member, same⟩ := List.mem_map.mp
      ((grouped.known row.entity).mpr ⟨row, mem_sortRows.mpr inCsv, rfl⟩)
    refine ⟨group, member, ?_⟩
    rw [grouped.content group member, filter_sortRows, same]

theorem ids_entriesOf_nodup :
    ((entriesOf py parse csv start end_).map fun entry => entry.2.entityId).Nodup := by
  have grouped := Dict.grouped_groupBy Row.entity (fun row => (row.stamp, row.state)) (sortRows csv)
  have ids : (entriesOf py parse csv start end_).map (fun entry => entry.2.entityId) =
      Dict.keys (Dict.groupBy Row.entity (fun row => (row.stamp, row.state)) (sortRows csv)) := by
    rw [entriesOf, List.map_map]
    rfl
  rw [ids]
  exact grouped.nodup

theorem holds_readSeries (last : IsLast csv end_) (devicePrefix entity : Text) :
    Holds parse csv entity
      (readSeries py parse start end_ devicePrefix entity (timeline csv entity)) := by
  obtain ⟨samples, nonNumeric, blackouts⟩ :=
    @reads_foldl _ py parse start end_ [] (timeline csv entity) {} rfl
  refine ⟨?_, ?_, end_, last, ?_⟩
  · rw [readSeries, samples, List.nil_append]
  · rw [readSeries, nonNumeric, Nat.zero_add]
  · exact blackouts.trans (by simp)

theorem filter_eq_singleton {α : Type} {l : List α} {keep : α → Bool} {a : α} (nodup : l.Nodup)
    (member : a ∈ l) (kept : keep a = true) (only : ∀ x ∈ l, keep x = true → x = a) :
    l.filter keep = [a] := by
  obtain ⟨before, after, rfl⟩ := List.append_of_mem member
  obtain ⟨fresh, nodup', disjoint⟩ := List.nodup_append.mp nodup
  have left : before.filter keep = [] := by
    rw [List.filter_eq_nil_iff]
    intro x among kept'
    obtain rfl := only x (List.mem_append_left _ among) kept'
    exact disjoint x among x List.mem_cons_self rfl
  have right : after.filter keep = [] := by
    rw [List.filter_eq_nil_iff]
    intro x among kept'
    obtain rfl := only x (by simp [among]) kept'
    exact (List.nodup_cons.mp nodup').1 among
  rw [List.filter_append, List.filter_cons, if_pos kept, left, right]
  rfl

theorem complete_iff_namesApart (some_ : csv ≠ []) : Complete py parse csv ↔ NamesApart csv := by
  obtain ⟨start, end_, last, export_, loaded, series⟩ := loadExport_ok py parse some_
  have named : ∀ entry ∈ export_.series, ∃ row ∈ csv, entry =
      (shortName (devicePrefixOf (entityIds (sortRows csv))) row.entity,
        readSeries py parse start end_ (devicePrefixOf (entityIds (sortRows csv))) row.entity
          (timeline csv row.entity)) := by
    intro entry member
    rw [series, Dict.mem_ofEntries_iff] at member
    obtain ⟨before, after, split_, -⟩ := member
    exact mem_entriesOf.mp (split_ ▸ List.mem_append_right _ List.mem_cons_self)
  have keys : (Dict.keys export_.series).Nodup := series ▸ Dict.nodup_keys_ofEntries _
  constructor
  · rintro ⟨export', loaded', all⟩ row member other among same
    obtain rfl : export_ = export' := by
      rw [loaded] at loaded'
      exact Except.ok.inj loaded'
    have carried : ∀ row ∈ csv, ∃ entry ∈ export_.series, entry.2.entityId = row.entity ∧
        entry.1 = shortName (devicePrefixOf (entityIds (sortRows csv))) row.entity := by
      intro row member
      obtain ⟨entry, found, -⟩ := all row member
      have kept : entry ∈ export_.series.filter fun entry => entry.2.entityId = row.entity :=
        found ▸ List.mem_singleton_self entry
      obtain ⟨inSeries, same⟩ := List.mem_filter.mp kept
      obtain ⟨row', -, rfl⟩ := named entry inSeries
      have same' : row'.entity = row.entity := of_decide_eq_true same
      exact ⟨_, inSeries, same', by rw [same']⟩
    obtain ⟨entry, inSeries, id, key⟩ := carried row member
    obtain ⟨entry', inSeries', id', key'⟩ := carried other among
    obtain rfl := List.inj_on_of_nodup_map keys inSeries inSeries'
      (key.trans (same.trans key'.symm))
    exact id.symm.trans id'
  · intro apart
    refine ⟨export_, loaded, fun row member => ?_⟩
    have inEntries := (@mem_entriesOf _ py parse csv start end_ _).mpr ⟨row, member, rfl⟩
    refine ⟨(shortName (devicePrefixOf (entityIds (sortRows csv))) row.entity,
        readSeries py parse start end_ (devicePrefixOf (entityIds (sortRows csv))) row.entity
          (timeline csv row.entity)),
      filter_eq_singleton (List.Nodup.of_map _ keys) ?_ ?_ ?_, holds_readSeries last _ _⟩
    · obtain ⟨before, after, split_⟩ := List.append_of_mem inEntries
      rw [series, Dict.mem_ofEntries_iff]
      refine ⟨before, after, split_, ?_⟩
      intro later inAfter same
      have inEntries' : later ∈ entriesOf py parse csv start end_ := by
        rw [split_]
        exact List.mem_append_right _ (List.mem_cons_of_mem _ inAfter)
      obtain ⟨row', member', rfl⟩ := mem_entriesOf.mp inEntries'
      have ids := @ids_entriesOf_nodup _ py parse csv start end_
      rw [split_, List.map_append, List.map_cons] at ids
      apply (List.nodup_cons.mp (List.nodup_append.mp ids).2.1).1
      exact List.mem_map.mpr ⟨_, inAfter, apart row' member' row member same⟩
    · exact decide_eq_true rfl
    · intro other inSeries same
      obtain ⟨row', -, rfl⟩ := named other inSeries
      have same' : row'.entity = row.entity := of_decide_eq_true same
      rw [same']

/-- Loading loses nothing exactly when the ids are distinguished. -/
theorem complete_iff (py : PyFloat) (parse : Text → Option Value) (csv : List Row)
    (some_ : csv ≠ []) : Complete py parse csv ↔ Distinguished csv :=
  (complete_iff_namesApart some_).trans namesApart_iff

end Whole

/-! ## Two domains with one object -/

def parseDigit (text : Text) : Option Nat :=
  match text with
  | [digit] => if digit.isDigit then some (digit.toNat - 48) else none
  | _ => none

/-- Rows of a sensor before and behind an outage, and the text of another id. -/
def outage (other : Text) : List Row :=
  [{ stamp := 0, entity := "sensor.x".toList, state := ['1'] },
    { stamp := 1, entity := "sensor.x".toList, state := unavailable },
    { stamp := 2, entity := "sensor.x".toList, state := ['2'] },
    { stamp := 0, entity := other, state := "off".toList }]

theorem complete_iff_outage : Complete exactPy parseDigit (outage "binary_sensor.y".toList) := by
  have named : ∀ row ∈ outage "binary_sensor.y".toList, row.entity ≠ [] := by decide
  exact (complete_iff exactPy parseDigit (outage "binary_sensor.y".toList) (by simp [outage])).mpr
    ⟨by decide, fun blank member empty_ => absurd empty_ (named blank member)⟩

/-- The series of `sensor.x` takes the place of that of `binary_sensor.x`. -/
theorem series_lost :
    ¬∀ (py : PyFloat) (parse : Text → Option Nat) (csv : List Row), csv ≠ [] →
      Complete py parse csv := by
  intro always
  have some_ : outage "binary_sensor.x".toList ≠ [] := by simp [outage]
  have complete := always exactPy parseDigit (outage "binary_sensor.x".toList) some_
  obtain ⟨distinct, -⟩ := namesApart_iff.mp ((complete_iff_namesApart some_).mp complete)
  exact absurd distinct (by decide)

end SleepySensor.ExportLoad
