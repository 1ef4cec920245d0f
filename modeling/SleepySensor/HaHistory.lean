import Mathlib.Algebra.Order.Floor.Ring
import Mathlib.Data.Char
import Mathlib.Data.List.Lex
import Mathlib.Data.List.Sort
import Mathlib.Data.Rat.Floor
import Mathlib.Tactic.Linarith
import SleepySensor.Lib.BinaryRound
import SleepySensor.Lib.Dict
import SleepySensor.Lib.Spaced

/-!
# Home Assistant exports

`load_export`, `cycle_anchors` and `cycle_table` of `tools/ha_history.py`, from
the parsed rows on.  A stamp counts microseconds, as `datetime` does.
-/

set_option autoImplicit false

namespace SleepySensor.HaHistory

open SleepySensor.Spaced

abbrev Text := List Char

/-- The floats of the interpreter, as far as the reader rests on them: rounding
to the nearest float keeps order, one and a half times a positive float rounds
to more than the float, and `timedelta(seconds=..)` rounds to microseconds. -/
structure PyFloat where
  round : ℚ → ℚ
  mono : Monotone round
  more : ∀ x, 0 < x → round x = x → x < round (x * (3 / 2))
  timedelta : ℚ → Int
  near : ∀ seconds, |(timedelta seconds : ℚ) - seconds * 1000000| < 1

/-- Arithmetic without rounding but that of `timedelta`, to run the reader on. -/
def exactPy : PyFloat where
  round := id
  mono := monotone_id
  more x positive _ := by
    show x < x * (3 / 2)
    linarith
  timedelta seconds := BinaryRound.nearestEven (seconds * 1000000)
  near seconds := lt_of_le_of_lt (BinaryRound.abs_nearestEven_sub _) (by norm_num)

structure Seconds (py : PyFloat) where
  value : ℚ
  exact_ : py.round value = value

def totalSeconds (py : PyFloat) (microseconds : Int) : ℚ := py.round (microseconds / 1000000)

/-! ## `load_export` -/

def unavailable : Text := "unavailable".toList
def unknown : Text := "unknown".toList

def notANumber (state : Text) : Bool := state == unavailable || state == unknown

structure Row where
  stamp : Int
  entity : Text
  state : Text
  deriving DecidableEq, Repr

structure Blackout where
  start : Int
  end_ : Int
  seconds : ℚ
  marker : Text
  edge : Bool
  deriving DecidableEq, Repr

structure Series (Value : Type) where
  name : Text
  entityId : Text
  samples : List (Int × Value)
  blackouts : List Blackout
  boundaryStamps : Nat
  nonNumeric : Nat

structure Export (Value : Type) where
  devicePrefix : Text
  series : List (Text × Series Value)
  start : Int
  end_ : Int

/-- `eid.split(".", 1)[-1]`. -/
def objectId (eid : Text) : Text := if '.' ∈ eid then (eid.dropWhile (· ≠ '.')).tail else eid

/-- The loop that shortens the prefix until the name starts with it. -/
def shorten (name : Text) : Nat → Text → Text
  | 0, start => start
  | turns + 1, start =>
    if start.isPrefixOf name then start else shorten name turns start.dropLast

/-- `prefix[:prefix.rfind("_") + 1]`, which is empty where there is none. -/
def upToUnderscore (text : Text) : Text := (text.reverse.dropWhile (· ≠ '_')).reverse

def devicePrefixOf (entityIds : List Text) : Text :=
  match entityIds.map objectId with
  | first :: second :: rest =>
    upToUnderscore
      ((second :: rest).foldl (fun start name => shorten name start.length start) first)
  | _ => []

/-- The key of an entity's series. -/
def shortName (devicePrefix entity : Text) : Text :=
  let short := objectId entity
  if devicePrefix.isPrefixOf short then short.drop devicePrefix.length else short

/-- The order of the sort key, stamp and entity. -/
def rowLe (r s : Row) : Prop := r.stamp < s.stamp ∨ r.stamp = s.stamp ∧ r.entity ≤ s.entity

instance : DecidableRel rowLe := fun r s =>
  inferInstanceAs (Decidable (r.stamp < s.stamp ∨ r.stamp = s.stamp ∧ r.entity ≤ s.entity))

def sortRows (rows : List Row) : List Row := rows.insertionSort rowLe

def entityIds (rows : List Row) : List Text :=
  (((rows.map Row.entity).filter (· ≠ [])).dedup).insertionSort (· ≤ ·)

structure Reading (Value : Type) where
  samples : List (Int × Value) := []
  blackouts : List Blackout := []
  boundary : Nat := 0
  nonNumeric : Nat := 0
  pending : Option (Int × Text) := none

section Load

variable {Value : Type} (py : PyFloat) (parse : Text → Option Value) (start end_ : Int)

def blackout (pendingStart : Int) (marker : Text) (stamp : Int) (edge : Bool) : Blackout :=
  { start := pendingStart, end_ := stamp, seconds := totalSeconds py (stamp - pendingStart)
    marker := marker, edge := edge }

def readRow (reading : Reading Value) (row : Int × Text) : Reading Value :=
  if notANumber row.2 then
    { reading with
      pending := some (reading.pending.getD (row.1, row.2)) }
  else
    match parse row.2 with
    | none => { reading with nonNumeric := reading.nonNumeric + 1 }
    | some value =>
      { samples := reading.samples ++ [(row.1, value)]
        blackouts := reading.blackouts ++ (reading.pending.map fun pending =>
          blackout py pending.1 pending.2 row.1 (pending.1 == start)).toList
        boundary := reading.boundary + if row.1 = start ∨ row.1 = end_ then 1 else 0
        nonNumeric := reading.nonNumeric
        pending := none }

def readSeries (devicePrefix entity : Text) (rows : List (Int × Text)) : Series Value :=
  let reading := rows.foldl (readRow py parse start end_) {}
  { name := shortName devicePrefix entity
    entityId := entity
    samples := reading.samples
    blackouts := reading.blackouts ++ (reading.pending.map fun pending =>
      blackout py pending.1 pending.2 end_ true).toList
    boundaryStamps := reading.boundary
    nonNumeric := reading.nonNumeric }

end Load

/-- `ValueError` on an export without rows. -/
inductive LoadError where
  | noRows
  deriving DecidableEq, Repr

/-- An export that has an `entity_id` column and no prefix given. -/
def loadExport {Value : Type} (py : PyFloat) (parse : Text → Option Value) (csv : List Row) :
    Except LoadError (Export Value) :=
  let rows := sortRows csv
  match rows.head?, rows.getLast? with
  | some first, some last =>
    let devicePrefix := devicePrefixOf (entityIds rows)
    let byEntity := Dict.groupBy Row.entity (fun row => (row.stamp, row.state)) rows
    .ok
      { devicePrefix := devicePrefix
        series := Dict.ofEntries (byEntity.map fun entry =>
          (shortName devicePrefix entry.1,
            readSeries py parse first.stamp last.stamp devicePrefix entry.1 entry.2))
        start := first.stamp
        end_ := last.stamp }
  | _, _ => .error .noRows

/-! ## `cycle_anchors` -/

section Cycles

variable {Value : Type} (py : PyFloat)

/-- The stamps of the named series that the export has, sorted. -/
def anchorStamps (export_ : Export Value) (names : List Text) : List Int :=
  (names.flatMap fun name =>
    (export_.series.lookup name).elim [] fun series => series.samples.map Prod.fst).insertionSort
      (· ≤ ·)

def clusterStep (window : Int) (anchors : List Int) (stamp : Int) : List Int :=
  match anchors.getLast? with
  | none => anchors ++ [stamp]
  | some last => if window ≤ stamp - last then anchors ++ [stamp] else anchors

def anchorGaps (anchors : List Int) : List ℚ :=
  (steps anchors).map fun gap => totalSeconds py (gap.2 - gap.1)

/-- `AnchorError`: no samples, or the smallest gap is too close to epsilon. -/
inductive AnchorError where
  | noSamples
  | tooClose (gap : ℚ)
  deriving DecidableEq, Repr

/-- `min(gaps) < epsilon_s * 1.5` for the smallest of them. -/
def refused (epsilon : Seconds py) (gap : ℚ) : Prop := gap < py.round (epsilon.value * (3 / 2))

instance (epsilon : Seconds py) (gap : ℚ) : Decidable (refused py epsilon gap) :=
  inferInstanceAs (Decidable (gap < py.round (epsilon.value * (3 / 2))))

def cycleAnchors (export_ : Export Value) (names : List Text) (epsilon : Seconds py) :
    Except AnchorError (List Int) :=
  let stamps := anchorStamps export_ names
  if stamps = [] then .error .noSamples
  else
    let anchors := stamps.foldl (clusterStep (py.timedelta epsilon.value)) []
    match (anchorGaps py anchors).min? with
    | none => .ok anchors
    | some gap => if refused py epsilon gap then .error (.tooClose gap) else .ok anchors

/-- A window lies between them. -/
def far (window a b : Int) : Prop := window ≤ b - a

instance (window : Int) : DecidableRel (far window) := fun a b =>
  inferInstanceAs (Decidable (window ≤ b - a))

theorem widens_far (window : Int) : Widens (far window) := by
  intro a b c le away
  simp only [far] at *
  omega

theorem foldl_clusterStep (window : Int) (anchors stamps : List Int) :
    stamps.foldl (clusterStep window) anchors =
      anchors ++ spaced (far window) anchors.getLast? stamps := by
  induction stamps generalizing anchors with
  | nil => simp [spaced]
  | cons stamp rest ih =>
    rw [List.foldl_cons, ih, spaced]
    cases last : anchors.getLast? with
    | none =>
      obtain rfl : anchors = [] := List.getLast?_eq_none_iff.mp last
      simp [clusterStep]
    | some a =>
      by_cases away : window ≤ stamp - a
      · have step : clusterStep window anchors stamp = anchors ++ [stamp] := by
          simp [clusterStep, last, away]
        rw [step, if_pos (by rintro b ⟨⟩; exact away)]
        simp
      · have step : clusterStep window anchors stamp = anchors := by
          simp [clusterStep, last, away]
        rw [step, if_neg (fun all => away (all a rfl)), last]

theorem anchorStamps_sorted (export_ : Export Value) (names : List Text) :
    (anchorStamps export_ names).Pairwise (· ≤ ·) :=
  List.pairwise_insertionSort _ _

/-- The anchors, when no two neighbours are too close. -/
theorem cycleAnchors_ok_iff {py : PyFloat} (export_ : Export Value) (names : List Text)
    (epsilon : Seconds py) (anchors : List Int) :
    cycleAnchors py export_ names epsilon = .ok anchors ↔
      anchorStamps export_ names ≠ [] ∧
        anchors = spaced (far (py.timedelta epsilon.value)) none (anchorStamps export_ names) ∧
        ∀ pair ∈ steps anchors, ¬refused py epsilon (totalSeconds py (pair.2 - pair.1)) := by
  unfold cycleAnchors
  dsimp only
  rw [foldl_clusterStep, List.nil_append, List.getLast?_nil]
  generalize spaced (far (py.timedelta epsilon.value)) none (anchorStamps export_ names) = found
  by_cases none_ : anchorStamps export_ names = []
  · simp [none_]
  rw [if_neg none_]
  have smallest : (∃ gap, (anchorGaps py found).min? = some gap ∧ refused py epsilon gap) ↔
      ∃ pair ∈ steps found, refused py epsilon (totalSeconds py (pair.2 - pair.1)) := by
    constructor
    · rintro ⟨gap, least, close⟩
      obtain ⟨pair, member, rfl⟩ := List.mem_map.mp (List.min?_eq_some_iff.mp least).1
      exact ⟨pair, member, close⟩
    · rintro ⟨pair, member, close⟩
      have among := List.mem_map_of_mem (f := fun gap : Int × Int =>
        totalSeconds py (gap.2 - gap.1)) member
      cases least : (anchorGaps py found).min? with
      | none =>
        rw [List.min?_eq_none_iff] at least
        rw [anchorGaps] at least
        simp [least] at among
      | some gap =>
        exact ⟨gap, rfl, lt_of_le_of_lt ((List.min?_eq_some_iff.mp least).2 _ among) close⟩
  constructor
  · intro result
    have all : ∀ pair ∈ steps found, ¬refused py epsilon (totalSeconds py (pair.2 - pair.1)) := by
      intro pair member close
      obtain ⟨gap, least, close⟩ := smallest.mpr ⟨pair, member, close⟩
      rw [least] at result
      simp [close] at result
    cases least : (anchorGaps py found).min? with
    | none =>
      rw [least] at result
      cases result
      exact ⟨none_, rfl, all⟩
    | some gap =>
      have open_ : ¬refused py epsilon gap := by
        intro close
        obtain ⟨pair, member, close⟩ := smallest.mp ⟨gap, least, close⟩
        exact all pair member close
      rw [least] at result
      simp only [if_neg open_] at result
      cases result
      exact ⟨none_, rfl, all⟩
  · rintro ⟨-, rfl, all⟩
    cases least : (anchorGaps py anchors).min? with
    | none => rfl
    | some gap =>
      have open_ : ¬refused py epsilon gap := by
        intro close
        obtain ⟨pair, member, close⟩ := smallest.mp ⟨gap, least, close⟩
        exact all pair member close
      simp only [if_neg open_]

/-! ## `cycle_table` -/

structure Column (Value : Type) where
  name : Text
  values : List (Option Value)
  sampled : Nat
  held : Nat
  missing : Nat

structure CycleTable (py : PyFloat) (Value : Type) where
  anchors : List Int
  columns : List (Text × Column Value)
  epsilon : Seconds py
  maxHold : Seconds py

/-- `bisect_left` on sorted stamps. -/
def bisectLeft (stamps : List Int) (stamp : Int) : Nat :=
  (stamps.takeWhile fun other => decide (other < stamp)).length

/-- The sample at `bisect_left(stamps, stamp) - 1`, if that is an index. -/
def sampleBefore (samples : List (Int × Value)) (stamp : Int) : Option (Int × Value) :=
  match bisectLeft (samples.map Prod.fst) stamp with
  | 0 => none
  | index + 1 => samples[index]?

/-- One turn of the loop over the anchors. -/
def addCell (window : Int) (maxHold : Seconds py) (samples : List (Int × Value))
    (column : Column Value) (anchor : Int) : Column Value :=
  match (sampleBefore samples (anchor + window)).filter fun sample =>
    decide (anchor ≤ sample.1) with
  | some sample =>
    { column with values := column.values ++ [some sample.2], sampled := column.sampled + 1 }
  | none =>
    match (sampleBefore samples anchor).filter fun sample =>
        decide (totalSeconds py (anchor - sample.1) ≤ maxHold.value) with
    | some sample =>
      { column with values := column.values ++ [some sample.2], held := column.held + 1 }
    | none => { column with values := column.values ++ [none], missing := column.missing + 1 }

/-- `series_for`: a lone series answers to every name. -/
def seriesFor (export_ : Export Value) (name : Text) : Option (Series Value) :=
  match export_.series.lookup name with
  | some series => some series
  | none =>
    match export_.series with
    | [only] => some only.2
    | _ => none

/-- `KeyError`: no series of that name. -/
inductive TableError where
  | noSeries (name : Text)
  deriving DecidableEq, Repr

def cycleColumns (window : Int) (maxHold : Seconds py) (export_ : Export Value)
    (anchors : List Int) : List Text → List (Text × Column Value) →
      Except TableError (List (Text × Column Value))
  | [], columns => .ok columns
  | name :: names, columns =>
    match seriesFor export_ name with
    | none => .error (.noSeries name)
    | some series =>
      let column := anchors.foldl (addCell py window maxHold series.samples)
        { name := name, values := [], sampled := 0, held := 0, missing := 0 }
      cycleColumns window maxHold export_ anchors names (Dict.set name column columns)

def cycleTable (export_ : Export Value) (anchors : List Int) (names : List Text)
    (epsilon maxHold : Seconds py) : Except TableError (CycleTable py Value) :=
  match cycleColumns py (py.timedelta epsilon.value) maxHold export_ anchors names [] with
  | .error error => .error error
  | .ok columns =>
    .ok { anchors := anchors, columns := columns, epsilon := epsilon, maxHold := maxHold }

end Cycles

end SleepySensor.HaHistory
