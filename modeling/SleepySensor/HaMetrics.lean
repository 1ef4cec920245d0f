import SleepySensor.PowerModel
import SleepySensor.Reconstruction

/-!
# The measurement of a window

`build_window` and `phase_totals` of `tools/ha_log_metrics.py`, and the two runs
of the power model on what they give.  From the table on the arithmetic is exact.
-/

set_option autoImplicit false

namespace SleepySensor.HaMetrics

open SleepySensor.HaHistory SleepySensor.Reconstruction SleepySensor.PowerModel

variable {py : PyFloat}

/-! ## `build_window` -/

def hpAwakeTime : Text := "hp_awake_time".toList
def radioTxTime : Text := "radio_tx_time".toList
def radioRxTime : Text := "radio_rx_time".toList

def perCycleEntities : List Text :=
  [hpAwakeTime, radioTxTime, radioRxTime, "heater_run_count".toList, "voltage".toList,
    "battery".toList, "temperature".toList, "cca_failures".toList]

structure Window (py : PyFloat) where
  start : Int
  end_ : Int
  seconds : ℚ
  nCycles : Nat
  cadenceS : ℚ
  anchors : List Int
  table : CycleTable py ℚ

/-- `AnchorError`, `KeyError` and `ZeroDivisionError`. -/
inductive WindowError where
  | anchors (error : AnchorError)
  | table (error : TableError)
  | divisionByZero
  deriving DecidableEq, Repr

def buildWindow (export_ : Export ℚ) (epsilon maxHold : Seconds py) :
    Except WindowError (Window py) :=
  match cycleAnchors py export_ perCycleEntities epsilon with
  | .error error => .error (.anchors error)
  | .ok anchors =>
    match cycleTable py export_ anchors perCycleEntities epsilon maxHold with
    | .error error => .error (.table error)
    | .ok table =>
      let seconds := totalSeconds py (anchors.getLastD 0 - anchors.headD 0)
      if (anchors.length : ℚ) - 1 = 0 then .error .divisionByZero
      else
        .ok
          { start := anchors.headD 0
            end_ := anchors.getLastD 0
            seconds := seconds
            nCycles := anchors.length
            cadenceS := seconds / (anchors.length - 1)
            anchors := anchors
            table := table }

/-! ## `phase_totals` -/

structure Totals where
  tx : ℚ := 0
  rx : ℚ := 0
  cpu : ℚ := 0
  awake : ℚ := 0
  cycles : Nat := 0
  negatives : Nat := 0
  outlierCount : Nat := 0
  outlierMs : ℚ := 0
  deriving DecidableEq, Repr

/-- One turn, on the cells of the three columns. -/
def addCycle (outlierMs : ℚ) (totals : Totals) : Option ℚ × Option ℚ × Option ℚ → Totals
  | (some tx, some rx, some awake) =>
    let cpu := awake - tx - rx
    { tx := totals.tx + tx
      rx := totals.rx + rx
      cpu := totals.cpu + if cpu < 0 then 0 else cpu
      awake := totals.awake + awake
      cycles := totals.cycles + 1
      negatives := totals.negatives + if cpu < 0 then 1 else 0
      outlierCount := totals.outlierCount + if outlierMs < awake then 1 else 0
      outlierMs := totals.outlierMs + if outlierMs < awake then awake else 0 }
  | _ => totals

structure PhaseTotals where
  txS : ℚ
  rxS : ℚ
  cpuS : ℚ
  awakeS : ℚ
  cycles : Nat
  negatives : Nat
  outlierCount : Nat
  outlierS : ℚ
  outlierUa : ℚ
  deriving DecidableEq, Repr

/-- `KeyError` and `ZeroDivisionError`. -/
inductive TotalsError where
  | noColumn (name : Text)
  | divisionByZero
  deriving DecidableEq, Repr

def columnValues (window : Window py) (name : Text) : Except TotalsError (List (Option ℚ)) :=
  (window.table.columns.lookup name).elim (.error (.noColumn name)) fun column => .ok column.values

def phaseTotals (window : Window py) (outlierMs : ℚ) (cpuCurrentMa : Option ℚ) :
    Except TotalsError PhaseTotals := do
  let cpuMa := cpuCurrentMa.getD ((cpuCurrentMaLow + cpuCurrentMaHigh) / 2)
  let txMs ← columnValues window radioTxTime
  let rxMs ← columnValues window radioRxTime
  let awakeMs ← columnValues window hpAwakeTime
  let totals := (txMs.zip (rxMs.zip awakeMs)).foldl (addCycle outlierMs) {}
  if window.seconds = 0 then .error .divisionByZero
  else
    .ok
      { txS := totals.tx / 1000
        rxS := totals.rx / 1000
        cpuS := totals.cpu / 1000
        awakeS := totals.awake / 1000
        cycles := totals.cycles
        negatives := totals.negatives
        outlierCount := totals.outlierCount
        outlierS := totals.outlierMs / 1000
        outlierUa := totals.outlierMs / 1000 * cpuMa * 1000 / window.seconds }

def PhaseTotals.times (totals : PhaseTotals) : PhaseTimes :=
  { txS := totals.txS, rxS := totals.rxS, cpuS := totals.cpuS }

def modelPhaseTimes (totals : PhaseTotals) : Except TotalsError PhaseTimes :=
  if totals.cycles = 0 then .error .divisionByZero else .ok (totals.times.per totals.cycles)

/-! ## The cells of a publish -/

section Cells

variable {epsilon maxHold longHold : Seconds py} {names : List Text}
  {publishes : List (Publish ℚ)} {name : Text}

/-- No value of a name stands for longer than it is held. -/
def HeldWithin (epsilon maxHold : Seconds py) (publishes : List (Publish ℚ)) (name : Text) : Prop :=
  ∀ before publish unchanged later after,
    publishes = before ++ publish :: (unchanged ++ later :: after) →
    (∀ other ∈ unchanged ++ [later], other.value name = publish.value name) →
    ((later.instant - publish.instant : Int) : ℚ) ≤ (maxHold.value - epsilon.value) * 1000000

/-- The cell of a publish has its value, or is empty where a value stood too long. -/
def Shows (epsilon maxHold : Seconds py) (publishes : List (Publish ℚ)) (name : Text)
    (publish : Publish ℚ) (cell : Option ℚ) : Prop :=
  cell = some (publish.value name) ∨ cell = none ∧ ¬HeldWithin epsilon maxHold publishes name

theorem addCell_missing {window : Int} {samples : List (Int × ℚ)} {column : Column ℚ}
    {anchor : Int} {sample : Int × ℚ}
    (found : sampleBefore samples (anchor + window) = some sample) (outside : sample.1 < anchor)
    (before : sampleBefore samples anchor = some sample)
    (stale : ¬totalSeconds py (anchor - sample.1) ≤ maxHold.value) :
    addCell py window maxHold samples column anchor =
      { column with values := column.values ++ [none], missing := column.missing + 1 } := by
  have miss : (some sample).filter (fun s => decide (anchor ≤ s.1)) = none := by
    simp [outside]
  have old : (some sample).filter (fun s =>
      decide (totalSeconds py (anchor - s.1) ≤ maxHold.value)) = none := by
    simpa using stale
  unfold addCell
  rw [found, miss, before, old]

variable (published : Published epsilon longHold names publishes)
  (positive : 0 < py.timedelta epsilon.value) (known : name ∈ names)

include published known

theorem fresh_of_held {before rest : List (Publish ℚ)} {publish : Publish ℚ} {anchor : Int}
    (split_ : publishes = before ++ publish :: rest)
    (anchors : Anchor names before.getLast? publish anchor)
    {init unchanged : List (Publish ℚ)} {left : Publish ℚ}
    (last : LastLeft name before init left unchanged)
    (drops : ¬survives name before.getLast? publish = true)
    (held : HeldWithin epsilon maxHold publishes name) :
    totalSeconds py (anchor - left.stamp name) ≤ maxHold.value := by
  obtain ⟨among, -, -⟩ := published.split_ split_
  obtain ⟨first, knownFirst, -, rfl⟩ := mem_block.mp anchors.mem
  have inside : left ∈ publishes := by simp [split_, last.split_]
  have stood := held init left unchanged publish rest (by simp [split_, last.split_]) (by
    intro other member
    rcases List.mem_append.mp member with member | member
    · exact last.same other member
    · rw [List.mem_singleton.mp member]
      exact last.value_eq drops)
  obtain ⟨-, small⟩ := published.spread publish among first knownFirst
  obtain ⟨early, late⟩ := published.spread left inside name known
  have early' : (left.instant : ℚ) ≤ left.stamp name := by exact_mod_cast early
  have within : ((publish.stamp first - left.stamp name : Int) : ℚ) / 1000000 ≤ maxHold.value := by
    rw [div_le_iff₀ (by norm_num)]
    push_cast at small late stood ⊢
    linarith
  calc totalSeconds py (publish.stamp first - left.stamp name) ≤ py.round maxHold.value :=
      py.mono within
    _ = maxHold.value := maxHold.exact_

include positive

theorem addCell_shows {before rest : List (Publish ℚ)} {publish : Publish ℚ} {anchor : Int}
    (split_ : publishes = before ++ publish :: rest)
    (anchors : Anchor names before.getLast? publish anchor) (column : Column ℚ) :
    ∃ cell, (addCell py (py.timedelta epsilon.value) maxHold (surviving name none publishes)
        column anchor).values = column.values ++ [cell] ∧
      Shows epsilon maxHold publishes name publish cell := by
  obtain ⟨earlier, here, behind⟩ := rows_around published positive known split_ anchors
  have samples := @surviving_concat _ _ name none before publish rest
  rw [← split_, Option.or_none] at samples
  by_cases left : survives name before.getLast? publish = true
  · rw [if_pos left, ← List.append_assoc] at samples
    have found : sampleBefore (surviving name none publishes)
        (anchor + py.timedelta epsilon.value) = some (row name publish) := by
      rw [samples]
      refine sampleBefore_append ?_ behind
      intro s member
      rcases List.mem_append.mp member with member | member
      · have before_ := earlier s member
        omega
      · rw [List.mem_singleton.mp member]
        exact here
    have inside : anchor ≤ (row name publish).1 :=
      anchors.least _ (mem_block.mpr ⟨name, known, left, rfl⟩)
    rw [addCell_sampled found inside]
    exact ⟨_, rfl, .inl rfl⟩
  · rw [if_neg left, List.nil_append] at samples
    have some_ : before ≠ [] := by
      rintro rfl
      exact left rfl
    obtain ⟨init, last, unchanged, found⟩ := @exists_lastLeft _ _ name before some_
    obtain ⟨early, rows⟩ := found.rows
    rw [rows] at samples earlier
    have sees : ∀ bound, anchor ≤ bound → bound ≤ anchor + py.timedelta epsilon.value →
        sampleBefore (surviving name none publishes) bound = some (row name last) := by
      intro bound low high
      rw [samples]
      apply sampleBefore_append
      · intro s member
        exact lt_of_lt_of_le (earlier s member) low
      · intro s member
        exact high.trans (behind s member)
    have outside : (row name last).1 < anchor := earlier _ (by simp)
    have window := sees _ (by omega) le_rfl
    have start := sees anchor le_rfl (by omega)
    by_cases fresh : totalSeconds py (anchor - (row name last).1) ≤ maxHold.value
    · rw [addCell_held window outside start fresh]
      refine ⟨_, rfl, .inl ?_⟩
      rw [found.value_eq left]
      rfl
    · rw [addCell_missing window outside start fresh]
      refine ⟨none, rfl, .inr ⟨rfl, fun held => fresh ?_⟩⟩
      exact fresh_of_held published known split_ anchors found left held

theorem foldl_addCell_shows {before rest : List (Publish ℚ)} (split_ : publishes = before ++ rest)
    (column : Column ℚ) :
    ∃ cells, ((anchorsOf names before.getLast? rest).foldl
        (addCell py (py.timedelta epsilon.value) maxHold (surviving name none publishes))
          column).values = column.values ++ cells ∧
      List.Forall₂ (Shows epsilon maxHold publishes name) rest cells := by
  induction rest generalizing before column with
  | nil => exact ⟨[], by simp [anchorsOf, blocks], .nil⟩
  | cons publish rest ih =>
    obtain ⟨-, left, -⟩ := published.split_ split_
    obtain ⟨anchor, anchors, cons⟩ := @anchorsOf_cons _ _ _ _ _ rest left
    obtain ⟨cell, turn, shows_⟩ :=
      addCell_shows published positive known split_ anchors column
    have moved := @ih (before ++ [publish]) (by simp [split_])
    rw [List.getLast?_concat] at moved
    obtain ⟨cells, others, rest_⟩ := moved (addCell py (py.timedelta epsilon.value) maxHold
      (surviving name none publishes) column anchor)
    refine ⟨cell :: cells, ?_, .cons shows_ rest_⟩
    rw [cons, List.foldl_cons, others, turn, List.append_assoc]
    rfl

end Cells

/-! ## The totals of the publishes -/

section Sums

variable {epsilon maxHold : Seconds py} {publishes : List (Publish ℚ)} (outlierMs : ℚ)

/-- The residual of a publish, before it is clamped. -/
def residualMs (publish : Publish ℚ) : ℚ :=
  publish.value hpAwakeTime - publish.value radioTxTime - publish.value radioRxTime

def addPublish (totals : Totals) (publish : Publish ℚ) : Totals :=
  addCycle outlierMs totals (some (publish.value radioTxTime), some (publish.value radioRxTime),
    some (publish.value hpAwakeTime))

def phaseNames : List Text := [radioTxTime, radioRxTime, hpAwakeTime]

theorem addCycle_shows {publish : Publish ℚ} {tx rx awake : Option ℚ}
    (tx_ : Shows epsilon maxHold publishes radioTxTime publish tx)
    (rx_ : Shows epsilon maxHold publishes radioRxTime publish rx)
    (awake_ : Shows epsilon maxHold publishes hpAwakeTime publish awake) (totals : Totals) :
    addCycle outlierMs totals (tx, rx, awake) = addPublish outlierMs totals publish ∨
      addCycle outlierMs totals (tx, rx, awake) = totals ∧
        ∃ name ∈ phaseNames, ¬HeldWithin epsilon maxHold publishes name := by
  rcases tx_ with rfl | ⟨rfl, stale⟩
  · rcases rx_ with rfl | ⟨rfl, stale⟩
    · rcases awake_ with rfl | ⟨rfl, stale⟩
      · exact .inl rfl
      · exact .inr ⟨rfl, hpAwakeTime, by simp [phaseNames], stale⟩
    · exact .inr ⟨rfl, radioRxTime, by simp [phaseNames], stale⟩
  · exact .inr ⟨rfl, radioTxTime, by simp [phaseNames], stale⟩

theorem foldl_addCycle {rest : List (Publish ℚ)} {tx rx awake : List (Option ℚ)}
    (txs : List.Forall₂ (Shows epsilon maxHold publishes radioTxTime) rest tx)
    (rxs : List.Forall₂ (Shows epsilon maxHold publishes radioRxTime) rest rx)
    (awakes : List.Forall₂ (Shows epsilon maxHold publishes hpAwakeTime) rest awake)
    (totals : Totals) :
    ∃ counted, counted.Sublist rest ∧
      (tx.zip (rx.zip awake)).foldl (addCycle outlierMs) totals =
        counted.foldl (addPublish outlierMs) totals ∧
      ((∀ name ∈ phaseNames, HeldWithin epsilon maxHold publishes name) → counted = rest) := by
  induction rest generalizing tx rx awake totals with
  | nil =>
    cases txs
    exact ⟨[], .slnil, rfl, fun _ => rfl⟩
  | cons publish rest ih =>
    obtain ⟨txCell, txCells, tx_, txs', rfl⟩ := List.forall₂_cons_left_iff.mp txs
    obtain ⟨rxCell, rxCells, rx_, rxs', rfl⟩ := List.forall₂_cons_left_iff.mp rxs
    obtain ⟨awakeCell, awakeCells, awake_, awakes', rfl⟩ := List.forall₂_cons_left_iff.mp awakes
    rw [List.zip_cons_cons, List.zip_cons_cons, List.foldl_cons]
    rcases addCycle_shows outlierMs tx_ rx_ awake_ totals with
      counts | ⟨skipped, name, known, stale⟩
    · obtain ⟨counted, among, same, all⟩ :=
        ih txs' rxs' awakes' (addPublish outlierMs totals publish)
      refine ⟨publish :: counted, among.cons_cons publish, ?_, fun held => ?_⟩
      · rw [counts, same, List.foldl_cons]
      · rw [all held]
    · obtain ⟨counted, among, same, -⟩ := ih txs' rxs' awakes' totals
      refine ⟨counted, among.cons publish, ?_, fun held => absurd (held name known) stale⟩
      rw [skipped, same]

theorem foldl_addPublish (counted : List (Publish ℚ)) (totals : Totals) :
    counted.foldl (addPublish outlierMs) totals =
      { tx := totals.tx + (counted.map fun publish => publish.value radioTxTime).sum
        rx := totals.rx + (counted.map fun publish => publish.value radioRxTime).sum
        cpu := totals.cpu + (counted.map fun publish => max 0 (residualMs publish)).sum
        awake := totals.awake + (counted.map fun publish => publish.value hpAwakeTime).sum
        cycles := totals.cycles + counted.length
        negatives := totals.negatives + counted.countP fun publish =>
          decide (residualMs publish < 0)
        outlierCount := totals.outlierCount +
          counted.countP fun publish => decide (outlierMs < publish.value hpAwakeTime)
        outlierMs := totals.outlierMs + ((counted.filter fun publish =>
          decide (outlierMs < publish.value hpAwakeTime)).map fun publish =>
            publish.value hpAwakeTime).sum } := by
  induction counted generalizing totals with
  | nil => simp
  | cons publish counted ih =>
    have clamped : (if residualMs publish < 0 then 0 else residualMs publish) =
        max 0 (residualMs publish) := by
      split
      case isTrue below => rw [max_eq_left below.le]
      case isFalse above => rw [max_eq_right (not_lt.mp above)]
    have turn : addPublish outlierMs totals publish =
        { tx := totals.tx + publish.value radioTxTime
          rx := totals.rx + publish.value radioRxTime
          cpu := totals.cpu + max 0 (residualMs publish)
          awake := totals.awake + publish.value hpAwakeTime
          cycles := totals.cycles + 1
          negatives := totals.negatives + if residualMs publish < 0 then 1 else 0
          outlierCount := totals.outlierCount +
            if outlierMs < publish.value hpAwakeTime then 1 else 0
          outlierMs := totals.outlierMs + if outlierMs < publish.value hpAwakeTime then
            publish.value hpAwakeTime else 0 } := by
      rw [← clamped]
      rfl
    rw [List.foldl_cons, ih, turn]
    by_cases late : outlierMs < publish.value hpAwakeTime
    · by_cases below : residualMs publish < 0 <;>
        simp [late, below, add_assoc, add_comm]
    · by_cases below : residualMs publish < 0 <;>
        simp [late, below, add_assoc, add_comm]

/-- The totals of the publishes that count. -/
structure SumsOf (outlierMs : ℚ) (counted : List (Publish ℚ)) (totals : PhaseTotals) : Prop where
  txS : totals.txS = (counted.map fun publish => publish.value radioTxTime).sum / 1000
  rxS : totals.rxS = (counted.map fun publish => publish.value radioRxTime).sum / 1000
  cpuS : totals.cpuS = (counted.map fun publish => max 0 (residualMs publish)).sum / 1000
  awakeS : totals.awakeS = (counted.map fun publish => publish.value hpAwakeTime).sum / 1000
  cycles : totals.cycles = counted.length
  negatives : totals.negatives = counted.countP fun publish => decide (residualMs publish < 0)
  outlierCount : totals.outlierCount =
    counted.countP fun publish => decide (outlierMs < publish.value hpAwakeTime)
  outlierS : totals.outlierS = ((counted.filter fun publish =>
    decide (outlierMs < publish.value hpAwakeTime)).map fun publish =>
      publish.value hpAwakeTime).sum / 1000

end Sums

/-! ## A de-duplicated export -/

theorem seconds_pos {epsilon : Seconds py} (positive : 0 < py.timedelta epsilon.value)
    {anchors : List Int} (apart : anchors.Pairwise (RowsApart epsilon))
    (two : 2 ≤ anchors.length) :
    0 < totalSeconds py (anchors.getLastD 0 - anchors.headD 0) := by
  rcases anchors with _ | ⟨first, _ | ⟨second, rest⟩⟩
  · simp at two
  · simp at two
  · obtain ⟨far_, -⟩ := List.pairwise_cons.mp apart
    have last : (first :: second :: rest).getLastD 0 =
        (second :: rest).getLast (List.cons_ne_nil _ _) := by
      rw [List.getLastD_eq_getLast?, List.getLast?_eq_getLast_of_ne_nil (List.cons_ne_nil _ _),
        Option.getD_some, List.getLast_cons (List.cons_ne_nil _ _)]
    have open_ := (far_ _ (List.getLast_mem (List.cons_ne_nil second rest))).open_
    obtain ⟨-, near⟩ := abs_lt.mp (py.near epsilon.value)
    have one : (1 : ℚ) ≤ py.timedelta epsilon.value := by exact_mod_cast positive
    have some_ : 0 < epsilon.value := by linarith
    have more := py.more epsilon.value some_ epsilon.exact_
    rw [last, List.headD_cons]
    exact lt_of_lt_of_le (some_.trans more) (not_lt.mp open_)

section Published

variable {epsilon longHold : Seconds py} {publishes : List (Publish ℚ)} {export_ : Export ℚ}
  (maxHold : Seconds py)
  (published : Published epsilon longHold perCycleEntities publishes)
  (loads : Loads export_ perCycleEntities publishes) (two : 2 ≤ publishes.length)
  (positive : 0 < py.timedelta epsilon.value)

include published loads two positive

/-- The window of at least two publishes has a cycle for each, lasts for some
time, and has a column for every name. -/
theorem buildWindow_published : ∃ window : Window py,
    buildWindow export_ epsilon maxHold = .ok window ∧ window.nCycles = publishes.length ∧
      0 < window.seconds ∧ window.cadenceS = window.seconds / (publishes.length - 1) ∧
        ∀ name ∈ perCycleEntities, ∃ cells, columnValues window name = .ok cells ∧
          List.Forall₂ (Shows epsilon maxHold publishes name) publishes cells := by
  have whole : publishes = [] ++ publishes := rfl
  have some_ : publishes ≠ [] := by
    rintro rfl
    simp at two
  have anchored := cycleAnchors_ok published positive loads some_
  obtain ⟨apart, length⟩ := anchorsOf_apart published positive whole
  rw [List.getLast?_nil] at apart length
  obtain ⟨columns, built, content⟩ := @cycleColumns_ok _ py maxHold perCycleEntities export_
    (py.timedelta epsilon.value) (anchorsOf perCycleEntities none publishes)
    (fun name => surviving name none publishes) loads []
  have table : cycleTable py export_ (anchorsOf perCycleEntities none publishes) perCycleEntities
      epsilon maxHold = .ok { anchors := anchorsOf perCycleEntities none publishes
                              columns := columns, epsilon := epsilon, maxHold := maxHold } := by
    unfold cycleTable
    rw [built]
  have gaps : ¬((anchorsOf perCycleEntities none publishes).length : ℚ) - 1 = 0 := by
    have several : (2 : ℚ) ≤ publishes.length := by exact_mod_cast two
    rw [length]
    linarith
  have seconds := seconds_pos positive apart (two.trans length.ge)
  have window := buildWindow.eq_def export_ epsilon maxHold
  rw [anchored] at window
  dsimp only at window
  rw [table] at window
  dsimp only at window
  rw [if_neg gaps] at window
  refine ⟨_, window, length, seconds, by rw [length], fun name known => ?_⟩
  obtain ⟨cells, values, shows_⟩ := @foldl_addCell_shows _ _ maxHold _ _ _ _ published positive
    known [] _ whole { name := name, values := [], sampled := 0, held := 0, missing := 0 }
  refine ⟨cells, ?_, shows_⟩
  unfold columnValues
  dsimp only
  rw [content name, if_pos known]
  exact congrArg Except.ok values

omit published loads two positive in
theorem phaseTotals_columns {window : Window py} (seconds : 0 < window.seconds)
    (columns : ∀ name ∈ perCycleEntities, ∃ cells, columnValues window name = .ok cells ∧
      List.Forall₂ (Shows epsilon maxHold publishes name) publishes cells)
    (outlierMs : ℚ) (cpuCurrentMa : Option ℚ) :
    ∃ totals counted, phaseTotals window outlierMs cpuCurrentMa = .ok totals ∧
      counted.Sublist publishes ∧ SumsOf outlierMs counted totals ∧
        ((∀ name ∈ phaseNames, HeldWithin epsilon maxHold publishes name) →
          counted = publishes) := by
  obtain ⟨tx, txCells, txs⟩ := columns radioTxTime (by simp [perCycleEntities])
  obtain ⟨rx, rxCells, rxs⟩ := columns radioRxTime (by simp [perCycleEntities])
  obtain ⟨awake, awakeCells, awakes⟩ := columns hpAwakeTime (by simp [perCycleEntities])
  obtain ⟨counted, among, same, all⟩ := foldl_addCycle outlierMs txs rxs awakes {}
  have totals := phaseTotals.eq_def window outlierMs cpuCurrentMa
  rw [txCells, rxCells, awakeCells] at totals
  change _ = ite _ _ _ at totals
  rw [if_neg seconds.ne', same, foldl_addPublish] at totals
  refine ⟨_, counted, totals, among, ?_, all⟩
  constructor <;> simp

end Published

/-! ## Two cycles -/

/-- Only the awake time changes. -/
def cycleAt (instant : Int) (awake : ℚ) : Publish ℚ where
  instant := instant
  stamp _ := instant
  value name := if name = hpAwakeTime then awake else 10

def twoCycles : List (Publish ℚ) := [cycleAt 0 900, cycleAt 300000000 950]

def exportOf (publishes : List (Publish ℚ)) : Export ℚ where
  devicePrefix := []
  series := perCycleEntities.map fun name => (name,
    { name := name, entityId := name, samples := surviving name none publishes
      blackouts := [], boundaryStamps := 2, nonNumeric := 0 })
  start := 0
  end_ := 300000000

theorem loads_exportOf (publishes : List (Publish ℚ)) :
    Loads (exportOf publishes) perCycleEntities publishes := by
  intro name known
  simp only [perCycleEntities, List.mem_cons, List.not_mem_nil, or_false] at known
  rcases known with rfl | rfl | rfl | rfl | rfl | rfl | rfl | rfl <;> exact ⟨_, rfl, rfl⟩

theorem held_twoCycles (name : Text) : HeldWithin (exactly 5) (exactly 7200) twoCycles name := by
  rintro before publish unchanged later after split_ -
  have count := congrArg List.length split_
  simp only [twoCycles, List.length_append, List.length_cons, List.length_nil] at count
  obtain rfl : before = [] := List.eq_nil_of_length_eq_zero (by omega)
  obtain rfl : unchanged = [] := List.eq_nil_of_length_eq_zero (by omega)
  cases split_
  decide +kernel

theorem published_twoCycles :
    Published (exactly 5) (exactly 7200) perCycleEntities twoCycles where
  spread := by
    intro publish member name _
    have together : publish.stamp name = publish.instant := by
      rcases List.mem_pair.mp member with rfl | rfl <;> rfl
    rw [together, sub_self]
    exact ⟨le_rfl, by decide +kernel⟩
  apart := by decide +kernel
  changes := by
    rintro (_ | ⟨first, _ | ⟨second, before⟩⟩) publish after split_
    · cases split_
      exact ⟨hpAwakeTime, by simp [perCycleEntities], rfl⟩
    · cases split_
      exact ⟨hpAwakeTime, by simp [perCycleEntities], by decide +kernel⟩
    · simp [twoCycles] at split_
  held name _ := held_twoCycles name

end SleepySensor.HaMetrics
