import SleepySensor.Lib.LeastSquares
import SleepySensor.PowerModel

/-!
# The current from a voltage history

`decay_fit` of `tools/battery_power_from_history.py` with the fit of
`ha_history.py` under it, in exact arithmetic: the voltages become percent by the
tool's copy of the firmware's curve, and a line is fitted in which each row
counts for as long as it stood.
-/

set_option autoImplicit false

namespace SleepySensor.BatteryHistory

open SleepySensor.LeastSquares
open SleepySensor.PowerModel (alongPoints packCapacityMah packEnergyMwh)

/-! ## `weighted_least_squares_slope` and `ordinary_least_squares_slope` -/

/-- `ValueError`, and the `StatisticsError` of `statistics.linear_regression`. -/
inductive FitError where
  | noWeight
  | noSpan
  | tooFewPoints
  deriving DecidableEq, Repr

structure LinearFit where
  slope : ℚ
  intercept : ℚ
  deriving DecidableEq, Repr

def pointsOf (hours values weights : List ℚ) : List (Point ℚ) :=
  (hours.zip (values.zip weights)).map fun entry =>
    { x := entry.1, y := entry.2.1, w := entry.2.2 }

def weightedLeastSquaresSlope (hours values weights : List ℚ) : Except FitError LinearFit :=
  let totalW := weights.sum
  if totalW ≤ 0 then .error .noWeight
  else
    let meanX := (List.zipWith (· * ·) weights hours).sum / totalW
    let meanY := (List.zipWith (· * ·) weights values).sum / totalW
    let points := pointsOf hours values weights
    let covariance := (points.map fun p => p.w * (p.x - meanX) * (p.y - meanY)).sum
    let variance := (List.zipWith (fun w x => w * (x - meanX) ^ 2) weights hours).sum
    if variance ≤ 0 then .error .noSpan
    else
      let slope := covariance / variance
      .ok { slope := slope, intercept := meanY - slope * meanX }

/-- `statistics.linear_regression`. -/
def ordinaryLeastSquaresSlope (hours values : List ℚ) : Except FitError LinearFit :=
  if hours.length < 2 then .error .tooFewPoints
  else
    let xbar := hours.sum / hours.length
    let ybar := values.sum / hours.length
    let sxy := (List.zipWith (fun x y => (x - xbar) * (y - ybar)) hours values).sum
    let sxx := (hours.map fun x => (x - xbar) ^ 2).sum
    if sxx = 0 then .error .noSpan
    else
      let slope := sxy / sxx
      .ok { slope := slope, intercept := ybar - slope * xbar }

/-! ## The curve -/

/-- `BATTERY_CURVE`. -/
def batteryCurve : List (Int × Int) :=
  [(3270, 0), (3610, 5), (3690, 10), (3710, 15), (3730, 20), (3750, 25), (3770, 30), (3790, 35),
   (3800, 40), (3820, 45), (3840, 50), (3850, 55), (3870, 60), (3910, 65), (3950, 70), (3980, 75),
   (4020, 80), (4080, 85), (4110, 90), (4150, 95), (4200, 100)]

def etalonSoc (mv : ℚ) : Option ℚ :=
  if mv ≤ 3270 then some 0
  else if 4200 ≤ mv then some 100
  else alongPoints mv (3270, 0) batteryCurve.tail

/-- Arithmetic on a `None` would be a `TypeError`. -/
def voltageToPercent (mv : ℚ) : Option ℚ :=
  (etalonSoc 3300).bind fun socMin => (etalonSoc 4120).bind fun socMax =>
    (etalonSoc mv).map fun soc => max 0 (min 100 ((soc - socMin) / (socMax - socMin) * 100))

/-! ## `decay_fit` -/

def maxDwellH : ℚ := 2

def median (values : List ℚ) : ℚ :=
  let sorted := values.insertionSort (· ≤ ·)
  let half := sorted.length / 2
  if sorted.length % 2 = 1 then sorted.getD half 0
  else (sorted.getD (half - 1) 0 + sorted.getD half 0) / 2

def gapsOf : List ℚ → List ℚ
  | a :: b :: rest =>
    let gap := min (b - a) maxDwellH
    (if 0 < gap then gap else 0) :: gapsOf (b :: rest)
  | _ => []

def dwellWeights (hours : List ℚ) : List ℚ :=
  if hours.length < 2 then hours.map fun _ => 1
  else
    let gaps := gapsOf hours
    let positive := gaps.filter fun gap => decide (0 < gap)
    gaps ++ [if positive = [] then 1 else median positive]

structure Decay where
  hours : List ℚ
  percents : List ℚ
  weights : List ℚ
  totalHours : ℚ
  meanV : ℚ
  slope : ℚ
  pctStart : ℚ
  pctEnd : ℚ
  pctDelta : ℚ
  mwhUsed : ℚ
  meanMw : ℚ
  meanMa : ℚ
  runtimeDays : ℚ
  deriving DecidableEq, Repr

/-- `IndexError`, `TypeError`, what the fit raises, and `ZeroDivisionError`. -/
inductive DecayError where
  | noReadings
  | noPercent
  | fit (error : FitError)
  | divisionByZero
  deriving DecidableEq, Repr

/-- The stamp of a reading counts microseconds. -/
def decayFit (readings : List (Int × ℚ)) : Except DecayError Decay :=
  match readings with
  | [] => .error .noReadings
  | (t0, _) :: _ =>
    let hours := readings.map fun reading => ((reading.1 - t0 : Int) : ℚ) / 1000000 / 3600
    let voltages := readings.map Prod.snd
    match voltages.mapM fun v => voltageToPercent (v * 1000) with
    | none => .error .noPercent
    | some percents =>
      let totalHours := hours.getLastD 0
      let weights := dwellWeights hours
      match weightedLeastSquaresSlope hours percents weights with
      | .error error => .error (.fit error)
      | .ok fit =>
        let pctEnd := fit.intercept + fit.slope * totalHours
        let pctDelta := fit.intercept - pctEnd
        let mwhUsed := pctDelta / 100 * packEnergyMwh
        let meanMw := mwhUsed / totalHours
        if totalHours = 0 ∨ meanMw = 0 then .error .divisionByZero
        else
          .ok
            { hours := hours
              percents := percents
              weights := weights
              totalHours := totalHours
              meanV := voltages.sum / voltages.length
              slope := fit.slope
              pctStart := fit.intercept
              pctEnd := pctEnd
              pctDelta := pctDelta
              mwhUsed := mwhUsed
              meanMw := meanMw
              meanMa := pctDelta / 100 * packCapacityMah / totalHours
              runtimeDays := packEnergyMwh / meanMw / 24 }

/-! ## The fit -/

section Fit

variable {hours values weights : List ℚ}

theorem pointsOf_cons (h v w : ℚ) :
    pointsOf (h :: hours) (v :: values) (w :: weights) =
      { x := h, y := v, w := w } :: pointsOf hours values weights := rfl

theorem sum_weights (sameV : values.length = hours.length) (sameW : weights.length = hours.length) :
    weights.sum = weight (pointsOf hours values weights) := by
  induction hours generalizing values weights with
  | nil =>
    obtain rfl := List.eq_nil_of_length_eq_zero sameW
    rfl
  | cons h hours ih =>
    obtain ⟨v, values, rfl⟩ := List.exists_cons_of_length_eq_add_one sameV
    obtain ⟨w, weights, rfl⟩ := List.exists_cons_of_length_eq_add_one sameW
    rw [pointsOf_cons, weight, total_cons, mul_one, List.sum_cons]
    rw [ih (Nat.succ.inj sameV) (Nat.succ.inj sameW)]
    rfl

theorem sum_hours (sameV : values.length = hours.length) (g : ℚ → ℚ) :
    (List.zipWith (fun w x => w * g x) weights hours).sum =
      total (pointsOf hours values weights) fun p => g p.x := by
  induction hours generalizing values weights with
  | nil =>
    rw [List.zipWith_nil_right]
    rfl
  | cons h hours ih =>
    obtain ⟨v, values, rfl⟩ := List.exists_cons_of_length_eq_add_one sameV
    cases weights with
    | nil => rfl
    | cons w weights =>
      rw [pointsOf_cons, total_cons, List.zipWith_cons_cons, List.sum_cons, ih (Nat.succ.inj sameV)]

theorem sum_values (sameV : values.length = hours.length) :
    (List.zipWith (· * ·) weights values).sum =
      total (pointsOf hours values weights) Point.y := by
  induction hours generalizing values weights with
  | nil =>
    obtain rfl := List.eq_nil_of_length_eq_zero sameV
    rw [List.zipWith_nil_right]
    rfl
  | cons h hours ih =>
    obtain ⟨v, values, rfl⟩ := List.exists_cons_of_length_eq_add_one sameV
    cases weights with
    | nil => rfl
    | cons w weights =>
      rw [pointsOf_cons, total_cons, List.zipWith_cons_cons, List.sum_cons, ih (Nat.succ.inj sameV)]

/-- The sums of the function are the normal equations. -/
theorem weightedLeastSquaresSlope_eq (sameV : values.length = hours.length)
    (sameW : weights.length = hours.length) :
    weightedLeastSquaresSlope hours values weights =
      if weight (pointsOf hours values weights) ≤ 0 then .error .noWeight
      else if variance (pointsOf hours values weights) ≤ 0 then .error .noSpan
      else .ok { slope := LeastSquares.slope (pointsOf hours values weights)
                 intercept := intercept (pointsOf hours values weights) } := by
  have hoursSum : (List.zipWith (· * ·) weights hours).sum =
      total (pointsOf hours values weights) Point.x := sum_hours sameV id
  have crossed : (pointsOf hours values weights).map (fun p =>
        p.w * (p.x - meanX (pointsOf hours values weights)) *
          (p.y - meanY (pointsOf hours values weights))) =
      (pointsOf hours values weights).map fun p =>
        p.w * ((p.x - meanX (pointsOf hours values weights)) *
          (p.y - meanY (pointsOf hours values weights))) :=
    List.map_congr_left fun p _ => mul_assoc _ _ _
  unfold weightedLeastSquaresSlope
  dsimp only
  rw [sum_weights sameV sameW, hoursSum, sum_values sameV]
  rw [show total (pointsOf hours values weights) Point.x / weight (pointsOf hours values weights) =
      meanX (pointsOf hours values weights) from rfl,
    show total (pointsOf hours values weights) Point.y / weight (pointsOf hours values weights) =
      meanY (pointsOf hours values weights) from rfl,
    sum_hours sameV (fun x => (x - meanX (pointsOf hours values weights)) ^ 2), crossed]
  rfl

theorem pointsOf_nonneg (nonneg : ∀ w ∈ weights, 0 ≤ w) :
    ∀ p ∈ pointsOf hours values weights, 0 ≤ p.w := by
  intro p listed
  obtain ⟨entry, among, rfl⟩ := List.mem_map.mp listed
  exact nonneg _ (List.of_mem_zip (List.of_mem_zip among).2).2

/-- Two rows that count, at different times. -/
def Spans (points : List (Point ℚ)) : Prop :=
  ∃ p ∈ points, ∃ q ∈ points, 0 < p.w ∧ 0 < q.w ∧ p.x ≠ q.x

theorem variance_of_same {points : List (Point ℚ)} (at_ : ℚ) (some_ : weight points ≠ 0)
    (same : ∀ p ∈ points, p.w ≠ 0 → p.x = at_) : variance points = 0 := by
  have mean : meanX points = at_ := by
    have sums : total points Point.x = total points fun _ => at_ := by
      refine total_congr fun p listed => ?_
      by_cases counts : p.w = 0
      · rw [counts, zero_mul, zero_mul]
      · rw [same p listed counts]
    rw [meanX, sums, total_const, mul_div_cancel_right₀ _ some_]
  have nothing : variance points = total points fun _ => 0 := by
    refine total_congr fun p listed => ?_
    by_cases counts : p.w = 0
    · rw [counts, zero_mul, zero_mul]
    · rw [same p listed counts, mean, sub_self]
      ring
  rw [nothing, total_const, zero_mul]

theorem exists_counts {points : List (Point ℚ)} (weights : ∀ p ∈ points, 0 ≤ p.w)
    (some_ : 0 < weight points) : ∃ p ∈ points, 0 < p.w := by
  by_contra none_
  push Not at none_
  have nothing : weight points = total points fun _ => 0 := by
    refine total_congr fun p listed => ?_
    rw [le_antisymm (none_ p listed) (weights p listed), zero_mul, zero_mul]
  rw [nothing, total_const, zero_mul] at some_
  exact lt_irrefl _ some_

/-- Without negative weights, the fit raises unless two rows that count lie apart,
and what it returns is the one line of least squared error. -/
theorem weightedLeastSquaresSlope_best (sameV : values.length = hours.length)
    (sameW : weights.length = hours.length) (nonneg : ∀ w ∈ weights, 0 ≤ w) :
    ((∃ fit, weightedLeastSquaresSlope hours values weights = .ok fit) ↔
        Spans (pointsOf hours values weights)) ∧
      ∀ fit, weightedLeastSquaresSlope hours values weights = .ok fit →
        IsBest (pointsOf hours values weights) (fit.slope, fit.intercept) := by
  have nonneg' : ∀ p ∈ pointsOf hours values weights, 0 ≤ p.w := pointsOf_nonneg nonneg
  rw [weightedLeastSquaresSlope_eq sameV sameW]
  generalize pointsOf hours values weights = points at nonneg' ⊢
  by_cases some_ : 0 < weight points
  · rw [if_neg (not_le.mpr some_)]
    by_cases spread : 0 < variance points
    · rw [if_neg (not_le.mpr spread)]
      refine ⟨⟨fun _ => ?_, fun _ => ⟨_, rfl⟩⟩, ?_⟩
      · obtain ⟨p, listed, counts⟩ := exists_counts nonneg' some_
        by_contra narrow
        refine spread.ne' (variance_of_same p.x some_.ne' fun q listed' counts' => ?_)
        by_contra apart
        have counts'' : 0 < q.w := lt_of_le_of_ne (nonneg' q listed') (Ne.symm counts')
        exact narrow ⟨p, listed, q, listed', counts, counts'', Ne.symm apart⟩
      · intro fit fitted
        obtain rfl := Except.ok.inj fitted
        exact isBest_fit some_ spread
    · rw [if_pos (not_lt.mp spread)]
      constructor
      · constructor
        · rintro ⟨fit, never⟩
          cases never
        · rintro ⟨p, listed, q, listed', counts, counts', apart⟩
          exact absurd (variance_pos nonneg' listed listed' counts counts' apart) spread
      · intro fit never
        cases never
  · rw [if_pos (not_lt.mp some_)]
    constructor
    · constructor
      · rintro ⟨fit, never⟩
        cases never
      · rintro ⟨p, listed, -, -, counts, -, -⟩
        exact absurd (weight_pos nonneg' listed counts) some_
    · intro fit never
      cases never

theorem pointsOf_replicate (sameV : values.length = hours.length) (w : ℚ) :
    pointsOf hours values (List.replicate hours.length w) =
      (hours.zip values).map fun entry => { x := entry.1, y := entry.2, w := w } := by
  induction hours generalizing values with
  | nil => rfl
  | cons h hours ih =>
    obtain ⟨v, values, rfl⟩ := List.exists_cons_of_length_eq_add_one sameV
    rw [List.length_cons, List.replicate_succ, pointsOf_cons, ih (Nat.succ.inj sameV)]
    rfl

theorem total_replicate (sameV : values.length = hours.length) (w : ℚ) (f : Point ℚ → ℚ) :
    total (pointsOf hours values (List.replicate hours.length w)) f =
      w * ((hours.zip values).map fun entry => f { x := entry.1, y := entry.2, w := w }).sum := by
  rw [pointsOf_replicate sameV, total, List.map_map, ← List.sum_map_mul_left]
  rfl

end Fit

/-! ## The curve of the firmware -/

section Curve

open Battery (convertVoltageToPercent roundHalfUp minVoltage maxVoltage clampPercent)
open BatteryCurve (Rises)

theorem alongPoints_eq {low : Int × Int} {points : List (Int × Int)} (rises : Rises low points)
    {mv : Int} (above : low.1 ≤ mv) (below : ∃ point ∈ points, mv ≤ point.1) :
    alongPoints mv low points = some (Battery.interpolate mv low points) := by
  induction points generalizing low with
  | nil =>
    obtain ⟨point, never, -⟩ := below
    cases never
  | cons high rest ih =>
    obtain ⟨-, -, later⟩ := rises
    have above_ : (low.1 : ℚ) ≤ mv := by exact_mod_cast above
    rw [alongPoints, Battery.interpolate]
    by_cases within : mv ≤ high.1
    · have within_ : (mv : ℚ) ≤ high.1 := by exact_mod_cast within
      rw [if_pos within, if_pos ⟨above_, within_⟩]
    · have beyond : ¬((low.1 : ℚ) ≤ mv ∧ (mv : ℚ) ≤ high.1) := by
        rintro ⟨-, within_⟩
        exact within (by exact_mod_cast within_)
      rw [if_neg within, if_neg beyond]
      refine ih later (by omega) ?_
      obtain ⟨point, listed, covers⟩ := below
      rcases List.mem_cons.mp listed with rfl | behind
      · exact absurd covers within
      · exact ⟨point, behind, covers⟩

theorem etalonSoc_eq (mv : Int) : etalonSoc mv = some (Battery.etalonSoc mv) := by
  unfold etalonSoc Battery.etalonSoc
  by_cases low : mv ≤ 3270
  · have low_ : (mv : ℚ) ≤ 3270 := by exact_mod_cast low
    rw [if_pos low, if_pos low_]
  · have low_ : ¬(mv : ℚ) ≤ 3270 := fun low_ => low (by exact_mod_cast low_)
    rw [if_neg low, if_neg low_]
    by_cases high : mv ≥ 4200
    · have high_ : (4200 : ℚ) ≤ mv := by exact_mod_cast high
      rw [if_pos high, if_pos high_]
    · have high_ : ¬(4200 : ℚ) ≤ mv := fun high_ => high (by exact_mod_cast high_)
      rw [if_neg high, if_neg high_]
      apply alongPoints_eq BatteryCurve.batteryCurve_rises (by omega)
      exact ⟨(4200, 100), by decide, by omega⟩

theorem clampPercent_eq (value : ℚ) : clampPercent value = max 0 (min 100 value) := by
  unfold clampPercent
  split
  case isTrue low => rw [min_eq_right (by linarith), max_eq_left low.le]
  case isFalse low =>
    split
    case isTrue high => rw [min_eq_left high.le, max_eq_right (by norm_num)]
    case isFalse high => rw [min_eq_right (not_lt.mp high), max_eq_right (not_lt.mp low)]

theorem roundHalfUp_near (value : ℚ) : |(roundHalfUp value : ℚ) - value| ≤ 1 / 2 := by
  have low := Int.floor_le (value + 1 / 2)
  have high := Int.lt_floor_add_one (value + 1 / 2)
  rw [abs_le, roundHalfUp]
  constructor <;> linarith

/-- What the firmware publishes is the tool's percentage to two decimals. -/
theorem voltageToPercent_firmware (mv : Int) :
    ∃ percent, voltageToPercent mv = some percent ∧
      convertVoltageToPercent mv minVoltage maxVoltage = roundHalfUp (percent * 100) / 100 ∧
        |convertVoltageToPercent mv minVoltage maxVoltage - percent| ≤ 1 / 200 := by
  have apart : Battery.etalonSoc minVoltage < Battery.etalonSoc maxVoltage := by decide +kernel
  obtain ⟨percent, percent_⟩ : ∃ percent, clampPercent
    (BatteryCurve.normalized mv minVoltage maxVoltage) = percent := ⟨_, rfl⟩
  have firmware : convertVoltageToPercent mv minVoltage maxVoltage =
      roundHalfUp (percent * 100) / 100 := by
    rw [BatteryCurve.convert_eq (by decide) apart, BatteryCurve.rounded, percent_]
  refine ⟨percent, ?_, firmware, ?_⟩
  · unfold voltageToPercent
    rw [show (3300 : ℚ) = ((minVoltage : Int) : ℚ) by rfl, etalonSoc_eq,
      show (4120 : ℚ) = ((maxVoltage : Int) : ℚ) by rfl, etalonSoc_eq, etalonSoc_eq]
    exact congrArg some ((clampPercent_eq _).symm.trans percent_)
  · obtain ⟨low, high⟩ := abs_le.mp (roundHalfUp_near (percent * 100))
    rw [firmware, abs_le]
    constructor <;> linarith

end Curve

/-! ## The dwell weights -/

section Dwell

theorem median_pos {values : List ℚ} (some_ : values ≠ []) (positive : ∀ v ∈ values, 0 < v) :
    0 < median values := by
  obtain ⟨sorted, sorted_⟩ : ∃ sorted, values.insertionSort (· ≤ ·) = sorted := ⟨_, rfl⟩
  have length : sorted.length = values.length := by rw [← sorted_, List.length_insertionSort]
  have long : 0 < sorted.length := by
    rw [length]
    exact List.length_pos_iff.mpr some_
  have at_ : ∀ i < sorted.length, 0 < sorted.getD i 0 := by
    intro i inside
    rw [List.getD_eq_getElem?_getD, List.getElem?_eq_getElem inside, Option.getD_some]
    apply positive
    rw [← List.mem_insertionSort (· ≤ ·), sorted_]
    exact List.getElem_mem inside
  unfold median
  dsimp only
  rw [sorted_]
  split
  · exact at_ _ (by omega)
  · have first := at_ (sorted.length / 2 - 1) (by omega)
    have second := at_ (sorted.length / 2) (by omega)
    linarith

theorem gapsOf_length (h : ℚ) (hours : List ℚ) : (gapsOf (h :: hours)).length = hours.length := by
  induction hours generalizing h with
  | nil => rfl
  | cons b rest ih =>
    rw [gapsOf, List.length_cons, ih, List.length_cons]

theorem gapsOf_nonneg (hours : List ℚ) : ∀ gap ∈ gapsOf hours, 0 ≤ gap := by
  fun_induction gapsOf hours with
  | case1 a b rest gap ih =>
    intro other member
    rcases List.mem_cons.mp member with rfl | later
    · split
      case isTrue positive => exact positive.le
      case isFalse => exact le_rfl
    · exact ih other later
  | case2 => simp

def lastWeight (hours : List ℚ) : ℚ :=
  if (gapsOf hours).filter (fun gap => decide (0 < gap)) = [] then 1
  else median ((gapsOf hours).filter fun gap => decide (0 < gap))

theorem lastWeight_pos (hours : List ℚ) : 0 < lastWeight hours := by
  unfold lastWeight
  split
  · exact one_pos
  · refine median_pos ‹_› fun v member => ?_
    exact of_decide_eq_true (List.mem_filter.mp member).2

theorem dwellWeights_eq (a b : ℚ) (rest : List ℚ) :
    dwellWeights (a :: b :: rest) =
      gapsOf (a :: b :: rest) ++ [lastWeight (a :: b :: rest)] := by
  unfold dwellWeights
  rw [if_neg (by simp)]
  rfl

theorem exists_gap {h : ℚ} {hours : List ℚ} (sorted : (h :: hours).Pairwise (· ≤ ·))
    (passes : h < (h :: hours).getLast (List.cons_ne_nil _ _)) (w : ℚ) :
    ∃ entry ∈ (h :: hours).zip (gapsOf (h :: hours) ++ [w]),
      0 < entry.2 ∧ entry.1 < (h :: hours).getLast (List.cons_ne_nil _ _) := by
  induction hours generalizing h with
  | nil => exact absurd passes (lt_irrefl h)
  | cons b rest ih =>
    obtain ⟨first, later⟩ := List.pairwise_cons.mp sorted
    rw [List.getLast_cons (List.cons_ne_nil _ _)] at passes ⊢
    rw [gapsOf, List.cons_append, List.zip_cons_cons]
    by_cases moves : h < b
    · have gap : 0 < min (b - h) maxDwellH := lt_min (by linarith) (by decide +kernel)
      exact ⟨_, List.mem_cons_self, by rw [if_pos gap]; exact gap, passes⟩
    · have same : h = b := le_antisymm (first b List.mem_cons_self) (not_lt.mp moves)
      obtain ⟨entry, member, found⟩ := ih later (same ▸ passes)
      exact ⟨entry, List.mem_cons_of_mem _ member, found⟩

theorem last_entry (h : ℚ) (hours : List ℚ) (w : ℚ) :
    ((h :: hours).getLast (List.cons_ne_nil _ _), w) ∈
      (h :: hours).zip (gapsOf (h :: hours) ++ [w]) := by
  induction hours generalizing h with
  | nil => simp [gapsOf]
  | cons b rest ih =>
    rw [gapsOf, List.cons_append, List.zip_cons_cons, List.getLast_cons (List.cons_ne_nil _ _)]
    exact List.mem_cons_of_mem _ (ih b)

theorem mem_pointsOf {hours values weights : List ℚ} (sameV : values.length = hours.length)
    {entry : ℚ × ℚ} (member : entry ∈ hours.zip weights) :
    ∃ p ∈ pointsOf hours values weights, p.x = entry.1 ∧ p.w = entry.2 := by
  induction hours generalizing values weights with
  | nil => cases member
  | cons h hours ih =>
    obtain ⟨v, values, rfl⟩ := List.exists_cons_of_length_eq_add_one sameV
    cases weights with
    | nil => cases member
    | cons w weights =>
      rw [pointsOf_cons]
      rcases List.mem_cons.mp member with rfl | later
      · exact ⟨_, List.mem_cons_self, rfl, rfl⟩
      · obtain ⟨p, listed, same⟩ := ih (Nat.succ.inj sameV) later
        exact ⟨p, List.mem_cons_of_mem _ listed, same⟩

theorem dwellWeights_spans {h : ℚ} {hours values : List ℚ}
    (sorted : (h :: hours).Pairwise (· ≤ ·))
    (passes : h < (h :: hours).getLast (List.cons_ne_nil _ _))
    (sameV : values.length = (h :: hours).length) :
    (dwellWeights (h :: hours)).length = (h :: hours).length ∧
      (∀ w ∈ dwellWeights (h :: hours), 0 ≤ w) ∧
        Spans (pointsOf (h :: hours) values (dwellWeights (h :: hours))) := by
  cases hours with
  | nil => exact absurd passes (lt_irrefl h)
  | cons b rest =>
    have last := lastWeight_pos (h :: b :: rest)
    rw [dwellWeights_eq]
    refine ⟨?_, ?_, ?_⟩
    · rw [List.length_append, gapsOf_length]
      rfl
    · intro w member
      rcases List.mem_append.mp member with gap | only
      · exact gapsOf_nonneg _ w gap
      · rw [List.mem_singleton.mp only]
        exact last.le
    · obtain ⟨entry, member, stood, before⟩ :=
        exists_gap sorted passes (lastWeight (h :: b :: rest))
      obtain ⟨p, listed, px, pw⟩ := mem_pointsOf sameV member
      obtain ⟨q, listed', qx, qw⟩ :=
        mem_pointsOf sameV (last_entry h (b :: rest) (lastWeight (h :: b :: rest)))
      refine ⟨p, listed, q, listed', pw ▸ stood, qw ▸ last, ?_⟩
      rw [px, qx]
      exact before.ne

end Dwell

/-! ## A constant drain -/

section Drain

def hoursOf (t0 : Int) (reading : Int × ℚ) : ℚ := ((reading.1 - t0 : Int) : ℚ) / 1000000 / 3600

theorem percents_eq {readings : List (Int × ℚ)} {percent : Int × ℚ → ℚ}
    (shows_ : ∀ reading ∈ readings, voltageToPercent (reading.2 * 1000) = some (percent reading)) :
    ((readings.map Prod.snd).mapM fun v => voltageToPercent (v * 1000)) =
      some (readings.map percent) := by
  induction readings with
  | nil => rfl
  | cons reading rest ih =>
    have later := ih fun other listed => shows_ other (List.mem_cons_of_mem reading listed)
    rw [List.map_cons, List.mapM_cons, shows_ reading List.mem_cons_self, later]
    rfl

theorem voltageToPercent_isSome (mv : ℚ) : ∃ percent, voltageToPercent mv = some percent := by
  have soc : ∀ mv : ℚ, ∃ soc, etalonSoc mv = some soc := by
    intro mv
    unfold etalonSoc
    by_cases low : mv ≤ 3270
    · exact ⟨0, if_pos low⟩
    · rw [if_neg low]
      by_cases high : 4200 ≤ mv
      · exact ⟨100, if_pos high⟩
      · rw [if_neg high]
        have above : (((3270 : Int), (0 : Int)).1 : ℚ) ≤ mv := by
          push_cast
          exact (not_le.mp low).le
        obtain ⟨soc, found, -⟩ := PowerModel.alongPoints_between BatteryCurve.batteryCurve_rises
          above 100 ⟨(4200, 100), by decide, by push_cast; exact (not_le.mp high).le⟩ (by decide)
        exact ⟨soc, found⟩
  obtain ⟨socMin, min_⟩ := soc 3300
  obtain ⟨socMax, max_⟩ := soc 4120
  obtain ⟨here, here_⟩ := soc mv
  unfold voltageToPercent
  rw [min_, max_, here_]
  exact ⟨_, rfl⟩

theorem point_on {readings : List (Int × ℚ)} {hour percent : Int × ℚ → ℚ} {weights : List ℚ}
    {p : Point ℚ} (listed : p ∈ pointsOf (readings.map hour) (readings.map percent) weights) :
    ∃ reading ∈ readings, p.x = hour reading ∧ p.y = percent reading := by
  induction readings generalizing weights with
  | nil => cases listed
  | cons reading rest ih =>
    cases weights with
    | nil => cases listed
    | cons w weights =>
      rw [List.map_cons, List.map_cons, pointsOf_cons] at listed
      rcases List.mem_cons.mp listed with rfl | later
      · exact ⟨reading, List.mem_cons_self, rfl, rfl⟩
      · obtain ⟨other, member, same⟩ := ih later
        exact ⟨other, List.mem_cons_of_mem reading member, same⟩

variable {t0 : Int} {v0 : ℚ} {rest : List (Int × ℚ)}

theorem hoursOf_zero (v : ℚ) : hoursOf t0 (t0, v) = 0 := by
  rw [hoursOf, sub_self, Int.cast_zero, zero_div, zero_div]

theorem hoursOf_le {a b : Int × ℚ} (before : a.1 ≤ b.1) : hoursOf t0 a ≤ hoursOf t0 b := by
  have stamps : ((a.1 - t0 : Int) : ℚ) ≤ ((b.1 - t0 : Int) : ℚ) := by
    exact_mod_cast Int.sub_le_sub_right before t0
  unfold hoursOf
  linarith

theorem hoursOf_pos {reading : Int × ℚ} (behind : t0 < reading.1) : 0 < hoursOf t0 reading := by
  have stamp : (0 : ℚ) < ((reading.1 - t0 : Int) : ℚ) := by
    exact_mod_cast Int.sub_pos_of_lt behind
  unfold hoursOf
  linarith

theorem rows_span (sorted : ((t0, v0) :: rest).Pairwise fun a b => a.1 ≤ b.1)
    (passes : t0 < (((t0, v0) :: rest).getLast (List.cons_ne_nil _ _)).1) {percents : List ℚ}
    (sameV : percents.length = (((t0, v0) :: rest).map (hoursOf t0)).length) :
    (dwellWeights (((t0, v0) :: rest).map (hoursOf t0))).length =
        (((t0, v0) :: rest).map (hoursOf t0)).length ∧
      (∀ w ∈ dwellWeights (((t0, v0) :: rest).map (hoursOf t0)), 0 ≤ w) ∧
        Spans (pointsOf (((t0, v0) :: rest).map (hoursOf t0)) percents
          (dwellWeights (((t0, v0) :: rest).map (hoursOf t0)))) := by
  have hours_sorted : (((t0, v0) :: rest).map (hoursOf t0)).Pairwise (· ≤ ·) :=
    List.pairwise_map.mpr (sorted.imp fun before => hoursOf_le before)
  have hours_pass : hoursOf t0 (t0, v0) <
      (((t0, v0) :: rest).map (hoursOf t0)).getLast (List.cons_ne_nil _ _) := by
    rw [List.getLast_map]
    exact lt_of_eq_of_lt (hoursOf_zero v0) (hoursOf_pos passes)
  exact dwellWeights_spans hours_sorted hours_pass sameV

theorem fit_constant (sorted : ((t0, v0) :: rest).Pairwise fun a b => a.1 ≤ b.1)
    (passes : t0 < (((t0, v0) :: rest).getLast (List.cons_ne_nil _ _)).1) (start rate : ℚ) :
    weightedLeastSquaresSlope (((t0, v0) :: rest).map (hoursOf t0))
        (((t0, v0) :: rest).map fun reading => start - rate * hoursOf t0 reading)
        (dwellWeights (((t0, v0) :: rest).map (hoursOf t0))) =
      .ok { slope := -rate, intercept := start } := by
  have sameV : (((t0, v0) :: rest).map fun reading => start - rate * hoursOf t0 reading).length =
      (((t0, v0) :: rest).map (hoursOf t0)).length := by
    rw [List.length_map, List.length_map]
  obtain ⟨sameW, nonneg, p, listed, q, listed', counts, counts', apart⟩ :=
    rows_span sorted passes sameV
  have nonneg' : ∀ p ∈ pointsOf (((t0, v0) :: rest).map (hoursOf t0))
      (((t0, v0) :: rest).map fun reading => start - rate * hoursOf t0 reading)
      (dwellWeights (((t0, v0) :: rest).map (hoursOf t0))), 0 ≤ p.w := pointsOf_nonneg nonneg
  have some_ := weight_pos nonneg' listed counts
  have spread := variance_pos nonneg' listed listed' counts counts' apart
  have on_line : ∀ p ∈ pointsOf (((t0, v0) :: rest).map (hoursOf t0))
      (((t0, v0) :: rest).map fun reading => start - rate * hoursOf t0 reading)
      (dwellWeights (((t0, v0) :: rest).map (hoursOf t0))), p.y = -rate * p.x + start := by
    intro p listed
    obtain ⟨reading, -, px, py⟩ := point_on listed
    rw [px, py]
    ring
  have fitted := fit_of_line some_.ne' spread.ne' (-rate, start) on_line
  obtain ⟨slope_, intercept_⟩ := Prod.mk.inj fitted
  rw [weightedLeastSquaresSlope_eq sameV sameW, if_neg (not_le.mpr some_),
    if_neg (not_le.mpr spread), slope_, intercept_]

/-- What becomes of a fitted line: a flat one divides by zero, any other one is
the current of its slope. -/
theorem decayFit_of_fit (passes : t0 < (((t0, v0) :: rest).getLast (List.cons_ne_nil _ _)).1)
    {percents : List ℚ} {fit : LinearFit}
    (shows_ : ((((t0, v0) :: rest).map Prod.snd).mapM fun v => voltageToPercent (v * 1000)) =
      some percents)
    (fitted : weightedLeastSquaresSlope (((t0, v0) :: rest).map (hoursOf t0)) percents
      (dwellWeights (((t0, v0) :: rest).map (hoursOf t0))) = .ok fit) :
    (fit.slope = 0 → decayFit ((t0, v0) :: rest) = .error .divisionByZero) ∧
      (fit.slope ≠ 0 → ∃ decay, decayFit ((t0, v0) :: rest) = .ok decay ∧
        decay.slope = fit.slope ∧ decay.pctStart = fit.intercept ∧
          decay.meanMa = -fit.slope / 100 * packCapacityMah ∧
            decay.runtimeDays = 100 / -fit.slope / 24) := by
  have behind : 0 < hoursOf t0 _ := hoursOf_pos passes
  have total_ : (((t0, v0) :: rest).map (hoursOf t0)).getLastD 0 =
      hoursOf t0 (((t0, v0) :: rest).getLast (List.cons_ne_nil _ _)) := by
    rw [List.getLastD_eq_getLast?, List.getLast?_eq_getLast_of_ne_nil (by simp), Option.getD_some,
      List.getLast_map]
  generalize hoursOf t0 (((t0, v0) :: rest).getLast (List.cons_ne_nil _ _)) = total at behind total_
  obtain ⟨slope, intercept⟩ := fit
  have mean : (intercept - (intercept + slope * total)) / 100 * packEnergyMwh / total =
      -slope / 100 * packEnergyMwh := by
    field_simp
    ring
  have energy : packEnergyMwh ≠ 0 := by decide +kernel
  have defined : total = 0 ∨ -slope / 100 * packEnergyMwh = 0 ↔ slope = 0 := by
    simp [behind.ne', energy]
  obtain ⟨decay, computed, same⟩ : ∃ decay : Decay, decayFit ((t0, v0) :: rest) =
      (if slope = 0 then .error .divisionByZero else .ok decay) ∧
        (decay.slope, decay.pctStart, decay.meanMa, decay.runtimeDays) =
          (slope, intercept,
            (intercept - (intercept + slope * total)) / 100 * packCapacityMah / total,
            packEnergyMwh / (-slope / 100 * packEnergyMwh) / 24) := by
    unfold decayFit
    dsimp only
    rw [shows_]
    dsimp only
    rw [show (fun reading : Int × ℚ => ((reading.1 - t0 : Int) : ℚ) / 1000000 / 3600) = hoursOf t0
      from rfl, fitted]
    dsimp only
    rw [total_, mean]
    simp only [defined]
    exact ⟨_, rfl, rfl⟩
  simp only [Prod.mk.injEq] at same
  obtain ⟨slope_, start, current, runs⟩ := same
  rw [computed]
  dsimp only
  constructor
  · intro flat
    rw [if_pos flat]
  · intro falls
    have falls_ : -slope ≠ 0 := neg_ne_zero.mpr falls
    rw [if_neg falls]
    refine ⟨decay, rfl, slope_, start, ?_, ?_⟩
    · rw [current]
      field_simp
      ring
    · rw [runs]
      field_simp

/-- Three readings an hour apart, five percent of the curve each. -/
def drained : List (Int × ℚ) :=
  [(0, 382 / 100), (3600000000, 380 / 100), (7200000000, 379 / 100)]

end Drain

end SleepySensor.BatteryHistory
