import SleepySensor.Battery

/-!
# The battery gauge is monotone

Interpolation over points that rise in both columns is monotone, whatever the points;
the two anchors rescale it, and the clamp and the rounding keep the order.
-/

set_option autoImplicit false

namespace SleepySensor.BatteryCurve

open Battery

/-! ## Divisions that are checked -/

/-- A quotient, or `none` for a divisor of zero. -/
def quotient (a b : ℚ) : Option ℚ := if b = 0 then none else some (a / b)

theorem quotient_of_ne {a b : ℚ} (apart : b ≠ 0) : quotient a b = some (a / b) := if_neg apart

def checkedInterpolate (mv : Int) (low : Int × Int) : List (Int × Int) → Option ℚ
  | [] => some low.2
  | high :: rest =>
    if mv ≤ high.1 then
      (quotient ((mv - low.1) * (high.2 - low.2)) (high.1 - low.1)).map fun part => low.2 + part
    else checkedInterpolate mv high rest

def checkedSoc (mv : Int) : Option ℚ :=
  if mv ≤ 3270 then some 0
  else if mv ≥ 4200 then some 100
  else checkedInterpolate mv (3270, 0) batteryCurve.tail

def checkedPercent (mv minMv maxMv : Int) : Option ℚ :=
  if maxMv ≤ minMv then some 0
  else
    (checkedSoc minMv).bind fun socMin => (checkedSoc maxMv).bind fun socMax =>
      if socMax ≤ socMin then some 0
      else
        (checkedSoc mv).bind fun soc => (quotient (soc - socMin) (socMax - socMin)).map fun part =>
          roundHalfUp (clampPercent (part * 100) * 100) / 100

/-! ## Interpolation -/

/-- Points that rise in both columns, the first one strictly. -/
def Rises : Int × Int → List (Int × Int) → Prop
  | _, [] => True
  | low, high :: rest => low.1 < high.1 ∧ low.2 ≤ high.2 ∧ Rises high rest

theorem batteryCurve_rises : Rises (3270, 0) batteryCurve.tail := by
  simp [Rises, batteryCurve]

section Segment

variable {low high : Int × Int}

theorem width_pos (wide : low.1 < high.1) : (0 : ℚ) < (high.1 : ℚ) - low.1 := by
  rw [sub_pos]
  exact_mod_cast wide

theorem segment_mono (wide : low.1 < high.1) (rise : low.2 ≤ high.2) {mv other : Int}
    (le : mv ≤ other) :
    (low.2 : ℚ) + (mv - low.1) * (high.2 - low.2) / (high.1 - low.1) ≤
      low.2 + (other - low.1) * (high.2 - low.2) / (high.1 - low.1) := by
  have width := width_pos wide
  have rise_ : (0 : ℚ) ≤ (high.2 : ℚ) - low.2 := by
    rw [sub_nonneg]
    exact_mod_cast rise
  have le_ : (mv : ℚ) ≤ other := by exact_mod_cast le
  gcongr

theorem segment_start :
    (low.2 : ℚ) + (low.1 - low.1) * (high.2 - low.2) / (high.1 - low.1) = low.2 := by
  rw [sub_self, zero_mul, zero_div, add_zero]

theorem segment_end (wide : low.1 < high.1) :
    (low.2 : ℚ) + (high.1 - low.1) * (high.2 - low.2) / (high.1 - low.1) = high.2 := by
  have width := (width_pos wide).ne'
  rw [mul_div_right_comm, div_self width, one_mul, add_sub_cancel]

end Segment

variable {low : Int × Int} {points : List (Int × Int)}

theorem interpolate_ge (rises : Rises low points) {mv : Int} (above : low.1 ≤ mv) :
    (low.2 : ℚ) ≤ interpolate mv low points := by
  induction points generalizing low with
  | nil => exact le_rfl
  | cons high rest ih =>
    obtain ⟨wide, rise, later⟩ := rises
    rw [interpolate]
    split
    · exact segment_start.symm.le.trans (segment_mono wide rise above)
    · have next := ih later (by omega)
      exact le_trans (by exact_mod_cast rise) next

theorem interpolate_le (rises : Rises low points) {top : Int} (first : low.2 ≤ top)
    (bounded : ∀ point ∈ points, point.2 ≤ top) (mv : Int) : interpolate mv low points ≤ top := by
  induction points generalizing low with
  | nil =>
    rw [interpolate]
    exact_mod_cast first
  | cons high rest ih =>
    obtain ⟨wide, rise, later⟩ := rises
    rw [List.forall_mem_cons] at bounded
    rw [interpolate]
    split
    case isTrue within =>
      have reached := segment_mono wide rise within
      rw [segment_end wide] at reached
      exact reached.trans (by exact_mod_cast bounded.1)
    case isFalse => exact ih later bounded.1 bounded.2

theorem interpolate_mono (rises : Rises low points) {mv other : Int} (above : low.1 ≤ mv)
    (le : mv ≤ other) : interpolate mv low points ≤ interpolate other low points := by
  induction points generalizing low with
  | nil => exact le_rfl
  | cons high rest ih =>
    obtain ⟨wide, rise, later⟩ := rises
    rw [interpolate, interpolate]
    by_cases both : other ≤ high.1
    · rw [if_pos both, if_pos (le.trans both)]
      exact segment_mono wide rise le
    · rw [if_neg both]
      by_cases one : mv ≤ high.1
      · rw [if_pos one]
        have reached := segment_mono wide rise one
        rw [segment_end wide] at reached
        exact reached.trans (interpolate_ge later (by omega))
      · rw [if_neg one]
        exact ih later (by omega)

theorem checkedInterpolate_eq (rises : Rises low points) (mv : Int) :
    checkedInterpolate mv low points = some (interpolate mv low points) := by
  induction points generalizing low with
  | nil => rfl
  | cons high rest ih =>
    obtain ⟨wide, -, later⟩ := rises
    rw [checkedInterpolate, interpolate]
    split
    · rw [quotient_of_ne (width_pos wide).ne']
      rfl
    · exact ih later

/-! ## The etalon curve -/

theorem etalonSoc_range (mv : Int) : 0 ≤ etalonSoc mv ∧ etalonSoc mv ≤ 100 := by
  unfold etalonSoc
  split
  · norm_num
  split
  · norm_num
  · rename_i above below
    have lower := @interpolate_ge _ _ batteryCurve_rises mv (by omega)
    have upper := @interpolate_le _ _ batteryCurve_rises 100 (by decide) (by decide) mv
    exact ⟨by exact_mod_cast lower, by exact_mod_cast upper⟩

theorem etalonSoc_mono {mv other : Int} (le : mv ≤ other) : etalonSoc mv ≤ etalonSoc other := by
  have range := etalonSoc_range mv
  have otherRange := etalonSoc_range other
  by_cases first : mv ≤ 3270
  · rw [etalonSoc, if_pos first]
    exact otherRange.1
  by_cases last : other ≥ 4200
  · rw [show etalonSoc other = 100 by rw [etalonSoc, if_neg (by omega), if_pos last]]
    exact range.2
  · rw [etalonSoc, if_neg first, if_neg (by omega), etalonSoc, if_neg (by omega), if_neg last]
    exact interpolate_mono batteryCurve_rises (by omega) le

theorem checkedSoc_eq (mv : Int) : checkedSoc mv = some (etalonSoc mv) := by
  unfold checkedSoc etalonSoc
  split
  · rfl
  split
  · rfl
  · exact checkedInterpolate_eq batteryCurve_rises mv

/-! ## Clamp and rounding -/

def rounded (value : ℚ) : ℚ := roundHalfUp (clampPercent value * 100) / 100

theorem clampPercent_mono {value other : ℚ} (le : value ≤ other) :
    clampPercent value ≤ clampPercent other := by
  unfold clampPercent
  split_ifs <;> linarith

theorem rounded_mono {value other : ℚ} (le : value ≤ other) : rounded value ≤ rounded other := by
  have clamped := clampPercent_mono le
  have floors : roundHalfUp (clampPercent value * 100) ≤ roundHalfUp (clampPercent other * 100) :=
    Int.floor_mono (by linarith)
  have floors_ : (roundHalfUp (clampPercent value * 100) : ℚ) ≤
      roundHalfUp (clampPercent other * 100) := by exact_mod_cast floors
  unfold rounded
  linarith

theorem rounded_low {value : ℚ} (low : value ≤ 0) : rounded value = 0 := by
  have clamped : clampPercent value = 0 := by
    unfold clampPercent
    split_ifs <;> linarith
  rw [rounded, clamped]
  norm_num [roundHalfUp]

theorem rounded_high {value : ℚ} (high : 100 ≤ value) : rounded value = 100 := by
  have clamped : clampPercent value = 100 := by
    unfold clampPercent
    split_ifs <;> linarith
  have floor : roundHalfUp (100 * 100) = 10000 := by
    rw [roundHalfUp, Int.floor_eq_iff]
    norm_num
  rw [rounded, clamped, floor]
  norm_num

theorem rounded_range (value : ℚ) : 0 ≤ rounded value ∧ rounded value ≤ 100 := by
  have low := rounded_mono (min_le_left value 0)
  have high := rounded_mono (le_max_left value 100)
  rw [rounded_low (min_le_right value 0)] at low
  rw [rounded_high (le_max_right value 100)] at high
  exact ⟨low, high⟩

/-! ## The gauge -/

def normalized (mv minMv maxMv : Int) : ℚ :=
  (etalonSoc mv - etalonSoc minMv) / (etalonSoc maxMv - etalonSoc minMv) * 100

theorem convert_degenerate {minMv maxMv : Int}
    (degenerate : maxMv ≤ minMv ∨ etalonSoc maxMv ≤ etalonSoc minMv) (mv : Int) :
    convertVoltageToPercent mv minMv maxMv = 0 := by
  unfold convertVoltageToPercent
  rcases degenerate with inverted | same
  · simp [inverted]
  · simp [same]

theorem convert_eq {minMv maxMv : Int} (ordered : minMv < maxMv)
    (apart : etalonSoc minMv < etalonSoc maxMv) (mv : Int) :
    convertVoltageToPercent mv minMv maxMv = rounded (normalized mv minMv maxMv) := by
  simp only [convertVoltageToPercent, if_neg (not_le.mpr ordered), if_neg (not_le.mpr apart),
    rounded, normalized]

theorem normalized_mono {minMv maxMv : Int} (apart : etalonSoc minMv < etalonSoc maxMv)
    {mv other : Int} (le : mv ≤ other) :
    normalized mv minMv maxMv ≤ normalized other minMv maxMv := by
  have width : 0 < etalonSoc maxMv - etalonSoc minMv := sub_pos.mpr apart
  have soc := etalonSoc_mono le
  unfold normalized
  gcongr

theorem checkedPercent_eq (mv minMv maxMv : Int) :
    checkedPercent mv minMv maxMv = some (convertVoltageToPercent mv minMv maxMv) := by
  simp only [checkedPercent, checkedSoc_eq, Option.bind_some]
  split
  · rw [convert_degenerate (.inl ‹_›)]
  split
  · rw [convert_degenerate (.inr ‹_›)]
  · rename_i ordered apart
    rw [convert_eq (not_le.mp ordered) (not_le.mp apart),
      quotient_of_ne (sub_pos.mpr (not_le.mp apart)).ne']
    rfl

theorem gauge (minMv maxMv : Int) :
    (∀ mv, checkedPercent mv minMv maxMv = some (convertVoltageToPercent mv minMv maxMv)) ∧
    (∀ mv, 0 ≤ convertVoltageToPercent mv minMv maxMv ∧
      convertVoltageToPercent mv minMv maxMv ≤ 100) ∧
    (∀ v1 v2, v1 ≤ v2 →
      convertVoltageToPercent v1 minMv maxMv ≤ convertVoltageToPercent v2 minMv maxMv) ∧
    (minMv < maxMv → etalonSoc minMv < etalonSoc maxMv →
      (∀ mv ≤ minMv, convertVoltageToPercent mv minMv maxMv = 0) ∧
        ∀ mv ≥ maxMv, convertVoltageToPercent mv minMv maxMv = 100) := by
  refine ⟨fun mv => checkedPercent_eq mv minMv maxMv, ?_⟩
  by_cases regular : minMv < maxMv ∧ etalonSoc minMv < etalonSoc maxMv
  · obtain ⟨ordered, apart⟩ := regular
    have width : 0 < etalonSoc maxMv - etalonSoc minMv := sub_pos.mpr apart
    simp only [convert_eq ordered apart]
    refine ⟨fun mv => rounded_range _, fun v1 v2 le => rounded_mono (normalized_mono apart le),
      fun _ _ => ⟨fun mv below => rounded_low ?_, fun mv above => rounded_high ?_⟩⟩
    · have start : normalized minMv minMv maxMv = 0 := by simp [normalized]
      exact (normalized_mono apart below).trans_eq start
    · have finish : normalized maxMv minMv maxMv = 100 := by
        rw [normalized, div_self width.ne', one_mul]
      exact finish.symm.le.trans (normalized_mono apart above)
  · have degenerate : maxMv ≤ minMv ∨ etalonSoc maxMv ≤ etalonSoc minMv := by
      rwa [not_and_or, not_lt, not_lt] at regular
    simp only [convert_degenerate degenerate]
    refine ⟨fun _ => by norm_num, fun _ _ _ => le_rfl, fun ordered apart => ?_⟩
    exact (regular ⟨ordered, apart⟩).elim

end SleepySensor.BatteryCurve
