import Mathlib.Algebra.BigOperators.Ring.List
import Mathlib.Algebra.Order.BigOperators.Group.List
import Mathlib.Algebra.Order.Field.Basic
import Mathlib.Tactic.Linarith
import Mathlib.Tactic.Positivity
import Mathlib.Tactic.Ring

/-!
# Weighted least squares

The line through weighted points by the normal equations, over any ordered
field: what its squared error is against that of any other line, and when the
points determine it.
-/

set_option autoImplicit false

namespace SleepySensor.LeastSquares

structure Point (K : Type) where
  x : K
  y : K
  w : K

variable {K : Type} [Field K]

/-- The weighted sum of a quantity over the points. -/
def total (points : List (Point K)) (quantity : Point K → K) : K :=
  (points.map fun p => p.w * quantity p).sum

def weight (points : List (Point K)) : K := total points fun _ => 1

def meanX (points : List (Point K)) : K := total points Point.x / weight points
def meanY (points : List (Point K)) : K := total points Point.y / weight points

def covariance (points : List (Point K)) : K :=
  total points fun p => (p.x - meanX points) * (p.y - meanY points)

def variance (points : List (Point K)) : K := total points fun p => (p.x - meanX points) ^ 2

def slope (points : List (Point K)) : K := covariance points / variance points

def intercept (points : List (Point K)) : K := meanY points - slope points * meanX points

/-- What a line leaves of the points. -/
def residual (line : K × K) (p : Point K) : K := p.y - (line.1 * p.x + line.2)

/-- The squared error of a line, slope first. -/
def squaredError (points : List (Point K)) (line : K × K) : K :=
  total points fun p => residual line p ^ 2

section Total

variable {points : List (Point K)} {f g : Point K → K}

theorem total_cons (p : Point K) : total (p :: points) f = p.w * f p + total points f := by
  simp [total]

theorem total_add : (total points fun p => f p + g p) = total points f + total points g := by
  induction points with
  | nil => simp [total]
  | cons p rest ih =>
    rw [total_cons, total_cons, total_cons, ih]
    ring

theorem total_mul (c : K) : (total points fun p => c * f p) = c * total points f := by
  induction points with
  | nil => simp [total]
  | cons p rest ih =>
    rw [total_cons, total_cons, ih]
    ring

theorem total_const (c : K) : (total points fun _ => c) = c * weight points := by
  have scaled : (total points fun _ => c * 1) = c * total points fun _ => 1 := total_mul c
  simpa [weight] using scaled

theorem total_sub : (total points fun p => f p - g p) = total points f - total points g := by
  have opposite : (fun p => f p - g p) = fun p => f p + -1 * g p := by
    funext p
    ring
  rw [opposite, total_add, total_mul]
  ring

theorem total_congr (same : ∀ p ∈ points, p.w * f p = p.w * g p) :
    total points f = total points g := by
  unfold total
  exact congrArg List.sum (List.map_congr_left same)

end Total

section Normal

variable {points : List (Point K)}

theorem total_centredX (some_ : weight points ≠ 0) :
    (total points fun p => p.x - meanX points) = 0 := by
  rw [total_sub, total_const, meanX, div_mul_cancel₀ _ some_, sub_self]

theorem total_centredY (some_ : weight points ≠ 0) :
    (total points fun p => p.y - meanY points) = 0 := by
  rw [total_sub, total_const, meanY, div_mul_cancel₀ _ some_, sub_self]

/-- The first normal equation: nothing is left on the whole. -/
theorem total_residual (some_ : weight points ≠ 0) :
    total points (residual (slope points, intercept points)) = 0 := by
  have centred : residual (slope points, intercept points) =
      fun p => (p.y - meanY points) - slope points * (p.x - meanX points) := by
    funext p
    rw [residual, intercept]
    ring
  rw [centred, total_sub, total_mul, total_centredX some_, total_centredY some_]
  ring

/-- The second normal equation: what is left has no trend. -/
theorem total_residual_mul (spread : variance points ≠ 0) :
    (total points fun p => residual (slope points, intercept points) p * (p.x - meanX points)) =
      0 := by
  have centred : (fun p => residual (slope points, intercept points) p * (p.x - meanX points)) =
      fun p => (p.x - meanX points) * (p.y - meanY points) -
        slope points * (p.x - meanX points) ^ 2 := by
    funext p
    rw [residual, intercept]
    ring
  rw [centred, total_sub, total_mul]
  show covariance points - slope points * variance points = 0
  rw [slope, div_mul_cancel₀ _ spread, sub_self]

/-- The error of any line is that of the fitted one, and what its height at the
mean and its slope add. -/
theorem squaredError_eq (some_ : weight points ≠ 0) (spread : variance points ≠ 0) (line : K × K) :
    squaredError points line =
      squaredError points (slope points, intercept points) +
        (weight points * (meanY points - (line.1 * meanX points + line.2)) ^ 2 +
          variance points * (slope points - line.1) ^ 2) := by
  obtain ⟨σ, ι⟩ := line
  set height := meanY points - (σ * meanX points + ι) with height_def
  set tilt := slope points - σ with tilt_def
  have split_ : (fun p => residual (σ, ι) p ^ 2) = fun p =>
      residual (slope points, intercept points) p ^ 2 +
        ((height ^ 2 + tilt ^ 2 * (p.x - meanX points) ^ 2) +
          ((2 * height * tilt) * (p.x - meanX points) +
            ((2 * height) * residual (slope points, intercept points) p +
              (2 * tilt) *
                (residual (slope points, intercept points) p * (p.x - meanX points))))) := by
    funext p
    rw [height_def, tilt_def]
    simp only [residual, intercept]
    ring
  unfold squaredError
  rw [split_, total_add, total_add, total_add, total_add, total_add, total_const, total_mul,
    total_mul, total_mul, total_mul, total_centredX some_, total_residual some_,
    total_residual_mul spread]
  show _ + ((_ + tilt ^ 2 * variance points) + _) = _
  ring

/-- Points on a line give that line. -/
theorem fit_of_line (some_ : weight points ≠ 0) (spread : variance points ≠ 0) (line : K × K)
    (on : ∀ p ∈ points, p.y = line.1 * p.x + line.2) :
    (slope points, intercept points) = line := by
  have mean : meanY points = line.1 * meanX points + line.2 := by
    have sums : total points Point.y = line.1 * total points Point.x + line.2 * weight points := by
      rw [← total_mul, ← total_const, ← total_add]
      exact total_congr fun p listed => by rw [on p listed]
    rw [meanY, meanX, sums, add_div, mul_div_assoc, mul_div_cancel_right₀ _ some_]
  have trend : covariance points = line.1 * variance points := by
    rw [covariance, variance, ← total_mul]
    refine total_congr fun p listed => ?_
    rw [on p listed, mean]
    ring
  have first : slope points = line.1 := by
    rw [slope, trend, mul_div_cancel_right₀ _ spread]
  refine Prod.ext first ?_
  show meanY points - slope points * meanX points = line.2
  rw [mean, first]
  ring

end Normal

section Order

variable [LinearOrder K] [IsStrictOrderedRing K] {points : List (Point K)}

theorem le_total {f : Point K → K} (weights : ∀ p ∈ points, 0 ≤ p.w)
    (nonneg : ∀ p ∈ points, 0 ≤ f p) {p : Point K} (listed : p ∈ points) :
    p.w * f p ≤ total points f := by
  apply List.single_le_sum
  · intro value member
    obtain ⟨q, listed, rfl⟩ := List.mem_map.mp member
    exact mul_nonneg (weights q listed) (nonneg q listed)
  · exact List.mem_map.mpr ⟨p, listed, rfl⟩

/-- No line fits better, and every other one fits worse. -/
def IsBest (points : List (Point K)) (line : K × K) : Prop :=
  ∀ other, squaredError points line ≤ squaredError points other ∧
    (squaredError points other = squaredError points line ↔ other = line)

theorem isBest_fit (some_ : 0 < weight points) (spread : 0 < variance points) :
    IsBest points (slope points, intercept points) := by
  intro line
  have cut := squaredError_eq some_.ne' spread.ne' line
  have height : 0 ≤ weight points * (meanY points - (line.1 * meanX points + line.2)) ^ 2 := by
    positivity
  have tilt : 0 ≤ variance points * (slope points - line.1) ^ 2 := by positivity
  refine ⟨by linarith, fun same => ?_, fun same => by rw [same]⟩
  have noTilt : variance points * (slope points - line.1) ^ 2 = 0 := by linarith
  have noHeight : weight points * (meanY points - (line.1 * meanX points + line.2)) ^ 2 = 0 := by
    linarith
  have slope_ : slope points - line.1 = 0 := by
    simpa [spread.ne'] using noTilt
  have height_ : meanY points - (line.1 * meanX points + line.2) = 0 := by
    simpa [some_.ne'] using noHeight
  have first : line.1 = slope points := (sub_eq_zero.mp slope_).symm
  refine Prod.ext first ?_
  show line.2 = meanY points - slope points * meanX points
  rw [← first]
  linarith

theorem weight_pos (weights : ∀ p ∈ points, 0 ≤ p.w) {p : Point K} (listed : p ∈ points)
    (counts : 0 < p.w) : 0 < weight points := by
  have most : p.w * 1 ≤ total points fun _ => 1 :=
    le_total weights (fun _ _ => zero_le_one) listed
  rw [mul_one] at most
  exact lt_of_lt_of_le counts most

theorem variance_pos (weights : ∀ p ∈ points, 0 ≤ p.w) {p q : Point K} (listed : p ∈ points)
    (listed' : q ∈ points) (counts : 0 < p.w) (counts' : 0 < q.w) (apart : p.x ≠ q.x) :
    0 < variance points := by
  have squares : ∀ p ∈ points, 0 ≤ (p.x - meanX points) ^ 2 := fun p _ => sq_nonneg _
  by_cases off : p.x = meanX points
  · have other : q.x - meanX points ≠ 0 := by
      rw [← off, sub_ne_zero]
      exact apart.symm
    exact lt_of_lt_of_le (by positivity) (le_total weights squares listed')
  · have here : p.x - meanX points ≠ 0 := sub_ne_zero.mpr off
    exact lt_of_lt_of_le (by positivity) (le_total weights squares listed)

end Order

end SleepySensor.LeastSquares
