import SleepySensor.Base

/-!
# Battery voltage to percent

`SensorsValues::convertVoltageToPercent` in exact arithmetic: the etalon curve
gives the shape, the two anchors of the pack the scale.
-/

set_option autoImplicit false

namespace SleepySensor.Battery

def minVoltage : Int := 3300
def maxVoltage : Int := 4120

/-- `BATTERY_CURVE`: resting millivolts and percent of a 4.20 V cell. -/
def batteryCurve : List (Int × Int) :=
  [(3270, 0), (3610, 5), (3690, 10), (3710, 15), (3730, 20), (3750, 25), (3770, 30), (3790, 35),
   (3800, 40), (3820, 45), (3840, 50), (3850, 55), (3870, 60), (3910, 65), (3950, 70), (3980, 75),
   (4020, 80), (4080, 85), (4110, 90), (4150, 95), (4200, 100)]

/-- Interpolation from the point `low` on: the first point at or above `mv` is
the upper end. -/
def interpolate (mv : Int) (low : Int × Int) : List (Int × Int) → ℚ
  | [] => low.2
  | high :: rest =>
    if mv ≤ high.1 then low.2 + (mv - low.1) * (high.2 - low.2) / (high.1 - low.1)
    else interpolate mv high rest

def etalonSoc (mv : Int) : ℚ :=
  if mv ≤ 3270 then 0
  else if mv ≥ 4200 then 100
  else interpolate mv (3270, 0) batteryCurve.tail

/-- `std::round`: half away from zero, here of a value that is not negative. -/
def roundHalfUp (value : ℚ) : Int := ⌊value + 1 / 2⌋

def clampPercent (value : ℚ) : ℚ := if value < 0 then 0 else if 100 < value then 100 else value

def convertVoltageToPercent (mv : Int) (minMv maxMv : Int) : ℚ :=
  let socMin := etalonSoc minMv
  let socMax := etalonSoc maxMv
  if maxMv ≤ minMv then 0
  else if socMax ≤ socMin then 0
  else
    let normalized := (etalonSoc mv - socMin) / (socMax - socMin) * 100
    roundHalfUp (clampPercent normalized * 100) / 100

def batteryPercent (mv : Int) : Flt := .fin (convertVoltageToPercent mv minVoltage maxVoltage)

example : batteryPercent 3300 = .fin 0 := by decide +kernel

end SleepySensor.Battery
