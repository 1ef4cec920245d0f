import SleepySensor.Base

/-!
# The NVS namespace `rtcfg`

Entries are typed.  A get of another type (or blob size) than the stored one
fails, a set replaces the entry together with its type.  Opening the namespace
and writing to it succeed.
-/

set_option autoImplicit false

namespace SleepySensor

inductive NvsKey where
  | tempOffset | tempMinChange | rhOffset | rhMinChange | maxPubGapS | htrPeriodMin
  | htrHiRhTrig | extAntenna | sensorSamples | rtcCalSamples | rtcCalPerS
  | txpPending | txpPendFlag | txpKnownGood
  deriving DecidableEq, Repr

inductive NvsValue where
  | u8 (value : Nat)
  | i8 (value : Int)
  | u32 (value : Nat)
  | i32 (value : Int)
  | floatBlob (value : Flt)
  deriving DecidableEq, Repr

def Nvs : Type := NvsKey → Option NvsValue

namespace Nvs

def erased : Nvs := fun _ => none

def set (nvs : Nvs) (key : NvsKey) (value : NvsValue) : Nvs :=
  fun other => if other = key then some value else nvs other

theorem set_other (nvs : Nvs) {key other : NvsKey} (value : NvsValue) (differ : other ≠ key) :
    nvs.set key value other = nvs other := by simp [set, differ]

def getU8 (nvs : Nvs) (key : NvsKey) : Option Nat :=
  match nvs key with
  | some (.u8 value) => some value
  | _ => none

def getI8 (nvs : Nvs) (key : NvsKey) : Option Int :=
  match nvs key with
  | some (.i8 value) => some value
  | _ => none

def getU32 (nvs : Nvs) (key : NvsKey) : Option Nat :=
  match nvs key with
  | some (.u32 value) => some value
  | _ => none

def getI32 (nvs : Nvs) (key : NvsKey) : Option Int :=
  match nvs key with
  | some (.i32 value) => some value
  | _ => none

def getFloatBlob (nvs : Nvs) (key : NvsKey) : Option Flt :=
  match nvs key with
  | some (.floatBlob value) => some value
  | _ => none

/-! `runtime_config_nvs_override`, one overload for each type. -/

def overrideFloat (yamlOrDefault : Flt) (key : NvsKey) (nvs : Nvs) : Flt :=
  (nvs.getFloatBlob key).getD yamlOrDefault

def overrideUint32 (yamlOrDefault : Nat) (key : NvsKey) (nvs : Nvs) : Nat :=
  (nvs.getU32 key).getD yamlOrDefault

def overrideBool (yamlOrDefault : Bool) (key : NvsKey) (nvs : Nvs) : Bool :=
  match nvs.getU8 key with
  | some value => value != 0
  | none => yamlOrDefault

def overrideInt32 (yamlOrDefault : Int) (key : NvsKey) (nvs : Nvs) : Int :=
  (nvs.getI32 key).getD yamlOrDefault

theorem overrideInt32_of_i8 {nvs : Nvs} {key : NvsKey} {value : Int} (yamlOrDefault : Int)
    (stored : nvs key = some (.i8 value)) :
    nvs.overrideInt32 yamlOrDefault key = yamlOrDefault := by
  simp [overrideInt32, getI32, stored]

end Nvs

end SleepySensor
