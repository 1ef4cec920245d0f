import SleepySensor.CfgTopic
import SleepySensor.LpRange

/-!
# Payloads and echoes

`runtime_config_on_mqtt_data` on the bytes of a payload, and the exchange that
follows: `runtime_config_apply_pending` publishes echoes, the broker hands them
back, and the next call sees them as received values.
-/

set_option autoImplicit false

namespace SleepySensor

inductive CfgTopicName where
  | tempOffset | tempMinChange | rhOffset | rhMinChange | maxPublishGapSec | heaterPeriod
  | heaterHighRh | extAntenna | txPowerDbm | sensorSamples | rtcCalSamples | rtcCalPeriodSec
  deriving DecidableEq, Repr

/-- The bytes of a payload, one character each. -/
abbrev Payload : Type := List Char

/-- `std::from_chars` and `std::to_chars` on `float`: what one reads the other
prints so that it is read again, and the limits of the four ranges are floats. -/
structure FloatChars where
  fromChars : Payload → Option Flt
  toChars : Flt → Payload
  roundTrip : ∀ data value, fromChars data = some value → fromChars (toChars value) = some value
  limits : ∀ limit ∈ [tempOffsetMin, tempOffsetMax, tempMinChangeMin, tempMinChangeMax,
    rhOffsetMin, rhOffsetMax, rhMinChangeMin, rhMinChangeMax], ∃ data, fromChars data = some limit

namespace EchoExchange

open RuntimeConfig CfgTopic LiveConfig

/-- `parse_uint32`: decimal digits to the end, no sign, in 32 bits. -/
def parseUint32 (data : Payload) : Option Nat :=
  if data ≠ [] ∧ data.all Char.isDigit = true ∧ Nat.ofDigitChars 10 data 0 < u32Mod then
    some (Nat.ofDigitChars 10 data 0)
  else none

/-- `parse_int32`: `std::from_chars` knows the minus sign only. -/
def parseInt32 : Payload → Option Int
  | '-' :: digits =>
    (parseUint32 digits).bind fun value => if value ≤ 2147483648 then some (-value) else none
  | digits => (parseUint32 digits).bind fun value => if value < 2147483648 then some value else none

def parseExtAntenna (data : Payload) : Option Bool :=
  if data = ['O', 'N'] then some true
  else if data = ['O', 'F', 'F'] then some false
  else none

def appendUint32 (value : Nat) : Payload := Nat.toDigits 10 value

def appendInt32 (value : Int) : Payload :=
  if value < 0 then '-' :: Nat.toDigits 10 value.natAbs else Nat.toDigits 10 value.natAbs

def parse (chars : FloatChars) : CfgTopicName → Payload → Option CfgMessage
  | .tempOffset, data => (chars.fromChars data).map .tempOffset
  | .tempMinChange, data => (chars.fromChars data).map .tempMinChange
  | .rhOffset, data => (chars.fromChars data).map .rhOffset
  | .rhMinChange, data => (chars.fromChars data).map .rhMinChange
  | .maxPublishGapSec, data => (parseUint32 data).map .maxPublishGapSec
  | .heaterPeriod, data => (parseUint32 data).map .heaterPeriod
  | .heaterHighRh, data => (parseUint32 data).map .heaterHighRh
  | .extAntenna, data => (parseExtAntenna data).map .extAntenna
  | .txPowerDbm, data => (parseInt32 data).map .txPowerDbm
  | .sensorSamples, data => (parseUint32 data).map .sensorSamples
  | .rtcCalSamples, data => (parseUint32 data).map .rtcCalSamples
  | .rtcCalPeriodSec, data => (parseUint32 data).map .rtcCalPeriodSec

def print (chars : FloatChars) : CfgMessage → CfgTopicName × Payload
  | .tempOffset value => (.tempOffset, chars.toChars value)
  | .tempMinChange value => (.tempMinChange, chars.toChars value)
  | .rhOffset value => (.rhOffset, chars.toChars value)
  | .rhMinChange value => (.rhMinChange, chars.toChars value)
  | .maxPublishGapSec value => (.maxPublishGapSec, appendUint32 value)
  | .heaterPeriod value => (.heaterPeriod, appendUint32 value)
  | .heaterHighRh value => (.heaterHighRh, appendUint32 value)
  | .extAntenna value => (.extAntenna, if value then ['O', 'N'] else ['O', 'F', 'F'])
  | .txPowerDbm value => (.txPowerDbm, appendInt32 value)
  | .sensorSamples value => (.sensorSamples, appendUint32 value)
  | .rtcCalSamples value => (.rtcCalSamples, appendUint32 value)
  | .rtcCalPeriodSec value => (.rtcCalPeriodSec, appendUint32 value)

/-- `runtime_config_on_mqtt_data` for one message. -/
def onBytes (chars : FloatChars) (config : RuntimeConfig) (message : CfgTopicName × Payload) :
    RuntimeConfig :=
  match parse chars message.1 message.2 with
  | none => config
  | some parsed => config.onMqttData parsed

def receiveAll (chars : FloatChars) (config : RuntimeConfig)
    (messages : List (CfgTopicName × Payload)) : RuntimeConfig :=
  messages.foldl (onBytes chars) config

/-- The number that `runtime_config_apply_pending` returns. -/
def applied (snap : PendingCfg) : Nat :=
  snap.tempOffset.set.toNat + snap.tempMinChange.set.toNat + snap.rhOffset.set.toNat +
  snap.rhMinChange.set.toNat + snap.sensorSamples.set.toNat + snap.maxPublishGapSec.set.toNat +
  snap.heaterPeriod.set.toNat + snap.heaterHighRh.set.toNat + snap.extAntenna.set.toNat +
  snap.txPowerDbm.set.toNat + snap.rtcCalSamples.set.toNat + snap.rtcCalPeriodSec.set.toNat

/-- One call of `runtime_config_apply_pending`, its echoes all delivered back. -/
def exchange (chars : FloatChars) (config : RuntimeConfig) : RuntimeConfig :=
  receiveAll chars (config.mergeAll config.settleAll)
    ((echoes config.settleAll).map (print chars))

/-- The next `runtime_config_apply_pending` has nothing to do. -/
structure AppliesNothing (config : RuntimeConfig) : Prop where
  applied : applied config.settleAll = 0
  merged : config.mergeAll config.settleAll = { config with pending := {} }
  persisted : ∀ nvs, persistAll config.settleAll nvs = nvs
  echoed : echoes config.settleAll = []

/-- A float is pending that is not a number. -/
def NanPending (pending : PendingCfg) : Prop :=
  (pending.tempOffset.set = true ∧ pending.tempOffset.value = .nan) ∨
  (pending.tempMinChange.set = true ∧ pending.tempMinChange.value = .nan) ∨
  (pending.rhOffset.set = true ∧ pending.rhOffset.value = .nan) ∨
  (pending.rhMinChange.set = true ∧ pending.rhMinChange.value = .nan)

instance (pending : PendingCfg) : Decidable (NanPending pending) := by
  unfold NanPending
  infer_instance

/-! ## What is printed is read again -/

theorem parseUint32_append {value : Nat} (small : value < u32Mod) :
    parseUint32 (appendUint32 value) = some value := by
  have digits : (appendUint32 value).all Char.isDigit = true :=
    List.all_eq_true.mpr fun c member => Nat.isDigit_of_mem_toDigits (by decide) (by decide) member
  have read : Nat.ofDigitChars 10 (appendUint32 value) 0 = value := Nat.ofDigitChars_ten_toDigits
  unfold parseUint32
  rw [read, if_pos ⟨Nat.toDigits_ne_nil, digits, small⟩]

theorem parseExtAntenna_print (value : Bool) :
    parseExtAntenna (if value then ['O', 'N'] else ['O', 'F', 'F']) = some value := by
  cases value <;> rfl

theorem clamped_read (chars : FloatChars) {value low high : Flt}
    (read : ∃ data, chars.fromChars data = some value)
    (below : ∃ data, chars.fromChars data = some low)
    (above : ∃ data, chars.fromChars data = some high) :
    chars.fromChars (chars.toChars (stdClamp value low high)) =
      some (stdClamp value low high) := by
  have found : ∃ data, chars.fromChars data = some (stdClamp value low high) := by
    unfold stdClamp
    split_ifs
    · exact below
    · exact above
    · exact read
  obtain ⟨data, read⟩ := found
  exact chars.roundTrip data _ read

/-! ## Clamps are idempotent and keep a NaN a NaN -/

theorem ne_self (value : Flt) : CppCmp.ne value value = decide (value = .nan) := by
  cases value <;> simp [CppCmp.ne, Flt.ne]

theorem stdClamp_idem {T : Type} [CppCmp T] {low high : T} (bottom : CppCmp.lt low low = false)
    (range : CppCmp.lt high low = false) (top : CppCmp.lt high high = false) (value : T) :
    stdClamp (stdClamp value low high) low high = stdClamp value low high := by
  unfold stdClamp
  cases below : CppCmp.lt value low with
  | true => simp [bottom, range]
  | false =>
    cases above : CppCmp.lt high value with
    | true => simp [range, top]
    | false => simp [below, above]

theorem stdClamp_flt_nan (value : Flt) (low high : ℚ) :
    CppCmp.ne (stdClamp value (.fin low) (.fin high)) (stdClamp value (.fin low) (.fin high)) =
      CppCmp.ne value value := by
  rw [ne_self, ne_self]
  cases value with
  | fin value =>
    unfold stdClamp
    split_ifs <;> simp
  | inf negative => cases negative <;> simp [stdClamp, CppCmp.lt, Flt.lt]
  | nan => rfl

theorem ne_self_nat (value : Nat) : CppCmp.ne value value = false := by simp [CppCmp.ne]

theorem ne_self_bool (value : Bool) : CppCmp.ne value value = false := by simp [CppCmp.ne]

/-! ## One parameter -/

/-- What the exchange uses of a parameter: which messages reach its slot, and
that its clamp changes nothing the second time. -/
structure EchoedField (T : Type) [CppCmp T] extends CfgField T where
  carried : CfgMessage → Option T
  carries : ∀ (config : RuntimeConfig) (message : CfgMessage),
    slot (config.onMqttData message).pending =
      match carried message with
      | some value => (slot config.pending).receive value
      | none => slot config.pending
  kept : ∀ (config : RuntimeConfig) (message : CfgMessage),
    current (config.onMqttData message) = current config
  settles : ∀ config : RuntimeConfig,
    slot config.settleAll = (slot config.pending).settle clamp (current config)
  echoed : ∀ snap : PendingCfg, (echoes snap).filterMap carried =
    if (slot snap).echo then [(slot snap).value] else []
  cleared : ∀ (config : RuntimeConfig) (snap : PendingCfg),
    (slot (config.mergeAll snap).pending).set = false ∧
      (slot (config.mergeAll snap).pending).echo = false
  idem : ∀ value, clamp (clamp value) = clamp value
  regular : ∀ value, CppCmp.ne (clamp value) (clamp value) = CppCmp.ne value value

theorem filterMap_echoOf {T S : Type} (slot : Slot T) (message : T → CfgMessage)
    (carried : CfgMessage → Option S) :
    (echoOf slot message).filterMap carried =
      if slot.echo then (carried (message slot.value)).toList else [] := by
  unfold echoOf
  split
  · cases found : carried (message slot.value) <;> simp [found]
  · rfl

def tempOffsetEchoed : EchoedField Flt where
  toCfgField := tempOffsetField
  carried | .tempOffset value => some value | _ => none
  carries := by rintro config (_ | _) <;> rfl
  kept := fun _ _ => rfl
  settles := fun _ => rfl
  echoed := fun snap => by
    simp only [echoes, List.filterMap_append, filterMap_echoOf, Option.toList_none, ite_self,
      Option.toList_some, List.append_nil]
    rfl
  cleared := fun _ _ => ⟨rfl, rfl⟩
  idem := @stdClamp_idem Flt _ tempOffsetMin tempOffsetMax (by decide +kernel) (by decide +kernel)
    (by decide +kernel)
  regular := fun value => stdClamp_flt_nan value _ _

def tempMinChangeEchoed : EchoedField Flt where
  toCfgField := tempMinChangeField
  carried | .tempMinChange value => some value | _ => none
  carries := by rintro config (_ | _) <;> rfl
  kept := fun _ _ => rfl
  settles := fun _ => rfl
  echoed := fun snap => by
    simp only [echoes, List.filterMap_append, filterMap_echoOf, Option.toList_none, ite_self,
      Option.toList_some, List.append_nil, List.nil_append]
    rfl
  cleared := fun _ _ => ⟨rfl, rfl⟩
  idem := @stdClamp_idem Flt _ tempMinChangeMin tempMinChangeMax (by decide +kernel)
    (by decide +kernel)
    (by decide +kernel)
  regular := fun value => stdClamp_flt_nan value _ _

def rhOffsetEchoed : EchoedField Flt where
  toCfgField := rhOffsetField
  carried | .rhOffset value => some value | _ => none
  carries := by rintro config (_ | _) <;> rfl
  kept := fun _ _ => rfl
  settles := fun _ => rfl
  echoed := fun snap => by
    simp only [echoes, List.filterMap_append, filterMap_echoOf, Option.toList_none, ite_self,
      Option.toList_some, List.append_nil, List.nil_append]
    rfl
  cleared := fun _ _ => ⟨rfl, rfl⟩
  idem := @stdClamp_idem Flt _ rhOffsetMin rhOffsetMax (by decide +kernel) (by decide +kernel)
    (by decide +kernel)
  regular := fun value => stdClamp_flt_nan value _ _

def rhMinChangeEchoed : EchoedField Flt where
  toCfgField := rhMinChangeField
  carried | .rhMinChange value => some value | _ => none
  carries := by rintro config (_ | _) <;> rfl
  kept := fun _ _ => rfl
  settles := fun _ => rfl
  echoed := fun snap => by
    simp only [echoes, List.filterMap_append, filterMap_echoOf, Option.toList_none, ite_self,
      Option.toList_some, List.append_nil, List.nil_append]
    rfl
  cleared := fun _ _ => ⟨rfl, rfl⟩
  idem := @stdClamp_idem Flt _ rhMinChangeMin rhMinChangeMax (by decide +kernel) (by decide +kernel)
    (by decide +kernel)
  regular := fun value => stdClamp_flt_nan value _ _

def maxPublishGapSecEchoed : EchoedField Nat where
  toCfgField := maxPublishGapSecField
  carried | .maxPublishGapSec value => some value | _ => none
  carries := by rintro config (_ | _) <;> rfl
  kept := fun _ _ => rfl
  settles := fun _ => rfl
  echoed := fun snap => by
    simp only [echoes, List.filterMap_append, filterMap_echoOf, Option.toList_none, ite_self,
      Option.toList_some, List.append_nil, List.nil_append]
    rfl
  cleared := fun _ _ => ⟨rfl, rfl⟩
  idem := @stdClamp_idem Nat _ maxPublishGapSecMin maxPublishGapSecMax (by decide) (by decide)
    (by decide)
  regular := fun _ => (ne_self_nat _).trans (ne_self_nat _).symm

def heaterPeriodEchoed : EchoedField Nat where
  toCfgField := heaterPeriodField
  carried | .heaterPeriod value => some value | _ => none
  carries := by rintro config (_ | _) <;> rfl
  kept := fun _ _ => rfl
  settles := fun _ => rfl
  echoed := fun snap => by
    simp only [echoes, List.filterMap_append, filterMap_echoOf, Option.toList_none, ite_self,
      Option.toList_some, List.append_nil, List.nil_append]
    rfl
  cleared := fun _ _ => ⟨rfl, rfl⟩
  idem := @stdClamp_idem Nat _ heaterPeriodMinMinutes heaterPeriodMaxMinutes (by decide) (by decide)
    (by decide)
  regular := fun _ => (ne_self_nat _).trans (ne_self_nat _).symm

def heaterHighRhEchoed : EchoedField Nat where
  toCfgField := heaterHighRhField
  carried | .heaterHighRh value => some value | _ => none
  carries := by rintro config (_ | _) <;> rfl
  kept := fun _ _ => rfl
  settles := fun _ => rfl
  echoed := fun snap => by
    simp only [echoes, List.filterMap_append, filterMap_echoOf, Option.toList_none, ite_self,
      Option.toList_some, List.append_nil, List.nil_append]
    rfl
  cleared := fun _ _ => ⟨rfl, rfl⟩
  idem := @stdClamp_idem Nat _ heaterHighRhMinMinutes heaterHighRhMaxMinutes (by decide) (by decide)
    (by decide)
  regular := fun _ => (ne_self_nat _).trans (ne_self_nat _).symm

def sensorSamplesEchoed : EchoedField Nat where
  toCfgField := sensorSamplesField
  carried | .sensorSamples value => some value | _ => none
  carries := by rintro config (_ | _) <;> rfl
  kept := fun _ _ => rfl
  settles := fun _ => rfl
  echoed := fun snap => by
    simp only [echoes, List.filterMap_append, filterMap_echoOf, Option.toList_none, ite_self,
      Option.toList_some, List.append_nil, List.nil_append]
    rfl
  cleared := fun _ _ => ⟨rfl, rfl⟩
  idem := @stdClamp_idem Nat _ sensorSamplesMin sensorSamplesMax (by decide) (by decide) (by decide)
  regular := fun _ => (ne_self_nat _).trans (ne_self_nat _).symm

def rtcCalSamplesEchoed : EchoedField Nat where
  toCfgField := rtcCalSamplesField
  carried | .rtcCalSamples value => some value | _ => none
  carries := by rintro config (_ | _) <;> rfl
  kept := fun _ _ => rfl
  settles := fun _ => rfl
  echoed := fun snap => by
    simp only [echoes, List.filterMap_append, filterMap_echoOf, Option.toList_none, ite_self,
      Option.toList_some, List.append_nil, List.nil_append]
    rfl
  cleared := fun _ _ => ⟨rfl, rfl⟩
  idem := rtcCalClampSamples_idem
  regular := fun _ => (ne_self_nat _).trans (ne_self_nat _).symm

def rtcCalPeriodSecEchoed : EchoedField Nat where
  toCfgField := rtcCalPeriodSecField
  carried | .rtcCalPeriodSec value => some value | _ => none
  carries := by rintro config (_ | _) <;> rfl
  kept := fun _ _ => rfl
  settles := fun _ => rfl
  echoed := fun snap => by
    simp only [echoes, List.filterMap_append, filterMap_echoOf, Option.toList_none, ite_self,
      Option.toList_some, List.append_nil, List.nil_append]
    rfl
  cleared := fun _ _ => ⟨rfl, rfl⟩
  idem := rtcCalClampPeriodSec_idem
  regular := fun _ => (ne_self_nat _).trans (ne_self_nat _).symm

def extAntennaEchoed : EchoedField Bool where
  toCfgField := extAntennaField
  carried | .extAntenna value => some value | _ => none
  carries := by rintro config (_ | _) <;> rfl
  kept := fun _ _ => rfl
  settles := fun _ => rfl
  echoed := fun snap => by
    simp only [echoes, List.filterMap_append, filterMap_echoOf, Option.toList_none, ite_self,
      Option.toList_some, List.append_nil, List.nil_append]
    rfl
  cleared := fun _ _ => ⟨rfl, rfl⟩
  idem := fun _ => rfl
  regular := fun _ => rfl


section Exchange

variable {T : Type} [CppCmp T]

theorem slot_received (field : EchoedField T) (config : RuntimeConfig)
    (messages : List CfgMessage) :
    field.slot (messages.foldl onMqttData config).pending =
      (messages.filterMap field.carried).foldl Slot.receive (field.slot config.pending) := by
  induction messages generalizing config with
  | nil => rfl
  | cons message rest ih =>
    rw [List.foldl_cons, ih, field.carries]
    cases reached : field.carried message with
    | none => rw [List.filterMap_cons_none reached]
    | some value => rw [List.filterMap_cons_some reached, List.foldl_cons]

theorem current_received (field : EchoedField T) (config : RuntimeConfig)
    (messages : List CfgMessage) :
    field.current (messages.foldl onMqttData config) = field.current config := by
  induction messages generalizing config with
  | nil => rfl
  | cons message rest ih =>
    rw [List.foldl_cons, ih]
    exact field.kept config message

/-- The parameter is at rest after the exchange exactly if what was pending
compares equal to itself. -/
theorem field_settles_iff (field : EchoedField T) (config : RuntimeConfig)
    (fresh : (field.slot config.pending).echo = false) :
    ((field.slot ((echoes config.settleAll).foldl onMqttData
          (config.mergeAll config.settleAll)).settleAll).set = false ∧
      (field.slot ((echoes config.settleAll).foldl onMqttData
          (config.mergeAll config.settleAll)).settleAll).echo = false) ↔
    ((field.slot config.pending).set = true →
      CppCmp.ne (field.slot config.pending).value (field.slot config.pending).value = false) := by
  obtain ⟨cleared, quiet⟩ := field.cleared config config.settleAll
  rw [field.settles, slot_received, current_received, field.echoed, field.settles, field.applied]
  generalize field.slot (config.mergeAll config.settleAll).pending = empty at cleared quiet
  generalize field.slot config.pending = slot at fresh
  cases received : slot.set with
  | false => simp [Slot.settle, received, fresh, cleared, quiet]
  | true =>
    rw [Slot.settle_merge slot field.clamp _ received]
    cases echoed : CppCmp.ne slot.value (field.current config) with
    | true =>
      -- the echo comes back as the value in effect
      simp [Slot.settle, received, echoed, Slot.receive, field.idem, field.regular]
    | false =>
      have same : slot.value = field.current config := CppCmp.eq_of_ne_false _ _ echoed
      have equal : CppCmp.ne slot.value slot.value = false := by
        rw [← same] at echoed
        exact echoed
      simp [Slot.settle, received, echoed, cleared, quiet, equal]

end Exchange

/-! ## The whole exchange -/

section Whole

variable {chars : FloatChars} {config : RuntimeConfig}

theorem receiveAll_eq (chars : FloatChars) (config : RuntimeConfig)
    (messages : List (CfgTopicName × Payload)) :
    receiveAll chars config messages =
      (messages.filterMap fun message => parse chars message.1 message.2).foldl onMqttData
        config := by
  unfold receiveAll
  induction messages generalizing config with
  | nil => rfl
  | cons message rest ih =>
    rw [List.foldl_cons, ih]
    cases parsed : parse chars message.1 message.2 with
    | none => simp [onBytes, parsed]
    | some value => simp [onBytes, parsed]

theorem txSlot_received {messages : List CfgMessage}
    (others : ∀ message ∈ messages, ∀ dbm, message ≠ .txPowerDbm dbm) (config : RuntimeConfig) :
    (messages.foldl onMqttData config).pending.txPowerDbm = config.pending.txPowerDbm := by
  induction messages generalizing config with
  | nil => rfl
  | cons message rest ih =>
    rw [List.foldl_cons, ih fun other member => others other (List.mem_cons_of_mem _ member)]
    cases message with
    | txPowerDbm dbm => exact absurd rfl (others _ List.mem_cons_self dbm)
    | _ => rfl

theorem foldl_receive {T : Type} (values : List T) (slot : Slot T) :
    (values.foldl Slot.receive slot).echo = slot.echo ∧
      ((values.foldl Slot.receive slot).set = true →
        slot.set = true ∧ values = [] ∨ (values.foldl Slot.receive slot).value ∈ values) := by
  induction values generalizing slot with
  | nil => exact ⟨rfl, fun filled => Or.inl ⟨filled, rfl⟩⟩
  | cons value rest ih =>
    obtain ⟨echo, member⟩ := ih (slot.receive value)
    refine ⟨echo, fun filled => Or.inr ?_⟩
    rcases member filled with ⟨_, rfl⟩ | member
    · exact List.mem_cons_self
    · exact List.mem_cons_of_mem _ member

/-- What the pending slots hold before `runtime_config_apply_pending`. -/
structure Received (chars : FloatChars) (config : RuntimeConfig) : Prop where
  fresh : ∀ {T : Type} [CppCmp T] (field : EchoedField T),
    (field.slot {}).echo = false → (field.slot config.pending).echo = false
  read : ∀ field ∈ [tempOffsetEchoed, tempMinChangeEchoed, rhOffsetEchoed, rhMinChangeEchoed],
    (field.slot config.pending).set = true →
      ∃ data, chars.fromChars data = some (field.slot config.pending).value
  tx : config.pending.txPowerDbm = { value := 0 }

theorem carried_read {field : EchoedField Flt} {message : CfgMessage} {value : Flt}
    {topic : CfgTopicName} {data : Payload}
    (floats : field ∈ [tempOffsetEchoed, tempMinChangeEchoed, rhOffsetEchoed, rhMinChangeEchoed])
    (parsed : parse chars topic data = some message)
    (reached : field.carried message = some value) :
    chars.fromChars data = some value := by
  simp only [List.mem_cons, List.not_mem_nil, or_false] at floats
  rcases floats with rfl | rfl | rfl | rfl <;>
    cases topic <;> simp only [parse, Option.map_eq_some_iff] at parsed <;>
    obtain ⟨read, found, rfl⟩ := parsed <;> cases reached
  all_goals exact found

theorem parse_tx {topic : CfgTopicName} {data : Payload} {dbm : Int}
    (parsed : parse chars topic data = some (.txPowerDbm dbm)) : topic = .txPowerDbm := by
  cases topic <;> simp_all [parse]

theorem received_pending {messages : List (CfgTopicName × Payload)}
    (others : ∀ message ∈ messages, message.1 ≠ .txPowerDbm) :
    Received chars (receiveAll chars { config with pending := {} } messages) := by
  rw [receiveAll_eq]
  constructor
  · intro T _ field quiet
    rw [slot_received, (foldl_receive _ _).1]
    exact quiet
  · intro field floats filled
    have empty : (field.slot {}).set = false := by
      simp only [List.mem_cons, List.not_mem_nil, or_false] at floats
      rcases floats with rfl | rfl | rfl | rfl <;> rfl
    rw [slot_received] at filled ⊢
    rcases (foldl_receive _ _).2 filled with ⟨set, _⟩ | member
    · cases empty.symm.trans set
    obtain ⟨message, found, reached⟩ := List.mem_filterMap.mp member
    obtain ⟨⟨topic, data⟩, _, parsed⟩ := List.mem_filterMap.mp found
    exact ⟨data, carried_read floats parsed reached⟩
  · rw [txSlot_received]
    intro message found dbm same
    obtain ⟨⟨topic, data⟩, member, parsed⟩ := List.mem_filterMap.mp found
    rw [same] at parsed
    exact others _ member (parse_tx parsed)

theorem settled_echo {T : Type} [CppCmp T] {slot : Slot T} {clamp : T → T} {current : T}
    (fresh : slot.echo = false) (echoed : (slot.settle clamp current).echo = true) :
    slot.set = true ∧ (slot.settle clamp current).value = clamp slot.value := by
  unfold Slot.settle at echoed ⊢
  cases received : slot.set with
  | true => exact ⟨rfl, rfl⟩
  | false =>
    rw [received, if_neg Bool.false_ne_true, fresh] at echoed
    cases echoed

theorem mem_echoOf {T : Type} {slot : Slot T} {message : T → CfgMessage} {echo : CfgMessage} :
    echo ∈ echoOf slot message ↔ slot.echo = true ∧ echo = message slot.value := by
  unfold echoOf
  cases slot.echo <;> simp

theorem stdClamp_lt {low high : Nat} (range : low ≤ high) (small : high < u32Mod) (value : Nat) :
    stdClamp value low high < u32Mod :=
  (natWithin_stdClamp value range).2.trans_lt small

theorem rtcCalClampSamples_lt (samples : Nat) : rtcCalClampSamples samples < u32Mod := by
  unfold rtcCalClampSamples
  split <;> simp only [rtcCalSamplesMax, u32Mod] at * <;> omega

theorem rtcCalClampPeriodSec_lt (periodSec : Nat) : rtcCalClampPeriodSec periodSec < u32Mod := by
  have range := rtcCalClampPeriodSec_range periodSec
  simp only [rtcCalPeriodSecFloor, rtcCalPeriodSecMax, u32Mod] at *
  omega

theorem echo_parses (received : Received chars config) {echo : CfgMessage}
    (member : echo ∈ echoes config.settleAll) :
    parse chars (print chars echo).1 (print chars echo).2 = some echo := by
  have floats : ∀ field ∈ [tempOffsetEchoed, tempMinChangeEchoed, rhOffsetEchoed,
      rhMinChangeEchoed], (field.slot config.settleAll).echo = true →
      (field.slot {}).echo = false →
      (∃ low high, field.clamp = (stdClamp · low high) ∧
        (∃ data, chars.fromChars data = some low) ∧ ∃ data, chars.fromChars data = some high) →
      chars.fromChars (chars.toChars (field.slot config.settleAll).value) =
        some (field.slot config.settleAll).value := by
    intro field floats echoed quiet limits
    obtain ⟨low, high, clamp, below, above⟩ := limits
    rw [field.settles] at echoed ⊢
    obtain ⟨filled, value⟩ := settled_echo (received.fresh field quiet) echoed
    rw [value, clamp]
    exact clamped_read chars (received.read field floats filled) below above
  have integers : ∀ field : EchoedField Nat, (field.slot config.settleAll).echo = true →
      (field.slot {}).echo = false → (∀ value, field.clamp value < u32Mod) →
      parseUint32 (appendUint32 (field.slot config.settleAll).value) =
        some (field.slot config.settleAll).value := by
    intro field echoed quiet small
    rw [field.settles] at echoed ⊢
    obtain ⟨_, value⟩ := settled_echo (received.fresh field quiet) echoed
    rw [value]
    exact parseUint32_append (small _)
  have limits := chars.limits
  simp only [List.mem_cons, List.not_mem_nil, or_false, forall_eq_or_imp, forall_eq] at limits
  obtain ⟨one, two, three, four, five, six, seven, eight⟩ := limits
  simp only [echoes, List.mem_append, mem_echoOf] at member
  rcases member with ((((((((((⟨echoed, rfl⟩ | ⟨echoed, rfl⟩) | ⟨echoed, rfl⟩) | ⟨echoed, rfl⟩) |
    ⟨echoed, rfl⟩) | ⟨echoed, rfl⟩) | ⟨echoed, rfl⟩) | ⟨echoed, rfl⟩) | ⟨echoed, rfl⟩) |
    ⟨echoed, rfl⟩) | ⟨echoed, rfl⟩) | ⟨echoed, rfl⟩
  · have read := floats tempOffsetEchoed (by simp) echoed rfl ⟨_, _, rfl, one, two⟩
    exact congrArg (Option.map CfgMessage.tempOffset) read
  · have read := floats tempMinChangeEchoed (by simp) echoed rfl ⟨_, _, rfl, three, four⟩
    exact congrArg (Option.map CfgMessage.tempMinChange) read
  · have read := floats rhOffsetEchoed (by simp) echoed rfl ⟨_, _, rfl, five, six⟩
    exact congrArg (Option.map CfgMessage.rhOffset) read
  · have read := floats rhMinChangeEchoed (by simp) echoed rfl ⟨_, _, rfl, seven, eight⟩
    exact congrArg (Option.map CfgMessage.rhMinChange) read
  · have read := integers maxPublishGapSecEchoed echoed rfl
      (@stdClamp_lt maxPublishGapSecMin maxPublishGapSecMax (by decide) (by decide))
    exact congrArg (Option.map CfgMessage.maxPublishGapSec) read
  · have read := integers heaterPeriodEchoed echoed rfl
      (@stdClamp_lt heaterPeriodMinMinutes heaterPeriodMaxMinutes (by decide) (by decide))
    exact congrArg (Option.map CfgMessage.heaterPeriod) read
  · have read := integers heaterHighRhEchoed echoed rfl
      (@stdClamp_lt heaterHighRhMinMinutes heaterHighRhMaxMinutes (by decide) (by decide))
    exact congrArg (Option.map CfgMessage.heaterHighRh) read
  · exact congrArg (Option.map CfgMessage.extAntenna) (parseExtAntenna_print _)
  · -- nothing was received on the topic, so nothing is echoed on it
    simp [settleAll, settleTxPower, received.tx] at echoed
  · have read := integers sensorSamplesEchoed echoed rfl
      (@stdClamp_lt sensorSamplesMin sensorSamplesMax (by decide) (by decide))
    exact congrArg (Option.map CfgMessage.sensorSamples) read
  · have read := integers rtcCalSamplesEchoed echoed rfl rtcCalClampSamples_lt
    exact congrArg (Option.map CfgMessage.rtcCalSamples) read
  · have read := integers rtcCalPeriodSecEchoed echoed rfl rtcCalClampPeriodSec_lt
    exact congrArg (Option.map CfgMessage.rtcCalPeriodSec) read

theorem exchange_eq (received : Received chars config) :
    exchange chars config =
      (echoes config.settleAll).foldl onMqttData (config.mergeAll config.settleAll) := by
  have read : ∀ sent : List CfgMessage, (∀ echo ∈ sent,
      parse chars (print chars echo).1 (print chars echo).2 = some echo) →
      (sent.map (print chars)).filterMap (fun message => parse chars message.1 message.2) =
        sent := by
    intro sent parses
    induction sent with
    | nil => rfl
    | cons echo rest ih =>
      rw [List.map_cons, List.filterMap_cons, parses echo List.mem_cons_self,
        ih fun other member => parses other (List.mem_cons_of_mem _ member)]
  rw [exchange, receiveAll_eq, read _ fun echo member => echo_parses received member]

def Quiet {T : Type} (slot : Slot T) : Prop := slot.set = false ∧ slot.echo = false

structure AllQuiet (snap : PendingCfg) : Prop where
  tempOffset : Quiet snap.tempOffset
  tempMinChange : Quiet snap.tempMinChange
  rhOffset : Quiet snap.rhOffset
  rhMinChange : Quiet snap.rhMinChange
  maxPublishGapSec : Quiet snap.maxPublishGapSec
  heaterPeriod : Quiet snap.heaterPeriod
  heaterHighRh : Quiet snap.heaterHighRh
  extAntenna : Quiet snap.extAntenna
  txPowerDbm : Quiet snap.txPowerDbm
  sensorSamples : Quiet snap.sensorSamples
  rtcCalSamples : Quiet snap.rtcCalSamples
  rtcCalPeriodSec : Quiet snap.rtcCalPeriodSec

theorem echoOf_nil {T : Type} {slot : Slot T} {message : T → CfgMessage} :
    echoOf slot message = [] ↔ slot.echo = false := by
  unfold echoOf
  cases slot.echo <;> simp

theorem nothing_of_quiet {snap : PendingCfg} (quiet : AllQuiet snap) :
    applied snap = 0 ∧
      (∀ config : RuntimeConfig, config.mergeAll snap = { config with pending := {} }) ∧
      (∀ nvs, persistAll snap nvs = nvs) ∧ echoes snap = [] := by
  obtain ⟨⟨one, one'⟩, ⟨two, two'⟩, ⟨three, three'⟩, ⟨four, four'⟩, ⟨five, five'⟩, ⟨six, six'⟩,
    ⟨seven, seven'⟩, ⟨eight, eight'⟩, ⟨nine, nine'⟩, ⟨ten, ten'⟩, ⟨eleven, eleven'⟩,
    ⟨twelve, twelve'⟩⟩ := quiet
  refine ⟨?_, fun config => ?_, fun nvs => ?_, ?_⟩
  · simp [applied, one, two, three, four, five, six, seven, eight, nine, ten, eleven, twelve]
  · simp [mergeAll, mergeShadow, Slot.merge, one, two, three, four, five, six, seven, eight,
      nine, ten, eleven, twelve]
  · simp [persistAll, persistSlot, one, two, three, four, five, six, seven, eight, nine, ten,
      eleven, twelve]
  · simp [echoes, echoOf, one', two', three', four', five', six', seven', eight', nine', ten',
      eleven', twelve']

theorem appliesNothing_iff (config : RuntimeConfig) :
    AppliesNothing config ↔ AllQuiet config.settleAll := by
  constructor
  · rintro ⟨applied, _, _, echoed⟩
    generalize config.settleAll = snap at applied echoed
    simp only [EchoExchange.applied, Nat.add_eq_zero_iff, Bool.toNat_eq_zero] at applied
    simp only [echoes, List.append_eq_nil_iff, echoOf_nil] at echoed
    constructor <;> constructor <;> tauto
  · intro quiet
    obtain ⟨applied, merged, persisted, echoed⟩ := nothing_of_quiet quiet
    exact ⟨applied, merged config, persisted, echoed⟩

theorem not_nanPending (pending : PendingCfg) : ¬ NanPending pending ↔
    (pending.tempOffset.set = true → ¬ pending.tempOffset.value = .nan) ∧
    (pending.tempMinChange.set = true → ¬ pending.tempMinChange.value = .nan) ∧
    (pending.rhOffset.set = true → ¬ pending.rhOffset.value = .nan) ∧
    (pending.rhMinChange.set = true → ¬ pending.rhMinChange.value = .nan) := by
  unfold NanPending
  simp only [not_or, not_and]

/-- The next call has nothing to do exactly if no NaN was pending. -/
theorem exchange_settles (received : Received chars config) :
    AppliesNothing (exchange chars config) ↔ ¬ NanPending config.pending := by
  rw [appliesNothing_iff, exchange_eq received]
  have tx : ((echoes config.settleAll).foldl onMqttData
      (config.mergeAll config.settleAll)).settleAll.txPowerDbm = { value := 0 } := by
    have kept := @txSlot_received (echoes config.settleAll)
      (fun echo member dbm same => by
        simp [same, echoes, mem_echoOf, settleAll, settleTxPower, received.tx] at member)
      (config.mergeAll config.settleAll)
    show settleTxPower _ _ = _
    rw [kept]
    rfl
  have tempOffset := field_settles_iff tempOffsetEchoed config (received.fresh _ rfl)
  have tempMinChange := field_settles_iff tempMinChangeEchoed config (received.fresh _ rfl)
  have rhOffset := field_settles_iff rhOffsetEchoed config (received.fresh _ rfl)
  have rhMinChange := field_settles_iff rhMinChangeEchoed config (received.fresh _ rfl)
  have integers : ∀ field : EchoedField Nat, (field.slot {}).echo = false →
      Quiet (field.slot ((echoes config.settleAll).foldl onMqttData
        (config.mergeAll config.settleAll)).settleAll) :=
    fun field quiet => (field_settles_iff field config (received.fresh field quiet)).mpr
      fun _ => ne_self_nat _
  have antenna := (field_settles_iff extAntennaEchoed config (received.fresh _ rfl)).mpr
    fun _ => ne_self_bool _
  simp only [ne_self, decide_eq_false_iff_not] at tempOffset tempMinChange rhOffset rhMinChange
  rw [not_nanPending]
  generalize ((echoes config.settleAll).foldl onMqttData
    (config.mergeAll config.settleAll)).settleAll = final at *
  constructor
  · intro quiet
    exact ⟨tempOffset.mp quiet.tempOffset, tempMinChange.mp quiet.tempMinChange,
      rhOffset.mp quiet.rhOffset, rhMinChange.mp quiet.rhMinChange⟩
  · rintro ⟨one, two, three, four⟩
    exact ⟨tempOffset.mpr one, tempMinChange.mpr two, rhOffset.mpr three, rhMinChange.mpr four,
      integers maxPublishGapSecEchoed rfl, integers heaterPeriodEchoed rfl,
      integers heaterHighRhEchoed rfl, antenna, by rw [tx]; exact ⟨rfl, rfl⟩,
      integers sensorSamplesEchoed rfl, integers rtcCalSamplesEchoed rfl,
      integers rtcCalPeriodSecEchoed rfl⟩

/-- Whatever payloads arrive on the topics other than `tx_power_dbm`: after one
call of `runtime_config_apply_pending` and the return of its echoes there is
nothing left to do, exactly if no float that the call took over was a NaN. -/
theorem echoes_settle_iff (chars : FloatChars) (config : RuntimeConfig)
    (payloads : List (CfgTopicName × Payload))
    (others : ∀ message ∈ payloads, message.1 ≠ .txPowerDbm) :
    AppliesNothing (exchange chars (receiveAll chars { config with pending := {} } payloads)) ↔
      ¬ NanPending (receiveAll chars { config with pending := {} } payloads).pending :=
  exchange_settles (received_pending others)

end Whole

/-! ## The exchange on a few floats -/

def plainFloats : List (Payload × Flt) :=
  [(['-', '1', '0'], tempOffsetMin), (['1', '0'], tempOffsetMax),
    (['0', '.', '0', '5'], tempMinChangeMin), (['5'], tempMinChangeMax),
    (['-', '2', '0'], rhOffsetMin), (['2', '0'], rhOffsetMax), (['0', '.', '5'], rhMinChangeMin),
    (['1', '.', '5'], .fin (3 / 2)), (['i', 'n', 'f'], .inf false), (['n', 'a', 'n'], .nan)]

/-- The two functions on the texts and values above. -/
def plainChars : FloatChars where
  fromChars data := (plainFloats.find? fun float => float.1 == data).map (·.2)
  toChars value := ((plainFloats.find? fun float => float.2 == value).map (·.1)).getD []
  roundTrip := by
    intro data value read
    obtain ⟨float, found, rfl⟩ := Option.map_eq_some_iff.mp read
    have every : ∀ float ∈ plainFloats, (plainFloats.find? fun other => other.1 ==
        ((plainFloats.find? fun other => other.2 == float.2).map (·.1)).getD []).map (·.2) =
          some float.2 := by decide +kernel
    exact every float (List.mem_of_find?_eq_some found)
  limits := by
    have every : ∀ limit ∈ [tempOffsetMin, tempOffsetMax, tempMinChangeMin, tempMinChangeMax,
        rhOffsetMin, rhOffsetMax, rhMinChangeMin, rhMinChangeMax],
        ∃ float ∈ plainFloats, (plainFloats.find? fun other => other.1 == float.1).map (·.2) =
          some limit := by decide +kernel
    intro limit member
    obtain ⟨float, _, read⟩ := every limit member
    exact ⟨float.1, read⟩

/-- An infinite offset, a gap above its maximum and the antenna switch. -/
theorem echoes_settle_clamped :
    AppliesNothing (exchange plainChars (receiveAll plainChars
      { RuntimeConfig.boot {} Nvs.erased with pending := {} }
      [(.tempOffset, ['i', 'n', 'f']), (.maxPublishGapSec, ['9', '9', '9', '9', '9']),
        (.extAntenna, ['O', 'N'])])) :=
  (echoes_settle_iff plainChars (RuntimeConfig.boot {} Nvs.erased)
    [(.tempOffset, ['i', 'n', 'f']), (.maxPublishGapSec, ['9', '9', '9', '9', '9']),
      (.extAntenna, ['O', 'N'])] (by decide)).mpr (by decide +kernel)

/-- A NaN is applied, persisted and echoed again although nothing but its own
echo has arrived. -/
theorem nan_echoes_again :
    ∃ config, config = exchange plainChars (receiveAll plainChars
        { RuntimeConfig.boot {} Nvs.erased with pending := {} }
        [(.tempOffset, ['n', 'a', 'n'])]) ∧
      applied config.settleAll = 1 ∧ echoes config.settleAll = [.tempOffset .nan] ∧
      ¬ AppliesNothing config := by
  refine ⟨_, rfl, by decide +kernel, by decide +kernel, fun nothing => ?_⟩
  exact absurd nothing.applied (by decide +kernel)

end EchoExchange

end SleepySensor
