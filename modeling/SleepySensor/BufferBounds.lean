import SleepySensor.MqttTexts

/-!
# No message is cut

Every buffer of `mqtt_sender.cpp` is as large as a sum over the sizes of its format
strings and bounds for their arguments.  The bound for the device name is 64, but
`app_main` passes the device id there, of up to 81 characters; the format strings are
longer than what they contribute by more than that.
-/

set_option autoImplicit false

namespace SleepySensor.BufferBounds

open FormatText (Text Call Short bytes formatInto pieces literals)
open MqttTexts JsonObject

variable {floats : FloatText} {config : MqttConfig}

/-! ## Arguments -/

def argSize : Arg → Nat
  | .str text => text.length
  | .uint _ => 10
  | .int _ => 11
  | .float _ => maxFormattedFloatLen

def InType : Arg → Prop
  | .uint value => value < u32Mod
  | .int value => -2147483648 ≤ value ∧ value ≤ 2147483647
  | .str _ | .float _ => True

/-- Every float of the call takes at most `MAX_FORMATTED_FLOAT_LEN` characters. -/
def FloatsFit (floats : FloatText) (call : Call Arg) : Prop :=
  ∀ field ∈ call.fields, ∀ value, field.2 = .float value →
    (render floats field.1 field.2).length ≤ maxFormattedFloatLen

theorem toDigits_length {value : Nat} (small : value < u32Mod) :
    (Nat.toDigits 10 value).length ≤ 10 := by
  rw [Nat.length_toDigits_le_iff (by decide) (by decide)]
  exact small.trans (by decide)

theorem intText_length {value : Int} (low : -2147483648 ≤ value) (high : value ≤ 2147483647) :
    (intText value).length ≤ 11 := by
  have digits := @toDigits_length value.natAbs (by simp only [u32Mod]; omega)
  unfold intText
  split
  · exact Nat.succ_le_succ digits
  · exact digits.trans (by decide)

theorem short_call {call : Call Arg} (typed : ∀ arg ∈ call.args, InType arg)
    (fit : FloatsFit floats call) : Short (render floats) argSize call := by
  rintro ⟨spec, arg⟩ member
  have inType := typed arg (FormatText.mem_of_fields member)
  cases arg with
  | str text => exact le_rfl
  | uint value => exact toDigits_length inType
  | int value => exact intText_length inType.1 inType.2
  | float value => exact fit _ member value rfl

/-- The arguments are texts and integers of their types. -/
def Discrete : Arg → Prop
  | .float _ => False
  | arg => InType arg

theorem short_discrete {call : Call Arg} (discrete : ∀ arg ∈ call.args, Discrete arg) :
    Short (render floats) argSize call := by
  refine short_call (fun arg member => ?_) ?_
  · have plain := discrete arg member
    cases arg <;> trivial
  · rintro ⟨spec, arg⟩ member value rfl
    exact (discrete _ (FormatText.mem_of_fields member)).elim

theorem discrete_texts {texts : List Text} : ∀ arg ∈ texts.map Arg.str, Discrete arg := by
  intro arg member
  obtain ⟨text, -, rfl⟩ := List.mem_map.mp member
  trivial

/-! ## Topics -/

/-- What `app_main` and the build make sure of. -/
structure Configured (config : MqttConfig) : Prop where
  id : config.deviceId.length ≤ mqttMaxDeviceIdLen
  name : config.deviceName = config.deviceId
  expire : config.expireAfterSec < u32Mod
  boots : config.bootCount < u32Mod
  reason : config.resetReason.length ≤ mqttMaxResetReasonLen
  version : config.version.length ≤ maxSwVersionLen

theorem topicBuf_eq : topicBuf = 149 := by decide
theorem idLen_eq : mqttMaxDeviceIdLen = 81 := rfl

theorem formatTopic_fits {fmt : Text} {args : List Text}
    (fits : literals (pieces none fmt) + (args.map List.length).sum ≤ 148) :
    (formatTopic floats fmt args).isSome = true := by
  have size : (args.map Arg.str).map argSize = args.map List.length := by
    rw [List.map_map]
    rfl
  rw [formatTopic, FormatText.formatInto_fits (short_discrete discrete_texts)]
  · rfl
  · rw [Call.bound, size, topicBuf_eq]
    exact fits

theorem topic_one {fmt : Text} (configured : Configured config)
    (small : literals (pieces none fmt) ≤ 67) :
    (formatTopic floats fmt [config.deviceId]).isSome = true := by
  have id := configured.id
  rw [idLen_eq] at id
  apply formatTopic_fits
  simp only [List.map_cons, List.map_nil, List.sum_cons, List.sum_nil]
  omega

theorem topic_two {fmt slug : Text} (configured : Configured config)
    (small : literals (pieces none fmt) + slug.length ≤ 67) :
    (formatTopic floats fmt [config.deviceId, slug]).isSome = true := by
  have id := configured.id
  rw [idLen_eq] at id
  apply formatTopic_fits
  simp only [List.map_cons, List.map_nil, List.sum_cons, List.sum_nil]
  omega

/-! ## Payloads that are put together from parts -/

theorem formatParts_fits {capacity : Nat} {head : Call Arg} {parts : List (Call Arg)}
    (headShort : Short (render floats) argSize head)
    (short : ∀ part ∈ parts, Short (render floats) argSize part)
    (fits : head.bound argSize + (parts.map (Call.bound argSize)).sum ≤ capacity - 1) :
    (formatParts floats capacity head parts).isSome = true := by
  have first := Call.length_le headShort
  rw [formatParts, FormatText.formatInto_fits headShort (by omega), Option.bind_some,
    FormatText.appendAll_fits short (by omega)]
  rfl

theorem optional_sum {text : Option Text} {fmt : Text} {most : Nat}
    (bounded : ∀ known ∈ text, known.length ≤ most) :
    ((text.toList.map fun known => Call.mk fmt [Arg.str known]).map (Call.bound argSize)).sum ≤
      literals (pieces none fmt) + most := by
  cases text with
  | none => exact Nat.zero_le _
  | some known => simpa [Call.bound, argSize] using bounded known rfl

theorem if_sum {cond : Prop} [Decidable cond] (call : Call Arg) :
    ((if cond then [call] else []).map (Call.bound argSize)).sum ≤ call.bound argSize := by
  split
  · simp
  · exact Nat.zero_le _

theorem serial_length (deviceId : Text) : (serialFromDeviceId deviceId).length ≤ 16 := by
  unfold serialFromDeviceId
  have size : maxSerialLen = 16 := rfl
  split
  · rw [List.length_drop]
    omega
  · omega

theorem deviceArgs_size (configured : Configured config) :
    (config.deviceArgs.map argSize).sum ≤ 2 * 81 + 31 + 16 := by
  have id := configured.id
  have version := configured.version
  have serial := serial_length config.deviceId
  rw [idLen_eq] at id
  simp only [maxSwVersionLen] at version
  simp only [MqttConfig.deviceArgs, configured.name, List.map_cons, List.map_nil, argSize,
    List.sum_cons, List.sum_nil]
  omega

theorem deviceArgs_discrete : ∀ arg ∈ config.deviceArgs, Discrete arg := by
  simp [MqttConfig.deviceArgs, Discrete, InType]

/-! ## Discovery payloads -/

/-- The bounds that the sizes assume of an entity. -/
structure SpecFits (spec : DiscoverySpec) : Prop where
  name : spec.name.length ≤ 22
  slug : spec.topicSlug.length ≤ 27
  deviceClass : ∀ text ∈ spec.deviceClass, text.length ≤ 15
  stateClass : ∀ text ∈ spec.stateClass, text.length ≤ 16
  unit : ∀ text ∈ spec.unit, text.length ≤ 3
  precision : -1 ≤ spec.precision ∧ spec.precision ≤ 9
  key : spec.key.length ≤ 2

instance (spec : DiscoverySpec) : Decidable (SpecFits spec) :=
  decidable_of_iff
    (spec.name.length ≤ 22 ∧ spec.topicSlug.length ≤ 27 ∧
      (∀ text ∈ spec.deviceClass, text.length ≤ 15) ∧
      (∀ text ∈ spec.stateClass, text.length ≤ 16) ∧ (∀ text ∈ spec.unit, text.length ≤ 3) ∧
      (-1 ≤ spec.precision ∧ spec.precision ≤ 9) ∧ spec.key.length ≤ 2)
    ⟨fun ⟨a, b, c, d, e, f, g⟩ => ⟨a, b, c, d, e, f, g⟩,
      fun ⟨a, b, c, d, e, f, g⟩ => ⟨a, b, c, d, e, f, g⟩⟩

theorem specs_fit (bit : DiscoveryBit) :
    ∀ spec ∈ sensorSpecs bit ++ binarySpecs bit, SpecFits spec := by
  cases bit <;> decide

theorem discoveryParts_short (configured : Configured config) {spec : DiscoverySpec}
    (known : SpecFits spec) :
    ∀ part ∈ discoveryParts config spec, Short (render floats) argSize part := by
  intro part member
  apply short_discrete
  simp only [discoveryParts, List.mem_append, List.mem_map, List.mem_singleton] at member
  rcases member with (((((⟨text, -, rfl⟩ | diagnostic) | ⟨text, -, rfl⟩) | ⟨text, -, rfl⟩) |
    precision) | expire) | rfl
  · simp [Discrete, InType]
  · split at diagnostic
    · obtain rfl := List.mem_singleton.mp diagnostic
      simp
    · cases diagnostic
  · simp [Discrete, InType]
  · simp [Discrete, InType]
  · split at precision
    · obtain rfl := List.mem_singleton.mp precision
      have range := known.precision
      simp only [List.mem_singleton, forall_eq, Discrete, InType]
      omega
    · cases precision
  · split at expire
    · obtain rfl := List.mem_singleton.mp expire
      simpa [Discrete, InType] using configured.expire
    · cases expire
  · rw [List.forall_mem_append]
    exact ⟨by simp [Discrete, InType], deviceArgs_discrete⟩

theorem discovery_literals :
    literals (pieces none discPartHead) = 11 ∧ literals (pieces none discPartDeviceClass) = 18 ∧
      literals (pieces none discPartDiagnostic) = 31 ∧
      literals (pieces none discPartStateClass) = 17 ∧ literals (pieces none discPartUnit) = 25 ∧
      literals (pieces none discPartPrecision) = 31 ∧
      literals (pieces none discPartExpire) = 16 ∧ literals (pieces none discPartTail) = 203 := by
  decide +kernel

theorem payload_sizes :
    discoveryPayloadBuf = 814 ∧ updateDiscoveryPayloadBuf = 940 ∧
      cmdDiscoveryPayloadBuf = 1007 ∧ literals (pieces none updateDiscoveryFmt) = 357 := by
  decide +kernel

theorem discoveryParts_size (configured : Configured config) {spec : DiscoverySpec}
    (known : SpecFits spec) :
    ((discoveryParts config spec).map (Call.bound argSize)).sum ≤ 771 := by
  have id := configured.id
  have key := known.key
  have device := deviceArgs_size configured
  rw [idLen_eq] at id
  obtain ⟨-, deviceClassLit, diagnosticLit, stateClassLit, unitLit, precisionLit, expireLit,
    tailLit⟩ := discovery_literals
  have deviceClass := @optional_sum _ discPartDeviceClass _ known.deviceClass
  have diagnostic := @if_sum (spec.diagnostic = true) _ ⟨discPartDiagnostic, []⟩
  have stateClass := @optional_sum _ discPartStateClass _ known.stateClass
  have unit := @optional_sum _ discPartUnit _ known.unit
  have precision := @if_sum (0 ≤ spec.precision) _ ⟨discPartPrecision, [.int spec.precision]⟩
  have expire := @if_sum (0 < config.expireAfterSec) _
    ⟨discPartExpire, [.uint config.expireAfterSec]⟩
  rw [deviceClassLit] at deviceClass
  rw [stateClassLit] at stateClass
  rw [unitLit] at unit
  simp only [Call.bound, diagnosticLit, precisionLit, expireLit, argSize, List.map_cons,
    List.map_nil, List.sum_cons, List.sum_nil] at diagnostic precision expire
  have tail : (Call.mk discPartTail ([.str config.deviceId, .str spec.key, .str config.deviceId,
      .str spec.key] ++ config.deviceArgs)).bound argSize ≤ 203 + 166 + 209 := by
    simp only [Call.bound, tailLit, List.map_append, List.sum_append, argSize, List.map_cons,
      List.map_nil, List.sum_cons, List.sum_nil]
    omega
  simp only [discoveryParts, List.map_append, List.sum_append, List.map_cons, List.map_nil,
    List.sum_cons, List.sum_nil]
  omega

theorem discoveryPayload_fits (configured : Configured config) {spec : DiscoverySpec}
    (known : SpecFits spec) : (buildDiscoveryPayload floats config spec).isSome = true := by
  have capacity := payload_sizes.1
  have name := known.name
  have parts := discoveryParts_size configured known
  apply formatParts_fits (short_discrete (by simp [Discrete, InType]))
    (discoveryParts_short configured known)
  simp only [Call.bound, discovery_literals.1, argSize, List.map_cons, List.map_nil,
    List.sum_cons, List.sum_nil, capacity] at parts ⊢
  omega

/-! ## The update entity -/

theorem full_length (configured : Configured config) (suffix : Text) :
    (config.full suffix).length ≤ 82 + suffix.length := by
  have id := configured.id
  rw [idLen_eq] at id
  simp only [MqttConfig.full, List.length_append, List.length_cons]
  omega

theorem update_fits (configured : Configured config) :
    ∀ built ∈ publishUpdateDiscovery floats config, built.isSome = true := by
  obtain ⟨-, capacity, -, lits⟩ := payload_sizes
  have installed := full_length configured (bytes "ota/installed")
  have manifest := full_length configured (bytes "ota/manifest")
  have install := full_length configured (bytes "ota/install")
  have sizes : (bytes "ota/installed").length = 13 ∧ (bytes "ota/manifest").length = 12 ∧
    (bytes "ota/install").length = 11 := by decide
  rw [sizes.1] at installed
  rw [sizes.2.1] at manifest
  rw [sizes.2.2] at install
  have id := configured.id
  rw [idLen_eq] at id
  have device := deviceArgs_size configured
  have short : Short (render floats) argSize (updateDiscoveryCall config) := by
    apply short_discrete
    rw [updateDiscoveryCall, List.forall_mem_append]
    exact ⟨by simp [Discrete, InType], deviceArgs_discrete⟩
  have topic := @topic_one floats config updateDiscoveryTopicFmt configured (by decide)
  simp only [publishUpdateDiscovery, List.forall_mem_cons]
  refine ⟨topic, ?_, by simp⟩
  rw [FormatText.formatInto_fits short]
  · rfl
  · simp only [updateDiscoveryCall, Call.bound, lits, capacity, List.map_append, List.sum_append,
      argSize, List.map_cons, List.map_nil, List.sum_cons, List.sum_nil]
    omega

/-! ## The number and switch entities -/

instance (arg : Arg) : Decidable (InType arg) :=
  match arg with
  | .str _ => inferInstanceAs (Decidable True)
  | .uint value => inferInstanceAs (Decidable (value < u32Mod))
  | .int value => inferInstanceAs (Decidable (-2147483648 ≤ value ∧ value ≤ 2147483647))
  | .float _ => inferInstanceAs (Decidable True)

structure EntityFits (entity : NumberEntity) : Prop where
  name : entity.name.length ≤ 23
  slug : entity.slug.length ≤ 30
  suffix : entity.topicSuffix.length ≤ 34
  unit : ∀ text ∈ entity.unit, text.length ≤ 3
  range : ∀ arg ∈ [entity.min, entity.max, entity.step], InType arg ∧ argSize arg ≤ 24

theorem entities_fit : ∀ entity ∈ numberEntities, EntityFits entity := by
  have checked : ∀ entity ∈ numberEntities, entity.name.length ≤ 23 ∧ entity.slug.length ≤ 30 ∧
      entity.topicSuffix.length ≤ 34 ∧ (∀ text ∈ entity.unit, text.length ≤ 3) ∧
      ∀ arg ∈ [entity.min, entity.max, entity.step], InType arg ∧ argSize arg ≤ 24 := by
    decide
  intro entity member
  obtain ⟨name, slug, suffix, unit, range⟩ := checked entity member
  exact ⟨name, slug, suffix, unit, range⟩

theorem cmd_literals :
    literals (pieces none cmdPartConfigCat) = 27 ∧ literals (pieces none cmdPartModeBox) = 13 ∧
      literals (pieces none cmdPartMinmaxstep) = 22 ∧
      literals (pieces none cmdPartPayloads) = 33 ∧ literals (pieces none cmdPartTail) = 203 := by
  decide +kernel

theorem cmdTail_short (topicSuffix slug : Text) :
    Short (render floats) argSize (cmdTail config topicSuffix slug) := by
  apply short_discrete
  rw [cmdTail, List.forall_mem_append]
  exact ⟨by simp [Discrete, InType], deviceArgs_discrete⟩

theorem cmdTail_size (configured : Configured config) {topicSuffix slug : Text}
    (suffix : topicSuffix.length ≤ 34) (short : slug.length ≤ 30) :
    (cmdTail config topicSuffix slug).bound argSize ≤ 755 := by
  have topic := full_length configured topicSuffix
  have id := configured.id
  rw [idLen_eq] at id
  have device := deviceArgs_size configured
  simp only [cmdTail, Call.bound, cmd_literals.2.2.2.2, List.map_append, List.sum_append, argSize,
    List.map_cons, List.map_nil, List.sum_cons, List.sum_nil]
  omega

theorem head_bound (name : Text) :
    (Call.mk discPartHead [Arg.str name]).bound argSize = 11 + name.length := by
  rw [Call.bound, discovery_literals.1]
  rfl

def rangeCall (entity : NumberEntity) : Call Arg :=
  ⟨cmdPartMinmaxstep, [entity.min, entity.max, entity.step]⟩

theorem number_fits (configured : Configured config) {entity : NumberEntity}
    (known : EntityFits entity) (fit : FloatsFit floats (rangeCall entity)) :
    ∀ built ∈ publishNumberDiscovery floats config entity, built.isSome = true := by
  obtain ⟨name, slug, suffix, unit, range⟩ := known
  obtain ⟨configLit, modeLit, rangeLit, -, -⟩ := cmd_literals
  have tail := cmdTail_size configured suffix slug
  have unitSum := @optional_sum entity.unit discPartUnit 3 unit
  rw [discovery_literals.2.2.2.2.1] at unitSum
  have topicLit : literals (pieces none numberDiscoveryTopicFmt) = 29 := by decide
  have topic := @topic_two floats config numberDiscoveryTopicFmt entity.slug configured
    (by rw [topicLit]; omega)
  simp only [List.forall_mem_cons] at range
  obtain ⟨min, max, step, -⟩ := range
  simp only [publishNumberDiscovery, List.forall_mem_cons]
  refine ⟨topic, formatParts_fits (short_discrete (by simp [Discrete, InType])) ?_ ?_, by simp⟩
  · intro part member
    simp only [numberParts, List.mem_append, List.mem_cons, List.not_mem_nil, or_false,
      List.mem_map] at member
    rcases member with ((rfl | rfl | rfl) | ⟨text, -, rfl⟩) | rfl
    · exact short_discrete (by simp)
    · exact short_discrete (by simp)
    · exact short_call (by simp [min.1, max.1, step.1]) fit
    · exact short_discrete (by simp [Discrete, InType])
    · exact cmdTail_short _ _
  · have minSize := min.2
    have maxSize := max.2
    have stepSize := step.2
    simp only [numberParts, List.map_append, List.sum_append, List.map_cons, List.map_nil,
      List.sum_cons, List.sum_nil, payload_sizes.2.2.1]
    rw [head_bound]
    simp only [Call.bound, configLit, modeLit, rangeLit, List.map_cons, List.map_nil,
      List.sum_cons, List.sum_nil] at tail ⊢
    omega

theorem numbers_fit (configured : Configured config)
    (fit : ∀ entity ∈ numberEntities, FloatsFit floats (rangeCall entity)) :
    ∀ built ∈ publishNumberDiscoveries floats config, built.isSome = true := by
  have skipTopic : literals (pieces none numberDiscoveryTopicFmt) +
      (bytes "max_skip_cycles").length ≤ 67 := by decide
  have modeTopic : literals (pieces none numberDiscoveryTopicFmt) +
      (bytes "rtc_cal_mode").length ≤ 67 := by decide
  simp only [publishNumberDiscoveries, List.forall_mem_append, List.forall_mem_cons]
  refine ⟨?_, topic_two configured skipTopic, topic_two configured modeTopic,
    topic_one configured (by decide), by simp⟩
  intro built member
  obtain ⟨entity, listed, built_⟩ := List.mem_flatMap.mp member
  exact number_fits configured (entities_fit entity listed) (fit entity listed) built built_

theorem switch_fits (configured : Configured config) :
    ∀ built ∈ publishSwitchDiscovery floats config, built.isSome = true := by
  obtain ⟨configLit, -, -, payloadsLit, -⟩ := cmd_literals
  have tail := @cmdTail_size config configured (bytes "cfg/ext_antenna") (bytes "ext_antenna")
    (by decide) (by decide)
  have topic := @topic_two floats config switchDiscoveryTopicFmt (bytes "ext_antenna") configured
    (by decide)
  have nameSize : (bytes "External antenna").length = 16 := by decide
  have onSize : (bytes "ON").length = 2 := by decide
  have offSize : (bytes "OFF").length = 3 := by decide
  simp only [publishSwitchDiscovery, List.forall_mem_cons]
  refine ⟨topic, formatParts_fits (short_discrete (by simp [Discrete, InType])) ?_ ?_, by simp⟩
  · intro part member
    simp only [switchParts, List.mem_cons, List.not_mem_nil, or_false] at member
    rcases member with rfl | rfl | rfl
    · exact short_discrete (by simp)
    · exact short_discrete (by simp [Discrete, InType])
    · exact cmdTail_short _ _
  · simp only [switchParts, List.map_cons, List.map_nil, List.sum_cons, List.sum_nil,
      payload_sizes.2.2.1]
    simp only [Call.bound, discovery_literals.1, configLit, payloadsLit, argSize, nameSize, onSize,
      offSize, List.map_cons, List.map_nil, List.sum_cons, List.sum_nil] at tail ⊢
    omega

theorem discovery_fits (configured : Configured config)
    (fit : ∀ entity ∈ numberEntities, FloatsFit floats (rangeCall entity)) (bit : DiscoveryBit) :
    ∀ built ∈ discoveryTexts floats config bit, built.isSome = true := by
  have sensorLit : literals (pieces none discoveryTopicFmt) = 29 := by decide
  have binaryLit : literals (pieces none binaryDiscoveryTopicFmt) = 36 := by decide
  have retired : ∀ slug ∈ retiredSlugs bit, slug.length ≤ 27 := by
    cases bit <;> decide
  have known := specs_fit bit
  rw [List.forall_mem_append] at known
  simp only [discoveryTexts, List.forall_mem_append, List.forall_mem_map]
  refine ⟨⟨⟨?_, ?_⟩, ?_⟩, ?_⟩
  · intro built member
    obtain ⟨spec, listed, built_⟩ := List.mem_flatMap.mp member
    have slug := (known.2 spec listed).slug
    simp only [publishBinaryDiscovery, List.mem_cons, List.not_mem_nil, or_false] at built_
    rcases built_ with same | same
    · rw [same]
      have small : literals (pieces none binaryDiscoveryTopicFmt) + spec.topicSlug.length ≤ 67 := by
        omega
      exact @topic_two floats config binaryDiscoveryTopicFmt _ configured small
    · rw [same]
      exact discoveryPayload_fits configured (known.2 spec listed)
  · intro built member
    obtain ⟨spec, listed, built_⟩ := List.mem_flatMap.mp member
    have slug := (known.1 spec listed).slug
    simp only [publishDiscovery, List.mem_cons, List.not_mem_nil, or_false] at built_
    rcases built_ with same | same
    · rw [same]
      have small : literals (pieces none discoveryTopicFmt) + spec.topicSlug.length ≤ 67 := by
        omega
      exact @topic_two floats config discoveryTopicFmt _ configured small
    · rw [same]
      exact discoveryPayload_fits configured (known.1 spec listed)
  · intro slug listed
    have short := retired slug listed
    have small : literals (pieces none discoveryTopicFmt) + slug.length ≤ 67 := by
      omega
    exact @topic_two floats config discoveryTopicFmt _ configured small
  · cases bit with
    | update => exact update_fits configured
    | numbers => exact numbers_fit configured fit
    | switch => exact switch_fits configured
    | _ => simp

end SleepySensor.BufferBounds
