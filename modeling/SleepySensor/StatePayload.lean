import Mathlib.Data.List.DropRight
import SleepySensor.BufferBounds

/-!
# The state and backfill messages

The state message is formatted as one or two readings and then grows by a suffix for
each group of values that is present, each written over the closing brace.  Its keys
are those that the entities of the groups read.
-/

set_option autoImplicit false

namespace SleepySensor.StatePayload

open FormatText (Text Call Short bytes formatInto pieces literals)
open MqttTexts JsonObject BufferBounds

variable {floats : FloatText} {config : MqttConfig} {params : PublishParams}
  {telemetry : Telemetry}

/-! ## What a cycle publishes -/

/-- Integers of their types and finite floats. -/
structure Measured (params : PublishParams) (telemetry : Telemetry) : Prop where
  temperature : ∀ temp ∈ params.temperature, ∃ value, temp = .fin value
  humidity : ∀ hum ∈ params.humidity, ∃ value, hum = .fin value
  batteryPercent : ∀ percent ∈ params.batteryPercent, ∃ value, percent = .fin value
  heaterRunCount : ∀ runs ∈ params.heaterRunCount, InType (.uint runs)
  rssi : ∀ rssi ∈ telemetry.link.bind LinkStats.rssiDbm, InType (.int rssi)
  txRetries : ∀ retries ∈ telemetry.link.bind LinkStats.txRetries, InType (.uint retries)
  txCcaFailures :
    ∀ failures ∈ telemetry.link.bind LinkStats.txCcaFailures, InType (.uint failures)
  uplinkRssi : ∀ rssi ∈ telemetry.link.bind LinkStats.uplinkRssiDbm, InType (.int rssi)
  txPower : InType (.int telemetry.txPowerActive)

def stateCalls (floats : FloatText) (config : MqttConfig) (params : PublishParams)
    (telemetry : Telemetry) : List (Call Arg) :=
  stateBase params :: stateSuffixes floats config params telemetry

/-- The order in which the groups' values stand in the message. -/
def stateOrder : List DiscoveryBit :=
  [.temp, .hum, .batt, .rssi, .heater, .radio, .linkq, .uplink, .diag, .txPower, .awake]

/-- What the entities of a group read of the state message. -/
def entityKeys (bit : DiscoveryBit) : List Text :=
  (binarySpecs bit ++ sensorSpecs bit).map DiscoverySpec.key

def presentKeys (params : PublishParams) (telemetry : Telemetry) : List Text :=
  (stateOrder.filter fun bit => bit.wanted params telemetry.link).flatMap entityKeys

theorem presentKeys_nodup (params : PublishParams) (telemetry : Telemetry) :
    (presentKeys params telemetry).Nodup := by
  have all : (stateOrder.flatMap entityKeys).Nodup := by decide
  exact all.sublist (List.filter_sublist.flatMap entityKeys)

theorem flatMap_filter (wanted : DiscoveryBit → Bool) (bits : List DiscoveryBit) :
    (bits.filter wanted).flatMap entityKeys =
      bits.flatMap fun bit => if wanted bit then entityKeys bit else [] := by
  induction bits with
  | nil => rfl
  | cons bit rest ih =>
    rw [List.filter_cons, List.flatMap_cons, ← ih]
    split
    · rw [List.flatMap_cons]
    · rfl

/-! ## Nothing is cut -/

theorem state_literals :
    literals (pieces none stateFmtBoth) = 11 ∧ literals (pieces none stateFmtTemp) = 6 ∧
      literals (pieces none stateFmtHumid) = 6 ∧ literals (pieces none stateBattSuffixFmt) = 11 ∧
      literals (pieces none stateRssiSuffixFmt) = 6 ∧
      literals (pieces none stateHeaterSuffixFmt) = 15 ∧
      literals (pieces none stateRadioSuffixFmt) = 13 ∧
      literals (pieces none stateLinkqSuffixFmt) = 13 ∧
      literals (pieces none stateUplinkSuffixFmt) = 7 ∧
      literals (pieces none stateDiagSuffixFmt) = 15 ∧
      literals (pieces none stateTxpowerSuffixFmt) = 7 ∧
      literals (pieces none stateAwakeSuffixFmt) = 7 := by
  decide

/-- Calls with arguments of their types that take no more than a number of characters. -/
structure Takes (calls : List (Call Arg)) (most : Nat) : Prop where
  typed : ∀ call ∈ calls, ∀ arg ∈ call.args, InType arg
  size : (calls.map (Call.bound argSize)).sum ≤ most

namespace Takes

theorem nil (most : Nat) : Takes [] most := ⟨by simp, Nat.zero_le _⟩

theorem one {call : Call Arg} {most : Nat} (typed : ∀ arg ∈ call.args, InType arg)
    (size : call.bound argSize ≤ most) : Takes [call] most :=
  ⟨by simpa using typed, by simpa using size⟩

theorem append {first second : List (Call Arg)} {most more : Nat} (left : Takes first most)
    (right : Takes second more) : Takes (first ++ second) (most + more) := by
  refine ⟨List.forall_mem_append.mpr ⟨left.typed, right.typed⟩, ?_⟩
  rw [List.map_append, List.sum_append]
  exact Nat.add_le_add left.size right.size

end Takes

theorem base_takes (params : PublishParams) : Takes [stateBase params] 59 := by
  obtain ⟨both, temp, humid, -⟩ := state_literals
  unfold stateBase
  split
  · exact .one (by simp [InType]) (by simp [Call.bound, both, argSize, maxFormattedFloatLen])
  · exact .one (by simp [InType]) (by simp [Call.bound, temp, argSize, maxFormattedFloatLen])
  · exact .one (by simp [InType]) (by simp [Call.bound, humid, argSize, maxFormattedFloatLen])

theorem batt_takes : Takes (battSuffix floats params) 59 := by
  have lit := state_literals.2.2.2.1
  unfold battSuffix
  split
  · exact .one (by simp [InType]) (by simp [Call.bound, lit, argSize, maxFormattedFloatLen])
  · exact .nil _

theorem rssi_takes (measured : Measured params telemetry) : Takes (rssiSuffix telemetry) 17 := by
  have lit := state_literals.2.2.2.2.1
  unfold rssiSuffix
  split
  case h_1 rssi known =>
    exact .one (by simpa using measured.rssi rssi known) (by simp [Call.bound, lit, argSize])
  case h_2 => exact .nil _

theorem heater_takes (measured : Measured params telemetry) :
    Takes (heaterSuffix params) 28 := by
  have lit := state_literals.2.2.2.2.2.1
  unfold heaterSuffix
  split
  case h_1 problem runs knownProblem known =>
    have word : (bytes (if problem then "ON" else "OFF")).length ≤ 3 := by
      cases problem <;> decide
    refine .one ?_ ?_
    · simpa [InType] using measured.heaterRunCount runs known
    · simp only [Call.bound, lit, argSize, List.map_cons, List.map_nil, List.sum_cons,
        List.sum_nil]
      omega
  case h_2 => exact .nil _

theorem radio_takes : Takes (radioSuffix floats telemetry) 61 := by
  have lit := state_literals.2.2.2.2.2.2.1
  unfold radioSuffix
  split
  · exact .one (by simp [InType]) (by simp [Call.bound, lit, argSize, maxFormattedFloatLen])
  · exact .nil _

theorem linkq_takes (measured : Measured params telemetry) :
    Takes (linkqSuffix telemetry) 33 := by
  have lit := state_literals.2.2.2.2.2.2.2.1
  unfold linkqSuffix
  split
  case h_1 retries failures knownRetries knownFailures =>
    exact .one (by simpa using ⟨measured.txRetries retries knownRetries,
      measured.txCcaFailures failures knownFailures⟩) (by simp [Call.bound, lit, argSize])
  case h_2 => exact .nil _

theorem uplink_takes (measured : Measured params telemetry) :
    Takes (uplinkSuffix telemetry) 18 := by
  have lit := state_literals.2.2.2.2.2.2.2.2.1
  unfold uplinkSuffix
  split
  case h_1 rssi known =>
    exact .one (by simpa using measured.uplinkRssi rssi known) (by simp [Call.bound, lit, argSize])
  case h_2 => exact .nil _

/-- The suffixes that every state message ends with. -/
def closingSuffixes (floats : FloatText) (config : MqttConfig) (telemetry : Telemetry) :
    List (Call Arg) :=
  [⟨stateDiagSuffixFmt, [.uint config.bootCount, .str config.resetReason]⟩] ++
    [⟨stateTxpowerSuffixFmt, [.int telemetry.txPowerActive]⟩] ++
    [⟨stateAwakeSuffixFmt, [.float (.fin (floats.thousandth telemetry.hpAwakeUs))]⟩]

theorem closing_takes (configured : Configured config) (measured : Measured params telemetry) :
    Takes (closingSuffixes floats config telemetry) 89 := by
  obtain ⟨diag, txPower, awake⟩ := state_literals.2.2.2.2.2.2.2.2.2
  have reason := configured.reason
  have most : mqttMaxResetReasonLen = 15 := rfl
  have diagTakes :
      Takes [⟨stateDiagSuffixFmt, [.uint config.bootCount, .str config.resetReason]⟩] 40 := by
    refine .one (by simpa [InType] using configured.boots) ?_
    simp only [Call.bound, diag, argSize, List.map_cons, List.map_nil, List.sum_cons,
      List.sum_nil]
    omega
  have powerTakes : Takes [⟨stateTxpowerSuffixFmt, [.int telemetry.txPowerActive]⟩] 18 :=
    .one (by simpa using measured.txPower) (by simp [Call.bound, txPower, argSize])
  have awakeTakes :
      Takes [⟨stateAwakeSuffixFmt, [.float (.fin (floats.thousandth telemetry.hpAwakeUs))]⟩] 31 :=
    .one (by simp [InType]) (by simp [Call.bound, awake, argSize, maxFormattedFloatLen])
  exact (diagTakes.append powerTakes).append awakeTakes

theorem state_takes (configured : Configured config) (measured : Measured params telemetry) :
    Takes (stateCalls floats config params telemetry) 364 := by
  have suffixes := ((((((base_takes params).append (@batt_takes floats params)).append
    (rssi_takes measured)).append (heater_takes measured)).append
    (@radio_takes floats telemetry)).append (linkq_takes measured)).append
    (uplink_takes measured)
  have all := suffixes.append (@closing_takes floats config params telemetry configured measured)
  simpa [stateCalls, stateSuffixes, closingSuffixes] using all

theorem Takes.short {calls : List (Call Arg)} {most : Nat} (takes : Takes calls most)
    (fit : ∀ call ∈ calls, FloatsFit floats call) :
    ∀ call ∈ calls, Short (render floats) argSize call :=
  fun call member => short_call (takes.typed call member) (fit call member)

theorem statePayload_eq (configured : Configured config) (measured : Measured params telemetry)
    (fit : ∀ call ∈ stateCalls floats config params telemetry, FloatsFit floats call) :
    statePayload floats config params telemetry =
      some (FormatText.overwritten ((stateBase params).text (render floats))
        ((stateSuffixes floats config params telemetry).map (Call.text (render floats)))) := by
  have capacity : stateBuf = 411 := by decide
  have takes := @state_takes floats config params telemetry configured measured
  have size := takes.size
  have short := takes.short fit
  rw [stateCalls] at size short
  rw [List.map_cons, List.sum_cons] at size
  rw [List.forall_mem_cons] at short
  have first := Call.length_le short.1
  rw [statePayload, capacity, FormatText.formatInto_fits short.1 (by omega), Option.bind_some,
    FormatText.overwriteAll_fits short.2 (by omega)]

theorem state_fits (configured : Configured config) (measured : Measured params telemetry)
    (fit : ∀ call ∈ stateCalls floats config params telemetry, FloatsFit floats call) :
    ∀ built ∈ stateTexts floats config params telemetry, built.isSome = true := by
  have topic := @topic_one floats config stateTopicFmt configured (by decide)
  simp only [stateTexts, List.forall_mem_cons]
  refine ⟨?_, topic, by simp⟩
  rw [statePayload_eq configured measured fit]
  rfl

/-! ## The object -/

theorem floats_value {value : Flt} (finite : ∃ known, value = .fin known) (spec : FloatSpec) :
    IsValue (floats.text spec value) := by
  obtain ⟨known, rfl⟩ := finite
  exact .number (floats.number spec known)

theorem both_text (temp hum : Flt) :
    Call.text (render floats) ⟨stateFmtBoth, [.float temp, .float hum]⟩ =
      objectText [(bytes "t", floats.text .general3 temp),
        (bytes "h", floats.text .general3 hum)] := by
  rw [objectText_two]
  rfl

theorem temp_text (temp : Flt) :
    Call.text (render floats) ⟨stateFmtTemp, [.float temp]⟩ =
      objectText [(bytes "t", floats.text .general3 temp)] := by
  rw [objectText_one]
  rfl

theorem humid_text (hum : Flt) :
    Call.text (render floats) ⟨stateFmtHumid, [.float hum]⟩ =
      objectText [(bytes "h", floats.text .general3 hum)] := by
  rw [objectText_one]
  rfl

theorem base_object (present : params.hasAny = true) (measured : Measured params telemetry) :
    IsObject ((stateBase params).text (render floats))
      ((if params.temperature.isSome then entityKeys .temp else []) ++
        (if params.humidity.isSome then entityKeys .hum else [])) := by
  have finiteTemp := measured.temperature
  have finiteHum := measured.humidity
  unfold stateBase
  rcases knownTemp : params.temperature with _ | temp
  · rcases knownHum : params.humidity with _ | hum
    · simp [PublishParams.hasAny, knownTemp, knownHum] at present
    · refine ⟨⟨_, humid_text hum, rfl, ?_⟩, (by decide : [bytes "h"].Nodup)⟩
      simpa using ⟨by decide, floats_value (finiteHum hum knownHum) _⟩
  · rcases knownHum : params.humidity with _ | hum
    · refine ⟨⟨_, temp_text temp, rfl, ?_⟩, (by decide : [bytes "t"].Nodup)⟩
      simpa using ⟨by decide, floats_value (finiteTemp temp knownTemp) _⟩
    · refine ⟨⟨_, both_text temp hum, rfl, ?_⟩,
        (by decide : [bytes "t", bytes "h"].Nodup)⟩
      simpa using ⟨⟨by decide, floats_value (finiteTemp temp knownTemp) _⟩,
        ⟨by decide, floats_value (finiteHum hum knownHum) _⟩⟩

/-! ## The suffixes -/

theorem plain_keys (bit : DiscoveryBit) : ∀ key ∈ entityKeys bit, plain key := by
  cases bit <;> decide

/-- A group that is present adds the keys of its entities, and an absent one nothing. -/
def AddsGroup (floats : FloatText) (params : PublishParams) (telemetry : Telemetry)
    (calls : List (Call Arg)) (bit : DiscoveryBit) : Prop :=
  Adds (calls.map (Call.text (render floats)))
    (if bit.wanted params telemetry.link then entityKeys bit else [])

namespace AddsGroup

variable {bit : DiscoveryBit}

theorem absent (unwanted : bit.wanted params telemetry.link = false) :
    AddsGroup floats params telemetry [] bit := by
  rw [AddsGroup, unwanted]
  exact Adds.nil

theorem present {call : Call Arg} {members : List Member}
    (wanted : bit.wanted params telemetry.link = true)
    (text : call.text (render floats) = suffixText members)
    (keys : members.map Prod.fst = entityKeys bit) (some_ : members ≠ [])
    (values : ∀ member ∈ members, IsValue member.2) :
    AddsGroup floats params telemetry [call] bit := by
  rw [AddsGroup, wanted, if_pos rfl, List.map_singleton, text, ← keys]
  refine Adds.one some_ fun member listed => ⟨?_, values member listed⟩
  exact plain_keys bit member.1 (keys ▸ List.mem_map_of_mem listed)

end AddsGroup

theorem link_any (link : Option LinkStats) {A : Type} (field : LinkStats → Option A) :
    (link.any fun stats => (field stats).isSome) = (link.bind field).isSome := by
  cases link <;> rfl

theorem link_any_both (link : Option LinkStats) {A B : Type} (first : LinkStats → Option A)
    (second : LinkStats → Option B) :
    (link.any fun stats => (first stats).isSome && (second stats).isSome) =
      ((link.bind first).isSome && (link.bind second).isSome) := by
  cases link <;> rfl

theorem batt_adds (measured : Measured params telemetry) :
    AddsGroup floats params telemetry (battSuffix floats params) .batt := by
  have finite := measured.batteryPercent
  unfold battSuffix
  rcases knownPercent : params.batteryPercent with _ | percent
  · exact .absent (by simp [DiscoveryBit.wanted, PublishParams.hasBatt, knownPercent])
  rcases knownVolts : params.batteryMillivolts with _ | millivolts
  · exact .absent (by simp [DiscoveryBit.wanted, PublishParams.hasBatt, knownVolts])
  have wanted : DiscoveryBit.wanted params telemetry.link .batt = true := by
    simp [DiscoveryBit.wanted, PublishParams.hasBatt, knownPercent, knownVolts]
  have text : Call.text (render floats) ⟨stateBattSuffixFmt,
      [.float percent, .float (.fin (floats.thousandth millivolts))]⟩ =
      suffixText [(bytes "b", floats.text .fixed2 percent),
        (bytes "v", floats.text .fixed3 (.fin (floats.thousandth millivolts)))] := by
    rw [suffixText_two]
    rfl
  exact .present wanted text rfl (by simp)
    (by simpa using ⟨floats_value (finite percent knownPercent) _, floats_value ⟨_, rfl⟩ _⟩)

theorem rssi_adds : AddsGroup floats params telemetry (rssiSuffix telemetry) .rssi := by
  unfold rssiSuffix
  rcases known : telemetry.link.bind LinkStats.rssiDbm with _ | rssi
  · exact .absent (by simp [DiscoveryBit.wanted, link_any, known])
  have wanted : DiscoveryBit.wanted params telemetry.link .rssi = true := by
    simp [DiscoveryBit.wanted, link_any, known]
  have text : Call.text (render floats) ⟨stateRssiSuffixFmt, [.int rssi]⟩ =
      suffixText [(bytes "r", intText rssi)] := by
    rw [suffixText_one]
    rfl
  exact .present wanted text rfl (by simp) (by simpa using IsValue.number (isNumber_int rssi))

theorem heater_adds : AddsGroup floats params telemetry (heaterSuffix params) .heater := by
  unfold heaterSuffix
  rcases knownProblem : params.heaterProblem with _ | problem
  · exact .absent (by simp [DiscoveryBit.wanted, PublishParams.hasHeater, knownProblem])
  rcases knownRuns : params.heaterRunCount with _ | runs
  · exact .absent (by simp [DiscoveryBit.wanted, PublishParams.hasHeater, knownRuns])
  have wanted : DiscoveryBit.wanted params telemetry.link .heater = true := by
    simp [DiscoveryBit.wanted, PublishParams.hasHeater, knownProblem, knownRuns]
  have word : plain (bytes (if problem then "ON" else "OFF")) := by
    cases problem <;> decide
  have text : Call.text (render floats) ⟨stateHeaterSuffixFmt,
      [.str (bytes (if problem then "ON" else "OFF")), .uint runs]⟩ =
      suffixText [(bytes "hp", '"' :: bytes (if problem then "ON" else "OFF") ++ ['"']),
        (bytes "hc", Nat.toDigits 10 runs)] := by
    rw [suffixText_two, List.cons_append, List.cons_append, List.append_assoc]
    rfl
  exact .present wanted text rfl (by simp)
    (by simpa using ⟨IsValue.string word, IsValue.number (isNumber_nat runs)⟩)

theorem radio_adds : AddsGroup floats params telemetry (radioSuffix floats telemetry) .radio := by
  unfold radioSuffix
  rcases knownTx : telemetry.link.bind LinkStats.radioTxTimeUs with _ | tx
  · exact .absent (by simp [DiscoveryBit.wanted, link_any_both, knownTx])
  rcases knownRx : telemetry.link.bind LinkStats.radioRxTimeUs with _ | rx
  · exact .absent (by simp [DiscoveryBit.wanted, link_any_both, knownRx])
  have wanted : DiscoveryBit.wanted params telemetry.link .radio = true := by
    simp [DiscoveryBit.wanted, link_any_both, knownTx, knownRx]
  have text : Call.text (render floats) ⟨stateRadioSuffixFmt,
      [.float (.fin (floats.thousandth tx)), .float (.fin (floats.thousandth rx))]⟩ =
      suffixText [(bytes "rt", floats.text .fixed2 (.fin (floats.thousandth tx))),
        (bytes "rx", floats.text .fixed2 (.fin (floats.thousandth rx)))] := by
    rw [suffixText_two]
    rfl
  exact .present wanted text rfl (by simp)
    (by simpa using ⟨floats_value ⟨_, rfl⟩ _, floats_value ⟨_, rfl⟩ _⟩)

theorem linkq_adds : AddsGroup floats params telemetry (linkqSuffix telemetry) .linkq := by
  unfold linkqSuffix
  rcases knownRetries : telemetry.link.bind LinkStats.txRetries with _ | retries
  · exact .absent (by simp [DiscoveryBit.wanted, link_any_both, knownRetries])
  rcases knownFailures : telemetry.link.bind LinkStats.txCcaFailures with _ | failures
  · exact .absent (by simp [DiscoveryBit.wanted, link_any_both, knownFailures])
  have wanted : DiscoveryBit.wanted params telemetry.link .linkq = true := by
    simp [DiscoveryBit.wanted, link_any_both, knownRetries, knownFailures]
  have text : Call.text (render floats) ⟨stateLinkqSuffixFmt, [.uint retries, .uint failures]⟩ =
      suffixText [(bytes "tr", Nat.toDigits 10 retries),
        (bytes "cf", Nat.toDigits 10 failures)] := by
    rw [suffixText_two]
    rfl
  exact .present wanted text rfl (by simp)
    (by simpa using ⟨IsValue.number (isNumber_nat retries),
      IsValue.number (isNumber_nat failures)⟩)

theorem uplink_adds : AddsGroup floats params telemetry (uplinkSuffix telemetry) .uplink := by
  unfold uplinkSuffix
  rcases known : telemetry.link.bind LinkStats.uplinkRssiDbm with _ | rssi
  · exact .absent (by simp [DiscoveryBit.wanted, link_any, known])
  have wanted : DiscoveryBit.wanted params telemetry.link .uplink = true := by
    simp [DiscoveryBit.wanted, link_any, known]
  have text : Call.text (render floats) ⟨stateUplinkSuffixFmt, [.int rssi]⟩ =
      suffixText [(bytes "ur", intText rssi)] := by
    rw [suffixText_one]
    rfl
  exact .present wanted text rfl (by simp) (by simpa using IsValue.number (isNumber_int rssi))

theorem closing_adds (params : PublishParams) (reason : plain config.resetReason) :
    Adds ((closingSuffixes floats config telemetry).map (Call.text (render floats)))
      (entityKeys .diag ++ entityKeys .txPower ++ entityKeys .awake) := by
  have diag : AddsGroup floats params telemetry
      [⟨stateDiagSuffixFmt, [.uint config.bootCount, .str config.resetReason]⟩] .diag := by
    have text : Call.text (render floats)
        ⟨stateDiagSuffixFmt, [.uint config.bootCount, .str config.resetReason]⟩ =
        suffixText [(bytes "bc", Nat.toDigits 10 config.bootCount),
          (bytes "rr", '"' :: config.resetReason ++ ['"'])] := by
      rw [suffixText_two, List.cons_append, List.cons_append, List.append_assoc]
      rfl
    exact .present rfl text rfl (by simp)
      (by simpa using ⟨IsValue.number (isNumber_nat _), IsValue.string reason⟩)
  have power : AddsGroup floats params telemetry
      [⟨stateTxpowerSuffixFmt, [.int telemetry.txPowerActive]⟩] .txPower := by
    have text : Call.text (render floats)
        ⟨stateTxpowerSuffixFmt, [.int telemetry.txPowerActive]⟩ =
        suffixText [(bytes "tp", intText telemetry.txPowerActive)] := by
      rw [suffixText_one]
      rfl
    exact .present rfl text rfl (by simp) (by simpa using IsValue.number (isNumber_int _))
  have awake : AddsGroup floats params telemetry
      [⟨stateAwakeSuffixFmt, [.float (.fin (floats.thousandth telemetry.hpAwakeUs))]⟩] .awake := by
    have text : Call.text (render floats)
        ⟨stateAwakeSuffixFmt, [.float (.fin (floats.thousandth telemetry.hpAwakeUs))]⟩ =
        suffixText [(bytes "aw",
          floats.text .fixed2 (.fin (floats.thousandth telemetry.hpAwakeUs)))] := by
      rw [suffixText_one]
      rfl
    exact .present rfl text rfl (by simp) (by simpa using floats_value ⟨_, rfl⟩ _)
  exact (diag.append power).append awake

theorem suffixes_add (measured : Measured params telemetry) (reason : plain config.resetReason) :
    Adds ((stateSuffixes floats config params telemetry).map (Call.text (render floats)))
      ((stateOrder.drop 2).flatMap fun bit =>
        if bit.wanted params telemetry.link then entityKeys bit else []) := by
  have batt := @batt_adds floats params telemetry measured
  have rssi := @rssi_adds floats params telemetry
  have heater := @heater_adds floats params telemetry
  have radio := @radio_adds floats params telemetry
  have linkq := @linkq_adds floats params telemetry
  have uplink := @uplink_adds floats params telemetry
  have closing := @closing_adds floats config telemetry params reason
  have all := ((((((batt.append rssi).append heater).append radio).append linkq).append
    uplink).append closing)
  simpa [stateSuffixes, closingSuffixes, stateOrder, DiscoveryBit.wanted] using all

theorem presentKeys_eq (params : PublishParams) (telemetry : Telemetry) :
    presentKeys params telemetry =
      ((if params.temperature.isSome then entityKeys .temp else []) ++
        (if params.humidity.isSome then entityKeys .hum else [])) ++
      (stateOrder.drop 2).flatMap fun bit =>
        if bit.wanted params telemetry.link then entityKeys bit else [] := by
  have readings : stateOrder = [.temp] ++ [.hum] ++ stateOrder.drop 2 := rfl
  rw [presentKeys, flatMap_filter, readings, List.flatMap_append, List.flatMap_append,
    List.flatMap_singleton, List.flatMap_singleton]
  rfl

theorem payload_object (configured : Configured config) (measured : Measured params telemetry)
    (present : params.hasAny = true) (reason : plain config.resetReason)
    (fit : ∀ call ∈ stateCalls floats config params telemetry, FloatsFit floats call) :
    ∃ text, statePayload floats config params telemetry = some text ∧
      IsObject text (presentKeys params telemetry) := by
  refine ⟨_, statePayload_eq configured measured fit, ?_⟩
  have distinct := presentKeys_nodup params telemetry
  rw [presentKeys_eq] at distinct ⊢
  refine (base_object present measured).overwritten ?_ (suffixes_add measured reason) distinct
  intro none_
  rw [PublishParams.hasAny, Bool.or_eq_true] at present
  rcases present with known | known
  · rw [if_pos known] at none_
    cases none_
  · rw [if_pos known] at none_
    exact absurd none_ (List.append_ne_nil_of_right_ne_nil _ (by decide))

/-! ## Backfill -/

theorem backfill_literals :
    literals (pieces none backfillEntryFirstFmt) = 18 ∧
      literals (pieces none backfillEntryRestFmt) = 19 ∧
      literals (pieces none backfillArrayOpen) = 1 ∧
      literals (pieces none backfillArrayClose) = 1 := by
  decide

theorem entry_takes {fmt : Text} {entries : List HistoryLogEntry}
    (lits : literals (pieces none fmt) ≤ 19) (ages : ∀ entry ∈ entries, entry.agoSec < u32Mod) :
    Takes (entries.map (backfillEntry fmt)) (77 * entries.length) := by
  induction entries with
  | nil => exact .nil _
  | cons entry rest ih =>
    rw [List.forall_mem_cons] at ages
    have first : Takes [backfillEntry fmt entry] 77 := by
      refine .one (by simpa [backfillEntry, InType] using ages.1) ?_
      simp only [backfillEntry, Call.bound, argSize, maxFormattedFloatLen, List.map_cons,
        List.map_nil, List.sum_cons, List.sum_nil]
      omega
    have both := first.append (ih ages.2)
    rw [List.length_cons, Nat.mul_add, Nat.add_comm]
    exact both

theorem backfillParts_takes {entries : List HistoryLogEntry}
    (few : entries.length ≤ backfillBatchSize)
    (ages : ∀ entry ∈ entries, entry.agoSec < u32Mod) : Takes (backfillParts entries) 1541 := by
  obtain ⟨firstLit, restLit, -, closeLit⟩ := backfill_literals
  have close : Takes [⟨backfillArrayClose, []⟩] 1 := .one (by simp) (by simp [Call.bound, closeLit])
  cases entries with
  | nil => exact ⟨close.typed, close.size.trans (by decide)⟩
  | cons first rest =>
    rw [List.forall_mem_cons] at ages
    have head := @entry_takes backfillEntryFirstFmt [first] (by omega) (by simpa using ages.1)
    have later := @entry_takes backfillEntryRestFmt rest (by omega) ages.2
    have all := head.append (later.append close)
    have size := all.size
    rw [List.length_cons, backfillBatchSize] at few
    rw [List.length_singleton] at size
    exact ⟨all.typed, size.trans (by omega)⟩

theorem backfill_fits {entries : List HistoryLogEntry} (configured : Configured config)
    (few : entries.length ≤ backfillBatchSize)
    (ages : ∀ entry ∈ entries, entry.agoSec < u32Mod)
    (fit : ∀ call ∈ backfillParts entries, FloatsFit floats call) :
    ∀ built ∈ backfillTexts floats config entries, built.isSome = true := by
  have capacity : backfillPayloadBuf = 1863 := by decide
  have openLit := backfill_literals.2.2.1
  have takes := backfillParts_takes few ages
  have size := takes.size
  have topic := @topic_one floats config backfillTopicFmt configured (by decide)
  simp only [backfillTexts, List.forall_mem_cons]
  refine ⟨topic, formatParts_fits (short_discrete (by simp)) (takes.short fit) ?_, by simp⟩
  simp only [Call.bound, openLit, List.map_nil, List.sum_nil, capacity] at size ⊢
  omega

/-! ## What `app_main` hands over -/

theorem resetReason_plain (reason : EspResetReason) (lpStallReboot otaUnconfirmedReboot : Bool) :
    plain ((resetReasonString reason lpStallReboot otaUnconfirmedReboot).take
      mqttMaxResetReasonLen) := by
  cases reason <;> cases lpStallReboot <;> cases otaUnconfirmedReboot <;> decide

theorem addOtMacSuffix_length (name : Text) (mac : List UInt8) :
    (addOtMacSuffix name mac).length = name.length + 1 + 2 * mac.length := by
  have suffix : (mac.flatMap fun byte =>
      [Nat.digitChar (byte.toNat / 16), Nat.digitChar (byte.toNat % 16)]).length =
      2 * mac.length := by
    rw [List.length_flatMap]
    simp [Nat.mul_comm]
  simp only [addOtMacSuffix, List.length_append, List.length_map, List.length_cons, suffix]
  omega

theorem appMain_configured (deviceName : Text) {mac : List UInt8} {expireAfterSec bootCount : Nat}
    (reason : EspResetReason) (lpStallReboot otaUnconfirmedReboot : Bool) {version : Text}
    (address : mac.length = mqttMacAddressBytes) (expire : expireAfterSec < u32Mod)
    (boots : bootCount < u32Mod) (short : version.length ≤ maxSwVersionLen) :
    Configured (appMainConfig deviceName mac expireAfterSec bootCount reason lpStallReboot
      otaUnconfirmedReboot version) where
  id := by
    have name := @List.length_take_le _ mqttMaxDeviceNameLen
      (if deviceName = [] then bytes "esp32-OT-sensor" else deviceName)
    simp only [appMainConfig, addOtMacSuffix_length, address, mqttMaxDeviceIdLen]
    omega
  name := rfl
  expire := expire
  boots := boots
  reason := List.length_take_le _ _
  version := short

/-! ## All messages -/

theorem texts_fit {entries : List HistoryLogEntry} (configured : Configured config)
    (measured : Measured params telemetry) (present : params.hasAny = true)
    (few : entries.length ≤ backfillBatchSize)
    (ages : ∀ entry ∈ entries, entry.agoSec < u32Mod)
    (ranges : ∀ entity ∈ numberEntities, FloatsFit floats (rangeCall entity))
    (values : ∀ call ∈ stateCalls floats config params telemetry, FloatsFit floats call)
    (backlog : ∀ call ∈ backfillParts entries, FloatsFit floats call) :
    (∀ bit, ∀ built ∈ discoveryTexts floats config bit, built.isSome = true) ∧
      (∀ built ∈ stateTexts floats config params telemetry, built.isSome = true) ∧
      (∀ built ∈ backfillTexts floats config entries, built.isSome = true) ∧
      (plain config.resetReason →
        ∃ text, statePayload floats config params telemetry = some text ∧
          IsObject text (presentKeys params telemetry)) ∧
      ∀ reason lpStallReboot otaUnconfirmedReboot,
        plain ((resetReasonString reason lpStallReboot otaUnconfirmedReboot).take
          mqttMaxResetReasonLen) :=
  ⟨discovery_fits configured ranges, state_fits configured measured values,
    backfill_fits configured few ages backlog,
    fun reason => payload_object configured measured present reason values, resetReason_plain⟩

/-! ## Short decimals -/

theorem digits_isDigit (value : Nat) : ∀ c ∈ Nat.toDigits 10 value, Char.isDigit c = true :=
  fun _ member => Nat.isDigit_of_mem_toDigits (by decide) (by decide) member

def padded (places value : Nat) : Text :=
  List.replicate (places - (Nat.toDigits 10 value).length) '0' ++ Nat.toDigits 10 value

theorem padded_isDigit (places value : Nat) : ∀ c ∈ padded places value, Char.isDigit c = true := by
  intro c member
  rcases List.mem_append.mp member with zero | digit
  · rw [List.eq_of_mem_replicate zero]
    rfl
  · exact digits_isDigit value c digit

def behindPoint (kept : Text) : Text := if kept = [] then [] else '.' :: kept

theorem fraction_behindPoint {kept : Text} (isDigits : ∀ c ∈ kept, Char.isDigit c = true) :
    fraction (behindPoint kept) := by
  unfold behindPoint
  split
  case isTrue none_ => exact .inl rfl
  case isFalse some_ => exact .inr ⟨kept, rfl, some_, List.all_eq_true.mpr isDigits⟩

/-- A value with a few digits behind the point, all of them or those up to the last
that is not zero. -/
def decimalText (places : Nat) (all : Bool) (value : ℚ) : Text :=
  let scaled := ((if value < 0 then -value else value) * 10 ^ places).floor.toNat
  let behind := padded places (scaled % 10 ^ places)
  (if value < 0 then ['-'] else []) ++ Nat.toDigits 10 (scaled / 10 ^ places) ++
    behindPoint (if all then behind else behind.rdropWhile (· == '0'))

theorem decimalText_number (places : Nat) (all : Bool) (value : ℚ) :
    IsNumber (decimalText places all value) := by
  refine ⟨if value < 0 then ['-'] else [], by split <;> simp, _, _, [], by
    rw [List.append_nil]; rfl, whole_toDigits _, fraction_behindPoint fun c member => ?_, .inl rfl⟩
  split at member
  · exact padded_isDigit _ _ c member
  · exact padded_isDigit _ _ c ((List.rdropWhile_prefix _ _).subset member)

/-- `std::format` on values that three digits behind the point write exactly. -/
def decimalFloats : FloatText where
  text
    | .shortest, .fin value | .general3, .fin value => decimalText 3 false value
    | .fixed2, .fin value => decimalText 2 true value
    | .fixed3, .fin value => decimalText 3 true value
    | _, .inf negative => bytes (if negative then "-inf" else "inf")
    | _, .nan => bytes "nan"
  number spec value := by cases spec <;> exact decimalText_number _ _ _
  thousandth value := value / 1000

def exampleConfig : MqttConfig :=
  appMainConfig (bytes "porch") [0xf4, 0xce, 0x36, 0x01, 0x02, 0xab, 0xcd, 0xef] 1200 7 .sw true
    false (bytes "1.4.2")

def exampleParams : PublishParams where
  temperature := some (.fin (47 / 2))
  humidity := some (.fin 45)
  batteryPercent := some (.fin (175 / 2))
  batteryMillivolts := some 3500
  heaterProblem := some false
  heaterRunCount := some 4

def exampleTelemetry : Telemetry where
  link := some
    { rssiDbm := some (-61), radioTxTimeUs := some 1250, radioRxTimeUs := some 2500
      txRetries := some 3, txCcaFailures := some 0, uplinkRssiDbm := some (-70) }
  txPowerActive := 20
  hpAwakeUs := 2500

def exampleBatch : List HistoryLogEntry := [⟨600, .fin (45 / 2), .fin 50⟩, ⟨300, .fin 23, .fin 48⟩]

theorem floatsFit_of_fields {call : Call Arg}
    (fit : ∀ field ∈ call.fields, (render floats field.1 field.2).length ≤ maxFormattedFloatLen) :
    FloatsFit floats call := fun field member _ _ => fit field member

theorem example_texts_fit : exampleParams.hasAny = true ∧
    (∀ bit, ∀ built ∈ discoveryTexts decimalFloats exampleConfig bit, built.isSome = true) ∧
    ∃ text, statePayload decimalFloats exampleConfig exampleParams exampleTelemetry = some text ∧
      IsObject text (presentKeys exampleParams exampleTelemetry) := by
  have configured : Configured exampleConfig :=
    appMain_configured _ _ _ _ (by decide) (by decide) (by decide) (by decide)
  have measured : Measured exampleParams exampleTelemetry := by
    constructor <;>
      simp [exampleParams, exampleTelemetry, InType, u32Mod]
  have ranges : ∀ entity ∈ numberEntities, ∀ field ∈ (rangeCall entity).fields,
      (render decimalFloats field.1 field.2).length ≤ maxFormattedFloatLen := by
    decide +kernel
  have values : ∀ call ∈ stateCalls decimalFloats exampleConfig exampleParams exampleTelemetry,
      ∀ field ∈ call.fields,
        (render decimalFloats field.1 field.2).length ≤ maxFormattedFloatLen := by
    decide +kernel
  have backlog : ∀ call ∈ backfillParts exampleBatch, ∀ field ∈ call.fields,
      (render decimalFloats field.1 field.2).length ≤ maxFormattedFloatLen := by
    decide +kernel
  have all := texts_fit configured measured (by decide) (by decide) (by decide)
    (fun entity listed => floatsFit_of_fields (ranges entity listed))
    (fun call listed => floatsFit_of_fields (values call listed))
    (fun call listed => floatsFit_of_fields (backlog call listed))
  exact ⟨by decide, all.1, all.2.2.2.1 (by decide)⟩

example : statePayload decimalFloats exampleConfig exampleParams exampleTelemetry = some (bytes
    ("\x7b\"t\":23.5,\"h\":45,\"b\":87.50,\"v\":3.500,\"r\":-61,\"hp\":\"OFF\",\"hc\":4," ++
      "\"rt\":1.25,\"rx\":2.50,\"tr\":3,\"cf\":0,\"ur\":-70,\"bc\":7,\"rr\":\"lp_stall_reboot\"," ++
      "\"tp\":20,\"aw\":2.50\x7d")) := by
  decide +kernel

end SleepySensor.StatePayload
