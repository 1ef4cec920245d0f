import SleepySensor.HpInvariant
import SleepySensor.Lib.History
import SleepySensor.OtaSteps

/-!
# The battery gate of an OTA session

`ota_run_session` sees the percentage that the publish cycle around it carries:
none in an OTA-only cycle, and perhaps not the last one measured.  The history
variable is the last one measured.
-/

set_option autoImplicit false

namespace SleepySensor.BatteryGate

open HpSystem

abbrev Observed := HpSystem × Option Flt

def measured (system : HpSystem) : HpAction → Option Flt
  | .sensor (.measure (.milliVolts value)) =>
    if system.sensor.pc = .measuring then some (Battery.batteryPercent value) else none
  | _ => none

def record (system : HpSystem) (action : HpAction) (last : Option Flt) : Option Flt :=
  (measured system action).or last

def step (env : HpEnv) : Observed → HpAction → Option Observed :=
  Runs.observe (HpSystem.step env) record

def low (percent : Option Flt) : Bool := percent.any fun value => Flt.lt value otaMinBatteryPercent

/-- Between the gate and the first chunk subscribe. -/
def Gated (ota : Ota) : Prop :=
  match ota.pc with
  | .activating | .starting | .pinning => True
  | .priming chunk => chunk = ota.session.startChunk
  | _ => False

instance (ota : Ota) : Decidable (Gated ota) := by
  unfold Gated
  split <;> infer_instance

/-- The step begins the OTA window or subscribes the first chunk. -/
def startsDownload (system : HpSystem) : HpAction → Bool
  | .ota .beginWindow _ => decide (system.ota.pc = .starting)
  | .ota (.prime _) _ => decide (system.ota.pc = .priming system.ota.session.startChunk)
  | _ => false

def GateHeld (state : Observed) (action : HpAction) : Prop :=
  startsDownload state.1 action = true → low state.2 = true →
    state.1.ota.manifest.force = true

/-- With a low battery and no force, a session is entered from a cycle that
carries a low percentage too, and none is measured before the download starts. -/
def GateSees (state : Observed) (action : HpAction) : Prop :=
  state.1.ota.manifest.force = false →
    match action with
    | .ota (.enterSession percent) _ => low state.2 = true → low percent = true
    | .sensor (.measure _) => Gated state.1.ota → low (measured state.1 action) = false
    | _ => True

instance (state : Observed) (action : HpAction) : Decidable (GateHeld state action) := by
  unfold GateHeld
  infer_instance

instance (state : Observed) (action : HpAction) : Decidable (GateSees state action) := by
  unfold GateSees
  split <;> infer_instance

/-! ## The session -/

variable {firmware : Firmware} {ota next : Ota}

def Primed (ota : Ota) : Prop := ∀ chunk, ota.pc = .priming chunk → ota.session.startChunk ≤ chunk

theorem gated_prime (primed : Primed ota) {chunk : Nat} (at_ : ota.pc = .priming chunk)
    (ok : Bool) : Primed (ota.prime chunk ok) ∧ ¬ Gated (ota.prime chunk ok) := by
  have first := primed chunk at_
  unfold Ota.prime
  split
  · have same :
        ({ ota.subscribeChunk chunk ok with pc := .priming (chunk + 1) } : Ota).session.startChunk =
        ota.session.startChunk := by
      unfold Ota.subscribeChunk
      split <;> rfl
    refine ⟨?_, ?_⟩
    · rintro other ⟨⟩
      rw [same]
      omega
    · intro gated
      have again : chunk + 1 = _ := gated
      rw [same] at again
      omega
  · exact ⟨(fun other at_ => by cases at_), False.elim⟩

def away : SessionPc → Bool
  | .activating | .starting | .pinning | .priming _ => false
  | _ => true

theorem away_next (next : Ota) (elsewhere : away next.pc = true) : Primed next ∧ ¬ Gated next := by
  unfold Primed Gated
  cases at_ : next.pc <;> simp_all [away]

theorem gated_session {event : OtaEvent} (primed : Primed ota)
    (taken : ota.sessionStep firmware ota.pc event = some next) :
    Primed next ∧ next.manifest = ota.manifest ∧
      (Gated next → Gated ota ∨ ∃ percent, event = .enterSession percent ∧
        (low percent = true → ota.manifest.force = true)) := by
  have leaves : away next.pc = true → next.manifest = ota.manifest →
      Primed next ∧ next.manifest = ota.manifest ∧
        (Gated next → Gated ota ∨ ∃ percent, event = .enterSession percent ∧
          (low percent = true → ota.manifest.force = true)) := by
    intro elsewhere same
    obtain ⟨stays, outside⟩ := away_next next elsewhere
    exact ⟨stays, same, fun gated => (outside gated).elim⟩
  have pulling : Ota.pullingPc next.pc = true → away next.pc = true := by
    cases next.pc <;> simp [Ota.pullingPc, away]
  have inside : ∀ {pc : SessionPc}, ota.pc = pc → (pc = .activating ∨ pc = .starting ∨
      pc = .pinning) → Gated ota := by
    rintro pc at_ (rfl | rfl | rfl) <;> simp [Gated, at_]
  cases Ota.session_kind taken with
  | runIfDue _ _ => exact leaves rfl rfl
  | connected _ => exact leaves rfl rfl
  | unconnected _ _ => exact leaves rfl rfl
  | enterSession battery at_ =>
    refine ⟨?_, rfl, ?_⟩
    · intro chunk place
      simp only [Ota.enterSession] at place
      split at place <;> cases place
    · intro gated
      refine .inr ⟨battery, rfl, fun isLow => ?_⟩
      by_contra unforced
      have deferred : (ota.enterSession battery).pc = .returned := by
        unfold low at isLow
        simp [Ota.enterSession, isLow, unforced]
      simp [Gated, deferred] at gated
  | activate found beginOk hashSetupOk at_ =>
    obtain ⟨same, starting | returned⟩ := ota.activate_frame found beginOk hashSetupOk
    · refine ⟨?_, same, fun _ => .inl (inside at_ (.inl rfl))⟩
      intro chunk place
      rw [starting] at place
      cases place
    · exact leaves (by rw [returned]; rfl) same
  | beginWindow at_ =>
    exact ⟨(fun chunk place => by cases place), rfl,
      fun _ => .inl (inside at_ (.inr (.inl rfl)))⟩
  | pin at_ =>
    refine ⟨?_, rfl, fun _ => .inl (inside at_ (.inr (.inr rfl)))⟩
    rintro chunk ⟨⟩
    exact le_rfl
  | prime chunk ok at_ =>
    obtain ⟨stays, outside⟩ := gated_prime primed at_ ok
    exact ⟨stays, (ota.prime_frame chunk ok).1.manifest, fun gated => (outside gated).elim⟩
  | wait at_ =>
    obtain ⟨frame, place⟩ := ota.wait_frame
    exact leaves (pulling place) frame.manifest
  | countDone chunkBit at_ =>
    obtain ⟨frame, place⟩ := ota.countDone_frame chunkBit
    exact leaves (pulling place) frame.manifest
  | topUp chunk nowDone ok capExceeded at_ =>
    obtain ⟨frame, place⟩ := ota.topUp_frame chunk nowDone ok capExceeded
    exact leaves (pulling place) frame.manifest
  | endSession at_ => exact leaves rfl rfl
  | finalize hashOk endOk bootOk at_ =>
    obtain ⟨same, closing⟩ := ota.finalize_frame firmware hashOk endOk bootOk
    exact leaves (by rw [closing]; rfl) same
  | endWindow at_ => exact leaves rfl rfl
  | unpin at_ => exact leaves rfl rfl
  | report at_ =>
    obtain ⟨same, rebooting | returned⟩ := ota.report_frame
    · exact leaves (by rw [rebooting]; rfl) same
    · exact leaves (by rw [returned]; rfl) same
  | loopCheck uriFound _ _ => exact leaves (by split <;> rfl) (by split <;> rfl)

theorem gated_step {event : OtaEvent} (primed : Primed ota)
    (taken : ota.step firmware event = some next) :
    Primed next ∧ (Gated next → next.manifest = ota.manifest ∧
      (Gated ota ∨ ∃ percent, event = .enterSession percent ∧
        (low percent = true → ota.manifest.force = true))) := by
  have idle : next.pc = .idle → Primed next ∧ (Gated next → next.manifest = ota.manifest ∧
      (Gated ota ∨ ∃ percent, event = .enterSession percent ∧
        (low percent = true → ota.manifest.force = true))) := by
    intro at_
    obtain ⟨stays, outside⟩ := away_next next (by rw [at_]; rfl)
    exact ⟨stays, fun gated => (outside gated).elim⟩
  cases Ota.step_kind taken with
  | manifest message at_ =>
    obtain ⟨manifest, same⟩ := ota.handleManifest_eq firmware message
    exact idle ((congrArg Ota.pc same).trans at_)
  | install set at_ => exact idle at_
  | handler handled =>
    have kept := Ota.handlerStep_kept handled
    refine ⟨?_, ?_⟩
    · unfold Primed
      rw [kept.pc, kept.session]
      exact primed
    · intro gated
      refine ⟨kept.manifest, .inl ?_⟩
      unfold Gated at gated ⊢
      rw [kept.pc, kept.session] at gated
      exact gated
  | session moved =>
    obtain ⟨stays, same, passes⟩ := gated_session primed moved
    exact ⟨stays, fun gated => ⟨same, passes gated⟩⟩

/-! ## Whole runs -/

structure Inv (system : HpSystem) (last : Option Flt) : Prop where
  primed : Primed system.ota
  gate : Gated system.ota → low last = true → system.ota.manifest.force = true

theorem inv_boot (env : HpEnv) (nvs : Nvs) (cyclesStarted : Nat) (pendingVerify : Bool)
    (last : Option Flt) : Inv (boot env nvs cyclesStarted pendingVerify) last :=
  ⟨(fun chunk at_ => by cases at_), False.elim⟩

variable {env : HpEnv} {system after : HpSystem} {last : Option Flt}

theorem Inv.sameOta (inv : Inv system last) (same : after.ota = system.ota) : Inv after last := by
  refine ⟨?_, ?_⟩ <;> rw [same]
  · exact inv.primed
  · exact inv.gate

theorem inv_sensor {event : SensorEvent} (inv : Inv system last)
    (met : GateSees (system, last) (.sensor event)) (move : SensorMove env system event after) :
    Inv after (record system (.sensor event) last) := by
  have same := sensor_ota move
  cases event with
  | measure outcome =>
    refine ⟨by rw [same]; exact inv.primed, ?_⟩
    rw [same]
    intro gated isLow
    by_contra unforced
    have unforced : system.ota.manifest.force = false := by simpa using unforced
    have high : low (measured system (.sensor (.measure outcome))) = false := met unforced gated
    unfold record at isLow
    cases now : measured system (.sensor (.measure outcome)) with
    | none =>
      rw [now] at isLow
      have forced := inv.gate gated isLow
      rw [unforced] at forced
      cases forced
    | some value =>
      rw [now] at isLow high
      rw [Option.some_or, high] at isLow
      cases isLow
  | _ => exact inv.sameOta same

theorem inv_pub {pub : Pub} {event : PubEvent} (inv : Inv system last)
    (move : PubMove env system pub event after) : Inv after last := by
  cases move with
  | quiet noTrial frame => exact inv.sameOta frame.ota
  | acked at_ all =>
    have same : system.ackWait pub = _ := if_pos all
    rw [same]
    exact ⟨inv.primed, inv.gate⟩
  | session at_ healthy due =>
    obtain ⟨stays, passes⟩ := gated_step inv.primed due
    refine ⟨stays, fun gated isLow => ?_⟩
    obtain ⟨manifest, was | ⟨percent, entering, -⟩⟩ := passes gated
    · exact (congrArg Manifest.force manifest).trans (inv.gate was isLow)
    · cases entering
  | _ => exact ⟨inv.primed, inv.gate⟩

theorem inv_client {event : ClientEvent} (inv : Inv system last)
    (move : ClientMove system event after) : Inv after last := by
  have moved : ClientQuiet system after → Inv after last := by
    intro frame
    by_cases idle : system.ota.pc = .idle
    · obtain ⟨stays, outside⟩ := away_next after.ota
        (by rw [frame.session, idle]; rfl)
      exact ⟨stays, fun gated => (outside gated).elim⟩
    · exact inv.sameOta (frame.inSession idle)
  cases move with
  | quiet frame states noAck => exact moved frame
  | acked frame acked kept => exact moved frame

theorem inv_ota {event : OtaEvent} {accepted : Bool} {ota : Ota} (inv : Inv system last)
    (met : GateSees (system, last) (.ota event accepted))
    (stepped : system.ota.step env.firmware event = some ota) :
    Inv { system.otaRadio event accepted with ota := ota } last := by
  obtain ⟨stays, passes⟩ := gated_step inv.primed stepped
  refine ⟨stays, fun gated isLow => ?_⟩
  obtain ⟨manifest, was | ⟨percent, rfl, allowed⟩⟩ := passes gated
  · exact (congrArg Manifest.force manifest).trans (inv.gate was isLow)
  · by_contra unforced
    have same := congrArg Manifest.force manifest
    rw [Bool.not_eq_true, same] at unforced
    have forced := allowed (met unforced isLow)
    rw [unforced] at forced
    cases forced

theorem inv_step (state : Observed) (action : HpAction) (next : Observed)
    (inv : Inv state.1 state.2) (met : GateSees state action)
    (taken : step env state action = some next) : Inv next.1 next.2 := by
  obtain ⟨stepped, recorded⟩ := Runs.observe_step taken
  rw [recorded]
  obtain ⟨system, last⟩ := state
  obtain ⟨after, _⟩ := next
  cases step_move stepped with
  | sensor move => exact inv_sensor inv met move
  | pub running leaves move => exact inv_pub inv move
  | tail => exact ⟨inv.primed, inv.gate⟩
  | client move => exact inv_client inv move
  | ota running at_ inCycle entered => exact inv_ota inv met entered
  | reset pendingVerify => exact inv_boot env _ _ pendingVerify _

theorem gateHeld_of_inv (state : Observed) (action : HpAction) (inv : Inv state.1 state.2) :
    GateHeld state action := by
  intro starts isLow
  refine inv.gate ?_ isLow
  cases action with
  | ota event accepted =>
    cases event with
    | beginWindow => simp [Gated, of_decide_eq_true starts]
    | prime ok => simp [Gated, of_decide_eq_true starts]
    | _ => cases starts
  | _ => cases starts

/-- In every run whose gates see a low battery, no download starts with one. -/
theorem gateHeld_run (env : HpEnv) (nvs : Nvs) (cyclesStarted : Nat) (pendingVerify : Bool)
    (last : Option Flt) (actions : List HpAction)
    (met : Runs.Along (step env) GateSees (boot env nvs cyclesStarted pendingVerify, last)
      actions) :
    Runs.Along (step env) GateHeld (boot env nvs cyclesStarted pendingVerify, last) actions :=
  Runs.along_of_invariant (fun state => Inv state.1 state.2) inv_step
    (fun state action inv _ => gateHeld_of_inv state action inv)
    (inv_boot env nvs cyclesStarted pendingVerify last) met

/-! ## A deferral, and the cycle after it -/

def adcEnv : HpEnv := { benchEnv with yaml := { readBatteryViaAdc := true } }

def staging : ManifestMessage :=
  .body
    { version := some "2.0".toList, size := some 2, chunkSize := some 1, sha256 := some 0
      force := false }

/-- A data cycle on 3500 mV, about 3 %, that receives an update. -/
def deferred : List HpAction :=
  attachFirst ++
    [.sensor (.readState (reading 1 (.fin 21))), .sensor .branch,
      .sensor (.measure (.milliVolts 3500)), .sensor (.send true), .sensor .isBusy] ++
    publishUpToState ++ [.client (.manifest staging), .client (.install true)] ++ allAcked 35 ++
    [.pub .ackWait, .pub (.replay 0), .pub .settle, .pub .merge, .pub .persist, .pub .close,
      .pub (.otaGate true), .ota (.connectDone true) false,
      .ota (.enterSession (some (Battery.batteryPercent 3500))) false,
      .ota (.loopCheck true) false, .pub .otaDone, .pub .windowEnd, .pub .storeOk] ++
    publishEnd ++ noteOutcome

/-- The OTA-only cycle that follows has no percentage to show. -/
def startedOtaOnly : List HpAction :=
  deferred ++ sleepAndWake ++
    [.sensor (.attachGate true), .sensor (.readState { heartbeatCounter := 2 }), .sensor .branch,
      .sensor (.send true), .pub (.reachable true true), .pub (.decide true),
      .pub (.otaGate true), .ota (.connectDone true) false, .ota (.enterSession none) false,
      .ota (.activate true true true) false, .ota .beginWindow false]

theorem gateHeld_deferred :
    (Runs.run (step adcEnv) (boot adcEnv Nvs.erased 0 false, none) deferred).any
        (fun final => low final.2 && final.1.ota.updateDue) = true ∧
      Runs.Along (step adcEnv) GateHeld (boot adcEnv Nvs.erased 0 false, none) deferred :=
  ⟨by decide +kernel, gateHeld_run adcEnv Nvs.erased 0 false none deferred (by decide +kernel)⟩

theorem otaOnly_unheld :
    ¬ ∀ env nvs cyclesStarted pendingVerify last actions, env.yaml.readBatteryViaAdc = true →
      Runs.Along (step env) GateHeld (boot env nvs cyclesStarted pendingVerify, last) actions := by
  intro always
  have held := always adcEnv Nvs.erased 0 false none startedOtaOnly rfl
  revert held
  decide +kernel

end SleepySensor.BatteryGate
