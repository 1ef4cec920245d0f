import SleepySensor.Base

/-!
# Cadence arithmetic and the safeguard wait

The skip budget, the safeguard timeout and its way through the 32-bit
multiplications into FreeRTOS ticks, together with the stall branch of
`executeTask` that judges the LP core when that timeout fires.
-/

set_option autoImplicit false

namespace SleepySensor.Cadence

/-- `minutes_to_lp_cycles`, the same helper in `main.cpp` and `runtime_config.cpp`. -/
def minutesToLpCycles (minutes pollSec : Nat) : Nat :=
  if minutes = 0 then 0 else u32Sub (u32 (u32 (minutes * 60) + pollSec)) 1 / pollSec

/-- `publish_gap_sec_to_skip_cycles`, likewise in both files. -/
def publishGapSecToSkipCycles (gapSec pollSec : Nat) : Nat :=
  if gapSec ≤ pollSec then 0 else gapSec / pollSec - 1

def safeguardWakeSec (pollSec maxSkip : Nat) : Nat := u32 (u32 (maxSkip + 3) * pollSec)

/-- `MqttConfig::expire_after_sec` as `app_main` fills it. -/
def expireAfterSec (pollSec maxSkip : Nat) : Nat := u32 (2 * safeguardWakeSec pollSec maxSkip)

def configTickRateHz : Nat := 1000

/-- FreeRTOS `pdMS_TO_TICKS`: the multiplication is done in 32 bits. -/
def pdMsToTicks (ms : Nat) : Nat := u32 (ms * configTickRateHz) / 1000

def waitForWakeTicks (timeoutMs : Nat) : Nat := pdMsToTicks timeoutMs

inductive WakeReason where
  | lpWake
  | otaRetryTimeout
  | safeguardTimeout
  deriving DecidableEq, Repr

def waitSec (otaRetryWait : Bool) (pollSec maxSkip : Nat) : Nat :=
  if otaRetryWait then pollSec else safeguardWakeSec pollSec maxSkip

def waitTicks (otaRetryWait : Bool) (pollSec maxSkip : Nat) : Nat :=
  waitForWakeTicks (u32 (waitSec otaRetryWait pollSec maxSkip * 1000))

def safeguardTicks (gapSec pollSec : Nat) : Nat :=
  waitTicks false pollSec (publishGapSecToSkipCycles gapSec pollSec)

def heartbeatDelta (heartbeat lastSeen : Nat) : Nat := u32Sub heartbeat lastSeen

def lpStalledThisCycle (reason : WakeReason) (delta : Nat) : Bool :=
  reason == .safeguardTimeout && delta == 0

def maxPublishGapSecMax : Nat := 21600

/-- An LP core that polls every poll interval: `polls t` is how many polls are
over at tick `t`, and one more is over one poll interval later. -/
structure PollsEvery (pollSec : Nat) (polls : Nat → Nat) : Prop where
  mono : Monotone polls
  next : ∀ tick, polls (tick + configTickRateHz * pollSec) = polls tick + 1

namespace PollsEvery

variable {pollSec : Nat} {polls : Nat → Nat}

theorem after (core : PollsEvery pollSec polls) (tick count : Nat) :
    polls (tick + count * (configTickRateHz * pollSec)) = polls tick + count := by
  induction count with
  | zero => simp
  | succ count ih =>
    have split : tick + (count + 1) * (configTickRateHz * pollSec) =
        tick + count * (configTickRateHz * pollSec) + configTickRateHz * pollSec := by ring
    rw [split, core.next, ih, Nat.add_assoc]

theorem advances (core : PollsEvery pollSec polls) {first second : Nat}
    (wide : first + configTickRateHz * pollSec ≤ second) : polls first < polls second := by
  have advanced := core.next first
  have later := core.mono wide
  omega

theorem bounded (core : PollsEvery pollSec polls) (positive : 1 ≤ pollSec)
    {first second : Nat} (window : second < first + u32Mod) :
    polls second < polls first + u32Mod := by
  have reach : second ≤ first + 4294968 * (configTickRateHz * pollSec) := by
    have wide : 4294968 * (1000 * 1) ≤ 4294968 * (1000 * pollSec) :=
      Nat.mul_le_mul_left _ (Nat.mul_le_mul_left _ positive)
    simp only [u32Mod, configTickRateHz] at *
    omega
  have later := core.mono reach
  rw [core.after] at later
  simp only [u32Mod]
  omega

end PollsEvery

theorem heartbeatDelta_pos {before later : Nat} (advanced : before < later)
    (window : later < before + u32Mod) : heartbeatDelta (u32 later) (u32 before) ≠ 0 := by
  simp only [heartbeatDelta, u32Sub, u32, u32Mod] at *
  omega

/-- Between two reads of the heartbeat that lie a poll interval or more apart
(and less than the 2^32 ticks FreeRTOS can count), `executeTask` never sees a
stalled LP core. -/
theorem not_stalled {pollSec : Nat} {polls : Nat → Nat} (core : PollsEvery pollSec polls)
    (positive : 1 ≤ pollSec) {readAt nextRead : Nat}
    (wide : readAt + configTickRateHz * pollSec ≤ nextRead)
    (window : nextRead < readAt + u32Mod) (reason : WakeReason) :
    lpStalledThisCycle reason (heartbeatDelta (u32 (polls nextRead)) (u32 (polls readAt))) =
      false := by
  have moved := heartbeatDelta_pos (core.advances wide) (core.bounded positive window)
  simp [lpStalledThisCycle, moved]

/-! ## The safeguard wait -/

def SafeguardExact (gapSec pollSec : Nat) : Prop :=
  safeguardTicks gapSec pollSec =
    1000 * (publishGapSecToSkipCycles gapSec pollSec + 3) * pollSec

/-- An LP core that polls every poll interval has advanced its heartbeat when the
safeguard timeout fires, and `executeTask` does not count it as stalled. -/
def HealthyCoreSeen (gapSec pollSec : Nat) : Prop :=
  ∀ polls, PollsEvery pollSec polls → ∀ readAt nextRead,
    readAt + safeguardTicks gapSec pollSec ≤ nextRead → nextRead < readAt + u32Mod →
      polls readAt < polls nextRead ∧
      lpStalledThisCycle .safeguardTimeout
        (heartbeatDelta (u32 (polls nextRead)) (u32 (polls readAt))) = false

theorem safeguard_bound {gapSec pollSec : Nat} (gap : gapSec ≤ maxPublishGapSecMax)
    (poll : pollSec ≤ 4294) :
    (publishGapSecToSkipCycles gapSec pollSec + 3) * pollSec ≤ 30188 := by
  unfold publishGapSecToSkipCycles
  simp only [maxPublishGapSecMax] at gap
  split
  · omega
  · rename_i longer
    rcases Nat.eq_zero_or_pos pollSec with rfl | positive
    · simp
    have quotient : 1 ≤ gapSec / pollSec := (Nat.one_le_div_iff positive).mpr (by omega)
    have floor : gapSec / pollSec * pollSec ≤ gapSec := Nat.div_mul_le_self gapSec pollSec
    have total : gapSec / pollSec - 1 + 3 = gapSec / pollSec + 2 := by omega
    rw [total, Nat.add_mul]
    omega

theorem safeguardTicks_eq {gapSec pollSec : Nat} (gap : gapSec ≤ maxPublishGapSecMax)
    (poll : pollSec ≤ 4294) :
    safeguardTicks gapSec pollSec =
      u32 ((publishGapSecToSkipCycles gapSec pollSec + 3) * pollSec * 1000000) / 1000 := by
  have bound := safeguard_bound gap poll
  have skip : publishGapSecToSkipCycles gapSec pollSec ≤ 21600 := by
    unfold publishGapSecToSkipCycles
    simp only [maxPublishGapSecMax] at gap
    split
    · omega
    · exact (Nat.sub_le _ _).trans ((Nat.div_le_self _ _).trans gap)
  have budget : u32 (publishGapSecToSkipCycles gapSec pollSec + 3) =
      publishGapSecToSkipCycles gapSec pollSec + 3 := u32_of_lt (by simp only [u32Mod]; omega)
  simp only [safeguardTicks, waitTicks, waitSec, safeguardWakeSec, waitForWakeTicks, pdMsToTicks,
    configTickRateHz, budget, Bool.false_eq_true, if_false]
  generalize (publishGapSecToSkipCycles gapSec pollSec + 3) * pollSec = seconds at bound
  have inSeconds : u32 seconds = seconds := u32_of_lt (by simp only [u32Mod]; omega)
  have inMs : u32 (seconds * 1000) = seconds * 1000 := u32_of_lt (by simp only [u32Mod]; omega)
  have ticks : seconds * 1000 * 1000 = seconds * 1000000 := Nat.mul_assoc seconds 1000 1000
  rw [inSeconds, inMs, ticks]

theorem safeguardExact_iff {gapSec pollSec : Nat} (gap : gapSec ≤ maxPublishGapSecMax)
    (poll : pollSec ≤ 4294) :
    SafeguardExact gapSec pollSec ↔
      (publishGapSecToSkipCycles gapSec pollSec + 3) * pollSec ≤ 4294 := by
  unfold SafeguardExact
  have product := Nat.mul_assoc 1000 (publishGapSecToSkipCycles gapSec pollSec + 3) pollSec
  rw [safeguardTicks_eq gap poll, product]
  generalize (publishGapSecToSkipCycles gapSec pollSec + 3) * pollSec = seconds
  simp only [u32, u32Mod]
  omega

theorem healthyCoreSeen_of_exact {gapSec pollSec : Nat} (positive : 1 ≤ pollSec)
    (exact : SafeguardExact gapSec pollSec) : HealthyCoreSeen gapSec pollSec := by
  intro polls core readAt nextRead waited window
  have wide : readAt + configTickRateHz * pollSec ≤ nextRead := by
    have once : 1000 * 1 * pollSec ≤
        1000 * (publishGapSecToSkipCycles gapSec pollSec + 3) * pollSec :=
      Nat.mul_le_mul_right _ (Nat.mul_le_mul_left _ (by omega))
    rw [exact] at waited
    simp only [configTickRateHz]
    omega
  exact ⟨core.advances wide, not_stalled core positive wide window _⟩

/-- The safeguard wait is exact, and with it a healthy LP core is never counted
as stalled, exactly while the window is short enough for a 32-bit count of
microseconds. -/
theorem safeguard_wait_iff {gapSec pollSec : Nat} (positive : 1 ≤ pollSec)
    (poll : pollSec ≤ 4294) (gap : gapSec ≤ maxPublishGapSecMax) :
    (SafeguardExact gapSec pollSec ∧ HealthyCoreSeen gapSec pollSec) ↔
      (publishGapSecToSkipCycles gapSec pollSec + 3) * pollSec ≤ 4294 := by
  rw [← safeguardExact_iff gap poll]
  exact ⟨fun both => both.1, fun exact => ⟨exact, healthyCoreSeen_of_exact positive exact⟩⟩

theorem safeguard_wait_iff_default :
    (SafeguardExact 300 20 ∧ HealthyCoreSeen 300 20) ↔
      (publishGapSecToSkipCycles 300 20 + 3) * 20 ≤ 4294 :=
  safeguard_wait_iff (by decide) (by decide) (by decide)

theorem pollsEvery_twenty : PollsEvery 20 fun tick => tick / 20000 where
  mono := fun _ _ le => Nat.div_le_div_right le
  next := fun tick => by simp only [configTickRateHz]; omega

/-- With the default poll of 20 s and a publish gap of 4260 s the wait is 5 s, not
4300 s, and it fires between two polls of a healthy LP core. -/
theorem safeguard_wait_wraps :
    safeguardTicks 4260 20 = 5032 ∧
      ¬ (SafeguardExact 4260 20 ∧ HealthyCoreSeen 4260 20) ∧ ¬ HealthyCoreSeen 4260 20 := by
  have ticks : safeguardTicks 4260 20 = 5032 := by decide
  have unseen : ¬ HealthyCoreSeen 4260 20 := by
    intro seen
    have advanced := seen (fun tick => tick / 20000) pollsEvery_twenty 0 5032
      (by rw [ticks]) (by decide)
    exact absurd advanced.1 (by decide)
  exact ⟨ticks, fun both => unseen both.2, unseen⟩

end SleepySensor.Cadence
