import SleepySensor.ThreadLink

/-!
# Per-cycle deltas

The counters of the link and the awake time of the HP core, each published as
what it grew by since the cycle before: no cycle loses or repeats a count,
whatever else reaches the link in between.
-/

set_option autoImplicit false

namespace SleepySensor.ThreadLink

/-! ## The counters of the link -/

/-- What the radio and the MAC have counted since boot. -/
structure Totals where
  radioTxTimeUs : Nat
  radioRxTimeUs : Nat
  txRetries : Nat
  txCcaFailures : Nat
  txNoAckExpiry : Nat
  deriving DecidableEq, Repr

def Totals.parts : List (Totals → Nat) :=
  [Totals.radioTxTimeUs, Totals.radioRxTimeUs, Totals.txRetries, Totals.txCcaFailures,
    Totals.txNoAckExpiry]

def Totals.sub (now before : Totals) : Totals :=
  { radioTxTimeUs := now.radioTxTimeUs - before.radioTxTimeUs
    radioRxTimeUs := now.radioRxTimeUs - before.radioRxTimeUs
    txRetries := now.txRetries - before.txRetries
    txCcaFailures := now.txCcaFailures - before.txCcaFailures
    txNoAckExpiry := now.txNoAckExpiry - before.txNoAckExpiry }

/-- The counts go on, each by less than fits a delta. -/
def Totals.Follows (before now : Totals) : Prop :=
  ∀ part ∈ Totals.parts, part before ≤ part now ∧ part now - part before < u32Mod

instance (before now : Totals) : Decidable (before.Follows now) :=
  inferInstanceAs (Decidable
    (∀ part ∈ Totals.parts, part before ≤ part now ∧ part now - part before < u32Mod))

structure Moment where
  totals : Totals
  rssi : Option Rssi
  linkQualityOut : Option Nat

/-- The counters in the widths that OpenThread keeps them in. -/
def Moment.reading (moment : Moment) : Reading :=
  { rssi := moment.rssi
    linkQualityOut := moment.linkQualityOut
    radio := some
      { txTime := moment.totals.radioTxTimeUs % 2 ^ 64
        rxTime := moment.totals.radioRxTimeUs % 2 ^ 64 }
    mac := some
      { txRetry := u32 moment.totals.txRetries
        txErrCca := u32 moment.totals.txCcaFailures
        txDirectMaxRetryExpiry := u32 moment.totals.txNoAckExpiry } }

def ThreadStats.deltas? (stats : ThreadStats) : Option Totals := do
  let radioTxTimeUs ← stats.radioTxTimeUs
  let radioRxTimeUs ← stats.radioRxTimeUs
  let txRetries ← stats.txRetries
  let txCcaFailures ← stats.txCcaFailures
  let txNoAckExpiry ← stats.txNoAckExpiry
  pure { radioTxTimeUs, radioRxTimeUs, txRetries, txCcaFailures, txNoAckExpiry }

def Link.reads (link : Link) : List LinkEvent → List (Option ThreadStats)
  | [] => []
  | .readLinkStats reading :: rest =>
    let read := readLinkStats reading link
    read.1 :: read.2.reads rest
  | event :: rest => (link.apply event).reads rest

def readDeltas (read : Option ThreadStats) : Option Totals := read.bind ThreadStats.deltas?

theorem u64Delta_exact {before now : Nat} (le : before ≤ now) (small : now - before < u32Mod) :
    u64Delta (now % 2 ^ 64) (before % 2 ^ 64) = now - before := by
  unfold u32Mod at small
  simp only [u64Delta, u32, u32Mod]
  omega

theorem u32Delta_exact {before now : Nat} (le : before ≤ now) (small : now - before < u32Mod) :
    u32Sub (u32 now) (u32 before) = now - before := by
  rw [u32Sub_u32 le]
  exact u32_of_lt small

theorem read_deltas {before now : Moment} {link : Link} (follows : before.totals.Follows now.totals)
    (sampled : link.prevCounters = before.reading.counters) :
    readDeltas (readLinkStats now.reading link).1 = some (now.totals.sub before.totals) := by
  simp only [Totals.Follows, Totals.parts, List.forall_mem_cons] at follows
  obtain ⟨tx, rx, retries, cca, noAck, -⟩ := follows
  have exact_ : (link.stats now.reading).deltas? = some (now.totals.sub before.totals) := by
    simp only [Link.stats, sampled, Moment.reading, Reading.counters, Option.elim_some,
      Option.isSome_some,
      Bool.and_self, if_true, u64Delta_exact tx.1 tx.2, u64Delta_exact rx.1 rx.2,
      u32Delta_exact retries.1 retries.2, u32Delta_exact cca.1 cca.2,
      u32Delta_exact noAck.1 noAck.2]
    rfl
  have shown : (link.stats now.reading).radioTxTimeUs.isNone = false := by
    simp only [Link.stats, sampled, Moment.reading, Reading.counters, Option.isSome_some,
      Bool.and_self,
      if_true, Option.isNone_some]
  simp only [readLinkStats, shown, Bool.and_false, Bool.false_eq_true, if_false]
  exact exact_

theorem read_first (moment : Moment) {link : Link} (fresh : link.prevCounters.valid = false) :
    readDeltas (readLinkStats moment.reading link).1 = none := by
  have none_ : (link.stats moment.reading).deltas? = none := by
    simp only [Link.stats, fresh, Bool.false_and, Bool.false_eq_true, if_false]
    rfl
  unfold readLinkStats readDeltas
  dsimp only
  split
  · rfl
  · exact none_

theorem apply_counters (link : Link) {event : LinkEvent} (noRead : event.reading? = none) :
    (link.apply event).prevCounters = link.prevCounters := by
  cases event with
  | stateChange role routes =>
    cases role with
    | child =>
      show (scanRoutes routes link).prevCounters = _
      rw [scanRoutes_eq]
    | disabled | detached | router | leader => rfl
  | enhAckReport rssi => cases rssi <;> rfl
  | refreshNat64Prefix routes =>
    show (scanRoutes routes link).prevCounters = _
    rw [scanRoutes_eq]
  | readLinkStats reading => cases noRead

theorem reads_skip (link : Link) {event : LinkEvent} (noRead : event.reading? = none)
    (rest : List LinkEvent) : link.reads (event :: rest) = (link.apply event).reads rest := by
  cases event with
  | stateChange | enhAckReport | refreshNat64Prefix => rfl
  | readLinkStats => cases noRead

theorem reads_from {history : List LinkEvent} {before : Moment} {moments : List Moment}
    {link : Link}
    (sampled : link.prevCounters = before.reading.counters)
    (seen : history.filterMap LinkEvent.reading? = moments.map Moment.reading)
    (on : (before.totals :: moments.map Moment.totals).IsChain Totals.Follows) :
    (link.reads history).map readDeltas =
      (differences Totals.sub before.totals (moments.map Moment.totals)).map some := by
  induction history generalizing before moments link with
  | nil =>
    obtain rfl : moments = [] := List.map_eq_nil_iff.mp seen.symm
    rfl
  | cons event history ih =>
    cases read : event.reading? with
    | none =>
      rw [List.filterMap_cons_none read] at seen
      rw [reads_skip link read]
      exact ih ((apply_counters link read).trans sampled) seen on
    | some reading =>
      cases event with
      | stateChange role routes => cases read
      | enhAckReport rssi => cases read
      | refreshNat64Prefix routes => cases read
      | readLinkStats here =>
        obtain rfl := Option.some.inj read
        cases moments with
        | nil => cases seen
        | cons moment moments =>
          obtain ⟨rfl, others⟩ := List.cons.inj seen
          obtain ⟨follows, on⟩ := List.isChain_cons_cons.mp on
          have later := @ih moment moments (readLinkStats moment.reading link).2 rfl others on
          rw [Link.reads, List.map_cons, read_deltas follows sampled, later]
          rfl

theorem reads_first {history : List LinkEvent} {first : Moment} {moments : List Moment}
    {link : Link}
    (fresh : link.prevCounters.valid = false)
    (seen : history.filterMap LinkEvent.reading? = (first :: moments).map Moment.reading)
    (on : (first.totals :: moments.map Moment.totals).IsChain Totals.Follows) :
    (link.reads history).map readDeltas =
      none :: (differences Totals.sub first.totals (moments.map Moment.totals)).map some := by
  induction history generalizing link with
  | nil => cases seen
  | cons event history ih =>
    cases read : event.reading? with
    | none =>
      rw [List.filterMap_cons_none read] at seen
      rw [reads_skip link read]
      exact ih ((congrArg CounterSnapshot.valid (apply_counters link read)).trans fresh) seen
    | some reading =>
      cases event with
      | stateChange role routes => cases read
      | enhAckReport rssi => cases read
      | refreshNat64Prefix routes => cases read
      | readLinkStats here =>
        obtain rfl := Option.some.inj read
        obtain ⟨rfl, others⟩ := List.cons.inj seen
        have later :=
          @reads_from history first moments (readLinkStats first.reading link).2 rfl others on
        rw [Link.reads, List.map_cons, read_first first fresh, later]

/-- From boot on, each read but the first counts exactly what came since the one
before it, so that all of them together count what came since the first. -/
theorem reads_account (attached prefixes : Bool) {history : List LinkEvent} {first : Moment}
    {moments : List Moment}
    (seen : history.filterMap LinkEvent.reading? = (first :: moments).map Moment.reading)
    (on : (first.totals :: moments.map Moment.totals).IsChain Totals.Follows) :
    ((start attached prefixes).reads history).map readDeltas =
        none :: (differences Totals.sub first.totals (moments.map Moment.totals)).map some ∧
      ∀ part ∈ Totals.parts,
        part first.totals +
            ((differences Totals.sub first.totals (moments.map Moment.totals)).map part).sum =
          part ((first.totals :: moments.map Moment.totals).getLast (List.cons_ne_nil _ _)) := by
  refine ⟨reads_first rfl seen on, fun part listed => ?_⟩
  apply sum_differences _ on
  intro before now follows
  obtain ⟨le, -⟩ := follows part listed
  simp only [Totals.parts, List.mem_cons, List.not_mem_nil, or_false] at listed
  rcases listed with rfl | rfl | rfl | rfl | rfl <;> exact Nat.add_sub_cancel' le

/-- Three reads of which the retries wrap around between the first two. -/
def wrapping : List Moment :=
  [ { totals := ⟨100, 2000, 4294967295, 3, 0⟩, rssi := some ⟨-60, by decide⟩
      linkQualityOut := some 3 },
    { totals := ⟨150, 2600, 4294967297, 3, 1⟩, rssi := none, linkQualityOut := none },
    { totals := ⟨400, 9000, 4294967299, 7, 1⟩, rssi := some ⟨-58, by decide⟩
      linkQualityOut := some 3 } ]

theorem reads_account_wrapping :
    ((start true true).reads (wrapping.map fun moment => .readLinkStats moment.reading)).map
      readDeltas =
        [none, some ⟨50, 600, 2, 0, 1⟩, some ⟨250, 6400, 2, 4, 0⟩] ∧
      ∀ part ∈ Totals.parts,
        part ⟨100, 2000, 4294967295, 3, 0⟩ +
            (([⟨50, 600, 2, 0, 1⟩, ⟨250, 6400, 2, 4, 0⟩] : List Totals).map part).sum =
          part ⟨400, 9000, 4294967299, 7, 1⟩ :=
  @reads_account true true (wrapping.map fun moment => .readLinkStats moment.reading)
    { totals := ⟨100, 2000, 4294967295, 3, 0⟩, rssi := some ⟨-60, by decide⟩
      linkQualityOut := some 3 }
    wrapping.tail rfl
    (List.isChain_cons_cons.mpr ⟨by decide, List.isChain_cons_cons.mpr ⟨by decide,
      List.isChain_singleton _⟩⟩)

end SleepySensor.ThreadLink

/-! ## The awake time of the HP core -/

namespace SleepySensor.HpAwake

/-- The statics of `hp_awake_stats.cpp`; the sleep is kept in 64 bits. -/
structure AwakeStats where
  accumulatedSleepUs : Nat := 0
  periodStartUs : Int
  deriving DecidableEq, Repr

def onLightSleepExit (stats : AwakeStats) (sleepTimeUs : Int) : AwakeStats :=
  if 0 < sleepTimeUs then
    { stats with accumulatedSleepUs := (stats.accumulatedSleepUs + sleepTimeUs.toNat) % 2 ^ 64 }
  else stats

/-- `hp_awake_stats_get_and_reset_us` at a time; what slept is an `int64_t` there. -/
def getAndResetUs (now : Int) (stats : AwakeStats) : Nat × AwakeStats :=
  let slept := (stats.accumulatedSleepUs : Int).bmod (2 ^ 64)
  (u32 (max 0 (now - stats.periodStartUs - slept)).toNat,
    { accumulatedSleepUs := 0, periodStartUs := now })

/-- The light sleeps that are attempted before a read. -/
structure Period where
  sleeps : List Int
  now : Int

def AwakeStats.read (stats : AwakeStats) (period : Period) : Nat × AwakeStats :=
  getAndResetUs period.now (period.sleeps.foldl onLightSleepExit stats)

def AwakeStats.run (stats : AwakeStats) : List Period → List Nat
  | [] => []
  | period :: rest =>
    let read := stats.read period
    read.1 :: read.2.run rest

def sleptUs : List Int → Int
  | [] => 0
  | us :: rest => if 0 < us then us + sleptUs rest else sleptUs rest

/-- The sleeps fit the time they are in, and the rest of it a read. -/
def InTime : Int → List Period → Prop
  | _, [] => True
  | start, period :: rest =>
    start + sleptUs period.sleeps ≤ period.now ∧
      period.now - start - sleptUs period.sleeps < u32Mod ∧ sleptUs period.sleeps < 2 ^ 63 ∧
        InTime period.now rest

theorem sleptUs_nonneg (sleeps : List Int) : 0 ≤ sleptUs sleeps := by
  induction sleeps with
  | nil => exact le_refl _
  | cons us sleeps ih =>
    rw [sleptUs]
    split <;> omega

theorem foldl_sleeps {sleeps : List Int} {stats : AwakeStats}
    (small : stats.accumulatedSleepUs + sleptUs sleeps < 2 ^ 63) :
    ((sleeps.foldl onLightSleepExit stats).accumulatedSleepUs : Int) =
        stats.accumulatedSleepUs + sleptUs sleeps ∧
      (sleeps.foldl onLightSleepExit stats).periodStartUs = stats.periodStartUs := by
  induction sleeps generalizing stats with
  | nil => exact ⟨(add_zero _).symm, rfl⟩
  | cons us sleeps ih =>
    have rest := sleptUs_nonneg sleeps
    by_cases real : 0 < us
    · rw [sleptUs, if_pos real] at small ⊢
      have added : ((onLightSleepExit stats us).accumulatedSleepUs : Int) =
          stats.accumulatedSleepUs + us := by
        rw [onLightSleepExit, if_pos real]
        show (((stats.accumulatedSleepUs + us.toNat) % 2 ^ 64 : Nat) : Int) = _
        omega
      have started : (onLightSleepExit stats us).periodStartUs = stats.periodStartUs := by
        rw [onLightSleepExit, if_pos real]
      obtain ⟨sum, same⟩ := @ih (onLightSleepExit stats us) (by omega)
      rw [List.foldl_cons, sum, same, added]
      exact ⟨add_assoc _ _ _, started⟩
    · rw [sleptUs, if_neg real] at small ⊢
      have kept : onLightSleepExit stats us = stats := if_neg real
      rw [List.foldl_cons, kept]
      exact ih small

theorem read_exact {period : Period} {start : Int}
    (le : start + sleptUs period.sleeps ≤ period.now)
    (small : period.now - start - sleptUs period.sleeps < u32Mod)
    (slept : sleptUs period.sleeps < 2 ^ 63) :
    ((({ periodStartUs := start } : AwakeStats).read period).1 : Int) =
      period.now - start - sleptUs period.sleeps := by
  have nonneg := sleptUs_nonneg period.sleeps
  obtain ⟨sum, same⟩ := @foldl_sleeps period.sleeps { periodStartUs := start } (by
    show ((0 : Nat) : Int) + sleptUs period.sleeps < 2 ^ 63
    omega)
  have counted : ((period.sleeps.foldl onLightSleepExit
      { periodStartUs := start }).accumulatedSleepUs : Int) = sleptUs period.sleeps :=
    sum.trans (zero_add _)
  have started : (period.sleeps.foldl onLightSleepExit { periodStartUs := start }).periodStartUs =
      start := same
  have whole : (sleptUs period.sleeps).bmod (2 ^ 64) = sleptUs period.sleeps :=
    Int.bmod_eq_of_le (by omega) (by omega)
  obtain ⟨awake, awake_⟩ : ∃ awake, period.now - start - sleptUs period.sleeps = awake := ⟨_, rfl⟩
  rw [AwakeStats.read, getAndResetUs]
  dsimp only
  rw [counted, started, whole, awake_, max_eq_right (by omega)]
  have fits : awake.toNat < u32Mod := by omega
  rw [u32_of_lt fits]
  omega

/-- The awake times of the reads and all the sleeps together are the time that went by. -/
theorem awake_accounts {periods : List Period} {start : Int} (inTime : InTime start periods) :
    ((({ periodStartUs := start } : AwakeStats).run periods).sum : Int) +
        (periods.map fun period => sleptUs period.sleeps).sum =
      periods.getLast?.elim start Period.now - start := by
  induction periods generalizing start with
  | nil => simp [AwakeStats.run]
  | cons period rest ih =>
    obtain ⟨le, small, slept, later⟩ := inTime
    have here := read_exact le small slept
    have next := ih later
    have last : (period :: rest).getLast?.elim start Period.now =
        rest.getLast?.elim period.now Period.now := by
      cases rest with
      | nil => rfl
      | cons second rest =>
        rw [List.getLast?_cons_cons]
        cases found : (second :: rest).getLast? with
        | none => simp at found
        | some final => rfl
    have fresh : (({ periodStartUs := start } : AwakeStats).read period).2 =
        { periodStartUs := period.now } := rfl
    rw [AwakeStats.run, List.sum_cons, List.map_cons, List.sum_cons, last, Nat.cast_add, here,
      fresh]
    omega

theorem awake_accounts_twoCycles :
    ((({ periodStartUs := 5 } : AwakeStats).run
        [{ sleeps := [100, 0, 40], now := 205 }, { sleeps := [], now := 300 }]).sum : Int) + 140 =
      300 - 5 :=
  @awake_accounts [{ sleeps := [100, 0, 40], now := 205 }, { sleeps := [], now := 300 }] 5
    ⟨by decide, by decide, by decide, by decide, by decide, by decide, trivial⟩

end SleepySensor.HpAwake
