import SleepySensor.Base

/-!
# The RTC_SLOW reproducer

`rtc_slow_cal_repro.c`: the light sleep callbacks, the report line and the loop
of `app_main`.  What the chip answers (the sleeps that the power manager tries,
the calibration readings, the timers and the die temperature) comes with each
wake.
-/

set_option autoImplicit false

namespace SleepySensor.RtcRepro

/-- One attempt of the power manager to sleep, with the app's readings around it.
It counts 0 µs where the sleep is skipped. -/
structure Attempt where
  entryCal : Nat
  sleptUs : Int
  wakeCal : Nat
  deriving DecidableEq, Repr

structure Statics where
  sleptUs : Int := 0
  sleeps : Nat := 0
  entryCal : Nat := 0
  wakeCal : Nat := 0
  entryCalPending : Nat := 0
  deriving DecidableEq, Repr

def onLightSleepEnter (cal : Nat) (statics : Statics) : Statics :=
  { statics with entryCalPending := cal }

def onLightSleepExit (sleptUs : Int) (cal : Nat) (statics : Statics) : Statics :=
  if 0 < sleptUs then
    { statics with
      sleptUs := statics.sleptUs + sleptUs
      sleeps := u32 (statics.sleeps + 1)
      entryCal := statics.entryCalPending
      wakeCal := cal }
  else statics

def Statics.attempt (statics : Statics) (attempt : Attempt) : Statics :=
  onLightSleepExit attempt.sleptUs attempt.wakeCal (onLightSleepEnter attempt.entryCal statics)

/-- What a report line shows; the die temperature is in tenths of a degree and
absent where the sensor fails. -/
structure Report where
  n : Nat
  timer : Int
  cal : Nat
  die : Option Int
  requestedMs : Nat
  sleptUs : Int
  sleeps : Nat
  entryCal : Nat
  wakeCal : Nat
  busyMs : Nat
  overruns : Nat
  deriving DecidableEq, Repr

def decimal (value : Int) : List Char :=
  if value < 0 then '-' :: Nat.toDigits 10 value.natAbs else Nat.toDigits 10 value.natAbs

/-- The fields of a line in their order, the name before the equals sign. -/
def Report.fields (report : Report) : List (List Char × Int) :=
  let before : List (List Char × Int) :=
    [("n".toList, report.n), ("t".toList, report.timer), ("c".toList, report.cal)]
  let die : List (List Char × Int) := report.die.toList.map fun die => ("d".toList, die)
  let behind : List (List Char × Int) :=
    [("r".toList, report.requestedMs), ("s".toList, report.sleptUs), ("k".toList, report.sleeps),
      ("e".toList, report.entryCal), ("w".toList, report.wakeCal), ("b".toList, report.busyMs)]
  let overruns : List (List Char × Int) :=
    if 0 < report.overruns then [("o".toList, report.overruns)] else []
  before ++ die ++ behind ++ overruns

/-- The line that `printf` prints, without its newline. -/
def Report.line (report : Report) : List Char :=
  'C' :: report.fields.flatMap fun field => ' ' :: field.1 ++ '=' :: decimal field.2

/-- `report`: the line, and what it clears. -/
def report (n requestedMs busyMs overruns : Nat) (die : Option Int) (timer : Int) (cal : Nat)
    (statics : Statics) : Report × Statics :=
  ({ n := n
     timer := timer
     cal := cal
     die := die
     requestedMs := requestedMs
     sleptUs := statics.sleptUs
     sleeps := statics.sleeps
     entryCal := statics.entryCal
     wakeCal := statics.wakeCal
     busyMs := busyMs
     overruns := overruns },
    { statics with sleptUs := 0, sleeps := 0 })

/-! ## `app_main` -/

def kBusyMs : List Nat := [10, 10, 200, 200]

structure Wake where
  sleepMs : Nat
  attempts : List Attempt
  die : Option Int
  timer : Int
  cal : Nat
  inTime : Bool

structure App where
  n : Nat := 1
  overruns : Nat := 0
  statics : Statics := {}

def busyMs (n : Nat) : Nat := kBusyMs.getD (u32Sub n 1 % kBusyMs.length) 0

/-- One turn of the loop, with the line that it prints. -/
def App.wake (reportEvery : Nat) (app : App) (wake : Wake) : Option Report × App :=
  let statics := wake.attempts.foldl Statics.attempt app.statics
  let busy := busyMs app.n
  let printed := report app.n wake.sleepMs busy app.overruns wake.die wake.timer wake.cal statics
  let overruns := if wake.inTime then app.overruns else u32 (app.overruns + 1)
  if app.n % reportEvery = 0 then (some printed.1, ⟨u32 (app.n + 1), overruns, printed.2⟩)
  else (none, ⟨u32 (app.n + 1), overruns, statics⟩)

def App.run (reportEvery : Nat) (app : App) : List Wake → List Report
  | [] => []
  | wake :: rest =>
    let turn := app.wake reportEvery wake
    turn.1.toList ++ turn.2.run reportEvery rest

/-! ## What the lines account for -/

def slept (attempts : List Attempt) : List Attempt :=
  attempts.filter fun attempt => 0 < attempt.sleptUs

/-- The line counts these attempts: all the time in them, and the readings around
the last of them. -/
def Describes (attempts : List Attempt) (report : Report) : Prop :=
  report.sleptUs = ((slept attempts).map Attempt.sleptUs).sum ∧
    report.sleeps = u32 (slept attempts).length ∧
    ∀ last ∈ (slept attempts).getLast?,
      report.entryCal = last.entryCal ∧ report.wakeCal = last.wakeCal

structure Pending (attempts : List Attempt) (statics : Statics) : Prop where
  sleptUs : statics.sleptUs = ((slept attempts).map Attempt.sleptUs).sum
  sleeps : statics.sleeps = u32 (slept attempts).length
  readings : ∀ last ∈ (slept attempts).getLast?,
    statics.entryCal = last.entryCal ∧ statics.wakeCal = last.wakeCal

theorem Pending.nil {statics : Statics} (sleptUs : statics.sleptUs = 0)
    (sleeps : statics.sleeps = 0) :
    Pending [] statics :=
  ⟨sleptUs, sleeps, fun last member => absurd member (by simp [slept])⟩

theorem Pending.attempt {attempts : List Attempt} {statics : Statics}
    (pending : Pending attempts statics)
    (next : Attempt) : Pending (attempts ++ [next]) (statics.attempt next) := by
  obtain ⟨sleptUs, sleeps, readings⟩ := pending
  by_cases real : 0 < next.sleptUs
  · have more : slept (attempts ++ [next]) = slept attempts ++ [next] := by
      simp [slept, real]
    have after : statics.attempt next =
        { sleptUs := statics.sleptUs + next.sleptUs
          sleeps := u32 (statics.sleeps + 1)
          entryCal := next.entryCal
          wakeCal := next.wakeCal
          entryCalPending := next.entryCal } := by
      rw [Statics.attempt, onLightSleepExit, if_pos real]
      rfl
    rw [after]
    constructor
    · rw [more, List.map_append, List.sum_append, ← sleptUs]
      simp
    · rw [more, List.length_append, sleeps]
      unfold u32 u32Mod
      simp only [List.length_singleton]
      omega
    · rw [more]
      intro last member
      obtain rfl : next = last := by simpa using member
      exact ⟨rfl, rfl⟩
  · have same : slept (attempts ++ [next]) = slept attempts := by
      simp [slept, real]
    have after : statics.attempt next = { statics with entryCalPending := next.entryCal } := by
      rw [Statics.attempt, onLightSleepExit, if_neg real]
      rfl
    rw [after]
    exact ⟨same ▸ sleptUs, same ▸ sleeps, same ▸ readings⟩

theorem Pending.attempts {attempts : List Attempt} {statics : Statics}
    (pending : Pending attempts statics) (more : List Attempt) :
    Pending (attempts ++ more) (more.foldl Statics.attempt statics) := by
  induction more generalizing attempts statics with
  | nil =>
    rw [List.append_nil]
    exact pending
  | cons next more ih =>
    have later := ih (pending.attempt next)
    rw [List.append_assoc] at later
    exact later

/-- Whether the wake of this number prints a line. -/
def Due (reportEvery : Nat) (wake : Wake × Nat) : Prop := u32 wake.2 % reportEvery = 0

/-- The wakes behind the line before, up to the one that prints the line. -/
structure LineOf (reportEvery : Nat) (window : List (Wake × Nat)) (line : Report) : Prop where
  quiet : ∀ wake ∈ window.dropLast, ¬Due reportEvery wake
  last : ∃ wake ∈ window.getLast?, Due reportEvery wake ∧ line.n = u32 wake.2 ∧
    line.timer = wake.1.timer ∧ line.cal = wake.1.cal ∧ line.die = wake.1.die ∧
      line.requestedMs = wake.1.sleepMs
  counts : Describes (window.flatMap fun wake => wake.1.attempts) line

theorem u32_succ (number : Nat) : u32 (u32 number + 1) = u32 (number + 1) := by
  unfold u32
  exact Nat.mod_add_mod number u32Mod 1

theorem lineOf_wake {reportEvery number : Nat} {app : App} {pending : List (Wake × Nat)}
    {wake : Wake}
    (numbered : app.n = u32 number) (due : Due reportEvery (wake, number))
    (quiet : ∀ earlier ∈ pending, ¬Due reportEvery earlier)
    (slept_ : Pending ((pending ++ [(wake, number)]).flatMap fun wake => wake.1.attempts)
      (wake.attempts.foldl Statics.attempt app.statics)) :
    LineOf reportEvery (pending ++ [(wake, number)])
      (report app.n wake.sleepMs (busyMs app.n) app.overruns wake.die wake.timer wake.cal
        (wake.attempts.foldl Statics.attempt app.statics)).1 where
  quiet := by
    rw [List.dropLast_concat]
    exact quiet
  last := ⟨(wake, number), by simp, due, numbered, rfl, rfl, rfl, rfl⟩
  counts := ⟨slept_.sleptUs, slept_.sleeps, slept_.readings⟩

theorem run_accounts (reportEvery : Nat) (wakes : List Wake) {app : App} {number : Nat}
    {pending : List (Wake × Nat)} (numbered : app.n = u32 number)
    (quiet : ∀ wake ∈ pending, ¬Due reportEvery wake)
    (held : Pending (pending.flatMap fun wake => wake.1.attempts) app.statics) :
    ∃ windows left, windows.flatten ++ left = pending ++ wakes.zipIdx number ∧
      (∀ wake ∈ left, ¬Due reportEvery wake) ∧
      List.Forall₂ (LineOf reportEvery) windows (app.run reportEvery wakes) := by
  induction wakes generalizing app number pending with
  | nil => exact ⟨[], pending, by simp, quiet, List.Forall₂.nil⟩
  | cons wake wakes ih =>
    have slept_ : Pending ((pending ++ [(wake, number)]).flatMap fun wake => wake.1.attempts)
        (wake.attempts.foldl Statics.attempt app.statics) := by
      have more := held.attempts wake.attempts
      simpa using more
    have numbered' : u32 (app.n + 1) = u32 (number + 1) := by
      rw [numbered, u32_succ]
    rw [List.zipIdx_cons, ← List.singleton_append, ← List.append_assoc]
    by_cases due : app.n % reportEvery = 0
    · have due' : Due reportEvery (wake, number) := by
        rw [Due, ← numbered]
        exact due
      obtain ⟨windows, left, all, rest, lines⟩ :=
        @ih (app.wake reportEvery wake).2 (number + 1) [] (by
          rw [App.wake, if_pos due]
          exact numbered') (by simp) (by
          rw [App.wake, if_pos due]
          exact Pending.nil rfl rfl)
      refine ⟨(pending ++ [(wake, number)]) :: windows, left, ?_, rest, ?_⟩
      · rw [List.flatten_cons, List.append_assoc, all, List.nil_append]
      · rw [App.run, App.wake, if_pos due]
        rw [App.wake, if_pos due] at lines
        exact List.Forall₂.cons (lineOf_wake numbered due' quiet slept_) lines
    · obtain ⟨windows, left, all, rest, lines⟩ :=
        @ih (app.wake reportEvery wake).2 (number + 1) (pending ++ [(wake, number)]) (by
          rw [App.wake, if_neg due]
          exact numbered') (by
          intro earlier member
          rcases List.mem_append.mp member with before | here
          · exact quiet earlier before
          · rw [List.mem_singleton.mp here, Due, ← numbered]
            exact due) (by
          rw [App.wake, if_neg due]
          exact slept_)
      refine ⟨windows, left, all, rest, ?_⟩
      rw [App.run, App.wake, if_neg due]
      rw [App.wake, if_neg due] at lines
      exact lines

/-- From boot on, the numbered wakes fall into consecutive windows, each up to the
wake that prints a line, and wakes behind the last line.  A line counts the sleeps
of its window and no others. -/
theorem run_lines (reportEvery : Nat) (wakes : List Wake) :
    ∃ windows left, windows.flatten ++ left = wakes.zipIdx 1 ∧
      (∀ wake ∈ left, ¬Due reportEvery wake) ∧
      List.Forall₂ (LineOf reportEvery) windows (({} : App).run reportEvery wakes) :=
  @run_accounts reportEvery wakes {} 1 [] rfl (by simp) (Pending.nil rfl rfl)

end SleepySensor.RtcRepro
