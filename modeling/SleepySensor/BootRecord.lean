import SleepySensor.Base
import SleepySensor.MqttTexts

/-!
# The boot record

The boot counter and the reset reason that `app_main` publishes: `initNvsFlash`
and the reboot markers of `common_utils.cpp`, `incrementBootCount` and
`resetReasonString` of `main.cpp`, over every run of boots.  The marker words
lie in memory that a software reset keeps and nothing zeroes.
-/

set_option autoImplicit false

namespace SleepySensor.BootRecord

open SleepySensor.FormatText (Text)
open SleepySensor.MqttTexts

/-! ## `common_utils.cpp` -/

def lpStallRebootMagic : Nat := 0x4C505354
def otaUnconfirmedRebootMagic : Nat := 0x4F544155

/-- The two words in RTC memory. -/
structure Markers where
  lpStall : Nat
  otaUnconfirmed : Nat
  deriving DecidableEq, Repr

def Markers.cleared : Markers := { lpStall := 0, otaUnconfirmed := 0 }

def markLpStallReboot (markers : Markers) : Markers :=
  { markers with lpStall := lpStallRebootMagic }

def markOtaUnconfirmedReboot (markers : Markers) : Markers :=
  { markers with otaUnconfirmed := otaUnconfirmedRebootMagic }

def consumeLpStallRebootMarker (markers : Markers) : Bool × Markers :=
  (markers.lpStall == lpStallRebootMagic, { markers with lpStall := 0 })

def consumeOtaUnconfirmedRebootMarker (markers : Markers) : Bool × Markers :=
  (markers.otaUnconfirmed == otaUnconfirmedRebootMagic, { markers with otaUnconfirmed := 0 })

inductive FlashInit where
  | ok
  | noFreePages
  | newVersionFound
  | failed
  deriving DecidableEq, Repr

structure Flash where
  ret1 : FlashInit
  erases : Bool
  ret2 : FlashInit
  deriving DecidableEq, Repr

inductive FlashResult where
  | returned (code : FlashInit)
  | aborted
  deriving DecidableEq, Repr

/-- The result, and whether the store was erased.  Behind a second init that
succeeds the code of the first one is still tested. -/
def initNvsFlash (flash : Flash) : FlashResult × Bool :=
  if flash.ret1 = .noFreePages ∨ flash.ret1 = .newVersionFound then
    if flash.erases then
      if flash.ret2 ≠ .ok then (.returned flash.ret2, true)
      else if flash.ret1 ≠ .ok then (.returned flash.ret1, true)
      else (.returned .ok, true)
    else (.aborted, false)
  else if flash.ret1 ≠ .ok then (.returned flash.ret1, false)
  else (.returned .ok, false)

/-! ## `main.cpp` -/

/-- What the store answers to `incrementBootCount`.  Where the write is taken
and its commit fails, `keeps` tells whether it is there after the boot. -/
structure Counter where
  opens : Bool
  sets : Bool
  commits : Bool
  keeps : Bool
  deriving DecidableEq, Repr

def Counter.persists (counter : Counter) : Bool :=
  counter.opens && counter.sets && (counter.commits || counter.keeps)

def incrementBootCount (stored : Option Nat) (counter : Counter) : Nat × Option Nat :=
  if counter.opens then
    let count := (stored.getD 0 + 1) % u32Mod
    (count, if counter.persists then some count else stored)
  else (0, stored)

/-- What a device is between two resets. -/
structure Device where
  markers : Markers
  bootCount : Option Nat
  deriving DecidableEq, Repr

/-- What a boot publishes of itself. -/
structure Record where
  bootCount : Nat
  resetReason : Text
  deriving DecidableEq, Repr

def recordBoot (device : Device) (reason : EspResetReason) (counter : Counter) :
    Record × Device :=
  let counted := incrementBootCount device.bootCount counter
  let lpStall := consumeLpStallRebootMarker device.markers
  let otaUnconfirmed := consumeOtaUnconfirmedRebootMarker lpStall.2
  ({ bootCount := counted.1
     resetReason :=
      (resetReasonString reason lpStall.1 otaUnconfirmed.1).take mqttMaxResetReasonLen },
    { markers := otaUnconfirmed.2, bootCount := counted.2 })

/-! ## Runs of boots -/

inductive Supervisor where
  | lpStall
  | otaUnconfirmed
  deriving DecidableEq, Repr

def Supervisor.mark : Supervisor → Markers → Markers
  | .lpStall => markLpStallReboot
  | .otaUnconfirmed => markOtaUnconfirmedReboot

/-- A reset that is no software reset, with what it leaves in the two words. -/
structure Reset where
  cause : EspResetReason
  other : cause ≠ .sw
  markers : Markers

/-- How a boot ends.  `esp_restart` is called by a supervisor that has marked,
or by a finished update; an update in the other task may come between the mark
and the supervisor's own call. -/
inductive Ending where
  | restart (marked : Option Supervisor)
  | reset (marked : Option Supervisor) (by_ : Reset)

/-- How far a boot gets, apart from the flash.  The tasks that call
`esp_restart` run only in a boot that has made its record. -/
inductive Course where
  | stopsBefore (ends : Reset)
  | records (counter : Counter) (ends : Ending)

structure Boot where
  flash : Flash
  course : Course
  /-- What ends a boot that returns or aborts at the flash. -/
  idle : Reset

def Reset.after (ends : Reset) (bootCount : Option Nat) : EspResetReason × Device :=
  (ends.cause, { markers := ends.markers, bootCount := bootCount })

def Ending.after (device : Device) : Ending → EspResetReason × Device
  | .restart none => (.sw, device)
  | .restart (some supervisor) =>
    (.sw, { device with markers := supervisor.mark device.markers })
  | .reset _ by_ => by_.after device.bootCount

/-- One boot: its record, if it makes one, and what the next one finds. -/
def Boot.run (boot : Boot) (reason : EspResetReason) (device : Device) :
    Option Record × EspResetReason × Device :=
  let flash := initNvsFlash boot.flash
  let stored := if flash.2 then none else device.bootCount
  match flash.1 with
  | .returned .ok =>
    match boot.course with
    | .stopsBefore ends => (none, ends.after stored)
    | .records counter ends =>
      let made := recordBoot { device with bootCount := stored } reason counter
      (some made.1, ends.after made.2)
  | _ => (none, boot.idle.after stored)

def runBoots : EspResetReason → Device → List Boot →
    List (Option Record) × EspResetReason × Device
  | reason, device, [] => ([], reason, device)
  | reason, device, boot :: boots =>
    let ran := boot.run reason device
    let others := runBoots ran.2.1 ran.2.2 boots
    (ran.1 :: others.1, others.2)

/-! ## What the records should say -/

inductive Cause where
  | chip (reason : EspResetReason)
  | supervisor (by_ : Supervisor)
  deriving DecidableEq, Repr

def Cause.text : Cause → Text
  | .chip reason => resetReasonString reason false false
  | .supervisor .lpStall => FormatText.bytes "lp_stall_reboot"
  | .supervisor .otaUnconfirmed => FormatText.bytes "ota_unconfirmed"

def Ending.cause : Ending → Cause
  | .restart none => .chip .sw
  | .restart (some supervisor) => .supervisor supervisor
  | .reset _ by_ => .chip by_.cause

namespace Boot

variable (boot : Boot)

def counter : Option Counter :=
  match boot.flash.ret1, boot.course with
  | .ok, .records counter _ => some counter
  | _, _ => none

def erases : Bool :=
  boot.flash.erases &&
    (boot.flash.ret1 = .noFreePages || boot.flash.ret1 = .newVersionFound)

def persists : Bool := boot.counter.any Counter.persists

def cause : Cause :=
  match boot.flash.ret1, boot.course with
  | .ok, .stopsBefore ends => .chip ends.cause
  | .ok, .records _ ends => ends.cause
  | _, _ => .chip boot.idle.cause

end Boot

/-- The boots behind the last one that erased the store. -/
def sinceErased (boots : List Boot) : List Boot :=
  (boots.reverse.takeWhile fun boot => !boot.erases).reverse

/-- How many boots were counted since, on top of what the store had held. -/
def counted (stored : Option Nat) (boots : List Boot) : Nat :=
  (if boots.any Boot.erases then 0 else stored.getD 0) +
    (sinceErased boots).countP Boot.persists

/-- The record that belongs to a boot with these boots before it. -/
def Boot.expected (reason : EspResetReason) (stored : Option Nat) (before : List Boot)
    (boot : Boot) : Option Record :=
  boot.counter.map fun counter =>
    { bootCount := if counter.opens then (counted stored before + 1) % u32Mod else 0
      resetReason := (before.getLast?.elim (.chip reason) Boot.cause).text }

/-! ## One boot -/

/-- The two words and the chip's reason tell a cause. -/
def Tells (cause : Cause) (reason : EspResetReason) (markers : Markers) : Prop :=
  resetReasonString reason (consumeLpStallRebootMarker markers).1
    (consumeOtaUnconfirmedRebootMarker markers).1 = cause.text

theorem tells_chip {reason : EspResetReason} (other : reason ≠ .sw) (markers : Markers) :
    Tells (.chip reason) reason markers := by
  unfold Tells Cause.text
  cases reason
  case sw => exact absurd rfl other
  all_goals rfl

theorem Ending.tells (ends : Ending) (bootCount : Option Nat) :
    Tells ends.cause (ends.after { markers := .cleared, bootCount := bootCount }).1
      (ends.after { markers := .cleared, bootCount := bootCount }).2.markers := by
  cases ends with
  | restart marked =>
    cases marked with
    | none => rfl
    | some supervisor => cases supervisor <;> rfl
  | reset marked by_ => exact tells_chip by_.other by_.markers

theorem Ending.after_bootCount (ends : Ending) (device : Device) :
    (ends.after device).2.bootCount = device.bootCount := by
  cases ends with
  | restart marked => cases marked <;> rfl
  | reset marked by_ => rfl

theorem take_text (cause : Cause) : cause.text.take mqttMaxResetReasonLen = cause.text := by
  apply List.take_of_length_le
  cases cause with
  | chip reason => cases reason <;> decide
  | supervisor by_ => cases by_ <;> decide

/-- `app_main` goes on exactly when the first init of the flash succeeds. -/
theorem initNvsFlash_eq (boot : Boot) :
    (boot.flash.ret1 = .ok ∧ initNvsFlash boot.flash = (.returned .ok, false)) ∨
      (boot.flash.ret1 ≠ .ok ∧ (initNvsFlash boot.flash).1 ≠ .returned .ok ∧
        (initNvsFlash boot.flash).2 = boot.erases) := by
  unfold initNvsFlash Boot.erases
  cases first : boot.flash.ret1 with
  | ok => exact .inl ⟨rfl, rfl⟩
  | failed =>
    right
    simp
  | noFreePages =>
    right
    cases boot.flash.erases <;> cases boot.flash.ret2 <;> simp
  | newVersionFound =>
    right
    cases boot.flash.erases <;> cases boot.flash.ret2 <;> simp

theorem incrementBootCount_eq (stored : Option Nat) (counter : Counter) :
    incrementBootCount stored counter =
      (if counter.opens then (stored.getD 0 + 1) % u32Mod else 0,
        if counter.persists then some ((stored.getD 0 + 1) % u32Mod) else stored) := by
  unfold incrementBootCount Counter.persists
  cases counter.opens <;> rfl

def Boot.stores (boot : Boot) (stored : Option Nat) : Option Nat :=
  if boot.erases then none
  else if boot.persists then some ((stored.getD 0 + 1) % u32Mod) else stored

/-- What one boot does: its record names the cause that the words tell, and the
words it leaves tell its own. -/
theorem Boot.run_spec (boot : Boot) {cause : Cause} {reason : EspResetReason} {device : Device}
    (tells : Tells cause reason device.markers) :
    (boot.run reason device).1 = (boot.counter.map fun counter =>
        { bootCount :=
            if counter.opens then (device.bootCount.getD 0 + 1) % u32Mod else 0
          resetReason := cause.text }) ∧
      Tells boot.cause (boot.run reason device).2.1 (boot.run reason device).2.2.markers ∧
        (boot.run reason device).2.2.bootCount = boot.stores device.bootCount := by
  rcases initNvsFlash_eq boot with ⟨first, ok⟩ | ⟨first, failed, erased⟩
  · have kept : boot.erases = false := by simp [Boot.erases, first]
    unfold Boot.run Boot.stores Boot.persists Boot.counter Boot.cause
    rw [ok, kept, first]
    cases boot.course with
    | stopsBefore ends => exact ⟨rfl, tells_chip ends.other _, rfl⟩
    | records counter ends =>
      refine ⟨?_, Ending.tells ends _, ?_⟩
      · have made : resetReasonString reason (consumeLpStallRebootMarker device.markers).1
            (consumeOtaUnconfirmedRebootMarker
              (consumeLpStallRebootMarker device.markers).2).1 = cause.text := tells
        simp only [recordBoot, incrementBootCount_eq, Option.map_some, Bool.false_eq_true,
          if_false]
        rw [made, take_text]
      · rw [Ending.after_bootCount]
        simp [recordBoot, incrementBootCount_eq]
  · have none_ : boot.counter = none := by
      unfold Boot.counter
      cases ret1 : boot.flash.ret1 with
      | ok => exact absurd ret1 first
      | _ => rfl
    have idle : boot.cause = .chip boot.idle.cause := by
      unfold Boot.cause
      cases ret1 : boot.flash.ret1 with
      | ok => exact absurd ret1 first
      | _ => rfl
    have ran : boot.run reason device =
        (none, boot.idle.after (if boot.erases then none else device.bootCount)) := by
      unfold Boot.run
      dsimp only
      rw [erased]
      split
      case h_1 returned => exact absurd returned failed
      case h_2 => rfl
    rw [ran, none_, idle]
    refine ⟨rfl, tells_chip boot.idle.other _, ?_⟩
    simp [Reset.after, Boot.stores, Boot.persists, none_]

/-! ## All boots -/

theorem sinceErased_concat (boots : List Boot) (boot : Boot) :
    sinceErased (boots ++ [boot]) = if boot.erases then [] else sinceErased boots ++ [boot] := by
  unfold sinceErased
  rw [List.reverse_concat, List.takeWhile_cons]
  cases boot.erases <;> simp

theorem stored_counted {stored : Option Nat} (word : stored.getD 0 < u32Mod) (boots : List Boot) :
    (boots.foldl (fun before boot => boot.stores before) stored).getD 0 =
      counted stored boots % u32Mod := by
  induction boots using List.reverseRecOn with
  | nil =>
    simp [counted, sinceErased, Nat.mod_eq_of_lt word]
  | append_singleton boots boot ih =>
    rw [List.foldl_concat, Boot.stores, counted, sinceErased_concat]
    cases erased : boot.erases with
    | true =>
      simp [erased]
    | false =>
      rw [List.any_append, List.any_cons, List.any_nil, erased]
      simp only [Bool.false_eq_true, if_false, Bool.or_false, List.countP_append]
      rw [List.countP_singleton]
      cases boot.persists with
      | true =>
        have sum : counted stored boots + 1 =
            (if boots.any Boot.erases then 0 else stored.getD 0) +
              ((sinceErased boots).countP Boot.persists + 1) := by
          rw [counted, Nat.add_assoc]
        rw [if_pos rfl, if_pos rfl, Option.getD_some, ih, ← sum, Nat.mod_add_mod]
      | false => simpa [counted] using ih

theorem runBoots_append (reason : EspResetReason) (device : Device) (before boots : List Boot) :
    runBoots reason device (before ++ boots) =
      ((runBoots reason device before).1 ++
          (runBoots (runBoots reason device before).2.1
            (runBoots reason device before).2.2 boots).1,
        (runBoots (runBoots reason device before).2.1
          (runBoots reason device before).2.2 boots).2) := by
  induction before generalizing reason device with
  | nil => rfl
  | cons boot before ih =>
    rw [List.cons_append, runBoots, ih]
    rfl

def lastCause (reason : EspResetReason) (before : List Boot) : Cause :=
  before.getLast?.elim (.chip reason) Boot.cause

theorem runBoots_tells {reason : EspResetReason} (device : Device) (fresh : reason ≠ .sw)
    (boots : List Boot) :
    Tells (lastCause reason boots) (runBoots reason device boots).2.1
        (runBoots reason device boots).2.2.markers ∧
      (runBoots reason device boots).2.2.bootCount =
        boots.foldl (fun before boot => boot.stores before) device.bootCount ∧
      (runBoots reason device boots).1.length = boots.length := by
  induction boots using List.reverseRecOn with
  | nil => exact ⟨tells_chip fresh _, rfl, rfl⟩
  | append_singleton boots boot ih =>
    obtain ⟨tells, stored, length⟩ := ih
    obtain ⟨-, told, stores⟩ := boot.run_spec tells
    rw [runBoots_append, List.foldl_concat, ← stored]
    refine ⟨?_, stores, ?_⟩
    · rw [lastCause, List.getLast?_concat]
      exact told
    · simp [runBoots, length]

/-- A boot that the LP supervisor ends; the words hold garbage before the first. -/
def stallBoot : Boot where
  flash := { ret1 := .ok, erases := true, ret2 := .ok }
  course := .records { opens := true, sets := true, commits := true, keeps := true }
    (.restart (some .lpStall))
  idle :=
    { cause := .powerOn, other := by decide
      markers := { lpStall := 7, otaUnconfirmed := 9 } }

end SleepySensor.BootRecord
