import SleepySensor.Lib.Calendar
import SleepySensor.Lib.FixedWidth
import SleepySensor.SecretsText

/-!
# The broker log of a device

`parse_raw` of `tools/mqtt_broker_log.py` with the lines that its recorder and
the older watcher write.  A `datetime` is in milliseconds from the first day of
the calendar on, no line being stamped finer.  Digits and blanks are those of
ASCII, and dates are not bounded above.
-/

set_option autoImplicit false

namespace SleepySensor.BrokerLog

open SleepySensor.Calendar SleepySensor.FixedWidth

def dayMs : Int := 86400000
def halfDay : Int := 43200000

def dateOf (t : Int) : Int := t / dayMs
def timeOf (t : Int) : Int := t % dayMs

def combine (day time : Int) : Int := day * dayMs + time

inductive ParseError where
  | valueError
  | noAnchor
  deriving DecidableEq, Repr

/-! ## The layouts of the lines -/

def dateLayout : Layout := [.number 4, .lit '-', .number 2, .lit '-', .number 2]
def clockLayout : Layout := [.number 2, .lit ':', .number 2, .lit ':', .number 2]
def timeLayout : Layout := clockLayout ++ [.lit '.', .number 3]

def isoLayout : Layout := dateLayout ++ .lit 'T' :: (timeLayout ++ [.lit 'Z', .lit ' '])

def legacyLayout : Layout := timeLayout ++ [.lit ' ']

def stampLayout : Layout := dateLayout ++ .lit ' ' :: (clockLayout ++ [.lit ':', .lit ' '])

/-- `LOG_LINE`: the level, the fields of the broker's stamp and the message. -/
def logLine (rest : Text) : Option (Text × List Nat × Text) :=
  match "LOG ".toList.isPrefixOf? rest with
  | none => none
  | some behind =>
    let level := behind.takeWhile fun c => !SecretsText.isSpace c
    match behind.dropWhile fun c => !SecretsText.isSpace c with
    | ' ' :: stamped =>
      if level = [] then none
      else (scan stampLayout stamped).map fun found => (level, found.1, found.2)
    | _ => none

def timeOfFields : List Nat → Except ParseError Int
  | [hour, minute, second, milli] =>
    if hour < 24 ∧ minute < 60 ∧ second < 60 then
      pure (((hour * 60 + minute) * 60 + second) * 1000 + milli : Nat)
    else throw .valueError
  | _ => throw .valueError

def dateOfFields : List Nat → Except ParseError Int
  | [year, month, day] =>
    if valid : 1 ≤ year ∧ (1 ≤ month ∧ month ≤ 12) ∧ 1 ≤ day ∧ day ≤ daysInMonth year month then
      pure (Date.number ⟨year, month, day, valid.1, valid.2.1, valid.2.2⟩ : Nat)
    else throw .valueError
  | _ => throw .valueError

def fromIso (fields : List Nat) : Except ParseError Int := do
  let day ← dateOfFields (fields.take 3)
  let time ← timeOfFields (fields.drop 3)
  pure (combine day time)

def fromStamp (fields : List Nat) : Except ParseError Int := do
  let day ← dateOfFields (fields.take 3)
  let time ← timeOfFields (fields.drop 3 ++ [0])
  pure (combine day time)

/-! ## `parse_raw` -/

/-- `round` of a number of seconds in hours: in the middle to the even hour. -/
def roundHours (seconds : Int) : Int :=
  if seconds % 3600 < 1800 then seconds / 3600
  else if 1800 < seconds % 3600 then seconds / 3600 + 1
  else if seconds / 3600 % 2 = 0 then seconds / 3600
  else seconds / 3600 + 1

/-- The whole hours that the broker's local time is taken to be ahead of UTC. -/
def offsetHours (broker : Int) (recv : Int) : Int :=
  let skew := timeOf broker / 1000 - recv / 1000
  let offset := roundHours (skew % 86400) % 24
  if 12 < offset then offset - 24 else offset

/-- The instant with this time of day that is nearest to the estimate. -/
def nearest (utcEst : Int) (recv : Int) : Int :=
  let cand := combine (dateOf utcEst) recv
  if halfDay < cand - utcEst then cand - dayMs
  else if halfDay < utcEst - cand then cand + dayMs
  else cand

/-- The instant at which a line with the broker's stamp came. -/
def anchorAt (broker : Int) (recv : Int) : Int :=
  nearest (broker - offsetHours broker recv * 3600000) recv

structure Reader where
  events : List (Int × Text) := []
  day : Option Int := none
  prevT : Option Int := none
  pending : List (List Nat × Text) := []

/-- The lines before the first anchor from the last one back, walking over
midnights. -/
def backDate : Int → Int → List (List Nat × Text) → Except ParseError (List (Int × Text))
  | _, _, [] => pure []
  | d, nxt, (fields, rest) :: earlier => do
    let ptime ← timeOfFields fields
    let d := if nxt < ptime ∧ halfDay < combine d ptime - combine d nxt then d - 1 else d
    let back ← backDate d ptime earlier
    pure ((combine d ptime, rest) :: back)

/-- A line of the older format with the broker's stamp. -/
def Reader.anchor (reader : Reader) (fields stamp : List Nat) (rest : Text) :
    Except ParseError Reader := do
  let broker ← fromStamp stamp
  let recv ← timeOfFields fields
  let cand := anchorAt broker recv
  let back ← match reader.day with
    | none => backDate (dateOf cand) recv reader.pending.reverse
    | some _ => pure []
  pure
    { events := reader.events ++ back.reverse ++ [(cand, rest)]
      day := some (dateOf cand)
      prevT := some cand
      pending := if reader.day = none then [] else reader.pending }

/-- A line of the older format without a stamp, on the day of the line before it
or, where the time of day jumps back by more than half a day, on the next. -/
def Reader.dated (reader : Reader) (day : Int) (fields : List Nat) (rest : Text) :
    Except ParseError Reader := do
  let time ← timeOfFields fields
  let dt := combine day time
  let rolls := reader.prevT.any fun prev => decide (halfDay < prev - dt)
  let dt := if rolls then dt + dayMs else dt
  pure
    { reader with
      events := reader.events ++ [(dt, rest)]
      day := some (if rolls then day + 1 else day)
      prevT := some dt }

def Reader.legacy (reader : Reader) (fields : List Nat) (rest : Text) : Except ParseError Reader :=
  match logLine rest with
  | some (_, stamp, _) => reader.anchor fields stamp rest
  | none =>
    match reader.day with
    | none => pure { reader with pending := reader.pending ++ [(fields, rest)] }
    | some day => reader.dated day fields rest

def Reader.readLine (reader : Reader) (raw : Text) : Except ParseError Reader :=
  let line := raw.rdropWhile fun c => c = '\n'
  match scan isoLayout line with
  | some (fields, rest) => do
    let t ← fromIso fields
    pure { reader with events := reader.events ++ [(t, rest)] }
  | none =>
    match scan legacyLayout line with
    | some (fields, rest) => reader.legacy fields rest
    | none => pure reader

/-- The UTC receive time and the rest of every raw line, of either format. -/
def parseRaw (lines : List Text) : Except ParseError (List (Int × Text)) := do
  let reader ← lines.foldlM Reader.readLine {}
  if reader.pending = [] then pure reader.events else throw .noAnchor

end SleepySensor.BrokerLog
