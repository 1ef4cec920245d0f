import SleepySensor.Base

/-!
# The blackout history log

The ring of `history_log.cpp`: two free-running 32-bit counters over 8192 slots.
The sensor task appends, the publish task peeks and advances; a producer that
laps the consumer overwrites the oldest records.
-/

set_option autoImplicit false

namespace SleepySensor

structure LogRecord where
  capturedUs : Int := 0
  tempC : Flt := .fin 0
  humPct : Flt := .fin 0
  deriving DecidableEq, Repr

structure HistoryLogEntry where
  agoSec : Nat
  tempC : Flt
  humPct : Flt
  deriving DecidableEq, Repr

structure HistoryLog where
  ring : Nat → LogRecord := fun _ => {}
  head : Nat := 0
  tail : Nat := 0

namespace HistoryLog

def capacity : Nat := 8192

def ringIndex (counter : Nat) : Nat := counter % capacity

theorem u32_add (counter more : Nat) : u32 (u32 counter + more) = u32 (counter + more) :=
  Nat.mod_add_mod counter u32Mod more

theorem ringIndex_u32 (counter : Nat) : ringIndex (u32 counter) = counter % capacity := by
  simp only [ringIndex, u32, u32Mod, capacity]
  omega

def correctedTail (head tail : Nat) : Nat :=
  if capacity < u32Sub head tail then u32Sub head capacity else tail

def toEntry (record : LogRecord) (nowUs : Int) : HistoryLogEntry :=
  let agoUs := nowUs - record.capturedUs
  { agoSec := if agoUs > 0 then u32 (agoUs / 1000000).toNat else 0
    tempC := record.tempC, humPct := record.humPct }

/-- `history_log_append` at the time `nowUs`. -/
def append (log : HistoryLog) (nowUs : Int) (tempC humPct : Flt) : HistoryLog :=
  let record : LogRecord := { capturedUs := nowUs, tempC := tempC, humPct := humPct }
  { log with
    ring := fun slot => if slot = ringIndex log.head then record else log.ring slot
    head := u32 (log.head + 1) }

def hasPending (log : HistoryLog) : Bool := log.head != log.tail

/-- `history_log_peek_batch` into room for `room` entries: the pending range as the
piece up to the physical end of the ring and the piece after it. -/
def peekBatch (log : HistoryLog) (nowUs : Int) (room : Nat) :
    HistoryLog × List HistoryLogEntry :=
  let tail := correctedTail log.head log.tail
  let count := min (u32Sub log.head tail) room
  let tailIdx := ringIndex tail
  let firstChunk := min count (capacity - tailIdx)
  let chunk1 := (List.range' tailIdx firstChunk).map log.ring
  let chunk2 := (List.range' 0 (count - firstChunk)).map log.ring
  ({ log with tail := tail }, (chunk1 ++ chunk2).map fun record => toEntry record nowUs)

@[simp] theorem peekBatch_log (log : HistoryLog) (nowUs : Int) (room : Nat) :
    (log.peekBatch nowUs room).1 = { log with tail := correctedTail log.head log.tail } := rfl

def advance (log : HistoryLog) (count : Nat) : HistoryLog :=
  { log with tail := u32 (log.tail + count) }

end HistoryLog

end SleepySensor
