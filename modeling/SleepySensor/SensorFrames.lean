import SleepySensor.LpCore
import SleepySensor.Lib.Crc

/-!
# Frames of the sensor

What the checksums of an SHT4x answer let through: a frame that is not the one
the sensor sent differs from it in four bits at least, and not within eight in a
row.
-/

set_option autoImplicit false

namespace SleepySensor.LpCore

open Crc

/-- The polynomial of `crc8`. -/
def poly : BitVec 8 := 0x31#8

def bitsOf (byte : UInt8) : List Bool := (List.range 8).map fun i => byte.toBitVec.getMsbD i

def bitsOfBytes (bytes : List UInt8) : List Bool := bytes.flatMap bitsOf

/-! ## `crc8` as a register -/

theorem crc8Bit_step (crc : UInt8) : (crc8Bit crc).toBitVec = step poly crc.toBitVec false := by
  have all : ∀ bits : BitVec 8, (crc8Bit ⟨bits⟩).toBitVec = step poly bits false := by
    decide +kernel
  exact all crc.toBitVec

theorem iterate_feed (n : Nat) (crc : UInt8) :
    (Nat.iterate crc8Bit n crc).toBitVec = feed poly crc.toBitVec (List.replicate n false) := by
  induction n generalizing crc with
  | zero => rfl
  | succ n ih =>
    have later := ih (crc8Bit crc)
    rw [crc8Bit_step] at later
    exact later

theorem bitsOf_length (byte : UInt8) : (bitsOf byte).length = 8 := by
  rw [bitsOf, List.length_map, List.length_range]

/-- A byte that is fed bit by bit, and one that is added before eight zeros. -/
theorem feed_bitsOf (byte : UInt8) :
    feed poly 0#8 (bitsOf byte) = feed poly byte.toBitVec (List.replicate 8 false) := by
  have all : ∀ bits : BitVec 8,
      feed poly 0#8 (bitsOf ⟨bits⟩) = feed poly bits (List.replicate 8 false) := by
    decide +kernel
  exact all byte.toBitVec

theorem zipWith_zeros {bits : List Bool} {n : Nat} (length : bits.length = n) :
    (List.replicate n false).zipWith (· ^^ ·) bits = bits := by
  induction bits generalizing n with
  | nil =>
    obtain rfl : 0 = n := length
    rfl
  | cons bit bits ih =>
    obtain rfl : bits.length + 1 = n := length
    rw [List.replicate_succ, List.zipWith_cons_cons, ih rfl, Bool.false_xor]

theorem crc8Byte_feed (crc byte : UInt8) :
    (crc8Byte crc byte).toBitVec = feed poly crc.toBitVec (bitsOf byte) := by
  have split := feed_xor poly (List.replicate 8 false) (bitsOf byte)
    (by rw [bitsOf_length, List.length_replicate]) crc.toBitVec 0#8
  have added := feed_xor poly (List.replicate 8 false) (List.replicate 8 false) rfl
    crc.toBitVec byte.toBitVec
  rw [zipWith_zeros (bitsOf_length byte), BitVec.xor_zero, feed_bitsOf] at split
  rw [zipWith_zeros List.length_replicate] at added
  rw [crc8Byte, iterate_feed, UInt8.toBitVec_xor, added, split]

theorem crc8_feed (bytes : List UInt8) :
    (crc8 bytes).toBitVec = feed poly 0xFF#8 (bitsOfBytes bytes) := by
  have from_ : ∀ (bytes : List UInt8) (crc : UInt8),
      (bytes.foldl crc8Byte crc).toBitVec = feed poly crc.toBitVec (bitsOfBytes bytes) := by
    intro bytes
    induction bytes with
    | nil =>
      intro crc
      rfl
    | cons byte bytes ih =>
      intro crc
      have more : bitsOfBytes (byte :: bytes) = bitsOf byte ++ bitsOfBytes bytes := rfl
      rw [List.foldl_cons, ih, crc8Byte_feed, more, feed_append]
  exact from_ bytes 0xFF

/-- A checksum is right where it takes the register to zero. -/
theorem crc8_eq_iff (bytes : List UInt8) (crc : UInt8) :
    crc = crc8 bytes ↔ feed poly 0xFF#8 (bitsOfBytes (bytes ++ [crc])) = 0#8 := by
  have closes : feed poly 0xFF#8 (bitsOfBytes (bytes ++ [crc])) =
      feed poly ((crc8 bytes).toBitVec ^^^ crc.toBitVec) (List.replicate 8 false) := by
    have added := feed_xor poly (List.replicate 8 false) (List.replicate 8 false) rfl
      (crc8 bytes).toBitVec crc.toBitVec
    have split := feed_xor poly (List.replicate 8 false) (bitsOf crc)
      (by rw [bitsOf_length, List.length_replicate]) (crc8 bytes).toBitVec 0#8
    rw [zipWith_zeros (bitsOf_length crc), BitVec.xor_zero, feed_bitsOf] at split
    rw [zipWith_zeros List.length_replicate] at added
    have joined : bitsOfBytes (bytes ++ [crc]) = bitsOfBytes bytes ++ bitsOf crc := by
      simp [bitsOfBytes]
    rw [joined, feed_append, ← crc8_feed, split, added]
  rw [closes]
  constructor
  · rintro rfl
    rw [BitVec.xor_self]
    exact feed_zeros poly 8
  · intro ends
    have none_ := feed_replicate_eq_zero (by decide) (by decide) ends
    exact UInt8.toBitVec_inj.mp (BitVec.xor_eq_zero_iff.mp none_).symm

/-! ## Damaged frames -/

def Raw6.tempFrame (raw : Raw6) : List UInt8 := [raw.tempHigh, raw.tempLow, raw.tempCrc]

def Raw6.humFrame (raw : Raw6) : List UInt8 := [raw.humHigh, raw.humLow, raw.humCrc]

def Raw6.frames : List (Raw6 → List UInt8) := [Raw6.tempFrame, Raw6.humFrame]

/-- The bits in which two frames differ. -/
def flips (sent got : List UInt8) : List Bool :=
  (bitsOfBytes sent).zipWith (· ^^ ·) (bitsOfBytes got)

/-- All the bits that are set lie within so many. -/
def Burst (width : Nat) (bits : List Bool) : Prop :=
  ∃ before middle after, bits = List.replicate before false ++ middle ++
    List.replicate after false ∧
    middle.length ≤ width

/-- Four bits or more, an even number of them, and spread over more than eight. -/
structure Spread (bits : List Bool) : Prop where
  even : bits.count true % 2 = 0
  many : 4 ≤ bits.count true
  wide : ¬Burst 8 bits

theorem bitsOf_injective {first second : UInt8} (same : bitsOf first = bitsOf second) :
    first = second := by
  apply UInt8.toBitVec_inj.mp
  apply BitVec.eq_of_getMsbD_eq
  intro i small
  have digits := List.ext_getElem_iff.mp same
  have digit := digits.2 i (by rw [bitsOf_length]; exact small) (by rw [bitsOf_length]; exact small)
  simpa [bitsOf] using digit

theorem bitsOfBytes_length (bytes : List UInt8) :
    (bitsOfBytes bytes).length = 8 * bytes.length := by
  induction bytes with
  | nil => rfl
  | cons byte bytes ih =>
    have more : bitsOfBytes (byte :: bytes) = bitsOf byte ++ bitsOfBytes bytes := rfl
    rw [more, List.length_append, bitsOf_length, ih, List.length_cons]
    omega

theorem bitsOfBytes_injective {first second : List UInt8} (length : first.length = second.length)
    (same : bitsOfBytes first = bitsOfBytes second) : first = second := by
  induction first generalizing second with
  | nil => exact (List.length_eq_zero_iff.mp length.symm).symm
  | cons byte first ih =>
    cases second with
    | nil => cases length
    | cons other second =>
      have split : bitsOf byte ++ bitsOfBytes first = bitsOf other ++ bitsOfBytes second := same
      obtain ⟨head, tail⟩ := List.append_inj split (by rw [bitsOf_length, bitsOf_length])
      rw [bitsOf_injective head, ih (Nat.succ.inj length) tail]

theorem zipWith_xor_clear {first second : List Bool} (length : first.length = second.length)
    (clear : ∀ bit ∈ first.zipWith (· ^^ ·) second, bit = false) : first = second := by
  induction first generalizing second with
  | nil => exact (List.length_eq_zero_iff.mp length.symm).symm
  | cons bit first ih =>
    cases second with
    | nil => cases length
    | cons other second =>
      obtain ⟨head, tail⟩ := List.forall_mem_cons.mp clear
      have same : bit = other := by
        revert head
        cases bit <;> cases other <;> decide
      rw [same, ih (Nat.succ.inj length) tail]

theorem split_first (bits : List Bool) (some_ : 0 < bits.count true) :
    ∃ before rest, bits = List.replicate before false ++ true :: rest ∧
      bits.count true = rest.count true + 1 := by
  induction bits with
  | nil => cases some_
  | cons bit bits ih =>
    cases bit with
    | true => exact ⟨0, bits, rfl, List.count_cons_self⟩
    | false =>
      rw [List.count_cons_of_ne (by decide)] at some_ ⊢
      obtain ⟨before, rest, cut, count⟩ := ih some_
      exact ⟨before + 1, rest, by rw [cut, List.replicate_succ, List.cons_append], count⟩

theorem clear_of_count {bits : List Bool} (none_ : bits.count true = 0) :
    bits = List.replicate bits.length false := by
  apply List.eq_replicate_iff.mpr
  refine ⟨rfl, fun bit listed => ?_⟩
  cases bit with
  | false => rfl
  | true => exact absurd listed (List.count_eq_zero.mp none_)

/-- Two bits of a frame leave the register at zero at no distance. -/
theorem two_detected {bits : List Bool} (length : bits.length = 24) (two : bits.count true = 2) :
    feed poly 0#8 bits ≠ 0#8 := by
  obtain ⟨before, rest, rfl, count⟩ := split_first bits (by omega)
  obtain ⟨between, last, rfl, count'⟩ := split_first rest (by omega)
  have silent : last.count true = 0 := by omega
  rw [clear_of_count silent] at length ⊢
  intro ends
  have cut : List.replicate before false ++
      true :: (List.replicate between false ++ true :: List.replicate last.length false) =
      List.replicate before false ++
        ((true :: List.replicate between false ++ [true]) ++ List.replicate last.length false) := by
    simp
  rw [cut, feed_append, feed_zeros, feed_append] at ends
  have clear := feed_replicate_eq_zero (by decide) (by decide) ends
  have near : between < 23 := by
    simp at length
    omega
  have distances : ∀ distance < 23,
      feed poly 0#8 (true :: List.replicate distance false ++ [true]) ≠ 0#8 := by
    decide +kernel
  exact distances between near clear

/-- The parity of the register is that of the bits it was fed. -/
def parity (register : BitVec 8) : Bool :=
  decide (((List.range 8).countP fun i => register.getLsbD i) % 2 = 1)

theorem parity_step (register : BitVec 8) (bit : Bool) :
    parity (step poly register bit) = (parity register ^^ bit) := by
  have all : ∀ register : BitVec 8, parity (step poly register false) = (parity register ^^ false) ∧
      parity (step poly register true) = (parity register ^^ true) := by
    decide +kernel
  cases bit with
  | false => exact (all register).1
  | true => exact (all register).2

theorem frame_undetected {sent got : List UInt8} (length : sent.length = 3)
    (length' : got.length = 3)
    (valid : feed poly 0xFF#8 (bitsOfBytes sent) = 0#8)
    (accepted : feed poly 0xFF#8 (bitsOfBytes got) = 0#8) :
    got = sent ∨ Spread (flips sent got) := by
  have bits : (bitsOfBytes sent).length = (bitsOfBytes got).length := by
    rw [bitsOfBytes_length, bitsOfBytes_length, length, length']
  have undetected : feed poly 0#8 (flips sent got) = 0#8 := by
    have difference := feed_xor poly _ _ bits 0xFF#8 0xFF#8
    rw [valid, accepted, BitVec.xor_self, BitVec.xor_self] at difference
    exact difference
  have whole : (flips sent got).length = 24 := by
    rw [flips, List.length_zipWith, bitsOfBytes_length, bitsOfBytes_length, length, length',
      Nat.min_self]
  have even : (flips sent got).count true % 2 = 0 := by
    have known := feed_parity parity_step 0#8 (flips sent got)
    have zero : parity 0#8 = false := by decide
    rw [undetected, zero, Bool.false_xor] at known
    have notOdd := of_decide_eq_false known.symm
    omega
  have intact : (∀ bit ∈ flips sent got, bit = false) → got = sent := by
    intro clear
    exact (bitsOfBytes_injective (length.trans length'.symm) (zipWith_xor_clear bits clear)).symm
  by_cases same : got = sent
  · exact .inl same
  refine .inr ⟨even, ?_, ?_⟩
  · have notTwo : (flips sent got).count true ≠ 2 := fun two => two_detected whole two undetected
    have notNone : (flips sent got).count true ≠ 0 := by
      intro none_
      apply same
      apply intact
      intro bit listed
      rw [clear_of_count none_] at listed
      exact List.eq_of_mem_replicate listed
    omega
  · rintro ⟨before, middle, after, cut, short⟩
    apply same
    apply intact
    have clear := burst_clear (by decide) (by decide) short (cut ▸ undetected)
    rw [cut]
    intro bit listed
    rcases List.mem_append.mp listed with front | behind
    · rcases List.mem_append.mp front with zeros | inside
      · exact List.eq_of_mem_replicate zeros
      · exact clear bit inside
    · exact List.eq_of_mem_replicate behind

theorem crcOk_frames {raw : Raw6} (accepted : raw.crcOk = true) :
    ∀ frame ∈ Raw6.frames, (frame raw).length = 3 ∧
      feed poly 0xFF#8 (bitsOfBytes (frame raw)) = 0#8 := by
  rw [Raw6.crcOk, Bool.and_eq_true, beq_iff_eq, beq_iff_eq] at accepted
  obtain ⟨temp, hum⟩ := accepted
  intro frame listed
  simp only [Raw6.frames, List.mem_cons, List.not_mem_nil, or_false] at listed
  rcases listed with rfl | rfl
  · exact ⟨rfl, (crc8_eq_iff [raw.tempHigh, raw.tempLow] raw.tempCrc).mp temp⟩
  · exact ⟨rfl, (crc8_eq_iff [raw.humHigh, raw.humLow] raw.humCrc).mp hum⟩

/-- A frame that is accepted and is not the one that was sent. -/
theorem crcOk_undetected {sent got : Raw6} (valid : sent.crcOk = true)
    (accepted : got.crcOk = true) :
    ∀ frame ∈ Raw6.frames, frame got = frame sent ∨ Spread (flips (frame sent) (frame got)) := by
  intro frame listed
  obtain ⟨length, ends⟩ := crcOk_frames valid frame listed
  obtain ⟨length', ends'⟩ := crcOk_frames accepted frame listed
  exact frame_undetected length length' ends ends'

/-- Four bits, nine places apart, pass for another temperature. -/
theorem crcOk_undetected_fourFlips :
    Raw6.tempFrame ⟨0xBE, 0xEE, 0xA3, 0, 0, 0x81⟩ = Raw6.tempFrame ⟨0xBE, 0xEF, 0x92, 0, 0, 0x81⟩ ∨
      Spread (flips (Raw6.tempFrame ⟨0xBE, 0xEF, 0x92, 0, 0, 0x81⟩)
        (Raw6.tempFrame ⟨0xBE, 0xEE, 0xA3, 0, 0, 0x81⟩)) :=
  @crcOk_undetected ⟨0xBE, 0xEF, 0x92, 0, 0, 0x81⟩ ⟨0xBE, 0xEE, 0xA3, 0, 0, 0x81⟩
    (by decide +kernel) (by decide +kernel) Raw6.tempFrame List.mem_cons_self

/-! ## Readings over a bad bus -/

/-- No frame is damaged in a way that its checksum could let through. -/
def Mild (sent got : Raw6) : Prop :=
  ∀ frame ∈ Raw6.frames, ¬Spread (flips (frame sent) (frame got))

theorem crcOk_intact {sent got : Raw6} (valid : sent.crcOk = true) (mild : Mild sent got)
    (accepted : got.crcOk = true) : got = sent := by
  have undetected := crcOk_undetected valid accepted
  have whole : ∀ frame ∈ Raw6.frames, frame got = frame sent := fun frame listed =>
    (undetected frame listed).resolve_right (mild frame listed)
  have temp := whole Raw6.tempFrame (by simp [Raw6.frames])
  have hum := whole Raw6.humFrame (by simp [Raw6.frames])
  cases sent
  cases got
  simp only [Raw6.tempFrame, Raw6.humFrame, List.cons.injEq, and_true] at temp hum
  obtain ⟨rfl, rfl, rfl⟩ := temp
  obtain ⟨rfl, rfl, rfl⟩ := hum
  rfl

/-- The answers that the sensor has sent; what arrives of one is damaged mildly. -/
def wire : Prog.Contract LpOp LpOp.Res (List Raw6) where
  may _ _ := True
  effect
    | sents, .i2cRead, answer, after =>
      ∃ sent : Raw6, sent.crcOk = true ∧ after = sents ++ [sent] ∧
        ∀ got, answer = some got → Mild sent got
    | sents, _, _, after => after = sents

open Prog

variable [FloatOps]

open FloatOps

def average (kept : List Raw6) : Reading :=
  { tempC :=
      div (kept.foldl (fun sum raw => add sum (convert raw).tempC) (lit 0)) (ofNat kept.length)
    humPct := div (kept.foldl (fun sum raw => add sum (convert raw).humPct) (lit 0))
      (ofNat kept.length) }

theorem measure_wp (cmd delay : Nat) (sents : List Raw6) :
    (measure cmd delay).wp wire sents fun after reading =>
      ∃ more, after = sents ++ more ∧ more.length ≤ 1 ∧
        ∀ value, reading = some value → ∃ sent, more = [sent] ∧ value = convert sent := by
  have nothing : ∃ more, sents = sents ++ more ∧ more.length ≤ 1 ∧
      ∀ value, (none : Option Reading) = some value →
        ∃ sent, more = [sent] ∧ value = convert sent :=
    ⟨[], (List.append_nil _).symm, Nat.zero_le 1, fun _ none_ => by cases none_⟩
  refine ⟨trivial, fun written after same => ?_⟩
  obtain rfl : sents = after := Eq.symm same
  show Prog.wp wire (if written then _ else _) _ _
  split
  · refine ⟨trivial, fun _ after same => ?_⟩
    obtain rfl : sents = after := Eq.symm same
    refine ⟨trivial, fun answer after answered => ?_⟩
    obtain ⟨sent, valid, rfl, mild⟩ : ∃ sent : Raw6, sent.crcOk = true ∧ after = sents ++ [sent] ∧
        ∀ got, answer = some got → Mild sent got := answered
    cases answer with
    | none => exact ⟨[sent], rfl, le_refl _, fun _ none_ => by cases none_⟩
    | some got =>
      show ∃ more, _ ∧ _ ∧
        ∀ value, (if got.crcOk then some (convert got) else none) = some value → _
      refine ⟨[sent], rfl, le_refl _, fun value shown => ?_⟩
      split at shown
      · rename_i accepted
        obtain rfl := Option.some.inj shown
        exact ⟨sent, rfl, congrArg convert (crcOk_intact valid (mild got rfl) accepted)⟩
      · cases shown
  · exact nothing

def tempSum (kept : List Raw6) : Flt :=
  kept.foldl (fun sum raw => add sum (convert raw).tempC) (lit 0)

def humSum (kept : List Raw6) : Flt :=
  kept.foldl (fun sum raw => add sum (convert raw).humPct) (lit 0)

/-- So many turns after `sents` the sums are those of some of the answers. -/
def Summed (turns : Nat) (sents after : List Raw6) (sums : Flt × Flt × Nat) : Prop :=
  after.length ≤ sents.length + turns ∧
    ∃ all : List Raw6, all.Sublist after ∧ sums = (tempSum all, humSum all, all.length)

theorem tempSum_concat (kept : List Raw6) (sent : Raw6) :
    tempSum (kept ++ [sent]) = add (tempSum kept) (convert sent).tempC := List.foldl_concat ..

theorem humSum_concat (kept : List Raw6) (sent : Raw6) :
    humSum (kept ++ [sent]) = add (humSum kept) (convert sent).humPct := List.foldl_concat ..

theorem Summed.turn {turns : Nat} {sents more after : List Raw6} {sums : Flt × Flt × Nat}
    (summed : Summed turns (sents ++ more) after sums) (one : more.length ≤ 1) :
    Summed (turns + 1) sents after sums := by
  obtain ⟨length, found⟩ := summed
  rw [List.length_append] at length
  exact ⟨by omega, found⟩

/-- The loop adds up the readings of some of the answers, in their order. -/
theorem measureLoop_wp (remaining : Nat) (first : Bool) (sents kept : List Raw6)
    (sub : kept.Sublist sents) :
    (measureLoop first remaining (tempSum kept) (humSum kept) kept.length).wp wire sents
      (Summed remaining sents) := by
  induction remaining generalizing first sents kept with
  | zero => exact ⟨le_refl _, kept, sub, rfl⟩
  | succ remaining ih =>
    -- a turn without the pause
    have turn : (measureLoop true (remaining + 1) (tempSum kept) (humSum kept) kept.length).wp wire
        sents (Summed (remaining + 1) sents) := by
      apply wp_seq (measure_wp kCmdMeasureHigh kMeasureDelayUs sents)
      rintro after reading ⟨more, rfl, one, shown⟩
      cases reading with
      | none =>
        apply wp_mono (ih false (sents ++ more) kept (sub.trans (List.sublist_append_left _ _)))
        exact fun _ _ summed => summed.turn one
      | some value =>
        obtain ⟨sent, rfl, rfl⟩ := shown value rfl
        have longer := ih false (sents ++ [sent]) (kept ++ [sent])
          (sub.append (List.Sublist.refl _))
        rw [tempSum_concat, humSum_concat, List.length_append, List.length_singleton] at longer
        exact wp_mono longer fun _ _ summed => summed.turn one
    cases first with
    | true => exact turn
    | false =>
      refine ⟨trivial, fun _ after same => ?_⟩
      obtain rfl : sents = after := Eq.symm same
      exact turn

/-- Over a bus that damages answers mildly, a reading is the mean of what the
sensor sent in some of its answers, whatever happened to the others. -/
theorem measureAveraged_intact (samples : Nat) :
    (measureAveraged samples).wp wire [] fun sents reading =>
      sents.length ≤ max samples 1 ∧ ∀ value, reading = some value →
        ∃ kept : List Raw6, kept ≠ [] ∧ kept.Sublist sents ∧ value = average kept := by
  have count : (if samples = 0 then 1 else samples) = max samples 1 := by
    split <;> omega
  apply wp_seq (measureLoop_wp (if samples = 0 then 1 else samples) true [] []
    (List.Sublist.refl _))
  rintro after sums ⟨length, all, sub, rfl⟩
  refine ⟨?_, fun value shown => ?_⟩
  · rw [count, List.length_nil, Nat.zero_add] at length
    exact length
  · split at shown
    · cases shown
    · rename_i some_
      obtain rfl := Option.some.inj shown
      refine ⟨all, fun none_ => some_ ?_, sub, rfl⟩
      rw [none_]
      rfl

end SleepySensor.LpCore
