import Mathlib.Tactic

/-!
# Cutting a size into chunks

`size` bytes go over the wire in chunks of `chunk` bytes, the last one shorter.
`Pieces` says that a list of received pieces has the lengths of the first
chunks; a full list of them concatenates to `size` bytes.
-/

set_option autoImplicit false

namespace SleepySensor.Chunks

def count (size chunk : Nat) : Nat := (size + chunk - 1) / chunk

def len (size chunk index : Nat) : Nat := min chunk (size - index * chunk)

theorem lt_count_iff {size chunk index : Nat} (positive : 0 < chunk) :
    index < count size chunk ↔ index * chunk < size := by
  have scaled : index < count size chunk ↔ (index + 1) * chunk ≤ size + chunk - 1 := by
    unfold count
    rw [Nat.lt_iff_add_one_le, Nat.le_div_iff_mul_le positive]
  rw [scaled, Nat.succ_mul]
  omega

theorem size_le_count_mul {size chunk : Nat} (positive : 0 < chunk) :
    size ≤ count size chunk * chunk := by
  by_contra more
  have below : count size chunk < count size chunk :=
    (lt_count_iff positive).mpr (by omega)
  omega

theorem count_le_size {size chunk : Nat} (positive : 0 < chunk) :
    count size chunk ≤ size := by
  by_contra more
  have last : size * chunk < size := (lt_count_iff positive).mp (by omega)
  have least : size * 1 ≤ size * chunk := Nat.mul_le_mul_left size positive
  omega

section Pieces

variable {α : Type} {size chunk : Nat}

/-- The pieces have the lengths of chunks `0, 1, ..`. -/
def Pieces (size chunk : Nat) (pieces : List (List α)) : Prop :=
  pieces.map List.length = (List.range pieces.length).map (len size chunk)

theorem pieces_nil : Pieces size chunk ([] : List (List α)) := rfl

theorem Pieces.append {pieces : List (List α)} {piece : List α}
    (sofar : Pieces size chunk pieces)
    (fits : piece.length = len size chunk pieces.length) :
    Pieces size chunk (pieces ++ [piece]) := by
  unfold Pieces at sofar ⊢
  rw [List.map_append, sofar, List.length_append, List.length_singleton, List.range_succ,
    List.map_append]
  simp [fits]

theorem sum_len (size chunk bound : Nat) :
    ((List.range bound).map (len size chunk)).sum = min (bound * chunk) size := by
  induction bound with
  | zero => simp
  | succ bound ih =>
    rw [List.range_succ, List.map_append, List.sum_append, ih, Nat.succ_mul]
    simp only [List.map_cons, List.map_nil, List.sum_cons, List.sum_nil, Nat.add_zero, len]
    omega

theorem Pieces.flatten_length {pieces : List (List α)} (cut : Pieces size chunk pieces) :
    pieces.flatten.length = min (pieces.length * chunk) size := by
  rw [List.length_flatten, cut, sum_len]

theorem Pieces.complete {pieces : List (List α)} (cut : Pieces size chunk pieces)
    (positive : 0 < chunk) (all : pieces.length = count size chunk) :
    pieces.flatten.length = size := by
  rw [cut.flatten_length, all]
  exact Nat.min_eq_right (size_le_count_mul positive)

end Pieces

end SleepySensor.Chunks
