import DmxNet.Bytes.Cursor
import DmxNet.Proofs.Fault
import Mathlib.Tactic.NormNum

/-!
# Reading within a datagram

A cursor that starts within a datagram and reads counts of bytes stays within it. It is then known
by how many bytes it has passed (`Cursor.after`): a reading that fits gives the bytes that follow
and passes them, and one that does not fit passes none. What it raises is told by
`Fault.shortage_eq`.
-/

namespace DmxNet

/-- A slice between positions that count from the start. -/
theorem slice_natCast (bs : Bytes) (i j : Nat) : slice bs i j = (bs.drop i).take (j - i) := by
  have clamp (k : Nat) : clampIndex bs.length k = min k bs.length := by
    simp [clampIndex, show ¬ (k : Int) < 0 by omega]
  rw [slice, clamp, clamp]
  rcases Nat.le_total i bs.length with hi | hi
  · rw [Nat.min_eq_left hi]
    rcases Nat.le_total j bs.length with hj | hj
    · rw [Nat.min_eq_left hj]
    · have hl : (bs.drop i).length ≤ bs.length - i := by simp
      rw [Nat.min_eq_right hj, List.take_of_length_le hl, List.take_of_length_le (by omega)]
  · simp [Nat.min_eq_right hi, List.drop_eq_nil_of_le hi]

namespace Cursor

/-- The cursor that has passed the first bytes of a datagram. -/
def after (data : Bytes) (passed : Nat) : Cursor := ⟨data, passed⟩

variable {data : Bytes} {passed size : Nat}

theorem start_eq_after (data : Bytes) : start data = after data 0 := rfl

theorem remaining_after (h : passed ≤ data.length) :
    (after data passed).remaining = (data.drop passed).length := by
  simp only [remaining, after, List.length_drop]
  omega

/-- A reading that fits. -/
theorem run_read_of_le (h : passed + size ≤ data.length) :
    (read size).run (after data passed) =
      (.ok ((data.drop passed).take size), after data (passed + size)) := by
  have hr := remaining_after (show passed ≤ data.length by omega)
  have hs : ¬ (after data passed).remaining < size := by
    rw [hr, List.length_drop]
    omega
  have hp : (after data passed).position + size = ((passed + size : Nat) : Int) := by
    simp [after]
  rw [run_read, if_neg hs, hp]
  simp only [after, slice_natCast, Nat.add_sub_cancel_left]

/-- A reading that does not fit. -/
theorem run_read_of_lt (hp : passed ≤ data.length) (h : (data.drop passed).length < size) :
    (read size).run (after data passed) =
      (.error (.shortage size (data.drop passed).length), after data passed) := by
  have hr := remaining_after hp
  have hs : (after data passed).remaining < size := by
    rw [hr]
    omega
  rw [run_read, if_pos hs, hr]

/-- Reading the rest always fits. -/
theorem run_readRest_after (h : passed ≤ data.length) :
    readRest.run (after data passed) = (.ok (data.drop passed), after data data.length) := by
  have hr := remaining_after h
  have hp : (after data passed).position + ((data.drop passed).length : Int) = data.length := by
    simp only [after, List.length_drop]
    omega
  rw [run_readRest, hr, hp]
  simp only [after, slice_natCast]
  rw [List.take_of_length_le (by simp)]

end Cursor

end DmxNet
