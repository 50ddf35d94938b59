import DmxNet.Schema.Serialize
import Mathlib.Tactic.NormNum
import Mathlib.Tactic.Ring

/-!
# Numbers and their bytes

A number that fits a width is read back from its bytes, and bytes are the bytes of the number that
they denote, in both orders. A number fits a width of `size` bytes if it is less than `256 ^ size`,
which is to say that it is at most `maxOfWidth size`.
-/

namespace DmxNet

theorem littleValue_lt (bs : Bytes) : littleValue bs < 256 ^ bs.length := by
  induction bs with
  | nil => simp [littleValue]
  | cons b bs ih =>
    have hb : b.toNat < 256 := b.toNat_lt
    rw [littleValue, List.length_cons, pow_succ]
    omega

theorem littleValue_take_lt (bs : Bytes) (size : Nat) : littleValue (bs.take size) < 256 ^ size := by
  calc littleValue (bs.take size) < 256 ^ (bs.take size).length := littleValue_lt _
    _ ≤ 256 ^ size := Nat.pow_le_pow_right (by decide) (List.length_take_le size bs)

theorem littleValue_littleBytes (size n : Nat) :
    littleValue (littleBytes size n) = n % 256 ^ size := by
  induction size generalizing n with
  | zero => simp [littleBytes, littleValue, Nat.mod_one]
  | succ size ih =>
    have first : (UInt8.ofNat n).toNat = n % 256 := UInt8.toNat_ofNat'
    rw [littleBytes, littleValue, first, ih (n / 256), pow_succ']
    exact Nat.mod_mul.symm

theorem littleValue_littleBytes_of_lt {size n : Nat} (h : n < 256 ^ size) :
    littleValue (littleBytes size n) = n := by
  rw [littleValue_littleBytes, Nat.mod_eq_of_lt h]

/-! ### The most significant byte first -/

@[simp] theorem length_bigBytes (size n : Nat) : (bigBytes size n).length = size := by
  simp [bigBytes]

theorem bigValue_lt (bs : Bytes) : bigValue bs < 256 ^ bs.length := by
  simpa [bigValue] using littleValue_lt bs.reverse

theorem bigValue_bigBytes_of_lt {size n : Nat} (h : n < 256 ^ size) :
    bigValue (bigBytes size n) = n := by
  rw [bigValue, bigBytes, List.reverse_reverse, littleValue_littleBytes_of_lt h]

theorem bigBytes_bigValue (bs : Bytes) : bigBytes bs.length (bigValue bs) = bs := by
  have h := littleBytes_littleValue bs.reverse
  rw [List.length_reverse] at h
  rw [bigBytes, bigValue, h, List.reverse_reverse]

@[simp] theorem bigValue_singleton (b : UInt8) : bigValue [b] = b.toNat := by
  simp [bigValue, littleValue]

/-! ### Widths -/

theorem maxOfWidth_add_one (size : Nat) : maxOfWidth size + 1 = 256 ^ size := by
  have h : 0 < 2 ^ (8 * size) := Nat.two_pow_pos _
  have hp : 2 ^ (8 * size) = 256 ^ size := by rw [pow_mul]; norm_num
  rw [maxOfWidth, Nat.one_shiftLeft, Nat.sub_add_cancel h, hp]

theorem le_maxOfWidth_iff {size n : Nat} : n ≤ maxOfWidth size ↔ n < 256 ^ size := by
  rw [← maxOfWidth_add_one, Nat.lt_succ_iff]

/-- A number that fits the width is written in its bytes. -/
theorem numberBytes_of_encode? {size n : Nat} {order : ByteOrder} {bs : Bytes}
    (h : n ≤ maxOfWidth size) (hb : order.encode? size n = some bs) :
    numberBytes size order n = .ok bs := by
  have h0 : ¬ (n : Int) < 0 := by omega
  have h1 : ¬ (maxOfWidth size : Int) < n := by omega
  simp [numberBytes, hb, h0, h1]

/-- A number that fits the width is written in its bytes, the most significant first. -/
theorem numberBytes_big {size n : Nat} (h : n ≤ maxOfWidth size) :
    numberBytes size .big n = .ok (bigBytes size n) :=
  numberBytes_of_encode? h rfl

/-- A number that fits the width is written in its bytes, the least significant first. -/
theorem numberBytes_little {size n : Nat} (h : n ≤ maxOfWidth size) :
    numberBytes size .little n = .ok (littleBytes size n) :=
  numberBytes_of_encode? h rfl

/-- A number beyond the width is refused. -/
theorem numberBytes_big_of_lt {size n : Nat} (h : maxOfWidth size < n) :
    numberBytes size .big n = .error (.overflow .tooBig) := by
  have h0 : ¬ (n : Int) < 0 := by omega
  have h1 : (maxOfWidth size : Int) < n := by omega
  simp [numberBytes, ByteOrder.encode?, h0, h1]

end DmxNet
