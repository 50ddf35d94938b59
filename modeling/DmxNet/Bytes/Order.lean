/-!
# Byte orders

A whole number takes a fixed count of bytes, least significant byte first (little) or last (big).
`littleBytes` and `littleValue` convert in the one order and the other order is the reverse of
it. An order of any other name is kept, because a codec may be declared with one, but nothing
converts in it.
-/

namespace DmxNet

/-- A string of bytes. -/
abbrev Bytes := List UInt8

/-- The order of the bytes of a number. -/
inductive ByteOrder where
  /-- The most significant byte comes first. -/
  | big
  /-- The least significant byte comes first. -/
  | little
  /-- A name that stands for no order. -/
  | other (name : String)
  deriving DecidableEq, Repr

/-- The number that bytes denote, least significant byte first. -/
def littleValue : Bytes → Nat
  | [] => 0
  | b :: bs => b.toNat + 256 * littleValue bs

/-- The `size` lowest bytes of a number, least significant byte first. -/
def littleBytes : Nat → Nat → Bytes
  | 0, _ => []
  | size + 1, n => UInt8.ofNat n :: littleBytes size (n / 256)

@[simp] theorem length_littleBytes (size n : Nat) : (littleBytes size n).length = size := by
  induction size generalizing n with
  | zero => rfl
  | succ size ih => simp [littleBytes, ih]

theorem littleBytes_littleValue (bs : Bytes) : littleBytes bs.length (littleValue bs) = bs := by
  induction bs with
  | nil => rfl
  | cons b bs ih =>
    have hb : b.toNat < 256 := b.toNat_lt
    have hq : (b.toNat + 256 * littleValue bs) / 256 = littleValue bs := by omega
    have hr : UInt8.ofNat (b.toNat + 256 * littleValue bs) = b := by
      apply UInt8.toNat_inj.1
      rw [UInt8.toNat_ofNat']
      omega
    simp only [List.length_cons, littleBytes, littleValue, hq, hr, ih]

namespace ByteOrder

/-- How an order is named. -/
def name : ByteOrder → String
  | big => "big"
  | little => "little"
  | other s => s

/-- The order of a name. -/
def ofName (s : String) : ByteOrder :=
  if s = "big" then big else if s = "little" then little else other s

/-- The number that bytes denote; nothing in an order that is none. -/
def decode? : ByteOrder → Bytes → Option Nat
  | big, bs => some (littleValue bs.reverse)
  | little, bs => some (littleValue bs)
  | other _, _ => none

/-- The `size` lowest bytes of a number; nothing in an order that is none. -/
def encode? : ByteOrder → Nat → Nat → Option Bytes
  | big, size, n => some (littleBytes size n).reverse
  | little, size, n => some (littleBytes size n)
  | other _, _, _ => none

end ByteOrder

/-- The number that bytes denote, most significant byte first. -/
def bigValue (bs : Bytes) : Nat := littleValue bs.reverse

/-- The `size` lowest bytes of a number, most significant byte first. -/
def bigBytes (size n : Nat) : Bytes := (littleBytes size n).reverse

/-! ### Parts of a string of bytes -/

/-- A position that may count from the end, brought into `0 … length`. -/
def clampIndex (length : Nat) (i : Int) : Nat :=
  let j := if i < 0 then i + length else i
  min j.toNat length

/-- The bytes from `start` up to `stop`; negative positions count from the end. -/
def slice (bs : Bytes) (start stop : Int) : Bytes :=
  let first := clampIndex bs.length start
  (bs.drop first).take (clampIndex bs.length stop - first)

end DmxNet
