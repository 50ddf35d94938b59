import DmxNet.Fault.Basic
import DmxNet.Numeric.Literal
import DmxNet.Value.Equality

/-!
# Conversions of values

What a value becomes where a whole number, an index or bytes are asked for, and how it compares
with whole numbers. A whole number is asked for loosely (`toInteger`: a float is cut off, text is
read) or strictly (`toIndex`). Bytes may be given as such, as a list of indices, or as a count of
zero bytes.
-/

namespace DmxNet

/-- The fault of a literal that cannot be read. -/
def Literal.Defect.fault (source : Scalar) : Literal.Defect → Fault
  | .malformed => .invalid (.literal source)
  | .tooManyDigits count => .invalid (.tooManyDigits count)

/-- The whole part of a float. -/
def Binary64.toInteger (x : Binary64) : Except Fault Int :=
  match x.truncate? with
  | some n => .ok n
  | none => .error (if x.isNan then .invalid .notANumber else .overflow .infinite)

/-- The whole number that a scalar becomes. -/
def Scalar.toInteger : Scalar → Except Fault Int
  | .none => .error .mismatch
  | .bool b => .ok b.toInt
  | .int n => .ok n
  | .float x => x.toInteger
  | .text s => (Literal.integerOfText s).mapError (Literal.Defect.fault (.text s))
  | .bytes bs => (Literal.integerOfBytes bs).mapError (Literal.Defect.fault (.bytes bs))
  | .port p => .ok p.value

/-- The largest count. -/
def maxCount : Int := 0x7FFFFFFFFFFFFFFF

/-- The most bytes that are held. -/
def maxBytes : Int := maxCount - 33

/-- A float that text denotes; what is no number gets the payload. -/
def Binary64.ofText (payload : Nat) (s : String) : Except Fault Binary64 :=
  orFault (.invalid (.realLiteral s)) (Literal.real? payload s)

namespace Value

/-- The whole number that a value becomes. A length that was not parsed is zero. -/
def toInteger : Value → Except Fault Int
  | .scalar s => s.toInteger
  | .length (.scalar .none) => .ok 0
  | .length (.scalar s) => orFault .mismatch s.whole?
  | _ => .error .mismatch

/-- The index that a value is; nothing is converted. -/
def toIndex : Value → Except Fault Int
  | .scalar (.bool b) => .ok b.toInt
  | .scalar (.int n) => .ok n
  | .scalar (.port p) => .ok p.value
  | _ => .error .mismatch

/-- The byte that a value is. -/
def toByte (v : Value) : Except Fault UInt8 := do
  let n ← v.toIndex
  if 0 ≤ n ∧ n < 256 then return UInt8.ofNat n.toNat else .error (.invalid .byteRange)

/-- Refuses a count of more than 63 bits and a sign. -/
def checkCount (n : Int) : Except Fault Unit :=
  if n < -(maxCount + 1) ∨ maxCount < n then .error (.overflow .index) else .ok ()

/-- A count of zero bytes; counts of more than 63 bits are refused before their sign is seen. -/
def zeroCount (n : Int) : Except Fault Nat := do
  checkCount n
  if n < 0 then .error (.invalid .negativeCount)
  else if maxBytes < n then .error (.overflow .byteCount)
  else .ok n.toNat

/-- The bytes that a value becomes. -/
def toBytes : Value → Except Fault Bytes
  | .scalar (.bytes bs) => .ok bs
  | .payload (.scalar (.bytes bs)) => .ok bs
  | .list vs => vs.mapM toByte
  | v => (v.toIndex >>= zeroCount).map fun n => List.replicate n 0

/-- How many bytes a value becomes, found without making zero bytes that are only counted. -/
def byteCount : Value → Except Fault Nat
  | .scalar (.bytes bs) => .ok bs.length
  | .payload (.scalar (.bytes bs)) => .ok bs.length
  | .list vs => (vs.mapM toByte).map List.length
  | v => v.toIndex >>= zeroCount

theorem map_length_toBytes (v : Value) : v.toBytes.map List.length = v.byteCount := by
  have counted (r : Except Fault Nat) :
      (r.map fun n => List.replicate n (0 : UInt8)).map List.length = r := by
    cases r <;> simp [Except.map]
  unfold toBytes byteCount
  split
  · rfl
  · rfl
  · rfl
  · exact counted _

/-- Bytes repeated so many times; a negative count leaves none. -/
def repeatBytes (bs : Bytes) (n : Int) : Except Fault Bytes := do
  checkCount n
  if maxCount < bs.length * n then .error (.overflow .repetition)
  else if bs.isEmpty then .ok []
  else .ok (List.replicate n.toNat bs).flatten

/-- A list of so many copies of a value; a negative count leaves none. -/
def repeatValue (v : Value) (n : Int) : Except Fault Value := do
  checkCount n
  .ok (.list (List.replicate n.toNat v))

/-- The start of a value that is a sequence, of at most so many parts. -/
def start (v : Value) (n : Nat) : Except Fault Value :=
  match v with
  | .scalar (.bytes bs) => .ok (.bytes (bs.take n))
  | .scalar (.text s) => .ok (.text (String.ofList (s.toList.take n)))
  | .list vs => .ok (.list (vs.take n))
  | _ => .error .mismatch

/-- How many parts a value has. -/
def size (v : Value) : Except Fault Nat := orFault .mismatch v.size?

/-- Whether a number lies between two whole numbers, both included. -/
def within (v : Value) (low high : Int) : Except Fault Bool :=
  match v with
  | .scalar (.float x) => .ok (x.intLe low && x.leInt high)
  | .scalar s => (orFault .mismatch s.whole?).map fun n => low ≤ n && n ≤ high
  | _ => .error .mismatch

/-- The whole number that a value is exactly by kind. -/
def whole : Value → Except Fault Int
  | .scalar s => orFault .mismatch s.whole?
  | _ => .error .mismatch

/-- The scalar that a value is as a key of a table; what may change cannot be one. -/
def key : Value → Except Fault Scalar
  | .scalar s => .ok s
  | _ => .error .mismatch

/-- The whole number that stands for a value in a line of text; text and bytes have none. -/
def numeral : Value → Except Fault Int
  | .scalar (.text _) | .scalar (.bytes _) => .error .mismatch
  | v => v.toInteger

/-- A value divided by a whole number, as a float. -/
def quotient (v : Value) (d : Nat) : Except Fault Binary64 :=
  match v with
  | .scalar (.float x) => .ok (x.divNat d)
  | v => do
    match Binary64.ofIntRatio (← v.whole) d with
    | .infinity _ => .error (.overflow .quotient)
    | q => return q

end Value

/-! ### Port-Addresses -/

namespace PortAddress

/-- The fault of a value that is not in `0 … limit`. It shows the value, so a whole number that is too
long to be written is refused for that. -/
def rangeFault (v : Value) (limit : Nat) : Fault :=
  match v with
  | .scalar (.int n) =>
    if Digits.writable n then .addressRange v (.int limit) else .invalid .unwritable
  | _ => .addressRange v (.int limit)

/-- The Port-Address of a value. -/
def ofValue (v : Value) : Except Fault PortAddress := do
  let n ← v.toIndex
  orFault (rangeFault (.int n) limit) (ofInt? n)

/-- Refuses a part of a Port-Address that is out of range. -/
def checkPart (v : Value) (limit : Nat) : Except Fault Unit := do
  if ← v.within 0 limit then return () else .error (rangeFault v limit)

/-- The Port-Address of a Net, a Sub-Net and a universe within that, checked in this order. -/
def ofParts (net subNet universeId : Value) : Except Fault PortAddress := do
  checkPart net netLimit
  checkPart subNet nibbleLimit
  checkPart universeId nibbleLimit
  -- A float may pass the checks, but its bits cannot be laid side by side with others.
  let packed := pack (← net.whole).toNat (← subNet.whole).toNat (← universeId.whole).toNat
  ofValue (.int packed)

end PortAddress

end DmxNet
