import DmxNet.Packet.Layout
import DmxNet.Procedure
import DmxNet.Schema.Compose

/-!
# Serialising values

Values with a wire form of their own append their bytes to a buffer. A length writes the byte count
of the channel data beside it in the record that owns it, and never what was parsed into it. The
fields of a record are written in their order, beside the channel data of that record. A failure
leaves in the buffer what was written before it.
-/

namespace DmxNet

/-- A procedure that appends to a buffer. -/
abbrev Writer := Procedure Bytes

namespace Writer

/-- Appends bytes. -/
def append (bs : Bytes) : Writer Unit := modify fun buffer => buffer ++ bs

/-- Appends the bytes that a conversion gives. -/
def appendFrom (r : Except Fault Bytes) : Writer Unit := do
  let bs ← Procedure.conclude r
  append bs

@[simp] theorem run_append (bs buffer : Bytes) :
    (append bs).run buffer = (.ok (), buffer ++ bs) := rfl

end Writer

/-- The bytes of a number of a fixed width. The order is judged first, then sign and size. -/
def numberBytes (size : Nat) (order : ByteOrder) (n : Int) : Except Fault Bytes :=
  match order.encode? size n.toNat with
  | none => .error (.invalid .byteOrder)
  | some bs =>
    if n < 0 then .error (.overflow .negative)
    else if maxOfWidth size < n then .error (.overflow .tooBig)
    else .ok bs

/-- A size rounded up to even. -/
def evenSize (n : Nat) : Nat := n + n % 2

namespace Value

/-- The bytes of a value in a field of whole numbers. Only whole numbers are written; a record
could be, but not to a width. -/
def asNumberBytes (size : Nat) (order : ByteOrder) : Value → Except Fault Bytes
  | .scalar (.int n) => numberBytes size order n
  | .scalar (.bool b) => numberBytes size order b.toInt
  | .record .. => .error .mismatch
  | _ => .error .missing

/-- The bytes of a value in a field of bytes. -/
def asBytes : Value → Except Fault Bytes
  | .scalar (.bytes bs) => .ok bs
  | _ => .error .mismatch

/-- The size of channel data on the wire. -/
def paddedSize : Value → Except Fault Nat
  | .payload v => do return evenSize (← v.size)
  | .record s vs => do
    Action.pad.ofRecord s.fields
    .error (Value.record s vs).absence
  | _ => .error .missing

/-- The field of a record that holds its channel data. -/
def dataField : String := "data"

/-- The channel data of a record. -/
def data? (owner : Value) : Option Value := owner.field? dataField

/-- The bytes of a length: the size of the channel data beside it. -/
def lengthBytes (beside : Option Value) : Except Fault Bytes := do
  let n ← (← orFault .missing beside).paddedSize
  numberBytes 2 .big n

/-- The bytes of channel data: from one to 512 of them, and a zero byte to make them even. -/
def payloadBytes (content : Value) : Except Fault Bytes := do
  let n ← content.size
  let (start, stop) := Packet.allowedSizes
  if n = 0 then .error (.payloadSize (.bytes []) start stop)
  else if Packet.maxChannels < n then .error (.payloadSize content start stop)
  else return (← content.asBytes) ++ List.replicate (n % 2) 0

end Value

/-- Writes a value by a codec, where `nested` writes it in its own wire form. -/
def Codec.writeWith (c : Codec) (nested : Writer Unit) (v : Value) : Writer Unit :=
  match c with
  | .uint size order => Writer.appendFrom (v.asNumberBytes size order)
  | .fixed _ => Writer.appendFrom v.asBytes
  | .port | .length | .payload | .record _ => nested
  | .base => throw .undefined
  | .undeclared name => throw (.undeclaredField name)

mutual

/-- Writes a value in its own wire form, beside the channel data of its owner. -/
def Value.write : Value → Option Value → Writer Unit
  | .scalar (.port p), _ => Writer.append (littleBytes 2 p.value)
  | .length _, beside => Writer.appendFrom (Value.lengthBytes beside)
  | .payload content, _ => Writer.appendFrom content.payloadBytes
  | .record s vs, _ => do
    Procedure.conclude (Action.write.ofRecord s.fields)
    writeAll s.fields vs (Value.lookup? s.fields vs Value.dataField)
  | _, _ => throw .missing

/-- Writes the values of fields, in the order of the fields, beside the channel data. -/
def writeAll : List Field → List Value → Option Value → Writer Unit
  | f :: fs, v :: vs, beside => do
    f.codec.writeWith (v.write beside) v
    writeAll fs vs beside
  | _, _, _ => return ()

end

/-- Writes a value by a codec, beside the channel data of its owner. -/
def Codec.write (c : Codec) (v : Value) (beside : Option Value) : Writer Unit :=
  c.writeWith (v.write beside) v

/-- What a writing appends to an empty buffer, and how it ends. -/
def Writer.output (w : Writer Unit) : Except Fault Unit × Bytes := w.run []

/-- The bytes that a writing makes, if it does not fail. -/
def Writer.bytes (w : Writer Unit) : Except Fault Bytes :=
  match w.output with
  | (.ok _, buffer) => .ok buffer
  | (.error fault, _) => .error fault

/-- The bytes of a record alone. -/
def Value.serialize : Value → Except Fault Bytes
  | .record s vs => do
    Action.serialize.ofRecord s.fields
    ((Value.record s vs).write none).bytes
  | v => v.asNumberBytes 1 .big

end DmxNet
