import DmxNet.Bytes.Cursor
import DmxNet.Schema.Compose

/-!
# Parsing records

Each codec reads its value at a cursor. The fields of a schema are read in their order, and the
record is then composed of what was read. A failure leaves the cursor where the failing field was
to be read, or past it if its bytes were there and were no good.
-/

namespace DmxNet

mutual

/-- Reads the value of a codec. -/
def Codec.read : Codec → Reader Value
  | .uint size order => do
    let n ← Cursor.readNumber size order
    return .int n
  | .fixed size => do
    let bs ← Cursor.read size
    return .bytes bs
  | .port => do
    let n ← Cursor.readNumber 2 .little
    let p ← Procedure.conclude (PortAddress.ofValue (.int n))
    return .port p
  | .length => do
    let n ← Cursor.readNumber 2 .big
    return .length (.int n)
  | .payload => do
    let bs ← Cursor.readRest
    return .payload (.bytes bs)
  | .record s => s.read
  | .base => throw .undefined
  | .undeclared name => throw (.undeclaredField name)

/-- Reads a record. -/
def Schema.read : Schema → Reader Value
  | ⟨tag, name, fs⟩ => do
    Procedure.conclude (Action.parse.ofType fs)
    let vs ← readAll fs
    Procedure.conclude (Schema.compose ⟨tag, name, fs⟩ vs)

/-- Reads the values of fields, in the order of the fields. -/
def readAll : List Field → Reader (List Value)
  | [] => return []
  | ⟨_, c, _⟩ :: fs => do
    let v ← c.read
    let vs ← readAll fs
    return v :: vs

end

/-- Reads a record at the start of a datagram. -/
def Schema.parse (s : Schema) (data : Bytes) : Except Fault Value × Cursor :=
  s.read.run (Cursor.start data)

end DmxNet
