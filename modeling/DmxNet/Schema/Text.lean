import DmxNet.Fault.Basic
import DmxNet.Text.Quoted

/-!
# Codecs as text

How a codec is shown: its kind and what it was given. A codec of nested values is shown by the
name of their type, and one that leaves everything undefined is not shown.
-/

namespace DmxNet

/-- The name of the type of values that a codec nests. -/
def Codec.typeName? : Codec → Option String
  | .port => some "PortAddress"
  | .length => some "BigEndianLength"
  | .payload => some "PaddedData"
  | .record s => some s.name
  | _ => none

/-- A codec as it is shown. -/
def Codec.shown : Codec → Except Fault String
  | .uint size order => do
    return "UInt(size=" ++ (← Fault.numberText size) ++ ", byteorder=" ++ Text.quote order.name ++
      ")"
  | .fixed size => do return "FixedBytes(size=" ++ (← Fault.numberText size) ++ ")"
  | c =>
    match c.typeName? with
    | some name => .ok ("Nested(" ++ name ++ ")")
    | none => .error .undefined

end DmxNet
