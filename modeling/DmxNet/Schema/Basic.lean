import DmxNet.Bytes.Order
import DmxNet.Numeric.Binary64
import DmxNet.PortAddress

/-!
# Schemas

A schema names the fields of a record in the order of their bytes. Each field has a codec, which
says how the field's bytes are made, and may have a default. A codec is a whole number of a fixed
width, bytes of a fixed count, one of the value types with a wire form of their own, or another
schema, so schemas nest to any depth.

Two schemas are one and the same only if they were declared together: `Schema.tag` counts the
declarations, and keeps apart schemas that agree in all else.

Of what can be declared, a schema has the names of the fields, their codecs and their defaults. Not
modelled are schemas that are derived from others and take over their fields, and fields that are
left out when a record is made, shown or compared.
-/

namespace DmxNet

/-- A value that never changes: what a default may be, and a key of a table. -/
inductive Scalar where
  /-- The absence of a value. -/
  | none
  | bool (b : Bool)
  | int (n : Int)
  | float (x : Binary64)
  | text (s : String)
  | bytes (bs : Bytes)
  | port (p : PortAddress)
  deriving DecidableEq, Repr

mutual

/-- How the bytes of a field are made. -/
inductive Codec where
  /-- A whole number from zero, of a fixed width. -/
  | uint (size : Nat) (order : ByteOrder)
  /-- Bytes of a fixed count. -/
  | fixed (size : Int)
  /-- A Port-Address: two bytes, the low one first. -/
  | port
  /-- The byte count of the channel data beside it: two bytes, the high one first. -/
  | length
  /-- Channel data, to the end of the datagram. -/
  | payload
  /-- The fields of another schema. -/
  | record (schema : Schema)
  /-- A codec that leaves everything undefined. -/
  | base
  /-- Stands for the codec of a field that was declared without one. -/
  | undeclared (field : String)

/-- A field of a schema. -/
structure Field where
  name : String
  codec : Codec
  default : Option Scalar

/-- The fields of a record, in the order of their bytes. -/
structure Schema where
  /-- Counts the declarations. -/
  tag : Nat
  name : String
  fields : List Field

end

/-- Whether a codec is one, and does not stand for the lack of one. -/
def Codec.isDeclared : Codec → Bool
  | .undeclared _ => false
  | _ => true

/-- Whether a field was declared with a codec. -/
def Field.isDeclared (f : Field) : Bool := f.codec.isDeclared

/-! ### Equality -/

mutual

/-- Whether two codecs are the same. -/
def Codec.same : Codec → Codec → Bool
  | .uint m o, .uint n p => m == n && o == p
  | .fixed m, .fixed n => m == n
  | .port, .port | .length, .length | .payload, .payload | .base, .base => true
  | .record s, .record t => s.same t
  | .undeclared f, .undeclared g => f == g
  | _, _ => false

/-- Whether two schemas are the same. -/
def Schema.same : Schema → Schema → Bool
  | ⟨tag, name, fs⟩, ⟨tag', name', fs'⟩ => tag == tag' && name == name' && sameFields fs fs'

/-- Whether two lists of fields are the same. -/
def sameFields : List Field → List Field → Bool
  | [], [] => true
  | ⟨name, c, d⟩ :: fs, ⟨name', c', d'⟩ :: fs' =>
    name == name' && c.same c' && d == d' && sameFields fs fs'
  | _, _ => false

end

mutual

theorem Codec.same_iff : (c d : Codec) → (c.same d = true ↔ c = d)
  | .record s, d => by cases d <;> simp [Codec.same, Schema.same_iff s]
  | .uint .., d => by cases d <;> simp [Codec.same]
  | .fixed _, d => by cases d <;> simp [Codec.same]
  | .port, d => by cases d <;> simp [Codec.same]
  | .length, d => by cases d <;> simp [Codec.same]
  | .payload, d => by cases d <;> simp [Codec.same]
  | .base, d => by cases d <;> simp [Codec.same]
  | .undeclared _, d => by cases d <;> simp [Codec.same]

theorem Schema.same_iff : (s t : Schema) → (s.same t = true ↔ s = t)
  | ⟨tag, name, fs⟩, ⟨tag', name', fs'⟩ => by
    simp [Schema.same, sameFields_iff fs fs', and_assoc]

theorem sameFields_iff : (fs gs : List Field) → (sameFields fs gs = true ↔ fs = gs)
  | [], gs => by cases gs <;> simp [sameFields]
  | ⟨name, c, d⟩ :: fs, [] => by simp [sameFields]
  | ⟨name, c, d⟩ :: fs, ⟨name', c', d'⟩ :: gs => by
    simp [sameFields, Codec.same_iff c c', sameFields_iff fs gs, and_assoc]

end

instance : DecidableEq Codec := fun c d => decidable_of_iff _ (Codec.same_iff c d)

instance : DecidableEq Schema := fun s t => decidable_of_iff _ (Schema.same_iff s t)

end DmxNet
