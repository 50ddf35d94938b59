import DmxNet.Fault.Basic
import DmxNet.Packet.Layout
import DmxNet.Schema.Name

/-!
# Declaring schemas

A schema is declared by the names, codecs and defaults of its fields. The names of the fields are
told apart and none is a reserved word. A default has to be a value that never changes, because
all records of the schema share it, and after a field that may be left out every field may. These
are judged in this order: the names of the fields, the name of the schema, the defaults one by
one, the order of the fields, and last whether their names are normal.
-/

namespace DmxNet

/-- The most bits that a whole number is held in. -/
def maxBits : Nat := 69175290276410818320

/-- The codec of whole numbers of a width; a negative width is refused, and one whose numbers
could not be held. -/
def Codec.ofWidth (size : Int) (order : ByteOrder) : Except Fault Codec :=
  if size < 0 then .error (.invalid .negativeWidth)
  else if maxBits < 8 * size.toNat then .error (.overflow .width)
  else .ok (.uint size.toNat order)

/-- A field as it is declared, with any value as its default. -/
structure Declaration where
  name : String
  codec : Codec
  default : Option Value

/-- Whether a declaration says more than the name of its field. -/
def Declaration.hasContent (d : Declaration) : Bool := d.default.isSome || d.codec.isDeclared

/-! ### Defaults -/

/-- The kind of a schema's records, with the place where the schema was declared, unless a field
bears the name of that. -/
def Schema.kind (s : Schema) : String :=
  if s = Packet.output then "artnet_mcp.protocol.output.Output"
  else if s = Packet.timecode then "artnet_mcp.protocol.timecode.Timecode"
  else if s.fields.any fun f => f.name == placeName then s.name
  else "abc." ++ s.name

/-- The kind of a value that records could not share. -/
def Value.sharedKind? : Value → Option String
  | .scalar _ => Option.none
  | .list _ => some "list"
  | .length _ => some "artnet_mcp.protocol.output.BigEndianLength"
  | .payload _ => some "artnet_mcp.protocol.output.PaddedData"
  | .record s _ => some s.kind

/-- The field of a declaration. One whose name its type keeps has no codec, and for a default what
is kept there. -/
def Declaration.field (d : Declaration) : Except Fault Field :=
  match tableKind? d.name with
  | some kind => .error (.invalid (.sharedDefault d.name kind))
  | none =>
    if keptNames.contains d.name then
      .ok ⟨d.name, .undeclared d.name, if d.hasContent then some .none else none⟩
    else
      match d.default with
      | none => .ok ⟨d.name, d.codec, none⟩
      | some (.scalar s) => .ok ⟨d.name, d.codec, some s⟩
      | some v => .error (.invalid (.sharedDefault d.name (v.sharedKind?.getD "")))

/-- Whether the fields that may be left out are the last ones. -/
def optionalLast : List Field → Bool
  | [] => true
  | f :: fs => (!f.isOptional || fs.all fun g => g.isOptional) && optionalLast fs

/-- The schema of some declarations, with its place among all schemas. -/
def Schema.declare (tag : Nat) (name : String) (ds : List Declaration) : Except Fault Schema := do
  let filled := (ds.filter Declaration.hasContent).map Declaration.name
  if !areFieldNames (ds.map Declaration.name) then throw .mismatch
  if filled.contains roomName then throw .mismatch
  if name.toList.contains '\x00' then throw (.invalid .nullInName)
  if filled.any strictNames.contains then throw .mismatch
  let fields ← ds.mapM Declaration.field
  if !optionalLast fields then throw .mismatch
  if ds.all fun d => Text.isNormal d.name then return ⟨tag, name, fields⟩ else .error .mismatch

end DmxNet
