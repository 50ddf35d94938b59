import DmxNet.Schema.Action
import DmxNet.Schema.Name
import DmxNet.Value.Conversion

/-!
# Composing records

A record is composed of one value for each field of its schema. Values that are not given are
defaults, and every value is coerced by its field's codec, in the order of the fields, so that
what a composed record keeps is what its codecs can write. A value that is of the asked type
already is kept as it is; to any other value a nested schema is applied as to its first field.
-/

namespace DmxNet

/-! ### Arguments -/

/-- The value of a field that was left out. -/
def Field.initial (f : Field) : Except Fault Value :=
  if f.isOptional then .ok ((f.default.map Value.scalar).getD .none) else .error .mismatch

/-- One value for each field: the given one for the first and defaults for the others. -/
def fillFirst : List Field → Value → Except Fault (List Value)
  | [], _ => .error .mismatch
  | _ :: fs, v => do return v :: (← fs.mapM Field.initial)

/-- One value for each field: the one given by name, or its default. -/
def fillNamed (fs : List Field) (args : List (String × Value)) : Except Fault (List Value) :=
  if args.all fun a => fs.any fun f => f.name == a.1 then
    fs.mapM fun f =>
      match args.lookup f.name with
      | some v => .ok v
      | none => f.initial
  else .error .mismatch

/-! ### Coercion -/

/-- The largest number of a width. -/
def maxOfWidth (size : Nat) : Nat := 1 <<< (8 * size) - 1

/-- A value as a whole number of a fixed width. -/
def coerceNumber (size : Nat) (v : Value) : Except Fault Value := do
  let n ← v.toInteger
  let max := maxOfWidth size
  if 0 ≤ n ∧ n ≤ max then return .int n
  else if Digits.writable n && Digits.writable max then .error (.invalid (.outOfRange max n))
  else .error (.invalid .unwritable)

/-- A value as bytes of a fixed count. -/
def coerceBytes (size : Int) (v : Value) : Except Fault Value := do
  let n ← v.byteCount
  if (n : Int) = size then return .bytes (← v.toBytes)
  else if Digits.writable size && Digits.writable n then .error (.invalid (.size size n))
  else .error (.invalid .unwritable)

/-- A value as a Port-Address. -/
def coercePort : Value → Except Fault Value
  | .port p => .ok (.port p)
  | v => do return .port (← PortAddress.ofValue v)

/-- A value as a length field; whatever it is, it is taken as parsed. -/
def coerceLength : Value → Value
  | .length v => .length v
  | v => .length v

/-- A value as channel data. -/
def coercePayload : Value → Except Fault Value
  | .payload v => .ok (.payload v)
  | v => do return .payload (.bytes (← v.toBytes))

/-- Whether a value is a record of a schema. -/
def Value.isRecordOf (v : Value) (s : Schema) : Bool :=
  match v with
  | .record t _ => t = s
  | _ => false

mutual

/-- A value as the codec takes it. -/
def Codec.coerce : Codec → Value → Except Fault Value
  | .uint size _, v => coerceNumber size v
  | .fixed size, v => coerceBytes size v
  | .port, v => coercePort v
  | .length, v => .ok (coerceLength v)
  | .payload, v => coercePayload v
  | .record s, v => do
    Action.coerce.ofType s.fields
    if v.isRecordOf s then return v
    else
      Action.recognise.ofType s.fields
      let vs ← fillFirst s.fields v
      s.compose vs
  | .base, v => .ok v
  | .undeclared name, _ => .error (.undeclaredField name)

/-- The record of a schema with one value for each field. -/
def Schema.compose : Schema → List Value → Except Fault Value
  | ⟨tag, name, fs⟩, vs => do
    Action.making fs
    let ws ← coerceAll fs vs
    return .record ⟨tag, name, fs⟩ ws

/-- The values of fields, each as its codec takes it, in the order of the fields. -/
def coerceAll : List Field → List Value → Except Fault (List Value)
  | ⟨_, c, _⟩ :: fs, v :: vs => do
    let w ← c.coerce v
    let ws ← coerceAll fs vs
    return w :: ws
  | _, _ => .ok []

end

/-- The record of a schema with values given by name. -/
def Schema.make (s : Schema) (args : List (String × Value)) : Except Fault Value := do
  let vs ← fillNamed s.fields args
  s.compose vs

end DmxNet
