import DmxNet.Packet.Description
import DmxNet.Packet.Envelope
import DmxNet.Schema.Compare
import DmxNet.Schema.Sample

/-!
# Workbench

A workbench holds one value, which can be looked at, altered, written, compared, and replaced by
what is parsed or sampled in its stead. Its fields may be set to any value at all, so here the
codecs meet values that composing would have refused. What is set under any other name stays
beside the fields, is found where a field of that name would be, and goes with the value. The
value itself may be set there too, and is then found as it is when it is looked for. A failing
replacement leaves the value.
-/

namespace DmxNet

namespace Value

/-- The codec of a value's own type. -/
def codec? : Value → Option Codec
  | .scalar (.port _) => some .port
  | .length _ => some .length
  | .payload _ => some .payload
  | .record s _ => some (.record s)
  | _ => Option.none

/-- What a whole number shows of itself under a name: its parts as a complex number and as a
fraction. -/
def ofWhole? (n : Int) (name : String) : Option Value :=
  if name = "real" ∨ name = "numerator" then some (.int n)
  else if name = "imag" then some (.int 0)
  else if name = "denominator" then some (.int 1)
  else Option.none

/-- What a value shows of itself under a name. -/
def attribute? (v : Value) (name : String) : Option Value :=
  match v with
  | .scalar (.int n) => ofWhole? n name
  | .scalar (.bool b) => ofWhole? b.toInt name
  | .scalar (.float x) =>
    if name = "real" then some (.float x)
    else if name = "imag" then some (.float (.ofRatio false 0 1))
    else Option.none
  | .scalar (.port p) =>
    if name = "value" then some (.int p.value)
    else if name = "net" then some (.int p.net)
    else if name = "sub_net" then some (.int p.subNet)
    else if name = "universe" then some (.int p.universeId)
    else Option.none
  | .length parsed => if name = "parsed_length" then some parsed else Option.none
  | .payload content => if name = "inner" then some content else Option.none
  | .record s vs =>
    if s = Packet.timecode ∧ name = "frame_rate" then
      let rate := (lookup? s.fields vs "key_type").bind Packet.frameRate?
      some ((rate.map Value.float).getD .none)
    else lookup? s.fields vs name
  | _ => Option.none

/-- The opcode that a command shows of its type. -/
def opcode? (v : Value) : Option Value := (Packet.kind? v).map fun k => .int k.opcode

/-- The parts that a value keeps, by name. -/
def parts? : Value → Option (List (String × Value))
  | .scalar (.port p) => some [("value", .int p.value)]
  | .length parsed => some [("parsed_length", parsed)]
  | .payload content => some [("inner", content)]
  | .record s vs => some ((s.fields.map Field.name).zip vs)
  | _ => Option.none

/-- The name of all that a value keeps. -/
def partsName : String := "__dict__"

/-- What stands under a name on every value of a type: nothing watches a value, and no value that
may change has a place in a table. -/
def standing? (v : Value) (name : String) : Option Value :=
  match v with
  | .scalar (.port _) => if name = "__weakref__" then some .none else Option.none
  | .scalar _ => Option.none
  | .list _ => if name = "__hash__" then some .none else Option.none
  | _ => if name = "__weakref__" ∨ name = "__hash__" then some .none else Option.none

/-- The fault of setting what a value keeps for itself and never gives up. -/
def keptFault? (name : String) : Option Fault :=
  if name = "__class__" ∨ name = partsName then some .mismatch
  else if name = "__weakref__" then some .missing
  else Option.none

end Value

/-- What is found under a name. -/
inductive Sight where
  | value (v : Value)
  /-- All that a value keeps, by name. -/
  | parts (entries : List (String × Value))

/-- What is set beside the fields of a value. -/
inductive Extra where
  /-- A value of its own. -/
  | value (v : Value)
  /-- The value at hand, as it is whenever it is looked for. -/
  | itself

/-- A value at hand, and what was set on it beside its fields. -/
structure Workbench where
  value : Value
  extras : List (String × Extra)

namespace Workbench

/-- A workbench with a value just put on it. -/
def put (v : Value) : Workbench := ⟨v, []⟩

/-- The value that an extra is now. -/
def current (w : Workbench) : Extra → Value
  | .value v => v
  | .itself => w.value

/-- What is under a name: a field, or what was set beside the fields. -/
def part? (w : Workbench) (name : String) : Option Value :=
  w.value.attribute? name <|> (w.extras.lookup name).map w.current

/-- What is under a name, the opcode of a command included. -/
def get (w : Workbench) (name : String) : Except Fault Value :=
  let opcode := if name = Packet.opcodeName then w.value.opcode? else none
  orFault w.value.absence (w.part? name <|> opcode <|> w.value.standing? name)

/-- All that the value keeps, by name, with what was set beside it. -/
def parts (w : Workbench) : Except Fault (List (String × Value)) := do
  let own ← orFault .missing w.value.parts?
  return own ++ w.extras.map fun e => (e.1, w.current e.2)

/-- Looks under a name, where one name stands for all that the value keeps. -/
def look (w : Workbench) (name : String) : Except Fault Sight :=
  if name = Value.partsName then w.parts.map .parts else (w.get name).map .value

/-- Sets what is under a name. A Port-Address never changes and a frame rate is only derived. -/
def set (w : Workbench) (name : String) (x : Extra) : Except Fault Workbench :=
  let v := w.current x
  let others := w.extras.filter fun e => e.1 != name
  let beside : Except Fault Workbench :=
    match Value.keptFault? name with
    | some fault => .error fault
    | none => .ok { w with extras := (name, x) :: others }
  match w.value with
  | .scalar (.port _) => .error .frozen
  | .scalar _ | .list _ => .error (if name = "__class__" then .mismatch else .missing)
  | .length _ => if name = "parsed_length" then .ok { w with value := .length v } else beside
  | .payload _ => if name = "inner" then .ok { w with value := .payload v } else beside
  | .record s vs =>
    match Value.replace? s.fields vs name v with
    | some ws => .ok { w with value := .record s ws }
    | none => if s = Packet.timecode ∧ name = "frame_rate" then .error .missing else beside

/-- Asks the value to act. What is under the name of the action is found first and cannot act. -/
def ask (w : Workbench) (a : Action) : Except Fault Unit :=
  if a.names.any fun name => (w.part? name).isSome then .error .mismatch else .ok ()

/-- The codec of the value's own type; a value without one knows no actions. -/
def codec (w : Workbench) : Except Fault Codec := orFault .missing w.value.codec?

/-! ### Writing -/

/-- Writes the value beside the channel data of an owner; a record owns itself. -/
def write (w owner : Workbench) : Writer Unit := do
  Procedure.conclude (w.ask .write)
  match w.value with
  | .record s vs => writeAll s.fields vs (w.part? Value.dataField)
  | v => v.write (owner.part? Value.dataField)

/-- The bytes of the value alone; a whole number takes one. -/
def serialize (w : Workbench) : Except Fault Bytes := do
  w.ask .serialize
  match w.value with
  | .record .. => (w.write w).bytes
  | v => v.serialize

/-- The packet of the value. A command given an opcode of its own is one only if it is the same. -/
def encode (w : Workbench) : Except Fault Bytes :=
  let given := w.part? Packet.opcodeName
  match Packet.kind? w.value with
  | some kind =>
    if given.all fun opcode => opcode.equals (.int kind.opcode) then
      (Packet.writer kind (w.write w)).bytes
    else Packet.refuse given w.value
  | none => Packet.refuse given w.value

/-- The size of the value on the wire, if it is channel data. -/
def paddedSize (w : Workbench) : Except Fault Nat := do
  w.ask .pad
  w.value.paddedSize

/-- The index that the value offers. -/
def index (w : Workbench) : Except Fault Int := do
  w.ask .index
  w.value.toIndex.mapError fun _ => w.value.absence

/-! ### Comparing -/

/-- Whether the value equals another, or itself, of which it shares all parts. -/
def equals (w : Workbench) : Extra → Except Fault Bool
  | .value v => w.value.askEquals v
  | .itself => do
    Action.compare.ofKind w.value
    return w.value.equals w.value

/-- Whether the value agrees with another. -/
def agrees (w : Workbench) (other : Value) : Except Fault Bool := do
  w.ask .agree
  w.value.agrees other

/-! ### Replacing -/

/-- Replaces the value by the one that its packet decodes to. -/
def reparse (w : Workbench) : Except Fault Workbench := do
  let packet ← w.encode
  return put (← Packet.decode packet)

/-- Replaces the value by one of its type read at a cursor. -/
def parse (w : Workbench) (c : Cursor) : Except Fault Workbench × Cursor :=
  match w.value.codec? with
  | some codec =>
    let (outcome, c) := codec.read.run c
    (outcome.map put, c)
  | none => (.error .missing, c)

/-- Replaces the value by the sample of its type. -/
def sample (w : Workbench) : Except Fault Workbench := do
  return put (← (← w.codec).sample)

/-- A value as the value's own type takes it. -/
def coerce (w : Workbench) (v : Value) : Except Fault Value := do
  (← w.codec).coerce v

end Workbench

end DmxNet
