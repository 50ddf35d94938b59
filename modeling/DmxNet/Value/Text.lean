import DmxNet.Fault.Basic
import DmxNet.Numeric.Digits
import DmxNet.Numeric.Shortest
import DmxNet.Packet.Layout
import DmxNet.Schema.Action
import DmxNet.Text.Quoted

/-!
# Values as text

A value is written in one of two ways: shown, where text and bytes are quoted, or plain, where
text stands for itself and a time code is a clock. Parts of a value are shown. Writing fails only
for a value that was given parts it cannot have, such as channel data whose content has no items,
for a record whose type has a field in the place of the action, and for a whole number that is too
long (`Digits.limit`). In a clock and in base sixteen numbers of any length are laid out, and a
line of the log goes without such a number, which is no reason to fail.
-/

namespace DmxNet

/-- A scalar as it is shown. -/
def Scalar.shown : Scalar → String
  | .none => "None"
  | .bool b => if b then "True" else "False"
  | .int n => Digits.decimal n
  | .float x => Shortest.plain.write x
  | .text s => Text.quote s
  | .bytes bs => Text.quoteBytes bs
  | .port p => "PortAddress(value=" ++ Digits.decimal p.value ++ ")"

/-- A scalar, text standing for itself. -/
def Scalar.plain : Scalar → String
  | .text s => s
  | s => s.shown

/-- A scalar as text, shown or plain, if it is not too long a number. -/
def Scalar.render (asShown : Bool) : Scalar → Except Fault String
  | .int n => Fault.numberText n
  | s => .ok (if asShown then s.shown else s.plain)

namespace Value

/-- Items between brackets. -/
def bracket (items : List String) : String := "[" ++ ", ".intercalate items ++ "]"

/-- A value laid out as a whole number; floats and text are refused by their kind. -/
def layOut (write : Int → String) (refusal : String → Invalid) : Value → Except Fault String
  | .scalar (.int n) => .ok (write n)
  | .scalar (.bool b) => .ok (write b.toInt)
  | .scalar (.float _) => .error (.invalid (refusal "float"))
  | .scalar (.text _) => .error (.invalid (refusal "str"))
  | _ => .error .mismatch

/-- A value as a whole number of at least two characters. -/
def twoPlaces (v : Value) : Except Fault String := v.layOut Digits.twoPlaces .decimalOf

/-- A value as a whole number in base sixteen, of at least four characters. -/
def fourHex (v : Value) : Except Fault String := v.layOut Digits.fourHex .hexOf

/-- One number of a clock. -/
def clockPart (v : Value) (name : String) : Except Fault String :=
  match v.field? name with
  | some w => w.twoPlaces
  | Option.none => .error .missing

/-- A time code as a clock: hours, minutes, seconds and frames. -/
def clock (v : Value) : Except Fault String := do
  let hours ← v.clockPart "hours"
  let minutes ← v.clockPart "minutes"
  let seconds ← v.clockPart "seconds"
  let frames ← v.clockPart "frames"
  return hours ++ ":" ++ minutes ++ ":" ++ seconds ++ ":" ++ frames

mutual

/-- A value as text, shown or plain. -/
def render (asShown : Bool) : Value → Except Fault String
  | .scalar s => s.render asShown
  | .list vs => do return bracket (← renderAll vs)
  | .length (.scalar .none) => .ok "BigEndianLength(Unknown (set during serialization))"
  | .length v => do
    Action.embed.ofKind v
    return "BigEndianLength(" ++ (← v.render false) ++ ")"
  | .payload (.scalar (.bytes bs)) =>
    .ok ("PaddedData(" ++ bracket (bs.map fun b => Digits.decimal b.toNat) ++ ")")
  | .payload (.scalar (.text s)) =>
    .ok ("PaddedData(" ++ bracket (s.toList.map fun c => Text.quote (String.singleton c)) ++ ")")
  | .payload (.list vs) => do return "PaddedData(" ++ bracket (← renderAll vs) ++ ")"
  | .payload _ => .error .mismatch
  | .record s vs =>
    if !asShown && s = Packet.timecode then clock (.record s vs)
    else do
      if !asShown then Action.spell.ofType s.fields
      Action.display.ofType s.fields
      return s.name ++ "(" ++ ", ".intercalate (← renderFields s.fields vs) ++ ")"

/-- The items of a list, each shown. -/
def renderAll : List Value → Except Fault (List String)
  | [] => .ok []
  | v :: vs => do
    let item ← v.render true
    return item :: (← renderAll vs)

/-- The fields of a record, each shown after its name. -/
def renderFields : List Field → List Value → Except Fault (List String)
  | f :: fs, v :: vs => do
    let item ← v.render true
    return (f.name ++ "=" ++ item) :: (← renderFields fs vs)
  | _, _ => .ok []

end

/-- A value as it is shown. -/
def shown (v : Value) : Except Fault String := v.render true

/-- A value as plain text. -/
def plain (v : Value) : Except Fault String := v.render false

/-- A value as plain text in a line of the log, without a number that is too long. -/
def logged (v : Value) : Except Fault String :=
  match v.plain with
  | .error (.invalid .unwritable) => .ok ""
  | result => result

end Value

end DmxNet
