import DmxNet.Schema.Action
import DmxNet.Value.Equality

/-!
# Comparing values

Values are compared by equality, and every record that equality reaches is asked to compare, so
the comparison fails where a field stands in the place of that action (`Value.askEquals`).

Across a round trip two values agree if they are equal as far as can be known before they are
written (`Value.agrees`). They are compared as by equality, except that a length that was parsed
agrees with one that was not, since what the latter will be is not known yet. The value on the
left decides how it is compared.
-/

namespace DmxNet

/-! ### Equality of values that are asked -/

mutual

/-- Whether values are alike, where each record that is reached is asked to compare. -/
def Value.askAlike : Value → Value → Except Fault Bool
  | .list vs, .list ws => if vs.length = ws.length then askAllAlike vs ws else .ok false
  | .length v, .length w => v.askAlike w
  | .payload v, .payload w => v.askAlike w
  | .record s vs, w => do
    Action.compare.ofType s.fields
    match w with
    | .record t ws =>
      if s = t then askAllAlike vs ws
      else do
        Action.compare.ofType t.fields
        return false
    | _ => return false
  | v, w => do
    Action.compare.ofKind w
    return v.alike w

/-- Whether the items of lists are alike; the first that are not settle it. -/
def askAllAlike : List Value → List Value → Except Fault Bool
  | v :: vs, w :: ws => do
    let same ← v.askAlike w
    if same then askAllAlike vs ws else return false
  | _, _ => .ok true

end

/-- Whether values are equal, where each record that is reached is asked to compare. -/
def Value.askEquals : Value → Value → Except Fault Bool
  | .scalar s, .scalar t => .ok (s.equals t)
  | v, w => v.askAlike w

/-! ### Agreement across a round trip -/

/-- Whether the codec leaves its value to be compared in its own way. -/
def Codec.isNested : Codec → Bool
  | .port | .length | .payload | .record _ => true
  | _ => false

/-- Whether lengths agree: equal, or not both of them known. -/
def lengthsAgree (v w : Value) : Except Fault Bool :=
  match v, w with
  | .scalar .none, _ | _, .scalar .none => .ok true
  | v, w => v.askEquals w

mutual

/-- Whether a value agrees with another. -/
def Value.agrees : Value → Value → Except Fault Bool
  | .scalar (.port p), w => (Value.port p).askEquals w
  | .payload v, w => (Value.payload v).askEquals w
  | .length v, .length w => lengthsAgree v w
  | .length _, _ => .ok false
  | .record s vs, w => do
    Action.agree.ofRecord s.fields
    match w with
    | .record t ws => if s = t then agreeAll s.fields vs ws else return false
    | _ => return false
  | _, _ => .error .missing

/-- Whether the values of fields agree; the first that do not settle it. -/
def agreeAll : List Field → List Value → List Value → Except Fault Bool
  | f :: fs, v :: vs, w :: ws => do
    let same ←
      match f.codec with
      | .undeclared name => throw (.undeclaredField name)
      | c => if c.isNested then v.agrees w else v.askEquals w
    if same then agreeAll fs vs ws else return false
  | _, _, _ => .ok true

end

/-- Whether two values agree in a field with the codec. -/
def Codec.agree (c : Codec) (v w : Value) : Except Fault Bool :=
  if c.isNested then v.agrees w else v.askEquals w

end DmxNet
