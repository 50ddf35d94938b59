import DmxNet.Fault.Basic
import DmxNet.Numeric.Shortest
import DmxNet.Text.Json

/-!
# Values as JSON text

Nothing, truth values, numbers, text and lists have a JSON text; the other values have none, and
neither has a whole number that is too long (`Digits.limit`).
-/

namespace DmxNet

/-- Floats as in plain text, with the names that JSON readers know for what is not finite. -/
def Json.floatStyle : Shortest.DecimalStyle :=
  { Shortest.plain with nan := "NaN", infinity := "Infinity" }

namespace Value

mutual

/-- The JSON text of a value. -/
def json : Value → Except Fault String
  | .scalar .none => .ok "null"
  | .scalar (.bool b) => .ok (if b then "true" else "false")
  | .scalar (.int n) => Fault.numberText n
  | .scalar (.float x) => .ok (Json.floatStyle.write x)
  | .scalar (.text s) => .ok (Json.quote s)
  | .list vs => do return Json.array (← jsonAll vs)
  | _ => .error .mismatch

/-- The JSON texts of values. -/
def jsonAll : List Value → Except Fault (List String)
  | [] => .ok []
  | v :: vs => do
    let item ← v.json
    return item :: (← jsonAll vs)

end

end Value

end DmxNet
