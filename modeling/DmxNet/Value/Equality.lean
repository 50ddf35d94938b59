import DmxNet.Value.Basic

/-!
# Equality of values

Numbers are equal when they denote the same number, whatever their kind, so `true`, `1` and `1.0`
are one number. All other scalars are equal only within a kind. Values with parts are equal if
their parts are alike, part by part, and records only within one schema.

Being alike is weaker than being equal in one case. A float that is no number equals nothing, not
even itself, but it is alike itself: a list that holds it equals that very list.
-/

namespace DmxNet

/-- The whole number that a scalar is, if it is one exactly by kind. -/
def Scalar.whole? : Scalar → Option Int
  | .bool b => some b.toInt
  | .int n => some n
  | _ => Option.none

/-- Equality of scalars. -/
def Scalar.equals : Scalar → Scalar → Bool
  | .float x, .float y => x.equals y
  | .float x, t => t.whole?.any x.equalsInt
  | s, .float y => s.whole?.any y.equalsInt
  | s, t =>
    match s.whole?, t.whole? with
    | some m, some n => m == n
    | _, _ => s == t

/-- Whether scalars are equal or one and the same. -/
def Scalar.alike : Scalar → Scalar → Bool
  | .float x, .float y => x.alike y
  | s, t => s.equals t

namespace Value

mutual

/-- Whether values are equal or one and the same. -/
def alike : Value → Value → Bool
  | .scalar s, .scalar t => s.alike t
  | .list vs, .list ws => allAlike vs ws
  | .length v, .length w => v.alike w
  | .payload v, .payload w => v.alike w
  | .record s vs, .record t ws => decide (s = t) && allAlike vs ws
  | _, _ => false

/-- Whether lists of values are alike, item by item. -/
def allAlike : List Value → List Value → Bool
  | [], [] => true
  | v :: vs, w :: ws => v.alike w && allAlike vs ws
  | _, _ => false

end

/-- Equality of values. Scalars are compared as such, and all other values by their parts. -/
def equals : Value → Value → Bool
  | .scalar s, .scalar t => s.equals t
  | v, w => v.alike w

end Value

end DmxNet
