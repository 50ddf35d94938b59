/-!
# Binary64 numbers

A floating-point number is kept as what it denotes: a sign, a whole mantissa and a power of
two, or one of the infinities, or no number at all. Nothing here rounds except
`Binary64.ofRatio`, which rounds an exact quotient once, to the nearest representable number
and to the even mantissa on a tie. Comparisons with whole numbers are exact at every size.

What is no number carries a payload. No comparison looks at it, but it tells one such datum from
another, so that a datum can be recognised where it is met again (`Binary64.alike`).
-/

namespace DmxNet

/-- A binary64 number; a finite one is `± mantissa · 2 ^ exponent`. -/
inductive Binary64 where
  /-- Not a number; the payload is that of IEEE 754. -/
  | nan (payload : Nat)
  /-- An infinity of either sign. -/
  | infinity (negative : Bool)
  /-- A finite number; zero keeps its sign. -/
  | finite (negative : Bool) (mantissa : Nat) (exponent : Int)
  deriving DecidableEq, Repr

namespace Binary64

/-! ### Rounding -/

/-- A quotient `num / den` divided by `2 ^ e`, as a quotient again. -/
def scale (num den : Nat) (e : Int) : Nat × Nat :=
  if 0 ≤ e then (num, den <<< e.toNat) else (num <<< (-e).toNat, den)

/-- The whole number nearest to `num / den`, a half going to the even one. -/
def roundQuotient (num den : Nat) : Nat :=
  let q := num / den
  let r := num % den
  if 2 * r < den then q else if den < 2 * r then q + 1 else q + q % 2

/-- The least mantissa of 53 bits. -/
def hiddenBit : Nat := 1 <<< 52

/-- The power of two at which `num / den` has a mantissa of 53 bits, or the least power there is. -/
def exponentOf (num den : Nat) : Int :=
  let guess : Int := num.log2 - den.log2 - 52
  let scaled := scale num den guess
  max (if scaled.1 / scaled.2 < hiddenBit then guess - 1 else guess) (-1074)

/-- The binary64 number nearest to `± num / den`; an infinity beyond the largest finite one. -/
def ofRatio (negative : Bool) (num den : Nat) : Binary64 :=
  if num = 0 then .finite negative 0 (-1074) else
  let e := exponentOf num den
  let scaled := scale num den e
  let m := roundQuotient scaled.1 scaled.2
  -- Rounding up may carry into a 54th bit, which only a power of two can do.
  let carried := m = 2 * hiddenBit
  let m := if carried then hiddenBit else m
  let e := if carried then e + 1 else e
  if 971 < e then .infinity negative else .finite negative m e

/-- The binary64 number nearest to `n / den`. -/
def ofIntRatio (n : Int) (den : Nat) : Binary64 := ofRatio (n < 0) n.natAbs den

/-! ### Exact values -/

/-- A finite number as a fraction with a positive denominator. -/
def ratio? : Binary64 → Option (Int × Nat)
  | .finite negative m e =>
    let scaled := scale m 1 (-e)
    some (if negative then -scaled.1 else scaled.1, scaled.2)
  | _ => none

/-- A number divided by a positive whole number, rounded once. -/
def divNat : Binary64 → Nat → Binary64
  | .finite negative m e, d =>
    let scaled := scale m d (-e)
    ofRatio negative scaled.1 scaled.2
  | x, _ => x

/-- The whole part of a finite number, rounded toward zero. -/
def truncate? (x : Binary64) : Option Int := x.ratio?.map fun r => r.1.tdiv r.2

/-- Whether a datum is no number. -/
def isNan : Binary64 → Bool
  | .nan _ => true
  | _ => false

/-- Whether a number is zero, of either sign. -/
def isZero : Binary64 → Bool
  | .finite _ m _ => m == 0
  | _ => false

/-! ### Comparisons -/

/-- Whether `n ≤ x`; nothing compares with `nan`. -/
def intLe (n : Int) : Binary64 → Bool
  | .nan _ => false
  | .infinity negative => !negative
  | x@(.finite ..) => x.ratio?.any fun r => n * r.2 ≤ r.1

/-- Whether `x ≤ n`; nothing compares with `nan`. -/
def leInt : Binary64 → Int → Bool
  | .nan _, _ => false
  | .infinity negative, _ => negative
  | x@(.finite ..), n => x.ratio?.any fun r => r.1 ≤ n * r.2

/-- Whether a number is exactly the whole number `n`. -/
def equalsInt (x : Binary64) (n : Int) : Bool := x.ratio?.any fun r => r.1 = n * r.2

/-- Equality of numbers: the two zeros are equal and `nan` equals nothing. -/
def equals (x y : Binary64) : Bool :=
  match x.ratio?, y.ratio? with
  | some r, some s => r.1 * s.2 = s.1 * r.2
  | none, none => x == y && !x.isNan
  | _, _ => false

/-- Whether two data are equal or one and the same. Unlike equality, this holds of `nan` and
itself. -/
def alike (x y : Binary64) : Bool := x == y || x.equals y

example : (nan 1).equals (nan 1) = false ∧ (nan 1).alike (nan 1) = true ∧
    (nan 1).alike (nan 2) = false := by decide

end Binary64

end DmxNet
