import DmxNet.Numeric.Binary64

/-!
# Shortest decimal text

The text of a binary64 number is the one with the fewest digits that still reads back as the
number, and of several such the nearest to it. The numbers that read back as `m · 2 ^ e` fill
the interval between the midpoints to its two neighbours, ends included when `m` is even, so
the digits are found on the coarsest decimal grid that has a point in that interval. How the
digits are then laid out (`DecimalStyle`) is a separate decision.
-/

namespace DmxNet.Shortest

/-- The numbers that read back as one number: bounds and middle over a common denominator. -/
structure Interval where
  low : Nat
  middle : Nat
  high : Nat
  den : Nat
  /-- Whether the bounds themselves read back. -/
  closed : Bool

/-- The interval of a positive finite number. Below a power of two the lower gap is halved. -/
def Interval.of (m : Nat) (e : Int) : Interval :=
  let lowGap := if m = Binary64.hiddenBit ∧ -1074 < e then 1 else 2
  let up := (e - 2).toNat
  { low := (4 * m - lowGap) <<< up, middle := (4 * m) <<< up, high := (4 * m + 2) <<< up,
    den := 1 <<< (2 - e).toNat, closed := m % 2 == 0 }

/-- The point of the grid of multiples of `10 ^ g` that reads back and is nearest, if any. -/
def Interval.onGrid? (i : Interval) (g : Int) : Option Nat :=
  let a := Nat.pow 10 (-g).toNat
  let b := i.den * Nat.pow 10 g.toNat
  let below := i.middle * a / b
  let above := below + 1
  let reads (c : Nat) : Bool :=
    if i.closed then i.low * a ≤ c * b && c * b ≤ i.high * a
    else i.low * a < c * b && c * b < i.high * a
  match reads below, reads above with
  | false, false => none
  | true, false => some below
  | false, true => some above
  | true, true =>
    let down := i.middle * a - below * b
    let up := above * b - i.middle * a
    some (if down < up then below else if up < down then above else below + below % 2)

/-- The first grid with a point, looked for from `10 ^ g` down over `fuel` grids. -/
def Interval.search (i : Interval) : Nat → Int → Nat × Int
  | 0, g => (i.middle / i.den, g)
  | fuel + 1, g =>
    match i.onGrid? g with
    | some c => (c, g)
    | none => i.search fuel (g - 1)

/-- The shortest digits of a positive finite number and the power of ten of the last digit. -/
def digits (m : Nat) (e : Int) : Nat × Int :=
  let i := Interval.of m e
  let top := (Nat.toDigits 10 (i.middle / i.den)).length
  i.search (top + 330) top

/-- How digits are laid out as text. -/
structure DecimalStyle where
  /-- The least power of ten of the first digit that is written without an exponent. -/
  leastPlain : Int
  /-- The first power of ten of the first digit that is written with an exponent. -/
  plainBelow : Int
  /-- What follows a number that has no fraction. -/
  wholeSuffix : String
  /-- The least number of digits in an exponent. -/
  exponentDigits : Nat
  /-- What stands for no number. -/
  nan : String
  /-- What stands for an infinity, without its sign. -/
  infinity : String

/-- Digits between `10 ^ -4` and `10 ^ 16` are written plainly, and a whole number keeps `.0`. -/
def plain : DecimalStyle :=
  { leastPlain := -4, plainBelow := 16, wholeSuffix := ".0", exponentDigits := 2,
    nan := "nan", infinity := "inf" }

/-- The digits `ds` with the last one at `10 ^ g`, laid out. -/
def DecimalStyle.layOut (style : DecimalStyle) (ds : List Char) (g : Int) : String :=
  let first : Int := g + ds.length - 1
  if style.leastPlain ≤ first ∧ first < style.plainBelow then
    if 0 ≤ g then String.ofList (ds ++ List.replicate g.toNat '0') ++ style.wholeSuffix
    else if 0 ≤ first then
      let whole := (first + 1).toNat
      String.ofList (ds.take whole ++ '.' :: ds.drop whole)
    else String.ofList ('0' :: '.' :: List.replicate (-first - 1).toNat '0' ++ ds)
  else
    let exponent := Nat.toDigits 10 first.natAbs
    let filled := List.replicate (style.exponentDigits - exponent.length) '0' ++ exponent
    let fraction := if ds.length ≤ 1 then [] else '.' :: ds.drop 1
    String.ofList (ds.take 1 ++ fraction ++ 'e' :: (if first < 0 then '-' else '+') :: filled)

/-- The text of a number. -/
def DecimalStyle.write (style : DecimalStyle) : Binary64 → String
  | .nan _ => style.nan
  | .infinity negative => (if negative then "-" else "") ++ style.infinity
  | .finite negative m e =>
    let sign := if negative then "-" else ""
    if m = 0 then sign ++ style.layOut ['0'] 0
    else
      let found := digits m e
      sign ++ style.layOut (Nat.toDigits 10 found.1) found.2

end DmxNet.Shortest
