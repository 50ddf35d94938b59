import DmxNet.Numeric.Binary64
import DmxNet.Numeric.Digits
import DmxNet.Text.Folding

/-!
# Reading numbers

A whole number is written as blanks, an optional sign, decimal digits with single underscores
between them, and blanks. A real number is written with an optional sign, digits, an optional
fraction and an optional exponent, or by name; it too may stand between blanks and have single
underscores between its digits.
-/

namespace DmxNet.Literal

/-! ### Whole numbers -/

/-- Why text is not a whole number that can be read. -/
inductive Defect where
  /-- The text has another form. -/
  | malformed
  /-- The text has the form, with more digits than are read. -/
  | tooManyDigits (count : Nat)
  deriving DecidableEq, Repr

/-- The number that decimal digits denote. -/
def ofDigits (ds : List Char) : Nat :=
  ds.foldl (fun n d => 10 * n + (d.toNat - '0'.toNat)) 0

/-- Whether underscores stand singly between digits; `inside` says that a digit came before. -/
def grouped (inside : Bool) : List Char → Bool
  | [] => inside
  | '_' :: cs => inside && grouped false cs
  | _ :: cs => grouped true cs

/-- Splits off a sign; the first part says whether the number is negative. -/
def takeSign : List Char → Bool × List Char
  | '-' :: cs => (true, cs)
  | '+' :: cs => (false, cs)
  | cs => (false, cs)

/-- Gives a number its sign. -/
def signed (negative : Bool) (n : Nat) : Int := if negative then -n else n

/-- Reads a whole number. The count of digits is judged before what follows them. -/
def integer (cs : List Char) : Except Defect Int :=
  let (negative, cs) := takeSign (cs.dropWhile Text.isBlank)
  let inBody (c : Char) : Bool := c.isDigit || c == '_'
  let body := cs.takeWhile inBody
  let digits := body.filter Char.isDigit
  if !grouped false body then .error .malformed
  else if Digits.limit < digits.length then .error (.tooManyDigits digits.length)
  else if (cs.dropWhile inBody).all Text.isBlank then .ok (signed negative (ofDigits digits))
  else .error .malformed

/-- Reads a whole number from text, in the digits of any script. -/
def integerOfText (s : String) : Except Defect Int := integer (Text.fold s.toList)

/-- Reads a whole number from bytes, which are taken as ASCII. -/
def integerOfBytes (bs : List UInt8) : Except Defect Int :=
  integer (bs.map fun b => Char.ofNat b.toNat)

/-! ### Real numbers -/

/-- The number `± n · 10 ^ e`, rounded once. Far outside the range no power is formed. -/
def ofScientific (negative : Bool) (n : Nat) (e : Int) : Binary64 :=
  if n = 0 then .ofRatio negative 0 1
  else if 400 < e then .infinity negative
  else if e < -400 - (n.log2 : Int) then .ofRatio negative 0 1
  else if 0 ≤ e then .ofRatio negative (n * Nat.pow 10 e.toNat) 1
  else .ofRatio negative n (Nat.pow 10 (-e).toNat)

/-- Reads an exponent: nothing at all, or a mark, a sign and digits. -/
def exponent? : List Char → Option Int
  | [] => some 0
  | c :: cs =>
    let (negative, ds) := takeSign cs
    if (c == 'e' || c == 'E') && !ds.isEmpty && ds.all Char.isDigit then
      some (signed negative (ofDigits ds))
    else none

/-- Reads a real number without its sign; what is no number gets the payload. -/
def magnitude? (payload : Nat) (negative : Bool) (cs : List Char) : Option Binary64 :=
  let name := String.ofList (cs.map Char.toLower)
  if name == "nan" then some (.nan payload)
  else if name == "inf" || name == "infinity" then some (.infinity negative)
  else
    let whole := cs.takeWhile Char.isDigit
    let rest := cs.dropWhile Char.isDigit
    let (fraction, rest) := match rest with
      | '.' :: ds => (ds.takeWhile Char.isDigit, ds.dropWhile Char.isDigit)
      | ds => ([], ds)
    if whole.isEmpty && fraction.isEmpty then none
    else (exponent? rest).map fun e =>
      ofScientific negative (ofDigits (whole ++ fraction)) (e - fraction.length)

/-- Whether every underscore stands between two digits; `inside` says that a digit came before. -/
def separated (inside : Bool) : List Char → Bool
  | [] => true
  | '_' :: c :: cs => inside && c.isDigit && separated true cs
  | '_' :: [] => false
  | c :: cs => separated c.isDigit cs

/-- Text without the blanks around it. -/
def trimmed (cs : List Char) : List Char :=
  ((cs.dropWhile Text.isBlank).reverse.dropWhile Text.isBlank).reverse

/-- Reads a real number from text, in the digits of any script; what is no number gets the
payload. -/
def real? (payload : Nat) (s : String) : Option Binary64 :=
  let cs := trimmed (Text.fold s.toList)
  if separated false cs then
    let (negative, cs) := takeSign (cs.filter fun c => c != '_')
    magnitude? payload negative cs
  else none

end DmxNet.Literal
