/-!
# Whole numbers as text

Decimal text of a whole number, and text filled with zeros to a least width. A minus sign stands
before the fill and counts in the width, so `-1` to width four is `-001`.
-/

namespace DmxNet.Digits

/-- The digits of a number in a base up to sixteen, capital letters above nine. -/
def upper (base n : Nat) : List Char := (Nat.toDigits base n).map Char.toUpper

/-- A whole number in a base, filled with zeros to a least width. -/
def filled (width base : Nat) (n : Int) : List Char :=
  let sign := if n < 0 then ['-'] else []
  let digits := upper base n.natAbs
  sign ++ List.replicate (width - sign.length - digits.length) '0' ++ digits

/-- A whole number in decimal. -/
def decimal (n : Int) : String := String.ofList (filled 0 10 n)

/-- A whole number in decimal, at least two characters wide. -/
def twoPlaces (n : Int) : String := String.ofList (filled 2 10 n)

/-- A whole number in base sixteen, at least four characters wide. -/
def fourHex (n : Int) : String := String.ofList (filled 4 16 n)

example : fourHex 0x97 = "0097" ∧ fourHex (-1) = "-001" ∧ twoPlaces (-5) = "-5" := by decide

/-- The most decimal digits that a number may have to be read from or written as text. -/
def limit : Nat := 4300

/-- Whether a number is short enough to be written as text. -/
def writable (n : Int) : Bool :=
  -- The power is so large that it is left alone for numbers that are small anyway.
  n.natAbs < 0x10000000000000000 || n.natAbs < Nat.pow 10 limit

end DmxNet.Digits
