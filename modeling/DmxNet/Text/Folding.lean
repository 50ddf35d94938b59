/-!
# Folding digits and blanks

A number may be written in the decimal digits of any script and set off by any blank of
Unicode. `fold` puts such text into ASCII: a decimal digit becomes the ASCII digit of the
same value, a blank becomes a space, and any other character outside ASCII becomes a question
mark, which no number has. Text that is ASCII already is left alone. The tables are those of
version 14.0 of the Unicode character database.
-/

namespace DmxNet.Text

/-- The zeros of the decimal digits outside ASCII; the nine digits after each zero follow it. -/
def digitZeros : List Nat :=
  [1632, 1776, 1984, 2406, 2534, 2662, 2790, 2918, 3046, 3174, 3302, 3430, 3558, 3664, 3792,
   3872, 4160, 4240, 6112, 6160, 6470, 6608, 6784, 6800, 6992, 7088, 7232, 7248, 42528, 43216,
   43264, 43472, 43504, 43600, 44016, 65296, 66720, 68912, 69734, 69872, 69942, 70096, 70384,
   70736, 70864, 71248, 71360, 71472, 71904, 72016, 72784, 73040, 73120, 92768, 92864, 93008,
   120782, 120792, 120802, 120812, 120822, 123200, 123632, 125264, 130032]

/-- The blanks outside ASCII. -/
def wideBlanks : List Nat :=
  [133, 160, 5760, 8192, 8193, 8194, 8195, 8196, 8197, 8198, 8199, 8200, 8201, 8202, 8232, 8233,
   8239, 8287, 12288]

/-- The value of a decimal digit outside ASCII. -/
def wideDigit? (c : Char) : Option Nat :=
  (digitZeros.find? fun z => z ≤ c.toNat && c.toNat < z + 10).map fun z => c.toNat - z

/-- The ASCII blanks: space, tab, line feed, vertical tab, form feed and carriage return. -/
def isBlank (c : Char) : Bool := c == ' ' || 9 ≤ c.toNat && c.toNat ≤ 13

/-- A character in ASCII. -/
def foldChar (c : Char) : Char :=
  if c.toNat < 128 then c
  else if wideBlanks.contains c.toNat then ' '
  else
    match wideDigit? c with
    | some d => Char.ofNat ('0'.toNat + d)
    | none => '?'

/-- Text in ASCII. -/
def fold (cs : List Char) : List Char := cs.map foldChar

example : fold ['٤', '\u00a0', '2', 'é'] = ['4', ' ', '2', '?'] := by decide

end DmxNet.Text
