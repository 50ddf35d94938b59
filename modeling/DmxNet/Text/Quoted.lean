import DmxNet.Text.Printable

/-!
# Quoted text and bytes

Text is shown between single quotes, or between double quotes when it has a single quote and no
double one. The quote and the backslash are escaped, line breaks and tabs have short escapes, and
whatever else is not printable is escaped by its number. Bytes are shown in the same way after a
`b`, where everything outside ASCII is escaped.
-/

namespace DmxNet.Text

/-- A number in lower-case hexadecimal, filled to a width. -/
def hexNumber (width n : Nat) : List Char :=
  let ds := Nat.toDigits 16 n
  List.replicate (width - ds.length) '0' ++ ds

/-- The quote to use: double only for text that has a single quote and no double one. -/
def quoteFor (cs : List Char) : Char :=
  if cs.contains '\'' && !cs.contains '"' then '"' else '\''

/-- A character between the quotes `q`; `plain` says whether it may stand for itself. -/
def escape (plain : Char → Bool) (q c : Char) : List Char :=
  if c == q || c == '\\' then ['\\', c]
  else if c == '\n' then ['\\', 'n']
  else if c == '\r' then ['\\', 'r']
  else if c == '\t' then ['\\', 't']
  else if plain c then [c]
  else if c.toNat < 0x100 then '\\' :: 'x' :: hexNumber 2 c.toNat
  else if c.toNat < 0x10000 then '\\' :: 'u' :: hexNumber 4 c.toNat
  else '\\' :: 'U' :: hexNumber 8 c.toNat

/-- Characters between quotes. -/
def quoteChars (plain : Char → Bool) (cs : List Char) : List Char :=
  let q := quoteFor cs
  q :: cs.flatMap (escape plain q) ++ [q]

/-- Text between quotes. -/
def quote (s : String) : String := String.ofList (quoteChars isPrintable s.toList)

/-- Whether a byte stands for itself between quotes. -/
def isGraphic (c : Char) : Bool := 32 ≤ c.toNat && c.toNat < 127

/-- Bytes between quotes, after a `b`. -/
def quoteBytes (bs : List UInt8) : String :=
  String.ofList ('b' :: quoteChars isGraphic (bs.map fun b => Char.ofNat b.toNat))

end DmxNet.Text
