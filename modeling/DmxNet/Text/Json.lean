import DmxNet.Text.Quoted

/-!
# JSON text

Text between double quotes in which everything but printable ASCII is escaped, characters beyond
U+FFFF as a pair of surrogates; and the lists and objects of such texts, with a blank after each
comma and colon.
-/

namespace DmxNet.Json

/-- A number as `\u` and four lower-case hexadecimal digits. -/
def unit (n : Nat) : List Char := '\\' :: 'u' :: Text.hexNumber 4 n

/-- A character between quotes. -/
def escape (c : Char) : List Char :=
  let n := c.toNat
  if c == '"' || c == '\\' then ['\\', c]
  else if c == '\n' then ['\\', 'n']
  else if c == '\r' then ['\\', 'r']
  else if c == '\t' then ['\\', 't']
  else if n = 8 then ['\\', 'b']
  else if n = 12 then ['\\', 'f']
  else if Text.isGraphic c then [c]
  else if n < 0x10000 then unit n
  else unit (0xD800 + (n - 0x10000) / 0x400) ++ unit (0xDC00 + (n - 0x10000) % 0x400)

/-- Text between double quotes. -/
def quote (s : String) : String := String.ofList ('"' :: s.toList.flatMap escape ++ ['"'])

/-- The items of a list, each already written. -/
def array (items : List String) : String := "[" ++ ", ".intercalate items ++ "]"

/-- The entries of an object, each value already written. -/
def object (entries : List (String × String)) : String :=
  "\x7b" ++ ", ".intercalate (entries.map fun e => quote e.1 ++ ": " ++ e.2) ++ "\x7d"

end DmxNet.Json
