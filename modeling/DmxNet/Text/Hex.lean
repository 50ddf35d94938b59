import DmxNet.Text.Folding
import DmxNet.Text.Quoted

/-!
# Hexadecimal text of bytes

Bytes are written as pairs of lower-case digits, run together or set apart by single spaces.
Reading takes digits of either case and any ASCII blanks before, between and after the pairs,
none inside a pair; text that is refused is refused at the first character that cannot go on to a
valid spelling.
-/

namespace DmxNet.Hex

/-- The two digits of a byte. -/
def pair (b : UInt8) : List Char := Text.hexNumber 2 b.toNat

/-- Bytes as pairs of digits, run together. -/
def encode (bs : List UInt8) : String := String.ofList (bs.flatMap pair)

/-- Pairs of digits with a space between each two. -/
def spacedPairs : List UInt8 → List Char
  | [] => []
  | [b] => pair b
  | b :: bs => pair b ++ ' ' :: spacedPairs bs

/-- Bytes as pairs of digits, set apart by single spaces. -/
def encodeSpaced (bs : List UInt8) : String := String.ofList (spacedPairs bs)

/-- The value of a digit of either case. -/
def digit? (c : Char) : Option Nat :=
  let n := c.toNat
  if '0'.toNat ≤ n ∧ n ≤ '9'.toNat then some (n - '0'.toNat)
  else if 'a'.toNat ≤ n ∧ n ≤ 'f'.toNat then some (n - 'a'.toNat + 10)
  else if 'A'.toNat ≤ n ∧ n ≤ 'F'.toNat then some (n - 'A'.toNat + 10)
  else none

/-- Reads pairs from position `at`; a refusal gives the position of the first bad character. -/
def decodeFrom (pos : Nat) : List Char → Except Nat (List UInt8)
  | [] => .ok []
  | c :: cs =>
    if Text.isBlank c then decodeFrom (pos + 1) cs
    else match digit? c, cs with
      | none, _ => .error pos
      | some _, [] => .error (pos + 1)
      | some high, d :: cs =>
        match digit? d with
        | none => .error (pos + 1)
        | some low =>
          (decodeFrom (pos + 2) cs).map fun bs => UInt8.ofNat (16 * high + low) :: bs

/-- Reads pairs of digits. A character outside ASCII is refused before anything else. -/
def decode (s : String) : Except Nat (List UInt8) :=
  let cs := s.toList
  match cs.findIdx? fun c => 128 ≤ c.toNat with
  | some pos => .error pos
  | none => decodeFrom 0 cs

end DmxNet.Hex
