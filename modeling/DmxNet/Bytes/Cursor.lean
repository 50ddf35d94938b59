import DmxNet.Fault.Message
import DmxNet.Procedure

/-!
# Cursors

A cursor is a position in a datagram. Reading gives the bytes that follow and moves the position
past them; a reading that asks for more than is left fails and moves nothing. A size may be
negative: it always fits and moves the position backwards. A position outside the datagram is
allowed, with positions below zero counting from the end. The fault of a reading that does not fit
states how much was asked for, and a size that is too long to be written is a fault of its own.
-/

namespace DmxNet

/-- What is raised if more bytes are needed than there are. -/
def Fault.shortage (needed available : Int) : Fault :=
  (Fault.endOfInput (.int needed) (.int available)).raised

/-- A datagram and a position in it. -/
structure Cursor where
  data : Bytes
  position : Int
  deriving DecidableEq

/-- A procedure that reads at a cursor. -/
abbrev Reader := Procedure Cursor

namespace Cursor

/-- The start of a datagram. -/
def start (data : Bytes) : Cursor := ⟨data, 0⟩

/-- How many bytes are left; negative beyond the end. -/
def remaining (c : Cursor) : Int := c.data.length - c.position

/-- Reads a count of bytes. -/
def read (size : Int) : Reader Bytes := do
  let c ← get
  if c.remaining < size then throw (.shortage size c.remaining)
  set { c with position := c.position + size }
  return slice c.data c.position (c.position + size)

/-- Reads a whole number; its bytes are consumed even if their order is none. -/
def readNumber (size : Int) (order : ByteOrder) : Reader Nat := do
  let bs ← read size
  match order.decode? bs with
  | some n => return n
  | none => throw (.invalid .byteOrder)

/-- Reads all that is left. -/
def readRest : Reader Bytes := do
  let c ← get
  read c.remaining

/-! ### Running -/

theorem run_read (size : Int) (c : Cursor) :
    (read size).run c =
      if c.remaining < size then (.error (.shortage size c.remaining), c)
      else (.ok (slice c.data c.position (c.position + size)),
        { c with position := c.position + size }) := by
  unfold read
  by_cases h : c.remaining < size <;> simp [h]

theorem run_readNumber (size : Int) (order : ByteOrder) (c : Cursor) :
    (readNumber size order).run c =
      match (read size).run c with
      | (.ok bs, c) => (orFault (.invalid .byteOrder) (order.decode? bs), c)
      | (.error fault, c) => (.error fault, c) := by
  unfold readNumber
  rw [Procedure.run_bind]
  obtain ⟨fault | bs, d⟩ := (read size).run c
  · rfl
  · dsimp only
    cases order.decode? bs <;> rfl

theorem run_readRest (c : Cursor) :
    readRest.run c =
      (.ok (slice c.data c.position (c.position + c.remaining)),
        { c with position := c.position + c.remaining }) := by
  simp [readRest, run_read]

end Cursor

end DmxNet
