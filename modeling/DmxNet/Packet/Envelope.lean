import DmxNet.Schema.Parse
import DmxNet.Schema.Serialize
import DmxNet.Value.Text

/-!
# Packets

A packet is the header, the opcode of a command and the command's body. Decoding reads these
three in turn and stops at the first that is no good; what follows a body that knows its size is
not looked at. Encoding takes a command and nothing else.
-/

namespace DmxNet.Packet

/-- Whether a datagram starts with the header. -/
def hasHeader (data : Bytes) : Bool := data.take header.length == header

/-- Whether a value starts with the header; text and lists have a start, but never that one. -/
def startsWithHeader : Value → Except Fault Bool
  | .scalar (.bytes data) => .ok (hasHeader data)
  | .scalar (.text _) | .list _ => .ok false
  | _ => .error .mismatch

/-- Reads a packet. -/
def reader : Reader Value := do
  let received ← Cursor.read header.length
  if received ≠ header then throw (.badHeader (.bytes received))
  let opcode ← Cursor.readNumber 2 .little
  match Kind.ofOpcode? opcode with
  | some kind => kind.schema.read
  | none => throw (.unknownOpcode (.int opcode))

/-- The command of one complete packet. -/
def decode (data : Bytes) : Except Fault Value := (reader.run (Cursor.start data)).1

/-- The command of one complete packet, given as any value that has bytes. -/
def decodeValue (packet : Value) : Except Fault Value := packet.toBytes >>= decode

/-- The command that a value is. -/
def kind? : Value → Option Kind
  | .record s _ => Kind.ofSchema? s
  | _ => none

/-- Writes a packet around a body. -/
def writer (kind : Kind) (body : Writer Unit) : Writer Unit := do
  Writer.append header
  Writer.append (littleBytes 2 kind.opcode)
  body

/-- The name under which a command shows its opcode. -/
def opcodeName : String := "OPCODE"

/-- The refusal of a value that is no command, with what it shows for an opcode. An opcode that no
table could hold is a fault of its own, and so is one that cannot be looked for. -/
def refuse (opcode : Option Value) (v : Value) : Except Fault α := do
  match opcode with
  | some code => discard code.key
  | none => Action.seek.ofKind v
  let shown ← v.shown
  .error (.notCommand shown)

/-- The packet of a command. -/
def encode (command : Value) : Except Fault Bytes :=
  match kind? command with
  | some kind => (writer kind (command.write none)).bytes
  | none => refuse (command.field? opcodeName) command

end DmxNet.Packet
