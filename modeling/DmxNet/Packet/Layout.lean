import DmxNet.Schema.Basic

/-!
# Layout of the packets

Every packet starts with an eight-byte header and a two-byte opcode, low byte first. After them
comes the body of one of two commands.

`output` carries one universe of channel levels:

    Version 2 | Sequence 1 | Physical 1 | Port-Address 2 | Length 2 | Data 2–512, even

`timecode` carries a position in time:

    Version 2 | Filler 1 | Stream 1 | Frames 1 | Seconds 1 | Minutes 1 | Hours 1 | Type 1

The version and the length are sent high byte first, the Port-Address low byte first.
-/

namespace DmxNet.Packet

/-- The header of every packet: `Art-Net` and a zero byte. -/
def header : Bytes := [0x41, 0x72, 0x74, 0x2D, 0x4E, 0x65, 0x74, 0x00]

/-- The version of the protocol, as it is sent. -/
def version : Bytes := [0x00, 0x0E]

/-- The most channels that a packet carries. -/
def maxChannels : Nat := 512

/-- The byte counts of channel data that may be sent: from the first up to the second. -/
def allowedSizes : Nat × Nat := (2, maxChannels + 1)

/-- The body that carries channel levels. -/
def output : Schema :=
  { tag := 0, name := "Output",
    fields :=
      [⟨"version", .fixed 2, some (.bytes version)⟩,
       ⟨"sequence", .uint 1 .big, some (.int 0)⟩,
       ⟨"physical", .uint 1 .big, some (.int 0)⟩,
       ⟨"port_address", .port, some (.int 1)⟩,
       ⟨"length", .length, some .none⟩,
       ⟨"data", .payload, some (.bytes [])⟩] }

/-- The body that carries a time code. -/
def timecode : Schema :=
  { tag := 1, name := "Timecode",
    fields :=
      [⟨"version", .fixed 2, some (.bytes version)⟩,
       ⟨"filler1", .uint 1 .big, some (.int 0)⟩,
       ⟨"stream_id", .uint 1 .big, some (.int 0)⟩,
       ⟨"frames", .uint 1 .big, some (.int 0)⟩,
       ⟨"seconds", .uint 1 .big, some (.int 0)⟩,
       ⟨"minutes", .uint 1 .big, some (.int 0)⟩,
       ⟨"hours", .uint 1 .big, some (.int 0)⟩,
       ⟨"key_type", .uint 1 .big, some (.int 0)⟩] }

/-- The first tag that is free for other schemas. -/
def firstFreeTag : Nat := 2

/-! ### Opcodes -/

/-- The commands that have a packet. -/
inductive Kind where
  | output
  | timecode
  deriving DecidableEq, Repr

/-- The opcode of a command. -/
def Kind.opcode : Kind → Nat
  | output => 0x5000
  | timecode => 0x9700

/-- The name of a command's opcode. -/
def Kind.name : Kind → String
  | output => "OUTPUT"
  | timecode => "TIMECODE"

/-- The body of a command. -/
def Kind.schema : Kind → Schema
  | output => Packet.output
  | timecode => Packet.timecode

/-- All commands, in the order of their opcodes. -/
def Kind.all : List Kind := [output, timecode]

/-- The command of an opcode. -/
def Kind.ofOpcode? (opcode : Nat) : Option Kind := Kind.all.find? fun k => k.opcode == opcode

/-- The command whose body is laid out by a schema. -/
def Kind.ofSchema? (s : Schema) : Option Kind := Kind.all.find? fun k => k.schema = s

end DmxNet.Packet
