import DmxNet.Console.Basic
import DmxNet.Text.Hex

/-!
# Tools of the console

Opening and closing the connection, sending frames and time codes, receiving, and coding packets
without sending them. A tool answers a command that cannot be composed or encoded, or a packet
that cannot be decoded, with the reason; other faults are its own.
-/

namespace DmxNet.Console

open Procedure (conclude)
open Service

/-! ### Connection -/

/-- Opens a connection, unless one is open. A connection that fails to open takes the place of
the former one all the same. -/
def connect (settings : Settings) : Service Reply := do
  match (← get).connection with
  | some c => if c.connected then return .alreadyConnected c.settings.target
  | none => pure ()
  let opened ← through { settings } Transport.openSocket
  return .connected opened.target opened.port opened.bind

/-- Closes the connection and forgets all sequence numbers. -/
def disconnect : Service Reply := do
  match (← get).connection with
  | none => return .disconnected
  | some c =>
    through c Transport.closeSocket
    modify fun c => { c with connection := none, sequences := [] }
    return .disconnected

/-! ### Frames -/

/-- The command that carries channel levels. -/
def frame (sequence physical port data : Value) : Except Fault Value :=
  Packet.output.make
    [("sequence", sequence), ("physical", physical), ("port_address", port), ("data", data)]

/-- Composes a frame and sends it. -/
def composeAndSend (c : Connection) (port data physical : Value) (numbered : Bool) :
    Service (Value × Nat) := do
  let sequence ← if numbered then nextSequence port else pure 0
  let command ← conclude (frame (.int sequence) physical port data)
  let bytes ← through c (Transport.sendCommand command none)
  return (command, bytes)

/-- Sends one frame of channel levels to a universe. -/
def sendFrame (port data physical sequenced : Value) : Service Reply := do
  let c ← openConnection
  match ← (composeAndSend c port data physical sequenced.truth).outcome with
  | .error fault =>
    if fault.isRefusal then
      let shown ← conclude port.logged
      note .warning ("send_dmx to " ++ shown ++ " failed: " ++ fault.message)
      return .refused fault.message
    else throw fault
  | .ok (command, bytes) =>
    let sequence ← conclude (Packet.part command "sequence")
    let levels ← conclude (Packet.part command "data")
    if sequenced.truth then recordSequence port (← conclude sequence.whole)
    return .sentOutput bytes port (← conclude levels.size) sequence

/-- Sets every channel of a universe to zero. The count of channels is judged first. -/
def blackout (port channels : Value) : Service Reply := do
  if ← conclude (channels.within 1 Packet.maxChannels) then
    let n ← conclude channels.whole
    sendFrame port (.list (List.replicate n.toNat (.int 0))) (.int 0) (.bool true)
  else
    return .refused ("Channels must be 1-" ++ Digits.decimal Packet.maxChannels)

/-! ### Time codes -/

/-- The command that carries a time code. -/
def position (hours minutes seconds frames keyType stream : Value) : Except Fault Value :=
  Packet.timecode.make
    [("stream_id", stream), ("frames", frames), ("seconds", seconds), ("minutes", minutes),
     ("hours", hours), ("key_type", keyType)]

/-- Composes a time code and sends it. -/
def composeAndSendPosition (c : Connection)
    (hours minutes seconds frames keyType stream : Value) : Service (Value × Nat) := do
  let command ← conclude (position hours minutes seconds frames keyType stream)
  let bytes ← through c (Transport.sendCommand command none)
  return (command, bytes)

/-- Sends a time code. -/
def sendTimecode (hours minutes seconds frames keyType stream : Value) : Service Reply := do
  let c ← openConnection
  match ← (composeAndSendPosition c hours minutes seconds frames keyType stream).outcome with
  | .error fault => if fault.isRefusal then return .refused fault.message else throw fault
  | .ok (command, bytes) =>
    return .sentTimecode bytes (← conclude command.plain) stream

/-! ### Packets -/

/-- Waits for the next packet and describes it. -/
def receivePacket (timeout : Value) : Service Reply := do
  let c ← openConnection
  match ← through c (Transport.receiveCommand timeout) with
  | none => return .refused "No valid Art-Net packet received"
  | some command => return .described (← conclude (Packet.describe command))

/-- The packet of a frame, without sending it. -/
def encodeFrame (port data sequence : Value) : Except Fault Reply :=
  match frame sequence (.int 0) port data >>= Packet.encode with
  | .ok packet => .ok (.encoded (Hex.encodeSpaced packet) packet.length)
  | .error fault => if fault.isRefusal then .ok (.refused fault.message) else .error fault

/-- Describes the packet that hexadecimal text denotes. -/
def decodePacket : Value → Except Fault Reply
  | .scalar (.text s) =>
    match Hex.decode s with
    | .error position =>
      .ok (.refused ("Invalid hex: " ++ (Fault.invalid (.hexDigit position)).message))
    | .ok packet =>
      match Packet.decode packet with
      | .ok command => (Packet.describe command).map .described
      | .error fault => if fault.isProtocol then .ok (.refused fault.message) else .error fault
  | _ => .error .mismatch

/-! ### Texts -/

/-- What the console can encode and decode, as JSON text. -/
def opcodes : String :=
  Json.object
    [("protocol_version", Digits.decimal (bigValue Packet.version)),
     ("opcodes", Json.object (Packet.Kind.all.map fun k =>
        (k.name, Json.quote ("0x" ++ Digits.fourHex k.opcode)))),
     ("max_port_address", Digits.decimal PortAddress.limit),
     ("max_channels", Digits.decimal Packet.maxChannels)]

/-- The status of a connection as JSON text. -/
def statusOf : Option Connection → Except Fault String
  | some c =>
    if c.connected then do
      let target ← c.settings.target.json
      let port ← c.settings.port.json
      let bind ← c.settings.bind.json
      let broadcast ← c.settings.broadcast.json
      return Json.object
        [("connected", "true"), ("target", target), ("port", port), ("bind", bind),
         ("broadcast", broadcast)]
    else .ok (Json.object [("connected", "false")])
  | none => .ok (Json.object [("connected", "false")])

/-- The status of the console's connection. -/
def status : Service Reply := do
  return .text (← conclude (statusOf (← get).connection))

/-- A request to design a scene for a universe. -/
def scene (description port : Value) : Except Fault Reply := do
  let address ← PortAddress.ofValue port
  let look ← description.plain
  let shown ← port.plain
  return .text
    ("Create a lighting scene: " ++ look ++ ".\n" ++
     "Target Port-Address " ++ shown ++ " (Net " ++ Digits.decimal address.net ++ ").\n" ++
     "Consider:\n" ++
     "- Which channels drive intensity and which drive colour\n" ++
     "- Keeping unused channels at 0\n" ++
     "- Sending at least one channel and no more than " ++
       Digits.decimal Packet.maxChannels ++ "\n\n" ++
     "Use the send_dmx tool to output the scene and blackout to clear it.")

end DmxNet.Console
