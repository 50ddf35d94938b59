import DmxNet.Console.Tools

/-!
# Requests to the console

A request names a tool and gives its arguments by name; an argument that is not given takes its
default. Asking for a tool with an argument that it does not have, or without one that it needs,
is a fault before anything is done.
-/

namespace DmxNet

/-- What the console can be asked for. -/
inductive Request where
  | connect (settings : Settings)
  | disconnect
  | sendFrame (port data physical sequenced : Value)
  | blackout (port channels : Value)
  | sendTimecode (hours minutes seconds frames keyType stream : Value)
  | receivePacket (timeout : Value)
  | encodeFrame (port data sequence : Value)
  | decodePacket (packet : Value)
  | opcodes
  | status
  | scene (description port : Value)

namespace Request

/-- Arguments by name. -/
abbrev Arguments := List (String × Value)

/-- One value for each parameter, in their order: the one given by name, or the default. -/
def arrange (parameters : List (String × Option Value)) (args : Arguments) :
    Except Fault (List Value) :=
  if args.all fun a => parameters.any fun p => p.1 == a.1 then
    parameters.mapM fun p => orFault .mismatch (args.lookup p.1 <|> p.2)
  else .error .mismatch

/-- The settings that arguments give to a connection. -/
def settings (args : Arguments) : Except Fault Settings := do
  let base : Settings := {}
  match ← arrange
    [("target", some base.target), ("port", some base.port), ("bind", some base.bind),
     ("broadcast", some base.broadcast)] args with
  | [target, port, bind, broadcast] => return ⟨target, port, bind, broadcast⟩
  | _ => .error .mismatch

/-- The request that the name of a tool and arguments make; nothing if there is no such tool. -/
def ofCall? (tool : String) (args : Arguments) : Option (Except Fault Request) :=
  match tool with
  | "connect" => some ((settings args).map .connect)
  | "disconnect" => some do
    match ← arrange [] args with
    | [] => return .disconnect
    | _ => .error .mismatch
  | "send_dmx" => some do
    match ← arrange
      [("port_address", none), ("data", none), ("physical", some (.int 0)),
       ("sequenced", some (.bool true))] args with
    | [port, data, physical, sequenced] => return .sendFrame port data physical sequenced
    | _ => .error .mismatch
  | "blackout" => some do
    match ← arrange
      [("port_address", none), ("channels", some (.int Packet.maxChannels))] args with
    | [port, channels] => return .blackout port channels
    | _ => .error .mismatch
  | "send_timecode" => some do
    match ← arrange
      [("hours", none), ("minutes", none), ("seconds", none), ("frames", none),
       ("key_type", some (.int Packet.defaultKeyType)), ("stream_id", some (.int 0))] args with
    | [hours, minutes, seconds, frames, keyType, stream] =>
      return .sendTimecode hours minutes seconds frames keyType stream
    | _ => .error .mismatch
  | "receive_packet" => some do
    match ← arrange [("timeout_ms", some defaultTimeout)] args with
    | [timeout] => return .receivePacket timeout
    | _ => .error .mismatch
  | "encode_dmx" => some do
    match ← arrange
      [("port_address", none), ("data", none), ("sequence", some (.int 0))] args with
    | [port, data, sequence] => return .encodeFrame port data sequence
    | _ => .error .mismatch
  | "decode_packet" => some do
    match ← arrange [("packet_hex", none)] args with
    | [packet] => return .decodePacket packet
    | _ => .error .mismatch
  | "resource_opcodes" => some do
    match ← arrange [] args with
    | [] => return .opcodes
    | _ => .error .mismatch
  | "resource_connection_status" => some do
    match ← arrange [] args with
    | [] => return .status
    | _ => .error .mismatch
  | "program_scene" => some do
    match ← arrange [("description", none), ("port_address", some (.int 1))] args with
    | [description, port] => return .scene description port
    | _ => .error .mismatch
  | _ => none

/-- Does what is asked for. -/
def serve : Request → Service Reply
  | .connect settings => Console.connect settings
  | .disconnect => Console.disconnect
  | .sendFrame port data physical sequenced => Console.sendFrame port data physical sequenced
  | .blackout port channels => Console.blackout port channels
  | .sendTimecode hours minutes seconds frames keyType stream =>
    Console.sendTimecode hours minutes seconds frames keyType stream
  | .receivePacket timeout => Console.receivePacket timeout
  | .encodeFrame port data sequence => Procedure.conclude (Console.encodeFrame port data sequence)
  | .decodePacket packet => Procedure.conclude (Console.decodePacket packet)
  | .opcodes => return .text Console.opcodes
  | .status => Console.status
  | .scene description port => Procedure.conclude (Console.scene description port)

end Request

end DmxNet
