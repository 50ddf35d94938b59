import DmxNet.Value.Conversion
import DmxNet.Value.Text

/-!
# Descriptions of commands

What a parsed command says, in the terms of its readers: numbers for the version and the parts of
the Port-Address, a clock for a time code, and the frame rate of its type, if that is known.
-/

namespace DmxNet.Packet

/-- The frame rates of the types of time code, as fractions. -/
def frameRates : List (Int × Nat × Nat) := [(0, 24, 1), (1, 25, 1), (2, 2997, 100), (3, 30, 1)]

/-- The frame rate of a type of time code. -/
def frameRate? (keyType : Value) : Option Binary64 :=
  (frameRates.find? fun r => keyType.equals (.int r.1)).map fun r => .ofRatio false r.2.1 r.2.2

/-- The type that is sent when none is asked for: thirty frames per second. -/
def defaultKeyType : Int := 3

/-- What a command says. -/
inductive Description where
  | output (version : Nat) (sequence physical : Value) (port : PortAddress) (length : Int)
    (data : Bytes)
  | timecode (version : Nat) (stream : Value) (clock : String) (keyType : Value)
    (rate : Option Binary64)

/-- A field of a command. -/
def part (command : Value) (name : String) : Except Fault Value :=
  orFault .missing (command.field? name)

/-- The version in a command's body. -/
def versionOf (command : Value) : Except Fault Nat := do
  match ← part command "version" with
  | .scalar (.bytes bs) => return bigValue bs
  | _ => .error .mismatch

/-- The Port-Address in a command's body. -/
def portOf (command : Value) : Except Fault PortAddress := do
  match ← part command "port_address" with
  | .scalar (.port p) => return p
  | _ => .error .missing

/-- Describes a command that carries channel levels. -/
def describeOutput (command : Value) : Except Fault Description := do
  let version ← versionOf command
  let sequence ← part command "sequence"
  let physical ← part command "physical"
  let port ← portOf command
  let length ← (← part command "length").toInteger
  let data ← (← part command "data").toBytes
  return .output version sequence physical port length data

/-- Describes a command that carries a time code. -/
def describeTimecode (command : Value) : Except Fault Description := do
  let version ← versionOf command
  let stream ← part command "stream_id"
  let clock ← command.plain
  let keyType ← part command "key_type"
  return .timecode version stream clock keyType (frameRate? keyType)

/-- Describes a command. -/
def describe (command : Value) : Except Fault Description :=
  match command with
  | .record s _ => if s = output then describeOutput command else describeTimecode command
  | _ => describeTimecode command

end DmxNet.Packet
