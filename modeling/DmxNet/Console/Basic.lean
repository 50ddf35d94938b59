import DmxNet.Network.Connection
import DmxNet.Packet.Description
import DmxNet.Value.Json

/-!
# Console

A console has at most one connection and a table of sequence numbers, one for each Port-Address
that numbered frames were sent to. The numbers go round from 1 to 255. A number is recorded only
once the frame that carries it was sent, so a frame that fails uses none up.
-/

namespace DmxNet

/-- Sequence numbers by Port-Address; keys that are equal are one key, as it was first given. -/
abbrev SequenceTable := List (Scalar × Int)

namespace SequenceTable

/-- The number last used for a key; zero if there is none. -/
def last (t : SequenceTable) (key : Scalar) : Int :=
  ((t.find? fun e => e.1.alike key).map Prod.snd).getD 0

/-- The number that comes after another. -/
def after (n : Int) : Int := n % 255 + 1

/-- Records the number used for a key. -/
def put : SequenceTable → Scalar → Int → SequenceTable
  | [], key, n => [(key, n)]
  | (k, m) :: t, key, n => if k.alike key then (k, n) :: t else (k, m) :: put t key n

/-- The whole number that a key stands for, if it stands for one. -/
def address? : Scalar → Option Int
  | .port p => some p.value
  | key => key.whole?

/-- The numbers by the Port-Addresses that their keys stand for, in rising order. -/
def entries (t : SequenceTable) : List (Int × Int) :=
  (t.filterMap fun e => (address? e.1).map fun n => (n, e.2)).mergeSort
    fun a b => a.1 < b.1 || (a.1 == b.1 && a.2 ≤ b.2)

end SequenceTable

/-- The console's state, and the network that it is on. -/
structure Console where
  connection : Option Connection := none
  sequences : SequenceTable := []
  network : Network := {}

/-- A procedure on the console. -/
abbrev Service := Procedure Console

namespace Service

open Procedure (conclude)

/-- Logs a line. -/
def note (level : Level) (text : String) : Service Unit :=
  modify fun c => { c with network := c.network.note level text }

/-- Runs a transport on a connection, which becomes the console's. -/
def through {α : Type} (connection : Connection) (act : Transport α) : Service α := fun c =>
  let (result, e) := act.run ⟨connection, c.network⟩
  (result, { c with connection := some e.connection, network := e.network })

/-- The open connection. -/
def openConnection : Service Connection := do
  match (← get).connection with
  | some connection => if connection.connected then return connection else throw .disconnected
  | none => throw .disconnected

/-- The sequence number for the next frame to a Port-Address. -/
def nextSequence (port : Value) : Service Int := do
  let key ← conclude port.key
  return SequenceTable.after ((← get).sequences.last key)

/-- Records the sequence number of a frame that was sent to a Port-Address. -/
def recordSequence (port : Value) (n : Int) : Service Unit := do
  let key ← conclude port.key
  modify fun c => { c with sequences := c.sequences.put key n }

end Service

/-- Whether a fault is one that the tools answer with an error text. -/
def Fault.isRefusal (f : Fault) : Bool := f.isProtocol || f.isValue

/-- What a tool answers. -/
inductive Reply where
  | alreadyConnected (target : Value)
  | connected (target port bind : Value)
  | disconnected
  /-- The tool did not do what was asked. -/
  | refused (reason : String)
  | sentOutput (bytes : Nat) (port : Value) (channels : Nat) (sequence : Value)
  | sentTimecode (bytes : Nat) (clock : String) (stream : Value)
  | described (description : Packet.Description)
  | encoded (hex : String) (size : Nat)
  | text (s : String)

end DmxNet
