import DmxNet.Fault.Message
import DmxNet.Network.Socket
import DmxNet.Packet.Envelope

/-!
# Connections

A connection keeps where it sends to and listens on, holds at most one socket, and keeps note of
whether it is connected. Opening it binds a new socket and holds that; a socket that cannot be bound
is closed again and what was held stays held. Closing it lets go of the socket whatever becomes of
the call. Each datagram carries one packet.
-/

namespace DmxNet

/-- Where a connection sends to and listens on, as it was given. -/
structure Settings where
  target : Value := .text "255.255.255.255"
  port : Value := .int 6454
  bind : Value := .text "0.0.0.0"
  broadcast : Value := .bool true

/-- A connection. -/
structure Connection where
  settings : Settings
  /-- The socket that is held. -/
  socket : Option Nat := none
  /-- Whether the connection has been opened and not closed since. -/
  connected : Bool := false

/-- How long a reading waits unless told otherwise, in milliseconds. -/
def defaultTimeout : Value := .int 1000

/-- The most bytes that are taken from a datagram. -/
def maxDatagram : Nat := 1024

/-- A connection and the network that it is on. -/
structure Endpoint where
  connection : Connection
  network : Network

/-- A procedure with a connection on its network. -/
abbrev Transport := Procedure Endpoint

namespace Transport

open Procedure (conclude)

/-- Changes the network. -/
def onNetwork (f : Network → Network) : Transport Unit :=
  modify fun e => { e with network := f e.network }

/-- Logs a line. -/
def note (level : Level) (text : String) : Transport Unit := onNetwork fun n => n.note level text

/-- Makes a call: it is put on record and fails if the script says so. -/
def attempt (call : Call) : Transport Unit := do
  onNetwork fun n => n.record call
  match (← get).network.script call with
  | some fault => throw fault
  | none => return ()

/-- Creates a socket. -/
def create : Transport Nat := do
  attempt .create
  let socket := (← get).network.created
  onNetwork fun n => { n with created := n.created + 1 }
  return socket

/-- Takes the first datagram that waits, cut to a size; time runs out if there is none. A datagram
that cannot be cut is taken all the same. -/
def take (socket size : Nat) : Transport Datagram := do
  attempt (.receive socket size)
  match (← get).network.queue with
  | [] => throw (.socket ⟨.timeout, "timed out"⟩)
  | d :: rest =>
    onNetwork fun n => { n with queue := rest }
    let data ← conclude (d.data.start size)
    return { d with data }

/-- Holds a socket, in the place of any that was held before. -/
def hold (socket : Nat) : Transport Unit :=
  modify fun e =>
    { e with connection := { e.connection with socket := some socket, connected := true } }

/-- Lets go of the socket that is held. -/
def release : Transport Unit :=
  modify fun e => { e with connection := { e.connection with socket := none, connected := false } }

/-- Refuses a connection that is not connected. -/
def demand : Transport Unit := do
  if (← get).connection.connected then return () else throw .closed

/-- The socket that is held. -/
def held : Transport Nat := do
  conclude (orFault .missing (← get).connection.socket)

/-! ### Life of a socket -/

/-- Sets a new socket's options and binds it. -/
def prepare (socket : Nat) (settings : Settings) : Transport Unit := do
  attempt (.setOption socket .reuseAddress)
  if settings.broadcast.truth then attempt (.setOption socket .broadcast)
  attempt (.bind socket settings.bind settings.port)

/-- Gives up a socket that could not be prepared. -/
def abandon (socket : Nat) (settings : Settings) (reason : String) : Transport Unit := do
  attempt (.close socket)
  let host ← conclude settings.bind.plain
  let port ← conclude settings.port.plain
  throw (.bind host port reason)

/-- Host and port as they are logged. -/
def place (host port : Value) : Except Fault String := do
  return (← host.logged) ++ ":" ++ written (Fault.numberText (← port.numeral))

/-- Opens the connection: binds a new socket and holds it. -/
def openSocket : Transport Settings := do
  let settings := (← get).connection.settings
  let socket ← create
  match ← (prepare socket settings).outcome with
  | .error fault =>
    if fault.isSystem then abandon socket settings fault.message else throw fault
  | .ok _ => pure ()
  hold socket
  let bound ← conclude (place settings.bind settings.port)
  let target ← conclude settings.target.logged
  note .info ("Art-Net socket bound on " ++ bound ++ ", target " ++ target)
  return settings

/-- Logs that the system refused to close a socket. -/
def reportClose : Except Fault Unit → Transport Unit
  | .error fault =>
    if fault.isSystem then note .warning ("Error closing socket: " ++ fault.message)
    else return ()
  | .ok _ => return ()

/-- What remains of the outcome of closing a socket: a refusal of the system is no fault. -/
def forgiveClose : Except Fault Unit → Except Fault Unit
  | .error fault => if fault.isSystem then .ok () else .error fault
  | .ok _ => .ok ()

/-- Closes the socket that is held. -/
def shut : Transport Unit := do
  let socket ← held
  attempt (.close socket)

/-- Closes the connection, if it is connected: lets go of its socket, however closing that ends. -/
def closeSocket : Transport Unit := do
  if (← get).connection.connected then
    let result ← shut.outcome
    reportClose result
    release
    note .info "Disconnected"
    conclude (forgiveClose result)

/-! ### Sending -/

/-- Sends a datagram to an address, or to the target; answers how many bytes were sent. -/
def send (data : Value) (address : Option Address) : Transport Nat := do
  demand
  let settings := (← get).connection.settings
  let goal := address.getD ⟨settings.target, settings.port⟩
  let size ← conclude data.size
  let there ← conclude (place goal.host goal.port)
  note .debug ("Sending " ++ Digits.decimal size ++ " bytes to " ++ there)
  let socket ← held
  let bs ← conclude data.asBytes
  attempt (.send socket bs goal)
  return bs.length

/-- Sends a command's packet. A value that has no packet is refused before anything else. -/
def sendCommand (command : Value) (address : Option Address) : Transport Nat := do
  let packet ← conclude (Packet.encode command)
  send (.bytes packet) address

/-! ### Receiving -/

/-- Receives a datagram; nothing if time runs out. -/
def receive (timeout : Value) : Transport (Option Datagram) := do
  demand
  let socket ← held
  let seconds ← conclude (timeout.quotient 1000)
  attempt (.setTimeout socket seconds)
  match ← (take socket maxDatagram).outcome with
  | .ok d => return some d
  | .error fault => if fault.isTimeout then return none else throw fault

/-- Receives a command; nothing if time runs out or the datagram is no packet. -/
def receiveCommand (timeout : Value) : Transport (Option Value) := do
  match ← receive timeout with
  | none => return none
  | some d =>
    match Packet.decodeValue d.data with
    | .ok command => return some command
    | .error fault =>
      if fault.isProtocol then
        let sender ← conclude (place d.sender.host d.sender.port)
        note .debug ("Dropping datagram from " ++ sender ++ ": " ++ fault.message)
        return none
      else throw fault

end Transport

end DmxNet
