import DmxNet.Fault.Basic

/-!
# Sockets on a scripted network

The network that a connection meets: datagrams that wait to be received, and a script that says
which socket calls fail. Every call is put on record before it fails or acts. Sockets are numbered
from zero as they are created, and there is one queue for all of them, which outlives them.

A script is any function of the call, so it may let one option be set and not another; the queue
and the record are lists in the order of time.
-/

namespace DmxNet

/-- A host and a port, as they are handed to a socket. -/
structure Address where
  host : Value
  port : Value

/-- A datagram and where it came from. What a network delivers may be no bytes at all. -/
structure Datagram where
  data : Value
  sender : Address

/-- The options that are set on sockets. -/
inductive SocketOption where
  | reuseAddress
  | broadcast
  deriving DecidableEq

/-- A call on a socket, or for a new one. -/
inductive Call where
  | create
  | setOption (socket : Nat) (option : SocketOption)
  | bind (socket : Nat) (host port : Value)
  | close (socket : Nat)
  | send (socket : Nat) (data : Bytes) (address : Address)
  | setTimeout (socket : Nat) (seconds : Binary64)
  | receive (socket : Nat) (size : Nat)

/-- The kinds of calls. -/
inductive Operation where
  | create
  | setOption
  | bind
  | close
  | send
  | setTimeout
  | receive
  deriving DecidableEq

/-- The kind of a call. -/
def Call.operation : Call → Operation
  | .create => .create
  | .setOption .. => .setOption
  | .bind .. => .bind
  | .close _ => .close
  | .send .. => .send
  | .setTimeout .. => .setTimeout
  | .receive .. => .receive

/-- Which calls fail, and how. A call may fail with any fault at all. -/
abbrev Script := Call → Option Fault

/-- The script in which the calls of some kinds fail. -/
def Script.ofTable (table : List (Operation × Failure)) : Script := fun call =>
  (table.lookup call.operation).map .socket

/-- How grave a line of the log is. -/
inductive Level where
  | debug
  | info
  | warning
  deriving DecidableEq

/-- A line of the log. -/
structure LogLine where
  level : Level
  text : String
  deriving DecidableEq

/-- The network, and what was done on it. -/
structure Network where
  script : Script := fun _ => none
  /-- The datagrams that wait, the first one first. -/
  queue : List Datagram := []
  /-- How many sockets were created. -/
  created : Nat := 0
  /-- The calls that were made. -/
  calls : List Call := []
  /-- The lines that were logged. -/
  log : List LogLine := []

namespace Network

/-- A network on which nothing fails and nothing waits. -/
def empty : Network := {}

/-- Lets the calls of some kinds fail from now on, and no others. -/
def fail (n : Network) (table : List (Operation × Failure)) : Network :=
  { n with script := Script.ofTable table }

/-- Queues a datagram. -/
def push (n : Network) (d : Datagram) : Network := { n with queue := n.queue ++ [d] }

/-- Clears the record of calls and the log. -/
def forget (n : Network) : Network := { n with calls := [], log := [] }

/-- Puts a call on record. -/
def record (n : Network) (call : Call) : Network := { n with calls := n.calls ++ [call] }

/-- Logs a line. -/
def note (n : Network) (level : Level) (text : String) : Network :=
  { n with log := n.log ++ [⟨level, text⟩] }

end Network

end DmxNet
