import DmxNet.Numeric.Digits
import DmxNet.Value.Basic

/-!
# Faults

Why an operation fails. A fault keeps its cause and not a text; the text is a function of the
cause (`Fault.message`). The first six faults are those of the protocol: the datagram or the
command itself is at fault (`Fault.isProtocol`). Two of them, and every `invalid` cause, mean
that a value was not acceptable (`Fault.isValue`).
-/

namespace DmxNet

/-- Why a value is not acceptable. -/
inductive Invalid where
  /-- Text or bytes that are no whole number. -/
  | literal (source : Scalar)
  /-- Text that is no real number. -/
  | realLiteral (source : String)
  /-- A whole number with more digits than are read. -/
  | tooManyDigits (count : Nat)
  /-- A whole number with more digits than are written. -/
  | unwritable
  /-- A float that is no number. -/
  | notANumber
  /-- A number outside `0 … max`. -/
  | outOfRange (max : Nat) (value : Int)
  /-- A byte count other than the one that is asked for. -/
  | size (expected : Int) (got : Nat)
  /-- A negative count of zero bytes. -/
  | negativeCount
  /-- A byte outside `0 … 255`. -/
  | byteRange
  /-- A byte order that is none. -/
  | byteOrder
  /-- A width that is negative. -/
  | negativeWidth
  /-- A value of the named kind where a whole number is laid out in decimal. -/
  | decimalOf (kind : String)
  /-- A value of the named kind where a whole number is laid out in base sixteen. -/
  | hexOf (kind : String)
  /-- A default of the named kind, which a field's records would share. -/
  | sharedDefault (field kind : String)
  /-- A name of a schema that has a null character in it. -/
  | nullInName
  /-- Hexadecimal text that goes wrong at a position. -/
  | hexDigit (position : Nat)
  deriving DecidableEq

/-- Why a number does not fit. -/
inductive Overflow where
  /-- An infinity has no whole part. -/
  | infinite
  /-- A count of more than 63 bits and a sign. -/
  | index
  /-- A count of bytes beyond any that is held. -/
  | byteCount
  /-- Bytes that are repeated beyond any count that is held. -/
  | repetition
  /-- A count of sample bytes of more than 63 bits. -/
  | sampleCount
  /-- A width whose largest number is beyond any that is held. -/
  | width
  /-- A negative number has no unsigned bytes. -/
  | negative
  /-- A number has more bytes than it may take. -/
  | tooBig
  /-- A quotient beyond the largest float. -/
  | quotient
  deriving DecidableEq

/-- The kinds of failure of a socket call. -/
inductive FailureKind where
  /-- The system refused. -/
  | system
  /-- Time ran out, which is a refusal of the system too. -/
  | timeout
  /-- Anything else. -/
  | other
  deriving DecidableEq

/-- A failure of a socket call. -/
structure Failure where
  kind : FailureKind
  text : String
  deriving DecidableEq

/-- Whether a failure is one of the system's, a timeout included. -/
def Failure.isSystem (f : Failure) : Bool := f.kind != .other

/-- Why an operation fails. -/
inductive Fault where
  /-- A datagram ends before a field does. -/
  | endOfInput (needed available : Value)
  /-- A datagram does not start with the header. -/
  | badHeader (received : Value)
  /-- An opcode names no known body. -/
  | unknownOpcode (opcode : Value)
  /-- Channel data is empty or too long; the allowed counts run from `start` up to `stop`. -/
  | payloadSize (payload : Value) (start stop : Int)
  /-- A Port-Address, or a part of one, is out of range. -/
  | addressRange (value limit : Value)
  /-- Some other fault of the protocol. -/
  | protocol (details : List Value)
  /-- A value is not acceptable. -/
  | invalid (cause : Invalid)
  /-- A number does not fit. -/
  | overflow (cause : Overflow)
  /-- A value is of a kind that the operation does not take. -/
  | mismatch
  /-- A value that is no command, as it is shown. -/
  | notCommand (shown : String)
  /-- A field was declared without a codec. -/
  | undeclaredField (name : String)
  /-- A value lacks the part or operation asked for. -/
  | missing
  /-- A value that never changes was to be changed. -/
  | frozen
  /-- A codec leaves the operation undefined. -/
  | undefined
  /-- A connection has no socket. -/
  | closed
  /-- A socket could not be bound. -/
  | bind (host port reason : String)
  /-- A socket call failed. -/
  | socket (failure : Failure)
  /-- The console has no open connection. -/
  | disconnected

namespace Fault

/-- Whether a fault is one of the protocol's own. -/
def isProtocol : Fault → Bool
  | .endOfInput .. | .badHeader _ | .unknownOpcode _ | .payloadSize .. | .addressRange ..
  | .protocol _ => true
  | _ => false

/-- Whether a fault means that a value was not acceptable. -/
def isValue : Fault → Bool
  | .payloadSize .. | .addressRange .. | .invalid _ => true
  | _ => false

/-- Whether a fault means that the system refused; failed connections count as that. -/
def isSystem : Fault → Bool
  | .socket failure => failure.isSystem
  | .closed | .bind .. => true
  | _ => false

/-- Whether a fault means that time ran out. -/
def isTimeout : Fault → Bool
  | .socket failure => failure.kind == .timeout
  | _ => false

/-- A whole number in decimal, if it is short enough to be written. -/
def numberText (n : Int) : Except Fault String :=
  if Digits.writable n then .ok (Digits.decimal n) else .error (.invalid .unwritable)

end Fault

/-- Turns the absence of an answer into a fault. -/
def orFault (fault : Fault) : Option α → Except Fault α
  | some a => .ok a
  | Option.none => .error fault

end DmxNet
