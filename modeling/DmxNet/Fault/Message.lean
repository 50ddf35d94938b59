import DmxNet.Value.Conversion
import DmxNet.Value.Text

/-!
# Messages of faults

The text of each fault. The details of a fault are values, and a value may have no text of the
asked kind; then the fault cannot be stated (`Fault.stated`). All faults that arise in the library
can be, so `Fault.message` falls back on the empty text for none of them.
-/

namespace DmxNet

/-- A text that was written, or nothing. -/
def written : Except Fault String → String
  | .ok s => s
  | .error _ => ""

/-- The source of a bad literal as it is shown, cut to two hundred characters. -/
def Scalar.excerpt : Scalar → String
  | .bytes bs => String.ofList ((Text.quoteBytes (bs.take 200)).toList.take 200)
  | s => String.ofList (s.shown.toList.take 200)

/-- The text of a value's defect. -/
def Invalid.message : Invalid → String
  | .literal source => "invalid literal for int() with base 10: " ++ source.excerpt
  | .realLiteral source => "could not convert string to float: " ++ Text.quote source
  | .tooManyDigits count =>
    "Exceeds the limit (" ++ Digits.decimal Digits.limit ++
      " digits) for integer string conversion: value has " ++ Digits.decimal count ++
      " digits; use sys.set_int_max_str_digits() to increase the limit"
  | .unwritable =>
    "Exceeds the limit (" ++ Digits.decimal Digits.limit ++
      " digits) for integer string conversion; " ++
      "use sys.set_int_max_str_digits() to increase the limit"
  | .notANumber => "cannot convert float NaN to integer"
  | .outOfRange max value =>
    "Value must be 0-" ++ Digits.decimal max ++ ", got " ++ Digits.decimal value
  | .size expected got =>
    "Expected " ++ Digits.decimal expected ++ " bytes, got " ++ Digits.decimal got
  | .negativeCount => "negative count"
  | .byteRange => "bytes must be in range(0, 256)"
  | .byteOrder => "byteorder must be either 'little' or 'big'"
  | .negativeWidth => "negative shift count"
  | .decimalOf kind => "Unknown format code 'd' for object of type '" ++ kind ++ "'"
  | .hexOf kind => "Unknown format code 'X' for object of type '" ++ kind ++ "'"
  | .sharedDefault field kind =>
    "mutable default <class '" ++ kind ++ "'> for field " ++ field ++
      " is not allowed: use default_factory"
  | .nullInName => "type name must not contain null characters"
  | .hexDigit position =>
    "non-hexadecimal number found in fromhex() arg at position " ++ Digits.decimal position

/-- The text of an overflow. -/
def Overflow.message : Overflow → String
  | .infinite => "cannot convert float infinity to integer"
  | .index => "cannot fit 'int' into an index-sized integer"
  | .byteCount => "byte string is too large"
  | .repetition => "repeated bytes are too long"
  | .sampleCount => "Python int too large to convert to C ssize_t"
  | .width => "too many digits in integer"
  | .negative => "can't convert negative int to unsigned"
  | .tooBig => "int too big to convert"
  | .quotient => "integer division result too large for a float"

namespace Fault

/-- The details of a fault of the protocol: one as it is, more between parentheses. -/
def detailText : List Value → Except Fault String
  | [] => .ok ""
  | [v] => v.plain
  | vs => do return "(" ++ ", ".intercalate (← vs.mapM Value.shown) ++ ")"

/-- The text of a fault; empty where a fault has none of its own. -/
def text : Fault → Except Fault String
  | .endOfInput needed available => do
    return "Unexpected end of datagram: needed " ++ (← needed.plain) ++ " bytes, " ++
      (← available.plain) ++ " available"
  | .badHeader received => do return "Invalid Art-Net header: " ++ (← received.shown)
  | .unknownOpcode opcode => do return "Unsupported OpCode 0x" ++ (← opcode.fourHex)
  | .payloadSize payload start stop => do
    return "DMX payload must be between " ++ (← numberText start) ++ " and " ++
      (← numberText (stop - 1)) ++ " bytes, got " ++ Digits.decimal (← payload.size)
  | .addressRange value limit => do
    return "Value must be 0-" ++ (← limit.plain) ++ ", got " ++ (← value.plain)
  | .protocol details => detailText details
  | .invalid cause => .ok cause.message
  | .overflow cause => .ok cause.message
  | .notCommand shown => .ok ("Not an Art-Net command: " ++ shown)
  | .undeclaredField name => .ok ("Field " ++ Text.quote name ++ " was not declared with wire()")
  | .closed => .ok "Art-Net socket is not open"
  | .bind host port reason =>
    .ok ("Could not bind Art-Net socket on " ++ host ++ ":" ++ port ++ ": " ++ reason)
  | .socket failure => .ok failure.text
  | .disconnected => .ok "Not connected. Use the 'connect' tool first."
  | .mismatch | .missing | .frozen | .undefined => .ok ""

/-- The text of a fault that can be stated. -/
def message (f : Fault) : String := written f.text

/-- A fault that can be stated; of any other, the fault that is in its details. -/
def stated (f : Fault) : Except Fault Fault := f.text.map fun _ => f

/-- What raising a fault comes to: a fault that cannot be stated gives way to the one that is in its
details. -/
def raised (f : Fault) : Fault :=
  match f.stated with
  | .ok f => f
  | .error g => g

end Fault

end DmxNet
