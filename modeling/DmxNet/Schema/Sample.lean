import DmxNet.Schema.Compose

/-!
# Samples

Each codec has a sample value, and a schema's sample is the record of its fields' samples. The
sample bytes of a fixed count run from one upward, so beyond 255 there are none; a count that no
bytes could have is refused as such.
-/

namespace DmxNet

/-- The bytes from one up to a count. -/
def sampleBytes (size : Int) : Except Fault Value :=
  if maxCount < size then .error (.overflow .sampleCount)
  else if maxBytes < size then .error (.overflow .byteCount)
  else if 255 < size then .error (.invalid .byteRange)
  else .ok (.bytes ((List.range size.toNat).map fun i => UInt8.ofNat (i + 1)))

mutual

/-- The sample of a codec. -/
def Codec.sample : Codec → Except Fault Value
  | .uint _ _ => .ok (.int 1)
  | .fixed size => sampleBytes size
  | .port => coercePort (.int 1)
  | .length => .ok (.length .none)
  | .payload => .ok (.payload (.bytes [1, 2, 3, 4]))
  | .record s => s.sample
  | .base => .error .undefined
  | .undeclared name => .error (.undeclaredField name)

/-- The sample of a schema. -/
def Schema.sample : Schema → Except Fault Value
  | ⟨tag, name, fs⟩ => do
    Action.sample.ofType fs
    let vs ← sampleAll fs
    Schema.compose ⟨tag, name, fs⟩ vs

/-- The samples of fields, in the order of the fields. -/
def sampleAll : List Field → Except Fault (List Value)
  | [] => .ok []
  | ⟨_, c, _⟩ :: fs => do
    let v ← c.sample
    let vs ← sampleAll fs
    return v :: vs

end

end DmxNet
