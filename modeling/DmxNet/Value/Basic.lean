import DmxNet.Schema.Basic

/-!
# Loosely typed values

The values that are handed to fields, kept in records and given back. A field takes any value and
its codec decides what becomes of it, so numbers, text, bytes and lists stand beside the value
types that have a wire form of their own. A record keeps the values of its schema's fields by
position; once composed it may be given any value in any field.
-/

namespace DmxNet

/-- A value. -/
inductive Value where
  | scalar (s : Scalar)
  | list (items : List Value)
  /-- A length field and what was parsed into it; no value before that. -/
  | length (parsed : Value)
  /-- Channel data and its content, which is bytes when composed. -/
  | payload (content : Value)
  /-- A record: one value for each field of its schema. -/
  | record (schema : Schema) (values : List Value)

namespace Value

@[match_pattern] abbrev none : Value := .scalar .none
@[match_pattern] abbrev bool (b : Bool) : Value := .scalar (.bool b)
@[match_pattern] abbrev int (n : Int) : Value := .scalar (.int n)
@[match_pattern] abbrev float (x : Binary64) : Value := .scalar (.float x)
@[match_pattern] abbrev text (s : String) : Value := .scalar (.text s)
@[match_pattern] abbrev bytes (bs : Bytes) : Value := .scalar (.bytes bs)
@[match_pattern] abbrev port (p : PortAddress) : Value := .scalar (.port p)

instance : Inhabited Value := ⟨none⟩

/-- The value beside a name in parallel lists of fields and values. -/
def lookup? : List Field → List Value → String → Option Value
  | f :: fs, v :: vs, name => if f.name = name then some v else lookup? fs vs name
  | _, _, _ => Option.none

/-- Puts a value beside a name in parallel lists of fields and values. -/
def replace? : List Field → List Value → String → Value → Option (List Value)
  | f :: fs, v :: vs, name, w =>
    if f.name = name then some (w :: vs) else (replace? fs vs name w).map (v :: ·)
  | _, _, _, _ => Option.none

/-- The value of a record's field. -/
def field? : Value → String → Option Value
  | .record s vs, name => lookup? s.fields vs name
  | _, _ => Option.none

/-- How many parts a value has, for a value that has any; channel data counts its content. -/
def size? : Value → Option Nat
  | .scalar (.text s) => some s.length
  | .scalar (.bytes bs) => some bs.length
  | .list vs => some vs.length
  | .payload v => v.size?
  | _ => Option.none

/-- Whether a value counts as true: all but nothing, false, zero and what is empty. -/
def truth : Value → Bool
  | .scalar .none => false
  | .scalar (.bool b) => b
  | .scalar (.int n) => n != 0
  | .scalar (.float x) => !x.isZero
  | .scalar (.port _) => true
  | v => v.size? != some 0

end Value

end DmxNet
