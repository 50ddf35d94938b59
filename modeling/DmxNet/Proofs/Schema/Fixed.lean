import DmxNet.Proofs.Schema.Comparing
import DmxNet.Proofs.Schema.Keeping
import DmxNet.Proofs.Schema.Reading
import DmxNet.Proofs.Schema.Writing

/-!
# Schemas of fixed size

A schema is of fixed size if its fields are whole numbers, bytes of a fixed count, Port-Addresses,
or records of such schemas, to any depth. Laid out flat, its fields are leaves, and the width of
the schema is the sum of theirs (`widthOf`).

`Codec.Encodes` tells the bytes of a value without writing it. It is what writing and reading have
in common: the bytes are what is written, and where they stand, the value is what is read, whatever
stands before and after them. Every value that a codec of fixed size keeps has bytes
(`Codec.Fixed.exists_encodes`).
-/

namespace DmxNet

/-! ### Leaves -/

mutual

/-- The codecs that a codec's bytes are made by, one after another: those of the fields of a schema
that it nests, and the codec itself if it nests none. -/
def Codec.leaves : Codec → List Codec
  | .record s => s.leaves
  | c => [c]

/-- The codecs that the bytes of a record are made by, one after another. -/
def Schema.leaves : Schema → List Codec
  | ⟨_, _, fs⟩ => leavesOf fs

/-- The codecs that the bytes of fields are made by, one after another. -/
def leavesOf : List Field → List Codec
  | [] => []
  | ⟨_, c, _⟩ :: fs => c.leaves ++ leavesOf fs

end

/-- How many bytes a codec makes of a value, if it knows. -/
def Codec.leafWidth : Codec → Nat
  | .uint size _ => size
  | .fixed size => size.toNat
  | .port | .length => 2
  | _ => 0

/-- How many bytes leaves make together. -/
def widthOf (leaves : List Codec) : Nat := (leaves.map Codec.leafWidth).sum

@[simp] theorem widthOf_nil : widthOf [] = 0 := rfl

@[simp] theorem widthOf_cons (c : Codec) (cs : List Codec) :
    widthOf (c :: cs) = c.leafWidth + widthOf cs := rfl

@[simp] theorem widthOf_append (cs ds : List Codec) :
    widthOf (cs ++ ds) = widthOf cs + widthOf ds := by
  simp [widthOf]

theorem leavesOf_cons (f : Field) (fs : List Field) :
    leavesOf (f :: fs) = f.codec.leaves ++ leavesOf fs := by
  cases f
  rfl

theorem Schema.leaves_eq (s : Schema) : s.leaves = leavesOf s.fields := by
  cases s
  rfl

/-! ### Schemas of fixed size -/

/-- No field of a schema stands in the place of what its records and their type are asked for when
they are made, read, written and compared. -/
structure Schema.Clear (s : Schema) : Prop where
  making : Action.making s.fields = .ok ()
  coerce : Action.coerce.ofType s.fields = .ok ()
  parse : Action.parse.ofType s.fields = .ok ()
  write : Action.write.ofRecord s.fields = .ok ()
  serialize : Action.serialize.ofRecord s.fields = .ok ()
  compare : Action.compare.ofType s.fields = .ok ()

/-- What records and their type are asked for when they are made, read, written and compared. -/
def Action.handling : List Action :=
  [.allot, .create, .watch, .belong, .settle, .enumerate, .coerce, .parse, .write, .serialize,
   .compare]

theorem Action.ofRecord_eq_ok {a : Action} {fs : List Field} (h : ∀ f ∈ fs, f.bears a = false) :
    a.ofRecord fs = .ok () := by
  rw [ofRecord, if_neg]
  simpa using h

theorem Action.ofType_eq_ok {a : Action} {fs : List Field} (h : ∀ f ∈ fs, f.bears a = false) :
    a.ofType fs = .ok () := by
  rw [ofType, if_neg]
  simp only [List.any_eq_true, not_exists, not_and]
  intro f hf
  simp [h f hf]

/-- A schema is clear if its fields bear none of the names that count. -/
theorem Schema.clear_of_names {s : Schema}
    (h : ∀ a ∈ Action.handling, ∀ f ∈ s.fields, f.bears a = false) : s.Clear := by
  have none (a : Action) (ha : a ∈ Action.handling) (p : Field → Bool) :
      ¬ (s.fields.any fun f => f.bears a && p f) = true := by
    simp only [List.any_eq_true, not_exists, not_and]
    intro f hf
    simp [h a ha f hf]
  refine ⟨?_, Action.ofType_eq_ok (h .coerce (by decide)), Action.ofType_eq_ok (h .parse (by decide)),
    Action.ofRecord_eq_ok (h .write (by decide)), Action.ofRecord_eq_ok (h .serialize (by decide)),
    Action.ofType_eq_ok (h .compare (by decide))⟩
  rw [Action.making, Action.allotment, if_neg (none .allot (by decide) _),
    Action.ofType_eq_ok (h .create (by decide)), Action.watching,
    if_neg (none .watch (by decide) _), Action.belonging, if_neg (none .belong (by decide) _),
    Action.ofRecord_eq_ok (h .settle (by decide)), Action.enumeration, if_neg]
  · rfl
  · simpa using h .enumerate (by decide)

mutual

/-- A codec that makes equally many bytes of all its values. -/
inductive Codec.Fixed : Codec → Prop where
  /-- A whole number, in an order that is one. -/
  | uint {size : Nat} {order : ByteOrder} :
    order = .big ∨ order = .little → Codec.Fixed (.uint size order)
  /-- Bytes of a fixed count. -/
  | fixed {size : Int} : 0 ≤ size → Codec.Fixed (.fixed size)
  /-- A Port-Address. -/
  | port : Codec.Fixed .port
  /-- A record of a schema of fixed size. -/
  | record {s : Schema} : s.Clear → FieldsFixed s.fields → Codec.Fixed (.record s)

/-- Fields whose codecs are of fixed size. -/
inductive FieldsFixed : List Field → Prop where
  /-- No fields. -/
  | nil : FieldsFixed []
  /-- A first field, and others. -/
  | cons {f : Field} {fs : List Field} : f.codec.Fixed → FieldsFixed fs → FieldsFixed (f :: fs)

end

/-- A schema of fixed size. -/
def Schema.Fixed (s : Schema) : Prop := s.Clear ∧ FieldsFixed s.fields

theorem Schema.Fixed.codec {s : Schema} (h : s.Fixed) : (Codec.record s).Fixed := .record h.1 h.2

/-! ### The bytes of a value -/

mutual

/-- The bytes of a value, by a codec of fixed size. -/
inductive Codec.Encodes : Codec → Value → Bytes → Prop where
  /-- A number that fits, the most significant byte first. -/
  | big {size n : Nat} :
    n ≤ maxOfWidth size → Codec.Encodes (.uint size .big) (.int n) (bigBytes size n)
  /-- A number that fits, the least significant byte first. -/
  | little {size n : Nat} :
    n ≤ maxOfWidth size → Codec.Encodes (.uint size .little) (.int n) (littleBytes size n)
  /-- Bytes are their own bytes. -/
  | fixed {size : Int} {bs : Bytes} :
    (bs.length : Int) = size → Codec.Encodes (.fixed size) (.bytes bs) bs
  /-- A Port-Address, the low byte first. -/
  | port (p : PortAddress) : Codec.Encodes .port (.port p) (littleBytes 2 p.value)
  /-- A record has the bytes of its fields. -/
  | record {s : Schema} {vs : List Value} {bs : Bytes} :
    s.Clear → FieldsEncode s.fields vs bs → Codec.Encodes (.record s) (.record s vs) bs

/-- The bytes of the values of fields, one after another. -/
inductive FieldsEncode : List Field → List Value → Bytes → Prop where
  /-- No values have no bytes. -/
  | nil : FieldsEncode [] [] []
  /-- The bytes of the first value, and those of the others. -/
  | cons {f : Field} {fs : List Field} {v : Value} {vs : List Value} {bs cs : Bytes} :
    f.codec.Encodes v bs → FieldsEncode fs vs cs → FieldsEncode (f :: fs) (v :: vs) (bs ++ cs)

end

mutual

/-- What a codec of fixed size keeps has bytes. -/
theorem Codec.Fixed.exists_encodes {c : Codec} {v : Value} :
    c.Fixed → c.Keeps v → ∃ bs, c.Encodes v bs
  | .uint (.inl rfl), .uint hn => ⟨_, .big hn⟩
  | .uint (.inr rfl), .uint hn => ⟨_, .little hn⟩
  | .fixed _, .fixed hb => ⟨_, .fixed hb⟩
  | .port, .port p => ⟨_, .port p⟩
  | .record clear hf, .record hk =>
    let ⟨bs, hb⟩ := FieldsFixed.exists_encode hf hk
    ⟨bs, .record clear hb⟩

theorem FieldsFixed.exists_encode {fs : List Field} {vs : List Value} :
    FieldsFixed fs → FieldsKeep fs vs → ∃ bs, FieldsEncode fs vs bs
  | .nil, .nil => ⟨_, .nil⟩
  | .cons hf hfs, .cons hv hvs =>
    let ⟨_, hb⟩ := Codec.Fixed.exists_encodes hf hv
    let ⟨_, hc⟩ := FieldsFixed.exists_encode hfs hvs
    ⟨_, .cons hb hc⟩

end

end DmxNet
