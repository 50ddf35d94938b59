import DmxNet.Proofs.Schema.Carrying
import DmxNet.Workbench

/-!
# Round trips of records

A record of a schema of fixed size is written as its bytes, and these are read back as the record
wherever they stand (`read_serialize_composed`). Writing and reading meet in `Codec.Encodes`: a value
is carried by the bytes that it has, so it is written as them and read where they stand.

The records that it nests must be as they were made. A record that was altered since is nested as it
is, and then may have no bytes (`exists_built_not_read_back`).
-/

namespace DmxNet

/-! ### The bytes of a value -/

section

variable {c : Codec} {v : Value} {bs : Bytes}

/-- A value has as many bytes as its codec's leaves make. -/
theorem Codec.Encodes.length_eq (h : c.Encodes v bs) : bs.length = widthOf c.leaves :=
  h.carries.length_eq

/-- A value is read where its bytes stand, whatever comes after them. -/
theorem Codec.Encodes.run_read (h : c.Encodes v bs) {data tail : Bytes} {start : Nat}
    (hs : start ≤ data.length) (hd : data.drop start = bs ++ tail) :
    c.read.run (.after data start) = (.ok v, .after data (start + bs.length)) :=
  h.carries.takes data tail start hs hd

/-- A value of fixed size equals itself. -/
theorem Codec.Encodes.askAlike_self (h : c.Encodes v bs) : v.askAlike v = .ok true :=
  h.carries.askAlike_self

end

/-- The bytes of a record alone are those of its fields, beside its own channel data. -/
theorem serialize_of_appends {s : Schema} {vs : List Value} {bs : Bytes} (clear : s.Clear)
    (h : (writeAll s.fields vs (Value.lookup? s.fields vs Value.dataField)).Appends bs) :
    (Value.record s vs).serialize = .ok bs := by
  have hw : ((Value.record s vs).write none).run [] = (.ok (), bs) := by
    rw [Value.write, clear.write]
    exact h []
  rw [Value.serialize, clear.serialize]
  change Writer.bytes ((Value.record s vs).write none) = .ok bs
  rw [Writer.bytes, Writer.output, hw]

/-- A record's bytes alone are its bytes. -/
theorem Codec.Encodes.serialize {s : Schema} {v : Value} {bs : Bytes}
    (h : (Codec.record s).Encodes v bs) : v.serialize = .ok bs := by
  cases h with
  | record clear h => exact serialize_of_appends clear (h.carry.appends _)

/-! ### Records -/

/-- A composed record of a schema of fixed size has bytes. -/
theorem Composed.exists_encodes {s : Schema} (hs : s.Fixed) {v : Value} (hv : Composed s v) :
    ∃ bs, (Codec.record s).Encodes v bs := by
  obtain ⟨vs, rfl, hk⟩ := hv.keeps
  exact hs.codec.exists_encodes (.record hk)

/-- **Round trips.** A composed record of a schema of fixed size can be written. It is written in as
many bytes as the leaves of the schema make together, and wherever these bytes stand in a datagram,
the record is read there again, equal to what it was, and exactly its bytes are passed. -/
theorem read_serialize_composed {s : Schema} (hs : s.Fixed) {v : Value} (hv : Composed s v)
    (front tail : Bytes) :
    ∃ bs, v.serialize = .ok bs ∧ bs.length = widthOf s.leaves ∧
      s.read.run ⟨front ++ bs ++ tail, front.length⟩ =
        (.ok v, ⟨front ++ bs ++ tail, front.length + bs.length⟩) ∧
      v.askEquals v = .ok true := by
  obtain ⟨bs, hb⟩ := hv.exists_encodes hs
  obtain ⟨vs, rfl, -⟩ := hv.keeps
  have hd : (front ++ bs ++ tail).drop front.length = bs ++ tail := by
    rw [List.append_assoc, List.drop_left]
  have hr : (Codec.record s).read.run (.after (front ++ bs ++ tail) front.length) =
      (.ok (.record s vs), .after (front ++ bs ++ tail) (front.length + bs.length)) :=
    hb.run_read (by simp) hd
  rw [Codec.read] at hr
  exact ⟨bs, hb.serialize, hb.length_eq, hr, hb.askAlike_self⟩

/-! ### A schema that nests -/

/-- The schema of a time code is of fixed size. -/
theorem timecode_fixed : Packet.timecode.Fixed := by
  have byte : (Codec.uint 1 .big).Fixed := .uint (.inl rfl)
  refine ⟨Schema.clear_of_names (by decide), ?_⟩
  exact .cons (.fixed (by decide)) <| .cons byte <| .cons byte <| .cons byte <| .cons byte <|
    .cons byte <| .cons byte <| .cons byte .nil

/-- A place in a show: where the levels go, and a number that has no bytes. -/
def placeSchema : Schema :=
  { tag := 2, name := "Place",
    fields := [⟨"level", .uint 3 .little, some (.int 0)⟩, ⟨"address", .port, none⟩,
      ⟨"nothing", .uint 0 .big, some (.int 0)⟩] }

/-- A cue of a show: a place, a time code, and a mark. -/
def cueSchema : Schema :=
  { tag := 3, name := "Cue",
    fields := [⟨"place", .record placeSchema, none⟩, ⟨"clock", .record Packet.timecode, none⟩,
      ⟨"mark", .fixed 2, none⟩] }

theorem placeSchema_fixed : placeSchema.Fixed :=
  ⟨Schema.clear_of_names (by decide), .cons (.uint (.inr rfl)) <| .cons .port <|
    .cons (.uint (.inl rfl)) .nil⟩

theorem cueSchema_fixed : cueSchema.Fixed :=
  ⟨Schema.clear_of_names (by decide), .cons placeSchema_fixed.codec <|
    .cons timecode_fixed.codec <| .cons (.fixed (by decide)) .nil⟩

/-- The values that a cue is composed of: a composed place, a version for the time code, and a
count of zero bytes for the mark. -/
def cueArguments : List (String × Value) :=
  [("place", .record placeSchema [.int 0x010203, .port ⟨0x7F05, by decide⟩, .int 0]),
   ("clock", .bytes [0, 15]), ("mark", .int 2)]

theorem composed_cue : ∃ v, cueSchema.make cueArguments = .ok v ∧ Composed cueSchema v := by
  refine ⟨_, rfl, cueArguments, ?_, rfl⟩
  have hp : (Value.record placeSchema
      [.int 0x010203, .port ⟨0x7F05, by decide⟩, .int 0]).Fresh :=
    .cons (keeps_uint_iff.mpr ⟨0x010203, by decide, rfl⟩) <| .cons (.port _) <|
      .cons (keeps_uint_iff.mpr ⟨0, by decide, rfl⟩) .nil
  simp only [cueArguments, List.forall_mem_cons]
  exact ⟨hp, trivial, trivial, by simp⟩

theorem read_serialize_composed_cue :
    ∃ v bs, cueSchema.make cueArguments = .ok v ∧ v.serialize = .ok bs ∧ bs.length = 16 ∧
      cueSchema.read.run ⟨[0xFF] ++ bs ++ [0, 1], 1⟩ =
        (.ok v, ⟨[0xFF] ++ bs ++ [0, 1], 17⟩) ∧ v.askEquals v = .ok true := by
  obtain ⟨v, hm, hv⟩ := composed_cue
  obtain ⟨bs, hb, hl, hr, he⟩ := read_serialize_composed cueSchema_fixed hv [0xFF] [0, 1]
  have hw : widthOf cueSchema.leaves = 16 := by decide
  rw [hw] at hl
  rw [hl] at hr
  exact ⟨v, bs, hm, hb, hl, hr, he⟩

/-! ### Records that are not read back -/

/-- What records and their types are asked for that they all have methods for. -/
def Action.methods : List Action :=
  [.settle, .parse, .write, .serialize, .agree, .coerce, .sample]

/-- A schema of one field, under a name. -/
def oneField (name : String) (default : Option Scalar) : Schema :=
  { tag := 2, name := "Cue", fields := [⟨name, .uint 1 .big, default⟩] }

theorem watchSchema_fixed : watchSchema.Fixed :=
  ⟨Schema.clear_of_names (by decide), .cons timecode_fixed.codec .nil⟩

/-- A time code whose frames were set to a number that no byte holds is nested as it is, and the
record around it cannot be written. And a record is read back that cannot be told equal to itself,
as a field with a default stands in the place of the comparison. -/
theorem exists_built_not_read_back :
    (∃ (t : Value) (w : Workbench) (v : Value), Packet.timecode.make [] = .ok t ∧
      (Workbench.put t).set "frames" (.value (.int 300)) = .ok w ∧ watchSchema.Fixed ∧
      watchSchema.make [("clock", w.value)] = .ok v ∧ v.serialize = .error (.overflow .tooBig)) ∧
    ∃ (s : Schema) (v : Value), FieldsFixed s.fields ∧
      (∀ a ∈ Action.methods, ∀ f ∈ s.fields, f.bears a = false) ∧
      s.make [] = .ok v ∧ v.serialize = .ok [1] ∧ s.read.run ⟨[1], 0⟩ = (.ok v, ⟨[1], 1⟩) ∧
      v.askEquals v = .error .mismatch := by
  constructor
  · exact ⟨_, _, _, rfl, rfl, watchSchema_fixed, make_watch _, rfl⟩
  · exact ⟨oneField "__eq__" (some (.int 1)), _, .cons (.uint (.inl rfl)) .nil, by decide, rfl, rfl,
      rfl, rfl⟩

end DmxNet
