import DmxNet.Proofs.Schema.Keeping

/-!
# Wired schemas

A schema is wired if its fields are whole numbers, bytes of a fixed count, Port-Addresses, lengths,
channel data, or records of such schemas, to any depth (`Codec.Wired`). Widths, byte orders and
counts may be any, and each schema is of a kind that is asked for.

A record that was composed may be given other values later. If they are whole numbers in the places
of whole numbers and bytes in the places of bytes (`Codec.Overwrites`), then each field still holds a
value of a kind that its codec writes, but it need not fit any more (`Codec.Holds`).
-/

namespace DmxNet

mutual

/-- A codec with a wire form, in which each schema is of a kind. -/
inductive Codec.Wired (kind : Schema → Prop) : Codec → Prop where
  /-- A whole number, in an order of any name. -/
  | uint (size : Nat) (order : ByteOrder) : Codec.Wired kind (.uint size order)
  /-- Bytes of a count. -/
  | fixed (size : Int) : Codec.Wired kind (.fixed size)
  /-- A Port-Address. -/
  | port : Codec.Wired kind .port
  /-- A length. -/
  | length : Codec.Wired kind .length
  /-- Channel data. -/
  | payload : Codec.Wired kind .payload
  /-- A record of a wired schema. -/
  | record {s : Schema} : kind s → FieldsWired kind s.fields → Codec.Wired kind (.record s)

/-- Fields with a wire form. -/
inductive FieldsWired (kind : Schema → Prop) : List Field → Prop where
  /-- No fields. -/
  | nil : FieldsWired kind []
  /-- A first field, and others. -/
  | cons {f : Field} {fs : List Field} :
    f.codec.Wired kind → FieldsWired kind fs → FieldsWired kind (f :: fs)

end

/-! ### Records that were overwritten -/

mutual

/-- What a value in a field may have become. -/
inductive Codec.Overwrites : Codec → Value → Value → Prop where
  /-- It is as it was. -/
  | refl (c : Codec) (v : Value) : Codec.Overwrites c v v
  /-- Any whole number is in the place of another. -/
  | uint {size : Nat} {order : ByteOrder} (v : Value) (n : Int) :
    Codec.Overwrites (.uint size order) v (.int n)
  /-- Any bytes are in the place of others. -/
  | fixed {size : Int} (v : Value) (bs : Bytes) : Codec.Overwrites (.fixed size) v (.bytes bs)
  /-- Fields of a record were overwritten. -/
  | record {s : Schema} {vs ws : List Value} :
    FieldsOverwrite s.fields vs ws → Codec.Overwrites (.record s) (.record s vs) (.record s ws)

/-- What the values of fields may have become. -/
inductive FieldsOverwrite : List Field → List Value → List Value → Prop where
  /-- There are none. -/
  | nil : FieldsOverwrite [] [] []
  /-- What the first of them may have become, and the others. -/
  | cons {f : Field} {fs : List Field} {v w : Value} {vs ws : List Value} :
    f.codec.Overwrites v w → FieldsOverwrite fs vs ws → FieldsOverwrite (f :: fs) (v :: vs) (w :: ws)

end

mutual

/-- A value of a kind that a codec writes, whether it fits or not. -/
inductive Codec.Holds (kind : Schema → Prop) : Codec → Value → Prop where
  /-- A whole number. -/
  | uint (size : Nat) (order : ByteOrder) (n : Int) : Codec.Holds kind (.uint size order) (.int n)
  /-- Bytes. -/
  | fixed (size : Int) (bs : Bytes) : Codec.Holds kind (.fixed size) (.bytes bs)
  /-- A Port-Address. -/
  | port (p : PortAddress) : Codec.Holds kind .port (.port p)
  /-- A length, whatever was parsed into it. -/
  | length (u : Value) : Codec.Holds kind .length (.length u)
  /-- Channel data. -/
  | payload (bs : Bytes) : Codec.Holds kind .payload (.payload (.bytes bs))
  /-- A record of the schema. -/
  | record {s : Schema} {vs : List Value} :
    kind s → FieldsHold kind s.fields vs → Codec.Holds kind (.record s) (.record s vs)

/-- One value for each field, of a kind that its codec writes. -/
inductive FieldsHold (kind : Schema → Prop) : List Field → List Value → Prop where
  /-- No values for no fields. -/
  | nil : FieldsHold kind [] []
  /-- A value for the first field, and values for the others. -/
  | cons {f : Field} {fs : List Field} {v : Value} {vs : List Value} :
    f.codec.Holds kind v → FieldsHold kind fs vs → FieldsHold kind (f :: fs) (v :: vs)

end

theorem FieldsKeep.overwrite_refl {fs : List Field} {vs : List Value} (h : FieldsKeep fs vs) :
    FieldsOverwrite fs vs vs := by
  induction fs generalizing vs with
  | nil =>
    obtain rfl := fieldsKeep_nil_iff.mp h
    exact .nil
  | cons f fs ih =>
    obtain ⟨v, us, rfl, -, hus⟩ := fieldsKeep_cons_iff.mp h
    exact .cons (.refl f.codec v) (ih hus)

mutual

/-- What was kept and then overwritten is of a kind that the codec writes. -/
theorem Codec.Wired.holds {kind : Schema → Prop} {c : Codec} {v w : Value} :
    c.Wired kind → c.Keeps v → c.Overwrites v w → c.Holds kind w
  | .uint size order, _, .uint _ n => .uint size order n
  | .uint size order, .uint _, .refl _ _ => .uint size order _
  | .fixed size, _, .fixed _ bs => .fixed size bs
  | .fixed size, .fixed _, .refl _ _ => .fixed size _
  | .port, .port p, .refl _ _ => .port p
  | .length, .length u, .refl _ _ => .length u
  | .payload, .payload bs, .refl _ _ => .payload bs
  | .record hs hf, .record hk, .refl _ _ => .record hs (hf.hold hk hk.overwrite_refl)
  | .record hs hf, .record hk, .record ho => .record hs (hf.hold hk ho)

theorem FieldsWired.hold {kind : Schema → Prop} {fs : List Field} {vs ws : List Value} :
    FieldsWired kind fs → FieldsKeep fs vs → FieldsOverwrite fs vs ws → FieldsHold kind fs ws
  | .nil, .nil, .nil => .nil
  | .cons hf hfs, .cons hv hvs, .cons ho hos => .cons (hf.holds hv ho) (hfs.hold hvs hos)

end

section

variable {kind : Schema → Prop} {fs : List Field} {vs : List Value}

theorem FieldsHold.holds_of_mem (h : FieldsHold kind fs vs) {f : Field} {v : Value}
    (hm : (f, v) ∈ fs.zip vs) : f.codec.Holds kind v := by
  induction fs generalizing vs with
  | nil => cases hm
  | cons g fs ih =>
    cases h with
    | cons hu hus =>
      rw [List.zip_cons_cons] at hm
      rcases List.mem_cons.mp hm with heq | hm
      · cases heq
        exact hu
      · exact ih hus hm

/-- What is found under the name of a field is of a kind that a codec writes. -/
theorem FieldsHold.exists_of_lookup? (h : FieldsHold kind fs vs) {name : String} {v : Value}
    (hv : Value.lookup? fs vs name = some v) : ∃ c : Codec, c.Holds kind v := by
  induction fs generalizing vs with
  | nil =>
    cases h
    cases hv
  | cons f fs ih =>
    cases h with
    | cons hu hus =>
      rw [Value.lookup?] at hv
      split at hv
      · obtain rfl := Option.some.inj hv
        exact ⟨f.codec, hu⟩
      · exact ih hus hv

end

end DmxNet
