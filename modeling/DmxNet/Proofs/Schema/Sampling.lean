import DmxNet.Proofs.Schema.Agreement
import DmxNet.Proofs.Schema.RoundTrip
import DmxNet.Schema.Sample

/-!
# Round trips of samples

The sample of a schema is one of its records: it can be written, and what is read from its bytes
agrees with it from both sides (`sample_round_trips`). The schema may nest others, and it may have
lengths and, last of all, channel data; a length is unparsed in the sample and holds the size of
the data in what is read.

A schema has a sample exactly if none of its leaves is bytes of a count beyond 255, since the
sample bytes count upward and no byte is higher than that (`exists_unsampled`).
-/

namespace DmxNet

/-- No field stands in the place of what is asked of a record or its type while a sample is taken,
written, read and compared. -/
structure Schema.Unobstructed (s : Schema) : Prop where
  clear : s.Clear
  sample : Action.sample.ofType s.fields = .ok ()
  agree : Action.agree.ofRecord s.fields = .ok ()

theorem Schema.Unobstructed.comparable {s : Schema} (h : s.Unobstructed) : s.Comparable :=
  ⟨h.agree, h.clear.compare⟩

/-- A schema is unobstructed if its fields bear none of the names that count. -/
theorem Schema.unobstructed_of_names {s : Schema}
    (h : ∀ a ∈ .sample :: .agree :: Action.handling, ∀ f ∈ s.fields, f.bears a = false) :
    s.Unobstructed where
  clear := Schema.clear_of_names fun a ha => h a (by simp [ha])
  sample := Action.ofType_eq_ok (h .sample (by simp))
  agree := Action.ofRecord_eq_ok (h .agree (by simp))

mutual

/-- A codec of fixed size that has a number one, if it is one of numbers. -/
inductive Codec.Sampled : Codec → Prop where
  /-- A whole number of a byte or more, in an order that is one. -/
  | uint {size : Nat} {order : ByteOrder} :
    1 ≤ size → order = .big ∨ order = .little → Codec.Sampled (.uint size order)
  /-- Bytes of a fixed count. -/
  | fixed {size : Int} : 0 ≤ size → Codec.Sampled (.fixed size)
  /-- A Port-Address. -/
  | port : Codec.Sampled .port
  /-- A record of an unobstructed schema. -/
  | record {s : Schema} : s.Unobstructed → FieldsSampled s.fields → Codec.Sampled (.record s)

/-- Fields whose codecs are such. -/
inductive FieldsSampled : List Field → Prop where
  /-- No fields. -/
  | nil : FieldsSampled []
  /-- A first field, and others. -/
  | cons {f : Field} {fs : List Field} :
    f.codec.Sampled → FieldsSampled fs → FieldsSampled (f :: fs)

end

/-- Fields with channel data as the last of them, which may have lengths as well. -/
inductive FieldsBeforeData : List Field → Prop where
  /-- The channel data. -/
  | data (default : Option Scalar) :
    FieldsBeforeData [⟨Value.dataField, .payload, default⟩]
  /-- A length before others. -/
  | length {f : Field} {fs : List Field} :
    f.codec = .length → f.name ≠ Value.dataField → FieldsBeforeData fs → FieldsBeforeData (f :: fs)
  /-- Any other field before others. -/
  | cons {f : Field} {fs : List Field} :
    f.codec.Sampled → f.name ≠ Value.dataField → FieldsBeforeData fs → FieldsBeforeData (f :: fs)

/-! ### Taking samples -/

/-- How taking a sample ends, by the leaves of what it is taken of: a good one is given if no leaf is
bytes of a count beyond 255, and otherwise it fails as such a leaf does. -/
inductive Tried {α : Type} (leaves : List Codec) (good : α → Prop) : Except Fault α → Prop where
  /-- There is a sample. -/
  | given {a : α} : (∀ size, .fixed size ∈ leaves → size ≤ 255) → good a →
    Tried leaves good (.ok a)
  /-- A leaf has none. -/
  | refused {size : Int} {fault : Fault} : .fixed size ∈ leaves → 255 < size →
    sampleBytes size = .error fault → Tried leaves good (.error fault)

section

variable {α : Type} {cs ds : List Codec}

theorem Tried.given_of_ne {c : Codec} {good : α → Prop} {a : α} (hc : ∀ size, c ≠ .fixed size)
    (h : good a) : Tried [c] good (.ok a) := by
  refine .given (fun size hm => ?_) h
  exact absurd (List.mem_singleton.mp hm).symm (hc size)

/-- The samples of a first field and of others, one after another. -/
theorem Tried.cons {P : Value → Prop} {Q R : List Value → Prop} {r : Except Fault Value}
    {rs : Except Fault (List Value)} (h : Tried cs P r) (hs : Tried ds Q rs)
    (good : ∀ v vs, P v → Q vs → R (v :: vs)) :
    Tried (cs ++ ds) R (do
      let v ← r
      let vs ← rs
      return v :: vs) := by
  cases h with
  | refused hm large hf => exact .refused (List.mem_append_left ds hm) large hf
  | given small hv =>
    cases hs with
    | refused hm large hf => exact .refused (List.mem_append_right cs hm) large hf
    | given smalls hvs =>
      refine .given (fun size hm => ?_) (good _ _ hv hvs)
      rcases List.mem_append.mp hm with hm | hm
      · exact small size hm
      · exact smalls size hm

/-- A record is sampled as its fields are, if it can be composed of their samples. -/
theorem Tried.record {s : Schema} {Q : List Value → Prop} {P : Value → Prop}
    (ask : Action.sample.ofType s.fields = .ok ()) (h : Tried cs Q (sampleAll s.fields))
    (good : ∀ vs, Q vs → s.compose vs = .ok (.record s vs) ∧ P (.record s vs)) :
    Tried cs P s.sample := by
  have hs : s.sample = sampleAll s.fields >>= s.compose := by
    obtain ⟨tag, name, fs⟩ := s
    rw [Schema.sample, ask]
    rfl
  rw [hs]
  generalize sampleAll s.fields = result at h
  cases h with
  | refused hm large hf => exact .refused hm large hf
  | @given vs small hvs =>
    obtain ⟨hc, hv⟩ := good vs hvs
    change Tried cs P (s.compose vs)
    rw [hc]
    exact .given small hv

end

theorem sampleAll_cons (f : Field) (fs : List Field) :
    sampleAll (f :: fs) = do
      let v ← f.codec.sample
      let vs ← sampleAll fs
      return v :: vs := by
  cases f
  rfl

/-- There are sample bytes of a count up to 255. -/
theorem tried_sampleBytes {size : Int} (h0 : 0 ≤ size) :
    Tried [.fixed size] (fun v => (Codec.fixed size).Keeps v) (sampleBytes size) := by
  have count : maxCount = 9223372036854775807 := rfl
  have bytes : maxBytes = 9223372036854775774 := rfl
  by_cases large : 255 < size
  · have refused : ∃ fault, sampleBytes size = .error fault := by
      unfold sampleBytes
      split_ifs <;> exact ⟨_, rfl⟩
    obtain ⟨fault, hf⟩ := refused
    rw [hf]
    exact .refused (by simp) large hf
  · rw [sampleBytes, if_neg (by omega), if_neg (by omega), if_neg large]
    refine .given (fun size' hm => ?_) (.fixed ?_)
    · cases List.mem_singleton.mp hm
      omega
    · simpa using h0

theorem Codec.Sampled.isDeclared {c : Codec} (h : c.Sampled) : c.isDeclared = true := by
  cases h <;> rfl

mutual

/-- How taking a sample of a codec ends. -/
theorem Codec.Sampled.tried {c : Codec} :
    c.Sampled → Tried c.leaves (fun v => ∃ bs, c.Encodes v bs) c.sample
  | @Codec.Sampled.uint size order hs ho => by
    have one : 1 ≤ maxOfWidth size := by
      rw [le_maxOfWidth_iff]
      exact Nat.one_lt_pow (by omega) (by decide)
    exact .given_of_ne (by simp) ((Codec.Fixed.uint ho).exists_encodes (.uint one))
  | @Codec.Sampled.fixed size h0 => by
    have h := tried_sampleBytes h0
    rw [Codec.sample, Codec.leaves]
    · generalize sampleBytes size = result at h
      cases h with
      | refused hm large hf => exact .refused hm large hf
      | given small hk => exact .given small ((Codec.Fixed.fixed h0).exists_encodes hk)
    · simp
  | .port => .given_of_ne (by simp) ⟨_, .port ⟨1, by decide⟩⟩
  | @Codec.Sampled.record s hs hf => by
    rw [Codec.sample, Codec.leaves, Schema.leaves_eq]
    refine hf.tried.record hs.sample ?_
    rintro vs ⟨bs, h⟩
    exact ⟨Schema.compose_of_keep h.carry.keep hs.clear.making h.carry.ask, bs,
      .record hs.clear h⟩

theorem FieldsSampled.tried {fs : List Field} :
    FieldsSampled fs →
      Tried (leavesOf fs) (fun vs => ∃ bs, FieldsEncode fs vs bs) (sampleAll fs)
  | .nil => .given (by simp [leavesOf]) ⟨[], .nil⟩
  | .cons hf hfs => by
    rw [sampleAll_cons, leavesOf_cons]
    refine hf.tried.cons hfs.tried ?_
    rintro v vs ⟨bs, hv⟩ ⟨cs, hvs⟩
    exact ⟨bs ++ cs, .cons hv hvs⟩

end

/-! ### Agreement of a value with itself -/

mutual

/-- A value of a codec that can be sampled agrees with itself. -/
theorem Codec.Sampled.agree_self {c : Codec} {v : Value} {bs : Bytes} :
    c.Sampled → c.Encodes v bs → c.agree v v = .ok true
  | .uint _ _, .big _ => Value.askEquals_self (by simp)
  | .uint _ _, .little _ => Value.askEquals_self (by simp)
  | .fixed _, .fixed _ => Value.askEquals_self (by simp)
  | .port, .port _ => Value.askEquals_self (by simp)
  | .record hs hf, .record _ h =>
    (Value.agrees_record hs.comparable).trans (hf.agreeAll_self h)

theorem FieldsSampled.agreeAll_self {fs : List Field} {vs : List Value} {bs : Bytes} :
    FieldsSampled fs → FieldsEncode fs vs bs → agreeAll fs vs vs = .ok true
  | .nil, .nil => rfl
  | .cons hf hfs, .cons hv hvs =>
    agreeAll_cons hf.isDeclared (hf.agree_self hv) (hfs.agreeAll_self hvs)

end

/-! ### Lengths and channel data -/

/-- The sample of channel data. -/
def sampleLevels : Bytes := [1, 2, 3, 4]

/-- Values of fields with channel data as the last of them as they are sampled, the values that
are read for them, and the bytes between. -/
inductive DataTrip : List Field → List Value → List Value → Bytes → Prop where
  /-- The channel data is read as it was. -/
  | data (default : Option Scalar) :
    DataTrip [⟨Value.dataField, .payload, default⟩] [.payload (.bytes sampleLevels)]
      [.payload (.bytes sampleLevels)] sampleLevels
  /-- A length that was unparsed is read as the size of the data. -/
  | length {f : Field} {fs : List Field} {vs ws : List Value} {cs : Bytes} :
    f.codec = .length → f.name ≠ Value.dataField → DataTrip fs vs ws cs →
      DataTrip (f :: fs) (.length .none :: vs) (.length (.int 4) :: ws) ([0, 4] ++ cs)
  /-- Any other value is read as it was. -/
  | cons {f : Field} {fs : List Field} {v : Value} {vs ws : List Value} {bs cs : Bytes} :
    f.codec.Sampled → f.name ≠ Value.dataField → f.codec.Encodes v bs → DataTrip fs vs ws cs →
      DataTrip (f :: fs) (v :: vs) (v :: ws) (bs ++ cs)

theorem FieldsBeforeData.tried {fs : List Field} (h : FieldsBeforeData fs) :
    Tried (leavesOf fs) (fun vs => ∃ ws bs, DataTrip fs vs ws bs) (sampleAll fs) := by
  induction h with
  | data default => exact .given_of_ne (by simp) ⟨_, _, .data default⟩
  | @length f fs hc hn _ ih =>
    rw [sampleAll_cons, leavesOf_cons, hc]
    have sampled : Tried [.length] (· = Value.length .none) Codec.length.sample :=
      .given_of_ne (by simp) rfl
    refine sampled.cons ih ?_
    rintro v vs rfl ⟨ws, cs, trip⟩
    exact ⟨_, _, .length hc hn trip⟩
  | cons hf hn _ ih =>
    rw [sampleAll_cons, leavesOf_cons]
    refine hf.tried.cons ih ?_
    rintro v vs ⟨bs, hv⟩ ⟨ws, cs, trip⟩
    exact ⟨_, _, .cons hf hn hv trip⟩

namespace DataTrip

variable {fs : List Field} {vs ws : List Value} {bs : Bytes}

theorem keep (h : DataTrip fs vs ws bs) : FieldsKeep fs vs ∧ FieldsKeep fs ws := by
  induction h with
  | data default => exact ⟨.cons (.payload _) .nil, .cons (.payload _) .nil⟩
  | length hc _ _ ih => exact ⟨.cons (hc ▸ .length _) ih.1, .cons (hc ▸ .length _) ih.2⟩
  | cons _ _ hv _ ih => exact ⟨.cons hv.carries.keeps ih.1, .cons hv.carries.keeps ih.2⟩

theorem ask (h : DataTrip fs vs ws bs) :
    ∀ f ∈ fs, ∀ s, f.codec = .record s → Action.coerce.ofType s.fields = .ok () := by
  induction h with
  | data default => simp
  | length hc _ _ ih => exact List.forall_mem_cons.mpr ⟨by simp [hc], ih⟩
  | cons _ _ hv _ ih => exact List.forall_mem_cons.mpr ⟨hv.carries.ask, ih⟩

theorem lookup?_data (h : DataTrip fs vs ws bs) :
    Value.lookup? fs vs Value.dataField = some (.payload (.bytes sampleLevels)) := by
  induction h with
  | data default => rfl
  | length _ hn _ ih => rw [Value.lookup?, if_neg hn, ih]
  | cons _ hn _ _ ih => rw [Value.lookup?, if_neg hn, ih]

theorem appends (h : DataTrip fs vs ws bs) :
    (writeAll fs vs (some (.payload (.bytes sampleLevels)))).Appends bs := by
  induction h with
  | data default => exact fun buffer => rfl
  | length hc _ _ ih =>
    rw [writeAll, hc]
    exact (Writer.appends_appendFrom [0, 4]).bind ih
  | cons _ _ hv _ ih =>
    rw [writeAll]
    exact (hv.carries.appends _).bind ih

theorem run_readAll (h : DataTrip fs vs ws bs) {data : Bytes} {start : Nat}
    (hs : start ≤ data.length) (hd : data.drop start = bs) :
    (readAll fs).run (.after data start) = (.ok ws, .after data (start + bs.length)) := by
  -- The data takes all that is left, so nothing may come after it.
  induction h generalizing start with
  | data default =>
    have hl := congrArg List.length hd
    rw [List.length_drop] at hl
    have hn : start + sampleLevels.length = data.length := by omega
    rw [readAll_cons, Procedure.run_bind, Codec.read, Procedure.run_bind,
      Cursor.run_readRest_after hs, hd, hn]
    rfl
  | length hc _ _ ih =>
    refine run_readAll_cons [] ?_ (fun next hn hd => ih hn (by simpa using hd)) hs
      (by simpa using hd)
    rw [hc]
    exact Codec.takes_part rfl rfl rfl
  | cons _ _ hv _ ih =>
    exact run_readAll_cons [] hv.carries.takes
      (fun next hn hd => ih hn (by simpa using hd)) hs (by simpa using hd)

theorem agree (h : DataTrip fs vs ws bs) :
    agreeAll fs vs ws = .ok true ∧ agreeAll fs ws vs = .ok true := by
  induction h with
  | data default => exact ⟨rfl, rfl⟩
  | @length f fs vs ws cs hc _ _ ih =>
    have declared : f.isDeclared = true := by
      rw [Field.isDeclared, hc]
      rfl
    have sent : f.codec.agree (.length .none) (.length (.int 4)) = .ok true := by
      rw [hc]
      rfl
    have back : f.codec.agree (.length (.int 4)) (.length .none) = .ok true := by
      rw [hc]
      rfl
    exact ⟨agreeAll_cons declared sent ih.1, agreeAll_cons declared back ih.2⟩
  | cons hf _ hv _ ih =>
    have same := hf.agree_self hv
    exact ⟨agreeAll_cons hf.isDeclared same ih.1, agreeAll_cons hf.isDeclared same ih.2⟩

end DataTrip

/-! ### Round trips -/

/-- A record that goes out in bytes, from which one comes back that agrees with it from both sides. -/
def Schema.Trips (s : Schema) (v : Value) : Prop :=
  ∃ bs back, v.serialize = .ok bs ∧ s.parse bs = (.ok back, .after bs bs.length) ∧
    v.agrees back = .ok true ∧ back.agrees v = .ok true

section

variable {s : Schema}

/-- A record goes out and comes back if its fields do. -/
theorem Schema.Unobstructed.trips (hs : s.Unobstructed) {vs ws : List Value} (bs : Bytes)
    (appends : (writeAll s.fields vs (Value.lookup? s.fields vs Value.dataField)).Appends bs)
    (read : (readAll s.fields).run (.after bs 0) = (.ok ws, .after bs bs.length))
    (compose : s.compose ws = .ok (.record s ws))
    (agree : agreeAll s.fields vs ws = .ok true ∧ agreeAll s.fields ws vs = .ok true) :
    s.Trips (.record s vs) := by
  refine ⟨bs, .record s ws, serialize_of_appends hs.clear appends, ?_, ?_, ?_⟩
  · rw [Schema.parse, Cursor.start_eq_after]
    exact (Schema.run_read_eq_ok hs.clear.parse).mpr ⟨ws, read, compose⟩
  · exact (Value.agrees_record hs.comparable).trans agree.1
  · exact (Value.agrees_record hs.comparable).trans agree.2

/-- How taking the sample of a schema ends. -/
theorem Schema.Unobstructed.tried (hs : s.Unobstructed)
    (hf : FieldsSampled s.fields ∨ FieldsBeforeData s.fields) :
    Tried s.leaves s.Trips s.sample := by
  rw [Schema.leaves_eq]
  rcases hf with hf | hf
  · refine hf.tried.record hs.sample ?_
    rintro vs ⟨bs, h⟩
    have compose := Schema.compose_of_keep h.carry.keep hs.clear.making h.carry.ask
    have agree := hf.agreeAll_self h
    refine ⟨compose, hs.trips bs (h.carry.appends _) ?_ compose ⟨agree, agree⟩⟩
    simpa using h.carry.takes bs [] 0 (Nat.zero_le _) (by simp)
  · refine hf.tried.record hs.sample ?_
    rintro vs ⟨ws, bs, h⟩
    have compose := Schema.compose_of_keep h.keep.2 hs.clear.making h.ask
    refine ⟨Schema.compose_of_keep h.keep.1 hs.clear.making h.ask,
      hs.trips bs ?_ ?_ compose h.agree⟩
    · rw [h.lookup?_data]
      exact h.appends
    · simpa using h.run_readAll (Nat.zero_le _) List.drop_zero

/-- **Samples go round.** A schema of fields that have samples, to any depth, with lengths and channel
data or without, has a sample exactly if no leaf is bytes of a count beyond 255; otherwise taking
it fails as it does for the bytes of such a leaf. The sample can be written, and what is read from
its bytes, which are all passed, agrees with it from both sides. -/
theorem sample_round_trips (hs : s.Unobstructed)
    (hf : FieldsSampled s.fields ∨ FieldsBeforeData s.fields) :
    ((∃ v, s.sample = .ok v) ↔ ∀ size, .fixed size ∈ s.leaves → size ≤ 255) ∧
    (∀ fault, s.sample = .error fault →
      ∃ size, .fixed size ∈ s.leaves ∧ 255 < size ∧ sampleBytes size = .error fault) ∧
    ∀ v, s.sample = .ok v → ∃ bs back,
      v.serialize = .ok bs ∧ s.parse bs = (.ok back, .after bs bs.length) ∧
      v.agrees back = .ok true ∧ back.agrees v = .ok true := by
  have h := hs.tried hf
  generalize s.sample = result at h
  cases h with
  | @given v small trips =>
    refine ⟨⟨fun _ => small, fun _ => ⟨v, rfl⟩⟩, nofun, ?_⟩
    rintro _ ⟨⟩
    exact trips
  | @refused size fault hm large hf =>
    refine ⟨⟨nofun, fun small => ?_⟩, ?_, nofun⟩
    · exact absurd (small size hm) (by omega)
    · rintro _ ⟨⟩
      exact ⟨size, hm, large, hf⟩

end

/-- A reel: a time code, the length of its levels, a mark of as many bytes as have a sample, and the
levels. -/
def reelSchema : Schema :=
  { tag := 2, name := "Reel",
    fields := [⟨"clock", .record Packet.timecode, none⟩, ⟨"length", .length, some .none⟩,
      ⟨"mark", .fixed 255, none⟩, ⟨"data", .payload, some (.bytes [])⟩] }

theorem timecode_sampled : (Codec.record Packet.timecode).Sampled := by
  have byte : (Codec.uint 1 .big).Sampled := .uint (by decide) (.inl rfl)
  refine .record (Schema.unobstructed_of_names (by decide)) ?_
  exact .cons (.fixed (by decide)) <| .cons byte <| .cons byte <| .cons byte <| .cons byte <|
    .cons byte <| .cons byte <| .cons byte .nil

theorem reelSchema_fields : FieldsBeforeData reelSchema.fields :=
  .cons timecode_sampled (by decide) <| .length rfl (by decide) <|
    .cons (.fixed (by decide)) (by decide) (.data _)

theorem sample_round_trips_reel :
    ∃ v bs back, reelSchema.sample = .ok v ∧ v.serialize = .ok bs ∧
      reelSchema.parse bs = (.ok back, .after bs bs.length) ∧
      v.agrees back = .ok true ∧ back.agrees v = .ok true := by
  obtain ⟨sampled, -, trips⟩ := sample_round_trips
    (Schema.unobstructed_of_names (by decide)) (.inr reelSchema_fields)
  have small : ∀ size, .fixed size ∈ reelSchema.leaves → size ≤ 255 := by
    simp [reelSchema, Packet.timecode, Schema.leaves, leavesOf, Codec.leaves]
  obtain ⟨v, hv⟩ := sampled.mpr small
  obtain ⟨bs, back, trip⟩ := trips v hv
  exact ⟨v, bs, back, hv, trip⟩

/-- A schema of a block of bytes, one more than have a sample. -/
def blockSchema : Schema :=
  { tag := 2, name := "Block", fields := [⟨"raw", .fixed 256, none⟩] }

/-- **A schema may have no sample**: there are no sample bytes of a count of 256. -/
theorem exists_unsampled :
    blockSchema.Unobstructed ∧ FieldsSampled blockSchema.fields ∧
      blockSchema.sample = .error (.invalid .byteRange) :=
  ⟨Schema.unobstructed_of_names (by decide), .cons (.fixed (by decide)) .nil, rfl⟩

end DmxNet
