import DmxNet.Proofs.Procedure
import DmxNet.Proofs.Schema.Exactness

/-!
# Coercing as a gate

A codec of known width takes any value and makes of it one that it keeps, or refuses it. What it
makes is carried by bytes, as many as the codec's leaves make together: it is written as these, and
read back where they stand. It is coerced to itself, and so is what was read from anywhere
(`coerce_gate`). The values that are taken may be of any kind, and records among them are as they
were first made (`Value.Built`).

It takes no more of the schemas that are nested than that their records and types answer when they
are coerced, read, written and compared. Each of the four is lost where a field stands in its place
(`exists_gate_open`).
-/

namespace DmxNet

mutual

/-- A codec of known width, in which all schemas answer to what their records are asked for. -/
inductive Codec.Firm : Codec → Prop where
  /-- A whole number, in an order that is one. -/
  | uint {size : Nat} {order : ByteOrder} :
    order = .big ∨ order = .little → Codec.Firm (.uint size order)
  /-- Bytes of a fixed count. -/
  | fixed {size : Int} : 0 ≤ size → Codec.Firm (.fixed size)
  /-- A Port-Address. -/
  | port : Codec.Firm .port
  /-- A record of firm fields. -/
  | record {s : Schema} : s.Responds → FieldsFirm s.fields → Codec.Firm (.record s)

/-- Fields whose codecs are firm. -/
inductive FieldsFirm : List Field → Prop where
  /-- No fields. -/
  | nil : FieldsFirm []
  /-- A first field, and others. -/
  | cons {f : Field} {fs : List Field} : f.codec.Firm → FieldsFirm fs → FieldsFirm (f :: fs)

end

mutual

/-- A codec of fixed size is firm. -/
theorem Codec.Fixed.firm {c : Codec} : c.Fixed → c.Firm
  | .uint ho => .uint ho
  | .fixed h0 => .fixed h0
  | .port => .port
  | .record clear hf => .record clear.responds hf.firm

theorem FieldsFixed.firm {fs : List Field} : FieldsFixed fs → FieldsFirm fs
  | .nil => .nil
  | .cons hf hfs => .cons hf.firm hfs.firm

end

/-- A value as it is first made: of no other values, or of values that were made so. -/
inductive Value.Built : Value → Prop where
  /-- A value that never changes. -/
  | scalar (s : Scalar) : Value.Built (.scalar s)
  /-- A list. -/
  | list {vs : List Value} : (∀ v ∈ vs, Value.Built v) → Value.Built (.list vs)
  /-- A length, whatever was parsed into it. -/
  | length {v : Value} : Value.Built v → Value.Built (.length v)
  /-- Channel data. -/
  | payload (bs : Bytes) : Value.Built (.payload (.bytes bs))
  /-- A record, as its constructor makes it. -/
  | made {s : Schema} {args : List (String × Value)} {v : Value} :
    (∀ a ∈ args, Value.Built a.2) → s.make args = .ok v → Value.Built v

/-! ### What is coerced -/

section

variable {s : Schema} {v w : Value} {vs : List Value}

/-- A record is composed if records of its schema can be made and its values can be coerced. -/
theorem Schema.compose_eq_ok_iff :
    s.compose vs = .ok w ↔ Action.making s.fields = .ok () ∧
      ∃ ws, coerceAll s.fields vs = .ok ws ∧ w = .record s ws := by
  obtain ⟨tag, name, fs⟩ := s
  rw [Schema.compose, bind_eq_ok]
  constructor
  · rintro ⟨_, making, h⟩
    obtain ⟨ws, hws, h⟩ := bind_eq_ok.mp h
    exact ⟨making, ws, hws, (Except.ok.inj h).symm⟩
  · rintro ⟨making, ws, hws, rfl⟩
    exact ⟨(), making, bind_eq_ok.mpr ⟨ws, hws, rfl⟩⟩

/-- Whether a value is of the schema or not, what becomes of it was composed of values as they were
made. -/
theorem exists_compose_of_coerce (hv : v.Built) (h : (Codec.record s).coerce v = .ok w) :
    ∃ vs, vs.length = s.fields.length ∧ (∀ u ∈ vs, u.Built) ∧ s.compose vs = .ok w := by
  rw [Codec.coerce] at h
  obtain ⟨-, -, h⟩ := bind_eq_ok.mp h
  split_ifs at h with hs
  · obtain rfl := Except.ok.inj h
    cases hv with
    | @made t args _ ha hm =>
      obtain ⟨vs, hvs, hc⟩ := bind_eq_ok.mp hm
      obtain ⟨-, ws, -, rfl⟩ := Schema.compose_eq_ok_iff.mp hc
      obtain rfl : t = s := by simpa [Value.isRecordOf] using hs
      obtain ⟨hl, hb⟩ := forall_of_fillNamed .scalar ha hvs
      exact ⟨vs, hl, hb, hc⟩
    | scalar | list | length | payload => simp [Value.isRecordOf] at hs
  · obtain ⟨-, -, h⟩ := bind_eq_ok.mp h
    obtain ⟨vs, hvs, hc⟩ := bind_eq_ok.mp h
    obtain ⟨hl, hb⟩ := forall_of_fillFirst .scalar hv hvs
    exact ⟨vs, hl, hb, hc⟩

end

mutual

/-- What a firm codec makes of a value is carried by bytes. -/
theorem Codec.Firm.exists_carries {c : Codec} {v w : Value} (hv : v.Built)
    (h : c.coerce v = .ok w) : c.Firm → ∃ bs, c.Carries w bs
  | .uint ho => by
    rw [Codec.coerce] at h
    obtain ⟨n, hn, rfl⟩ := coerceNumber_eq_ok h
    rcases ho with rfl | rfl
    · exact ⟨_, .big hn⟩
    · exact ⟨_, .little hn⟩
  | .fixed _ => by
    rw [Codec.coerce] at h
    obtain ⟨bs, hb, rfl⟩ := coerceBytes_eq_ok h
    exact ⟨bs, .fixed hb⟩
  | .port => by
    rw [Codec.coerce] at h
    obtain ⟨p, rfl⟩ := coercePort_eq_ok h
    exact ⟨_, .port p⟩
  | .record responds hf => by
    obtain ⟨vs, hl, hb, hc⟩ := exists_compose_of_coerce hv h
    obtain ⟨making, ws, hws, rfl⟩ := Schema.compose_eq_ok_iff.mp hc
    obtain ⟨bs, carry⟩ := hf.exists_carry hl hb hws
    exact ⟨bs, .record responds making carry⟩

theorem FieldsFirm.exists_carry {fs : List Field} {vs ws : List Value}
    (hl : vs.length = fs.length) (hv : ∀ v ∈ vs, v.Built) (h : coerceAll fs vs = .ok ws) :
    FieldsFirm fs → ∃ bs, FieldsCarry fs ws bs
  | .nil => by
    obtain rfl := List.length_eq_zero_iff.mp hl
    obtain rfl := Except.ok.inj h
    exact ⟨[], .nil⟩
  | @FieldsFirm.cons ⟨name, c, default⟩ fs hf hfs => by
    obtain ⟨v, vs, rfl⟩ := List.exists_cons_of_length_eq_add_one hl
    rw [coerceAll] at h
    obtain ⟨w, hw, h⟩ := bind_eq_ok.mp h
    obtain ⟨ws, hws, h⟩ := bind_eq_ok.mp h
    obtain rfl := Except.ok.inj h
    obtain ⟨bs, first⟩ := hf.exists_carries (hv v (by simp)) hw
    obtain ⟨cs, rest⟩ :=
      hfs.exists_carry (by simpa using hl) (fun u hu => hv u (by simp [hu])) hws
    exact ⟨bs ++ cs, .cons first rest⟩

end

/-! ### What is read -/

/-- What a codec of fixed size reads is a value that has the bytes that were passed. -/
theorem Codec.Fixed.exists_encodes_of_read {c : Codec} (hc : c.Fixed) {data : Bytes} {start : Nat}
    {w : Value} {next : Cursor} (hs : start ≤ data.length)
    (h : c.read.run (.after data start) = (.ok w, next)) :
    ∃ bs, c.Encodes w bs ∧ start + bs.length ≤ data.length ∧
      next = .after data (start + bs.length) := by
  cases hstop : firstStop c.leaves (data.drop start) with
  | some stop =>
    rw [hc.run_read_of_stop hs hstop] at h
    cases h
  | none =>
    obtain ⟨hw, v, hv⟩ := hc.exists_value hstop
    have hd := (List.take_append_drop (widthOf c.leaves) (data.drop start)).symm
    rw [hv.run_read hs hd] at h
    cases h
    have hl := List.length_take_of_le hw
    rw [List.length_drop] at hw
    exact ⟨_, hv, by omega, rfl⟩

mutual

/-- What a firm codec reads is carried by the bytes that were passed. -/
theorem Codec.Firm.exists_carries_of_read {c : Codec} {data : Bytes} {start : Nat} {w : Value}
    {next : Cursor} (hs : start ≤ data.length)
    (h : c.read.run (.after data start) = (.ok w, next)) :
    c.Firm → ∃ bs, c.Carries w bs ∧ start + bs.length ≤ data.length ∧
      next = .after data (start + bs.length)
  | .uint ho => by
    obtain ⟨bs, hb, passed⟩ := (Codec.Fixed.uint ho).exists_encodes_of_read hs h
    exact ⟨bs, hb.carries, passed⟩
  | .fixed h0 => by
    obtain ⟨bs, hb, passed⟩ := (Codec.Fixed.fixed h0).exists_encodes_of_read hs h
    exact ⟨bs, hb.carries, passed⟩
  | .port => by
    obtain ⟨bs, hb, passed⟩ := Codec.Fixed.port.exists_encodes_of_read hs h
    exact ⟨bs, hb.carries, passed⟩
  | @Codec.Firm.record s responds hf => by
    rw [Codec.read] at h
    obtain ⟨vs, hr, hc⟩ := (Schema.run_read_eq_ok responds.parse).mp h
    obtain ⟨bs, carry, passed⟩ := hf.exists_carry_of_read hs hr
    obtain ⟨making, ws, hws, rfl⟩ := Schema.compose_eq_ok_iff.mp hc
    -- What was read is composed as it is.
    obtain rfl := Except.ok.inj ((coerceAll_of_keep carry.keep carry.ask).symm.trans hws)
    exact ⟨bs, .record responds making carry, passed⟩

theorem FieldsFirm.exists_carry_of_read {fs : List Field} {data : Bytes} {start : Nat}
    {vs : List Value} {next : Cursor} (hs : start ≤ data.length)
    (h : (readAll fs).run (.after data start) = (.ok vs, next)) :
    FieldsFirm fs → ∃ bs, FieldsCarry fs vs bs ∧ start + bs.length ≤ data.length ∧
      next = .after data (start + bs.length)
  | .nil => by
    cases h
    exact ⟨[], .nil, hs, rfl⟩
  | @FieldsFirm.cons f fs hf hfs => by
    rw [readAll_cons] at h
    obtain ⟨v, after, hr, h⟩ := Procedure.run_bind_eq_ok.mp h
    obtain ⟨bs, first, hn, rfl⟩ := hf.exists_carries_of_read hs hr
    obtain ⟨us, later, hrs, h⟩ := Procedure.run_bind_eq_ok.mp h
    obtain ⟨cs, rest, hl, rfl⟩ := hfs.exists_carry_of_read hn hrs
    cases h
    refine ⟨bs ++ cs, .cons first rest, ?_, ?_⟩
    · rw [List.length_append]
      omega
    · rw [List.length_append, Nat.add_assoc]

end

/-! ### The gate -/

/-- **Coercing is a gate.** What a firm codec makes of a value, whatever that is, it makes of it
again. It can be written, after anything and beside anything, in as many bytes as the codec's leaves
make together, and from these bytes it is read back, wherever they stand. What the codec reads from
within a datagram it makes of it again as well. -/
theorem coerce_gate {c : Codec} (hc : c.Firm) :
    (∀ v w : Value, v.Built → c.coerce v = .ok w →
      c.coerce w = .ok w ∧ w.askEquals w = .ok true ∧
      ∃ bs : Bytes, bs.length = widthOf c.leaves ∧
        (∀ beside buffer, (c.write w beside).run buffer = (.ok (), buffer ++ bs)) ∧
        ∀ front tail : Bytes, c.read.run ⟨front ++ bs ++ tail, front.length⟩ =
          (.ok w, ⟨front ++ bs ++ tail, front.length + bs.length⟩)) ∧
    ∀ (data : Bytes) (position : Int) (w : Value) (next : Cursor),
      0 ≤ position → position ≤ data.length → c.read.run ⟨data, position⟩ = (.ok w, next) →
      c.coerce w = .ok w ∧ w.askEquals w = .ok true := by
  constructor
  · intro v w hv h
    obtain ⟨bs, carries⟩ := hc.exists_carries hv h
    exact ⟨carries.coerce_eq, carries.askEquals_self, bs, carries.length_eq, carries.appends,
      carries.takes.between⟩
  · intro data position w next h0 hl h
    obtain ⟨start, rfl⟩ := Int.eq_ofNat_of_zero_le h0
    obtain ⟨bs, carries, -, -⟩ := hc.exists_carries_of_read (Int.ofNat_le.mp hl) h
    exact ⟨carries.coerce_eq, carries.askEquals_self⟩

/-- A place as it is first made of a text and a truth value. -/
def madePlace : Value := .record placeSchema [.int 7, .port ⟨1, by decide⟩, .int 0]

/-- A cue as it is first made: of a place, a version for its time code, and a count of zero bytes. -/
def madeCue : Value :=
  .record cueSchema
    [madePlace,
     .record Packet.timecode
      [.bytes [0, 15], .int 0, .int 0, .int 0, .int 0, .int 0, .int 0, .int 0],
     .bytes [0, 0]]

theorem built_madePlace : madePlace.Built := by
  have parts : ∀ a ∈ [("level", Value.text " 7 "), ("address", Value.bool true)], a.2.Built := by
    simp only [List.forall_mem_cons]
    exact ⟨.scalar _, .scalar _, by simp⟩
  exact .made parts (show placeSchema.make _ = .ok madePlace from rfl)

theorem built_madeCue : madeCue.Built := by
  have version : ∀ v ∈ [Value.int 0, .port ⟨15, by decide⟩], v.Built := by
    simp only [List.forall_mem_cons]
    exact ⟨.scalar _, .scalar _, by simp⟩
  have parts : ∀ a ∈ [("place", madePlace), ("clock", Value.list [.int 0, .port ⟨15, by decide⟩]),
      ("mark", Value.int 2)], a.2.Built := by
    simp only [List.forall_mem_cons]
    exact ⟨built_madePlace, .list version, .scalar _, by simp⟩
  exact .made parts (show cueSchema.make _ = .ok madeCue from rfl)

theorem coerce_gate_cue :
    (Codec.record cueSchema).coerce madeCue = .ok madeCue ∧
      madeCue.askEquals madeCue = .ok true ∧
      (∃ bs : Bytes, bs.length = 16 ∧
        ((Codec.record cueSchema).write madeCue none).run [1] = (.ok (), [1] ++ bs) ∧
        cueSchema.read.run ⟨[0xFF] ++ bs ++ [0, 1], 1⟩ =
          (.ok madeCue, ⟨[0xFF] ++ bs ++ [0, 1], 17⟩)) ∧
      ∃ w next, cueSchema.read.run ⟨List.replicate 20 1, 4⟩ = (.ok w, next) ∧
        (Codec.record cueSchema).coerce w = .ok w ∧ w.askEquals w = .ok true := by
  obtain ⟨coerced, read⟩ := coerce_gate cueSchema_fixed.codec.firm
  obtain ⟨again, same, bs, hl, hw, hr⟩ := coerced madeCue madeCue built_madeCue rfl
  have hread := hr [0xFF] [0, 1]
  rw [Codec.read, hl] at hread
  exact ⟨again, same, ⟨bs, hl, hw none [1], hread⟩, _, _, rfl,
    read (List.replicate 20 1) 4 _ _ (by decide) (by decide) rfl⟩

/-! ### Fields in the place of what is asked -/

/-- A record of one field, as it is first made. -/
theorem built_oneField (name : String) (default : Option Scalar)
    (h : (oneField name default).make [(name, .int 1)] =
      .ok (.record (oneField name default) [.int 1])) :
    Value.Built (.record (oneField name default) [.int 1]) := by
  refine .made (fun a ha => ?_) h
  obtain rfl := List.mem_singleton.mp ha
  exact .scalar _

/-- **A field can stand in the place of what is asked.** A record that is coerced to itself may not
be written, not be read from its bytes, or not be compared; and one that was read may not be
coerced. -/
theorem exists_gate_open :
    (∃ v : Value, v.Built ∧ (Codec.record (oneField "into_buffer" none)).coerce v = .ok v ∧
      ((Codec.record (oneField "into_buffer" none)).write v none).run [] = (.error .mismatch, [])) ∧
    (∃ v : Value, v.Built ∧
      (Codec.record (oneField "from_cursor" (some (.int 1)))).coerce v = .ok v ∧
      ((Codec.record (oneField "from_cursor" (some (.int 1)))).write v none).run [] =
        (.ok (), [1]) ∧
      (oneField "from_cursor" (some (.int 1))).read.run ⟨[1], 0⟩ = (.error .mismatch, ⟨[1], 0⟩)) ∧
    (∃ v : Value, v.Built ∧ (Codec.record (oneField "__eq__" (some (.int 1)))).coerce v = .ok v ∧
      v.askEquals v = .error .mismatch) ∧
    ∃ w : Value, (oneField "coerce" (some (.int 1))).read.run ⟨[1], 0⟩ = (.ok w, ⟨[1], 1⟩) ∧
      (Codec.record (oneField "coerce" (some (.int 1)))).coerce w = .error .mismatch := by
  exact ⟨⟨_, built_oneField "into_buffer" none rfl, rfl, rfl⟩,
    ⟨_, built_oneField "from_cursor" (some (.int 1)) rfl, rfl, rfl, rfl⟩,
    ⟨_, built_oneField "__eq__" (some (.int 1)) rfl, rfl, rfl⟩, _, rfl, rfl⟩

end DmxNet
