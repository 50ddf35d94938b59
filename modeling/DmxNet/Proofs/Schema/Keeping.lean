import DmxNet.Packet.Layout
import DmxNet.Schema.Compose
import Mathlib.Data.List.Forall2
import Mathlib.Tactic.NormNum
import Mathlib.Tactic.SplitIfs

/-!
# What records keep

A codec keeps values of one form (`Codec.Keeps`): a number that fits, bytes of the right count, a
value of the type that it nests. What is coerced is of that form (`Codec.keeps_of_coerce`), and a
value of that form is coerced to itself (`Codec.coerce_of_keeps`), so a record keeps one value of
the right form for each field from the time it is composed.

Both hold of values that are as their constructors made them (`Value.Fresh`). Channel data may be
given any content later, and a record any values, and such a value is taken as it is (`make_watch`).
So a record is only known to keep what its codecs keep if the values that it was made of are fresh,
and those that they nest (`Composed`).
-/

namespace DmxNet

/-- A conversion that goes on after another answers only if the other did. -/
theorem bind_eq_ok {α β : Type} {x : Except Fault α} {f : α → Except Fault β} {b : β} :
    x >>= f = .ok b ↔ ∃ a, x = .ok a ∧ f a = .ok b := by
  cases x with
  | error fault => simp [Bind.bind, Except.bind]
  | ok a => simp [Bind.bind, Except.bind]

mutual

/-- A value of the form that a codec keeps. -/
inductive Codec.Keeps : Codec → Value → Prop where
  /-- A number that fits the width. -/
  | uint {size : Nat} {order : ByteOrder} {n : Nat} :
    n ≤ maxOfWidth size → Codec.Keeps (.uint size order) (.int n)
  /-- As many bytes as are asked for. -/
  | fixed {size : Int} {bs : Bytes} :
    (bs.length : Int) = size → Codec.Keeps (.fixed size) (.bytes bs)
  /-- Any Port-Address. -/
  | port (p : PortAddress) : Codec.Keeps .port (.port p)
  /-- A length, whatever was parsed into it. -/
  | length (v : Value) : Codec.Keeps .length (.length v)
  /-- Channel data, whatever its size. -/
  | payload (bs : Bytes) : Codec.Keeps .payload (.payload (.bytes bs))
  /-- A record of the schema. -/
  | record {s : Schema} {vs : List Value} :
    FieldsKeep s.fields vs → Codec.Keeps (.record s) (.record s vs)
  /-- The codec that leaves everything undefined takes any value. -/
  | base (v : Value) : Codec.Keeps .base v

/-- One value for each field, of the form that its codec keeps. -/
inductive FieldsKeep : List Field → List Value → Prop where
  /-- No values for no fields. -/
  | nil : FieldsKeep [] []
  /-- A value for the first field, and values for the others. -/
  | cons {f : Field} {fs : List Field} {v : Value} {vs : List Value} :
    f.codec.Keeps v → FieldsKeep fs vs → FieldsKeep (f :: fs) (v :: vs)

end

section

variable {v : Value}

theorem keeps_uint_iff {size : Nat} {order : ByteOrder} :
    (Codec.uint size order).Keeps v ↔ ∃ n : Nat, n ≤ maxOfWidth size ∧ v = .int n := by
  constructor
  · intro h
    cases h with
    | uint hn => exact ⟨_, hn, rfl⟩
  · rintro ⟨n, hn, rfl⟩
    exact .uint hn

theorem keeps_fixed_iff {size : Int} :
    (Codec.fixed size).Keeps v ↔ ∃ bs : Bytes, (bs.length : Int) = size ∧ v = .bytes bs := by
  constructor
  · intro h
    cases h with
    | fixed hb => exact ⟨_, hb, rfl⟩
  · rintro ⟨bs, hb, rfl⟩
    exact .fixed hb

theorem keeps_port_iff : Codec.port.Keeps v ↔ ∃ p, v = .port p := by
  constructor
  · intro h
    cases h with
    | port p => exact ⟨p, rfl⟩
  · rintro ⟨p, rfl⟩
    exact .port p

theorem keeps_length_iff : Codec.length.Keeps v ↔ ∃ u, v = .length u := by
  constructor
  · intro h
    cases h with
    | length u => exact ⟨u, rfl⟩
  · rintro ⟨u, rfl⟩
    exact .length u

theorem keeps_payload_iff : Codec.payload.Keeps v ↔ ∃ bs, v = .payload (.bytes bs) := by
  constructor
  · intro h
    cases h with
    | payload bs => exact ⟨bs, rfl⟩
  · rintro ⟨bs, rfl⟩
    exact .payload bs

theorem fieldsKeep_nil_iff {vs : List Value} : FieldsKeep [] vs ↔ vs = [] := by
  constructor
  · intro h
    cases h
    rfl
  · rintro rfl
    exact .nil

theorem fieldsKeep_cons_iff {f : Field} {fs : List Field} {vs : List Value} :
    FieldsKeep (f :: fs) vs ↔ ∃ v us, vs = v :: us ∧ f.codec.Keeps v ∧ FieldsKeep fs us := by
  constructor
  · intro h
    cases h with
    | cons hv hus => exact ⟨_, _, rfl, hv, hus⟩
  · rintro ⟨v, us, rfl, hv, hus⟩
    exact .cons hv hus

end

/-- A value as its constructor made it, and the values that it keeps. A number set into a record
later need not fit its field. -/
def Value.Fresh : Value → Prop
  | .payload content => ∃ bs, content = .bytes bs
  | .record s vs => FieldsKeep s.fields vs
  | _ => True

/-! ### Single values -/

section

variable {v w : Value}

theorem coerceNumber_eq_ok {size : Nat} (h : coerceNumber size v = .ok w) :
    ∃ n : Nat, n ≤ maxOfWidth size ∧ w = .int n := by
  obtain ⟨n, -, h⟩ := bind_eq_ok.mp h
  dsimp only at h
  split_ifs at h with hn
  · obtain ⟨h0, h1⟩ := hn
    obtain ⟨k, rfl⟩ := Int.eq_ofNat_of_zero_le h0
    exact ⟨k, Int.ofNat_le.mp h1, (Except.ok.inj h).symm⟩

theorem coerceBytes_eq_ok {size : Int} (h : coerceBytes size v = .ok w) :
    ∃ bs : Bytes, (bs.length : Int) = size ∧ w = .bytes bs := by
  obtain ⟨n, hn, h⟩ := bind_eq_ok.mp h
  split_ifs at h with hs
  obtain ⟨bs, hb, h⟩ := bind_eq_ok.mp h
  -- The count was found without the bytes, and is the count of the bytes.
  have hc : (.ok bs.length : Except Fault Nat) = .ok n := by
    rw [← hn, ← Value.map_length_toBytes, hb]
    rfl
  obtain rfl := Except.ok.inj hc
  exact ⟨bs, hs, (Except.ok.inj h).symm⟩

theorem coercePort_eq_ok (h : coercePort v = .ok w) : ∃ p, w = .port p := by
  unfold coercePort at h
  split at h
  · exact ⟨_, (Except.ok.inj h).symm⟩
  · obtain ⟨p, -, h⟩ := bind_eq_ok.mp h
    exact ⟨p, (Except.ok.inj h).symm⟩

theorem coercePayload_eq_ok (hv : v.Fresh) (h : coercePayload v = .ok w) :
    ∃ bs, w = .payload (.bytes bs) := by
  unfold coercePayload at h
  split at h
  · obtain ⟨bs, rfl⟩ := hv
    exact ⟨bs, (Except.ok.inj h).symm⟩
  · obtain ⟨bs, -, h⟩ := bind_eq_ok.mp h
    exact ⟨bs, (Except.ok.inj h).symm⟩

theorem coerceLength_eq (v : Value) : ∃ u, coerceLength v = .length u := by
  unfold coerceLength
  split
  · exact ⟨_, rfl⟩
  · exact ⟨v, rfl⟩

end

/-! ### Arguments -/

/-- A value that is left out is one that never changes. -/
theorem Field.exists_scalar_of_initial {f : Field} {v : Value} (h : f.initial = .ok v) :
    ∃ s, v = .scalar s := by
  unfold Field.initial at h
  split_ifs at h
  obtain rfl := Except.ok.inj h
  cases f.default with
  | none => exact ⟨.none, rfl⟩
  | some s => exact ⟨s, rfl⟩

section

variable {P : Value → Prop} {fs : List Field} {vs : List Value}

/-- Values that are made one by one, of the fields, are as many, and of a kind if each of them is. -/
theorem forall_of_mapM {make : Field → Except Fault Value} (hm : ∀ f v, make f = .ok v → P v)
    (h : fs.mapM make = .ok vs) : vs.length = fs.length ∧ ∀ v ∈ vs, P v := by
  induction fs generalizing vs with
  | nil =>
    obtain rfl := Except.ok.inj h
    simp
  | cons f fs ih =>
    rw [List.mapM_cons] at h
    obtain ⟨v, hv, h⟩ := bind_eq_ok.mp h
    obtain ⟨us, hu, h⟩ := bind_eq_ok.mp h
    obtain rfl := Except.ok.inj h
    obtain ⟨hl, hf⟩ := ih hu
    refine ⟨by simp [hl], ?_⟩
    intro u hmem
    rcases List.mem_cons.mp hmem with rfl | hmem
    · exact hm f u hv
    · exact hf u hmem

variable (scalar : ∀ s, P (.scalar s))

include scalar

theorem Field.holds_initial {f : Field} {v : Value} (h : f.initial = .ok v) : P v := by
  obtain ⟨s, rfl⟩ := Field.exists_scalar_of_initial h
  exact scalar s

theorem forall_of_fillFirst {v : Value} (hv : P v) (h : fillFirst fs v = .ok vs) :
    vs.length = fs.length ∧ ∀ u ∈ vs, P u := by
  cases fs with
  | nil => simp [fillFirst] at h
  | cons f fs =>
    obtain ⟨us, hu, h⟩ := bind_eq_ok.mp h
    obtain rfl := Except.ok.inj h
    obtain ⟨hl, hf⟩ := forall_of_mapM (fun f v => Field.holds_initial scalar) hu
    exact ⟨by simp [hl], by simpa using ⟨hv, hf⟩⟩

theorem forall_of_fillNamed {args : List (String × Value)} (ha : ∀ a ∈ args, P a.2)
    (h : fillNamed fs args = .ok vs) : vs.length = fs.length ∧ ∀ v ∈ vs, P v := by
  unfold fillNamed at h
  split_ifs at h
  refine forall_of_mapM (fun f v hv => ?_) h
  split at hv
  · rename_i u hu
    obtain rfl := Except.ok.inj hv
    obtain ⟨before, later, rfl, -⟩ := List.lookup_eq_some_iff.mp hu
    exact ha (f.name, u) (by simp)
  · exact Field.holds_initial scalar hv

end

theorem Value.fresh_scalar (s : Scalar) : (Value.scalar s).Fresh := trivial

/-! ### What is coerced is kept -/

mutual

/-- **What is coerced is kept**: a codec makes of a fresh value one of the form that it keeps. -/
theorem Codec.keeps_of_coerce :
    (c : Codec) → {v w : Value} → v.Fresh → c.coerce v = .ok w → c.Keeps w
  | .uint size order, v, w, _, h => by
    rw [Codec.coerce] at h
    obtain ⟨n, hn, rfl⟩ := coerceNumber_eq_ok h
    exact .uint hn
  | .fixed size, v, w, _, h => by
    rw [Codec.coerce] at h
    obtain ⟨bs, hb, rfl⟩ := coerceBytes_eq_ok h
    exact .fixed hb
  | .port, v, w, _, h => by
    rw [Codec.coerce] at h
    obtain ⟨p, rfl⟩ := coercePort_eq_ok h
    exact .port p
  | .length, v, w, _, h => by
    rw [Codec.coerce] at h
    obtain rfl := Except.ok.inj h
    obtain ⟨u, hu⟩ := coerceLength_eq v
    rw [hu]
    exact .length u
  | .payload, v, w, hv, h => by
    rw [Codec.coerce] at h
    obtain ⟨bs, rfl⟩ := coercePayload_eq_ok hv h
    exact .payload bs
  | .record s, v, w, hv, h => by
    rw [Codec.coerce] at h
    obtain ⟨-, -, h⟩ := bind_eq_ok.mp h
    split_ifs at h with hs
    · -- A record of the schema is kept as it is.
      obtain rfl := Except.ok.inj h
      cases v <;> simp only [Value.isRecordOf, decide_eq_true_eq, Bool.false_eq_true] at hs
      subst hs
      exact .record hv
    · obtain ⟨-, -, h⟩ := bind_eq_ok.mp h
      obtain ⟨vs, hvs, h⟩ := bind_eq_ok.mp h
      obtain ⟨hl, hf⟩ := forall_of_fillFirst Value.fresh_scalar hv hvs
      obtain ⟨ws, rfl, hk⟩ := Schema.keeps_of_compose s hl hf h
      exact .record hk
  | .base, v, w, _, _ => .base w
  | .undeclared name, v, w, _, h => by
    rw [Codec.coerce] at h
    cases h

/-- What is composed of fresh values is a record that keeps one value for each field. -/
theorem Schema.keeps_of_compose :
    (s : Schema) → {vs : List Value} → {w : Value} → vs.length = s.fields.length →
      (∀ v ∈ vs, v.Fresh) → s.compose vs = .ok w →
      ∃ ws, w = .record s ws ∧ FieldsKeep s.fields ws
  | ⟨tag, name, fs⟩, vs, w, hl, hf, h => by
    rw [Schema.compose] at h
    obtain ⟨-, -, h⟩ := bind_eq_ok.mp h
    obtain ⟨ws, hw, h⟩ := bind_eq_ok.mp h
    exact ⟨ws, (Except.ok.inj h).symm, fieldsKeep_of_coerceAll fs hl hf hw⟩

theorem fieldsKeep_of_coerceAll :
    (fs : List Field) → {vs ws : List Value} → vs.length = fs.length →
      (∀ v ∈ vs, v.Fresh) → coerceAll fs vs = .ok ws → FieldsKeep fs ws
  | [], vs, ws, hl, _, h => by
    obtain rfl := List.length_eq_zero_iff.mp hl
    obtain rfl := Except.ok.inj h
    exact .nil
  | f :: fs, [], ws, hl, _, _ => by simp at hl
  | ⟨name, c, default⟩ :: fs, v :: vs, ws, hl, hf, h => by
    rw [coerceAll] at h
    obtain ⟨u, hu, h⟩ := bind_eq_ok.mp h
    obtain ⟨us, hus, h⟩ := bind_eq_ok.mp h
    obtain rfl := Except.ok.inj h
    exact .cons (Codec.keeps_of_coerce c (hf v (by simp)) hu)
      (fieldsKeep_of_coerceAll fs (by simpa using hl) (fun u hu => hf u (by simp [hu])) hus)

end

/-- A record of a schema as its constructor makes it of fresh values. The constructor makes one
around records that were altered, too (`make_watch`), but then what these hold need not be kept by
any codec. -/
def Composed (s : Schema) (v : Value) : Prop :=
  ∃ args : List (String × Value), (∀ a ∈ args, a.2.Fresh) ∧ s.make args = .ok v

theorem Composed.keeps {s : Schema} {v : Value} (h : Composed s v) :
    ∃ vs, v = .record s vs ∧ FieldsKeep s.fields vs := by
  obtain ⟨args, ha, h⟩ := h
  obtain ⟨vs, hvs, h⟩ := bind_eq_ok.mp h
  obtain ⟨hl, hf⟩ := forall_of_fillNamed Value.fresh_scalar ha hvs
  exact Schema.keeps_of_compose s hl hf h

/-- A watch, which nests a time code. -/
def watchSchema : Schema :=
  { tag := 3, name := "Watch", fields := [⟨"clock", .record Packet.timecode, none⟩] }

/-- A watch is made around a time code whatever this holds. -/
theorem make_watch (vs : List Value) :
    watchSchema.make [("clock", .record Packet.timecode vs)] =
      .ok (.record watchSchema [.record Packet.timecode vs]) := rfl

/-! ### What is kept stays -/

/-- **What is kept stays**: a value of the form that a codec keeps is coerced to itself, if the
type that the codec nests can be asked to coerce. -/
theorem Codec.coerce_of_keeps {c : Codec} {v : Value} (h : c.Keeps v)
    (ask : ∀ s, c = .record s → Action.coerce.ofType s.fields = .ok ()) : c.coerce v = .ok v := by
  cases h with
  | @uint size order n hn =>
    have h1 : (0 : Int) ≤ n ∧ (n : Int) ≤ maxOfWidth size := by omega
    rw [Codec.coerce]
    exact bind_eq_ok.mpr ⟨n, rfl, if_pos h1⟩
  | @fixed size bs hb =>
    rw [Codec.coerce]
    exact bind_eq_ok.mpr ⟨bs.length, rfl, if_pos hb⟩
  | port p => rw [Codec.coerce, coercePort]
  | length u => rw [Codec.coerce, coerceLength]
  | payload bs => rw [Codec.coerce, coercePayload]
  | @record s vs hk =>
    rw [Codec.coerce]
    exact bind_eq_ok.mpr ⟨(), ask s rfl, if_pos (by simp [Value.isRecordOf])⟩
  | base u => rw [Codec.coerce]

/-- The values that fields keep are coerced to themselves. -/
theorem coerceAll_of_keep {fs : List Field} {vs : List Value} (h : FieldsKeep fs vs)
    (ask : ∀ f ∈ fs, ∀ s, f.codec = .record s → Action.coerce.ofType s.fields = .ok ()) :
    coerceAll fs vs = .ok vs := by
  induction fs generalizing vs with
  | nil =>
    cases h
    rfl
  | cons f fs ih =>
    cases h with
    | @cons _ _ v vs hv hvs =>
      have hc := Codec.coerce_of_keeps hv (ask f (by simp))
      have ht := ih hvs fun g hg => ask g (by simp [hg])
      cases f
      exact bind_eq_ok.mpr ⟨v, hc, bind_eq_ok.mpr ⟨vs, ht, rfl⟩⟩

/-- The values that the fields of a schema keep are composed as they are. -/
theorem Schema.compose_of_keep {s : Schema} {vs : List Value} (h : FieldsKeep s.fields vs)
    (making : Action.making s.fields = .ok ())
    (ask : ∀ f ∈ s.fields, ∀ t, f.codec = .record t → Action.coerce.ofType t.fields = .ok ()) :
    s.compose vs = .ok (.record s vs) := by
  cases s
  exact bind_eq_ok.mpr ⟨(), making, bind_eq_ok.mpr ⟨vs, coerceAll_of_keep h ask, rfl⟩⟩

end DmxNet
