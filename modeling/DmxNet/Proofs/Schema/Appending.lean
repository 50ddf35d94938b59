import DmxNet.Proofs.Schema.Fixed
import DmxNet.Proofs.Schema.Wired

/-!
# Appending records

What a record appends to a buffer, told by its leaves: the fields that hold no records, one after
another in the order of their bytes, each with the record that it is a field of (`Value.leaves`). The
bytes of a leaf are made of what it holds, and if it is a length, of the channel data beside it
(`Leaf.bytes`). Neither the buffer nor what the record is a part of plays a role.

A record that can be written appends the bytes of its leaves to whatever is in the buffer; one that
cannot appends those of the leaves before the first that has no bytes (`writes_leaf_by_leaf`). This
holds of records whose numbers and bytes were overwritten, too.
-/

namespace DmxNet

/-! ### Pieces as one -/

/-- What pieces come to as one. -/
def gather (ps : List (Except Fault Bytes)) : Except Fault Bytes :=
  (joinPieces ps).1.map fun _ => (joinPieces ps).2

theorem gather_singleton (p : Except Fault Bytes) : gather [p] = p := by
  cases p with
  | error fault => rfl
  | ok bs => simp [gather, joinPieces, Except.map]

theorem gather_append (ps qs : List (Except Fault Bytes)) :
    gather (ps ++ qs) = gather ps >>= fun bs => (gather qs).map (bs ++ ·) := by
  unfold gather
  cases h : (joinPieces ps).1 with
  | error fault =>
    rw [joinPieces_append_of_error h, h]
    rfl
  | ok _ =>
    rw [joinPieces_append_of_ok h]
    cases (joinPieces qs).1 <;> rfl

theorem Writer.Joins.bytes_eq {w : Writer Unit} {ps : List (Except Fault Bytes)}
    (h : w.Joins ps) : w.bytes = gather ps := by
  rw [bytes, output, h, List.nil_append, gather]
  cases (joinPieces ps).1 <;> rfl

/-! ### Leaves -/

/-- A field that holds no record, and the record that it is a field of. -/
structure Leaf where
  owner : Value
  field : Field
  /-- What the field holds. -/
  value : Value

/-- The bytes of a leaf, or the fault of not having any. -/
def Leaf.bytes (l : Leaf) : Except Fault Bytes := l.field.codec.piece l.owner.data? l.value

mutual

/-- The leaves of what a field of a record holds, in the order of their bytes. -/
def Field.leavesIn (f : Field) (owner : Value) : Value → List Leaf
  | .record s vs => leavesAmong (.record s vs) s.fields vs
  | v => [⟨owner, f, v⟩]

/-- The leaves of fields of a record, in the order of their bytes. -/
def leavesAmong (owner : Value) : List Field → List Value → List Leaf
  | f :: fs, v :: vs => f.leavesIn owner v ++ leavesAmong owner fs vs
  | _, _ => []

end

/-- The leaves of a record, in the order of their bytes. -/
def Value.leaves : Value → List Leaf
  | .record s vs => leavesAmong (.record s vs) s.fields vs
  | _ => []

/-- The bytes of what a field of a record holds: of a record, those that it has alone. -/
def Field.bytesIn (owner : Value) (f : Field) (v : Value) : Except Fault Bytes :=
  if v.isRecord then v.serialize else (Leaf.mk owner f v).bytes

@[simp] theorem leavesAmong_cons (owner : Value) (f : Field) (fs : List Field) (v : Value)
    (vs : List Value) :
    leavesAmong owner (f :: fs) (v :: vs) = f.leavesIn owner v ++ leavesAmong owner fs vs := rfl

/-- A value that is no record is one leaf. -/
theorem Field.leavesIn_of_not_record {v : Value} (h : v.isRecord = false) (f : Field)
    (owner : Value) : f.leavesIn owner v = [⟨owner, f, v⟩] := by
  cases v with
  | record s vs => cases h
  | _ => rfl

/-- What a field holds that is no record is written as a leaf. -/
theorem Codec.joins_leaf {f : Field} {c : Codec} (hc : f.codec = c) {v : Value}
    (h : v.isRecord = false) (owner : Value) :
    (c.writeWith (v.write owner.data?) v).Joins ((f.leavesIn owner v).map Leaf.bytes) := by
  subst hc
  have hw := f.codec.write_eq_appendFrom h owner.data?
  rw [Codec.write] at hw
  rw [hw, Field.leavesIn_of_not_record h]
  exact Writer.joins_appendFrom _

mutual

/-- **What a field holds is written leaf by leaf.** -/
theorem Codec.Holds.joins {f : Field} {c : Codec} {v : Value} (hc : f.codec = c) (owner : Value) :
    c.Holds Schema.Clear v →
      (c.writeWith (v.write owner.data?) v).Joins ((f.leavesIn owner v).map Leaf.bytes)
  | .uint _ _ _ | .fixed _ _ | .port _ | .length _ | .payload _ =>
    Codec.joins_leaf hc rfl owner
  | @Codec.Holds.record _ s vs clear h => by
    intro buffer
    rw [Codec.writeWith, Value.write, clear.write, Procedure.run_bind, Procedure.run_conclude]
    exact h.joins (.record s vs) buffer

theorem FieldsHold.joins {fs : List Field} {vs : List Value} (owner : Value) :
    FieldsHold Schema.Clear fs vs →
      (writeAll fs vs owner.data?).Joins ((leavesAmong owner fs vs).map Leaf.bytes)
  | .nil => by
    exact Writer.joins_pure
  | .cons hv hvs => by
    rw [writeAll, leavesAmong_cons, List.map_append]
    exact (hv.joins rfl owner).bind (hvs.joins owner)

end

section

variable {s : Schema} {w : Value}

/-- A record is written leaf by leaf, whatever it is written beside. -/
theorem Codec.Holds.joins_write (h : (Codec.record s).Holds Schema.Clear w)
    (context : Option Value) : (w.write context).Joins (w.leaves.map Leaf.bytes) := by
  cases h with
  | @record _ vs clear h =>
    intro buffer
    rw [Value.write, clear.write, Procedure.run_bind, Procedure.run_conclude]
    exact h.joins (.record s vs) buffer

/-- The bytes of a record alone are those of its leaves. -/
theorem Codec.Holds.serialize_eq (h : (Codec.record s).Holds Schema.Clear w) :
    w.serialize = gather (w.leaves.map Leaf.bytes) := by
  have hj := (h.joins_write none).bytes_eq
  cases h with
  | @record _ vs clear _ =>
    rw [Value.serialize, clear.serialize]
    exact hj

/-- How a record is written into a buffer, beside the channel data of whatever it is written for. -/
structure Value.WritesLeaves (w : Value) (context : Option Value) (buffer : Bytes) : Prop where
  /-- A record that has bytes appends them, and they are the bytes of its leaves. -/
  appends : ∀ bs, w.serialize = .ok bs →
    (w.write context).run buffer = (.ok (), buffer ++ bs) ∧
      ∃ parts : List Bytes, w.leaves.map Leaf.bytes = parts.map .ok ∧ bs = parts.flatten
  /-- A record that has none fails at a leaf, after the bytes of the leaves before that. -/
  stops : ∀ fault, w.serialize = .error fault →
    ∃ (front : List Leaf) (l : Leaf) (back : List Leaf) (parts : List Bytes),
      w.leaves = front ++ l :: back ∧ front.map Leaf.bytes = parts.map .ok ∧
        l.bytes = .error fault ∧
        (w.write context).run buffer = (.error fault, buffer ++ parts.flatten)

theorem Codec.Holds.writesLeaves (h : (Codec.record s).Holds Schema.Clear w)
    (context : Option Value) (buffer : Bytes) : w.WritesLeaves context buffer := by
  have hrun := h.joins_write context buffer
  have hserialize := h.serialize_eq
  rw [gather] at hserialize
  cases hj : (joinPieces (w.leaves.map Leaf.bytes)).1 with
  | ok _ =>
    obtain ⟨parts, hparts, hbytes⟩ := exists_parts_of_joinPieces_ok hj
    rw [hj] at hrun hserialize
    refine ⟨fun bs hbs => ?_, fun fault hfault => ?_⟩
    · obtain rfl := Except.ok.inj (hserialize.symm.trans hbs)
      exact ⟨hrun, parts, hparts, hbytes⟩
    · cases hserialize.symm.trans hfault
  | error fault =>
    obtain ⟨parts, rest, hsplit, hbytes⟩ := exists_split_of_joinPieces_error hj
    rw [hj] at hrun hserialize
    refine ⟨fun bs hbs => ?_, fun fault' hfault => ?_⟩
    · cases hserialize.symm.trans hbs
    · obtain rfl := Except.error.inj (hserialize.symm.trans hfault)
      obtain ⟨front, later, hleaves, hfront, hlater⟩ := List.map_eq_append_iff.mp hsplit
      obtain ⟨l, back, rfl, hl, -⟩ := List.map_eq_cons_iff.mp hlater
      rw [hbytes] at hrun
      exact ⟨front, l, back, parts, hleaves, hfront, hl, hrun⟩

end

/-! ### Where leaves come from -/

mutual

/-- The leaves of what a field holds are those of its codec, in the same order. -/
theorem Codec.Holds.map_codec_leavesIn {f : Field} {c : Codec} {v : Value} (hc : f.codec = c)
    (owner : Value) : c.Holds Schema.Clear v →
      (f.leavesIn owner v).map (fun l => l.field.codec) = c.leaves
  | .uint _ _ _ | .fixed _ _ | .port _ | .length _ | .payload _ =>
    by simp [Field.leavesIn, Codec.leaves, hc]
  | @Codec.Holds.record _ s vs _ h => by
    rw [Codec.leaves, Schema.leaves_eq]
    exact h.map_codec_leavesAmong _

theorem FieldsHold.map_codec_leavesAmong {fs : List Field} {vs : List Value} (owner : Value) :
    FieldsHold Schema.Clear fs vs →
      (leavesAmong owner fs vs).map (fun l => l.field.codec) = leavesOf fs
  | .nil => rfl
  | .cons hv hvs => by
    rw [leavesAmong_cons, List.map_append, leavesOf_cons, hv.map_codec_leavesIn rfl owner,
      hvs.map_codec_leavesAmong owner]

end

/-- A leaf that is what a record holds in one of its fields. -/
def Leaf.IsPart (l : Leaf) : Prop :=
  ∃ s vs, l.owner = .record s vs ∧ FieldsHold Schema.Clear s.fields vs ∧
    (l.field, l.value) ∈ s.fields.zip vs

mutual

theorem Codec.Holds.isPart {f : Field} {c : Codec} {v : Value} {s : Schema} {us : List Value}
    (hs : FieldsHold Schema.Clear s.fields us) (hmem : (f, v) ∈ s.fields.zip us) :
    c.Holds Schema.Clear v → ∀ l ∈ f.leavesIn (.record s us) v, l.IsPart
  | .uint _ _ _ | .fixed _ _ | .port _ | .length _ | .payload _ =>
    by simpa [Field.leavesIn] using ⟨s, us, rfl, hs, hmem⟩
  | @Codec.Holds.record _ t vs _ h => FieldsHold.isPart h h fun _ hp => hp

/-- A leaf among fields of a record is what the record holds in one of them, or is in what it
holds in one of them. -/
theorem FieldsHold.isPart {fs : List Field} {vs : List Value} {s : Schema} {us : List Value}
    (hs : FieldsHold Schema.Clear s.fields us) :
    FieldsHold Schema.Clear fs vs → fs.zip vs ⊆ s.fields.zip us →
      ∀ l ∈ leavesAmong (.record s us) fs vs, l.IsPart
  | .nil, _ => by
    intro l hl
    cases hl
  | .cons hv hvs, hsub => by
    rw [List.zip_cons_cons, List.cons_subset] at hsub
    intro l hl
    rcases List.mem_append.mp hl with hl | hl
    · exact hv.isPart hs hsub.1 l hl
    · exact FieldsHold.isPart hs hvs hsub.2 l hl

end

/-- The bytes of a record alone are those of its fields, one after another. -/
theorem FieldsHold.gather_leavesAmong {fs : List Field} {vs : List Value} (owner : Value)
    (h : FieldsHold Schema.Clear fs vs) :
    gather ((leavesAmong owner fs vs).map Leaf.bytes) =
      ((fs.zip vs).mapM fun p : Field × Value => p.1.bytesIn owner p.2).map List.flatten := by
  induction fs generalizing vs with
  | nil =>
    cases h
    rfl
  | cons f fs ih =>
    cases h with
    | @cons _ _ v vs hv hvs =>
      have hfield : gather ((f.leavesIn owner v).map Leaf.bytes) = f.bytesIn owner v := by
        rw [Field.bytesIn]
        generalize f.codec = c at hv
        cases hv with
        | record clear hus => exact (Codec.Holds.record clear hus).serialize_eq.symm
        | _ => exact gather_singleton _
      rw [leavesAmong_cons, List.map_append, gather_append, ih hvs, hfield, List.zip_cons_cons,
        List.mapM_cons]
      cases f.bytesIn owner v with
      | error fault => rfl
      | ok bs =>
        cases (fs.zip vs).mapM fun p : Field × Value => p.1.bytesIn owner p.2 with
        | error fault => rfl
        | ok parts => rfl

/-- The size of channel data fits the length field exactly if there are fewer than 65535 bytes. -/
theorem numberBytes_evenSize_eq_ok_iff {n : Nat} {bs : Bytes} :
    numberBytes 2 .big (evenSize n) = .ok bs ↔ n < 65535 ∧ bs = bigBytes 2 (evenSize n) := by
  by_cases hn : n < 65535
  · rw [numberBytes_big (evenSize_le_maxOfWidth_iff.mpr hn), Except.ok.injEq, and_iff_right hn,
      eq_comm]
  · rw [numberBytes_big_of_lt (not_le.mp (mt evenSize_le_maxOfWidth_iff.mp hn))]
    simp [hn]

/-- A length has bytes if there is channel data beside it, and not too much, and is its size. -/
theorem FieldsHold.lengthBytes_eq_ok_iff {s : Schema} {vs : List Value}
    (h : FieldsHold Schema.Clear s.fields vs) {bs : Bytes} :
    Value.lengthBytes (Value.record s vs).data? = .ok bs ↔
      ∃ data : Bytes, (Value.record s vs).data? = some (.payload (.bytes data)) ∧
        data.length < 65535 ∧ bs = bigBytes 2 (evenSize data.length) := by
  cases hv : (Value.record s vs).data? with
  | none => simp [Value.lengthBytes, orFault, Bind.bind, Except.bind]
  | some v =>
    obtain ⟨c, hc⟩ := h.exists_of_lookup? hv
    cases hc with
    | payload data =>
      have hbytes : Value.lengthBytes (some (.payload (.bytes data))) =
          numberBytes 2 .big (evenSize data.length) := rfl
      rw [hbytes, numberBytes_evenSize_eq_ok_iff]
      simp
    | @record t us _ _ =>
      have hsize : ∃ fault, (Value.record t us).paddedSize = .error fault := by
        rw [Value.paddedSize]
        cases Action.pad.ofRecord t.fields with
        | error fault => exact ⟨fault, rfl⟩
        | ok _ => exact ⟨_, rfl⟩
      obtain ⟨fault, hsize⟩ := hsize
      simp [Value.lengthBytes, orFault, hsize, Bind.bind, Except.bind]
    | _ => simp [Value.lengthBytes, orFault, Value.paddedSize, Bind.bind, Except.bind]

/-- A leaf of a length field has the size of the channel data of the record that it is a field of. -/
theorem Leaf.IsPart.bytes_eq_ok_iff {l : Leaf} (h : l.IsPart) (hl : l.field.codec = .length)
    {bs : Bytes} :
    l.bytes = .ok bs ↔ ∃ data : Bytes, l.owner.data? = some (.payload (.bytes data)) ∧
      data.length < 65535 ∧ bs = bigBytes 2 (evenSize data.length) := by
  obtain ⟨s, vs, howner, hs, hmem⟩ := h
  have hvalue : ∃ u, l.value = .length u := by
    have hholds := hs.holds_of_mem hmem
    rw [hl] at hholds
    generalize l.value = v at hholds
    cases hholds with
    | length u => exact ⟨u, rfl⟩
  obtain ⟨u, hu⟩ := hvalue
  rw [Leaf.bytes, hl, Codec.piece, hu, howner]
  exact hs.lengthBytes_eq_ok_iff

/-! ### Records as they are written -/

theorem Field.leavesIn_eq (f : Field) (owner v : Value) :
    f.leavesIn owner v = if v.isRecord then v.leaves else [⟨owner, f, v⟩] := by
  cases v <;> rfl

theorem leavesAmong_eq_flatMap (owner : Value) (fs : List Field) (vs : List Value) :
    leavesAmong owner fs vs =
      (fs.zip vs).flatMap fun p => if p.2.isRecord then p.2.leaves else [⟨owner, p.1, p.2⟩] := by
  induction fs generalizing vs with
  | nil => cases vs <;> rfl
  | cons f fs ih =>
    cases vs with
    | nil => rfl
    | cons v vs =>
      rw [leavesAmong_cons, ih, f.leavesIn_eq, List.zip_cons_cons, List.flatMap_cons]

/-- **Records are written leaf by leaf.** Whatever is in the buffer and whatever it is written for, a
composed record of a wired schema, though its numbers and bytes were overwritten, appends the bytes
that it has alone, or up to a leaf that has none those of the leaves before it, and fails as it does
alone. The leaves are in the order of the schema, and a record that it holds has the leaves and the
bytes in it that it has alone. A length is that of the channel data beside it in the record that it
is a field of. -/
theorem writes_leaf_by_leaf {s : Schema} (hs : (Codec.record s).Wired Schema.Clear) {v w : Value}
    (hv : Composed s v) (ho : (Codec.record s).Overwrites v w) (context : Option Value)
    (buffer : Bytes) :
    w.WritesLeaves context buffer ∧
      w.leaves.map (fun l => l.field.codec) = s.leaves ∧
      (∃ ws, w = .record s ws ∧
        w.leaves = (s.fields.zip ws).flatMap (fun p =>
          if p.2.isRecord then p.2.leaves else [⟨w, p.1, p.2⟩]) ∧
        w.serialize = ((s.fields.zip ws).mapM fun p : Field × Value =>
          p.1.bytesIn w p.2).map List.flatten) ∧
      ∀ l ∈ w.leaves, l.field.codec = .length → ∀ bs, l.bytes = .ok bs ↔
        ∃ data : Bytes, l.owner.data? = some (.payload (.bytes data)) ∧
          data.length < 65535 ∧ bs = bigBytes 2 (evenSize data.length) := by
  obtain ⟨vs, rfl, hk⟩ := hv.keeps
  have hw := hs.holds (.record hk) ho
  have hserialize := hw.serialize_eq
  refine ⟨hw.writesLeaves context buffer, ?_⟩
  cases hw with
  | @record _ ws clear hws =>
    refine ⟨?_, ⟨ws, rfl, leavesAmong_eq_flatMap _ _ _, ?_⟩, fun l hl hcodec bs => ?_⟩
    · rw [Schema.leaves_eq]
      exact hws.map_codec_leavesAmong _
    · rw [hserialize]
      exact hws.gather_leavesAmong _
    · exact (FieldsHold.isPart hws hws (fun _ hp => hp) l hl).bytes_eq_ok_iff hcodec

/-! ### A record in a record -/

/-- Channel data, and its length before it. -/
def levelsSchema : Schema :=
  { tag := 2, name := "Levels",
    fields := [⟨"length", .length, some .none⟩, ⟨"data", .payload, none⟩] }

/-- Channel data, its length, and other channel data with its length. -/
def relaySchema : Schema :=
  { tag := 3, name := "Relay",
    fields := [⟨"length", .length, some .none⟩, ⟨"inner", .record levelsSchema, none⟩,
      ⟨"hop", .uint 1 .big, none⟩, ⟨"data", .payload, none⟩] }

theorem levelsSchema_wired : (Codec.record levelsSchema).Wired Schema.Clear :=
  .record (Schema.clear_of_names (by decide)) <| .cons .length <| .cons .payload .nil

theorem relaySchema_wired : (Codec.record relaySchema).Wired Schema.Clear :=
  .record (Schema.clear_of_names (by decide)) <| .cons .length <| .cons levelsSchema_wired <|
    .cons (.uint 1 .big) <| .cons .payload .nil

/-- A relay that went a number of hops, which need not fit. -/
def relayed (hops : Int) : Value :=
  .record relaySchema [.length .none, .record levelsSchema [.length .none, .payload (.bytes [1, 2, 3])],
    .int hops, .payload (.bytes [9, 9, 9, 9, 9])]

theorem composed_relayed : Composed relaySchema (relayed 1) := by
  have hl : (Value.record levelsSchema [.length .none, .payload (.bytes [1, 2, 3])]).Fresh :=
    .cons (.length .none) <| .cons (.payload [1, 2, 3]) .nil
  refine ⟨[("inner", .record levelsSchema [.length .none, .payload (.bytes [1, 2, 3])]),
    ("hop", .int 1), ("data", .bytes [9, 9, 9, 9, 9])], ?_, rfl⟩
  simp only [List.forall_mem_cons]
  exact ⟨hl, trivial, trivial, by simp⟩

theorem overwrites_relayed (hops : Int) :
    (Codec.record relaySchema).Overwrites (relayed 1) (relayed hops) :=
  .record <| .cons (.refl _ _) <| .cons (.refl _ _) <| .cons (.uint _ hops) <|
    .cons (.refl _ _) .nil

/-- Of a relay with a number of hops that does not fit, its length and the levels in it are written,
each length that of the data beside it. -/
theorem writes_leaf_by_leaf_relayed :
    (relayed 300).WritesLeaves none [0xFF] ∧
      (relayed 300).serialize = .error (.overflow .tooBig) ∧
      ((relayed 300).write none).run [0xFF] =
        (.error (.overflow .tooBig), [0xFF, 0, 6, 0, 4, 1, 2, 3, 0]) :=
  ⟨(writes_leaf_by_leaf relaySchema_wired composed_relayed (overwrites_relayed 300) none [0xFF]).1,
    rfl, rfl⟩

end DmxNet
