import DmxNet.Proofs.Schema.RoundTrip

/-!
# Exact parsing

How the reading of a record of fixed size ends, told by the leaves of its schema alone, one after
another in the order of their bytes (`firstStop`). The first leaf that does not fit into what is
left, or is a Port-Address out of range, decides how it fails, and where the cursor is left: before
the leaf in the one case, behind it in the other. If there is no such leaf then a record is read,
whose bytes are those that were passed (`read_exact`). How the leaves are nested plays no part, and
neither does the composing that follows the reading.

A leaf that does not fit is told with its width, and the width of a leaf of bytes may be any number.
One that is too long a number to be written cannot be told (`cutFault`).
-/

namespace DmxNet

/-- The fault of a leaf that does not fit: the bytes that it needs and those that are left, or that
the former are too many to be written as a number. -/
def cutFault (needed left : Nat) : Fault :=
  if Digits.writable needed then .endOfInput (.int needed) (.int left) else .invalid .unwritable

/-- The first of some leaves, one after another from the start of some bytes, that cannot be read:
the fault, and how many bytes are passed by then. -/
def firstStop : List Codec → Bytes → Option (Fault × Nat)
  | [], _ => none
  | c :: cs, bs =>
    if bs.length < c.leafWidth then some (cutFault c.leafWidth bs.length, 0)
    else if c = .port ∧ 0x7FFF < littleValue (bs.take 2) then
      some (.addressRange (.int (littleValue (bs.take 2))) (.int 0x7FFF), 2)
    else (firstStop cs (bs.drop c.leafWidth)).map fun stop => (stop.1, c.leafWidth + stop.2)

/-- Leaves after others are looked at behind them, if the others can be read. -/
theorem firstStop_append (cs ds : List Codec) (bs : Bytes) :
    firstStop (cs ++ ds) bs =
      match firstStop cs bs with
      | some stop => some stop
      | none =>
        (firstStop ds (bs.drop (widthOf cs))).map fun stop => (stop.1, widthOf cs + stop.2) := by
  induction cs generalizing bs with
  | nil => simp [firstStop]
  | cons c cs ih =>
    rw [List.cons_append, firstStop, firstStop]
    split_ifs with hl hp
    · rfl
    · rfl
    · rw [ih]
      cases firstStop cs (bs.drop c.leafWidth) with
      | some stop => rfl
      | none =>
        simp only [Option.map_none, Option.map_map, List.drop_drop, widthOf_cons]
        congr 1
        funext stop
        simp [Nat.add_assoc]

/-- A leaf can be read if it fits and is no Port-Address out of range. -/
theorem firstStop_singleton_eq_none_iff {c : Codec} {bs : Bytes} :
    firstStop [c] bs = none ↔
      c.leafWidth ≤ bs.length ∧ (c = .port → littleValue (bs.take 2) ≤ 0x7FFF) := by
  rw [firstStop]
  split_ifs with hl hp
  · have hn : ¬ c.leafWidth ≤ bs.length := by omega
    simp [hn]
  · have hn : ¬ littleValue (bs.take 2) ≤ 0x7FFF := by omega
    simp [hp.1, hn]
  · have hw : c.leafWidth ≤ bs.length := by omega
    simpa [firstStop, hw] using hp

/-! ### Leaves that can be read -/

theorem exists_port_encodes {bs : Bytes} (hl : bs.length = 2) (hv : littleValue bs ≤ 0x7FFF) :
    Codec.port.Encodes (.port ⟨littleValue bs, hv⟩) bs := by
  have h := Codec.Encodes.port ⟨littleValue bs, hv⟩
  have hb := littleBytes_littleValue bs
  rw [hl] at hb
  rwa [hb] at h

/-- As many bytes as a number has are those of some number, in an order that is one. -/
theorem exists_uint_encodes {order : ByteOrder} (ho : order = .big ∨ order = .little)
    (bs : Bytes) : ∃ n : Nat, (Codec.uint bs.length order).Encodes (.int n) bs := by
  rcases ho with rfl | rfl
  · have h := Codec.Encodes.big (le_maxOfWidth_iff.mpr (bigValue_lt bs))
    rw [bigBytes_bigValue] at h
    exact ⟨_, h⟩
  · have h := Codec.Encodes.little (le_maxOfWidth_iff.mpr (littleValue_lt bs))
    rw [littleBytes_littleValue] at h
    exact ⟨_, h⟩

mutual

/-- If all leaves of a codec can be read, then they fit, and their bytes are those of a value. -/
theorem Codec.Fixed.exists_value {c : Codec} {bs : Bytes} (h : firstStop c.leaves bs = none) :
    c.Fixed → widthOf c.leaves ≤ bs.length ∧ ∃ v, c.Encodes v (bs.take (widthOf c.leaves))
  | @Codec.Fixed.uint size order ho => by
    have hl : size ≤ bs.length := (firstStop_singleton_eq_none_iff.mp h).1
    obtain ⟨n, hn⟩ := exists_uint_encodes ho (bs.take size)
    rw [List.length_take_of_le hl] at hn
    exact ⟨hl, .int n, hn⟩
  | @Codec.Fixed.fixed size hs => by
    have hl : size.toNat ≤ bs.length := (firstStop_singleton_eq_none_iff.mp h).1
    refine ⟨hl, .bytes (bs.take size.toNat), .fixed ?_⟩
    rw [List.length_take_of_le hl]
    exact Int.toNat_of_nonneg hs
  | .port => by
    obtain ⟨hl, hv⟩ := firstStop_singleton_eq_none_iff.mp h
    exact ⟨hl, _, exists_port_encodes (List.length_take_of_le hl) (hv rfl)⟩
  | @Codec.Fixed.record s clear hf => by
    rw [Codec.leaves, Schema.leaves_eq] at h ⊢
    obtain ⟨hl, vs, hvs⟩ := hf.exists_values h
    exact ⟨hl, .record s vs, .record clear hvs⟩

theorem FieldsFixed.exists_values {fs : List Field} {bs : Bytes}
    (h : firstStop (leavesOf fs) bs = none) :
    FieldsFixed fs →
      widthOf (leavesOf fs) ≤ bs.length ∧ ∃ vs, FieldsEncode fs vs (bs.take (widthOf (leavesOf fs)))
  | .nil => ⟨Nat.zero_le _, [], .nil⟩
  | @FieldsFixed.cons f fs hf hfs => by
    rw [leavesOf_cons, firstStop_append] at h
    cases hc : firstStop f.codec.leaves bs with
    | some stop =>
      rw [hc] at h
      cases h
    | none =>
      rw [hc] at h
      obtain ⟨hl, v, hv⟩ := hf.exists_value hc
      obtain ⟨hls, vs, hvs⟩ := hfs.exists_values (Option.map_eq_none_iff.mp h)
      rw [List.length_drop] at hls
      rw [leavesOf_cons, widthOf_append]
      refine ⟨by omega, v :: vs, ?_⟩
      rw [List.take_add]
      exact .cons hv hvs

end

/-! ### The first leaf that cannot be read -/

section

variable {data : Bytes} {start passed : Nat} {fault : Fault}

/-- A part that does not fit fails as a leaf of its width. -/
theorem Part.take_eq_cutFault {q : Part} {bs : Bytes} (h : bs.length < q.width) :
    q.take bs = (.error (cutFault q.width bs.length), 0) := by
  rw [Part.take_of_lt h, Fault.shortage_eq h]
  rfl

/-- A codec that is a leaf fails as its part does. -/
theorem Codec.run_read_of_take {c : Codec} {q : Part} (hq : c.part? = some q)
    (hs : start ≤ data.length) (ht : q.take (data.drop start) = (.error fault, passed)) :
    c.read.run (.after data start) = (.error fault, .after data (start + passed)) := by
  rw [Codec.run_read hq hs, ht]

/-- A leaf that fits and cannot be read is a Port-Address out of range. -/
theorem eq_port_of_firstStop {c : Codec} {bs : Bytes} (hl : c.leafWidth ≤ bs.length)
    (h : firstStop [c] bs = some (fault, passed)) :
    c = .port ∧ 0x7FFF < littleValue (bs.take 2) ∧ passed = 2 ∧
      fault = .addressRange (.int (littleValue (bs.take 2))) (.int 0x7FFF) := by
  rw [firstStop, if_neg (by omega)] at h
  split_ifs at h with hp
  · cases h
    exact ⟨hp.1, hp.2, rfl, rfl⟩
  · cases h

/-- A leaf that does not fit stops before its bytes. -/
theorem firstStop_singleton_of_lt {c : Codec} {bs : Bytes} (hl : bs.length < c.leafWidth) :
    firstStop [c] bs = some (cutFault c.leafWidth bs.length, 0) := by
  rw [firstStop, if_pos hl]

/-- A leaf other than a Port-Address cannot be read only if it does not fit. -/
theorem Codec.run_read_of_lt {c : Codec} {q : Part} (hq : c.part? = some q)
    (hw : q.width = c.leafWidth) (hc : c ≠ .port) (hs : start ≤ data.length)
    (h : firstStop [c] (data.drop start) = some (fault, passed)) :
    c.read.run (.after data start) = (.error fault, .after data (start + passed)) := by
  by_cases hl : (data.drop start).length < c.leafWidth
  · rw [firstStop_singleton_of_lt hl] at h
    cases h
    refine Codec.run_read_of_take hq hs ?_
    rw [Part.take_eq_cutFault (by rwa [hw]), hw]
  · exact absurd (eq_port_of_firstStop (by omega) h).1 hc

mutual

/-- The first leaf of a codec that cannot be read decides how the codec fails, and where. -/
theorem Codec.Fixed.run_read_of_stop {c : Codec} {data : Bytes} {start passed : Nat}
    {fault : Fault} (hs : start ≤ data.length)
    (h : firstStop c.leaves (data.drop start) = some (fault, passed)) :
    c.Fixed → c.read.run (.after data start) = (.error fault, .after data (start + passed))
  | .uint _ => Codec.run_read_of_lt rfl rfl (by simp) hs h
  | .fixed h0 => Codec.run_read_of_lt (if_neg (by omega)) rfl (by simp) hs h
  | .port => by
    by_cases hl : (data.drop start).length < 2
    · rw [Codec.leaves, firstStop_singleton_of_lt hl] at h
      · cases h
        exact Codec.run_read_of_take rfl hs (Part.take_eq_cutFault hl)
      · simp
    · obtain ⟨-, hv, rfl, rfl⟩ := eq_port_of_firstStop (c := .port) (not_lt.mp hl) h
      refine Codec.run_read_of_take rfl hs ?_
      rw [Part.take_of_le (not_lt.mp hl)]
      change ((PortAddress.ofValue (.int (littleValue ((data.drop start).take 2)))).map _, 2) = _
      rw [PortAddress.ofValue_of_lt hv (littleValue_take_lt _ 2)]
      rfl
  | @Codec.Fixed.record s clear hf => by
    rw [Codec.leaves, Schema.leaves_eq] at h
    rw [Codec.read, Schema.run_read_fields clear.parse, hf.run_readAll_of_stop hs h]

theorem FieldsFixed.run_readAll_of_stop {fs : List Field} {data : Bytes} {start passed : Nat}
    {fault : Fault} (hs : start ≤ data.length)
    (h : firstStop (leavesOf fs) (data.drop start) = some (fault, passed)) :
    FieldsFixed fs →
      (readAll fs).run (.after data start) = (.error fault, .after data (start + passed))
  | .nil => by cases h
  | @FieldsFixed.cons f fs hf hfs => by
    rw [leavesOf_cons, firstStop_append] at h
    rw [readAll_cons, Procedure.run_bind]
    cases hc : firstStop f.codec.leaves (data.drop start) with
    | some stop =>
      -- The first field fails.
      rw [hc] at h
      cases h
      rw [hf.run_read_of_stop hs hc]
    | none =>
      -- The first field is read, and one behind it fails.
      rw [hc] at h
      obtain ⟨⟨fault', later⟩, hl, hstop⟩ := Option.map_eq_some_iff.mp h
      cases hstop
      obtain ⟨hw, v, hv⟩ := hf.exists_value hc
      have hd : data.drop start = (data.drop start).take (widthOf f.codec.leaves) ++
          (data.drop start).drop (widthOf f.codec.leaves) := (List.take_append_drop _ _).symm
      have hn : start + widthOf f.codec.leaves ≤ data.length := by
        rw [List.length_drop] at hw
        omega
      rw [List.drop_drop] at hl
      rw [hv.run_read hs hd, List.length_take_of_le hw]
      dsimp only
      rw [Procedure.run_bind, hfs.run_readAll_of_stop hn hl, Nat.add_assoc]

end

end

/-! ### Records -/

end DmxNet
