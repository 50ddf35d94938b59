import DmxNet.Proofs.Schema.Carrying

/-!
# Port-Addresses, their parts and their bytes

A Port-Address is written in three ways: as a number, as its Net, Sub-Net and universe, and as two
bytes, the low one first. The parts are its digits, in places that do not overlap as long as each
part is in its range (`pack_eq`), so composing undoes taking apart and the other way round. The
low byte holds Sub-Net and universe and the high one the Net, which leaves a bit of it unused.

All three agree for all whole numbers (`parts_number_bytes_agree`): the parts are judged in order, a
Port-Address whose parts are in range has these parts and these bytes again, every Port-Address is
that of its parts, and two bytes are one exactly if the bit that is not used is not set.
-/

namespace DmxNet

namespace PortAddress

/-! ### The parts of a Port-Address -/

section

variable (p : PortAddress)

theorem net_eq : p.net = p.value / 256 % 128 := by
  rw [net, Nat.shiftRight_eq_div_pow]
  exact Nat.and_two_pow_sub_one_eq_mod _ 7

theorem subNet_eq : p.subNet = p.value / 16 % 16 := by
  rw [subNet, Nat.shiftRight_eq_div_pow]
  exact Nat.and_two_pow_sub_one_eq_mod _ 4

theorem universeId_eq : p.universeId = p.value % 16 := Nat.and_two_pow_sub_one_eq_mod _ 4

/-- The parts of a Port-Address are its digits, and weigh what their places say. -/
theorem weight_parts : p.net * 256 + p.subNet * 16 + p.universeId = p.value := by
  have hle := p.value_le
  rw [net_eq, subNet_eq, universeId_eq]
  omega

end

/-- Parts that stay in their places weigh what these say. -/
theorem pack_eq {net subNet universeId : Nat} (hs : subNet < 16) (hu : universeId < 16) :
    pack net subNet universeId = net * 256 + subNet * 16 + universeId := by
  have high : net <<< 8 ||| subNet <<< 4 = (net * 16 + subNet) <<< 4 := by
    have hlow : subNet <<< 4 < 2 ^ 8 := by
      rw [Nat.shiftLeft_eq]
      omega
    rw [← Nat.shiftLeft_add_eq_or_of_lt hlow, Nat.shiftLeft_eq, Nat.shiftLeft_eq, Nat.shiftLeft_eq]
    omega
  rw [pack, high, ← Nat.shiftLeft_add_eq_or_of_lt hu, Nat.shiftLeft_eq]
  omega

/-! ### Composing -/

/-- The first of some numbers, each beside its limit, that is not between zero and that. -/
def firstOutside : List (Int × Nat) → Option (Int × Nat)
  | [] => none
  | (n, limit) :: parts => if 0 ≤ n ∧ n ≤ limit then firstOutside parts else some (n, limit)

/-- The fault of a whole number that is out of range: it has the number and the limit, unless the
number has too many digits to be written. -/
def outsideFault (n : Int) (limit : Nat) : Fault :=
  if Digits.writable n then .addressRange (.int n) (.int limit) else .invalid .unwritable

theorem firstOutside_eq_none_iff {parts : List (Int × Nat)} :
    firstOutside parts = none ↔ ∀ part ∈ parts, 0 ≤ part.1 ∧ part.1 ≤ part.2 := by
  induction parts with
  | nil => simp [firstOutside]
  | cons part parts ih =>
    rw [firstOutside, List.forall_mem_cons]
    split_ifs with h
    · rw [ih, and_iff_right h]
    · exact iff_of_false (by simp) fun hp => h hp.1

section

variable {n net subNet universeId : Int} {limit : Nat}

theorem checkPart_of_inside (h : 0 ≤ n ∧ n ≤ limit) : checkPart (.int n) limit = .ok () := by
  have hw : (Value.int n).within 0 limit = .ok true :=
    congrArg Except.ok (by simp [h.1, h.2])
  rw [checkPart, hw]
  rfl

theorem checkPart_of_outside (h : ¬ (0 ≤ n ∧ n ≤ limit)) :
    checkPart (.int n) limit = .error (outsideFault n limit) := by
  have hw : (Value.int n).within 0 limit = .ok false :=
    congrArg Except.ok (by simpa using h)
  rw [checkPart, hw]
  rfl

/-- Three numbers in range are the parts of the Port-Address that weighs what they do. -/
theorem ofParts_of_inside (hn : 0 ≤ net ∧ net ≤ (127 : Nat)) (hs : 0 ≤ subNet ∧ subNet ≤ (15 : Nat))
    (hu : 0 ≤ universeId ∧ universeId ≤ (15 : Nat)) {p : PortAddress}
    (hp : (p.value : Int) = 256 * net + 16 * subNet + universeId) :
    ofParts (.int net) (.int subNet) (.int universeId) = .ok p := by
  have packed : pack net.toNat subNet.toNat universeId.toNat = p.value := by
    rw [pack_eq (by omega) (by omega)]
    omega
  rw [ofParts, netLimit, nibbleLimit, checkPart_of_inside hn, checkPart_of_inside hs,
    checkPart_of_inside hu]
  exact ofValue_of_eq packed

/-- Three numbers are refused for the first of them that is out of range. -/
theorem ofParts_of_outside
    (h : firstOutside [(net, 127), (subNet, 15), (universeId, 15)] = some (n, limit)) :
    ofParts (.int net) (.int subNet) (.int universeId) = .error (outsideFault n limit) := by
  simp only [firstOutside] at h
  rw [ofParts, netLimit, nibbleLimit]
  split_ifs at h with hn hs hu
  · cases h
    rw [checkPart_of_inside hn, checkPart_of_inside hs, checkPart_of_outside hu]
    rfl
  · cases h
    rw [checkPart_of_inside hn, checkPart_of_outside hs]
    rfl
  · cases h
    rw [checkPart_of_outside hn]
    rfl

/-- Parts of which none is the first out of range are all in range. -/
theorem inside_of_firstOutside
    (h : firstOutside [(net, 127), (subNet, 15), (universeId, 15)] = none) :
    (0 ≤ net ∧ net ≤ 127) ∧ (0 ≤ subNet ∧ subNet ≤ 15) ∧ 0 ≤ universeId ∧ universeId ≤ 15 := by
  have inside := firstOutside_eq_none_iff.mp h
  simp only [List.forall_mem_cons] at inside
  omega

/-- There is a Port-Address of any parts in range. -/
theorem exists_of_inside (h : (0 ≤ net ∧ net ≤ 127) ∧ (0 ≤ subNet ∧ subNet ≤ 15) ∧
    0 ≤ universeId ∧ universeId ≤ 15) :
    ∃ p, ofParts (.int net) (.int subNet) (.int universeId) = .ok p ∧
      (p.value : Int) = 256 * net + 16 * subNet + universeId := by
  obtain ⟨value, hv⟩ := Int.eq_ofNat_of_zero_le
    (show 0 ≤ 256 * net + 16 * subNet + universeId by omega)
  exact ⟨⟨value, by omega⟩, ofParts_of_inside h.1 h.2.1 h.2.2 hv.symm, hv.symm⟩

/-- Numbers that are taken as parts are in range. -/
theorem inside_of_ofParts {p : PortAddress}
    (h : ofParts (.int net) (.int subNet) (.int universeId) = .ok p) :
    (0 ≤ net ∧ net ≤ 127) ∧ (0 ≤ subNet ∧ subNet ≤ 15) ∧ 0 ≤ universeId ∧ universeId ≤ 15 := by
  cases hf : firstOutside [(net, 127), (subNet, 15), (universeId, 15)] with
  | some part =>
    rw [ofParts_of_outside hf] at h
    cases h
  | none => exact inside_of_firstOutside hf

end

/-- **Every Port-Address is that of its parts.** -/
theorem ofParts_parts (p : PortAddress) :
    ofParts (.int p.net) (.int p.subNet) (.int p.universeId) = .ok p := by
  have weight := p.weight_parts
  have hn := p.net_eq
  have hs := p.subNet_eq
  have hu := p.universeId_eq
  exact ofParts_of_inside (by omega) (by omega) (by omega) (by omega)

/-! ### The bytes of a Port-Address -/

/-- The bytes of a Port-Address: it is written as them, after whatever is in the buffer, and it is
read where they stand, whatever stands before and after them. -/
def HasBytes (p : PortAddress) (bs : Bytes) : Prop :=
  (∀ beside buffer, ((Value.port p).write beside).run buffer = (.ok (), buffer ++ bs)) ∧
    ∀ front tail : Bytes, Codec.port.read.run ⟨front ++ bs ++ tail, front.length⟩ =
      (.ok (.port p), ⟨front ++ bs ++ tail, front.length + bs.length⟩)

theorem hasBytes (p : PortAddress) : p.HasBytes (littleBytes 2 p.value) :=
  ⟨fun beside => (Codec.Carries.port p).appends beside, (Codec.Carries.port p).takes.between⟩

/-- The low byte of a Port-Address is its Sub-Net and universe, the high one its Net. -/
theorem exists_hasBytes (p : PortAddress) :
    ∃ low high : UInt8, low.toNat = 16 * p.subNet + p.universeId ∧ high.toNat = p.net ∧
      p.HasBytes [low, high] := by
  have weight := p.weight_parts
  have hn := p.net_eq
  have hs := p.subNet_eq
  have hu := p.universeId_eq
  have low : (UInt8.ofNat p.value).toNat = p.value % 256 := UInt8.toNat_ofNat'
  have high : (UInt8.ofNat (p.value / 256)).toNat = p.value / 256 % 256 := UInt8.toNat_ofNat'
  exact ⟨UInt8.ofNat p.value, UInt8.ofNat (p.value / 256), by omega, by omega, p.hasBytes⟩

section

variable {low high : UInt8}

/-- Two bytes without the high bit are those of the Port-Address of the parts in them. -/
theorem exists_of_low_bytes (h : high.toNat < 128) :
    ∃ p : PortAddress,
      ofParts (.int high.toNat) (.int (low.toNat / 16 : Nat)) (.int (low.toNat % 16 : Nat)) =
        .ok p ∧ p.HasBytes [low, high] := by
  have hl := low.toNat_lt
  have value : littleValue [low, high] = low.toNat + 256 * high.toNat := by simp [littleValue]
  let p : PortAddress := ⟨littleValue [low, high], by omega⟩
  have bytes := p.hasBytes
  have same : littleBytes 2 p.value = [low, high] := littleBytes_littleValue [low, high]
  rw [same] at bytes
  refine ⟨p, ofParts_of_inside (by omega) (by omega) (by omega) ?_, bytes⟩
  change ((littleValue [low, high] : Nat) : Int) = _
  omega

/-- Two bytes with the high bit are no Port-Address. -/
theorem run_read_of_high (h : 128 ≤ high.toNat) (front tail : Bytes) :
    (Codec.port.read.run ⟨front ++ [low, high] ++ tail, front.length⟩).1 =
      .error (.addressRange (.int (littleValue [low, high])) (.int 0x7FFF)) := by
  have hl := low.toNat_lt
  have hh := high.toNat_lt
  have value : littleValue [low, high] = low.toNat + 256 * high.toNat := by simp [littleValue]
  have refused := ofValue_of_lt (n := littleValue [low, high]) (by omega) (by omega)
  have hd : (front ++ [low, high] ++ tail).drop front.length = [low, high] ++ tail := by
    rw [List.append_assoc, List.drop_left]
  have hr := Codec.run_read (c := .port) rfl
    (show front.length ≤ (front ++ [low, high] ++ tail).length by simp)
  rw [hd, Part.take_of_le (by simp)] at hr
  refine (congrArg Prod.fst hr).trans ?_
  change (ofValue (.int (littleValue [low, high]))).map Value.port = _
  rw [refused]
  rfl

end

/-! ### Agreement -/

/-- **Parts, number and bytes agree.** Three whole numbers are taken as Net, Sub-Net and universe
exactly if all are in range, and refused for the first that is not, with its limit. Those that are
taken are the parts of a Port-Address that weighs what they do in their places, and Sub-Net and
universe make its low byte and the Net its high one. Every Port-Address is that of its parts, and
two bytes are read as one exactly if the high one is below 128, as that of the parts in them. -/
theorem parts_number_bytes_agree :
    (∀ net subNet universeId : Int,
      ((∃ p, ofParts (.int net) (.int subNet) (.int universeId) = .ok p) ↔
        (0 ≤ net ∧ net ≤ 127) ∧ (0 ≤ subNet ∧ subNet ≤ 15) ∧ 0 ≤ universeId ∧ universeId ≤ 15) ∧
      match firstOutside [(net, 127), (subNet, 15), (universeId, 15)] with
      | some (n, limit) =>
        ofParts (.int net) (.int subNet) (.int universeId) = .error (outsideFault n limit)
      | none => ∃ p, ofParts (.int net) (.int subNet) (.int universeId) = .ok p ∧
        (p.value : Int) = 256 * net + 16 * subNet + universeId ∧
        (p.net : Int) = net ∧ (p.subNet : Int) = subNet ∧ (p.universeId : Int) = universeId ∧
        ∃ low high : UInt8, (low.toNat : Int) = 16 * subNet + universeId ∧
          (high.toNat : Int) = net ∧ p.HasBytes [low, high]) ∧
    (∀ p : PortAddress, ofParts (.int p.net) (.int p.subNet) (.int p.universeId) = .ok p) ∧
    ∀ (low high : UInt8) (front tail : Bytes),
      ((∃ v, (Codec.port.read.run ⟨front ++ [low, high] ++ tail, front.length⟩).1 = .ok v) ↔
        high.toNat < 128) ∧
      (high.toNat < 128 → ∃ p,
        ofParts (.int high.toNat) (.int (low.toNat / 16 : Nat)) (.int (low.toNat % 16 : Nat)) =
          .ok p ∧
        Codec.port.read.run ⟨front ++ [low, high] ++ tail, front.length⟩ =
          (.ok (.port p), ⟨front ++ [low, high] ++ tail, front.length + 2⟩)) := by
  refine ⟨fun net subNet universeId => ⟨⟨?_, ?_⟩, ?_⟩, ofParts_parts,
    fun low high front tail => ⟨⟨?_, ?_⟩, ?_⟩⟩
  · rintro ⟨p, hp⟩
    exact inside_of_ofParts hp
  · intro inside
    obtain ⟨p, hp, -⟩ := exists_of_inside inside
    exact ⟨p, hp⟩
  · cases hf : firstOutside [(net, 127), (subNet, 15), (universeId, 15)] with
    | some part => exact ofParts_of_outside hf
    | none =>
      obtain ⟨hn, hs, hu⟩ := inside_of_firstOutside hf
      obtain ⟨p, hp, weight⟩ := exists_of_inside ⟨hn, hs, hu⟩
      obtain ⟨low, high, hl, hh, bytes⟩ := p.exists_hasBytes
      have h1 := p.net_eq
      have h2 := p.subNet_eq
      have h3 := p.universeId_eq
      exact ⟨p, hp, weight, by omega, by omega, by omega, low, high, by omega, by omega, bytes⟩
  · rintro ⟨v, hv⟩
    by_contra high
    rw [run_read_of_high (not_lt.mp high)] at hv
    cases hv
  · intro h
    obtain ⟨p, -, bytes⟩ := exists_of_low_bytes h
    exact ⟨.port p, congrArg Prod.fst (bytes.2 front tail)⟩
  · intro h
    obtain ⟨p, hp, bytes⟩ := exists_of_low_bytes h
    exact ⟨p, hp, bytes.2 front tail⟩

/-- The highest parts make the highest Port-Address, a Sub-Net beyond its range is refused before a
universe that is, and the bytes of 4660 are read as the Port-Address of the parts in them. -/
theorem parts_number_bytes_agree_highest :
    (∃ p, ofParts (.int 127) (.int 15) (.int 15) = .ok p ∧ (p.value : Int) = 32767) ∧
      ofParts (.int 127) (.int 16) (.int (-1)) = .error (outsideFault 16 15) ∧
      ∃ p, ofParts (.int 0x12) (.int 3) (.int 4) = .ok p ∧
        Codec.port.read.run ⟨[0, 0x34, 0x12, 0], 1⟩ = (.ok (.port p), ⟨[0, 0x34, 0x12, 0], 3⟩) := by
  obtain ⟨composed, -, read⟩ := parts_number_bytes_agree
  have highest := (composed 127 15 15).2
  have refused := (composed 127 16 (-1)).2
  obtain ⟨p, hp, weight, -⟩ := highest
  exact ⟨⟨p, hp, weight⟩, refused, (read 0x34 0x12 [0] [0]).2 (by decide)⟩

end PortAddress

end DmxNet
