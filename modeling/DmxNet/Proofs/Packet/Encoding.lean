import DmxNet.Proofs.Packet.Command
import DmxNet.Proofs.Schema.Writing

/-!
# Encoding composed commands

The packet of a composed command, byte for byte, or why it has none. A time code always has a
packet (`encode_timecode`). An output has one if it carries 1 to 512 levels (`encode_output_of_le`).
Empty channel data is refused for its size, and so is channel data of more than 512 bytes, but only
up to 65534 of them: from there on the size on the wire does not fit the length field, which is
written first, and it is the length that fails (`encode_output_of_overflow`).
-/

namespace DmxNet

/-- The one byte of a number of one byte. -/
theorem asNumberBytes_byte (b : UInt8) : Value.asNumberBytes 1 .big (.int b.toNat) = .ok [b] := by
  have hb : b.toNat ≤ maxOfWidth 1 := le_maxOfWidth_iff.mpr b.toNat_lt
  have hs : bigBytes 1 (bigValue [b]) = [b] := bigBytes_bigValue [b]
  rw [bigValue_singleton] at hs
  rw [Value.asNumberBytes, numberBytes_big hb, hs]

/-! ### Channel data -/

/-- Channel data as it is sent: with a zero byte to make its size even. -/
def padded (data : Bytes) : Bytes := data ++ List.replicate (data.length % 2) 0

@[simp] theorem length_padded (data : Bytes) : (padded data).length = evenSize data.length := by
  simp [padded, evenSize]

theorem evenSize_of_even {n : Nat} (h : n % 2 = 0) : evenSize n = n := by
  rw [evenSize, h, Nat.add_zero]

theorem evenSize_mod_two (n : Nat) : evenSize n % 2 = 0 := by
  unfold evenSize
  omega

theorem le_evenSize (n : Nat) : n ≤ evenSize n := Nat.le_add_right n (n % 2)

/-- As many levels as may be sent are not padded beyond that. -/
theorem evenSize_le {n : Nat} (h : n ≤ 512) : evenSize n ≤ 512 := by
  unfold evenSize
  omega

theorem padded_of_even {data : Bytes} (h : data.length % 2 = 0) : padded data = data := by
  rw [padded, h, List.replicate_zero, List.append_nil]

theorem payloadBytes_of_lt {data : Bytes} (h : 512 < data.length) :
    Value.payloadBytes (.bytes data) = .error (.payloadSize (.bytes data) 2 513) := by
  have h0 : data.length ≠ 0 := by omega
  refine (if_neg h0).trans ((if_pos ?_).trans rfl)
  exact h

theorem payloadBytes_of_le {data : Bytes} (h1 : 1 ≤ data.length) (h2 : data.length ≤ 512) :
    Value.payloadBytes (.bytes data) = .ok (padded data) := by
  have h0 : data.length ≠ 0 := by omega
  have h3 : ¬ Packet.maxChannels < data.length := by simpa [Packet.maxChannels] using h2
  exact (if_neg h0).trans (if_neg h3)

namespace Packet

/-! ### Packets -/

/-- The packet of a command without records in it: the header, the opcode, and the pieces of its
body, if all of them have bytes. -/
theorem encode_pieces {s : Schema} {vs : List Value} (kind : Kind)
    (hk : Kind.ofSchema? s = some kind) (ask : Action.write.ofRecord s.fields = .ok ())
    (hv : ∀ v ∈ vs, v.isRecord = false) :
    encode (.record s vs) =
      (joinPieces (Value.pieces s vs)).1.map fun _ =>
        header ++ littleBytes 2 kind.opcode ++ (joinPieces (Value.pieces s vs)).2 := by
  have hk' : kind? (.record s vs) = some kind := hk
  rw [encode, hk']
  have hw : ((writer kind ((Value.record s vs).write none)).run []) =
      ((joinPieces (Value.pieces s vs)).1,
        header ++ littleBytes 2 kind.opcode ++ (joinPieces (Value.pieces s vs)).2) :=
    Value.run_write_record ask hv none (header ++ littleBytes 2 kind.opcode)
  simp only [Writer.bytes, Writer.output, hw]
  cases (joinPieces (Value.pieces s vs)).1 <;> rfl

/-- **A time code always has a packet.** -/
theorem encode_stamp (t : Stamp) : encode t.command = .ok t.packet := by
  have hv : ∀ v ∈ t.values, v.isRecord = false := by simp [Stamp.values, Value.isRecord]
  have hp : Value.pieces timecode t.values =
      [.ok t.version, .ok [t.filler], .ok [t.stream], .ok [t.frames], .ok [t.seconds],
       .ok [t.minutes], .ok [t.hours], .ok [t.keyType]] := by
    simp only [Value.pieces, timecode, Stamp.values, List.zipWith_cons_cons, List.zipWith_nil_left,
      Codec.piece, asNumberBytes_byte, Value.asBytes]
  rw [Stamp.command, encode_pieces .timecode rfl rfl hv, hp]
  simp [joinPieces, Stamp.packet, Except.map]

/-- The packet of an output, where the length and then the channel data may fail. -/
theorem encode_output (h : Heading) (parsed : Value) (data : Bytes) :
    encode (h.command parsed data) = do
      let size ← numberBytes 2 .big (evenSize data.length)
      let body ← Value.payloadBytes (.bytes data)
      return h.front ++ size ++ body := by
  have hv : ∀ v ∈ h.values parsed data, v.isRecord = false := by
    simp [Heading.values, Value.isRecord]
  have hp : Value.pieces output (h.values parsed data) =
      [.ok h.version, .ok [h.sequence], .ok [h.physical], .ok (littleBytes 2 h.port.value),
       numberBytes 2 .big (evenSize data.length), Value.payloadBytes (.bytes data)] := by
    simp only [Value.pieces, output, Heading.values, List.zipWith_cons_cons, List.zipWith_nil_left,
      Codec.piece, asNumberBytes_byte, Value.asBytes]
    rfl
  rw [Heading.command, encode_pieces .output rfl rfl hv, hp]
  cases numberBytes 2 .big (evenSize data.length) with
  | error fault => rfl
  | ok size =>
    cases Value.payloadBytes (.bytes data) with
    | error fault => rfl
    | ok body =>
      have hr : (.ok (h.front ++ size ++ body) : Except Fault Bytes) = do
          let size ← (.ok size : Except Fault Bytes)
          let body ← (.ok body : Except Fault Bytes)
          return h.front ++ size ++ body := rfl
      rw [← hr]
      simp [joinPieces, Heading.front, Except.map]

section

variable (h : Heading) (parsed : Value) {data : Bytes}

/-- An output of 1 to 512 levels has a packet, with the size on the wire in the length field. -/
theorem encode_output_of_le (h1 : 1 ≤ data.length) (h2 : data.length ≤ 512) :
    encode (h.command parsed data) = .ok (h.packet (evenSize data.length) (padded data)) := by
  have hs := evenSize_le_maxOfWidth_iff.mpr (show data.length < 65535 by omega)
  rw [encode_output, numberBytes_big hs, payloadBytes_of_le h1 h2]
  rfl

/-- An output without levels is refused for the size of its channel data. -/
theorem encode_output_nil :
    encode (h.command parsed []) = .error (.payloadSize (.bytes []) 2 513) := by
  rw [encode_output]
  rfl

/-- Too many levels are refused for their size as long as that fits the length field. -/
theorem encode_output_of_lt (h1 : 512 < data.length) (h2 : data.length < 65535) :
    encode (h.command parsed data) = .error (.payloadSize (.bytes data) 2 513) := by
  rw [encode_output, numberBytes_big (evenSize_le_maxOfWidth_iff.mpr h2), payloadBytes_of_lt h1]
  rfl

/-- From 65535 levels on the length field is what fails. -/
theorem encode_output_of_overflow (h1 : 65535 ≤ data.length) :
    encode (h.command parsed data) = .error (.overflow .tooBig) := by
  have hs : maxOfWidth 2 < evenSize data.length := by
    rw [← not_le, evenSize_le_maxOfWidth_iff]
    exact not_lt.mpr h1
  rw [encode_output, numberBytes_big_of_lt hs]
  rfl

/-- An output without levels or with too many is refused. -/
theorem exists_encode_output_error (hd : data.length = 0 ∨ 512 < data.length) :
    ∃ fault, encode (h.command parsed data) = .error fault := by
  rcases hd with h0 | h1
  · obtain rfl := List.length_eq_zero_iff.mp h0
    exact ⟨_, encode_output_nil h parsed⟩
  rcases Nat.lt_or_ge data.length 65535 with h2 | h2
  · exact ⟨_, encode_output_of_lt h parsed h1 h2⟩
  · exact ⟨_, encode_output_of_overflow h parsed h2⟩

/-- The outputs that have a packet, and which. -/
theorem encode_output_eq_ok_iff {packet : Bytes} :
    encode (h.command parsed data) = .ok packet ↔
      1 ≤ data.length ∧ data.length ≤ 512 ∧
        packet = h.packet (evenSize data.length) (padded data) := by
  constructor
  · intro he
    by_cases hd : data.length = 0 ∨ 512 < data.length
    · obtain ⟨fault, hf⟩ := exists_encode_output_error h parsed hd
      rw [hf] at he
      cases he
    · have h1 : 1 ≤ data.length := by omega
      have h2 : data.length ≤ 512 := by omega
      rw [encode_output_of_le h parsed h1 h2] at he
      exact ⟨h1, h2, (Except.ok.inj he).symm⟩
  · rintro ⟨h1, h2, rfl⟩
    exact encode_output_of_le h parsed h1 h2

/-! ### The contract -/

/-- The contract of encoding an output with channel data: it has a packet exactly if it carries 1 to
512 levels, and whatever fails is the size of the channel data, which the fault shows. -/
def Contract (command : Value) (data : Bytes) : Prop :=
  ((∃ packet, encode command = .ok packet) ↔ 1 ≤ data.length ∧ data.length ≤ 512) ∧
    ∀ fault, encode command = .error fault →
      fault = .payloadSize (.bytes data) 2 513 ∧ fault.isProtocol ∧ fault.isValue

theorem contract_of_ok {command : Value} {packet : Bytes} (he : encode command = .ok packet)
    (h1 : 1 ≤ data.length) (h2 : data.length ≤ 512) : Contract command data := by
  refine ⟨⟨fun _ => ⟨h1, h2⟩, fun _ => ⟨packet, he⟩⟩, ?_⟩
  intro fault hf
  rw [he] at hf
  cases hf

theorem contract_of_refused {command : Value}
    (he : encode command = .error (.payloadSize (.bytes data) 2 513))
    (hn : ¬ (1 ≤ data.length ∧ data.length ≤ 512)) : Contract command data := by
  refine ⟨⟨?_, fun hd => absurd hd hn⟩, ?_⟩
  · rintro ⟨packet, hp⟩
    rw [he] at hp
    cases hp
  · intro fault hf
    obtain rfl := Except.error.inj (he.symm.trans hf)
    exact ⟨rfl, rfl, rfl⟩

/-- The contract is kept exactly as long as the size on the wire fits the length field. -/
theorem contract_iff : Contract (h.command parsed data) data ↔ data.length < 65535 := by
  constructor
  · rintro ⟨-, hf⟩
    by_contra hd
    obtain ⟨hc, -⟩ := hf _ (encode_output_of_overflow h parsed (not_lt.mp hd))
    cases hc
  · intro hd
    rcases Nat.eq_zero_or_pos data.length with h0 | h1
    · obtain rfl := List.length_eq_zero_iff.mp h0
      exact contract_of_refused (encode_output_nil h parsed) (by simp)
    rcases Nat.lt_or_ge 512 data.length with h2 | h2
    · exact contract_of_refused (encode_output_of_lt h parsed h2 hd) (by omega)
    · exact contract_of_ok (encode_output_of_le h parsed h1 h2) h1 h2

end

/-- **The contract of encoding.** A composed output keeps the contract exactly if it carries fewer
than 65535 levels; from there on it is the length field that overflows. A composed time code always
has a packet. -/
theorem composed_contract {c t : Value} (hc : Composed output c) (ht : Composed timecode t) :
    (∃ data, c.field? "data" = some (.payload (.bytes data)) ∧
      (Contract c data ↔ data.length < 65535) ∧
      (65535 ≤ data.length → encode c = .error (.overflow .tooBig))) ∧
    ∃ packet, encode t = .ok packet := by
  obtain ⟨h, parsed, data, rfl⟩ := composed_output_iff.mp hc
  obtain ⟨stamp, rfl⟩ := composed_timecode_iff.mp ht
  refine ⟨⟨data, rfl, contract_iff h parsed, ?_⟩, stamp.packet, encode_stamp stamp⟩
  exact encode_output_of_overflow h parsed

theorem composed_contract_of_levels :
    ∃ c t, output.make [("port_address", .int 5), ("data", .list [.int 255, .int 128])] = .ok c ∧
      timecode.make [("hours", .text "23")] = .ok t ∧
      (∃ data, c.field? "data" = some (.payload (.bytes data)) ∧
        (Contract c data ↔ data.length < 65535) ∧
        (65535 ≤ data.length → encode c = .error (.overflow .tooBig))) ∧
      ∃ packet, encode t = .ok packet := by
  refine ⟨_, _, rfl, rfl, ?_⟩
  exact composed_contract
    ⟨[("port_address", .int 5), ("data", .list [.int 255, .int 128])], by simp [Value.Fresh], rfl⟩
    ⟨[("hours", .text "23")], by simp [Value.Fresh], rfl⟩

/-- The output with nothing given but channel data. -/
theorem make_output_data (data : Bytes) :
    output.make [("data", .bytes data)] =
      .ok ((⟨version, 0, 0, ⟨1, by decide⟩, rfl⟩ : Heading).command .none data) := rfl

/-- The contract is broken: 65535 levels overflow the length field. -/
theorem exists_composed_not_contract :
    ∃ c, output.make [("data", .bytes (List.replicate 65535 0))] = .ok c ∧
      encode c = .error (.overflow .tooBig) ∧ ¬ Contract c (List.replicate 65535 0) := by
  have hl : (List.replicate 65535 (0 : UInt8)).length = 65535 := List.length_replicate
  refine ⟨_, make_output_data _, encode_output_of_overflow _ _ hl.ge, ?_⟩
  rw [contract_iff, hl]
  omega

end Packet

end DmxNet
