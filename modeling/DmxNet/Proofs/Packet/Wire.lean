import DmxNet.Proofs.Packet.Decoding
import DmxNet.Workbench
import Mathlib.Order.Bounds.Basic

/-!
# Outputs on the wire

The packet of an output, written out byte by byte (`Heading.wire`): header and opcode, the fields in
their order, the size on the wire, the levels, and a zero byte if these are odd in number. The size
is the least even one that has room for the levels, and so many bytes follow it. What a composed
output holds for its length has no part in that, be it nothing, a number that is wrong or none at
all (`output_on_wire`).
-/

namespace DmxNet

/-- The size on the wire is the least even one that has room for the levels. -/
theorem isLeast_evenSize (n : Nat) : IsLeast {size | n ≤ size ∧ size % 2 = 0} (evenSize n) := by
  refine ⟨⟨le_evenSize n, evenSize_mod_two n⟩, ?_⟩
  rintro size ⟨hle, heven⟩
  unfold evenSize
  omega

namespace Packet

section

variable (h : Heading) (parsed : Value) (data : Bytes)

/-- The bytes of a packet with a heading, a size and channel data, filled up to the size. The
Port-Address goes low byte first and the size high byte first. -/
def Heading.wire (size : Nat) : Bytes :=
  [0x41, 0x72, 0x74, 0x2D, 0x4E, 0x65, 0x74, 0x00, 0x00, 0x50] ++ h.version ++
    [h.sequence, h.physical, .ofNat (h.port.value % 256), .ofNat (h.port.value / 256),
     .ofNat (size / 256), .ofNat (size % 256)] ++
    data ++ List.replicate (size - data.length) 0

theorem ofNat_mod_256 (n : Nat) : UInt8.ofNat (n % 256) = UInt8.ofNat n := by
  apply UInt8.toNat_inj.1
  rw [UInt8.toNat_ofNat', UInt8.toNat_ofNat', Nat.mod_mod]

theorem packet_eq_wire :
    h.packet (evenSize data.length) (padded data) = h.wire data (evenSize data.length) := by
  have hfill : evenSize data.length - data.length = data.length % 2 := Nat.add_sub_cancel_left _ _
  have hport : littleBytes 2 h.port.value =
      [.ofNat (h.port.value % 256), .ofNat (h.port.value / 256)] := by
    rw [ofNat_mod_256]
    rfl
  have hsize : bigBytes 2 (evenSize data.length) =
      [.ofNat (evenSize data.length / 256), .ofNat (evenSize data.length % 256)] := by
    rw [ofNat_mod_256]
    rfl
  rw [Heading.packet, Heading.front, hport, hsize, Heading.wire, padded, hfill]
  simp [header, Kind.opcode, littleBytes]

/-- What was parsed into the length has no part in the packet. -/
theorem encode_eq_of_parsed (parsed' : Value) :
    encode (h.command parsed data) = encode (h.command parsed' data) := by
  rw [encode_output, encode_output]

end

/-- The names of an output's fields, but for its length. -/
def measuredFields : List String := ["version", "sequence", "physical", "port_address", "data"]

/-- The fields of an output but for its length tell its heading and its channel data. -/
theorem Heading.eq_of_fields {h h' : Heading} {parsed parsed' : Value} {data data' : Bytes}
    (hf : ∀ name ∈ measuredFields,
      (h'.command parsed' data').field? name = (h.command parsed data).field? name) :
    h' = h ∧ data' = data := by
  obtain ⟨version, sequence, physical, port, hv⟩ := h
  obtain ⟨version', sequence', physical', port', hv'⟩ := h'
  have byte {a b : UInt8} (heq : some (Value.int a.toNat) = some (.int b.toNat)) : a = b :=
    UInt8.toNat_inj.mp (by simpa using heq)
  have hversion : some (Value.bytes version') = some (.bytes version) := hf "version" (by decide)
  have hport : some (Value.port port') = some (.port port) := hf "port_address" (by decide)
  have hdata : some (Value.payload (.bytes data')) = some (.payload (.bytes data)) :=
    hf "data" (by decide)
  obtain rfl := byte (hf "sequence" (by decide))
  obtain rfl := byte (hf "physical" (by decide))
  cases hversion
  cases hport
  cases hdata
  exact ⟨rfl, rfl⟩

/-- Outputs that have all in common but their lengths have one packet, or none for one reason. -/
theorem encode_eq_of_fields {c d : Value} (hc : Composed output c) (hd : Composed output d)
    (hf : ∀ name ∈ measuredFields, d.field? name = c.field? name) : encode d = encode c := by
  obtain ⟨h, parsed, data, rfl⟩ := composed_output_iff.mp hc
  obtain ⟨h', parsed', data', rfl⟩ := composed_output_iff.mp hd
  obtain ⟨rfl, rfl⟩ := Heading.eq_of_fields hf
  exact encode_eq_of_parsed _ _ _ _

/-! ### On the workbench -/

/-- The packet of the value at hand. -/
def encoding : Procedure Workbench Bytes := do Procedure.conclude (← get).encode

/-- An output at hand has the packet that it has anywhere. -/
theorem workbench_encode (h : Heading) (parsed : Value) (data : Bytes) :
    (Workbench.put (h.command parsed data)).encode = encode (h.command parsed data) := rfl

/-- How an output with a heading and channel data is sent. -/
structure OnWire (c : Value) (h : Heading) (data : Bytes) (size : Nat) (packet : Bytes) : Prop where
  /-- The size is the least even one that has room for the levels. -/
  isLeast_size : IsLeast {size | data.length ≤ size ∧ size % 2 = 0} size
  encode_eq : encode c = .ok packet
  /-- The packet is laid out as packets are. -/
  packet_eq : packet = h.wire data size
  length_packet : packet.length = 18 + size
  /-- The length field tells how many bytes follow it. -/
  length_field : bigValue (between packet 16 18) = (packet.drop 18).length
  /-- Outputs that differ from it in their lengths alone have the same packet. -/
  length_free : ∀ d, Composed output d →
    (∀ name ∈ measuredFields, d.field? name = c.field? name) → encode d = .ok packet
  /-- The output is what it was before. No step of encoding alters the command at hand, so this is so
  of every encoding, of one that fails too. -/
  unchanged : encoding.run (.put c) = (.ok packet, .put c)

theorem onWire (h : Heading) (parsed : Value) {data : Bytes} (h1 : 1 ≤ data.length)
    (h2 : data.length ≤ 512) :
    OnWire (h.command parsed data) h data (evenSize data.length)
      (h.packet (evenSize data.length) (padded data)) := by
  have he := encode_output_of_le h parsed h1 h2
  have hl : (padded data).length = evenSize data.length := length_padded data
  refine ⟨isLeast_evenSize _, he, packet_eq_wire h data, ?_, ?_, ?_, ?_⟩
  · rw [Heading.length_packet, hl]
  · obtain ⟨-, -, -, -, -, -, hsize, hdata⟩ :=
      between_packet h (evenSize data.length) (padded data)
    have hle := evenSize_le h2
    rw [hsize, hdata, hl, bigValue_bigBytes_of_lt (by omega)]
  · intro d hd hf
    rw [encode_eq_of_fields (composed_output_iff.mpr ⟨h, parsed, data, rfl⟩) hd hf, he]
  · rw [encoding, Procedure.run_bind, Procedure.run_get]
    dsimp only
    rw [Procedure.run_conclude, workbench_encode, he]

/-- **Outputs on the wire.** A composed output of 1 to 512 levels, whatever it holds for its length,
has the packet that its other fields lay out, and is left as it is by being encoded. -/
theorem output_on_wire {c : Value} {data : Bytes} (hc : Composed output c)
    (hd : c.field? "data" = some (.payload (.bytes data))) (h1 : 1 ≤ data.length)
    (h2 : data.length ≤ 512) :
    ∃ (h : Heading) (parsed : Value) (size : Nat) (packet : Bytes),
      c = h.command parsed data ∧ OnWire c h data size packet := by
  obtain ⟨h, parsed, data', rfl⟩ := composed_output_iff.mp hc
  have hd' : some (Value.payload (.bytes data')) = some (.payload (.bytes data)) := hd
  cases hd'
  exact ⟨h, parsed, _, _, rfl, onWire h parsed h1 h2⟩

/-- An output of three levels whose length is no number is sent as four bytes. -/
theorem output_on_wire_of_text :
    ∃ c, output.make [("length", .length (.text "soon")), ("port_address", .int 0x1234),
        ("data", .bytes [7, 0, 9])] = .ok c ∧
      c.field? "data" = some (.payload (.bytes [7, 0, 9])) ∧
      encode c = .ok [0x41, 0x72, 0x74, 0x2D, 0x4E, 0x65, 0x74, 0x00, 0x00, 0x50, 0x00, 0x0E,
        0x00, 0x00, 0x34, 0x12, 0x00, 0x04, 7, 0, 9, 0] := by
  have hmake : output.make [("length", .length (.text "soon")), ("port_address", .int 0x1234),
      ("data", .bytes [7, 0, 9])] = .ok ((⟨version, 0, 0, ⟨0x1234, by decide⟩, rfl⟩ :
        Heading).command (.text "soon") [7, 0, 9]) := rfl
  refine ⟨_, hmake, rfl, ?_⟩
  obtain ⟨h, parsed, size, packet, hc, hw⟩ := output_on_wire
    ⟨_, by simp [Value.Fresh], hmake⟩ rfl (by decide) (by decide)
  obtain rfl := hw.isLeast_size.unique (isLeast_evenSize _)
  obtain ⟨rfl, -⟩ := Heading.eq_of_fields fun name _ => congrArg (Value.field? · name) hc
  rw [hw.encode_eq, hw.packet_eq]
  rfl

end Packet

end DmxNet
