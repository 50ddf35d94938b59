import DmxNet.Proofs.Packet.RoundTrip

/-!
# Canonical packets

What is made of a packet that is decoded and encoded again (`canonicalise`). An output gets the
size on the wire for a length, whatever its length field said, and is padded; if the count of its
levels is one that is not sent, it has no packet any more. A time code loses what followed it. All
other bytes stay as they are, and a packet that was canonicalised stays as it is.
-/

namespace DmxNet.Packet

/-- The packet of the command in a packet. -/
def canonicalise (packet : Bytes) : Except Fault Bytes := decode packet >>= encode

/-- What is made of the packet of an output with so many levels. -/
def canonicalOutput (packet : Bytes) (levels : Nat) : Bytes :=
  packet.take 16 ++ bigBytes 2 (evenSize levels) ++ packet.drop 18 ++
    List.replicate (levels % 2) 0

/-- The packet of an output with so many levels is canonical: they are even in number and may be
sent, and the length field says how many they are. -/
def CanonicalOutput (packet : Bytes) (levels : Nat) : Prop :=
  levels % 2 = 0 ∧ 2 ≤ levels ∧ levels ≤ 512 ∧ bigValue (between packet 16 18) = levels

section

variable (h : Heading) {size : Nat} {data : Bytes}

/-! ### Outputs -/

theorem take_packet (size : Nat) (data : Bytes) : (h.packet size data).take 16 = h.front := by
  rw [Heading.packet, List.append_assoc, List.take_left' h.length_front]

/-- What is made of an output that is encoded, by the bytes of its packet. -/
theorem packet_echo (size : Nat) (data : Bytes) :
    h.packet (evenSize data.length) (padded data) =
      canonicalOutput (h.packet size data) data.length := by
  obtain ⟨-, -, -, -, -, -, -, hdata⟩ := between_packet h size data
  rw [canonicalOutput, take_packet, hdata, Heading.packet, padded, List.append_assoc]
  simp only [List.append_assoc]

/-- The length field and the channel data of a packet tell it from others of its heading. -/
theorem packet_eq_iff {m n : Nat} {d e : Bytes} (hm : m < 65536) (hn : n < 65536) :
    h.packet m d = h.packet n e ↔ m = n ∧ d = e := by
  constructor
  · intro he
    obtain ⟨-, -, -, -, -, -, hm', hd⟩ := between_packet h m d
    obtain ⟨-, -, -, -, -, -, hn', he'⟩ := between_packet h n e
    rw [he, hn'] at hm'
    rw [he, he'] at hd
    refine ⟨?_, hd.symm⟩
    rw [← bigValue_bigBytes_of_lt (show m < 256 ^ 2 by omega), ← hm',
      bigValue_bigBytes_of_lt (by omega)]
  · rintro ⟨rfl, rfl⟩
    rfl

/-- An output that was decoded has the packet that it came from exactly if that is canonical. -/
theorem encode_command_eq_packet_iff (hs : size < 65536) :
    encode (h.command (.int size) data) = .ok (h.packet size data) ↔
      CanonicalOutput (h.packet size data) data.length := by
  obtain ⟨-, -, -, -, -, -, hsize, -⟩ := between_packet h size data
  rw [CanonicalOutput, hsize, bigValue_bigBytes_of_lt (by omega), encode_output_eq_ok_iff]
  constructor
  · rintro ⟨h1, h2, hp⟩
    have hn : evenSize data.length < 65536 := (evenSize_le h2).trans_lt (by decide)
    obtain ⟨rfl, hd⟩ := (packet_eq_iff h hs hn).mp hp
    have h0 := padded_eq_iff.mp hd.symm
    exact ⟨h0, by omega, h2, evenSize_of_even h0⟩
  · rintro ⟨h0, h1, h2, rfl⟩
    refine ⟨by omega, h2, ?_⟩
    rw [evenSize_of_even h0, padded_of_even h0]

/-- What was made of the packet of an output stays as it is. -/
theorem canonicalise_of_encode_output {parsed : Value} {packet : Bytes}
    (he : encode (h.command parsed data) = .ok packet) : canonicalise packet = .ok packet := by
  obtain ⟨h1, h2, rfl⟩ := (encode_output_eq_ok_iff h parsed).mp he
  rw [canonicalise, decode_echo h h2]
  exact encode_echo h h1 h2

end

/-! ### Time codes -/

theorem take_stamp_packet (t : Stamp) (tail : Bytes) : (t.packet ++ tail).take 19 = t.packet :=
  List.take_left' t.length_packet

theorem encode_stamp_eq_iff (t : Stamp) (tail : Bytes) :
    encode t.command = .ok (t.packet ++ tail) ↔ (t.packet ++ tail).length = 19 := by
  rw [encode_stamp, Except.ok.injEq, List.self_eq_append_right, List.length_append,
    Stamp.length_packet, ← List.length_eq_zero_iff]
  omega

theorem canonicalise_stamp (t : Stamp) : canonicalise t.packet = .ok t.packet := by
  rw [canonicalise, decode_stamp_packet]
  exact encode_stamp t

/-! ### All packets -/

/-- What encoding makes of the command that a packet is decoded to. The packet of an output becomes
canonical if the count of its levels may be sent, and is refused if not; the packet of a time code
is cut after 19 bytes. It is the packet that was decoded exactly if that was canonical. -/
def Recoded (packet : Bytes) (command : Value) : Prop :=
  (kind? command = some .output ∧ ∃ levels, packet.length = 18 + levels ∧
    (1 ≤ levels → levels ≤ 512 → encode command = .ok (canonicalOutput packet levels)) ∧
    (levels = 0 ∨ 512 < levels → ∃ fault, encode command = .error fault) ∧
    (encode command = .ok packet ↔ CanonicalOutput packet levels)) ∨
  (kind? command = some .timecode ∧ encode command = .ok (packet.take 19) ∧
    (encode command = .ok packet ↔ packet.length = 19))

theorem recoded_of_decode {packet : Bytes} {command : Value} (hd : decode packet = .ok command) :
    Recoded packet command := by
  rcases decode_eq_ok_iff.mp hd with ⟨h, size, data, hs, rfl, rfl⟩ | ⟨t, tail, rfl, rfl⟩
  · refine .inl ⟨rfl, data.length, h.length_packet size data, ?_, exists_encode_output_error h _,
      encode_command_eq_packet_iff h hs⟩
    intro h1 h2
    rw [encode_output_of_le h _ h1 h2, packet_echo h size data]
  · refine .inr ⟨rfl, ?_, encode_stamp_eq_iff t tail⟩
    rw [encode_stamp, take_stamp_packet]

/-- **Canonicalising.** Encoding what was decoded changes the length and the padding of an output
and what follows a time code, and nothing else; and canonicalising twice is canonicalising once. -/
theorem canonicalise_decoded {packet : Bytes} {command : Value}
    (hd : decode packet = .ok command) :
    Recoded packet command ∧ canonicalise packet = encode command ∧
      canonicalise packet >>= canonicalise = canonicalise packet := by
  have hc : canonicalise packet = encode command := by
    rw [canonicalise, hd]
    rfl
  refine ⟨recoded_of_decode hd, hc, ?_⟩
  rw [hc]
  cases he : encode command with
  | error fault => rfl
  | ok once =>
    rcases decode_eq_ok_iff.mp hd with ⟨h, size, data, -, -, rfl⟩ | ⟨t, tail, -, rfl⟩
    · exact canonicalise_of_encode_output h he
    · obtain rfl := Except.ok.inj (he.symm.trans (encode_stamp t))
      exact canonicalise_stamp t

/-- A packet of three levels that claims to have nine. -/
def lyingPacket : Bytes :=
  header ++ [0x00, 0x50, 0x00, 0x0E, 0x01, 0x02, 0x05, 0x00, 0x00, 0x09, 0xFF, 0x80, 0x40]

theorem canonicalise_decoded_lyingPacket :
    ∃ command, decode lyingPacket = .ok command ∧ Recoded lyingPacket command ∧
      canonicalise lyingPacket = encode command ∧
      canonicalise lyingPacket >>= canonicalise = canonicalise lyingPacket := by
  have hd : decode lyingPacket = .ok (.record output
      [.bytes [0x00, 0x0E], .int 1, .int 2, .port ⟨5, by decide⟩, .length (.int 9),
       .payload (.bytes [0xFF, 0x80, 0x40])]) := rfl
  exact ⟨_, hd, canonicalise_decoded hd⟩

end DmxNet.Packet
