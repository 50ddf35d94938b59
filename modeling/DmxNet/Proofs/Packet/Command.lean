import DmxNet.Packet.Envelope
import DmxNet.Proofs.Bytes.Number
import DmxNet.Proofs.Schema.Keeping

/-!
# Composed commands

What a composed command holds. An output holds a heading (the fields before its length), whatever
was parsed into its length, and its channel data; a time code holds a stamp. The commands that are
composed of fresh values are exactly those of a heading or a stamp (`composed_output_iff`,
`composed_timecode_iff`), and each has a layout on the wire (`Heading.packet`, `Stamp.packet`).
-/

namespace DmxNet.Packet

/-! ### Outputs -/

/-- The fields of an output before its length. -/
structure Heading where
  /-- The version of the protocol. -/
  version : Bytes
  /-- The sequence number. -/
  sequence : UInt8
  /-- The input that the levels come from. -/
  physical : UInt8
  /-- The Port-Address. -/
  port : PortAddress
  /-- The version has two bytes. -/
  length_version : version.length = 2 := by rfl

namespace Heading

/-- The values of an output's fields: a heading, what was parsed into the length, channel data. -/
def values (h : Heading) (parsed : Value) (data : Bytes) : List Value :=
  [.bytes h.version, .int h.sequence.toNat, .int h.physical.toNat, .port h.port,
   .length parsed, .payload (.bytes data)]

/-- The output with a heading, what was parsed into its length, and its channel data. -/
def command (h : Heading) (parsed : Value) (data : Bytes) : Value :=
  .record output (h.values parsed data)

/-- The bytes of an output before its length. -/
def front (h : Heading) : Bytes :=
  header ++ littleBytes 2 Kind.output.opcode ++ h.version ++ [h.sequence, h.physical] ++
    littleBytes 2 h.port.value

/-- The packet with a heading, a number in the length field, and bytes after that. -/
def packet (h : Heading) (size : Nat) (data : Bytes) : Bytes :=
  h.front ++ bigBytes 2 size ++ data

@[simp] theorem length_front (h : Heading) : h.front.length = 16 := by
  simp [front, header, h.length_version]

@[simp] theorem length_packet (h : Heading) (size : Nat) (data : Bytes) :
    (h.packet size data).length = 18 + data.length := by
  rw [packet, List.length_append, List.length_append, length_front, length_bigBytes]

/-- A heading, a length and channel data are values that the fields of an output keep. -/
theorem keep (h : Heading) (parsed : Value) (data : Bytes) :
    FieldsKeep output.fields (h.values parsed data) :=
  .cons (.fixed (by simp [h.length_version])) <|
    .cons (.uint (le_maxOfWidth_iff.mpr h.sequence.toNat_lt)) <|
    .cons (.uint (le_maxOfWidth_iff.mpr h.physical.toNat_lt)) <|
    .cons (.port h.port) <| .cons (.length parsed) <| .cons (.payload data) .nil

end Heading

/-- A number of one byte is that of a byte. -/
theorem exists_byte {n : Nat} (h : n ≤ maxOfWidth 1) : ∃ b : UInt8, n = b.toNat := by
  rw [le_maxOfWidth_iff] at h
  refine ⟨UInt8.ofNat n, ?_⟩
  rw [UInt8.toNat_ofNat', Nat.mod_eq_of_lt (by simpa using h)]

/-- The values that the fields of an output keep are a heading, a length and channel data. -/
theorem exists_heading {vs : List Value} (hk : FieldsKeep output.fields vs) :
    ∃ (h : Heading) (parsed : Value) (data : Bytes), .record output vs = h.command parsed data := by
  simp only [output, fieldsKeep_cons_iff, fieldsKeep_nil_iff, keeps_fixed_iff, keeps_uint_iff,
    keeps_port_iff, keeps_length_iff, keeps_payload_iff] at hk
  obtain ⟨_, _, rfl, ⟨version, hversion, rfl⟩, _, _, rfl, ⟨_, hsequence, rfl⟩, _, _, rfl,
    ⟨_, hphysical, rfl⟩, _, _, rfl, ⟨port, rfl⟩, _, _, rfl, ⟨parsed, rfl⟩, _, _, rfl,
    ⟨data, rfl⟩, rfl⟩ := hk
  obtain ⟨sequence, rfl⟩ := exists_byte hsequence
  obtain ⟨physical, rfl⟩ := exists_byte hphysical
  exact ⟨⟨version, sequence, physical, port, by omega⟩, parsed, data, rfl⟩

/-- The fields of an output are kept as they are. -/
theorem compose_output {vs : List Value} (hk : FieldsKeep output.fields vs) :
    output.compose vs = .ok (.record output vs) :=
  Schema.compose_of_keep hk rfl (by simp [output])

/-- **Composed outputs**: those of a heading, a length and channel data, and no others. -/
theorem composed_output_iff {c : Value} :
    Composed output c ↔ ∃ (h : Heading) (parsed : Value) (data : Bytes),
      c = h.command parsed data := by
  constructor
  · intro hc
    obtain ⟨vs, rfl, hk⟩ := hc.keeps
    exact exists_heading hk
  · rintro ⟨h, parsed, data, rfl⟩
    refine ⟨(output.fields.map Field.name).zip (h.values parsed data), ?_, ?_⟩
    · simp [output, Heading.values, Value.Fresh]
    · exact bind_eq_ok.mpr ⟨_, rfl, compose_output (h.keep parsed data)⟩

/-! ### Time codes -/

/-- The fields of a time code. -/
structure Stamp where
  /-- The version of the protocol. -/
  version : Bytes
  /-- A byte that means nothing. -/
  filler : UInt8
  /-- The stream. -/
  stream : UInt8
  /-- The frames. -/
  frames : UInt8
  /-- The seconds. -/
  seconds : UInt8
  /-- The minutes. -/
  minutes : UInt8
  /-- The hours. -/
  hours : UInt8
  /-- The type, which tells the frame rate. -/
  keyType : UInt8
  /-- The version has two bytes. -/
  length_version : version.length = 2 := by rfl

namespace Stamp

/-- The values of a time code's fields. -/
def values (t : Stamp) : List Value :=
  [.bytes t.version, .int t.filler.toNat, .int t.stream.toNat, .int t.frames.toNat,
   .int t.seconds.toNat, .int t.minutes.toNat, .int t.hours.toNat, .int t.keyType.toNat]

/-- The time code with a stamp. -/
def command (t : Stamp) : Value := .record timecode t.values

/-- The packet with a stamp. -/
def packet (t : Stamp) : Bytes :=
  header ++ littleBytes 2 Kind.timecode.opcode ++ t.version ++
    [t.filler, t.stream, t.frames, t.seconds, t.minutes, t.hours, t.keyType]

@[simp] theorem length_packet (t : Stamp) : t.packet.length = 19 := by
  simp [packet, header, t.length_version]

/-- A stamp is made of values that the fields of a time code keep. -/
theorem keep (t : Stamp) : FieldsKeep timecode.fields t.values := by
  have byte (b : UInt8) : (Codec.uint 1 .big).Keeps (.int b.toNat) :=
    .uint (le_maxOfWidth_iff.mpr b.toNat_lt)
  exact .cons (.fixed (by simp [t.length_version])) <|
    .cons (byte _) <| .cons (byte _) <| .cons (byte _) <| .cons (byte _) <| .cons (byte _) <|
    .cons (byte _) <| .cons (byte _) .nil

end Stamp

/-- The values that the fields of a time code keep are a stamp. -/
theorem exists_stamp {vs : List Value} (hk : FieldsKeep timecode.fields vs) :
    ∃ t : Stamp, .record timecode vs = t.command := by
  simp only [timecode, fieldsKeep_cons_iff, fieldsKeep_nil_iff, keeps_fixed_iff,
    keeps_uint_iff] at hk
  obtain ⟨_, _, rfl, ⟨version, hversion, rfl⟩, _, _, rfl, ⟨_, hfiller, rfl⟩, _, _, rfl,
    ⟨_, hstream, rfl⟩, _, _, rfl, ⟨_, hframes, rfl⟩, _, _, rfl, ⟨_, hseconds, rfl⟩, _, _, rfl,
    ⟨_, hminutes, rfl⟩, _, _, rfl, ⟨_, hhours, rfl⟩, _, _, rfl, ⟨_, htype, rfl⟩, rfl⟩ := hk
  obtain ⟨filler, rfl⟩ := exists_byte hfiller
  obtain ⟨stream, rfl⟩ := exists_byte hstream
  obtain ⟨frames, rfl⟩ := exists_byte hframes
  obtain ⟨seconds, rfl⟩ := exists_byte hseconds
  obtain ⟨minutes, rfl⟩ := exists_byte hminutes
  obtain ⟨hours, rfl⟩ := exists_byte hhours
  obtain ⟨keyType, rfl⟩ := exists_byte htype
  exact ⟨⟨version, filler, stream, frames, seconds, minutes, hours, keyType, by omega⟩, rfl⟩

/-- The fields of a time code are kept as they are. -/
theorem compose_timecode {vs : List Value} (hk : FieldsKeep timecode.fields vs) :
    timecode.compose vs = .ok (.record timecode vs) :=
  Schema.compose_of_keep hk rfl (by simp [timecode])

/-- **Composed time codes**: those of a stamp, and no others. -/
theorem composed_timecode_iff {c : Value} : Composed timecode c ↔ ∃ t : Stamp, c = t.command := by
  constructor
  · intro hc
    obtain ⟨vs, rfl, hk⟩ := hc.keeps
    exact exists_stamp hk
  · rintro ⟨t, rfl⟩
    refine ⟨(timecode.fields.map Field.name).zip t.values, ?_, ?_⟩
    · simp [timecode, Stamp.values, Value.Fresh]
    · exact bind_eq_ok.mpr ⟨_, rfl, compose_timecode t.keep⟩

end DmxNet.Packet
