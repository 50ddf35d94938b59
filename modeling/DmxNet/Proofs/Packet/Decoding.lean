import DmxNet.Proofs.Packet.Encoding
import DmxNet.Proofs.Packet.Grammar

/-!
# Decoding packets

The commands that are decoded, by the layout of their packets. A packet of a heading, a length and
channel data is decoded to the output that they make, and one of a stamp, whatever follows it, to
its time code; nothing else is decoded to a command (`decode_eq_ok_iff`).
-/

namespace DmxNet.Packet

theorem between_append_drop {data : Bytes} {start stop : Nat} (h : start ≤ stop) :
    between data start stop ++ data.drop stop = data.drop start := by
  have hd : data.drop stop = (data.drop start).drop (stop - start) := by
    rw [List.drop_drop, Nat.add_sub_cancel' h]
  rw [between, hd, List.take_append_drop]

theorem exists_between_eq_singleton {data : Bytes} {n : Nat} (h : n + 1 ≤ data.length) :
    ∃ b, between data n (n + 1) = [b] := by
  rw [← List.length_eq_one_iff, length_between h, Nat.add_sub_cancel_left]

/-- A number is sent as the bytes that it was read from. -/
theorem littleBytes_of_littleValue_between {data : Bytes} {start n : Nat}
    (h : start + 2 ≤ data.length) (hn : littleValue (between data start (start + 2)) = n) :
    between data start (start + 2) = littleBytes 2 n := by
  have hb := littleBytes_littleValue (between data start (start + 2))
  rw [length_between h, Nat.add_sub_cancel_left, hn] at hb
  exact hb.symm

/-! ### Outputs -/

/-- Where the fields of an output are in its packet. -/
theorem between_packet (h : Heading) (size : Nat) (data : Bytes) :
    between (h.packet size data) 0 8 = header ∧
      between (h.packet size data) 8 10 = littleBytes 2 0x5000 ∧
      between (h.packet size data) 10 12 = h.version ∧
      between (h.packet size data) 12 13 = [h.sequence] ∧
      between (h.packet size data) 13 14 = [h.physical] ∧
      between (h.packet size data) 14 16 = littleBytes 2 h.port.value ∧
      between (h.packet size data) 16 18 = bigBytes 2 size ∧
      (h.packet size data).drop 18 = data := by
  -- With the two bytes of the version known, the packet is 18 bytes one after another, and more.
  obtain ⟨version, sequence, physical, port, hv⟩ := h
  obtain ⟨high, low, rfl⟩ := List.length_eq_two.mp hv
  exact ⟨rfl, rfl, rfl, rfl, rfl, rfl, rfl, rfl⟩

/-- **A packet of a heading is decoded to its output**, whatever its length field says. -/
theorem decode_packet (h : Heading) {size : Nat} (hs : size < 65536) (data : Bytes) :
    decode (h.packet size data) = .ok (h.command (.int size) data) := by
  obtain ⟨hheader, hopcode, hversion, hsequence, hphysical, hport, hsize, hdata⟩ :=
    between_packet h size data
  have hl : 18 ≤ (h.packet size data).length := by
    rw [Heading.length_packet]
    omega
  have ho : HasOpcode (h.packet size data) 0x5000 := by
    refine ⟨by omega, hheader, ?_⟩
    rw [hopcode, littleValue_littleBytes_of_lt (by norm_num)]
  have hp : littleValue (between (h.packet size data) 14 16) = h.port.value := by
    have := h.port.value_le
    rw [hport, littleValue_littleBytes_of_lt (by omega)]
  have hv : outputValues (h.packet size data) h.port = h.values (.int size) data := by
    rw [outputValues, frontValues, hversion, hsequence, hphysical, hsize, hdata,
      bigValue_bigBytes_of_lt (by omega), bigValue_singleton, bigValue_singleton]
    rfl
  rw [decode_of_output ho hl hp, hv, Heading.command]

/-- A datagram that reads as an output is the packet of a heading. -/
theorem exists_packet_of_output {packet : Bytes} {port : PortAddress}
    (h : HasOpcode packet 0x5000) (hl : 18 ≤ packet.length)
    (hp : littleValue (between packet 14 16) = port.value) :
    ∃ (h : Heading) (size : Nat) (data : Bytes), size < 65536 ∧ packet = h.packet size data := by
  obtain ⟨-, hheader, hopcode⟩ := h
  obtain ⟨sequence, hsequence⟩ := exists_between_eq_singleton (show 12 + 1 ≤ packet.length by omega)
  obtain ⟨physical, hphysical⟩ := exists_between_eq_singleton (show 13 + 1 ≤ packet.length by omega)
  have hv : (between packet 10 12).length = 2 := length_between (by omega)
  have hsize : (between packet 16 18).length = 2 := length_between hl
  refine ⟨⟨between packet 10 12, sequence, physical, port, hv⟩, bigValue (between packet 16 18),
    packet.drop 18, ?_, ?_⟩
  · have hb := bigValue_lt (between packet 16 18)
    rw [hsize] at hb
    omega
  · -- The packet is cut where its fields end, and put together from what is known of the pieces.
    have hb := bigBytes_bigValue (between packet 16 18)
    rw [hsize] at hb
    calc packet
      _ = between packet 0 8 ++ (between packet 8 10 ++ (between packet 10 12 ++
            (between packet 12 13 ++ (between packet 13 14 ++ (between packet 14 16 ++
            (between packet 16 18 ++ packet.drop 18)))))) := by
        simp [between_append_drop]
      _ = _ := by
        rw [hheader, littleBytes_of_littleValue_between (by omega) hopcode, hsequence, hphysical,
          littleBytes_of_littleValue_between (by omega) hp, Heading.packet, hb, Heading.front]
        simp [Kind.opcode]

/-! ### Time codes -/

/-- Where the fields of a time code are in its packet. -/
theorem between_stamp_packet (t : Stamp) (tail : Bytes) :
    between (t.packet ++ tail) 0 8 = header ∧
      between (t.packet ++ tail) 8 10 = littleBytes 2 0x9700 ∧
      between (t.packet ++ tail) 10 12 = t.version ∧
      between (t.packet ++ tail) 12 13 = [t.filler] ∧
      between (t.packet ++ tail) 13 14 = [t.stream] ∧
      between (t.packet ++ tail) 14 15 = [t.frames] ∧
      between (t.packet ++ tail) 15 16 = [t.seconds] ∧
      between (t.packet ++ tail) 16 17 = [t.minutes] ∧
      between (t.packet ++ tail) 17 18 = [t.hours] ∧
      between (t.packet ++ tail) 18 19 = [t.keyType] := by
  obtain ⟨version, filler, stream, frames, seconds, minutes, hours, keyType, hv⟩ := t
  obtain ⟨high, low, rfl⟩ := List.length_eq_two.mp hv
  exact ⟨rfl, rfl, rfl, rfl, rfl, rfl, rfl, rfl, rfl, rfl⟩

/-- **A packet of a stamp is decoded to its time code**, whatever follows it. -/
theorem decode_stamp (t : Stamp) (tail : Bytes) : decode (t.packet ++ tail) = .ok t.command := by
  obtain ⟨hheader, hopcode, hversion, hfiller, hstream, hframes, hseconds, hminutes, hhours,
    htype⟩ := between_stamp_packet t tail
  have hl : 19 ≤ (t.packet ++ tail).length := by
    rw [List.length_append, Stamp.length_packet]
    omega
  have ho : HasOpcode (t.packet ++ tail) 0x9700 := by
    refine ⟨by omega, hheader, ?_⟩
    rw [hopcode, littleValue_littleBytes_of_lt (by norm_num)]
  have hv : timecodeValues (t.packet ++ tail) = t.values := by
    rw [timecodeValues, hversion, hfiller, hstream, hframes, hseconds, hminutes, hhours, htype]
    simp only [bigValue_singleton, Stamp.values]
  rw [decode_of_timecode ho hl, hv, Stamp.command]

theorem decode_stamp_packet (t : Stamp) : decode t.packet = .ok t.command := by
  rw [← decode_stamp t [], List.append_nil]

/-- A datagram that reads as a time code is the packet of a stamp, and maybe more. -/
theorem exists_packet_of_timecode {packet : Bytes} (h : HasOpcode packet 0x9700)
    (hl : 19 ≤ packet.length) : ∃ (t : Stamp) (tail : Bytes), packet = t.packet ++ tail := by
  obtain ⟨-, hheader, hopcode⟩ := h
  have byte (n : Nat) (hn : n + 1 ≤ 19) : ∃ b, between packet n (n + 1) = [b] :=
    exists_between_eq_singleton (hn.trans hl)
  obtain ⟨filler, hfiller⟩ := byte 12 (by decide)
  obtain ⟨stream, hstream⟩ := byte 13 (by decide)
  obtain ⟨frames, hframes⟩ := byte 14 (by decide)
  obtain ⟨seconds, hseconds⟩ := byte 15 (by decide)
  obtain ⟨minutes, hminutes⟩ := byte 16 (by decide)
  obtain ⟨hours, hhours⟩ := byte 17 (by decide)
  obtain ⟨keyType, htype⟩ := byte 18 (by decide)
  have hv : (between packet 10 12).length = 2 := length_between (by omega)
  refine ⟨⟨between packet 10 12, filler, stream, frames, seconds, minutes, hours, keyType, hv⟩,
    packet.drop 19, ?_⟩
  calc packet
    _ = between packet 0 8 ++ (between packet 8 10 ++ (between packet 10 12 ++
          (between packet 12 13 ++ (between packet 13 14 ++ (between packet 14 15 ++
          (between packet 15 16 ++ (between packet 16 17 ++ (between packet 17 18 ++
          (between packet 18 19 ++ packet.drop 19))))))))) := by
      simp [between_append_drop]
    _ = _ := by
      rw [hheader, littleBytes_of_littleValue_between (by omega) hopcode, hfiller, hstream,
        hframes, hseconds, hminutes, hhours, htype, Stamp.packet]
      simp [Kind.opcode]

/-! ### All that is decoded -/

/-- **What is decoded**: outputs from the packets of headings, time codes from those of stamps. -/
theorem decode_eq_ok_iff {packet : Bytes} {command : Value} :
    decode packet = .ok command ↔
      (∃ (h : Heading) (size : Nat) (data : Bytes), size < 65536 ∧ packet = h.packet size data ∧
        command = h.command (.int size) data) ∨
      ∃ (t : Stamp) (tail : Bytes), packet = t.packet ++ tail ∧ command = t.command := by
  constructor
  · intro hd
    have hr := readsAs_decode packet
    rw [hd] at hr
    cases hr with
    | output ho hl hp =>
      obtain ⟨h, size, data, hs, rfl⟩ := exists_packet_of_output ho hl hp
      rw [decode_packet h hs] at hd
      exact .inl ⟨h, size, data, hs, rfl, (Except.ok.inj hd).symm⟩
    | timecode ho hl =>
      obtain ⟨t, tail, rfl⟩ := exists_packet_of_timecode ho hl
      rw [decode_stamp] at hd
      exact .inr ⟨t, tail, rfl, (Except.ok.inj hd).symm⟩
  · rintro (⟨h, size, data, hs, rfl, rfl⟩ | ⟨t, tail, rfl, rfl⟩)
    · exact decode_packet h hs data
    · exact decode_stamp t tail

end DmxNet.Packet
