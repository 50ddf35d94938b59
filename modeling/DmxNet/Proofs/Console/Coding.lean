import DmxNet.Proofs.Console.Composing
import DmxNet.Proofs.Packet.Description
import DmxNet.Proofs.Text.Hex

/-!
# Coding packets as text

What is said of the packet that a text spells (`Reads`). A text is answered whatever it is: with
the description of the command in its bytes, with the reason for which there is none, or with the
position where it goes wrong as a spelling; and texts that spell the same bytes have the same answer
(`decodePacket_total`). The text of a frame says again what the frame was made of
(`decodePacket_encodeFrame`): its numbers, its Port-Address whole and in its parts, and its levels
with the one zero that makes them even in number.
-/

namespace DmxNet

/-! ### Levels -/

/-- The numbers of bytes, and a zero behind them if these are odd in number. -/
theorem map_toNat_padded (bs : Bytes) :
    (padded bs).map (fun b => (b.toNat : Int)) =
      bs.map (fun b => (b.toNat : Int)) ++ List.replicate (bs.length % 2) 0 := by
  rw [padded, List.map_append, List.map_replicate]
  rfl

namespace Console

/-! ### Texts of packets -/

/-- What is told of the bytes of a packet. -/
def told (packet : Bytes) : Except Fault Reply :=
  match Packet.decode packet with
  | .ok command => (Packet.describe command).map .described
  | .error fault => if fault.isProtocol then .ok (.refused fault.message) else .error fault

/-- What a text is answered with. -/
inductive Reads (s : String) : Reply → Prop where
  /-- It spells a packet, and its command is described. -/
  | described {bs : Bytes} {command : Value} {description : Packet.Description}
    (spells : Hex.Spells s.toList bs) (decoded : Packet.decode bs = .ok command)
    (described : Packet.describe command = .ok description) : Reads s (.described description)
  /-- It spells bytes that are no packet. -/
  | unreadable {bs : Bytes} {fault : Fault} {reason : String} (spells : Hex.Spells s.toList bs)
    (refused : Packet.decode bs = .error fault) (protocol : fault.isProtocol = true)
    (stated : fault.text = .ok reason) : Reads s (.refused reason)
  /-- It spells nothing, and the answer tells where it goes wrong. -/
  | misspelled {pos : Nat} (wrong : Hex.GoesWrong s.toList pos) :
    Reads s (.refused ("Invalid hex: non-hexadecimal number found in fromhex() arg at position " ++
      Digits.decimal pos))

section

variable {s : String}

/-- A text that spells bytes is answered with what these call for. -/
theorem decodePacket_of_spells {bs : Bytes} (h : Hex.Spells s.toList bs) :
    decodePacket (.text s) = told bs := by
  rw [decodePacket, Hex.decode_of_spells h]
  rfl

theorem decodePacket_of_goesWrong {pos : Nat} (h : Hex.GoesWrong s.toList pos) :
    decodePacket (.text s) =
      .ok (.refused ("Invalid hex: non-hexadecimal number found in fromhex() arg at position " ++
        Digits.decimal pos)) := by
  rw [decodePacket, Hex.decode_of_goesWrong h]
  rfl

theorem decodePacket_of_reads {reply : Reply} (h : Reads s reply) :
    decodePacket (.text s) = .ok reply := by
  cases h with
  | described spells decoded described =>
    rw [decodePacket_of_spells spells, told, decoded]
    dsimp only
    rw [described]
    rfl
  | unreadable spells refused protocol stated =>
    rw [decodePacket_of_spells spells, told, refused]
    dsimp only
    rw [if_pos protocol, Fault.message, stated]
    rfl
  | misspelled wrong => exact decodePacket_of_goesWrong wrong

/-- Every text is answered. -/
theorem exists_reads (s : String) : ∃ reply, Reads s reply := by
  rcases Hex.spelled_or_goesWrong s.toList with ⟨bs, spells⟩ | ⟨pos, wrong⟩
  · cases hd : Packet.decode bs with
    | ok command =>
      obtain ⟨description, described⟩ := Packet.exists_description hd
      exact ⟨_, .described spells hd described⟩
    | error fault =>
      have hr : Packet.ReadsAs bs (.error fault) := hd ▸ Packet.readsAs_decode bs
      obtain ⟨reason, stated⟩ := Packet.exists_text_of_readsAs hr
      exact ⟨_, .unreadable spells hd (Packet.isProtocol_of_readsAs hr) stated⟩
  · exact ⟨_, .misspelled wrong⟩

end

/-- **Every text is answered, by the bytes that it spells.** The answer is the one that the bytes
call for, or tells where the text goes wrong, and all spellings of the same bytes have it. -/
theorem decodePacket_total (s : String) :
    (∃ reply, decodePacket (.text s) = .ok reply) ∧
    (∀ reply, decodePacket (.text s) = .ok reply ↔ Reads s reply) ∧
    ∀ t bs, Hex.Spells s.toList bs → Hex.Spells t.toList bs →
      decodePacket (.text t) = decodePacket (.text s) := by
  obtain ⟨reply, hreads⟩ := exists_reads s
  have hreply := decodePacket_of_reads hreads
  refine ⟨⟨reply, hreply⟩, fun other => ⟨fun h => ?_, decodePacket_of_reads⟩, ?_⟩
  · obtain rfl := Except.ok.inj (hreply.symm.trans h)
    exact hreads
  · intro t bs hs ht
    rw [decodePacket_of_spells hs, decodePacket_of_spells ht]

/-! ### Texts of frames -/

section

variable {port sequence : Int} {levels : List Int} {hex : String} {size : Nat}

/-- A text that a frame is answered with is that of its packet. -/
theorem eq_of_encodeFrame {port data sequence : Value}
    (h : encodeFrame port data sequence = .ok (.encoded hex size)) :
    ∃ packet, frame sequence (.int 0) port data >>= Packet.encode = .ok packet ∧
      hex = Hex.encodeSpaced packet ∧ size = packet.length := by
  unfold encodeFrame at h
  split at h
  · rename_i packet hp
    cases h
    exact ⟨packet, hp, rfl, rfl⟩
  · split at h <;> cases h

/-- What a text of a frame spells is the packet of the frame. -/
theorem exists_packet_of_encodeFrame
    (h : encodeFrame (.int port) (.list (levels.map .int)) (.int sequence) =
      .ok (.encoded hex size)) :
    ∃ (heading : Packet.Heading) (bs : Bytes), heading.version = Packet.version ∧
      (heading.sequence.toNat : Int) = sequence ∧ (heading.physical.toNat : Int) = 0 ∧
      (heading.port.value : Int) = port ∧ bs.map (fun b => (b.toNat : Int)) = levels ∧
      bs.length ≤ 512 ∧ hex = Hex.encodeSpaced (heading.packet (evenSize bs.length) (padded bs)) ∧
      size = 18 + evenSize bs.length := by
  obtain ⟨packet, hp, rfl, rfl⟩ := eq_of_encodeFrame h
  by_cases hfits : Fits [sequence, 0] port levels
  · obtain ⟨heading, bs, hversion, hsequence, hphysical, hport, hbs, hf⟩ := exists_frame hfits
    rw [hf] at hp
    obtain ⟨-, hle, rfl⟩ := (Packet.encode_output_eq_ok_iff heading .none).mp hp
    refine ⟨heading, bs, hversion, hsequence, hphysical, hport, hbs, hle, rfl, ?_⟩
    rw [Packet.Heading.length_packet, length_padded]
  · obtain ⟨fault, hf, -⟩ := (refused_frame hfits).bind Packet.encode
    rw [hf] at hp
    cases hp

/-- **The text of a frame says what the frame was made of.** -/
theorem decodePacket_encodeFrame
    (h : encodeFrame (.int port) (.list (levels.map .int)) (.int sequence) =
      .ok (.encoded hex size)) :
    ∃ (p : PortAddress) (data : Bytes),
      decodePacket (.text hex) =
        .ok (.described (.output 14 (.int sequence) (.int 0) p (evenSize levels.length) data)) ∧
      (p.value : Int) = port ∧
      ((p.net * 256 + p.subNet * 16 + p.universeId : Nat) : Int) = port ∧
      data.map (fun b => (b.toNat : Int)) = levels ++ List.replicate (levels.length % 2) 0 ∧
      size = 18 + evenSize levels.length ∧
      (hex.toList.splitOn ' ').length = size ∧
      ∀ word ∈ hex.toList.splitOn ' ', Hex.IsPair word := by
  obtain ⟨heading, bs, hversion, rfl, hphysical, rfl, rfl, hle, rfl, rfl⟩ :=
    exists_packet_of_encodeFrame h
  have hsize : evenSize bs.length < 65536 := by
    have := evenSize_le hle
    omega
  have hlength := heading.length_packet (evenSize bs.length) (padded bs)
  have hne : heading.packet (evenSize bs.length) (padded bs) ≠ [] := by
    rw [← List.length_pos_iff, hlength]
    omega
  refine ⟨heading.port, padded bs, ?_, rfl, ?_, ?_, ?_, ?_, ?_⟩
  · rw [decodePacket_of_spells (Hex.spells_encodeSpaced _), told,
      Packet.decode_packet heading hsize]
    dsimp only
    rw [Packet.describe_output, hversion, hphysical, List.length_map]
    rfl
  · rw [PortAddress.weight_parts]
  · rw [map_toNat_padded, List.length_map]
  · rw [List.length_map]
  · rw [Hex.splitOn_encodeSpaced hne, List.length_map, hlength, length_padded]
  · intro word hword
    rw [Hex.splitOn_encodeSpaced hne] at hword
    obtain ⟨b, -, rfl⟩ := List.mem_map.mp hword
    exact Hex.isPair_pair b

end

/-- The text of a frame of three levels has a fourth one. -/
theorem decodePacket_encodeFrame_of_levels :
    encodeFrame (.int 0x7FA5) (.list ([1, 2, 255].map .int)) (.int 7) =
        .ok (.encoded "41 72 74 2d 4e 65 74 00 00 50 00 0e 07 00 a5 7f 00 04 01 02 ff 00" 22) ∧
      ∃ (p : PortAddress) (data : Bytes),
        decodePacket
            (.text "41 72 74 2d 4e 65 74 00 00 50 00 0e 07 00 a5 7f 00 04 01 02 ff 00") =
          .ok (.described (.output 14 (.int 7) (.int 0) p 4 data)) ∧
        (p.value : Int) = 0x7FA5 ∧
        data.map (fun b => (b.toNat : Int)) = [1, 2, 255, 0] := by
  have he : encodeFrame (.int 0x7FA5) (.list ([1, 2, 255].map .int)) (.int 7) =
      .ok (.encoded "41 72 74 2d 4e 65 74 00 00 50 00 0e 07 00 a5 7f 00 04 01 02 ff 00" 22) := by
    rfl
  obtain ⟨p, data, hdecode, hport, -, hdata, -⟩ := decodePacket_encodeFrame he
  exact ⟨he, p, data, hdecode, hport, hdata⟩

end Console

end DmxNet
