import DmxNet.Console.Tools
import DmxNet.Proofs.Packet.Encoding

/-!
# Composing commands of whole numbers

Which whole numbers make a frame or a time code. A frame is composed exactly if its numbers, its
Port-Address and its levels are in their ranges (`Fits`), a time code exactly if its six numbers are
bytes; whatever else there is to say of them is a refusal (`Refused`), never another fault. A frame
that is composed has a packet if it has 1 to 512 levels, and is refused for their count otherwise,
but from 65535 levels on it is the length that overflows, which is no refusal (`Making`, `making`).
-/

namespace DmxNet

/-! ### Refusals -/

/-- Whether an outcome is a fault of the kind that the tools answer with a text. -/
def Refused {α : Type} (result : Except Fault α) : Prop :=
  ∃ fault, result = .error fault ∧ fault.isRefusal = true

theorem Refused.bind {α β : Type} {result : Except Fault α} (h : Refused result)
    (f : α → Except Fault β) : Refused (result >>= f) := by
  obtain ⟨fault, rfl, hf⟩ := h
  exact ⟨fault, rfl, hf⟩

theorem refused_invalid {α : Type} (cause : Invalid) :
    Refused (.error (.invalid cause) : Except Fault α) := ⟨_, rfl, rfl⟩

/-! ### Numbers in their ranges -/

/-- Whether a whole number is the number of a byte. -/
def IsByte (n : Int) : Prop := 0 ≤ n ∧ n ≤ 255

theorem isByte_toNat (b : UInt8) : IsByte b.toNat := by
  have := b.toNat_lt
  unfold IsByte
  omega

theorem IsByte.exists_byte {n : Int} (h : IsByte n) : ∃ b : UInt8, (b.toNat : Int) = n := by
  obtain ⟨h0, h1⟩ := h
  refine ⟨UInt8.ofNat n.toNat, ?_⟩
  rw [UInt8.toNat_ofNat', Nat.mod_eq_of_lt (by omega)]
  exact Int.toNat_of_nonneg h0

/-- Whole numbers that a frame can be composed of: numbers for its fields of one byte, a
Port-Address, and levels. -/
structure Fits (numbers : List Int) (port : Int) (levels : List Int) : Prop where
  numbers : ∀ n ∈ numbers, IsByte n
  port : 0 ≤ port ∧ port ≤ 0x7FFF
  levels : ∀ level ∈ levels, IsByte level

theorem fits_cons_iff {n : Int} {numbers : List Int} {port : Int} {levels : List Int} :
    Fits (n :: numbers) port levels ↔ IsByte n ∧ Fits numbers port levels := by
  constructor
  · intro h
    obtain ⟨hn, hnumbers⟩ := List.forall_mem_cons.mp h.numbers
    exact ⟨hn, hnumbers, h.port, h.levels⟩
  · rintro ⟨hn, h⟩
    exact ⟨List.forall_mem_cons.mpr ⟨hn, h.numbers⟩, h.port, h.levels⟩

/-! ### Coercing whole numbers -/

theorem coerceNumber_byte {n : Int} (h : IsByte n) : coerceNumber 1 (.int n) = .ok (.int n) := by
  have hn : 0 ≤ n ∧ n ≤ maxOfWidth 1 := h
  exact if_pos hn

theorem refused_coerceNumber {n : Int} (h : ¬ IsByte n) : Refused (coerceNumber 1 (.int n)) := by
  have hn : ¬ (0 ≤ n ∧ n ≤ maxOfWidth 1) := h
  have he : coerceNumber 1 (.int n) =
      if Digits.writable n && Digits.writable (maxOfWidth 1) then
        .error (.invalid (.outOfRange (maxOfWidth 1) n))
      else .error (.invalid .unwritable) := if_neg hn
  rw [he]
  split
  · exact refused_invalid _
  · exact refused_invalid _

theorem coercePort_int {n : Int} (h : 0 ≤ n ∧ n ≤ 0x7FFF) :
    ∃ p : PortAddress, (p.value : Int) = n ∧ coercePort (.int n) = .ok (.port p) := by
  refine ⟨⟨n.toNat, by omega⟩, Int.toNat_of_nonneg h.1, ?_⟩
  have hp : PortAddress.ofInt? n = some ⟨n.toNat, by omega⟩ := dif_pos h
  have hv : PortAddress.ofValue (.int n) = .ok ⟨n.toNat, by omega⟩ := by
    change orFault _ (PortAddress.ofInt? n) = _
    rw [hp]
    rfl
  exact bind_eq_ok.mpr ⟨_, hv, rfl⟩

theorem refused_coercePort {n : Int} (h : ¬ (0 ≤ n ∧ n ≤ 0x7FFF)) :
    Refused (coercePort (.int n)) := by
  have hp : PortAddress.ofInt? n = none := dif_neg h
  have hv : Refused (PortAddress.ofValue (.int n)) := by
    change Refused (orFault (PortAddress.rangeFault (.int n) PortAddress.limit)
      (PortAddress.ofInt? n))
    rw [hp, PortAddress.rangeFault]
    split
    · exact ⟨_, rfl, rfl⟩
    · exact refused_invalid _
  exact hv.bind _

theorem toByte_int (b : UInt8) : Value.toByte (.int b.toNat) = .ok b := by
  have hb := b.toNat_lt
  have hn : (0 : Int) ≤ b.toNat ∧ (b.toNat : Int) < 256 := by omega
  rw [Value.toByte]
  refine bind_eq_ok.mpr ⟨(b.toNat : Int), rfl, ?_⟩
  rw [if_pos hn, Int.toNat_natCast, UInt8.ofNat_toNat]
  rfl

theorem refused_toByte {n : Int} (h : ¬ IsByte n) : Refused (Value.toByte (.int n)) := by
  have hn : ¬ (0 ≤ n ∧ n < 256) := by
    unfold IsByte at h
    omega
  have he : Value.toByte (.int n) = .error (.invalid .byteRange) := if_neg hn
  rw [he]
  exact refused_invalid _

/-- Levels that are bytes are channel data. -/
theorem coercePayload_levels {levels : List Int} (h : ∀ level ∈ levels, IsByte level) :
    ∃ bs : Bytes, bs.map (fun b => (b.toNat : Int)) = levels ∧
      coercePayload (.list (levels.map .int)) = .ok (.payload (.bytes bs)) := by
  have hbytes : ∃ bs : Bytes, bs.map (fun b => (b.toNat : Int)) = levels ∧
      (levels.map Value.int).mapM Value.toByte = .ok bs := by
    induction levels with
    | nil => exact ⟨[], rfl, rfl⟩
    | cons level levels ih =>
      obtain ⟨hlevel, hlevels⟩ := List.forall_mem_cons.mp h
      obtain ⟨b, rfl⟩ := hlevel.exists_byte
      obtain ⟨bs, rfl, hbs⟩ := ih hlevels
      refine ⟨b :: bs, rfl, ?_⟩
      rw [List.map_cons, List.mapM_cons, toByte_int, hbs]
      rfl
  obtain ⟨bs, hlevels, hbs⟩ := hbytes
  refine ⟨bs, hlevels, ?_⟩
  exact bind_eq_ok.mpr ⟨bs, hbs, rfl⟩

/-- What takes bytes and refuses other whole numbers refuses lists in which there is another. -/
theorem refused_mapM {α : Type} {f : Value → Except Fault α}
    (hf : ∀ b : UInt8, ∃ a, f (.int b.toNat) = .ok a)
    (hr : ∀ n, ¬ IsByte n → Refused (f (.int n))) {ns : List Int}
    (h : ¬ ∀ n ∈ ns, IsByte n) : Refused ((ns.map Value.int).mapM f) := by
  induction ns with
  | nil => exact absurd (by simp) h
  | cons n ns ih =>
    rw [List.map_cons, List.mapM_cons]
    by_cases hn : IsByte n
    · obtain ⟨b, rfl⟩ := hn.exists_byte
      obtain ⟨a, ha⟩ := hf b
      rw [ha]
      exact (ih fun hns => h (List.forall_mem_cons.mpr ⟨hn, hns⟩)).bind _
    · exact (hr n hn).bind _

theorem refused_coercePayload {levels : List Int} (h : ¬ ∀ level ∈ levels, IsByte level) :
    Refused (coercePayload (.list (levels.map .int))) := by
  have hbytes : Refused ((levels.map Value.int).mapM Value.toByte) :=
    refused_mapM (fun b => ⟨b, toByte_int b⟩) (fun _ => refused_toByte) h
  exact hbytes.bind _

namespace Console

/-! ### Frames -/

/-- A frame is composed field by field, in the order of the fields. -/
theorem frame_eq (sequence physical port data : Value) :
    frame sequence physical port data = do
      let sequence ← coerceNumber 1 sequence
      let physical ← coerceNumber 1 physical
      let port ← coercePort port
      let content ← coercePayload data
      return .record Packet.output
        [.bytes Packet.version, sequence, physical, port, .length .none, content] := by
  have hframe : frame sequence physical port data =
      Packet.output.compose [.bytes Packet.version, sequence, physical, port, .none, data] := rfl
  have hversion : coerceBytes 2 (.bytes Packet.version) = .ok (.bytes Packet.version) := rfl
  have hask : Action.making Packet.output.fields = .ok () := rfl
  rw [hframe, Packet.output, Schema.compose]
  rw [Packet.output] at hask
  rw [hask]
  simp only [coerceAll, Codec.coerce, hversion, coerceLength]
  cases coerceNumber 1 sequence <;> try rfl
  cases coerceNumber 1 physical <;> try rfl
  cases coercePort port <;> try rfl
  cases coercePayload data <;> rfl

section

variable {sequence physical port : Int} {levels : List Int}

/-- The frames of whole numbers that fit. -/
theorem exists_frame (h : Fits [sequence, physical] port levels) :
    ∃ (heading : Packet.Heading) (data : Bytes), heading.version = Packet.version ∧
      (heading.sequence.toNat : Int) = sequence ∧ (heading.physical.toNat : Int) = physical ∧
      (heading.port.value : Int) = port ∧ data.map (fun b => (b.toNat : Int)) = levels ∧
      frame (.int sequence) (.int physical) (.int port) (.list (levels.map .int)) =
        .ok (heading.command .none data) := by
  obtain ⟨hsequence, h⟩ := fits_cons_iff.mp h
  obtain ⟨hphysical, h⟩ := fits_cons_iff.mp h
  obtain ⟨number, rfl⟩ := hsequence.exists_byte
  obtain ⟨input, rfl⟩ := hphysical.exists_byte
  obtain ⟨p, hp, hport⟩ := coercePort_int h.port
  obtain ⟨data, hlevels, hdata⟩ := coercePayload_levels h.levels
  refine ⟨⟨Packet.version, number, input, p, rfl⟩, data, rfl, rfl, rfl, hp, hlevels, ?_⟩
  rw [frame_eq, coerceNumber_byte hsequence, coerceNumber_byte hphysical, hport, hdata]
  rfl

theorem refused_frame (h : ¬ Fits [sequence, physical] port levels) :
    Refused (frame (.int sequence) (.int physical) (.int port) (.list (levels.map .int))) := by
  rw [frame_eq]
  by_cases hsequence : IsByte sequence
  · rw [coerceNumber_byte hsequence]
    show Refused (coerceNumber 1 (.int physical) >>= _)
    by_cases hphysical : IsByte physical
    · rw [coerceNumber_byte hphysical]
      show Refused (coercePort (.int port) >>= _)
      by_cases hport : 0 ≤ port ∧ port ≤ 0x7FFF
      · obtain ⟨p, -, hp⟩ := coercePort_int hport
        rw [hp]
        show Refused (coercePayload (.list (levels.map .int)) >>= _)
        have hlevels : ¬ ∀ level ∈ levels, IsByte level := by
          intro hlevels
          exact h (fits_cons_iff.mpr ⟨hsequence, fits_cons_iff.mpr ⟨hphysical, nofun, hport, hlevels⟩⟩)
        exact (refused_coercePayload hlevels).bind _
      · exact (refused_coercePort hport).bind _
    · exact (refused_coerceNumber hphysical).bind _
  · exact (refused_coerceNumber hsequence).bind _

/-- What making the packet of a frame comes to. -/
inductive Making (numbers : List Int) (port : Int) (levels : List Int) :
    Except Fault Bytes → Prop where
  /-- There is a packet. -/
  | made {packet : Bytes} (fits : Fits numbers port levels)
      (count : 1 ≤ levels.length ∧ levels.length ≤ 512) : Making numbers port levels (.ok packet)
  /-- A number, the Port-Address, a level or the count of levels is refused. -/
  | refused {fault : Fault} (refusal : fault.isRefusal = true)
      (count : Fits numbers port levels →
        levels.length = 0 ∨ 512 < levels.length ∧ levels.length < 65535) :
    Making numbers port levels (.error fault)
  /-- There are so many levels that their length does not fit its field. -/
  | overflowed (fits : Fits numbers port levels) (count : 65535 ≤ levels.length) :
    Making numbers port levels (.error (.overflow .tooBig))

/-- **A frame of whole numbers has a packet, is refused, or its length overflows.** -/
theorem making (sequence physical port : Int) (levels : List Int) :
    Making [sequence, physical] port levels
      (frame (.int sequence) (.int physical) (.int port) (.list (levels.map .int)) >>=
        Packet.encode) := by
  by_cases hfits : Fits [sequence, physical] port levels
  · obtain ⟨heading, data, -, -, -, -, hdata, hf⟩ := exists_frame hfits
    have hl : data.length = levels.length := by rw [← hdata, List.length_map]
    rw [hf]
    show Making _ port levels (Packet.encode (heading.command .none data))
    -- By the count of levels: none, too many for a packet, too many for the length, or 1 to 512.
    rcases Nat.eq_zero_or_pos data.length with h0 | h1
    · obtain rfl := List.length_eq_zero_iff.mp h0
      rw [Packet.encode_output_nil]
      exact .refused rfl fun _ => .inl (hl.symm.trans h0)
    rcases Nat.lt_or_ge 512 data.length with h2 | h2
    · rcases Nat.lt_or_ge data.length 65535 with h3 | h3
      · rw [Packet.encode_output_of_lt heading .none h2 h3]
        exact .refused rfl fun _ => .inr (by omega)
      · rw [Packet.encode_output_of_overflow heading .none h3]
        exact .overflowed hfits (by omega)
    · rw [Packet.encode_output_of_le heading .none h1 h2]
      exact .made hfits (by omega)
  · obtain ⟨fault, hf, hrefusal⟩ := (refused_frame hfits).bind Packet.encode
    rw [hf]
    exact .refused hrefusal fun h => absurd h hfits

end

/-! ### Time codes -/

/-- A time code is composed of six numbers, in the order of the fields. -/
theorem position_eq (hours minutes seconds frames keyType stream : Value) :
    position hours minutes seconds frames keyType stream = do
      let numbers ← [stream, frames, seconds, minutes, hours, keyType].mapM (coerceNumber 1)
      return .record Packet.timecode (.bytes Packet.version :: .int 0 :: numbers) := by
  have hposition : position hours minutes seconds frames keyType stream =
      Packet.timecode.compose
        [.bytes Packet.version, .int 0, stream, frames, seconds, minutes, hours, keyType] := rfl
  have hversion : coerceBytes 2 (.bytes Packet.version) = .ok (.bytes Packet.version) := rfl
  have hfiller : coerceNumber 1 (.int 0) = .ok (.int 0) := rfl
  have hask : Action.making Packet.timecode.fields = .ok () := rfl
  rw [hposition, Packet.timecode, Schema.compose]
  rw [Packet.timecode] at hask
  rw [hask]
  simp only [coerceAll, Codec.coerce, hversion, hfiller, List.mapM_cons, List.mapM_nil]
  cases coerceNumber 1 stream <;> try rfl
  cases coerceNumber 1 frames <;> try rfl
  cases coerceNumber 1 seconds <;> try rfl
  cases coerceNumber 1 minutes <;> try rfl
  cases coerceNumber 1 hours <;> try rfl
  cases coerceNumber 1 keyType <;> rfl

/-- A number that is kept in one byte is that of a byte. -/
theorem exists_byte_of_coerceNumber {v w : Value} (h : coerceNumber 1 v = .ok w) :
    ∃ b : UInt8, w = .int b.toNat := by
  obtain ⟨n, hn, rfl⟩ := coerceNumber_eq_ok h
  obtain ⟨b, rfl⟩ := Packet.exists_byte hn
  exact ⟨b, rfl⟩

/-- Whatever a time code is composed of, it has a stamp. -/
theorem exists_stamp_of_position {hours minutes seconds frames keyType stream command : Value}
    (h : position hours minutes seconds frames keyType stream = .ok command) :
    ∃ stamp : Packet.Stamp, command = stamp.command := by
  rw [position_eq] at h
  simp only [List.mapM_cons, List.mapM_nil, bind_eq_ok] at h
  obtain ⟨_, ⟨_, hstream, _, ⟨_, hframes, _, ⟨_, hseconds, _, ⟨_, hminutes, _, ⟨_, hhours, _,
    ⟨_, htype, _, ⟨⟩, ⟨⟩⟩, ⟨⟩⟩, ⟨⟩⟩, ⟨⟩⟩, ⟨⟩⟩, ⟨⟩⟩, ⟨⟩⟩ := h
  obtain ⟨stream, rfl⟩ := exists_byte_of_coerceNumber hstream
  obtain ⟨frames, rfl⟩ := exists_byte_of_coerceNumber hframes
  obtain ⟨seconds, rfl⟩ := exists_byte_of_coerceNumber hseconds
  obtain ⟨minutes, rfl⟩ := exists_byte_of_coerceNumber hminutes
  obtain ⟨hours, rfl⟩ := exists_byte_of_coerceNumber hhours
  obtain ⟨keyType, rfl⟩ := exists_byte_of_coerceNumber htype
  exact ⟨⟨Packet.version, 0, stream, frames, seconds, minutes, hours, keyType, rfl⟩, rfl⟩

section

variable {hours minutes seconds frames keyType stream : Int}

theorem exists_position
    (h : ∀ n ∈ [stream, frames, seconds, minutes, hours, keyType], IsByte n) :
    ∃ command, position (.int hours) (.int minutes) (.int seconds) (.int frames) (.int keyType)
      (.int stream) = .ok command := by
  simp only [List.forall_mem_cons] at h
  obtain ⟨hstream, hframes, hseconds, hminutes, hhours, htype, -⟩ := h
  rw [position_eq]
  simp only [List.mapM_cons, List.mapM_nil, coerceNumber_byte, hstream, hframes, hseconds,
    hminutes, hhours, htype]
  exact ⟨_, rfl⟩

theorem refused_position
    (h : ¬ ∀ n ∈ [stream, frames, seconds, minutes, hours, keyType], IsByte n) :
    Refused (position (.int hours) (.int minutes) (.int seconds) (.int frames) (.int keyType)
      (.int stream)) := by
  rw [position_eq]
  have hnumbers : Refused (([stream, frames, seconds, minutes, hours, keyType].map Value.int).mapM
      (coerceNumber 1)) :=
    refused_mapM (fun b => ⟨_, coerceNumber_byte (isByte_toNat b)⟩) (fun _ => refused_coerceNumber) h
  exact hnumbers.bind _

end

end Console

end DmxNet
