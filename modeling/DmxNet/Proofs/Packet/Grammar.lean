import DmxNet.Proofs.Packet.Command
import DmxNet.Proofs.Schema.Reading

/-!
# The grammar of packets

What a datagram reads as (`ReadsAs`), told by its length and its bytes: the command in it, or the
first thing that is wrong with it. Every datagram reads as something (`exists_readsAs`), and what it
reads as is what decoding gives (`decode_of_readsAs`), so only the protocol's own faults come of it.
A field that does not fit is told before anything behind it is looked at, and the fields that were
read are composed as they are.
-/

namespace DmxNet.Packet

open DmxNet.Part

/-- The bytes of a datagram from one position up to another. -/
def between (data : Bytes) (start stop : Nat) : Bytes := (data.drop start).take (stop - start)

theorem length_between {data : Bytes} {start stop : Nat} (h : stop ≤ data.length) :
    (between data start stop).length = stop - start := by
  rw [between, List.length_take, List.length_drop]
  omega

theorem between_append {data : Bytes} {start stop : Nat} (h : stop ≤ data.length) (tail : Bytes) :
    between (data ++ tail) start stop = between data start stop := by
  have hk : stop - start - (data.drop start).length = 0 := by
    rw [List.length_drop]
    omega
  rw [between, List.drop_append, List.take_append, hk, List.take_zero, List.append_nil, between]

theorem between_take {start stop count : Nat} (h : stop ≤ count) (data : Bytes) :
    between (data.take count) start stop = between data start stop := by
  rw [between, List.drop_take, List.take_take, Nat.min_eq_left (by omega), between]

/-- A datagram of the header, an opcode, and maybe more. -/
def HasOpcode (data : Bytes) (opcode : Nat) : Prop :=
  10 ≤ data.length ∧ between data 0 8 = header ∧ littleValue (between data 8 10) = opcode

/-- The values of an output in a datagram, up to its Port-Address. -/
def frontValues (data : Bytes) (port : PortAddress) : List Value :=
  [.bytes (between data 10 12), .int (bigValue (between data 12 13)),
   .int (bigValue (between data 13 14)), .port port]

/-- The values of an output in a datagram: the length is what the datagram says, and the channel
data is all that follows, whatever the length. -/
def outputValues (data : Bytes) (port : PortAddress) : List Value :=
  frontValues data port ++
    [.length (.int (bigValue (between data 16 18))), .payload (.bytes (data.drop 18))]

/-- The values of a time code in a datagram. -/
def timecodeValues (data : Bytes) : List Value :=
  [.bytes (between data 10 12), .int (bigValue (between data 12 13)),
   .int (bigValue (between data 13 14)), .int (bigValue (between data 14 15)),
   .int (bigValue (between data 15 16)), .int (bigValue (between data 16 17)),
   .int (bigValue (between data 17 18)), .int (bigValue (between data 18 19))]

/-- What a datagram reads as: the command in it, or the first thing that is wrong with it. -/
inductive ReadsAs (data : Bytes) : Except Fault Value → Prop where
  /-- There is no room for the header. -/
  | noHeader : data.length < 8 → ReadsAs data (.error (.endOfInput (.int 8) (.int data.length)))
  /-- The header is another one, whether there is an opcode or not. -/
  | badHeader : 8 ≤ data.length → between data 0 8 ≠ header →
    ReadsAs data (.error (.badHeader (.bytes (between data 0 8))))
  /-- There is no room for the opcode. -/
  | noOpcode : 8 ≤ data.length → data.length < 10 → between data 0 8 = header →
    ReadsAs data (.error (.endOfInput (.int 2) (.int (data.length - 8 : Nat))))
  /-- The opcode is that of no command. -/
  | unknownOpcode {opcode : Nat} : HasOpcode data opcode → opcode ≠ 0x5000 → opcode ≠ 0x9700 →
    ReadsAs data (.error (.unknownOpcode (.int opcode)))
  /-- A field of an output has no room, and its Port-Address is not reached. -/
  | cutOutput {width left : Nat} : HasOpcode data 0x5000 →
    shortfall [2, 1, 1, 2] (data.length - 10) = some (width, left) →
    ReadsAs data (.error (.endOfInput (.int width) (.int left)))
  /-- The Port-Address has its highest bit set, whether there is a length or not. -/
  | badPort {port : Nat} : HasOpcode data 0x5000 → 16 ≤ data.length →
    littleValue (between data 14 16) = port → 0x7FFF < port →
    ReadsAs data (.error (.addressRange (.int port) (.int 0x7FFF)))
  /-- There is no room for the length. -/
  | noLength : HasOpcode data 0x5000 → 16 ≤ data.length → data.length < 18 →
    littleValue (between data 14 16) ≤ 0x7FFF →
    ReadsAs data (.error (.endOfInput (.int 2) (.int (data.length - 16 : Nat))))
  /-- An output. -/
  | output {port : PortAddress} : HasOpcode data 0x5000 → 18 ≤ data.length →
    littleValue (between data 14 16) = port.value →
    ReadsAs data (.ok (.record output (outputValues data port)))
  /-- A field of a time code has no room. -/
  | cutTimecode {width left : Nat} : HasOpcode data 0x9700 →
    shortfall [2, 1, 1, 1, 1, 1, 1, 1] (data.length - 10) = some (width, left) →
    ReadsAs data (.error (.endOfInput (.int width) (.int left)))
  /-- A time code, whatever follows it. -/
  | timecode : HasOpcode data 0x9700 → 19 ≤ data.length →
    ReadsAs data (.ok (.record timecode (timecodeValues data)))

variable {data : Bytes} {opcode : Nat}

/-! ### Header and opcode -/

theorem decode_of_lt (h : data.length < 8) :
    decode data = .error (.endOfInput (.int 8) (.int data.length)) := by
  have hr : (Cursor.read header.length).run (.after data 0) =
      (.error (.shortage 8 data.length), .after data 0) :=
    Cursor.run_read_of_lt (Nat.zero_le _) h
  rw [decode, reader, Cursor.start_eq_after, Procedure.run_bind, hr]
  exact congrArg Except.error (Fault.shortage_of_lt h (by decide))

theorem run_read_header (h : 8 ≤ data.length) :
    (Cursor.read header.length).run (.after data 0) =
      (.ok (between data 0 8), .after data 8) := by
  have hr := Cursor.run_read_of_le (show 0 + 8 ≤ data.length by omega)
  rwa [Nat.zero_add] at hr

theorem decode_of_ne_header (h : 8 ≤ data.length) (hh : between data 0 8 ≠ header) :
    decode data = .error (.badHeader (.bytes (between data 0 8))) := by
  rw [decode, reader, Cursor.start_eq_after, Procedure.run_bind, run_read_header h]
  simp [hh]

/-- A datagram with the header is decoded by its opcode. -/
theorem decode_of_header (h : 8 ≤ data.length) (hh : between data 0 8 = header) :
    decode data = ((do
      let opcode ← Cursor.readNumber 2 .little
      match Kind.ofOpcode? opcode with
      | some kind => kind.schema.read
      | none => throw (.unknownOpcode (.int opcode)) : Reader Value).run (.after data 8)).1 := by
  rw [decode, reader, Cursor.start_eq_after, Procedure.run_bind, run_read_header h]
  dsimp only
  rw [Procedure.run_bind, if_neg (not_not.mpr hh)]
  rfl

theorem decode_of_no_opcode (h : 8 ≤ data.length) (hl : data.length < 10)
    (hh : between data 0 8 = header) :
    decode data = .error (.endOfInput (.int 2) (.int (data.length - 8 : Nat))) := by
  have hr := Cursor.run_readNumber_after 2 .little h
  rw [if_pos (by rw [List.length_drop]; omega), List.length_drop, Nat.cast_ofNat] at hr
  have hs : data.length - 8 < 2 := by omega
  rw [decode_of_header h hh, Procedure.run_bind, hr]
  exact congrArg Except.error (Fault.shortage_of_lt hs (by decide))

/-- After the opcode comes the body of the command that it stands for, if it does for any. -/
theorem decode_of_opcode (h : HasOpcode data opcode) :
    decode data =
      match Kind.ofOpcode? opcode with
      | some kind => (kind.schema.read.run (.after data 10)).1
      | none => .error (.unknownOpcode (.int opcode)) := by
  obtain ⟨hl, hh, rfl⟩ := h
  have hr := Cursor.run_readNumber_after 2 .little (show 8 ≤ data.length by omega)
  rw [if_neg (by rw [List.length_drop]; omega), Nat.cast_ofNat] at hr
  rw [decode_of_header (by omega) hh, Procedure.run_bind, hr]
  dsimp only [ByteOrder.decode?, orFault]
  change _ = match Kind.ofOpcode? (littleValue ((data.drop 8).take 2)) with
    | some _ => _
    | none => _
  cases Kind.ofOpcode? (littleValue ((data.drop 8).take 2)) <;> rfl

theorem ofOpcode?_eq_none (h1 : opcode ≠ 0x5000) (h2 : opcode ≠ 0x9700) :
    Kind.ofOpcode? opcode = none := by
  simp [Kind.ofOpcode?, Kind.all, Kind.opcode, Ne.symm h1, Ne.symm h2]

/-! ### Bodies -/

/-- Two bytes as they are. -/
def versionPart : Part := ⟨2, fun bs => .ok (.bytes bs)⟩

/-- The number of a byte. -/
def bytePart : Part := ⟨1, fun bs => .ok (.int (bigValue bs))⟩

/-- A Port-Address. -/
def portPart : Part := ⟨2, fun bs => (PortAddress.ofValue (.int (littleValue bs))).map .port⟩

/-- A length. -/
def lengthPart : Part := ⟨2, fun bs => .ok (.length (.int (bigValue bs)))⟩

theorem total_versionPart : versionPart.Total := fun _ => ⟨_, rfl⟩

theorem total_bytePart : bytePart.Total := fun _ => ⟨_, rfl⟩

theorem keeps_between_version (h : 12 ≤ data.length) :
    (Codec.fixed 2).Keeps (.bytes (between data 10 12)) := by
  have hb : (between data 10 12).length = 2 := length_between h
  exact .fixed (by rw [hb]; rfl)

theorem keeps_between_byte {n : Nat} (h : n + 1 ≤ data.length) :
    (Codec.uint 1 .big).Keeps (.int (bigValue (between data n (n + 1)))) := by
  have hb := bigValue_lt (between data n (n + 1))
  rw [length_between h, Nat.add_sub_cancel_left] at hb
  exact .uint (le_maxOfWidth_iff.mpr hb)

/-- The parts of an output up to its Port-Address. -/
def frontParts : List Part := [versionPart, bytePart, bytePart, portPart]

/-- An output is composed of its parts and all that follows. -/
theorem decode_output (h : HasOpcode data 0x5000) :
    decode data =
      (walk (frontParts ++ [lengthPart]) (data.drop 10)).1.map (fun vs => vs ++
        [.payload (.bytes (data.drop
          (10 + (walk (frontParts ++ [lengthPart]) (data.drop 10)).2)))]) >>= output.compose := by
  have hq : List.Forall₂ (fun f q => f.codec.part? = some q)
      (output.fields.take 5) (frontParts ++ [lengthPart]) :=
    .cons rfl <| .cons rfl <| .cons rfl <| .cons rfl <| .cons rfl .nil
  rw [decode_of_opcode h]
  refine (Schema.run_read output rfl _).trans ?_
  rw [← run_readAll_rest hq h.1]
  rfl

/-- A time code is composed of its parts. -/
theorem decode_timecode (h : HasOpcode data 0x9700) :
    decode data =
      (walk (versionPart :: List.replicate 7 bytePart) (data.drop 10)).1 >>= timecode.compose := by
  have hq : List.Forall₂ (fun f q => f.codec.part? = some q)
      timecode.fields (versionPart :: List.replicate 7 bytePart) :=
    .cons rfl <| .cons rfl <| .cons rfl <| .cons rfl <| .cons rfl <| .cons rfl <| .cons rfl <|
      .cons rfl .nil
  rw [decode_of_opcode h]
  refine (Schema.run_read timecode rfl _).trans ?_
  rw [run_readAll_walk hq h.1]

/-- What the parts up to the Port-Address denote. -/
theorem denoteAll_front (data : Bytes) :
    denoteAll frontParts (data.drop 10) =
      (PortAddress.ofValue (.int (littleValue (between data 14 16)))).map (frontValues data) := by
  simp only [denoteAll, frontParts, versionPart, bytePart, portPart, List.drop_drop]
  have hp : (data.drop (10 + 2 + 1 + 1)).take 2 = between data 14 16 := rfl
  rw [hp]
  cases PortAddress.ofValue (.int (littleValue (between data 14 16))) <;> rfl

theorem decode_of_cut_output {width left : Nat} (h : HasOpcode data 0x5000)
    (hs : shortfall [2, 1, 1, 2] (data.length - 10) = some (width, left)) :
    decode data = .error (.endOfInput (.int width) (.int left)) := by
  have total : ∀ p ∈ [versionPart, bytePart, bytePart], p.Total := by
    simp [total_versionPart, total_bytePart]
  have hf := shortage_of_shortfall hs (by decide)
  rw [← List.length_drop] at hs
  have hw : (walk (frontParts ++ [lengthPart]) (data.drop 10)).1 =
      .error (.shortage width left) := walk_of_shortfall total hs
  rw [decode_output h, hw, hf]
  rfl

section

variable {port : PortAddress}

theorem sum_width_frontParts_le (h : 16 ≤ data.length) :
    (frontParts.map Part.width).sum ≤ (data.drop 10).length := by
  rw [List.length_drop]
  change 6 ≤ data.length - 10
  omega

/-- Up to the Port-Address an output is read if there is room and the Port-Address is in range. -/
theorem walk_front (h : 16 ≤ data.length) (hp : littleValue (between data 14 16) = port.value) :
    walk frontParts (data.drop 10) = (.ok (frontValues data port), 6) := by
  refine walk_eq_of_fit (sum_width_frontParts_le h) ?_
  rw [denoteAll_front, PortAddress.ofValue_of_eq hp]
  rfl

theorem decode_of_bad_port {n : Nat} (h : HasOpcode data 0x5000) (hl : 16 ≤ data.length)
    (hp : littleValue (between data 14 16) = n) (hn : 0x7FFF < n) :
    decode data = .error (.addressRange (.int n) (.int 0x7FFF)) := by
  have h2 : n < 65536 := by
    rw [← hp]
    exact littleValue_take_lt _ 2
  have hf : (walk frontParts (data.drop 10)).1 = .error (.addressRange (.int n) (.int 0x7FFF)) := by
    rw [(walk_of_fit (sum_width_frontParts_le hl)).1, denoteAll_front, hp,
      PortAddress.ofValue_of_lt hn h2]
    rfl
  -- The walk stops at the Port-Address, whatever comes after it.
  rw [decode_output h, walk_append]
  generalize walk frontParts (data.drop 10) = walked at hf
  obtain ⟨_ | _, passed⟩ := walked
  · obtain rfl := Except.error.inj hf
    rfl
  · cases hf

theorem decode_of_no_length (h : HasOpcode data 0x5000) (hl : 16 ≤ data.length)
    (hlt : data.length < 18) (hp : littleValue (between data 14 16) = port.value) :
    decode data = .error (.endOfInput (.int 2) (.int (data.length - 16 : Nat))) := by
  have hw : walk [lengthPart] ((data.drop 10).drop 6) =
      (.error (.endOfInput (.int 2) (.int (data.length - 16 : Nat))), 0) := by
    have hr : ((data.drop 10).drop 6).length = data.length - 16 := by
      rw [List.drop_drop, List.length_drop]
    have hs : data.length - 16 < lengthPart.width := show _ < 2 by omega
    rw [walk_cons_of_lt (by rwa [hr]), hr, Fault.shortage_of_lt hs (by decide)]
    rfl
  -- The Port-Address is in range, so the walk gets to the length and stops there.
  rw [decode_output h, walk_append, walk_front hl hp]
  dsimp only
  rw [hw]
  rfl

/-- The values that were read of an output are kept as they are. -/
theorem keep_outputValues (h : 18 ≤ data.length) :
    FieldsKeep output.fields (outputValues data port) :=
  .cons (keeps_between_version (by omega)) <| .cons (keeps_between_byte (by omega)) <|
    .cons (keeps_between_byte (by omega)) <| .cons (.port port) <| .cons (.length _) <|
    .cons (.payload _) .nil

theorem decode_of_output (h : HasOpcode data 0x5000) (hl : 18 ≤ data.length)
    (hp : littleValue (between data 14 16) = port.value) :
    decode data = .ok (.record output (outputValues data port)) := by
  have hw : walk [lengthPart] ((data.drop 10).drop 6) =
      (.ok [.length (.int (bigValue (between data 16 18)))], 2) := by
    have hr : ((data.drop 10).drop 6).length = data.length - 16 := by
      rw [List.drop_drop, List.length_drop]
    rw [walk_cons_ok (show 2 ≤ _ by omega) rfl, List.drop_drop]
    rfl
  rw [decode_output h, walk_append, walk_front (by omega) hp]
  dsimp only
  rw [hw]
  exact compose_output (keep_outputValues hl)

end

theorem decode_of_cut_timecode {width left : Nat} (h : HasOpcode data 0x9700)
    (hs : shortfall [2, 1, 1, 1, 1, 1, 1, 1] (data.length - 10) = some (width, left)) :
    decode data = .error (.endOfInput (.int width) (.int left)) := by
  have total : ∀ p ∈ versionPart :: List.replicate 6 bytePart, p.Total := by
    simp [total_versionPart, total_bytePart]
  have hf := shortage_of_shortfall hs (by decide)
  rw [← List.length_drop] at hs
  have hw : (walk (versionPart :: List.replicate 7 bytePart) (data.drop 10)).1 =
      .error (.shortage width left) := walk_of_shortfall total hs
  rw [decode_timecode h, hw, hf]
  rfl

/-- The values that were read of a time code are kept as they are. -/
theorem keep_timecodeValues (h : 19 ≤ data.length) :
    FieldsKeep timecode.fields (timecodeValues data) :=
  .cons (keeps_between_version (by omega)) <|
    .cons (keeps_between_byte (by omega)) <| .cons (keeps_between_byte (by omega)) <|
    .cons (keeps_between_byte (by omega)) <| .cons (keeps_between_byte (by omega)) <|
    .cons (keeps_between_byte (by omega)) <| .cons (keeps_between_byte (by omega)) <|
    .cons (keeps_between_byte (by omega)) .nil

theorem decode_of_timecode (h : HasOpcode data 0x9700) (hl : 19 ≤ data.length) :
    decode data = .ok (.record timecode (timecodeValues data)) := by
  have hd : denoteAll (versionPart :: List.replicate 7 bytePart) (data.drop 10) =
      .ok (timecodeValues data) := by
    simp only [denoteAll, List.replicate, versionPart, bytePart, List.drop_drop]
    rfl
  have hf : ((versionPart :: List.replicate 7 bytePart).map Part.width).sum ≤
      (data.drop 10).length := by
    rw [List.length_drop]
    change 9 ≤ data.length - 10
    omega
  rw [decode_timecode h, walk_eq_of_fit hf hd]
  exact compose_timecode (keep_timecodeValues hl)

/-! ### The grammar -/

/-- Decoding gives what a datagram reads as. -/
theorem decode_of_readsAs {r : Except Fault Value} (h : ReadsAs data r) : decode data = r := by
  cases h with
  | noHeader hl => exact decode_of_lt hl
  | badHeader hl hh => exact decode_of_ne_header hl hh
  | noOpcode hl hlt hh => exact decode_of_no_opcode hl hlt hh
  | unknownOpcode h h1 h2 => rw [decode_of_opcode h, ofOpcode?_eq_none h1 h2]
  | cutOutput h hs => exact decode_of_cut_output h hs
  | badPort h hl hp hlt => exact decode_of_bad_port h hl hp hlt
  | noLength h hl hlt hp =>
    have hv : littleValue (between data 14 16) = (⟨_, hp⟩ : PortAddress).value := rfl
    exact decode_of_no_length h hl hlt hv
  | output h hl hp => exact decode_of_output h hl hp
  | cutTimecode h hs => exact decode_of_cut_timecode h hs
  | timecode h hl => exact decode_of_timecode h hl

theorem exists_readsAs_output (h : HasOpcode data 0x5000) : ∃ r, ReadsAs data r := by
  cases hs : shortfall [2, 1, 1, 2] (data.length - 10) with
  | some cut => exact ⟨_, .cutOutput h hs⟩
  | none =>
    have hl : 6 ≤ data.length - 10 := shortfall_eq_none_iff.mp hs
    rcases Nat.lt_or_ge 0x7FFF (littleValue (between data 14 16)) with hp | hp
    · exact ⟨_, .badPort h (by omega) rfl hp⟩
    rcases Nat.lt_or_ge data.length 18 with hlt | hge
    · exact ⟨_, .noLength h (by omega) hlt hp⟩
    · have hv : littleValue (between data 14 16) = (⟨_, hp⟩ : PortAddress).value := rfl
      exact ⟨_, .output h hge hv⟩

theorem exists_readsAs_timecode (h : HasOpcode data 0x9700) : ∃ r, ReadsAs data r := by
  cases hs : shortfall [2, 1, 1, 1, 1, 1, 1, 1] (data.length - 10) with
  | some cut => exact ⟨_, .cutTimecode h hs⟩
  | none =>
    have hl : 9 ≤ data.length - 10 := shortfall_eq_none_iff.mp hs
    exact ⟨_, .timecode h (by omega)⟩

/-- Every datagram reads as something. -/
theorem exists_readsAs (data : Bytes) : ∃ r, ReadsAs data r := by
  rcases Nat.lt_or_ge data.length 8 with h8 | h8
  · exact ⟨_, .noHeader h8⟩
  by_cases hh : between data 0 8 = header
  swap
  · exact ⟨_, .badHeader h8 hh⟩
  rcases Nat.lt_or_ge data.length 10 with h10 | h10
  · exact ⟨_, .noOpcode h8 h10 hh⟩
  have h : HasOpcode data (littleValue (between data 8 10)) := ⟨h10, hh, rfl⟩
  by_cases h1 : littleValue (between data 8 10) = 0x5000
  · rw [h1] at h
    exact exists_readsAs_output h
  by_cases h2 : littleValue (between data 8 10) = 0x9700
  · rw [h2] at h
    exact exists_readsAs_timecode h
  · exact ⟨_, .unknownOpcode h h1 h2⟩

theorem readsAs_decode (data : Bytes) : ReadsAs data (decode data) := by
  obtain ⟨r, hr⟩ := exists_readsAs data
  rwa [decode_of_readsAs hr]

theorem isProtocol_of_readsAs {fault : Fault} (h : ReadsAs data (.error fault)) :
    fault.isProtocol = true := by
  cases h <;> rfl

theorem hasHeader_iff : hasHeader data = true ↔ between data 0 8 = header := by
  rw [hasHeader, beq_iff_eq]
  rfl

/-- A datagram has the header exactly if it is not refused for it. -/
theorem hasHeader_iff_of_readsAs {r : Except Fault Value} (h : ReadsAs data r) :
    hasHeader data = true ↔
      (∀ received, r ≠ .error (.badHeader received)) ∧
        r ≠ .error (.endOfInput (.int 8) (.int data.length)) := by
  rw [hasHeader_iff]
  have room (hh : between data 0 8 = header) : 8 ≤ data.length := by
    have hl := congrArg List.length hh
    simp only [between, List.drop_zero, List.length_take, header, List.length_cons] at hl
    omega
  cases h with
  | noHeader hl =>
    have hh : between data 0 8 ≠ header := fun hh => absurd (room hh) (not_le.mpr hl)
    simp [hh]
  | badHeader hl hh => simp [hh]
  | noOpcode hl hlt hh => simp [hh]
  | cutOutput h hs =>
    -- No field is as wide as the header.
    have hw := mem_of_shortfall hs
    have hne : ∀ width : Nat, width ∈ [2, 1, 1, 2] → (width : Int) ≠ 8 := by simp
    simp [h.2.1, hne _ hw]
  | cutTimecode h hs =>
    have hw := mem_of_shortfall hs
    have hne : ∀ width : Nat, width ∈ [2, 1, 1, 1, 1, 1, 1, 1] → (width : Int) ≠ 8 := by simp
    simp [h.2.1, hne _ hw]
  | unknownOpcode h | badPort h | noLength h | output h | timecode h => simp [h.2.1]

/-- A time code is told by the first 19 bytes of a datagram. -/
theorem readsAs_take_append (h : HasOpcode data 0x9700) (hl : 19 ≤ data.length) (tail : Bytes) :
    ReadsAs (data.take 19 ++ tail) (.ok (.record timecode (timecodeValues data))) := by
  have ht : (data.take 19).length = 19 := List.length_take_of_le hl
  have hb {start stop : Nat} (hs : stop ≤ 19) :
      between (data.take 19 ++ tail) start stop = between data start stop := by
    rw [between_append (hs.trans ht.ge), between_take hs]
  have hv : timecodeValues (data.take 19 ++ tail) = timecodeValues data := by
    unfold timecodeValues
    iterate 8 rw [hb (by decide)]
  have hlen : 19 ≤ (data.take 19 ++ tail).length := by
    rw [List.length_append, ht]
    omega
  obtain ⟨-, hh, ho⟩ := h
  rw [← hb (by decide)] at hh ho
  rw [← hv]
  exact .timecode ⟨by omega, hh, ho⟩ hlen

/-- **The grammar of packets.** Decoding gives what a datagram reads as and nothing else; what is
refused is refused with a fault of the protocol. A datagram with the opcode of a time code is
accepted exactly if it has 19 bytes, and only these matter. A datagram has the header exactly if it
is refused neither for having another one nor for having no room for it. -/
theorem decode_grammar (data : Bytes) :
    (∀ r, decode data = r ↔ ReadsAs data r) ∧
    (∀ fault, decode data = .error fault → fault.isProtocol = true) ∧
    (HasOpcode data 0x9700 →
      ((∃ command, decode data = .ok command) ↔ 19 ≤ data.length) ∧
      (19 ≤ data.length → ∀ tail, decode (data.take 19 ++ tail) = decode data)) ∧
    (hasHeader data = true ↔
      (∀ received, decode data ≠ .error (.badHeader received)) ∧
        decode data ≠ .error (.endOfInput (.int 8) (.int data.length))) := by
  have hd := readsAs_decode data
  refine ⟨?_, ?_, ?_, hasHeader_iff_of_readsAs hd⟩
  · intro r
    refine ⟨?_, decode_of_readsAs⟩
    rintro rfl
    exact hd
  · intro fault hf
    rw [hf] at hd
    exact isProtocol_of_readsAs hd
  · intro h
    refine ⟨⟨?_, ?_⟩, ?_⟩
    · rintro ⟨command, hc⟩
      by_contra hl
      obtain ⟨⟨width, left⟩, hs⟩ : ∃ cut,
          shortfall [2, 1, 1, 1, 1, 1, 1, 1] (data.length - 10) = some cut := by
        rw [← Option.ne_none_iff_exists', ne_eq, shortfall_eq_none_iff]
        change ¬ 9 ≤ data.length - 10
        omega
      rw [decode_of_cut_timecode h hs] at hc
      cases hc
    · intro hl
      exact ⟨_, decode_of_timecode h hl⟩
    · intro hl tail
      rw [decode_of_timecode h hl]
      exact decode_of_readsAs (readsAs_take_append h hl tail)

end DmxNet.Packet
