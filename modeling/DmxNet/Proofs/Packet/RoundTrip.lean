import DmxNet.Proofs.Packet.Decoding
import DmxNet.Proofs.Schema.Comparing

/-!
# Round trips

What comes back of a composed command that is encoded and decoded. A time code comes back as it
was. An output comes back with the size on the wire for a length and with its channel data padded
(`Heading.echo`), and stays like that from then on. It equals what was sent only if nothing was
padded and the length was right; it agrees with it if the length was not known as well.
-/

namespace DmxNet.Packet

theorem padded_eq_iff {data : Bytes} : padded data = data ↔ data.length % 2 = 0 := by
  rw [padded, List.append_right_eq_self, List.replicate_eq_nil_iff]

/-! ### Comparing commands -/

section

variable (h : Heading) {a b : Value} {same : Bool}

/-- Outputs of one heading are equal if their lengths and their channel data are. -/
theorem askEquals_command (hs : a.askAlike b = .ok same) (d e : Bytes) :
    (h.command a d).askEquals (h.command b e) = .ok (same && decide (d = e)) := by
  have hl : (Value.length a).askAlike (.length b) = .ok same := by
    rw [Value.askAlike_length, hs]
  have hv : askAllAlike (h.values a d) (h.values b e) =
      .ok (true && (true && (true && (true && (same && (decide (d = e) && true)))))) :=
    askAllAlike_cons (Value.askAlike_self (by simp)) <|
      askAllAlike_cons (Value.askAlike_self (by simp)) <|
      askAllAlike_cons (Value.askAlike_self (by simp)) <|
      askAllAlike_cons (Value.askAlike_self (by simp)) <|
      askAllAlike_cons hl <| askAllAlike_cons (Value.askAlike_payload d e) rfl
  rw [Bool.true_and, Bool.true_and, Bool.true_and, Bool.true_and, Bool.and_true] at hv
  exact hv

/-- Outputs of one heading agree if their lengths do and their channel data is equal. -/
theorem agrees_command (hs : lengthsAgree a b = .ok same) (d e : Bytes) :
    (h.command a d).agrees (h.command b e) = .ok (same && decide (d = e)) := by
  have hv : agreeAll output.fields (h.values a d) (h.values b e) =
      .ok (true && (true && (true && (true && (same && (decide (d = e) && true)))))) :=
    agreeAll_cons rfl (Value.askEquals_self (by simp)) <|
      agreeAll_cons rfl (Value.askEquals_self (by simp)) <|
      agreeAll_cons rfl (Value.askEquals_self (by simp)) <|
      agreeAll_cons rfl (Value.askEquals_self (by simp)) <|
      agreeAll_cons rfl hs <| agreeAll_cons rfl (Value.askAlike_payload d e) rfl
  rw [Bool.true_and, Bool.true_and, Bool.true_and, Bool.true_and, Bool.and_true] at hv
  exact hv

end

/-- A time code equals itself. -/
theorem askEquals_stamp (t : Stamp) : t.command.askEquals t.command = .ok true := by
  have hv : askAllAlike t.values t.values = .ok true :=
    askAllAlike_self (by simp [Stamp.values, Value.askAlike_self])
  exact hv

/-! ### What comes back -/

/-- What comes back of an output that holds something parsed for its length, and channel data. -/
structure Returned (sent parsed : Value) (data : Bytes) (back : Value) : Prop where
  /-- It is an output. -/
  composed : Composed output back
  /-- The fields before the length are the same. -/
  front_eq : ∀ name ∈ ["version", "sequence", "physical", "port_address"],
    back.field? name = sent.field? name
  /-- The length is the size on the wire. -/
  length_eq : back.field? "length" = some (.length (.int (evenSize data.length)))
  /-- The channel data is padded. -/
  data_eq : back.field? "data" = some (.payload (.bytes (padded data)))
  /-- It has the same packet. -/
  packet_eq : encode back = encode sent
  /-- It comes back as it is. -/
  stable : encode back >>= decode = .ok back ∧ back.askEquals back = .ok true
  /-- It equals what was sent, and the other way around, if nothing was padded and the length was
  right. -/
  equals_iff :
    Answers (back.askEquals sent) (data.length % 2 = 0 ∧ parsed.whole = .ok data.length) ∧
      Answers (sent.askEquals back) (data.length % 2 = 0 ∧ parsed.whole = .ok data.length)
  /-- It agrees with what was sent, and the other way around, if nothing was padded and the length
  was right or not known. -/
  agrees_iff :
    Answers (back.agrees sent)
        (data.length % 2 = 0 ∧ (parsed = .none ∨ parsed.whole = .ok data.length)) ∧
      Answers (sent.agrees back)
        (data.length % 2 = 0 ∧ (parsed = .none ∨ parsed.whole = .ok data.length))

section

variable (h : Heading) {parsed : Value} {data : Bytes}

/-- The output that comes back of those with a heading and channel data. -/
def Heading.echo (h : Heading) (data : Bytes) : Value :=
  h.command (.int (evenSize data.length)) (padded data)

theorem encode_echo (h1 : 1 ≤ data.length) (h2 : data.length ≤ 512) :
    encode (h.echo data) = .ok (h.packet (evenSize data.length) (padded data)) := by
  have he := evenSize_mod_two data.length
  have h3 : 1 ≤ (padded data).length := by
    rw [length_padded]
    exact h1.trans (le_evenSize _)
  have h4 : (padded data).length ≤ 512 := by
    rw [length_padded]
    exact evenSize_le h2
  rw [Heading.echo, encode_output_of_le h _ h3 h4, length_padded, evenSize_of_even he,
    padded_of_even (by rw [length_padded, he])]

theorem decode_echo (h2 : data.length ≤ 512) :
    decode (h.packet (evenSize data.length) (padded data)) = .ok (h.echo data) := by
  rw [decode_packet h ((evenSize_le h2).trans_lt (by decide)), Heading.echo]

theorem askEquals_echo : (h.echo data).askEquals (h.echo data) = .ok true := by
  have hs : (Value.int (evenSize data.length)).askAlike (.int (evenSize data.length)) = .ok true :=
    Value.askAlike_self (by simp)
  have he := askEquals_command h hs (padded data) (padded data)
  rwa [decide_eq_true rfl] at he

/-- An answer on the lengths and one on the channel data, where the size on the wire is the count of
levels unless something was padded. -/
theorem and_decide_padded_iff {same : Bool} {p : Nat → Prop}
    (hs : same = true ↔ p (evenSize data.length)) :
    (same && decide (padded data = data)) = true ↔ data.length % 2 = 0 ∧ p data.length := by
  rw [Bool.and_eq_true, hs, decide_eq_true_eq, padded_eq_iff, and_comm]
  refine and_congr_right fun he => ?_
  rw [evenSize_of_even he]

/-- Equality of what comes back with what was sent. -/
theorem echo_equals (hp : parsed.Parsed) :
    Answers ((h.echo data).askEquals (h.command parsed data))
        (data.length % 2 = 0 ∧ parsed.whole = .ok data.length) ∧
      Answers ((h.command parsed data).askEquals (h.echo data))
        (data.length % 2 = 0 ∧ parsed.whole = .ok data.length) := by
  obtain ⟨same, hl, hr, hs⟩ := exists_askAlike_int hp (evenSize data.length)
  have hb := and_decide_padded_iff (p := fun n => parsed.whole = .ok n) hs
  refine ⟨⟨_, askEquals_command h hl (padded data) data, hb⟩,
    ⟨_, askEquals_command h hr data (padded data), ?_⟩⟩
  rwa [decide_eq_decide.mpr eq_comm]

/-- Agreement of what comes back with what was sent. -/
theorem echo_agrees (hp : parsed.Parsed) :
    Answers ((h.echo data).agrees (h.command parsed data))
        (data.length % 2 = 0 ∧ (parsed = .none ∨ parsed.whole = .ok data.length)) ∧
      Answers ((h.command parsed data).agrees (h.echo data))
        (data.length % 2 = 0 ∧ (parsed = .none ∨ parsed.whole = .ok data.length)) := by
  obtain ⟨same, hl, hr, hs⟩ := exists_lengthsAgree_int hp (evenSize data.length)
  have hb := and_decide_padded_iff (p := fun n => parsed = .none ∨ parsed.whole = .ok n) hs
  refine ⟨⟨_, agrees_command h hl (padded data) data, hb⟩,
    ⟨_, agrees_command h hr data (padded data), ?_⟩⟩
  rwa [decide_eq_decide.mpr eq_comm]

theorem returned_echo (hp : parsed.Parsed) (h1 : 1 ≤ data.length) (h2 : data.length ≤ 512) :
    Returned (h.command parsed data) parsed data (h.echo data) where
  composed := composed_output_iff.mpr ⟨h, _, _, rfl⟩
  front_eq := by
    intro name hn
    simp only [List.mem_cons, List.not_mem_nil, or_false] at hn
    rcases hn with rfl | rfl | rfl | rfl <;> rfl
  length_eq := rfl
  data_eq := rfl
  packet_eq := by rw [encode_echo h h1 h2, encode_output_of_le h parsed h1 h2]
  stable := by
    rw [encode_echo h h1 h2]
    exact ⟨decode_echo h h2, askEquals_echo h⟩
  equals_iff := echo_equals h hp
  agrees_iff := echo_agrees h hp

end

/-- **Decoding undoes encoding.** A composed output of 1 to 512 levels, whose length holds nothing
or any whole number, comes back with its channel data padded and the size on the wire for a length.
A composed time code comes back as it was. -/
theorem decode_encode {c t parsed : Value} {data : Bytes} (hc : Composed output c)
    (hl : c.field? "length" = some (.length parsed)) (hp : parsed.Parsed)
    (hd : c.field? "data" = some (.payload (.bytes data))) (h1 : 1 ≤ data.length)
    (h2 : data.length ≤ 512) (ht : Composed timecode t) :
    (∃ packet back, encode c = .ok packet ∧ decode packet = .ok back ∧
      Returned c parsed data back) ∧
    ∃ packet, encode t = .ok packet ∧ decode packet = .ok t ∧ t.askEquals t = .ok true := by
  obtain ⟨h, parsed', data', rfl⟩ := composed_output_iff.mp hc
  obtain ⟨stamp, rfl⟩ := composed_timecode_iff.mp ht
  have hl' : some (Value.length parsed') = some (.length parsed) := hl
  have hd' : some (Value.payload (.bytes data')) = some (.payload (.bytes data)) := hd
  cases hl'
  cases hd'
  constructor
  · exact ⟨_, h.echo data, encode_output_of_le h parsed h1 h2, decode_echo h h2,
      returned_echo h hp h1 h2⟩
  · exact ⟨stamp.packet, encode_stamp stamp, decode_stamp_packet stamp, askEquals_stamp stamp⟩

theorem decode_encode_of_levels :
    ∃ c t, output.make [("length", .int 3), ("data", .bytes [7, 0, 9])] = .ok c ∧
      timecode.make [("hours", .text "23")] = .ok t ∧
      c.field? "length" = some (.length (.int 3)) ∧ (Value.int 3).Parsed ∧
      c.field? "data" = some (.payload (.bytes [7, 0, 9])) ∧
      (∃ packet back, encode c = .ok packet ∧ decode packet = .ok back ∧
        Returned c (.int 3) [7, 0, 9] back) ∧
      ∃ packet, encode t = .ok packet ∧ decode packet = .ok t ∧ t.askEquals t = .ok true := by
  have hp : (Value.int 3).Parsed := .inr ⟨3, rfl⟩
  refine ⟨_, _, rfl, rfl, rfl, hp, rfl, ?_⟩
  exact decode_encode
    ⟨[("length", .int 3), ("data", .bytes [7, 0, 9])], by simp [Value.Fresh], rfl⟩
    rfl hp rfl (by decide) (by decide) ⟨[("hours", .text "23")], by simp [Value.Fresh], rfl⟩

end DmxNet.Packet
