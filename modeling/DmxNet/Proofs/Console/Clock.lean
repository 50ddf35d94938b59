import DmxNet.Proofs.Console.Coding
import DmxNet.Proofs.Console.Session
import DmxNet.Proofs.Numeric.Digits

/-!
# Clocks of time codes

The text of a time code is its clock: hours, minutes, seconds and frames with colons between them.
The four numbers may be any, since a field may be given other numbers than it can send; each is
written in two places, or in more. No number has a colon, so the text falls into the four again
(`splitOn_clock`), and each part spells its number and no other. Two time codes have the same text
only if they show the same numbers.

A time code that is sent is answered with its text, and its packet is described with the same text,
though the wire has the numbers the other way round (`clock_unambiguous`).
-/

namespace DmxNet

/-! ### Texts of numbers -/

/-- A text in ASCII is folded to itself. -/
theorem Text.fold_eq_self {cs : List Char} (h : ∀ c ∈ cs, c.toNat < 128) : fold cs = cs := by
  have same (c : Char) (hc : c ∈ cs) : foldChar c = c := if_pos (h c hc)
  rw [fold, List.map_congr_left same, List.map_id']

/-- The number that a text spells is what the text becomes where a whole number is asked for. -/
theorem Digits.Spells.toInteger_eq {cs : List Char} {n : Int} (h : Spells cs n)
    (few : (cs.filter Char.isDigit).length ≤ limit) :
    (Value.text (String.ofList cs)).toInteger = .ok n := by
  have ascii (c : Char) (hc : c ∈ cs) : c.toNat < 128 := by
    rcases h.isDigit_or_eq hc with hd | rfl
    · have high := (Char.isDigit_iff_toNat.mp hd).2
      exact high.trans_lt (by decide)
    · decide
  have read : Literal.integerOfText (String.ofList cs) = .ok n := by
    rw [Literal.integerOfText, String.toList_ofList, Text.fold_eq_self ascii, h.integer_eq few]
  rw [Value.toInteger, Scalar.toInteger, read]
  rfl

/-- A whole number is written in two places, or more, whatever its kind. -/
theorem Value.twoPlaces_of_whole {v : Value} {n : Int} (h : v.whole = .ok n) :
    v.twoPlaces = .ok (Digits.twoPlaces n) := by
  obtain ⟨s, rfl, hs⟩ := Value.whole_eq_ok_iff.mp h
  cases s with
  | bool b =>
    cases hs
    rfl
  | int m =>
    cases hs
    rfl
  | none | float | text | bytes | port => cases hs

namespace Packet

/-! ### Clocks -/

/-- Four numbers of a clock, in range or not. -/
@[ext]
structure Instant where
  hours : Int
  minutes : Int
  seconds : Int
  frames : Int
  deriving DecidableEq

/-- The numbers in the order of their text. -/
def Instant.numbers (t : Instant) : List Int := [t.hours, t.minutes, t.seconds, t.frames]

/-- A record has a whole number under a name. -/
def Holds (v : Value) (name : String) (n : Int) : Prop :=
  ∃ w, v.field? name = some w ∧ w.whole = .ok n

/-- A time code that shows four numbers, whatever it holds besides. -/
structure Shows (v : Value) (t : Instant) : Prop where
  timecode : ∃ vs, v = .record Packet.timecode vs
  hours : Holds v "hours" t.hours
  minutes : Holds v "minutes" t.minutes
  seconds : Holds v "seconds" t.seconds
  frames : Holds v "frames" t.frames

/-- The parts of a clock's text. -/
def Instant.parts (t : Instant) : List (List Char) := t.numbers.map (Digits.filled 2 10)

/-- The text of a clock. -/
def Instant.text (t : Instant) : String :=
  Digits.twoPlaces t.hours ++ ":" ++ Digits.twoPlaces t.minutes ++ ":" ++
    Digits.twoPlaces t.seconds ++ ":" ++ Digits.twoPlaces t.frames

section

variable {v w : Value} {t u : Instant} {name : String} {n : Int}

theorem Holds.clockPart (h : Holds v name n) : v.clockPart name = .ok (Digits.twoPlaces n) := by
  obtain ⟨w, hf, hw⟩ := h
  rw [Value.clockPart, hf]
  exact Value.twoPlaces_of_whole hw

/-- A time code has the text of its clock. -/
theorem Shows.plain_eq (h : Shows v t) : v.plain = .ok t.text := by
  obtain ⟨vs, rfl⟩ := h.timecode
  rw [Value.plain, Value.render, if_pos (by simp), Value.clock, h.hours.clockPart,
    h.minutes.clockPart, h.seconds.clockPart, h.frames.clockPart]
  rfl

theorem Instant.toList_text (t : Instant) : t.text.toList = [':'].intercalate t.parts := by
  simp [text, parts, numbers, Digits.twoPlaces, List.intercalate]

/-- **The text falls into its parts.** -/
theorem splitOn_clock (t : Instant) : t.text.toList.splitOn ':' = t.parts := by
  rw [t.toList_text]
  refine List.splitOn_intercalate ':' (fun part hp hc => ?_) (by simp [Instant.parts, Instant.numbers])
  obtain ⟨n, -, rfl⟩ := List.mem_map.mp hp
  rcases (Digits.spells_filled 2 n).isDigit_or_eq hc with hd | he
  · exact absurd hd (by decide)
  · exact absurd he (by decide)

/-- The text tells the numbers. -/
theorem Instant.text_injective (h : t.text = u.text) : t = u := by
  have hp : t.parts = u.parts := by rw [← splitOn_clock, h, splitOn_clock]
  have filled {m n : Int} (h : Digits.filled 2 10 m = Digits.filled 2 10 n) : m = n :=
    (Digits.spells_filled 2 m).unique (h ▸ Digits.spells_filled 2 n)
  simp only [parts, numbers, List.map_cons, List.map_nil, List.cons.injEq] at hp
  obtain ⟨hh, hm, hs, hf, -⟩ := hp
  exact Instant.ext (filled hh) (filled hm) (filled hs) (filled hf)

/-- Time codes have the same text if they show the same numbers, and only then. -/
theorem Shows.plain_eq_iff (hv : Shows v t) (hw : Shows w u) : v.plain = w.plain ↔ t = u := by
  rw [hv.plain_eq, hw.plain_eq, Except.ok.injEq]
  constructor
  · intro h
    exact Instant.text_injective h
  · rintro rfl
    rfl

end

end Packet

namespace Console

open Procedure Service

/-! ### Time codes that are sent -/

/-- What sending a time code comes to: the packet of a stamp is sent and its clock answered, or
nothing was sent that the script let through. -/
theorem sendTimecode_cases (c : Console) (hours minutes seconds frames keyType stream : Value) :
    (∃ (t : Packet.Stamp) (socket : Nat) (address : Address),
      ((sendTimecode hours minutes seconds frames keyType stream).run c).1 =
          .ok (.sentTimecode t.packet.length t.clock stream) ∧
        ((sendTimecode hours minutes seconds frames keyType stream).run c).2.network.calls =
          c.network.calls ++ [.send socket t.packet address]) ∨
      ∃ calls,
        ((sendTimecode hours minutes seconds frames keyType stream).run c).2.network.calls =
          c.network.calls ++ calls ∧
        ∀ call ∈ calls, c.network.script.failsToSend call = true := by
  have report (fault : Fault) (d : Console) :
      ((if fault.isRefusal = true then pure (.refused fault.message) else throw fault :
        Service Reply).run d).2 = d := by
    split <;> rfl
  rw [sendTimecode, run_bind, run_openConnection]
  cases ho : c.open? with
  | none => exact .inr ⟨[], (List.append_nil _).symm, by simp⟩
  | some connection =>
    dsimp only [orFault]
    rw [run_bind, run_outcome, composeAndSendPosition, run_bind, run_conclude]
    cases hp : position hours minutes seconds frames keyType stream with
    | error fault =>
      dsimp only
      rw [report]
      exact .inr ⟨[], (List.append_nil _).symm, by simp⟩
    | ok command =>
      obtain ⟨t, rfl⟩ := exists_stamp_of_position hp
      dsimp only
      rw [run_bind, run_through]
      rcases Transport.sendCommand_cases t.command ⟨connection, c.network⟩ with
        ⟨packet, socket, log, encoded, -, -, hr⟩ | ⟨fault, f, hr, adds⟩
      · rw [Packet.encode_stamp] at encoded
        obtain rfl := Except.ok.inj encoded
        simp only [hr, run_pure, run_bind, run_conclude, Packet.plain_stamp]
        exact .inl ⟨t, socket, _, rfl, rfl⟩
      · rw [hr]
        dsimp only
        rw [report]
        exact .inr adds.network.calls_eq

/-- A text that spells the packet of a stamp is answered with the clock of the stamp. -/
theorem decodePacket_stamp {s : String} (t : Packet.Stamp) (h : Hex.Spells s.toList t.packet) :
    decodePacket (.text s) =
      .ok (.described (.timecode (bigValue t.version) (.int t.stream.toNat) t.clock
        (.int t.keyType.toNat) (Packet.frameRate? (.int t.keyType.toNat)))) := by
  rw [decodePacket_of_spells h, told, Packet.decode_stamp_packet]
  dsimp only
  rw [Packet.describe_stamp]
  rfl

/-! ### Clocks -/

/-- **Clocks are unambiguous.** A time code that shows any four whole numbers has a text, which
falls at its colons into four parts of two characters or more: the numbers, in decimal, in their
order. Two time codes have the same text if they show the same numbers, and only then. And the text
that sending a time code is answered with is the one that is said of the packet that was sent,
however its bytes are spelled. -/
theorem clock_unambiguous :
    (∀ (v : Value) (t : Packet.Instant), Packet.Shows v t →
      ∃ text parts, v.plain = .ok text ∧ text.toList.splitOn ':' = parts ∧
        List.Forall₂ (fun part n => 2 ≤ part.length ∧ Digits.Spells part n ∧
            (Digits.writable n = true → (Value.text (String.ofList part)).toInteger = .ok n))
          parts [t.hours, t.minutes, t.seconds, t.frames]) ∧
    (∀ (v w : Value) (t u : Packet.Instant), Packet.Shows v t → Packet.Shows w u →
      (v.plain = w.plain ↔ t = u)) ∧
    ∀ (c : Console) (hours minutes seconds frames keyType stream : Value),
      ∃ calls,
        ((sendTimecode hours minutes seconds frames keyType stream).run c).2.network.calls =
          c.network.calls ++ calls ∧
        ∀ socket packet address, .send socket packet address ∈ calls →
          c.network.script (.send socket packet address) = none →
          ∃ bytes clock,
            ((sendTimecode hours minutes seconds frames keyType stream).run c).1 =
              .ok (.sentTimecode bytes clock stream) ∧
            ∀ s : String, Hex.Spells s.toList packet → ∃ version id type rate,
              decodePacket (.text s) = .ok (.described (.timecode version id clock type rate)) := by
  refine ⟨fun v t hv => ?_, fun v w t u hv hw => hv.plain_eq_iff hw,
    fun c hours minutes seconds frames keyType stream => ?_⟩
  · refine ⟨t.text, t.parts, hv.plain_eq, Packet.splitOn_clock t, ?_⟩
    have part (n : Int) : 2 ≤ (Digits.filled 2 10 n).length ∧ Digits.Spells (Digits.filled 2 10 n) n ∧
        (Digits.writable n = true →
          (Value.text (String.ofList (Digits.filled 2 10 n))).toInteger = .ok n) :=
      ⟨Digits.le_length_filled 2 10 n, Digits.spells_filled 2 n, fun short =>
        (Digits.spells_filled 2 n).toInteger_eq (Digits.digits_filled_le (by decide) short)⟩
    exact .cons (part _) <| .cons (part _) <| .cons (part _) <| .cons (part _) .nil
  · rcases sendTimecode_cases c hours minutes seconds frames keyType stream with
      ⟨t, socket, address, reply, calls⟩ | ⟨calls, hc, failed⟩
    · refine ⟨_, calls, fun socket' packet address' hm _ => ?_⟩
      cases List.mem_singleton.mp hm
      exact ⟨_, _, reply, fun s hs => ⟨_, _, _, _, decodePacket_stamp t hs⟩⟩
    · refine ⟨calls, hc, fun socket packet address hm passes => ?_⟩
      have fails := failed _ hm
      rw [Script.failsToSend, passes] at fails
      simp at fails

/-- A time code that was given numbers which no time code can send. -/
def strayTimecode (seconds : Value) : Value :=
  .record Packet.timecode
    [.bytes Packet.version, .int 0, .text "main", .int (-7), seconds, .int 123, .int 5, .none]

theorem shows_strayTimecode (seconds : Value) (n : Int) (h : seconds.whole = .ok n) :
    Packet.Shows (strayTimecode seconds) ⟨5, 123, n, -7⟩ :=
  ⟨⟨_, rfl⟩, ⟨_, rfl, rfl⟩, ⟨_, rfl, rfl⟩, ⟨_, rfl, h⟩, ⟨_, rfl, rfl⟩⟩

/-- A console with an open connection on a network on which nothing fails. -/
def onAir : Console := { connection := some ⟨{}, some 0, true⟩ }

/-- The packet of the first frame after an hour. -/
def hourPacket : Bytes :=
  [65, 114, 116, 45, 78, 101, 116, 0, 0, 0x97, 0, 14, 0, 9, 1, 0, 0, 1, 3]

theorem clock_unambiguous_stray :
    (∃ text parts, (strayTimecode (.bool true)).plain = .ok text ∧
      text.toList.splitOn ':' = parts ∧
      List.Forall₂ (fun part n => 2 ≤ part.length ∧ Digits.Spells part n ∧
          (Digits.writable n = true → (Value.text (String.ofList part)).toInteger = .ok n))
        parts [5, 123, 1, -7]) ∧
    (strayTimecode (.bool true)).plain = (strayTimecode (.int 1)).plain ∧
    (strayTimecode (.int 1)).plain ≠ (strayTimecode (.int 10)).plain ∧
    ∃ bytes clock,
      ((sendTimecode (.int 1) (.int 0) (.int 0) (.text "1") (.int 3) (.int 9)).run onAir).1 =
        .ok (.sentTimecode bytes clock (.int 9)) ∧
      ∃ version id type rate, decodePacket (.text (Hex.encode hourPacket)) =
        .ok (.described (.timecode version id clock type rate)) := by
  obtain ⟨split, alike, sent⟩ := clock_unambiguous
  have one := shows_strayTimecode (.bool true) 1 rfl
  have whole := shows_strayTimecode (.int 1) 1 rfl
  have ten := shows_strayTimecode (.int 10) 10 rfl
  refine ⟨split _ _ one, (alike _ _ _ _ one whole).mpr rfl, fun h => ?_, ?_⟩
  · exact absurd ((alike _ _ _ _ whole ten).mp h) (by decide)
  · obtain ⟨calls, hc, told⟩ :=
      sent onAir (.int 1) (.int 0) (.int 0) (.text "1") (.int 3) (.int 9)
    obtain rfl : [.send 0 hourPacket ⟨.text "255.255.255.255", .int 6454⟩] = calls := hc
    obtain ⟨bytes, clock, reply, said⟩ := told _ _ _ (List.mem_singleton.mpr rfl) rfl
    exact ⟨bytes, clock, reply, said _ (Hex.spells_encode hourPacket)⟩

end Console

end DmxNet
