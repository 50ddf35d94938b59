import DmxNet.Fault.Message
import DmxNet.Packet.Description
import DmxNet.Proofs.Packet.Decoding
import DmxNet.Proofs.PortAddress

/-!
# Descriptions of decoded commands

What is said of a command is what it holds: of an output its heading, the number in its length
field and its levels (`describe_output`), of a time code its stream, its clock, its type and the
frame rate of that (`describe_stamp`). So every command that was decoded has a description
(`exists_description`), and every reason for which a datagram is refused has a text
(`exists_text_of_readsAs`).
-/

namespace DmxNet

namespace Packet

/-! ### Descriptions -/

/-- What is said of an output. -/
theorem describe_output (h : Heading) (size : Int) (data : Bytes) :
    describe (h.command (.int size) data) =
      .ok (.output (bigValue h.version) (.int h.sequence.toNat) (.int h.physical.toNat) h.port size
        data) := rfl

/-- The clock of a time code: two places for each of its numbers, or more. -/
def Stamp.clock (t : Stamp) : String :=
  Digits.twoPlaces t.hours.toNat ++ ":" ++ Digits.twoPlaces t.minutes.toNat ++ ":" ++
    Digits.twoPlaces t.seconds.toNat ++ ":" ++ Digits.twoPlaces t.frames.toNat

theorem plain_stamp (t : Stamp) : t.command.plain = .ok t.clock := by
  rw [Value.plain, Stamp.command, Value.render, if_pos (by simp)]
  rfl

/-- What is said of a time code. -/
theorem describe_stamp (t : Stamp) :
    describe t.command =
      .ok (.timecode (bigValue t.version) (.int t.stream.toNat) t.clock (.int t.keyType.toNat)
        (frameRate? (.int t.keyType.toNat))) := by
  have hd : describe t.command = (t.command.plain >>= fun clock =>
      .ok (.timecode (bigValue t.version) (.int t.stream.toNat) clock (.int t.keyType.toNat)
        (frameRate? (.int t.keyType.toNat)))) := rfl
  rw [hd, plain_stamp]
  rfl

/-- Every command that was decoded has a description. -/
theorem exists_description {packet : Bytes} {command : Value} (h : decode packet = .ok command) :
    ∃ description, describe command = .ok description := by
  rcases decode_eq_ok_iff.mp h with ⟨heading, size, data, -, -, rfl⟩ | ⟨t, tail, -, rfl⟩
  · exact ⟨_, describe_output heading size data⟩
  · exact ⟨_, describe_stamp t⟩

/-! ### Texts of refusals -/

/-- Every reason for which a datagram is refused has a text. All its numbers have a few digits. -/
theorem exists_text_of_readsAs {packet : Bytes} {fault : Fault}
    (h : ReadsAs packet (.error fault)) : ∃ reason, fault.text = .ok reason := by
  have endOfInput {needed available : Nat} (ha : available < needed) (hn : needed < 65536) :
      ∃ reason, (Fault.endOfInput (.int needed) (.int available)).text = .ok reason :=
    Fault.exists_text_endOfInput ha (Digits.writable_of_lt hn)
  have shortfall {widths : List Nat} {left width rest : Nat}
      (hs : Part.shortfall widths left = some (width, rest)) (small : ∀ w ∈ widths, w < 65536) :
      ∃ reason, (Fault.endOfInput (.int width) (.int rest)).text = .ok reason :=
    endOfInput (Part.lt_of_shortfall hs) (small width (Part.mem_of_shortfall hs))
  cases h with
  | noHeader hl => exact endOfInput hl (by decide)
  | noOpcode _ hl _ => exact endOfInput (show packet.length - 8 < 2 by omega) (by decide)
  | noLength _ _ hl _ => exact endOfInput (show packet.length - 16 < 2 by omega) (by decide)
  | cutOutput _ hs => exact shortfall hs (by decide)
  | cutTimecode _ hs => exact shortfall hs (by decide)
  | badHeader =>
    rw [Fault.text, Value.shown, Value.render]
    exact ⟨_, rfl⟩
  | unknownOpcode => exact ⟨_, rfl⟩
  | badPort _ _ hport _ =>
    have hp : littleValue (between packet 14 16) < 65536 := littleValue_take_lt _ 2
    have hl : (Value.int 0x7FFF).plain = .ok _ :=
      Value.plain_int_of_lt (show 0x7FFF < 65536 by decide)
    rw [← hport, Fault.text, hl, Value.plain_int_of_lt hp]
    exact ⟨_, rfl⟩

end Packet

end DmxNet
