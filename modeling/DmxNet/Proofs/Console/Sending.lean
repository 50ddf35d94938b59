import DmxNet.Proofs.Console.Composing
import DmxNet.Proofs.Console.Session
import DmxNet.Proofs.Packet.Decoding
import DmxNet.Proofs.Schema.Comparing

/-!
# Sending frames

What a request for a frame comes to. Either nothing goes out, and then connection and sequence
numbers are as they were, or one packet goes out (`Sending`, `sending`). That packet is addressed to
the Port-Address that was asked for and carries the next sequence number for it, which is recorded,
or zero if the frame is not to be numbered.
-/

namespace DmxNet

/-! ### Packets that have a frame in them -/

/-- Only bytes can be sent as channel data. -/
theorem Value.eq_bytes_of_payloadBytes {content : Value} {bs : Bytes}
    (h : content.payloadBytes = .ok bs) : ∃ data, content = .bytes data := by
  obtain ⟨n, -, h⟩ := bind_eq_ok.mp h
  dsimp only at h
  split_ifs at h
  obtain ⟨data, hd, -⟩ := bind_eq_ok.mp h
  unfold asBytes at hd
  split at hd
  · exact ⟨_, rfl⟩
  · cases hd

namespace Packet

/-- The output with a heading, whose channel data has any content. -/
def Heading.holding (h : Heading) (content : Value) : Value :=
  .record output
    [.bytes h.version, .int h.sequence.toNat, .int h.physical.toNat, .port h.port, .length .none,
     .payload content]

/-- An output that has a packet holds bytes. -/
theorem eq_bytes_of_encode_holding {h : Heading} {content : Value} {packet : Bytes}
    (he : encode (h.holding content) = .ok packet) : ∃ data, content = .bytes data := by
  rw [Heading.holding, encode_pieces .output rfl rfl (by simp [Value.isRecord])] at he
  have hj : (joinPieces (Value.pieces output [.bytes h.version, .int h.sequence.toNat,
      .int h.physical.toNat, .port h.port, .length .none, .payload content])).1 = .ok () := by
    cases hr : (joinPieces (Value.pieces output _)).1 with
    | error fault =>
      rw [hr] at he
      cases he
    | ok u => rfl
  obtain ⟨parts, hparts, -⟩ := exists_parts_of_joinPieces_ok hj
  have hmem : content.payloadBytes ∈ parts.map .ok := by
    rw [← hparts]
    simp [Value.pieces, output, Codec.piece, Value.piece]
  obtain ⟨bs, -, hb⟩ := List.mem_map.mp hmem
  exact Value.eq_bytes_of_payloadBytes hb.symm

/-- The Port-Address that the frame in a packet is addressed to, if there is one in it. -/
def destination? (packet : Bytes) : Option Nat :=
  if between packet 8 10 = littleBytes 2 Kind.output.opcode then
    some (littleValue (between packet 14 16))
  else none

/-- The sequence number of the frame in a packet. -/
def sequence? (packet : Bytes) : Option Nat := packet[12]?.map UInt8.toNat

@[simp] theorem destination?_packet (h : Heading) (size : Nat) (data : Bytes) :
    destination? (h.packet size data) = some h.port.value := by
  obtain ⟨-, hopcode, -, -, -, hport, -, -⟩ := between_packet h size data
  have := h.port.value_le
  rw [destination?, hopcode, hport, littleValue_littleBytes_of_lt (by omega)]
  rfl

@[simp] theorem sequence?_packet (h : Heading) (size : Nat) (data : Bytes) :
    sequence? (h.packet size data) = some h.sequence.toNat := by
  obtain ⟨version, sequence, physical, port, hv⟩ := h
  obtain ⟨high, low, rfl⟩ := List.length_eq_two.mp hv
  rfl

end Packet

/-! ### Coercing field by field -/

/-- A whole number is kept as it is. -/
theorem coerceNumber_int {size : Nat} {m : Int} {w : Value} (h : coerceNumber size (.int m) = .ok w) :
    w = .int m := by
  obtain ⟨n, hn, h⟩ := bind_eq_ok.mp h
  obtain rfl := Except.ok.inj hn
  dsimp only at h
  split_ifs at h
  exact (Except.ok.inj h).symm

theorem PortAddress.value_of_ofInt? {n : Int} {p : PortAddress} (h : ofInt? n = some p) :
    (p.value : Int) = n := by
  unfold ofInt? at h
  split_ifs at h with hn
  obtain rfl := Option.some.inj h
  exact Int.toNat_of_nonneg hn.1

theorem coercePort_of_whole {port w : Value} {n : Int} (hp : port.whole = .ok n)
    (h : coercePort port = .ok w) : ∃ p : PortAddress, (p.value : Int) = n ∧ w = .port p := by
  obtain ⟨key, rfl, hk⟩ := Value.whole_eq_ok_iff.mp hp
  have hindex : (Value.scalar key).toIndex = .ok n := by
    cases key <;> cases hk <;> rfl
  unfold coercePort at h
  split at h
  · rename_i p he
    cases he
    cases hk
  · obtain ⟨p, hv, h⟩ := bind_eq_ok.mp h
    obtain ⟨i, hi, hv⟩ := bind_eq_ok.mp hv
    obtain rfl := Except.ok.inj (hindex.symm.trans hi)
    refine ⟨p, PortAddress.value_of_ofInt? ?_, (Except.ok.inj h).symm⟩
    cases ho : PortAddress.ofInt? n with
    | none =>
      rw [ho] at hv
      cases hv
    | some q =>
      rw [ho] at hv
      exact congrArg some (Except.ok.inj hv)

theorem exists_of_coercePayload {v w : Value} (h : coercePayload v = .ok w) :
    ∃ content, w = .payload content := by
  unfold coercePayload at h
  split at h
  · exact ⟨_, (Except.ok.inj h).symm⟩
  · obtain ⟨bs, -, h⟩ := bind_eq_ok.mp h
    exact ⟨.bytes bs, (Except.ok.inj h).symm⟩

/-! ### Keys of the table -/

/-- What is alike a whole number is alike that number, whatever the kind it is given in. -/
theorem Scalar.alike_int {key : Scalar} {n : Int} (hk : key.whole? = some n) (s : Scalar) :
    s.alike key = s.alike (.int n) := by
  cases key with
  | int m =>
    obtain rfl := Option.some.inj hk
    rfl
  | bool b =>
    obtain rfl := Option.some.inj hk
    cases s <;> simp [alike, equals, whole?]
  | _ => cases hk

namespace SequenceTable

theorem last_int (t : SequenceTable) {key : Scalar} {n : Int} (hk : key.whole? = some n) :
    t.last key = t.last (.int n) := by
  simp only [last, Scalar.alike_int hk]

end SequenceTable

namespace Service

open Procedure

theorem run_nextSequence {port : Value} {n : Int} (hp : port.whole = .ok n) (c : Console) :
    (nextSequence port).run c = (.ok (SequenceTable.after (c.sequences.last (.int n))), c) := by
  obtain ⟨key, rfl, hk⟩ := Value.whole_eq_ok_iff.mp hp
  rw [nextSequence, run_bind, ← SequenceTable.last_int _ hk]
  rfl

end Service

/-- The Port-Address of the frame that is asked for, and whether the frame is to be numbered. -/
def Request.frame? : Request → Option (Value × Bool)
  | .sendFrame port _ _ sequenced => some (port, sequenced.truth)
  | .blackout port _ => some (port, true)
  | _ => none

/-- Whether the Port-Address of the frame that is asked for, if there is one, is a whole number. -/
def Request.HasWholePort (request : Request) : Prop :=
  ∀ port numbered, request.frame? = some (port, numbered) → ∃ n, port.whole = .ok n

namespace Console

open Procedure Service

/-- Tools that neither are asked for a frame nor concern the connection only send and receive. -/
theorem adds_serve {request : Request} (hf : request.frame? = none)
    (hc : ∀ settings, request ≠ .connect settings) (hd : request ≠ .disconnect) (c : Console) :
    c.Adds Call.isTraffic (request.serve.run c).2 := by
  cases request with
  | connect settings => exact absurd rfl (hc settings)
  | disconnect => exact absurd rfl hd
  | sendFrame => cases hf
  | blackout => cases hf
  | sendTimecode =>
    exact (leaves_sendTimecode _ _ _ _ _ _ c).mono fun _ h => Bool.or_eq_true_iff.mpr (.inl h)
  | receivePacket =>
    exact (leaves_receivePacket _ c).mono fun _ h => Bool.or_eq_true_iff.mpr (.inr h)
  | status =>
    rw [Request.serve, run_status]
    exact Std.Refl.refl c
  | encodeFrame | decodePacket | opcodes | scene => exact Std.Refl.refl c

/-! ### Composing frames -/

/-- The frames that are composed for a Port-Address. -/
theorem exists_heading_of_frame {n m : Int} {physical port data command : Value}
    (hp : port.whole = .ok n) (hf : frame (.int m) physical port data = .ok command) :
    ∃ (h : Packet.Heading) (content : Value), (h.sequence.toNat : Int) = m ∧
      (h.port.value : Int) = n ∧ command = h.holding content := by
  rw [frame_eq] at hf
  obtain ⟨_, hsequence, hf⟩ := bind_eq_ok.mp hf
  obtain ⟨_, hphysical, hf⟩ := bind_eq_ok.mp hf
  obtain ⟨_, hport, hf⟩ := bind_eq_ok.mp hf
  obtain ⟨_, hdata, hf⟩ := bind_eq_ok.mp hf
  obtain rfl := coerceNumber_int hsequence
  obtain ⟨byte, hm⟩ := exists_byte_of_coerceNumber hsequence
  obtain ⟨input, rfl⟩ := exists_byte_of_coerceNumber hphysical
  obtain ⟨p, hn, rfl⟩ := coercePort_of_whole hp hport
  obtain ⟨content, rfl⟩ := exists_of_coercePayload hdata
  obtain rfl : m = (byte.toNat : Int) := by
    injection hm with hm
    injection hm
  exact ⟨⟨Packet.version, byte, input, p, rfl⟩, content, rfl, hn, (Except.ok.inj hf).symm⟩

/-! ### Sending frames -/

/-- The sequence number of the next frame to a Port-Address that is numbered. -/
def upcoming (c : Console) (n : Int) : Int := SequenceTable.after (c.sequences.last (.int n))

/-- Whether a reply says that a frame was sent. -/
def isDelivery : Except Fault Reply → Bool
  | .ok (.sentOutput ..) => true
  | _ => false

/-- What a request for a frame to a Port-Address comes to. -/
inductive Sending (c : Console) (n : Int) (numbered : Bool) : Except Fault Reply × Console → Prop
    where
  /-- Nothing went out. -/
  | unsent {reply : Except Fault Reply} {d : Console} (adds : c.Adds c.network.script.failsToSend d)
      (undelivered : isDelivery reply = false) : Sending c n numbered (reply, d)
  /-- One packet went out from the open connection, and its number was recorded. -/
  | sent {connection : Connection} {socket : Nat} {h : Packet.Heading} {size : Nat}
      {levels : Bytes} {log : List LogLine} {key : Scalar} {reply : Except Fault Reply}
      (opened : c.open? = some connection) (held : connection.socket = some socket)
      (port : (h.port.value : Int) = n)
      (sequence : (h.sequence.toNat : Int) = if numbered then c.upcoming n else 0)
      (passed : c.network.script (.send socket (h.packet size levels)
        (Transport.target connection.settings)) = none)
      (whole : key.whole? = some n) (delivered : isDelivery reply = true) :
    Sending c n numbered (reply, { c with
      sequences := if numbered then c.sequences.put key h.sequence.toNat else c.sequences
      network := { c.network with
        calls := c.network.calls ++
          [.send socket (h.packet size levels) (Transport.target connection.settings)]
        log := log } })

section

variable {c : Console} {connection : Connection} {port : Value} {n : Int}

/-- Sends a command, if one could be composed. -/
def post (connection : Connection) (command : Except Fault Value) : Service (Value × Nat) := do
  let command ← conclude command
  let bytes ← through connection (Transport.sendCommand command none)
  return (command, bytes)

/-- A frame is composed with the number that is next, or with zero, before it is sent. -/
theorem run_composeAndSend (hp : port.whole = .ok n) (data physical : Value) (numbered : Bool) :
    (composeAndSend connection port data physical numbered).run c =
      (post connection (frame (.int (if numbered then c.upcoming n else 0)) physical port
        data)).run c := by
  cases numbered with
  | false => rfl
  | true => exact run_bind_ok (run_nextSequence hp c)

/-- What composing a frame and sending it comes to: its packet goes out, or there is a fault. -/
theorem composeAndSend_cases (hc : c.connection = some connection) (hp : port.whole = .ok n)
    (data physical : Value) (numbered : Bool) :
    (∃ (h : Packet.Heading) (levels : Bytes) (socket : Nat) (log : List LogLine),
        (h.sequence.toNat : Int) = (if numbered then c.upcoming n else 0) ∧
        (h.port.value : Int) = n ∧ connection.socket = some socket ∧
        c.network.script (.send socket (h.packet (evenSize levels.length) (padded levels))
          (Transport.target connection.settings)) = none ∧
        (composeAndSend connection port data physical numbered).run c =
          (.ok (h.command .none levels, 18 + evenSize levels.length), { c with
            network := { c.network with
              calls := c.network.calls ++
                [.send socket (h.packet (evenSize levels.length) (padded levels))
                  (Transport.target connection.settings)]
              log := log } })) ∨
      ∃ fault d, (composeAndSend connection port data physical numbered).run c =
          (.error fault, d) ∧ c.Adds c.network.script.failsToSend d := by
  rw [run_composeAndSend hp, post, run_bind, run_conclude]
  cases hf : frame (.int (if numbered then c.upcoming n else 0)) physical port data with
  | error fault => exact .inr ⟨fault, c, rfl, Std.Refl.refl c⟩
  | ok command =>
    obtain ⟨h, content, hsequence, hport, rfl⟩ := exists_heading_of_frame hp hf
    dsimp only
    rw [run_bind, run_through]
    rcases Transport.sendCommand_cases (h.holding content) ⟨connection, c.network⟩ with
      ⟨packet, socket, log, he, hs, hpass, hr⟩ | ⟨fault, e, hr, he⟩
    · obtain ⟨levels, rfl⟩ := Packet.eq_bytes_of_encode_holding he
      obtain ⟨h1, h2, rfl⟩ := (Packet.encode_output_eq_ok_iff h .none).mp he
      refine .inl ⟨h, levels, socket, log, hsequence, hport, hs, hpass, ?_⟩
      rw [hr, Packet.Heading.length_packet, length_padded, ← hc]
      rfl
    · refine .inr ⟨fault, _, by rw [hr], ?_⟩
      exact ⟨(congrArg some he.connection_eq).trans hc.symm, rfl, he.network⟩

theorem Sending.of_error {numbered : Bool} {fault : Fault} :
    Sending c n numbered (.error fault, c) :=
  .unsent (Std.Refl.refl c) rfl

theorem sending_sendFrame (hp : port.whole = .ok n) (data physical sequenced : Value) :
    Sending c n sequenced.truth ((sendFrame port data physical sequenced).run c) := by
  generalize hnumbered : sequenced.truth = numbered
  rw [sendFrame, run_bind, run_openConnection]
  cases hopen : c.open? with
  | none => exact .of_error
  | some connection =>
    obtain ⟨hc, -⟩ := open?_eq_some_iff.mp hopen
    dsimp only [orFault]
    rcases composeAndSend_cases hc hp data physical sequenced.truth with
      ⟨h, levels, socket, log, hsequence, hport, hs, hpass, hr⟩ | ⟨fault, d, hr, hd⟩
    · have hsent : Packet.part (h.command .none levels) "sequence" = .ok (.int h.sequence.toNat) :=
        rfl
      have hlevels : Packet.part (h.command .none levels) "data" = .ok (.payload (.bytes levels)) :=
        rfl
      rw [run_bind, run_outcome, hr]
      simp only [run_bind, run_conclude, hsent, hlevels]
      rw [hnumbered] at hsequence ⊢
      obtain ⟨key, rfl, hk⟩ := Value.whole_eq_ok_iff.mp hp
      cases numbered with
      | false => exact .sent hopen hs hport hsequence hpass hk rfl
      | true => exact .sent hopen hs hport hsequence hpass hk rfl
    · rw [run_bind, run_outcome, hr]
      dsimp only
      split
      · rw [run_bind, run_conclude]
        cases port.logged with
        | error fault => exact .unsent hd rfl
        | ok shown => exact .unsent (IsTrans.trans _ _ _ hd (leaves_note _ _ d)) rfl
      · exact .unsent hd rfl

/-- Setting all channels to zero is sending a frame that is numbered, if it is anything. -/
theorem sending_blackout (hp : port.whole = .ok n) (channels : Value) :
    Sending c n true ((blackout port channels).run c) := by
  rw [blackout, run_bind, run_conclude]
  cases channels.within 1 Packet.maxChannels with
  | error fault => exact .of_error
  | ok isWithin =>
    cases isWithin with
    | false => exact .unsent (Std.Refl.refl c) rfl
    | true =>
      dsimp only
      rw [if_pos rfl, run_bind, run_conclude]
      cases channels.whole with
      | error fault => exact .of_error
      | ok count => exact sending_sendFrame hp _ _ (.bool true)

/-- **A request for a frame sends one packet, or none**, and records a number only with a packet. -/
theorem sending {request : Request} {numbered : Bool}
    (hf : request.frame? = some (port, numbered)) (hp : port.whole = .ok n) :
    Sending c n numbered (request.serve.run c) := by
  cases request with
  | sendFrame port data physical sequenced =>
    cases hf
    exact sending_sendFrame hp data physical sequenced
  | blackout port channels =>
    cases hf
    exact sending_blackout hp channels
  | _ => cases hf

end

end Console

end DmxNet
