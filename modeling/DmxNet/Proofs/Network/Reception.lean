import DmxNet.Proofs.Network.Usage
import DmxNet.Proofs.Packet.Decoding

/-!
# Receiving what waits

Parcels are datagrams of bytes that came from somewhere. A connection that is open takes one parcel
on each occasion of receiving, the one that has waited the longest, and answers the command in it or
nothing; what else waits, and what arrives behind it, it leaves alone (`Waiting.take`,
`Waiting.run`). So the parcels are received in their order, and none has a part in what another
comes to (`parcels_in_order`). Whatever a connection sends for a composed command fits into what is
taken of a parcel, and is received as the command that its packet is decoded to
(`Parcel.Posted.received`).
-/

namespace DmxNet

/-- A datagram of bytes, and the host and the port that it came from. -/
structure Parcel where
  bytes : Bytes
  host : String
  port : Int

namespace Parcel

/-- The datagram that a parcel is. -/
def datagram (p : Parcel) : Datagram := ⟨.bytes p.bytes, .text p.host, .int p.port⟩

/-- What is taken of a parcel. -/
def cut (p : Parcel) (size : Nat) : Parcel := { p with bytes := p.bytes.take size }

/-- The command in what is taken of a parcel, if there is one. -/
def command? (p : Parcel) : Option Value := (Packet.decode (p.cut maxDatagram).bytes).toOption

/-- Whether a parcel has the bytes that some connection handed to its socket to send a command. -/
def Posted (p : Parcel) (command : Value) : Prop :=
  ∃ (e : Endpoint) (o : Occasion) (address : Option Address) (socket : Nat) (goal : Address),
    o.use = .send command address ∧ .send socket p.bytes goal ∈ (e.account o).calls

end Parcel

/-- An occasion of receiving a command on which no call fails. -/
structure Occasion.Receives (o : Occasion) : Prop where
  calm : ∀ call, o.script call = none
  /-- The time to wait is one that can be told in seconds. -/
  use_eq : ∃ timeout seconds, o.use = .receive timeout ∧ timeout.quotient 1000 = .ok seconds

/-! ### What is sent -/

/-- Whether a call sends some bytes. -/
def Call.carries (bs : Bytes) : Call → Bool
  | .send _ data _ => data == bs
  | _ => false

namespace Transport

open Procedure

theorem leaves_held {kind : Call → Bool} : held.Leaves (Endpoint.Adds kind) := by
  intro e
  rw [run_held]
  exact Std.Refl.refl e

/-- Sending bytes makes calls that send these, and no others. -/
theorem leaves_send_bytes (bs : Bytes) (address : Option Address) :
    (send (.bytes bs) address).Leaves (Endpoint.Adds (Call.carries bs)) := by
  refine leaves_bind leaves_demand fun _ => leaves_bind leaves_get fun e =>
    leaves_bind (leaves_conclude _) fun size => leaves_bind (leaves_conclude _) fun there =>
    leaves_bind (leaves_note _ _) fun _ => leaves_bind leaves_held fun socket => ?_
  intro f
  have hbytes : Value.asBytes (.bytes bs) = .ok bs := rfl
  rw [run_bind, run_conclude, hbytes]
  exact leaves_bind (leaves_attempt (by simp [Call.carries])) (fun _ => leaves_pure _) f

/-- Sending a command hands its packet to the socket, and nothing else. -/
theorem encode_of_send {c : Value} {address : Option Address} {e : Endpoint} {o : Occasion}
    (hu : o.use = .send c address) {socket : Nat} {bs : Bytes} {goal : Address}
    (hcall : .send socket bs goal ∈ (e.account o).calls) : Packet.encode c = .ok bs := by
  have htake : (o.take e).2 = ((sendCommand c address).run (o.meet e)).2 := by
    rw [Occasion.take, hu, Use.perform, run_map_eq]
  rw [sendCommand, run_bind, run_conclude] at htake
  cases he : Packet.encode c with
  | error fault =>
    rw [he] at htake
    have hcalls : (o.take e).2.network.calls = e.network.calls ++ [] := by
      rw [htake, List.append_nil]
      rfl
    rw [Endpoint.account_calls hcalls] at hcall
    cases hcall
  | ok packet =>
    rw [he] at htake
    obtain ⟨calls, hcalls, hkind⟩ := (leaves_send_bytes packet address (o.meet e)).network.calls_eq
    rw [← htake] at hcalls
    rw [Endpoint.account_calls hcalls] at hcall
    have hbs := hkind _ hcall
    rw [Call.carries, beq_iff_eq] at hbs
    rw [hbs]

end Transport

namespace Packet

/-- The packet of a composed command has 530 bytes at most, and is decoded to a command. -/
theorem exists_decode_of_encode {c : Value} (hc : Composed output c ∨ Composed timecode c)
    {packet : Bytes} (he : encode c = .ok packet) :
    packet.length ≤ 530 ∧ ∃ command, decode packet = .ok command := by
  rcases hc with hc | hc
  · obtain ⟨h, parsed, data, rfl⟩ := composed_output_iff.mp hc
    obtain ⟨-, hle, rfl⟩ := (encode_output_eq_ok_iff h parsed).mp he
    have hsize := evenSize_le hle
    refine ⟨?_, _, decode_packet h (by omega) _⟩
    rw [Heading.length_packet, length_padded]
    omega
  · obtain ⟨t, rfl⟩ := composed_timecode_iff.mp hc
    rw [encode_stamp] at he
    obtain rfl := Except.ok.inj he
    exact ⟨by simp, _, decode_stamp_packet t⟩

end Packet

namespace Parcel

variable {p : Parcel}

/-- A parcel of which nothing is cut off is received as what its bytes are decoded to. -/
theorem command?_of_le (h : p.bytes.length ≤ maxDatagram) :
    p.command? = (Packet.decode p.bytes).toOption := by
  rw [command?, cut, List.take_of_length_le h]

theorem command?_eq_none_iff (p : Parcel) :
    p.command? = none ↔ ∃ fault, Packet.decode (p.bytes.take 1024) = .error fault := by
  have hcommand : p.command? = (Packet.decode (p.bytes.take 1024)).toOption := rfl
  rw [hcommand]
  cases Packet.decode (p.bytes.take 1024) with
  | ok command => simp [Except.toOption]
  | error fault => simp [Except.toOption]

/-- What was sent for a composed command is received as its packet is decoded. -/
theorem Posted.received {c : Value} (hp : p.Posted c)
    (hc : Composed Packet.output c ∨ Composed Packet.timecode c) :
    p.bytes.length ≤ 530 ∧ ∃ command,
      (Packet.encode c >>= Packet.decode) = .ok command ∧ p.command? = some command := by
  obtain ⟨e, o, address, socket, goal, hu, hcall⟩ := hp
  have he := Transport.encode_of_send hu hcall
  obtain ⟨hle, command, hd⟩ := Packet.exists_decode_of_encode hc he
  refine ⟨hle, command, bind_eq_ok.mpr ⟨p.bytes, he, hd⟩, ?_⟩
  rw [command?_of_le (Nat.le_trans hle (by decide)), hd]
  rfl

end Parcel

/-! ### What is received -/

/-- An open connection for which parcels wait, and other datagrams behind them. -/
structure Waiting (e : Endpoint) (ps : List Parcel) (later : List Datagram) : Prop where
  connected : e.connection.connected = true
  held : ∃ socket, e.connection.socket = some socket
  queue_eq : e.network.queue = ps.map Parcel.datagram ++ later

namespace Transport

open Procedure

variable {e : Endpoint} {socket : Nat} {timeout : Value} {seconds : Binary64}

theorem run_attempt_of_calm (hcalm : ∀ call, e.network.script call = none) (call : Call) :
    (attempt call).run e = (.ok (), { e with network := e.network.record call }) := by
  rw [run_attempt, Script.outcome, hcalm]

/-- What is taken of a parcel are its first bytes. -/
theorem run_take_of_waiting (hcalm : ∀ call, e.network.script call = none) {p : Parcel}
    {rest : List Datagram} (hq : e.network.queue = p.datagram :: rest) (socket size : Nat) :
    (take socket size).run e =
      (.ok (p.cut size).datagram,
        { e with network := { e.network.record (.receive socket size) with queue := rest } }) := by
  rw [take, run_bind_ok (run_attempt_of_calm hcalm _), run_bind, run_get]
  have hqueue : (e.network.record (.receive socket size)).queue = p.datagram :: rest := hq
  dsimp only
  rw [hqueue]
  rfl

/-- Receiving waits on the socket that is held, and takes what there is. -/
theorem run_receive_of_calm (hc : e.connection.connected = true)
    (hs : e.connection.socket = some socket) (hcalm : ∀ call, e.network.script call = none)
    (ht : timeout.quotient 1000 = .ok seconds) :
    (receive timeout).run e =
      match (take socket maxDatagram).run
        { e with network := e.network.record (.setTimeout socket seconds) } with
      | (.ok d, f) => (.ok (some d), f)
      | (.error fault, f) => (if fault.isTimeout then .ok none else .error fault, f) := by
  have hheld : held.run e = (.ok socket, e) := by
    rw [run_held, hs]
    rfl
  rw [receive, run_bind_ok (run_demand_of_connected hc), run_bind_ok hheld, run_bind, run_conclude,
    ht]
  dsimp only
  rw [run_bind_ok (run_attempt_of_calm hcalm _), run_bind, run_outcome]
  obtain ⟨_ | d, f⟩ := (take socket maxDatagram).run
    { e with network := e.network.record (.setTimeout socket seconds) }
  · dsimp only
    split <;> rfl
  · rfl

/-- Receiving makes two calls and takes the first parcel. -/
theorem run_receive_of_waiting (hc : e.connection.connected = true)
    (hs : e.connection.socket = some socket) (hcalm : ∀ call, e.network.script call = none)
    (ht : timeout.quotient 1000 = .ok seconds) {p : Parcel} {rest : List Datagram}
    (hq : e.network.queue = p.datagram :: rest) :
    (receive timeout).run e =
      (.ok (some (p.cut maxDatagram).datagram),
        { e with network := { e.network with
          queue := rest
          calls := e.network.calls ++
            [.setTimeout socket seconds, .receive socket maxDatagram] } }) := by
  rw [run_receive_of_calm hc hs hcalm ht, run_take_of_waiting (by exact hcalm) (by exact hq)]
  simp [Network.record]

/-- Receiving takes the first parcel and answers the command in it, or nothing. -/
theorem run_receiveCommand_of_waiting (hc : e.connection.connected = true)
    (hs : e.connection.socket = some socket) (hcalm : ∀ call, e.network.script call = none)
    (ht : timeout.quotient 1000 = .ok seconds) {p : Parcel} {rest : List Datagram}
    (hq : e.network.queue = p.datagram :: rest) :
    ∃ log, (receiveCommand timeout).run e =
      (.ok p.command?,
        { e with network := { e.network with
          queue := rest
          calls := e.network.calls ++ [.setTimeout socket seconds, .receive socket maxDatagram]
          log := log } }) := by
  rw [receiveCommand, run_bind_ok (run_receive_of_waiting hc hs hcalm ht hq)]
  have hvalue : Packet.decodeValue (p.cut maxDatagram).datagram.data =
      Packet.decode (p.cut maxDatagram).bytes := rfl
  dsimp only
  rw [hvalue, Parcel.command?]
  cases hd : Packet.decode (p.cut maxDatagram).bytes with
  | ok command => exact ⟨e.network.log, rfl⟩
  | error fault =>
    have hprotocol := Packet.isProtocol_of_readsAs (hd ▸ Packet.readsAs_decode _)
    dsimp only
    rw [if_pos hprotocol]
    exact ⟨_, rfl⟩

end Transport

namespace Waiting

variable {e : Endpoint} {p : Parcel} {ps : List Parcel} {later : List Datagram} {o : Occasion}

/-- **On each occasion the first parcel is received**, and the others go on waiting. -/
theorem take (h : Waiting e (p :: ps) later) (ho : o.Receives) :
    (o.take e).1 = .ok (.received p.command?) ∧
      Waiting (o.take e).2 ps (later ++ o.arrivals) := by
  obtain ⟨socket, hs⟩ := h.held
  obtain ⟨timeout, seconds, hu, ht⟩ := ho.use_eq
  have hq : (o.meet e).network.queue =
      p.datagram :: (ps.map Parcel.datagram ++ (later ++ o.arrivals)) := by
    rw [← List.append_assoc, ← List.cons_append]
    exact congrArg (· ++ o.arrivals) h.queue_eq
  obtain ⟨log, hr⟩ := Transport.run_receiveCommand_of_waiting (e := o.meet e) h.connected hs ho.calm
    ht hq
  rw [Occasion.take, hu, Use.perform, Procedure.run_map_eq, hr]
  exact ⟨rfl, h.connected, ⟨socket, hs⟩, rfl⟩

/-- **Parcels are received in their order**, for as many occasions as there are parcels. -/
theorem run {rs : List Occasion} (h : Waiting e ps later) (hr : ∀ r ∈ rs, r.Receives)
    (hle : rs.length ≤ ps.length) :
    (e.journal rs).map Account.result =
        (ps.take rs.length).map (fun p => .ok (.received p.command?)) ∧
      Waiting (e.after rs) (ps.drop rs.length) (later ++ rs.flatMap Occasion.arrivals) := by
  induction rs generalizing e ps later with
  | nil =>
    rw [List.flatMap_nil, List.append_nil]
    exact ⟨rfl, h⟩
  | cons r rs ih =>
    obtain ⟨hreceives, hr⟩ := List.forall_mem_cons.mp hr
    cases ps with
    | nil => cases hle
    | cons p ps =>
      obtain ⟨hresult, hwaiting⟩ := h.take hreceives
      obtain ⟨hresults, hafter⟩ := ih hwaiting hr (Nat.le_of_succ_le_succ hle)
      rw [List.append_assoc] at hafter
      refine ⟨?_, hafter⟩
      rw [Endpoint.journal, List.map_cons, hresults]
      exact congrArg (· :: _) hresult

end Waiting

/-- **Parcels are received in their order, whole and once.** An open connection for which parcels
wait receives them one by one, whatever they are: on each occasion of receiving that no call spoils,
the result is the command in the first bytes of the next parcel, or nothing exactly if these are
refused, and the parcel after it is the next to be received. What a connection handed to its socket
to send a composed command is short enough to be taken whole, and is received as what its packet is
decoded to. -/
theorem parcels_in_order (settings : Settings) {os rs : List Occasion} {ps : List Parcel}
    (hc : ((Endpoint.start settings).after os).connection.connected = true)
    (hq : ((Endpoint.start settings).after os).network.queue = ps.map Parcel.datagram)
    (hr : ∀ r ∈ rs, r.Receives) (hle : rs.length ≤ ps.length) :
    (((Endpoint.start settings).after os).journal rs).map Account.result =
        (ps.take rs.length).map (fun p => .ok (.received p.command?)) ∧
      (∀ i ≤ rs.length,
        (((Endpoint.start settings).after os).after (rs.take i)).network.queue =
          (ps.drop i).map Parcel.datagram ++ (rs.take i).flatMap Occasion.arrivals) ∧
      ∀ p ∈ ps,
        (p.command? = none ↔
          ∃ fault, Packet.decode (p.bytes.take 1024) = .error fault) ∧
        ∀ c, Composed Packet.output c ∨ Composed Packet.timecode c → p.Posted c →
          p.bytes.length ≤ 530 ∧ ∃ command,
            (Packet.encode c >>= Packet.decode) = .ok command ∧ p.command? = some command := by
  have hwaiting : Waiting ((Endpoint.start settings).after os) ps [] := by
    refine ⟨hc, (Endpoint.Lives.run settings os).connected_iff.mp hc, ?_⟩
    rw [hq, List.append_nil]
  refine ⟨(hwaiting.run hr hle).1, ?_, ?_⟩
  · intro i hi
    have hlength : (rs.take i).length = i := List.length_take_of_le hi
    obtain ⟨-, hafter⟩ := hwaiting.run (fun r hmem => hr r (List.mem_of_mem_take hmem))
      (show (rs.take i).length ≤ ps.length by omega)
    rw [hafter.queue_eq, hlength, List.nil_append]
  · intro p _
    refine ⟨p.command?_eq_none_iff, ?_⟩
    intro c hcomposed hposted
    exact hposted.received hcomposed

/-- A packet that a connection sent, and behind it a datagram that is no packet. -/
theorem parcels_in_order_of_two :
    ∃ (os rs : List Occasion) (p q : Parcel) (h : Packet.Heading),
      ((Endpoint.start {}).after os).connection.connected = true ∧
        ((Endpoint.start {}).after os).network.queue = [p, q].map Parcel.datagram ∧
        (∀ r ∈ rs, r.Receives) ∧ rs.length ≤ [p, q].length ∧ p.Posted (h.command .none [7]) ∧
        (((Endpoint.start {}).after os).journal rs).map Account.result =
          [.ok (.received (some (h.command (.int 2) [7, 0]))), .ok (.received none)] := by
  let h : Packet.Heading := ⟨Packet.version, 3, 0, ⟨5, by decide⟩, rfl⟩
  let p : Parcel := ⟨h.packet 2 [7, 0], "10.0.0.7", 6454⟩
  let q : Parcel := ⟨[0x41, 0x72], "10.0.0.8", 1024⟩
  let opening : Occasion := { use := .opening, arrivals := [p, q].map Parcel.datagram }
  let receiving : Occasion := { use := .receive defaultTimeout }
  let sender : Endpoint := (Endpoint.start {}).after [{ use := .opening }]
  let sending : Occasion := { use := .send (h.command .none [7]) none }
  have hposted : p.Posted (h.command .none [7]) := by
    have hcalls : (sender.account sending).calls = [.send 0 p.bytes (Transport.target {})] := rfl
    refine ⟨sender, sending, none, 0, Transport.target {}, rfl, ?_⟩
    rw [hcalls]
    exact List.mem_singleton_self _
  have hreceives : receiving.Receives := ⟨fun _ => rfl, defaultTimeout, _, rfl, rfl⟩
  have hr : ∀ r ∈ [receiving, receiving], r.Receives := by simp [hreceives]
  have hopen : ((Endpoint.start {}).after [opening]).connection.connected = true := rfl
  have hqueue : ((Endpoint.start {}).after [opening]).network.queue =
      [p, q].map Parcel.datagram := rfl
  obtain ⟨hresults, -, -⟩ := parcels_in_order {} hopen hqueue hr (Nat.le_refl 2)
  have hp : p.command? = some (h.command (.int 2) [7, 0]) := by
    rw [Parcel.command?_of_le (by simp [p, maxDatagram]), Packet.decode_packet h (by decide)]
    rfl
  have hq : q.command? = none := by
    rw [Parcel.command?_of_le (by decide), Packet.decode_of_lt (by decide)]
    rfl
  refine ⟨[opening], [receiving, receiving], p, q, h, hopen, hqueue, hr, Nat.le_refl 2, hposted, ?_⟩
  rw [hresults, ← hp, ← hq]
  rfl

end DmxNet
