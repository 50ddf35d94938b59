import DmxNet.Proofs.Console.Link
import DmxNet.Proofs.Console.Numbering
import DmxNet.Proofs.Packet.Description

/-!
# Delivery

Tools that send do all of it or nothing. An open connection holds a socket and can tell where it
sends to, in every run (`ready_after`). So there is one call if the packet could be made, and none
otherwise (`Delivery`), and whoever is told that a frame was sent knows that the call went through:
only then is a sequence number recorded, and whatever fails leaves connection and numbers as they
were (`Posts`).
-/

namespace DmxNet

/-- The call that sends a packet from a socket to where the settings say. -/
def Settings.sending (settings : Settings) (socket : Nat) (packet : Bytes) : Call :=
  .send socket packet (Transport.target settings)

/-- Whether a reply says that something was sent. -/
def Reply.tellsSent : Reply → Bool
  | .sentOutput .. | .sentTimecode .. => true
  | _ => false

/-- The same turn, in which something else is asked for. -/
def Turn.ask (t : Turn) (request : Request) : Turn := { t with request := request }

/-- Whether a tool answered that something was sent. -/
def tellsSent : Except Fault Reply → Bool
  | .ok reply => reply.tellsSent
  | .error _ => false

namespace Console

open Procedure Service

variable {c : Console} {connection : Connection} {socket : Nat}

/-! ### Connections that can send -/

/-- An open connection that holds a socket and has settings of their kinds. -/
structure Wired (c : Console) (connection : Connection) (socket : Nat) : Prop where
  opened : c.open? = some connection
  held : connection.socket = some socket
  typed : connection.settings.Typed

/-- A console whose connection can send if it is open. -/
def Ready (c : Console) : Prop :=
  ∀ connection, c.open? = some connection → ∃ socket, c.Wired connection socket

theorem Ready.of_not_open (h : c.open? = none) : c.Ready := by
  intro connection hopen
  rw [h] at hopen
  cases hopen

theorem Ready.of_open?_eq {d : Console} (hc : c.Ready) (h : d.open? = c.open?) : d.Ready := by
  intro connection hopen
  rw [h] at hopen
  obtain ⟨socket, -, held, typed⟩ := hc connection hopen
  exact ⟨socket, h.trans hopen, held, typed⟩

theorem ready_connect (hc : c.Ready) {settings : Settings} (ht : settings.Typed) :
    ((connect settings).run c).2.Ready := by
  cases hopen : c.open? with
  | some connection =>
    rw [run_connect_of_open hopen]
    exact hc
  | none =>
    rw [run_connect hopen]
    have ho := Transport.opening ⟨{ settings }, c.network⟩
    generalize Transport.openSocket.run ⟨{ settings }, c.network⟩ = result at ho
    cases ho with
    | refused create => exact .of_not_open rfl
    | abandoned fault create prepare => exact .of_not_open rfl
    | bound log create prepare =>
      intro connection hconnection
      obtain rfl := Option.some.inj hconnection
      exact ⟨_, rfl, rfl, ht⟩

theorem ready_disconnect (hc : c.Ready) : (disconnect.run c).2.Ready := by
  cases hconn : c.connection with
  | none =>
    rw [run_disconnect_of_none hconn]
    exact hc
  | some connection =>
    rw [run_disconnect hconn]
    cases hconnected : connection.connected with
    | false =>
      rw [Transport.run_closeSocket_of_not_connected hconnected]
      exact .of_not_open rfl
    | true =>
      obtain ⟨socket, -, held, -⟩ := hc connection (open?_eq_some_iff.mpr ⟨hconn, hconnected⟩)
      obtain ⟨log, hr⟩ := Transport.run_closeSocket (e := ⟨connection, c.network⟩) hconnected held
      rw [hr]
      cases Transport.forgiveClose _ with
      | ok _ => exact .of_not_open rfl
      | error fault => exact .of_not_open rfl

/-- **Every turn leaves a connection that can send if it is open**, whatever fails in it. -/
theorem Ready.play (hc : c.Ready) {t : Turn} (hs : t.request.HasTypedSettings)
    (hw : t.request.HasWholePort) : (t.play c).2.Ready := by
  have hmeet : (t.meet c).Ready := hc.of_open?_eq rfl
  rw [Turn.play]
  cases hr : t.request with
  | connect settings => exact ready_connect hmeet (hs settings hr)
  | disconnect => exact ready_disconnect hmeet
  | _ =>
    -- All other tools leave the connection as it is.
    rw [hr] at hw
    exact hmeet.of_open?_eq (spares_serve hw (by simp) (by simp)).open?_eq

/-- **In every run a connection can send if it is open.** -/
theorem ready_after (turns : List Turn)
    (ht : ∀ t ∈ turns, t.request.HasTypedSettings ∧ t.request.HasWholePort) :
    (after {} turns).Ready := by
  induction turns using List.reverseRecOn with
  | nil => exact .of_not_open rfl
  | append_singleton turns t ih =>
    rw [after_concat]
    obtain ⟨hs, hw⟩ := ht t (by simp)
    exact (ih fun u hu => ht u (by simp [hu])).play hs hw

/-! ### Sending a command -/

/-- What sending a command comes to, if one could be composed. -/
inductive Posting (c : Console) (command : Except Fault Value) (sending : Bytes → Call) :
    Except Fault (Value × Nat) × Console → Prop where
  /-- There is no packet, and nothing is done. -/
  | unmade {fault : Fault} (unmade : command >>= Packet.encode = .error fault) :
    Posting c command sending (.error fault, c)
  /-- The packet was to be sent, but the call failed. -/
  | failed {packet : Bytes} {fault : Fault} {log : List LogLine}
      (made : command >>= Packet.encode = .ok packet)
      (fails : c.network.script (sending packet) = some fault) :
    Posting c command sending (.error fault, { c with network := { c.network with
      calls := c.network.calls ++ [sending packet]
      log := log } })
  /-- The packet was sent. -/
  | sent {value : Value} {packet : Bytes} {log : List LogLine} (composed : command = .ok value)
      (encoded : Packet.encode value = .ok packet)
      (passes : c.network.script (sending packet) = none) :
    Posting c command sending (.ok (value, packet.length), { c with network := { c.network with
      calls := c.network.calls ++ [sending packet]
      log := log } })

theorem posting (hw : c.Wired connection socket) (command : Except Fault Value) :
    Posting c command (connection.settings.sending socket) ((post connection command).run c) := by
  obtain ⟨hc, hconnected⟩ := open?_eq_some_iff.mp hw.opened
  rw [post, run_bind, run_conclude]
  cases command with
  | error fault => exact .unmade rfl
  | ok value =>
    dsimp only
    rw [run_bind, run_through, Transport.sendCommand, run_bind, run_conclude]
    cases he : Packet.encode value with
    | error fault =>
      dsimp only
      rw [← hc]
      exact .unmade he
    | ok packet =>
      obtain ⟨there, hplace⟩ := hw.typed.exists_place
      dsimp only
      rw [Transport.run_send_bytes (e := ⟨connection, c.network⟩) packet hconnected hw.held hplace,
        ← hc, Script.outcome]
      dsimp only
      cases hs : c.network.script (.send socket packet (Transport.target connection.settings)) with
      | some fault => exact .failed he hs
      | none => exact .sent rfl he hs

/-! ### Tools that send -/

/-- A fault as the tools that send answer it. -/
def answer (fault : Fault) : Except Fault Reply :=
  if fault.isRefusal then .ok (.refused fault.message) else .error fault

/-- What a request to send a packet comes to, if it could be made. -/
inductive Delivery (c : Console) (packet : Except Fault Bytes) (sending : Bytes → Call)
    (recorded : SequenceTable) : Except Fault Reply × Console → Prop where
  /-- There is no packet, and nothing is called. -/
  | unmade {fault : Fault} {log : List LogLine} (unmade : packet = .error fault) :
    Delivery c packet sending recorded (answer fault,
      { c with network := { c.network with log := log } })
  /-- The packet was to be sent, but the call failed. -/
  | failed {bs : Bytes} {fault : Fault} {log : List LogLine} (made : packet = .ok bs)
      (fails : c.network.script (sending bs) = some fault) :
    Delivery c packet sending recorded (answer fault, { c with network := { c.network with
      calls := c.network.calls ++ [sending bs]
      log := log } })
  /-- The packet was sent, and its number is on record. -/
  | sent {bs : Bytes} {reply : Reply} {log : List LogLine} (made : packet = .ok bs)
      (passes : c.network.script (sending bs) = none) (tells : reply.tellsSent = true) :
    Delivery c packet sending recorded (.ok reply, { c with
      sequences := recorded
      network := { c.network with
        calls := c.network.calls ++ [sending bs]
        log := log } })

/-- What a tool does with a fault of sending: it is logged and answered, or goes on. -/
theorem run_report (fault : Fault) (n : Int) (d : Console) :
    ∃ log, (if fault.isRefusal = true then do
        let shown ← conclude (Value.int n).logged
        note .warning ("send_dmx to " ++ shown ++ " failed: " ++ fault.message)
        return .refused fault.message
      else throw fault : Service Reply).run d =
      (answer fault, { d with network := { d.network with log := log } }) := by
  obtain ⟨s, hs⟩ := Value.exists_logged_int n
  rw [answer]
  split
  · rw [hs]
    exact ⟨_, rfl⟩
  · exact ⟨d.network.log, rfl⟩

section

variable {n : Int} {physical data : Value}

/-- The packet of a frame to a Port-Address, if it can be made: the frame carries the number that is
next, or zero. -/
def framePacket (c : Console) (n : Int) (data physical : Value) (numbered : Bool) :
    Except Fault Bytes :=
  frame (.int (if numbered then c.upcoming n else 0)) physical (.int n) data >>= Packet.encode

/-- The sequence numbers after a frame to a Port-Address was sent. -/
def recorded (c : Console) (n : Int) (numbered : Bool) : SequenceTable :=
  if numbered then c.sequences.put (.int n) (c.upcoming n) else c.sequences

theorem delivery_sendFrame (hw : c.Wired connection socket) (n : Int)
    (data physical sequenced : Value) :
    Delivery c (c.framePacket n data physical sequenced.truth)
      (connection.settings.sending socket) (c.recorded n sequenced.truth)
      ((sendFrame (.int n) data physical sequenced).run c) := by
  have hwhole : (Value.int n).whole = .ok n := rfl
  rw [sendFrame, run_bind, run_openConnection, hw.opened]
  dsimp only [orFault]
  rw [run_bind, run_outcome, run_composeAndSend hwhole]
  have hp := posting hw
    (frame (.int (if sequenced.truth then c.upcoming n else 0)) physical (.int n) data)
  generalize (post connection _).run c = result at hp
  cases hp with
  | unmade unmade =>
    obtain ⟨log, hr⟩ := run_report _ n c
    dsimp only
    rw [hr]
    exact .unmade unmade
  | failed made fails =>
    obtain ⟨log, hr⟩ := run_report _ n _
    dsimp only
    rw [hr]
    exact .failed made fails
  | @sent value packet log composed encoded passes =>
    have made : c.framePacket n data physical sequenced.truth = .ok packet :=
      bind_eq_ok.mpr ⟨value, composed, encoded⟩
    -- There is a packet, so the frame has the number that was chosen and carries bytes: reading
    -- them back for the reply cannot fail any more.
    obtain ⟨h, content, hsequence, -, rfl⟩ := exists_heading_of_frame hwhole composed
    obtain ⟨levels, rfl⟩ := Packet.eq_bytes_of_encode_holding encoded
    have hnumber : Packet.part (h.holding (.bytes levels)) "sequence" =
      .ok (.int h.sequence.toNat) := rfl
    have hlevels : Packet.part (h.holding (.bytes levels)) "data" =
      .ok (.payload (.bytes levels)) := rfl
    simp only [run_bind, run_conclude, hnumber, hlevels]
    rw [hsequence]
    cases hs : sequenced.truth with
    | false =>
      rw [hs] at made
      exact .sent made passes rfl
    | true =>
      rw [hs] at made
      exact .sent made passes rfl

theorem delivery_sendTimecode (hw : c.Wired connection socket)
    (hours minutes seconds frames keyType stream : Value) :
    Delivery c (position hours minutes seconds frames keyType stream >>= Packet.encode)
      (connection.settings.sending socket) c.sequences
      ((sendTimecode hours minutes seconds frames keyType stream).run c) := by
  rw [sendTimecode, run_bind, run_openConnection, hw.opened]
  dsimp only [orFault]
  have hpost : composeAndSendPosition connection hours minutes seconds frames keyType stream =
    post connection (position hours minutes seconds frames keyType stream) := rfl
  rw [run_bind, run_outcome, hpost]
  have hreport (fault : Fault) (d : Console) :
      (if fault.isRefusal = true then pure (.refused fault.message) else throw fault :
        Service Reply).run d = (answer fault, d) := by
    rw [answer]
    split <;> rfl
  have hp := posting hw (position hours minutes seconds frames keyType stream)
  generalize (post connection _).run c = result at hp
  cases hp with
  | unmade unmade =>
    dsimp only
    rw [hreport]
    exact .unmade unmade
  | failed made fails =>
    dsimp only
    rw [hreport]
    exact .failed made fails
  | sent composed encoded passes =>
    obtain ⟨stamp, rfl⟩ := exists_stamp_of_position composed
    simp only [run_bind, run_conclude, Packet.plain_stamp]
    exact .sent (bind_eq_ok.mpr ⟨_, composed, encoded⟩) passes rfl

end

/-! ### All or nothing -/

theorem tellsSent_answer (fault : Fault) : tellsSent (answer fault) = false := by
  rw [answer]
  split <;> rfl

section

variable {packet : Except Fault Bytes} {sending : Bytes → Call} {recorded : SequenceTable}
  {result : Except Fault Reply × Console}

theorem Delivery.calls_eq (h : Delivery c packet sending recorded result) :
    result.2.network.calls = c.network.calls ++ (packet.map sending).toOption.toList := by
  cases h with
  | unmade unmade =>
    rw [unmade]
    exact (List.append_nil _).symm
  | failed made fails =>
    rw [made]
    rfl
  | sent made passes tells =>
    rw [made]
    rfl

theorem Delivery.tells_iff (h : Delivery c packet sending recorded result) :
    tellsSent result.1 = true ↔
      ∃ call, packet.map sending = .ok call ∧ c.network.script call = none := by
  cases h with
  | unmade unmade =>
    rw [tellsSent_answer, unmade]
    refine ⟨nofun, ?_⟩
    rintro ⟨call, ⟨⟩, -⟩
  | failed made fails =>
    rw [tellsSent_answer, made]
    refine ⟨nofun, ?_⟩
    rintro ⟨call, ⟨⟩, passes⟩
    cases fails.symm.trans passes
  | sent made passes tells =>
    rw [made]
    exact ⟨fun _ => ⟨_, rfl, passes⟩, fun _ => tells⟩

theorem Delivery.sequences_eq (h : Delivery c packet sending recorded result) :
    result.2.sequences = if tellsSent result.1 then recorded else c.sequences := by
  cases h with
  | unmade unmade =>
    rw [tellsSent_answer]
    rfl
  | failed made fails =>
    rw [tellsSent_answer]
    rfl
  | @sent _ reply _ made passes tells =>
    have htells : tellsSent (.ok reply) = true := tells
    rw [htells]
    rfl

theorem Delivery.connection_eq (h : Delivery c packet sending recorded result) :
    result.2.connection = c.connection := by
  cases h <;> rfl

theorem Delivery.created_eq (h : Delivery c packet sending recorded result) :
    result.2.network.created = c.network.created := by
  cases h <;> rfl

end

theorem Wired.meet (hw : c.Wired connection socket) (t : Turn) :
    (t.meet c).Wired connection socket :=
  ⟨hw.opened, hw.held, hw.typed⟩

/-- A run in which a connection is opened. -/
def opened : List Turn := [{ request := .connect {} }]

theorem opened_typed :
    ∀ t ∈ opened, t.request.HasTypedSettings ∧ t.request.HasWholePort := by
  intro t hm
  obtain rfl := List.mem_singleton.mp hm
  refine ⟨?_, nofun⟩
  rintro settings ⟨⟩
  exact Settings.typed_default

end Console

end DmxNet
