import DmxNet.Network.Connection
import DmxNet.Proofs.Procedure

/-!
# Sending and receiving

What sending and receiving do to a connection and its network. Sending a command puts at most one
call on record, and that only after the packet was made; the answer tells whether the call went
through (`sendCommand_cases`). Receiving waits and takes. Neither changes the connection, makes or
closes a socket, or touches the script, and the calls of both are made on the socket that is held
(`leaves_send`, `leaves_receive`).
-/

namespace DmxNet

/-- How a call ends that a script may let fail. -/
def Script.outcome (script : Script) (call : Call) : Except Fault Unit :=
  match script call with
  | some fault => .error fault
  | none => .ok ()

/-- Whether a call is one of sending. -/
def Call.isSend : Call → Bool
  | .send .. => true
  | _ => false

/-- Whether a call is one of receiving, or of waiting for that. -/
def Call.isReceive : Call → Bool
  | .setTimeout .. | .receive .. => true
  | _ => false

/-- Whether a call is one of sending or of receiving. -/
def Call.isTraffic (call : Call) : Bool := call.isSend || call.isReceive

/-- The socket that a call is made on. -/
def Call.socket? : Call → Option Nat
  | .create => none
  | .setOption socket _ | .bind socket _ _ | .close socket | .send socket _ _
  | .setTimeout socket _ | .receive socket _ => some socket

/-- Whether a call is of a kind, and made on a socket. -/
def Call.isOn (kind : Call → Bool) (socket : Option Nat) (call : Call) : Bool :=
  kind call && call.socket? == socket

/-- Whether a call is one of sending, and fails. -/
def Script.failsToSend (script : Script) (call : Call) : Bool :=
  call.isSend && (script call).isSome

/-- A network on which nothing was done since it was another but to make calls of some kind, take
datagrams and log lines. -/
structure Network.Adds (kind : Call → Bool) (n m : Network) : Prop where
  script_eq : m.script = n.script
  created_eq : m.created = n.created
  calls_eq : ∃ calls, m.calls = n.calls ++ calls ∧ ∀ call ∈ calls, kind call = true

/-- The same of an endpoint, whose connection is the same as well. -/
structure Endpoint.Adds (kind : Call → Bool) (e f : Endpoint) : Prop where
  connection_eq : f.connection = e.connection
  network : e.network.Adds kind f.network

@[simp] theorem Network.script_note (n : Network) (level : Level) (text : String) :
    (n.note level text).script = n.script := rfl

theorem Network.Adds.refl (kind : Call → Bool) (n : Network) : n.Adds kind n :=
  ⟨rfl, rfl, [], by simp, by simp⟩

theorem Network.Adds.trans {kind : Call → Bool} {n m l : Network} (h : n.Adds kind m)
    (h' : m.Adds kind l) : n.Adds kind l := by
  obtain ⟨calls, hc, hk⟩ := h.calls_eq
  obtain ⟨calls', hc', hk'⟩ := h'.calls_eq
  refine ⟨h'.script_eq.trans h.script_eq, h'.created_eq.trans h.created_eq, calls ++ calls', ?_, ?_⟩
  · rw [hc', hc, List.append_assoc]
  · intro call hcall
    rcases List.mem_append.mp hcall with hcall | hcall
    · exact hk call hcall
    · exact hk' call hcall

theorem Network.Adds.mono {kind kind' : Call → Bool} {n m : Network} (h : n.Adds kind m)
    (hk : ∀ call, kind call = true → kind' call = true) : n.Adds kind' m := by
  obtain ⟨calls, hc, hcalls⟩ := h.calls_eq
  exact ⟨h.script_eq, h.created_eq, calls, hc, fun call hcall => hk call (hcalls call hcall)⟩

instance {kind : Call → Bool} : Std.Refl (Endpoint.Adds kind) where
  refl e := ⟨rfl, .refl kind e.network⟩

instance {kind : Call → Bool} : IsTrans Endpoint (Endpoint.Adds kind) where
  trans _ _ _ h h' := ⟨h'.connection_eq.trans h.connection_eq, h.network.trans h'.network⟩

theorem Endpoint.Adds.mono {kind kind' : Call → Bool} {e f : Endpoint} (h : e.Adds kind f)
    (hk : ∀ call, kind call = true → kind' call = true) : e.Adds kind' f :=
  ⟨h.connection_eq, h.network.mono hk⟩

/-- The same where the calls are made on one socket, as long as that is the one that is held. -/
def Endpoint.AddsOn (kind : Call → Bool) (socket : Option Nat) (e f : Endpoint) : Prop :=
  e.connection.socket = socket → e.Adds (Call.isOn kind socket) f

instance {kind : Call → Bool} {socket : Option Nat} : Std.Refl (Endpoint.AddsOn kind socket) where
  refl e _ := Std.Refl.refl e

instance {kind : Call → Bool} {socket : Option Nat} :
    IsTrans Endpoint (Endpoint.AddsOn kind socket) where
  trans e f g h h' he := by
    have hf := h he
    exact IsTrans.trans _ _ _ hf (h' (by rw [hf.connection_eq, he]))

theorem Endpoint.AddsOn.adds {kind : Call → Bool} {e f : Endpoint}
    (h : e.AddsOn kind e.connection.socket f) : e.Adds kind f := by
  refine (h rfl).mono fun call hcall => ?_
  rw [Call.isOn, Bool.and_eq_true] at hcall
  exact hcall.1

theorem Endpoint.AddsOn.mono {kind kind' : Call → Bool} {socket : Option Nat} {e f : Endpoint}
    (h : e.AddsOn kind socket f) (hk : ∀ call, kind call = true → kind' call = true) :
    e.AddsOn kind' socket f := by
  intro he
  refine (h he).mono fun call hcall => ?_
  rw [Call.isOn, Bool.and_eq_true] at hcall ⊢
  exact ⟨hk call hcall.1, hcall.2⟩

namespace Transport

open Procedure

variable {kind : Call → Bool}

/-! ### Single steps -/

theorem run_attempt (call : Call) (e : Endpoint) :
    (attempt call).run e =
      (e.network.script.outcome call, { e with network := e.network.record call }) := by
  rw [attempt, run_bind]
  simp only [onNetwork, run_modify, run_bind, run_get, Network.record, Script.outcome]
  cases e.network.script call <;> rfl

theorem leaves_attempt {call : Call} (h : kind call = true) :
    (attempt call).Leaves (Endpoint.Adds kind) := by
  intro e
  rw [run_attempt]
  exact ⟨rfl, rfl, rfl, [call], rfl, by simpa using h⟩

theorem run_note (level : Level) (text : String) (e : Endpoint) :
    (note level text).run e = (.ok (), { e with network := e.network.note level text }) := rfl

theorem leaves_note (level : Level) (text : String) :
    (note level text).Leaves (Endpoint.Adds kind) := by
  intro e
  rw [run_note]
  exact ⟨rfl, rfl, rfl, [], by simp [Network.note], by simp⟩

theorem run_held (e : Endpoint) :
    held.run e = (orFault .missing e.connection.socket, e) := rfl

theorem run_demand_of_connected {e : Endpoint} (h : e.connection.connected = true) :
    demand.run e = (.ok (), e) := by
  rw [demand, run_bind, run_get]
  dsimp only
  rw [h]
  rfl

theorem run_demand_of_not_connected {e : Endpoint} (h : e.connection.connected = false) :
    demand.run e = (.error .closed, e) := by
  rw [demand, run_bind, run_get]
  dsimp only
  rw [h]
  rfl

/-- What needs the connection does nothing without it. -/
theorem run_demand_bind_of_not_connected {α : Type} {e : Endpoint}
    (h : e.connection.connected = false) (f : Unit → Transport α) :
    (demand >>= f).run e = (.error .closed, e) :=
  run_bind_error (run_demand_of_not_connected h)

theorem leaves_demand : demand.Leaves (Endpoint.Adds kind) := by
  intro e
  cases h : e.connection.connected with
  | true =>
    rw [run_demand_of_connected h]
    exact Std.Refl.refl e
  | false =>
    rw [run_demand_of_not_connected h]
    exact Std.Refl.refl e

/-! ### Sending -/

/-- Where a connection sends to unless told otherwise. -/
def target (settings : Settings) : Address := ⟨settings.target, settings.port⟩

theorem run_send_of_not_connected {e : Endpoint} (h : e.connection.connected = false)
    (data : Value) (address : Option Address) :
    (send data address).run e = (.error .closed, e) :=
  run_demand_bind_of_not_connected h _

/-- A command that has no packet is refused for that, whether there is a connection or not. -/
theorem run_sendCommand_of_not_connected {e : Endpoint} (h : e.connection.connected = false)
    (command : Value) (address : Option Address) :
    (sendCommand command address).run e =
      (.error (match Packet.encode command with
        | .ok _ => .closed
        | .error fault => fault), e) := by
  rw [sendCommand, run_bind, run_conclude]
  cases Packet.encode command with
  | error fault => rfl
  | ok packet => exact run_send_of_not_connected h (.bytes packet) address

/-- The bytes of a packet are sent from the socket that is held, if the target can be stated. -/
theorem run_send_bytes {e : Endpoint} {socket : Nat} {there : String} (bs : Bytes)
    (hc : e.connection.connected = true) (hs : e.connection.socket = some socket)
    (hp : place e.connection.settings.target e.connection.settings.port = .ok there) :
    (send (.bytes bs) none).run e =
      ((e.network.script.outcome (.send socket bs (target e.connection.settings))).map fun _ =>
          bs.length,
        { e with network := (e.network.note .debug ("Sending " ++ Digits.decimal bs.length ++
          " bytes to " ++ there)).record (.send socket bs (target e.connection.settings)) }) := by
  rw [send, run_bind_ok (run_demand_of_connected hc)]
  simp only [run_bind, run_get, run_conclude, Option.getD_none, hp, Value.size, Value.size?,
    orFault, run_note, run_held, hs, Value.asBytes, run_attempt, run_pure, Network.script_note,
    target]
  cases e.network.script.outcome (.send socket bs ⟨_, _⟩) <;> rfl

/-- Otherwise there is a fault, and nothing is called. -/
theorem run_send_bytes_refused {e : Endpoint} (bs : Bytes)
    (h : ¬ (e.connection.connected = true ∧ (∃ socket, e.connection.socket = some socket) ∧
      ∃ there, place e.connection.settings.target e.connection.settings.port = .ok there)) :
    ∃ fault log, (send (.bytes bs) none).run e =
      (.error fault, { e with network := { e.network with log := log } }) := by
  cases hc : e.connection.connected with
  | false => exact ⟨.closed, e.network.log, run_send_of_not_connected hc _ _⟩
  | true =>
    rw [send, run_bind_ok (run_demand_of_connected hc)]
    simp only [run_bind, run_get, run_conclude, Option.getD_none, Value.size, Value.size?, orFault]
    cases hp : place e.connection.settings.target e.connection.settings.port with
    | error fault => exact ⟨fault, e.network.log, rfl⟩
    | ok there =>
      cases hs : e.connection.socket with
      | none =>
        simp only [run_note, run_held, hs]
        exact ⟨.missing, _, rfl⟩
      | some socket => exact absurd ⟨hc, ⟨socket, hs⟩, there, hp⟩ h

/-- What sending a command comes to: its packet is sent from the socket that is held to the target,
or there is a fault, and nothing was sent that the script let through. -/
theorem sendCommand_cases (command : Value) (e : Endpoint) :
    (∃ packet socket log, Packet.encode command = .ok packet ∧
        e.connection.socket = some socket ∧
        e.network.script (.send socket packet (target e.connection.settings)) = none ∧
        (sendCommand command none).run e = (.ok packet.length,
          { e with network := { e.network with
            calls := e.network.calls ++ [.send socket packet (target e.connection.settings)]
            log := log } })) ∨
      ∃ fault f, (sendCommand command none).run e = (.error fault, f) ∧
        e.Adds e.network.script.failsToSend f := by
  rw [sendCommand, run_bind, run_conclude]
  cases Packet.encode command with
  | error fault => exact .inr ⟨fault, e, rfl, Std.Refl.refl e⟩
  | ok packet =>
    dsimp only
    by_cases hready : e.connection.connected = true ∧
      (∃ socket, e.connection.socket = some socket) ∧
      ∃ there, place e.connection.settings.target e.connection.settings.port = .ok there
    · obtain ⟨hconn, ⟨socket, hs⟩, there, hp⟩ := hready
      rw [run_send_bytes packet hconn hs hp, Script.outcome]
      cases hc : e.network.script (.send socket packet (target e.connection.settings)) with
      | none => exact .inl ⟨packet, socket, _, rfl, hs, hc, rfl⟩
      | some fault =>
        refine .inr ⟨fault, _, rfl, rfl, rfl, rfl, [_], rfl, ?_⟩
        simp [Script.failsToSend, Call.isSend, hc]
    · obtain ⟨fault, log, hr⟩ := run_send_bytes_refused packet hready
      rw [hr]
      exact .inr ⟨fault, _, rfl, rfl, rfl, rfl, [], by simp, by simp⟩

/-- What is done with the socket that is held is only done if there is one. -/
theorem leaves_held_bind {α : Type} {socket : Option Nat} {f : Nat → Transport α}
    (h : ∀ i, socket = some i → (f i).Leaves (Endpoint.AddsOn kind socket)) :
    (held >>= f).Leaves (Endpoint.AddsOn kind socket) := by
  intro e he
  rw [run_bind, run_held, he]
  cases socket with
  | none => exact Std.Refl.refl e
  | some i => exact h i rfl e he

/-- What leaves calls on a socket alone is no matter for the socket. -/
theorem leaves_on {α : Type} {p : Transport α} {socket : Option Nat}
    (h : p.Leaves (Endpoint.Adds (Call.isOn kind socket))) :
    p.Leaves (Endpoint.AddsOn kind socket) := fun e _ => h e

theorem leaves_attempt_on {call : Call} {i : Nat} (hk : kind call = true)
    (hs : call.socket? = some i) : (attempt call).Leaves (Endpoint.AddsOn kind (some i)) :=
  leaves_on (leaves_attempt (by simp [Call.isOn, hk, hs]))

/-- Sending makes calls on the socket that is held, and no others. -/
theorem leaves_send (data : Value) (address : Option Address) (socket : Option Nat) :
    (send data address).Leaves (Endpoint.AddsOn Call.isSend socket) := by
  refine leaves_bind (leaves_on leaves_demand) fun _ => leaves_bind leaves_get fun e =>
    leaves_bind (leaves_conclude _) fun size => leaves_bind (leaves_conclude _) fun there =>
    leaves_bind (leaves_on (leaves_note _ _)) fun _ => leaves_held_bind fun i hi => ?_
  subst hi
  exact leaves_bind (leaves_conclude _) fun bs => leaves_bind (leaves_attempt_on rfl rfl) fun _ =>
    leaves_pure _

theorem leaves_sendCommand_on (command : Value) (address : Option Address)
    (socket : Option Nat) :
    (sendCommand command address).Leaves (Endpoint.AddsOn Call.isSend socket) :=
  leaves_bind (leaves_conclude _) fun packet => leaves_send (.bytes packet) address socket

theorem leaves_sendCommand (command : Value) :
    (sendCommand command none).Leaves (Endpoint.Adds Call.isSend) :=
  fun e => (leaves_sendCommand_on command none _ e).adds

/-! ### Receiving -/

theorem leaves_take (i size : Nat) :
    (take i size).Leaves (Endpoint.AddsOn Call.isReceive (some i)) := by
  have queue (queue : List Datagram) : (onNetwork fun n => { n with queue := queue }).Leaves
      (Endpoint.AddsOn Call.isReceive (some i)) :=
    fun e _ => ⟨rfl, rfl, rfl, [], by simp [onNetwork], by simp⟩
  refine leaves_bind (leaves_attempt_on rfl rfl) fun _ => leaves_bind leaves_get fun e => ?_
  cases e.network.queue with
  | nil => exact leaves_throw _
  | cons d rest =>
    exact leaves_bind (queue rest) fun _ => leaves_bind (leaves_conclude _) fun _ => leaves_pure _

theorem run_receive_of_not_connected {e : Endpoint} (h : e.connection.connected = false)
    (timeout : Value) : (receive timeout).run e = (.error .closed, e) :=
  run_demand_bind_of_not_connected h _

theorem run_receiveCommand_of_not_connected {e : Endpoint} (h : e.connection.connected = false)
    (timeout : Value) : (receiveCommand timeout).run e = (.error .closed, e) :=
  run_bind_error (run_receive_of_not_connected h timeout)

/-- Receiving makes calls on the socket that is held, and no others. -/
theorem leaves_receive (timeout : Value) (socket : Option Nat) :
    (receive timeout).Leaves (Endpoint.AddsOn Call.isReceive socket) := by
  refine leaves_bind (leaves_on leaves_demand) fun _ => leaves_held_bind fun i hi => ?_
  subst hi
  refine leaves_bind (leaves_conclude _) fun seconds => leaves_bind (leaves_attempt_on rfl rfl)
    fun _ => leaves_bind (leaves_outcome (leaves_take i maxDatagram)) fun result => ?_
  cases result with
  | ok d => exact leaves_pure _
  | error fault =>
    dsimp only
    split
    · exact leaves_pure _
    · exact leaves_throw _

theorem leaves_receiveCommand_on (timeout : Value) (socket : Option Nat) :
    (receiveCommand timeout).Leaves (Endpoint.AddsOn Call.isReceive socket) := by
  refine leaves_bind (leaves_receive timeout socket) fun received => ?_
  cases received with
  | none => exact leaves_pure _
  | some d =>
    dsimp only
    cases Packet.decodeValue d.data with
    | ok command => exact leaves_pure _
    | error fault =>
      dsimp only
      split
      · exact leaves_bind (leaves_conclude _) fun _ =>
          leaves_bind (leaves_on (leaves_note _ _)) fun _ => leaves_pure _
      · exact leaves_throw _

theorem leaves_receiveCommand (timeout : Value) :
    (receiveCommand timeout).Leaves (Endpoint.Adds Call.isReceive) :=
  fun e => (leaves_receiveCommand_on timeout _ e).adds

end Transport

end DmxNet
