import DmxNet.Proofs.Network.Lifecycle

/-!
# Renumbered sockets

Only the order in which sockets are created gives them their numbers, and nothing depends on the
numbers but the calls that are made. So what a connection does on a network on which more sockets
were created before is the same, with all numbers in the calls moved up by as many.
-/

namespace DmxNet

/-- A call with the number of its socket moved up. -/
def Call.shift (gap : Nat) : Call → Call
  | .create => .create
  | .setOption socket option => .setOption (socket + gap) option
  | .bind socket host port => .bind (socket + gap) host port
  | .close socket => .close (socket + gap)
  | .send socket data address => .send (socket + gap) data address
  | .setTimeout socket seconds => .setTimeout (socket + gap) seconds
  | .receive socket size => .receive (socket + gap) size

/-- A connection with the number of its socket moved up. -/
def Connection.shift (gap : Nat) (c : Connection) : Connection :=
  { c with socket := c.socket.map (· + gap) }

/-- Networks that are the same but for the numbers of the sockets, since some calls on each. -/
structure Network.Renumbered (gap : Nat) (xs ys : List Call) (n m : Network) : Prop where
  script_eq : ∀ call, m.script call = n.script (call.shift gap)
  queue_eq : n.queue = m.queue
  created_eq : n.created = m.created + gap
  calls_eq : ∃ calls, n.calls = xs ++ calls.map (Call.shift gap) ∧ m.calls = ys ++ calls

/-- The same of endpoints, whose connections differ likewise. -/
structure Endpoint.Renumbered (gap : Nat) (xs ys : List Call) (e f : Endpoint) : Prop where
  connection_eq : e.connection = f.connection.shift gap
  network : e.network.Renumbered gap xs ys f.network

variable {gap : Nat} {xs ys : List Call}

theorem Endpoint.Renumbered.settings_eq {e f : Endpoint} (h : e.Renumbered gap xs ys f) :
    e.connection.settings = f.connection.settings := by
  rw [h.connection_eq]
  rfl

theorem Network.Renumbered.record {n m : Network} (h : n.Renumbered gap xs ys m) (call : Call) :
    (n.record (call.shift gap)).Renumbered gap xs ys (m.record call) := by
  obtain ⟨calls, hn, hm⟩ := h.calls_eq
  refine ⟨h.script_eq, h.queue_eq, h.created_eq, calls ++ [call], ?_, ?_⟩
  · simp [Network.record, hn]
  · simp [Network.record, hm]

theorem Network.Renumbered.note {n m : Network} (h : n.Renumbered gap xs ys m)
    (level : Level) (text : String) :
    (n.note level text).Renumbered gap xs ys (m.note level text) :=
  ⟨h.script_eq, h.queue_eq, h.created_eq, h.calls_eq⟩

namespace Transport

open Procedure

variable (gap xs ys) in
/-- Procedures that do the same on endpoints that are the same but for the numbers. -/
abbrev Renumbers {α β : Type} (A : α → β → Prop) (p : Transport α) (q : Transport β) : Prop :=
  Mirrors (Endpoint.Renumbered gap xs ys) A p q

/-! ### Single steps -/

theorem renumbers_onNetwork {f g : Network → Network}
    (h : ∀ n m : Network, n.Renumbered gap xs ys m → (f n).Renumbered gap xs ys (g m)) :
    Renumbers gap xs ys Eq (onNetwork f) (onNetwork g) :=
  mirrors_modify fun _ _ he => ⟨he.connection_eq, h _ _ he.network⟩

theorem renumbers_note (level : Level) (text : String) :
    Renumbers gap xs ys Eq (note level text) (note level text) :=
  renumbers_onNetwork fun _ _ h => h.note level text

theorem renumbers_attempt (call : Call) :
    Renumbers gap xs ys Eq (attempt (call.shift gap)) (attempt call) := by
  intro e f h
  rw [run_attempt, run_attempt]
  refine ⟨?_, h.connection_eq, h.network.record call⟩
  rw [Script.outcome, Script.outcome, h.network.script_eq]
  exact .refl _

theorem renumbers_create :
    Renumbers gap xs ys (fun k l => k = l + gap) create create := by
  refine mirrors_bind_eq (renumbers_attempt .create) fun _ => mirrors_bind mirrors_get
    fun e f h => mirrors_bind_eq (renumbers_onNetwork fun n m hn => ?_) fun _ =>
    mirrors_pure h.network.created_eq
  refine ⟨hn.script_eq, hn.queue_eq, ?_, hn.calls_eq⟩
  rw [hn.created_eq]
  exact Nat.add_right_comm _ _ _

theorem renumbers_hold (socket : Nat) :
    Renumbers gap xs ys Eq (hold (socket + gap)) (hold socket) :=
  mirrors_modify fun e f h => by
    refine ⟨?_, h.network⟩
    rw [h.connection_eq]
    rfl

theorem renumbers_release : Renumbers gap xs ys Eq release release :=
  mirrors_modify fun e f h => by
    refine ⟨?_, h.network⟩
    rw [h.connection_eq]
    rfl

theorem renumbers_demand : Renumbers gap xs ys Eq demand demand := by
  refine mirrors_bind mirrors_get fun e f h => ?_
  rw [h.connection_eq, Connection.shift]
  split
  · exact mirrors_pure rfl
  · exact mirrors_throw _

theorem renumbers_held : Renumbers gap xs ys (fun k l => k = l + gap) held held := by
  refine mirrors_bind mirrors_get fun e f h => ?_
  rw [h.connection_eq, Connection.shift]
  cases f.connection.socket with
  | none => exact mirrors_throw _
  | some socket => exact mirrors_pure rfl

theorem renumbers_take (socket size : Nat) :
    Renumbers gap xs ys Eq (take (socket + gap) size) (take socket size) := by
  refine mirrors_bind_eq (renumbers_attempt (.receive socket size)) fun _ =>
    mirrors_bind mirrors_get fun e f h => ?_
  rw [h.network.queue_eq]
  cases f.network.queue with
  | nil => exact mirrors_throw _
  | cons d rest =>
    refine mirrors_bind_eq (renumbers_onNetwork fun n m hn => ?_) fun _ =>
      mirrors_bind_eq (mirrors_conclude _) fun data => mirrors_pure rfl
    exact ⟨hn.script_eq, rfl, hn.created_eq, hn.calls_eq⟩

/-! ### Opening and closing -/

theorem renumbers_attempts (calls : List Call) :
    Renumbers gap xs ys Eq (forM (calls.map (Call.shift gap)) attempt) (forM calls attempt) := by
  induction calls with
  | nil => exact mirrors_pure rfl
  | cons call calls ih => exact mirrors_bind_eq (renumbers_attempt call) fun _ => ih

theorem renumbers_prepare (socket : Nat) (settings : Settings) :
    Renumbers gap xs ys Eq (prepare (socket + gap) settings) (prepare socket settings) := by
  have hp : preparation (socket + gap) settings =
      (preparation socket settings).map (Call.shift gap) := by
    unfold preparation
    cases settings.broadcast.truth <;> rfl
  rw [prepare_eq, prepare_eq, hp]
  exact renumbers_attempts _

theorem renumbers_abandon (socket : Nat) (settings : Settings) (reason : String) :
    Renumbers gap xs ys Eq (abandon (socket + gap) settings reason)
      (abandon socket settings reason) :=
  mirrors_bind_eq (renumbers_attempt (.close socket)) fun _ =>
    mirrors_bind_eq (mirrors_conclude _) fun _ =>
    mirrors_bind_eq (mirrors_conclude _) fun _ => mirrors_throw _

theorem renumbers_openSocket : Renumbers gap xs ys Eq openSocket openSocket := by
  refine mirrors_bind mirrors_get fun e f h => mirrors_bind renumbers_create fun _ socket hs => ?_
  subst hs
  rw [h.settings_eq]
  refine mirrors_outcome_bind (renumbers_prepare _ _) fun result => ?_
  -- What is left to do once the socket is prepared stands behind each of the cases.
  have hrest := mirrors_bind_eq (S := Endpoint.Renumbered gap xs ys) (B := Eq)
    (renumbers_hold socket) fun _ =>
    mirrors_bind_eq (mirrors_conclude (place f.connection.settings.bind f.connection.settings.port))
    fun bound => mirrors_bind_eq (mirrors_conclude f.connection.settings.target.logged) fun target =>
    mirrors_bind_eq (renumbers_note .info
      ("Art-Net socket bound on " ++ bound ++ ", target " ++ target)) fun _ =>
    mirrors_pure (rfl : f.connection.settings = _)
  cases result with
  | ok _ => exact hrest
  | error fault =>
    dsimp only
    split
    · exact mirrors_bind_eq (renumbers_abandon socket _ _) fun _ => hrest
    · exact mirrors_bind_eq (mirrors_throw _) fun _ => hrest

theorem renumbers_reportClose (result : Except Fault Unit) :
    Renumbers gap xs ys Eq (reportClose result) (reportClose result) := by
  unfold reportClose
  split
  · split
    · exact renumbers_note _ _
    · exact mirrors_pure rfl
  · exact mirrors_pure rfl

theorem renumbers_shut : Renumbers gap xs ys Eq shut shut := by
  refine mirrors_bind renumbers_held fun _ socket hs => ?_
  subst hs
  exact renumbers_attempt (.close socket)

theorem renumbers_closeSocket : Renumbers gap xs ys Eq closeSocket closeSocket := by
  refine mirrors_bind mirrors_get fun e f h => ?_
  rw [h.connection_eq, Connection.shift]
  cases f.connection.connected with
  | false => exact mirrors_pure rfl
  | true =>
    exact mirrors_outcome_bind renumbers_shut fun result =>
      mirrors_bind_eq (renumbers_reportClose result) fun _ =>
      mirrors_bind_eq renumbers_release fun _ =>
      mirrors_bind_eq (renumbers_note _ _) fun _ => mirrors_conclude _

/-! ### Sending and receiving -/

theorem renumbers_send (data : Value) :
    Renumbers gap xs ys Eq (send data none) (send data none) := by
  refine mirrors_bind_eq renumbers_demand fun _ => mirrors_bind mirrors_get fun e f h => ?_
  rw [h.settings_eq]
  refine mirrors_bind_eq (mirrors_conclude _) fun size =>
    mirrors_bind_eq (mirrors_conclude _) fun there =>
    mirrors_bind_eq (renumbers_note _ _) fun _ =>
    mirrors_bind renumbers_held fun _ socket hs => ?_
  subst hs
  exact mirrors_bind_eq (mirrors_conclude _) fun bs =>
    mirrors_bind_eq (renumbers_attempt (.send socket bs _)) fun _ => mirrors_pure rfl

theorem renumbers_sendCommand (command : Value) :
    Renumbers gap xs ys Eq (sendCommand command none) (sendCommand command none) :=
  mirrors_bind_eq (mirrors_conclude _) fun _ => renumbers_send _

theorem renumbers_receive (timeout : Value) :
    Renumbers gap xs ys Eq (receive timeout) (receive timeout) := by
  refine mirrors_bind_eq renumbers_demand fun _ => mirrors_bind renumbers_held
    fun _ socket hs => mirrors_bind_eq (mirrors_conclude _) fun seconds => ?_
  subst hs
  refine mirrors_bind_eq (renumbers_attempt (.setTimeout socket seconds)) fun _ =>
    mirrors_outcome_bind (renumbers_take socket maxDatagram) fun result => ?_
  cases result with
  | ok d => exact mirrors_pure rfl
  | error fault =>
    dsimp only
    split
    · exact mirrors_pure rfl
    · exact mirrors_throw _

theorem renumbers_receiveCommand (timeout : Value) :
    Renumbers gap xs ys Eq (receiveCommand timeout) (receiveCommand timeout) := by
  refine mirrors_bind_eq (renumbers_receive timeout) fun received => ?_
  cases received with
  | none => exact mirrors_pure rfl
  | some d =>
    dsimp only
    cases Packet.decodeValue d.data with
    | ok command => exact mirrors_pure rfl
    | error fault =>
      dsimp only
      split
      · exact mirrors_bind_eq (mirrors_conclude _) fun sender =>
          mirrors_bind_eq (renumbers_note _ _) fun _ => mirrors_pure rfl
      · exact mirrors_throw _

end Transport

end DmxNet
