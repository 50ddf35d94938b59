import DmxNet.Console.Request
import DmxNet.Proofs.Network.Lifecycle

/-!
# Sessions

A session is a console that is asked for one thing after another. In each turn the network may let
other calls fail, and datagrams may have arrived before it (`Turn`). What is known of the turns that
were taken is a journal: for each one the reply and the calls that were made in it
(`Console.journal`).

A tool is served by the open connection, if there is one (`Console.open?`); otherwise the tools that
need it fail and do nothing. Sending time codes and receiving packets change neither the connection
nor the sequence numbers (`leaves_sendTimecode`, `leaves_receivePacket`).
-/

namespace DmxNet

/-! ### Turns -/

/-- One turn of a session. -/
structure Turn where
  /-- Which calls fail in the turn. -/
  script : Script := fun _ => none
  /-- The datagrams that arrived before it. -/
  arrivals : List Datagram := []
  /-- What is asked for. -/
  request : Request

/-- What is known of a turn that was taken. -/
structure Entry where
  turn : Turn
  reply : Except Fault Reply
  /-- The calls that were made. -/
  calls : List Call

/-- The console as a turn finds it. -/
def Turn.meet (t : Turn) (c : Console) : Console :=
  { c with network := { c.network with
      script := t.script
      queue := c.network.queue ++ t.arrivals } }

/-- Takes a turn: the reply, and the console after it. -/
def Turn.play (t : Turn) (c : Console) : Except Fault Reply × Console :=
  t.request.serve.run (t.meet c)

namespace Console

/-- What becomes known of a turn. -/
def entry (c : Console) (t : Turn) : Entry where
  turn := t
  reply := (t.play c).1
  calls := (t.play c).2.network.calls.drop c.network.calls.length

/-- The console after turns. -/
def after (c : Console) (turns : List Turn) : Console := turns.foldl (fun c t => (t.play c).2) c

/-- What becomes known of turns. -/
def journal : Console → List Turn → List Entry
  | _, [] => []
  | c, t :: turns => c.entry t :: (t.play c).2.journal turns

variable (c : Console)

@[simp] theorem after_nil : c.after [] = c := rfl

@[simp] theorem after_cons (t : Turn) (turns : List Turn) :
    c.after (t :: turns) = (t.play c).2.after turns := rfl

@[simp] theorem after_concat (turns : List Turn) (t : Turn) :
    c.after (turns ++ [t]) = (t.play (c.after turns)).2 := by
  simp [after]

@[simp] theorem journal_nil : c.journal [] = [] := rfl

@[simp] theorem journal_cons (t : Turn) (turns : List Turn) :
    c.journal (t :: turns) = c.entry t :: (t.play c).2.journal turns := rfl

theorem journal_append (turns later : List Turn) :
    c.journal (turns ++ later) = c.journal turns ++ (c.after turns).journal later := by
  induction turns generalizing c with
  | nil => rfl
  | cons t turns ih => simp [ih]

/-- The calls of a turn are those that it put on record. -/
theorem entry_calls {c : Console} {t : Turn} {calls : List Call}
    (h : (t.play c).2.network.calls = c.network.calls ++ calls) : (c.entry t).calls = calls := by
  rw [entry, h, List.drop_left]

/-! ### The open connection -/

/-- The connection that is open. -/
def open? : Option Connection := c.connection.filter Connection.connected

variable {c}

theorem open?_eq_some_iff {connection : Connection} :
    c.open? = some connection ↔
      c.connection = some connection ∧ connection.connected = true := by
  rw [open?, Option.filter_eq_some_iff]

theorem open?_eq_none_iff :
    c.open? = none ↔
      ∀ connection, c.connection = some connection → connection.connected = false := by
  simp [open?, Option.filter_eq_none_iff]

/-- A console on which nothing was done since it was another but on its network, by calls of some
kind. -/
structure Adds (kind : Call → Bool) (c d : Console) : Prop where
  connection_eq : d.connection = c.connection
  sequences_eq : d.sequences = c.sequences
  network : c.network.Adds kind d.network

instance {kind : Call → Bool} : Std.Refl (Adds kind) where
  refl c := ⟨rfl, rfl, .refl kind c.network⟩

instance {kind : Call → Bool} : IsTrans Console (Adds kind) where
  trans _ _ _ h h' := ⟨h'.connection_eq.trans h.connection_eq,
    h'.sequences_eq.trans h.sequences_eq, h.network.trans h'.network⟩

theorem Adds.mono {kind kind' : Call → Bool} {c d : Console} (h : c.Adds kind d)
    (hk : ∀ call, kind call = true → kind' call = true) : c.Adds kind' d :=
  ⟨h.connection_eq, h.sequences_eq, h.network.mono hk⟩

end Console

namespace Service

open Procedure

variable {kind : Call → Bool} {α : Type} {c : Console} {connection : Connection}

theorem run_openConnection (c : Console) :
    openConnection.run c = (orFault .disconnected c.open?, c) := by
  rw [openConnection, run_bind, run_get, Console.open?]
  dsimp only
  cases c.connection with
  | none => rfl
  | some connection =>
    rw [Option.filter_some]
    dsimp only
    cases connection.connected <;> rfl

theorem run_through (connection : Connection) (act : Transport α) (c : Console) :
    (through connection act).run c = ((act.run ⟨connection, c.network⟩).1,
      { c with
        connection := some (act.run ⟨connection, c.network⟩).2.connection
        network := (act.run ⟨connection, c.network⟩).2.network }) := rfl

theorem adds_through {act : Transport α} (hc : c.connection = some connection)
    (h : act.Leaves (Endpoint.Adds kind)) : c.Adds kind ((through connection act).run c).2 := by
  have ha := h ⟨connection, c.network⟩
  rw [run_through]
  exact ⟨(congrArg some ha.connection_eq).trans hc.symm, rfl, ha.network⟩

theorem leaves_note (level : Level) (text : String) :
    (note level text).Leaves (Console.Adds kind) :=
  fun _ => ⟨rfl, rfl, rfl, rfl, [], (List.append_nil _).symm, by simp⟩

/-- What is done with the open connection is only done if there is one. -/
theorem leaves_openConnection_bind {f : Connection → Service α}
    (h : ∀ (c : Console) connection, c.open? = some connection →
      c.Adds kind ((f connection).run c).2) :
    (openConnection >>= f).Leaves (Console.Adds kind) := by
  intro c
  rw [run_bind, run_openConnection]
  cases hc : c.open? with
  | none => exact Std.Refl.refl c
  | some connection => exact h c connection hc

end Service

namespace Console

open Procedure Service

/-! ### Tools that leave connection and numbers alone -/

theorem leaves_receivePacket (timeout : Value) :
    (receivePacket timeout).Leaves (Adds Call.isReceive) := by
  refine leaves_openConnection_bind fun c connection hc => leaves_bind_from
    (adds_through (open?_eq_some_iff.mp hc).1 (Transport.leaves_receiveCommand timeout)) ?_
  intro received d _
  cases received with
  | none => exact leaves_pure _ d
  | some command => exact leaves_bind (leaves_conclude _) (fun _ => leaves_pure _) d

theorem adds_composeAndSendPosition {c : Console} {connection : Connection}
    (hc : c.connection = some connection)
    (hours minutes seconds frames keyType stream : Value) :
    c.Adds Call.isSend ((composeAndSendPosition connection hours minutes seconds frames keyType
      stream).run c).2 := by
  refine leaves_bind_from (leaves_conclude _ c) fun command d hd => ?_
  obtain ⟨-, rfl⟩ := Prod.mk.inj hd
  exact leaves_bind_from (adds_through hc (Transport.leaves_sendCommand command))
    fun bytes d _ => leaves_pure _ d

theorem leaves_sendTimecode (hours minutes seconds frames keyType stream : Value) :
    (sendTimecode hours minutes seconds frames keyType stream).Leaves (Adds Call.isSend) := by
  refine leaves_openConnection_bind fun c connection hc => leaves_bind_from
    (adds_composeAndSendPosition (open?_eq_some_iff.mp hc).1 ..) ?_
  intro result d _
  rcases result with fault | ⟨command, bytes⟩
  · dsimp only
    split
    · exact leaves_pure _ d
    · exact leaves_throw _ d
  · exact leaves_bind (leaves_conclude _) (fun _ => leaves_pure _) d

/-- The status is that of the open connection, if there is one. -/
theorem run_status (c : Console) : status.run c = ((statusOf c.open?).map .text, c) := by
  have hopen : statusOf c.connection = statusOf c.open? := by
    rw [open?]
    cases c.connection with
    | none => rfl
    | some connection =>
      rw [Option.filter_some]
      cases hconn : connection.connected with
      | true => rfl
      | false => simp [statusOf, hconn]
  rw [status, run_bind, run_get]
  dsimp only
  rw [run_bind, run_conclude, hopen]
  cases statusOf c.open? <;> rfl

/-! ### Connecting and disconnecting -/

section

variable {c : Console} {connection : Connection} {settings : Settings}

/-- Connecting does nothing while a connection is open. -/
theorem run_connect_of_open (h : c.open? = some connection) :
    (connect settings).run c = (.ok (.alreadyConnected connection.settings.target), c) := by
  obtain ⟨hc, hconn⟩ := open?_eq_some_iff.mp h
  rw [connect, run_bind, run_get]
  dsimp only
  rw [hc]
  dsimp only
  rw [if_pos hconn]
  rfl

/-- Connecting opens a new connection otherwise. -/
theorem run_connect_eq (h : c.open? = none) :
    (connect settings).run c = (through { settings } Transport.openSocket >>= fun opened =>
      pure (.connected opened.target opened.port opened.bind)).run c := by
  rw [connect, run_bind, run_get]
  dsimp only
  cases hc : c.connection with
  | none => rfl
  | some connection =>
    have hconn := open?_eq_none_iff.mp h connection hc
    dsimp only
    rw [if_neg (by simp [hconn])]

/-- The new connection becomes the console's, whether it could be opened or not. -/
theorem run_connect (h : c.open? = none) :
    (connect settings).run c =
      ((Transport.openSocket.run ⟨{ settings }, c.network⟩).1.map fun opened =>
          .connected opened.target opened.port opened.bind,
        { c with
          connection := some (Transport.openSocket.run ⟨{ settings }, c.network⟩).2.connection
          network := (Transport.openSocket.run ⟨{ settings }, c.network⟩).2.network }) := by
  rw [run_connect_eq h, run_bind, run_through]
  cases (Transport.openSocket.run ⟨{ settings }, c.network⟩).1 <;> rfl

theorem run_disconnect_of_none (h : c.connection = none) :
    disconnect.run c = (.ok .disconnected, c) := by
  rw [disconnect, run_bind, run_get]
  dsimp only
  rw [h]
  rfl

/-- Disconnecting closes the connection, and then forgets it and the numbers. -/
theorem run_disconnect_eq (h : c.connection = some connection) :
    disconnect.run c = (through connection Transport.closeSocket >>= fun _ =>
      modify (fun c => { c with connection := none, sequences := [] }) >>= fun _ =>
      pure .disconnected).run c := by
  rw [disconnect, run_bind, run_get]
  dsimp only
  rw [h]

theorem run_disconnect (h : c.connection = some connection) :
    disconnect.run c =
      match Transport.closeSocket.run ⟨connection, c.network⟩ with
      | (.ok _, e) => (.ok .disconnected, { connection := none, sequences := [], network := e.network })
      | (.error fault, e) =>
        (.error fault, { c with connection := some e.connection, network := e.network }) := by
  rw [run_disconnect_eq h, run_bind, run_through]
  cases Transport.closeSocket.run ⟨connection, c.network⟩ with
  | mk result e => cases result <;> rfl

/-- A connection that is not open is only forgotten. -/
theorem run_disconnect_of_not_open (h : c.open? = none) (hs : c.sequences = []) :
    disconnect.run c =
      (.ok .disconnected, { connection := none, sequences := [], network := c.network }) := by
  cases hc : c.connection with
  | none =>
    rw [run_disconnect_of_none hc, ← hc, ← hs]
  | some connection =>
    rw [run_disconnect hc,
      Transport.run_closeSocket_of_not_connected (open?_eq_none_iff.mp h connection hc)]

end

end Console

end DmxNet
