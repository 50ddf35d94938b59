import DmxNet.Proofs.Network.Lifecycle
import Mathlib.Data.List.Induction

/-!
# Uses of a connection

A connection is opened, closed, sent on and received on, in any order and any number of times
(`Use`). On each occasion the network may let other calls fail, and datagrams may have arrived
before it (`Occasion`). What is known of the occasions is a journal: for each the result, the calls
that were made, and the socket that was held before it (`Endpoint.journal`).

A connection that is used so keeps to the life of its sockets (`sockets_within_life`): it is
connected exactly while it holds a socket, and that one has been bound and was never closed; what it
sends and receives goes through that socket; and what cannot be done leaves it as it was. The
invariant behind this is `Endpoint.Lives`.
-/

namespace DmxNet

/-- What a connection is used for. -/
inductive Use where
  | opening
  | closing
  | write (data : Value) (address : Option Address)
  | send (command : Value) (address : Option Address)
  | read (timeout : Value)
  | receive (timeout : Value)

/-- What a use answers. -/
inductive Use.Answer where
  | opened (settings : Settings)
  | closed
  | sent (bytes : Nat)
  | read (datagram : Option Datagram)
  | received (command : Option Value)

namespace Use

/-- Uses a connection. -/
def perform : Use → Transport Answer
  | .opening => Answer.opened <$> Transport.openSocket
  | .closing => (fun _ => Answer.closed) <$> Transport.closeSocket
  | .write data address => Answer.sent <$> Transport.send data address
  | .send command address => Answer.sent <$> Transport.sendCommand command address
  | .read timeout => Answer.read <$> Transport.receive timeout
  | .receive timeout => Answer.received <$> Transport.receiveCommand timeout

/-- Whether a use sends or receives. -/
def isTraffic : Use → Bool
  | .opening | .closing => false
  | _ => true

/-- How a use ends on a connection that is not connected, unless it is to open it: a command that
has no packet is refused for that. -/
def idle? : Use → Option (Except Fault Answer)
  | .opening => none
  | .closing => some (.ok .closed)
  | .send command _ => some (.error
    (match Packet.encode command with
      | .ok _ => .closed
      | .error fault => fault))
  | .write .. | .read _ | .receive _ => some (.error .closed)

end Use

/-! ### Occasions -/

/-- An occasion on which a connection is used. -/
structure Occasion where
  /-- Which calls fail on the occasion. -/
  script : Script := fun _ => none
  /-- The datagrams that arrived before it. -/
  arrivals : List Datagram := []
  /-- What the connection is used for. -/
  use : Use

/-- What is known of an occasion that has passed. -/
structure Account where
  occasion : Occasion
  /-- The socket that was held before it. -/
  held : Option Nat
  result : Except Fault Use.Answer
  /-- The calls that were made. -/
  calls : List Call

/-- The endpoint as an occasion finds it. -/
def Occasion.meet (o : Occasion) (e : Endpoint) : Endpoint :=
  { e with network := { e.network with
      script := o.script
      queue := e.network.queue ++ o.arrivals } }

/-- Uses the connection on an occasion: the result, and the endpoint after it. -/
def Occasion.take (o : Occasion) (e : Endpoint) : Except Fault Use.Answer × Endpoint :=
  o.use.perform.run (o.meet e)

namespace Endpoint

/-- A new connection, on a network on which nothing was done. -/
def start (settings : Settings) : Endpoint := ⟨{ settings }, {}⟩

/-- What becomes known of an occasion. -/
def account (e : Endpoint) (o : Occasion) : Account where
  occasion := o
  held := e.connection.socket
  result := (o.take e).1
  calls := (o.take e).2.network.calls.drop e.network.calls.length

/-- The endpoint after occasions. -/
def after (e : Endpoint) (os : List Occasion) : Endpoint := os.foldl (fun e o => (o.take e).2) e

/-- What becomes known of occasions. -/
def journal : Endpoint → List Occasion → List Account
  | _, [] => []
  | e, o :: os => e.account o :: (o.take e).2.journal os

@[simp] theorem after_concat (e : Endpoint) (os : List Occasion) (o : Occasion) :
    e.after (os ++ [o]) = (o.take (e.after os)).2 := by
  simp [after]

theorem journal_concat (e : Endpoint) (os : List Occasion) (o : Occasion) :
    e.journal (os ++ [o]) = e.journal os ++ [(e.after os).account o] := by
  induction os generalizing e with
  | nil => rfl
  | cons o' os ih => simp [journal, ih, after]

/-- The calls of an occasion are those that it put on record. -/
theorem account_calls {e : Endpoint} {o : Occasion} {calls : List Call}
    (h : (o.take e).2.network.calls = e.network.calls ++ calls) : (e.account o).calls = calls := by
  rw [account, h, List.drop_left]

/-! ### Single uses -/

section

variable {e : Endpoint} {o : Occasion}

theorem take_opening (h : o.use = .opening) :
    o.take e = ((Transport.openSocket.run (o.meet e)).1.map .opened,
      (Transport.openSocket.run (o.meet e)).2) := by
  rw [Occasion.take, h]
  exact Procedure.run_map_eq _ _ _

/-- An occasion on which a connection could not be opened, and the calls that were made on it. -/
structure Unopened (e : Endpoint) (o : Occasion) (calls : List Call) : Prop where
  connection_eq : (o.take e).2.connection = e.connection
  calls_eq : (o.take e).2.network.calls = e.network.calls ++ calls
  created_le : e.network.created ≤ (o.take e).2.network.created
  failed : o.script.failsAny calls = true
  quiet : ∀ call ∈ calls, call.isTraffic = false
  /-- No socket is closed but the new one. -/
  closed_new : ∀ i, .close i ∈ calls →
    e.network.created ≤ i ∧ i < (o.take e).2.network.created
  /-- The new socket is closed, if the system was what refused. -/
  new_closed : o.script.OfSystem → ∀ i, e.network.created ≤ i →
    i < (o.take e).2.network.created → .close i ∈ calls

/-- The calls that open a connection: those that create a socket and prepare it. -/
def openingCalls (e : Endpoint) : List Call :=
  .create :: Transport.preparation e.network.created e.connection.settings

/-- An occasion on which a connection was opened. -/
structure Opened (e : Endpoint) (o : Occasion) : Prop where
  connection_eq : (o.take e).2.connection =
    { e.connection with socket := some e.network.created, connected := true }
  calls_eq : (o.take e).2.network.calls = e.network.calls ++ e.openingCalls
  created_eq : (o.take e).2.network.created = e.network.created + 1
  passed : ∀ call ∈ e.openingCalls, o.script call = none
  /-- The settings are the answer if they can be logged. -/
  result_eq : (o.take e).1 = (Transport.stated e.connection.settings).map .opened

/-- The calls that prepare a socket neither send nor receive. -/
theorem isTraffic_preparation (i : Nat) (settings : Settings) :
    ∀ call ∈ Transport.preparation i settings, call.isTraffic = false := by
  intro call hcall
  unfold Transport.preparation at hcall
  split at hcall <;> simp at hcall <;> rcases hcall with rfl | rfl | rfl <;> rfl

/-- Closing a socket that could not be prepared. -/
theorem unopened_of_abandoned {cause : Fault} {calls : List Call}
    (hconn : (o.take e).2.connection = e.connection)
    (hcreated : (o.take e).2.network.created = e.network.created + 1)
    (hcalls : (o.take e).2.network.calls = e.network.calls ++ .create ::
      (o.script.made (Transport.preparation e.network.created e.connection.settings) ++ calls))
    (hprepare : (Transport.preparation e.network.created e.connection.settings).findSome?
      o.script = some cause)
    (hrest : calls = if cause.isSystem then [.close e.network.created] else []) :
    ∃ calls, Unopened e o calls := by
  have hmade (i : Nat) : .close i ∉ o.script.made
      (Transport.preparation e.network.created e.connection.settings) :=
    fun hm => Transport.close_not_mem_preparation i _ _ (Script.made_subset _ _ hm)
  refine ⟨_, hconn, hcalls, by omega, Transport.failsAny_abandoned calls hprepare, ?_, ?_, ?_⟩
  · intro call hcall
    rw [List.mem_cons, List.mem_append] at hcall
    rcases hcall with rfl | hcall | hcall
    · rfl
    · exact isTraffic_preparation _ _ call (Script.made_subset _ _ hcall)
    · rw [hrest] at hcall
      split at hcall <;> simp at hcall
      subst hcall
      rfl
  · intro i hi
    have hi : .close i ∈ calls := by simpa [hmade] using hi
    rw [hrest] at hi
    split at hi <;> simp at hi
    omega
  · intro hsystem i hle hlt
    obtain rfl : i = e.network.created := by omega
    obtain ⟨call, -, hcall⟩ := List.exists_of_findSome?_eq_some hprepare
    rw [hrest, if_pos (hsystem call cause hcall)]
    simp

/-- Opening a connection goes through or does not. -/
theorem unopened_or_opened (ho : o.use = .opening) :
    (∃ calls, Unopened e o calls) ∨ Opened e o := by
  have htake := take_opening (e := e) ho
  have hopening := Transport.opening (o.meet e)
  generalize Transport.openSocket.run (o.meet e) = result at htake hopening
  cases hopening with
  | @refused fault create =>
    refine .inl ⟨[.create], ?_⟩
    have hcreated : (o.take e).2.network.created = e.network.created := by
      rw [htake]
      rfl
    refine ⟨by rw [htake]; rfl, by rw [htake]; rfl, by omega, Transport.failsAny_refused create,
      ?_, by simp, fun _ i hle hlt => by omega⟩
    simp [Call.isTraffic, Call.isSend, Call.isReceive]
  | abandoned fault create prepare =>
    refine .inl (unopened_of_abandoned ?_ ?_ ?_ prepare rfl)
    all_goals rw [htake]
    all_goals rfl
  | bound log create prepare =>
    refine .inr ⟨by rw [htake]; rfl, by rw [htake]; rfl, by rw [htake]; rfl, ?_, by rw [htake]; rfl⟩
    intro call hcall
    rcases List.mem_cons.mp hcall with rfl | hcall
    · exact create
    · exact List.findSome?_eq_none_iff.mp prepare call hcall

theorem take_closing (h : o.use = .closing) :
    o.take e = ((Transport.closeSocket.run (o.meet e)).1.map fun _ => .closed,
      (Transport.closeSocket.run (o.meet e)).2) := by
  rw [Occasion.take, h]
  exact Procedure.run_map_eq _ _ _

/-- Closing a connection closes the socket that is held, and lets go of it. -/
theorem take_closing_of_held {i : Nat} (ho : o.use = .closing)
    (hc : e.connection.connected = true) (hi : e.connection.socket = some i) :
    ∃ log, (o.take e).2 =
      { connection := { e.connection with socket := none, connected := false }
        network := { (o.meet e).network with
          calls := e.network.calls ++ [.close i]
          log := log } } := by
  obtain ⟨log, hr⟩ := Transport.run_closeSocket (e := o.meet e) hc hi
  rw [take_closing ho, hr]
  exact ⟨log, rfl⟩

/-- What sends or receives makes calls on the socket that is held, and no others. -/
theorem adds_take (h : o.use.isTraffic = true) :
    (o.meet e).Adds (Call.isOn Call.isTraffic e.connection.socket) (o.take e).2 := by
  have sends {f : Endpoint} (hf : (o.meet e).AddsOn Call.isSend e.connection.socket f) :
      (o.meet e).Adds (Call.isOn Call.isTraffic e.connection.socket) f :=
    hf.mono (fun call hc => by simp [Call.isTraffic, hc]) rfl
  have receives {f : Endpoint} (hf : (o.meet e).AddsOn Call.isReceive e.connection.socket f) :
      (o.meet e).Adds (Call.isOn Call.isTraffic e.connection.socket) f :=
    hf.mono (fun call hc => by simp [Call.isTraffic, hc]) rfl
  unfold Occasion.take
  cases hu : o.use <;> rw [Use.perform, Procedure.run_map_eq]
  case opening | closing => simp [hu, Use.isTraffic] at h
  case write data address => exact sends (Transport.leaves_send data address _ _)
  case send command address => exact sends (Transport.leaves_sendCommand_on command address _ _)
  case read timeout => exact receives (Transport.leaves_receive timeout _ _)
  case receive timeout => exact receives (Transport.leaves_receiveCommand_on timeout _ _)

/-- Nothing is done with a connection that is not connected, unless it is to open it. -/
theorem take_idle (hc : e.connection.connected = false) {result : Except Fault Use.Answer}
    (hi : o.use.idle? = some result) : o.take e = (result, o.meet e) := by
  have hmeet : (o.meet e).connection.connected = false := hc
  unfold Occasion.take
  cases hu : o.use <;> rw [hu, Use.idle?] at hi
  case opening => cases hi
  all_goals
    obtain rfl := Option.some.inj hi
    rw [Use.perform, Procedure.run_map_eq]
  case closing => rw [Transport.run_closeSocket_of_not_connected hmeet]; rfl
  case write data address => rw [Transport.run_send_of_not_connected hmeet]; rfl
  case send command address => rw [Transport.run_sendCommand_of_not_connected hmeet]; rfl
  case read timeout => rw [Transport.run_receive_of_not_connected hmeet]; rfl
  case receive timeout => rw [Transport.run_receiveCommand_of_not_connected hmeet]; rfl

theorem take_closing_of_not_connected (ho : o.use = .closing)
    (hc : e.connection.connected = false) : o.take e = (.ok .closed, o.meet e) :=
  take_idle hc (by rw [ho, Use.idle?])

end

end Endpoint

/-! ### The invariant -/

/-- Whether a socket was bound on an occasion, as settings say. -/
def Account.Binds (x : Account) (i : Nat) (settings : Settings) : Prop :=
  .bind i settings.bind settings.port ∈ x.calls ∧
    x.occasion.script (.bind i settings.bind settings.port) = none

namespace Endpoint

/-- An endpoint, and a journal of what was done with it, whose sockets keep to their lives. -/
structure Lives (settings : Settings) (e : Endpoint) (xs : List Account) : Prop where
  settings_eq : e.connection.settings = settings
  calls_eq : e.network.calls = xs.flatMap Account.calls
  connected_iff : e.connection.connected = true ↔ ∃ i, e.connection.socket = some i
  /-- Only sockets that were created have been closed. -/
  closed_lt : ∀ i, .close i ∈ e.network.calls → i < e.network.created
  /-- The socket that is held has been bound and was never closed. -/
  held : ∀ i, e.connection.socket = some i →
    i < e.network.created ∧ .close i ∉ e.network.calls ∧ ∃ x ∈ xs, x.Binds i settings

namespace Lives

variable {settings : Settings} {e : Endpoint} {xs : List Account} {o : Occasion}

theorem start (settings : Settings) : Lives settings (start settings) [] where
  settings_eq := rfl
  calls_eq := rfl
  connected_iff := by simp [Endpoint.start]
  closed_lt _ h := by cases h
  held _ h := by cases h

/-- Calls that leave the connection as it is, and close no socket but one that is new, leave the
sockets to their lives. -/
theorem of_connection_eq (h : Lives settings e xs) {calls : List Call}
    (hconn : (o.take e).2.connection = e.connection)
    (hcalls : (o.take e).2.network.calls = e.network.calls ++ calls)
    (hle : e.network.created ≤ (o.take e).2.network.created)
    (hclose : ∀ i, .close i ∈ calls →
      e.network.created ≤ i ∧ i < (o.take e).2.network.created) :
    Lives settings (o.take e).2 (xs ++ [e.account o]) := by
  refine ⟨?_, ?_, ?_, ?_, ?_⟩
  · rw [hconn, h.settings_eq]
  · rw [hcalls, h.calls_eq, List.flatMap_append, List.flatMap_singleton, account_calls hcalls]
  · rw [hconn, h.connected_iff]
  · intro i hi
    rw [hcalls, List.mem_append] at hi
    rcases hi with hi | hi
    · exact Nat.lt_of_lt_of_le (h.closed_lt i hi) hle
    · exact (hclose i hi).2
  · intro i hi
    rw [hconn] at hi
    obtain ⟨hlt, hnot, x, hx, hb⟩ := h.held i hi
    refine ⟨Nat.lt_of_lt_of_le hlt hle, ?_, x, List.mem_append_left _ hx, hb⟩
    intro hmem
    rw [hcalls, List.mem_append] at hmem
    rcases hmem with hmem | hmem
    · exact hnot hmem
    · exact absurd (hclose i hmem).1 (by omega)

/-- A new socket that is bound is held in the place of any other. -/
theorem of_opened (h : Lives settings e xs) (ho : Opened e o) :
    Lives settings (o.take e).2 (xs ++ [e.account o]) := by
  have hclose : ∀ i, .close i ∈ (o.take e).2.network.calls ↔ .close i ∈ e.network.calls := by
    intro i
    simp [ho.calls_eq, openingCalls, Transport.close_not_mem_preparation]
  have hbind : .bind e.network.created settings.bind settings.port ∈ e.openingCalls := by
    simp [openingCalls, Transport.preparation, h.settings_eq]
  refine ⟨?_, ?_, ?_, ?_, ?_⟩
  · rw [ho.connection_eq]
    exact h.settings_eq
  · rw [ho.calls_eq, h.calls_eq, List.flatMap_append, List.flatMap_singleton,
      account_calls ho.calls_eq]
  · simp [ho.connection_eq]
  · intro i hi
    rw [hclose] at hi
    rw [ho.created_eq]
    exact Nat.lt_succ_of_lt (h.closed_lt i hi)
  · intro i hi
    rw [ho.connection_eq] at hi
    obtain rfl := Option.some.inj hi
    refine ⟨by rw [ho.created_eq]; exact Nat.lt_succ_self _, ?_, e.account o, by simp, ?_, ?_⟩
    · rw [hclose]
      exact fun hm => Nat.lt_irrefl _ (h.closed_lt _ hm)
    · rw [account_calls ho.calls_eq]
      exact hbind
    · exact ho.passed _ hbind

theorem of_opening (h : Lives settings e xs) (ho : o.use = .opening) :
    Lives settings (o.take e).2 (xs ++ [e.account o]) := by
  rcases unopened_or_opened (e := e) ho with ⟨calls, hu⟩ | hopened
  · exact h.of_connection_eq hu.connection_eq hu.calls_eq hu.created_le hu.closed_new
  · exact h.of_opened hopened

theorem of_closing (h : Lives settings e xs) (ho : o.use = .closing) :
    Lives settings (o.take e).2 (xs ++ [e.account o]) := by
  cases hc : e.connection.connected with
  | false =>
    have htake := take_closing_of_not_connected ho hc
    have hcalls : (o.take e).2.network.calls = e.network.calls ++ [] := by
      rw [htake, List.append_nil]
      rfl
    refine h.of_connection_eq ?_ hcalls ?_ (by simp)
    · rw [htake]
      rfl
    · rw [htake]
      exact Nat.le_refl _
  | true =>
    obtain ⟨i, hi⟩ := h.connected_iff.mp hc
    obtain ⟨log, htake⟩ := take_closing_of_held ho hc hi
    have hcalls : (o.take e).2.network.calls = e.network.calls ++ [.close i] := by
      rw [htake]
    have hconn : (o.take e).2.connection =
        { e.connection with socket := none, connected := false } := by
      rw [htake]
    have hcreated : (o.take e).2.network.created = e.network.created := by
      rw [htake]
      rfl
    refine ⟨?_, ?_, by simp [hconn], fun j hj => ?_, fun j hj => ?_⟩
    · rw [hconn]
      exact h.settings_eq
    · rw [hcalls, h.calls_eq, List.flatMap_append, List.flatMap_singleton, account_calls hcalls]
    · rw [hcreated]
      rw [hcalls, List.mem_append, List.mem_singleton] at hj
      rcases hj with hj | hj
      · exact h.closed_lt j hj
      · obtain rfl := Call.close.inj hj
        exact (h.held j hi).1
    · rw [hconn] at hj
      cases hj

theorem of_traffic (h : Lives settings e xs) (ho : o.use.isTraffic = true) :
    Lives settings (o.take e).2 (xs ++ [e.account o]) := by
  have hadds := adds_take (e := e) ho
  obtain ⟨calls, hcalls, hkind⟩ := hadds.network.calls_eq
  refine h.of_connection_eq hadds.connection_eq hcalls (Nat.le_of_eq hadds.network.created_eq.symm)
    fun i hi => ?_
  cases hkind _ hi

/-- **Every use leaves the sockets to their lives.** -/
theorem take (h : Lives settings e xs) (o : Occasion) :
    Lives settings (o.take e).2 (xs ++ [e.account o]) := by
  cases ho : o.use with
  | opening => exact h.of_opening ho
  | closing => exact h.of_closing ho
  | _ => exact h.of_traffic (by simp [ho, Use.isTraffic])

/-- **Every run of uses leaves the sockets to their lives.** -/
theorem run (settings : Settings) (os : List Occasion) :
    Lives settings ((Endpoint.start settings).after os) ((Endpoint.start settings).journal os) := by
  induction os using List.reverseRecOn with
  | nil => exact start settings
  | append_singleton os o ih =>
    rw [after_concat, journal_concat]
    exact ih.take o

end Lives

/-! ### The next use -/

/-- How a connection goes through its next use. -/
structure Obeys (e : Endpoint) (o : Occasion) : Prop where
  /-- What is sent and received goes through the socket that is held. -/
  traffic : ∀ call ∈ (e.account o).calls, call.isTraffic = true →
    call.socket? = e.connection.socket
  /-- Sending and receiving leave the connection as it is. -/
  exchanges : o.use.isTraffic = true → (o.take e).2.connection = e.connection
  /-- Without a connection nothing is done, unless it is to open it. -/
  idle : e.connection.connected = false → ∀ result, o.use.idle? = some result →
    o.take e = (result, o.meet e)
  /-- A connection that could not be opened is left as it was. -/
  retains : o.use = .opening → e.connection.settings.Typed → ∀ fault,
    (o.take e).1 = .error fault → (o.take e).2.connection = e.connection
  /-- A connection is closed even if closing the socket fails. -/
  closes : o.use = .closing → (o.take e).2.connection.connected = false

section

variable {e : Endpoint} {o : Occasion}

/-- Opening neither sends nor receives. -/
theorem isTraffic_opening (ho : o.use = .opening) :
    ∀ call ∈ (e.account o).calls, call.isTraffic = false := by
  rcases unopened_or_opened (e := e) ho with ⟨calls, hu⟩ | hopened
  · rw [account_calls hu.calls_eq]
    exact hu.quiet
  · rw [account_calls hopened.calls_eq]
    intro call hcall
    rcases List.mem_cons.mp hcall with rfl | hcall
    · rfl
    · exact isTraffic_preparation _ _ call hcall

/-- A connection with settings of their kinds that fails to open is left as it was. -/
theorem connection_of_opening_error (ho : o.use = .opening) (ht : e.connection.settings.Typed)
    {fault : Fault} (hf : (o.take e).1 = .error fault) :
    (o.take e).2.connection = e.connection := by
  rcases unopened_or_opened (e := e) ho with ⟨calls, hu⟩ | hopened
  · exact hu.connection_eq
  · rw [hopened.result_eq, ht.stated] at hf
    cases hf

/-- Closing neither sends nor receives. -/
theorem isTraffic_closing {settings : Settings} {xs : List Account} (h : Lives settings e xs)
    (ho : o.use = .closing) : ∀ call ∈ (e.account o).calls, call.isTraffic = false := by
  cases hc : e.connection.connected with
  | false =>
    have hcalls : (o.take e).2.network.calls = e.network.calls ++ [] := by
      rw [take_closing_of_not_connected ho hc, List.append_nil]
      rfl
    rw [account_calls hcalls]
    simp
  | true =>
    obtain ⟨i, hi⟩ := h.connected_iff.mp hc
    obtain ⟨log, htake⟩ := take_closing_of_held ho hc hi
    have hcalls : (o.take e).2.network.calls = e.network.calls ++ [.close i] := by
      rw [htake]
    rw [account_calls hcalls]
    simp [Call.isTraffic, Call.isSend, Call.isReceive]

theorem isTraffic_of_use {settings : Settings} {xs : List Account} (h : Lives settings e xs)
    {call : Call} (hcall : call ∈ (e.account o).calls) (ht : call.isTraffic = true) :
    o.use.isTraffic = true := by
  cases ho : o.use with
  | opening => simp [isTraffic_opening ho call hcall] at ht
  | closing => simp [isTraffic_closing h ho call hcall] at ht
  | _ => rfl

/-- **A connection goes through every next use as it should**, if its sockets keep to their
lives. -/
theorem Lives.obeys {settings : Settings} {xs : List Account} (h : Lives settings e xs)
    (o : Occasion) : e.Obeys o where
  traffic call hcall ht := by
    have hadds := adds_take (e := e) (isTraffic_of_use h hcall ht)
    obtain ⟨calls, hcalls, hkind⟩ := hadds.network.calls_eq
    rw [account_calls hcalls] at hcall
    have hon := hkind call hcall
    rw [Call.isOn, Bool.and_eq_true, beq_iff_eq] at hon
    exact hon.2
  exchanges ho := (adds_take ho).connection_eq
  idle hc result hi := take_idle hc hi
  retains ho ht fault hf := connection_of_opening_error ho ht hf
  closes ho := by
    cases hc : e.connection.connected with
    | false =>
      rw [take_closing_of_not_connected ho hc]
      exact hc
    | true =>
      obtain ⟨i, hi⟩ := h.connected_iff.mp hc
      obtain ⟨log, htake⟩ := take_closing_of_held ho hc hi
      rw [htake]

end

end Endpoint

/-- **A connection keeps to the life of its sockets.** After every run of uses, in any order and
whatever calls fail in any way: the connection is connected exactly while it holds a socket; that
socket has been bound, as the settings say, and was never closed; and the next use, whatever it is,
sends and receives through the socket that is held and no other, does nothing while there is none,
leaves the connection as it was if it fails to open it, and leaves none if it closes it. -/
theorem sockets_within_life (settings : Settings) (os : List Occasion) :
    (((Endpoint.start settings).after os).connection.connected = true ↔
        ∃ i, ((Endpoint.start settings).after os).connection.socket = some i) ∧
      (∀ i, ((Endpoint.start settings).after os).connection.socket = some i →
        (∃ x ∈ (Endpoint.start settings).journal os, x.Binds i settings) ∧
          ∀ x ∈ (Endpoint.start settings).journal os, .close i ∉ x.calls) ∧
      ∀ o, ((Endpoint.start settings).after os).Obeys o := by
  have h := Endpoint.Lives.run settings os
  refine ⟨h.connected_iff, fun i hi => ?_, h.obeys⟩
  obtain ⟨-, hnot, hbind⟩ := h.held i hi
  refine ⟨hbind, fun x hx hclose => hnot ?_⟩
  rw [h.calls_eq]
  exact List.mem_flatMap.mpr ⟨x, hx, hclose⟩

end DmxNet
