import DmxNet.Proofs.Fault
import DmxNet.Proofs.Network.Usage

/-!
# Opening that is refused

What becomes of an attempt to open a connection if the system refuses one of the calls that it takes
(`Endpoint.openingCalls`), and closing a socket does not fail. The connection is left as it was,
whatever it was, and the socket that was created is closed once (`opening_refused`).

An attempt is to end with a fault of connections (`Fault.isConnection`). It does if a socket was
created, since that is given up then, and the fault names the place that could not be bound; only a
port that is too long a number cannot be named (`Settings.Named`). But no socket is given up if none
was created, and the refusal itself is the fault (`exists_refused_not_connection`).
-/

namespace DmxNet

/-- Whether a fault is that of a connection that is not there, or could not be opened. -/
def Fault.isConnection : Fault → Bool
  | .closed | .bind .. => true
  | _ => false

/-- Whether a call closes a socket. -/
def Call.closes (i : Nat) : Call → Bool
  | .close j => j == i
  | _ => false

theorem Call.closes_iff {i : Nat} {call : Call} : call.closes i = true ↔ call = .close i := by
  cases call <;> simp [closes]

/-- How many times a socket is closed by calls among which no call closes it. -/
theorem countP_closes_eq_zero {i : Nat} {calls : List Call} (h : .close i ∉ calls) :
    calls.countP (Call.closes i) = 0 := by
  rw [List.countP_eq_zero]
  intro call hcall hcloses
  rw [Call.closes_iff.mp hcloses] at hcall
  exact h hcall

namespace Settings

/-- What is raised for a socket that could not be bound, with the reason: the place is named, if it
can be. -/
def unbound (s : Settings) (reason : String) : Fault :=
  match s.bind.plain, s.port.plain with
  | .ok host, .ok port => .bind host port reason
  | .error fault, _ | .ok _, .error fault => fault

/-- The port of settings of their kinds has a text, unless it is too long. -/
theorem Typed.plain_port {s : Settings} (h : s.Typed) :
    (s.Named → ∃ port, s.port.plain = .ok port) ∧
      (¬ s.Named → s.port.plain = .error (.invalid .unwritable)) := by
  rcases h.port_cases with ⟨n, hp, hn⟩ | ⟨b, hp, hn⟩
  · rw [hn, hp, Value.plain_int]
    exact ⟨fun hw => ⟨_, Fault.numberText_of_writable hw⟩, Fault.numberText_of_not_writable⟩
  · rw [hp]
    exact ⟨fun _ => ⟨_, rfl⟩, fun h => absurd hn h⟩

theorem Typed.exists_plain_bind {s : Settings} (h : s.Typed) :
    ∃ host, s.bind.plain = .ok host := by
  obtain ⟨host, hb⟩ := h.bind
  rw [hb]
  exact ⟨host, rfl⟩

/-- Settings of their kinds have a place that can be named, but for a port that is too long. -/
theorem Typed.exists_unbound_eq {s : Settings} (h : s.Typed) (hn : s.Named) :
    ∃ host port, s.bind.plain = .ok host ∧ s.port.plain = .ok port ∧
      ∀ reason, s.unbound reason = .bind host port reason := by
  obtain ⟨host, hb⟩ := h.exists_plain_bind
  obtain ⟨port, hp⟩ := h.plain_port.1 hn
  refine ⟨host, port, hb, hp, fun reason => ?_⟩
  rw [unbound, hb, hp]

/-- A port that is too long is the fault itself. -/
theorem Typed.unbound_eq {s : Settings} (h : s.Typed) (hn : ¬ s.Named) (reason : String) :
    s.unbound reason = .invalid .unwritable := by
  obtain ⟨host, hb⟩ := h.exists_plain_bind
  rw [unbound, hb, h.plain_port.2 hn]

end Settings

namespace Transport

open Procedure

/-- A socket that is given up is closed. -/
theorem run_abandon_of_closes (settings : Settings) {socket : Nat} {e : Endpoint}
    (hc : e.network.script (.close socket) = none) (reason : String) :
    (abandon socket settings reason).run e =
      (.error (settings.unbound reason),
        { e with network := e.network.record (.close socket) }) := by
  rw [abandon, run_bind, run_attempt, Script.outcome, hc]
  simp only [run_bind, run_conclude, Settings.unbound]
  cases settings.bind.plain with
  | error fault => rfl
  | ok host => cases settings.port.plain <;> rfl

section

variable {e : Endpoint} {cause : Fault}

/-- Without a new socket there is nothing to be given up. -/
theorem run_openSocket_of_refused (hc : e.network.script .create = some cause) :
    openSocket.run e = (.error cause, { e with network := e.network.record .create }) := by
  rw [openSocket]
  simp only [run_bind, run_get, run_create, hc]

/-- A new socket that the system refused to prepare is given up. -/
theorem run_openSocket_of_unprepared (hc : e.network.script .create = none)
    (hf : (preparation e.network.created e.connection.settings).findSome? e.network.script =
      some cause)
    (hs : cause.isSystem = true)
    (hclose : e.network.script (.close e.network.created) = none) :
    openSocket.run e = (.error (e.connection.settings.unbound cause.message),
      { e with network := { e.network with
          created := e.network.created + 1
          calls := e.network.calls ++ .create ::
            (e.network.script.made (preparation e.network.created e.connection.settings) ++
              [.close e.network.created]) } }) := by
  rw [openSocket]
  simp only [run_bind, run_get, run_create, hc, run_outcome, prepare_eq, run_attempts,
    Script.outcomeAll, Network.record, hf, hs]
  rw [if_pos trivial, run_bind_error (run_abandon_of_closes _ (by exact hclose) cause.message)]
  simp [Network.record]

end

end Transport

/-- How an attempt to open a connection ends, and what it leaves, if the system was the cause. -/
structure Endpoint.Refused (e : Endpoint) (cause fault : Fault) (f : Endpoint) : Prop where
  connection_eq : f.connection = e.connection
  /-- If a socket was created, what could not be bound is named, with the cause. -/
  created : e.network.script .create = none → f.network.created = e.network.created + 1 ∧
    (e.connection.settings.Named → ∃ host port, e.connection.settings.bind.plain = .ok host ∧
      e.connection.settings.port.plain = .ok port ∧ fault = .bind host port cause.message) ∧
    (¬ e.connection.settings.Named → fault = .invalid .unwritable)
  /-- If none was, the fault is the cause itself. -/
  uncreated : e.network.script .create ≠ none →
    f.network.created = e.network.created ∧ fault = cause
  /-- Each new socket was closed once, and no other was closed. -/
  closed : ∃ calls, f.network.calls = e.network.calls ++ calls ∧ ∀ i,
    calls.countP (Call.closes i) =
      if e.network.created ≤ i ∧ i < f.network.created then 1 else 0

section

variable {e f : Endpoint} {cause fault : Fault}

/-- The fault is one of connections exactly if a socket was created and the place can be named, or
no socket was created and the cause is one already. -/
theorem Endpoint.Refused.isConnection_iff (h : e.Refused cause fault f) :
    fault.isConnection = true ↔
      e.network.script .create = none ∧ e.connection.settings.Named ∨
        e.network.script .create ≠ none ∧ cause.isConnection = true := by
  by_cases hc : e.network.script .create = none
  · obtain ⟨-, hnamed, hunnamed⟩ := h.created hc
    by_cases hn : e.connection.settings.Named
    · obtain ⟨host, port, -, -, rfl⟩ := hnamed hn
      simp [Fault.isConnection, hc, hn]
    · obtain rfl := hunnamed hn
      simp [Fault.isConnection, hc, hn]
  · obtain ⟨-, rfl⟩ := h.uncreated hc
    simp [hc]

theorem Endpoint.refused_of_uncreated (hc : e.network.script .create = some cause) :
    e.Refused cause cause { e with network := e.network.record .create } := by
  refine ⟨rfl, fun h => ?_, fun _ => ⟨rfl, rfl⟩, [.create], rfl, fun i => ?_⟩
  · cases hc.symm.trans h
  · have hnone : ¬ (e.network.created ≤ i ∧ i < e.network.created) := by omega
    exact (if_neg hnone).symm

theorem Endpoint.refused_of_unprepared (ht : e.connection.settings.Typed)
    (hc : e.network.script .create = none) :
    e.Refused cause (e.connection.settings.unbound cause.message)
      { e with network := { e.network with
          created := e.network.created + 1
          calls := e.network.calls ++ .create :: (e.network.script.made
            (Transport.preparation e.network.created e.connection.settings) ++
              [.close e.network.created]) } } := by
  refine ⟨rfl, fun _ => ⟨rfl, fun hn => ?_, fun hn => ht.unbound_eq hn _⟩, fun h => absurd hc h,
    _, rfl, fun i => ?_⟩
  · obtain ⟨host, port, hb, hp, heq⟩ := ht.exists_unbound_eq hn
    exact ⟨host, port, hb, hp, heq _⟩
  have hmade : .close i ∉ e.network.script.made
      (Transport.preparation e.network.created e.connection.settings) := by
    intro hm
    exact Transport.close_not_mem_preparation i _ _ (Script.made_subset _ _ hm)
  have hnew : (e.network.created ≤ i ∧ i < e.network.created + 1) ↔ e.network.created = i := by
    omega
  rw [List.countP_cons, List.countP_append, countP_closes_eq_zero hmade]
  refine Eq.trans ?_ (if_congr hnew rfl rfl).symm
  simp [Call.closes]

/-- **Opening that is refused.** From any state of a connection whose settings are of their kinds,
and whatever was done on its network: if the first call to fail of those that open it is refused by
the system, and no call fails that closes a socket, then it is not opened and left as it was, each
socket that was created is closed once, and no other is closed. If a socket was created, then the
fault is one of connections exactly if the place can be named, and names it; if none was, exactly if
the refusal was such a fault already. -/
theorem opening_refused (ht : e.connection.settings.Typed)
    (hf : e.openingCalls.findSome? e.network.script = some cause) (hs : cause.isSystem = true)
    (hclose : ∀ i, e.network.script (.close i) = none) :
    ∃ fault f, Transport.openSocket.run e = (.error fault, f) ∧ e.Refused cause fault f ∧
      (fault.isConnection = true ↔
        e.network.script .create = none ∧ e.connection.settings.Named ∨
          e.network.script .create ≠ none ∧ cause.isConnection = true) := by
  suffices h : ∃ fault f, Transport.openSocket.run e = (.error fault, f) ∧
      e.Refused cause fault f by
    obtain ⟨fault, f, hr, hrefused⟩ := h
    exact ⟨fault, f, hr, hrefused, hrefused.isConnection_iff⟩
  rw [Endpoint.openingCalls, List.findSome?_cons] at hf
  cases hc : e.network.script .create with
  | some refusal =>
    rw [hc] at hf
    obtain rfl := Option.some.inj hf
    exact ⟨_, _, Transport.run_openSocket_of_refused hc, Endpoint.refused_of_uncreated hc⟩
  | none =>
    rw [hc] at hf
    exact ⟨_, _, Transport.run_openSocket_of_unprepared hc hf hs (hclose _),
      Endpoint.refused_of_unprepared ht hc⟩

end

/-- A connection that is open already, where another socket is refused to be bound. -/
def occupied : Endpoint where
  connection := { settings := {}, socket := some 0, connected := true }
  network := { script := Script.ofTable [(.bind, ⟨.system, "address in use"⟩)], created := 1 }

/-- It stays open, and only the other socket is closed. -/
theorem opening_refused_occupied :
    ∃ fault f calls, Transport.openSocket.run occupied = (.error fault, f) ∧
      f.connection.socket = some 0 ∧ f.connection.connected = true ∧
      fault.isConnection = true ∧ f.network.calls = calls ∧
      calls.countP (Call.closes 0) = 0 ∧ calls.countP (Call.closes 1) = 1 := by
  obtain ⟨fault, f, hr, hrefused, hfault⟩ :=
    opening_refused (e := occupied) Settings.typed_default rfl rfl fun _ => rfl
  obtain ⟨calls, hcalls, hclosed⟩ := hrefused.closed
  rw [(hrefused.created rfl).1] at hclosed
  have hnamed : occupied.connection.settings.Named := ⟨6454, rfl, rfl⟩
  refine ⟨fault, f, calls, hr, ?_, ?_, hfault.mpr (.inl ⟨rfl, hnamed⟩), hcalls, hclosed 0,
    hclosed 1⟩
  · rw [hrefused.connection_eq]
    rfl
  · rw [hrefused.connection_eq]
    rfl

/-- If the system refuses to create a socket, the fault is not one of connections. -/
theorem exists_refused_not_connection :
    ∃ (e : Endpoint) (cause : Fault), e.connection.settings.Typed ∧
      e.openingCalls.findSome? e.network.script = some cause ∧ cause.isSystem = true ∧
      (∀ i, e.network.script (.close i) = none) ∧
      (Transport.openSocket.run e).1 = .error cause ∧ cause.isConnection = false :=
  ⟨⟨{ settings := {} }, { script := Script.ofTable [(.create, ⟨.system, "too many open files"⟩)] }⟩,
    .socket ⟨.system, "too many open files"⟩,
    Settings.typed_default, rfl, rfl, fun _ => rfl, rfl, rfl⟩

end DmxNet
