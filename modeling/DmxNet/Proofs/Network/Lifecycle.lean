import DmxNet.Proofs.Network.Traffic
import DmxNet.Proofs.Schema.Comparing

/-!
# The life of a socket

What opening and closing a connection do to it and its network. Opening creates a socket and makes
the calls that prepare it up to the first that fails (`Script.made`). It ends in one of three ways
(`Opening`): there is no new socket, the new socket is given up, or it is bound and held. Closing
lets go of the socket that is held, whether the call that closes it goes through or not
(`run_closeSocket`).
-/

namespace DmxNet

namespace Script

/-- The calls that are made of those to be made in turn: no more after the first that fails. -/
def made (script : Script) : List Call → List Call
  | [] => []
  | call :: calls => call :: if (script call).isSome then [] else script.made calls

/-- How calls end that are made in turn. -/
def outcomeAll (script : Script) (calls : List Call) : Except Fault Unit :=
  match calls.findSome? script with
  | some fault => .error fault
  | none => .ok ()

variable (script : Script)

theorem made_of_findSome?_eq_none {calls : List Call} (h : calls.findSome? script = none) :
    script.made calls = calls := by
  induction calls with
  | nil => rfl
  | cons call calls ih =>
    rw [List.findSome?_cons] at h
    cases hc : script call with
    | some fault =>
      rw [hc] at h
      cases h
    | none =>
      rw [hc] at h
      rw [made, hc, ih h]
      rfl

/-- A call that fails is among those that are made. -/
theorem exists_made_of_findSome? {calls : List Call} {fault : Fault}
    (h : calls.findSome? script = some fault) :
    ∃ call ∈ script.made calls, script call = some fault := by
  induction calls with
  | nil => cases h
  | cons call calls ih =>
    rw [List.findSome?_cons] at h
    cases hc : script call with
    | some fault' =>
      rw [hc] at h
      exact ⟨call, by simp [made], hc.trans h⟩
    | none =>
      rw [hc] at h
      obtain ⟨call', hm, hs⟩ := ih h
      exact ⟨call', by simp [made, hc, hm], hs⟩

theorem made_subset (calls : List Call) : script.made calls ⊆ calls := by
  induction calls with
  | nil => exact List.Subset.refl _
  | cons call calls ih =>
    rw [made]
    split
    · simp
    · exact List.cons_subset_cons call ih

/-- Whether one of some calls fails. -/
def failsAny (script : Script) (calls : List Call) : Bool :=
  calls.any fun call => (script call).isSome

/-- A script in which nothing goes wrong but what the system refuses. -/
def OfSystem (script : Script) : Prop :=
  ∀ call fault, script call = some fault → fault.isSystem = true

theorem ofSystem_ofTable {op : Operation} {text : String} :
    (ofTable [(op, ⟨.system, text⟩)]).OfSystem := by
  intro call fault h
  rw [ofTable, List.lookup_cons] at h
  split at h <;> cases h
  rfl

theorem failsAny_cons (call : Call) (calls : List Call) :
    script.failsAny (call :: calls) = ((script call).isSome || script.failsAny calls) := rfl

theorem failsAny_append (calls later : List Call) :
    script.failsAny (calls ++ later) = (script.failsAny calls || script.failsAny later) :=
  List.any_append

variable {script}

/-- If one of the calls to be made in turn fails, then one that is made does. -/
theorem failsAny_made {calls : List Call} {fault : Fault}
    (h : calls.findSome? script = some fault) : script.failsAny (script.made calls) = true := by
  obtain ⟨call, hcall, hf⟩ := script.exists_made_of_findSome? h
  exact List.any_eq_true.mpr ⟨call, hcall, Option.isSome_of_eq_some hf⟩

theorem failsAny_of_findSome?_eq_none {calls : List Call}
    (h : calls.findSome? script = none) : script.failsAny calls = false := by
  rw [failsAny, List.any_eq_false]
  intro call hcall
  simp [List.findSome?_eq_none_iff.mp h call hcall]

end Script

/-- Settings of the kinds that they are declared to be. -/
structure Settings.Typed (s : Settings) : Prop where
  target : ∃ text, s.target = .text text
  port : ∃ n, s.port.whole = .ok n
  bind : ∃ text, s.bind = .text text
  broadcast : ∃ b, s.broadcast = .bool b

/-- The port that settings ask for is not too long a number to be written. -/
def Settings.Named (s : Settings) : Prop := ∃ n, s.port.whole = .ok n ∧ Digits.writable n = true

/-- The settings that a connection has unless told otherwise are of their kinds. -/
theorem Settings.typed_default : ({} : Settings).Typed :=
  ⟨⟨_, rfl⟩, ⟨6454, rfl⟩, ⟨_, rfl⟩, ⟨_, rfl⟩⟩

namespace Transport

open Procedure

/-! ### Opening -/

theorem run_attempts (calls : List Call) (e : Endpoint) :
    (forM calls attempt).run e =
      (e.network.script.outcomeAll calls,
        { e with network := { e.network with
            calls := e.network.calls ++ e.network.script.made calls } }) := by
  induction calls generalizing e with
  | nil => simp [Script.outcomeAll, Script.made]
  | cons call calls ih =>
    rw [List.forM_cons, run_bind, run_attempt]
    cases hc : e.network.script call with
    | some fault =>
      simp [Script.outcome, Script.outcomeAll, Script.made, hc, Network.record]
    | none =>
      simp [Script.outcome, Script.outcomeAll, Script.made, hc, Network.record, ih]

/-- The calls that prepare a socket. -/
def preparation (socket : Nat) (settings : Settings) : List Call :=
  .setOption socket .reuseAddress ::
    ((if settings.broadcast.truth then [.setOption socket .broadcast] else []) ++
      [.bind socket settings.bind settings.port])

theorem prepare_eq (socket : Nat) (settings : Settings) :
    prepare socket settings = forM (preparation socket settings) attempt := by
  unfold prepare preparation
  cases settings.broadcast.truth <;> simp

theorem run_create (e : Endpoint) :
    create.run e =
      match e.network.script .create with
      | some fault => (.error fault, { e with network := e.network.record .create })
      | none => (.ok e.network.created, { e with network :=
          { e.network.record .create with created := e.network.created + 1 } }) := by
  rw [create, run_bind, run_attempt, Script.outcome]
  cases e.network.script .create <;> rfl

/-- Settings, if they can be logged. -/
def stated (settings : Settings) : Except Fault Settings :=
  (place settings.bind settings.port).bind fun _ => settings.target.logged.map fun _ => settings

/-- The ways that opening a connection ends, by the calls that the script lets fail. -/
inductive Opening (e : Endpoint) : Except Fault Settings × Endpoint → Prop where
  /-- There is no new socket. -/
  | refused {fault : Fault} (create : e.network.script .create = some fault) :
    Opening e (.error fault, { e with network := e.network.record .create })
  /-- The new socket could not be prepared. It is closed again if the system was the cause. -/
  | abandoned {cause : Fault} (fault : Fault) (create : e.network.script .create = none)
      (prepare : (preparation e.network.created e.connection.settings).findSome?
        e.network.script = some cause) :
    Opening e (.error fault, { e with network := { e.network with
      created := e.network.created + 1
      calls := e.network.calls ++ .create ::
        (e.network.script.made (preparation e.network.created e.connection.settings) ++
          if cause.isSystem then [.close e.network.created] else []) } })
  /-- The new socket is bound and held. The settings are the answer if they can be logged. -/
  | bound (log : List LogLine) (create : e.network.script .create = none)
      (prepare : (preparation e.network.created e.connection.settings).findSome?
        e.network.script = none) :
    Opening e (stated e.connection.settings,
      { connection :=
          { e.connection with socket := some e.network.created, connected := true }
        network := { e.network with
          created := e.network.created + 1
          calls := e.network.calls ++ .create ::
            preparation e.network.created e.connection.settings
          log := log } })

/-- A socket that is given up is closed, and there is a fault in any case. -/
theorem run_abandon (socket : Nat) (settings : Settings) (reason : String) (e : Endpoint) :
    ∃ fault, (abandon socket settings reason).run e =
      (.error fault, { e with network := e.network.record (.close socket) }) := by
  rw [abandon, run_bind, run_attempt]
  cases e.network.script.outcome (.close socket) with
  | error fault => exact ⟨fault, rfl⟩
  | ok _ =>
    simp only [run_bind, run_conclude]
    cases settings.bind.plain with
    | error fault => exact ⟨fault, rfl⟩
    | ok host =>
      cases settings.port.plain with
      | error fault => exact ⟨fault, rfl⟩
      | ok port => exact ⟨.bind host port reason, rfl⟩

section

variable {script : Script} {socket : Nat} {settings : Settings}

/-- The calls that prepare a socket do not close one. -/
theorem close_not_mem_preparation (i socket : Nat) (settings : Settings) :
    .close i ∉ preparation socket settings := by
  unfold preparation
  split <;> simp

theorem failsAny_refused {fault : Fault} (hc : script .create = some fault) :
    script.failsAny [.create] = true := by
  rw [Script.failsAny_cons, hc]
  rfl

theorem failsAny_abandoned {cause : Fault} (calls : List Call)
    (hp : (preparation socket settings).findSome? script = some cause) :
    script.failsAny (.create :: (script.made (preparation socket settings) ++ calls)) = true := by
  rw [Script.failsAny_cons, Script.failsAny_append, Script.failsAny_made hp, Bool.true_or,
    Bool.or_true]

theorem failsAny_bound (hc : script .create = none)
    (hp : (preparation socket settings).findSome? script = none) :
    script.failsAny (.create :: preparation socket settings) = false := by
  rw [Script.failsAny_cons, hc, Script.failsAny_of_findSome?_eq_none hp]
  rfl

end

theorem opening (e : Endpoint) : Opening e (openSocket.run e) := by
  rw [openSocket]
  simp only [run_bind, run_get, run_create]
  cases hc : e.network.script .create with
  | some fault => exact .refused hc
  | none =>
    simp only [run_outcome, prepare_eq, run_attempts, Network.record, Script.outcomeAll,
      List.append_assoc, List.singleton_append]
    cases hp : (preparation e.network.created e.connection.settings).findSome?
        e.network.script with
    | some cause =>
      have ha := Opening.abandoned cause hc hp
      dsimp only
      cases hs : cause.isSystem with
      | false => simpa [hs] using ha
      | true =>
        obtain ⟨fault, hr⟩ := run_abandon e.network.created e.connection.settings cause.message _
        have ha := Opening.abandoned fault hc hp
        rw [if_pos rfl, run_bind_error hr]
        simpa [hs, Network.record] using ha
    | none =>
      rw [Script.made_of_findSome?_eq_none _ hp]
      have hb (log : List LogLine) := Opening.bound log hc hp
      dsimp only [run_bind, run_conclude, hold, run_modify]
      unfold stated at hb
      cases hl : place e.connection.settings.bind e.connection.settings.port with
      | error fault =>
        rw [hl] at hb
        exact hb _
      | ok bound =>
        rw [hl] at hb
        cases ht : e.connection.settings.target.logged with
        | error fault =>
          rw [ht] at hb
          exact hb _
        | ok target =>
          rw [ht] at hb
          exact hb _

/-! ### Closing -/

theorem run_closeSocket_of_not_connected {e : Endpoint} (h : e.connection.connected = false) :
    closeSocket.run e = (.ok (), e) := by
  rw [closeSocket, run_bind, run_get]
  dsimp only
  rw [h]
  rfl

/-- What is reported on a socket that was closed is a line of the log. -/
theorem run_reportClose (result : Except Fault Unit) (e : Endpoint) :
    ∃ log, (reportClose result).run e =
      (.ok (), { e with network := { e.network with log := log } }) := by
  unfold reportClose
  split
  · split
    · exact ⟨_, rfl⟩
    · exact ⟨_, rfl⟩
  · exact ⟨_, rfl⟩

/-- The socket that is held is closed and let go of, and a refusal of the system is forgiven. -/
theorem run_closeSocket {e : Endpoint} {socket : Nat} (hc : e.connection.connected = true)
    (h : e.connection.socket = some socket) :
    ∃ log, closeSocket.run e =
      (forgiveClose (e.network.script.outcome (.close socket)),
        { connection := { e.connection with socket := none, connected := false }
          network := { e.network with
            calls := e.network.calls ++ [.close socket]
            log := log } }) := by
  have hshut : shut.run e = (e.network.script.outcome (.close socket),
      { e with network := e.network.record (.close socket) }) := by
    rw [shut, run_bind, run_held, h]
    exact run_attempt _ e
  rw [closeSocket, run_bind, run_get]
  dsimp only
  rw [hc, if_pos rfl]
  obtain ⟨log, hr⟩ := run_reportClose (e.network.script.outcome (.close socket))
    { e with network := e.network.record (.close socket) }
  simp only [run_bind, run_outcome, hshut, hr]
  exact ⟨_, rfl⟩

end Transport

namespace Settings.Typed

variable {s : Settings}

theorem exists_eq (h : s.Typed) : ∃ target key bind broadcast n,
    s = ⟨.text target, .scalar key, .text bind, .bool broadcast⟩ ∧ key.whole? = some n := by
  obtain ⟨target, port, bind, broadcast⟩ := s
  obtain ⟨target, rfl⟩ := h.target
  obtain ⟨bind, rfl⟩ := h.bind
  obtain ⟨broadcast, rfl⟩ := h.broadcast
  obtain ⟨n, hn⟩ := h.port
  obtain ⟨key, rfl, hk⟩ := Value.whole_eq_ok_iff.mp hn
  exact ⟨target, key, bind, broadcast, n, rfl, hk⟩

/-- The port of settings of their kinds is a number, or a truth value in its place, which is never
too long. -/
theorem port_cases (h : s.Typed) :
    (∃ n : Int, s.port = .int n ∧ (s.Named ↔ Digits.writable n = true)) ∨
      ∃ b, s.port = .bool b ∧ s.Named := by
  obtain ⟨n, hn⟩ := h.port
  obtain ⟨key, hp, hk⟩ := Value.whole_eq_ok_iff.mp hn
  rw [Named, hp]
  cases key with
  | int k =>
    refine .inl ⟨k, rfl, ?_, fun hw => ⟨k, rfl, hw⟩⟩
    rintro ⟨m, hm, hw⟩
    obtain rfl : k = m := Except.ok.inj hm
    exact hw
  | bool b =>
    refine .inr ⟨b, rfl, b.toInt, rfl, ?_⟩
    cases b <;> rfl
  | _ => cases hk

/-- Settings of their kinds can be logged. -/
theorem stated (h : s.Typed) : Transport.stated s = .ok s := by
  obtain ⟨target, key, bind, broadcast, n, rfl, hk⟩ := h.exists_eq
  cases key <;> cases hk <;> rfl

/-- Settings of their kinds tell where to send to. -/
theorem exists_place (h : s.Typed) : ∃ there, Transport.place s.target s.port = .ok there := by
  obtain ⟨target, key, bind, broadcast, n, rfl, hk⟩ := h.exists_eq
  cases key <;> cases hk <;> exact ⟨_, rfl⟩

end Settings.Typed

end DmxNet
