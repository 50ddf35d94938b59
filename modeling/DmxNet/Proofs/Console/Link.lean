import DmxNet.Proofs.Console.Sending
import DmxNet.Proofs.Text.Json
import Mathlib.Data.List.Induction

/-!
# The link

The connection of a console is a machine of two states: off, or on with the settings that it was
opened with (`Link`). No connection at all and one that holds no socket are both off. The sockets
keep to that, whatever calls the system refuses (`Settled`): each socket that was created has been
closed, but for the one that is held while the link is on.

What is reported of the link is told by JSON text (`Link.Reports`), and that text is the text of no
other state (`Link.Reports.unique`).
-/

namespace DmxNet

/-- What the connection of a console is to who uses it. -/
inductive Link where
  | off
  | on (settings : Settings)

/-- The state of the machine after a turn, by whether a call failed in it. -/
def Link.next : Link → Request → Bool → Link
  | .off, .connect settings, false => .on settings
  | .on settings, .connect _, _ => .on settings
  | .off, .connect _, true => .off
  | _, .disconnect, _ => .off
  | link, _, _ => link

/-- What is reported of a link: whether it is on, and the settings that it is on with. -/
inductive Link.Reports : Link → Except Fault Reply → Prop where
  /-- The link is off. -/
  | off : Reports .off (.ok (.text "\x7b\"connected\": false\x7d"))
  /-- The link is on, and each of its settings is told by its JSON text. -/
  | on {settings : Settings} {target port bind broadcast : String} : settings.Named →
    Json.Tells settings.target target → Json.Tells settings.port port →
    Json.Tells settings.bind bind → Json.Tells settings.broadcast broadcast →
    Reports (.on settings) (.ok (.text
      ("\x7b\"connected\": true, \"target\": " ++ target ++ ", \"port\": " ++ port ++
        ", \"bind\": " ++ bind ++ ", \"broadcast\": " ++ broadcast ++ "\x7d")))
  /-- The link is on with a port that is too long a number to be written. -/
  | unnamed {settings : Settings} : ¬ settings.Named →
    Reports (.on settings) (.error (.invalid .unwritable))

/-- Whether the settings that a connection is asked for, if it is, are of their kinds. -/
def Request.HasTypedSettings (request : Request) : Prop :=
  ∀ settings, request = .connect settings → settings.Typed

namespace Settings.Typed

variable {s : Settings}

theorem json_target (h : s.Typed) : ∃ t, s.target.json = .ok t ∧ Json.Tells s.target t := by
  obtain ⟨target, ht⟩ := h.target
  rw [ht]
  exact Json.exists_tells_text target

theorem json_bind (h : s.Typed) : ∃ t, s.bind.json = .ok t ∧ Json.Tells s.bind t := by
  obtain ⟨bind, hb⟩ := h.bind
  rw [hb]
  exact Json.exists_tells_text bind

theorem json_broadcast (h : s.Typed) :
    ∃ t, s.broadcast.json = .ok t ∧ Json.Tells s.broadcast t := by
  obtain ⟨broadcast, hb⟩ := h.broadcast
  rw [hb]
  exact Json.exists_tells_bool broadcast

/-- The port of settings of their kinds has a JSON text, unless it is too long. -/
theorem json_port (h : s.Typed) :
    (s.Named → ∃ t, s.port.json = .ok t ∧ Json.Tells s.port t) ∧
      (¬ s.Named → s.port.json = .error (.invalid .unwritable)) := by
  rcases h.port_cases with ⟨n, hp, hn⟩ | ⟨b, hp, hn⟩
  · rw [hn, hp]
    exact ⟨Json.exists_tells_int, Json.json_int_of_not_writable⟩
  · rw [hp]
    exact ⟨fun _ => Json.exists_tells_bool b, fun h => absurd hn h⟩

end Settings.Typed

namespace Link

/-- What is reported while the link is on, by the JSON texts of the settings. -/
theorem object_eq (target port bind broadcast : String) :
    Json.object
        [("connected", "true"), ("target", target), ("port", port), ("bind", bind),
         ("broadcast", broadcast)] =
      "\x7b\"connected\": true, \"target\": " ++ target ++ ", \"port\": " ++ port ++
        ", \"bind\": " ++ bind ++ ", \"broadcast\": " ++ broadcast ++ "\x7d" := by
  have names : Json.quote "connected" = "\"connected\"" ∧ Json.quote "target" = "\"target\"" ∧
      Json.quote "port" = "\"port\"" ∧ Json.quote "bind" = "\"bind\"" ∧
      Json.quote "broadcast" = "\"broadcast\"" := by decide
  rw [← String.toList_inj]
  simp [Json.object, names, String.intercalate_cons_cons]

/-- What was reported of a link, by its text. -/
theorem Reports.text_eq {link : Link} {text : String} (h : link.Reports (.ok (.text text))) :
    link = .off ∧ text = "\x7b\"connected\": false\x7d" ∨
      ∃ settings target port bind broadcast, link = .on settings ∧
        Json.Tells settings.target target ∧ Json.Tells settings.port port ∧
        Json.Tells settings.bind bind ∧ Json.Tells settings.broadcast broadcast ∧
        text = "\x7b\"connected\": true, \"target\": " ++ target ++ ", \"port\": " ++ port ++
          ", \"bind\": " ++ bind ++ ", \"broadcast\": " ++ broadcast ++ "\x7d" := by
  cases h with
  | off => exact .inl ⟨rfl, rfl⟩
  | on _ ht hp hb hbr => exact .inr ⟨_, _, _, _, _, rfl, ht, hp, hb, hbr, rfl⟩

/-- The texts of a link that is off and of one that is on differ where they tell that. -/
theorem off_ne_on (rest : String) :
    "\x7b\"connected\": false\x7d" ≠ "\x7b\"connected\": true, \"target\": " ++ rest := by
  intro h
  have h14 := congrArg (fun s => s.toList[14]?) h
  simp at h14

/-- **A report tells one state only**: whether the link is on, and all four settings if it is. -/
theorem Reports.unique {link other : Link} {text : String} (h : link.Reports (.ok (.text text)))
    (h' : other.Reports (.ok (.text text))) : link = other := by
  rcases h.text_eq with ⟨rfl, rfl⟩ | ⟨s, target, port, bind, broadcast, rfl, ht, hp, hb, hbr, rfl⟩
  · rcases h'.text_eq with ⟨rfl, -⟩ | ⟨s', _, _, _, _, rfl, -, -, -, -, h⟩
    · rfl
    · simp only [String.append_assoc] at h
      exact absurd h (off_ne_on _)
  · rcases h'.text_eq with ⟨-, h⟩ | ⟨s', _, _, _, _, rfl, ht', hp', hb', hbr', h⟩
    · simp only [String.append_assoc] at h
      exact absurd h.symm (off_ne_on _)
    · have hn : Json.isNumeric ',' = false ∧ Json.isNumeric '\x7d' = false := by decide
      have h := congrArg String.toList h
      simp only [String.toList_append, List.append_assoc] at h
      obtain ⟨etarget, h⟩ := ht.unique_before ht' hn.1 (List.append_cancel_left h)
      obtain ⟨eport, h⟩ := hp.unique_before hp' hn.1 h
      obtain ⟨ebind, h⟩ := hb.unique_before hb' hn.1 h
      obtain ⟨ebroadcast, -⟩ := hbr.unique hbr' hn.2 hn.2 h
      obtain ⟨⟩ := s
      obtain ⟨⟩ := s'
      subst etarget eport ebind ebroadcast
      rfl

end Link

namespace Console

open Procedure Service

/-- The state of a console's link. -/
def link (c : Console) : Link :=
  match c.open? with
  | some connection => .on connection.settings
  | none => .off

/-- A console whose sockets are all closed, but for the one that is held, and which keeps no
sequence numbers unless it holds one. -/
structure Settled (c : Console) : Prop where
  fresh : c.open? = none → c.sequences = []
  closed : ∀ i, .close i ∈ c.network.calls ↔
    i < c.network.created ∧ ∀ connection, c.open? = some connection → connection.socket ≠ some i
  held : ∀ connection, c.open? = some connection → ∃ socket, connection.socket = some socket ∧
    socket < c.network.created ∧
    .bind socket connection.settings.bind connection.settings.port ∈ c.network.calls
  typed : ∀ connection, c.open? = some connection → connection.settings.Typed

theorem settled_init : Settled {} where
  fresh _ := rfl
  closed _ := by simp
  held _ h := by cases h
  typed _ h := by cases h

/-! ### Tools that leave the link alone -/

/-- A console on which nothing was done since it was another that concerns its link: sequence
numbers are recorded only while the link is on. -/
structure Spares (c d : Console) : Prop where
  connection_eq : d.connection = c.connection
  created_eq : d.network.created = c.network.created
  calls_eq : ∃ calls, d.network.calls = c.network.calls ++ calls ∧
    ∀ call ∈ calls, ∀ i, call ≠ .close i
  sequences_eq : c.open? = none → d.sequences = c.sequences

variable {c d : Console}

theorem Spares.refl (c : Console) : c.Spares c := ⟨rfl, rfl, ⟨[], by simp, by simp⟩, fun _ => rfl⟩

theorem Spares.open?_eq (h : c.Spares d) : d.open? = c.open? := by
  rw [open?, h.connection_eq, open?]

theorem Spares.link_eq (h : c.Spares d) : d.link = c.link := by
  rw [link, h.open?_eq, link]

theorem Settled.of_spares (hc : c.Settled) (h : c.Spares d) : d.Settled := by
  obtain ⟨calls, hcalls, hclose⟩ := h.calls_eq
  refine ⟨fun hd => ?_, fun i => ?_, fun connection hd => ?_, fun connection hd => ?_⟩
  · rw [h.open?_eq] at hd
    rw [h.sequences_eq hd]
    exact hc.fresh hd
  · have hi : .close i ∉ calls := fun hm => hclose _ hm i rfl
    rw [hcalls, List.mem_append, or_iff_left hi, hc.closed, h.created_eq, h.open?_eq]
  · rw [h.open?_eq] at hd
    obtain ⟨socket, hs, hlt, hbind⟩ := hc.held connection hd
    refine ⟨socket, hs, by rwa [h.created_eq], ?_⟩
    rw [hcalls]
    exact List.mem_append_left _ hbind
  · rw [h.open?_eq] at hd
    exact hc.typed connection hd

theorem spares_of_adds {kind : Call → Bool} (hk : ∀ i, kind (.close i) = false)
    (h : c.Adds kind d) : c.Spares d := by
  obtain ⟨calls, hcalls, hkind⟩ := h.network.calls_eq
  refine ⟨h.connection_eq, h.network.created_eq, ⟨calls, hcalls, ?_⟩, fun _ => h.sequences_eq⟩
  rintro call hcall i rfl
  exact absurd (hkind _ hcall) (by simp [hk])

theorem spares_of_sending {n : Int} {numbered : Bool} {result : Except Fault Reply × Console}
    (h : Sending c n numbered result) : c.Spares result.2 := by
  cases h with
  | unsent adds undelivered => exact spares_of_adds (fun _ => rfl) adds
  | sent opened held port sequence passed whole delivered =>
    refine ⟨rfl, rfl, ⟨_, rfl, by simp⟩, fun hopen => ?_⟩
    cases hopen.symm.trans opened

/-- Connecting and disconnecting are the only tools that concern the link. -/
theorem spares_serve {request : Request} (hw : request.HasWholePort)
    (hc : ∀ settings, request ≠ .connect settings) (hd : request ≠ .disconnect) :
    c.Spares (request.serve.run c).2 := by
  cases hf : request.frame? with
  | some asked =>
    obtain ⟨port, numbered⟩ := asked
    obtain ⟨n, hn⟩ := hw port numbered hf
    exact spares_of_sending (sending hf hn)
  | none => exact spares_of_adds (fun _ => rfl) (adds_serve hf hc hd c)

/-! ### Connecting and disconnecting -/

section

variable {settings : Settings}

theorem link_of_open {connection : Connection} (h : c.open? = some connection) :
    c.link = .on connection.settings := by
  rw [link, h]

theorem link_of_not_open (h : c.open? = none) : c.link = .off := by
  rw [link, h]

/-- What connecting comes to while the link is off. -/
structure Connecting (c : Console) (settings : Settings) (reply : Except Fault Reply)
    (d : Console) : Prop where
  settled : d.Settled
  queue_eq : d.network.queue = c.network.queue
  created_le : c.network.created ≤ d.network.created
  /-- The link is on if no call fails, and off otherwise. -/
  outcome : ∃ calls, d.network.calls = c.network.calls ++ calls ∧
    if c.network.script.failsAny calls then (∃ fault, reply = .error fault) ∧ d.open? = none
    else reply = .ok (.connected settings.target settings.port settings.bind) ∧
      d.link = .on settings

theorem settled_of_off (hopen : d.open? = none) (hfresh : d.sequences = [])
    (hclosed : ∀ i, .close i ∈ d.network.calls ↔ i < d.network.created) : d.Settled := by
  refine ⟨fun _ => hfresh, fun i => ?_, fun connection h => ?_, fun connection h => ?_⟩
  · rw [hclosed, hopen]
    simp
  · rw [hopen] at h
    cases h
  · rw [hopen] at h
    cases h

theorem settled_of_on {connection : Connection} {socket : Nat} (hopen : d.open? = some connection)
    (hsocket : connection.socket = some socket) (hlt : socket < d.network.created)
    (hbind : .bind socket connection.settings.bind connection.settings.port ∈ d.network.calls)
    (hclosed : ∀ i, .close i ∈ d.network.calls ↔ i < d.network.created ∧ i ≠ socket)
    (ht : connection.settings.Typed) : d.Settled := by
  refine ⟨fun h => ?_, fun i => ?_, fun other h => ?_, fun other h => ?_⟩
  · rw [hopen] at h
    cases h
  · rw [hclosed, hopen]
    simp [hsocket, eq_comm]
  · obtain rfl := Option.some.inj (hopen.symm.trans h)
    exact ⟨socket, hsocket, hlt, hbind⟩
  · obtain rfl := Option.some.inj (hopen.symm.trans h)
    exact ht

/-- While the link is off all sockets are closed. -/
theorem Settled.closed_of_off (hc : c.Settled) (hopen : c.open? = none) (i : Nat) :
    .close i ∈ c.network.calls ↔ i < c.network.created := by
  rw [hc.closed, hopen]
  simp

theorem connecting (hc : c.Settled) (hopen : c.open? = none) (ht : settings.Typed)
    (hs : c.network.script.OfSystem) :
    c.Connecting settings ((connect settings).run c).1 ((connect settings).run c).2 := by
  have hfresh := hc.fresh hopen
  have hclosed := hc.closed_of_off hopen
  rw [run_connect hopen]
  have ho := Transport.opening ⟨{ settings }, c.network⟩
  generalize Transport.openSocket.run ⟨{ settings }, c.network⟩ = result at ho
  cases ho with
  | @refused fault hcreate =>
    have hfails := Transport.failsAny_refused hcreate
    refine ⟨settled_of_off rfl hfresh fun i => ?_, rfl, le_rfl, [.create], rfl, ?_⟩
    · simp [Network.record, hclosed]
    · rw [if_pos hfails]
      exact ⟨⟨_, rfl⟩, rfl⟩
  | @abandoned cause fault hcreate hprepare =>
    dsimp only at hcreate hprepare
    obtain ⟨call, -, hcause⟩ := List.exists_of_findSome?_eq_some hprepare
    have hsystem := hs call cause hcause
    have hfails := Transport.failsAny_abandoned
      (if cause.isSystem then [.close c.network.created] else []) hprepare
    refine ⟨settled_of_off rfl hfresh fun i => ?_, rfl, Nat.le_succ _, _, rfl, ?_⟩
    · have hmade : .close i ∉ c.network.script.made
          (Transport.preparation c.network.created settings) :=
        fun hm => Transport.close_not_mem_preparation i _ settings (Script.made_subset _ _ hm)
      simp only [hsystem, if_true, List.mem_append, List.mem_cons, hclosed, hmade, reduceCtorEq,
        List.not_mem_nil, Call.close.injEq, or_false, false_or]
      exact Nat.lt_succ_iff_lt_or_eq.symm
    · rw [if_pos hfails]
      exact ⟨⟨_, rfl⟩, rfl⟩
  | bound log hcreate hprepare =>
    dsimp only at hcreate hprepare
    have hfails := Transport.failsAny_bound hcreate hprepare
    refine ⟨settled_of_on rfl rfl (Nat.lt_succ_self _) ?_ (fun i => ?_) ht, rfl, Nat.le_succ _, _,
      rfl, ?_⟩
    · simp [Transport.preparation]
    · have hprep := Transport.close_not_mem_preparation i c.network.created settings
      simp only [List.mem_append, List.mem_cons, hclosed, hprep, reduceCtorEq, or_false]
      omega
    · rw [if_neg (by rw [hfails]; exact Bool.false_ne_true), ht.stated]
      exact ⟨rfl, rfl⟩

/-- Disconnecting always answers, and leaves the link off. -/
theorem disconnecting (hc : c.Settled) (hs : c.network.script.OfSystem) :
    (disconnect.run c).1 = .ok .disconnected ∧ (disconnect.run c).2.Settled ∧
      (disconnect.run c).2.open? = none := by
  cases hopen : c.open? with
  | none =>
    have hfresh := hc.fresh hopen
    rw [run_disconnect_of_not_open hopen hfresh]
    exact ⟨rfl, settled_of_off rfl rfl (hc.closed_of_off hopen), rfl⟩
  | some connection =>
    obtain ⟨hconn, hconnected⟩ := open?_eq_some_iff.mp hopen
    obtain ⟨socket, hsocket, hlt, -⟩ := hc.held connection hopen
    obtain ⟨log, hr⟩ := Transport.run_closeSocket (e := ⟨connection, c.network⟩) hconnected hsocket
    have hforgive : Transport.forgiveClose (c.network.script.outcome (.close socket)) = .ok () := by
      rw [Script.outcome]
      cases hf : c.network.script (.close socket) with
      | none => rfl
      | some fault => simp [Transport.forgiveClose, hs _ _ hf]
    rw [run_disconnect hconn, hr, hforgive]
    refine ⟨rfl, settled_of_off rfl rfl fun i => ?_, rfl⟩
    rw [List.mem_append, hc.closed, hopen]
    simp [hsocket]
    omega

end

/-! ### Tools that need the link -/

/-- The requests that cannot be served while the link is off. -/
inductive NeedsLink : Request → Prop where
  | sendFrame (port data physical sequenced : Value) :
    NeedsLink (.sendFrame port data physical sequenced)
  | blackout (port : Value) {channels : Value} {n : Int} (whole : channels.whole = .ok n)
      (range : 1 ≤ n ∧ n ≤ 512) : NeedsLink (.blackout port channels)
  | sendTimecode (hours minutes seconds frames keyType stream : Value) :
    NeedsLink (.sendTimecode hours minutes seconds frames keyType stream)
  | receivePacket (timeout : Value) : NeedsLink (.receivePacket timeout)

/-- While the link is off nothing is done with a connection. -/
theorem run_openConnection_bind (hopen : c.open? = none) {α : Type} (f : Connection → Service α) :
    (openConnection >>= f).run c = (.error .disconnected, c) := by
  rw [run_bind, run_openConnection, hopen]
  rfl

theorem run_of_off (hopen : c.open? = none) {request : Request} (hr : NeedsLink request) :
    request.serve.run c = (.error .disconnected, c) := by
  cases hr with
  | sendFrame => exact run_openConnection_bind hopen _
  | sendTimecode => exact run_openConnection_bind hopen _
  | receivePacket => exact run_openConnection_bind hopen _
  | @blackout port channels n whole range =>
    have hwithin : channels.within 1 Packet.maxChannels = .ok true := by
      obtain ⟨key, rfl, hk⟩ := Value.whole_eq_ok_iff.mp whole
      have hw : (Value.scalar key).within 1 Packet.maxChannels =
          (orFault .mismatch key.whole?).map fun n => 1 ≤ n && n ≤ (Packet.maxChannels : Int) := by
        cases key <;> cases hk <;> rfl
      rw [hw, hk]
      simp [orFault, Except.map, Packet.maxChannels, range.1, range.2]
    rw [Request.serve, blackout, run_bind, run_conclude, hwithin]
    dsimp only
    rw [if_pos rfl, run_bind, run_conclude, whole]
    exact run_openConnection_bind hopen _

end Console

/-! ### Turns -/

/-- A turn in which the arguments are of their kinds and nothing goes wrong but what the system
refuses. -/
structure Turn.Sound (t : Turn) : Prop where
  system : t.script.OfSystem
  settings : t.request.HasTypedSettings
  port : t.request.HasWholePort

namespace Console

open Procedure Service

variable {c : Console} {t : Turn}

theorem Settled.meet (hc : c.Settled) (t : Turn) : (t.meet c).Settled :=
  ⟨hc.fresh, hc.closed, hc.held, hc.typed⟩

/-- **Every turn leaves the sockets settled.** -/
theorem Settled.play (hc : c.Settled) (ht : t.Sound) : (t.play c).2.Settled := by
  cases hr : t.request with
  | connect settings =>
    rw [Turn.play, hr]
    cases hopen : (t.meet c).open? with
    | some connection =>
      rw [Request.serve, run_connect_of_open hopen]
      exact hc.meet t
    | none => exact (connecting (hc.meet t) hopen (ht.settings settings hr) ht.system).settled
  | disconnect =>
    rw [Turn.play, hr]
    exact (disconnecting (hc.meet t) ht.system).2.1
  | _ => exact (hc.meet t).of_spares (spares_serve ht.port (by simp [hr]) (by simp [hr]))

/-- **Every run leaves the sockets settled.** -/
theorem settled_after (turns : List Turn) (ht : ∀ t ∈ turns, t.Sound) :
    (after {} turns).Settled := by
  induction turns using List.reverseRecOn with
  | nil => exact settled_init
  | append_singleton turns t ih =>
    rw [after_concat]
    exact (ih fun u hu => ht u (by simp [hu])).play (ht t (by simp))

/-- Whether a call failed in a turn. -/
def failed (c : Console) (t : Turn) : Bool := t.script.failsAny (c.entry t).calls

section

variable {settings : Settings} {connection : Connection}

theorem play_connect_of_open (hr : t.request = .connect settings)
    (hopen : c.open? = some connection) :
    t.play c = (.ok (.alreadyConnected connection.settings.target), t.meet c) := by
  rw [Turn.play, hr]
  exact run_connect_of_open (c := t.meet c) hopen

theorem connecting_play (hc : c.Settled) (ht : t.Sound) (hr : t.request = .connect settings)
    (hopen : c.open? = none) : (t.meet c).Connecting settings (t.play c).1 (t.play c).2 := by
  rw [Turn.play, hr]
  exact connecting (hc.meet t) hopen (ht.settings settings hr) ht.system

/-- Connecting while the link is off brings it up if no call fails, and fails otherwise. -/
theorem play_connect (hc : c.Settled) (ht : t.Sound) (hr : t.request = .connect settings)
    (hopen : c.open? = none) :
    if c.failed t then (∃ fault, (t.play c).1 = .error fault) ∧ (t.play c).2.open? = none
    else (t.play c).1 = .ok (.connected settings.target settings.port settings.bind) ∧
      (t.play c).2.link = .on settings := by
  obtain ⟨calls, hcalls, houtcome⟩ := (connecting_play hc ht hr hopen).outcome
  rw [failed, entry_calls hcalls]
  exact houtcome

end

theorem play_disconnect (hc : c.Settled) (ht : t.Sound) (hr : t.request = .disconnect) :
    (t.play c).1 = .ok .disconnected ∧ (t.play c).2.open? = none := by
  rw [Turn.play, hr]
  obtain ⟨hreply, -, hopen⟩ := disconnecting (hc.meet t) ht.system
  exact ⟨hreply, hopen⟩

/-- **The link goes on as the machine does.** -/
theorem link_play (hc : c.Settled) (ht : t.Sound) :
    (t.play c).2.link = c.link.next t.request (c.failed t) := by
  cases hr : t.request with
  | connect settings =>
    cases hopen : c.open? with
    | some connection =>
      rw [play_connect_of_open hr hopen, link_of_open hopen]
      exact link_of_open hopen
    | none =>
      have hplay := play_connect hc ht hr hopen
      rw [link_of_not_open hopen]
      cases hfailed : c.failed t with
      | true =>
        rw [hfailed, if_pos rfl] at hplay
        exact link_of_not_open hplay.2
      | false =>
        rw [hfailed, if_neg Bool.false_ne_true] at hplay
        exact hplay.2
  | disconnect =>
    rw [link_of_not_open (play_disconnect hc ht hr).2]
    cases c.link <;> rfl
  | _ =>
    have hs : (t.meet c).Spares (t.play c).2 := spares_serve ht.port (by simp [hr]) (by simp [hr])
    have hlink : (t.play c).2.link = c.link := hs.link_eq
    rw [hlink]
    cases c.link <;> rfl

/-- **The link of every run is the state of the machine.** -/
theorem link_after (turns : List Turn) (ht : ∀ t ∈ turns, t.Sound) :
    (after {} turns).link = (journal {} turns).foldl
      (fun link x => link.next x.turn.request (x.turn.script.failsAny x.calls)) .off := by
  induction turns using List.reverseRecOn with
  | nil => rfl
  | append_singleton turns t ih =>
    have hturns : ∀ u ∈ turns, u.Sound := fun u hu => ht u (by simp [hu])
    rw [after_concat, link_play (settled_after turns hturns) (ht t (by simp)), ih hturns,
      journal_append, List.foldl_append]
    rfl

/-! ### Status -/

/-- What is reported is what the link is. -/
theorem statusOf_reports (hc : c.Settled) :
    c.link.Reports ((statusOf c.open?).map .text) := by
  cases hopen : c.open? with
  | none =>
    rw [link_of_not_open hopen]
    exact .off
  | some connection =>
    obtain ⟨-, hconnected⟩ := open?_eq_some_iff.mp hopen
    have typed := hc.typed connection hopen
    obtain ⟨target, ht, htells⟩ := typed.json_target
    obtain ⟨bind, hb, hbtells⟩ := typed.json_bind
    obtain ⟨broadcast, hbr, hbrtells⟩ := typed.json_broadcast
    rw [link_of_open hopen, statusOf, if_pos hconnected, ht]
    by_cases hn : connection.settings.Named
    · obtain ⟨port, hp, hptells⟩ := typed.json_port.1 hn
      rw [hp, hb, hbr]
      change Link.Reports _ (.ok (.text (Json.object _)))
      rw [Link.object_eq]
      exact .on hn htells hptells hbtells hbrtells
    · rw [typed.json_port.2 hn]
      exact .unnamed hn

end Console

end DmxNet
