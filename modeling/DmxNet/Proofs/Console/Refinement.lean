import DmxNet.Proofs.Console.Link
import DmxNet.Proofs.Network.Renumbering

/-!
# The console as a machine of two states

A console whose connection could not be opened goes on as if that had never been asked for: the same
replies and the same calls, but for the numbers of the sockets (`Console.BehavesAs`). For this a run
from the one console is followed by a run from the other, tool by tool (`Console.Renumbered`).

With that the console is, in every run, a machine that is off or on (`connection_refines`).
-/

namespace DmxNet

/-- Consoles that are the same but for the numbers of the sockets, since some calls on each, as far
as their tools can tell. -/
structure Console.Renumbered (gap : Nat) (xs ys : List Call) (c d : Console) : Prop where
  open_eq : c.open? = d.open?.map (Connection.shift gap)
  sequences_eq : c.sequences = d.sequences
  network : c.network.Renumbered gap xs ys d.network

theorem Console.Renumbered.open?_eq_none {gap : Nat} {xs ys : List Call} {c d : Console}
    (h : c.Renumbered gap xs ys d) (hd : d.open? = none) : c.open? = none := by
  rw [h.open_eq, hd]
  rfl

theorem Console.Renumbered.open?_eq_some {gap : Nat} {xs ys : List Call} {c d : Console}
    {connection : Connection} (h : c.Renumbered gap xs ys d) (hd : d.open? = some connection) :
    c.open? = some (connection.shift gap) := by
  rw [h.open_eq, hd]
  rfl

namespace Service

open Procedure

variable (gap : Nat) (xs ys : List Call) in
/-- Procedures that do the same on consoles that are the same but for the numbers. -/
abbrev Renumbers {α β : Type} (A : α → β → Prop) (p : Service α) (q : Service β) : Prop :=
  Mirrors (Console.Renumbered gap xs ys) A p q

variable {gap : Nat} {xs ys : List Call}

/-! ### Parts of the tools -/

theorem renumbers_note (level : Level) (text : String) :
    Renumbers gap xs ys Eq (note level text) (note level text) :=
  mirrors_modify fun _ _ h => ⟨h.open_eq, h.sequences_eq, h.network.note level text⟩

/-- The connection that a procedure leaves is open if its counterpart is. -/
theorem filter_shift (connection : Connection) :
    (some (connection.shift gap)).filter Connection.connected =
      ((some connection).filter Connection.connected).map (Connection.shift gap) := by
  obtain ⟨settings, socket, connected⟩ := connection
  cases connected <;> rfl

theorem renumbers_through {α β : Type} {A : α → β → Prop} {p : Transport α} {q : Transport β}
    (h : Transport.Renumbers gap xs ys A p q) (connection : Connection) :
    Renumbers gap xs ys A (through (connection.shift gap) p) (through connection q) := by
  intro c d hcd
  obtain ⟨hresult, he⟩ :=
    h ⟨connection.shift gap, c.network⟩ ⟨connection, d.network⟩ ⟨rfl, hcd.network⟩
  rw [run_through, run_through]
  refine ⟨hresult, ?_, hcd.sequences_eq, he.network⟩
  rw [Console.open?, he.connection_eq]
  exact filter_shift _

theorem renumbers_openConnection :
    Renumbers gap xs ys (fun a b => a = b.shift gap) openConnection openConnection := by
  intro c d h
  rw [run_openConnection, run_openConnection, h.open_eq]
  refine ⟨?_, h⟩
  cases d.open? with
  | none => exact .fault _
  | some connection => exact .answer rfl

theorem renumbers_nextSequence (port : Value) :
    Renumbers gap xs ys Eq (nextSequence port) (nextSequence port) := by
  refine mirrors_bind_eq (mirrors_conclude _) fun key => mirrors_bind mirrors_get fun c d h => ?_
  rw [h.sequences_eq]
  exact mirrors_pure rfl

theorem renumbers_recordSequence (port : Value) (n : Int) :
    Renumbers gap xs ys Eq (recordSequence port n) (recordSequence port n) := by
  refine mirrors_bind_eq (mirrors_conclude _) fun key => mirrors_modify fun c d h => ?_
  exact ⟨h.open_eq, congrArg (SequenceTable.put · key n) h.sequences_eq, h.network⟩

end Service

namespace Console

open Procedure Service

variable {gap : Nat} {xs ys : List Call}

/-! ### Tools -/

theorem renumbers_composeAndSend (connection : Connection) (port data physical : Value)
    (numbered : Bool) :
    Renumbers gap xs ys Eq (composeAndSend (connection.shift gap) port data physical numbered)
      (composeAndSend connection port data physical numbered) := by
  have send (sequence : Int) := mirrors_bind_eq (S := Renumbered gap xs ys) (B := Eq)
    (mirrors_conclude (frame (.int sequence) physical port data)) fun command =>
    mirrors_bind_eq (renumbers_through (Transport.renumbers_sendCommand command) connection)
    fun bytes => mirrors_pure (rfl : (command, bytes) = _)
  unfold composeAndSend
  split
  · exact mirrors_bind_eq (renumbers_nextSequence port) send
  · exact mirrors_bind_eq (mirrors_pure rfl) send

theorem renumbers_sendFrame (port data physical sequenced : Value) :
    Renumbers gap xs ys Eq (sendFrame port data physical sequenced)
      (sendFrame port data physical sequenced) := by
  refine mirrors_bind renumbers_openConnection fun _ connection h => ?_
  subst h
  refine mirrors_outcome_bind (renumbers_composeAndSend connection _ _ _ _) fun result => ?_
  rcases result with fault | ⟨command, bytes⟩
  · dsimp only
    split
    · exact mirrors_bind_eq (mirrors_conclude _) fun shown =>
        mirrors_bind_eq (renumbers_note _ _) fun _ => mirrors_pure rfl
    · exact mirrors_throw _
  · refine mirrors_bind_eq (mirrors_conclude _) fun sequence =>
      mirrors_bind_eq (mirrors_conclude _) fun levels => ?_
    split
    · exact mirrors_bind_eq (mirrors_conclude _) fun n =>
        mirrors_bind_eq (renumbers_recordSequence port n) fun _ =>
        mirrors_bind_eq (mirrors_conclude _) fun size => mirrors_pure rfl
    · exact mirrors_bind_eq (mirrors_conclude _) fun size => mirrors_pure rfl

theorem renumbers_blackout (port channels : Value) :
    Renumbers gap xs ys Eq (blackout port channels) (blackout port channels) := by
  refine mirrors_bind_eq (mirrors_conclude _) fun isWithin => ?_
  split
  · exact mirrors_bind_eq (mirrors_conclude _) fun n => renumbers_sendFrame _ _ _ _
  · exact mirrors_pure rfl

theorem renumbers_sendTimecode (hours minutes seconds frames keyType stream : Value) :
    Renumbers gap xs ys Eq (sendTimecode hours minutes seconds frames keyType stream)
      (sendTimecode hours minutes seconds frames keyType stream) := by
  refine mirrors_bind renumbers_openConnection fun _ connection h => ?_
  subst h
  have send := mirrors_bind_eq (S := Renumbered gap xs ys) (B := Eq)
    (mirrors_conclude (position hours minutes seconds frames keyType stream)) fun command =>
    mirrors_bind_eq (renumbers_through (Transport.renumbers_sendCommand command) connection)
    fun bytes => mirrors_pure (rfl : (command, bytes) = _)
  refine mirrors_outcome_bind send fun result => ?_
  rcases result with fault | ⟨command, bytes⟩
  · dsimp only
    split
    · exact mirrors_pure rfl
    · exact mirrors_throw _
  · exact mirrors_bind_eq (mirrors_conclude _) fun shown => mirrors_pure rfl

theorem renumbers_receivePacket (timeout : Value) :
    Renumbers gap xs ys Eq (receivePacket timeout) (receivePacket timeout) := by
  refine mirrors_bind renumbers_openConnection fun _ connection h => ?_
  subst h
  refine mirrors_bind_eq
    (renumbers_through (Transport.renumbers_receiveCommand timeout) connection) fun received => ?_
  cases received with
  | none => exact mirrors_pure rfl
  | some command => exact mirrors_bind_eq (mirrors_conclude _) fun _ => mirrors_pure rfl

theorem renumbers_status : Renumbers gap xs ys Eq status status := by
  intro c d h
  rw [run_status, run_status, h.open_eq]
  have hs : statusOf (d.open?.map (Connection.shift gap)) = statusOf d.open? := by
    cases d.open? with
    | none => rfl
    | some connection =>
      obtain ⟨settings, socket, connected⟩ := connection
      cases connected <;> rfl
  rw [hs]
  exact ⟨.refl _, h⟩

theorem renumbers_connect (settings : Settings) :
    Renumbers gap xs ys Eq (connect settings) (connect settings) := by
  intro c d h
  cases hd : d.open? with
  | some connection =>
    rw [run_connect_of_open (h.open?_eq_some hd), run_connect_of_open hd]
    exact ⟨.refl _, h⟩
  | none =>
    have opens : Renumbers gap xs ys Eq
        (through { settings } Transport.openSocket >>= fun opened =>
          pure (Reply.connected opened.target opened.port opened.bind))
        (through { settings } Transport.openSocket >>= fun opened =>
          pure (Reply.connected opened.target opened.port opened.bind)) :=
      mirrors_bind_eq (renumbers_through Transport.renumbers_openSocket { settings }) fun _ =>
        mirrors_pure rfl
    rw [run_connect_eq (h.open?_eq_none hd), run_connect_eq hd]
    exact opens c d h

/-- Disconnecting does the same if neither console keeps numbers without a connection. -/
theorem renumbered_disconnect {c d : Console} (h : c.Renumbered gap xs ys d)
    (hc : c.open? = none → c.sequences = []) (hd : d.open? = none → d.sequences = []) :
    Match Eq (disconnect.run c).1 (disconnect.run d).1 ∧
      (disconnect.run c).2.Renumbered gap xs ys (disconnect.run d).2 := by
  cases hopen : d.open? with
  | none =>
    have hopen' := h.open?_eq_none hopen
    rw [run_disconnect_of_not_open hopen' (hc hopen'), run_disconnect_of_not_open hopen (hd hopen)]
    exact ⟨.refl _, rfl, rfl, h.network⟩
  | some connection =>
    have hopen' := h.open?_eq_some hopen
    have closes : Renumbers gap xs ys Eq
        (through (connection.shift gap) Transport.closeSocket >>= fun _ =>
          modify (fun c => { c with connection := none, sequences := [] }) >>= fun _ =>
          pure Reply.disconnected)
        (through connection Transport.closeSocket >>= fun _ =>
          modify (fun c => { c with connection := none, sequences := [] }) >>= fun _ =>
          pure Reply.disconnected) :=
      mirrors_bind_eq (renumbers_through Transport.renumbers_closeSocket connection) fun _ =>
        mirrors_bind_eq (mirrors_modify fun _ _ h => ⟨rfl, rfl, h.network⟩) fun _ =>
        mirrors_pure rfl
    rw [run_disconnect_eq (open?_eq_some_iff.mp hopen').1,
      run_disconnect_eq (open?_eq_some_iff.mp hopen).1]
    exact closes c d h

/-- Every request does the same. -/
theorem renumbered_serve {c d : Console} (h : c.Renumbered gap xs ys d)
    (hc : c.open? = none → c.sequences = []) (hd : d.open? = none → d.sequences = [])
    (request : Request) :
    Match Eq (request.serve.run c).1 (request.serve.run d).1 ∧
      (request.serve.run c).2.Renumbered gap xs ys (request.serve.run d).2 := by
  cases request with
  | connect settings => exact renumbers_connect settings c d h
  | disconnect => exact renumbered_disconnect h hc hd
  | sendFrame => exact renumbers_sendFrame _ _ _ _ c d h
  | blackout => exact renumbers_blackout _ _ c d h
  | sendTimecode => exact renumbers_sendTimecode _ _ _ _ _ _ c d h
  | receivePacket => exact renumbers_receivePacket _ c d h
  | status => exact renumbers_status c d h
  | encodeFrame | decodePacket | opcodes | scene => exact mirrors_conclude _ c d h

end Console

/-! ### Runs side by side -/

/-- A turn as it is where fewer sockets were created before it. -/
def Turn.before (gap : Nat) (t : Turn) : Turn :=
  { t with script := fun call => t.script (call.shift gap) }

theorem Turn.Sound.before {t : Turn} (ht : t.Sound) (gap : Nat) : (t.before gap).Sound where
  system call := ht.system (call.shift gap)
  settings := ht.settings
  port := ht.port

/-- Turns with the same reply and the same calls, but for the numbers of the sockets. -/
structure Entry.Renumbered (gap : Nat) (x y : Entry) : Prop where
  reply_eq : x.reply = y.reply
  calls_eq : x.calls = y.calls.map (Call.shift gap)

namespace Console

/-- A console that goes on as another does, from then on and but for the numbers of the sockets,
whatever is asked for and whatever the system refuses. -/
def BehavesAs (c d : Console) : Prop :=
  ∃ gap, ∀ turns : List Turn, (∀ t ∈ turns, t.Sound) →
    List.Forall₂ (Entry.Renumbered gap) (c.journal turns) (d.journal (turns.map (Turn.before gap)))

/-- Consoles between turns that differ in nothing that a tool can tell but in how many sockets were
created. -/
structure Follows (gap : Nat) (c d : Console) : Prop where
  open_eq : c.open? = d.open?.map (Connection.shift gap)
  sequences_eq : c.sequences = d.sequences
  queue_eq : c.network.queue = d.network.queue
  created_eq : c.network.created = d.network.created + gap

variable {gap : Nat} {c d : Console} {t : Turn}

theorem Follows.meet (h : c.Follows gap d) (t : Turn) :
    (t.meet c).Renumbered gap c.network.calls d.network.calls ((t.before gap).meet d) := by
  refine ⟨h.open_eq, h.sequences_eq, fun _ => rfl, ?_, h.created_eq, [], ?_, ?_⟩
  · exact congrArg (· ++ t.arrivals) h.queue_eq
  · exact (List.append_nil _).symm
  · exact (List.append_nil _).symm

theorem Renumbered.follows {xs ys : List Call} (h : c.Renumbered gap xs ys d) :
    c.Follows gap d :=
  ⟨h.open_eq, h.sequences_eq, h.network.queue_eq, h.network.created_eq⟩

theorem Follows.play (h : c.Follows gap d) (hc : c.Settled) (hd : d.Settled) (t : Turn) :
    (c.entry t).Renumbered gap (d.entry (t.before gap)) ∧
      (t.play c).2.Follows gap ((t.before gap).play d).2 := by
  obtain ⟨hreply, hleft⟩ := renumbered_serve (h.meet t) hc.fresh hd.fresh t.request
  obtain ⟨calls, hxs, hys⟩ := hleft.network.calls_eq
  have hcalls : (c.entry t).calls = calls.map (Call.shift gap) := entry_calls hxs
  have hcalls' : (d.entry (t.before gap)).calls = calls := entry_calls hys
  exact ⟨⟨hreply.eq, by rw [hcalls, hcalls']⟩, hleft.follows⟩

theorem Follows.journal (h : c.Follows gap d) (hc : c.Settled) (hd : d.Settled)
    (turns : List Turn) (ht : ∀ t ∈ turns, t.Sound) :
    List.Forall₂ (Entry.Renumbered gap) (c.journal turns)
      (d.journal (turns.map (Turn.before gap))) := by
  induction turns generalizing c d with
  | nil => exact .nil
  | cons t turns ih =>
    have hsound := ht t (by simp)
    obtain ⟨hentry, hplay⟩ := h.play hc hd t
    exact .cons hentry (ih hplay (hc.play hsound) (hd.play (hsound.before gap))
      fun u hu => ht u (by simp [hu]))

/-- A connection that could not be opened makes no difference. -/
theorem behavesAs_of_failed {settings : Settings} (hc : c.Settled) (ht : t.Sound)
    (hr : t.request = .connect settings) (hopen : c.open? = none) (hf : c.failed t = true) :
    (∃ fault, (t.play c).1 = .error fault) ∧ (t.play c).2.BehavesAs (t.meet c) := by
  have hconn := connecting_play hc ht hr hopen
  have hplay := play_connect hc ht hr hopen
  rw [hf, if_pos rfl] at hplay
  obtain ⟨hfault, hopen'⟩ := hplay
  refine ⟨hfault, (t.play c).2.network.created - c.network.created, fun turns hturns =>
    Follows.journal ⟨?_, ?_, hconn.queue_eq, ?_⟩ hconn.settled (hc.meet t) turns hturns⟩
  · have hmeet : (t.meet c).open? = none := hopen
    rw [hopen', hmeet]
    rfl
  · exact (hconn.settled.fresh hopen').trans (hc.fresh hopen).symm
  · exact (Nat.add_sub_cancel' hconn.created_le).symm

/-! ### The machine -/

/-- How a console serves a turn as a machine that is off or on. -/
structure Refines (c : Console) (t : Turn) : Prop where
  /-- The link goes on as the machine does. -/
  next : (t.play c).2.link = c.link.next t.request (c.failed t)
  /-- Connecting answers with the settings if no call fails. -/
  connects : ∀ settings, c.link = .off → t.request = .connect settings → c.failed t = false →
    (t.play c).1 = .ok (.connected settings.target settings.port settings.bind)
  /-- Connecting fails otherwise, and makes no difference to what comes after it. -/
  gives_up : ∀ settings, c.link = .off → t.request = .connect settings → c.failed t = true →
    (∃ fault, (t.play c).1 = .error fault) ∧ (t.play c).2.BehavesAs (t.meet c)
  /-- Connecting while the link is on does nothing. -/
  stays : ∀ settings asked, c.link = .on settings → t.request = .connect asked →
    t.play c = (.ok (.alreadyConnected settings.target), t.meet c)
  /-- Disconnecting always answers. -/
  disconnects : t.request = .disconnect → (t.play c).1 = .ok .disconnected
  /-- While the link is off, the tools that need it fail and do nothing. -/
  needs : c.link = .off → NeedsLink t.request → t.play c = (.error .disconnected, t.meet c)
  /-- The status is that of the link. -/
  reports : t.request = .status → c.link.Reports (t.play c).1
  /-- The text of the status is that of no other state. -/
  tells : ∀ text link, t.request = .status → (t.play c).1 = .ok (.text text) →
    link.Reports (.ok (.text text)) → link = c.link

theorem open?_of_off (h : c.link = .off) : c.open? = none := by
  cases hopen : c.open? with
  | none => rfl
  | some connection =>
    rw [link_of_open hopen] at h
    cases h

theorem open?_of_on {settings : Settings} (h : c.link = .on settings) :
    ∃ connection, c.open? = some connection ∧ connection.settings = settings := by
  cases hopen : c.open? with
  | none =>
    rw [link_of_not_open hopen] at h
    cases h
  | some connection =>
    rw [link_of_open hopen] at h
    cases h
    exact ⟨connection, rfl, rfl⟩

theorem reports_play (hc : c.Settled) (hr : t.request = .status) :
    c.link.Reports (t.play c).1 := by
  have h := statusOf_reports (hc.meet t)
  rwa [Turn.play, hr, Request.serve, run_status]

theorem refines (hc : c.Settled) (ht : t.Sound) : c.Refines t where
  next := link_play hc ht
  connects settings hoff hr hf := by
    have hplay := play_connect hc ht hr (open?_of_off hoff)
    rw [hf, if_neg Bool.false_ne_true] at hplay
    exact hplay.1
  gives_up settings hoff hr hf := behavesAs_of_failed hc ht hr (open?_of_off hoff) hf
  stays settings asked hon hr := by
    obtain ⟨connection, hopen, rfl⟩ := open?_of_on hon
    exact play_connect_of_open hr hopen
  disconnects hr := (play_disconnect hc ht hr).1
  needs hoff hr := run_of_off (c := t.meet c) (open?_of_off hoff) hr
  reports hr := reports_play hc hr
  tells text link hr htext hlink := by
    have h := reports_play hc hr
    rw [htext] at h
    exact hlink.unique h

/-- **The console is a machine that is off or on.** In every run of turns with arguments of their
kinds, in which nothing goes wrong but what the system refuses, the link is the state of the
machine, the sockets and the sequence numbers are as that state wants them, and the next turn is
served as the machine serves it. -/
theorem connection_refines (turns : List Turn) (ht : ∀ t ∈ turns, t.Sound) :
    ({} : Console).link = .off ∧
      (after {} turns).link = (journal {} turns).foldl
        (fun link x => link.next x.turn.request (x.turn.script.failsAny x.calls)) .off ∧
      (after {} turns).Settled ∧
      ∀ t : Turn, t.Sound → (after {} turns).Refines t := by
  have hsettled := settled_after turns ht
  exact ⟨rfl, link_after turns ht, hsettled, fun _ ht => refines hsettled ht⟩

/-- A run in which connecting fails, since the address is in use, and is tried again. -/
def retry : List Turn :=
  [{ script := Script.ofTable [(.bind, ⟨.system, "address in use"⟩)], request := .connect {} },
   { request := .connect {} }]

theorem retry_sound : ∀ t ∈ retry, t.Sound := by
  have typed : (Request.connect {}).HasTypedSettings := by
    rintro settings ⟨⟩
    exact Settings.typed_default
  have whole : (Request.connect {}).HasWholePort := by
    rintro port numbered ⟨⟩
  intro t ht
  simp only [retry, List.mem_cons, List.not_mem_nil, or_false] at ht
  rcases ht with rfl | rfl
  · exact ⟨Script.ofSystem_ofTable, typed, whole⟩
  · exact ⟨nofun, typed, whole⟩

theorem connection_refines_retry :
    (∀ t ∈ retry, t.Sound) ∧ (after {} retry).link = .on {} ∧
      ∀ i, .close i ∈ (after {} retry).network.calls ↔ i < 2 ∧ i ≠ 1 := by
  obtain ⟨-, hlink, hsettled, -⟩ := connection_refines retry retry_sound
  have hopen : (after {} retry).open? = some ⟨{}, some 1, true⟩ := rfl
  have hcreated : (after {} retry).network.created = 2 := rfl
  refine ⟨retry_sound, hlink, fun i => ?_⟩
  rw [hsettled.closed, hopen, hcreated]
  simp [eq_comm]

end Console

end DmxNet
