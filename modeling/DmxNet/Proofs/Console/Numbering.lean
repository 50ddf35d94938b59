import DmxNet.Proofs.Console.Sending
import Mathlib.Data.List.DropRight

/-!
# Sequence numbers on the wire

The frames to one Port-Address that are sent and numbered carry the numbers from 1 to 255 in turn,
without a gap, from the start or since the console was last disconnected (`sequence_numbers`). The
table of the console is tied to the journal for that: it holds the number that the last of these
frames carried (`Numbered`). Only a frame that was sent moves a number on, and only for its own
Port-Address, so what is refused, fails, or is not a frame leaves the next number as it is.
-/

namespace DmxNet

/-! ### The table -/

namespace SequenceTable

/-- Whether all keys of a table are whole numbers. -/
def Whole (t : SequenceTable) : Prop := ∀ e ∈ t, ∃ n, e.1.whole? = some n

theorem last_cons (e : Scalar × Int) (t : SequenceTable) (key : Scalar) :
    last (e :: t) key = if e.1.alike key then e.2 else last t key := by
  rw [last, List.find?_cons]
  cases e.1.alike key <;> rfl

theorem Whole.put {t : SequenceTable} (h : t.Whole) {key : Scalar} {n : Int}
    (hk : key.whole? = some n) (m : Int) : (t.put key m).Whole := by
  induction t with
  | nil => simpa [SequenceTable.put, Whole] using ⟨n, hk⟩
  | cons e t ih =>
    obtain ⟨he, ht⟩ := List.forall_mem_cons.mp h
    rw [SequenceTable.put]
    split
    · exact List.forall_mem_cons.mpr ⟨he, ht⟩
    · exact List.forall_mem_cons.mpr ⟨he, ih ht⟩

/-- What was recorded for a number is found for it, and what was recorded for others stays. -/
theorem last_put {t : SequenceTable} (h : t.Whole) {key : Scalar} {n : Int}
    (hk : key.whole? = some n) (m i : Int) :
    (t.put key m).last (.int i) = if n = i then m else t.last (.int i) := by
  induction t with
  | nil =>
    rw [put, last_cons, Scalar.alike_of_whole hk rfl]
    simp
  | cons e t ih =>
    obtain ⟨⟨j, hj⟩, ht⟩ := List.forall_mem_cons.mp h
    rw [put, last_cons, Scalar.alike_of_whole hj hk, Scalar.alike_of_whole hj rfl]
    by_cases hjn : j = n
    · subst hjn
      rw [if_pos (by simp), last_cons, Scalar.alike_of_whole hj rfl]
      by_cases hji : j = i <;> simp [hji]
    · rw [if_neg (by simpa using hjn), last_cons, Scalar.alike_of_whole hj rfl, ih ht]
      by_cases hji : j = i
      · subst hji
        simp [Ne.symm hjn]
      · simp [hji]

/-- The number that the last of so many frames carries; zero if there is none. -/
def carried : Nat → Int
  | 0 => 0
  | k + 1 => k % 255 + 1

theorem after_carried (k : Nat) : after (carried k) = k % 255 + 1 := by
  cases k with
  | zero => rfl
  | succ k =>
    rw [carried, after]
    push_cast
    omega

end SequenceTable

/-! ### Frames in the journal -/

/-- Whether a tool that answered so has disconnected the console. -/
def Request.restarts : Request → Except Fault Reply → Bool
  | .disconnect, .ok _ => true
  | _, _ => false

/-- The packet that a call sent, if it is one of sending and did not fail. -/
def Script.sent? (script : Script) : Call → Option Bytes
  | .send socket packet address =>
    match script (.send socket packet address) with
    | none => some packet
    | some _ => none
  | _ => none

theorem Script.sent?_of_failsToSend {script : Script} {call : Call}
    (h : script.failsToSend call = true) : script.sent? call = none := by
  rw [failsToSend, Bool.and_eq_true] at h
  cases call with
  | send socket packet address =>
    obtain ⟨failure, hf⟩ := Option.isSome_iff_exists.mp h.2
    rw [sent?, hf]
  | _ => rfl

namespace Entry

/-- The packets that were sent in a turn. -/
def packets (x : Entry) : List Bytes := x.calls.filterMap x.turn.script.sent?

/-- Whether a frame was asked for that is to be numbered, or one that is not. -/
def asks (x : Entry) (numbered : Bool) : Bool := x.turn.request.frame?.any (·.2 == numbered)

/-- The numbered frames to a Port-Address that were sent in a turn. -/
def numberedTo (port : PortAddress) (x : Entry) : List Bytes :=
  if x.asks true then x.packets.filter (Packet.destination? · = some port.value) else []

/-- Whether the console was disconnected in a turn. -/
def restarts (x : Entry) : Bool := x.turn.request.restarts x.reply

end Entry

/-- The numbered frames to a Port-Address that were sent since the console was last disconnected. -/
def numberedFrames (port : PortAddress) (xs : List Entry) : List Bytes :=
  (xs.rtakeWhile (!·.restarts)).flatMap (Entry.numberedTo port)

theorem numberedFrames_concat (port : PortAddress) (xs : List Entry) (x : Entry) :
    numberedFrames port (xs ++ [x]) =
      if x.restarts then [] else numberedFrames port xs ++ x.numberedTo port := by
  rw [numberedFrames, List.rtakeWhile_concat]
  cases x.restarts <;> simp [numberedFrames]

/-! ### Turns without a frame -/

namespace Console

open Procedure Service

variable {c : Console}

/-- What a turn without a frame does to the sequence numbers: they are forgotten if the console was
disconnected, and stay as they are otherwise. A console without a connection has none. -/
structure Idle (c : Console) (request : Request) (reply : Except Fault Reply) (d : Console) :
    Prop where
  sequences_eq : d.sequences = if request.restarts reply then [] else c.sequences
  fresh : d.connection = none → d.sequences = []

theorem Idle.of_adds {request : Request} {kind : Call → Bool} {reply : Except Fault Reply}
    {d : Console} (hc : c.connection = none → c.sequences = [])
    (hr : request.restarts reply = false) (h : c.Adds kind d) : c.Idle request reply d := by
  refine ⟨by rw [hr, h.sequences_eq]; rfl, fun hd => ?_⟩
  rw [h.sequences_eq]
  exact hc (h.connection_eq.symm.trans hd)

theorem idle_connect (hc : c.connection = none → c.sequences = []) (settings : Settings) :
    c.Idle (.connect settings) ((connect settings).run c).1 ((connect settings).run c).2 := by
  cases hopen : c.open? with
  | some connection =>
    rw [run_connect_of_open hopen]
    exact ⟨rfl, hc⟩
  | none =>
    rw [run_connect hopen]
    exact ⟨rfl, fun h => by cases h⟩

theorem idle_disconnect (hc : c.connection = none → c.sequences = []) :
    c.Idle .disconnect (disconnect.run c).1 (disconnect.run c).2 := by
  cases hconn : c.connection with
  | none =>
    rw [run_disconnect_of_none hconn]
    exact ⟨hc hconn, hc⟩
  | some connection =>
    rw [run_disconnect hconn]
    cases Transport.closeSocket.run ⟨connection, c.network⟩ with
    | mk result e =>
      cases result with
      | ok _ => exact ⟨rfl, fun _ => rfl⟩
      | error fault => exact ⟨rfl, fun h => by cases h⟩

/-- A turn in which no frame is asked for moves no number on. -/
theorem idle_of_no_frame {request : Request} (hf : request.frame? = none)
    (hc : c.connection = none → c.sequences = []) :
    c.Idle request (request.serve.run c).1 (request.serve.run c).2 := by
  cases request with
  | connect settings => exact idle_connect hc settings
  | disconnect => exact idle_disconnect hc
  | _ => exact .of_adds hc rfl (adds_serve hf (by simp) (by simp) c)

end Console

/-! ### The numbers -/

open Console

/-- Packets whose frames carry the numbers from 1 to 255 in turn. -/
def InTurn (packets : List Bytes) : Prop :=
  ∀ (k : Nat) (packet : Bytes), packets[k]? = some packet →
    Packet.sequence? packet = some (k % 255 + 1)

theorem InTurn.concat {packets : List Bytes} (h : InTurn packets) {packet : Bytes}
    (hp : Packet.sequence? packet = some (packets.length % 255 + 1)) :
    InTurn (packets ++ [packet]) := by
  intro k later hk
  rcases lt_or_ge k packets.length with hlt | hge
  · rw [List.getElem?_append_left hlt] at hk
    exact h k later hk
  · obtain ⟨hlast, rfl⟩ : k - packets.length = 0 ∧ packet = later := by
      rw [List.getElem?_append_right hge, List.getElem?_singleton] at hk
      split at hk
      · exact ⟨‹_›, Option.some.inj hk⟩
      · cases hk
    rwa [show k = packets.length by omega]

/-- A console and a journal that agree on the sequence numbers. -/
structure Numbered (c : Console) (xs : List Entry) : Prop where
  whole : c.sequences.Whole
  fresh : c.connection = none → c.sequences = []
  /-- The table holds the number that the last frame carried. -/
  last_eq : ∀ port : PortAddress, c.sequences.last (.int port.value) =
    SequenceTable.carried (numberedFrames port xs).length
  numbers : ∀ port : PortAddress, InTurn (numberedFrames port xs)
  /-- The frames that are not to be numbered carry zero. -/
  zeros : ∀ x ∈ xs, x.asks false = true → ∀ packet ∈ x.packets, Packet.sequence? packet = some 0

theorem restarts_of_frame {request : Request} {asked : Value × Bool}
    (hf : request.frame? = some asked) (reply : Except Fault Reply) :
    request.restarts reply = false := by
  cases request with
  | disconnect => cases hf
  | _ => rfl

/-- No packet is sent in a turn in which all sending fails. -/
theorem packets_of_adds {c : Console} {t : Turn}
    (ha : (t.meet c).Adds t.script.failsToSend (t.play c).2) : (c.entry t).packets = [] := by
  obtain ⟨calls, hcalls, hfail⟩ := ha.network.calls_eq
  rw [Entry.packets, entry_calls hcalls, List.filterMap_eq_nil_iff]
  exact fun call hcall => Script.sent?_of_failsToSend (hfail call hcall)

/-- One packet is sent in a turn in which one call of sending is made that does not fail. -/
theorem packets_of_send {c : Console} {t : Turn} {socket : Nat} {packet : Bytes} {address : Address}
    (hcalls : (c.entry t).calls = [.send socket packet address])
    (hpass : t.script (.send socket packet address) = none) : (c.entry t).packets = [packet] := by
  rw [Entry.packets, hcalls]
  change [Call.send socket packet address].filterMap t.script.sent? = [packet]
  simp [Script.sent?, hpass]

theorem PortAddress.value_inj {p q : PortAddress} : p.value = q.value ↔ p = q := by
  cases p
  cases q
  simp

theorem asks_of_no_frame {t : Turn} (hf : t.request.frame? = none) (c : Console)
    (numbered : Bool) : (c.entry t).asks numbered = false := by
  change t.request.frame?.any _ = false
  rw [hf]
  rfl

theorem asks_of_frame {t : Turn} {port : Value} {numbered : Bool}
    (hf : t.request.frame? = some (port, numbered)) (c : Console) (numbered' : Bool) :
    (c.entry t).asks numbered' = (numbered == numbered') := by
  change t.request.frame?.any _ = _
  rw [hf]
  rfl

/-- The frame that was sent in a turn is one for its own Port-Address. -/
theorem numberedTo_of_frame {c : Console} {t : Turn} {port : Value} {numbered : Bool}
    (hf : t.request.frame? = some (port, numbered)) {heading : Packet.Heading} {size : Nat}
    {levels : Bytes} (hp : (c.entry t).packets = [heading.packet size levels]) (p : PortAddress) :
    (c.entry t).numberedTo p =
      if numbered = true ∧ p = heading.port then [heading.packet size levels] else [] := by
  rw [Entry.numberedTo, asks_of_frame hf, hp]
  cases numbered with
  | false => simp
  | true => simp [List.filter_singleton, PortAddress.value_inj, eq_comm]

namespace Numbered

theorem init : Numbered {} [] where
  whole := by simp [SequenceTable.Whole]
  fresh _ := rfl
  last_eq _ := rfl
  numbers _ _ _ h := by cases h
  zeros := by simp

variable {c : Console} {xs : List Entry} {t : Turn}

/-- A turn in which no packet of a frame was sent keeps the agreement if it forgets the numbers
exactly when the console is disconnected. -/
theorem quiet (h : Numbered c xs) (hp : ∀ port, (c.entry t).numberedTo port = [])
    (hz : (c.entry t).asks false = true → (c.entry t).packets = [])
    (hi : (t.meet c).Idle t.request (t.play c).1 (t.play c).2) :
    Numbered (t.play c).2 (xs ++ [c.entry t]) := by
  have hzeros := List.forall_mem_append.mpr
    ⟨h.zeros, List.forall_mem_singleton.mpr fun ha packet hpacket => by
      rw [hz ha] at hpacket
      cases hpacket⟩
  have hseq : (t.play c).2.sequences = if (c.entry t).restarts then [] else c.sequences :=
    hi.sequences_eq
  have hframes (port : PortAddress) := numberedFrames_concat port xs (c.entry t)
  cases hr : (c.entry t).restarts with
  | true =>
    simp only [hr, if_true] at hseq hframes
    refine ⟨by simp [hseq, SequenceTable.Whole], hi.fresh, fun port => ?_, fun port => ?_, hzeros⟩
    · rw [hseq, hframes]
      rfl
    · rw [hframes]
      intro k packet hk
      cases hk
  | false =>
    simp only [hr, hp, Bool.false_eq_true, if_false, List.append_nil] at hseq hframes
    refine ⟨by rw [hseq]; exact h.whole, hi.fresh, fun port => ?_, fun port => ?_, hzeros⟩
    · rw [hseq, hframes]
      exact h.last_eq port
    · rw [hframes]
      exact h.numbers port

/-- A turn in which no frame is asked for keeps the agreement. -/
theorem of_no_frame (h : Numbered c xs) (hf : t.request.frame? = none) :
    Numbered (t.play c).2 (xs ++ [c.entry t]) := by
  have hasks := asks_of_no_frame hf c
  refine h.quiet (fun port => ?_) (fun ha => ?_) (idle_of_no_frame (c := t.meet c) hf h.fresh)
  · rw [Entry.numberedTo, hasks]
    rfl
  · rw [hasks] at ha
    cases ha

/-- A turn in which a frame is asked for and none is sent keeps the agreement. -/
theorem of_unsent (h : Numbered c xs) {asked : Value × Bool} (hf : t.request.frame? = some asked)
    (ha : (t.meet c).Adds t.script.failsToSend (t.play c).2) :
    Numbered (t.play c).2 (xs ++ [c.entry t]) := by
  have hp := packets_of_adds ha
  refine h.quiet (fun port => ?_) (fun _ => hp)
    (.of_adds (c := t.meet c) h.fresh (restarts_of_frame hf _) ha)
  rw [Entry.numberedTo, hp]
  exact ite_self _

/-- The number that comes next is the one after those that were sent. -/
theorem upcoming_eq (h : Numbered c xs) (port : PortAddress) :
    c.upcoming port.value = (numberedFrames port xs).length % 255 + 1 := by
  rw [upcoming, h.last_eq, SequenceTable.after_carried]

/-- Recording the number that comes next keeps the table right once its frame was sent. -/
theorem last_record (h : Numbered c xs) {port : PortAddress} {key : Scalar}
    (hk : key.whole? = some (port.value : Int)) (packet : Bytes) (p : PortAddress) :
    (c.sequences.put key (c.upcoming port.value)).last (.int p.value) = SequenceTable.carried
      (numberedFrames p xs ++ if p = port then [packet] else []).length := by
  rw [SequenceTable.last_put h.whole hk, h.upcoming_eq]
  by_cases hp : p = port
  · subst hp
    simp [SequenceTable.carried]
  · have hn : (port.value : Int) ≠ p.value :=
      fun he => hp (PortAddress.value_inj.mp (Int.ofNat_inj.mp he)).symm
    simpa [hn, hp] using h.last_eq p

/-- A turn in which a frame is sent keeps the agreement. -/
theorem of_sent (h : Numbered c xs) {port : Value} {numbered : Bool} {n : Int}
    (hf : t.request.frame? = some (port, numbered)) {heading : Packet.Heading} {size : Nat}
    {levels : Bytes} {key : Scalar} (hport : (heading.port.value : Int) = n)
    (hsequence : (heading.sequence.toNat : Int) = if numbered then c.upcoming n else 0)
    (hk : key.whole? = some n) (hp : (c.entry t).packets = [heading.packet size levels])
    (hconn : (t.play c).2.connection = c.connection) (hopen : c.connection ≠ none)
    (hseq : (t.play c).2.sequences =
      if numbered then c.sequences.put key heading.sequence.toNat else c.sequences) :
    Numbered (t.play c).2 (xs ++ [c.entry t]) := by
  have hframes (p : PortAddress) : numberedFrames p (xs ++ [c.entry t]) =
      numberedFrames p xs ++
        if numbered = true ∧ p = heading.port then [heading.packet size levels] else [] := by
    rw [numberedFrames_concat, numberedTo_of_frame hf hp, if_neg]
    rw [Bool.not_eq_true]
    exact restarts_of_frame hf _
  subst hport
  refine ⟨?_, fun hd => absurd (hconn.symm.trans hd) hopen, fun p => ?_, fun p => ?_,
    List.forall_mem_append.mpr ⟨h.zeros, List.forall_mem_singleton.mpr fun ha packet hpacket => ?_⟩⟩
  · rw [hseq]
    cases numbered with
    | false => exact h.whole
    | true => exact h.whole.put hk _
  · rw [hseq, hframes]
    cases numbered with
    | false => simpa using h.last_eq p
    | true =>
      simp only [if_true, true_and] at hsequence ⊢
      rw [hsequence]
      exact h.last_record hk _ p
  · rw [hframes]
    split
    · rename_i hn
      obtain ⟨rfl, rfl⟩ := hn
      rw [if_pos rfl, h.upcoming_eq] at hsequence
      refine (h.numbers _).concat ?_
      rw [Packet.sequence?_packet]
      exact congrArg some (by omega)
    · rw [List.append_nil]
      exact h.numbers p
  · obtain rfl : numbered = false := by simpa [asks_of_frame hf] using ha
    rw [hp, List.mem_singleton] at hpacket
    subst hpacket
    rw [Packet.sequence?_packet]
    simpa using hsequence

/-- **Every turn keeps the agreement.** -/
theorem play (h : Numbered c xs) (ht : t.request.HasWholePort) :
    Numbered (t.play c).2 (xs ++ [c.entry t]) := by
  cases hf : t.request.frame? with
  | none => exact h.of_no_frame hf
  | some asked =>
    obtain ⟨port, numbered⟩ := asked
    obtain ⟨n, hn⟩ := ht port numbered hf
    have hs : Sending (t.meet c) n numbered (t.play c) := sending hf hn
    cases hplay : t.play c with
    | mk reply d =>
      rw [hplay] at hs
      have hd : (t.play c).2 = d := by rw [hplay]
      rw [← hd]
      cases hs with
      | unsent adds undelivered => exact h.of_unsent hf (hd ▸ adds)
      | sent opened held hport hsequence passed whole delivered =>
        have hopen : c.connection ≠ none := fun hc => by
          cases hc.symm.trans (open?_eq_some_iff.mp opened).1
        have hcalls := entry_calls (congrArg (fun d => d.network.calls) hd)
        have hpackets := packets_of_send hcalls passed
        have hconn : (t.play c).2.connection = c.connection := by
          rw [hd]
          rfl
        exact h.of_sent hf hport hsequence whole hpackets hconn hopen (congrArg sequences hd)

/-- **Every run keeps the agreement.** -/
theorem run (turns : List Turn) (ht : ∀ t ∈ turns, t.request.HasWholePort) :
    Numbered (after {} turns) (journal {} turns) := by
  induction turns using List.reverseRecOn with
  | nil => exact init
  | append_singleton turns t ih =>
    rw [after_concat, journal_append]
    exact (ih fun u hu => ht u (by simp [hu])).play (ht t (by simp))

/-- Only a numbered frame that was sent, and disconnecting, change the number that comes next; and
the frame changes it for its own Port-Address only. -/
theorem upcoming_play (h : Numbered c xs) (ht : t.request.HasWholePort) {port : PortAddress}
    (hne : (t.play c).2.upcoming port.value ≠ c.upcoming port.value) :
    (c.entry t).restarts = true ∨ ∃ given, t.request.frame? = some (given, true) ∧
      given.whole = .ok port.value ∧ isDelivery (c.entry t).reply = true := by
  have hsame : (t.play c).2.sequences ≠ c.sequences := by
    intro hs
    rw [upcoming, hs] at hne
    exact hne rfl
  cases hf : t.request.frame? with
  | none =>
    have hi := (idle_of_no_frame (c := t.meet c) hf h.fresh).sequences_eq
    cases hr : (c.entry t).restarts with
    | true => exact .inl rfl
    | false => exact absurd (hi.trans (if_neg (Bool.not_eq_true _ ▸ hr))) hsame
  | some asked =>
    obtain ⟨given, numbered⟩ := asked
    obtain ⟨n, hn⟩ := ht given numbered hf
    have hs : Sending (t.meet c) n numbered (t.play c) := sending hf hn
    have hreply : (c.entry t).reply = (t.play c).1 := rfl
    rw [hreply]
    generalize t.play c = result at hs hne hsame
    cases hs with
    | unsent adds undelivered => exact absurd adds.sequences_eq hsame
    | @sent connection socket heading _ _ _ key _ _ _ _ _ _ whole delivered =>
      cases numbered with
      | false => exact absurd rfl hsame
      | true =>
        by_cases hnp : n = port.value
        · subst hnp
          exact .inr ⟨given, rfl, hn, delivered⟩
        · refine absurd ?_ hne
          have hl := SequenceTable.last_put h.whole whole heading.sequence.toNat port.value
          rw [if_neg hnp] at hl
          exact congrArg SequenceTable.after hl

end Numbered

/-- **Sequence numbers on the wire.** In every run of requests whose frames are for whole numbers,
whatever calls fail in it: the frames to a Port-Address that were sent and numbered since the console
was last disconnected carry 1, 2 and so on up to 255, and then 1 again; the frames that are not to be
numbered carry zero; the number that comes next is the one after those that were sent; and nothing
changes it but a numbered frame to that Port-Address that is sent, and disconnecting. -/
theorem sequence_numbers (turns : List Turn) (ht : ∀ t ∈ turns, t.request.HasWholePort) :
    (∀ (port : PortAddress) (k : Nat) (packet : Bytes),
        (numberedFrames port (journal {} turns))[k]? = some packet →
        Packet.sequence? packet = some (k % 255 + 1)) ∧
      (∀ x ∈ journal {} turns, x.asks false = true →
        ∀ packet ∈ x.packets, Packet.sequence? packet = some 0) ∧
      (∀ port : PortAddress, (after {} turns).upcoming port.value =
        (numberedFrames port (journal {} turns)).length % 255 + 1) ∧
      ∀ (t : Turn) (port : PortAddress), t.request.HasWholePort →
        (t.play (after {} turns)).2.upcoming port.value ≠ (after {} turns).upcoming port.value →
        ((after {} turns).entry t).restarts = true ∨
          ∃ given, t.request.frame? = some (given, true) ∧ given.whole = .ok port.value ∧
            isDelivery ((after {} turns).entry t).reply = true := by
  have h := Numbered.run turns ht
  exact ⟨h.numbers, h.zeros, h.upcoming_eq, fun t port hw hne => h.upcoming_play hw hne⟩

/-- A run in which one frame to Port-Address 5 is sent, the next one fails, the next is not to be
numbered, and one more is sent. -/
def rehearsal : List Turn :=
  [{ request := .connect {} },
   { request := .sendFrame (.int 5) (.list [.int 255]) (.int 0) (.bool true) },
   { script := Script.ofTable [(.send, ⟨.system, "no buffer space"⟩)]
     request := .blackout (.int 5) (.int 512) },
   { request := .sendFrame (.int 5) (.list [.int 128]) (.int 0) (.bool false) },
   { request := .blackout (.int 5) (.int 512) }]

theorem sequence_numbers_rehearsal :
    (∀ t ∈ rehearsal, t.request.HasWholePort) ∧ ∃ first second,
      numberedFrames ⟨5, by decide⟩ (journal {} rehearsal) = [first, second] ∧
        Packet.sequence? first = some 1 ∧ Packet.sequence? second = some 2 := by
  have hw : ∀ t ∈ rehearsal, t.request.HasWholePort := by
    intro t ht port numbered hf
    simp only [rehearsal, List.mem_cons, List.not_mem_nil, or_false] at ht
    rcases ht with rfl | rfl | rfl | rfl | rfl <;> cases hf <;> exact ⟨5, rfl⟩
  obtain ⟨hn, -⟩ := sequence_numbers rehearsal hw
  have hl : (numberedFrames ⟨5, by decide⟩ (journal {} rehearsal)).length = 2 := by decide +kernel
  obtain ⟨first, second, hf⟩ := List.length_eq_two.mp hl
  refine ⟨hw, first, second, hf, hn ⟨5, by decide⟩ 0 first ?_, hn ⟨5, by decide⟩ 1 second ?_⟩
  · rw [hf]
    rfl
  · rw [hf]
    rfl

end DmxNet
