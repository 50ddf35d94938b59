import DmxNet.Proofs.Network.Usage

/-!
# Sockets that are left open

Where nothing goes wrong but what the system refuses, a socket that was created has been closed
unless it is the one that is held, or was held when another was opened in its place
(`Endpoint.Tallied`). So a connection leaves no socket behind exactly if it is never opened while it
is connected, but for attempts that fail (`tidy_iff`). Nothing keeps it from that: a connection that
is opened twice leaves its first socket open for good (`exists_untidy`).
-/

namespace DmxNet

/-- The socket that was held on an occasion on which another was opened in its place. -/
def Account.displaced? (x : Account) : Option Nat :=
  match x.occasion.use with
  | .opening => if x.occasion.script.failsAny x.calls then none else x.held
  | _ => none

/-- The sockets in whose places others were opened. -/
def displaced (xs : List Account) : List Nat := xs.filterMap Account.displaced?

theorem displaced_concat (xs : List Account) (x : Account) :
    displaced (xs ++ [x]) = displaced xs ++ x.displaced?.toList := by
  rw [displaced, List.filterMap_append, displaced]
  cases h : x.displaced? <;> simp [h]

namespace Endpoint

/-- Whether a socket was created and never closed. -/
def Unclosed (e : Endpoint) (i : Nat) : Prop :=
  i < e.network.created ∧ .close i ∉ e.network.calls

/-- Whether no socket was left open but the one that is held. -/
def Tidy (e : Endpoint) : Prop :=
  ∀ i, e.Unclosed i → e.connection.connected = true ∧ e.connection.socket = some i

/-- An endpoint, and a journal of what was done with it, in which each socket that was not closed is
accounted for. -/
structure Tallied (e : Endpoint) (xs : List Account) : Prop where
  unclosed_iff : ∀ i, e.Unclosed i ↔ e.connection.socket = some i ∨ i ∈ displaced xs
  held_not_mem : ∀ i, e.connection.socket = some i → i ∉ displaced xs

namespace Tallied

variable {settings : Settings} {e : Endpoint} {xs : List Account} {o : Occasion}

theorem start (settings : Settings) : Tallied (start settings) [] where
  unclosed_iff := by simp [Unclosed, Endpoint.start, displaced]
  held_not_mem _ h := by cases h

/-- An occasion on which no socket came to be open or closed. -/
theorem of_unclosed_iff (h : Tallied e xs)
    (hconn : (o.take e).2.connection.socket = e.connection.socket)
    (hdisplaced : (e.account o).displaced? = none)
    (hunclosed : ∀ i, (o.take e).2.Unclosed i ↔ e.Unclosed i) :
    Tallied (o.take e).2 (xs ++ [e.account o]) := by
  have hxs : displaced (xs ++ [e.account o]) = displaced xs := by
    rw [displaced_concat, hdisplaced]
    simp
  refine ⟨fun i => ?_, fun i hi => ?_⟩
  · rw [hunclosed, h.unclosed_iff, hconn, hxs]
  · rw [hconn] at hi
    rw [hxs]
    exact h.held_not_mem i hi

theorem of_unopened (h : Tallied e xs) (hs : o.script.OfSystem)
    (ho : o.use = .opening) {calls : List Call} (hu : Unopened e o calls) :
    Tallied (o.take e).2 (xs ++ [e.account o]) := by
  have hocc : (e.account o).occasion = o := rfl
  have hconn : (o.take e).2.connection.socket = e.connection.socket := by rw [hu.connection_eq]
  refine h.of_unclosed_iff hconn ?_ fun i => ?_
  · simp [Account.displaced?, account_calls hu.calls_eq, hocc, ho, hu.failed]
  · rw [Unclosed, Unclosed, hu.calls_eq, List.mem_append, not_or]
    constructor
    · rintro ⟨hlt, hold, hnew⟩
      refine ⟨?_, hold⟩
      by_contra hge
      exact hnew (hu.new_closed hs i (Nat.le_of_not_lt hge) hlt)
    · rintro ⟨hlt, hold⟩
      refine ⟨Nat.lt_of_lt_of_le hlt hu.created_le, hold, fun hnew => ?_⟩
      exact Nat.not_lt_of_le (hu.closed_new i hnew).1 hlt

/-- A socket that is displaced stays open. -/
theorem of_opened (hl : Lives settings e xs) (h : Tallied e xs) (ho : o.use = .opening)
    (hopened : Opened e o) : Tallied (o.take e).2 (xs ++ [e.account o]) := by
  have hocc : (e.account o).occasion = o := rfl
  have hheld : (e.account o).held = e.connection.socket := rfl
  have hpassed : o.script.failsAny e.openingCalls = false := by
    rw [Script.failsAny, List.any_eq_false]
    intro call hcall
    simp [hopened.passed call hcall]
  have hheld' : (o.take e).2.connection.socket = some e.network.created := by
    rw [hopened.connection_eq]
  have hxs : displaced (xs ++ [e.account o]) = displaced xs ++ e.connection.socket.toList := by
    rw [displaced_concat]
    simp [Account.displaced?, account_calls hopened.calls_eq, hocc, ho, hpassed, hheld]
  have hclose (i : Nat) : .close i ∈ (o.take e).2.network.calls ↔ .close i ∈ e.network.calls := by
    simp [hopened.calls_eq, openingCalls, Transport.close_not_mem_preparation]
  have hnew : .close e.network.created ∉ e.network.calls :=
    fun hm => Nat.lt_irrefl _ (hl.closed_lt _ hm)
  have hold (i : Nat) (hi : e.connection.socket = some i ∨ i ∈ displaced xs) :
      i < e.network.created := ((h.unclosed_iff i).mpr hi).1
  refine ⟨fun i => ?_, fun i hi => ?_⟩
  · have hiff := h.unclosed_iff i
    rw [Unclosed] at hiff
    rw [Unclosed, hclose, hopened.created_eq, hheld', hxs, List.mem_append, Option.mem_toList,
      Option.some.injEq]
    constructor
    · rintro ⟨hlt, hnot⟩
      rcases Nat.lt_succ_iff_lt_or_eq.mp hlt with hlt | rfl
      · exact .inr (hiff.mp ⟨hlt, hnot⟩).symm
      · exact .inl rfl
    · rintro (rfl | hi)
      · exact ⟨Nat.lt_succ_self _, hnew⟩
      · obtain ⟨hlt, hnot⟩ := hiff.mpr hi.symm
        exact ⟨Nat.lt_succ_of_lt hlt, hnot⟩
  · obtain rfl := Option.some.inj (hheld'.symm.trans hi)
    rw [hxs, List.mem_append, Option.mem_toList]
    intro hm
    exact Nat.lt_irrefl _ (hold _ hm.symm)

theorem of_closing (hl : Lives settings e xs) (h : Tallied e xs) (ho : o.use = .closing) :
    Tallied (o.take e).2 (xs ++ [e.account o]) := by
  have hocc : (e.account o).occasion = o := rfl
  have hdisplaced : (e.account o).displaced? = none := by simp [Account.displaced?, hocc, ho]
  cases hc : e.connection.connected with
  | false =>
    have htake := take_closing_of_not_connected ho hc
    refine h.of_unclosed_iff (by rw [htake]; rfl) hdisplaced fun i => ?_
    rw [htake]
    exact Iff.rfl
  | true =>
    obtain ⟨j, hj⟩ := hl.connected_iff.mp hc
    obtain ⟨log, htake⟩ := take_closing_of_held ho hc hj
    have hxs : displaced (xs ++ [e.account o]) = displaced xs := by
      rw [displaced_concat, hdisplaced]
      simp
    refine ⟨fun i => ?_, fun i hi => ?_⟩
    · have hunclosed : (o.take e).2.Unclosed i ↔ e.Unclosed i ∧ i ≠ j := by
        rw [htake]
        simp [Unclosed, Occasion.meet, and_assoc]
      have hnone : (o.take e).2.connection.socket = none := by rw [htake]
      rw [hunclosed, h.unclosed_iff, hnone, hxs, hj, Option.some.injEq]
      constructor
      · rintro ⟨rfl | hi, hne⟩
        · exact absurd rfl hne
        · exact .inr hi
      · rintro (hi | hi)
        · cases hi
        · exact ⟨.inr hi, fun heq => h.held_not_mem j hj (heq ▸ hi)⟩
    · rw [htake] at hi
      cases hi

theorem of_traffic (h : Tallied e xs) (ho : o.use.isTraffic = true) :
    Tallied (o.take e).2 (xs ++ [e.account o]) := by
  have hadds := adds_take (e := e) ho
  obtain ⟨calls, hcalls, hkind⟩ := hadds.network.calls_eq
  have hocc : (e.account o).occasion = o := rfl
  refine h.of_unclosed_iff (by rw [hadds.connection_eq]; rfl) ?_ fun i => ?_
  · rw [Account.displaced?, hocc]
    cases hu : o.use <;> simp [hu, Use.isTraffic] at ho ⊢
  · have hnot : .close i ∉ calls := fun hm => by cases hkind _ hm
    have hcreated : (o.take e).2.network.created = e.network.created := hadds.network.created_eq
    have hcalls : (o.take e).2.network.calls = e.network.calls ++ calls := hcalls
    rw [Unclosed, Unclosed, hcreated, hcalls, List.mem_append, or_iff_left hnot]

/-- **Every use keeps the account of the sockets.** -/
theorem take (hl : Lives settings e xs) (h : Tallied e xs) (hs : o.script.OfSystem) :
    Tallied (o.take e).2 (xs ++ [e.account o]) := by
  cases ho : o.use with
  | opening =>
    rcases unopened_or_opened (e := e) ho with ⟨calls, hu⟩ | hopened
    · exact h.of_unopened hs ho hu
    · exact h.of_opened hl ho hopened
  | closing => exact h.of_closing hl ho
  | _ => exact h.of_traffic (by simp [ho, Use.isTraffic])

/-- **Every run of uses keeps the account of the sockets.** -/
theorem run (settings : Settings) (os : List Occasion) (hs : ∀ o ∈ os, o.script.OfSystem) :
    Tallied ((Endpoint.start settings).after os) ((Endpoint.start settings).journal os) := by
  induction os using List.reverseRecOn with
  | nil => exact start settings
  | append_singleton os o ih =>
    rw [after_concat, journal_concat]
    have hos := ih fun o' ho' => hs o' (by simp [ho'])
    exact hos.take (Lives.run settings os) (hs o (by simp))

end Tallied

end Endpoint

/-- **What a connection leaves open.** After every run of uses in which nothing goes wrong but what
the system refuses, the sockets that were created and never closed are the one that is held and
those in whose places others were opened. So no socket is left open but the one that is held exactly
if the connection was never opened while it was connected, but for attempts that failed. -/
theorem tidy_iff (settings : Settings) (os : List Occasion) (hs : ∀ o ∈ os, o.script.OfSystem) :
    (∀ i, ((Endpoint.start settings).after os).Unclosed i ↔
        ((Endpoint.start settings).after os).connection.socket = some i ∨
          i ∈ displaced ((Endpoint.start settings).journal os)) ∧
      (((Endpoint.start settings).after os).Tidy ↔
        displaced ((Endpoint.start settings).journal os) = []) := by
  have hl := Endpoint.Lives.run settings os
  have h := Endpoint.Tallied.run settings os hs
  refine ⟨h.unclosed_iff, fun htidy => ?_, fun hnone i hi => ?_⟩
  · rw [List.eq_nil_iff_forall_not_mem]
    intro i hi
    obtain ⟨-, hheld⟩ := htidy i ((h.unclosed_iff i).mpr (.inr hi))
    exact h.held_not_mem i hheld hi
  · rcases (h.unclosed_iff i).mp hi with hheld | hmem
    · exact ⟨hl.connected_iff.mpr ⟨i, hheld⟩, hheld⟩
    · rw [hnone] at hmem
      cases hmem

/-- A run in which a connection is opened at the second attempt, the attempt to open another in its
place fails, and it is closed and opened again. -/
def retries : List Occasion :=
  [{ script := Script.ofTable [(.bind, ⟨.system, "address in use"⟩)], use := .opening },
   { use := .opening },
   { script := Script.ofTable [(.create, ⟨.system, "too many open files"⟩)], use := .opening },
   { use := .closing },
   { use := .opening }]

theorem tidy_iff_retries :
    (∀ o ∈ retries, o.script.OfSystem) ∧ ((Endpoint.start {}).after retries).Tidy := by
  have hs : ∀ o ∈ retries, o.script.OfSystem := by
    intro o ho
    simp only [retries, List.mem_cons, List.not_mem_nil, or_false] at ho
    rcases ho with rfl | rfl | rfl | rfl | rfl
    · exact Script.ofSystem_ofTable
    · exact nofun
    · exact Script.ofSystem_ofTable
    · exact nofun
    · exact nofun
  exact ⟨hs, (tidy_iff {} retries hs).2.mpr rfl⟩

/-- A connection that is opened twice leaves its first socket open, which it does not hold. -/
theorem exists_untidy :
    ∃ os : List Occasion, (∀ o ∈ os, o.script.OfSystem) ∧
      ((Endpoint.start {}).after os).connection.socket = some 1 ∧
      ((Endpoint.start {}).after os).Unclosed 0 ∧ ¬ ((Endpoint.start {}).after os).Tidy := by
  have hs : ∀ o ∈ [{ use := .opening }, { use := .opening }], Script.OfSystem (Occasion.script o) := by
    simp [Script.OfSystem]
  have hheld : ((Endpoint.start {}).after
      [{ use := .opening }, { use := .opening }]).connection.socket = some 1 := rfl
  have hopen := (Endpoint.Tallied.run {} _ hs).unclosed_iff 0
  have hunclosed := hopen.mpr (.inr (List.mem_singleton.mpr rfl))
  refine ⟨_, hs, hheld, hunclosed, fun htidy => ?_⟩
  cases hheld.symm.trans (htidy 0 hunclosed).2

end DmxNet
