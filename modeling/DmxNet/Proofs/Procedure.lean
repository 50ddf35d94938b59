import DmxNet.Procedure
import Mathlib.Order.Defs.Unbundled

/-!
# What procedures leave

`Procedure.Leaves R p` says that the state that `p` leaves stands in the relation `R` to the one that
it was run from, whether it answers or fails. If `R` is reflexive and transitive, what is built of
such procedures is such a procedure.

`Procedure.Mirrors S A p q` says that `p` and `q`, run from states in the relation `S`, end in the
same way: with the same fault or with answers in the relation `A`, and in states in `S` again.
-/

namespace DmxNet.Procedure

variable {σ α β : Type} {R : σ → σ → Prop}

/-- However a procedure ends, the state that it leaves stands in a relation to the one before. -/
def Leaves (R : σ → σ → Prop) (p : Procedure σ α) : Prop := ∀ s, R s (p.run s).2

theorem run_bind_ok {p : Procedure σ α} {f : α → Procedure σ β} {s t : σ} {a : α}
    (h : p.run s = (.ok a, t)) : (p >>= f).run s = (f a).run t := by
  rw [run_bind, h]

theorem run_bind_error {p : Procedure σ α} {f : α → Procedure σ β} {s t : σ} {fault : Fault}
    (h : p.run s = (.error fault, t)) : (p >>= f).run s = (.error fault, t) := by
  rw [run_bind, h]

/-- What goes on after a procedure answers only from an answer of that one. -/
theorem run_bind_eq_ok {p : Procedure σ α} {f : α → Procedure σ β} {s u : σ} {b : β} :
    (p >>= f).run s = (.ok b, u) ↔ ∃ a t, p.run s = (.ok a, t) ∧ (f a).run t = (.ok b, u) := by
  constructor
  · intro h
    rw [run_bind] at h
    cases hr : p.run s with
    | mk result t =>
      rw [hr] at h
      cases result with
      | error fault => cases h
      | ok a => exact ⟨a, t, rfl, h⟩
  · rintro ⟨a, t, hr, h⟩
    rw [run_bind_ok hr, h]

theorem run_map_eq (f : α → β) (p : Procedure σ α) (s : σ) :
    (f <$> p).run s = ((p.run s).1.map f, (p.run s).2) := by
  rw [run_map]
  obtain ⟨result, t⟩ := p.run s
  cases result <;> rfl

/-- What goes on after a procedure is only run from the state that it leaves with an answer. -/
theorem leaves_bind_from [IsTrans σ R] {p : Procedure σ α} {f : α → Procedure σ β} {s : σ}
    (hp : R s (p.run s).2) (hf : ∀ a t, p.run s = (.ok a, t) → R t ((f a).run t).2) :
    R s ((p >>= f).run s).2 := by
  rw [run_bind]
  cases h : p.run s with
  | mk result t =>
    rw [h] at hp
    cases result with
    | error fault => exact hp
    | ok a => exact IsTrans.trans _ _ _ hp (hf a t h)

theorem leaves_bind [IsTrans σ R] {p : Procedure σ α} {f : α → Procedure σ β} (hp : p.Leaves R)
    (hf : ∀ a, (f a).Leaves R) : (p >>= f).Leaves R :=
  fun s => leaves_bind_from (hp s) fun a t _ => hf a t

theorem leaves_outcome {p : Procedure σ α} (hp : p.Leaves R) : p.outcome.Leaves R := hp

section

variable [Std.Refl R]

theorem leaves_pure (a : α) : (pure a : Procedure σ α).Leaves R := Std.Refl.refl

theorem leaves_throw (fault : Fault) : (throw fault : Procedure σ α).Leaves R := Std.Refl.refl

theorem leaves_conclude (r : Except Fault α) : (conclude r : Procedure σ α).Leaves R :=
  Std.Refl.refl

theorem leaves_get : (get : Procedure σ σ).Leaves R := Std.Refl.refl

end

/-! ### Two procedures side by side -/

/-- Outcomes that are the same fault, or answers that stand in a relation. -/
inductive Match (A : α → β → Prop) : Except Fault α → Except Fault β → Prop where
  | answer {a : α} {b : β} (h : A a b) : Match A (.ok a) (.ok b)
  | fault (fault : Fault) : Match A (.error fault) (.error fault)

/-- Two procedures that do the same when run from states in a relation: the outcomes match, and
the states that they leave are in the relation again. -/
def Mirrors {τ : Type} (S : σ → τ → Prop) (A : α → β → Prop) (p : Procedure σ α)
    (q : Procedure τ β) : Prop :=
  ∀ s t, S s t → Match A (p.run s).1 (q.run t).1 ∧ S (p.run s).2 (q.run t).2

section

variable {τ γ δ : Type} {S : σ → τ → Prop} {A : α → β → Prop} {B : γ → δ → Prop}

theorem Match.refl (r : Except Fault α) : Match Eq r r := by
  cases r with
  | ok a => exact .answer rfl
  | error fault => exact .fault fault

theorem Match.eq {r r' : Except Fault α} (h : Match Eq r r') : r = r' := by
  cases h with
  | answer h => rw [h]
  | fault fault => rfl

theorem mirrors_bind {p : Procedure σ α} {q : Procedure τ β} {f : α → Procedure σ γ}
    {g : β → Procedure τ δ} (hp : Mirrors S A p q) (hf : ∀ a b, A a b → Mirrors S B (f a) (g b)) :
    Mirrors S B (p >>= f) (q >>= g) := by
  intro s t hst
  obtain ⟨hresult, hleft⟩ := hp s t hst
  rw [run_bind, run_bind]
  generalize p.run s = x at hresult hleft
  generalize q.run t = y at hresult hleft
  obtain ⟨x, s'⟩ := x
  obtain ⟨y, t'⟩ := y
  cases hresult with
  | answer hab => exact hf _ _ hab s' t' hleft
  | fault fault => exact ⟨.fault fault, hleft⟩

theorem mirrors_outcome {p : Procedure σ α} {q : Procedure τ β} (h : Mirrors S A p q) :
    Mirrors S (Match A) p.outcome q.outcome :=
  fun s t hst => ⟨.answer (h s t hst).1, (h s t hst).2⟩

/-- After the same answer the same goes on. -/
theorem mirrors_bind_eq {p : Procedure σ α} {q : Procedure τ α} {f : α → Procedure σ γ}
    {g : α → Procedure τ δ} (hp : Mirrors S Eq p q) (hf : ∀ a, Mirrors S B (f a) (g a)) :
    Mirrors S B (p >>= f) (q >>= g) := by
  refine mirrors_bind hp fun a _ h => ?_
  subst h
  exact hf a

/-- After the same outcome the same goes on. -/
theorem mirrors_outcome_bind {p : Procedure σ α} {q : Procedure τ α}
    {f : Except Fault α → Procedure σ γ} {g : Except Fault α → Procedure τ δ}
    (hp : Mirrors S Eq p q) (hf : ∀ r, Mirrors S B (f r) (g r)) :
    Mirrors S B (p.outcome >>= f) (q.outcome >>= g) := by
  refine mirrors_bind (mirrors_outcome hp) fun r _ h => ?_
  obtain rfl := h.eq
  exact hf r

theorem mirrors_pure {a : α} {b : β} (h : A a b) :
    Mirrors S A (pure a : Procedure σ α) (pure b : Procedure τ β) :=
  fun _ _ hst => ⟨.answer h, hst⟩

theorem mirrors_throw (fault : Fault) :
    Mirrors S A (throw fault : Procedure σ α) (throw fault : Procedure τ β) :=
  fun _ _ hst => ⟨.fault fault, hst⟩

theorem mirrors_conclude (r : Except Fault α) : Mirrors S Eq (conclude r) (conclude r) :=
  fun _ _ hst => ⟨.refl r, hst⟩

theorem mirrors_get : Mirrors S S (get : Procedure σ σ) (get : Procedure τ τ) :=
  fun _ _ hst => ⟨.answer hst, hst⟩

theorem mirrors_modify {f : σ → σ} {g : τ → τ} (h : ∀ s t, S s t → S (f s) (g t)) :
    Mirrors S Eq (modify f : Procedure σ PUnit) (modify g : Procedure τ PUnit) :=
  fun s t hst => ⟨.answer rfl, h s t hst⟩

end

end DmxNet.Procedure
