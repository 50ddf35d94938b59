import DmxNet.Fault.Basic

/-!
# Procedures

A procedure changes a state and gives an answer or a fault. The state that it leaves is known in
both cases, so what was done before a failure stays done. The lemmas say what each way of
building a procedure does when it is run.
-/

namespace DmxNet

/-- A computation over states `σ` that answers an `α` or fails. -/
def Procedure (σ α : Type) : Type := σ → Except Fault α × σ

namespace Procedure

variable {σ α β : Type}

/-- Runs a procedure from a state. -/
def run (p : Procedure σ α) (s : σ) : Except Fault α × σ := p s

/-- Answers and does nothing else. -/
protected def pure (a : α) : Procedure σ α := fun s => (.ok a, s)

/-- Runs a procedure, and after an answer the one that the answer gives. -/
protected def bind (p : Procedure σ α) (f : α → Procedure σ β) : Procedure σ β := fun s =>
  match p s with
  | (.ok a, s) => f a s
  | (.error fault, s) => (.error fault, s)

instance : Monad (Procedure σ) where
  pure := Procedure.pure
  bind := Procedure.bind

instance : MonadStateOf σ (Procedure σ) where
  get := fun s => (.ok s, s)
  set s := fun _ => (.ok (), s)
  modifyGet f := fun s => (.ok (f s).1, (f s).2)

instance : MonadExceptOf Fault (Procedure σ) where
  throw fault := fun s => (.error fault, s)
  tryCatch p handle := fun s =>
    match p s with
    | (.error fault, s) => handle fault s
    | done => done

/-- Ends as a conversion ended, with its answer or its fault. -/
def conclude (r : Except Fault α) : Procedure σ α := fun s => (r, s)

/-- Answers the outcome of a procedure, a failure included. -/
def outcome (p : Procedure σ α) : Procedure σ (Except Fault α) := fun s =>
  (.ok (p s).1, (p s).2)

/-! ### Running -/

@[simp] theorem run_pure (a : α) (s : σ) : (pure a : Procedure σ α).run s = (.ok a, s) := rfl

@[simp] theorem run_bind (p : Procedure σ α) (f : α → Procedure σ β) (s : σ) :
    (p >>= f).run s =
      match p.run s with
      | (.ok a, s) => (f a).run s
      | (.error fault, s) => (.error fault, s) := rfl

@[simp] theorem run_get (s : σ) : (get : Procedure σ σ).run s = (.ok s, s) := rfl

@[simp] theorem run_set (s t : σ) : (set t : Procedure σ PUnit).run s = (.ok (), t) := rfl

@[simp] theorem run_modify (f : σ → σ) (s : σ) :
    (modify f : Procedure σ PUnit).run s = (.ok (), f s) := rfl

@[simp] theorem run_throw (fault : Fault) (s : σ) :
    (throw fault : Procedure σ α).run s = (.error fault, s) := rfl

@[simp] theorem run_conclude (r : Except Fault α) (s : σ) :
    (conclude r : Procedure σ α).run s = (r, s) := rfl

@[simp] theorem run_outcome (p : Procedure σ α) (s : σ) :
    p.outcome.run s = (.ok (p.run s).1, (p.run s).2) := rfl

@[simp] theorem run_ite (c : Prop) [Decidable c] (p q : Procedure σ α) (s : σ) :
    (if c then p else q).run s = if c then p.run s else q.run s := by
  split <;> rfl

theorem eq_of_run {p q : Procedure σ α} (h : ∀ s, p.run s = q.run s) : p = q := funext h

theorem id_map (p : Procedure σ α) : id <$> p = p := by
  refine eq_of_run fun s => ?_
  change (match p s with
    | (.ok a, s) => (.ok a, s)
    | (.error fault, s) => (.error fault, s)) = p s
  obtain ⟨r | r, t⟩ := p s <;> rfl

theorem bind_assoc {γ : Type} (p : Procedure σ α) (f : α → Procedure σ β)
    (g : β → Procedure σ γ) : p >>= f >>= g = p >>= fun a => f a >>= g := by
  refine eq_of_run fun s => ?_
  simp only [run_bind]
  obtain ⟨r | r, t⟩ := p.run s <;> rfl

instance : LawfulMonad (Procedure σ) := LawfulMonad.mk' _ id_map (fun _ _ => rfl) bind_assoc

@[simp] theorem run_map (f : α → β) (p : Procedure σ α) (s : σ) :
    (f <$> p).run s =
      match p.run s with
      | (.ok a, s) => (.ok (f a), s)
      | (.error fault, s) => (.error fault, s) := rfl

end Procedure

end DmxNet
