import DmxNet.Schema.Compare
import DmxNet.Value.Conversion
import Mathlib.Logic.Basic
import Mathlib.Tactic.SplitIfs

/-!
# Comparing values

Comparisons that answer. Parts are compared one by one, and if each comparison answers then so does
the comparison of all of them (`askAllAlike_cons`, `agreeAll_cons`). Of what a length may hold, a
number equals the same number only (`exists_askAlike_int`), and agrees with nothing as well
(`exists_lengthsAgree_int`).
-/

namespace DmxNet

/-- A comparison that answers, and whose answer is whether something holds. -/
def Answers (r : Except Fault Bool) (p : Prop) : Prop := ∃ same, r = .ok same ∧ (same = true ↔ p)

/-- All but floats equal themselves. -/
theorem Scalar.equals_self {s : Scalar} (hs : ∀ x, s ≠ .float x) : s.equals s = true := by
  cases s with
  | float x => exact absurd rfl (hs x)
  | _ => simp [equals, whole?]

/-- Whole numbers are equal if they are the same number, whatever their kind. -/
theorem Scalar.equals_of_whole {s t : Scalar} {m n : Int} (hs : s.whole? = some m)
    (ht : t.whole? = some n) : s.equals t = decide (m = n) := by
  have he : s.equals t = (m == n) := by
    cases s <;> cases hs <;> cases t <;> cases ht <;> rfl
  rw [he, Bool.eq_iff_iff, beq_iff_eq, decide_eq_true_eq]

theorem Scalar.alike_of_whole {s t : Scalar} {m n : Int} (hs : s.whole? = some m)
    (ht : t.whole? = some n) : s.alike t = decide (m = n) := by
  rw [← equals_of_whole hs ht]
  cases s with
  | float x => cases hs
  | _ => rfl

theorem Scalar.alike_bytes (bs cs : Bytes) :
    (Scalar.bytes bs).alike (.bytes cs) = decide (bs = cs) := by
  rw [Bool.eq_iff_iff]
  simp [alike, equals, whole?]

namespace Value

theorem askAlike_scalar (s t : Scalar) :
    (Value.scalar s).askAlike (.scalar t) = .ok (s.alike t) := by
  cases s <;> rfl

theorem askAlike_self {s : Scalar} (hs : ∀ x, s ≠ .float x) :
    (Value.scalar s).askAlike (.scalar s) = .ok true := by
  rw [← Scalar.equals_self hs, askAlike_scalar]
  cases s with
  | float x => exact absurd rfl (hs x)
  | _ => rfl

theorem askEquals_self {s : Scalar} (hs : ∀ x, s ≠ .float x) :
    (Value.scalar s).askEquals (.scalar s) = .ok true := by
  rw [askEquals, Scalar.equals_self hs]

theorem askAlike_length (v w : Value) : (Value.length v).askAlike (.length w) = v.askAlike w := by
  rw [askAlike]

theorem askAlike_payload (bs cs : Bytes) :
    (Value.payload (.bytes bs)).askAlike (.payload (.bytes cs)) = .ok (decide (bs = cs)) := by
  rw [askAlike, bytes, bytes, askAlike_scalar, Scalar.alike_bytes]

/-- Records of one schema are compared by their fields. -/
theorem askAlike_record {s : Schema} (ask : Action.compare.ofType s.fields = .ok ())
    (vs ws : List Value) :
    (Value.record s vs).askAlike (.record s ws) = askAllAlike vs ws := by
  rw [askAlike, ask]
  exact if_pos rfl

end Value

/-! ### Part by part -/

section

variable {v w : Value} {vs ws : List Value} {same rest : Bool}

theorem askAllAlike_cons (h : v.askAlike w = .ok same) (hr : askAllAlike vs ws = .ok rest) :
    askAllAlike (v :: vs) (w :: ws) = .ok (same && rest) := by
  rw [askAllAlike, h]
  cases same with
  | false => rfl
  | true => exact hr

theorem askAllAlike_cons_eq_true (h : askAllAlike (v :: vs) (w :: ws) = .ok true) :
    v.askAlike w = .ok true ∧ askAllAlike vs ws = .ok true := by
  rw [askAllAlike] at h
  cases hv : v.askAlike w with
  | error fault =>
    rw [hv] at h
    cases h
  | ok same =>
    rw [hv] at h
    cases same with
    | false => cases h
    | true => exact ⟨rfl, h⟩

theorem askAllAlike_self (h : ∀ v ∈ vs, v.askAlike v = .ok true) :
    askAllAlike vs vs = .ok true := by
  induction vs with
  | nil => rfl
  | cons v vs ih => exact askAllAlike_cons (h v (by simp)) (ih fun u hu => h u (by simp [hu]))

theorem agreeAll_cons {f : Field} {fs : List Field} (hf : f.isDeclared = true)
    (h : f.codec.agree v w = .ok same) (hr : agreeAll fs vs ws = .ok rest) :
    agreeAll (f :: fs) (v :: vs) (w :: ws) = .ok (same && rest) := by
  have step : agreeAll (f :: fs) (v :: vs) (w :: ws) = do
      let same ← f.codec.agree v w
      if same then agreeAll fs vs ws else return false := by
    obtain ⟨name, c, default⟩ := f
    rw [agreeAll, Codec.agree]
    cases c with
    | undeclared name => cases hf
    | _ => rfl
  rw [step, h]
  cases same with
  | false => rfl
  | true => exact hr

end

/-! ### What a length may hold -/

/-- What a length may hold: nothing, or a whole number. -/
def Value.Parsed (v : Value) : Prop := v = .none ∨ ∃ n, v.whole = .ok n

theorem Value.whole_eq_ok_iff {v : Value} {n : Int} :
    v.whole = .ok n ↔ ∃ s : Scalar, v = .scalar s ∧ s.whole? = some n := by
  constructor
  · intro h
    cases v with
    | scalar s =>
      rw [whole] at h
      cases hs : s.whole? with
      | none =>
        rw [hs] at h
        cases h
      | some k =>
        rw [hs] at h
        obtain rfl := Except.ok.inj h
        exact ⟨s, rfl, hs⟩
    | _ => cases h
  · rintro ⟨s, rfl, hs⟩
    rw [whole, hs]
    rfl

/-- What is a whole number is not nothing. -/
theorem Scalar.ne_none_of_whole {s : Scalar} {n : Int} (h : s.whole? = some n) :
    Value.scalar s ≠ .none := by
  rintro ⟨⟩
  cases h

@[simp] theorem lengthsAgree_none (u : Value) : lengthsAgree u .none = .ok true := by
  unfold lengthsAgree
  split
  · rfl
  · rfl
  · contradiction

@[simp] theorem none_lengthsAgree (v : Value) : lengthsAgree .none v = .ok true := rfl

theorem lengthsAgree_of_ne {u v : Value} (hu : u ≠ .none) (hv : v ≠ .none) :
    lengthsAgree u v = u.askEquals v := by
  unfold lengthsAgree
  split
  · contradiction
  · contradiction
  · rfl

/-- Whole numbers agree if they are the same number. -/
theorem lengthsAgree_of_whole {s t : Scalar} {m n : Int} (hs : s.whole? = some m)
    (ht : t.whole? = some n) : lengthsAgree (.scalar s) (.scalar t) = .ok (decide (m = n)) := by
  rw [lengthsAgree_of_ne (Scalar.ne_none_of_whole hs) (Scalar.ne_none_of_whole ht),
    Value.askEquals, Scalar.equals_of_whole hs ht]

section

variable {v : Value}

/-- A number equals the same number, on either side, and nothing else that a length may hold. -/
theorem exists_askAlike_int (hv : v.Parsed) (n : Int) :
    ∃ same, (Value.int n).askAlike v = .ok same ∧ v.askAlike (.int n) = .ok same ∧
      (same = true ↔ v.whole = .ok n) := by
  rcases hv with rfl | ⟨k, hk⟩
  · exact ⟨false, rfl, rfl, by simp [Value.whole, Scalar.whole?, orFault]⟩
  obtain ⟨s, rfl, hs⟩ := Value.whole_eq_ok_iff.mp hk
  refine ⟨decide (k = n), ?_, ?_, ?_⟩
  · rw [Value.askAlike_scalar, Scalar.alike_of_whole rfl hs, decide_eq_decide.mpr eq_comm]
  · rw [Value.askAlike_scalar, Scalar.alike_of_whole hs rfl]
  · rw [hk, decide_eq_true_eq, Except.ok.injEq]

/-- A number agrees with the same number, on either side, and with nothing at all. -/
theorem exists_lengthsAgree_int (hv : v.Parsed) (n : Int) :
    ∃ same, lengthsAgree (.int n) v = .ok same ∧ lengthsAgree v (.int n) = .ok same ∧
      (same = true ↔ v = .none ∨ v.whole = .ok n) := by
  rcases hv with rfl | ⟨k, hk⟩
  · exact ⟨true, rfl, rfl, by simp⟩
  obtain ⟨s, rfl, hs⟩ := Value.whole_eq_ok_iff.mp hk
  refine ⟨decide (k = n), ?_, ?_, ?_⟩
  · rw [lengthsAgree_of_whole rfl hs, decide_eq_decide.mpr eq_comm]
  · exact lengthsAgree_of_whole hs rfl
  · rw [hk, decide_eq_true_eq, Except.ok.injEq]
    exact (or_iff_right (Scalar.ne_none_of_whole hs)).symm

end

/-- Of two alike things that may have been parsed, nothing is alike nothing only. -/
theorem Value.Parsed.eq_none_iff {u v : Value} (hu : u.Parsed) (hv : v.Parsed)
    (h : u.askAlike v = .ok true) : u = .none ↔ v = .none := by
  rcases hu with rfl | ⟨m, hm⟩
  · rcases hv with rfl | ⟨n, hn⟩
    · rfl
    · obtain ⟨t, rfl, ht⟩ := Value.whole_eq_ok_iff.mp hn
      cases t <;> cases ht <;> cases h
  · obtain ⟨s, rfl, hs⟩ := Value.whole_eq_ok_iff.mp hm
    rcases hv with rfl | ⟨n, hn⟩
    · cases s <;> cases hs <;> cases h
    · obtain ⟨t, rfl, ht⟩ := Value.whole_eq_ok_iff.mp hn
      exact iff_of_false (Scalar.ne_none_of_whole hs) (Scalar.ne_none_of_whole ht)

/-- What may have been parsed is alike itself. -/
theorem Value.Parsed.askAlike_self {u : Value} (hu : u.Parsed) : u.askAlike u = .ok true := by
  rcases hu with rfl | ⟨n, hn⟩
  · rfl
  · obtain ⟨s, rfl, hs⟩ := Value.whole_eq_ok_iff.mp hn
    rw [Value.askAlike_scalar, Scalar.alike_of_whole hs hs, decide_eq_true rfl]

end DmxNet
