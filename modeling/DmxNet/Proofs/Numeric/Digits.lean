import DmxNet.Numeric.Literal
import Mathlib.Data.List.TakeWhile

/-!
# Whole numbers that are written and read

A text of a whole number in decimal is a minus sign or none, and digits (`Digits.Spells`). However
many zeros stand before its other digits, it spells one number only (`Digits.Spells.unique`), and
that number is what is read from it if its digits are not too many (`Digits.Spells.integer_eq`).

A number that is filled to a width is spelled so (`Digits.spells_filled`), in digits that are not
too many if the number is short enough to be written (`Digits.digits_filled_le`).
-/

namespace DmxNet.Digits

open Literal

/-- A text of a whole number in decimal: a minus sign or none, and at least one digit. -/
inductive Spells : List Char → Int → Prop where
  /-- Digits alone. -/
  | plain {ds : List Char} : ds ≠ [] → (∀ d ∈ ds, d.isDigit = true) → Spells ds (ofDigits ds)
  /-- A minus sign before digits. -/
  | minus {ds : List Char} :
    ds ≠ [] → (∀ d ∈ ds, d.isDigit = true) → Spells ('-' :: ds) (-(ofDigits ds : Int))

theorem ofDigits_eq (ds : List Char) : ofDigits ds = Nat.ofDigitChars 10 ds 0 := by
  rw [ofDigits, Nat.ofDigitChars_eq_foldl]

/-! ### What a text spells -/

section

variable {cs ds : List Char} {m n : Int}

/-- A text that spells a number has no characters but digits and the minus sign. -/
theorem Spells.isDigit_or_eq (h : Spells cs n) {c : Char} (hc : c ∈ cs) :
    c.isDigit = true ∨ c = '-' := by
  cases h with
  | plain _ digits => exact .inl (digits c hc)
  | minus _ digits =>
    rcases List.mem_cons.mp hc with rfl | hc
    · exact .inr rfl
    · exact .inl (digits c hc)

theorem Spells.ne_nil (h : Spells cs n) : cs ≠ [] := by
  cases h with
  | plain some _ => exact some
  | minus _ _ => exact List.cons_ne_nil _ _

/-- **A text spells one number.** -/
theorem Spells.unique (hm : Spells cs m) (hn : Spells cs n) : m = n := by
  have unsigned (ds : List Char) (digits : ∀ d ∈ '-' :: ds, d.isDigit = true) : False := by
    simpa using digits '-' (by simp)
  cases hm with
  | plain _ digits =>
    cases hn with
    | plain => rfl
    | minus => exact (unsigned _ digits).elim
  | minus =>
    cases hn with
    | plain _ digits => exact (unsigned _ digits).elim
    | minus => rfl

/-! ### Reading -/

theorem ne_of_isDigit {c d : Char} (hd : d.isDigit = true) (hc : c.isDigit = false) : d ≠ c := by
  rintro rfl
  rw [hd] at hc
  cases hc

theorem grouped_cons {d : Char} (hd : d.isDigit = true) (inside : Bool) (ds : List Char) :
    grouped inside (d :: ds) = grouped true ds := by
  rw [grouped]
  exact ne_of_isDigit hd rfl

theorem grouped_of_digits (digits : ∀ d ∈ ds, d.isDigit = true) : grouped true ds = true := by
  induction ds with
  | nil => rfl
  | cons d ds ih =>
    rw [grouped_cons (digits d (by simp))]
    exact ih fun e he => digits e (by simp [he])

theorem takeSign_cons {d : Char} (hd : d.isDigit = true) (ds : List Char) :
    takeSign (d :: ds) = (false, d :: ds) := by
  unfold takeSign
  split
  · rename_i heq
    cases heq
    cases hd
  · rename_i heq
    cases heq
    cases hd
  · rfl

theorem isBlank_of_isDigit {d : Char} (hd : d.isDigit = true) : Text.isBlank d = false := by
  rw [Char.isDigit_iff_toNat] at hd
  have low : '0'.toNat = 48 := rfl
  have space : d ≠ ' ' := by
    rintro rfl
    exact absurd hd.1 (by decide)
  have later : ¬ d.toNat ≤ 13 := by omega
  simp [Text.isBlank, space, later]

/-- Digits after a sign, or none, are read as they are, up to the end. -/
theorem integer_of_takeSign (negative : Bool) (start : cs.dropWhile Text.isBlank = cs)
    (sign : takeSign cs = (negative, ds)) (some : ds ≠ []) (digits : ∀ d ∈ ds, d.isDigit = true)
    (few : ds.length ≤ limit) : integer cs = .ok (signed negative (ofDigits ds)) := by
  have inBody (d : Char) (hd : d ∈ ds) : (d.isDigit || d == '_') = true := by
    simp [digits d hd]
  have body : ds.takeWhile (fun c => c.isDigit || c == '_') = ds :=
    List.takeWhile_eq_self_iff.mpr inBody
  have rest : ds.dropWhile (fun c => c.isDigit || c == '_') = [] :=
    List.dropWhile_eq_nil_iff.mpr inBody
  have together : grouped false ds = true := by
    obtain ⟨d, es, rfl⟩ := List.exists_cons_of_ne_nil some
    rw [grouped_cons (digits d (by simp))]
    exact grouped_of_digits fun e he => digits e (by simp [he])
  rw [integer, start, sign]
  dsimp only
  rw [body, rest, List.filter_eq_self.mpr digits, together, if_neg (by simp),
    if_neg (Nat.not_lt.mpr few), if_pos (by simp)]

theorem Spells.integer_eq (h : Spells cs n) (few : (cs.filter Char.isDigit).length ≤ limit) :
    integer cs = .ok n := by
  cases h with
  | plain some digits =>
    rw [List.filter_eq_self.mpr digits] at few
    obtain ⟨d, ds, rfl⟩ := List.exists_cons_of_ne_nil some
    have hd := digits d (by simp)
    have start : (d :: ds).dropWhile Text.isBlank = d :: ds :=
      List.dropWhile_cons_of_neg (by simp [isBlank_of_isDigit hd])
    exact integer_of_takeSign false start (takeSign_cons hd ds) some digits few
  | minus some digits =>
    rw [List.filter_cons_of_neg (by decide), List.filter_eq_self.mpr digits] at few
    exact integer_of_takeSign true rfl rfl some digits few

end

/-! ### What can be written -/

/-- A number can be written if it has no more digits than the limit. -/
theorem writable_iff {n : Int} : writable n = true ↔ n.natAbs < Nat.pow 10 limit := by
  have enough : 20 ≤ limit := by decide
  rw [writable, Bool.or_eq_true, decide_eq_true_iff, decide_eq_true_iff]
  -- The power must not be computed.
  generalize limit = k at *
  refine or_iff_right_of_imp fun h => ?_
  calc n.natAbs < Nat.pow 10 20 := Nat.lt_of_lt_of_le h (by decide)
    _ ≤ Nat.pow 10 k := Nat.pow_le_pow_right (by decide) enough

/-- A number of a few digits can be written. -/
theorem writable_of_lt {n : Nat} (h : n < 65536) : writable n = true := by
  rw [writable, Int.natAbs_natCast, decide_eq_true (show n < 0x10000000000000000 by omega),
    Bool.true_or]

/-- A number can be written if a larger one can. -/
theorem writable_of_le {m n : Nat} (h : m ≤ n) (hn : writable n = true) : writable m = true := by
  rw [writable_iff, Int.natAbs_natCast] at hn ⊢
  exact h.trans_lt hn

/-! ### Writing -/

/-- The digits of a number in decimal have no case. -/
theorem upper_ten (n : Nat) : upper 10 n = Nat.toDigits 10 n := by
  have same (c : Char) (hc : c ∈ Nat.toDigits 10 n) : c.toUpper = c := by
    have hd := Nat.isDigit_of_mem_toDigits (by decide) (by decide) hc
    have small : ¬ ('a'.val ≤ c.val ∧ c.val ≤ 'z'.val) := by
      intro letter
      rw [Char.isDigit_iff_toNat] at hd
      exact absurd ((UInt32.le_iff_toNat_le.mp letter.1).trans hd.2) (by decide)
    exact dif_neg small
  rw [upper, List.map_congr_left same, List.map_id']

theorem isDigit_of_mem_upper {n : Nat} {c : Char} (h : c ∈ upper 10 n) : c.isDigit = true := by
  rw [upper_ten] at h
  exact Nat.isDigit_of_mem_toDigits (by decide) (by decide) h

theorem length_upper_le {n : Int} (h : writable n = true) :
    (upper 10 n.natAbs).length ≤ limit := by
  have positive : 0 < limit := by decide
  rw [writable_iff] at h
  -- The power must not be computed.
  generalize limit = k at *
  rw [upper_ten]
  exact (Nat.length_toDigits_le_iff (by decide) positive).mpr h

/-- Zeros before the digits of a number leave it as it is. -/
theorem ofDigits_zeros (k n : Nat) : ofDigits (List.replicate k '0' ++ upper 10 n) = n := by
  rw [ofDigits_eq, upper_ten, Nat.ofDigitChars_append, Nat.ofDigitChars_replicate_zero,
    Nat.mul_zero, Nat.ofDigitChars_ten_toDigits]

/-- The digits of a number that is filled to a width. -/
theorem isDigit_of_mem_zeros {k n : Nat} {d : Char} (h : d ∈ List.replicate k '0' ++ upper 10 n) :
    d.isDigit = true := by
  rcases List.mem_append.mp h with hd | hd
  · rw [(List.mem_replicate.mp hd).2]
    rfl
  · exact isDigit_of_mem_upper hd

theorem filled_eq (width : Nat) (n : Int) : ∃ k, k ≤ width - (upper 10 n.natAbs).length ∧
    filled width 10 n =
      (if n < 0 then ['-'] else []) ++ (List.replicate k '0' ++ upper 10 n.natAbs) := by
  refine ⟨_, ?_, List.append_assoc _ _ _⟩
  omega

/-- **What is written is spelled.** -/
theorem spells_filled (width : Nat) (n : Int) : Spells (filled width 10 n) n := by
  obtain ⟨k, -, hf⟩ := filled_eq width n
  have some : List.replicate k '0' ++ upper 10 n.natAbs ≠ [] := by
    rw [upper_ten]
    exact List.append_ne_nil_of_right_ne_nil _ Nat.toDigits_ne_nil
  have digits : ∀ d ∈ List.replicate k '0' ++ upper 10 n.natAbs, d.isDigit = true :=
    fun d hd => isDigit_of_mem_zeros hd
  rw [hf]
  split_ifs with hn
  · have h := Spells.minus some digits
    rw [ofDigits_zeros, Int.ofNat_natAbs_of_nonpos (by omega), Int.neg_neg] at h
    exact h
  · have h := Spells.plain some digits
    rw [ofDigits_zeros, Int.natAbs_of_nonneg (by omega)] at h
    exact h

theorem le_length_filled (width base : Nat) (n : Int) : width ≤ (filled width base n).length := by
  rw [filled]
  simp only [List.length_append, List.length_replicate]
  omega

/-- A number that is short enough to be written has few enough digits to be read. -/
theorem digits_filled_le {width : Nat} {n : Int} (hw : width ≤ limit) (h : writable n = true) :
    ((filled width 10 n).filter Char.isDigit).length ≤ limit := by
  have hl := length_upper_le h
  obtain ⟨k, hk, hf⟩ := filled_eq width n
  have sign : (if n < 0 then ['-'] else []).filter Char.isDigit = [] := by
    split_ifs <;> rfl
  rw [hf, List.filter_append, sign, List.nil_append]
  calc _ ≤ (List.replicate k '0' ++ upper 10 n.natAbs).length := List.length_filter_le _ _
    _ ≤ limit := by
      rw [List.length_append, List.length_replicate]
      omega

end DmxNet.Digits
