import DmxNet.Proofs.Fault
import DmxNet.Value.Json

/-!
# What JSON text tells

The characters between the quotes of a JSON text stand for a text (`Spells`): most of them for
themselves, the others behind a backslash. What is written between quotes spells what was to be
written (`spells_escape`), and characters up to a quote spell one text only (`Spells.unique`).

So a value is told by its JSON text (`Tells`), also where something follows that does not go on with
a number (`Tells.unique`). What is written for text, truth values and numbers tells them, but there
is nothing to be written for a number that is too long.
-/

namespace DmxNet.Json

/-- A number behind a backslash, in four digits of base sixteen. -/
def numbered (n : Nat) : List Char :=
  '\\' :: 'u' :: [n / 0x1000, n / 0x100 % 16, n / 16 % 16, n % 16].map Nat.digitChar

/-- The characters that stand behind a backslash, and what they stand for there. -/
def shortEscapes : List (Char × Char) :=
  [('"', '"'), ('\\', '\\'), ('n', '\n'), ('r', '\r'), ('t', '\t'), ('b', '\x08'), ('f', '\x0c')]

/-- What characters between quotes denote, one character at a time. -/
inductive Denotes : List Char → Char → Prop where
  /-- A character that is neither the quote nor the backslash, nor a control character. -/
  | plain {c : Char} : c ≠ '"' → c ≠ '\\' → 0x20 ≤ c.toNat → Denotes [c] c
  /-- A character with a letter of its own. -/
  | short {letter c : Char} : (letter, c) ∈ shortEscapes → Denotes ['\\', letter] c
  /-- A character by its number. -/
  | unit {c : Char} : c.toNat < 0x10000 → Denotes (numbered c.toNat) c
  /-- A character of a larger number by a pair of surrogates. -/
  | pair {c : Char} {high low : Nat} : 0xD800 ≤ high → high < 0xDC00 → 0xDC00 ≤ low →
    low < 0xE000 → c.toNat = 0x10000 + (high - 0xD800) * 0x400 + (low - 0xDC00) →
    Denotes (numbered high ++ numbered low) c

/-- The text that characters between quotes stand for. -/
inductive Spells : List Char → List Char → Prop where
  /-- No characters stand for the empty text. -/
  | nil : Spells [] []
  /-- The first character of the text, and the others. -/
  | cons {es cs : List Char} {es' : List Char} {c : Char} : Denotes es c → Spells es' cs →
    Spells (es ++ es') (c :: cs)

/-- The JSON texts of values: text between quotes, numbers in decimal, and truth values. -/
inductive Tells : Value → String → Prop where
  /-- A text between quotes. -/
  | text {s : String} {es : List Char} : Spells es s.toList →
    Tells (.text s) (String.ofList ('"' :: es ++ ['"']))
  /-- A whole number. -/
  | int (n : Int) : Tells (.int n) (toString n)
  /-- A truth value. -/
  | bool (b : Bool) : Tells (.bool b) (if b then "true" else "false")

/-! ### Writing -/

/-- The digits of a number in base sixteen, the last one apart. -/
theorem toDigits_append {n : Nat} (h : 16 ≤ n) :
    Nat.toDigits 16 n = Nat.toDigits 16 (n / 16) ++ [Nat.digitChar (n % 16)] :=
  Nat.toDigits_of_base_le (by decide) h

theorem unit_eq_numbered {n : Nat} (h : n < 0x10000) : unit n = numbered n := by
  have last {k : Nat} (hk : k < 16) : Nat.toDigits 16 k = [Nat.digitChar k] :=
    Nat.toDigits_of_lt_base hk
  -- By how many digits there are without zeros before them.
  rw [unit, numbered, Text.hexNumber]
  rcases Nat.lt_or_ge n 0x10 with h1 | h1
  · rw [last h1, show n / 0x1000 = 0 by omega, show n / 0x100 % 16 = 0 by omega,
      show n / 16 % 16 = 0 by omega, show n % 16 = n by omega]
    rfl
  rw [toDigits_append h1]
  rcases Nat.lt_or_ge n 0x100 with h2 | h2
  · rw [last (show n / 16 < 16 by omega), show n / 0x1000 = 0 by omega,
      show n / 0x100 % 16 = 0 by omega, show n / 16 % 16 = n / 16 by omega]
    rfl
  rw [toDigits_append (show 16 ≤ n / 16 by omega), Nat.div_div_eq_div_mul]
  rcases Nat.lt_or_ge n 0x1000 with h3 | h3
  · rw [last (show n / (16 * 16) < 16 by omega), show n / 0x1000 = 0 by omega,
      show n / 0x100 % 16 = n / (16 * 16) by omega]
    rfl
  · rw [toDigits_append (show 16 ≤ n / (16 * 16) by omega), Nat.div_div_eq_div_mul,
      last (show n / (16 * 16 * 16) < 16 by omega)]
    rfl

/-- The number of a character is below the surrogates or above them. -/
theorem toNat_lt_or (c : Char) :
    c.toNat < 0xD800 ∨ 0xDFFF < c.toNat ∧ c.toNat < 0x110000 := c.valid

theorem denotes_of_toNat {letter c : Char} {n : Nat} (h : c.toNat = n)
    (hs : (letter, Char.ofNat n) ∈ shortEscapes) : Denotes ['\\', letter] c := by
  rw [← h, Char.ofNat_toNat] at hs
  exact .short hs

/-- What is written for a character denotes it. -/
theorem denotes_escape (c : Char) : Denotes (escape c) c := by
  unfold escape
  simp only [Bool.or_eq_true, beq_iff_eq]
  split_ifs with hself hn hr ht h8 h12 hgraphic hunit
  · rcases hself with rfl | rfl <;> exact .short (by decide)
  · subst hn
    exact .short (by decide)
  · subst hr
    exact .short (by decide)
  · subst ht
    exact .short (by decide)
  · exact denotes_of_toNat h8 (by decide)
  · exact denotes_of_toNat h12 (by decide)
  · rw [not_or] at hself
    simp only [Text.isGraphic, Bool.and_eq_true, decide_eq_true_eq] at hgraphic
    exact .plain hself.1 hself.2 hgraphic.1
  · rw [unit_eq_numbered hunit]
    exact .unit hunit
  · have hc := toNat_lt_or c
    rw [unit_eq_numbered (by omega), unit_eq_numbered (by omega)]
    exact .pair (by omega) (by omega) (by omega) (by omega) (by omega)

/-- **What is written between quotes spells the text.** -/
theorem spells_escape (cs : List Char) : Spells (cs.flatMap escape) cs := by
  induction cs with
  | nil => exact .nil
  | cons c cs ih =>
    rw [List.flatMap_cons]
    exact .cons (denotes_escape c) ih

/-- The decimal text of a number is the one of the library. -/
theorem decimal_eq_toString (n : Int) : Digits.decimal n = toString n := by
  have hd : Digits.decimal n =
      String.ofList ((if n < 0 then ['-'] else []) ++ Nat.toDigits 10 n.natAbs) := by
    rw [Digits.decimal, Digits.filled, Digits.upper_ten]
    simp
  change _ = Int.repr n
  rw [hd, Int.repr_eq_if]
  by_cases hn : n < 0
  · rw [if_pos hn, if_neg (by omega), Nat.repr_eq_ofList_toDigits,
      show (-n).toNat = n.natAbs by omega, String.ofList_append]
  · rw [if_neg hn, if_pos (by omega), Nat.repr_eq_ofList_toDigits,
      show n.toNat = n.natAbs by omega, List.nil_append]

theorem exists_tells_text (s : String) : ∃ t, (Value.text s).json = .ok t ∧ Tells (.text s) t :=
  ⟨_, rfl, .text (spells_escape s.toList)⟩

theorem exists_tells_bool (b : Bool) : ∃ t, (Value.bool b).json = .ok t ∧ Tells (.bool b) t :=
  ⟨_, rfl, .bool b⟩

theorem exists_tells_int {n : Int} (h : Digits.writable n = true) :
    ∃ t, (Value.int n).json = .ok t ∧ Tells (.int n) t := by
  refine ⟨_, Fault.numberText_of_writable h, ?_⟩
  rw [decimal_eq_toString]
  exact .int n

theorem json_int_of_not_writable {n : Int} (h : ¬ Digits.writable n = true) :
    (Value.int n).json = .error (.invalid .unwritable) := Fault.numberText_of_not_writable h

/-! ### Reading -/

/-- Numbers with the same digits are the same, and are told from what follows them. -/
theorem numbered_append_inj {m n : Nat} {ts us : List Char} (hm : m < 0x10000) (hn : n < 0x10000)
    (h : numbered m ++ ts = numbered n ++ us) : m = n ∧ ts = us := by
  have digit : ∀ a < 16, ∀ b < 16, Nat.digitChar a = Nat.digitChar b → a = b := by decide
  obtain ⟨hd, ht⟩ := List.append_inj h rfl
  refine ⟨?_, ht⟩
  simp only [numbered, List.map_cons, List.map_nil, List.cons.injEq, and_true, true_and] at hd
  obtain ⟨h1, h2, h3, h4⟩ := hd
  have e1 := digit _ (by omega) _ (by omega) h1
  have e2 := digit _ (by omega) _ (by omega) h2
  have e3 := digit _ (by omega) _ (by omega) h3
  have e4 := digit _ (by omega) _ (by omega) h4
  omega

variable {es es' ts us cs ds : List Char} {c d : Char}

/-- What denotes a character is told from what follows it, and denotes that character only. -/
theorem Denotes.unique (hc : Denotes es c) (hd : Denotes es' d) (h : es ++ ts = es' ++ us) :
    c = d ∧ ts = us := by
  have short_inj : ∀ p ∈ shortEscapes, ∀ q ∈ shortEscapes, p.1 = q.1 → p.2 = q.2 := by decide
  have short_ne : ∀ p ∈ shortEscapes, p.1 ≠ 'u' := by decide
  cases hc with
  | plain _ hb _ =>
    cases hd with
    | plain => exact List.cons.inj h
    | _ => exact absurd (List.cons.inj h).1 hb
  | short hs =>
    cases hd with
    | plain _ hb _ => exact absurd (List.cons.inj h).1.symm hb
    | short hs' =>
      obtain ⟨hl, ht⟩ := List.cons.inj (List.cons.inj h).2
      exact ⟨short_inj _ hs _ hs' hl, ht⟩
    | _ => exact absurd (List.cons.inj (List.cons.inj h).2).1 (short_ne _ hs)
  | unit hn =>
    cases hd with
    | plain _ hb _ => exact absurd (List.cons.inj h).1.symm hb
    | short hs => exact absurd (List.cons.inj (List.cons.inj h).2).1.symm (short_ne _ hs)
    | unit hn' =>
      obtain ⟨hcd, ht⟩ := numbered_append_inj hn hn' h
      exact ⟨Char.toNat_inj.mp hcd, ht⟩
    | pair h1 h2 =>
      -- A surrogate is the number of no character.
      rw [List.append_assoc] at h
      obtain ⟨hcd, -⟩ := numbered_append_inj hn (by omega) h
      have := toNat_lt_or c
      omega
  | pair h1 h2 h3 h4 hn =>
    cases hd with
    | plain _ hb _ => exact absurd (List.cons.inj h).1.symm hb
    | short hs => exact absurd (List.cons.inj (List.cons.inj h).2).1.symm (short_ne _ hs)
    | unit hn' =>
      rw [List.append_assoc] at h
      obtain ⟨hcd, -⟩ := numbered_append_inj (by omega) hn' h
      have := toNat_lt_or d
      omega
    | pair h1' h2' h3' h4' hn' =>
      rw [List.append_assoc, List.append_assoc] at h
      obtain ⟨hhigh, h⟩ := numbered_append_inj (by omega) (by omega) h
      obtain ⟨hlow, ht⟩ := numbered_append_inj (by omega) (by omega) h
      exact ⟨Char.toNat_inj.mp (by omega), ht⟩

theorem Denotes.exists_cons (h : Denotes es c) : ∃ e rest, es = e :: rest ∧ e ≠ '"' := by
  cases h with
  | plain hq _ _ => exact ⟨_, _, rfl, hq⟩
  | _ => exact ⟨_, _, rfl, by decide⟩

/-- **Characters up to a quote spell one text only**, and end at that quote. -/
theorem Spells.unique (hc : Spells es cs) (hd : Spells es' ds)
    (h : es ++ '"' :: ts = es' ++ '"' :: us) : cs = ds ∧ ts = us := by
  induction hc generalizing es' ds with
  | nil =>
    cases hd with
    | nil => exact ⟨rfl, (List.cons.inj h).2⟩
    | cons denotes _ =>
      obtain ⟨e, rest, rfl, he⟩ := denotes.exists_cons
      exact absurd (List.cons.inj h).1.symm he
  | cons denotes _ ih =>
    cases hd with
    | nil =>
      obtain ⟨e, rest, rfl, he⟩ := denotes.exists_cons
      exact absurd (List.cons.inj h).1 he
    | cons denotes' spells =>
      rw [List.append_assoc, List.append_assoc] at h
      obtain ⟨rfl, h⟩ := denotes.unique denotes' h
      obtain ⟨rfl, ht⟩ := ih spells h
      exact ⟨rfl, ht⟩

/-! ### Values -/

/-- Whether a character is one of those in which numbers are written. -/
def isNumeric (c : Char) : Bool := c.isDigit || c = '-'

theorem spells_toString (n : Int) : Digits.Spells (toString n).toList n := by
  rw [← decimal_eq_toString, Digits.decimal, String.toList_ofList]
  exact Digits.spells_filled 0 n

theorem isNumeric_of_mem_toString {n : Int} (h : c ∈ (toString n).toList) :
    isNumeric c = true := by
  rw [isNumeric, Bool.or_eq_true, decide_eq_true_iff]
  exact (spells_toString n).isDigit_or_eq h

theorem exists_cons_toString (n : Int) :
    ∃ e rest, (toString n).toList = e :: rest ∧ isNumeric e = true := by
  have hn (e : Char) (he : e ∈ (toString n).toList) : isNumeric e = true :=
    isNumeric_of_mem_toString he
  have hne := (spells_toString n).ne_nil
  generalize (toString n).toList = es at hn hne
  cases es with
  | nil => exact absurd rfl hne
  | cons e rest => exact ⟨e, rest, rfl, hn e List.mem_cons_self⟩

/-- The decimal text of a number is told from what follows it, and is that of the number only. -/
theorem toString_append_inj {m n : Int} (hc : isNumeric c = false) (hd : isNumeric d = false)
    (h : (toString m).toList ++ c :: ts = (toString n).toList ++ d :: us) :
    m = n ∧ c :: ts = d :: us := by
  have front {k : Int} {e : Char} {rest : List Char} (he : isNumeric e = false) :
      ((toString k).toList ++ e :: rest).takeWhile isNumeric = (toString k).toList := by
    rw [List.takeWhile_append_of_pos fun _ => isNumeric_of_mem_toString,
      List.takeWhile_cons_of_neg (by simp [he]), List.append_nil]
  have hmn : (toString m).toList = (toString n).toList := by rw [← front hc, h, front hd]
  have hs := spells_toString m
  rw [hmn] at h hs
  exact ⟨hs.unique (spells_toString n), List.append_cancel_left h⟩

/-- What the JSON text of a value starts with. -/
inductive Starts : Value → Char → Prop where
  /-- A text starts with a quote. -/
  | text (s : String) {e : Char} : e = '"' → Starts (.text s) e
  /-- A number starts with a digit or a minus sign. -/
  | int (n : Int) {e : Char} : isNumeric e = true → Starts (.int n) e
  /-- A truth value starts with a letter of its own. -/
  | bool (b : Bool) {e : Char} : e = (if b then 't' else 'f') → Starts (.bool b) e

variable {v w : Value} {a b : String}

theorem Tells.starts (h : Tells v a) : ∃ e rest, a.toList = e :: rest ∧ Starts v e := by
  cases h with
  | text => exact ⟨_, _, String.toList_ofList, .text _ rfl⟩
  | int n =>
    obtain ⟨e, rest, hn, he⟩ := exists_cons_toString n
    exact ⟨e, rest, hn, .int n he⟩
  | bool b =>
    refine ⟨_, if b then ['r', 'u', 'e'] else ['a', 'l', 's', 'e'], ?_, .bool b rfl⟩
    cases b <;> rfl

/-- The first character of a JSON text tells the kind of the value. -/
theorem Starts.kinds {e : Char} (hv : Starts v e) (hw : Starts w e) :
    (∃ s t, v = .text s ∧ w = .text t) ∨ (∃ m n : Int, v = .int m ∧ w = .int n) ∨
      ∃ b, v = .bool b ∧ w = .bool b := by
  have letter (b : Bool) :
      (if b then 't' else 'f') ≠ '"' ∧ isNumeric (if b then 't' else 'f') = false := by
    cases b <;> decide
  have quote : isNumeric '"' = false := by decide
  cases hv with
  | text s hs =>
    cases hw with
    | text t => exact .inl ⟨s, t, rfl, rfl⟩
    | int n hn => simp [hs, quote] at hn
    | bool b hb => exact absurd (hb.symm.trans hs) (letter b).1
  | int m hm =>
    cases hw with
    | text t ht => simp [ht, quote] at hm
    | int n => exact .inr (.inl ⟨m, n, rfl, rfl⟩)
    | bool b hb => simp [hb, letter b] at hm
  | bool b hb =>
    cases hw with
    | text t ht => exact absurd (hb.symm.trans ht) (letter b).1
    | int n hn => simp [hb, letter b] at hn
    | bool b' hb' =>
      refine .inr (.inr ⟨b, rfl, ?_⟩)
      cases b <;> cases b' <;> simp_all

/-- **A JSON text tells one value only**, and is told from what follows it if that goes on with no
number. -/
theorem Tells.unique (hv : Tells v a) (hw : Tells w b) (hc : isNumeric c = false)
    (hd : isNumeric d = false) (h : a.toList ++ c :: ts = b.toList ++ d :: us) :
    v = w ∧ c :: ts = d :: us := by
  obtain ⟨e, rest, ha, hs⟩ := hv.starts
  obtain ⟨e', rest', hb, hs'⟩ := hw.starts
  obtain rfl : e = e' := by
    rw [ha, hb] at h
    exact (List.cons.inj h).1
  rcases hs.kinds hs' with ⟨s, t, rfl, rfl⟩ | ⟨m, n, rfl, rfl⟩ | ⟨b, rfl, rfl⟩
  · cases hv with
    | text spells =>
      cases hw with
      | text spells' =>
        simp only [String.toList_ofList, List.cons_append, List.append_assoc, List.nil_append,
          List.cons.injEq, true_and] at h
        obtain ⟨hst, ht⟩ := spells.unique spells' h
        rw [String.toList_inj.mp hst]
        exact ⟨rfl, ht⟩
  · cases hv
    cases hw
    obtain ⟨rfl, ht⟩ := toString_append_inj hc hd h
    exact ⟨rfl, ht⟩
  · cases hv
    cases hw
    exact ⟨rfl, List.append_cancel_left h⟩

/-- A JSON text is told from what follows it after a separator. -/
theorem Tells.unique_before {separator rest rest' : List Char} (hv : Tells v a) (hw : Tells w b)
    (hc : isNumeric c = false)
    (h : a.toList ++ (c :: separator ++ rest) = b.toList ++ (c :: separator ++ rest')) :
    v = w ∧ rest = rest' := by
  obtain ⟨hvw, ht⟩ := hv.unique hw hc hc h
  exact ⟨hvw, List.append_cancel_left (List.cons.inj ht).2⟩

end DmxNet.Json
