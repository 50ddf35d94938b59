import DmxNet.Text.Hex
import Mathlib.Order.Bounds.Basic

/-!
# Spelling bytes in hexadecimal

Which bytes a text spells (`Spells`): pairs of digits, with blanks before, between and after them.
Text is read as what it spells (`decode_eq_ok_iff`), so it spells one string of bytes at most. Text
that spells none is refused at one position (`GoesWrong`, `decode_eq_error_iff`): that of its first
character outside ASCII, or if there is none, the end of its longest start that some text carries on
to a spelling. What is written is a spelling, in words of two digits (`spells_encodeSpaced`,
`splitOn_encodeSpaced`).
-/

namespace DmxNet.Hex

/-- The digits by their values, in lower case. -/
def lowerDigits : List Char :=
  ['0', '1', '2', '3', '4', '5', '6', '7', '8', '9', 'a', 'b', 'c', 'd', 'e', 'f']

/-- The digits by their values, in upper case. -/
def upperDigits : List Char :=
  ['0', '1', '2', '3', '4', '5', '6', '7', '8', '9', 'A', 'B', 'C', 'D', 'E', 'F']

/-- Whether a character is the digit of a number. -/
def IsDigit (c : Char) (n : Nat) : Prop := lowerDigits[n]? = some c ∨ upperDigits[n]? = some c

/-- The blanks: space, tab, line feed, vertical tab, form feed and carriage return. -/
def blanks : List Char := [' ', '\t', '\n', '\x0b', '\x0c', '\r']

/-- The bytes that characters spell. -/
inductive Spells : List Char → List UInt8 → Prop where
  /-- No characters spell no bytes. -/
  | nil : Spells [] []
  /-- A blank spells nothing. -/
  | blank {c : Char} {cs : List Char} {bs : List UInt8} : c ∈ blanks → Spells cs bs →
    Spells (c :: cs) bs
  /-- Two digits spell a byte. -/
  | pair {c d : Char} {high low : Nat} {cs : List Char} {bs : List UInt8} : IsDigit c high →
    IsDigit d low → Spells cs bs → Spells (c :: d :: cs) (UInt8.ofNat (16 * high + low) :: bs)

/-- Whether characters spell any bytes. -/
def Spelled (cs : List Char) : Prop := ∃ bs, Spells cs bs

/-- Whether the first `n` of some characters are carried on to a spelling by some others. -/
def Reaches (cs : List Char) (n : Nat) : Prop :=
  n ≤ cs.length ∧ ∃ rest, Spelled (cs.take n ++ rest)

/-- The position at which characters go wrong that spell no bytes. -/
inductive GoesWrong (cs : List Char) : Nat → Prop where
  /-- There are characters outside ASCII, and this is where the first of them is. -/
  | foreign {before after : List Char} {c : Char} : cs = before ++ c :: after →
    (∀ b ∈ before, b.toNat < 128) → 128 ≤ c.toNat → GoesWrong cs before.length
  /-- There are none, and no longer start is carried on to a spelling. -/
  | stuck {pos : Nat} : (∀ c ∈ cs, c.toNat < 128) → ¬ Spelled cs →
    IsGreatest {n | Reaches cs n} pos → GoesWrong cs pos

/-! ### Single characters -/

/-- What is found of the characters of a table one by one is so of all in it. -/
theorem forall_mem_of_all {p : Char → Prop} [DecidablePred p] {table : List Char}
    (h : (table.all fun c => decide (p c)) = true) : ∀ c ∈ table, p c :=
  fun c hc => of_decide_eq_true (List.all_eq_true.mp h c hc)

/-- A character of a run of characters is where it is in a table that has the run in it. -/
theorem getElem?_of_range (digits : List Char) {first : Nat} (count offset : Nat)
    (table : ∀ k < count, digits[k + offset]? = some (Char.ofNat (first + k))) {c : Char}
    (hle : first ≤ c.toNat) (hlt : c.toNat < first + count) :
    digits[c.toNat - first + offset]? = some c := by
  rw [table (c.toNat - first) (by omega), Nat.add_sub_cancel' hle, Char.ofNat_toNat]

theorem isDigit_of_digit? {c : Char} {n : Nat} (h : digit? c = some n) : IsDigit c n := by
  unfold digit? at h
  dsimp only at h
  split_ifs at h with hdecimal hlower hupper
  · obtain rfl := Option.some.inj h
    exact .inl (getElem?_of_range lowerDigits 10 0 (by decide) hdecimal.1
      (Nat.lt_succ_of_le hdecimal.2))
  · obtain rfl := Option.some.inj h
    exact .inl (getElem?_of_range lowerDigits 6 10 (by decide) hlower.1
      (Nat.lt_succ_of_le hlower.2))
  · obtain rfl := Option.some.inj h
    exact .inr (getElem?_of_range upperDigits 6 10 (by decide) hupper.1
      (Nat.lt_succ_of_le hupper.2))

theorem digit?_of_isDigit {c : Char} {n : Nat} (h : IsDigit c n) : digit? c = some n := by
  have lower : ∀ k < 16, digit? (lowerDigits.getD k ' ') = some k := by decide
  have upper : ∀ k < 16, digit? (upperDigits.getD k ' ') = some k := by decide
  rcases h with h | h
  · have hn : n < 16 := (List.getElem?_eq_some_iff.mp h).1
    have hd := lower n hn
    rwa [List.getD_eq_getElem?_getD, h] at hd
  · have hn : n < 16 := (List.getElem?_eq_some_iff.mp h).1
    have hd := upper n hn
    rwa [List.getD_eq_getElem?_getD, h] at hd

theorem not_isDigit {c : Char} (h : digit? c = none) (n : Nat) : ¬ IsDigit c n := by
  intro hn
  rw [digit?_of_isDigit hn] at h
  cases h

theorem isBlank_iff {c : Char} : Text.isBlank c = true ↔ c ∈ blanks := by
  constructor
  · intro h
    rw [Text.isBlank, Bool.or_eq_true, Bool.and_eq_true, beq_iff_eq, decide_eq_true_eq,
      decide_eq_true_eq] at h
    rcases h with rfl | ⟨h9, h13⟩
    · decide
    · exact List.mem_of_getElem?
        (getElem?_of_range blanks 5 1 (by decide) h9 (Nat.lt_succ_of_le h13))
  · have all : ∀ b ∈ blanks, Text.isBlank b = true := forall_mem_of_all (by decide)
    exact all c

/-- No blank is a digit. -/
theorem digit?_of_blank {c : Char} (h : c ∈ blanks) : digit? c = none := by
  have all : ∀ b ∈ blanks, digit? b = none := forall_mem_of_all (by decide)
  exact all c h

theorem not_blank_of_isDigit {c : Char} {n : Nat} (h : IsDigit c n) : c ∉ blanks := by
  intro hb
  exact not_isDigit (digit?_of_blank hb) n h

/-! ### Spellings -/

section

variable {c d : Char} {cs : List Char} {bs : List UInt8}

theorem spelled_nil : Spelled [] := ⟨[], .nil⟩

/-- A blank in front makes no difference. -/
theorem spelled_blank_iff (hc : c ∈ blanks) : Spelled (c :: cs) ↔ Spelled cs := by
  constructor
  · rintro ⟨bs, h⟩
    cases h with
    | blank _ h => exact ⟨bs, h⟩
    | pair hd _ _ => exact absurd hc (not_blank_of_isDigit hd)
  · rintro ⟨bs, h⟩
    exact ⟨bs, .blank hc h⟩

/-- What starts with no blank starts with a pair of digits. -/
theorem exists_pair_of_spelled (hc : c ∉ blanks) (h : Spelled (c :: cs)) :
    ∃ d rest high low, cs = d :: rest ∧ IsDigit c high ∧ IsDigit d low ∧ Spelled rest := by
  obtain ⟨bs, h⟩ := h
  cases h with
  | blank hb _ => exact absurd hb hc
  | pair hhigh hlow h => exact ⟨_, _, _, _, rfl, hhigh, hlow, _, h⟩

theorem spelled_pair_iff {high low : Nat} (hc : IsDigit c high) (hd : IsDigit d low) :
    Spelled (c :: d :: cs) ↔ Spelled cs := by
  constructor
  · intro h
    obtain ⟨d', rest, -, -, heq, -, -, h⟩ := exists_pair_of_spelled (not_blank_of_isDigit hc) h
    cases heq
    exact h
  · rintro ⟨bs, h⟩
    exact ⟨_, .pair hc hd h⟩

/-- Whatever is spelled is spelled in ASCII. -/
theorem Spells.ascii (h : Spells cs bs) : ∀ c ∈ cs, c.toNat < 128 := by
  have blank : ∀ b ∈ blanks, b.toNat < 128 := forall_mem_of_all (by decide)
  have digit {c : Char} {n : Nat} (hc : IsDigit c n) : c.toNat < 128 := by
    have all : ∀ b ∈ lowerDigits ++ upperDigits, b.toNat < 128 := forall_mem_of_all (by decide)
    refine all c (List.mem_append.mpr ?_)
    exact hc.imp List.mem_of_getElem? List.mem_of_getElem?
  induction h with
  | nil => simp
  | blank hc _ ih => exact List.forall_mem_cons.mpr ⟨blank _ hc, ih⟩
  | pair hc hd _ ih =>
    exact List.forall_mem_cons.mpr ⟨digit hc, List.forall_mem_cons.mpr ⟨digit hd, ih⟩⟩

end

/-! ### Starts of spellings -/

section

variable {c d : Char} {cs : List Char} {pos : Nat}

theorem reaches_zero (cs : List Char) : Reaches cs 0 := ⟨Nat.zero_le _, [], spelled_nil⟩

/-- Characters in front that make no difference to what is spelled move the position at which text
goes wrong. -/
theorem isGreatest_append (front : List Char)
    (hf : ∀ cs, Spelled (front ++ cs) ↔ Spelled cs) (h : IsGreatest {n | Reaches cs n} pos) :
    IsGreatest {n | Reaches (front ++ cs) n} (front.length + pos) := by
  obtain ⟨⟨hle, rest, hrest⟩, hgreatest⟩ := h
  refine ⟨⟨?_, rest, ?_⟩, ?_⟩
  · rw [List.length_append]
    omega
  · rw [List.take_length_add_append, List.append_assoc, hf]
    exact hrest
  · rintro n ⟨hn, later, hlater⟩
    rw [List.length_append] at hn
    by_contra hlt
    obtain ⟨m, rfl⟩ := Nat.exists_eq_add_of_le (show front.length ≤ n by omega)
    rw [List.take_length_add_append, List.append_assoc, hf] at hlater
    have hm : m ≤ pos := hgreatest ⟨by omega, later, hlater⟩
    omega

/-- A first character that is no blank and no digit is where text goes wrong. -/
theorem isGreatest_zero (hc : c ∉ blanks) (hd : ∀ n, ¬ IsDigit c n) :
    IsGreatest {n | Reaches (c :: cs) n} 0 := by
  refine ⟨reaches_zero _, ?_⟩
  rintro n ⟨-, rest, h⟩
  cases n with
  | zero => exact Nat.le_refl 0
  | succ n =>
    obtain ⟨-, -, high, -, -, hhigh, -⟩ := exists_pair_of_spelled hc h
    exact absurd hhigh (hd high)

/-- A digit that another does not follow is where text goes wrong, after that digit. -/
theorem isGreatest_one {high : Nat} (hc : IsDigit c high)
    (hcs : ∀ d ∈ cs.head?, ∀ n, ¬ IsDigit d n) : IsGreatest {n | Reaches (c :: cs) n} 1 := by
  have zero : IsDigit '0' 0 := .inl rfl
  refine ⟨⟨by simp, ['0'], (spelled_pair_iff hc zero).mpr spelled_nil⟩, ?_⟩
  rintro n ⟨hn, rest, h⟩
  by_contra hlt
  obtain ⟨m, rfl⟩ := Nat.exists_eq_add_of_le (show 2 ≤ n by omega)
  cases cs with
  | nil =>
    simp only [List.length_singleton] at hn
    omega
  | cons d later =>
    rw [Nat.add_comm] at h
    obtain ⟨d', later', -, low, heq, -, hlow, -⟩ :=
      exists_pair_of_spelled (not_blank_of_isDigit hc) h
    cases heq
    exact hcs d rfl low hlow

end

/-! ### Reading -/

section

variable {c d : Char} {cs : List Char} {bs : List UInt8} {high low : Nat} (pos : Nat)

theorem decodeFrom_blank (hc : c ∈ blanks) :
    decodeFrom pos (c :: cs) = decodeFrom (pos + 1) cs := by
  conv_lhs => rw [decodeFrom.eq_def]
  dsimp only
  rw [if_pos (isBlank_iff.mpr hc)]

theorem decodeFrom_not_digit (hc : c ∉ blanks) (hd : digit? c = none) :
    decodeFrom pos (c :: cs) = .error pos := by
  unfold decodeFrom
  rw [if_neg (mt isBlank_iff.mp hc), hd]

theorem decodeFrom_pair (hc : IsDigit c high) (hd : IsDigit d low) :
    decodeFrom pos (c :: d :: cs) =
      (decodeFrom (pos + 2) cs).map fun bs => UInt8.ofNat (16 * high + low) :: bs := by
  conv_lhs => rw [decodeFrom.eq_def]
  dsimp only
  rw [if_neg (mt isBlank_iff.mp (not_blank_of_isDigit hc)), digit?_of_isDigit hc]
  dsimp only
  rw [digit?_of_isDigit hd]

theorem decodeFrom_half (hc : IsDigit c high) (hcs : ∀ d ∈ cs.head?, digit? d = none) :
    decodeFrom pos (c :: cs) = .error (pos + 1) := by
  conv_lhs => rw [decodeFrom.eq_def]
  dsimp only
  rw [if_neg (mt isBlank_iff.mp (not_blank_of_isDigit hc)), digit?_of_isDigit hc]
  cases cs with
  | nil => rfl
  | cons d later =>
    dsimp only
    rw [hcs d rfl]

/-- Text is read as what it spells. -/
theorem decodeFrom_of_spells (h : Spells cs bs) : decodeFrom pos cs = .ok bs := by
  induction h generalizing pos with
  | nil => rfl
  | blank hc _ ih => rw [decodeFrom_blank pos hc, ih]
  | pair hc hd _ ih =>
    rw [decodeFrom_pair pos hc hd, ih]
    rfl

/-- Reading stops `k` characters into some, which nothing carries on any further. -/
structure Stops (pos : Nat) (cs : List Char) (k : Nat) : Prop where
  refused : decodeFrom pos cs = .error (pos + k)
  not_spelled : ¬ Spelled cs
  greatest : IsGreatest {n | Reaches cs n} k

theorem Stops.blank {k : Nat} (hc : c ∈ blanks) (h : Stops (pos + 1) cs k) :
    Stops pos (c :: cs) (1 + k) where
  refused := by rw [decodeFrom_blank pos hc, h.refused, Nat.add_assoc]
  not_spelled := by
    rw [spelled_blank_iff hc]
    exact h.not_spelled
  greatest := isGreatest_append [c] (fun _ => spelled_blank_iff hc) h.greatest

theorem Stops.pair {k : Nat} (hc : IsDigit c high) (hd : IsDigit d low)
    (h : Stops (pos + 2) cs k) : Stops pos (c :: d :: cs) (2 + k) where
  refused := by
    rw [decodeFrom_pair pos hc hd, h.refused, Nat.add_assoc]
    rfl
  not_spelled := by
    rw [spelled_pair_iff hc hd]
    exact h.not_spelled
  greatest := isGreatest_append [c, d] (fun _ => spelled_pair_iff hc hd) h.greatest

theorem Stops.not_digit (hc : c ∉ blanks) (hd : digit? c = none) : Stops pos (c :: cs) 0 where
  refused := decodeFrom_not_digit pos hc hd
  not_spelled h := by
    obtain ⟨-, -, high, -, -, hhigh, -⟩ := exists_pair_of_spelled hc h
    rw [digit?_of_isDigit hhigh] at hd
    cases hd
  greatest := isGreatest_zero hc (not_isDigit hd)

theorem Stops.half (hc : IsDigit c high) (hcs : ∀ d ∈ cs.head?, digit? d = none) :
    Stops pos (c :: cs) 1 where
  refused := decodeFrom_half pos hc hcs
  not_spelled h := by
    obtain ⟨d, rest, -, low, rfl, -, hlow, -⟩ :=
      exists_pair_of_spelled (not_blank_of_isDigit hc) h
    exact not_isDigit (hcs d rfl) low hlow
  greatest := isGreatest_one hc fun d hd => not_isDigit (hcs d hd)

end

/-- Characters spell bytes, or reading stops somewhere in them. -/
theorem spelled_or_stops (pos : Nat) (cs : List Char) : Spelled cs ∨ ∃ k, Stops pos cs k := by
  induction pos, cs using decodeFrom.induct with
  | case1 pos => exact .inl spelled_nil
  | case2 pos c cs hc ih =>
    rw [isBlank_iff] at hc
    refine ih.imp (spelled_blank_iff hc).mpr ?_
    rintro ⟨k, h⟩
    exact ⟨_, h.blank pos hc⟩
  | case3 pos c cs hc hd => exact .inr ⟨0, .not_digit pos (mt isBlank_iff.mpr hc) hd⟩
  | case4 pos c _ high hc => exact .inr ⟨1, .half pos (isDigit_of_digit? hc) (by simp)⟩
  | case5 pos c _ high d cs hc hd =>
    exact .inr ⟨1, .half pos (isDigit_of_digit? hc) (by simpa using hd)⟩
  | case6 pos c _ high d cs hc low hd ih =>
    have hc := isDigit_of_digit? hc
    have hd := isDigit_of_digit? hd
    refine ih.imp (spelled_pair_iff hc hd).mpr ?_
    rintro ⟨k, h⟩
    exact ⟨_, h.pair pos hc hd⟩

section

variable {s : String} {bs : List UInt8} {pos : Nat}

theorem decode_of_ascii (h : ∀ c ∈ s.toList, c.toNat < 128) : decode s = decodeFrom 0 s.toList := by
  rw [decode, List.findIdx?_eq_none_iff.mpr fun c hc => decide_eq_false (Nat.not_le.mpr (h c hc))]

/-- Text is read as what it spells. -/
theorem decode_of_spells (h : Spells s.toList bs) : decode s = .ok bs := by
  rw [decode_of_ascii h.ascii, decodeFrom_of_spells 0 h]

/-- Text is refused where it goes wrong. -/
theorem decode_of_goesWrong (h : GoesWrong s.toList pos) : decode s = .error pos := by
  cases h with
  | @foreign before after c heq hbefore hc =>
    have hfirst : (before ++ c :: after).findIdx? (fun c => decide (128 ≤ c.toNat)) =
        some before.length := by
      rw [List.findIdx?_append, List.findIdx?_eq_none_iff.mpr fun b hb =>
        decide_eq_false (Nat.not_le.mpr (hbefore b hb)), List.findIdx?_cons,
        if_pos (decide_eq_true hc), Option.none_or, Option.map_some, Nat.zero_add]
    rw [decode, heq, hfirst]
  | stuck hascii hnot hgreatest =>
    obtain ⟨k, hstops⟩ := (spelled_or_stops 0 s.toList).resolve_left hnot
    rw [decode_of_ascii hascii, hstops.refused, Nat.zero_add, hstops.greatest.unique hgreatest]

/-- Text goes wrong somewhere unless it spells something. -/
theorem spelled_or_goesWrong (cs : List Char) : Spelled cs ∨ ∃ pos, GoesWrong cs pos := by
  cases hfind : cs.find? fun c => decide (128 ≤ c.toNat) with
  | none =>
    have hascii : ∀ c ∈ cs, c.toNat < 128 := fun c hc =>
      Nat.not_le.mp fun hfar => List.find?_eq_none.mp hfind c hc (decide_eq_true hfar)
    refine (spelled_or_stops 0 cs).imp_right ?_
    rintro ⟨k, hstops⟩
    exact ⟨k, .stuck hascii hstops.not_spelled hstops.greatest⟩
  | some c =>
    obtain ⟨hc, before, after, heq, hbefore⟩ := List.find?_eq_some_iff_append.mp hfind
    refine .inr ⟨_, .foreign heq (fun b hb => ?_) (of_decide_eq_true hc)⟩
    simpa using hbefore b hb

/-- Text is read as exactly what it spells. -/
theorem decode_eq_ok_iff : decode s = .ok bs ↔ Spells s.toList bs := by
  refine ⟨fun h => ?_, decode_of_spells⟩
  rcases spelled_or_goesWrong s.toList with ⟨bs', hspells⟩ | ⟨pos, hwrong⟩
  · rw [decode_of_spells hspells] at h
    cases h
    exact hspells
  · rw [decode_of_goesWrong hwrong] at h
    cases h

/-- Text is refused exactly where it goes wrong. -/
theorem decode_eq_error_iff : decode s = .error pos ↔ GoesWrong s.toList pos := by
  refine ⟨fun h => ?_, decode_of_goesWrong⟩
  rcases spelled_or_goesWrong s.toList with ⟨bs', hspells⟩ | ⟨pos', hwrong⟩
  · rw [decode_of_spells hspells] at h
    cases h
  · rw [decode_of_goesWrong hwrong] at h
    cases h
    exact hwrong

end

example : decode "4F 7" = .error 4 := rfl

/-! ### Writing -/

/-- Whether a word is two digits. -/
def IsPair (word : List Char) : Prop :=
  ∃ c d high low, word = [c, d] ∧ IsDigit c high ∧ IsDigit d low

/-- A byte is written in the two digits of its number. -/
theorem exists_digits_of_pair (b : UInt8) :
    ∃ c d high low, pair b = [c, d] ∧ IsDigit c high ∧ IsDigit d low ∧
      16 * high + low = b.toNat := by
  have all : ∀ n < 256, Text.hexNumber 2 n =
      [lowerDigits.getD (n / 16) ' ', lowerDigits.getD (n % 16) ' '] := by decide +kernel
  have digit : ∀ k < 16, IsDigit (lowerDigits.getD k ' ') k := by
    intro k hk
    exact .inl (by rw [List.getD_eq_getElem?_getD, List.getElem?_eq_getElem hk]; rfl)
  exact ⟨_, _, _, _, all _ b.toNat_lt, digit _ (by have := b.toNat_lt; omega),
    digit _ (by omega), Nat.div_add_mod _ 16⟩

theorem isPair_pair (b : UInt8) : IsPair (pair b) := by
  obtain ⟨c, d, high, low, heq, hc, hd, -⟩ := exists_digits_of_pair b
  exact ⟨c, d, high, low, heq, hc, hd⟩

theorem Spells.pair_append {cs : List Char} {bs : List UInt8} (b : UInt8) (h : Spells cs bs) :
    Spells (Hex.pair b ++ cs) (b :: bs) := by
  obtain ⟨c, d, high, low, heq, hc, hd, hb⟩ := exists_digits_of_pair b
  have hpair := Spells.pair hc hd h
  rw [hb, UInt8.ofNat_toNat] at hpair
  rw [heq]
  exact hpair

theorem spacedPairs_cons {b : UInt8} {bs : List UInt8} (h : bs ≠ []) :
    spacedPairs (b :: bs) = pair b ++ ' ' :: spacedPairs bs := by
  rw [spacedPairs]
  exact h

/-- What is written is a spelling. -/
theorem spells_encodeSpaced (bs : List UInt8) : Spells (encodeSpaced bs).toList bs := by
  rw [encodeSpaced, String.toList_ofList]
  induction bs using spacedPairs.induct with
  | case1 => exact .nil
  | case2 b =>
    have hb := Spells.pair_append b .nil
    rwa [List.append_nil] at hb
  | case3 b bs hbs ih =>
    rw [spacedPairs_cons hbs]
    exact .pair_append b (.blank (by decide) ih)

/-- What is written without spaces is one, too. -/
theorem spells_encode (bs : List UInt8) : Spells (encode bs).toList bs := by
  rw [encode, String.toList_ofList]
  induction bs with
  | nil => exact .nil
  | cons b bs ih =>
    rw [List.flatMap_cons]
    exact .pair_append b ih

theorem spacedPairs_eq (bs : List UInt8) : spacedPairs bs = [' '].intercalate (bs.map pair) := by
  induction bs using spacedPairs.induct with
  | case1 => rfl
  | case2 b => rw [spacedPairs, List.map_singleton, List.intercalate_singleton]
  | case3 b bs hbs ih =>
    obtain ⟨c, later, rfl⟩ := List.exists_cons_of_ne_nil hbs
    rw [spacedPairs_cons hbs, ih, List.map_cons, List.map_cons, List.map_cons,
      List.intercalate_cons_cons, List.append_assoc]
    rfl

/-- The words of what is written are the pairs of the bytes. -/
theorem splitOn_encodeSpaced {bs : List UInt8} (h : bs ≠ []) :
    (encodeSpaced bs).toList.splitOn ' ' = bs.map pair := by
  rw [encodeSpaced, String.toList_ofList, spacedPairs_eq, List.splitOn_intercalate]
  · intro word hword
    obtain ⟨b, -, rfl⟩ := List.mem_map.mp hword
    obtain ⟨c, d, high, low, heq, hc, hd, -⟩ := exists_digits_of_pair b
    rw [heq]
    have hblank : ' ' ∈ blanks := by decide
    rintro (_ | ⟨_, (_ | ⟨_, h⟩)⟩)
    · exact not_blank_of_isDigit hc hblank
    · exact not_blank_of_isDigit hd hblank
    · cases h
  · simpa using h

end DmxNet.Hex
