import DmxNet.Proofs.Schema.Appending
import DmxNet.Workbench

/-!
# Agreement of records

Across a round trip two records of a schema are compared as by equality, up to lengths of which
only one was parsed. To say this without comparing, each record is levelled with the other: a
length is unparsed where that of the other record is (`Value.levelled`). Two records agree exactly
if they are equal when levelled with each other (`agrees_up_to_unparsed_lengths`).

A comparison is told from both sides at once, since the value on the left decides how the two are
compared (`Codec.Compares`). That it answers is shown value by value, and so it is shown where
levelling changes nothing (`Codec.Holds.levelled_eq`): equal records have matching lengths, so they
agree.

None of this holds of a schema with a field in the place of either comparison, nor of a record
around one that was altered (`exists_agreement_not_equality`).
-/

namespace DmxNet

/-- No field stands in the place of what records are asked for when they are compared. -/
structure Schema.Comparable (s : Schema) : Prop where
  agree : Action.agree.ofRecord s.fields = .ok ()
  compare : Action.compare.ofType s.fields = .ok ()

/-- A schema is comparable if its fields bear neither of the names that count. -/
theorem Schema.comparable_of_names {s : Schema}
    (h : ∀ a ∈ [Action.agree, Action.compare], ∀ f ∈ s.fields, f.bears a = false) :
    s.Comparable :=
  ⟨Action.ofRecord_eq_ok (h .agree (by simp)), Action.ofType_eq_ok (h .compare (by simp))⟩

/-! ### Lengths -/

mutual

/-- Each length in a value is unparsed, or a whole number was parsed into it. -/
def Value.LengthsParsed : Value → Prop
  | .length u => u.Parsed
  | .record _ vs => AllLengthsParsed vs
  | _ => True

/-- Each length in each of the values is unparsed, or a whole number was parsed into it. -/
def AllLengthsParsed : List Value → Prop
  | [] => True
  | v :: vs => v.LengthsParsed ∧ AllLengthsParsed vs

end

mutual

/-- Lengths in the same place of two values were both parsed, or neither of them. -/
def Value.LengthsMatch : Value → Value → Prop
  | .length u, .length v => u = .none ↔ v = .none
  | .record _ vs, .record _ ws => AllLengthsMatch vs ws
  | _, _ => True

/-- Lengths in the same place of values side by side were both parsed, or neither of them. -/
def AllLengthsMatch : List Value → List Value → Prop
  | v :: vs, w :: ws => v.LengthsMatch w ∧ AllLengthsMatch vs ws
  | _, _ => True

end

/-- What was parsed into a length, if anything was into another. -/
def levelledLength : Value → Value → Value
  | _, .none => .none
  | u, _ => u

mutual

/-- A value levelled with another: each of its lengths is unparsed where that of the other is. -/
def Value.levelled : Value → Value → Value
  | .length u, .length v => .length (levelledLength u v)
  | .record s vs, .record _ ws => .record s (levelledAll vs ws)
  | v, _ => v

/-- Values levelled with others, side by side. -/
def levelledAll : List Value → List Value → List Value
  | v :: vs, w :: ws => v.levelled w :: levelledAll vs ws
  | vs, _ => vs

end

@[simp] theorem levelledLength_none (u : Value) : levelledLength u .none = .none := rfl

@[simp] theorem none_levelledLength (v : Value) : levelledLength .none v = .none := by
  unfold levelledLength
  split <;> rfl

theorem levelledLength_of_ne {v : Value} (h : v ≠ .none) (u : Value) : levelledLength u v = u := by
  unfold levelledLength
  split
  · contradiction
  · rfl

/-! ### Scalars -/

section

variable {s t : Scalar}

/-- Numbers, bytes and Port-Addresses: what fields hold that are compared as they are. -/
def Scalar.Plain : Scalar → Prop
  | .int _ | .bytes _ | .port _ => True
  | _ => False

/-- Scalars of that kind are equal if they are the same. -/
theorem Scalar.equals_of_plain (hs : s.Plain) (ht : t.Plain) : s.equals t = decide (s = t) := by
  cases s <;> cases hs <;> cases t <;> cases ht <;>
    simp [equals, whole?, beq_eq_decide]

end

/-! ### Comparing from both sides -/

/-- Values in a field are compared: whether they agree, from either side, and whether they are alike
when levelled with each other. -/
structure Codec.Compares (c : Codec) (v w : Value) (same : Bool) : Prop where
  agree : c.agree v w = .ok same
  agree_swap : c.agree w v = .ok same
  levelled : (v.levelled w).askAlike (w.levelled v) = .ok same

/-- Values of fields are compared, side by side. -/
structure FieldsCompare (fs : List Field) (vs ws : List Value) (same : Bool) : Prop where
  agree : agreeAll fs vs ws = .ok same
  agree_swap : agreeAll fs ws vs = .ok same
  levelled : askAllAlike (levelledAll vs ws) (levelledAll ws vs) = .ok same

section

variable {c : Codec} {s t : Scalar}

/-- A codec that compares scalars as they are. -/
theorem Codec.compares_of_plain
    (h : c.agree (.scalar s) (.scalar t) = .ok (s.equals t))
    (h' : c.agree (.scalar t) (.scalar s) = .ok (t.equals s)) (hs : s.Plain) (ht : t.Plain) :
    c.Compares (.scalar s) (.scalar t) (decide (s = t)) := by
  have hst := Scalar.equals_of_plain hs ht
  refine ⟨?_, ?_, ?_⟩
  · rw [h, hst]
  · rw [h', Scalar.equals_of_plain ht hs, decide_eq_decide.mpr eq_comm]
  · change (Value.scalar s).askAlike (.scalar t) = _
    rw [Value.askAlike_scalar, ← hst]
    cases s with
    | float x => cases hs
    | _ => rfl

/-- Lengths of which one is unparsed agree, and levelled they are both unparsed. -/
theorem Codec.compares_unparsed {u v : Value} (h : u = .none ∨ v = .none) :
    Codec.length.Compares (.length u) (.length v) true := by
  have hl : levelledLength u v = .none ∧ levelledLength v u = .none := by
    rcases h with rfl | rfl <;> simp
  have hu : lengthsAgree u v = .ok true ∧ lengthsAgree v u = .ok true := by
    rcases h with rfl | rfl <;> simp
  refine ⟨hu.1, hu.2, ?_⟩
  rw [Value.levelled, Value.levelled, hl.1, hl.2]
  rfl

/-- Lengths that whole numbers were parsed into are compared by these. -/
theorem Codec.compares_whole {m n : Int} (hs : s.whole? = some m) (ht : t.whole? = some n) :
    Codec.length.Compares (.length (.scalar s)) (.length (.scalar t)) (decide (m = n)) := by
  refine ⟨lengthsAgree_of_whole hs ht, ?_, ?_⟩
  · rw [decide_eq_decide.mpr eq_comm]
    exact lengthsAgree_of_whole ht hs
  · rw [Value.levelled, Value.levelled, levelledLength_of_ne (Scalar.ne_none_of_whole ht),
      levelledLength_of_ne (Scalar.ne_none_of_whole hs), Value.askAlike_length,
      Value.askAlike_scalar, Scalar.alike_of_whole hs ht]

theorem Codec.exists_compares_length {u v : Value} (hu : u.Parsed) (hv : v.Parsed) :
    ∃ same, Codec.length.Compares (.length u) (.length v) same := by
  rcases hu with rfl | ⟨m, hm⟩
  · exact ⟨true, compares_unparsed (.inl rfl)⟩
  rcases hv with rfl | ⟨n, hn⟩
  · exact ⟨true, compares_unparsed (.inr rfl)⟩
  obtain ⟨s, rfl, hs⟩ := Value.whole_eq_ok_iff.mp hm
  obtain ⟨t, rfl, ht⟩ := Value.whole_eq_ok_iff.mp hn
  exact ⟨decide (m = n), compares_whole hs ht⟩

theorem Codec.compares_payload (bs cs : Bytes) :
    Codec.payload.Compares (.payload (.bytes bs)) (.payload (.bytes cs)) (decide (bs = cs)) := by
  refine ⟨Value.askAlike_payload bs cs, ?_, Value.askAlike_payload bs cs⟩
  rw [decide_eq_decide.mpr eq_comm]
  exact Value.askAlike_payload cs bs

end

section

variable {fs : List Field} {vs ws : List Value} {same rest : Bool}

theorem fieldsCompare_nil : FieldsCompare [] [] [] true := ⟨rfl, rfl, rfl⟩

theorem FieldsCompare.cons {f : Field} {v w : Value} (hf : f.isDeclared = true)
    (h : f.codec.Compares v w same) (hs : FieldsCompare fs vs ws rest) :
    FieldsCompare (f :: fs) (v :: vs) (w :: ws) (same && rest) :=
  ⟨agreeAll_cons hf h.agree hs.agree, agreeAll_cons hf h.agree_swap hs.agree_swap,
    askAllAlike_cons h.levelled hs.levelled⟩

end

section

variable {s t : Schema} {vs ws : List Value}

/-- Records of one schema are compared by their fields. -/
theorem Value.agrees_record (hs : s.Comparable) :
    (Value.record s vs).agrees (.record s ws) = agreeAll s.fields vs ws := by
  rw [Value.agrees, hs.agree]
  exact if_pos rfl

/-- Records of other schemas do not agree, and are not equal. -/
theorem Value.agrees_record_of_ne (hs : s.Comparable) (hne : s ≠ t) :
    (Value.record s vs).agrees (.record t ws) = .ok false := by
  rw [Value.agrees, hs.agree]
  exact if_neg hne

theorem Value.askAlike_record_of_ne (hs : s.Comparable) (ht : t.Comparable) (hne : s ≠ t) :
    (Value.record s vs).askAlike (.record t ws) = .ok false := by
  rw [Value.askAlike, hs.compare]
  change (if s = t then _ else _) = _
  rw [if_neg hne, ht.compare]
  rfl

theorem FieldsCompare.record {same : Bool} (hs : s.Comparable)
    (h : FieldsCompare s.fields vs ws same) :
    (Codec.record s).Compares (.record s vs) (.record s ws) same := by
  refine ⟨?_, ?_, ?_⟩
  · exact (Value.agrees_record hs).trans h.agree
  · exact (Value.agrees_record hs).trans h.agree_swap
  · exact (Value.askAlike_record hs.compare _ _).trans h.levelled

end

theorem Codec.Holds.isDeclared {kind : Schema → Prop} {c : Codec} {v : Value}
    (h : c.Holds kind v) : c.isDeclared = true := by
  cases h <;> rfl

mutual

/-- Values of kinds that a codec writes can be compared. -/
theorem Codec.Holds.exists_compares {c : Codec} {v w : Value} :
    c.Holds Schema.Comparable v → c.Holds Schema.Comparable w → v.LengthsParsed →
      w.LengthsParsed → ∃ same, c.Compares v w same
  | .uint _ _ _, .uint _ _ _, _, _ =>
    ⟨_, Codec.compares_of_plain rfl rfl trivial trivial⟩
  | .fixed _ _, .fixed _ _, _, _ =>
    ⟨_, Codec.compares_of_plain rfl rfl trivial trivial⟩
  | .port _, .port _, _, _ =>
    ⟨_, Codec.compares_of_plain rfl rfl trivial trivial⟩
  | .length _, .length _, hu, hv => Codec.exists_compares_length hu hv
  | .payload bs, .payload cs, _, _ => ⟨_, Codec.compares_payload bs cs⟩
  | .record clear hv, .record _ hw, pv, pw => by
    obtain ⟨same, h⟩ := hv.exists_compare hw pv pw
    exact ⟨same, h.record clear⟩

theorem FieldsHold.exists_compare {fs : List Field} {vs ws : List Value} :
    FieldsHold Schema.Comparable fs vs → FieldsHold Schema.Comparable fs ws →
      AllLengthsParsed vs → AllLengthsParsed ws → ∃ same, FieldsCompare fs vs ws same
  | .nil, .nil, _, _ => ⟨true, fieldsCompare_nil⟩
  | .cons hv hvs, .cons hw hws, pv, pw => by
    obtain ⟨same, h⟩ := hv.exists_compares hw pv.1 pw.1
    obtain ⟨rest, hs⟩ := hvs.exists_compare hws pv.2 pw.2
    exact ⟨same && rest, hs.cons hv.isDeclared h⟩

end

/-! ### Equality -/

mutual

/-- Levelling changes nothing where lengths match. -/
theorem Codec.Holds.levelled_eq {kind : Schema → Prop} {c : Codec} {v w : Value} :
    c.Holds kind v → c.Holds kind w → v.LengthsMatch w → v.levelled w = v ∧ w.levelled v = w
  | .uint _ _ _, .uint _ _ _, _ | .fixed _ _, .fixed _ _, _ | .port _, .port _, _
  | .payload _, .payload _, _ => ⟨rfl, rfl⟩
  | .length u, .length v, hm => by
    have heq {u v : Value} (h : v = .none → u = .none) : levelledLength u v = u := by
      by_cases hv : v = .none
      · rw [hv, h hv]
        rfl
      · exact levelledLength_of_ne hv u
    exact ⟨congrArg Value.length (heq hm.mpr), congrArg Value.length (heq hm.mp)⟩
  | @Codec.Holds.record _ s _ _ hv, .record _ hw, hm =>
    have h := hv.levelledAll_eq hw hm
    ⟨congrArg (Value.record s) h.1, congrArg (Value.record s) h.2⟩

theorem FieldsHold.levelledAll_eq {kind : Schema → Prop} {fs : List Field} {vs ws : List Value} :
    FieldsHold kind fs vs → FieldsHold kind fs ws → AllLengthsMatch vs ws →
      levelledAll vs ws = vs ∧ levelledAll ws vs = ws
  | .nil, .nil, _ => ⟨rfl, rfl⟩
  | .cons hv hvs, .cons hw hws, hm =>
    have h := hv.levelled_eq hw hm.1
    have hs := hvs.levelledAll_eq hws hm.2
    ⟨congrArg₂ List.cons h.1 hs.1, congrArg₂ List.cons h.2 hs.2⟩

end

mutual

/-- Lengths match in values that are alike. -/
theorem Codec.Holds.lengthsMatch {c : Codec} {v w : Value} :
    c.Holds Schema.Comparable v → c.Holds Schema.Comparable w → v.LengthsParsed →
      w.LengthsParsed → v.askAlike w = .ok true → v.LengthsMatch w
  | .uint _ _ _, .uint _ _ _, _, _, _ | .fixed _ _, .fixed _ _, _, _, _
  | .port _, .port _, _, _, _ | .payload _, .payload _, _, _, _ => trivial
  | .length _, .length _, hu, hv, h => hu.eq_none_iff hv ((Value.askAlike_length _ _).symm.trans h)
  | .record clear hv, .record _ hw, pv, pw, h =>
    hv.allLengthsMatch hw pv pw ((Value.askAlike_record clear.compare _ _).symm.trans h)

theorem FieldsHold.allLengthsMatch {fs : List Field} {vs ws : List Value} :
    FieldsHold Schema.Comparable fs vs → FieldsHold Schema.Comparable fs ws →
      AllLengthsParsed vs → AllLengthsParsed ws → askAllAlike vs ws = .ok true →
      AllLengthsMatch vs ws
  | .nil, .nil, _, _, _ => trivial
  | .cons hv hvs, .cons hw hws, pv, pw, h =>
    have h := askAllAlike_cons_eq_true h
    ⟨hv.lengthsMatch hw pv.1 pw.1 h.1, hvs.allLengthsMatch hws pv.2 pw.2 h.2⟩

end

mutual

/-- A value is alike itself. -/
theorem Codec.Holds.askAlike_self {c : Codec} {v : Value} :
    c.Holds Schema.Comparable v → v.LengthsParsed → v.askAlike v = .ok true
  | .uint _ _ _, _ | .fixed _ _, _ | .port _, _ | .payload _, _ =>
    Value.askAlike_self (by simp)
  | .length _, hu => (Value.askAlike_length _ _).trans hu.askAlike_self
  | .record clear hv, pv => (Value.askAlike_record clear.compare _ _).trans (hv.askAllAlike_self pv)

theorem FieldsHold.askAllAlike_self {fs : List Field} {vs : List Value} :
    FieldsHold Schema.Comparable fs vs → AllLengthsParsed vs → askAllAlike vs vs = .ok true
  | .nil, _ => rfl
  | .cons hv hvs, pv => askAllAlike_cons (hv.askAlike_self pv.1) (hvs.askAllAlike_self pv.2)

end

/-! ### Records -/

section

variable {s t : Schema} {a b : Value}

/-- Records of one schema agree if they are alike when levelled with each other. -/
theorem Codec.Holds.agrees_eq_levelled (ha : (Codec.record s).Holds Schema.Comparable a)
    (hb : (Codec.record s).Holds Schema.Comparable b) (pa : a.LengthsParsed)
    (pb : b.LengthsParsed) :
    ∃ same, a.agrees b = .ok same ∧ b.agrees a = .ok same ∧
      (a.levelled b).askEquals (b.levelled a) = .ok same := by
  obtain ⟨same, h⟩ := ha.exists_compares hb pa pb
  cases ha with
  | record _ _ =>
    cases hb with
    | record _ _ => exact ⟨same, h.agree, h.agree_swap, h.levelled⟩

/-- Records that are equal agree, since their lengths match. -/
theorem Codec.Holds.lengthsMatch_of_askEquals (ha : (Codec.record s).Holds Schema.Comparable a)
    (hb : (Codec.record s).Holds Schema.Comparable b) (pa : a.LengthsParsed) (pb : b.LengthsParsed)
    (h : a.askEquals b = .ok true) : a.LengthsMatch b := by
  refine ha.lengthsMatch hb pa pb ?_
  cases ha with
  | record _ _ => exact h

/-- Agreement of records in which lengths match is equality. -/
theorem Codec.Holds.agrees_eq_askEquals (ha : (Codec.record s).Holds Schema.Comparable a)
    (hb : (Codec.record s).Holds Schema.Comparable b) (pa : a.LengthsParsed) (pb : b.LengthsParsed)
    (hm : a.LengthsMatch b) : a.agrees b = a.askEquals b := by
  obtain ⟨same, hab, -, hl⟩ := ha.agrees_eq_levelled hb pa pb
  obtain ⟨hva, hvb⟩ := ha.levelled_eq hb hm
  rw [hva, hvb] at hl
  rw [hab, hl]

/-- A record agrees with itself. -/
theorem Codec.Holds.agrees_self (ha : (Codec.record s).Holds Schema.Comparable a)
    (pa : a.LengthsParsed) : a.agrees a = .ok true := by
  have hself := ha.askAlike_self pa
  rw [ha.agrees_eq_askEquals ha pa pa (ha.lengthsMatch ha pa pa hself)]
  cases ha with
  | record _ _ => exact hself

/-- Records of other schemas neither agree nor are equal, levelled or not. -/
theorem Codec.Holds.differ (ha : (Codec.record s).Holds Schema.Comparable a)
    (hb : (Codec.record t).Holds Schema.Comparable b) (hne : s ≠ t) :
    a.agrees b = .ok false ∧ b.agrees a = .ok false ∧ a.askEquals b = .ok false := by
  cases ha with
  | record hs _ =>
    cases hb with
    | record ht _ =>
      exact ⟨Value.agrees_record_of_ne hs hne, Value.agrees_record_of_ne ht hne.symm,
        Value.askAlike_record_of_ne hs ht hne⟩

/-- **Agreement is equality up to unparsed lengths.** Two composed records of wired and comparable
schemas, in which each length is unparsed or a whole number, agree exactly if their schemas are the
same and they are equal when levelled with each other. So each agrees with itself, both agree or
neither does, they agree if they are equal, and where lengths match agreement is equality. -/
theorem agrees_up_to_unparsed_lengths (hs : (Codec.record s).Wired Schema.Comparable)
    (ht : (Codec.record t).Wired Schema.Comparable) (ha : Composed s a) (hb : Composed t b)
    (pa : a.LengthsParsed) (pb : b.LengthsParsed) :
    Answers (a.agrees b) (s = t ∧ (a.levelled b).askEquals (b.levelled a) = .ok true) ∧
      a.agrees a = .ok true ∧
      a.agrees b = b.agrees a ∧
      (a.askEquals b = .ok true → a.agrees b = .ok true) ∧
      (a.LengthsMatch b → a.agrees b = a.askEquals b) := by
  obtain ⟨vs, rfl, hva⟩ := ha.keeps
  obtain ⟨ws, rfl, hwb⟩ := hb.keeps
  have ka := hs.holds (.record hva) (.refl _ _)
  have kb := ht.holds (.record hwb) (.refl _ _)
  by_cases hst : s = t
  · subst hst
    obtain ⟨same, hab, hba, hl⟩ := ka.agrees_eq_levelled kb pa pb
    refine ⟨⟨same, hab, ?_⟩, ka.agrees_self pa, hab.trans hba.symm, fun h => ?_, ?_⟩
    · simp [hl]
    · rw [ka.agrees_eq_askEquals kb pa pb (ka.lengthsMatch_of_askEquals kb pa pb h), h]
    · exact ka.agrees_eq_askEquals kb pa pb
  · obtain ⟨hab, hba, he⟩ := ka.differ kb hst
    refine ⟨⟨false, hab, by simp [hst]⟩, ka.agrees_self pa, hab.trans hba.symm, fun h => ?_, ?_⟩
    · cases he.symm.trans h
    · intro _
      exact hab.trans he.symm

end

/-! ### A relay that was read, and one that was not -/

theorem levelsSchema_comparable : (Codec.record levelsSchema).Wired Schema.Comparable :=
  .record (Schema.comparable_of_names (by decide)) <| .cons .length <| .cons .payload .nil

theorem relaySchema_comparable : (Codec.record relaySchema).Wired Schema.Comparable :=
  .record (Schema.comparable_of_names (by decide)) <| .cons .length <|
    .cons levelsSchema_comparable <| .cons (.uint 1 .big) <| .cons .payload .nil

/-- A relay whose inner length was read. -/
def relayedRead : Value :=
  .record relaySchema [.length .none,
    .record levelsSchema [.length (.int 9), .payload (.bytes [1, 2, 3])], .int 1,
    .payload (.bytes [9, 9, 9, 9, 9])]

theorem composed_relayedRead : Composed relaySchema relayedRead := by
  have hl : (Value.record levelsSchema [.length (.int 9), .payload (.bytes [1, 2, 3])]).Fresh :=
    .cons (.length (.int 9)) <| .cons (.payload [1, 2, 3]) .nil
  refine ⟨[("inner", .record levelsSchema [.length (.int 9), .payload (.bytes [1, 2, 3])]),
    ("hop", .int 1), ("data", .bytes [9, 9, 9, 9, 9])], ?_, rfl⟩
  simp only [List.forall_mem_cons]
  exact ⟨hl, trivial, trivial, by simp⟩

theorem lengthsParsed_relayed : (relayed 1).LengthsParsed ∧ relayedRead.LengthsParsed :=
  ⟨⟨.inl rfl, ⟨.inl rfl, trivial, trivial⟩, trivial, trivial, trivial⟩,
    ⟨.inl rfl, ⟨.inr ⟨9, rfl⟩, trivial, trivial⟩, trivial, trivial, trivial⟩⟩

/-- The two agree but are not equal, and so their lengths do not match. -/
theorem agrees_up_to_unparsed_lengths_relayed :
    (relayed 1).agrees relayedRead = .ok true ∧ relayedRead.agrees (relayed 1) = .ok true ∧
      (relayed 1).askEquals relayedRead = .ok false ∧ ¬ (relayed 1).LengthsMatch relayedRead := by
  obtain ⟨⟨same, hab, hiff⟩, -, hswap, -, hmatch⟩ :=
    agrees_up_to_unparsed_lengths relaySchema_comparable relaySchema_comparable composed_relayed
      composed_relayedRead lengthsParsed_relayed.1 lengthsParsed_relayed.2
  obtain rfl : same = true := hiff.mpr ⟨rfl, rfl⟩
  have hne : (relayed 1).askEquals relayedRead = .ok false := rfl
  refine ⟨hab, hswap.symm.trans hab, hne, ?_⟩
  intro hm
  rw [hmatch hm, hne] at hab
  cases hab

/-! ### Agreement that is not equality -/

/-- A number that stands in the place of being compared across a round trip. -/
def mutedSchema : Schema :=
  { tag := 4, name := "Muted", fields := [⟨"equal_for_testing", .uint 1 .big, none⟩] }

/-- A number, with a default, that stands in the place of being compared. -/
def aloofSchema : Schema :=
  { tag := 5, name := "Aloof", fields := [⟨"__eq__", .uint 1 .big, some (.int 1)⟩] }

theorem watchSchema_comparable : (Codec.record watchSchema).Wired Schema.Comparable :=
  .record (Schema.comparable_of_names (by decide)) <|
    .cons (.record (Schema.comparable_of_names (by decide)) <|
      .cons (.fixed 2) <| .cons (.uint 1 .big) <| .cons (.uint 1 .big) <| .cons (.uint 1 .big) <|
      .cons (.uint 1 .big) <| .cons (.uint 1 .big) <| .cons (.uint 1 .big) <|
      .cons (.uint 1 .big) .nil) .nil

/-- Of a schema with a field in the place of either comparison, a record need not agree with itself
though it equals itself, or cannot be told equal to itself though it agrees. And of any schema that
nests, a record need not agree with itself if what was set in the record that it nests does not
equal itself: equality takes it for one and the same. -/
theorem exists_agreement_not_equality :
    (∃ s v, (Codec.record s).Wired (fun _ => True) ∧ Composed s v ∧ v.LengthsParsed ∧
      v.askEquals v = .ok true ∧ v.agrees v = .error .mismatch) ∧
    (∃ s v, (Codec.record s).Wired (fun _ => True) ∧ Composed s v ∧ v.LengthsParsed ∧
      v.agrees v = .ok true ∧ (v.levelled v).askEquals (v.levelled v) = .error .mismatch) ∧
    ∃ (t : Value) (w : Workbench) (v : Value), Packet.timecode.make [] = .ok t ∧
      (Workbench.put t).set "frames" (.value (.float (.nan 0))) = .ok w ∧
      (Codec.record watchSchema).Wired Schema.Comparable ∧
      watchSchema.make [("clock", w.value)] = .ok v ∧ v.LengthsParsed ∧
      v.askEquals v = .ok true ∧ v.agrees v = .ok false := by
  refine ⟨?_, ?_, ?_⟩
  · refine ⟨mutedSchema, .record mutedSchema [.int 1], .record trivial (.cons (.uint 1 .big) .nil),
      ⟨[("equal_for_testing", .int 1)], ?_, rfl⟩, ⟨trivial, trivial⟩, rfl, rfl⟩
    simp only [List.forall_mem_cons]
    exact ⟨trivial, by simp⟩
  · exact ⟨aloofSchema, .record aloofSchema [.int 1], .record trivial (.cons (.uint 1 .big) .nil),
      ⟨[], by simp, rfl⟩, ⟨trivial, trivial⟩, rfl, rfl⟩
  · refine ⟨_, _, _, rfl, rfl, watchSchema_comparable, make_watch _, ⟨?_, trivial⟩, rfl, rfl⟩
    exact ⟨trivial, trivial, trivial, trivial, trivial, trivial, trivial, trivial, trivial⟩

end DmxNet
