import DmxNet.Proofs.Schema.Fixed

/-!
# Values and the bytes that carry them

A codec of known width carries each value that it keeps as bytes (`Codec.Carries`). This is a
relation of its own, told without writing or reading, and both meet in it: the bytes are what is
written of the value (`Codec.Carries.appends`), and where they stand the value is what is read
(`Codec.Carries.takes`). Nothing is asked of the schemas in it but what coercing, reading, writing
and comparing their records ask (`Schema.Responds`), and that records could be made of them at all.
-/

namespace DmxNet

/-- No field stands in the place of what a record or its type is asked for when it is coerced, read,
written or compared. -/
structure Schema.Responds (s : Schema) : Prop where
  coerce : Action.coerce.ofType s.fields = .ok ()
  parse : Action.parse.ofType s.fields = .ok ()
  write : Action.write.ofRecord s.fields = .ok ()
  compare : Action.compare.ofType s.fields = .ok ()

theorem Schema.Clear.responds {s : Schema} (h : s.Clear) : s.Responds :=
  ⟨h.coerce, h.parse, h.write, h.compare⟩

mutual

/-- A value that a codec keeps, and the bytes that carry it. -/
inductive Codec.Carries : Codec → Value → Bytes → Prop where
  /-- A number that fits, the most significant byte first. -/
  | big {size n : Nat} :
    n ≤ maxOfWidth size → Codec.Carries (.uint size .big) (.int n) (bigBytes size n)
  /-- A number that fits, the least significant byte first. -/
  | little {size n : Nat} :
    n ≤ maxOfWidth size → Codec.Carries (.uint size .little) (.int n) (littleBytes size n)
  /-- Bytes are carried as they are. -/
  | fixed {size : Int} {bs : Bytes} :
    (bs.length : Int) = size → Codec.Carries (.fixed size) (.bytes bs) bs
  /-- A Port-Address, the low byte first. -/
  | port (p : PortAddress) : Codec.Carries .port (.port p) (littleBytes 2 p.value)
  /-- A record that could be made is carried by the bytes of its fields. -/
  | record {s : Schema} {vs : List Value} {bs : Bytes} :
    s.Responds → Action.making s.fields = .ok () → FieldsCarry s.fields vs bs →
      Codec.Carries (.record s) (.record s vs) bs

/-- The values of fields, and the bytes that carry them one after another. -/
inductive FieldsCarry : List Field → List Value → Bytes → Prop where
  /-- No values and no bytes. -/
  | nil : FieldsCarry [] [] []
  /-- The first value and its bytes, and the others. -/
  | cons {f : Field} {fs : List Field} {v : Value} {vs : List Value} {bs cs : Bytes} :
    f.codec.Carries v bs → FieldsCarry fs vs cs → FieldsCarry (f :: fs) (v :: vs) (bs ++ cs)

end

mutual

/-- What has bytes by a codec of fixed size is carried by them. -/
theorem Codec.Encodes.carries {c : Codec} {v : Value} {bs : Bytes} :
    c.Encodes v bs → c.Carries v bs
  | .big hn => .big hn
  | .little hn => .little hn
  | .fixed hb => .fixed hb
  | .port p => .port p
  | .record clear h => .record clear.responds clear.making h.carry

theorem FieldsEncode.carry {fs : List Field} {vs : List Value} {bs : Bytes} :
    FieldsEncode fs vs bs → FieldsCarry fs vs bs
  | .nil => .nil
  | .cons hv hvs => .cons hv.carries hvs.carry

end

/-! ### What is carried is kept -/

mutual

/-- A value that is carried is one that its codec keeps. -/
theorem Codec.Carries.keeps {c : Codec} {v : Value} {bs : Bytes} : c.Carries v bs → c.Keeps v
  | .big hn => .uint hn
  | .little hn => .uint hn
  | .fixed hb => .fixed hb
  | .port p => .port p
  | .record _ _ h => .record h.keep

theorem FieldsCarry.keep {fs : List Field} {vs : List Value} {bs : Bytes} :
    FieldsCarry fs vs bs → FieldsKeep fs vs
  | .nil => .nil
  | .cons hv hvs => .cons hv.keeps hvs.keep

end

/-- A schema whose records are carried can be asked to coerce. -/
theorem Codec.Carries.ask {c : Codec} {v : Value} {bs : Bytes} (h : c.Carries v bs) :
    ∀ s, c = .record s → Action.coerce.ofType s.fields = .ok () := by
  rintro s rfl
  cases h with
  | record responds _ _ => exact responds.coerce

/-- A value is coerced to itself by a codec that carries it. -/
theorem Codec.Carries.coerce_eq {c : Codec} {v : Value} {bs : Bytes} (h : c.Carries v bs) :
    c.coerce v = .ok v :=
  Codec.coerce_of_keeps h.keeps h.ask

theorem FieldsCarry.ask {fs : List Field} {vs : List Value} {bs : Bytes}
    (h : FieldsCarry fs vs bs) :
    ∀ f ∈ fs, ∀ s, f.codec = .record s → Action.coerce.ofType s.fields = .ok () := by
  induction fs generalizing vs bs with
  | nil => simp
  | cons f fs ih =>
    cases h with
    | cons hv hvs => exact List.forall_mem_cons.mpr ⟨hv.ask, ih hvs⟩

mutual

/-- A value is carried by as many bytes as its codec's leaves make. -/
theorem Codec.Carries.length_eq {c : Codec} {v : Value} {bs : Bytes} :
    c.Carries v bs → bs.length = widthOf c.leaves
  | .big _ => by simp [Codec.leaves, Codec.leafWidth]
  | .little _ => by simp [Codec.leaves, Codec.leafWidth]
  | .fixed hb => by
    simp only [Codec.leaves, Codec.leafWidth, widthOf_cons, widthOf_nil]
    omega
  | .port p => by simp [Codec.leaves, Codec.leafWidth]
  | .record _ _ h => by rw [Codec.leaves, Schema.leaves_eq, h.length_eq]

theorem FieldsCarry.length_eq {fs : List Field} {vs : List Value} {bs : Bytes} :
    FieldsCarry fs vs bs → bs.length = widthOf (leavesOf fs)
  | .nil => rfl
  | .cons hv hvs => by
    rw [leavesOf_cons, widthOf_append, List.length_append, hv.length_eq, hvs.length_eq]

end

/-! ### Writing -/

/-- A writing that appends certain bytes to whatever is in the buffer. -/
def Writer.Appends (w : Writer Unit) (bs : Bytes) : Prop :=
  ∀ buffer, w.run buffer = (.ok (), buffer ++ bs)

theorem Writer.appends_appendFrom (bs : Bytes) : (Writer.appendFrom (.ok bs)).Appends bs :=
  run_appendFrom_ok bs

/-- One writing after another appends the bytes of both. -/
theorem Writer.Appends.bind {w w' : Writer Unit} {bs cs : Bytes} (h : w.Appends bs)
    (h' : w'.Appends cs) : (w >>= fun _ => w').Appends (bs ++ cs) := by
  intro buffer
  rw [Procedure.run_bind, h buffer]
  dsimp only
  rw [h', List.append_assoc]

mutual

/-- A value is written as the bytes that carry it, whatever is beside it. -/
theorem Codec.Carries.appends {c : Codec} {v : Value} {bs : Bytes} (beside : Option Value) :
    c.Carries v bs → (c.write v beside).Appends bs
  | .big hn => by
    rw [Codec.write, Codec.writeWith, Value.asNumberBytes, numberBytes_big hn]
    exact Writer.appends_appendFrom _
  | .little hn => by
    rw [Codec.write, Codec.writeWith, Value.asNumberBytes, numberBytes_little hn]
    exact Writer.appends_appendFrom _
  | .fixed _ => Writer.appends_appendFrom _
  | .port _ => Writer.appends_appendFrom _
  | .record responds _ h => by
    rw [Codec.write, Codec.writeWith, Value.write, responds.write]
    exact h.appends _

theorem FieldsCarry.appends {fs : List Field} {vs : List Value} {bs : Bytes}
    (beside : Option Value) : FieldsCarry fs vs bs → (writeAll fs vs beside).Appends bs
  | .nil => fun buffer => by simp [writeAll]
  | .cons hv hvs => by
    rw [writeAll]
    exact (hv.appends beside).bind (hvs.appends beside)

end

/-! ### Reading -/

/-- A reading that takes certain bytes, wherever they stand and whatever comes after them, and
answers something for them. -/
def Reader.Takes {α : Type} (p : Reader α) (bs : Bytes) (a : α) : Prop :=
  ∀ (data tail : Bytes) (start : Nat), start ≤ data.length → data.drop start = bs ++ tail →
    p.run (.after data start) = (.ok a, .after data (start + bs.length))

/-- What a part denotes is read where its bytes stand. -/
theorem Codec.takes_part {c : Codec} {q : Part} {v : Value} {bs : Bytes} (hq : c.part? = some q)
    (hw : q.width = bs.length) (hv : q.denote bs = .ok v) : c.read.Takes bs v := by
  intro data tail start hs hd
  have hl : q.width ≤ (bs ++ tail).length := by simp [hw]
  rw [Codec.run_read hq hs, hd, Part.take_of_le hl, hw, List.take_left, hv]

theorem takes_readAll_nil : (readAll []).Takes [] [] := fun _ _ _ _ _ => rfl

section

variable {f : Field} {fs : List Field} {v : Value} {vs : List Value} {bs cs : Bytes}

/-- The first value is taken, and the others are read behind it. -/
theorem run_readAll_cons {data : Bytes} {start : Nat} (tail : Bytes) (h : f.codec.read.Takes bs v)
    (hs : ∀ next, next ≤ data.length → data.drop next = cs ++ tail →
      (readAll fs).run (.after data next) = (.ok vs, .after data (next + cs.length)))
    (hstart : start ≤ data.length) (hd : data.drop start = bs ++ cs ++ tail) :
    (readAll (f :: fs)).run (.after data start) =
      (.ok (v :: vs), .after data (start + (bs ++ cs).length)) := by
  have hl : bs.length + cs.length ≤ data.length - start := by
    have := congrArg List.length hd
    simp only [List.length_drop, List.length_append] at this
    omega
  have hc : data.drop (start + bs.length) = cs ++ tail := by
    rw [← List.drop_drop, hd, List.append_assoc, List.drop_left]
  rw [List.append_assoc] at hd
  rw [readAll_cons, Procedure.run_bind, h _ _ _ hstart hd]
  dsimp only
  rw [Procedure.run_bind, hs _ (by omega) hc]
  simp [Nat.add_assoc]

/-- The values of fields are taken one after another. -/
theorem takes_readAll_cons (h : f.codec.read.Takes bs v) (hs : (readAll fs).Takes cs vs) :
    (readAll (f :: fs)).Takes (bs ++ cs) (v :: vs) :=
  fun data tail _ => run_readAll_cons tail h (hs data tail)

end

/-- The values that fields keep are taken for the record of them. -/
theorem Schema.takes_fields {s : Schema} {vs : List Value} {bs : Bytes}
    (ask : Action.parse.ofType s.fields = .ok ()) (h : (readAll s.fields).Takes bs vs)
    (compose : s.compose vs = .ok (.record s vs)) : s.read.Takes bs (.record s vs) := by
  intro data tail start hs hd
  exact (Schema.run_read_eq_ok ask).mpr ⟨vs, h data tail start hs hd, compose⟩

mutual

/-- The bytes that carry a value are taken for it. -/
theorem Codec.Carries.takes {c : Codec} {v : Value} {bs : Bytes} :
    c.Carries v bs → c.read.Takes bs v
  | @Codec.Carries.big size n hn => by
    refine Codec.takes_part rfl (by simp) ?_
    change Except.ok (Value.int (bigValue (bigBytes size n))) = _
    rw [bigValue_bigBytes_of_lt (le_maxOfWidth_iff.mp hn)]
  | @Codec.Carries.little size n hn => by
    refine Codec.takes_part rfl (by simp) ?_
    change Except.ok (Value.int (littleValue (littleBytes size n))) = _
    rw [littleValue_littleBytes_of_lt (le_maxOfWidth_iff.mp hn)]
  | @Codec.Carries.fixed size bs hb =>
    Codec.takes_part (if_neg (by omega)) (by dsimp only; omega) rfl
  | .port p => by
    have hp := p.value_le
    refine Codec.takes_part rfl (by simp) ?_
    change (PortAddress.ofValue (.int (littleValue (littleBytes 2 p.value)))).map _ = _
    rw [littleValue_littleBytes_of_lt (by omega), PortAddress.ofValue_of_eq rfl]
    rfl
  | .record responds making h => by
    rw [Codec.read]
    exact Schema.takes_fields responds.parse h.takes
      (Schema.compose_of_keep h.keep making h.ask)

theorem FieldsCarry.takes {fs : List Field} {vs : List Value} {bs : Bytes} :
    FieldsCarry fs vs bs → (readAll fs).Takes bs vs
  | .nil => takes_readAll_nil
  | .cons hv hvs => takes_readAll_cons hv.takes hvs.takes

end

/-- What is taken is read from among any other bytes. -/
theorem Reader.Takes.between {α : Type} {p : Reader α} {bs : Bytes} {a : α} (h : p.Takes bs a)
    (front tail : Bytes) :
    p.run ⟨front ++ bs ++ tail, front.length⟩ =
      (.ok a, ⟨front ++ bs ++ tail, front.length + bs.length⟩) := by
  have hd : (front ++ bs ++ tail).drop front.length = bs ++ tail := by
    rw [List.append_assoc, List.drop_left]
  exact h _ tail _ (by simp) hd

/-! ### Equality -/

mutual

/-- A value that is carried equals itself. -/
theorem Codec.Carries.askAlike_self {c : Codec} {v : Value} {bs : Bytes} :
    c.Carries v bs → v.askAlike v = .ok true
  | .big _ => Value.askAlike_self (by simp)
  | .little _ => Value.askAlike_self (by simp)
  | .fixed _ => Value.askAlike_self (by simp)
  | .port _ => Value.askAlike_self (by simp)
  | .record responds _ h =>
    (Value.askAlike_record responds.compare _ _).trans h.askAllAlike_self

theorem FieldsCarry.askAllAlike_self {fs : List Field} {vs : List Value} {bs : Bytes} :
    FieldsCarry fs vs bs → askAllAlike vs vs = .ok true
  | .nil => rfl
  | .cons hv hvs => askAllAlike_cons hv.askAlike_self hvs.askAllAlike_self

end

theorem Codec.Carries.askEquals_self {c : Codec} {v : Value} {bs : Bytes} :
    c.Carries v bs → v.askEquals v = .ok true
  | .big _ => Value.askEquals_self (by simp)
  | .little _ => Value.askEquals_self (by simp)
  | .fixed _ => Value.askEquals_self (by simp)
  | .port _ => Value.askEquals_self (by simp)
  | h@(.record _ _ _) => h.askAlike_self

end DmxNet
