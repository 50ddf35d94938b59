import DmxNet.Proofs.Bytes.Reading
import DmxNet.Schema.Parse

/-!
# Reading parts

The codecs of a known width read one part of a datagram each: a count of bytes and what these
denote (`Codec.part?`). The fields of a record that have such codecs are read as a walk over their
parts (`run_readAll_walk`): part by part, until one does not fit into what is left or is refused.
-/

namespace DmxNet

/-- A part of a datagram: how many bytes it has and what these denote. -/
structure Part where
  /-- How many bytes. -/
  width : Nat
  /-- What the bytes denote, if they are not refused. -/
  denote : Bytes → Except Fault Value

/-- The part that a codec reads, if it knows the width of it. -/
def Codec.part? : Codec → Option Part
  | .uint size order =>
    some ⟨size, fun bs => (orFault (.invalid .byteOrder) (order.decode? bs)).map fun n => .int n⟩
  | .fixed size => if size < 0 then none else some ⟨size.toNat, fun bs => .ok (.bytes bs)⟩
  | .port => some ⟨2, fun bs => (PortAddress.ofValue (.int (littleValue bs))).map .port⟩
  | .length => some ⟨2, fun bs => .ok (.length (.int (bigValue bs)))⟩
  | _ => none

namespace Part

/-- Takes a part from the start of some bytes: the outcome, and how many bytes were passed. -/
def take (q : Part) (bs : Bytes) : Except Fault Value × Nat :=
  if bs.length < q.width then (.error (.shortage q.width bs.length), 0)
  else (q.denote (bs.take q.width), q.width)

/-- Takes parts one after another from the start of some bytes; the first that fails ends it. -/
def walk : List Part → Bytes → Except Fault (List Value) × Nat
  | [], _ => (.ok [], 0)
  | q :: qs, bs =>
    match q.take bs with
    | (.ok v, n) => ((walk qs (bs.drop n)).1.map (v :: ·), n + (walk qs (bs.drop n)).2)
    | (.error fault, n) => (.error fault, n)

/-- A part that no bytes are refused for. -/
def Total (q : Part) : Prop := ∀ bs, ∃ v, q.denote bs = .ok v

variable {q : Part} {qs rs : List Part} {bs : Bytes} {v : Value} {fault : Fault}

theorem take_of_lt (h : bs.length < q.width) :
    q.take bs = (.error (.shortage q.width bs.length), 0) := by
  rw [take, if_pos h]

theorem take_of_le (h : q.width ≤ bs.length) :
    q.take bs = (q.denote (bs.take q.width), q.width) := by
  rw [take, if_neg (by omega)]

theorem walk_cons_of_lt (h : bs.length < q.width) :
    walk (q :: qs) bs = (.error (.shortage q.width bs.length), 0) := by
  rw [walk, take_of_lt h]

theorem walk_cons_refused (h : q.width ≤ bs.length)
    (hq : q.denote (bs.take q.width) = .error fault) :
    walk (q :: qs) bs = (.error fault, q.width) := by
  rw [walk, take_of_le h, hq]

theorem walk_cons_ok (h : q.width ≤ bs.length) (hq : q.denote (bs.take q.width) = .ok v) :
    walk (q :: qs) bs = ((walk qs (bs.drop q.width)).1.map (v :: ·),
      q.width + (walk qs (bs.drop q.width)).2) := by
  rw [walk, take_of_le h, hq]

theorem walk_append (qs rs : List Part) (bs : Bytes) :
    walk (qs ++ rs) bs =
      match walk qs bs with
      | (.ok vs, n) =>
        ((walk rs (bs.drop n)).1.map (vs ++ ·), n + (walk rs (bs.drop n)).2)
      | (.error fault, n) => (.error fault, n) := by
  induction qs generalizing bs with
  | nil =>
    change walk rs bs = ((walk rs bs).1.map ([] ++ ·), 0 + (walk rs bs).2)
    obtain ⟨_ | vs, n⟩ := walk rs bs <;> simp [Except.map]
  | cons q qs ih =>
    rw [List.cons_append]
    rcases Nat.lt_or_ge bs.length q.width with hl | hl
    · rw [walk_cons_of_lt hl, walk_cons_of_lt hl]
    cases hq : q.denote (bs.take q.width) with
    | error fault => rw [walk_cons_refused hl hq, walk_cons_refused hl hq]
    | ok v =>
      rw [walk_cons_ok hl hq, walk_cons_ok hl hq, ih]
      obtain ⟨_ | us, n⟩ := walk qs (bs.drop q.width)
      · rfl
      · simp only [Except.map, List.drop_drop, Nat.add_assoc]
        cases (walk rs (bs.drop (q.width + n))).1 <;> rfl

/-- A walk stays within the bytes. -/
theorem walk_le (qs : List Part) (bs : Bytes) : (walk qs bs).2 ≤ bs.length := by
  induction qs generalizing bs with
  | nil => exact Nat.zero_le _
  | cons q qs ih =>
    rcases Nat.lt_or_ge bs.length q.width with hl | hl
    · rw [walk_cons_of_lt hl]
      exact Nat.zero_le _
    cases hq : q.denote (bs.take q.width) with
    | error fault =>
      rw [walk_cons_refused hl hq]
      exact hl
    | ok v =>
      have hr := ih (bs.drop q.width)
      rw [List.length_drop] at hr
      rw [walk_cons_ok hl hq]
      dsimp only
      omega

/-! ### Parts that all fit -/

/-- What parts denote, one after another, without regard to whether they fit. -/
def denoteAll : List Part → Bytes → Except Fault (List Value)
  | [], _ => .ok []
  | q :: qs, bs => do
    let v ← q.denote (bs.take q.width)
    let vs ← denoteAll qs (bs.drop q.width)
    return v :: vs

/-- If all parts fit, a walk is what they denote, and passes all of them unless one is refused. -/
theorem walk_of_fit (h : (qs.map Part.width).sum ≤ bs.length) :
    (walk qs bs).1 = denoteAll qs bs ∧
      ∀ vs, denoteAll qs bs = .ok vs → (walk qs bs).2 = (qs.map Part.width).sum := by
  induction qs generalizing bs with
  | nil => exact ⟨rfl, fun _ _ => rfl⟩
  | cons q qs ih =>
    rw [List.map_cons, List.sum_cons] at h
    have hd : (qs.map Part.width).sum ≤ (bs.drop q.width).length := by
      rw [List.length_drop]
      omega
    obtain ⟨hv, hp⟩ := ih hd
    rw [denoteAll]
    cases hq : q.denote (bs.take q.width) with
    | error fault =>
      rw [walk_cons_refused (by omega) hq]
      exact ⟨rfl, fun vs hvs => by cases hvs⟩
    | ok v =>
      rw [walk_cons_ok (by omega) hq, hv]
      cases hd : denoteAll qs (bs.drop q.width) with
      | error fault => exact ⟨rfl, fun vs hvs => by cases hvs⟩
      | ok vs =>
        refine ⟨rfl, fun _ _ => ?_⟩
        rw [List.map_cons, List.sum_cons, hp vs hd]

/-- If all parts fit and none is refused, a walk passes all of them. -/
theorem walk_eq_of_fit (h : (qs.map Part.width).sum ≤ bs.length) {vs : List Value}
    (hd : denoteAll qs bs = .ok vs) : walk qs bs = (.ok vs, (qs.map Part.width).sum) := by
  obtain ⟨hv, hp⟩ := walk_of_fit h
  exact Prod.ext (hv.trans hd) (hp vs hd)

/-! ### The first width that does not fit -/

/-- The first of some widths that does not fit into a count of bytes, and what is left for it. -/
def shortfall : List Nat → Nat → Option (Nat × Nat)
  | [], _ => none
  | width :: widths, left =>
    if left < width then some (width, left) else shortfall widths (left - width)

/-- Some widths fit exactly if all of them together do. -/
theorem shortfall_eq_none_iff {widths : List Nat} {left : Nat} :
    shortfall widths left = none ↔ widths.sum ≤ left := by
  induction widths generalizing left with
  | nil => simp [shortfall]
  | cons width widths ih =>
    rw [shortfall, List.sum_cons]
    split_ifs with hw
    · have hn : ¬ width + widths.sum ≤ left := by omega
      exact iff_of_false not_false hn
    · rw [ih]
      omega

theorem mem_of_shortfall {widths : List Nat} {left width rest : Nat}
    (h : shortfall widths left = some (width, rest)) : width ∈ widths := by
  induction widths generalizing left with
  | nil => cases h
  | cons first widths ih =>
    rw [shortfall] at h
    split_ifs at h
    · cases h
      exact List.mem_cons_self
    · exact List.mem_cons_of_mem first (ih h)

theorem lt_of_shortfall {widths : List Nat} {left width rest : Nat}
    (h : shortfall widths left = some (width, rest)) : rest < width := by
  induction widths generalizing left with
  | nil => cases h
  | cons first widths ih =>
    rw [shortfall] at h
    split_ifs at h with hl
    · cases h
      exact hl
    · exact ih h

/-- Of widths with a few digits the first that does not fit can be told. -/
theorem shortage_of_shortfall {widths : List Nat} {left width rest : Nat}
    (h : shortfall widths left = some (width, rest)) (small : ∀ w ∈ widths, w < 65536) :
    Fault.shortage width rest = .endOfInput (.int width) (.int rest) :=
  Fault.shortage_of_lt (lt_of_shortfall h) (small width (mem_of_shortfall h))

/-- If all parts before the last take any bytes, a walk ends at the first part that does not fit. -/
theorem walk_of_shortfall (total : ∀ p ∈ qs, p.Total) {width left : Nat}
    (h : shortfall ((qs ++ [q]).map Part.width) bs.length = some (width, left)) :
    (walk (qs ++ q :: rs) bs).1 = .error (.shortage width left) := by
  induction qs generalizing bs with
  | nil =>
    have hq : bs.length < q.width := by
      by_contra hq
      simp [shortfall, hq] at h
    simp only [List.nil_append, List.map_cons, shortfall, if_pos hq, Option.some.injEq,
      Prod.mk.injEq] at h
    obtain ⟨rfl, rfl⟩ := h
    rw [List.nil_append, walk_cons_of_lt hq]
  | cons p ps ih =>
    rw [List.cons_append, List.map_cons, shortfall] at h
    split_ifs at h with hp
    · simp only [Option.some.injEq, Prod.mk.injEq] at h
      obtain ⟨rfl, rfl⟩ := h
      rw [List.cons_append, walk_cons_of_lt hp]
    · obtain ⟨v, hv⟩ := total p (by simp) (bs.take p.width)
      rw [← List.length_drop] at h
      rw [List.cons_append, walk_cons_ok (by omega) hv,
        ih (fun p hp => total p (by simp [hp])) h]
      rfl

end Part

/-! ### Port-Addresses -/

namespace PortAddress

theorem ofValue_of_eq {n : Nat} {port : PortAddress} (h : n = port.value) :
    ofValue (.int n) = .ok port := by
  have hp : (0 : Int) ≤ n ∧ (n : Int) ≤ 0x7FFF := by
    have := port.value_le
    omega
  have hv : ofInt? n = some port := by
    subst h
    rw [ofInt?, dif_pos hp]
    rfl
  change orFault _ (ofInt? n) = .ok port
  rw [hv]
  rfl

/-- The fault of a number that has no more than five digits shows it. -/
theorem rangeFault_of_lt {n : Nat} (h : n < 65536) (limit : Nat) :
    rangeFault (.int n) limit = .addressRange (.int n) (.int limit) := by
  rw [rangeFault, if_pos (Digits.writable_of_lt h)]

theorem ofValue_of_lt {n : Nat} (h : 0x7FFF < n) (h2 : n < 65536) :
    ofValue (.int n) = .error (.addressRange (.int n) (.int 0x7FFF)) := by
  have hv : ofInt? n = none := by
    rw [ofInt?, dif_neg (by omega)]
  change orFault (rangeFault (.int n) limit) (ofInt? n) = _
  rw [hv, rangeFault_of_lt h2]
  rfl

end PortAddress

/-! ### Codecs -/

variable {c : Codec} {q : Part} {data : Bytes} {passed : Nat}

/-- A number is read as its part. -/
theorem Cursor.run_readNumber_after (size : Nat) (order : ByteOrder) (h : passed ≤ data.length) :
    (readNumber size order).run (after data passed) =
      if (data.drop passed).length < size then
        (.error (.shortage size (data.drop passed).length), after data passed)
      else
        (orFault (.invalid .byteOrder) (order.decode? ((data.drop passed).take size)),
          after data (passed + size)) := by
  rw [run_readNumber]
  split_ifs with hs
  · rw [run_read_of_lt h hs]
  · rw [run_read_of_le (by rw [List.length_drop] at hs; omega)]

/-- A codec of a known width reads its part. -/
theorem Codec.run_read (hq : c.part? = some q) (h : passed ≤ data.length) :
    c.read.run (.after data passed) =
      ((q.take (data.drop passed)).1, .after data (passed + (q.take (data.drop passed)).2)) := by
  cases c with
  | uint size order =>
    obtain rfl := Option.some.inj hq
    rw [Codec.read, Procedure.run_bind, Cursor.run_readNumber_after size order h, Part.take]
    split_ifs
    · rfl
    · dsimp only
      cases order.decode? ((data.drop passed).take size) <;> rfl
  | fixed size =>
    rw [part?] at hq
    split_ifs at hq with hs
    obtain rfl := Option.some.inj hq
    obtain ⟨n, rfl⟩ := Int.eq_ofNat_of_zero_le (not_lt.mp hs)
    rw [Codec.read, Procedure.run_bind, Int.toNat_natCast, Part.take]
    split_ifs with hl
    · rw [Cursor.run_read_of_lt h hl]
      rfl
    · rw [not_lt, List.length_drop] at hl
      rw [Cursor.run_read_of_le (by dsimp only at hl; omega)]
      rfl
  | port =>
    obtain rfl := Option.some.inj hq
    rw [Codec.read, Procedure.run_bind]
    have hr := Cursor.run_readNumber_after 2 .little h
    rw [Nat.cast_ofNat] at hr
    rw [hr, Part.take]
    split_ifs
    · rfl
    · dsimp only [ByteOrder.decode?, orFault]
      rw [Procedure.run_bind, Procedure.run_conclude]
      cases PortAddress.ofValue (.int (littleValue ((data.drop passed).take 2))) <;> rfl
  | length =>
    obtain rfl := Option.some.inj hq
    rw [Codec.read, Procedure.run_bind]
    have hr := Cursor.run_readNumber_after 2 .big h
    rw [Nat.cast_ofNat] at hr
    rw [hr, Part.take]
    split_ifs <;> rfl
  | payload | record s | base | undeclared name => simp [part?] at hq

theorem readAll_cons (f : Field) (fs : List Field) :
    readAll (f :: fs) = do
      let v ← f.codec.read
      let vs ← readAll fs
      return v :: vs := by
  cases f
  rfl

/-- The fields of parts are read as a walk over the parts. -/
theorem run_readAll_walk {fs : List Field} {qs : List Part}
    (hq : List.Forall₂ (fun f q => f.codec.part? = some q) fs qs) (h : passed ≤ data.length) :
    (readAll fs).run (.after data passed) =
      ((Part.walk qs (data.drop passed)).1,
        .after data (passed + (Part.walk qs (data.drop passed)).2)) := by
  -- Each part moves the cursor along, so the position stays general.
  induction hq generalizing passed with
  | nil => rfl
  | @cons f q fs qs hf _ ih =>
    rw [readAll_cons, Procedure.run_bind, Codec.run_read hf h]
    by_cases hl : (data.drop passed).length < q.width
    · rw [Part.walk_cons_of_lt hl, Part.take_of_lt hl]
    · rw [not_lt] at hl
      have hp : passed + q.width ≤ data.length := by
        rw [List.length_drop] at hl
        omega
      rw [Part.take_of_le hl]
      cases hv : q.denote ((data.drop passed).take q.width) with
      | error fault => rw [Part.walk_cons_refused hl hv]
      | ok v =>
        dsimp only
        rw [Part.walk_cons_ok hl hv, Procedure.run_bind, ih hp, List.drop_drop, ← Nat.add_assoc]
        cases (Part.walk qs (data.drop (passed + q.width))).1 <;> rfl

theorem readAll_append (fs gs : List Field) :
    readAll (fs ++ gs) = do
      let vs ← readAll fs
      let ws ← readAll gs
      return vs ++ ws := by
  induction fs with
  | nil => simp [readAll]
  | cons f fs ih => simp [readAll_cons, ih]

/-- Channel data after the fields of parts is all that is left after them. -/
theorem run_readAll_rest {fs : List Field} {qs : List Part} {name : String}
    {default : Option Scalar} (hq : List.Forall₂ (fun f q => f.codec.part? = some q) fs qs)
    (h : passed ≤ data.length) :
    ((readAll (fs ++ [⟨name, .payload, default⟩])).run (.after data passed)).1 =
      (Part.walk qs (data.drop passed)).1.map fun vs =>
        vs ++ [.payload (.bytes (data.drop (passed + (Part.walk qs (data.drop passed)).2)))] := by
  have hl := Part.walk_le qs (data.drop passed)
  rw [List.length_drop] at hl
  rw [readAll_append, Procedure.run_bind, run_readAll_walk hq h]
  cases (Part.walk qs (data.drop passed)).1 with
  | error fault => rfl
  | ok vs =>
    have hr := Cursor.run_readRest_after
      (show passed + (Part.walk qs (data.drop passed)).2 ≤ data.length by omega)
    simp [readAll, Codec.read, hr, Except.map]

/-- The type of a schema reads its fields and composes them, and leaves the cursor behind them. -/
theorem Schema.run_read_fields {s : Schema} (ask : Action.parse.ofType s.fields = .ok ())
    (cursor : Cursor) :
    s.read.run cursor =
      match (readAll s.fields).run cursor with
      | (.ok vs, next) => (s.compose vs, next)
      | (.error fault, next) => (.error fault, next) := by
  obtain ⟨tag, name, fs⟩ := s
  rw [Schema.read, ask, Procedure.run_bind, Procedure.run_conclude]
  dsimp only
  rw [Procedure.run_bind]
  obtain ⟨_ | vs, next⟩ := (readAll fs).run cursor <;> rfl

/-- A record is composed of what its fields read. -/
theorem Schema.run_read (s : Schema) (ask : Action.parse.ofType s.fields = .ok ())
    (cursor : Cursor) :
    (s.read.run cursor).1 = ((readAll s.fields).run cursor).1 >>= s.compose := by
  rw [Schema.run_read_fields ask]
  obtain ⟨_ | vs, next⟩ := (readAll s.fields).run cursor <;> rfl

/-- The type of a schema answers if its fields can be read and what they read can be composed. -/
theorem Schema.run_read_eq_ok {s : Schema} (ask : Action.parse.ofType s.fields = .ok ())
    {cursor next : Cursor} {w : Value} :
    s.read.run cursor = (.ok w, next) ↔
      ∃ vs, (readAll s.fields).run cursor = (.ok vs, next) ∧ s.compose vs = .ok w := by
  rw [Schema.run_read_fields ask]
  obtain ⟨_ | vs, after⟩ := (readAll s.fields).run cursor
  · simp
  · constructor
    · intro h
      obtain ⟨hc, rfl⟩ := Prod.mk.inj h
      exact ⟨vs, rfl, hc⟩
    · rintro ⟨_, h, hc⟩
      cases h
      exact congrArg (·, next) hc

end DmxNet
