import DmxNet.Proofs.Bytes.Number

/-!
# Writing pieces

A value that is no record is written as one piece: its bytes, or the fault of not having any
(`Codec.piece`). The fields of a record without records in it are written as their pieces joined
(`joins_writeAll`): what is in the buffer stays, and after it come the pieces up to the first
that has no bytes.
-/

namespace DmxNet

namespace Writer

@[simp] theorem run_appendFrom_ok (bs buffer : Bytes) :
    (appendFrom (.ok bs)).run buffer = (.ok (), buffer ++ bs) := rfl

@[simp] theorem run_appendFrom_error (fault : Fault) (buffer : Bytes) :
    (appendFrom (.error fault)).run buffer = (.error fault, buffer) := rfl

end Writer

/-- The bytes of a value with a wire form of its own that is no record. -/
def Value.piece (beside : Option Value) : Value → Except Fault Bytes
  | .scalar (.port p) => .ok (littleBytes 2 p.value)
  | .length _ => Value.lengthBytes beside
  | .payload content => content.payloadBytes
  | _ => .error .missing

/-- The bytes of a value that is no record, by a codec. -/
def Codec.piece (c : Codec) (beside : Option Value) (v : Value) : Except Fault Bytes :=
  match c with
  | .uint size order => v.asNumberBytes size order
  | .fixed _ => v.asBytes
  | .port | .length | .payload | .record _ => v.piece beside
  | .base => .error .undefined
  | .undeclared name => .error (.undeclaredField name)

/-- Pieces one after another, up to the first that has no bytes, and how that ends. -/
def joinPieces : List (Except Fault Bytes) → Except Fault Unit × Bytes
  | [] => (.ok (), [])
  | .ok bs :: rs => ((joinPieces rs).1, bs ++ (joinPieces rs).2)
  | .error fault :: _ => (.error fault, [])

/-- Whether a value is a record. -/
def Value.isRecord : Value → Bool
  | .record .. => true
  | _ => false

/-! ### Pieces one after another -/

section

variable {ps qs : List (Except Fault Bytes)} {fault : Fault}

theorem joinPieces_append_of_ok (h : (joinPieces ps).1 = .ok ()) :
    joinPieces (ps ++ qs) = ((joinPieces qs).1, (joinPieces ps).2 ++ (joinPieces qs).2) := by
  induction ps with
  | nil => rfl
  | cons p ps ih =>
    cases p with
    | error fault => cases h
    | ok bs =>
      rw [List.cons_append, joinPieces, ih h, joinPieces, List.append_assoc]

theorem joinPieces_append_of_error (h : (joinPieces ps).1 = .error fault) :
    joinPieces (ps ++ qs) = joinPieces ps := by
  induction ps with
  | nil => cases h
  | cons p ps ih =>
    cases p with
    | error fault => rfl
    | ok bs => rw [List.cons_append, joinPieces, ih h, joinPieces]

/-- Pieces that all have bytes are these, joined. -/
theorem exists_parts_of_joinPieces_ok (h : (joinPieces ps).1 = .ok ()) :
    ∃ parts : List Bytes, ps = parts.map .ok ∧ (joinPieces ps).2 = parts.flatten := by
  induction ps with
  | nil => exact ⟨[], rfl, rfl⟩
  | cons p ps ih =>
    cases p with
    | error fault => cases h
    | ok bs =>
      obtain ⟨parts, rfl, hj⟩ := ih h
      refine ⟨bs :: parts, rfl, ?_⟩
      rw [joinPieces, hj, List.flatten_cons]

/-- Otherwise one of them is the first that has none. -/
theorem exists_split_of_joinPieces_error (h : (joinPieces ps).1 = .error fault) :
    ∃ (parts : List Bytes) (rest : List (Except Fault Bytes)),
      ps = parts.map .ok ++ .error fault :: rest ∧
      (joinPieces ps).2 = parts.flatten := by
  induction ps with
  | nil => cases h
  | cons p ps ih =>
    cases p with
    | error fault' =>
      cases h
      exact ⟨[], ps, rfl, rfl⟩
    | ok bs =>
      obtain ⟨parts, rest, rfl, hj⟩ := ih h
      refine ⟨bs :: parts, rest, rfl, ?_⟩
      rw [joinPieces, hj, List.flatten_cons]

end

namespace Writer

variable {w w' : Writer Unit} {ps qs : List (Except Fault Bytes)}

/-- A writing that appends pieces to whatever is in the buffer, up to the first that has no bytes,
and ends as that does. -/
def Joins (w : Writer Unit) (ps : List (Except Fault Bytes)) : Prop :=
  ∀ buffer, w.run buffer = ((joinPieces ps).1, buffer ++ (joinPieces ps).2)

theorem joins_pure : (pure () : Writer Unit).Joins [] := by
  intro buffer
  simp [joinPieces]

theorem joins_appendFrom (p : Except Fault Bytes) : (appendFrom p).Joins [p] := by
  intro buffer
  cases p <;> simp [joinPieces]

/-- One writing after another appends what they append, unless the first fails. -/
theorem Joins.bind (h : w.Joins ps) (h' : w'.Joins qs) : (w >>= fun _ => w').Joins (ps ++ qs) := by
  intro buffer
  rw [Procedure.run_bind, h buffer]
  cases hp : (joinPieces ps).1 with
  | error fault =>
    rw [joinPieces_append_of_error hp, hp]
  | ok _ =>
    dsimp only
    rw [h', joinPieces_append_of_ok hp, List.append_assoc]

end Writer

/-! ### Values that are no records -/

/-- The size on the wire fits the length field exactly if there are fewer than 65535 levels. -/
theorem evenSize_le_maxOfWidth_iff {n : Nat} : evenSize n ≤ maxOfWidth 2 ↔ n < 65535 := by
  rw [le_maxOfWidth_iff]
  unfold evenSize
  omega

theorem Value.write_eq_appendFrom {v : Value} (hv : v.isRecord = false) (beside : Option Value) :
    v.write beside = Writer.appendFrom (v.piece beside) := by
  cases v with
  | scalar s => cases s <;> rfl
  | list vs => rfl
  | length u => rfl
  | payload u => rfl
  | record s vs => simp [isRecord] at hv

theorem Codec.write_eq_appendFrom (c : Codec) {v : Value} (hv : v.isRecord = false)
    (beside : Option Value) : c.write v beside = Writer.appendFrom (c.piece beside v) := by
  have hw := Value.write_eq_appendFrom hv beside
  cases c with
  | port | length | payload | record => exact hw
  | uint | fixed | base | undeclared => rfl

/-- **Fields are written as pieces**: after what is in the buffer come the pieces of the fields,
up to the first that has no bytes. -/
theorem joins_writeAll {fs : List Field} {vs : List Value} {beside : Option Value}
    (hv : ∀ v ∈ vs, v.isRecord = false) :
    (writeAll fs vs beside).Joins (List.zipWith (fun f v => f.codec.piece beside v) fs vs) := by
  induction fs generalizing vs with
  | nil => cases vs <;> exact Writer.joins_pure
  | cons f fs ih =>
    cases vs with
    | nil => exact Writer.joins_pure
    | cons v vs =>
      have hw := f.codec.write_eq_appendFrom (hv v (by simp)) beside
      rw [Codec.write] at hw
      rw [writeAll, hw, List.zipWith_cons_cons]
      exact (Writer.joins_appendFrom _).bind (ih fun u hu => hv u (by simp [hu]))

/-- The pieces of a record without records in it, beside its own channel data. -/
def Value.pieces (s : Schema) (vs : List Value) : List (Except Fault Bytes) :=
  List.zipWith (fun f v => f.codec.piece (lookup? s.fields vs dataField) v) s.fields vs

theorem Value.run_write_record {s : Schema} {vs : List Value}
    (ask : Action.write.ofRecord s.fields = .ok ()) (hv : ∀ v ∈ vs, v.isRecord = false)
    (beside : Option Value) (buffer : Bytes) :
    ((Value.record s vs).write beside).run buffer =
      ((joinPieces (pieces s vs)).1, buffer ++ (joinPieces (pieces s vs)).2) := by
  rw [Value.write, ask, Procedure.run_bind, Procedure.run_conclude]
  exact joins_writeAll hv buffer

end DmxNet
