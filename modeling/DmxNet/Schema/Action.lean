import DmxNet.Fault.Basic

/-!
# Actions

A value, or the type of values that a schema lays out, is asked to act by the name of the action.
A field may bear such a name. The field is then found in the place of the action, and no field can
act. Some actions are asked of a record, where all of its fields are found; others of its type,
where only those fields are found that have a default.
-/

namespace DmxNet

/-- What values and types are asked for by name. -/
inductive Action where
  /-- A type makes room for a new record. -/
  | allot
  /-- A type puts the values that were given into a new record. -/
  | create
  /-- A new record can be watched. -/
  | watch
  /-- A new record belongs to its type. -/
  | belong
  /-- A new record coerces the values that it was given. -/
  | settle
  /-- A new record counts up its fields. -/
  | enumerate
  /-- A type reads a value of its own at a cursor. -/
  | parse
  /-- A type takes any value as one of its own. -/
  | coerce
  /-- A type tells whether a value is one of its own, though it was not made as one. -/
  | recognise
  /-- A type gives a sample of its values. -/
  | sample
  /-- A value appends its bytes to a buffer. -/
  | write
  /-- A value gives its bytes alone. -/
  | serialize
  /-- A value is compared with another across a round trip. -/
  | agree
  /-- A value is compared with another. -/
  | compare
  /-- A value is shown. -/
  | display
  /-- A value is written as plain text. -/
  | spell
  /-- A value is put into a line of text. -/
  | embed
  /-- A value looks for a part that it does not have. -/
  | seek
  /-- Channel data gives its size on the wire. -/
  | pad
  /-- A value offers itself as an index. -/
  | index
  deriving DecidableEq, Repr

/-- The names of an action; a field that bears any of them is in its place. -/
def Action.names : Action → List String
  | allot => ["__new__"]
  | create => ["__init__", "__setattr__", "__getattribute__"]
  | watch => ["__weakref__"]
  | belong => ["__class__"]
  | settle => ["__post_init__"]
  | enumerate => ["__dataclass_fields__"]
  | parse => ["from_cursor"]
  | coerce => ["coerce"]
  | recognise => ["__subclasscheck__", "__subclasses__", "__subclasshook__"]
  | sample => ["test_value"]
  | write => ["into_buffer"]
  | serialize => ["to_bytes"]
  | agree => ["equal_for_testing"]
  | compare => ["__eq__"]
  | display => ["__repr__"]
  | spell => ["__str__"]
  | embed => ["__format__"]
  | seek => ["__getattr__"]
  | pad => ["padded_length"]
  | index => ["__index__"]

/-- Whether a field bears a name of an action. -/
def Field.bears (f : Field) (a : Action) : Bool := a.names.contains f.name

/-! ### Asking -/

/-- Asks a record with the given fields to act. -/
def Action.ofRecord (a : Action) (fs : List Field) : Except Fault Unit :=
  if fs.any fun f => f.bears a then .error .mismatch else .ok ()

/-- Asks the type of records with the given fields to act. -/
def Action.ofType (a : Action) (fs : List Field) : Except Fault Unit :=
  if fs.any fun f => f.bears a && f.default.isSome then .error .mismatch else .ok ()

/-- Asks the type of records with the given fields for room. A field with a codec leaves its mark
on the type while that is made, so that no room can be had even without a default. -/
def Action.allotment (fs : List Field) : Except Fault Unit :=
  if fs.any fun f => f.bears allot && (f.isDeclared || f.default.isSome) then .error .mismatch
  else .ok ()

/-- Puts a new record under watch, where a field without a default cannot be put. -/
def Action.watching (fs : List Field) : Except Fault Unit :=
  if fs.any fun f => f.bears watch && f.default.isNone then .error .missing else .ok ()

/-- Has a new record belong to its type, which a field without a default would change. -/
def Action.belonging (fs : List Field) : Except Fault Unit :=
  if fs.any fun f => f.bears belong && f.default.isNone then .error .mismatch else .ok ()

/-- Counts up the fields of a new record. What a field of that name holds cannot be counted. -/
def Action.enumeration (fs : List Field) : Except Fault Unit :=
  if fs.any fun f => f.bears enumerate then .error .missing else .ok ()

/-- Asks for all that a new record needs before its values are coerced. -/
def Action.making (fs : List Field) : Except Fault Unit := do
  allotment fs
  create.ofType fs
  watching fs
  belonging fs
  settle.ofRecord fs
  enumeration fs

/-- Asks the type of a value to act; a value that is no record always can. -/
def Action.ofKind (a : Action) : Value → Except Fault Unit
  | .record s _ => a.ofType s.fields
  | _ => .ok ()

/-- The fault of a part that a value does not have. -/
def Value.absence (v : Value) : Fault :=
  match Action.seek.ofKind v with
  | .ok _ => .missing
  | .error fault => fault

end DmxNet
