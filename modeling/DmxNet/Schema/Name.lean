import DmxNet.Schema.Basic
import DmxNet.Text.Name
import DmxNet.Text.Normal

/-!
# Names of fields

Which texts may name the fields of one schema, and which names mean something already. Every type
of records has things under names of its own. Some of these it keeps whatever is declared there,
so that a field of such a name has neither its codec nor its default; others a field replaces, but
only if it was declared with a codec or a default, and is otherwise given what is there.
-/

namespace DmxNet

/-- The words that are no names of fields. -/
def reservedWords : List String :=
  ["False", "None", "True", "and", "as", "assert", "async", "await", "break", "class", "continue",
   "def", "del", "elif", "else", "except", "finally", "for", "from", "global", "if", "import", "in",
   "is", "lambda", "nonlocal", "not", "or", "pass", "raise", "return", "try", "while", "with",
   "yield"]

/-- Whether a text may name a field. -/
def isFieldName (name : String) : Bool := Text.isName name && !reservedWords.contains name

/-- Whether texts may name the fields of one schema. -/
def areFieldNames : List String → Bool
  | [] => true
  | name :: names => isFieldName name && !names.contains name && areFieldNames names

/-! ### Names with a meaning -/

/-- The names under which a type keeps something of its own. -/
def keptNames : List String :=
  ["__abstractmethods__", "__base__", "__bases__", "__basicsize__", "__class__",
   "__dataclass_params__", "__dictoffset__", "__flags__", "__itemsize__", "__mro__", "__name__",
   "__parameters__", "__text_signature__", "__weakrefoffset__", "_abc_impl"]

/-- The names under which a type has something that a field replaces. -/
def replacedNames : List String :=
  ["__call__", "__class_getitem__", "__delattr__", "__dir__", "__doc__", "__eq__", "__format__",
   "__ge__", "__getattribute__", "__getstate__", "__gt__", "__hash__", "__init__",
   "__init_subclass__", "__instancecheck__", "__le__", "__lt__", "__module__", "__ne__", "__new__",
   "__or__", "__orig_bases__", "__post_init__", "__prepare__", "__qualname__", "__reduce__",
   "__reduce_ex__", "__repr__", "__ror__", "__setattr__", "__sizeof__", "__slots__", "__str__",
   "__subclasscheck__", "__subclasses__", "__subclasshook__", "__weakref__", "_abc_caches_clear",
   "_abc_registry_clear", "_dump_registry", "_is_protocol", "coerce", "equal_for_testing",
   "from_cursor", "into_buffer", "mro", "register", "test_value", "to_bytes"]

/-- The name that lists what a type has room for; it is read before the type is named. -/
def roomName : String := "__slots__"

/-- The names whose meaning for a new type no field can have. -/
def strictNames : List String := ["__classcell__", "__orig_bases__", "__qualname__"]

/-- The name under which a type has the place where it was declared. -/
def placeName : String := "__module__"

/-- The kind of the table that every type has under a name, in place of any default. -/
def tableKind? (name : String) : Option String :=
  if name = "__annotations__" then some "dict"
  else if name = "__dict__" then some "mappingproxy"
  else none

/-- Whether a field may be left out: it has a default, or its type has something under its name
that the field does not replace. -/
def Field.isOptional (f : Field) : Bool :=
  f.default.isSome ||
    !f.isDeclared && (keptNames.contains f.name || replacedNames.contains f.name)

end DmxNet
