/-! # Basic types

The types of values that are neither classes of nodes nor classes of errors, with their names, the
types that they are derived from, and the names of their built-in members. Members are methods,
wrappers (methods behind an operator, such as the length or the comparison of a value) and data. -/

namespace GraphQLTree

/-- A basic type. -/
inductive BasicType
  | object
  | null
  | bool
  | int
  | float
  | complex
  | text
  | bytes
  | buffer
  | list
  | tuple
  | dict
  | set
  | frozenSet
  /-- Child sequences: tuples that can be extended to new ones. -/
  | frozen
  | version
  | enum
  | operation
  | action
  | visitor
  /-- Visitors that run others in lockstep. -/
  | lockstep
  | function
  /-- Functions bound to a value. -/
  | method
  /-- Functions with their first arguments. -/
  | applied
  /-- Built-in functions, and built-in methods bound to a value. -/
  | builtin
  /-- Wrappers bound to a value. -/
  | wrapper
  | methodMember
  | wrapperMember
  | slotMember
  | dataMember
  | classMember
  /-- The place of a field in versions. -/
  | fieldMember
  | property
  | generator
  | iterator
  | keysView
  | valuesView
  | itemsView
  /-- The members of a class, as a value that cannot be changed. -/
  | membersView
  /-- Types with parameters. -/
  | generic
  /-- A type with its parameters given. -/
  | parametrized
  /-- The answer of a comparison that does not know the other value. -/
  | undecided
  | type
  | enumType
  /-- The base of all errors. -/
  | failure
  deriving DecidableEq, Repr

namespace BasicType

/-- The name of a type in messages. -/
def name : BasicType → String
  | object => "object"
  | null => "NoneType"
  | bool => "bool"
  | int => "int"
  | float => "float"
  | complex => "complex"
  | text => "str"
  | bytes => "bytes"
  | buffer => "bytearray"
  | list => "list"
  | tuple => "tuple"
  | dict => "dict"
  | set => "set"
  | frozenSet => "frozenset"
  | frozen => "FrozenList"
  | version => "VersionInfo"
  | enum => "Enum"
  | operation => "OperationType"
  | action => "VisitorActionEnum"
  | visitor => "Visitor"
  | lockstep => "ParallelVisitor"
  | function => "function"
  | method => "method"
  | applied => "partial"
  | builtin => "builtin_function_or_method"
  | wrapper => "method-wrapper"
  | methodMember => "method_descriptor"
  | wrapperMember => "wrapper_descriptor"
  | slotMember => "member_descriptor"
  | dataMember => "getset_descriptor"
  | classMember => "classmethod_descriptor"
  | fieldMember => "_tuplegetter"
  | property => "property"
  | generator => "generator"
  | iterator => "iterator"
  | keysView => "dict_keys"
  | valuesView => "dict_values"
  | itemsView => "dict_items"
  | membersView => "mappingproxy"
  | generic => "Generic"
  | parametrized => "GenericAlias"
  | undecided => "NotImplementedType"
  | type => "type"
  | enumType => "EnumType"
  | failure => "BaseException"

/-- The type that a type is derived from, if it is not the type of all objects. -/
def base? : BasicType → Option BasicType
  | bool => some int
  | frozen | version => some tuple
  | operation | action => some enum
  | lockstep => some visitor
  | enumType => some type
  | _ => none

/-- A type and those that it is derived from, the nearest first. -/
def lineage : BasicType → List BasicType
  | object => [object]
  | frozen => [frozen, tuple, generic, object]
  | t =>
    match t.base? with
    | some base => [t, base, object]
    | none => [t, object]

/-- Whether the objects of a type are sequences of items. -/
def isSequence : BasicType → Bool
  | text | bytes | buffer | list | tuple => true
  | _ => false

/-- Whether attributes can be assigned to the type itself. -/
def isOpen : BasicType → Bool
  | frozen | version | enum | operation | action | visitor | lockstep => true
  | _ => false

/-- The types that have a name of their own in literals. -/
def named : List BasicType :=
  [int, text, bool, list, object, frozen, visitor, lockstep, operation, version]

/-- The type of a name. -/
def ofName? (name : String) : Option BasicType :=
  named.find? (·.name == name)

/-! ### Built-in members -/

/-- What kind of member a built-in member is. -/
inductive MemberForm
  | method
  | wrapper
  | data
  /-- A method of the type itself. -/
  | ofClass
  /-- A function that belongs to the type, but does not get it. -/
  | static
  deriving DecidableEq, Repr

/-- The methods that texts, bytes and buffers share. -/
def textMethods : List String :=
  ["capitalize", "center", "count", "endswith", "expandtabs", "find", "index", "isalnum", "isalpha",
   "isascii", "isdigit", "islower", "isspace", "istitle", "isupper", "join", "ljust", "lower",
   "lstrip", "partition", "replace", "removeprefix", "removesuffix", "rfind", "rindex", "rjust",
   "rpartition", "rsplit", "rstrip", "split", "splitlines", "startswith", "strip", "swapcase",
   "title", "translate", "upper", "zfill"]

/-- The methods that sets of both kinds share. -/
def setMethods : List String :=
  ["__contains__", "copy", "difference", "intersection", "isdisjoint", "issubset", "issuperset",
   "symmetric_difference", "union", "__reduce__", "__sizeof__"]

/-- The names of the methods of a type itself. -/
def methods : BasicType → List String
  | object => ["__reduce_ex__", "__reduce__", "__getstate__", "__format__", "__sizeof__", "__dir__"]
  | int =>
    ["conjugate", "bit_length", "bit_count", "to_bytes", "as_integer_ratio", "__trunc__",
     "__floor__", "__ceil__", "__round__", "__getnewargs__", "__format__", "__sizeof__"]
  | float =>
    ["conjugate", "__trunc__", "__floor__", "__ceil__", "__round__", "as_integer_ratio", "hex",
     "is_integer", "__getnewargs__", "__format__"]
  | complex => ["conjugate", "__complex__", "__getnewargs__", "__format__"]
  | text =>
    textMethods ++ ["encode", "casefold", "isdecimal", "isnumeric", "isidentifier", "isprintable",
      "format", "format_map", "__format__", "__sizeof__", "__getnewargs__"]
  | bytes => textMethods ++ ["__getnewargs__", "__bytes__", "decode", "hex"]
  | buffer =>
    textMethods ++ ["append", "clear", "copy", "decode", "extend", "hex", "insert", "pop",
      "remove", "reverse", "__alloc__", "__reduce__", "__reduce_ex__", "__sizeof__"]
  | list =>
    ["__getitem__", "__reversed__", "__sizeof__", "clear", "copy", "append", "insert", "extend",
     "pop", "remove", "index", "count", "reverse", "sort"]
  | tuple => ["__getnewargs__", "index", "count"]
  | dict =>
    ["__getitem__", "__contains__", "__sizeof__", "get", "setdefault", "pop", "popitem", "keys",
     "items", "values", "update", "clear", "copy", "__reversed__"]
  | set =>
    setMethods ++ ["add", "clear", "discard", "difference_update", "intersection_update", "pop",
      "remove", "symmetric_difference_update", "update"]
  | frozenSet => setMethods
  | generator => ["send", "throw", "close", "__sizeof__"]
  | iterator => ["__length_hint__", "__reduce__", "__setstate__"]
  | undecided => ["__reduce__"]
  | method | builtin | wrapper | methodMember | wrapperMember => ["__reduce__"]
  | type =>
    ["mro", "__subclasses__", "__prepare__", "__instancecheck__", "__subclasscheck__", "__dir__",
     "__sizeof__"]
  | property => ["getter", "setter", "deleter", "__set_name__"]
  | keysView | itemsView => ["isdisjoint", "__reversed__"]
  | valuesView => ["__reversed__"]
  | failure => ["__reduce__", "__setstate__", "with_traceback", "add_note"]
  | _ => []

/-- The wrappers for comparisons. -/
def comparisons : List String := ["__lt__", "__le__", "__eq__", "__ne__", "__gt__", "__ge__"]

/-- The wrappers for the arithmetic of whole and of floating-point numbers. -/
def arithmetic : List String :=
  ["__add__", "__radd__", "__sub__", "__rsub__", "__mul__", "__rmul__", "__mod__", "__rmod__",
   "__divmod__", "__rdivmod__", "__pow__", "__rpow__", "__neg__", "__pos__", "__abs__", "__bool__",
   "__int__", "__float__", "__floordiv__", "__rfloordiv__", "__truediv__", "__rtruediv__"]

/-- The wrappers for operations on bits and sets. -/
def bitwise : List String := ["__and__", "__rand__", "__xor__", "__rxor__", "__or__", "__ror__"]

/-- The wrappers of sequences that cannot be changed. -/
def sequenceWrappers : List String :=
  ["__repr__", "__hash__", "__getattribute__", "__iter__", "__len__", "__getitem__", "__add__",
   "__mul__", "__rmul__", "__contains__"]

/-- The wrappers of sequences that can be changed. -/
def changeableWrappers : List String :=
  ["__repr__", "__getattribute__", "__iter__", "__init__", "__len__", "__setitem__", "__delitem__",
   "__add__", "__mul__", "__rmul__", "__contains__", "__iadd__", "__imul__"]

/-- The names of the wrappers of a type itself. -/
def wrappers : BasicType → List String
  | object =>
    comparisons ++ ["__repr__", "__hash__", "__str__", "__getattribute__", "__setattr__",
      "__delattr__", "__init__"]
  | null => ["__repr__", "__bool__"]
  | bool => "__repr__" :: bitwise
  | int =>
    comparisons ++ arithmetic ++ bitwise ++ ["__repr__", "__hash__", "__getattribute__",
      "__invert__", "__lshift__", "__rlshift__", "__rshift__", "__rrshift__", "__index__"]
  | float => comparisons ++ arithmetic ++ ["__repr__", "__hash__", "__getattribute__"]
  | complex =>
    comparisons ++ ["__repr__", "__hash__", "__getattribute__", "__add__", "__radd__", "__sub__",
      "__rsub__", "__mul__", "__rmul__", "__pow__", "__rpow__", "__neg__", "__pos__", "__abs__",
      "__bool__", "__truediv__", "__rtruediv__"]
  | text | bytes => comparisons ++ sequenceWrappers ++ ["__str__", "__mod__", "__rmod__"]
  | buffer =>
    comparisons ++ changeableWrappers ++ ["__str__", "__mod__", "__rmod__", "__getitem__"]
  | list => comparisons ++ changeableWrappers
  | tuple => comparisons ++ sequenceWrappers
  | dict =>
    comparisons ++ ["__repr__", "__getattribute__", "__iter__", "__init__", "__or__", "__ror__",
      "__ior__", "__len__", "__setitem__", "__delitem__"]
  | set =>
    comparisons ++ bitwise ++ ["__repr__", "__getattribute__", "__iter__", "__init__", "__sub__",
      "__rsub__", "__isub__", "__iand__", "__ixor__", "__ior__", "__len__"]
  | frozenSet =>
    comparisons ++ bitwise ++ ["__repr__", "__hash__", "__getattribute__", "__iter__", "__sub__",
      "__rsub__", "__len__"]
  | function => ["__repr__", "__call__", "__get__"]
  | method =>
    comparisons ++ ["__repr__", "__hash__", "__call__", "__get__", "__getattribute__",
      "__setattr__", "__delattr__"]
  | builtin | wrapper =>
    comparisons ++ ["__repr__", "__hash__", "__call__", "__getattribute__"]
  | methodMember | wrapperMember | classMember => ["__repr__", "__call__", "__get__",
      "__getattribute__"]
  | slotMember | dataMember => ["__repr__", "__get__", "__set__", "__delete__", "__getattribute__"]
  | property => ["__get__", "__set__", "__delete__", "__init__", "__getattribute__"]
  | generator => ["__repr__", "__getattribute__", "__iter__", "__next__", "__del__"]
  | iterator => ["__getattribute__", "__iter__", "__next__"]
  | keysView | itemsView =>
    comparisons ++ bitwise ++ ["__repr__", "__getattribute__", "__iter__", "__len__",
      "__contains__", "__sub__", "__rsub__"]
  | valuesView => ["__repr__", "__getattribute__", "__iter__", "__len__"]
  | undecided => ["__repr__", "__bool__"]
  | type =>
    ["__repr__", "__call__", "__getattribute__", "__setattr__", "__delattr__", "__init__", "__or__",
     "__ror__"]
  | failure =>
    ["__repr__", "__str__", "__getattribute__", "__setattr__", "__delattr__", "__init__"]
  | _ => []

/-- The names of the fields of a version. -/
def versionFields : List String :=
  ["major", "minor", "micro", "releaselevel", "serial"]

/-- The names of the data of a type itself. -/
def dataNames : BasicType → List String
  | version => versionFields
  | object => ["__class__"]
  | int => ["real", "imag", "numerator", "denominator"]
  | float | complex => ["real", "imag"]
  | frozen => ["__dict__"]
  | visitor => ["__dict__", "__weakref__"]
  | enum => ["name", "value"]
  | function =>
    ["__name__", "__qualname__", "__doc__", "__dict__", "__module__", "__defaults__",
     "__kwdefaults__", "__closure__"]
  | method => ["__self__", "__func__", "__doc__"]
  | builtin => ["__name__", "__qualname__", "__self__", "__module__", "__doc__"]
  | wrapper => ["__name__", "__qualname__", "__self__", "__objclass__", "__doc__"]
  | methodMember | wrapperMember | classMember | slotMember | dataMember =>
    ["__name__", "__qualname__", "__objclass__", "__doc__"]
  | property => ["fget", "fset", "fdel", "__doc__"]
  | generator =>
    ["__name__", "__qualname__", "gi_running", "gi_suspended", "gi_yieldfrom"]
  | parametrized => ["__origin__", "__args__", "__parameters__"]
  | type => ["__name__", "__qualname__", "__bases__", "__base__", "__mro__"]
  | failure =>
    ["args", "__cause__", "__context__", "__suppress_context__", "__traceback__", "__dict__"]
  | _ => []

/-- The names of data that only some of the types derived from a type have. -/
def ownData : BasicType → List String
  | failure => ["value", "name", "obj"]
  | _ => []

/-- The names of the methods of a type that belong to the type itself. -/
def classMethods : BasicType → List String
  | object => ["__subclasshook__", "__init_subclass__"]
  | int => ["from_bytes"]
  | float | bytes | buffer => ["fromhex"]
  | list | tuple | set | frozenSet => ["__class_getitem__"]
  | dict => ["fromkeys", "__class_getitem__"]
  | _ => []

/-- The types that make their objects in a way of their own. -/
def makers : List BasicType :=
  [object, null, bool, int, float, complex, text, bytes, buffer, list, tuple, dict, set, frozenSet,
   function, method, applied, property, parametrized, undecided, type, failure]

/-- The names of the functions that belong to a type. -/
def statics (t : BasicType) : List String :=
  (if [text, bytes, buffer].contains t then ["maketrans"] else []) ++
    (if makers.contains t then ["__new__"] else [])

/-- The form of a built-in member of a type itself. -/
def memberForm? (t : BasicType) (name : String) : Option MemberForm :=
  if t.methods.contains name then some .method
  else if t.wrappers.contains name then some .wrapper
  else if t.dataNames.contains name || t.ownData.contains name then some .data
  else if t.classMethods.contains name then some .ofClass
  else if t.statics.contains name then some .static
  else none

end BasicType
end GraphQLTree
