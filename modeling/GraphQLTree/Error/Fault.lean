import GraphQLTree.Store.Value
import GraphQLTree.Text.Quoted
import GraphQLTree.Text.Truncate

/-! # Faults

What can go wrong in an operation on values, with the class of the error that is raised for it and
the text of its message. Long names of types are cut; how much of a name is shown depends on the
message. -/

namespace GraphQLTree

/-- The cause of an error raised by an operation on values. Types are given by their names. -/
inductive Fault
  | noAttribute (type attr : String)
  | noTypeAttribute (type attr : String)
  /-- A key of a node to be read has no value. -/
  | noValue (type attr : String)
  /-- There is no place for an attribute to be assigned or removed. -/
  | noPlace (type attr : String)
  /-- A key of a node to be removed has no value. -/
  | unset (attr : String)
  | noSetter (type attr : String)
  | noDeleter (type attr : String)
  | readOnly (type attr : String)
  | notWritable (type attr : String)
  /-- An attribute of a basic type is assigned. -/
  | closedType (type attr : String)
  | badAttributeName (type : String)
  | badLayout (new old : String)
  | notIterable (type : String)
  /-- The items to be appended are no sequence. -/
  | notSpreadable (type : String)
  | unhashable (type : String)
  | notCallable (type : String)
  | noLength (type : String)
  | notSubscriptable (type : String)
  | notSubscriptableType (type : String)
  | notAssignable (type : String)
  | notContainer (type : String)
  | textContains (type : String)
  /-- There is no item at a place. -/
  | outOfRange (place : String)
  | hugeIndex
  | badIndex (place type : String)
  | badBound
  | badPosition
  | notInteger (type : String)
  | emptyPop
  | notFound (text : String)
  /-- A number that is no byte. -/
  | noByte
  | notBytes (type : String)
  | missingKey (key : Value)
  /-- A dictionary grew or shrank while its keys were gone through. -/
  | changedSize
  /-- An item of a joined text is no text. -/
  | notText (index : Nat) (type : String)
  /-- A method for texts answered something else. -/
  | badText (method type : String)
  /-- A sum of values that have none. -/
  | badSum (left right : String)
  | badConcat (type added : String)
  | missingArguments (function : String) (names : List String)
  | tooManyArguments (function : String) (least most given : Nat)
  | unknownKeyword (function name : String)
  | repeatedArgument (function name : String)
  | noKeywords (function : String)
  | noArguments (type : String)
  /-- Built-in functions count their arguments in several ways. -/
  | notOneArgument (function : String) (given : Nat)
  | someArguments (function : String) (given : Nat)
  | wrongCount (function expected : String) (given : Nat)
  | alreadyNonNull (type : String)
  | invalidKind (kind : String)
  | invalidInput (value : String)
  | notVisitor (value : String)
  | invalidVersion (version : String)
  | invalidOperation (value : String)
  | invalidNumber (value : String)
  /-- A number has more decimal digits than can be read. -/
  | tooManyDigits (digits : Nat)
  | zeroStep
  | badCause
  | notRaisable
  | notCopyable (type : String)
  /-- A key stands for a place that the objects have already. -/
  | slotsTaken (key reason : String)
  /-- A key has the name of something that its class defines. -/
  | keyConflict (key : String)
  /-- The name of a class contains a null character. -/
  | badTypeName
  | duplicateBase (name : String)
  | layoutConflict
  | inconsistentLineage (heads : List String)
  /-- Any other cause, with the text of its message. -/
  | other (cls : ErrorClass) (text : String)
  deriving Repr

namespace Fault

/-- The class of the error that is raised. -/
def errorClass : Fault → ErrorClass
  | noAttribute .. | noTypeAttribute .. | noValue .. | noPlace .. | unset .. | noSetter ..
  | noDeleter .. | readOnly .. | notWritable .. => .badAttribute
  | outOfRange .. | hugeIndex | emptyPop => .badIndex
  | missingKey .. => .missingKey
  | alreadyNonNull .. | invalidVersion .. | invalidOperation .. | invalidNumber .. | notFound ..
  | tooManyDigits .. | zeroStep | noByte | badTypeName | keyConflict .. => .badValue
  | changedSize => .runtime
  | invalidInput .. => .invalidInput
  | other cls _ => cls
  | _ => .badType

/-- Names in quotes, the last two joined by `and`. -/
def listNames : List String → String
  | [] => ""
  | [a] => Text.quote a
  | [a, b] => Text.quote a ++ " and " ++ Text.quote b
  | names =>
    ", ".intercalate (names.dropLast.map Text.quote) ++ ", and " ++
      Text.quote (names.getLast?.getD "")

/-- A count with a noun in the plural unless the count is one. -/
def counted (n : Nat) (noun : String) : String :=
  toString n ++ " " ++ noun ++ (if n = 1 then "" else "s")

/-- The end of a message about an attribute that is not there. -/
def lacks (attr : String) : String :=
  " has no attribute '" ++ attr ++ "'"

/-- The start of a name that is shown where 200 bytes are left for it. -/
def shown (name : String) : String :=
  Text.firstBytes 200 name

/-- The start of a name that is shown where 100 bytes are left for it. -/
def brief (name : String) : String :=
  Text.firstBytes 100 name

/-- The text of the message. -/
def message : Fault → String
  | noAttribute type attr => "'" ++ Text.firstBytes 50 type ++ "' object" ++ lacks attr
  | noTypeAttribute type attr => "type object '" ++ Text.firstBytes 50 type ++ "'" ++ lacks attr
  | noValue type attr => "'" ++ shown type ++ "' object" ++ lacks attr
  | noPlace type attr => "'" ++ brief type ++ "' object" ++ lacks attr
  | unset attr => attr
  | noSetter type attr => "property " ++ Text.quote attr ++ " of " ++ Text.quote type ++
      " object has no setter"
  | noDeleter type attr => "property " ++ Text.quote attr ++ " of " ++ Text.quote type ++
      " object has no deleter"
  | readOnly type attr => "'" ++ Text.firstBytes 50 type ++ "' object attribute '" ++ attr ++
      "' is read-only"
  | notWritable type attr =>
    "attribute '" ++ attr ++ "' of '" ++ type ++ "' objects is not writable"
  | closedType type attr =>
    "cannot set " ++ Text.quote attr ++ " attribute of immutable type '" ++ type ++ "'"
  | badAttributeName type => "attribute name must be string, not '" ++ shown type ++ "'"
  | badLayout new old =>
    "__class__ assignment: '" ++ new ++ "' object layout differs from '" ++ old ++ "'"
  | notIterable type => "'" ++ shown type ++ "' object is not iterable"
  | notSpreadable type => "Value after * must be an iterable, not " ++ shown type
  | unhashable type => "unhashable type: '" ++ shown type ++ "'"
  | notCallable type => "'" ++ shown type ++ "' object is not callable"
  | noLength type => "object of type '" ++ shown type ++ "' has no len()"
  | notSubscriptable type => "'" ++ shown type ++ "' object is not subscriptable"
  | notSubscriptableType type => "type '" ++ shown type ++ "' is not subscriptable"
  | notAssignable type => "'" ++ shown type ++ "' object does not support item assignment"
  | notContainer type => "argument of type '" ++ shown type ++ "' is not iterable"
  | textContains type => "'in <string>' requires string as left operand, not " ++ brief type
  | outOfRange place => place ++ " out of range"
  | hugeIndex => "cannot fit 'int' into an index-sized integer"
  | badIndex place type => place ++ " indices must be integers" ++
      (if place = "string" then ", not '" ++ shown type ++ "'"
       else " or slices, not " ++ shown type)
  | badBound => "slice indices must be integers or None or have an __index__ method"
  | badPosition => "slice indices must be integers or have an __index__ method"
  | notInteger type => "'" ++ shown type ++ "' object cannot be interpreted as an integer"
  | emptyPop => "pop from empty list"
  | noByte => "byte must be in range(0, 256)"
  | notBytes type => "a bytes-like object is required, not '" ++ brief type ++ "'"
  | notFound text => text
  | missingKey _ => ""
  | changedSize => "dictionary changed size during iteration"
  | notText index type =>
    "sequence item " ++ toString index ++ ": expected str instance, " ++
      Text.firstBytes 80 type ++ " found"
  | badText method type => method ++ " returned non-string (type " ++ shown type ++ ")"
  | badSum left right =>
    "unsupported operand type(s) for +: '" ++ brief left ++ "' and '" ++ brief right ++ "'"
  | badConcat type added =>
    "can only concatenate " ++ type ++ " (not \"" ++ shown added ++ "\") to " ++ type
  | missingArguments function names =>
    function ++ "() missing " ++ counted names.length "required positional argument" ++ ": " ++
      listNames names
  | tooManyArguments function least most given =>
    function ++ "() takes " ++
      (if least = most then counted most "positional argument"
       else "from " ++ toString least ++ " to " ++ toString most ++ " positional arguments") ++
      " but " ++ toString given ++ (if given = 1 then " was" else " were") ++ " given"
  | unknownKeyword function name =>
    function ++ "() got an unexpected keyword argument '" ++ name ++ "'"
  | repeatedArgument function name =>
    function ++ "() got multiple values for argument '" ++ name ++ "'"
  | noKeywords function => function ++ "() takes no keyword arguments"
  | noArguments type => shown type ++ "() takes no arguments"
  | notOneArgument function given =>
    function ++ "() takes exactly one argument (" ++ toString given ++ " given)"
  | someArguments function given =>
    function ++ "() takes no arguments (" ++ toString given ++ " given)"
  | wrongCount function expected given =>
    function ++ " expected " ++ expected ++ ", got " ++ toString given
  | alreadyNonNull type => "Type " ++ type ++ " is already marked as non-null."
  | invalidKind kind => "Invalid AST node kind: " ++ kind ++ "."
  | invalidInput value => "Invalid input type for visit: " ++ value ++ "."
  | notVisitor value => "Not an AST Visitor: " ++ value ++ "."
  | invalidVersion version => "Invalid version: " ++ version ++ "."
  | invalidOperation value => value ++ " is not a valid OperationType"
  | invalidNumber value => "could not convert string to float: " ++ value
  | tooManyDigits digits =>
    "Exceeds the limit (4300 digits) for integer string conversion: value has " ++
      toString digits ++ " digits; use sys.set_int_max_str_digits() to increase the limit"
  | zeroStep => "slice step cannot be zero"
  | badCause => "exception cause must be None or derive from BaseException"
  | notRaisable => "exceptions must derive from BaseException"
  | notCopyable type => "cannot pickle '" ++ type ++ "' object"
  | slotsTaken key reason => key ++ " slot disallowed: " ++ reason
  | keyConflict key => Text.quote key ++ " in __slots__ conflicts with class variable"
  | badTypeName => "type name must not contain null characters"
  | duplicateBase name => "duplicate base class " ++ name
  | layoutConflict => "multiple bases have instance lay-out conflict"
  | inconsistentLineage bases =>
    "Cannot create a consistent method resolution\norder (MRO) for bases " ++
      ", ".intercalate bases
  | other _ text => text

/-- The arguments of the error that is raised. -/
def args : Fault → List Value
  | missingKey key => [key]
  | fault => [.text fault.message]

end Fault
end GraphQLTree
