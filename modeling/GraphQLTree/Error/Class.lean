import GraphQLTree.Type.Member

/-! # Classes of errors

Visitor methods may raise errors of any class. Those that matter to a walk are failure reports,
which gather the stages of an aborted walk, and errors that carry a prune signal. An interruption is
no ordinary error: nothing handles it on its way out. -/

namespace GraphQLTree

/-- The class of an error. -/
inductive ErrorClass
  /-- The base of all classes of errors. -/
  | base
  | general
  | badValue
  /-- A text or bytes that cannot be converted. -/
  | badCoding
  | badEncoding
  | badDecoding
  /-- Bytes that cannot be resized while they are read. -/
  | busyBuffer
  /-- The base of look-ups that fail. -/
  | lookUp
  | missingKey
  | badIndex
  | runtime
  | badType
  | badAttribute
  /-- The base of calculations that fail. -/
  | arithmetic
  | zeroDivision
  | overflow
  | stopIteration
  | interrupt
  /-- Carries a prune flag. -/
  | prune
  /-- The report of an aborted walk. -/
  | visit
  /-- The root of a walk is neither a document nor a schema. -/
  | invalidInput
  /-- Has a method that answers whether to prune. -/
  | callPrune
  /-- Has such a method, but it fails. -/
  | failPrune
  /-- Fails when its prune flag is read. -/
  | propPrune
  /-- Counts as false where a truth value is asked for. -/
  | falsy
  deriving DecidableEq, Repr

namespace ErrorClass

/-- The name of a class in messages. -/
def name : ErrorClass → String
  | base => "BaseException"
  | general => "Exception"
  | badValue => "ValueError"
  | badCoding => "UnicodeError"
  | badEncoding => "UnicodeEncodeError"
  | badDecoding => "UnicodeDecodeError"
  | busyBuffer => "BufferError"
  | lookUp => "LookupError"
  | missingKey => "KeyError"
  | badIndex => "IndexError"
  | runtime => "RuntimeError"
  | badType => "TypeError"
  | badAttribute => "AttributeError"
  | arithmetic => "ArithmeticError"
  | zeroDivision => "ZeroDivisionError"
  | overflow => "OverflowError"
  | stopIteration => "StopIteration"
  | interrupt => "KeyboardInterrupt"
  | prune => "PruneError"
  | visit => "VisitError"
  | invalidInput => "InvalidInputTypeError"
  | callPrune => "CallPrune"
  | failPrune => "FailPrune"
  | propPrune => "PropPrune"
  | falsy => "FalsyError"

/-- The classes that have a name of their own in literals. -/
def named : List ErrorClass :=
  [general, badValue, missingKey, runtime, badType, badIndex, badAttribute, zeroDivision,
   stopIteration, interrupt, prune, visit, invalidInput, callPrune, failPrune, propPrune, falsy]

/-- The class of a name. -/
def ofName? (name : String) : Option ErrorClass :=
  named.find? (·.name == name)

/-- A class and those that it is derived from, the nearest first. -/
def lineage : ErrorClass → List ErrorClass
  | base => [base]
  | general => [general, base]
  | interrupt => [interrupt, base]
  | badCoding => [badCoding, badValue, general, base]
  | badEncoding => [badEncoding, badCoding, badValue, general, base]
  | badDecoding => [badDecoding, badCoding, badValue, general, base]
  | missingKey => [missingKey, lookUp, general, base]
  | badIndex => [badIndex, lookUp, general, base]
  | zeroDivision => [zeroDivision, arithmetic, general, base]
  | overflow => [overflow, arithmetic, general, base]
  | invalidInput => [invalidInput, badType, general, base]
  | c => [c, general, base]

/-- Whether errors of the class are handled by a walk; only an interruption is not. -/
def isOrdinary (c : ErrorClass) : Bool :=
  c.lineage.contains general

/-- Whether attributes can be assigned to the class itself. -/
def isOpen : ErrorClass → Bool
  | prune | visit | invalidInput | callPrune | failPrune | propPrune | falsy => true
  | _ => false

/-- What attribute names mean in a class itself, but for what is built in. -/
def own : ErrorClass → List (String × Member)
  | visit =>
    [("__init__", .method .initReport), ("__str__", .method .textReport),
     ("__repr__", .method .writeReport), ("__eq__", .method .equalReport),
     ("__ne__", .method .unequalReport), ("add_stage", .method .addStage),
     ("formatted", .property .formatted)]
  | prune => [("__init__", .method .initPrune), ("__repr__", .method .writePrune)]
  | invalidInput => [("__init__", .method .initInvalidInput)]
  | callPrune => [("__init__", .method .initCallPrune), ("prune", .method .callPrune)]
  | failPrune => [("prune", .method .failPrune)]
  | propPrune => [("__init__", .method .initPropPrune), ("prune", .property .failing)]
  | falsy => [("__bool__", .method .isFalse)]
  | _ => []

/-- The names of the built-in members of a class itself that the base of all errors has not. -/
def dataNames : ErrorClass → List String
  | stopIteration => ["value"]
  | badAttribute => ["name", "obj"]
  | _ => []

end ErrorClass
end GraphQLTree
