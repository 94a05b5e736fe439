import GraphQLTree.Type.Basic

/-! # Members of classes

What the classes of the library provide under their names: properties, which are computed when they
are read, and methods. Both are given by what they do, so that a class is plain data. -/

namespace GraphQLTree

/-- Attributes that are computed from others. -/
inductive Property
  /-- The other types of a schema and then its query root. -/
  | components
  /-- Whether the attribute `key` is set. -/
  | isSet (key : String)
  /-- The attribute `key` under another name. -/
  | sameAs (key : String)
  /-- Always null. -/
  | nothing
  /-- The dictionary of an object literal. -/
  | plainObject
  /-- The dictionary of a failure report. -/
  | formatted
  /-- Raises the error that the object holds. -/
  | failing
  deriving DecidableEq, Repr

/-- The value of a key that is not given to the constructor. -/
inductive Default
  | queryOperation
  | isTrue
  deriving DecidableEq, Repr

/-- What a function of the library does. -/
inductive Routine
  /-- Assigns the keys of a node, where a default may stand in for a missing one. -/
  | initNode (default? : Option (String × Default))
  | writeNode
  | describeNode
  | equalNode
  | digestNode
  | assignNode
  | copyNode
  | deepCopyNode
  /-- Appends its arguments to the sequence `key`. -/
  | append (key : String)
  /-- Appends the items of its second argument to the sequence named by the first. -/
  | appendTo
  /-- Assigns its argument to `key`. -/
  | assign (key : String)
  /-- Takes one argument and does nothing. -/
  | accept
  /-- Marks a type as non-null, once. -/
  | markNonNull
  /-- A child sequence with more items. -/
  | extend
  | writeFrozen
  | initReport
  | textReport
  | writeReport
  | equalReport
  | unequalReport
  /-- Records an enclosing stage of a failure report. -/
  | addStage
  | initPrune
  | writePrune
  | initInvalidInput
  | initCallPrune
  /-- Answers whether to prune. -/
  | callPrune
  /-- Fails to answer whether to prune. -/
  | failPrune
  | initPropPrune
  /-- Makes an error count as false. -/
  | isFalse
  /-- Looks up the method of a visitor for a kind. -/
  | findHook
  /-- Looks up the methods of several visitors for a kind. -/
  | findHooks
  | initLockstep
  | enterHooks
  | leaveHooks
  | readVersion
  | textVersion
  | writeVersion
  | newVersion
  /-- The fields of a version as a plain tuple. -/
  | versionItems
  | versionOfItems
  | versionEntries
  | replaceFields
  /-- Prepares a class that is derived from another one. -/
  | prepareClass
  /-- A method that all members of enumerations have. -/
  | ofMember (name : String)
  /-- A method that all enumerations have. -/
  | ofEnum (name : String)
  /-- Always answers the same text. -/
  | answer (text : String)
  deriving DecidableEq, Repr

/-- Whether a function belongs to a class itself and not to its objects. -/
def Routine.ofClass : Routine → Bool
  | readVersion | versionOfItems | prepareClass => true
  | _ => false

/-- Whether a function belongs to a class, but does not get it. -/
def Routine.isStatic : Routine → Bool
  | newVersion | ofMember "__new__" => true
  | _ => false

/-- A function of the library: the class it belongs to, its name and what it does. -/
structure Method where
  owner : String
  name : String
  body : Routine
  deriving DecidableEq, Repr

/-- What an attribute name stands for in a class. -/
inductive Member
  | slot
  | property (p : Property)
  | method (body : Routine)
  deriving DecidableEq, Repr

/-! ### Parameters -/

/-- The parameters of a function. -/
structure Signature where
  required : List String
  optional : List String
  /-- Whether any number of further arguments is taken. -/
  variadic : Bool
  /-- Whether any arguments with other names are taken. -/
  keywords : Bool
  deriving DecidableEq, Repr

/-- The parameters of a function that takes the given ones. -/
def Signature.exactly (required : List String) : Signature :=
  ⟨required, [], false, false⟩

/-- The parameters of a function that takes the given ones and then optional ones. -/
def Signature.upTo (required optional : List String) : Signature :=
  ⟨required, optional, false, false⟩

/-- The parameters of a routine. The first one is the object that it is called on. -/
def Routine.signature : Routine → Signature
  | initNode _ => ⟨["self"], [], false, true⟩
  | equalNode | equalReport | unequalReport => .exactly ["self", "other"]
  | assignNode => .exactly ["self", "key", "value"]
  | deepCopyNode => .exactly ["self", "memo"]
  | append _ => ⟨["self"], [], true, false⟩
  | appendTo => .exactly ["self", "key", "nodes"]
  | assign "implements" => .exactly ["self", "type_"]
  | assign key => .exactly ["self", key]
  | accept => .exactly ["self", "_resolver"]
  | extend => .exactly ["self", "items"]
  | initReport => .upTo ["self", "message"] ["stages", "node", "original_error"]
  | addStage => .exactly ["self", "stage"]
  | initPrune => .upTo ["self"] ["message", "prune"]
  | initInvalidInput => .exactly ["self", "value"]
  | initCallPrune => .exactly ["self", "message", "result"]
  | initPropPrune => .exactly ["self", "message", "error"]
  | findHook | findHooks => .upTo ["self", "kind"] ["is_leaving"]
  | initLockstep => .exactly ["self", "visitors"]
  | enterHooks | leaveHooks => ⟨["self", "visit_fns"], [], true, false⟩
  | prepareClass => .exactly ["cls"]
  | readVersion => .exactly ["cls", "v"]
  | newVersion => .exactly ("_cls" :: BasicType.versionFields)
  | versionOfItems => .exactly ["cls", "iterable"]
  | replaceFields => ⟨["self"], [], false, true⟩
  | ofMember "__new__" => .exactly ["cls", "value"]
  | ofMember "__format__" => .exactly ["self", "format_spec"]
  | ofMember "__reduce_ex__" => .exactly ["self", "proto"]
  | ofMember "__deepcopy__" => .exactly ["self", "memo"]
  | ofEnum "__contains__" => .exactly ["cls", "member"]
  | ofEnum "__getitem__" => .exactly ["cls", "name"]
  | ofEnum "__call__" => .upTo ["cls", "value"] ["names"]
  | ofEnum _ => .exactly ["cls"]
  | _ => .exactly ["self"]

end GraphQLTree
