import GraphQLTree.Store.Value

/-! # The store

Objects that can be shared or changed live in the cells of a store. A cell is never removed, so a
reference stays good; allocation adds a cell at the end and leaves the others as they are. -/

namespace GraphQLTree

/-! ### Attributes -/

/-- Attributes by their names. -/
abbrev Attrs := List (String × Value)

namespace Attrs

/-- Assigns an attribute: in its place if it is there, and at the end otherwise. -/
def set (attrs : Attrs) (attr : String) (v : Value) : Attrs :=
  match attrs with
  | [] => [(attr, v)]
  | (a, w) :: rest => if a = attr then (a, v) :: rest else (a, w) :: set rest attr v

/-- Removes an attribute. -/
def remove (attrs : Attrs) (attr : String) : Attrs :=
  attrs.filter (·.1 != attr)

end Attrs

/-- The attributes of an object that can have any: its own until its dictionary is asked for, and
those in that dictionary from then on. -/
inductive Fields
  | own (attrs : Attrs)
  | shared (dict : Ref)
  deriving DecidableEq, Repr

/-! ### Objects -/

/-- A node: its class, the values of its keys, its other attributes, and its digest if that was
computed since the last time one of its keys was assigned. -/
structure NodeObject where
  cls : NodeClass
  slots : Attrs
  fields : Fields
  digest? : Option Digest
  deriving DecidableEq, Repr

/-- An error: its class, the arguments it was made with, and its attributes. -/
structure ErrorObject where
  cls : ErrorClass
  /-- The class made on its own that it is an object of, if it is; it is derived from `cls`. -/
  made? : Option Ref
  args : List Value
  /-- The tuple of the arguments, if it was asked for. -/
  tuple? : Option Ref
  /-- The error that it was raised from. -/
  cause : Value
  /-- Attributes that errors of its class have from the start. -/
  data : Attrs
  fields : Fields
  deriving DecidableEq, Repr

/-- An object that is neither a node nor an error. -/
structure PlainObject where
  cls : TypeValue
  slots : Attrs
  fields : Fields
  deriving DecidableEq, Repr

/-- What kind of tuple a tuple is. -/
inductive TupleForm
  | plain
  /-- The form of child sequences: it can be extended to a new one. -/
  | frozen
  /-- The five fields of a version. -/
  | version
  deriving DecidableEq, Repr

/-- What kind of function a function without a body is. -/
inductive StubForm
  | function
  | generatorFunction
  deriving DecidableEq, Repr

/-- How far a generator of one item has come. -/
inductive Progress
  | fresh
  /-- Its item was taken. -/
  | paused
  | done
  deriving DecidableEq, Repr

/-- An entry of a dictionary. -/
structure Entry where
  digest : Digest
  key : Value
  value : Value
  deriving DecidableEq, Repr

/-- What is left of an iteration. -/
inductive Steps
  /-- These items, whatever happens meanwhile. -/
  | fixed (rest : List Value)
  /-- The items of a sequence from a place on, as they are when their turn comes. -/
  | forward (source : Value) (place : Nat)
  /-- The items of a list before a place, the last one first. -/
  | backward (source : Value) (place : Nat)
  /-- The members of a set, or the keys, values or items of a dictionary, from a place on; their
  number must not change. -/
  | keyed (source : Value) (form : BasicType) (place size : Nat)
  /-- The keys, values or items of a dictionary before a place, the last one first; their number
  must not change. -/
  | keyedBack (source : Value) (form : BasicType) (place size : Nat)
  /-- Nothing that can be given: the number of items of a set or a dictionary has changed. -/
  | spoiled (form : BasicType)
  deriving DecidableEq, Repr

/-- The content of a cell. -/
inductive Cell
  | node (n : NodeObject)
  | list (items : List Value)
  | tuple (form : TupleForm) (items : List Value) (fields : Fields)
  | dict (entries : List Entry)
  | set (frozen : Bool) (items : List (Digest × Value))
  | buffer (bs : List UInt8)
  | error (e : ErrorObject)
  | object (o : PlainObject)
  /-- A function bound to the value that it is called on. -/
  | bound (owner function : Value)
  /-- A function that takes any arguments and answers null. -/
  | stub (form : StubForm) (name : String) (fields : Fields)
  /-- A function with its first arguments. -/
  | applied (function : Value) (args : List Value)
  /-- A built-in function. -/
  | builtin (name : String)
  /-- A generator of one null. -/
  | generator (name : String) (progress : Progress)
  | iterator (type : String) (steps : Steps)
  /-- The keys, values or items of a dictionary, as they are at the moment. -/
  | view (form : BasicType) (dict : Ref)
  /-- A class made on its own. -/
  | newType (name : String) (isError : Bool)
  deriving DecidableEq, Repr

namespace Cell

/-- The attributes of an object that can have any. -/
def fields? : Cell → Option Fields
  | node n => some n.fields
  | tuple .frozen _ fields => some fields
  | error e => some e.fields
  | object o =>
    match o.cls with
    | .node c => if c.hasFields then some o.fields else none
    | .basic .object | .basic .membersView | .basic .parametrized => none
    | _ => some o.fields
  | stub _ _ fields => some fields
  | _ => none

/-- An object with other attributes. -/
def withFields (c : Cell) (fields : Fields) : Cell :=
  match c with
  | node n => node { n with fields }
  | tuple form items _ => tuple form items fields
  | error e => error { e with fields }
  | object o => object { o with fields }
  | stub form name _ => stub form name fields
  | c => c

/-- The values of the keys of an object. -/
def slots : Cell → Attrs
  | node n => n.slots
  | object o => o.slots
  | _ => []

/-- An object with other values of its keys. -/
def withSlots (c : Cell) (slots : Attrs) : Cell :=
  match c with
  | node n => node { n with slots }
  | object o => object { o with slots }
  | c => c

end Cell

/-! ### Types -/

/-- The type of a function bound to a value, and of one that is not. -/
def functionType (isBound : Bool) : Value → BasicType
  | .native .version _ => .fieldMember
  | .native t name =>
    match t.memberForm? name with
    | some .wrapper => if isBound then .wrapper else .wrapperMember
    | some .ofClass => if isBound then .builtin else .classMember
    | some .static => .builtin
    | some .data =>
      if t = .failure && (t.ownData.contains name || name = "__suppress_context__") then
        .slotMember
      else .dataMember
    | _ => if isBound then .builtin else .methodMember
  | _ => if isBound then .method else .function

/-- The type of an object. -/
def Cell.type : Cell → TypeValue
  | .node n => .node n.cls
  | .list _ => .basic .list
  | .tuple .plain _ _ => .basic .tuple
  | .tuple .frozen _ _ => .basic .frozen
  | .tuple .version _ _ => .basic .version
  | .dict _ => .basic .dict
  | .set frozen _ => .basic (if frozen then .frozenSet else .set)
  | .buffer _ => .basic .buffer
  | .error e =>
    match e.made? with
    | some r => .made r
    | none => .error e.cls
  | .object o => o.cls
  | .bound _ f => .basic (functionType true f)
  | .stub _ _ _ => .basic .function
  | .applied _ _ => .basic .applied
  | .builtin _ => .basic .builtin
  | .generator _ _ => .basic .generator
  | .iterator _ _ => .basic .iterator
  | .view t _ => .basic t
  | .newType _ _ => .basic .type

/-! ### The store -/

/-- A class, as the holder of attributes assigned to it. -/
inductive ClassId
  | basic (t : BasicType)
  | node (serial : Nat)
  | error (c : ErrorClass)
  | made (r : Ref)
  /-- A member of an enumeration, which has attributes of its own. -/
  | member (op : OperationType)
  deriving DecidableEq, Repr

/-- The class that attributes assigned to a type belong to. -/
def TypeValue.id : TypeValue → ClassId
  | .basic t => .basic t
  | .node c => .node c.serial
  | .error c => .error c
  | .made r => .made r

/-- The cells, the number of the next tag of a floating-point value, the attributes that were
assigned to classes, and the built-in data that was assigned to functions and generators. -/
structure Store where
  cells : Array Cell
  nextTag : Nat
  classAttrs : List ((ClassId × String) × Value)
  functionData : List ((Ref × String) × Value)

namespace Store

/-- The store without objects. -/
def empty : Store := ⟨#[], 0, [], []⟩

/-- The number of cells. -/
def size (s : Store) : Nat :=
  s.cells.size

/-- The content of a cell. -/
def get? (s : Store) (r : Ref) : Option Cell :=
  s.cells[r]?

/-- A new cell at the end. -/
def alloc (s : Store) (c : Cell) : Ref × Store :=
  (s.cells.size, { s with cells := s.cells.push c })

/-- Replaces the content of a cell. -/
def put (s : Store) (r : Ref) (c : Cell) : Store :=
  { s with cells := s.cells.setIfInBounds r c }

theorem get?_alloc (s : Store) (c : Cell) : (s.alloc c).2.get? (s.alloc c).1 = some c := by
  simp [alloc, get?]

theorem get?_alloc_of_lt (s : Store) (c : Cell) {r : Ref} (h : r < s.size) :
    (s.alloc c).2.get? r = s.get? r := by
  simp only [alloc, get?]
  rw [Array.getElem?_push_lt h]
  exact (Array.getElem?_eq_getElem h).symm

theorem get?_put_ne (s : Store) (c : Cell) {r r' : Ref} (h : r ≠ r') :
    (s.put r c).get? r' = s.get? r' := by
  simp [put, get?, Array.getElem?_setIfInBounds_ne h]

theorem get?_put (s : Store) (c : Cell) {r : Ref} (h : r < s.size) :
    (s.put r c).get? r = some c := by
  simp only [size] at h
  simp [put, get?, h]

@[simp] theorem size_alloc (s : Store) (c : Cell) : (s.alloc c).2.size = s.size + 1 := by
  simp [alloc, size]

@[simp] theorem size_put (s : Store) (r : Ref) (c : Cell) : (s.put r c).size = s.size := by
  simp [put, size]

/-! ### Looking at values -/

/-- The object a value refers to. -/
def cell? (s : Store) : Value → Option Cell
  | .ref r => s.get? r
  | _ => none

/-- The node a value refers to. -/
def node? (s : Store) (v : Value) : Option NodeObject :=
  match s.cell? v with
  | some (.node n) => some n
  | _ => none

/-- The error a value refers to. -/
def error? (s : Store) (v : Value) : Option ErrorObject :=
  match s.cell? v with
  | some (.error e) => some e
  | _ => none

/-- Whether a value is a node of the given class or of one derived from it. -/
def isInstance (s : Store) (v : Value) (c : NodeClass) : Bool :=
  match s.node? v with
  | some n => n.cls.isA c
  | none => false

/-- Whether a value is a failure report. -/
def isReport (s : Store) (v : Value) : Bool :=
  match s.error? v with
  | some e => e.cls == .visit
  | none => false

/-- The items of a list or a tuple. -/
def sequence? (s : Store) (v : Value) : Option (List Value) :=
  match s.cell? v with
  | some (.list items) => some items
  | some (.tuple _ items _) => some items
  | _ => none

/-- The entries of a dictionary. -/
def dict? (s : Store) (v : Value) : Option (List Entry) :=
  match s.cell? v with
  | some (.dict entries) => some entries
  | _ => none

/-! ### Types of values -/

/-- The type of a type. -/
def metaType : TypeValue → BasicType
  | .basic .operation | .basic .action | .basic .enum => .enumType
  | _ => .type

/-- The type of a value. -/
def typeOf (s : Store) : Value → TypeValue
  | .null => .basic .null
  | .bool _ => .basic .bool
  | .int _ => .basic .int
  | .text _ => .basic .text
  | .float _ _ => .basic .float
  | .complex _ _ _ => .basic .complex
  | .bytes _ => .basic .bytes
  | .operation _ => .basic .operation
  | .skip => .basic .action
  | .undecided => .basic .undecided
  | .type t => .basic (metaType t)
  | .function _ => .basic .function
  | .property _ => .basic .property
  | .slot _ _ => .basic .slotMember
  | .native t name => .basic (functionType false (.native t name))
  | .ref r => ((s.get? r).map Cell.type).getD (.basic .object)

/-- The attribute assigned to a class. -/
def classAttr? (s : Store) (id : ClassId) (name : String) : Option Value :=
  s.classAttrs.lookup (id, name)

/-- The name of a type. -/
def nameOf (s : Store) (t : TypeValue) : String :=
  match s.classAttr? t.id "__name__" with
  | some (.text name) => name
  | _ =>
    match t with
    | .basic t => t.name
    | .node c => c.name
    | .error c => c.name
    | .made r =>
      match s.get? r with
      | some (.newType name _) => name
      | _ => "object"

/-- The name of the type of a value. -/
def typeName (s : Store) (v : Value) : String :=
  match s.cell? v with
  | some (.iterator type _) => type
  | _ => s.nameOf (s.typeOf v)

/-- Whether a class made on its own is a class of errors. -/
def isErrorType (s : Store) (r : Ref) : Bool :=
  match s.get? r with
  | some (.newType _ isError) => isError
  | _ => false

/-- The class of errors that a type is, or is derived from. -/
def errorClass? (s : Store) : TypeValue → Option ErrorClass
  | .error c => some c
  | .made r => if s.isErrorType r then some .general else none
  | _ => none

end Store
end GraphQLTree
