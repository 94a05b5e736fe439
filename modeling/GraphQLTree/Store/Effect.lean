import GraphQLTree.Error.Fault
import GraphQLTree.Store.Basic

/-! # Effects

An effect reads and changes the store and ends with a value or is halted by an error. The error is
an object of the store, and the changes made before it stay. -/

namespace GraphQLTree

/-- What halts an effect. -/
inductive Halt
  /-- An error was raised; it lives in the store. -/
  | raised (e : Ref)
  /-- Values are nested more deeply than an operation follows. -/
  | tooDeep
  deriving DecidableEq, Repr

/-- An effect on the store. -/
abbrev Effect := ExceptT Halt (StateM Store)

/-- A new error of a class with arguments and no other attributes. -/
def ErrorObject.ofArgs (cls : ErrorClass) (args : List Value) : ErrorObject :=
  ⟨cls, none, args, none, .null, [], .own []⟩

namespace Effect

/-- The outcome of an effect and the store after it. -/
def runOn {α : Type} (act : Effect α) (s : Store) : Except Halt α × Store :=
  act.run.run s

/-- A new object. -/
def alloc (c : Cell) : Effect Value :=
  modifyGet fun s => (.ref s.size, (s.alloc c).2)

/-- Replaces an object. -/
def put (r : Ref) (c : Cell) : Effect Unit :=
  modify (·.put r c)

/-- The object a value refers to. -/
def cell? (v : Value) : Effect (Option Cell) :=
  return (← get).cell? v

/-- The name of the type of a value. -/
def typeName (v : Value) : Effect String :=
  return (← get).typeName v

/-- Raises a new error for a fault. -/
def fail {α : Type} (fault : Fault) : Effect α := do
  let s ← get
  set (s.alloc (.error (.ofArgs fault.errorClass fault.args))).2
  throw (.raised s.size)

/-- Raises an error for the fault of a computation. -/
def ofExcept {α : Type} : Except Fault α → Effect α
  | .ok a => return a
  | .error fault => fail fault

/-- Raises an error for a fault that names the type of a value. -/
def failOn {α : Type} (fault : String → Fault) (v : Value) : Effect α := do
  fail (fault (← typeName v))

/-- Reports that a value has no attribute of a name. -/
def noAttribute {α : Type} (v : Value) (attr : String) : Effect α := do
  let s ← get
  match v with
  | .type t => fail (.noTypeAttribute (s.nameOf t) attr)
  | _ => fail (.noAttribute (s.typeName v) attr)

/-- Reports that a value has no place for an attribute of a name. -/
def noPlace {α : Type} (v : Value) (attr : String) : Effect α := do
  let s ← get
  match v with
  | .type t => fail (.noTypeAttribute (s.nameOf t) attr)
  | _ => fail (.noPlace (s.typeName v) attr)

/-- A floating-point value of its own identity. -/
def float (x : Double) : Effect Value :=
  modifyGet fun s => (.float x s.nextTag, { s with nextTag := s.nextTag + 1 })

/-- A complex value of its own identity. -/
def complex (re im : Double) : Effect Value :=
  modifyGet fun s => (.complex re im s.nextTag, { s with nextTag := s.nextTag + 1 })

/-- A new list. -/
def list (items : List Value) : Effect Value :=
  alloc (.list items)

/-- A plain tuple; there is only one without items. -/
def tuple (items : List Value) : Effect Value := do
  let empty? := (← get).cells.findIdx? fun
    | .tuple .plain [] _ => true
    | _ => false
  match items, empty? with
  | [], some r => return .ref r
  | _, _ => alloc (.tuple .plain items (.own []))

/-- A new child sequence. -/
def frozen (items : List Value) : Effect Value :=
  alloc (.tuple .frozen items (.own []))

/-- Whether an error is of a class or of one derived from it. -/
def isErrorOf (cls : ErrorClass) (s : Store) (e : Ref) : Bool :=
  match s.error? (.ref e) with
  | some e => e.cls.lineage.contains cls
  | none => false

/-- Handles the errors of a class. -/
def handling {α : Type} (cls : ErrorClass) (act : Effect α) (handler : Ref → Effect α) :
    Effect α :=
  tryCatch act fun
    | .raised e => do
      if isErrorOf cls (← get) e then handler e else throw (.raised e)
    | halt => throw halt

end Effect
end GraphQLTree
