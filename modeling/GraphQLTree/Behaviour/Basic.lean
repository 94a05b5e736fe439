import GraphQLTree.Store.Fields
import GraphQLTree.Store.Lineage

/-! # Behaviour

What a value does when it is read, called, compared or written may depend on other values in turn:
the description of a list needs those of its items, a property reads attributes, and an attribute
can be a function to be called. So the operations on values are given in two steps. An action is an
effect that uses the behaviour of other values. The operations of the library are actions, and each
of them is defined without recursion. How values behave is then defined by recursion on the depth
to which operations may use each other. -/

namespace GraphQLTree

/-- The copies made so far, by what they are copies of. -/
abbrev Copies := List (Ref × Value)

/-- How values behave. -/
structure Behaviour where
  /-- Reads an attribute. -/
  attr : Value → String → Effect Value
  /-- Assigns an attribute. -/
  setAttr : Value → String → Value → Effect Unit
  /-- Removes an attribute. -/
  delAttr : Value → String → Effect Unit
  /-- Calls a value with arguments, some of them by name. -/
  call : Value → List Value → Attrs → Effect Value
  /-- The truth value. -/
  isTrue : Value → Effect Bool
  /-- The items, if the value can be iterated. -/
  items? : Value → Effect (Option (List Value))
  /-- The written form, inside collections that are being written. -/
  written : List Ref → Value → Effect String
  /-- The text. -/
  text : Value → Effect String
  /-- The description; a value may provide one that is no text. -/
  describe : Value → Effect Value
  /-- Equality. -/
  equal : Value → Value → Effect Bool
  digest : Value → Effect Digest
  /-- A shallow copy. -/
  copy : Value → Effect Value
  /-- A deep copy, where copies were made before. -/
  deepCopy : Copies → Value → Effect (Value × Copies)

/-- The behaviour of values that are nested too deeply. -/
def Behaviour.exhausted : Behaviour where
  attr _ _ := throw .tooDeep
  setAttr _ _ _ := throw .tooDeep
  delAttr _ _ := throw .tooDeep
  call _ _ _ := throw .tooDeep
  isTrue _ := throw .tooDeep
  items? _ := throw .tooDeep
  written _ _ := throw .tooDeep
  text _ := throw .tooDeep
  describe _ := throw .tooDeep
  equal _ _ := throw .tooDeep
  digest _ := throw .tooDeep
  copy _ := throw .tooDeep
  deepCopy _ _ := throw .tooDeep

/-- An effect that uses the behaviour of values. -/
abbrev Action := ReaderT Behaviour Effect

namespace Action

/-! ### Using the behaviour of values -/

/-- Reads an attribute. -/
def attr (v : Value) (name : String) : Action Value := fun b => b.attr v name

/-- Assigns an attribute. -/
def setAttr (v : Value) (name : String) (x : Value) : Action Unit := fun b => b.setAttr v name x

/-- Removes an attribute. -/
def delAttr (v : Value) (name : String) : Action Unit := fun b => b.delAttr v name

/-- Calls a value with arguments, some of them by name. -/
def callWith (f : Value) (args : List Value) (keywords : Attrs) : Action Value :=
  fun b => b.call f args keywords

/-- Calls a value with arguments. -/
def call (f : Value) (args : List Value) : Action Value := callWith f args []

/-- The truth value of a value. -/
def isTrue (v : Value) : Action Bool := fun b => b.isTrue v

/-- The items of a value, if it can be iterated. -/
def items? (v : Value) : Action (Option (List Value)) := fun b => b.items? v

/-- The written form of a value inside collections that are being written. -/
def writtenIn (active : List Ref) (v : Value) : Action String := fun b => b.written active v

/-- The written form of a value. -/
def written (v : Value) : Action String := writtenIn [] v

/-- The text of a value. -/
def text (v : Value) : Action String := fun b => b.text v

/-- The description of a value. -/
def describe (v : Value) : Action Value := fun b => b.describe v

/-- Whether two values are equal. -/
def equal (a b : Value) : Action Bool := fun behaviour => behaviour.equal a b

/-- The digest of a value. -/
def digest (v : Value) : Action Digest := fun b => b.digest v

/-- A shallow copy of a value. -/
def copy (v : Value) : Action Value := fun b => b.copy v

/-- A deep copy of a value. -/
def deepCopy (copies : Copies) (v : Value) : Action (Value × Copies) := fun b => b.deepCopy copies v

/-! ### Failing -/

/-- Raises a new error for a fault. -/
def fail {α : Type} (fault : Fault) : Action α := (Effect.fail fault : Effect α)

/-- Raises an error for a fault that names the type of a value. -/
def failOn {α : Type} (fault : String → Fault) (v : Value) : Action α :=
  (Effect.failOn fault v : Effect α)

/-- Raises an error for the fault of a computation. -/
def ofExcept {α : Type} (r : Except Fault α) : Action α := (Effect.ofExcept r : Effect α)

/-- Raises a fault of types that names the type of a value between two texts; so many bytes of the
name are shown. -/
def failNaming {α : Type} (before : String) (v : Value) (room : Nat) (after : String) :
    Action α := do
  let name := Text.firstBytes room (← Effect.typeName v)
  Effect.fail (.other .badType (before ++ name ++ after))

/-- Handles the errors of a class. -/
def handling {α : Type} (cls : ErrorClass) (act : Action α) (handler : Ref → Action α) :
    Action α := fun b => Effect.handling cls (act b) fun e => handler e b

/-! ### Attributes that may be missing -/

/-- An attribute of a value, if the value has one of that name. -/
def attr? (v : Value) (name : String) : Action (Option Value) :=
  handling .badAttribute (some <$> attr v name) fun _ => return none

/-- An attribute of a value; null if the value has none of that name. -/
def attrOrNull (v : Value) (name : String) : Action Value :=
  return (← attr? v name).getD .null

/-! ### Items -/

/-- The items of a value; fails if it cannot be iterated. -/
def items (v : Value) : Action (List Value) := do
  match ← items? v with
  | some items => return items
  | none => failOn .notIterable v

/-- The items of a value that is spread into a sequence. -/
def spread (v : Value) : Action (List Value) := do
  match ← items? v with
  | some items => return items
  | none =>
    let s ← get
    if (s.special? (s.typeOf v) "__iter__").isSome then failOn .notIterable v
    else failOn .notSpreadable v

end Action

/-! ### Methods -/

namespace Store

/-- Whether a function that a type provides gets the object as its first argument. -/
def binds (s : Store) (f : Value) : Bool :=
  match f with
  | .function m => !m.body.ofClass && !m.body.isStatic
  | .native t name =>
    match t.memberForm? name with
    | some .method | some .wrapper => true
    | _ => false
  | _ =>
    match s.cell? f with
    | some (.stub _ _ _) => true
    | _ => false

/-- The function that the type of a value provides as a method, if no attribute of the value itself
hides it. -/
def method? (s : Store) (v : Value) (name : String) : Option Value :=
  match v, s.field? v name, s.classEntry? (s.typeOf v) name with
  | .type _, _, _ => none
  | _, none, some (_, .value f) => if s.binds f then some f else none
  | _, _, _ => none

/-- Whether a value can be called. -/
def isCallable (s : Store) (v : Value) : Bool :=
  match v, s.cell? v with
  | .type _, _ | .function _, _ => true
  | .native t name, _ => t.memberForm? name != some .data
  | _, some (.bound _ _) | _, some (.stub _ _ _) | _, some (.builtin _)
  | _, some (.applied _ _) => true
  | _, _ => (s.special? (s.typeOf v) "__call__").isSome

end Store

namespace Action

/-- Calls a method of a value. -/
def callMethod (v : Value) (name : String) (args : List Value) : Action Value := do
  match (← get).method? v name with
  | some (.native t name) => do call (← Effect.alloc (.bound v (.native t name))) args
  | some f => call f (v :: args)
  | none => call (← attr v name) args

/-- What stands in the place of a special method of a value. -/
def special? (v : Value) (name : String) : Action (Option Special) := do
  let s ← get
  return s.special? (s.typeOf v) name

/-- Calls a value that a class has under the name of a special method. -/
def callAssigned (f v : Value) (args : List Value) : Action Value := do
  if (← get).binds f then call f (v :: args) else call f args

/-- Calls what stands in the place of a special method of a value. -/
def callSpecial (special : Special) (v : Value) (args : List Value) : Action Value := do
  match special with
  | .assigned f => callAssigned f v args
  | .key name => call (← Effect.slotValue v name) args

/-- What stands in the place of a special method of a value, as a value; none if it is a key that
has no value. -/
def specialValue? (special : Special) (v : Value) : Action (Option Value) := do
  match special with
  | .assigned f => return some f
  | .key name =>
    handling .badAttribute (some <$> (Effect.slotValue v name : Effect Value)) fun _ => return none

/-! ### Classes that values show -/

/-- Whether the class that a value shows may be another one than its type. -/
def hidesClass (v : Value) : Action Bool := do
  return (← special? v "__class__").isSome || (← special? v "__getattribute__").isSome

/-- The class that a value shows; a key may stand in its place. -/
def classOf (v : Value) : Action Value := do
  if ← hidesClass v then attr v "__class__" else return .type ((← get).typeOf v)

/-- Whether a value is an object of a type or of one derived from it, by its type or by the class
that it shows. -/
def isOf (t : TypeValue) (v : Value) : Action Bool := do
  let s ← get
  if s.isSubtype (s.typeOf v) t then return true
  else if ← hidesClass v then
    match ← attr? v "__class__" with
    | some (.type u) => return (← get).isSubtype u t
    | _ => return false
  else return false

/-- Whether a value is an object of one of some types. -/
def isOfAny : List TypeValue → Value → Action Bool
  | [], _ => return false
  | t :: rest, v => do if ← isOf t v then return true else isOfAny rest v

end Action
end GraphQLTree
