import GraphQLTree.Behaviour.Arguments
import GraphQLTree.Behaviour.Attribute

/-! # Methods of nodes

Making a node assigns its keys, where a key that holds a sequence keeps the items of the given value
in a new child sequence. Appending replaces the sequence by a longer one, so a sequence that was
read before stays as it was. -/

namespace GraphQLTree.Action

/-! ### Making nodes -/

/-- The sequence kept for a value: that of its items, and an empty one for a value that is false. -/
def freeze (v : Value) : Action Value := do
  if ← isTrue v then Effect.frozen (← items v) else Effect.frozen []

/-- The argument given for a key. -/
def argumentOf (args : Attrs) (key : Value) : Action Value := do
  match key with
  | .text name => return (args.lookup name).getD .null
  | _ =>
    let _ ← digest key
    return .null

/-- Assigns the keys of a new node, one after the other. -/
def assignKeys (v : Value) (args : Attrs) (sequences : NameList) : List Value → Action Unit
  | [] => return ()
  | key :: rest => do
    let given ← argumentOf args key
    let x ← if ← sequences.has key then freeze given else pure given
    setAttr v (← nameOfAttr key) x
    assignKeys v args sequences rest

/-- The arguments, completed by a default. -/
def withDefault (default? : Option (String × Default)) (args : Attrs) : Attrs :=
  match default? with
  | some (key, default) => if (args.lookup key).isSome then args else args ++ [(key, default.value)]
  | none => args

/-- Assigns all keys of a node from arguments; those that are no keys are dropped. -/
def initNode (v : Value) (default? : Option (String × Default)) (args : Attrs) : Action Unit := do
  let sequences ← nameList v "sequence_keys"
  assignKeys v (withDefault default? args) sequences (← namesOf v "keys")

/-! ### Copying nodes -/

/-- The keys of a node with their values. -/
def keyValues (v : Value) : List Value → Action Attrs
  | [] => return []
  | key :: rest => do
    let name ← nameOfAttr key
    let x ← attr v name
    return (name, x) :: (← keyValues v rest)

/-- Attributes of which the last one of a name counts, in the place of the first. -/
def distinct (attrs : Attrs) : Attrs :=
  attrs.foldl (fun done (name, x) => done.set name x) []

/-- A new node of the same class with the same values for the keys. -/
def copyNode (v : Value) : Action Value := do
  let cls ← classOf v
  let args ← keyValues v (← namesOf v "keys")
  callWith cls [] (distinct args)

/-- The keys of a node with copies of their values. -/
def copiedValues (v : Value) (copies : Copies) : List Value → Action (Attrs × Copies)
  | [] => return ([], copies)
  | key :: rest => do
    let name ← nameOfAttr key
    let x ← attr v name
    let (y, copies) ← deepCopy copies x
    let (others, copies) ← copiedValues v copies rest
    return ((name, y) :: others, copies)

/-- A new node of the same class with copies of the values of the keys. -/
def deepCopyNode (copies : Copies) (v : Value) : Action (Value × Copies) := do
  let cls ← classOf v
  let (args, copies) ← copiedValues v copies (← namesOf v "keys")
  let copy ← callWith cls [] (distinct args)
  return (copy, copies)

/-! ### Changing nodes -/

/-- Appends the items of a value to the sequence under a key. -/
def appendTo (v key more : Value) : Action Unit := do
  let name ← nameOfAttr key
  setAttr v name (← callMethod (← attr v name) "extended" [more])

/-- Marks a type as non-null; that can be done only once. -/
def markNonNull (v : Value) : Action Unit := do
  if ← isTrue (← attr v "nullable") then setAttr v "nullable" (.bool false)
  else fail (.alreadyNonNull (← written v))

/-! ### Child sequences -/

/-- A sequence of the same type with the items of another value appended. -/
def extendedBy (v more : Value) : Action Value := do
  let own ← spread v
  let items := own ++ (← spread more)
  match (← get).cell? v with
  | some (.tuple .frozen _ _) => Effect.frozen items
  | _ => call (.type ((← get).typeOf v)) [← Effect.tuple items]

end GraphQLTree.Action
