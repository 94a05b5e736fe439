import GraphQLTree.Behaviour.Level
import GraphQLTree.Node.Declaration
import GraphQLTree.Visitor.HookName

/-! # Definitions of visitor classes

A class of visitors is defined by what it has under some names: methods, which are functions, and
other values. Some names have a meaning for the definition itself. Keys can be listed; they must be
identifiers, and neither be defined as well nor stand for places that all visitors have. Values may
want to know the class and the name that they are defined under. At last the names that look like
methods are checked. -/

namespace GraphQLTree

/-- What a class has under its names, in order; none stands for a function. -/
abbrev Namespace := List (String × Option Value)

/-- The namespace of some functions and then of values; a value takes the place of a function of
the same name. -/
def Namespace.ofAttrs (functions : List String) (attrs : Attrs) : Namespace :=
  let own := functions.eraseDups.map fun name => (name, attrs.lookup name)
  let others := attrs.filter fun (name, _) => !functions.contains name
  own ++ others.map fun (name, v) => (name, some v)

/-- The name of the classes that are defined here. -/
def scriptClass : String := "TestVisitor"

namespace Action

/-- The keys that a namespace lists. -/
def listedKeys (names : Namespace) : Action (List Value) := do
  match names.lookup "__slots__" with
  | none => return []
  | some none => fail (.notIterable BasicType.function.name)
  | some (some (.text key)) => return [.text key]
  | some (some v) => items v

/-- Checks a listed key: visitors have places for other attributes and for being watched already. -/
def checkListedKey (v : Value) : Action String := do
  match v with
  | .text key =>
    match ClassDecl.checkKeys true true [key] with
    | .ok _ => return key
    | .error e => fail e.fault
  | _ => failNaming "__slots__ items must be strings, not '" v 200 "'"

/-- The names that keys may share with what a namespace defines. -/
def sharedNames : List String := ["__qualname__", "__classcell__"]

/-- The keys that a class of visitors defines, under the names by which they are kept. -/
def definedKeys (cls : String) (names : Namespace) : Action (List String) := do
  let keys ← (← listedKeys names).mapM checkListedKey
  let kept := keys.map (ClassDecl.slotName cls)
  match kept.find? fun key => (names.lookup key).isSome && !sharedNames.contains key with
  | some key => fail (.keyConflict key)
  | none => return NodeClass.sortNames kept

/-- Checks the names that say something about the class itself. -/
def checkReserved (names : Namespace) : Action Unit := do
  let typeOf (v? : Option Value) : Action TypeValue := do
    match v? with
    | none => return .basic .function
    | some v => return (← get).typeOf v
  match names.lookup "__qualname__" with
  | none | some (some (.text _)) => pure ()
  | some v? =>
    let type ← typeOf v?
    fail (.other .badType ("type __qualname__ must be a str, not " ++ (← get).nameOf type))
  match names.lookup "__classcell__" with
  | none => pure ()
  | some v? =>
    let type ← typeOf v?
    fail (.other .badType ("__classcell__ must be a nonlocal cell, not " ++
      (← get).writtenType type))

/-- Defines a class of visitors, and gives its keys. -/
def defineVisitors (cls : String) (names : Namespace) : Action (List String) := do
  let keys ← definedKeys cls names
  checkReserved names
  names.forM fun
    | (name, some v) => announce cls (.basic .visitor) name v
    | (_, none) => return ()
  ofExcept (checkHookNames (names.map Prod.fst ++ keys))
  return keys

end Action
end GraphQLTree
