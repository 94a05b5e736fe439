import GraphQLTree.Behaviour.Written
import GraphQLTree.Behaviour.Attribute
import GraphQLTree.Behaviour.Sum
import GraphQLTree.Version

/-! # Methods of versions

A version is a tuple of five fields with names. It can be read from a text, made from a sequence of
fields, and taken over with some of its fields replaced. -/

namespace GraphQLTree.Action

/-- The fields of a version. -/
def versionFieldsOf (v : Version) : List Value :=
  [.int v.major, .int v.minor, .int v.micro, .text v.level, .int v.serial]

/-- The version written by a text. -/
def readVersionText (s : String) : Except Fault Version :=
  match Version.scan? s with
  | none => .error (.invalidVersion (Text.quote s))
  | some parts =>
    match parts.tooLong? with
    | some digits => .error (.tooManyDigits digits)
    | none => .ok parts.version

/-- The version written by a text, made by a type. -/
def readVersion (type v : Value) : Action Value := do
  match v, bytes? (← get) v with
  | .text s, _ => call type (versionFieldsOf (← ofExcept (readVersionText s)))
  | _, some _ => fail (.other .badType "cannot use a string pattern on a bytes-like object")
  | _, none =>
    fail (.other .badType ("expected string or bytes-like object, got '" ++ (← get).typeName v ++
      "'"))

/-- The version with the items of a value for its fields. -/
def versionOfItems (v : Value) : Action Value := do
  let fields ← items v
  if fields.length = BasicType.versionFields.length then
    Effect.alloc (.tuple .version fields (.own []))
  else fail (.other .badType ("Expected 5 arguments, got " ++ toString fields.length))

/-- The dictionary of the fields of a version. -/
def versionEntries (v : Value) : Action Value := do
  Effect.alloc (.dict ((BasicType.versionFields.zip (← items v)).map fun (name, x) =>
    textEntry name x))

/-- A version with some of its fields replaced. -/
def replaceFields (v : Value) (args : Attrs) : Action Value := do
  let old := BasicType.versionFields.zip (← items v)
  let fields := old.map fun (name, x) => (args.lookup name).getD x
  match (args.map Prod.fst).filter fun name => !BasicType.versionFields.contains name with
  | [] => Effect.alloc (.tuple .version fields (.own []))
  | unknown =>
    fail (.other .badValue ("Got unexpected field names: " ++
      Shape.list.enclose (unknown.map Text.quote)))

end GraphQLTree.Action
