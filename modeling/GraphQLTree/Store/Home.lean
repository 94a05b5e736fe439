import GraphQLTree.Node.Language
import GraphQLTree.Store.Basic
import GraphQLTree.Text.Quoted

/-! # Where classes are at home

The written form of a class tells where the class is defined, unless it is one that needs no
definition. Classes that a session declares are at home in the session. A class keeps the name that
it was defined under in its written form, even if it gets another name. -/

namespace GraphQLTree

/-- Where the classes of a session are at home. -/
def sessionHome : String := "__main__"

/-- Where the classes of the library are at home. -/
def libraryHome (part : String) : String :=
  "graphql_walker." ++ part

/-- Where a basic type is at home, if it needs a definition. -/
def BasicType.home? : BasicType → Option String
  | .frozen => some (libraryHome "pyutils.frozen_list")
  | .version => some (libraryHome "version")
  | .visitor | .lockstep | .action => some (libraryHome "language.visitor")
  | .operation => some (libraryHome "language.ast")
  | .enum | .enumType => some "enum"
  | .applied => some "functools"
  | .generic => some "typing"
  | .parametrized => some "types"
  | .fieldMember => some "collections"
  | _ => none

/-- Where a class of errors is at home, if it needs a definition. -/
def ErrorClass.home? : ErrorClass → Option String
  | .prune => some (libraryHome "error.prune_error")
  | .visit => some (libraryHome "error.visit_error")
  | .invalidInput => some (libraryHome "error.invalid_input_type_error")
  | .callPrune | .failPrune | .propPrune | .falsy => some sessionHome
  | _ => none

/-- Whether a class of nodes is one of the library. -/
def Level.isOfLibrary (l : Level) : Bool :=
  (Catalog.language.get? l.serial).isSome

/-- Where a class of nodes is at home. -/
def Level.home (l : Level) : String :=
  if l.isOfLibrary then libraryHome "language.ast" else sessionHome

/-- The basic types whose functions are at home in the library. -/
def libraryTypes : List BasicType := [.frozen, .version, .visitor, .lockstep, .enum, .enumType]

/-- The classes of errors whose functions are at home somewhere. -/
def definedErrors : List ErrorClass :=
  [.prune, .visit, .invalidInput, .callPrune, .failPrune, .propPrune, .falsy]

/-- Where a function of a class is at home, by the name of the class. -/
def functionHome (owner : String) : String :=
  match libraryTypes.find? (·.name == owner), definedErrors.find? (·.name == owner) with
  | some t, _ => t.home?.getD sessionHome
  | none, some c => c.home?.getD sessionHome
  | none, none =>
    if (Catalog.language.find? owner).isSome then libraryHome "language.ast" else sessionHome

namespace Store

/-- Where a type is at home, if it needs a definition. -/
def homeOf? (s : Store) (t : TypeValue) : Option String :=
  match s.classAttr? t.id "__module__", t with
  | some (.text home), _ => if home = "builtins" then none else some home
  | some _, _ => none
  | _, .basic t => t.home?
  | _, .node c => some c.home
  | _, .error c => c.home?
  | _, .made _ => some sessionHome

/-- The name that a type was defined under. -/
def fullNameOf (s : Store) (t : TypeValue) : String :=
  match s.classAttr? t.id "__qualname__", t with
  | some (.text name), _ => name
  | _, .basic t => t.name
  | _, .node c => c.name
  | _, .error c => c.name
  | _, .made r =>
    match s.get? r with
    | some (.newType name _) => name
    | _ => "object"

/-- The written form of a type. -/
def writtenType (s : Store) (t : TypeValue) : String :=
  if metaType t = .enumType then "<enum " ++ Text.quote (s.nameOf t) ++ ">"
  else match s.homeOf? t with
    | some home => "<class '" ++ home ++ "." ++ s.fullNameOf t ++ "'>"
    | none => "<class '" ++ s.nameOf t ++ "'>"

end Store
end GraphQLTree
