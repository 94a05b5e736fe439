import GraphQLTree.Error.Fault
import GraphQLTree.Node.Language
import GraphQLTree.Walk.Stage

/-! # Names of visitor methods

A visitor method is named by a direction and a kind, as in `enter_selection_field`, or by a
direction and the kind of a list, as in `leave_selection_list`. When a visitor is defined, all its
names that look like methods are checked, so that a misspelt method is not silently ignored. -/

namespace GraphQLTree

/-- The ending of the kinds of lists. -/
def listSuffix : List Char := "_list".toList

/-- A kind without one ending `_list`. -/
def elementKind (kind : String) : String :=
  let cs := kind.toList
  if listSuffix.isSuffixOf cs then String.ofList (cs.take (cs.length - listSuffix.length)) else kind

/-- Whether visitor methods can be defined for a kind: the capitalised form of the kind names a
class of the language, or it is a kind of variants. -/
def isHookKind (kind : String) : Bool :=
  let kind := elementKind kind
  (variants? kind).isSome || (Catalog.language.find? (Text.toCamelCase kind ++ "Node")).isSome

/-- The name of the method for a direction and a kind. -/
def hookName (direction : Direction) (kind : String) : String :=
  direction.word ++ "_" ++ kind

/-- The text after the first underscore, and the one before it. -/
def splitName (name : String) : String × String :=
  let cs := name.toList
  (String.ofList (cs.takeWhile (· != '_')), String.ofList ((cs.dropWhile (· != '_')).drop 1))

/-- The kind that a name is a visitor method for, if it looks like one. -/
def hookKind? (name : String) : Option String :=
  if name.startsWith "_" then none
  else
    let (method, kind) := splitName name
    if (method = "enter" || method = "leave") && kind ≠ "" then some kind else none

/-- Checks the names that a visitor defines, in order. -/
def checkHookNames (names : List String) : Except Fault Unit :=
  names.forM fun name =>
    match hookKind? name with
    | some kind => if isHookKind kind then .ok () else .error (.invalidKind kind)
    | none => .ok ()

/-- The names of the methods for all kinds of the language and their lists. -/
def allHookNames : List String :=
  NodeClass.builtin.flatMap fun c =>
    [c.kind, c.kind ++ "_list"].flatMap fun kind =>
      [hookName .enter kind, hookName .leave kind]

end GraphQLTree
