import GraphQLTree.Node.Predicate
import GraphQLTree.Session
import GraphQLTree.Visitor.Definition
import GraphQLTree.Walk.Table

/-! # Single questions

Questions about a class, a value, the methods of a visitor or a version, each answered by itself. -/

namespace GraphQLTree

/-- The result of an action on a value made in a scope of its own. -/
def answerOn {α : Type} (decls : List ClassDecl) (defs : List (String × Literal))
    (value : Literal) (act : Value → Action α) : Except Failure α :=
  Effect.answer do
    let scope ← (Scope.build decls defs).perform
    let v ← (value.eval scope).perform
    (act v).perform

/-! ### Values -/

/-- The description of a value within limits. -/
def describeLiteral (decls : List ClassDecl) (defs : List (String × Literal)) (value : Literal)
    (limits : Limits) : Except Failure Portrait :=
  answerOn decls defs value fun v => do
    Action.portrait (← Action.describeWithin limits v)

/-- The dictionary of a tree. -/
def dictionaryOfLiteral (decls : List ClassDecl) (defs : List (String × Literal))
    (value : Literal) : Except Failure Portrait :=
  answerOn decls defs value fun v => do Action.portrait (← Action.dictionary v)

/-- The groups of classes that a value belongs to. -/
structure Groups where
  isDefinition : Bool
  isExecutableDefinition : Bool
  isSelection : Bool
  isValue : Bool
  isType : Bool
  isTypeSystemDefinition : Bool
  deriving Repr

/-- The groups of classes that a value belongs to. -/
def Groups.of (v : Value) : Action Groups := do
  return {
    isDefinition := ← Action.isDefinition v
    isExecutableDefinition := ← Action.isExecutableDefinition v
    isSelection := ← Action.isSelection v
    isValue := ← Action.isValue v
    isType := ← Action.isType v
    isTypeSystemDefinition := ← Action.isTypeSystemDefinition v }

/-- The groups of classes that a value belongs to. -/
def groupsOfLiteral (decls : List ClassDecl) (defs : List (String × Literal))
    (value : Literal) : Except Failure Groups :=
  answerOn decls defs value Groups.of

/-! ### Classes -/

/-- What there is to know about a class. -/
structure ClassSummary where
  cls : NodeClass
  /-- The names of its bases. -/
  bases : List String
  /-- The walked attributes of its kind. -/
  walked? : Option (List (String × String))
  /-- The written form of a node made without arguments. -/
  written : String
  /-- Such a node. -/
  default : Portrait
  deriving Repr

/-- What there is to know about a class of nodes. -/
def summarizeClass (cls : NodeClass) : Action ClassSummary := do
  if !cls.isNode then Effect.noAttribute (.type (.node cls)) "kind"
  let node ← Action.construct (.node cls) [] []
  let written ← Action.written node
  let bases := if cls.bases.isEmpty then [BasicType.object.name] else cls.baseClasses.map (·.name)
  return ⟨cls, bases, WalkTable.standard.lookup cls.kind, written, ← Action.portrait node⟩

/-- What there is to know about a class. -/
def summarize (decls : List ClassDecl) (defs : List (String × Literal)) (name : String) :
    Except Failure ClassSummary :=
  Effect.answer do
    let scope ← (Scope.build decls defs).perform
    (summarizeClass (← scope.nodeClass name)).perform

/-! ### Visitors -/

/-- Checks that an object of a class with the given methods, all of which answer null, can be asked
for its methods. -/
def checkAsked (names : List String) : Action Unit :=
  let method := "get_visit_fn"
  if names.contains "__new__" then Effect.noAttribute .null method
  else if names.contains "__getattribute__" then Action.failOn .notCallable .null
  else return ()

/-- For each kind, whether a visitor with the given methods has one for entering and leaving it.
The methods answer null whatever they are asked. -/
def definedHooks (names kinds : List String) : Except Failure (List (String × Bool × Bool)) :=
  let has := fun direction kind =>
    names.contains (hookName direction kind) && !names.contains "get_visit_fn"
  Effect.answer (do
    let _ ← Action.defineVisitors scriptClass (.ofAttrs names [])
    if !kinds.isEmpty then checkAsked names
    return kinds.map fun kind => (kind, has .enter kind, has .leave kind) : Action _).perform

/-! ### Versions -/

/-- The version written by a text. -/
def readVersion (s : String) : Except Failure Version :=
  Effect.answer (Effect.ofExcept (Action.readVersionText s))

/-- The text of a version with the given fields. -/
def versionText (fields : List Literal) : Except Failure String :=
  answerOn [] [] (.tuple .version fields) Action.text

end GraphQLTree
