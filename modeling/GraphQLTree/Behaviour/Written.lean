import GraphQLTree.Behaviour.Collection
import GraphQLTree.Number.Shortest
import GraphQLTree.Store.Home

/-! # Written forms and texts

The written form of a value shows all of it. A collection that contains itself is abbreviated where
it recurs. The text of a value is its written form, but for texts, errors, names and versions, which
are shown as they are. A class may be assigned a way of its own to write its objects. -/

namespace GraphQLTree

/-! ### Shapes -/

/-- The shape of a collection. -/
inductive Shape
  | list
  | tuple
  | braces
  deriving DecidableEq, Repr

/-- The items of a collection between the brackets of its shape. -/
def Shape.enclose : Shape → List String → String
  | list, items => "[" ++ ", ".intercalate items ++ "]"
  | tuple, [item] => "(" ++ item ++ ",)"
  | tuple, items => "(" ++ ", ".intercalate items ++ ")"
  | braces, items => "\x7b" ++ ", ".intercalate items ++ "\x7d"

/-- A collection whose items are not shown. -/
def Shape.abbreviated : Shape → String
  | list => "[...]"
  | tuple => "(...)"
  | braces => "\x7b...\x7d"

/-! ### Values without parts -/

/-- The written form of a built-in member of a type. -/
def writtenNative (t : BasicType) (name : String) : String :=
  let what := match functionType false (.native t name) with
    | .wrapperMember => "slot wrapper"
    | .dataMember | .fieldMember => "attribute"
    | .slotMember => "member"
    | _ => "method"
  "<" ++ what ++ " '" ++ name ++ "' of '" ++ t.name ++ "' objects>"

/-- The written form of a value that is not in the store. -/
def Store.writtenAtom (s : Store) : Value → String
  | .null => "None"
  | .bool b => if b then "True" else "False"
  | .int n => toString n
  | .text t => Text.quote t
  | .float x _ => x.write true
  | .complex re im _ => Double.writeComplex re im
  | .bytes bs => Text.quoteBytes bs
  | .operation op => "<OperationType." ++ op.name ++ ": " ++ Text.quote op.text ++ ">"
  | .skip => "<VisitorActionEnum.SKIP: False>"
  | .undecided => "NotImplemented"
  | .type t => s.writtenType t
  | .function m => "<function " ++ m.owner ++ "." ++ m.name ++ ">"
  | .property _ => "<property object>"
  | .slot owner key => "<member '" ++ key ++ "' of '" ++ owner ++ "' objects>"
  | .native t name => writtenNative t name
  | .ref _ => "<object>"

namespace Action

/-! ### Written forms -/

/-- The answer of a method for texts; it must be a text. -/
def textAnswer (method : String) (answer : Value) : Action String := do
  match answer with
  | .text t => return t
  | _ => fail (.badText method ((← get).typeName answer))

/-- The name of the class of a node. -/
def classNameOf (v : Value) : Action String := do
  match ← classOf v with
  | .type t => return (← get).nameOf t
  | cls => do text (← attr cls "__name__")

/-- The written form of a node: the name of its class, and its name if that is a text. -/
def writeNode (v : Value) : Action String := do
  let cls ← classNameOf v
  match ← attrOrNull v "name" with
  | .text name => return cls ++ " " ++ Text.quote name
  | name => if ← isOf (.basic .text) name then return cls ++ " " ++ (← written name) else return cls

/-- The written form of a child sequence: that of the list of its items. -/
def writeFrozen (active : List Ref) (items : List Value) : Action String := do
  return "FrozenList(" ++ Shape.list.enclose (← items.mapM (writtenIn active)) ++ ")"

/-- The written form of a version: its fields with their names. -/
def writeVersion (active : List Ref) (type : String) (items : List Value) : Action String := do
  let texts ← items.mapM (writtenIn active)
  return type ++ "(" ++ ", ".intercalate
    ((BasicType.versionFields.zip texts).map fun (name, text) => name ++ "=" ++ text) ++ ")"

/-- The written form of a prune error: its flag. -/
def writePrune (active : List Ref) (v : Value) : Action String := do
  let flag ← writtenIn active (← attr v "prune")
  return (← get).typeName v ++ "(prune=" ++ flag ++ ")"

/-- The written form of a failure report: its message, its stages if it has some and its node if it
has one. -/
def writeReport (active : List Ref) (v : Value) : Action String := do
  let message ← writtenIn active (← attr v "message")
  let stages ← attr v "stages"
  let stagesPart ← if ← isTrue stages then
      pure ["stages=" ++ (← writtenIn active stages)]
    else pure []
  let node ← attr v "node"
  let nodePart ← if node = .null then pure [] else
    pure ["node=" ++ (← text (← describe node))]
  return (← get).typeName v ++ "(" ++ ", ".intercalate (message :: stagesPart ++ nodePart) ++ ")"

/-- The written form of an error: its class and its arguments. -/
def writeError (active : List Ref) (type : String) (args : List Value) : Action String := do
  return type ++ "(" ++ ", ".intercalate (← args.mapM (writtenIn active)) ++ ")"

/-- The written form of a set. -/
def writeSet (active : List Ref) (frozen : Bool) (items : List Value) : Action String := do
  let body ← if items.isEmpty then pure ""
    else pure (Shape.braces.enclose (← items.mapM (writtenIn active)))
  if frozen then return "frozenset(" ++ body ++ ")"
  else if items.isEmpty then return "set()"
  else return body

/-- The written form of a parameter of a type: a type is written by its name and its home. -/
def writeParameter (active : List Ref) (v : Value) : Action String := do
  let s ← get
  match v with
  | .type t =>
    match s.homeOf? t with
    | some home => return home ++ "." ++ s.fullNameOf t
    | none => return s.fullNameOf t
  | _ => writtenIn active v

/-- The written form of a type with its parameters given. -/
def writeParametrized (active : List Ref) (v : Value) : Action String := do
  let type ← writeParameter active (← Effect.slotValue v "__origin__")
  let args := ((← get).sequence? (← Effect.slotValue v "__args__")).getD []
  let texts ← args.mapM (writeParameter active)
  return type ++ "[" ++ (if texts.isEmpty then "()" else ", ".intercalate texts) ++ "]"

/-- The written form of an object. -/
def writeCell (active : List Ref) (v : Value) (r : Ref) (c : Cell) : Action String := do
  let s ← get
  let type := s.typeName v
  let inside := r :: active
  let guarded := fun (shape : Shape) (act : Action String) =>
    if active.contains r then pure shape.abbreviated else act
  match c with
  | .node _ => writeNode v
  | .list items => guarded .list do
      return Shape.list.enclose (← items.mapM (writtenIn inside))
  | .tuple .plain items _ => guarded .tuple do
      return Shape.tuple.enclose (← items.mapM (writtenIn inside))
  | .tuple .frozen items _ => writeFrozen active items
  | .tuple .version items _ => writeVersion inside type items
  | .dict entries => guarded .braces do
      return Shape.braces.enclose (← entries.mapM fun e => do
        let key ← writtenIn inside e.key
        return key ++ ": " ++ (← writtenIn inside e.value))
  | .set frozen items => writeSet inside frozen (items.map Prod.snd)
  | .buffer bs => return Text.quoteBuffer bs
  | .error e =>
    match e.cls with
    | .visit => writeReport active v
    | .prune => writePrune active v
    | _ => writeError active type e.args
  | .object { cls := .basic .parametrized, .. } => writeParametrized active v
  | .object _ => return "<" ++ type ++ " object>"
  | .bound _ (.native _ name) => return "<built-in method " ++ name ++ ">"
  | .bound owner (.function m) => do
    return "<bound method " ++ m.owner ++ "." ++ m.name ++ " of " ++ (← written owner) ++ ">"
  | .bound owner f =>
    let name := match s.cell? f with
      | some (.stub _ name _) => name
      | _ => "?"
    return "<bound method " ++ name ++ " of " ++ (← written owner) ++ ">"
  | .stub _ name _ => return "<function " ++ name ++ ">"
  | .applied _ _ => return "<partial object>"
  | .builtin name => return "<built-in function " ++ name ++ ">"
  | .generator name _ => return "<generator object " ++ name ++ ">"
  | .iterator _ _ => return "<" ++ type ++ " object>"
  | .view .membersView d => return type ++ "(" ++ (← writtenIn active (.ref d)) ++ ")"
  | .view _ _ =>
    let items := (← items? v).getD []
    return type ++ "(" ++ Shape.list.enclose (← items.mapM (writtenIn inside)) ++ ")"
  | .newType _ _ => return s.writtenType (.made r)

/-- The written form of a value by what it is. -/
def writeContent (active : List Ref) (v : Value) : Action String := do
  match v, (← get).cell? v with
  | .ref r, some c => writeCell active v r c
  | _, _ => return (← get).writtenAtom v

/-- The written form of a value inside collections that are being written. -/
def writeIn (active : List Ref) (v : Value) : Action String := do
  match ← special? v "__repr__" with
  | some f => textAnswer "__repr__" (← callSpecial f v [])
  | none => writeContent active v

/-! ### Texts -/

/-- Texts joined by a separator; fails at the first item that is no text. -/
def joinTexts (separator : String) (items : List Value) : Action String := do
  let texts ← items.zipIdx.mapM fun
    | (.text t, _) => return t
    | (v, i) => failOn (.notText i) v
  return separator.intercalate texts

/-- The text of a failure report: its stages and then its message. -/
def textOfReport (v : Value) : Action String := do
  let stages ← spread (← attr v "stages")
  let message ← attr v "message"
  joinTexts ": " (stages ++ [message])

/-- The text of an error: that of its only argument, or the written form of several. The argument of
a look-up that failed is written. -/
def textOfError (cls : ErrorClass) : List Value → Action String
  | [] => return ""
  | [arg] => if cls = .missingKey then written arg else text arg
  | args => do return Shape.tuple.enclose (← args.mapM written)

/-- The text of a version: its numbers, and the start of its level and its serial number unless it
is final. -/
def textOfVersion (v : Value) : Action String := do
  let major ← text (← attr v "major")
  let minor ← text (← attr v "minor")
  let micro ← text (← attr v "micro")
  let numbers := major ++ "." ++ minor ++ "." ++ micro
  let level ← attr v "releaselevel"
  if ← equal level (.text "final") then return numbers
  else
    let start ← text (← sliceOf level ⟨.null, .int 1, .null⟩)
    return numbers ++ start ++ (← text (← attr v "serial"))

/-- The text of a value by what it is. -/
def textOfContent (v : Value) : Action String := do
  match v, (← get).cell? v with
  | .text t, _ => return t
  | .operation op, _ => return "OperationType." ++ op.name
  | .skip, _ => return "VisitorActionEnum.SKIP"
  | _, some (.error e) => if e.cls = .visit then textOfReport v else textOfError e.cls e.args
  | _, some (.tuple .version _ _) => textOfVersion v
  | _, _ => written v

/-- The text of a value. -/
def textOf (v : Value) : Action String := do
  match ← special? v "__str__" with
  | some f => textAnswer "__str__" (← callSpecial f v [])
  | none => textOfContent v

end Action
end GraphQLTree
