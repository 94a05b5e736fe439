import GraphQLTree.Behaviour.Level
import GraphQLTree.Error.Report
import GraphQLTree.Walk.Stage
import GraphQLTree.Walk.Table

/-! # Walks

A walk goes through a document or a schema depth first and calls the methods of a visitor when it
enters and when it leaves a node, a list of nodes, or an element of a list of variants. A method may
answer that the children are to be skipped, by its result or by raising a prune signal; the node is
left all the same. Any other error aborts the walk with a failure report.

A visitor has a state of its own, of any type. Looking up one of its methods is a step by itself,
which may change the state or fail. The kind of a node is an attribute like any other, so it need
not be a text; only the kinds of lists always are. -/

namespace GraphQLTree

/-! ### The world of a walk -/

/-- What a walk can change: the store, the log, and the state of the visitors. -/
structure World (σ : Type) where
  store : Store
  log : List String
  state : σ

/-- A step of a walk. -/
abbrev Act (σ : Type) := ExceptT Halt (StateM (World σ))

namespace Act

variable {σ α : Type}

/-- The outcome of a step and the world after it. -/
def runOn (act : Act σ α) (w : World σ) : Except Halt α × World σ :=
  act.run.run w

/-- An effect on the store as a step. -/
def effect (e : Effect α) : Act σ α :=
  ExceptT.mk fun w =>
    let (outcome, store) := e.runOn w.store
    (outcome, { w with store })

instance : MonadLift Effect (Act σ) := ⟨effect⟩

instance : MonadLift Action (Act σ) := ⟨fun act => effect act.perform⟩

/-- The store. -/
def store : Act σ Store :=
  return (← getThe (World σ)).store

/-- Writes a line to the log. -/
def log (line : String) : Act σ Unit :=
  modifyThe (World σ) fun w => { w with log := w.log ++ [line] }

/-- Handles the ordinary errors of a step; interruptions pass through. -/
def handle (act : Act σ α) (handler : Ref → Act σ α) : Act σ α :=
  tryCatch act fun
    | .raised e => do
      if Effect.isErrorOf .general (← store) e then handler e else throw (.raised e)
    | halt => throw halt

/-- Does something about the failure report of a step, which stays raised. -/
def onReport (act : Act σ α) (note : Ref → Act σ Unit) : Act σ α :=
  tryCatch act fun
    | .raised e => do
      if (← store).isReport (.ref e) then note e
      throw (.raised e)
    | halt => throw halt

/-- A step whose failure report passes through a stage. -/
def within (stage : Stage) (act : Act σ α) : Act σ α :=
  act.onReport fun e => Action.recordStage (.ref e) stage.text

end Act

/-! ### Visitors -/

/-- A method of a visitor. It is called with a node and the context, or for a list only with the
context. -/
abbrev Hook (σ : Type) := List Value → Act σ Value

/-- What a visitor is asked for: its method for a kind and a direction. -/
structure Lookup where
  kind : Value
  direction : Direction
  /-- Whether another visitor asks, and not the walk itself. -/
  relayed : Bool

/-- A visitor: how its methods are found. -/
structure Visitor (σ : Type) where
  hook? : Lookup → Act σ (Option (Hook σ))

namespace Act

variable {σ : Type}

/-- Runs a method and tells whether it asks to skip the children, by its result or by a signal.
An error that is no signal is given to `fatal`. -/
def judge (run : Act σ Value) (fatal : Ref → Act σ Bool) : Act σ Bool :=
  handle (return Action.asksToPrune (← run)) fun e => do
    match ← Action.pruneSignal (.ref e) with
    | some prune => return prune
    | none => fatal e

end Act

/-! ### The walk -/

/-- The choices of a walk. -/
structure WalkOptions where
  table : WalkTable
  /-- Whether pruned nodes and aborted walks are logged. -/
  debug : Bool
  /-- How deeply nested nodes are followed. -/
  depthLimit : Nat

/-- The standard choices. -/
def WalkOptions.standard : WalkOptions := ⟨.standard, false, 1000⟩

namespace Action

/-- A kind in plain words. -/
def kindWords : Value → Action String
  | .text kind => return plainKind kind
  | kind => do text (← callMethod kind "replace" [.text "_", .text " "])

/-- The walked attributes of a kind. A kind that is no text has none, but it must be fit to be
looked up. -/
def walkedAttrs (table : WalkTable) (kind : Value) : Action (List (String × String)) := do
  let _ ← digest kind
  match kind with
  | .text kind => return table.entries kind
  | _ => return []

/-- Checks that a dictionary did not grow or shrink while its keys are gone through. -/
def checkSize (v : Value) (count : Nat) : Action Unit := do
  match (← get).dict? v with
  | some entries => if entries.length ≠ count then fail .changedSize
  | none => return ()

/-- The root of a walk: a document or a schema. -/
def checkRoot (root : Value) : Action Unit := do
  if !(← isOfAny [.node .document, .node .schema] root) then
    raiseNew .invalidInput [root]

end Action

section

variable {σ : Type} (options : WalkOptions) (visitor : Visitor σ) (context : Value)

/-- The arguments of a method. -/
def hookArgs (node? : Option Value) : List Value :=
  match node? with
  | some node => [node, context]
  | none => [context]

/-- Raises the report of an error that a method raised. -/
def abort {α : Type} (kind : Value) (direction : Direction) (node? : Option Value) (e : Ref) :
    Act σ α := do
  let words ← Action.kindWords kind
  let stage := Value.text (Stage.hook words direction).text
  let report ← Action.wrap (.ref e) stage (node?.getD .null)
  Action.raise report

/-- Calls the method for a kind that is entered, and tells whether to skip the children. -/
def enterStep (kind : Value) (node? : Option Value) : Act σ Bool := do
  match ← visitor.hook? ⟨kind, .enter, false⟩ with
  | none => return false
  | some hook =>
    let pruned ← Act.judge (hook (hookArgs context node?)) (abort kind .enter node?)
    if pruned && options.debug then
      let shown ← match node? with
        | none => Action.text kind
        | some node => Action.describedText node
      Act.log ("Pruning " ++ shown ++ ".")
    return pruned

/-- Calls the method for a kind that is left. There is nothing left to skip then. -/
def leaveStep (kind : Value) (node? : Option Value) : Act σ Unit := do
  match ← visitor.hook? ⟨kind, .leave, false⟩ with
  | none => return ()
  | some hook =>
    discard (Act.judge (hook (hookArgs context node?)) (abort kind .leave node?))

/-- Raises a report about an element that does not belong into its list. -/
def rejectElement {α : Type} (kind : String) (element : Value) : Act σ α := do
  let description ← Action.describedText element
  Action.raiseNew .visit [.text (invalidElementText (plainKind kind) description)]

/-- Walks an element of a list, where `visit` walks a node. The elements of a list of variants are
entered and left themselves, around the node that they are. -/
def walkElement (visit : Value → Act σ Unit) (kind : String) (element : Value) :
    Act σ Unit := do
  match variants? kind with
  | some classes =>
    if ← Action.isOfAny (classes.map TypeValue.node) element then
      unless ← enterStep options visitor context (.text kind) (some element) do
        Act.onReport (visit element) fun e => do
          let words ← Action.kindWords (← Action.attr element "kind")
          Action.recordStage (.ref e) (Stage.variant words).text
      leaveStep visitor context (.text kind) (some element)
    else rejectElement kind element
  | none =>
    if ← Action.isOf (.node .node) element then visit element else rejectElement kind element

/-- Walks a list of nodes of a kind, where `visit` walks a node. Nothing is done for a value that is
false, such as null or an empty sequence. -/
def walkList (visit : Value → Act σ Unit) (kind : String) (nodes : Value) : Act σ Unit := do
  if ← Action.isTrue nodes then
    let listKind := Value.text (kind ++ "_list")
    unless ← enterStep options visitor context listKind none do
      let elements ← Action.items nodes
      elements.forM fun element => do
        Act.within (.element (plainKind kind))
          (walkElement options visitor context visit kind element)
        Action.checkSize nodes elements.length
    leaveStep visitor context listKind none

/-- Walks a node, with `depth` levels of nesting to go. -/
def walkNode (depth : Nat) (node : Value) : Act σ Unit := do
  match depth with
  | 0 => throw .tooDeep
  | depth + 1 =>
    let kind ← Action.attr node "kind"
    unless ← enterStep options visitor context kind (some node) do
      let walked ← Action.walkedAttrs options.table kind
      walked.forM fun (key, listKind) =>
        Act.within (.list (plainKind listKind)) do
          let nodes ← Action.attr node key
          walkList options visitor context (walkNode depth) listKind nodes
    leaveStep visitor context kind (some node)

/-- Walks from a root. -/
def walkFrom (root : Value) : Act σ Unit :=
  Act.onReport (walkNode options visitor context options.depthLimit root) fun e => do
    if options.debug then
      let shown ← Action.describedText root
      let text ← Action.text (.ref e)
      Act.log ("Walk over " ++ shown ++ " aborted: " ++ text)

/-- Walks through a document or a schema. -/
def walk (root : Value) : Act σ Unit := do
  Action.checkRoot root
  walkFrom options visitor context root

end

end GraphQLTree
