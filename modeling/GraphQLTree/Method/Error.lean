import GraphQLTree.Behaviour.Attribute
import GraphQLTree.Behaviour.Describe

/-! # Methods of errors

Making an error keeps its arguments. A failure report also holds a message, the stages of the walk
that it has passed, the outermost first, a node, and the error that it wraps; that error becomes its
cause if it counts as true. -/

namespace GraphQLTree.Action

/-- Keeps the arguments that an error is made with. -/
def keepArgs (v : Value) (args : List Value) : Effect Unit := do
  match v, (← get).error? v with
  | .ref r, some e => Effect.put r (.error { e with args, tuple? := none })
  | _, _ => return ()

/-- Makes an error of a built-in class. The end of an iteration has its first argument for a
value. -/
def initError (v : Value) (args : List Value) : Action Unit := do
  keepArgs v args
  match v, (← get).error? v with
  | .ref r, some e =>
    if e.cls = .stopIteration then
      let data := e.data.set "value" (args.head?.getD .null)
      Effect.put r (.error { e with data })
  | _, _ => return ()

/-- A new list of the given stages; none if they count as false. -/
def stageList (stages : Value) : Action Value := do
  if ← isTrue stages then Effect.list (← items stages) else Effect.list []

/-- Makes a failure report. -/
def initReport (v message stages node wrapped : Value) : Action Unit := do
  keepArgs v [message]
  setAttr v "message" message
  setAttr v "stages" (← stageList stages)
  setAttr v "node" node
  setAttr v "original_error" wrapped
  if ← isTrue wrapped then setAttr v "__cause__" wrapped

/-- Makes a prune error. -/
def initPrune (v message prune : Value) : Action Unit := do
  keepArgs v [message]
  setAttr v "prune" prune

/-- Makes the error for a root that is neither a document nor a schema. -/
def initInvalidInput (v root : Value) : Action Unit := do
  keepArgs v [.text (Fault.invalidInput (← describedText root)).message]
  setAttr v "value" root

/-- Makes an error with one more attribute. -/
def initPayload (v message : Value) (name : String) (x : Value) : Action Unit := do
  keepArgs v [message]
  setAttr v name x

/-- Records an enclosing stage of a failure report, before those it has. -/
def addStage (v stage : Value) : Action Unit := do
  discard (callMethod (← attr v "stages") "insert" [.int 0, stage])

end GraphQLTree.Action
