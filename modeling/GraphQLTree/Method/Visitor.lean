import GraphQLTree.Behaviour.Written
import GraphQLTree.Behaviour.Attribute
import GraphQLTree.Behaviour.Sum

/-! # Methods of visitors

A visitor is asked for its method for a kind, when a step is entered or when it is left. Visitors in
lockstep answer with a function that calls the methods of each of them; they count the open steps,
and keep for each visitor the count at which it pruned, or zero. -/

namespace GraphQLTree.Action

/-- The attribute of a visitor that is its method for a kind; null if it has none. -/
def findHook (v kind isLeaving : Value) : Action Value := do
  let direction := if ← isTrue isLeaving then "leave" else "enter"
  let kind ← text kind
  attrOrNull v (direction ++ "_" ++ kind)

/-- Starts the bookkeeping of visitors in lockstep anew. -/
def restartMarks (v : Value) : Action Unit := do
  let count ← length (← attr v "visitors")
  setAttr v "skipping" (← Effect.list (List.replicate count (.int 0)))
  setAttr v "depth" (.int 0)

/-- Makes a visitor that runs others in lockstep. -/
def initLockstep (v visitors : Value) : Action Unit := do
  setAttr v "visitors" visitors
  restartMarks v

/-- The function that calls the methods of visitors in lockstep. -/
def findHooks (v kind isLeaving : Value) : Action Value := do
  let leaving ← isTrue isLeaving
  if !leaving && (← isIn [.text "document", .text "schema"] kind) then restartMarks v
  let hooks ← (← items (← attr v "visitors")).mapM fun visitor =>
    callMethod visitor "get_visit_fn" [kind, isLeaving]
  let f ← attr v (if leaving then "leave" else "enter")
  Effect.alloc (.applied f [← Effect.list hooks])

/-- The signal that an error carries, as a value; null if the error is fatal. It is a truth value
under the name `prune`, or the answer of a method of that name; a method that fails carries no
signal. -/
def pruneFlag (v : Value) : Action Value := do
  let flag ← attrOrNull v "prune"
  let answer ← if (← get).isCallable flag then
      handling .general (call flag []) fun _ => return .null
    else pure flag
  if ← isOf (.basic .bool) answer then return answer else return .null

/-- The signal that an error carries: true to prune, false to go on, and none if the error is
fatal. -/
def pruneSignal (v : Value) : Action (Option Bool) := do
  match ← pruneFlag v with
  | .null => return none
  | .bool b => return some b
  | flag => some <$> isTrue flag

/-- Whether the result of a method asks to skip the children. -/
def asksToPrune (answer : Value) : Bool :=
  answer = .skip || answer = .bool false

/-- Runs a method and tells whether it asks to skip the children, by its result or by a signal. An
error that is no signal stays raised. -/
def judge (run : Action Value) : Action Bool :=
  handling .general (return asksToPrune (← run)) fun e => do
    match ← pruneSignal (.ref e) with
    | some prune => return prune
    | none => throw (.raised e)

/-- Calls one method when a step is entered, unless its visitor is skipping. -/
def enterHook (skipping depth : Value) (args : List Value) (i : Nat) (hook : Value) :
    Action Unit := do
  if ← isTrue hook then
    if !(← isTrue (← item skipping (.int i))) then
      if ← judge (call hook args) then setItem skipping (.int i) depth

/-- Enters a step with visitors in lockstep; prunes if all of them are skipping then. -/
def enterHooks (v hooks : Value) (args : List Value) : Action Value := do
  setAttr v "depth" (← sum (← attr v "depth") (.int 1))
  let depth ← attr v "depth"
  let skipping ← attr v "skipping"
  (← items hooks).zipIdx.forM fun (hook, i) => enterHook skipping depth args i hook
  let marks ← (← items skipping).mapM isTrue
  return if marks.all id then .skip else .null

/-- Calls one method when a step is left, unless its visitor is skipping. -/
def leaveHook (skipping depth : Value) (args : List Value) (i : Nat) (hook : Value) :
    Action Unit := do
  if ← equal (← item skipping (.int i)) depth then setItem skipping (.int i) (.int 0)
  if ← isTrue hook then
    if !(← isTrue (← item skipping (.int i))) then discard (judge (call hook args))

/-- Leaves a step with visitors in lockstep. -/
def leaveHooks (v hooks : Value) (args : List Value) : Action Value := do
  let depth ← attr v "depth"
  let skipping ← attr v "skipping"
  setAttr v "depth" (← sum depth (.int (-1)))
  (← items hooks).zipIdx.forM fun (hook, i) => leaveHook skipping depth args i hook
  return .null

end GraphQLTree.Action
