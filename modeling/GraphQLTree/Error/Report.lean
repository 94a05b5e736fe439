import GraphQLTree.Behaviour.Attribute

/-! # Failure reports

A failure report tells why a walk was aborted: the message of the error that a visitor method
raised, the node it was called with, and the stages of the walk that the error passed on its way up,
the outermost first. -/

namespace GraphQLTree.Action

/-- Raises a new error of a class. -/
def raiseNew {α : Type} (cls : ErrorClass) (args : List Value) : Action α := do
  raise (← call (.type (.error cls)) args)

/-- Records an enclosing stage of a failure report. -/
def recordStage (report : Value) (stage : String) : Action Unit :=
  discard (callMethod report "add_stage" [.text stage])

/-- The message about an error: its text, or its description if the text is empty. -/
def messageOf (error : Value) : Action Value := do
  match ← text error with
  | "" => describe error
  | message => return .text message

/-- The report of an error caught in a stage: a failure report gets the stage added and stays the
same object, any other error is wrapped in a new one. -/
def wrap (error stage node : Value) : Action Value := do
  if ← isOf (.error .visit) error then
    discard (callMethod error "add_stage" [stage])
    return error
  else
    let message ← messageOf error
    let stages ← Effect.list [stage]
    call (.type (.error .visit)) [message, stages, node, error]

end GraphQLTree.Action
