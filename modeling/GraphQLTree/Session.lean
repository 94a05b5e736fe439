import GraphQLTree.Error.Report
import GraphQLTree.Literal
import GraphQLTree.Node.Dictionary
import GraphQLTree.Portrait

/-! # Sessions

A session is a sequence of steps on values: making them, reading and assigning attributes, calling
methods and functions. A step that fails is reported, and the session goes on. -/

namespace GraphQLTree

/-- Functions on values. -/
inductive Function
  | written
  | text
  | describe
  | length
  | truth
  | toList
  | typeName
  | copy
  | deepCopy
  | equal
  | unequal
  | identical
  | contains
  | item
  | slice
  | dictionary
  | wrap
  | pruneSignal
  /-- The number of the digest of a value. -/
  | digest
  deriving DecidableEq, Repr

/-- What a step does. -/
inductive Command
  | make (value : Literal)
  | read (on attr : String)
  | assign (on attr : String) (value : Literal)
  | call (on method : String) (args : List Literal)
  | apply (function : Function) (args : List Literal)
  deriving Repr

/-- A step; its result can be bound to a name. -/
structure Step where
  command : Command
  bind? : Option String
  deriving Repr

/-! ### Functions on values -/

/-- The name and the parameters of a function that belongs to no type. -/
def Function.signature? : Function → Option (String × Signature)
  | describe => some ("inspect", .exactly ["value"])
  | dictionary => some ("ast_to_dict", .exactly ["node"])
  | wrap => some ("wrap_error", .upTo ["error", "stage"] ["node"])
  | pruneSignal => some ("get_prune_signal", .exactly ["error"])
  | copy => some ("copy", .exactly ["x"])
  | deepCopy => some ("deepcopy", .upTo ["x"] ["memo", "_nil"])
  | _ => none

namespace Action

/-- The failure of a function that is given the wrong number of arguments. -/
def refuseArguments (f : Function) (args : List Value) : Action Value := do
  match f.signature? with
  | some (name, signature) => discard (ofExcept (signature.bind name args []))
  | none => pure ()
  fail (.notCallable BasicType.function.name)

/-- The result of a function. -/
def applyFunction (f : Function) (args : List Value) : Action Value := do
  match f, args with
  | .written, args => callBuiltin "repr" args []
  | .text, args => construct (.basic .text) args []
  | .describe, [v] => describe v
  | .length, args => callBuiltin "len" args []
  | .truth, args => construct (.basic .bool) args []
  | .toList, args => construct (.basic .list) args []
  | .typeName, [v] => return .text ((← get).typeName v)
  | .copy, [v] => copy v
  | .deepCopy, [v] => deepCopyUsing .null v
  | .deepCopy, [v, memo] | .deepCopy, [v, memo, _] => deepCopyUsing memo v
  | .equal, [a, b] => equality a b
  | .unequal, [a, b] => inequality a b
  | .contains, [container, v] => return .bool (← contains container v)
  | .item, [container, index] => item container index
  | .slice, container :: bounds => sliceOf container (.ofList bounds)
  | .dictionary, [v] => dictionary v
  | .wrap, [e, stage] => wrap e stage .null
  | .wrap, [e, stage, node] => wrap e stage node
  | .pruneSignal, [e] => pruneFlag e
  | f, args => refuseArguments f args

end Action

/-! ### Identity

Numbers, texts and bytes are values by themselves, but each of them is made at some moment, and two
that are equal are the same only if they were made at the same moment. Of the smallest ones there is
only one each. -/

/-- When a value was made, as far as it is known. -/
inductive Origin
  | unknown
  /-- Just now, and for no other name. -/
  | fresh
  | moment (n : Nat)
  deriving DecidableEq, Repr

/-- Whether there is only one value that is equal to a value of a simple type. -/
def Value.isUnique : Value → Bool
  | .int n => -5 ≤ n && n ≤ 256
  | .text t => t.length ≤ 1 && t.toList.all fun c => c.toNat < 256
  | .bytes bs => bs.length ≤ 1
  | _ => true

/-- Whether two values are the same one. -/
def areSame (a b : Value) (x y : Origin) : Bool :=
  a = b && (a.isUnique ||
    match x, y with
    | .fresh, _ | _, .fresh => false
    | .moment m, .moment n => m = n
    | _, _ => true)

/-! ### Running a session -/

/-- What a session knows: the names bound so far, when their values were made, and the distinct
digests seen so far. -/
structure Session where
  scope : Scope
  origins : List (String × Origin)
  digests : List Digest

namespace Session

/-- When the value of a literal is made. -/
def origin (session : Session) : Literal → Origin
  | .named name => (session.origins.lookup name).getD .unknown
  | .int _ | .text _ | .bytes _ => .fresh
  | _ => .unknown

/-- When the result of a command is made. -/
def originOfResult (session : Session) : Command → Origin
  | .make l | .apply .copy [l] | .apply .deepCopy [l] => session.origin l
  | .apply .written _ => .fresh
  | _ => .unknown

/-- Notes when the value of a name was made. -/
def note (session : Session) (name : String) (origin : Origin) : Session :=
  let origin := if origin = .fresh then .moment session.origins.length else origin
  { session with origins := (name, origin) :: session.origins }

/-- A session that starts with the given names. -/
def start (scope : Scope) (defs : List (String × Literal)) : Session :=
  defs.foldl (fun session (name, l) => session.note name (session.origin l)) ⟨scope, [], []⟩

/-- The number of a digest, in the order of first appearance. -/
def number (session : Session) (d : Digest) : Nat × Session :=
  match session.digests.idxOf? d with
  | some i => (i, session)
  | none => (session.digests.length, { session with digests := session.digests ++ [d] })

/-- The result of a command. -/
def perform (session : Session) : Command → Action (Value × Session)
  | .make l => return (← l.eval session.scope, session)
  | .read on attr => do
    return (← Action.attr (← session.scope.value on) attr, session)
  | .assign on attr l => do
    let v ← session.scope.value on
    Action.setAttr v attr (← l.eval session.scope)
    return (.null, session)
  | .call on method args => do
    let v ← session.scope.value on
    return (← Action.callMethod v method (← evalAll session.scope [] args), session)
  | .apply function args => do
    let values ← evalAll session.scope [] args
    match function, values with
    | .digest, [v] =>
      let (i, session) := session.number (← Action.digest v)
      return (.int i, session)
    | .identical, [a, b] =>
      let origins := args.map session.origin
      let first := origins[0]?.getD .unknown
      return (.bool (areSame a b first (origins[1]?.getD .unknown)), session)
    | _, _ => return (← Action.applyFunction function values, session)

/-- Binds the result of a step to its name. -/
def keep (session : Session) (step : Step) (v : Value) : Session :=
  match step.bind? with
  | some name =>
    let noted := session.note name (session.originOfResult step.command)
    { noted with scope := noted.scope.bind name v }
  | none => session

/-- Performs a step and shows its result as it is right after it. A name is bound only if the step
does not fail; it stays bound if the result cannot be shown. -/
def step (session : Session) (step : Step) : Effect (Except Failure Portrait × Session) := do
  match ← Effect.shown (session.perform step.command).perform with
  | .error failure => return (.error failure, session)
  | .ok (v, session) =>
    return (← Effect.shown (Action.portrait v).perform, session.keep step v)

/-- Performs the steps of a session, one after the other. -/
def run (session : Session) : List Step → Effect (List (Except Failure Portrait))
  | [] => return []
  | first :: rest => do
    let (result, session) ← session.step first
    return result :: (← run session rest)

end Session

/-- Performs the steps of a new session in a scope of its own. -/
def runSession (decls : List ClassDecl) (defs : List (String × Literal)) (steps : List Step) :
    Except Failure (List (Except Failure Portrait)) :=
  Effect.answer do
    let scope ← (Scope.build decls defs).perform
    Session.run (.start scope defs) steps

end GraphQLTree
