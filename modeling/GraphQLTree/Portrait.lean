import GraphQLTree.Behaviour.Level

/-! # Portraits

A portrait shows a value as it is at one moment, without references to the store. Objects that have
no written form of their own are shown by their descriptions. Making a portrait reads attributes and
asks for texts, so it can fail like any other action. -/

namespace GraphQLTree

/-- What a value looks like. -/
inductive Portrait
  | null
  | bool (b : Bool)
  | int (n : Int)
  | text (s : String)
  | float (digits : String)
  | complex (re im : String)
  | bytes (bs : List UInt8)
  | buffer (bs : List UInt8)
  | list (items : List Portrait)
  | tuple (items : List Portrait)
  | frozen (items : List Portrait)
  | dict (entries : List (Portrait × Portrait))
  | node (cls : String) (attrs : List (String × Portrait))
  | operation (text : String)
  | skip
  | error (cls text : String)
  /-- A failure report: its message and stages, the description of its node, the class of the
  wrapped error, and whether that is its cause. -/
  | report (message stages : Portrait) (node? : Option Portrait) (wrapped? : Option String)
      (cause : Bool)
  | other (description : Portrait)
  deriving Repr

instance : Inhabited Portrait := ⟨.null⟩

namespace Action

/-- The portrait of a failure report, where `part` shows its parts. -/
def reportPortrait (part : Value → Action Portrait) (v : Value) : Action Portrait := do
  let message ← part (← attr v "message")
  let stages ← part (← attr v "stages")
  let node ← attr v "node"
  let node? ← if node = .null then pure none else some <$> (do part (← describe node))
  let wrapped ← attr v "original_error"
  let wrapped? ← if wrapped = .null then pure none else pure (some ((← get).typeName wrapped))
  let cause ← attr v "__cause__"
  return .report message stages node? wrapped? (cause ≠ .null && cause = wrapped)

/-- The portraits of the keys of a node. -/
def keyPortraits (part : Value → Action Portrait) (v : Value) :
    List Value → Action (List (String × Portrait))
  | [] => return []
  | key :: rest => do
    let name ← nameOfAttr key
    let shown ← part (← attr v name)
    return (name, shown) :: (← keyPortraits part v rest)

/-- The portrait of a value, with `fuel` levels of nesting to go. -/
def portraitAt (fuel : Nat) (v : Value) : Action Portrait := do
  match fuel with
  | 0 => throw .tooDeep
  | fuel + 1 =>
    let s ← get
    match v, s.cell? v with
    | .null, _ => return .null
    | .bool b, _ => return .bool b
    | .int n, _ => return .int n
    | .text t, _ => return .text t
    | .float x _, _ => return .float (x.write true)
    | .complex re im _, _ => return .complex (re.write true) (im.write true)
    | .bytes bs, _ => return .bytes bs
    | .operation op, _ => return .operation op.text
    | .skip, _ => return .skip
    | _, some (.node _) => do
      let attrs ← keyPortraits (portraitAt fuel) v (← namesOf v "keys")
      return .node (s.typeName v) attrs
    | _, some (.list items) => return .list (← items.mapM (portraitAt fuel))
    | _, some (.tuple .frozen items _) => return .frozen (← items.mapM (portraitAt fuel))
    | _, some (.tuple _ items _) => return .tuple (← items.mapM (portraitAt fuel))
    | _, some (.dict entries) => return .dict (← entries.mapM fun e => do
        let key ← portraitAt fuel e.key
        return (key, ← portraitAt fuel e.value))
    | _, some (.buffer bs) => return .buffer bs
    | _, some (.error e) =>
      if e.cls = .visit then reportPortrait (portraitAt fuel) v
      else return .error (s.typeName v) (← text v)
    | _, _ => do return .other (← portraitAt fuel (← describe v))
termination_by structural fuel

/-- The portrait of a value. -/
def portrait (v : Value) : Action Portrait := do
  portraitAt ((← get).depthLimit) v

end Action

/-! ### Outcomes -/

/-- How an operation failed: the class and the text of the error, and the report if it is one. -/
structure Failure where
  cls : String
  text : String
  report? : Option Portrait
  deriving Repr

/-- The failure of an operation on values that are nested too deeply. -/
def Failure.tooDeep : Failure := ⟨"RecursionError", "maximum recursion depth exceeded", none⟩

/-- The failure of a halted operation. -/
def Halt.failure : Halt → Action Failure
  | .tooDeep => return .tooDeep
  | .raised e => do
    let v := Value.ref e
    let text ← Action.text v
    let report? ← if (← get).isReport v then some <$> Action.portrait v else pure none
    return ⟨(← get).typeName v, text, report?⟩

namespace Effect

/-- The outcome of an effect, without passing on what halts it. -/
def attempt {α : Type} (act : Effect α) : Effect (Except Halt α) :=
  tryCatch (Except.ok <$> act) fun halt => return .error halt

/-- The outcome of an effect with its failure shown. Showing it may fail in turn, which halts. -/
def shown {α : Type} (act : Effect α) : Effect (Except Failure α) := do
  match ← attempt act with
  | .ok a => return .ok a
  | .error halt => return .error (← halt.failure.perform)

/-- The result of an effect on a new store. A failure that cannot be shown is replaced by what went
wrong when it was to be shown. -/
def answer {α : Type} (act : Effect α) : Except Failure α :=
  match (shown act).runOn .empty with
  | (.ok outcome, _) => outcome
  | (.error halt, store) =>
    match halt.failure.perform.runOn store with
    | (.ok failure, _) => .error failure
    | (.error _, _) => .error .tooDeep

end Effect
end GraphQLTree
