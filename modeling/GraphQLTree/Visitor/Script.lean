import GraphQLTree.Literal
import GraphQLTree.Portrait
import GraphQLTree.Visitor.Definition
import GraphQLTree.Visitor.Lockstep

/-! # Scripted visitors

A scripted visitor records the calls of its methods, and follows rules: at a call the first rule
whose condition holds tells what to do with the node and the context and what to answer or to raise.
Walks with scripted visitors show all that a walk does. -/

namespace GraphQLTree

/-! ### Scripts -/

/-- What a rule does. -/
inductive ScriptAction
  /-- Calls a method of the node. -/
  | call (method : String) (args : List Literal)
  /-- Assigns an attribute of the node. -/
  | assign (attr : String) (value : Literal)
  /-- Adds to a number in the context. -/
  | count (key : Literal) (n : Literal)
  /-- Walks from another root with a visitor. -/
  | walk (root : Literal) (visitor : Int)
  deriving Repr

/-- A rule: its conditions, what it does, and what it raises or answers. -/
structure Rule where
  name? : Option Literal
  kind? : Option Literal
  /-- The numbers of the calls at which the rule applies. -/
  nth? : Option (List Int)
  actions : List ScriptAction
  raise? : Option Literal
  answer : Literal
  deriving Repr

/-- The rules of methods, by their names. -/
abbrev Rules := List (String × List Rule)

/-- A member of visitors in lockstep. -/
inductive ScriptMember
  | visitor (index : Int)
  | value (l : Literal)
  deriving Repr

/-- The script of a visitor. -/
inductive VisitorScript
  /-- Methods of these names, rules for some of them, and attributes that are no methods. -/
  | methods (names : List String) (rules : Rules) (attrs : List (String × Literal))
  /-- A method for every kind. -/
  | everyKind (rules : Rules)
  | lockstep (members : List ScriptMember)
  /-- A value in the place of a visitor. -/
  | value (l : Literal)
  deriving Repr

/-- A visitor that was defined by a script. -/
inductive ScriptVisitor
  /-- Methods, rules, attributes that are no methods, and keys, which have no values. -/
  | methods (names : List String) (rules : Rules) (attrs : Attrs) (keys : List String)
  | everyKind (rules : Rules)
  | lockstep (members : List (Nat ⊕ Value))
  | value (v : Value)

/-- The value that the attributes of a class make in the place of one of its objects, if they say
how objects are made. -/
def Action.madeBy? (attrs : Attrs) : Action (Option Value) := do
  match attrs.lookup "__new__" with
  | some f => some <$> call f [.type (.basic .visitor)]
  | none => return none

/-- Initialises an object of a class by the attributes of the class; the answer must be null. -/
def Action.initBy (attrs : Attrs) : Action Unit := do
  match attrs.lookup "__init__" with
  | none => return ()
  | some f =>
    let answer ← call f []
    if answer ≠ .null then
      fail (.other .badType ("__init__() should return None, not '" ++ (← get).typeName answer ++
        "'"))

/-- The place of a visitor among some; a negative one counts from the end. -/
def visitorPlace (count : Nat) (index : Int) : Action Nat :=
  match Action.fromStart? count index with
  | some i => if i < count then return i else Action.fail (.outOfRange "list index")
  | none => Action.fail (.outOfRange "list index")

/-- Defines a visitor behind `count` others; the names of its methods and attributes are checked. -/
def VisitorScript.define (scope : Scope) (count : Nat) : VisitorScript → Action ScriptVisitor
  | .methods names rules attrs => do
    let values ← evalArgs scope [] attrs
    let names := names ++ rules.map Prod.fst
    let keys ← Action.defineVisitors scriptClass (.ofAttrs names values)
    match ← Action.madeBy? values with
    | some v => return .value v
    | none =>
      Action.initBy values
      return .methods names rules values keys
  | .everyKind rules => return .everyKind rules
  | .lockstep members => do
    return .lockstep (← members.mapM fun
      | .visitor i => .inl <$> visitorPlace count i
      | .value l => return .inr (← l.eval scope))
  | .value l => return .value (← l.eval scope)

/-! ### The state of scripted visitors -/

/-- A recorded call: the visitor, the step, and for a node its name. -/
structure Call where
  visitor : Nat
  direction : Direction
  kind : String
  name? : Option Portrait
  deriving Repr

/-- The state of scripted visitors. -/
structure ScriptState where
  /-- The calls of the current walk, the latest first. -/
  calls : List Call
  /-- How often each method was called, over all walks. -/
  counts : List ((Nat × String) × Nat)
  /-- The bookkeeping of each visitor. -/
  books : List Bookkeeping
  /-- The context of the current walk. -/
  context : Value
  /-- Whether all calls of the current walk got that very context. -/
  sameContext : Bool

namespace ScriptState

/-- The bookkeeping of a visitor. -/
def bookOf (index : Nat) : Part ScriptState Bookkeeping where
  get state := state.books[index]?.getD (.fresh 0)
  set b state := { state with books := state.books.set index b }

/-- Records a call with the context it got. -/
def record (state : ScriptState) (call : Call) (context : Value) : ScriptState :=
  { state with
    calls := call :: state.calls
    sameContext := state.sameContext && context = state.context }

/-- Counts a call of a method. -/
def count (state : ScriptState) (key : Nat × String) : Nat × ScriptState :=
  let n := (state.counts.lookup key).getD 0 + 1
  (n, { state with counts := (key, n) :: state.counts.filter (·.1 != key) })

/-- The state at the start of a walk. -/
def start (state : ScriptState) (context : Value) : ScriptState :=
  { state with calls := [], context, sameContext := true }

end ScriptState

/-! ### Running scripts -/

/-- A step of scripted visitors. -/
abbrev ScriptAct := Act ScriptState

/-- Whether a value fulfils a condition. -/
def fulfils (scope : Scope) (v : Value) : Option Literal → Action Bool
  | none => return true
  | some l => do Action.equal v (← l.eval scope)

/-- Whether the conditions of a rule hold at a call. -/
def Rule.applies (scope : Scope) (node : Value) (n : Nat) (rule : Rule) : Action Bool := do
  let nameOk ← fulfils scope (← Action.attrOrNull node "name") rule.name?
  let kindOk ← fulfils scope (← Action.attrOrNull node "kind") rule.kind?
  let nthOk := match rule.nth? with
    | some ns => ns.contains (n : Int)
    | none => true
  return nameOk && kindOk && nthOk

/-- The first rule that applies at a call. -/
def firstRule? (scope : Scope) (node : Value) (n : Nat) : List Rule → Action (Option Rule)
  | [] => return none
  | rule :: rest => do
    if ← rule.applies scope node n then return some rule else firstRule? scope node n rest

/-- Adds to a number in the context. -/
def countInContext (context key n : Value) : Action Unit := do
  let old ← Action.callMethod context "get" [key, .int 0]
  Action.setItem context key (← Action.sum old n)

/-- Runs an action of a rule, where `walkTo` walks from a root with a visitor. -/
def ScriptAction.run (scope : Scope) (walkTo : Value → Int → Value → ScriptAct Unit)
    (node context : Value) : ScriptAction → ScriptAct Unit
  | .call method args => do
    let f ← Action.attr node method
    let values ← evalAll scope [] args
    discard (Action.call f values : Action Value)
  | .assign attr l => do
    let v ← l.eval scope
    Action.setAttr node attr v
  | .count key n => do
    let key ← key.eval scope
    let n ← n.eval scope
    countInContext context key n
  | .walk root index => do
    let root ← root.eval scope
    walkTo root index context

/-- The node and the context that a method is called with; for a list there is no node. -/
def splitArgs : List Value → Option Value × Value
  | [context] => (none, context)
  | node :: context :: _ => (some node, context)
  | [] => (none, .null)

/-- A method of a scripted visitor. -/
def scriptHook (scope : Scope) (walkTo : Value → Int → Value → ScriptAct Unit) (index : Nat)
    (direction : Direction) (kind : String) (rules : List Rule) : Hook ScriptState :=
  fun args => do
    let (node?, context) := splitArgs args
    let node := node?.getD .null
    let name? ← match node? with
      | none => pure none
      | some _ => do
        let name ← Action.attrOrNull node "name"
        some <$> (Action.portrait name : Action Portrait)
    modifyThe (World ScriptState) fun w =>
      { w with state := w.state.record ⟨index, direction, kind, name?⟩ context }
    let n ← modifyGetThe (World ScriptState) fun w =>
      let (n, state) := w.state.count (index, hookName direction kind)
      (n, { w with state })
    match ← firstRule? scope node n rules with
    | none => return .null
    | some rule =>
      rule.actions.forM (·.run scope walkTo node context)
      match rule.raise? with
      | some l => do
        let error ← l.eval scope
        Action.raise error
      | none => rule.answer.eval scope

/-- A value in the place of a method: nothing if it is false, and otherwise it is called. -/
def valueHook? (v : Value) : ScriptAct (Option (Hook ScriptState)) := do
  if ← Action.isTrue v then return some fun args => Action.call v args else return none

/-- The arguments of a look-up, and those that are given by name. -/
def Lookup.args (lookup : Lookup) : List Value × Attrs :=
  let leaving := Value.bool (lookup.direction = .leave)
  if lookup.relayed then ([lookup.kind, leaving], [])
  else if lookup.direction = .leave then ([lookup.kind], [("is_leaving", leaving)])
  else ([lookup.kind], [])

/-- A value in the place of a visitor, which is asked for its methods. -/
def valueVisitor (v : Value) : Visitor ScriptState where
  hook? lookup := do
    let find ← Action.attr v "get_visit_fn"
    valueHook? (← (Action.callWith find lookup.args.1 lookup.args.2 : Action Value))

/-- What a scripted visitor has under a name. -/
inductive Found
  /-- A method that follows rules. -/
  | scripted
  | value (v : Value)
  | missing

namespace Action

/-- A value that the class of a visitor has, as an attribute of the visitor. -/
def hookValue (f : Value) : Action Value := do
  match (← get).cell? f with
  | some (.stub _ _ _) => return f
  | _ => bindTo .null f

/-- What a scripted visitor has under a name: one of its attributes or one of its methods. An
attribute may stand for all others; it is asked first. -/
def findDirectly (methods : List String) (attrs : Attrs) (name : String) : Action Found := do
  match attrs.lookup "__getattribute__", attrs.lookup name with
  | some f, _ => .value <$> call f [.text name]
  | none, some v => .value <$> hookValue v
  | none, none =>
    if methods.contains name then return .scripted
    else fail (.noAttribute scriptClass name)

/-- What a scripted visitor has under a name, where an attribute may stand for those that are
missing. -/
def findIn (methods : List String) (attrs : Attrs) (name : String) : Action Found := do
  match attrs.lookup "__getattr__" with
  | some f =>
    handling .badAttribute (findDirectly methods attrs name) fun _ => .value <$> call f [.text name]
  | none => findDirectly methods attrs name

/-- What a scripted visitor has under the name of a method, if it has something. -/
def findHookIn (methods : List String) (attrs : Attrs) (name : String) : Action Found :=
  handling .badAttribute (findIn methods attrs name) fun _ => return .missing

/-- What stands in the place of the look-up of methods of a scripted visitor, if something does. -/
def ownLookup? (attrs : Attrs) (keys : List String) : Action (Option Value) := do
  let name := "get_visit_fn"
  let replaced := [name, "__getattribute__"].any fun name => (attrs.lookup name).isSome
  if replaced || keys.contains name then
    match ← findIn [] attrs name with
    | .value f => return some f
    | _ => return none
  else return none

end Action

/-- The scripted visitors of a run. -/
structure Cast where
  scope : Scope
  visitors : List ScriptVisitor
  debug : Bool

/-- Checks that there is a visitor with an index, and no other value in its place. -/
def Cast.checkVisitor (cast : Cast) (index : Nat) : Action Unit := do
  match cast.visitors[index]? with
  | some (.value v) =>
    if !(← Action.isOf (.basic .visitor) v) then
      Action.fail (.notVisitor (← Action.describedText v))
  | _ => return ()

mutual

/-- The visitor with an index, with `fuel` levels of walks inside walks to go. -/
def Cast.visitor (cast : Cast) (fuel index : Nat) : Visitor ScriptState :=
  match fuel with
  | 0 => ⟨fun _ => throw .tooDeep⟩
  | fuel + 1 =>
    let scripted := fun (lookup : Lookup) (kind : String) (rules : Rules) =>
      let rules := (rules.lookup (hookName lookup.direction kind)).getD []
      scriptHook cast.scope (cast.walkTo fuel) index lookup.direction kind rules
    match cast.visitors[index]? with
    | none => valueVisitor .null
    | some (.value v) => valueVisitor v
    | some (.lockstep members) =>
      lockstep (ScriptState.bookOf index) (members.map fun
        | .inl i => cast.visitor fuel i
        | .inr v => valueVisitor v)
    | some (.everyKind rules) => ⟨fun lookup => do
        let kind ← Action.text lookup.kind
        return some (scripted lookup kind rules)⟩
    | some (.methods names rules attrs keys) => ⟨fun lookup => do
        match ← Action.ownLookup? attrs keys with
        | some f =>
          valueHook? (← (Action.callWith f lookup.args.1 lookup.args.2 : Action Value))
        | none =>
          let kind ← Action.text lookup.kind
          match ← Action.findHookIn names attrs (hookName lookup.direction kind) with
          | .scripted => return some (scripted lookup kind rules)
          | .value v => valueHook? v
          | .missing => return none⟩
termination_by structural fuel

/-- Walks from a root with the visitor of an index and the standard table. -/
def Cast.walkTo (cast : Cast) (fuel : Nat) (root : Value) (index : Int) (context : Value) :
    ScriptAct Unit :=
  match fuel with
  | 0 => throw .tooDeep
  | fuel + 1 => do
    let index ← visitorPlace cast.visitors.length index
    Action.checkRoot root
    cast.checkVisitor index
    let options := { WalkOptions.standard with debug := cast.debug }
    walkFrom options (cast.visitor fuel index) context root
termination_by structural fuel

end

/-! ### Walks with scripted visitors -/

/-- A walk to be made. -/
structure WalkRequest where
  root : Literal
  visitor : Int
  context : Literal
  /-- The walk table, if it is not the standard one. -/
  table? : Option WalkTable
  /-- Whether the table is merged over the standard one. -/
  extend : Bool
  deriving Repr

/-- What a walk did. -/
structure WalkAnswer where
  calls : List Call
  failure? : Option Failure
  context : Portrait
  sameContext : Bool
  log : List String
  /-- The marks and the depth of each visitor that runs others in lockstep. -/
  books : List (Option (List Int × Int))
  deriving Repr

/-- The table of a requested walk. -/
def WalkRequest.table (request : WalkRequest) : WalkTable :=
  match request.table? with
  | none => .standard
  | some table => if request.extend then table.mergedOver .standard else table

namespace Cast

/-- How many levels of walks inside walks are followed. -/
def nesting (cast : Cast) : Nat :=
  2 * cast.visitors.length + 200

/-- Walks as requested. -/
def perform (cast : Cast) (request : WalkRequest) (index : Nat) (root context : Value) :
    ScriptAct Unit := do
  Action.checkRoot root
  cast.checkVisitor index
  let options := { WalkOptions.standard with table := request.table, debug := cast.debug }
  walkFrom options (cast.visitor cast.nesting index) context root

/-- The bookkeeping to be shown. -/
def shownBooks (cast : Cast) (state : ScriptState) : List (Option (List Int × Int)) :=
  cast.visitors.zipIdx.map fun
    | (.lockstep _, i) =>
      let b := (ScriptState.bookOf i).get state
      some (b.skipping, b.depth)
    | _ => none

/-- Makes a requested walk and shows what it did. -/
def makeWalk (cast : Cast) (state : ScriptState) (request : WalkRequest) :
    Effect (WalkAnswer × ScriptState) := do
  let context ← (request.context.eval cast.scope).perform
  let root ← (request.root.eval cast.scope).perform
  let index ← (visitorPlace cast.visitors.length request.visitor).perform
  let (outcome, world) :=
    (cast.perform request index root context).runOn ⟨← get, [], state.start context⟩
  set world.store
  let failure? ← match outcome with
    | .ok _ => pure none
    | .error halt => some <$> halt.failure.perform
  let answer : WalkAnswer := {
    calls := world.state.calls.reverse
    failure?
    context := ← (Action.portrait context).perform
    sameContext := world.state.sameContext
    log := world.log
    books := cast.shownBooks world.state }
  return (answer, world.state)

/-- Makes the requested walks, one after the other; the visitors keep their states. -/
def run (cast : Cast) (state : ScriptState) : List WalkRequest → Effect (List WalkAnswer)
  | [] => return []
  | request :: rest => do
    let (answer, state) ← cast.makeWalk state request
    return answer :: (← run cast state rest)

end Cast

/-- The bookkeeping that each visitor starts with. -/
def ScriptVisitor.freshBook : ScriptVisitor → Bookkeeping
  | .lockstep members => .fresh members.length
  | _ => .fresh 0

/-- Defines the visitors of scripts and makes the requested walks. -/
def runScripts (decls : List ClassDecl) (defs : List (String × Literal))
    (scripts : List VisitorScript) (debug : Bool) (requests : List WalkRequest) :
    Except Failure (List WalkAnswer) :=
  Effect.answer do
    let scope ← (Scope.build decls defs).perform
    let visitors ← scripts.foldlM (fun visitors script => do
      return visitors ++ [← (script.define scope visitors.length).perform]) []
    Cast.run ⟨scope, visitors, debug⟩
      ⟨[], [], visitors.map ScriptVisitor.freshBook, .null, true⟩ requests

end GraphQLTree
