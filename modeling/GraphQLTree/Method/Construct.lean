import GraphQLTree.Method.Object
import GraphQLTree.Method.Sequence
import GraphQLTree.Version

/-! # Making objects

A type can be called to make one of its objects. Basic types convert their argument; classes of
nodes, of errors and of visitors make a new object and initialise it. -/

namespace GraphQLTree.Action

/-! ### Collections -/

/-- The items of the only argument, if there is one. -/
def argumentItems (args : List Value) : Action (List Value) :=
  match args with
  | [] => return []
  | v :: _ => items v

/-- A new dictionary. -/
def makeDict (args : List Value) (named : Attrs) : Action Value := do
  ofExcept ((Arity.between 0 1).check "dict" "dict" args.length)
  let v ← Effect.alloc (.dict [])
  args.forM (updateDict v)
  named.forM fun (name, x) => setKey v (.text name) x
  return v

/-- A new version. -/
def makeVersion (args : List Value) (named : Attrs) : Action Value := do
  let type := Value.type (.basic .version)
  let a ← ofExcept ((Signature.exactly ("_cls" :: BasicType.versionFields)).bind
    "VersionInfo.__new__" (type :: args) named)
  Effect.alloc (.tuple .version (a.given.drop 1 |>.map (·.getD .null)) (.own []))

/-! ### Enumerations -/

/-- The member of an enumeration with a value. -/
def memberOf (t : BasicType) (v : Value) : Action Value := do
  let members := (((← get).items? (.type (.basic t))).getD [])
  match members.find? (· == v) with
  | some m => return m
  | none =>
    let found ← members.filterM fun m => do equal (← readNative m .enum "value") v
    match found with
    | m :: _ => return m
    | [] =>
      fail (.other .badValue ((← written v) ++ " is not a valid " ++ t.name))

/-- Calls an enumeration: its members are found by their values, and it cannot be extended. -/
def callEnum (t : BasicType) (args : List Value) (named : Attrs) : Action Value := do
  let a ← ofExcept ((Signature.upTo ["cls", "value"] ["names"]).bind "EnumType.__call__"
    (.type (.basic t) :: args) named)
  let v := a.get 1
  if a.get 2 = .null then memberOf t v
  else
    fail (.other .badType ("<enum " ++ (← written v) ++ "> cannot extend " ++
      (← get).writtenType (.basic t)))

/-! ### Objects -/

/-- Initialises a new object. -/
def initialise (v : Value) (args : List Value) (named : Attrs) : Action Unit := do
  let s ← get
  let checkAnswer (answer : Value) : Action Unit := do
    if answer ≠ .null then
      failNaming "__init__() should return None, not '" answer 200 "'"
  match s.classEntry? (s.typeOf v) "__init__" with
  | some (_, .value (.native .failure _)) =>
    refuseNamed (s.typeName v) named
    initError v args
  | some (_, .value (.native _ _)) =>
    if !args.isEmpty || !named.isEmpty then fail (.noArguments (s.typeName v))
  | some (_, .value (.slot _ key)) => checkAnswer (← callWith (← attr v key) args named)
  | some (_, .value f) =>
    checkAnswer (← callWith f (if s.binds f then v :: args else args) named)
  | _ => return ()

/-- A new object of a type that is initialised with arguments. The type may have its own way to make
objects; what it makes is initialised only if it is of the type. -/
def newObject (t : TypeValue) (c : Cell) (args : List Value) (named : Attrs) : Action Value := do
  match (← get).special? t "__new__" with
  | some (.assigned f) =>
    let v ← callWith f (.type t :: args) named
    let s ← get
    if s.isSubtype (s.typeOf v) t then initialise v args named
    return v
  | some (.key key) => failOn .notCallable (.slot ((← get).nameOf t) key)
  | none =>
    let v ← Effect.alloc c
    initialise v args named
    return v

/-- A new error. -/
def newError (cls : ErrorClass) (made? : Option Ref) (args : List Value) (named : Attrs) :
    Action Value :=
  newObject (match made? with | some r => .made r | none => .error cls)
    (.error { ErrorObject.ofArgs cls args with made? }) args named

/-- Makes an object of a basic type. -/
def constructBasic (t : BasicType) (args : List Value) (named : Attrs) : Action Value := do
  match t with
  | .object =>
    if args.isEmpty && named.isEmpty then Effect.alloc (.object ⟨.basic .object, [], .own []⟩)
    else fail (.noArguments "object")
  | .bool =>
    atMostOne "bool" args named
    match args with
    | [] => return .bool false
    | v :: _ => return .bool (← isTrue v)
  | .int => makeWhole args named
  | .float => makeFloat args named
  | .text => makeText args named
  | .complex => makeComplex args named
  | .bytes => makeBytes args
  | .buffer =>
    let v ← Effect.alloc (.buffer [])
    refillBuffer v args
    return v
  | .list =>
    atMostOne "list" args named
    Effect.list (← argumentItems args)
  | .tuple =>
    atMostOne "tuple" args named
    match args with
    | [v] =>
      match (← get).cell? v with
      | some (.tuple .plain _ _) => return v
      | _ => Effect.tuple (← items v)
    | _ => Effect.tuple []
  | .frozen =>
    atMostOne "tuple" args named
    Effect.frozen (← argumentItems args)
  | .set =>
    atMostOne "set" args named
    setOf false (← argumentItems args)
  | .frozenSet =>
    atMostOne "frozenset" args named
    setOf true (← argumentItems args)
  | .dict => makeDict args named
  | .version => makeVersion args named
  | .operation | .action | .enum => callEnum t args named
  | .visitor | .lockstep => newObject (.basic t) (.object ⟨.basic t, [], .own []⟩) args named
  | .type =>
    match args with
    | [v] => return .type ((← get).typeOf v)
    | _ => fail (.other .badType "type() takes 1 or 3 arguments")
  | .null | .undecided =>
    if !args.isEmpty then fail (.other .badType (t.name ++ " takes no arguments"))
    return if t = .null then .null else .undecided
  | .failure => newError .base none args named
  | _ => fail (.other .badType ("cannot create '" ++ t.name ++ "' instances"))

/-- Tells a value the class and the name that it is defined under, if it wants to know. Whatever
goes wrong then is reported as one fault. -/
def announce (cls : String) (t : TypeValue) (name : String) (v : Value) : Action Unit := do
  match ← special? v "__set_name__" with
  | none => return ()
  | some special =>
    let args := [.type t, .text name]
    let told ← match special with
      | .assigned f => pure (callAssigned f v args)
      | .key key => do
        let f ← Effect.slotValue v key
        pure (call f args)
    handling .base (discard told) fun _ => do
      let type := Fault.brief ((← get).typeName v)
      fail (.other .runtime ("Error calling __set_name__ on '" ++ type ++ "' instance " ++
        Text.quote name ++ " in '" ++ Fault.brief cls ++ "'"))

/-- Makes an object of a type. -/
def construct (t : TypeValue) (args : List Value) (named : Attrs) : Action Value := do
  match t with
  | .basic b => constructBasic b args named
  | .node c =>
    if c.isNode then newObject t (.node ⟨c, [], .own [], none⟩) args named
    else newObject t (.object ⟨t, [], .own []⟩) args named
  | .error c => newError c none args named
  | .made r =>
    if (← get).isErrorType r then newError .general (some r) args named
    else newObject t (.object ⟨t, [], .own []⟩) args named

end GraphQLTree.Action
