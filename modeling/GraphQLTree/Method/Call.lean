import GraphQLTree.Method.Builtin
import GraphQLTree.Method.Copy
import GraphQLTree.Method.Iterator
import GraphQLTree.Method.Node
import GraphQLTree.Method.Parts
import GraphQLTree.Method.Type
import GraphQLTree.Method.Version
import GraphQLTree.Method.Visitor

/-! # Calls

What a call of a value does: types make objects, functions of the library and built-in ones do what
they are for, and a bound function gets the value that it is bound to as its first argument. -/

namespace GraphQLTree.Action

/-! ### Functions of the library -/

/-- What a method that all members of enumerations have does. -/
def memberMethod (name : String) (v x : Value) : Action Value := do
  match name with
  | "__str__" => return .text (← textOfContent v)
  | "__repr__" => return .text (← writeContent [] v)
  | "__hash__" => return .int (← digest v).toInt
  | "__format__" => callMethod (.text (← text v)) "__format__" [x]
  | "__reduce_ex__" => do
    Effect.tuple [← attr v "__class__", ← Effect.tuple [← attr v "_value_"]]
  | "__new__" =>
    match v with
    | .type (.basic t) => memberOf t x
    | _ => return .null
  | _ => return v

/-- What a method that all enumerations have does. -/
def enumMethod (name : String) (v x y : Value) : Action Value := do
  match name with
  | "__len__" => return .int (← length v)
  | "__iter__" => iteratorOf v
  | "__reversed__" => Effect.alloc (.iterator "generator" (.fixed (← items v).reverse))
  | "__contains__" => return .bool (← contains v x)
  | "__getitem__" => item v x
  | "__call__" => callWith v [x, y] []
  | _ => return .bool true

/-- What a function of the library does with its arguments. -/
def runRoutine (body : Routine) (a : Arguments) : Action Value := do
  let v := a.get 0
  let x := a.get 1
  let nothing (act : Action Unit) : Action Value := do
    act
    return .null
  match body with
  | .initNode default? => nothing (initNode v default? a.named)
  | .writeNode => return .text (← writeNode v)
  | .describeNode => return .text ("<" ++ (← written v) ++ ">")
  | .equalNode => return .bool (← equalNode v x)
  | .digestNode =>
    match (← get).node? v with
    | some n => discard (digestOfNode v n); return .int 0
    | none => discard (computeDigest v); return .int 0
  | .assignNode => nothing (do assignNodeAttr v (← nameOfAttr x) (a.get 2))
  | .copyNode => copyNode v
  | .deepCopyNode => deepCopyWith v x
  | .append key => nothing (do
      discard (callMethod v "_append" [.text key, ← Effect.tuple a.rest]))
  | .appendTo => nothing (appendTo v x (a.get 2))
  | .assign key => nothing (setAttr v key x)
  | .accept => return .null
  | .markNonNull => nothing (markNonNull v)
  | .extend => extendedBy v x
  | .writeFrozen => return .text (← writeFrozen [] (← items v))
  | .initReport => nothing (initReport v x (a.get 2) (a.get 3) (a.get 4))
  | .textReport => return .text (← textOfReport v)
  | .writeReport => return .text (← writeReport [] v)
  | .equalReport => return .bool (← equalReport v x)
  | .unequalReport => return .bool (!(← equal v x))
  | .addStage => nothing (addStage v x)
  | .initPrune => nothing (initPrune v (a.getOr 1 (.text "prune")) (a.getOr 2 (.bool true)))
  | .writePrune => return .text (← writePrune [] v)
  | .initInvalidInput => nothing (initInvalidInput v x)
  | .initCallPrune => nothing (initPayload v x "result" (a.get 2))
  | .callPrune => attr v "result"
  | .failPrune => fail (.missingKey (.text "prune"))
  | .initPropPrune => nothing (initPayload v x "error" (a.get 2))
  | .isFalse => return .bool false
  | .findHook => findHook v x (a.getOr 2 (.bool false))
  | .findHooks => findHooks v x (a.getOr 2 (.bool false))
  | .initLockstep => nothing (initLockstep v x)
  | .enterHooks => enterHooks v x a.rest
  | .leaveHooks => leaveHooks v x a.rest
  | .readVersion => readVersion v x
  | .textVersion => return .text (← textOfVersion v)
  | .writeVersion => return .text (← writeVersion [] ((← get).typeName v) (← items v))
  | .newVersion =>
    let items ← Effect.tuple (a.given.tail.map (·.getD .null))
    makeBlank (.basic .tuple) [v, items] []
  | .versionItems => do Effect.tuple (← items v)
  | .versionOfItems => versionOfItems x
  | .versionEntries => versionEntries v
  | .replaceFields => replaceFields v a.named
  | .prepareClass => return .null
  | .ofMember name => memberMethod name v x
  | .ofEnum name => enumMethod name v x (a.get 2)
  | .answer t => return .text t

/-- Calls a function of the library. -/
def callFunction (m : Method) (args : List Value) (named : Attrs) : Action Value := do
  runRoutine m.body (← ofExcept (m.body.signature.bind (m.owner ++ "." ++ m.name) args named))

/-! ### Built-in members of types -/

/-- The number of arguments that a method takes which many types have. -/
def sharedArity? (t : BasicType) : String → Option Arity
  | "__reduce__" | "__getstate__" | "__sizeof__" | "__dir__" | "__getnewargs__"
  | "__length_hint__" | "mro" | "__subclasses__" | "close" => some .none
  | "__reduce_ex__" => some (if t = .buffer then .between 0 1 else .one)
  | "__format__" | "__instancecheck__" | "__subclasscheck__" | "__setstate__" | "send" => some .one
  | "throw" => some (.between 1 3)
  | _ => none

/-- The number of arguments that a method of a basic type takes. -/
def methodArity : BasicType → String → Arity
  | .list => listArity
  | .tuple => tupleArity
  | .dict => dictArity
  | .set | .frozenSet => setArity
  | .text => textArity .text
  | .bytes => textArity .bytes
  | .buffer => textArity .buffer
  | .failure => failureArity
  | .int | .float | .complex => numberArity
  | _ => fun _ => .any

/-- Whether a method tells the parts of an object, and is not one of errors or iterators. -/
def tellsParts (t : BasicType) (name : String) : Bool :=
  ["__reduce__", "__reduce_ex__", "__getstate__"].contains name &&
    t ≠ .failure && t ≠ .iterator

/-- What a method of a basic type does. -/
def runMethod (t : BasicType) (name : String) (v : Value) (args : List Value) : Action Value := do
  if tellsParts t name then partsMethod t name v args
  else match t, name, args with
  | .object, "__format__", [.text ""] => return .text (← text v)
  | .object, "__format__", [.text _] =>
    failNaming "unsupported format string passed to " v 200 ".__format__"
  | _, "__format__", [spec] => formatMethod v spec
  | .text, "format", _ =>
    match v with
    | .text s => fillTemplate ⟨some args, none⟩ s.toList
    | _ => return .null
  | .text, "format_map", [mapping] =>
    match v with
    | .text s => fillTemplate ⟨none, some mapping⟩ s.toList
    | _ => return .null
  | _, _, _ =>
    match v, (← get).cell? v with
    | .type t, _ => typeMethod t name args
    | .text s, _ => textMethod .text s.toList name args
    | .bytes bs, _ => textMethod .bytes (bytesChars bs) name args
    | .ref r, some (.list items) => listMethod v r items name args
    | _, some (.tuple _ items _) => tupleMethod items name args
    | .ref r, some (.dict entries) => dictMethod v r entries name args
    | .ref r, some (.set frozen members) => setMethod v r frozen members name args
    | .ref r, some (.buffer bs) => bufferMethod r bs name args
    | _, some (.view form d) => viewMethod v form d name args
    | .ref r, some (.generator g progress) => generatorMethod r g progress name args
    | .ref r, some (.iterator type steps) => iteratorMethod v r type steps name args
    | _, some (.error _) => failureMethod v name args
    | _, _ => numberMethod v name args

/-- Calls a built-in member of a type on an object; `owner` is the type in messages. -/
def callNative (t : BasicType) (name owner : String) (v : Value) (args : List Value)
    (named : Attrs) : Action Value := do
  let function := owner ++ "." ++ name
  match t.memberForm? name with
  | some .wrapper =>
    if name = "__call__" then callWith v args named
    else
      if !named.isEmpty then fail (.noKeywords ("wrapper " ++ name))
      ofExcept ((wrapperArity t name).check function "" args.length)
      wrapperMethod t name v args
  | some .ofClass | some .static =>
    let type := match v with
      | .type u => u
      | _ => .basic t
    let function := (← get).nameOf type ++ "." ++ name
    ofExcept ((typeFunctionArity t name).check function name args.length)
    typeFunction t name type args named
  | _ =>
    refuseNamed function named
    let arity := (sharedArity? t name).getD (methodArity t name)
    ofExcept (arity.check function name args.length)
    runMethod t name v args

/-- Calls a built-in member of a type with the object as its first argument. -/
def callUnbound (t : BasicType) (name : String) (args : List Value) (named : Attrs) :
    Action Value := do
  let s ← get
  match t.memberForm? name, args with
  | some .data, _ => failOn .notCallable (.native t name)
  | some .wrapper, [] =>
    fail (.other .badType ("descriptor '" ++ name ++ "' of '" ++ t.name ++
      "' object needs an argument"))
  | _, [] => fail (.other .badType ("unbound method " ++ t.name ++ "." ++ name ++
      "() needs an argument"))
  | form?, v :: rest =>
    if fitsMember s t v then callNative t name t.name v rest named
    else if form? = some .wrapper then
      fail (.other .badType ("descriptor '" ++ name ++ "' requires a '" ++ t.name ++
        "' object but received a '" ++ s.typeName v ++ "'"))
    else failMember name t.name v

/-! ### All values -/

/-- Calls a value. -/
def callValue (f : Value) (args : List Value) (named : Attrs) : Action Value := do
  let s ← get
  match f, s.cell? f with
  | .type t, _ => construct t args named
  | .function m, _ => callFunction m args named
  | .native t name, _ => callUnbound t name args named
  | _, some (.bound owner (.native t name)) => callNative t name (s.typeName owner) owner args named
  | _, some (.bound owner (.function m)) => callFunction m (owner :: args) named
  | _, some (.bound owner g) => callWith g (owner :: args) named
  | _, some (.applied g first) => callWith g (first ++ args) named
  | _, some (.stub .generatorFunction name _) => Effect.alloc (.generator name .fresh)
  | _, some (.stub _ _ _) => return .null
  | _, some (.builtin name) => callBuiltin name args named
  | _, _ =>
    match ← special? f "__call__" with
    | some g => callSpecial g f args
    | none => failOn .notCallable f

end GraphQLTree.Action
