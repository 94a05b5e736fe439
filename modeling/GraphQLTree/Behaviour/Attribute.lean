import GraphQLTree.Behaviour.Iteration
import GraphQLTree.Node.Language
import GraphQLTree.Store.Home

/-! # Attributes

What an attribute of a value is, and how it is assigned and removed. What the type of a value
provides as data comes first: keys, properties and built-in data. Then come the attributes that the
value has itself, and at last what else its type provides; a function of the type becomes a method
of the value. -/

namespace GraphQLTree

/-- Whether what a type provides is data of its objects. -/
def Value.isData : Value → Bool
  | .slot _ _ | .property _ => true
  | .native t name => t.memberForm? name = some .data
  | _ => false

namespace Action

/-- Whether a value is an error. -/
def isError (s : Store) (v : Value) : Bool :=
  (s.error? v).isSome

/-- Raises a value: an error, or a new one of a class of errors. -/
def raise {α : Type} (v : Value) : Action α := do
  let s ← get
  let e ← match v with
    | .type t => if (s.errorClass? t).isSome then call v [] else pure v
    | _ => pure v
  match e, isError (← get) e with
  | .ref r, true => throw (.raised r)
  | _, _ => fail .notRaisable

/-! ### Keys -/

/-- A list of names that is an attribute of a value: the one that its class has from the start, or
what stands in its place. -/
inductive NameList
  | names (texts : List String)
  | value (v : Value)

/-- The list of names that is an attribute of a value. -/
def nameList (v : Value) (list : String) : Action NameList := do
  let s ← get
  match ← special? v "__getattribute__", s.field? v list, s.classEntry? (s.typeOf v) list with
  | none, none, some (_, .texts _ texts) => return .names texts
  | _, _, _ => return .value (← attr v list)

/-- The items of a list of names. -/
def NameList.items : NameList → Action (List Value)
  | .names texts => return texts.map .text
  | .value v => Action.items v

/-- Whether a value is in a list of names. -/
def NameList.has (list : NameList) (key : Value) : Action Bool :=
  match list with
  | .names texts => isIn (texts.map .text) key
  | .value v => contains v key

/-- The items of a list of names that is an attribute of a value. -/
def namesOf (v : Value) (list : String) : Action (List Value) := do
  (← nameList v list).items

/-! ### Child sequences -/

/-- A child sequence with more items at its end. Any other sequence is asked for its own way to be
extended. -/
def extended (sequence : Value) (more : List Value) : Action Value := do
  let s ← get
  match s.method? sequence "extended", s.cell? sequence with
  | some (.function ⟨_, _, .extend⟩), some (.tuple .frozen items _) => Effect.frozen (items ++ more)
  | _, _ => callMethod sequence "extended" [← Effect.tuple more]

/-! ### Properties -/

/-- The value of a property of an object. -/
def readProperty (v : Value) : Property → Action Value
  | .components => do
    let query ← attr v "query"
    let types ← attr v "types"
    if query = .null then return types else extended types [query]
  | .isSet key => return .bool ((← attr v key) != .null)
  | .sameAs key => attr v key
  | .nothing => return .null
  | .plainObject => do
    let entries ← (← items (← attr v "fields")).foldlM (fun entries field => do
      let name ← attr field "name"
      let value ← attr (← attr field "value") "value"
      setEntry entries (← digest name) name value) []
    Effect.alloc (.dict entries)
  | .formatted => do
    let message ← attr v "message"
    let stages ← attr v "stages"
    Effect.alloc (.dict [textEntry "message" message, textEntry "stages" stages])
  | .failing => do raise (← attr v "error")

/-! ### Built-in data -/

/-- The tuple of the arguments of an error. -/
def argsTuple (r : Ref) (e : ErrorObject) : Effect Value := do
  match e.tuple? with
  | some t => return .ref t
  | none =>
    let tuple ← Effect.tuple e.args
    match tuple with
    | .ref t => Effect.put r (.error { e with tuple? := some t })
    | _ => pure ()
    return tuple

/-- Built-in data of an error. -/
def readErrorData (v : Value) (name : String) : Effect Value := do
  match v, (← get).error? v with
  | .ref r, some e =>
    match name with
    | "args" => argsTuple r e
    | "__cause__" => return e.cause
    | "__dict__" => Effect.fieldDict v
    | "__suppress_context__" => return (e.data.lookup name).getD (.bool false)
    | _ => return (e.data.lookup name).getD .null
  | _, _ => Effect.noAttribute v name

/-- The name of a function and the names of the class and the function. -/
def functionNames? (s : Store) (v : Value) : Option (String × String) :=
  match v, s.cell? v with
  | .function m, _ => some (m.name, m.owner ++ "." ++ m.name)
  | .native t name, _ => some (name, t.name ++ "." ++ name)
  | .slot owner key, _ => some (key, owner ++ "." ++ key)
  | _, some (.stub _ name _) => some (name, name)
  | _, some (.builtin name) => some (name, name)
  | _, some (.generator name _) => some (name, name)
  | _, some (.bound owner (.native t name)) =>
    let type := match t.memberForm? name, owner with
      | some .wrapper, _ => t.name
      | _, .type u => s.nameOf u
      | _, _ => s.typeName owner
    some (name, type ++ "." ++ name)
  | _, _ => none

/-- The defaults of the parameters of a routine. -/
def defaultsOf : Routine → List Value
  | .findHook | .findHooks => [.bool false]
  | .initReport => [.null, .null, .null]
  | .initPrune => [.text "prune", .bool true]
  | _ => []

/-- Built-in data that was assigned to a function or a generator. -/
def assignedData? (s : Store) (v : Value) (name : String) : Option Value :=
  match v with
  | .ref r => s.functionData.lookup (r, name)
  | _ => none

/-- Built-in data of a function. -/
def readFunctionData (v : Value) (name : String) : Effect Value := do
  let s ← get
  let texts := functionNames? s v
  match name, v, s.cell? v with
  | "__dict__", _, _ => Effect.fieldDict v
  | "__name__", _, _ => return .text ((texts.map Prod.fst).getD "")
  | "__qualname__", _, _ => return .text ((texts.map Prod.snd).getD "")
  | "__module__", .function m, _ => return .text (functionHome m.owner)
  | "__module__", _, some (.stub _ _ _) => return .text sessionHome
  | "__module__", _, some (.builtin _) => return .text "builtins"
  | "__doc__", _, some (.builtin "len") =>
    return .text "Return the number of items in a container."
  | "__doc__", .function m, _ => return ((functionSummary? m.owner m.name).map .text).getD .null
  | "__defaults__", .function m, _ =>
    match defaultsOf m.body with
    | [] => return .null
    | values => Effect.tuple values
  | _, _, _ => return .null

/-- Built-in data of a value as it was made, by the name of its type. -/
def readInitial (v : Value) (t : BasicType) (name : String) : Effect Value := do
  let s ← get
  match t, name, v with
  | .object, "__class__", _ => return .type (s.typeOf v)
  | .failure, _, _ => readErrorData v name
  | .function, _, _ => readFunctionData v name
  | _, "__dict__", _ => Effect.fieldDict v
  | .version, _, _ =>
    match (BasicType.versionFields.zip ((s.sequence? v).getD [])).lookup name with
    | some x => return x
    | none => Effect.noAttribute v name
  | .enum, "name", .operation op => return .text op.name
  | .enum, "value", .operation op => return .text op.text
  | .enum, "name", _ => return .text "SKIP"
  | .enum, "value", _ => return .bool false
  | .int, "imag", _ => return .int 0
  | .int, "denominator", _ => return .int 1
  | .int, _, _ => return .int (v.whole?.getD 0)
  | .float, "real", _ => return v
  | .float, _, _ => Effect.float (.finite false 0)
  | .complex, "real", .complex re _ _ => Effect.float re
  | .complex, _, .complex _ im _ => Effect.float im
  | _, "__self__", _ | _, "__func__", _ =>
    match s.cell? v with
    | some (.bound owner f) => return if name = "__self__" then owner else f
    | _ => return .null
  | _, "__name__", _ => return .text (((functionNames? s v).map Prod.fst).getD "")
  | _, "__qualname__", _ => return .text (((functionNames? s v).map Prod.snd).getD "")
  | .builtin, "__module__", _ => readFunctionData v name
  | .method, "__doc__", _ =>
    match s.cell? v with
    | some (.bound _ f) => do return (assignedData? s f name).getD (← readFunctionData f name)
    | _ => return .null
  | .builtin, "__doc__", _ => readFunctionData v name
  | .generator, "gi_running", _ => return .bool false
  | .generator, "gi_suspended", _ =>
    match s.cell? v with
    | some (.generator _ progress) => return .bool (progress = .paused)
    | _ => return .bool false
  | _, "__objclass__", .native t _ => return .type (.basic t)
  | .wrapper, "__objclass__", _ =>
    match s.cell? v with
    | some (.bound _ (.native t _)) => return .type (.basic t)
    | _ => return .null
  | .parametrized, _, _ => Effect.slotValue v name
  | _, _, _ => return .null

/-- Built-in data of a value by the name of its type. -/
def readNative (v : Value) (t : BasicType) (name : String) : Effect Value := do
  match assignedData? (← get) v name with
  | some x => return x
  | none => readInitial v t name

/-- Data that the type of a value provides. -/
def readData (v : Value) (name : String) : Value → Action Value
  | .slot _ key => Effect.slotValue v key
  | .property p => readProperty v p
  | .native t key => readNative v t key
  | _ => Effect.noAttribute v name

/-! ### Reading -/

/-- Whether what a type provides is a function that is not bound to anything. -/
def isStatic : Value → Bool
  | .function m => m.body.isStatic
  | _ => false

/-- What a type provides, as an attribute of one of its objects: functions are bound to the object
or to its type. -/
def bindTo (v f : Value) : Action Value := do
  let s ← get
  if s.binds f then Effect.alloc (.bound v f)
  else if isStatic f then return f
  else match f, s.special? (s.typeOf f) "__get__" with
    | .function _, _ | .native _ _, _ => Effect.alloc (.bound (.type (s.typeOf v)) f)
    | .ref _, some (.key key) => failOn .notCallable (.slot (s.typeName f) key)
    | .ref _, some (.assigned g) => call g [f, v, .type (s.typeOf v)]
    | _, _ => return f

/-- A class in the lineage of a type, as a type. -/
def ancestorType (t : TypeValue) : Ancestor → TypeValue
  | .basic b => .basic b
  | .error c => .error c
  | .made r => .made r
  | .node level =>
    match t with
    | .node c => .node (c.ofLevel level)
    | _ => t

/-- The bases of a type. -/
def basesOf (s : Store) (t : TypeValue) : List Value :=
  match t with
  | .basic .object => []
  | .basic .frozen => [.type (.basic .tuple), .type (.basic .generic)]
  | .node c =>
    if c.bases.isEmpty then [.type (.basic .object)]
    else c.baseClasses.map fun base => .type (.node base)
  | _ =>
    match (s.lineage t).tail.head? with
    | some (.basic t) => [.type (.basic t)]
    | some (.error c) => [.type (.error c)]
    | _ => []

/-- Data of types. -/
def readTypeData? (s : Store) (t : TypeValue) (name : String) : Option (Effect Value) :=
  match name with
  | "__name__" => some (return .text (s.nameOf t))
  | "__qualname__" => some (return .text (s.fullNameOf t))
  | "__module__" =>
    let home := .text ((s.homeOf? t).getD "builtins")
    some (return (s.classAttr? t.id name).getD home)
  | "__members__" =>
    if t.id = .basic .operation then some do
      let entries := OperationType.all.map fun op => textEntry op.name (.operation op)
      match ← Effect.alloc (.dict entries) with
      | .ref d => Effect.alloc (.view .membersView d)
      | v => return v
    else none
  | "__class__" => some (return .type (.basic (Store.metaType t)))
  | "__base__" => some (return (basesOf s t).head?.getD .null)
  | "__bases__" => some (Effect.tuple (basesOf s t))
  | "__mro__" => some (Effect.tuple ((s.lineage t).map fun a => .type (ancestorType t a)))
  | "__dict__" => some (Effect.alloc (.object ⟨.basic .membersView, [], .own []⟩))
  | _ => none

/-- Reports that a type has no attribute of a name; an enumeration only tells the name. -/
def noTypeAttribute {α : Type} (t : TypeValue) (name : String) : Effect α :=
  if Store.metaType t = .enumType then Effect.fail (.unset name)
  else Effect.noAttribute (.type t) name

/-- An attribute of a type. -/
def readTypeAttr (t : TypeValue) (name : String) : Action Value := do
  let s ← get
  match readTypeData? s t name with
  | some act => act
  | none =>
    match s.classEntry? t name with
    | some (_, .value (.function m)) =>
      if m.body.ofClass then Effect.alloc (.bound (.type t) (.function m)) else return .function m
    | some (_, .value (.native .enum n)) => noTypeAttribute t n
    | some (a, .value (.native b n)) =>
      match b.memberForm? n with
      | some .ofClass => Effect.alloc (.bound (.type t) (.native b n))
      | some .static => Effect.alloc (.bound (.type (ancestorType t a)) (.native b n))
      | _ => return .native b n
    | some (a, entry) => Effect.entryValue a name entry
    | none =>
      match s.classEntry? (.basic (Store.metaType t)) name with
      | some (_, .value f) => bindTo (.type t) f
      | _ => noTypeAttribute t name

/-- An attribute that neither a value nor its type has: a bound function has the attributes of the
function. -/
def readElsewhere (v : Value) (name : String) : Action Value := do
  match (← get).cell? v with
  | some (.bound _ (.function m)) => attr (.function m) name
  | some (.bound _ (.ref f)) => attr (.ref f) name
  | _ => Effect.noAttribute v name

/-- Whether what a type provides is data of its objects; an object may have its own way to be
assigned. -/
def isData (s : Store) (f : Value) : Bool :=
  f.isData || match s.cell? f with
    | some c =>
      (s.special? c.type "__get__").isSome &&
        ((s.special? c.type "__set__").isSome || (s.special? c.type "__delete__").isSome)
    | none => false

/-- An attribute of a value as its type and the value itself have it. -/
def readOwn (v : Value) (name : String) : Action Value := do
  let s ← get
  match s.classEntry? (s.typeOf v) name, s.field? v name with
  | some (a, .value f), field? =>
    if f.isData then readData v name f
    else match f, if isData s f then none else field? with
      | _, some x => return x
      | .native t n, none =>
        if t.memberForm? n = some .static then
          Effect.alloc (.bound (.type (ancestorType (s.typeOf v) a)) f)
        else bindTo v f
      | _, none => bindTo v (← Effect.entryValue a name (.value f))
  | _, some x => return x
  | some (a, entry), none => Effect.entryValue a name entry
  | none, none => readElsewhere v name

/-- An attribute of an object. The type may have its own way to read attributes, and one to answer
for those that are missing. -/
def readAttr (v : Value) (name : String) : Action Value := do
  match v with
  | .type t => readTypeAttr t name
  | _ =>
    let read := match ← special? v "__getattribute__" with
      | some f => callSpecial f v [.text name]
      | none => readOwn v name
    match ← special? v "__getattr__" with
    | some f => handling .badAttribute read fun _ => callSpecial f v [.text name]
    | none => read

/-! ### Assigning -/

/-- The layout of the objects of a type. -/
def layoutOf (s : Store) : TypeValue → Layout
  | .node c => c.layout
  | .made r => if s.isErrorType r then [] else [.plain]
  | .basic .visitor | .basic .lockstep => [.plain]
  | _ => []

/-- The classes of errors that a class of errors is derived from. -/
def errorBases? (s : Store) : TypeValue → Option (List ErrorClass)
  | .error c => some c.lineage.tail
  | .made r => if s.isErrorType r then some ErrorClass.general.lineage else none
  | _ => none

/-- Whether an object of one type can become one of another: both are the same, or both keep what
they hold in the same places. -/
def fitsClass (s : Store) (old new : TypeValue) : Bool :=
  old.id = new.id || (layoutOf s old).agrees (layoutOf s new) ||
    ((errorBases? s old).isSome && errorBases? s old == errorBases? s new)

/-- An object that became one of another type. -/
def Cell.withClass (c : Cell) (s : Store) (t : TypeValue) : Cell :=
  match c, t with
  | .node n, .node cls => .node { n with cls }
  | .object o, cls => .object { o with cls }
  | .error e, .error cls => .error { e with cls, made? := none }
  | .error e, .made r =>
    if s.isErrorType r then .error { e with cls := .general, made? := r } else c
  | c, _ => c

/-- Assigns the class of an object; the new class must keep what it holds in the same places. -/
def assignClass (v x : Value) : Effect Unit := do
  let s ← get
  match x with
  | .type t =>
    let old := s.typeOf v
    if !old.isOpen || !t.isOpen then
      Effect.fail (.other .badType
        "__class__ assignment only supported for mutable types or ModuleType subclasses")
    else if !fitsClass s old t then Effect.fail (.badLayout (s.nameOf t) (s.typeName v))
    else match v, s.cell? v with
      | .ref r, some c => Effect.put r (Cell.withClass c s t)
      | _, _ => return ()
  | _ =>
    Effect.fail (.other .badType ("__class__ must be set to a class, not '" ++ s.typeName x ++
      "' object"))

/-- Assigns built-in data of an error. -/
def assignErrorData (r : Ref) (e : ErrorObject) (name : String) (x : Value) : Action Unit := do
  let s ← get
  match name with
  | "args" =>
    Effect.put r (.error { e with args := ← items x, tuple? := none })
  | "__cause__" =>
    if x = .null || isError s x then
      let data := e.data.set "__suppress_context__" (.bool true)
      Effect.put r (.error { e with cause := x, data })
    else fail .badCause
  | "__context__" =>
    if x = .null || isError s x then Effect.put r (.error { e with data := e.data.set name x })
    else fail (.other .badType "exception context must be None or derive from BaseException")
  | "__traceback__" =>
    if x ≠ .null then fail (.other .badType "__traceback__ must be a traceback or None")
  | "__suppress_context__" =>
    match x with
    | .bool _ => Effect.put r (.error { e with data := e.data.set name x })
    | _ => fail (.other .badType "attribute value type must be bool")
  | _ => Effect.put r (.error { e with data := e.data.set name x })

/-- Removes built-in data of an error. -/
def removeErrorData (r : Ref) (e : ErrorObject) (name : String) : Action Unit := do
  if ["args", "__cause__", "__context__", "__traceback__"].contains name then
    fail (.other .badType (name ++ " may not be deleted"))
  else if name = "__suppress_context__" then
    fail (.other .badType "can't delete numeric/char attribute")
  else Effect.put r (.error { e with data := e.data.set name .null })

/-- Keeps the full name of a function or a generator that gets another name. -/
def keepFullName (r : Ref) (name : String) : Effect Unit := do
  let full := "__qualname__"
  if (assignedData? (← get) (.ref r) full).isNone then Effect.setFunctionData r full (.text name)

/-- Assigns built-in data of a function or a generator, or removes it. -/
def assignFunctionData (r : Ref) (name : String) (x? : Option Value) : Action Unit := do
  let s ← get
  let x := x?.getD .null
  let isTuple := match s.cell? x with
    | some (.tuple _ _ _) => true
    | _ => false
  let type? := match name, x with
    | "__name__", .text _ | "__qualname__", .text _ => none
    | "__name__", _ | "__qualname__", _ => some "string"
    | _, .null => none
    | "__defaults__", _ => if isTuple then none else some "tuple"
    | "__kwdefaults__", _ => if (s.dict? x).isSome then none else some "dict"
    | _, _ => none
  match type?, name, x, s.get? r with
  | some type, _, _, _ =>
    fail (.other .badType (name ++ " must be set to a " ++ type ++ " object"))
  | none, "__name__", .text n, some (.stub form old fields) =>
    keepFullName r old
    Effect.put r (.stub form n fields)
  | none, "__name__", .text n, some (.generator old progress) =>
    keepFullName r old
    Effect.put r (.generator n progress)
  | none, _, _, _ => Effect.setFunctionData r name x

/-- Assigns the dictionary of the attributes of a value. -/
def assignDict (v x : Value) : Effect Unit := do
  let s ← get
  match v, s.cell? v, x, s.dict? x with
  | .ref r, some c, .ref d, some _ => Effect.put r (c.withFields (.shared d))
  | _, _, _, _ =>
    Effect.fail (.other .badType ("__dict__ must be set to a dictionary, not a '" ++
      s.typeName x ++ "'"))

/-- Forgets all attributes that a value holds; errors and functions always keep theirs. -/
def removeDict (v : Value) (t : BasicType) : Action Unit := do
  match t, v, (← get).cell? v with
  | .function, _, _ | _, _, some (.error _) => fail (.other .badType "cannot delete __dict__")
  | _, .ref r, some c => Effect.put r (c.withFields (.own []))
  | _, _, _ => return ()

/-- Whether data of a type can only be read, and messages about it do not tell the type. -/
def isFixed : BasicType → String → Bool
  | .complex, _ => true
  | .method, name | .property, name => name ≠ "__doc__"
  | .function, name => name = "__closure__"
  | .wrapper, name => name = "__self__"
  | .methodMember, name | .wrapperMember, name | .classMember, name | .slotMember, name
  | .dataMember, name => name = "__name__" || name = "__objclass__"
  | .parametrized, name => name ≠ "__parameters__"
  | _, _ => false

/-- Assigns built-in data of a value, or removes it if there is no new value. -/
def assignNative (v : Value) (t : BasicType) (owner name : String) (x? : Option Value) :
    Action Unit := do
  let s ← get
  let verb := if x?.isSome then "set" else "delete"
  match t, name, v, s.cell? v, x? with
  | .object, "__class__", _, _, some x => assignClass v x
  | .object, "__class__", _, _, none =>
    fail (.other .badType "can't delete __class__ attribute")
  | _, "__dict__", _, _, some x => assignDict v x
  | _, "__dict__", _, _, none => removeDict v t
  | .failure, _, .ref r, some (.error e), some x => assignErrorData r e name x
  | .failure, _, .ref r, some (.error e), none => removeErrorData r e name
  | .version, _, _, _, _ => fail (.other .badAttribute ("can't " ++ verb ++ " attribute"))
  | .enum, _, _, _, _ =>
    fail (.other .badAttribute ("<enum 'Enum'> cannot " ++ verb ++ " attribute '" ++ name ++ "'"))
  | _, _, .ref r, _, _ =>
    if isFixed t name then fail (.other .badAttribute "readonly attribute")
    else if t = .function || (t = .generator && !name.startsWith "gi_") ||
        (t = .builtin && name = "__module__") then
      assignFunctionData r name x?
    else fail (.notWritable owner name)
  | _, _, _, _, _ =>
    if isFixed t name then fail (.other .badAttribute "readonly attribute")
    else fail (.notWritable owner name)

/-- The name of the type that provides built-in data. -/
def ownerName (s : Store) (t : BasicType) : Ancestor → String
  | .made r => s.nameOf (.made r)
  | _ => t.name

/-- Forgets the digest that was computed for a node. -/
def forgetComputed (v : Value) : Effect Unit := do
  match v, (← get).cell? v with
  | .ref r, some (.node n) => Effect.put r (.node { n with digest? := none })
  | _, _ => return ()

/-- Assigns an attribute of an object, whatever it is. -/
def storeAttr (v : Value) (name : String) (x : Value) : Action Unit := do
  let s ← get
  match s.classEntry? (s.typeOf v) name with
  | some (_, .value (.slot _ key)) =>
    if key = "_hash" then forgetComputed v
    Effect.setSlot v key x
  | some (_, .value (.property _)) => fail (.noSetter (s.fullNameOf (s.typeOf v)) name)
  | some (a, .value (.native t key)) =>
    if t.memberForm? key = some .data then assignNative v t (ownerName s t a) key (some x)
    else if s.hasFields v then Effect.setField v name x
    else fail (.readOnly (s.typeName v) name)
  | entry? =>
    if s.hasFields v then Effect.setField v name x
    else if entry?.isSome then fail (.readOnly (s.typeName v) name)
    else Effect.noPlace v name

/-- Whether the type of a value has its own way to answer for attributes that are missing. -/
def answersForOthers (v : Value) : Action Bool := do
  return (← special? v "__getattr__").isSome || (← special? v "__getattribute__").isSome

/-- Whether a node has a digest, computed or assigned. -/
def hasDigest (v : Value) : Action Bool := do
  let s ← get
  match s.classEntry? (s.typeOf v) "_hash", s.node? v with
  | some (_, .value (.slot _ _)), some n =>
    if n.digest?.isSome || (n.slots.lookup "_hash").isSome then return true
    else if ← answersForOthers v then return (← attr? v "_hash").isSome
    else return false
  | _, _ => return (← attr? v "_hash").isSome

/-- Assigns an attribute of a node. Its digest is forgotten if the attribute is a key. -/
def assignNodeAttr (v : Value) (name : String) (x : Value) : Action Unit := do
  if ← hasDigest v then
    if ← (← nameList v "keys").has (.text name) then delAttr v "_hash"
  storeAttr v name x

/-- Assigns an attribute of a type. -/
def assignTypeAttr (t : TypeValue) (name : String) (x : Value) : Effect Unit := do
  let s ← get
  if !t.isOpen then Effect.fail (.closedType (s.nameOf t) name)
  else match t, name, x with
    | .basic .operation, _, _ =>
      if (OperationType.ofName? name).isSome then
        Effect.fail (.other .badAttribute ("cannot reassign member '" ++ name ++ "'"))
      else Effect.setClassAttr t.id name x
    | _, "__class__", _ => assignClass (.type t) x
    | _, "__dict__", _ => Effect.fail (.notWritable BasicType.type.name name)
    | _, "__mro__", _ | _, "__base__", _ =>
      Effect.fail (.other .badAttribute "readonly attribute")
    | _, "__name__", .text _ => Effect.setClassAttr t.id name x
    | _, "__qualname__", .text _ => Effect.setClassAttr t.id name x
    | _, "__name__", _ | _, "__qualname__", _ =>
      Effect.fail (.other .badType ("can only assign string to " ++ s.nameOf t ++ "." ++ name ++
        ", not '" ++ s.typeName x ++ "'"))
    | _, _, _ => Effect.setClassAttr t.id name x

/-- Assigns an attribute of a value. -/
def assignAttr (v : Value) (name : String) (x : Value) : Action Unit := do
  match v with
  | .type t => assignTypeAttr t name x
  | _ =>
    match ← special? v "__setattr__" with
    | some f => discard (callSpecial f v [.text name, x])
    | none =>
      if ((← get).node? v).isSome then assignNodeAttr v name x else storeAttr v name x

/-! ### Removing -/

/-- Removes an attribute of an object, whatever it is. -/
def dropAttr (v : Value) (name : String) : Action Unit := do
  let s ← get
  match s.classEntry? (s.typeOf v) name with
  | some (_, .value (.slot _ key)) =>
    match s.cell? v with
    | some c =>
      if (c.slots.lookup key).isSome then Effect.removeSlot v key
      else match c with
        | .node { digest? := some _, .. } =>
          if key = "_hash" then forgetComputed v else fail (.unset key)
        | _ => fail (.unset key)
    | none => fail (.unset key)
  | some (_, .value (.property _)) => fail (.noDeleter (s.fullNameOf (s.typeOf v)) name)
  | entry? =>
    match entry? with
    | some (a, .value (.native t key)) =>
      if t.memberForm? key = some .data then
        return ← assignNative v t (ownerName s t a) key none
    | _ => pure ()
    if s.hasFields v then
      if (s.field? v name).isSome then Effect.removeField v name else Effect.noPlace v name
    else if entry?.isSome then fail (.readOnly (s.typeName v) name)
    else Effect.noPlace v name

/-- Removes an attribute of a value. -/
def removeAttr (v : Value) (name : String) : Action Unit := do
  let s ← get
  match v with
  | .type t =>
    if !t.isOpen then fail (.closedType (s.nameOf t) name)
    else if t.id = .basic .operation && (OperationType.ofName? name).isSome then
      fail (.other .badAttribute ("'" ++ s.nameOf t ++ "' cannot delete member '" ++ name ++ "'."))
    else if ["__name__", "__qualname__", "__module__", "__doc__", "__bases__"].contains name then
      fail (.other .badType ("cannot delete '" ++ name ++ "' attribute of immutable type '" ++
        s.nameOf t ++ "'"))
    else match name, s.classAttr? t.id name with
      | "__class__", _ => fail (.other .badType "can't delete __class__ attribute")
      | "__dict__", _ => fail (.notWritable BasicType.type.name name)
      | "__mro__", _ | "__base__", _ => fail (.other .badAttribute "readonly attribute")
      | _, some _ => set { s with classAttrs := s.classAttrs.filter (·.1 != (t.id, name)) }
      | _, none => Effect.noAttribute v name
  | _ =>
    match ← special? v "__delattr__" with
    | some f => discard (callSpecial f v [.text name])
    | none => dropAttr v name

/-- The name of an attribute given by a value. -/
def nameOfAttr (v : Value) : Action String :=
  match v with
  | .text name => return name
  | _ => failOn .badAttributeName v

end Action
end GraphQLTree
