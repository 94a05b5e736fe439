import GraphQLTree.Behaviour.Digest
import GraphQLTree.Behaviour.Iteration
import GraphQLTree.Behaviour.Sum
import GraphQLTree.Method.Conversion
import GraphQLTree.Method.Dictionary
import GraphQLTree.Method.Error
import GraphQLTree.Method.Format
import GraphQLTree.Method.Order

/-! # Methods of all objects

What stands behind the operators, by the names under which it can be called: writing, comparing,
reading and assigning attributes and items, and so on. -/

namespace GraphQLTree.Action

/-- The number of arguments that a wrapper of a type takes. -/
def wrapperArity (t : BasicType) : String → Arity
  | "__init__" | "__call__" => .any
  | "__setattr__" | "__setitem__" | "__set__" => .between 2 2
  | "__repr__" | "__str__" | "__hash__" | "__len__" | "__iter__" | "__next__" | "__bool__"
  | "__int__" | "__float__" | "__index__" | "__neg__" | "__pos__" | "__abs__" | "__invert__"
  | "__del__" => .operands 0
  | "__get__" | "__pow__" | "__rpow__" => .between 1 2
  | "__mul__" | "__rmul__" | "__imul__" => if t.isSequence then .between 1 1 else .operands 1
  | _ => .operands 1

/-- Compares a value with another, as the method of a type does. -/
def comparisonMethod (t : BasicType) (name : String) (a b : Value) : Action Value := do
  if !knowsNumber t b then return .undecided
  match name, t with
  | "__eq__", .object => return if a = b then .bool true else .undecided
  | "__eq__", _ => return comparisonAnswer (← compareContent a b)
  | "__ne__", .object =>
    match ← comparison a b with
    | .undecided => return .undecided
    | answer => return .bool (!(← isTrue answer))
  | "__ne__", _ => return comparisonAnswer ((← compareContent a b).map not)
  | _, .object => return .undecided
  | _, _ =>
    match Relation.ofMethod? name with
    | some relation => relateContent relation (relate relation) a b
    | none => return .undecided

/-- What a value answers when it is asked whether it differs from another. -/
def difference (a b : Value) : Action Value := do
  let s ← get
  match ← special? a "__ne__", s.classEntry? (s.typeOf a) "__ne__" with
  | some special, _ => callSpecial special a [b]
  | none, some (_, .value (.native t name)) => comparisonMethod t name a b
  | none, some (_, .value f) => callAssigned f a [b]
  | none, _ => return .undecided

/-- The answer to whether two values differ. -/
def inequality (a b : Value) : Action Value :=
  firstAnswer difference (.bool (a ≠ b)) a b

/-- Reads the items of an argument into a collection; those that it has are removed first, except
the entries of a dictionary. -/
def refill (v : Value) (args : List Value) : Action Unit := do
  match v, (← get).cell? v with
  | .ref r, some (.list _) =>
    Effect.put r (.list [])
    args.forM fun x => do Effect.put r (.list (← items x))
  | .ref r, some (.set frozen _) =>
    Effect.put r (.set frozen [])
    args.forM (addItems v)
  | _, some (.dict _) => args.forM (updateDict v)
  | _, _ => return ()

/-- Initialises an object, as the method of a type does. -/
def initObject (t : BasicType) (v : Value) (args : List Value) : Action Unit := do
  let s ← get
  match t with
  | .failure => initError v args
  | .list | .dict | .set =>
    ofExcept ((Arity.between 0 1).check t.name t.name args.length)
    refill v args
  | .buffer => refillBuffer v args
  | .object =>
    let takesNone := match s.cell? v with
      | some (.object _) => true
      | _ => false
    let isOwn := match s.classEntry? (s.typeOf v) "__init__" with
      | some (_, .value (.native .object _)) => false
      | _ => true
    if !args.isEmpty && (isOwn || takesNone) then
      fail (.other .badType ((if isOwn then "object" else s.typeName v) ++
        ".__init__() takes exactly one argument (the instance to initialize)"))
  | _ => return ()

/-- The next item of an iterator. -/
def nextItem (v : Value) : Action Value := do
  if isIterator (← get) v then
    match ← advance? v with
    | some x => return x
    | none => raise (.type (.error .stopIteration))
  else match ← special? v "__next__" with
    | some f => callSpecial f v []
    | none => failNaming "'" v 200 "' object is not an iterator"

/-- Several times the items of a sequence, if their number is not too large. -/
def copies {α : Type} (n : Int) (items : List α) : Action (List α) := do
  if isTooMany (n * items.length) || isHuge n then failTooMany
  else return (List.replicate n.toNat items).flatten

/-- Several times the items of a sequence. -/
def repeated (v times : Value) : Action Value := do
  let s ← get
  match times.whole?, v, s.cell? v with
  | some n, .text t, _ => return .text (String.ofList (← copies n t.toList))
  | some n, .bytes bs, _ => return .bytes (← copies n bs)
  | some n, _, some (.list items) => do Effect.list (← copies n items)
  | some n, _, some (.tuple kind items _) =>
    if n = 1 && kind = .plain then return v else Effect.tuple (← copies n items)
  | some n, _, some (.buffer bs) => do Effect.alloc (.buffer (← copies n bs))
  | some _, _, _ => return .undecided
  | none, _, _ => failOn .notInteger times

/-- Changes a list or a buffer to several times its items. -/
def repeatInPlace (v times : Value) : Action Value := do
  let answer ← repeated v times
  match v, (← get).cell? answer with
  | .ref r, some c => Effect.put r c; return v
  | _, _ => return .undecided

/-- Changes a list or a buffer by adding items at its end. -/
def extendInPlace (v x : Value) : Action Value := do
  match v, (← get).cell? v with
  | .ref r, some (.list _) =>
    let more ← items x
    match (← get).cell? v with
    | some (.list items) => Effect.put r (.list (items ++ more)); return v
    | _ => return v
  | .ref r, some (.buffer bs) =>
    match bytes? (← get) x with
    | some more =>
      if x = v && !bs.isEmpty then
        fail (.other .busyBuffer "Existing exports of data: object cannot be re-sized")
      Effect.put r (.buffer (bs ++ more))
      return v
    | none => badBytesSum "bytearray" x
  | _, _ => return .undecided

/-- Removes an item of a collection. -/
def deleteItem (v index : Value) : Action Unit := do
  match v, (← get).cell? v with
  | .ref r, some (.dict entries) =>
    match ← entry? entries index with
    | some e => removeKey r entries e.key
    | none => fail (.missingKey index)
  | .ref r, some (.list items) =>
    let n ← placeAt "list" "list assignment index" items.length index
    Effect.put r (.list (items.eraseIdx n))
  | .ref r, some (.buffer bs) =>
    let n ← placeAt "bytearray" "bytearray index" bs.length index
    Effect.put r (.buffer (bs.eraseIdx n))
  | _, _ => return ()

/-! ### Members as values -/

/-- Whether a value is of a type that has a built-in member. -/
def fitsMember (s : Store) (t : BasicType) (v : Value) : Bool :=
  match t with
  | .failure => (s.error? v).isSome
  | _ => s.isSubtype (s.typeOf v) (.basic t)

/-- Reports that a member of a type is used on an object of another one. -/
def failMember {α : Type} (name type : String) (v : Value) : Action α :=
  failNaming ("descriptor '" ++ name ++ "' for '" ++ Text.firstBytes 100 type ++
    "' objects doesn't apply to a '") v 100 "' object"

/-- Checks that a member of a type can be used on an object. -/
def checkMember (f v : Value) : Action Unit := do
  let s ← get
  match f with
  | .native t name => if !fitsMember s t v then failMember name t.name v
  | .slot owner key =>
    let names := (s.lineage (s.typeOf v)).map fun a => s.nameOf (ancestorType (s.typeOf v) a)
    if !names.contains owner then failMember key owner v
  | _ => return ()

/-- What a member of a type is for an object: data is read, and a function is bound. -/
def getThrough (f v type : Value) : Action Value := do
  if v = .null then
    if type = .null then fail (.other .badType "__get__(None, None) is invalid") else return f
  else
    checkMember f v
    match f, (← get).cell? f with
    | .slot _ _, _ | .property _, _ => readData v "" f
    | .native t name, _ =>
      if f.isData then readNative v t name else Effect.alloc (.bound v f)
    | _, some (.bound _ _) => return f
    | _, _ => Effect.alloc (.bound v f)

/-- Assigns data of an object by a member of its type. -/
def setThrough (f v x : Value) : Action Unit := do
  checkMember f v
  match f with
  | .slot _ key =>
    if key = "_hash" then forgetComputed v
    Effect.setSlot v key x
  | .native t name => assignNative v t t.name name (some x)
  | _ => return ()

/-- Removes data of an object by a member of its type. -/
def deleteThrough (f v : Value) : Action Unit := do
  checkMember f v
  match f with
  | .slot _ key => dropAttr v key
  | .native t name => assignNative v t t.name name none
  | _ => return ()

/-- The types of numbers. -/
def numberTypes : List BasicType := [.int, .bool, .float, .complex]

/-- What an operator of a type does with a value and others. -/
def operatorMethod (t : BasicType) (name : String) (v : Value) (args : List Value) :
    Action Value := do
  match numberTypes.contains t, Operation.ofName? name, name, args with
  | true, some (op, exchanged), _, _ => numberOperator t op exchanged v args
  | true, none, _, [] => numberSign name v
  | false, _, "__add__", [x] => sum v x
  | false, _, "__iadd__", [x] => extendInPlace v x
  | false, _, "__mul__", [x] | false, _, "__rmul__", [x] => repeated v x
  | false, _, "__imul__", [x] => repeatInPlace v x
  | false, some (.remainder, _), _, [x] =>
    match t with
    | .text => percentOperator .text name v x
    | .bytes => percentOperator .bytes name v x
    | .buffer => percentOperator .buffer name v x
    | _ => return .undecided
  | false, _, _, [x] =>
    if t = .dict then dictOperator v name x
    else if [.set, .frozenSet, .keysView, .itemsView].contains t then setOperator t name v x
    else return .undecided
  | _, _, _, _ => return .undecided

/-- What a wrapper of a type does. -/
def wrapperMethod (t : BasicType) (name : String) (v : Value) (args : List Value) :
    Action Value := do
  match name, args with
  | "__repr__", _ =>
    match t, (← get).error? v with
    | .failure, some e => return .text (← writeError [] ((← get).typeName v) e.args)
    | .object, _ => return .text ("<" ++ (← get).typeName v ++ " object>")
    | _, _ => return .text (← writeContent [] v)
  | "__str__", _ =>
    match t, (← get).error? v with
    | .failure, some e => return .text (← textOfError e.cls e.args)
    | .object, _ => return .text (← written v)
    | _, _ => return .text (← textOfContent v)
  | "__hash__", _ => return .int (← digest v).toInt
  | "__getattribute__", [key] => readAttr v (← nameOfAttr key)
  | "__setattr__", [key, x] =>
    match v with
    | .type u => assignTypeAttr u (← nameOfAttr key) x
    | _ => storeAttr v (← nameOfAttr key) x
    return .null
  | "__delattr__", [key] =>
    match v with
    | .type _ => removeAttr v (← nameOfAttr key)
    | _ => dropAttr v (← nameOfAttr key)
    return .null
  | "__init__", _ => initObject t v args; return .null
  | "__call__", _ => call v args
  | "__len__", _ => return .int (← length v)
  | "__bool__", _ => return .bool ((← get).isTrue v)
  | "__iter__", _ => iteratorOf v
  | "__next__", _ => nextItem v
  | "__del__", _ => return .null
  | "__getitem__", [i] => item v i
  | "__setitem__", [i, x] => setItem v i x; return .null
  | "__delitem__", [i] => deleteItem v i; return .null
  | "__contains__", [x] => return .bool (← contains v x)
  | "__get__", x :: rest => getThrough v x (rest.head?.getD .null)
  | "__set__", [x, y] => setThrough v x y; return .null
  | "__delete__", [x] => deleteThrough v x; return .null
  | _, _ =>
    match BasicType.comparisons.contains name, args with
    | true, [x] => comparisonMethod t name v x
    | _, _ => operatorMethod t name v args

/-! ### Methods without arguments behind operators -/

/-- The number of arguments that a method of an error takes. -/
def failureArity : String → Arity
  | "with_traceback" | "add_note" | "__setstate__" => .one
  | _ => .none

/-- What an error is made anew from: its class, its arguments, and its attributes if it has some. -/
def errorParts (v : Value) : Action Value := do
  let s ← get
  let cls := Value.type (s.typeOf v)
  let args ← readErrorData v "args"
  match s.error? v with
  | some e =>
    if (s.attrsOf e.fields).isEmpty then Effect.tuple [cls, args]
    else Effect.tuple [cls, args, ← Effect.fieldDict v]
  | none => Effect.tuple [cls, args]

/-- Assigns the attributes in a dictionary; null stands for none. -/
def restoreAttrs (v state : Value) : Action Unit := do
  match state, (← get).dict? state with
  | .null, _ => return ()
  | _, some entries => entries.forM fun e => do setAttr v (← nameOfAttr e.key) e.value
  | _, none => fail (.other .badType "state is not a dictionary")

/-- What a method of all errors does. -/
def failureMethod (v : Value) (name : String) (args : List Value) : Action Value := do
  match name, args with
  | "__reduce__", _ => errorParts v
  | "__setstate__", [state] => restoreAttrs v state; return .null
  | "with_traceback", [x] =>
    if x = .null then return v
    else fail (.other .badType "__traceback__ must be a traceback or None")
  | "add_note", [.text note] =>
    match ← attr? v "__notes__" with
    | some notes => discard (callMethod notes "append" [.text note])
    | none => setAttr v "__notes__" (← Effect.list [.text note])
    return .null
  | "add_note", [x] => fail (.other .badType ("note must be a str, not '" ++
      (← get).typeName x ++ "'"))
  | _, _ => return .null

end GraphQLTree.Action
