import GraphQLTree.Behaviour.Arguments
import GraphQLTree.Behaviour.Iteration

/-! # Methods of dictionaries and sets

A dictionary keeps its keys in the order in which they were first assigned. Keys and members are
found by their digests, so what has no digest can be neither. -/

namespace GraphQLTree.Action

/-! ### Dictionaries -/

/-- The number of arguments that a method of a dictionary takes. -/
def dictArity : String → Arity
  | "get" | "setdefault" | "pop" => .between 1 2
  | "update" => .between 0 1
  | "__getitem__" | "__contains__" => .one
  | _ => .none

/-- The key and the value that an element gives to a dictionary. -/
def pairOf (i : Nat) (element : Value) : Action (Value × Value) := do
  match ← items? element with
  | none =>
    fail (.other .badType ("cannot convert dictionary update sequence element #" ++ toString i ++
      " to a sequence"))
  | some [key, value] => return (key, value)
  | some parts =>
    fail (.other .badValue ("dictionary update sequence element #" ++ toString i ++
      " has length " ++ toString parts.length ++ "; 2 is required"))

/-- The keys of a value that has a method for them. -/
def keysOf (v : Value) : Action (List Value) := do
  let keys ← callMethod v "keys" []
  match ← items? keys with
  | some items => return items
  | none =>
    let s ← get
    fail (.other .badType (Fault.shown (s.typeName v) ++ ".keys() returned a non-iterable (type " ++
      Fault.shown (s.typeName keys) ++ ")"))

/-- Assigns the keys of another dictionary, of a value that gives keys and items for them, or of a
sequence of pairs. -/
def updateDict (dict other : Value) : Action Unit := do
  match (← get).dict? other with
  | some entries => entries.forM fun e => setKey dict e.key e.value
  | none =>
    if (← attr? other "keys").isSome then
      (← keysOf other).forM fun key => do setKey dict key (← item other key)
    else
      (← items other).zipIdx.forM fun (element, i) => do
        let (key, value) ← pairOf i element
        setKey dict key value

/-- What an operator does with a dictionary and another value. -/
def dictOperator (v : Value) (name : String) (x : Value) : Action Value := do
  let s ← get
  let joined := fun (first second : Value) => do
    match s.dict? first, s.dict? second with
    | some entries, some _ =>
      let dict ← Effect.alloc (.dict entries)
      updateDict dict second
      return dict
    | _, _ => return .undecided
  match name with
  | "__or__" => joined v x
  | "__ror__" => joined x v
  | _ => updateDict v x; return v

/-- Removes the entry of a key. -/
def removeKey (r : Ref) (entries : List Entry) (key : Value) : Effect Unit :=
  Effect.put r (.dict (entries.filter (·.key != key)))

/-- What a method of a dictionary does. -/
def dictMethod (v : Value) (r : Ref) (entries : List Entry) (name : String) (args : List Value) :
    Action Value := do
  match name, args with
  | "get", key :: rest =>
    match ← entry? entries key with
    | some e => return e.value
    | none => return rest.head?.getD .null
  | "setdefault", key :: rest =>
    match ← entry? entries key with
    | some e => return e.value
    | none =>
      let value := rest.head?.getD .null
      setKey v key value
      return value
  | "pop", key :: rest =>
    match ← if entries.isEmpty then pure none else entry? entries key with
    | some e => removeKey r entries e.key; return e.value
    | none =>
      match rest with
      | value :: _ => return value
      | [] => fail (.missingKey key)
  | "popitem", _ =>
    match entries.getLast? with
    | some e =>
      Effect.put r (.dict entries.dropLast)
      Effect.tuple [e.key, e.value]
    | none => fail (.missingKey (.text "popitem(): dictionary is empty"))
  | "keys", _ => Effect.alloc (.view .keysView r)
  | "values", _ => Effect.alloc (.view .valuesView r)
  | "items", _ => Effect.alloc (.view .itemsView r)
  | "update", [other] => updateDict v other; return .null
  | "clear", _ => Effect.put r (.dict []); return .null
  | "copy", _ => Effect.alloc (.dict entries)
  | "__getitem__", [key] => item v key
  | "__contains__", [key] => return .bool (← contains v key)
  | "__reversed__", _ =>
    let size := entries.length
    Effect.alloc (.iterator "dict_reversekeyiterator" (.keyedBack v .keysView size size))
  | _, _ => return .null

/-- A new dictionary of the items of a value, all with the same value. -/
def dictOfKeys (keys value : Value) : Action Value := do
  dict ((← items keys).map (·, value))

/-! ### Sets -/

/-- The number of arguments that a method of a set takes. -/
def setArity : String → Arity
  | "add" | "discard" | "remove" | "isdisjoint" | "issubset" | "issuperset" | "__contains__"
  | "symmetric_difference" | "symmetric_difference_update" => .one
  | "pop" | "clear" | "copy" => .none
  | _ => .any

/-- The members of the set of the items of several values and of some members. -/
def membersOfAll (members : List (Digest × Value)) (others : List Value) :
    Action (List (Digest × Value)) :=
  others.foldlM (fun members other => do (← items other).foldlM addMember members) members

/-- The members that are, or are not, among some others. -/
def membersAmong (wanted : Bool) (others : List (Digest × Value)) :
    List (Digest × Value) → Action (List (Digest × Value))
  | [] => return []
  | (d, v) :: rest => do
    let found ← isMember d v others
    let rest ← membersAmong wanted others rest
    return if found = wanted then (d, v) :: rest else rest

/-- The members of one of two sets that are not in the other one. -/
def membersOfOne (a b : List (Digest × Value)) : Action (List (Digest × Value)) := do
  return (← membersAmong false b a) ++ (← membersAmong false a b)

/-- What an operator does with the members of two sets; none if there is no such operator. -/
def operateMembers? (name : String) (a b : List (Digest × Value)) :
    Option (Action (List (Digest × Value))) :=
  match name with
  | "and" => some (membersAmong true b a)
  | "or" => some (return a ++ (← membersAmong false a b))
  | "sub" => some (membersAmong false b a)
  | "xor" => some (membersOfOne a b)
  | _ => none

/-- The name of an operator of sets, and whether its operands are exchanged or the first of them is
changed. -/
def setOperator? (name : String) : Option (String × Bool × Bool) :=
  ["and", "or", "sub", "xor"].findSome? fun n =>
    if name = "__" ++ n ++ "__" then some (n, false, false)
    else if name = "__r" ++ n ++ "__" then some (n, true, false)
    else if name = "__i" ++ n ++ "__" then some (n, false, true)
    else none

/-- What an operator does with two sets. -/
def operateSets (name : String) (changes : Bool) (v x : Value) : Action Value := do
  let s ← get
  match s.cell? v, s.cell? x with
  | some (.set frozen a), some (.set _ b) =>
    match operateMembers? name a b, v with
    | some act, .ref r =>
      let members ← act
      if changes then Effect.put r (.set frozen members); return v
      else Effect.alloc (.set frozen members)
    | _, _ => return .undecided
  | _, _ => return .undecided

/-- The members of the set of the items of a value. -/
def membersOfItems (v : Value) : Action (List (Digest × Value)) := do
  (← items v).foldlM addMember []

/-- What an operator does with the keys or items of a dictionary and any other items. -/
def operateViews (name : String) (v x : Value) : Action Value := do
  let a ← membersOfItems v
  let b ← membersOfItems x
  match operateMembers? name a b with
  | some act => Effect.alloc (.set false (← act))
  | none => return .undecided

/-- What an operator does with a set, or with the keys or items of a dictionary, and another
value. -/
def setOperator (t : BasicType) (name : String) (v x : Value) : Action Value := do
  match setOperator? name with
  | none => return .undecided
  | some (op, exchanged, changes) =>
    let (a, b) := if exchanged then (x, v) else (v, x)
    if t = .set || t = .frozenSet then operateSets op changes a b else operateViews op a b

/-- What a method of the keys or items of a dictionary does. -/
def viewMethod (v : Value) (form : BasicType) (d : Ref) (name : String) (args : List Value) :
    Action Value := do
  let entries := ((← get).dict? (.ref d)).getD []
  match name, args with
  | "isdisjoint", [x] =>
    let found ← membersAmong true (← membersOfItems x) (← membersOfItems v)
    return .bool found.isEmpty
  | "__reversed__", _ =>
    let size := entries.length
    let type := match form with
      | .itemsView => "dict_reverseitemiterator"
      | .valuesView => "dict_reversevalueiterator"
      | _ => "dict_reversekeyiterator"
    Effect.alloc (.iterator type (.keyedBack (.ref d) form size size))
  | _, _ => return .null

/-- The members that are among the items of each of several values. -/
def membersOfEach (members : List (Digest × Value)) (others : List Value) :
    Action (List (Digest × Value)) :=
  others.foldlM (fun members other => do membersAmong true (← membersOfItems other) members) members

/-- Adds the items of a value to a set, one after the other. -/
def addItems (v x : Value) : Action Unit := do
  (← items x).forM fun m => do
    match v, (← get).cell? v with
    | .ref r, some (.set frozen members) => Effect.put r (.set frozen (← addMember members m))
    | _, _ => return ()

/-- What a method of a set does. -/
def setMethod (v : Value) (r : Ref) (frozen : Bool) (members : List (Digest × Value))
    (name : String) (args : List Value) : Action Value := do
  let others := membersOfAll [] args
  match name, args with
  | "add", [x] => Effect.put r (.set frozen (← addMember members x)); return .null
  | "discard", [x] | "remove", [x] =>
    let d ← memberDigest x
    if ← isMember d x members then
      Effect.put r (.set frozen (← membersAmong false [(d, x)] members))
      return .null
    else if name = "remove" then fail (.missingKey x)
    else return .null
  | "pop", _ =>
    match members with
    | [] => fail (.missingKey (.text "pop from an empty set"))
    | (_, x) :: rest => Effect.put r (.set frozen rest); return x
  | "clear", _ => Effect.put r (.set frozen []); return .null
  | "copy", _ => if frozen then return v else Effect.alloc (.set false members)
  | "update", _ => args.forM (addItems v); return .null
  | "union", _ => Effect.alloc (.set frozen (← membersOfAll members args))
  | "difference", _ => Effect.alloc (.set frozen (← membersAmong false (← others) members))
  | "intersection", _ => do Effect.alloc (.set frozen (← membersOfEach members args))
  | "difference_update", _ =>
    Effect.put r (.set frozen (← membersAmong false (← others) members))
    return .null
  | "intersection_update", _ =>
    Effect.put r (.set frozen (← membersOfEach members args))
    return .null
  | "symmetric_difference", _ => do
    Effect.alloc (.set frozen (← membersOfOne members (← others)))
  | "symmetric_difference_update", _ =>
    Effect.put r (.set frozen (← membersOfOne members (← others)))
    return .null
  | "isdisjoint", _ => return .bool (← membersAmong true (← others) members).isEmpty
  | "issubset", _ => return .bool (← membersAmong false (← others) members).isEmpty
  | "issuperset", _ => return .bool (← membersAmong false members (← others)).isEmpty
  | "__contains__", [x] => return .bool (← contains v x)
  | _, _ => return .null

end GraphQLTree.Action
