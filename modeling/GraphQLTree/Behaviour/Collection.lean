import GraphQLTree.Behaviour.Basic
import GraphQLTree.Slice

/-! # Collections

Truth values, the items of a collection, their number, the item at a place, slices, and what a
collection contains. Texts and bytes are collections too: of characters and of numbers. -/

namespace GraphQLTree

/-- Whether `part` stands in `whole` as a piece without gaps. -/
def occursIn {α : Type} [BEq α] (part : List α) : List α → Bool
  | [] => part.isEmpty
  | a :: rest => part.isPrefixOf (a :: rest) || occursIn part rest

/-! ### Truth values -/

/-- The truth value of an object: an empty collection and one class of errors are false. -/
def Cell.isTrue : Cell → Bool
  | .list items => !items.isEmpty
  | .tuple _ items _ => !items.isEmpty
  | .dict entries => !entries.isEmpty
  | .set _ items => !items.isEmpty
  | .buffer bs => !bs.isEmpty
  | .error e => e.cls != .falsy
  | _ => true

namespace Store

/-- The truth value of a value: null, zero and what is empty are false. -/
def isTrue (s : Store) : Value → Bool
  | .null => false
  | .bool b => b
  | .int n => n != 0
  | .text t => t != ""
  | .float x _ => !x.isZero
  | .complex re im _ => !(re.isZero && im.isZero)
  | .bytes bs => !bs.isEmpty
  | .ref r =>
    match s.get? r with
    | some (.view _ d) => !((s.dict? (.ref d)).getD []).isEmpty
    | some c => c.isTrue
    | none => true
  | _ => true

/-! ### Items -/

/-- The items of a value that can be iterated again and again: of texts the characters, of bytes the
numbers and of dictionaries the keys. -/
def items? (s : Store) (v : Value) : Option (List Value) :=
  match v, s.cell? v with
  | .text t, _ => some (t.toList.map fun c => .text (String.singleton c))
  | .bytes bs, _ => some (bs.map fun b => .int b.toNat)
  | .type (.basic .operation), _ => some [.operation .query, .operation .mutation]
  | .type (.basic .action), _ => some [.skip]
  | _, some (.list items) => some items
  | _, some (.tuple _ items _) => some items
  | _, some (.dict entries) => some (entries.map Entry.key)
  | _, some (.set _ items) => some (items.map Prod.snd)
  | _, some (.buffer bs) => some (bs.map fun b => .int b.toNat)
  | _, some (.view .keysView d) | _, some (.view .membersView d) =>
    (s.dict? (.ref d)).map fun es => es.map Entry.key
  | _, some (.view .valuesView d) => (s.dict? (.ref d)).map fun es => es.map Entry.value
  | _, _ => none

/-- The number of items of a value, if it has one. -/
def length? (s : Store) (v : Value) : Option Nat :=
  match s.cell? v with
  | some (.view _ d) => (s.dict? (.ref d)).map List.length
  | _ => (s.items? v).map List.length

end Store

namespace Action

/-- The truth value of a number that stands for a length. -/
def lengthOfAnswer (answer : Value) : Action Nat := do
  match answer.whole? with
  | none => failOn .notInteger answer
  | some n =>
    if n < 0 then fail (.other .badValue "__len__() should return >= 0") else return n.toNat

/-- The truth value of a value. -/
def truth (v : Value) : Action Bool := do
  match ← special? v "__bool__" with
  | some f =>
    match ← callSpecial f v [] with
    | .bool b => return b
    | other => do
      fail (.other .badType ("__bool__ should return bool, returned " ++ (← get).typeName other))
  | none =>
    match ← special? v "__len__" with
    | some f => return (← lengthOfAnswer (← callSpecial f v [])) != 0
    | none => return (← get).isTrue v

/-- The number of items of a value. -/
def length (v : Value) : Action Nat := do
  match ← special? v "__len__" with
  | some f => lengthOfAnswer (← callSpecial f v [])
  | none =>
    match (← get).length? v with
    | some n => return n
    | none => failOn .noLength v

/-! ### Dictionaries -/

/-- The entry of a key, found by its digest and by comparison with the keys that share it. -/
def findEntry (d : Digest) (key : Value) : List Entry → Action (Option Entry)
  | [] => return none
  | e :: rest => do
    if e.digest = d then
      if e.key = key then return some e
      if ← equal e.key key then return some e else findEntry d key rest
    else findEntry d key rest

/-- The entries with the value of a key assigned: an equal key keeps its place and its form. -/
def setEntry (entries : List Entry) (d : Digest) (key value : Value) : Action (List Entry) := do
  match ← findEntry d key entries with
  | some e =>
    return entries.map fun e' => if e'.key = e.key then { e' with value } else e'
  | none => return entries ++ [⟨d, key, value⟩]

/-- Assigns the value of a key of a dictionary. -/
def setKey (dict key value : Value) : Action Unit := do
  let d ← digest key
  match dict, (← get).dict? dict with
  | .ref r, some entries => Effect.put r (.dict (← setEntry entries d key value))
  | _, _ => return ()

/-- The entry of a key of a dictionary. -/
def entry? (entries : List Entry) (key : Value) : Action (Option Entry) := do
  findEntry (← digest key) key entries

/-- A new dictionary of keys with their values, given one after the other. -/
def dict (pairs : List (Value × Value)) : Action Value := do
  let entries ← pairs.foldlM (fun entries (key, value) => do
    setEntry entries (← digest key) key value) []
  Effect.alloc (.dict entries)

/-! ### Sets -/

/-- Whether a value with a digest is among the members of a set. -/
def isMember (d : Digest) (v : Value) : List (Digest × Value) → Action Bool
  | [] => return false
  | (d', w) :: rest => do
    if d = d' then
      if v = w then return true
      if ← equal w v then return true else isMember d v rest
    else isMember d v rest

/-- The members of a set with one more, unless it is there already. -/
def addMember (members : List (Digest × Value)) (v : Value) :
    Action (List (Digest × Value)) := do
  let d ← digest v
  if ← isMember d v members then return members else return members ++ [(d, v)]

/-- A new set of items. -/
def setOf (frozen : Bool) (items : List Value) : Action Value := do
  Effect.alloc (.set frozen (← items.foldlM addMember []))

/-- The digest of what is looked for in a set; a set stands for the frozen set of its items. -/
def memberDigest (v : Value) : Action Digest := do
  match (← get).cell? v with
  | some (.set _ items) => return .group true (items.map Prod.fst)
  | _ => digest v

/-! ### Looking for an item -/

/-- Whether two values are the same or equal. -/
def same (a b : Value) : Action Bool := do
  if a = b then return true else equal a b

/-- The first place of a value in a sequence. -/
def findIndex (v : Value) : List Value → Action (Option Nat)
  | [] => return none
  | x :: rest => do
    if ← same x v then return some 0 else return (← findIndex v rest).map (· + 1)

/-- Whether a value is in a sequence. -/
def isIn (items : List Value) (v : Value) : Action Bool :=
  return (← findIndex v items).isSome

/-- A bound of a search; it must be a number. -/
def searchBound (v : Value) : Action Int := do
  match v.whole? with
  | some n => return n
  | none => fail .badPosition

/-- The first place of a value in a sequence between the given bounds. -/
def indexOf (isList : Bool) (items : List Value) (v : Value) (bounds : List Value) :
    Action Value := do
  let bounds ← bounds.mapM searchBound
  let first := position items.length (bounds[0]?.getD 0)
  let stop := position items.length (bounds[1]?.getD items.length)
  match ← findIndex v ((items.take stop).drop first) with
  | some i => return .int (first + i)
  | none =>
    if isList then fail (.notFound ((← written v) ++ " is not in list"))
    else fail (.notFound "tuple.index(x): x not in tuple")

/-- How often a value occurs in a sequence. -/
def countOf (items : List Value) (v : Value) : Action Value := do
  return .int (← items.filterM (same · v)).length

/-! ### Items by their places -/

/-- A place counted from the start, where `place` counts from the end if it is negative. -/
def fromStart? (length : Nat) (place : Int) : Option Nat :=
  let place := if place < 0 then place + length else place
  if place < 0 then none else some place.toNat

/-- The name of a type in a message about an argument; null has a word of its own. -/
def argumentType (v : Value) : Action String := do
  if v = .null then return "None" else return Text.firstBytes 50 ((← get).typeName v)

/-- Whether a number is too large for a place. -/
def isHuge (n : Int) : Bool :=
  n ≥ 0x8000000000000000 || n < -0x8000000000000000

/-- The number that an argument is. -/
def wholeArgument (v : Value) : Action Int := do
  match v.whole? with
  | none => failOn .notInteger v
  | some n =>
    if isHuge n then
      fail (.other .overflow "Python int too large to convert to C ssize_t")
    else return n

/-- Whether a number of items is too large to be kept. -/
def isTooMany (n : Int) : Bool :=
  n ≥ 0x10000000

/-- Reports a number of items that is too large. -/
def failTooMany {α : Type} : Action α :=
  fail (.other .overflow Fault.hugeIndex.message)

/-- The number that a place is given by. -/
def placeNumber (type : String) (index : Value) : Action Int := do
  match index.whole? with
  | none => fail (.badIndex type ((← get).typeName index))
  | some i => if isHuge i then fail .hugeIndex else return i

/-- A place in a sequence, where it is counted from. -/
def placeWithin (place : String) (length : Nat) (i : Int) : Action Nat := do
  match fromStart? length i with
  | some n => if n < length then return n else fail (.outOfRange place)
  | none => fail (.outOfRange place)

/-- A place in a sequence. -/
def placeAt (type place : String) (length : Nat) (index : Value) : Action Nat := do
  placeWithin place length (← placeNumber type index)

/-- An item of a sequence by its signed place. -/
def itemAt (type place : String) (items : List Value) (index : Value) : Action Value := do
  return items[← placeAt type place items.length index]?.getD .null

/-- A type with a parameter given, or with several ones in a tuple. -/
def parametrize (t : TypeValue) (v : Value) : Effect Value := do
  let args ← match (← get).cell? v with
    | some (.tuple _ _ _) => pure v
    | _ => Effect.tuple [v]
  let slots := [("__origin__", .type t), ("__args__", args), ("__parameters__", ← Effect.tuple [])]
  Effect.alloc (.object ⟨.basic .parametrized, slots, .own []⟩)

/-- A type with its parameters given, if it takes some. -/
def withParameters (t : TypeValue) (v : Value) : Effect Value := do
  let s ← get
  if (s.classEntry? t "__class_getitem__").isSome then parametrize t v
  else Effect.fail (.notSubscriptableType (s.nameOf t))

/-- An item of a collection. -/
def item (container index : Value) : Action Value := do
  match ← special? container "__getitem__" with
  | some f => callSpecial f container [index]
  | none =>
    let s ← get
    let items := (s.items? container).getD []
    match container, s.cell? container with
    | .text _, _ => itemAt "string" "string index" items index
    | .bytes _, _ => itemAt "byte" "index" items index
    | .type (.basic .operation), _ =>
      let _ ← digest index
      match index with
      | .text name =>
        match OperationType.ofName? name with
        | some op => return .operation op
        | none => fail (.missingKey index)
      | _ => fail (.missingKey index)
    | .type t, _ => withParameters t index
    | _, some (.buffer _) => itemAt "bytearray" "bytearray index" items index
    | _, some (.list _) => itemAt "list" "list index" items index
    | _, some (.tuple _ _ _) => itemAt "tuple" "tuple index" items index
    | _, some (.dict entries) =>
      match ← entry? entries index with
      | some e => return e.value
      | none => fail (.missingKey index)
    | _, _ => failOn .notSubscriptable container

/-- The byte that a number is. -/
def byteOf (v : Value) : Action UInt8 := do
  match v.whole? with
  | none => failOn .notInteger v
  | some n => if 0 ≤ n && n < 256 then return UInt8.ofNat n.toNat else fail .noByte

/-- Assigns an item of a collection. -/
def setItem (container index x : Value) : Action Unit := do
  match ← special? container "__setitem__" with
  | some f => discard (callSpecial f container [index, x])
  | none =>
    match container, (← get).cell? container with
    | _, some (.dict _) => setKey container index x
    | .ref r, some (.list items) =>
      let n ← placeAt "list" "list assignment index" items.length index
      Effect.put r (.list (items.set n x))
    | .ref r, some (.buffer bs) =>
      let i ← placeNumber "bytearray" index
      let b ← byteOf x
      Effect.put r (.buffer (bs.set (← placeWithin "bytearray index" bs.length i) b))
    | _, _ => failOn .notAssignable container

/-! ### Slices -/

/-- The bounds of a slice and its step. -/
structure Bounds where
  start : Value
  stop : Value
  step : Value

/-- The bounds given by some values: one is the stop, two are start and stop. -/
def Bounds.ofList : List Value → Bounds
  | [] => ⟨.null, .null, .null⟩
  | [stop] => ⟨.null, stop, .null⟩
  | [start, stop] => ⟨start, stop, .null⟩
  | start :: stop :: step :: _ => ⟨start, stop, step⟩

/-- A bound of a slice; null stands for one left out. -/
def bound? : Value → Action (Option Int)
  | .null => return none
  | v => match v.whole? with
    | some n => return some n
    | none => fail .badBound

/-- The items between two bounds at the distance of the step, which is looked at first. -/
def cut {α : Type} (bounds : Bounds) (items : List α) : Action (List α) := do
  let step := (← bound? bounds.step).getD 1
  if step = 0 then fail .zeroStep
  else
    let start? ← bound? bounds.start
    let stop? ← bound? bounds.stop
    return slice start? stop? step items

/-- A slice of a collection; that of a child sequence is a plain tuple. -/
def sliceOf (container : Value) (bounds : Bounds) : Action Value := do
  let s ← get
  match container, s.cell? container with
  | .text t, _ => return .text (String.ofList (← cut bounds t.toList))
  | .bytes bs, _ => return .bytes (← cut bounds bs)
  | .type (.basic .operation), _ => fail (.unhashable "slice")
  | .type t, _ => withParameters t .null
  | _, some (.list items) => Effect.list (← cut bounds items)
  | _, some (.tuple kind items _) =>
    let part ← cut bounds items
    let isWhole := part.length = items.length && (bounds.step.whole?.getD 1) = 1
    if isWhole && kind = .plain then return container else Effect.tuple part
  | _, some (.buffer bs) => Effect.alloc (.buffer (← cut bounds bs))
  | _, some (.dict _) => fail (.unhashable "slice")
  | _, _ => failOn .notSubscriptable container

end Action
end GraphQLTree
