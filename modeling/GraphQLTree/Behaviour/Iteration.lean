import GraphQLTree.Behaviour.Collection

/-! # Iteration

What can be iterated gives its items one after the other. A list is gone through as it is at the
moment, a dictionary and a set must not grow or shrink meanwhile, and a generator has its item only
once. An object that gives items for places is gone through from place zero on, until there is no
item at a place. -/

namespace GraphQLTree.Action

/-- The pairs of keys and values of a dictionary, as tuples. -/
def pairs (entries : List Entry) : Effect (List Value) :=
  entries.mapM fun e => Effect.tuple [e.key, e.value]

/-- The items that are given for the places from `i` on until there is none; `fuel` bounds their
number. -/
def collect (next : Nat → Action (Option Value)) : (fuel i : Nat) → Action (List Value)
  | 0, _ => throw .tooDeep
  | fuel + 1, i => do
    match ← next i with
    | none => return []
    | some x => return x :: (← collect next fuel (i + 1))

/-- How many items are taken from an iteration whose end is not known. -/
def collectLimit : Nat := 100000

/-- An item, if getting it does not report the end of the items. -/
def unlessEnded (endings : List ErrorClass) (act : Action Value) : Action (Option Value) :=
  endings.foldl (fun act cls => handling cls act fun _ => return none) (some <$> act)

/-- The item that an object gives for a place; none behind the last one. -/
def itemFor (v : Value) (i : Nat) : Action (Option Value) :=
  unlessEnded [.badIndex, .stopIteration] (item v (.int i))

/-! ### Iterators -/

/-- What is iterated by the place of an item: none if there is no item. -/
def itemOf? (source : Value) (i : Nat) : Action (Option Value) := do
  let s ← get
  match s.items? source with
  | some items => return items[i]?
  | none => itemFor source i

/-- The item at a place of a set or a dictionary. -/
def keyedItem? (source : Value) (form : BasicType) (i : Nat) : Effect (Option Value) := do
  match (← get).cell? source with
  | some (.dict entries) =>
    match entries[i]?, form with
    | none, _ => return none
    | some e, .itemsView => some <$> Effect.tuple [e.key, e.value]
    | some e, .valuesView => return some e.value
    | some e, _ => return some e.key
  | some (.set _ items) => return (items[i]?).map Prod.snd
  | _ => return none

/-- What is left of an iteration, spoiled if the number of items has changed since its start. -/
def Steps.checked (s : Store) : Steps → Steps
  | .keyed source form i size =>
    if s.length? source = some size then .keyed source form i size else .spoiled form
  | .keyedBack source form i size =>
    if s.length? source = some size then .keyedBack source form i size else .spoiled form
  | steps => steps

/-- The next item of an iteration, and what is left of it then. -/
def Steps.next : Steps → Action (Option (Value × Steps))
  | .fixed [] => return none
  | .fixed (x :: rest) => return some (x, .fixed rest)
  | .forward source i => do return (← itemOf? source i).map (·, .forward source (i + 1))
  | .backward _ 0 => return none
  | .backward source (i + 1) => do return (← itemOf? source i).map (·, .backward source i)
  | .keyed source form i size => do
    return (← keyedItem? source form i).map (·, .keyed source form (i + 1) size)
  | .keyedBack _ _ 0 _ => return none
  | .keyedBack source form (i + 1) size => do
    return (← keyedItem? source form i).map (·, .keyedBack source form i size)
  | .spoiled .set => fail (.other .runtime "Set changed size during iteration")
  | .spoiled _ => fail .changedSize

/-- The next item of an iterator or a generator; none if nothing is left. -/
def advance? (v : Value) : Action (Option Value) := do
  match v, (← get).cell? v with
  | .ref r, some (.generator name progress) =>
    Effect.put r (.generator name (if progress = .fresh then .paused else .done))
    return if progress = .fresh then some .null else none
  | .ref r, some (.iterator type steps) =>
    let steps := Steps.checked (← get) steps
    Effect.put r (.iterator type steps)
    match ← Steps.next steps with
    | some (x, rest) => Effect.put r (.iterator type rest); return some x
    | none => Effect.put r (.iterator type (.fixed [])); return none
  | _, _ => return none

/-- Whether a value gives its items one after the other itself. -/
def isIterator (s : Store) (v : Value) : Bool :=
  match s.cell? v with
  | some (.generator _ _) | some (.iterator _ _) => true
  | _ => false

/-- All items that are left of an iterator; none if the value is no iterator. -/
def drain (v : Value) : Action (Option (List Value)) := do
  if isIterator (← get) v then some <$> collect (fun _ => advance? v) collectLimit 0
  else match ← special? v "__next__" with
    | some f =>
      some <$> collect (fun _ => unlessEnded [.stopIteration] (callSpecial f v [])) collectLimit 0
    | none => return none

/-- The items of a value that has its own way to be iterated, or of one that gives items for
places. -/
def ownItems (v : Value) : Action (Option (List Value)) := do
  match ← special? v "__getitem__" with
  | some _ => some <$> collect (itemFor v) collectLimit 0
  | none => return none

/-- The iterator that stands in the place of the one of a value; none if it has no value. -/
def ownIterator? (special : Special) (v : Value) : Action (Option Value) := do
  match ← specialValue? special v with
  | none => return none
  | some _ => some <$> callSpecial special v []

/-- Reports that a value is no iterator where one was asked for. -/
def failIterator {α : Type} (v : Value) : Action α :=
  failNaming "iter() returned non-iterator of type '" v 100 "'"

/-- The items of a value that can be iterated. -/
def iterate (v : Value) : Action (Option (List Value)) := do
  match ← special? v "__iter__" with
  | some special =>
    if (← specialValue? special v) = some .null then return none
    else match ← ownIterator? special v with
      | none => ownItems v
      | some iterator =>
        match ← drain iterator with
        | some items => return some items
        | none => failIterator iterator
  | none =>
    let s ← get
    match s.cell? v, s.items? v with
    | some (.view .itemsView d), _ => return some (← pairs ((s.dict? (.ref d)).getD []))
    | some (.generator _ _), _ | some (.iterator _ _), _ => drain v
    | _, some items => return some items
    | _, none => ownItems v

/-- Whether all characters of a text are of the smallest kind. -/
def isPlainText (t : String) : Bool :=
  t.toList.all fun c => c.toNat < 128

/-- The iterator of a value by what it is; none if it cannot be iterated. -/
def builtInIterator? (s : Store) (v : Value) : Option Cell :=
  let keyed := fun type source form size => Cell.iterator type (.keyed source form 0 size)
  let sizeOf := fun d => ((s.dict? (.ref d)).getD []).length
  match v, s.cell? v with
  | .text t, _ =>
    some (.iterator (if isPlainText t then "str_ascii_iterator" else "str_iterator")
      (.forward v 0))
  | .bytes _, _ => some (.iterator "bytes_iterator" (.forward v 0))
  | _, some (.list _) => some (.iterator "list_iterator" (.forward v 0))
  | _, some (.tuple _ _ _) => some (.iterator "tuple_iterator" (.forward v 0))
  | _, some (.buffer _) => some (.iterator "bytearray_iterator" (.forward v 0))
  | .ref d, some (.dict _) => some (keyed "dict_keyiterator" v .keysView (sizeOf d))
  | _, some (.view .keysView d) => some (keyed "dict_keyiterator" (.ref d) .keysView (sizeOf d))
  | _, some (.view .valuesView d) =>
    some (keyed "dict_valueiterator" (.ref d) .valuesView (sizeOf d))
  | _, some (.view _ d) => some (keyed "dict_itemiterator" (.ref d) .itemsView (sizeOf d))
  | _, some (.set _ items) => some (keyed "set_iterator" v .set items.length)
  | _, _ => (s.items? v).map fun items => .iterator "generator" (.fixed items)

/-- The iterator of a value. -/
def iteratorOf (v : Value) : Action Value := do
  let s ← get
  let bySequence : Action Value := do
    match ← special? v "__getitem__" with
    | some _ => Effect.alloc (.iterator "iterator" (.forward v 0))
    | none => failOn .notIterable v
  match ← special? v "__iter__" with
  | some special =>
    if (← specialValue? special v) = some .null then failOn .notIterable v
    else match ← ownIterator? special v with
      | none => bySequence
      | some iterator =>
        if isIterator (← get) iterator || (← special? iterator "__next__").isSome then
          return iterator
        else failIterator iterator
  | none =>
    if isIterator s v then return v
    else match builtInIterator? s v with
      | some c => Effect.alloc c
      | none => bySequence

/-- How many items are left of an iteration, as far as it is known. -/
def Steps.count (s : Store) : Steps → Nat
  | .fixed rest => rest.length
  | .forward source i => (s.length? source).getD 0 - i
  | .backward source i => if i ≤ (s.length? source).getD 0 then i else 0
  | .keyed source _ i size => if s.length? source = some size then size - i else 0
  | .keyedBack source _ i size => if s.length? source = some size then i else 0
  | .spoiled _ => 0

/-! ### Membership -/

/-- Whether bytes contain a number or a piece of bytes. -/
def bytesContain (bs : List UInt8) (v : Value) : Action Bool := do
  match v, v.whole?, (← get).cell? v with
  | _, some n, _ =>
    if 0 ≤ n && n < 256 then return bs.contains (UInt8.ofNat n.toNat) else fail .noByte
  | .bytes part, _, _ => return occursIn part bs
  | _, _, some (.buffer part) => return occursIn part bs
  | _, _, _ => failOn .notBytes v

/-- Whether a value is among the items that are left of an iterator; those behind it stay. -/
def findAhead (iterator v : Value) : Nat → Action Bool
  | 0 => throw .tooDeep
  | fuel + 1 => do
    match ← advance? iterator with
    | none => return false
    | some x => if ← same x v then return true else findAhead iterator v fuel

/-- Whether a value is in a collection. -/
def contains (container v : Value) : Action Bool := do
  match ← special? container "__contains__" with
  | some special =>
    if (← specialValue? special container) = some .null then
      failNaming "'" container 200 "' object is not a container"
    else isTrue (← callSpecial special container [v])
  | none =>
    let s ← get
    match container, s.cell? container with
    | .text t, _ =>
      match v with
      | .text part => return occursIn part.toList t.toList
      | _ => failOn .textContains v
    | .bytes bs, _ => bytesContain bs v
    | .type (.basic .operation), _ =>
      match v with
      | .operation _ => return true
      | .skip => return false
      | _ =>
        fail (.other .badType ("unsupported operand type(s) for 'in': '" ++ s.typeName v ++
          "' and 'EnumType'"))
    | _, some (.buffer bs) => bytesContain bs v
    | _, some (.list items) | _, some (.tuple _ items _) => isIn items v
    | _, some (.dict entries) => return (← entry? entries v).isSome
    | _, some (.view .keysView d) =>
      return (← entry? ((s.dict? (.ref d)).getD []) v).isSome
    | _, some (.set _ members) => isMember (← memberDigest v) v members
    | _, _ =>
      if isIterator s container then findAhead container v collectLimit
      else match ← items? container with
        | some items => isIn items v
        | none => failOn .notContainer container

end GraphQLTree.Action
