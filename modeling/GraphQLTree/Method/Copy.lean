import GraphQLTree.Behaviour.Collection
import GraphQLTree.Method.Node

/-! # Copies

A shallow copy of a node is a new node of the same class with the same values for its keys. A deep
copy also copies what the keys hold; an object that occurs several times in the copied value occurs
as often in the copy, as one new object. Attributes of a node that are no keys are not copied. An
error is made anew from its arguments and then gets the attributes that it had. What cannot be
changed is its own copy. -/

namespace GraphQLTree.Action

/-! ### Shallow copies -/

/-- The attributes that an object has itself, for a copy of it. -/
def ownFields (s : Store) (fields : Fields) : Fields :=
  .own (s.attrsOf fields)

/-- A copy of an error: it is made anew, and its attributes are assigned. -/
def copyError (v : Value) (args : List Value) (attrs : Attrs) : Action Value := do
  let copy ← call (.type ((← get).typeOf v)) args
  attrs.forM fun (name, x) => setAttr copy name x
  return copy

/-- A shallow copy of an object. -/
def copyCell (v : Value) (c : Cell) : Action Value := do
  let s ← get
  match c with
  | .node _ => copyNode v
  | .error e => copyError v e.args (s.attrsOf e.fields)
  | .tuple .frozen items fields => Effect.alloc (.tuple .frozen items (ownFields s fields))
  | .object o => Effect.alloc (.object { o with fields := ownFields s o.fields })
  | .bound owner (.function m) => attr owner m.name
  | .generator _ _ | .view _ _ => failOn .notCopyable v
  | .tuple .plain _ _ | .set true _ | .bound _ (.native _ _) | .stub _ _ _ | .builtin _
  | .newType _ _ => return v
  | .bound _ _ | .list _ | .tuple .version _ _ | .dict _ | .set false _ | .buffer _ | .applied _ _
  | .iterator _ _ => Effect.alloc c

/-- A shallow copy of an object with all that it holds, whatever its type does to copy it. -/
def copyWhole (v : Value) (c : Cell) : Action Value := do
  match c with
  | .node n => Effect.alloc (.node { n with fields := ownFields (← get) n.fields })
  | _ => copyCell v c

/-- Whether the type of an object may provide a way to copy it. -/
def hasOwnCopy : Cell → Bool
  | .node _ | .error _ | .tuple .frozen _ _ | .object _ => true
  | _ => false

/-- A shallow copy. -/
def copyOf (v : Value) : Action Value := do
  let s ← get
  match s.cell? v with
  | none => return v
  | some c =>
    match if hasOwnCopy c then s.classEntry? (s.typeOf v) "__copy__" else none with
    | some (_, .value (.function { body := .copyNode, .. })) => copyCell v c
    | some (_, .value .null) => copyWhole v c
    | none => copyCell v c
    | some (a, entry) => do call (← Effect.entryValue a "__copy__" entry) [v]

/-! ### Deep copies -/

/-- Copies of several values. -/
def copyAll (copies : Copies) : List Value → Action (List Value × Copies)
  | [] => return ([], copies)
  | x :: rest => do
    let (y, copies) ← deepCopy copies x
    let (ys, copies) ← copyAll copies rest
    return (y :: ys, copies)

/-- Copies of attributes. -/
def copyAttrs (copies : Copies) (attrs : Attrs) : Action (Attrs × Copies) := do
  let (values, copies) ← copyAll copies (attrs.map Prod.snd)
  return ((attrs.map Prod.fst).zip values, copies)

/-- Appends copies of values to a new list. -/
def fillList (copy : Value) (copies : Copies) : List Value → Action Copies
  | [] => return copies
  | x :: rest => do
    let (y, copies) ← deepCopy copies x
    match copy, (← get).cell? copy with
    | .ref r, some (.list items) => Effect.put r (.list (items ++ [y]))
    | _, _ => pure ()
    fillList copy copies rest

/-- Assigns copies of entries to a new dictionary; the value is copied before the key. -/
def fillDict (copy : Value) (copies : Copies) : List Entry → Action Copies
  | [] => return copies
  | e :: rest => do
    let (value, copies) ← deepCopy copies e.value
    let (key, copies) ← deepCopy copies e.key
    setKey copy key value
    fillDict copy copies rest

/-- A deep copy of an object. Lists, dictionaries and other objects may contain themselves, so their
copies are remembered before they are filled. -/
def deepCopyCell (copies : Copies) (v : Value) (r : Ref) (c : Cell) :
    Action (Value × Copies) := do
  let s ← get
  match c with
  | .node _ =>
    let (copy, copies) ← deepCopyNode copies v
    return (copy, (r, copy) :: copies)
  | .list items =>
    let copy ← Effect.list []
    return (copy, ← fillList copy ((r, copy) :: copies) items)
  | .dict entries =>
    let copy ← Effect.alloc (.dict [])
    return (copy, ← fillDict copy ((r, copy) :: copies) entries)
  | .tuple .plain items _ =>
    let (ys, copies) ← copyAll copies items
    match copies.lookup r with
    | some copy => return (copy, copies)
    | none =>
      if ys = items then return (v, copies)
      else
        let copy ← Effect.tuple ys
        return (copy, (r, copy) :: copies)
  | .tuple form items fields =>
    let (ys, copies) ← copyAll copies items
    let copy ← Effect.alloc (.tuple form ys (.own []))
    let (attrs, copies) ← copyAttrs ((r, copy) :: copies) (s.attrsOf fields)
    attrs.forM fun (name, x) => Effect.setField copy name x
    return (copy, copies)
  | .set frozen members =>
    let (ys, copies) ← copyAll copies (members.map Prod.snd)
    let copy ← setOf frozen ys
    return (copy, (r, copy) :: copies)
  | .error e =>
    let (args, copies) ← copyAll copies e.args
    let copy ← call (.type (s.typeOf v)) args
    let (attrs, copies) ← copyAttrs ((r, copy) :: copies) (s.attrsOf e.fields)
    attrs.forM fun (name, x) => setAttr copy name x
    return (copy, copies)
  | .object o =>
    let copy ← Effect.alloc (.object ⟨o.cls, [], .own []⟩)
    let (slots, copies) ← copyAttrs ((r, copy) :: copies) o.slots
    let (attrs, copies) ← copyAttrs copies (s.attrsOf o.fields)
    slots.forM fun (name, x) => Effect.setSlot copy name x
    attrs.forM fun (name, x) => Effect.setField copy name x
    return (copy, copies)
  | .bound owner f =>
    match f with
    | .native _ _ => return (v, copies)
    | _ =>
      let (owner, copies) ← deepCopy copies owner
      let copy ← Effect.alloc (.bound owner f)
      return (copy, (r, copy) :: copies)
  | .buffer _ | .iterator _ _ | .applied _ _ =>
    let copy ← Effect.alloc c
    return (copy, (r, copy) :: copies)
  | .generator _ _ | .view _ _ => failOn .notCopyable v
  | .stub _ _ _ | .builtin _ | .newType _ _ => return (v, copies)

/-- A deep copy of an object with all that it holds, whatever its type does to copy it. -/
def deepCopyWhole (copies : Copies) (v : Value) (r : Ref) (c : Cell) :
    Action (Value × Copies) := do
  match c with
  | .node n =>
    let copy ← Effect.alloc (.node { n with slots := [], fields := .own [] })
    let (attrs, copies) ← copyAttrs ((r, copy) :: copies) ((← get).attrsOf n.fields)
    let (slots, copies) ← copyAttrs copies n.slots
    attrs.forM fun (name, x) => Effect.setField copy name x
    slots.forM fun (name, x) => Effect.setSlot copy name x
    return (copy, copies)
  | _ => deepCopyCell copies v r c

/-! ### Keeping copies -/

/-- The number of the place where an object lives, which stands for it in a dictionary of copies. -/
def identityOf : Value → Value
  | .ref r => .int (0x700000000000 + 16 * r)
  | _ => .int 0x700000000008

/-- The copies that are kept in a dictionary. -/
def copiesIn (entries : List Entry) : Copies :=
  entries.filterMap fun e =>
    match e.key with
    | .int n =>
      let place := n - 0x700000000000
      if 0 ≤ place && place % 16 = 0 then some ((place / 16).toNat, e.value) else none
    | _ => none

/-- Keeps copies in a dictionary; what was copied is kept too, under the place of the dictionary. -/
def remember (memo : Value) (copies : Copies) : Action Unit := do
  let known := copiesIn (((← get).dict? memo).getD [])
  let new := copies.reverse.filter fun (r, _) => (known.lookup r).isNone
  if !new.isEmpty then
    new.forM fun (r, copy) => setKey memo (identityOf (.ref r)) copy
    let kept? ← entry? (((← get).dict? memo).getD []) (identityOf memo)
    let s ← get
    let kept := (kept?.bind fun e => s.sequence? e.value).getD []
    setKey memo (identityOf memo) (← Effect.list (kept ++ new.map fun (r, _) => .ref r))

/-- A deep copy, where copies were made before. -/
def deepCopyOf (copies : Copies) (v : Value) : Action (Value × Copies) := do
  let s ← get
  match v, s.cell? v with
  | .ref r, some c =>
    match copies.lookup r with
    | some copy => return (copy, copies)
    | none =>
      let own := s.method? v "__deepcopy__"
      let provided := own.isSome || (s.field? v "__deepcopy__").isSome ||
        (s.classEntry? (s.typeOf v) "__deepcopy__").isSome
      match own, hasOwnCopy c && provided with
      | some (.function { body := .deepCopyNode, .. }), _ | _, false =>
        deepCopyCell copies v r c
      | _, true =>
        let f ← attr v "__deepcopy__"
        if f = .null then deepCopyWhole copies v r c
        else
          let memo ← Effect.alloc (.dict [])
          remember memo copies
          let copy ← call f [memo]
          return (copy, (r, copy) :: copies)
  | _, _ => return (v, copies)

/-- A deep copy of a value, where the copies made so far are kept in another value: in a dictionary,
or in what can be asked in the same way. What it answers is taken for the copy. -/
def deepCopyUsing (memo v : Value) : Action Value := do
  match memo, (← get).dict? memo with
  | .null, _ => return (← deepCopy [] v).1
  | _, some entries =>
    let (copy, copies) ← deepCopy (copiesIn entries) v
    remember memo copies
    return copy
  | _, none =>
    let none ← Effect.list []
    let answer ← callMethod memo "get" [identityOf v, none]
    if answer ≠ none then return answer
    else
      let (copy, _) ← deepCopy [] v
      if copy ≠ v then setItem memo (identityOf v) copy
      return copy

/-- A new node of the same class with copies of the values of the keys, where the copies made so far
are kept in a value. -/
def deepCopyWith (v memo : Value) : Action Value := do
  let cls ← classOf v
  let args ← (← namesOf v "keys").mapM fun key => do
    let name ← nameOfAttr key
    return (name, ← deepCopyUsing memo (← attr v name))
  callWith cls [] (distinct args)

end GraphQLTree.Action
