import GraphQLTree.Store.Digest
import GraphQLTree.Store.Effect

/-! # Attributes of any name

Nodes, errors and some other objects can have attributes of any name. They belong to the object
until their dictionary is asked for; from then on they are the entries of that dictionary, so that
a change of one shows in the other. -/

namespace GraphQLTree

/-- The entry of a text in a dictionary. -/
def textEntry (name : String) (v : Value) : Entry :=
  ⟨textDigest name, .text name, v⟩

/-- The entries of a dictionary with the value of a text assigned. -/
def setTextEntry (name : String) (v : Value) : List Entry → List Entry
  | [] => [textEntry name v]
  | e :: rest =>
    if e.key = .text name then { e with value := v } :: rest else e :: setTextEntry name v rest

namespace Store

/-- The attributes in a dictionary that have a text for a name. -/
def dictAttrs (entries : List Entry) : Attrs :=
  entries.filterMap fun e =>
    match e.key with
    | .text name => some (name, e.value)
    | _ => none

/-- The attributes of an object. -/
def attrsOf (s : Store) : Fields → Attrs
  | .own attrs => attrs
  | .shared r => dictAttrs ((s.dict? (.ref r)).getD [])

/-- The attributes that a member of an enumeration has from the start. -/
def memberAttrs (op : OperationType) : Attrs :=
  [("_value_", .text op.text), ("_name_", .text op.name),
   ("__objclass__", .type (.basic .operation)),
   ("_sort_order_", .int (if op = .query then 0 else 1))]

/-- The attributes of a member of an enumeration. -/
def attrsOfMember (s : Store) (op : OperationType) : Attrs :=
  let own := s.classAttrs.filterMap fun ((id, name), v) =>
    if id = .member op then some (name, v) else none
  own.reverse.foldl (fun attrs (name, v) => attrs.set name v) (memberAttrs op)

/-- An attribute that a value has itself. -/
def field? (s : Store) (v : Value) (name : String) : Option Value :=
  match v, (s.cell? v).bind Cell.fields? with
  | .operation op, _ => (s.attrsOfMember op).lookup name
  | _, some fields => (s.attrsOf fields).lookup name
  | _, none => none

/-- Whether a value can have attributes of any name. -/
def hasFields (s : Store) (v : Value) : Bool :=
  match v with
  | .operation _ => true
  | _ => ((s.cell? v).bind Cell.fields?).isSome

end Store

namespace Effect

/-- Assigns an attribute that a value has itself. -/
def setField (v : Value) (name : String) (x : Value) : Effect Unit := do
  let s ← get
  match v, s.cell? v with
  | .operation op, _ =>
    let key := (ClassId.member op, name)
    set { s with classAttrs := (key, x) :: s.classAttrs.filter (·.1 != key) }
  | .ref r, some c =>
    match c.fields? with
    | some (.own attrs) => put r (c.withFields (.own (attrs.set name x)))
    | some (.shared d) => put d (.dict (setTextEntry name x ((s.dict? (.ref d)).getD [])))
    | none => return ()
  | _, _ => return ()

/-- Removes an attribute that a value has itself. -/
def removeField (v : Value) (name : String) : Effect Unit := do
  let s ← get
  match v, s.cell? v with
  | .ref r, some c =>
    match c.fields? with
    | some (.own attrs) => put r (c.withFields (.own (attrs.remove name)))
    | some (.shared d) =>
      put d (.dict (((s.dict? (.ref d)).getD []).filter (·.key != .text name)))
    | none => return ()
  | _, _ => return ()

/-- The dictionary of the attributes that a value has itself. -/
def fieldDict (v : Value) : Effect Value := do
  let s ← get
  match v, s.cell? v with
  | .operation op, _ =>
    alloc (.dict ((s.attrsOfMember op).map fun (name, x) => textEntry name x))
  | .ref r, some c =>
    match c.fields? with
    | some (.own attrs) =>
      let d := s.size
      let dict ← alloc (.dict (attrs.map fun (name, x) => textEntry name x))
      put r (c.withFields (.shared d))
      return dict
    | some (.shared d) => return .ref d
    | none => noAttribute v "__dict__"
  | _, _ => noAttribute v "__dict__"

/-- The value of a key of an object; fails if the key has none. A digest that was computed stands
under a key of its own, as a number that nobody can foresee. -/
def slotValue (v : Value) (key : String) : Effect Value := do
  let s ← get
  match s.cell? v with
  | some c =>
    match c.slots.lookup key, c with
    | some x, _ => return x
    | none, .node { digest? := some _, .. } =>
      if key = "_hash" then return .int 0 else fail (.noValue (s.typeName v) key)
    | none, _ => fail (.noValue (s.typeName v) key)
  | none => fail (.noValue (s.typeName v) key)

/-- Assigns the value of a key of an object. -/
def setSlot (v : Value) (key : String) (x : Value) : Effect Unit := do
  match v, (← get).cell? v with
  | .ref r, some c => put r (c.withSlots (c.slots.set key x))
  | _, _ => return ()

/-- Removes the value of a key of an object. -/
def removeSlot (v : Value) (key : String) : Effect Unit := do
  match v, (← get).cell? v with
  | .ref r, some c => put r (c.withSlots (c.slots.remove key))
  | _, _ => return ()

end Effect
end GraphQLTree
