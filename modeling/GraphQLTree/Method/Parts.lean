import GraphQLTree.Behaviour.Arguments
import GraphQLTree.Behaviour.Attribute
import GraphQLTree.Behaviour.Digest
import GraphQLTree.Node.Declaration

/-! # Parts of objects

What an object can be made anew from. Its state is its dictionary of attributes, with its keys
beside it if some of them have values; nothing stands for an empty state. The parts of an object are
a function that makes objects, the arguments for it, and the state. There are two forms of parts: an
older one, in which an object is made from a plainer object of a type that it is derived from, and a
newer one, in which a type makes it from the arguments that it tells itself. -/

namespace GraphQLTree.Action

/-! ### State -/

/-- The names of the keys of the objects of a type, those of the type itself first. -/
def slotsOf : TypeValue → List String
  | .node c => c.lineage.flatMap fun l =>
    if l.slotForm = .absent then [] else ClassDecl.slotNames l.name l.slots
  | _ => []

/-- The dictionary of the attributes that a value has itself; null if there is none. -/
def fieldState (v : Value) : Action Value := do
  let s ← get
  match v, (s.cell? v).bind Cell.fields? with
  | .operation _, _ => Effect.fieldDict v
  | _, some fields => if (s.attrsOf fields).isEmpty then return .null else Effect.fieldDict v
  | _, none => return .null

/-- The state of a value. -/
def stateOf (v : Value) : Action Value := do
  let fields ← fieldState v
  let slots ← (slotsOf ((← get).typeOf v)).filterMapM fun name => do
    return (← attr? v name).map (textEntry name)
  if slots.isEmpty then return fields
  else do Effect.tuple [fields, ← Effect.alloc (.dict slots)]

/-! ### The older form -/

/-- A function of a name that makes objects. -/
def maker (name : String) : Effect Value :=
  Effect.alloc (.stub .function name (.own []))

/-- Reports an object that cannot be taken apart. -/
def noParts {α : Type} (v : Value) : Action α :=
  failOn .notCopyable v

/-- Whether a type is defined by a declaration. -/
def isDeclared : TypeValue → Bool
  | .basic t => t.isOpen
  | .error c => c.isOpen
  | .node _ | .made _ => true

/-- The parts of an object in the older form. -/
def olderParts (v : Value) : Action Value := do
  let s ← get
  let t := s.typeOf v
  let base := ((s.lineage t).map (ancestorType t)).find? fun u => !isDeclared u
  let plain ← match base with
    | some (.basic .object) | none => pure .null
    | some u => if u.id = t.id then noParts v else call (.type u) [v]
  if ← isTrue (← attrOrNull v "__slots__") then
    fail (.other .badType
      "a class that defines __slots__ without defining __getstate__ cannot be pickled")
  let args ← Effect.tuple [.type t, .type (base.getD (.basic .object)), plain]
  let state ← callMethod v "__getstate__" []
  let function ← maker "_reconstructor"
  if ← isTrue state then Effect.tuple [function, args, state] else Effect.tuple [function, args]

/-! ### The newer form -/

/-- Whether the objects of a type hold more than their state. -/
def holdsMore : TypeValue → Bool
  | .basic t =>
    [.function, .generator, .keysView, .valuesView, .itemsView, .membersView, .property,
      .slotMember, .dataMember, .classMember, .type, .buffer].contains t
  | _ => false

/-- The parts of an object in the newer form. -/
def newerParts (v : Value) : Action Value := do
  let s ← get
  let t := s.typeOf v
  let told? ← attr? v "__getnewargs__"
  let args ← match told? with
    | some f => items (← call f [])
    | none => pure []
  if holdsMore t then noParts v
  let state ← callMethod v "__getstate__" []
  let iterator ← match s.cell? v with
    | some (.list _) | some (.dict _) => pure true
    | _ => pure false
  let rest ← if iterator then callMethod v (if (s.dict? v).isSome then "items" else "__iter__") []
    else pure .null
  let listed := if (s.dict? v).isSome then .null else rest
  let keyed ← if (s.dict? v).isSome then iteratorOf rest else pure .null
  Effect.tuple [← maker "__newobj__", ← Effect.tuple (.type t :: args), state, listed, keyed]

/-! ### Parts -/

/-- The parts of an object, in the form that a number stands for. -/
def partsOf (v : Value) (form : Int) : Action Value :=
  if 2 ≤ form then newerParts v else olderParts v

/-- The number of a form of parts. -/
def formNumber (v : Value) : Action Int := do
  match v.whole? with
  | none => failOn .notInteger v
  | some n =>
    if n < -0x80000000 || 0x7fffffff < n then
      fail (.other .overflow "Python int too large to convert to C int")
    else return n

/-- The parts of an object, which may have its own way to tell them. -/
def partsInForm (v form : Value) : Action Value := do
  let n ← formNumber form
  let s ← get
  match s.classEntry? (s.typeOf v) "__reduce__" with
  | some (_, .value (.native .object _)) | none => partsOf v n
  | some _ => callMethod v "__reduce__" []

/-- What a function bound to a value can be found by: the value and the name. -/
def boundParts (owner : Value) (name : String) : Action Value := do
  Effect.tuple [← Effect.alloc (.builtin "getattr"), ← Effect.tuple [owner, .text name]]

/-- What the members of a set, or bytes, are made anew from. -/
def contentParts (v : Value) (form : Int) : Action Value := do
  let s ← get
  let t := Value.type (s.typeOf v)
  match s.cell? v with
  | some (.set _ members) =>
    Effect.tuple [t, ← Effect.tuple [← Effect.list (members.map Prod.snd)], .null]
  | some (.buffer bs) =>
    let args ← if 3 ≤ form then Effect.tuple [.bytes bs]
      else Effect.tuple [.text (String.ofList (bs.map fun b => Char.ofNat b.toNat)),
        .text "latin-1"]
    Effect.tuple [t, args, .null]
  | _ => noParts v

/-- What a method that tells the parts of an object does. -/
def partsMethod (t : BasicType) (name : String) (v : Value) (args : List Value) :
    Action Value := do
  match t, name, args, (← get).cell? v with
  | .object, "__reduce__", _, _ => partsOf v 0
  | .object, "__reduce_ex__", form :: _, _ => partsInForm v form
  | .object, "__getstate__", _, _ => stateOf v
  | .buffer, "__reduce_ex__", form :: _, _ => do contentParts v (← formNumber form)
  | .undecided, _, _, _ => return .text "NotImplemented"
  | _, _, _, some (.builtin name) => return .text name
  | _, _, _, some (.bound owner (.native _ name)) => boundParts owner name
  | _, _, _, some (.bound owner (.function m)) => boundParts owner m.name
  | _, _, _, some (.bound owner f) =>
    match (← get).cell? f with
    | some (.stub _ name _) => boundParts owner name
    | _ => noParts v
  | _, _, _, _ =>
    match v with
    | .native t name => boundParts (.type (.basic t)) name
    | _ => contentParts v 0

end GraphQLTree.Action
