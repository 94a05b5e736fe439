import GraphQLTree.Store.Fields
import GraphQLTree.Store.Home
import GraphQLTree.Type.Summary

/-! # Lineages of types

The lineage of a type is the type and those that it is derived from, the nearest first. An attribute
that a type provides is that of the first class in its lineage that has one: one that was assigned
to the class, or one that the class has from the start. The keys of a class of nodes are one list,
which is made when it is asked for; from then on the list in the store counts. -/

namespace GraphQLTree

/-- A class in the lineage of a type. -/
inductive Ancestor
  | basic (t : BasicType)
  | node (l : Level)
  | error (c : ErrorClass)
  | made (r : Ref)
  deriving DecidableEq, Repr

/-- What a class provides under a name. -/
inductive ClassEntry
  | value (v : Value)
  /-- A list or a tuple of texts that was not asked for yet. -/
  | texts (isTuple : Bool) (names : List String)
  /-- A dictionary of texts and values that was not asked for yet. -/
  | table (attrs : Attrs)
  deriving DecidableEq, Repr

/-- What stands in the place of a special method. -/
inductive Special
  /-- A value that a class has under the name. -/
  | assigned (f : Value)
  /-- A key of the name; its value is called. -/
  | key (name : String)
  deriving DecidableEq, Repr

/-- What a class provides by a member. -/
def Member.entry (owner name : String) : Member → ClassEntry
  | slot => .value (.slot owner name)
  | property p => .value (.property p)
  | method body => .value (.function ⟨owner, name, body⟩)

/-- What a class provides by a summary; null if it has none. -/
def ClassEntry.ofSummary (summary? : Option String) : ClassEntry :=
  .value ((summary?.map .text).getD .null)

/-- What a class of nodes provides itself. -/
def Level.entry? (l : Level) (name : String) : Option ClassEntry :=
  match l.own.lookup name with
  | some m => some (m.entry l.name name)
  | none =>
    match name, l.isNode with
    | "kind", true => some (.value (.text l.kind))
    | "keys", true => some (.texts false l.keys)
    | "sequence_keys", true => some (.texts true l.sequenceKeys)
    | "__slots__", _ =>
      match l.slotForm with
      | .absent => none
      | .single => some (.value (.text (l.slots.head?.getD "")))
      | .several => some (.texts true l.slots)
    | "__dict__", _ | "__weakref__", _ =>
      if l.serial = 0 then some (.value (.native .visitor name)) else none
    | "__hash__", _ => if (l.own.lookup "__eq__").isSome then some (.value .null) else none
    | "__module__", _ => some (.value (.text l.home))
    | "__doc__", _ =>
      some (.ofSummary (if l.isOfLibrary then nodeSummary? l.name else none))
    | _, _ => none

/-- What a basic type provides itself beside its built-in members. -/
def BasicType.ownMembers : BasicType → List (String × Member)
  | .frozen => [("__repr__", .method .writeFrozen), ("extended", .method .extend)]
  | .version =>
    [("from_str", .method .readVersion), ("__str__", .method .textVersion),
     ("__repr__", .method .writeVersion), ("__new__", .method .newVersion),
     ("__getnewargs__", .method .versionItems), ("_make", .method .versionOfItems),
     ("_asdict", .method .versionEntries), ("_replace", .method .replaceFields)]
  | .visitor =>
    [("get_visit_fn", .method .findHook), ("__init_subclass__", .method .prepareClass)]
  | .enum =>
    ["__new__", "__str__", "__repr__", "__hash__", "__format__", "__reduce_ex__", "__copy__",
      "__deepcopy__"].map fun name => (name, .method (.ofMember name))
  | .enumType =>
    ["__len__", "__iter__", "__reversed__", "__bool__", "__contains__", "__getitem__",
      "__call__"].map fun name => (name, .method (.ofEnum name))
  | .lockstep =>
    [("__init__", .method .initLockstep), ("get_visit_fn", .method .findHooks),
     ("enter", .method .enterHooks), ("leave", .method .leaveHooks)]
  | _ => []

/-- What a basic type provides itself. -/
def BasicType.entry? (t : BasicType) (name : String) : Option ClassEntry :=
  match t.ownMembers.lookup name with
  | some m => some (m.entry t.name name)
  | none =>
    if (t.memberForm? name).isSome then some (.value (.native t name))
    else match t, name with
      | .version, "_fields" => some (.texts true versionFields)
      | .version, "__match_args__" => some (.texts true versionFields)
      | .version, "_field_defaults" => some (.table [])
      | .version, "__slots__" | .generic, "__slots__" => some (.texts true [])
      | .generic, "_is_protocol" => some (.value (.bool false))
      | .operation, "_member_names_" => some (.texts false (OperationType.all.map (·.name)))
      | .operation, "_member_map_" =>
        some (.table (OperationType.all.map fun op => (op.name, .operation op)))
      | .operation, "_value2member_map_" =>
        some (.table (OperationType.all.map fun op => (op.text, .operation op)))
      | .operation, "_member_type_" => some (.value (.type (.basic .object)))
      | .operation, "_unhashable_values_" => some (.texts false [])
      | .operation, "_use_args_" => some (.value (.bool false))
      | .operation, "_value_repr_" => some (.value .null)
      | .operation, _ => (OperationType.ofName? name).map fun op => .value (.operation op)
      | .action, "SKIP" => some (.value .skip)
      | .visitor, "SKIP" => some (.value .skip)
      | .visitor, "IDLE" => some (.value .null)
      | .list, "__hash__" | .dict, "__hash__" | .set, "__hash__" | .buffer, "__hash__" =>
        some (.value .null)
      | t, "__doc__" => some (.ofSummary t.summary?)
      | t, "__module__" => if t.isOpen then t.home?.map fun home => .value (.text home) else none
      | _, _ => none

/-- What a class of errors provides itself. -/
def ErrorClass.entry? (c : ErrorClass) (name : String) : Option ClassEntry :=
  match c.own.lookup name with
  | some m => some (m.entry c.name name)
  | none =>
    if BasicType.failure.ownData.contains name then
      if c.dataNames.contains name then some (.value (.native .failure name)) else none
    else if name = "__doc__" then some (.ofSummary c.summary?)
    else if name = "__module__" then c.home?.map fun home => .value (.text home)
    else if name = "__new__" then
      if c.isOpen || [.missingKey, .badAttribute, .stopIteration].contains c then none
      else some (.value (.native .failure name))
    else if c = .base && (BasicType.failure.memberForm? name).isSome then
      some (.value (.native .failure name))
    else none

namespace Ancestor

/-- The class that attributes assigned to it belong to. -/
def id : Ancestor → ClassId
  | basic t => .basic t
  | node l => .node l.serial
  | error c => .error c
  | made r => .made r

/-- What a class provides itself, from the start. -/
def own? : Ancestor → String → Option ClassEntry
  | basic t => t.entry?
  | node l => l.entry?
  | error c => c.entry?
  | made _ => fun name =>
    match name with
    | "__dict__" | "__weakref__" => some (.value (.native .visitor name))
    | "__module__" => some (.value (.text sessionHome))
    | "__doc__" => some (.value .null)
    | _ => none

end Ancestor

namespace Store

/-- A type and those that it is derived from, the nearest first. -/
def lineage (s : Store) : TypeValue → List Ancestor
  | .basic t => t.lineage.map .basic
  | .node c => c.lineage.map .node ++ [.basic .object]
  | .error c => c.lineage.map .error ++ [.basic .object]
  | .made r =>
    .made r :: (if s.isErrorType r then ErrorClass.general.lineage.map .error else []) ++
      [.basic .object]

/-- What a class provides under a name. -/
def entryOf? (s : Store) (a : Ancestor) (name : String) : Option ClassEntry :=
  match s.classAttr? a.id name with
  | some v => some (.value v)
  | none => a.own? name

/-- What a type provides under a name, and the class in its lineage that does. -/
def classEntry? (s : Store) (t : TypeValue) (name : String) : Option (Ancestor × ClassEntry) :=
  (s.lineage t).findSome? fun a => (s.entryOf? a name).map (a, ·)

/-- What stands in the place of a special method in the lineage of a type, if the nearest class that
provides the name has something else there. -/
def specialIn? (s : Store) (t : TypeValue) (name : String) : Option Special :=
  ((s.lineage t).findSome? fun a =>
    match s.classAttr? a.id name, a.own? name with
    | some v, _ => some (some (.assigned v))
    | none, some (.value (.slot _ key)) => some (some (.key key))
    | none, some (.value .null) => some (some (.assigned .null))
    | none, some _ => some none
    | none, none => none).join

/-- What stands in the place of a special method of a type. Only classes of nodes have keys; other
types have what was assigned to them. -/
def special? (s : Store) (t : TypeValue) (name : String) : Option Special :=
  match t with
  | .node _ => s.specialIn? t name
  | _ => if s.classAttrs.isEmpty then none else s.specialIn? t name

/-- Whether a type is another one or derived from it. -/
def isSubtype (s : Store) (t other : TypeValue) : Bool :=
  (s.lineage t).any (·.id == other.id)

end Store

namespace Effect

/-- Assigns an attribute of a class. -/
def setClassAttr (id : ClassId) (name : String) (v : Value) : Effect Unit :=
  modify fun s => { s with
    classAttrs := ((id, name), v) :: s.classAttrs.filter (·.1 != (id, name)) }

/-- Assigns built-in data of a function or a generator. -/
def setFunctionData (r : Ref) (name : String) (v : Value) : Effect Unit :=
  modify fun s => { s with
    functionData := ((r, name), v) :: s.functionData.filter (·.1 != (r, name)) }

/-- The value of what a class provides. -/
def entryValue (a : Ancestor) (name : String) : ClassEntry → Effect Value
  | .value v => return v
  | .texts isTuple names => do
    let items := names.map Value.text
    let v ← if isTuple then tuple items else list items
    setClassAttr a.id name v
    return v
  | .table attrs => do
    let v ← alloc (.dict (attrs.map fun (name, x) => textEntry name x))
    setClassAttr a.id name v
    return v

end Effect
end GraphQLTree
