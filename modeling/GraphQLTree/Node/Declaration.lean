import GraphQLTree.Error.Fault
import GraphQLTree.Node.Class
import GraphQLTree.Text.Identifier

/-! # Declarations of classes

A declaration names a class, its bases and the keys that it adds. Of several things that are wrong
with it, the first one in this order is reported: the bases cannot share one layout, a key cannot be
added, a key stands for something else in the declaration, the name is no name of a class, the
lineages of the bases contradict each other, and at last something in the way of preparing the
class as a class of nodes. -/

namespace GraphQLTree

/-- The declaration of a class. -/
structure ClassDecl where
  name : String
  bases : List String
  keys : List (String × KeyForm)
  slotForm : SlotForm
  deriving Repr

/-- Why a class cannot be declared. -/
inductive DeclError
  | unknownBase (name : String)
  | layoutConflict
  /-- The name of a key is no identifier. -/
  | badKey
  /-- A key would give the objects attributes of any name, which they have already. -/
  | fieldsTaken
  /-- A key would make the objects fit to be watched, which they are already. -/
  | watchTaken
  /-- A key has the name of something that the declaration itself defines. -/
  | ownKey (name : String)
  | badName
  | duplicateBase (name : String)
  /-- No order keeps that of all bases; these classes are left. -/
  | inconsistentLineage (heads : List String)
  /-- A key stands in the place of the preparation of derived classes. -/
  | unprepared
  /-- A base beside a class of nodes has no list of names like a class of nodes. -/
  | keylessBase (name list : String)
  /-- A base beside a class of nodes has a key in the place of such a list. -/
  | keyInPlace
  deriving DecidableEq, Repr

/-- The fault of a class that cannot be declared. -/
def DeclError.fault : DeclError → Fault
  | unknownBase name => .missingKey (.text name)
  | layoutConflict => .layoutConflict
  | badKey => .other .badType "__slots__ must be identifiers"
  | fieldsTaken => .slotsTaken "__dict__" "we already got one"
  | watchTaken => .slotsTaken "__weakref__" "either we already got one, or __itemsize__ != 0"
  | ownKey name => .keyConflict name
  | badName => .badTypeName
  | duplicateBase name => .duplicateBase name
  | inconsistentLineage heads => .inconsistentLineage heads
  | unprepared => .notCallable BasicType.slotMember.name
  | keylessBase name list => .noTypeAttribute name list
  | keyInPlace => .notIterable BasicType.slotMember.name

namespace ClassDecl

/-! ### Bases -/

/-- The bases of a declaration. -/
def resolveBases (catalog : Catalog) (names : List String) : Except DeclError (List NodeClass) :=
  names.mapM fun name =>
    match catalog.find? name with
    | some c => .ok c
    | none => .error (.unknownBase name)

/-- The better one of two bases to lay out a class on: that whose keys are laid out on those of the
other one. -/
def betterBase (catalog : Catalog) (winner candidate : NodeClass) :
    Except DeclError NodeClass :=
  let above := fun owner =>
    ((catalog.get? owner).map fun c => c.lineage.map Level.serial).getD []
  match winner.layout.keyOwner?, candidate.layout.keyOwner? with
  | _, none => .ok winner
  | none, some _ => .ok candidate
  | some owner, some owner' =>
    if (above owner).contains owner' then .ok winner
    else if (above owner').contains owner then .ok candidate
    else .error .layoutConflict

/-- The base that a class is laid out on; none if it has no bases. -/
def chooseBase (catalog : Catalog) : List NodeClass → Except DeclError (Option NodeClass)
  | [] => .ok none
  | first :: rest => some <$> rest.foldlM (betterBase catalog) first

/-! ### Keys -/

/-- The names of keys that are not kept as keys: they stand for attributes of any name, and for
being watched. -/
def placeNames : List String := ["__dict__", "__weakref__"]

/-- The names that a declaration defines itself. -/
def ownNames : List String := ["__slots__", "__annotations__"]

/-- The names that stand for the kind and the keys of a class itself, whatever its keys are. -/
def classNames : List String := ["kind", "keys", "sequence_keys"]

/-- Checks that the names of keys are identifiers, and that none of them stands for a place that
there is already. -/
def checkKeys : (hasFields hasWatch : Bool) → List String → Except DeclError Unit
  | _, _, [] => .ok ()
  | hasFields, hasWatch, name :: rest =>
    if !Text.isIdentifier name then .error .badKey
    else if name = "__dict__" then
      if hasFields then .error .fieldsTaken else checkKeys true hasWatch rest
    else if name = "__weakref__" then
      if hasWatch then .error .watchTaken else checkKeys hasFields true rest
    else checkKeys hasFields hasWatch rest

/-- The name under which a key is kept: a private name is joined to the name of the class. -/
def slotName (cls key : String) : String :=
  let owner := String.ofList (cls.toList.dropWhile (· = '_'))
  if key.startsWith "__" && !key.endsWith "__" && owner ≠ "" then "_" ++ owner ++ key else key

/-- The names under which the keys of a declaration are kept. -/
def slotNames (cls : String) (names : List String) : List String :=
  (names.filter fun name => !placeNames.contains name).map (slotName cls)

/-- Checks that no key has the name of something that the declaration defines. -/
def checkOwnNames (names : List String) : Except DeclError Unit :=
  match names.find? ownNames.contains with
  | some name => .error (.ownKey name)
  | none => .ok ()

/-- What a declaration adds to the layout of its objects. -/
def layer (decl : ClassDecl) (serial : Nat) (base? : Option NodeClass)
    (bases : List NodeClass) : Layer :=
  let names := decl.keys.map Prod.fst
  let layout := (base?.map fun c => c.layout).getD []
  let adds := fun (name : String) (has : Layout → Bool) =>
    !has layout && (decl.slotForm = .absent || names.contains name ||
      bases.any fun c => has c.layout)
  { owner? := some serial
    names := NodeClass.sortNames (slotNames decl.name names)
    declared := decl.slotForm ≠ .absent
    addsFields := adds "__dict__" Layout.hasFields
    addsWatch := adds "__weakref__" Layout.hasWatch }

/-! ### Lineages -/

/-- The first class that occurs twice. -/
def duplicate? : List NodeClass → Option NodeClass
  | [] => none
  | c :: rest => if rest.any (·.serial == c.serial) then some c else duplicate? rest

/-- The first head of the sequences that is in no tail of them. -/
def nextInLine (sequences : List (List Nat)) : Option Nat :=
  sequences.findSome? fun
    | [] => none
    | head :: _ => if sequences.any (fun s => s.tail.contains head) then none else some head

/-- The common order of the sequences: each of them keeps its order in it. If there is none, what is
left of the sequences is given instead. Every step takes one class, so the classes of all sequences
bound the number of steps. -/
def mergeLineages : Nat → List (List Nat) → Except (List (List Nat)) (List Nat)
  | 0, sequences => if sequences.all List.isEmpty then .ok [] else .error sequences
  | fuel + 1, sequences =>
    if sequences.all List.isEmpty then .ok []
    else match nextInLine sequences with
      | none => .error sequences
      | some next => do
        let rest ← mergeLineages fuel
          (sequences.map fun s => if s.head? == some next then s.tail else s)
        return next :: rest

/-- The names of the classes that are next in what is left of the lineages of the bases and of the
list of bases itself. The type of all objects ends every lineage. -/
def headNames (catalog : Catalog) (left : List (List Nat)) : List String :=
  let name := fun serial => ((catalog.get? serial).map fun c => c.name).getD ""
  let heads := left.dropLast.map (fun s => (s.head?.map name).getD "object") ++
    ((left.getLast?.bind List.head?).map name).toList
  heads.eraseDups

/-- The classes that a declared class is derived from, in order. -/
def ancestorsOf (catalog : Catalog) (bases : List NodeClass) : Except DeclError (List Level) := do
  match duplicate? bases with
  | some c => throw (.duplicateBase c.name)
  | none => pure ()
  let sequences := bases.map (fun c => c.lineage.map Level.serial) ++ [bases.map fun c => c.serial]
  match mergeLineages sequences.flatten.length sequences with
  | .ok serials => return serials.filterMap fun n => (catalog.get? n).map NodeClass.toLevel
  | .error left => throw (.inconsistentLineage (headNames catalog left))

/-! ### Preparing a class -/

/-- Checks that no key stands in the place of the preparation of derived classes. The base of all
classes of nodes prepares a class and leaves the rest to the classes behind it. -/
def checkPreparation (ancestors : List Level) : Except DeclError Unit :=
  if ancestors.any fun l => l.own.lookup "__init_subclass__" == some .slot then .error .unprepared
  else .ok ()

/-- Checks that a base of a class of nodes has a list of names. -/
def checkList (base : NodeClass) (list : String) : Except DeclError Unit :=
  if base.isNode then .ok ()
  else if base.lineage.any fun l => (l.own.lookup list).isSome then .error .keyInPlace
  else .error (.keylessBase base.name list)

/-- The class declared on top of a catalog. -/
def declare (catalog : Catalog) (decl : ClassDecl) : Except DeclError NodeClass := do
  let bases ← resolveBases catalog decl.bases
  let base? ← chooseBase catalog bases
  let layout : Layout := (base?.map fun c => c.layout).getD []
  let names := decl.keys.map Prod.fst
  let slotNames := slotNames decl.name names
  checkKeys layout.hasFields layout.hasWatch names
  checkOwnNames slotNames
  if decl.name.toList.contains (Char.ofNat 0) then throw .badName
  let ancestors ← ancestorsOf catalog bases
  checkPreparation ancestors
  let isNode := ancestors.any (·.serial == 0)
  if isNode then bases.forM fun base => do
    checkList base "keys"
    checkList base "sequence_keys"
  let serial := catalog.length
  return {
    serial
    name := decl.name
    isNode
    kind := Text.toSnakeCase (NodeClass.stem decl.name)
    keys := bases.flatMap (·.keys) ++ names
    sequenceKeys := bases.flatMap (·.sequenceKeys) ++
      (decl.keys.filter (·.2 == .sequence)).map Prod.fst
    slots := names
    slotForm := decl.slotForm
    own := (slotNames.filter fun name => !(isNode && classNames.contains name)).map (·, .slot)
    bases := bases.map fun c => c.serial
    above := ancestors.map Level.serial
    layout := layer decl serial base? bases :: layout
    ancestors }

end ClassDecl

/-- The catalog with one more class. -/
def Catalog.declare (catalog : Catalog) (decl : ClassDecl) : Except DeclError Catalog := do
  return (← ClassDecl.declare catalog decl) :: catalog

end GraphQLTree
