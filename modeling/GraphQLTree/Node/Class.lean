import GraphQLTree.Node.Layout
import GraphQLTree.Text.NameCase
import GraphQLTree.Type.Member

/-! # Node classes

A node class has a name, a kind (the underscored form of the name) and keys: the names of the
attributes of its nodes, in order, those of its bases first. Some keys hold sequences of child
nodes. Classes are declared one after the other, and a class may have several bases; its lineage is
the order in which it and its ancestors are asked for the meaning of an attribute. -/

namespace GraphQLTree

/-- How a key is declared: only a sequence of nodes is kept as a sequence. -/
inductive KeyForm
  | single
  | sequence
  deriving DecidableEq, Repr

/-- How the keys of a class are written in its declaration. -/
inductive SlotForm
  /-- They are not declared. -/
  | absent
  | single
  | several
  deriving DecidableEq, Repr

/-! ### Classes -/

/-- What a class declares itself. Classes are told apart by their serial numbers. -/
structure Level where
  serial : Nat
  name : String
  /-- Whether its objects are nodes; if they are not, it has neither a kind nor keys. -/
  isNode : Bool
  kind : String
  keys : List String
  sequenceKeys : List String
  /-- The keys that the class adds, as they are declared. -/
  slots : List String
  slotForm : SlotForm
  /-- What attribute names mean in the class itself. -/
  own : List (String × Member)
  /-- The serial numbers of the bases, as they are listed in the declaration. -/
  bases : List Nat
  /-- The serial numbers of the classes that it is derived from, the nearest first. -/
  above : List Nat
  layout : Layout
  deriving DecidableEq, Repr

/-- A declared class. -/
structure NodeClass extends Level where
  /-- The classes that it is derived from, the nearest first. -/
  ancestors : List Level
  deriving DecidableEq, Repr

namespace NodeClass

/-- What the base of all classes declares. -/
def nodeLevel : Level where
  serial := 0
  name := "Node"
  isNode := true
  kind := "ast"
  keys := []
  sequenceKeys := []
  slots := ["__dict__", "__weakref__", "_hash"]
  slotForm := .several
  own :=
    [("_hash", .slot), ("__init__", .method (.initNode none)), ("__repr__", .method .writeNode),
     ("__inspect__", .method .describeNode), ("__eq__", .method .equalNode),
     ("__hash__", .method .digestNode), ("__setattr__", .method .assignNode),
     ("__copy__", .method .copyNode), ("__deepcopy__", .method .deepCopyNode),
     ("_append", .method .appendTo), ("__init_subclass__", .method .prepareClass)]
  bases := []
  above := []
  layout := [⟨some 0, ["_hash"], true, true, true⟩]

/-- The base of all classes. -/
def node : NodeClass where
  toLevel := nodeLevel
  ancestors := []

/-- The class and its ancestors, the nearest first. -/
def lineage (c : NodeClass) : List Level :=
  c.toLevel :: c.ancestors

/-- Whether a class is another one or derived from it. -/
def isA (c ancestor : NodeClass) : Bool :=
  c.lineage.any (·.serial == ancestor.serial)

/-- A class that another one is derived from, with all that it is derived from itself. -/
def ofLevel (c : NodeClass) (level : Level) : NodeClass where
  toLevel := level
  ancestors := level.above.filterMap fun serial => c.ancestors.find? (·.serial == serial)

/-- The classes that a class is derived from directly. -/
def baseClasses (c : NodeClass) : List NodeClass :=
  c.bases.filterMap fun serial => (c.ancestors.find? (·.serial == serial)).map c.ofLevel

/-- Whether the objects of a class can have attributes of any name. -/
def hasFields (c : NodeClass) : Bool :=
  c.layout.hasFields

/-- A name put into its place among names in rising order. -/
def insertName (name : String) : List String → List String
  | [] => [name]
  | first :: rest => if name ≤ first then name :: first :: rest else first :: insertName name rest

/-- Names in rising order. -/
def sortNames (names : List String) : List String :=
  names.foldr insertName []

/-- A class derived from one base. -/
def extend (base : NodeClass) (serial : Nat) (name kind : String)
    (keys : List (String × KeyForm)) (members : List (String × Member)) : NodeClass where
  serial
  name
  isNode := true
  kind
  keys := base.keys ++ keys.map Prod.fst
  sequenceKeys := base.sequenceKeys ++ (keys.filter (·.2 == .sequence)).map Prod.fst
  slots := keys.map Prod.fst
  slotForm := .several
  own := keys.map (fun key => (key.1, .slot)) ++ members
  bases := [base.serial]
  above := base.lineage.map Level.serial
  layout := ⟨some serial, sortNames (keys.map Prod.fst), true, false, false⟩ :: base.layout
  ancestors := base.lineage

/-- A class name without the ending `Node`. -/
def stem (name : String) : String :=
  if name.endsWith "Node" then String.ofList (name.toList.take (name.length - 4)) else name

end NodeClass

/-! ### Catalogs -/

/-- The declared classes, the latest first. -/
abbrev Catalog := List NodeClass

/-- The class of a name; a later declaration hides an earlier one. -/
def Catalog.find? (catalog : Catalog) (name : String) : Option NodeClass :=
  List.find? (·.name == name) catalog

/-- The class of a serial number. -/
def Catalog.get? (catalog : Catalog) (serial : Nat) : Option NodeClass :=
  List.find? (·.serial == serial) catalog

end GraphQLTree
