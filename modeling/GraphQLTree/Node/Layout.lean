/-! # Layouts of objects

Each class may add places to the objects of the class that it is laid out on: one for each of its
keys, one for attributes of any name, and one for those who watch the object. A class can have
several bases only if one of them is laid out on all others, and an object can change its class only
if the places stay the same. -/

namespace GraphQLTree

/-- What a class adds to the places of its objects. -/
structure Layer where
  /-- The serial number of the class, if it is a declared one. -/
  owner? : Option Nat
  /-- The keys that the class adds, in rising order. -/
  names : List String
  /-- Whether the class says which keys it adds. -/
  declared : Bool
  /-- Whether its objects get attributes of any name. -/
  addsFields : Bool
  /-- Whether its objects can be watched from now on. -/
  addsWatch : Bool
  deriving DecidableEq, Repr

namespace Layer

/-- Whether a layer adds no places at all. -/
def isBare (l : Layer) : Bool :=
  l.names.isEmpty && !l.addsFields && !l.addsWatch

/-- The number of places in the object itself; those for other attributes are kept elsewhere. -/
def size (l : Layer) : Nat :=
  l.names.length + if l.addsWatch then 1 else 0

/-- Whether the place for watching comes first, since there are no keys before it. -/
def startsWithWatch (l : Layer) : Bool :=
  l.addsWatch && l.names.isEmpty

/-- Whether two layers on the same base add the same places in the same order. -/
def agrees (a b : Layer) : Bool :=
  let watch := if a.startsWithWatch && b.startsWithWatch then 1 else 0
  let keys := if a.declared && b.declared then a.names.length else 0
  (!(a.declared && b.declared) || a.names == b.names) &&
    watch + keys == a.size && watch + keys == b.size

/-- A class without keys that is laid out on no other class. -/
def plain : Layer := ⟨none, [], false, true, true⟩

end Layer

/-- The layers of a class, its own first. -/
abbrev Layout := List Layer

namespace Layout

/-- Whether objects of the layout can have attributes of any name. -/
def hasFields (layout : Layout) : Bool :=
  List.any layout (·.addsFields)

/-- Whether objects of the layout can be watched. -/
def hasWatch (layout : Layout) : Bool :=
  List.any layout (·.addsWatch)

/-- The class that added the last keys; none if no class did. -/
def keyOwner? (layout : Layout) : Option Nat :=
  (List.find? (fun l => !l.names.isEmpty) layout).bind Layer.owner?

/-- A layout without the last layers that add nothing; the first layer stays. -/
def essential : Layout → Layout
  | l :: l' :: rest => if l.isBare then essential (l' :: rest) else l :: l' :: rest
  | layout => layout

/-- Whether objects of one layout have the same places as those of another one. -/
def agrees (a b : Layout) : Bool :=
  match essential a, essential b with
  | x :: xs, y :: ys =>
    (x.owner? == y.owner? ||
      (List.head? xs).map Layer.owner? == (List.head? ys).map Layer.owner? && x.agrees y) &&
      hasFields a == hasFields b
  | _, _ => false

end Layout
end GraphQLTree
