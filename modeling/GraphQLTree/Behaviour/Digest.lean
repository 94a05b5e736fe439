import GraphQLTree.Behaviour.Attribute

/-! # Digests of objects

A sequence has the digest of its items, and a node that of its class and its keys. A node remembers
its digest until one of its keys is assigned, so a changed child leaves the digest of its parent as
it was. What can be changed in place has no digest, nodes and errors apart. -/

namespace GraphQLTree.Action

/-- The digest given by a number that stands for one. -/
def digestOfAnswer (answer : Value) : Action Digest :=
  match answer.whole? with
  | some n => return ownDigest n
  | none => fail (.other .badType "__hash__ method should return an integer")

/-- Remembers the digest of a node. -/
def rememberDigest (v : Value) (d : Digest) : Effect Unit := do
  match v, (← get).cell? v with
  | .ref r, some (.node n) =>
    Effect.put r (.node { n with digest? := some d, slots := n.slots.remove "_hash" })
  | _, _ => return ()

/-- Computes the digest of a node anew. -/
def computeDigest (v : Value) : Action Digest := do
  let cls ← classOf v
  let values ← (← namesOf v "keys").mapM fun key => do attr v (← nameOfAttr key)
  let digests ← (cls :: values).mapM digest
  let d := Digest.group false digests
  match ← special? v "__setattr__" with
  | some f => discard (callSpecial f v [.text "_hash", .int d.toInt])
  | none => rememberDigest v d
  return d

/-- The digest of a node. -/
def digestOfNode (v : Value) (n : NodeObject) : Action Digest := do
  let s ← get
  match s.classEntry? (s.typeOf v) "_hash", n.slots.lookup "_hash", n.digest? with
  | some (_, .value (.slot _ _)), none, some d => return d
  | _, _, _ =>
    match ← attrOrNull v "_hash" with
    | .null => computeDigest v
    | answer => digestOfAnswer answer

/-- The digest of an object. -/
def digestOfCell (v : Value) : Cell → Action Digest
  | .node n => digestOfNode v n
  | .tuple _ items _ => return .group false (← items.mapM digest)
  | .set true items => return .group true (items.map Prod.fst)
  | .list _ | .dict _ | .set false _ | .buffer _ | .view .keysView _ | .view .itemsView _ =>
    failOn .unhashable v
  | .bound owner f => return .atom (.bound owner f)
  | _ => return v.atomDigest

/-- The digest of a value. -/
def digestOf (v : Value) : Action Digest := do
  match ← special? v "__hash__" with
  | some special =>
    if (← specialValue? special v).all (· = .null) then failOn .unhashable v
    else digestOfAnswer (← callSpecial special v [])
  | none =>
    match (← get).cell? v with
    | some c => digestOfCell v c
    | none => return v.atomDigest

end GraphQLTree.Action
