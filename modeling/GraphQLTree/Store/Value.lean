import GraphQLTree.Error.Class
import GraphQLTree.Node.Class
import GraphQLTree.Number.Double

/-! # Values

Attributes of nodes hold values of any type. Numbers, texts and the like are values by themselves;
what can be changed or shared lives in the store and is referred to. Two floating-point values have
tags that tell them apart: a value that is not a number equals nothing, but a sequence that holds it
twice holds the same value twice. So equality of values in the sense of this type is identity, and
the equality of a program is an operation. -/

namespace GraphQLTree

/-- Where an object lives in the store. -/
abbrev Ref := Nat

/-- The type of an operation. -/
inductive OperationType
  | query
  | mutation
  deriving DecidableEq, Repr

namespace OperationType

/-- The written form of an operation type. -/
def text : OperationType → String
  | query => "query"
  | mutation => "mutation"

/-- The name of an operation type. -/
def name : OperationType → String
  | query => "QUERY"
  | mutation => "MUTATION"

/-- All operation types, in order. -/
def all : List OperationType := [query, mutation]

/-- The operation type of a written form. -/
def ofText? (s : String) : Option OperationType :=
  all.find? (·.text == s)

/-- The operation type of a name. -/
def ofName? (s : String) : Option OperationType :=
  all.find? (·.name == s)

end OperationType

/-- A type as a value. -/
inductive TypeValue
  | basic (t : BasicType)
  | node (c : NodeClass)
  | error (c : ErrorClass)
  /-- A class that was made on its own; what is known of it is in the store. -/
  | made (r : Ref)
  deriving DecidableEq, Repr

/-- Whether attributes can be assigned to a type itself. -/
def TypeValue.isOpen : TypeValue → Bool
  | basic t => t.isOpen
  | error c => c.isOpen
  | node _ | made _ => true

/-- A value. -/
inductive Value
  | null
  | bool (b : Bool)
  | int (n : Int)
  | text (s : String)
  | float (x : Double) (tag : Nat)
  | complex (re im : Double) (tag : Nat)
  | bytes (bs : List UInt8)
  | operation (op : OperationType)
  /-- The answer of a visitor method that prunes. -/
  | skip
  /-- The answer of a comparison that does not know the other value. -/
  | undecided
  | type (t : TypeValue)
  /-- A function of the library. -/
  | function (m : Method)
  | property (p : Property)
  /-- The place of a key in the nodes of a class. -/
  | slot (owner key : String)
  /-- A built-in member of a type. -/
  | native (t : BasicType) (name : String)
  | ref (r : Ref)
  deriving DecidableEq, Repr

instance : Inhabited Value := ⟨.null⟩

/-- The value of a default. -/
def Default.value : Default → Value
  | queryOperation => .operation .query
  | isTrue => .bool true

/-! ### Digests

Values that are equal have the same digest. A digest is a tree, so that different values have
different digests but for the few cases in which numbers, texts and names share one. -/

/-- The digest of a value without parts. -/
inductive DigestAtom
  | null
  | number (n : Int)
  | bytes (bs : List Nat)
  /-- A value that equals nothing but itself. -/
  | self (v : Value)
  /-- A function bound to a value. -/
  | bound (owner function : Value)
  deriving DecidableEq, Repr

/-- The digest of a value: of a sequence or a set by those of its items. -/
inductive Digest
  | atom (a : DigestAtom)
  | group (isSet : Bool) (items : List Digest)
  deriving Repr

mutual

/-- Equality of digests is decidable. -/
def Digest.decEq : (a b : Digest) → Decidable (a = b)
  | .atom a, .atom b => if h : a = b then isTrue (h ▸ rfl) else isFalse (by simp [h])
  | .group s a, .group s' b =>
    match Bool.decEq s s', Digest.decEqList a b with
    | isTrue h, isTrue h' => isTrue (h ▸ h' ▸ rfl)
    | isFalse h, _ => isFalse (by simp [h])
    | _, isFalse h => isFalse (by simp [h])
  | .atom _, .group _ _ => isFalse (by simp)
  | .group _ _, .atom _ => isFalse (by simp)

/-- Equality of lists of digests is decidable. -/
def Digest.decEqList : (a b : List Digest) → Decidable (a = b)
  | [], [] => isTrue rfl
  | [], _ :: _ => isFalse (by simp)
  | _ :: _, [] => isFalse (by simp)
  | x :: xs, y :: ys =>
    match Digest.decEq x y, Digest.decEqList xs ys with
    | isTrue h, isTrue h' => isTrue (h ▸ h' ▸ rfl)
    | isFalse h, _ => isFalse (by simp [h])
    | _, isFalse h => isFalse (by simp [h])

end

instance : DecidableEq Digest := Digest.decEq

end GraphQLTree
