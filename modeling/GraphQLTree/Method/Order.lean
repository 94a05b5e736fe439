import GraphQLTree.Behaviour.Equal
import GraphQLTree.Behaviour.Sum

/-! # The order of values

Numbers are ordered by their quantities, texts by their characters, lists and tuples by the first
items in which they differ, and a set is less than another if all its members are in that. Other
values have no order, unless their class provides one. -/

namespace GraphQLTree

/-- A relation of order. -/
inductive Relation
  | less
  | atMost
  | greater
  | atLeast
  deriving DecidableEq, Repr

namespace Relation

/-- The sign of a relation. -/
def sign : Relation → String
  | less => "<"
  | atMost => "<="
  | greater => ">"
  | atLeast => ">="

/-- The name of the method for a relation. -/
def method : Relation → String
  | less => "__lt__"
  | atMost => "__le__"
  | greater => "__gt__"
  | atLeast => "__ge__"

/-- The relation of a method. -/
def ofMethod? (name : String) : Option Relation :=
  [less, atMost, greater, atLeast].find? (·.method == name)

/-- The relation between two values when they change places. -/
def exchanged : Relation → Relation
  | less => greater
  | atMost => atLeast
  | greater => less
  | atLeast => atMost

/-- Whether a relation holds for values that are ordered in a way. -/
def holds (relation : Relation) (order : Ordering) : Bool :=
  match relation with
  | less => order.isLT
  | atMost => order.isLE
  | greater => order.isGT
  | atLeast => order.isGE

end Relation

/-- The order of two quantities; what is undefined has none. -/
def Quantity.order? : Quantity → Quantity → Option Ordering
  | .undefined, _ => none
  | _, .undefined => none
  | .infinite a, .infinite b => some (if a = b then .eq else if a then .lt else .gt)
  | .infinite a, .units _ => some (if a then .lt else .gt)
  | .units _, .infinite b => some (if b then .gt else .lt)
  | .units m, .units n => some (compare m n)

namespace Action

/-- Whether a relation holds between two simple values; none if they have no order. -/
def relateAtoms? (s : Store) (relation : Relation) (a b : Value) : Option Bool :=
  let ofBytes := fun (x y : List UInt8) =>
    some (relation.holds (compare (x.map UInt8.toNat) (y.map UInt8.toNat)))
  match a, b, a.quantities?, b.quantities? with
  | .text x, .text y, _, _ =>
    some (relation.holds (compare (x.toList.map Char.toNat) (y.toList.map Char.toNat)))
  | .bytes x, .bytes y, _, _ => ofBytes x y
  | .bytes _, _, _, _ => none
  | .complex _ _ _, _, _, _ => none
  | _, .complex _ _ _, _, _ => none
  | _, _, some (x, _), some (y, _) =>
    some (((Quantity.order? x y).map relation.holds).getD false)
  | _, _, _, _ =>
    match bytes? s a, bytes? s b with
    | some x, some y => ofBytes x y
    | _, _ => none

/-- The members of a set, or of the keys or items of a dictionary. -/
def membersOf? (v : Value) : Action (Option (List (Digest × Value))) := do
  match (← get).cell? v with
  | some (.set _ members) => return some members
  | some (.view .keysView d) =>
    return some ((((← get).dict? (.ref d)).getD []).map fun e => (e.digest, e.key))
  | some (.view .itemsView d) => do
    let pairs ← pairs (((← get).dict? (.ref d)).getD [])
    return some (← pairs.mapM fun p => do return (← digest p, p))
  | _ => return none

/-- Whether a value is a set of either kind. -/
def isSet (s : Store) (v : Value) : Bool :=
  match s.cell? v with
  | some (.set _ _) => true
  | _ => false

/-- Whether a relation holds between two sets: the one is a part of the other. -/
def relateMembers (relation : Relation) (a b : List (Digest × Value)) : Action Bool := do
  match relation with
  | .less => if a.length < b.length then membersIn b a else return false
  | .atMost => if a.length ≤ b.length then membersIn b a else return false
  | .greater => if b.length < a.length then membersIn a b else return false
  | .atLeast => if b.length ≤ a.length then membersIn a b else return false

/-- The answer to whether a relation holds between two sequences, where `relate` compares items. -/
def relateItems (relation : Relation) (relate : Value → Value → Action Value) :
    List Value → List Value → Action Value
  | x :: xs, y :: ys => do
    if ← same x y then relateItems relation relate xs ys else relate x y
  | xs, ys => return .bool (relation.holds (compare xs.length ys.length))

/-- What a value answers when it is asked for a relation to another by what it is, where `relate`
compares items. -/
def relateContent (relation : Relation) (relate : Value → Value → Action Value) (a b : Value) :
    Action Value := do
  let s ← get
  match relateAtoms? s relation a b, s.cell? a, s.cell? b with
  | some answer, _, _ => return .bool answer
  | none, some (.list xs), some (.list ys) => relateItems relation relate xs ys
  | none, some (.tuple _ xs _), some (.tuple _ ys _) => relateItems relation relate xs ys
  | none, _, _ =>
    match ← membersOf? a, ← membersOf? b with
    | some xs, some ys =>
      if isSet s a && !isSet s b then return .undecided
      else return .bool (← relateMembers relation xs ys)
    | _, _ => return .undecided

/-- What a value answers when it is asked for a relation to another. -/
def relationAnswer (relation : Relation) (relate : Value → Value → Action Value) (a b : Value) :
    Action Value := do
  match ← special? a relation.method with
  | some f => if (← specialValue? f a).isNone then return .undecided else callSpecial f a [b]
  | none => relateContent relation relate a b

/-- Reports that two values have no order. -/
def noOrder {α : Type} (relation : Relation) (a b : Value) : Action α := do
  let s ← get
  fail (.other .badType ("'" ++ relation.sign ++ "' not supported between instances of '" ++
    Fault.brief (s.typeName a) ++ "' and '" ++ Fault.brief (s.typeName b) ++ "'"))

/-- The answer to whether a relation holds between two values, with `depth` levels of nesting to
go. The first value that knows an answer gives it; one of a derived type is asked first. -/
def relateAt (depth : Nat) (relation : Relation) (a b : Value) : Action Value := do
  match depth with
  | 0 => throw .tooDeep
  | depth + 1 =>
    let ask := fun relation => relationAnswer relation (relateAt depth relation)
    let first ← if ← isRefined a b then ask relation.exchanged b a else ask relation a b
    if first ≠ .undecided then return first
    let second ← if ← isRefined a b then ask relation a b else ask relation.exchanged b a
    if second ≠ .undecided then return second
    noOrder relation a b
termination_by structural depth

/-- The answer to whether a relation holds between two values. -/
def relate (relation : Relation) (a b : Value) : Action Value := do
  relateAt ((← get).size + 2) relation a b

/-- Whether a value is less than another. -/
def less (a b : Value) : Action Bool := do
  isTrue (← relate .less a b)

/-! ### Sorting

The items at the start that are in order already are left there, or are turned round if they are in
falling order. The others are put in their places one after the other, each of which is found by
halving. -/

/-- How many items follow the item `first` in order, where `falling` tells in which. -/
def orderedAfter (falling : Bool) (first : Value) : List Value → Action Nat
  | [] => return 0
  | x :: rest => do
    if (← less x first) = falling then return (← orderedAfter falling x rest) + 1 else return 0

/-- The items with those at the start in rising order, and how many these are. -/
def orderedStart (items : List Value) : Action (List Value × Nat) := do
  match items with
  | [] => return ([], 0)
  | [x] => return ([x], 1)
  | x :: y :: rest =>
    let falling ← less y x
    let n := (← orderedAfter falling y rest) + 2
    return (if falling then (items.take n).reverse ++ items.drop n else items, n)

/-- The place behind the items from `low` to before `high` that are not greater than a value. -/
def placeAmong (v : Value) (items : List Value) : (fuel low high : Nat) → Action Nat
  | 0, low, _ => return low
  | fuel + 1, low, high => do
    if high ≤ low then return low
    let middle := low + (high - low) / 2
    if ← less v (items[middle]?.getD .null) then placeAmong v items fuel low middle
    else placeAmong v items fuel (middle + 1) high

/-- Puts the items behind the first `n` into their places, where `keep` keeps what is done so
far. -/
def insertRest (keep : List Value → Action Unit) : (fuel n : Nat) → List Value →
    Action (List Value)
  | 0, _, items => return items
  | fuel + 1, n, items => do
    match items[n]? with
    | none => return items
    | some v =>
      let place ← placeAmong v items n 0 n
      let items := items.take place ++ v :: ((items.take n).drop place ++ items.drop (n + 1))
      keep items
      insertRest keep fuel (n + 1) items

/-- Values in rising order; equal ones stay in their order. -/
def sortKeeping (keep : List Value → Action Unit) (items : List Value) : Action (List Value) := do
  let (items, n) ← orderedStart items
  keep items
  insertRest keep items.length n items

end Action
end GraphQLTree
