import GraphQLTree.Behaviour.Attribute

/-! # Equality

Numbers of all types are compared by their exact quantities, texts and bytes by their content,
collections item by item, nodes by their class and their keys, and failure reports by their messages
and stages. Inside a collection a value equals itself without being looked at. A value that does not
know how to be compared with another leaves the answer to that; if neither knows, only a value
itself is equal to it. -/

namespace GraphQLTree.Action

/-- Whether all pairs hold the same or equal values. -/
def allSame : List (Value × Value) → Action Bool
  | [] => return true
  | (a, b) :: rest => do if ← same a b then allSame rest else return false

/-- Whether two lists have the same or equal items. -/
def sameItems (a b : List Value) : Action Bool :=
  if a.length = b.length then allSame (a.zip b) else return false

/-- Whether two tuples have the same or equal items; their sizes are compared last. -/
def sameFields (a b : List Value) : Action Bool := do
  if ← allSame (a.zip b) then return a.length = b.length else return false

/-- Whether the entries `a` have the same or equal values in the dictionary `b`. -/
def entriesIn (b : List Entry) : List Entry → Action Bool
  | [] => return true
  | e :: rest => do
    match ← findEntry e.digest e.key b with
    | some e' => if ← same e.value e'.value then entriesIn b rest else return false
    | none => return false

/-- Whether two dictionaries have the same keys with equal values. -/
def sameEntries (a b : List Entry) : Action Bool :=
  if a.length = b.length then entriesIn b a else return false

/-- Whether all members of a set are in another one. -/
def membersIn (b : List (Digest × Value)) : List (Digest × Value) → Action Bool
  | [] => return true
  | (d, v) :: rest => do if ← isMember d v b then membersIn b rest else return false

/-- Whether two sets have the same members. -/
def sameMembers (a b : List (Digest × Value)) : Action Bool :=
  if a.length = b.length then membersIn b a else return false

/-! ### Nodes and reports -/

/-- Whether two values have equal attributes for all names given. -/
def sameAttrs (a b : Value) : List Value → Action Bool
  | [] => return true
  | key :: rest => do
    let name ← nameOfAttr key
    let x ← attr a name
    let y ← attr b name
    if ← equal x y then sameAttrs a b rest else return false

/-- Whether two values show the same class. -/
def sameType (a b : Value) : Action Bool := do
  match ← classOf a, ← classOf b with
  | .type t, .type u => return t.id = u.id
  | x, y => equal x y

/-- Whether a value equals a node: it is one of the same class with equal keys. -/
def equalNode (a b : Value) : Action Bool := do
  if ← isOf (.node .node) b then
    if ← sameType a b then sameAttrs a b (← namesOf a "keys") else return false
  else return false

/-- Whether a value equals a failure report: it is one with an equal message and equal stages, or a
dictionary of them. -/
def equalReport (a b : Value) : Action Bool := do
  let sameReport ← if ← isOf (.error .visit) b then
      if ← sameType a b then
        if ← equal (← attr a "message") (← attr b "message") then
          equal (← attr a "stages") (← attr b "stages")
        else pure false
      else pure false
    else pure false
  if sameReport then return true
  else if ← isOf (.basic .dict) b then
    if ← contains b (.text "message") then equal b (← attr a "formatted") else return false
  else return false

/-! ### Comparing values -/

/-- How an object compares itself with a value; none if it does not know how. -/
def compareCell (a : Value) (c : Cell) (b : Value) : Action (Option Bool) := do
  match c, (← get).cell? b with
  | .node _, _ => some <$> equalNode a b
  | .error { cls := .visit, .. }, _ => some <$> equalReport a b
  | .list xs, some (.list ys) => some <$> sameItems xs ys
  | .tuple _ xs _, some (.tuple _ ys _) => some <$> sameFields xs ys
  | .dict xs, some (.dict ys) => some <$> sameEntries xs ys
  | .set _ xs, some (.set _ ys) => some <$> sameMembers xs ys
  | .buffer xs, some (.buffer ys) => return some (xs == ys)
  | .buffer xs, none =>
    match b with
    | .bytes ys => return some (xs == ys)
    | _ => return none
  | .bound x f, some (.bound y g) => return some (x == y && f == g)
  | _, _ => return if a = b then some true else none

/-- How a value compares itself with another by what it is; none if it does not know how. -/
def compareContent (a b : Value) : Action (Option Bool) := do
  match (← get).cell? a, a.quantities?, b.quantities? with
  | some c, _, _ => compareCell a c b
  | none, some (re, im), some (re', im') => return some (re.equal re' && im.equal im')
  | none, none, none =>
    match a, b with
    | .text s, .text t => return some (s == t)
    | .bytes s, .bytes t => return some (s == t)
    | _, _ => return if a = b then some true else none
  | none, _, _ => return none

/-- The answer of a comparison as a value. -/
def comparisonAnswer : Option Bool → Value
  | some b => .bool b
  | none => .undecided

/-- What a value answers when it is compared with another. A method that was assigned to its type
may answer with any value. -/
def comparison (a b : Value) : Action Value := do
  match ← special? a "__eq__" with
  | some f =>
    if (← specialValue? f a).isNone then return .undecided else callSpecial f a [b]
  | none => return comparisonAnswer (← compareContent a b)

/-- Whether the type of the second value is derived from that of the first one, so that it is asked
first. -/
def isRefined (a b : Value) : Action Bool := do
  let s ← get
  let t := s.typeOf a
  let u := s.typeOf b
  return t.id ≠ u.id && s.isSubtype u t

/-- The answer of the first of two values that knows how to compare itself with the other, where
`ask` compares a value with another; `neither` if none of them knows. -/
def firstAnswer (ask : Value → Value → Action Value) (neither : Value) (a b : Value) :
    Action Value := do
  let (a, b) := if ← isRefined a b then (b, a) else (a, b)
  match ← ask a b with
  | .undecided =>
    match ← ask b a with
    | .undecided => return neither
    | answer => return answer
  | answer => return answer

/-- The answer to whether two values are equal. -/
def equality (a b : Value) : Action Value :=
  firstAnswer comparison (.bool (a = b)) a b

/-- Whether two values are equal. -/
def areEqual (a b : Value) : Action Bool := do
  match ← equality a b with
  | .bool answer => return answer
  | answer => isTrue answer

end GraphQLTree.Action
