import GraphQLTree.Behaviour.Sum
import GraphQLTree.Behaviour.Written
import GraphQLTree.Text.Truncate

/-! # Descriptions of values

Messages show values by a description of limited size. Long texts and collections are cut in the
middle, collections that are nested too deeply or that contain themselves are abbreviated, and of
other objects only the kind and the name are shown. A value that provides a description of its own
is shown by that. A description always ends: each level of nesting uses up one of the allowed
depth. -/

namespace GraphQLTree

/-- The limits of a description. -/
structure Limits where
  /-- How many collections may be nested. -/
  depth : Int
  /-- How many characters the written form of a number or a text may have. -/
  text : Int
  /-- How many entries of a collection are shown. -/
  list : Int
  deriving DecidableEq, Repr

/-- The limits of messages. -/
def Limits.standard : Limits := ⟨2, 240, 10⟩

/-! ### Names -/

/-- Names that are empty or artificial are not shown. -/
def isShownName (name : String) : Bool :=
  name != "" && !name.toList.contains '<' && !name.toList.contains '>'

/-- What kind of thing something is, and its name if that is shown. -/
def describeNamed (what name : String) : String :=
  if isShownName name then "<" ++ what ++ " " ++ name ++ ">" else "<" ++ what ++ ">"

/-- An object of which only the type is known. -/
def describeInstance (typeName : String) : String :=
  if isShownName typeName then "<" ++ typeName ++ " instance>" else "<object>"

namespace Store

/-- The description of a type. -/
def describeType (s : Store) (t : TypeValue) : String :=
  let isError := match s.errorClass? t with
    | some c => c.isOrdinary
    | none => false
  describeNamed (if isError then "exception class" else "class") (s.nameOf t)

/-- The description of a value by its kind and its name. -/
def describeKind (s : Store) (v : Value) : String :=
  match v, s.cell? v with
  | .type t, _ => s.describeType t
  | .function m, _ => describeNamed "function" m.name
  | _, some (.error e) =>
    if e.cls.isOrdinary then describeNamed "exception" (s.typeName v)
    else describeInstance (s.typeName v)
  | _, some (.bound _ (.function m)) => describeNamed "method" m.name
  | _, some (.bound _ (.ref f)) =>
    match s.get? f with
    | some (.stub _ name _) => describeNamed "method" name
    | _ => describeInstance (s.typeName v)
  | _, some (.stub .function name _) => describeNamed "function" name
  | _, some (.stub .generatorFunction name _) => describeNamed "generator function" name
  | _, some (.generator name _) => describeNamed "generator" name
  | _, _ => describeInstance (s.typeName v)

/-- The description of a simple value: its written form, cut to size if it can be long. -/
def describeSimple? (s : Store) (limits : Limits) (v : Value) : Option String :=
  match v, s.cell? v with
  | .null, _ | .bool _, _ | .float _ _, _ | .complex _ _ _, _ => some (s.writtenAtom v)
  | .int _, _ | .text _, _ | .bytes _, _ => some (Text.truncate limits.text (s.writtenAtom v))
  | _, some (.buffer bs) => some (Text.truncate limits.text (Text.quoteBuffer bs))
  | _, _ => none

end Store

/-! ### Collections -/

/-- The shape of a collection and its items, those of a dictionary with their values. -/
def Cell.collection? : Cell → Option (Shape × List (Value × Option Value))
  | .list items => some (.list, items.map (·, none))
  | .tuple _ items _ => some (.tuple, items.map (·, none))
  | .dict entries => some (.braces, entries.map fun e => (e.key, some e.value))
  | .set _ items => some (.braces, items.map fun i => (i.2, none))
  | _ => none

namespace Action

/-- The description that a value provides itself. -/
def ownDescription? (v : Value) : Action (Option Value) := do
  match v, (← get).method? v "__inspect__" with
  | .type _, _ => return none
  | _, some f => return some (← call f [v])
  | _, none =>
    let f ← attrOrNull v "__inspect__"
    if f ≠ .null && (← get).isCallable f then return some (← call f []) else return none

/-- The descriptions of items between the brackets of a shape. All of them must be texts, but for
that of the only item of a tuple, which is shown by its text. -/
def encloseAll (shape : Shape) (items : List Value) : Action Value := do
  match shape, items with
  | .tuple, [item] => return .text (Shape.tuple.enclose [← text item])
  | _, _ =>
    let _ ← joinTexts ", " items
    return .text (shape.enclose (items.filterMap fun
      | .text t => some t
      | _ => none))

/-- The description of an empty collection. -/
def describeEmpty (v : Value) (c : Cell) : Action Value :=
  match c with
  | .set _ _ => return .text "<empty set>"
  | _ => do return .text (← written v)

/-! ### Values that show another class -/

/-- The description of a value as a simple one, if it shows the class of such values. -/
def shownSimple? (limits : Limits) (v : Value) : Action (Option String) := do
  if !(← hidesClass v) then return none
  else if ← isOfAny [.basic .bool, .basic .float, .basic .complex] v then some <$> written v
  else if ← isOfAny [.basic .int, .basic .text, .basic .bytes, .basic .buffer] v then
    return some (Text.truncate limits.text (← written v))
  else return none

/-- The shape of a collection and its items, where an object may show the class of a collection. -/
def collectionOf? (v : Value) : Action (Option (Shape × List (Value × Option Value))) := do
  match ((← get).cell? v).bind Cell.collection? with
  | some c => return some c
  | none =>
    if !(← hidesClass v) then return none
    else if ← isOf (.basic .list) v then return some (.list, (← items v).map (·, none))
    else if ← isOf (.basic .tuple) v then return some (.tuple, (← items v).map (·, none))
    else if ← isOfAny [.basic .set, .basic .frozenSet] v then
      return some (.braces, (← items v).map (·, none))
    else return none

/-- The description of a value by its kind and its name, where an object may show the class of an
error. -/
def kindOf (v : Value) : Action String := do
  let s ← get
  if !(← hidesClass v) then return s.describeKind v
  else if ← isOf (.error .general) v then return describeNamed "exception" (s.typeName v)
  else if ← isOf (.basic .type) v then
    fail (.other .badType "issubclass() arg 1 must be a class")
  else return s.describeKind v

/-- The description of a value inside the collections `seen`, with `depth` more levels to go. -/
def describeAt (limits : Limits) (depth : Nat) (seen : List Ref) (v : Value) : Action Value := do
  match (← get).describeSimple? limits v with
  | some t => return .text t
  | none =>
    match ← shownSimple? limits v with
    | some t => return .text t
    | none =>
      match ← ownDescription? v with
      | some answer => return answer
      | none =>
        match v, (← get).cell? v, ← collectionOf? v with
        | .ref r, some c, some (shape, items) =>
          if !(← isTrue v) then describeEmpty v c
          else match depth with
            | 0 => return .text shape.abbreviated
            | depth + 1 =>
              if seen.contains r then return .text shape.abbreviated
              else
                let parts ← items.mapM fun
                  | (item, none) => describeAt limits depth (r :: seen) item
                  | (key, some value) => do
                    let start ← sum (← describeAt limits depth (r :: seen) key) (.text ": ")
                    sum start (← describeAt limits depth (r :: seen) value)
                encloseAll shape (Text.truncateItems (.text "...") limits.list parts)
        | _, _, _ => return .text (← kindOf v)
termination_by structural depth

/-- The description of a value within the given limits. -/
def describeWithin (limits : Limits) (v : Value) : Action Value :=
  describeAt limits limits.depth.toNat [] v

/-- The description of a value as a part of a text. -/
def describedText (v : Value) : Action String := do
  text (← describe v)

end Action
end GraphQLTree
