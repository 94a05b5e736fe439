import GraphQLTree.Text.FieldSpec

/-! # Templates

A template is a text with fields in braces. A field names a value by its number or its name, may go
on to attributes and items of it, may ask for a conversion, and may have a specification, which is a
template itself. Doubled braces stand for themselves. Reading a template stops at the first thing
that is wrong, so that what comes before it is known. -/

namespace GraphQLTree.Text

/-- A step from a value to a part of it. -/
inductive FieldStep
  | attr (name : String)
  | item (name : String)
  | place (index : Nat)
  deriving DecidableEq, Repr

/-- What a field starts from. -/
inductive FieldStart
  /-- The next value. -/
  | next
  | number (n : Nat)
  | name (name : String)
  deriving DecidableEq, Repr

/-- A field of a template, as it is written. -/
structure Field where
  name : List Char
  conversion? : Option Char
  spec : List Char
  deriving Repr

/-- A piece of a template. -/
inductive Piece
  | literal (cs : List Char)
  | field (f : Field)
  deriving Repr

namespace Template

/-- The name of a field, the character behind it, and what follows that. Brackets hide what stands
in them; `inBrackets` tells that one is open. -/
def scanName : (inBrackets : Bool) → List Char → Except String (List Char × Option Char × List Char)
  | _, [] => .ok ([], none, [])
  | inBrackets, c :: s =>
    if !inBrackets && (c = '}' || c = ':' || c = '!') then .ok ([], some c, s)
    else if !inBrackets && c = '{' then .error "unexpected '\x7b' in field name"
    else do
      let (name, stop, rest) ← scanName (if inBrackets then c ≠ ']' else c = '[') s
      return (c :: name, stop, rest)

/-- The specification of a field up to the brace that closes it; `depth` braces are open. -/
def scanSpec : (depth : Nat) → List Char → Except String (List Char × List Char)
  | _, [] => .error "unmatched '\x7b' in format spec"
  | depth, c :: s =>
    if c = '}' && depth = 0 then .ok ([], s)
    else do
      let depth := if c = '{' then depth + 1 else if c = '}' then depth - 1 else depth
      let (spec, rest) ← scanSpec depth s
      return (c :: spec, rest)

/-- A field behind the brace that opens it, and what follows it. -/
def scanField (s : List Char) : Except String (Field × List Char) := do
  match ← scanName false s with
  | (name, some '}', rest) => return (⟨name, none, []⟩, rest)
  | (name, some ':', rest) =>
    let (spec, rest) ← scanSpec 0 rest
    return (⟨name, none, spec⟩, rest)
  | (name, some _, rest) =>
    match rest with
    | [] => throw "end of string while looking for conversion specifier"
    | c :: '}' :: rest => return (⟨name, some c, []⟩, rest)
    | [_] => throw "unmatched '\x7b' in format spec"
    | c :: ':' :: rest =>
      let (spec, rest) ← scanSpec 0 rest
      return (⟨name, some c, spec⟩, rest)
    | _ :: _ :: _ => throw "expected ':' after conversion specifier"
  | (_, none, _) => throw "expected '\x7d' before end of string"

/-- The next piece of a template, and what follows it; none at the end. -/
def nextPiece? : List Char → Except String (Option (Piece × List Char))
  | [] => .ok none
  | '{' :: '{' :: s => .ok (some (.literal ['{'], s))
  | '}' :: '}' :: s => .ok (some (.literal ['}'], s))
  | ['{'] => .error "Single '\x7b' encountered in format string"
  | '}' :: _ => .error "Single '\x7d' encountered in format string"
  | '{' :: s => do
    let (field, rest) ← scanField s
    return some (.field field, rest)
  | c :: s => .ok (some (.literal [c], s))

/-- The number that a name is, if it is one. -/
def numberOf? (name : List Char) : Except String (Option Nat) := do
  match ← FieldSpec.scanNumber name with
  | (some n, []) => return some n
  | _ => return none

/-- What a field starts from, and the steps that are still to be read. -/
def start (name : List Char) : Except String (FieldStart × List Char) := do
  let isEnd := fun (c : Char) => c = '.' || c = '['
  let first := name.takeWhile (!isEnd ·)
  let rest := name.dropWhile (!isEnd ·)
  if first.isEmpty then return (.next, rest)
  match ← numberOf? first with
  | some n => return (.number n, rest)
  | none => return (.name (String.ofList first), rest)

/-- The next step of a field, and what follows it; none at the end. -/
def nextStep? : List Char → Except String (Option (FieldStep × List Char))
  | [] => .ok none
  | '.' :: s =>
    let isEnd := fun (c : Char) => c = '.' || c = '['
    let name := s.takeWhile (!isEnd ·)
    if name.isEmpty then .error "Empty attribute in format string"
    else .ok (some (.attr (String.ofList name), s.drop name.length))
  | '[' :: s => do
    let name := s.takeWhile (· ≠ ']')
    if name.length = s.length then throw "Missing ']' in format string"
    if name.isEmpty then throw "Empty attribute in format string"
    let rest := s.drop (name.length + 1)
    match ← numberOf? name with
    | some n => return some (.place n, rest)
    | none => return some (.item (String.ofList name), rest)
  | _ => .error "Only '.' or '[' may follow ']' in format field specifier"

end Template
end GraphQLTree.Text
