/-! # Pieces of texts

Where a piece stands in a text, and what a text is made of between the places of a piece. Places are
found from the start or from the end, they do not overlap, and at most a given number of them is
used. -/

namespace GraphQLTree.Text

variable {α : Type} [BEq α]

/-! ### Finding -/

/-- The first place of a piece. -/
def placeOf? (part : List α) : List α → Option Nat
  | [] => if part.isEmpty then some 0 else none
  | a :: rest =>
    if part.isPrefixOf (a :: rest) then some 0 else (placeOf? part rest).map (· + 1)

/-- The last place of a piece. -/
def lastPlaceOf? (part s : List α) : Option Nat :=
  (placeOf? part.reverse s.reverse).map fun i => s.length - part.length - i

/-! ### Splitting -/

/-- The parts around the first `count` places of a piece, which is not empty; `skip` characters of
the last place are still to be passed, and `current` is the start of a part in reverse order. -/
def splitUpTo (part : List α) : (count skip : Nat) → (current : List α) → List α → List (List α)
  | _, _, current, [] => [current.reverse]
  | count, skip + 1, current, _ :: rest => splitUpTo part count skip current rest
  | 0, 0, current, a :: rest => [current.reverse ++ a :: rest]
  | count + 1, 0, current, a :: rest =>
    if part.isPrefixOf (a :: rest) then
      current.reverse :: splitUpTo part count (part.length - 1) [] rest
    else splitUpTo part (count + 1) 0 (a :: current) rest

/-- The parts around the first places of a piece, which is not empty. -/
def splitFirst (part : List α) (count : Nat) (s : List α) : List (List α) :=
  splitUpTo part count 0 [] s

/-- The parts around the last places of a piece, which is not empty. -/
def splitLast (part : List α) (count : Nat) (s : List α) : List (List α) :=
  (splitFirst part.reverse count s.reverse).reverse.map List.reverse

/-- The words of a text, up to a number; behind the last one of them what is left is one part. -/
def words (isBlank : α → Bool) : (count : Nat) → List α → List (List α)
  | count, s =>
    match count, s.dropWhile isBlank with
    | _, [] => []
    | 0, rest => [rest]
    | count + 1, rest =>
      rest.takeWhile (!isBlank ·) :: words isBlank count (rest.dropWhile (!isBlank ·))

/-- The words of a text, counted from its end. -/
def lastWords (isBlank : α → Bool) (count : Nat) (s : List α) : List (List α) :=
  (words isBlank count s.reverse).reverse.map List.reverse

/-- What stands before the first place of a piece and what stands behind it. -/
def divide? (part s : List α) : Option (List α × List α) :=
  (placeOf? part s).map fun i => (s.take i, s.drop (i + part.length))

/-- What stands before the last place of a piece and what stands behind it. -/
def divideLast? (part s : List α) : Option (List α × List α) :=
  (lastPlaceOf? part s).map fun i => (s.take i, s.drop (i + part.length))

/-! ### Counting and replacing -/

/-- How often a piece occurs; an empty one stands around every character. -/
def countPieces (part s : List α) : Nat :=
  if part.isEmpty then s.length + 1 else (splitFirst part s.length s).length - 1

/-- A text with a piece before each of its first characters, and at its end if the number allows. -/
def interleave (piece : List α) : (count : Nat) → List α → List α
  | 0, s => s
  | _ + 1, [] => piece
  | count + 1, a :: rest => piece ++ a :: interleave piece count rest

/-- A text in which the first places of a piece are replaced; an empty piece stands around every
character. -/
def replaceFirst (old new : List α) (count : Nat) (s : List α) : List α :=
  if old.isEmpty then interleave new count s else new.intercalate (splitFirst old count s)

/-! ### Ends -/

/-- A text without the characters of a kind at its start. -/
def trimLeft (skip : α → Bool) (s : List α) : List α :=
  s.dropWhile skip

/-- A text without the characters of a kind at its end. -/
def trimRight (skip : α → Bool) (s : List α) : List α :=
  (s.reverse.dropWhile skip).reverse

end GraphQLTree.Text
