import GraphQLTree.Slice

/-! # Truncation

What is longer than a limit is cut in the middle: a start, an ellipsis and an end remain. The sizes
of the two parts follow from the limit alone. Names in messages are cut at their end, by the number
of bytes that they take. -/

namespace GraphQLTree.Text

/-- How many characters of a truncated text stand before the ellipsis. -/
def headSize (limit : Int) : Int :=
  max 0 ((limit - 3).fdiv 2)

/-- How many characters of a truncated text stand after the ellipsis. -/
def tailSize (limit : Int) : Int :=
  max 0 (limit - 3 - headSize limit)

/-- A text cut down to `limit` characters. An end of size zero is read as the bound zero, which
stands for the whole text. -/
def truncateChars (limit : Int) (s : List Char) : List Char :=
  if limit < s.length then
    upTo (headSize limit) s ++ ['.', '.', '.'] ++ startingAt (-tailSize limit) s
  else s

/-- A text cut down to `limit` characters. -/
def truncate (limit : Int) (s : String) : String :=
  String.ofList (truncateChars limit s.toList)

/-- A list cut down to `limit` entries, the ellipsis included: half of them before it and one less
after it. -/
def truncateItems {α : Type} (ellipsis : α) (limit : Int) (items : List α) : List α :=
  if limit < items.length then
    let head := limit.fdiv 2
    upTo head items ++ [ellipsis] ++ startingAt (-(head - 1)) items
  else items

/-- A list of texts cut down to `limit` entries, the ellipsis included. -/
def truncateList (limit : Int) (items : List String) : List String :=
  truncateItems "..." limit items

/-! ### Starts of names -/

/-- The characters that fit into a number of bytes; a last one that fits only in part is shown by a
sign of its own. -/
def fitting : Nat → List Char → List Char
  | _, [] => []
  | room, c :: rest =>
    if c.utf8Size ≤ room then c :: fitting (room - c.utf8Size) rest
    else if room = 0 then [] else [Char.ofNat 0xFFFD]

/-- The start of a text that fits into a number of bytes. -/
def firstBytes (room : Nat) (s : String) : String :=
  String.ofList (fitting room s.toList)

end GraphQLTree.Text
