import GraphQLTree.Text.Script

/-! # Lines, columns and padding

A text is split into its lines, tabs are replaced by blanks up to the next column, and a text that
is too short is filled up at its ends. -/

namespace GraphQLTree.Text

/-! ### Lines -/

/-- The lines of a text; `current` is the start of the first one in reverse order. A carriage return
and a line feed end one line together. -/
def linesFrom (isBreak : Char → Bool) (keep : Bool) : (current : List Char) → List Char →
    List (List Char)
  | [], [] => []
  | current, [] => [current.reverse]
  | current, '\r' :: '\n' :: rest =>
    (if keep then (('\n' :: '\r' :: current).reverse) else current.reverse) ::
      linesFrom isBreak keep [] rest
  | current, c :: rest =>
    if isBreak c then
      (if keep then (c :: current).reverse else current.reverse) :: linesFrom isBreak keep [] rest
    else linesFrom isBreak keep (c :: current) rest

/-- The lines of a text, with what ends them if it is kept. -/
def lines (isBreak : Char → Bool) (keep : Bool) (s : List Char) : List (List Char) :=
  linesFrom isBreak keep [] s

/-! ### Columns -/

/-- A text in which tabs are replaced by blanks up to the next multiple of `size`; it starts at a
column. -/
def expandFrom (size : Nat) : (column : Nat) → List Char → List Char
  | _, [] => []
  | column, c :: rest =>
    if c = '\t' then
      let blanks := if size = 0 then 0 else size - column % size
      List.replicate blanks ' ' ++ expandFrom size (column + blanks) rest
    else c :: expandFrom size (if c = '\n' || c = '\r' then 0 else column + 1) rest

/-! ### Padding -/

/-- How a text is placed in a field that is wider. -/
inductive Alignment
  | left
  | right
  | center
  deriving DecidableEq, Repr

/-- A text with so many characters at its start and at its end. -/
def padBy (fill : Char) (left right : Nat) (s : List Char) : List Char :=
  List.replicate left fill ++ s ++ List.replicate right fill

/-- A text that is filled up to a width. In the center an odd character goes to the left of a text
in a field of odd width. -/
def pad (alignment : Alignment) (fill : Char) (width : Nat) (s : List Char) : List Char :=
  let missing := width - s.length
  match alignment with
  | .left => padBy fill 0 missing s
  | .right => padBy fill missing 0 s
  | .center =>
    let left := missing / 2 + (if missing % 2 = 1 && width % 2 = 1 then 1 else 0)
    padBy fill left (missing - left) s

/-- A text that is filled up to a width with zeros behind its sign. -/
def padZeros (width : Nat) (s : List Char) : List Char :=
  let zeros := List.replicate (width - s.length) '0'
  match s with
  | [] => zeros
  | c :: rest => if c = '+' || c = '-' then c :: (zeros ++ rest) else zeros ++ c :: rest

end GraphQLTree.Text
