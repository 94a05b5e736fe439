import GraphQLTree.Text.DecimalDigit
import GraphQLTree.Text.LetterCase

/-! # Capitalised and underscored names

Class names are written with capitals (`SelectionField`), kinds and method names with underscores
(`selection_field`). The two conversions are inverse to each other on names made of regular words.

A word of a capitalised name ends after a lower-case letter that is followed by a capital. In a run
of capitals and digits only the last capital starts a new word: `HTTPQuery` has the words `HTTP` and
`Query`. -/

namespace GraphQLTree.Text

/-! ### From capitals to underscores -/

/-- The characters of a run: ASCII capitals and digits. -/
def inRun (c : Char) : Bool :=
  c.isUpper || c.isDigit

/-- The position of the last capital in the run at the start of `s`. -/
def lastCapital? : List Char → Option Nat
  | [] => none
  | c :: s =>
    if inRun c then
      match lastCapital? s with
      | some i => some (i + 1)
      | none => if c.isUpper then some 0 else none
    else none

/-- How many characters of `s` belong to the piece that starts with `c` and ends before a new word;
`none` if no piece ends before a new word here. -/
def pieceLength? (c : Char) (s : List Char) : Option Nat :=
  if c.isLower then
    if (s.head?.map Char.isUpper).getD false then some 0 else none
  else if inRun c then lastCapital? s
  else none

/-- The text with an underscore between its words, where `left?` tells how many characters of the
current piece are still to come, if it ends before a new word. -/
def breakFrom : Option Nat → List Char → List Char
  | _, [] => []
  | some (left + 1), c :: s => c :: breakFrom (some left) s
  | some 0, c :: s => '_' :: c :: breakFrom (pieceLength? c s) s
  | none, c :: s => c :: breakFrom (pieceLength? c s) s

/-- The text with an underscore between its words. -/
def breakWords (s : List Char) : List Char :=
  breakFrom none s

/-- The underscored form of a capitalised name. -/
def toSnakeCase (s : String) : String :=
  String.ofList (lower (breakWords s.toList))

/-! ### From underscores to capitals -/

/-- The text in which an underscore and the ASCII lower-case letter or the decimal digit after it
are replaced by the upper case of the latter. -/
def joinWords : List Char → List Char
  | [] => []
  | [c] => [c]
  | c :: d :: s =>
    if c = '_' && (d.isLower || isDecimalDigit d) then upperChar d ++ joinWords s
    else c :: joinWords (d :: s)

/-- The upper case of the first character, and the others as they are. -/
def capitalize : List Char → List Char
  | [] => []
  | c :: s => upperChar c ++ s

/-- The capitalised form of an underscored name. -/
def toCamelCase (s : String) : String :=
  String.ofList (capitalize (joinWords s.toList))

/-- The capitalised form of an underscored name whose first character keeps its case. -/
def toLowerCamelCase (s : String) : String :=
  String.ofList (joinWords s.toList)

end GraphQLTree.Text
