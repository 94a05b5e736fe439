import GraphQLTree.Number.Double
import GraphQLTree.Number.Whole

/-! # Reading numbers with fractions

A number is written in decimal, with an optional sign, point and exponent; infinity and not a number
are words. A complex number is written as the sum of two numbers, the second of them times the
imaginary unit; either can be missing, and brackets can stand around both. Single underscores may
stand between digits, and blanks around the whole. -/

namespace GraphQLTree.Reading

/-! ### Characters -/

/-- A character, where the digits of all scripts are those of ASCII, and all blanks are spaces. -/
def plain (c : Char) : Char :=
  match Text.digitValue? c with
  | some d => Nat.digitChar d
  | none => if Whole.isSpace c then ' ' else c

/-- A text without the underscores between its digits; none if one stands elsewhere. -/
def dropUnderscores (previous : Char) : List Char → Option (List Char)
  | [] => if previous = '_' then none else some []
  | c :: rest =>
    if c = '_' then if previous.isDigit then dropUnderscores c rest else none
    else if previous = '_' && !c.isDigit then none
    else (c :: ·) <$> dropUnderscores c rest

/-- What follows a word, in capitals or small letters. -/
def skipWord? (word : String) (s : List Char) : Option (List Char) :=
  if word.toList.isPrefixOf (s.map Char.toLower) then some (s.drop word.length) else none

/-! ### Numbers -/

/-- The number that decimal digits write. -/
def decimalValue (digits : List Char) : Nat :=
  digits.foldl (fun n d => 10 * n + (d.toNat - '0'.toNat)) 0

/-- The exponent at the start of a text, and what follows it; it is zero if there is none. -/
def exponent (s : List Char) : Int × List Char :=
  match s with
  | 'e' :: t | 'E' :: t =>
    let (negative, t) := Whole.sign t
    let (digits, rest) := t.span Char.isDigit
    let n : Int := decimalValue digits
    if digits.isEmpty then (0, s) else (if negative then -n else n, rest)
  | _ => (0, s)

/-- The number closest to digits times a power of ten. Far from one, it is too large or zero
whatever the digits are. -/
def scale (negative : Bool) (digits : List Char) (exponent : Int) : Double :=
  let n := decimalValue digits
  if n = 0 || exponent + digits.length < -400 then .finite negative 0
  else if 400 < exponent then .infinite negative
  else .ofDecimal negative n exponent

/-- The number at the start of a text, and what follows it. -/
def number? (s : List Char) : Option (Double × List Char) :=
  let (negative, s) := Whole.sign s
  match skipWord? "infinity" s <|> skipWord? "inf" s, skipWord? "nan" s with
  | some rest, _ => some (.infinite negative, rest)
  | none, some rest => some (.nan, rest)
  | none, none =>
    let (whole, s) := s.span Char.isDigit
    let (fraction, s) := match s with
      | '.' :: t => t.span Char.isDigit
      | t => ([], t)
    let (e, rest) := exponent s
    if whole.isEmpty && fraction.isEmpty then none
    else some (scale negative (whole ++ fraction) (e - fraction.length), rest)

/-- The number that a text writes. -/
def double? (s : List Char) : Option Double := do
  let (x, rest) ← number? (← dropUnderscores ' ' (Whole.trim (s.map plain)))
  if rest.isEmpty then some x else none

/-! ### Complex numbers -/

/-- What follows the imaginary unit. -/
def skipUnit? : List Char → Option (List Char)
  | 'j' :: s | 'J' :: s => some s
  | _ => none

/-- The number at the start of a text that can be a mere sign, and what follows it. -/
def factor (s : List Char) : Double × List Char :=
  match number? s with
  | some found => found
  | none =>
    let (negative, rest) := Whole.sign s
    (.ofInt (if negative then -1 else 1), rest)

/-- The parts of the complex number at the start of a text, and what follows them. -/
def parts? (s : List Char) : Option ((Double × Double) × List Char) := do
  let zero := Double.finite false 0
  match number? s with
  | none =>
    let (y, t) := factor s
    return ((zero, y), ← skipUnit? t)
  | some (x, t) =>
    if t.head? = some '+' || t.head? = some '-' then
      let (y, u) := factor t
      return ((x, y), ← skipUnit? u)
    else match skipUnit? t with
      | some u => return ((zero, x), u)
      | none => return ((x, zero), t)

/-- The parts of the complex number that a text without underscores writes. -/
def complex? (s : List Char) : Option (Double × Double) := do
  match Whole.trim (s.map plain) with
  | '(' :: t =>
    let (z, rest) ← parts? (t.dropWhile Whole.isSpace)
    if rest.dropWhile Whole.isSpace = [')'] then some z else none
  | t =>
    let (z, rest) ← parts? t
    if rest.isEmpty then some z else none

end GraphQLTree.Reading
