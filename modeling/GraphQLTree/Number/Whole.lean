import GraphQLTree.Text.Script

/-! # Reading whole numbers

A whole number is written in a base from 2 to 36, by decimal digits of any script and by letters for
the larger digits. Blanks around it are skipped, a sign may come first, and single underscores may
stand between digits. A prefix can tell the base. -/

namespace GraphQLTree.Whole

/-- Whether a character can be skipped in front of a number or behind it. -/
def isSpace (c : Char) : Bool :=
  Text.isBlank c && !(0x1C ≤ c.toNat && c.toNat ≤ 0x1F)

/-- A text without the blanks around it. -/
def trim (s : List Char) : List Char :=
  ((s.dropWhile isSpace).reverse.dropWhile isSpace).reverse

/-- The value of a digit, which is less than 36. -/
def digit? (c : Char) : Option Nat :=
  match Text.digitValue? c with
  | some d => some d
  | none =>
    if 'a' ≤ c && c ≤ 'z' then some (c.toNat - 'a'.toNat + 10)
    else if 'A' ≤ c && c ≤ 'Z' then some (c.toNat - 'A'.toNat + 10)
    else none

/-- The value of a digit in a base. -/
def digitIn? (base : Nat) (c : Char) : Option Nat :=
  (digit? c).filter (· < base)

/-- The sign of a number, and what follows it. -/
def sign : List Char → Bool × List Char
  | '-' :: s => (true, s)
  | '+' :: s => (false, s)
  | s => (false, s)

/-- The base that the prefix of a number tells. -/
def prefixBase? : List Char → Option Nat
  | '0' :: 'x' :: _ | '0' :: 'X' :: _ => some 16
  | '0' :: 'o' :: _ | '0' :: 'O' :: _ => some 8
  | '0' :: 'b' :: _ | '0' :: 'B' :: _ => some 2
  | _ => none

/-- A number without the prefix of its base, behind which one underscore may follow. -/
def skipPrefix (base : Nat) (s : List Char) : List Char :=
  if prefixBase? s = some base then
    match s.drop 2 with
    | '_' :: rest => rest
    | rest => rest
  else s

/-- The values of the digits at the start of a text, with single underscores between them, and what
follows them; none if an underscore stands elsewhere. -/
def leadingDigits (base : Nat) (isAfterDigit : Bool) : List Char → Option (List Nat × List Char)
  | [] => some ([], [])
  | '_' :: c :: rest =>
    if isAfterDigit && (digitIn? base c).isSome then leadingDigits base false (c :: rest) else none
  | ['_'] => none
  | c :: rest =>
    match digitIn? base c with
    | none => some ([], c :: rest)
    | some d => (leadingDigits base true rest).map fun (ds, after) => (d :: ds, after)

/-- The number with a sign and digits. -/
def value (base : Nat) (negative : Bool) (digits : List Nat) : Int :=
  let n : Int := (digits.foldl (fun n d => base * n + d) 0 : Nat)
  if negative then -n else n

/-- What a text that writes a whole number consists of. -/
structure Numeral where
  base : Nat
  negative : Bool
  digits : List Nat
  /-- What follows the digits. -/
  rest : List Char
  /-- Whether the number can only be zero, because its base is not told although a zero comes first.
  -/
  isZeroOnly : Bool

namespace Numeral

/-- The number that a numeral writes. -/
def value (w : Numeral) : Int :=
  Whole.value w.base w.negative w.digits

/-- Whether a numeral writes a number. -/
def isValid (w : Numeral) : Bool :=
  !w.digits.isEmpty && w.rest.isEmpty && (!w.isZeroOnly || w.digits.all (· = 0))

/-- Whether reading a numeral takes long if it has many digits. -/
def isCostly (w : Numeral) : Bool :=
  !([2, 4, 8, 16, 32].contains w.base)

end Numeral

/-- The parts of a number in a base; zero stands for the base that a prefix tells. -/
def scan? (base : Nat) (s : List Char) : Option Numeral := do
  let (negative, s) := sign (trim s)
  let actual := if base = 0 then (prefixBase? s).getD 10 else base
  let isZeroOnly := base = 0 && actual = 10 && s.head? = some '0'
  let (digits, rest) ← leadingDigits actual false (skipPrefix actual s)
  return ⟨actual, negative, digits, rest, isZeroOnly⟩

end GraphQLTree.Whole
