import GraphQLTree.Number.Arithmetic
import GraphQLTree.Number.Whole

/-! # Reading hexadecimal numbers

A floating-point number is written by a sign, hexadecimal digits with or without a point, and a
power of two. Such a number is known exactly and is rounded only once. Bytes are written by two
digits each, with blanks between them. -/

namespace GraphQLTree

/-- The value of a hexadecimal digit. -/
def hexDigit? (c : Char) : Option Nat :=
  if '0' ≤ c && c ≤ '9' then some (c.toNat - '0'.toNat)
  else if 'a' ≤ c && c ≤ 'f' then some (c.toNat - 'a'.toNat + 10)
  else if 'A' ≤ c && c ≤ 'F' then some (c.toNat - 'A'.toNat + 10)
  else none

/-- The leading hexadecimal digits of a text by their values, and what follows them. -/
def hexDigits : List Char → List Nat × List Char
  | [] => ([], [])
  | c :: rest =>
    match hexDigit? c with
    | some d =>
      let (ds, rest) := hexDigits rest
      (d :: ds, rest)
    | none => ([], c :: rest)

/-- The bytes written by pairs of hexadecimal digits, or the place where the text is wrong; `i` is
the place of its first character. -/
def readBytes (i : Nat) : List Char → Except Nat (List UInt8)
  | [] => .ok []
  | [c] =>
    if Text.Script.ascii.isBlank c then .ok []
    else .error (if (hexDigit? c).isSome then i + 1 else i)
  | c :: d :: rest =>
    if Text.Script.ascii.isBlank c then readBytes (i + 1) (d :: rest)
    else match hexDigit? c, hexDigit? d with
      | some high, some low => do
        return UInt8.ofNat (16 * high + low) :: (← readBytes (i + 2) rest)
      | none, _ => .error i
      | some _, none => .error (i + 1)

namespace Double

/-- What a hexadecimal text stands for. -/
inductive HexReading
  | number (x : Double)
  | invalid
  | tooLarge
  deriving DecidableEq, Repr

/-- The number with hexadecimal digits times a power of two. -/
def ofHexDigits (negative : Bool) (digits : List Nat) (power : Int) : HexReading :=
  let n := digits.foldl (fun n d => 16 * n + d) 0
  let top := (Nat.log2 n : Int) + power
  if n = 0 || top < -1200 then .number (.finite negative 0)
  else if 1100 < top then .tooLarge
  else
    let x := if 0 ≤ power then ofUnits negative (n * Nat.pow 2 power.toNat * unitsPerOne) 1
      else ofUnits negative (n * unitsPerOne) (Nat.pow 2 power.natAbs)
    match x with
    | .infinite _ => .tooLarge
    | x => .number x

/-- The exponent behind a mark; nothing stands for zero. -/
def hexExponent? (s : List Char) : Option Int :=
  match s with
  | [] => some 0
  | c :: rest =>
    if c ≠ 'p' && c ≠ 'P' then none
    else
      let (negative, digits) := Whole.sign rest
      if digits.isEmpty || !digits.all Char.isDigit then none
      else some (Whole.value 10 negative (digits.map fun c => c.toNat - '0'.toNat))

/-- The number written by a hexadecimal text. -/
def readHex (s : List Char) : HexReading :=
  let blank := Text.Script.ascii.isBlank
  let s := ((s.dropWhile blank).reverse.dropWhile blank).reverse
  let (negative, s) := Whole.sign s
  let small := s.map Char.toLower
  if small = "inf".toList || small = "infinity".toList then .number (.infinite negative)
  else if small = "nan".toList then .number .nan
  else
    let s := match s with
      | '0' :: 'x' :: rest | '0' :: 'X' :: rest => rest
      | s => s
    let (whole, s) := hexDigits s
    let (part, s) := match s with
      | '.' :: rest => hexDigits rest
      | s => ([], s)
    match hexExponent? s with
    | none => .invalid
    | some power =>
      if whole.isEmpty && part.isEmpty then .invalid
      else ofHexDigits negative (whole ++ part) (power - 4 * part.length)

end Double
end GraphQLTree
