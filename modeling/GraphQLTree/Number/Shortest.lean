import GraphQLTree.Number.Double

/-! # The shortest decimal of a floating-point number

A number is written with the fewest digits that read back as the same number; of several decimals
with that many digits the one closest to the number is taken. -/

namespace GraphQLTree.Double

/-! ### Reading back

The reals that are rounded to a number form an interval around it. Its ends are half way to the
neighbours, and they belong to it if the number is even in its last binary digit. Four units make
all ends whole. -/

/-- Half the distance to the next lower number, in quarters of a unit. -/
def quarterBelow (units : Nat) : Nat :=
  let k := gapExponent units
  if k ≠ 0 && units == Nat.pow 2 (k + 52) then Nat.pow 2 k else 2 * Nat.pow 2 k

/-- Half the distance to the next higher number, in quarters of a unit. -/
def quarterAbove (units : Nat) : Nat :=
  2 * Nat.pow 2 (gapExponent units)

/-- Whether the number is even in its last binary digit. -/
def isEven (units : Nat) : Bool :=
  units / Nat.pow 2 (gapExponent units) % 2 == 0

/-- `c · 10 ^ exponent` and one, over a common denominator. -/
def scaled (c : Nat) (exponent : Int) : Nat × Nat :=
  if 0 ≤ exponent then (c * Nat.pow 10 exponent.toNat, 1) else (c, Nat.pow 10 exponent.natAbs)

/-- Whether the decimal `c · 10 ^ exponent` reads back as the number. -/
def readsBack (units c : Nat) (exponent : Int) : Bool :=
  let (num, den) := scaled c exponent
  let x := 4 * unitsPerOne * num
  let low := (4 * units - quarterBelow units) * den
  let high := (4 * units + quarterAbove units) * den
  if isEven units then low ≤ x && x ≤ high else low < x && x < high

/-- How far the decimal is from the number; comparable among decimals of one exponent. -/
def errorOf (units c : Nat) (exponent : Int) : Nat :=
  let (num, den) := scaled c exponent
  let x := unitsPerOne * num
  let y := units * den
  max x y - min x y

/-! ### The search -/

/-- How many zeros follow the decimal point of a positive number below one. -/
def leadingZeros (fuel units : Nat) : Nat :=
  match fuel with
  | 0 => 0
  | fuel + 1 => if unitsPerOne ≤ units * 10 then 0 else leadingZeros fuel (units * 10) + 1

/-- The place of the decimal point, counted from the first digit that is not zero. -/
def pointPlace (units : Nat) : Int :=
  if unitsPerOne ≤ units then (Nat.toDigits 10 (units / unitsPerOne)).length
  else -(leadingZeros 400 units)

/-- The decimal of `count` digits that reads back and is closest, if there is one: only the two
neighbours of the number among these decimals come into question. -/
def decimalOf? (units count : Nat) : Option (Nat × Int) :=
  let exponent := pointPlace units - count
  let (num, den) := scaled 1 exponent
  let below := units * den / (unitsPerOne * num)
  let above := below + 1
  match readsBack units below exponent, readsBack units above exponent with
  | true, true =>
    let e := errorOf units below exponent
    let e' := errorOf units above exponent
    some (if e < e' || (e == e' && below % 2 == 0) then below else above, exponent)
  | true, false => some (below, exponent)
  | false, true => some (above, exponent)
  | false, false => none

/-- The shortest decimal of a positive finite number; seventeen digits are always enough. -/
def shortest (units : Nat) : Nat × Int :=
  ((List.range' 1 17).findSome? (decimalOf? units)).getD (0, 0)

/-! ### The written form -/

/-- Trailing zeros of the digits are moved into the exponent. -/
def trimZeros (digits : List Char) : List Char :=
  (digits.reverse.dropWhile (· == '0')).reverse

/-- The digits of a positive number and the place of its decimal point. -/
def digitsOf (units : Nat) : List Char × Int :=
  let (c, exponent) := shortest units
  let digits := Nat.toDigits 10 c
  (trimZeros digits, digits.length + exponent)

/-- At least two digits of an exponent after its sign. -/
def exponentChars (e : Int) : List Char :=
  let digits := Nat.toDigits 10 e.natAbs
  (if e < 0 then '-' else '+') :: (if digits.length < 2 then '0' :: digits else digits)

/-- The form of digits with the decimal point at `point`: positional if the point is no more than 16
digits after and no more than 3 zeros before the first digit, and with an exponent otherwise. A
whole number ends in `.0` if `mark` is set. -/
def writeDigits (mark : Bool) (digits : List Char) (point : Int) : List Char :=
  let whole := if mark then ['.', '0'] else []
  if -4 < point && point ≤ 16 then
    if point ≤ 0 then '0' :: '.' :: (List.replicate point.natAbs '0' ++ digits)
    else if digits.length ≤ point.toNat then
      digits ++ List.replicate (point.toNat - digits.length) '0' ++ whole
    else digits.take point.toNat ++ '.' :: digits.drop point.toNat
  else
    (match digits with
    | [] => []
    | [d] => [d]
    | d :: ds => d :: '.' :: ds) ++ 'e' :: exponentChars (point - 1)

/-- The written form of a number; `mark` ends a whole number with `.0`. -/
def write (mark : Bool) : Double → String
  | nan => "nan"
  | infinite negative => if negative then "-inf" else "inf"
  | finite negative units =>
    let (digits, point) := if units = 0 then (['0'], (1 : Int)) else digitsOf units
    String.ofList ((if negative then ['-'] else []) ++ writeDigits mark digits point)

/-- The written form of a number with real part `re` and imaginary part `im`. -/
def writeComplex (re im : Double) : String :=
  if re.isZero && !re.isNegative then write false im ++ "j"
  else
    let imag := write false im
    "(" ++ write false re ++ (if imag.startsWith "-" then imag else "+" ++ imag) ++ "j)"

end GraphQLTree.Double
