import GraphQLTree.Number.Arithmetic
import GraphQLTree.Number.Shortest

/-! # Numbers with a given precision

A floating-point number is written with a number of places behind the decimal point, with a number
of significant digits, or with as many digits as it takes to read it back; with or without an
exponent. Rounding is exact, and a half goes to the even neighbour. -/

namespace GraphQLTree.Double

/-- How a number is written. -/
inductive Style
  /-- With an exponent and so many places. -/
  | exponent
  /-- Without an exponent and with so many places. -/
  | fixed
  /-- With so many significant digits; an exponent is used if it is large or small. -/
  | general
  /-- With the fewest digits that read back. -/
  | shortest
  deriving DecidableEq, Repr

/-- The digits of a number rounded to `count` significant ones, and the place of its point. -/
def significant (units count : Nat) : List Char × Int :=
  if units = 0 then (['0'], 1)
  else
    let exponent := pointPlace units - count
    let (num, den) := scaled 1 exponent
    let digits := Nat.toDigits 10 (roundHalfEven (units * den) (unitsPerOne * num))
    (trimZeros digits, digits.length + exponent)

/-- The digits of a number rounded to so many places behind the point, and the place of its
point. -/
def rounded (units places : Nat) : List Char × Int :=
  let digits := Nat.toDigits 10 (roundHalfEven (units * Nat.pow 10 places) unitsPerOne)
  (digits, digits.length - places)

/-- Digits with the decimal point at its place and digits up to `stop`; missing ones are zeros. A
point at the end is left out unless it is kept. -/
def placeDigits (digits : List Char) (point stop : Int) (keepPoint : Bool) : List Char :=
  let before := (digits.take point.toNat) ++ List.replicate (point.toNat - digits.length) '0'
  let whole := if point ≤ 0 then ['0'] else before
  let count := (stop - point).toNat
  let rest := List.replicate (-point).toNat '0' ++ digits.drop point.toNat
  let fraction := rest.take count ++ List.replicate (count - rest.length) '0'
  whole ++ (if fraction.isEmpty && !keepPoint then [] else '.' :: fraction)

/-- The digits of a finite number with a precision: `keepPoint` also keeps zeros at the end, and
`mark` adds one to a whole number without an exponent. -/
def writeUnits (style : Style) (precision : Nat) (keepPoint mark : Bool) (units : Nat) :
    List Char :=
  let precision := if style = .general then max precision 1 else precision
  let (digits, point) := match style with
    | .exponent => significant units (precision + 1)
    | .fixed => rounded units precision
    | .general => significant units precision
    | .shortest => if units = 0 then (['0'], (1 : Int)) else digitsOf units
  let exponential := match style with
    | .exponent => true
    | .fixed => false
    | .general => point ≤ -4 || (precision : Int) - (if mark then 1 else 0) < point
    | .shortest => point ≤ -4 || 16 < point
  let least : Int := match style with
    | .exponent => precision + 1
    | .fixed => point + precision
    | .general => if keepPoint then precision else digits.length
    | .shortest => digits.length
  if exponential then
    placeDigits digits 1 (max least 1) keepPoint ++ 'e' :: exponentChars (point - 1)
  else placeDigits digits point (max least (if mark then point + 1 else point)) keepPoint

/-- The digits of a number, without its sign. -/
def writeSize (style : Style) (precision : Nat) (keepPoint mark : Bool) : Double → List Char
  | nan => ['n', 'a', 'n']
  | infinite _ => ['i', 'n', 'f']
  | finite _ units => writeUnits style precision keepPoint mark units

end GraphQLTree.Double
