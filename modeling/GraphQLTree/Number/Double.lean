/-! # Floating-point numbers

A finite number of double precision is a whole number of units of 2 ^ -1074, the smallest positive
one. Counted in these units a number is exact, so comparisons with whole numbers of any size are
exact too. Not a number is unequal to everything, also to itself. -/

namespace GraphQLTree

/-- A floating-point number of double precision; a finite one by its sign and its size in units of
2 ^ -1074. -/
inductive Double
  | nan
  | infinite (negative : Bool)
  | finite (negative : Bool) (units : Nat)
  deriving DecidableEq, Repr, Inhabited

namespace Double

/-- How many units make one. -/
def unitsPerOne : Nat := Nat.pow 2 1074

/-- The exponent of the distance between neighbours around `units`: 53 binary digits are kept. -/
def gapExponent (units : Nat) : Nat :=
  if units = 0 then 0 else Nat.log2 units - 52

/-- The finite numbers are those of fewer than 2 ^ 1024. -/
def overflowUnits : Nat := Nat.pow 2 1024 * unitsPerOne

/-- A quotient rounded to a whole number, a half to the even neighbour. -/
def roundHalfEven (num den : Nat) : Nat :=
  let q := num / den
  let r := num % den
  if den < 2 * r || (2 * r == den && q % 2 == 1) then q + 1 else q

/-- The number closest to `num / den` units; of two that are equally close the even one. -/
def ofUnits (negative : Bool) (num den : Nat) : Double :=
  let gap := Nat.pow 2 (gapExponent (num / den))
  let units := roundHalfEven num (den * gap) * gap
  if overflowUnits ≤ units then infinite negative else finite negative units

/-- The number closest to `digits · 10 ^ exponent`. -/
def ofDecimal (negative : Bool) (digits : Nat) (exponent : Int) : Double :=
  if 0 ≤ exponent then ofUnits negative (digits * Nat.pow 10 exponent.toNat * unitsPerOne) 1
  else ofUnits negative (digits * unitsPerOne) (Nat.pow 10 exponent.natAbs)

/-- Zero of either sign. -/
def isZero : Double → Bool
  | finite _ 0 => true
  | _ => false

/-- Whether the sign is minus; not a number counts as positive. -/
def isNegative : Double → Bool
  | nan => false
  | infinite negative => negative
  | finite negative _ => negative

/-- The number closest to a whole number of units; zero is positive. -/
def ofCount (count : Int) : Double :=
  ofUnits (decide (count < 0)) count.natAbs 1

/-- The number closest to a whole number. -/
def ofInt (n : Int) : Double :=
  ofCount (n * unitsPerOne)

/-- The sum of two numbers, rounded to the closest one. Two negative zeros give a negative zero. -/
def add : Double → Double → Double
  | nan, _ => nan
  | _, nan => nan
  | infinite a, infinite b => if a = b then infinite a else nan
  | infinite a, finite _ _ => infinite a
  | finite _ _, infinite b => infinite b
  | finite true 0, finite true 0 => finite true 0
  | finite a m, finite b n =>
    ofCount ((if a then -(m : Int) else m) + (if b then -(n : Int) else n))

end Double

/-! ### Exact quantities -/

/-- The exact value of a number, in units of 2 ^ -1074. Both zeros are the same quantity. -/
inductive Quantity
  | undefined
  | infinite (negative : Bool)
  | units (count : Int)
  deriving DecidableEq, Repr

/-- The quantity of a floating-point number. -/
def Double.quantity : Double → Quantity
  | nan => .undefined
  | infinite negative => .infinite negative
  | finite negative units => .units (if negative then -units else units)

/-- The quantity of a whole number. -/
def Quantity.ofInt (n : Int) : Quantity :=
  .units (n * Double.unitsPerOne)

/-- Equality of quantities; what is undefined equals nothing. -/
def Quantity.equal : Quantity → Quantity → Bool
  | .undefined, _ => false
  | _, .undefined => false
  | a, b => a == b

/-! ### Digests of numbers

Numbers that are equal have the same digest, of whatever type they are: whole numbers and fractions
are taken modulo the prime 2 ^ 61 - 1 with the sign of the number, and -1 is never used. -/

/-- The modulus of the digests. -/
def digestPrime : Nat := Nat.pow 2 61 - 1

/-- The value -1 is replaced by -2. -/
def avoidMinusOne (n : Int) : Int :=
  if n = -1 then -2 else n

/-- The digest of a quantity. A unit is 2 ^ -1074, which is 2 ^ 24 modulo 2 ^ 61 - 1. -/
def Quantity.digest : Quantity → Int
  | .undefined => 0
  | .infinite negative => if negative then -314159 else 314159
  | .units count =>
    let residue : Int := (count.natAbs * Nat.pow 2 24 % digestPrime : Nat)
    avoidMinusOne (if count < 0 then -residue else residue)

/-- The sum of a number's digest and 1000003 times another's, in 64 bits. -/
def combineDigests (re im : Int) : Int :=
  avoidMinusOne (Int.bmod (re + 1000003 * im) (Nat.pow 2 64))

end GraphQLTree
