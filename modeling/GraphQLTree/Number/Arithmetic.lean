import GraphQLTree.Number.Double

/-! # Arithmetic

Whole numbers of any size have the operations on their binary digits too, where a negative number
has infinitely many leading ones. Floating-point numbers are calculated exactly and then rounded to
the closest number of double precision. -/

namespace GraphQLTree

/-! ### Binary digits -/

namespace Whole

/-- The number with the other binary digits. -/
def complement (n : Int) : Int :=
  -n - 1

/-- The binary digits that both numbers have. -/
def both (m n : Int) : Int :=
  let a := m.natAbs
  let b := n.natAbs
  match decide (m < 0), decide (n < 0) with
  | false, false => (a &&& b : Nat)
  | false, true => (a ^^^ (a &&& (b - 1)) : Nat)
  | true, false => (b ^^^ (b &&& (a - 1)) : Nat)
  | true, true => complement ((a - 1) ||| (b - 1) : Nat)

/-- The binary digits that one of two numbers has. -/
def either (m n : Int) : Int :=
  complement (both (complement m) (complement n))

/-- The binary digits that exactly one of two numbers has. -/
def exactlyOne (m n : Int) : Int :=
  both (either m n) (complement (both m n))

/-- The number of binary digits. -/
def bitLength (n : Int) : Nat :=
  if n = 0 then 0 else Nat.log2 n.natAbs + 1

/-- How many of the lowest `count` binary digits are ones. -/
def onesAmong (count n : Nat) : Nat :=
  ((List.range count).filter n.testBit).length

/-- How many binary digits of the size of a number are ones. -/
def bitCount (n : Int) : Nat :=
  onesAmong (bitLength n) n.natAbs

/-- A number moved by so many binary places down; what falls off is dropped. -/
def shiftDown (n : Int) (places : Nat) : Int :=
  if bitLength n < places then (if n < 0 then -1 else 0)
  else n.fdiv (Nat.pow 2 places : Nat)

/-- A number rounded to a multiple of a power of ten, a half to the even multiple. -/
def roundToTens (n : Int) (places : Nat) : Int :=
  let unit := Nat.pow 10 places
  let rounded : Int := (Double.roundHalfEven n.natAbs unit * unit : Nat)
  if n < 0 then -rounded else rounded

/-- The power of a number modulo another one that is positive, by the binary digits of the
exponent. -/
def powerModulo (base : Int) (modulus : Nat) : (fuel exponent : Nat) → Int
  | 0, _ => 1 % modulus
  | _, 0 => 1 % modulus
  | fuel + 1, exponent =>
    let half := powerModulo base modulus fuel (exponent / 2)
    if exponent % 2 = 1 then half * half % modulus * base % modulus else half * half % modulus

/-- The factors of two numbers that give their greatest common divisor. -/
def commonDivisor : (fuel : Nat) → Int → Int → Int × Int × Int
  | 0, a, _ => (a, 1, 0)
  | fuel + 1, a, b =>
    if b = 0 then (a, 1, 0)
    else
      let (d, x, y) := commonDivisor fuel b (a % b)
      (d, y, x - a / b * y)

/-- The number that gives one when it is multiplied by a number modulo another, if there is one. -/
def inverse? (n : Int) (modulus : Nat) : Option Int :=
  let m : Int := modulus
  let (d, x, _) := commonDivisor (2 * bitLength m + 2) (n % m) m
  if d = 1 then some (x % m) else none

end Whole

/-! ### Floating-point numbers -/

namespace Double

/-- Zero. -/
def zero : Double := finite false 0

/-- One. -/
def one : Double := finite false unitsPerOne

/-- The number of the other sign. -/
def neg : Double → Double
  | nan => nan
  | infinite negative => infinite !negative
  | finite negative units => finite (!negative) units

/-- The size of a number. -/
def abs : Double → Double
  | nan => nan
  | infinite _ => infinite false
  | finite _ units => finite false units

/-- The difference of two numbers. -/
def sub (x y : Double) : Double :=
  add x (neg y)

/-- The product of two numbers. -/
def mul : Double → Double → Double
  | nan, _ => nan
  | _, nan => nan
  | infinite a, infinite b => infinite (a != b)
  | infinite a, finite b n => if n = 0 then nan else infinite (a != b)
  | finite a m, infinite b => if m = 0 then nan else infinite (a != b)
  | finite a m, finite b n => ofUnits (a != b) (m * n) unitsPerOne

/-- The quotient of two numbers, where the second one is not zero. -/
def div : Double → Double → Double
  | nan, _ => nan
  | _, nan => nan
  | infinite _, infinite _ => nan
  | infinite a, finite b _ => infinite (a != b)
  | finite a _, infinite b => finite (a != b) 0
  | finite a m, finite b n => ofUnits (a != b) (m * unitsPerOne) n

/-- What is left of the first number when the second one, which is not zero, is taken from it as
often as possible; it has the sign of the first one. -/
def remainder : Double → Double → Double
  | finite a m, finite _ n => finite a (m % n)
  | finite a m, infinite _ => finite a m
  | _, _ => nan

/-- Whether a number is less than zero. -/
def isBelowZero (x : Double) : Bool :=
  x.isNegative && !x.isZero

/-- Whether a number is beyond all others. -/
def isInfinite : Double → Bool
  | infinite _ => true
  | _ => false

/-- Zero with the sign of a number. -/
def zeroLike (x : Double) : Double :=
  finite x.isNegative 0

/-- The largest whole number that is not above a finite number; zero for others. -/
def floorInt : Double → Int
  | finite negative units => (if negative then -(units : Int) else units).fdiv unitsPerOne
  | _ => 0

/-- The smallest whole number that is not below a finite number; zero for others. -/
def ceilInt (x : Double) : Int :=
  -(floorInt x.neg)

/-- The whole number closest to a finite number, a half to the even one; zero for others. -/
def roundInt : Double → Int
  | finite negative units =>
    let n : Int := (roundHalfEven units unitsPerOne : Nat)
    if negative then -n else n
  | _ => 0

/-- The number as a floating-point number whose fraction is dropped downwards. -/
def floor : Double → Double
  | finite negative units =>
    if units % unitsPerOne = 0 then finite negative units
    else ofInt (floorInt (finite negative units))
  | x => x

/-- The quotient of two numbers, the second of which is not zero, as a whole number that is not
above it, and what is left, which has the sign of the second one. -/
def divMod (x y : Double) : Double × Double :=
  let rest := remainder x y
  let quotient := div (sub x rest) y
  let half := ofUnits false unitsPerOne 2
  let (quotient, rest) :=
    if rest.isZero then (quotient, zeroLike y)
    else if y.isBelowZero != rest.isBelowZero then (sub quotient one, add rest y)
    else (quotient, rest)
  if quotient.isZero then (zeroLike (div x y), rest)
  else
    let whole := floor quotient
    match sub (sub quotient whole) half with
    | finite false units => (if units = 0 then whole else add whole one, rest)
    | _ => (whole, rest)

/-- A number rounded to so many decimal places, a half to the even neighbour. Places before the
point are negative. -/
def roundTo (places : Int) : Double → Double
  | finite negative units =>
    if 323 < places then finite negative units
    else if places < -309 then finite negative 0
    else
      let n := if 0 ≤ places then
          roundHalfEven (units * Nat.pow 10 places.toNat) unitsPerOne
        else roundHalfEven units (unitsPerOne * Nat.pow 10 places.natAbs)
      ofDecimal negative n (-places)
  | x => x

/-- The quotient of two whole numbers, the second of which is not zero. -/
def ofQuotient (m n : Int) : Double :=
  ofUnits (decide (m < 0) != decide (n < 0)) (m.natAbs * unitsPerOne) n.natAbs

/-- The smallest numbers of which a finite number is the quotient. -/
def ratio (negative : Bool) (units : Nat) : Int × Nat :=
  let d := Nat.gcd units unitsPerOne
  let n : Int := (units / d : Nat)
  (if negative then -n else n, unitsPerOne / d)

/-! ### Powers and roots -/

/-- The pattern of 64 binary digits of a number. -/
def toBits : Double → UInt64
  | nan => 0x7FF8000000000000
  | infinite negative => if negative then 0xFFF0000000000000 else 0x7FF0000000000000
  | finite negative units =>
    let sign := if negative then Nat.pow 2 63 else 0
    let low := Nat.pow 2 52
    let e := gapExponent units
    let size := if units < low then units else (e + 1) * low + (units / Nat.pow 2 e - low)
    UInt64.ofNat (sign + size)

/-- The number of a pattern of 64 binary digits. -/
def ofBits (bits : UInt64) : Double :=
  let n := bits.toNat
  let low := Nat.pow 2 52
  let negative := decide (Nat.pow 2 63 ≤ n)
  let e := n / low % 2048
  let m := n % low
  if e = 2047 then (if m = 0 then infinite negative else nan)
  else if e = 0 then finite negative m
  else finite negative ((low + m) * Nat.pow 2 (e - 1))

/-- A number as one that the machine calculates with. -/
def toMachine (x : Double) : Float :=
  Float.ofBits x.toBits

/-- The number that the machine calculates with. -/
def ofMachine (x : Float) : Double :=
  ofBits x.toBits

/-- The power of a number. -/
def pow (x y : Double) : Double :=
  ofMachine (Float.pow x.toMachine y.toMachine)

/-- The largest number of at most `places` binary digits whose square is not above `n`, added to
`root`. -/
def rootFrom (n : Nat) : (places root : Nat) → Nat
  | 0, root => root
  | places + 1, root =>
    let next := root + Nat.pow 2 places
    rootFrom n places (if next * next ≤ n then next else root)

/-- The length of the diagonal of two sides. -/
def hypotenuse : Double → Double → Double
  | infinite _, _ => infinite false
  | _, infinite _ => infinite false
  | finite _ m, finite _ n =>
    let square := m * m + n * n
    let root := rootFrom square (Nat.log2 square / 2 + 1) 0
    if root * root = square then ofUnits false root 1 else ofUnits false (2 * root + 1) 2
  | _, _ => nan

/-! ### In hexadecimal -/

/-- The digits of a number in base 16, so many of them. -/
def hexFraction (n : Nat) : List Char :=
  let digits := Nat.toDigits 16 n
  List.replicate (13 - digits.length) '0' ++ digits

/-- A number in base 16 with a binary exponent. -/
def writeHex : Double → String
  | nan => "nan"
  | infinite negative => if negative then "-inf" else "inf"
  | finite negative 0 => if negative then "-0x0.0p+0" else "0x0.0p+0"
  | finite negative units =>
    let low := Nat.pow 2 52
    let e := gapExponent units
    let (lead, fraction) := if units < low then ("0", units)
      else ("1", units / Nat.pow 2 e - low)
    let exponent : Int := (e : Int) - 1022
    (if negative then "-" else "") ++ "0x" ++ lead ++ "." ++ String.ofList (hexFraction fraction) ++
      "p" ++ (if exponent < 0 then "-" else "+") ++ toString exponent.natAbs

end Double
end GraphQLTree
