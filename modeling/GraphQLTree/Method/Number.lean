import GraphQLTree.Behaviour.Arguments
import GraphQLTree.Behaviour.Collection
import GraphQLTree.Behaviour.Sum
import GraphQLTree.Number.Arithmetic

/-! # Methods of numbers

The operations behind the arithmetic operators, and the methods of whole, floating-point and complex
numbers. A type of numbers knows the numbers of its own and of narrower types; with any other value
it leaves the answer open. -/

namespace GraphQLTree

/-- An operation on two numbers. -/
inductive Operation
  | sum
  | difference
  | product
  | quotient
  | wholeQuotient
  | remainder
  /-- The whole quotient and the remainder. -/
  | division
  | power
  | both
  | either
  | exactlyOne
  | shiftUp
  | shiftDown
  deriving DecidableEq, Repr

/-- The operations by the names that stand between the underscores. -/
def Operation.names : List (String × Operation) :=
  [("add", sum), ("sub", difference), ("mul", product), ("truediv", quotient),
   ("floordiv", wholeQuotient), ("mod", remainder), ("divmod", division), ("pow", power),
   ("and", both), ("or", either), ("xor", exactlyOne), ("lshift", shiftUp), ("rshift", shiftDown)]

/-- The operation that a name stands for, and whether its operands are exchanged. -/
def Operation.ofName? (name : String) : Option (Operation × Bool) :=
  names.findSome? fun (n, op) =>
    if name = "__" ++ n ++ "__" then some (op, false)
    else if name = "__r" ++ n ++ "__" then some (op, true)
    else none

namespace Action

/-- Reports a division by zero. -/
def divisionByZero {α : Type} (text : String) : Action α :=
  fail (.other .zeroDivision text)

/-! ### Whole numbers -/

/-- The most binary digits that a number may have. -/
def bitLimit : Nat := 100000000

/-- The power of a number with an exponent that is not negative. -/
def wholePower (m : Int) (n : Nat) : Action Value :=
  if Whole.bitLength m ≤ 1 || Whole.bitLength m * n ≤ bitLimit then
    if m = 0 || m = 1 then return .int (if n = 0 then 1 else m)
    else if m = -1 then return .int (if n % 2 = 0 then 1 else -1)
    else return .int (Int.pow m n)
  else throw .tooDeep

/-- The power of a number modulo another; a negative exponent asks for an inverse. -/
def modularPower (m n modulus : Int) : Action Value := do
  if modulus = 0 then fail (.other .badValue "pow() 3rd argument cannot be 0")
  let size := modulus.natAbs
  let base ← if 0 ≤ n then pure m
    else match Whole.inverse? m size with
      | some x => pure x
      | none => fail (.other .badValue "base is not invertible for the given modulus")
  let x := Whole.powerModulo base size (Whole.bitLength n + 1) n.natAbs
  return .int (if modulus < 0 && x ≠ 0 then x + modulus else x)

/-- The power of a floating-point number. -/
def realPower (x y : Double) : Action Double := do
  if y.isZero then return .one
  if x.isZero && !y.isInfinite && y.isBelowZero then
    divisionByZero "0.0 cannot be raised to a negative power"
  let z := x.pow y
  match x, y, z with
  | .finite _ _, .finite _ _, .infinite _ =>
    fail (.other .overflow "(34, 'Numerical result out of range')")
  | _, _, _ => return z

/-- The outcome of an operation on whole numbers. -/
def onWholes (op : Operation) (m n : Int) : Action Value := do
  match op with
  | .sum => return .int (m + n)
  | .difference => return .int (m - n)
  | .product => return .int (m * n)
  | .quotient =>
    if n = 0 then divisionByZero "division by zero"
    else match Double.ofQuotient m n with
      | .infinite _ => fail (.other .overflow "integer division result too large for a float")
      | x => Effect.float x
  | .wholeQuotient =>
    if n = 0 then divisionByZero "integer division or modulo by zero"
    else return .int (m.fdiv n)
  | .remainder =>
    if n = 0 then divisionByZero "integer modulo by zero" else return .int (m.fmod n)
  | .division =>
    if n = 0 then divisionByZero "integer division or modulo by zero"
    else Effect.tuple [.int (m.fdiv n), .int (m.fmod n)]
  | .power =>
    if 0 ≤ n then wholePower m n.toNat
    else do Effect.float (← realPower (← toDouble m) (← toDouble n))
  | .both => return .int (Whole.both m n)
  | .either => return .int (Whole.either m n)
  | .exactlyOne => return .int (Whole.exactlyOne m n)
  | .shiftUp =>
    if n < 0 then fail (.other .badValue "negative shift count")
    else if m = 0 then return .int 0
    else if (bitLimit : Int) < n then fail (.other .overflow "too many digits in integer")
    else return .int (m * (Nat.pow 2 n.toNat : Nat))
  | .shiftDown =>
    if n < 0 then fail (.other .badValue "negative shift count")
    else return .int (Whole.shiftDown m n.toNat)

/-! ### Complex numbers -/

/-- A complex number by its real and its imaginary part. -/
abbrev Complex := Double × Double

/-- The product of two complex numbers. -/
def complexProduct (x y : Complex) : Complex :=
  ((x.1.mul y.1).sub (x.2.mul y.2), (x.1.mul y.2).add (x.2.mul y.1))

/-- Whether the size of a number is not below that of another. -/
def isAsLarge (x y : Double) : Bool :=
  match x.abs, y.abs with
  | .nan, _ => false
  | _, .nan => false
  | .infinite _, _ => true
  | _, .infinite _ => false
  | .finite _ m, .finite _ n => n ≤ m

/-- The quotient of two complex numbers; none if the second one is zero. -/
def complexQuotient? (x y : Complex) : Option Complex :=
  if isAsLarge y.1 y.2 then
    if y.1.isZero then none
    else
      let ratio := y.2.div y.1
      let size := y.1.add (y.2.mul ratio)
      some ((x.1.add (x.2.mul ratio)).div size, (x.2.sub (x.1.mul ratio)).div size)
  else if isAsLarge y.2 y.1 then
    let ratio := y.1.div y.2
    let size := (y.1.mul ratio).add y.2
    some (((x.1.mul ratio).add x.2).div size, ((x.2.mul ratio).sub x.1).div size)
  else some (.nan, .nan)

/-- The power of a complex number with a whole exponent, by its binary digits: `x` is the power for
the current digit and `done` the product so far. -/
def complexPower (fuel n : Nat) (x done : Complex) : Complex :=
  match fuel with
  | 0 => done
  | fuel + 1 =>
    if n = 0 then done
    else
      let done := if n % 2 = 1 then complexProduct done x else done
      complexPower fuel (n / 2) (complexProduct x x) done

/-- The power of a complex number by its length and its angle; none if its angle is not bounded. -/
def polarPower? (x y : Complex) : Option Complex :=
  let size := (x.1.hypotenuse x.2).toMachine
  let angle := Float.atan2 x.2.toMachine x.1.toMachine
  let re := y.1.toMachine
  let im := y.2.toMachine
  let length := Float.pow size re
  let phase := angle * re
  let (length, phase) := if y.2.isZero then (length, phase)
    else (length / Float.exp (angle * im), phase + im * Float.log size)
  if phase.isInf then none
  else some (.ofMachine (length * Float.cos phase), .ofMachine (length * Float.sin phase))

/-- Whether a part of a complex number is too large. -/
def isUnbounded (x : Complex) : Bool :=
  match x with
  | (.infinite _, _) | (_, .infinite _) => true
  | _ => false

/-- The power of a complex number. -/
def powerOfComplex (x y : Complex) : Action Complex := do
  let undefinedPower : Action Complex := divisionByZero "0.0 to a negative or complex power"
  let small := y.2.isZero && y.1.floor == y.1 && isAsLarge (.ofInt 100) y.1
  let n := y.1.roundInt
  let power := complexPower 8 n.natAbs x (.one, .zero)
  let z ← if small then
      if 0 < n then pure power
      else match complexQuotient? (.one, .zero) power with
        | some z => pure z
        | none => undefinedPower
    else if x.1.isZero && x.2.isZero then
      if !y.2.isZero || y.1.isBelowZero then undefinedPower else pure (.zero, .zero)
    else match polarPower? x y with
      | some z => pure z
      | none => undefinedPower
  if isUnbounded z then fail (.other .overflow "complex exponentiation") else return z

/-- The outcome of an operation on complex numbers. -/
def onComplex (op : Operation) (x y : Complex) : Action Value := do
  let made (z : Complex) : Action Value := Effect.complex z.1 z.2
  match op with
  | .sum => made (x.1.add y.1, x.2.add y.2)
  | .difference => made (x.1.sub y.1, x.2.sub y.2)
  | .product => made (complexProduct x y)
  | .quotient =>
    match complexQuotient? x y with
    | some z => made z
    | none => divisionByZero "complex division by zero"
  | .power => made (← powerOfComplex x y)
  | _ => return .undecided

/-! ### Floating-point numbers -/

/-- The outcome of an operation on floating-point numbers. -/
def onDoubles (op : Operation) (x y : Double) : Action Value := do
  match op with
  | .sum => Effect.float (x.add y)
  | .difference => Effect.float (x.sub y)
  | .product => Effect.float (x.mul y)
  | .quotient =>
    if y.isZero then divisionByZero "float division by zero" else Effect.float (x.div y)
  | .wholeQuotient =>
    if y.isZero then divisionByZero "float floor division by zero"
    else Effect.float (x.divMod y).1
  | .remainder =>
    if y.isZero then divisionByZero "float modulo" else Effect.float (x.divMod y).2
  | .division =>
    if y.isZero then divisionByZero "float divmod()"
    else
      let (quotient, rest) := x.divMod y
      Effect.tuple [← Effect.float quotient, ← Effect.float rest]
  | .power =>
    match x, y with
    | .finite true _, .finite _ _ =>
      if x.isZero || y.floor == y then Effect.float (← realPower x y)
      else onComplex .power (x, .zero) (y, .zero)
    | _, _ => do Effect.float (← realPower x y)
  | _ => return .undecided

/-! ### All numbers -/

/-- Whether a type of numbers knows a value: those of wider types are left to them. -/
def knowsNumber (t : BasicType) (v : Value) : Bool :=
  match t, v with
  | .int, v | .bool, v => v.whole?.isSome
  | .float, .complex _ _ _ => false
  | .float, v | .complex, v => v.quantities?.isSome
  | _, _ => true

/-- The outcome of an operation of a type of numbers. -/
def operate (t : BasicType) (op : Operation) (a b : Value) : Action Value := do
  if !knowsNumber t a || !knowsNumber t b then return .undecided
  match t, a, b, a.whole?, b.whole? with
  | .bool, .bool x, .bool y, _, _ =>
    match op with
    | .both => return .bool (x && y)
    | .either => return .bool (x || y)
    | _ => return .bool (x != y)
  | .float, _, _, _, _ | .complex, _, _, _, _ =>
    match ← parts? a, ← parts? b with
    | some x, some y => if t = .complex then onComplex op x y else onDoubles op x.1 y.1
    | _, _ => return .undecided
  | _, _, _, some m, some n => onWholes op m n
  | _, _, _, _, _ => return .undecided

/-- The outcome of a power with a third operand. -/
def operateModulo (t : BasicType) (a b modulus : Value) : Action Value := do
  if modulus = .null then operate t .power a b
  else if t = .float then
    fail (.other .badType "pow() 3rd argument not allowed unless all arguments are integers")
  else match a.whole?, b.whole?, modulus.whole? with
    | some m, some n, some k => modularPower m n k
    | _, _, _ =>
      if t = .complex && knowsNumber t a && knowsNumber t b then
        fail (.other .badValue "complex modulo")
      else return .undecided

/-- What an operator of a type of numbers does with its other operands. -/
def numberOperator (t : BasicType) (op : Operation) (exchanged : Bool) (v : Value)
    (args : List Value) : Action Value := do
  match args with
  | [x] => if exchanged then operate t op x v else operate t op v x
  | [x, modulus] => if exchanged then operateModulo t x v modulus else operateModulo t v x modulus
  | _ => return .undecided

/-- A number of a narrower type as one of the type itself. -/
def plainNumber (v : Value) : Value :=
  match v.whole? with
  | some n => .int n
  | none => v

/-- A floating-point number as a whole number, by a rule for finite ones. -/
def wholeBy (rule : Double → Int) (x : Double) : Action Value :=
  match x with
  | .nan => fail (.other .badValue "cannot convert float NaN to integer")
  | .infinite _ => fail (.other .overflow "cannot convert float infinity to integer")
  | x => return .int (rule x)

/-- A floating-point number without its fraction. -/
def truncateInt (x : Double) : Int :=
  if x.isNegative then x.ceilInt else x.floorInt

/-- What an operator with one operand does with a number. -/
def numberSign (name : String) (v : Value) : Action Value := do
  match name, v, v.whole? with
  | "__neg__", _, some n => return .int (-n)
  | "__abs__", _, some n => return .int n.natAbs
  | "__invert__", _, some n => return .int (Whole.complement n)
  | "__float__", _, some n => do Effect.float (← toDouble n)
  | "__neg__", .float x _, _ => Effect.float x.neg
  | "__abs__", .float x _, _ => Effect.float x.abs
  | "__int__", .float x _, _ => wholeBy truncateInt x
  | "__neg__", .complex re im _, _ => Effect.complex re.neg im.neg
  | "__abs__", .complex re im _, _ => Effect.float (re.hypotenuse im)
  | _, _, _ => return plainNumber v

/-! ### Methods -/

/-- The number of arguments that a method of a number takes. -/
def numberArity : String → Arity
  | "__round__" => .between 0 1
  | "to_bytes" => .any
  | "__format__" => .one
  | _ => .none

/-- The bytes of a number, so many of them, the largest first; none if they are too few. -/
def bytesOfNumber? (n size : Nat) : Option (List UInt8) :=
  if Nat.pow 256 size ≤ n then none
  else some ((List.range size).reverse.map fun i => UInt8.ofNat (n / Nat.pow 256 i % 256))

/-- Whether the largest byte comes first, by a word for it. -/
def byteOrder (method : String) (v : Value) : Action Bool := do
  match v with
  | .text "big" => return true
  | .text "little" => return false
  | .text _ => fail (.other .badValue "byteorder must be either 'little' or 'big'")
  | v =>
    fail (.other .badType (method ++ "() argument 'byteorder' must be str, not " ++
      (← argumentType v)))

/-- A whole number as bytes. -/
def wholeToBytes (n : Int) (args : List Value) : Action Value := do
  ofExcept ((Arity.parsed 0 3).check "to_bytes" "to_bytes" args.length)
  ofExcept ((Arity.positional 0 2).check "to_bytes" "to_bytes" args.length)
  let size ← match args[0]? with
    | some v => wholeArgument v
    | none => pure 1
  let largestFirst ← match args[1]? with
    | some v => byteOrder "to_bytes" v
    | none => pure true
  if size < 0 then fail (.other .badValue "length argument must be non-negative")
  if n < 0 then fail (.other .overflow "can't convert negative int to unsigned")
  match bytesOfNumber? n.toNat size.toNat with
  | some bs => return .bytes (if largestFirst then bs else bs.reverse)
  | none => fail (.other .overflow "int too big to convert")

/-- A whole number rounded to so many decimal places. -/
def roundWhole (n : Int) (args : List Value) : Action Value := do
  match args with
  | [] => return .int n
  | v :: _ =>
    match v.whole? with
    | none => failOn .notInteger v
    | some places =>
      if 0 ≤ places then return .int n
      else if places < -100000 then return .int 0
      else return .int (Whole.roundToTens n places.natAbs)

/-- A floating-point number rounded to so many decimal places, or to a whole number. -/
def roundReal (v : Value) (x : Double) (args : List Value) : Action Value := do
  match args with
  | [] | [.null] => wholeBy Double.roundInt x
  | places :: _ =>
    match places.whole?, x with
    | none, _ => failOn .notInteger places
    | some n, .finite _ _ =>
      match x.roundTo n with
      | .infinite _ => fail (.other .overflow "rounded value too large to represent")
      | y => Effect.float y
    | some _, _ => return v

/-- The two whole numbers of which a floating-point number is the quotient. -/
def ratioOf (x : Double) : Action Value :=
  match x with
  | .nan => fail (.other .badValue "cannot convert NaN to integer ratio")
  | .infinite _ => fail (.other .overflow "cannot convert Infinity to integer ratio")
  | .finite negative units =>
    let (m, n) := Double.ratio negative units
    Effect.tuple [.int m, .int n]

/-- What a method of a number does. -/
def numberMethod (v : Value) (name : String) (args : List Value) : Action Value := do
  match name, v, v.whole? with
  | "bit_length", _, some n => return .int (Whole.bitLength n)
  | "bit_count", _, some n => return .int (Whole.bitCount n)
  | "as_integer_ratio", _, some n => Effect.tuple [.int n, .int 1]
  | "to_bytes", _, some n => wholeToBytes n args
  | "__round__", _, some n => roundWhole n args
  | "__getnewargs__", _, some n => Effect.tuple [.int n]
  | _, _, some n => return .int n
  | "__trunc__", .float x _, _ => wholeBy truncateInt x
  | "__floor__", .float x _, _ => wholeBy Double.floorInt x
  | "__ceil__", .float x _, _ => wholeBy Double.ceilInt x
  | "__round__", .float x _, _ => roundReal v x args
  | "as_integer_ratio", .float x _, _ => ratioOf x
  | "hex", .float x _, _ => return .text x.writeHex
  | "is_integer", .float (.finite _ units) _, _ =>
    return .bool (units % Double.unitsPerOne = 0)
  | "is_integer", .float _ _, _ => return .bool false
  | "__getnewargs__", .float x _, _ => do Effect.tuple [← Effect.float x]
  | "conjugate", .complex re im _, _ => Effect.complex re im.neg
  | "__getnewargs__", .complex re im _, _ => do Effect.tuple [← Effect.float re, ← Effect.float im]
  | _, _, _ => return v

end Action
end GraphQLTree
