import GraphQLTree.Method.Number
import GraphQLTree.Method.Text
import GraphQLTree.Number.Reading
import GraphQLTree.Version

/-! # Conversions

The types of numbers, texts and bytes convert what they are called with: numbers are read from
texts, texts are written by other values, and bytes come from numbers or from an encoded text. -/

namespace GraphQLTree.Action

/-! ### Checking arguments -/

/-- Refuses arguments by name. -/
def refuseNamed (function : String) (named : Attrs) : Action Unit :=
  if named.isEmpty then return () else fail (.noKeywords function)

/-- Refuses arguments with names that a type does not know. -/
def refuseUnknown (type : String) (named : Attrs) : Action Unit :=
  match named.head? with
  | some (name, _) =>
    fail (.other .badType ("'" ++ name ++ "' is an invalid keyword argument for " ++ type ++ "()"))
  | none => return ()

/-- Checks that there is at most one argument, and none by name. -/
def atMostOne (type : String) (args : List Value) (named : Attrs) : Action Unit := do
  refuseNamed type named
  ofExcept ((Arity.between 0 1).check type type args.length)

/-- Checks that there are not more arguments than a type knows the names of. -/
def atMost (count : Nat) (type : String) (args : List Value) : Action Unit :=
  if args.length ≤ count then return ()
  else
    fail (.other .badType (type ++ "() takes at most " ++ toString count ++ " arguments (" ++
      toString args.length ++ " given)"))

/-! ### Whole numbers -/

/-- Characters that stand for bytes, where no byte outside ASCII is a blank. -/
def numeralChars (bs : List UInt8) : List Char :=
  bs.map fun b => if b < 128 then Char.ofNat b.toNat else '?'

/-- The whole number written by a text; `shown` is the text in messages. -/
def readWhole (base : Nat) (s : List Char) (shown : String) : Action Value := do
  let bad := fail (.other .badValue ("invalid literal for int() with base " ++ toString base ++
    ": " ++ String.ofList (shown.toList.take 200)))
  match Whole.scan? base s with
  | none => bad
  | some w =>
    if w.isCostly && Version.digitLimit < w.digits.length then fail (.tooManyDigits w.digits.length)
    else if w.isValid then return .int w.value
    else bad

/-- The whole number written by a text or by bytes, if a value is one of them. -/
def readWhole? (base : Nat) (v : Value) : Action (Option Value) := do
  match v, bytes? (← get) v with
  | .text t, _ => some <$> readWhole base t.toList (Text.quote t)
  | _, some bs => some <$> readWhole base (numeralChars bs) (← written (.bytes (bs.take 200)))
  | _, none => return none

/-- The whole number that a value stands for. -/
def wholeOf (v : Value) : Action Value := do
  match v, v.whole? with
  | _, some n => return .int n
  | .float x _, none => wholeBy truncateInt x
  | _, none =>
    match ← readWhole? 10 v with
    | some n => return n
    | none =>
      failNaming
        "int() argument must be a string, a bytes-like object or a real number, not '" v 200 "'"

/-- The whole number written in a base. -/
def wholeInBase (v base : Value) : Action Value := do
  match base.whole? with
  | none => failOn .notInteger base
  | some n =>
    if n < 0 || n = 1 || 36 < n then
      fail (.other .badValue "int() base must be >= 2 and <= 36, or 0")
    match ← readWhole? n.toNat v with
    | some n => return n
    | none => fail (.other .badType "int() can't convert non-string with explicit base")

/-- A new whole number. -/
def makeWhole (args : List Value) (named : Attrs) : Action Value := do
  refuseUnknown "int" named
  atMost 2 "int" args
  match args with
  | [] => return .int 0
  | [v] => wholeOf v
  | v :: base :: _ => wholeInBase v base

/-! ### Other numbers -/

/-- The floating-point number of a number, if a value is one. -/
def doubleOf? (v : Value) : Action (Option Double) := do
  match v, v.whole? with
  | .float x _, _ => return some x
  | _, some n => do return some (← toDouble n)
  | _, none => return none

/-- A new floating-point number. -/
def makeFloat (args : List Value) (named : Attrs) : Action Value := do
  atMostOne "float" args named
  match args with
  | [] => Effect.float (.finite false 0)
  | v :: _ =>
    let chars? := match v, bytes? (← get) v with
      | .text t, _ => some t.toList
      | _, bs? => bs?.map numeralChars
    match v, ← doubleOf? v, chars? with
    | .float _ _, _, _ => return v
    | _, some x, _ => Effect.float x
    | _, none, some cs =>
      match Reading.double? cs with
      | some x => Effect.float x
      | none => do fail (.invalidNumber (← written v))
    | _, none, none =>
      failNaming "float() argument must be a string or a real number, not '" v 200 "'"

/-- The complex number that a text writes. -/
def readComplex (t : String) : Action Value := do
  match Reading.dropUnderscores ' ' (t.toList.map Reading.plain) with
  | none =>
    fail (.other .badValue ("could not convert string to complex: " ++ Text.quote t))
  | some cs =>
    match Reading.complex? cs with
    | some (re, im) => Effect.complex re im
    | none => fail (.other .badValue "complex() arg is a malformed string")

/-- The parts of a number that a complex number is made of, if a value is a number. -/
def complexOf? (v : Value) : Action (Option (Double × Double)) := do
  match v with
  | .complex re im _ => return some (re, im)
  | _ => return (← doubleOf? v).map (·, .finite false 0)

/-- A new complex number: the sum of a number and of another one times the imaginary unit. -/
def makeComplex (args : List Value) (named : Attrs) : Action Value := do
  refuseUnknown "complex" named
  atMost 2 "complex" args
  let zero := Double.finite false 0
  match args with
  | [] => Effect.complex zero zero
  | [.complex re im tag] => return .complex re im tag
  | [.text t] => readComplex t
  | .text _ :: _ =>
    fail (.other .badType "complex() can't take second arg if first is a string")
  | [_, .text _] => fail (.other .badType "complex() second arg can't be a string")
  | v :: more =>
    let isNumber (v : Value) : Bool := match v with
      | .float _ _ | .complex _ _ _ => true
      | v => v.whole?.isSome
    if !isNumber v then
      failNaming "complex() first argument must be a string or a number, not '" v 200 "'"
    match more.head? with
    | none =>
      let (re, im) := (← complexOf? v).getD (zero, zero)
      Effect.complex re im
    | some w =>
      if !isNumber w then
        failNaming "complex() second argument must be a number, not '" w 200 "'"
      let (re, im) := (← complexOf? v).getD (zero, zero)
      let (re', im') := (← complexOf? w).getD (zero, zero)
      let real := match w with
        | .complex _ _ _ => re.sub im'
        | _ => re
      let imaginary := match v with
        | .complex _ _ _ => re'.add im
        | _ => re'
      Effect.complex real imaginary

/-! ### Texts and bytes -/

/-- A new text. -/
def makeText (args : List Value) (named : Attrs) : Action Value := do
  refuseUnknown "str" named
  atMost 3 "str" args
  match args with
  | [] => return .text ""
  | [v] => return .text (← text v)
  | v :: coding =>
    let (encoding, errors) ← codingArguments "str" coding
    match v, bytes? (← get) v with
    | _, some bs => decodeBytes bs encoding errors
    | .text _, _ => fail (.other .badType "decoding str is not supported")
    | _, _ => failNaming "decoding to str: need a bytes-like object, " v 80 " found"

/-- The names of an encoding and of what is done with what is wrong, which a type of bytes is called
with after its source. -/
def byteCoding (type : String) (args : List Value) : Action (String × String) := do
  atMost 3 type args
  codingArguments type args.tail

/-- The bytes that a type of bytes is called with, or the values that its bytes are made of: a text
needs an encoding, and a number is a count of zeros. -/
def byteSource (type encoding errors : String) (args : List Value) :
    Action (List UInt8 ⊕ List Value) := do
  match args with
  | [] => return .inl []
  | [.text _] => fail (.other .badType "string argument without an encoding")
  | .text t :: _ =>
    match ← encodeText t.toList encoding errors with
    | .bytes bs => return .inl bs
    | _ => return .inl []
  | _ :: _ :: _ => fail (.other .badType "encoding without a string argument")
  | [v] =>
    match v.whole?, bytes? (← get) v with
    | some n, _ =>
      if isHuge n || isTooMany n then failTooMany
      else if n < 0 then fail (.other .badValue "negative count")
      else return .inl (List.replicate n.toNat 0)
    | none, some bs => return .inl bs
    | none, none =>
      match ← items? v with
      | some items => return .inr items
      | none => failNaming "cannot convert '" v 200 ("' object to " ++ type)

/-- New bytes. -/
def makeBytes (args : List Value) : Action Value := do
  let (encoding, errors) ← byteCoding "bytes" args
  match ← byteSource "bytes" encoding errors args with
  | .inl bs => return .bytes bs
  | .inr items =>
    return .bytes (← items.mapM fun v => do
      let isOutside := match v.whole? with
        | some n => n < 0 || 256 ≤ n
        | none => false
      if isOutside then fail (.other .badValue "bytes must be in range(0, 256)") else byteOf v)

/-- Reads an argument into a buffer, in the place of the bytes it has. -/
def refillBuffer (v : Value) (args : List Value) : Action Unit := do
  match v with
  | .ref r =>
    let (encoding, errors) ← byteCoding "bytearray" args
    Effect.put r (.buffer [])
    match ← byteSource "bytearray" encoding errors args with
    | .inl bs => Effect.put r (.buffer bs)
    | .inr items =>
      items.forM fun x => do
        let b ← byteOf x
        match (← get).cell? v with
        | some (.buffer bs) => Effect.put r (.buffer (bs ++ [b]))
        | _ => return ()
  | _ => return ()

end GraphQLTree.Action
