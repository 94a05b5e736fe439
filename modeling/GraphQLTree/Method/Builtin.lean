import GraphQLTree.Method.Construct

/-! # Built-in functions

Functions that belong to no type. Those that would show places in memory or reach outside of the
program answer null or zero. -/

namespace GraphQLTree.Action

/-- The number of arguments that a built-in function takes. -/
def builtinArity : String → Arity
  | "len" | "repr" | "callable" | "hash" | "id" | "abs" | "any" | "all" | "ord" | "chr" | "ascii"
  | "bin" | "hex" | "oct" => .one
  | "iter" | "next" | "format" => .between 1 2
  | "getattr" => .between 2 3
  | "hasattr" | "delattr" | "isinstance" | "issubclass" | "divmod" => .between 2 2
  | "setattr" => .between 3 3
  | "sorted" => .between 1 1
  | _ => .any

/-- The names of the parameters of a built-in function that are looked for by name, with the number
of those that are needed. -/
def builtinParameters : String → Option (List String × Nat)
  | "round" => some (["number", "ndigits"], 1)
  | "pow" => some (["base", "exp", "mod"], 2)
  | _ => none

/-- Checks the number of arguments of a built-in function. -/
def checkBuiltin (name : String) (given : Nat) : Action Unit := do
  ofExcept ((builtinArity name).check name name given)
  match name, builtinParameters name with
  | _, some (parameters, needed) =>
    if parameters.length < given then
      fail (.other .badType (name ++ "() takes at most " ++ toString parameters.length ++
        " arguments (" ++ toString given ++ " given)"))
    else if given < needed then
      fail (.other .badType (name ++ "() missing required argument '" ++
        (parameters[given]?.getD "") ++ "' (pos " ++ toString (given + 1) ++ ")"))
  | "sum", none =>
    if given = 0 then
      fail (.other .badType "sum() takes at least 1 positional argument (0 given)")
    else if 2 < given then
      fail (.other .badType ("sum() takes at most 2 arguments (" ++ toString given ++ " given)"))
  | "max", none | "min", none =>
    if given = 0 then fail (.wrongCount name "at least 1 argument" 0)
  | _, none => return ()

/-! ### Numbers and characters -/

/-- The written form of a whole number in a base, after a mark. -/
def inBase (mark : String) (base : Nat) (v : Value) : Action Value :=
  match v.whole? with
  | some n =>
    return .text ((if n < 0 then "-" else "") ++ mark ++
      String.ofList (Nat.toDigits base n.natAbs))
  | none => failOn .notInteger v

/-- The number of the only character of a text, or of the only byte of bytes. -/
def characterNumber (v : Value) : Action Value := do
  let numbers? : Option (List Nat) := match v, bytes? (← get) v with
    | .text t, _ => some (t.toList.map Char.toNat)
    | _, bs? => bs?.map fun bs => bs.map UInt8.toNat
  match numbers? with
  | some [n] => return .int n
  | some ns =>
    fail (.other .badType ("ord() expected a character, but string of length " ++
      toString ns.length ++ " found"))
  | none => failNaming "ord() expected string of length 1, but " v 200 " found"

/-- The character with a number. -/
def characterOf (v : Value) : Action Value := do
  let n ← smallNumber v
  if 0 ≤ n && n < 0x110000 then return .text (String.singleton (Char.ofNat n.toNat))
  else fail (.other .badValue "chr() arg not in range(0x110000)")

/-- The type of numbers that a value belongs to. -/
def numberType? (v : Value) : Option BasicType :=
  match v with
  | .float _ _ => some .float
  | .complex _ _ _ => some .complex
  | v => v.whole?.map fun _ => .int

/-- The first answer that the types of some numbers have, or open if there is none. -/
def answerOfTypes (answer : BasicType → Action Value) : List Value → Action Value
  | [] => return .undecided
  | v :: rest => do
    match ← (numberType? v).elim (pure .undecided) answer with
    | .undecided => answerOfTypes answer rest
    | x => return x

/-- The absolute value of a number. -/
def absolute (v : Value) : Action Value := do
  match ← special? v "__abs__", numberType? v with
  | some f, _ => callSpecial f v []
  | none, some _ => numberSign "__abs__" v
  | none, none => failNaming "bad operand type for abs(): '" v 200 "'"

/-- The whole quotient and the remainder of two numbers. -/
def divided (a b : Value) : Action Value := do
  let answer ← answerOfTypes (fun t =>
    if t = .complex then return .undecided else operate t .division a b) [a, b]
  if answer ≠ .undecided then return answer
  let s ← get
  fail (.other .badType ("unsupported operand type(s) for divmod(): '" ++
    Fault.brief (s.typeName a) ++ "' and '" ++ Fault.brief (s.typeName b) ++ "'"))

/-- A power, or its remainder if there is a third number. -/
def powerOf (a b modulus : Value) : Action Value := do
  let known := if modulus = .null then [a, b] else [a, b, modulus]
  let answer ← answerOfTypes (fun t => operateModulo t a b modulus) known
  if answer ≠ .undecided then return answer
  let s ← get
  let types := known.map fun v => "'" ++ Fault.brief (s.typeName v) ++ "'"
  fail (.other .badType ("unsupported operand type(s) for ** or pow(): " ++
    (if modulus = .null then " and " else ", ").intercalate types))

/-- A number rounded to so many decimal places. -/
def rounded (v places : Value) : Action Value := do
  let args := if places = .null then [] else [places]
  match ← special? v "__round__", numberType? v with
  | some f, _ => callSpecial f v args
  | none, some .complex | none, none => failNaming "type " v 100 " doesn't define __round__ method"
  | none, some _ => numberMethod v "__round__" args

/-- The sum of the items of a value and of another value. -/
def total (v start : Value) : Action Value := do
  let items ← items v
  let refuse (type join : String) : Action Value :=
    fail (.other .badType ("sum() can't sum " ++ type ++ " [use " ++ join ++
      ".join(seq) instead]"))
  match start, (← get).cell? start with
  | .text _, _ => refuse "strings" "''"
  | .bytes _, _ => refuse "bytes" "b''"
  | _, some (.buffer _) => refuse "bytearray" "b''"
  | _, _ => items.foldlM sum start

/-- The item that is in a relation to all items before it, and to none behind it. -/
def extreme (name : String) (relation : Relation) (args : List Value) : Action Value := do
  let found ← match args with
    | [v] => items v
    | vs => pure vs
  match found with
  | [] => fail (.other .badValue (name ++ "() arg is an empty sequence"))
  | first :: rest =>
    rest.foldlM (fun best v => do
      if ← isTrue (← relate relation v best) then return v else return best) first

/-! ### Types -/

/-- How deep types can be nested in tuples. -/
def typeDepth : Nat := 100

/-- Whether a value is an object of a type, or of one of the types in a tuple. -/
def isObjectOf (v : Value) : (fuel : Nat) → Value → Action Bool
  | 0, _ => throw .tooDeep
  | fuel + 1, type => do
    match type, (← get).cell? type with
    | .type t, _ => isOf t v
    | _, some (.tuple _ types _) => types.anyM (isObjectOf v fuel)
    | _, some (.object ⟨.basic .parametrized, _, _⟩) =>
      fail (.other .badType "isinstance() argument 2 cannot be a parameterized generic")
    | _, _ =>
      fail (.other .badType "isinstance() arg 2 must be a type, a tuple of types, or a union")

/-- Whether a type is another one or derived from it, or from one of the types in a tuple. -/
def isTypeBelow (v : Value) : (fuel : Nat) → Value → Action Bool
  | 0, _ => throw .tooDeep
  | fuel + 1, type => do
    match v, type, (← get).cell? type with
    | _, _, some (.tuple _ types _) => types.anyM (isTypeBelow v fuel)
    | _, _, some (.object ⟨.basic .parametrized, _, _⟩) =>
      fail (.other .badType "issubclass() argument 2 cannot be a parameterized generic")
    | .type u, .type t, _ => return (← get).isSubtype u t
    | .type _, _, _ =>
      fail (.other .badType
        "issubclass() arg 2 must be a class, a tuple of classes, or a union")
    | _, _, _ => fail (.other .badType "issubclass() arg 1 must be a class")

/-- A value in a field with a specification, as a built-in function. -/
def formatted (v spec : Value) : Action Value := do
  match spec with
  | .text spec => return .text (← formatValue v spec)
  | _ =>
    fail (.other .badType ("format() argument 2 must be str, not " ++ (← argumentType spec)))

/-- What a built-in function does. -/
def runBuiltin (name : String) (args : List Value) : Action Value := do
  match name, args with
  | "len", [v] => return .int (← length v)
  | "repr", [v] => return .text (← written v)
  | "ascii", [v] => return .text (← asciiForm v)
  | "format", [v] => return .text (← formatValue v "")
  | "format", [v, spec] => formatted v spec
  | "callable", [v] => return .bool ((← get).isCallable v)
  | "hash", [v] => return .int (← digest v).toInt
  | "abs", [v] => absolute v
  | "divmod", [a, b] => divided a b
  | "pow", [a, b] => powerOf a b .null
  | "pow", [a, b, modulus] => powerOf a b modulus
  | "round", v :: rest => rounded v (rest.head?.getD .null)
  | "sum", v :: rest => total v (rest.head?.getD (.int 0))
  | "max", _ => extreme name .greater args
  | "min", _ => extreme name .less args
  | "any", [v] => return .bool (← (← items v).anyM isTrue)
  | "all", [v] => return .bool (← (← items v).allM isTrue)
  | "ord", [v] => characterNumber v
  | "chr", [v] => characterOf v
  | "bin", [v] => inBase "0b" 2 v
  | "oct", [v] => inBase "0o" 8 v
  | "hex", [v] => inBase "0x" 16 v
  | "iter", [v] => iteratorOf v
  | "iter", [v, _] =>
    if (← get).isCallable v then return .null
    else fail (.other .badType "iter(v, w): v must be callable")
  | "next", [v] => nextItem v
  | "next", [v, default] => handling .stopIteration (nextItem v) fun _ => return default
  | "getattr", [v, key] => do attr v (← nameOfAttr key)
  | "getattr", [v, key, default] =>
    return (← attr? v (← nameOfAttr key)).getD default
  | "hasattr", [v, key] => return .bool (← attr? v (← nameOfAttr key)).isSome
  | "setattr", [v, key, x] => setAttr v (← nameOfAttr key) x; return .null
  | "delattr", [v, key] => delAttr v (← nameOfAttr key); return .null
  | "isinstance", [v, type] => return .bool (← isObjectOf v typeDepth type)
  | "issubclass", [v, type] => return .bool (← isTypeBelow v typeDepth type)
  | "sorted", [v] => do Effect.list (← sortKeeping (fun _ => return ()) (← items v))
  | "id", _ => return .int 0
  | _, _ => return .null

/-- Calls a built-in function. -/
def callBuiltin (name : String) (args : List Value) (named : Attrs) : Action Value := do
  refuseNamed name named
  checkBuiltin name args.length
  runBuiltin name args

end GraphQLTree.Action
