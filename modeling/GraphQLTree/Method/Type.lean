import GraphQLTree.Method.Construct
import GraphQLTree.Number.Hexadecimal

/-! # Functions that belong to types

Some functions belong to a type and not to its objects: those that make an object which is not
initialised yet, those that read numbers and bytes, and those that make tables for the replacement
of characters. -/

namespace GraphQLTree.Action

/-! ### Objects that are not initialised -/

/-- The basic type that makes the objects of a type. -/
def makerOf (s : Store) (t : TypeValue) : BasicType :=
  if (s.errorClass? t).isSome then .failure
  else ((s.lineage t).findSome? fun
    | .basic b => if BasicType.makers.contains b then some b else none
    | _ => none).getD .object

/-- The type that is named as the one to make the objects of a type: one with a function of its own
for that leaves it to the type it is derived from. -/
def namedMaker (s : Store) (t : TypeValue) : String :=
  match t with
  | .basic .version => BasicType.tuple.name
  | _ => s.nameOf t

/-- An object of a type that is not initialised. -/
def blank (t : TypeValue) (args : List Value) (named : Attrs) : Action Value := do
  let s ← get
  match makerOf s t, t with
  | .object, .node c =>
    if c.isNode then Effect.alloc (.node ⟨c, [], .own [], none⟩)
    else Effect.alloc (.object ⟨t, [], .own []⟩)
  | .object, _ =>
    let plain := match s.classEntry? t "__init__" with
      | some (_, .value (.native .object _)) => true
      | _ => false
    if plain && !(args.isEmpty && named.isEmpty) then fail (.noArguments (s.nameOf t))
    Effect.alloc (.object ⟨t, [], .own []⟩)
  | .failure, _ =>
    let made? := match t with
      | .made r => some r
      | _ => none
    let cls := (s.errorClass? t).getD .base
    Effect.alloc (.error { ErrorObject.ofArgs cls args with made? })
  | .tuple, .basic .frozen => constructBasic .frozen args named
  | .tuple, .basic .version =>
    atMostOne "tuple" args named
    Effect.alloc (.tuple .version (← argumentItems args) (.own []))
  | .list, _ => Effect.list []
  | .dict, _ => Effect.alloc (.dict [])
  | .set, _ => Effect.alloc (.set false [])
  | .buffer, _ => Effect.alloc (.buffer [])
  | .type, _ =>
    fail (.other .badType ("type.__new__() takes exactly 3 arguments (" ++
      toString args.length ++ " given)"))
  | .undecided, _ => return .undecided
  | maker, _ => constructBasic maker args named

/-- Makes an object of the type that is the first argument, which must be one that the given type
knows how to make objects of. -/
def makeBlank (t : TypeValue) (args : List Value) (named : Attrs) : Action Value := do
  let s ← get
  let maker := s.nameOf t ++ ".__new__("
  match args with
  | [] => fail (.other .badType (maker ++ "): not enough arguments"))
  | .type u :: rest =>
    let name := s.nameOf u
    if !s.isSubtype u t then
      fail (.other .badType (maker ++ name ++ "): " ++ name ++ " is not a subtype of " ++
        s.nameOf t))
    else if makerOf s u ≠ makerOf s t then
      fail (.other .badType (maker ++ name ++ ") is not safe, use " ++ namedMaker s u ++
        ".__new__()"))
    else blank u rest named
  | v :: _ =>
    fail (.other .badType (maker ++ "X): X is not a type object (" ++ s.typeName v ++ ")"))

/-! ### Tables -/

/-- The number of the only character of a text that is a key of a table, or a number. -/
def tableKey : Value → Action Value
  | .text t =>
    match t.toList with
    | [c] => return .int c.toNat
    | _ => fail (.other .badValue "string keys in translate table must be of length 1")
  | v =>
    if v.whole?.isSome then return v
    else fail (.other .badType "keys in translate table must be strings or integers")

/-- A table by which characters of a text are replaced. -/
def textTable (args : List Value) : Action Value := do
  let number := fun c : Char => Value.int c.toNat
  match args with
  | [v] =>
    match (← get).dict? v with
    | some entries => do dict (← entries.mapM fun e => return (← tableKey e.key, e.value))
    | none =>
      fail (.other .badType "if you give only one argument to maketrans it must be a dict")
  | old :: new :: more =>
    let new ← namedPiece .text "maketrans() argument 2" new
    let dropped ← match more with
      | [] => pure []
      | v :: _ => namedPiece .text "maketrans() argument 3" v
    match old with
    | .text old =>
      if old.length ≠ new.length then
        fail (.other .badValue "the first two maketrans arguments must have equal length")
      dict (((old.toList.zip new).map fun (c, d) => (number c, number d)) ++
        dropped.map fun c => (number c, .null))
    | _ =>
      fail (.other .badType
        "first maketrans argument must be a string if there is a second argument")
  | [] => return .null

/-- A table by which bytes are replaced. -/
def byteTable (old new : Value) : Action Value := do
  let old ← pieceOr (fun _ => return []) .bytes old
  let new ← pieceOr (fun _ => return []) .bytes new
  if old.length ≠ new.length then
    fail (.other .badValue "maketrans arguments must have same length")
  let pairs := (old.zip new).reverse
  let table := (List.range 256).map fun n => (pairs.lookup (Char.ofNat n)).getD (Char.ofNat n)
  TextForm.bytes.make table

/-! ### Reading -/

/-- The bytes that a value stands for where numbers are read from bytes. -/
def bytesFor (v : Value) : Action (List UInt8) := do
  match bytes? (← get) v, v with
  | some bs, _ => return bs
  | none, .text _ => failNaming "cannot convert '" v 200 "' object to bytes"
  | none, _ =>
    match ← items? v with
    | some items => items.mapM fun x => do
        match x.whole? with
        | none => failOn .notInteger x
        | some n =>
          if 0 ≤ n && n < 256 then return UInt8.ofNat n.toNat
          else fail (.other .badValue "bytes must be in range(0, 256)")
    | none => failNaming "cannot convert '" v 200 "' object to bytes"

/-- The whole number that bytes stand for. -/
def wholeOfBytes (t : TypeValue) (args : List Value) : Action Value := do
  let function := "from_bytes"
  ofExcept ((Arity.parsed 0 3).check function function args.length)
  ofExcept ((Arity.positional 0 2).check function function args.length)
  match args with
  | [] => fail (.other .badType "from_bytes() missing required argument 'bytes' (pos 1)")
  | v :: rest =>
    let largestFirst ← match rest with
      | [] => pure true
      | order :: _ => byteOrder function order
    let bs ← bytesFor v
    let digits := (if largestFirst then bs else bs.reverse).map UInt8.toNat
    let n : Int := (digits.foldl (fun n d => 256 * n + d) 0 : Nat)
    if t.id = .basic .int then return .int n else call (.type t) [.int n]

/-- The bytes or the number that a hexadecimal text stands for. -/
def readHexadecimal (t : TypeValue) (v : Value) : Action Value := do
  let bytes (make : List UInt8 → Action Value) : Action Value := do
    match v with
    | .text s =>
      match readBytes 0 s.toList with
      | .ok bs => make bs
      | .error i =>
        fail (.other .badValue ("non-hexadecimal number found in fromhex() arg at position " ++
          toString i))
    | _ => fail (.other .badType ("fromhex() argument must be str, not " ++ (← argumentType v)))
  match t, v with
  | .basic .bytes, _ => bytes fun bs => return .bytes bs
  | .basic .buffer, _ => bytes fun bs => Effect.alloc (.buffer bs)
  | _, .text s =>
    match Double.readHex s.toList with
    | .number x => Effect.float x
    | .invalid => fail (.other .badValue "invalid hexadecimal floating-point string")
    | .tooLarge =>
      fail (.other .overflow "hexadecimal value too large to represent as a float")
  | _, _ => fail (.other .badType "bad argument type for built-in operation")

/-! ### All of them -/

/-- The number of arguments that a function of a type takes. -/
def typeFunctionArity (t : BasicType) : String → Arity
  | "fromkeys" => .between 1 2
  | "fromhex" | "__class_getitem__" => .one
  | "__init_subclass__" => .none
  | "maketrans" => if t = .text then .between 1 3 else .between 2 2
  | _ => .any

/-- What a function that belongs to a type does; `owner` is the type. -/
def typeFunction (t : BasicType) (name : String) (owner : TypeValue) (args : List Value)
    (named : Attrs) : Action Value := do
  match name, args with
  | "__new__", _ => makeBlank owner args named
  | "fromkeys", keys :: rest => dictOfKeys keys (rest.head?.getD .null)
  | "from_bytes", _ => wholeOfBytes owner args
  | "fromhex", [v] => readHexadecimal owner v
  | "maketrans", [old, new] => if t = .text then textTable args else byteTable old new
  | "maketrans", _ => textTable args
  | "__class_getitem__", [v] => parametrize owner v
  | "__subclasshook__", _ => return .undecided
  | _, _ => return .null

/-! ### Methods of all types -/

/-- What a method that all types have does. -/
def typeMethod (t : TypeValue) (name : String) (args : List Value) : Action Value := do
  let s ← get
  match name, args with
  | "mro", _ => Effect.list ((s.lineage t).map fun a => .type (ancestorType t a))
  | "__prepare__", _ => Effect.alloc (.dict [])
  | "__instancecheck__", [v] => return .bool (← isOf t v)
  | "__subclasscheck__", [.type u] => return .bool (s.isSubtype u t)
  | "__subclasscheck__", _ => fail (.other .badType "issubclass() arg 1 must be a class")
  | _, _ => return .null

end GraphQLTree.Action
