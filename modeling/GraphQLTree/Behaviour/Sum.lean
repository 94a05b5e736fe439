import GraphQLTree.Behaviour.Basic

/-! # Sums

The sum of two numbers is a number of the wider of their types. Texts, lists, tuples and bytes are
joined to others of their kind; other values have no sums. -/

namespace GraphQLTree.Action

/-- The number of double precision closest to a whole number. -/
def toDouble (n : Int) : Action Double :=
  match Double.ofInt n with
  | .infinite _ => fail (.other .overflow "int too large to convert to float")
  | x => return x

/-- The real and the imaginary part of a number. -/
def parts? (v : Value) : Action (Option (Double × Double)) := do
  match v with
  | .float x _ => return some (x, .finite false 0)
  | .complex re im _ => return some (re, im)
  | _ =>
    match v.whole? with
    | some n => return some (← toDouble n, .finite false 0)
    | none => return none

/-- Whether a value is a complex number. -/
def isComplex : Value → Bool
  | .complex _ _ _ => true
  | _ => false

/-- The sum of two numbers; none if one of the values is no number. -/
def addNumbers? (a b : Value) : Action (Option Value) := do
  match a.whole?, b.whole?, a.quantities?, b.quantities? with
  | some m, some n, _, _ => return some (.int (m + n))
  | _, _, some _, some _ =>
    match ← parts? a, ← parts? b with
    | some (re, im), some (re', im') =>
      if isComplex a || isComplex b then
        return some (← Effect.complex (re.add re') (im.add im'))
      else return some (← Effect.float (re.add re'))
    | _, _ => return none
  | _, _, _, _ => return none

/-- The bytes of bytes or of a buffer. -/
def bytes? (s : Store) (v : Value) : Option (List UInt8) :=
  match v, s.cell? v with
  | .bytes bs, _ => some bs
  | _, some (.buffer bs) => some bs
  | _, _ => none

/-- Reports that bytes cannot be joined to a value. -/
def badBytesSum {α : Type} (type : String) (v : Value) : Action α := do
  fail (.other .badType ("can't concat " ++ (← get).typeName v ++ " to " ++ type))

/-- The sum of two values. -/
def sum (a b : Value) : Action Value := do
  match ← addNumbers? a b with
  | some v => return v
  | none =>
    let s ← get
    match a, s.cell? a with
    | .text t, _ =>
      match b with
      | .text u => return .text (t ++ u)
      | _ => fail (.badConcat "str" (s.typeName b))
    | .bytes bs, _ =>
      match bytes? s b with
      | some cs => return .bytes (bs ++ cs)
      | none => badBytesSum "bytes" b
    | _, some (.buffer bs) =>
      match bytes? s b with
      | some cs => Effect.alloc (.buffer (bs ++ cs))
      | none => badBytesSum "bytearray" b
    | _, some (.list items) =>
      match s.cell? b with
      | some (.list more) => Effect.list (items ++ more)
      | _ => fail (.badConcat "list" (s.typeName b))
    | _, some (.tuple kind items _) =>
      match s.cell? b with
      | some (.tuple kind' more _) =>
        if items.isEmpty && kind' = .plain then return b
        else if more.isEmpty && kind = .plain then return a
        else Effect.tuple (items ++ more)
      | _ => fail (.badConcat "tuple" (s.typeName b))
    | _, _ => fail (.badSum (s.typeName a) (s.typeName b))

end GraphQLTree.Action
