import GraphQLTree.Error.Fault
import GraphQLTree.Store.Basic

/-! # Arguments

How the arguments of a call are matched with the parameters of a function. Arguments by position
come first, and those by name fill what is left. Of several faults, those of named arguments are
reported first, then too many arguments, then missing ones. -/

namespace GraphQLTree

/-- The arguments of a call, matched with parameters. -/
structure Arguments where
  /-- The argument of each parameter, if it is given. -/
  given : List (Option Value)
  /-- Further arguments by position. -/
  rest : List Value
  /-- Further arguments by name. -/
  named : Attrs
  deriving Repr

namespace Arguments

/-- The argument of a parameter; null if it is not given. -/
def get (a : Arguments) (i : Nat) : Value :=
  (a.given[i]?.join).getD .null

/-- The argument of a parameter, or a default if it is not given. -/
def getOr (a : Arguments) (i : Nat) (default : Value) : Value :=
  (a.given[i]?.join).getD default

end Arguments

namespace Signature

/-- The names of all parameters. -/
def names (sig : Signature) : List String :=
  sig.required ++ sig.optional

/-- The arguments with one more given by name. -/
def addNamed (sig : Signature) (function : String) (a : Arguments) (arg : String × Value) :
    Except Fault Arguments :=
  match sig.names.idxOf? arg.1 with
  | some i =>
    match a.given[i]?.join with
    | some _ => .error (.repeatedArgument function arg.1)
    | none => .ok { a with given := a.given.set i (some arg.2) }
  | none =>
    if sig.keywords then .ok { a with named := a.named ++ [arg] }
    else .error (.unknownKeyword function arg.1)

/-- The required parameters without an argument. -/
def missing (sig : Signature) (a : Arguments) : List String :=
  ((sig.required.zip a.given).filter (·.2.isNone)).map Prod.fst

/-- Matches arguments with the parameters of a function. -/
def bind (sig : Signature) (function : String) (args : List Value) (named : Attrs) :
    Except Fault Arguments := do
  let most := sig.names.length
  let given := (args.take most).map some ++ List.replicate (most - args.length) none
  let a ← named.foldlM (sig.addNamed function) ⟨given, args.drop most, []⟩
  if !sig.variadic && most < args.length then
    throw (.tooManyArguments function sig.required.length most args.length)
  match sig.missing a with
  | [] => return a
  | names => throw (.missingArguments function names)

end Signature

/-! ### Counted arguments -/

/-- How many arguments a built-in function takes. -/
inductive Arity
  | none
  | one
  | between (least most : Nat)
  /-- As `between`, with another way to tell the number. -/
  | parsed (least most : Nat)
  /-- As `parsed`, where some arguments are given by name only. -/
  | positional (least most : Nat)
  /-- Exactly this many, for what stands behind an operator. -/
  | operands (count : Nat)
  | any
  deriving DecidableEq, Repr

/-- Checks a number of arguments that has bounds. -/
def Arity.countParsed (name noun : String) (least most given : Nat) : Except Fault Unit :=
  let wrong := fun bound count =>
    Except.error (.other .badType (name ++ "() takes " ++ bound ++ Fault.counted count noun ++
      " (" ++ toString given ++ " given)"))
  let exact := least = most
  if given < least then wrong (if exact then "exactly " else "at least ") least
  else if most < given then wrong (if exact then "exactly " else "at most ") most
  else .ok ()

/-- Checks the number of arguments of a function, which is named with and without its type. -/
def Arity.check (arity : Arity) (function name : String) (given : Nat) : Except Fault Unit :=
  match arity with
  | none => if given = 0 then .ok () else .error (.someArguments function given)
  | one => if given = 1 then .ok () else .error (.notOneArgument function given)
  | between least most =>
    if given < least then
      .error (.wrongCount name
        ((if least = most then "" else "at least ") ++ Fault.counted least "argument") given)
    else if most < given then
      .error (.wrongCount name
        ((if least = most then "" else "at most ") ++ Fault.counted most "argument") given)
    else .ok ()
  | parsed least most => countParsed name "argument" least most given
  | positional least most => countParsed name "positional argument" least most given
  | operands count =>
    if given = count then .ok ()
    else .error (.other .badType ("expected " ++ Fault.counted count "argument" ++ ", got " ++
      toString given))
  | any => .ok ()

end GraphQLTree
