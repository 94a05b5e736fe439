import GraphQLTree.Behaviour.Arguments
import GraphQLTree.Behaviour.Attribute

/-! # Methods of iterators and generators

An iterator can be asked how many items are left, told where to go on, and taken apart into what it
was made from. A generator of one item is given values and errors from outside: it ignores a value,
and an error ends it and comes out of it again. -/

namespace GraphQLTree.Action

/-! ### Generators -/

/-- Goes on with a generator, which is given a value; one that has not started takes none. -/
def sendTo (r : Ref) (name : String) (progress : Progress) (v : Value) : Action Value := do
  if progress = .fresh && v ≠ .null then
    fail (.other .badType "can't send non-None value to a just-started generator")
  match ← advance? (.ref r) with
  | some x => return x
  | none =>
    Effect.put r (.generator name .done)
    raise (.type (.error .stopIteration))

/-- Reports a value that is neither an error nor a class of errors. -/
def noError {α : Type} (v : Value) : Action α :=
  failNaming "exceptions must be classes or instances deriving from BaseException, not " v 200 ""

/-- The error to be raised that is given by a class and a value for it, or by itself. -/
def errorFor (type v : Value) : Action Value := do
  let s ← get
  match type, isError s type with
  | .type t, _ =>
    if (s.errorClass? t).isNone then
      noError type
    else if v = .null then call type []
    else if s.isSubtype (s.typeOf v) t then return v
    else match s.cell? v with
      | some (.tuple _ items _) => call type items
      | _ => call type [v]
  | _, true =>
    if v = .null then return type
    else fail (.other .badType "instance exception may not have a separate value")
  | _, false =>
    noError type

/-- Ends a generator by an error, which comes out of it; the error that stands for the end of an
iteration is replaced if the generator has not ended before. -/
def throwInto (r : Ref) (name : String) (progress : Progress) (args : List Value) :
    Action Value := do
  if (args[2]?.getD .null) ≠ .null then
    fail (.other .badType "throw() third argument must be a traceback object")
  let e ← errorFor (args[0]?.getD .null) (args[1]?.getD .null)
  Effect.put r (.generator name .done)
  match (← get).error? e with
  | some { cls := .stopIteration, .. } =>
    if progress = .done then raise e
    else fail (.other .runtime "generator raised StopIteration")
  | _ => raise e

/-- What a method of a generator does. -/
def generatorMethod (r : Ref) (generator : String) (progress : Progress) (name : String)
    (args : List Value) : Action Value := do
  match name, args with
  | "send", [v] => sendTo r generator progress v
  | "throw", _ => throwInto r generator progress args
  | "close", _ => Effect.put r (.generator generator .done); return .null
  | _, _ => return .null

/-! ### Iterators -/

/-- What an iterator was made from: the function that makes iterators, its argument, and the place
where it is if it goes through a sequence. -/
def iteratorParts (v : Value) (type : String) (steps : Steps) : Action Value := do
  let maker ← Effect.alloc (.builtin "iter")
  match steps with
  | .forward source place => do
    Effect.tuple [maker, ← Effect.tuple [source], .int place]
  | .keyed _ _ _ _ | .keyedBack _ _ _ _ | .spoiled _ => do
    let rest := (← items? v).getD []
    match v with
    | .ref r => Effect.put r (.iterator type steps)
    | _ => pure ()
    Effect.tuple [maker, ← Effect.tuple [← Effect.list rest]]
  | _ => do
    let nothing ← match type with
      | "list_iterator" | "list_reverseiterator" => (Effect.list [] : Effect Value)
      | "str_iterator" | "str_ascii_iterator" => pure (.text "")
      | _ => Effect.tuple []
    Effect.tuple [maker, ← Effect.tuple [nothing]]

/-- An iteration that goes on at another place. -/
def Steps.movedTo (s : Store) (place : Int) : Steps → Steps
  | .forward source _ => .forward source (min place.toNat ((s.length? source).getD place.toNat))
  | .backward source _ => .backward source (min (place + 1).toNat ((s.length? source).getD 0))
  | steps => steps

/-- What a method of an iterator does. -/
def iteratorMethod (v : Value) (r : Ref) (type : String) (steps : Steps) (name : String)
    (args : List Value) : Action Value := do
  let s ← get
  match name, args with
  | "__length_hint__", _ => return .int (Steps.count s steps)
  | "__reduce__", _ => iteratorParts v type steps
  | "__setstate__", [place] =>
    match steps, place.whole? with
    | .keyed _ _ _ _, _ | .keyedBack _ _ _ _, _ | .spoiled _, _ => Effect.noAttribute v name
    | _, some n =>
      if isHuge n then
        fail (.other .overflow "Python int too large to convert to C ssize_t")
      Effect.put r (.iterator type (Steps.movedTo s n steps))
      return .null
    | _, none => fail (.other .badType "an integer is required")
  | _, _ => return .null

end GraphQLTree.Action
