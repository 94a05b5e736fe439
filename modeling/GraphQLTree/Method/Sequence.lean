import GraphQLTree.Behaviour.Arguments
import GraphQLTree.Method.Order

/-! # Methods of lists and tuples

Lists can be changed, tuples cannot. Places count from the end if they are negative. -/

namespace GraphQLTree.Action

/-- The number of arguments that a method of a list takes. -/
def listArity : String → Arity
  | "append" | "extend" | "remove" | "count" | "__getitem__" => .one
  | "insert" => .between 2 2
  | "pop" => .between 0 1
  | "index" => .between 1 3
  | "sort" => .any
  | _ => .none

/-- Takes an item out of a list. -/
def popItem (r : Ref) (items : List Value) (place : Int) : Action Value := do
  if items.isEmpty then fail .emptyPop
  else match fromStart? items.length place with
    | none => fail (.outOfRange "pop index")
    | some n =>
      match items[n]? with
      | none => fail (.outOfRange "pop index")
      | some x =>
        Effect.put r (.list (items.eraseIdx n))
        return x

/-- What a method of a list does. -/
def listMethod (v : Value) (r : Ref) (items : List Value) (name : String) (args : List Value) :
    Action Value := do
  match name, args with
  | "append", [x] => Effect.put r (.list (items ++ [x])); return .null
  | "extend", [x] =>
    let more ← Action.items x
    match (← get).cell? v with
    | some (.list items) => Effect.put r (.list (items ++ more))
    | _ => pure ()
    return .null
  | "insert", [i, x] =>
    let n := position items.length (← wholeArgument i)
    Effect.put r (.list (items.take n ++ x :: items.drop n))
    return .null
  | "pop", [] => popItem r items (-1)
  | "pop", [i] => popItem r items (← wholeArgument i)
  | "remove", [x] =>
    match ← findIndex x items with
    | none => fail (.notFound "list.remove(x): x not in list")
    | some n => Effect.put r (.list (items.eraseIdx n)); return .null
  | "clear", _ => Effect.put r (.list []); return .null
  | "reverse", _ => Effect.put r (.list items.reverse); return .null
  | "copy", _ => Effect.list items
  | "index", x :: bounds => indexOf true items x bounds
  | "count", [x] => countOf items x
  | "sort", [] =>
    discard (sortKeeping (fun items => (Effect.put r (.list items) : Effect Unit)) items)
    return .null
  | "sort", _ =>
    ofExcept ((Arity.parsed 0 2).check name name args.length)
    fail (.other .badType "sort() takes no positional arguments")
  | "__getitem__", [i] => item v i
  | "__reversed__", _ => Effect.alloc (.iterator "list_reverseiterator" (.backward v items.length))
  | _, _ => return .null

/-- The number of arguments that a method of a tuple takes. -/
def tupleArity : String → Arity
  | "count" => .one
  | "index" => .between 1 3
  | _ => .none

/-- What a method of a tuple does. -/
def tupleMethod (items : List Value) (name : String) (args : List Value) : Action Value := do
  match name, args with
  | "index", x :: bounds => indexOf false items x bounds
  | "count", [x] => countOf items x
  | "__getnewargs__", _ => Effect.tuple [← Effect.tuple items]
  | _, _ => return .null

end GraphQLTree.Action
