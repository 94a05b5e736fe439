import GraphQLTree.Behaviour.Attribute

/-! # Dictionaries of trees

A tree as nested dictionaries: a node becomes a dictionary of its kind and its keys, sequences
become lists and operation types their texts. Other values stay as they are. -/

namespace GraphQLTree.Action

/-- The dictionary of a value, with `fuel` levels of nesting to go. -/
def dictionaryAt (fuel : Nat) (v : Value) : Action Value := do
  match fuel with
  | 0 => throw .tooDeep
  | fuel + 1 =>
    if ← isOf (.node .node) v then
      let kind ← attr v "kind"
      let entries ← (← namesOf v "keys").foldlM (fun entries key => do
        let name ← nameOfAttr key
        return setTextEntry name (← dictionaryAt fuel (← attr v name)) entries)
        [textEntry "kind" kind]
      Effect.alloc (.dict entries)
    else if ← isOfAny [.basic .list, .basic .tuple] v then
      Effect.list (← (← items v).mapM (dictionaryAt fuel))
    else if ← isOf (.basic .operation) v then attr v "value"
    else return v
termination_by structural fuel

/-- The dictionary of a value. -/
def dictionary (v : Value) : Action Value := do
  dictionaryAt ((← get).size + 1) v

end GraphQLTree.Action
