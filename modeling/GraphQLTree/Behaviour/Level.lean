import GraphQLTree.Behaviour.Describe
import GraphQLTree.Behaviour.Iteration
import GraphQLTree.Method.Call

/-! # How values behave

The behaviour of values to a depth: at depth zero every operation gives up, and at any other depth
an operation uses the behaviour of one level less. An action is performed to a depth that grows with
the store, so that values which do not contain themselves are always followed to their ends. -/

namespace GraphQLTree

/-- The behaviour of values where operations use each other to a depth. -/
def Behaviour.level : Nat → Behaviour
  | 0 => .exhausted
  | n + 1 => {
      attr := fun v name => Action.readAttr v name (level n)
      setAttr := fun v name x => Action.assignAttr v name x (level n)
      delAttr := fun v name => Action.removeAttr v name (level n)
      call := fun f args named => Action.callValue f args named (level n)
      isTrue := fun v => Action.truth v (level n)
      items? := fun v => Action.iterate v (level n)
      written := fun active v => Action.writeIn active v (level n)
      text := fun v => Action.textOf v (level n)
      describe := fun v => Action.describeWithin .standard v (level n)
      equal := fun a b => Action.areEqual a b (level n)
      digest := fun v => Action.digestOf v (level n)
      copy := fun v => Action.copyOf v (level n)
      deepCopy := fun copies v => Action.deepCopyOf copies v (level n) }

/-- How deeply operations may use each other in a store. -/
def Store.depthLimit (s : Store) : Nat :=
  1000 + 8 * s.size

/-- Performs an action. -/
def Action.perform {α : Type} (act : Action α) : Effect α := do
  act (Behaviour.level (← get).depthLimit)

end GraphQLTree
