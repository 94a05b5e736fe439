import GraphQLTree.Behaviour.Basic
import GraphQLTree.Node.Language

/-! # Predicates on nodes

Whether a value is a node of one of the groups of classes; what is no node, and shows no class of
nodes, belongs to none. -/

namespace GraphQLTree.Action

/-- Whether a value can be an element of a definition list. -/
def isDefinition (v : Value) : Action Bool :=
  isOf (.node .definition) v

/-- Whether a value is an operation or a fragment definition. -/
def isExecutableDefinition (v : Value) : Action Bool :=
  isOf (.node .executableDefinition) v

/-- Whether a value can be an element of a selection list. -/
def isSelection (v : Value) : Action Bool :=
  isOf (.node .selection) v

/-- Whether a value is a literal or a variable. -/
def isValue (v : Value) : Action Bool :=
  isOf (.node .value) v

/-- Whether a value is a reference to a type. -/
def isType (v : Value) : Action Bool :=
  isOf (.node .typeRef) v

/-- Whether a value defines an object, interface, enum, union or input type. -/
def isTypeSystemDefinition (v : Value) : Action Bool :=
  isOf (.node .typeSystemDefinition) v

end GraphQLTree.Action
