/-! # Walk tables

A walk table says which attributes of a node are walked, in order, and of which kind the lists are
that they hold. -/

namespace GraphQLTree

/-- The walked attributes of each kind with the kinds of their lists. -/
abbrev WalkTable := List (String × List (String × String))

namespace WalkTable

/-- The walked attributes of a kind; none if the table does not know it. -/
def entries (table : WalkTable) (kind : String) : List (String × String) :=
  (table.lookup kind).getD []

/-- The table in which the entries of `first` replace those of `second`. -/
def mergedOver (first second : WalkTable) : WalkTable :=
  first ++ second

/-- The standard table. The variable definitions and directives of operations are not walked. -/
def standard : WalkTable :=
  [("document", [("definitions", "definition")]),
   ("schema", [("components", "definition")]),
   ("operation_definition", [("selections", "selection")]),
   ("fragment_definition", [("directives", "directive"), ("selections", "selection")]),
   ("selection_field", [("directives", "directive"), ("selections", "selection")]),
   ("inline_fragment", [("directives", "directive"), ("selections", "selection")]),
   ("object_definition", [("fields", "object_field_definition")]),
   ("interface_definition", [("fields", "interface_field_definition")]),
   ("input_definition", [("fields", "input_field_definition")])]

end WalkTable
end GraphQLTree
