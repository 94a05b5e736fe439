import GraphQLTree.Node.Class

/-! # The classes of the language

Documents hold operations and fragments, schemas hold type definitions. Each class says which keys
its nodes have and which of them are sequences; containers have a method to append to each of their
sequences. -/

namespace GraphQLTree.NodeClass

/-! ### Documents and schemas -/

/-- A document: a list of definitions. -/
def document : NodeClass :=
  extend node 1 "DocumentNode" "document"
    [("definitions", .sequence)]
    [("add_definitions", .method (.append "definitions"))]

/-- A schema: its query root, and its other types. -/
def schema : NodeClass :=
  extend node 2 "SchemaNode" "schema"
    [("query", .single), ("types", .sequence)]
    [("set_query", .method (.assign "query")),
     ("add_types", .method (.append "types")),
     ("components", .property .components)]

/-! ### Executable definitions -/

/-- What can be an element of a definition list. -/
def definition : NodeClass :=
  extend node 3 "DefinitionNode" "definition"
    []
    []

/-- Operations and fragments. -/
def executableDefinition : NodeClass :=
  extend definition 4 "ExecutableDefinitionNode" "executable_definition"
    [("name", .single), ("directives", .sequence), ("selections", .sequence)]
    [("add_directives", .method (.append "directives")),
     ("add_selections", .method (.append "selections"))]

/-- A query or a mutation; a query unless it is said otherwise. -/
def operationDefinition : NodeClass :=
  extend executableDefinition 5 "OperationDefinitionNode" "operation_definition"
    [("operation", .single), ("variable_definitions", .sequence)]
    [("__init__", .method (.initNode (some ("operation", .queryOperation)))),
     ("add_variable_definitions", .method (.append "variable_definitions")),
     ("has_name", .property (.isSet "name"))]

/-- A named selection of fields on a type. -/
def fragmentDefinition : NodeClass :=
  extend executableDefinition 6 "FragmentDefinitionNode" "fragment_definition"
    [("type_condition", .single)]
    []

/-- A variable of an operation with its type. -/
def variableDefinition : NodeClass :=
  extend node 7 "VariableDefinitionNode" "variable_definition"
    [("name", .single), ("type", .single), ("default_value", .single)]
    [("has_default_value", .property (.isSet "default_value"))]

/-! ### Selections -/

/-- What can be an element of a selection list. -/
def selection : NodeClass :=
  extend node 8 "SelectionNode" "selection"
    [("directives", .sequence)]
    [("add_directives", .method (.append "directives"))]

/-- A selected field with its arguments and selections. -/
def selectionField : NodeClass :=
  extend selection 9 "SelectionFieldNode" "selection_field"
    [("alias", .single), ("name", .single), ("arguments", .sequence), ("selections", .sequence)]
    [("add_arguments", .method (.append "arguments")),
     ("add_selections", .method (.append "selections")),
     ("has_alias", .property (.isSet "alias"))]

/-- The use of a named fragment. -/
def fragmentSpread : NodeClass :=
  extend selection 10 "FragmentSpreadNode" "fragment_spread"
    [("name", .single)]
    []

/-- A fragment without a name. -/
def inlineFragment : NodeClass :=
  extend selection 11 "InlineFragmentNode" "inline_fragment"
    [("type_condition", .single), ("selections", .sequence)]
    [("add_selections", .method (.append "selections"))]

/-- An argument of a field or a directive. -/
def argument : NodeClass :=
  extend node 12 "ArgumentNode" "argument"
    [("name", .single), ("value", .single)]
    []

/-! ### Directives -/

/-- A directive with its arguments. -/
def directive : NodeClass :=
  extend node 13 "DirectiveNode" "directive"
    [("name", .single), ("arguments", .sequence)]
    [("add_arguments", .method (.append "arguments"))]

/-! ### Values -/

/-- Literals and variables. -/
def value : NodeClass :=
  extend node 14 "ValueNode" "value"
    []
    []

/-- A variable; its value is its name. -/
def variableRef : NodeClass :=
  extend value 15 "VariableNode" "variable"
    [("name", .single)]
    [("value", .property (.sameAs "name"))]

/-- A whole number. -/
def intValue : NodeClass :=
  extend value 16 "IntValueNode" "int_value"
    [("value", .single)]
    []

/-- A floating-point number. -/
def floatValue : NodeClass :=
  extend value 17 "FloatValueNode" "float_value"
    [("value", .single)]
    []

/-- A text. -/
def stringValue : NodeClass :=
  extend value 18 "StringValueNode" "string_value"
    [("value", .single)]
    []

/-- A truth value. -/
def boolValue : NodeClass :=
  extend value 19 "BoolValueNode" "bool_value"
    [("value", .single)]
    []

/-- The null literal. -/
def nullValue : NodeClass :=
  extend value 20 "NullValueNode" "null_value"
    []
    [("value", .property .nothing)]

/-- An element of an enumeration; its value is its name. -/
def enumValue : NodeClass :=
  extend value 21 "EnumValueNode" "enum_value"
    [("name", .single)]
    [("value", .property (.sameAs "name"))]

/-- An object literal; its value is a dictionary. -/
def objectValue : NodeClass :=
  extend value 22 "ObjectValueNode" "object_value"
    [("fields", .sequence)]
    [("add_fields", .method (.append "fields")),
     ("value", .property .plainObject)]

/-- A field of an object literal, not of an object type. -/
def objectField : NodeClass :=
  extend node 23 "ObjectFieldNode" "object_field"
    [("name", .single), ("value", .single)]
    []

/-! ### Type references -/

/-- A reference to a type; nullable unless it is marked otherwise. -/
def typeRef : NodeClass :=
  extend node 24 "TypeNode" "type"
    [("nullable", .single)]
    [("__init__", .method (.initNode (some ("nullable", .isTrue)))),
     ("mark_non_null", .method .markNonNull)]

/-- A type by its name. -/
def namedType : NodeClass :=
  extend typeRef 25 "NamedTypeNode" "named_type"
    [("name", .single)]
    []

/-- A list of values of a type. -/
def listType : NodeClass :=
  extend typeRef 26 "ListTypeNode" "list_type"
    [("type", .single)]
    []

/-! ### Type system definitions -/

/-- Object, interface, enum, union and input types. -/
def typeSystemDefinition : NodeClass :=
  extend definition 27 "TypeSystemDefinitionNode" "type_system_definition"
    [("name", .single)]
    []

/-- An object type. -/
def objectDefinition : NodeClass :=
  extend typeSystemDefinition 28 "ObjectDefinitionNode" "object_definition"
    [("implements", .single), ("fields", .sequence)]
    [("set_implements", .method (.assign "implements")),
     ("add_fields", .method (.append "fields")),
     ("has_implements", .property (.isSet "implements"))]

/-- A field of an object type. -/
def objectFieldDefinition : NodeClass :=
  extend node 29 "ObjectFieldDefinitionNode" "object_field_definition"
    [("name", .single), ("type", .single), ("arguments", .sequence)]
    [("add_arguments", .method (.append "arguments"))]

/-- An argument of a field of an object type. -/
def objectFieldArgumentDefinition : NodeClass :=
  extend node 30 "ObjectFieldArgumentDefinitionNode" "object_field_argument_definition"
    [("name", .single), ("type", .single), ("default_value", .single)]
    [("has_default_value", .property (.isSet "default_value"))]

/-- An interface; its type resolver is accepted and never kept. -/
def interfaceDefinition : NodeClass :=
  extend typeSystemDefinition 31 "InterfaceDefinitionNode" "interface_definition"
    [("fields", .sequence)]
    [("set_type_resolver", .method .accept),
     ("add_fields", .method (.append "fields")),
     ("type_resolver", .property .nothing)]

/-- A field of an interface. -/
def interfaceFieldDefinition : NodeClass :=
  extend node 32 "InterfaceFieldDefinitionNode" "interface_field_definition"
    [("name", .single), ("type", .single)]
    []

/-- An enumeration. -/
def enumDefinition : NodeClass :=
  extend typeSystemDefinition 33 "EnumDefinitionNode" "enum_definition"
    [("elements", .sequence)]
    [("add_elements", .method (.append "elements"))]

/-- An element of an enumeration. -/
def enumElementDefinition : NodeClass :=
  extend node 34 "EnumElementDefinitionNode" "enum_element_definition"
    [("name", .single), ("value", .single)]
    []

/-- A union of types. -/
def unionDefinition : NodeClass :=
  extend typeSystemDefinition 35 "UnionDefinitionNode" "union_definition"
    [("types", .sequence)]
    [("add_types", .method (.append "types"))]

/-- An input type. -/
def inputDefinition : NodeClass :=
  extend typeSystemDefinition 36 "InputDefinitionNode" "input_definition"
    [("fields", .sequence)]
    [("add_fields", .method (.append "fields"))]

/-- A field of an input type. -/
def inputFieldDefinition : NodeClass :=
  extend node 37 "InputFieldDefinitionNode" "input_field_definition"
    [("name", .single), ("type", .single)]
    []

/-! ### The catalog -/

/-- All classes but the base of them, in the order of their declaration. -/
def builtin : List NodeClass :=
  [document, schema, definition, executableDefinition, operationDefinition, fragmentDefinition,
   variableDefinition, selection, selectionField, fragmentSpread, inlineFragment, argument,
   directive, value, variableRef, intValue, floatValue, stringValue, boolValue, nullValue,
   enumValue, objectValue, objectField, typeRef, namedType, listType, typeSystemDefinition,
   objectDefinition, objectFieldDefinition, objectFieldArgumentDefinition, interfaceDefinition,
   interfaceFieldDefinition, enumDefinition, enumElementDefinition, unionDefinition,
   inputDefinition, inputFieldDefinition]

end GraphQLTree.NodeClass

namespace GraphQLTree

/-- The catalog of the classes of the language. -/
def Catalog.language : Catalog :=
  (NodeClass.node :: NodeClass.builtin).reverse

/-! ### Variants

The elements of definition and selection lists belong to closed sets of classes, with the classes
derived from them. -/

/-- The classes that may stand in a definition list. -/
def definitionVariants : List NodeClass :=
  [.operationDefinition, .fragmentDefinition, .objectDefinition, .interfaceDefinition,
   .enumDefinition, .unionDefinition, .inputDefinition]

/-- The classes that may stand in a selection list. -/
def selectionVariants : List NodeClass :=
  [.selectionField, .fragmentSpread, .inlineFragment]

/-- The classes that may stand in a list of the given kind, if it is a list of variants. -/
def variants? (kind : String) : Option (List NodeClass) :=
  if kind = "definition" then some definitionVariants
  else if kind = "selection" then some selectionVariants
  else none

end GraphQLTree
