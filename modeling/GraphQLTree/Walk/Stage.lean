import GraphQLTree.Text.Quoted

/-! # Stages of a walk

A failure report lists the stages of the walk that were left on the way up: lists, elements of
lists, nodes of variant lists, and at last the visitor method that failed. -/

namespace GraphQLTree

/-- A visitor method is called when a node or a list is entered or left. -/
inductive Direction
  | enter
  | leave
  deriving DecidableEq, Repr

/-- The word for a direction, in method names and in stages. -/
def Direction.word : Direction → String
  | enter => "enter"
  | leave => "leave"

/-- A kind in plain words. -/
def plainKind (kind : String) : String :=
  String.ofList (kind.toList.map fun c => if c = '_' then ' ' else c)

/-- A stage of a walk. The kinds are given in plain words. -/
inductive Stage
  /-- A visitor method for a kind. -/
  | hook (words : String) (direction : Direction)
  /-- A list of the given kind. -/
  | list (words : String)
  /-- An element of such a list. -/
  | element (words : String)
  /-- The node that an element of a variant list is. -/
  | variant (words : String)
  deriving DecidableEq, Repr

/-- The text of a stage. -/
def Stage.text : Stage → String
  | hook words direction => "failed to visit " ++ words ++ " (" ++ direction.word ++ ")"
  | list words => "failed to visit " ++ words ++ " list"
  | element words => "failed to visit " ++ words
  | variant words => "failed to visit " ++ words

/-- The message about an element that does not belong into its list. -/
def invalidElementText (words description : String) : String :=
  "Invalid " ++ words ++ ": " ++ description ++ "."

end GraphQLTree
