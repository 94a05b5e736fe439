import GraphQLTree.Method.Construct
import GraphQLTree.Node.Declaration

/-! # Literals

A literal says how a value is made. Making it may fail, and making it twice gives two values; only a
name always stands for the same one. A list or a dictionary can be anchored, so that it can contain
itself. -/

namespace GraphQLTree

/-- How a value is made. -/
inductive Literal
  | null
  | bool (b : Bool)
  | int (n : Int)
  | text (s : String)
  | float (digits : String)
  | complex (re im : String)
  | bytes (bs : List UInt8)
  | buffer (bs : List UInt8)
  | list (anchor? : Option String) (items : List Literal)
  | tuple (form : TupleForm) (items : List Literal)
  | dict (anchor? : Option String) (entries : List (Literal × Literal))
  | set (frozen : Bool) (items : List Literal)
  /-- The enclosing list or dictionary with this anchor. -/
  | enclosing (anchor : String)
  | node (cls : String) (args : List (String × Literal))
  /-- The value bound to a name. -/
  | named (name : String)
  | operation (text : String)
  | skip
  | error (cls : String) (args : List Literal)
  /-- An error with its attribute `prune` assigned. -/
  | flagged (error flag : Literal)
  | type (name : String)
  | newType (name : String) (isError : Bool)
  /-- An object of a class of its own. -/
  | object (name : String) (isError : Bool)
  /-- An object of a class of its own, which has a method that describes it by a text. -/
  | describedBy (name : String) (isError : Bool) (description : String)
  /-- An object of a class of its own, which has any value in the place of such a method. -/
  | describedWith (name : String) (isError : Bool) (method : Literal)
  | callable (form : StubForm) (name : String)
  /-- A function bound to an object of a class of its own. -/
  | method (name : String)
  | builtin (name : String)
  | generator (name : String)
  deriving Repr, Inhabited

/-- What names stand for: classes, and values bound earlier. -/
structure Scope where
  catalog : Catalog
  names : List (String × Value)

/-- Binds a name; a later binding hides an earlier one. -/
def Scope.bind (scope : Scope) (name : String) (v : Value) : Scope :=
  { scope with names := (name, v) :: scope.names }

/-- The value bound to a name. -/
def Scope.value (scope : Scope) (name : String) : Effect Value :=
  match scope.names.lookup name with
  | some v => return v
  | none => Effect.fail (.missingKey (.text name))

/-- The class of a node. -/
def Scope.nodeClass (scope : Scope) (name : String) : Effect NodeClass :=
  match scope.catalog.find? name with
  | some c => return c
  | none => Effect.fail (.missingKey (.text name))

/-- The type of a name. -/
def Scope.type (scope : Scope) (name : String) : Effect Value :=
  match scope.catalog.find? name, ErrorClass.ofName? name, BasicType.ofName? name with
  | some c, _, _ => return .type (.node c)
  | none, some c, _ => return .type (.error c)
  | none, none, some t => return .type (.basic t)
  | none, none, none => Effect.fail (.missingKey (.text name))

/-- The number written by a text. -/
def readDouble (digits : String) : Effect Double :=
  match Reading.double? digits.toList with
  | some x => return x
  | none => Effect.fail (.invalidNumber (Text.quote digits))

/-- The class of an error. -/
def errorClass (name : String) : Effect ErrorClass :=
  match ErrorClass.ofName? name with
  | some c => return c
  | none => Effect.fail (.missingKey (.text name))

namespace Effect

/-- Appends an item to a list. -/
def push (list item : Value) : Effect Unit := do
  match list, (← get).cell? list with
  | .ref r, some (.list items) => put r (.list (items ++ [item]))
  | _, _ => return ()

/-- A built-in function; there is only one of a name. -/
def builtin (name : String) : Effect Value := do
  match (← get).cells.idxOf? (.builtin name) with
  | some r => return .ref r
  | none => alloc (.builtin name)

/-- A class made on its own. -/
def newType (name : String) (isError : Bool) : Effect TypeValue := do
  if name.toList.contains (Char.ofNat 0) then fail .badTypeName
  modifyGet fun s => (.made s.size, (s.alloc (.newType name isError)).2)

end Effect

/-- A new tuple; a version is made from its fields. -/
def Action.tupleOf (form : TupleForm) (items : List Value) : Action Value :=
  match form with
  | .version => makeVersion items []
  | .plain => Effect.tuple items
  | .frozen => Effect.frozen items

/-- A new object of a class of its own, where some value describes its objects. -/
def Action.objectOf (name : String) (isError : Bool) (method? : Option Value) : Action Value := do
  let t ← Effect.newType name isError
  match method? with
  | some f =>
    Effect.setClassAttr t.id "__inspect__" f
    announce name t "__inspect__" f
  | none => pure ()
  construct t [] []

/-- A new function bound to an object of a class of its own. -/
def Action.methodOf (name : String) : Action Value := do
  let t ← Effect.newType "Owner" false
  let f ← Effect.alloc (.stub .function name (.own []))
  Effect.setClassAttr t.id name f
  let owner ← Effect.alloc (.object ⟨t, [], .own []⟩)
  Effect.alloc (.bound owner f)

/-! ### Evaluation -/

/-- The enclosing lists and dictionaries by their anchors. -/
abbrev Anchors := List (String × Value)

/-- The anchors with a new one for a value. -/
def Anchors.add (anchors : Anchors) (anchor? : Option String) (v : Value) : Anchors :=
  match anchor? with
  | some anchor => (anchor, v) :: anchors
  | none => anchors

mutual

/-- Makes the value of a literal. -/
def Literal.evalIn (scope : Scope) (anchors : Anchors) : Literal → Action Value
  | .null => return .null
  | .bool b => return .bool b
  | .int n => return .int n
  | .text s => return .text s
  | .float digits => do Effect.float (← readDouble digits)
  | .complex re im => do Effect.complex (← readDouble re) (← readDouble im)
  | .bytes bs => return .bytes bs
  | .buffer bs => Effect.alloc (.buffer bs)
  | .list anchor? items => do
    let list ← Effect.list []
    evalInto scope (anchors.add anchor? list) list items
    return list
  | .tuple form items => do Action.tupleOf form (← evalAll scope anchors items)
  | .dict anchor? entries => do
    let dict ← Effect.alloc (.dict [])
    evalEntries scope (anchors.add anchor? dict) dict entries
    return dict
  | .set frozen items => do Action.setOf frozen (← evalAll scope anchors items)
  | .enclosing anchor =>
    match anchors.lookup anchor with
    | some v => return v
    | none => Action.fail (.missingKey (.text anchor))
  | .node cls args => do
    let c ← scope.nodeClass cls
    Action.construct (.node c) [] (← evalArgs scope anchors args)
  | .named name => scope.value name
  | .operation text =>
    match OperationType.ofText? text with
    | some op => return .operation op
    | none => Action.fail (.invalidOperation (Text.quote text))
  | .skip => return .skip
  | .error cls args => do
    let c ← errorClass cls
    Action.construct (.error c) (← evalAll scope anchors args) []
  | .flagged error flag => do
    let e ← error.evalIn scope anchors
    Action.setAttr e "prune" (← flag.evalIn scope anchors)
    return e
  | .type name => scope.type name
  | .newType name isError => return .type (← Effect.newType name isError)
  | .object name isError => Action.objectOf name isError none
  | .describedBy name isError description =>
    Action.objectOf name isError
      (some (.function ⟨name, "__inspect__", .answer description⟩))
  | .describedWith name isError method => do
    Action.objectOf name isError (some (← method.evalIn scope anchors))
  | .callable form name => Effect.alloc (.stub form name (.own []))
  | .method name => Action.methodOf name
  | .builtin name => Effect.builtin name
  | .generator name => Effect.alloc (.generator name .fresh)

/-- Makes the values of literals. -/
def evalAll (scope : Scope) (anchors : Anchors) : List Literal → Action (List Value)
  | [] => return []
  | l :: ls => do
    let v ← l.evalIn scope anchors
    return v :: (← evalAll scope anchors ls)

/-- Makes the items of a list. -/
def evalInto (scope : Scope) (anchors : Anchors) (list : Value) : List Literal → Action Unit
  | [] => return ()
  | l :: ls => do
    Effect.push list (← l.evalIn scope anchors)
    evalInto scope anchors list ls

/-- Makes the entries of a dictionary. -/
def evalEntries (scope : Scope) (anchors : Anchors) (dict : Value) :
    List (Literal × Literal) → Action Unit
  | [] => return ()
  | (key, value) :: entries => do
    let k ← key.evalIn scope anchors
    let v ← value.evalIn scope anchors
    Action.setKey dict k v
    evalEntries scope anchors dict entries

/-- Makes the arguments of a node. -/
def evalArgs (scope : Scope) (anchors : Anchors) : List (String × Literal) → Action Attrs
  | [] => return []
  | (key, l) :: args => do
    let v ← l.evalIn scope anchors
    return (key, v) :: (← evalArgs scope anchors args)

end

/-- Makes the value of a literal. -/
def Literal.eval (scope : Scope) (l : Literal) : Action Value :=
  l.evalIn scope []

/-! ### Declarations of a scope -/

/-- The scope with classes declared and values bound, one after the other. -/
def Scope.build (decls : List ClassDecl) (defs : List (String × Literal)) : Action Scope := do
  let catalog ← decls.foldlM (fun (catalog : Catalog) decl =>
    match catalog.declare decl with
    | .ok catalog => return catalog
    | .error e => Action.fail e.fault) Catalog.language
  defs.foldlM (fun (scope : Scope) (name, l) => do
    return scope.bind name (← l.eval scope)) ⟨catalog, []⟩

end GraphQLTree
