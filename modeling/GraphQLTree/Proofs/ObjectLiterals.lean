import GraphQLTree.Proofs.Faithfulness
import GraphQLTree.Proofs.Hashing

/-! # Object literals

A literal has a plain value (`Store.PlainValue`): what it holds if it is a constant, null, a name, or a
dictionary if it is an object literal. Fields of an object literal may have the same name. Then the
dictionary has the name once, in the place of the first of these fields and with the value of the last
one (`Store.Entered.concat`). Literals can be nested to any depth: they are not higher than there are
cells (`Store.IsLiteral.tall`), so their values can be read (`Store.IsLiteral.runOn_value`). A path of names
leads through the dictionary as it leads through the literal, where the last field of a name counts at
each level (`Store.followNames`, `Store.objectLiteral_value`). -/

namespace GraphQLTree

/-! ### Entries given one after the other -/

namespace Attrs

/-- The pairs with a value for a name: a name that is there keeps its place. -/
def entered (pairs : Attrs) (name : String) (x : Value) : Attrs :=
  if (pairs.lookup name).isSome then pairs.map fun p => if p.1 = name then (p.1, x) else p
  else pairs ++ [(name, x)]

theorem lookup_replaced (pairs : Attrs) (name other : String) (x : Value) :
    (pairs.map fun p => if p.1 = name then (p.1, x) else p).lookup other =
      if other = name then (pairs.lookup other).map fun _ => x else pairs.lookup other := by
  induction pairs with
  | nil => simp
  | cons p pairs ih =>
    obtain ⟨key, y⟩ := p
    have hpair : (if key = name then (key, x) else (key, y)) =
        (key, if key = name then x else y) := by
      split <;> rfl
    rw [List.map_cons, hpair, List.lookup_cons, List.lookup_cons, ih]
    by_cases ho : other = key
    · rw [beq_iff_eq.mpr ho, ho]
      dsimp only
      split <;> rfl
    · rw [beq_eq_false_iff_ne.mpr ho]

theorem lookup_entered (pairs : Attrs) (name other : String) (x : Value) :
    (pairs.entered name x).lookup other = if other = name then some x else pairs.lookup other := by
  unfold entered
  by_cases hn : (pairs.lookup name).isSome = true
  · rw [if_pos hn, lookup_replaced]
    by_cases ho : other = name
    · rw [if_pos ho, if_pos ho, ho]
      obtain ⟨y, hy⟩ := Option.isSome_iff_exists.mp hn
      rw [hy]
      rfl
    · rw [if_neg ho, if_neg ho]
  · rw [if_neg hn, List.lookup_append]
    by_cases ho : other = name
    · rw [if_pos ho, ho, Option.not_isSome_iff_eq_none.mp hn, List.lookup_cons, beq_self_eq_true]
      rfl
    · rw [if_neg ho, List.lookup_cons, beq_eq_false_iff_ne.mpr ho]
      exact Option.or_none

theorem lookup_isSome (pairs : Attrs) (name : String) :
    (pairs.lookup name).isSome = true ↔ name ∈ pairs.map Prod.fst := by
  rw [List.lookup_isSome_iff, List.mem_map]
  exact exists_congr fun p => and_congr_right fun _ => beq_iff_eq.trans eq_comm

theorem fst_entered (pairs : Attrs) (name : String) (x : Value) :
    (pairs.entered name x).map Prod.fst =
      if name ∈ pairs.map Prod.fst then pairs.map Prod.fst else pairs.map Prod.fst ++ [name] := by
  unfold entered
  by_cases hn : name ∈ pairs.map Prod.fst
  · rw [if_pos hn, if_pos ((lookup_isSome pairs name).mpr hn), List.map_map]
    refine List.map_congr_left fun p _ => ?_
    change (if p.1 = name then (p.1, x) else p).1 = p.1
    split <;> rfl
  · rw [if_neg hn, if_neg (mt (lookup_isSome pairs name).mp hn), List.map_append]
    rfl

end Attrs

/-- Of names that occur several times, the first occurrences stay. -/
theorem eraseDups_concat {α : Type} [BEq α] [LawfulBEq α] (l : List α) (a : α) :
    (l ++ [a]).eraseDups = if a ∈ l then l.eraseDups else l.eraseDups ++ [a] := by
  rw [List.eraseDups_append]
  by_cases ha : a ∈ l
  · simp [ha, List.removeAll]
  · simp [ha, List.removeAll, List.eraseDups_cons]

/-! ### What is found on both sides -/

section

variable {α β : Type} {R S : α → β → Prop} {a? : Option α} {b? : Option β}

theorem optionRel_mono (h : Option.Rel R a? b?) (hRS : ∀ {a b}, R a b → S a b) :
    Option.Rel S a? b? := by
  cases h with
  | some hab => exact .some (hRS hab)
  | none => exact .none

theorem exists_of_optionRel_some {b : β} (h : Option.Rel R a? (some b)) :
    ∃ a, a? = some a ∧ R a b := by
  cases h with
  | some hab => exact ⟨_, rfl, hab⟩

theorem eq_map_of_optionRel (h : Option.Rel R a? b?) (a : α) : a? = b?.map fun _ => a?.getD a := by
  cases h with
  | some hab => rfl
  | none => rfl

end

/-! ### Literals -/

/-- A value that a constant holds: a number, a text or a truth value. -/
def Value.isConstant : Value → Bool
  | bool _ | int _ | float _ _ | text _ => true
  | _ => false

namespace NodeClass

/-- The classes of the nodes that hold a constant. -/
def constants : List NodeClass :=
  [intValue, floatValue, stringValue, boolValue]

/-- The classes of the nodes that stand for a name. -/
def named : List NodeClass :=
  [variableRef, enumValue]

theorem constants_ne : ∀ c ∈ constants, c ≠ objectValue := by decide

theorem named_ne : ∀ c ∈ named, c ≠ objectValue := by decide

end NodeClass

namespace Store

variable {s s' s₀ : Store} {v w x : Value} {c : NodeClass} {name key : String} {k : Nat}
  {fields : List Value} {pairs : Attrs}

/-- A node of a class. -/
def OfClass (s : Store) (v : Value) (c : NodeClass) : Prop :=
  ∃ n, s.node? v = some n ∧ n.cls = c

/-- The fields of an object literal. -/
def literalFields? (s : Store) (v : Value) : Option (List Value) :=
  (s.node? v).bind fun n =>
    if n.cls = .objectValue then (n.slots.lookup "fields").bind s.sequence? else none

/-- The names of fields, in order. -/
def namesIn (s : Store) (fields : List Value) : List Value :=
  fields.filterMap fun field => s.step? field (.key "name")

/-- The value of the last field with a name. -/
def lastValue? (s : Store) (fields : List Value) (name : String) : Option Value :=
  (fields.reverse.find? fun field => s.step? field (.key "name") = some (.text name)).bind
    fun field => s.step? field (.key "value")

/-- The value of the last field with a name in a literal, if it is an object literal with such a
field. -/
def member? (s : Store) (v : Value) (name : String) : Option Value :=
  (s.literalFields? v).bind (s.lastValue? · name)

/-- The literal that a path of names leads to in a literal. -/
def followNames (s : Store) (v : Value) : List String → Option Value
  | [] => some v
  | name :: path => (s.member? v name).bind (s.followNames · path)

/-- A field of an object literal with a name and a value. -/
structure FieldNode (s : Store) (field : Value) (name : String) (value : Value) : Prop where
  cls : s.OfClass field .objectField
  name : s.step? field (.key "name") = some (.text name)
  value : s.step? field (.key "value") = some value

/-- A literal or a variable: a constant, null, a variable or an element of an enumeration with a
text for its name, or an object literal of fields with names and literals. -/
inductive IsLiteral (s : Store) : Value → Prop
  | constant {v x : Value} {c : NodeClass} : s.OfClass v c → c ∈ NodeClass.constants →
      s.step? v (.key "value") = some x → x.isConstant = true → IsLiteral s v
  | null {v : Value} : s.OfClass v .nullValue → IsLiteral s v
  | named {v : Value} {c : NodeClass} {name : String} : s.OfClass v c →
      c ∈ NodeClass.named → s.step? v (.key "name") = some (.text name) →
      IsLiteral s v
  | object {v : Value} {fields : List Value} (name : Value → String) (value : Value → Value) :
      s.literalFields? v = some fields →
      (∀ field ∈ fields, s.FieldNode field (name field) (value field)) →
      (∀ field ∈ fields, IsLiteral s (value field)) → IsLiteral s v

/-- The plain value `x`, kept in the store `s`, of a literal of the store `s₀`: what a constant holds,
null, a name, or a dictionary with the names of the fields in the order in which they occur first, each
with the plain value of the last field of the name. -/
inductive PlainValue (s₀ s : Store) : Value → Value → Prop
  | constant {v x : Value} {c : NodeClass} : s₀.OfClass v c → c ∈ NodeClass.constants →
      s₀.step? v (.key "value") = some x → x.isConstant = true → PlainValue s₀ s v x
  | null {v : Value} : s₀.OfClass v .nullValue → PlainValue s₀ s v .null
  | named {v : Value} {c : NodeClass} {name : String} : s₀.OfClass v c →
      c ∈ NodeClass.named → s₀.step? v (.key "name") = some (.text name) →
      PlainValue s₀ s v (.text name)
  | object {v : Value} {fields : List Value} {d : Ref} {pairs : Attrs} (value : String → Value) :
      s₀.literalFields? v = some fields → s.get? d = some (.dict (entriesOf pairs)) →
      pairs.map (fun p => Value.text p.1) = (s₀.namesIn fields).eraseDups →
      (∀ name, s₀.lastValue? fields name = (pairs.lookup name).map fun _ => value name) →
      (∀ name x, pairs.lookup name = some x → PlainValue s₀ s (value name) x) →
      PlainValue s₀ s v (.ref d)

theorem PlainValue.grows (h : PlainValue s₀ s v x) (hs : s.Grows s') : PlainValue s₀ s' v x := by
  induction h with
  | constant hv hc hx hconstant => exact .constant hv hc hx hconstant
  | null hv => exact .null hv
  | named hv hc hname => exact .named hv hc hname
  | object value hfields hd hkeys hlast _ ih =>
    exact .object value hfields (hs.get?_eq hd) hkeys hlast ih

/-! ### How deeply literals are nested -/

/-- Whether a value is that of a field of an object literal. -/
def Nested (s : Store) (v w : Value) : Prop :=
  ∃ fields, s.literalFields? v = some fields ∧
    ∃ field ∈ fields, s.step? field (.key "value") = some w

theorem Nested.lt_size (h : s.Nested v w) : ∃ r, r < s.size ∧ v = .ref r := by
  obtain ⟨fields, hf, -⟩ := h
  obtain ⟨n, hn, -⟩ := Option.bind_eq_some_iff.mp hf
  obtain ⟨r, rfl, hc⟩ := node?_some hn
  exact ⟨r, lt_size_of_get? hc, rfl⟩

theorem OfClass.literalFields?_eq_none (h : s.OfClass v c) (hc : c ≠ .objectValue) :
    s.literalFields? v = none := by
  obtain ⟨n, hn, rfl⟩ := h
  unfold literalFields?
  rw [hn, Option.bind_some, if_neg hc]

/-- A literal is not higher than there are cells. -/
theorem IsLiteral.tall (h : s.IsLiteral v) : Tall s.Nested (s.size + 1) v := by
  refine Tall.of_acyclic (fun _ _ => Nested.lt_size) ?_
  have hleaf {v : Value} {c : NodeClass} (hv : s.OfClass v c) (hc : c ≠ .objectValue) (w : Value)
      (hw : Relation.ReflTransGen s.Nested v w) : ¬ Relation.TransGen s.Nested w w := by
    refine Tall.acyclic_of_children (fun y hy => ?_) w hw
    obtain ⟨fields, hf, -⟩ := hy
    rw [hv.literalFields?_eq_none hc] at hf
    nomatch hf
  induction h with
  | constant hv hc => exact hleaf hv (NodeClass.constants_ne _ hc)
  | null hv => exact hleaf hv (by decide)
  | named hv hc => exact hleaf hv (NodeClass.named_ne _ hc)
  | object name value hfields hnode _ ih =>
    refine Tall.acyclic_of_children fun y hy => ?_
    obtain ⟨fields, hf, field, hmem, hy⟩ := hy
    obtain rfl := Option.some.inj (hfields.symm.trans hf)
    obtain rfl := Option.some.inj ((hnode field hmem).value.symm.trans hy)
    exact ih field hmem

/-! ### Reading the value of a literal -/

theorem node?_grows {n : NodeObject} (h : s.node? v = some n) (hs : s.Grows s') :
    s'.node? v = some n := by
  obtain ⟨r, rfl, hc⟩ := node?_some h
  unfold node?
  rw [cell?_ref (hs.get?_eq hc)]

theorem OfClass.grows (h : s.OfClass v c) (hs : s.Grows s') : s'.OfClass v c := by
  obtain ⟨n, hn, hc⟩ := h
  exact ⟨n, node?_grows hn hs, hc⟩

theorem step?_key_grows (h : s.step? v (.key key) = some x) (hs : s.Grows s') :
    s'.step? v (.key key) = some x := by
  obtain ⟨n, hn, hx⟩ := Option.bind_eq_some_iff.mp h
  exact Option.bind_eq_some_iff.mpr ⟨n, node?_grows hn hs, hx⟩

/-- A node of the library is read as its class says. -/
theorem OfClass.runOn_attr (h : s.OfClass v c) (hs : s.classAttrs = [])
    (hc : c ∈ NodeClass.library) :
    Effect.runOn (Action.attr v name (Behaviour.level (k + 1))) s =
      Effect.runOn (Action.readOwn v name (Behaviour.level k)) s := by
  obtain ⟨n, hn, rfl⟩ := h
  obtain ⟨r, rfl, hcell⟩ := node?_some hn
  have hspecial (name : String) (hname : name ∈ NodeClass.specialNames) :
      s.special? (s.typeOf (.ref r)) name = none := by
    rw [typeOf_ref hcell]
    exact (special?_node hs _ _).trans ((NodeClass.regular_library _ hc).special name hname)
  exact Action.runOn_readAttr (hspecial _ (by decide)) (hspecial _ (by decide)) name

theorem OfClass.classEntry? (h : s.OfClass v c) (hs : s.classAttrs = []) (name : String) :
    s.classEntry? (s.typeOf v) name = empty.classEntry? (.node c) name := by
  obtain ⟨n, hn, rfl⟩ := h
  obtain ⟨r, rfl, hcell⟩ := node?_some hn
  rw [typeOf_ref hcell]
  exact classEntry?_eq hs rfl name

theorem OfClass.runOn_key (h : s.OfClass v c) (hs : s.classAttrs = []) (hc : c ∈ NodeClass.library)
    (hx : s.step? v (.key key) = some x) :
    Effect.runOn (Action.attr v key (Behaviour.level (k + 1))) s = (.ok x, s) := by
  refine (h.runOn_attr hs hc).trans ?_
  obtain ⟨n, hn, hslot⟩ := Option.bind_eq_some_iff.mp hx
  obtain ⟨m, hm, rfl⟩ := id h
  obtain rfl := Option.some.inj (hn.symm.trans hm)
  obtain ⟨r, rfl, hcell⟩ := node?_some hn
  split at hslot
  · rename_i hkey
    obtain ⟨a, owner, he⟩ := (NodeClass.regular_library _ hc).key key hkey
    exact Action.runOn_readOwn_slot ((h.classEntry? hs key).trans he) (cell?_ref hcell) hslot
  · nomatch hslot

/-- The value of a literal that its class computes. -/
theorem OfClass.runOn_property (h : s.OfClass v c) (hs : s.classAttrs = [])
    (hc : c ∈ NodeClass.library) {p : Property} {a : Ancestor}
    (he : empty.classEntry? (.node c) "value" = some (a, .value (.property p))) :
    Effect.runOn (Action.attr v "value" (Behaviour.level (k + 1))) s =
      Effect.runOn (Action.readProperty v p (Behaviour.level k)) s := by
  refine (h.runOn_attr hs hc).trans ?_
  refine (Effect.runOn_bind_ok (Effect.runOn_get s) _).trans ?_
  rw [h.classEntry? hs, he]
  rfl

/-- A literal has a plain value, whatever was added to the store that it is in. -/
def Readable (s₀ : Store) (k : Nat) (v : Value) : Prop :=
  ∀ s, s₀.Grows s → ∃ x s',
    Effect.runOn (Action.attr v "value" (Behaviour.level k)) s = (.ok x, s') ∧
      s.Grows s' ∧ PlainValue s₀ s' v x

theorem readable_constant (hs : s₀.classAttrs = []) (hv : s₀.OfClass v c)
    (hc : c ∈ NodeClass.constants) (hx : s₀.step? v (.key "value") = some x)
    (hconstant : x.isConstant = true) : Readable s₀ (k + 1) v := by
  intro s hg
  have hlibrary : ∀ c ∈ NodeClass.constants, c ∈ NodeClass.library := by decide
  exact ⟨x, s, (hv.grows hg).runOn_key (hg.classAttrs.trans hs) (hlibrary c hc)
    (step?_key_grows hx hg), .refl s, .constant hv hc hx hconstant⟩

theorem readable_null (hs : s₀.classAttrs = []) (hv : s₀.OfClass v .nullValue) :
    Readable s₀ (k + 1) v := by
  intro s hg
  obtain ⟨a, he⟩ : ∃ a, empty.classEntry? (.node .nullValue) "value" =
      some (a, .value (.property .nothing)) := ⟨_, rfl⟩
  exact ⟨.null, s, (hv.grows hg).runOn_property (hg.classAttrs.trans hs) (by decide) he, .refl s,
    .null hv⟩

theorem readable_named (hs : s₀.classAttrs = []) (hv : s₀.OfClass v c)
    (hc : c ∈ NodeClass.named)
    (hname : s₀.step? v (.key "name") = some (.text name)) : Readable s₀ (k + 2) v := by
  intro s hg
  have hclass : ∀ c ∈ NodeClass.named, c ∈ NodeClass.library ∧ ∃ l ∈ c.lineage,
      empty.classEntry? (.node c) "value" =
        some (.node l, .value (.property (.sameAs "name"))) := by decide
  obtain ⟨hlibrary, l, -, he⟩ := hclass c hc
  have hs' := hg.classAttrs.trans hs
  refine ⟨.text name, s, ((hv.grows hg).runOn_property hs' hlibrary he).trans ?_, .refl s,
    .named hv hc hname⟩
  exact (hv.grows hg).runOn_key hs' hlibrary (step?_key_grows hname hg)

/-! ### Entering fields -/

/-- What the dictionary of an object literal holds when some of its fields were entered. -/
structure Entered (s₀ s : Store) (seen : List Value) (pairs : Attrs) : Prop where
  names : pairs.map (fun p => Value.text p.1) = (s₀.namesIn seen).eraseDups
  values : ∀ name, Option.Rel (PlainValue s₀ s) (s₀.lastValue? seen name) (pairs.lookup name)

theorem entered_nil : Entered s₀ s [] [] :=
  ⟨rfl, fun _ => .none⟩

theorem Entered.grows {seen : List Value} (h : Entered s₀ s seen pairs) (hs : s.Grows s') :
    Entered s₀ s' seen pairs :=
  ⟨h.names, fun name => optionRel_mono (h.values name) fun hx => hx.grows hs⟩

theorem lastValue?_concat {field : Value} (h : s.FieldNode field name w) (seen : List Value)
    (other : String) : s.lastValue? (seen ++ [field]) other =
      if other = name then some w else s.lastValue? seen other := by
  unfold lastValue?
  rw [List.reverse_append, List.reverse_singleton, List.singleton_append, List.find?_cons, h.name]
  by_cases ho : other = name
  · simp [ho, h.value]
  · have hne : (some (Value.text name) = some (Value.text other)) ↔ False := by
      simp [Ne.symm ho]
    simp [ho, hne]

/-- The next field is entered: its value is the last one of its name now. -/
theorem Entered.concat {seen : List Value} {field : Value} (h : Entered s₀ s seen pairs)
    (hfield : s₀.FieldNode field name w) (hx : PlainValue s₀ s w x) :
    Entered s₀ s (seen ++ [field]) (pairs.entered name x) := by
  have hnames : (s₀.namesIn (seen ++ [field])) = s₀.namesIn seen ++ [.text name] := by
    unfold namesIn
    rw [List.filterMap_append]
    simp [hfield.name]
  have hmap (pairs : Attrs) :
      pairs.map (fun p => Value.text p.1) = (pairs.map Prod.fst).map Value.text := by
    rw [List.map_map]
    rfl
  have hmem : Value.text name ∈ s₀.namesIn seen ↔ name ∈ pairs.map Prod.fst := by
    rw [← List.mem_eraseDups, ← h.names, hmap]
    exact List.mem_map_of_injective fun _ _ => Value.text.inj
  refine ⟨?_, fun other => ?_⟩
  · rw [hnames, eraseDups_concat, hmap, Attrs.fst_entered, ← h.names, hmap]
    by_cases hn : name ∈ pairs.map Prod.fst
    · rw [if_pos hn, if_pos (hmem.mpr hn)]
    · rw [if_neg hn, if_neg (mt hmem.mp hn), List.map_append]
      rfl
  · rw [lastValue?_concat hfield, Attrs.lookup_entered]
    by_cases ho : other = name
    · rw [if_pos ho, if_pos ho]
      exact .some hx
    · rw [if_neg ho, if_neg ho]
      exact h.values other

/-- When all fields were entered, the dictionary is the plain value of the literal. -/
theorem Entered.plainValue {r : Ref} (h : Entered s₀ s fields pairs)
    (hv : s₀.literalFields? v = some fields) (hr : s.get? r = some (.dict (entriesOf pairs))) :
    PlainValue s₀ s v (.ref r) := by
  refine .object (fun name => (s₀.lastValue? fields name).getD .null) hv hr h.names
    (fun name => eq_map_of_optionRel (h.values name) .null) fun name x hx => ?_
  have hvalue := h.values name
  rw [hx] at hvalue
  obtain ⟨w, hw, hplain⟩ := exists_of_optionRel_some hvalue
  rw [hw]
  exact hplain

theorem entriesOf_entered (pairs : Attrs) (name : String) (x : Value)
    (h : (pairs.lookup name).isSome = true) :
    (entriesOf pairs).map (fun e => if e.key = .text name then { e with value := x } else e) =
      entriesOf (pairs.entered name x) := by
  unfold entriesOf Attrs.entered
  rw [if_pos h, List.map_map, List.map_map]
  refine List.map_congr_left fun p _ => ?_
  change (if Value.text p.1 = .text name then { textEntry p.1 p.2 with value := x }
    else textEntry p.1 p.2) = textEntry (if p.1 = name then (p.1, x) else p).1
      (if p.1 = name then (p.1, x) else p).2
  by_cases hp : p.1 = name
  · rw [if_pos (congrArg Value.text hp), if_pos hp]
    rfl
  · rw [if_neg fun he => hp (Value.text.inj he), if_neg hp]

theorem runOn_setEntry (hs : s.classAttrs = []) (pairs : Attrs) (name : String) (x : Value) :
    Effect.runOn (Action.setEntry (entriesOf pairs) (textDigest name) (.text name) x
      (Behaviour.level (k + 1))) s = (.ok (entriesOf (pairs.entered name x)), s) := by
  refine (Action.runOn_bind_ok (runOn_findEntry hs name pairs) _).trans ?_
  cases hn : pairs.lookup name with
  | none =>
    unfold Attrs.entered
    rw [hn]
    unfold entriesOf
    rw [if_neg (by decide), List.map_append]
    rfl
  | some y =>
    rw [← entriesOf_entered pairs name x (by rw [hn]; rfl)]
    rfl

theorem FieldNode.grows {field : Value} (h : s.FieldNode field name w) (hs : s.Grows s') :
    s'.FieldNode field name w :=
  ⟨h.cls.grows hs, step?_key_grows h.name hs, step?_key_grows h.value hs⟩

end Store

namespace Action

/-- Enters a field of an object literal into the entries of a dictionary. -/
def enterField (entries : List Entry) (field : Value) : Action (List Entry) := do
  let name ← attr field "name"
  let value ← attr (← attr field "value") "value"
  setEntry entries (← digest name) name value

theorem readProperty_plainObject (v : Value) : readProperty v .plainObject = (do
    let entries ← (← items (← attr v "fields")).foldlM enterField []
    Effect.alloc (.dict entries) : Action Value) :=
  rfl

end Action

namespace Store

variable {s s' s₀ : Store} {v w x : Value} {c : NodeClass} {name : String} {k : Nat}
  {fields : List Value} {pairs : Attrs}

theorem runOn_enterField (hs : s₀.classAttrs = []) {field : Value}
    (hfield : s₀.FieldNode field name w) (hw : Readable s₀ (k + 1) w) {seen : List Value}
    (hg : s₀.Grows s) (h : Entered s₀ s seen pairs) :
    ∃ pairs' s', Effect.runOn (Action.enterField (entriesOf pairs) field
      (Behaviour.level (k + 1))) s = (.ok (entriesOf pairs'), s') ∧ s.Grows s' ∧
        Entered s₀ s' (seen ++ [field]) pairs' := by
  obtain ⟨x, s', hrun, hgrow, hx⟩ := hw s hg
  have hnode := hfield.grows hg
  have hs₁ := hg.classAttrs.trans hs
  have hs₂ := hgrow.classAttrs.trans hs₁
  have hdigest : Effect.runOn (Action.digest (.text name) (Behaviour.level (k + 1))) s' =
      (.ok (textDigest name), s') := runOn_digest_atom hs₂ rfl
  refine ⟨pairs.entered name x, s', ?_, hgrow, (h.grows hgrow).concat hfield hx⟩
  refine (Action.runOn_bind_ok (hnode.cls.runOn_key hs₁ (by decide) hnode.name) _).trans ?_
  refine (Action.runOn_bind_ok (hnode.cls.runOn_key hs₁ (by decide) hnode.value) _).trans ?_
  refine (Action.runOn_bind_ok hrun _).trans ?_
  refine (Action.runOn_bind_ok hdigest _).trans ?_
  exact runOn_setEntry hs₂ pairs name x

/-- Fields are entered one after the other, and the dictionary holds what the last of them say. -/
theorem runOn_enterFields (hs : s₀.classAttrs = []) {name : Value → String}
    {value : Value → Value} (hfields : ∀ field ∈ fields, s₀.FieldNode field (name field) (value field))
    (hvalues : ∀ field ∈ fields, Readable s₀ (k + 1) (value field)) {seen : List Value}
    (hg : s₀.Grows s) (h : Entered s₀ s seen pairs) :
    ∃ pairs' s', Effect.runOn (fields.foldlM Action.enterField (entriesOf pairs)
      (Behaviour.level (k + 1))) s = (.ok (entriesOf pairs'), s') ∧ s.Grows s' ∧
        Entered s₀ s' (seen ++ fields) pairs' := by
  induction fields generalizing seen pairs s with
  | nil => exact ⟨pairs, s, rfl, .refl s, (List.append_nil seen).symm ▸ h⟩
  | cons field fields ih =>
    obtain ⟨hfield, hfields⟩ := List.forall_mem_cons.mp hfields
    obtain ⟨hvalue, hvalues⟩ := List.forall_mem_cons.mp hvalues
    obtain ⟨pairs₁, s₁, hrun₁, hg₁, h₁⟩ := runOn_enterField hs hfield hvalue hg h
    obtain ⟨pairs₂, s₂, hrun₂, hg₂, h₂⟩ := ih hfields hvalues (trans_of Grows hg hg₁) h₁
    refine ⟨pairs₂, s₂, ?_, trans_of Grows hg₁ hg₂, ?_⟩
    · rw [List.foldlM_cons]
      exact (Action.runOn_bind_ok hrun₁ _).trans hrun₂
    · rwa [List.append_assoc, List.singleton_append] at h₂

theorem readable_object (hs : s₀.classAttrs = []) {name : Value → String} {value : Value → Value}
    (hv : s₀.literalFields? v = some fields)
    (hfields : ∀ field ∈ fields, s₀.FieldNode field (name field) (value field))
    (hvalues : ∀ field ∈ fields, Readable s₀ (k + 1) (value field)) : Readable s₀ (k + 2) v := by
  intro s hg
  obtain ⟨n, hn, hcls⟩ := Option.bind_eq_some_iff.mp hv
  split at hcls
  · rename_i hobject
    obtain ⟨t, ht, hi⟩ := Option.bind_eq_some_iff.mp hcls
    have hclass : s.OfClass v .objectValue := ⟨n, node?_grows hn hg, hobject⟩
    have hs₁ := hg.classAttrs.trans hs
    obtain ⟨a, he⟩ : ∃ a, empty.classEntry? (.node .objectValue) "value" =
        some (a, .value (.property .plainObject)) := ⟨_, rfl⟩
    have hstep : s.step? v (.key "fields") = some t := by
      refine Option.bind_eq_some_iff.mpr ⟨n, node?_grows hn hg, ?_⟩
      rw [hobject, if_pos (by decide), ht]
    obtain ⟨pairs, s', hrun, hgrow, hentered⟩ :=
      runOn_enterFields hs hfields hvalues hg entered_nil
    refine ⟨.ref s'.size, (s'.alloc (.dict (entriesOf pairs))).2,
      (hclass.runOn_property hs₁ (by decide) he).trans ?_,
      trans_of Grows hgrow (grows_alloc s' _), ?_⟩
    · rw [Action.readProperty_plainObject]
      refine (Action.runOn_bind_ok (hclass.runOn_key hs₁ (by decide) hstep) _).trans ?_
      refine (Action.runOn_bind_ok (runOn_items_sequence hs₁ (hg.sequence?_eq hi)) _).trans ?_
      exact Action.runOn_bind_ok hrun _
    · exact (hentered.grows (grows_alloc s' _)).plainValue hv (get?_alloc s' _)
  · nomatch hcls

/-- The induction is on how high a literal is: each level of it uses one level of the behaviour. -/
theorem readable_of_literal (hs : s₀.classAttrs = []) (h : s₀.IsLiteral v) {height : Nat}
    (hd : Tall s₀.Nested height v) : Readable s₀ (height + k + 2) v := by
  induction height generalizing v with
  | zero => exact hd.elim
  | succ height ih =>
    rw [show height + 1 + k + 2 = height + k + 1 + 2 from by omega]
    cases h with
    | constant hv hc hx hconstant => exact readable_constant hs hv hc hx hconstant
    | null hv => exact readable_null hs hv
    | named hv hc hname => exact readable_named hs hv hc hname
    | object name value hv hfields hvalues =>
      refine readable_object hs hv hfields fun field hmem => ?_
      exact ih (hvalues field hmem) (hd _ ⟨_, hv, field, hmem, (hfields field hmem).value⟩)

/-- The value of a literal can be read, however deeply it is nested. -/
theorem IsLiteral.runOn_value (hs : s.classAttrs = []) (h : s.IsLiteral v) :
    ∃ x s', (Action.attr v "value").perform.runOn s = (.ok x, s') ∧ s.Grows s' ∧
      PlainValue s s' v x := by
  obtain ⟨x, s', hrun, hgrow, hx⟩ :=
    readable_of_literal (k := 7 * s.size + 997) hs h h.tall s (.refl s)
  refine ⟨x, s', ?_, hgrow, hx⟩
  rw [Action.runOn_perform,
    show s.depthLimit = s.size + 1 + (7 * s.size + 997) + 2 by unfold depthLimit; omega]
  exact hrun

/-! ### Following paths -/

theorem exists_runOn_failOn {α : Type} (fault : String → Fault) (v : Value) (s : Store)
    (b : Behaviour) :
    ∃ e s', Effect.runOn ((Action.failOn fault v : Action α) b) s = (.error e, s') :=
  ⟨.raised s.size, (s.alloc (.error (.ofArgs (fault (s.typeName v)).errorClass
    (fault (s.typeName v)).args))).2, rfl⟩

/-- A name is no place in a sequence. -/
theorem exists_runOn_itemAt (type place : String) (items : List Value) (name : String) (s : Store)
    (b : Behaviour) :
    ∃ e s', Effect.runOn (Action.itemAt type place items (.text name) b) s = (.error e, s') := by
  obtain ⟨e, s', hnumber⟩ : ∃ e s', Effect.runOn (Action.placeNumber type (.text name) b) s =
      (.error e, s') := exists_runOn_failOn (α := Int) (.badIndex type) (.text name) s b
  have hplace : Effect.runOn (Action.placeAt type place items.length (.text name) b) s =
      (.error e, s') :=
    Effect.runOn_bind_error hnumber fun i => Action.placeWithin place items.length i b
  exact ⟨e, s', Effect.runOn_bind_error hplace fun i => pure (items[i]?.getD .null)⟩

/-- What is not kept in a cell has no items with names. -/
theorem runOn_item_error (hs : s.classAttrs = []) (hx : x.isConstant = true ∨ x = .null)
    (name : String) : ∃ e s',
      Effect.runOn (Action.item x (.text name) (Behaviour.level (k + 1))) s = (.error e, s') := by
  have hspecial : s.special? (s.typeOf x) "__getitem__" = none := by
    rcases hx with hx | rfl
    · cases x with
      | bool | int | float | text => exact special?_basic hs _ _
      | _ => nomatch hx
    · exact special?_basic hs _ _
  have hget : Effect.runOn (Action.special? x "__getitem__" (Behaviour.level (k + 1))) s =
      (.ok none, s) := by
    rw [Action.runOn_special?, hspecial]
  obtain ⟨e, s', hfail⟩ :=
    exists_runOn_failOn (α := Value) .notSubscriptable x s (Behaviour.level (k + 1))
  rcases hx with hx | rfl
  · cases x with
    | text t =>
      obtain ⟨e, s', hitem⟩ := exists_runOn_itemAt "string" "string index"
        ((s.items? (.text t)).getD []) name s (Behaviour.level (k + 1))
      refine ⟨e, s', (Action.runOn_bind_ok hget _).trans ?_⟩
      exact (Action.runOn_bind_ok (Action.runOn_get s) _).trans hitem
    | bool | int | float =>
      refine ⟨e, s', (Action.runOn_bind_ok hget _).trans ?_⟩
      exact (Action.runOn_bind_ok (Action.runOn_get s) _).trans hfail
    | _ => nomatch hx
  · refine ⟨e, s', (Action.runOn_bind_ok hget _).trans ?_⟩
    exact (Action.runOn_bind_ok (Action.runOn_get s) _).trans hfail

/-- An effect gives the plain value of the literal that is found, if one is found, and fails
otherwise. -/
structure GivesPlain (s₀ s : Store) (effect : Effect Value) (found : Option Value) : Prop where
  ofSome : ∀ {w}, found = some w → ∃ x, effect.runOn s = (.ok x, s) ∧ PlainValue s₀ s w x
  ofNone : found = none → ∃ e s', effect.runOn s = (.error e, s')

/-- The items of a plain value are the plain values of the last fields of their names. -/
theorem PlainValue.runOn_item (hs : s.classAttrs = []) (h : PlainValue s₀ s v x) (name : String) :
    GivesPlain s₀ s (Action.item x (.text name) (Behaviour.level (k + 1))) (s₀.member? v name) := by
  have hleaf {c : NodeClass} (hv : s₀.OfClass v c) (hc : c ≠ .objectValue)
      (hx : x.isConstant = true ∨ x = .null) :
      GivesPlain s₀ s (Action.item x (.text name) (Behaviour.level (k + 1))) (s₀.member? v name) := by
    have hnone : s₀.member? v name = none := by
      unfold member?
      rw [hv.literalFields?_eq_none hc]
      rfl
    rw [hnone]
    exact ⟨nofun, fun _ => runOn_item_error hs hx name⟩
  cases h with
  | constant hv hc _ hconstant =>
    exact hleaf hv (NodeClass.constants_ne _ hc) (.inl hconstant)
  | null hv => exact hleaf hv (by decide) (.inr rfl)
  | named hv hc _ => exact hleaf hv (NodeClass.named_ne _ hc) (.inl rfl)
  | @object v fields d pairs value hfields hd hkeys hlast hvalues =>
    have hmember : s₀.member? v name = (pairs.lookup name).map fun _ => value name := by
      unfold member?
      rw [hfields, Option.bind_some, hlast]
    have hspecial : s.special? (s.typeOf (.ref d)) "__getitem__" = none := by
      rw [typeOf_ref hd]
      exact special?_basic hs _ _
    have hdigest : Effect.runOn (Action.digest (.text name) (Behaviour.level (k + 1))) s =
        (.ok (textDigest name), s) := runOn_digest_atom hs rfl
    have hentry : Effect.runOn (Action.entry? (entriesOf pairs) (.text name)
        (Behaviour.level (k + 1))) s = (.ok ((pairs.lookup name).map (textEntry name)), s) :=
      (Action.runOn_bind_ok hdigest _).trans (runOn_findEntry hs name pairs)
    have hitem : Effect.runOn (Action.item (.ref d) (.text name) (Behaviour.level (k + 1))) s =
        Effect.runOn (((pairs.lookup name).map pure).getD
          (Effect.fail (.missingKey (.text name)))) s := by
      refine (Action.runOn_bind_ok (Action.runOn_special? "__getitem__") _).trans ?_
      rw [hspecial]
      refine (Action.runOn_bind_ok (Action.runOn_get s) _).trans ?_
      rw [cell?_ref hd]
      refine (Action.runOn_bind_ok hentry _).trans ?_
      cases pairs.lookup name <;> rfl
    rw [hmember]
    cases hn : pairs.lookup name with
    | none =>
      rw [hn] at hitem
      exact ⟨nofun, fun _ => ⟨.raised s.size, _, hitem.trans rfl⟩⟩
    | some y =>
      rw [hn] at hitem
      refine ⟨fun hw => ⟨y, hitem.trans rfl, ?_⟩, nofun⟩
      rw [← Option.some.inj hw]
      exact hvalues name y hn

end Store

/-- The items of the items of a value, along a path of names. -/
def Action.itemAlong (v : Value) (path : List String) : Action Value :=
  path.foldlM (fun x name => item x (.text name)) v

namespace Store

variable {s s₀ : Store} {v x : Value} {k : Nat}

theorem PlainValue.runOn_itemAlong (hs : s.classAttrs = []) (h : PlainValue s₀ s v x)
    (path : List String) :
    GivesPlain s₀ s (Action.itemAlong x path (Behaviour.level (k + 1))) (s₀.followNames v path) := by
  induction path generalizing v x with
  | nil => exact ⟨fun hw => ⟨x, rfl, Option.some.inj hw ▸ h⟩, nofun⟩
  | cons name path ih =>
    have hitem := h.runOn_item (k := k) hs name
    unfold followNames
    cases hm : s₀.member? v name with
    | none =>
      obtain ⟨e, s', he⟩ := hitem.ofNone hm
      exact ⟨nofun, fun _ => ⟨e, s', Effect.runOn_bind_error he _⟩⟩
    | some w =>
      obtain ⟨y, hy, hplain⟩ := hitem.ofSome hm
      have hrest := ih hplain
      have hrun : Effect.runOn (Action.itemAlong x (name :: path) (Behaviour.level (k + 1))) s =
          Effect.runOn (Action.itemAlong y path (Behaviour.level (k + 1))) s :=
        Action.runOn_bind_ok hy _
      refine ⟨fun hw => ?_, fun hw => ?_⟩
      · rw [hrun]
        exact hrest.ofSome hw
      · rw [hrun]
        exact hrest.ofNone hw

/-- The value of an object literal is a dictionary of the names of its fields, each once and in the
order in which they occur first. A path of names leads to something in the dictionary exactly if it
leads to something in the literal, where the last field counts at each level; it leads to the plain
value then. -/
theorem objectLiteral_value (hs : s.classAttrs = []) (h : s.IsLiteral v) {fields : List Value}
    (hv : s.literalFields? v = some fields) :
    ∃ d s', (Action.attr v "value").perform.runOn s = (.ok (.ref d), s') ∧ s.Grows s' ∧
      (∃ entries, s'.get? d = some (.dict entries) ∧
        entries.map Entry.key = (s.namesIn fields).eraseDups) ∧
      ∀ path : List String,
        ((∃ x s'', (Action.itemAlong (.ref d) path).perform.runOn s' = (.ok x, s'')) ↔
          ∃ w, s.followNames v path = some w) ∧
        ∀ w, s.followNames v path = some w → ∃ x,
          (Action.itemAlong (.ref d) path).perform.runOn s' = (.ok x, s') ∧ PlainValue s s' w x := by
  obtain ⟨x, s', hrun, hg, hplain⟩ := h.runOn_value hs
  have hgives (path : List String) :
      GivesPlain s s' (Action.itemAlong x path).perform (s.followNames v path) := by
    have hpath := hplain.runOn_itemAlong (k := s'.innerDepth) (hg.classAttrs.trans hs) path
    rw [← depthLimit_eq] at hpath
    refine ⟨fun hw => ?_, fun hw => ?_⟩
    · rw [Action.runOn_perform]
      exact hpath.ofSome hw
    · rw [Action.runOn_perform]
      exact hpath.ofNone hw
  obtain ⟨d, rfl, hd⟩ : ∃ d, x = .ref d ∧ ∃ entries, s'.get? d = some (.dict entries) ∧
      entries.map Entry.key = (s.namesIn fields).eraseDups := by
    have hnot {c : NodeClass} (hclass : s.OfClass v c) (hc : c ≠ .objectValue) : False := by
      rw [hclass.literalFields?_eq_none hc] at hv
      nomatch hv
    cases hplain with
    | constant hclass hc => exact (hnot hclass (NodeClass.constants_ne _ hc)).elim
    | null hclass => exact (hnot hclass (by decide)).elim
    | named hclass hc => exact (hnot hclass (NodeClass.named_ne _ hc)).elim
    | @object v fields' d pairs value hfields hd hkeys _ _ =>
      obtain rfl := Option.some.inj (hfields.symm.trans hv)
      refine ⟨d, rfl, entriesOf pairs, hd, ?_⟩
      rw [← hkeys]
      exact List.map_map
  refine ⟨d, s', hrun, hg, hd, fun path => ⟨⟨?_, ?_⟩, fun w => (hgives path).ofSome⟩⟩
  · rintro ⟨y, s'', hy⟩
    cases hw : s.followNames v path with
    | some w => exact ⟨w, rfl⟩
    | none =>
      obtain ⟨e, s₁, he⟩ := (hgives path).ofNone hw
      rw [hy] at he
      nomatch he
  · rintro ⟨w, hw⟩
    obtain ⟨y, hy, -⟩ := (hgives path).ofSome hw
    exact ⟨y, s', hy⟩

/-- An object literal with two fields of one name and one of another name that holds an object literal
itself. -/
def nestedLiteral : Store where
  cells := #[constant .intValue (.int 1), node .nullValue [], field "c" 1,
    .tuple .frozen [.ref 2] (.own []), node .objectValue [("fields", .ref 3)],
    constant .stringValue (.text "x"), field "a" 0, field "b" 4, field "a" 5,
    .tuple .frozen [.ref 6, .ref 7, .ref 8] (.own []), node .objectValue [("fields", .ref 9)]]
  nextTag := 0
  classAttrs := []
  functionData := []
where
  /-- A node of a class. -/
  node (c : NodeClass) (slots : Attrs) : Cell :=
    .node ⟨c, slots, .own [], none⟩
  /-- A constant. -/
  constant (c : NodeClass) (x : Value) : Cell :=
    node c [("value", x)]
  /-- A field with a name and the place of its value. -/
  field (name : String) (value : Ref) : Cell :=
    node .objectField [("name", .text name), ("value", .ref value)]

theorem nestedLiteral_literal : nestedLiteral.IsLiteral (.ref 10) := by
  have hfield {r value : Ref} {name : String}
      (hr : nestedLiteral.get? r = some (nestedLiteral.field name value)) :
      nestedLiteral.FieldNode (.ref r) name (.ref value) := by
    have hnode : nestedLiteral.node? (.ref r) =
        some ⟨.objectField, [("name", .text name), ("value", .ref value)], .own [], none⟩ := by
      unfold node?
      rw [cell?_ref hr]
      rfl
    refine ⟨⟨_, hnode, rfl⟩, ?_, ?_⟩ <;>
    · unfold step?
      rw [hnode]
      rfl
  have hone : nestedLiteral.IsLiteral (.ref 0) :=
    .constant (c := .intValue) (x := .int 1) ⟨_, rfl, rfl⟩ (by decide) rfl rfl
  have htext : nestedLiteral.IsLiteral (.ref 5) :=
    .constant (c := .stringValue) (x := .text "x") ⟨_, rfl, rfl⟩ (by decide) rfl rfl
  have hnull : nestedLiteral.IsLiteral (.ref 1) := .null ⟨_, rfl, rfl⟩
  have hinner : nestedLiteral.literalFields? (.ref 4) = some [.ref 2] := rfl
  have hobject : nestedLiteral.IsLiteral (.ref 4) :=
    .object (fun _ => "c") (fun _ => .ref 1) hinner (List.forall_mem_singleton.mpr (hfield rfl))
      (List.forall_mem_singleton.mpr hnull)
  have houter : nestedLiteral.literalFields? (.ref 10) = some [.ref 6, .ref 7, .ref 8] := rfl
  refine .object (fun field => if field = .ref 7 then "b" else "a")
    (fun field => if field = .ref 6 then .ref 0 else if field = .ref 7 then .ref 4 else .ref 5)
    houter ?_ ?_
  · simp only [List.forall_mem_cons, List.not_mem_nil, false_implies, implies_true, and_true]
    exact ⟨hfield rfl, hfield rfl, hfield rfl⟩
  · simp only [List.forall_mem_cons, List.not_mem_nil, false_implies, implies_true, and_true]
    exact ⟨hone, hobject, htext⟩

theorem objectLiteral_value_nestedLiteral :
    nestedLiteral.classAttrs = [] ∧ nestedLiteral.IsLiteral (.ref 10) ∧
      nestedLiteral.literalFields? (.ref 10) = some [.ref 6, .ref 7, .ref 8] ∧
      ∃ d s', (Action.attr (.ref 10) "value").perform.runOn nestedLiteral = (.ok (.ref d), s') ∧
        (∃ entries, s'.get? d = some (.dict entries) ∧
          entries.map Entry.key = [.text "a", .text "b"]) ∧
        (∃ x, (Action.itemAlong (.ref d) ["a"]).perform.runOn s' = (.ok x, s') ∧
          PlainValue nestedLiteral s' (.ref 5) x) ∧
        (∃ x, (Action.itemAlong (.ref d) ["b", "c"]).perform.runOn s' = (.ok x, s') ∧
          PlainValue nestedLiteral s' (.ref 1) x) ∧
        ¬ ∃ x s'', (Action.itemAlong (.ref d) ["a", "c"]).perform.runOn s' = (.ok x, s'') := by
  have hv : nestedLiteral.literalFields? (.ref 10) = some [.ref 6, .ref 7, .ref 8] := rfl
  have hnames : (nestedLiteral.namesIn [.ref 6, .ref 7, .ref 8]).eraseDups =
      [.text "a", .text "b"] := by decide
  have hnone : nestedLiteral.followNames (.ref 10) ["a", "c"] = none := by decide
  obtain ⟨d, s', hrun, -, ⟨entries, hd, hkeys⟩, hpaths⟩ :=
    objectLiteral_value rfl nestedLiteral_literal hv
  refine ⟨rfl, nestedLiteral_literal, hv, d, s', hrun, ⟨entries, hd, hkeys.trans hnames⟩,
    (hpaths ["a"]).2 _ (by decide), (hpaths ["b", "c"]).2 _ (by decide), ?_⟩
  rw [(hpaths ["a", "c"]).1, hnone]
  exact nofun

end Store
end GraphQLTree
