import GraphQLTree.Node.Dictionary
import GraphQLTree.Proofs.Equality
import GraphQLTree.Proofs.Making

/-! # Dictionaries of trees

A syntax tree is made of nodes of the library, child sequences and scalars, with operation types under
the keys for them (`Store.SyntaxTree`). It is shown as a dictionary in one way only
(`Store.ShownAs`, `Store.runOn_dictionary`): a node as a dictionary of its kind and its keys in order, a
sequence as a list of the same length, and an operation type as its text. Nothing else remains in such
a dictionary (`Store.ShownAs.isData`). -/

namespace GraphQLTree

/-! ### Syntax trees -/

/-- A value that stays as it is: null, a truth value, a whole number or a text. -/
def Value.isScalar : Value → Bool
  | null | bool _ | int _ | text _ => true
  | _ => false

namespace NodeClass

theorem kind_library : ∀ c ∈ library, ∃ l ∈ c.lineage,
    Store.empty.classEntry? (.node c) "kind" = some (.node l, .value (.text c.kind)) := by
  decide +kernel

theorem kind_notMem_keys : ∀ c ∈ library, "kind" ∉ c.keys := by
  decide +kernel

end NodeClass

namespace Store

variable {s s' s₀ : Store} {r q t d : Ref} {n m : NodeObject} {v w x y : Value} {k : Nat}

/-- A node of a class of the library that has no kind of its own. -/
structure LibraryNode (s : Store) (r : Ref) (n : NodeObject) : Prop where
  regular : s.RegularNode r n
  cls : n.cls ∈ NodeClass.library
  kind : s.field? (.ref r) "kind" = none

theorem LibraryNode.grows (h : s.LibraryNode r n) (hs : s.Grows s') : s'.LibraryNode r n := by
  have hcell := hs.get?_eq h.regular.cell
  refine ⟨⟨hs.classAttrs.trans h.regular.classAttrs, hcell, h.regular.cls, h.regular.fields⟩,
    h.cls, ?_⟩
  have hkind := h.kind
  obtain ⟨attrs, ha, -⟩ := h.regular.fields
  simp only [field?, cell?_ref hcell, cell?_ref h.regular.cell, Option.bind_some, Cell.fields?,
    ha] at hkind ⊢
  exact hkind

theorem LibraryNode.runOn_kind (h : s.LibraryNode r n) :
    Effect.runOn (Action.attr (.ref r) "kind" (Behaviour.level (k + 1))) s =
      (.ok (.text n.cls.kind), s) := by
  obtain ⟨l, -, he⟩ := NodeClass.kind_library _ h.cls
  refine (h.regular.runOn_readAttr "kind").trans ?_
  exact Action.runOn_readOwn_text ((h.regular.classEntry? "kind").trans he) h.kind

/-- A tree of nodes of the library, down to its leaves. Where an operation type belongs there is one, and
nowhere else; `value` tells what the keys of a node hold. -/
inductive SyntaxTree (s : Store) : Value → Prop
  | scalar {v : Value} : v.isScalar = true → SyntaxTree s v
  | node {r : Ref} {n : NodeObject} (value : String → Value) : s.LibraryNode r n →
      (∀ key ∈ n.cls.keys, n.slots.lookup key = some (value key)) →
      (∀ key ∈ n.cls.keys, key = "operation" → ∃ op, value key = .operation op) →
      (∀ key ∈ n.cls.keys, key ≠ "operation" → SyntaxTree s (value key)) → SyntaxTree s (.ref r)
  | sequence {t : Ref} {items : List Value} : s.frozen? (.ref t) = some items →
      (∀ x ∈ items, SyntaxTree s x) → SyntaxTree s (.ref t)

theorem isLeaf_of_isScalar (h : v.isScalar = true) : v.isLeaf = true := by
  cases v with
  | null | bool | int | text => rfl
  | _ => nomatch h

theorem RegularNode.child (h : s.RegularNode r n) (hc : s.Child (.ref r) x) :
    ∃ key ∈ n.cls.keys, n.slots.lookup key = some x := by
  obtain ⟨e, he⟩ := hc
  cases e with
  | item => simp [Store.step?, frozen?, cell?_ref h.cell] at he
  | key name =>
    simp only [Store.step?, h.node?, Option.bind_some] at he
    split at he
    · exact ⟨name, ‹_›, he⟩
    · cases he

theorem child_frozen {items : List Value} (h : s.frozen? (.ref t) = some items)
    (hc : s.Child (.ref t) x) : x ∈ items := by
  obtain ⟨e, he⟩ := hc
  cases e with
  | key => simp [Store.step?, node?, cell?_ref (cell_of_frozen? h)] at he
  | item place =>
    simp only [Store.step?, h, Option.bind_some] at he
    exact List.mem_of_getElem? he

theorem not_child_leaf (h : v.isLeaf = true) : ¬ s.Child v x := by
  rintro ⟨e, he⟩
  rw [step?_leaf h] at he
  nomatch he

/-- A syntax tree is not higher than there are cells. -/
theorem SyntaxTree.tall (h : s.SyntaxTree v) : Tall s.Child (s.size + 1) v := by
  refine Tall.of_acyclic (fun _ _ => Child.lt_size) ?_
  induction h with
  | scalar hv => exact Tall.acyclic_of_children fun y hy => absurd hy (not_child_leaf (isLeaf_of_isScalar hv))
  | node value hn hvalue hop _ ih =>
    refine Tall.acyclic_of_children fun y hy => ?_
    obtain ⟨key, hkey, hx⟩ := hn.regular.child hy
    obtain rfl := Option.some.inj ((hvalue key hkey).symm.trans hx)
    by_cases ho : key = "operation"
    · obtain ⟨op, hvop⟩ := hop key hkey ho
      rw [hvop]
      exact Tall.acyclic_of_children fun z hz => absurd hz (not_child_leaf rfl)
    · exact ih key hkey ho
  | sequence hi _ ih => exact Tall.acyclic_of_children fun y hy => ih y (child_frozen hi hy)

theorem SyntaxTree.grows (h : s.SyntaxTree v) (hs : s.Grows s') : s'.SyntaxTree v := by
  induction h with
  | scalar hv => exact .scalar hv
  | node value hn hvalue hop _ ih => exact .node value (hn.grows hs) hvalue hop ih
  | sequence hi _ ih => exact .sequence (frozen?_grows hs hi) ih

/-! ### What trees are shown as -/

/-- The entries of a dictionary whose keys are texts. -/
def entriesOf (pairs : Attrs) : List Entry :=
  pairs.map fun p => textEntry p.1 p.2

/-- What is shown for a syntax tree: for a node a dictionary of its kind and then its keys, in order, and
for a sequence a list of what is shown for its items. -/
inductive ShownAs (s : Store) : Value → Value → Prop
  | scalar {v : Value} : v.isScalar = true → ShownAs s v v
  | node {r d : Ref} {n : NodeObject} (value : String → Value) (shown : Attrs) : s.LibraryNode r n →
      (∀ key ∈ n.cls.keys, n.slots.lookup key = some (value key)) →
      s.get? d = some (.dict (entriesOf (("kind", .text n.cls.kind) :: shown))) →
      shown.map Prod.fst = n.cls.keys →
      (∀ p ∈ shown, p.1 = "operation" → ∃ op, value p.1 = .operation op ∧ p.2 = .text op.text) →
      (∀ p ∈ shown, p.1 ≠ "operation" → ShownAs s (value p.1) p.2) → ShownAs s (.ref r) (.ref d)
  | sequence {t d : Ref} {items shown : List Value} : s.frozen? (.ref t) = some items →
      s.get? d = some (.list shown) → items.length = shown.length →
      (∀ p ∈ items.zip shown, ShownAs s p.1 p.2) → ShownAs s (.ref t) (.ref d)

/-- Plain data: scalars, and dictionaries and lists of plain data. -/
inductive IsData (s : Store) : Value → Prop
  | scalar {v : Value} : v.isScalar = true → IsData s v
  | dict {d : Ref} {pairs : Attrs} : s.get? d = some (.dict (entriesOf pairs)) →
      (∀ p ∈ pairs, IsData s p.2) → IsData s (.ref d)
  | list {d : Ref} {items : List Value} : s.get? d = some (.list items) →
      (∀ x ∈ items, IsData s x) → IsData s (.ref d)

theorem exists_mem_zip {xs ys : List Value} (h : xs.length = ys.length) (hy : y ∈ ys) :
    ∃ x, (x, y) ∈ xs.zip ys := by
  induction xs generalizing ys with
  | nil =>
    rw [List.eq_nil_of_length_eq_zero h.symm] at hy
    nomatch hy
  | cons x xs ih =>
    obtain ⟨z, ys, rfl⟩ := List.exists_cons_of_length_eq_add_one h.symm
    rcases List.mem_cons.mp hy with rfl | hy
    · exact ⟨x, List.mem_cons_self ..⟩
    · obtain ⟨x, hx⟩ := ih (Nat.succ.inj h) hy
      exact ⟨x, List.mem_cons_of_mem _ hx⟩

/-- No node, child sequence or operation type remains in what is shown. -/
theorem ShownAs.isData (h : s.ShownAs v x) : s.IsData x := by
  induction h with
  | scalar hv => exact .scalar hv
  | node value shown _ _ hd _ hop _ ih =>
    refine .dict hd fun p hp => ?_
    rcases List.mem_cons.mp hp with rfl | hp
    · exact .scalar rfl
    · by_cases ho : p.1 = "operation"
      · obtain ⟨op, -, htext⟩ := hop p hp ho
        exact htext ▸ .scalar rfl
      · exact ih p hp ho
  | sequence _ hd hlength _ ih =>
    refine .list hd fun x hx => ?_
    obtain ⟨v, hv⟩ := exists_mem_zip hlength hx
    exact ih _ hv

theorem ShownAs.grows (h : s.ShownAs v x) (hs : s.Grows s') : s'.ShownAs v x := by
  induction h with
  | scalar hv => exact .scalar hv
  | node value shown hn hvalue hd hkeys hop _ ih =>
    exact .node value shown (hn.grows hs) hvalue (hs.get?_eq hd) hkeys hop ih
  | sequence hi hd hlength _ ih =>
    exact .sequence (frozen?_grows hs hi) (hs.get?_eq hd) hlength ih

/-! ### Showing trees -/

theorem setTextEntry_entriesOf {name : String} {pairs : Attrs} (h : name ∉ pairs.map Prod.fst)
    (x : Value) : setTextEntry name x (entriesOf pairs) = entriesOf (pairs ++ [(name, x)]) := by
  induction pairs with
  | nil => rfl
  | cons p pairs ih =>
    rw [List.map_cons, List.mem_cons, not_or] at h
    have hne : (textEntry p.1 p.2).key ≠ .text name := fun hk => h.1 (Value.text.inj hk).symm
    change setTextEntry name x (textEntry p.1 p.2 :: entriesOf pairs) = _
    rw [setTextEntry, if_neg hne, ih h.2]
    rfl

theorem runOn_operationValue (hs : s.classAttrs = []) (op : OperationType) :
    Effect.runOn (Action.attr (.operation op) "value" (Behaviour.level (k + 1))) s =
      (.ok (.text op.text), s) := by
  obtain ⟨cells, tag, attrs, functions⟩ := s
  obtain rfl : attrs = [] := hs
  cases op <;> rfl

/-- What is no node and no sequence is shown as it is, unless it is an operation type. -/
theorem runOn_dictionaryAt_basic (hs : s.classAttrs = []) {b : BasicType} (hv : s.typeOf v = .basic b)
    (hnode : s.isSubtype (.basic b) (.node .node) = false)
    (hsequence : [TypeValue.basic .list, .basic .tuple].any (s.isSubtype (.basic b)) = false)
    (fuel : Nat) :
    Effect.runOn (Action.dictionaryAt (fuel + 1) v (Behaviour.level k)) s =
      if s.isSubtype (.basic b) (.basic .operation) then
        Effect.runOn (Action.attr v "value" (Behaviour.level k)) s
      else (.ok v, s) := by
  have hspecial (name : String) : s.special? (s.typeOf v) name = none := by
    rw [hv]
    exact special?_basic hs b name
  have hof (type : TypeValue) : Effect.runOn (Action.isOf type v (Behaviour.level k)) s =
      (.ok (s.isSubtype (.basic b) type), s) := by
    rw [Action.runOn_isOf (hspecial _) (hspecial _), hv]
  have hofAny : Effect.runOn (Action.isOfAny [.basic .list, .basic .tuple] v (Behaviour.level k)) s =
      (.ok false, s) := by
    rw [Action.runOn_isOfAny (hspecial _) (hspecial _), hv, hsequence]
  have hofNode := hof (.node .node)
  rw [hnode] at hofNode
  refine (Action.runOn_bind_ok hofNode _).trans ?_
  refine (Action.runOn_bind_ok hofAny _).trans ?_
  refine (Action.runOn_bind_ok (hof _) _).trans ?_
  split <;> rfl

/-- The value of a store can be shown with so many levels of nesting to go. -/
def Showable (s₀ : Store) (k fuel : Nat) (v : Value) : Prop :=
  ∀ {s}, s₀.Grows s → ∃ x s', Effect.runOn (Action.dictionaryAt fuel v (Behaviour.level (k + 1))) s =
    (.ok x, s') ∧ s.Grows s' ∧ s'.ShownAs v x

theorem showable_scalar (hs : s₀.classAttrs = []) (hv : v.isScalar = true) (fuel : Nat) :
    Showable s₀ k (fuel + 1) v := by
  intro s hg
  obtain ⟨b, hb, hnode, hany, hop⟩ : ∃ b, s.typeOf v = .basic b ∧
      s.isSubtype (.basic b) (.node .node) = false ∧
      [TypeValue.basic .list, .basic .tuple].any (s.isSubtype (.basic b)) = false ∧
      s.isSubtype (.basic b) (.basic .operation) = false := by
    cases v with
    | null | bool | int | text => exact ⟨_, rfl, rfl, rfl, rfl⟩
    | _ => nomatch hv
  refine ⟨v, s, ?_, Grows.refl s, .scalar hv⟩
  rw [runOn_dictionaryAt_basic (hg.classAttrs.trans hs) hb hnode hany, hop, if_neg Bool.false_ne_true]

theorem runOn_dictionaryAt_operation (hs : s.classAttrs = []) (op : OperationType) (fuel : Nat) :
    Effect.runOn (Action.dictionaryAt (fuel + 1) (.operation op) (Behaviour.level (k + 1))) s =
      (.ok (.text op.text), s) := by
  have hop : s.isSubtype (.basic .operation) (.basic .operation) = true := rfl
  rw [runOn_dictionaryAt_basic (b := .operation) hs rfl rfl rfl, if_pos hop]
  exact runOn_operationValue hs op

/-- The items of a sequence are shown one after the other. -/
theorem runOn_showItems {fuel : Nat} {items : List Value}
    (h : ∀ x ∈ items, Showable s₀ k fuel x) (hg : s₀.Grows s) :
    ∃ shown s', Effect.runOn ((items.mapM (Action.dictionaryAt fuel) : Action (List Value))
        (Behaviour.level (k + 1))) s = (.ok shown, s') ∧ s.Grows s' ∧
      items.length = shown.length ∧ ∀ p ∈ items.zip shown, s'.ShownAs p.1 p.2 := by
  induction items generalizing s with
  | nil => exact ⟨[], s, rfl, Grows.refl s, rfl, fun p hp => absurd hp List.not_mem_nil⟩
  | cons v items ih =>
    obtain ⟨hv, hitems⟩ := List.forall_mem_cons.mp h
    obtain ⟨x, s₁, hrun₁, hg₁, hx⟩ := hv hg
    obtain ⟨shown, s', hrun, hg', hlength, hshown⟩ := ih hitems (trans_of Grows hg hg₁)
    refine ⟨x :: shown, s', ?_, trans_of Grows hg₁ hg', congrArg (· + 1) hlength, ?_⟩
    · rw [List.mapM_cons]
      refine (Action.runOn_bind_ok hrun₁ _).trans ?_
      exact (Action.runOn_bind_ok hrun _).trans rfl
    · rw [List.zip_cons_cons]
      exact List.forall_mem_cons.mpr ⟨hx.grows hg', hshown⟩

/-- What is shown for the value of a key: an operation type has its place under one key only. -/
def ShownUnder (s : Store) (key : String) (v x : Value) : Prop :=
  (key = "operation" → ∃ op, v = .operation op ∧ x = .text op.text) ∧
    (key ≠ "operation" → s.ShownAs v x)

theorem ShownUnder.grows {key : String} (h : s.ShownUnder key v x) (hs : s.Grows s') :
    s'.ShownUnder key v x :=
  ⟨h.1, fun hne => (h.2 hne).grows hs⟩

/-- The value of a key can be shown. -/
def ShowableUnder (s₀ : Store) (k fuel : Nat) (key : String) (v : Value) : Prop :=
  ∀ {s}, s₀.Grows s → ∃ x s', Effect.runOn (Action.dictionaryAt fuel v (Behaviour.level (k + 1))) s =
    (.ok x, s') ∧ s.Grows s' ∧ s'.ShownUnder key v x

/-- The keys of a node are shown one after the other. -/
theorem runOn_showKeys {fuel : Nat} {value : String → Value} (hn : s₀.LibraryNode r n)
    (hvalue : ∀ key ∈ n.cls.keys, n.slots.lookup key = some (value key))
    {keys : List String} (hkeys : ∀ key ∈ keys, key ∈ n.cls.keys) (hnodup : keys.Nodup)
    (h : ∀ key ∈ keys, ShowableUnder s₀ k fuel key (value key)) (hg : s₀.Grows s)
    (done : Attrs) (hdone : ∀ key ∈ keys, key ∉ done.map Prod.fst) :
    ∃ shown s', Effect.runOn (((keys.map .text).foldlM (fun entries key => do
          let name ← Action.nameOfAttr key
          return setTextEntry name (← Action.dictionaryAt fuel (← Action.attr (.ref r) name))
            entries) (entriesOf done) : Action (List Entry)) (Behaviour.level (k + 1))) s =
        (.ok (entriesOf (done ++ shown)), s') ∧ s.Grows s' ∧ shown.map Prod.fst = keys ∧
      ∀ p ∈ shown, s'.ShownUnder p.1 (value p.1) p.2 := by
  induction keys generalizing s done with
  | nil => exact ⟨[], s, by rw [List.append_nil]; rfl, Grows.refl s, rfl, nofun⟩
  | cons key keys ih =>
    obtain ⟨hkey, hkeys⟩ := List.forall_mem_cons.mp hkeys
    obtain ⟨hnew, hnodup⟩ := List.nodup_cons.mp hnodup
    obtain ⟨hk, h⟩ := List.forall_mem_cons.mp h
    obtain ⟨hdonek, hdone⟩ := List.forall_mem_cons.mp hdone
    have hread := (hn.grows hg).regular.runOn_key (k := k) hkey (hvalue key hkey)
    obtain ⟨x, s₁, hrun₁, hg₁, hx⟩ := hk hg
    obtain ⟨shown, s', hrun, hg', hfst, hshown⟩ :=
      ih hkeys hnodup h (trans_of Grows hg hg₁) (done ++ [(key, x)]) (by
        intro key' hmem
        rw [List.map_append, List.mem_append, not_or]
        refine ⟨hdone key' hmem, ?_⟩
        rw [List.map_singleton, List.mem_singleton]
        rintro rfl
        exact hnew hmem)
    refine ⟨(key, x) :: shown, s', ?_, trans_of Grows hg₁ hg', congrArg (key :: ·) hfst,
      List.forall_mem_cons.mpr ⟨hx.grows hg', hshown⟩⟩
    rw [List.append_assoc, List.singleton_append] at hrun
    rw [List.map_cons, List.foldlM_cons]
    refine (Action.runOn_bind_ok (a := entriesOf (done ++ [(key, x)])) ?_ _).trans hrun
    refine (Action.runOn_bind_ok hread _).trans ?_
    refine (Action.runOn_bind_ok hrun₁ _).trans ?_
    rw [setTextEntry_entriesOf hdonek]
    rfl

/-- A node is shown as a dictionary of its kind and its keys. -/
theorem showable_node {fuel : Nat} {value : String → Value} (hn : s₀.LibraryNode r n)
    (hvalue : ∀ key ∈ n.cls.keys, n.slots.lookup key = some (value key))
    (h : ∀ key ∈ n.cls.keys, ShowableUnder s₀ k fuel key (value key)) :
    Showable s₀ k (fuel + 1) (.ref r) := by
  intro s hg
  have hn' := hn.grows hg
  have hof : Effect.runOn (Action.isOf (.node .node) (.ref r) (Behaviour.level (k + 1))) s =
      (.ok true, s) := by
    rw [Action.runOn_isOf (hn'.regular.special? (by decide)) (hn'.regular.special? (by decide)),
      hn'.regular.isSubtype_node]
  obtain ⟨shown, s₁, hrun, hg₁, hfst, hshown⟩ := runOn_showKeys hn hvalue
    (fun _ => id) hn.regular.cls.nodup h hg [("kind", .text n.cls.kind)] (by
      rintro key hkey hmem
      obtain rfl := List.mem_singleton.mp hmem
      exact NodeClass.kind_notMem_keys _ hn.cls hkey)
  have hgrow := s₁.grows_alloc (.dict (entriesOf (("kind", .text n.cls.kind) :: shown)))
  refine ⟨.ref s₁.size, _, ?_, trans_of Grows hg₁ hgrow, .node value shown
    (hn'.grows (trans_of Grows hg₁ hgrow)) hvalue (get?_alloc s₁ _) hfst
    (fun p hp => (hshown p hp).1) fun p hp ho => ((hshown p hp).2 ho).grows hgrow⟩
  refine (Action.runOn_bind_ok hof _).trans ?_
  refine (Action.runOn_bind_ok hn'.runOn_kind _).trans ?_
  refine (Action.runOn_bind_ok hn'.regular.runOn_namesOf _).trans ?_
  exact (Action.runOn_bind_ok hrun _).trans rfl

/-- A child sequence is shown as a list. -/
theorem showable_sequence {fuel : Nat} {items : List Value} (hs : s₀.classAttrs = [])
    (hi : s₀.frozen? (.ref t) = some items) (h : ∀ x ∈ items, Showable s₀ k fuel x) :
    Showable s₀ k (fuel + 1) (.ref t) := by
  intro s hg
  obtain ⟨shown, s₁, hrun, hg₁, hlength, hshown⟩ := runOn_showItems h hg
  have hi' := frozen?_grows hg hi
  have hcell := cell_of_frozen? hi'
  have hcs := hg.classAttrs.trans hs
  have hgrow := s₁.grows_alloc (.list shown)
  have htype : s.typeOf (.ref t) = .basic .frozen := typeOf_ref hcell
  have hspecial := Action.special?_tuple hcs hcell
  have hof : Effect.runOn (Action.isOf (.node .node) (.ref t) (Behaviour.level (k + 1))) s =
      (.ok false, s) := by
    rw [Action.runOn_isOf (hspecial _) (hspecial _), htype]
    rfl
  have hofAny : Effect.runOn (Action.isOfAny [.basic .list, .basic .tuple] (.ref t)
      (Behaviour.level (k + 1))) s = (.ok true, s) := by
    rw [Action.runOn_isOfAny (hspecial _) (hspecial _), htype]
    rfl
  refine ⟨.ref s₁.size, (s₁.alloc (.list shown)).2, ?_, trans_of Grows hg₁ hgrow,
    .sequence (frozen?_grows (trans_of Grows hg₁ hgrow) hi') (get?_alloc s₁ _) hlength
      fun p hp => (hshown p hp).grows hgrow⟩
  refine (Action.runOn_bind_ok hof _).trans ?_
  refine (Action.runOn_bind_ok hofAny _).trans ?_
  refine (Action.runOn_bind_ok (runOn_items_sequence hcs (sequence?_tuple hcell)) _).trans ?_
  exact (Action.runOn_bind_ok hrun _).trans rfl

/-- Every syntax tree can be shown. The induction is on the height. -/
theorem showable_of_tree (hs : s₀.classAttrs = []) (h : s₀.SyntaxTree v) {fuel : Nat}
    (hd : Tall s₀.Child fuel v) : Showable s₀ k fuel v := by
  induction fuel generalizing v with
  | zero => exact hd.elim
  | succ fuel ih =>
    cases h with
    | scalar hv => exact showable_scalar hs hv fuel
    | @node r n value hn hvalue hop htree =>
      have hchild {key : String} (hkey : key ∈ n.cls.keys) : Tall s₀.Child fuel (value key) :=
        hd _ ⟨_, hn.regular.step? hkey (hvalue key hkey)⟩
      refine @showable_node _ _ _ _ _ _ hn hvalue ?_
      intro key hkey s hg
      by_cases ho : key = "operation"
      · obtain ⟨op, hvop⟩ := hop key hkey ho
        obtain ⟨fuel, rfl⟩ : ∃ f, fuel = f + 1 := by
          cases fuel with
          | zero => exact (hchild hkey).elim
          | succ f => exact ⟨f, rfl⟩
        refine ⟨.text op.text, s, ?_, Grows.refl s, fun _ => ⟨op, hvop, rfl⟩,
          fun hne => absurd ho hne⟩
        rw [hvop]
        exact runOn_dictionaryAt_operation (hg.classAttrs.trans hs) op fuel
      · obtain ⟨x, s', hrun, hg', hx⟩ := ih (htree key hkey ho) (hchild hkey) hg
        exact ⟨x, s', hrun, hg', fun h => absurd h ho, fun _ => hx⟩
    | sequence hi htree =>
      exact showable_sequence hs hi fun x hx =>
        ih (htree x hx) (hd x ((exists_item hi hx).imp' _ fun _ => id))

/-- A syntax tree is shown as a dictionary. -/
theorem runOn_dictionary (hs : s.classAttrs = []) (h : s.SyntaxTree v) :
    ∃ x s', (Action.dictionary v).perform.runOn s = (.ok x, s') ∧ s.Grows s' ∧ s'.ShownAs v x := by
  obtain ⟨x, s', hrun, hg, hx⟩ :=
    showable_of_tree (k := 999 + 8 * s.size) hs h h.tall (Grows.refl s)
  refine ⟨x, s', ?_, hg, hx⟩
  rw [Action.runOn_perform, show s.depthLimit = 999 + 8 * s.size + 1 by unfold depthLimit; omega]
  exact (Action.runOn_bind_ok (Action.runOn_get s) _).trans hrun

end Store
end GraphQLTree
