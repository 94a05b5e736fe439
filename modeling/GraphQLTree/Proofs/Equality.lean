import GraphQLTree.Proofs.Graph

/-! # Equality of nodes and sequences

How two nodes of regular classes and two sequences are compared, in a store where nothing was assigned
to classes: nodes by their classes and then key by key (`Store.runOn_compareNodes`), sequences item by
item (`Store.runOn_compareSequences`). Values that are alike all the way down are equal
(`Store.runOn_equal_of_alike`). -/

namespace GraphQLTree

namespace Store

variable {s : Store} {r q t u : Ref} {n m : NodeObject} {a b : Value} {k : Nat}

/-! ### Asking two values -/

/-- How values without own ways to be compared compare themselves with others. -/
theorem runOn_comparison {answer : Option Bool} (ha : s.special? (s.typeOf a) "__eq__" = none)
    (h : Effect.runOn (Action.compareContent a b (Behaviour.level k)) s = (.ok answer, s)) :
    Effect.runOn (Action.comparison a b (Behaviour.level k)) s =
      (.ok (Action.comparisonAnswer answer), s) := by
  refine (Action.runOn_bind_ok (Action.runOn_special? "__eq__") _).trans ?_
  rw [ha]
  exact Action.runOn_bind_ok h _

/-- Of two values of one type the first one is asked first. -/
theorem runOn_equal_of_first {answer : Bool} (ht : (s.typeOf a).id = (s.typeOf b).id)
    (ha : s.special? (s.typeOf a) "__eq__" = none)
    (h : Effect.runOn (Action.compareContent a b (Behaviour.level k)) s =
      (.ok (some answer), s)) :
    Effect.runOn (Action.equal a b (Behaviour.level (k + 1))) s = (.ok answer, s) := by
  have hrefined : Effect.runOn (Action.isRefined a b (Behaviour.level k)) s = (.ok false, s) := by
    refine (Effect.runOn_bind_ok (Effect.runOn_get s) _).trans ?_
    have hne : decide ((s.typeOf a).id ≠ (s.typeOf b).id) = false := decide_eq_false (not_not.mpr ht)
    change (Except.ok (decide ((s.typeOf a).id ≠ (s.typeOf b).id) &&
      s.isSubtype (s.typeOf b) (s.typeOf a)), s) = _
    rw [hne]
    rfl
  have hfirst : Effect.runOn (Action.firstAnswer Action.comparison (.bool (a = b)) a b
      (Behaviour.level k)) s = (.ok (.bool answer), s) := by
    refine (Action.runOn_bind_ok hrefined _).trans ?_
    exact Action.runOn_bind_ok (runOn_comparison ha h) _
  exact Action.runOn_bind_ok hfirst _

/-- Values that do not ask others for the answer have one. -/
theorem exists_runOn_equal (ha : s.special? (s.typeOf a) "__eq__" = none)
    (hb : s.special? (s.typeOf b) "__eq__" = none) {p p' : Option Bool}
    (hab : Effect.runOn (Action.compareContent a b (Behaviour.level k)) s = (.ok p, s))
    (hba : Effect.runOn (Action.compareContent b a (Behaviour.level k)) s = (.ok p', s)) :
    ∃ answer, Effect.runOn (Action.equal a b (Behaviour.level (k + 1))) s = (.ok answer, s) ∧
      (p ≠ some true → p' ≠ some true → a ≠ b → answer = false) := by
  have hask := runOn_comparison ha hab
  have hask' := runOn_comparison hb hba
  obtain ⟨refined, hrefined⟩ : ∃ refined, Effect.runOn (Action.isRefined a b (Behaviour.level k)) s =
      (.ok refined, s) := ⟨_, rfl⟩
  obtain ⟨answer, hanswer, hfalse⟩ : ∃ answer,
      Effect.runOn (Action.equality a b (Behaviour.level k)) s = (.ok (.bool answer), s) ∧
        (p ≠ some true → p' ≠ some true → a ≠ b → answer = false) := by
    unfold Action.equality Action.firstAnswer
    rw [Action.runOn_bind_ok hrefined]
    cases refined with
    | false =>
      rw [if_neg Bool.false_ne_true]
      dsimp only
      rw [Action.runOn_bind_ok hask]
      cases p with
      | some answer => exact ⟨answer, rfl, fun hp _ _ => by simpa using hp⟩
      | none =>
        refine ⟨p'.getD (decide (a = b)), (Action.runOn_bind_ok hask' _).trans ?_, ?_⟩
        · cases p' <;> rfl
        · intro _ hp' hne
          cases p' <;> simp_all
    | true =>
      rw [if_pos rfl]
      dsimp only
      rw [Action.runOn_bind_ok hask']
      cases p' with
      | some answer => exact ⟨answer, rfl, fun _ hp' _ => by simpa using hp'⟩
      | none =>
        refine ⟨p.getD (decide (a = b)), (Action.runOn_bind_ok hask _).trans ?_, ?_⟩
        · cases p <;> rfl
        · intro hp _ hne
          cases p <;> simp_all
  exact ⟨answer, Action.runOn_bind_ok hanswer _, hfalse⟩

/-! ### Nodes -/

theorem RegularNode.isSubtype_node (h : s.RegularNode r n) :
    s.isSubtype (s.typeOf (.ref r)) (.node .node) = true := by
  rw [h.typeOf]
  unfold isSubtype lineage
  rw [List.any_append, List.any_map]
  refine Bool.or_eq_true_iff.mpr (.inl ?_)
  obtain ⟨l, hl, hs⟩ := List.any_eq_true.mp h.cls.isA
  refine List.any_eq_true.mpr ⟨l, hl, ?_⟩
  change (ClassId.node l.serial == .node NodeClass.node.serial) = true
  rw [beq_iff_eq, beq_iff_eq.mp hs]

/-- Nodes of one class are compared key by key, and nodes of different classes are not equal. -/
theorem runOn_equalNode (ha : s.RegularNode r n) (hb : s.RegularNode q m) :
    Effect.runOn (Action.equalNode (.ref r) (.ref q) (Behaviour.level k)) s =
      if n.cls.serial = m.cls.serial then
        Effect.runOn (Action.sameAttrs (.ref r) (.ref q) (n.cls.keys.map .text)
          (Behaviour.level k)) s
      else (.ok false, s) := by
  have hof : Effect.runOn (Action.isOf (.node .node) (.ref q) (Behaviour.level k)) s =
      (.ok true, s) := by
    rw [Action.runOn_isOf (hb.special? (by decide)) (hb.special? (by decide)), hb.isSubtype_node]
  have htype : Effect.runOn (Action.sameType (.ref r) (.ref q) (Behaviour.level k)) s =
      (.ok (decide (n.cls.serial = m.cls.serial)), s) := by
    refine (Action.runOn_bind_ok ha.runOn_classOf _).trans ?_
    refine (Action.runOn_bind_ok hb.runOn_classOf _).trans ?_
    have hdecide : decide (ClassId.node n.cls.serial = .node m.cls.serial) =
        decide (n.cls.serial = m.cls.serial) :=
      decide_eq_decide.mpr (iff_of_eq (ClassId.node.injEq ..))
    change (Except.ok (decide (ClassId.node n.cls.serial = .node m.cls.serial)), s) = _
    rw [hdecide]
  refine (Action.runOn_bind_ok hof _).trans ?_
  refine (Action.runOn_bind_ok htype _).trans ?_
  by_cases hc : n.cls.serial = m.cls.serial
  · rw [if_pos hc, decide_eq_true hc]
    exact Action.runOn_bind_ok ha.runOn_namesOf _
  · rw [if_neg hc, decide_eq_false hc]
    rfl

theorem runOn_compareNodes (ha : s.RegularNode r n) {answer : Bool}
    (h : Effect.runOn (Action.equalNode (.ref r) (.ref q) (Behaviour.level k)) s =
      (.ok answer, s)) :
    Effect.runOn (Action.compareContent (.ref r) (.ref q) (Behaviour.level k)) s =
      (.ok (some answer), s) := by
  refine (Effect.runOn_bind_ok (Effect.runOn_get s) _).trans ?_
  rw [cell?_ref ha.cell]
  change Effect.runOn (Action.compareCell (.ref r) (.node n) (.ref q) (Behaviour.level k)) s = _
  unfold Action.compareCell
  refine (Action.runOn_bind_ok (Action.runOn_get s) _).trans ?_
  exact Action.runOn_bind_ok h fun answer => pure (some answer)

/-! ### Sequences -/

theorem runOn_compareSequences {form form' : TupleForm} {items items' : List Value}
    {fields fields' : Fields} (ha : s.get? t = some (.tuple form items fields))
    (hb : s.get? u = some (.tuple form' items' fields')) {answer : Bool}
    (h : Effect.runOn (Action.sameFields items items' (Behaviour.level k)) s = (.ok answer, s)) :
    Effect.runOn (Action.compareContent (.ref t) (.ref u) (Behaviour.level k)) s =
      (.ok (some answer), s) := by
  refine (Effect.runOn_bind_ok (Effect.runOn_get s) _).trans ?_
  rw [cell?_ref ha]
  change Effect.runOn (Action.compareCell (.ref t) (.tuple form items fields) (.ref u)
    (Behaviour.level k)) s = _
  unfold Action.compareCell
  refine (Action.runOn_bind_ok (Action.runOn_get s) _).trans ?_
  rw [cell?_ref hb]
  exact Action.runOn_bind_ok h fun answer => pure (some answer)

/-! ### Leaves -/

theorem Quantity.equal_self_ofInt (n : Int) : (Quantity.ofInt n).equal (.ofInt n) = true := by
  change (Quantity.ofInt n == .ofInt n) = true
  rw [beq_iff_eq]

theorem runOn_compareLeaf {v : Value} (hv : v.isLeaf = true) :
    Effect.runOn (Action.compareContent v v (Behaviour.level k)) s = (.ok (some true), s) := by
  have hunits (re : Int) : ((Quantity.ofInt re).equal (.ofInt re) &&
      (Quantity.units 0).equal (.units 0)) = true := by
    rw [Quantity.equal_self_ofInt]
    rfl
  cases v with
  | null => rfl
  | operation op =>
    exact congrArg (fun answer => (Except.ok answer, s)) (if_pos (c := Value.operation op = _) rfl)
  | text t =>
    change (Except.ok (some (t == t)), s) = _
    rw [beq_self_eq_true]
  | bool b => exact congrArg (fun answer => (Except.ok (some answer), s)) (hunits _)
  | int n => exact congrArg (fun answer => (Except.ok (some answer), s)) (hunits n)
  | _ => nomatch hv

/-! ### Values that are alike -/

/-- Values that are alike as far as one level shows, where `E` relates what they hold. -/
inductive Alike (s : Store) (E : Value → Value → Prop) : Value → Value → Prop
  | leaf {v : Value} : v.isLeaf = true → Alike s E v v
  | node {r q : Ref} {n m : NodeObject} : s.RegularNode r n → s.RegularNode q m → n.cls = m.cls →
      (∀ key ∈ n.cls.keys, ∃ x y, n.slots.lookup key = some x ∧ m.slots.lookup key = some y ∧
        E x y) → Alike s E (.ref r) (.ref q)
  | sequence {t u : Ref} {items items' : List Value} : s.frozen? (.ref t) = some items →
      s.frozen? (.ref u) = some items' → List.Forall₂ E items items' → Alike s E (.ref t) (.ref u)

variable {E : Value → Value → Prop}

theorem runOn_sameAttrs_of_alike (ha : s.RegularNode r n) (hb : s.RegularNode q m)
    (hc : n.cls = m.cls) {keys : List String} (hkeys : ∀ key ∈ keys, key ∈ n.cls.keys)
    (h : ∀ key ∈ keys, ∃ x y, n.slots.lookup key = some x ∧ m.slots.lookup key = some y ∧
      Effect.runOn (Action.equal x y (Behaviour.level (k + 1))) s = (.ok true, s)) :
    Effect.runOn (Action.sameAttrs (.ref r) (.ref q) (keys.map .text) (Behaviour.level (k + 1))) s =
      (.ok true, s) := by
  induction keys with
  | nil => rfl
  | cons key keys ih =>
    obtain ⟨hkey, hkeys⟩ := List.forall_mem_cons.mp hkeys
    obtain ⟨⟨x, y, hx, hy, heq⟩, h⟩ := List.forall_mem_cons.mp h
    rw [List.map_cons]
    refine (Action.runOn_bind_ok (ha.runOn_key hkey hx) _).trans ?_
    refine (Action.runOn_bind_ok (hb.runOn_key (hc ▸ hkey) hy) _).trans ?_
    exact (Action.runOn_bind_ok heq _).trans (ih hkeys h)

theorem runOn_sameFields_of_alike {items items' : List Value}
    (h : List.Forall₂ (fun x y => Effect.runOn (Action.equal x y (Behaviour.level (k + 1))) s =
      (.ok true, s)) items items') :
    Effect.runOn (Action.sameFields items items' (Behaviour.level (k + 1))) s = (.ok true, s) := by
  have hall : Effect.runOn (Action.allSame (items.zip items') (Behaviour.level (k + 1))) s =
      (.ok true, s) := by
    induction h with
    | nil => rfl
    | @cons x y items items' heq _ ih =>
      have hsame : Effect.runOn (Action.same x y (Behaviour.level (k + 1))) s = (.ok true, s) := by
        unfold Action.same
        split
        · rfl
        · exact heq
      exact (Action.runOn_bind_ok hsame _).trans ih
  refine (Action.runOn_bind_ok hall _).trans ?_
  change (Except.ok (decide (items.length = items'.length)), s) = _
  rw [decide_eq_true h.length_eq]

/-- Values that are alike all the way down are equal. -/
theorem runOn_equal_of_alike (hs : s.classAttrs = []) (hE : ∀ {x y}, E x y → s.Alike E x y) {d : Nat}
    (hd : Tall s.Child d b) (hab : E a b) :
    Effect.runOn (Action.equal a b (Behaviour.level (d + k + 1))) s = (.ok true, s) := by
  induction d generalizing a b with
  | zero => exact hd.elim
  | succ d ih =>
    rw [show d + 1 + k + 1 = (d + k + 1) + 1 from by omega]
    cases hE hab with
    | leaf hv =>
      refine runOn_equal_of_first rfl ?_ (runOn_compareLeaf hv)
      cases a with
      | null | bool | int | text | operation => exact special?_basic hs _ _
      | _ => nomatch hv
    | @node r q n m ha hb hc hkeys =>
      refine runOn_equal_of_first ?_ (ha.special? (by decide)) (runOn_compareNodes ha ?_)
      · rw [ha.typeOf, hb.typeOf, hc]
      · rw [runOn_equalNode ha hb, if_pos (congrArg (·.serial) hc)]
        refine runOn_sameAttrs_of_alike ha hb hc (fun _ => id) fun key hkey => ?_
        obtain ⟨x, y, hx, hy, hxy⟩ := hkeys key hkey
        exact ⟨x, y, hx, hy, ih (hd y ⟨_, hb.step? (hc ▸ hkey) hy⟩) hxy⟩
    | @sequence t u items items' ht hu hitems =>
      have hct := cell_of_frozen? ht
      have hcu := cell_of_frozen? hu
      refine runOn_equal_of_first ?_ (Action.special?_tuple hs hct _)
        (runOn_compareSequences hct hcu (runOn_sameFields_of_alike ?_))
      · rw [typeOf_ref hct, typeOf_ref hcu]
        rfl
      · refine List.forall₂_iff_get.mpr ⟨hitems.length_eq, fun i hi hi' => ?_⟩
        refine ih (hd _ ⟨.item i, ?_⟩) (List.forall₂_iff_get.mp hitems |>.2 i hi hi')
        change (s.frozen? (.ref u)).bind _ = _
        rw [hu, Option.bind_some, List.getElem?_eq_getElem hi']
        rfl

end Store
end GraphQLTree
