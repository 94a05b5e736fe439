import GraphQLTree.Proofs.Making

/-! # Changing nodes

A node is changed by assigning and removing its keys and the attributes that its class leaves to it.
Whether that succeeds or not, no other cell changes (`Store.touches_change`), so what is done to some
nodes leaves all others as they are (`Store.after_get?`). -/

namespace GraphQLTree

/-- A change of a node: one of its attributes is assigned or removed. -/
inductive Change
  | assign (name : String) (x : Value)
  | remove (name : String)

namespace Change

/-- The name of the attribute. -/
def name : Change → String
  | assign name _ => name
  | remove name => name

/-- Makes a change to a value. -/
def apply (v : Value) : Change → Action Unit
  | assign name x => Action.setAttr v name x
  | remove name => Action.delAttr v name

end Change

/-- Whether the nodes of a class can have an attribute of their own: one of its keys, or one that
the class does not provide. -/
def NodeClass.Leaves (c : NodeClass) (name : String) : Prop :=
  name ∈ c.keys ∨ Store.empty.classEntry? (.node c) name = none

theorem Attrs.lookup_set {attrs : Attrs} {name : String} (x : Value) :
    (attrs.set name x).lookup name = some x := by
  induction attrs with
  | nil => rw [Attrs.set, List.lookup_cons, beq_self_eq_true]
  | cons entry attrs ih =>
    obtain ⟨a, w⟩ := entry
    unfold Attrs.set
    split
    · rename_i ha
      rw [List.lookup_cons, ha, beq_self_eq_true]
    · rename_i ha
      rw [List.lookup_cons, beq_eq_false_iff_ne.mpr (Ne.symm ha), ih]

theorem Attrs.lookup_set_of_ne {attrs : Attrs} {name other : String} (h : other ≠ name) (x : Value) :
    (attrs.set name x).lookup other = attrs.lookup other := by
  induction attrs with
  | nil => rw [Attrs.set, List.lookup_cons, beq_eq_false_iff_ne.mpr h]
  | cons entry attrs ih =>
    obtain ⟨a, w⟩ := entry
    unfold Attrs.set
    split
    · rename_i ha
      subst ha
      rw [List.lookup_cons, List.lookup_cons, beq_eq_false_iff_ne.mpr h]
    · rw [List.lookup_cons, List.lookup_cons, ih]

theorem Attrs.lookup_remove_of_none {attrs : Attrs} {name other : String}
    (h : attrs.lookup other = none) : (attrs.remove name).lookup other = none := by
  induction attrs with
  | nil => rfl
  | cons entry attrs ih =>
    obtain ⟨a, w⟩ := entry
    rw [List.lookup_cons] at h
    split at h
    · nomatch h
    · rename_i hne
      unfold Attrs.remove
      rw [List.filter_cons]
      split
      · rw [List.lookup_cons, hne]
        exact ih h
      · exact ih h

namespace Store

variable {s s' s'' : Store} {q : Ref} {n : NodeObject} {c : NodeClass} {k : Nat} {name : String}
  {b : Behaviour}

/-! ### One change -/

/-- Changes a node of a class at most, which stays a node of that class, and makes new cells. -/
structure Touches (q : Ref) (c : NodeClass) (s s' : Store) : Prop where
  keepsBut : s.KeepsBut q s'
  node : ∃ n, s'.RegularNode q n ∧ n.cls = c

theorem Touches.trans (h : Touches q c s s') (h' : Touches q c s' s'') : Touches q c s s'' :=
  ⟨h.keepsBut.trans h'.keepsBut, h'.node⟩

namespace RegularNode

theorem touches_put (h : s.RegularNode q n) (slots : Attrs) {attrs : Attrs}
    (digest? : Option Digest) (ha : ∀ name ∈ hidable, attrs.lookup name = none) :
    Touches q n.cls s (s.put q (.node ⟨n.cls, slots, .own attrs, digest?⟩)) :=
  ⟨keepsBut_put s q _, ⟨n.cls, slots, .own attrs, digest?⟩,
    ⟨h.classAttrs, get?_put s _ h.lt_size, h.cls, attrs, rfl, ha⟩, rfl⟩

theorem touches_alloc (h : s.RegularNode q n) (cell : Cell) :
    Touches q n.cls s (s.alloc cell).2 :=
  have hg := s.grows_alloc cell
  ⟨hg.keepsBut q, n, ⟨hg.classAttrs.trans h.classAttrs, hg.get?_eq h.cell, h.cls, h.fields⟩, rfl⟩

/-- The names that could hide something are provided by the class. -/
theorem notMem_hidable (h : s.RegularNode q n)
    (hn : empty.classEntry? (.node n.cls) name = none) : name ∉ hidable := by
  intro hmem
  obtain ⟨_, hkeys⟩ := h.cls.keys
  obtain ⟨_, hsequences⟩ := h.cls.sequenceKeys
  obtain ⟨_, _, hcopy⟩ := h.cls.copy
  obtain ⟨_, _, hdeep⟩ := h.cls.deepCopy
  simp only [hidable, List.mem_cons, List.not_mem_nil, or_false] at hmem
  rcases hmem with rfl | rfl | rfl | rfl
  · rw [hkeys] at hn
    nomatch hn
  · rw [hsequences] at hn
    nomatch hn
  · rw [hcopy] at hn
    nomatch hn
  · rw [hdeep] at hn
    nomatch hn

/-- Raising an error makes a new cell. -/
theorem touches_fail (h : s.RegularNode q n) {α : Type} (fault : Fault) :
    Touches q n.cls s ((Effect.fail fault : Effect α).runOn s).2 :=
  h.touches_alloc _

/-- The node gets other values of its keys, or another digest. -/
theorem touches_keys (h : s.RegularNode q n) (slots : Attrs) (digest? : Option Digest) :
    Touches q n.cls s (s.put q (.node { n with slots, digest? })) := by
  obtain ⟨attrs, hf, ha⟩ := h.fields
  have ht := h.touches_put slots digest? ha
  rwa [← hf] at ht

theorem runOn_removeSlot (h : s.RegularNode q n) (key : String) :
    (Effect.removeSlot (.ref q) key).runOn s =
      (.ok (), s.put q (.node { n with slots := n.slots.remove key })) := by
  refine (Effect.runOn_bind_ok (Effect.runOn_get s) _).trans ?_
  rw [cell?_ref h.cell]
  rfl

theorem runOn_forgetComputed (h : s.RegularNode q n) :
    (Action.forgetComputed (.ref q)).runOn s =
      (.ok (), s.put q (.node { n with digest? := none })) := by
  refine (Effect.runOn_bind_ok (Effect.runOn_get s) _).trans ?_
  rw [cell?_ref h.cell]
  rfl

/-- A key, or what stands for the digest, is removed. -/
theorem touches_dropSlot (h : s.RegularNode q n) {a : Ancestor} {owner : String}
    (he : empty.classEntry? (.node n.cls) name = some (a, .value (.slot owner name))) :
    Touches q n.cls s (Effect.runOn (Action.dropAttr (.ref q) name b) s).2 := by
  unfold Action.dropAttr
  rw [Action.runOn_bind_ok (Action.runOn_get s), h.classEntry?, he, cell?_ref h.cell]
  dsimp only
  split
  · change Touches q n.cls s ((Effect.removeSlot (.ref q) name).runOn s).2
    rw [h.runOn_removeSlot]
    exact h.touches_keys _ _
  · obtain ⟨cls, slots, fields, - | d⟩ := n
    · exact h.touches_fail (.unset name)
    · dsimp only
      split
      · change Touches q cls s ((Action.forgetComputed (.ref q)).runOn s).2
        rw [h.runOn_forgetComputed]
        exact h.touches_keys _ _
      · exact h.touches_fail (.unset name)

theorem hasFields (h : s.RegularNode q n) : s.hasFields (.ref q) = true := by
  unfold Store.hasFields
  rw [cell?_ref h.cell]
  rfl

theorem runOn_setField (h : s.RegularNode q n) {attrs : Attrs} (hf : n.fields = .own attrs)
    (x : Value) : (Effect.setField (.ref q) name x).runOn s =
      (.ok (), s.put q (.node { n with fields := .own (attrs.set name x) })) := by
  refine (Effect.runOn_bind_ok (Effect.runOn_get s) _).trans ?_
  rw [cell?_ref h.cell]
  dsimp only [Cell.fields?]
  rw [hf]
  rfl

theorem runOn_removeField (h : s.RegularNode q n) {attrs : Attrs} (hf : n.fields = .own attrs) :
    (Effect.removeField (.ref q) name).runOn s =
      (.ok (), s.put q (.node { n with fields := .own (attrs.remove name) })) := by
  refine (Effect.runOn_bind_ok (Effect.runOn_get s) _).trans ?_
  rw [cell?_ref h.cell]
  dsimp only [Cell.fields?]
  rw [hf]
  rfl

/-- An attribute that the class leaves to its nodes is removed. -/
theorem touches_dropField (h : s.RegularNode q n)
    (he : empty.classEntry? (.node n.cls) name = none) :
    Touches q n.cls s (Effect.runOn (Action.dropAttr (.ref q) name b) s).2 := by
  obtain ⟨attrs, hf, ha⟩ := h.fields
  unfold Action.dropAttr
  rw [Action.runOn_bind_ok (Action.runOn_get s), h.classEntry?, he]
  dsimp only
  rw [h.hasFields, if_pos rfl]
  split
  · change Touches q n.cls s ((Effect.removeField (.ref q) name).runOn s).2
    rw [h.runOn_removeField hf]
    exact h.touches_put _ _ fun name hname => Attrs.lookup_remove_of_none (ha name hname)
  · change Touches q n.cls s ((Effect.noPlace (.ref q) name : Effect Unit).runOn s).2
    unfold Effect.noPlace
    rw [Effect.runOn_bind_ok (Effect.runOn_get s)]
    exact h.touches_fail _

/-- A key is assigned. -/
theorem touches_storeKey (h : s.RegularNode q n) (hk : name ∈ n.cls.keys) (x : Value) :
    Touches q n.cls s (Effect.runOn (Action.storeAttr (.ref q) name x b) s).2 := by
  rw [h.runOn_storeAttr hk]
  exact h.touches_keys _ _

/-- An attribute that the class leaves to its nodes is assigned. -/
theorem touches_storeField (h : s.RegularNode q n)
    (he : empty.classEntry? (.node n.cls) name = none) (x : Value) :
    Touches q n.cls s (Effect.runOn (Action.storeAttr (.ref q) name x b) s).2 := by
  obtain ⟨attrs, hf, ha⟩ := h.fields
  have hname := h.notMem_hidable he
  unfold Action.storeAttr
  rw [Action.runOn_bind_ok (Action.runOn_get s), h.classEntry?, he]
  dsimp only
  rw [h.hasFields, if_pos rfl]
  change Touches q n.cls s ((Effect.setField (.ref q) name x).runOn s).2
  rw [h.runOn_setField hf]
  refine h.touches_put _ _ fun other hother => ?_
  have hne : other ≠ name := by
    rintro rfl
    exact hname hother
  rw [Attrs.lookup_set_of_ne hne]
  exact ha other hother

theorem touches_storeAttr (h : s.RegularNode q n) (hl : n.cls.Leaves name) (x : Value) :
    Touches q n.cls s (Effect.runOn (Action.storeAttr (.ref q) name x b) s).2 :=
  hl.elim (fun hk => h.touches_storeKey hk x) fun he => h.touches_storeField he x

theorem touches_dropAttr (h : s.RegularNode q n) (hl : n.cls.Leaves name) :
    Touches q n.cls s (Effect.runOn (Action.dropAttr (.ref q) name b) s).2 := by
  rcases hl with hk | he
  · obtain ⟨a, owner, he⟩ := h.cls.key name hk
    exact h.touches_dropSlot he
  · exact h.touches_dropField he

theorem runOn_delAttr (h : s.RegularNode q n) :
    Effect.runOn (Action.delAttr (.ref q) name (Behaviour.level (k + 1))) s =
      Effect.runOn (Action.dropAttr (.ref q) name (Behaviour.level k)) s := by
  change Effect.runOn (Action.removeAttr (.ref q) name (Behaviour.level k)) s = _
  unfold Action.removeAttr
  rw [Action.runOn_bind_ok (Action.runOn_get s)]
  dsimp only
  rw [Action.runOn_bind_ok (Action.runOn_special? "__delattr__"), h.special? (by decide)]

end RegularNode

theorem Touches.bind {α β : Type} {x : Action α} {f : α → Action β}
    (h : Touches q c s (Effect.runOn (x b) s).2)
    (hf : ∀ {a s₁ m}, s₁.RegularNode q m → m.cls = c →
      Touches q c s₁ (Effect.runOn (f a b) s₁).2) :
    Touches q c s (Effect.runOn ((x >>= f) b) s).2 := by
  obtain ⟨m, hm, hc⟩ := h.node
  change Touches q c s ((x b >>= fun a => f a b : Effect β).runOn s).2
  rw [Effect.runOn_bind]
  rcases hx : Effect.runOn (x b) s with ⟨e | a, s₁⟩
  · rwa [hx] at h
  · rw [hx] at h hm
    exact h.trans (hf hm hc)

/-- A change of a node changes nothing else, whether it succeeds or not. -/
theorem touches_change (h : s.RegularNode q n) (change : Change) (hl : n.cls.Leaves change.name) :
    Touches q n.cls s (Effect.runOn (change.apply (.ref q) (Behaviour.level (k + 2))) s).2 := by
  cases change with
  | remove name =>
    change Touches q n.cls s (Effect.runOn (Action.delAttr (.ref q) name
      (Behaviour.level (k + 1 + 1))) s).2
    rw [h.runOn_delAttr]
    exact h.touches_dropAttr hl
  | assign name x =>
    have hstore {s₁ : Store} {m : NodeObject} (hm : s₁.RegularNode q m) (hc : m.cls = n.cls) :
        Touches q n.cls s₁ (Effect.runOn (Action.storeAttr (.ref q) name x
          (Behaviour.level (k + 1))) s₁).2 := by
      rw [← hc]
      exact hm.touches_storeAttr (hc ▸ hl) x
    change Touches q n.cls s (Effect.runOn (Action.assignAttr (.ref q) name x
      (Behaviour.level (k + 1))) s).2
    unfold Action.assignAttr
    dsimp only
    rw [Action.runOn_bind_ok (Action.runOn_special? "__setattr__"), h.special? (by decide)]
    dsimp only
    rw [Action.runOn_bind_ok (Action.runOn_get s), h.node?, Option.isSome_some, if_pos rfl]
    unfold Action.assignNodeAttr
    rw [Action.runOn_bind_ok h.runOn_hasDigest]
    split
    · rw [Action.runOn_bind_ok h.runOn_keys,
        Action.runOn_bind_ok (Action.runOn_has h.classAttrs _ name k)]
      split
      · obtain ⟨a, owner, he⟩ := h.cls.digest
        refine Touches.bind ?_ hstore
        rw [h.runOn_delAttr]
        exact h.touches_dropSlot he
      · exact hstore h rfl
    · exact hstore h rfl

/-! ### Many changes -/

/-- What is left after changes of nodes, whether they succeed or not. -/
def after (s : Store) : List (Ref × Change) → Store
  | [] => s
  | (q, change) :: rest => ((change.apply (.ref q)).perform.runOn s).2.after rest

/-- Whether changes are made to nodes, of attributes that these can have. -/
def Changeable (s : Store) (changes : List (Ref × Change)) : Prop :=
  ∀ e ∈ changes, ∃ n, s.RegularNode e.1 n ∧ n.cls.Leaves e.2.name

theorem touches_perform (h : s.RegularNode q n) (change : Change) (hl : n.cls.Leaves change.name) :
    Touches q n.cls s ((change.apply (.ref q)).perform.runOn s).2 := by
  rw [Action.runOn_perform, show s.depthLimit = 998 + 8 * s.size + 2 by unfold depthLimit; omega]
  exact touches_change h change hl

theorem Touches.changeable {changes : List (Ref × Change)} (h : Touches q c s s')
    (hq : ∀ n, s.RegularNode q n → n.cls = c) (hc : s.Changeable changes) :
    s'.Changeable changes := by
  intro e he
  obtain ⟨n, hn, hl⟩ := hc e he
  by_cases heq : e.1 = q
  · obtain ⟨m, hm, hmc⟩ := h.node
    refine ⟨m, heq ▸ hm, ?_⟩
    rwa [hmc, ← hq n (heq ▸ hn)]
  · exact ⟨n, ⟨h.keepsBut.classAttrs.trans hn.classAttrs, h.keepsBut.get?_eq heq hn.cell, hn.cls,
      hn.fields⟩, hl⟩

/-- Cells that are not changed themselves stay as they are. -/
theorem after_get? {changes : List (Ref × Change)} (hc : s.Changeable changes) {t : Ref} {cell : Cell}
    (ht : s.get? t = some cell) (hnot : ∀ e ∈ changes, e.1 ≠ t) :
    (s.after changes).get? t = some cell := by
  induction changes generalizing s with
  | nil => exact ht
  | cons e rest ih =>
    obtain ⟨q, change⟩ := e
    obtain ⟨⟨n, hn, hl⟩, hrest⟩ := List.forall_mem_cons.mp hc
    obtain ⟨hqt, hnot⟩ := List.forall_mem_cons.mp hnot
    have htouch := touches_perform hn change hl
    refine ih (htouch.changeable (fun m hm => ?_) hrest) (htouch.keepsBut.get?_eq hqt.symm ht) hnot
    have hcell := hn.cell
    dsimp only at hcell
    rw [hm.cell] at hcell
    cases hcell
    rfl

end Store
end GraphQLTree
