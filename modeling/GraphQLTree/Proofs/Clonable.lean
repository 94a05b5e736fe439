import GraphQLTree.Proofs.Atoms
import GraphQLTree.Proofs.Making

/-! # What can be copied deeply

A value can be copied deeply if it is made of nodes of regular classes with their child sequences, of
lists, tuples and dictionaries, and of values that no nodes are copied for, and contains itself nowhere
(`Store.Clonable`). Texts and numbers are such values, and so are objects whose copies make no nodes,
such as bytes that can be changed (`Store.CopiedAlone`, `Store.copiedAlone_whole`). Each object is
looked up among the copies made before, and then copied in the way of its type. -/

namespace GraphQLTree

namespace Cell

/-- A list or a dictionary: its copy is made without any contents, which are filled in then. -/
def isContainer : Cell → Bool
  | list _ | dict _ => true
  | _ => false

/-- An object that is copied without a look at what it refers to, or is its own copy. -/
def isWhole : Cell → Bool
  | buffer _ | iterator _ _ | applied _ _ | stub _ _ _ | builtin _ | newType _ _ => true
  | _ => false

end Cell

namespace Store

variable {s s' s₀ : Store} {r t : Ref} {n : NodeObject} {v x y c : Value} {k : Nat}
  {copies copies' : Copies} {items : List Value}

/-! ### What can be copied -/

/-- What is inside a value: the values of the keys of a node, and the items of a list or a tuple. -/
inductive Holds (s : Store) : Value → Value → Prop
  | key {r : Ref} {n : NodeObject} {key : String} {x : Value} : s.get? r = some (.node n) →
      key ∈ n.cls.keys → n.slots.lookup key = some x → Holds s (.ref r) x
  | item {t : Ref} {items : List Value} {x : Value} : s.sequence? (.ref t) = some items → x ∈ items →
      Holds s (.ref t) x

/-- Whether a value is a node or a child sequence. -/
def IsPart (s : Store) (v : Value) : Prop :=
  (∃ n, s.node? v = some n) ∨ ∃ items, s.frozen? v = some items

/-- All copies that were made stay the copies. -/
def Extends (copies copies' : Copies) : Prop :=
  ∀ {r c}, copies.lookup r = some c → copies'.lookup r = some c

/-- All copies that were made stay the copies, and there are no more of nodes and child sequences. -/
structure AddsOthers (s₀ : Store) (copies copies' : Copies) : Prop where
  extend : Extends copies copies'
  part : ∀ {r c}, s₀.IsPart (.ref r) → copies'.lookup r = some c → copies.lookup r = some c

/-- An object that is copied without any nodes: whenever that is done, no node is made or changed. -/
structure CopiedAlone (s₀ : Store) (t : Ref) : Prop where
  cell : ∃ c, s₀.get? t = some c
  notPart : ¬ s₀.IsPart (.ref t)
  copy : ∀ {s copies k}, s₀.Grows s → copies.lookup t = none → ampleDepth ≤ k →
    ∃ y s' copies', Effect.runOn (Action.deepCopy copies (.ref t) (Behaviour.level k)) s =
        (.ok (y, copies'), s') ∧
      s.Grows s' ∧ s.KeepsNodes nowhere s' ∧ s₀.AddsOthers copies copies'

/-- What may have nodes in it, inside a value that may: what the value holds, and the values of a
dictionary. -/
inductive Encloses (s : Store) : Value → Value → Prop
  | held {t : Ref} {x : Value} : ¬ s.CopiedAlone t → s.Holds (.ref t) x → Encloses s (.ref t) x
  | entry {t : Ref} {entries : List Entry} {e : Entry} : ¬ s.CopiedAlone t →
      s.get? t = some (.dict entries) → e ∈ entries → Encloses s (.ref t) e.value

/-- A value made of nodes, child sequences, lists, tuples, dictionaries and what is copied without any
nodes, that does not contain itself. -/
inductive Clonable (s : Store) : Value → Prop
  | atom {v : Value} : v.isAtom = true → Clonable s v
  | node {r : Ref} {n : NodeObject} : s.RegularNode r n →
      (∀ key ∈ n.cls.keys, ∃ x, n.slots.lookup key = some x) →
      (∀ key ∈ n.cls.sequenceKeys, ∃ x items,
        n.slots.lookup key = some x ∧ s.frozen? x = some items) →
      (∀ key ∈ n.cls.keys, ∀ x, n.slots.lookup key = some x → Clonable s x) → Clonable s (.ref r)
  | sequence {t : Ref} {items : List Value} : s.frozen? (.ref t) = some items →
      (∀ x ∈ items, Clonable s x) → Clonable s (.ref t)
  | list {t : Ref} {items : List Value} : s.get? t = some (.list items) →
      (∀ x ∈ items, Clonable s x) → Clonable s (.ref t)
  | tuple {t : Ref} {items : List Value} {fields : Fields} :
      s.get? t = some (.tuple .plain items fields) → (∀ x ∈ items, Clonable s x) → Clonable s (.ref t)
  | dict {t : Ref} {entries : List Entry} : s.get? t = some (.dict entries) → AtomKeys entries →
      (∀ e ∈ entries, Clonable s e.value) → Clonable s (.ref t)
  | alone {t : Ref} : s.CopiedAlone t → Clonable s (.ref t)

theorem sequence?_frozen (h : s.frozen? v = some items) : s.sequence? v = some items := by
  obtain ⟨t, rfl, hc⟩ := frozen?_some h
  unfold sequence?
  rw [cell?_ref hc]

theorem lt_size_of_sequence? (h : s.sequence? (.ref t) = some items) : t < s.size := by
  by_contra hlt
  have hnone : s.get? t = none := Array.getElem?_eq_none (Nat.not_lt.mp hlt)
  simp [sequence?, cell?, hnone] at h

theorem Holds.lt_size (h : s.Holds (.ref t) x) : t < s.size := by
  cases h with
  | key hc => exact lt_size_of_get? hc
  | item hi => exact lt_size_of_sequence? hi

theorem Encloses.lt_size (h : s.Encloses x y) : ∃ r, r < s.size ∧ x = .ref r := by
  cases h with
  | held _ hx => exact ⟨_, hx.lt_size, rfl⟩
  | entry _ hc => exact ⟨_, lt_size_of_get? hc, rfl⟩

/-- Only an object encloses anything. -/
theorem not_encloses_atom (hv : v.isAtom = true) : ¬ s.Encloses v x := by
  intro h
  obtain ⟨r, -, rfl⟩ := h.lt_size
  cases hv

theorem CopiedAlone.not_encloses (h : s.CopiedAlone t) : ¬ s.Encloses (.ref t) x := by
  intro hx
  cases hx with
  | held hnot => exact hnot h
  | entry hnot => exact hnot h

theorem RegularNode.of_encloses (h : s.RegularNode r n) (hx : s.Encloses (.ref r) x) :
    ∃ key ∈ n.cls.keys, n.slots.lookup key = some x := by
  cases hx with
  | entry _ hc => cases h.cell.symm.trans hc
  | held _ hx =>
    cases hx with
    | key hc hk hx =>
      cases h.cell.symm.trans hc
      exact ⟨_, hk, hx⟩
    | item hi => simp [sequence?, cell?_ref h.cell] at hi

theorem mem_of_encloses (hi : s.sequence? (.ref t) = some items) (hx : s.Encloses (.ref t) x) :
    x ∈ items := by
  cases hx with
  | entry _ hc => simp [sequence?, cell?_ref hc] at hi
  | held _ hx =>
    cases hx with
    | key hc => simp [sequence?, cell?_ref hc] at hi
    | item hi' hx =>
      cases hi.symm.trans hi'
      exact hx

theorem entry_of_encloses {entries : List Entry} (hc : s.get? t = some (.dict entries))
    (hx : s.Encloses (.ref t) x) : ∃ e ∈ entries, e.value = x := by
  cases hx with
  | entry _ hc' he =>
    cases hc.symm.trans hc'
    exact ⟨_, he, rfl⟩
  | held _ hx =>
    cases hx with
    | key hc' => cases hc.symm.trans hc'
    | item hi => simp [sequence?, cell?_ref hc] at hi

/-- A value that can be copied is not higher than there are cells. -/
theorem Clonable.tall (h : s.Clonable v) : Tall s.Encloses (s.size + 1) v := by
  refine Tall.of_acyclic (fun _ _ => Encloses.lt_size) ?_
  have hitems {t : Ref} {items : List Value} (hi : s.sequence? (.ref t) = some items)
      (ih : ∀ x ∈ items, ∀ y, Relation.ReflTransGen s.Encloses x y →
        ¬ Relation.TransGen s.Encloses y y) :
      ∀ y, Relation.ReflTransGen s.Encloses (.ref t) y → ¬ Relation.TransGen s.Encloses y y :=
    Tall.acyclic_of_children fun x hx => ih x (mem_of_encloses hi hx)
  induction h with
  | atom hv => exact Tall.acyclic_of_children fun y hy => absurd hy (not_encloses_atom hv)
  | node hn _ _ _ ih =>
    refine Tall.acyclic_of_children fun y hy => ?_
    obtain ⟨key, hkey, hx⟩ := hn.of_encloses hy
    exact ih key hkey y hx
  | sequence hi _ ih => exact hitems (sequence?_frozen hi) ih
  | list hc _ ih => exact hitems (by simp [sequence?, cell?_ref hc]) ih
  | tuple hc _ ih => exact hitems (by simp [sequence?, cell?_ref hc]) ih
  | dict hc _ _ ih =>
    refine Tall.acyclic_of_children fun y hy => ?_
    obtain ⟨e, he, rfl⟩ := entry_of_encloses hc hy
    exact ih e he
  | alone ha => exact Tall.acyclic_of_children fun y hy => absurd hy ha.not_encloses

theorem isAtom_of_isLeaf (h : v.isLeaf = true) : v.isAtom = true := by
  cases v with
  | ref => cases h
  | _ => rfl

/-- A graph of nodes can be copied deeply. -/
theorem Graph.clonable (h : s.Graph v) : s.Clonable v := by
  have hclonable {d : Nat} {x : Value} (hd : Tall s.Child d x) (hx : s.Graph x) : s.Clonable x := by
    induction d generalizing x with
    | zero => exact hd.elim
    | succ d ih =>
      cases hx.root with
      | leaf hv => exact .atom (isAtom_of_isLeaf hv)
      | node hn hkeys hseq =>
        refine .node hn hkeys hseq fun key hkey y hy => ?_
        have hstep := hn.step? hkey hy
        exact ih (hd y ⟨_, hstep⟩) (hx.of_step hstep)
      | sequence hi =>
        obtain ⟨t, rfl, -⟩ := frozen?_some hi
        refine .sequence hi fun y hy => ?_
        obtain ⟨i, hstep⟩ := exists_item hi hy
        exact ih (hd y ⟨_, hstep⟩) (hx.of_step hstep)
  exact hclonable h.tall h

/-! ### One object -/

theorem runOn_deepCopy_atom (hv : v.isAtom = true) (copies : Copies) :
    Effect.runOn (Action.deepCopy copies v (Behaviour.level (k + 1))) s =
      (.ok (v, copies), s) := by
  cases v with
  | ref => cases hv
  | _ => rfl

theorem runOn_deepCopy_known {cell : Cell} (hr : s.get? r = some cell)
    (hc : copies.lookup r = some c) :
    Effect.runOn (Action.deepCopy copies (.ref r) (Behaviour.level (k + 1))) s =
      (.ok (c, copies), s) := by
  refine (Effect.runOn_bind_ok (Effect.runOn_get s) _).trans ?_
  rw [cell?_ref hr]
  dsimp only
  rw [hc]
  rfl

/-- A node has its own way to be copied deeply. -/
theorem RegularNode.method?_deepCopy (h : s.RegularNode r n) :
    ∃ owner, s.method? (.ref r) "__deepcopy__" =
      some (.function ⟨owner, "__deepcopy__", .deepCopyNode⟩) := by
  obtain ⟨a, owner, he⟩ := h.cls.deepCopy
  refine ⟨owner, ?_⟩
  unfold method?
  rw [h.field? (by decide), h.classEntry?, he]
  rfl

theorem runOn_deepCopy_node (h : s.RegularNode r n) (hc : copies.lookup r = none) :
    Effect.runOn (Action.deepCopy copies (.ref r) (Behaviour.level (k + 1))) s =
      Effect.runOn (Action.deepCopyCell copies (.ref r) r (.node n) (Behaviour.level k)) s := by
  obtain ⟨owner, hm⟩ := h.method?_deepCopy
  refine (Effect.runOn_bind_ok (Effect.runOn_get s) _).trans ?_
  rw [cell?_ref h.cell]
  dsimp only
  rw [hc, hm]

/-- An object whose type has no own way to copy it is copied by what it is. -/
theorem runOn_deepCopy_plain {cell : Cell} (hs : s.classAttrs = []) (ht : s.get? t = some cell)
    (hfields : cell.fields?.all (· = .own []) = true) {form : BasicType}
    (htype : cell.type = .basic form)
    (hentry : empty.classEntry? (.basic form) "__deepcopy__" = none)
    (hc : copies.lookup t = none) :
    Effect.runOn (Action.deepCopy copies (.ref t) (Behaviour.level (k + 1))) s =
      Effect.runOn (Action.deepCopyCell copies (.ref t) t cell (Behaviour.level k)) s := by
  have hfield : s.field? (.ref t) "__deepcopy__" = none := by
    unfold field?
    rw [cell?_ref ht]
    rcases hf : cell.fields? with - | fields
    · simp [hf]
    · rw [hf, Option.all_some, decide_eq_true_eq] at hfields
      simp [hf, hfields, attrsOf]
  have hnone : s.classEntry? (s.typeOf (.ref t)) "__deepcopy__" = none := by
    rw [typeOf_ref ht, htype, classEntry?_eq hs rfl, hentry]
  have hmethod : s.method? (.ref t) "__deepcopy__" = none := by
    unfold method?
    rw [hfield, hnone]
  refine (Effect.runOn_bind_ok (Effect.runOn_get s) _).trans ?_
  rw [cell?_ref ht]
  dsimp only
  rw [hc, hmethod, hfield, hnone]
  simp only [Option.isSome_none, Bool.or_self, Bool.and_false]

/-! ### Objects that no nodes are copied for -/

theorem lookup_cons_of_ne {z : Ref} (hne : z ≠ r) :
    List.lookup z ((r, c) :: copies) = copies.lookup z := by
  rw [List.lookup_cons, beq_eq_false_iff_ne.mpr hne]

theorem lookup_cons_same : List.lookup r ((r, c) :: copies) = some c := by
  rw [List.lookup_cons, beq_self_eq_true]

theorem extends_cons (hr : copies.lookup r = none) : Extends copies ((r, c) :: copies) := by
  intro z w hz
  have hne : z ≠ r := by
    rintro rfl
    rw [hr] at hz
    cases hz
  rwa [lookup_cons_of_ne hne]

theorem AddsOthers.cons (hp : ¬ s₀.IsPart (.ref r)) (hr : copies.lookup r = none) :
    s₀.AddsOthers copies ((r, c) :: copies) where
  extend := extends_cons hr
  part {q _} hq hc := by
    have hne : q ≠ r := by
      rintro rfl
      exact hp hq
    rwa [lookup_cons_of_ne hne] at hc

theorem not_isPart_cell {cell : Cell} (hc : s.get? t = some cell) (hnode : ∀ n, cell ≠ .node n)
    (hfrozen : ∀ items, cell ≠ .tuple .frozen items (.own [])) : ¬ s.IsPart (.ref t) := by
  rintro (⟨n, hn⟩ | ⟨items, hi⟩)
  · obtain ⟨r, hr, hcell⟩ := node?_some hn
    cases hr
    exact hnode n (Option.some.inj (hc.symm.trans hcell))
  · exact hfrozen items (Option.some.inj (hc.symm.trans (cell_of_frozen? hi)))

/-- An object without attributes of its own that is copied as a whole is copied without any nodes. -/
theorem copiedAlone_whole {cell : Cell} (hs : s₀.classAttrs = []) (ht : s₀.get? t = some cell)
    (h : cell.isWhole = true) (hfields : cell.fields?.all (· = .own []) = true) :
    s₀.CopiedAlone t where
  cell := ⟨cell, ht⟩
  notPart := by
    refine not_isPart_cell ht ?_ ?_
    · rintro n rfl
      cases h
    · rintro items rfl
      cases h
  copy {s copies k} hg hc hk := by
    obtain ⟨k, rfl⟩ : ∃ j, k = j + 1 := ⟨k - 1, by unfold ampleDepth at hk; omega⟩
    have hcopy {form : BasicType} (htype : cell.type = .basic form)
        (hentry : empty.classEntry? (.basic form) "__deepcopy__" = none) :=
      runOn_deepCopy_plain (k := k) (hg.classAttrs.trans hs) (hg.get?_eq ht) hfields htype hentry hc
    cases cell with
    | buffer | iterator | applied =>
      have hpart : ¬ s₀.IsPart (.ref t) := not_isPart_cell ht nofun nofun
      exact ⟨.ref s.size, _, _, (hcopy rfl rfl).trans rfl, s.grows_alloc _, keepsNodes_alloc s nofun,
        .cons hpart hc⟩
    | stub | builtin | newType =>
      exact ⟨.ref t, s, copies, (hcopy rfl rfl).trans rfl, .refl s, .refl nowhere s,
        ⟨id, fun _ => id⟩⟩
    | _ => cases h

end Store
end GraphQLTree
