import GraphQLTree.Proofs.Changes
import GraphQLTree.Proofs.DeepCopy

/-! # The shape of deep copies

A deep copy of a graph has the same paths as the graph, and at their ends nodes of the same classes, child
sequences of the same lengths and the same leaves (`Store.Matches`); two paths lead to one node of the
copy exactly if they lead to one node of the graph (`Store.Mirrors`). All objects of the copy are new, so
that changes of its nodes and of the nodes of the graph do not meet. The main result is
`Store.runOn_deepCopyUsing`. -/

namespace GraphQLTree

namespace Store

variable {s s' s₀ : Store} {r t : Ref} {n : NodeObject} {v x y c : Value} {e : Edge}
  {copies : Copies}

/-! ### Graphs in growing stores -/

theorem step?_grows (hs : s.Grows s') (hx : s.Element x) (e : Edge) : s'.step? x e = s.step? x e := by
  cases hx with
  | leaf hv => rw [step?_leaf hv, step?_leaf hv]
  | node hn =>
    have hcell := hs.get?_eq hn.cell
    cases e <;> simp only [step?, node?, frozen?, cell?_ref hn.cell, cell?_ref hcell]
  | sequence hi =>
    obtain ⟨t, rfl, hc⟩ := frozen?_some hi
    have hcell := hs.get?_eq hc
    cases e <;> simp only [step?, node?, frozen?, cell?_ref hc, cell?_ref hcell]

theorem Element.grows (h : s.Element x) (hs : s.Grows s') : s'.Element x := by
  cases h with
  | leaf hv => exact .leaf hv
  | node hn hkeys hseq =>
    refine .node ⟨hs.classAttrs.trans hn.classAttrs, hs.get?_eq hn.cell, hn.cls, hn.fields⟩ hkeys
      fun key hkey => ?_
    obtain ⟨x, items, hx, hi⟩ := hseq key hkey
    exact ⟨x, items, hx, frozen?_grows hs hi⟩
  | sequence hi => exact .sequence (frozen?_grows hs hi)

namespace Graph

theorem follow_grows (h : s.Graph v) (hs : s.Grows s') (path : List Edge) :
    s'.follow v path = s.follow v path := by
  induction path generalizing v with
  | nil => rfl
  | cons e path ih =>
    have hstep := step?_grows hs h.root e
    change (s'.step? v e).bind _ = (s.step? v e).bind _
    rw [hstep]
    rcases he : s.step? v e with - | x
    · rfl
    · exact ih (h.of_step he)

/-- A graph stays one when more cells are made. -/
theorem grows (h : s.Graph v) (hs : s.Grows s') : s'.Graph v where
  element hx := by
    rw [h.follow_grows hs] at hx
    exact (h.element hx).grows hs
  acyclic hx hc := by
    rw [h.follow_grows hs] at hx
    rw [(h.of_follow hx).follow_grows hs] at hc
    exact h.acyclic hx hc

end Graph

/-! ### Values and their copies -/

/-- A value and what stands for it in the copy of a graph: its copy, or for the sequence under a key of
sequences another child sequence of the copies of its items. -/
inductive Twin (s₀ s : Store) (copies : Copies) : Value → Value → Prop
  | image {x y : Value} : Image s₀ copies x y → Twin s₀ s copies x y
  | sequence {x : Value} {t : Ref} {items items' : List Value} : s₀.frozen? x = some items →
      s.frozen? (.ref t) = some items' → s₀.size ≤ t → List.Forall₂ (Image s₀ copies) items items' →
      Twin s₀ s copies x (.ref t)

/-- What a value and its copy have in common, as far as one level shows. -/
inductive Matches (s₀ s : Store) : Value → Value → Prop
  | leaf {v : Value} : v.isLeaf = true → Matches s₀ s v v
  | node {r t : Ref} {n m : NodeObject} : s₀.RegularNode r n → s.RegularNode t m → n.cls = m.cls →
      s₀.size ≤ t → Matches s₀ s (.ref r) (.ref t)
  | sequence {x : Value} {t : Ref} {items items' : List Value} : s₀.frozen? x = some items →
      s.frozen? (.ref t) = some items' → items.length = items'.length → s₀.size ≤ t →
      Matches s₀ s x (.ref t)

/-- A value mirrors a graph: the same paths lead to matching values, and to one node exactly if they
lead to one node of the graph. -/
structure Mirrors (s₀ s : Store) (v c : Value) : Prop where
  paths : ∀ path, Option.Rel (Matches s₀ s) (s₀.follow v path) (s.follow c path)
  sharing : ∀ {p q x x' y y'}, s₀.follow v p = some x → s₀.follow v q = some x' →
    (s₀.node? x).isSome → (s₀.node? x').isSome →
    s.follow c p = some y → s.follow c q = some y' → (y = y' ↔ x = x')

/-- What one level shows of a copied value. -/
inductive Twin.View (s₀ s : Store) (copies : Copies) : Value → Value → Prop
  | leaf {v : Value} : v.isLeaf = true → View s₀ s copies v v
  | node {r t : Ref} {n m : NodeObject} : s₀.RegularNode r n → s.RegularNode t m → n.cls = m.cls →
      s₀.size ≤ t → (∀ key ∈ n.cls.keys, ∃ x y, n.slots.lookup key = some x ∧
        m.slots.lookup key = some y ∧ Twin s₀ s copies x y) → View s₀ s copies (.ref r) (.ref t)
  | sequence {x : Value} {t : Ref} {items items' : List Value} : s₀.frozen? x = some items →
      s.frozen? (.ref t) = some items' → s₀.size ≤ t →
      List.Forall₂ (Twin s₀ s copies) items items' → View s₀ s copies x (.ref t)

/-- The copies of sequences are sequences. -/
theorem Copied.sequence (h : Copied s₀ s copies) {items : List Value} (hx : s₀.frozen? x = some items)
    (hy : Image s₀ copies x y) :
    ∃ t items', y = .ref t ∧ s.frozen? (.ref t) = some items' ∧ s₀.size ≤ t ∧
      List.Forall₂ (Image s₀ copies) items items' := by
  obtain ⟨t, items', rfl, hc, ht, hitems⟩ := h.given hx hy
  refine ⟨t, items', rfl, ?_, ht, hitems⟩
  unfold frozen?
  rw [cell?_ref hc]

/-- What a copied node keeps under a key. -/
theorem Copied.twin_kept (h : Copied s₀ s copies) {isSequence : Bool} {w : Value}
    (hseq : isSequence = true → ∃ items, s₀.frozen? x = some items) (hy : Image s₀ copies x y)
    (hw : s.Kept s₀.size isSequence y w) : Twin s₀ s copies x w := by
  cases hw with
  | same => exact .image hy
  | frozen hc hc' ht' =>
    obtain ⟨items, hi⟩ := hseq rfl
    obtain ⟨t, items', ht, hi', -, hitems⟩ := h.sequence hi hy
    cases ht
    have hcell := cell_of_frozen? hi'
    rw [hc] at hcell
    cases hcell
    refine .sequence hi ?_ ht' hitems
    unfold frozen?
    rw [cell?_ref hc']

/-- A value of a graph and its copy show the same at each level. -/
theorem Twin.view (hc : Copied s₀ s copies) (hx : s₀.Element x) (h : Twin s₀ s copies x y) :
    Twin.View s₀ s copies x y := by
  cases h with
  | sequence hi hi' ht hitems => exact .sequence hi hi' ht (hitems.imp fun _ _ => .image)
  | image himage =>
    cases hx with
    | leaf hv =>
      obtain rfl := himage.eq_of_atom (isAtom_of_isLeaf hv)
      exact .leaf hv
    | sequence hi =>
      obtain ⟨t, items', rfl, hi', ht, hitems⟩ := hc.sequence hi himage
      exact .sequence hi hi' ht (hitems.imp fun _ _ => .image)
    | @node r n hn hkeys hseq =>
      cases himage with
      | other hp => exact absurd (.inl ⟨n, hn.node?⟩) hp
      | object hp hr =>
        obtain ⟨t, rfl, ht, hcopy⟩ := hc.copy hp hr
        cases hcopy with
        | sequence hi =>
          have hcell := cell_of_frozen? hi
          rw [hn.cell] at hcell
          nomatch hcell
        | @node m slots hm hu hall =>
          obtain rfl : n = m := by
            have hcell := hm.cell
            rw [hn.cell] at hcell
            cases hcell
            rfl
          refine .node hn (hu.regularNode hn.cls) rfl ht fun key hkey => ?_
          obtain ⟨x, y, w, hx, hy, hw, hkept⟩ := hall key hkey
          refine ⟨x, w, hx, hw, hc.twin_kept (fun hk => ?_) hy hkept⟩
          obtain ⟨x', items, hx', hi⟩ := hseq key (List.contains_iff_mem.mp hk)
          obtain rfl := Option.some.inj (hx.symm.trans hx')
          exact ⟨items, hi⟩

theorem Twin.View.matches (h : Twin.View s₀ s copies x y) : Matches s₀ s x y := by
  cases h with
  | leaf hv => exact .leaf hv
  | node hn hm hcls ht => exact .node hn hm hcls ht
  | sequence hi hi' ht hitems => exact .sequence hi hi' hitems.length_eq ht

theorem rel_getElem? {R : Value → Value → Prop} {xs ys : List Value} (h : List.Forall₂ R xs ys)
    (place : Nat) : Option.Rel R xs[place]? ys[place]? := by
  induction h generalizing place with
  | nil => exact .none
  | cons hxy _ ih =>
    cases place with
    | zero => exact .some hxy
    | succ place => exact ih place

/-- From a value and its copy the same edges lead on, to values and their copies. -/
theorem Twin.View.step? (h : Twin.View s₀ s copies x y) (e : Edge) :
    Option.Rel (Twin s₀ s copies) (s₀.step? x e) (s.step? y e) := by
  cases h with
  | leaf hv =>
    rw [step?_leaf hv, step?_leaf hv]
    exact .none
  | @node r t n m hn hm hcls ht hkeys =>
    cases e with
    | item => simp [Store.step?, frozen?, cell?_ref hn.cell, cell?_ref hm.cell]
    | key name =>
      by_cases hk : name ∈ n.cls.keys
      · obtain ⟨x, y, hx, hy, hxy⟩ := hkeys name hk
        rw [hn.step? hk hx, hm.step? (hcls ▸ hk) hy]
        exact .some hxy
      · simp [Store.step?, hn.node?, hm.node?, hk, hcls ▸ hk]
  | @sequence x t items items' hi hi' ht hitems =>
    cases e with
    | key =>
      obtain ⟨u, rfl, hu⟩ := frozen?_some hi
      simp [Store.step?, node?, cell?_ref hu, cell?_ref (cell_of_frozen? hi')]
    | item place =>
      change Option.Rel _ ((s₀.frozen? x).bind _) ((s.frozen? (.ref t)).bind _)
      rw [hi, hi', Option.bind_some, Option.bind_some]
      exact rel_getElem? hitems place

/-- All along a path there are values and their copies. -/
theorem Twin.follow (hc : Copied s₀ s copies) (hg : s₀.Graph x) (h : Twin s₀ s copies x y)
    (path : List Edge) :
    Option.Rel (Twin s₀ s copies) (s₀.follow x path) (s.follow y path) := by
  induction path generalizing x y with
  | nil => exact .some h
  | cons e path ih =>
    have hstep := (h.view hc hg.root).step? e
    change Option.Rel _ ((s₀.step? x e).bind _) ((s.step? y e).bind _)
    rcases hx : s₀.step? x e with - | x' <;> rcases hy : s.step? y e with - | y' <;>
      rw [hx, hy] at hstep
    · exact .none
    · nomatch hstep
    · nomatch hstep
    · cases hstep with
      | some hxy => exact ih (hg.of_step hx) hxy

/-- Nodes are the same ones exactly if their copies are. -/
theorem Twin.eq_iff (hc : Copied s₀ s copies) {x' y' : Value} (h : Twin s₀ s copies x y)
    (h' : Twin s₀ s copies x' y') (hx : (s₀.node? x).isSome) (hx' : (s₀.node? x').isSome) :
    y = y' ↔ x = x' := by
  have hobject {x y : Value} (h : Twin s₀ s copies x y) (hx : (s₀.node? x).isSome) :
      ∃ r, x = .ref r ∧ s₀.IsPart (.ref r) ∧ copies.lookup r = some y := by
    obtain ⟨n, hn⟩ := Option.isSome_iff_exists.mp hx
    obtain ⟨r, rfl, hr⟩ := node?_some hn
    cases h with
    | image himage =>
      cases himage with
      | other hp => exact absurd (.inl ⟨n, hn⟩) hp
      | object hp hc => exact ⟨r, rfl, hp, hc⟩
    | sequence hi =>
      have hcell := cell_of_frozen? hi
      rw [hr] at hcell
      nomatch hcell
  obtain ⟨r, rfl, hpr, hr⟩ := hobject h hx
  obtain ⟨q, rfl, hpq, hq⟩ := hobject h' hx'
  constructor
  · rintro rfl
    exact congrArg Value.ref (hc.injective hpr hpq hr hq)
  · rintro ⟨⟩
    exact Option.some.inj (hr.symm.trans hq)

theorem Copied.mirrors (hc : Copied s₀ s copies) (hg : s₀.Graph v) (h : Image s₀ copies v c) :
    Mirrors s₀ s v c := by
  have hrel := Twin.follow hc hg (.image h)
  have htwin {p : List Edge} {x y : Value} (hx : s₀.follow v p = some x)
      (hy : s.follow c p = some y) : Twin s₀ s copies x y := by
    have hp := hrel p
    rw [hx, hy] at hp
    cases hp with
    | some hxy => exact hxy
  refine ⟨fun path => ?_, fun hx hx' hn hn' hy hy' => (htwin hx hy).eq_iff hc (htwin hx' hy') hn hn'⟩
  have hp := hrel path
  rcases hx : s₀.follow v path with - | x <;> rcases hy : s.follow c path with - | y <;>
    rw [hx, hy] at hp
  · exact .none
  · nomatch hp
  · nomatch hp
  · exact .some ((htwin hx hy).view hc (hg.element hx)).matches

/-! ### Equality -/

/-- Copies are equal to what they were made of. -/
theorem Copied.runOn_equal (hc : Copied s₀ s copies) (hs : s₀.classAttrs = []) (hg : s₀.Graph v)
    (h : Image s₀ copies v c) :
    (Action.equal c v).perform.runOn s = (.ok true, s) := by
  have halike {a b : Value} (hab : s₀.Graph b ∧ Twin s₀ s copies b a) :
      s.Alike (fun a b => s₀.Graph b ∧ Twin s₀ s copies b a) a b := by
    obtain ⟨hgb, htwin⟩ := hab
    cases htwin.view hc hgb.root with
    | leaf hv => exact .leaf hv
    | @node r t n m hn hm hcls ht hkeys =>
      refine .node hm ⟨hm.classAttrs, hc.grows.get?_eq hn.cell, hn.cls, hn.fields⟩ hcls.symm
        fun key hkey => ?_
      obtain ⟨x, y, hx, hy, hxy⟩ := hkeys key (hcls ▸ hkey)
      exact ⟨y, x, hy, hx, hgb.of_step (hn.step? (hcls ▸ hkey) hx), hxy⟩
    | @sequence x t items items' hi hi' ht hitems =>
      obtain ⟨r, rfl, -⟩ := frozen?_some hi
      refine .sequence hi' (frozen?_grows hc.grows hi) (List.forall₂_iff_get.mpr
        ⟨hitems.length_eq.symm, fun i hi₁ hi₂ => ⟨hgb.of_step (e := .item i) ?_,
          (List.forall₂_iff_get.mp hitems).2 i hi₂ hi₁⟩⟩)
      change (s₀.frozen? (.ref r)).bind _ = _
      rw [hi, Option.bind_some, List.getElem?_eq_getElem hi₂]
      rfl
  rw [Action.runOn_perform, show s.depthLimit = (s.size + 1) + (998 + 7 * s.size) + 1 by
    unfold depthLimit
    omega]
  exact runOn_equal_of_alike (hc.grows.classAttrs.trans hs) halike (hg.grows hc.grows).tall
    ⟨hg, .image h⟩

/-! ### Changes of a graph and of its copy -/

/-- Whatever is changed in the nodes that can be reached from one value, all that can be reached from
another one stays as it is. -/
def Apart (s : Store) (v w : Value) : Prop :=
  ∀ changes, s.Changeable changes → (∀ e ∈ changes, ∃ path, s.follow v path = some (.ref e.1)) →
    ∀ {path t cell}, s.follow w path = some (.ref t) → s.get? t = some cell →
      (s.after changes).get? t = some cell

theorem apart_of_ne {v w : Value} (h : ∀ {p q r t}, s.follow v p = some (.ref r) →
    s.follow w q = some (.ref t) → r ≠ t) : s.Apart v w := by
  intro changes hc hv path t cell ht hcell
  refine after_get? hc hcell fun e he => ?_
  obtain ⟨p, hp⟩ := hv e he
  exact h hp ht

theorem Graph.lt_size (h : s.Graph v) {path : List Edge} (ht : s.follow v path = some (.ref t)) :
    t < s.size := by
  cases h.element ht with
  | leaf hv => nomatch hv
  | node hn => exact hn.lt_size
  | sequence hi => exact lt_size_of_get? (cell_of_frozen? hi)

/-- All objects of the copy are new. -/
theorem Mirrors.size_le (h : Mirrors s₀ s v c) {path : List Edge}
    (ht : s.follow c path = some (.ref t)) : s₀.size ≤ t := by
  have hp := h.paths path
  rcases hx : s₀.follow v path with - | x <;> rw [hx, ht] at hp
  · nomatch hp
  · cases hp with
    | some hm =>
      cases hm with
      | leaf hv => nomatch hv
      | node _ _ _ hle => exact hle
      | sequence _ _ _ hle => exact hle

theorem Mirrors.ne (h : Mirrors s₀ s v c) (hg : s₀.Graph v) (hs : s₀.Grows s) {p q : List Edge}
    (ht : s.follow c p = some (.ref t)) (hr : s.follow v q = some (.ref r)) : t ≠ r := by
  rw [hg.follow_grows hs] at hr
  have hlt := hg.lt_size hr
  have hle := h.size_le ht
  rintro rfl
  exact absurd hlt (Nat.not_lt.mpr hle)

/-! ### Deep copies -/

/-- **A deep copy of a graph mirrors it, is equal to it and shares no object with it.** Nothing that was
there before is changed, and later changes of nodes of the copy do not reach the graph, nor the other
way round. -/
theorem runOn_deepCopyUsing (hs : s.classAttrs = []) (hg : s.Graph v) :
    ∃ c s', (Action.deepCopyUsing .null v).perform.runOn s = (.ok c, s') ∧ s.Grows s' ∧
      (Action.equal c v).perform.runOn s' = (.ok true, s') ∧ s.Mirrors s' v c ∧
      (∀ {p q t r}, s'.follow c p = some (.ref t) → s'.follow v q = some (.ref r) → t ≠ r) ∧
      s'.Apart c v ∧ s'.Apart v c := by
  obtain ⟨c, s', copies, hrun, hstep, himage⟩ :=
    copyable_of_clonable hs hg.clonable hg.clonable.tall (ampleDepth_le s) _ _ (.start s)
  have hmirrors := hstep.copied.mirrors hg himage
  refine ⟨c, s', ?_, hstep.grows, hstep.copied.runOn_equal hs hg himage, hmirrors,
    hmirrors.ne hg hstep.grows, apart_of_ne (hmirrors.ne hg hstep.grows),
    apart_of_ne fun hr ht => (hmirrors.ne hg hstep.grows ht hr).symm⟩
  rw [Action.runOn_perform, show s.depthLimit = (s.size + 1) + (994 + 7 * s.size) + 5 by
    unfold depthLimit
    omega]
  exact Action.runOn_bind_ok (Action.runOn_get s) _ |>.trans ((Action.runOn_bind_ok hrun _).trans rfl)

/-- An object type with two fields of one type, one of them listed twice. -/
def sharingType : Store where
  cells := #[
    .node ⟨.namedType, [("nullable", .bool true), ("name", .text "Int")], .own [], none⟩,
    .tuple .frozen [] (.own []),
    .node ⟨.objectFieldDefinition, [("name", .text "a"), ("type", .ref 0), ("arguments", .ref 1)],
      .own [], none⟩,
    .node ⟨.objectFieldDefinition, [("name", .text "b"), ("type", .ref 0), ("arguments", .ref 1)],
      .own [], none⟩,
    .tuple .frozen [.ref 2, .ref 3, .ref 2] (.own []),
    .node ⟨.objectDefinition, [("name", .text "Q"), ("implements", .null), ("fields", .ref 4)],
      .own [], none⟩]
  nextTag := 0
  classAttrs := []
  functionData := []

theorem sharingType_graph : sharingType.Graph (.ref 5) :=
  graph_of_isBuiltUp rfl (by decide +kernel) (by decide)

theorem runOn_deepCopyUsing_sharingType :
    sharingType.classAttrs = [] ∧ sharingType.Graph (.ref 5) ∧
      ∃ c s', (Action.deepCopyUsing .null (.ref 5)).perform.runOn sharingType = (.ok c, s') ∧
        (Action.equal c (.ref 5)).perform.runOn s' = (.ok true, s') ∧
        sharingType.Mirrors s' (.ref 5) c := by
  obtain ⟨c, s', hrun, -, hequal, hmirrors, -⟩ := runOn_deepCopyUsing rfl sharingType_graph
  exact ⟨rfl, sharingType_graph, c, s', hrun, hequal, hmirrors⟩

end Store
end GraphQLTree
