import GraphQLTree.Proofs.Clonable

/-! # Deep copies

When a value is copied deeply, each node and each child sequence in it gets one new copy, which is
remembered (`Store.Copied`). Nothing that was there before is changed. So everything that can be copied is
(`Store.copyable_of_clonable`), however its parts share other ones. -/

namespace GraphQLTree

namespace Store

variable {s s' s'' s₀ : Store} {r q t u : Ref} {n : NodeObject} {v x y c : Value} {k : Nat}
  {copies copies' copies'' : Copies} {out : Ref → Prop} {items : List Value}

/-! ### The copies made so far -/

/-- A value that was answered for the deep copy of a value. -/
def Answers (s₀ : Store) (x y : Value) : Prop :=
  ∃ s k copies copies' s', s₀.Grows s ∧
    Effect.runOn (Action.deepCopy copies x (Behaviour.level k)) s = (.ok (y, copies'), s')

/-- What a value is copied to: a node or a child sequence to its copy. -/
inductive Image (s₀ : Store) (copies : Copies) : Value → Value → Prop
  | object {r : Ref} {c : Value} : s₀.IsPart (.ref r) → copies.lookup r = some c →
      Image s₀ copies (.ref r) c
  | other {x y : Value} : ¬ s₀.IsPart x → s₀.Answers x y → Image s₀ copies x y

theorem Image.mono (h : Image s₀ copies x y) (he : Extends copies copies') :
    Image s₀ copies' x y := by
  cases h with
  | object hp hc => exact .object hp (he hc)
  | other hp ha => exact .other hp ha

theorem not_isPart_atom (hv : v.isAtom = true) : ¬ s.IsPart v := by
  rintro (⟨n, hn⟩ | ⟨items, hi⟩)
  · obtain ⟨r, rfl, -⟩ := node?_some hn
    cases hv
  · obtain ⟨r, rfl, -⟩ := frozen?_some hi
    cases hv

/-- A value that is no object is its own copy. -/
theorem Image.eq_of_atom (h : Image s₀ copies x y) (hx : x.isAtom = true) : y = x := by
  cases h with
  | object => cases hx
  | other hp ha =>
    obtain ⟨s, k, copies₁, copies₂, s', -, hrun⟩ := ha
    cases k with
    | zero => cases congrArg Prod.fst hrun
    | succ k =>
      rw [runOn_deepCopy_atom hx] at hrun
      cases hrun
      rfl

theorem Kept.keepsNodes {old : Nat} {isSequence : Bool} (h : s.Kept old isSequence x y)
    (hk : s.KeepsNodes out s') (ho : ∀ q < s.size, ¬ out q) : s'.Kept old isSequence x y := by
  cases h with
  | same => exact .same _
  | frozen hc hc' hle =>
    exact .frozen (hk.tuple (ho _ (lt_size_of_get? hc)) hc) (hk.tuple (ho _ (lt_size_of_get? hc')) hc')
      hle

theorem Kept.weaken {old old' : Nat} {isSequence : Bool} (h : s.Kept old isSequence x y)
    (ho : old' ≤ old) : s.Kept old' isSequence x y := by
  cases h with
  | same => exact .same _
  | frozen hc hc' ht => exact .frozen hc hc' (Nat.le_trans ho ht)

/-- A cell that is the copy of another one, where `s₀` is the store before: a node of the same class
that keeps the copies of what the keys hold, or a child sequence of the copies of the items. -/
inductive CopyOf (s₀ s : Store) (copies : Copies) (r t : Ref) : Prop
  | node {n : NodeObject} {slots : Attrs} : s₀.RegularNode r n → s.Made t n.cls slots →
      (∀ key ∈ n.cls.keys, ∃ v y w, n.slots.lookup key = some v ∧ Image s₀ copies v y ∧
        slots.lookup key = some w ∧
        s.Kept s₀.size (n.cls.sequenceKeys.contains key) y w) → CopyOf s₀ s copies r t
  | sequence {items items' : List Value} : s₀.frozen? (.ref r) = some items →
      s.frozen? (.ref t) = some items' → List.Forall₂ (Image s₀ copies) items items' →
      CopyOf s₀ s copies r t

theorem CopyOf.lt_size (h : CopyOf s₀ s copies r t) : t < s.size := by
  cases h with
  | node _ hu => exact lt_size_of_get? hu.cell
  | sequence _ ht => exact lt_size_of_get? (cell_of_frozen? ht)

theorem CopyOf.mono (h : CopyOf s₀ s copies r t) (hk : s.KeepsNodes out s')
    (ho : ∀ q < s.size, ¬ out q) (he : Extends copies copies') : CopyOf s₀ s' copies' r t := by
  have ht := ho t h.lt_size
  cases h with
  | node hn hu hkeys =>
    refine .node hn ⟨⟨hk.classAttrs.trans hu.classAttrs, (hk.node ht).mpr hu.cell⟩, hu.names⟩
      fun key hkey => ?_
    obtain ⟨v, y, w, hv, hy, hw, hkept⟩ := hkeys key hkey
    exact ⟨v, y, w, hv, hy.mono he, hw, hkept.keepsNodes hk ho⟩
  | sequence hr hi hitems =>
    exact .sequence hr (hk.frozen?_eq ht hi) (hitems.imp fun _ _ h => h.mono he)

/-- All copies of nodes and child sequences are new cells, one for each object that was copied, and
there are no other new nodes. -/
structure Copied (s₀ s : Store) (copies : Copies) : Prop where
  grows : s₀.Grows s
  copy : ∀ {r c}, s₀.IsPart (.ref r) → copies.lookup r = some c →
    ∃ t, c = .ref t ∧ s₀.size ≤ t ∧ CopyOf s₀ s copies r t
  injective : ∀ {r q c}, s₀.IsPart (.ref r) → s₀.IsPart (.ref q) → copies.lookup r = some c →
    copies.lookup q = some c → r = q
  node : ∀ {t n}, s.get? t = some (.node n) →
    t < s₀.size ∨ ∃ r, s₀.IsPart (.ref r) ∧ copies.lookup r = some (.ref t)

theorem Copied.start (s : Store) : Copied s s [] where
  grows := Grows.refl s
  copy _ h := by cases h
  injective _ _ h := by cases h
  node h := .inl (lt_size_of_get? h)

theorem Copied.mono (h : Copied s₀ s copies) (hs : s₀.Grows s') (hk : s.KeepsNodes nowhere s') :
    Copied s₀ s' copies where
  grows := hs
  copy hp hc := by
    obtain ⟨t, rfl, ht, hcopy⟩ := h.copy hp hc
    exact ⟨t, rfl, ht, hcopy.mono hk (fun _ _ => id) id⟩
  injective := h.injective
  node hc := h.node ((hk.node id).mp hc)

/-- A new copy is remembered. -/
theorem Copied.add (h : Copied s₀ s copies) (hp : s₀.IsPart (.ref r)) (hr : copies.lookup r = none)
    (hs : s₀.Grows s') (hk : s.KeepsNodes (· = t) s') (ht : s.size ≤ t)
    (hc : CopyOf s₀ s' copies r t) : Copied s₀ s' ((r, .ref t) :: copies) := by
  have he : Extends copies ((r, .ref t) :: copies) := extends_cons hr
  have hout : ∀ q < s.size, ¬ q = t := fun q hq => Nat.ne_of_lt (Nat.lt_of_lt_of_le hq ht)
  have hnew {q : Ref} {c : Value} (hpq : s₀.IsPart (.ref q)) (hq : copies.lookup q = some c) :
      c ≠ .ref t := by
    obtain ⟨t', rfl, -, hcopy⟩ := h.copy hpq hq
    rintro ⟨⟩
    exact Nat.lt_irrefl _ (Nat.lt_of_lt_of_le hcopy.lt_size ht)
  constructor
  · exact hs
  · intro q c hpq hq
    by_cases hqr : q = r
    · subst hqr
      obtain rfl := Option.some.inj (lookup_cons_same.symm.trans hq)
      exact ⟨t, rfl, Nat.le_trans h.grows.size ht, hc.mono (.refl nowhere s') (fun _ _ => id) he⟩
    · rw [lookup_cons_of_ne hqr] at hq
      obtain ⟨t', rfl, ht', hcopy⟩ := h.copy hpq hq
      exact ⟨t', rfl, ht', hcopy.mono hk hout he⟩
  · intro q q' c hpq hpq' hq hq'
    by_cases hqr : q = r <;> by_cases hqr' : q' = r
    · exact hqr.trans hqr'.symm
    · subst hqr
      rw [lookup_cons_of_ne hqr'] at hq'
      exact absurd (Option.some.inj (hq.symm.trans lookup_cons_same)) (hnew hpq' hq')
    · subst hqr'
      rw [lookup_cons_of_ne hqr] at hq
      exact absurd (Option.some.inj (hq'.symm.trans lookup_cons_same)) (hnew hpq hq)
    · rw [lookup_cons_of_ne hqr] at hq
      rw [lookup_cons_of_ne hqr'] at hq'
      exact h.injective hpq hpq' hq hq'
  · intro q m hq
    by_cases hqt : q = t
    · exact .inr ⟨r, hp, hqt ▸ lookup_cons_same⟩
    · refine (h.node ((hk.node hqt).mp hq)).imp_right ?_
      rintro ⟨z, hpz, hz⟩
      exact ⟨z, hpz, he hz⟩

/-- What is remembered about other objects does not matter. -/
theorem Copied.others (h : Copied s₀ s copies) (ho : s₀.AddsOthers copies copies') :
    Copied s₀ s copies' where
  grows := h.grows
  copy hp hc := by
    obtain ⟨t, rfl, ht, hcopy⟩ := h.copy hp (ho.part hp hc)
    exact ⟨t, rfl, ht, hcopy.mono (.refl nowhere s) (fun _ _ => id) ho.extend⟩
  injective hp hp' hc hc' := h.injective hp hp' (ho.part hp hc) (ho.part hp' hc')
  node hc := (h.node hc).imp_right fun ⟨z, hz, hlookup⟩ => ⟨z, hz, ho.extend hlookup⟩

/-! ### Several copies, one after the other -/

/-- What becomes of the copies when values are copied deeply, where `S` tells which: those that were made
stay, and the new ones of nodes and child sequences are of what is inside these values. -/
structure MoreCopies (s₀ : Store) (S : Value → Prop) (copies copies' : Copies) : Prop where
  extend : Extends copies copies'
  new : ∀ {r c}, s₀.IsPart (.ref r) → copies'.lookup r = some c →
    copies.lookup r = some c ∨ ∃ x, S x ∧ Relation.ReflTransGen s₀.Encloses x (.ref r)

namespace MoreCopies

variable {S T : Value → Prop}

theorem refl : MoreCopies s₀ S copies copies :=
  ⟨id, fun _ => .inl⟩

theorem trans (h : MoreCopies s₀ S copies copies') (h' : MoreCopies s₀ S copies' copies'') :
    MoreCopies s₀ S copies copies'' := by
  refine ⟨fun hc => h'.extend (h.extend hc), fun hp hc => ?_⟩
  rcases h'.new hp hc with hc | hnew
  · exact h.new hp hc
  · exact .inr hnew

theorem mono (h : MoreCopies s₀ S copies copies') (hST : ∀ x, S x → T x) :
    MoreCopies s₀ T copies copies' := by
  refine ⟨h.extend, fun hp hc => ?_⟩
  rcases h.new hp hc with hc | ⟨x, hx, hreach⟩
  · exact .inl hc
  · exact .inr ⟨x, hST x hx, hreach⟩

/-- What is inside an object is copied. -/
theorem inside (h : MoreCopies s₀ S copies copies') (hS : ∀ x, S x → s₀.Encloses (.ref r) x) :
    MoreCopies s₀ (· = .ref r) copies copies' := by
  refine ⟨h.extend, fun hp hc => ?_⟩
  rcases h.new hp hc with hold | ⟨x, hx, hreach⟩
  · exact .inl hold
  · exact .inr ⟨_, rfl, .head (hS x hx) hreach⟩

theorem cons (hr : copies.lookup r = none) :
    MoreCopies s₀ (· = .ref r) copies ((r, c) :: copies) := by
  refine ⟨extends_cons hr, fun {q _} _ hq => ?_⟩
  by_cases hqr : q = r
  · subst hqr
    exact .inr ⟨_, rfl, .refl⟩
  · rw [lookup_cons_of_ne hqr] at hq
    exact .inl hq

theorem others (h : s₀.AddsOthers copies copies') : MoreCopies s₀ S copies copies' :=
  ⟨h.extend, fun hp hc => .inl (h.part hp hc)⟩

/-- What is copied while the inside of a node or child sequence is copied is not that itself. -/
theorem lookup_none {d : Nat} (h : MoreCopies s₀ S copies copies')
    (hd : Tall s₀.Encloses d (.ref r)) (hS : ∀ x, S x → s₀.Encloses (.ref r) x)
    (hp : s₀.IsPart (.ref r)) (hr : copies.lookup r = none) : copies'.lookup r = none := by
  rcases hc : copies'.lookup r with - | c
  · rfl
  · rcases h.new hp hc with hold | ⟨x, hx, hreach⟩
    · rw [hr] at hold
      cases hold
    · exact absurd (Relation.TransGen.head' (hS x hx) hreach) hd.acyclic

end MoreCopies

/-- What it does to copy values deeply, where `S` tells which. -/
structure CopyStep (s₀ : Store) (S : Value → Prop) (s : Store) (copies : Copies) (s' : Store)
    (copies' : Copies) : Prop extends MoreCopies s₀ S copies copies' where
  grows : s.Grows s'
  copied : Copied s₀ s' copies'

namespace CopyStep

variable {S T : Value → Prop}

theorem refl (h : Copied s₀ s copies) : CopyStep s₀ S s copies s copies :=
  ⟨.refl, Grows.refl s, h⟩

theorem trans (h : CopyStep s₀ S s copies s' copies') (h' : CopyStep s₀ S s' copies' s'' copies'') :
    CopyStep s₀ S s copies s'' copies'' :=
  ⟨h.toMoreCopies.trans h'.toMoreCopies, trans_of Grows h.grows h'.grows, h'.copied⟩

theorem mono (h : CopyStep s₀ S s copies s' copies') (hST : ∀ x, S x → T x) :
    CopyStep s₀ T s copies s' copies' :=
  ⟨h.toMoreCopies.mono hST, h.grows, h.copied⟩

/-- What is inside an object is copied, and then the object is noted. -/
theorem into (h : CopyStep s₀ S s copies s' copies') (hS : ∀ x, S x → s₀.Encloses (.ref r) x)
    (hg : s.Grows s'') (hc : Copied s₀ s'' ((r, c) :: copies')) (hr : copies'.lookup r = none) :
    CopyStep s₀ (· = .ref r) s copies s'' ((r, c) :: copies') :=
  ⟨(h.inside hS).trans (.cons hr), hg, hc⟩

end CopyStep

/-- A value of the store `s₀` can be copied deeply where operations use each other to depth `m`. -/
def Copyable (s₀ : Store) (m : Nat) (v : Value) : Prop :=
  ∀ s copies, Copied s₀ s copies →
    ∃ y s' copies', Effect.runOn (Action.deepCopy copies v (Behaviour.level m)) s =
        (.ok (y, copies'), s') ∧
      CopyStep s₀ (· = v) s copies s' copies' ∧ Image s₀ copies' v y

/-- The items of a sequence are copied. -/
theorem runOn_copyAll {m : Nat} {xs : List Value} (hx : ∀ x ∈ xs, Copyable s₀ m x)
    (h : Copied s₀ s copies) :
    ∃ ys s' copies', Effect.runOn (Action.copyAll copies xs (Behaviour.level m)) s =
        (.ok (ys, copies'), s') ∧
      CopyStep s₀ (· ∈ xs) s copies s' copies' ∧ List.Forall₂ (Image s₀ copies') xs ys := by
  induction xs generalizing s copies with
  | nil => exact ⟨[], s, copies, rfl, .refl h, .nil⟩
  | cons x xs ih =>
    obtain ⟨hxx, hxs⟩ := List.forall_mem_cons.mp hx
    obtain ⟨y, s₁, copies₁, hrun₁, hstep₁, hy⟩ := hxx _ _ h
    obtain ⟨ys, s', copies', hrun, hstep, hys⟩ := ih hxs hstep₁.copied
    refine ⟨y :: ys, s', copies', ?_, ?_, .cons (hy.mono hstep.extend) hys⟩
    · refine (Action.runOn_bind_ok hrun₁ _).trans ?_
      exact (Action.runOn_bind_ok hrun _).trans rfl
    · refine (hstep₁.mono ?_).trans (hstep.mono ?_)
      · rintro _ rfl
        exact List.mem_cons_self ..
      · exact fun _ => List.mem_cons_of_mem _

/-- The values of the keys of a node are copied. -/
theorem runOn_copiedValues {m : Nat} (hn : s₀.RegularNode r n) {keys : List String}
    (hkeys : ∀ key ∈ keys, key ∈ n.cls.keys)
    (hx : ∀ key ∈ keys, ∃ x, n.slots.lookup key = some x ∧ Copyable s₀ (m + 1) x)
    (h : Copied s₀ s copies) :
    ∃ args s' copies', Effect.runOn (Action.copiedValues (.ref r) copies (keys.map .text)
        (Behaviour.level (m + 1))) s = (.ok (args, copies'), s') ∧
      CopyStep s₀ (fun x => ∃ key ∈ keys, n.slots.lookup key = some x) s copies s' copies' ∧
      args.map Prod.fst = keys ∧
      ∀ key ∈ keys, keys.Nodup → ∃ x y, n.slots.lookup key = some x ∧ args.lookup key = some y ∧
        Image s₀ copies' x y := by
  induction keys generalizing s copies with
  | nil => exact ⟨[], s, copies, rfl, .refl h, rfl, nofun⟩
  | cons key keys ih =>
    obtain ⟨hkey, hkeys⟩ := List.forall_mem_cons.mp hkeys
    obtain ⟨⟨x, hx, hcopy⟩, hrest⟩ := List.forall_mem_cons.mp hx
    have hn' : s.RegularNode r n :=
      ⟨h.grows.classAttrs.trans hn.classAttrs, h.grows.get?_eq hn.cell, hn.cls, hn.fields⟩
    obtain ⟨y, s₁, copies₁, hrun₁, hstep₁, hy⟩ := hcopy _ _ h
    obtain ⟨args, s', copies', hrun, hstep, hfst, hall⟩ := ih hkeys hrest hstep₁.copied
    refine ⟨(key, y) :: args, s', copies', ?_, ?_, ?_, ?_⟩
    · rw [List.map_cons]
      refine (Action.runOn_bind_ok (hn'.runOn_key hkey hx) _).trans ?_
      refine (Action.runOn_bind_ok hrun₁ _).trans ?_
      exact (Action.runOn_bind_ok hrun _).trans rfl
    · refine (hstep₁.mono ?_).trans (hstep.mono ?_)
      · rintro _ rfl
        exact ⟨key, List.mem_cons_self .., hx⟩
      · rintro z ⟨key', hmem, hz⟩
        exact ⟨key', List.mem_cons_of_mem _ hmem, hz⟩
    · rw [List.map_cons, hfst]
    · intro key' hmem hnodup
      obtain ⟨hnew, hnodup⟩ := List.nodup_cons.mp hnodup
      by_cases hk : key' = key
      · subst hk
        refine ⟨x, y, hx, ?_, hy.mono hstep.extend⟩
        rw [List.lookup_cons, beq_self_eq_true]
      · obtain ⟨x', y', hx', hy', himage⟩ :=
          hall key' ((List.mem_cons.mp hmem).resolve_left hk) hnodup
        refine ⟨x', y', hx', ?_, himage⟩
        rw [List.lookup_cons, beq_eq_false_iff_ne.mpr hk]
        exact hy'

/-! ### Copying one object -/

/-- Copies of child sequences are child sequences. -/
theorem Copied.given (h : Copied s₀ s copies) (hx : s₀.frozen? x = some items)
    (hy : Image s₀ copies x y) :
    ∃ t items', y = .ref t ∧ s.get? t = some (.tuple .frozen items' (.own [])) ∧ s₀.size ≤ t ∧
      List.Forall₂ (Image s₀ copies) items items' := by
  cases hy with
  | other hp => exact absurd (.inr ⟨items, hx⟩) hp
  | object hp hc =>
    obtain ⟨t, rfl, ht, hcopy⟩ := h.copy hp hc
    cases hcopy with
    | node hn =>
      have hcell := cell_of_frozen? hx
      rw [hn.cell] at hcell
      cases hcell
    | sequence hr hi hitems =>
      cases hx.symm.trans hr
      exact ⟨t, _, rfl, cell_of_frozen? hi, ht, hitems⟩

/-- A node is copied to a new node with copies of what its keys hold. -/
theorem copyable_node {m d : Nat} (hd : Tall s₀.Encloses d (.ref r)) (hn : s₀.RegularNode r n)
    (hkeys : ∀ key ∈ n.cls.keys, ∃ x, n.slots.lookup key = some x ∧ Copyable s₀ (m + 4) x)
    (hseq : ∀ key ∈ n.cls.sequenceKeys, ∃ x items,
      n.slots.lookup key = some x ∧ s₀.frozen? x = some items) :
    Copyable s₀ (m + 5) (.ref r) := by
  intro s copies h
  have hpart : s₀.IsPart (.ref r) := .inl ⟨n, hn.node?⟩
  rcases hc : copies.lookup r with - | c
  · have hn' : s.RegularNode r n :=
      ⟨h.grows.classAttrs.trans hn.classAttrs, h.grows.get?_eq hn.cell, hn.cls, hn.fields⟩
    obtain ⟨args, s₁, copies₁, hrun₁, hstep₁, hfst, hargs⟩ :=
      runOn_copiedValues (m := m + 3) hn (fun _ => id) hkeys h
    have hinside : ∀ x, (∃ key ∈ n.cls.keys, n.slots.lookup key = some x) →
        s₀.Encloses (.ref r) x := by
      rintro x ⟨key, hkey, hx⟩
      exact .held (fun ha => ha.notPart hpart) (.key hn.cell hkey hx)
    have hnone := hstep₁.lookup_none hd hinside hpart hc
    have hgiven : ∀ key ∈ n.cls.keys, s₁.Given n.cls args key := by
      intro key hkey
      obtain ⟨x, y, hx, hy, himage⟩ := hargs key hkey hn.cls.nodup
      refine ⟨y, hy, fun hk => ?_⟩
      obtain ⟨x', items, hx', hitems⟩ := hseq key hk
      obtain rfl := Option.some.inj (hx.symm.trans hx')
      obtain ⟨t, items', ht, hcell, -⟩ := hstep₁.copied.given hitems himage
      exact ⟨t, items', ht, hcell⟩
    obtain ⟨s', slots, hrun, hgrow, hu, hkeep, hall⟩ := runOn_make hn.cls
      (hstep₁.copied.grows.classAttrs.trans hn.classAttrs) (hfst ▸ hn.cls.self_notMem) hgiven m
    have hcopy : CopyOf s₀ s' copies₁ r s₁.size := by
      refine .node hn hu fun key hkey => ?_
      obtain ⟨x, y, hx, hy, himage⟩ := hargs key hkey hn.cls.nodup
      obtain ⟨y', w, hy', hw, hkept⟩ := hall key hkey
      obtain rfl := Option.some.inj (hy.symm.trans hy')
      exact ⟨x, y, w, hx, himage, hw, hkept.weaken hstep₁.copied.grows.size⟩
    have hcopied := hstep₁.copied.add hpart hnone
      (trans_of Grows hstep₁.copied.grows hgrow) hkeep (Nat.le_refl _) hcopy
    refine ⟨.ref s₁.size, s', (r, .ref s₁.size) :: copies₁, ?_,
      hstep₁.into hinside (trans_of Grows hstep₁.grows hgrow) hcopied hnone,
      .object hpart lookup_cons_same⟩
    have hnode : Effect.runOn (Action.deepCopyNode copies (.ref r) (Behaviour.level (m + 4))) s =
        (.ok (.ref s₁.size, copies₁), s') := by
      refine (Action.runOn_bind_ok hn'.runOn_classOf _).trans ?_
      refine (Action.runOn_bind_ok hn'.runOn_namesOf _).trans ?_
      refine (Action.runOn_bind_ok hrun₁ _).trans ?_
      dsimp only
      rw [distinct_of_nodup (hfst ▸ hn.cls.nodup)]
      exact (Action.runOn_bind_ok hrun _).trans rfl
    refine (runOn_deepCopy_node hn' hc).trans ?_
    unfold Action.deepCopyCell
    refine (Action.runOn_bind_ok (Action.runOn_get s) _).trans ?_
    exact (Action.runOn_bind_ok hnode _).trans rfl
  · exact ⟨c, s, copies, runOn_deepCopy_known (h.grows.get?_eq hn.cell) hc, .refl h,
      .object hpart hc⟩

/-- A child sequence is copied to a new child sequence of the copies of its items. -/
theorem copyable_sequence {m d : Nat} (hs : s₀.classAttrs = []) (hd : Tall s₀.Encloses d (.ref t))
    (ht : s₀.frozen? (.ref t) = some items) (hitems : ∀ x ∈ items, Copyable s₀ m x) :
    Copyable s₀ (m + 1) (.ref t) := by
  intro s copies h
  have hpart : s₀.IsPart (.ref t) := .inr ⟨items, ht⟩
  have hcell := h.grows.get?_eq (cell_of_frozen? ht)
  rcases hc : copies.lookup t with - | c
  · have hinside : ∀ x, x ∈ items → s₀.Encloses (.ref t) x := fun x hx =>
      .held (fun ha => ha.notPart hpart) (.item (sequence?_frozen ht) hx)
    obtain ⟨ys, s₁, copies₁, hrun₁, hstep₁, hys⟩ := runOn_copyAll hitems h
    have hnone := hstep₁.lookup_none hd hinside hpart hc
    obtain ⟨s', hs'⟩ : ∃ s', s' = (s₁.alloc (.tuple .frozen ys (.own []))).2 := ⟨_, rfl⟩
    have hgrow : s₁.Grows s' := hs' ▸ s₁.grows_alloc _
    have hkeep : s₁.KeepsNodes nowhere s' := hs' ▸ keepsNodes_alloc s₁ (by simp)
    have hfrozen : s'.frozen? (.ref s₁.size) = some ys := by
      unfold frozen?
      rw [cell?_ref (hs' ▸ get?_alloc s₁ _ : s'.get? s₁.size = _)]
    have hcopied := hstep₁.copied.add hpart hnone (trans_of Grows hstep₁.copied.grows hgrow)
      hkeep.of_nowhere (Nat.le_refl _) (.sequence ht hfrozen hys)
    refine ⟨.ref s₁.size, s', (t, .ref s₁.size) :: copies₁, ?_,
      hstep₁.into hinside (trans_of Grows hstep₁.grows hgrow) hcopied hnone,
      .object hpart lookup_cons_same⟩
    refine (runOn_deepCopy_plain (h.grows.classAttrs.trans hs) hcell rfl rfl rfl hc).trans ?_
    unfold Action.deepCopyCell
    refine (Action.runOn_bind_ok (Action.runOn_get s) _).trans ?_
    refine (Action.runOn_bind_ok hrun₁ _).trans ?_
    rw [hs']
    rfl
  · exact ⟨c, s, copies, runOn_deepCopy_known hcell hc, .refl h, .object hpart hc⟩

/-! ### Lists and dictionaries -/

/-- An object that is neither a node nor a child sequence can be copied deeply if it can be where it was
not copied before. -/
theorem copyable_of_unknown {m : Nat} {cell : Cell} (ht : s₀.get? t = some cell)
    (hp : ¬ s₀.IsPart (.ref t))
    (hcopy : ∀ s copies, Copied s₀ s copies → copies.lookup t = none → ∃ y s' copies',
      Effect.runOn (Action.deepCopy copies (.ref t) (Behaviour.level (m + 1))) s =
        (.ok (y, copies'), s') ∧ CopyStep s₀ (· = .ref t) s copies s' copies') :
    Copyable s₀ (m + 1) (.ref t) := by
  intro s copies h
  rcases hc : copies.lookup t with - | c
  · obtain ⟨y, s', copies', hrun, hstep⟩ := hcopy s copies h hc
    exact ⟨y, s', copies', hrun, hstep, .other hp ⟨s, _, copies, copies', s', h.grows, hrun⟩⟩
  · have hrun := runOn_deepCopy_known (k := m) (h.grows.get?_eq ht) hc
    exact ⟨c, s, copies, hrun, .refl h, .other hp ⟨s, _, copies, copies, s, h.grows, hrun⟩⟩

section

variable {cell cell' : Cell}

theorem ne_node_of_isContainer (h : cell.isContainer = true) (n : NodeObject) : cell ≠ .node n := by
  rintro rfl
  cases h

theorem ne_tuple_of_isContainer (h : cell.isContainer = true) (form : TupleForm) (items : List Value)
    (fields : Fields) : cell ≠ .tuple form items fields := by
  rintro rfl
  cases h

theorem not_isPart_container (hc : s.get? t = some cell) (h : cell.isContainer = true) :
    ¬ s.IsPart (.ref t) :=
  not_isPart_cell hc (ne_node_of_isContainer h) fun _ => ne_tuple_of_isContainer h _ _ _

theorem runOn_deepCopy_container (hs : s.classAttrs = []) (ht : s.get? t = some cell)
    (h : cell.isContainer = true) (hc : copies.lookup t = none) :
    Effect.runOn (Action.deepCopy copies (.ref t) (Behaviour.level (k + 1))) s =
      Effect.runOn (Action.deepCopyCell copies (.ref t) t cell (Behaviour.level k)) s := by
  cases cell with
  | list | dict => exact runOn_deepCopy_plain hs ht rfl rfl rfl hc
  | _ => nomatch h

/-- What a list or dictionary contains is nothing to the nodes and tuples. -/
theorem keepsNodes_put_container (hc : s.get? t = some cell) (h : cell.isContainer = true)
    (h' : cell'.isContainer = true) : s.KeepsNodes nowhere (s.put t cell') where
  size := by simp
  classAttrs := rfl
  node {q n} _ := by
    by_cases hq : q = t
    · subst hq
      rw [get?_put s _ (lt_size_of_get? hc), hc]
      exact iff_of_false (fun he => ne_node_of_isContainer h' n (Option.some.inj he))
        fun he => ne_node_of_isContainer h n (Option.some.inj he)
    · rw [get?_put_ne s _ (Ne.symm hq)]
  tuple {q form xs fields} _ hq := by
    have hne : t ≠ q := by
      rintro rfl
      exact ne_tuple_of_isContainer h form xs fields (Option.some.inj (hc.symm.trans hq))
    rwa [get?_put_ne s _ hne]

end

section

variable {α : Type} {m : Nat} {cell : Cell} {es : List α} (P : Cell → Prop) (Q : α → Prop)
  (value : α → Value) (fill : Value → Copies → List α → Action Copies)
  (hP : ∀ {cell}, P cell → cell.isContainer = true)
  (hnil : ∀ copy copies, fill copy copies [] = pure copies)
  (hcons : ∀ (es : List α) {s s₁ : Store} {copies copies₁ : Copies} {l : Ref} {cell : Cell} {e : α}
    {y : Value}, s₀.Grows s₁ → Q e →
    Effect.runOn (Action.deepCopy copies (value e) (Behaviour.level m)) s = (.ok (y, copies₁), s₁) →
    s₁.get? l = some cell → P cell → ∃ cell', P cell' ∧
      Effect.runOn (fill (.ref l) copies (e :: es) (Behaviour.level m)) s =
        Effect.runOn (fill (.ref l) copies₁ es (Behaviour.level m)) (s₁.put l cell'))
include hP hnil hcons

/-- Copies of values are filled into a new list or dictionary, one after the other. -/
theorem runOn_fill {l : Ref} (hes : ∀ e ∈ es, Q e ∧ Copyable s₀ m (value e)) (h : Copied s₀ s copies)
    (hl : s.get? l = some cell) (hcell : P cell) (hle : s₀.size ≤ l) :
    ∃ s' copies', Effect.runOn (fill (.ref l) copies es (Behaviour.level m)) s = (.ok copies', s') ∧
      s.KeepsBut l s' ∧ Copied s₀ s' copies' ∧
      MoreCopies s₀ (fun x => ∃ e ∈ es, value e = x) copies copies' := by
  induction es generalizing s copies cell with
  | nil => exact ⟨s, copies, by rw [hnil]; rfl, (Grows.refl s).keepsBut l, h, .refl⟩
  | cons e es ih =>
    obtain ⟨⟨hq, hcopy⟩, hes⟩ := List.forall_mem_cons.mp hes
    obtain ⟨y, s₁, copies₁, hrun₁, hstep₁, -⟩ := hcopy _ _ h
    have hl₁ := hstep₁.grows.get?_eq hl
    obtain ⟨cell', hcell', hrun⟩ := hcons es hstep₁.copied.grows hq hrun₁ hl₁ hcell
    have hput := keepsBut_put s₁ l cell'
    have hcopied₂ := hstep₁.copied.mono (hstep₁.copied.grows.trans_keepsBut hput hle)
      (keepsNodes_put_container hl₁ (hP hcell) (hP hcell'))
    obtain ⟨s', copies', hrun', hkeep, hcopied, hmore⟩ :=
      ih hes hcopied₂ (get?_put s₁ _ (lt_size_of_get? hl₁)) hcell'
    refine ⟨s', copies', hrun.trans hrun', ((hstep₁.grows.keepsBut l).trans hput).trans hkeep,
      hcopied, (hstep₁.toMoreCopies.mono ?_).trans (hmore.mono ?_)⟩
    · rintro _ rfl
      exact ⟨e, List.mem_cons_self .., rfl⟩
    · rintro x ⟨e', he', hx⟩
      exact ⟨e', List.mem_cons_of_mem _ he', hx⟩

/-- A list or dictionary is copied to a new one, which is remembered before it is filled. -/
theorem copyable_filled (fresh : Cell) (hs : s₀.classAttrs = []) (ht : s₀.get? t = some cell)
    (hcell : cell.isContainer = true) (hfresh : P fresh)
    (hcopy : ∀ s copies b, Effect.runOn (Action.deepCopyCell copies (.ref t) t cell b) s =
      Effect.runOn ((fill (.ref s.size) ((t, .ref s.size) :: copies) es >>= fun copies =>
        pure (.ref s.size, copies) : Action (Value × Copies)) b) (s.alloc fresh).2)
    (hes : ∀ e ∈ es, Q e ∧ Copyable s₀ m (value e))
    (hinside : ∀ e ∈ es, s₀.Encloses (.ref t) (value e)) : Copyable s₀ (m + 1) (.ref t) := by
  have hpart := not_isPart_container ht hcell
  refine copyable_of_unknown ht hpart fun s copies h hc => ?_
  obtain ⟨s₁, hs₁⟩ : ∃ s₁, s₁ = (s.alloc fresh).2 := ⟨_, rfl⟩
  have hgrow : s.Grows s₁ := hs₁ ▸ s.grows_alloc _
  have hnote : s₀.AddsOthers copies ((t, .ref s.size) :: copies) := .cons hpart hc
  have hcopied₁ := (h.mono (trans_of Grows h.grows hgrow)
    (hs₁ ▸ keepsNodes_alloc s (ne_node_of_isContainer (hP hfresh)))).others hnote
  obtain ⟨s', copies', hrun, hkeep, hcopied, hmore⟩ := runOn_fill P Q value fill hP hnil hcons hes
    hcopied₁ (hs₁ ▸ get?_alloc s _ : s₁.get? s.size = _) hfresh h.grows.size
  refine ⟨.ref s.size, s', copies', ?_, (MoreCopies.others hnote).trans (hmore.inside ?_),
    hgrow.trans_keepsBut hkeep (Nat.le_refl _), hcopied⟩
  · refine (runOn_deepCopy_container (h.grows.classAttrs.trans hs) (h.grows.get?_eq ht) hcell
      hc).trans ?_
    rw [hcopy, ← hs₁]
    exact (Action.runOn_bind_ok hrun _).trans rfl
  · rintro x ⟨e, he, rfl⟩
    exact hinside e he

end

theorem copyable_list {m : Nat} (hs : s₀.classAttrs = []) (hne : ¬ s₀.CopiedAlone t)
    (ht : s₀.get? t = some (.list items)) (hitems : ∀ x ∈ items, Copyable s₀ m x) :
    Copyable s₀ (m + 1) (.ref t) := by
  refine copyable_filled (fun cell => ∃ items, cell = .list items) (fun _ => True) id
    Action.fillList ?_ (fun _ _ => rfl) ?_ (.list []) hs ht rfl ⟨[], rfl⟩ (fun _ _ _ => rfl)
    (fun x hx => ⟨trivial, hitems x hx⟩)
    fun x hx => .held hne (.item (by simp [sequence?, cell?_ref ht]) hx)
  · rintro _ ⟨items, rfl⟩
    rfl
  · rintro xs s s₁ copies copies₁ l _ x y - - hrun hl ⟨done, rfl⟩
    refine ⟨.list (done ++ [y]), ⟨_, rfl⟩, (Action.runOn_bind_ok hrun _).trans ?_⟩
    refine (Action.runOn_bind_ok (Action.runOn_get s₁) _).trans ?_
    rw [cell?_ref hl]
    rfl

theorem copyable_dict {m : Nat} {entries : List Entry} (hs : s₀.classAttrs = [])
    (hne : ¬ s₀.CopiedAlone t) (ht : s₀.get? t = some (.dict entries)) (hkeys : AtomKeys entries)
    (hvalues : ∀ e ∈ entries, Copyable s₀ (m + 1) e.value) : Copyable s₀ (m + 2) (.ref t) := by
  have hempty : AtomKeys [] := fun e he => absurd he List.not_mem_nil
  refine copyable_filled (fun cell => ∃ entries, cell = .dict entries ∧ AtomKeys entries)
    (fun e => e.key.isAtom = true) Entry.value Action.fillDict ?_ (fun _ _ => rfl) ?_ (.dict []) hs ht
    rfl ⟨[], rfl, hempty⟩ (fun _ _ _ => rfl) (fun e he => ⟨hkeys e he, hvalues e he⟩)
    fun e he => .entry hne ht he
  · rintro _ ⟨entries, rfl, -⟩
    rfl
  · rintro es s s₁ copies copies₁ l _ e y hg hkey hrun hl ⟨done, rfl, hdone⟩
    obtain ⟨done', hdone', hset⟩ :=
      exists_runOn_setKey (k := m) (hg.classAttrs.trans hs) hkey hl hdone y
    refine ⟨.dict done', ⟨_, rfl, hdone'⟩, (Action.runOn_bind_ok hrun _).trans ?_⟩
    refine (Action.runOn_bind_ok (runOn_deepCopy_atom hkey copies₁) _).trans ?_
    exact Action.runOn_bind_ok hset _

/-! ### Other values -/

/-- What copying a tuple comes to when its items were copied: the copy that was made meanwhile, the tuple
itself if all items are their own copies, or else a new one. -/
theorem runOn_deepCopy_tuple {fields : Fields} {ys : List Value} (hs : s.classAttrs = [])
    (ht : s.get? t = some (.tuple .plain items fields)) (hc : copies.lookup t = none)
    (hitems : Effect.runOn (Action.copyAll copies items (Behaviour.level k)) s =
      (.ok (ys, copies'), s')) (result : Except Halt (Value × Copies) × Store)
    (hknown : ∀ c, copies'.lookup t = some c → (.ok (c, copies'), s') = result)
    (hnew : copies'.lookup t = none →
      Effect.runOn ((if ys = items then pure (.ref t, copies') else do
        let copy ← Effect.tuple ys
        return (copy, (t, copy) :: copies') : Action (Value × Copies)) (Behaviour.level k)) s' = result) :
    Effect.runOn (Action.deepCopy copies (.ref t) (Behaviour.level (k + 1))) s = result := by
  refine (runOn_deepCopy_plain hs ht rfl rfl rfl hc).trans ?_
  unfold Action.deepCopyCell
  refine (Action.runOn_bind_ok (Action.runOn_get s) _).trans ?_
  refine (Action.runOn_bind_ok hitems _).trans ?_
  dsimp only
  rcases hlookup : copies'.lookup t with - | c
  · exact hnew hlookup
  · exact hknown c hlookup

/-- A tuple is copied to a new tuple if one of its items is. -/
theorem copyable_tuple {m : Nat} {fields : Fields} (hs : s₀.classAttrs = [])
    (hne : ¬ s₀.CopiedAlone t) (ht : s₀.get? t = some (.tuple .plain items fields))
    (hitems : ∀ x ∈ items, Copyable s₀ m x) : Copyable s₀ (m + 1) (.ref t) := by
  have hpart : ¬ s₀.IsPart (.ref t) := not_isPart_cell ht (by simp) (by simp)
  refine copyable_of_unknown ht hpart fun s copies h hc => ?_
  have hinside : ∀ x, x ∈ items → s₀.Encloses (.ref t) x := fun x hx =>
    .held hne (.item (by simp [sequence?, cell?_ref ht]) hx)
  obtain ⟨ys, s₁, copies₁, hrun₁, hstep₁, -⟩ := runOn_copyAll hitems h
  have hmore := hstep₁.toMoreCopies.inside hinside
  have hcopy := runOn_deepCopy_tuple (h.grows.classAttrs.trans hs) (h.grows.get?_eq ht) hc hrun₁
  rcases hlookup : copies₁.lookup t with - | c
  · by_cases hsame : ys = items
    · refine ⟨.ref t, s₁, copies₁, hcopy _ (fun c hc => ?_) fun _ => ?_,
        hmore, hstep₁.grows, hstep₁.copied⟩
      · cases hlookup.symm.trans hc
      · rw [if_pos hsame]
        rfl
    · obtain ⟨u, s', fields, hrun, hgrow, hkeep, -⟩ := runOn_tuple s₁ ys
      have hnote : s₀.AddsOthers copies₁ ((t, .ref u) :: copies₁) := .cons hpart hlookup
      have hcopied := hstep₁.copied.mono (trans_of Grows hstep₁.copied.grows hgrow) hkeep
      refine ⟨.ref u, s', _, hcopy _ (fun c hc => ?_) fun _ => ?_,
        hstep₁.into hinside (trans_of Grows hstep₁.grows hgrow) (hcopied.others hnote) hlookup⟩
      · cases hlookup.symm.trans hc
      · rw [if_neg hsame]
        exact Effect.runOn_bind_ok hrun _
  · refine ⟨c, s₁, copies₁, hcopy _ (fun c' hc => ?_) fun hc => ?_,
      hmore, hstep₁.grows, hstep₁.copied⟩
    · rw [Option.some.inj (hlookup.symm.trans hc)]
    · cases hlookup.symm.trans hc

theorem copyable_atom {m : Nat} (hv : v.isAtom = true) : Copyable s₀ (m + 1) v := by
  intro s copies h
  have hrun := runOn_deepCopy_atom (s := s) (k := m) hv copies
  exact ⟨v, s, copies, hrun, .refl h,
    .other (not_isPart_atom hv) ⟨s, _, copies, copies, s, h.grows, hrun⟩⟩

theorem CopiedAlone.copyable {m : Nat} (ha : s₀.CopiedAlone t) (hm : ampleDepth ≤ m) :
    Copyable s₀ (m + 1) (.ref t) := by
  obtain ⟨cell, ht⟩ := ha.cell
  refine copyable_of_unknown ht ha.notPart fun s copies h hc => ?_
  obtain ⟨y, s', copies', hrun, hgrow, hkeep, hothers⟩ := ha.copy h.grows hc (Nat.le_succ_of_le hm)
  exact ⟨y, s', copies', hrun, .others hothers, hgrow,
    (h.mono (trans_of Grows h.grows hgrow) hkeep).others hothers⟩

/-! ### Copying everything -/

theorem ampleDepth_le (s : Store) : ampleDepth ≤ 994 + 7 * s.size := by
  unfold ampleDepth
  omega

/-- **A value that is made of nodes, child sequences, lists, tuples, dictionaries and what is copied
without any nodes, and that does not contain itself, can be copied deeply.** The induction is on the
height. -/
theorem copyable_of_clonable (hs : s₀.classAttrs = []) (hv : s₀.Clonable v) {d : Nat}
    (hd : Tall s₀.Encloses d v) {k : Nat} (hk : ampleDepth ≤ k) : Copyable s₀ (d + k + 5) v := by
  induction d generalizing v with
  | zero => exact hd.elim
  | succ d ih =>
    rw [show d + 1 + k + 5 = d + k + 1 + 5 from by omega]
    by_cases ha : ∃ t, v = .ref t ∧ s₀.CopiedAlone t
    · obtain ⟨t, rfl, ha⟩ := ha
      exact ha.copyable (by omega)
    · have hne {t : Ref} (hv : v = .ref t) : ¬ s₀.CopiedAlone t := fun h => ha ⟨t, hv, h⟩
      have hitems {t : Ref} {items : List Value} (hv : v = .ref t) (hi : s₀.sequence? v = some items)
          (hall : ∀ x ∈ items, s₀.Clonable x) : ∀ x ∈ items, Copyable s₀ (d + k + 5) x := by
        subst hv
        exact fun x hx => ih (hall x hx) (hd x (.held (hne rfl) (.item hi hx)))
      cases hv with
      | atom hatom => exact copyable_atom hatom
      | @node r n hn hkeys hseq hall =>
        refine copyable_node hd hn (fun key hkey => ?_) hseq
        obtain ⟨x, hx⟩ := hkeys key hkey
        exact ⟨x, hx, ih (hall key hkey x hx) (hd x (.held (hne rfl) (.key hn.cell hkey hx)))⟩
      | sequence hi hall => exact copyable_sequence hs hd hi (hitems rfl (sequence?_frozen hi) hall)
      | list hc hall =>
        exact copyable_list hs (hne rfl) hc (hitems rfl (by simp [sequence?, cell?_ref hc]) hall)
      | tuple hc hall =>
        exact copyable_tuple hs (hne rfl) hc (hitems rfl (by simp [sequence?, cell?_ref hc]) hall)
      | dict hc hkeys hall =>
        exact copyable_dict hs (hne rfl) hc hkeys fun e he =>
          ih (hall e he) (hd e.value (.entry (hne rfl) hc he))
      | alone ht => exact absurd ht (hne rfl)

end Store
end GraphQLTree
