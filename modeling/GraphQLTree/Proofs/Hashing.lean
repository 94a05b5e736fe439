import GraphQLTree.Proofs.Digests

/-! # Computing digests

A node remembers its digest once it was computed. Where all digests that are remembered are those of
what the nodes hold (`Store.Fresh`), computing a digest gives that of the contents, whatever was
remembered before, and what is remembered then are such digests again (`Store.runOn_digest`). Nothing
else happens to the objects of the store (`Store.Hashed`), also where there is no digest. -/

namespace GraphQLTree

/-- Whether a cell is a collection that can be changed in place, which has no digest. -/
def Cell.isUnhashable : Cell → Bool
  | .list _ | .dict _ | .set false _ | .buffer _ => true
  | _ => false

namespace Store

variable {s s' s'' : Store} {r q t u : Ref} {n m : NodeObject} {a b v w x y : Value} {d e : Digest}
  {items : List Value} {k : Nat} {key : String} {c : Cell} {S : Value → Prop}

/-! ### Remembering digests -/

/-- A store where nodes may remember other digests, and that may have more cells, but no more nodes. -/
structure Hashed (s s' : Store) : Prop where
  size : s.size ≤ s'.size
  classAttrs : s'.classAttrs = s.classAttrs
  node : ∀ {r n}, s.get? r = some (.node n) → ∃ d?, s'.get? r = some (.node { n with digest? := d? })
  other : ∀ {r c}, s.get? r = some c → (∀ n, c ≠ .node n) → s'.get? r = some c
  old : ∀ {r n}, s'.get? r = some (.node n) → ∃ m, s.get? r = some (.node m)

theorem Hashed.refl (s : Store) : s.Hashed s :=
  ⟨Nat.le_refl _, rfl, fun h => ⟨_, h⟩, fun h _ => h, fun h => ⟨_, h⟩⟩

theorem Hashed.trans (h : s.Hashed s') (h' : s'.Hashed s'') : s.Hashed s'' where
  size := Nat.le_trans h.size h'.size
  classAttrs := h'.classAttrs.trans h.classAttrs
  node hn := by
    obtain ⟨d?, hn'⟩ := h.node hn
    obtain ⟨d'?, hn''⟩ := h'.node hn'
    exact ⟨d'?, hn''⟩
  other hc hne := h'.other (h.other hc hne) hne
  old hn := by
    obtain ⟨m, hm⟩ := h'.old hn
    exact h.old hm

theorem hashed_alloc (s : Store) (hc : ∀ n, c ≠ .node n) : s.Hashed (s.alloc c).2 where
  size := by simp
  classAttrs := rfl
  node hn := ⟨_, (s.grows_alloc c).get?_eq hn⟩
  other hc _ := (s.grows_alloc c).get?_eq hc
  old hn := ⟨_, ((keepsNodes_alloc s hc).node id).mp hn⟩

theorem NotesError.hashed (h : s.NotesError s') : s.Hashed s' := by
  obtain rfl | ⟨e, rfl⟩ := h
  · exact .refl _
  · exact hashed_alloc s (by simp)

theorem hashed_put (hn : s.get? r = some (.node n)) (d? : Option Digest) :
    s.Hashed (s.put r (.node { n with digest? := d? })) where
  size := by simp
  classAttrs := rfl
  node {q m} hm := by
    by_cases hq : q = r
    · subst hq
      cases hn.symm.trans hm
      exact ⟨d?, get?_put s _ (lt_size_of_get? hn)⟩
    · exact ⟨_, (get?_put_ne s _ (Ne.symm hq)).trans hm⟩
  other {q c} hc hne := by
    have hq : r ≠ q := by
      rintro rfl
      exact hne n (Option.some.inj (hc.symm.trans hn))
    exact (get?_put_ne s _ hq).trans hc
  old {q m} hm := by
    by_cases hq : q = r
    · subst hq
      exact ⟨n, hn⟩
    · rw [get?_put_ne s _ (Ne.symm hq)] at hm
      exact ⟨m, hm⟩

/-- A node that is there afterwards was there before, with the same contents. -/
theorem Hashed.back (h : s.Hashed s') (hn : s'.get? r = some (.node n)) :
    ∃ m, s.get? r = some (.node m) ∧ n.cls = m.cls ∧ n.slots = m.slots ∧ n.fields = m.fields := by
  obtain ⟨m, hm⟩ := h.old hn
  obtain ⟨d?, hm'⟩ := h.node hm
  cases hn.symm.trans hm'
  exact ⟨m, hm, rfl, rfl, rfl⟩

theorem Hashed.frozen? (h : s.Hashed s') (hi : s.frozen? x = some items) :
    s'.frozen? x = some items := by
  obtain ⟨t, rfl, hc⟩ := frozen?_some hi
  unfold Store.frozen?
  rw [cell?_ref (h.other hc (by simp))]

theorem Hashed.sound (h : s.Hashed s') (hs : s.Sound) : s'.Sound where
  classAttrs := h.classAttrs.trans hs.classAttrs
  node {r n} hn := by
    obtain ⟨m, hm, hcls, hslots, hfields⟩ := h.back hn.1
    have hsound := hs.node ⟨hm, hcls ▸ hn.2⟩
    refine ⟨h.classAttrs.trans hs.classAttrs, hn.1, hn.2, hfields.trans hsound.fields,
      hslots ▸ hsound.digest, ?_, ?_⟩
    · rw [hcls, hslots]
      exact hsound.key
    · rw [hcls, hslots]
      intro key hkey
      obtain ⟨x, items, hx, hi⟩ := hsound.sequence key hkey
      exact ⟨x, items, hx, h.frozen? hi⟩

/-- What is remembered does not matter for the digest of contents. -/
theorem Hashed.settled (h : s.Hashed s') (hv : s.Settled v d) : s'.Settled v d := by
  induction hv with
  | atom hv => exact .atom hv
  | @node r n f hn hkeys _ ih =>
    obtain ⟨d?, hn'⟩ := h.node hn.1
    exact .node (n := { n with digest? := d? }) ⟨hn', hn.2⟩ hkeys ih
  | tuple hc _ ih => exact .tuple (h.other hc (by simp)) ih

/-! ### What can be hashed -/

/-- A value that is no object, or a node of the library or a tuple that holds such values only, or a
collection that has no digest. `S` tells which values these are. -/
inductive Plainly (s : Store) (S : Value → Prop) : Value → Prop
  | atom {v : Value} : v.isAtom = true → Plainly s S v
  | node {r : Ref} {n : NodeObject} : s.LibraryCell r n →
      (∀ key ∈ n.cls.keys, ∀ x, n.slots.lookup key = some x → S x) → Plainly s S (.ref r)
  | tuple {t : Ref} {form : TupleForm} {items : List Value} {fields : Fields} :
      s.get? t = some (.tuple form items fields) → (∀ x ∈ items, S x) → Plainly s S (.ref t)
  | unhashable {t : Ref} {c : Cell} : s.get? t = some c → c.isUnhashable = true → Plainly s S (.ref t)

/-- Values that hold such values only. -/
def Closed (s : Store) (S : Value → Prop) : Prop :=
  ∀ ⦃v⦄, S v → s.Plainly S v

/-- A value made of nodes of the library, tuples, values that are no objects, and collections that have
no digest. -/
def Tame (s : Store) (v : Value) : Prop :=
  ∃ S, s.Closed S ∧ S v

theorem not_node_of_isUnhashable (h : c.isUnhashable = true) : ∀ n, c ≠ .node n := by
  rintro n rfl
  cases h

theorem Hashed.closed (h : s.Hashed s') (hS : s.Closed S) : s'.Closed S := by
  intro v hv
  cases hS hv with
  | atom hv => exact .atom hv
  | @node r n hn hall =>
    obtain ⟨d?, hn'⟩ := h.node hn.1
    exact .node (n := { n with digest? := d? }) ⟨hn', hn.2⟩ hall
  | tuple hc hall => exact .tuple (h.other hc (by simp)) hall
  | unhashable hc hu => exact .unhashable (h.other hc (not_node_of_isUnhashable hu)) hu

/-- The digest of contents is the same before. -/
theorem Hashed.settled_before (h : s.Hashed s') (hS : s.Closed S) (hv : S v) (hd : s'.Settled v d) :
    s.Settled v d := by
  induction hd with
  | atom hatom => exact .atom hatom
  | @node r n f hn hkeys _ ih =>
    obtain ⟨m, hm, hcls, hslots, -⟩ := h.back hn.1
    have hall : ∀ key ∈ m.cls.keys, ∀ x, m.slots.lookup key = some x → S x := by
      cases hS hv with
      | atom hv => cases hv
      | node hm' hall =>
        cases hm.symm.trans hm'.1
        exact hall
      | tuple hc => cases hm.symm.trans hc
      | unhashable hc hu => exact absurd (Option.some.inj (hc.symm.trans hm)) (not_node_of_isUnhashable hu _)
    have hdigest : nodeDigest n f = nodeDigest m f := by
      unfold nodeDigest
      rw [hcls, hslots]
    rw [hdigest]
    rw [hcls, hslots] at hkeys ih
    exact .node ⟨hm, hcls ▸ hn.2⟩ hkeys fun key hkey x hx => ih key hkey x hx (hall key hkey x hx)
  | @tuple t form items fields f hc _ ih =>
    cases hS hv with
    | atom hv => cases hv
    | node hm =>
      obtain ⟨d?, hm'⟩ := h.node hm.1
      cases hc.symm.trans hm'
    | tuple hc' hall =>
      cases (h.other hc' (by simp)).symm.trans hc
      exact .tuple hc' fun x hx => ih x hx (hall x hx)
    | unhashable hc' hu =>
      cases (h.other hc' (not_node_of_isUnhashable hu)).symm.trans hc
      cases hu

/-- All digests that are remembered are those of the contents. -/
def Fresh (s : Store) : Prop :=
  ∀ ⦃r n d⦄, s.LibraryCell r n → n.digest? = some d → s.Settled (.ref r) d

theorem Hashed.fresh (h : s.Hashed s') (hf : s.Fresh)
    (hnew : ∀ {r n d}, s'.LibraryCell r n → n.digest? = some d → s.get? r ≠ some (.node n) →
      s'.Settled (.ref r) d) : s'.Fresh := by
  intro r n d hn hd
  by_cases hsame : s.get? r = some (.node n)
  · exact h.settled (hf ⟨hsame, hn.2⟩ hd)
  · exact hnew hn hd hsame

/-! ### Computing digests -/

/-- The digest of the contents of a value, if it has one. -/
noncomputable def contentDigest (s : Store) (v : Value) : Digest := by
  classical
  exact if h : ∃ d, s.Settled v d then h.choose else .atom .null

theorem Settled.contentDigest (h : s.Settled v d) : s.contentDigest v = d := by
  have hex : ∃ d, s.Settled v d := ⟨d, h⟩
  unfold Store.contentDigest
  rw [dif_pos hex]
  exact hex.choose_spec.unique h

/-- What computing the digests of some values leaves, and what it answers, where operations use each
other to depth `k`. -/
def DigestsAgree (S : Value → Prop) (k : Nat) : Prop :=
  ∀ ⦃s s' : Store⦄ ⦃v : Value⦄ ⦃o : Except Halt Digest⦄, s.Sound → s.Fresh → s.Closed S → S v →
    Effect.runOn (Action.digest v (Behaviour.level k)) s = (o, s') →
      s.Hashed s' ∧ s'.Fresh ∧ ∀ d, o = .ok d → s.Settled v d

/-- The digests of several values, one after the other. -/
theorem DigestsAgree.mapM (h : DigestsAgree S k) (hs : s.Sound) (hf : s.Fresh) (hS : s.Closed S)
    {xs : List Value} (hxs : ∀ x ∈ xs, S x) {o : Except Halt (List Digest)}
    (hrun : Effect.runOn (xs.mapM Action.digest (Behaviour.level k)) s = (o, s')) :
    s.Hashed s' ∧ s'.Fresh ∧ ∀ ds, o = .ok ds →
      (∀ x ∈ xs, s.Settled x (s.contentDigest x)) ∧ ds = xs.map s.contentDigest := by
  induction xs generalizing s s' o with
  | nil =>
    cases hrun
    refine ⟨.refl _, hf, fun ds hds => ?_⟩
    cases hds
    exact ⟨by simp, rfl⟩
  | cons x xs ih =>
    obtain ⟨hx, hxs⟩ := List.forall_mem_cons.mp hxs
    rw [List.mapM_cons] at hrun
    rcases hfirst : Effect.runOn (Action.digest x (Behaviour.level k)) s with ⟨e | d, s₁⟩
    · obtain ⟨hhash, hf₁, -⟩ := h hs hf hS hx hfirst
      have herror := (Effect.runOn_bind_error hfirst _).symm.trans hrun
      cases herror
      exact ⟨hhash, hf₁, nofun⟩
    · obtain ⟨hhash, hf₁, hd⟩ := h hs hf hS hx hfirst
      have hrest := (Action.runOn_bind_ok hfirst _).symm.trans hrun
      rcases hothers : Effect.runOn (xs.mapM Action.digest (Behaviour.level k)) s₁ with ⟨e | ds, s₂⟩
      · obtain ⟨hhash', hf₂, -⟩ := ih (hhash.sound hs) hf₁ (hhash.closed hS) hxs hothers
        cases (Effect.runOn_bind_error hothers _).symm.trans hrest
        exact ⟨hhash.trans hhash', hf₂, nofun⟩
      · obtain ⟨hhash', hf₂, hds⟩ := ih (hhash.sound hs) hf₁ (hhash.closed hS) hxs hothers
        cases (Action.runOn_bind_ok hothers _).symm.trans hrest
        refine ⟨hhash.trans hhash', hf₂, fun ds' hds' => ?_⟩
        cases hds'
        have hd := hd d rfl
        obtain ⟨hall, rfl⟩ := hds ds rfl
        have hbefore : ∀ x ∈ xs, s.Settled x (s₁.contentDigest x) := fun x hx =>
          hhash.settled_before hS (hxs x hx) (hall x hx)
        refine ⟨List.forall_mem_cons.mpr ⟨hd.contentDigest ▸ hd, fun x hx => ?_⟩, ?_⟩
        · rw [(hbefore x hx).contentDigest]
          exact hbefore x hx
        · rw [List.map_cons, hd.contentDigest]
          exact congrArg (d :: ·) (List.map_congr_left fun x hx => ((hbefore x hx).contentDigest).symm)

/-- A node without a digest reads as null where one asks for it. -/
theorem RegularNode.runOn_missingDigest (h : s.RegularNode r n) (hslots : n.slots.lookup "_hash" = none)
    (hd : n.digest? = none) : ∃ s', Effect.runOn (Action.attrOrNull (.ref r) "_hash"
      (Behaviour.level (k + 1))) s = (.ok .null, s') ∧ s.NotesError s' := by
  obtain ⟨a, owner, he⟩ := h.cls.digest
  obtain ⟨fault, hfault⟩ : ∃ fault, fault = Fault.noValue (s.typeName (.ref r)) "_hash" := ⟨_, rfl⟩
  obtain ⟨s₁, hs₁⟩ : ∃ s₁, s₁ = (s.alloc (.error (.ofArgs fault.errorClass fault.args))).2 := ⟨_, rfl⟩
  have hslot : Effect.runOn (Effect.slotValue (.ref r) "_hash") s = (.error (.raised s.size), s₁) := by
    refine (Effect.runOn_bind_ok (Effect.runOn_get s) _).trans ?_
    rw [cell?_ref h.cell]
    dsimp only
    rw [show (Cell.node n).slots.lookup "_hash" = none from hslots]
    obtain ⟨cls, slots, fields, digest?⟩ := n
    obtain rfl : digest? = none := hd
    rw [hs₁, hfault]
    rfl
  have hattr : Effect.runOn (Action.attr (.ref r) "_hash" (Behaviour.level (k + 1))) s =
      (.error (.raised s.size), s₁) := by
    refine (h.runOn_readAttr "_hash").trans ?_
    refine (Effect.runOn_bind_ok (Effect.runOn_get s) _).trans ?_
    rw [h.classEntry?, he]
    exact hslot
  have hbad : Effect.isErrorOf .badAttribute s₁ s.size = true := by
    have hget : s₁.get? s.size = some (.error (.ofArgs fault.errorClass fault.args)) :=
      hs₁ ▸ get?_alloc s _
    unfold Effect.isErrorOf error?
    rw [cell?_ref hget, hfault]
    rfl
  exact ⟨s₁, Action.runOn_attrOrNull_missing hattr hbad, .inr ⟨_, hs₁⟩⟩

/-- The values of the keys of a node. -/
theorem RegularNode.runOn_values (h : s.RegularNode r n) {keys : List String}
    (hkeys : ∀ key ∈ keys, key ∈ n.cls.keys) (hx : ∀ key ∈ keys, ∃ x, n.slots.lookup key = some x) :
    Effect.runOn ((keys.map Value.text).mapM (fun key => do
        Action.attr (.ref r) (← Action.nameOfAttr key) : Value → Action Value)
      (Behaviour.level (k + 1))) s =
        (.ok (keys.map fun key => (n.slots.lookup key).getD .null), s) := by
  induction keys with
  | nil => rfl
  | cons key keys ih =>
    obtain ⟨hkey, hkeys⟩ := List.forall_mem_cons.mp hkeys
    obtain ⟨⟨x, hx⟩, hrest⟩ := List.forall_mem_cons.mp hx
    rw [List.map_cons, List.mapM_cons]
    have hread : Effect.runOn ((do Action.attr (.ref r) (← Action.nameOfAttr (.text key)) : Action Value)
        (Behaviour.level (k + 1))) s = (.ok x, s) := h.runOn_key hkey hx
    refine (Action.runOn_bind_ok hread _).trans ?_
    refine (Action.runOn_bind_ok (ih hkeys hrest) _).trans ?_
    rw [List.map_cons, hx]
    rfl

/-- The digest of an object that is hashed by what it is. -/
theorem runOn_digest_cell (hc : s.get? r = some c)
    (hspecial : s.special? (s.typeOf (.ref r)) "__hash__" = none) :
    Effect.runOn (Action.digest (.ref r) (Behaviour.level (k + 1))) s =
      Effect.runOn (Action.digestOfCell (.ref r) c (Behaviour.level k)) s := by
  refine (Action.runOn_bind_ok (Action.runOn_special? "__hash__") _).trans ?_
  rw [hspecial]
  refine (Effect.runOn_bind_ok (Effect.runOn_get s) _).trans ?_
  rw [cell?_ref hc]

/-- What is in place of a digest that was assigned is removed where a digest is remembered. -/
theorem RegularNode.runOn_rememberDigest (h : s.RegularNode r n) (hslots : n.slots.lookup "_hash" = none)
    (d : Digest) : Effect.runOn (Action.rememberDigest (.ref r) d) s =
      (.ok (), s.put r (.node { n with digest? := some d })) := by
  have hremove : n.slots.remove "_hash" = n.slots := by
    refine List.filter_eq_self.mpr fun entry hmem => ?_
    have hne := List.lookup_eq_none_iff.mp hslots entry hmem
    have hne' : entry.1 ≠ "_hash" := Ne.symm (by simpa using hne)
    exact bne_iff_ne.mpr hne'
  refine (Effect.runOn_bind_ok (Effect.runOn_get s) _).trans ?_
  rw [cell?_ref h.cell]
  dsimp only
  rw [hremove]
  rfl

/-- The digest of a node is computed from those of its keys, and remembered. -/
theorem DigestsAgree.compute (h : DigestsAgree S (k + 1)) (hs : s.Sound) (hf : s.Fresh) (hS : s.Closed S)
    (hn : s.LibraryCell r n) (hall : ∀ key ∈ n.cls.keys, ∀ x,
      n.slots.lookup key = some x → S x) {o : Except Halt Digest}
    (hrun : Effect.runOn (Action.computeDigest (.ref r) (Behaviour.level (k + 1))) s = (o, s')) :
    s.Hashed s' ∧ s'.Fresh ∧ ∀ d, o = .ok d → s.Settled (.ref r) d := by
  have hsound := hs.node hn
  have hnode := hsound.regularNode
  obtain ⟨values, hvalues⟩ : ∃ values, values = n.cls.keys.map fun key =>
      (n.slots.lookup key).getD .null := ⟨_, rfl⟩
  have hSvalues : ∀ x ∈ values, S x := by
    intro x hx
    rw [hvalues] at hx
    obtain ⟨key, hkey, rfl⟩ := List.mem_map.mp hx
    obtain ⟨y, hy⟩ := hsound.key key hkey
    rw [hy]
    exact hall key hkey y hy
  have hread := hnode.runOn_values (k := k) (fun _ => id) hsound.key
  rw [← hvalues] at hread
  have hclass : Effect.runOn (Action.computeDigest (.ref r) (Behaviour.level (k + 1))) s = _ :=
    Action.runOn_bind_ok hnode.runOn_classOf _
  have hnames := hclass.trans (Action.runOn_bind_ok hnode.runOn_namesOf _)
  have hrun' := (hnames.trans (Action.runOn_bind_ok hread _)).symm.trans hrun
  have hcls := runOn_digest_atom (k := k) hs.classAttrs (v := .type (.node n.cls)) rfl
  rcases hitems : Effect.runOn (values.mapM Action.digest (Behaviour.level (k + 1))) s with ⟨e | ds, s₁⟩
  · obtain ⟨hhash, hf₁, -⟩ := h.mapM hs hf hS hSvalues hitems
    have hmap : Effect.runOn ((.type (.node n.cls) :: values).mapM Action.digest
        (Behaviour.level (k + 1))) s = (.error e, s₁) := by
      rw [List.mapM_cons]
      exact (Action.runOn_bind_ok hcls _).trans (Effect.runOn_bind_error hitems _)
    cases (Effect.runOn_bind_error hmap _).symm.trans hrun'
    exact ⟨hhash, hf₁, nofun⟩
  · obtain ⟨hhash, hf₁, hds⟩ := h.mapM hs hf hS hSvalues hitems
    obtain ⟨hsettled, rfl⟩ := hds ds rfl
    have hmap : Effect.runOn ((.type (.node n.cls) :: values).mapM Action.digest
        (Behaviour.level (k + 1))) s =
          (.ok ((Value.type (.node n.cls)).atomDigest :: values.map s.contentDigest), s₁) := by
      rw [List.mapM_cons]
      exact (Action.runOn_bind_ok hcls _).trans ((Action.runOn_bind_ok hitems _).trans rfl)
    have hdigest : Digest.group false ((Value.type (.node n.cls)).atomDigest ::
        values.map s.contentDigest) = nodeDigest n s.contentDigest := by
      unfold nodeDigest
      rw [hvalues, List.map_map]
      rfl
    have hnodeSettled : s.Settled (.ref r) (nodeDigest n s.contentDigest) := by
      refine .node hn hsound.key fun key hkey x hx => hsettled x ?_
      rw [hvalues]
      exact List.mem_map.mpr ⟨key, hkey, by rw [hx]; rfl⟩
    obtain ⟨d?, hn₁⟩ := hhash.node hn.1
    have hnode₁ := (hhash.sound hs).node ⟨hn₁, hn.2⟩
    have hput := hnode₁.regularNode.runOn_rememberDigest hnode₁.digest (nodeDigest n s.contentDigest)
    have hhash₂ := hashed_put hn₁ (some (nodeDigest n s.contentDigest))
    have hend := (Action.runOn_bind_ok hmap _).symm.trans hrun'
    rw [hdigest] at hend
    have hstop := (Action.runOn_bind_ok (Action.runOn_special? "__setattr__") _).symm.trans hend
    rw [hnode₁.regularNode.special? (by decide)] at hstop
    cases ((Effect.runOn_bind_ok hput _).trans rfl).symm.trans hstop
    refine ⟨hhash.trans hhash₂, hhash₂.fresh hf₁ ?_, fun d hd => ?_⟩
    · intro q m d hm hd hchanged
      have hq : q = r := by
        by_contra hq
        exact hchanged ((get?_put_ne s₁ _ (Ne.symm hq)).symm.trans hm.1)
      subst hq
      cases (get?_put s₁ _ (lt_size_of_get? hn₁)).symm.trans hm.1
      cases hd
      exact hhash₂.settled (hhash.settled hnodeSettled)
    · cases hd
      exact hnodeSettled

/-- A collection that can be changed has no digest. -/
theorem runOn_digestOfCell_unhashable (hu : c.isUnhashable = true) :
    Effect.runOn (Action.digestOfCell (.ref t) c (Behaviour.level k)) s =
      Effect.runOn (Effect.fail (.unhashable (s.typeName (.ref t)))) s := by
  have hdigest : Action.digestOfCell (.ref t) c = Action.failOn .unhashable (.ref t) := by
    cases c with
    | list | dict | buffer => rw [Action.digestOfCell]
    | set frozen =>
      cases frozen with
      | false => rw [Action.digestOfCell]
      | true => cases hu
    | _ => cases hu
  rw [hdigest]
  unfold Action.failOn
  change Effect.runOn (Effect.failOn .unhashable (.ref t)) s = _
  unfold Effect.failOn
  refine Effect.runOn_bind_ok ?_ _
  unfold Effect.typeName
  exact Effect.runOn_bind_ok (Effect.runOn_get s) _

/-- **Computing a digest gives that of the contents, and what is remembered then are such digests.** The
induction is on the depth to which operations use each other. -/
theorem runOn_digest (k : Nat) : DigestsAgree S k := by
  induction k with
  | zero =>
    intro s s' v o hs hf _ _ hrun
    cases hrun
    exact ⟨.refl _, hf, nofun⟩
  | succ k ih =>
    intro s s' v o hs hf hS hv hrun
    cases hS hv with
    | atom hatom =>
      cases (runOn_digest_atom hs.classAttrs hatom).symm.trans hrun
      refine ⟨.refl _, hf, fun d hd => ?_⟩
      cases hd
      exact .atom hatom
    | @unhashable t c hc hu =>
      have hspecial : s.special? (s.typeOf (.ref t)) "__hash__" = none := by
        rw [typeOf_ref hc]
        cases c with
        | list | dict | buffer | set => exact special?_basic hs.classAttrs _ _
        | _ => cases hu
      rw [runOn_digest_cell hc hspecial] at hrun
      rw [runOn_digestOfCell_unhashable hu] at hrun
      generalize Fault.unhashable (s.typeName (.ref t)) = fault at hrun
      cases hrun
      have hhash := hashed_alloc s (c := .error (.ofArgs fault.errorClass fault.args)) (by simp)
      refine ⟨hhash, hhash.fresh hf fun hm _ hnew => absurd ?_ hnew, nofun⟩
      exact ((keepsNodes_alloc s (by simp)).node id).mp hm.1
    | @tuple t form items fields hc hall =>
      rw [runOn_digest_cell hc (Action.special?_tuple hs.classAttrs hc _)] at hrun
      rcases hitems : Effect.runOn (items.mapM Action.digest (Behaviour.level k)) s with ⟨e | ds, s₁⟩
      · obtain ⟨hhash, hf₁, -⟩ := ih.mapM hs hf hS hall hitems
        cases (Effect.runOn_bind_error hitems _).symm.trans hrun
        exact ⟨hhash, hf₁, nofun⟩
      · obtain ⟨hhash, hf₁, hds⟩ := ih.mapM hs hf hS hall hitems
        cases (Action.runOn_bind_ok hitems _).symm.trans hrun
        refine ⟨hhash, hf₁, fun d hd => ?_⟩
        obtain ⟨hsettled, rfl⟩ := hds ds rfl
        cases hd
        exact .tuple hc hsettled
    | @node r n hn hall =>
      have hsound := hs.node hn
      have hnode := hsound.regularNode
      obtain ⟨a, owner, he⟩ := hnode.cls.digest
      rw [runOn_digest_cell hn.1 (hnode.special? (by decide))] at hrun
      rcases hd : n.digest? with - | d
      · have hread : Effect.runOn (Action.digestOfCell (.ref r) (.node n) (Behaviour.level k)) s = _ :=
          Effect.runOn_bind_ok (Effect.runOn_get s) _
        rw [hnode.classEntry?, he, hsound.digest, hd] at hread
        have hask := hread.symm.trans hrun
        cases k with
        | zero =>
          cases hask
          exact ⟨.refl _, hf, nofun⟩
        | succ k =>
          obtain ⟨s₁, hmissing, hnotes⟩ := hnode.runOn_missingDigest (k := k) hsound.digest hd
          have hhash := hnotes.hashed
          have hn₁ : s₁.LibraryCell r n := ⟨(hnotes.keepsNodes.node id).mpr hn.1, hn.2⟩
          have hf₁ : s₁.Fresh := hhash.fresh hf fun hm _ hnew =>
            absurd ((hnotes.keepsNodes.node id).mp hm.1) hnew
          obtain ⟨hhash', hf', hdone⟩ := ih.compute (hhash.sound hs) hf₁ (hhash.closed hS) hn₁ hall
            ((Action.runOn_bind_ok hmissing _).symm.trans hask)
          exact ⟨hhash.trans hhash', hf', fun d hd => hhash.settled_before hS hv (hdone d hd)⟩
      · have hknown : Effect.runOn (Action.digestOfCell (.ref r) (.node n) (Behaviour.level k)) s =
            (.ok d, s) := by
          refine (Effect.runOn_bind_ok (Effect.runOn_get s) _).trans ?_
          rw [hnode.classEntry?, he, hsound.digest, hd]
          rfl
        cases hknown.symm.trans hrun
        refine ⟨.refl _, hf, fun d' hd' => ?_⟩
        cases hd'
        exact hf hn hd

end Store
end GraphQLTree
