import GraphQLTree.Proofs.Making

/-! # Methods of nodes

What the methods of nodes of the library do where every key has a value and every key of a sequence
holds a child sequence (`Store.SoundNode`): appending puts a longer child sequence in the place of the
old one (`Store.SoundNode.runOn_append`), assigning keeps what is given
(`Store.SoundNode.runOn_assign`), and a shallow copy is a new node with the same values and child
sequences of the same items (`Store.SoundNode.runOn_copy`). -/

namespace GraphQLTree

/-! ### Methods of the classes of the library -/

namespace NodeClass

/-- For every key of a sequence there is a method that appends to it. -/
theorem append_library : ∀ c ∈ library, ∀ key ∈ c.sequenceKeys, ∃ l ∈ c.lineage,
    Store.empty.classEntry? (.node c) ("add_" ++ key) =
      some (.node l, .value (.function ⟨l.name, "add_" ++ key, .append key⟩)) := by
  decide +kernel

theorem appendTo_library : ∀ c ∈ library, Store.empty.classEntry? (.node c) "_append" =
    some (.node nodeLevel, .value (.function ⟨"Node", "_append", .appendTo⟩)) := by
  decide +kernel

/-- The keys for which there is a method that assigns them. -/
def assignable : List String :=
  ["query", "implements"]

theorem assign_library : ∀ c ∈ library, ∀ key ∈ assignable, key ∈ c.keys → ∃ l ∈ c.lineage,
    Store.empty.classEntry? (.node c) ("set_" ++ key) =
      some (.node l, .value (.function ⟨l.name, "set_" ++ key, .assign key⟩)) := by
  decide +kernel

theorem markNonNull_library : ∀ c ∈ library, "nullable" ∈ c.keys → ∃ l ∈ c.lineage,
    Store.empty.classEntry? (.node c) "mark_non_null" =
      some (.node l, .value (.function ⟨l.name, "mark_non_null", .markNonNull⟩)) := by
  decide +kernel

/-- The keys that are assigned by methods hold no sequences. -/
theorem single_library : ∀ c ∈ library, ∀ key ∈ "nullable" :: assignable, key ∉ c.sequenceKeys := by
  decide +kernel

end NodeClass

namespace Store

variable {s s' : Store} {r t : Ref} {n : NodeObject} {x : Value} {own items : List Value}
  {key : String} {k : Nat} {out : Ref → Prop}

/-! ### Sound nodes -/

/-- A node of a class of the library: every key has a value, and every key of a sequence holds a child
sequence. -/
structure SoundNode (s : Store) (r : Ref) (n : NodeObject) : Prop where
  classAttrs : s.classAttrs = []
  cell : s.get? r = some (.node n)
  cls : n.cls ∈ NodeClass.library
  fields : n.fields = .own []
  digest : n.slots.lookup "_hash" = none
  key : ∀ key ∈ n.cls.keys, ∃ x, n.slots.lookup key = some x
  sequence : ∀ key ∈ n.cls.sequenceKeys, ∃ x items,
    n.slots.lookup key = some x ∧ s.frozen? x = some items

namespace SoundNode

theorem regular (h : s.SoundNode r n) : n.cls.Regular :=
  NodeClass.regular_library _ h.cls

theorem regularNode (h : s.SoundNode r n) : s.RegularNode r n :=
  ⟨h.classAttrs, h.cell, h.regular, [], h.fields, fun _ _ => rfl⟩

theorem keepsNodes (h : s.SoundNode r n) (hk : s.KeepsNodes nowhere s') : s'.SoundNode r n where
  classAttrs := hk.classAttrs.trans h.classAttrs
  cell := (hk.node id).mpr h.cell
  cls := h.cls
  fields := h.fields
  digest := h.digest
  key := h.key
  sequence key hkey := by
    obtain ⟨x, items, hx, hi⟩ := h.sequence key hkey
    obtain ⟨t, rfl, -⟩ := frozen?_some hi
    exact ⟨.ref t, items, hx, hk.frozen?_eq id hi⟩

end SoundNode

/-- A node that was made of the arguments for a class of the library is sound. -/
theorem Made.soundNode {c : NodeClass} {slots : Attrs} (h : s.Made t c slots)
    (hc : c ∈ NodeClass.library)
    (hseq : ∀ key ∈ c.sequenceKeys, ∃ x items, slots.lookup key = some x ∧ s.frozen? x = some items) :
    s.SoundNode t ⟨c, slots, .own [], none⟩ where
  classAttrs := h.classAttrs
  cell := h.cell
  cls := hc
  fields := rfl
  digest := Attrs.lookup_none_of_notMem (by
    rw [h.names]
    exact (NodeClass.regular_library _ hc).digest_notMem)
  key key hkey := by
    have hmem : key ∈ slots.map Prod.fst := h.names ▸ hkey
    rcases hx : slots.lookup key with - | x
    · obtain ⟨e, he, rfl⟩ := List.mem_map.mp hmem
      have hne := List.lookup_eq_none_iff.mp hx e he
      simp at hne
    · exact ⟨x, rfl⟩
  sequence := hseq

/-! ### Calling methods -/

/-- Where no attribute hides it, a method is a function that gets the node first. -/
theorem SoundNode.runOn_callMethod (h : s.SoundNode r n) {name : String} {a : Ancestor} {m : Method}
    (he : empty.classEntry? (.node n.cls) name = some (a, .value (.function m)))
    (hb : (!m.body.ofClass && !m.body.isStatic) = true) (args : List Value) :
    Effect.runOn (Action.callMethod (.ref r) name args (Behaviour.level (k + 1))) s =
      Effect.runOn (Action.callFunction m (.ref r :: args) [] (Behaviour.level k)) s := by
  have hfield : s.field? (.ref r) name = none := by
    unfold field?
    rw [cell?_ref h.cell]
    change (s.attrsOf n.fields).lookup name = none
    rw [h.fields]
    rfl
  have hmethod : s.method? (.ref r) name = some (.function m) := by
    unfold method?
    rw [hfield, h.regularNode.classEntry?, he]
    exact if_pos hb
  refine (Effect.runOn_bind_ok (Effect.runOn_get s) _).trans ?_
  rw [hmethod]
  rfl

theorem Routine.bind_append (key function : String) (v : Value) (items : List Value) :
    (Routine.append key).signature.bind function (v :: items) [] = .ok ⟨[some v], items, []⟩ := by
  have hlength : 1 - (items.length + 1) = 0 := by omega
  unfold Signature.bind
  simp [Routine.signature, Signature.names, Signature.missing, hlength]
  rfl

/-! ### Appending -/

theorem runOn_spread_tuple {form : TupleForm} {fields : Fields}
    (h : s.classAttrs = []) (hc : s.get? t = some (.tuple form items fields)) :
    Effect.runOn (Action.spread (.ref t) (Behaviour.level (k + 1))) s = (.ok items, s) :=
  Action.runOn_bind_ok (runOn_items?_sequence h (sequence?_tuple hc)) _

/-- A child sequence is extended by the items of a tuple to a new child sequence. -/
theorem runOn_extended {form : TupleForm} {fields : Fields} (h : s.classAttrs = [])
    (hx : s.frozen? (.ref t) = some own) {u : Ref} (hu : s.get? u = some (.tuple form items fields)) :
    Effect.runOn (Action.callMethod (.ref t) "extended" [.ref u] (Behaviour.level (k + 2))) s =
      (.ok (.ref s.size), (s.alloc (.tuple .frozen (own ++ items) (.own []))).2) := by
  have hc := cell_of_frozen? hx
  have hfield : s.field? (.ref t) "extended" = none := by
    unfold field?
    rw [cell?_ref hc]
    rfl
  have hmethod : s.method? (.ref t) "extended" =
      some (.function ⟨"FrozenList", "extended", .extend⟩) := by
    unfold method?
    rw [hfield, typeOf_ref hc, classEntry?_eq h rfl]
    rfl
  refine (Effect.runOn_bind_ok (Effect.runOn_get s) _).trans ?_
  rw [hmethod]
  change Effect.runOn (Action.extendedBy (.ref t) (.ref u) (Behaviour.level (k + 1))) s = _
  refine (Action.runOn_bind_ok (runOn_spread_tuple h hc) _).trans ?_
  refine (Action.runOn_bind_ok (runOn_spread_tuple h hu) _).trans ?_
  refine (Action.runOn_bind_ok (Action.runOn_get s) _).trans ?_
  rw [cell?_ref hc]
  rfl

/-- A node where the value of a key is another one, and the digest is forgotten. -/
def assigned (n : NodeObject) (key : String) (x : Value) : NodeObject :=
  { n with slots := n.slots.set key x, digest? := none }

/-- What a method that appends to a sequence leaves. -/
structure Appended (s : Store) (r : Ref) (n : NodeObject) (key : String) (all : List Value)
    (s' : Store) : Prop where
  keepsNodes : s.KeepsNodes (· = r) s'
  keepsBut : s.KeepsBut r s'
  replaced : ∃ t, s.size ≤ t ∧ s'.get? r = some (.node (assigned n key (.ref t))) ∧
    s'.frozen? (.ref t) = some all

theorem SoundNode.runOn_appendTo {form : TupleForm} {fields : Fields} (h : s.SoundNode r n)
    (hk : key ∈ n.cls.sequenceKeys) (hx : n.slots.lookup key = some x) (hi : s.frozen? x = some own)
    {u : Ref} (hu : s.get? u = some (.tuple form items fields)) :
    ∃ s', Effect.runOn (Action.appendTo (.ref r) (.text key) (.ref u) (Behaviour.level (k + 3))) s =
        (.ok (), s') ∧ s.Appended r n key (own ++ items) s' := by
  have hkey := h.regular.sequence_subset key hk
  obtain ⟨t, rfl, -⟩ := frozen?_some hi
  obtain ⟨s₁, hs₁⟩ : ∃ s₁, s₁ = (s.alloc (.tuple .frozen (own ++ items) (.own []))).2 := ⟨_, rfl⟩
  have hextended := runOn_extended (k := k + 1) h.classAttrs hi hu
  rw [← hs₁] at hextended
  have hgrow : s.Grows s₁ := hs₁ ▸ s.grows_alloc _
  have hkeep : s.KeepsNodes nowhere s₁ := hs₁ ▸ keepsNodes_alloc s (by simp)
  have hnew : s₁.frozen? (.ref s.size) = some (own ++ items) := by
    unfold frozen?
    rw [cell?_ref (hs₁ ▸ get?_alloc s _ : s₁.get? s.size = _)]
  have h₁ := h.keepsNodes hkeep
  have hset := h₁.regularNode.runOn_setAttr (k := k + 1) h.digest hkey (.ref s.size)
  have hne : s.size ≠ r := Nat.ne_of_gt h.regularNode.lt_size
  have hput := keepsNodes_put s₁ r (.node (assigned n key (.ref s.size)))
  refine ⟨_, ?_, hkeep.of_nowhere.trans hput, (hgrow.keepsBut r).trans (keepsBut_put s₁ r _), s.size,
    Nat.le_refl _, get?_put s₁ _ h₁.regularNode.lt_size, hput.frozen?_eq hne hnew⟩
  have hname : Effect.runOn (Action.nameOfAttr (.text key) (Behaviour.level (k + 3))) s =
      (.ok key, s) := rfl
  refine (Action.runOn_bind_ok hname _).trans ?_
  refine (Action.runOn_bind_ok (h.regularNode.runOn_key hkey hx) _).trans ?_
  exact (Action.runOn_bind_ok hextended _).trans hset

theorem Appended.after {all : List Value} (hk : s.KeepsNodes nowhere s') (hg : s.Grows s')
    {s'' : Store} (h : s'.Appended r n key all s'') : s.Appended r n key all s'' where
  keepsNodes := hk.of_nowhere.trans h.keepsNodes
  keepsBut := (hg.keepsBut r).trans h.keepsBut
  replaced := by
    obtain ⟨t, hle, hrest⟩ := h.replaced
    exact ⟨t, Nat.le_trans hg.size hle, hrest⟩

/-- The method that appends to a sequence puts a longer child sequence in the place of the old one. -/
theorem SoundNode.runOn_append (h : s.SoundNode r n) (hk : key ∈ n.cls.sequenceKeys)
    (hx : n.slots.lookup key = some x) (hi : s.frozen? x = some own) (items : List Value) :
    ∃ s', Effect.runOn (Action.callMethod (.ref r) ("add_" ++ key) items (Behaviour.level (k + 5))) s =
        (.ok .null, s') ∧ s.Appended r n key (own ++ items) s' := by
  obtain ⟨l, -, he⟩ := NodeClass.append_library _ h.cls key hk
  obtain ⟨u, s₁, fields, htuple, hgrow, hkeep, hu⟩ := runOn_tuple s items
  have h₁ := h.keepsNodes hkeep
  obtain ⟨t, rfl, -⟩ := frozen?_some hi
  obtain ⟨s', hrun, happended⟩ := h₁.runOn_appendTo (k := k) hk hx (hkeep.frozen?_eq id hi) hu
  refine ⟨s', ?_, happended.after hkeep hgrow⟩
  have hinner : Effect.runOn (Action.callMethod (.ref r) "_append" [.text key, .ref u]
      (Behaviour.level (k + 4))) s₁ = (.ok .null, s') := by
    refine (h₁.runOn_callMethod (NodeClass.appendTo_library _ h.cls) rfl _).trans ?_
    exact Action.runOn_bind_ok hrun _
  have hbind : Effect.runOn (Action.ofExcept ((Routine.append key).signature.bind
      (l.name ++ "." ++ ("add_" ++ key)) (.ref r :: items) []) (Behaviour.level (k + 4))) s =
        (.ok ⟨[some (.ref r)], items, []⟩, s) := by
    rw [Routine.bind_append]
    rfl
  have htuple' : Effect.runOn ((liftM (Effect.tuple items) : Action Value) (Behaviour.level (k + 4))) s =
      (.ok (.ref u), s₁) := htuple
  refine (h.runOn_callMethod he rfl items).trans ?_
  refine (Action.runOn_bind_ok hbind _).trans ?_
  have hdiscard : Effect.runOn ((do
      discard (Action.callMethod (.ref r) "_append" [.text key, ← Effect.tuple items]) : Action Unit)
        (Behaviour.level (k + 4))) s = (.ok (), s') := by
    refine (Action.runOn_bind_ok htuple' _).trans ?_
    exact Action.runOn_discard hinner
  exact Action.runOn_bind_ok hdiscard _

/-! ### Assigning -/

/-- The method that assigns a key keeps what is given. -/
theorem SoundNode.runOn_assign (h : s.SoundNode r n) (ha : key ∈ NodeClass.assignable)
    (hk : key ∈ n.cls.keys) (x : Value) :
    Effect.runOn (Action.callMethod (.ref r) ("set_" ++ key) [x] (Behaviour.level (k + 3))) s =
      (.ok .null, s.put r (.node (assigned n key x))) := by
  obtain ⟨l, -, he⟩ := NodeClass.assign_library _ h.cls key ha hk
  have hset := h.regularNode.runOn_setAttr (k := k) h.digest hk x
  have hbind : Effect.runOn (Action.ofExcept ((Routine.assign key).signature.bind
      (l.name ++ "." ++ ("set_" ++ key)) [.ref r, x] []) (Behaviour.level (k + 2))) s =
        (.ok ⟨[some (.ref r), some x], [], []⟩, s) := by
    rcases List.mem_cons.mp ha with rfl | ha
    · rfl
    · obtain rfl := List.mem_singleton.mp ha
      rfl
  refine (h.runOn_callMethod he rfl [x]).trans ?_
  refine (Action.runOn_bind_ok hbind _).trans ?_
  exact Action.runOn_bind_ok hset _

/-- Looking at whether a type is nullable and at its written form changes no nodes. -/
def Markable (s : Store) (r : Ref) (x : Value) : Prop :=
  ∀ k, ampleDepth ≤ k →
    s.KeepsNodes nowhere (Effect.runOn (Action.isTrue x (Behaviour.level k)) s).2 ∧
      ∀ s₁, s.KeepsNodes nowhere s₁ →
        s₁.KeepsNodes nowhere (Effect.runOn (Action.written (.ref r) (Behaviour.level k)) s₁).2

/-- What marking a type as non-null leaves: the mark, or nothing changed where it fails. -/
theorem SoundNode.runOn_markNonNull (h : s.SoundNode r n) (hk : "nullable" ∈ n.cls.keys)
    (hx : n.slots.lookup "nullable" = some x) (hm : s.Markable r x) (hdepth : ampleDepth ≤ k + 2) :
    ∃ o s', Effect.runOn (Action.callMethod (.ref r) "mark_non_null" []
        (Behaviour.level (k + 3))) s = (o, s') ∧
      ((∃ s₁, o = .ok .null ∧ s.KeepsNodes nowhere s₁ ∧
          s' = s₁.put r (.node (assigned n "nullable" (.bool false)))) ∨
        ((∀ v, o ≠ .ok v) ∧ s.KeepsNodes nowhere s')) := by
  obtain ⟨l, -, he⟩ := NodeClass.markNonNull_library _ h.cls hk
  obtain ⟨htrue, hwritten⟩ := hm _ hdepth
  have hcall : Effect.runOn (Action.callMethod (.ref r) "mark_non_null" [] (Behaviour.level (k + 3))) s =
      Effect.runOn ((Action.markNonNull (.ref r) >>= fun _ => pure .null : Action Value)
        (Behaviour.level (k + 2))) s := by
    refine (h.runOn_callMethod he rfl []).trans ?_
    exact Action.runOn_bind_ok (show Effect.runOn (Action.ofExcept (Routine.markNonNull.signature.bind
      _ [.ref r] []) (Behaviour.level (k + 2))) s = (.ok ⟨[some (.ref r)], [], []⟩, s) from rfl) _
  have hattr := h.regularNode.runOn_key (k := k + 1) hk hx
  rcases hrun : Effect.runOn (Action.isTrue x (Behaviour.level (k + 2))) s with ⟨e | b, s₁⟩
  · rw [hrun] at htrue
    refine ⟨.error e, s₁, hcall.trans ?_, .inr ⟨by simp, htrue⟩⟩
    refine Effect.runOn_bind_error ?_ _
    refine (Action.runOn_bind_ok hattr _).trans ?_
    exact Effect.runOn_bind_error hrun _
  · rw [hrun] at htrue
    have hmark : Effect.runOn (Action.markNonNull (.ref r) (Behaviour.level (k + 2))) s =
        Effect.runOn ((if b then Action.setAttr (.ref r) "nullable" (.bool false)
          else do Action.fail (.alreadyNonNull (← Action.written (.ref r))) : Action Unit)
            (Behaviour.level (k + 2))) s₁ :=
      (Action.runOn_bind_ok hattr _).trans (Action.runOn_bind_ok hrun _)
    cases b with
    | true =>
      have h₁ := h.keepsNodes htrue
      have hset := h₁.regularNode.runOn_setAttr (k := k) h.digest hk (.bool false)
      refine ⟨.ok .null, _, hcall.trans ?_, .inl ⟨s₁, rfl, htrue, rfl⟩⟩
      exact Action.runOn_bind_ok (hmark.trans hset) _
    | false =>
      have hkeep := hwritten s₁ htrue
      rcases hw : Effect.runOn (Action.written (.ref r) (Behaviour.level (k + 2))) s₁ with ⟨e | text, s₂⟩
      · rw [hw] at hkeep
        refine ⟨.error e, s₂, hcall.trans ?_, .inr ⟨by simp, htrue.trans hkeep⟩⟩
        exact Effect.runOn_bind_error (hmark.trans (Effect.runOn_bind_error hw _)) _
      · rw [hw] at hkeep
        have hfault := keepsNodes_alloc s₂ (c := .error (.ofArgs (Fault.alreadyNonNull text).errorClass
          (Fault.alreadyNonNull text).args)) (by simp)
        refine ⟨.error (.raised s₂.size), _, hcall.trans ?_, .inr ⟨by simp,
          (htrue.trans hkeep).trans hfault⟩⟩
        exact Effect.runOn_bind_error (hmark.trans (Action.runOn_bind_ok hw _)) _

/-! ### Shallow copies -/

/-- The values of the keys of a node. -/
theorem RegularNode.runOn_keyValues (h : s.RegularNode r n) {keys : List String}
    (hkeys : ∀ key ∈ keys, key ∈ n.cls.keys)
    (hx : ∀ key ∈ keys, ∃ x, n.slots.lookup key = some x) :
    ∃ args, Effect.runOn (Action.keyValues (.ref r) (keys.map .text) (Behaviour.level (k + 1))) s =
        (.ok args, s) ∧ args.map Prod.fst = keys ∧
      ∀ key ∈ keys, args.lookup key = n.slots.lookup key := by
  induction keys with
  | nil => exact ⟨[], rfl, rfl, by simp⟩
  | cons key keys ih =>
    obtain ⟨hkey, hkeys⟩ := List.forall_mem_cons.mp hkeys
    obtain ⟨⟨x, hx⟩, hrest⟩ := List.forall_mem_cons.mp hx
    obtain ⟨args, hrun, hfst, hall⟩ := ih hkeys hrest
    refine ⟨(key, x) :: args, ?_, by rw [List.map_cons, hfst], ?_⟩
    · have hname : Effect.runOn (Action.nameOfAttr (.text key) (Behaviour.level (k + 1))) s =
          (.ok key, s) := rfl
      rw [List.map_cons]
      refine (Action.runOn_bind_ok hname _).trans ?_
      refine (Action.runOn_bind_ok (h.runOn_key hkey hx) _).trans ?_
      exact (Action.runOn_bind_ok hrun _).trans rfl
    · intro key' hmem
      by_cases hk : key' = key
      · subst hk
        rw [List.lookup_cons, beq_self_eq_true, hx]
      · rw [List.lookup_cons, beq_eq_false_iff_ne.mpr hk]
        exact hall key' ((List.mem_cons.mp hmem).resolve_left hk)

/-- A shallow copy is a new node with the same values and child sequences of the same items. -/
theorem SoundNode.runOn_copy (h : s.SoundNode r n) (k : Nat) :
    ∃ s' slots, Effect.runOn (Action.copy (.ref r) (Behaviour.level (k + 5))) s =
        (.ok (.ref s.size), s') ∧
      s.Grows s' ∧ s'.Made s.size n.cls slots ∧ s.KeepsNodes (· = s.size) s' ∧
      ∀ key ∈ n.cls.keys, ∃ v x, n.slots.lookup key = some v ∧ slots.lookup key = some x ∧
        s'.Kept s.size (n.cls.sequenceKeys.contains key) v x := by
  have hregular := h.regularNode
  obtain ⟨args, hvalues, hfst, hall⟩ := hregular.runOn_keyValues (k := k + 3) (fun _ => id) h.key
  have hgiven : ∀ key ∈ n.cls.keys, s.Given n.cls args key := by
    intro key hkey
    obtain ⟨x, hx⟩ := h.key key hkey
    refine ⟨x, (hall key hkey).trans hx, fun hk => ?_⟩
    obtain ⟨x', items, hx', hi⟩ := h.sequence key hk
    obtain rfl := Option.some.inj (hx.symm.trans hx')
    obtain ⟨t, rfl, hc⟩ := frozen?_some hi
    exact ⟨t, items, rfl, hc⟩
  obtain ⟨s', slots, hmake, hgrow, hmade, hkeep, hkept⟩ :=
    runOn_make h.regular h.classAttrs (hfst ▸ h.regular.self_notMem) hgiven k
  refine ⟨s', slots, ?_, hgrow, hmade, hkeep, fun key hkey => ?_⟩
  · obtain ⟨a, owner, he⟩ := h.regular.copy
    have hnode : Effect.runOn (Action.copyNode (.ref r) (Behaviour.level (k + 4))) s =
        (.ok (.ref s.size), s') := by
      refine (Action.runOn_bind_ok hregular.runOn_classOf _).trans ?_
      refine (Action.runOn_bind_ok hregular.runOn_namesOf _).trans ?_
      refine (Action.runOn_bind_ok hvalues _).trans ?_
      rw [distinct_of_nodup (hfst ▸ h.regular.nodup)]
      exact hmake
    refine (Effect.runOn_bind_ok (Effect.runOn_get s) _).trans ?_
    rw [cell?_ref h.cell]
    simp only [Action.hasOwnCopy, if_true, hregular.classEntry?, he]
    exact (Action.runOn_bind_ok (Action.runOn_get s) _).trans hnode
  · obtain ⟨v, x, hv, hx, hk⟩ := hkept key hkey
    exact ⟨v, x, (hall key hkey).symm.trans hv, hx, hk⟩

end Store
end GraphQLTree
