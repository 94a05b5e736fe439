import GraphQLTree.Proofs.Reading

/-! # Trees of the language

The trees that are made of the classes of the language, in a store where nothing was assigned to
classes. What they show is what their nodes hold (`Store.view`), as long as the nodes and their child
sequences are kept (`Store.KeepsTrees`, `Store.view_stands`). The components of a schema are its types
and then its query root (`Store.runOn_components`). -/

namespace GraphQLTree

/-! ### The classes of the language -/

namespace NodeClass

/-- No class of the language has its own way to read attributes or to show a class. -/
theorem special?_builtin : ∀ c ∈ builtin, ∀ name ∈ ["__class__", "__getattribute__", "__getattr__"],
    Store.empty.special? (.node c) name = none := by decide +kernel

theorem kind_builtin : ∀ c ∈ builtin, Store.empty.classEntry? (.node c) "kind" =
    some (.node c.toLevel, .value (.text c.kind)) := by decide +kernel

theorem key_builtin : ∀ c ∈ builtin, ∀ key ∈ c.keys, ∃ l ∈ c.lineage,
    Store.empty.classEntry? (.node c) key = some (.node l, .value (.slot l.name key)) := by
  decide +kernel

end NodeClass

namespace Store

/-! ### Nodes -/

/-- A node of a class of the language, without attributes beside its keys. -/
structure Node (s : Store) (r : Ref) (n : NodeObject) : Prop where
  classAttrs : s.classAttrs = []
  cell : s.get? r = some (.node n)
  cls : n.cls ∈ NodeClass.builtin
  fields : n.fields = .own []

namespace Node

variable {s : Store} {r : Ref} {n : NodeObject} {b : Behaviour}

theorem typeOf (h : s.Node r n) : s.typeOf (.ref r) = .node n.cls :=
  typeOf_ref h.cell

theorem special? (h : s.Node r n) {name : String}
    (hn : name ∈ ["__class__", "__getattribute__", "__getattr__"]) :
    s.special? (s.typeOf (.ref r)) name = none := by
  rw [h.typeOf, special?_node h.classAttrs]
  exact NodeClass.special?_builtin _ h.cls _ hn

theorem classEntry? (h : s.Node r n) (name : String) :
    s.classEntry? (s.typeOf (.ref r)) name = empty.classEntry? (.node n.cls) name := by
  rw [h.typeOf, classEntry?_eq h.classAttrs rfl]

theorem field? (h : s.Node r n) (name : String) : s.field? (.ref r) name = none := by
  unfold Store.field?
  rw [cell?_ref h.cell]
  change (s.attrsOf n.fields).lookup name = none
  rw [h.fields]
  rfl

theorem runOn_readAttr (h : s.Node r n) (name : String) :
    Effect.runOn (Action.readAttr (.ref r) name b) s =
      Effect.runOn (Action.readOwn (.ref r) name b) s :=
  Action.runOn_readAttr (h.special? (by simp)) (h.special? (by simp)) name

theorem runOn_kind (h : s.Node r n) :
    (Action.attr (.ref r) "kind").perform.runOn s = (.ok (.text n.cls.kind), s) := by
  rw [Action.runOn_attr, h.runOn_readAttr]
  exact Action.runOn_readOwn_text
    ((h.classEntry? "kind").trans (NodeClass.kind_builtin _ h.cls)) (h.field? "kind")

theorem runOn_key (h : s.Node r n) {key : String} {x : Value} (hk : key ∈ n.cls.keys)
    (hx : n.slots.lookup key = some x) :
    Effect.runOn (Action.readAttr (.ref r) key b) s = (.ok x, s) := by
  obtain ⟨l, -, he⟩ := NodeClass.key_builtin _ h.cls key hk
  rw [h.runOn_readAttr]
  exact Action.runOn_readOwn_slot ((h.classEntry? key).trans he) (cell?_ref h.cell) hx

theorem isSubtype (h : s.Node r n) (c : NodeClass) :
    s.isSubtype (s.typeOf (.ref r)) (.node c) = n.cls.isA c := by
  rw [h.typeOf]
  unfold Store.isSubtype lineage NodeClass.isA
  rw [List.any_append, List.any_map]
  have hlast : [Ancestor.basic .object].any (·.id == TypeValue.id (.node c)) = false := rfl
  rw [hlast, Bool.or_false]
  refine List.any_congr rfl fun l => Bool.eq_iff_iff.mpr ?_
  change (ClassId.node l.serial == .node c.serial) = true ↔ (l.serial == c.serial) = true
  rw [beq_iff_eq, beq_iff_eq, ClassId.node.injEq]

theorem runOn_isOfAny (h : s.Node r n) (classes : List NodeClass) :
    (Action.isOfAny (classes.map .node) (.ref r)).perform.runOn s =
      (.ok (classes.any n.cls.isA), s) := by
  have hany : classes.any (s.isSubtype (s.typeOf (.ref r)) ∘ .node) = classes.any n.cls.isA :=
    List.any_congr rfl fun c => h.isSubtype c
  rw [Action.runOn_perform, Action.runOn_isOfAny (h.special? (by simp)) (h.special? (by simp)),
    List.any_map, hany]

theorem runOn_isOf (h : s.Node r n) (c : NodeClass) :
    (Action.isOf (.node c) (.ref r)).perform.runOn s = (.ok (n.cls.isA c), s) := by
  rw [Action.runOn_perform, Action.runOn_isOf (h.special? (by simp)) (h.special? (by simp)),
    h.isSubtype]

end Node

/-! ### Lists of nodes -/

/-- The items of a child sequence. -/
def frozen? (s : Store) (v : Value) : Option (List Value) :=
  match s.cell? v with
  | some (.tuple .frozen items (.own [])) => some items
  | _ => none

/-- The components of a schema: its types and then its query root, if it has one. -/
def components? (s : Store) (n : NodeObject) : Option (List Value) :=
  match n.slots.lookup "types", n.slots.lookup "query" with
  | some types, some query =>
    (s.frozen? types).map (· ++ if query = .null then [] else [query])
  | _, _ => none

/-- The list that an attribute of a node holds; null stands for an empty one. -/
def listed? (s : Store) (n : NodeObject) (key : String) : Option (List Value) :=
  if n.cls = .schema && key = "components" then s.components? n
  else if key ∈ n.cls.keys then
    match n.slots.lookup key with
    | some .null => some []
    | some v => s.frozen? v
    | none => none
  else none

variable {s s' : Store}

theorem frozen?_some {v : Value} {items : List Value} (h : s.frozen? v = some items) :
    ∃ t, v = .ref t ∧ s.get? t = some (.tuple .frozen items (.own [])) := by
  unfold frozen? at h
  split at h
  · rename_i items' hc
    obtain rfl : items' = items := Option.some.inj h
    cases v with
    | ref t => exact ⟨t, rfl, hc⟩
    | _ => nomatch hc
  · nomatch h

theorem cell_of_frozen? {t : Ref} {items : List Value} (h : s.frozen? (.ref t) = some items) :
    s.get? t = some (.tuple .frozen items (.own [])) := by
  obtain ⟨t', ht, hc⟩ := frozen?_some h
  rwa [Value.ref.inj ht]

theorem components?_some {n : NodeObject} {items : List Value} (h : s.components? n = some items) :
    ∃ t query types, n.slots.lookup "types" = some (.ref t) ∧ n.slots.lookup "query" = some query ∧
      s.get? t = some (.tuple .frozen types (.own [])) ∧
      items = types ++ if query = .null then [] else [query] := by
  unfold components? at h
  split at h
  · rename_i types query ht hq
    obtain ⟨l, hl, rfl⟩ := Option.map_eq_some_iff.mp h
    obtain ⟨t, rfl, hc⟩ := frozen?_some hl
    exact ⟨t, query, l, ht, hq, hc, rfl⟩
  · nomatch h

/-- Reading the components of a schema gives its types and then its query root, if it has one. -/
theorem runOn_components {r : Ref} {n : NodeObject} {items : List Value} (h : s.Node r n)
    (hs : n.cls = .schema) (hi : s.components? n = some items) :
    ∃ t s', (Action.attr (.ref r) "components").perform.runOn s = (.ok (.ref t), s') ∧
      s.Grows s' ∧ s'.get? t = some (.tuple .frozen items (.own [])) := by
  obtain ⟨t, query, types, ht, hq, hc, rfl⟩ := components?_some hi
  have hentry : s.classEntry? (s.typeOf (.ref r)) "components" =
      some (.node NodeClass.schema.toLevel, .value (.property .components)) := by
    rw [h.classEntry?, hs]
    rfl
  have hextended : s.method? (.ref t) "extended" =
      some (.function ⟨"FrozenList", "extended", .extend⟩) := by
    have hf : s.field? (.ref t) "extended" = none := by
      unfold field?
      rw [cell?_ref hc]
      rfl
    unfold method?
    rw [hf, typeOf_ref hc, classEntry?_eq h.classAttrs rfl]
    rfl
  have hkeys : "query" ∈ n.cls.keys ∧ "types" ∈ n.cls.keys := by
    rw [hs]
    decide
  have hcomponents := Action.runOn_readOwn_components (b := Behaviour.level s.innerDepth) hentry
    (h.runOn_key hkeys.1 hq) (h.runOn_key hkeys.2 ht) (cell?_ref hc) ⟨_, hextended, rfl⟩
  rw [Action.runOn_attr, h.runOn_readAttr, hcomponents]
  by_cases hn : query = .null
  · rw [if_pos hn, if_pos hn, List.append_nil]
    exact ⟨t, s, rfl, Grows.refl s, hc⟩
  · rw [if_neg hn, if_neg hn]
    exact ⟨s.size, _, rfl, s.grows_alloc _, s.get?_alloc _⟩

/-! ### What trees show -/

/-- Whether a value is a node that belongs into a list of a kind. -/
def fits (s : Store) (kind : String) (e : Value) : Bool :=
  match variants? kind with
  | some classes => classes.any (s.isInstance e)
  | none => s.isInstance e .node

/-- What is seen of the trees in a store. -/
def view (s : Store) : View where
  kind? v := (s.node? v).map (·.cls.kind)
  shown v key :=
    match (s.node? v).bind (s.listed? · key) with
    | some items => .ofItems items
    | none => .unreadable
  fits := s.fits

/-- Whether all walked attributes of a node are lists of nodes that belong into them. -/
def wellListed (s : Store) (table : WalkTable) (n : NodeObject) : Bool :=
  (table.entries n.cls.kind).all fun (key, kind) => (s.listed? n key).any (·.all (s.fits kind))

/-- Whether a cell is no node, or a node of the language whose walked attributes are lists. -/
def isOrdinary (s : Store) (table : WalkTable) : Cell → Bool
  | .node n => n.cls ∈ NodeClass.builtin ∧ n.fields = .own [] ∧ s.wellListed table n
  | _ => true

/-- A store of trees of the language. -/
structure Ordinary (s : Store) (table : WalkTable) : Prop where
  classAttrs : s.classAttrs = []
  cells : ∀ c ∈ s.cells.toList, s.isOrdinary table c = true

theorem node?_some {v : Value} {n : NodeObject} (h : s.node? v = some n) :
    ∃ r, v = .ref r ∧ s.get? r = some (.node n) := by
  unfold node? at h
  split at h
  · rename_i n' hc
    obtain rfl : n' = n := Option.some.inj h
    cases v with
    | ref r => exact ⟨r, rfl, hc⟩
    | _ => nomatch hc
  · nomatch h

theorem node?_of_isInstance {v : Value} {c : NodeClass} (h : s.isInstance v c = true) :
    ∃ n, s.node? v = some n := by
  unfold isInstance at h
  rcases hn : s.node? v with - | n
  · rw [hn] at h
    nomatch h
  · exact ⟨n, rfl⟩

/-! ### Trees that are kept -/

/-- A store that keeps its nodes, but for their digests, its child sequences, and what was assigned
to classes. -/
structure KeepsTrees (s s' : Store) : Prop where
  node : ∀ {r n}, s.get? r = some (.node n) → ∃ digest?, s'.get? r = some (.node { n with digest? })
  sequence : ∀ {r items}, s.get? r = some (.tuple .frozen items (.own [])) →
    s'.get? r = some (.tuple .frozen items (.own []))
  classAttrs : s'.classAttrs = s.classAttrs

instance : IsPreorder Store KeepsTrees where
  refl _ := ⟨fun hc => ⟨_, hc⟩, id, rfl⟩
  trans _ _ _ h h' := by
    refine ⟨fun hc => ?_, fun hc => h'.sequence (h.sequence hc), h'.classAttrs.trans h.classAttrs⟩
    obtain ⟨_, hc'⟩ := h.node hc
    obtain ⟨digest?, hc''⟩ := h'.node hc'
    exact ⟨digest?, hc''⟩

theorem Grows.keepsTrees (h : s.Grows s') : s.KeepsTrees s' :=
  ⟨fun hc => ⟨_, h.get?_eq hc⟩, h.get?_eq, h.classAttrs⟩

theorem Node.keepsTrees {r : Ref} {n : NodeObject} (h : s.Node r n) (hs : s.KeepsTrees s') :
    ∃ digest?, s'.Node r { n with digest? } := by
  obtain ⟨digest?, hc⟩ := hs.node h.cell
  exact ⟨digest?, hs.classAttrs.trans h.classAttrs, hc, h.cls, h.fields⟩

theorem KeepsTrees.frozen?_eq (hs : s.KeepsTrees s') {v : Value} {items : List Value}
    (h : s.frozen? v = some items) : s'.frozen? v = some items := by
  obtain ⟨t, rfl, hc⟩ := frozen?_some h
  unfold frozen?
  rw [cell?_ref (hs.sequence hc)]

theorem KeepsTrees.listed?_eq (hs : s.KeepsTrees s') {n : NodeObject} {key : String}
    {items : List Value} (h : s.listed? n key = some items) : s'.listed? n key = some items := by
  unfold listed? at h ⊢
  split
  · rename_i hc
    rw [if_pos hc] at h
    unfold components? at h ⊢
    split at h
    · obtain ⟨l, hl, rfl⟩ := Option.map_eq_some_iff.mp h
      rw [hs.frozen?_eq hl]
      rfl
    · nomatch h
  · rename_i hc
    rw [if_neg hc] at h
    split
    · rename_i hk
      rw [if_pos hk] at h
      split at h
      · exact h
      · exact hs.frozen?_eq h
      · nomatch h
    · rename_i hk
      rw [if_neg hk] at h
      nomatch h

/-- A relation between stores that keeps trees, and that new cells do not break. -/
structure TreeKeeping (keeps : Store → Store → Prop) : Prop where
  of_grows : ∀ {s s'}, s.Grows s' → keeps s s'
  keepsTrees : ∀ {s s'}, keeps s s' → s.KeepsTrees s'

theorem treeKeeping_grows : TreeKeeping Grows := ⟨id, Grows.keepsTrees⟩

theorem treeKeeping_keepsTrees : TreeKeeping KeepsTrees := ⟨Grows.keepsTrees, id⟩

/-! ### Reading trees -/

/-- Reading an attribute of a node that is a list gives a sequence of its items, or null. -/
theorem Node.runOn_listed {r : Ref} {n : NodeObject} {key : String} {items : List Value}
    (h : s.Node r n) (hi : s.listed? n key = some items) :
    ∃ v s', (Action.attr (.ref r) key).perform.runOn s = (.ok v, s') ∧ s.Grows s' ∧
      (v = .null ∧ items = [] ∨
        ∃ t, v = .ref t ∧ s'.get? t = some (.tuple .frozen items (.own []))) := by
  unfold listed? at hi
  split at hi
  · rename_i hc
    rw [Bool.and_eq_true, decide_eq_true_eq, decide_eq_true_eq] at hc
    obtain ⟨t, s', hr, hg, ht⟩ := runOn_components h hc.1 hi
    rw [hc.2]
    exact ⟨.ref t, s', hr, hg, .inr ⟨t, rfl, ht⟩⟩
  · split at hi
    · rename_i hk
      split at hi
      · rename_i hx
        obtain rfl := Option.some.inj hi
        exact ⟨.null, s, (Action.runOn_attr ..).trans (h.runOn_key hk hx), Grows.refl s,
          .inl ⟨rfl, rfl⟩⟩
      · rename_i v hv hx
        obtain ⟨t, rfl, ht⟩ := frozen?_some hi
        exact ⟨.ref t, s, (Action.runOn_attr ..).trans (h.runOn_key hk hx), Grows.refl s,
          .inr ⟨t, rfl, ht⟩⟩
      · nomatch hi
    · nomatch hi

theorem Node.isInstance {r : Ref} {n : NodeObject} (h : s.Node r n) (c : NodeClass) :
    s.isInstance (.ref r) c = n.cls.isA c := by
  unfold Store.isInstance node?
  rw [cell?_ref h.cell]

/-- Whether a node belongs into a list can be read. -/
theorem Node.runOn_belongs {r : Ref} {n : NodeObject} (h : s.Node r n) (kind : String) :
    (Action.belongs kind (.ref r)).perform.runOn s = (.ok (s.fits kind (.ref r)), s) := by
  unfold Action.belongs fits
  rcases variants? kind with - | classes
  · dsimp only
    rw [h.runOn_isOf, h.isInstance]
  · dsimp only
    rw [h.runOn_isOfAny, List.any_congr rfl h.isInstance]

section

variable {keeps : Store → Store → Prop} [IsPreorder Store keeps] (hk : TreeKeeping keeps)
include hk

theorem holds_null (h : s.classAttrs = []) : Holds keeps s .null .nothing := by
  intro s' hs
  have hc := (hk.keepsTrees hs).classAttrs.trans h
  refine ⟨s', ?_, refl_of keeps s'⟩
  rw [Action.runOn_isTrue, Action.runOn_truth (special?_basic hc _ _) (special?_basic hc _ _)]
  rfl

/-- The kind of a node. -/
theorem Node.reads_kind {r : Ref} {n : NodeObject} (h : s.Node r n) :
    Reads keeps s (Action.attr (.ref r) "kind") (.text n.cls.kind) := by
  intro s' hs
  obtain ⟨_, h'⟩ := h.keepsTrees (hk.keepsTrees hs)
  exact ⟨s', h'.runOn_kind, refl_of keeps s'⟩

/-- Reading an attribute of a node that is a list shows the items of the list. -/
theorem Node.shows {r : Ref} {n : NodeObject} {key : String} {items : List Value}
    (h : s.Node r n) (hi : s.listed? n key = some items) :
    Shows keeps s (.ref r) key (.ofItems items) := by
  intro s' hs
  have ht := hk.keepsTrees hs
  have hc : s'.classAttrs = [] := ht.classAttrs.trans h.classAttrs
  obtain ⟨_, h'⟩ := h.keepsTrees ht
  obtain ⟨v, s'', hr, hg, hv⟩ := h'.runOn_listed (ht.listed?_eq hi)
  refine .inl ⟨v, s'', hr, hk.of_grows hg, ?_⟩
  have hc' := hg.classAttrs.trans hc
  rcases hv with ⟨rfl, rfl⟩ | ⟨t, rfl, hcell⟩
  · exact holds_null hk hc'
  · exact holds_tuple (fun _ hs' => (hk.keepsTrees hs').classAttrs.trans hc')
      fun _ hs' => (hk.keepsTrees hs').sequence hcell

theorem Node.reads_belongs {r : Ref} {n : NodeObject} (h : s.Node r n) (kind : String) :
    Reads keeps s (Action.belongs kind (.ref r)) (s.fits kind (.ref r)) := by
  intro s' hs
  obtain ⟨_, h'⟩ := h.keepsTrees (hk.keepsTrees hs)
  have hfits : s'.fits kind (.ref r) = s.fits kind (.ref r) := by
    unfold fits
    rw [h.isInstance, h'.isInstance]
    rcases variants? kind with - | classes
    · rfl
    · exact List.any_congr rfl fun c => (h'.isInstance c).trans (h.isInstance c).symm
  exact ⟨s', hfits ▸ h'.runOn_belongs kind, refl_of keeps s'⟩

theorem Node.reads_checkRoot {r : Ref} {n : NodeObject} (h : s.Node r n)
    (hr : [NodeClass.document, .schema].any (s.isInstance (.ref r)) = true) :
    Reads keeps s (Action.checkRoot (.ref r)) () := by
  intro s' hs
  obtain ⟨_, h'⟩ := h.keepsTrees (hk.keepsTrees hs)
  rw [List.any_congr rfl h.isInstance] at hr
  have hi := h'.runOn_isOfAny [NodeClass.document, .schema]
  rw [hr] at hi
  exact ⟨s', Effect.runOn_bind_ok hi _, refl_of keeps s'⟩

theorem reads_walkedAttrs (h : s.classAttrs = []) (table : WalkTable) (kind : String) :
    Reads keeps s (Action.walkedAttrs table (.text kind)) (table.entries kind) := by
  intro s' hs
  have hc := (hk.keepsTrees hs).classAttrs.trans h
  have hd : Effect.runOn (Action.digestOf (.text kind) (Behaviour.level s'.innerDepth)) s' =
      (.ok (Value.atomDigest (.text kind)), s') := by
    unfold Action.digestOf
    rw [Action.runOn_bind_ok (Action.runOn_special? "__hash__")]
    have hs : s'.special? (s'.typeOf (.text kind)) "__hash__" = none := special?_basic hc _ _
    rw [hs]
    rfl
  refine ⟨s', ?_, refl_of keeps s'⟩
  rw [Action.runOn_perform, s'.depthLimit_eq]
  exact Effect.runOn_bind_ok hd _

end

namespace Ordinary

variable {table : WalkTable} {root v : Value} {n : NodeObject}

theorem node (h : s.Ordinary table) (hn : s.node? v = some n) :
    ∃ r, v = .ref r ∧ s.Node r n ∧ s.wellListed table n = true := by
  obtain ⟨r, rfl, hc⟩ := node?_some hn
  have hm : Cell.node n ∈ s.cells.toList := by
    rw [Array.mem_toList_iff]
    exact Array.mem_of_getElem? hc
  obtain ⟨hcls, hfields, hlist⟩ := of_decide_eq_true (h.cells _ hm)
  exact ⟨r, rfl, ⟨h.classAttrs, hc, hcls, hfields⟩, hlist⟩

theorem listed (h : s.Ordinary table) {r : Ref} (hn : s.node? (.ref r) = some n) {key kind : String}
    (hm : (key, kind) ∈ table.entries n.cls.kind) :
    ∃ items, s.listed? n key = some items ∧ s.view.shown (.ref r) key = .ofItems items ∧
      ∀ e ∈ items, s.fits kind e = true := by
  obtain ⟨_, -, -, hl⟩ := h.node hn
  obtain ⟨items, hi, hf⟩ := (Option.any_eq_true ..).mp (List.all_eq_true.mp hl _ hm)
  refine ⟨items, hi, ?_, List.all_eq_true.mp hf⟩
  unfold view
  dsimp only
  rw [hn, Option.bind_some, hi]

theorem node?_of_fits {kind : String} {e : Value} (h : s.fits kind e = true) :
    ∃ n, s.node? e = some n := by
  unfold fits at h
  split at h
  · obtain ⟨c, -, hc⟩ := List.any_eq_true.mp h
    exact node?_of_isInstance hc
  · exact node?_of_isInstance h

/-- Everything that is reached from a node is a node. -/
theorem node?_of_reached (hroot : ∃ n, s.node? root = some n)
    (hr : s.view.Reached table root v) : ∃ n, s.node? v = some n := by
  cases hr with
  | root => exact hroot
  | element _ _ _ _ _ hf => exact node?_of_fits hf

theorem node?_of_walked (hroot : ∃ n, s.node? root = some n) {key kind : String}
    (hw : s.view.Walked table root v key kind) :
    ∃ n, s.node? v = some n ∧ (key, kind) ∈ table.entries n.cls.kind := by
  obtain ⟨hr, kind', hk, hm⟩ := hw
  obtain ⟨n, hn⟩ := node?_of_reached hroot hr
  change (s.node? v).map _ = _ at hk
  rw [hn] at hk
  obtain rfl := Option.some.inj hk
  exact ⟨n, hn, hm⟩

end Ordinary

/-- What is seen of a tree of the language is what is read of it, as long as trees are kept. -/
theorem view_stands {keeps : Store → Store → Prop} [IsPreorder Store keeps]
    (hk : TreeKeeping keeps) {options : WalkOptions} {root : Value} (h : s.Ordinary options.table)
    (hd : options.debug = false)
    (hroot : [NodeClass.document, .schema].any (s.isInstance root) = true) :
    s.view.Stands keeps s options root := by
  obtain ⟨c, -, hc⟩ := List.any_eq_true.mp hroot
  have hnode := node?_of_isInstance hc
  refine ⟨?_, ?_, ?_, ?_, ?_, ?_⟩
  · obtain ⟨n, hn⟩ := hnode
    obtain ⟨r, rfl, hr, -⟩ := h.node hn
    exact hr.reads_checkRoot hk hroot
  · intro v hv
    obtain ⟨n, hn⟩ := Ordinary.node?_of_reached hnode hv
    obtain ⟨r, rfl, hr, -⟩ := h.node hn
    have hkind : s.view.kind? (.ref r) = some n.cls.kind := by
      change (s.node? (.ref r)).map _ = _
      rw [hn]
      rfl
    rw [hkind]
    exact ⟨hr.reads_kind hk, reads_walkedAttrs hk h.classAttrs _ _⟩
  · intro v key kind hw
    obtain ⟨n, hn, hm⟩ := Ordinary.node?_of_walked hnode hw
    obtain ⟨r, rfl, hr, -⟩ := h.node hn
    obtain ⟨items, hi, hs, -⟩ := h.listed hn hm
    rw [hs]
    exact hr.shows hk hi
  · intro v key kind elements e hw hs he
    obtain ⟨n, hn, hm⟩ := Ordinary.node?_of_walked hnode hw
    obtain ⟨r, rfl, hr, -⟩ := h.node hn
    obtain ⟨items, hi, hs', hf⟩ := h.listed hn hm
    obtain rfl : items = elements := Shown.ofItems_inj (hs'.symm.trans hs)
    have hfits : s.view.fits kind e = true := hf e he
    obtain ⟨n', hn'⟩ := Ordinary.node?_of_fits (hf e he)
    obtain ⟨r', rfl, hr', -⟩ := h.node hn'
    rw [if_pos hfits]
    have hreads := hr'.reads_belongs hk kind
    rwa [hf _ he] at hreads
  · intro hd'
    rw [hd] at hd'
    nomatch hd'
  · intro hd'
    rw [hd] at hd'
    nomatch hd'

/-- A schema whose query root has one field, and one type beside the query root. -/
def smallSchema : Store where
  cells := #[
    .node ⟨.schema, [("query", .ref 2), ("types", .ref 1)], .own [], none⟩,
    .tuple .frozen [.ref 5] (.own []),
    .node ⟨.objectDefinition, [("name", .null), ("fields", .ref 3)], .own [], none⟩,
    .tuple .frozen [.ref 4] (.own []),
    .node ⟨.objectFieldDefinition, [("name", .null)], .own [], none⟩,
    .node ⟨.enumDefinition, [("name", .null)], .own [], none⟩]
  nextTag := 0
  classAttrs := []
  functionData := []

theorem smallSchema_ordinary : smallSchema.Ordinary WalkOptions.standard.table :=
  ⟨rfl, by decide +kernel⟩

theorem smallSchema_stands : smallSchema.view.Stands Grows smallSchema .standard (.ref 0) :=
  view_stands treeKeeping_grows smallSchema_ordinary rfl rfl

end Store
end GraphQLTree
