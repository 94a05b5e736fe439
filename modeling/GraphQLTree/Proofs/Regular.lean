import GraphQLTree.Proofs.Tree

/-! # Regular classes of nodes

A class of nodes is regular if what its nodes do is what the base of all classes says: its keys are
kept as keys, nothing stands in the place of a special method, and a node is initialised by assigning
its keys. All classes of the language are regular (`NodeClass.regular_library`). For the nodes of
regular classes this module says what it does to read a key, to assign one and to make a new node,
in a store where nothing was assigned to classes. -/

namespace GraphQLTree

namespace NodeClass

/-! ### Regular classes -/

/-- The special methods that a regular class has no keys in the place of. -/
def specialNames : List String :=
  ["__class__", "__getattribute__", "__getattr__", "__setattr__", "__delattr__", "__eq__",
   "__hash__", "__new__", "__bool__", "__len__", "__iter__", "__getitem__"]

/-- A class whose nodes behave like those of the base of all classes. -/
structure Regular (c : NodeClass) : Prop where
  isNode : c.isNode = true
  isA : c.isA node = true
  special : ∀ name ∈ specialNames, Store.empty.special? (.node c) name = none
  keys : ∃ a, Store.empty.classEntry? (.node c) "keys" = some (a, .texts false c.keys)
  sequenceKeys : ∃ a, Store.empty.classEntry? (.node c) "sequence_keys" =
    some (a, .texts true c.sequenceKeys)
  digest : ∃ a owner, Store.empty.classEntry? (.node c) "_hash" =
    some (a, .value (.slot owner "_hash"))
  key : ∀ key ∈ c.keys, ∃ a owner, Store.empty.classEntry? (.node c) key =
    some (a, .value (.slot owner key))
  /-- There may be a default for a key that is not the key of a sequence. -/
  init : ∃ a owner default?, Store.empty.classEntry? (.node c) "__init__" =
    some (a, .value (.function ⟨owner, "__init__", .initNode default?⟩)) ∧
      ∀ d ∈ default?, d.1 ∉ c.sequenceKeys
  copy : ∃ a owner, Store.empty.classEntry? (.node c) "__copy__" =
    some (a, .value (.function ⟨owner, "__copy__", .copyNode⟩))
  deepCopy : ∃ a owner, Store.empty.classEntry? (.node c) "__deepcopy__" =
    some (a, .value (.function ⟨owner, "__deepcopy__", .deepCopyNode⟩))
  nodup : c.keys.Nodup
  sequence_subset : ∀ key ∈ c.sequenceKeys, key ∈ c.keys
  /-- A key named like the first parameter of the initialisation could not be given. -/
  self_notMem : "self" ∉ c.keys
  digest_notMem : "_hash" ∉ c.keys

/-- The base of all classes and the classes of the language. -/
def library : List NodeClass :=
  node :: builtin

theorem regular_library : ∀ c ∈ library, c.Regular := by
  intro c hc
  have hkeys : ∀ c ∈ library, ∃ l ∈ c.lineage, Store.empty.classEntry? (.node c) "keys" =
      some (.node l, .texts false c.keys) := by decide +kernel
  have hsequences : ∀ c ∈ library, ∃ l ∈ c.lineage,
      Store.empty.classEntry? (.node c) "sequence_keys" =
        some (.node l, .texts true c.sequenceKeys) := by decide +kernel
  have hkey : ∀ c ∈ library, ∀ key ∈ "_hash" :: c.keys, ∃ l ∈ c.lineage,
      Store.empty.classEntry? (.node c) key = some (.node l, .value (.slot l.name key)) := by
    decide +kernel
  have hinit : ∀ c ∈ library, ∃ l ∈ c.lineage,
      ∃ default? ∈ [none, some ("operation", .queryOperation), some ("nullable", .isTrue)],
        Store.empty.classEntry? (.node c) "__init__" =
          some (.node l, .value (.function ⟨l.name, "__init__", .initNode default?⟩)) ∧
        ∀ d ∈ default?, d.1 ∉ c.sequenceKeys := by
    decide +kernel
  have hcopy : ∀ c ∈ library, Store.empty.classEntry? (.node c) "__copy__" =
      some (.node nodeLevel, .value (.function ⟨"Node", "__copy__", .copyNode⟩)) := by
    decide +kernel
  have hdeep : ∀ c ∈ library, Store.empty.classEntry? (.node c) "__deepcopy__" =
      some (.node nodeLevel, .value (.function ⟨"Node", "__deepcopy__", .deepCopyNode⟩)) := by
    decide +kernel
  have hspecial : ∀ c ∈ library, ∀ name ∈ specialNames,
      Store.empty.special? (.node c) name = none := by decide +kernel
  have hplain : ∀ c ∈ library, c.isNode = true ∧ c.isA node = true ∧ c.keys.Nodup ∧
      (∀ key ∈ c.sequenceKeys, key ∈ c.keys) ∧ "self" ∉ c.keys ∧ "_hash" ∉ c.keys := by
    decide +kernel
  obtain ⟨hnode, hisA, hnodup, hsub, hself, hhash⟩ := hplain c hc
  obtain ⟨l, -, hk⟩ := hkeys c hc
  obtain ⟨l', -, hs⟩ := hsequences c hc
  obtain ⟨l'', -, hd⟩ := hkey c hc "_hash" (List.mem_cons_self ..)
  obtain ⟨l₃, -, default?, -, hi, hdefault⟩ := hinit c hc
  exact {
    isNode := hnode
    isA := hisA
    special := hspecial c hc
    keys := ⟨_, hk⟩
    sequenceKeys := ⟨_, hs⟩
    digest := ⟨_, _, hd⟩
    key := fun key hmem =>
      have ⟨l, _, h⟩ := hkey c hc key (List.mem_cons_of_mem _ hmem)
      ⟨_, _, h⟩
    init := ⟨_, _, _, hi, hdefault⟩
    copy := ⟨_, _, hcopy c hc⟩
    deepCopy := ⟨_, _, hdeep c hc⟩
    nodup := hnodup
    sequence_subset := hsub
    self_notMem := hself
    digest_notMem := hhash }

end NodeClass

/-! ### Texts in lists of names -/

namespace Action

variable {s : Store}

theorem runOn_get {b : Behaviour} (s : Store) :
    Effect.runOn ((get : Action Store) b) s = (.ok s, s) := rfl

/-- Texts are compared by what they are. -/
theorem runOn_equal_text (h : s.classAttrs = []) (t u : String) (k : Nat) :
    Effect.runOn (equal (.text t) (.text u) (Behaviour.level (k + 1))) s = (.ok (t == u), s) := by
  have hcomparison (t u : String) : Effect.runOn (comparison (.text t) (.text u) (Behaviour.level k)) s =
      (.ok (.bool (t == u)), s) := by
    refine (runOn_bind_ok (runOn_special? "__eq__") _).trans ?_
    have hspecial : s.special? (s.typeOf (.text t)) "__eq__" = none :=
      Store.special?_basic h _ _
    rw [hspecial]
    rfl
  have hrefined : Effect.runOn (isRefined (.text t) (.text u) (Behaviour.level k)) s =
      (.ok false, s) := rfl
  have hfirst : Effect.runOn (firstAnswer comparison (.bool (Value.text t = .text u)) (.text t)
      (.text u) (Behaviour.level k)) s = (.ok (.bool (t == u)), s) := by
    refine (runOn_bind_ok hrefined _).trans ?_
    exact runOn_bind_ok (hcomparison t u) _
  exact runOn_bind_ok hfirst _

/-- Whether a text is in a list of names of a class. -/
theorem runOn_has (h : s.classAttrs = []) (texts : List String) (name : String) (k : Nat) :
    Effect.runOn ((NameList.names texts).has (.text name) (Behaviour.level (k + 1))) s =
      (.ok (texts.contains name), s) := by
  have hindex : ∃ place : Option Nat, Effect.runOn (findIndex (.text name) (texts.map .text)
      (Behaviour.level (k + 1))) s = (.ok place, s) ∧ place.isSome = texts.contains name := by
    induction texts with
    | nil => exact ⟨none, rfl, rfl⟩
    | cons t texts ih =>
      obtain ⟨place, hrun, hplace⟩ := ih
      have hsame : Effect.runOn (same (.text t) (.text name) (Behaviour.level (k + 1))) s =
          (.ok (t == name), s) := by
        unfold same
        by_cases ht : t = name
        · rw [if_pos (congrArg Value.text ht), beq_iff_eq.mpr ht]
          rfl
        · rw [if_neg fun h => ht (Value.text.inj h)]
          exact runOn_equal_text h t name k
      rw [List.map_cons, List.contains_cons]
      unfold findIndex
      by_cases ht : t = name
      · rw [beq_iff_eq.mpr ht] at hsame
        refine ⟨some 0, (runOn_bind_ok hsame _).trans rfl, ?_⟩
        rw [beq_iff_eq.mpr ht.symm]
        rfl
      · rw [beq_eq_false_iff_ne.mpr ht] at hsame
        refine ⟨place.map (· + 1), (runOn_bind_ok hsame _).trans (runOn_bind_ok hrun _), ?_⟩
        rw [Option.isSome_map, hplace, beq_eq_false_iff_ne.mpr (Ne.symm ht), Bool.false_or]
  obtain ⟨place, hrun, hplace⟩ := hindex
  rw [← hplace]
  exact runOn_bind_ok hrun _

end Action

namespace Store

variable {s s' : Store} {r : Ref} {n : NodeObject} {b : Behaviour} {k : Nat}

theorem put_put (s : Store) (r : Ref) (c c' : Cell) : (s.put r c).put r c' = s.put r c' := by
  unfold put
  rw [Array.setIfInBounds_setIfInBounds]

/-! ### Nodes of regular classes -/

/-- The attributes of a class that an attribute of a node could hide from where they are used. -/
def hidable : List String :=
  ["keys", "sequence_keys", "__copy__", "__deepcopy__"]

/-- A node of a regular class. It may have attributes beside its keys, if they do not hide what its
class provides. -/
structure RegularNode (s : Store) (r : Ref) (n : NodeObject) : Prop where
  classAttrs : s.classAttrs = []
  cell : s.get? r = some (.node n)
  cls : n.cls.Regular
  fields : ∃ attrs, n.fields = .own attrs ∧ ∀ name ∈ hidable, attrs.lookup name = none

namespace RegularNode

theorem typeOf (h : s.RegularNode r n) : s.typeOf (.ref r) = .node n.cls :=
  typeOf_ref h.cell

theorem special? (h : s.RegularNode r n) {name : String} (hn : name ∈ NodeClass.specialNames) :
    s.special? (s.typeOf (.ref r)) name = none := by
  rw [h.typeOf, special?_node h.classAttrs]
  exact h.cls.special name hn

theorem classEntry? (h : s.RegularNode r n) (name : String) :
    s.classEntry? (s.typeOf (.ref r)) name = empty.classEntry? (.node n.cls) name := by
  rw [h.typeOf, classEntry?_eq h.classAttrs rfl]

theorem field? (h : s.RegularNode r n) {name : String} (hn : name ∈ hidable) :
    s.field? (.ref r) name = none := by
  obtain ⟨attrs, ha, hnone⟩ := h.fields
  unfold Store.field?
  rw [cell?_ref h.cell]
  change (s.attrsOf n.fields).lookup name = none
  rw [ha]
  exact hnone name hn

theorem node? (h : s.RegularNode r n) : s.node? (.ref r) = some n := by
  unfold Store.node?
  rw [cell?_ref h.cell]

/-! ### Reading -/

theorem runOn_readAttr (h : s.RegularNode r n) (name : String) :
    Effect.runOn (Action.readAttr (.ref r) name b) s =
      Effect.runOn (Action.readOwn (.ref r) name b) s :=
  Action.runOn_readAttr (h.special? (by decide)) (h.special? (by decide)) name

/-- The value of a key. -/
theorem runOn_key (h : s.RegularNode r n) {key : String} {x : Value} (hk : key ∈ n.cls.keys)
    (hx : n.slots.lookup key = some x) :
    Effect.runOn (Action.attr (.ref r) key (Behaviour.level (k + 1))) s = (.ok x, s) := by
  obtain ⟨a, owner, he⟩ := h.cls.key key hk
  refine (h.runOn_readAttr key).trans ?_
  exact Action.runOn_readOwn_slot ((h.classEntry? key).trans he) (cell?_ref h.cell) hx

theorem runOn_nameList (h : s.RegularNode r n) {list : String} {a : Ancestor} {isTuple : Bool}
    {names : List String} (hl : list ∈ hidable)
    (he : empty.classEntry? (.node n.cls) list = some (a, .texts isTuple names)) :
    Effect.runOn (Action.nameList (.ref r) list b) s = (.ok (.names names), s) := by
  refine (Effect.runOn_bind_ok (Effect.runOn_get s) _).trans ?_
  rw [h.special? (by decide), h.field? hl, h.classEntry?, he]
  rfl

theorem runOn_keys (h : s.RegularNode r n) :
    Effect.runOn (Action.nameList (.ref r) "keys" b) s = (.ok (.names n.cls.keys), s) := by
  obtain ⟨a, he⟩ := h.cls.keys
  exact h.runOn_nameList (by decide) he

/-- The names of the keys. -/
theorem runOn_namesOf (h : s.RegularNode r n) :
    Effect.runOn (Action.namesOf (.ref r) "keys" b) s = (.ok (n.cls.keys.map .text), s) :=
  Action.runOn_bind_ok h.runOn_keys _

theorem runOn_hidesClass (h : s.RegularNode r n) :
    Effect.runOn (Action.hidesClass (.ref r) b) s = (.ok false, s) := by
  refine (Action.runOn_bind_ok (Action.runOn_special? "__class__") _).trans ?_
  rw [h.special? (by decide)]
  refine (Action.runOn_bind_ok (Action.runOn_special? "__getattribute__") _).trans ?_
  rw [h.special? (by decide)]
  rfl

theorem runOn_classOf (h : s.RegularNode r n) :
    Effect.runOn (Action.classOf (.ref r) b) s = (.ok (.type (.node n.cls)), s) := by
  refine (Action.runOn_bind_ok h.runOn_hidesClass _).trans ?_
  refine (Effect.runOn_bind_ok (Effect.runOn_get s) _).trans ?_
  rw [h.typeOf]
  rfl

/-! ### Assigning -/

theorem lt_size (h : s.RegularNode r n) : r < s.size :=
  lt_size_of_get? h.cell

/-- A node gets other values of its keys. -/
theorem put (h : s.RegularNode r n) (slots : Attrs) (digest? : Option Digest) :
    (s.put r (.node { n with slots, digest? })).RegularNode r { n with slots, digest? } :=
  ⟨h.classAttrs, get?_put s _ h.lt_size, h.cls, h.fields⟩

/-- Whether a node has a digest, computed or assigned. -/
theorem runOn_hasDigest (h : s.RegularNode r n) :
    Effect.runOn (Action.hasDigest (.ref r) b) s =
      (.ok (n.digest?.isSome || (n.slots.lookup "_hash").isSome), s) := by
  obtain ⟨a, owner, he⟩ := h.cls.digest
  refine (Effect.runOn_bind_ok (Effect.runOn_get s) _).trans ?_
  rw [h.classEntry?, he, h.node?]
  dsimp only
  cases n.digest?.isSome || (n.slots.lookup "_hash").isSome with
  | true => rfl
  | false =>
    have hothers : Effect.runOn (Action.answersForOthers (.ref r) b) s = (.ok false, s) := by
      refine (Action.runOn_bind_ok (Action.runOn_special? "__getattr__") _).trans ?_
      rw [h.special? (by decide)]
      refine (Action.runOn_bind_ok (Action.runOn_special? "__getattribute__") _).trans ?_
      rw [h.special? (by decide)]
      rfl
    exact (Action.runOn_bind_ok hothers _).trans rfl

theorem runOn_storeAttr (h : s.RegularNode r n) {key : String} (hk : key ∈ n.cls.keys) (x : Value) :
    Effect.runOn (Action.storeAttr (.ref r) key x b) s =
      (.ok (), s.put r (.node { n with slots := n.slots.set key x })) := by
  obtain ⟨a, owner, he⟩ := h.cls.key key hk
  have hkey : key ≠ "_hash" := fun hh => h.cls.digest_notMem (hh ▸ hk)
  refine (Effect.runOn_bind_ok (Effect.runOn_get s) _).trans ?_
  rw [h.classEntry?, he]
  dsimp only
  rw [if_neg hkey]
  change Effect.runOn (Effect.setSlot (.ref r) key x) s = _
  refine (Effect.runOn_bind_ok (Effect.runOn_get s) _).trans ?_
  rw [cell?_ref h.cell]
  rfl

/-- The digest that was computed for a node is forgotten. -/
theorem runOn_delDigest (h : s.RegularNode r n) (hn : n.slots.lookup "_hash" = none) {d : Digest}
    (hd : n.digest? = some d) :
    Effect.runOn (Action.delAttr (.ref r) "_hash" (Behaviour.level (k + 1))) s =
      (.ok (), s.put r (.node { n with digest? := none })) := by
  obtain ⟨a, owner, he⟩ := h.cls.digest
  change Effect.runOn (Action.removeAttr (.ref r) "_hash" (Behaviour.level k)) s = _
  refine (Effect.runOn_bind_ok (Effect.runOn_get s) _).trans ?_
  rw [h.special? (by decide)]
  refine (Effect.runOn_bind_ok (Effect.runOn_get s) _).trans ?_
  rw [h.classEntry?, he, cell?_ref h.cell]
  dsimp only
  have hslots : (Cell.node n).slots.lookup "_hash" = none := hn
  rw [hslots]
  obtain ⟨cls, slots, fields, digest?⟩ := n
  obtain rfl : digest? = some d := hd
  change Effect.runOn (Action.forgetComputed (.ref r)) s = _
  refine (Effect.runOn_bind_ok (Effect.runOn_get s) _).trans ?_
  rw [cell?_ref h.cell]
  rfl

/-- Assigning a key keeps the value and forgets the digest of the node. -/
theorem runOn_setAttr (h : s.RegularNode r n) (hn : n.slots.lookup "_hash" = none) {key : String}
    (hk : key ∈ n.cls.keys) (x : Value) :
    Effect.runOn (Action.setAttr (.ref r) key x (Behaviour.level (k + 2))) s =
      (.ok (), s.put r (.node { n with slots := n.slots.set key x, digest? := none })) := by
  change Effect.runOn (Action.assignAttr (.ref r) key x (Behaviour.level (k + 1))) s = _
  refine (Action.runOn_bind_ok (Action.runOn_special? "__setattr__") _).trans ?_
  rw [h.special? (by decide)]
  refine (Effect.runOn_bind_ok (Effect.runOn_get s) _).trans ?_
  rw [h.node?]
  refine (Action.runOn_bind_ok h.runOn_hasDigest _).trans ?_
  rw [hn]
  cases hd : n.digest? with
  | none =>
    refine (h.runOn_storeAttr hk x).trans ?_
    rw [← hd]
  | some d =>
    have h' := h.put n.slots none
    refine (Action.runOn_bind_ok h.runOn_keys _).trans ?_
    refine (Action.runOn_bind_ok (Action.runOn_has h.classAttrs n.cls.keys key k) _).trans ?_
    rw [List.contains_iff_mem.mpr hk]
    refine (Action.runOn_bind_ok (h.runOn_delDigest hn hd) _).trans ?_
    refine (h'.runOn_storeAttr hk x).trans ?_
    rw [put_put]

end RegularNode
end Store
end GraphQLTree
