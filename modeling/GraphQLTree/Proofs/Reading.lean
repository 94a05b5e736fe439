import GraphQLTree.Proofs.View

/-! # Reading ordinary trees

In a store where nothing was assigned to classes, what is read of nodes and sequences is what their
cells hold. A store that only grows keeps its trees: every cell that is there stays as it is. -/

namespace GraphQLTree

/-! ### Growing stores -/

/-- A store that has got new cells at most. -/
structure Store.Grows (s s' : Store) : Prop where
  size : s.size ≤ s'.size
  get?_eq : ∀ {r c}, s.get? r = some c → s'.get? r = some c
  classAttrs : s'.classAttrs = s.classAttrs

namespace Store

theorem Grows.refl (s : Store) : s.Grows s := ⟨Nat.le_refl _, id, rfl⟩

instance : IsPreorder Store Grows where
  refl := Grows.refl
  trans _ _ _ h h' := ⟨Nat.le_trans h.size h'.size, fun hc => h'.get?_eq (h.get?_eq hc),
    h'.classAttrs.trans h.classAttrs⟩

theorem lt_size_of_get? {s : Store} {r : Ref} {c : Cell} (h : s.get? r = some c) : r < s.size := by
  unfold get? at h
  exact (Array.getElem?_eq_some_iff.mp h).1

theorem grows_alloc (s : Store) (c : Cell) : s.Grows (s.alloc c).2 where
  size := by simp
  get?_eq h := by rwa [get?_alloc_of_lt s c (lt_size_of_get? h)]
  classAttrs := rfl

/-- How deeply operations may be used by another one. -/
def innerDepth (s : Store) : Nat :=
  8 * s.size + 999

theorem depthLimit_eq (s : Store) : s.depthLimit = s.innerDepth + 1 := by
  unfold depthLimit innerDepth
  omega

theorem typeOf_ref {s : Store} {r : Ref} {c : Cell} (h : s.get? r = some c) :
    s.typeOf (.ref r) = c.type := by
  have ht : s.typeOf (.ref r) = ((s.get? r).map Cell.type).getD (.basic .object) := rfl
  rw [ht, h]
  rfl

theorem cell?_ref {s : Store} {r : Ref} {c : Cell} (h : s.get? r = some c) :
    s.cell? (.ref r) = some c := h

theorem isTrue_ref {s : Store} {r : Ref} {c : Cell} (h : s.get? r = some c)
    (hv : ∀ k d, c ≠ .view k d) : s.isTrue (.ref r) = c.isTrue := by
  unfold isTrue
  dsimp only
  rw [h]
  cases c with
  | view k d => exact absurd rfl (hv k d)
  | _ => rfl

/-- Types other than classes of nodes have no special methods of their own. -/
theorem special?_basic {s : Store} (h : s.classAttrs = []) (t : BasicType) (name : String) :
    s.special? (.basic t) name = none := by
  unfold special?
  rw [h]
  rfl

/-- What a class of nodes provides does not depend on the store if nothing was assigned to it. -/
theorem special?_node {s : Store} (h : s.classAttrs = []) (c : NodeClass) (name : String) :
    s.special? (.node c) name = empty.special? (.node c) name := by
  unfold special? specialIn? classAttr?
  rw [h]
  rfl

theorem classEntry?_eq {s : Store} {t : TypeValue} (h : s.classAttrs = [])
    (ht : s.lineage t = empty.lineage t) (name : String) :
    s.classEntry? t name = empty.classEntry? t name := by
  unfold classEntry? entryOf? classAttr?
  rw [h, ht]
  rfl

end Store

namespace Action

variable {s : Store} {v : Value} {b : Behaviour}

theorem runOn_special? (name : String) :
    Effect.runOn (special? v name b) s = (.ok (s.special? (s.typeOf v) name), s) := rfl

/-! ### Attributes -/

theorem runOn_attr (v : Value) (name : String) (s : Store) :
    (attr v name).perform.runOn s =
      Effect.runOn (readAttr v name (Behaviour.level s.innerDepth)) s := by
  rw [runOn_perform, s.depthLimit_eq]
  rfl

theorem runOn_readAttr {r : Ref} (hg : s.special? (s.typeOf (.ref r)) "__getattribute__" = none)
    (hm : s.special? (s.typeOf (.ref r)) "__getattr__" = none) (name : String) :
    Effect.runOn (readAttr (.ref r) name b) s = Effect.runOn (readOwn (.ref r) name b) s := by
  unfold readAttr
  refine (runOn_bind_ok (runOn_special? "__getattribute__") _).trans ?_
  rw [hg]
  refine (runOn_bind_ok (runOn_special? "__getattr__") _).trans ?_
  rw [hm]

/-- An attribute that is missing reads as null. -/
theorem runOn_attrOrNull_missing {name : String} {s' : Store} {e : Ref}
    (h : Effect.runOn (attr v name b) s = (.error (.raised e), s'))
    (he : Effect.isErrorOf .badAttribute s' e = true) :
    Effect.runOn (attrOrNull v name b) s = (.ok .null, s') := by
  have hcaught : Effect.runOn (attr? v name b) s = (.ok none, s') :=
    Effect.runOn_handling (Effect.runOn_map_error some h) he
  exact runOn_bind_ok hcaught _

/-- An attribute that is there. -/
theorem runOn_attrOrNull {name : String} {s' : Store} {x : Value}
    (h : Effect.runOn (attr v name b) s = (.ok x, s')) :
    Effect.runOn (attrOrNull v name b) s = (.ok x, s') := by
  have hread : Effect.runOn (attr? v name b) s = (.ok (some x), s') := by
    unfold attr? handling Effect.handling
    rw [Effect.runOn_tryCatch]
    have hmap : Effect.runOn ((some <$> attr v name : Action (Option Value)) b) s =
        (.ok (some x), s') := Effect.runOn_bind_ok (f := fun x => pure (some x)) h
    rw [hmap]
  exact runOn_bind_ok hread _

/-- The value of a key. -/
theorem runOn_readOwn_slot {a : Ancestor} {owner name key : String} {c : Cell} {x : Value}
    (he : s.classEntry? (s.typeOf v) name = some (a, .value (.slot owner key)))
    (hc : s.cell? v = some c) (hx : c.slots.lookup key = some x) :
    Effect.runOn (readOwn v name b) s = (.ok x, s) := by
  refine (Effect.runOn_bind_ok (Effect.runOn_get s) _).trans ?_
  rw [he]
  change Effect.runOn (Effect.slotValue v key) s = _
  refine (Effect.runOn_bind_ok (Effect.runOn_get s) _).trans ?_
  rw [hc]
  dsimp only
  rw [hx]
  rfl

/-- A text that a class provides. -/
theorem runOn_readOwn_text {a : Ancestor} {name t : String}
    (he : s.classEntry? (s.typeOf v) name = some (a, .value (.text t)))
    (hf : s.field? v name = none) :
    Effect.runOn (readOwn v name b) s = (.ok (.text t), s) := by
  refine (Effect.runOn_bind_ok (Effect.runOn_get s) _).trans ?_
  rw [he, hf]
  rfl

/-- The components of a schema are its types and then its query root, if it has one. -/
theorem runOn_readOwn_components {a : Ancestor} {query types : Value}
    {items : List Value} {fields : Fields}
    (he : s.classEntry? (s.typeOf v) "components" = some (a, .value (.property .components)))
    (hq : (b.attr v "query").runOn s = (.ok query, s))
    (ht : (b.attr v "types").runOn s = (.ok types, s))
    (hc : s.cell? types = some (.tuple .frozen items fields))
    (hm : ∃ m, s.method? types "extended" = some (.function m) ∧ m.body = .extend) :
    Effect.runOn (readOwn v "components" b) s =
      if query = .null then (.ok types, s)
      else (.ok (.ref s.size), (s.alloc (.tuple .frozen (items ++ [query]) (.own []))).2) := by
  refine (Effect.runOn_bind_ok (Effect.runOn_get s) _).trans ?_
  rw [he]
  change Effect.runOn (readProperty v .components b) s = _
  refine (Effect.runOn_bind_ok hq _).trans ?_
  refine (Effect.runOn_bind_ok ht _).trans ?_
  by_cases hn : query = .null
  · rw [if_pos hn]
    subst hn
    rfl
  · rw [if_neg hn]
    obtain ⟨⟨owner, name, body⟩, hm, hb⟩ := hm
    dsimp only at hb
    subst hb
    have hd : (if query = .null then pure types else extended types [query] : Action Value) =
      extended types [query] := if_neg hn
    refine (congrArg (fun act : Action Value => Effect.runOn (act b) s) hd).trans ?_
    refine (Effect.runOn_bind_ok (Effect.runOn_get s) _).trans ?_
    rw [hm, hc]
    rfl

/-! ### Classes -/

theorem runOn_isOf (hc : s.special? (s.typeOf v) "__class__" = none)
    (hg : s.special? (s.typeOf v) "__getattribute__" = none) (t : TypeValue) :
    Effect.runOn (isOf t v b) s = (.ok (s.isSubtype (s.typeOf v) t), s) := by
  have hh : Effect.runOn (hidesClass v b) s = (.ok false, s) := by
    unfold hidesClass
    rw [runOn_bind_ok (runOn_special? "__class__"), hc,
      runOn_bind_ok (runOn_special? "__getattribute__"), hg]
    rfl
  refine (Effect.runOn_bind_ok (Effect.runOn_get s) _).trans ?_
  dsimp only
  by_cases ht : s.isSubtype (s.typeOf v) t = true
  · rw [ht]
    rfl
  · rw [Bool.not_eq_true] at ht
    rw [ht]
    exact runOn_bind_ok hh _

theorem runOn_isOfAny (hc : s.special? (s.typeOf v) "__class__" = none)
    (hg : s.special? (s.typeOf v) "__getattribute__" = none) (types : List TypeValue) :
    Effect.runOn (isOfAny types v b) s = (.ok (types.any (s.isSubtype (s.typeOf v))), s) := by
  induction types with
  | nil => rfl
  | cons t types ih =>
    unfold isOfAny
    rw [runOn_bind_ok (runOn_isOf hc hg t), List.any_cons]
    cases s.isSubtype (s.typeOf v) t with
    | true => rfl
    | false => exact ih

/-! ### Signals -/

/-- An error carries the signal that its attribute holds. -/
theorem runOn_pruneSignal {s' : Store} {signal? : Option Bool} (hs : s'.classAttrs = [])
    (h : Effect.runOn (attrOrNull v "prune" b) s = (.ok (signal?.elim .null .bool), s')) :
    Effect.runOn (pruneSignal v b) s = (.ok signal?, s') := by
  obtain ⟨flag, hflag⟩ : ∃ flag : Value, flag = signal?.elim .null .bool := ⟨_, rfl⟩
  rw [← hflag] at h
  have hspecial (name : String) : s'.special? (s'.typeOf flag) name = none := by
    cases signal? with
    | none | some =>
      rw [hflag]
      exact Store.special?_basic hs _ _
  have hcallable : s'.isCallable flag = false := by
    have hcall := hspecial "__call__"
    cases signal? with
    | none | some =>
      subst hflag
      change (s'.special? _ "__call__").isSome = false
      rw [hcall]
      rfl
  have hbool := runOn_isOf (b := b) (hspecial "__class__") (hspecial "__getattribute__")
    (.basic .bool)
  have hread : Effect.runOn (pruneFlag v b) s = (.ok flag, s') := by
    refine (runOn_bind_ok h _).trans ?_
    refine (Effect.runOn_bind_ok (Effect.runOn_get s') _).trans ?_
    rw [hcallable]
    change Effect.runOn ((isOf (.basic .bool) flag >>= fun isFlag =>
      if isFlag then pure flag else pure .null : Action Value) b) s' = _
    refine (runOn_bind_ok hbool _).trans ?_
    subst hflag
    cases signal? with
    | none | some => rfl
  refine (runOn_bind_ok hread _).trans ?_
  subst hflag
  cases signal? with
  | none | some => rfl

/-! ### Sequences -/

theorem runOn_isTrue (v : Value) (s : Store) :
    (isTrue v).perform.runOn s = Effect.runOn (truth v (Behaviour.level s.innerDepth)) s := by
  rw [runOn_perform, s.depthLimit_eq]
  rfl

theorem runOn_truth (hb : s.special? (s.typeOf v) "__bool__" = none)
    (hl : s.special? (s.typeOf v) "__len__" = none) :
    Effect.runOn (truth v b) s = (.ok (s.isTrue v), s) := by
  unfold truth
  rw [runOn_bind_ok (runOn_special? "__bool__"), hb]
  dsimp only
  rw [runOn_bind_ok (runOn_special? "__len__"), hl]
  rfl

theorem runOn_items {items : List Value}
    (h : Effect.runOn (iterate v (Behaviour.level s.innerDepth)) s = (.ok (some items), s)) :
    (Action.items v).perform.runOn s = (.ok items, s) := by
  have hi : Effect.runOn (items? v (Behaviour.level s.depthLimit)) s = (.ok (some items), s) := by
    rw [s.depthLimit_eq]
    exact h
  rw [runOn_perform]
  exact Effect.runOn_bind_ok hi _

section

variable {r : Ref} {form : TupleForm} {items : List Value} {fields : Fields}

theorem special?_tuple (h : s.classAttrs = []) (hc : s.get? r = some (.tuple form items fields))
    (name : String) : s.special? (s.typeOf (.ref r)) name = none := by
  rw [Store.typeOf_ref hc]
  cases form with
  | plain | frozen | version => exact Store.special?_basic h _ name

theorem runOn_isTrue_tuple (h : s.classAttrs = [])
    (hc : s.get? r = some (.tuple form items fields)) :
    (isTrue (.ref r)).perform.runOn s = (.ok (!items.isEmpty), s) := by
  rw [runOn_isTrue, runOn_truth (special?_tuple h hc _) (special?_tuple h hc _),
    Store.isTrue_ref hc fun _ _ => Cell.noConfusion]
  rfl

theorem runOn_items_tuple (h : s.classAttrs = [])
    (hc : s.get? r = some (.tuple form items fields)) :
    (Action.items (.ref r)).perform.runOn s = (.ok items, s) := by
  have hcell : s.cell? (.ref r) = some (.tuple form items fields) := hc
  have hitems : s.items? (.ref r) = some items := by
    unfold Store.items?
    rw [hcell]
  refine runOn_items ?_
  unfold iterate
  rw [runOn_bind_ok (runOn_special? "__iter__"), special?_tuple h hc]
  refine (Effect.runOn_bind_ok (Effect.runOn_get s) _).trans ?_
  rw [hcell, hitems]
  rfl

theorem runOn_checkSize_tuple (hc : s.get? r = some (.tuple form items fields)) (count : Nat) :
    (checkSize (.ref r) count).perform.runOn s = (.ok (), s) := by
  have hd : s.dict? (.ref r) = none := by
    unfold Store.dict?
    rw [Store.cell?_ref hc]
  rw [runOn_perform]
  refine (Effect.runOn_bind_ok (Effect.runOn_get s) _).trans ?_
  rw [hd]
  rfl

end

end Action

section

variable {keeps : Store → Store → Prop} [IsPreorder Store keeps] {s : Store} {r : Ref}
  {form : TupleForm} {items : List Value} {fields : Fields}

/-- A sequence that is kept shows its items. -/
theorem holds_tuple (h : ∀ s', keeps s s' → s'.classAttrs = [])
    (hc : ∀ s', keeps s s' → s'.get? r = some (.tuple form items fields)) :
    Holds keeps s (.ref r) (.ofItems items) := by
  have htrue : Reads keeps s (Action.isTrue (.ref r)) (!items.isEmpty) := fun s' hk =>
    ⟨s', Action.runOn_isTrue_tuple (h s' hk) (hc s' hk), refl_of keeps s'⟩
  cases items with
  | nil => exact htrue
  | cons x items =>
    refine ⟨htrue, fun s' hk => ?_, fun s' hk => ?_⟩
    · exact ⟨s', Action.runOn_items_tuple (h s' hk) (hc s' hk), refl_of keeps s'⟩
    · exact ⟨s', Action.runOn_checkSize_tuple (hc s' hk) _, refl_of keeps s'⟩

/-- A sequence shows nothing but its items, whatever keeps it. -/
theorem eq_ofItems_of_holds (h : s.classAttrs = [])
    (hc : s.get? r = some (.tuple form items fields)) {shown : Shown}
    (hh : Holds keeps s (.ref r) shown) : shown = .ofItems items := by
  have htrue := Action.runOn_isTrue_tuple h hc
  have hitems := Action.runOn_items_tuple h hc
  cases shown with
  | unreadable =>
    obtain ⟨e, s', he⟩ := hh s (refl_of keeps s)
    rw [htrue] at he
    nomatch he
  | nothing =>
    obtain ⟨s', he, -⟩ := hh s (refl_of keeps s)
    rw [htrue] at he
    cases items with
    | nil => rfl
    | cons => nomatch he
  | unlisted =>
    obtain ⟨e, s', he⟩ := hh.2 s (refl_of keeps s)
    rw [hitems] at he
    nomatch he
  | items elements =>
    obtain ⟨s', he, -⟩ := hh.1 s (refl_of keeps s)
    obtain ⟨s'', he', -⟩ := hh.2.1 s (refl_of keeps s)
    rw [htrue] at he
    rw [hitems] at he'
    cases he'
    cases items with
    | nil => nomatch he
    | cons => rfl

end

end GraphQLTree
