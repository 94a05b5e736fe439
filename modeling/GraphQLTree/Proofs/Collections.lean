import GraphQLTree.Proofs.Description
import GraphQLTree.Proofs.Regular
import GraphQLTree.Proofs.Report

/-! # Describing plain values

Plain values are those without parts and collections of them (`Store.PlainCell`); collections may
hold themselves. Where nothing was assigned to their types (`Store.Untouched`), a value without parts is
described by its written form, cut to size, an empty collection by a text of its own, and any other
one by the descriptions of its items between the brackets of its shape
(`Store.Untouched.runOn_describeCollection`), unless there is no depth left or it is being described
already. What is described is kept: the store gets new cells at most. -/

namespace GraphQLTree

/-- The types of plain values. -/
def plainTypes : List TypeValue :=
  [.basic .null, .basic .bool, .basic .int, .basic .text, .basic .float, .basic .complex,
    .basic .bytes, .basic .buffer, .basic .list, .basic .tuple, .basic .frozen, .basic .dict,
    .basic .set, .basic .frozenSet]

/-- The attributes of types that are looked up when values are described or written. -/
def describingNames : List String :=
  ["__class__", "__getattribute__", "__getattr__", "__inspect__", "__bool__", "__len__", "__repr__",
    "__str__"]

namespace Cell

/-- What a collection holds: its items, and the values of those of a dictionary. -/
def contents (c : Cell) : List Value :=
  match c.collection? with
  | some (_, items) => items.flatMap fun item => item.1 :: item.2.toList
  | none => []

/-- How an empty collection is described. -/
def emptyText : Cell → String
  | .set _ _ => "<empty set>"
  | .tuple .frozen _ _ => "FrozenList([])"
  | c => match c.collection? with
    | some (shape, _) => shape.enclose []
    | none => ""

end Cell

namespace Action

/-- The description of an item of a collection, with its value if it has one. -/
def describePart (limits : Limits) (depth : Nat) (seen : List Ref) :
    Value × Option Value → Action Value
  | (item, none) => describeAt limits depth seen item
  | (key, some value) => do
    let start ← sum (← describeAt limits depth seen key) (.text ": ")
    sum start (← describeAt limits depth seen value)

/-- The description of a collection that is not empty. -/
def describeItems (limits : Limits) (depth : Nat) (seen : List Ref) (r : Ref) (shape : Shape)
    (items : List (Value × Option Value)) : Action Value :=
  match depth with
  | 0 => return .text shape.abbreviated
  | depth + 1 =>
    if seen.contains r then return .text shape.abbreviated
    else do
      let parts ← items.mapM (describePart limits depth (r :: seen))
      encloseAll shape (Text.truncateItems (.text "...") limits.list parts)

end Action

namespace Store

variable {s s' : Store} {r : Ref} {c : Cell} {t : TypeValue} {name : String} {v w : Value}
  {limits : Limits} {shape : Shape} {items : List (Value × Option Value)} {k : Nat}

/-! ### Untouched stores -/

/-- No attributes that descriptions look up were assigned to the types of plain values, nor to what
they are derived from. -/
def Untouched (s : Store) : Prop :=
  ∀ t ∈ plainTypes, ∀ a ∈ empty.lineage t, ∀ name ∈ describingNames, s.classAttr? a.id name = none

theorem untouched_of_classAttrs (h : s.classAttrs = []) : s.Untouched := by
  intro t _ a _ name _
  unfold classAttr?
  rw [h]
  rfl

theorem Untouched.grows (h : s.Untouched) (hs : s.Grows s') : s'.Untouched := by
  intro t ht a ha name hn
  unfold classAttr?
  rw [hs.classAttrs]
  exact h t ht a ha name hn

theorem lineage_plainTypes (s : Store) : ∀ t ∈ plainTypes, s.lineage t = empty.lineage t := by
  simp [plainTypes, lineage]

theorem specialIn?_plainTypes :
    ∀ t ∈ plainTypes, ∀ name ∈ describingNames, empty.specialIn? t name = none := by
  decide +kernel

theorem inspect_plainTypes : ∀ t ∈ plainTypes, empty.classEntry? t "__inspect__" = none := by
  decide +kernel

theorem Untouched.special? (h : s.Untouched) (ht : t ∈ plainTypes) (hn : name ∈ describingNames) :
    s.special? t name = none := by
  have hs : s.specialIn? t name = none := by
    rw [← specialIn?_plainTypes t ht name hn]
    unfold Store.specialIn?
    rw [lineage_plainTypes s t ht]
    refine congrArg Option.join (findSome?_congr fun a ha => ?_)
    rw [h t ht a ha name hn]
    rfl
  unfold Store.special?
  split
  · exact hs
  · rw [hs, ite_self]

theorem Untouched.inspect (h : s.Untouched) (ht : t ∈ plainTypes) :
    s.classEntry? t "__inspect__" = none := by
  rw [← inspect_plainTypes t ht]
  unfold Store.classEntry?
  rw [lineage_plainTypes s t ht]
  refine findSome?_congr fun a ha => ?_
  unfold entryOf?
  rw [h t ht a ha _ (by decide)]
  rfl

/-! ### Plain values -/

/-- A collection or a buffer; a child sequence must not bring a description of its own. -/
def PlainCell (s : Store) : Cell → Prop
  | .buffer _ | .list _ | .tuple .plain _ _ | .dict _ | .set _ _ => True
  | .tuple .frozen _ fields => ∃ attrs, s.Hold attrs fields ∧ attrs.lookup "__inspect__" = none
  | _ => False

theorem Hold.grows {attrs : Attrs} {fields : Fields} (h : s.Hold attrs fields) (hs : s.Grows s') :
    s'.Hold attrs fields := by
  cases fields with
  | own => exact h
  | shared d =>
    obtain ⟨entries, hd, ha⟩ := h
    exact ⟨entries, hs.get?_eq hd, ha⟩

theorem PlainCell.grows (h : s.PlainCell c) (hs : s.Grows s') : s'.PlainCell c := by
  cases c with
  | tuple form =>
    cases form with
    | frozen =>
      obtain ⟨attrs, ha, hn⟩ := h
      exact ⟨attrs, ha.grows hs, hn⟩
    | plain => trivial
    | version => exact h
  | _ => exact h

theorem PlainCell.type_mem (h : s.PlainCell c) : c.type ∈ plainTypes := by
  cases c with
  | tuple form =>
    cases form with
    | version => exact h.elim
    | plain | frozen => simp [Cell.type, plainTypes]
  | set frozen => cases frozen <;> simp [Cell.type, plainTypes]
  | buffer | list | dict => simp [Cell.type, plainTypes]
  | _ => exact h.elim

theorem PlainCell.field? (h : s.PlainCell c) (hc : s.get? r = some c) :
    s.field? (.ref r) "__inspect__" = none := by
  unfold Store.field?
  rw [cell?_ref hc]
  cases c with
  | tuple form items fields =>
    cases form with
    | frozen =>
      obtain ⟨attrs, ha, hn⟩ := h
      change (s.attrsOf fields).lookup _ = none
      rw [ha.attrsOf, hn]
    | plain => rfl
    | version => exact h.elim
  | buffer | list | dict | set => rfl
  | _ => exact h.elim

/-- What a value holds if it is a collection. -/
def contents (s : Store) (v : Value) : List Value :=
  match s.cell? v with
  | some c => c.contents
  | none => []

/-- Whether a value is a collection that holds another one. -/
def Contains (s : Store) (v w : Value) : Prop :=
  w ∈ s.contents v

theorem contains_of_mem (hc : s.get? r = some c) (hi : c.collection? = some (shape, items))
    {item : Value × Option Value} (hmem : item ∈ items) (hw : w = item.1 ∨ item.2 = some w) :
    s.Contains (.ref r) w := by
  unfold Contains contents Cell.contents
  rw [cell?_ref hc]
  dsimp only
  rw [hi]
  refine List.mem_flatMap.mpr ⟨item, hmem, List.mem_cons.mpr (hw.imp id fun hw => ?_)⟩
  rw [hw]
  exact List.mem_singleton.mpr rfl

theorem Contains.lt_size (h : s.Contains v w) : ∃ r, r < s.size ∧ v = .ref r := by
  unfold Contains contents at h
  split at h
  · rename_i c hc
    cases v with
    | ref r => exact ⟨r, lt_size_of_get? hc, rfl⟩
    | _ => nomatch hc
  · nomatch h

theorem contains_grows_iff (hs : s.Grows s') (hc : s.get? r = some c) :
    s'.Contains (.ref r) w ↔ s.Contains (.ref r) w := by
  unfold Contains contents
  rw [cell?_ref hc, cell?_ref (hs.get?_eq hc)]

/-! ### Descriptions without items -/

theorem Untouched.runOn_hidesClass (h : s.Untouched) (ht : s.typeOf v ∈ plainTypes) {b : Behaviour} :
    Effect.runOn (Action.hidesClass v b) s = (.ok false, s) := by
  unfold Action.hidesClass
  rw [Action.runOn_bind_ok (Action.runOn_special? "__class__"), h.special? ht (by decide),
    Action.runOn_bind_ok (Action.runOn_special? "__getattribute__"), h.special? ht (by decide)]
  rfl

/-- A collection provides no description of its own. -/
theorem Untouched.runOn_ownDescription? (h : s.Untouched) (hc : s.get? r = some c)
    (hp : s.PlainCell c) :
    ∃ s', Effect.runOn (Action.ownDescription? (.ref r) (Behaviour.level (k + 1))) s =
      (.ok none, s') ∧ s.Grows s' := by
  have ht : s.typeOf (.ref r) ∈ plainTypes := typeOf_ref hc ▸ hp.type_mem
  have hentry := h.inspect ht
  have hfield := hp.field? hc
  obtain ⟨fault, hfault⟩ :
      ∃ fault, fault = Fault.noAttribute (s.typeName (.ref r)) "__inspect__" := ⟨_, rfl⟩
  obtain ⟨s₁, hs₁⟩ : ∃ s₁, s₁ = (s.alloc (.error (.ofArgs fault.errorClass fault.args))).2 :=
    ⟨_, rfl⟩
  have hmissing : Effect.runOn (Action.attr (.ref r) "__inspect__" (Behaviour.level (k + 1))) s =
      (.error (.raised s.size), s₁) := by
    change Effect.runOn (Action.readAttr (.ref r) "__inspect__" (Behaviour.level k)) s = _
    rw [Action.runOn_readAttr (h.special? ht (by decide)) (h.special? ht (by decide))]
    refine (Effect.runOn_bind_ok (Effect.runOn_get s) _).trans ?_
    rw [hentry, hfield]
    refine (Effect.runOn_bind_ok (Effect.runOn_get s) _).trans ?_
    rw [cell?_ref hc, hs₁, hfault]
    cases c with
    | buffer | list | dict | set | tuple => rfl
    | _ => exact hp.elim
  have hbad : Effect.isErrorOf .badAttribute s₁ s.size = true := by
    have hget : s₁.get? s.size = some (.error (.ofArgs fault.errorClass fault.args)) :=
      hs₁ ▸ get?_alloc s _
    unfold Effect.isErrorOf error?
    rw [cell?_ref hget, hfault]
    rfl
  have hmethod : s.method? (.ref r) "__inspect__" = none := by
    unfold method?
    rw [hfield, hentry]
  refine ⟨s₁, ?_, hs₁ ▸ s.grows_alloc _⟩
  refine (Effect.runOn_bind_ok (Effect.runOn_get s) _).trans ?_
  rw [hmethod]
  exact (Action.runOn_bind_ok (Action.runOn_attrOrNull_missing hmissing hbad) _).trans rfl

theorem PlainCell.isTrue (h : s.PlainCell c) (hi : c.collection? = some (shape, items)) :
    c.isTrue = !items.isEmpty := by
  cases c with
  | list | dict | set | tuple =>
    obtain ⟨rfl, rfl⟩ := Prod.mk.inj (Option.some.inj hi)
    simp [Cell.isTrue]
  | _ => nomatch hi

/-- A collection is described as an empty one or by its items. -/
theorem Untouched.runOn_describeAt (h : s.Untouched) (hc : s.get? r = some c) (hp : s.PlainCell c)
    (hi : c.collection? = some (shape, items)) (depth : Nat) (seen : List Ref) :
    ∃ s', s.Grows s' ∧
      Effect.runOn (Action.describeAt limits depth seen (.ref r) (Behaviour.level (k + 1))) s =
        Effect.runOn ((if items.isEmpty then Action.describeEmpty (.ref r) c
          else Action.describeItems limits depth seen r shape items) (Behaviour.level (k + 1))) s' := by
  have ht : s.typeOf (.ref r) ∈ plainTypes := typeOf_ref hc ▸ hp.type_mem
  have hsimple : s.describeSimple? limits (.ref r) = none := by
    unfold describeSimple?
    rw [cell?_ref hc]
    cases c with
    | list | dict | set | tuple => rfl
    | buffer => nomatch hi
    | _ => exact hp.elim
  have hshown : Effect.runOn (Action.shownSimple? limits (.ref r) (Behaviour.level (k + 1))) s =
      (.ok none, s) := (Action.runOn_bind_ok (h.runOn_hidesClass ht) _).trans rfl
  obtain ⟨s', hown, hg⟩ := h.runOn_ownDescription? (k := k) hc hp
  have hc' := hg.get?_eq hc
  have ht' : s'.typeOf (.ref r) ∈ plainTypes := typeOf_ref hc' ▸ hp.type_mem
  have h' := h.grows hg
  have hcollection : Effect.runOn (Action.collectionOf? (.ref r) (Behaviour.level (k + 1))) s' =
      (.ok (some (shape, items)), s') := by
    refine (Effect.runOn_bind_ok (Effect.runOn_get s') _).trans ?_
    rw [cell?_ref hc', Option.bind_some, hi]
    rfl
  have htrue : Effect.runOn (Action.isTrue (.ref r) (Behaviour.level (k + 1))) s' =
      (.ok (!items.isEmpty), s') := by
    refine (Action.runOn_truth (h'.special? ht' (by decide)) (h'.special? ht' (by decide))).trans ?_
    rw [isTrue_ref hc' (by rintro _ _ rfl; exact hp), hp.isTrue hi]
  refine ⟨s', hg, ?_⟩
  unfold Action.describeAt
  refine (Effect.runOn_bind_ok (Effect.runOn_get s) _).trans ?_
  rw [hsimple]
  refine (Action.runOn_bind_ok hshown _).trans ?_
  refine (Action.runOn_bind_ok hown _).trans ?_
  refine (Action.runOn_bind_ok (Action.runOn_get s') _).trans ?_
  refine (Action.runOn_bind_ok hcollection _).trans ?_
  rw [cell?_ref hc']
  refine (Action.runOn_bind_ok htrue _).trans ?_
  cases items with
  | nil => rfl
  | cons item rest =>
    cases depth with
    | zero => rfl
    | succ depth =>
      have hpart : (fun
          | (item, none) => Action.describeAt limits depth (r :: seen) item
          | (key, some value) => do
            let start ← Action.sum (← Action.describeAt limits depth (r :: seen) key) (.text ": ")
            Action.sum start (← Action.describeAt limits depth (r :: seen) value)) =
          Action.describePart limits depth (r :: seen) := by
        funext item
        rcases item with ⟨v, - | w⟩ <;> rfl
      exact congrArg (fun part : Value × Option Value → Action Value => Effect.runOn
        ((if seen.contains r then return .text shape.abbreviated
          else do
            let parts ← (item :: rest).mapM part
            Action.encloseAll shape (Text.truncateItems (.text "...") limits.list parts) : Action Value)
          (Behaviour.level (k + 1))) s') hpart

/-- A value without parts is described as a simple one. -/
theorem runOn_describeSimple {b : Behaviour} {text : String} (depth : Nat) (seen : List Ref)
    (h : s.describeSimple? limits v = some text) :
    Effect.runOn (Action.describeAt limits depth seen v b) s = (.ok (.text text), s) := by
  unfold Action.describeAt
  refine (Effect.runOn_bind_ok (Effect.runOn_get s) _).trans ?_
  rw [h]
  rfl

/-! ### Empty collections -/

/-- The written form of a plain object is that of its cell. -/
theorem Untouched.runOn_writeIn (h : s.Untouched) (hc : s.get? r = some c) (hp : s.PlainCell c)
    (active : List Ref) (b : Behaviour) :
    Effect.runOn (Action.writeIn active (.ref r) b) s =
      Effect.runOn (Action.writeCell active (.ref r) r c b) s := by
  have hspecial : s.special? (s.typeOf (.ref r)) "__repr__" = none :=
    h.special? (typeOf_ref hc ▸ hp.type_mem) (by decide)
  refine (Action.runOn_bind_ok (Action.runOn_special? "__repr__") _).trans ?_
  rw [hspecial]
  refine (Action.runOn_bind_ok (Action.runOn_get s) _).trans ?_
  rw [cell?_ref hc]

/-- An empty collection is described by a text of its own. -/
theorem Untouched.runOn_describeEmpty (h : s.Untouched) (hc : s.get? r = some c)
    (hp : s.PlainCell c) (hi : c.collection? = some (shape, [])) (depth : Nat) (seen : List Ref) :
    ∃ s', Effect.runOn (Action.describeAt limits depth seen (.ref r) (Behaviour.level (k + 1))) s =
      (.ok (.text c.emptyText), s') ∧ s.Grows s' := by
  obtain ⟨s', hg, hstart⟩ := h.runOn_describeAt hc hp hi depth seen
  have hwritten : Effect.runOn (Action.written (.ref r) (Behaviour.level (k + 1))) s' =
      Effect.runOn (Action.writeCell [] (.ref r) r c (Behaviour.level k)) s' :=
    (h.grows hg).runOn_writeIn (hg.get?_eq hc) (hp.grows hg) [] _
  refine ⟨s', hstart.trans ?_, hg⟩
  change Effect.runOn (Action.describeEmpty (.ref r) c (Behaviour.level (k + 1))) s' = _
  cases c with
  | set => rfl
  | list items | dict items =>
    obtain ⟨rfl, hnil⟩ := Prod.mk.inj (Option.some.inj hi)
    obtain rfl := List.map_eq_nil_iff.mp hnil
    exact (Action.runOn_bind_ok (hwritten.trans rfl) _).trans rfl
  | tuple form items fields =>
    obtain ⟨rfl, hnil⟩ := Prod.mk.inj (Option.some.inj hi)
    obtain rfl := List.map_eq_nil_iff.mp hnil
    cases form with
    | plain | frozen => exact (Action.runOn_bind_ok (hwritten.trans rfl) _).trans rfl
    | version => exact hp.elim
  | _ => nomatch hi

/-! ### Items -/

/-- In every store that grew from this one, a value is described inside of some collections by a text
that `P` holds of. -/
def Described (s₀ : Store) (limits : Limits) (depth : Nat) (seen : List Ref) (k : Nat)
    (P : Value → String → Prop) (v : Value) : Prop :=
  ∀ ⦃s⦄, s₀.Grows s → ∃ text s',
    Effect.runOn (Action.describeAt limits depth seen v (Behaviour.level k)) s =
      (.ok (.text text), s') ∧ s.Grows s' ∧ P v text

/-- The text of an item of a collection, with that of the value that it has. -/
inductive PartText (P : Value → String → Prop) : Value × Option Value → String → Prop
  | item {v : Value} {text : String} : P v text → PartText P (v, none) text
  | entry {key value : Value} {text text' : String} : P key text → P value text' →
      PartText P (key, some value) (text ++ ": " ++ text')

variable {s₀ : Store} {P : Value → String → Prop} {depth : Nat} {seen : List Ref}

theorem runOn_describePart {item : Value × Option Value}
    (h : ∀ w, (w = item.1 ∨ item.2 = some w) → Described s₀ limits depth seen k P w)
    (hg : s₀.Grows s) :
    ∃ text s', Effect.runOn (Action.describePart limits depth seen item (Behaviour.level k)) s =
      (.ok (.text text), s') ∧ s.Grows s' ∧ PartText P item text := by
  obtain ⟨v, value?⟩ := item
  obtain ⟨text, s₁, hrun, hg₁, ht⟩ := h v (.inl rfl) hg
  cases value? with
  | none => exact ⟨text, s₁, hrun, hg₁, .item ht⟩
  | some w =>
    obtain ⟨text', s₂, hrun', hg₂, ht'⟩ := h w (.inr rfl) (trans_of Grows hg hg₁)
    refine ⟨_, s₂, ?_, trans_of Grows hg₁ hg₂, .entry ht ht'⟩
    have hsum (a b : String) (s : Store) : Effect.runOn (Action.sum (.text a) (.text b)
        (Behaviour.level k)) s = (.ok (.text (a ++ b)), s) := rfl
    refine (Action.runOn_bind_ok hrun _).trans ?_
    refine (Action.runOn_bind_ok (hsum _ _ s₁) _).trans ?_
    exact (Action.runOn_bind_ok hrun' _).trans (hsum _ _ s₂)

/-- The items of a collection are described one after the other. -/
theorem runOn_describeParts
    (h : ∀ item ∈ items, ∀ w, (w = item.1 ∨ item.2 = some w) →
      Described s₀ limits depth seen k P w) (hg : s₀.Grows s) :
    ∃ texts s', Effect.runOn ((items.mapM (Action.describePart limits depth seen) :
        Action (List Value)) (Behaviour.level k)) s = (.ok (texts.map .text), s') ∧
      s.Grows s' ∧ List.Forall₂ (PartText P) items texts := by
  induction items generalizing s with
  | nil => exact ⟨[], s, rfl, Grows.refl s, .nil⟩
  | cons item items ih =>
    obtain ⟨hitem, hitems⟩ := List.forall_mem_cons.mp h
    obtain ⟨text, s₁, hrun₁, hg₁, ht⟩ := runOn_describePart hitem hg
    obtain ⟨texts, s', hrun, hg', hts⟩ := ih hitems (trans_of Grows hg hg₁)
    refine ⟨text :: texts, s', ?_, trans_of Grows hg₁ hg', .cons ht hts⟩
    rw [List.mapM_cons]
    refine (Action.runOn_bind_ok hrun₁ _).trans ?_
    exact (Action.runOn_bind_ok hrun _).trans rfl

/-! ### Collections -/

theorem Untouched.runOn_text_text (h : s.Untouched) (t : String) :
    Effect.runOn (Action.text (.text t) (Behaviour.level (k + 1))) s = (.ok t, s) := by
  have hspecial : s.special? (s.typeOf (.text t)) "__str__" = none :=
    h.special? (t := .basic .text) (by decide) (by decide)
  refine (Action.runOn_bind_ok (Action.runOn_special? "__str__") _).trans ?_
  rw [hspecial]
  rfl

theorem filterMap_text (texts : List String) :
    (texts.map Value.text).filterMap (fun
      | .text t => some t
      | _ => none) = texts := by
  induction texts with
  | nil => rfl
  | cons t texts ih => exact congrArg (t :: ·) ih

/-- Texts are joined between the brackets of a shape. -/
theorem runOn_encloseTexts (shape : Shape) (texts : List String) (b : Behaviour) :
    Effect.runOn ((do
      let _ ← Action.joinTexts ", " (texts.map .text)
      return .text (shape.enclose ((texts.map Value.text).filterMap fun
        | .text t => some t
        | _ => none)) : Action Value) b) s = (.ok (.text (shape.enclose texts)), s) := by
  rw [filterMap_text]
  exact Action.runOn_bind_ok (Action.runOn_joinTexts ", " texts) _

theorem Untouched.runOn_encloseAll (h : s.Untouched) (shape : Shape) (texts : List String) :
    Effect.runOn (Action.encloseAll shape (texts.map .text) (Behaviour.level (k + 1))) s =
      (.ok (.text (shape.enclose texts)), s) := by
  have hjoin := runOn_encloseTexts (s := s) shape texts (Behaviour.level (k + 1))
  cases shape with
  | list | braces => exact hjoin
  | tuple =>
    rcases texts with - | ⟨t, - | ⟨t', texts⟩⟩
    · exact hjoin
    · exact Action.runOn_bind_ok (h.runOn_text_text t) _
    · exact hjoin

theorem truncateItems_map {α β : Type} (f : α → β) (ellipsis : α) (limit : Int) (xs : List α) :
    Text.truncateItems (f ellipsis) limit (xs.map f) =
      (Text.truncateItems ellipsis limit xs).map f := by
  unfold Text.truncateItems
  rw [List.length_map]
  split <;> simp [upTo, startingAt]

/-- A collection is described by its items between the brackets of its shape, where too many of them
are cut. -/
theorem Untouched.runOn_describeCollection (h : s.Untouched) (hc : s.get? r = some c)
    (hp : s.PlainCell c) (hi : c.collection? = some (shape, items)) (hne : items ≠ [])
    (hr : r ∉ seen)
    (hitems : ∀ w, s.Contains (.ref r) w → Described s limits depth (r :: seen) (k + 1) P w) :
    ∃ texts s', Effect.runOn (Action.describeAt limits (depth + 1) seen (.ref r)
        (Behaviour.level (k + 1))) s =
      (.ok (.text (shape.enclose (Text.truncateList limits.list texts))), s') ∧ s.Grows s' ∧
      List.Forall₂ (PartText P) items texts := by
  obtain ⟨s₁, hg₁, hstart⟩ :=
    h.runOn_describeAt hc hp hi (depth + 1) seen
  obtain ⟨texts, s', hrun, hg', ht⟩ := runOn_describeParts
    (fun item (hmem : item ∈ items) w hw => hitems w (contains_of_mem hc hi hmem hw)) hg₁
  refine ⟨texts, s', ?_, trans_of Grows hg₁ hg', ht⟩
  rw [hstart, if_neg (by simpa using hne)]
  unfold Action.describeItems
  dsimp only
  rw [if_neg (by simpa using hr)]
  refine (Action.runOn_bind_ok hrun _).trans ?_
  rw [truncateItems_map]
  exact (h.grows (trans_of Grows hg₁ hg')).runOn_encloseAll shape _

/-- A collection is abbreviated where there is no depth left or it is being described already. -/
theorem Untouched.runOn_describeAbbreviated (h : s.Untouched) (hc : s.get? r = some c)
    (hp : s.PlainCell c) (hi : c.collection? = some (shape, items)) (hne : items ≠ [])
    (hr : depth = 0 ∨ r ∈ seen) :
    ∃ s', Effect.runOn (Action.describeAt limits depth seen (.ref r) (Behaviour.level (k + 1))) s =
      (.ok (.text shape.abbreviated), s') ∧ s.Grows s' := by
  obtain ⟨s₁, hg₁, hstart⟩ := h.runOn_describeAt hc hp hi depth seen
  refine ⟨s₁, ?_, hg₁⟩
  rw [hstart, if_neg (by simpa using hne)]
  unfold Action.describeItems
  cases depth with
  | zero => rfl
  | succ depth =>
    have hseen : seen.contains r = true := List.contains_iff_mem.mpr (hr.resolve_left (by simp))
    dsimp only
    rw [if_pos hseen]
    rfl

end Store
end GraphQLTree
