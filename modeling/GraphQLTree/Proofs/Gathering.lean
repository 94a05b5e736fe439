import GraphQLTree.Proofs.Report
import GraphQLTree.Proofs.Regular

/-! # Going through arguments

The argument for the key of a sequence may be anything that can be gone through, and going through it
may change what is left of an iteration. So the items that a new node keeps are told by what happens:
the arguments are gone through one after the other (`Store.Gathers`), and nothing else happens to the
nodes and child sequences of the store (`Store.KeepsNodes`). -/

namespace GraphQLTree

/-! ### Stores that keep their nodes -/

namespace Store

/-- A store that keeps its nodes and tuples, and makes no nodes. The cells in `out` may be others. -/
structure KeepsNodes (out : Ref → Prop) (s s' : Store) : Prop where
  size : s.size ≤ s'.size
  classAttrs : s'.classAttrs = s.classAttrs
  node : ∀ {r n}, ¬ out r → (s'.get? r = some (.node n) ↔ s.get? r = some (.node n))
  tuple : ∀ {r form items fields}, ¬ out r → s.get? r = some (.tuple form items fields) →
    s'.get? r = some (.tuple form items fields)

/-- No cell at all. -/
def nowhere (_ : Ref) : Prop := False

namespace KeepsNodes

variable {s s' s'' : Store} {out out' : Ref → Prop} {r t : Ref} {c : Cell} {items : List Value}

theorem refl (out : Ref → Prop) (s : Store) : s.KeepsNodes out s :=
  ⟨Nat.le_refl _, rfl, fun _ => Iff.rfl, fun _ hc => hc⟩

theorem trans (h : s.KeepsNodes out s') (h' : s'.KeepsNodes out s'') : s.KeepsNodes out s'' where
  size := Nat.le_trans h.size h'.size
  classAttrs := h'.classAttrs.trans h.classAttrs
  node hr := (h'.node hr).trans (h.node hr)
  tuple hr hc := h'.tuple hr (h.tuple hr hc)

theorem mono (h : s.KeepsNodes out s') (ho : ∀ {r}, out r → out' r) : s.KeepsNodes out' s' where
  size := h.size
  classAttrs := h.classAttrs
  node hr := h.node fun hout => hr (ho hout)
  tuple hr := h.tuple fun hout => hr (ho hout)

theorem of_nowhere (h : s.KeepsNodes nowhere s') : s.KeepsNodes out s' :=
  h.mono False.elim

theorem frozen?_eq (h : s.KeepsNodes out s') (ht : ¬ out t) (hi : s.frozen? (.ref t) = some items) :
    s'.frozen? (.ref t) = some items := by
  obtain ⟨t', ht', hc⟩ := frozen?_some hi
  cases ht'
  unfold frozen?
  rw [cell?_ref (h.tuple ht hc)]

end KeepsNodes

variable {s s' s'' : Store} {r : Ref} {c : Cell} {k : Nat}

/-- A new cell is outside of the store before. -/
theorem keepsNodes_alloc_new (s : Store) (c : Cell) :
    s.KeepsNodes (· = s.size) (s.alloc c).2 where
  size := by simp
  classAttrs := rfl
  node {q n} hq := by
    by_cases hlt : q < s.size
    · rw [get?_alloc_of_lt s c hlt]
    · have hold : s.get? q ≠ some (.node n) := fun h => hlt (lt_size_of_get? h)
      refine ⟨fun h => ?_, fun h => absurd h hold⟩
      have hsize := lt_size_of_get? h
      rw [size_alloc] at hsize
      exact absurd (Nat.le_antisymm (Nat.lt_succ_iff.mp hsize) (Nat.not_lt.mp hlt)) hq
  tuple _ hc := (s.grows_alloc _).get?_eq hc

theorem keepsNodes_alloc (s : Store) (hc : ∀ n, c ≠ .node n) :
    s.KeepsNodes nowhere (s.alloc c).2 where
  size := by simp
  classAttrs := rfl
  node {q n} _ := by
    by_cases hq : q = s.size
    · subst hq
      have hold : s.get? s.size ≠ some (.node n) := fun h => Nat.lt_irrefl _ (lt_size_of_get? h)
      have hnew : (s.alloc c).2.get? s.size = some c := get?_alloc s c
      rw [hnew]
      exact ⟨fun h => absurd (Option.some.inj h) (hc n), fun h => absurd h hold⟩
    · exact (keepsNodes_alloc_new s c).node hq
  tuple _ hc := (s.grows_alloc _).get?_eq hc

theorem keepsNodes_put (s : Store) (r : Ref) (c : Cell) : s.KeepsNodes (· = r) (s.put r c) where
  size := by simp
  classAttrs := rfl
  node hq := by rw [get?_put_ne s c (Ne.symm hq)]
  tuple hq hc := by rwa [get?_put_ne s c (Ne.symm hq)]

/-- A tuple is a new one, or an old one without items. -/
theorem runOn_tuple (s : Store) (xs : List Value) :
    ∃ t s' fields, Effect.runOn (Effect.tuple xs) s = (.ok (.ref t), s') ∧ s.Grows s' ∧
      s.KeepsNodes nowhere s' ∧ s'.get? t = some (.tuple .plain xs fields) := by
  have halloc : ∃ t s' fields,
      Effect.runOn (Effect.alloc (.tuple .plain xs (.own []))) s = (.ok (.ref t), s') ∧
        s.Grows s' ∧ s.KeepsNodes nowhere s' ∧ s'.get? t = some (.tuple .plain xs fields) :=
    ⟨_, _, _, rfl, s.grows_alloc _, keepsNodes_alloc s (by simp), get?_alloc s _⟩
  have hrun : Effect.runOn (Effect.tuple xs) s = _ := Effect.runOn_bind_ok (Effect.runOn_get s) _
  rw [hrun]
  dsimp only
  split
  · rename_i r hfound
    have hcell := Array.of_findIdx?_eq_some hfound
    split at hcell
    · rename_i cell hget
      split at hcell
      · rename_i fields
        exact ⟨r, s, fields, rfl, Grows.refl s, .refl _ s, hget⟩
      · cases hcell
    · cases hcell
  · exact halloc

end Store

/-! ### The items of an argument -/

/-- The items that are kept for the argument for the key of a sequence: none if it is false. -/
def Action.gathered (v : Value) : Action (List Value) := do
  if ← isTrue v then items v else return []

/-- The argument for a key; null if there is none. -/
def Attrs.given (args : Attrs) (key : String) : Value :=
  (args.lookup key).getD .null

namespace Store

variable {s s' s'' : Store} {r t : Ref} {c : Cell} {k : Nat} {v : Value} {items : List Value}

/-- The items that were gathered are kept in a new child sequence. -/
theorem runOn_freeze {b : Behaviour} (h : Effect.runOn (Action.gathered v b) s = (.ok items, s')) :
    Effect.runOn (Action.freeze v b) s =
      (.ok (.ref s'.size), (s'.alloc (.tuple .frozen items (.own []))).2) := by
  obtain ⟨isTrue, s₁, htrue, hitems⟩ := Effect.bind_ok_iff.mp h
  refine (Action.runOn_bind_ok htrue _).trans ?_
  cases isTrue with
  | false =>
    obtain ⟨hi, rfl⟩ := Prod.mk.inj hitems
    obtain rfl := Except.ok.inj hi
    rfl
  | true => exact (Action.runOn_bind_ok hitems _).trans rfl

theorem sequence?_some (h : s.sequence? v = some items) :
    ∃ t c, v = .ref t ∧ s.get? t = some c ∧
      (c = .list items ∨ ∃ form fields, c = .tuple form items fields) := by
  cases v with
  | ref t =>
    unfold sequence? at h
    split at h
    · rename_i xs hc
      cases h
      exact ⟨t, _, rfl, hc, .inl rfl⟩
    · rename_i form xs fields hc
      cases h
      exact ⟨t, _, rfl, hc, .inr ⟨form, fields, rfl⟩⟩
    · cases h
  | _ => cases h

theorem sequence?_tuple {form : TupleForm} {fields : Fields}
    (hc : s.get? t = some (.tuple form items fields)) : s.sequence? (.ref t) = some items := by
  unfold sequence?
  rw [cell?_ref hc]

theorem Grows.sequence?_eq (hg : s.Grows s') (h : s.sequence? v = some items) :
    s'.sequence? v = some items := by
  obtain ⟨t, c, rfl, hc, hform⟩ := sequence?_some h
  unfold sequence?
  rw [cell?_ref (hg.get?_eq hc)]
  rcases hform with rfl | ⟨form, fields, rfl⟩ <;> rfl

/-- Lists and tuples have no ways of their own. -/
theorem special?_sequence (h : s.classAttrs = []) (hi : s.sequence? v = some items) (name : String) :
    s.special? (s.typeOf v) name = none := by
  obtain ⟨t, c, rfl, hc, rfl | ⟨form, fields, rfl⟩⟩ := sequence?_some hi
  · rw [typeOf_ref hc]
    exact special?_basic h _ name
  · exact Action.special?_tuple h hc name

theorem runOn_items?_sequence (h : s.classAttrs = []) (hi : s.sequence? v = some items) :
    Effect.runOn (Action.items? v (Behaviour.level (k + 1))) s = (.ok (some items), s) := by
  refine (Action.runOn_bind_ok (Action.runOn_special? "__iter__") _).trans ?_
  rw [special?_sequence h hi]
  refine (Effect.runOn_bind_ok (Effect.runOn_get s) _).trans ?_
  obtain ⟨t, c, rfl, hc, rfl | ⟨form, fields, rfl⟩⟩ := sequence?_some hi <;>
  · unfold items?
    rw [cell?_ref hc]
    rfl

theorem runOn_items_sequence (h : s.classAttrs = []) (hi : s.sequence? v = some items) :
    Effect.runOn (Action.items v (Behaviour.level (k + 1))) s = (.ok items, s) :=
  Action.runOn_bind_ok (runOn_items?_sequence h hi) _

/-- What an argument for the key of a sequence gives without any change: null gives no items, and a
list or a tuple gives its items. -/
def Supplies (s : Store) (v : Value) (items : List Value) : Prop :=
  (v = .null ∧ items = []) ∨ s.sequence? v = some items

theorem Grows.supplies (hg : s.Grows s') (h : s.Supplies v items) : s'.Supplies v items :=
  h.imp_right hg.sequence?_eq

theorem runOn_gathered (h : s.classAttrs = []) (hv : s.Supplies v items) :
    Effect.runOn (Action.gathered v (Behaviour.level (k + 1))) s = (.ok items, s) := by
  rcases hv with ⟨rfl, rfl⟩ | hi
  · have htrue : Effect.runOn (Action.isTrue .null (Behaviour.level (k + 1))) s = (.ok false, s) :=
      Action.runOn_truth (special?_basic h .null _) (special?_basic h .null _)
    exact Action.runOn_bind_ok htrue _
  · have htrue : Effect.runOn (Action.isTrue v (Behaviour.level (k + 1))) s =
        (.ok (!items.isEmpty), s) := by
      refine (Action.runOn_truth (special?_sequence h hi _) (special?_sequence h hi _)).trans ?_
      obtain ⟨t, c, rfl, hc, rfl | ⟨form, fields, rfl⟩⟩ := sequence?_some hi <;>
      · rw [isTrue_ref hc fun _ _ => Cell.noConfusion]
        rfl
    refine (Action.runOn_bind_ok htrue _).trans ?_
    cases items with
    | nil => rfl
    | cons => exact runOn_items_sequence h hi

/-! ### Several arguments, one after the other -/

/-- How deeply operations can be used by a method at least. -/
def ampleDepth : Nat := 990

/-- Arguments that can be gone through at any time while a node is made at `r`, whatever was gone
through before. `P` is what stays true of the store meanwhile. -/
structure Gatherable (P : Store → Prop) (r : Ref) (k : Nat) (s : Store) (vs : List Value) : Prop where
  start : P s
  keep : ∀ {s₁ s₂}, P s₁ → s₁.KeepsBut r s₂ → P s₂
  gather : ∀ {v s₁}, v ∈ vs → P s₁ → ∃ items s₂,
    Effect.runOn (Action.gathered v (Behaviour.level k)) s₁ = (.ok items, s₂) ∧
      s₁.KeepsNodes nowhere s₂ ∧ P s₂

/-- The arguments for some keys are gone through one after the other, with these items. In between the
store gets new cells at most, and a node is changed at `r`. -/
inductive Gathers (r : Ref) (args : Attrs) (k : Nat) : Store → List (String × List Value) → Store → Prop
  | done {s s' : Store} : s.KeepsBut r s' → Gathers r args k s [] s'
  | next {s s₁ s₂ s' : Store} {key : String} {items : List Value}
      {rest : List (String × List Value)} : s.KeepsBut r s₁ →
      Effect.runOn (Action.gathered (args.given key) (Behaviour.level k)) s₁ = (.ok items, s₂) →
      Gathers r args k s₂ rest s' → Gathers r args k s ((key, items) :: rest) s'

theorem Gathers.after {args : Attrs} {taken : List (String × List Value)} (hs : s.KeepsBut r s')
    (h : Gathers r args k s' taken s'') : Gathers r args k s taken s'' := by
  cases h with
  | done hk => exact .done (hs.trans hk)
  | next hk hrun hrest => exact .next (hs.trans hk) hrun hrest

theorem Gathers.congr {args args' : Attrs} {taken : List (String × List Value)}
    (h : Gathers r args k s taken s') (ha : ∀ e ∈ taken, args.given e.1 = args'.given e.1) :
    Gathers r args' k s taken s' := by
  induction h with
  | done hk => exact .done hk
  | next hk hrun _ ih =>
    obtain ⟨hkey, ha⟩ := List.forall_mem_cons.mp ha
    exact .next hk (hkey ▸ hrun) (ih ha)

/-- Where all arguments are null, lists and tuples, nothing but the node is changed. -/
theorem Gathers.supplies {args : Attrs} {taken : List (String × List Value)} (hs : s.classAttrs = [])
    (hr : s.size ≤ r) (h : Gathers r args (k + 1) s' taken s'') (hg : s.Grows s')
    (ht : ∀ e ∈ taken, ∃ items, s.Supplies (args.given e.1) items) :
    s.Grows s'' ∧ ∀ e ∈ taken, s.Supplies (args.given e.1) e.2 := by
  induction taken generalizing s' with
  | nil =>
    cases h with
    | done hk => exact ⟨hg.trans_keepsBut hk hr, by simp⟩
  | cons e taken ih =>
    cases h with
    | @next _ s₁ s₂ _ key items _ hk hrun hrest =>
      obtain ⟨⟨items', hv⟩, hall⟩ := List.forall_mem_cons.mp ht
      have hg₁ := hg.trans_keepsBut hk hr
      have hrun' := runOn_gathered (k := k) (hg₁.classAttrs.trans hs) (hg₁.supplies hv)
      rw [hrun'] at hrun
      obtain ⟨hi, rfl⟩ := Prod.mk.inj hrun
      obtain rfl := Except.ok.inj hi
      obtain ⟨hg', hall'⟩ := ih hrest hg₁ hall
      exact ⟨hg', List.forall_mem_cons.mpr ⟨hv, hall'⟩⟩

/-- Null, lists and tuples can be gone through at any time, without any change. -/
theorem gatherable_of_supplies {vs : List Value} (h : s.classAttrs = []) (hr : s.size ≤ r)
    (hv : ∀ v ∈ vs, ∃ items, s.Supplies v items) : Gatherable s.Grows r (k + 1) s vs where
  start := .refl s
  keep hP hk := hP.trans_keepsBut hk hr
  gather {v s₁} hmem hP := by
    obtain ⟨items, hi⟩ := hv v hmem
    exact ⟨items, s₁, runOn_gathered (hP.classAttrs.trans h) (hP.supplies hi), .refl _ s₁, hP⟩

end Store
end GraphQLTree
