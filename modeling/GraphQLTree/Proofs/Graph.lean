import GraphQLTree.Proofs.Regular
import Mathlib.Data.List.NodupEquivFin
import Mathlib.Logic.Relation

/-! # Graphs of nodes

Nodes and child sequences make up a graph: edges lead from a node to the values of its keys, and from
a child sequence to its items (`Store.step?`, `Store.follow`). Where no path leads back to where it
started, the graph is not higher than there are cells in the store (`Tall.of_acyclic`), so it can be
gone through by operations that are used by each other to a depth that grows with the store. -/

namespace GraphQLTree

/-! ### Heights -/

/-- Where `child` tells what values hold, a value is less than so many levels high. -/
def Tall (child : Value → Value → Prop) : Nat → Value → Prop
  | 0, _ => False
  | d + 1, x => ∀ y, child x y → Tall child d y

namespace Tall

variable {child : Value → Value → Prop} {d : Nat} {x y : Value}

theorem mono {d' : Nat} (hd : d ≤ d') (h : Tall child d x) : Tall child d' x := by
  induction d generalizing x d' with
  | zero => exact h.elim
  | succ d ih =>
    obtain ⟨d', rfl⟩ : ∃ k, d' = k + 1 := ⟨d' - 1, by omega⟩
    exact fun y hy => ih (by omega) (h y hy)

theorem reach (h : Tall child d x) (hr : Relation.ReflTransGen child x y) : Tall child d y := by
  induction hr with
  | refl => exact h
  | tail _ hc ih =>
    obtain ⟨d, rfl⟩ : ∃ k, d = k + 1 := by
      cases d with
      | zero => exact ih.elim
      | succ d => exact ⟨d, rfl⟩
    exact (ih _ hc).mono (Nat.le_succ d)

/-- A value with a height is not below itself. -/
theorem acyclic (h : Tall child d x) : ¬ Relation.TransGen child x x := by
  induction d generalizing x with
  | zero => exact h.elim
  | succ d ih =>
    intro hcycle
    obtain ⟨y, hxy, hyx⟩ := Relation.TransGen.head'_iff.mp hcycle
    exact ih (h y hxy) (Relation.TransGen.tail' hyx hxy)

/-- A value leads to no cycle where nothing that it holds does. -/
theorem acyclic_of_children
    (h : ∀ y, child x y → ∀ z, Relation.ReflTransGen child y z → ¬ Relation.TransGen child z z)
    (z : Value) (hz : Relation.ReflTransGen child x z) : ¬ Relation.TransGen child z z := by
  intro hcycle
  rcases Relation.ReflTransGen.cases_head hz with rfl | ⟨y, hxy, hyz⟩
  · obtain ⟨y, hxy, hyx⟩ := Relation.TransGen.head'_iff.mp hcycle
    exact h y hxy x hyx hcycle
  · exact h y hxy z hyz hcycle

/-- The values above a value that is no cycle's part are different cells, so there are no more levels
than cells. -/
theorem of_ancestors {size : Nat} (hsize : ∀ x y, child x y → ∃ r, r < size ∧ x = .ref r)
    {ancestors : List Ref} (hn : ancestors.Nodup) (hlt : ∀ r ∈ ancestors, r < size)
    (habove : ∀ r ∈ ancestors, Relation.TransGen child (.ref r) x)
    (hx : ∀ y, Relation.ReflTransGen child x y → ¬ Relation.TransGen child y y)
    (hd : size < d + ancestors.length) : Tall child d x := by
  induction d generalizing x ancestors with
  | zero =>
    have hsub : ancestors ⊆ List.range size := fun r hr => List.mem_range.mpr (hlt r hr)
    have hle := (List.subperm_of_subset hn hsub).length_le
    rw [List.length_range] at hle
    omega
  | succ d ih =>
    intro y hy
    obtain ⟨r, hr, rfl⟩ := hsize x y hy
    have hnew : r ∉ ancestors := fun hmem => hx _ .refl (habove r hmem)
    refine ih (List.nodup_cons.mpr ⟨hnew, hn⟩) (List.forall_mem_cons.mpr ⟨hr, hlt⟩)
      (List.forall_mem_cons.mpr ⟨.single hy, fun q hq => (habove q hq).tail hy⟩)
      (fun z hz => hx z (.head hy hz)) ?_
    rw [List.length_cons]
    omega

theorem of_acyclic {size : Nat} (hsize : ∀ x y, child x y → ∃ r, r < size ∧ x = .ref r)
    (hx : ∀ y, Relation.ReflTransGen child x y → ¬ Relation.TransGen child y y) : Tall child (size + 1) x :=
  of_ancestors hsize List.nodup_nil nofun nofun hx (Nat.lt_succ_self size)

end Tall

/-! ### Paths -/

/-- What leads from an object to a value that it holds: a key of a node, or a place in a child
sequence. -/
inductive Edge
  | key (name : String)
  | item (place : Nat)

/-- A value at the end of all paths: null, a truth value, a whole number, a text or an operation
type. -/
def Value.isLeaf : Value → Bool
  | null | bool _ | int _ | text _ | operation _ => true
  | _ => false

namespace Store

variable {s s' : Store} {v x y : Value}

theorem frozen?_grows {items : List Value} (hs : s.Grows s') (h : s.frozen? v = some items) :
    s'.frozen? v = some items :=
  hs.keepsTrees.frozen?_eq h

/-- The value that an edge leads to. -/
def step? (s : Store) (v : Value) : Edge → Option Value
  | .key name =>
    (s.node? v).bind fun n => if name ∈ n.cls.keys then n.slots.lookup name else none
  | .item place => (s.frozen? v).bind (·[place]?)

/-- The value that a path leads to. -/
def follow (s : Store) (v : Value) : List Edge → Option Value
  | [] => some v
  | e :: path => (s.step? v e).bind (s.follow · path)

/-- Whether an edge leads from a value to another one. -/
def Child (s : Store) (x y : Value) : Prop :=
  ∃ e, s.step? x e = some y

theorem follow_append (s : Store) (v : Value) (path more : List Edge) :
    s.follow v (path ++ more) = (s.follow v path).bind (s.follow · more) := by
  induction path generalizing v with
  | nil => rfl
  | cons e path ih =>
    change (s.step? v e).bind _ = ((s.step? v e).bind _).bind _
    rw [Option.bind_assoc]
    exact congrArg _ (funext fun x => ih x)

theorem follow_snoc {path : List Edge} {e : Edge} (hx : s.follow v path = some x)
    (hy : s.step? x e = some y) : s.follow v (path ++ [e]) = some y := by
  rw [follow_append, hx]
  change (s.step? x e).bind _ = _
  rw [hy]
  rfl

/-- No edge leads on from a leaf. -/
theorem step?_leaf (hv : v.isLeaf = true) (e : Edge) : s.step? v e = none := by
  cases v with
  | null | bool | int | text | operation => cases e <;> rfl
  | _ => nomatch hv

theorem follow_leaf (hv : v.isLeaf = true) {path : List Edge} :
    s.follow v path = some x ↔ path = [] ∧ v = x := by
  cases path with
  | nil => simp [follow]
  | cons e path => simp [follow, step?_leaf hv]

theorem RegularNode.step? {r : Ref} {n : NodeObject} {key : String} (h : s.RegularNode r n)
    (hk : key ∈ n.cls.keys) (hx : n.slots.lookup key = some x) :
    s.step? (.ref r) (.key key) = some x := by
  change (s.node? (.ref r)).bind _ = _
  rw [h.node?, Option.bind_some, if_pos hk, hx]

theorem exists_item {items : List Value} (hv : s.frozen? v = some items) (hx : x ∈ items) :
    ∃ place, s.step? v (.item place) = some x := by
  obtain ⟨i, hi, rfl⟩ := List.mem_iff_getElem.mp hx
  refine ⟨i, ?_⟩
  change (s.frozen? v).bind _ = _
  rw [hv, Option.bind_some, List.getElem?_eq_getElem hi]

/-- Only cells hold values. -/
theorem Child.lt_size (h : s.Child x y) : ∃ r, r < s.size ∧ x = .ref r := by
  obtain ⟨e, he⟩ := h
  cases e with
  | key name =>
    obtain ⟨n, hn, -⟩ := Option.bind_eq_some_iff.mp he
    obtain ⟨r, rfl, hc⟩ := node?_some hn
    exact ⟨r, lt_size_of_get? hc, rfl⟩
  | item place =>
    obtain ⟨items, hi, -⟩ := Option.bind_eq_some_iff.mp he
    obtain ⟨t, rfl, hc⟩ := frozen?_some hi
    exact ⟨t, lt_size_of_get? hc, rfl⟩

theorem exists_follow (h : Relation.ReflTransGen s.Child x y) :
    ∃ path, s.follow x path = some y := by
  induction h with
  | refl => exact ⟨[], rfl⟩
  | tail _ hc ih =>
    obtain ⟨path, hp⟩ := ih
    obtain ⟨e, he⟩ := hc
    exact ⟨path ++ [e], follow_snoc hp he⟩

/-! ### Graphs -/

/-- What a graph of nodes is made of: leaves, nodes with values for all of their keys and child
sequences for those of sequences, and child sequences. -/
inductive Element (s : Store) : Value → Prop
  | leaf {v : Value} : v.isLeaf = true → Element s v
  | node {r : Ref} {n : NodeObject} : s.RegularNode r n →
      (∀ key ∈ n.cls.keys, ∃ x, n.slots.lookup key = some x) →
      (∀ key ∈ n.cls.sequenceKeys, ∃ x items,
        n.slots.lookup key = some x ∧ s.frozen? x = some items) → Element s (.ref r)
  | sequence {v : Value} {items : List Value} : s.frozen? v = some items → Element s v

/-- A graph of nodes without cycles, seen from one of its values. Values may be reached by many
paths. -/
structure Graph (s : Store) (v : Value) : Prop where
  element : ∀ {path x}, s.follow v path = some x → s.Element x
  acyclic : ∀ {path x cycle}, s.follow v path = some x → s.follow x cycle = some x → cycle = []

namespace Graph

theorem of_follow (h : s.Graph v) {path : List Edge} (hx : s.follow v path = some x) :
    s.Graph x := by
  have hfollow {more : List Edge} {y : Value} (hy : s.follow x more = some y) :
      s.follow v (path ++ more) = some y := by
    rw [follow_append, hx]
    exact hy
  exact ⟨fun hy => h.element (hfollow hy), fun hy hc => h.acyclic (hfollow hy) hc⟩

/-- What a graph starts with is one of its values. -/
theorem root (h : s.Graph v) : s.Element v :=
  h.element (show s.follow v [] = some v from rfl)

theorem of_step (h : s.Graph v) {e : Edge} (hx : s.step? v e = some x) : s.Graph x :=
  h.of_follow (follow_snoc (show s.follow v [] = some v from rfl) hx)

/-- A graph is not higher than there are cells. -/
theorem tall (h : s.Graph v) : Tall s.Child (s.size + 1) v := by
  refine Tall.of_acyclic (fun _ _ => Child.lt_size) fun x hx hcycle => ?_
  obtain ⟨path, hp⟩ := exists_follow hx
  obtain ⟨y, hxy, hyx⟩ := Relation.TransGen.head'_iff.mp hcycle
  obtain ⟨e, he⟩ := hxy
  obtain ⟨more, hm⟩ := exists_follow hyx
  have hback : s.follow x (e :: more) = some x := by
    change (s.step? x e).bind _ = _
    rw [he]
    exact hm
  exact List.cons_ne_nil _ _ (h.acyclic hp hback)

end Graph
/-! ### Stores that are built up -/

/-- Whether a value is a leaf or was made before a cell. -/
def isMadeBefore (r : Ref) : Value → Bool
  | .ref q => q < r
  | v => v.isLeaf

/-- Whether a cell is part of a graph whose values were made before it. -/
def isBuilt (s : Store) (r : Ref) : Cell → Bool
  | .node n =>
    NodeClass.library.contains n.cls && n.fields == .own [] &&
    n.cls.keys.all (fun key => (n.slots.lookup key).any (isMadeBefore r)) &&
    n.cls.sequenceKeys.all fun key => ((n.slots.lookup key).bind s.frozen?).isSome
  | .tuple .frozen items (.own []) => items.all (isMadeBefore r)
  | _ => false

/-- Whether a store is made of graphs whose values were made one after the other. -/
def isBuiltUp (s : Store) : Bool :=
  (List.range s.size).all fun r => (s.get? r).any (s.isBuilt r)

theorem isBuilt_of_isBuiltUp (h : s.isBuiltUp = true) {r : Ref} (hr : r < s.size) :
    ∃ c, s.get? r = some c ∧ s.isBuilt r c = true := by
  have hall := List.all_eq_true.mp h r (List.mem_range.mpr hr)
  exact (Option.any_eq_true _ _).mp hall

theorem element_of_isBuilt (hs : s.classAttrs = []) {r : Ref} {c : Cell} (hc : s.get? r = some c)
    (h : s.isBuilt r c = true) : s.Element (.ref r) := by
  unfold isBuilt at h
  split at h
  · rename_i n
    simp only [Bool.and_eq_true, List.contains_iff_mem, List.all_eq_true, beq_iff_eq] at h
    obtain ⟨⟨⟨hcls, hfields⟩, hkeys⟩, hseq⟩ := h
    have hn : s.RegularNode r n :=
      ⟨hs, hc, NodeClass.regular_library _ hcls, [], hfields, fun _ _ => rfl⟩
    refine .node hn (fun key hkey => ?_) fun key hkey => ?_
    · obtain ⟨x, hx, -⟩ := (Option.any_eq_true _ _).mp (hkeys key hkey)
      exact ⟨x, hx⟩
    · obtain ⟨items, hi⟩ := Option.isSome_iff_exists.mp (hseq key hkey)
      obtain ⟨x, hx, hi⟩ := Option.bind_eq_some_iff.mp hi
      exact ⟨x, items, hx, hi⟩
  · rename_i items
    have hi : s.frozen? (.ref r) = some items := by
      unfold frozen?
      rw [cell?_ref hc]
    exact .sequence hi
  · nomatch h

theorem isMadeBefore_of_step? {r : Ref} {c : Cell} (hc : s.get? r = some c)
    (h : s.isBuilt r c = true) {e : Edge} (hx : s.step? (.ref r) e = some x) :
    isMadeBefore r x = true := by
  unfold isBuilt at h
  split at h
  · rename_i n
    simp only [Bool.and_eq_true, List.all_eq_true] at h
    obtain ⟨⟨-, hkeys⟩, -⟩ := h
    cases e with
    | item => simp [Store.step?, frozen?, cell?_ref hc] at hx
    | key name =>
      simp only [Store.step?, node?, cell?_ref hc, Option.bind_some] at hx
      split at hx
      · rename_i hk
        have hany := hkeys name hk
        rwa [hx] at hany
      · nomatch hx
  · rename_i items
    cases e with
    | key => simp [Store.step?, node?, cell?_ref hc] at hx
    | item place =>
      simp only [Store.step?, frozen?, cell?_ref hc, Option.bind_some] at hx
      exact List.all_eq_true.mp h x (List.mem_of_getElem? hx)
  · nomatch h

/-- Whatever is in a store that was built up is a graph: paths lead to what was made before. -/
theorem graph_of_isBuiltUp (hs : s.classAttrs = []) (h : s.isBuiltUp = true) {r : Ref}
    (hr : r < s.size) : s.Graph (.ref r) := by
  have hpath {path : List Edge} {q : Ref} {x : Value} (hq : q < s.size)
      (hx : s.follow (.ref q) path = some x) :
      x.isLeaf = true ∨ ∃ q', x = .ref q' ∧ q' ≤ q ∧ (path ≠ [] → q' < q) := by
    induction path generalizing q with
    | nil => exact .inr ⟨q, (Option.some.inj hx).symm, Nat.le_refl _, fun hne => absurd rfl hne⟩
    | cons e path ih =>
      obtain ⟨c, hc, hbuilt⟩ := isBuilt_of_isBuiltUp h hq
      obtain ⟨y, hy, hx⟩ := Option.bind_eq_some_iff.mp hx
      have hbefore := isMadeBefore_of_step? hc hbuilt hy
      cases y with
      | ref q₁ =>
        have hlt : q₁ < q := of_decide_eq_true hbefore
        refine (ih (Nat.lt_trans hlt hq) hx).imp_right ?_
        rintro ⟨q', rfl, hle, -⟩
        have hlt' : q' < q := Nat.lt_of_le_of_lt hle hlt
        exact ⟨q', rfl, Nat.le_of_lt hlt', fun _ => hlt'⟩
      | null | bool | int | text | operation =>
        rw [follow_leaf rfl] at hx
        exact .inl (hx.2 ▸ rfl)
      | _ => nomatch hbefore
  refine ⟨fun hx => ?_, fun hx hcycle => ?_⟩
  · rcases hpath hr hx with hv | ⟨q, rfl, hq, -⟩
    · exact .leaf hv
    · obtain ⟨c, hc, hbuilt⟩ := isBuilt_of_isBuiltUp h (Nat.lt_of_le_of_lt hq hr)
      exact element_of_isBuilt hs hc hbuilt
  · by_contra hne
    rcases hpath hr hx with hv | ⟨q, rfl, hq, -⟩
    · rw [follow_leaf hv] at hcycle
      exact hne hcycle.1
    · rcases hpath (Nat.lt_of_le_of_lt hq hr) hcycle with hv | ⟨q', hq', -, hlt⟩
      · nomatch hv
      · obtain rfl := Value.ref.inj hq'
        exact Nat.lt_irrefl _ (hlt hne)

end Store
end GraphQLTree
