import GraphQLTree.Proofs.Collections
import GraphQLTree.Proofs.Truncation
import Mathlib.Logic.Relation

/-! # How long descriptions get

Texts and lists of items are cut to the limits (`Text.length_truncate_le`,
`Text.length_truncateItems_le`), and only so many levels of nesting are followed. So a description of
a plain value ends and is no longer than a bound that is made of the limits alone
(`Limits.descriptionBound`), however large the value is, and also if it contains itself
(`Store.describe_bounded`). -/

namespace GraphQLTree

/-! ### Lengths of collections -/

theorem length_intercalate_le {b : Nat} {texts : List String}
    (h : ∀ t ∈ texts, t.length ≤ b) :
    (", ".intercalate texts).length ≤ texts.length * (b + 2) := by
  induction texts with
  | nil => simp
  | cons t texts ih =>
    obtain ⟨ht, hts⟩ := List.forall_mem_cons.mp h
    have hrest := ih hts
    cases texts with
    | nil =>
      simp only [String.intercalate_singleton, List.length_singleton]
      omega
    | cons u texts =>
      have hsep : (", " : String).length = 2 := rfl
      rw [String.intercalate_cons_cons, String.length_append, String.length_append, hsep,
        List.length_cons, Nat.add_mul]
      omega

theorem Shape.length_enclose_le {b : Nat} {texts : List String} (shape : Shape)
    (h : ∀ t ∈ texts, t.length ≤ b) :
    (shape.enclose texts).length ≤ texts.length * (b + 2) + 3 := by
  have hall := length_intercalate_le h
  have hone : ("(" : String).length = 1 ∧ (")" : String).length = 1 ∧ (",)" : String).length = 2 ∧
      ("[" : String).length = 1 ∧ ("]" : String).length = 1 ∧ ("\x7b" : String).length = 1 ∧
      ("\x7d" : String).length = 1 := by decide
  cases shape with
  | list | braces =>
    simp only [Shape.enclose, String.length_append]
    omega
  | tuple =>
    rcases texts with - | ⟨t, - | ⟨u, texts⟩⟩
    · simp only [Shape.enclose, String.length_append]
      omega
    · simp only [Shape.enclose, String.length_append]
      rw [String.intercalate_singleton] at hall
      omega
    · simp only [Shape.enclose, String.length_append]
      omega

/-- How long a description within limits is at most, where so many levels of nesting are followed. -/
def Limits.descriptionBound (limits : Limits) : Nat → Nat
  | 0 => limits.text.toNat + 14
  | depth + 1 =>
    limits.list.toNat * (2 * limits.descriptionBound depth + 4) + limits.text.toNat + 14

namespace Limits

variable {limits : Limits}

theorem le_descriptionBound (limits : Limits) (depth : Nat) :
    limits.text.toNat + 14 ≤ limits.descriptionBound depth := by
  cases depth with
  | zero => exact Nat.le_refl _
  | succ depth =>
    unfold descriptionBound
    omega

end Limits

namespace Store

variable {s s₀ : Store} {r : Ref} {c : Cell} {v w : Value} {limits : Limits} {depth k b : Nat}
  {seen : List Ref} {item : Value × Option Value} {text : String}

/-! ### Parts -/

theorem PartText.length_le (h : PartText (fun _ text => text.length ≤ b) item text) :
    text.length ≤ 2 * b + 2 := by
  cases h with
  | item ht => exact Nat.le_trans ht (by omega)
  | entry ht ht' =>
    have hcolon : (": " : String).length = 2 := rfl
    rw [String.length_append, String.length_append, hcolon]
    omega

theorem length_of_parts {items : List (Value × Option Value)} {texts : List String}
    (h : List.Forall₂ (PartText fun _ text => text.length ≤ b) items texts) :
    ∀ t ∈ texts, t.length ≤ 2 * b + 2 := by
  induction h with
  | nil => simp
  | cons ht _ ih => exact List.forall_mem_cons.mpr ⟨ht.length_le, ih⟩

/-- The description of a collection is bounded by those of its items. -/
theorem length_enclose_truncateList_le (hl : 4 ≤ limits.list) (shape : Shape) {texts : List String}
    (h : ∀ t ∈ texts, t.length ≤ 2 * limits.descriptionBound depth + 2) :
    (shape.enclose (Text.truncateList limits.list texts)).length ≤
      limits.descriptionBound (depth + 1) := by
  have hlist := Text.length_truncateItems_le hl "..." texts
  have hcount : (Text.truncateList limits.list texts).length ≤ limits.list.toNat := by
    unfold Text.truncateList
    omega
  have hmem : ∀ t ∈ Text.truncateList limits.list texts,
      t.length ≤ 2 * limits.descriptionBound depth + 2 := by
    intro t ht
    rcases Text.mem_truncateItems ht with rfl | ht
    · have hbound := limits.le_descriptionBound depth
      have hdots : ("..." : String).length = 3 := rfl
      omega
    · exact h t ht
  calc
    _ ≤ _ := shape.length_enclose_le hmem
    _ ≤ limits.list.toNat * (2 * limits.descriptionBound depth + 4) + 3 :=
      Nat.add_le_add_right (Nat.mul_le_mul_right _ hcount) 3
    _ ≤ limits.list.toNat * (2 * limits.descriptionBound depth + 4) + limits.text.toNat + 14 := by
      omega

/-! ### Plain values -/

/-- What is described within a bound: null, truth values, whole numbers, texts, bytes, buffers and
collections. -/
inductive IsBounded (s : Store) : Value → Prop
  | null : IsBounded s .null
  | bool (b : Bool) : IsBounded s (.bool b)
  | int (n : Int) : IsBounded s (.int n)
  | text (t : String) : IsBounded s (.text t)
  | bytes (bs : List UInt8) : IsBounded s (.bytes bs)
  | object {r : Ref} {c : Cell} : s.get? r = some c → s.PlainCell c → IsBounded s (.ref r)

theorem length_toNat_le {t : String} (ht : 4 ≤ limits.text)
    (h : (t.length : Int) ≤ limits.text) : t.length ≤ limits.descriptionBound depth := by
  have hbound := limits.le_descriptionBound depth
  omega

/-- The description of a value that is described as a simple one. -/
theorem length_describeSimple?_le (ht : 4 ≤ limits.text) (hv : s.IsBounded v)
    (h : s.describeSimple? limits v = some text) :
    text.length ≤ limits.descriptionBound depth := by
  have hbound := limits.le_descriptionBound depth
  have hwords : ("None" : String).length ≤ 14 ∧ ("True" : String).length ≤ 14 ∧
      ("False" : String).length ≤ 14 := by decide
  cases hv with
  | null =>
    obtain rfl := Option.some.inj h
    exact Nat.le_trans hwords.1 (by omega)
  | bool b =>
    obtain rfl := Option.some.inj h
    cases b with
    | true => exact Nat.le_trans hwords.2.1 (by omega)
    | false => exact Nat.le_trans hwords.2.2 (by omega)
  | int | text | bytes =>
    obtain rfl := Option.some.inj h
    exact length_toNat_le ht (Text.length_truncate_le ht _)
  | @object r c hc hp =>
    unfold describeSimple? at h
    rw [cell?_ref hc] at h
    cases c with
    | buffer =>
      obtain rfl := Option.some.inj h
      exact length_toNat_le ht (Text.length_truncate_le ht _)
    | list | dict | set | tuple => nomatch h
    | _ => exact hp.elim

/-- A bounded value is a simple one or a collection. -/
theorem IsBounded.cases (hv : s.IsBounded v) : (∃ text, s.describeSimple? limits v = some text) ∨
    ∃ r c shape items, v = .ref r ∧ s.get? r = some c ∧ s.PlainCell c ∧
      c.collection? = some (shape, items) := by
  cases hv with
  | null | bool | int | text | bytes => exact .inl ⟨_, rfl⟩
  | @object r c hc hp =>
    cases c with
    | buffer =>
      left
      unfold describeSimple?
      rw [cell?_ref hc]
      exact ⟨_, rfl⟩
    | list | dict | set | tuple => exact .inr ⟨r, _, _, _, rfl, hc, hp, rfl⟩
    | _ => exact hp.elim

theorem IsBounded.grows {s' : Store} (h : s.IsBounded v) (hs : s.Grows s') : s'.IsBounded v := by
  cases h with
  | null => exact .null
  | bool b => exact .bool b
  | int n => exact .int n
  | text t => exact .text t
  | bytes bs => exact .bytes bs
  | object hc hp => exact .object (hs.get?_eq hc) (hp.grows hs)

theorem length_emptyText_le (c : Cell) : c.emptyText.length ≤ limits.descriptionBound depth := by
  have hbound := limits.le_descriptionBound depth
  have hshort : c.emptyText.length ≤ 14 := by
    unfold Cell.emptyText
    split
    · decide
    · decide
    · split
      · rename_i shape _ _
        cases shape <;> decide
      · decide
  omega

theorem length_abbreviated_le (shape : Shape) :
    shape.abbreviated.length ≤ limits.descriptionBound depth := by
  have hbound := limits.le_descriptionBound depth
  have hshort : shape.abbreviated.length ≤ 14 := by cases shape <;> decide
  omega

/-! ### Descriptions -/

/-- Texts within the bound. -/
def WithinBound (limits : Limits) (depth : Nat) (_ : Value) (text : String) : Prop :=
  text.length ≤ limits.descriptionBound depth

theorem IsBounded.cell (h : s.IsBounded (.ref r)) : ∃ c, s.get? r = some c := by
  cases h with
  | object hc _ => exact ⟨_, hc⟩

/-- A bounded value is described within the bound if what it contains is, with one level less. -/
theorem described_step (h : s₀.Untouched) (ht : 4 ≤ limits.text) (hl : 4 ≤ limits.list)
    (hv : s₀.IsBounded v)
    (hitems : ∀ d r w, depth = d + 1 → v = .ref r → s₀.Contains v w →
      Described s₀ limits d (r :: seen) (k + 1) (WithinBound limits d) w) :
    Described s₀ limits depth seen (k + 1) (WithinBound limits depth) v := by
  intro s hg
  have h' := h.grows hg
  have hroot := hv.grows hg
  rcases hroot.cases with ⟨text, hsimple⟩ | ⟨r, c, shape, items, rfl, hc, hp, hi⟩
  · exact ⟨text, s, runOn_describeSimple _ _ hsimple, Grows.refl s,
      length_describeSimple?_le ht hroot hsimple⟩
  by_cases hne : items = []
  · subst hne
    obtain ⟨s', hrun, hg'⟩ := h'.runOn_describeEmpty hc hp hi depth seen
    exact ⟨_, s', hrun, hg', length_emptyText_le c⟩
  by_cases hr : depth = 0 ∨ r ∈ seen
  · obtain ⟨s', hrun, hg'⟩ := h'.runOn_describeAbbreviated hc hp hi hne hr
    exact ⟨_, s', hrun, hg', length_abbreviated_le shape⟩
  · obtain ⟨hd, hseen⟩ := not_or.mp hr
    obtain ⟨d, rfl⟩ := Nat.exists_eq_succ_of_ne_zero hd
    obtain ⟨c₀, hc₀⟩ := hv.cell
    obtain ⟨texts, s', hrun, hg', htexts⟩ := h'.runOn_describeCollection hc hp hi hne hseen
      fun w hw _ hs => hitems d r w rfl rfl ((contains_grows_iff hg hc₀).mp hw)
        (trans_of Grows hg hs)
    exact ⟨_, s', hrun, hg', length_enclose_truncateList_le hl shape (length_of_parts htexts)⟩

/-- A value of which all that it is made of is bounded is described within the bound. -/
theorem described_bounded (h : s₀.Untouched) (ht : 4 ≤ limits.text) (hl : 4 ≤ limits.list)
    (hv : ∀ w, Relation.ReflTransGen s₀.Contains v w → s₀.IsBounded w) (depth : Nat)
    (seen : List Ref) :
    Described s₀ limits depth seen (k + 1) (WithinBound limits depth) v := by
  induction depth generalizing v seen with
  | zero => exact described_step h ht hl (hv v .refl) fun d _ _ hd => absurd hd (Nat.succ_ne_zero d).symm
  | succ depth ih =>
    refine described_step h ht hl (hv v .refl) fun d r w hd _ hw => ?_
    obtain rfl := Nat.succ.inj hd
    exact ih (fun x hx => hv x (.head hw hx)) (r :: seen)

/-- The description of a value that is made of null, truth values, whole numbers, texts, bytes and
collections of such values ends, and it is no longer than a bound that is made of the limits. The value
may be as large as it likes, and contain itself. -/
theorem describe_bounded {limits : Limits} (ht : 4 ≤ limits.text) (hl : 4 ≤ limits.list)
    (h : s.Untouched)
    (hv : ∀ w, Relation.ReflTransGen s.Contains v w → s.IsBounded w) :
    ∃ text s', (Action.describeWithin limits v).perform.runOn s = (.ok (.text text), s') ∧
      text.length ≤ limits.descriptionBound limits.depth.toNat := by
  rw [Action.runOn_perform, s.depthLimit_eq]
  obtain ⟨text, s', hrun, -, hlength⟩ :=
    described_bounded (k := s.innerDepth) h ht hl hv limits.depth.toNat [] (Grows.refl s)
  exact ⟨text, s', hrun, hlength⟩

/-- A list that contains itself, beside a dictionary whose key is a tuple with that list. -/
def knot : Store :=
  ⟨#[.list [.ref 0, .ref 1, .int 7], .dict [⟨.atom .null, .ref 2, .text "end"⟩],
    .tuple .plain [.ref 0] (.own [])], 0, [], []⟩

theorem isBounded_knot {w : Value} (h : Relation.ReflTransGen knot.Contains (.ref 0) w) :
    knot.IsBounded w := by
  have hclosed : ∀ v ∈ [Value.ref 0, .ref 1, .int 7, .ref 2, .text "end"],
      ∀ w ∈ knot.contents v, w ∈ [Value.ref 0, .ref 1, .int 7, .ref 2, .text "end"] := by
    decide +kernel
  have hmem : w ∈ [Value.ref 0, .ref 1, .int 7, .ref 2, .text "end"] := by
    induction h with
    | refl => simp
    | tail _ hw ih => exact hclosed _ ih _ hw
  simp only [List.mem_cons, List.not_mem_nil, or_false] at hmem
  rcases hmem with rfl | rfl | rfl | rfl | rfl
  · exact .object (show knot.get? 0 = some _ from rfl) trivial
  · exact .object (show knot.get? 1 = some _ from rfl) trivial
  · exact .int 7
  · exact .object (show knot.get? 2 = some _ from rfl) trivial
  · exact .text "end"

theorem describe_bounded_knot :
    ∃ text s', (Action.describeWithin ⟨2, 240, 10⟩ (.ref 0)).perform.runOn knot =
      (.ok (.text text), s') ∧ text.length ≤ 107774 :=
  describe_bounded (by decide) (by decide) (untouched_of_classAttrs rfl) fun _ => isBounded_knot

end Store
end GraphQLTree
