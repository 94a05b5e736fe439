import GraphQLTree.Proofs.Collections
import GraphQLTree.Proofs.Graph
import GraphQLTree.Proofs.Truncation

/-! # Descriptions that are written forms

A value is within limits if its texts and collections are not cut (`Store.Fits`) and no more levels of
collections are nested than are followed (`Tall`). Then nothing is left out of its description, which
is its written form (`Store.describe_eq_written`): a collection is abbreviated only inside of itself,
so one that occurs several times side by side is described each time. -/

namespace GraphQLTree

/-- Numbers, texts and bytes can be long, so their written forms are cut to size. -/
def Value.isCut : Value → Bool
  | .int _ | .text _ | .bytes _ => true
  | _ => false

/-- Lists, plain tuples and dictionaries. -/
def Cell.isBasic : Cell → Bool
  | .list _ | .tuple .plain _ _ | .dict _ => true
  | _ => false

namespace Store

variable {s s' s₀ : Store} {r : Ref} {c : Cell} {v w : Value} {limits : Limits} {depth k d : Nat}
  {seen active : List Ref} {shape : Shape} {items : List (Value × Option Value)} {text : String}

/-! ### Values within limits -/

/-- A value without parts, a buffer or a collection that is not cut. -/
inductive Fits (s : Store) (limits : Limits) : Value → Prop
  | datum {v : Value} : v.isDatum = true →
      (v.isCut = true → ((s.writtenAtom v).length : Int) ≤ limits.text) → Fits s limits v
  | buffer {r : Ref} {bs : List UInt8} : s.get? r = some (.buffer bs) →
      ((Text.quoteBuffer bs).length : Int) ≤ limits.text → Fits s limits (.ref r)
  | collection {r : Ref} {c : Cell} {shape : Shape} {items : List (Value × Option Value)} :
      s.get? r = some c → c.isBasic = true → c.collection? = some (shape, items) →
      (items.length : Int) ≤ limits.list → Fits s limits (.ref r)

theorem plainCell_of_isBasic (h : c.isBasic = true) : s.PlainCell c := by
  cases c with
  | list | dict => trivial
  | tuple form =>
    cases form with
    | plain => trivial
    | _ => nomatch h
  | _ => nomatch h

/-! ### Written forms -/

/-- In every store that grew from this one, a value is written by this text, inside of collections that
it does not contain, if there is depth for all of its levels. -/
def WrittenAs (s₀ : Store) (v : Value) (text : String) : Prop :=
  ∀ ⦃s⦄, s₀.Grows s → ∀ ⦃active d k⦄, Tall s₀.Contains d v →
    (∀ q ∈ active, ¬ Relation.ReflTransGen s₀.Contains v (.ref q)) → d ≤ k + 1 →
    Effect.runOn (Action.writeIn active v (Behaviour.level k)) s = (.ok text, s)

theorem typeOf_datum_mem (hv : v.isDatum = true) : s.typeOf v ∈ plainTypes := by
  cases v with
  | null | bool | int | text | float | complex | bytes => exact List.mem_of_elem_eq_true rfl
  | _ => nomatch hv

theorem Untouched.writtenAs_datum (h : s₀.Untouched) (hv : v.isDatum = true) :
    WrittenAs s₀ v (s₀.writtenAtom v) := by
  intro s hg active d k _ _ _
  have hspecial : s.special? (s.typeOf v) "__repr__" = none :=
    (h.grows hg).special? (typeOf_datum_mem hv) (by decide)
  refine (Action.runOn_bind_ok (Action.runOn_special? "__repr__") _).trans ?_
  rw [hspecial]
  refine (Action.runOn_bind_ok (Action.runOn_get s) _).trans ?_
  cases v with
  | null | bool | int | text | float | complex | bytes => rfl
  | _ => nomatch hv

theorem Untouched.writtenAs_buffer (h : s₀.Untouched) {bs : List UInt8}
    (hc : s₀.get? r = some (.buffer bs)) : WrittenAs s₀ (.ref r) (Text.quoteBuffer bs) := by
  intro s hg active d k _ _ _
  exact ((h.grows hg).runOn_writeIn (hg.get?_eq hc) trivial active _).trans rfl

theorem runOn_mapM {α β : Type} {f : α → Action β} {b : Behaviour} {xs : List α} {ys : List β}
    (h : List.Forall₂ (fun x y => Effect.runOn (f x b) s = (.ok y, s)) xs ys) :
    Effect.runOn ((xs.mapM f : Action (List β)) b) s = (.ok ys, s) := by
  induction h with
  | nil => rfl
  | cons hx _ ih =>
    rw [List.mapM_cons]
    refine (Action.runOn_bind_ok hx _).trans ?_
    exact (Action.runOn_bind_ok ih _).trans rfl

/-- A collection is written by the written forms of its items between the brackets of its shape. -/
theorem Untouched.writtenAs_collection (h : s₀.Untouched) (hc : s₀.get? r = some c)
    (hb : c.isBasic = true) (hi : c.collection? = some (shape, items)) {texts : List String}
    (ht : List.Forall₂ (PartText fun w t => s₀.Contains (.ref r) w ∧ WrittenAs s₀ w t) items texts) :
    WrittenAs s₀ (.ref r) (shape.enclose texts) := by
  intro s hg active d k hd hactive hk
  have hacyclic := hd.acyclic
  have hr : active.contains r = false := by
    rw [← Bool.not_eq_true, List.contains_iff_mem]
    exact fun hmem => hactive r hmem .refl
  -- what is contained is written inside of the collection itself and of those around it
  have hpart {w : Value} {t : String} (hwt : s₀.Contains (.ref r) w ∧ WrittenAs s₀ w t) :
      Effect.runOn (Action.writtenIn (r :: active) w (Behaviour.level k)) s = (.ok t, s) := by
    obtain ⟨hw, hwt⟩ := hwt
    obtain ⟨d, rfl⟩ : ∃ e, d = e + 1 := by
      cases d with
      | zero => exact hd.elim
      | succ d => exact ⟨d, rfl⟩
    have hdw := hd w hw
    obtain ⟨e, rfl⟩ : ∃ e, d = e + 1 := by
      cases d with
      | zero => exact hdw.elim
      | succ d => exact ⟨d, rfl⟩
    obtain ⟨k, rfl⟩ : ∃ j, k = j + 1 := ⟨k - 1, by omega⟩
    refine hwt hg hdw (List.forall_mem_cons.mpr ⟨fun hback => ?_, fun q hq hback => ?_⟩) (by omega)
    · exact hacyclic (Relation.TransGen.head' hw hback)
    · exact hactive q hq (.head hw hback)
  have hguard (act : Action String) :
      (if active.contains r then pure shape.abbreviated else act) = act :=
    if_neg (Bool.eq_false_iff.mp hr)
  refine ((h.grows hg).runOn_writeIn (hg.get?_eq hc) (plainCell_of_isBasic hb) active _).trans ?_
  unfold Action.writeCell
  refine (Action.runOn_bind_ok (Action.runOn_get s) _).trans ?_
  have hopen (act : Action (List String)) (hrun : Effect.runOn (act (Behaviour.level k)) s =
      (.ok texts, s)) : Effect.runOn ((if active.contains r then pure shape.abbreviated
        else do return shape.enclose (← act) : Action String) (Behaviour.level k)) s =
          (.ok (shape.enclose texts), s) := by
    rw [hguard]
    exact Action.runOn_bind_ok hrun _
  have hitems {xs : List Value} (ht : List.Forall₂ (PartText fun w t =>
      s₀.Contains (.ref r) w ∧ WrittenAs s₀ w t) (xs.map (·, none)) texts) :
      Effect.runOn ((xs.mapM (Action.writtenIn (r :: active)) : Action (List String))
        (Behaviour.level k)) s = (.ok texts, s) :=
    runOn_mapM ((List.forall₂_map_left_iff.mp ht).imp fun x t hx => by
      cases hx with
      | item hx => exact hpart hx)
  cases c with
  | list xs =>
    obtain ⟨rfl, rfl⟩ := Prod.mk.inj (Option.some.inj hi)
    exact hopen _ (hitems ht)
  | tuple form xs fields =>
    obtain ⟨rfl, rfl⟩ := Prod.mk.inj (Option.some.inj hi)
    cases form with
    | plain => exact hopen _ (hitems ht)
    | _ => nomatch hb
  | dict entries =>
    obtain ⟨rfl, rfl⟩ := Prod.mk.inj (Option.some.inj hi)
    refine hopen _ (runOn_mapM ((List.forall₂_map_left_iff.mp ht).imp fun e t he => ?_))
    cases he with
    | entry hkey hvalue =>
      refine (Action.runOn_bind_ok (hpart hkey) _).trans ?_
      exact (Action.runOn_bind_ok (hpart hvalue) _).trans rfl
  | _ => nomatch hb

/-! ### Descriptions -/

/-- A value without parts that is not cut is described by its written form. -/
theorem describeSimple?_uncut (hv : v.isDatum = true)
    (ht : v.isCut = true → ((s.writtenAtom v).length : Int) ≤ limits.text) (s' : Store) :
    s'.describeSimple? limits v = some (s.writtenAtom v) := by
  cases v with
  | null | bool | float | complex => rfl
  | int | text | bytes => exact congrArg some (Text.truncate_of_length_le (ht rfl))
  | _ => nomatch hv

theorem isBasic_emptyText (hb : c.isBasic = true) (hi : c.collection? = some (shape, items)) :
    c.emptyText = shape.enclose [] := by
  cases c with
  | list | dict =>
    obtain ⟨rfl, -⟩ := Prod.mk.inj (Option.some.inj hi)
    rfl
  | tuple form =>
    cases form with
    | plain =>
      obtain ⟨rfl, -⟩ := Prod.mk.inj (Option.some.inj hi)
      rfl
    | _ => nomatch hb
  | _ => nomatch hb

/-- A value within limits is described by its written form if what it contains is, with one level
less. -/
theorem written_step (h : s₀.Untouched) (hv : s₀.Fits limits v) (hd : Tall s₀.Contains (depth + 1) v)
    (hseen : ∀ q ∈ seen, ¬ Relation.ReflTransGen s₀.Contains v (.ref q))
    (hitems : ∀ e r w, depth = e + 1 → v = .ref r → s₀.Contains v w →
      Described s₀ limits e (r :: seen) (k + 1) (WrittenAs s₀) w) :
    Described s₀ limits depth seen (k + 1) (WrittenAs s₀) v := by
  intro s hg
  have h' := h.grows hg
  cases hv with
  | datum hv ht =>
    exact ⟨_, s, runOn_describeSimple _ _ (describeSimple?_uncut hv ht s), Grows.refl s,
      h.writtenAs_datum hv⟩
  | @buffer r bs hc ht =>
    have hsimple : s.describeSimple? limits (.ref r) = some (Text.quoteBuffer bs) := by
      unfold describeSimple?
      rw [cell?_ref (hg.get?_eq hc)]
      exact congrArg some (Text.truncate_of_length_le ht)
    exact ⟨_, s, runOn_describeSimple _ _ hsimple, Grows.refl s, h.writtenAs_buffer hc⟩
  | @collection r c shape items hc hb hi hl =>
    have hp : s.PlainCell c := plainCell_of_isBasic hb
    by_cases hne : items = []
    · subst hne
      obtain ⟨s', hrun, hg'⟩ := h'.runOn_describeEmpty (hg.get?_eq hc) hp hi depth seen
      rw [isBasic_emptyText hb hi] at hrun
      exact ⟨_, s', hrun, hg', h.writtenAs_collection hc hb hi .nil⟩
    · obtain ⟨item, rest, rfl⟩ := List.exists_cons_of_ne_nil hne
      have hfirst : s₀.Contains (.ref r) item.1 :=
        contains_of_mem hc hi (List.mem_cons_self ..) (.inl rfl)
      obtain ⟨e, rfl⟩ : ∃ e, depth = e + 1 := by
        cases depth with
        | zero => exact (hd _ hfirst).elim
        | succ e => exact ⟨e, rfl⟩
      obtain ⟨texts, s', hrun, hg', htexts⟩ :=
        h'.runOn_describeCollection (P := fun w t => s₀.Contains (.ref r) w ∧ WrittenAs s₀ w t)
          (hg.get?_eq hc) hp hi hne (fun hmem => hseen r hmem .refl) fun w hw _ hs => by
            have hw₀ := (contains_grows_iff hg hc).mp hw
            obtain ⟨t, s₂, hrun, hg₂, ht⟩ := hitems e r w rfl rfl hw₀ (trans_of Grows hg hs)
            exact ⟨t, s₂, hrun, hg₂, hw₀, ht⟩
      rw [Text.truncateList_of_length_le (htexts.length_eq ▸ hl)] at hrun
      exact ⟨_, s', hrun, hg', h.writtenAs_collection hc hb hi htexts⟩

/-- A value of which all that it is made of is within limits is described by its written form, inside
of collections that it does not contain. -/
theorem described_written (h : s₀.Untouched)
    (hv : ∀ w, Relation.ReflTransGen s₀.Contains v w → s₀.Fits limits w)
    (hd : Tall s₀.Contains (depth + 1) v)
    (hseen : ∀ q ∈ seen, ¬ Relation.ReflTransGen s₀.Contains v (.ref q)) :
    Described s₀ limits depth seen (k + 1) (WrittenAs s₀) v := by
  have hacyclic := hd.acyclic
  induction depth generalizing v seen with
  | zero => exact written_step h (hv v .refl) hd hseen fun e _ _ he => absurd he (Nat.succ_ne_zero e).symm
  | succ depth ih =>
    refine written_step h (hv v .refl) hd hseen fun e r w he hr hw => ?_
    obtain rfl := Nat.succ.inj he
    subst hr
    have hdw := hd w hw
    refine ih (fun x hx => hv x (.head hw hx)) hdw
      (List.forall_mem_cons.mpr ⟨fun hback => ?_, fun q hq hback => ?_⟩) hdw.acyclic
    · exact hacyclic (Relation.TransGen.head' hw hback)
    · exact hseen q hq (.head hw hback)

/-- Where all that a value is made of is within limits, and no more collections are nested than are
followed, its description is its written form. -/
theorem describe_eq_written {limits : Limits} (h : s.Untouched)
    (hv : ∀ w, Relation.ReflTransGen s.Contains v w → s.Fits limits w)
    (hd : Tall s.Contains (limits.depth.toNat + 1) v) :
    ∃ text s', (Action.describeWithin limits v).perform.runOn s = (.ok (.text text), s') ∧
      (Action.written v).perform.runOn s = (.ok text, s) := by
  rw [Action.runOn_perform, Action.runOn_perform, s.depthLimit_eq]
  have hunseen : ∀ q ∈ ([] : List Ref), ¬ Relation.ReflTransGen s.Contains v (.ref q) := nofun
  obtain ⟨text, s', hrun, -, hwritten⟩ :=
    described_written (k := s.innerDepth) h hv hd hunseen (Grows.refl s)
  have hacyclic (w : Value) (hw : Relation.ReflTransGen s.Contains v w) :
      ¬ Relation.TransGen s.Contains w w := (hd.reach hw).acyclic
  have htall := Tall.of_acyclic (fun _ _ => Contains.lt_size) hacyclic
  exact ⟨text, s', hrun, hwritten (Grows.refl s) htall nofun (by unfold innerDepth; omega)⟩

/-- A list that holds a tuple twice, and a dictionary that has the same tuple as a key. -/
def siblings : Store :=
  ⟨#[.list [.ref 1, .ref 1, .ref 2], .tuple .plain [.bool true] (.own []),
    .dict [⟨.atom .null, .ref 1, .text "end"⟩]], 0, [], []⟩

theorem fits_siblings {w : Value} (h : Relation.ReflTransGen siblings.Contains (.ref 0) w) :
    siblings.Fits ⟨3, 5, 3⟩ w := by
  have hclosed : ∀ v ∈ [Value.ref 0, .ref 1, .bool true, .ref 2, .text "end"],
      ∀ w ∈ siblings.contents v, w ∈ [Value.ref 0, .ref 1, .bool true, .ref 2, .text "end"] := by
    decide +kernel
  have hmem : w ∈ [Value.ref 0, .ref 1, .bool true, .ref 2, .text "end"] := by
    induction h with
    | refl => simp
    | tail _ hw ih => exact hclosed _ ih _ hw
  simp only [List.mem_cons, List.not_mem_nil, or_false] at hmem
  rcases hmem with rfl | rfl | rfl | rfl | rfl
  · exact .collection (show siblings.get? 0 = some _ from rfl) rfl rfl (by decide)
  · exact .collection (show siblings.get? 1 = some _ from rfl) rfl rfl (by decide)
  · exact .datum rfl nofun
  · exact .collection (show siblings.get? 2 = some _ from rfl) rfl rfl (by decide)
  · exact .datum rfl fun _ => by decide +kernel

theorem tall_siblings : Tall siblings.Contains 4 (.ref 0) := by
  have hflag : Tall siblings.Contains 1 (.bool true) := fun _ hw => nomatch hw
  have hend : Tall siblings.Contains 1 (.text "end") := fun _ hw => nomatch hw
  have htuple : Tall siblings.Contains 2 (.ref 1) := by
    intro w (hw : w ∈ [Value.bool true])
    obtain rfl := List.mem_singleton.mp hw
    exact hflag
  have hdict : Tall siblings.Contains 3 (.ref 2) := by
    intro w (hw : w ∈ [Value.ref 1, .text "end"])
    simp only [List.mem_cons, List.not_mem_nil, or_false] at hw
    rcases hw with rfl | rfl
    · exact htuple
    · exact hend.mono (by decide)
  intro w (hw : w ∈ [Value.ref 1, .ref 1, .ref 2])
  simp only [List.mem_cons, List.not_mem_nil, or_false] at hw
  rcases hw with rfl | rfl | rfl
  · exact htuple.mono (by decide)
  · exact htuple.mono (by decide)
  · exact hdict

/-- All items are shown, the tuple each time with the comma of a single item. -/
theorem describe_eq_written_siblings : ∃ s',
    (Action.describeWithin ⟨3, 5, 3⟩ (.ref 0)).perform.runOn siblings =
      (.ok (.text "[(True,), (True,), \x7b(True,): 'end'\x7d]"), s') ∧
    (Action.written (.ref 0)).perform.runOn siblings =
      (.ok "[(True,), (True,), \x7b(True,): 'end'\x7d]", siblings) := by
  obtain ⟨text, s', hdescribe, hwritten⟩ :=
    describe_eq_written (untouched_of_classAttrs rfl) (fun _ => fits_siblings) tall_siblings
  have htext : ((Action.written (.ref 0)).perform.runOn siblings).1 =
      .ok "[(True,), (True,), \x7b(True,): 'end'\x7d]" := by decide +kernel
  rw [hwritten] at htext
  obtain rfl := Except.ok.inj htext
  exact ⟨s', hdescribe, hwritten⟩

end Store
end GraphQLTree
