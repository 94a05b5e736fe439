import GraphQLTree.Proofs.Dictionaries

/-! # Trees and their dictionaries are equal together

Two syntax trees are equal exactly if their dictionaries are (`Store.agree_of_shown`,
`Store.runOn_dictionary_faithful`). Both comparisons go down in step: two nodes are compared by their
classes and two dictionaries by their kinds, which determine each other, then both key by key; child
sequences and lists are compared item by item; and values of different forms are equal on neither
side. -/

namespace GraphQLTree

namespace NodeClass

theorem serial_library : (library.map (·.serial)).Nodup := by decide +kernel

theorem kind_distinct : (library.map (·.kind)).Nodup := by decide +kernel

variable {c c' : NodeClass}

theorem eq_of_serial (h : c ∈ library) (h' : c' ∈ library) (hs : c.serial = c'.serial) : c = c' :=
  List.inj_on_of_nodup_map serial_library h h' hs

theorem eq_of_kind (h : c ∈ library) (h' : c' ∈ library) (hk : c.kind = c'.kind) : c = c' :=
  List.inj_on_of_nodup_map kind_distinct h h' hk

end NodeClass

/-- What kind of collection a cell is. -/
inductive CollectionForm
  | sequence
  | list
  | dict

/-- The kind of collection that a cell is, if it is one that is compared by what it holds. -/
def Cell.collectionForm? : Cell → Option CollectionForm
  | .tuple _ _ _ => some .sequence
  | .list _ => some .list
  | .dict _ => some .dict
  | _ => none

namespace Store

variable {s : Store} {r q t u d : Ref} {n m : NodeObject} {a b v w x y : Value} {k : Nat}

/-! ### Values of different forms -/

/-- A value that is asked first does not say that it equals another one. -/
def Differs (s : Store) (k : Nat) (a b : Value) : Prop :=
  ∃ answer, Effect.runOn (Action.compareContent a b (Behaviour.level k)) s = (.ok answer, s) ∧
    answer ≠ some true

/-- Different values neither of which says that they are equal are not. -/
theorem runOn_equal_of_differs (ha : s.special? (s.typeOf a) "__eq__" = none)
    (hb : s.special? (s.typeOf b) "__eq__" = none) (hab : s.Differs k a b) (hba : s.Differs k b a)
    (hne : a ≠ b) :
    Effect.runOn (Action.equal a b (Behaviour.level (k + 1))) s = (.ok false, s) := by
  obtain ⟨p, hp, hpt⟩ := hab
  obtain ⟨p', hp', hpt'⟩ := hba
  obtain ⟨answer, hrun, hfalse⟩ := exists_runOn_equal ha hb hp hp'
  rwa [hfalse hpt hpt' hne] at hrun

theorem special?_scalar (hs : s.classAttrs = []) (hv : v.isScalar = true) (name : String) :
    s.special? (s.typeOf v) name = none := by
  cases v with
  | null | bool | int | text => exact special?_basic hs _ _
  | _ => nomatch hv

theorem differs_scalar (hv : v.isScalar = true) : s.Differs k v (.ref r) := by
  cases v with
  | null | bool | int | text => exact ⟨none, rfl, nofun⟩
  | _ => nomatch hv

theorem RegularNode.differs (h : s.RegularNode r n)
    (hspecial : ∀ name, s.special? (s.typeOf b) name = none)
    (hb : s.isSubtype (s.typeOf b) (.node .node) = false) : s.Differs k (.ref r) b := by
  have hof : Effect.runOn (Action.isOf (.node .node) b (Behaviour.level k)) s = (.ok false, s) := by
    rw [Action.runOn_isOf (hspecial _) (hspecial _), hb]
  refine ⟨some false, ?_, nofun⟩
  refine (Effect.runOn_bind_ok (Effect.runOn_get s) _).trans ?_
  rw [cell?_ref h.cell]
  change Effect.runOn (Action.compareCell (.ref r) (.node n) b (Behaviour.level k)) s = _
  unfold Action.compareCell
  refine (Action.runOn_bind_ok (Action.runOn_get s) _).trans ?_
  exact Action.runOn_bind_ok (Action.runOn_bind_ok hof _) fun answer => pure (some answer)

/-- Sequences, lists and dictionaries do not know what has another form. -/
theorem differs_collection {c : Cell} {f : CollectionForm} (hr : s.get? r = some c)
    (hf : c.collectionForm? = some f) (hb : (s.cell? b).bind Cell.collectionForm? ≠ some f) :
    s.Differs k (.ref r) b := by
  have hne : Value.ref r ≠ b := by
    rintro rfl
    rw [cell?_ref hr] at hb
    exact hb hf
  refine ⟨none, ?_, nofun⟩
  refine (Effect.runOn_bind_ok (Effect.runOn_get s) _).trans ?_
  rw [cell?_ref hr]
  change Effect.runOn (Action.compareCell (.ref r) c b (Behaviour.level k)) s = _
  unfold Action.compareCell
  refine (Action.runOn_bind_ok (Action.runOn_get s) _).trans ?_
  cases c with
  | tuple | list | dict =>
    rcases hcell : s.cell? b with - | cell
    · dsimp only
      rw [if_neg hne]
      rfl
    · rw [hcell] at hb
      cases cell <;> first | exact absurd hf hb | (dsimp only; rw [if_neg hne]; rfl)
  | _ => nomatch hf

/-- Different values that do not say of each other that they are equal. -/
structure Unlike (s : Store) (k : Nat) (a b : Value) : Prop where
  left : s.Differs k a b
  right : s.Differs k b a
  ne : a ≠ b

theorem Unlike.symm (h : s.Unlike k a b) : s.Unlike k b a :=
  ⟨h.right, h.left, h.ne.symm⟩

theorem unlike_scalar_node (hv : v.isScalar = true) (hn : s.RegularNode r n) :
    s.Unlike k v (.ref r) := by
  refine ⟨differs_scalar hv, hn.differs (special?_scalar hn.classAttrs hv) ?_, ?_⟩
  · cases v with
    | null | bool | int | text => rfl
    | _ => nomatch hv
  · rintro rfl
    nomatch hv

theorem unlike_scalar_collection {c : Cell} {f : CollectionForm} (hv : v.isScalar = true)
    (hr : s.get? r = some c) (hf : c.collectionForm? = some f) : s.Unlike k v (.ref r) := by
  refine ⟨differs_scalar hv, differs_collection hr hf ?_, ?_⟩
  · cases v with
    | null | bool | int | text => nofun
    | _ => nomatch hv
  · rintro rfl
    nomatch hv

theorem unlike_node_sequence {items : List Value} (hn : s.RegularNode r n)
    (ht : s.frozen? (.ref t) = some items) : s.Unlike k (.ref r) (.ref t) := by
  have hcell := cell_of_frozen? ht
  refine ⟨hn.differs (Action.special?_tuple hn.classAttrs hcell) ?_,
    differs_collection hcell rfl ?_, ?_⟩
  · rw [typeOf_ref hcell]
    rfl
  · rw [cell?_ref hn.cell]
    nofun
  · rintro ⟨⟩
    rw [hn.cell] at hcell
    nomatch hcell

theorem unlike_dict_list {entries : List Entry} {items : List Value} {e : Ref}
    (hd : s.get? d = some (.dict entries)) (he : s.get? e = some (.list items)) :
    s.Unlike k (.ref d) (.ref e) := by
  refine ⟨differs_collection hd rfl ?_, differs_collection he rfl ?_, ?_⟩
  · rw [cell?_ref he]
    nofun
  · rw [cell?_ref hd]
    nofun
  · rintro ⟨⟩
    rw [hd] at he
    nomatch he

/-! ### Two comparisons in step -/

/-- Two values are compared with the same answer as two others, which is yes where they are the same
ones on either side. -/
def Agree (s : Store) (k : Nat) (a b x y : Value) : Prop :=
  ∃ answer, Effect.runOn (Action.equal a b (Behaviour.level (k + 1))) s = (.ok answer, s) ∧
    Effect.runOn (Action.equal x y (Behaviour.level (k + 1))) s = (.ok answer, s) ∧
    (a = b ∨ x = y → answer = true)

theorem agree_false (hab : Effect.runOn (Action.equal a b (Behaviour.level (k + 1))) s = (.ok false, s))
    (hxy : Effect.runOn (Action.equal x y (Behaviour.level (k + 1))) s = (.ok false, s))
    (hne : a ≠ b) (hne' : x ≠ y) : s.Agree k a b x y :=
  ⟨false, hab, hxy, fun h => (h.elim hne hne').elim⟩

theorem runOn_same_of_equal {answer : Bool}
    (h : Effect.runOn (Action.equal a b (Behaviour.level (k + 1))) s = (.ok answer, s))
    (hsame : a = b → answer = true) :
    Effect.runOn (Action.same a b (Behaviour.level (k + 1))) s = (.ok answer, s) := by
  unfold Action.same
  split
  · rename_i hab
    rw [hsame hab]
    rfl
  · exact h

theorem agree_scalars (hs : s.classAttrs = []) (hv : v.isScalar = true) (hw : w.isScalar = true) :
    s.Agree k v w v w := by
  by_cases hvw : v = w
  · subst hvw
    have hself := runOn_equal_of_first (k := k) rfl (special?_scalar (s := s) hs hv _)
      (runOn_compareLeaf (isLeaf_of_isScalar hv))
    exact ⟨true, hself, hself, fun _ => rfl⟩
  · have hcontent {v w : Value} (hv : v.isScalar = true) :
        ∃ p, Effect.runOn (Action.compareContent v w (Behaviour.level k)) s = (.ok p, s) := by
      cases v <;> cases w <;> first | exact ⟨_, rfl⟩ | nomatch hv
    obtain ⟨p, hp⟩ := hcontent (w := w) hv
    obtain ⟨p', hp'⟩ := hcontent (w := v) hw
    obtain ⟨answer, hrun, -⟩ :=
      exists_runOn_equal (special?_scalar hs hv _) (special?_scalar hs hw _) hp hp'
    exact ⟨answer, hrun, hrun, fun h => absurd (h.elim id id) hvw⟩

/-- Operation types are equal exactly if their texts are. -/
theorem agree_operations (hs : s.classAttrs = []) (op op' : OperationType) :
    s.Agree k (.operation op) (.operation op') (.text op.text) (.text op'.text) := by
  have hspecial (op : OperationType) :
      s.special? (s.typeOf (.operation op)) "__eq__" = none := special?_basic hs _ _
  by_cases hop : op = op'
  · subst hop
    refine ⟨true, runOn_equal_of_first rfl (hspecial op) (runOn_compareLeaf rfl), ?_, fun _ => rfl⟩
    rw [Action.runOn_equal_text hs, beq_self_eq_true]
  · have htext : op.text ≠ op'.text := by
      cases op <;> cases op' <;> first | exact absurd rfl hop | decide
    have hne : Value.operation op ≠ .operation op' := fun h => hop (Value.operation.inj h)
    have hne' : Value.operation op' ≠ .operation op := hne.symm
    have hdiffers {op op' : OperationType} (hne : Value.operation op ≠ .operation op') :
        s.Differs k (.operation op) (.operation op') := by
      refine ⟨if Value.operation op = .operation op' then some true else none, rfl, ?_⟩
      rw [if_neg hne]
      nofun
    refine agree_false (runOn_equal_of_differs (hspecial op) (hspecial op') (hdiffers hne)
      (hdiffers hne') hne) ?_ hne fun h => htext (Value.text.inj h)
    rw [Action.runOn_equal_text hs, beq_eq_false_iff_ne.mpr htext]

/-! ### Sequences and lists -/

/-- Two sequences are compared like two lists. -/
theorem runOn_allSame_of_agree {ps qs : List (Value × Value)}
    (h : ∀ p ∈ ps, ∀ q ∈ qs, s.Agree k p.1 q.1 p.2 q.2) :
    ∃ answer,
      Effect.runOn (Action.allSame ((ps.map Prod.fst).zip (qs.map Prod.fst))
        (Behaviour.level (k + 1))) s = (.ok answer, s) ∧
      Effect.runOn (Action.allSame ((ps.map Prod.snd).zip (qs.map Prod.snd))
        (Behaviour.level (k + 1))) s = (.ok answer, s) ∧
      (ps.map Prod.fst = qs.map Prod.fst ∨ ps.map Prod.snd = qs.map Prod.snd → answer = true) := by
  induction ps generalizing qs with
  | nil => exact ⟨true, rfl, rfl, fun _ => rfl⟩
  | cons p ps ih =>
    cases qs with
    | nil => exact ⟨true, rfl, rfl, fun _ => rfl⟩
    | cons q qs =>
      obtain ⟨first, hab, hxy, hsame⟩ := h p (List.mem_cons_self ..) q (List.mem_cons_self ..)
      obtain ⟨rest, hfsts, hsnds, hsames⟩ := ih fun p hp q hq =>
        h p (List.mem_cons_of_mem _ hp) q (List.mem_cons_of_mem _ hq)
      have hab' := runOn_same_of_equal hab fun h => hsame (.inl h)
      have hxy' := runOn_same_of_equal hxy fun h => hsame (.inr h)
      refine ⟨first && rest, (Action.runOn_bind_ok hab' _).trans ?_,
        (Action.runOn_bind_ok hxy' _).trans ?_, fun h => ?_⟩
      · cases first
        · rfl
        · exact hfsts
      · cases first
        · rfl
        · exact hsnds
      · simp only [List.map_cons, List.cons.injEq] at h
        rw [hsame (h.imp And.left And.left), hsames (h.imp And.right And.right)]
        rfl

theorem agree_sequences (hs : s.classAttrs = []) {items items' shown shown' : List Value} {e : Ref}
    (ht : s.frozen? (.ref t) = some items) (hu : s.frozen? (.ref u) = some items')
    (hd : s.get? d = some (.list shown)) (he : s.get? e = some (.list shown'))
    (hlength : items.length = shown.length) (hlength' : items'.length = shown'.length)
    (h : ∀ p ∈ items.zip shown, ∀ q ∈ items'.zip shown', s.Agree k p.1 q.1 p.2 q.2) :
    s.Agree (k + 1) (.ref t) (.ref u) (.ref d) (.ref e) := by
  obtain ⟨answer, hitems, hshown, hsame⟩ := runOn_allSame_of_agree h
  rw [List.map_fst_zip (Nat.le_of_eq hlength), List.map_fst_zip (Nat.le_of_eq hlength')]
    at hitems hsame
  rw [List.map_snd_zip (Nat.le_of_eq hlength.symm), List.map_snd_zip (Nat.le_of_eq hlength'.symm)]
    at hshown hsame
  have hct := cell_of_frozen? ht
  have hcu := cell_of_frozen? hu
  have hlist {f : Ref} {ys : List Value} (hf : s.get? f = some (.list ys)) (name : String) :
      s.special? (s.typeOf (.ref f)) name = none := by
    rw [typeOf_ref hf]
    exact special?_basic hs _ _
  refine ⟨answer && decide (items.length = items'.length), ?_, ?_, fun h => ?_⟩
  · refine runOn_equal_of_first ?_ (Action.special?_tuple hs hct _)
      (runOn_compareSequences hct hcu ?_)
    · rw [typeOf_ref hct, typeOf_ref hcu]
      rfl
    · refine (Action.runOn_bind_ok hitems _).trans ?_
      cases answer <;> rfl
  · refine runOn_equal_of_first ?_ (hlist hd _) ?_
    · rw [typeOf_ref hd, typeOf_ref he]
      rfl
    · have hsameItems : Effect.runOn (Action.sameItems shown shown' (Behaviour.level (k + 1))) s =
          (.ok (answer && decide (items.length = items'.length)), s) := by
        unfold Action.sameItems
        rw [hlength, hlength']
        split
        · rename_i heq
          rw [decide_eq_true heq, Bool.and_true]
          exact hshown
        · rename_i hne
          rw [decide_eq_false hne, Bool.and_false]
          rfl
      refine (Effect.runOn_bind_ok (Effect.runOn_get s) _).trans ?_
      rw [cell?_ref hd]
      change Effect.runOn (Action.compareCell (.ref d) (.list shown) (.ref e)
        (Behaviour.level (k + 1))) s = _
      unfold Action.compareCell
      refine (Action.runOn_bind_ok (Action.runOn_get s) _).trans ?_
      rw [cell?_ref he]
      exact Action.runOn_bind_ok hsameItems fun answer => pure (some answer)
  · have hsame' : items = items' ∨ shown = shown' := by
      rcases h with h | h <;> cases h
      · rw [hct] at hcu
        cases hcu
        exact .inl rfl
      · rw [hd] at he
        cases he
        exact .inr rfl
    rw [hsame hsame', Bool.true_and, decide_eq_true_eq, hlength, hlength']
    rcases hsame' with rfl | rfl
    · rw [← hlength, ← hlength']
    · rfl

/-! ### Nodes and dictionaries -/

/-- The entry of a text is found by that text, also where other texts have the same digest. -/
theorem runOn_findEntry (hs : s.classAttrs = []) (name : String) (pairs : Attrs) :
    Effect.runOn (Action.findEntry (textDigest name) (.text name) (entriesOf pairs)
      (Behaviour.level (k + 1))) s = (.ok ((pairs.lookup name).map (textEntry name)), s) := by
  induction pairs with
  | nil => rfl
  | cons p pairs ih =>
    obtain ⟨key, x⟩ := p
    change Effect.runOn (Action.findEntry (textDigest name) (.text name)
      (textEntry key x :: entriesOf pairs) (Behaviour.level (k + 1))) s = _
    unfold Action.findEntry
    by_cases hk : name = key
    · subst hk
      have hfound : (textEntry name x).digest = textDigest name ∧ (textEntry name x).key = .text name :=
        ⟨rfl, rfl⟩
      rw [List.lookup_cons, beq_self_eq_true, if_pos hfound.1, if_pos hfound.2]
      rfl
    · rw [List.lookup_cons, beq_eq_false_iff_ne.mpr hk]
      have hne : (textEntry key x).key ≠ .text name := fun h => hk (Value.text.inj h).symm
      have hequal : Effect.runOn (Action.equal (.text key) (.text name) (Behaviour.level (k + 1))) s =
          (.ok false, s) := by
        rw [Action.runOn_equal_text hs, beq_eq_false_iff_ne.mpr (Ne.symm hk)]
      by_cases hdigest : (textEntry key x).digest = textDigest name
      · rw [if_pos hdigest, if_neg hne]
        exact (Action.runOn_bind_ok hequal _).trans ih
      · rw [if_neg hdigest]
        exact ih

/-- The first entry is looked up and compared before the others. -/
theorem runOn_entriesIn_cons {ys : List Entry} {p : String × Value} {rest : Attrs} {found : Entry}
    {answer : Bool}
    (hfind : Effect.runOn (Action.findEntry (textDigest p.1) (.text p.1) ys (Behaviour.level k)) s =
      (.ok (some found), s))
    (hsame : Effect.runOn (Action.same p.2 found.value (Behaviour.level k)) s = (.ok answer, s)) :
    Effect.runOn (Action.entriesIn ys (entriesOf (p :: rest)) (Behaviour.level k)) s =
      if answer then Effect.runOn (Action.entriesIn ys (entriesOf rest) (Behaviour.level k)) s
      else (.ok false, s) := by
  refine (Action.runOn_bind_ok hfind _).trans ?_
  refine (Action.runOn_bind_ok hsame _).trans ?_
  cases answer <;> rfl

/-- The keys of two nodes are compared like the entries of their dictionaries. -/
theorem runOn_sameAttrs_of_agree (hs : s.classAttrs = []) (ha : s.RegularNode r n)
    (hb : s.RegularNode q m) (hc : n.cls = m.cls) {value value' : String → Value}
    (hvalue : ∀ key ∈ n.cls.keys, n.slots.lookup key = some (value key))
    (hvalue' : ∀ key ∈ m.cls.keys, m.slots.lookup key = some (value' key))
    {all shown shown' : Attrs} (hkeys : ∀ key ∈ shown.map Prod.fst, key ∈ n.cls.keys)
    (hfst : shown.map Prod.fst = shown'.map Prod.fst)
    (hall : ∀ p ∈ shown', all.lookup p.1 = some p.2)
    (h : ∀ p ∈ shown, ∀ p' ∈ shown', p.1 = p'.1 → s.Agree k (value p.1) (value' p.1) p.2 p'.2) :
    ∃ answer,
      Effect.runOn (Action.sameAttrs (.ref r) (.ref q) ((shown.map Prod.fst).map .text)
        (Behaviour.level (k + 1))) s = (.ok answer, s) ∧
      Effect.runOn (Action.entriesIn (entriesOf all) (entriesOf shown) (Behaviour.level (k + 1))) s =
        (.ok answer, s) ∧
      ((∀ key ∈ shown.map Prod.fst, value key = value' key) ∨ shown = shown' → answer = true) := by
  induction shown generalizing shown' with
  | nil => exact ⟨true, rfl, rfl, fun _ => rfl⟩
  | cons p shown ih =>
    obtain ⟨p', shown', rfl⟩ : ∃ p' rest, shown' = p' :: rest := by
      cases shown' with
      | nil => nomatch hfst
      | cons p' rest => exact ⟨p', rest, rfl⟩
    simp only [List.map_cons, List.cons.injEq] at hfst
    obtain ⟨hkey, hkeys⟩ := List.forall_mem_cons.mp hkeys
    obtain ⟨hallp, hall⟩ := List.forall_mem_cons.mp hall
    obtain ⟨first, hab, hxy, hsame⟩ := h p (List.mem_cons_self ..) p' (List.mem_cons_self ..) hfst.1
    obtain ⟨rest, hattrs, hentries, hsames⟩ := ih hkeys hfst.2 hall fun p hp p' hp' =>
      h p (List.mem_cons_of_mem _ hp) p' (List.mem_cons_of_mem _ hp')
    have hxy' := runOn_same_of_equal hxy fun h => hsame (.inr h)
    have hfind := runOn_findEntry (k := k) hs p.1 all
    rw [hfst.1, hallp, ← hfst.1] at hfind
    refine ⟨first && rest, ?_, ?_, fun h => ?_⟩
    · rw [List.map_cons, List.map_cons]
      refine (Action.runOn_bind_ok (ha.runOn_key hkey (hvalue _ hkey)) _).trans ?_
      refine (Action.runOn_bind_ok (hb.runOn_key (hc ▸ hkey) (hvalue' _ (hc ▸ hkey))) _).trans ?_
      refine (Action.runOn_bind_ok hab _).trans ?_
      cases first
      · rfl
      · exact hattrs
    · rw [runOn_entriesIn_cons hfind hxy', hentries]
      cases first <;> rfl
    · have hfirst : value p.1 = value' p.1 ∨ p.2 = p'.2 :=
        h.imp (fun h => h _ (List.mem_cons_self ..)) fun h => congrArg Prod.snd (List.cons.inj h).1
      have hrest : (∀ key ∈ shown.map Prod.fst, value key = value' key) ∨ shown = shown' :=
        h.imp (fun h key hk => h key (List.mem_cons_of_mem _ hk)) fun h => (List.cons.inj h).2
      rw [hsame hfirst, hsames hrest]
      rfl

theorem entriesOf_injective {pairs pairs' : Attrs} (h : entriesOf pairs = entriesOf pairs') :
    pairs = pairs' := by
  refine List.map_injective_iff.mpr (fun p p' hp => ?_) h
  exact Prod.ext (Value.text.inj (congrArg Entry.key hp)) (congrArg Entry.value hp)

theorem lookup_of_mem (pairs : Attrs) (h : (pairs.map Prod.fst).Nodup) {p : String × Value}
    (hp : p ∈ pairs) : pairs.lookup p.1 = some p.2 := by
  induction pairs with
  | nil => nomatch hp
  | cons p' pairs ih =>
    obtain ⟨hnew, h⟩ := List.nodup_cons.mp h
    rcases List.mem_cons.mp hp with rfl | hp
    · rw [List.lookup_cons, beq_self_eq_true]
    · have hne : p.1 ≠ p'.1 := fun hk => hnew (hk ▸ List.mem_map_of_mem hp)
      rw [List.lookup_cons, beq_eq_false_iff_ne.mpr hne]
      exact ih h hp

theorem runOn_compareDicts {e : Ref} {xs ys : List Entry} (hd : s.get? d = some (.dict xs))
    (he : s.get? e = some (.dict ys)) {answer : Bool}
    (h : Effect.runOn (Action.sameEntries xs ys (Behaviour.level k)) s = (.ok answer, s)) :
    Effect.runOn (Action.compareContent (.ref d) (.ref e) (Behaviour.level k)) s =
      (.ok (some answer), s) := by
  refine (Effect.runOn_bind_ok (Effect.runOn_get s) _).trans ?_
  rw [cell?_ref hd]
  change Effect.runOn (Action.compareCell (.ref d) (.dict xs) (.ref e) (Behaviour.level k)) s = _
  unfold Action.compareCell
  refine (Action.runOn_bind_ok (Action.runOn_get s) _).trans ?_
  rw [cell?_ref he]
  exact Action.runOn_bind_ok h fun answer => pure (some answer)

/-- Nodes are compared like their dictionaries. -/
theorem agree_nodes {e : Ref} {value value' : String → Value} {shown shown' : Attrs}
    (ha : s.LibraryNode r n) (hb : s.LibraryNode q m)
    (hvalue : ∀ key ∈ n.cls.keys, n.slots.lookup key = some (value key))
    (hvalue' : ∀ key ∈ m.cls.keys, m.slots.lookup key = some (value' key))
    (hd : s.get? d = some (.dict (entriesOf (("kind", .text n.cls.kind) :: shown))))
    (he : s.get? e = some (.dict (entriesOf (("kind", .text m.cls.kind) :: shown'))))
    (hkeys : shown.map Prod.fst = n.cls.keys) (hkeys' : shown'.map Prod.fst = m.cls.keys)
    (h : ∀ p ∈ shown, ∀ p' ∈ shown', p.1 = p'.1 → s.Agree k (value p.1) (value' p.1) p.2 p'.2) :
    s.Agree (k + 1) (.ref r) (.ref q) (.ref d) (.ref e) := by
  have hs := ha.regular.classAttrs
  have hdict {f : Ref} {ys : List Entry} (hf : s.get? f = some (.dict ys)) (name : String) :
      s.special? (s.typeOf (.ref f)) name = none := by
    rw [typeOf_ref hf]
    exact special?_basic hs _ _
  have hdictType : (s.typeOf (.ref d)).id = (s.typeOf (.ref e)).id := by
    rw [typeOf_ref hd, typeOf_ref he]
    rfl
  have hnode := runOn_equalNode (k := k + 1) ha.regular hb.regular
  have hfindKind : Effect.runOn (Action.findEntry (textDigest "kind") (.text "kind")
      (entriesOf (("kind", .text m.cls.kind) :: shown')) (Behaviour.level (k + 1))) s =
        (.ok (some (textEntry "kind" (.text m.cls.kind))), s) := by
    rw [runOn_findEntry hs, List.lookup_cons, beq_self_eq_true]
    rfl
  by_cases hc : n.cls = m.cls
  · have hnotKind : "kind" ∉ shown'.map Prod.fst := hkeys' ▸ NodeClass.kind_notMem_keys _ hb.cls
    have hall : ∀ p ∈ shown', List.lookup p.1 (("kind", .text m.cls.kind) :: shown') = some p.2 :=
      fun p hp => lookup_of_mem (("kind", .text m.cls.kind) :: shown')
        (List.nodup_cons.mpr ⟨hnotKind, hkeys' ▸ hb.regular.cls.nodup⟩) (List.mem_cons_of_mem _ hp)
    obtain ⟨answer, hattrs, hentries, hsame⟩ := runOn_sameAttrs_of_agree hs ha.regular hb.regular hc
      hvalue hvalue' (fun key hk => hkeys ▸ hk) (hkeys.trans (hc ▸ hkeys'.symm)) hall h
    rw [if_pos (congrArg (·.serial) hc), ← hkeys, hattrs] at hnode
    refine ⟨answer, ?_, ?_, fun h => hsame ?_⟩
    · refine runOn_equal_of_first ?_ (ha.regular.special? (by decide))
        (runOn_compareNodes ha.regular hnode)
      rw [ha.regular.typeOf, hb.regular.typeOf, hc]
    · refine runOn_equal_of_first hdictType (hdict hd _) (runOn_compareDicts hd he ?_)
      have hlength : (entriesOf (("kind", .text n.cls.kind) :: shown)).length =
          (entriesOf (("kind", .text m.cls.kind) :: shown')).length := by
        have hfst := congrArg List.length (hkeys.trans (hc ▸ hkeys'.symm))
        simpa [entriesOf] using hfst
      have hkind : Effect.runOn (Action.same (.text n.cls.kind) (.text m.cls.kind)
          (Behaviour.level (k + 1))) s = (.ok true, s) := by
        unfold Action.same
        rw [if_pos (by rw [hc])]
        rfl
      unfold Action.sameEntries
      rw [if_pos hlength, runOn_entriesIn_cons (p := ("kind", .text n.cls.kind)) hfindKind hkind, if_pos rfl]
      exact hentries
    · rcases h with h | h <;> cases h
      · refine .inl fun key hk => ?_
        have hcell := hb.regular.cell
        rw [ha.regular.cell] at hcell
        cases hcell
        rw [hkeys] at hk
        exact Option.some.inj ((hvalue key hk).symm.trans (hvalue' key hk))
      · rw [hd] at he
        exact .inr (List.cons.inj (entriesOf_injective (Cell.dict.inj (Option.some.inj he)))).2
  · have hserial : n.cls.serial ≠ m.cls.serial := fun h =>
      hc (NodeClass.eq_of_serial ha.cls hb.cls h)
    have hkind : n.cls.kind ≠ m.cls.kind := fun h => hc (NodeClass.eq_of_kind ha.cls hb.cls h)
    rw [if_neg hserial] at hnode
    have hnode' := runOn_equalNode (k := k + 1) hb.regular ha.regular
    rw [if_neg hserial.symm] at hnode'
    have hne : Value.ref r ≠ .ref q := by
      rintro ⟨⟩
      have hcell := hb.regular.cell
      rw [ha.regular.cell] at hcell
      cases hcell
      exact hc rfl
    have hne' : Value.ref d ≠ .ref e := by
      rintro ⟨⟩
      rw [hd] at he
      have hentries := entriesOf_injective (Cell.dict.inj (Option.some.inj he))
      simp only [List.cons.injEq, Prod.mk.injEq, Value.text.injEq] at hentries
      exact hkind hentries.1.2
    refine agree_false (runOn_equal_of_differs (ha.regular.special? (by decide))
      (hb.regular.special? (by decide)) ⟨_, runOn_compareNodes ha.regular hnode, nofun⟩
      ⟨_, runOn_compareNodes hb.regular hnode', nofun⟩ hne)
      (runOn_equal_of_first hdictType (hdict hd _) (runOn_compareDicts hd he ?_)) hne hne'
    have hsame : Effect.runOn (Action.same (.text n.cls.kind) (.text m.cls.kind)
        (Behaviour.level (k + 1))) s = (.ok false, s) := by
      unfold Action.same
      rw [if_neg fun h => hkind (Value.text.inj h), Action.runOn_equal_text hs,
        beq_eq_false_iff_ne.mpr hkind]
    unfold Action.sameEntries
    split
    · rw [runOn_entriesIn_cons (p := ("kind", .text n.cls.kind)) hfindKind hsame, if_neg Bool.false_ne_true]
    · rfl

/-! ### Trees -/

theorem ShownAs.special? (hs : s.classAttrs = []) (h : s.ShownAs v x) :
    s.special? (s.typeOf v) "__eq__" = none ∧ s.special? (s.typeOf x) "__eq__" = none := by
  have hbasic {f : Ref} {t : BasicType} (hf : s.typeOf (.ref f) = .basic t) :
      s.special? (s.typeOf (.ref f)) "__eq__" = none := by
    rw [hf]
    exact special?_basic hs _ _
  cases h with
  | scalar hv => exact ⟨special?_scalar hs hv _, special?_scalar hs hv _⟩
  | node value shown hn _ hd =>
    exact ⟨hn.regular.special? (by decide), hbasic (t := .dict) (typeOf_ref hd)⟩
  | sequence hi hd =>
    exact ⟨Action.special?_tuple hs (cell_of_frozen? hi) _, hbasic (t := .list) (typeOf_ref hd)⟩

/-- Values of different forms are equal on neither side. -/
theorem ShownAs.agree_unlike (hs : s.classAttrs = []) (ha : s.ShownAs a x) (hb : s.ShownAs b y)
    (hab : s.Unlike k a b) (hxy : s.Unlike k x y) : s.Agree k a b x y :=
  have hleft := ha.special? hs
  have hright := hb.special? hs
  agree_false (runOn_equal_of_differs hleft.1 hright.1 hab.left hab.right hab.ne)
    (runOn_equal_of_differs hleft.2 hright.2 hxy.left hxy.right hxy.ne) hab.ne hxy.ne

/-- Trees are compared like what is shown for them. The induction is on the height. -/
theorem agree_of_shown (hs : s.classAttrs = []) {h : Nat} (hd : Tall s.Child h a)
    (ha : s.ShownAs a x) (hb : s.ShownAs b y) : s.Agree (h + k) a b x y := by
  induction h generalizing a b x y with
  | zero => exact hd.elim
  | succ h ih =>
    rw [Nat.add_right_comm]
    have hunlike := ha.agree_unlike (k := h + k + 1) hs hb
    cases ha with
    | scalar hv =>
      cases hb with
      | scalar hw => exact agree_scalars hs hv hw
      | node _ _ hn _ hdict =>
        exact hunlike (unlike_scalar_node hv hn.regular) (unlike_scalar_collection hv hdict rfl)
      | sequence hi hl =>
        exact hunlike (unlike_scalar_collection hv (cell_of_frozen? hi) rfl)
          (unlike_scalar_collection hv hl rfl)
    | node value shown hn hvalue hdict hkeys hop hshown =>
      cases hb with
      | scalar hw =>
        exact hunlike (unlike_scalar_node hw hn.regular).symm (unlike_scalar_collection hw hdict rfl).symm
      | sequence hi hl =>
        exact hunlike (unlike_node_sequence hn.regular hi) (unlike_dict_list hdict hl)
      | node value' shown' hn' hvalue' hdict' hkeys' hop' hshown' =>
        refine agree_nodes hn hn' hvalue hvalue' hdict hdict' hkeys hkeys' fun p hp p' hp' hpp => ?_
        have hkey := hkeys ▸ List.mem_map_of_mem (f := Prod.fst) hp
        have hheight := hd _ ⟨_, hn.regular.step? hkey (hvalue _ hkey)⟩
        by_cases ho : p.1 = "operation"
        · obtain ⟨op, hv, hx⟩ := hop p hp ho
          obtain ⟨op', hv', hx'⟩ := hop' p' hp' (hpp ▸ ho)
          rw [hv, hx, hpp, hv', hx']
          exact agree_operations hs op op'
        · have hshown'' := hshown' p' hp' (hpp ▸ ho)
          rw [← hpp] at hshown''
          exact ih hheight (hshown p hp ho) hshown''
    | sequence hi hl hlength hshown =>
      cases hb with
      | scalar hw =>
        exact hunlike (unlike_scalar_collection hw (cell_of_frozen? hi) rfl).symm
          (unlike_scalar_collection hw hl rfl).symm
      | node _ _ hn _ hdict =>
        exact hunlike (unlike_node_sequence hn.regular hi).symm (unlike_dict_list hdict hl).symm
      | sequence hi' hl' hlength' hshown' =>
        refine agree_sequences hs hi hi' hl hl' hlength hlength' fun p hp q hq => ?_
        obtain ⟨e, he⟩ := exists_item hi (List.of_mem_zip hp).1
        exact ih (hd _ ⟨_, he⟩) (hshown p hp) (hshown' q hq)

/-- **Two trees are equal exactly if their dictionaries are.** Both can be shown, one after the other,
as plain data that follow their shape, and then both comparisons have the same answer. -/
theorem runOn_dictionary_faithful (hs : s.classAttrs = []) (ha : s.SyntaxTree a)
    (hb : s.SyntaxTree b) :
    ∃ x s₁ y s₂, (Action.dictionary a).perform.runOn s = (.ok x, s₁) ∧
      (Action.dictionary b).perform.runOn s₁ = (.ok y, s₂) ∧ s.Grows s₂ ∧
      s₂.ShownAs a x ∧ s₂.IsData x ∧ s₂.ShownAs b y ∧ s₂.IsData y ∧
      ∃ answer, (Action.equal a b).perform.runOn s₂ = (.ok answer, s₂) ∧
        (Action.equal x y).perform.runOn s₂ = (.ok answer, s₂) := by
  obtain ⟨x, s₁, hrun₁, hg₁, hx⟩ := runOn_dictionary hs ha
  have hs₁ := hg₁.classAttrs.trans hs
  obtain ⟨y, s₂, hrun₂, hg₂, hy⟩ := runOn_dictionary hs₁ (hb.grows hg₁)
  have hs₂ := hg₂.classAttrs.trans hs₁
  have hx₂ := hx.grows hg₂
  have htall := (ha.grows (trans_of Grows hg₁ hg₂)).tall
  obtain ⟨answer, hab, hxy, -⟩ := agree_of_shown (k := 998 + 7 * s₂.size) hs₂ htall hx₂ hy
  refine ⟨x, s₁, y, s₂, hrun₁, hrun₂, trans_of Grows hg₁ hg₂, hx₂, hx₂.isData, hy, hy.isData, answer, ?_⟩
  rw [Action.runOn_perform, Action.runOn_perform,
    show s₂.depthLimit = s₂.size + 1 + (998 + 7 * s₂.size) + 1 by unfold depthLimit; omega]
  exact ⟨hab, hxy⟩

/-- Two operations that differ in their types only. -/
def operationPair : Store where
  cells := #[.tuple .frozen [] (.own []), operation .query, operation .mutation]
  nextTag := 0
  classAttrs := []
  functionData := []
where
  /-- An operation of a type, without anything in it. -/
  operation (op : OperationType) : Cell :=
    .node ⟨.operationDefinition, [("name", .null), ("directives", .ref 0), ("selections", .ref 0),
      ("operation", .operation op), ("variable_definitions", .ref 0)], .own [], none⟩

theorem operationPair_syntaxTree {r : Ref} (op : OperationType)
    (hr : operationPair.get? r = some (operationPair.operation op)) :
    operationPair.SyntaxTree (.ref r) := by
  have hlibrary : NodeClass.operationDefinition ∈ NodeClass.library := by decide
  have hnode : operationPair.LibraryNode r ⟨.operationDefinition, [("name", .null),
      ("directives", .ref 0), ("selections", .ref 0), ("operation", .operation op),
      ("variable_definitions", .ref 0)], .own [], none⟩ := by
    refine ⟨⟨rfl, hr, NodeClass.regular_library _ hlibrary, [], rfl, fun _ _ => rfl⟩, hlibrary, ?_⟩
    unfold field?
    rw [cell?_ref hr]
    rfl
  have hitems : operationPair.frozen? (.ref 0) = some [] := rfl
  have hempty : operationPair.SyntaxTree (.ref 0) := .sequence hitems nofun
  have hkeys : NodeClass.operationDefinition.keys =
      ["name", "directives", "selections", "operation", "variable_definitions"] := rfl
  refine .node (fun key => if key = "operation" then .operation op else
    if key = "name" then .null else .ref 0) hnode ?_ (fun key _ hk => ⟨op, if_pos hk⟩) ?_
  · dsimp only
    rw [hkeys]
    simp [List.lookup_cons]
  · intro key _ hk
    rw [if_neg hk]
    split
    · exact .scalar rfl
    · exact hempty

theorem runOn_dictionary_faithful_operationPair :
    operationPair.classAttrs = [] ∧ operationPair.SyntaxTree (.ref 1) ∧
      operationPair.SyntaxTree (.ref 2) ∧
      ∃ x s₁ y s₂, (Action.dictionary (.ref 1)).perform.runOn operationPair = (.ok x, s₁) ∧
        (Action.dictionary (.ref 2)).perform.runOn s₁ = (.ok y, s₂) ∧
        ∃ answer, (Action.equal (.ref 1) (.ref 2)).perform.runOn s₂ = (.ok answer, s₂) ∧
          (Action.equal x y).perform.runOn s₂ = (.ok answer, s₂) := by
  have hquery : operationPair.SyntaxTree (.ref 1) := operationPair_syntaxTree .query rfl
  have hmutation : operationPair.SyntaxTree (.ref 2) :=
    operationPair_syntaxTree .mutation rfl
  obtain ⟨x, s₁, y, s₂, hrun₁, hrun₂, -, -, -, -, -, hanswer⟩ :=
    runOn_dictionary_faithful rfl hquery hmutation
  exact ⟨rfl, hquery, hmutation, x, s₁, y, s₂, hrun₁, hrun₂, hanswer⟩

end Store
end GraphQLTree
