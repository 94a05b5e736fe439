import GraphQLTree.Proofs.BuildHistory
import GraphQLTree.Proofs.Hashing

/-! # Histories of hashing

Programs build up nodes, assign their keys, copy them and compute digests, in any order
(`Store.Uses`). A node forgets its digest when one of its own keys is assigned, but not when a node that
it holds is changed: then it may be equal to a node of another digest (`Store.digest_stale`). Where no
node is changed while another one that holds it remembers a digest, all digests that are remembered stay
those of the contents (`Store.Uses.fresh`), and equal nodes have equal digests
(`Store.Uses.digest_eq`). -/

namespace GraphQLTree

/-- The node that an operation changes, if it changes one. -/
def BuildOp.changed? : BuildOp → Option Ref
  | add r _ _ | set r _ _ | markNonNull r => some r
  | construct _ _ | copy _ | deepCopy _ => none

namespace Store

variable {s s' s₀ s₁ s₂ s₃ : Store} {r q t : Ref} {n m : NodeObject} {a b v x : Value} {d e : Digest}
  {key : String} {items : List Value} {out : Ref → Prop} {op : BuildOp} {o : Except Halt Value}
  {free : Store → Ref → Prop}

/-! ### Runs -/

/-- The stores that a program reaches, where `free` tells which nodes it may change at a time. Keys of
sequences are assigned child sequences only. -/
inductive Uses (free : Store → Ref → Prop) (s₀ : Store) : Store → Prop
  | start : Uses free s₀ s₀
  | aside {s s' : Store} : Uses free s₀ s → s.KeepsNodes nowhere s' → Uses free s₀ s'
  | build {s s' : Store} {op : BuildOp} {o : Except Halt Value} : Uses free s₀ s → s.Applicable op →
      (∀ r ∈ op.changed?, free s r) → op.run s = (o, s') → Uses free s₀ s'
  | assign {s s' : Store} {r : Ref} {n : NodeObject} {key : String} {x : Value} {o : Except Halt Unit} :
      Uses free s₀ s → s.LibraryCell r n → key ∈ n.cls.keys →
      (key ∈ n.cls.sequenceKeys → ∃ items, s.frozen? x = some items) → free s r →
      (Action.setAttr (.ref r) key x).perform.runOn s = (o, s') → Uses free s₀ s'
  | hash {s s' : Store} {v : Value} {o : Except Halt Digest} : Uses free s₀ s → s.Tame v →
      (Action.digest v).perform.runOn s = (o, s') → Uses free s₀ s'

/-- No other node that remembers a digest holds a node, at any depth. -/
def Unwatched (s : Store) (r : Ref) : Prop :=
  ∀ q n, s.LibraryCell q n → n.digest? ≠ none → q ≠ r →
    ¬ Relation.ReflTransGen s.Holds (.ref q) (.ref r)

/-! ### Digests that stay those of the contents -/

/-- The digest of contents is the same where what a value holds is not changed. -/
theorem Settled.keepsNodes (h : s.Settled v d) (hk : s.KeepsNodes out s')
    (hout : ∀ r, r < s.size → Relation.ReflTransGen s.Holds v (.ref r) → ¬ out r) : s'.Settled v d := by
  induction h with
  | atom hv => exact .atom hv
  | @node r n f hn hkeys _ ih =>
    have hr := hout r (lt_size_of_get? hn.1) .refl
    refine .node ⟨(hk.node hr).mpr hn.1, hn.2⟩ hkeys fun key hkey x hx => ih key hkey x hx ?_
    exact fun q hq hreach => hout q hq (.head (.key hn.1 hkey hx) hreach)
  | @tuple t form items fields f hc _ ih =>
    have ht := hout t (lt_size_of_get? hc) .refl
    refine .tuple (hk.tuple ht hc) fun x hx => ih x hx ?_
    exact fun q hq hreach => hout q hq (.head (.item (sequence?_tuple hc) hx) hreach)

/-- All digests that are remembered are still those of the contents, if no changed node is held by a
node that remembers one, and changed and new nodes remember none. -/
theorem Fresh.keepsNodes (hf : s.Fresh) (hk : s.KeepsNodes out s')
    (hout : ∀ {q n}, ¬ out q → s.LibraryCell q n → n.digest? ≠ none → ∀ r, r < s.size →
      Relation.ReflTransGen s.Holds (.ref q) (.ref r) → ¬ out r)
    (hnew : ∀ {q m}, out q → s'.LibraryCell q m → m.digest? = none) : s'.Fresh := by
  intro q m d hm hd
  by_cases hq : out q
  · rw [hnew hq hm] at hd
    cases hd
  · have hn : s.LibraryCell q m := ⟨(hk.node hq).mp hm.1, hm.2⟩
    exact (hf hn hd).keepsNodes hk (hout hq hn (by simp [hd]))

theorem Fresh.made (hf : s.Fresh) (hk : s.KeepsNodes (· = s.size) s') (hm : s'.get? s.size = some (.node m))
    (hd : m.digest? = none) : s'.Fresh := by
  refine hf.keepsNodes hk (fun _ _ _ r hr _ => Nat.ne_of_lt hr) ?_
  rintro q m' rfl hm'
  cases hm.symm.trans hm'.1
  exact hd

theorem Fresh.changesKey (hf : s.Fresh) (hc : s.ChangesKey s' r key) (hr : s.Unwatched r) :
    s'.Fresh := by
  obtain ⟨n, m, -, hm, -, -, hd, -⟩ := hc.node
  refine hf.keepsNodes hc.keepsNodes (fun {q n} hq hn hdigest r' _ hreach heq => ?_) ?_
  · subst heq
    exact hr q n hn hdigest hq hreach
  · rintro q m' rfl hm'
    cases hm.symm.trans hm'.1
    exact hd

theorem Fresh.does (hf : s.Fresh) (hd : s.Does s' op o) (hr : ∀ r ∈ op.changed?, s.Unwatched r) :
    s'.Fresh := by
  cases hd with
  | construct hk hm _ hd => exact hf.made hk hm hd
  | add hc => exact hf.changesKey hc (hr _ rfl)
  | set hc => exact hf.changesKey hc (hr _ rfl)
  | mark hc => exact hf.changesKey hc (hr _ rfl)
  | refuse hk => exact hf.keepsNodes hk (fun _ _ _ _ _ _ => id) fun h => h.elim
  | copy hk _ hm _ hd => exact hf.made hk hm hd
  | deepCopy hk hcopied =>
    refine hf.keepsNodes hk (fun _ _ _ r hr _ => Nat.not_le.mpr hr) fun {q m} hq hm => ?_
    obtain hlt | ⟨z, hz, hz'⟩ := hcopied.node hm.1
    · exact absurd hlt (Nat.not_lt.mpr hq)
    · obtain ⟨t, ht, -, hcopy⟩ := hcopied.copy hz hz'
      cases ht
      cases hcopy with
      | node _ hmade =>
        cases hmade.cell.symm.trans hm.1
        rfl
      | sequence _ hi => cases (cell_of_frozen? hi).symm.trans hm.1

/-- Where no node is changed while another one that holds it remembers a digest, all digests that are
remembered stay those of the contents. -/
theorem Uses.fresh (h : Uses Unwatched s₀ s) (h₀ : s₀.Sound) (hf₀ : s₀.Fresh) : s.Sound ∧ s.Fresh := by
  induction h with
  | start => exact ⟨h₀, hf₀⟩
  | aside _ hk ih =>
    exact ⟨ih.1.aside hk, ih.2.keepsNodes hk (fun _ _ _ _ _ _ => id) fun h => h.elim⟩
  | build _ ha hr hrun ih =>
    obtain ⟨hs, hd⟩ := ih.1.of_run ha hrun
    exact ⟨hs, ih.2.does hd hr⟩
  | @assign s s' r n key x o _ hn hk hx hr hrun ih =>
    have hsound := ih.1.node hn
    have hset : (Action.setAttr (.ref r) key x).perform.runOn s =
        (.ok (), s.put r (.node (assigned n key x))) := by
      rw [Action.runOn_perform, show s.depthLimit = 998 + 8 * s.size + 2 by unfold depthLimit; omega]
      exact hsound.regularNode.runOn_setAttr hsound.digest hk x
    cases hset.symm.trans hrun
    have hput := keepsNodes_put s r (.node (assigned n key x))
    obtain ⟨hs, -, hc⟩ := ih.1.assign (x := x) hsound hk hput (get?_put s _ (lt_size_of_get? hn.1))
      fun hmem => by
        obtain ⟨items, hi⟩ := hx hmem
        refine ⟨items, hput.keepsFrozen (fun {t items} hi heq => ?_) hi⟩
        subst heq
        cases (cell_of_frozen? hi).symm.trans hn.1
    exact ⟨hs, ih.2.changesKey hc hr⟩
  | @hash s s' v o _ hv hrun ih =>
    obtain ⟨S, hS, hSv⟩ := hv
    rw [Action.runOn_perform] at hrun
    obtain ⟨hhash, hf, -⟩ := runOn_digest _ ih.1 ih.2 hS hSv hrun
    exact ⟨hhash.sound ih.1, hf⟩

/-- **Equal nodes have equal digests** in every store that is reached by building up, assigning, copying
and hashing nodes in any order, where no node is changed while another one that holds it remembers a
digest. -/
theorem Uses.digest_eq (h₀ : s₀.Sound) (hf₀ : s₀.Fresh) (h : Uses Unwatched s₀ s) (ha : s.Tame a)
    (hb : s.Tame b) (hda : (Action.digest a).perform.runOn s = (.ok d, s₁))
    (hdb : (Action.digest b).perform.runOn s₁ = (.ok e, s₂))
    (hequal : (Action.equal a b).perform.runOn s₂ = (.ok true, s₃)) : d = e := by
  obtain ⟨hs, hf⟩ := h.fresh h₀ hf₀
  obtain ⟨S, hS, hSa⟩ := ha
  obtain ⟨T, hT, hTb⟩ := hb
  rw [Action.runOn_perform] at hda hdb hequal
  obtain ⟨hhash₁, hf₁, hd⟩ := runOn_digest _ hs hf hS hSa hda
  obtain ⟨hhash₂, -, he⟩ := runOn_digest _ (hhash₁.sound hs) hf₁ (hhash₁.closed hT) hTb hdb
  have hs₂ := (hhash₁.trans hhash₂).sound hs
  exact (equalAgree hs₂ _ ((hhash₁.trans hhash₂).settled (hd d rfl)) (hhash₂.settled (he e rfl)) hequal).2

/-! ### Values that can be hashed -/

theorem Plainly.mono {S T : Value → Prop} (h : s.Plainly S v) (hST : ∀ x, S x → T x) : s.Plainly T v := by
  cases h with
  | atom hv => exact .atom hv
  | node hn hall => exact .node hn fun key hkey x hx => hST x (hall key hkey x hx)
  | tuple hc hall => exact .tuple hc fun x hx => hST x (hall x hx)
  | unhashable hc hu => exact .unhashable hc hu

theorem Tame.plainly (h : s.Tame v) : s.Plainly s.Tame v := by
  obtain ⟨S, hS, hv⟩ := h
  exact (hS hv).mono fun x hx => ⟨S, hS, hx⟩

/-- What holds such values only is such a value. -/
theorem Plainly.tame (h : s.Plainly s.Tame v) : s.Tame v := by
  refine ⟨fun x => x = v ∨ s.Tame x, fun x hx => ?_, .inl rfl⟩
  obtain rfl | hx := hx
  · exact h.mono fun x => .inr
  · exact hx.plainly.mono fun x => .inr

theorem Tame.node (hn : s.LibraryCell r n)
    (hall : ∀ key ∈ n.cls.keys, ∀ x, n.slots.lookup key = some x → s.Tame x) : s.Tame (.ref r) :=
  Plainly.tame (.node hn hall)

/-! ### A list type whose type is marked -/

/-- A list type of a named type. -/
def listOfType : Store :=
  ((BuildOp.construct .listType [("type", .ref 0)]).run
    ((BuildOp.construct .namedType [("name", .text "A")]).run empty).2).2

/-- The store after the named type was marked. -/
def typeMarked (s : Store) : Store :=
  ((BuildOp.markNonNull 0).run s).2

/-- The store after the digest of a value was computed. -/
def afterDigest (s : Store) (v : Value) : Store :=
  ((Action.digest v).perform.runOn s).2

/-- The store with another list type that equals the first one after its type was marked. -/
def withEqualList (s : Store) : Store :=
  ((BuildOp.construct .listType [("type", .ref s.size)]).run
    ((BuildOp.construct .namedType [("name", .text "A"), ("nullable", .bool false)]).run s).2).2

/-- Whether a node is of a class and has some attributes, whatever digest it remembers. -/
def IsNode (s : Store) (r : Ref) (c : NodeClass) (slots : Attrs) : Prop :=
  (s.node? (.ref r)).map (fun n => (n.cls, n.slots, n.fields)) = some (c, slots, .own [])

instance (c : NodeClass) (slots : Attrs) : Decidable (s.IsNode r c slots) :=
  inferInstanceAs (Decidable (_ = _))

theorem IsNode.libraryCell {c : NodeClass} {slots : Attrs} (h : s.IsNode r c slots)
    (hc : c ∈ NodeClass.library) : ∃ d?, s.LibraryCell r ⟨c, slots, .own [], d?⟩ := by
  obtain ⟨⟨c', slots', fields', d?⟩, hn, heq⟩ := Option.map_eq_some_iff.mp h
  cases heq
  refine ⟨d?, ?_, hc⟩
  unfold Store.node? cell? at hn
  split at hn
  · cases hn
    assumption
  · cases hn

theorem sound_empty : empty.Sound :=
  sound_of_noNodes rfl fun _ _ h => nomatch h

theorem fresh_empty : empty.Fresh :=
  fun _ _ _ h => nomatch h.1

theorem Uses.make {c : NodeClass} {args : Attrs} (h : Uses free s₀ s) (hs : s.Sound)
    (hc : c ∈ NodeClass.library) (hself : "self" ∉ args.map Prod.fst) (hsequences : c.sequenceKeys = []) :
    Uses free s₀ ((BuildOp.construct c args).run s).2 ∧ ((BuildOp.construct c args).run s).2.Sound := by
  have ha : s.Applicable (.construct c args) := by
    refine applicable_construct hs.classAttrs hc hself ?_
    rw [hsequences]
    exact fun key hkey => absurd hkey List.not_mem_nil
  exact ⟨.build h ha nofun rfl, hs.after ha⟩

theorem uses_listOfType : Uses free empty listOfType ∧ listOfType.Sound := by
  have hself : "self" ∉ ([("name", .text "A")] : Attrs).map Prod.fst := by decide
  obtain ⟨h₁, hs₁⟩ := Uses.make (c := .namedType) .start sound_empty (by decide) hself rfl
  exact h₁.make hs₁ (by decide) (by decide) rfl

theorem sound_listOfType : listOfType.Sound :=
  have h : Uses Unwatched empty listOfType ∧ listOfType.Sound := uses_listOfType
  h.2

theorem Uses.withEqualList (h : Uses free s₀ s) (hs : s.Sound) : Uses free s₀ s.withEqualList := by
  have hself : "self" ∉ ([("name", .text "A"), ("nullable", .bool false)] : Attrs).map Prod.fst := by decide
  obtain ⟨h₁, hs₁⟩ := h.make (c := .namedType) hs (by decide) hself rfl
  exact (h₁.make hs₁ (by decide) (by simp) rfl).1

/-- The named type can be marked where it was not marked before. -/
theorem Uses.typeMarked (h : Uses free s₀ s) (hs : s.Sound) (hfree : free s 0)
    (hn : s.IsNode 0 .namedType [("nullable", .bool true), ("name", .text "A")]) :
    Uses free s₀ s.typeMarked ∧ s.typeMarked.Sound := by
  obtain ⟨d?, hn⟩ := hn.libraryCell (by decide)
  have ha : s.Applicable (.markNonNull 0) :=
    ⟨_, .bool true, hn, by simp only; decide, rfl, (hs.node hn).markable (by simp only; decide) rfl rfl⟩
  exact ⟨.build h ha (fun r hr => by cases hr; exact hfree) rfl, hs.after ha⟩

/-- A list type of a named type can be hashed. -/
theorem tame_list {x y : Value} (hn : s.IsNode r .listType [("nullable", x), ("type", .ref q)])
    (hm : s.IsNode q .namedType [("nullable", y), ("name", .text "A")]) (hx : x.isAtom = true)
    (hy : y.isAtom = true) : s.Tame (.ref r) := by
  obtain ⟨_, hn⟩ := hn.libraryCell (by decide)
  obtain ⟨_, hm⟩ := hm.libraryCell (by decide)
  have htype : s.Tame (.ref q) := by
    refine .node hm fun key hkey v hv => Plainly.tame (.atom ?_)
    obtain rfl | hkey := List.mem_cons.mp hkey
    · cases hv
      exact hy
    · obtain rfl := List.mem_singleton.mp hkey
      cases hv
      rfl
  refine .node hn fun key hkey v hv => ?_
  obtain rfl | hkey := List.mem_cons.mp hkey
  · cases hv
    exact Plainly.tame (.atom hx)
  · obtain rfl := List.mem_singleton.mp hkey
    cases hv
    exact htype

theorem runOn_of_toOption {α : Type} {x : Effect α} {v : α} (h : (x.runOn s).1.toOption = some v) :
    x.runOn s = (.ok v, (x.runOn s).2) := by
  rcases hrun : x.runOn s with ⟨e | w, s'⟩
  · rw [hrun] at h
    cases h
  · rw [hrun] at h
    cases h
    rfl

/-- The digest of a value, if it has one. -/
def digestIn (s : Store) (v : Value) : Option Digest :=
  ((Action.digest v).perform.runOn s).1.toOption

theorem runOn_digestIn (h : (s.digestIn v).isSome) :
    ∃ d, s.digestIn v = some d ∧ (Action.digest v).perform.runOn s = (.ok d, s.afterDigest v) := by
  obtain ⟨d, hd⟩ := Option.isSome_iff_exists.mp h
  exact ⟨d, hd, runOn_of_toOption hd⟩

/-- Whether both list types can be hashed and are equal then. -/
def EqualLists (s : Store) : Prop :=
  (s.IsNode 1 .listType [("nullable", .bool true), ("type", .ref 0)] ∧
    s.IsNode 0 .namedType [("nullable", .bool false), ("name", .text "A")]) ∧
  (s.IsNode 5 .listType [("nullable", .bool true), ("type", .ref 4)] ∧
    s.IsNode 4 .namedType [("nullable", .bool false), ("name", .text "A")]) ∧
  (s.digestIn (.ref 1)).isSome ∧ ((s.afterDigest (.ref 1)).digestIn (.ref 5)).isSome ∧
  ((Action.equal (.ref 1) (.ref 5)).perform.runOn
    ((s.afterDigest (.ref 1)).afterDigest (.ref 5))).1.toOption = some true

instance : Decidable s.EqualLists :=
  inferInstanceAs (Decidable ((_ ∧ _) ∧ (_ ∧ _) ∧ _ ∧ _ ∧ _))

theorem EqualLists.runs (h : s.EqualLists) : s.Tame (.ref 1) ∧ s.Tame (.ref 5) ∧
    ∃ s₁ s₂ s₃ d e, (Action.digest (.ref 1)).perform.runOn s = (.ok d, s₁) ∧
      (Action.digest (.ref 5)).perform.runOn s₁ = (.ok e, s₂) ∧
      (Action.equal (.ref 1) (.ref 5)).perform.runOn s₂ = (.ok true, s₃) ∧
      s.digestIn (.ref 1) = some d ∧ (s.afterDigest (.ref 1)).digestIn (.ref 5) = some e := by
  obtain ⟨⟨hn, hm⟩, ⟨hn', hm'⟩, hd, he, hequal⟩ := h
  obtain ⟨d, hd, hda⟩ := runOn_digestIn hd
  obtain ⟨e, he, hdb⟩ := runOn_digestIn he
  exact ⟨tame_list hn hm rfl rfl, tame_list hn' hm' rfl rfl, _, _, _, d, e, hda, hdb,
    runOn_of_toOption hequal, hd, he⟩

/-- The list type was hashed before its type was marked. -/
def staleList : Store :=
  (listOfType.afterDigest (.ref 1)).typeMarked.withEqualList

/-- The list type was hashed after its type was marked. -/
def freshList : Store :=
  (listOfType.typeMarked.afterDigest (.ref 1)).withEqualList

/-- **A node may be equal to one of another digest after a node that it holds was changed.** -/
theorem digest_stale : ¬ ∀ (s s₁ s₂ s₃ : Store) (a b : Value) (d e : Digest),
    Uses (fun _ _ => True) empty s → s.Tame a → s.Tame b →
    (Action.digest a).perform.runOn s = (.ok d, s₁) →
    (Action.digest b).perform.runOn s₁ = (.ok e, s₂) →
    (Action.equal a b).perform.runOn s₂ = (.ok true, s₃) → d = e := by
  intro h
  have hlist : listOfType.Tame (.ref 1) :=
    tame_list (x := .bool true) (q := 0) (y := .bool true) (by decide +kernel) (by decide +kernel) rfl rfl
  have hs : (listOfType.afterDigest (.ref 1)).Sound := by
    have hhashed : Uses Unwatched empty (listOfType.afterDigest (.ref 1)) :=
      .hash uses_listOfType.1 hlist rfl
    exact (hhashed.fresh sound_empty fresh_empty).1
  have hhashed : Uses (fun _ _ => True) empty (listOfType.afterDigest (.ref 1)) :=
    .hash uses_listOfType.1 hlist rfl
  obtain ⟨hmarked, hs⟩ := hhashed.typeMarked hs trivial (by decide +kernel)
  have huses : Uses (fun _ _ => True) empty staleList := hmarked.withEqualList hs
  have hfacts : staleList.EqualLists ∧ staleList.digestIn (.ref 1) ≠
      (staleList.afterDigest (.ref 1)).digestIn (.ref 5) := by decide +kernel
  obtain ⟨ha, hb, s₁, s₂, s₃, d, e, hda, hdb, hequal, hd, he⟩ := hfacts.1.runs
  refine hfacts.2 ?_
  rw [hd, he, h _ _ _ _ _ _ _ _ huses ha hb hda hdb hequal]

/-- No node of the list type remembers a digest yet. -/
theorem unwatched_listOfType (r : Ref) : listOfType.Unwatched r := by
  intro q n hn hd
  have hlt : q < 2 := (by decide +kernel : listOfType.size = 2) ▸ lt_size_of_get? hn.1
  have hnone : ∀ q < 2, (listOfType.node? (.ref q)).all (·.digest? = none) := by decide +kernel
  have hnode : listOfType.node? (.ref q) = some n := by
    unfold Store.node?
    rw [cell?_ref hn.1]
  have := hnone q hlt
  rw [hnode] at this
  exact absurd (of_decide_eq_true this) hd

/-- A list type and another one that equals it, where the type was marked before. -/
theorem Uses.digest_eq_freshList : ∃ s₁ s₂ s₃ : Store, ∃ d e, empty.Sound ∧ empty.Fresh ∧
    Uses Unwatched empty freshList ∧ freshList.Tame (.ref 1) ∧ freshList.Tame (.ref 5) ∧
    (Action.digest (.ref 1)).perform.runOn freshList = (.ok d, s₁) ∧
    (Action.digest (.ref 5)).perform.runOn s₁ = (.ok e, s₂) ∧
    (Action.equal (.ref 1) (.ref 5)).perform.runOn s₂ = (.ok true, s₃) ∧ d = e := by
  obtain ⟨hmarked, -⟩ := uses_listOfType.1.typeMarked sound_listOfType (unwatched_listOfType 0)
    (by decide +kernel)
  have hlist : listOfType.typeMarked.Tame (.ref 1) :=
    tame_list (x := .bool true) (q := 0) (y := .bool false) (by decide +kernel) (by decide +kernel) rfl rfl
  have hhashed : Uses Unwatched empty (listOfType.typeMarked.afterDigest (.ref 1)) :=
    .hash hmarked hlist rfl
  have huses : Uses Unwatched empty freshList :=
    hhashed.withEqualList (hhashed.fresh sound_empty fresh_empty).1
  have hfacts : freshList.EqualLists := by decide +kernel
  obtain ⟨ha, hb, s₁, s₂, s₃, d, e, hda, hdb, hequal, -⟩ := hfacts.runs
  exact ⟨s₁, s₂, s₃, d, e, sound_empty, fresh_empty, huses, ha, hb, hda, hdb, hequal,
    Uses.digest_eq sound_empty fresh_empty huses ha hb hda hdb hequal⟩

end Store
end GraphQLTree
