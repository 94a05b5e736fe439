import GraphQLTree.Proofs.Building
import GraphQLTree.Proofs.Faithfulness

/-! # Digests and equality

The digest of what is made of nodes of the library, tuples and values that are no objects is told by
these alone (`Store.Settled`). Two such values that are equal have the same digest
(`Store.equalAgree`): numbers because equal quantities have one digest, and tuples and nodes
part by part. -/

namespace GraphQLTree

/-! ### Numbers -/

theorem natAbs_avoidMinusOne_le {n : Int} {bound : Nat} (h : n.natAbs ≤ bound) (hb : 2 ≤ bound) :
    (avoidMinusOne n).natAbs ≤ bound := by
  unfold avoidMinusOne
  split
  · exact hb
  · exact h

theorem avoidMinusOne_ne (n : Int) : avoidMinusOne n ≠ -1 := by
  unfold avoidMinusOne
  split
  · decide
  · assumption

theorem avoidMinusOne_of_ne {n : Int} (h : n ≠ -1) : avoidMinusOne n = n :=
  if_neg h

namespace Quantity

variable {q q' : Quantity}

theorem digest_ne (h : q ≠ .undefined) : q.digest ≠ -1 := by
  cases q with
  | undefined => exact absurd rfl h
  | infinite negative => cases negative <;> decide
  | units count => exact avoidMinusOne_ne _

/-- Digests of quantities take no more than 62 bits. -/
theorem natAbs_digest_lt (q : Quantity) : q.digest.natAbs < Nat.pow 2 62 := by
  cases q with
  | undefined => decide
  | infinite negative => cases negative <;> decide
  | units count =>
    have hmod : count.natAbs * Nat.pow 2 24 % digestPrime < digestPrime :=
      Nat.mod_lt _ (by decide)
    have hprime : digestPrime ≤ Nat.pow 2 61 := by decide
    have htwo : 2 ≤ Nat.pow 2 61 := by decide
    refine Nat.lt_of_le_of_lt (natAbs_avoidMinusOne_le ?_ htwo) (by decide)
    split
    · rw [Int.natAbs_neg, Int.natAbs_natCast]
      omega
    · rw [Int.natAbs_natCast]
      omega

/-- A real number has the same digest as a complex one. -/
theorem combineDigests_units (h : q ≠ .undefined) :
    combineDigests q.digest (Quantity.units 0).digest = q.digest := by
  have hlt : q.digest.natAbs < 4611686018427387904 := natAbs_digest_lt q
  have hzero : (Quantity.units 0).digest = 0 := by decide
  unfold combineDigests
  rw [hzero, Int.mul_zero, Int.add_zero]
  have hmod : Int.bmod q.digest (Nat.pow 2 64) = q.digest := by
    change Int.bmod q.digest 18446744073709551616 = q.digest
    exact Int.bmod_eq_of_le (by omega) (by omega)
  rw [hmod]
  exact avoidMinusOne_of_ne (digest_ne h)

theorem eq_of_equal (h : q.equal q' = true) : q = q' ∧ q ≠ .undefined := by
  cases q with
  | undefined => cases h
  | infinite negative =>
    cases q' with
    | undefined => cases h
    | _ => exact ⟨eq_of_beq h, nofun⟩
  | units count =>
    cases q' with
    | undefined => cases h
    | _ => exact ⟨eq_of_beq h, nofun⟩

end Quantity

namespace Value

/-- The digest of a number is that of its quantities. -/
theorem atomDigest_number {v : Value} {re im : Quantity} (h : v.quantities? = some (re, im))
    (hre : re ≠ .undefined) (him : im ≠ .undefined) :
    v.atomDigest = .atom (.number (combineDigests re.digest im.digest)) := by
  cases v with
  | bool b =>
    cases h
    rw [Quantity.combineDigests_units hre]
    cases b <;> decide +kernel
  | int n =>
    cases h
    rw [Quantity.combineDigests_units hre]
    rfl
  | float x tag =>
    cases h
    exact if_neg (by simp [hre, him])
  | complex re im tag =>
    cases h
    exact if_neg (by simp [hre, him])
  | _ => cases h

theorem isAtom_of_quantities? {v : Value} {p : Quantity × Quantity} (h : v.quantities? = some p) :
    v.isAtom = true := by
  cases v with
  | ref => cases h
  | _ => rfl

/-- Values that are equal have the same digest. -/
theorem atomDigest_eq {a b : Value} (h : compareAtom a b = some true) (ha : a.isAtom = true) :
    b.isAtom = true ∧ a.atomDigest = b.atomDigest := by
  unfold compareAtom at h
  split at h
  · rename_i re im re' im' hqa hqb
    obtain ⟨hre, him⟩ := Bool.and_eq_true_iff.mp (Option.some.inj h)
    obtain ⟨rfl, hre'⟩ := Quantity.eq_of_equal hre
    obtain ⟨rfl, him'⟩ := Quantity.eq_of_equal him
    exact ⟨isAtom_of_quantities? hqb,
      (atomDigest_number hqa hre' him').trans (atomDigest_number hqb hre' him').symm⟩
  · split at h
    · rw [eq_of_beq (Option.some.inj h)]
      exact ⟨rfl, rfl⟩
    · rw [eq_of_beq (Option.some.inj h)]
      exact ⟨rfl, rfl⟩
    · split at h
      · rename_i heq
        subst heq
        exact ⟨ha, rfl⟩
      · cases h
  · cases h

end Value

/-- The answer of two values that are asked in turn, where `ask` compares a value with another; `neither`
if none of them knows. -/
def Action.askedInTurn (ask : Value → Value → Action Value) (neither : Value) (a b : Value) :
    Action Value := do
  match ← ask a b with
  | .undecided =>
    match ← ask b a with
    | .undecided => return neither
    | answer => return answer
  | answer => return answer

namespace Store

variable {s s' : Store} {r q t u : Ref} {n m : NodeObject} {a b v w x y : Value} {d e : Digest}
  {items items' : List Value} {k : Nat} {key : String}

/-- No basic type is derived from a class of nodes. -/
theorem isSubtype_basic (t : BasicType) (c : NodeClass) :
    s.isSubtype (.basic t) (.node c) = false := by
  unfold isSubtype lineage
  rw [List.any_map]
  exact List.any_eq_false.mpr fun t _ => by simp [Function.comp, Ancestor.id, TypeValue.id]

theorem typeOf_tuple {form : TupleForm} {fields : Fields}
    (hc : s.get? t = some (.tuple form items fields)) : ∃ basic, s.typeOf (.ref t) = .basic basic := by
  rw [typeOf_ref hc]
  cases form with
  | plain | frozen | version => exact ⟨_, rfl⟩

/-! ### Values that say that they are equal -/

theorem comparison_ok (ha : s.special? (s.typeOf a) "__eq__" = none) {answer : Value}
    (h : Effect.runOn (Action.comparison a b (Behaviour.level k)) s = (.ok answer, s')) :
    ∃ content, Effect.runOn (Action.compareContent a b (Behaviour.level k)) s = (.ok content, s') ∧
      answer = Action.comparisonAnswer content := by
  have hcontent : Effect.runOn ((Action.comparisonAnswer <$> Action.compareContent a b : Action Value)
      (Behaviour.level k)) s = (.ok answer, s') := by
    rw [← h]
    symm
    refine (Action.runOn_bind_ok (Action.runOn_special? "__eq__") _).trans ?_
    rw [ha]
    rfl
  obtain ⟨content, s₁, hrun, hpure⟩ := Effect.bind_ok_iff.mp hcontent
  cases hpure
  exact ⟨content, hrun, rfl⟩

/-- Where one of two values says that they are equal: which of them is asked first depends on their
types, and the other one is asked where the first one does not know. -/
theorem equal_true (ha : s.special? (s.typeOf a) "__eq__" = none)
    (hb : s.special? (s.typeOf b) "__eq__" = none)
    (hstay : ∀ {x y s₁}, x = a ∧ y = b ∨ x = b ∧ y = a →
      Effect.runOn (Action.compareContent x y (Behaviour.level k)) s = (.ok none, s₁) → s₁ = s)
    (h : Effect.runOn (Action.equal a b (Behaviour.level (k + 1))) s = (.ok true, s')) :
    (∃ x y, (x = a ∧ y = b ∨ x = b ∧ y = a) ∧
      Effect.runOn (Action.compareContent x y (Behaviour.level k)) s = (.ok (some true), s')) ∨
    a = b ∧ s' = s := by
  have hequal : Effect.runOn (Action.equality a b (Behaviour.level k) >>= _) s = (.ok true, s') := h
  obtain ⟨answer, s₁, hanswer, hend⟩ := Effect.bind_ok_iff.mp hequal
  obtain ⟨x, y, hxy, hfirst⟩ : ∃ x y, (x = a ∧ y = b ∨ x = b ∧ y = a) ∧
      Effect.runOn (Action.askedInTurn Action.comparison (.bool (a = b)) x y (Behaviour.level k)) s =
        (.ok answer, s₁) := by
    obtain ⟨refined, hrefined⟩ : ∃ refined, Effect.runOn (Action.isRefined a b (Behaviour.level k)) s =
        (.ok refined, s) := ⟨_, rfl⟩
    unfold Action.equality Action.firstAnswer at hanswer
    rw [Action.runOn_bind_ok hrefined] at hanswer
    cases refined with
    | false => exact ⟨a, b, .inl ⟨rfl, rfl⟩, hanswer⟩
    | true => exact ⟨b, a, .inr ⟨rfl, rfl⟩, hanswer⟩
  have hspecial : s.special? (s.typeOf x) "__eq__" = none ∧ s.special? (s.typeOf y) "__eq__" = none := by
    rcases hxy with ⟨rfl, rfl⟩ | ⟨rfl, rfl⟩
    · exact ⟨ha, hb⟩
    · exact ⟨hb, ha⟩
  have hfirst' : Effect.runOn (Action.comparison x y (Behaviour.level k) >>= _) s = (.ok answer, s₁) :=
    hfirst
  obtain ⟨first, s₂, hcompare, hrest⟩ := Effect.bind_ok_iff.mp hfirst'
  obtain ⟨content, hcontent, rfl⟩ := comparison_ok hspecial.1 hcompare
  cases content with
  | some truth =>
    cases hrest
    cases hend
    exact .inl ⟨x, y, hxy, hcontent⟩
  | none =>
    obtain rfl := hstay hxy hcontent
    have hrest' : Effect.runOn (Action.comparison y x (Behaviour.level k) >>= _) s₂ = (.ok answer, s₁) :=
      hrest
    obtain ⟨second, s₃, hcompare', hlast⟩ := Effect.bind_ok_iff.mp hrest'
    obtain ⟨content', hcontent', rfl⟩ := comparison_ok hspecial.2 hcompare'
    cases content' with
    | some truth =>
      cases hlast
      cases hend
      exact .inl ⟨y, x, hxy.symm.imp And.symm And.symm, hcontent'⟩
    | none =>
      cases hlast
      obtain rfl := hstay (hxy.symm.imp And.symm And.symm) hcontent'
      obtain ⟨hab, hs⟩ := Prod.mk.inj hend
      exact .inr ⟨of_decide_eq_true (Except.ok.inj hab), hs.symm⟩

/-! ### Digests of contents -/

/-- The digest of a node whose keys hold values of these digests. -/
def nodeDigest (n : NodeObject) (f : Value → Digest) : Digest :=
  .group false ((Value.type (.node n.cls)).atomDigest ::
    n.cls.keys.map fun key => f ((n.slots.lookup key).getD .null))

/-- The digest of a value made of nodes of the library, tuples and values that are no objects, told by
what it is made of. -/
inductive Settled (s : Store) : Value → Digest → Prop
  | atom {v : Value} : v.isAtom = true → Settled s v v.atomDigest
  | node {r : Ref} {n : NodeObject} {f : Value → Digest} : s.LibraryCell r n →
      (∀ key ∈ n.cls.keys, ∃ x, n.slots.lookup key = some x) →
      (∀ key ∈ n.cls.keys, ∀ x, n.slots.lookup key = some x → Settled s x (f x)) →
      Settled s (.ref r) (nodeDigest n f)
  | tuple {t : Ref} {form : TupleForm} {items : List Value} {fields : Fields} {f : Value → Digest} :
      s.get? t = some (.tuple form items fields) → (∀ x ∈ items, Settled s x (f x)) →
      Settled s (.ref t) (.group false (items.map f))

theorem nodeDigest_congr {f g : Value → Digest} (hkeys : ∀ key ∈ n.cls.keys, ∃ x,
    n.slots.lookup key = some x) (h : ∀ key ∈ n.cls.keys, ∀ x, n.slots.lookup key = some x → f x = g x) :
    nodeDigest n f = nodeDigest n g := by
  unfold nodeDigest
  congr 2
  refine List.map_congr_left fun key hkey => ?_
  obtain ⟨x, hx⟩ := hkeys key hkey
  rw [hx]
  exact h key hkey x hx

theorem Settled.unique (h : s.Settled v d) (h' : s.Settled v e) : d = e := by
  induction h generalizing e with
  | atom hv =>
    cases h' with
    | atom => rfl
    | node | tuple => cases hv
  | node hn hkeys _ ih =>
    cases h' with
    | atom hv => cases hv
    | node hn' _ hall' =>
      cases hn.1.symm.trans hn'.1
      exact nodeDigest_congr hkeys fun key hkey x hx => ih key hkey x hx (hall' key hkey x hx)
    | tuple hc => cases hn.1.symm.trans hc
  | tuple hc _ ih =>
    cases h' with
    | atom hv => cases hv
    | node hn => cases hc.symm.trans hn.1
    | tuple hc' hall' =>
      cases hc.symm.trans hc'
      exact congrArg (Digest.group false) (List.map_congr_left fun x hx => ih x hx (hall' x hx))

theorem Settled.special? (h : s.Settled v d) (hs : s.Sound) {name : String}
    (hname : name ∈ NodeClass.specialNames) : s.special? (s.typeOf v) name = none := by
  cases h with
  | atom hv => exact special?_atom hs.classAttrs hv name
  | node hn => exact (hs.node hn).regularNode.special? hname
  | tuple hc => exact Action.special?_tuple hs.classAttrs hc name

/-! ### Equal contents -/

/-- What values of one store are if they are equal where operations use each other to depth `k`. -/
def EqualAgree (s : Store) (k : Nat) : Prop :=
  ∀ ⦃a b : Value⦄ ⦃d e : Digest⦄ ⦃s' : Store⦄, s.Settled a d → s.Settled b e →
    Effect.runOn (Action.equal a b (Behaviour.level k)) s = (.ok true, s') → s' = s ∧ d = e

/-- Keys that hold equal values, one after the other. -/
theorem EqualAgree.sameAttrs (h : s.EqualAgree k) (ha : s.RegularNode r n) (hb : s.RegularNode q m)
    (hc : n.cls = m.cls) {f g : Value → Digest} {keys : List String}
    (hkeys : ∀ key ∈ keys, key ∈ n.cls.keys)
    (hf : ∀ key ∈ keys, ∃ x, n.slots.lookup key = some x ∧ s.Settled x (f x))
    (hg : ∀ key ∈ keys, ∃ x, m.slots.lookup key = some x ∧ s.Settled x (g x))
    (hrun : Effect.runOn (Action.sameAttrs (.ref r) (.ref q) (keys.map .text)
      (Behaviour.level k)) s = (.ok true, s')) :
    s' = s ∧ (keys.map fun key => f ((n.slots.lookup key).getD .null)) =
      keys.map fun key => g ((m.slots.lookup key).getD .null) := by
  induction keys generalizing s' with
  | nil =>
    cases hrun
    exact ⟨rfl, rfl⟩
  | cons key keys ih =>
    obtain ⟨hkey, hkeys⟩ := List.forall_mem_cons.mp hkeys
    obtain ⟨⟨x, hx, hxf⟩, hf⟩ := List.forall_mem_cons.mp hf
    obtain ⟨⟨y, hy, hyg⟩, hg⟩ := List.forall_mem_cons.mp hg
    have hequal : Effect.runOn (Action.equal x y (Behaviour.level k) >>= fun same =>
        (if same then Action.sameAttrs (.ref r) (.ref q) (keys.map .text) else return false :
          Action Bool) (Behaviour.level k)) s = (.ok true, s') := by
      cases k with
      | zero => cases hrun
      | succ k =>
      rw [← hrun, List.map_cons]
      symm
      refine (Action.runOn_bind_ok (ha.runOn_key hkey hx) _).trans ?_
      exact Action.runOn_bind_ok (hb.runOn_key (hc ▸ hkey) hy) _
    obtain ⟨same, s₁, hsame, hrest⟩ := Effect.bind_ok_iff.mp hequal
    cases same with
    | false => cases hrest
    | true =>
      obtain ⟨rfl, hd⟩ := h hxf hyg hsame
      obtain ⟨hs, hmap⟩ := ih hkeys hf hg hrest
      refine ⟨hs, ?_⟩
      rw [List.map_cons, List.map_cons, hmap, hx, hy]
      exact congrArg (· :: _) hd

theorem EqualAgree.allSame (h : s.EqualAgree k) {f g : Value → Digest} {pairs : List (Value × Value)}
    (hf : ∀ p ∈ pairs, s.Settled p.1 (f p.1)) (hg : ∀ p ∈ pairs, s.Settled p.2 (g p.2))
    (hrun : Effect.runOn (Action.allSame pairs (Behaviour.level k)) s = (.ok true, s')) :
    s' = s ∧ ∀ p ∈ pairs, f p.1 = g p.2 := by
  induction pairs generalizing s' with
  | nil =>
    cases hrun
    exact ⟨rfl, by simp⟩
  | cons p pairs ih =>
    obtain ⟨x, y⟩ := p
    obtain ⟨hx, hf⟩ := List.forall_mem_cons.mp hf
    obtain ⟨hy, hg⟩ := List.forall_mem_cons.mp hg
    have hboth : Effect.runOn (Action.same x y (Behaviour.level k) >>= fun same =>
        (if same then Action.allSame pairs else return false : Action Bool) (Behaviour.level k)) s =
          (.ok true, s') := hrun
    obtain ⟨same, s₁, hsame, hrest⟩ := Effect.bind_ok_iff.mp hboth
    cases same with
    | false => cases hrest
    | true =>
      obtain ⟨rfl, hd⟩ : s₁ = s ∧ f x = g y := by
        unfold Action.same at hsame
        split at hsame
        · rename_i hxy
          exact ⟨(Prod.mk.inj hsame).2.symm, hx.unique (hxy ▸ hy)⟩
        · exact h hx hy hsame
      obtain ⟨hs, hall⟩ := ih hf hg hrest
      exact ⟨hs, List.forall_mem_cons.mpr ⟨hd, hall⟩⟩

/-- Items that are equal, one after the other. -/
theorem EqualAgree.sameFields (h : s.EqualAgree k) {f g : Value → Digest}
    (hf : ∀ x ∈ items, s.Settled x (f x)) (hg : ∀ x ∈ items', s.Settled x (g x))
    (hrun : Effect.runOn (Action.sameFields items items' (Behaviour.level k)) s = (.ok true, s')) :
    s' = s ∧ items.map f = items'.map g := by
  have hall : Effect.runOn (Action.allSame (items.zip items') (Behaviour.level k) >>= fun same =>
      (if same then return items.length = items'.length else return false : Action Bool)
        (Behaviour.level k)) s = (.ok true, s') := hrun
  obtain ⟨same, s₁, hsame, hrest⟩ := Effect.bind_ok_iff.mp hall
  cases same with
  | false => cases hrest
  | true =>
    obtain ⟨hlength, rfl⟩ := Prod.mk.inj hrest
    have hlength : items.length = items'.length := of_decide_eq_true (Except.ok.inj hlength)
    obtain ⟨rfl, heq⟩ := h.allSame (fun p hp => hf _ (List.of_mem_zip hp).1)
      (fun p hp => hg _ (List.of_mem_zip hp).2) hsame
    refine ⟨rfl, List.ext_getElem (by simp [hlength]) fun i hi hi' => ?_⟩
    rw [List.getElem_map, List.getElem_map]
    rw [List.length_map] at hi hi'
    exact heq (items[i], items'[i]) (List.mem_iff_getElem.mpr
      ⟨i, by simpa using ⟨hi, hi'⟩, List.getElem_zip⟩)

/-- What comparing two values leaves, unless they say that they are not equal. -/
theorem EqualAgree.compareContent (h : s.EqualAgree k) (hs : s.Sound) (ha : s.Settled a d)
    (hb : s.Settled b e) {answer : Option Bool} (hanswer : answer ≠ some false)
    (hrun : Effect.runOn (Action.compareContent a b (Behaviour.level k)) s = (.ok answer, s')) :
    s' = s ∧ (answer = some true → d = e) := by
  have hdiffers (hd : s.Differs k a b) : s' = s ∧ (answer = some true → d = e) := by
    obtain ⟨answer', hrun', hne⟩ := hd
    cases hrun.symm.trans hrun'
    exact ⟨rfl, fun htrue => absurd htrue hne⟩
  cases ha with
  | atom hv =>
    cases (runOn_compareAtom hv b).symm.trans hrun
    refine ⟨rfl, fun htrue => ?_⟩
    obtain ⟨hv', hd⟩ := Value.atomDigest_eq htrue hv
    exact hd.trans ((Settled.atom hv').unique hb)
  | @node r n f hn hkeys hall =>
    have hnode := (hs.node hn).regularNode
    cases hb with
    | atom hv =>
      obtain ⟨basic, htype⟩ := typeOf_atom (s := s) hv
      exact hdiffers (hnode.differs (special?_atom hs.classAttrs hv) (htype ▸ isSubtype_basic ..))
    | tuple hc =>
      obtain ⟨basic, htype⟩ := typeOf_tuple hc
      exact hdiffers (hnode.differs (Action.special?_tuple hs.classAttrs hc)
        (htype ▸ isSubtype_basic ..))
    | @node q m g hm hkeys' hall' =>
      have hnode' := (hs.node hm).regularNode
      have hcell : Effect.runOn (some <$> Action.equalNode (.ref r) (.ref q) (Behaviour.level k)) s =
          (.ok answer, s') := by
        rw [← hrun]
        symm
        refine (Effect.runOn_bind_ok (Effect.runOn_get s) _).trans ?_
        rw [cell?_ref hn.1]
        rfl
      obtain ⟨same, s₁, hequal, hpure⟩ := Effect.bind_ok_iff.mp hcell
      cases hpure
      rw [runOn_equalNode hnode hnode'] at hequal
      split at hequal
      · rename_i hserial
        have hc := NodeClass.eq_of_serial hn.2 hm.2 hserial
        cases same with
        | false => exact absurd rfl hanswer
        | true =>
          obtain ⟨rfl, hmap⟩ := h.sameAttrs hnode hnode' hc (fun _ => id)
            (fun key hkey => (hkeys key hkey).imp fun x hx => ⟨hx, hall key hkey x hx⟩)
            (fun key hkey => (hkeys' key (hc ▸ hkey)).imp fun x hx => ⟨hx, hall' key (hc ▸ hkey) x hx⟩)
            hequal
          refine ⟨rfl, fun _ => ?_⟩
          unfold nodeDigest
          rw [hmap, hc]
      · cases hequal
        exact absurd rfl hanswer
  | @tuple t form items fields f hc hall =>
    cases hb with
    | atom hv =>
      refine hdiffers (differs_collection hc rfl ?_)
      rw [cell?_atom hv]
      nofun
    | node hn =>
      refine hdiffers (differs_collection hc rfl ?_)
      rw [cell?_ref hn.1]
      nofun
    | @tuple u form' items' fields' g hc' hall' =>
      have hcell : Effect.runOn (some <$> Action.sameFields items items' (Behaviour.level k)) s =
          (.ok answer, s') := by
        rw [← hrun]
        symm
        refine (Effect.runOn_bind_ok (Effect.runOn_get s) _).trans ?_
        rw [cell?_ref hc]
        change Effect.runOn (Action.compareCell (.ref t) (.tuple form items fields) (.ref u)
          (Behaviour.level k)) s = _
        unfold Action.compareCell
        refine (Action.runOn_bind_ok (Action.runOn_get s) _).trans ?_
        rw [cell?_ref hc']
        rfl
      obtain ⟨same, s₁, hsame, hpure⟩ := Effect.bind_ok_iff.mp hcell
      cases hpure
      cases same with
      | false => exact absurd rfl hanswer
      | true => exact (h.sameFields hall hall' hsame).imp_right fun hmap _ => congrArg _ hmap

theorem equalAgree (hs : s.Sound) (k : Nat) : s.EqualAgree k := by
  induction k with
  | zero => exact fun a b d e s' _ _ hrun => by cases hrun
  | succ k ih =>
    intro a b d e s' ha hb hrun
    have hpair {x y : Value} (hxy : x = a ∧ y = b ∨ x = b ∧ y = a) {answer : Option Bool} {s₁ : Store}
        (hanswer : answer ≠ some false)
        (hcompare : Effect.runOn (Action.compareContent x y (Behaviour.level k)) s = (.ok answer, s₁)) :
        s₁ = s ∧ (answer = some true → d = e) := by
      rcases hxy with ⟨rfl, rfl⟩ | ⟨rfl, rfl⟩
      · exact ih.compareContent hs ha hb hanswer hcompare
      · exact (ih.compareContent hs hb ha hanswer hcompare).imp_right fun h htrue => (h htrue).symm
    rcases equal_true (ha.special? hs (by decide)) (hb.special? hs (by decide))
      (fun hxy hnone => (hpair hxy (by simp) hnone).1) hrun with ⟨x, y, hxy, htrue⟩ | ⟨rfl, rfl⟩
    · exact (hpair hxy (by simp) htrue).imp_right fun h => h rfl
    · exact ⟨rfl, ha.unique hb⟩

end Store
end GraphQLTree
