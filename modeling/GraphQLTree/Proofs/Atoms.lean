import GraphQLTree.Proofs.Equality

/-! # Values that are no objects

Numbers, texts, types and the like live nowhere in the store (`Value.isAtom`). How two of them compare
and what digest one has is told by them alone (`Store.runOn_compareAtom`, `Store.runOn_digest_atom`).
So a dictionary whose keys are such values is searched and changed without anything else being
changed (`Store.exists_runOn_setKey`). -/

namespace GraphQLTree

namespace Value

/-- A value that is no object. -/
def isAtom : Value → Bool
  | ref _ => false
  | _ => true

/-- How a value that is no object is compared with another value. -/
def compareAtom (a b : Value) : Option Bool :=
  match a.quantities?, b.quantities? with
  | some (re, im), some (re', im') => some (re.equal re' && im.equal im')
  | none, none =>
    match a, b with
    | .text s, .text t => some (s == t)
    | .bytes s, .bytes t => some (s == t)
    | _, _ => if a = b then some true else none
  | _, _ => none

end Value

namespace Store

variable {s : Store} {a v key : Value} {t : Ref} {entries : List Entry} {d : Digest} {k : Nat}

/-! ### Comparing and hashing -/

theorem cell?_atom (h : v.isAtom = true) : s.cell? v = none := by
  cases v with
  | ref => cases h
  | _ => rfl

theorem special?_atom (hs : s.classAttrs = []) (h : v.isAtom = true) (name : String) :
    s.special? (s.typeOf v) name = none := by
  cases v with
  | ref => cases h
  | _ => exact special?_basic hs _ _

theorem typeOf_atom (h : v.isAtom = true) : ∃ t, s.typeOf v = .basic t := by
  cases v with
  | ref => cases h
  | _ => exact ⟨_, rfl⟩

theorem runOn_compareAtom (ha : a.isAtom = true) (b : Value) :
    Effect.runOn (Action.compareContent a b (Behaviour.level k)) s = (.ok (a.compareAtom b), s) := by
  refine (Effect.runOn_bind_ok (Effect.runOn_get s) _).trans ?_
  rw [cell?_atom ha]
  unfold Value.compareAtom
  rcases a.quantities? with - | ⟨re, im⟩ <;> rcases b.quantities? with - | ⟨re', im'⟩
  · cases a with
    | text | bytes => cases b <;> rfl
    | _ => rfl
  all_goals rfl

theorem runOn_digest_atom (hs : s.classAttrs = []) (hv : v.isAtom = true) :
    Effect.runOn (Action.digest v (Behaviour.level (k + 1))) s = (.ok v.atomDigest, s) := by
  refine (Action.runOn_bind_ok (Action.runOn_special? "__hash__") _).trans ?_
  rw [special?_atom hs hv]
  refine (Effect.runOn_bind_ok (Effect.runOn_get s) _).trans ?_
  rw [cell?_atom hv]
  rfl

/-! ### Keys of dictionaries -/

/-- Whether all keys of a dictionary are values that are no objects. -/
def AtomKeys (entries : List Entry) : Prop :=
  ∀ e ∈ entries, e.key.isAtom = true

theorem exists_runOn_findEntry (hs : s.classAttrs = []) (hkey : key.isAtom = true) (d : Digest)
    (hall : AtomKeys entries) :
    ∃ e?, Effect.runOn (Action.findEntry d key entries (Behaviour.level (k + 1))) s = (.ok e?, s) := by
  induction entries with
  | nil => exact ⟨none, rfl⟩
  | cons e entries ih =>
    obtain ⟨he, hall⟩ := List.forall_mem_cons.mp hall
    obtain ⟨rest?, hrest⟩ := ih hall
    obtain ⟨answer, hequal, -⟩ := exists_runOn_equal (special?_atom hs he _) (special?_atom hs hkey _)
      (runOn_compareAtom (s := s) (k := k) he key) (runOn_compareAtom hkey e.key)
    unfold Action.findEntry
    by_cases hd : e.digest = d
    · rw [if_pos hd]
      by_cases hk : e.key = key
      · exact ⟨some e, by rw [if_pos hk]; rfl⟩
      · rw [if_neg hk]
        cases answer with
        | true => exact ⟨some e, Action.runOn_bind_ok hequal _⟩
        | false => exact ⟨rest?, (Action.runOn_bind_ok hequal _).trans hrest⟩
    · rw [if_neg hd]
      exact ⟨rest?, hrest⟩

/-- Assigning the value of a key to a dictionary changes the dictionary only. -/
theorem exists_runOn_setKey (hs : s.classAttrs = []) (hkey : key.isAtom = true)
    (ht : s.get? t = some (.dict entries)) (hall : AtomKeys entries) (v : Value) :
    ∃ entries', AtomKeys entries' ∧
      Effect.runOn (Action.setKey (.ref t) key v (Behaviour.level (k + 1))) s =
        (.ok (), s.put t (.dict entries')) := by
  obtain ⟨e?, hfind⟩ := exists_runOn_findEntry (k := k) hs hkey key.atomDigest hall
  obtain ⟨entries', hkeys, hset⟩ : ∃ entries', AtomKeys entries' ∧
      Effect.runOn (Action.setEntry entries key.atomDigest key v (Behaviour.level (k + 1))) s =
        (.ok entries', s) := by
    cases e? with
    | none =>
      refine ⟨entries ++ [⟨key.atomDigest, key, v⟩], fun e he => ?_, Action.runOn_bind_ok hfind _⟩
      rcases List.mem_append.mp he with he | he
      · exact hall e he
      · exact List.mem_singleton.mp he ▸ hkey
    | some found =>
      refine ⟨_, fun e he => ?_, Action.runOn_bind_ok hfind _⟩
      obtain ⟨e', he', rfl⟩ := List.mem_map.mp he
      have hatom := hall e' he'
      split
      · exact hatom
      · exact hatom
  refine ⟨entries', hkeys, (Action.runOn_bind_ok (runOn_digest_atom hs hkey) _).trans ?_⟩
  refine (Action.runOn_bind_ok (Action.runOn_get s) _).trans ?_
  have hdict : s.dict? (.ref t) = some entries := by
    unfold dict?
    rw [cell?_ref ht]
  rw [hdict]
  exact Action.runOn_bind_ok hset _

end Store
end GraphQLTree
