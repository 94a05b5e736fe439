import GraphQLTree.Proofs.OutcomeClass

/-! # Visitors in groups

Visitors in lockstep may be visitors in lockstep themselves, to any depth (`Grouping`). Each group keeps
its own bookkeeping, and gets no calls while it is skipping as a whole, so its depth lags behind. What
all these bookkeepings hold is told by the marks that the visitors would have if they were in one
lockstep (`Grouping.Holds`): the mark of a group is zero as long as one of its members has the mark zero,
and otherwise the latest of their marks (`groupMark`); its depth is that at which it began to skip. -/

namespace GraphQLTree

/-- Visitors in groups, to any depth. A group may be empty. -/
inductive Grouping (σ : Type)
  | nil
  | single (visitor : Visitor σ) (rest : Grouping σ)
  | group (inner rest : Grouping σ)

/-- The way to a member of a group, or to the first member of a group: the last turn comes first. -/
abbrev Turns := List Bool

namespace Grouping

variable {σ : Type}

/-- All visitors, in order. -/
def visitors : Grouping σ → List (Visitor σ)
  | nil => []
  | single v rest => v :: rest.visitors
  | group inner rest => inner.visitors ++ rest.visitors

/-- The members, of which each group is one. -/
def members (books : Turns → Part σ Bookkeeping) : Turns → Grouping σ → List (Visitor σ)
  | _, nil => []
  | p, single v rest => v :: rest.members books (false :: p)
  | p, group inner rest =>
    lockstep (books (true :: p)) (inner.members books (true :: p)) :: rest.members books (false :: p)

end Grouping

/-! ### Marks -/

/-- The mark of a group with members of these marks, where `n` steps are open. A group without members
skips as soon as a step is open. -/
def groupMark (n : Int) (marks : List Int) : Int :=
  if 0 ∈ marks then 0 else marks.foldr max (min n 1)

/-- The depth of a group. -/
def groupDepth (n : Int) (marks : List Int) : Int :=
  if groupMark n marks = 0 then n else groupMark n marks

/-- The mark of a visitor after a step at a depth was left. -/
def unmark (depth mark : Int) : Int :=
  if mark = depth then 0 else mark

section

variable {n k : Int} {marks marks' : List Int}

theorem le_foldr_max {base m : Int} (h : m ∈ marks ∨ m ≤ base) : m ≤ marks.foldr max base := by
  induction marks with
  | nil => exact h.resolve_left List.not_mem_nil
  | cons m' marks ih =>
    rw [List.foldr_cons]
    rcases h with h | h
    · rcases List.mem_cons.mp h with rfl | h
      · omega
      · have := ih (.inl h)
        omega
    · have := ih (.inr h)
      omega

theorem foldr_max_le {base bound : Int} (h : ∀ m ∈ marks, m ≤ bound) (hb : base ≤ bound) :
    marks.foldr max base ≤ bound := by
  induction marks with
  | nil => exact hb
  | cons m marks ih =>
    have hm := h m (List.mem_cons_self ..)
    have hrest := ih fun m' hm' => h m' (List.mem_cons_of_mem _ hm')
    rw [List.foldr_cons]
    omega

theorem groupMark_nonneg (hn : 0 ≤ n) : 0 ≤ groupMark n marks := by
  unfold groupMark
  split
  · exact Int.le_refl 0
  · exact le_foldr_max (.inr (by omega))

theorem groupMark_le (hn : 0 ≤ n) (h : ∀ m ∈ marks, m ≤ n) : groupMark n marks ≤ n := by
  unfold groupMark
  split
  · exact hn
  · exact foldr_max_le h (by omega)

theorem not_zero_mem_of_groupMark (h : groupMark n marks ≠ 0) : 0 ∉ marks :=
  fun hz => h (if_pos hz)

theorem zero_mem_of_groupMark (hn : 0 < n) (h : groupMark n marks = 0) : 0 ∈ marks := by
  by_contra hz
  unfold groupMark at h
  rw [if_neg hz] at h
  have hle : min n 1 ≤ marks.foldr max (min n 1) := le_foldr_max (.inr (Int.le_refl _))
  omega

theorem le_groupMark (h : groupMark n marks ≠ 0) {m : Int} (hm : m ∈ marks ∨ m ≤ min n 1) :
    m ≤ groupMark n marks := by
  unfold groupMark
  rw [if_neg (not_zero_mem_of_groupMark h)]
  exact le_foldr_max hm

/-- The mark of a group does not depend on how many steps are open, if there are any. -/
theorem groupMark_eq (hn : 1 ≤ n) (hk : 1 ≤ k) : groupMark n marks = groupMark k marks := by
  unfold groupMark
  rw [show min n 1 = min k 1 by omega]

/-- Nor do the mark and the depth of a group that is skipping. -/
theorem groupMark_skipping (hn : 0 ≤ n) (hle : ∀ m ∈ marks, m ≤ n) (h : groupMark n marks ≠ 0)
    (hk : groupMark n marks ≤ k) :
    groupMark k marks = groupMark n marks ∧ groupDepth k marks = groupDepth n marks := by
  have hnonneg : 0 ≤ groupMark n marks := groupMark_nonneg hn
  have hbound : groupMark n marks ≤ n := groupMark_le hn hle
  have hmark : groupMark k marks = groupMark n marks := groupMark_eq (by omega) (by omega)
  refine ⟨hmark, ?_⟩
  unfold groupDepth
  rw [hmark, if_neg h, if_neg h]

/-! Marks before and after a step is entered. -/

/-- A member that was not skipping may skip from a depth on. -/
def MayPrune (depth m m' : Int) : Prop :=
  m' = m ∨ m = 0 ∧ m' = depth

abbrev Prunes (depth : Int) : List Int → List Int → Prop :=
  List.Forall₂ (MayPrune depth)

theorem Prunes.bounds (h : Prunes (n + 1) marks marks') (hn : 0 ≤ n)
    (hb : ∀ m ∈ marks, 0 ≤ m ∧ m ≤ n) : ∀ m' ∈ marks', 0 ≤ m' ∧ m' ≤ n + 1 := by
  induction h with
  | nil => nofun
  | cons hstep _ ih =>
    have hm := hb _ (List.mem_cons_self ..)
    refine List.forall_mem_cons.mpr ⟨?_, ih fun m hm => hb m (List.mem_cons_of_mem _ hm)⟩
    unfold MayPrune at hstep
    omega

theorem Prunes.mem (h : Prunes k marks marks') (hz : 0 ∈ marks) (hz' : 0 ∉ marks') :
    k ∈ marks' := by
  induction h with
  | nil => nomatch hz
  | cons hstep _ ih =>
    obtain ⟨hne, hrest⟩ := not_or.mp fun h => hz' (List.mem_cons.mpr h)
    rcases List.mem_cons.mp hz with rfl | hz
    · rcases hstep with rfl | ⟨-, rfl⟩
      · exact (hne rfl).elim
      · exact List.mem_cons_self ..
    · exact List.mem_cons_of_mem _ (ih hz hrest)

/-- A group that did not skip before skips from this step on if all of its members do. -/
theorem Prunes.groupMark_eq (h : Prunes (n + 1) marks marks') (hn : 0 ≤ n)
    (hb : ∀ m ∈ marks, 0 ≤ m ∧ m ≤ n) (hbefore : groupMark n marks = 0) (hafter : 0 ∉ marks') :
    groupMark (n + 1) marks' = n + 1 := by
  have hle := fun m' hm' => (h.bounds hn hb m' hm').2
  unfold groupMark
  rw [if_neg hafter]
  refine Int.le_antisymm (foldr_max_le hle (by omega)) (le_foldr_max ?_)
  by_cases hn0 : n = 0
  · exact .inr (by omega)
  · exact .inl (h.mem (zero_mem_of_groupMark (by omega) hbefore) hafter)

/-! Marks before and after a step is left. -/

theorem mem_map_unmark : 0 ∈ marks.map (unmark n) ↔ 0 ∈ marks ∨ n ∈ marks := by
  unfold unmark
  rw [List.mem_map]
  constructor
  · rintro ⟨m, hm, h⟩
    split at h
    · rename_i heq
      exact .inr (heq ▸ hm)
    · exact .inl (h ▸ hm)
  · rintro (h | h)
    · exact ⟨0, h, by split <;> rfl⟩
    · exact ⟨n, h, if_pos rfl⟩

theorem map_unmark_eq (h : n ∉ marks) : marks.map (unmark n) = marks := by
  refine (List.map_congr_left fun m hm => ?_).trans (List.map_id marks)
  exact if_neg fun heq : m = n => h (heq ▸ hm)

/-- The mark of a group after a step was left is told by the marks of its members, and by its own. -/
theorem groupMark_unmark (hn : 0 ≤ n) (hb : ∀ m ∈ marks, 0 ≤ m ∧ m ≤ n + 1) :
    groupMark n (marks.map (unmark (n + 1))) = unmark (n + 1) (groupMark (n + 1) marks) := by
  by_cases hz : 0 ∈ marks
  · have hleft : groupMark n (marks.map (unmark (n + 1))) = 0 :=
      if_pos (mem_map_unmark.mpr (.inl hz))
    have hright : groupMark (n + 1) marks = 0 := if_pos hz
    rw [hleft, hright]
    unfold unmark
    split <;> rfl
  by_cases hd : n + 1 ∈ marks
  · have hleft : groupMark n (marks.map (unmark (n + 1))) = 0 :=
      if_pos (mem_map_unmark.mpr (.inr hd))
    have hright : groupMark (n + 1) marks = n + 1 := by
      unfold groupMark
      rw [if_neg hz]
      exact Int.le_antisymm (foldr_max_le (fun m hm => (hb m hm).2) (by omega))
        (le_foldr_max (.inl hd))
    rw [hleft, hright]
    exact (if_pos rfl).symm
  rw [map_unmark_eq hd]
  by_cases hn0 : n = 0
  · subst hn0
    have hnil : marks = [] := by
      refine List.eq_nil_iff_forall_not_mem.mpr fun m hm => ?_
      have := hb m hm
      have hm0 : m ≠ 0 := fun h => hz (h ▸ hm)
      have hm1 : m ≠ 0 + 1 := fun h => hd (h ▸ hm)
      omega
    rw [hnil]
    rfl
  · rw [groupMark_eq (show 1 ≤ n by omega) (show 1 ≤ n + 1 by omega)]
    refine (if_neg fun heq => ?_).symm
    have hle : groupMark (n + 1) marks ≤ n := by
      unfold groupMark
      rw [if_neg hz]
      refine foldr_max_le (fun m hm => ?_) (by omega)
      have := hb m hm
      have hm1 : m ≠ n + 1 := fun h => hd (h ▸ hm)
      omega
    omega

end

/-! ### Bookkeepings -/

namespace Bookkeeping

/-- The bookkeeping shows this depth, and in its latest round, of this number, these marks. -/
structure Shows (b : Bookkeeping) (round : Nat) (depth : Int) (marks : List Int) : Prop where
  depth_eq : b.depth = depth
  round_eq : b.round = round
  rounds_eq : b.rounds[round]? = some marks

variable {b : Bookkeeping} {round : Nat} {depth m : Int} {marks done rest : List Int}

theorem Shows.marks_eq (h : b.Shows round depth marks) : b.marks round = marks := by
  unfold Bookkeeping.marks
  rw [h.rounds_eq]
  rfl

theorem Shows.mark_eq (h : b.Shows round depth (done ++ m :: rest)) :
    b.mark round done.length = m := by
  unfold mark
  rw [h.marks_eq, List.getElem?_append_right (Nat.le_refl _), Nat.sub_self]
  rfl

theorem Shows.setMark (h : b.Shows round depth (done ++ m :: rest)) (m' : Int) :
    (b.setMark round done.length m').Shows round depth (done ++ m' :: rest) := by
  refine ⟨h.depth_eq, (round_setMark ..).trans h.round_eq, ?_⟩
  unfold Bookkeeping.setMark
  rw [List.getElem?_modify_eq, h.rounds_eq]
  have hset : (done ++ m :: rest).set done.length m' = done ++ m' :: rest := by
    rw [List.set_append_right _ _ (Nat.le_refl _), Nat.sub_self]
    rfl
  exact congrArg some hset

theorem Shows.withDepth (h : b.Shows round depth marks) (depth' : Int) :
    Shows { b with depth := depth' } round depth' marks :=
  ⟨rfl, h.round_eq, h.rounds_eq⟩

theorem shows_restart (b : Bookkeeping) (count : Nat) :
    (b.restart count).Shows b.rounds.length 0 (List.replicate count 0) := by
  refine ⟨rfl, ?_, ?_⟩
  · simp [restart, round]
  · simp [restart]

end Bookkeeping

/-! ### The bookkeepings of groups -/

/-- The turns `q` go on from `p`. -/
def Beyond (p q : Turns) : Prop :=
  p <:+ q ∧ p.length < q.length

theorem Beyond.of_cons {x : Bool} {p q : Turns} (h : Beyond (x :: p) q) : Beyond p q :=
  ⟨(List.suffix_cons x p).trans h.1, Nat.lt_of_succ_lt h.2⟩

theorem beyond_cons (x : Bool) (p : Turns) : Beyond p (x :: p) :=
  ⟨List.suffix_cons x p, Nat.lt_succ_self _⟩

theorem not_beyond_self (p : Turns) : ¬ Beyond p p :=
  fun h => Nat.lt_irrefl _ h.2

/-- What is beyond one turn is not beyond the other one. -/
theorem Beyond.disjoint {p q : Turns} (h : q = true :: p ∨ Beyond (true :: p) q) :
    ¬ Beyond (false :: p) q := by
  rintro ⟨hq, -⟩
  have hq' : (true :: p) <:+ q := by
    rcases h with rfl | h
    · exact List.suffix_rfl
    · exact h.1
  have heq := (List.suffix_of_suffix_length_le hq' hq (Nat.le_refl _)).eq_of_length rfl
  nomatch heq

namespace Grouping

variable {σ : Type}

/-- The bookkeepings of all groups in a list, where `n` steps are open, the visitors would have the
marks `ms` in one lockstep, and the members of the list have the marks `l`. -/
inductive Holds (n : Int) (g : Turns → Bookkeeping) :
    Turns → Grouping σ → List Int → List Int → Prop
  | nil {p : Turns} : Holds n g p nil [] []
  | single {p : Turns} {v : Visitor σ} {rest : Grouping σ} {m : Int} {ms l : List Int} :
      0 ≤ m → m ≤ n → Holds n g (false :: p) rest ms l →
      Holds n g p (single v rest) (m :: ms) (m :: l)
  | group {p : Turns} {inner rest : Grouping σ} {round : Nat} {ms l ms' l' : List Int} :
      Holds n g (true :: p) inner ms l →
      (g (true :: p)).Shows round (groupDepth n l) l → Holds n g (false :: p) rest ms' l' →
      Holds n g p (group inner rest) (ms ++ ms') (groupMark n l :: l')

variable {n k : Int} {g g' : Turns → Bookkeeping} {p : Turns} {G : Grouping σ} {ms l : List Int}

theorem Holds.bounds (h : Holds n g p G ms l) (hn : 0 ≤ n) : ∀ m ∈ l, 0 ≤ m ∧ m ≤ n := by
  induction h with
  | nil => nofun
  | single h0 hle _ ih => exact List.forall_mem_cons.mpr ⟨⟨h0, hle⟩, ih⟩
  | group _ _ _ ih ih' =>
    exact List.forall_mem_cons.mpr
      ⟨⟨groupMark_nonneg hn, groupMark_le hn fun m hm => (ih m hm).2⟩, ih'⟩

/-- A visitor is not skipping if and only if a member is not. -/
theorem Holds.zero_mem (h : Holds n g p G ms l) (hn : 0 < n) : 0 ∈ ms ↔ 0 ∈ l := by
  induction h with
  | nil => exact Iff.rfl
  | single _ _ _ ih => rw [List.mem_cons, List.mem_cons, ih]
  | group _ _ _ ih ih' =>
    rw [List.mem_append, List.mem_cons, ih, ih']
    refine or_congr ⟨fun hz => (if_pos hz).symm, fun hz => zero_mem_of_groupMark hn hz.symm⟩ Iff.rfl

/-- If all members are skipping, no visitor began to skip later than all members. -/
theorem Holds.le (h : Holds n g p G ms l) (hz : 0 ∉ l) (hk : ∀ m ∈ l, m ≤ k) :
    ∀ m ∈ ms, m ≤ k := by
  induction h with
  | nil => nofun
  | single _ _ _ ih =>
    obtain ⟨hm, hrest⟩ := List.forall_mem_cons.mp hk
    exact List.forall_mem_cons.mpr ⟨hm, ih (fun h => hz (List.mem_cons_of_mem _ h)) hrest⟩
  | group _ _ _ ih ih' =>
    obtain ⟨hm, hrest⟩ := List.forall_mem_cons.mp hk
    have hmark : groupMark n _ ≠ 0 := fun h => hz (h ▸ List.mem_cons_self ..)
    refine List.forall_mem_append.mpr ⟨?_, ih' (fun h => hz (List.mem_cons_of_mem _ h)) hrest⟩
    exact ih (not_zero_mem_of_groupMark hmark) fun m h =>
      Int.le_trans (le_groupMark hmark (.inl h)) hm

/-- Other bookkeepings do not matter. -/
theorem Holds.congr (h : Holds n g p G ms l) (hg : ∀ q, Beyond p q → g' q = g q) :
    Holds n g' p G ms l := by
  induction h with
  | nil => exact .nil
  | single h0 hle _ ih => exact .single h0 hle (ih fun q hq => hg q hq.of_cons)
  | group _ hshows _ ih ih' =>
    rw [← hg _ (beyond_cons true _)] at hshows
    exact .group (ih fun q hq => hg q hq.of_cons) hshows (ih' fun q hq => hg q hq.of_cons)

theorem Holds.update (h : Holds n g p G ms l) (b : Bookkeeping) :
    Holds n (Function.update g p b) p G ms l :=
  h.congr fun q hq => Function.update_of_ne (fun heq : q = p => not_beyond_self p (heq ▸ hq)) _ _

/-- Where all members are skipping, it does not matter how many steps are open. -/
theorem Holds.skipping (h : Holds n g p G ms l) (hn : 0 ≤ n) (hz : 0 ∉ l) (hk : ∀ m ∈ l, m ≤ k) :
    Holds k g p G ms l := by
  induction h with
  | nil => exact .nil
  | single h0 _ _ ih =>
    obtain ⟨hm, hrest⟩ := List.forall_mem_cons.mp hk
    exact .single h0 hm (ih (fun h => hz (List.mem_cons_of_mem _ h)) hrest)
  | @group _ _ _ _ _ l _ _ hinner hshows _ ih ih' =>
    obtain ⟨hm, hrest⟩ := List.forall_mem_cons.mp hk
    have hmark : groupMark n l ≠ 0 := fun h => hz (h ▸ List.mem_cons_self ..)
    obtain ⟨hsame, hdepth⟩ := groupMark_skipping hn (fun m hm => (hinner.bounds hn m hm).2) hmark hm
    rw [← hdepth] at hshows
    have hrest' := ih' (fun h => hz (List.mem_cons_of_mem _ h)) hrest
    rw [← hsame]
    exact .group (ih (not_zero_mem_of_groupMark hmark) fun m h =>
      Int.le_trans (le_groupMark hmark (.inl h)) hm) hshows hrest'

end Grouping

end GraphQLTree
