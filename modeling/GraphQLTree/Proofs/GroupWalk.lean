import GraphQLTree.Proofs.GroupSteps

/-! # Walks of visitors in groups

When a step is entered, a group is asked as one member of its list, and tells its lockstep to skip what
is inside if all of its members are skipping then. When the step is left, it is asked again if it began
to skip there or does not skip. In both cases the marks of all visitors become what they would be in one
lockstep, and so do the marks of the groups (`moves_enter`, `moves_leave`). Hence the steps of a walk
lead from one level of open steps to the next (`stepsPair_enter`, `stepsPair_leave`). -/

namespace GraphQLTree

/-! ### Entering -/

theorem asksToPrune_ite (pruned : Bool) :
    Action.asksToPrune (if pruned then .skip else .null) = pruned := by
  cases pruned with
  | false => rfl
  | true => rfl

theorem all_ne_zero {marks : List Int} : marks.all (· != 0) = true ↔ 0 ∉ marks := by
  simp only [List.all_eq_true, bne_iff_ne, ne_eq]
  exact ⟨fun h hz => h 0 hz rfl, fun h m hm hz => h (hz ▸ hm)⟩

section

variable {σ : Type} {books : Turns → Part σ Bookkeeping} (hshelves : Shelves books)
  {T T' : Face σ → Face σ → Prop} (hT : Unbooked books T) {keeps : Store → Store → Prop}
  {s₀ s s' : Store} (hs : keeps s₀ s) (hs' : keeps s₀ s')
  {context : Value} {f : Frame} {n : Int} {hook? flat? : Option (Hook σ)}
  {hooks flats : List (Option (Hook σ))} {p : Turns} {inner : Grouping σ}

/-- The mark of one of the visitors in one lockstep. -/
theorem Bookkeeping.Shows.mark_mem {b : Bookkeeping} {round : Nat} {depth : Int}
    {done marks rest : List Int} (h : b.Shows round depth (done ++ (marks ++ rest))) {i : Nat}
    (hi : i < marks.length) : b.mark round (done.length + i) ∈ marks := by
  unfold Bookkeeping.mark
  rw [h.marks_eq, List.getElem?_append_right (Nat.le_add_right ..), Nat.add_sub_cancel_left,
    List.getElem?_append_left hi, List.getElem?_eq_getElem hi]
  exact List.getElem_mem hi

/-- A loop over visitors which does nothing, as their bookkeeping is. -/
theorem pairs_idle {J : Unit → World σ → Unit → World σ → Prop}
    {F : Halt → World σ → Halt → World σ → Prop} {g : Turns → Bookkeeping} {flat : Bookkeeping}
    {body : Nat → Option (Hook σ) → Act σ Unit} {first : Nat}
    (hidle : ∀ i < flats.length, ∀ flat? v, (books []).get v.state = flat →
      (body (first + i) flat?).runOn v = (.ok (), v))
    (hJ : ∀ w v, Twin keeps (Held books T g flat) s s' w v → J () w () v) :
    Act.Pairs (Twin keeps (Held books T g flat) s s') J F (pure ())
      (Lockstep.each body first flats) := by
  intro w v hw
  rw [Lockstep.runOn_each fun i hi flat? => hidle i hi flat? v hw.faces.right]
  exact hJ w v hw

variable (books T keeps s s' n p inner) in
/-- The members of a group with the marks `l` have entered a step, and so have all visitors in it. -/
def GroupEntered (round fround : Nat) (fdone frest l : List Int) (g : Turns → Bookkeeping)
    (pruned : Bool) (w v : World σ) : Prop :=
  ∃ g' flat' ms' l', Twin keeps (Held books T g' flat') s s' w v ∧
    inner.Holds (n + 1) g' p ms' l' ∧ Prunes (n + 1) l l' ∧
    BothShow p round fround (n + 1) l' (fdone ++ (ms' ++ frest)) g' flat' ∧
    (∀ q ≠ p, ¬ Beyond p q → g' q = g q) ∧ pruned = l'.all (· != 0)

include hshelves hT

theorem pairs_groupEnter
    (h : MovesList books T keeps s s' n (n + 1) (n + 1) (MayPrune (n + 1))
      (Lockstep.member .enter (n + 1) (hookArgs context f.node?))
      (DoomedAlike keeps T' f .enter s s') p inner hooks flats)
    {g : Turns → Bookkeeping} {flat : Bookkeeping} {round fround : Nat}
    {fdone frest ms l : List Int} (hholds : inner.Holds n g p ms l)
    (hshows : (g p).Shows round n l) (hflat : flat.Shows fround (n + 1) (fdone ++ (ms ++ frest))) :
    Act.Pairs (Twin keeps (Held books T g flat) s s')
      (fun a w _ v => GroupEntered books T keeps s s' n p inner round fround fdone frest l g
        (Action.asksToPrune a) w v)
      (DoomedAlike keeps T' f .enter s s')
      (Lockstep.method (books p) .enter hooks (hookArgs context f.node?))
      (Lockstep.each (Lockstep.member .enter (n + 1) (hookArgs context f.node?) (books []) fround)
        fdone.length flats) := by
  refine pairs_changeLeft hshelves hT p _ (pairs_readLeft p ?_)
  rw [Function.update_self]
  have hdeeper := hshows.withDepth ((g p).depth + 1)
  rw [hshows.depth_eq] at hdeeper ⊢
  rw [hdeeper.round_eq]
  have hshown : BothShow p round fround (n + 1) ([] ++ l) (fdone ++ (ms ++ frest)) _ flat :=
    .update (g := g) hdeeper hflat
  refine (h (not_beyond_self p) (hholds.update _) hshown).then_left ?_
  rintro - w - v ⟨g', flat', ms', l', hw, hholds', hprunes, hshown, hsame⟩
  refine ⟨_, w, rfl, g', flat', ms', l', hw, hholds', hprunes, hshown, fun q hq hb => ?_, ?_⟩
  · exact (hsame q hq hb).trans (Function.update_of_ne hq _ _)
  · have hread : (books p).get w.state = g' p := hw.faces.left p
    rw [hread, hshown.group.marks_eq]
    exact asksToPrune_ite _

variable [IsPreorder Store keeps]

section

include hs hs'

theorem moves_enterSingle
    (h : ∀ g flat, Option.Rel
      (CallsAlike keeps s₀ (Held books T g flat) T' context f .enter) hook? flat?) (hn : 0 ≤ n) :
    MovesSingle books T keeps s s' n (n + 1) (n + 1) (MayPrune (n + 1))
      (Lockstep.member .enter (n + 1) (hookArgs context f.node?))
      (DoomedAlike keeps T' f .enter s s') hook? flat? := by
  intro c g flat round fround done rest fdone frest m h0 hm hshown
  cases h g flat with
  | none =>
    exact Act.pairs_pure fun w v hw =>
      ⟨g, flat, m, hw, ⟨h0, by omega⟩, .inl rfl, hshown, fun _ _ => rfl⟩
  | some hcalls =>
    refine pairs_readLeft c (pairs_readRight ?_)
    rw [hshown.group.mark_eq, hshown.flat.mark_eq]
    by_cases hz : m = 0
    · subst hz
      rw [if_pos rfl, if_pos rfl]
      refine (hcalls.judge_rethrow hs hs').bind_same fun pruned => ?_
      intro w v hw
      cases pruned with
      | false =>
        exact ⟨g, flat, 0, hw, ⟨Int.le_refl 0, by omega⟩, .inl rfl, hshown, fun _ _ => rfl⟩
      | true =>
        obtain ⟨w', hr, hw'⟩ := runOn_changeLeft hshelves hT hw c
          (·.setMark round done.length (n + 1))
        obtain ⟨v', hr', hv'⟩ := runOn_changeRight hshelves hT hw'
          (·.setMark fround fdone.length (n + 1))
        rw [if_pos rfl, if_pos rfl, hr, hr']
        refine ⟨_, _, n + 1, hv', ⟨by omega, Int.le_refl _⟩, .inr ⟨rfl, rfl⟩, ⟨?_, ?_⟩, ?_⟩
        · rw [Function.update_self]
          exact hshown.group.setMark (n + 1)
        · exact hshown.flat.setMark (n + 1)
        · exact fun q hq => Function.update_of_ne hq _ _
    · rw [if_neg hz, if_neg hz]
      exact Act.pairs_pure fun w v hw =>
        ⟨g, flat, m, hw, ⟨h0, by omega⟩, .inl rfl, hshown, fun _ _ => rfl⟩

end

theorem moves_enterGroup (hn : 0 ≤ n) (hlength : flats.length = inner.visitors.length)
    (h : MovesList books T keeps s s' n (n + 1) (n + 1) (MayPrune (n + 1))
      (Lockstep.member .enter (n + 1) (hookArgs context f.node?))
      (DoomedAlike keeps T' f .enter s s') p inner hooks flats) :
    MovesGroup books T keeps s s' n (n + 1) (n + 1) (MayPrune (n + 1))
      (Lockstep.member .enter (n + 1) (hookArgs context f.node?))
      (DoomedAlike keeps T' f .enter s s') .enter p inner hooks flats := by
  intro c g flat round fround done rest fdone frest r ms l hne hc hholds hshows hshown
  have hb := hholds.bounds hn
  by_cases hmark : groupMark n l = 0
  case neg =>
    -- the group is skipping, and so are all visitors in it
    have hz : 0 ∉ l := not_zero_mem_of_groupMark hmark
    have hle : groupMark n l ≤ n := groupMark_le hn fun m hm => (hb m hm).2
    obtain ⟨hsame, hdepth⟩ := groupMark_skipping (k := n + 1) hn (fun m hm => (hb m hm).2) hmark
      (by omega)
    have hn0 : 0 < n := by
      have : 0 ≤ groupMark n l := groupMark_nonneg hn
      omega
    refine pairs_readLeft c ?_
    rw [hshown.group.mark_eq, if_neg hmark]
    refine pairs_idle (fun i hi flat? v hv => ?_) fun w v hw => ⟨g, flat, ms, l, hw,
      hholds.skipping hn hz fun m hm => ?_, ⟨r, hdepth ▸ hshows⟩, .inl hsame, hsame ▸ hshown,
      fun _ _ _ => rfl⟩
    · have hmem := hshown.flat.mark_mem (i := i) (by rw [hholds.length, ← hlength]; exact hi)
      have hskips : flat.mark fround (fdone.length + i) ≠ 0 := fun h =>
        hz ((hholds.zero_mem hn0).mp (h ▸ hmem))
      cases flat? with
      | none => rfl
      | some hook =>
        have hread : ((books []).read : Act σ Bookkeeping).runOn v = (.ok flat, v) :=
          congrArg (fun b => (Except.ok b, v)) hv
        refine (Act.runOn_bind_ok hread _).trans ?_
        rw [if_neg hskips]
        rfl
    · have := (hb m hm).2
      omega
  case pos =>
    rw [groupDepth_of_groupMark hmark] at hshows
    rw [hmark] at hshown
    refine pairs_readLeft c ?_
    rw [hshown.group.mark_eq, if_pos rfl]
    refine (Act.Pairs.judge_left (K := fun pruned w _ v => GroupEntered books T keeps s s' n p inner r
      fround fdone frest l g pruned w v)
      (pairs_groupEnter hshelves hT h hholds hshows hshown.flat)).then_left ?_
    rintro pruned w - v ⟨g', flat', ms', l', hw, hholds', hprunes, hshown', hsame, hpruned⟩
    have hcontainer : (g' c).Shows round (n + 1) (done ++ 0 :: rest) := by
      rw [hsame c hne hc]
      exact hshown.group
    have hsame' : ∀ q ≠ c, ¬ (q = p ∨ Beyond p q) → g' q = g q := fun q _ hq =>
      hsame q (fun h => hq (.inl h)) fun h => hq (.inr h)
    cases pruned with
    | false =>
      have hz : 0 ∈ l' := by
        by_contra hz
        exact Bool.false_ne_true (hpruned.trans (all_ne_zero.mpr hz))
      have hmark' : groupMark (n + 1) l' = 0 := if_pos hz
      refine ⟨(), w, rfl, g', flat', ms', l', hw, hholds', ⟨r, ?_⟩, ?_, ⟨?_, hshown'.flat⟩, hsame'⟩
      · rw [groupDepth_of_groupMark hmark']
        exact hshown'.group
      · exact .inl (hmark'.trans hmark.symm)
      · rwa [hmark']
    | true =>
      have hz : 0 ∉ l' := all_ne_zero.mp hpruned.symm
      have hmark' : groupMark (n + 1) l' = n + 1 := hprunes.groupMark_eq hn hb hmark hz
      obtain ⟨w', hr, hw'⟩ := runOn_changeLeft hshelves hT hw c
        (·.setMark round done.length (n + 1))
      have hkept : ∀ q ≠ c, Function.update g' c ((g' c).setMark round done.length (n + 1)) q = g' q :=
        fun q hq => Function.update_of_ne hq _ _
      refine ⟨(), w', hr, _, flat', ms', l', hw', hholds'.congr fun q hq => hkept q ?_, ⟨r, ?_⟩, ?_,
        ⟨?_, hshown'.flat⟩, fun q hq hb => (hkept q hq).trans (hsame' q hq hb)⟩
      · rintro rfl
        exact hc hq
      · rw [hkept p hne.symm]
        unfold groupDepth
        rw [hmark', if_neg (by omega)]
        exact hshown'.group
      · exact .inr ⟨hmark, hmark'⟩
      · rw [Function.update_self, hmark']
        exact hcontainer.setMark (n + 1)

end

/-! ### Leaving -/

theorem eq_map_of_forall₂ {α β : Type} {f : α → β} {l : List α} {l' : List β}
    (h : List.Forall₂ (fun a b => b = f a) l l') : l' = l.map f := by
  induction h with
  | nil => rfl
  | cons hab _ ih => rw [List.map_cons, hab, ih]

section

variable {σ : Type} {books : Turns → Part σ Bookkeeping} (hshelves : Shelves books)
  {T T' : Face σ → Face σ → Prop} (hT : Unbooked books T) {keeps : Store → Store → Prop}
  {s₀ s s' : Store} (hs : keeps s₀ s) (hs' : keeps s₀ s') {context : Value} {f : Frame}
  {n : Int} {hook? flat? : Option (Hook σ)} {hooks flats : List (Option (Hook σ))} {p : Turns}
  {inner : Grouping σ}

include hshelves hT

section

variable {α β : Type} {x : Act σ α} {y : Act σ β} {J : α → World σ → β → World σ → Prop}
  {F : Halt → World σ → Halt → World σ → Prop} {g : Turns → Bookkeeping} {flat : Bookkeeping}
  {round : Nat} {depth level m : Int} {done rest : List Int}

/-- A member that began to skip at this step is not skipping any more. -/
theorem pairs_unmarkLeft {c : Turns} (hm : (g c).Shows round depth (done ++ m :: rest))
    (h : ∀ g₁, (g₁ c).Shows round depth (done ++ unmark level m :: rest) → (∀ q ≠ c, g₁ q = g q) →
      Act.Pairs (Twin keeps (Held books T g₁ flat) s s') J F x y) :
    Act.Pairs (Twin keeps (Held books T g flat) s s') J F
      (do
        if (← (books c).read).mark round done.length = level then
          (books c).change (·.setMark round done.length 0)
        x) y := by
  refine pairs_readLeft c ?_
  rw [hm.mark_eq]
  dsimp only
  by_cases hl : m = level
  · rw [if_pos hl]
    refine pairs_changeLeft hshelves hT c _ (h _ ?_ fun q hq => Function.update_of_ne hq _ _)
    rw [Function.update_self, show unmark level m = 0 from if_pos hl]
    exact hm.setMark 0
  · rw [if_neg hl]
    refine h g ?_ fun _ _ => rfl
    rw [show unmark level m = m from if_neg hl]
    exact hm

theorem pairs_unmarkRight (hm : flat.Shows round depth (done ++ m :: rest))
    (h : ∀ flat₁, flat₁.Shows round depth (done ++ unmark level m :: rest) →
      Act.Pairs (Twin keeps (Held books T g flat₁) s s') J F x y) :
    Act.Pairs (Twin keeps (Held books T g flat) s s') J F x
      (do
        if (← (books []).read).mark round done.length = level then
          (books []).change (·.setMark round done.length 0)
        y) := by
  refine pairs_readRight ?_
  rw [hm.mark_eq]
  dsimp only
  by_cases hl : m = level
  · rw [if_pos hl]
    refine pairs_changeRight hshelves hT _ (h _ ?_)
    rw [show unmark level m = 0 from if_pos hl]
    exact hm.setMark 0
  · rw [if_neg hl]
    refine h flat ?_
    rw [show unmark level m = m from if_neg hl]
    exact hm

end

variable (books T keeps s s' n p inner) in
omit hshelves hT in
/-- The members of a group with the marks `l` have left a step, and so have all visitors in it. -/
def GroupLeft (round fround : Nat) (fdone frest l : List Int) (g : Turns → Bookkeeping)
    (w v : World σ) : Prop :=
  ∃ g' flat' ms', Twin keeps (Held books T g' flat') s s' w v ∧
    inner.Holds n g' p ms' (l.map (unmark (n + 1))) ∧
    BothShow p round fround n (l.map (unmark (n + 1))) (fdone ++ (ms' ++ frest)) g' flat' ∧
    ∀ q ≠ p, ¬ Beyond p q → g' q = g q

theorem pairs_groupLeave
    (h : MovesList books T keeps s s' (n + 1) n n (fun m m' => m' = unmark (n + 1) m)
      (Lockstep.member .leave (n + 1) (hookArgs context f.node?))
      (DoomedAlike keeps T' f .leave s s') p inner hooks flats)
    {g : Turns → Bookkeeping} {flat : Bookkeeping} {round fround : Nat}
    {fdone frest ms l : List Int} (hholds : inner.Holds (n + 1) g p ms l)
    (hshows : (g p).Shows round (n + 1) l) (hflat : flat.Shows fround n (fdone ++ (ms ++ frest))) :
    Act.Pairs (Twin keeps (Held books T g flat) s s')
      (fun _ w _ v => GroupLeft books T keeps s s' n p inner round fround fdone frest l g w v)
      (DoomedAlike keeps T' f .leave s s')
      (Lockstep.method (books p) .leave hooks (hookArgs context f.node?))
      (Lockstep.each (Lockstep.member .leave (n + 1) (hookArgs context f.node?) (books []) fround)
        fdone.length flats) := by
  refine pairs_readLeft p (pairs_changeLeft hshelves hT p _ ?_)
  have hless := hshows.withDepth ((g p).depth - 1)
  rw [hshows.depth_eq, Int.add_sub_cancel] at hless
  rw [hshows.round_eq, hshows.depth_eq, Int.add_sub_cancel]
  have hshown : BothShow p round fround n ([] ++ l) (fdone ++ (ms ++ frest)) _ flat :=
    .update (g := g) hless hflat
  refine (h (not_beyond_self p) (hholds.update _) hshown).then_left ?_
  rintro - w - v ⟨g', flat', ms', l', hw, hholds', hsteps, hshown, hsame⟩
  obtain rfl := eq_map_of_forall₂ hsteps
  exact ⟨_, w, rfl, g', flat', ms', hw, hholds', hshown, fun q hq hb =>
    (hsame q hq hb).trans (Function.update_of_ne hq _ _)⟩

variable [IsPreorder Store keeps]

include hs hs' in
theorem moves_leaveSingle
    (h : ∀ g flat, Option.Rel
      (CallsAlike keeps s₀ (Held books T g flat) T' context f .leave) hook? flat?) (hn : 0 ≤ n) :
    MovesSingle books T keeps s s' (n + 1) n n (fun m m' => m' = unmark (n + 1) m)
      (Lockstep.member .leave (n + 1) (hookArgs context f.node?))
      (DoomedAlike keeps T' f .leave s s') hook? flat? := by
  intro c g flat round fround done rest fdone frest m h0 hm hshown
  refine pairs_unmarkLeft hshelves hT hshown.group fun g₁ hg hsame =>
    pairs_unmarkRight hshelves hT hshown.flat fun flat₁ hflat => ?_
  have hbounds : 0 ≤ unmark (n + 1) m ∧ unmark (n + 1) m ≤ n := by
    unfold unmark
    split
    · exact ⟨Int.le_refl 0, hn⟩
    · omega
  cases h g₁ flat₁ with
  | none => exact Act.pairs_pure fun w v hw => ⟨g₁, flat₁, _, hw, hbounds, rfl, ⟨hg, hflat⟩, hsame⟩
  | some hcalls =>
    refine pairs_readLeft c (pairs_readRight ?_)
    rw [hg.mark_eq, hflat.mark_eq]
    split
    · exact (hcalls.judge_rethrow hs hs').bind fun _ _ => Act.pairs_pure fun w v hw =>
        ⟨g₁, flat₁, _, hw.2, hbounds, rfl, ⟨hg, hflat⟩, hsame⟩
    · exact Act.pairs_pure fun w v hw => ⟨g₁, flat₁, _, hw, hbounds, rfl, ⟨hg, hflat⟩, hsame⟩

theorem moves_leaveGroup (hn : 0 ≤ n) (hlength : flats.length = inner.visitors.length)
    (h : MovesList books T keeps s s' (n + 1) n n (fun m m' => m' = unmark (n + 1) m)
      (Lockstep.member .leave (n + 1) (hookArgs context f.node?))
      (DoomedAlike keeps T' f .leave s s') p inner hooks flats) :
    MovesGroup books T keeps s s' (n + 1) n n (fun m m' => m' = unmark (n + 1) m)
      (Lockstep.member .leave (n + 1) (hookArgs context f.node?))
      (DoomedAlike keeps T' f .leave s s') .leave p inner hooks flats := by
  intro c g flat round fround done rest fdone frest r ms l hne hc hholds hshows hshown
  have hb := hholds.bounds (by omega)
  have hmark' := groupMark_unmark hn hb
  refine pairs_unmarkLeft hshelves hT hshown.group fun g₁ hg hsame => pairs_readLeft c ?_
  have hholds₁ : inner.Holds (n + 1) g₁ p ms l := hholds.congr fun q hq => hsame q fun heq => hc (heq ▸ hq)
  rw [hg.mark_eq]
  by_cases hmark : unmark (n + 1) (groupMark (n + 1) l) = 0
  case neg =>
    -- the group goes on skipping, and so do all visitors in it
    have hne0 : groupMark (n + 1) l ≠ 0 := fun h => hmark (by rw [h]; unfold unmark; split <;> rfl)
    have hlevel : groupMark (n + 1) l ≠ n + 1 := fun h => hmark (if_pos h)
    have hbound : groupMark (n + 1) l ≤ n + 1 := groupMark_le (by omega) fun m hm => (hb m hm).2
    have hz : 0 ∉ l := not_zero_mem_of_groupMark hne0
    have hle : ∀ m ∈ l, m ≤ n := fun m hm => by
      have := le_groupMark hne0 (.inl hm)
      omega
    obtain ⟨hkept, hdepth⟩ := groupMark_skipping (k := n) (by omega) (fun m hm => (hb m hm).2) hne0
      (by omega)
    rw [if_neg hmark]
    refine pairs_idle (fun i hi flat? v hv => ?_) fun w v hw => ⟨g₁, flat, ms, l, hw,
      hholds₁.skipping (by omega) hz hle, ⟨r, ?_⟩, ?_, ⟨?_, hshown.flat⟩, fun q hq _ => hsame q hq⟩
    · have hmem := hshown.flat.mark_mem (i := i) (by rw [hholds.length, ← hlength]; exact hi)
      have hskips : flat.mark fround (fdone.length + i) ≠ 0 := fun h =>
        hz ((hholds.zero_mem (by omega)).mp (h ▸ hmem))
      have hbefore : flat.mark fround (fdone.length + i) ≠ n + 1 := fun h => by
        have := hholds.le hz hle _ hmem
        omega
      have hread : ((books []).read : Act σ Bookkeeping).runOn v = (.ok flat, v) :=
        congrArg (fun b => (Except.ok b, v)) hv
      refine (Act.runOn_bind_ok hread _).trans ?_
      rw [if_neg hbefore]
      cases flat? with
      | none => rfl
      | some hook =>
        refine (Act.runOn_bind_ok hread _).trans ?_
        rw [if_neg hskips]
        rfl
    · rw [hdepth, hsame p hne.symm]
      exact hshows
    · rw [hkept]
      exact (if_neg hlevel).symm
    · rw [hkept, ← show unmark (n + 1) (groupMark (n + 1) l) = groupMark (n + 1) l from if_neg hlevel]
      exact hg
  case pos =>
    have hdepth : groupDepth (n + 1) l = n + 1 := by
      unfold unmark at hmark
      unfold groupDepth
      split at hmark
      · split
        · rfl
        · assumption
      · exact if_pos hmark
    rw [hdepth, ← hsame p hne.symm] at hshows
    rw [if_pos hmark]
    refine (Act.Pairs.judge_left (K := fun _ w _ v => GroupLeft books T keeps s s' n p inner r
      fround fdone frest l g₁ w v)
      (pairs_groupLeave hshelves hT h hholds₁ hshows hshown.flat)).then_left ?_
    rintro pruned w - v ⟨g', flat', ms', hw, hholds', hshown', hsame'⟩
    refine ⟨(), w, rfl, g', flat', ms', _, hw, hholds', ⟨r, ?_⟩, hmark', ⟨?_, hshown'.flat⟩,
      fun q hq hb => (hsame' q (fun h => hb (.inl h)) fun h => hb (.inr h)).trans (hsame q hq)⟩
    · rw [groupDepth_of_groupMark (hmark'.trans hmark)]
      exact hshown'.group
    · rw [hsame' c hne hc, hmark']
      exact hg

end

/-! ### Walks -/

/-- Steps of both sides, as they are called by a walk: an error becomes a report. -/
theorem Act.Pairs.judge_abort {σ σ' : Type} {keeps : Store → Store → Prop}
    [IsPreorder Store keeps] {R R' : Face σ → Face σ' → Prop} {f : Frame} {d : Direction}
    {s s' : Store} {I : World σ → World σ' → Prop} {x : Act σ Value} {y : Act σ' Value}
    (h : Act.Pairs I (fun a w b v => a = b ∧ Twin keeps R s s' w v) (DoomedAlike keeps R' f d s s')
      x y) :
    Act.Pairs I (fun a w b v => a = b ∧ Twin keeps R s s' w v) (FellAlike keeps R' s s')
      (Act.judge x (abort f.kind d f.node?)) (Act.judge y (abort f.kind d f.node?)) := by
  intro w v hw
  have hrun := h hw
  rcases hx : x.runOn w with ⟨halt | a, w'⟩
  · rcases hy : y.runOn v with ⟨halt' | b, v'⟩
    · rw [hx, hy] at hrun
      obtain ⟨failed, hd, hd', hafter⟩ := hrun
      obtain ⟨halt₁, s₁, hj, hfell⟩ := hd.judge_abort hx
      obtain ⟨halt₁', s₁', hj', hfell'⟩ := hd'.judge_abort hy
      rw [hj, hj']
      exact ⟨failed, hfell.mono hafter.left, hfell'.mono hafter.right, hafter.faces⟩
    · rw [hx, hy] at hrun
      exact hrun.elim
  · rcases hy : y.runOn v with ⟨halt' | b, v'⟩
    · rw [hx, hy] at hrun
      exact hrun.elim
    · rw [hx, hy] at hrun
      rw [runOn_judge hx, runOn_judge hy]
      exact ⟨congrArg _ hrun.1, hrun.2⟩

section

variable {σ : Type} {books : Turns → Part σ Bookkeeping} (hshelves : Shelves books)
  {T T' : Face σ → Face σ → Prop} (hT : Unbooked books T) {keeps : Store → Store → Prop}
  [IsPreorder Store keeps] {s₀ s s' : Store} {P : Frame → Prop} {context : Value} {f : Frame}
  {n : Nat} {G : Grouping σ} {options : WalkOptions} {kind : String}

variable (books T) in
/-- Related states of visitors in groups and of the same visitors in one lockstep, where `n` steps are
open. -/
def Grouping.Level (G : Grouping σ) (n : Nat) (a c : Face σ) : Prop :=
  ∃ g flat ms l round fround, Held books T g flat a c ∧ G.Holds n g [] ms l ∧
    BothShow [] round fround n l ms g flat

theorem Grouping.Level.together (hlogs : LogsTogether T) : LogsTogether (G.Level books T n) := by
  rintro a c lines ⟨g, flat, ms, l, round, fround, hheld, hrest⟩
  exact ⟨g, flat, ms, l, round, fround, ⟨hlogs lines hheld.faces, hheld.left, hheld.right⟩, hrest⟩

omit [IsPreorder Store keeps] in
/-- What the methods for a kind are for a frame of the kind. -/
theorem MethodsAlike.calls {R R' : Face σ → Face σ → Prop} {d : Direction}
    {hook? hook?' : Option (Hook σ)}
    (h : MethodsAlike keeps s₀ R R' context P kind d hook? hook?') (hk : f.kind = .text kind)
    (hp : P f) : Option.Rel (CallsAlike keeps s₀ R R' context f d) hook? hook?' := by
  cases h with
  | none => exact .none
  | some hcalls => exact .some (hcalls f hk hp)

include hshelves hT

section

variable (hs : keeps s₀ s) (hs' : keeps s₀ s')
  (hplain : ∀ v ∈ G.visitors, v.Detached books keeps s₀ T T' context P)
include hs hs' hplain

omit [IsPreorder Store keeps] in
/-- Both sides are asked for the methods for a step. -/
theorem pairs_askBoth (d : Direction)
    (hrestart : Lockstep.restartsAt ⟨.text kind, d, false⟩ = true → n = 0) :
    Act.Pairs (Twin keeps (G.Level books T n) s s')
      (fun hooks w flats v =>
        G.HooksAlike books keeps s₀ T T' context P kind d [] hooks flats ∧
        Twin keeps (G.Level books T n) s s' w v)
      (fun _ _ _ _ => False)
      (lockstepHooks (books []) (G.members books []) ⟨.text kind, d, false⟩)
      (lockstepHooks (books []) G.visitors ⟨.text kind, d, false⟩) := by
  rintro w v ⟨hw, hv, g, flat, ms, l, round, fround, hheld, hholds, hshown⟩
  have hgroup (b : Bookkeeping) : Act.Pairs (Twin keeps (Held books T g b) s s') _ _ _ _ :=
    G.pairs_groupLookup (p := []) hshelves hT kind d
      (fun _ => Grouping.pairs_lookups hshelves hT kind d hs hs' hplain) false
  cases hr : Lockstep.restartsAt ⟨.text kind, d, false⟩ with
  | false =>
    have hright : lockstepHooks (books []) G.visitors ⟨.text kind, d, false⟩ =
        G.visitors.mapM fun v => v.hook? ⟨.text kind, d, true⟩ := by
      unfold lockstepHooks
      rw [hr]
      rfl
    rw [hright]
    refine (hgroup flat).mono (fun _ _ => id) ?_ (fun _ _ _ _ => id) ⟨hw, hv, hheld⟩
    rintro hooks w flats v ⟨hhooks, g', hg', htwin⟩
    obtain rfl := hg'.goesOn hr
    exact ⟨hhooks, htwin.left, htwin.right, g', flat, ms, l, round, fround, htwin.faces, hholds,
      hshown⟩
  | true =>
    have hright : lockstepHooks (books []) G.visitors ⟨.text kind, d, false⟩ = (do
        (books []).change (·.restart G.visitors.length)
        G.visitors.mapM fun v => v.hook? ⟨.text kind, d, true⟩) := by
      unfold lockstepHooks
      rw [hr]
      rfl
    obtain rfl := hrestart hr
    rw [hright]
    refine pairs_changeRight hshelves hT _ ((hgroup _).mono (fun _ _ => id) ?_ fun _ _ _ _ => id)
      ⟨hw, hv, hheld⟩
    rintro hooks w flats v ⟨hhooks, g', hg', htwin⟩
    obtain ⟨hholds', round', hshows⟩ := hg'.restarted hr
    exact ⟨hhooks, htwin.left, htwin.right, g', _, _, _, round', _, htwin.faces, hholds', hshows,
      Bookkeeping.shows_restart ..⟩

end

section

variable {hooks flats : List (Option (Hook σ))}

variable (hs : keeps s₀ s) (hs' : keeps s₀ s')
include hs hs'

theorem moves_enter {n : Int} {p : Turns} (hn : 0 ≤ n) (hk : f.kind = .text kind) (hp : P f)
    (h : G.HooksAlike books keeps s₀ T T' context P kind .enter p hooks flats) :
    MovesList books T keeps s s' n (n + 1) (n + 1) (MayPrune (n + 1))
      (Lockstep.member .enter (n + 1) (hookArgs context f.node?)) (DoomedAlike keeps T' f .enter s s')
      p G hooks flats :=
  moves_list (fun _ _ hrel => moves_enterSingle hshelves hT hs hs'
      (fun g flat => (hrel g flat).calls hk hp) hn)
    (fun hlength hmoves => moves_enterGroup hshelves hT hn hlength hmoves) h

theorem moves_leave {n : Int} {p : Turns} (hn : 0 ≤ n) (hk : f.kind = .text kind) (hp : P f)
    (h : G.HooksAlike books keeps s₀ T T' context P kind .leave p hooks flats) :
    MovesList books T keeps s s' (n + 1) n n (fun m m' => m' = unmark (n + 1) m)
      (Lockstep.member .leave (n + 1) (hookArgs context f.node?)) (DoomedAlike keeps T' f .leave s s')
      p G hooks flats :=
  moves_list (fun _ _ hrel => moves_leaveSingle hshelves hT hs hs'
      (fun g flat => (hrel g flat).calls hk hp) hn)
    (fun hlength hmoves => moves_leaveGroup hshelves hT hn hlength hmoves) h

/-- Both sides enter a step. -/
theorem pairs_enterBoth (hk : f.kind = .text kind) (hp : P f)
    (h : G.HooksAlike books keeps s₀ T T' context P kind .enter [] hooks flats) :
    Act.Pairs (Twin keeps (G.Level books T n) s s')
      (fun a w b v => a = b ∧ Twin keeps (G.Level books T (n + 1)) s s' w v)
      (DoomedAlike keeps T' f .enter s s')
      (Lockstep.enter (books []) hooks (hookArgs context f.node?))
      (Lockstep.enter (books []) flats (hookArgs context f.node?)) := by
  rintro w v ⟨hw, hv, g, flat, ms, l, round, fround, hheld, hholds, hshown⟩
  have hlist := moves_enter hshelves hT hs hs' (Int.natCast_nonneg n) hk hp h
  have hdeeper := hshown.group.withDepth ((g []).depth + 1)
  have hdeeper' := hshown.flat.withDepth (flat.depth + 1)
  refine pairs_changeLeft hshelves hT [] _ (pairs_changeRight hshelves hT _
    (pairs_readLeft [] (pairs_readRight ?_))) ⟨hw, hv, hheld⟩
  rw [Function.update_self, hdeeper.round_eq, hdeeper'.round_eq, hshown.group.depth_eq,
    hshown.flat.depth_eq]
  rw [hshown.group.depth_eq] at hdeeper
  rw [hshown.flat.depth_eq] at hdeeper'
  rw [← List.append_nil ms] at hdeeper'
  have hboth : BothShow [] round fround (n + 1) ([] ++ l) ([] ++ (ms ++ [])) _ _ :=
    .update (g := g) hdeeper hdeeper'
  refine (hlist (not_beyond_self []) (hholds.update _) hboth).bind fun _ _ => ?_
  rintro w v ⟨g', flat', ms', l', hw, hholds', -, hshown', -⟩
  rw [List.append_nil] at hshown'
  have hall : l'.all (· != 0) = ms'.all (· != 0) := by
    rw [Bool.eq_iff_iff, all_ne_zero, all_ne_zero, hholds'.zero_mem (by omega)]
  have hend : Act.Pairs (Twin keeps (Held books T g' flat') s s')
      (fun a w b v => a = b ∧ Twin keeps (G.Level books T (n + 1)) s s' w v)
      (DoomedAlike keeps T' f .enter s s')
      (do return if ((← (books []).read).marks round).all (· != 0) then Value.skip else Value.null)
      (do return if ((← (books []).read).marks fround).all (· != 0) then Value.skip else Value.null) := by
    refine pairs_readLeft [] (pairs_readRight (Act.pairs_pure fun w v hw => ⟨?_, hw.left, hw.right,
      g', flat', ms', l', round, fround, hw.faces, hholds', hshown'⟩))
    rw [hshown'.group.marks_eq, hshown'.flat.marks_eq, List.nil_append, List.nil_append, hall]
  exact hend hw

/-- Both sides leave a step. -/
theorem pairs_leaveBoth (hk : f.kind = .text kind) (hp : P f)
    (h : G.HooksAlike books keeps s₀ T T' context P kind .leave [] hooks flats) :
    Act.Pairs (Twin keeps (G.Level books T (n + 1)) s s')
      (fun a w b v => a = b ∧ Twin keeps (G.Level books T n) s s' w v)
      (DoomedAlike keeps T' f .leave s s')
      (Lockstep.leave (books []) hooks (hookArgs context f.node?))
      (Lockstep.leave (books []) flats (hookArgs context f.node?)) := by
  rintro w v ⟨hw, hv, g, flat, ms, l, round, fround, hheld, hholds, hshown⟩
  have hlist := moves_leave hshelves hT hs hs' (Int.natCast_nonneg n) hk hp h
  have hless := hshown.group.withDepth ((g []).depth - 1)
  have hless' := hshown.flat.withDepth (flat.depth - 1)
  have hdepth : ((n + 1 : Nat) : Int) - 1 = n := by omega
  refine pairs_readLeft [] (pairs_readRight (pairs_changeLeft hshelves hT [] _
    (pairs_changeRight hshelves hT _ ?_))) ⟨hw, hv, hheld⟩
  rw [hshown.group.depth_eq, hdepth] at hless
  rw [hshown.flat.depth_eq, hdepth] at hless'
  rw [hshown.group.round_eq, hshown.flat.round_eq, hshown.group.depth_eq, hshown.flat.depth_eq, hdepth]
  rw [← List.append_nil ms] at hless'
  have hboth : BothShow [] round fround n ([] ++ l) ([] ++ (ms ++ [])) _ _ :=
    .update (g := g) hless hless'
  refine (hlist (not_beyond_self []) (hholds.update _) hboth).bind fun _ _ => ?_
  refine Act.pairs_pure ?_
  rintro w v ⟨g', flat', ms', l', hw, hholds', -, hshown', -⟩
  rw [List.append_nil] at hshown'
  exact ⟨rfl, hw.left, hw.right, g', flat', ms', l', round, fround, hw.faces, hholds', hshown'⟩

end

section

variable (hf : Namable options keeps s₀ f) (hp : P f)
  (hplain : ∀ v ∈ G.visitors, v.Detached books keeps s₀ T T' context P)
include hf hp hplain

/-- A frame is entered by visitors in groups and by the same visitors in one lockstep. -/
theorem stepsPair_enter (hlogs : LogsTogether T)
    (hrestart : Lockstep.restartsAt ⟨f.kind, .enter, false⟩ = true → n = 0) :
    StepsPair options context keeps s₀ (lockstep (books []) (G.members books []))
      (lockstep (books []) G.visitors) (G.Level books T n) (G.Level books T (n + 1)) T' f .enter := by
  obtain ⟨kind, hk⟩ := hf.kind
  intro s s' hs hs'
  unfold Visitor.step
  dsimp only
  rw [enterFrame, enterFrame, enterStep_eq, enterStep_eq, lockstep_hook?, lockstep_hook?,
    bind_assoc, bind_assoc]
  rw [hk] at hrestart ⊢
  refine ((pairs_askBoth hshelves hT hs hs' hplain .enter hrestart).mono (fun _ _ => id)
    (fun _ _ _ _ => id) fun _ _ _ _ => False.elim).bind fun hooks flats => ?_
  rintro w v ⟨hhooks, hw⟩
  rw [← hk]
  exact (pairs_enterBoth hshelves hT hs hs' hk hp hhooks).judge_abort.bind_same
    (hf.pairs_endEnter (Grouping.Level.together hlogs) hs hs') hw

/-- A frame is left by visitors in groups and by the same visitors in one lockstep. -/
theorem stepsPair_leave :
    StepsPair options context keeps s₀ (lockstep (books []) (G.members books []))
      (lockstep (books []) G.visitors) (G.Level books T (n + 1)) (G.Level books T n) T' f .leave := by
  obtain ⟨kind, hk⟩ := hf.kind
  intro s s' hs hs'
  unfold Visitor.step
  dsimp only
  rw [leaveFrame, leaveFrame, leaveStep_eq, leaveStep_eq, hk]
  refine Act.Pairs.bind (J := fun _ w _ v => Twin keeps (G.Level books T n) s s' w v) ?_
    fun _ _ => Act.pairs_pure fun _ _ hw => ⟨rfl, hw⟩
  rw [lockstep_hook?, lockstep_hook?, bind_assoc, bind_assoc]
  refine ((pairs_askBoth hshelves hT hs hs' hplain .leave fun h => absurd h Bool.false_ne_true).mono (fun _ _ => id)
    (fun _ _ _ _ => id) fun _ _ _ _ => False.elim).bind fun hooks flats => ?_
  rintro w v ⟨hhooks, hw⟩
  rw [← hk]
  exact (pairs_leaveBoth hshelves hT hs hs' hk hp hhooks).judge_abort.bind
    (fun _ _ => Act.pairs_pure fun _ _ hw => hw.2) hw

end

end

end GraphQLTree
