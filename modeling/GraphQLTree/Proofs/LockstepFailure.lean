import GraphQLTree.Proofs.Following

/-! # Companies of plain visitors

A plain visitor by itself is a company of one: its walk is a journey of its own (`Visitor.Candid.led`).
Plain visitors in lockstep are a company too: at each step they take their turns, until one of them
fails, and the bookkeeping holds the marks of the team (`led_lockstep`). -/

namespace GraphQLTree

section

variable {σ : Type} {τ : Nat → Type} (share : Sharing σ τ) (keeps : Store → Store → Prop)
  (s₀ : Store)

/-- A plain visitor by itself. -/
def soloCompany (i : Nat) (found : τ i → Value → Direction → Option (Hook σ)) (context : Value) :
    Company σ (τ i) where
  conduct := Takes share keeps s₀ i found context
  stands a state _ := share.own i state = a
  fallen a state _ := share.own i state = a

variable (found : (i : Nat) → τ i → Value → Direction → Option (Hook σ)) (context : Value)

/-- What plain visitors do at the steps of a walk, each by itself. -/
abbrev eachTakes (i : Nat) : Conduct (τ i) :=
  Takes share keeps s₀ i (found i) context

/-- Plain visitors in lockstep. -/
def lockstepCompany (count : Nat) : Company σ (Team τ) where
  conduct := Together (eachTakes share keeps s₀ found context) count
  stands t state _ := (∃ round, (share.books.get state).Marked count t.depth round t.marks) ∧
    ∀ i < count, share.own i state = t.own i
  fallen t state _ := ∀ i < count, share.own i state = t.own i

end

/-! ### By itself -/

section

variable {σ : Type} {τ : Nat → Type} {share : Sharing σ τ} {keeps : Store → Store → Prop}
  [IsPreorder Store keeps] {s₀ s : Store} {i : Nat}
  {found : τ i → Value → Direction → Option (Hook σ)} {context : Value} {visitor : Visitor σ}
  {options : WalkOptions} {f : Frame}
  (hv : visitor.Candid share keeps s₀ i found context)
include hv

/-- The method for a step is called, if there is one; what is done then changes nothing of the
visitor. -/
theorem Visitor.Candid.ensures_method {α : Type} {direction : Direction} {hook : Hook σ}
    {after : Bool → Act σ α} {J : Bool → α → Prop} (hs : keeps s₀ s) (a : τ i)
    (hh : found a f.kind direction = some hook)
    (hafter : ∀ pruned w, keeps s₀ w.store → ∃ x w', (after pruned).runOn w = (.ok x, w') ∧
      J pruned x ∧ keeps w.store w'.store ∧ w'.state = w.state) :
    Act.Ensures ((soloCompany share keeps s₀ i found context).At keeps s a)
      (fun x w => ∃ pruned a', J pruned x ∧
        Takes share keeps s₀ i found context f direction a (.goesOn pruned) a' ∧
        (soloCompany share keeps s₀ i found context).At keeps s a' w)
      ((soloCompany share keeps s₀ i found context).Stumbled keeps s f direction a)
      (Act.judge (hook (hookArgs context f.node?)) (abort f.kind direction f.node?) >>= after) := by
  rintro w ⟨hw, rfl⟩
  have hw₀ := trans_of keeps hs hw
  rcases hv.called hw₀ hh with ⟨pruned, w₁, hj, ht, hk, -, -⟩ | ⟨failed, halt, w₁, hr, hd, ht, hk, -⟩
  · rw [Act.runOn_bind_ok (Act.judge_ok (fun e => fun w => ⟨_, w, rfl⟩) hj)]
    obtain ⟨x, w₂, hr, hx, hk₂, hstate⟩ := hafter pruned w₁ (trans_of keeps hw₀ hk)
    rw [hr]
    refine ⟨pruned, _, hx, ht, trans_of keeps hw (trans_of keeps hk hk₂), ?_⟩
    exact congrArg (share.own i) hstate
  · obtain ⟨halt', s', hrun, hfell⟩ := hd.judge_abort hr
    rw [Act.runOn_bind_error hrun]
    exact ⟨failed, _, ht, rfl, hfell.mono (trans_of keeps hw hk)⟩

theorem Visitor.Candid.enters (hf : Namable options keeps s₀ f) (hs : keeps s₀ s) (a : τ i) :
    (soloCompany share keeps s₀ i found context).Enters keeps s
      ((soloCompany share keeps s₀ i found context).At keeps s a) f a
      (enterFrame options visitor context f) := by
  obtain ⟨kind, hk⟩ := hf.kind
  rintro w ⟨hw, rfl⟩
  obtain ⟨w₁, hl, hq⟩ := hv.lookup kind .enter false (trans_of keeps hs hw)
  rw [enterFrame, enterStep_eq, hk, Act.runOn_bind_ok hl, ← hk]
  have hw₁ : (soloCompany share keeps s₀ i found context).At keeps s (share.own i w.state) w₁ :=
    ⟨trans_of keeps hw hq.store, congrArg (share.own i) hq.state⟩
  rcases hh : found (share.own i w.state) f.kind .enter with - | hook
  · refine ⟨share.own i w.state, ?_, hw₁⟩
    change Does share keeps s₀ i found context f .enter _ false _
    unfold Does
    rw [hh]
    exact ⟨rfl, rfl⟩
  · refine (hv.ensures_method (J := fun pruned x => x = pruned) hs _ hh fun pruned w hw => ?_).mono
      (fun _ => id) ?_ (fun _ _ => id) w₁ hw₁
    · obtain ⟨w', hr, hk', hstate⟩ := hf.runOn_endEnter pruned hw
      exact ⟨pruned, w', hr, rfl, hk', hstate⟩
    · rintro _ w ⟨pruned, a', rfl, ht, ha⟩
      exact ⟨a', ht, ha⟩

theorem Visitor.Candid.leaves (hf : Namable options keeps s₀ f) (hs : keeps s₀ s) (a : τ i) :
    (soloCompany share keeps s₀ i found context).Leaves keeps s f a
      (leaveFrame visitor context f) := by
  obtain ⟨kind, hk⟩ := hf.kind
  rintro w ⟨hw, rfl⟩
  obtain ⟨w₁, hl, hq⟩ := hv.lookup kind .leave false (trans_of keeps hs hw)
  rw [leaveFrame, leaveStep_eq, hk, Act.runOn_bind_ok hl, ← hk]
  have hw₁ : (soloCompany share keeps s₀ i found context).At keeps s (share.own i w.state) w₁ :=
    ⟨trans_of keeps hw hq.store, congrArg (share.own i) hq.state⟩
  rcases hh : found (share.own i w.state) f.kind .leave with - | hook
  · refine ⟨false, share.own i w.state, ?_, hw₁⟩
    change Does share keeps s₀ i found context f .leave _ false _
    unfold Does
    rw [hh]
    exact ⟨rfl, rfl⟩
  · refine (hv.ensures_method (J := fun _ _ => True) hs _ hh fun pruned w _ => ?_).mono
      (fun _ => id) ?_ (fun _ _ => id) w₁ hw₁
    · exact ⟨(), w, rfl, trivial, refl_of keeps _, rfl⟩
    · rintro _ w ⟨pruned, a', -, ht, ha⟩
      exact ⟨pruned, a', ht, ha⟩

theorem Visitor.Candid.led :
    (soloCompany share keeps s₀ i found context).Led keeps s₀ (Nested options keeps s₀) options
      visitor context where
  falls h := h
  enters hf _ hs a := hv.enters hf.namable hs a
  leaves hf _ hs a _ := hv.leaves hf hs a

end

/-! ### In lockstep -/

section

variable {σ : Type} {τ : Nat → Type} {share : Sharing σ τ} {keeps : Store → Store → Prop}
  {s₀ s : Store} {members : List (Visitor σ)}
  {found : (i : Nat) → τ i → Value → Direction → Option (Hook σ)} {context : Value}
  {f : Frame} {direction : Direction} {t : Team τ} {depth : Int} {round k : Nat}
  {marks : Nat → Int} {a : (i : Nat) → τ i} {w w' : World σ} {halt : Halt}

/-- A change of the mark of one member. -/
theorem Amid.setMark (h : Amid share keeps s members depth round marks a w) (k : Nat) (mark : Int) :
    Amid share keeps s members depth round (Function.update marks k mark) a
      { w with state := share.books.set ((share.books.get w.state).setMark round k mark) w.state } :=
  h.change (f := fun b => b.setMark round k mark) fun _ hb => hb.setMark k mark

/-- What a method of one member changes. -/
theorem Amid.update (h : Amid share keeps s members depth round marks a w)
    (hs : keeps s w'.store) (hb : share.books.get w'.state = share.books.get w.state)
    (ho : ∀ j ≠ k, share.own j w'.state = share.own j w.state) :
    Amid share keeps s members depth round marks (Function.update a k (share.own k w'.state)) w' := by
  refine ⟨hs, ?_, fun i hi => ?_⟩
  · rw [hb]
    exact h.books
  · by_cases hik : i = k
    · subst hik
      rw [Function.update_self]
    · rw [Function.update_of_ne hik, ho i hik]
      exact h.own i hi

variable (share keeps s₀ s members found context) in
/-- A step that the first `k` members of a team have taken, in a world with the given depth. The mark
of the next member may have been set back. -/
structure Midway (f : Frame) (direction : Direction) (t : Team τ) (depth : Int) (round k : Nat)
    (marks : Nat → Int) (a : (i : Nat) → τ i) (w : World σ) : Prop where
  amid : Amid share keeps s members depth round marks a w
  taken : ∀ i < k, MemberStep (eachTakes share keeps s₀ found context) f direction
    (t.level direction) i (t.marks i) (marks i) (t.own i) (a i)
  ahead : ∀ i, k ≤ i → a i = t.own i
  marked : ∀ i, k < i → marks i = t.marks i

variable (share keeps s₀ s members found context) in
/-- It is the turn of the member `k`. -/
def InTurn (f : Frame) (direction : Direction) (t : Team τ) (depth : Int) (round k : Nat)
    (w : World σ) : Prop :=
  ∃ marks a, Midway share keeps s₀ s members found context f direction t depth round k marks a w ∧
    marks k = t.marks k

variable (share keeps s₀ s members found context) in
/-- One of the members of a team has failed at a step. -/
def Felled (f : Frame) (direction : Direction) (t : Team τ) (halt : Halt) (w : World σ) : Prop :=
  ∃ failed t', Together (eachTakes share keeps s₀ found context) members.length f direction t
      (.fails failed) t' ∧
    (lockstepCompany share keeps s₀ found context members.length).fallen t' w.state w.log ∧
    keeps s w.store ∧ Dooms keeps f direction failed halt w.store

variable (share keeps s₀ s members found context) in
/-- A team has taken a step, and goes on. -/
def Stepped (f : Frame) (direction : Direction) (t : Team τ) (pruned : Bool) (w : World σ) : Prop :=
  ∃ t', Together (eachTakes share keeps s₀ found context) members.length f direction t
      (.goesOn pruned) t' ∧
    (lockstepCompany share keeps s₀ found context members.length).At keeps s t' w

/-- One more member has taken the step. -/
theorem Midway.next (h : Midway share keeps s₀ s members found context f direction t depth round k
      marks a w) {mark : Int} {x : τ k}
    (ha : Amid share keeps s members depth round (Function.update marks k mark)
      (Function.update a k x) w')
    (hstep : MemberStep (eachTakes share keeps s₀ found context) f direction (t.level direction) k
      (t.marks k) mark (t.own k) x) :
    InTurn share keeps s₀ s members found context f direction t depth round (k + 1) w' := by
  refine ⟨_, _, ⟨ha, fun i hi => ?_, fun i hi => ?_, fun i hi => ?_⟩, ?_⟩
  · by_cases hik : i = k
    · subst hik
      rw [Function.update_self, Function.update_self]
      exact hstep
    · rw [Function.update_of_ne hik, Function.update_of_ne hik]
      exact h.taken i (by omega)
  · rw [Function.update_of_ne (by omega)]
    exact h.ahead i (by omega)
  · rw [Function.update_of_ne (by omega)]
    exact h.marked i (by omega)
  · rw [Function.update_of_ne (Nat.succ_ne_self k)]
    exact h.marked (k + 1) (Nat.lt_succ_self k)

/-- A member takes the step without a change of its mark. -/
theorem Midway.nextOwn (h : Midway share keeps s₀ s members found context f direction t depth round k
      marks a w) {x : τ k}
    (ha : Amid share keeps s members depth round marks (Function.update a k x) w')
    (hstep : MemberStep (eachTakes share keeps s₀ found context) f direction (t.level direction) k
      (t.marks k) (marks k) (t.own k) x) :
    InTurn share keeps s₀ s members found context f direction t depth round (k + 1) w' := by
  have hsame : Amid share keeps s members depth round (Function.update marks k (marks k))
      (Function.update a k x) w' := by
    rwa [Function.update_eq_self]
  exact h.next hsame hstep

/-- A member is passed over: it has no method for the step, or it is skipping. -/
theorem Midway.pass (h : Midway share keeps s₀ s members found context f direction t depth round k
      marks a w)
    (hstep : MemberStep (eachTakes share keeps s₀ found context) f direction (t.level direction) k
      (t.marks k) (marks k) (t.own k) (t.own k)) :
    InTurn share keeps s₀ s members found context f direction t depth round (k + 1) w := by
  refine h.nextOwn ?_ hstep
  rw [← h.ahead k (Nat.le_refl k), Function.update_eq_self]
  exact h.amid

theorem Midway.mark_eq (h : Midway share keeps s₀ s members found context f direction t depth round k
      marks a w) (hk : k < members.length) :
    (share.books.get w.state).mark round k = marks k :=
  h.amid.books.mark_eq hk

/-- A member without a method goes on as it is. -/
theorem takes_nothing {i : Nat} {x : τ i} (hh : found i x f.kind direction = none) :
    Takes share keeps s₀ i (found i) context f direction x (.goesOn false) x := by
  change Does share keeps s₀ i (found i) context f direction x false x
  unfold Does
  rw [hh]
  exact ⟨rfl, rfl⟩

variable [IsPreorder Store keeps]
  (hcandid : ∀ (i : Nat) (v : Visitor σ), members[i]? = some v →
    v.Candid share keeps s₀ i (found i) context)
include hcandid

/-- The method of a member is called that is not skipping: the member takes the step, or it fails and
those after it are not called. -/
theorem Midway.call (h : Midway share keeps s₀ s members found context f direction t depth round k
      marks a w) (hs : keeps s₀ s) (hk : k < members.length)
    (hc : direction.Calls (t.level direction) (t.marks k)) {hook : Hook σ}
    (hh : found k (t.own k) f.kind direction = some hook) :
    (∃ pruned w', (Act.judge (hook (hookArgs context f.node?)) Lockstep.rethrow).runOn w =
        (.ok pruned, w') ∧
      Takes share keeps s₀ k (found k) context f direction (t.own k) (.goesOn pruned)
        (share.own k w'.state) ∧
      Amid share keeps s members depth round marks (Function.update a k (share.own k w'.state)) w') ∨
    ∃ halt w', (Act.judge (hook (hookArgs context f.node?)) Lockstep.rethrow).runOn w =
        (.error halt, w') ∧ Felled share keeps s₀ s members found context f direction t halt w' := by
  have hv := hcandid k _ (List.getElem?_eq_getElem hk)
  have hown : share.own k w.state = t.own k := (h.amid.own k hk).trans (h.ahead k (Nat.le_refl k))
  rw [← hown] at hh ⊢
  rcases hv.called (trans_of keeps hs h.amid.store) hh with
    ⟨pruned, w', hj, ht, hks, hb, ho⟩ | ⟨failed, halt, w₁, hr, hd, ht, hks, ho⟩
  · exact .inl ⟨pruned, w', hj, ht, h.amid.update (trans_of keeps h.amid.store hks) hb ho⟩
  · obtain ⟨s', hrun, hks', hd'⟩ := hd.judge_rethrow hr
    refine .inr ⟨halt, _, hrun, failed,
      ⟨t.depth, t.marks, Function.update a k (share.own k w₁.state)⟩,
      ⟨k, hk, hc, ?_, fun j hj => ⟨marks j, ?_⟩, fun j _ hj => ?_⟩, fun i hi => ?_,
      trans_of keeps h.amid.store (trans_of keeps hks hks'), hd'⟩
    · dsimp only
      rw [Function.update_self, ← hown]
      exact ht
    · dsimp only
      rw [Function.update_of_ne (Nat.ne_of_lt hj)]
      exact h.taken j hj
    · dsimp only
      rw [Function.update_of_ne (by omega)]
      exact h.ahead j (Nat.le_of_lt hj)
    · dsimp only
      by_cases hik : i = k
      · subst hik
        rw [Function.update_self]
      · rw [Function.update_of_ne hik, ho i hik]
        exact h.amid.own i hi

/-- The turn of a member where a frame is entered. -/
theorem ensures_enterTurn (hs : keeps s₀ s) (hk : k < members.length) :
    Act.Ensures
      (InTurn share keeps s₀ s members found context f .enter t (t.depth + 1) round k)
      (fun _ => InTurn share keeps s₀ s members found context f .enter t (t.depth + 1) round (k + 1))
      (Felled share keeps s₀ s members found context f .enter t)
      (Lockstep.enterMember share.books round (t.depth + 1) (hookArgs context f.node?) k
        (found k (t.own k) f.kind .enter)) := by
  rintro w ⟨marks, a, h, hmark⟩
  unfold Lockstep.enterMember
  rcases hh : found k (t.own k) f.kind .enter with - | hook
  · refine h.pass ?_
    by_cases h0 : t.marks k = 0
    · exact .inl ⟨h0, false, takes_nothing hh, hmark.trans h0⟩
    · exact .inr ⟨h0, hmark, rfl⟩
  · dsimp only
    rw [Act.runOn_bind_ok (runOn_read ..), h.mark_eq hk, hmark]
    by_cases h0 : t.marks k = 0
    · rw [if_pos h0]
      rcases h.call hcandid hs hk h0 hh with ⟨pruned, w', hj, ht, ha⟩ | ⟨halt, w', hj, hf⟩
      · rw [Act.runOn_bind_ok hj]
        cases pruned with
        | true => exact h.next (ha.setMark k (t.depth + 1)) (.inl ⟨h0, true, ht, rfl⟩)
        | false => exact h.nextOwn ha (.inl ⟨h0, false, ht, hmark.trans h0⟩)
      · rw [Act.runOn_bind_error hj]
        exact hf
    · rw [if_neg h0]
      exact h.pass (.inr ⟨h0, hmark, rfl⟩)

/-- The method of a member where a frame is left, after its mark was set back. -/
theorem ensures_leaveCall (hs : keeps s₀ s) (hk : k < members.length)
    (hmark : Direction.leave.Calls t.depth (t.marks k) ∧ marks k = 0 ∨
      ¬ Direction.leave.Calls t.depth (t.marks k) ∧ marks k = t.marks k) :
    Act.Ensures (Midway share keeps s₀ s members found context f .leave t depth round k marks a)
      (fun _ => InTurn share keeps s₀ s members found context f .leave t depth round (k + 1))
      (Felled share keeps s₀ s members found context f .leave t)
      (match found k (t.own k) f.kind .leave with
        | none => pure ()
        | some hook => do
          if (← share.books.read).mark round k = 0 then
            discard (Act.judge (hook (hookArgs context f.node?)) Lockstep.rethrow)) := by
  intro w h
  rcases hh : found k (t.own k) f.kind .leave with - | hook
  · refine h.pass ?_
    rcases hmark with ⟨hc, h0⟩ | ⟨hc, hm⟩
    · exact .inl ⟨hc, false, takes_nothing hh, h0⟩
    · exact .inr ⟨hc, hm, rfl⟩
  · dsimp only
    rw [Act.runOn_bind_ok (runOn_read ..), h.mark_eq hk]
    rcases hmark with ⟨hc, h0⟩ | ⟨hc, hm⟩
    · rw [if_pos h0]
      rcases h.call hcandid hs hk hc hh with ⟨pruned, w', hj, ht, ha⟩ | ⟨halt, w', hj, hf⟩
      · have hrun : (discard (Act.judge (hook (hookArgs context f.node?)) Lockstep.rethrow) :
            Act σ Unit).runOn w = (.ok (), w') := Act.runOn_bind_ok hj _
        rw [hrun]
        exact h.nextOwn ha (.inl ⟨hc, pruned, ht, h0⟩)
      · have hrun : (discard (Act.judge (hook (hookArgs context f.node?)) Lockstep.rethrow) :
            Act σ Unit).runOn w = (.error halt, w') := Act.runOn_bind_error hj _
        rw [hrun]
        exact hf
    · rw [if_neg fun h0 => hc (.inl (hm.symm.trans h0))]
      exact h.pass (.inr ⟨hc, hm, rfl⟩)

/-- The turn of a member where a frame is left. -/
theorem ensures_leaveTurn (hs : keeps s₀ s) (hk : k < members.length) :
    Act.Ensures (InTurn share keeps s₀ s members found context f .leave t depth round k)
      (fun _ => InTurn share keeps s₀ s members found context f .leave t depth round (k + 1))
      (Felled share keeps s₀ s members found context f .leave t)
      (Lockstep.leaveMember share.books round t.depth (hookArgs context f.node?) k
        (found k (t.own k) f.kind .leave)) := by
  rintro w ⟨marks, a, h, hmark⟩
  unfold Lockstep.leaveMember
  rw [Act.runOn_bind_ok (runOn_read ..), h.mark_eq hk, hmark]
  by_cases hd : t.marks k = t.depth
  · -- a mark of this depth is set back first
    rw [if_pos hd, Act.runOn_bind_ok (runOn_change ..)]
    have h₁ : Midway share keeps s₀ s members found context f .leave t depth round k
        (Function.update marks k 0) a { w with
          state := share.books.set ((share.books.get w.state).setMark round k 0) w.state } := by
      refine ⟨h.amid.setMark k 0, fun i hi => ?_, h.ahead, fun i hi => ?_⟩
      · rw [Function.update_of_ne (Nat.ne_of_lt hi)]
        exact h.taken i hi
      · rw [Function.update_of_ne (Nat.ne_of_gt hi)]
        exact h.marked i hi
    exact ensures_leaveCall hcandid hs hk (.inl ⟨.inr hd, Function.update_self ..⟩) _ h₁
  · rw [if_neg hd]
    refine ensures_leaveCall hcandid hs hk ?_ w h
    by_cases h0 : t.marks k = 0
    · exact .inl ⟨.inl h0, hmark.trans h0⟩
    · exact .inr ⟨fun hc => hc.elim h0 hd, hmark⟩

omit hcandid [IsPreorder Store keeps] in
theorem Amid.inTurn (h : Amid share keeps s members depth round t.marks t.own w) :
    InTurn share keeps s₀ s members found context f direction t depth round 0 w :=
  ⟨t.marks, t.own, ⟨h, nofun, fun _ _ => rfl, fun _ _ => rfl⟩, rfl⟩

omit hcandid [IsPreorder Store keeps] in
/-- The members take their turns one after the other. -/
theorem ensures_turns {hooks : List (Option (Hook σ))} {body : Nat → Option (Hook σ) → Act σ Unit}
    (hh : Hooked members found t.own f.kind direction hooks)
    (hbody : ∀ k < members.length, Act.Ensures
      (InTurn share keeps s₀ s members found context f direction t depth round k)
      (fun _ => InTurn share keeps s₀ s members found context f direction t depth round (k + 1))
      (Felled share keeps s₀ s members found context f direction t)
      (body k (found k (t.own k) f.kind direction))) :
    Act.Ensures (InTurn share keeps s₀ s members found context f direction t depth round 0)
      (fun _ => InTurn share keeps s₀ s members found context f direction t depth round
        members.length)
      (Felled share keeps s₀ s members found context f direction t)
      (hooks.zipIdx.forM fun (hook?, i) => body i hook?) := by
  have hloop := @Act.ensures_zipIdx σ (Option (Hook σ))
    (Felled share keeps s₀ s members found context f direction t)
    (InTurn share keeps s₀ s members found context f direction t depth round)
    (fun (hook?, i) => body i hook?) hooks 0 ?_
  · rwa [Nat.zero_add, hh.1] at hloop
  · intro k hook? hk
    rw [Nat.zero_add]
    have hlt : k < members.length := by
      rw [← hh.1]
      exact (List.getElem?_eq_some_iff.mp hk).1
    obtain rfl : found k (t.own k) f.kind direction = hook? :=
      Option.some.inj ((hh.2 k hlt).symm.trans hk)
    exact hbody k hlt

/-! ### Steps of a team -/

omit hcandid [IsPreorder Store keeps] in
theorem at_lockstep :
    (lockstepCompany share keeps s₀ found context members.length).At keeps s t w ↔
      ∃ round, Amid share keeps s members t.depth round t.marks t.own w := by
  constructor
  · rintro ⟨hs, ⟨round, hb⟩, ho⟩
    exact ⟨round, hs, hb, ho⟩
  · rintro ⟨round, h⟩
    exact ⟨h.store, ⟨round, h.books⟩, h.own⟩

omit hcandid [IsPreorder Store keeps] in
/-- A team in which all members have had their turn. -/
theorem InTurn.stands (h : InTurn share keeps s₀ s members found context f direction t depth round
      members.length w) (hd : depth = t.depthAfter direction) {pruned : Bool}
    (hp : ∀ marks a, Amid share keeps s members depth round marks a w → direction = .enter →
      (pruned = true ↔ ∀ i < members.length, marks i ≠ 0)) :
    Stepped share keeps s₀ s members found context f direction t pruned w := by
  obtain ⟨marks, a, hm, -⟩ := h
  exact ⟨⟨depth, marks, a⟩, ⟨hd, hm.taken, hp marks a hm.amid⟩, at_lockstep.mpr ⟨round, hm.amid⟩⟩

theorem ensures_teamEnters {hooks : List (Option (Hook σ))} (hs : keeps s₀ s)
    (hh : Hooked members found t.own f.kind .enter hooks) :
    Act.Ensures (Amid share keeps s members t.depth round t.marks t.own)
      (fun answer => Stepped share keeps s₀ s members found context f .enter t
        (Action.asksToPrune answer))
      (Felled share keeps s₀ s members found context f .enter t)
      (Lockstep.enter share.books hooks (hookArgs context f.node?)) := by
  intro w h
  have h₁ : Amid share keeps s members (t.depth + 1) round t.marks t.own { w with
      state := share.books.set { share.books.get w.state with
        depth := (share.books.get w.state).depth + 1 } w.state } :=
    h.change (f := fun b => { b with depth := b.depth + 1 }) fun b hb =>
      hb.depth_eq ▸ hb.withDepth (b.depth + 1)
  unfold Lockstep.enter
  rw [Act.runOn_bind_ok (runOn_change ..), Act.runOn_bind_ok (runOn_read ..), h₁.books.round_eq,
    h₁.books.depth_eq]
  refine (ensures_turns hh fun k hk => ensures_enterTurn hcandid hs hk).bind (fun _ => ?_) _ h₁.inTurn
  intro w₁ hturn
  rw [Act.runOn_bind_ok (runOn_read ..)]
  refine hturn.stands rfl fun marks a ha _ => ?_
  rw [ha.books.marks_eq, List.all_map]
  have hall : (List.range members.length).all ((· != 0) ∘ marks) = true ↔
      ∀ i < members.length, marks i ≠ 0 := by simp
  cases hr : (List.range members.length).all ((· != 0) ∘ marks) with
  | true => exact ⟨fun _ => hall.mp hr, fun _ => rfl⟩
  | false => exact ⟨nofun, fun h => nomatch hr.symm.trans (hall.mpr h)⟩

theorem ensures_teamLeaves {hooks : List (Option (Hook σ))} (hs : keeps s₀ s)
    (hh : Hooked members found t.own f.kind .leave hooks) :
    Act.Ensures (Amid share keeps s members t.depth round t.marks t.own)
      (fun answer => Stepped share keeps s₀ s members found context f .leave t
        (Action.asksToPrune answer))
      (Felled share keeps s₀ s members found context f .leave t)
      (Lockstep.leave share.books hooks (hookArgs context f.node?)) := by
  intro w h
  have h₁ : Amid share keeps s members (t.depth - 1) round t.marks t.own { w with
      state := share.books.set { share.books.get w.state with
        depth := (share.books.get w.state).depth - 1 } w.state } :=
    h.change (f := fun b => { b with depth := b.depth - 1 }) fun b hb =>
      hb.depth_eq ▸ hb.withDepth (b.depth - 1)
  unfold Lockstep.leave
  rw [Act.runOn_bind_ok (runOn_read ..), h.books.round_eq, h.books.depth_eq,
    Act.runOn_bind_ok (runOn_change ..)]
  refine (ensures_turns hh fun k hk => ensures_leaveTurn hcandid hs hk).bind (fun _ => ?_) _ h₁.inTurn
  intro w₁ hturn
  exact hturn.stands rfl fun _ _ _ h => nomatch h

omit hcandid in
/-- The failure of a member, as the walk makes a report of it. -/
theorem Felled.stumbled {run : Act σ Value} (hr : run.runOn w = (.error halt, w'))
    (h : Felled share keeps s₀ s members found context f direction t halt w') :
    ∃ halt' w₁, (Act.judge run (abort f.kind direction f.node?)).runOn w = (.error halt', w₁) ∧
      (lockstepCompany share keeps s₀ found context members.length).Stumbled keeps s f direction t
        halt' w₁ := by
  obtain ⟨failed, t', ht, hfallen, hk, hd⟩ := h
  obtain ⟨halt', s', hrun, hfell⟩ := hd.judge_abort hr
  exact ⟨halt', _, hrun, failed, t', ht, hfallen, hfell.mono hk⟩

omit hcandid in
/-- The method of a team, as it is called in a walk. -/
theorem ensures_teamStep {α : Type} {before : Act σ Unit} {run : Act σ Value}
    {after : Bool → Act σ α} {J : α → World σ → Prop}
    (hb : share.Ignores before)
    (hrun : Act.Ensures (Amid share keeps s members t.depth round t.marks t.own)
      (fun answer => Stepped share keeps s₀ s members found context f direction t
        (Action.asksToPrune answer))
      (Felled share keeps s₀ s members found context f direction t) run)
    (hafter : ∀ pruned w, Stepped share keeps s₀ s members found context f direction t pruned w →
      ∃ x w', (after pruned).runOn w = (.ok x, w') ∧ J x w') :
    Act.Ensures (Amid share keeps s members t.depth round t.marks t.own) J
      ((lockstepCompany share keeps s₀ found context members.length).Stumbled keeps s f direction t)
      (Act.judge (do before; run) (abort f.kind direction f.node?) >>= after) := by
  intro w h
  obtain ⟨w₁, hr₁, -, h₁⟩ := h.ignores hb
  have hnext : (before >>= fun _ => run).runOn w = run.runOn w₁ := Act.runOn_bind_ok hr₁ _
  have hrun' := hrun w₁ h₁
  rcases hr : run.runOn w₁ with ⟨halt | answer, w₂⟩
  · rw [hr] at hrun'
    obtain ⟨halt', w₃, hj, hs⟩ := hrun'.stumbled (hnext.trans hr)
    rw [Act.runOn_bind_error hj]
    exact hs
  · rw [hr] at hrun'
    obtain ⟨x, w₃, ha, hJ⟩ := hafter _ w₂ hrun'
    rw [Act.runOn_bind_ok (runOn_judge (hnext.trans hr) _), ha]
    exact hJ

/-! ### The company -/

section

variable {options : WalkOptions} {before : Lookup → List Value → Act σ Unit}
  (hbefore : ∀ lookup args, share.Ignores (before lookup args))

omit hcandid [IsPreorder Store keeps] in
theorem Amid.rebase {s' : Store} (h : Amid share keeps s' members depth round marks a w)
    (hs : keeps s w.store) : Amid share keeps s members depth round marks a w :=
  ⟨hs, h.books, h.own⟩

include hbefore

/-- A frame is entered by a team for which the methods were looked up. -/
theorem ensures_teamEnterFrame (hf : Namable options keeps s₀ f) (hs : keeps s₀ s)
    {I : World σ → Prop}
    (hopen : ∀ w, I w → keeps s w.store ∧ ∃ round,
      Opens share keeps s₀ members found before f t.depth round t.marks t.own w) :
    (lockstepCompany share keeps s₀ found context members.length).Enters keeps s I f t
      (enterFrame options ((lockstep share.books members).announced before) context f) := by
  intro w hw
  obtain ⟨hk, round, hooks, w₁, hl, hh, h₁, hk₁⟩ := hopen w hw
  rw [enterFrame, enterStep_eq, Act.runOn_bind_ok hl]
  refine ensures_teamStep (hbefore _ _) (ensures_teamEnters hcandid hs hh) (fun pruned w ht => ?_)
    w₁ (h₁.rebase (trans_of keeps hk hk₁))
  obtain ⟨t', ht', hat⟩ := ht
  obtain ⟨w', hr, hk', hstate⟩ := hf.runOn_endEnter pruned (trans_of keeps hs hat.1)
  refine ⟨pruned, w', hr, t', ht', trans_of keeps hat.1 hk', ?_⟩
  rw [hstate]
  exact hat.2

theorem ensures_teamLeaveFrame (hf : Namable options keeps s₀ f) (hs : keeps s₀ s) :
    (lockstepCompany share keeps s₀ found context members.length).Leaves keeps s f t
      (leaveFrame ((lockstep share.books members).announced before) context f) := by
  intro w hw
  obtain ⟨round, h⟩ := at_lockstep.mp hw
  obtain ⟨kind, hk⟩ := hf.kind
  obtain ⟨hooks, w₁, hr₁, hh, h₁, hk₁⟩ := runOn_memberHooks (fun i v hv => (hcandid i v hv).toPlain)
    kind .leave (h.rebase (trans_of keeps hs h.store))
  have hlook : (((lockstep share.books members).announced before).hook?
      ⟨f.kind, .leave, false⟩).runOn w = (.ok (some fun args => do
        before ⟨f.kind, .leave, false⟩ args
        Lockstep.leave share.books hooks args), w₁) := by
    have hhook : ((lockstep share.books members).hook? ⟨f.kind, .leave, false⟩).runOn w =
        (.ok (some (Lockstep.leave share.books hooks)), w₁) := by
      rw [hk]
      exact Act.runOn_bind_ok hr₁ _
    exact Act.runOn_bind_ok hhook _
  rw [← hk] at hh
  rw [leaveFrame, leaveStep_eq, Act.runOn_bind_ok hlook]
  refine ensures_teamStep (hbefore _ _) (ensures_teamLeaves hcandid hs hh) (fun pruned w ht => ?_)
    w₁ (h₁.rebase (trans_of keeps h.store hk₁))
  obtain ⟨t', ht', hat⟩ := ht
  exact ⟨(), w, rfl, pruned, t', ht', hat⟩

/-- Plain visitors in lockstep are led along a track, if no document or schema is entered. -/
theorem led_lockstep :
    (lockstepCompany share keeps s₀ found context members.length).Led keeps s₀
      (Nested options keeps s₀) options ((lockstep share.books members).announced before)
      context where
  falls h := h.2
  enters {f} hf s hs t := by
    refine ensures_teamEnterFrame hcandid hbefore hf.namable hs fun w hw => ?_
    obtain ⟨round, h⟩ := at_lockstep.mp hw
    obtain ⟨kind, hk⟩ := hf.namable.kind
    refine ⟨h.store, round, opens_below (fun i v hv => (hcandid i v hv).toPlain) hk ?_ ?_
      (h.rebase (trans_of keeps hs h.store))⟩
    · rintro rfl
      exact hf.not_document hk
    · rintro rfl
      exact hf.not_schema hk
  leaves hf s hs t _ := ensures_teamLeaveFrame hcandid hbefore hf hs

/-- At a root nobody is skipping. -/
theorem ensures_teamRoot {kind : String} {v : Value}
    (hf : Namable options keeps s₀ (.node (.text kind) v))
    (hroot : kind = "document" ∨ kind = "schema") (state : σ) :
    (lockstepCompany share keeps s₀ found context members.length).Enters keeps s₀
      (fun w => keeps s₀ w.store ∧ state = w.state) (.node (.text kind) v)
      ⟨0, fun _ => 0, fun i => share.own i state⟩
      (enterFrame options ((lockstep share.books members).announced before) context
        (.node (.text kind) v)) := by
  refine ensures_teamEnterFrame hcandid hbefore hf (refl_of keeps _) fun w hw => ?_
  obtain ⟨hs, rfl⟩ := hw
  exact ⟨hs, _, opens_root (fun i v hv => (hcandid i v hv).toPlain) rfl hroot hs⟩

end

end

end GraphQLTree
