import GraphQLTree.Proofs.Plain
import Mathlib.Logic.Function.Basic

/-! # Steps of visitors in lockstep

A visitor in lockstep with others gets a call at a step if its mark is zero. What a step does to one
member is told by its mark and its own state before and after (`Enters`, `Leaves`); what it does to
the bookkeeping and to the states of all members is that, for one member after the other
(`runOn_enter`, `runOn_leave`). -/

namespace GraphQLTree

/-! ### Marks -/

namespace Bookkeeping

/-- The bookkeeping of `count` visitors with the given depth and round, and the marks of the round. -/
structure Marked (b : Bookkeeping) (count : Nat) (depth : Int) (round : Nat) (marks : Nat → Int) :
    Prop where
  depth_eq : b.depth = depth
  round_eq : b.round = round
  rounds_eq : b.rounds[round]? = some ((List.range count).map marks)

variable {b : Bookkeeping} {count round i : Nat} {depth : Int} {marks marks' : Nat → Int}

theorem Marked.marks_eq (h : b.Marked count depth round marks) :
    b.marks round = (List.range count).map marks := by
  unfold Bookkeeping.marks
  rw [h.rounds_eq]
  rfl

theorem Marked.mark_eq (h : b.Marked count depth round marks) (hi : i < count) :
    b.mark round i = marks i := by
  unfold mark
  rw [h.marks_eq]
  simp [hi]

theorem Marked.congr (h : b.Marked count depth round marks)
    (hm : ∀ i < count, marks i = marks' i) : b.Marked count depth round marks' := by
  refine ⟨h.depth_eq, h.round_eq, ?_⟩
  rw [h.rounds_eq]
  refine congrArg some (List.map_congr_left fun i hi => ?_)
  exact hm i (List.mem_range.mp hi)

theorem Marked.withDepth (h : b.Marked count depth round marks) (depth' : Int) :
    Marked { b with depth := depth' } count depth' round marks :=
  ⟨rfl, h.round_eq, h.rounds_eq⟩

theorem Marked.setMark (h : b.Marked count depth round marks) (i : Nat) (mark : Int) :
    (b.setMark round i mark).Marked count depth round (Function.update marks i mark) := by
  refine ⟨h.depth_eq, ?_, ?_⟩
  · unfold Bookkeeping.setMark Bookkeeping.round
    rw [List.length_modify]
    exact h.round_eq
  · unfold Bookkeeping.setMark
    rw [List.getElem?_modify_eq, h.rounds_eq]
    refine congrArg some (List.ext_getElem? fun j => ?_)
    rw [List.getElem?_set, List.getElem?_map, List.getElem?_map, List.length_map,
      List.length_range]
    by_cases hij : i = j
    · subst hij
      by_cases hi : i < count
      · simp [hi]
      · simp [hi]
    · rw [if_neg hij]
      by_cases hj : j < count
      · simp [hj, Function.update_of_ne (Ne.symm hij)]
      · simp [hj]

theorem marked_restart (b : Bookkeeping) (count : Nat) :
    (b.restart count).Marked count 0 b.rounds.length fun _ => 0 := by
  refine ⟨rfl, ?_, ?_⟩
  · simp [restart, round]
  · simp [restart, List.map_const']

end Bookkeeping

/-- The values of the first `k` numbers from one function and those of the others from another. -/
def mix {τ : Nat → Type} (k : Nat) (a' a : (i : Nat) → τ i) (i : Nat) : τ i :=
  if i < k then a' i else a i

section

variable {τ : Nat → Type} {k i : Nat} {a' a : (i : Nat) → τ i}

theorem mix_self : mix k a' a k = a k := if_neg (Nat.lt_irrefl k)

theorem mix_of_lt (h : i < k) : mix k a' a i = a' i := if_pos h

theorem mix_succ_self : mix (k + 1) a' a k = a' k := if_pos (Nat.lt_succ_self k)

theorem mix_succ_of_ne (h : i ≠ k) : mix (k + 1) a' a i = mix k a' a i := by
  unfold mix
  rcases Nat.lt_or_gt_of_ne h with h | h
  · rw [if_pos h, if_pos (by omega)]
  · rw [if_neg (by omega), if_neg (by omega)]

theorem mix_succ_of_eq (h : a' k = a k) : mix (k + 1) a' a = mix k a' a := by
  funext i
  by_cases hi : i = k
  · subst hi
    rw [mix_succ_self, mix_self, h]
  · exact mix_succ_of_ne hi

end

theorem update_mix (k : Nat) (marks' marks : Nat → Int) :
    Function.update (mix k marks' marks) k (marks' k) = mix (k + 1) marks' marks := by
  funext i
  by_cases hi : i = k
  · subst hi
    rw [Function.update_self, mix_succ_self]
  · rw [Function.update_of_ne hi, mix_succ_of_ne hi]

/-! ### Loops -/

/-- A loop over a list with places succeeds and ends with its invariant, if every pass does. -/
theorem Act.forM_zipIdx {σ β : Type} (body : β × Nat → Act σ Unit) (inv : Nat → World σ → Prop)
    (l : List β) (first : Nat) {w : World σ} (hw : inv first w)
    (h : ∀ k x w, l[k]? = some x → inv (first + k) w →
      ∃ w', (body (x, first + k)).runOn w = (.ok (), w') ∧ inv (first + k + 1) w') :
    ∃ w', ((l.zipIdx first).forM body).runOn w = (.ok (), w') ∧ inv (first + l.length) w' := by
  induction l generalizing first w with
  | nil => exact ⟨w, rfl, hw⟩
  | cons x l ih =>
    obtain ⟨w₁, hr, hw₁⟩ := h 0 x w rfl hw
    obtain ⟨w', hr', hw'⟩ := ih (first + 1) hw₁ fun k y w hy hk => by
      have := h (k + 1) y w hy
      rw [show first + (k + 1) = first + 1 + k by omega] at this
      exact this hk
    refine ⟨w', (runOn_bind_ok hr _).trans hr', ?_⟩
    rwa [show first + (x :: l).length = first + 1 + l.length by rw [List.length_cons]; omega]

/-! ### Worlds on the way -/

section

variable {σ : Type} {τ : Nat → Type} (share : Sharing σ τ) (keeps : Store → Store → Prop)
  (s₀ : Store) (members : List (Visitor σ))

/-- A world in which the tree of `s₀` is kept, with the bookkeeping of the members and their own
states. -/
structure Amid (depth : Int) (round : Nat) (marks : Nat → Int) (a : (i : Nat) → τ i)
    (w : World σ) : Prop where
  store : keeps s₀ w.store
  books : (share.books.get w.state).Marked members.length depth round marks
  own : ∀ i < members.length, share.own i w.state = a i

variable (found : (i : Nat) → τ i → Value → Direction → Option (Hook σ)) (context : Value)

/-- What entering a frame at a depth does to the mark and the state of a member. -/
def Enters (f : Frame) (depth : Int) (i : Nat) (mark mark' : Int) (a a' : τ i) : Prop :=
  if mark = 0 then
    ∃ pruned, Does share keeps s₀ i (found i) context f .enter a pruned a' ∧
      mark' = if pruned then depth else 0
  else mark' = mark ∧ a' = a

/-- What leaving a frame at a depth does to the mark and the state of a member. -/
def Leaves (f : Frame) (depth : Int) (i : Nat) (mark mark' : Int) (a a' : τ i) : Prop :=
  if mark = 0 ∨ mark = depth then
    (∃ pruned, Does share keeps s₀ i (found i) context f .leave a pruned a') ∧ mark' = 0
  else mark' = mark ∧ a' = a

/-- A member goes through a forest solo, unless it is skipping it. -/
def Follow (g : Forest) (i : Nat) (mark : Int) (a a' : τ i) : Prop :=
  if mark = 0 then Solo share keeps s₀ i (found i) context g a a' else a' = a

/-- The methods of all members for a step. -/
def Hooked (a : (i : Nat) → τ i) (kind : Value) (direction : Direction)
    (hooks : List (Option (Hook σ))) : Prop :=
  hooks.length = members.length ∧
    ∀ i < members.length, hooks[i]? = some (found i (a i) kind direction)

variable {share keeps s₀ members found context} {depth depth' : Int} {round : Nat}
  {marks marks' : Nat → Int} {a a' : (i : Nat) → τ i} {w w' : World σ}

theorem Follow.done {i : Nat} {mark : Int} {x x' : τ i}
    (h : Follow share keeps s₀ found context .done i mark x x') : x' = x := by
  unfold Follow at h
  split at h
  · cases h with
    | done => rfl
  · exact h

/-- A frame, for one member: its mark is set back when the frame is left that it was set for. -/
theorem Follow.frame {f : Frame} {inner rest : Forest} {i : Nat} {mark : Int} {x x' : τ i}
    (h : Follow share keeps s₀ found context (.frame f inner rest) i mark x x') (hm : 0 ≤ mark)
    (hd : mark ≤ depth) :
    ∃ mark' x₁ x₂ x₃, Enters share keeps s₀ found context f (depth + 1) i mark mark' x x₁ ∧
      (0 ≤ mark' ∧ mark' ≤ depth + 1) ∧
      Follow share keeps s₀ found context inner i mark' x₁ x₂ ∧
      Leaves share keeps s₀ found context f (depth + 1) i mark' mark x₂ x₃ ∧
      Follow share keeps s₀ found context rest i mark x₃ x' := by
  unfold Follow at h
  by_cases hz : mark = 0
  · subst hz
    rw [if_pos rfl] at h
    cases h with
    | @frame _ _ _ _ x₁ x₂ x₃ _ pruned pruned' hde hi hdl hr =>
      cases pruned with
      | true =>
        cases hi with
        | done =>
          refine ⟨depth + 1, x₁, x₁, x₃, ?_, by omega, ?_, ?_, ?_⟩
          · exact (if_pos rfl).mpr ⟨true, hde, rfl⟩
          · exact (if_neg (by omega)).mpr rfl
          · exact (if_pos (.inr rfl)).mpr ⟨⟨pruned', hdl⟩, rfl⟩
          · exact (if_pos rfl).mpr hr
      | false =>
        refine ⟨0, x₁, x₂, x₃, ?_, by omega, ?_, ?_, ?_⟩
        · exact (if_pos rfl).mpr ⟨false, hde, rfl⟩
        · exact (if_pos rfl).mpr hi
        · exact (if_pos (.inl rfl)).mpr ⟨⟨pruned', hdl⟩, rfl⟩
        · exact (if_pos rfl).mpr hr
  · rw [if_neg hz] at h
    refine ⟨mark, x, x, x, ?_, by omega, ?_, ?_, ?_⟩
    · exact (if_neg hz).mpr ⟨rfl, rfl⟩
    · exact (if_neg hz).mpr rfl
    · exact (if_neg (by omega)).mpr ⟨rfl, rfl⟩
    · exact (if_neg hz).mpr h

theorem Amid.congr (h : Amid share keeps s₀ members depth round marks a w)
    (hm : ∀ i < members.length, marks i = marks' i) (ha : ∀ i < members.length, a i = a' i) :
    Amid share keeps s₀ members depth round marks' a' w :=
  ⟨h.store, h.books.congr hm, fun i hi => (h.own i hi).trans (ha i hi)⟩

/-- A change of the bookkeeping is no change of the states of the members. -/
theorem Amid.change (h : Amid share keeps s₀ members depth round marks a w)
    {f : Bookkeeping → Bookkeeping}
    (hf : ∀ b : Bookkeeping, b.Marked members.length depth round marks →
      (f b).Marked members.length depth' round marks') :
    Amid share keeps s₀ members depth' round marks' a
      { w with state := share.books.set (f (share.books.get w.state)) w.state } := by
  refine ⟨h.store, ?_, fun i hi => ?_⟩
  · dsimp only
    rw [share.get_set]
    exact hf _ h.books
  · dsimp only
    rw [share.own_set]
    exact h.own i hi

/-- What a method of a member changes. -/
theorem Amid.called {k : Nat} (h : Amid share keeps s₀ members depth round marks (mix k a' a) w)
    (hs : keeps s₀ w'.store) (hb : share.books.get w'.state = share.books.get w.state)
    (hk : share.own k w'.state = a' k)
    (ho : ∀ j ≠ k, share.own j w'.state = share.own j w.state) :
    Amid share keeps s₀ members depth round marks (mix (k + 1) a' a) w' := by
  refine ⟨hs, ?_, fun i hi => ?_⟩
  · rw [hb]
    exact h.books
  · by_cases hik : i = k
    · subst hik
      rw [hk, mix_succ_self]
    · rw [ho i hik, h.own i hi, mix_succ_of_ne hik]

theorem runOn_read {β : Type} (part : Part σ β) (w : World σ) :
    part.read.runOn w = (.ok (part.get w.state), w) := rfl

theorem runOn_change {β : Type} (part : Part σ β) (f : β → β) (w : World σ) :
    (part.change f).runOn w = (.ok (), { w with state := part.set (f (part.get w.state)) w.state }) :=
  rfl

variable [IsPreorder Store keeps] {f : Frame} {visitor : Visitor σ} {k : Nat}

theorem Amid.quiet (h : Amid share keeps s₀ members depth round marks a w) (hq : Quiet keeps w w') :
    Amid share keeps s₀ members depth round marks a w' := by
  obtain ⟨s, hs, rfl⟩ := hq
  exact ⟨trans_of keeps h.store hs, h.books, h.own⟩

/-- One member at a step that is entered. -/
theorem runOn_enterMember (hv : visitor.Plain share keeps s₀ k (found k))
    (hk : k < members.length)
    (h : Amid share keeps s₀ members depth round (mix k marks' marks) (mix k a' a) w)
    (he : Enters share keeps s₀ found context f depth k (marks k) (marks' k) (a k) (a' k)) :
    ∃ w', (Lockstep.enterMember share.books round depth (hookArgs context f.node?) k
        (found k (a k) f.kind .enter)).runOn w = (.ok (), w') ∧
      Amid share keeps s₀ members depth round (mix (k + 1) marks' marks) (mix (k + 1) a' a) w' ∧
      keeps w.store w'.store := by
  have hown : share.own k w.state = a k := (h.own k hk).trans mix_self
  have hmark : (share.books.get w.state).mark round k = marks k :=
    (h.books.mark_eq hk).trans mix_self
  unfold Enters at he
  unfold Lockstep.enterMember
  rcases hh : found k (a k) f.kind .enter with - | hook
  · -- without a method, neither the mark nor the state changes
    refine ⟨w, rfl, ?_, refl_of keeps _⟩
    have hsame : marks' k = marks k ∧ a' k = a k := by
      by_cases hm : marks k = 0
      · rw [if_pos hm] at he
        obtain ⟨pruned, hd, hm'⟩ := he
        unfold Does at hd
        rw [hh] at hd
        obtain ⟨rfl, ha⟩ := hd
        exact ⟨hm'.trans hm.symm, ha⟩
      · rwa [if_neg hm] at he
    rwa [mix_succ_of_eq hsame.1, mix_succ_of_eq hsame.2]
  · dsimp only
    rw [Act.runOn_bind_ok (runOn_read ..), hmark]
    by_cases hm : marks k = 0
    · rw [if_pos hm] at he ⊢
      obtain ⟨pruned, hd, hm'⟩ := he
      rw [← hown] at hh hd
      obtain ⟨w₁, hr, hk₁, hb, ho, hothers⟩ := hv.run h.store hh hd
      have h₁ := h.called (trans_of keeps h.store hk₁) hb ho hothers
      rw [Act.runOn_bind_ok hr]
      cases pruned with
      | true =>
        have h₂ := h₁.change fun b hb => hb.setMark k depth
        rw [if_pos rfl] at hm'
        rw [← hm', update_mix, hm'] at h₂
        exact ⟨_, rfl, h₂, hk₁⟩
      | false =>
        rw [← mix_succ_of_eq (hm'.trans hm.symm)] at h₁
        exact ⟨w₁, rfl, h₁, hk₁⟩
    · rw [if_neg hm] at he ⊢
      refine ⟨w, rfl, ?_, refl_of keeps _⟩
      rwa [mix_succ_of_eq he.1, mix_succ_of_eq he.2]

/-- The method of one member for a step that is left, after its mark was set back. -/
theorem runOn_leaveHook (hv : visitor.Plain share keeps s₀ k (found k)) (hk : k < members.length)
    (h : Amid share keeps s₀ members depth' round (mix (k + 1) marks' marks) (mix k a' a) w)
    (hl : Leaves share keeps s₀ found context f depth k (marks k) (marks' k) (a k) (a' k)) :
    ∃ w', (match found k (a k) f.kind .leave with
        | none => pure ()
        | some hook => do
          if (← share.books.read).mark round k = 0 then
            discard (Act.judge (hook (hookArgs context f.node?)) Lockstep.rethrow) :
        Act σ Unit).runOn w = (.ok (), w') ∧
      Amid share keeps s₀ members depth' round (mix (k + 1) marks' marks) (mix (k + 1) a' a) w' ∧
      keeps w.store w'.store := by
  have hown : share.own k w.state = a k := (h.own k hk).trans mix_self
  have hmark : (share.books.get w.state).mark round k = marks' k :=
    (h.books.mark_eq hk).trans mix_succ_self
  unfold Leaves at hl
  rcases hh : found k (a k) f.kind .leave with - | hook
  · refine ⟨w, rfl, ?_, refl_of keeps _⟩
    have hsame : a' k = a k := by
      by_cases hm : marks k = 0 ∨ marks k = depth
      · rw [if_pos hm] at hl
        obtain ⟨⟨pruned, hd⟩, -⟩ := hl
        unfold Does at hd
        rw [hh] at hd
        exact hd.2
      · rw [if_neg hm] at hl
        exact hl.2
    rwa [mix_succ_of_eq hsame]
  · dsimp only
    rw [Act.runOn_bind_ok (runOn_read ..), hmark]
    by_cases hm : marks k = 0 ∨ marks k = depth
    · rw [if_pos hm] at hl
      obtain ⟨⟨pruned, hd⟩, hm'⟩ := hl
      rw [if_pos hm']
      rw [← hown] at hh hd
      obtain ⟨w₁, hr, hk₁, hb, ho, hothers⟩ := hv.run h.store hh hd
      exact ⟨w₁, Act.runOn_bind_ok hr _, h.called (trans_of keeps h.store hk₁) hb ho hothers, hk₁⟩
    · rw [if_neg hm] at hl
      have hz : marks' k ≠ 0 := by
        rw [hl.1]
        exact fun hz => hm (.inl hz)
      rw [if_neg hz]
      refine ⟨w, rfl, ?_, refl_of keeps _⟩
      rwa [mix_succ_of_eq hl.2]

/-- One member at a step that is left. -/
theorem runOn_leaveMember (hv : visitor.Plain share keeps s₀ k (found k))
    (hk : k < members.length)
    (h : Amid share keeps s₀ members depth' round (mix k marks' marks) (mix k a' a) w)
    (hl : Leaves share keeps s₀ found context f depth k (marks k) (marks' k) (a k) (a' k)) :
    ∃ w', (Lockstep.leaveMember share.books round depth (hookArgs context f.node?) k
        (found k (a k) f.kind .leave)).runOn w = (.ok (), w') ∧
      Amid share keeps s₀ members depth' round (mix (k + 1) marks' marks) (mix (k + 1) a' a) w' ∧
      keeps w.store w'.store := by
  have hmark : (share.books.get w.state).mark round k = marks k :=
    (h.books.mark_eq hk).trans mix_self
  unfold Lockstep.leaveMember
  rw [Act.runOn_bind_ok (runOn_read ..), hmark]
  dsimp only
  by_cases hm : marks k = depth
  · -- a mark of this depth is set back first
    have hz : marks' k = 0 := by
      unfold Leaves at hl
      rw [if_pos (.inr hm)] at hl
      exact hl.2
    have h₁ := h.change fun b hb => hb.setMark k 0
    rw [← hz, update_mix, hz] at h₁
    obtain ⟨w', hr, h', hs⟩ := runOn_leaveHook hv hk h₁ hl
    rw [if_pos hm, Act.runOn_bind_ok (runOn_change ..)]
    exact ⟨w', hr, h', hs⟩
  · have hsame : marks' k = marks k := by
      unfold Leaves at hl
      by_cases hz : marks k = 0
      · rw [if_pos (.inl hz)] at hl
        exact hl.2.trans hz.symm
      · rw [if_neg (not_or.mpr ⟨hz, hm⟩)] at hl
        exact hl.1
    rw [← mix_succ_of_eq hsame] at h
    rw [if_neg hm]
    exact runOn_leaveHook hv hk h hl

/-! ### Steps of all members -/

/-- The methods of all members are looked up before any of them is called. -/
theorem runOn_lookups (kind : String) (direction : Direction) (l : List (Visitor σ)) (first : Nat)
    (hv : ∀ (i : Nat) (v : Visitor σ), l[i]? = some v →
      v.Plain share keeps s₀ (first + i) (found (first + i))) (hw : keeps s₀ w.store) :
    ∃ (hooks : List (Option (Hook σ))) (w' : World σ),
      (l.mapM fun v : Visitor σ => v.hook? ⟨.text kind, direction, true⟩).runOn w =
        (.ok hooks, w') ∧
      Quiet keeps w w' ∧ hooks.length = l.length ∧
      ∀ i < l.length, hooks[i]? =
        some (found (first + i) (share.own (first + i) w.state) (.text kind) direction) := by
  induction l generalizing first w with
  | nil => exact ⟨[], w, rfl, ⟨_, refl_of keeps _, rfl⟩, rfl, nofun⟩
  | cons v l ih =>
    obtain ⟨w₁, hr, hq⟩ := (hv 0 v rfl).lookup kind direction true hw
    obtain ⟨hooks, w₂, hr', hq', hlen, hhooks⟩ := ih (first + 1) (fun i v hi => by
      have := hv (i + 1) v hi
      rwa [show first + (i + 1) = first + 1 + i by omega] at this) (trans_of keeps hw hq.store)
    rw [List.mapM_cons, Act.runOn_bind_ok hr, Act.runOn_bind_ok hr']
    refine ⟨_, w₂, rfl, hq.trans hq', congrArg Nat.succ hlen, fun i hi => ?_⟩
    cases i with
    | zero => rfl
    | succ i =>
      have := hhooks i (Nat.lt_of_succ_lt_succ hi)
      rwa [hq.state, show first + 1 + i = first + (i + 1) by omega] at this

variable {hooks : List (Option (Hook σ))}

/-- A loop over the methods of all members, which changes what belongs to one after the other. -/
theorem runOn_members {body : Nat → Option (Hook σ) → Act σ Unit} {kind : Value}
    {direction : Direction} (hh : Hooked members found a kind direction hooks)
    (h : Amid share keeps s₀ members depth round marks a w)
    (hbody : ∀ k < members.length, ∀ w₁,
      Amid share keeps s₀ members depth round (mix k marks' marks) (mix k a' a) w₁ →
      ∃ w₂, (body k (found k (a k) kind direction)).runOn w₁ = (.ok (), w₂) ∧
        Amid share keeps s₀ members depth round (mix (k + 1) marks' marks) (mix (k + 1) a' a) w₂ ∧
        keeps w₁.store w₂.store) :
    ∃ w', (hooks.zipIdx.forM fun (hook?, i) => body i hook?).runOn w = (.ok (), w') ∧
      Amid share keeps s₀ members depth round marks' a' w' ∧ keeps w.store w'.store := by
  obtain ⟨hlen, hhooks⟩ := hh
  obtain ⟨w', hr, h', hk⟩ := Act.forM_zipIdx (fun (hook?, i) => body i hook?)
    (fun k w' => Amid share keeps s₀ members depth round (mix k marks' marks) (mix k a' a) w' ∧
      keeps w.store w'.store) hooks 0 ⟨h, refl_of keeps _⟩ (by
    intro k hook? w₁ hx hw₁
    rw [Nat.zero_add] at hw₁ ⊢
    have hk : k < members.length := by
      rw [← hlen]
      exact (List.getElem?_eq_some_iff.mp hx).1
    obtain rfl : found k (a k) kind direction = hook? :=
      Option.some.inj ((hhooks k hk).symm.trans hx)
    obtain ⟨w₂, hr, h₂, hk₂⟩ := hbody k hk w₁ hw₁.1
    exact ⟨w₂, hr, h₂, trans_of keeps hw₁.2 hk₂⟩)
  rw [Nat.zero_add, hlen] at h'
  exact ⟨w', hr, h'.congr (fun i hi => mix_of_lt hi) (fun i hi => mix_of_lt hi), hk⟩

variable (hplain : ∀ (i : Nat) (v : Visitor σ), members[i]? = some v →
    v.Plain share keeps s₀ i (found i))
include hplain

theorem runOn_enter (hh : Hooked members found a f.kind .enter hooks)
    (h : Amid share keeps s₀ members depth round marks a w)
    (he : ∀ i < members.length,
      Enters share keeps s₀ found context f (depth + 1) i (marks i) (marks' i) (a i) (a' i)) :
    ∃ w', (Lockstep.enter share.books hooks (hookArgs context f.node?)).runOn w =
        (.ok (if (List.range members.length).all (marks' · != 0) then .skip else .null), w') ∧
      Amid share keeps s₀ members (depth + 1) round marks' a' w' ∧ keeps w.store w'.store := by
  have h₁ : Amid share keeps s₀ members (depth + 1) round marks a { w with
      state := share.books.set { share.books.get w.state with
        depth := (share.books.get w.state).depth + 1 } w.state } :=
    h.change (f := fun b => { b with depth := b.depth + 1 }) fun b hb =>
      hb.depth_eq ▸ hb.withDepth (b.depth + 1)
  unfold Lockstep.enter
  rw [Act.runOn_bind_ok (runOn_change ..), Act.runOn_bind_ok (runOn_read ..), h₁.books.round_eq,
    h₁.books.depth_eq]
  obtain ⟨w', hr, h', hk⟩ := runOn_members hh h₁ fun k hk w₁ hw₁ =>
    runOn_enterMember (hplain k _ (List.getElem?_eq_getElem hk)) hk hw₁ (he k hk)
  rw [Act.runOn_bind_ok hr, Act.runOn_bind_ok (runOn_read ..), h'.books.marks_eq, List.all_map]
  exact ⟨w', rfl, h', hk⟩

theorem runOn_leave (hh : Hooked members found a f.kind .leave hooks)
    (h : Amid share keeps s₀ members (depth + 1) round marks a w)
    (hl : ∀ i < members.length,
      Leaves share keeps s₀ found context f (depth + 1) i (marks i) (marks' i) (a i) (a' i)) :
    ∃ w', (Lockstep.leave share.books hooks (hookArgs context f.node?)).runOn w =
        (.ok .null, w') ∧
      Amid share keeps s₀ members depth round marks' a' w' ∧ keeps w.store w'.store := by
  have h₁ : Amid share keeps s₀ members depth round marks a { w with
      state := share.books.set { share.books.get w.state with
        depth := (share.books.get w.state).depth - 1 } w.state } :=
    h.change (f := fun b => { b with depth := b.depth - 1 }) fun b hb => by
      have := hb.withDepth depth
      rwa [show depth = b.depth - 1 by rw [hb.depth_eq]; omega] at this ⊢
  unfold Lockstep.leave
  rw [Act.runOn_bind_ok (runOn_read ..), h.books.round_eq, h.books.depth_eq,
    Act.runOn_bind_ok (runOn_change ..)]
  obtain ⟨w', hr, h', hk⟩ := runOn_members hh h₁ fun k hk w₁ hw₁ =>
    runOn_leaveMember (hplain k _ (List.getElem?_eq_getElem hk)) hk hw₁ (hl k hk)
  rw [Act.runOn_bind_ok hr]
  exact ⟨w', rfl, h', hk⟩

/-- Looking up methods does not change the states. -/
theorem runOn_memberHooks (kind : String) (direction : Direction)
    (h : Amid share keeps s₀ members depth round marks a w) :
    ∃ (hooks : List (Option (Hook σ))) (w' : World σ),
      (members.mapM fun v : Visitor σ => v.hook? ⟨.text kind, direction, true⟩).runOn w =
        (.ok hooks, w') ∧ Hooked members found a (.text kind) direction hooks ∧
      Amid share keeps s₀ members depth round marks a w' ∧ keeps w.store w'.store := by
  obtain ⟨hooks, w', hr, hq, hlen, hhooks⟩ := runOn_lookups kind direction members 0
    (fun i v hv => by rw [Nat.zero_add]; exact hplain i v hv) h.store
  refine ⟨hooks, w', hr, ⟨hlen, fun i hi => ?_⟩, ?_, hq.store⟩
  · have := hhooks i hi
    rwa [Nat.zero_add, h.own i hi] at this
  · exact h.quiet hq

end
end GraphQLTree
