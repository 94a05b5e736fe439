import GraphQLTree.Proofs.Watching

/-! # The bookkeeping of visitors in lockstep

The record of what visitors in lockstep do is lawful if it can be replayed by rules that know nothing
of the bookkeeping (`Standing.Next`). The rules keep the open steps and, for each visitor that is
skipping, the depth of the open step at which it pruned. By no rule is a visitor called between the two
ends of the step at which it pruned, and one that is released there is called next if it has a method
for leaving the step.

In a walk that enters no document or schema inside of another node, the record is lawful and the
bookkeeping is what the rules say at every moment, also if the walk fails (`walk_bookkeeping`). A
document inside of another one starts the bookkeeping anew in the middle of the walk, so that its
depth does not come out (`walk_bookkeeping_nested`). -/

namespace GraphQLTree

/-! ### Rules -/

/-- What visitors in lockstep are about. -/
inductive Phase
  | between
  /-- A step is being entered; the visitor that was called last can ask to skip what is inside. -/
  | entering (last : Option Nat)
  /-- A step is being left; a visitor that was released may have to be called next. -/
  | leaving (o : Occasion) (due : Option Nat)

/-- Steps can be entered or left. -/
def Phase.Idle : Phase → Prop
  | between | entering _ => True
  | leaving _ _ => False

/-- No visitor that was released is still to be called. -/
def Phase.NoneDue : Phase → Prop
  | leaving _ (some _) => False
  | _ => True

theorem Phase.Idle.noneDue {phase : Phase} (h : phase.Idle) : phase.NoneDue := by
  cases phase with
  | between | entering => exact trivial
  | leaving => exact h.elim

/-- How far visitors in lockstep have got. -/
structure Standing where
  /-- The steps that were entered and not yet left, the innermost first. -/
  steps : List Occasion
  /-- For each visitor the depth of the open step at which it pruned, or zero if it is not skipping. -/
  pruned : Nat → Nat
  phase : Phase

namespace Standing

/-- Nothing has happened. -/
def start : Standing := ⟨[], fun _ => 0, .between⟩

/-- The rules for what visitors in lockstep do. -/
inductive Next : Standing → Deed → Standing → Prop
  | entered {steps : List Occasion} {pruned : Nat → Nat} {phase : Phase} (o : Occasion) :
      phase.Idle → Next ⟨steps, pruned, phase⟩ (.entered o) ⟨o :: steps, pruned, .entering none⟩
  | calledEnter {steps : List Occasion} {pruned : Nat → Nat} {o : Occasion} {last : Option Nat}
      {i : Nat} : pruned i = 0 →
      Next ⟨o :: steps, pruned, .entering last⟩ (.called i .enter o)
        ⟨o :: steps, pruned, .entering (some i)⟩
  | pruned {steps : List Occasion} {pruned : Nat → Nat} {i : Nat} :
      Next ⟨steps, pruned, .entering (some i)⟩ (.pruned i)
        ⟨steps, Function.update pruned i steps.length, .entering none⟩
  | leaving {steps : List Occasion} {pruned : Nat → Nat} {phase : Phase} {o : Occasion} :
      phase.Idle → Next ⟨o :: steps, pruned, phase⟩ (.leaving o) ⟨steps, pruned, .leaving o none⟩
  | released {steps : List Occasion} {pruned : Nat → Nat} {o : Occasion} {i : Nat} {hooked : Bool} :
      pruned i = steps.length + 1 →
      Next ⟨steps, pruned, .leaving o none⟩ (.released i hooked)
        ⟨steps, Function.update pruned i 0, .leaving o (if hooked then some i else none)⟩
  | calledLeave {steps : List Occasion} {pruned : Nat → Nat} {o : Occasion} {due : Option Nat}
      {i : Nat} : pruned i = 0 → due = none ∨ due = some i →
      Next ⟨steps, pruned, .leaving o due⟩ (.called i .leave o) ⟨steps, pruned, .leaving o none⟩
  | left {steps : List Occasion} {pruned : Nat → Nat} {o : Occasion} :
      (∀ i, pruned i ≤ steps.length) →
      Next ⟨steps, pruned, .leaving o none⟩ .left ⟨steps, pruned, .between⟩

end Standing

/-- The bookkeeping of `count` visitors says how far they have got: its depth is the number of open
steps, and its marks are the depths of the steps at which visitors pruned. -/
def Bookkeeping.Accurate (count : Nat) (b : Bookkeeping) (p : Standing) : Prop :=
  b.depth = p.steps.length ∧ b.skipping = (List.range count).map fun i => (p.pruned i : Int)

/-- By the rules, a record leads from the start to some progress, and at each moment the bookkeeping
is accurate. -/
inductive Replays (count : Nat) : List Moment → Standing → Prop
  | start : Replays count [] .start
  | step {record : List Moment} {p p' : Standing} {m : Moment} : Replays count record p →
      p.Next m.deed p' → m.books.Accurate count p' → Replays count (record ++ [m]) p'

/-- A document or a schema is entered. -/
def Moment.restarts (m : Moment) : Bool :=
  match m.deed with
  | .entered o => o.kind = .text "document" || o.kind = .text "schema"
  | _ => false

/-- A document or a schema is entered inside of something. -/
def RestartsInside (record : List Moment) : Prop :=
  ∃ m ∈ record.tail, m.restarts = true

theorem RestartsInside.append {record : List Moment} (h : RestartsInside record) (more : List Moment) :
    RestartsInside (record ++ more) := by
  obtain ⟨m, hm, hr⟩ := h
  cases record with
  | nil => nomatch hm
  | cons m' record => exact ⟨m, List.mem_append_left more hm, hr⟩

theorem restartsInside_append {record : List Moment} {m : Moment} (h : record ≠ [])
    (hm : m.restarts = true) : RestartsInside (record ++ [m]) := by
  cases record with
  | nil => exact absurd rfl h
  | cons m' record => exact ⟨m, List.mem_append_right record (List.mem_singleton.mpr rfl), hm⟩

theorem Bookkeeping.Marked.accurate {b : Bookkeeping} {count round : Nat} {p : Standing}
    (h : b.Marked count p.steps.length round fun i => p.pruned i) : b.Accurate count p := by
  refine ⟨h.depth_eq, ?_⟩
  unfold Bookkeeping.skipping
  rw [h.round_eq, h.marks_eq]

/-! ### Visitors that leave the bookkeeping alone -/

section

variable {σ α β : Type}

/-- A step that does not change a part of the state. -/
def Act.Spares (part : Part σ β) (act : Act σ α) : Prop :=
  ∀ w, part.get (act.runOn w).2.state = part.get w.state

/-- What has failed is no error that has a prune signal. -/
def Unsignalled (halt : Halt) (s : Store) : Prop :=
  ∀ e, halt = .raised e → Effect.isErrorOf .general s e = true →
    ∀ prune s', (Action.pruneSignal (.ref e)).perform.runOn s ≠ (.ok (some prune), s')

/-- A method that does not change a part of the state. An error of it that has no prune signal has none
either when it is asked for one again. -/
def HookSpares (part : Part σ β) (hook : Hook σ) : Prop :=
  ∀ args, (hook args).Spares part ∧ ∀ w halt w',
    (Act.judge (hook args) Lockstep.rethrow).runOn w = (.error halt, w') →
      Unsignalled halt w'.store

/-- A visitor whose methods do not change a part of the state. -/
structure Visitor.Spares (part : Part σ β) (visitor : Visitor σ) : Prop where
  lookup : ∀ lookup, (visitor.hook? lookup).Spares part
  method : ∀ {lookup w hook w'}, (visitor.hook? lookup).runOn w = (.ok (some hook), w') →
    HookSpares part hook

variable {part : Part σ β}

theorem Act.spares_action (act : Action α) : Spares part (liftM act : Act σ α) :=
  fun _ => rfl

theorem Act.Spares.bind {γ : Type} {x : Act σ α} {f : α → Act σ γ} (hx : x.Spares part)
    (hf : ∀ w a w', x.runOn w = (.ok a, w') → (f a).Spares part) : (x >>= f).Spares part := by
  intro w
  have h := hx w
  rw [runOn_bind]
  rcases hr : x.runOn w with ⟨e | a, w'⟩
  · rw [hr] at h
    exact h
  · rw [hr] at h
    exact (hf w a w' hr w').trans h

theorem Act.Spares.judge {act : Act σ Value} (h : act.Spares part) :
    (Act.judge act Lockstep.rethrow).Spares part := by
  have hanswer : (act >>= fun answer => pure (Action.asksToPrune answer)).Spares part :=
    h.bind fun _ _ _ _ _ => rfl
  intro w
  have hw := hanswer w
  unfold Act.judge Act.handle
  rw [runOn_tryCatch]
  revert hw
  rcases (act >>= fun answer => pure (Action.asksToPrune answer)).runOn w with ⟨e | a, w'⟩
  · intro hw
    cases e with
    | tooDeep => exact hw
    | raised e =>
      refine Eq.trans ?_ hw
      dsimp only
      rw [runOn_bind_ok (runOn_store w')]
      split
      · refine Act.Spares.bind (Act.spares_action _) (fun _ signal _ _ => ?_) w'
        cases signal with
        | none => exact fun _ => rfl
        | some prune => exact fun _ => rfl
      · rfl
  · exact id

end

/-! ### Steps under watch -/

section

variable {σ α : Type} {books : Part σ Bookkeeping} {C D G : List Moment → Bookkeeping → Prop}
  {F : Halt → World (σ × List Moment) → Prop}

/-- What holds of the record and of the bookkeeping. -/
def Watched (books : Part σ Bookkeeping) (C : List Moment → Bookkeeping → Prop)
    (w : World (σ × List Moment)) : Prop :=
  C w.state.2 (books.get w.state.1)

theorem ensures_watch {deed : Deed} (h : ∀ record b, C record b → D (record ++ [⟨deed, b⟩]) b) :
    Act.Ensures (Watched books C) (fun _ => Watched books D) F (watch books deed) :=
  fun w hw => h w.state.2 (books.get w.state.1) hw

theorem ensures_read :
    Act.Ensures (Watched books C) (fun b => Watched books fun record b' => C record b' ∧ b' = b) F
      books.read.unmarked :=
  fun _ hw => ⟨hw, rfl⟩

theorem ensures_change (hget : ∀ b state, books.get (books.set b state) = b)
    {f : Bookkeeping → Bookkeeping} (h : ∀ record b, C record b → D record (f b)) :
    Act.Ensures (Watched books C) (fun _ => Watched books D) F (books.change f).unmarked := by
  intro w hw
  have h' := h w.state.2 (books.get w.state.1) hw
  rw [← hget (f (books.get w.state.1)) w.state.1] at h'
  exact h'

theorem ensures_spares {act : Act σ α} (h : act.Spares books) :
    Act.Ensures (Watched books C) (fun _ => Watched books C) (fun _ => Watched books C)
      act.unmarked := by
  intro w hw
  have hw' : Watched books C ((act.runOn w.forget).2.traced w.state.2) := by
    have hb : books.get (act.runOn w.forget).2.state = books.get w.state.1 := h w.forget
    unfold Watched at hw
    rw [← hb] at hw
    exact hw
  have hr : act.unmarked.runOn w =
      ((act.runOn w.forget).1, (act.runOn w.forget).2.traced w.state.2) := rfl
  rw [hr]
  rcases (act.runOn w.forget).1 with e | a
  · exact hw'
  · exact hw'

theorem ensures_action (act : Action α) :
    Act.Ensures (Watched books C) (fun _ => Watched books C) (fun _ => Watched books C)
      (liftM act : Act (σ × List Moment) α) :=
  ensures_spares (Act.spares_action act)

/-- The method of one visitor, whose error stays what it is. -/
theorem ensures_method {hook : Hook σ} (h : HookSpares books hook) (args : List Value) :
    Act.Ensures (Watched books C) (fun _ => Watched books C)
      (fun halt w => Watched books C w ∧ Unsignalled halt w.store)
      (Act.judge (hook args) Lockstep.rethrow).unmarked := by
  intro w hw
  have hkeeps := ensures_spares (C := C) (h args).1.judge w hw
  have hr : (Act.judge (hook args) Lockstep.rethrow).unmarked.runOn w =
      (((Act.judge (hook args) Lockstep.rethrow).runOn w.forget).1,
        ((Act.judge (hook args) Lockstep.rethrow).runOn w.forget).2.traced w.state.2) := rfl
  rw [hr] at hkeeps ⊢
  rcases hj : (Act.judge (hook args) Lockstep.rethrow).runOn w.forget with ⟨halt | pruned, w'⟩
  · rw [hj] at hkeeps
    exact ⟨hkeeps, (h args).2 w.forget halt w' hj⟩
  · rw [hj] at hkeeps
    exact hkeeps

/-! ### Entering -/

/-- The depths at which `count` visitors pruned go up to `n`. -/
def Bounded (count n : Nat) (pruned : Nat → Nat) : Prop :=
  (∀ i, pruned i ≤ n) ∧ ∀ i, count ≤ i → pruned i = 0

/-- A step is being entered: the rules say so, and the bookkeeping has the same marks. -/
def Entering (count round : Nat) (o : Occasion) (steps : List Occasion) (record : List Moment)
    (b : Bookkeeping) : Prop :=
  ∃ pruned last, Replays count record ⟨o :: steps, pruned, .entering last⟩ ∧
    Bounded count (steps.length + 1) pruned ∧
    b.Marked count (steps.length + 1) round fun i => pruned i

/-- The method of a visitor has been called. -/
def Asked (count round : Nat) (o : Occasion) (steps : List Occasion) (i : Nat)
    (record : List Moment) (b : Bookkeeping) : Prop :=
  ∃ pruned, Replays count record ⟨o :: steps, pruned, .entering (some i)⟩ ∧
    Bounded count (steps.length + 1) pruned ∧
    b.Marked count (steps.length + 1) round fun i => pruned i

/-- The record follows the rules so far. -/
def Lawful (count : Nat) (record : List Moment) (_ : Bookkeeping) : Prop :=
  ∃ p, Replays count record p ∧ p.phase.NoneDue

/-- A failure after which the record follows the rules; the error has no prune signal. -/
def FailedLawfully (books : Part σ Bookkeeping) (count : Nat) (halt : Halt)
    (w : World (σ × List Moment)) : Prop :=
  Watched books (Lawful count) w ∧ Unsignalled halt w.store

/-- The methods of all visitors leave the bookkeeping alone. -/
def HooksSpare (books : Part σ Bookkeeping) (hooks : List (Option (Hook σ))) : Prop :=
  ∀ hook? ∈ hooks, ∀ hook, hook? = some hook → HookSpares books hook

variable {count round i : Nat} {o : Occasion} {steps : List Occasion} {record : List Moment}
  {b : Bookkeeping} {hook? : Option (Hook σ)}

theorem Replays.next {p p' : Standing} {deed : Deed} (h : Replays count record p)
    (hn : p.Next deed p') (hb : b.Marked count p'.steps.length round fun i => p'.pruned i) :
    Replays count (record ++ [⟨deed, b⟩]) p' :=
  h.step hn hb.accurate

theorem Asked.entering (h : Asked count round o steps i record b) :
    Entering count round o steps record b := by
  obtain ⟨pruned, hr, hle, hb⟩ := h
  exact ⟨pruned, _, hr, hle, hb⟩

/-- A visitor whose mark is zero can be called. -/
theorem Entering.asked (h : Entering count round o steps record b) (hi : i < count)
    (hm : b.mark round i = 0) :
    Asked count round o steps i (record ++ [⟨.called i .enter o, b⟩]) b := by
  obtain ⟨pruned, last, hr, hle, hb⟩ := h
  have hz : pruned i = 0 := by
    rw [hb.mark_eq hi] at hm
    exact_mod_cast hm
  exact ⟨pruned, hr.next (.calledEnter hz) hb, hle, hb⟩

/-- What setting the mark of a visitor does to the depths at which visitors pruned. -/
theorem Bookkeeping.Marked.setPruned {depth : Int} {pruned : Nat → Nat}
    (h : b.Marked count depth round fun i => pruned i) (i n : Nat) :
    (b.setMark round i n).Marked count depth round fun j => Function.update pruned i n j := by
  refine (h.setMark i n).congr fun j _ => ?_
  by_cases hj : j = i
  · subst hj
    rw [Function.update_self, Function.update_self]
  · rw [Function.update_of_ne hj, Function.update_of_ne hj]

theorem Bounded.update {pruned : Nat → Nat} {n m : Nat} (h : Bounded count n pruned) (hi : i < count)
    (hm : m ≤ n) : Bounded count n (Function.update pruned i m) := by
  refine ⟨fun j => ?_, fun j hj => ?_⟩
  · by_cases hij : j = i
    · subst hij
      rwa [Function.update_self]
    · rw [Function.update_of_ne hij]
      exact h.1 j
  · rw [Function.update_of_ne (by omega)]
    exact h.2 j hj

/-- The mark of a visitor that asks to skip what is inside is the depth of the step. -/
theorem Asked.pruned (h : Asked count round o steps i record b) (hi : i < count) :
    Entering count round o steps
      (record ++ [⟨.pruned i, b.setMark round i (steps.length + 1 : Nat)⟩])
      (b.setMark round i (steps.length + 1 : Nat)) := by
  obtain ⟨pruned, hr, hle, hb⟩ := h
  have hb' := hb.setPruned i (steps.length + 1)
  exact ⟨_, _, hr.next .pruned hb', hle.update hi (Nat.le_refl _), hb'⟩

variable (hget : ∀ b state, books.get (books.set b state) = b)
include hget

theorem ensures_enterMember (hi : i < count) (hh : ∀ hook, hook? = some hook → HookSpares books hook) :
    Act.Ensures (Watched books (Entering count round o steps))
      (fun _ => Watched books (Entering count round o steps)) (FailedLawfully books count)
      (watchedEnterMember books round (steps.length + 1 : Nat) o i hook?) := by
  unfold watchedEnterMember
  cases hook? with
  | none => exact Act.ensures_pure fun _ hw => hw
  | some hook =>
    refine Act.Ensures.bind ensures_read fun b => ?_
    split
    · rename_i hm
      refine Act.Ensures.bind (ensures_watch (D := Asked count round o steps i) ?_) fun _ => ?_
      · rintro record _ ⟨he, rfl⟩
        exact he.asked hi hm
      refine Act.Ensures.bind ((ensures_method (hh hook rfl) o.args).mono (fun _ hw => hw)
        (fun _ _ hw => hw) fun halt w ⟨⟨pruned, hr, _⟩, hu⟩ => ⟨⟨_, hr, trivial⟩, hu⟩) fun pruned => ?_
      split
      · refine Act.Ensures.bind (ensures_change hget (D := fun record b' => ∃ b,
          Asked count round o steps i record b ∧ b' = b.setMark round i (steps.length + 1 : Nat))
          fun record b hb => ⟨b, hb, rfl⟩) fun _ => ensures_watch ?_
        rintro record _ ⟨b, hb, rfl⟩
        exact hb.pruned hi
      · exact Act.ensures_pure fun _ hw => Asked.entering hw
    · exact Act.ensures_pure fun _ hw => hw.1

theorem ensures_enterMembers {hooks : List (Option (Hook σ))} (hh : HooksSpare books hooks)
    (hlen : hooks.length = count) :
    Act.Ensures (Watched books fun record b => ∃ round, Entering count round o steps record b)
      (fun _ => Watched books fun record b => ∃ round, Entering count round o steps record b)
      (FailedLawfully books count) (watchedEnterMembers books hooks o) := by
  refine Act.Ensures.bind ensures_read fun b => ?_
  rintro w ⟨⟨round, he⟩, hb⟩
  have hround : b.round = round := by
    obtain ⟨pruned, last, -, -, hm⟩ := he
    rw [hb] at hm
    exact hm.round_eq
  have hdepth : b.depth = (steps.length + 1 : Nat) := by
    obtain ⟨pruned, last, -, -, hm⟩ := he
    rw [hb] at hm
    exact hm.depth_eq
  rw [hround, hdepth]
  refine Act.Ensures.bind (Act.ensures_zipIdx (P := fun _ => Watched books
    (Entering count round o steps)) hooks 0 fun k hook? hk => ?_) (fun _ => ?_) w he
  · rw [Nat.zero_add]
    obtain ⟨hk', rfl⟩ := List.getElem?_eq_some_iff.mp hk
    exact ensures_enterMember hget (hlen ▸ hk') (hh _ (List.getElem_mem hk'))
  · refine Act.Ensures.bind ensures_read fun b' => ?_
    exact Act.ensures_pure fun _ hw => ⟨round, hw.1⟩

/-! ### Leaving -/

/-- A step is being left, and the visitors before the number `k` have been released; the rules say so,
and the bookkeeping has the same marks. -/
def Leaving (count round : Nat) (o : Occasion) (steps : List Occasion) (k : Nat)
    (record : List Moment) (b : Bookkeeping) : Prop :=
  ∃ pruned, Replays count record ⟨steps, pruned, .leaving o none⟩ ∧
    Bounded count (steps.length + 1) pruned ∧ (∀ i < k, pruned i ≤ steps.length) ∧
    b.Marked count steps.length round fun i => pruned i

/-- The visitor of the number `k` has been released if it was skipping what the step is about, and may
have to be called next. -/
def Freed (count round : Nat) (o : Occasion) (steps : List Occasion) (k : Nat) (hooked : Bool)
    (record : List Moment) (b : Bookkeeping) : Prop :=
  ∃ pruned due, Replays count record ⟨steps, pruned, .leaving o due⟩ ∧
    Bounded count (steps.length + 1) pruned ∧ (∀ i < k + 1, pruned i ≤ steps.length) ∧
    (b.Marked count steps.length round fun i => pruned i) ∧
    (due = none ∨ due = some k ∧ hooked = true ∧ pruned k = 0)

omit hget

theorem Leaving.unmarked {k : Nat} (h : Leaving count round o steps k record b) (hk : k < count)
    (hm : b.mark round k ≠ (steps.length + 1 : Nat)) (hooked : Bool) :
    Freed count round o steps k hooked record b := by
  obtain ⟨pruned, hr, hle, hfreed, hb⟩ := h
  refine ⟨pruned, none, hr, hle, fun i hi => ?_, hb, .inl rfl⟩
  by_cases hik : i = k
  · subst hik
    rw [hb.mark_eq hk] at hm
    have := hle.1 i
    omega
  · exact hfreed i (by omega)

theorem Leaving.marked {k : Nat} (h : Leaving count round o steps k record b) (hk : k < count)
    (hm : b.mark round k = (steps.length + 1 : Nat)) (hooked : Bool) :
    Freed count round o steps k hooked (record ++ [⟨.released k hooked, b.setMark round k 0⟩])
      (b.setMark round k 0) := by
  obtain ⟨pruned, hr, hle, hfreed, hb⟩ := h
  rw [hb.mark_eq hk] at hm
  have hb' := hb.setPruned k 0
  refine ⟨_, _, hr.next (.released (by exact_mod_cast hm)) hb', hle.update hk (Nat.zero_le _),
    fun i hi => ?_, hb', ?_⟩
  · by_cases hik : i = k
    · subst hik
      rw [Function.update_self]
      exact Nat.zero_le _
    · rw [Function.update_of_ne hik]
      exact hfreed i (by omega)
  · cases hooked with
    | true => exact .inr ⟨rfl, rfl, Function.update_self ..⟩
    | false => exact .inl rfl

/-- A visitor that is not skipping can be called when a step is left. -/
theorem Freed.called {k : Nat} {hooked : Bool} (h : Freed count round o steps k hooked record b)
    (hk : k < count) (hm : b.mark round k = 0) :
    Leaving count round o steps (k + 1) (record ++ [⟨.called k .leave o, b⟩]) b := by
  obtain ⟨pruned, due, hr, hle, hfreed, hb, hdue⟩ := h
  have hz : pruned k = 0 := by
    rw [hb.mark_eq hk] at hm
    exact_mod_cast hm
  exact ⟨pruned, hr.next (.calledLeave hz (hdue.imp_right (·.1))) hb, hle, hfreed, hb⟩

/-- A visitor that is skipping, or has no method, is not called when a step is left. -/
theorem Freed.passed {k : Nat} {hooked : Bool} (h : Freed count round o steps k hooked record b)
    (hk : k < count) (hm : hooked = false ∨ b.mark round k ≠ 0) :
    Leaving count round o steps (k + 1) record b := by
  obtain ⟨pruned, due, hr, hle, hfreed, hb, rfl | ⟨rfl, rfl, hz⟩⟩ := h
  · exact ⟨pruned, hr, hle, hfreed, hb⟩
  · rcases hm with hm | hm
    · nomatch hm
    · rw [hb.mark_eq hk] at hm
      exact absurd (congrArg Nat.cast hz) hm

theorem ensures_leaveHook {k : Nat} (hk : k < count)
    (hh : ∀ hook, hook? = some hook → HookSpares books hook) :
    Act.Ensures (Watched books (Freed count round o steps k hook?.isSome))
      (fun _ => Watched books (Leaving count round o steps (k + 1))) (FailedLawfully books count)
      (watchedLeaveHook books round o k hook?) := by
  unfold watchedLeaveHook
  cases hook? with
  | none => exact Act.ensures_pure fun _ hw => Freed.passed hw hk (.inl rfl)
  | some hook =>
    refine Act.Ensures.bind ensures_read fun b => ?_
    split
    · rename_i hm
      refine Act.Ensures.bind
        (ensures_watch (D := Leaving count round o steps (k + 1)) ?_) fun _ => ?_
      · rintro record _ ⟨hf, rfl⟩
        exact hf.called hk hm
      refine Act.Ensures.bind ((ensures_method (hh hook rfl) o.args).mono (fun _ hw => hw)
        (fun _ _ hw => hw) fun halt w ⟨⟨pruned, hr, _⟩, hu⟩ => ⟨⟨_, hr, trivial⟩, hu⟩) fun _ => ?_
      exact Act.ensures_pure fun _ hw => hw
    · rename_i hm
      refine Act.ensures_pure fun w ⟨hf, hb⟩ => ?_
      rw [← hb] at hm
      exact hf.passed hk (.inr hm)

include hget

theorem ensures_leaveMember {k : Nat} (hk : k < count)
    (hh : ∀ hook, hook? = some hook → HookSpares books hook) :
    Act.Ensures (Watched books (Leaving count round o steps k))
      (fun _ => Watched books (Leaving count round o steps (k + 1))) (FailedLawfully books count)
      (watchedLeaveMember books round (steps.length + 1 : Nat) o k hook?) := by
  unfold watchedLeaveMember
  refine Act.Ensures.bind ensures_read fun b => ?_
  dsimp only
  split
  · rename_i hm
    refine Act.Ensures.bind (ensures_change hget (D := fun record b' => ∃ b,
      (Leaving count round o steps k record b ∧ b.mark round k = (steps.length + 1 : Nat)) ∧
        b' = b.setMark round k 0)
      fun record b' ⟨hl, hb⟩ => ⟨b', ⟨hl, hb ▸ hm⟩, rfl⟩) fun _ => ?_
    refine Act.Ensures.bind (ensures_watch
      (D := Freed count round o steps k hook?.isSome) ?_) fun _ => ensures_leaveHook hk hh
    rintro record _ ⟨b, ⟨hl, hm⟩, rfl⟩
    exact hl.marked hk hm _
  · rename_i hm
    refine (ensures_leaveHook hk hh).mono ?_ (fun _ _ hw => hw) (fun _ _ hw => hw)
    rintro w ⟨hl, rfl⟩
    exact hl.unmarked hk hm _

/-! ### Whole steps -/

omit hget

/-- Between the steps, inside of the given ones: the rules say so, and the bookkeeping has the same
marks. -/
def Settled (count : Nat) (steps : List Occasion) (record : List Moment) (b : Bookkeeping) : Prop :=
  ∃ pruned phase round, phase.Idle ∧ Replays count record ⟨steps, pruned, phase⟩ ∧
    Bounded count steps.length pruned ∧ b.Marked count steps.length round fun i => pruned i

theorem Settled.lawful (h : Settled count steps record b) : Lawful count record b := by
  obtain ⟨pruned, phase, round, hidle, hr, -⟩ := h
  exact ⟨_, hr, hidle.noneDue⟩

theorem Entering.settled (h : Entering count round o steps record b) :
    Settled count (o :: steps) record b := by
  obtain ⟨pruned, last, hr, hle, hb⟩ := h
  exact ⟨pruned, .entering last, round, trivial, hr, hle, hb⟩

theorem Settled.entering (h : Settled count steps record b) :
    ∃ round, Entering count round o steps
      (record ++ [⟨.entered o, { b with depth := b.depth + 1 }⟩])
      { b with depth := b.depth + 1 } := by
  obtain ⟨pruned, phase, round, hidle, hr, hle, hb⟩ := h
  have hb' : Bookkeeping.Marked { b with depth := b.depth + 1 } count (steps.length + 1 : Nat) round
      fun i => pruned i := by
    rw [hb.depth_eq]
    exact hb.withDepth _
  exact ⟨round, pruned, none, hr.next (.entered o hidle) hb',
    ⟨fun i => Nat.le_succ_of_le (hle.1 i), hle.2⟩, hb'⟩

theorem Settled.leaving (h : Settled count (o :: steps) record b) :
    b.depth = (steps.length + 1 : Nat) ∧ Leaving count b.round o steps 0
      (record ++ [⟨.leaving o, { b with depth := b.depth - 1 }⟩])
      { b with depth := b.depth - 1 } := by
  obtain ⟨pruned, phase, round, hidle, hr, hle, hb⟩ := h
  obtain rfl := hb.round_eq
  have hd : b.depth = (steps.length + 1 : Nat) := hb.depth_eq
  have hb' : Bookkeeping.Marked { b with depth := b.depth - 1 } count steps.length b.round
      fun i => pruned i := by
    have := hb.withDepth steps.length
    rwa [show b.depth - 1 = steps.length by omega]
  exact ⟨hd, pruned, hr.next (.leaving hidle) hb', hle, nofun, hb'⟩

theorem Leaving.settled (h : Leaving count round o steps count record b) :
    Settled count steps (record ++ [⟨.left, b⟩]) b := by
  obtain ⟨pruned, hr, hle, hfreed, hb⟩ := h
  have hle' : ∀ i, pruned i ≤ steps.length := by
    intro i
    by_cases hi : i < count
    · exact hfreed i hi
    · rw [hle.2 i (by omega)]
      exact Nat.zero_le _
  exact ⟨pruned, .between, round, trivial, hr.next (.left hle') hb, ⟨hle', hle.2⟩, hb⟩

variable {kind : Value} {args : List Value} {hooks : List (Option (Hook σ))}

include hget

theorem ensures_enter (hh : HooksSpare books hooks) (hlen : hooks.length = count) :
    Act.Ensures (Watched books (Settled count steps))
      (fun _ => Watched books (Settled count (⟨kind, args⟩ :: steps))) (FailedLawfully books count)
      (watchedEnter books kind hooks args) := by
  refine Act.Ensures.bind (ensures_change hget (D := fun record b' => ∃ b,
    Settled count steps record b ∧ b' = { b with depth := b.depth + 1 })
    fun record b hb => ⟨b, hb, rfl⟩) fun _ => ?_
  refine Act.Ensures.bind (ensures_watch (D := fun record b => ∃ round,
    Entering count round ⟨kind, args⟩ steps record b) ?_) fun _ => ?_
  · rintro record _ ⟨b, hb, rfl⟩
    exact hb.entering
  · refine (ensures_enterMembers hget hh hlen).mono (fun _ hw => hw) (fun _ w hw => ?_)
      fun _ _ hw => hw
    obtain ⟨round, he⟩ := hw
    exact he.settled

theorem ensures_leave (hh : HooksSpare books hooks) (hlen : hooks.length = count) :
    Act.Ensures (Watched books (Settled count (⟨kind, args⟩ :: steps)))
      (fun _ => Watched books (Settled count steps)) (FailedLawfully books count)
      (watchedLeave books kind hooks args) := by
  refine Act.Ensures.bind ensures_read fun b => ?_
  rintro w ⟨hs, hb⟩
  have hdepth : b.depth = (steps.length + 1 : Nat) := hb ▸ hs.leaving.1
  rw [hdepth]
  refine Act.Ensures.bind (ensures_change hget (D := fun record b' =>
    Settled count (⟨kind, args⟩ :: steps) record b ∧ b' = { b with depth := b.depth - 1 })
    (C := fun record b' => Settled count (⟨kind, args⟩ :: steps) record b' ∧ b' = b) ?_)
    (fun _ => ?_) w ⟨hs, hb⟩
  · rintro record _ ⟨hs, rfl⟩
    exact ⟨hs, rfl⟩
  refine Act.Ensures.bind (ensures_watch (D := Leaving count b.round ⟨kind, args⟩ steps 0) ?_)
    fun _ => ?_
  · rintro record _ ⟨hs, rfl⟩
    exact hs.leaving.2
  refine Act.Ensures.bind (Act.ensures_zipIdx (P := fun k => Watched books
    (Leaving count b.round ⟨kind, args⟩ steps k)) hooks 0 fun k hook? hk => ?_) fun _ => ?_
  · rw [Nat.zero_add]
    obtain ⟨hk', rfl⟩ := List.getElem?_eq_some_iff.mp hk
    exact ensures_leaveMember hget (hlen ▸ hk') (hh _ (List.getElem_mem hk'))
  · rw [Nat.zero_add, hlen]
    refine Act.Ensures.bind (ensures_watch (D := Settled count steps) ?_) fun _ => ?_
    · exact fun _ _ hl => hl.settled
    · exact Act.ensures_pure fun _ hw => hw

end

/-! ### Steps of a walk -/

section

variable {σ α : Type} {books : Part σ Bookkeeping} {C D S G : List Moment → Bookkeeping → Prop}

theorem Act.Ensures.of_fails {I : World σ → Prop} {J : α → World σ → Prop}
    {F : Halt → World σ → Prop} {x : Act σ α} (h : Ensures I J F x) (hx : x.Fails)
    (J' : α → World σ → Prop) : Ensures I J' F x := by
  intro w hw
  have h' := h w hw
  obtain ⟨e, w', he⟩ := hx w
  rw [he] at h' ⊢
  exact h'

theorem ensures_abort {β : Type} (kind : Value) (direction : Direction) (node? : Option Value)
    (e : Ref) (J : β → World (σ × List Moment) → Prop) :
    Act.Ensures (Watched books G) J (fun _ => Watched books G) (abort kind direction node? e) := by
  refine Act.Ensures.of_fails (J := fun _ => Watched books G) ?_
    (fails_abort kind direction node? e) J
  refine Act.Ensures.bind (ensures_action _) fun words => ?_
  exact Act.Ensures.bind (ensures_action _) fun report => ensures_action _

/-- Methods are judged to fail, if their errors have no prune signal or if it does not matter. -/
theorem ensures_judge {x : Act (σ × List Moment) Value} {fatal : Ref → Act (σ × List Moment) Bool}
    (hx : Act.Ensures (Watched books C) (fun _ => Watched books S)
      (fun halt w => Watched books G w ∧ (Unsignalled halt w.store ∨ Watched books S w)) x)
    (hf : ∀ e, Act.Ensures (Watched books G) (fun _ => Watched books S) (fun _ => Watched books G)
      (fatal e)) :
    Act.Ensures (Watched books C) (fun _ => Watched books S) (fun _ => Watched books G)
      (Act.judge x fatal) := by
  have hanswer := Act.Ensures.bind hx fun answer => Act.ensures_pure
    (a := Action.asksToPrune answer) (J := fun _ => Watched books S) fun _ hw => hw
  intro w hw
  have h := hanswer w hw
  unfold Act.judge Act.handle
  rw [Act.runOn_tryCatch]
  revert h
  rcases (x >>= fun answer => pure (Action.asksToPrune answer)).runOn w with ⟨halt | pruned, w₁⟩
  · rintro ⟨hG, hS⟩
    cases halt with
    | tooDeep => exact hG
    | raised e =>
      dsimp only
      rw [Act.runOn_bind_ok (Act.runOn_store w₁)]
      by_cases hg : Effect.isErrorOf .general w₁.store e = true
      · rw [if_pos hg, Act.runOn_bind, Act.runOn_action]
        rcases hp : (Action.pruneSignal (.ref e)).perform.runOn w₁.store with ⟨halt | signal, s⟩
        · exact hG
        · cases signal with
          | none => exact hf e { w₁ with store := s } hG
          | some prune =>
            rcases hS with hS | hS
            · exact absurd hp (hS e rfl hg prune s)
            · exact hS
      · rw [if_neg hg]
        exact hG
  · exact id

variable (options : WalkOptions) (context kind : Value) (node? : Option Value)
  {members : List (Visitor σ)}

theorem ensures_endEnter (hG : ∀ record b, S record b → G record b) (pruned : Bool) :
    Act.Ensures (Watched books S) (fun _ => Watched books S) (fun _ => Watched books G)
      (endEnter options kind node? pruned) := by
  have hlog (line : String) : Act.Ensures (Watched books S) (fun _ => Watched books S)
      (fun _ => Watched books G) (Act.log line >>= fun _ => pure pruned) :=
    fun _ hw => hw
  have hread (act : Action String) : Act.Ensures (Watched books S) (fun _ => Watched books S)
      (fun _ => Watched books G) (liftM act : Act (σ × List Moment) String) :=
    (ensures_action act).mono (fun _ hw => hw) (fun _ _ hw => hw) fun _ _ hw => hG _ _ hw
  unfold endEnter
  dsimp only
  split
  · cases node? with
    | none => exact Act.Ensures.bind (hread _) fun shown => hlog _
    | some node => exact Act.Ensures.bind (hread _) fun shown => hlog _
  · exact Act.ensures_pure fun _ hw => hw

/-- What is known of the methods of members that were looked up. -/
def FoundSparing (books : Part σ Bookkeeping) (members : List (Visitor σ))
    (D : List Moment → Bookkeeping → Prop) (hooks : List (Option (Hook σ)))
    (w : World (σ × List Moment)) : Prop :=
  Watched books D w ∧ hooks.length = members.length ∧ HooksSpare books hooks

/-- Entering, by looking up the methods and calling them. -/
theorem ensures_enterStep (hG : ∀ record b, S record b → G record b)
    (hl : Act.Ensures (Watched books C) (FoundSparing books members D) (fun _ => Watched books G)
      (lockstepHooks books members ⟨kind, .enter, false⟩).unmarked)
    (hh : ∀ hooks, hooks.length = members.length → HooksSpare books hooks →
      Act.Ensures (Watched books D) (fun _ => Watched books S)
        (fun halt w => Watched books G w ∧ (Unsignalled halt w.store ∨ Watched books S w))
        (watchedEnter books kind hooks (hookArgs context node?))) :
    Act.Ensures (Watched books C) (fun _ => Watched books S) (fun _ => Watched books G)
      (enterStep options (watchedLockstep books members) context kind node?) := by
  rw [enterStep_eq]
  unfold watchedLockstep
  simp only [bind_assoc, pure_bind]
  refine Act.Ensures.bind hl fun hooks w ⟨hw, hlen, hspare⟩ => ?_
  exact Act.Ensures.bind (ensures_judge (hh hooks hlen hspare) fun e =>
    ensures_abort kind .enter node? e _) (ensures_endEnter options kind node? hG) w hw

/-- Leaving, by looking up the methods and calling them. -/
theorem ensures_leaveStep
    (hl : Act.Ensures (Watched books C) (FoundSparing books members D) (fun _ => Watched books G)
      (lockstepHooks books members ⟨kind, .leave, false⟩).unmarked)
    (hh : ∀ hooks, hooks.length = members.length → HooksSpare books hooks →
      Act.Ensures (Watched books D) (fun _ => Watched books S)
        (fun halt w => Watched books G w ∧ (Unsignalled halt w.store ∨ Watched books S w))
        (watchedLeave books kind hooks (hookArgs context node?))) :
    Act.Ensures (Watched books C) (fun _ => Watched books S) (fun _ => Watched books G)
      (leaveStep (watchedLockstep books members) context kind node?) := by
  rw [leaveStep_eq]
  unfold watchedLockstep
  simp only [bind_assoc, pure_bind]
  refine Act.Ensures.bind hl fun hooks w ⟨hw, hlen, hspare⟩ => ?_
  refine Act.Ensures.bind (ensures_judge (hh hooks hlen hspare) fun e =>
    ensures_abort kind .leave node? e _) (fun _ => ?_) w hw
  exact Act.ensures_pure (a := ()) fun _ hw => hw

variable (hget : ∀ b state, books.get (books.set b state) = b)
  (hmembers : ∀ v ∈ members, v.Spares books)
include hmembers

theorem runOn_hooks (lookup : Lookup) :
    (members.mapM fun v : Visitor σ => v.hook? lookup).Spares books ∧
      ∀ w hooks w', (members.mapM fun v : Visitor σ => v.hook? lookup).runOn w = (.ok hooks, w') →
        hooks.length = members.length ∧ HooksSpare books hooks := by
  induction members with
  | nil =>
    refine ⟨fun _ => rfl, fun w hooks w' h => ?_⟩
    cases h
    exact ⟨rfl, nofun⟩
  | cons v members ih =>
    obtain ⟨hs, hf⟩ := ih fun v hv => hmembers v (List.mem_cons_of_mem _ hv)
    have hv := hmembers v (List.mem_cons_self ..)
    rw [List.mapM_cons]
    refine ⟨(hv.lookup lookup).bind fun _ _ _ _ => hs.bind fun _ _ _ _ _ => rfl,
      fun w hooks w' h => ?_⟩
    obtain ⟨hook?, w₁, hr₁, h⟩ := Act.bind_ok_iff.mp h
    obtain ⟨hooks', w₂, hr₂, h⟩ := Act.bind_ok_iff.mp h
    cases h
    obtain ⟨hlen, hspare⟩ := hf _ _ _ hr₂
    refine ⟨congrArg Nat.succ hlen, List.forall_mem_cons.mpr ⟨fun hook hh => ?_, hspare⟩⟩
    subst hh
    exact hv.method hr₁

include hget

/-- Looking up the methods of all members changes the bookkeeping only where it starts anew. -/
theorem ensures_hooks {lookup : Lookup}
    (hD : ∀ record b, C record b →
      D record (if Lockstep.restartsAt lookup then b.restart members.length else b)) :
    Act.Ensures (Watched books C) (FoundSparing books members D) (fun _ => Watched books D)
      (lockstepHooks books members lookup).unmarked := by
  obtain ⟨hs, hf⟩ := runOn_hooks hmembers { lookup with relayed := true }
  have hmapM : Act.Ensures (Watched books D) (FoundSparing books members D)
      (fun _ => Watched books D)
      (members.mapM fun v : Visitor σ => v.hook? { lookup with relayed := true }).unmarked := by
    intro w hw
    have h := ensures_spares hs w hw
    have hr : (members.mapM fun v : Visitor σ =>
        v.hook? { lookup with relayed := true }).unmarked.runOn w =
        (((members.mapM fun v : Visitor σ =>
          v.hook? { lookup with relayed := true }).runOn w.forget).1,
          ((members.mapM fun v : Visitor σ =>
            v.hook? { lookup with relayed := true }).runOn w.forget).2.traced w.state.2) := rfl
    rw [hr] at h ⊢
    rcases hm : (members.mapM fun v : Visitor σ =>
      v.hook? { lookup with relayed := true }).runOn w.forget with ⟨e | hooks, w'⟩
    · rw [hm] at h
      exact h
    · rw [hm] at h
      exact ⟨h, hf _ _ _ hm⟩
  unfold lockstepHooks
  by_cases hr : Lockstep.restartsAt lookup = true
  · simp only [if_pos hr] at hD ⊢
    rw [Act.unmarked_bind]
    exact Act.Ensures.bind (ensures_change hget hD) fun _ => hmapM
  · simp only [if_neg hr] at hD ⊢
    exact hmapM.mono (fun w hw => hD _ _ hw) (fun _ _ hw => hw) fun _ _ hw => hw

end

/-! ### Walks -/

/-- The step of a frame. -/
def Frame.occasion (context : Value) (f : Frame) : Occasion :=
  ⟨f.kind, hookArgs context f.node?⟩

/-- Inside of the given steps, if no document or schema was entered inside of something. -/
def Inside (count : Nat) (steps : List Occasion) (record : List Moment) (b : Bookkeeping) : Prop :=
  RestartsInside record ∨ Settled count steps record b

/-- After a failure, if no document or schema was entered inside of something. -/
def SoFar (count : Nat) (record : List Moment) (b : Bookkeeping) : Prop :=
  RestartsInside record ∨ Lawful count record b

theorem Inside.soFar {count : Nat} {steps : List Occasion} {record : List Moment} {b : Bookkeeping}
    (h : Inside count steps record b) : SoFar count record b :=
  h.imp_right Settled.lawful

theorem Settled.ne_nil {count : Nat} {o : Occasion} {steps : List Occasion} {record : List Moment}
    {b : Bookkeeping} (h : Settled count (o :: steps) record b) : record ≠ [] := by
  obtain ⟨pruned, phase, round, -, hr, -⟩ := h
  rintro rfl
  generalize hp : (⟨o :: steps, pruned, phase⟩ : Standing) = p at hr
  generalize hn : ([] : List Moment) = record at hr
  cases hr with
  | start => nomatch hp
  | step => exact absurd hn.symm (List.append_ne_nil_of_right_ne_nil _ (List.cons_ne_nil _ _))

/-- Where nothing is open, starting anew changes no marks. -/
theorem Settled.restart {count : Nat} {record : List Moment} {b : Bookkeeping}
    (h : Settled count [] record b) : Settled count [] record (b.restart count) := by
  obtain ⟨pruned, phase, round, hidle, hr, hle, -⟩ := h
  refine ⟨pruned, phase, _, hidle, hr, hle, (Bookkeeping.marked_restart b count).congr fun i _ => ?_⟩
  have : pruned i = 0 := Nat.le_zero.mp (hle.1 i)
  rw [this]
  rfl

/-- Where nothing is open, the bookkeeping is that of new visitors. -/
theorem Settled.closed {count : Nat} {record : List Moment} {b : Bookkeeping}
    (h : Settled count [] record b) :
    ∃ p, Replays count record p ∧ p.steps = [] ∧ p.phase.Idle ∧ (∀ i, p.pruned i = 0) ∧
      b.depth = 0 ∧ b.skipping = List.replicate count 0 := by
  obtain ⟨pruned, phase, round, hidle, hr, hle, hb⟩ := h
  have hz : ∀ i, pruned i = 0 := fun i => Nat.le_zero.mp (hle.1 i)
  have hmarks : (fun i => (pruned i : Int)) = fun _ => 0 := funext fun i => by rw [hz i]; rfl
  refine ⟨_, hr, rfl, hidle, hz, hb.depth_eq, ?_⟩
  unfold Bookkeeping.skipping
  rw [hb.round_eq, hb.marks_eq, hmarks, List.map_const', List.length_range]

section

variable {σ α : Type} {books : Part σ Bookkeeping} {C C' : List Moment → Bookkeeping → Prop}

theorem Act.Ensures.or {J : α → World (σ × List Moment) → Prop}
    {F : Halt → World (σ × List Moment) → Prop} {x : Act (σ × List Moment) α}
    (h : Ensures (Watched books C) J F x) (h' : Ensures (Watched books C') J F x) :
    Ensures (Watched books fun record b => C record b ∨ C' record b) J F x :=
  fun w hw => hw.elim (h w) (h' w)

/-- A record only grows. -/
theorem Watches.ensures {x' : Act (σ × List Moment) α} {x : Act σ α} (h : Watches x' x) :
    Act.Ensures (Watched books fun record _ => RestartsInside record)
      (fun _ => Watched books fun record _ => RestartsInside record)
      (fun _ => Watched books fun record _ => RestartsInside record) x' := by
  intro w hw
  obtain ⟨seg, -, hrun⟩ := h w.forget
  rcases hr : x.runOn w.forget with ⟨e | a, w'⟩
  · rw [hr] at hrun
    have hx : x'.runOn w = _ := hrun w.state.2
    rw [hx]
    exact RestartsInside.append hw seg
  · rw [hr] at hrun
    obtain ⟨a', -, hrun⟩ := hrun
    have hx : x'.runOn w = _ := hrun w.state.2
    rw [hx]
    exact RestartsInside.append hw seg

theorem steady_alone : Steady (Act.Alone (Watched books C)) where
  store h := h.1 ▸ rfl
  log h := h.1 ▸ rfl
  change := by
    rintro w _ ⟨rfl, hw⟩ s log
    exact ⟨rfl, hw⟩

variable {members : List (Visitor σ)} (options : WalkOptions) (context : Value)
  {steps : List Occasion} (f : Frame) (hget : ∀ b state, books.get (books.set b state) = b)
  (hmembers : ∀ v ∈ members, v.Spares books)
include hget hmembers

theorem ensures_settledEnter
    (hr : steps = [] ∨ Lockstep.restartsAt ⟨f.kind, .enter, false⟩ = false) :
    Act.Ensures (Watched books (Settled members.length steps))
      (fun _ => Watched books (Settled members.length (f.occasion context :: steps)))
      (fun _ => Watched books (Lawful members.length))
      (enterStep options (watchedLockstep books members) context f.kind f.node?) := by
  refine ensures_enterStep options context f.kind f.node? (fun _ _ h => h.lawful)
    ((ensures_hooks hget hmembers (D := Settled members.length steps) fun record b h => ?_).mono
      (fun _ hw => hw) (fun _ _ hw => hw) fun _ _ hw => Settled.lawful hw)
    fun hooks hlen hspare => (ensures_enter hget hspare hlen).mono (fun _ hw => hw)
      (fun _ _ hw => hw) fun _ _ ⟨hw, hu⟩ => ⟨hw, .inl hu⟩
  rcases hr with rfl | hr
  · split
    · exact h.restart
    · exact h
  · rw [if_neg (Bool.eq_false_iff.mp hr)]
    exact h

/-- A document or a schema that is entered inside of something. -/
theorem ensures_restartedEnter {o : Occasion}
    (hr : Lockstep.restartsAt ⟨f.kind, .enter, false⟩ = true) :
    Act.Ensures (Watched books (Settled members.length (o :: steps)))
      (fun _ => Watched books fun record _ => RestartsInside record)
      (fun _ => Watched books (SoFar members.length))
      (enterStep options (watchedLockstep books members) context f.kind f.node?) := by
  refine ensures_enterStep options context f.kind f.node? (fun _ _ h => .inl h)
    ((ensures_hooks hget hmembers (D := fun record b => record ≠ [] ∧ Lawful members.length record b)
      fun record b h => ⟨h.ne_nil, h.lawful⟩).mono (fun _ hw => hw) (fun _ _ hw => hw)
      fun _ _ hw => .inr hw.2) fun hooks _ _ => ?_
  refine Act.Ensures.bind (ensures_change hget (D := fun record _ => record ≠ [])
    fun _ _ h => h.1) fun _ => ?_
  refine Act.Ensures.bind (ensures_watch (D := fun record _ => RestartsInside record)
    fun record b h => restartsInside_append h ?_) fun _ => ?_
  · unfold Lockstep.restartsAt at hr
    exact hr
  · exact (watches_enterMembers books _ hooks).ensures.mono (fun _ hw => hw) (fun _ _ hw => hw)
      fun _ _ hw => ⟨.inl hw, .inr hw⟩

theorem ensures_insideEnter (o : Occasion) :
    Act.Ensures (Watched books (Inside members.length (o :: steps)))
      (fun _ => Watched books (Inside members.length (f.occasion context :: o :: steps)))
      (fun _ => Watched books (SoFar members.length))
      (enterStep options (watchedLockstep books members) context f.kind f.node?) := by
  have hgrows : Act.Ensures (Watched books fun record _ => RestartsInside record) _ _ _ :=
    Watches.ensures (tallies_enterStep piecewise_any (watchedLockstep_tallies books members) options
      context f.kind f.node?)
  refine Act.Ensures.or (hgrows.mono (fun _ hw => hw) (fun _ _ hw => .inl hw) fun _ _ hw => .inl hw) ?_
  rcases hr : Lockstep.restartsAt ⟨f.kind, .enter, false⟩
  · exact (ensures_settledEnter options context f hget hmembers (.inr hr)).mono (fun _ hw => hw)
      (fun _ _ hw => .inr hw) fun _ _ hw => .inr hw
  · exact (ensures_restartedEnter options context f hget hmembers hr).mono (fun _ hw => hw)
      (fun _ _ hw => .inl hw) fun _ _ hw => hw

theorem ensures_insideLeave :
    Act.Ensures (Watched books (Inside members.length (f.occasion context :: steps)))
      (fun _ => Watched books (Inside members.length steps))
      (fun _ => Watched books (SoFar members.length))
      (leaveStep (watchedLockstep books members) context f.kind f.node?) := by
  have hgrows : Act.Ensures (Watched books fun record _ => RestartsInside record) _ _ _ :=
    Watches.ensures (tallies_leaveStep piecewise_any (watchedLockstep_tallies books members) context
      f.kind f.node?)
  refine Act.Ensures.or (hgrows.mono (fun _ hw => hw) (fun _ _ hw => .inl hw) fun _ _ hw => .inl hw) ?_
  refine Act.Ensures.mono (ensures_leaveStep (G := Lawful members.length) context f.kind f.node?
    ((ensures_hooks hget hmembers (D := Settled members.length (f.occasion context :: steps))
      fun record b h => h).mono
      (fun _ hw => hw) (fun _ _ hw => hw) fun _ _ hw => Settled.lawful hw)
    fun hooks hlen hspare => (ensures_leave hget hspare hlen).mono (fun _ hw => hw)
      (fun _ _ hw => hw) fun _ _ ⟨hw, hu⟩ => ⟨hw, .inl hu⟩) (fun _ hw => hw)
    (fun _ _ hw => .inr hw) fun _ _ hw => .inr hw

theorem stepsMatch_watched :
    StepsMatch options (watchedLockstep books members) (watchedLockstep books members) context
      (fun path => Act.Alone (Watched books (Inside members.length
        (path.map (Frame.occasion context)))))
      (Act.Alone (Watched books (SoFar members.length))) where
  steady _ := steady_alone
  failed := steady_alone
  fails h := ⟨h.1, Inside.soFar h.2⟩
  enter f p _ := (ensures_insideEnter options context f hget hmembers (p.occasion context)).mirrors
  leave f _ _ := (ensures_insideLeave context f hget hmembers).mirrors

/-- A walk with a new bookkeeping. -/
theorem ensures_walk (root : Value) :
    Act.Ensures (Watched books (Settled members.length []))
      (fun _ => Watched books (Inside members.length []))
      (fun _ => Watched books (SoFar members.length))
      (walk options (watchedLockstep books members) context root) := by
  have hroot (kind : Value) : Act.Ensures (Watched books (Settled members.length []))
      (fun _ => Watched books (Inside members.length [(Frame.node kind root).occasion context]))
      (fun _ => Watched books (SoFar members.length))
      (enterStep options (watchedLockstep books members) context kind (some root)) :=
    (ensures_settledEnter options context (.node kind root) hget hmembers (.inl rfl)).mono
      (fun _ hw => hw) (fun _ _ hw => .inr hw) fun _ _ hw => .inr hw
  have hwalk : Act.Mirrors (fun w v => Act.Alone (Watched books (Settled members.length [])) w v ∧
      w.store.RootKind root fun _ => True) _ _ _ _ :=
    matches_walk (stepsMatch_watched options context hget hmembers) steady_alone
      (fun _ _ h => ⟨h.1, .inr h.2.lawful⟩) (fun kind _ => (hroot kind).mirrors)
      fun kind => (ensures_insideLeave context (.node kind root) hget hmembers).mirrors
  exact Act.Mirrors.ensures (hwalk.mono fun _ _ h => ⟨h, fun _ _ _ _ _ => trivial⟩)

/-- **The bookkeeping of visitors in lockstep.** In a walk with a new bookkeeping that enters no
document or schema inside of anything, what the visitors do follows the rules and the bookkeeping is
accurate at every moment, however the walk ends; a visitor that was released at the end of the step at
which it pruned has been called if it has a method for that. If the walk succeeds, all steps have been
left, no visitor is skipping, and the bookkeeping is that of new visitors. -/
theorem walk_bookkeeping (root : Value) {w : World σ}
    (hfresh : books.get w.state = .fresh members.length) :
    ∃ outcome w' record,
      (walk options (lockstep books members) context root).runOn w = (outcome, w') ∧
      (walk options (watchedLockstep books members) context root).runOn (w.traced []) =
        (outcome, w'.traced record) ∧
      ((∀ m ∈ record.tail, m.restarts = false) →
        ∃ p, Replays members.length record p ∧ p.phase.NoneDue ∧ (outcome = .ok () →
          p.steps = [] ∧ p.phase.Idle ∧ (∀ i, p.pruned i = 0) ∧ (books.get w'.state).depth = 0 ∧
          (books.get w'.state).skipping = List.replicate members.length 0)) := by
  have hstart : Watched books (Settled members.length []) (w.traced []) := by
    refine ⟨fun _ => 0, .between, 0, trivial, .start, ⟨fun _ => Nat.le_refl _, fun _ _ => rfl⟩, ?_⟩
    rw [show books.get (w.traced ([] : List Moment)).state.1 = _ from hfresh]
    exact ⟨rfl, rfl, by simp [Bookkeeping.fresh, List.map_const']⟩
  have hwalk := ensures_walk options context hget hmembers root (w.traced []) hstart
  obtain ⟨record, -, hrun⟩ := tallies_walk piecewise_any (watchedLockstep_tallies books members)
    options context root w
  have hunless : (∀ m ∈ record.tail, m.restarts = false) → ¬ RestartsInside record := by
    rintro hnone ⟨m, hm, hr⟩
    rw [hnone m hm] at hr
    nomatch hr
  rcases hr : (walk options (lockstep books members) context root).runOn w with ⟨e | _, w'⟩
  · rw [hr] at hrun
    rw [hrun []] at hwalk
    refine ⟨_, w', record, rfl, hrun [], fun hnone => ?_⟩
    obtain ⟨p, hp, hdue⟩ := hwalk.resolve_left (hunless hnone)
    exact ⟨p, hp, hdue, nofun⟩
  · rw [hr] at hrun
    obtain ⟨_, -, hrun⟩ := hrun
    rw [hrun []] at hwalk
    refine ⟨_, w', record, rfl, hrun [], fun hnone => ?_⟩
    obtain ⟨p, hp, hclosed⟩ := (hwalk.resolve_left (hunless hnone)).closed
    exact ⟨p, hp, hclosed.2.1.noneDue, fun _ => hclosed⟩

end

/-! ### Walks in which one of two visitors prunes -/

/-- A visitor that skips what is inside of a kind. -/
def pruningVisitor (kind : String) : Visitor (Bookkeeping × Nat) where
  hook? lookup := return some fun _ => return if lookup.kind = .text kind then .skip else .null

theorem pruningVisitor_spares (kind : String) : (pruningVisitor kind).Spares talliedBooks where
  lookup _ _ := rfl
  method h := by
    cases h
    exact fun _ => ⟨fun _ => rfl, nofun⟩

/-- Two visitors over a schema, of which the first one prunes at an object. -/
theorem walk_bookkeeping_smallSchema :
    let members := [pruningVisitor "object_definition", pruningVisitor "field"]
    ∃ (w' : World (Bookkeeping × Nat)) (record : List Moment) (p : Standing),
      (walk .standard (watchedLockstep talliedBooks members) .null (.ref 0)).runOn
        (World.traced ⟨.smallSchema, [], .fresh 2, 0⟩ []) = (.ok (), w'.traced record) ∧
      record.length = 54 ∧ Replays 2 record p ∧ p.steps = [] ∧ p.phase.Idle ∧
      (∀ i, p.pruned i = 0) ∧ w'.state.1.depth = 0 ∧ w'.state.1.skipping = [0, 0] := by
  intro members
  have hmembers : ∀ v ∈ members, v.Spares talliedBooks := by
    intro v hv
    rcases List.mem_cons.mp hv with rfl | hv
    · exact pruningVisitor_spares _
    · obtain rfl := List.mem_singleton.mp hv
      exact pruningVisitor_spares _
  obtain ⟨outcome, w', record, -, hrun, hbooks⟩ := walk_bookkeeping .standard .null
    (fun _ _ => rfl) hmembers (.ref 0) (w := ⟨.smallSchema, [], .fresh 2, 0⟩) rfl
  have hcomputed : (((walk .standard (watchedLockstep talliedBooks members) .null (.ref 0)).runOn
      (World.traced ⟨.smallSchema, [], .fresh 2, 0⟩ [])).1.toBool,
      ((walk .standard (watchedLockstep talliedBooks members) .null (.ref 0)).runOn
      (World.traced ⟨.smallSchema, [], .fresh 2, 0⟩ [])).2.state.2.length,
      ((walk .standard (watchedLockstep talliedBooks members) .null (.ref 0)).runOn
      (World.traced ⟨.smallSchema, [], .fresh 2, 0⟩ [])).2.state.2.tail.all fun m =>
        m.restarts == false) = (true, 54, true) := by decide +kernel
  rw [hrun] at hcomputed
  simp only [Prod.mk.injEq, World.traced] at hcomputed
  obtain ⟨hok, hlen, hnone⟩ := hcomputed
  obtain ⟨p, hp, -, hclosed⟩ := hbooks fun m hm => eq_of_beq (List.all_eq_true.mp hnone m hm)
  obtain rfl := eq_ok_of_toBool hok
  exact ⟨w', record, p, hrun, hlen, hp, hclosed rfl⟩

/-- A document that holds a document. -/
def nestedDocuments : Store where
  cells := #[
    .node ⟨.document, [("definitions", .ref 1)], .own [], none⟩,
    .tuple .frozen [.ref 2] (.own []),
    .node ⟨.document, [("definitions", .ref 3)], .own [], none⟩,
    .tuple .frozen [] (.own [])]
  nextTag := 0
  classAttrs := []
  functionData := []

/-- A walk that gets through to a document inside of another one succeeds and leaves all steps, but in
the end the bookkeeping has a depth below zero. -/
theorem walk_bookkeeping_nested :
    let run := (walk ⟨[("document", [("definitions", "directive")])], false, 1000⟩
      (lockstep talliedBooks [pruningVisitor "field"]) .null (.ref 0)).runOn
        ⟨nestedDocuments, [], .fresh 1, 0⟩
    run.1.toBool = true ∧ run.2.state.1.depth = -2 := by
  decide +kernel

end GraphQLTree
