import GraphQLTree.Proofs.Alongside
import GraphQLTree.Proofs.Description
import GraphQLTree.Proofs.FirstFailure
import Mathlib.Data.List.Forall2

/-! # Outcomes of methods

What a method answers or raises matters to a walk only for its class (`CountsAs`): a method asks to
skip what is inside, by its answer or by a prune signal, or it does not, or it fails. What a method
asks when a frame is left does not matter. Visitors whose methods are alike in this way lead the same
walks, alone or in lockstep with others: with the same calls, the same end and the same log
(`walks_alike`). The classes are told apart at four places, when a frame is entered and when it is
left, alone and in lockstep. -/

namespace GraphQLTree

/-! ### Classes of outcomes -/

/-- What the outcome of a method for a frame counts as. An ordinary error with a prune signal counts as
an answer; of any other error it is known what becomes of it. -/
def CountsAs {σ : Type} (keeps : Store → Store → Prop) (f : Frame) (d : Direction) :
    Except Halt Value × World σ → Reply → Prop
  | (.ok answer, _), .goesOn pruned => pruned = Action.asksToPrune answer
  | (.error (.raised e), w), .goesOn pruned => Effect.isErrorOf .general w.store e = true ∧
      ∃ s, (Action.pruneSignal (.ref e)).perform.runOn w.store = (.ok (some pruned), s) ∧
        keeps w.store s
  | (.error halt, w), .fails failed => Dooms keeps f d failed halt w.store
  | _, _ => False

/-- Outcomes of one class. When a frame is left, nothing is left to be skipped. -/
def Direction.SameClass : Direction → Reply → Reply → Prop
  | enter, .goesOn pruned, .goesOn pruned' => pruned = pruned'
  | leave, .goesOn _, .goesOn _ => True
  | _, .fails failed, .fails failed' => failed = failed'
  | _, _, _ => False

section

variable {σ : Type} {keeps : Store → Store → Prop} {f : Frame} {d : Direction} {run : Act σ Value}
  {w : World σ} {pruned : Bool} {failed : Failed}

/-- An outcome that counts as an answer is judged as one. -/
theorem CountsAs.judge_goesOn [IsPreorder Store keeps]
    (h : CountsAs keeps f d (run.runOn w) (.goesOn pruned)) :
    ∃ s, keeps (run.runOn w).2.store s ∧ ∀ fatal : Ref → Act σ Bool,
      (Act.judge run fatal).runOn w = (.ok pruned, { (run.runOn w).2 with store := s }) := by
  rcases hr : run.runOn w with ⟨(e | _) | answer, w₁⟩
  · rw [hr] at h
    obtain ⟨hg, s, hs, hk⟩ := h
    exact ⟨s, hk, Act.runOn_judge_signal hr hg hs⟩
  · rw [hr] at h
    exact h.elim
  · rw [hr] at h
    obtain rfl : pruned = Action.asksToPrune answer := h
    exact ⟨w₁.store, refl_of keeps _, fun fatal => runOn_judge hr fatal⟩

theorem CountsAs.fails (h : CountsAs keeps f d (run.runOn w) (.fails failed)) :
    ∃ halt w', run.runOn w = (.error halt, w') ∧ Dooms keeps f d failed halt w'.store := by
  rcases hr : run.runOn w with ⟨(_ | e) | answer, w'⟩
  · rw [hr] at h
    exact ⟨_, w', rfl, h⟩
  · rw [hr] at h
    exact ⟨_, w', rfl, h⟩
  · rw [hr] at h
    exact h.elim

end

/-! ### Visitors that are alike -/

section

variable {σ σ' : Type} (keeps : Store → Store → Prop) (s₀ : Store)
  (R R' : Face σ → Face σ' → Prop) (context : Value)

/-- From related states, two methods for a frame come out in the same class, and lead to related
states again. -/
def CallsAlike (f : Frame) (d : Direction) (hook : Hook σ) (hook' : Hook σ') : Prop :=
  ∀ s s', keeps s₀ s → keeps s₀ s' → ∀ w v, Twin keeps R s s' w v → ∃ reply reply',
    CountsAs keeps f d ((hook (hookArgs context f.node?)).runOn w) reply ∧
    CountsAs keeps f d ((hook' (hookArgs context f.node?)).runOn v) reply' ∧
    d.SameClass reply reply' ∧
    Twin keeps (match reply with | .goesOn _ => R | .fails _ => R') s s'
      ((hook (hookArgs context f.node?)).runOn w).2 ((hook' (hookArgs context f.node?)).runOn v).2

/-- Two methods for a kind, or none, which are alike for the frames with `P`. -/
def MethodsAlike (P : Frame → Prop) (kind : String) (d : Direction) :
    Option (Hook σ) → Option (Hook σ') → Prop :=
  Option.Rel fun hook hook' => ∀ f : Frame, f.kind = .text kind → P f →
    CallsAlike keeps s₀ R R' context f d hook hook'

/-- Two visitors define the same methods, and their methods are alike for the frames with `P`. -/
def Visitor.Alike (P : Frame → Prop) (visitor : Visitor σ) (visitor' : Visitor σ') : Prop :=
  ∀ kind d relayed s s', keeps s₀ s → keeps s₀ s' →
    Act.Pairs (Twin keeps R s s')
      (fun hook? w hook?' v => MethodsAlike keeps s₀ R R' context P kind d hook? hook?' ∧
        Twin keeps R s s' w v)
      (fun _ _ _ _ => False)
      (visitor.hook? ⟨.text kind, d, relayed⟩) (visitor'.hook? ⟨.text kind, d, relayed⟩)

/-- Two methods have failed with errors of which the same becomes. -/
def DoomedAlike (f : Frame) (d : Direction) (s s' : Store) (halt : Halt) (w : World σ)
    (halt' : Halt) (v : World σ') : Prop :=
  ∃ failed, Dooms keeps f d failed halt w.store ∧ Dooms keeps f d failed halt' v.store ∧
    Twin keeps R s s' w v

end

section

variable {σ σ' : Type} {keeps : Store → Store → Prop} {s₀ s s' : Store}
  {R R' : Face σ → Face σ' → Prop} {P : Frame → Prop} {context : Value} {f : Frame} {d : Direction}
  {hook : Hook σ} {hook' : Hook σ'} {w : World σ} {v : World σ'}

theorem Twin.restore (h : Twin keeps R s s' w v) {s₁ s₁' : Store} (hs : keeps s s₁)
    (hs' : keeps s' s₁') : Twin keeps R s s' { w with store := s₁ } { v with store := s₁' } :=
  ⟨hs, hs', h.faces⟩

variable [IsPreorder Store keeps] (h : CallsAlike keeps s₀ R R' context f d hook hook')
  (hs : keeps s₀ s) (hs' : keeps s₀ s')
include h hs hs'

/-- Methods that are alike are both judged as answers, or both raise errors of which the same becomes. -/
theorem CallsAlike.called (hw : Twin keeps R s s' w v) :
    (∃ pruned pruned' w' v', d.SameClass (.goesOn pruned) (.goesOn pruned') ∧
      (∀ fatal, (Act.judge (hook (hookArgs context f.node?)) fatal).runOn w = (.ok pruned, w')) ∧
      (∀ fatal, (Act.judge (hook' (hookArgs context f.node?)) fatal).runOn v = (.ok pruned', v')) ∧
      Twin keeps R s s' w' v') ∨
    ∃ halt w' halt' v', (hook (hookArgs context f.node?)).runOn w = (.error halt, w') ∧
      (hook' (hookArgs context f.node?)).runOn v = (.error halt', v') ∧
      DoomedAlike keeps R' f d s s' halt w' halt' v' := by
  obtain ⟨reply, reply', hc, hc', hclass, hafter⟩ := h s s' hs hs' w v hw
  cases reply with
  | goesOn pruned =>
    cases reply' with
    | fails => cases d <;> exact hclass.elim
    | goesOn pruned' =>
      obtain ⟨s₁, hk, hj⟩ := hc.judge_goesOn
      obtain ⟨s₁', hk', hj'⟩ := hc'.judge_goesOn
      exact .inl ⟨pruned, pruned', _, _, hclass, hj, hj',
        hafter.restore (trans_of keeps hafter.left hk) (trans_of keeps hafter.right hk')⟩
  | fails failed =>
    cases reply' with
    | goesOn => cases d <;> exact hclass.elim
    | fails failed' =>
      obtain rfl : failed = failed' := by cases d <;> exact hclass
      obtain ⟨halt, w', hr, hd⟩ := hc.fails
      obtain ⟨halt', v', hr', hd'⟩ := hc'.fails
      rw [hr, hr'] at hafter
      exact .inr ⟨halt, w', halt', v', hr, hr', failed, hd, hd', hafter⟩

/-- Methods that are alike, as they are called in lockstep: an error stays raised. -/
theorem CallsAlike.judge_rethrow :
    Act.Pairs (Twin keeps R s s')
      (fun pruned w pruned' v => d.SameClass (.goesOn pruned) (.goesOn pruned') ∧
        Twin keeps R s s' w v)
      (DoomedAlike keeps R' f d s s')
      (Act.judge (hook (hookArgs context f.node?)) Lockstep.rethrow)
      (Act.judge (hook' (hookArgs context f.node?)) Lockstep.rethrow) := by
  intro w v hw
  rcases h.called hs hs' hw with ⟨pruned, pruned', w', v', hclass, hj, hj', hafter⟩ |
    ⟨halt, w', halt', v', hr, hr', failed, hd, hd', hafter⟩
  · rw [hj, hj']
    exact ⟨hclass, hafter⟩
  · obtain ⟨s₁, hj, hk, hd₁⟩ := hd.judge_rethrow hr
    obtain ⟨s₁', hj', hk', hd₁'⟩ := hd'.judge_rethrow hr'
    rw [hj, hj']
    exact ⟨failed, hd₁, hd₁', hafter.restore (trans_of keeps hafter.left hk)
      (trans_of keeps hafter.right hk')⟩

/-- Methods that are alike, as they are called by a walk: an error becomes a report. -/
theorem CallsAlike.judge_abort :
    Act.Pairs (Twin keeps R s s')
      (fun pruned w pruned' v => d.SameClass (.goesOn pruned) (.goesOn pruned') ∧
        Twin keeps R s s' w v)
      (FellAlike keeps R' s s')
      (Act.judge (hook (hookArgs context f.node?)) (abort f.kind d f.node?))
      (Act.judge (hook' (hookArgs context f.node?)) (abort f.kind d f.node?)) := by
  intro w v hw
  rcases h.called hs hs' hw with ⟨pruned, pruned', w', v', hclass, hj, hj', hafter⟩ |
    ⟨halt, w', halt', v', hr, hr', failed, hd, hd', hafter⟩
  · rw [hj, hj']
    exact ⟨hclass, hafter⟩
  · obtain ⟨halt₁, s₁, hj, hfell⟩ := hd.judge_abort hr
    obtain ⟨halt₁', s₁', hj', hfell'⟩ := hd'.judge_abort hr'
    rw [hj, hj']
    exact ⟨failed, hfell.mono hafter.left, hfell'.mono hafter.right, hafter.faces⟩

end

/-! ### By themselves -/

section

variable {σ σ' : Type} {keeps : Store → Store → Prop} [IsPreorder Store keeps] {s₀ : Store}
  {R R' : Face σ → Face σ' → Prop} {P : Frame → Prop} {context : Value} {options : WalkOptions} {f : Frame}
  {visitor : Visitor σ} {visitor' : Visitor σ'}

/-- The steps of visitors that are alike. -/
theorem Visitor.Alike.stepsPair (h : visitor.Alike keeps s₀ R R' context P visitor')
    (hR : LogsTogether R) (hf : Namable options keeps s₀ f) (hp : P f) (d : Direction) :
    StepsPair options context keeps s₀ visitor visitor' R R R' f d := by
  obtain ⟨kind, hk⟩ := hf.kind
  intro s s' hs hs'
  have hlook := h kind d false s s' hs hs'
  rw [← hk] at hlook
  cases d with
  | enter =>
    unfold Visitor.step
    dsimp only
    rw [enterFrame, enterFrame, enterStep_eq, enterStep_eq]
    refine (hlook.mono (fun _ _ => id) (fun _ _ _ _ => id) fun _ _ _ _ => False.elim).bind
      fun hook? hook?' => ?_
    rintro w v ⟨hhooks, hw⟩
    cases hhooks with
    | none => exact ⟨rfl, hw⟩
    | some hcalls =>
      exact ((hcalls f hk hp).judge_abort hs hs').bind_same (hf.pairs_endEnter hR hs hs') hw
  | leave =>
    unfold Visitor.step
    dsimp only
    rw [leaveFrame, leaveFrame, leaveStep_eq, leaveStep_eq]
    refine Act.Pairs.bind (J := fun _ w _ v => Twin keeps R s s' w v) ?_
      fun _ _ => Act.pairs_pure fun _ _ hw => ⟨rfl, hw⟩
    refine (hlook.mono (fun _ _ => id) (fun _ _ _ _ => id) fun _ _ _ _ => False.elim).bind
      fun hook? hook?' => ?_
    rintro w v ⟨hhooks, hw⟩
    cases hhooks with
    | none => exact hw
    | some hcalls =>
      exact ((hcalls f hk hp).judge_abort hs hs').bind (fun _ _ => Act.pairs_pure fun _ _ hw => hw.2) hw

/-- Visitors that are alike lead their walks alongside each other. -/
theorem Visitor.Alike.alongside (h : visitor.Alike keeps s₀ R R' context P visitor')
    (hR : LogsTogether R) (hfalls : ∀ {a b}, R a b → R' a b) :
    Alongside options context keeps s₀ visitor visitor' (fun f => Namable options keeps s₀ f ∧ P f)
      (fun f => Namable options keeps s₀ f ∧ P f) (fun _ => R) R' where
  falls := hfalls
  opens := id
  enters hf _ := h.stepsPair hR hf.1 hf.2 .enter
  leaves hf _ := h.stepsPair hR hf.1 hf.2 .leave

end

/-! ### In lockstep -/

section

variable {σ σ' : Type} {keeps : Store → Store → Prop} [IsPreorder Store keeps] {s₀ s s' : Store}
  {R R' : Face σ → Face σ' → Prop} {P : Frame → Prop} {context : Value} {f : Frame}
  {books : Part σ Bookkeeping} {books' : Part σ' Bookkeeping} {hook? : Option (Hook σ)}
  {hook?' : Option (Hook σ')} {F : Halt → World σ → Halt → World σ' → Prop}

/-- A relation between states in which the bookkeeping is the same, whatever it is. -/
structure SharesBooks (books : Part σ Bookkeeping) (books' : Part σ' Bookkeeping)
    (R : Face σ → Face σ' → Prop) : Prop where
  get : ∀ {a b}, R a b → books.get a.1 = books'.get b.1
  set : ∀ {a b} (x : Bookkeeping), R a b → R (books.set x a.1, a.2) (books'.set x b.1, b.2)

variable (hbooks : SharesBooks books books' R)
include hbooks

omit [IsPreorder Store keeps] in
theorem SharesBooks.pairs_read : Act.Pairs (Twin keeps R s s')
    (fun a w b v => a = b ∧ Twin keeps R s s' w v) F books.read books'.read :=
  fun _ _ hw => ⟨hbooks.get hw.faces, hw⟩

omit [IsPreorder Store keeps] in
theorem SharesBooks.pairs_change (g : Bookkeeping → Bookkeeping) :
    Act.Pairs (Twin keeps R s s') (fun _ w _ v => Twin keeps R s s' w v) F (books.change g)
      (books'.change g) := by
  intro w v hw
  refine ⟨hw.left, hw.right, ?_⟩
  have hset := hbooks.set (g (books.get w.state)) hw.faces
  have hget : books.get w.state = books'.get v.state := hbooks.get hw.faces
  rw [hget] at hset
  change R (books.set (g (books.get w.state)) w.state, w.log) (books'.set _ v.state, v.log)
  rw [hget]
  exact hset

variable (hs : keeps s₀ s) (hs' : keeps s₀ s')
include hs hs'

/-- A member and its like where a frame is entered. -/
theorem pairs_enterMember (h : Option.Rel (CallsAlike keeps s₀ R R' context f .enter) hook? hook?')
    (round : Nat) (depth : Int) (i : Nat) :
    Act.Pairs (Twin keeps R s s') (fun _ w _ v => Twin keeps R s s' w v)
      (DoomedAlike keeps R' f .enter s s')
      (Lockstep.enterMember books round depth (hookArgs context f.node?) i hook?)
      (Lockstep.enterMember books' round depth (hookArgs context f.node?) i hook?') := by
  unfold Lockstep.enterMember
  cases h with
  | none => exact Act.pairs_pure fun _ _ => id
  | some hcalls =>
    refine hbooks.pairs_read.bind_same fun b => ?_
    split
    · refine (hcalls.judge_rethrow hs hs').bind_same fun pruned => ?_
      split
      · exact hbooks.pairs_change _
      · exact Act.pairs_pure fun _ _ => id
    · exact Act.pairs_pure fun _ _ => id

/-- What is done for a member and for its like where a frame is left, after the marks are set
back. -/
theorem pairs_leaveHook (h : Option.Rel (CallsAlike keeps s₀ R R' context f .leave) hook? hook?')
    (round : Nat) (i : Nat) :
    Act.Pairs (Twin keeps R s s') (fun _ w _ v => Twin keeps R s s' w v)
      (DoomedAlike keeps R' f .leave s s')
      (match hook? with
        | none => pure ()
        | some hook => do
          if (← books.read).mark round i = 0 then
            discard (Act.judge (hook (hookArgs context f.node?)) Lockstep.rethrow))
      (match hook?' with
        | none => pure ()
        | some hook => do
          if (← books'.read).mark round i = 0 then
            discard (Act.judge (hook (hookArgs context f.node?)) Lockstep.rethrow)) := by
  cases h with
  | none => exact Act.pairs_pure fun _ _ => id
  | some hcalls =>
    refine hbooks.pairs_read.bind_same fun b => ?_
    split
    · exact (hcalls.judge_rethrow hs hs').bind fun _ _ => Act.pairs_pure fun _ _ hw => hw.2
    · exact Act.pairs_pure fun _ _ => id

/-- A member and its like where a frame is left. -/
theorem pairs_leaveMember (h : Option.Rel (CallsAlike keeps s₀ R R' context f .leave) hook? hook?')
    (round : Nat) (depth : Int) (i : Nat) :
    Act.Pairs (Twin keeps R s s') (fun _ w _ v => Twin keeps R s s' w v)
      (DoomedAlike keeps R' f .leave s s')
      (Lockstep.leaveMember books round depth (hookArgs context f.node?) i hook?)
      (Lockstep.leaveMember books' round depth (hookArgs context f.node?) i hook?') := by
  unfold Lockstep.leaveMember
  refine hbooks.pairs_read.bind_same fun b => ?_
  dsimp only
  split
  · exact (hbooks.pairs_change _).bind fun _ _ => pairs_leaveHook hbooks hs hs' h round i
  · exact pairs_leaveHook hbooks hs hs' h round i

omit hbooks hs hs' [IsPreorder Store keeps] in
/-- A loop over the methods of all members and of their likes. -/
theorem pairs_members {P : Option (Hook σ) → Option (Hook σ') → Prop}
    {body : Nat → Option (Hook σ) → Act σ Unit} {body' : Nat → Option (Hook σ') → Act σ' Unit}
    {hooks : List (Option (Hook σ))} {hooks' : List (Option (Hook σ'))}
    (hh : List.Forall₂ P hooks hooks')
    (hbody : ∀ i hook? hook?', P hook? hook?' →
      Act.Pairs (Twin keeps R s s') (fun _ w _ v => Twin keeps R s s' w v) F (body i hook?)
        (body' i hook?')) (first : Nat) :
    Act.Pairs (Twin keeps R s s') (fun _ w _ v => Twin keeps R s s' w v) F
      ((hooks.zipIdx first).forM fun (hook?, i) => body i hook?)
      ((hooks'.zipIdx first).forM fun (hook?, i) => body' i hook?) := by
  induction hh generalizing first with
  | nil => exact Act.pairs_pure fun _ _ => id
  | cons hp _ ih => exact (hbody first _ _ hp).bind fun _ _ => ih (first + 1)

omit hbooks hs hs' [IsPreorder Store keeps] in
/-- Methods with the same answers are alike. -/
theorem CallsAlike.of_pairs {d : Direction} {hook : Hook σ} {hook' : Hook σ'}
    (h : ∀ s s', keeps s₀ s → keeps s₀ s' → Act.Pairs (Twin keeps R s s')
      (fun a w b v => a = b ∧ Twin keeps R s s' w v) (DoomedAlike keeps R' f d s s')
      (hook (hookArgs context f.node?)) (hook' (hookArgs context f.node?))) :
    CallsAlike keeps s₀ R R' context f d hook hook' := by
  intro s s' hs hs' w v hw
  have hrun := h s s' hs hs' hw
  revert hrun
  rcases (hook (hookArgs context f.node?)).runOn w with ⟨halt | answer, w'⟩
  · rcases (hook' (hookArgs context f.node?)).runOn v with ⟨halt' | answer', v'⟩
    · rintro ⟨failed, hd, hd', hw'⟩
      refine ⟨.fails failed, .fails failed, ?_, ?_, ?_, hw'⟩
      · cases halt <;> exact hd
      · cases halt' <;> exact hd'
      · cases d <;> rfl
    · exact False.elim
  · rcases (hook' (hookArgs context f.node?)).runOn v with ⟨halt' | answer', v'⟩
    · exact False.elim
    · rintro ⟨rfl, hw'⟩
      refine ⟨.goesOn _, .goesOn _, rfl, rfl, ?_, hw'⟩
      cases d
      · rfl
      · trivial

omit hs hs' in
theorem callsAlike_enter {hooks : List (Option (Hook σ))} {hooks' : List (Option (Hook σ'))}
    (hh : List.Forall₂ (Option.Rel (CallsAlike keeps s₀ R R' context f .enter)) hooks hooks') :
    CallsAlike keeps s₀ R R' context f .enter (Lockstep.enter books hooks)
      (Lockstep.enter books' hooks') := by
  refine .of_pairs fun s s' hs hs' => ?_
  refine (hbooks.pairs_change _).bind fun _ _ => hbooks.pairs_read.bind_same fun b => ?_
  refine (pairs_members hh (fun i _ _ h => pairs_enterMember hbooks hs hs' h _ _ i) 0).bind
    fun _ _ => hbooks.pairs_read.bind_same fun b₁ => ?_
  exact Act.pairs_pure fun _ _ hw => ⟨rfl, hw⟩

omit hs hs' in
theorem callsAlike_leave {hooks : List (Option (Hook σ))} {hooks' : List (Option (Hook σ'))}
    (hh : List.Forall₂ (Option.Rel (CallsAlike keeps s₀ R R' context f .leave)) hooks hooks') :
    CallsAlike keeps s₀ R R' context f .leave (Lockstep.leave books hooks)
      (Lockstep.leave books' hooks') := by
  refine .of_pairs fun s s' hs hs' => ?_
  refine hbooks.pairs_read.bind_same fun b => (hbooks.pairs_change _).bind fun _ _ => ?_
  exact (pairs_members hh (fun i _ _ h => pairs_leaveMember hbooks hs hs' h _ _ i) 0).bind
    fun _ _ => Act.pairs_pure fun _ _ hw => ⟨rfl, hw⟩

omit hbooks [IsPreorder Store keeps] in
theorem pairs_lookups {members : List (Visitor σ)} {members' : List (Visitor σ')}
    (h : List.Forall₂ (Visitor.Alike keeps s₀ R R' context P) members members') (kind : String)
    (d : Direction) :
    Act.Pairs (Twin keeps R s s')
      (fun hooks w hooks' v => List.Forall₂ (MethodsAlike keeps s₀ R R' context P kind d) hooks hooks' ∧
        Twin keeps R s s' w v)
      (fun _ _ _ _ => False)
      (members.mapM fun v : Visitor σ => v.hook? ⟨.text kind, d, true⟩)
      (members'.mapM fun v : Visitor σ' => v.hook? ⟨.text kind, d, true⟩) := by
  induction h with
  | nil => exact Act.pairs_pure fun _ _ hw => ⟨.nil, hw⟩
  | cons hv _ ih =>
    rw [List.mapM_cons, List.mapM_cons]
    refine (hv kind d true s s' hs hs').bind fun hook? hook?' => ?_
    rintro w v ⟨hhook, hw⟩
    refine ih.bind (fun hooks hooks' => ?_) hw
    rintro w v ⟨hhooks, hw⟩
    exact ⟨.cons hhook hhooks, hw⟩

omit hs hs' in
/-- **Visitors in lockstep are alike if their members are.** -/
theorem alike_lockstep {members : List (Visitor σ)} {members' : List (Visitor σ')}
    (h : List.Forall₂ (Visitor.Alike keeps s₀ R R' context P) members members') :
    (lockstep books members).Alike keeps s₀ R R' context P (lockstep books' members') := by
  intro kind d relayed s s' hs hs'
  have hcalls : ∀ {hooks hooks'}, List.Forall₂ (MethodsAlike keeps s₀ R R' context P kind d)
      hooks hooks' → ∀ f : Frame, f.kind = .text kind → P f →
        List.Forall₂ (Option.Rel (CallsAlike keeps s₀ R R' context f d)) hooks hooks' := by
    intro hooks hooks' hhooks f hf hp
    refine hhooks.imp fun _ _ hrel => ?_
    cases hrel with
    | none => exact .none
    | some hcall => exact .some (hcall f hf hp)
  have hlook := pairs_lookups hs hs' h kind d
  unfold lockstep
  dsimp only
  rw [h.length_eq]
  cases d with
  | enter =>
    have hmethods := hlook.bind fun hooks hooks' => Act.pairs_pure
      (J := fun hook? w hook?' v => MethodsAlike keeps s₀ R R' context P kind .enter hook? hook?' ∧
        Twin keeps R s s' w v) fun w v hw =>
      ⟨.some fun f hf hp => callsAlike_enter hbooks (hcalls hw.1 f hf hp), hw.2⟩
    split
    · exact (hbooks.pairs_change _).bind fun _ _ => hmethods
    · exact hmethods
  | leave =>
    exact hlook.bind fun hooks hooks' => Act.pairs_pure fun w v hw =>
      ⟨.some fun f hf hp => callsAlike_leave hbooks (hcalls hw.1 f hf hp), hw.2⟩

end

/-! ### Records of calls -/

section

variable {σ σ' : Type} {keeps : Store → Store → Prop} {s₀ s s' : Store}
  {R R' : Face σ → Face σ' → Prop} {P : Frame → Prop} {context : Value} {f : Frame} {d : Direction}

/-- Related states, beside records that are the same. -/
def Noted (R : Face σ → Face σ' → Prop) (a : Face (σ × List Note)) (b : Face (σ' × List Note)) :
    Prop :=
  R (a.1.1, a.2) (b.1.1, b.2) ∧ a.1.2 = b.1.2

theorem LogsTogether.noted (h : LogsTogether R) : LogsTogether (Noted R) :=
  fun lines hr => ⟨h lines hr.1, hr.2⟩

theorem SharesBooks.noted {books : Part σ Bookkeeping} {books' : Part σ' Bookkeeping}
    (h : SharesBooks books books' R) : SharesBooks books.lifted books'.lifted (Noted R) where
  get hr := h.get hr.1
  set x hr := ⟨h.set x hr.1, hr.2⟩

theorem CountsAs.traced {o : Except Halt Value × World σ} {reply : Reply}
    (h : CountsAs keeps f d o reply) (notes : List Note) :
    CountsAs keeps f d (o.1, o.2.traced notes) reply := by
  rcases o with ⟨(e | _) | answer, w⟩
  · cases reply <;> exact h
  · cases reply <;> exact h
  · cases reply <;> exact h

theorem Twin.forget {w : World (σ × List Note)} {v : World (σ' × List Note)}
    (h : Twin keeps (Noted R) s s' w v) : Twin keeps R s s' w.forget v.forget :=
  ⟨h.left, h.right, h.faces.1⟩

theorem Twin.traced {w : World σ} {v : World σ'} (h : Twin keeps R s s' w v) (notes : List Note) :
    Twin keeps (Noted R) s s' (w.traced notes) (v.traced notes) :=
  ⟨h.left, h.right, h.faces, rfl⟩

/-- Methods that keep a record of their calls are alike if they are without. -/
theorem CallsAlike.marked {hook : Hook σ} {hook' : Hook σ'}
    (h : CallsAlike keeps s₀ R R' context f d hook hook') (note : List Value → Note) :
    CallsAlike keeps s₀ (Noted R) (Noted R') context f d
      (fun args => do Act.mark (note args); (hook args).unmarked)
      (fun args => do Act.mark (note args); (hook' args).unmarked) := by
  intro s s' hs hs' w v hw
  obtain ⟨reply, reply', hc, hc', hclass, hafter⟩ := h s s' hs hs' _ _ hw.forget
  rw [runOn_markedHook, runOn_markedHook, show w.state.2 = v.state.2 from hw.faces.2]
  refine ⟨reply, reply', hc.traced _, hc'.traced _, hclass, ?_⟩
  cases reply with
  | goesOn => exact hafter.traced _
  | fails => exact hafter.traced _

/-- Visitors that keep a record of their calls are alike if they are without. -/
theorem Visitor.Alike.recorded {visitor : Visitor σ} {visitor' : Visitor σ'}
    (h : visitor.Alike keeps s₀ R R' context P visitor') (i : Nat) :
    (visitor.recorded i).Alike keeps s₀ (Noted R) (Noted R') context P (visitor'.recorded i) := by
  intro kind d relayed s s' hs hs'
  rw [recorded_hook?, recorded_hook?]
  refine Act.Pairs.bind (J := fun hook? w hook?' v => MethodsAlike keeps s₀ R R' context P kind d hook? hook?' ∧
      Twin keeps (Noted R) s s' w v) ?_ fun hook? hook?' => Act.pairs_pure fun w v hw => ⟨?_, hw.2⟩
  · intro w v hw
    have hrun := h kind d relayed s s' hs hs' hw.forget
    have hleft : (visitor.hook? ⟨.text kind, d, relayed⟩).unmarked.runOn w = _ :=
      Act.runOn_unmarked (visitor.hook? ⟨.text kind, d, relayed⟩) w.forget w.state.2
    have hright : (visitor'.hook? ⟨.text kind, d, relayed⟩).unmarked.runOn v = _ :=
      Act.runOn_unmarked (visitor'.hook? ⟨.text kind, d, relayed⟩) v.forget v.state.2
    rw [hleft, hright, show w.state.2 = v.state.2 from hw.faces.2]
    revert hrun
    rcases (visitor.hook? ⟨.text kind, d, relayed⟩).runOn w.forget with ⟨halt | hook?, w'⟩
    · rcases (visitor'.hook? ⟨.text kind, d, relayed⟩).runOn v.forget with ⟨halt' | hook?', v'⟩
      · exact False.elim
      · exact False.elim
    · rcases (visitor'.hook? ⟨.text kind, d, relayed⟩).runOn v.forget with ⟨halt' | hook?', v'⟩
      · exact False.elim
      · exact fun h => ⟨h.1, h.2.traced _⟩
  · obtain ⟨hhook, -⟩ := hw
    cases hhook with
    | none => exact .none
    | some hcalls => exact .some fun f hf hp => (hcalls f hf hp).marked _

/-- Notes before the calls of two visitors. -/
theorem Visitor.Alike.announced {visitor : Visitor (σ × List Note)}
    {visitor' : Visitor (σ' × List Note)}
    (h : visitor.Alike keeps s₀ (Noted R) (Noted R') context P visitor')
    (note : Lookup → List Value → Note) :
    (visitor.announced fun lookup args => Act.mark (note lookup args)).Alike keeps s₀ (Noted R)
      (Noted R') context P (visitor'.announced fun lookup args => Act.mark (note lookup args)) := by
  intro kind d relayed s s' hs hs'
  refine (h kind d relayed s s' hs hs').bind fun hook? hook?' => Act.pairs_pure fun w v hw =>
    ⟨?_, hw.2⟩
  obtain ⟨hhook, -⟩ := hw
  cases hhook with
  | none => exact .none
  | some hcalls =>
    refine .some fun f hf hp s s' hs hs' w v hw => ?_
    refine hcalls f hf hp s s' hs hs' (w.forget.traced (w.state.2 ++ [_]))
      (v.forget.traced (v.state.2 ++ [_])) ⟨hw.left, hw.right, hw.faces.1, ?_⟩
    exact congrArg (· ++ _) hw.faces.2

end

/-! ### Walks -/

/-- The frames that a walk from a root can meet. -/
inductive View.Meets (view : View) (table : WalkTable) (root : Value) : Frame → Prop
  | root {kind : String} (h : view.kind? root = some kind) :
    view.Meets table root (.node (.text kind) root)
  | list {v : Value} {key listKind : String} (h : view.Walked table root v key listKind) :
    view.Meets table root (.list listKind)
  | variant {listKind : String} {e : Value} (hv : variants? listKind ≠ none)
    (h : view.Below table root e) : view.Meets table root (.variant listKind e)
  | node {e : Value} {kind : String} (h : view.Below table root e) (hk : view.kind? e = some kind) :
    view.Meets table root (.node (.text kind) e)

theorem View.Stands.meetsBelow {view : View} {keeps : Store → Store → Prop} {s₀ : Store}
    {options : WalkOptions} {root : Value} (hS : view.Stands keeps s₀ options root) :
    view.BelowAll options.table root fun f =>
      Namable options keeps s₀ f ∧ view.Meets options.table root f where
  list h := ⟨hS.namableBelow.list h, .list h⟩
  variant hv h := ⟨hS.namableBelow.variant hv h, .variant hv h⟩
  node h hk := ⟨hS.namableBelow.node h hk, .node h hk⟩

section

variable {σ σ' : Type} (options : WalkOptions) (context root : Value)

/-- The walks of two visitors from two worlds make the same calls, end in the same way and write the
same log, where `recorded` and `recorded'` are the visitors with a record of their calls. -/
structure SameWalks (w : World σ) (v : World σ') (visitor : Visitor σ)
    (recorded : Visitor (σ × List Note)) (visitor' : Visitor σ')
    (recorded' : Visitor (σ' × List Note)) : Prop where
  calls : ∃ notes,
    (walk options recorded context root).runOn (w.traced []) =
      (((walk options visitor context root).runOn w).1,
        ((walk options visitor context root).runOn w).2.traced notes) ∧
    (walk options recorded' context root).runOn (v.traced []) =
      (((walk options visitor' context root).runOn v).1,
        ((walk options visitor' context root).runOn v).2.traced notes)
  log : ((walk options visitor context root).runOn w).2.log =
    ((walk options visitor' context root).runOn v).2.log
  outcome : match (walk options visitor context root).runOn w,
      (walk options visitor' context root).runOn v with
    | (.ok _, _), (.ok _, _) => True
    | (.error halt, w'), (.error halt', v') =>
      ∃ failed, Failed.Seen w'.store halt failed ∧ Failed.Seen v'.store halt' failed
    | _, _ => False

/-- States that are related, where the logs are the same. -/
def Beside (R : σ → σ' → Prop) (a : Face σ) (b : Face σ') : Prop :=
  R a.1 b.1 ∧ a.2 = b.2

theorem logsTogether_beside (R : σ → σ' → Prop) : LogsTogether (Beside R) :=
  fun lines hr => ⟨hr.1, congrArg (· ++ lines) hr.2⟩

variable {options context root}

/-- Walks with a record of their calls that come out alike. -/
theorem SameWalks.of_walksAlike {w : World σ} {v : World σ'} {visitor : Visitor σ}
    {recorded : Visitor (σ × List Note)} {visitor' : Visitor σ'}
    {recorded' : Visitor (σ' × List Note)} {R : σ → σ' → Prop}
    {T : Face (σ × List Note) → Face (σ' × List Note) → Prop}
    (hT : ∀ {a b}, T a b → Noted (Beside R) a b)
    (hwalk : WalksAlike T (Noted (Beside fun _ _ => True))
      ((walk options recorded context root).runOn (w.traced []))
      ((walk options recorded' context root).runOn (v.traced [])))
    (hrun : ∃ notes, (walk options recorded context root).runOn (w.traced []) =
      (((walk options visitor context root).runOn w).1,
        ((walk options visitor context root).runOn w).2.traced notes))
    (hrun' : ∃ notes, (walk options recorded' context root).runOn (v.traced []) =
      (((walk options visitor' context root).runOn v).1,
        ((walk options visitor' context root).runOn v).2.traced notes)) :
    SameWalks options context root w v visitor recorded visitor' recorded' := by
  obtain ⟨notes, hnotes⟩ := hrun
  obtain ⟨notes', hnotes'⟩ := hrun'
  rw [hnotes, hnotes'] at hwalk
  have hsame : notes = notes' ∧ ((walk options visitor context root).runOn w).2.log =
        ((walk options visitor' context root).runOn v).2.log ∧
      match (walk options visitor context root).runOn w,
        (walk options visitor' context root).runOn v with
      | (.ok _, _), (.ok _, _) => True
      | (.error halt, w'), (.error halt', v') =>
        ∃ failed, Failed.Seen w'.store halt failed ∧ Failed.Seen v'.store halt' failed
      | _, _ => False := by
    revert hwalk
    rcases (walk options visitor context root).runOn w with ⟨halt | _, w'⟩
    · rcases (walk options visitor' context root).runOn v with ⟨halt' | _, v'⟩
      · rintro ⟨failed, lines, a, b, ⟨⟨-, hlogs⟩, hn⟩, ha, hb, hseen, hseen'⟩
        refine ⟨?_, ?_, failed, hseen, hseen'⟩
        · calc notes = a.1.2 := congrArg (·.1.2) ha
            _ = b.1.2 := hn
            _ = notes' := (congrArg (·.1.2) hb).symm
        · calc w'.log = a.2 ++ lines := congrArg (·.2) ha
            _ = b.2 ++ lines := congrArg (· ++ lines) hlogs
            _ = v'.log := (congrArg (·.2) hb).symm
      · exact False.elim
    · rcases (walk options visitor' context root).runOn v with ⟨halt' | _, v'⟩
      · exact False.elim
      · exact fun h => ⟨(hT h).2, (hT h).1.2, trivial⟩
  obtain ⟨rfl, hlog', houtcome⟩ := hsame
  exact ⟨⟨notes, hnotes, hnotes'⟩, hlog', houtcome⟩

variable {keeps : Store → Store → Prop} [IsPreorder Store keeps]
  {s₀ : Store} {R : σ → σ' → Prop} {view : View} {troubles : Troubles} {w : World σ} {v : World σ'}
  (hS : view.Stands keeps s₀ options root) (hT : view.Troubled troubles keeps s₀ options root)
  (hw : keeps s₀ w.store) (hv : keeps s₀ v.store) (hlog : w.log = v.log) (hr : R w.state v.state)
include hS hT hw hv hlog hr

theorem SameWalks.of_alike {visitor : Visitor σ} {recorded : Visitor (σ × List Note)}
    {visitor' : Visitor σ'} {recorded' : Visitor (σ' × List Note)}
    (h : recorded.Alike keeps s₀ (Noted (Beside R)) (Noted (Beside fun _ _ => True)) context
      (view.Meets options.table root) recorded')
    (hrun : ∃ notes, (walk options recorded context root).runOn (w.traced []) =
      (((walk options visitor context root).runOn w).1,
        ((walk options visitor context root).runOn w).2.traced notes))
    (hrun' : ∃ notes, (walk options recorded' context root).runOn (v.traced []) =
      (((walk options visitor' context root).runOn v).1,
        ((walk options visitor' context root).runOn v).2.traced notes)) :
    SameWalks options context root w v visitor recorded visitor' recorded' := by
  have hlogs : LogsTogether (Noted (Beside R)) := LogsTogether.noted (logsTogether_beside R)
  have halongside : Alongside options context keeps s₀ recorded recorded' _ _ _ _ :=
    h.alongside hlogs fun hr => ⟨⟨trivial, hr.1.2⟩, hr.2⟩
  refine .of_walksAlike (T := Noted (Beside R)) id ?_ hrun hrun'
  exact halongside.walk hS hT hS.meetsBelow (fun kind hk =>
      have hmet := ⟨⟨⟨kind, rfl⟩, fun hd => hS.nodeText hd .root⟩, .root hk⟩
      ⟨hmet, h.stepsPair hlogs hmet.1 hmet.2 .enter⟩)
    (w := w.traced []) (v := v.traced []) hw hv ⟨⟨hr, hlog⟩, rfl⟩

omit [IsPreorder Store keeps] hS hT hr in
/-- A root that is refused ends both walks before the first call. -/
theorem SameWalks.of_refused {failed : Failed}
    (hrefused : FailsAs keeps s₀ (Action.checkRoot root).perform failed) (visitor : Visitor σ)
    (recorded : Visitor (σ × List Note)) (visitor' : Visitor σ')
    (recorded' : Visitor (σ' × List Note)) :
    SameWalks options context root w v visitor recorded visitor' recorded' := by
  have hwalk {τ : Type} (visitor : Visitor τ) {w : World τ} {halt : Halt} {s : Store}
      (hr : (Action.checkRoot root).perform.runOn w.store = (.error halt, s)) :
      (walk options visitor context root).runOn w = (.error halt, { w with store := s }) := by
    have hcheck : (liftM (Action.checkRoot root) : Act τ Unit).runOn w =
        (.error halt, { w with store := s }) := by
      rw [Act.runOn_action, hr]
    exact Act.runOn_bind_error hcheck _
  obtain ⟨halt, s, hl, -, hseen⟩ := hrefused w.store hw
  obtain ⟨halt', s', hl', -, hseen'⟩ := hrefused v.store hv
  refine ⟨⟨[], ?_, ?_⟩, ?_, ?_⟩
  · rw [hwalk visitor hl]
    exact hwalk recorded hl
  · rw [hwalk visitor' hl']
    exact hwalk recorded' hl'
  · rw [hwalk visitor hl, hwalk visitor' hl']
    exact hlog
  · rw [hwalk visitor hl, hwalk visitor' hl']
    exact ⟨failed, hseen, hseen'⟩

end

theorem forall₂_mapIdx {α β γ δ : Type} {R : α → β → Prop} {S : γ → δ → Prop} {l : List α}
    {l' : List β} (h : List.Forall₂ R l l') {f : Nat → α → γ} {g : Nat → β → δ}
    (hfg : ∀ i a b, R a b → S (f i a) (g i b)) :
    List.Forall₂ S (l.mapIdx f) (l'.mapIdx g) := by
  induction h generalizing f g with
  | nil => exact .nil
  | cons hab _ ih =>
    rw [List.mapIdx_cons, List.mapIdx_cons]
    exact .cons (hfg 0 _ _ hab) (ih fun i => hfg (i + 1))

section

variable {σ σ' : Type} {options : WalkOptions} {context root : Value}
  {keeps : Store → Store → Prop} [IsPreorder Store keeps] {s₀ : Store} {R : σ → σ' → Prop}
  {view : View} {troubles : Troubles} {w : World σ} {v : World σ'}

/-- **Only the class of an outcome matters.** If two visitors define the same methods, and their
methods come out in the same class when they are called from related states, then their walks make
the same calls, end in the same way and write the same log. So do the walks of both in lockstep with
companions. -/
theorem walks_alike {visitor : Visitor σ} {visitor' : Visitor σ'}
    (hroot : (view.Stands keeps s₀ options root ∧ view.Troubled troubles keeps s₀ options root) ∨
      ∃ failed, FailsAs keeps s₀ (Action.checkRoot root).perform failed)
    (h : visitor.Alike keeps s₀ (Beside R) (Beside fun _ _ => True) context
      (view.Meets options.table root) visitor')
    (hw : keeps s₀ w.store) (hv : keeps s₀ v.store) (hlog : w.log = v.log)
    (hr : R w.state v.state) :
    SameWalks options context root w v visitor (visitor.recorded 0) visitor' (visitor'.recorded 0) ∧
    ∀ (books : Part σ Bookkeeping) (books' : Part σ' Bookkeeping) (before after : List (Visitor σ))
      (before' after' : List (Visitor σ')), SharesBooks books books' (Beside R) →
      List.Forall₂ (Visitor.Alike keeps s₀ (Beside R) (Beside fun _ _ => True) context
        (view.Meets options.table root)) before before' →
      List.Forall₂ (Visitor.Alike keeps s₀ (Beside R) (Beside fun _ _ => True) context
        (view.Meets options.table root)) after after' →
      SameWalks options context root w v
        (lockstep books (before ++ visitor :: after))
        (recordedLockstep books (before ++ visitor :: after))
        (lockstep books' (before' ++ visitor' :: after'))
        (recordedLockstep books' (before' ++ visitor' :: after')) := by
  rcases hroot with ⟨hS, hT⟩ | ⟨failed, hrefused⟩
  · refine ⟨?alone, fun books books' before after before' after' hbooks hbefore hafter => ?together⟩
    case alone =>
      obtain ⟨notes, hrun, -⟩ := recorded_run options context root w 0 visitor
      obtain ⟨notes', hrun', -⟩ := recorded_run options context root v 0 visitor'
      exact .of_alike hS hT hw hv hlog hr (h.recorded 0) ⟨notes, hrun⟩ ⟨notes', hrun'⟩
    case together =>
      have hall : List.Forall₂ (Visitor.Alike keeps s₀ (Beside R) (Beside fun _ _ => True) context
          (view.Meets options.table root)) (before ++ visitor :: after)
          (before' ++ visitor' :: after') := List.rel_append hbefore (.cons h hafter)
      have hrecorded := forall₂_mapIdx hall fun i _ _ h => h.recorded i
      exact .of_alike hS hT hw hv hlog hr
        ((alike_lockstep hbooks.noted hrecorded).announced (noteOf none))
        (recordedLockstep_run options context root w books _)
        (recordedLockstep_run options context root v books' _)
  · exact ⟨.of_refused hw hv hlog hrefused .., fun _ _ _ _ _ _ _ _ _ =>
      .of_refused hw hv hlog hrefused ..⟩

end

/-! ### A skipped object -/

/-- A visitor with one method, where nodes of a kind are entered. -/
def entering {σ : Type} (kind : String) (run : Act σ Value) : Visitor σ where
  hook? lookup := return (if lookup.kind = .text kind ∧ lookup.direction = .enter then
      some fun _ => run
    else none)

/-- Visitors with one method each are alike if their methods are. -/
theorem entering_alike {σ σ' : Type} {keeps : Store → Store → Prop} {s₀ : Store}
    {R R' : Face σ → Face σ' → Prop} {context : Value} {P : Frame → Prop} {kind : String}
    {run : Act σ Value} {run' : Act σ' Value}
    (h : ∀ f : Frame, f.kind = .text kind →
      CallsAlike keeps s₀ R R' context f .enter (fun _ => run) (fun _ => run')) :
    (entering kind run).Alike keeps s₀ R R' context P (entering kind run') := by
  intro asked d relayed s s' hs hs' w v hw
  refine ⟨?_, hw⟩
  change MethodsAlike keeps s₀ R R' context P asked d
    (if Value.text asked = .text kind ∧ d = .enter then some fun _ => run else none)
    (if Value.text asked = .text kind ∧ d = .enter then some fun _ => run' else none)
  by_cases hasked : Value.text asked = .text kind ∧ d = .enter
  · rw [if_pos hasked, if_pos hasked]
    obtain ⟨hkind, rfl⟩ := hasked
    exact .some fun f hf _ => h f (hf.trans hkind)
  · rw [if_neg hasked, if_neg hasked]
    exact .none

/-- Visitors that raise the same error are alike. -/
theorem raisingVisitor_alike {σ σ' : Type} {R R' : Face σ → Face σ' → Prop}
    (hfalls : ∀ {a b}, R a b → R' a b) {s₀ : Store} (hc : s₀.classAttrs = []) {context : Value}
    {P : Frame → Prop} (kind : String) {text : String} (ht : text ≠ "") :
    (raisingVisitor kind text : Visitor σ).Alike Store.Grows s₀ R R' context P
      (raisingVisitor kind text : Visitor σ') := by
  refine entering_alike fun f hf s s' hs hs' w v hw => ?_
  have hdoomed {s s₁ : Store} (hs : s₀.Grows s) (hs₁ : s.Grows s₁) :
      Dooms Store.Grows f .enter (.raised (.report text [(hookStage .enter f).text]
        (f.node?.getD .null) (some (.error .badValue)))) (.raised s₁.size)
        (s₁.alloc (.error (.ofArgs .badValue [.text text]))).2 := by
    have hg := s₁.grows_alloc (.error (.ofArgs .badValue [.text text]))
    have herror : (s₁.alloc (.error (.ofArgs .badValue [.text text]))).2.TextError s₁.size
        .badValue text :=
      ⟨((trans_of Store.Grows hs (trans_of Store.Grows hs₁ hg)).classAttrs).trans hc, s₁.get?_alloc _,
        rfl, by decide⟩
    exact .inr (herror.doomed rfl ht hf .enter)
  exact ⟨.fails _, .fails _, hdoomed hs hw.left, hdoomed hs' hw.right, rfl,
    trans_of Store.Grows hw.left (w.store.grows_alloc _),
    trans_of Store.Grows hw.right (v.store.grows_alloc _), hfalls hw.faces⟩

/-- A visitor that skips object definitions by its answer, one that does so by a signal, and a
companion of both that fails for a field. -/
theorem walks_alike_smallSchema :
    let skips : Visitor Bookkeeping := entering "object_definition" (pure .skip)
    let signals : Visitor Bookkeeping := entering "object_definition" signalPrune
    let fails : Visitor Bookkeeping := raisingVisitor "object_field_definition" "boom"
    let start : World Bookkeeping := ⟨.smallSchema, [], .fresh 2⟩
    SameWalks .standard .null (.ref 0) start start skips (skips.recorded 0) signals
      (signals.recorded 0) ∧
    SameWalks .standard .null (.ref 0) start start
      (lockstep ⟨id, fun b _ => b⟩ [skips, fails])
      (recordedLockstep ⟨id, fun b _ => b⟩ [skips, fails])
      (lockstep ⟨id, fun b _ => b⟩ [signals, fails])
      (recordedLockstep ⟨id, fun b _ => b⟩ [signals, fails]) := by
  intro skips signals fails start
  have htroubled : Store.smallSchema.view.Troubled _ Store.Grows _ .standard (.ref 0) :=
    Store.view_troubled Store.treeKeeping_grows Store.smallSchema_ordinary rfl rfl
      ⟨fun _ => .tooDeep, fun _ _ => .tooDeep, fun _ _ => .tooDeep⟩
  have hattrs {s s' : Store} (hs : Store.smallSchema.Grows s) (hs' : s.Grows s') :
      s'.classAttrs = [] := hs'.classAttrs.trans hs.classAttrs
  have hskips : skips.Alike Store.Grows .smallSchema (Beside Eq) (Beside fun _ _ => True) .null
      (Store.smallSchema.view.Meets WalkOptions.standard.table (.ref 0)) signals := by
    refine entering_alike fun f hf s s' hs hs' w v hw => ?_
    have hg := v.store.grows_alloc (.error pruneError)
    have hclass := hattrs hs' (trans_of Store.Grows hw.right hg)
    have hget : (v.store.alloc (.error pruneError)).2.get? v.store.size = some (.error pruneError) :=
      v.store.get?_alloc _
    exact ⟨.goesOn true, .goesOn true, rfl,
      ⟨isErrorOf_pruneError hget, _, runOn_pruneSignal hclass hget, refl_of Store.Grows _⟩, rfl,
      hw.left, trans_of Store.Grows hw.right hg, hw.faces⟩
  have hfails : fails.Alike Store.Grows .smallSchema (Beside Eq) (Beside fun _ _ => True) .null
      (Store.smallSchema.view.Meets WalkOptions.standard.table (.ref 0)) fails :=
    raisingVisitor_alike (fun hr => ⟨trivial, hr.2⟩) rfl _ (by decide)
  obtain ⟨halone, htogether⟩ := walks_alike (w := start) (v := start)
    (.inl ⟨Store.smallSchema_stands, htroubled⟩) hskips (refl_of Store.Grows _)
    (refl_of Store.Grows _) rfl rfl
  refine ⟨halone, htogether _ _ [] [fails] [] [fails] ⟨?_, ?_⟩ .nil (.cons hfails .nil)⟩
  · exact fun hr => hr.1
  · exact fun x hr => ⟨rfl, hr.2⟩

end GraphQLTree
