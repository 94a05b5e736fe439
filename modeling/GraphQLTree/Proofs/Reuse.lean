import GraphQLTree.Node.Declaration
import GraphQLTree.Proofs.LockstepCalls
import GraphQLTree.Proofs.Simulation

/-! # Visitors in lockstep that are used again

A walk that is aborted leaves a bookkeeping behind. Visitors in lockstep that are used again drop it
when a document or a schema is entered: from there on, what they do is told by the depth and by the
marks of the latest round, and both start anew. So a walk from a root of these kinds makes the same
calls and ends in the same way as with a new bookkeeping, whatever walks were made before and however
they ended (`walk_reused`).

A root of another kind drops nothing. There are such roots: a class derived from that of documents
has a kind of its own (`walk_reused_derived`). -/

namespace GraphQLTree

/-! ### Parts of a state -/

section

variable {σ α β : Type}

/-- What is set is what is read then, and it is all that is changed. -/
structure Part.Lawful (part : Part σ β) : Prop where
  get_set : ∀ b state, part.get (part.set b state) = b
  set_get : ∀ state, part.set (part.get state) state = state
  set_set : ∀ b b' state, part.set b (part.set b' state) = part.set b state

/-- A world with another part of the state. -/
def Part.put (part : Part σ β) (b : β) (w : World σ) : World σ :=
  { w with state := part.set b w.state }

/-- A step that neither looks at a part of the state nor changes it. -/
def Act.Aloof (part : Part σ β) (act : Act σ α) : Prop :=
  ∀ w b, act.runOn (part.put b w) = ((act.runOn w).1, part.put b (act.runOn w).2)

/-- A visitor whose methods leave a part of the state alone. -/
structure Visitor.Aloof (part : Part σ β) (visitor : Visitor σ) : Prop where
  lookup : ∀ lookup, Act.Aloof part (visitor.hook? lookup)
  method : ∀ {lookup w hook w'}, (visitor.hook? lookup).runOn w = (.ok (some hook), w') →
    ∀ args, Act.Aloof part (hook args)

/-- The worlds differ in a part of the state only, in which they are related by `Q`. -/
def Apart (part : Part σ β) (Q : β → β → Prop) (w v : World σ) : Prop :=
  ∃ b, v = part.put b w ∧ Q (part.get w.state) b

variable {part : Part σ β} {Q Q' : β → β → Prop} {F : World σ → World σ → Prop}

theorem Apart.mono (hQ : ∀ b b', Q b b' → Q' b b') {w v : World σ} (h : Apart part Q w v) :
    Apart part Q' w v := by
  obtain ⟨b, hv, hb⟩ := h
  exact ⟨b, hv, hQ _ _ hb⟩

theorem steady_apart (part : Part σ β) (Q : β → β → Prop) : Steady (Apart part Q) where
  store := fun ⟨_, hv, _⟩ => hv ▸ rfl
  log := fun ⟨_, hv, _⟩ => hv ▸ rfl
  change := by
    rintro w _ ⟨b, rfl, hb⟩ s log
    exact ⟨b, rfl, hb⟩

variable (hpart : part.Lawful)
include hpart

theorem Act.Aloof.get_eq {act : Act σ α} (h : act.Aloof part) (w : World σ) :
    part.get (act.runOn w).2.state = part.get w.state := by
  have hsame : part.put (part.get w.state) w = w := by
    unfold Part.put
    rw [hpart.set_get]
  have hw := h w (part.get w.state)
  rw [hsame] at hw
  have hstate := congrArg (fun o => part.get o.2.state) hw
  exact hstate.trans (hpart.get_set _ _)

/-- What leaves a part of the state alone does the same on both sides. -/
theorem Act.Aloof.mirrors {act : Act σ α} (h : act.Aloof part) :
    Mirrors (Apart part Q) (Apart part Q) (Apart part Q) act act := by
  rintro w _ ⟨b, rfl, hb⟩
  have hapart : Apart part Q (act.runOn w).2 (part.put b (act.runOn w).2) := by
    refine ⟨b, rfl, ?_⟩
    rw [h.get_eq hpart]
    exact hb
  rw [h w b]
  revert hapart
  rcases act.runOn w with ⟨e | a, w'⟩
  · exact fun hapart => ⟨rfl, hapart⟩
  · exact fun hapart => ⟨rfl, hapart⟩

theorem mirrors_change {f f' : β → β} (hf : ∀ b b', Q b b' → Q' (f b) (f' b')) :
    Act.Mirrors (Apart part Q) (Apart part Q') F (part.change f) (part.change f') := by
  rintro w _ ⟨b, rfl, hb⟩
  refine ⟨rfl, f' b, ?_, ?_⟩
  · unfold Part.put
    dsimp only
    rw [hpart.get_set, hpart.set_set, hpart.set_set]
  · dsimp only
    rw [hpart.get_set]
    exact hf _ _ hb

theorem matches_read :
    Act.Matches (Apart part Q)
      (fun b b' w v => Q b b' ∧ Apart part (fun c c' => c = b ∧ c' = b') w v) F part.read
      part.read := by
  rintro w _ ⟨b, rfl, hb⟩
  have hget : part.get (part.put b w).state = b := hpart.get_set b w.state
  refine ⟨?_, b, rfl, rfl, hget.symm⟩
  rw [hget]
  exact hb

end

/-! ### Bookkeepings that are alike -/

namespace Bookkeeping

/-- What later steps depend on is the same: the depth and the marks of the latest round. -/
def Alike (b b' : Bookkeeping) : Prop :=
  b.depth = b'.depth ∧ b.skipping = b'.skipping

/-- Bookkeepings that are alike, with these numbers of the latest round. -/
def AlikeIn (round round' : Nat) (b b' : Bookkeeping) : Prop :=
  b.Alike b' ∧ b.round = round ∧ b'.round = round'

variable {b b' : Bookkeeping} {round round' : Nat}

theorem alike_restart (b b' : Bookkeeping) (count : Nat) :
    (b.restart count).Alike (b'.restart count) := by
  refine ⟨rfl, ?_⟩
  unfold skipping
  rw [(marked_restart b count).round_eq, (marked_restart b' count).round_eq,
    (marked_restart b count).marks_eq, (marked_restart b' count).marks_eq]

theorem Alike.shift (h : b.Alike b') (n : Int) :
    Alike { b with depth := b.depth + n } { b' with depth := b'.depth + n } :=
  ⟨congrArg (· + n) h.1, h.2⟩

theorem AlikeIn.marks_eq (h : b.AlikeIn round round' b') : b.marks round = b'.marks round' := by
  obtain ⟨⟨-, hs⟩, rfl, rfl⟩ := h
  exact hs

theorem AlikeIn.mark_eq (h : b.AlikeIn round round' b') (i : Nat) :
    b.mark round i = b'.mark round' i := by
  unfold mark
  rw [h.marks_eq]

theorem round_setMark (b : Bookkeeping) (round i : Nat) (mark : Int) :
    (b.setMark round i mark).round = b.round := by
  unfold setMark Bookkeeping.round
  rw [List.length_modify]

theorem marks_setMark (b : Bookkeeping) (round i : Nat) (mark : Int) :
    (b.setMark round i mark).marks round = (b.marks round).set i mark := by
  unfold setMark marks
  rw [List.getElem?_modify_eq]
  cases b.rounds[round]? with
  | none => rfl
  | some marks => rfl

theorem AlikeIn.setMark (h : b.AlikeIn round round' b') (i : Nat) (mark : Int) :
    (b.setMark round i mark).AlikeIn round round' (b'.setMark round' i mark) := by
  obtain ⟨⟨hd, hs⟩, rfl, rfl⟩ := h
  refine ⟨⟨hd, ?_⟩, round_setMark .., round_setMark ..⟩
  unfold skipping at hs ⊢
  rw [round_setMark, round_setMark, marks_setMark, marks_setMark, hs]

end Bookkeeping

/-! ### Steps of visitors in lockstep -/

section

variable {σ : Type} {books : Part σ Bookkeeping} (hbooks : books.Lawful)

/-- The worlds differ in the bookkeeping, which is alike. -/
abbrev Abreast (books : Part σ Bookkeeping) : World σ → World σ → Prop :=
  Apart books Bookkeeping.Alike

/-- The worlds differ in the bookkeeping, which is alike, with these numbers of the latest round. -/
abbrev AbreastIn (books : Part σ Bookkeeping) (round round' : Nat) : World σ → World σ → Prop :=
  Apart books (Bookkeeping.AlikeIn round round')

theorem AbreastIn.abreast {round round' : Nat} {w v : World σ}
    (h : AbreastIn books round round' w v) : Abreast books w v :=
  h.mono fun _ _ h => h.1

/-- The methods leave the bookkeeping alone. -/
def HookAloof (books : Part σ Bookkeeping) (hook? : Option (Hook σ)) : Prop :=
  ∀ hook, hook? = some hook → ∀ args, Act.Aloof books (hook args)

include hbooks

/-- The error of a member is judged before it is raised again. -/
theorem mirrors_judge {Q : Bookkeeping → Bookkeeping → Prop} {act : Act σ Value}
    (h : act.Aloof books) :
    Act.Mirrors (Apart books Q) (Apart books Q) (Apart books Q) (Act.judge act Lockstep.rethrow)
      (Act.judge act Lockstep.rethrow) :=
  Act.Matches.judge (steady_apart books Q) (h.mirrors hbooks) fun _ =>
    Act.mirrors_throw _ fun _ _ => id

/-- What is done with what is read. -/
theorem mirrors_reading {α β : Type} {Q : Bookkeeping → Bookkeeping → Prop} {F : _ → _ → Prop}
    {P : α → β → World σ → World σ → Prop} {f : Bookkeeping → Act σ α} {g : Bookkeeping → Act σ β}
    (h : ∀ b b', Q b b' → Act.Matches (Apart books Q) P F (f b) (g b')) :
    Act.Matches (Apart books Q) P F (books.read >>= f) (books.read >>= g) := by
  refine Act.Matches.bind (matches_read hbooks) fun b b' w v ⟨hb, hw⟩ => ?_
  exact h b b' hb w v (hw.mono fun _ _ h => h.1 ▸ h.2 ▸ hb)

/-- What is done with what is read, in the rounds that were read. -/
theorem mirrors_readingRound {α β : Type} {F : _ → _ → Prop} {P : α → β → World σ → World σ → Prop}
    {f : Bookkeeping → Act σ α} {g : Bookkeeping → Act σ β}
    (h : ∀ b b', b.Alike b' → Act.Matches (AbreastIn books b.round b'.round) P F (f b) (g b')) :
    Act.Matches (Abreast books) P F (books.read >>= f) (books.read >>= g) := by
  refine Act.Matches.bind (matches_read hbooks) fun b b' w v ⟨hb, hw⟩ => ?_
  refine h b b' hb w v (hw.mono ?_)
  rintro _ _ ⟨rfl, rfl⟩
  exact ⟨hb, rfl, rfl⟩

variable {round round' i : Nat} {depth : Int} {hook? : Option (Hook σ)} (args : List Value)

theorem mirrors_enterMember (hh : HookAloof books hook?) :
    Act.Mirrors (AbreastIn books round round') (AbreastIn books round round') (Abreast books)
      (Lockstep.enterMember books round depth args i hook?)
      (Lockstep.enterMember books round' depth args i hook?) := by
  unfold Lockstep.enterMember
  cases hook? with
  | none => exact Act.matches_pure fun _ _ hw => ⟨rfl, hw⟩
  | some hook =>
    refine mirrors_reading hbooks fun b b' hb => ?_
    rw [hb.mark_eq]
    split
    · refine Act.Mirrors.bind ((mirrors_judge hbooks (hh hook rfl args)).weaken (fun _ _ _ _ => id)
        fun _ _ => AbreastIn.abreast) fun pruned => ?_
      split
      · exact mirrors_change hbooks fun _ _ h => h.setMark i depth
      · exact Act.matches_pure fun _ _ hw => ⟨rfl, hw⟩
    · exact Act.matches_pure fun _ _ hw => ⟨rfl, hw⟩

/-- What is done for a member when a step is left, after its mark is set back. -/
theorem mirrors_leaveHook : HookAloof books hook? →
    Act.Mirrors (AbreastIn books round round') (AbreastIn books round round') (Abreast books)
      (match hook? with
        | none => return ()
        | some hook =>
          do if (← books.read).mark round i = 0 then
            discard (Act.judge (hook args) Lockstep.rethrow) : Act σ Unit)
      (match hook? with
        | none => return ()
        | some hook =>
          do if (← books.read).mark round' i = 0 then
            discard (Act.judge (hook args) Lockstep.rethrow)) := by
  intro hh
  cases hook? with
  | none => exact Act.matches_pure fun _ _ hw => ⟨rfl, hw⟩
  | some hook =>
    refine mirrors_reading hbooks fun b b' hb => ?_
    rw [hb.mark_eq]
    split
    · refine Act.Mirrors.bind ((mirrors_judge hbooks (hh hook rfl args)).weaken (fun _ _ _ _ => id)
        fun _ _ => AbreastIn.abreast) fun _ => ?_
      exact Act.matches_pure fun _ _ hw => ⟨rfl, hw⟩
    · exact Act.matches_pure fun _ _ hw => ⟨rfl, hw⟩

theorem mirrors_leaveMember (hh : HookAloof books hook?) :
    Act.Mirrors (AbreastIn books round round') (AbreastIn books round round') (Abreast books)
      (Lockstep.leaveMember books round depth args i hook?)
      (Lockstep.leaveMember books round' depth args i hook?) := by
  unfold Lockstep.leaveMember
  refine mirrors_reading hbooks fun b b' hb => ?_
  rw [hb.mark_eq]
  dsimp only
  split
  · refine Act.Mirrors.bind (mirrors_change hbooks fun _ _ h => h.setMark i 0) fun _ => ?_
    exact mirrors_leaveHook hbooks args hh
  · exact mirrors_leaveHook hbooks args hh

variable {hooks : List (Option (Hook σ))} (hall : ∀ hook? ∈ hooks, HookAloof books hook?)
include hall

omit hbooks in
/-- A loop over the methods of all members. -/
theorem mirrors_members {body body' : Nat → Option (Hook σ) → Act σ Unit}
    {P F : World σ → World σ → Prop}
    (h : ∀ i hook?, HookAloof books hook? → Act.Mirrors P P F (body i hook?) (body' i hook?)) :
    Act.Mirrors P P F (hooks.zipIdx.forM fun (hook?, i) => body i hook?)
      (hooks.zipIdx.forM fun (hook?, i) => body' i hook?) := by
  refine Act.mirrors_forM fun (hook?, i) hm => h i hook? (hall hook? ?_)
  obtain ⟨-, -, hget⟩ := List.mem_zipIdx hm
  rw [hget]
  exact List.getElem_mem _

theorem hooksMatch_enter :
    HooksMatch (Abreast books) (Abreast books) (Lockstep.enter books hooks)
      (Lockstep.enter books hooks) := by
  intro args
  refine Act.Mirrors.bind (mirrors_change hbooks fun _ _ h => h.shift 1) fun _ => ?_
  refine mirrors_readingRound hbooks fun b b' hb => ?_
  rw [hb.1]
  refine Act.Mirrors.bind (mirrors_members hall fun i hook? hh =>
    mirrors_enterMember hbooks args hh) fun _ => ?_
  refine mirrors_reading hbooks fun c c' hc => ?_
  rw [hc.marks_eq]
  exact Act.matches_pure fun _ _ hw => ⟨rfl, AbreastIn.abreast hw⟩

theorem hooksMatch_leave :
    HooksMatch (Abreast books) (Abreast books) (Lockstep.leave books hooks)
      (Lockstep.leave books hooks) := by
  intro args
  refine mirrors_readingRound hbooks fun b b' hb => ?_
  rw [hb.1]
  refine Act.Mirrors.bind (S := AbreastIn books b.round b'.round) (mirrors_change hbooks fun _ _ h =>
    ⟨h.1.shift (-1), h.2⟩) fun _ => ?_
  refine Act.Mirrors.bind (mirrors_members hall fun i hook? hh =>
    mirrors_leaveMember hbooks args hh) fun _ => ?_
  exact Act.matches_pure fun _ _ hw => ⟨rfl, AbreastIn.abreast hw⟩

end

/-! ### Walks of visitors in lockstep -/

section

variable {σ : Type} {books : Part σ Bookkeeping} (hbooks : books.Lawful)
  {members : List (Visitor σ)} (hmembers : ∀ v ∈ members, v.Aloof books)
  {before : Lookup → List Value → Act σ Unit} (hbefore : ∀ lookup args, (before lookup args).Aloof books)

/-- The worlds differ in the bookkeeping only. -/
abbrev Differ (books : Part σ Bookkeeping) : World σ → World σ → Prop :=
  Apart books fun _ _ => True

theorem Differ.of_abreast {w v : World σ} (h : Abreast books w v) : Differ books w v :=
  h.mono fun _ _ _ => trivial

/-- What is found by a look-up on both sides: methods of visitors in lockstep. -/
def FoundAbreast (books : Part σ Bookkeeping) (hook? hook?' : Option (Hook σ)) (w v : World σ) : Prop :=
  Abreast books w v ∧ ∃ hook hook', hook? = some hook ∧ hook?' = some hook' ∧
    HooksMatch (Abreast books) (Abreast books) hook hook'

include hbooks

/-- A method is found on both sides, or on none. -/
theorem matches_lookup {Q : Bookkeeping → Bookkeeping → Prop} {visitor : Visitor σ}
    (h : visitor.Aloof books) (lookup : Lookup) :
    Act.Matches (Apart books Q)
      (fun hook? hook?' w v => hook? = hook?' ∧ HookAloof books hook? ∧ Apart books Q w v)
      (Apart books Q) (visitor.hook? lookup) (visitor.hook? lookup) := by
  intro w v hw
  have hm := (h.lookup lookup).mirrors hbooks w v hw
  revert hm
  rcases hr : (visitor.hook? lookup).runOn w with ⟨e | hook?, w'⟩
  · rcases (visitor.hook? lookup).runOn v with ⟨e' | hook?', v'⟩
    · exact id
    · exact id
  · rcases (visitor.hook? lookup).runOn v with ⟨e' | hook?', v'⟩
    · exact id
    · refine fun ⟨hsame, hw'⟩ => ⟨hsame, fun hook hh => ?_, hw'⟩
      subst hh
      exact h.method hr

include hmembers

theorem matches_lookups {Q : Bookkeeping → Bookkeeping → Prop} (lookup : Lookup) :
    Act.Matches (Apart books Q)
      (fun hooks hooks' w v => hooks = hooks' ∧ (∀ hook? ∈ hooks, HookAloof books hook?) ∧
        Apart books Q w v)
      (Apart books Q) (members.mapM fun v => v.hook? lookup)
      (members.mapM fun v => v.hook? lookup) := by
  induction members with
  | nil => exact Act.matches_pure fun _ _ hw => ⟨rfl, nofun, hw⟩
  | cons v members ih =>
    rw [List.mapM_cons]
    refine Act.Matches.bind (matches_lookup hbooks (hmembers v (List.mem_cons_self ..)) lookup) ?_
    rintro hook? _ w₁ v₁ ⟨rfl, hh, hw₁⟩
    refine Act.Matches.bind (ih fun v hv => hmembers v (List.mem_cons_of_mem _ hv)) ?_ w₁ v₁ hw₁
    rintro hooks _ w₂ v₂ ⟨rfl, hall, hw₂⟩
    exact ⟨rfl, List.forall_mem_cons.mpr ⟨hh, hall⟩, hw₂⟩

/-- The methods of all members are found, and those of the visitors in lockstep do the same. -/
theorem matches_found (lookup : Lookup) :
    Act.Matches (Abreast books) (FoundAbreast books) (Abreast books)
      (do
        let hooks ← members.mapM fun v => v.hook? { lookup with relayed := true }
        return some (match lookup.direction with
          | .enter => Lockstep.enter books hooks
          | .leave => Lockstep.leave books hooks))
      (do
        let hooks ← members.mapM fun v => v.hook? { lookup with relayed := true }
        return some (match lookup.direction with
          | .enter => Lockstep.enter books hooks
          | .leave => Lockstep.leave books hooks)) := by
  refine Act.Matches.bind (matches_lookups hbooks hmembers _) ?_
  rintro hooks _ w v ⟨rfl, hall, hw⟩
  refine ⟨hw, _, _, rfl, rfl, ?_⟩
  cases lookup.direction with
  | enter => exact hooksMatch_enter hbooks hall
  | leave => exact hooksMatch_leave hbooks hall

/-- Where the bookkeeping starts anew, it is alike whatever it was. -/
theorem matches_restart {lookup : Lookup} (hr : Lockstep.restartsAt lookup = true) :
    Act.Matches (Differ books) (FoundAbreast books) (Differ books)
      ((lockstep books members).hook? lookup) ((lockstep books members).hook? lookup) := by
  unfold lockstep
  dsimp only
  rw [if_pos hr]
  refine Act.Mirrors.bind (S := Abreast books) (mirrors_change hbooks fun b b' _ =>
    Bookkeeping.alike_restart b b' _) fun _ => ?_
  exact (matches_found hbooks hmembers lookup).weaken (fun _ _ _ _ => id)
    fun _ _ => Differ.of_abreast

theorem matches_hook (lookup : Lookup) :
    Act.Matches (Abreast books) (FoundAbreast books) (Differ books)
      ((lockstep books members).hook? lookup) ((lockstep books members).hook? lookup) := by
  by_cases hr : Lockstep.restartsAt lookup = true
  · exact (matches_restart hbooks hmembers hr).mono fun _ _ => Differ.of_abreast
  · unfold lockstep
    dsimp only
    rw [if_neg hr]
    exact (matches_found hbooks hmembers lookup).weaken (fun _ _ _ _ => id)
      fun _ _ => Differ.of_abreast

include hbefore

omit hmembers in
theorem matches_announced {P F : World σ → World σ → Prop} {visitor : Visitor σ} {lookup : Lookup}
    (h : Act.Matches P (FoundAbreast books) F (visitor.hook? lookup) (visitor.hook? lookup)) :
    Act.Matches P (FoundAbreast books) F ((visitor.announced before).hook? lookup)
      ((visitor.announced before).hook? lookup) := by
  refine Act.Matches.bind h ?_
  rintro _ _ w v ⟨hw, hook, hook', rfl, rfl, hh⟩
  refine ⟨hw, _, _, rfl, rfl, fun args => ?_⟩
  exact Act.Mirrors.bind ((hbefore lookup args).mirrors hbooks) fun _ => hh args

variable (options : WalkOptions) (context : Value)

theorem stepsMatch_lockstep :
    StepsMatch options ((lockstep books members).announced before)
      ((lockstep books members).announced before) context (fun _ => Abreast books)
      (Differ books) where
  steady _ := steady_apart books _
  failed := steady_apart books _
  fails := Differ.of_abreast
  enter f _ _ := mirrors_enterStep (steady_apart books _) options context f.kind f.node?
    (fun _ _ => Differ.of_abreast)
    (matches_announced hbooks hbefore (matches_hook hbooks hmembers _))
  leave f _ _ := mirrors_leaveStep (steady_apart books _) context f.kind f.node?
    (fun _ _ => Differ.of_abreast)
    (matches_announced hbooks hbefore (matches_hook hbooks hmembers _))

/-- A walk from a document or a schema does the same with every bookkeeping. -/
theorem mirrors_walk (root : Value) :
    Act.Mirrors (fun w v => Differ books w v ∧ w.store.RootKind root fun kind =>
        kind = .text "document" ∨ kind = .text "schema") (Abreast books) (Differ books)
      (walk options ((lockstep books members).announced before) context root)
      (walk options ((lockstep books members).announced before) context root) := by
  refine matches_walk (stepsMatch_lockstep hbooks hmembers hbefore options context)
    (steady_apart books _) (fun _ _ => id) (fun kind hk => ?_) fun kind => ?_
  · have hr : Lockstep.restartsAt ⟨kind, .enter, false⟩ = true := by
      rcases hk with rfl | rfl
      · rfl
      · rfl
    exact mirrors_enterStep (steady_apart books _) options context kind (some root)
      (fun _ _ => Differ.of_abreast)
      (matches_announced hbooks hbefore (matches_restart hbooks hmembers hr))
  · exact (stepsMatch_lockstep hbooks hmembers hbefore options context).leave (.node kind root)
      (.node kind root) []

end

/-! ### Visitors with a record of their calls -/

section

variable {σ α β γ μ : Type} {part : Part σ β}

theorem Part.Lawful.lifted (h : part.Lawful) : (part.lifted : Part (σ × List μ) β).Lawful where
  get_set b state := h.get_set b state.1
  set_get state := Prod.ext (h.set_get state.1) rfl
  set_set b b' state := Prod.ext (h.set_set b b' state.1) rfl

theorem Act.aloof_pure (a : α) : Act.Aloof part (pure a) := fun _ _ => rfl

theorem Act.Aloof.bind {x : Act σ α} {f : α → Act σ γ} (hx : x.Aloof part)
    (hf : ∀ w a w', x.runOn w = (.ok a, w') → (f a).Aloof part) : (x >>= f).Aloof part := by
  intro w b
  have h := hx w b
  rw [runOn_bind, runOn_bind, h]
  rcases hr : x.runOn w with ⟨e | a, w'⟩
  · rfl
  · exact hf w a w' hr w' b

theorem Act.aloof_mark (m : μ) : Act.Aloof part.lifted (Act.mark m : Act (σ × List μ) Unit) :=
  fun _ _ => rfl

theorem Act.Aloof.unmarked {act : Act σ α} (h : act.Aloof part) :
    Act.Aloof part.lifted (act.unmarked : Act (σ × List μ) α) := by
  intro w b
  have hrun := h w.forget b
  have hleft : (act.unmarked : Act (σ × List μ) α).runOn (part.lifted.put b w) =
      ((act.runOn (part.put b w.forget)).1,
        (act.runOn (part.put b w.forget)).2.traced w.state.2) := rfl
  rw [hleft, hrun]
  rfl

theorem Visitor.Aloof.recorded {visitor : Visitor σ} (h : visitor.Aloof part) (i : Nat) :
    (visitor.recorded i).Aloof part.lifted where
  lookup lookup := by
    rw [recorded_hook?]
    exact (h.lookup lookup).unmarked.bind fun _ _ _ _ => Act.aloof_pure _
  method := by
    intro lookup w hook' w' hr args
    rw [recorded_hook?] at hr
    obtain ⟨hook?, w₁, hr₁, hr₂⟩ := Act.bind_ok_iff.mp hr
    obtain ⟨hook, rfl, rfl⟩ := Option.map_eq_some_iff.mp (Except.ok.inj (congrArg Prod.fst hr₂))
    have houtcome : ((visitor.hook? lookup).runOn w.forget).1 = .ok (some hook) :=
      congrArg Prod.fst hr₁
    exact (Act.aloof_mark _).bind fun _ _ _ _ => (h.method (Prod.ext houtcome rfl) args).unmarked

end

/-! ### Walks one after the other -/

section

variable {σ : Type} {books : Part σ Bookkeeping} {members : List (Visitor σ)}

/-- A walk to be made. -/
structure Outing where
  options : WalkOptions
  context : Value
  root : Value

/-- Makes a walk. -/
def Outing.walk (next : Outing) (visitor : Visitor σ) : Act σ Unit :=
  GraphQLTree.walk next.options visitor next.context next.root

/-- The world after walks with a visitor, one after the other, however they end. -/
def World.after (visitor : Visitor σ) (earlier : List Outing) (w : World σ) : World σ :=
  earlier.foldl (fun w next => ((next.walk visitor).runOn w).2) w

/-- The calls of a walk in lockstep. -/
theorem exists_notes (books : Part σ Bookkeeping) (members : List (Visitor σ)) (next : Outing)
    (w : World σ) :
    ∃ notes, (next.walk (recordedLockstep books members)).runOn (w.traced []) =
      (((next.walk (lockstep books members)).runOn w).1,
        ((next.walk (lockstep books members)).runOn w).2.traced notes) := by
  obtain ⟨notes, -, hrun⟩ := tallies_walk piecewise_inOrder
    (recordedLockstep_tallies books members) next.options next.context next.root w
  refine ⟨notes, ?_⟩
  unfold Outing.walk
  rcases hw : (walk next.options (lockstep books members) next.context next.root).runOn w with
    ⟨e | _, w'⟩
  · rw [hw] at hrun
    exact hrun []
  · rw [hw] at hrun
    obtain ⟨_, -, hrun⟩ := hrun
    exact hrun []

/-- **Nothing is carried over.** After any walks with visitors in lockstep, aborted or not, a walk from
a document or a schema makes the same calls, ends in the same way and leaves the same world behind, but
for the bookkeeping, as if the bookkeeping were new. -/
theorem walk_reused (hbooks : books.Lawful) (hmembers : ∀ v ∈ members, v.Aloof books) (w : World σ)
    (earlier : List Outing) (next : Outing)
    (hroot : (w.after (lockstep books members) earlier).store.RootKind next.root fun kind =>
      kind = .text "document" ∨ kind = .text "schema") :
    ∃ outcome notes w₁ w₂,
      (next.walk (lockstep books members)).runOn (w.after (lockstep books members) earlier) =
        (outcome, w₁) ∧
      (next.walk (recordedLockstep books members)).runOn
        ((w.after (lockstep books members) earlier).traced []) = (outcome, w₁.traced notes) ∧
      (next.walk (lockstep books members)).runOn
        (books.put (.fresh members.length) (w.after (lockstep books members) earlier)) =
        (outcome, w₂) ∧
      (next.walk (recordedLockstep books members)).runOn
        ((books.put (.fresh members.length) (w.after (lockstep books members) earlier)).traced []) =
        (outcome, w₂.traced notes) ∧
      w₂ = books.put (books.get w₂.state) w₁ := by
  generalize w.after (lockstep books members) earlier = start at hroot ⊢
  obtain ⟨notes, hnotes⟩ := exists_notes books members next start
  obtain ⟨notes', hnotes'⟩ := exists_notes books members next
    (books.put (.fresh members.length) start)
  rcases hr₁ : (next.walk (lockstep books members)).runOn start with ⟨outcome, w₁⟩
  rcases hr₂ : (next.walk (lockstep books members)).runOn
    (books.put (.fresh members.length) start) with ⟨outcome', w₂⟩
  rw [hr₁] at hnotes
  rw [hr₂] at hnotes'
  have hmembers' : ∀ v ∈ members.mapIdx fun i v => v.recorded i, v.Aloof books.lifted := by
    intro v' hv
    obtain ⟨i, hi, rfl⟩ := List.mem_mapIdx.mp hv
    exact (hmembers _ (List.getElem_mem hi)).recorded i
  obtain ⟨houtcome, b, hb, -⟩ := (mirrors_walk hbooks.lifted hmembers'
    (fun lookup args => Act.aloof_mark (noteOf none lookup args)) next.options next.context
    next.root).outcome (fun _ _ => Differ.of_abreast) (w := start.traced [])
    (v := (books.put (.fresh members.length) start).traced [])
    ⟨⟨.fresh members.length, rfl, trivial⟩, hroot⟩
  obtain rfl : outcome = outcome' :=
    (congrArg Prod.fst hnotes).symm.trans (houtcome.trans (congrArg Prod.fst hnotes'))
  have hends : w₂.traced notes' = books.lifted.put b (w₁.traced notes) :=
    (congrArg Prod.snd hnotes').symm.trans
      (hb.trans (congrArg (books.lifted.put b) (congrArg Prod.snd hnotes)))
  obtain rfl : notes' = notes := congrArg (fun w => w.state.2) hends
  obtain rfl : w₂ = books.put b w₁ := congrArg World.forget hends
  refine ⟨outcome, notes', w₁, _, rfl, hnotes, rfl, hnotes', ?_⟩
  exact congrArg (fun b => books.put b w₁) (hbooks.get_set b w₁.state).symm

/-- The visitors that a walk in lockstep calls, one call after the other. -/
def Outing.callers (next : Outing) (books : Part σ Bookkeeping) (members : List (Visitor σ))
    (w : World σ) : List Nat :=
  ((next.walk (recordedLockstep books members)).runOn (w.traced [])).2.state.2.filterMap (·.who)

end

/-! ### A walk after an aborted one -/

/-- A bookkeeping beside a number of calls. -/
def talliedBooks : Part (Bookkeeping × Nat) Bookkeeping :=
  ⟨Prod.fst, fun b state => (b, state.2)⟩

/-- The number of calls. -/
def tally : Part (Bookkeeping × Nat) Nat :=
  ⟨Prod.snd, fun n state => (state.1, n)⟩

/-- A visitor that skips what is inside of everything. -/
def skippingVisitor : Visitor (Bookkeeping × Nat) where
  hook? _ := return some fun _ => return .skip

/-- A visitor whose first call fails. -/
def failingOnce : Visitor (Bookkeeping × Nat) where
  hook? _ := return some fun _ => do
    let n ← tally.read
    tally.change (· + 1)
    if n = 0 then (Effect.fail (.other .badValue "boom") : Effect Value) else return .null

theorem talliedBooks_lawful : talliedBooks.Lawful :=
  ⟨fun _ _ => rfl, fun _ => rfl, fun _ _ _ => rfl⟩

theorem skippingVisitor_aloof : skippingVisitor.Aloof talliedBooks where
  lookup _ := Act.aloof_pure _
  method h _ := by
    cases h
    exact Act.aloof_pure _

theorem failingOnce_aloof : failingOnce.Aloof talliedBooks where
  lookup _ := Act.aloof_pure _
  method h _ := by
    cases h
    refine Act.Aloof.bind (fun _ _ => rfl) fun w n _ _ => ?_
    refine Act.Aloof.bind (fun _ _ => rfl) fun _ _ _ _ => ?_
    split
    · exact fun _ _ => rfl
    · exact Act.aloof_pure _

/-- The kind of a root that can be read. -/
theorem Store.rootKind_of_read {s : Store} {root kind : Value} {accept : Value → Prop}
    (hk : ((Action.attr root "kind").perform.runOn
      ((Action.checkRoot root).perform.runOn s).2).1.toOption = some kind) (h : accept kind) :
    s.RootKind root accept := by
  intro s₁ s₂ kind' hc hr
  rw [hc] at hk
  dsimp only at hk
  rw [hr] at hk
  exact Option.some.inj hk ▸ h

/-- The second of two walks over a schema, of which the first one is aborted and leaves the mark of a
visitor behind. -/
theorem walk_reused_smallSchema :
    let members := [skippingVisitor, failingOnce]
    let next : Outing := ⟨.standard, .null, .ref 0⟩
    let w := World.after (lockstep talliedBooks members) [next] ⟨.smallSchema, [], .fresh 2, 0⟩
    w.state.1 = ⟨1, [[0, 0], [1, 0]]⟩ ∧ ∃ outcome notes w₁ w₂,
      (next.walk (lockstep talliedBooks members)).runOn w = (outcome, w₁) ∧
      (next.walk (recordedLockstep talliedBooks members)).runOn (w.traced []) =
        (outcome, w₁.traced notes) ∧
      (next.walk (lockstep talliedBooks members)).runOn (talliedBooks.put (.fresh 2) w) =
        (outcome, w₂) ∧
      (next.walk (recordedLockstep talliedBooks members)).runOn
        ((talliedBooks.put (.fresh 2) w).traced []) = (outcome, w₂.traced notes) ∧
      w₂ = talliedBooks.put (talliedBooks.get w₂.state) w₁ := by
  intro members next w
  have hkind : ((Action.attr next.root "kind").perform.runOn
      ((Action.checkRoot next.root).perform.runOn w.store).2).1.toOption =
      some (.text "schema") := by decide +kernel
  refine ⟨by decide +kernel, ?_⟩
  refine walk_reused talliedBooks_lawful (fun v hv => ?_) _ [next] next
    (Store.rootKind_of_read hkind (.inr rfl))
  rcases List.mem_cons.mp hv with rfl | hv
  · exact skippingVisitor_aloof
  · obtain rfl := List.mem_singleton.mp hv
    exact failingOnce_aloof

/-- The declaration of a class derived from that of documents. -/
def derivedDecl : ClassDecl :=
  ⟨"MyDocumentNode", ["DocumentNode"], [], .absent⟩

/-- The class that it declares. -/
def derivedDocument : NodeClass :=
  (ClassDecl.declare Catalog.language derivedDecl).toOption.getD .document

/-- A document, and beside it one of the derived class. -/
def derivedRoots : Store where
  cells := #[
    .node ⟨.document, [("definitions", .ref 1)], .own [], none⟩,
    .tuple .frozen [] (.own []),
    .node ⟨derivedDocument, [("definitions", .ref 1)], .own [], none⟩]
  nextTag := 0
  classAttrs := []
  functionData := []

/-- A document of a derived class is a root like any other, but after an aborted walk a visitor that was
skipping then gets no call; with a new bookkeeping it gets two. -/
theorem walk_reused_derived :
    let members := [skippingVisitor, failingOnce]
    let w := World.after (lockstep talliedBooks members) [⟨.standard, .null, .ref 0⟩]
      ⟨derivedRoots, [], .fresh 2, 0⟩
    let next : Outing := ⟨.standard, .null, .ref 2⟩
    (ClassDecl.declare Catalog.language derivedDecl).toOption = some derivedDocument ∧
    ((Action.checkRoot next.root).perform.runOn w.store).1.toBool = true ∧
    next.callers talliedBooks members w = [1, 1] ∧
    next.callers talliedBooks members (talliedBooks.put (.fresh 2) w) = [0, 1, 0, 1] :=
  ⟨by decide +kernel, by decide +kernel, by decide +kernel, by decide +kernel⟩

end GraphQLTree
