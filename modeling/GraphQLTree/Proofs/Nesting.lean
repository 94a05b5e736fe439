import GraphQLTree.Proofs.Trace

/-! # Walks are well nested

Whatever the methods of a visitor do, the steps of a walk nest like brackets. A run that succeeds
leaves all it enters. A run that fails does nothing more, and what it entered and did not leave are
the frames around the place where it fails (`walk_nesting`).

The records of runs are described by a grammar, in the shape of the walk: `Completed` for those of
runs that succeed, `Aborted` for the others. What is said about steps follows from the grammar
alone; that walks keep to the grammar is shown without looking at the steps. -/

namespace GraphQLTree

/-! ### Steps -/

/-- A frame is entered or left. -/
abbrev WalkStep := Direction × Frame

/-- Every frame that is entered is left after all that is entered inside of it. -/
inductive WellNested : List WalkStep → Prop
  | nil : WellNested []
  | frame (f : Frame) {inner rest : List WalkStep} : WellNested inner → WellNested rest →
      WellNested ((.enter, f) :: (inner ++ (.leave, f) :: rest))

/-- The frames that are still open after some steps, given those that were before. -/
def unclosed : Path → List WalkStep → Path
  | stack, [] => stack
  | stack, (.enter, f) :: later => unclosed (f :: stack) later
  | stack, (.leave, _) :: later => unclosed stack.tail later

theorem WellNested.append {l l' : List WalkStep} (h : WellNested l) (h' : WellNested l') :
    WellNested (l ++ l') := by
  induction h with
  | nil => exact h'
  | frame f hi _ _ ihr =>
    rw [List.cons_append, List.append_assoc, List.cons_append]
    exact .frame f hi ihr

theorem unclosed_append (stack : Path) (l l' : List WalkStep) :
    unclosed stack (l ++ l') = unclosed (unclosed stack l) l' := by
  induction l generalizing stack with
  | nil => rfl
  | cons s l ih =>
    rcases s with ⟨_ | _, f⟩
    · exact ih _
    · exact ih _

/-- Well-nested steps leave open what was open before. -/
theorem WellNested.unclosed_eq {l : List WalkStep} (h : WellNested l) (stack : Path) :
    unclosed stack l = stack := by
  induction h generalizing stack with
  | nil => rfl
  | frame f _ _ ihi ihr =>
    rw [unclosed, unclosed_append, ihi, unclosed, ihr, List.tail_cons]

namespace Mark

variable {σ : Type}

/-- The step that an entry of a record stands for. -/
def step? : Mark σ → Option WalkStep
  | entered (f :: _) => some (.enter, f)
  | left (f :: _) => some (.leave, f)
  | _ => none

/-- Whether an entry tells that a method which was called to enter something asks to skip what is
inside. -/
def Asks : Mark σ → Prop
  | ended call _ outcome w => call.direction = .enter ∧ Act.AsksToSkip outcome w.store
  | _ => False

end Mark

/-- The entries about the method for a step: its call and how it ends, if there is such a method. -/
inductive OfMethod {σ : Type} (direction : Direction) (path : Path) : List (Mark σ) → Prop
  | missing : OfMethod direction path []
  | called (kind : Value) (args : List Value) (outcome : Except Halt Value) (w : World σ) :
      OfMethod direction path
        [.called ⟨direction, kind, args⟩ path, .ended ⟨direction, kind, args⟩ path outcome w]

/-- The steps of a record. -/
def steps {σ : Type} (marks : List (Mark σ)) : List WalkStep :=
  marks.filterMap Mark.step?

@[simp] theorem steps_append {σ : Type} (marks marks' : List (Mark σ)) :
    steps (marks ++ marks') = steps marks ++ steps marks' := List.filterMap_append

/-! ### Paths -/

/-- The frames that a walk over `root` can enter inside of others. -/
inductive Child (table : WalkTable) (root : Value) : Path → Frame → Prop
  | root (kind : Value) : Child table root [] (.node kind root)
  | list {kind key listKind : String} (node : Value) (above : Path)
      (walked : (key, listKind) ∈ table.entries kind) :
      Child table root (.node (.text kind) node :: above) (.list listKind)
  | element {listKind : String} (plain : variants? listKind = none) (above : Path)
      (kind element : Value) : Child table root (.list listKind :: above) (.node kind element)
  | variant {listKind : String} (varied : variants? listKind ≠ none) (above : Path)
      (element : Value) : Child table root (.list listKind :: above) (.variant listKind element)
  | own (listKind : String) (element : Value) (above : Path) (kind : Value) :
      Child table root (.variant listKind element :: above) (.node kind element)

/-- A path that a walk over `root` can take. -/
def Leads (table : WalkTable) (root : Value) : Path → Prop
  | [] => True
  | f :: above => Child table root above f ∧ Leads table root above

/-- The path from where a walk fails up to the root. -/
def Place.path : Place → Path
  | entering path | leaving path | inside path => path

/-- The path that an entry of a record holds. -/
def Mark.path {σ : Type} : Mark σ → Path
  | entered path | left path | called _ path | ended _ path _ _ | pruned path => path
  | failed place => place.path

/-! ### The grammar of records -/

section

variable {σ : Type} (table : WalkTable) (root : Value)

/-- The records of runs that succeed, inside the frames `above`. -/
inductive Completed : Path → List (Mark σ) → Prop
  | nil (above : Path) : Completed above []
  | append {above : Path} {seg seg' : List (Mark σ)} : Completed above seg →
      Completed above seg' → Completed above (seg ++ seg')
  | frame {above : Path} {f : Frame} {calls inner calls' : List (Mark σ)}
      (child : Child table root above f) (hc : OfMethod .enter (f :: above) calls)
      (hn : ∀ m ∈ calls, ¬ m.Asks) (hi : Completed (f :: above) inner)
      (hc' : OfMethod .leave (f :: above) calls') :
      Completed above
        (.entered (f :: above) :: calls ++ (inner ++ .left (f :: above) :: calls'))
  | pruned {above : Path} {f : Frame} {calls calls' : List (Mark σ)}
      (child : Child table root above f) (hc : OfMethod .enter (f :: above) calls)
      (ha : ∃ m ∈ calls, m.Asks) (hc' : OfMethod .leave (f :: above) calls') :
      Completed above
        (.entered (f :: above) :: calls ++ ([.pruned (f :: above)] ++ .left (f :: above) :: calls'))

/-- The records of runs that fail at a place, inside the frames `above`. -/
inductive Aborted : Path → Place → List (Mark σ) → Prop
  | inside (above : Path) : Aborted above (.inside above) [.failed (.inside above)]
  | later {above : Path} {place : Place} {seg seg' : List (Mark σ)} :
      Completed table root above seg → Aborted above place seg' → Aborted above place (seg ++ seg')
  | entering {above : Path} {f : Frame} {calls : List (Mark σ)}
      (child : Child table root above f) (hc : OfMethod .enter (f :: above) calls) :
      Aborted above (.entering (f :: above))
        (.entered (f :: above) :: calls ++ [.failed (.entering (f :: above))])
  | deeper {above : Path} {f : Frame} {place : Place} {calls inner : List (Mark σ)}
      (child : Child table root above f) (hc : OfMethod .enter (f :: above) calls)
      (hn : ∀ m ∈ calls, ¬ m.Asks) (hi : Aborted (f :: above) place inner) :
      Aborted above place (.entered (f :: above) :: calls ++ inner)
  /-- What a failing step leaves is done with: it was completed but for the method of the step. -/
  | leaving {above : Path} {f : Frame} {seg calls' : List (Mark σ)}
      (child : Child table root above f)
      (hs : Completed table root above (seg ++ [.left (f :: above)]))
      (hc' : OfMethod .leave (f :: above) calls') :
      Aborted above (.leaving (f :: above))
        (seg ++ .left (f :: above) :: calls' ++ [.failed (.leaving (f :: above))])

/-- What is skipped is what methods ask to skip. -/
structure PrunesTidily (marks : List (Mark σ)) : Prop where
  /-- What is skipped was entered with a method that asked for it, and it is left next. -/
  asked : ∀ before path later, marks = before ++ .pruned path :: later →
    (∃ start call outcome w,
      before = start ++ [.entered path, .called call path, .ended call path outcome w] ∧
      call.direction = .enter ∧ Act.AsksToSkip outcome w.store) ∧ ∃ rest, later = .left path :: rest
  /-- If a method asks for it, what it was called to enter is skipped and left next; else it could not
  even be entered. -/
  heeded : ∀ before call path outcome w later, marks = before ++ .ended call path outcome w :: later →
    call.direction = .enter → Act.AsksToSkip outcome w.store →
    ∃ rest, later = .pruned path :: .left path :: rest ∨ later = .failed (.entering path) :: rest

end

/-! ### What the grammar says about steps -/

section

variable {σ : Type} {table : WalkTable} {root : Value} {above : Path} {place : Place}
  {seg seg' calls : List (Mark σ)} {direction : Direction} {path : Path}

theorem steps_methods (hc : OfMethod direction path calls) : steps calls = [] := by
  cases hc with
  | missing | called => rfl

theorem steps_entered (f : Frame) (hc : OfMethod direction path calls) :
    steps (.entered (f :: above) :: calls ++ seg) = (.enter, f) :: steps seg := by
  have hs : steps (.entered (f :: above) :: calls ++ seg) =
      (.enter, f) :: (steps calls ++ steps seg) := by rw [steps_append]; rfl
  rw [hs, steps_methods hc, List.nil_append]

theorem steps_left (hc : OfMethod direction path calls) :
    steps (seg ++ .left path :: calls) = steps (seg ++ [.left path]) := by
  rw [List.append_cons, steps_append, steps_methods hc, List.append_nil]

theorem steps_failed : steps (seg ++ [.failed place]) = steps seg := by
  rw [steps_append]
  exact List.append_nil _

theorem Completed.wellNested (h : Completed table root above seg) : WellNested (steps seg) := by
  induction h with
  | nil => exact .nil
  | append _ _ ih ih' => rw [steps_append]; exact ih.append ih'
  | frame _ hc _ _ hc' ih =>
    rw [steps_entered _ hc, steps_left hc', steps_append]
    exact .frame _ ih .nil
  | pruned _ hc _ hc' =>
    rw [steps_entered _ hc, steps_left hc']
    exact .frame _ .nil .nil

/-- The steps of a run that fails begin a well-nested sequence. -/
theorem Aborted.begins_wellNested (h : Aborted table root above place seg) :
    ∃ rest, WellNested (steps seg ++ rest) := by
  induction h with
  | inside => exact ⟨[], .nil⟩
  | later hs _ ih =>
    obtain ⟨rest, hr⟩ := ih
    refine ⟨rest, ?_⟩
    rw [steps_append, List.append_assoc]
    exact hs.wellNested.append hr
  | @entering _ f _ _ hc =>
    refine ⟨[(.leave, f)], ?_⟩
    rw [steps_entered f hc]
    exact .frame f .nil .nil
  | @deeper _ f _ _ _ _ hc _ _ ih =>
    obtain ⟨rest, hr⟩ := ih
    refine ⟨rest ++ [(.leave, f)], ?_⟩
    rw [steps_entered f hc, List.cons_append, ← List.append_assoc]
    exact .frame f hr .nil
  | leaving _ hs hc' =>
    refine ⟨[], ?_⟩
    rw [steps_failed, steps_left hc', List.append_nil]
    exact hs.wellNested

/-- The frames that a run which fails leaves open are those around its place. -/
theorem Aborted.unclosed_eq (h : Aborted table root above place seg) :
    unclosed above (steps seg) = place.around := by
  induction h with
  | inside => rfl
  | later hs _ ih => rw [steps_append, unclosed_append, hs.wellNested.unclosed_eq, ih]
  | entering _ hc => rw [steps_entered _ hc]; rfl
  | deeper _ hc _ _ ih => rw [steps_entered _ hc, unclosed, ih]
  | leaving _ hs hc' =>
    rw [steps_failed, steps_left hc', hs.wellNested.unclosed_eq]
    rfl

/-- An entry on the way that a walk over `root` can take, and no failure. -/
def Mark.Regular (table : WalkTable) (root : Value) (m : Mark σ) : Prop :=
  Leads table root m.path ∧ ∀ place, m ≠ .failed place

theorem OfMethod.regular (h : OfMethod direction path calls) (hp : Leads table root path) :
    ∀ m ∈ calls, m.Regular table root := by
  cases h with
  | missing => exact List.forall_mem_nil _
  | called => exact List.forall_mem_cons.mpr ⟨⟨hp, nofun⟩, List.forall_mem_singleton.mpr ⟨hp, nofun⟩⟩

theorem Completed.regular (h : Completed table root above seg) (ha : Leads table root above) :
    ∀ m ∈ seg, m.Regular table root := by
  induction h with
  | nil => simp
  | append _ _ ih ih' => exact List.forall_mem_append.mpr ⟨ih ha, ih' ha⟩
  | frame child hc _ _ hc' ih =>
    have hp := And.intro child ha
    simp only [List.forall_mem_append, List.forall_mem_cons]
    exact ⟨⟨⟨hp, nofun⟩, hc.regular hp⟩, ih hp, ⟨hp, nofun⟩, hc'.regular hp⟩
  | pruned child hc _ hc' =>
    have hp := And.intro child ha
    simp only [List.forall_mem_append, List.forall_mem_cons]
    exact ⟨⟨⟨hp, nofun⟩, hc.regular hp⟩, ⟨⟨hp, nofun⟩, List.forall_mem_nil _⟩, ⟨hp, nofun⟩,
      hc'.regular hp⟩

/-- The only failure in the record of a run is its end. -/
theorem Aborted.ends (h : Aborted table root above place seg) (ha : Leads table root above) :
    ∃ before, seg = before ++ [.failed place] ∧ Leads table root place.path ∧
      ∀ m ∈ before, m.Regular table root := by
  induction h with
  | inside => exact ⟨[], rfl, ha, List.forall_mem_nil _⟩
  | later hs _ ih =>
    obtain ⟨before, rfl, hl, hb⟩ := ih ha
    exact ⟨_, (List.append_assoc ..).symm, hl, List.forall_mem_append.mpr ⟨hs.regular ha, hb⟩⟩
  | entering child hc =>
    have hp := And.intro child ha
    exact ⟨_, rfl, hp, List.forall_mem_cons.mpr ⟨⟨hp, nofun⟩, hc.regular hp⟩⟩
  | deeper child hc _ _ ih =>
    have hp := And.intro child ha
    obtain ⟨before, rfl, hl, hb⟩ := ih hp
    refine ⟨_, (List.append_assoc ..).symm, hl, List.forall_mem_append.mpr ⟨?_, hb⟩⟩
    exact List.forall_mem_cons.mpr ⟨⟨hp, nofun⟩, hc.regular hp⟩
  | leaving child hs hc' =>
    have hp := And.intro child ha
    refine ⟨_, rfl, hp, ?_⟩
    rw [List.append_cons]
    exact List.forall_mem_append.mpr ⟨hs.regular ha, hc'.regular hp⟩

/-! ### What the grammar says about pruning -/

/-- An entry that neither tells of pruning nor asks for it. -/
def Mark.Plain (m : Mark σ) : Prop :=
  (∀ path, m ≠ .pruned path) ∧ ¬ m.Asks

theorem PrunesTidily.append (h : PrunesTidily seg) (h' : PrunesTidily seg') :
    PrunesTidily (seg ++ seg') where
  asked before path later heq := by
    rcases List.append_eq_append_iff.mp heq with ⟨start, rfl, rfl⟩ | ⟨rest, rfl, hrest⟩
    · obtain ⟨⟨start', call, outcome, w, rfl, ha⟩, hl⟩ := h'.asked start path later rfl
      exact ⟨⟨seg ++ start', call, outcome, w, (List.append_assoc ..).symm, ha⟩, hl⟩
    · rcases rest with - | ⟨m, rest⟩
      · obtain ⟨⟨start', _, _, _, hs, -⟩, -⟩ := h'.asked [] path later hrest.symm
        simp at hs
      · obtain ⟨rfl, rfl⟩ := List.cons.inj hrest
        obtain ⟨ha, rest', rfl⟩ := h.asked before path rest rfl
        exact ⟨ha, rest' ++ seg', rfl⟩
  heeded before call path outcome w later heq hd ha := by
    rcases List.append_eq_append_iff.mp heq with ⟨start, rfl, rfl⟩ | ⟨rest, rfl, hrest⟩
    · exact h'.heeded start call path outcome w later rfl hd ha
    · rcases rest with - | ⟨m, rest⟩
      · exact h'.heeded [] call path outcome w later hrest.symm hd ha
      · obtain ⟨rfl, rfl⟩ := List.cons.inj hrest
        obtain ⟨rest', rfl | rfl⟩ := h.heeded before call path outcome w rest rfl hd ha
        · exact ⟨rest' ++ seg', .inl rfl⟩
        · exact ⟨rest' ++ seg', .inr rfl⟩

theorem prunesTidily_of_plain (h : ∀ m ∈ seg, m.Plain) : PrunesTidily seg where
  asked before path later heq := by
    subst heq
    exact absurd rfl ((h (.pruned path) (by simp)).1 path)
  heeded before call path outcome w later heq hd ha := by
    subst heq
    exact absurd ⟨hd, ha⟩ (h (.ended call path outcome w) (by simp)).2

theorem OfMethod.plain (hc : OfMethod direction path calls) (hn : ∀ m ∈ calls, ¬ m.Asks) :
    ∀ m ∈ calls, m.Plain := by
  refine fun m hm => ⟨fun path' heq => ?_, hn m hm⟩
  subst heq
  cases hc with
  | missing => cases hm
  | called => simp at hm

/-- When something is left, nothing is left to be skipped. -/
theorem OfMethod.leave_plain (hc : OfMethod .leave path calls) : ∀ m ∈ calls, m.Plain := by
  refine hc.plain fun m hm ha => ?_
  cases hc with
  | missing => cases hm
  | called =>
    rcases List.mem_cons.mp hm with rfl | hm
    · exact ha
    · obtain rfl := List.mem_singleton.mp hm
      cases ha.1

theorem prunesTidily_entered (hc : OfMethod .enter path calls) (hn : ∀ m ∈ calls, ¬ m.Asks) :
    PrunesTidily (.entered path :: calls) :=
  prunesTidily_of_plain (List.forall_mem_cons.mpr ⟨⟨nofun, id⟩, hc.plain hn⟩)

theorem prunesTidily_left (hc : OfMethod .leave path calls) : PrunesTidily (.left path :: calls) :=
  prunesTidily_of_plain (List.forall_mem_cons.mpr ⟨⟨nofun, id⟩, hc.leave_plain⟩)

/-- Something is entered with a method that asks to skip what is inside, and is left next. -/
theorem prunesTidily_pruned (hc : OfMethod .enter path calls) (ha : ∃ m ∈ calls, m.Asks) :
    PrunesTidily (.entered path :: calls ++ [.pruned path, .left path]) := by
  cases hc with
  | missing => simp at ha
  | called kind args outcome w =>
    simp only [List.mem_cons, List.not_mem_nil, or_false, exists_eq_or_imp, exists_eq_left] at ha
    have hasks : Act.AsksToSkip outcome w.store := ha.elim False.elim And.right
    refine ⟨fun before path' later heq => ?_, fun before call' path' outcome' w' later heq _ _ => ?_⟩
    · rcases before with - | ⟨_, - | ⟨_, - | ⟨_, - | ⟨_, - | ⟨_, before⟩⟩⟩⟩⟩
      all_goals simp at heq
      obtain ⟨rfl, rfl, rfl, rfl, rfl⟩ := heq
      exact ⟨⟨[], _, outcome, w, rfl, rfl, hasks⟩, [], rfl⟩
    · rcases before with - | ⟨_, - | ⟨_, - | ⟨_, - | ⟨_, - | ⟨_, before⟩⟩⟩⟩⟩
      all_goals simp at heq
      obtain ⟨-, -, ⟨-, rfl, -, -⟩, rfl⟩ := heq
      exact ⟨[], .inl rfl⟩

/-- Something is entered with a method, and that fails. -/
theorem prunesTidily_entering (hc : OfMethod .enter path calls) :
    PrunesTidily (.entered path :: calls ++ [.failed (.entering path)]) := by
  cases hc with
  | missing => exact prunesTidily_of_plain (by simp [Mark.Plain, Mark.Asks])
  | called =>
    refine ⟨fun before path' later heq => ?_, fun before call' path' outcome' w' later heq _ _ => ?_⟩
    · rcases before with - | ⟨_, - | ⟨_, - | ⟨_, - | ⟨_, before⟩⟩⟩⟩
      all_goals simp at heq
    · rcases before with - | ⟨_, - | ⟨_, - | ⟨_, - | ⟨_, before⟩⟩⟩⟩
      all_goals simp at heq
      obtain ⟨-, -, ⟨-, rfl, -, -⟩, rfl⟩ := heq
      exact ⟨[], .inr rfl⟩

theorem Completed.prunesTidily (h : Completed table root above seg) : PrunesTidily seg := by
  induction h with
  | nil => exact prunesTidily_of_plain (List.forall_mem_nil _)
  | append _ _ ih ih' => exact ih.append ih'
  | frame _ hc hn _ hc' ih =>
    exact (prunesTidily_entered hc hn).append (ih.append (prunesTidily_left hc'))
  | pruned _ hc ha hc' =>
    have h := (prunesTidily_pruned hc ha).append (prunesTidily_of_plain hc'.leave_plain)
    rwa [List.append_assoc] at h

theorem Aborted.prunesTidily (h : Aborted table root above place seg) : PrunesTidily seg := by
  have hf : ∀ place', PrunesTidily ([.failed place'] : List (Mark σ)) :=
    fun place' => prunesTidily_of_plain (List.forall_mem_singleton.mpr ⟨nofun, id⟩)
  induction h with
  | inside => exact hf _
  | later hs _ ih => exact hs.prunesTidily.append ih
  | entering _ hc => exact prunesTidily_entering hc
  | deeper _ hc hn _ ih => exact (prunesTidily_entered hc hn).append ih
  | @leaving _ _ seg _ _ hs hc' =>
    rw [List.append_cons seg]
    exact (hs.prunesTidily.append (prunesTidily_of_plain hc'.leave_plain)).append (hf _)

end

/-! ### Walks keep to the grammar -/

section

variable {σ α β : Type} {table : WalkTable} {root : Value} {above : Path}

/-- A run has the record of one that succeeds or of one that fails. -/
def Orderly (table : WalkTable) (root : Value) (above : Path) (outcome : Except Halt α)
    (seg : List (Mark σ)) : Prop :=
  match outcome with
  | .ok _ => Completed table root above seg
  | .error _ => ∃ place, Aborted table root above place seg

/-- A step that keeps a record does what the step `act` does, and its record is in order. -/
def Nests (table : WalkTable) (root : Value) (above : Path) (act' : Act (Traced σ) α)
    (act : Act σ α) : Prop :=
  ∀ w, ∃ seg, Act.Records act' act w seg ∧ Orderly table root above (act.runOn w).1 seg

theorem nests_pure (a : α) : Nests (σ := σ) table root above (pure a) (pure a) :=
  fun w => ⟨[], Act.records_pure a w, .nil above⟩

theorem nests_placed (act : Act σ α) :
    Nests table root above (Act.placed (.inside above) act.unmarked) act := by
  intro w
  rcases hr : act.runOn w with ⟨e | a, w₁⟩
  · exact ⟨_, Act.records_placed_error _ (Act.records_unmarked act w) hr, .inside above,
      .inside above⟩
  · exact ⟨_, Act.records_placed_ok _ (Act.records_unmarked act w) hr, .nil above⟩

theorem nests_action (act : Action α) :
    Nests (σ := σ) table root above (Act.placed (.inside above) (liftM act)) (liftM act) :=
  nests_placed (liftM act)

theorem Nests.bind {x' : Act (Traced σ) α} {x : Act σ α} {g : α → Act (Traced σ) β}
    {f : α → Act σ β} (hx : Nests table root above x' x)
    (hf : ∀ a w w₁, x.runOn w = (.ok a, w₁) → Nests table root above (g a) (f a)) :
    Nests table root above (x' >>= g) (x >>= f) := by
  intro w
  obtain ⟨seg, hseg, ho⟩ := hx w
  rcases hr : x.runOn w with ⟨e | a, w₁⟩
  · rw [hr] at ho
    refine ⟨seg, hseg.bind_error hr, ?_⟩
    rw [Act.runOn_bind_error hr]
    exact ho
  · rw [hr] at ho
    obtain ⟨seg₁, hseg₁, ho₁⟩ := hf a w w₁ hr w₁
    refine ⟨seg ++ seg₁, hseg.bind_ok hr hseg₁, ?_⟩
    rw [Act.runOn_bind_ok hr]
    rcases hr₁ : (f a).runOn w₁ with ⟨e | b, w₂⟩
    · rw [hr₁] at ho₁
      obtain ⟨place, hp⟩ := ho₁
      exact ⟨place, .later ho hp⟩
    · rw [hr₁] at ho₁
      exact .append ho ho₁

theorem Nests.onReport {x' : Act (Traced σ) α} {x : Act σ α} (hx : Nests table root above x' x)
    (note : Ref → Act σ Unit) :
    Nests table root above (Act.onReport x' fun e => (note e).unmarked) (Act.onReport x note) := by
  intro w
  obtain ⟨seg, hseg, ho⟩ := hx w
  refine ⟨seg, hseg.onReport note, ?_⟩
  rcases hr : x.runOn w with ⟨e | a, w₁⟩
  · obtain ⟨e', w₂, hr₂⟩ := Act.onReport_error hr note
    rw [hr] at ho
    rw [hr₂]
    exact ho
  · rw [hr] at ho
    rw [Act.onReport_ok hr note]
    exact ho

theorem Nests.within {x' : Act (Traced σ) α} {x : Act σ α} (hx : Nests table root above x' x)
    (stage : Stage) : Nests table root above (Act.within stage x') (Act.within stage x) :=
  hx.onReport fun e => Action.recordStage (.ref e) stage.text

theorem nests_forM {g : α → Act (Traced σ) Unit} {f : α → Act σ Unit} (l : List α)
    (h : ∀ a ∈ l, Nests table root above (g a) (f a)) :
    Nests table root above (l.forM g) (l.forM f) := by
  induction l with
  | nil => exact nests_pure ()
  | cons a l ih =>
    exact (h a (List.mem_cons_self ..)).bind fun _ _ _ _ =>
      ih fun b hb => h b (List.mem_cons_of_mem a hb)

variable (options : WalkOptions) (visitor : Visitor σ) (context : Value)

variable {options visitor context} in
/-- A walk asks to skip what is inside of a frame just if the method for entering it does. -/
theorem enterStep_asks {f : Frame} {above : Path} {w w' : World σ} {pruned : Bool}
    (h : (enterStep options visitor context f.kind f.node?).runOn w = (.ok pruned, w')) :
    pruned = true ↔ ∃ m ∈ hookMarks visitor context .enter f above w, m.Asks := by
  rw [enterStep_eq] at h
  obtain ⟨hook?, w₁, hl, h⟩ := Act.bind_ok_iff.mp h
  unfold hookMarks
  rw [hl]
  cases hook? with
  | none =>
    obtain rfl : false = pruned := Except.ok.inj (congrArg Prod.fst h)
    simp
  | some hook =>
    obtain ⟨asked, w₂, hj, h⟩ := Act.bind_ok_iff.mp h
    obtain rfl := endEnter_ok h
    rw [Act.judge_asksToSkip (fails_abort f.kind .enter f.node?) hj]
    simp [runMarks, Mark.Asks]

theorem ofMethod_hookMarks (direction : Direction) (f : Frame) (above : Path) (w : World σ) :
    OfMethod direction (f :: above) (hookMarks visitor context direction f above w) := by
  unfold hookMarks
  rcases (visitor.hook? ⟨f.kind, direction, false⟩).runOn w with ⟨e | _ | hook, w₁⟩
  · exact .missing
  · exact .missing
  · dsimp only
    unfold runMarks
    exact .called _ _ _ _

/-- What follows the record `seg` of entering a frame and of what is inside. -/
theorem orderly_leave {f : Frame} (child : Child table root above f) (seg : List (Mark σ))
    (hs : ∀ calls, OfMethod .leave (f :: above) calls →
      Completed table root above (seg ++ .left (f :: above) :: calls)) (w : World σ) :
    ∃ seg', Act.Records (tracedLeave visitor context f above)
        (leaveStep visitor context f.kind f.node?) w seg' ∧
      Orderly table root above ((leaveStep visitor context f.kind f.node?).runOn w).1
        (seg ++ seg') := by
  have hc := ofMethod_hookMarks visitor context .leave f above w
  rcases hr : (leaveStep visitor context f.kind f.node?).runOn w with ⟨e | _, w₁⟩
  · refine ⟨_, records_tracedLeave_error above hr, .leaving (f :: above), ?_⟩
    rw [← List.append_assoc]
    exact .leaving child (hs [] .missing) hc
  · exact ⟨_, records_tracedLeave_ok above hr, hs _ hc⟩

/-- A frame nests if what is inside does. -/
theorem nests_frame {f : Frame} (child : Child table root above f)
    {inner' : Act (Traced σ) Unit} {inner : Act σ Unit}
    (hi : Nests table root (f :: above) inner' inner) :
    Nests table root above (tracedFrame options visitor context f above inner')
      (Act.framed (enterStep options visitor context f.kind f.node?) inner
        (leaveStep visitor context f.kind f.node?)) := by
  intro w
  have hc := ofMethod_hookMarks visitor context .enter f above w
  rcases hr : (enterStep options visitor context f.kind f.node?).runOn w with ⟨e | _ | _, w₁⟩
  · refine ⟨_, (records_tracedEnter_error above hr).framed_error hr, ?_⟩
    rw [Act.framed_error hr]
    exact ⟨_, .entering child hc⟩
  · have hn : ∀ m ∈ hookMarks visitor context .enter f above w, ¬ m.Asks :=
      fun m hm ha => Bool.false_ne_true ((enterStep_asks hr).mpr ⟨m, hm, ha⟩)
    have he := records_tracedEnter_ok above hr
    rw [if_neg Bool.false_ne_true, List.append_nil] at he
    rw [Act.framed_entered hr]
    obtain ⟨seg, hseg, ho⟩ := hi w₁
    rcases hri : inner.runOn w₁ with ⟨e | _, w₂⟩
    · rw [hri] at ho
      obtain ⟨place, hp⟩ := ho
      refine ⟨_, he.framed_entered hr (hseg.bind_error hri), ?_⟩
      rw [Act.runOn_bind_error hri]
      exact ⟨place, .deeper child hc hn hp⟩
    · rw [hri] at ho
      obtain ⟨seg', hseg', ho'⟩ := orderly_leave visitor context child
        (.entered (f :: above) :: hookMarks visitor context .enter f above w ++ seg)
        (fun calls hc' => by rw [List.append_assoc]; exact .frame child hc hn ho hc') w₂
      rw [List.append_assoc] at ho'
      refine ⟨_, he.framed_entered hr (hseg.bind_ok hri hseg'), ?_⟩
      rw [Act.runOn_bind_ok hri]
      exact ho'
  · have ha : ∃ m ∈ hookMarks visitor context .enter f above w, m.Asks := (enterStep_asks hr).mp rfl
    have he := records_tracedEnter_ok above hr
    rw [if_pos rfl] at he
    rw [Act.framed_pruned hr]
    obtain ⟨seg', hseg', ho'⟩ := orderly_leave visitor context child
      (.entered (f :: above) :: hookMarks visitor context .enter f above w ++
        [.pruned (f :: above)])
      (fun calls hc' => by rw [List.append_assoc]; exact .pruned child hc ha hc') w₁
    exact ⟨_, he.framed_pruned hr hseg', ho'⟩

section

variable {visit' : Path → Value → Act (Traced σ) Unit} {visit : Value → Act σ Unit}
  (hv : ∀ above node, (∀ kind, Child options.table root above (.node kind node)) →
    Nests options.table root above (visit' above node) (visit node))
include hv

theorem nests_element (kind : String) (above : Path) (element : Value) :
    Nests options.table root (.list kind :: above)
      (tracedElement options visitor context visit' kind (.list kind :: above) element)
      (walkElement options visitor context visit kind element) := by
  unfold tracedElement
  rcases hk : variants? kind with - | classes
  · rw [walkElement_plain options visitor context visit hk]
    refine Nests.bind (nests_action _) fun isNode _ _ _ => ?_
    cases isNode with
    | true => exact hv _ _ (.element hk above · element)
    | false => exact nests_placed _
  · rw [walkElement_variant options visitor context visit hk]
    refine Nests.bind (nests_action _) fun isVariant _ _ _ => ?_
    cases isVariant with
    | true =>
      refine nests_frame options visitor context (.variant (by simp [hk]) above element) ?_
      exact (hv _ _ (.own kind element _)).onReport _
    | false => exact nests_placed _

theorem nests_list (kind : String) (above : Path) (nodes : Value)
    (child : Child options.table root above (.list kind)) :
    Nests options.table root above (tracedList options visitor context visit' kind above nodes)
      (walkList options visitor context visit kind nodes) := by
  rw [walkList_eq]
  refine Nests.bind (nests_action _) fun isTrue _ _ _ => ?_
  cases isTrue with
  | false => exact nests_pure ()
  | true =>
    refine nests_frame options visitor context child (Nests.bind (nests_action _) ?_)
    refine fun elements _ _ _ => nests_forM elements fun element _ => ?_
    exact ((nests_element options visitor context hv kind above element).within _).bind
      fun _ _ _ _ => nests_action _

theorem nests_lists (kind node : Value) (above : Path) :
    Nests options.table root (.node kind node :: above)
      (tracedLists options visitor context visit' kind node (.node kind node :: above))
      (walkLists options visitor context visit kind node) := by
  refine Nests.bind (nests_action _) fun walked w w₁ hw => nests_forM walked fun entry he => ?_
  obtain ⟨text, rfl, hm⟩ := Action.mem_walkedAttrs
    (congrArg (fun r => (r.1, r.2.store)) hw) entry he
  refine Nests.within (Nests.bind (nests_action _) fun nodes _ _ _ => ?_) _
  exact nests_list options visitor context hv _ _ nodes (.list node above hm)

end

theorem nests_node (depth : Nat) (above : Path) (node : Value)
    (child : ∀ kind, Child options.table root above (.node kind node)) :
    Nests options.table root above (tracedNode options visitor context depth above node)
      (walkNode options visitor context depth node) := by
  induction depth generalizing above node with
  | zero => exact nests_placed (throw .tooDeep)
  | succ depth ih =>
    rw [walkNode_succ]
    refine Nests.bind (nests_action _) fun kind _ _ _ => ?_
    refine nests_frame options visitor context (child kind) ?_
    exact nests_lists options visitor context ih kind node above

theorem nests_walk (root : Value) :
    Nests options.table root [] (tracedWalk options visitor context root)
      (walk options visitor context root) :=
  Nests.bind (nests_action _) fun _ _ _ _ =>
    (nests_node options visitor context _ [] root .root).onReport _

/-- Keeping a record changes nothing: without it, a traced walk is the walk. -/
theorem tracedWalk_forget (root : Value) (w : World σ) :
    ∃ marks, (tracedWalk options visitor context root).runOn (w.traced []) =
      (((walk options visitor context root).runOn w).1,
        ((walk options visitor context root).runOn w).2.traced marks) := by
  obtain ⟨seg, hseg, -⟩ := nests_walk options visitor context root w
  exact ⟨seg, hseg []⟩

/-- **Walks nest.** Whatever the methods of a visitor do, at every moment of a walk the steps so far
begin a sequence in which every frame entered is left after all that is entered inside of it; what is
skipped is what methods ask to skip, and it is left next; all steps are on paths from the root. A walk
that succeeds leaves all it enters. A walk that fails does so at the end of its record, and open are just
the frames around the place where it fails. -/
theorem walk_nesting (root : Value) (w : World σ) :
    ∃ marks, (tracedWalk options visitor context root).runOn (w.traced []) =
        (((walk options visitor context root).runOn w).1,
          ((walk options visitor context root).runOn w).2.traced marks) ∧
      (∀ sofar, sofar <+: marks → ∃ rest, WellNested (steps sofar ++ rest)) ∧
      PrunesTidily marks ∧
      (∀ m ∈ marks, Leads options.table root m.path) ∧
      match ((walk options visitor context root).runOn w).1 with
      | .ok _ => WellNested (steps marks) ∧ ∀ place, .failed place ∉ marks
      | .error _ => ∃ before place, marks = before ++ [.failed place] ∧
          (∀ place', .failed place' ∉ before) ∧ unclosed [] (steps before) = place.around := by
  obtain ⟨marks, hm, ho⟩ := nests_walk options visitor context root w
  refine ⟨marks, hm [], ?_⟩
  have hsofar : (∃ rest, WellNested (steps marks ++ rest)) →
      ∀ sofar, sofar <+: marks → ∃ rest, WellNested (steps sofar ++ rest) := by
    rintro ⟨rest, hr⟩ sofar ⟨more, rfl⟩
    rw [steps_append, List.append_assoc] at hr
    exact ⟨_, hr⟩
  rcases hr : (walk options visitor context root).runOn w with ⟨e | _, w₁⟩
  · rw [hr] at ho
    obtain ⟨place, hp⟩ := ho
    obtain ⟨before, rfl, hl, hb⟩ := hp.ends trivial
    refine ⟨hsofar hp.begins_wellNested, hp.prunesTidily, ?_, before, place, rfl,
      fun place' hf => (hb _ hf).2 place' rfl, ?_⟩
    · exact List.forall_mem_append.mpr ⟨fun m hm => (hb m hm).1, List.forall_mem_singleton.mpr hl⟩
    · rw [← hp.unclosed_eq, steps_failed]
  · rw [hr] at ho
    have hc : Completed options.table root [] marks := ho
    refine ⟨hsofar ⟨[], ?_⟩, hc.prunesTidily, fun m hm => (hc.regular trivial m hm).1,
      hc.wellNested, fun place hf => (hc.regular trivial _ hf).2 place rfl⟩
    rw [List.append_nil]
    exact hc.wellNested

end
end GraphQLTree
