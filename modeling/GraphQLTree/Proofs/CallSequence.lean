import GraphQLTree.Proofs.Course
import GraphQLTree.Proofs.Tree

/-! # The calls of a walk

The calls that a visitor gets in a walk are those for all steps of the forest in order, each with what
its frame is (`callFor`), but for the steps that the visitor has no method for, and those between a step
whose method asks to skip and the one that leaves it again (`walk_calls`). What asks to skip is said by
how methods end (`Act.AsksToSkip`), not by what the walk makes of it. -/

namespace GraphQLTree

/-! ### Calls for steps -/

/-- The arguments of the methods for a frame: a node and the context, and for a list only the
context. -/
def Frame.args (context : Value) : Frame → List Value
  | node _ v | variant _ v => [v, context]
  | list _ => [context]

/-- The call of the method for a step. -/
def callFor (context : Value) : WalkStep → HookCall
  | (direction, f) => ⟨direction, f.kind, f.args context⟩

theorem Frame.hookArgs_eq (context : Value) (f : Frame) :
    hookArgs context f.node? = f.args context := by
  cases f with
  | node | list | variant => rfl

/-! ### Steps that are left out -/

/-- A call that a visitor gets, and how it ends; the store is the one that the method leaves behind. -/
structure Heard where
  call : HookCall
  outcome : Except Halt Value
  store : Store

/-- What is heard of an entry of a record. -/
def Mark.heard? {σ : Type} : Mark σ → Option Heard
  | ended call _ outcome w => some ⟨call, outcome, w.store⟩
  | _ => none

/-- What is heard of a record. -/
def heard {σ : Type} (marks : List (Mark σ)) : List Heard :=
  marks.filterMap Mark.heard?

/-- What is heard of some steps: not those without a method, and not those between a step whose method
asks to skip and the one that leaves again. -/
inductive Thinned (context : Value) (defined : WalkStep → Bool) : List WalkStep → List Heard → Prop
  | nil : Thinned context defined [] []
  | missing {step : WalkStep} {later : List WalkStep} {l : List Heard} : defined step = false →
      Thinned context defined later l → Thinned context defined (step :: later) l
  | called {step : WalkStep} {later : List WalkStep} {l : List Heard} {outcome : Except Halt Value}
      {s : Store} : defined step = true → (step.1 = .enter → ¬ Act.AsksToSkip outcome s) →
      Thinned context defined later l →
      Thinned context defined (step :: later) (⟨callFor context step, outcome, s⟩ :: l)
  | skipping {f : Frame} {inner later : List WalkStep} {l : List Heard}
      {outcome : Except Halt Value} {s : Store} : defined (.enter, f) = true →
      Act.AsksToSkip outcome s → WellNested inner →
      Thinned context defined ((.leave, f) :: later) l →
      Thinned context defined ((.enter, f) :: (inner ++ (.leave, f) :: later))
        (⟨callFor context (.enter, f), outcome, s⟩ :: l)

section

variable {σ : Type} {context : Value} {defined : WalkStep → Bool}

@[simp] theorem heard_append (marks marks' : List (Mark σ)) :
    heard (marks ++ marks') = heard marks ++ heard marks' := List.filterMap_append

@[simp] theorem heard_entered (path : Path) (marks : List (Mark σ)) :
    heard (.entered path :: marks) = heard marks := rfl

@[simp] theorem heard_left (path : Path) (marks : List (Mark σ)) :
    heard (.left path :: marks) = heard marks := rfl

@[simp] theorem heard_pruned (path : Path) (marks : List (Mark σ)) :
    heard (.pruned path :: marks) = heard marks := rfl

theorem Thinned.append {l l' : List WalkStep} {n n' : List Heard} (h : Thinned context defined l n)
    (h' : Thinned context defined l' n') : Thinned context defined (l ++ l') (n ++ n') := by
  induction h with
  | nil => exact h'
  | missing hd _ ih => exact .missing hd ih
  | called hd hn _ ih => exact .called hd hn ih
  | skipping hd ha hi _ ih =>
    rw [List.cons_append, List.append_assoc, List.cons_append]
    exact .skipping hd ha hi ih

end

/-! ### What is heard of a course -/

/-- The visitor has methods for these kinds and directions, whatever happened before. -/
def Visitor.Defines {σ : Type} (keeps : Store → Store → Prop) (s₀ : Store) (visitor : Visitor σ)
    (defines : Value → Direction → Bool) : Prop :=
  ∀ {kind direction w hook? w'}, keeps s₀ w.store →
    (visitor.hook? ⟨.text kind, direction, false⟩).runOn w = (.ok hook?, w') →
    hook?.isSome = defines (.text kind) direction

/-- Whether there is a method for a step. -/
def hasMethod (defines : Value → Direction → Bool) : WalkStep → Bool
  | (direction, f) => defines f.kind direction

section

variable {σ : Type} {options : WalkOptions} {visitor : Visitor σ} {context : Value}

theorem heard_runMarks (direction : Direction) (f : Frame) (above : Path) (hook : Hook σ)
    (w : World σ) :
    heard (runMarks ⟨direction, f.kind, hookArgs context f.node?⟩ (f :: above)
        (hook (hookArgs context f.node?)) w) =
      [⟨callFor context (direction, f), ((hook (f.args context)).runOn w).1,
        ((hook (f.args context)).runOn w).2.store⟩] := by
  rw [f.hookArgs_eq context]
  rfl

/-- What is heard of a step that does not ask to skip. -/
theorem thinned_hookMarks {defined : WalkStep → Bool} {direction : Direction} {f : Frame}
    {w w' : World σ} {hook? : Option (Hook σ)}
    (h : (visitor.hook? ⟨f.kind, direction, false⟩).runOn w = (.ok hook?, w'))
    (hd : hook?.isSome = defined (direction, f)) {above : Path}
    (hn : direction = .enter → ¬ ∃ m ∈ hookMarks visitor context direction f above w, m.Asks) :
    Thinned context defined [(direction, f)]
      (heard (hookMarks visitor context direction f above w)) := by
  unfold hookMarks at hn ⊢
  rw [h] at hn ⊢
  cases hook? with
  | none => exact .missing hd.symm .nil
  | some hook =>
    dsimp only at hn ⊢
    rw [heard_runMarks]
    refine .called hd.symm (fun henter ha => hn henter ?_) .nil
    rw [← f.hookArgs_eq context] at ha
    exact ⟨_, List.mem_cons_of_mem _ (List.mem_singleton.mpr rfl), henter, ha⟩

/-- What is heard of a step that asks to skip. -/
theorem heard_asks {f : Frame} {w w' : World σ} {hook? : Option (Hook σ)}
    (h : (visitor.hook? ⟨f.kind, .enter, false⟩).runOn w = (.ok hook?, w')) {above : Path}
    (ha : ∃ m ∈ hookMarks visitor context .enter f above w, m.Asks) :
    hook?.isSome = true ∧ ∃ outcome s, Act.AsksToSkip outcome s ∧
      heard (hookMarks visitor context .enter f above w) =
        [⟨callFor context (.enter, f), outcome, s⟩] := by
  unfold hookMarks at ha ⊢
  rw [h] at ha ⊢
  cases hook? with
  | none => simp at ha
  | some hook =>
    dsimp only at ha ⊢
    rw [heard_runMarks]
    obtain ⟨m, hm, ha⟩ := ha
    rcases List.mem_cons.mp hm with rfl | hm
    · exact ha.elim
    · obtain rfl := List.mem_singleton.mp hm
      rw [f.hookArgs_eq context] at ha
      exact ⟨rfl, _, _, ha.2, rfl⟩

/-- Entering a frame looks for a method. -/
theorem enterFrame_ok {f : Frame} {w w' : World σ} {pruned : Bool}
    (h : (enterFrame options visitor context f).runOn w = (.ok pruned, w')) :
    ∃ hook? w₁, (visitor.hook? ⟨f.kind, .enter, false⟩).runOn w = (.ok hook?, w₁) := by
  rw [enterFrame, enterStep_eq] at h
  obtain ⟨hook?, w₁, hl, -⟩ := Act.bind_ok_iff.mp h
  exact ⟨hook?, w₁, hl⟩

theorem leaveFrame_ok {f : Frame} {w w' : World σ}
    (h : (leaveFrame visitor context f).runOn w = (.ok (), w')) :
    ∃ hook? w₁, (visitor.hook? ⟨f.kind, .leave, false⟩).runOn w = (.ok hook?, w₁) := by
  rw [leaveFrame, leaveStep_eq] at h
  obtain ⟨hook?, w₁, hl, -⟩ := Act.bind_ok_iff.mp h
  exact ⟨hook?, w₁, hl⟩

variable {keeps : Store → Store → Prop} {s₀ : Store} {defines : Value → Direction → Bool}

theorem Visitor.Defines.isSome_eq (hd : visitor.Defines keeps s₀ defines) {direction : Direction}
    {f : Frame} {w w' : World σ} {hook? : Option (Hook σ)} (hw : keeps s₀ w.store)
    (hk : ∃ kind, f.kind = .text kind)
    (h : (visitor.hook? ⟨f.kind, direction, false⟩).runOn w = (.ok hook?, w')) :
    hook?.isSome = defines f.kind direction := by
  obtain ⟨kind, hk⟩ := hk
  rw [hk] at h ⊢
  exact hd hw h

variable [IsPreorder Store keeps]

/-- What is heard of a course through a forest are the steps of the forest, thinned out. -/
theorem Course.thinned (hd : visitor.Defines keeps s₀ defines) {above : Path} {g : Forest}
    {w w' : World σ} {seg : List (Mark σ)}
    (hg : g.All (Passable options visitor context keeps s₀)) (hw : keeps s₀ w.store)
    (h : Course options visitor context keeps above g w seg w') :
    Thinned context (hasMethod defines) g.steps (heard seg) := by
  induction g generalizing above w w' seg with
  | done =>
    cases h with
    | done => exact .nil
  | broken => cases h
  | frame f inner rest ihi ihr =>
    cases h with
    | @frame _ _ _ _ _ w₀ w₁ w₂ w₃ _ pruned seg seg' hq he hi hl hr =>
      obtain ⟨hf, hgi, hgr⟩ := hg
      have h₀ := trans_of keeps hw hq.store
      have h₁ := trans_of keeps h₀ (hf.enter h₀ he)
      have h₂ : keeps s₀ w₂.store := by
        refine trans_of keeps h₁ (hi.store ?_ h₁)
        cases pruned with
        | true => exact trivial
        | false => exact hgi
      have h₃ := trans_of keeps h₂ (hf.leave h₂ hl)
      obtain ⟨hook?, w₀', hlook⟩ := enterFrame_ok he
      obtain ⟨hook?', w₂', hlook'⟩ := leaveFrame_ok hl
      have hasks : pruned = true ↔ ∃ m ∈ hookMarks visitor context .enter f above w₀, m.Asks :=
        enterStep_asks he
      have hleave : Thinned context (hasMethod defines) [(.leave, f)]
          (heard (hookMarks visitor context .leave f above w₂)) :=
        thinned_hookMarks hlook' (hd.isSome_eq h₂ hf.kind hlook') nofun
      have hrest := hleave.append (ihr hgr h₃ hr)
      cases pruned with
      | true =>
        cases hi with
        | done =>
          obtain ⟨hsome, outcome, s, ha, heq⟩ := heard_asks hlook (hasks.mp rfl)
          simp only [List.cons_append, List.nil_append, heard_entered, heard_left, heard_pruned,
            heard_append, heq, if_true]
          exact .skipping ((hd.isSome_eq h₀ hf.kind hlook).symm.trans hsome) ha
            inner.steps_wellNested hrest
      | false =>
        have henter : Thinned context (hasMethod defines) [(.enter, f)] _ :=
          thinned_hookMarks hlook (hd.isSome_eq h₀ hf.kind hlook)
            fun _ ha => Bool.false_ne_true (hasks.mpr ha)
        simp only [List.cons_append, heard_entered, heard_left, heard_append]
        exact henter.append ((ihi hgi h₁ hi).append hrest)

end

/-! ### Depths -/

/-- A forest cut short where something cannot be read. -/
inductive Forest.Cut : Forest → Forest → Prop
  | done : Cut .done .done
  | broken (g : Forest) : Cut .broken g
  | frame {f : Frame} {inner inner' rest rest' : Forest} : Cut inner inner' → Cut rest rest' →
      Cut (.frame f inner rest) (.frame f inner' rest')

namespace Forest

theorem Cut.append {g g' h h' : Forest} (hg : Cut g g') (hh : Cut h h') :
    Cut (g.append h) (g'.append h') := by
  induction hg with
  | done => exact hh
  | broken => exact .broken _
  | frame hi _ _ ih => exact .frame hi ih

theorem cut_concat {α : Type} {forest forest' : α → Forest} (l : List α)
    (h : ∀ a, Cut (forest a) (forest' a)) : Cut (concat (l.map forest)) (concat (l.map forest')) := by
  induction l with
  | nil => exact .done
  | cons a l ih => exact (h a).append ih

end Forest

theorem View.cut_lists (view : View) {forest forest' : Value → Forest}
    (h : ∀ v, Forest.Cut (forest v) (forest' v)) (entries : List (String × String)) (v : Value) :
    Forest.Cut (view.lists forest entries v) (view.lists forest' entries v) := by
  refine Forest.cut_concat entries fun (key, kind) => ?_
  dsimp only
  cases view.shown v key with
  | unreadable => exact .broken _
  | nothing => exact .done
  | unlisted => exact .frame (.broken _) .done
  | items elements =>
    refine .frame (Forest.cut_concat elements fun e => ?_) .done
    unfold element
    split
    · split
      · exact .frame (h e) .done
      · exact h e
    · exact .broken _

/-- At a greater depth more is met. -/
theorem View.cut_node (view : View) (table : WalkTable) {depth depth' : Nat} (h : depth ≤ depth')
    (v : Value) : Forest.Cut (view.node table depth v) (view.node table depth' v) := by
  induction depth generalizing depth' v with
  | zero => exact .broken _
  | succ depth ih =>
    obtain ⟨depth', rfl⟩ : ∃ n, depth' = n + 1 := ⟨depth' - 1, by omega⟩
    unfold node
    cases view.kind? v with
    | none => exact .broken _
    | some kind => exact .frame (view.cut_lists (fun e => ih (by omega) e) _ v) .done

section

variable {σ : Type} {options : WalkOptions} {visitor : Visitor σ} {context : Value}
  {keeps : Store → Store → Prop}

/-- A course never gets to where a forest is cut short. -/
theorem Course.cut {above : Path} {g g' : Forest} (hg : Forest.Cut g g') {w w' : World σ}
    {seg : List (Mark σ)} (h : Course options visitor context keeps above g w seg w') :
    Course options visitor context keeps above g' w seg w' := by
  induction hg generalizing above w w' seg with
  | done => exact h
  | broken => cases h
  | frame _ _ ihi ihr =>
    cases h with
    | @frame _ _ _ _ _ _ _ _ _ _ pruned _ _ hq he hi hl hr =>
      refine .frame hq he ?_ hl (ihr hr)
      cases pruned with
      | true => exact hi
      | false => exact ihi hi

variable [IsPreorder Store keeps]

/-- What is heard of a walk over a tree that a view stands for. -/
theorem heard_walk {view : View} {root : Value} {w w' : World σ}
    {defines : Value → Direction → Bool} (hS : view.Stands keeps w.store options root)
    (hv : visitor.Harmless keeps w.store) (hd : visitor.Defines keeps w.store defines)
    (hr : (walk options visitor context root).runOn w = (.ok (), w')) :
    ∃ marks, (tracedWalk options visitor context root).runOn (w.traced []) =
        (.ok (), w'.traced marks) ∧
      ∀ depth, options.depthLimit ≤ depth →
        Thinned context (hasMethod defines)
          (view.node options.table depth root).steps (heard marks) := by
  have hf : Follows options visitor context keeps w.store [] _ _ _ := follows_walk hS
  rcases hf w (refl_of keeps _) with hs | ⟨marks, hm, hc⟩
  · exact absurd hs (not_strayed (all_passable hS hv _) (refl_of keeps _))
  rw [hr] at hc
  have hm' := hm []
  rw [hr] at hm'
  refine ⟨marks, hm', fun depth hdepth => ?_⟩
  exact Course.thinned hd (all_passable hS hv depth) (refl_of keeps _)
    (hc.2.cut (view.cut_node _ hdepth root))

/-- What is seen of the components of a schema are its types and then its query root. -/
theorem View.Stands.components {view : View} {s : Store} {root : Value}
    (hS : view.Stands keeps s options root) {r : Ref} {n : NodeObject} {items : List Value}
    {kind : String} (hn : s.Node r n) (hc : n.cls = .schema) (hi : s.components? n = some items)
    (hw : view.Walked options.table root (.ref r) "components" kind) :
    view.shown (.ref r) "components" = .ofItems items := by
  obtain ⟨t, s', hr, hg, ht⟩ := Store.runOn_components hn hc hi
  rcases hS.shows hw s (refl_of keeps s) with ⟨nodes, s'', hr', -, hh⟩ | ⟨-, e, s'', hr'⟩
  · rw [hr] at hr'
    cases hr'
    exact eq_ofItems_of_holds (hg.classAttrs.trans hn.classAttrs) ht hh
  · rw [hr] at hr'
    nomatch hr'

end

/-! ### Variants -/

/-- The elements that are entered and left themselves are definitions and selections. -/
theorem variants?_ne_none_iff (kind : String) :
    variants? kind ≠ none ↔ kind = "definition" ∨ kind = "selection" := by
  unfold variants?
  split
  · rename_i h
    exact ⟨fun _ => .inl h, fun _ => nofun⟩
  · rename_i h
    split
    · rename_i h'
      exact ⟨fun _ => .inr h', fun _ => nofun⟩
    · rename_i h'
      exact ⟨fun hne => absurd rfl hne, fun hk => (hk.elim h h').elim⟩

/-! ### Plain methods -/

section

variable {σ τ : Type} (own : Part σ τ)
  (method? : String → Direction → Option (List Value → τ → Value × τ))

/-- A visitor with a state of its own, which is a part of the state of all visitors. Its methods
answer and change their own state, and nothing else. -/
def Visitor.ofMethods : Visitor σ where
  hook? lookup := return match lookup.kind with
    | .text kind => (method? kind lookup.direction).map fun method args => do
      let a ← own.read
      own.change fun _ => (method args a).2
      return (method args a).1
    | _ => none

theorem Visitor.ofMethods_method {kind : String} {direction : Direction} {w w₁ : World σ}
    {hook : Hook σ} {relayed : Bool}
    (h : ((ofMethods own method?).hook? ⟨.text kind, direction, relayed⟩).runOn w =
      (.ok (some hook), w₁)) :
    ∃ method, method? kind direction = some method ∧
      ∀ args fatal w, (Act.judge (hook args) fatal).runOn w =
        (.ok (Action.asksToPrune (method args (own.get w.state)).1),
          { w with state := own.set (method args (own.get w.state)).2 w.state }) := by
  have hm := Except.ok.inj (congrArg Prod.fst h)
  obtain ⟨method, hf, rfl⟩ := Option.map_eq_some_iff.mp hm
  exact ⟨method, hf, fun _ _ _ => rfl⟩

/-- The kinds and directions that there are methods for. -/
def methodKinds : Value → Direction → Bool
  | .text kind, direction => (method? kind direction).isSome
  | _, _ => false

theorem Visitor.ofMethods_defines (keeps : Store → Store → Prop) (s₀ : Store) :
    (ofMethods own method?).Defines keeps s₀ (methodKinds method?) := by
  intro kind direction w hook? w' _ h
  obtain rfl := Except.ok.inj (congrArg Prod.fst h)
  exact Option.isSome_map

theorem Visitor.ofMethods_harmless (keeps : Store → Store → Prop) [IsPreorder Store keeps]
    (s₀ : Store) : (ofMethods own method?).Harmless keeps s₀ where
  lookup _ _ := Act.keeping_pure _
  method _ h args w b w' _ hr := by
    obtain ⟨method, -, hrun⟩ := ofMethods_method own method? h
    rw [hrun] at hr
    obtain rfl : _ = w' := congrArg Prod.snd hr
    exact refl_of keeps _

end

/-! ### Methods that raise prune signals -/

/-- A prune signal. -/
def pruneError : ErrorObject :=
  { ErrorObject.ofArgs .prune [.text "prune"] with fields := .own [("prune", .bool true)] }

/-- Raises a prune signal. -/
def signalPrune {σ : Type} : Act σ Value := do
  let s : Store ← (get : Effect Store)
  let _ ← Effect.alloc (.error pruneError)
  (throw (.raised s.size) : Effect Value)

/-- A visitor, with another method where nodes of a kind are entered: it raises a prune signal. -/
def Visitor.signalling {σ : Type} (visitor : Visitor σ) (kind : String) : Visitor σ where
  hook? lookup :=
    if lookup.kind = .text kind ∧ lookup.direction = .enter then return some fun _ => signalPrune
    else visitor.hook? lookup

/-- The kinds and directions that there are methods for, and the enter step of another kind. -/
def entersAlso (kind : String) (defines : Value → Direction → Bool) :
    Value → Direction → Bool := fun asked direction =>
  (asked = .text kind && direction = .enter) || defines asked direction

section

variable {s : Store} {e : Ref}

/-- A prune signal asks to skip what is inside. -/
theorem runOn_pruneSignal (hc : s.classAttrs = []) (he : s.get? e = some (.error pruneError)) :
    (Action.pruneSignal (.ref e)).perform.runOn s = (.ok (some true), s) := by
  have htype : s.typeOf (.ref e) = .error .prune := Store.typeOf_ref he
  have hspecial (name : String) : s.special? (s.typeOf (.ref e)) name = none := by
    rw [htype]
    unfold Store.special?
    rw [hc]
    rfl
  have hentry : s.classEntry? (s.typeOf (.ref e)) "prune" = none := by
    rw [htype, Store.classEntry?_eq hc rfl]
    decide +kernel
  have hfield : s.field? (.ref e) "prune" = some (.bool true) := by
    unfold Store.field?
    rw [Store.cell?_ref he]
    rfl
  have hattr : Effect.runOn (Action.attr (.ref e) "prune" (Behaviour.level (s.innerDepth + 1))) s =
      (.ok (.bool true), s) := by
    refine (Action.runOn_readAttr (hspecial _) (hspecial _) "prune").trans ?_
    refine (Effect.runOn_bind_ok (Effect.runOn_get s) _).trans ?_
    rw [hentry, hfield]
    rfl
  rw [Action.runOn_perform, s.depthLimit_eq]
  exact Action.runOn_pruneSignal hc (Action.runOn_attrOrNull hattr)

theorem isErrorOf_pruneError (he : s.get? e = some (.error pruneError)) :
    Effect.isErrorOf .general s e = true := by
  unfold Effect.isErrorOf Store.error?
  rw [Store.cell?_ref he]
  rfl

end

theorem runOn_judge_signalPrune {σ : Type} {w : World σ} (hc : w.store.classAttrs = [])
    (fatal : Ref → Act σ Bool) :
    (Act.judge signalPrune fatal).runOn w =
      (.ok true, { w with store := (w.store.alloc (.error pruneError)).2 }) := by
  have hget : (w.store.alloc (.error pruneError)).2.get? w.store.size = some (.error pruneError) :=
    w.store.get?_alloc _
  have hr : (signalPrune : Act σ Value).runOn w = (.error (.raised w.store.size),
      { w with store := (w.store.alloc (.error pruneError)).2 }) := rfl
  exact Act.runOn_judge_signal hr (isErrorOf_pruneError hget) (runOn_pruneSignal hc hget) fatal

section

variable {σ : Type} {visitor : Visitor σ} {s₀ : Store}

theorem Visitor.Harmless.signalling (h : visitor.Harmless Store.Grows s₀) (hc : s₀.classAttrs = [])
    (kind : String) : (visitor.signalling kind).Harmless Store.Grows s₀ where
  lookup asked direction := by
    unfold Visitor.signalling
    dsimp only
    split
    · exact Act.keeping_pure _
    · exact h.lookup asked direction
  method {asked direction w hook w'} hw hl args := by
    unfold Visitor.signalling at hl
    dsimp only at hl
    split at hl
    · cases hl
      intro v b v' hv hr
      rw [runOn_judge_signalPrune (hv.classAttrs.trans hc)] at hr
      cases hr
      exact v.store.grows_alloc _
    · exact h.method hw hl args

theorem Visitor.Defines.signalling {keeps : Store → Store → Prop}
    {defines : Value → Direction → Bool} (h : visitor.Defines keeps s₀ defines) (kind : String) :
    (visitor.signalling kind).Defines keeps s₀ (entersAlso kind defines) := by
  intro asked direction w hook? w' hw hl
  unfold Visitor.signalling at hl
  unfold entersAlso
  dsimp only at hl
  split at hl
  · rename_i hasked
    cases hl
    simp [hasked]
  · rename_i hasked
    rw [h hw hl, ← Bool.decide_and, decide_eq_false hasked, Bool.false_or]

end

/-! ### The calls of a walk -/

section

variable {σ : Type} {options : WalkOptions} {visitor : Visitor σ} {context : Value}
  {keeps : Store → Store → Prop} [IsPreorder Store keeps]

/-- **The calls of a walk.** The calls are those for all steps into and out of what is met at the root,
in order, with the kind, the node and the context of each, but for the steps that the visitor has no
method for and those between a step whose method asks to skip and the one that leaves it. The elements
that are entered and left themselves are those of lists of definitions and of selections; and what is met
at a schema are its types and then its query root. -/
theorem walk_calls {view : View} {root : Value} {w w' : World σ}
    {defines : Value → Direction → Bool} (hS : view.Stands keeps w.store options root)
    (hv : visitor.Harmless keeps w.store) (hd : visitor.Defines keeps w.store defines)
    (hr : (walk options visitor context root).runOn w = (.ok (), w')) :
    (∃ marks, (tracedWalk options visitor context root).runOn (w.traced []) =
        (.ok (), w'.traced marks) ∧
      ∀ depth, options.depthLimit ≤ depth →
        Thinned context (hasMethod defines)
          (view.node options.table depth root).steps (heard marks)) ∧
    (∀ kind, variants? kind ≠ none ↔ kind = "definition" ∨ kind = "selection") ∧
    ∀ {r n items kind}, w.store.Node r n → n.cls = .schema → w.store.components? n = some items →
      view.Walked options.table root (.ref r) "components" kind →
      view.shown (.ref r) "components" = .ofItems items :=
  ⟨heard_walk hS hv hd hr, variants?_ne_none_iff, fun hn hc hi hw => hS.components hn hc hi hw⟩

end

/-- Methods that count the definitions that are entered, and look into all but the first of them. -/
def countDefinitions : String → Direction → Option (List Value → Nat → Value × Nat)
  | "definition", .enter => some fun _ n => (if n = 0 then .skip else .null, n + 1)
  | "definition_list", _ | "definition", .leave | "enum_definition", .enter
  | "object_field_definition", _ => some fun _ n => (.null, n)
  | _, _ => none

/-- A visitor with such methods, which skips object definitions by a signal. -/
def countingDefinitions : Visitor Nat :=
  (Visitor.ofMethods ⟨id, fun n _ => n⟩ countDefinitions).signalling "object_definition"

/-- The choice to walk the types of a schema first, and then its components, which are the types again and
the query root. -/
def typesFirst : WalkOptions where
  table := .mergedOver [("schema", [("types", "definition"), ("components", "definition")])] .standard
  debug := false
  depthLimit := 1000

/-- All steps into and out of what is met at a schema by this table. -/
def typesFirstSteps : List WalkStep :=
  [(.enter, .node (.text "schema") (.ref 0)),
    (.enter, .list "definition"),
    (.enter, .variant "definition" (.ref 5)),
    (.enter, .node (.text "enum_definition") (.ref 5)),
    (.leave, .node (.text "enum_definition") (.ref 5)),
    (.leave, .variant "definition" (.ref 5)),
    (.leave, .list "definition"),
    (.enter, .list "definition"),
    (.enter, .variant "definition" (.ref 5)),
    (.enter, .node (.text "enum_definition") (.ref 5)),
    (.leave, .node (.text "enum_definition") (.ref 5)),
    (.leave, .variant "definition" (.ref 5)),
    (.enter, .variant "definition" (.ref 2)),
    (.enter, .node (.text "object_definition") (.ref 2)),
    (.enter, .list "object_field_definition"),
    (.enter, .node (.text "object_field_definition") (.ref 4)),
    (.leave, .node (.text "object_field_definition") (.ref 4)),
    (.leave, .list "object_field_definition"),
    (.leave, .node (.text "object_definition") (.ref 2)),
    (.leave, .variant "definition" (.ref 2)),
    (.leave, .list "definition"),
    (.leave, .node (.text "schema") (.ref 0))]

/-- The calls that are left of them: the first definition is skipped by an answer, and the fields of the
last one are skipped by a signal. -/
def typesFirstCalls : List HookCall :=
  [⟨.enter, .text "definition_list", [.text "context"]⟩,
    ⟨.enter, .text "definition", [.ref 5, .text "context"]⟩,
    ⟨.leave, .text "definition", [.ref 5, .text "context"]⟩,
    ⟨.leave, .text "definition_list", [.text "context"]⟩,
    ⟨.enter, .text "definition_list", [.text "context"]⟩,
    ⟨.enter, .text "definition", [.ref 5, .text "context"]⟩,
    ⟨.enter, .text "enum_definition", [.ref 5, .text "context"]⟩,
    ⟨.leave, .text "definition", [.ref 5, .text "context"]⟩,
    ⟨.enter, .text "definition", [.ref 2, .text "context"]⟩,
    ⟨.enter, .text "object_definition", [.ref 2, .text "context"]⟩,
    ⟨.leave, .text "definition", [.ref 2, .text "context"]⟩,
    ⟨.leave, .text "definition_list", [.text "context"]⟩]

/-- A walk over a schema with an answer and a signal that ask to skip. -/
theorem walk_calls_smallSchema :
    (∃ (marks : List (Mark Nat)) (w' : World Nat),
      (tracedWalk typesFirst countingDefinitions (.text "context") (.ref 0)).runOn
        (World.traced ⟨.smallSchema, [], 0⟩ []) = (.ok (), w'.traced marks) ∧
      Thinned (.text "context")
        (hasMethod (entersAlso "object_definition" (methodKinds countDefinitions)))
        typesFirstSteps (heard marks) ∧
      (heard marks).map (·.call) = typesFirstCalls) ∧
    Store.smallSchema.view.shown (.ref 0) "components" = .ofItems [.ref 5, .ref 2] := by
  have hok : ((walk typesFirst countingDefinitions (.text "context") (.ref 0)).runOn
      ⟨.smallSchema, [], 0⟩).1.toBool = true := by decide +kernel
  have hcalls : (heard ((tracedWalk typesFirst countingDefinitions (.text "context")
      (.ref 0)).runOn (World.traced ⟨.smallSchema, [], 0⟩ [])).2.state.2).map (·.call) =
        typesFirstCalls := by decide +kernel
  have hsteps : (Store.smallSchema.view.node typesFirst.table 1000 (.ref 0)).steps =
      typesFirstSteps := by decide +kernel
  have hstands : Store.smallSchema.view.Stands Store.Grows .smallSchema typesFirst (.ref 0) :=
    Store.view_stands Store.treeKeeping_grows ⟨rfl, by decide +kernel⟩ rfl rfl
  have hcomponents : Store.smallSchema.view.Walked typesFirst.table (.ref 0) (.ref 0) "components"
      "definition" := ⟨.root, "schema", rfl, by decide +kernel⟩
  have hharmless : countingDefinitions.Harmless Store.Grows Store.smallSchema :=
    (Visitor.ofMethods_harmless _ _ Store.Grows _).signalling rfl _
  have hdefines : countingDefinitions.Defines Store.Grows Store.smallSchema
      (entersAlso "object_definition" (methodKinds countDefinitions)) :=
    Visitor.Defines.signalling (Visitor.ofMethods_defines _ _ Store.Grows _) _
  rcases hr : (walk typesFirst countingDefinitions (.text "context") (.ref 0)).runOn
    ⟨.smallSchema, [], 0⟩ with ⟨e | ⟨⟩, w'⟩
  · rw [hr] at hok
    nomatch hok
  · obtain ⟨⟨marks, hm, ht⟩, -, hc⟩ := walk_calls hstands hharmless hdefines hr
    rw [hm] at hcalls
    refine ⟨⟨marks, w', hm, hsteps ▸ ht 1000 (Nat.le_refl _), hcalls⟩, ?_⟩
    exact hc ⟨rfl, rfl, by decide, rfl⟩ rfl rfl hcomponents

end GraphQLTree
