import GraphQLTree.Proofs.Run
import GraphQLTree.Proofs.Trace

/-! # Walks side by side

Two visitors lead a walk over the same tree, from worlds that are related. If entering and leaving a
frame leads from related worlds to related worlds, then so does the walk (`matches_walkNode`). The
relation may depend on the frames that are open. What the walk does between the steps is the same on
both sides as long as related worlds have the same store and the same log (`Steady`). -/

namespace GraphQLTree

section

variable {σ τ : Type}

/-- A relation between worlds that have the same store and the same log, and that stay related when
these change in the same way. -/
structure Steady (R : World σ → World τ → Prop) : Prop where
  store : ∀ {w v}, R w v → w.store = v.store
  log : ∀ {w v}, R w v → w.log = v.log
  change : ∀ {w v}, R w v → ∀ s log, R ⟨s, log, w.state⟩ ⟨s, log, v.state⟩

namespace Act

variable {α β γ δ : Type}

/-- On related worlds two steps end in the same way: both succeed, or both are halted by the same. -/
def Matches (R : World σ → World τ → Prop) (S : α → β → World σ → World τ → Prop)
    (F : World σ → World τ → Prop) (x : Act σ α) (y : Act τ β) : Prop :=
  ∀ w v, R w v →
    match x.runOn w, y.runOn v with
    | (.ok a, w'), (.ok b, v') => S a b w' v'
    | (.error halt, w'), (.error halt', v') => halt = halt' ∧ F w' v'
    | _, _ => False

/-- Steps with the same result. -/
abbrev Mirrors (R S F : World σ → World τ → Prop) (x : Act σ α) (y : Act τ α) : Prop :=
  Matches R (fun a b w v => a = b ∧ S w v) F x y

variable {R S T F : World σ → World τ → Prop}

theorem matches_pure {P : α → β → World σ → World τ → Prop} {a : α} {b : β}
    (h : ∀ w v, R w v → P a b w v) : Matches R P F (pure a) (pure b) :=
  fun w v hw => h w v hw

theorem mirrors_throw (halt : Halt) (h : ∀ w v, R w v → F w v) :
    Mirrors (α := α) R S F (throw halt) (throw halt) :=
  fun w v hw => ⟨rfl, h w v hw⟩

theorem Matches.mono {P : α → β → World σ → World τ → Prop} {x : Act σ α} {y : Act τ β}
    (h : Matches R P F x y) (hT : ∀ w v, T w v → R w v) : Matches T P F x y :=
  fun w v hw => h w v (hT w v hw)

theorem Matches.weaken {P Q : α → β → World σ → World τ → Prop} {G : World σ → World τ → Prop}
    {x : Act σ α} {y : Act τ β} (h : Matches R P F x y) (hP : ∀ a b w v, P a b w v → Q a b w v)
    (hF : ∀ w v, F w v → G w v) : Matches R Q G x y := by
  intro w v hw
  have h' := h w v hw
  revert h'
  rcases x.runOn w with ⟨e | a, w'⟩
  · rcases y.runOn v with ⟨e' | b, v'⟩
    · exact fun ⟨he, hw'⟩ => ⟨he, hF _ _ hw'⟩
    · exact False.elim
  · rcases y.runOn v with ⟨e' | b, v'⟩
    · exact False.elim
    · exact hP a b w' v'

/-- An action does the same on both sides. -/
theorem mirrors_action (hR : Steady R) (hF : ∀ w v, R w v → F w v) (act : Action α) :
    Mirrors R R F (liftM act) (liftM act) := by
  intro w v hw
  rw [runOn_action, runOn_action, ← hR.store hw]
  have hchange (s : Store) : R { w with store := s } { v with store := s } := by
    have h := hR.change hw s w.log
    rwa [hR.log hw] at h ⊢
  rcases act.perform.runOn w.store with ⟨halt | a, s⟩
  · exact ⟨rfl, hF _ _ (hchange s)⟩
  · exact ⟨rfl, hchange s⟩

theorem mirrors_store (hR : Steady R) : Mirrors R R F store store :=
  fun _ _ hw => ⟨hR.store hw, hw⟩

theorem mirrors_log (hR : Steady R) (line : String) : Mirrors R R F (log line) (log line) := by
  intro w v hw
  have h := hR.change hw w.store (w.log ++ [line])
  refine ⟨rfl, ?_⟩
  change R { w with log := w.log ++ [line] } { v with log := v.log ++ [line] }
  rw [← hR.log hw]
  have hstore : ({ v with log := w.log ++ [line] } : World τ) =
      ⟨w.store, w.log ++ [line], v.state⟩ := by rw [hR.store hw]
  rw [hstore]
  exact h

theorem Matches.bind {P : α → β → World σ → World τ → Prop} {Q : γ → δ → World σ → World τ → Prop}
    {x : Act σ α} {y : Act τ β} {f : α → Act σ γ} {g : β → Act τ δ} (hx : Matches R P F x y)
    (hf : ∀ a b, Matches (P a b) Q F (f a) (g b)) : Matches R Q F (x >>= f) (y >>= g) := by
  intro w v hw
  have h := hx w v hw
  rw [runOn_bind, runOn_bind]
  revert h
  rcases x.runOn w with ⟨e | a, w'⟩
  · rcases y.runOn v with ⟨e' | b, v'⟩
    · exact id
    · exact False.elim
  · rcases y.runOn v with ⟨e' | b, v'⟩
    · exact False.elim
    · exact hf a b w' v'

/-- The usual case: a step with the same result on both sides, and what follows it. -/
theorem Mirrors.bind {Q : γ → δ → World σ → World τ → Prop} {x : Act σ α} {y : Act τ α}
    {f : α → Act σ γ} {g : α → Act τ δ} (hx : Mirrors R S F x y)
    (hf : ∀ a, Matches S Q F (f a) (g a)) : Matches R Q F (x >>= f) (y >>= g) := by
  refine Matches.bind hx fun a b w v ⟨hab, hw⟩ => ?_
  subst hab
  exact hf a w v hw

/-- What is the same after steps with the same result. -/
theorem Mirrors.outcome {x : Act σ α} {y : Act τ α} {w : World σ} {v : World τ}
    (h : Mirrors R S F x y) (hS : ∀ w v, S w v → F w v) (hw : R w v) :
    (x.runOn w).1 = (y.runOn v).1 ∧ F (x.runOn w).2 (y.runOn v).2 := by
  have h' := h w v hw
  revert h'
  rcases x.runOn w with ⟨e | a, w'⟩
  · rcases y.runOn v with ⟨e' | b, v'⟩
    · exact fun ⟨he, hw'⟩ => ⟨congrArg _ he, hw'⟩
    · exact False.elim
  · rcases y.runOn v with ⟨e' | b, v'⟩
    · exact False.elim
    · exact fun ⟨hab, hw'⟩ => ⟨congrArg _ hab, hS w' v' hw'⟩

theorem mirrors_forM {l : List γ} {f : γ → Act σ Unit} {g : γ → Act τ Unit}
    (h : ∀ c ∈ l, Mirrors R R F (f c) (g c)) : Mirrors R R F (l.forM f) (l.forM g) := by
  induction l with
  | nil => exact matches_pure fun _ _ hw => ⟨rfl, hw⟩
  | cons c l ih =>
    refine Mirrors.bind (h c (List.mem_cons_self ..)) fun _ => ?_
    exact ih fun d hd => h d (List.mem_cons_of_mem c hd)

/-- Notes on failure reports are the same on both sides. -/
theorem Matches.onReport {P : α → β → World σ → World τ → Prop} {x : Act σ α} {y : Act τ β}
    {note : Ref → Act σ Unit} {note' : Ref → Act τ Unit} (hF : Steady F) (hx : Matches R P F x y)
    (hn : ∀ e, Mirrors F F F (note e) (note' e)) :
    Matches R P F (Act.onReport x note) (Act.onReport y note') := by
  intro w v hw
  have h := hx w v hw
  unfold Act.onReport
  rw [runOn_tryCatch, runOn_tryCatch]
  revert h
  rcases x.runOn w with ⟨e | a, w'⟩
  · rcases y.runOn v with ⟨e' | b, v'⟩
    · rintro ⟨rfl, hw'⟩
      cases e with
      | tooDeep => exact ⟨rfl, hw'⟩
      | raised e =>
        refine Mirrors.bind (mirrors_store hF) (fun s => ?_) w' v' hw'
        split
        · exact Mirrors.bind (hn e) fun _ => fun _ _ h => ⟨rfl, h⟩
        · exact fun _ _ h => ⟨rfl, h⟩
    · exact False.elim
  · rcases y.runOn v with ⟨e' | b, v'⟩
    · exact False.elim
    · exact id

/-- Methods are judged in the same way, if what is related after a failure of theirs is also related
after a success. -/
theorem Matches.judge {x : Act σ Value} {y : Act τ Value} {fatal : Ref → Act σ Bool}
    {fatal' : Ref → Act τ Bool} (hS : Steady S) (hx : Mirrors R S S x y)
    (hf : ∀ e, Mirrors S S S (fatal e) (fatal' e)) :
    Mirrors R S S (Act.judge x fatal) (Act.judge y fatal') := by
  have hanswer := Mirrors.bind hx fun answer => matches_pure
    (P := fun a b w v => a = b ∧ S w v) (F := S) (a := Action.asksToPrune answer)
    (b := Action.asksToPrune answer) fun _ _ hw => ⟨rfl, hw⟩
  intro w v hw
  have h := hanswer w v hw
  unfold Act.judge Act.handle
  rw [runOn_tryCatch, runOn_tryCatch]
  revert h
  rcases (x >>= fun answer => pure (Action.asksToPrune answer)).runOn w with ⟨e | a, w'⟩
  · rcases (y >>= fun answer => pure (Action.asksToPrune answer)).runOn v with ⟨e' | b, v'⟩
    · rintro ⟨rfl, hw'⟩
      cases e with
      | tooDeep => exact ⟨rfl, hw'⟩
      | raised e =>
        refine Mirrors.bind (mirrors_store hS) (fun s => ?_) w' v' hw'
        split
        · refine Mirrors.bind (mirrors_action hS (fun _ _ => id) _) fun signal => ?_
          cases signal with
          | none => exact hf e
          | some prune => exact matches_pure fun _ _ h => ⟨rfl, h⟩
        · exact mirrors_throw _ fun _ _ => id
    · exact False.elim
  · rcases (y >>= fun answer => pure (Action.asksToPrune answer)).runOn v with ⟨e' | b, v'⟩
    · exact False.elim
    · exact id

end Act

/-! ### What one walk ensures -/

namespace Act

variable {α β : Type} {I : World σ → Prop} {J : α → World σ → Prop} {F : Halt → World σ → Prop}

/-- From worlds with `I`, a step ends with `J` if it succeeds, and with `F` if it fails. -/
def Ensures (I : World σ → Prop) (J : α → World σ → Prop) (F : Halt → World σ → Prop)
    (x : Act σ α) : Prop :=
  ∀ w, I w →
    match x.runOn w with
    | (.ok a, w') => J a w'
    | (.error halt, w') => F halt w'

theorem ensures_pure {a : α} (h : ∀ w, I w → J a w) : Ensures I J F (pure a) :=
  fun w hw => h w hw

theorem Ensures.bind {K : β → World σ → Prop} {x : Act σ α} {f : α → Act σ β}
    (hx : Ensures I J F x) (hf : ∀ a, Ensures (J a) K F (f a)) : Ensures I K F (x >>= f) := by
  intro w hw
  have h := hx w hw
  rw [runOn_bind]
  revert h
  rcases x.runOn w with ⟨e | a, w'⟩
  · exact id
  · exact hf a w'

theorem Ensures.mono {I' : World σ → Prop} {J' : α → World σ → Prop} {F' : Halt → World σ → Prop}
    {x : Act σ α} (h : Ensures I J F x) (hI : ∀ w, I' w → I w) (hJ : ∀ a w, J a w → J' a w)
    (hF : ∀ halt w, F halt w → F' halt w) : Ensures I' J' F' x := by
  intro w hw
  have h' := h w (hI w hw)
  revert h'
  rcases x.runOn w with ⟨e | a, w'⟩
  · exact hF e w'
  · exact hJ a w'

/-- A loop over a list with places. -/
theorem ensures_zipIdx {P : Nat → World σ → Prop} {body : β × Nat → Act σ Unit} (l : List β)
    (first : Nat) (h : ∀ k x, l[k]? = some x →
      Ensures (P (first + k)) (fun _ => P (first + k + 1)) F (body (x, first + k))) :
    Ensures (P first) (fun _ => P (first + l.length)) F ((l.zipIdx first).forM body) := by
  induction l generalizing first with
  | nil => exact ensures_pure fun _ hw => hw
  | cons x l ih =>
    refine Ensures.bind (h 0 x rfl) fun _ => ?_
    have hl := ih (first + 1) fun k y hy => by
      have := h (k + 1) y hy
      rwa [show first + (k + 1) = first + 1 + k by omega] at this
    rwa [show first + (x :: l).length = first + 1 + l.length by rw [List.length_cons]; omega]

/-- A walk beside itself. -/
def Alone (I : World σ → Prop) (w v : World σ) : Prop :=
  w = v ∧ I w

theorem Ensures.mirrors {J F : World σ → Prop} {x : Act σ α}
    (h : Ensures I (fun _ => J) (fun _ => F) x) : Mirrors (Alone I) (Alone J) (Alone F) x x := by
  rintro w _ ⟨rfl, hw⟩
  have h' := h w hw
  revert h'
  rcases x.runOn w with ⟨e | a, w'⟩
  · exact fun h => ⟨rfl, rfl, h⟩
  · exact fun h => ⟨rfl, rfl, h⟩

theorem Mirrors.ensures {J F : World σ → Prop} {x : Act σ α}
    (h : Mirrors (Alone I) (Alone J) (Alone F) x x) :
    Ensures I (fun _ => J) (fun _ => F) x := by
  intro w hw
  have h' := h w w ⟨rfl, hw⟩
  revert h'
  rcases x.runOn w with ⟨e | a, w'⟩
  · exact fun h => h.2.2
  · exact fun h => h.2.2

end Act

/-! ### Steps -/

section

variable {T S F : World σ → World τ → Prop} (hS : Steady S) (options : WalkOptions)
  (context kind : Value) (node? : Option Value)

/-- Methods that lead from related worlds to related worlds, whether they fail or not. -/
def HooksMatch (T S : World σ → World τ → Prop) (hook : Hook σ) (hook' : Hook τ) : Prop :=
  ∀ args, Act.Mirrors T S S (hook args) (hook' args)

include hS

theorem mirrors_abort {α : Type} (direction : Direction) (e : Ref) :
    Act.Mirrors (α := α) S S S (abort kind direction node? e) (abort kind direction node? e) := by
  refine Act.Mirrors.bind (Act.mirrors_action hS (fun _ _ => id) _) fun words => ?_
  refine Act.Mirrors.bind (Act.mirrors_action hS (fun _ _ => id) _) fun report => ?_
  exact Act.mirrors_action hS (fun _ _ => id) _

theorem mirrors_endEnter (pruned : Bool) :
    Act.Mirrors S S S (endEnter options kind node? pruned) (endEnter options kind node? pruned) := by
  have hpure : Act.Mirrors (σ := σ) S S S (pure pruned) (pure pruned) :=
    Act.matches_pure fun _ _ hw => ⟨rfl, hw⟩
  unfold endEnter
  dsimp only
  split
  · cases node? with
    | none =>
      refine Act.Mirrors.bind (Act.mirrors_action hS (fun _ _ => id) _) fun shown => ?_
      exact Act.Mirrors.bind (Act.mirrors_log hS _) fun _ => hpure
    | some node =>
      refine Act.Mirrors.bind (Act.mirrors_action hS (fun _ _ => id) _) fun shown => ?_
      exact Act.Mirrors.bind (Act.mirrors_log hS _) fun _ => hpure
  · exact hpure

/-- Entering, where there is a method for every kind. -/
theorem mirrors_enterStep {P : World σ → World τ → Prop} {visitor : Visitor σ}
    {visitor' : Visitor τ} (hF : ∀ w v, S w v → F w v)
    (hl : Act.Matches P (fun hook? hook?' w v => T w v ∧ ∃ hook hook', hook? = some hook ∧
        hook?' = some hook' ∧ HooksMatch T S hook hook') F
      (visitor.hook? ⟨kind, .enter, false⟩) (visitor'.hook? ⟨kind, .enter, false⟩)) :
    Act.Mirrors P S F (enterStep options visitor context kind node?)
      (enterStep options visitor' context kind node?) := by
  rw [enterStep_eq, enterStep_eq]
  refine Act.Matches.bind hl fun hook? hook?' w v ⟨hw, hook, hook', h, h', hh⟩ => ?_
  subst h h'
  have hjudge := Act.Matches.judge hS (hh (hookArgs context node?))
    (mirrors_abort hS kind node? .enter)
  exact (Act.Mirrors.bind hjudge (mirrors_endEnter hS options kind node?)).weaken
    (fun _ _ _ _ => id) hF w v hw

/-- Leaving, where there is a method for every kind. -/
theorem mirrors_leaveStep {P : World σ → World τ → Prop} {visitor : Visitor σ}
    {visitor' : Visitor τ} (hF : ∀ w v, S w v → F w v)
    (hl : Act.Matches P (fun hook? hook?' w v => T w v ∧ ∃ hook hook', hook? = some hook ∧
        hook?' = some hook' ∧ HooksMatch T S hook hook') F
      (visitor.hook? ⟨kind, .leave, false⟩) (visitor'.hook? ⟨kind, .leave, false⟩)) :
    Act.Mirrors P S F (leaveStep visitor context kind node?)
      (leaveStep visitor' context kind node?) := by
  rw [leaveStep_eq, leaveStep_eq]
  refine Act.Matches.bind hl fun hook? hook?' w v ⟨hw, hook, hook', h, h', hh⟩ => ?_
  subst h h'
  have hjudge := Act.Matches.judge hS (hh (hookArgs context node?))
    (mirrors_abort hS kind node? .leave)
  exact (Act.Mirrors.bind hjudge fun _ => Act.matches_pure fun _ _ hw => ⟨rfl, hw⟩).weaken
    (fun _ _ _ _ => id) hF w v hw

end

/-! ### Walks -/

variable {R : Path → World σ → World τ → Prop} {F : World σ → World τ → Prop}
  (options : WalkOptions) (visitor : Visitor σ) (visitor' : Visitor τ) (context : Value)

/-- The kind of a root that is accepted has a property, if it can be read. -/
def Store.RootKind (s : Store) (root : Value) (accept : Value → Prop) : Prop :=
  ∀ ⦃s₁ s₂ kind⦄, (Action.checkRoot root).perform.runOn s = (.ok (), s₁) →
    (Action.attr root "kind").perform.runOn s₁ = (.ok kind, s₂) → accept kind

/-- The steps into and out of the frames inside of others lead from related worlds to related
worlds, where `R` is the relation inside of open frames and `F` the one after a failure. -/
structure StepsMatch (R : Path → World σ → World τ → Prop) (F : World σ → World τ → Prop) : Prop where
  steady : ∀ path, Steady (R path)
  failed : Steady F
  fails : ∀ {path w v}, R path w v → F w v
  enter : ∀ f p above, Act.Mirrors (R (p :: above)) (R (f :: p :: above)) F
    (enterStep options visitor context f.kind f.node?)
    (enterStep options visitor' context f.kind f.node?)
  leave : ∀ f p above, Act.Mirrors (R (f :: p :: above)) (R (p :: above)) F
    (leaveStep visitor context f.kind f.node?) (leaveStep visitor' context f.kind f.node?)

variable {options visitor visitor' context} (h : StepsMatch options visitor visitor' context R F)
include h

theorem StepsMatch.action {α : Type} (path : Path) (act : Action α) :
    Act.Mirrors (R path) (R path) F (liftM act) (liftM act) :=
  Act.mirrors_action (h.steady path) (fun _ _ => h.fails) act

theorem StepsMatch.failedAction {α : Type} (act : Action α) :
    Act.Mirrors F F F (liftM act) (liftM act) :=
  Act.mirrors_action h.failed (fun _ _ => id) act

theorem StepsMatch.within {α : Type} {P : World σ → World τ → Prop} {x : Act σ α} {y : Act τ α}
    (stage : Stage) (hx : Act.Mirrors P P F x y) :
    Act.Mirrors P P F (Act.within stage x) (Act.within stage y) :=
  Act.Matches.onReport h.failed hx fun e => h.failedAction (Action.recordStage (.ref e) stage.text)

omit h in
/-- A frame leads from related worlds to related worlds if what is inside does. -/
theorem matches_framed {P Q : World σ → World τ → Prop} {path : Path} {enter : Act σ Bool}
    {enter' : Act τ Bool} {inner leave : Act σ Unit} {inner' leave' : Act τ Unit}
    (he : Act.Mirrors P (R path) F enter enter') (hi : Act.Mirrors (R path) (R path) F inner inner')
    (hl : Act.Mirrors (R path) Q F leave leave') :
    Act.Mirrors P Q F (Act.framed enter inner leave) (Act.framed enter' inner' leave') := by
  unfold Act.framed
  refine Act.Mirrors.bind he fun pruned => ?_
  cases pruned with
  | true => exact hl
  | false => exact Act.Mirrors.bind hi fun _ => hl

theorem matches_reject (path : Path) (kind : String) (element : Value) :
    Act.Mirrors (α := Unit) (R path) (R path) F (rejectElement kind element)
      (rejectElement kind element) :=
  Act.Mirrors.bind (h.action path _) fun _ => h.action path _

section

variable {visit : Value → Act σ Unit} {visit' : Value → Act τ Unit}
  (hv : ∀ p above v, Act.Mirrors (R (p :: above)) (R (p :: above)) F (visit v) (visit' v))
include hv

theorem matches_element (kind : String) (p : Frame) (above : Path) (element : Value) :
    Act.Mirrors (R (p :: above)) (R (p :: above)) F
      (walkElement options visitor context visit kind element)
      (walkElement options visitor' context visit' kind element) := by
  rcases hk : variants? kind with - | classes
  · rw [walkElement_plain _ _ _ _ hk, walkElement_plain _ _ _ _ hk]
    refine Act.Mirrors.bind (h.action _ _) fun isNode => ?_
    cases isNode with
    | true => exact hv p above element
    | false => exact matches_reject h _ kind element
  · rw [walkElement_variant _ _ _ _ hk, walkElement_variant _ _ _ _ hk]
    refine Act.Mirrors.bind (h.action _ _) fun isVariant => ?_
    cases isVariant with
    | false => exact matches_reject h _ kind element
    | true =>
      refine matches_framed (h.enter (.variant kind element) p above) ?_
        (h.leave (.variant kind element) p above)
      refine Act.Matches.onReport h.failed (hv _ _ element) fun e => ?_
      refine Act.Mirrors.bind (h.failedAction _) fun kind => ?_
      exact Act.Mirrors.bind (h.failedAction _) fun words => h.failedAction _

theorem matches_list (kind : String) (p : Frame) (above : Path) (nodes : Value) :
    Act.Mirrors (R (p :: above)) (R (p :: above)) F
      (walkList options visitor context visit kind nodes)
      (walkList options visitor' context visit' kind nodes) := by
  rw [walkList_eq, walkList_eq]
  refine Act.Mirrors.bind (h.action _ _) fun isTrue => ?_
  cases isTrue with
  | false => exact Act.matches_pure fun _ _ hw => ⟨rfl, hw⟩
  | true =>
    refine matches_framed (h.enter (.list kind) p above) ?_ (h.leave (.list kind) p above)
    refine Act.Mirrors.bind (h.action _ _) fun elements => Act.mirrors_forM fun element _ => ?_
    exact Act.Mirrors.bind (h.within _ (matches_element h hv kind _ _ element))
      fun _ => h.action _ _

theorem matches_lists (kind node : Value) (p : Frame) (above : Path) :
    Act.Mirrors (R (p :: above)) (R (p :: above)) F
      (walkLists options visitor context visit kind node)
      (walkLists options visitor' context visit' kind node) := by
  refine Act.Mirrors.bind (h.action _ _) fun walked => Act.mirrors_forM fun (key, listKind) _ => ?_
  refine h.within _ (Act.Mirrors.bind (h.action _ _) fun nodes => ?_)
  exact matches_list h hv listKind p above nodes

end

/-- Nodes inside of other frames. -/
theorem matches_walkNode (depth : Nat) (p : Frame) (above : Path) (node : Value) :
    Act.Mirrors (R (p :: above)) (R (p :: above)) F (walkNode options visitor context depth node)
      (walkNode options visitor' context depth node) := by
  induction depth generalizing p above node with
  | zero => exact Act.mirrors_throw .tooDeep fun _ _ => h.fails
  | succ depth ih =>
    rw [walkNode_succ, walkNode_succ]
    refine Act.Mirrors.bind (h.action _ _) fun kind => ?_
    refine matches_framed (h.enter (.node kind node) p above) ?_ (h.leave (.node kind node) p above)
    exact matches_lists h (fun p above v => ih p above v) kind node _ _

section

variable {root : Value} {accept : Value → Prop} {P Q : World σ → World τ → Prop} (hP : Steady P)
  (hPF : ∀ w v, P w v → F w v)
  (henter : ∀ kind, accept kind → Act.Mirrors P (R [.node kind root]) F
    (enterStep options visitor context kind (some root))
    (enterStep options visitor' context kind (some root)))
  (hleave : ∀ kind, Act.Mirrors (R [.node kind root]) Q F
    (leaveStep visitor context kind (some root)) (leaveStep visitor' context kind (some root)))
include hP hPF henter hleave

theorem matches_root (depth : Nat) :
    Act.Mirrors (fun w v => P w v ∧ ∀ {kind s},
        (Action.attr root "kind").perform.runOn w.store = (.ok kind, s) → accept kind) Q F
      (walkNode options visitor context depth root)
      (walkNode options visitor' context depth root) := by
  rintro w v ⟨hw, hkind⟩
  cases depth with
  | zero => exact ⟨rfl, hPF w v hw⟩
  | succ depth =>
    have hread := Act.mirrors_action (F := F) hP hPF (Action.attr root "kind") w v hw
    rw [walkNode_succ, walkNode_succ, Act.runOn_bind, Act.runOn_bind]
    rw [Act.runOn_action, Act.runOn_action, ← hP.store hw] at hread ⊢
    rcases hk : (Action.attr root "kind").perform.runOn w.store with ⟨halt | kind, s⟩
    · rw [hk] at hread
      exact hread
    rw [hk] at hread
    refine matches_framed (henter kind (hkind hk)) ?_ (hleave kind) _ _ hread.2
    exact matches_lists h (matches_walkNode h depth) kind root _ _

/-- **Walks side by side.** Walks from the same root end in the same way, if the steps into and out of
the root lead from related worlds to related worlds: for entering it is enough that they do for the
kinds that the root can have. -/
theorem matches_walk :
    Act.Mirrors (fun w v => P w v ∧ w.store.RootKind root accept) Q F
      (walk options visitor context root) (walk options visitor' context root) := by
  rintro w v ⟨hw, hkind⟩
  have hcheck := Act.mirrors_action (F := F) hP hPF (Action.checkRoot root) w v hw
  unfold walk
  rw [Act.runOn_bind, Act.runOn_bind]
  rw [Act.runOn_action, Act.runOn_action, ← hP.store hw] at hcheck ⊢
  rcases hc : (Action.checkRoot root).perform.runOn w.store with ⟨halt | _, s⟩
  · rw [hc] at hcheck
    exact hcheck
  rw [hc] at hcheck
  refine Act.Matches.onReport h.failed (matches_root h hP hPF henter hleave _) (fun e => ?_) _ _
    ⟨hcheck.2, fun hk => hkind hc hk⟩
  split
  · refine Act.Mirrors.bind (h.failedAction _) fun shown => ?_
    exact Act.Mirrors.bind (h.failedAction _) fun text => Act.mirrors_log h.failed _
  · exact Act.matches_pure fun _ _ hw => ⟨rfl, hw⟩

end

end
end GraphQLTree
