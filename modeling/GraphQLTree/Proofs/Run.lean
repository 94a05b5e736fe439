import GraphQLTree.Walk.Basic
import Mathlib.Tactic.Common

/-! # Runs of steps

What a step of a walk does is read off its run on a world: the outcome and the world after it. The
equations here say how the runs of compound steps are made up of the runs of their parts, and the
laws about `framed` do so for the pattern of every step that is entered and left. -/

namespace GraphQLTree

/-! ### Effects and actions -/

namespace Effect

variable {α β : Type}

@[simp] theorem runOn_pure (a : α) (s : Store) : (pure a : Effect α).runOn s = (.ok a, s) := rfl

@[simp] theorem runOn_throw (h : Halt) (s : Store) :
    (throw h : Effect α).runOn s = (.error h, s) := rfl

@[simp] theorem runOn_get (s : Store) : (get : Effect Store).runOn s = (.ok s, s) := rfl

theorem runOn_bind (x : Effect α) (f : α → Effect β) (s : Store) :
    (x >>= f).runOn s = match x.runOn s with
      | (.ok a, s') => (f a).runOn s'
      | (.error h, s') => (.error h, s') := by
  have hx : x.runOn s = StateT.run x s := rfl
  change StateT.run (ExceptT.bind x f) s = _
  unfold ExceptT.bind ExceptT.mk
  rw [StateT.run_bind, hx]
  rcases StateT.run x s with ⟨_ | a, s'⟩ <;> rfl

theorem runOn_bind_ok {x : Effect α} {s s' : Store} {a : α} (h : x.runOn s = (.ok a, s'))
    (f : α → Effect β) : (x >>= f).runOn s = (f a).runOn s' := by
  rw [runOn_bind, h]

theorem runOn_bind_error {x : Effect α} {s s' : Store} {e : Halt}
    (h : x.runOn s = (.error e, s')) (f : α → Effect β) :
    (x >>= f).runOn s = (.error e, s') := by
  rw [runOn_bind, h]

theorem runOn_map_error {s s' : Store} {halt : Halt} {act : Effect α} (f : α → β)
    (h : act.runOn s = (.error halt, s')) : (f <$> act).runOn s = (.error halt, s') :=
  runOn_bind_error (f := fun a => pure (f a)) h

theorem runOn_tryCatch (act : Effect α) (f : Halt → Effect α) (s : Store) :
    (tryCatch act f).runOn s = match act.runOn s with
      | (.ok a, s') => (.ok a, s')
      | (.error halt, s') => (f halt).runOn s' := by
  have hact : act.runOn s = StateT.run act s := rfl
  change StateT.run (ExceptT.tryCatch act f) s = _
  unfold ExceptT.tryCatch ExceptT.mk
  rw [StateT.run_bind, hact]
  rcases StateT.run act s with ⟨_ | a, s'⟩ <;> rfl

theorem runOn_handling {cls : ErrorClass} {act : Effect α} {handler : Ref → Effect α}
    {s s' : Store} {e : Ref} (h : act.runOn s = (.error (.raised e), s'))
    (he : isErrorOf cls s' e = true) :
    (handling cls act handler).runOn s = (handler e).runOn s' := by
  unfold handling
  rw [runOn_tryCatch, h]
  refine (runOn_bind_ok (runOn_get s') _).trans ?_
  rw [if_pos he]

/-- A compound effect that succeeds is made up of effects that do. -/
theorem bind_ok_iff {x : Effect α} {f : α → Effect β} {s s' : Store} {b : β} :
    (x >>= f).runOn s = (.ok b, s') ↔
      ∃ a s₁, x.runOn s = (.ok a, s₁) ∧ (f a).runOn s₁ = (.ok b, s') := by
  rw [runOn_bind]
  rcases x.runOn s with ⟨_ | a, s₁⟩
  · simp
  · simp

end Effect

namespace Effect

variable {α β : Type}

/-- An effect that cannot succeed. -/
def Fails (act : Effect α) : Prop :=
  ∀ s, ∃ e s', act.runOn s = (.error e, s')

theorem Fails.bind {f : α → Effect β} (h : ∀ a, (f a).Fails) (x : Effect α) :
    (x >>= f).Fails := by
  intro s
  rw [runOn_bind]
  rcases x.runOn s with ⟨e | a, s'⟩
  · exact ⟨e, s', rfl⟩
  · exact h a s'

theorem fails_fail (fault : Fault) : (fail fault : Effect α).Fails :=
  fun _ => ⟨_, _, rfl⟩

end Effect

namespace Action

variable {α β : Type}

/-- An action that cannot succeed, however values behave. -/
def Fails (act : Action α) : Prop :=
  ∀ b, Effect.Fails (act b)

theorem Fails.bind {f : α → Action β} (h : ∀ a, (f a).Fails) (x : Action α) : (x >>= f).Fails :=
  fun b => Effect.Fails.bind (fun a => h a b) (x b)

/-- Raising ends in an error, whether what is raised is an error or not. -/
theorem fails_raiseOf (e : Value) : Fails (do
    match e, isError (← get) e with
    | .ref r, true => throw (.raised r)
    | _, _ => fail .notRaisable : Action α) := by
  refine Fails.bind (fun s => ?_) _
  split
  · exact fun _ s => ⟨_, s, rfl⟩
  · exact fun _ => Effect.fails_fail .notRaisable

theorem fails_raise (v : Value) : (raise v : Action α).Fails := by
  unfold raise
  refine Fails.bind (fun s => ?_) _
  dsimp only
  split
  · split
    · exact Fails.bind fails_raiseOf _
    · exact Fails.bind fails_raiseOf _
  · exact Fails.bind fails_raiseOf _

theorem fails_raiseNew (cls : ErrorClass) (args : List Value) :
    (raiseNew cls args : Action α).Fails :=
  Fails.bind (fun v => fails_raise v) _

end Action

theorem Action.runOn_bind_ok {α β : Type} {x : Action α} {b : Behaviour} {s s' : Store} {a : α}
    (h : Effect.runOn (x b) s = (.ok a, s')) (f : α → Action β) :
    Effect.runOn ((x >>= f) b) s = Effect.runOn (f a b) s' :=
  Effect.runOn_bind_ok h _

theorem Action.runOn_perform {α : Type} (act : Action α) (s : Store) :
    act.perform.runOn s = Effect.runOn (act (Behaviour.level s.depthLimit)) s := rfl

/-- The walked attributes of a kind are those that the table gives for its text. -/
theorem Action.mem_walkedAttrs {table : WalkTable} {kind : Value} {s s' : Store}
    {walked : List (String × String)}
    (h : (walkedAttrs table kind).perform.runOn s = (.ok walked, s')) :
    ∀ entry ∈ walked, ∃ text, kind = .text text ∧ entry ∈ table.entries text := by
  cases kind with
  | text kind =>
    obtain ⟨_, _, -, h⟩ := Effect.bind_ok_iff (f := fun _ => pure (table.entries kind)) |>.mp h
    obtain rfl := Except.ok.inj (congrArg Prod.fst h)
    exact fun entry he => ⟨kind, rfl, he⟩
  | _ =>
    obtain ⟨_, _, -, h⟩ := Effect.bind_ok_iff (f := fun _ => pure []) |>.mp h
    obtain rfl := Except.ok.inj (congrArg Prod.fst h)
    exact nofun

/-! ### Steps -/

namespace Act

variable {σ α β : Type}

theorem ext {x y : Act σ α} (h : ∀ w, x.runOn w = y.runOn w) : x = y := funext h

@[simp] theorem runOn_pure (a : α) (w : World σ) : (pure a : Act σ α).runOn w = (.ok a, w) := rfl

@[simp] theorem runOn_throw (h : Halt) (w : World σ) :
    (throw h : Act σ α).runOn w = (.error h, w) := rfl

@[simp] theorem runOn_store (w : World σ) : (store : Act σ Store).runOn w = (.ok w.store, w) := rfl

@[simp] theorem runOn_log (line : String) (w : World σ) :
    (log line).runOn w = (.ok (), { w with log := w.log ++ [line] }) := rfl

theorem runOn_effect (e : Effect α) (w : World σ) :
    (effect e : Act σ α).runOn w =
      ((e.runOn w.store).1, { w with store := (e.runOn w.store).2 }) := rfl

theorem runOn_action (act : Action α) (w : World σ) :
    (liftM act : Act σ α).runOn w =
      ((act.perform.runOn w.store).1, { w with store := (act.perform.runOn w.store).2 }) := rfl

theorem runOn_bind (x : Act σ α) (f : α → Act σ β) (w : World σ) :
    (x >>= f).runOn w = match x.runOn w with
      | (.ok a, w') => (f a).runOn w'
      | (.error h, w') => (.error h, w') := by
  have hx : x.runOn w = StateT.run x w := rfl
  change StateT.run (ExceptT.bind x f) w = _
  unfold ExceptT.bind ExceptT.mk
  rw [StateT.run_bind, hx]
  rcases StateT.run x w with ⟨_ | a, w'⟩ <;> rfl

theorem runOn_tryCatch (x : Act σ α) (f : Halt → Act σ α) (w : World σ) :
    (tryCatch x f).runOn w = match x.runOn w with
      | (.ok a, w') => (.ok a, w')
      | (.error h, w') => (f h).runOn w' := by
  have hx : x.runOn w = StateT.run x w := rfl
  change StateT.run (ExceptT.tryCatch x f) w = _
  unfold ExceptT.tryCatch ExceptT.mk
  rw [StateT.run_bind, hx]
  rcases StateT.run x w with ⟨_ | a, w'⟩ <;> rfl

theorem runOn_bind_ok {x : Act σ α} {w w' : World σ} {a : α} (h : x.runOn w = (.ok a, w'))
    (f : α → Act σ β) : (x >>= f).runOn w = (f a).runOn w' := by
  rw [runOn_bind, h]

theorem runOn_bind_error {x : Act σ α} {w w' : World σ} {e : Halt}
    (h : x.runOn w = (.error e, w')) (f : α → Act σ β) :
    (x >>= f).runOn w = (.error e, w') := by
  rw [runOn_bind, h]

/-- A compound step that succeeds is made up of steps that do. -/
theorem bind_ok_iff {x : Act σ α} {f : α → Act σ β} {w w' : World σ} {b : β} :
    (x >>= f).runOn w = (.ok b, w') ↔
      ∃ a w₁, x.runOn w = (.ok a, w₁) ∧ (f a).runOn w₁ = (.ok b, w') := by
  rw [runOn_bind]
  rcases x.runOn w with ⟨_ | a, w₁⟩
  · simp
  · simp

/-- A step that cannot succeed. -/
def Fails (act : Act σ α) : Prop :=
  ∀ w, ∃ e w', act.runOn w = (.error e, w')

theorem Fails.bind {f : α → Act σ β} (h : ∀ a, (f a).Fails) (x : Act σ α) : (x >>= f).Fails := by
  intro w
  rw [runOn_bind]
  rcases x.runOn w with ⟨e | a, w'⟩
  · exact ⟨e, w', rfl⟩
  · exact h a w'

theorem fails_action {act : Action α} (h : act.Fails) :
    Fails (liftM act : Act σ α) := by
  intro w
  obtain ⟨e, s', hs⟩ := h (Behaviour.level w.store.depthLimit) w.store
  refine ⟨e, { w with store := s' }, ?_⟩
  rw [runOn_action, Action.runOn_perform, hs]

theorem Fails.ne_ok {act : Act σ α} (h : act.Fails) {w w' : World σ} {a : α} :
    act.runOn w ≠ (.ok a, w') := by
  obtain ⟨e, w₁, he⟩ := h w
  rw [he]
  nofun

/-! What is judged to be no failure does not depend on what is done about failures. -/

theorem judge_ok {run : Act σ Value} {fatal fatal' : Ref → Act σ Bool} {w w' : World σ} {b : Bool}
    (hf : ∀ e, (fatal e).Fails) (h : (judge run fatal).runOn w = (.ok b, w')) :
    (judge run fatal').runOn w = (.ok b, w') := by
  unfold judge handle at h ⊢
  rw [runOn_tryCatch] at h ⊢
  rcases hr : (run >>= fun answer => pure (Action.asksToPrune answer)).runOn w with ⟨halt | a, w₁⟩
  · rw [hr] at h
    cases halt with
    | tooDeep => exact h
    | raised e =>
      dsimp only at h ⊢
      rw [runOn_bind_ok (runOn_store w₁)] at h ⊢
      by_cases hg : Effect.isErrorOf .general w₁.store e = true
      · rw [if_pos hg] at h ⊢
        rw [runOn_bind] at h ⊢
        rcases hp : (liftM (Action.pruneSignal (.ref e)) : Act σ _).runOn w₁ with
          ⟨e' | _ | prune, w₂⟩
        · rw [hp] at h
          exact h
        · rw [hp] at h
          exact absurd h (hf e).ne_ok
        · rw [hp] at h
          exact h
      · rw [if_neg hg] at h ⊢
        exact h
  · rw [hr] at h
    exact h

/-- A method that raises a signal is judged by it. -/
theorem runOn_judge_signal {run : Act σ Value} {w w₁ : World σ} {e : Ref} {prune : Bool} {s : Store}
    (hr : run.runOn w = (.error (.raised e), w₁))
    (hg : Effect.isErrorOf .general w₁.store e = true)
    (hs : (Action.pruneSignal (.ref e)).perform.runOn w₁.store = (.ok (some prune), s))
    (fatal : Ref → Act σ Bool) :
    (judge run fatal).runOn w = (.ok prune, { w₁ with store := s }) := by
  have hp : (liftM (Action.pruneSignal (.ref e)) : Act σ _).runOn w₁ =
      (.ok (some prune), { w₁ with store := s }) := by
    rw [runOn_action, hs]
  unfold judge handle
  rw [runOn_tryCatch, runOn_bind_error hr]
  dsimp only
  rw [runOn_bind_ok (runOn_store w₁), if_pos hg, runOn_bind_ok hp]
  rfl

/-- Whether a method that ends so asks to skip what is inside: it answers `SKIP` or false, or it raises
an ordinary error with a prune signal that is true. -/
def AsksToSkip : Except Halt Value → Store → Prop
  | .ok answer, _ => answer = .skip ∨ answer = .bool false
  | .error (.raised e), s => Effect.isErrorOf .general s e = true ∧
      ∃ s', (Action.pruneSignal (.ref e)).perform.runOn s = (.ok (some true), s')
  | .error .tooDeep, _ => False

/-- A method that is no failure is judged by how it ends. -/
theorem judge_asksToSkip {run : Act σ Value} {fatal : Ref → Act σ Bool} {w w' : World σ} {b : Bool}
    (hf : ∀ e, (fatal e).Fails) (h : (judge run fatal).runOn w = (.ok b, w')) :
    b = true ↔ AsksToSkip (run.runOn w).1 (run.runOn w).2.store := by
  unfold judge handle at h
  rw [runOn_tryCatch, runOn_bind] at h
  rcases hr : run.runOn w with ⟨(e | _) | answer, w₁⟩
  · rw [hr] at h
    dsimp only at h
    rw [runOn_bind_ok (runOn_store w₁)] at h
    by_cases hg : Effect.isErrorOf .general w₁.store e = true
    · rw [if_pos hg] at h
      obtain ⟨signal, w₂, hp, hb⟩ := bind_ok_iff.mp h
      rw [runOn_action] at hp
      obtain ⟨hp, -⟩ := Prod.mk.inj hp
      cases signal with
      | none => exact absurd hb (hf e).ne_ok
      | some prune =>
        obtain rfl : prune = b := Except.ok.inj (congrArg Prod.fst hb)
        refine ⟨fun ht => ⟨hg, _, Prod.ext (ht ▸ hp) rfl⟩, fun ⟨_, s, hs⟩ => ?_⟩
        exact Option.some.inj (Except.ok.inj (hp.symm.trans (congrArg Prod.fst hs)))
    · rw [if_neg hg] at h
      cases congrArg Prod.fst h
  · rw [hr] at h
    cases congrArg Prod.fst h
  · rw [hr] at h
    obtain rfl : Action.asksToPrune answer = b := Except.ok.inj (congrArg Prod.fst h)
    unfold Action.asksToPrune AsksToSkip
    rw [Bool.or_eq_true, decide_eq_true_eq, decide_eq_true_eq]

/-! Doing something about a failure report does not turn failure into success or back. -/

theorem onReport_ok {x : Act σ α} {w w₁ : World σ} {a : α} (h : x.runOn w = (.ok a, w₁))
    (note : Ref → Act σ Unit) : (onReport x note).runOn w = (.ok a, w₁) := by
  unfold onReport
  rw [runOn_tryCatch, h]

theorem onReport_error {x : Act σ α} {w w₁ : World σ} {e : Halt} (h : x.runOn w = (.error e, w₁))
    (note : Ref → Act σ Unit) : ∃ e' w₂, (onReport x note).runOn w = (.error e', w₂) := by
  unfold onReport
  rw [runOn_tryCatch, h]
  cases e with
  | tooDeep => exact ⟨_, _, rfl⟩
  | raised e =>
    dsimp only
    rw [runOn_bind_ok (runOn_store w₁)]
    split
    · rw [runOn_bind]
      rcases (note e).runOn w₁ with ⟨e' | _, w₂⟩
      · exact ⟨e', w₂, rfl⟩
      · exact ⟨.raised e, w₂, rfl⟩
    · exact ⟨.raised e, w₁, rfl⟩

end Act

namespace Act

variable {σ : Type} {enter : Act σ Bool} {inner leave : Act σ Unit} {w w₁ w₂ : World σ}

/-- Something entered and left, with what is done inside unless entering asks to skip it. -/
def framed (enter : Act σ Bool) (inner leave : Act σ Unit) : Act σ Unit := do
  unless ← enter do inner
  leave

theorem framed_error {e : Halt} (h : enter.runOn w = (.error e, w₁)) :
    (framed enter inner leave).runOn w = (.error e, w₁) := runOn_bind_error h _

theorem framed_pruned (h : enter.runOn w = (.ok true, w₁)) :
    (framed enter inner leave).runOn w = leave.runOn w₁ := runOn_bind_ok h _

theorem framed_entered (h : enter.runOn w = (.ok false, w₁)) :
    (framed enter inner leave).runOn w = (inner >>= fun _ => leave).runOn w₁ := runOn_bind_ok h _

end Act

/-! ### Steps in parts -/

section

variable {σ : Type} (options : WalkOptions) (visitor : Visitor σ) (context : Value)

/-- The end of entering: that something is skipped is logged if that is asked for. -/
def endEnter (kind : Value) (node? : Option Value) (pruned : Bool) : Act σ Bool := do
  if pruned && options.debug then
    let shown ← match node? with
      | none => Action.text kind
      | some node => Action.describedText node
    Act.log ("Pruning " ++ shown ++ ".")
  return pruned

theorem enterStep_eq (kind : Value) (node? : Option Value) :
    enterStep options visitor context kind node? =
      visitor.hook? ⟨kind, .enter, false⟩ >>= fun
        | none => pure false
        | some hook =>
          Act.judge (hook (hookArgs context node?)) (abort kind .enter node?) >>=
            endEnter options kind node? := rfl

variable {options} in
theorem endEnter_ok {kind : Value} {node? : Option Value} {asked pruned : Bool} {w w' : World σ}
    (h : (endEnter options kind node? asked).runOn w = (.ok pruned, w')) : asked = pruned := by
  unfold endEnter at h
  dsimp only at h
  split at h
  · cases node? with
    | none | some =>
      obtain ⟨_, _, -, h⟩ := Act.bind_ok_iff.mp h
      exact Except.ok.inj (congrArg Prod.fst h)
  · exact Except.ok.inj (congrArg Prod.fst h)

theorem leaveStep_eq (kind : Value) (node? : Option Value) :
    leaveStep visitor context kind node? =
      visitor.hook? ⟨kind, .leave, false⟩ >>= fun
        | none => pure ()
        | some hook =>
          discard (Act.judge (hook (hookArgs context node?)) (abort kind .leave node?)) := rfl

theorem fails_abort {α : Type} (kind : Value) (direction : Direction) (node? : Option Value)
    (e : Ref) : Act.Fails (abort kind direction node? e : Act σ α) := by
  refine Act.Fails.bind (fun words => ?_) _
  refine Act.Fails.bind (fun report => ?_) _
  exact Act.fails_action (Action.fails_raise report)

theorem fails_rejectElement {α : Type} (kind : String) (element : Value) :
    Act.Fails (rejectElement kind element : Act σ α) :=
  Act.Fails.bind (fun _ => Act.fails_action (Action.fails_raiseNew _ _)) _

/-- The part of the walk of an element that is known to be a variant. -/
def walkVariant (visit : Value → Act σ Unit) (kind : String) (element : Value) : Act σ Unit :=
  Act.framed (enterStep options visitor context (.text kind) (some element))
    (Act.onReport (visit element) fun e => do
      let words ← Action.kindWords (← Action.attr element "kind")
      Action.recordStage (.ref e) (Stage.variant words).text)
    (leaveStep visitor context (.text kind) (some element))

theorem walkElement_variant (visit : Value → Act σ Unit) {kind : String} {classes : List NodeClass}
    (h : variants? kind = some classes) (element : Value) :
    walkElement options visitor context visit kind element =
      (do
        if ← Action.isOfAny (classes.map TypeValue.node) element then
          walkVariant options visitor context visit kind element
        else rejectElement kind element) := by
  unfold walkElement
  rw [h]
  rfl

theorem walkElement_plain (visit : Value → Act σ Unit) {kind : String}
    (h : variants? kind = none) (element : Value) :
    walkElement options visitor context visit kind element =
      (do
        if ← Action.isOf (.node .node) element then visit element
        else rejectElement kind element) := by
  unfold walkElement
  rw [h]

/-- The walk of the elements of a list. -/
def walkElements (visit : Value → Act σ Unit) (kind : String) (nodes : Value) : Act σ Unit := do
  let elements ← Action.items nodes
  elements.forM fun element => do
    Act.within (.element (plainKind kind))
      (walkElement options visitor context visit kind element)
    Action.checkSize nodes elements.length

theorem walkList_eq (visit : Value → Act σ Unit) (kind : String) (nodes : Value) :
    walkList options visitor context visit kind nodes =
      (do
        if ← Action.isTrue nodes then
          Act.framed (enterStep options visitor context (.text (kind ++ "_list")) none)
            (walkElements options visitor context visit kind nodes)
            (leaveStep visitor context (.text (kind ++ "_list")) none)) := by
  unfold walkList walkElements Act.framed
  simp only [bind_assoc]

/-- The walk of the lists of a node. -/
def walkLists (visit : Value → Act σ Unit) (kind node : Value) : Act σ Unit := do
  let walked ← Action.walkedAttrs options.table kind
  walked.forM fun (key, listKind) =>
    Act.within (.list (plainKind listKind)) do
      let nodes ← Action.attr node key
      walkList options visitor context visit listKind nodes

theorem walkNode_succ (depth : Nat) (node : Value) :
    walkNode options visitor context (depth + 1) node =
      (do
        let kind ← Action.attr node "kind"
        Act.framed (enterStep options visitor context kind (some node))
          (walkLists options visitor context (walkNode options visitor context depth) kind node)
          (leaveStep visitor context kind (some node))) := by
  conv_lhs => unfold walkNode
  unfold walkLists Act.framed
  simp only [bind_assoc]

end

theorem eq_ok_of_toBool {ε : Type} {r : Except ε Unit} (h : r.toBool = true) : r = .ok () := by
  cases r with
  | error => nomatch h
  | ok => rfl

end GraphQLTree
