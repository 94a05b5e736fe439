import GraphQLTree.Proofs.Journey
import GraphQLTree.Proofs.LockstepCourse

/-! # Plain visitors that fail

A plain visitor may also raise errors (`Visitor.Candid`). An error without a prune signal has none
however often it is asked for one, and what the walk makes of it is told by the step where it is raised
(`Dooms`); so it does not matter that in lockstep with others it is asked twice. What a plain visitor
does at a step, fail or go on, depends on its own state only (`Visitor.Candid.determined`). -/

namespace GraphQLTree

/-! ### Errors that get out of methods -/

/-- The report of an error that a method for a frame has raised. -/
def Effect.aborted (f : Frame) (direction : Direction) (e : Ref) : Effect Bool := do
  let words ← (Action.kindWords f.kind).perform
  let stage := Value.text (Stage.hook words direction).text
  let report ← (Action.wrap (.ref e) stage (f.node?.getD .null)).perform
  (Action.raise report).perform

/-- However often an error is asked for a prune signal, it has none, and what is made of it looks the
same. -/
def Doomed (keeps : Store → Store → Prop) (f : Frame) (direction : Direction) (failed : Failed)
    (e : Ref) (s : Store) : Prop :=
  ∃ P : Store → Prop, P s ∧ ∀ s', P s' → Effect.isErrorOf .general s' e = true ∧
    (∃ s'', (Action.pruneSignal (.ref e)).perform.runOn s' = (.ok none, s'') ∧ keeps s' s'' ∧
      P s'') ∧
    ∃ halt s'', (Effect.aborted f direction e).runOn s' = (.error halt, s'') ∧
      s'.KeepsObjects s'' ∧ Failed.Seen s'' halt failed

/-- How a walk fails if a method for a step fails: an interruption stays what it is, and an ordinary
error that is no signal is made into a report. -/
def Dooms (keeps : Store → Store → Prop) (f : Frame) (direction : Direction) (failed : Failed) :
    Halt → Store → Prop
  | .tooDeep, _ => failed = .tooDeep
  | .raised e, s =>
    (Effect.isErrorOf .general s e = false ∧ Failed.Seen s (.raised e) failed) ∨
      Doomed keeps f direction failed e s

section

variable {σ : Type} {keeps : Store → Store → Prop} {s : Store} {f : Frame} {direction : Direction}
  {failed failed' : Failed} {halt : Halt} {w w' : World σ}

theorem Dooms.unique (h : Dooms keeps f direction failed halt s)
    (h' : Dooms keeps f direction failed' halt s) : failed = failed' := by
  cases halt with
  | tooDeep => exact h.trans h'.symm
  | raised e =>
    rcases h with ⟨hg, hs⟩ | ⟨P, hp, hP⟩
    · rcases h' with ⟨-, hs'⟩ | ⟨P', hp', hP'⟩
      · exact hs.unique hs'
      · nomatch hg.symm.trans (hP' s hp').1
    · obtain ⟨hg, -, halt, s₁, hr, -, hs⟩ := hP s hp
      rcases h' with ⟨hg', -⟩ | ⟨P', hp', hP'⟩
      · nomatch hg'.symm.trans hg
      · obtain ⟨-, -, halt', s₁', hr', -, hs'⟩ := hP' s hp'
        cases hr.symm.trans hr'
        exact hs.unique hs'

theorem runOn_abort (f : Frame) (direction : Direction) (e : Ref) (w : World σ) :
    (abort f.kind direction f.node? e : Act σ Bool).runOn w =
      (((Effect.aborted f direction e).runOn w.store).1,
        { w with store := ((Effect.aborted f direction e).runOn w.store).2 }) := by
  unfold abort Effect.aborted
  rw [Act.runOn_bind, Act.runOn_action, Effect.runOn_bind]
  rcases (Action.kindWords f.kind).perform.runOn w.store with ⟨halt | words, s₁⟩
  · rfl
  · dsimp only
    rw [Act.runOn_bind, Act.runOn_action, Effect.runOn_bind]
    dsimp only
    rcases (Action.wrap (.ref e) (.text (Stage.hook words direction).text)
      (f.node?.getD .null)).perform.runOn s₁ with ⟨halt | report, s₂⟩
    · rfl
    · rfl

/-- An error that is no ordinary one is not caught. -/
theorem judge_passing {run : Act σ Value} {fatal : Ref → Act σ Bool}
    (hr : run.runOn w = (.error halt, w'))
    (hg : ∀ e, halt = .raised e → Effect.isErrorOf .general w'.store e = false) :
    (Act.judge run fatal).runOn w = (.error halt, w') := by
  unfold Act.judge Act.handle
  rw [Act.runOn_tryCatch, Act.runOn_bind_error hr]
  cases halt with
  | tooDeep => rfl
  | raised e =>
    dsimp only
    rw [Act.runOn_bind_ok (Act.runOn_store w'), if_neg (by rw [hg e rfl]; nofun)]
    rfl

theorem Doomed.signal {e : Ref} (h : Doomed keeps f direction failed e w.store) :
    Effect.isErrorOf .general w.store e = true ∧ ∃ s,
      (liftM (Action.pruneSignal (.ref e)) : Act σ _).runOn w = (.ok none, { w with store := s }) ∧
      keeps w.store s ∧ Doomed keeps f direction failed e s := by
  obtain ⟨P, hp, hP⟩ := h
  obtain ⟨hg, ⟨s, hs, hk, hp'⟩, -⟩ := hP w.store hp
  refine ⟨hg, s, ?_, hk, P, hp', hP⟩
  rw [Act.runOn_action, hs]

variable [IsPreorder Store keeps]

/-- An error that is asked for a signal in vain stays what it is. -/
theorem Dooms.judge_rethrow {run : Act σ Value} (h : Dooms keeps f direction failed halt w'.store)
    (hr : run.runOn w = (.error halt, w')) :
    ∃ s, (Act.judge run Lockstep.rethrow).runOn w = (.error halt, { w' with store := s }) ∧
      keeps w'.store s ∧ Dooms keeps f direction failed halt s := by
  cases halt with
  | tooDeep => exact ⟨w'.store, judge_passing hr nofun, refl_of keeps _, h⟩
  | raised e =>
    rcases h with ⟨hg, hs⟩ | hd
    · refine ⟨w'.store, judge_passing hr fun e' he => ?_, refl_of keeps _, .inl ⟨hg, hs⟩⟩
      cases he
      exact hg
    · obtain ⟨hg, s, hp, hk, hd'⟩ := hd.signal
      exact ⟨s, judge_fatal hr hg hp, hk, .inr hd'⟩

/-- An error that is asked for a signal in vain is made into what it is doomed to be. -/
theorem Dooms.judge_abort {run : Act σ Value} (h : Dooms keeps f direction failed halt w'.store)
    (hr : run.runOn w = (.error halt, w')) :
    ∃ halt' s, (Act.judge run (abort f.kind direction f.node?)).runOn w =
        (.error halt', { w' with store := s }) ∧ Fell keeps w'.store failed halt' s := by
  cases halt with
  | tooDeep =>
    obtain rfl : failed = .tooDeep := h
    exact ⟨.tooDeep, w'.store, judge_passing hr nofun, trivial, w'.store, refl_of keeps _,
      refl_of Store.KeepsObjects _⟩
  | raised e =>
    rcases h with ⟨hg, hs⟩ | hd
    · refine ⟨.raised e, w'.store, judge_passing hr fun e' he => ?_, hs, w'.store,
        refl_of keeps _, refl_of Store.KeepsObjects _⟩
      cases he
      exact hg
    · obtain ⟨hg, s, hp, hk, P, hp', hP⟩ := hd.signal
      obtain ⟨-, -, halt', s', hr', ho, hs⟩ := hP s hp'
      refine ⟨halt', s', ?_, hs, s, hk, ho⟩
      rw [judge_fatal hr hg hp, runOn_abort, hr']

end

/-! ### Visitors -/

section

variable {σ : Type} {τ : Nat → Type} (share : Sharing σ τ) (keeps : Store → Store → Prop)
  (s₀ : Store) (i : Nat) (found : τ i → Value → Direction → Option (Hook σ)) (context : Value)

/-- The visitor of number `i` is plain, also where it fails. -/
structure Visitor.Candid (visitor : Visitor σ) : Prop extends
    visitor.Plain share keeps s₀ i found where
  /-- A method that raises an error gives a signal, or else it is known what becomes of the error, and
  the method has left alone what is not the visitor's own. -/
  fails : ∀ {f : Frame} {direction hook w halt w'}, keeps s₀ w.store →
    found (share.own i w.state) f.kind direction = some hook →
    (hook (hookArgs context f.node?)).runOn w = (.error halt, w') →
    (∃ b w₁, (Act.judge (hook (hookArgs context f.node?)) Lockstep.rethrow).runOn w =
      (.ok b, w₁)) ∨
    (∃ failed, Dooms keeps f direction failed halt w'.store) ∧ keeps w.store w'.store ∧
      ∀ j ≠ i, share.own j w'.state = share.own j w.state
  /-- A method fails in the same way whenever the visitor's own state is the same. -/
  failsAgain : ∀ {f : Frame} {direction hook w halt w' failed w₁}, keeps s₀ w.store →
    found (share.own i w.state) f.kind direction = some hook →
    (hook (hookArgs context f.node?)).runOn w = (.error halt, w') →
    Dooms keeps f direction failed halt w'.store →
    keeps s₀ w₁.store → share.own i w₁.state = share.own i w.state →
    ∃ halt₁ w₁', (hook (hookArgs context f.node?)).runOn w₁ = (.error halt₁, w₁') ∧
      Dooms keeps f direction failed halt₁ w₁'.store ∧
      share.own i w₁'.state = share.own i w'.state

/-- What a plain visitor does at a step: it goes on, or its method fails. -/
def Takes : Conduct (τ i) := fun f direction a reply a' =>
  match reply with
  | .goesOn pruned => Does share keeps s₀ i found context f direction a pruned a'
  | .fails failed => ∃ hook w halt w', found a f.kind direction = some hook ∧ keeps s₀ w.store ∧
      share.own i w.state = a ∧ (hook (hookArgs context f.node?)).runOn w = (.error halt, w') ∧
      Dooms keeps f direction failed halt w'.store ∧ share.own i w'.state = a'

end

section

variable {σ : Type} {τ : Nat → Type} {share : Sharing σ τ} {keeps : Store → Store → Prop}
  [IsPreorder Store keeps] {s₀ : Store} {i : Nat}
  {found : τ i → Value → Direction → Option (Hook σ)} {context : Value} {visitor : Visitor σ}
  (hv : visitor.Candid share keeps s₀ i found context)
include hv

theorem Visitor.Candid.not_both {f : Frame} {direction : Direction} {a a' a₁ : τ i} {pruned : Bool}
    {failed : Failed} (h : Does share keeps s₀ i found context f direction a pruned a')
    (h' : Takes share keeps s₀ i found context f direction a (.fails failed) a₁) : False := by
  obtain ⟨hook, w₁, halt, w₁', hh, hw₁, rfl, hr, hd, -⟩ := h'
  unfold Does at h
  rw [hh] at h
  obtain ⟨w, w', hw, hown, hj, -⟩ := h
  rw [← hown] at hh
  obtain ⟨_, hj', -⟩ := hv.again hw hh hj hw₁ hown.symm
  obtain ⟨_, hj'', -⟩ := hd.judge_rethrow hr
  nomatch hj'.symm.trans hj''

/-- What a plain visitor does at a step depends on its own state only. -/
theorem Visitor.Candid.determined :
    Conduct.Determined (Takes share keeps s₀ i found context) := by
  intro f direction a r a' r₁ a₁ h h₁
  cases r with
  | goesOn pruned =>
    cases r₁ with
    | fails => exact (hv.not_both h h₁).elim
    | goesOn pruned₁ =>
      unfold Takes Does at h h₁
      dsimp only at h h₁
      rcases hh : found a f.kind direction with - | hook
      · rw [hh] at h h₁
        exact ⟨congrArg Reply.goesOn (h.1.trans h₁.1.symm), h.2.trans h₁.2.symm⟩
      · rw [hh] at h h₁
        obtain ⟨w, w', hw, hown, hj, rfl⟩ := h
        obtain ⟨w₁, w₁', hw₁, hown₁, hj₁, rfl⟩ := h₁
        rw [← hown] at hh
        obtain ⟨_, hj', hown'⟩ := hv.again hw hh hj hw₁ (hown₁.trans hown.symm)
        cases hj'.symm.trans hj₁
        exact ⟨rfl, hown'.symm⟩
  | fails failed =>
    cases r₁ with
    | goesOn => exact (hv.not_both h₁ h).elim
    | fails failed₁ =>
      obtain ⟨hook, w, halt, w', hh, hw, rfl, hr, hd, rfl⟩ := h
      obtain ⟨hook₁, w₁, halt₁, w₁', hh₁, hw₁, hown, hr₁, hd₁, rfl⟩ := h₁
      cases hh.symm.trans hh₁
      obtain ⟨_, _, hr', hd', hown'⟩ := hv.failsAgain hw hh hr hd hw₁ hown
      cases hr'.symm.trans hr₁
      exact ⟨congrArg Reply.fails (hd'.unique hd₁), hown'.symm⟩

omit [IsPreorder Store keeps] in
/-- The method for a step, as it is called for itself or with others. -/
theorem Visitor.Candid.called {f : Frame} {direction : Direction} {hook : Hook σ} {w : World σ}
    (hw : keeps s₀ w.store) (hh : found (share.own i w.state) f.kind direction = some hook) :
    (∃ pruned w', (Act.judge (hook (hookArgs context f.node?)) Lockstep.rethrow).runOn w =
        (.ok pruned, w') ∧
      Takes share keeps s₀ i found context f direction (share.own i w.state) (.goesOn pruned)
        (share.own i w'.state) ∧
      keeps w.store w'.store ∧ share.books.get w'.state = share.books.get w.state ∧
      ∀ j ≠ i, share.own j w'.state = share.own j w.state) ∨
    ∃ failed halt w', (hook (hookArgs context f.node?)).runOn w = (.error halt, w') ∧
      Dooms keeps f direction failed halt w'.store ∧
      Takes share keeps s₀ i found context f direction (share.own i w.state) (.fails failed)
        (share.own i w'.state) ∧
      keeps w.store w'.store ∧ ∀ j ≠ i, share.own j w'.state = share.own j w.state := by
  have hjudged : ∀ b w', (Act.judge (hook (hookArgs context f.node?)) Lockstep.rethrow).runOn w =
      (.ok b, w') →
      Takes share keeps s₀ i found context f direction (share.own i w.state) (.goesOn b)
        (share.own i w'.state) ∧
      keeps w.store w'.store ∧ share.books.get w'.state = share.books.get w.state ∧
      ∀ j ≠ i, share.own j w'.state = share.own j w.state := by
    intro b w' hj
    refine ⟨?_, hv.method hw hh hj⟩
    unfold Takes Does
    dsimp only
    rw [hh]
    exact ⟨w, w', hw, rfl, hj, rfl⟩
  rcases hr : (hook (hookArgs context f.node?)).runOn w with ⟨halt | answer, w'⟩
  · rcases hv.fails hw hh hr with ⟨b, w₁, hj⟩ | ⟨⟨failed, hd⟩, hk, ho⟩
    · exact .inl ⟨b, w₁, hj, hjudged b w₁ hj⟩
    · exact .inr ⟨failed, halt, w', rfl, hd, ⟨hook, w, halt, w', hh, hw, rfl, hr, hd, rfl⟩, hk, ho⟩
  · have hj := runOn_judge hr Lockstep.rethrow
    exact .inl ⟨_, w', hj, hjudged _ w' hj⟩

end

/-! ### Errors with a text -/

/-- An error with a text is doomed to become a report with its text. -/
theorem Store.TextError.doomed {s : Store} {e : Ref} {cls : ErrorClass} {text kind : String}
    {f : Frame} (h : s.TextError e cls text) (ho : cls.isOrdinary = true) (ht : text ≠ "")
    (hf : f.kind = .text kind) (direction : Direction) :
    Doomed Store.Grows f direction (.raised (.report text [(hookStage direction f).text]
      (f.node?.getD .null) (some (.error cls)))) e s := by
  refine ⟨fun s => s.TextError e cls text, h, fun s' h' => ⟨h'.isErrorOf_general ho, ?_, ?_⟩⟩
  · obtain ⟨s'', hr, hg⟩ := h'.gives_pruneSignal.perform (refl_of Store.Grows s') (Nat.le_refl _)
    exact ⟨s'', hr, hg, h'.grows hg⟩
  · obtain ⟨s'', r, l, hr, hg, -, hp, hw, hl⟩ := (h'.tells ht).wrap h'.pristine
      (.text (hookStage direction f).text) (f.node?.getD .null)
    have hlisted : s''.Report r l [.text (hookStage direction f).text] := hw.report hp hl
    obtain ⟨report, hreport, -⟩ := hw
    refine ⟨.raised r, s'', ?_, hg.keepsObjects, l, report, _, hlisted, hreport, rfl, rfl, rfl,
      .ref e, rfl, e, _, rfl, (h'.grows hg).get, rfl⟩
    have hwords : (Action.kindWords f.kind).perform.runOn s' = (.ok f.kind.words, s') := by
      rw [hf]
      rfl
    refine (Effect.runOn_bind_ok hwords _).trans ?_
    refine (Effect.runOn_bind_ok hr _).trans ?_
    rw [Action.runOn_perform, runOn_raiseReport hlisted.isReport]

/-- The methods of a visitor that raises an error where a node of a kind is entered. -/
def raisingHook? {σ τ : Type} (kind text : String) : τ → Value → Direction → Option (Hook σ) :=
  fun _ asked direction =>
    if asked = .text kind ∧ direction = .enter then
      some fun _ => (Effect.fail (.other .badValue text) : Effect Value)
    else none

/-- A visitor that only raises errors with a text is plain. -/
theorem raisingVisitor_candid {σ : Type} {τ : Nat → Type} {share : Sharing σ τ} {s : Store}
    {kind text : String} (hc : s.classAttrs = []) (ht : text ≠ "") (i : Nat) (context : Value) :
    (raisingVisitor kind text).Candid share Store.Grows s i (raisingHook? kind text) context := by
  have hraises : ∀ {a : τ i} {asked direction hook} {w : World σ} (args), s.Grows w.store →
      raisingHook? kind text a asked direction = some hook →
      asked = .text kind ∧ ∃ e w', (hook args).runOn w = (.error (.raised e), w') ∧
        w.store.Grows w'.store ∧ w'.state = w.state ∧ w'.store.TextError e .badValue text := by
    intro a asked direction hook w args hw hh
    unfold raisingHook? at hh
    split at hh
    · rename_i hasked
      cases hh
      have hg := w.store.grows_alloc (.error (.ofArgs .badValue [.text text]))
      exact ⟨hasked.1, w.store.size, _, rfl, hg, rfl,
        hg.classAttrs.trans (hw.classAttrs.trans hc), w.store.get?_alloc _, rfl, by decide⟩
    · nomatch hh
  have hdooms : ∀ {f : Frame} (direction : Direction) {e : Ref} {s' : Store}, f.kind = .text kind →
      s'.TextError e .badValue text →
      Dooms Store.Grows f direction (.raised (.report text [(hookStage direction f).text]
        (f.node?.getD .null) (some (.error .badValue)))) (.raised e) s' :=
    fun direction _ _ hf h => Or.inr (h.doomed rfl ht hf direction)
  have hfatal : ∀ {a : τ i} {asked direction hook args b} {w w' : World σ}, s.Grows w.store →
      raisingHook? kind text a asked direction = some hook →
      (Act.judge (hook args) Lockstep.rethrow).runOn w ≠ (.ok b, w') := by
    intro a asked direction hook args b w w' hw hh hj
    obtain ⟨-, e, w₁, hr, -, -, herror⟩ := hraises args hw hh
    have hdoomed := hdooms (f := .node (.text kind) .null) direction rfl herror
    obtain ⟨_, hj', -⟩ := hdoomed.judge_rethrow hr
    nomatch hj.symm.trans hj'
  refine ⟨⟨?_, ?_, ?_⟩, ?_, ?_⟩
  · exact fun _ _ _ w _ => ⟨w, rfl, w.store, refl_of Store.Grows _, rfl⟩
  · exact fun hw hh hj => (hfatal hw hh hj).elim
  · exact fun hw hh hj => (hfatal hw hh hj).elim
  · intro f direction hook w halt w' hw hh hr
    obtain ⟨hf, e, w₁, hr', hg, hs, herror⟩ := hraises (hookArgs context f.node?) hw hh
    cases hr.symm.trans hr'
    exact .inr ⟨⟨_, hdooms _ hf herror⟩, hg, fun j _ => congrArg (share.own j) hs⟩
  · intro f direction hook w halt w' failed v hw hh hr hd hv ho
    obtain ⟨hf, e, w₁, hr₁, -, hs₁, herror₁⟩ := hraises (hookArgs context f.node?) hw hh
    cases hr.symm.trans hr₁
    obtain rfl := hd.unique (hdooms _ hf herror₁)
    obtain ⟨-, e', w₂, hr₂, -, hs₂, herror₂⟩ := hraises (hookArgs context f.node?) hv hh
    exact ⟨_, w₂, hr₂, hdooms _ hf herror₂, by rw [hs₁, hs₂, ho]⟩

end GraphQLTree
