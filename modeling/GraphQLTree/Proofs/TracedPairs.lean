import GraphQLTree.Proofs.OutcomeClass

/-! # Pairs of traced walks

Two visitors lead a traced walk each over the same tree, in stores of their own; what is compared may
also depend on the records of the walks. Between the steps both walks read the same tree, so if the
steps lead from related worlds to related worlds, the walks do, and where one of them fails, the other
one fails at the same place and in the same way (`StepsTogether.walk`). The two walks may differ in what
they log. -/

namespace GraphQLTree

/-- Adds an entry to the record of a world. -/
def World.marked {σ μ : Type} (w : World (σ × List μ)) (m : μ) : World (σ × List μ) :=
  w.forget.traced (w.state.2 ++ [m])

/-! ### Steps of two walks -/

section

variable {σ σ' α : Type} {keeps : Store → Store → Prop} {R R' : Face σ → Face σ' → Prop}

/-- From wherever the trees of two stores are kept, two steps lead from related worlds to related
worlds, or both fail in the same way. -/
def Act.SideBySide (keeps : Store → Store → Prop) (R R' : Face σ → Face σ' → Prop) (s s' : Store)
    (x : Act σ Unit) (y : Act σ' Unit) : Prop :=
  ∀ ⦃s₁ s₁'⦄, keeps s s₁ → keeps s' s₁' →
    Act.Pairs (Twin keeps R s₁ s₁') (fun _ w _ v => Twin keeps R s₁ s₁' w v)
      (FellAlike keeps R' s₁ s₁') x y

variable [IsPreorder Store keeps] {s s' s₁ s₁' : Store}

theorem Twin.mono {w : World σ} {v : World σ'} (h : Twin keeps R s₁ s₁' w v) (hs : keeps s s₁)
    (hs' : keeps s' s₁') : Twin keeps R s s' w v :=
  ⟨trans_of keeps hs h.left, trans_of keeps hs' h.right, h.faces⟩

theorem FellAlike.mono {halt halt' : Halt} {w : World σ} {v : World σ'}
    (h : FellAlike keeps R' s₁ s₁' halt w halt' v) (hs : keeps s s₁) (hs' : keeps s' s₁') :
    FellAlike keeps R' s s' halt w halt' v := by
  obtain ⟨failed, hfell, hfell', hr⟩ := h
  exact ⟨failed, hfell.mono hs, hfell'.mono hs', hr⟩

namespace Act.SideBySide

variable {x x₁ : Act σ Unit} {y y₁ : Act σ' Unit}

theorem mono (h : SideBySide keeps R R' s s' x y) (hs : keeps s s₁) (hs' : keeps s' s₁') :
    SideBySide keeps R R' s₁ s₁' x y :=
  fun _ _ hk hk' => h (trans_of keeps hs hk) (trans_of keeps hs' hk')

omit [IsPreorder Store keeps] in
theorem done : SideBySide keeps R R' s s' (pure ()) (pure ()) :=
  fun _ _ _ _ => Act.pairs_pure fun _ _ => id

omit [IsPreorder Store keeps] in
theorem andThen (h : SideBySide keeps R R' s s' x y) (h₁ : SideBySide keeps R R' s s' x₁ y₁) :
    SideBySide keeps R R' s s' (x >>= fun _ => x₁) (y >>= fun _ => y₁) :=
  fun _ _ hs hs' => (h hs hs').bind fun _ _ => h₁ hs hs'

omit [IsPreorder Store keeps] in
theorem forM {l : List α} {f : α → Act σ Unit} {g : α → Act σ' Unit}
    (h : ∀ a ∈ l, SideBySide keeps R R' s s' (f a) (g a)) :
    SideBySide keeps R R' s s' (l.forM f) (l.forM g) := by
  induction l with
  | nil => exact done
  | cons a l ih =>
    exact (h a (List.mem_cons_self ..)).andThen (ih fun b hb => h b (List.mem_cons_of_mem a hb))

omit [IsPreorder Store keeps] in
/-- What is noted on failure reports, where nothing is logged about them. -/
theorem onReport {note : Ref → Act σ Unit} {note' : Ref → Act σ' Unit} {becomes : Failed → Failed}
    (h : SideBySide keeps R R' s s' x y)
    (hn : ∀ s₁, keeps s s₁ → Notes keeps s₁ note becomes fun _ => [])
    (hn' : ∀ s₁, keeps s' s₁ → Notes keeps s₁ note' becomes fun _ => []) :
    SideBySide keeps R R' s s' (Act.onReport x note) (Act.onReport y note') := by
  intro s₁ s₁' hs hs' w v hw
  have hrun := h hs hs' hw
  revert hrun
  rcases hx : x.runOn w with ⟨halt | _, w₁⟩
  · rcases hy : y.runOn v with ⟨halt' | _, v₁⟩
    · rintro ⟨failed, hfell, hfell', hr⟩
      obtain ⟨e, w₂, hrun, hstate, hlog, hf⟩ := (hn s₁ hs).onReport hx hfell
      obtain ⟨e', v₂, hrun', hstate', hlog', hf'⟩ := (hn' s₁' hs').onReport hy hfell'
      rw [hrun, hrun']
      rw [List.append_nil] at hlog hlog'
      refine ⟨becomes failed, hf, hf', ?_⟩
      have hface : w₂.face = w₁.face := Prod.ext hstate hlog
      have hface' : v₂.face = v₁.face := Prod.ext hstate' hlog'
      rwa [hface, hface']
    · exact False.elim
  · rcases hy : y.runOn v with ⟨halt' | _, v₁⟩
    · exact False.elim
    · intro hw₁
      rw [Act.onReport_ok hx, Act.onReport_ok hy]
      exact hw₁

omit [IsPreorder Store keeps] in
theorem within (h : SideBySide keeps R R' s s' x y) (stage : Stage) :
    SideBySide keeps R R' s s' (Act.within stage x) (Act.within stage y) :=
  h.onReport (fun _ _ => stage_notes stage) fun _ _ => stage_notes stage

omit [IsPreorder Store keeps] in
/-- Something that is entered and left. -/
theorem framed {enter : Act σ Bool} {enter' : Act σ' Bool} {inner leave : Act σ Unit}
    {inner' leave' : Act σ' Unit}
    (he : ∀ s₁ s₁', keeps s s₁ → keeps s' s₁' → Act.Pairs (Twin keeps R s₁ s₁')
      (fun a w b v => a = b ∧ Twin keeps R s₁ s₁' w v) (FellAlike keeps R' s₁ s₁') enter enter')
    (hi : SideBySide keeps R R' s s' inner inner') (hl : SideBySide keeps R R' s s' leave leave') :
    SideBySide keeps R R' s s' (Act.framed enter inner leave) (Act.framed enter' inner' leave') := by
  intro s₁ s₁' hs hs'
  refine (he s₁ s₁' hs hs').bind_same fun pruned => ?_
  cases pruned with
  | true => exact hl hs hs'
  | false => exact hi.andThen hl hs hs'

end Act.SideBySide

end

/-! ### Reading -/

section

variable {σ σ' α β : Type} {keeps : Store → Store → Prop} {place : Place} {failed : Failed}
  {s s' : Store}

theorem Act.runOn_placed_effect (place : Place) (x : Effect α) (w : World (Traced σ)) :
    (Act.placed place (Act.effect x)).runOn w = match x.runOn w.store with
      | (.ok a, s) => (.ok a, { w with store := s })
      | (.error halt, s) => (.error halt, { w.marked (.failed place) with store := s }) := by
  unfold Act.placed
  rw [Act.runOn_tryCatch, Act.runOn_effect]
  rcases x.runOn w.store with ⟨halt | a, s⟩
  · rfl
  · rfl

/-- Raises a report about an element that does not belong into its list. -/
def Effect.reject (kind : String) (e : Value) : Effect Unit := do
  let description ← (Action.describedText e).perform
  (Action.raiseNew .visit [.text (invalidElementText (plainKind kind) description)]).perform

/-- Wherever the tree of a store is kept, a step of a traced walk fails in this way, which is recorded. -/
def Act.FailsAt (keeps : Store → Store → Prop) (s : Store) (place : Place) (failed : Failed)
    (x : Act (Traced σ) Unit) : Prop :=
  ∀ w, keeps s w.store → ∃ halt s₁,
    x.runOn w = (.error halt, { w.marked (.failed place) with store := s₁ }) ∧
    keeps w.store s₁ ∧ Failed.Seen s₁ halt failed

namespace Act

theorem failsAt_read {read : Effect α} (h : FailsAs keeps s read failed)
    (f : α → Act (Traced σ) Unit) :
    FailsAt keeps s place failed (placed place (effect read) >>= f) := by
  intro w hw
  obtain ⟨halt, s₁, hr, hk, hseen⟩ := h w.store hw
  refine ⟨halt, s₁, runOn_bind_error ?_ _, hk, hseen⟩
  rw [runOn_placed_effect, hr]

theorem failsAt_readThen {read : Effect α} {read' : α → Effect β}
    (h : FailsAs keeps s (do let x ← read; read' x) failed) (f : α → β → Act (Traced σ) Unit) :
    FailsAt keeps s place failed
      (placed place (effect read) >>= fun x => placed place (effect (read' x)) >>= f x) := by
  intro w hw
  obtain ⟨halt, s₁, hr, hk, hseen⟩ := h w.store hw
  refine ⟨halt, s₁, ?_, hk, hseen⟩
  rw [Effect.runOn_bind] at hr
  rw [runOn_bind, runOn_placed_effect]
  rcases hread : read.runOn w.store with ⟨halt | x, s₂⟩
  · rw [hread] at hr
    cases hr
    rfl
  · rw [hread] at hr
    dsimp only at hr ⊢
    rw [runOn_bind, runOn_placed_effect, hr]
    rfl

theorem rejectElement_eq_effect (kind : String) (e : Value) :
    (rejectElement kind e : Act σ Unit) = effect (Effect.reject kind e) := by
  refine Act.ext fun w => ?_
  unfold rejectElement Effect.reject
  rw [runOn_effect, Effect.runOn_bind, runOn_bind, runOn_action]
  rcases (Action.describedText e).perform.runOn w.store with ⟨halt | text, s⟩
  · rfl
  · rfl

/-- An element that does not belong into its list. -/
theorem failsAt_rejected {kind : String} {e : Value} (h : FailsAs keeps s (Effect.accept kind e) failed)
    (x : Act (Traced σ) Unit) :
    FailsAt keeps s place failed (placed place (effect (Action.belongs kind e).perform) >>= fun belongs =>
      if belongs then x else placed place (rejectElement kind e : Act σ Unit).unmarked) := by
  intro w hw
  obtain ⟨halt, s₁, hr, hk, hseen⟩ := h w.store hw
  refine ⟨halt, s₁, ?_, hk, hseen⟩
  unfold Effect.accept at hr
  rw [Effect.runOn_bind] at hr
  rw [runOn_bind, runOn_placed_effect]
  rcases hb : (Action.belongs kind e).perform.runOn w.store with ⟨halt | _ | _, s₂⟩
  · rw [hb] at hr
    cases hr
    rfl
  · rw [hb] at hr
    have hreject := runOn_placed_effect place (Effect.reject kind e) { w with store := s₂ }
    rw [show (Effect.reject kind e).runOn s₂ = (.error halt, s₁) from hr] at hreject
    rw [rejectElement_eq_effect]
    exact hreject
  · rw [hb] at hr
    nomatch hr

end Act

variable [IsPreorder Store keeps] {R R' : Face (Traced σ) → Face (Traced σ') → Prop}

/-- Reading is no part of what is compared. What is read need not be the same in both walks. -/
theorem Act.SideBySide.reads {read : Effect α} {read' : Effect β} {f : α → Act (Traced σ) Unit}
    {g : β → Act (Traced σ') Unit}
    (h : ∀ s₁ s₁', keeps s s₁ → keeps s' s₁' → ∃ a s₂ b s₂', read.runOn s₁ = (.ok a, s₂) ∧
      read'.runOn s₁' = (.ok b, s₂') ∧ keeps s₁ s₂ ∧ keeps s₁' s₂' ∧
      Act.SideBySide keeps R R' s₂ s₂' (f a) (g b)) :
    Act.SideBySide keeps R R' s s' (Act.placed place (Act.effect read) >>= f)
      (Act.placed place (Act.effect read') >>= g) := by
  intro s₁ s₁' hs hs' w v hw
  obtain ⟨a, s₂, b, s₂', hr, hr', hk, hk', hfg⟩ := h w.store v.store (trans_of keeps hs hw.left)
    (trans_of keeps hs' hw.right)
  have hread := Act.runOn_placed_effect place read w
  have hread' := Act.runOn_placed_effect place read' v
  rw [hr] at hread
  rw [hr'] at hread'
  rw [Act.runOn_bind_ok hread, Act.runOn_bind_ok hread']
  have hs₂ := trans_of keeps hw.left hk
  have hs₂' := trans_of keeps hw.right hk'
  have hrun := hfg (refl_of keeps _) (refl_of keeps _) (w := { w with store := s₂ })
    (v := { v with store := s₂' }) ⟨refl_of keeps _, refl_of keeps _, hw.faces⟩
  revert hrun
  rcases (f a).runOn { w with store := s₂ } with ⟨halt | _, w'⟩
  · rcases (g b).runOn { v with store := s₂' } with ⟨halt' | _, v'⟩
    · exact fun h => h.mono hs₂ hs₂'
    · exact id
  · rcases (g b).runOn { v with store := s₂' } with ⟨halt' | _, v'⟩
    · exact id
    · exact fun h => h.mono hs₂ hs₂'

theorem Act.SideBySide.read {read : Action α} {read' : Action β} {a : α} {b : β}
    {f : α → Act (Traced σ) Unit} {g : β → Act (Traced σ') Unit} (hr : Reads keeps s read a)
    (hr' : Reads keeps s' read' b) (h : Act.SideBySide keeps R R' s s' (f a) (g b)) :
    Act.SideBySide keeps R R' s s' (Act.placed place (Act.effect read.perform) >>= f)
      (Act.placed place (Act.effect read'.perform) >>= g) := by
  refine .reads fun s₁ s₁' hs hs' => ?_
  obtain ⟨s₂, hrun, hk⟩ := hr s₁ hs
  obtain ⟨s₂', hrun', hk'⟩ := hr' s₁' hs'
  exact ⟨a, s₂, b, s₂', hrun, hrun', hk, hk', h.mono (trans_of keeps hs hk) (trans_of keeps hs' hk')⟩

/-- Steps of both walks fail in the same way. -/
theorem Act.FailsAt.sideBySide {x : Act (Traced σ) Unit} {y : Act (Traced σ') Unit}
    (hR : ∀ {w v}, R (World.face w) (World.face v) →
      R' (w.marked (.failed place)).face (v.marked (.failed place)).face)
    (hx : x.FailsAt keeps s place failed) (hy : y.FailsAt keeps s' place failed) :
    Act.SideBySide keeps R R' s s' x y := by
  intro s₁ s₁' hs hs' w v hw
  obtain ⟨halt, s₂, hr, hk, hseen⟩ := hx w (trans_of keeps hs hw.left)
  obtain ⟨halt', s₂', hr', hk', hseen'⟩ := hy v (trans_of keeps hs' hw.right)
  rw [hr, hr']
  exact ⟨failed, ⟨hseen, s₂, trans_of keeps hw.left hk, refl_of Store.KeepsObjects _⟩,
    ⟨hseen', s₂', trans_of keeps hw.right hk', refl_of Store.KeepsObjects _⟩, hR hw.faces⟩

end

/-! ### Traced walks -/

theorem variantNote_unmarked {σ μ : Type} (e : Value) (r : Ref) :
    ((variantNote e r : Act σ Unit).unmarked : Act (σ × List μ) Unit) = variantNote e r := by
  unfold variantNote
  rw [Act.unmarked_bind]
  refine congrArg (_ >>= ·) (funext fun kind => ?_)
  rw [Act.unmarked_bind]
  rfl

theorem noteAborted_unmarked {σ μ : Type} (options : WalkOptions) (root : Value) (r : Ref) :
    ((noteAborted options root r : Act σ Unit).unmarked : Act (σ × List μ) Unit) =
      noteAborted options root r := by
  unfold noteAborted
  split
  · rw [Act.unmarked_bind]
    refine congrArg (_ >>= ·) (funext fun shown => ?_)
    rw [Act.unmarked_bind]
    rfl
  · rfl

/-- That a traced walk is aborted is noted on the report. -/
theorem tracedWalk_eq {σ : Type} (options : WalkOptions) (visitor : Visitor σ) (context root : Value) :
    tracedWalk options visitor context root =
      (Act.placed (.inside []) (Act.effect (Action.checkRoot root).perform) >>= fun _ =>
        Act.onReport (tracedNode options visitor context options.depthLimit [] root)
          (noteAborted options root)) := by
  have hnote : (noteAborted options root : Ref → Act (Traced σ) Unit) = fun r =>
      (noteAborted options root r).unmarked := funext fun r => (noteAborted_unmarked options root r).symm
  rw [hnote]
  rfl

/-- An element of a list is walked if it belongs into the list. -/
theorem tracedElement_belongs {σ : Type} (options : WalkOptions) (visitor : Visitor σ)
    (context : Value) (visit : Path → Value → Act (Traced σ) Unit) (kind : String) (above : Path)
    (e : Value) : tracedElement options visitor context visit kind above e =
      (Act.placed (.inside above) (Act.effect (Action.belongs kind e).perform) >>= fun belongs =>
        if belongs then
          match variants? kind with
          | some _ => tracedFrame options visitor context (.variant kind e) above
              (Act.onReport (visit (.variant kind e :: above) e) (variantNote e))
          | none => visit above e
        else Act.placed (.inside above) (rejectElement kind e : Act σ Unit).unmarked) := by
  have hnote : (variantNote e : Ref → Act (Traced σ) Unit) = fun r => (variantNote e r).unmarked :=
    funext fun r => (variantNote_unmarked e r).symm
  unfold tracedElement Action.belongs
  rw [hnote]
  rcases variants? kind with - | classes
  · rfl
  · rfl

/-- What has been reached is met. -/
theorem View.Reached.meets {view : View} {table : WalkTable} {root v : Value} {kind : String}
    (h : view.Reached table root v) (hk : view.kind? v = some kind) :
    view.Meets table root (.node (.text kind) v) := by
  cases h with
  | root => exact .root hk
  | element hv hkind hm hs he hf => exact .node ⟨_, _, _, _, ⟨hv, _, hkind, hm⟩, hs, he, hf⟩ hk

section

variable {σ σ' : Type} (options : WalkOptions) (debug debug' : Bool) (context : Value)
  (keeps : Store → Store → Prop) (s₀ : Store) (visitor : Visitor σ) (visitor' : Visitor σ')

/-- The traced steps of two visitors lead from related worlds to related worlds, where frames with `P`
are met. The choices of the walks differ in what is logged at most. -/
structure StepsTogether (P : Frame → Prop) (R R' : Face (Traced σ) → Face (Traced σ') → Prop) :
    Prop where
  fails : ∀ {w v}, R (World.face w) (World.face v) → ∀ place,
    R' (w.marked (.failed place)).face (v.marked (.failed place)).face
  enters : ∀ {f}, P f → ∀ above s s', keeps s₀ s → keeps s₀ s' →
    Act.Pairs (Twin keeps R s s') (fun a w b v => a = b ∧ Twin keeps R s s' w v)
      (FellAlike keeps R' s s') (tracedEnter { options with debug } visitor context f above)
      (tracedEnter { options with debug := debug' } visitor' context f above)
  leaves : ∀ {f}, P f → ∀ above, Act.SideBySide keeps R R' s₀ s₀ (tracedLeave visitor context f above)
    (tracedLeave visitor' context f above)

end

section

variable {σ σ' : Type} {options : WalkOptions} {debug debug' : Bool} {context : Value}
  {keeps : Store → Store → Prop} [IsPreorder Store keeps] {s₀ : Store} {visitor : Visitor σ}
  {visitor' : Visitor σ'} {R R' : Face (Traced σ) → Face (Traced σ') → Prop} {view : View}
  {troubles : Troubles} {root : Value}
  (h : StepsTogether options debug debug' context keeps s₀ visitor visitor'
    (view.Meets options.table root) R R')
  (hS : view.Stands keeps s₀ options root) (hT : view.Troubled troubles keeps s₀ options root)
include h

theorem StepsTogether.frame {f : Frame} (hf : view.Meets options.table root f) (above : Path)
    {s s' : Store} (hs : keeps s₀ s) (hs' : keeps s₀ s') {inner : Act (Traced σ) Unit} {inner' : Act (Traced σ') Unit}
    (hi : Act.SideBySide keeps R R' s s' inner inner') :
    Act.SideBySide keeps R R' s s' (tracedFrame { options with debug } visitor context f above inner)
      (tracedFrame { options with debug := debug' } visitor' context f above inner') :=
  .framed (fun _ _ hk hk' => h.enters hf above _ _ (trans_of keeps hs hk) (trans_of keeps hs' hk')) hi
    ((h.leaves hf above).mono hs hs')

section

include hS hT

variable {visit : Path → Value → Act (Traced σ) Unit} {visit' : Path → Value → Act (Traced σ') Unit}
  (hv : ∀ above e, view.Reached options.table root e →
    Act.SideBySide keeps R R' s₀ s₀ (visit above e) (visit' above e))
  (hu : ∀ above e, view.Reached options.table root e → view.kind? e = none →
    Act.SideBySide keeps R R' s₀ s₀ (Act.onReport (visit above e) (variantNote e))
      (Act.onReport (visit' above e) (variantNote e)))
include hv hu

theorem together_element {v e : Value} {key kind : String} {elements : List Value}
    (hw : view.Walked options.table root v key kind) (hs : view.shown v key = .items elements)
    (he : e ∈ elements) (above : Path) :
    Act.SideBySide keeps R R' s₀ s₀
      (tracedElement { options with debug } visitor context visit kind above e)
      (tracedElement { options with debug := debug' } visitor' context visit' kind above e) := by
  have hf := hS.fits hw hs he
  rw [tracedElement_belongs, tracedElement_belongs]
  by_cases hfits : view.fits kind e = true
  · have hb : view.Below options.table root e := ⟨v, key, kind, elements, hw, hs, he, hfits⟩
    rw [if_pos hfits] at hf
    refine .read hf hf ?_
    rw [if_pos rfl, if_pos rfl]
    rcases hvariants : variants? kind with - | classes
    · exact hv above e hb.reached
    · refine h.frame (.variant (by rw [hvariants]; nofun) hb) above (refl_of keeps _) (refl_of keeps _) ?_
      rcases hk : view.kind? e with - | nodeKind
      · exact hu _ e hb.reached hk
      · have hnotes {τ : Type} (s₁ : Store) (hs₁ : keeps s₀ s₁) : Notes (σ := τ) keeps s₁ (variantNote e) _
            fun _ => [] := variant_notes fun s₂ hs₂ => hT.named hb hk s₂ (trans_of keeps hs₁ hs₂)
        exact (hv _ e hb.reached).onReport hnotes hnotes
  · have hrejected := hT.element hw hs he (by simpa using hfits)
    exact (Act.failsAt_rejected hrejected _).sideBySide (fun hr => h.fails hr _)
      (Act.failsAt_rejected hrejected _)

theorem together_elements {v nodes nodes' : Value} {key kind : String} {elements l : List Value}
    {s s' : Store} (hw : view.Walked options.table root v key kind)
    (hs : view.shown v key = .items elements) (hl : ∀ e ∈ l, e ∈ elements) (above : Path)
    (hk : keeps s₀ s) (hk' : keeps s₀ s')
    (hsize : Reads keeps s (Action.checkSize nodes elements.length) ())
    (hsize' : Reads keeps s' (Action.checkSize nodes' elements.length) ()) :
    Act.SideBySide keeps R R' s s'
      (l.forM fun e => do
        Act.within (.element (plainKind kind))
          (tracedElement { options with debug } visitor context visit kind above e)
        Act.placed (.inside above) (Action.checkSize nodes elements.length))
      (l.forM fun e => do
        Act.within (.element (plainKind kind))
          (tracedElement { options with debug := debug' } visitor' context visit' kind above e)
        Act.placed (.inside above) (Action.checkSize nodes' elements.length)) := by
  refine .forM fun e he => .andThen ?_ ?_
  · exact ((together_element h hS hT hv hu hw hs (hl e he) above).mono hk hk').within _
  · have hcheck : Act.SideBySide keeps R R' s s'
        (Act.placed (.inside above) (Act.effect (Action.checkSize nodes elements.length).perform) >>=
          pure)
        (Act.placed (.inside above) (Act.effect (Action.checkSize nodes' elements.length).perform) >>=
          pure) :=
      .read hsize hsize' .done
    rw [bind_pure, bind_pure] at hcheck
    exact hcheck

theorem together_list {v : Value} {key kind : String} (hw : view.Walked options.table root v key kind)
    (above : Path) :
    Act.SideBySide keeps R R' s₀ s₀
      (do
        let nodes ← Act.placed (.inside above) (Action.attr v key)
        tracedList { options with debug } visitor context visit kind above nodes)
      (do
        let nodes ← Act.placed (.inside above) (Action.attr v key)
        tracedList { options with debug := debug' } visitor' context visit' kind above nodes) := by
  have hmet : view.Meets options.table root (.list kind) := .list hw
  have htrouble := hT.shown hw
  have hshows := hS.shows hw
  rcases hs : view.shown v key with - | - | - | elements
  · rw [hs] at htrouble
    exact (Act.failsAt_readThen htrouble _).sideBySide (fun hr => h.fails hr _)
      (Act.failsAt_readThen htrouble _)
  · rw [hs] at hshows
    refine .reads fun s₁ s₁' hs₁ hs₁' => ?_
    obtain ⟨nodes, s₂, hr, hk, hholds⟩ := (hshows s₁ hs₁).resolve_right nofun
    obtain ⟨nodes', s₂', hr', hk', hholds'⟩ := (hshows s₁' hs₁').resolve_right nofun
    exact ⟨nodes, s₂, nodes', s₂', hr, hr', hk, hk', .read hholds hholds' .done⟩
  · rw [hs] at htrouble
    refine .reads fun s₁ s₁' hs₁ hs₁' => ?_
    obtain ⟨nodes, s₂, hr, hk, htrue, hfails⟩ := htrouble s₁ hs₁
    obtain ⟨nodes', s₂', hr', hk', htrue', hfails'⟩ := htrouble s₁' hs₁'
    refine ⟨nodes, s₂, nodes', s₂', hr, hr', hk, hk', .read htrue htrue' ?_⟩
    refine h.frame hmet above (trans_of keeps hs₁ hk) (trans_of keeps hs₁' hk') ?_
    exact (Act.failsAt_read hfails _).sideBySide (fun hr => h.fails hr _) (Act.failsAt_read hfails' _)
  · rw [hs] at hshows
    refine .reads fun s₁ s₁' hs₁ hs₁' => ?_
    obtain ⟨nodes, s₂, hr, hk, htrue, hitems, hsize⟩ := (hshows s₁ hs₁).resolve_right nofun
    obtain ⟨nodes', s₂', hr', hk', htrue', hitems', hsize'⟩ := (hshows s₁' hs₁').resolve_right nofun
    have hs₂ := trans_of keeps hs₁ hk
    have hs₂' := trans_of keeps hs₁' hk'
    refine ⟨nodes, s₂, nodes', s₂', hr, hr', hk, hk', .read htrue htrue' ?_⟩
    refine h.frame hmet above hs₂ hs₂' (.read hitems hitems' ?_)
    exact together_elements h hS hT hv hu hw hs (fun _ => id) _ hs₂ hs₂' hsize hsize'

theorem together_lists {v : Value} {kind : String} (hr : view.Reached options.table root v)
    (hk : view.kind? v = some kind) (above : Path) :
    Act.SideBySide keeps R R' s₀ s₀
      (tracedLists { options with debug } visitor context visit (.text kind) v above)
      (tracedLists { options with debug := debug' } visitor' context visit' (.text kind) v above) := by
  have hkind := hS.kind hr
  rw [hk] at hkind
  refine .read hkind.2 hkind.2 (.forM fun entry hentry => ?_)
  exact (together_list h hS hT hv hu ⟨hr, kind, hk, hentry⟩ above).within _

end

omit h in
/-- That the kind of an element that cannot be read is asked for once more when a report leaves it makes
no difference. -/
theorem Act.FailsAt.variantNoted {τ : Type} {x : Act (Traced τ) Unit} {e : Value} {place : Place}
    {failed : Failed} (h : x.FailsAt keeps s₀ place failed)
    (hagain : failed = .tooDeep ∨ FailsAs keeps s₀ (Action.attr e "kind").perform failed) :
    Act.FailsAt keeps s₀ place failed (Act.onReport x (variantNote e)) := by
  intro w hw
  obtain ⟨halt, s₁, hr, hk, hseen⟩ := h w hw
  rw [Act.onReport_noted hr]
  cases halt with
  | tooDeep => exact ⟨.tooDeep, s₁, rfl, hk, hseen⟩
  | raised r =>
    have hread : FailsAs keeps s₀ (Action.attr e "kind").perform failed := by
      refine hagain.resolve_left fun heq => ?_
      subst heq
      exact hseen
    obtain ⟨halt', s₂, hr', hk', hseen'⟩ := hread s₁ (trans_of keeps hw hk)
    unfold FailedRun.noted
    dsimp only
    split
    · have hnote : (variantNote e r).runOn { w.marked (.failed place) with store := s₁ } =
          (.error halt', { w.marked (.failed place) with store := s₂ }) := by
        refine Act.runOn_bind_error ?_ _
        rw [Act.runOn_action, hr']
      rw [hnote]
      exact ⟨halt', s₂, rfl, trans_of keeps hk hk', hseen'⟩
    · exact ⟨.raised r, s₁, rfl, hk, hseen⟩

omit h in
theorem Act.failsAt_tooDeep {τ : Type} (place : Place) :
    Act.FailsAt keeps s₀ place .tooDeep (Act.placed place (throw .tooDeep) : Act (Traced τ) Unit) :=
  fun w _ => ⟨.tooDeep, w.store, rfl, refl_of keeps _, trivial⟩

include hS hT

theorem together_node (depth : Nat) (above : Path) {v : Value} (hv : view.Reached options.table root v) :
    Act.SideBySide keeps R R' s₀ s₀
        (tracedNode { options with debug } visitor context depth above v)
        (tracedNode { options with debug := debug' } visitor' context depth above v) ∧
      (view.kind? v = none → Act.SideBySide keeps R R' s₀ s₀
        (Act.onReport (tracedNode { options with debug } visitor context depth above v) (variantNote v))
        (Act.onReport (tracedNode { options with debug := debug' } visitor' context depth above v)
          (variantNote v))) := by
  have hfail {place : Place} {failed : Failed} {x : Act (Traced σ) Unit} {y : Act (Traced σ') Unit}
      (hx : x.FailsAt keeps s₀ place failed) (hy : y.FailsAt keeps s₀ place failed) :
      Act.SideBySide keeps R R' s₀ s₀ x y := hx.sideBySide (fun hr => h.fails hr place) hy
  induction depth generalizing above v with
  | zero =>
    have hdeep {τ : Type} : Act.FailsAt keeps s₀ (.inside above) .tooDeep
        (Act.placed (.inside above) (throw .tooDeep) : Act (Traced τ) Unit) := Act.failsAt_tooDeep _
    unfold tracedNode
    exact ⟨hfail hdeep hdeep, fun _ =>
      hfail (hdeep.variantNoted (.inl rfl)) (hdeep.variantNoted (.inl rfl))⟩
  | succ depth ih =>
    have hkind := hS.kind hv
    unfold tracedNode
    rcases hk : view.kind? v with - | kind
    · have hagain := hT.kind hv hk
      have hfails {τ : Type} (f : Value → Act (Traced τ) Unit) :
          Act.FailsAt keeps s₀ (.inside above) (troubles.kind v)
            (Act.placed (.inside above) (Act.effect (Action.attr v "kind").perform) >>= f) :=
        Act.failsAt_read hagain f
      exact ⟨hfail (hfails _) (hfails _), fun _ =>
        hfail ((hfails _).variantNoted (.inr hagain)) ((hfails _).variantNoted (.inr hagain))⟩
    · rw [hk] at hkind
      refine ⟨?_, nofun⟩
      refine .read hkind.1 hkind.1 (h.frame (hv.meets hk) above (refl_of keeps _) (refl_of keeps _) ?_)
      exact together_lists h hS hT (fun above e he => (ih above he).1)
        (fun above e he hnone => (ih above he).2 hnone) hv hk _

/-- How two walks come out alike: both succeed, or both fail in the same way and log it if that is
asked for, where `shown` describes the root. -/
def EndAlike (options options' : WalkOptions) (shown : String) (R R' : Face σ → Face σ' → Prop) :
    Except Halt Unit × World σ → Except Halt Unit × World σ' → Prop
  | (.ok _, w), (.ok _, v) => R w.face v.face
  | (.error halt, w), (.error halt', v) => ∃ failed a b, R' a b ∧
      w.face = (a.1, a.2 ++ failed.abortedLines options shown) ∧
      v.face = (b.1, b.2 ++ failed.abortedLines options' shown) ∧
      Failed.Seen w.store halt failed ∧ Failed.Seen v.store halt' failed
  | _, _ => False

/-- **Pairs of traced walks.** If the steps of two visitors lead from related worlds to related worlds,
so do their traced walks from there. -/
theorem StepsTogether.walk {shown : String}
    (hshown : ∀ s, keeps s₀ s → Store.Gives Store.KeepsObjects s (Action.describedText root) shown)
    {w : World (Traced σ)} {v : World (Traced σ')} (hw : keeps s₀ w.store) (hv : keeps s₀ v.store)
    (hr : R w.face v.face) :
    EndAlike { options with debug } { options with debug := debug' } shown R R'
      ((tracedWalk { options with debug } visitor context root).runOn w)
      ((tracedWalk { options with debug := debug' } visitor' context root).runOn v) := by
  obtain ⟨s, hcheck, hk⟩ := hS.accepted w.store hw
  obtain ⟨s', hcheck', hk'⟩ := hS.accepted v.store hv
  have haccept := Act.runOn_placed_effect (.inside []) (Action.checkRoot root).perform w
  have haccept' := Act.runOn_placed_effect (.inside []) (Action.checkRoot root).perform v
  rw [hcheck] at haccept
  rw [hcheck'] at haccept'
  have hrun := (together_node h hS hT options.depthLimit [] .root).1 (refl_of keeps _) (refl_of keeps _)
    (w := { w with store := s }) (v := { v with store := s' })
    ⟨trans_of keeps hw hk, trans_of keeps hv hk', hr⟩
  rw [tracedWalk_eq, tracedWalk_eq, Act.runOn_bind_ok haccept, Act.runOn_bind_ok haccept']
  have hnotes {τ : Type} (debug : Bool) : Notes (σ := τ) keeps s₀
      (noteAborted { options with debug } root) id (Failed.abortedLines { options with debug } shown) :=
    aborted_notes fun _ => hshown
  revert hrun
  rcases hx : (tracedNode { options with debug } visitor context options.depthLimit [] root).runOn
    { w with store := s } with ⟨halt | _, w₁⟩
  · rcases hy : (tracedNode { options with debug := debug' } visitor' context options.depthLimit []
      root).runOn { v with store := s' } with ⟨halt' | _, v₁⟩
    · rintro ⟨failed, hfell, hfell', hfaces⟩
      obtain ⟨e, w₂, hrun, hstate, hlog, hf⟩ := (hnotes debug).onReport hx hfell
      obtain ⟨e', v₂, hrun', hstate', hlog', hf'⟩ := (hnotes debug').onReport hy hfell'
      rw [hrun, hrun']
      exact ⟨failed, w₁.face, v₁.face, hfaces, Prod.ext hstate hlog, Prod.ext hstate' hlog', hf.seen,
        hf'.seen⟩
    · exact False.elim
  · rcases hy : (tracedNode { options with debug := debug' } visitor' context options.depthLimit []
      root).runOn { v with store := s' } with ⟨halt' | _, v₁⟩
    · exact False.elim
    · intro hw₁
      rw [Act.onReport_ok hx, Act.onReport_ok hy]
      exact hw₁.faces

end

end GraphQLTree
