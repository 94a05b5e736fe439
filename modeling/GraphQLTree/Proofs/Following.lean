import GraphQLTree.Proofs.Failing
import GraphQLTree.Proofs.Simulation

/-! # Walks that follow a track

What a walk over a tree comes to is told by a view of the tree and by how that which cannot be read
fails (`View.trackNode`). A visitor, or some in lockstep, whose steps are known is led along this track:
if the walk succeeds or fails, so does a journey along the track, with the same failure
(`Company.follows_walk`). -/

namespace GraphQLTree

/-! ### What a walk comes to -/

/-- How that which cannot be read fails: the kind of a node, a walked attribute, or an element that
does not belong into its list. -/
structure Troubles where
  kind : Value → Failed
  shown : Value → String → Failed
  element : String → Value → Failed

namespace View

variable (view : View) (troubles : Troubles)

/-- What a walk comes to at an element of a list, where `node` tells what it comes to at a node. -/
def trackElement (node : Value → Track) (kind : String) (e : Value) : Track :=
  if view.fits kind e then
    match variants? kind, view.kind? e with
    | some _, some nodeKind =>
      .frame (.variant kind e) (.noted (.variant (plainKind nodeKind)) (node e) .done)
    | some _, none => .frame (.variant kind e) (node e)
    | none, _ => node e
  else .broken (troubles.element kind e)

/-- What a walk comes to in a list. -/
def trackElements (node : Value → Track) (kind : String) : List Value → Track
  | [] => .done
  | e :: elements => .noted (.element (plainKind kind)) (view.trackElement troubles node kind e)
      (trackElements node kind elements)

/-- What a walk comes to at a walked attribute, which fails in a way if it cannot be read. -/
def trackList (node : Value → Track) (kind : String) (failed : Failed) : Shown → Track
  | .unreadable => .broken failed
  | .nothing => .done
  | .unlisted => .frame (.list kind) (.broken failed)
  | .items elements => .frame (.list kind) (view.trackElements troubles node kind elements)

/-- What a walk comes to inside of a node. -/
def trackLists (node : Value → Track) (v : Value) : List (String × String) → Track
  | [] => .done
  | (key, kind) :: entries => .noted (.list (plainKind kind))
      (view.trackList troubles node kind (troubles.shown v key) (view.shown v key))
      (trackLists node v entries)

/-- What a walk comes to at a node, down to a depth. -/
def trackNode (table : WalkTable) : Nat → Value → Track
  | 0, _ => .broken .tooDeep
  | depth + 1, v =>
    match view.kind? v with
    | none => .broken (troubles.kind v)
    | some kind =>
      .frame (.node (.text kind) v)
        (view.trackLists troubles (trackNode table depth) v (table.entries kind))

end View

/-! ### What cannot be read -/

/-- Whether an element belongs into its list, and the report about it if it does not. -/
def Effect.accept (kind : String) (e : Value) : Effect Unit := do
  if ← (Action.belongs kind e).perform then return ()
  else
    let description ← (Action.describedText e).perform
    (Action.raiseNew .visit [.text (invalidElementText (plainKind kind) description)]).perform

section

variable (keeps : Store → Store → Prop) (s₀ : Store)

/-- In every store that keeps the tree of `s₀`, something fails in this way and keeps the tree. -/
def FailsAs {α : Type} (act : Effect α) (failed : Failed) : Prop :=
  ∀ s, keeps s₀ s → ∃ halt s', act.runOn s = (.error halt, s') ∧ keeps s s' ∧
    Failed.Seen s' halt failed

/-- How a walked attribute fails that cannot be read, or that has no elements. -/
def ShowsTrouble (v : Value) (key : String) (failed : Failed) : Shown → Prop
  | .unreadable => FailsAs keeps s₀ (do
      let nodes ← (Action.attr v key).perform
      (Action.isTrue nodes).perform) failed
  | .unlisted => ∀ s, keeps s₀ s → ∃ nodes s', (Action.attr v key).perform.runOn s = (.ok nodes, s') ∧
      keeps s s' ∧ Reads keeps s' (Action.isTrue nodes) true ∧
      FailsAs keeps s' (Action.items nodes).perform failed
  | _ => True

/-- What is met below the root of a tree has a property. -/
structure View.BelowAll (view : View) (table : WalkTable) (root : Value) (P : Frame → Prop) : Prop where
  list : ∀ {v key listKind}, view.Walked table root v key listKind → P (.list listKind)
  variant : ∀ {listKind e}, variants? listKind ≠ none → view.Below table root e →
    P (.variant listKind e)
  node : ∀ {e kind}, view.Below table root e → view.kind? e = some kind → P (.node (.text kind) e)

variable {keeps s₀} {options : WalkOptions} {view : View} {root : Value}

theorem View.Stands.namableBelow (hS : view.Stands keeps s₀ options root) :
    view.BelowAll options.table root (Namable options keeps s₀) where
  list hw := ⟨⟨_, rfl⟩, fun hd => hS.listText hd hw⟩
  variant _ hb := ⟨⟨_, rfl⟩, fun hd => hS.nodeText hd hb.reached⟩
  node hb _ := ⟨⟨_, rfl⟩, fun hd => hS.nodeText hd hb.reached⟩

theorem View.Stands.nestedBelow (hS : view.Stands keeps s₀ options root)
    (hbelow : ∀ e, view.Below options.table root e →
      view.kind? e ≠ some "document" ∧ view.kind? e ≠ some "schema") :
    view.BelowAll options.table root (Nested options keeps s₀) where
  list hw := hS.nested_list hw
  variant hv hb := hS.nested_variant hv hb
  node hb hk := hS.nested_node hbelow hb hk

end

/-- That which cannot be read in the tree under `root` fails as it is told; and the kinds of nodes can
be read also when a failure has come up, as can the description of the root, if it is logged. -/
structure View.Troubled (view : View) (troubles : Troubles) (keeps : Store → Store → Prop)
    (s₀ : Store) (options : WalkOptions) (root : Value) : Prop where
  kind : ∀ {v}, view.Reached options.table root v → view.kind? v = none →
    FailsAs keeps s₀ (Action.attr v "kind").perform (troubles.kind v)
  shown : ∀ {v key listKind}, view.Walked options.table root v key listKind →
    ShowsTrouble keeps s₀ v key (troubles.shown v key) (view.shown v key)
  element : ∀ {v key listKind elements e}, view.Walked options.table root v key listKind →
    view.shown v key = .items elements → e ∈ elements → view.fits listKind e = false →
    FailsAs keeps s₀ (Effect.accept listKind e) (troubles.element listKind e)
  named : ∀ {e kind}, view.Below options.table root e → view.kind? e = some kind →
    ∀ s, keeps s₀ s → Store.Gives Store.KeepsObjects s (Action.attr e "kind") (.text kind)
  rootText : options.debug = true → ∀ s, keeps s₀ s →
    ∃ text, Store.Gives Store.KeepsObjects s (Action.describedText root) text

/-- The root of a tree can be described in the same words at all times. -/
theorem View.Troubled.described {keeps : Store → Store → Prop} [IsPreorder Store keeps] {s₀ : Store}
    {options : WalkOptions} {view : View} {troubles : Troubles} {root : Value}
    (hT : view.Troubled troubles keeps s₀ options root) (hS : view.Stands keeps s₀ options root) :
    ∃ shown, options.debug = true → ∀ s, keeps s₀ s →
      Store.Gives Store.KeepsObjects s (Action.describedText root) shown := by
  by_cases hd : options.debug = true
  · obtain ⟨shown, hreads⟩ := hS.nodeText hd .root
    refine ⟨shown, fun _ s hs => ?_⟩
    obtain ⟨text, hgives⟩ := hT.rootText hd s hs
    obtain ⟨s', hr, -⟩ := hreads s hs
    obtain ⟨s'', hr', -⟩ := hgives.perform (refl_of Store.KeepsObjects s) (Nat.le_refl _)
    cases hr.symm.trans hr'
    exact hgives
  · exact ⟨"", fun h => absurd h hd⟩

/-! ### Companies -/

/-- Visitors that are led along a track: what their steps do, and what their states and the log are
while they are on their way and after they have failed. -/
structure Company (σ S : Type) where
  conduct : Conduct S
  stands : S → σ → List String → Prop
  fallen : S → σ → List String → Prop

namespace Company

section

variable {σ S : Type} (c : Company σ S) (keeps : Store → Store → Prop) (s : Store)

/-- A world in which the tree of `s` is kept and the visitors are on their way. -/
def At (a : S) (w : World σ) : Prop :=
  keeps s w.store ∧ c.stands a w.state w.log

/-- The visitors have come to the end of a track. -/
def Arrived (g : Track) (a : S) (w : World σ) : Prop :=
  ∃ a', Goes c.conduct g a (.ends a') ∧ c.At keeps s a' w

/-- The visitors have failed on a track. -/
def Broken (g : Track) (a : S) (halt : Halt) (w : World σ) : Prop :=
  ∃ place failed a', Goes c.conduct g a (.fails place failed a') ∧ c.fallen a' w.state w.log ∧
    Fell keeps s failed halt w.store

/-- The walk of the visitors along a track has failed, and this is logged if that is asked for; `shown`
describes the root of the walk. -/
def Aborted (options : WalkOptions) (shown : String) (g : Track) (a : S) (halt : Halt)
    (w : World σ) : Prop :=
  ∃ place failed a' log, Goes c.conduct g a (.fails place failed a') ∧ c.fallen a' w.state log ∧
    w.log = log ++ failed.abortedLines options shown ∧ Fell keeps s failed halt w.store

/-- The visitors have failed at a step. -/
def Stumbled (f : Frame) (direction : Direction) (a : S) (halt : Halt) (w : World σ) : Prop :=
  ∃ failed a', c.conduct f direction a (.fails failed) a' ∧ c.fallen a' w.state w.log ∧
    Fell keeps s failed halt w.store

/-- A frame is entered, from worlds with `I`. -/
def Enters (I : World σ → Prop) (f : Frame) (a : S) (act : Act σ Bool) : Prop :=
  Act.Ensures I (fun pruned w => ∃ a', c.conduct f .enter a (.goesOn pruned) a' ∧ c.At keeps s a' w)
    (c.Stumbled keeps s f .enter a) act

/-- A frame is left. -/
def Leaves (f : Frame) (a : S) (act : Act σ Unit) : Prop :=
  Act.Ensures (c.At keeps s a)
    (fun _ w => ∃ pruned a', c.conduct f .leave a (.goesOn pruned) a' ∧ c.At keeps s a' w)
    (c.Stumbled keeps s f .leave a) act

/-- From wherever the tree of `s` is kept, something is done along a track. -/
def Follows (g : Track) (act : Act σ Unit) : Prop :=
  ∀ s', keeps s s' → ∀ a,
    Act.Ensures (c.At keeps s' a) (fun _ => c.Arrived keeps s' g a) (c.Broken keeps s' g a) act

/-- The visitors have entered a frame, and are through with what is inside. -/
def Inside (f : Frame) (a : S) : Prop :=
  ∃ a₀ a₁ pruned inner, c.conduct f .enter a₀ (.goesOn pruned) a₁ ∧ Goes c.conduct inner a₁ (.ends a)

/-- The steps of a visitor are those of the company, where frames with `P` are entered. -/
structure Led (P : Frame → Prop) (options : WalkOptions) (visitor : Visitor σ) (context : Value) :
    Prop where
  falls : ∀ {a state log}, c.stands a state log → c.fallen a state log
  enters : ∀ {f}, P f → ∀ s', keeps s s' → ∀ a,
    c.Enters keeps s' (c.At keeps s' a) f a (enterFrame options visitor context f)
  leaves : ∀ {f}, Namable options keeps s f → ∀ s', keeps s s' → ∀ a, c.Inside f a →
    c.Leaves keeps s' f a (leaveFrame visitor context f)

end

section

variable {σ S : Type} {c : Company σ S} {keeps : Store → Store → Prop} [IsPreorder Store keeps]
  {s s' : Store} {a : S} {g inner rest : Track} {w : World σ} {halt : Halt} {act next : Act σ Unit}
  {stage : Stage} {failed : Failed}

theorem At.mono (h : c.At keeps s' a w) (hs : keeps s s') : c.At keeps s a w :=
  ⟨trans_of keeps hs h.1, h.2⟩

theorem Arrived.mono (h : c.Arrived keeps s' g a w) (hs : keeps s s') : c.Arrived keeps s g a w := by
  obtain ⟨a', hg, ha⟩ := h
  exact ⟨a', hg, ha.mono hs⟩

theorem Broken.mono (h : c.Broken keeps s' g a halt w) (hs : keeps s s') :
    c.Broken keeps s g a halt w := by
  obtain ⟨place, failed, a', hg, hf, hfell⟩ := h
  exact ⟨place, failed, a', hg, hf, hfell.mono hs⟩

theorem Follows.mono (h : c.Follows keeps s g act) (hs : keeps s s') : c.Follows keeps s' g act :=
  fun _ hs' => h _ (trans_of keeps hs hs')

omit [IsPreorder Store keeps] in
theorem follows_done : c.Follows keeps s .done (pure ()) :=
  fun _ _ a => Act.ensures_pure fun _ hw => ⟨a, .done a, hw⟩

/-- Reading is no part of a track. What is read need not be the same each time. -/
theorem follows_read {α : Type} {read : Action α} {f : α → Act σ Unit}
    (h : ∀ s₁, keeps s s₁ → ∃ x s₂, read.perform.runOn s₁ = (.ok x, s₂) ∧ keeps s₁ s₂ ∧
      c.Follows keeps s₂ g (f x)) : c.Follows keeps s g (liftM read >>= f) := by
  intro s' hs a w hw
  obtain ⟨x, s₂, hr, hk, hf⟩ := h w.store (trans_of keeps hs hw.1)
  have hs₂ := trans_of keeps hw.1 hk
  have ha : (liftM read : Act σ α).runOn w = (.ok x, { w with store := s₂ }) := by
    rw [Act.runOn_action, hr]
  have hnext := hf s₂ (refl_of keeps _) a { w with store := s₂ } ⟨refl_of keeps _, hw.2⟩
  rw [Act.runOn_bind_ok ha]
  revert hnext
  rcases (f x).runOn { w with store := s₂ } with ⟨halt | _, w'⟩
  · exact fun h => h.mono hs₂
  · exact fun h => h.mono hs₂

theorem Follows.read {α : Type} {read : Action α} {x : α} {f : α → Act σ Unit}
    (hr : Reads keeps s read x) (h : c.Follows keeps s g (f x)) :
    c.Follows keeps s g (liftM read >>= f) := by
  refine follows_read fun s₁ hs => ?_
  obtain ⟨s₂, hr, hk⟩ := hr s₁ hs
  exact ⟨x, s₂, hr, hk, h.mono (trans_of keeps hs hk)⟩

/-- Something that was entered and left. -/
theorem ensures_framed {I : World σ → Prop} {f : Frame} {enter : Act σ Bool} {leave : Act σ Unit}
    (he : c.Enters keeps s I f a enter) (hi : c.Follows keeps s inner act)
    (hl : ∀ a, c.Inside f a → c.Leaves keeps s f a leave) :
    Act.Ensures I (fun _ => c.Arrived keeps s (.frame f inner) a)
      (c.Broken keeps s (.frame f inner) a) (Act.framed enter act leave) := by
  have hleave : ∀ pruned a₁ a₂, c.conduct f .enter a (.goesOn pruned) a₁ →
      Goes c.conduct (if pruned then .done else inner) a₁ (.ends a₂) →
      Act.Ensures (c.At keeps s a₂) (fun _ => c.Arrived keeps s (.frame f inner) a)
        (c.Broken keeps s (.frame f inner) a) leave := by
    intro pruned a₁ a₂ hd hg
    refine (hl a₂ ⟨a, a₁, pruned, _, hd, hg⟩).mono (fun _ => id) ?_ ?_
    · rintro _ w ⟨pruned', a', hd', ha⟩
      exact ⟨a', .frame hd hg hd', ha⟩
    · rintro halt w ⟨failed, a', hd', hf, hfell⟩
      exact ⟨inner.size + 1, failed, a', .leaveFails hd hg hd', hf, hfell⟩
  intro w hw
  have h := he w hw
  rcases hr : enter.runOn w with ⟨halt | pruned, w₁⟩
  · rw [hr] at h
    obtain ⟨failed, a', hd, hf, hfell⟩ := h
    rw [Act.framed_error hr]
    exact ⟨0, failed, a', .enterFails hd, hf, hfell⟩
  · rw [hr] at h
    obtain ⟨a₁, hd, hw₁⟩ := h
    cases pruned with
    | true =>
      rw [Act.framed_pruned hr]
      exact hleave true a₁ a₁ hd (.done a₁) w₁ hw₁
    | false =>
      have hin := hi s (refl_of keeps s) a₁ w₁ hw₁
      rw [Act.framed_entered hr, Act.runOn_bind]
      revert hin
      rcases act.runOn w₁ with ⟨halt | _, w₂⟩
      · rintro ⟨place, failed, a', hg, hf, hfell⟩
        exact ⟨place + 1, failed, a', .innerFails hd hg, hf, hfell⟩
      · rintro ⟨a₂, hg, hw₂⟩
        exact hleave false a₁ a₂ hd hg w₂ hw₂

theorem Follows.framed {f : Frame} {enter : Act σ Bool} {leave : Act σ Unit}
    (he : ∀ s', keeps s s' → ∀ a, c.Enters keeps s' (c.At keeps s' a) f a enter)
    (hi : c.Follows keeps s inner act)
    (hl : ∀ s', keeps s s' → ∀ a, c.Inside f a → c.Leaves keeps s' f a leave) :
    c.Follows keeps s (.frame f inner) (Act.framed enter act leave) :=
  fun s' hs a => ensures_framed (he s' hs a) (hi.mono hs) (hl s' hs)

omit [IsPreorder Store keeps] in
/-- A part whose failures pass a stage, and what comes then. -/
theorem Follows.noted {note : Ref → Act σ Unit} (hi : c.Follows keeps s inner act)
    (hn : ∀ s', keeps s s' → Notes keeps s' note (.noted stage) fun _ => [])
    (hr : c.Follows keeps s rest next) :
    c.Follows keeps s (.noted stage inner rest) (Act.onReport act note >>= fun _ => next) := by
  intro s' hs a w hw
  have h := hi s' hs a w hw
  rcases ha : act.runOn w with ⟨halt | _, w₁⟩
  · rw [ha] at h
    obtain ⟨place, failed, a', hg, hf, hfell⟩ := h
    obtain ⟨halt', w', hrun, hstate, hlog, hfell'⟩ := (hn s' hs).onReport ha hfell
    rw [Act.runOn_bind_error hrun]
    refine ⟨place, failed.noted stage, a', .noted hg, ?_, hfell'⟩
    rwa [hstate, hlog, List.append_nil]
  · rw [ha] at h
    obtain ⟨a₁, hg, hw₁⟩ := h
    rw [Act.runOn_bind_ok (Act.onReport_ok ha note)]
    have h' := hr s' hs a₁ w₁ hw₁
    revert h'
    rcases next.runOn w₁ with ⟨halt | _, w₂⟩
    · rintro ⟨place, failed, a', hg', hf, hfell⟩
      exact ⟨inner.size + place, failed, a', .restFails hg hg', hf, hfell⟩
    · rintro ⟨a', hg', hw₂⟩
      exact ⟨a', .rest hg hg', hw₂⟩

omit [IsPreorder Store keeps] in
theorem Follows.within (hi : c.Follows keeps s inner act) (hr : c.Follows keeps s rest next) :
    c.Follows keeps s (.noted stage inner rest) (Act.within stage act >>= fun _ => next) :=
  hi.noted (fun _ _ => stage_notes stage) hr

/-! Something that cannot be read. -/

section

variable {P : Frame → Prop} {options : WalkOptions} {visitor : Visitor σ} {context : Value}
  {s₀ : Store} (hc : c.Led keeps s₀ P options visitor context)
include hc

theorem follows_broken
    (h : ∀ w, keeps s w.store → ∃ halt s', act.runOn w = (.error halt, { w with store := s' }) ∧
      keeps w.store s' ∧ Failed.Seen s' halt failed) : c.Follows keeps s (.broken failed) act := by
  intro s' hs a w hw
  obtain ⟨halt, s₁, hr, hk, hseen⟩ := h w (trans_of keeps hs hw.1)
  rw [hr]
  exact ⟨0, failed, a, .broken _ _, hc.falls hw.2, hseen, s₁, trans_of keeps hw.1 hk,
    refl_of Store.KeepsObjects _⟩

theorem follows_fails {α : Type} {read : Action α} {f : α → Act σ Unit}
    (h : FailsAs keeps s read.perform failed) :
    c.Follows keeps s (.broken failed) (liftM read >>= f) := by
  refine follows_broken hc fun w hw => ?_
  obtain ⟨halt, s', hr, hk, hseen⟩ := h w.store hw
  refine ⟨halt, s', Act.runOn_bind_error ?_ _, hk, hseen⟩
  rw [Act.runOn_action, hr]

theorem follows_failsThen {α β : Type} {read : Action α} {read' : α → Action β}
    {f : α → β → Act σ Unit}
    (h : FailsAs keeps s (do let x ← read.perform; (read' x).perform) failed) :
    c.Follows keeps s (.broken failed) (liftM read >>= fun x => liftM (read' x) >>= f x) := by
  refine follows_broken hc fun w hw => ?_
  obtain ⟨halt, s', hr, hk, hseen⟩ := h w.store hw
  refine ⟨halt, s', ?_, hk, hseen⟩
  rw [Effect.runOn_bind] at hr
  rw [Act.runOn_bind, Act.runOn_action]
  rcases hread : read.perform.runOn w.store with ⟨halt | x, s₁⟩
  · rw [hread] at hr
    cases hr
    rfl
  · rw [hread] at hr
    dsimp only at hr ⊢
    rw [Act.runOn_bind, Act.runOn_action, hr]

/-- An element that does not belong into its list. -/
theorem follows_rejected {kind : String} {e : Value} {x : Act σ Unit}
    (h : FailsAs keeps s (Effect.accept kind e) failed) :
    c.Follows keeps s (.broken failed)
      (liftM (Action.belongs kind e) >>= fun belongs =>
        if belongs then x else rejectElement kind e) := by
  refine follows_broken hc fun w hw => ?_
  obtain ⟨halt, s', hr, hk, hseen⟩ := h w.store hw
  refine ⟨halt, s', ?_, hk, hseen⟩
  unfold Effect.accept at hr
  rw [Effect.runOn_bind] at hr
  rw [Act.runOn_bind, Act.runOn_action]
  rcases hb : (Action.belongs kind e).perform.runOn w.store with ⟨halt | _ | _, s₁⟩
  · rw [hb] at hr
    cases hr
    rfl
  · rw [hb] at hr
    unfold rejectElement
    change Effect.runOn ((Action.describedText e).perform >>= fun _ => _) s₁ = _ at hr
    change Act.runOn ((liftM (Action.describedText e) : Act σ String) >>= fun _ => _)
      { w with store := s₁ } = _
    rw [Effect.runOn_bind] at hr
    rw [Act.runOn_bind, Act.runOn_action]
    rcases hd : (Action.describedText e).perform.runOn s₁ with ⟨halt | text, s₂⟩
    · rw [hd] at hr
      cases hr
      rfl
    · rw [hd] at hr
      dsimp only at hr ⊢
      rw [Act.runOn_action, hr]
  · rw [hb] at hr
    nomatch hr

end

end

/-! ### Walks -/

/-- An element of a list is walked if it belongs into the list. -/
theorem walkElement_belongs {σ : Type} (options : WalkOptions) (visitor : Visitor σ)
    (context : Value) (visit : Value → Act σ Unit) (kind : String) (e : Value) :
    walkElement options visitor context visit kind e =
      (liftM (Action.belongs kind e) >>= fun belongs =>
        if belongs then
          match variants? kind with
          | some _ => walkVariant options visitor context visit kind e
          | none => visit e
        else rejectElement kind e) := by
  unfold Action.belongs
  rcases hv : variants? kind with - | classes
  · exact walkElement_plain options visitor context visit hv e
  · exact walkElement_variant options visitor context visit hv e

section

variable {σ S : Type} {c : Company σ S} {keeps : Store → Store → Prop} [IsPreorder Store keeps]
  {s₀ : Store} {P : Frame → Prop} {options : WalkOptions} {visitor : Visitor σ} {context : Value}
  {view : View} {troubles : Troubles} {root : Value}
  (hc : c.Led keeps s₀ P options visitor context) (hS : view.Stands keeps s₀ options root)
  (hT : view.Troubled troubles keeps s₀ options root) (hP : view.BelowAll options.table root P)
include hc hS hT hP

section

variable {visit : Value → Act σ Unit} {node : Value → Track}
  (hn : ∀ e, view.Below options.table root e → c.Follows keeps s₀ (node e) (visit e))
  (hu : ∀ e, view.Below options.table root e → view.kind? e = none →
    c.Follows keeps s₀ (node e) (Act.onReport (visit e) (variantNote e)))
include hn hu

theorem follows_element {v e : Value} {key kind : String} {elements : List Value}
    (hw : view.Walked options.table root v key kind) (hs : view.shown v key = .items elements)
    (he : e ∈ elements) :
    c.Follows keeps s₀ (view.trackElement troubles node kind e)
      (walkElement options visitor context visit kind e) := by
  have hf := hS.fits hw hs he
  rw [walkElement_belongs]
  unfold View.trackElement
  by_cases hfits : view.fits kind e = true
  · have hb : view.Below options.table root e := ⟨v, key, kind, elements, hw, hs, he, hfits⟩
    rw [if_pos hfits] at hf ⊢
    refine Follows.read hf ?_
    rw [if_pos rfl]
    rcases hv : variants? kind with - | classes
    · exact hn e hb
    · have hp : P (.variant kind e) := hP.variant (by rw [hv]; nofun) hb
      have hnamable := hS.namableBelow.variant (by rw [hv]; nofun) hb
      rcases hk : view.kind? e with - | nodeKind
      · exact (hu e hb hk).framed (hc.enters hp) (hc.leaves hnamable)
      · have hinner := (hn e hb).noted (fun s' hs' => variant_notes fun s₁ hs₁ =>
          hT.named hb hk s₁ (trans_of keeps hs' hs₁)) follows_done
        rw [bind_pure_unit] at hinner
        exact hinner.framed (hc.enters hp) (hc.leaves hnamable)
  · rw [if_neg hfits]
    exact follows_rejected hc (hT.element hw hs he (by simpa using hfits))

theorem follows_elements {v nodes : Value} {key kind : String} {elements l : List Value} {s : Store}
    (hw : view.Walked options.table root v key kind) (hs : view.shown v key = .items elements)
    (hl : ∀ e ∈ l, e ∈ elements) (hk : keeps s₀ s)
    (hsize : Reads keeps s (Action.checkSize nodes elements.length) ()) :
    c.Follows keeps s (view.trackElements troubles node kind l) (l.forM fun e => do
      Act.within (.element (plainKind kind)) (walkElement options visitor context visit kind e)
      Action.checkSize nodes elements.length) := by
  induction l with
  | nil => exact follows_done
  | cons e l ih =>
    have he := (follows_element hc hS hT hP hn hu hw hs (hl e (List.mem_cons_self ..))).mono hk
    have hrest : c.Follows keeps s (view.trackElements troubles node kind l)
        (liftM (Action.checkSize nodes elements.length) >>= fun _ => l.forM _) :=
      Follows.read hsize (ih fun e' he' => hl e' (List.mem_cons_of_mem e he'))
    have h : c.Follows keeps s (.noted (.element (plainKind kind)) _ _) _ := he.within hrest
    refine Eq.subst (motive := c.Follows keeps s _) ?_ h
    exact (bind_assoc _ _ _).symm

theorem follows_list {v : Value} {key kind : String}
    (hw : view.Walked options.table root v key kind) :
    c.Follows keeps s₀
      (view.trackList troubles node kind (troubles.shown v key) (view.shown v key)) (do
        let nodes ← Action.attr v key
        walkList options visitor context visit kind nodes) := by
  have hp : P (.list kind) := hP.list hw
  have hnamable := hS.namableBelow.list hw
  have htrouble := hT.shown hw
  have hshows := hS.shows hw
  simp only [walkList_eq]
  rcases hs : view.shown v key with - | - | - | elements
  · rw [hs] at htrouble
    exact follows_failsThen hc htrouble
  · rw [hs] at hshows
    refine follows_read fun s₁ hs₁ => ?_
    rcases hshows s₁ hs₁ with ⟨nodes, s₂, hr, hk, hh⟩ | ⟨hne, -⟩
    · exact ⟨nodes, s₂, hr, hk, Follows.read hh follows_done⟩
    · nomatch hne
  · rw [hs] at htrouble
    refine follows_read fun s₁ hs₁ => ?_
    obtain ⟨nodes, s₂, hr, hk, htrue, hitems⟩ := htrouble s₁ hs₁
    refine ⟨nodes, s₂, hr, hk, Follows.read htrue ?_⟩
    have hs₂ := trans_of keeps hs₁ hk
    exact (follows_fails hc hitems).framed
      (fun s' hs' => hc.enters hp s' (trans_of keeps hs₂ hs'))
      (fun s' hs' => hc.leaves hnamable s' (trans_of keeps hs₂ hs'))
  · rw [hs] at hshows
    refine follows_read fun s₁ hs₁ => ?_
    rcases hshows s₁ hs₁ with ⟨nodes, s₂, hr, hk, hh⟩ | ⟨hne, -⟩
    · refine ⟨nodes, s₂, hr, hk, Follows.read hh.1 ?_⟩
      have hs₂ := trans_of keeps hs₁ hk
      refine Follows.framed
        (fun s' hs' => hc.enters hp s' (trans_of keeps hs₂ hs')) (Follows.read hh.2.1 ?_)
        (fun s' hs' => hc.leaves hnamable s' (trans_of keeps hs₂ hs'))
      exact follows_elements hc hS hT hP hn hu hw hs (fun _ => id) hs₂ hh.2.2
    · nomatch hne

theorem follows_entries {v : Value} {kind : String} (hr : view.Reached options.table root v)
    (hk : view.kind? v = some kind) {l : List (String × String)}
    (hl : ∀ entry ∈ l, entry ∈ options.table.entries kind) :
    c.Follows keeps s₀ (view.trackLists troubles node v l) (l.forM fun (key, listKind) =>
      Act.within (.list (plainKind listKind)) do
        let nodes ← Action.attr v key
        walkList options visitor context visit listKind nodes) := by
  induction l with
  | nil => exact follows_done
  | cons entry l ih =>
    obtain ⟨key, listKind⟩ := entry
    have hw : view.Walked options.table root v key listKind :=
      ⟨hr, kind, hk, hl _ (List.mem_cons_self ..)⟩
    exact (follows_list hc hS hT hP hn hu hw).within
      (ih fun entry he => hl entry (List.mem_cons_of_mem _ he))

theorem follows_lists {v : Value} {kind : String} (hr : view.Reached options.table root v)
    (hk : view.kind? v = some kind) :
    c.Follows keeps s₀ (view.trackLists troubles node v (options.table.entries kind))
      (walkLists options visitor context visit (.text kind) v) := by
  have hkind := hS.kind hr
  rw [hk] at hkind
  exact Follows.read hkind.2 (follows_entries hc hS hT hP hn hu hr hk fun _ => id)

end

omit hS hP in
/-- A node of a variant whose kind cannot be read. That its kind is asked for once more when a report
leaves it makes no difference. -/
theorem follows_nameless (depth : Nat) {e : Value} (hb : view.Below options.table root e)
    (hk : view.kind? e = none) :
    c.Follows keeps s₀ (view.trackNode troubles options.table depth e)
      (Act.onReport (walkNode options visitor context depth e) (variantNote e)) := by
  cases depth with
  | zero => exact follows_broken hc fun w _ => ⟨.tooDeep, w.store, rfl, refl_of keeps _, trivial⟩
  | succ depth =>
    have hfails := hT.kind hb.reached hk
    unfold View.trackNode
    rw [hk, walkNode_succ]
    refine follows_broken hc fun w hw => ?_
    obtain ⟨halt, s₁, hr, hk₁, hseen⟩ := hfails w.store hw
    obtain ⟨halt', s₂, hr', hk₂, hseen'⟩ := hfails s₁ (trans_of keeps hw hk₁)
    have hread (w : World σ) : (liftM (Action.attr e "kind") : Act σ Value).runOn w =
        (((Action.attr e "kind").perform.runOn w.store).1,
          { w with store := ((Action.attr e "kind").perform.runOn w.store).2 }) :=
      Act.runOn_action _ w
    have hattr := hread w
    rw [hr] at hattr
    rw [Act.onReport_noted (Act.runOn_bind_error hattr _)]
    cases halt with
    | tooDeep => exact ⟨.tooDeep, s₁, rfl, hk₁, hseen⟩
    | raised r =>
      unfold FailedRun.noted
      dsimp only
      split
      · have hagain := hread { w with store := s₁ }
        rw [hr'] at hagain
        have hnote : (variantNote e r).runOn { w with store := s₁ } =
            (.error halt', { w with store := s₂ }) := Act.runOn_bind_error hagain _
        rw [hnote]
        exact ⟨halt', s₂, rfl, trans_of keeps hk₁ hk₂, hseen'⟩
      · exact ⟨.raised r, s₁, rfl, hk₁, hseen⟩

theorem follows_node (depth : Nat) {v : Value} (hb : view.Below options.table root v) :
    c.Follows keeps s₀ (view.trackNode troubles options.table depth v)
      (walkNode options visitor context depth v) := by
  induction depth generalizing v with
  | zero => exact follows_broken hc fun w _ => ⟨.tooDeep, w.store, rfl, refl_of keeps _, trivial⟩
  | succ depth ih =>
    have hkind := hS.kind hb.reached
    rw [walkNode_succ]
    unfold View.trackNode
    rcases hk : view.kind? v with - | kind
    · exact follows_fails hc (hT.kind hb.reached hk)
    · rw [hk] at hkind
      refine Follows.read hkind.1 (Follows.framed (hc.enters (hP.node hb hk)) ?_
        (hc.leaves (hS.namableBelow.node hb hk)))
      exact follows_lists hc hS hT hP (fun e he => ih he) (fun e => follows_nameless hc hT depth)
        hb.reached hk

section

variable (init : σ → List String → Prop) {a : S}
  (hinit : ∀ {state log}, init state log → c.fallen a state log)
  (hopen : ∀ kind, view.kind? root = some kind →
    c.Enters keeps s₀ (fun w => keeps s₀ w.store ∧ init w.state w.log) (.node (.text kind) root) a
      (enterFrame options visitor context (.node (.text kind) root)))
include hinit hopen

/-- The root of a walk. -/
theorem follows_root (depth : Nat) :
    Act.Ensures (fun w => keeps s₀ w.store ∧ init w.state w.log)
      (fun _ => c.Arrived keeps s₀ (view.trackNode troubles options.table depth root) a)
      (c.Broken keeps s₀ (view.trackNode troubles options.table depth root) a)
      (walkNode options visitor context depth root) := by
  rintro w ⟨hw, hstate⟩
  cases depth with
  | zero =>
    exact ⟨0, .tooDeep, a, .broken _ _, hinit hstate, trivial, w.store, hw, refl_of Store.KeepsObjects _⟩
  | succ depth =>
    have hkind := hS.kind .root
    rw [walkNode_succ]
    unfold View.trackNode
    rcases hk : view.kind? root with - | kind
    · obtain ⟨halt, s', hr, hk', hseen⟩ := hT.kind .root hk w.store hw
      have hattr : (liftM (Action.attr root "kind") : Act σ Value).runOn w =
          (.error halt, { w with store := s' }) := by
        rw [Act.runOn_action, hr]
      rw [Act.runOn_bind_error hattr]
      exact ⟨0, _, a, .broken _ _, hinit hstate, hseen, s', trans_of keeps hw hk',
        refl_of Store.KeepsObjects _⟩
    · rw [hk] at hkind
      have hnamable : Namable options keeps s₀ (.node (.text kind) root) :=
        ⟨⟨kind, rfl⟩, fun hd => hS.nodeText hd .root⟩
      have hinner := follows_lists hc hS hT hP (fun e he => follows_node hc hS hT hP depth he)
        (fun e => follows_nameless hc hT depth) .root hk
      obtain ⟨s', hr, hk'⟩ := hkind.1 w.store hw
      have hattr : (liftM (Action.attr root "kind") : Act σ Value).runOn w =
          (.ok (.text kind), { w with store := s' }) := by
        rw [Act.runOn_action, hr]
      rw [Act.runOn_bind_ok hattr]
      exact ensures_framed (hopen kind hk) hinner (hc.leaves hnamable s₀ (refl_of keeps _))
        { w with store := s' } ⟨trans_of keeps hw hk', hstate⟩

/-- **Walks follow their track.** If a company is led at its steps, and starts at the root, then a
walk comes out as a journey of the company along the track of the tree does. -/
theorem follows_walk {shown : String} (hshown : options.debug = true → ∀ s, keeps s₀ s →
      Store.Gives Store.KeepsObjects s (Action.describedText root) shown) :
    Act.Ensures (fun w => keeps s₀ w.store ∧ init w.state w.log)
      (fun _ => c.Arrived keeps s₀ (view.trackNode troubles options.table options.depthLimit root) a)
      (c.Aborted keeps s₀ options shown
        (view.trackNode troubles options.table options.depthLimit root) a)
      (walk options visitor context root) := by
  rintro w ⟨hw, hstate⟩
  obtain ⟨s', hr, hk'⟩ := hS.accepted w.store hw
  have hcheck : (liftM (Action.checkRoot root) : Act σ Unit).runOn w =
      (.ok (), { w with store := s' }) := by
    rw [Act.runOn_action, hr]
  have h := follows_root hc hS hT hP init hinit hopen options.depthLimit { w with store := s' }
    ⟨trans_of keeps hw hk', hstate⟩
  unfold walk
  rw [Act.runOn_bind_ok hcheck]
  unfold walkFrom
  rcases hr : (walkNode options visitor context options.depthLimit root).runOn
    { w with store := s' } with ⟨halt | _, w₁⟩
  · rw [hr] at h
    obtain ⟨place, failed, a', hg, hf, hfell⟩ := h
    obtain ⟨halt', w', hrun, hstate', hlog, hfell'⟩ := (aborted_notes hshown).onReport hr hfell
    unfold noteAborted at hrun
    rw [hrun]
    refine ⟨place, failed, a', w₁.log, hg, ?_, hlog, hfell'⟩
    rwa [hstate']
  · rw [hr] at h
    rw [Act.onReport_ok hr]
    exact h

end

end

end Company

/-! ### Trees of the language -/

/-- Everything in a tree of the language can be read. -/
theorem Store.view_troubled {keeps : Store → Store → Prop} [IsPreorder Store keeps] {s : Store}
    (hk : TreeKeeping keeps) {options : WalkOptions} {root : Value} (h : s.Ordinary options.table)
    (hd : options.debug = false)
    (hroot : [NodeClass.document, .schema].any (s.isInstance root) = true) (troubles : Troubles) :
    s.view.Troubled troubles keeps s options root := by
  obtain ⟨c, -, hc⟩ := List.any_eq_true.mp hroot
  have hnode := node?_of_isInstance hc
  have hkind : ∀ {v n}, s.node? v = some n → s.view.kind? v = some n.cls.kind := by
    intro v n hn
    change (s.node? v).map _ = _
    rw [hn]
    rfl
  refine ⟨?kind, ?shown, ?element, ?named, ?rootText⟩
  case kind =>
    intro v hv hnone
    obtain ⟨n, hn⟩ := Ordinary.node?_of_reached hnode hv
    nomatch hnone.symm.trans (hkind hn)
  case shown =>
    intro v key kind hw
    obtain ⟨n, hn, hm⟩ := Ordinary.node?_of_walked hnode hw
    obtain ⟨r, rfl, -⟩ := h.node hn
    obtain ⟨items, -, hs, -⟩ := h.listed hn hm
    rw [hs]
    cases items <;> trivial
  case element =>
    intro v key kind elements e hw hs he hf
    obtain ⟨n, hn, hm⟩ := Ordinary.node?_of_walked hnode hw
    obtain ⟨r, rfl, -⟩ := h.node hn
    obtain ⟨items, -, hs', hfits⟩ := h.listed hn hm
    obtain rfl : items = elements := Shown.ofItems_inj (hs'.symm.trans hs)
    nomatch hf.symm.trans (hfits e he)
  case named =>
    intro e kind hb he s' hs
    obtain ⟨n, hn⟩ := Ordinary.node?_of_reached hnode hb.reached
    obtain ⟨r, rfl, hr, -⟩ := h.node hn
    obtain rfl : n.cls.kind = kind := Option.some.inj ((hkind hn).symm.trans he)
    obtain ⟨_, h'⟩ := hr.keepsTrees (hk.keepsTrees hs)
    exact h'.gives_kind
  case rootText =>
    intro hd'
    rw [hd] at hd'
    nomatch hd'

end GraphQLTree
