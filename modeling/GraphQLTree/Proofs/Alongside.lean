import GraphQLTree.Proofs.Following

/-! # Walks of two visitors

Two visitors lead a walk each over the same tree, in stores of their own. What is compared is what can
be seen of a world without its store: the state of the visitors and the log. If the steps of the two
visitors lead from related states to related states, so do their walks, and where one walk fails the
other one fails in the same way (`Alongside.walk`). The relation may depend on the number of open
frames, so that a step that leaves a frame need not be looked at where no frame is open. -/

namespace GraphQLTree

/-! ### Steps of two walks -/

/-- What can be seen of a world without its store. -/
abbrev Face (σ : Type) := σ × List String

abbrev World.face {σ : Type} (w : World σ) : Face σ := (w.state, w.log)

section

variable {σ σ' : Type}

/-- From related worlds two steps both succeed or both fail, and end as `J` or `F` tells. -/
def Act.Pairs {α β : Type} (I : World σ → World σ' → Prop)
    (J : α → World σ → β → World σ' → Prop) (F : Halt → World σ → Halt → World σ' → Prop)
    (x : Act σ α) (y : Act σ' β) : Prop :=
  ∀ ⦃w v⦄, I w v →
    match x.runOn w, y.runOn v with
    | (.ok a, w'), (.ok b, v') => J a w' b v'
    | (.error halt, w'), (.error halt', v') => F halt w' halt' v'
    | _, _ => False

namespace Act

variable {α β γ δ : Type} {I : World σ → World σ' → Prop} {J : α → World σ → β → World σ' → Prop}
  {F : Halt → World σ → Halt → World σ' → Prop} {x : Act σ α} {y : Act σ' β}

theorem pairs_pure {a : α} {b : β} (h : ∀ w v, I w v → J a w b v) : Pairs I J F (pure a) (pure b) :=
  fun w v hw => h w v hw

theorem Pairs.bind {K : γ → World σ → δ → World σ' → Prop} {f : α → Act σ γ} {g : β → Act σ' δ}
    (h : Pairs I J F x y) (hf : ∀ a b, Pairs (fun w v => J a w b v) K F (f a) (g b)) :
    Pairs I K F (x >>= f) (y >>= g) := by
  intro w v hw
  have hrun := h hw
  rw [runOn_bind, runOn_bind]
  revert hrun
  rcases x.runOn w with ⟨halt | a, w'⟩
  · rcases y.runOn v with ⟨halt' | b, v'⟩
    · exact id
    · exact False.elim
  · rcases y.runOn v with ⟨halt' | b, v'⟩
    · exact False.elim
    · exact fun hj => hf a b hj

/-- The usual case: a step with the same result in both walks, and what follows it. -/
theorem Pairs.bind_same {K : World σ → World σ' → Prop} {L : γ → World σ → δ → World σ' → Prop}
    {y : Act σ' α} {f : α → Act σ γ} {g : α → Act σ' δ}
    (h : Pairs I (fun a w b v => a = b ∧ K w v) F x y) (hf : ∀ a, Pairs K L F (f a) (g a)) :
    Pairs I L F (x >>= f) (y >>= g) := by
  refine h.bind fun a b => ?_
  rintro w v ⟨rfl, hw⟩
  exact hf a hw

theorem Pairs.mono {I' : World σ → World σ' → Prop} {J' : α → World σ → β → World σ' → Prop}
    {F' : Halt → World σ → Halt → World σ' → Prop} (h : Pairs I J F x y)
    (hI : ∀ w v, I' w v → I w v) (hJ : ∀ a w b v, J a w b v → J' a w b v)
    (hF : ∀ halt w halt' v, F halt w halt' v → F' halt w halt' v) : Pairs I' J' F' x y := by
  intro w v hw
  have hrun := h (hI w v hw)
  revert hrun
  rcases x.runOn w with ⟨halt | a, w'⟩
  · rcases y.runOn v with ⟨halt' | b, v'⟩
    · exact hF halt w' halt' v'
    · exact False.elim
  · rcases y.runOn v with ⟨halt' | b, v'⟩
    · exact False.elim
    · exact hJ a w' b v'

theorem Pairs.swap (h : Pairs I J F x y) :
    Pairs (fun v w => I w v) (fun b v a w => J a w b v) (fun halt' v halt w => F halt w halt' v)
      y x := by
  intro v w hw
  have hrun := h hw
  revert hrun
  rcases x.runOn w with ⟨halt | a, w'⟩
  · rcases y.runOn v with ⟨halt' | b, v'⟩
    · exact id
    · exact False.elim
  · rcases y.runOn v with ⟨halt' | b, v'⟩
    · exact False.elim
    · exact id

end Act

variable (keeps : Store → Store → Prop) (R : Face σ → Face σ' → Prop)

/-- Worlds that keep the trees of two stores, and of which the rest is related. -/
structure Twin (s s' : Store) (w : World σ) (v : World σ') : Prop where
  left : keeps s w.store
  right : keeps s' v.store
  faces : R w.face v.face

/-- Two walks have failed in the same way. -/
def FellAlike (s s' : Store) (halt : Halt) (w : World σ) (halt' : Halt) (v : World σ') : Prop :=
  ∃ failed, Fell keeps s failed halt w.store ∧ Fell keeps s' failed halt' v.store ∧ R w.face v.face

end

/-- A step into or out of a frame, which tells whether to skip what is inside. -/
def Visitor.step {σ : Type} (options : WalkOptions) (context : Value) (visitor : Visitor σ)
    (f : Frame) : Direction → Act σ Bool
  | .enter => enterFrame options visitor context f
  | .leave => leaveFrame visitor context f >>= fun _ => pure false

/-- The number of open frames before and after a step. -/
def Direction.Counts : Direction → Nat → Nat → Prop
  | enter, n, n' => n' = n + 1
  | leave, n, n' => n = n' + 1

section

variable {σ σ' : Type} (options : WalkOptions) (context : Value) (keeps : Store → Store → Prop)
  (s₀ : Store) (visitor : Visitor σ) (visitor' : Visitor σ')

/-- In all stores that keep the tree of `s₀`, a step of one visitor comes out as that of the other. -/
def StepsPair (R₀ R₁ R' : Face σ → Face σ' → Prop) (f : Frame) (d : Direction) : Prop :=
  ∀ s s', keeps s₀ s → keeps s₀ s' →
    Act.Pairs (Twin keeps R₀ s s') (fun a w b v => a = b ∧ Twin keeps R₁ s s' w v)
      (FellAlike keeps R' s s') (visitor.step options context f d) (visitor'.step options context f d)

/-- The steps of two visitors lead from related states to related states, where frames with `P` are
entered, and frames with `Q` are left. -/
structure Alongside (P Q : Frame → Prop) (R : Nat → Face σ → Face σ' → Prop)
    (R' : Face σ → Face σ' → Prop) : Prop where
  falls : ∀ {n a b}, R n a b → R' a b
  opens : ∀ {f}, P f → Q f
  enters : ∀ {f}, P f → ∀ n,
    StepsPair options context keeps s₀ visitor visitor' (R n) (R (n + 1)) R' f .enter
  leaves : ∀ {f}, Q f → ∀ n,
    StepsPair options context keeps s₀ visitor visitor' (R (n + 1)) (R n) R' f .leave

/-- One of two visitors whose steps lead from related states to related states. Its states are those
to which there is a related one, with the number of open frames. -/
def sideCompany (Q : Frame → Prop) (R : Nat → Face σ → Face σ' → Prop)
    (R' : Face σ → Face σ' → Prop) : Company σ (Nat × Face σ) where
  conduct f d a r a' := Q f ∧ d.Counts a.1 a'.1 ∧
    StepsPair options context keeps s₀ visitor visitor' (R a.1) (R a'.1) R' f d ∧
    ∃ w, keeps s₀ w.store ∧ w.face = a.2 ∧
      match r, (visitor.step options context f d).runOn w with
      | .goesOn pruned, (.ok pruned', w') => pruned = pruned' ∧ w'.face = a'.2
      | .fails failed, (.error halt, w') => Failed.Seen w'.store halt failed ∧ w'.face = a'.2
      | _, _ => False
  stands a state log := (state, log) = a.2 ∧ ∃ b, R a.1 a.2 b
  fallen a state log := (state, log) = a.2

end

section

variable {σ σ' : Type} {options : WalkOptions} {context : Value} {keeps : Store → Store → Prop}
  {s₀ : Store} {visitor : Visitor σ} {visitor' : Visitor σ'} {P Q : Frame → Prop}
  {R : Nat → Face σ → Face σ' → Prop} {R₀ R₁ R' : Face σ → Face σ' → Prop} {f : Frame}
  {d : Direction}

theorem StepsPair.swap
    (h : StepsPair options context keeps s₀ visitor visitor' R₀ R₁ R' f d) :
    StepsPair options context keeps s₀ visitor' visitor (fun b a => R₀ a b) (fun b a => R₁ a b)
      (fun b a => R' a b) f d := by
  intro s s' hs hs'
  refine (h s' s hs' hs).swap.mono ?_ ?_ ?_
  · exact fun w v hw => ⟨hw.right, hw.left, hw.faces⟩
  · exact fun a w b v hab => ⟨hab.1.symm, hab.2.right, hab.2.left, hab.2.faces⟩
  · exact fun halt w halt' v ⟨failed, hfell, hfell', hr⟩ => ⟨failed, hfell', hfell, hr⟩

theorem Alongside.swap (h : Alongside options context keeps s₀ visitor visitor' P Q R R') :
    Alongside options context keeps s₀ visitor' visitor P Q (fun n b a => R n a b)
      (fun b a => R' a b) where
  falls := h.falls
  opens := h.opens
  enters hp n := (h.enters hp n).swap
  leaves hq n := (h.leaves hq n).swap

variable [IsPreorder Store keeps]

/-- A step of one of two visitors. -/
theorem StepsPair.ensures {n n' : Nat} (h : StepsPair options context keeps s₀ visitor visitor'
      (R n) (R n') R' f d) (hq : Q f)
    (hn : d.Counts n n') {s : Store} (hs : keeps s₀ s) (x : Face σ) :
    Act.Ensures
      ((sideCompany options context keeps s₀ visitor visitor' Q R R').At keeps s (n, x))
      (fun pruned w => ∃ a', (sideCompany options context keeps s₀ visitor visitor' Q R R').conduct
          f d (n, x) (.goesOn pruned) a' ∧
        (sideCompany options context keeps s₀ visitor visitor' Q R R').At keeps s a' w)
      ((sideCompany options context keeps s₀ visitor visitor' Q R R').Stumbled keeps s f d (n, x))
      (visitor.step options context f d) := by
  rintro w ⟨hw, rfl, y, hr⟩
  have hpair := h s s hs hs (w := w) (v := ⟨w.store, y.2, y.1⟩) ⟨hw, hw, hr⟩
  have hconduct : ∀ r x', (match r, (visitor.step options context f d).runOn w with
      | .goesOn pruned, (.ok pruned', w') => pruned = pruned' ∧ w'.face = x'
      | .fails failed, (.error halt, w') => Failed.Seen w'.store halt failed ∧ w'.face = x'
      | _, _ => False) →
      (sideCompany options context keeps s₀ visitor visitor' Q R R').conduct f d (n, w.face) r (n', x') :=
    fun r x' hx => ⟨hq, hn, h, w, trans_of keeps hs hw, rfl, hx⟩
  revert hpair hconduct
  rcases (visitor.step options context f d).runOn w with ⟨halt | pruned, w'⟩
  · rcases (visitor'.step options context f d).runOn _ with ⟨halt' | pruned', v'⟩
    · rintro ⟨failed, hfell, -, -⟩ hconduct
      exact ⟨failed, (n', w'.face), hconduct (.fails failed) _ ⟨hfell.seen, rfl⟩, rfl, hfell⟩
    · exact fun h => h.elim
  · rcases (visitor'.step options context f d).runOn _ with ⟨halt' | pruned', v'⟩
    · exact fun h => h.elim
    · rintro ⟨-, htwin⟩ hconduct
      exact ⟨(n', w'.face), hconduct (.goesOn pruned) _ ⟨rfl, rfl⟩, htwin.left, rfl, _, htwin.faces⟩

omit [IsPreorder Store keeps] in
/-- At the end of a track as many frames are open as at its beginning. -/
theorem sideCompany_goes {g : Track} {a a' : Nat × Face σ} (h : Goes
      (sideCompany options context keeps s₀ visitor visitor' Q R R').conduct g a (.ends a')) :
    a'.1 = a.1 := by
  induction g generalizing a a' with
  | done =>
    cases h
    rfl
  | broken => cases h
  | frame f inner ih =>
    cases h with
    | @frame _ _ _ a₁ a₂ _ pruned _ he hi hl =>
      have hn : a₁.1 = a.1 + 1 := he.2.1
      have hn' : a₂.1 = a'.1 + 1 := hl.2.1
      have hinner : a₂.1 = a₁.1 := by
        cases pruned with
        | true =>
          cases hi
          rfl
        | false => exact ih hi
      omega
  | noted stage inner rest ihi ihr =>
    cases h with
    | rest hi hr => exact (ihr hr).trans (ihi hi)

/-- One of two visitors is led along a track. -/
theorem Alongside.led (h : Alongside options context keeps s₀ visitor visitor' P Q R R') :
    (sideCompany options context keeps s₀ visitor visitor' Q R R').Led keeps s₀ P options visitor
      context where
  falls hstands := hstands.1
  enters hp s hs a := (h.enters hp a.1).ensures (h.opens hp) rfl hs a.2
  leaves {f} _ s hs a hin := by
    obtain ⟨a₀, a₁, pruned, inner, he, hi⟩ := hin
    have hn : a₁.1 = a₀.1 + 1 := he.2.1
    have hlevel : a.1 = a₀.1 + 1 := (sideCompany_goes hi).trans hn
    have hleave := (h.leaves he.1 a₀.1).ensures (R := R) he.1 rfl hs a.2
    rw [← hlevel] at hleave
    intro w hw
    have hrun := hleave w hw
    have hstep : (visitor.step options context f .leave).runOn w =
        (leaveFrame visitor context f >>= fun _ => pure false).runOn w := rfl
    rw [hstep] at hrun
    rcases hr : (leaveFrame visitor context f).runOn w with ⟨halt | _, w'⟩
    · rwa [Act.runOn_bind_error hr] at hrun
    · rw [Act.runOn_bind_ok hr] at hrun
      exact ⟨false, hrun⟩

end

/-! ### The end of entering -/

/-- That something is skipped is logged with its text. -/
theorem runOn_endEnter_logged {σ : Type} {options : WalkOptions} {f : Frame} {pruned : Bool} {text : String}
    {w : World σ} {s : Store} (hp : (pruned && options.debug) = true)
    (ht : (Action.frameText f).perform.runOn w.store = (.ok text, s)) :
    (endEnter options f.kind f.node? pruned).runOn w =
      (.ok pruned, ⟨s, w.log ++ ["Pruning " ++ text ++ "."], w.state⟩) := by
  unfold endEnter
  dsimp only
  rw [if_pos hp]
  unfold Action.frameText at ht
  rcases hn : f.node? with - | node
  · rw [hn] at ht
    have ha : (liftM (Action.text f.kind) : Act σ String).runOn w =
        (.ok text, { w with store := s }) := by
      rw [Act.runOn_action, ht]
    exact Act.runOn_bind_ok ha _
  · rw [hn] at ht
    have ha : (liftM (Action.describedText node) : Act σ String).runOn w =
        (.ok text, { w with store := s }) := by
      rw [Act.runOn_action, ht]
    exact Act.runOn_bind_ok ha _

/-- A relation that does not depend on what both walks log. -/
def LogsTogether {σ σ' : Type} (R : Face σ → Face σ' → Prop) : Prop :=
  ∀ {a b} lines, R a b → R (a.1, a.2 ++ lines) (b.1, b.2 ++ lines)

/-- Two walks log the same when something is skipped. -/
theorem Namable.pairs_endEnter {σ σ' : Type} {options : WalkOptions} {keeps : Store → Store → Prop}
    [IsPreorder Store keeps] {s₀ s s' : Store} {f : Frame} {R : Face σ → Face σ' → Prop}
    {F : Halt → World σ → Halt → World σ' → Prop} (hf : Namable options keeps s₀ f)
    (hR : LogsTogether R) (hs : keeps s₀ s) (hs' : keeps s₀ s') (pruned : Bool) :
    Act.Pairs (Twin keeps R s s') (fun a w b v => a = b ∧ Twin keeps R s s' w v) F
      (endEnter options f.kind f.node? pruned) (endEnter options f.kind f.node? pruned) := by
  intro w v hw
  by_cases hp : (pruned && options.debug) = true
  · obtain ⟨text, ht⟩ := hf.text (Bool.and_eq_true_iff.mp hp).2
    obtain ⟨s₁, hr, hk⟩ := ht w.store (trans_of keeps hs hw.left)
    obtain ⟨s₁', hr', hk'⟩ := ht v.store (trans_of keeps hs' hw.right)
    rw [runOn_endEnter_logged hp hr, runOn_endEnter_logged hp hr']
    exact ⟨rfl, trans_of keeps hw.left hk, trans_of keeps hw.right hk', hR _ hw.faces⟩
  · unfold endEnter
    dsimp only
    rw [if_neg hp, if_neg hp]
    exact ⟨rfl, hw⟩

/-! ### Two walks -/

section

variable {σ σ' : Type} {options : WalkOptions} {context : Value} {keeps : Store → Store → Prop}
  [IsPreorder Store keeps] {s₀ : Store} {visitor : Visitor σ} {visitor' : Visitor σ'}
  {P Q : Frame → Prop} {R : Nat → Face σ → Face σ' → Prop} {R' : Face σ → Face σ' → Prop}
  {view : View} {troubles : Troubles} {root : Value}

/-- How two walks come out alike: both succeed, or both fail in the same way and log it if that is
asked for. -/
def WalksAlike (R R' : Face σ → Face σ' → Prop) :
    Except Halt Unit × World σ → Except Halt Unit × World σ' → Prop
  | (.ok _, w), (.ok _, v) => R w.face v.face
  | (.error halt, w), (.error halt', v) => ∃ failed lines a b, R' a b ∧
      w.face = (a.1, a.2 ++ lines) ∧ v.face = (b.1, b.2 ++ lines) ∧
      Failed.Seen w.store halt failed ∧ Failed.Seen v.store halt' failed
  | _, _ => False

variable (R R') in
theorem sideCompany_alike (hfalls : ∀ {n a b}, R n a b → R' a b) {g : Track}
    {a : Nat × Face σ} {b : Nat × Face σ'} {journey : Journey (Nat × Face σ)}
    {other : Journey (Nat × Face σ')}
    (h : Goes (sideCompany options context keeps s₀ visitor visitor' Q R R').conduct g a journey)
    (h' : Goes (sideCompany options context keeps s₀ visitor' visitor Q (fun n b a => R n a b)
      (fun b a => R' a b)).conduct g b other) (hn : a.1 = b.1) (hr : R a.1 a.2 b.2) :
    Journey.Alike (fun a b => a.1 = b.1 ∧ R a.1 a.2 b.2) (fun a b => R' a.2 b.2) journey other := by
  refine h.alike (fun hq => hfalls hq.2) ?_ h' ⟨hn, hr⟩
  rintro f d ⟨n, x⟩ ⟨m, y⟩ r r' ⟨n', x'⟩ ⟨m', y'⟩ ⟨hnm, hq⟩
    ⟨-, hd, hpair, w, hw, rfl, hrun⟩ ⟨-, hd', -, v, hv, rfl, hrun'⟩
  dsimp only at hnm hq hd hd' hpair hrun hrun'
  subst hnm
  have hlevel : n' = m' := by
    cases d with
    | enter => exact Eq.trans (b := n + 1) hd (Eq.symm hd')
    | leave =>
      have hd₁ : n = n' + 1 := hd
      have hd₂ : n = m' + 1 := hd'
      omega
  subst hlevel
  have hboth := hpair w.store v.store hw hv ⟨refl_of keeps _, refl_of keeps _, hq⟩
  revert hboth hrun hrun'
  rcases (visitor.step options context f d).runOn w with ⟨halt | pruned, w'⟩
  · rcases (visitor'.step options context f d).runOn v with ⟨halt' | pruned', v'⟩
    · cases r with
      | goesOn => exact fun h => h.elim
      | fails failed =>
        cases r' with
        | goesOn => exact fun _ h => h.elim
        | fails failed' =>
          rintro ⟨hseen, rfl⟩ ⟨hseen', rfl⟩ ⟨failed₀, hfell, hfell', hfaces⟩
          obtain rfl := hseen.unique hfell.seen
          exact ⟨hfell'.seen.unique hseen', hfaces⟩
    · exact fun _ _ h => h.elim
  · rcases (visitor'.step options context f d).runOn v with ⟨halt' | pruned', v'⟩
    · exact fun _ _ h => h.elim
    · cases r with
      | fails => exact fun h => h.elim
      | goesOn =>
        cases r' with
        | fails => exact fun _ h => h.elim
        | goesOn =>
          rintro ⟨rfl, rfl⟩ ⟨rfl, rfl⟩ ⟨hpruned, htwin⟩
          exact ⟨hpruned, rfl, htwin.faces⟩

/-- **Two walks.** If the steps of two visitors lead from related states to related states, so do their
walks from there. -/
theorem Alongside.walk (h : Alongside options context keeps s₀ visitor visitor' P Q R R')
    (hS : view.Stands keeps s₀ options root) (hT : view.Troubled troubles keeps s₀ options root)
    (hP : view.BelowAll options.table root P)
    (hroot : ∀ kind, view.kind? root = some kind → Q (.node (.text kind) root) ∧
      StepsPair options context keeps s₀ visitor visitor' (R 0) (R 1) R' (.node (.text kind) root)
        .enter)
    {w : World σ} {v : World σ'} (hw : keeps s₀ w.store) (hv : keeps s₀ v.store)
    (hr : R 0 w.face v.face) :
    WalksAlike (R 0) R' ((walk options visitor context root).runOn w)
      ((walk options visitor' context root).runOn v) := by
  obtain ⟨shown, hshown⟩ := hT.described hS
  have hleft := Company.follows_walk h.led hS hT hP (fun state log => (state, log) = w.face ∧
      ∃ b, R 0 w.face b) (a := (0, w.face)) (fun h => h.1)
    (fun kind hk => (hroot kind hk).2.ensures (hroot kind hk).1 rfl (refl_of keeps _) w.face) hshown w ⟨hw, rfl, _, hr⟩
  have hright := Company.follows_walk h.swap.led hS hT hP (fun state log => (state, log) = v.face ∧
      ∃ a, R 0 a v.face) (a := (0, v.face)) (fun h => h.1)
    (fun kind hk => (hroot kind hk).2.swap.ensures (R := fun n b a => R n a b) (hroot kind hk).1 rfl
      (refl_of keeps _) v.face) hshown v ⟨hv, rfl, _, hr⟩
  revert hleft hright
  rcases (GraphQLTree.walk options visitor context root).runOn w with ⟨halt | _, w'⟩
  · rcases (GraphQLTree.walk options visitor' context root).runOn v with ⟨halt' | _, v'⟩
    · rintro ⟨place, failed, a, log, hg, hf, hlog, hfell⟩
        ⟨place', failed', b, log', hg', hf', hlog', hfell'⟩
      obtain ⟨-, rfl, hq⟩ := sideCompany_alike R R' h.falls hg hg' rfl hr
      refine ⟨failed, failed.abortedLines options shown, a.2, b.2, hq, ?_, ?_, hfell.seen,
        hfell'.seen⟩
      · rw [← show (w'.state, log) = a.2 from hf, ← hlog]
      · rw [← show (v'.state, log') = b.2 from hf', ← hlog']
    · rintro ⟨place, failed, a, log, hg, -⟩ ⟨b, hg', -⟩
      exact (sideCompany_alike R R' h.falls hg hg' rfl hr :)
  · rcases (GraphQLTree.walk options visitor' context root).runOn v with ⟨halt' | _, v'⟩
    · rintro ⟨a, hg, -⟩ ⟨place', failed', b, log', hg', -⟩
      exact (sideCompany_alike R R' h.falls hg hg' rfl hr :)
    · rintro ⟨a, hg, -, hstands, -⟩ ⟨b, hg', -, hstands', -⟩
      obtain ⟨hn, hq⟩ := sideCompany_alike R R' h.falls hg hg' rfl hr
      have hlevel : a.1 = 0 := sideCompany_goes hg
      rw [hlevel, ← hstands, ← hstands'] at hq
      exact hq

end

end GraphQLTree
