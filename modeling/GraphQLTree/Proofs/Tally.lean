import GraphQLTree.Proofs.Nesting

/-! # Visitors that keep a record

Two visitors, of which one keeps a record of something beside the state of the other: if their
methods do the same, then so do their walks (`tallies_walk`). Nothing is said about the record but
that it grows by pieces of a given kind, so that what holds of each piece holds of what a whole walk
adds. -/

namespace GraphQLTree

/-- A property of records that holds of what is made up of pieces that have it. -/
structure Piecewise {μ : Type} (P : List μ → Prop) : Prop where
  nil : P []
  append : ∀ {l l'}, P l → P l' → P (l ++ l')

namespace Act

variable {σ μ α α' β β' : Type}

/-- A step that keeps a record does what the step `act` does, and adds to the record a piece that has
the property `P`; their results are related by `R`. -/
def Tallies (P : List μ → Prop) (R : α' → α → Prop) (act' : Act (σ × List μ) α') (act : Act σ α) :
    Prop :=
  ∀ w, ∃ seg, P seg ∧
    match act.runOn w with
    | (.ok a, w') => ∃ a', R a' a ∧
        ∀ marks, act'.runOn (w.traced marks) = (.ok a', w'.traced (marks ++ seg))
    | (.error e, w') => ∀ marks, act'.runOn (w.traced marks) = (.error e, w'.traced (marks ++ seg))

/-- Two steps that do the same, and add nothing to the record. -/
abbrev Agree (R : α' → α → Prop) (act' : Act (σ × List μ) α') (act : Act σ α) : Prop :=
  Tallies (· = []) R act' act

variable {P P₁ P₂ : List μ → Prop} {R : α' → α → Prop} {Q : β' → β → Prop}

theorem agree_unmarked (act : Act σ α) : Agree (μ := μ) Eq act.unmarked act := by
  intro w
  refine ⟨[], rfl, ?_⟩
  rcases hr : act.runOn w with ⟨e | a, w'⟩
  · intro marks
    rw [runOn_unmarked, hr, List.append_nil]
  · refine ⟨a, rfl, fun marks => ?_⟩
    rw [runOn_unmarked, hr, List.append_nil]

theorem agree_pure {a' : α'} {a : α} (h : R a' a) :
    Agree R (pure a' : Act (σ × List μ) α') (pure a) := by
  intro w
  refine ⟨[], rfl, a', h, fun marks => ?_⟩
  rw [List.append_nil, runOn_pure]

theorem agree_throw (e : Halt) : Agree R (throw e : Act (σ × List μ) α') (throw e) := by
  intro w
  refine ⟨[], rfl, fun marks => ?_⟩
  rw [List.append_nil]
  rfl

theorem agree_action (act : Action α) : Agree Eq (liftM act : Act (σ × List μ) α) (liftM act) :=
  agree_unmarked (liftM act)

theorem agree_store : Agree Eq (store : Act (σ × List μ) Store) store :=
  agree_unmarked store

theorem Tallies.mono {x' : Act (σ × List μ) α'} {x : Act σ α} (h : Tallies P₁ R x' x)
    (hP : ∀ {l}, P₁ l → P l) : Tallies P R x' x := by
  intro w
  obtain ⟨seg, hseg, hrun⟩ := h w
  exact ⟨seg, hP hseg, hrun⟩

theorem Tallies.weaken {R' : α' → α → Prop} {x' : Act (σ × List μ) α'} {x : Act σ α}
    (h : Tallies P R x' x) (hR : ∀ a' a, R a' a → R' a' a) : Tallies P R' x' x := by
  intro w
  obtain ⟨seg, hseg, hrun⟩ := h w
  refine ⟨seg, hseg, ?_⟩
  rcases hr : x.runOn w with ⟨e | a, w'⟩
  · rw [hr] at hrun
    exact hrun
  · rw [hr] at hrun
    obtain ⟨a', ha, hrun⟩ := hrun
    exact ⟨a', hR a' a ha, hrun⟩

/-- One step after the other. -/
theorem Tallies.seq {x' : Act (σ × List μ) α'} {x : Act σ α} {f' : α' → Act (σ × List μ) β'}
    {f : α → Act σ β} (hc : ∀ {l l'}, P₁ l → P₂ l' → P (l ++ l')) (he : ∀ {l}, P₁ l → P l)
    (hx : Tallies P₁ R x' x) (hf : ∀ a' a, R a' a → Tallies P₂ Q (f' a') (f a)) :
    Tallies P Q (x' >>= f') (x >>= f) := by
  intro w
  obtain ⟨seg, hseg, hrun⟩ := hx w
  rcases hr : x.runOn w with ⟨e | a, w₁⟩
  · rw [hr] at hrun
    refine ⟨seg, he hseg, ?_⟩
    rw [runOn_bind_error hr]
    exact fun marks => runOn_bind_error (hrun marks) _
  · rw [hr] at hrun
    obtain ⟨a', ha, hrun⟩ := hrun
    obtain ⟨seg₁, hseg₁, hrun₁⟩ := hf a' a ha w₁
    refine ⟨seg ++ seg₁, hc hseg hseg₁, ?_⟩
    have hnext : ∀ marks, (x' >>= f').runOn (w.traced marks) =
        (f' a').runOn (w₁.traced (marks ++ seg)) := fun marks => runOn_bind_ok (hrun marks) _
    rw [runOn_bind_ok hr]
    rcases hr₁ : (f a).runOn w₁ with ⟨e | b, w₂⟩
    · rw [hr₁] at hrun₁
      intro marks
      rw [hnext, hrun₁, List.append_assoc]
    · rw [hr₁] at hrun₁
      obtain ⟨b', hb, hrun₁⟩ := hrun₁
      refine ⟨b', hb, fun marks => ?_⟩
      rw [hnext, hrun₁, List.append_assoc]

theorem Tallies.bind (hP : Piecewise P) {x' : Act (σ × List μ) α'} {x : Act σ α}
    {f' : α' → Act (σ × List μ) β'} {f : α → Act σ β} (hx : Tallies P R x' x)
    (hf : ∀ a' a, R a' a → Tallies P Q (f' a') (f a)) : Tallies P Q (x' >>= f') (x >>= f) :=
  hx.seq hP.append id hf

/-- What is done before adds nothing to the record. -/
theorem Tallies.after {x' : Act (σ × List μ) α'} {x : Act σ α} {f' : α' → Act (σ × List μ) β'}
    {f : α → Act σ β} (hP : P []) (hx : Agree R x' x)
    (hf : ∀ a' a, R a' a → Tallies P Q (f' a') (f a)) : Tallies P Q (x' >>= f') (x >>= f) :=
  hx.seq (fun h h' => by rw [h]; exact h') (fun h => by rw [h]; exact hP) hf

/-- What is done then adds nothing to the record. -/
theorem Tallies.andThen {x' : Act (σ × List μ) α'} {x : Act σ α} {f' : α' → Act (σ × List μ) β'}
    {f : α → Act σ β} (hx : Tallies P R x' x) (hf : ∀ a' a, R a' a → Agree Q (f' a') (f a)) :
    Tallies P Q (x' >>= f') (x >>= f) :=
  hx.seq (fun h h' => by rw [h', List.append_nil]; exact h) id hf

theorem Tallies.mapped {x' : Act (σ × List μ) α'} {x : Act σ α} {R' : β' → α → Prop}
    (hx : Tallies P R x' x) (f : α' → β') (hf : ∀ a' a, R a' a → R' (f a') a) :
    Tallies P R' (x' >>= fun a' => pure (f a')) x := by
  have h := hx.andThen (f := pure) fun a' a ha => agree_pure (hf a' a ha)
  rwa [bind_pure] at h

/-- What is done about errors adds nothing to the record. -/
theorem Tallies.caught {x' : Act (σ × List μ) α'} {x : Act σ α} {f' : Halt → Act (σ × List μ) α'}
    {f : Halt → Act σ α} (hx : Tallies P R x' x) (hf : ∀ e, Agree R (f' e) (f e)) :
    Tallies P R (tryCatch x' f') (tryCatch x f) := by
  intro w
  obtain ⟨seg, hseg, hrun⟩ := hx w
  refine ⟨seg, hseg, ?_⟩
  rcases hr : x.runOn w with ⟨e | a, w₁⟩
  · rw [hr] at hrun
    obtain ⟨_, rfl, hrun₁⟩ := hf e w₁
    have hnext : ∀ marks, (tryCatch x' f').runOn (w.traced marks) =
        (f' e).runOn (w₁.traced (marks ++ seg)) := by
      intro marks
      rw [runOn_tryCatch, hrun]
    rw [runOn_tryCatch, hr]
    dsimp only
    rcases hr₁ : (f e).runOn w₁ with ⟨e' | a, w₂⟩
    · rw [hr₁] at hrun₁
      intro marks
      rw [hnext, hrun₁, List.append_nil]
    · rw [hr₁] at hrun₁
      obtain ⟨a', ha, hrun₁⟩ := hrun₁
      refine ⟨a', ha, fun marks => ?_⟩
      rw [hnext, hrun₁, List.append_nil]
  · rw [hr] at hrun
    obtain ⟨a', ha, hrun⟩ := hrun
    rw [runOn_tryCatch, hr]
    refine ⟨a', ha, fun marks => ?_⟩
    rw [runOn_tryCatch, hrun]

theorem Tallies.onReport {x' : Act (σ × List μ) α} {x : Act σ α}
    {note' : Ref → Act (σ × List μ) Unit} {note : Ref → Act σ Unit} (hx : Tallies P Eq x' x)
    (hn : ∀ e, Agree Eq (note' e) (note e)) :
    Tallies P Eq (Act.onReport x' note') (Act.onReport x note) := by
  unfold Act.onReport
  refine hx.caught fun halt => ?_
  cases halt with
  | tooDeep => exact agree_throw _
  | raised e =>
    refine agree_store.andThen fun s' s hs => ?_
    subst hs
    dsimp only
    split
    · exact (hn e).andThen fun _ _ _ => agree_throw _
    · exact agree_throw _

theorem Tallies.within {x' : Act (σ × List μ) α} {x : Act σ α} (hx : Tallies P Eq x' x)
    (stage : Stage) : Tallies P Eq (Act.within stage x') (Act.within stage x) :=
  hx.onReport fun e => agree_action (Action.recordStage (.ref e) stage.text)

theorem Tallies.judge {x' : Act (σ × List μ) Value} {x : Act σ Value}
    {fatal' : Ref → Act (σ × List μ) Bool} {fatal : Ref → Act σ Bool} (hx : Tallies P Eq x' x)
    (hf : ∀ e, Agree Eq (fatal' e) (fatal e)) :
    Tallies P Eq (Act.judge x' fatal') (Act.judge x fatal) := by
  unfold Act.judge Act.handle
  refine (hx.andThen fun a' a ha => agree_pure (ha ▸ rfl)).caught fun halt => ?_
  cases halt with
  | tooDeep => exact agree_throw _
  | raised e =>
    refine agree_store.andThen fun s' s hs => ?_
    subst hs
    dsimp only
    split
    · refine (agree_action (Action.pruneSignal (.ref e))).andThen fun p' p hp => ?_
      subst hp
      cases p' with
      | none => exact hf e
      | some prune => exact agree_pure rfl
    · exact agree_throw _

theorem tallies_forM (hP : Piecewise P) {l : List β} {x' : β → Act (σ × List μ) Unit}
    {x : β → Act σ Unit} (h : ∀ b ∈ l, Tallies P Eq (x' b) (x b)) :
    Tallies P Eq (l.forM x') (l.forM x) := by
  induction l with
  | nil => exact (agree_pure rfl).mono fun h => h ▸ hP.nil
  | cons b l ih =>
    refine (h b (List.mem_cons_self ..)).bind hP fun _ _ _ => ?_
    exact ih fun b' hb => h b' (List.mem_cons_of_mem b hb)

theorem Tallies.framed (hP : Piecewise P) {enter' : Act (σ × List μ) Bool} {enter : Act σ Bool}
    {inner' leave' : Act (σ × List μ) Unit} {inner leave : Act σ Unit}
    (he : Tallies P Eq enter' enter) (hi : Tallies P Eq inner' inner)
    (hl : Tallies P Eq leave' leave) :
    Tallies P Eq (Act.framed enter' inner' leave') (Act.framed enter inner leave) := by
  unfold Act.framed
  refine he.bind hP fun b' b hb => ?_
  subst hb
  cases b' with
  | true => exact hl
  | false => exact hi.bind hP fun _ _ _ => hl

end Act

/-! ### Walks -/

section

variable {σ μ : Type}

/-- A method that keeps a record does what another one does. -/
def HookTallies (P : List μ → Prop) (hook' : Hook (σ × List μ)) (hook : Hook σ) : Prop :=
  ∀ args, Act.Tallies P Eq (hook' args) (hook args)

/-- A visitor that keeps a record does what another one does. Looking up methods adds nothing to the
record. -/
def Visitor.Tallies (P : List μ → Prop) (visitor' : Visitor (σ × List μ)) (visitor : Visitor σ) :
    Prop :=
  ∀ lookup, Act.Agree (Option.Rel (HookTallies P)) (visitor'.hook? lookup) (visitor.hook? lookup)

theorem agree_abort {α : Type} (kind : Value) (direction : Direction) (node? : Option Value)
    (e : Ref) :
    Act.Agree Eq (abort kind direction node? e : Act (σ × List μ) α)
      (abort kind direction node? e) := by
  rw [← abort_unmarked]
  exact Act.agree_unmarked _

theorem agree_rejectElement (kind : String) (element : Value) :
    Act.Agree Eq (rejectElement kind element : Act (σ × List μ) Unit)
      (rejectElement kind element) :=
  (Act.agree_action _).andThen fun _ _ h => h ▸ Act.agree_action _

variable {P : List μ → Prop} (hP : Piecewise P) {visitor' : Visitor (σ × List μ)}
  {visitor : Visitor σ} (hv : visitor'.Tallies P visitor) (options : WalkOptions) (context : Value)
include hP hv

theorem tallies_enterStep (kind : Value) (node? : Option Value) :
    Act.Tallies P Eq (enterStep options visitor' context kind node?)
      (enterStep options visitor context kind node?) := by
  rw [enterStep_eq, enterStep_eq]
  refine .after hP.nil (hv _) fun hook' hook hh => ?_
  cases hh with
  | none => exact (Act.agree_pure rfl).mono fun h => h ▸ hP.nil
  | some hh =>
    refine ((hh _).judge (agree_abort kind .enter node?)).andThen fun b' b hb => ?_
    rw [← endEnter_unmarked, hb]
    exact Act.agree_unmarked _

theorem tallies_leaveStep (kind : Value) (node? : Option Value) :
    Act.Tallies P Eq (leaveStep visitor' context kind node?)
      (leaveStep visitor context kind node?) := by
  rw [leaveStep_eq, leaveStep_eq]
  refine .after hP.nil (hv _) fun hook' hook hh => ?_
  cases hh with
  | none => exact (Act.agree_pure rfl).mono fun h => h ▸ hP.nil
  | some hh =>
    exact ((hh _).judge (agree_abort kind .leave node?)).andThen fun _ _ _ => Act.agree_pure rfl

section

variable {visit' : Value → Act (σ × List μ) Unit} {visit : Value → Act σ Unit}
  (hn : ∀ v, Act.Tallies P Eq (visit' v) (visit v))
include hn

theorem tallies_walkElement (kind : String) (e : Value) :
    Act.Tallies P Eq (walkElement options visitor' context visit' kind e)
      (walkElement options visitor context visit kind e) := by
  have hreject := (agree_rejectElement (σ := σ) (μ := μ) kind e).mono fun h => h ▸ hP.nil
  rcases hc : variants? kind with - | classes
  · rw [walkElement_plain _ _ _ _ hc, walkElement_plain _ _ _ _ hc]
    refine .after hP.nil (Act.agree_action _) fun b' b hb => ?_
    subst hb
    cases b' with
    | true => exact hn e
    | false => exact hreject
  · rw [walkElement_variant _ _ _ _ hc, walkElement_variant _ _ _ _ hc]
    refine .after hP.nil (Act.agree_action _) fun b' b hb => ?_
    subst hb
    cases b' with
    | false => exact hreject
    | true =>
      refine (tallies_enterStep hP hv options context _ _).framed hP ?_
        (tallies_leaveStep hP hv context _ _)
      refine (hn e).onReport fun r => (Act.agree_action _).andThen fun k' k hk => ?_
      subst hk
      refine (Act.agree_action _).andThen fun words' words hw => ?_
      subst hw
      exact Act.agree_action _

theorem tallies_walkList (kind : String) (nodes : Value) :
    Act.Tallies P Eq (walkList options visitor' context visit' kind nodes)
      (walkList options visitor context visit kind nodes) := by
  rw [walkList_eq, walkList_eq]
  refine .after hP.nil (Act.agree_action _) fun b' b hb => ?_
  subst hb
  cases b' with
  | false => exact (Act.agree_pure rfl).mono fun h => h ▸ hP.nil
  | true =>
    refine (tallies_enterStep hP hv options context _ _).framed hP ?_
      (tallies_leaveStep hP hv context _ _)
    refine .after hP.nil (Act.agree_action _) fun l' l hl => ?_
    subst hl
    refine Act.tallies_forM hP fun e _ => ?_
    exact ((tallies_walkElement hP hv options context hn kind e).within _).andThen
      fun _ _ _ => Act.agree_action _

theorem tallies_walkLists (kind node : Value) :
    Act.Tallies P Eq (walkLists options visitor' context visit' kind node)
      (walkLists options visitor context visit kind node) := by
  refine .after hP.nil (Act.agree_action _) fun l' l hl => ?_
  subst hl
  refine Act.tallies_forM hP fun (key, listKind) _ => ?_
  refine Act.Tallies.within (.after hP.nil (Act.agree_action _) fun nodes' nodes h => ?_) _
  subst h
  exact tallies_walkList hP hv options context hn listKind nodes'

end

theorem tallies_walkNode (depth : Nat) (v : Value) :
    Act.Tallies P Eq (walkNode options visitor' context depth v)
      (walkNode options visitor context depth v) := by
  induction depth generalizing v with
  | zero => exact (Act.agree_throw _).mono fun h => h ▸ hP.nil
  | succ depth ih =>
    rw [walkNode_succ, walkNode_succ]
    refine .after hP.nil (Act.agree_action _) fun k' k hk => ?_
    subst hk
    exact (tallies_enterStep hP hv options context _ _).framed hP
      (tallies_walkLists hP hv options context ih k' v) (tallies_leaveStep hP hv context _ _)

/-- A walk that keeps a record does what the walk without it does. -/
theorem tallies_walk (root : Value) :
    Act.Tallies P Eq (walk options visitor' context root) (walk options visitor context root) := by
  refine .after hP.nil (Act.agree_action _) fun _ _ _ => ?_
  refine (tallies_walkNode hP hv options context _ root).onReport fun e => ?_
  split
  · refine (Act.agree_action _).andThen fun shown' shown h => ?_
    subst h
    refine (Act.agree_action _).andThen fun text' text h => ?_
    subst h
    exact Act.agree_unmarked (Act.log _)
  · exact Act.agree_pure rfl

/-- The same from an empty record on. -/
theorem walk_tallied (root : Value) (w : World σ) :
    ∃ marks, P marks ∧ (walk options visitor' context root).runOn (w.traced []) =
      (((walk options visitor context root).runOn w).1,
        ((walk options visitor context root).runOn w).2.traced marks) := by
  obtain ⟨marks, hmarks, hrun⟩ := tallies_walk hP hv options context root w
  refine ⟨marks, hmarks, ?_⟩
  rcases hr : (walk options visitor context root).runOn w with ⟨halt | _, w'⟩
  · rw [hr] at hrun
    exact hrun []
  · rw [hr] at hrun
    obtain ⟨_, -, hrun⟩ := hrun
    exact hrun []

end

end GraphQLTree
