import GraphQLTree.Proofs.Nesting

/-! # How failures leave a walk

An error that a method raises and that carries no prune signal is made into a failure report. On its
way out of the walk the report passes the frames around the step that failed, the innermost first,
and each of them but the root's notes a stage on it. What becomes of the failure is a matter of the
path of the step only (`walk_unwinds`): it does not depend on what the walk has done before. -/

namespace GraphQLTree

section

variable {σ : Type}

/-! ### Notes on reports -/

/-- How a run fails: what halts it, and the world it leaves behind. -/
abbrev FailedRun (σ : Type) := Halt × World σ

/-- What becomes of a failure where something is noted on failure reports. -/
def FailedRun.noted (note : Ref → Act σ Unit) : FailedRun σ → FailedRun σ
  | (.raised r, w) =>
    if w.store.isReport (.ref r) then
      match (note r).runOn w with
      | (.ok _, w') => (.raised r, w')
      | (.error halt, w') => (halt, w')
    else (.raised r, w)
  | (.tooDeep, w) => (.tooDeep, w)

/-- A stage that is recorded on reports. -/
def Stage.note (stage : Stage) (r : Ref) : Act σ Unit :=
  Action.recordStage (.ref r) stage.text

/-- The kind of a node of a variant that is recorded on reports. -/
def variantNote (element : Value) (r : Ref) : Act σ Unit := do
  let words ← Action.kindWords (← Action.attr element "kind")
  (Stage.variant words).note r

/-- What a frame notes on the reports that leave it; that of the root notes nothing. -/
def Frame.note : Frame → Path → Ref → Act σ Unit
  | .list kind, _ => (Stage.list (plainKind kind)).note
  | .variant kind _, _ => (Stage.element (plainKind kind)).note
  | .node _ _, .list kind :: _ => (Stage.element (plainKind kind)).note
  | .node _ _, .variant _ element :: _ => variantNote element
  | .node _ _, _ => fun _ => return ()

/-- What becomes of a failure that leaves all frames of a path. -/
def unwind : Path → FailedRun σ → FailedRun σ
  | [], o => o
  | f :: above, o => unwind above (FailedRun.noted (f.note above) o)

theorem Act.onReport_noted {α : Type} {x : Act σ α} {w w₁ : World σ} {halt : Halt}
    (h : x.runOn w = (.error halt, w₁)) (note : Ref → Act σ Unit) :
    (Act.onReport x note).runOn w =
      (.error (FailedRun.noted note (halt, w₁)).1, (FailedRun.noted note (halt, w₁)).2) := by
  unfold Act.onReport
  rw [Act.runOn_tryCatch, h]
  cases halt with
  | tooDeep => rfl
  | raised e =>
    unfold FailedRun.noted
    dsimp only
    rw [Act.runOn_bind_ok (Act.runOn_store w₁)]
    split
    · rw [Act.runOn_bind]
      rcases (note e).runOn w₁ with ⟨halt | _, w₂⟩
      · rfl
      · rfl
    · rfl

/-- What a failure of a node becomes depends on what the node is inside of. -/
theorem unwind_node (kind kind' v v' : Value) (above : Path) (o : FailedRun σ) :
    unwind (.node kind v :: above) o = unwind (.node kind' v' :: above) o := by
  rcases above with - | ⟨_ | _ | _, above⟩
  · rfl
  · rfl
  · rfl
  · rfl

/-! ### Fatal errors -/

/-- The method for a step raises an error that is no interruption, and that has no prune signal when
it is asked for one; the world is `w` then. -/
def Fatal (marks : List (Mark σ)) (direction : Direction) (f : Frame) (above : Path) (e : Ref)
    (w : World σ) : Prop :=
  ∃ call w₁, call.direction = direction ∧
    .ended call (f :: above) (.error (.raised e)) w₁ ∈ marks ∧
    Effect.isErrorOf .general w₁.store e = true ∧
    (liftM (Action.pruneSignal (.ref e)) : Act σ _).runOn w₁ = (.ok none, w)

/-- A step fails as the report of a fatal error does that leaves the frames around it; `up` tells
what becomes of a failure of the step itself. -/
def Unwinds (up : FailedRun σ → FailedRun σ) {α : Type} (act' : Act (Traced σ) α) (act : Act σ α) :
    Prop :=
  ∀ w, ∃ seg, Act.Records act' act w seg ∧
    ∀ {direction f above e w₂}, Fatal seg direction f above e w₂ →
      ∃ halt w' halt₀ w₀, act.runOn w = (.error halt, w') ∧
        (abort f.kind direction f.node? e : Act σ Bool).runOn w₂ = (.error halt₀, w₀) ∧
        up (halt, w') = unwind (f :: above) (halt₀, w₀)

variable {α β : Type} {up : FailedRun σ → FailedRun σ}

theorem Fatal.of_append {seg seg' : List (Mark σ)} {direction : Direction} {f : Frame}
    {above : Path} {e : Ref} {w : World σ} (h : Fatal (seg ++ seg') direction f above e w) :
    Fatal seg direction f above e w ∨ Fatal seg' direction f above e w := by
  obtain ⟨call, w₁, hd, hm, hp⟩ := h
  rcases List.mem_append.mp hm with hm | hm
  · exact .inl ⟨call, w₁, hd, hm, hp⟩
  · exact .inr ⟨call, w₁, hd, hm, hp⟩

theorem not_fatal {seg : List (Mark σ)} (h : ∀ call p outcome w, .ended call p outcome w ∉ seg)
    {direction : Direction} {f : Frame} {above : Path} {e : Ref} {w : World σ} :
    ¬ Fatal seg direction f above e w := by
  rintro ⟨call, w₁, -, hm, -⟩
  exact h _ _ _ _ hm

/-! ### Steps -/

theorem unwinds_pure (a : α) : Unwinds (σ := σ) up (pure a) (pure a) := by
  intro w
  refine ⟨[], Act.records_pure a w, fun h => absurd h (not_fatal fun _ _ _ _ => ?_)⟩
  exact List.not_mem_nil

theorem unwinds_placed (place : Place) (act : Act σ α) :
    Unwinds up (Act.placed place act.unmarked) act := by
  intro w
  rcases hr : act.runOn w with ⟨e | a, w₁⟩
  · refine ⟨_, Act.records_placed_error place (Act.records_unmarked act w) hr, fun h => ?_⟩
    refine absurd h (not_fatal fun _ _ _ _ hm => ?_)
    nomatch List.mem_singleton.mp hm
  · refine ⟨_, Act.records_placed_ok place (Act.records_unmarked act w) hr, fun h => ?_⟩
    exact absurd h (not_fatal fun _ _ _ _ => List.not_mem_nil)

theorem unwinds_action (place : Place) (act : Action α) :
    Unwinds (σ := σ) up (Act.placed place (liftM act)) (liftM act) :=
  unwinds_placed place (liftM act)

theorem Unwinds.bind {x' : Act (Traced σ) α} {x : Act σ α} {g : α → Act (Traced σ) β}
    {f : α → Act σ β} (hx : Unwinds up x' x) (hf : ∀ a, Unwinds up (g a) (f a)) :
    Unwinds up (x' >>= g) (x >>= f) := by
  intro w
  obtain ⟨seg, hseg, hu⟩ := hx w
  rcases hr : x.runOn w with ⟨e | a, w₁⟩
  · refine ⟨seg, hseg.bind_error hr, fun h => ?_⟩
    obtain ⟨halt, w', halt₀, w₀, he, ha, hup⟩ := hu h
    exact ⟨halt, w', halt₀, w₀, Act.runOn_bind_error he f, ha, hup⟩
  · obtain ⟨seg₁, hseg₁, hu₁⟩ := hf a w₁
    refine ⟨seg ++ seg₁, hseg.bind_ok hr hseg₁, fun h => ?_⟩
    rcases h.of_append with h | h
    · obtain ⟨_, _, _, _, he, -⟩ := hu h
      nomatch hr.symm.trans he
    · rw [Act.runOn_bind_ok hr]
      exact hu₁ h

theorem Unwinds.onReport {x' : Act (Traced σ) α} {x : Act σ α} (note : Ref → Act σ Unit)
    (hx : Unwinds (fun o => up (FailedRun.noted note o)) x' x) :
    Unwinds up (Act.onReport x' fun e => (note e).unmarked) (Act.onReport x note) := by
  intro w
  obtain ⟨seg, hseg, hu⟩ := hx w
  refine ⟨seg, hseg.onReport note, fun h => ?_⟩
  obtain ⟨halt, w', halt₀, w₀, he, ha, hup⟩ := hu h
  exact ⟨_, _, halt₀, w₀, Act.onReport_noted he note, ha, hup⟩

theorem Unwinds.within {x' : Act (Traced σ) α} {x : Act σ α} (stage : Stage)
    (hx : Unwinds (fun o => up (FailedRun.noted stage.note o)) x' x) :
    Unwinds up (Act.within stage x') (Act.within stage x) :=
  hx.onReport stage.note

theorem unwinds_forM {g : α → Act (Traced σ) Unit} {f : α → Act σ Unit} (l : List α)
    (h : ∀ a, Unwinds up (g a) (f a)) : Unwinds up (l.forM g) (l.forM f) := by
  induction l with
  | nil => exact unwinds_pure ()
  | cons a l ih => exact (h a).bind fun _ => ih

/-! ### Frames -/

variable (options : WalkOptions) (visitor : Visitor σ) (context : Value)

/-- A method whose error is fatal fails as its report does. -/
theorem judge_fatal {run : Act σ Value} {fatal : Ref → Act σ Bool} {w w₁ w₂ : World σ} {e : Ref}
    (hr : run.runOn w = (.error (.raised e), w₁))
    (hg : Effect.isErrorOf .general w₁.store e = true)
    (hp : (liftM (Action.pruneSignal (.ref e)) : Act σ _).runOn w₁ = (.ok none, w₂)) :
    (Act.judge run fatal).runOn w = (fatal e).runOn w₂ := by
  unfold Act.judge Act.handle
  rw [Act.runOn_tryCatch, Act.runOn_bind_error hr]
  dsimp only
  rw [Act.runOn_bind_ok (Act.runOn_store w₁), if_pos hg, Act.runOn_bind_ok hp]

variable {visitor context} in
theorem Fatal.of_hookMarks {direction d : Direction} {f f' : Frame} {above above' : Path} {e : Ref}
    {w w₂ : World σ} (h : Fatal (hookMarks visitor context direction f above w) d f' above' e w₂) :
    d = direction ∧ f' = f ∧ above' = above ∧ ∃ hook w₁,
      (visitor.hook? ⟨f.kind, direction, false⟩).runOn w = (.ok (some hook), w₁) ∧
      ∀ fatal, (Act.judge (hook (hookArgs context f.node?)) fatal).runOn w₁ =
        (fatal e).runOn w₂ := by
  obtain ⟨call, w', rfl, hm, hg, hp⟩ := h
  unfold hookMarks at hm
  rcases hl : (visitor.hook? ⟨f.kind, direction, false⟩).runOn w with ⟨halt | _ | hook, w₁⟩
  · rw [hl] at hm
    nomatch hm
  · rw [hl] at hm
    nomatch hm
  · rw [hl] at hm
    dsimp only at hm
    unfold runMarks at hm
    rcases List.mem_cons.mp hm with hm | hm
    · nomatch hm
    · obtain ⟨rfl, hpath, herror, rfl⟩ := Mark.ended.inj (List.mem_singleton.mp hm)
      obtain ⟨rfl, rfl⟩ := List.cons.inj hpath
      exact ⟨rfl, rfl, rfl, hook, w₁, rfl, fun fatal => judge_fatal (Prod.ext herror.symm rfl) hg hp⟩

/-- Entering a frame. -/
theorem enterStep_fatal {d : Direction} {f f' : Frame} {above above' : Path} {e : Ref}
    {w w₂ : World σ} (h : Fatal (hookMarks visitor context .enter f above w) d f' above' e w₂) :
    ∃ halt w', (enterStep options visitor context f.kind f.node?).runOn w = (.error halt, w') ∧
      (abort f'.kind d f'.node? e : Act σ Bool).runOn w₂ = (.error halt, w') ∧
      f' :: above' = f :: above := by
  obtain ⟨rfl, rfl, rfl, hook, w₁, hl, hj⟩ := h.of_hookMarks
  obtain ⟨halt, w', ha⟩ := fails_abort (α := Bool) f'.kind .enter f'.node? e w₂
  refine ⟨halt, w', ?_, ha, rfl⟩
  rw [enterStep_eq, Act.runOn_bind_ok hl]
  exact Act.runOn_bind_error ((hj _).trans ha) _

/-- Leaving a frame. -/
theorem leaveStep_fatal {d : Direction} {f f' : Frame} {above above' : Path} {e : Ref}
    {w w₂ : World σ} (h : Fatal (hookMarks visitor context .leave f above w) d f' above' e w₂) :
    ∃ halt w', (leaveStep visitor context f.kind f.node?).runOn w = (.error halt, w') ∧
      (abort f'.kind d f'.node? e : Act σ Bool).runOn w₂ = (.error halt, w') ∧
      f' :: above' = f :: above := by
  obtain ⟨rfl, rfl, rfl, hook, w₁, hl, hj⟩ := h.of_hookMarks
  obtain ⟨halt, w', ha⟩ := fails_abort (α := Bool) f'.kind .leave f'.node? e w₂
  refine ⟨halt, w', ?_, ha, rfl⟩
  rw [leaveStep_eq, Act.runOn_bind_ok hl]
  exact Act.runOn_bind_error ((hj _).trans ha) _

/-- Only the entries about methods tell of fatal errors. -/
theorem Fatal.of_step {m : Mark σ} {seg seg' : List (Mark σ)} {d : Direction} {f : Frame}
    {above : Path} {e : Ref} {w : World σ} (h : Fatal (m :: seg ++ seg') d f above e w)
    (hm : ∀ call p outcome w, .ended call p outcome w ≠ m)
    (hseg : ∀ call p outcome w, .ended call p outcome w ∉ seg') : Fatal seg d f above e w := by
  rcases h.of_append with ⟨call, w₁, hd, hmem, hp⟩ | h
  · refine ⟨call, w₁, hd, ?_, hp⟩
    rcases List.mem_cons.mp hmem with hmem | hmem
    · exact absurd hmem (hm _ _ _ _)
    · exact hmem
  · exact absurd h (not_fatal hseg)

theorem unwinds_enter (f : Frame) (above : Path) :
    Unwinds (unwind (f :: above)) (tracedEnter options visitor context f above)
      (enterStep options visitor context f.kind f.node?) := by
  intro w
  have hfatal : ∀ {d f' above' e w₂},
      Fatal (hookMarks visitor context .enter f above w) d f' above' e w₂ →
      ∃ halt w' halt₀ w₀,
        (enterStep options visitor context f.kind f.node?).runOn w = (.error halt, w') ∧
        (abort f'.kind d f'.node? e : Act σ Bool).runOn w₂ = (.error halt₀, w₀) ∧
        unwind (f :: above) (halt, w') = unwind (f' :: above') (halt₀, w₀) := by
    intro d f' above' e w₂ h
    obtain ⟨halt, w', he, ha, hp⟩ := enterStep_fatal options visitor context h
    exact ⟨halt, w', halt, w', he, ha, by rw [hp]⟩
  rcases hr : (enterStep options visitor context f.kind f.node?).runOn w with ⟨e | pruned, w₁⟩
  · refine ⟨_, records_tracedEnter_error above hr, fun h => ?_⟩
    rw [← hr]
    refine hfatal (h.of_step (fun _ _ _ _ hm => nomatch hm) fun _ _ _ _ hm => ?_)
    nomatch List.mem_singleton.mp hm
  · refine ⟨_, records_tracedEnter_ok above hr, fun h => ?_⟩
    rw [← hr]
    refine hfatal (h.of_step (fun _ _ _ _ hm => nomatch hm) fun _ _ _ _ hm => ?_)
    cases pruned with
    | true => nomatch List.mem_singleton.mp hm
    | false => nomatch hm

theorem unwinds_leave (f : Frame) (above : Path) :
    Unwinds (unwind (f :: above)) (tracedLeave visitor context f above)
      (leaveStep visitor context f.kind f.node?) := by
  intro w
  have hfatal : ∀ {d f' above' e w₂},
      Fatal (hookMarks visitor context .leave f above w) d f' above' e w₂ →
      ∃ halt w' halt₀ w₀,
        (leaveStep visitor context f.kind f.node?).runOn w = (.error halt, w') ∧
        (abort f'.kind d f'.node? e : Act σ Bool).runOn w₂ = (.error halt₀, w₀) ∧
        unwind (f :: above) (halt, w') = unwind (f' :: above') (halt₀, w₀) := by
    intro d f' above' e w₂ h
    obtain ⟨halt, w', he, ha, hp⟩ := leaveStep_fatal visitor context h
    exact ⟨halt, w', halt, w', he, ha, by rw [hp]⟩
  rcases hr : (leaveStep visitor context f.kind f.node?).runOn w with ⟨e | _, w₁⟩
  · refine ⟨_, records_tracedLeave_error above hr, fun h => ?_⟩
    rw [← hr]
    refine hfatal (h.of_step (fun _ _ _ _ hm => nomatch hm) fun _ _ _ _ hm => ?_)
    nomatch List.mem_singleton.mp hm
  · refine ⟨_, records_tracedLeave_ok above hr, fun h => ?_⟩
    rw [← hr]
    rw [← List.append_nil (hookMarks ..), ← List.cons_append] at h
    exact hfatal (h.of_step (fun _ _ _ _ hm => nomatch hm) fun _ _ _ _ => List.not_mem_nil)

/-- A frame fails as its steps and what is inside do. -/
theorem unwinds_frame (f : Frame) (above : Path) {inner' : Act (Traced σ) Unit} {inner : Act σ Unit}
    (hi : Unwinds (unwind (f :: above)) inner' inner) :
    Unwinds (unwind (f :: above)) (tracedFrame options visitor context f above inner')
      (Act.framed (enterStep options visitor context f.kind f.node?) inner
        (leaveStep visitor context f.kind f.node?)) := by
  refine (unwinds_enter options visitor context f above).bind fun pruned => ?_
  cases pruned with
  | true => exact unwinds_leave visitor context f above
  | false => exact hi.bind fun _ => unwinds_leave visitor context f above

/-! ### Walks -/

section

variable {visit' : Path → Value → Act (Traced σ) Unit} {visit : Value → Act σ Unit}
  (hv : ∀ above node kind, Unwinds (unwind (.node kind node :: above)) (visit' above node)
    (visit node))
include hv

theorem unwinds_element (kind : String) (above : Path) (element : Value) :
    Unwinds (unwind (.list kind :: above))
      (Act.within (.element (plainKind kind))
        (tracedElement options visitor context visit' kind (.list kind :: above) element))
      (Act.within (.element (plainKind kind))
        (walkElement options visitor context visit kind element)) := by
  refine Unwinds.within _ ?_
  unfold tracedElement
  rcases hk : variants? kind with - | classes
  · rw [walkElement_plain options visitor context visit hk]
    refine Unwinds.bind (unwinds_action _ _) fun isNode => ?_
    cases isNode with
    | true => exact hv (.list kind :: above) element .null
    | false => exact unwinds_placed _ _
  · rw [walkElement_variant options visitor context visit hk]
    refine Unwinds.bind (unwinds_action _ _) fun isVariant => ?_
    cases isVariant with
    | true =>
      refine unwinds_frame options visitor context (.variant kind element) _ ?_
      exact Unwinds.onReport (variantNote element)
        (hv (.variant kind element :: .list kind :: above) element .null)
    | false => exact unwinds_placed _ _

theorem unwinds_list (kind : String) (above : Path) (nodes : Value) :
    Unwinds (unwind (.list kind :: above))
      (tracedList options visitor context visit' kind above nodes)
      (walkList options visitor context visit kind nodes) := by
  rw [walkList_eq]
  refine Unwinds.bind (unwinds_action _ _) fun isTrue => ?_
  cases isTrue with
  | false => exact unwinds_pure ()
  | true =>
    refine unwinds_frame options visitor context (.list kind) above ?_
    refine Unwinds.bind (unwinds_action _ _) fun elements => unwinds_forM elements fun element => ?_
    exact (unwinds_element options visitor context hv kind above element).bind
      fun _ => unwinds_action _ _

theorem unwinds_lists (kind node : Value) (above : Path) :
    Unwinds (unwind above) (tracedLists options visitor context visit' kind node above)
      (walkLists options visitor context visit kind node) := by
  refine Unwinds.bind (unwinds_action _ _) fun walked => unwinds_forM walked fun (key, listKind) => ?_
  refine Unwinds.within _ (Unwinds.bind (unwinds_action _ _) fun nodes => ?_)
  exact unwinds_list options visitor context hv listKind above nodes

end

theorem unwinds_walkNode (depth : Nat) (above : Path) (node kind : Value) :
    Unwinds (unwind (.node kind node :: above)) (tracedNode options visitor context depth above node)
      (walkNode options visitor context depth node) := by
  induction depth generalizing above node kind with
  | zero => exact unwinds_placed _ (throw .tooDeep)
  | succ depth ih =>
    rw [walkNode_succ]
    refine Unwinds.bind (unwinds_action _ _) fun kind' => ?_
    have hnode : unwind (σ := σ) (.node kind node :: above) = unwind (.node kind' node :: above) :=
      funext (unwind_node kind kind' node node above)
    rw [hnode]
    refine unwinds_frame options visitor context (.node kind' node) above ?_
    exact unwinds_lists options visitor context ih kind' node _

/-- What is logged about an aborted walk, if that is asked for. -/
def noteAborted (root : Value) (r : Ref) : Act σ Unit := do
  if options.debug then
    let shown ← Action.describedText root
    let text ← Action.text (.ref r)
    Act.log ("Walk over " ++ shown ++ " aborted: " ++ text)

theorem FailedRun.noted_nothing (o : FailedRun σ) : FailedRun.noted (fun _ => pure ()) o = o := by
  rcases o with ⟨r | _, w⟩
  · unfold FailedRun.noted
    dsimp only
    split
    · rfl
    · rfl
  · rfl

/-- The record of a walk is that of the walk of its root, but for a root that is refused. -/
theorem records_walk (root : Value) (w : World σ) :
    ∃ marks, Act.Records (tracedWalk options visitor context root)
        (walk options visitor context root) w marks ∧
      ∀ {d f above e w₂}, Fatal marks d f above e w₂ →
        ∃ halt₀ w₀, (abort f.kind d f.node? e : Act σ Bool).runOn w₂ = (.error halt₀, w₀) ∧
          (walk options visitor context root).runOn w =
            (.error (FailedRun.noted (noteAborted options root) (unwind (f :: above) (halt₀, w₀))).1,
              (FailedRun.noted (noteAborted options root) (unwind (f :: above) (halt₀, w₀))).2) := by
  rcases hr : (liftM (Action.checkRoot root) : Act σ Unit).runOn w with ⟨e | _, w₁⟩
  · have hroot := Act.records_placed_error (.inside []) (Act.records_unmarked _ w) hr
    refine ⟨_, hroot.bind_error hr, fun h => absurd h (not_fatal fun _ _ _ _ hm => ?_)⟩
    nomatch List.mem_singleton.mp hm
  · have hroot := Act.records_placed_ok (.inside []) (Act.records_unmarked _ w) hr
    obtain ⟨seg, hseg, hu⟩ :=
      unwinds_walkNode options visitor context options.depthLimit [] root .null w₁
    refine ⟨_, hroot.bind_ok hr (hseg.onReport (noteAborted options root)), fun h => ?_⟩
    obtain ⟨halt, w', halt₀, w₀, he, ha, hup⟩ := hu h
    refine ⟨halt₀, w₀, ha, ?_⟩
    have hend : (halt, w') = unwind (_ :: _) (halt₀, w₀) :=
      (FailedRun.noted_nothing (halt, w')).symm.trans hup
    rw [← hend]
    exact (Act.runOn_bind_ok hr _).trans (Act.onReport_noted he (noteAborted options root))

/-- **How failures leave a walk.** If in a walk the method for a step raises a fatal error, then the
walk ends as the report of this error does that leaves the frames around the step. -/
theorem walk_unwinds {root : Value} {w w' : World σ} {outcome : Except Halt Unit}
    {marks : List (Mark σ)} {d : Direction} {f : Frame} {above : Path} {e : Ref} {w₂ : World σ}
    (hm : (tracedWalk options visitor context root).runOn (w.traced []) =
      (outcome, w'.traced marks)) (h : Fatal marks d f above e w₂) :
    ∃ halt₀ w₀, (abort f.kind d f.node? e : Act σ Bool).runOn w₂ = (.error halt₀, w₀) ∧
      (walk options visitor context root).runOn w =
        (.error (FailedRun.noted (noteAborted options root) (unwind (f :: above) (halt₀, w₀))).1,
          (FailedRun.noted (noteAborted options root) (unwind (f :: above) (halt₀, w₀))).2) := by
  obtain ⟨seg, hseg, hu⟩ := records_walk options visitor context root w
  have hsame : w'.traced marks = ((walk options visitor context root).runOn w).2.traced seg :=
    congrArg Prod.snd (hm.symm.trans (hseg []))
  obtain rfl : marks = seg := congrArg (fun w => w.state.2) hsame
  exact hu h

end
end GraphQLTree
