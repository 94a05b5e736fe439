import GraphQLTree.Proofs.Unwinding

/-! # Rejected elements

An element that does not belong into its list makes the walk fail as well, with no method involved.
A walk can keep a record of the elements that it rejects, with the frames around their lists. The
failure report about such an element leaves the walk as that of a method does: what becomes of it is
a matter of the path only (`walk_rejects`). -/

namespace GraphQLTree

/-! ### What stands inside of what -/

/-- Whether a frame can stand right inside of a path: the nodes are the root, the elements of lists
without variants and those that the variants are; lists stand in nodes. -/
def Frame.FitsInto : Frame → Path → Prop
  | .node _ _, above =>
    match above with
    | [] => True
    | .list kind :: _ => variants? kind = none
    | .variant _ _ :: _ => True
    | .node _ _ :: _ => False
  | .list _, above =>
    match above with
    | .node _ _ :: _ => True
    | _ => False
  | .variant kind _, above =>
    match above with
    | .list kind' :: _ => kind' = kind ∧ variants? kind ≠ none
    | _ => False

/-- Every frame of a path can stand where it does. -/
def Stacked : Path → Prop
  | [] => True
  | f :: above => f.FitsInto above ∧ Stacked above

/-- The paths that a walk can take are in order. -/
theorem Leads.stacked {table : WalkTable} {root : Value} {path : Path}
    (h : Leads table root path) : Stacked path := by
  induction path with
  | nil => trivial
  | cons f above ih =>
    refine ⟨?_, ih h.2⟩
    cases h.1 with
    | root | list | own => trivial
    | element plain => exact plain
    | variant varied => exact ⟨rfl, varied⟩

section

variable {σ : Type}

/-! ### A record of rejected elements -/

/-- An element that is rejected, and the world where it is. -/
structure Rejection (σ : Type) where
  kind : String
  element : Value
  /-- The frames around the list. -/
  above : Path
  world : World σ

/-- A state with a record of rejected elements. -/
abbrev Rejecting (σ : Type) := σ × List (Rejection σ)

/-- The frames that a report about the element leaves, where the element counts as one. -/
def Rejection.path (m : Rejection σ) : Path :=
  .variant m.kind m.element :: .list m.kind :: m.above

/-- Records that an element is rejected, and rejects it. -/
def rejecting (kind : String) (element : Value) (above : Path) : Act (Rejecting σ) Unit := do
  Act.mark ⟨kind, element, above, (← getThe (World (Rejecting σ))).forget⟩
  (rejectElement kind element : Act σ Unit).unmarked

section

variable (options : WalkOptions) (visitor : Visitor σ) (context : Value)

/-- Something entered and left, which is no matter of the record. -/
def framedRejecting (kind : Value) (node? : Option Value) (inner : Act (Rejecting σ) Unit) :
    Act (Rejecting σ) Unit :=
  Act.framed (enterStep options visitor context kind node?).unmarked inner
    (leaveStep visitor context kind node?).unmarked

/-- Walks an element of a list, where `visit` walks a node. -/
def rejectingElement (visit : Path → Value → Act (Rejecting σ) Unit) (kind : String) (above : Path)
    (element : Value) : Act (Rejecting σ) Unit := do
  match variants? kind with
  | some classes =>
    if ← Action.isOfAny (classes.map TypeValue.node) element then
      framedRejecting options visitor context (.text kind) (some element)
        (Act.onReport (visit (.variant kind element :: .list kind :: above) element) fun e =>
          (variantNote element e).unmarked)
    else rejecting kind element above
  | none =>
    if ← Action.isOf (.node .node) element then visit (.list kind :: above) element
    else rejecting kind element above

/-- Walks a list of nodes of a kind, where `visit` walks a node. -/
def rejectingList (visit : Path → Value → Act (Rejecting σ) Unit) (kind : String) (above : Path)
    (nodes : Value) : Act (Rejecting σ) Unit := do
  if ← Action.isTrue nodes then
    framedRejecting options visitor context (.text (kind ++ "_list")) none do
      let elements ← Action.items nodes
      elements.forM fun element => do
        Act.within (.element (plainKind kind))
          (rejectingElement options visitor context visit kind above element)
        Action.checkSize nodes elements.length

/-- Walks the lists of a node, where `visit` walks a node. -/
def rejectingLists (visit : Path → Value → Act (Rejecting σ) Unit) (kind node : Value)
    (above : Path) : Act (Rejecting σ) Unit := do
  let walked ← Action.walkedAttrs options.table kind
  walked.forM fun (key, listKind) =>
    Act.within (.list (plainKind listKind)) do
      let nodes ← Action.attr node key
      rejectingList options visitor context visit listKind above nodes

/-- Walks a node, with `depth` levels of nesting to go. -/
def rejectingNode (depth : Nat) (above : Path) (node : Value) : Act (Rejecting σ) Unit := do
  match depth with
  | 0 => throw .tooDeep
  | depth + 1 =>
    let kind ← Action.attr node "kind"
    framedRejecting options visitor context kind (some node)
      (rejectingLists options visitor context (rejectingNode depth) kind node
        (.node kind node :: above))

/-- Walks through a document or a schema. -/
def rejectingWalk (root : Value) : Act (Rejecting σ) Unit := do
  Action.checkRoot root
  Act.onReport (rejectingNode options visitor context options.depthLimit [] root) fun e =>
    (noteAborted options root e).unmarked

end

/-! ### How rejections leave a walk -/

/-- A step fails as the report about any element does that it rejects, once that leaves the frames
around the element; `up` tells what becomes of a failure of the step itself. -/
def Rejects (up : FailedRun σ → FailedRun σ) {α : Type} (act' : Act (Rejecting σ) α)
    (act : Act σ α) : Prop :=
  ∀ w, ∃ seg, Act.Records act' act w seg ∧ ∀ m ∈ seg, Stacked (.list m.kind :: m.above) ∧
    ∃ o o₀, act.runOn w = (.error o.1, o.2) ∧
      (rejectElement m.kind m.element : Act σ Unit).runOn m.world = (.error o₀.1, o₀.2) ∧
      up o = unwind m.path o₀

variable {α β : Type} {up : FailedRun σ → FailedRun σ}

theorem rejects_unmarked (act : Act σ α) : Rejects up act.unmarked act :=
  fun w => ⟨[], Act.records_unmarked act w, fun _ hm => absurd hm List.not_mem_nil⟩

theorem rejects_action (act : Action α) : Rejects (σ := σ) up (liftM act) (liftM act) :=
  rejects_unmarked (liftM act)

theorem rejects_pure (a : α) : Rejects (σ := σ) up (pure a) (pure a) :=
  rejects_unmarked (pure a)

theorem Rejects.bind {x' : Act (Rejecting σ) α} {x : Act σ α} {g : α → Act (Rejecting σ) β}
    {f : α → Act σ β} (hx : Rejects up x' x) (hf : ∀ a, Rejects up (g a) (f a)) :
    Rejects up (x' >>= g) (x >>= f) := by
  intro w
  obtain ⟨seg, hseg, hu⟩ := hx w
  rcases hr : x.runOn w with ⟨e | a, w₁⟩
  · refine ⟨seg, hseg.bind_error hr, fun m hm => ?_⟩
    obtain ⟨hin, o, o₀, he, hup⟩ := hu m hm
    exact ⟨hin, o, o₀, Act.runOn_bind_error he f, hup⟩
  · obtain ⟨seg₁, hseg₁, hu₁⟩ := hf a w₁
    refine ⟨seg ++ seg₁, hseg.bind_ok hr hseg₁, fun m hm => ?_⟩
    rcases List.mem_append.mp hm with hm | hm
    · obtain ⟨_, _, _, he, -⟩ := hu m hm
      nomatch hr.symm.trans he
    · rw [Act.runOn_bind_ok hr]
      exact hu₁ m hm

theorem Rejects.onReport {x' : Act (Rejecting σ) α} {x : Act σ α} (note : Ref → Act σ Unit)
    (hx : Rejects (fun o => up (FailedRun.noted note o)) x' x) :
    Rejects up (Act.onReport x' fun e => (note e).unmarked) (Act.onReport x note) := by
  intro w
  obtain ⟨seg, hseg, hu⟩ := hx w
  refine ⟨seg, hseg.onReport note, fun m hm => ?_⟩
  obtain ⟨hin, o, o₀, he, hr, hup⟩ := hu m hm
  exact ⟨hin, _, o₀, Act.onReport_noted he note, hr, hup⟩

theorem Rejects.within {x' : Act (Rejecting σ) α} {x : Act σ α} (stage : Stage)
    (hx : Rejects (fun o => up (FailedRun.noted stage.note o)) x' x) :
    Rejects up (Act.within stage x') (Act.within stage x) :=
  hx.onReport stage.note

theorem rejects_forM {g : α → Act (Rejecting σ) Unit} {f : α → Act σ Unit} (l : List α)
    (h : ∀ a, Rejects up (g a) (f a)) : Rejects up (l.forM g) (l.forM f) := by
  induction l with
  | nil => exact rejects_pure ()
  | cons a l ih => exact (h a).bind fun _ => ih

/-- The report about an element passes the stage of the element first. -/
theorem rejects_rejecting (kind : String) (element : Value) {above : Path}
    (h : Stacked (.list kind :: above)) :
    Rejects (fun o => unwind (.list kind :: above)
        (FailedRun.noted (Stage.element (plainKind kind)).note o))
      (rejecting kind element above) (rejectElement kind element : Act σ Unit) := by
  intro w
  obtain ⟨halt, w₁, hr⟩ := fails_rejectElement (σ := σ) (α := Unit) kind element w
  refine ⟨[⟨kind, element, above, w⟩], ?_, fun m hm => ?_⟩
  · intro marks
    unfold rejecting
    rw [Act.runOn_bind_ok (Act.runOn_getThe _)]
    exact (Act.records_unmarked (rejectElement kind element : Act σ Unit) w).marked _ marks
  · obtain rfl := List.mem_singleton.mp hm
    exact ⟨h, (halt, w₁), (halt, w₁), hr, hr, rfl⟩

variable (options : WalkOptions) (visitor : Visitor σ) (context : Value)

theorem rejects_framed (kind : Value) (node? : Option Value) {inner' : Act (Rejecting σ) Unit}
    {inner : Act σ Unit} (hi : Rejects up inner' inner) :
    Rejects up (framedRejecting options visitor context kind node? inner')
      (Act.framed (enterStep options visitor context kind node?) inner
        (leaveStep visitor context kind node?)) := by
  refine (rejects_unmarked _).bind fun pruned => ?_
  cases pruned with
  | true => exact rejects_unmarked (leaveStep visitor context kind node?)
  | false => exact hi.bind fun _ => rejects_unmarked (leaveStep visitor context kind node?)

section

variable {visit' : Path → Value → Act (Rejecting σ) Unit} {visit : Value → Act σ Unit}
  (hv : ∀ above node kind, Stacked (.node kind node :: above) →
    Rejects (unwind (.node kind node :: above)) (visit' above node) (visit node))
include hv

theorem rejects_element (kind : String) {above : Path} (h : Stacked (.list kind :: above))
    (element : Value) :
    Rejects (unwind (.list kind :: above))
      (Act.within (.element (plainKind kind))
        (rejectingElement options visitor context visit' kind above element))
      (Act.within (.element (plainKind kind))
        (walkElement options visitor context visit kind element)) := by
  refine Rejects.within _ ?_
  unfold rejectingElement
  rcases hk : variants? kind with - | classes
  · rw [walkElement_plain options visitor context visit hk]
    refine Rejects.bind (rejects_action _) fun isNode => ?_
    cases isNode with
    | true => exact hv (.list kind :: above) element .null ⟨hk, h⟩
    | false => exact rejects_rejecting kind element h
  · rw [walkElement_variant options visitor context visit hk]
    refine Rejects.bind (rejects_action _) fun isVariant => ?_
    cases isVariant with
    | true =>
      have hvaried : Stacked (.variant kind element :: .list kind :: above) :=
        ⟨⟨rfl, by simp [hk]⟩, h⟩
      refine rejects_framed options visitor context (.text kind) (some element) ?_
      exact Rejects.onReport (variantNote element)
        (hv (.variant kind element :: .list kind :: above) element .null ⟨trivial, hvaried⟩)
    | false => exact rejects_rejecting kind element h

theorem rejects_list (kind : String) {above : Path} (h : Stacked (.list kind :: above))
    (nodes : Value) :
    Rejects (unwind (.list kind :: above))
      (rejectingList options visitor context visit' kind above nodes)
      (walkList options visitor context visit kind nodes) := by
  rw [walkList_eq]
  refine Rejects.bind (rejects_action _) fun isTrue => ?_
  cases isTrue with
  | false => exact rejects_pure ()
  | true =>
    refine rejects_framed options visitor context _ none ?_
    refine Rejects.bind (rejects_action _) fun elements => rejects_forM elements fun element => ?_
    exact (rejects_element options visitor context hv kind h element).bind
      fun _ => rejects_action _

theorem rejects_lists (kind node : Value) {above : Path} (h : Stacked (.node kind node :: above)) :
    Rejects (unwind (.node kind node :: above))
      (rejectingLists options visitor context visit' kind node (.node kind node :: above))
      (walkLists options visitor context visit kind node) := by
  refine Rejects.bind (rejects_action _) fun walked => rejects_forM walked fun (key, listKind) => ?_
  refine Rejects.within _ (Rejects.bind (rejects_action _) fun nodes => ?_)
  have hlist : Stacked (.list listKind :: .node kind node :: above) := ⟨trivial, h⟩
  exact rejects_list options visitor context hv listKind hlist nodes

end

theorem rejects_node (depth : Nat) (above : Path) (node kind : Value)
    (h : Stacked (.node kind node :: above)) :
    Rejects (unwind (.node kind node :: above))
      (rejectingNode options visitor context depth above node)
      (walkNode options visitor context depth node) := by
  induction depth generalizing above node kind with
  | zero => exact rejects_unmarked (throw .tooDeep)
  | succ depth ih =>
    rw [walkNode_succ]
    refine Rejects.bind (rejects_action _) fun kind' => ?_
    have hnode : unwind (σ := σ) (.node kind node :: above) = unwind (.node kind' node :: above) :=
      funext (unwind_node kind kind' node node above)
    rw [hnode]
    refine rejects_framed options visitor context kind' (some node) ?_
    exact rejects_lists options visitor context ih kind' node ⟨h.1, h.2⟩

/-- The record of a walk is that of the walk of its root, but for a root that is refused. -/
theorem records_rejectingWalk (root : Value) (w : World σ) :
    ∃ record, Act.Records (rejectingWalk options visitor context root)
        (walk options visitor context root) w record ∧
      ∀ m ∈ record, Stacked (.list m.kind :: m.above) ∧ ∃ halt₀ w₀,
        (rejectElement m.kind m.element : Act σ Unit).runOn m.world = (.error halt₀, w₀) ∧
        (walk options visitor context root).runOn w =
          (.error (FailedRun.noted (noteAborted options root) (unwind m.path (halt₀, w₀))).1,
            (FailedRun.noted (noteAborted options root) (unwind m.path (halt₀, w₀))).2) := by
  have hroot := Act.records_unmarked (μ := Rejection σ) (liftM (Action.checkRoot root)) w
  rcases hr : (liftM (Action.checkRoot root) : Act σ Unit).runOn w with ⟨e | _, w₁⟩
  · exact ⟨[], hroot.bind_error hr, fun _ hm => absurd hm List.not_mem_nil⟩
  · obtain ⟨seg, hseg, hu⟩ := rejects_node options visitor context options.depthLimit [] root .null
      ⟨trivial, trivial⟩ w₁
    refine ⟨seg, hroot.bind_ok hr (hseg.onReport (noteAborted options root)), fun m hm => ?_⟩
    obtain ⟨hin, o, o₀, he, hreject, hup⟩ := hu m hm
    have hend : o = unwind m.path o₀ := (FailedRun.noted_nothing o).symm.trans hup
    refine ⟨hin, o₀.1, o₀.2, hreject, ?_⟩
    rw [← hend]
    exact (Act.runOn_bind_ok hr _).trans (Act.onReport_noted he (noteAborted options root))

/-- **How rejections leave a walk.** If a walk rejects an element, then it ends as the report about
this element does that leaves the frames around the element. -/
theorem walk_rejects {root : Value} {w w' : World σ} {outcome : Except Halt Unit}
    {record : List (Rejection σ)} {m : Rejection σ}
    (hw : (rejectingWalk options visitor context root).runOn (w.traced []) =
      (outcome, w'.traced record)) (hm : m ∈ record) :
    Stacked (.list m.kind :: m.above) ∧ ∃ halt₀ w₀,
      (rejectElement m.kind m.element : Act σ Unit).runOn m.world = (.error halt₀, w₀) ∧
      (walk options visitor context root).runOn w =
        (.error (FailedRun.noted (noteAborted options root) (unwind m.path (halt₀, w₀))).1,
          (FailedRun.noted (noteAborted options root) (unwind m.path (halt₀, w₀))).2) := by
  obtain ⟨seg, hseg, hu⟩ := records_rejectingWalk options visitor context root w
  have hsame : w'.traced record = ((walk options visitor context root).runOn w).2.traced seg :=
    congrArg Prod.snd (hw.symm.trans (hseg []))
  obtain rfl : record = seg := congrArg (fun w => w.state.2) hsame
  exact hu m hm

end
end GraphQLTree
