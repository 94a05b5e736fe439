import GraphQLTree.Proofs.Report
import GraphQLTree.Proofs.Unwinding

/-! # The report of a failed walk

A walk that fails in a method of its visitor raises a failure report. Its stages are read off the
path of the step that failed (`trail`), the outermost first, and end with the stage of the method.
An error that is a failure report itself gets these stages before its own; any other error is wrapped
in a new report, with its message, the node of the step and the error itself (`walk_report`). -/

namespace GraphQLTree

/-! ### The stages of a path -/

/-- The words of a kind; one that is no text has none. -/
def Value.words : Value → String
  | .text kind => plainKind kind
  | _ => ""

/-- The stages that a frame adds to those of the frames above: a list stands for itself, a frame
right inside of a list stands for an element of it, and the node that a variant is stands for its
own kind. The root adds nothing. -/
def Frame.stages : Frame → Path → List Stage
  | .list kind, _ => [.list (plainKind kind)]
  | .variant kind _, _ => [.element (plainKind kind)]
  | .node _ _, .list kind :: _ => [.element (plainKind kind)]
  | .node kind _, .variant _ _ :: _ => [.variant kind.words]
  | .node _ _, _ => []

/-- The stages of a path, the outermost first. -/
def trail : Path → List Stage
  | [] => []
  | f :: above => trail above ++ f.stages above

/-- The stage of a method for a frame. -/
def hookStage (direction : Direction) (f : Frame) : Stage :=
  .hook f.kind.words direction

/-- The stages of a method for the frame `f` that failed. -/
def failureTrail (direction : Direction) (f : Frame) (above : Path) : List Stage :=
  trail (f :: above) ++ [hookStage direction f]

/-- Stages as they are recorded. -/
def stageTexts (stages : List Stage) : List Value :=
  stages.map fun stage => .text stage.text

/-- The nodes that are variants have texts for kinds, which can be read as long as the objects of the
store are kept. -/
def KindsNamed (s : Store) : Path → Prop
  | [] => True
  | .node kind _ :: .variant list element :: above =>
    (∃ text, kind = .text text ∧ Store.Gives Store.KeepsObjects s (Action.attr element "kind") kind) ∧
      KindsNamed s (.variant list element :: above)
  | _ :: above => KindsNamed s above

section

variable {σ : Type} {s₀ : Store} {w : World σ} {r l : Ref} {stages : List Value}

/-! ### Reports on their way out -/

/-- A report that passes a stage. -/
theorem noted_stage (h : w.store.Report r l stages) (stage : Stage) :
    ∃ w', FailedRun.noted stage.note (.raised r, w) = (.raised r, w') ∧
      w.store.KeepsObjects w'.store ∧ w'.store.Report r l (.text stage.text :: stages) := by
  obtain ⟨s', hrun, hk, hr⟩ := h.addStage (n := 8 * w.store.size + 998) (.text stage.text)
  refine ⟨{ w with store := s' }, ?_, hk.keepsObjects h.stages, hr⟩
  have hlevel : w.store.depthLimit = 8 * w.store.size + 998 + 2 := by
    unfold Store.depthLimit
    omega
  have hnote : (stage.note r : Act σ Unit).runOn w = (.ok (), { w with store := s' }) := by
    unfold Stage.note Action.recordStage
    rw [Act.runOn_action, Action.runOn_perform, hlevel, Action.runOn_discard hrun]
  unfold FailedRun.noted
  dsimp only
  rw [if_pos h.isReport, hnote]

/-- A report that passes the node of a variant. -/
theorem noted_variant (h : w.store.Report r l stages) (hk : s₀.KeepsObjects w.store)
    {element : Value} {kind : String}
    (hkind : Store.Gives Store.KeepsObjects s₀ (Action.attr element "kind") (.text kind)) :
    ∃ w', FailedRun.noted (variantNote element) (.raised r, w) = (.raised r, w') ∧
      w.store.KeepsObjects w'.store ∧
      w'.store.Report r l (.text (Stage.variant (plainKind kind)).text :: stages) := by
  obtain ⟨s₁, hread, hg⟩ := hkind.perform hk hk.size
  obtain ⟨w', hnoted, hk', hr'⟩ := noted_stage (w := { w with store := s₁ })
    (h.keepsBut (hg.keepsBut l) (hg.get?_eq h.stages)) (.variant (plainKind kind))
  refine ⟨w', ?_, trans_of Store.KeepsObjects hg.keepsObjects hk', hr'⟩
  have hattr : (liftM (Action.attr element "kind") : Act σ Value).runOn w =
      (.ok (.text kind), { w with store := s₁ }) := by
    rw [Act.runOn_action, hread]
  have hrep := (h.keepsBut (hg.keepsBut l) (hg.get?_eq h.stages)).isReport
  unfold FailedRun.noted at hnoted ⊢
  dsimp only at hnoted ⊢
  rw [if_pos hrep] at hnoted
  rw [if_pos h.isReport]
  have hnote : (variantNote element r : Act σ Unit).runOn w =
      ((Stage.variant (plainKind kind)).note r).runOn { w with store := s₁ } :=
    (Act.runOn_bind_ok hattr _).trans (Act.runOn_bind_ok rfl _)
  rw [hnote]
  exact hnoted

/-- A report that leaves a frame gets the stages that the frame stands for. -/
theorem noted_frame {f : Frame} {above : Path} (h : w.store.Report r l stages)
    (hk : s₀.KeepsObjects w.store) (hn : KindsNamed s₀ (f :: above)) :
    ∃ w', FailedRun.noted (f.note above) (.raised r, w) = (.raised r, w') ∧
      w.store.KeepsObjects w'.store ∧
      w'.store.Report r l (stageTexts (f.stages above) ++ stages) := by
  cases f with
  | list kind => exact noted_stage h _
  | variant kind element => exact noted_stage h _
  | node kind v =>
    rcases above with - | ⟨⟨_, _⟩ | list | ⟨list, element⟩, above⟩
    · exact ⟨w, FailedRun.noted_nothing _, refl_of Store.KeepsObjects _, h⟩
    · exact ⟨w, FailedRun.noted_nothing _, refl_of Store.KeepsObjects _, h⟩
    · exact noted_stage h _
    · obtain ⟨⟨text, rfl, hkind⟩, -⟩ := hn
      exact noted_variant h hk hkind

theorem KindsNamed.tail {f : Frame} {above : Path} (h : KindsNamed s₀ (f :: above)) :
    KindsNamed s₀ above := by
  cases f with
  | list | variant => exact h
  | node =>
    rcases above with - | ⟨_ | _ | _, _⟩
    · exact h
    · exact h
    · exact h
    · exact h.2

/-- A report that leaves all frames of a path gets the stages of the path. -/
theorem unwind_report (path : Path) (h : w.store.Report r l stages) (hk : s₀.KeepsObjects w.store)
    (hn : KindsNamed s₀ path) :
    ∃ w', unwind path (.raised r, w) = (.raised r, w') ∧ w.store.KeepsObjects w'.store ∧
      w'.store.Report r l (stageTexts (trail path) ++ stages) := by
  induction path generalizing w stages with
  | nil => exact ⟨w, rfl, refl_of Store.KeepsObjects _, h⟩
  | cons f above ih =>
    obtain ⟨w₁, hnoted, hk₁, hr₁⟩ := noted_frame h hk hn
    obtain ⟨w', hunwind, hk', hr'⟩ := ih hr₁ (trans_of Store.KeepsObjects hk hk₁) hn.tail
    refine ⟨w', ?_, trans_of Store.KeepsObjects hk₁ hk', ?_⟩
    · unfold unwind
      rw [hnoted]
      exact hunwind
    · unfold trail stageTexts
      rw [List.map_append, List.append_assoc]
      exact hr'

/-! ### Errors that methods raise -/

/-- A report is raised as it is. -/
theorem runOn_raiseReport {s : Store} (h : s.isReport (.ref r) = true) (α : Type) (b : Behaviour) :
    Effect.runOn ((Action.raise (.ref r) : Action α) b) s = (.error (.raised r), s) := by
  have he : Action.isError s (.ref r) = true := by
    unfold Store.isReport at h
    unfold Action.isError
    rcases hr : s.error? (.ref r) with - | e
    · rw [hr] at h
      nomatch h
    · rfl
  refine (Effect.runOn_bind_ok (Effect.runOn_get s) _).trans ?_
  refine (Effect.runOn_bind_ok (Effect.runOn_get s) _).trans ?_
  rw [he]
  rfl

/-- An error is raised again as the report that it becomes. -/
theorem abort_wrap {kind : String} {direction : Direction} {f : Frame} {e : Ref} {s : Store}
    (hf : f.kind = .text kind)
    (hw : (Action.wrap (.ref e) (.text (hookStage direction f).text)
      (f.node?.getD .null)).perform.runOn w.store = (.ok (.ref r), s))
    (hr : s.isReport (.ref r) = true) (α : Type) :
    (abort f.kind direction f.node? e : Act σ α).runOn w =
      (.error (.raised r), { w with store := s }) := by
  have hwords : (liftM (Action.kindWords f.kind) : Act σ String).runOn w =
      (.ok f.kind.words, w) := by
    rw [hf]
    rfl
  have hwrap : (liftM (Action.wrap (.ref e) (.text (hookStage direction f).text)
      (f.node?.getD .null)) : Act σ Value).runOn w = (.ok (.ref r), { w with store := s }) := by
    rw [Act.runOn_action, hw]
  refine (Act.runOn_bind_ok hwords _).trans ?_
  refine (Act.runOn_bind_ok hwrap _).trans ?_
  rw [Act.runOn_action, Action.runOn_perform, runOn_raiseReport hr]

/-! ### The log -/

/-- That a walk is aborted can be logged, if that is asked for: the root has a description, and the
message and the stages of the report are texts. -/
def Loggable (options : WalkOptions) (root : Value) (s : Store) (message : Value)
    (stages : List Value) : Prop :=
  options.debug = true → (∃ text, Store.Gives Store.KeepsObjects s (Action.describedText root) text) ∧
    (∃ text, message = .text text) ∧ ∃ texts : List String, stages = texts.map .text

theorem stageTexts_eq (stages : List Stage) :
    stageTexts stages = (stages.map Stage.text).map .text := by
  unfold stageTexts
  rw [List.map_map]
  rfl

/-- What is logged about an aborted walk, if that is asked for. -/
def abortedLines (options : WalkOptions) (shown message : String) (stages : List String) :
    List String :=
  if options.debug then
    ["Walk over " ++ shown ++ " aborted: " ++ ": ".intercalate (stages ++ [message])]
  else []

/-- Logging that a walk is aborted leaves the report as it is. -/
theorem noted_aborted {options : WalkOptions} {root message : Value} {more : List Stage}
    {report : ErrorObject} {attrs : Attrs} (hl : Loggable options root s₀ message stages)
    (hk : s₀.KeepsObjects w.store) (h : w.store.Report r l (stageTexts more ++ stages))
    (hr : w.store.IsReport r report attrs) (hs : attrs.lookup "stages" = some (.ref l))
    (hm : attrs.lookup "message" = some message) :
    ∃ w', FailedRun.noted (noteAborted options root) (.raised r, w) = (.raised r, w') ∧
      w.store.Grows w'.store ∧ ∀ shown text texts, message = .text text → stages = texts.map .text →
        (options.debug = true →
          Store.Gives Store.KeepsObjects s₀ (Action.describedText root) shown) →
        w'.log = w.log ++ abortedLines options shown text (more.map Stage.text ++ texts) := by
  have hnoted {w' : World σ} (hn : (noteAborted options root r).runOn w = (.ok (), w')) :
      FailedRun.noted (noteAborted options root) (.raised r, w) = (.raised r, w') := by
    unfold FailedRun.noted
    dsimp only
    rw [if_pos h.isReport, hn]
  by_cases hd : options.debug = true
  · obtain ⟨⟨shown, hshown⟩, ⟨message, rfl⟩, texts, rfl⟩ := hl hd
    obtain ⟨s₁, hread, hg⟩ := hshown.perform hk hk.size
    obtain ⟨n, hn⟩ : ∃ n, s₁.depthLimit = n + 2 := ⟨8 * s₁.size + 998, by unfold Store.depthLimit; omega⟩
    have hlist : s₁.get? l = some (.list ((more.map Stage.text ++ texts).map .text)) := by
      rw [List.map_append, ← stageTexts_eq]
      exact hg.get?_eq h.stages
    have htext := (hr.keepsObjects hg.keepsObjects).runOn_text (n := n)
      (h.pristine.of_classAttrs hg.classAttrs) hs hlist hm
    have hdescribed : (liftM (Action.describedText root) : Act σ String).runOn w =
        (.ok shown, { w with store := s₁ }) := by
      rw [Act.runOn_action, hread]
    have hwritten : (liftM (Action.text (.ref r)) : Act σ String).runOn { w with store := s₁ } =
        (.ok (": ".intercalate (more.map Stage.text ++ texts ++ [message])),
          { w with store := s₁ }) := by
      rw [Act.runOn_action, Action.runOn_perform, hn, htext]
    have hnote : (noteAborted options root r).runOn w = (.ok (), ⟨s₁, w.log ++
        abortedLines options shown message (more.map Stage.text ++ texts), w.state⟩) := by
      unfold noteAborted abortedLines
      rw [if_pos hd, if_pos hd]
      exact (Act.runOn_bind_ok hdescribed _).trans (Act.runOn_bind_ok hwritten _)
    refine ⟨_, hnoted hnote, hg, fun shown' text' texts' hm' hs' hshown' => ?_⟩
    obtain rfl := Value.text.inj hm'
    obtain rfl := (List.map_inj_right fun _ _ => Value.text.inj).mp hs'
    obtain ⟨s₂, hread', -⟩ := (hshown' hd).perform hk hk.size
    cases hread.symm.trans hread'
    rfl
  · refine ⟨w, hnoted ?_, Store.Grows.refl _, fun _ _ _ _ _ _ => ?_⟩
    · unfold noteAborted
      rw [if_neg hd]
      rfl
    · unfold abortedLines
      rw [if_neg hd, List.append_nil]

/-! ### Walks that fail -/

/-- From a report that leaves the frames of a path to the report that the walk raises. -/
theorem unwind_raises {options : WalkOptions} {root message : Value} {path : Path}
    {report : ErrorObject} {attrs : Attrs} (more : List Stage)
    (h : w.store.Report r l (stageTexts more ++ stages)) (hk : s₀.KeepsObjects w.store)
    (hn : KindsNamed s₀ path) (hl : Loggable options root s₀ message stages)
    (hr : w.store.IsReport r report attrs) (hs : attrs.lookup "stages" = some (.ref l))
    (hm : attrs.lookup "message" = some message) :
    ∃ w', FailedRun.noted (noteAborted options root) (unwind path (.raised r, w)) =
        (.raised r, w') ∧ w.store.KeepsObjects w'.store ∧
      w'.store.Report r l (stageTexts (trail path ++ more) ++ stages) := by
  obtain ⟨w₁, hunwind, hk₁, hr₁⟩ := unwind_report path h hk hn
  have hstages : stageTexts (trail path) ++ (stageTexts more ++ stages) =
      stageTexts (trail path ++ more) ++ stages := by
    unfold stageTexts
    rw [List.map_append, List.append_assoc]
  rw [hstages] at hr₁
  obtain ⟨w', hnoted, hg, -⟩ := noted_aborted hl (trans_of Store.KeepsObjects hk hk₁) hr₁
    (hr.keepsObjects hk₁) hs hm
  refine ⟨w', ?_, trans_of Store.KeepsObjects hk₁ hg.keepsObjects,
    hr₁.keepsBut (hg.keepsBut l) (hg.get?_eq hr₁.stages)⟩
  rw [hunwind]
  exact hnoted

/-- From the report that a method failed with to the report that the walk raises. -/
theorem walk_raises {options : WalkOptions} {root message : Value} {d : Direction}
    {f : Frame} {above : Path} {report : ErrorObject} {attrs : Attrs}
    (h : w.store.Report r l (.text (hookStage d f).text :: stages))
    (hk : s₀.KeepsObjects w.store) (hn : KindsNamed s₀ (f :: above))
    (hl : Loggable options root s₀ message stages) (hr : w.store.IsReport r report attrs)
    (hs : attrs.lookup "stages" = some (.ref l)) (hm : attrs.lookup "message" = some message) :
    ∃ w', FailedRun.noted (noteAborted options root) (unwind (f :: above) (.raised r, w)) =
        (.raised r, w') ∧ w.store.KeepsObjects w'.store ∧
      w'.store.Report r l (stageTexts (failureTrail d f above) ++ stages) :=
  unwind_raises [hookStage d f] h hk hn hl hr hs hm

/-- **The report of a failed walk.** If in a walk the method for a step raises an error that carries
no prune signal, the walk raises a failure report whose stages are those of the path of the step and
then that of the method. The report of an error that is none itself holds the message of the error,
the node of the step and the error, which is also its cause if it counts as true; an error that is a
report is raised again, and nothing but its stages has changed. -/
theorem walk_report (options : WalkOptions) (visitor : Visitor σ) (context : Value) {root : Value}
    {w w' w₂ : World σ} {outcome : Except Halt Unit} {marks : List (Mark σ)} {d : Direction}
    {f : Frame} {above : Path} {e : Ref} {kind : String}
    (hm : (tracedWalk options visitor context root).runOn (w.traced []) =
      (outcome, w'.traced marks)) (h : Fatal marks d f above e w₂) (hf : f.kind = .text kind)
    (hn : KindsNamed w₂.store (f :: above)) :
    (∀ {message isTrue}, w₂.store.Pristine → w₂.store.Tells e message isTrue →
      Loggable options root w₂.store message [] →
      ∃ r l w'', (walk options visitor context root).runOn w = (.error (.raised r), w'') ∧
        w''.store.Report r l (stageTexts (failureTrail d f above)) ∧
        w''.store.Wraps r l message (f.node?.getD .null) e isTrue) ∧
    (∀ {l stages message}, w₂.store.Report e l stages →
      w₂.store.field? (.ref e) "message" = some message →
      Loggable options root w₂.store message stages →
      ∃ w'', (walk options visitor context root).runOn w = (.error (.raised e), w'') ∧
        w''.store.Report e l (stageTexts (failureTrail d f above) ++ stages) ∧
        w''.store.get? e = w₂.store.get? e) := by
  obtain ⟨halt₀, w₀, habort, hwalk⟩ := walk_unwinds options visitor context hm h
  rw [hwalk]
  refine ⟨fun {message isTrue} hp ht hlog => ?_, fun {l stages message} hr hmess hlog => ?_⟩
  · obtain ⟨s₁, r, l, hwrap, hg, -, hp₁, hw, hl⟩ :=
      ht.wrap hp (.text (hookStage d f).text) (f.node?.getD .null)
    have hrep := hw.report hp₁ hl
    cases habort.symm.trans (abort_wrap hf hwrap hrep.isReport Bool)
    obtain ⟨report, hreport, -⟩ := id hw
    obtain ⟨w'', hend, hk, hr⟩ := walk_raises (w := { w₂ with store := s₁ }) hrep hg.keepsObjects hn
      hlog hreport rfl rfl
    rw [List.append_nil] at hr
    rw [hend]
    exact ⟨r, l, w'', rfl, hr, hw.keepsObjects hk⟩
  · obtain ⟨s₁, hwrap, hk₁, hr₁⟩ := hr.wrap (.text (hookStage d f).text) (f.node?.getD .null)
    have hk := hk₁.keepsObjects hr.stages
    cases habort.symm.trans (abort_wrap hf hwrap hr₁.isReport Bool)
    obtain ⟨report, attrs, hreport, hs, -⟩ := hr.report
    rw [hreport.field?] at hmess
    obtain ⟨w'', hend, hk', hr'⟩ := walk_raises (w := { w₂ with store := s₁ }) hr₁ hk hn hlog
      (hreport.keepsObjects hk) hs hmess
    rw [hend]
    refine ⟨w'', rfl, hr', ?_⟩
    rw [hreport.get]
    exact hk'.get?_eq nofun (hk.get?_eq nofun hreport.get)

end

/-! ### An error in a field -/

theorem Store.Node.keepsObjects {s s' : Store} {r : Ref} {n : NodeObject} (h : s.Node r n)
    (hs : s.KeepsObjects s') : s'.Node r n :=
  ⟨hs.classAttrs.trans h.classAttrs, hs.get?_eq nofun h.cell, h.cls, h.fields⟩

/-- The kind of a node of the language can be read as long as the objects of the store are kept. -/
theorem Store.Node.gives_kind {s : Store} {r : Ref} {n : NodeObject} (h : s.Node r n) :
    Gives KeepsObjects s (Action.attr (.ref r) "kind") (.text n.cls.kind) := by
  intro s' k hs hk
  have h' := h.keepsObjects hs
  obtain ⟨k, rfl⟩ : ∃ j, k = j + 1 := ⟨k - 1, by unfold depthLimit at hk; omega⟩
  refine ⟨s', (h'.runOn_readAttr "kind").trans ?_, Grows.refl s'⟩
  exact Action.runOn_readOwn_text
    ((h'.classEntry? "kind").trans (NodeClass.kind_builtin _ h.cls)) (h'.field? "kind")

/-- The worlds that a method for a step leaves behind where it raises an error. -/
def raisedWorlds {σ : Type} (marks : List (Mark σ)) (direction : Direction) (path : Path) (e : Ref) :
    List (World σ) :=
  marks.filterMap fun
    | .ended call path' (.error halt) w =>
      if call.direction = direction ∧ path' = path ∧ halt = .raised e then some w else none
    | _ => none

theorem mem_of_raisedWorlds {σ : Type} {marks : List (Mark σ)} {direction : Direction} {path : Path}
    {e : Ref} {w : World σ} (h : w ∈ raisedWorlds marks direction path e) :
    ∃ call, call.direction = direction ∧ .ended call path (.error (.raised e)) w ∈ marks := by
  obtain ⟨m, hm, hw⟩ := List.mem_filterMap.mp h
  split at hw
  · split at hw
    · rename_i heq
      obtain ⟨hd, rfl, rfl⟩ := heq
      cases hw
      exact ⟨_, hd, hm⟩
    · nomatch hw
  · nomatch hw

/-- A visitor whose method for entering a kind raises an error with a text. -/
def raisingVisitor {σ : Type} (kind text : String) : Visitor σ where
  hook? lookup := return (if lookup.kind = .text kind ∧ lookup.direction = .enter then
      some fun _ => (Effect.fail (.other .badValue text) : Effect Value)
    else none)

/-- The field of a small schema. -/
def fieldFrame : Frame :=
  .node (.text "object_field_definition") (.ref 4)

/-- What the field is inside of. -/
def fieldAbove : Path :=
  [.list "object_field_definition", .node (.text "object_definition") (.ref 2),
    .variant "definition" (.ref 2), .list "definition", .node (.text "schema") (.ref 0)]

/-- A method that fails for a field of an object. -/
theorem walk_report_smallSchema :
    ∃ r l w', (walk .standard (raisingVisitor "object_field_definition" "boom") .null (.ref 0)).runOn
        ⟨.smallSchema, [], ()⟩ = (.error (.raised r), w') ∧
      w'.store.Report r l (["failed to visit definition list", "failed to visit definition",
        "failed to visit object definition", "failed to visit object field definition list",
        "failed to visit object field definition",
        "failed to visit object field definition (enter)"].map .text) ∧
      w'.store.Wraps r l (.text "boom") (.ref 4) 7 true := by
  obtain ⟨run, hrun⟩ : ∃ run, run = (tracedWalk .standard (raisingVisitor "object_field_definition"
    "boom") .null (.ref 0)).runOn (World.traced ⟨.smallSchema, [], ()⟩ []) := ⟨_, rfl⟩
  have hworlds : ((raisedWorlds run.2.state.2 .enter (fieldFrame :: fieldAbove) 7).head?.map fun w =>
      (w.store.classAttrs, w.store.get? 7, w.store.get? 2)) =
      some ([], some (.error (.ofArgs .badValue [.text "boom"])),
        some (.node ⟨.objectDefinition, [("name", .null), ("fields", .ref 3)], .own [], none⟩)) := by
    rw [hrun]
    decide +kernel
  obtain ⟨w₁, hw₁, heq⟩ := Option.map_eq_some_iff.mp hworlds
  simp only [Prod.mk.injEq] at heq
  obtain ⟨hattrs, he, hnode⟩ := heq
  have herror : w₁.store.TextError 7 .badValue "boom" := ⟨hattrs, he, rfl, by decide⟩
  obtain ⟨s₂, hsignal, hg⟩ := herror.gives_pruneSignal.perform (Store.Grows.refl _) (Nat.le_refl _)
  have hnode₂ : s₂.Node 2 _ := ⟨hg.classAttrs.trans hattrs, hg.get?_eq hnode, by decide, rfl⟩
  have hfatal : Fatal run.2.state.2 .enter fieldFrame fieldAbove 7 { w₁ with store := s₂ } := by
    obtain ⟨call, hd, hm⟩ := mem_of_raisedWorlds (List.mem_of_head? hw₁)
    refine ⟨call, w₁, hd, hm, ?_, ?_⟩
    · unfold Effect.isErrorOf Store.error?
      rw [Store.cell?_ref he]
      rfl
    · rw [Act.runOn_action, hsignal]
  have hm : (tracedWalk .standard (raisingVisitor "object_field_definition" "boom") .null
      (.ref 0)).runOn (World.traced ⟨.smallSchema, [], ()⟩ []) =
      (run.1, run.2.forget.traced run.2.state.2) := hrun.symm
  have hreport := walk_report .standard _ .null hm hfatal rfl
    ⟨⟨_, rfl, hnode₂.gives_kind⟩, trivial⟩
  have herror₂ := herror.grows hg
  exact hreport.1 herror₂.pristine (herror₂.tells (by decide)) nofun

end GraphQLTree
