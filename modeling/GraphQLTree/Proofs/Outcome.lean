import GraphQLTree.Proofs.FailureReport
import GraphQLTree.Proofs.Bookkeeping

/-! # Outcomes of failed walks

Two walks over the same tree fail with different errors, in different stores. What is the same about
them is what the errors look like: the type and the text of an error, and for a failure report its
message, its stages, the node, and the type of the error that it was made of (`Look`). An error looks
like one thing only (`Store.Looks.unique`). A failure that passes a stage of the walk looks the same
but for the stage (`stage_notes`). -/

namespace GraphQLTree

/-- What an error looks like. -/
inductive Look
  /-- An error that is no failure report. -/
  | error (type : TypeValue) (message : String)
  | report (message : String) (stages : List String) (node : Value) (original? : Option TypeValue)

/-- What a failure looks like. -/
inductive Failed
  | tooDeep
  | raised (look : Look)

/-- A failure that passes a stage: only reports get it. -/
def Failed.noted (stage : Stage) : Failed → Failed
  | .raised (.report message stages node original?) =>
    .raised (.report message (stage.text :: stages) node original?)
  | failed => failed

/-! ### What errors look like -/

namespace Store

variable {s s' : Store} {e : Ref} {look look' : Look}

/-- The error that a report was made of, if there is one, is of this type. -/
def Origin (s : Store) (original : Value) : Option TypeValue → Prop
  | none => original = .null
  | some type => ∃ q error, original = .ref q ∧ s.get? q = some (.error error) ∧
      (Cell.error error).type = type

/-- A failure report with its attributes. -/
structure Reports (s : Store) (e : Ref) (message : String) (stages : List String) (node : Value)
    (original? : Option TypeValue) (l : Ref) (report : ErrorObject) (attrs : Attrs) : Prop where
  listed : s.Report e l (stages.map .text)
  isReport : s.IsReport e report attrs
  stages : attrs.lookup "stages" = some (.ref l)
  message : attrs.lookup "message" = some (.text message)
  node : attrs.lookup "node" = some node
  origin : ∃ original, attrs.lookup "original_error" = some original ∧ s.Origin original original?

/-- What an error looks like in a store. -/
def Looks (s : Store) (e : Ref) : Look → Prop
  | .error type message =>
    (∃ error, s.get? e = some (.error error) ∧ error.cls ≠ .visit ∧
      (Cell.error error).type = type) ∧ Gives Grows s (Action.text (.ref e)) message
  | .report message stages node original? =>
    ∃ l report attrs, s.Reports e message stages node original? l report attrs

theorem error?_ref {error : ErrorObject} (h : s.get? e = some (.error error)) :
    s.error? (.ref e) = some error := by
  unfold error?
  rw [cell?_ref h]

theorem Looks.not_report {type : TypeValue} {message : String}
    (h : s.Looks e (.error type message)) : s.isReport (.ref e) = false := by
  obtain ⟨⟨error, he, hc, -⟩, -⟩ := h
  unfold isReport
  rw [error?_ref he]
  exact beq_false_of_ne hc

theorem Looks.isReport {message : String} {stages : List String} {node : Value}
    {original? : Option TypeValue} (h : s.Looks e (.report message stages node original?)) :
    s.isReport (.ref e) = true := by
  obtain ⟨_, _, _, h⟩ := h
  exact h.isReport.isReport

theorem Origin.unique {original : Value} {type? type?' : Option TypeValue}
    (h : s.Origin original type?) (h' : s.Origin original type?') : type? = type?' := by
  cases type? with
  | none =>
    cases type?' with
    | none => rfl
    | some =>
      obtain ⟨q, _, hq, -⟩ := h'
      nomatch h.symm.trans hq
  | some =>
    obtain ⟨q, error, rfl, hc, rfl⟩ := h
    cases type?' with
    | none => nomatch h'
    | some =>
      obtain ⟨_, error', hq, hc', rfl⟩ := h'
      cases hq
      cases hc.symm.trans hc'
      rfl

/-- An error looks like one thing only. -/
theorem Looks.unique (h : s.Looks e look) (h' : s.Looks e look') : look = look' := by
  cases look with
  | error type message =>
    cases look' with
    | report => nomatch h.not_report.symm.trans h'.isReport
    | error =>
      obtain ⟨⟨error, he, -, rfl⟩, ht⟩ := h
      obtain ⟨⟨_, he', -, rfl⟩, ht'⟩ := h'
      cases he.symm.trans he'
      obtain ⟨_, hr, -⟩ := ht.perform (refl_of Grows s) (Nat.le_refl _)
      obtain ⟨_, hr', -⟩ := ht'.perform (refl_of Grows s) (Nat.le_refl _)
      cases hr.symm.trans hr'
      rfl
  | report message stages node original? =>
    cases look' with
    | error => nomatch h'.not_report.symm.trans h.isReport
    | report message' stages' node' original?' =>
      obtain ⟨l, report, attrs, h⟩ := h
      obtain ⟨l', report', attrs', h'⟩ := h'
      have hattrs : ∀ name, attrs.lookup name = attrs'.lookup name := fun name =>
        (h.isReport.field? name).symm.trans (h'.isReport.field? name)
      cases h.message.symm.trans ((hattrs _).trans h'.message)
      cases h.node.symm.trans ((hattrs _).trans h'.node)
      cases h.stages.symm.trans ((hattrs _).trans h'.stages)
      have hstages := h.listed.stages.symm.trans h'.listed.stages
      rw [Option.some.injEq, Cell.list.injEq] at hstages
      obtain rfl := (List.map_inj_right fun _ _ => Value.text.inj).mp hstages
      obtain ⟨original, ho, horigin⟩ := h.origin
      obtain ⟨_, ho', horigin'⟩ := h'.origin
      cases ho.symm.trans ((hattrs _).trans ho')
      rw [horigin.unique horigin']

theorem Origin.keepsObjects {original : Value} {type? : Option TypeValue}
    (h : s.Origin original type?) (hk : s.KeepsObjects s') : s'.Origin original type? := by
  cases type? with
  | none => exact h
  | some =>
    obtain ⟨q, error, hq, hc, ht⟩ := h
    exact ⟨q, error, hq, hk.get?_eq nofun hc, ht⟩

/-- A report whose list of stages has changed. -/
theorem Reports.keepsObjects {message : String} {stages stages' : List String} {node : Value}
    {original? : Option TypeValue} {l : Ref} {report : ErrorObject} {attrs : Attrs}
    (h : s.Reports e message stages node original? l report attrs) (hk : s.KeepsObjects s')
    (hr : s'.Report e l (stages'.map .text)) :
    s'.Reports e message stages' node original? l report attrs := by
  obtain ⟨original, ho, horigin⟩ := h.origin
  exact ⟨hr, h.isReport.keepsObjects hk, h.stages, h.message, h.node, original, ho,
    horigin.keepsObjects hk⟩

end Store

/-- What a failure looks like in a store. -/
def Failed.Seen (s : Store) : Halt → Failed → Prop
  | .tooDeep, .tooDeep => True
  | .raised e, .raised look => s.Looks e look
  | _, _ => False

/-- A failure looks like one thing only. -/
theorem Failed.Seen.unique {s : Store} {halt : Halt} {failed failed' : Failed}
    (h : Failed.Seen s halt failed) (h' : Failed.Seen s halt failed') : failed = failed' := by
  cases halt with
  | tooDeep =>
    cases failed with
    | raised => nomatch h
    | tooDeep =>
      cases failed' with
      | raised => nomatch h'
      | tooDeep => rfl
  | raised e =>
    cases failed with
    | tooDeep => nomatch h
    | raised look =>
      cases failed' with
      | tooDeep => nomatch h'
      | raised look' => rw [Store.Looks.unique h h']

/-! ### Failures on their way out -/

section

variable {σ : Type} {keeps : Store → Store → Prop} {s₀ s₁ : Store} {halt : Halt} {w : World σ}
  {failed : Failed}

/-- What is seen of a failure in a store that is left behind: since the tree of `s₀` was kept for the
last time, at most the items of lists have changed. -/
structure Fell (keeps : Store → Store → Prop) (s₀ : Store) (failed : Failed) (halt : Halt)
    (s : Store) : Prop where
  seen : Failed.Seen s halt failed
  kept : ∃ s₁, keeps s₀ s₁ ∧ s₁.KeepsObjects s

theorem Fell.mono [IsPreorder Store keeps] {s : Store} (h : Fell keeps s₁ failed halt s)
    (hk : keeps s₀ s₁) : Fell keeps s₀ failed halt s := by
  obtain ⟨s₂, hk₂, ho⟩ := h.kept
  exact ⟨h.seen, s₂, trans_of keeps hk hk₂, ho⟩

/-- The whole of a state. -/
def Part.whole : Part σ σ := ⟨id, fun state _ => state⟩

theorem noted_state {note : Ref → Act σ Unit} (h : ∀ r, (note r).Spares Part.whole) (halt : Halt)
    (w : World σ) : (FailedRun.noted note (halt, w)).2.state = w.state := by
  cases halt with
  | tooDeep => rfl
  | raised r =>
    have hr : ((note r).runOn w).2.state = w.state := h r w
    unfold FailedRun.noted
    dsimp only
    split
    · revert hr
      rcases (note r).runOn w with ⟨halt | _, w'⟩
      · exact id
      · exact id
    · rfl

/-- A step that writes nothing to the log. -/
def Act.Unlogged {α : Type} (act : Act σ α) : Prop :=
  ∀ w, (act.runOn w).2.log = w.log

theorem Act.unlogged_action {α : Type} (act : Action α) : Unlogged (liftM act : Act σ α) :=
  fun _ => rfl

theorem Act.Unlogged.bind {α β : Type} {x : Act σ α} {f : α → Act σ β} (hx : x.Unlogged)
    (hf : ∀ a, (f a).Unlogged) : (x >>= f).Unlogged := by
  intro w
  have h := hx w
  rw [runOn_bind]
  rcases hr : x.runOn w with ⟨halt | a, w'⟩
  · rw [hr] at h
    exact h
  · rw [hr] at h
    exact (hf a w').trans h

theorem noted_log {note : Ref → Act σ Unit} (h : ∀ r, (note r).Unlogged) (halt : Halt)
    (w : World σ) : (FailedRun.noted note (halt, w)).2.log = w.log := by
  cases halt with
  | tooDeep => rfl
  | raised r =>
    have hr := h r w
    unfold FailedRun.noted
    dsimp only
    split
    · revert hr
      rcases (note r).runOn w with ⟨halt | _, w'⟩
      · exact id
      · exact id
    · rfl

/-- What is noted on failure reports leaves the state of the visitors alone, makes `becomes` of a
failure, and writes `lines` about it to the log. -/
def Notes (keeps : Store → Store → Prop) (s₀ : Store) (note : Ref → Act σ Unit)
    (becomes : Failed → Failed) (lines : Failed → List String) : Prop :=
  ∀ ⦃halt failed⦄ ⦃w : World σ⦄, Fell keeps s₀ failed halt w.store →
    ∃ halt' w', FailedRun.noted note (halt, w) = (halt', w') ∧ w'.state = w.state ∧
      w'.log = w.log ++ lines failed ∧ Fell keeps s₀ (becomes failed) halt' w'.store

/-- Only reports are noted on. -/
theorem notes_of_report {note : Ref → Act σ Unit} {becomes : Failed → Failed}
    {lines : Failed → List String} (hspares : ∀ r, (note r).Spares Part.whole)
    (hother : ∀ failed, (∀ message stages node original?,
      failed ≠ .raised (.report message stages node original?)) →
      becomes failed = failed ∧ lines failed = [])
    (hreport : ∀ {e message stages node original? l report attrs s₁} {w : World σ},
      w.store.Reports e message stages node original? l report attrs → keeps s₀ s₁ →
      s₁.KeepsObjects w.store → ∃ w', FailedRun.noted note (.raised e, w) = (.raised e, w') ∧
        w.store.KeepsObjects w'.store ∧
        w'.log = w.log ++ lines (.raised (.report message stages node original?)) ∧
        Failed.Seen w'.store (.raised e)
          (becomes (.raised (.report message stages node original?)))) :
    Notes keeps s₀ note becomes lines := by
  intro halt failed w h
  obtain ⟨s₁, hk, ho⟩ := h.kept
  have hseen := h.seen
  have hnothing : (∀ message stages node original?,
      failed ≠ .raised (.report message stages node original?)) →
      w.log = w.log ++ lines failed ∧ Fell keeps s₀ (becomes failed) halt w.store := by
    intro hne
    rw [(hother failed hne).1, (hother failed hne).2, List.append_nil]
    exact ⟨rfl, h⟩
  cases halt with
  | tooDeep =>
    cases failed with
    | raised => nomatch hseen
    | tooDeep => exact ⟨.tooDeep, w, rfl, rfl, hnothing fun _ _ _ _ => nofun⟩
  | raised e =>
    cases failed with
    | tooDeep => nomatch hseen
    | raised look =>
      cases look with
      | error type message =>
        refine ⟨.raised e, w, ?_, rfl, hnothing fun _ _ _ _ => nofun⟩
        unfold FailedRun.noted
        dsimp only
        rw [if_neg (by rw [Store.Looks.not_report hseen]; nofun)]
      | report message stages node original? =>
        obtain ⟨l, report, attrs, hr⟩ := hseen
        obtain ⟨w', hnoted, hk', hlog, hs⟩ := hreport hr hk ho
        have hstate := noted_state hspares (.raised e) w
        rw [hnoted] at hstate
        exact ⟨.raised e, w', hnoted, hstate, hlog, hs, s₁, hk, trans_of Store.KeepsObjects ho hk'⟩

theorem Failed.noted_of_ne {stage : Stage} (failed : Failed)
    (h : ∀ message stages node original?,
      failed ≠ .raised (.report message stages node original?)) : failed.noted stage = failed := by
  cases failed with
  | tooDeep => rfl
  | raised look =>
    cases look with
    | error => rfl
    | report => exact absurd rfl (h _ _ _ _)

/-- A stage that is recorded on reports. -/
theorem stage_notes (stage : Stage) :
    Notes (σ := σ) keeps s₀ stage.note (.noted stage) fun _ => [] := by
  refine notes_of_report (fun r => Act.spares_action _)
    (fun failed h => ⟨Failed.noted_of_ne failed h, rfl⟩) ?_
  intro e message stages node original? l report attrs s₁ w h _ _
  obtain ⟨w', hnoted, hk, hr⟩ := noted_stage h.listed stage
  have hunlogged : ∀ r, (stage.note r : Act σ Unit).Unlogged := fun r => Act.unlogged_action _
  have hlog := noted_log hunlogged (.raised e) w
  rw [hnoted] at hlog
  exact ⟨w', hnoted, hk, hlog.trans (List.append_nil _).symm, l, report, attrs,
    h.keepsObjects hk hr⟩

/-- The kind of a variant that is recorded on reports. -/
theorem variant_notes {element : Value} {kind : String}
    (hkind : ∀ s₁, keeps s₀ s₁ →
      Store.Gives Store.KeepsObjects s₁ (Action.attr element "kind") (.text kind)) :
    Notes (σ := σ) keeps s₀ (variantNote element) (.noted (.variant (plainKind kind)))
      fun _ => [] := by
  refine notes_of_report (fun r => ?_) (fun failed h => ⟨Failed.noted_of_ne failed h, rfl⟩) ?_
  · refine (Act.spares_action _).bind fun _ _ _ _ => ?_
    exact (Act.spares_action _).bind fun _ _ _ _ => Act.spares_action _
  · intro e message stages node original? l report attrs s₁ w h hs ho
    obtain ⟨w', hnoted, hk, hr⟩ := noted_variant h.listed ho (hkind s₁ hs)
    have hunlogged : ∀ r, (variantNote element r : Act σ Unit).Unlogged := fun r =>
      (Act.unlogged_action _).bind fun _ => (Act.unlogged_action _).bind fun _ =>
        Act.unlogged_action _
    have hlog := noted_log hunlogged (.raised e) w
    rw [hnoted] at hlog
    exact ⟨w', hnoted, hk, hlog.trans (List.append_nil _).symm, l, report, attrs,
      h.keepsObjects hk hr⟩

/-- What is logged about a walk that failed, where `shown` describes its root. -/
def Failed.abortedLines (options : WalkOptions) (shown : String) : Failed → List String
  | .raised (.report message stages _ _) => GraphQLTree.abortedLines options shown message stages
  | _ => []

/-- What is logged about an aborted walk. -/
theorem aborted_notes {options : WalkOptions} {root : Value} {shown : String}
    (hroot : options.debug = true → ∀ s₁, keeps s₀ s₁ →
      Store.Gives Store.KeepsObjects s₁ (Action.describedText root) shown) :
    Notes (σ := σ) keeps s₀ (noteAborted options root) id (Failed.abortedLines options shown) := by
  refine notes_of_report (fun r => ?_) (fun failed h => ⟨rfl, ?_⟩) ?_
  · unfold noteAborted
    split
    · refine (Act.spares_action _).bind fun _ _ _ _ => ?_
      exact (Act.spares_action _).bind fun _ _ _ _ _ => rfl
    · exact fun _ => rfl
  · cases failed with
    | tooDeep => rfl
    | raised look =>
      cases look with
      | error => rfl
      | report => exact absurd rfl (h _ _ _ _)
  · intro e message stages node original? l report attrs s₁ w h hs ho
    have hl : Loggable options root s₁ (.text message) (stages.map .text) :=
      fun hd => ⟨⟨shown, hroot hd s₁ hs⟩, ⟨message, rfl⟩, stages, rfl⟩
    have hlisted : w.store.Report e l (stageTexts [] ++ stages.map .text) := h.listed
    obtain ⟨w', hnoted, hg, hlog⟩ := noted_aborted hl ho hlisted h.isReport h.stages h.message
    refine ⟨w', hnoted, hg.keepsObjects, hlog shown message stages rfl rfl fun hd => hroot hd s₁ hs,
      l, report, attrs, h.keepsObjects hg.keepsObjects ?_⟩
    exact h.listed.keepsBut (hg.keepsBut l) (hg.get?_eq h.listed.stages)

/-- A failure that leaves a step where something is noted on failure reports. -/
theorem Notes.onReport {α : Type} {note : Ref → Act σ Unit} {becomes : Failed → Failed}
    {lines : Failed → List String} (hn : Notes keeps s₀ note becomes lines) {x : Act σ α}
    {w w₁ : World σ} (h : x.runOn w = (.error halt, w₁)) (hf : Fell keeps s₀ failed halt w₁.store) :
    ∃ halt' w', (Act.onReport x note).runOn w = (.error halt', w') ∧ w'.state = w₁.state ∧
      w'.log = w₁.log ++ lines failed ∧ Fell keeps s₀ (becomes failed) halt' w'.store := by
  obtain ⟨halt', w', hnoted, hstate, hlog, hf'⟩ := hn hf
  refine ⟨halt', w', ?_, hstate, hlog, hf'⟩
  rw [Act.onReport_noted h note, hnoted]

end
end GraphQLTree
