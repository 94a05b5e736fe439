import GraphQLTree.Proofs.TracedPairs

/-! # The debug log

With debug logging, a walk writes a line for each step that enters something and asks to skip what is
inside, and one about a failure report that ends it. If the methods of a visitor come out alike whatever
is in the log, a walk makes the same calls and ends in the same way with and without debug logging; what
is in the log is just this, and without debug logging it is nothing (`debug_inert`). What a walk skips is
told by its record (`prunes`), which does not depend on the log. -/

namespace GraphQLTree

/-! ### Lines -/

/-- How a frame is named in the log: a list by its kind, and a node by its description. -/
def Frame.shown (describe : Value → String) : Frame → String
  | .list kind => kind ++ "_list"
  | .node _ v | .variant _ v => describe v

/-- What is logged about a frame if what is inside is skipped. -/
def Frame.pruningLine (describe : Value → String) (f : Frame) : String :=
  "Pruning " ++ f.shown describe ++ "."

/-- What an entry of a record tells to be skipped. -/
def Mark.pruned? {σ : Type} : Mark σ → Option Frame
  | .pruned (f :: _) => some f
  | _ => none

/-- What a walk skipped, in order. -/
def prunes {σ : Type} (marks : List (Mark σ)) : List Frame :=
  marks.filterMap Mark.pruned?

/-- What is skipped in a step that enters a frame. -/
def skipped (f : Frame) (pruned : Bool) : List Frame :=
  if pruned then [f] else []

/-- What is logged about the end of a walk: one line if it is a failure report, with the final text of
the report, which is its stages and then its message. -/
def TellsEnd {σ : Type} (shown : String) (lines : List String) : Except Halt Unit × World σ → Prop
  | (.error (.raised e), w) =>
    if w.store.isReport (.ref e) then ∃ message stages node original?,
      w.store.Looks e (.report message stages node original?) ∧
      (Action.text (.ref e)).perform.runOn w.store =
        (.ok (": ".intercalate (stages ++ [message])), w.store) ∧
      lines = ["Walk over " ++ shown ++ " aborted: " ++ ": ".intercalate (stages ++ [message])]
    else lines = []
  | _ => lines = []

section

variable {σ : Type}

@[simp] theorem prunes_append (marks marks' : List (Mark σ)) :
    prunes (marks ++ marks') = prunes marks ++ prunes marks' :=
  List.filterMap_append

/-- The calls of methods skip nothing by themselves. -/
theorem prunes_hookMarks (visitor : Visitor σ) (context : Value) (d : Direction) (f : Frame)
    (above : Path) (w : World σ) : prunes (hookMarks visitor context d f above w) = [] := by
  unfold hookMarks
  rcases (visitor.hook? ⟨f.kind, d, false⟩).runOn w with ⟨halt | _ | hook, w'⟩
  · rfl
  · rfl
  · rfl

end

/-- The text of a failure report is its stages and then its message. -/
theorem Store.Looks.runOn_text {s : Store} {e : Ref} {message : String} {stages : List String}
    {node : Value} {original? : Option TypeValue}
    (h : s.Looks e (.report message stages node original?)) :
    (Action.text (.ref e)).perform.runOn s = (.ok (": ".intercalate (stages ++ [message])), s) := by
  obtain ⟨l, report, attrs, h⟩ := h
  obtain ⟨n, hn⟩ : ∃ n, s.depthLimit = n + 2 := ⟨s.depthLimit - 2, by unfold Store.depthLimit; omega⟩
  rw [Action.runOn_perform, hn]
  exact h.isReport.runOn_text h.listed.pristine h.stages h.listed.stages h.message

theorem Failed.abortedLines_silent {options : WalkOptions} (hd : options.debug = false) (shown : String)
    (failed : Failed) : failed.abortedLines options shown = [] := by
  unfold Failed.abortedLines GraphQLTree.abortedLines
  rw [hd]
  split <;> rfl

/-- What a failed walk logs about its failure. -/
theorem Failed.Seen.tellsEnd {σ : Type} {options : WalkOptions} (hd : options.debug = true)
    (shown : String) {halt : Halt} {failed : Failed} {w : World σ} (h : Failed.Seen w.store halt failed) :
    TellsEnd shown (failed.abortedLines options shown) (.error halt, w) := by
  cases halt with
  | tooDeep =>
    cases failed with
    | tooDeep => rfl
    | raised => nomatch h
  | raised e =>
    unfold TellsEnd
    dsimp only
    cases failed with
    | tooDeep => nomatch h
    | raised look =>
      cases look with
      | error type message =>
        rw [if_neg (by rw [Store.Looks.not_report h]; nofun)]
        rfl
      | report message stages node original? =>
        rw [if_pos (Store.Looks.isReport h)]
        refine ⟨message, stages, node, original?, h, Store.Looks.runOn_text h, ?_⟩
        change GraphQLTree.abortedLines options shown message stages = _
        unfold GraphQLTree.abortedLines
        rw [if_pos hd]

/-! ### Steps -/

/-- States that are related, beside these logs. -/
def Logged {σ σ' : Type} (R : σ → σ' → Prop) (log log' : List String) (a : Face σ) (b : Face σ') :
    Prop :=
  R a.1 b.1 ∧ a.2 = log ∧ b.2 = log'

/-- The methods of a visitor come out alike whatever is in the log, and write nothing to it. To describe
what is logged may leave new cells behind, so the stores need not be the same, as long as both keep the
tree. -/
def Visitor.LogBlind {σ : Type} (keeps : Store → Store → Prop) (s₀ : Store) (R R' : σ → σ → Prop)
    (context : Value) (P : Frame → Prop) (visitor : Visitor σ) : Prop :=
  ∀ log log', visitor.Alike keeps s₀ (Logged R log log') (Logged R' log log') context P visitor

section

variable {σ σ' : Type} {keeps : Store → Store → Prop} [IsPreorder Store keeps] {s₀ s s' : Store}
  {f : Frame} {describe : Value → String} {options : WalkOptions} {context : Value}

/-- That something is skipped is logged by one of two walks. -/
theorem pairs_endEnter_debug {R : σ → σ' → Prop} {log log' : List String}
    {F : Halt → World σ → Halt → World σ' → Prop}
    (ht : Reads keeps s₀ (Action.frameText f) (f.shown describe)) (hs : keeps s₀ s) (pruned : Bool) :
    Act.Pairs (Twin keeps (Logged R log log') s s')
      (fun a w b v => a = b ∧
        Twin keeps (Logged R (log ++ (skipped f a).map (Frame.pruningLine describe)) log') s s' w v) F
      (endEnter { options with debug := true } f.kind f.node? pruned)
      (endEnter { options with debug := false } f.kind f.node? pruned) := by
  intro w v hw
  cases pruned with
  | false =>
    refine ⟨rfl, hw.left, hw.right, hw.faces.1, ?_, hw.faces.2.2⟩
    exact hw.faces.2.1.trans (List.append_nil _).symm
  | true =>
    obtain ⟨s₁, hr, hk⟩ := ht w.store (trans_of keeps hs hw.left)
    rw [runOn_endEnter_logged rfl hr]
    exact ⟨rfl, trans_of keeps hw.left hk, hw.right, hw.faces.1,
      congrArg (· ++ [f.pruningLine describe]) hw.faces.2.1, hw.faces.2.2⟩

variable {R R' : σ → σ → Prop} {P : Frame → Prop} {visitor : Visitor σ} {kind : String}
  (h : visitor.LogBlind keeps s₀ R R' context P) (hf : f.kind = .text kind) (hp : P f)
  (hs : keeps s₀ s) (hs' : keeps s₀ s') (log log' : List String)
include h hf hp hs hs'

/-- A step into a frame with debug logging, and the same step without. -/
theorem Visitor.LogBlind.enters (ht : Reads keeps s₀ (Action.frameText f) (f.shown describe)) :
    Act.Pairs (Twin keeps (Logged R log log') s s')
      (fun a w b v => a = b ∧
        Twin keeps (Logged R (log ++ (skipped f a).map (Frame.pruningLine describe)) log') s s' w v)
      (FellAlike keeps (Logged R' log log') s s')
      (enterStep { options with debug := true } visitor context f.kind f.node?)
      (enterStep { options with debug := false } visitor context f.kind f.node?) := by
  have hlook := h log log' kind .enter false s s' hs hs'
  rw [← hf] at hlook
  rw [enterStep_eq, enterStep_eq]
  refine (hlook.mono (fun _ _ => id) (fun _ _ _ _ => id) fun _ _ _ _ => False.elim).bind
    fun hook? hook?' => ?_
  rintro w v ⟨hhooks, hw⟩
  cases hhooks with
  | none =>
    refine ⟨rfl, hw.left, hw.right, hw.faces.1, ?_, hw.faces.2.2⟩
    exact hw.faces.2.1.trans (List.append_nil _).symm
  | some hcalls =>
    exact ((hcalls f hf hp).judge_abort hs hs').bind_same (pairs_endEnter_debug ht hs) hw

/-- A step out of a frame logs nothing. -/
theorem Visitor.LogBlind.leaves :
    Act.Pairs (Twin keeps (Logged R log log') s s')
      (fun _ w _ v => Twin keeps (Logged R log log') s s' w v)
      (FellAlike keeps (Logged R' log log') s s')
      (leaveStep visitor context f.kind f.node?) (leaveStep visitor context f.kind f.node?) := by
  have hlook := h log log' kind .leave false s s' hs hs'
  rw [← hf] at hlook
  rw [leaveStep_eq]
  refine (hlook.mono (fun _ _ => id) (fun _ _ _ _ => id) fun _ _ _ _ => False.elim).bind
    fun hook? hook?' => ?_
  rintro w v ⟨hhooks, hw⟩
  cases hhooks with
  | none => exact hw
  | some hcalls =>
    exact ((hcalls f hf hp).judge_abort hs hs').bind (fun _ _ => Act.pairs_pure fun _ _ hw => hw.2) hw

end

/-! ### Steps with a record -/

/-- Related states beside the records of two walks that skipped the same, where the log of the first
walk tells just that. -/
def Told {σ : Type} (R : σ → σ → Prop) (describe : Value → String) (log log' : List String)
    (a b : Face (Traced σ)) : Prop :=
  R a.1.1 b.1.1 ∧ prunes a.1.2 = prunes b.1.2 ∧
    a.2 = log ++ (prunes a.1.2).map (Frame.pruningLine describe) ∧ b.2 = log'

section

variable {σ : Type} {R R' : σ → σ → Prop} {describe : Value → String} {log log' : List String}

/-- What two walks skipped in the same step is added to both records, and to the log of the first. -/
theorem Told.step {a b : Face (Traced σ)} (h : Told R describe log log' a b) {x y : σ}
    {marks marks' : List (Mark σ)} {l l' : List String} (hr : R' x y)
    (hsame : prunes marks = prunes marks')
    (hl : l = a.2 ++ (prunes marks).map (Frame.pruningLine describe)) (hl' : l' = b.2) :
    Told R' describe log log' ((x, a.1.2 ++ marks), l) ((y, b.1.2 ++ marks'), l') := by
  obtain ⟨-, hprunes, hlog, hlog'⟩ := h
  refine ⟨hr, ?_, ?_, hl'.trans hlog'⟩
  · rw [prunes_append, prunes_append, hprunes, hsame]
  · rw [hl, hlog, prunes_append, List.map_append, List.append_assoc]

variable {keeps : Store → Store → Prop} [IsPreorder Store keeps] {s₀ s s' : Store} {f : Frame}

/-- The record of a step: it tells what is skipped, which is nothing if the step fails. -/
def SkipsInRecord {α : Type} (skips : α → List Frame) (x' : Act (Traced σ) α) (x : Act σ α) : Prop :=
  ∀ w, ∃ seg, Act.Records x' x w seg ∧ prunes seg = match x.runOn w with
    | (.ok a, _) => skips a
    | (.error _, _) => []

omit [IsPreorder Store keeps] in
/-- Steps with a record, where the log of the first walk tells what is skipped. -/
theorem Act.Pairs.told {α : Type} {skips : α → List Frame} {x y : Act σ α} {x' y' : Act (Traced σ) α}
    (h : ∀ log log', Act.Pairs (Twin keeps (Logged R log log') s s')
      (fun a w b v => a = b ∧
        Twin keeps (Logged R (log ++ (skips a).map (Frame.pruningLine describe)) log') s s' w v)
      (FellAlike keeps (Logged R' log log') s s') x y)
    (hx : SkipsInRecord skips x' x) (hy : SkipsInRecord skips y' y) :
    Act.Pairs (Twin keeps (Told R describe log log') s s')
      (fun a w b v => a = b ∧ Twin keeps (Told R describe log log') s s' w v)
      (FellAlike keeps (Told R' describe log log') s s') x' y' := by
  intro w v hw
  have hrun := h w.log v.log (w := w.forget) (v := v.forget)
    ⟨hw.left, hw.right, hw.faces.1, rfl, rfl⟩
  obtain ⟨seg, hrec, hseg⟩ := hx w.forget
  obtain ⟨seg', hrec', hseg'⟩ := hy v.forget
  have hr : x'.runOn w = _ := hrec w.state.2
  have hr' : y'.runOn v = _ := hrec' v.state.2
  rw [hr, hr']
  revert hrun hseg hseg'
  rcases x.runOn w.forget with ⟨halt | a, w₁⟩
  · rcases y.runOn v.forget with ⟨halt' | b, v₁⟩
    · rintro ⟨failed, hfell, hfell', hface, hlog, hlog'⟩ hseg hseg'
      refine ⟨failed, hfell, hfell', hw.faces.step hface (hseg.trans hseg'.symm) ?_ hlog'⟩
      rw [hseg]
      exact hlog.trans (List.append_nil _).symm
    · exact False.elim
  · rcases y.runOn v.forget with ⟨halt' | b, v₁⟩
    · exact False.elim
    · rintro ⟨rfl, htwin⟩ hseg hseg'
      obtain ⟨hface, hlog, hlog'⟩ := htwin.faces
      refine ⟨rfl, htwin.left, htwin.right, hw.faces.step hface (hseg.trans hseg'.symm) ?_ hlog'⟩
      rw [hseg]
      exact hlog

/-- The record of a step beside what it skips. -/
theorem prunes_around (visitor : Visitor σ) (context : Value) (d : Direction) (f : Frame)
    (above : Path) (w : World σ) {first : Mark σ} (rest : List (Mark σ))
    (hfirst : first.pruned? = none) :
    prunes (first :: hookMarks visitor context d f above w ++ rest) = prunes rest := by
  rw [prunes_append]
  unfold prunes
  rw [List.filterMap_cons_none hfirst]
  exact congrArg (· ++ _) (prunes_hookMarks visitor context d f above w)

theorem skipsInRecord_enter (options : WalkOptions) (visitor : Visitor σ) (context : Value)
    (f : Frame) (above : Path) :
    SkipsInRecord (skipped f) (tracedEnter options visitor context f above)
      (enterStep options visitor context f.kind f.node?) := by
  intro w
  rcases hr : (enterStep options visitor context f.kind f.node?).runOn w with ⟨halt | pruned, w₁⟩
  · exact ⟨_, records_tracedEnter_error above hr, prunes_around _ _ _ _ _ _ _ rfl⟩
  · refine ⟨_, records_tracedEnter_ok above hr, (prunes_around _ _ _ _ _ _ _ rfl).trans ?_⟩
    cases pruned with
    | true => rfl
    | false => rfl

theorem skipsInRecord_leave (visitor : Visitor σ) (context : Value) (f : Frame) (above : Path) :
    SkipsInRecord (fun _ => []) (tracedLeave visitor context f above)
      (leaveStep visitor context f.kind f.node?) := by
  intro w
  rcases hr : (leaveStep visitor context f.kind f.node?).runOn w with ⟨halt | ⟨⟩, w₁⟩
  · exact ⟨_, records_tracedLeave_error above hr, prunes_around _ _ _ _ _ _ _ rfl⟩
  · refine ⟨_, records_tracedLeave_ok above hr, ?_⟩
    have hnone : prunes (.left (f :: above) :: hookMarks visitor context .leave f above w ++ []) = [] :=
      prunes_around _ _ _ _ _ _ _ rfl
    rwa [List.append_nil] at hnone

end

/-! ### Walks -/

/-- While trees are kept, what a walk writes to the log can be written: lists are named by their kinds,
nodes are described by `describe`. -/
structure View.Described (view : View) (keeps : Store → Store → Prop) (s₀ : Store) (table : WalkTable)
    (root : Value) (describe : Value → String) : Prop where
  node : ∀ {v}, view.Reached table root v → Reads keeps s₀ (Action.describedText v) (describe v)
  list : ∀ {v key listKind}, view.Walked table root v key listKind →
    Reads keeps s₀ (Action.text (.text (listKind ++ "_list"))) (listKind ++ "_list")
  root : ∀ s, keeps s₀ s →
    Store.Gives Store.KeepsObjects s (Action.describedText root) (describe root)

section

variable {keeps : Store → Store → Prop} {s₀ : Store} {view : View} {table : WalkTable}
  {root : Value} {describe : Value → String} {f : Frame}

theorem View.Described.frame (hD : view.Described keeps s₀ table root describe)
    (hf : view.Meets table root f) : Reads keeps s₀ (Action.frameText f) (f.shown describe) := by
  cases hf with
  | root => exact hD.node .root
  | list h => exact hD.list h
  | variant _ h => exact hD.node h.reached
  | node h => exact hD.node h.reached

theorem View.Meets.kind (hf : view.Meets table root f) : ∃ kind, f.kind = .text kind := by
  cases hf with
  | root => exact ⟨_, rfl⟩
  | list => exact ⟨_, rfl⟩
  | variant => exact ⟨_, rfl⟩
  | node => exact ⟨_, rfl⟩

variable {σ : Type} [IsPreorder Store keeps] {options : WalkOptions} {context : Value}
  {R R' : σ → σ → Prop} {visitor : Visitor σ}

/-- The steps of a walk with debug logging and those of one without. -/
theorem Visitor.LogBlind.together (h : visitor.LogBlind keeps s₀ R R' context (view.Meets table root))
    (hfalls : ∀ {a b}, R a b → R' a b) (hD : view.Described keeps s₀ table root describe)
    (log log' : List String) :
    StepsTogether options true false context keeps s₀ visitor visitor (view.Meets table root)
      (Told R describe log log') (Told R' describe log log') where
  fails {w v} hr place := by
    have hnone : prunes [(.failed place : Mark σ)] = [] := rfl
    refine hr.step (hfalls hr.1) rfl ?_ rfl
    rw [hnone]
    exact (List.append_nil _).symm
  enters {f} hf above s s' hs hs' := by
    obtain ⟨kind, hkind⟩ := hf.kind
    exact Act.Pairs.told (fun log log' => h.enters hkind hf hs hs' log log' (hD.frame hf))
      (skipsInRecord_enter _ visitor context f above) (skipsInRecord_enter _ visitor context f above)
  leaves {f} hf above s s' hs hs' := by
    obtain ⟨kind, hkind⟩ := hf.kind
    have hskips := skipsInRecord_leave visitor context f above
    refine (Act.Pairs.told (fun log log' => ?_) hskips hskips).mono (fun _ _ => id)
      (fun _ _ _ _ hw => hw.2) fun _ _ _ _ => id
    refine (h.leaves hkind hf hs hs' log log').mono (fun _ _ => id) (fun _ w _ v hw => ⟨rfl, ?_⟩)
      fun _ _ _ _ => id
    rwa [List.map_nil, List.append_nil]

end

/-- Two walks end in the same way. -/
def SameEnd {σ : Type} : Except Halt Unit × World σ → Except Halt Unit × World σ → Prop
  | (.ok _, _), (.ok _, _) => True
  | (.error halt, w), (.error halt', v) =>
    ∃ failed, Failed.Seen w.store halt failed ∧ Failed.Seen v.store halt' failed
  | _, _ => False

section

variable {σ : Type} (options : WalkOptions) (context root : Value) (w : World σ)

/-- The walk of a visitor, with debug logging or without. -/
def Visitor.runDebug (debug : Bool) (visitor : Visitor σ) : Except Halt Unit × World σ :=
  (walk { options with debug } visitor context root).runOn w

/-- The walk of a visitor has this record. -/
def Visitor.Leaves (debug : Bool) (visitor : Visitor σ) (marks : List (Mark σ)) : Prop :=
  (tracedWalk { options with debug } visitor context root).runOn (w.traced []) =
    ((visitor.runDebug options context root w debug).1,
      (visitor.runDebug options context root w debug).2.traced marks)

/-- The debug log of a walk: a line for each frame at which it is pruned, in order, and what tells its
end. Without debug logging the same is pruned, and nothing is logged. -/
structure LogsExactly (describe : Value → String) (visitor : Visitor σ) : Prop where
  lines : ∃ marks marks' last, visitor.Leaves options context root w true marks ∧
    visitor.Leaves options context root w false marks' ∧ prunes marks = prunes marks' ∧
    (visitor.runDebug options context root w true).2.log =
      w.log ++ (prunes marks).map (Frame.pruningLine describe) ++ last ∧
    TellsEnd (describe root) last (visitor.runDebug options context root w true)
  silent : (visitor.runDebug options context root w false).2.log = w.log

/-- The walk of a visitor with debug logging makes the same calls as without and ends in the same way,
and its log is exact. Here `recorded` is the visitor with a record of its calls. -/
structure DebugInert (describe : Value → String) (visitor : Visitor σ)
    (recorded : Visitor (σ × List Note)) : Prop
    extends LogsExactly options context root w describe visitor where
  calls : ∃ notes, ∀ debug, recorded.runDebug options context root (w.traced []) debug =
    ((visitor.runDebug options context root w debug).1,
      (visitor.runDebug options context root w debug).2.traced notes)
  outcome : SameEnd (visitor.runDebug options context root w true)
    (visitor.runDebug options context root w false)

end

section

variable {keeps : Store → Store → Prop} {s₀ : Store} {view : View} {troubles : Troubles}
  {root : Value} {describe : Value → String} {σ : Type} [IsPreorder Store keeps]
  {options : WalkOptions} {context : Value} {R R' : σ → σ → Prop} {visitor : Visitor σ} {w : World σ}

/-- A walk with debug logging and the same walk without. -/
theorem Visitor.LogBlind.walk
    (h : visitor.LogBlind keeps s₀ R R' context (view.Meets options.table root))
    (hfalls : ∀ {a b}, R a b → R' a b)
    (hS : view.Stands keeps s₀ { options with debug := false } root)
    (hT : view.Troubled troubles keeps s₀ { options with debug := false } root)
    (hD : view.Described keeps s₀ options.table root describe) (hw : keeps s₀ w.store)
    (hr : R w.state w.state) :
    LogsExactly options context root w describe visitor ∧
    R' (visitor.runDebug options context root w true).2.state
      (visitor.runDebug options context root w false).2.state ∧
    SameEnd (visitor.runDebug options context root w true)
      (visitor.runDebug options context root w false) := by
  obtain ⟨marks, hon⟩ : ∃ marks, visitor.Leaves options context root w true marks :=
    tracedWalk_forget { options with debug := true } visitor context root w
  obtain ⟨marks', hoff⟩ : ∃ marks, visitor.Leaves options context root w false marks :=
    tracedWalk_forget { options with debug := false } visitor context root w
  have hsteps : StepsTogether { options with debug := false } true false context keeps s₀ visitor visitor
      _ _ _ := h.together hfalls hD w.log w.log
  have hend := hsteps.walk hS hT hD.root (w := w.traced []) (v := w.traced []) hw hw
    ⟨hr, rfl, (List.append_nil _).symm, rfl⟩
  have hruns : EndAlike { options with debug := true } { options with debug := false } (describe root)
      (Told R describe w.log w.log) (Told R' describe w.log w.log)
      ((visitor.runDebug options context root w true).1,
        (visitor.runDebug options context root w true).2.traced marks)
      ((visitor.runDebug options context root w false).1,
        (visitor.runDebug options context root w false).2.traced marks') := by
    rw [← hon, ← hoff]
    exact hend
  have hall : prunes marks = prunes marks' ∧ (∃ last,
        (visitor.runDebug options context root w true).2.log =
          w.log ++ (prunes marks).map (Frame.pruningLine describe) ++ last ∧
        TellsEnd (describe root) last (visitor.runDebug options context root w true)) ∧
      (visitor.runDebug options context root w false).2.log = w.log ∧
      R' (visitor.runDebug options context root w true).2.state
        (visitor.runDebug options context root w false).2.state ∧
      SameEnd (visitor.runDebug options context root w true)
        (visitor.runDebug options context root w false) := by
    revert hruns
    rcases visitor.runDebug options context root w true with ⟨halt | _, w₁⟩
    · rcases visitor.runDebug options context root w false with ⟨halt' | _, v₁⟩
      · rintro ⟨failed, ⟨a, l⟩, ⟨b, l'⟩, ⟨hrel, hsame, hlog, hlog'⟩, ha, hb, hseen, hseen'⟩
        obtain ⟨rfl, hl⟩ := Prod.mk.inj ha
        obtain ⟨rfl, hl'⟩ := Prod.mk.inj hb
        rw [Failed.abortedLines_silent rfl, List.append_nil] at hl'
        refine ⟨hsame, ⟨_, hl.trans (congrArg (· ++ _) hlog), ?_⟩, hl'.trans hlog', hrel, failed, hseen,
          hseen'⟩
        exact Failed.Seen.tellsEnd rfl _ (w := w₁) hseen
      · exact False.elim
    · rcases visitor.runDebug options context root w false with ⟨halt' | _, v₁⟩
      · exact False.elim
      · rintro ⟨hrel, hsame, hlog, hlog'⟩
        exact ⟨hsame, ⟨[], hlog.trans (List.append_nil _).symm, rfl⟩, hlog', hfalls hrel, trivial⟩
  obtain ⟨hsame, ⟨last, hlog, hlast⟩, hsilent, hrel, hends⟩ := hall
  exact ⟨⟨⟨marks, marks', last, hon, hoff, hsame, hlog, hlast⟩, hsilent⟩, hrel, hends⟩

end

/-! ### Records of calls -/

section

variable {keeps : Store → Store → Prop} {s₀ : Store} {σ : Type} {context : Value}
  {R R' : σ → σ → Prop} {P : Frame → Prop} {visitor : Visitor σ}

/-- Related states, beside records that are the same. -/
def SameNotes (R : σ → σ → Prop) (a b : σ × List Note) : Prop :=
  R a.1 b.1 ∧ a.2 = b.2

theorem noted_logged (R : σ → σ → Prop) (log log' : List String) :
    Noted (Logged R log log') = Logged (SameNotes R) log log' :=
  funext fun _ => funext fun _ => propext and_right_comm

theorem Visitor.LogBlind.recorded (h : visitor.LogBlind keeps s₀ R R' context P) (i : Nat) :
    (visitor.recorded i).LogBlind keeps s₀ (SameNotes R) (SameNotes R') context P := by
  intro log log'
  rw [← noted_logged, ← noted_logged]
  exact (h log log').recorded i

theorem SharesBooks.logged {books : Part σ Bookkeeping} (hbooks : SharesBooks books books (Beside R))
    (log log' : List String) : SharesBooks books books (Logged R log log') where
  get {a b} hr := hbooks.get (a := (a.1, [])) (b := (b.1, [])) ⟨hr.1, rfl⟩
  set {a b} x hr := ⟨(hbooks.set (a := (a.1, [])) (b := (b.1, [])) x ⟨hr.1, rfl⟩).1, hr.2⟩

variable [IsPreorder Store keeps] {books : Part σ Bookkeeping} {members : List (Visitor σ)}
  (hbooks : SharesBooks books books (Beside R))
  (h : ∀ m ∈ members, m.LogBlind keeps s₀ R R' context P)
include hbooks h

/-- Visitors in lockstep do not depend on the log if their members do not. -/
theorem logBlind_lockstep : (lockstep books members).LogBlind keeps s₀ R R' context P :=
  fun log log' => alike_lockstep (hbooks.logged log log')
    (List.forall₂_same.mpr fun m hm => h m hm log log')

theorem logBlind_recordedLockstep :
    (recordedLockstep books members).LogBlind keeps s₀ (SameNotes R) (SameNotes R') context P := by
  intro log log'
  rw [← noted_logged, ← noted_logged]
  have hmembers := List.forall₂_same.mpr fun m hm => h m hm log log'
  have hrecorded := forall₂_mapIdx hmembers fun i _ _ h => h.recorded i
  exact (alike_lockstep (hbooks.logged log log').noted hrecorded).announced (noteOf none)

end

/-! ### The debug log -/

section

variable {keeps : Store → Store → Prop} [IsPreorder Store keeps] {s₀ : Store} {view : View}
  {troubles : Troubles} {root : Value} {describe : Value → String} {σ : Type} {options : WalkOptions}
  {context : Value} {R : σ → σ → Prop} {w : World σ}
  (hS : view.Stands keeps s₀ { options with debug := false } root)
  (hT : view.Troubled troubles keeps s₀ { options with debug := false } root)
  (hD : view.Described keeps s₀ options.table root describe) (hw : keeps s₀ w.store)
  (hr : R w.state w.state)
include hS hT hD hw hr

theorem DebugInert.of_logBlind {visitor : Visitor σ} {recorded : Visitor (σ × List Note)}
    (h : visitor.LogBlind keeps s₀ R (fun _ _ => True) context (view.Meets options.table root))
    (hrecorded : recorded.LogBlind keeps s₀ (SameNotes R) (SameNotes fun _ _ => True) context
      (view.Meets options.table root))
    (hrun : ∀ debug, ∃ notes, recorded.runDebug options context root (w.traced []) debug =
      ((visitor.runDebug options context root w debug).1,
        (visitor.runDebug options context root w debug).2.traced notes)) :
    DebugInert options context root w describe visitor recorded := by
  obtain ⟨hexact, -, hends⟩ := h.walk (fun _ => trivial) hS hT hD hw hr
  obtain ⟨-, ⟨-, hnotes⟩, -⟩ := hrecorded.walk (w := w.traced []) (fun hr => ⟨trivial, hr.2⟩) hS hT hD
    hw ⟨hr, rfl⟩
  obtain ⟨notes, hon⟩ := hrun true
  obtain ⟨notes', hoff⟩ := hrun false
  rw [hon, hoff] at hnotes
  obtain rfl : notes = notes' := hnotes
  exact { hexact with
    calls := ⟨notes, fun debug => by cases debug with | true => exact hon | false => exact hoff⟩
    outcome := hends }

variable (context) in
/-- **Debug logging is inert and exact.** A walk with debug logging makes the same calls as without and
ends in the same way, for a visitor by itself and for visitors in lockstep whose methods do not depend
on the log. Without debug logging nothing is logged; with it, one line for each frame at which the walk
is pruned, in order, and then one with the final text of the failure report that ends the walk, if one
does. -/
theorem debug_inert :
    (∀ visitor : Visitor σ,
      visitor.LogBlind keeps s₀ R (fun _ _ => True) context (view.Meets options.table root) →
      DebugInert options context root w describe visitor (visitor.recorded 0)) ∧
    ∀ (books : Part σ Bookkeeping) (members : List (Visitor σ)),
      SharesBooks books books (Beside R) →
      (∀ m ∈ members,
        m.LogBlind keeps s₀ R (fun _ _ => True) context (view.Meets options.table root)) →
      DebugInert options context root w describe (lockstep books members)
        (recordedLockstep books members) := by
  refine ⟨fun visitor h => ?alone, fun books members hbooks h => ?together⟩
  case alone =>
    refine .of_logBlind hS hT hD hw hr h (h.recorded 0) fun debug => ?_
    obtain ⟨notes, hrun, -⟩ := recorded_run { options with debug } context root w 0 visitor
    exact ⟨notes, hrun⟩
  case together =>
    exact .of_logBlind hS hT hD hw hr (logBlind_lockstep hbooks h) (logBlind_recordedLockstep hbooks h)
      fun debug => recordedLockstep_run { options with debug } context root w books members

end

/-! ### Trees of the language -/

namespace Store

variable {s : Store}

/-- The names of all nodes of a store are values without parts. -/
def namesPlainly (s : Store) : Bool :=
  s.cells.toList.all fun
    | .node n => n.hasPlainName
    | _ => true

/-- How a node with a plain name is described. -/
def nodeDescription (s : Store) (v : Value) : String :=
  match s.node? v with
  | some n => "<" ++ n.writtenForm ++ ">"
  | none => ""

/-- A node of a tree of the language, wherever trees are kept. -/
theorem Ordinary.gives_describedText {table : WalkTable} (h : s.Ordinary table)
    (hn : s.namesPlainly = true) {v : Value} {n : NodeObject} (hv : s.node? v = some n) {s' : Store} (hs : s.KeepsTrees s') :
    Gives KeepsObjects s' (Action.describedText v) (s.nodeDescription v) := by
  obtain ⟨r, rfl, hr, -⟩ := h.node hv
  have hname : n.hasPlainName = true :=
    List.all_eq_true.mp hn (.node n) (Array.mem_toList_iff.mpr (Array.mem_of_getElem? hr.cell))
  obtain ⟨_, hr'⟩ := hr.keepsTrees hs
  unfold nodeDescription
  rw [hv]
  exact hr'.gives_describedText hname

/-- The nodes of a tree of the language can be described as long as trees are kept. -/
theorem view_described {keeps : Store → Store → Prop} [IsPreorder Store keeps] (hk : TreeKeeping keeps)
    {table : WalkTable} {root : Value} (h : s.Ordinary table) (hn : s.namesPlainly = true)
    (hroot : ∃ n, s.node? root = some n) :
    s.view.Described keeps s table root s.nodeDescription where
  node hv := by
    obtain ⟨n, hv⟩ := Ordinary.node?_of_reached hroot hv
    intro s' hs
    obtain ⟨s'', hrun, hg⟩ := (h.gives_describedText hn hv (hk.keepsTrees hs)).perform
      (refl_of KeepsObjects s') (Nat.le_refl _)
    exact ⟨s'', hrun, hk.of_grows hg⟩
  list _ s' hs := by
    refine ⟨s', ?_, refl_of keeps s'⟩
    rw [Action.runOn_perform, s'.depthLimit_eq]
    exact runOn_text_text ((hk.keepsTrees hs).classAttrs.trans h.classAttrs) _
  root s' hs := by
    obtain ⟨n, hv⟩ := hroot
    exact h.gives_describedText hn hv (hk.keepsTrees hs)

end Store

/-- A visitor that skips object definitions, one that fails for a field, and both in lockstep. -/
theorem debug_inert_smallSchema :
    let skips : Visitor Bookkeeping := entering "object_definition" (pure .skip)
    let fails : Visitor Bookkeeping := raisingVisitor "object_field_definition" "boom"
    let start : World Bookkeeping := ⟨.smallSchema, [], .fresh 2⟩
    let describe := Store.smallSchema.nodeDescription
    DebugInert .standard .null (.ref 0) start describe skips (skips.recorded 0) ∧
    DebugInert .standard .null (.ref 0) start describe fails (fails.recorded 0) ∧
    DebugInert .standard .null (.ref 0) start describe
      (lockstep ⟨id, fun b _ => b⟩ [skips, fails])
      (recordedLockstep ⟨id, fun b _ => b⟩ [skips, fails]) := by
  intro skips fails start describe
  have htroubled : Store.smallSchema.view.Troubled _ Store.Grows _ .standard (.ref 0) :=
    Store.view_troubled Store.treeKeeping_grows Store.smallSchema_ordinary rfl rfl
      ⟨fun _ => .tooDeep, fun _ _ => .tooDeep, fun _ _ => .tooDeep⟩
  have hdescribed : Store.smallSchema.view.Described Store.Grows _ _ (.ref 0) describe :=
    Store.view_described Store.treeKeeping_grows Store.smallSchema_ordinary (by decide +kernel)
      ⟨_, rfl⟩
  have hskips : skips.LogBlind Store.Grows .smallSchema Eq (fun _ _ => True) .null
      (Store.smallSchema.view.Meets WalkOptions.standard.table (.ref 0)) := fun log log' =>
    entering_alike fun f hf s s' hs hs' w v hw => ⟨.goesOn true, .goesOn true, rfl, rfl, rfl, hw⟩
  have hfails : fails.LogBlind Store.Grows .smallSchema Eq (fun _ _ => True) .null
      (Store.smallSchema.view.Meets WalkOptions.standard.table (.ref 0)) := fun log log' =>
    raisingVisitor_alike (fun hr => ⟨trivial, hr.2⟩) rfl _ (by decide)
  have hinert := debug_inert (R := Eq) (w := start) .null Store.smallSchema_stands htroubled
    hdescribed (refl_of Store.Grows _) rfl
  refine ⟨hinert.1 skips hskips, hinert.1 fails hfails, hinert.2 _ [skips, fails] ⟨?_, ?_⟩ ?_⟩
  · exact fun hr => hr.1
  · exact fun x hr => ⟨rfl, hr.2⟩
  · intro m hm
    rw [List.mem_pair] at hm
    obtain rfl | rfl := hm
    · exact hskips
    · exact hfails

example : ((entering "object_definition" (pure .skip)).runDebug .standard .null (.ref 0)
    ⟨.smallSchema, [], Bookkeeping.fresh 2⟩ true).2.log = ["Pruning <ObjectDefinitionNode>."] := by
  decide +kernel

end GraphQLTree
