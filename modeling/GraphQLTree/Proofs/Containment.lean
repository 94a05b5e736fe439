import GraphQLTree.Proofs.Course
import GraphQLTree.Proofs.Description

/-! # Failures stay reports

A walk over a tree of the language fails with a failure report and with nothing else
(`walk_contained`), whatever its visitor answers and whatever errors its methods raise, as long as
reading the prune signal of such an error does not fail and an error without a signal can be told
about (`Store.Manageable`). Visitors in lockstep are as tame as their members
(`tame_lockstep`). An error whose prune signal cannot be read gets out as it is
(`walk_contained_unreadable`).

Methods may change the store as they like, but for the nodes of the tree, their child sequences and
what classes provide (`Store.KeepsTrees`). -/

namespace GraphQLTree

/-! ### Errors -/

namespace Store

/-- A failure report; its message and its stages are texts if that is asked for. -/
structure Telling (debug : Bool) (s : Store) (r l : Ref) (stages : List Value) : Prop where
  report : s.Report r l stages
  texts : debug = true → ∃ report attrs, s.IsReport r report attrs ∧
    attrs.lookup "stages" = some (.ref l) ∧ (∃ text, attrs.lookup "message" = some (.text text)) ∧
    ∃ texts : List String, stages = texts.map .text

/-- An error that is a failure report, or of which one can be made. -/
def Tellable (debug : Bool) (s : Store) (e : Ref) : Prop :=
  (∃ message isTrue, s.Tells e message isTrue ∧ (debug = true → ∃ text, message = .text text)) ∨
    ∃ l stages, s.Telling debug e l stages

/-- However often the prune signal of an error is read, that does not fail and keeps the trees; and
whenever there is none, the error is one that can be told about. -/
def Manageable (debug : Bool) (s : Store) (e : Ref) : Prop :=
  ∃ P : Store → Prop, P s ∧ ∀ s', P s' → Effect.isErrorOf .general s' e = true ∧
    ∃ signal? s'', (Action.pruneSignal (.ref e)).perform.runOn s' = (.ok signal?, s'') ∧
      s'.KeepsTrees s'' ∧ P s'' ∧ (signal? = none → s''.Tellable debug e)

variable {debug : Bool} {s s' : Store} {r l : Ref} {stages : List Value}

/-- A report that gets one more stage. -/
theorem Telling.add (h : s.Telling debug r l stages) (hk : s.KeepsObjects s') {stage : Stage}
    (hr : s'.Report r l (.text stage.text :: stages)) :
    s'.Telling debug r l (.text stage.text :: stages) := by
  refine ⟨hr, fun hd => ?_⟩
  obtain ⟨report, attrs, hreport, hs, hm, texts, rfl⟩ := h.texts hd
  exact ⟨report, attrs, hreport.keepsObjects hk, hs, hm, stage.text :: texts, rfl⟩

end Store

/-! ### Contained steps -/

/-- What a method may fail with: an error that the walk can manage. -/
def Managed (debug : Bool) (halt : Halt) (s : Store) : Prop :=
  ∃ e, halt = .raised e ∧ s.Manageable debug e

/-- What a walk may fail with: a failure report. -/
def Reported (debug : Bool) (halt : Halt) (s : Store) : Prop :=
  ∃ r l stages, halt = .raised r ∧ s.Telling debug r l stages

namespace Act

variable {σ α β : Type} {F : Halt → Store → Prop} {s₀ s₁ : Store}

/-- A run that keeps the trees of `s`, and that fails only as `F` allows. -/
def Ends (F : Halt → Store → Prop) (s : Store) : Except Halt α × World σ → Prop
  | (.ok _, w) => s.KeepsTrees w.store
  | (.error halt, w) => s.KeepsTrees w.store ∧ F halt w.store

theorem Ends.after {s : Store} {run : Except Halt α × World σ} (h : Ends F s run)
    (hs : s₀.KeepsTrees s) : Ends F s₀ run := by
  obtain ⟨halt | a, w⟩ := run
  · exact ⟨trans_of Store.KeepsTrees hs h.1, h.2⟩
  · exact trans_of Store.KeepsTrees hs h

/-- A step that keeps trees and fails only as `F` allows, wherever the trees of `s₀` are kept. -/
def Contained (F : Halt → Store → Prop) (s₀ : Store) (act : Act σ α) : Prop :=
  ∀ w, s₀.KeepsTrees w.store → Ends F w.store (act.runOn w)

theorem Contained.mono {act : Act σ α} (h : Contained F s₀ act) (hs : s₀.KeepsTrees s₁) :
    Contained F s₁ act :=
  fun w hw => h w (trans_of Store.KeepsTrees hs hw)

theorem contained_pure (a : α) : Contained (σ := σ) F s₀ (pure a) :=
  fun _ _ => refl_of Store.KeepsTrees _

/-- After a step that succeeds. -/
theorem contained_after {x : Act σ α} {f : α → Act σ β}
    (h : ∀ w, s₀.KeepsTrees w.store → ∃ a w', x.runOn w = (.ok a, w') ∧
      w.store.KeepsTrees w'.store ∧ Contained F w'.store (f a)) : Contained F s₀ (x >>= f) := by
  intro w hw
  obtain ⟨a, w', hr, hk, hf⟩ := h w hw
  rw [runOn_bind_ok hr]
  exact (hf w' (refl_of Store.KeepsTrees _)).after hk

theorem Contained.bind {x : Act σ α} {f : α → Act σ β} (hx : Contained F s₀ x)
    (hf : ∀ a, Contained F s₀ (f a)) : Contained F s₀ (x >>= f) := by
  intro w hw
  have h := hx w hw
  rw [runOn_bind]
  revert h
  rcases x.runOn w with ⟨halt | a, w'⟩
  · exact id
  · exact fun hk => (hf a w' (trans_of Store.KeepsTrees hw hk)).after hk

/-- After reading something. -/
theorem contained_read {act : Action α} {f : α → Act σ β}
    (h : ∀ s, s₀.KeepsTrees s → ∃ a s', act.perform.runOn s = (.ok a, s') ∧ s.KeepsTrees s' ∧
      Contained F s' (f a)) : Contained F s₀ (liftM act >>= f) := by
  refine contained_after fun w hw => ?_
  obtain ⟨a, s', hr, hk, hf⟩ := h w.store hw
  refine ⟨a, { w with store := s' }, ?_, hk, hf⟩
  rw [runOn_action, hr]

theorem contained_reading {act : Action α} {a : α} (h : Reads Store.KeepsTrees s₀ act a) :
    Contained (σ := σ) F s₀ (liftM act) := by
  intro w hw
  obtain ⟨s', hr, hk⟩ := h w.store hw
  rw [runOn_action, hr]
  exact hk

theorem contained_reads {act : Action α} {a : α} {f : α → Act σ β}
    (h : Reads Store.KeepsTrees s₀ act a) (hf : Contained F s₀ (f a)) :
    Contained F s₀ (liftM act >>= f) := by
  refine contained_read fun s hs => ?_
  obtain ⟨s', hr, hk⟩ := h s hs
  exact ⟨a, s', hr, hk, hf.mono (trans_of Store.KeepsTrees hs hk)⟩

theorem contained_forM {l : List α} {f : α → Act σ Unit} (h : ∀ a ∈ l, Contained F s₀ (f a)) :
    Contained F s₀ (l.forM f) := by
  induction l with
  | nil => exact contained_pure ()
  | cons a l ih =>
    refine (h a (List.mem_cons_self ..)).bind fun _ => ?_
    exact ih fun b hb => h b (List.mem_cons_of_mem a hb)

theorem Contained.framed {enter : Act σ Bool} {inner leave : Act σ Unit}
    (he : Contained F s₀ enter) (hi : Contained F s₀ inner) (hl : Contained F s₀ leave) :
    Contained F s₀ (Act.framed enter inner leave) := by
  refine he.bind fun pruned => ?_
  cases pruned with
  | true => exact hl
  | false => exact hi.bind fun _ => hl

/-- A method is judged: an error without a prune signal is left to `fatal`. -/
theorem Contained.judge {debug : Bool} {run : Act σ Value} {fatal : Ref → Act σ Bool}
    (hx : Contained (Managed debug) s₀ run)
    (hf : ∀ e w, s₀.KeepsTrees w.store → w.store.Manageable debug e → w.store.Tellable debug e →
      Ends F w.store ((fatal e).runOn w)) : Contained F s₀ (Act.judge run fatal) := by
  have hanswer : Contained (Managed debug) s₀
      (run >>= fun answer => pure (Action.asksToPrune answer)) :=
    hx.bind fun _ => contained_pure _
  intro w hw
  have hrun := hanswer w hw
  unfold Act.judge Act.handle
  rw [runOn_tryCatch]
  revert hrun
  rcases (run >>= fun answer => pure (Action.asksToPrune answer)).runOn w with ⟨halt | a, w₁⟩
  · rintro ⟨hk, e, rfl, P, hP, hread⟩
    obtain ⟨hg, signal?, s₂, hr, hk₂, hP₂, htell⟩ := hread _ hP
    have hsignal : (liftM (Action.pruneSignal (.ref e)) : Act σ _).runOn w₁ =
        (.ok signal?, { w₁ with store := s₂ }) := by
      rw [runOn_action, hr]
    have hk' := trans_of Store.KeepsTrees hk hk₂
    dsimp only
    rw [runOn_bind_ok (runOn_store w₁), if_pos hg, runOn_bind_ok hsignal]
    cases signal? with
    | some prune => exact hk'
    | none =>
      exact (hf e { w₁ with store := s₂ } (trans_of Store.KeepsTrees hw hk') ⟨P, hP₂, hread⟩
        (htell rfl)).after hk'
  · exact id

/-- Noting something on the reports of a step that are told about all the same. -/
theorem Contained.onReport {debug : Bool} {act : Act σ α} {note : Ref → Act σ Unit}
    (h : Contained (Reported debug) s₀ act)
    (hn : ∀ r l stages w, s₀.KeepsTrees w.store → w.store.Telling debug r l stages →
      ∃ w' stages', FailedRun.noted note (.raised r, w) = (.raised r, w') ∧
        w.store.KeepsTrees w'.store ∧ w'.store.Telling debug r l stages') :
    Contained (Reported debug) s₀ (Act.onReport act note) := by
  intro w hw
  have hrun := h w hw
  rcases he : act.runOn w with ⟨halt | a, w₁⟩
  · rw [he] at hrun
    obtain ⟨hk, r, l, stages, rfl, ht⟩ := hrun
    obtain ⟨w₂, stages', hnoted, hk', ht'⟩ :=
      hn r l stages w₁ (trans_of Store.KeepsTrees hw hk) ht
    rw [onReport_noted he, hnoted]
    exact ⟨trans_of Store.KeepsTrees hk hk', r, l, stages', rfl, ht'⟩
  · rw [onReport_ok he]
    rwa [he] at hrun

/-- A step whose reports pass a stage. -/
theorem Contained.within {debug : Bool} {act : Act σ α} (h : Contained (Reported debug) s₀ act)
    (stage : Stage) : Contained (Reported debug) s₀ (Act.within stage act) := by
  refine h.onReport fun r l stages w _ ht => ?_
  obtain ⟨w', hnoted, hk, hr⟩ := noted_stage ht.report stage
  exact ⟨w', _, hnoted, hk.keepsTrees, ht.add hk hr⟩

end Act

/-! ### Tame visitors -/

/-- Methods keep the trees of `s₀`, and fail only with errors that the walk can manage; looking them
up does not fail. -/
def Visitor.Tame {σ : Type} (debug : Bool) (s₀ : Store) (visitor : Visitor σ) : Prop :=
  ∀ kind direction relayed w, s₀.KeepsTrees w.store →
    ∃ hook? w', (visitor.hook? ⟨.text kind, direction, relayed⟩).runOn w = (.ok hook?, w') ∧
      w.store.KeepsTrees w'.store ∧
      ∀ hook, hook? = some hook → ∀ args, Act.Contained (Managed debug) s₀ (hook args)

theorem Visitor.Tame.mono {σ : Type} {debug : Bool} {s₀ s₁ : Store} {visitor : Visitor σ}
    (h : visitor.Tame debug s₀) (hs : s₀.KeepsTrees s₁) : visitor.Tame debug s₁ := by
  intro kind direction relayed w hw
  obtain ⟨hook?, w', hr, hk, hh⟩ := h kind direction relayed w (trans_of Store.KeepsTrees hs hw)
  exact ⟨hook?, w', hr, hk, fun hook hhook args => (hh hook hhook args).mono hs⟩

/-! ### Visitors in lockstep -/

section

variable {σ : Type} {debug : Bool} {s₀ : Store} {F : Halt → Store → Prop}
  (books : Part σ Bookkeeping)

theorem contained_change (f : Bookkeeping → Bookkeeping) : Act.Contained F s₀ (books.change f) :=
  fun _ _ => refl_of Store.KeepsTrees _

theorem contained_books : Act.Contained F s₀ books.read :=
  fun _ _ => refl_of Store.KeepsTrees _

/-- A method of a member: its error stays as it is. -/
theorem contained_member {run : Act σ Value} (h : Act.Contained (Managed debug) s₀ run) :
    Act.Contained (Managed debug) s₀ (Act.judge run Lockstep.rethrow) :=
  h.judge fun e _ _ hm _ => ⟨refl_of Store.KeepsTrees _, e, rfl, hm⟩

section

variable {hook? : Option (Hook σ)} {args : List Value}
  (hh : ∀ hook, hook? = some hook → Act.Contained (Managed debug) s₀ (hook args))
include hh

theorem contained_enterMember (round i : Nat) (depth : Int) :
    Act.Contained (Managed debug) s₀ (Lockstep.enterMember books round depth args i hook?) := by
  unfold Lockstep.enterMember
  cases hook? with
  | none => exact Act.contained_pure ()
  | some hook =>
    refine (contained_books books).bind fun b => ?_
    split
    · refine (contained_member (hh hook rfl)).bind fun pruned => ?_
      split
      · exact contained_change books _
      · exact Act.contained_pure ()
    · exact Act.contained_pure ()

theorem contained_leaveMember (round i : Nat) (depth : Int) :
    Act.Contained (Managed debug) s₀ (Lockstep.leaveMember books round depth args i hook?) := by
  have hend {x : Unit → Act σ Unit} (hx : Act.Contained (Managed debug) s₀ (x ()))
      (b : Bookkeeping) : Act.Contained (Managed debug) s₀
        (if b.mark round i = depth then books.change (·.setMark round i 0) >>= x else x ()) := by
    split
    · exact (contained_change books _).bind fun _ => hx
    · exact hx
  refine (contained_books books).bind (hend ?_)
  cases hook? with
  | none => exact Act.contained_pure ()
  | some hook =>
    refine (contained_books books).bind fun b => ?_
    split
    · exact (contained_member (hh hook rfl)).bind fun _ => Act.contained_pure _
    · exact Act.contained_pure ()

end

/-- The methods of members that are tame. -/
theorem runOn_tameHooks {members : List (Visitor σ)} (hm : ∀ v ∈ members, v.Tame debug s₀)
    (kind : String) (direction : Direction) (relayed : Bool) (w : World σ)
    (hw : s₀.KeepsTrees w.store) :
    ∃ hooks w', (members.mapM (·.hook? ⟨.text kind, direction, relayed⟩) :
        Act σ (List (Option (Hook σ)))).runOn w = (.ok hooks, w') ∧
      w.store.KeepsTrees w'.store ∧
      ∀ hook? ∈ hooks, ∀ hook, hook? = some hook → ∀ args,
        Act.Contained (Managed debug) s₀ (hook args) := by
  induction members generalizing w with
  | nil => exact ⟨[], w, rfl, refl_of Store.KeepsTrees _, nofun⟩
  | cons v members ih =>
    obtain ⟨hook?, w₁, hr, hk, hh⟩ := hm v (List.mem_cons_self ..) kind direction relayed w hw
    obtain ⟨hooks, w₂, hr', hk', hh'⟩ := ih (fun v hv => hm v (List.mem_cons_of_mem _ hv)) w₁
      (trans_of Store.KeepsTrees hw hk)
    refine ⟨hook? :: hooks, w₂, ?_, trans_of Store.KeepsTrees hk hk', ?_⟩
    · rw [List.mapM_cons, Act.runOn_bind_ok hr, Act.runOn_bind_ok hr']
      rfl
    · intro hook?' hmem
      rcases List.mem_cons.mp hmem with rfl | hmem
      · exact hh
      · exact hh' hook?' hmem

variable {books}

/-- Looking a method of visitors in lockstep up may set their bookkeeping back before it looks the
methods of its members up. -/
theorem runOn_lockstepHook (members : List (Visitor σ)) (lookup : Lookup) (w : World σ) :
    ∃ w₁ : World σ, w₁.store = w.store ∧
      ((lockstep books members).hook? lookup).runOn w =
        ((members.mapM (·.hook? { lookup with relayed := true }) : Act σ _) >>= fun hooks =>
          pure (some (match lookup.direction with
            | .enter => Lockstep.enter books hooks
            | .leave => Lockstep.leave books hooks))).runOn w₁ := by
  unfold lockstep
  dsimp only
  split
  · have hchange : (books.change (·.restart members.length)).runOn w = (.ok (), { w with
        state := books.set ((books.get w.state).restart members.length) w.state }) := rfl
    refine ⟨_, ?_, Act.runOn_bind_ok hchange _⟩
    rfl
  · exact ⟨w, rfl, rfl⟩

/-- Visitors in lockstep are tame if all of them are. -/
theorem tame_lockstep {members : List (Visitor σ)} (hm : ∀ v ∈ members, v.Tame debug s₀) :
    (lockstep books members).Tame debug s₀ := by
  intro kind direction relayed w hw
  obtain ⟨w₁, hs₁, hr₁⟩ := runOn_lockstepHook members ⟨.text kind, direction, relayed⟩ w
  obtain ⟨hooks, w₂, hr₂, hk, hh⟩ := runOn_tameHooks hm kind direction true w₁ (hs₁ ▸ hw)
  rw [hs₁] at hk
  refine ⟨_, w₂, hr₁.trans (Act.runOn_bind_ok hr₂ _), hk, ?_⟩
  intro hook hhook args
  obtain rfl := Option.some.inj hhook
  have hmember : ∀ p ∈ hooks.zipIdx, ∀ hook, p.1 = some hook →
      Act.Contained (Managed debug) s₀ (hook args) := by
    rintro ⟨hook?, i⟩ hp hook hhook
    exact hh hook? (List.fst_mem_of_mem_zipIdx hp) hook hhook args
  cases direction with
  | enter =>
    refine (contained_change books _).bind fun _ => (contained_books books).bind fun b => ?_
    refine (Act.contained_forM fun p hp => ?_).bind fun _ => ?_
    · exact contained_enterMember books (hmember p hp) _ _ _
    · exact (contained_books books).bind fun _ => Act.contained_pure _
  | leave =>
    refine (contained_books books).bind fun b => (contained_change books _).bind fun _ => ?_
    refine (Act.contained_forM fun p hp => ?_).bind fun _ => Act.contained_pure _
    exact contained_leaveMember books (hmember p hp) _ _ _

end

/-! ### Walks -/

section

variable {σ : Type} {options : WalkOptions} {visitor : Visitor σ} {context : Value} {s₀ : Store}

/-- Aborting ends in a failure report. -/
theorem ends_abort {debug : Bool} {α : Type} {w : World σ} {kind : String} {f : Frame} {e : Ref}
    (hc : w.store.classAttrs = []) (hf : f.kind = .text kind) (ht : w.store.Tellable debug e)
    (direction : Direction) :
    Act.Ends (Reported debug) w.store ((abort f.kind direction f.node? e : Act σ α).runOn w) := by
  rcases ht with ⟨message, isTrue, htells, hmessage⟩ | ⟨l, stages, htelling⟩
  · obtain ⟨s, r, l, hwrap, hg, -, hp, hw, hl⟩ := htells.wrap (Store.pristine_of_classAttrs hc)
      (.text (hookStage direction f).text) (f.node?.getD .null)
    have hreport := hw.report hp hl
    obtain ⟨report, hr, -⟩ := hw
    rw [abort_wrap hf hwrap hreport.isReport α]
    refine ⟨hg.keepsTrees, r, l, _, rfl, hreport, fun hd => ?_⟩
    obtain ⟨text, rfl⟩ := hmessage hd
    exact ⟨report, _, hr, rfl, ⟨text, rfl⟩, [(hookStage direction f).text], rfl⟩
  · obtain ⟨s, hwrap, hk, hreport⟩ := htelling.report.wrap (.text (hookStage direction f).text)
      (f.node?.getD .null)
    have hobjects := hk.keepsObjects htelling.report.stages
    rw [abort_wrap hf hwrap hreport.isReport α]
    exact ⟨hobjects.keepsTrees, e, l, _, rfl, htelling.add hobjects hreport⟩

section

variable (hc : s₀.classAttrs = [])
include hc

section

variable (hv : visitor.Tame options.debug s₀)
include hv

theorem contained_enterStep {f : Frame} (hf : Namable options Store.KeepsTrees s₀ f) :
    Act.Contained (Reported options.debug) s₀
      (enterStep options visitor context f.kind f.node?) := by
  obtain ⟨kind, hkind⟩ := hf.kind
  rw [enterStep_eq]
  refine Act.contained_after fun w hw => ?_
  obtain ⟨hook?, w', hr, hk, hh⟩ := hv kind .enter false w hw
  refine ⟨hook?, w', by rwa [hkind], hk, ?_⟩
  cases hook? with
  | none => exact Act.contained_pure false
  | some hook =>
    refine Act.Contained.mono (Act.Contained.bind ?_ fun pruned => ?_)
      (trans_of Store.KeepsTrees hw hk)
    · exact (hh hook rfl _).judge fun e w hw _ ht =>
        ends_abort (hw.classAttrs.trans hc) hkind ht .enter
    · intro w hw
      obtain ⟨w', hend, hk', -⟩ := hf.runOn_endEnter pruned hw
      rw [hend]
      exact hk'

theorem contained_leaveStep {kind : String} {f : Frame} (hf : f.kind = .text kind) :
    Act.Contained (Reported options.debug) s₀ (leaveStep visitor context f.kind f.node?) := by
  rw [leaveStep_eq]
  refine Act.contained_after fun w hw => ?_
  obtain ⟨hook?, w', hr, hk, hh⟩ := hv kind .leave false w hw
  refine ⟨hook?, w', by rwa [hf], hk, ?_⟩
  cases hook? with
  | none => exact Act.contained_pure ()
  | some hook =>
    refine Act.Contained.mono (Act.Contained.bind ?_ fun _ => Act.contained_pure ())
      (trans_of Store.KeepsTrees hw hk)
    exact (hh hook rfl _).judge fun e w hw _ ht =>
      ends_abort (hw.classAttrs.trans hc) hf ht .leave

theorem contained_frame {f : Frame} (hf : Namable options Store.KeepsTrees s₀ f)
    {inner : Act σ Unit} (hi : Act.Contained (Reported options.debug) s₀ inner) :
    Act.Contained (Reported options.debug) s₀
      (Act.framed (enterStep options visitor context f.kind f.node?) inner
        (leaveStep visitor context f.kind f.node?)) := by
  obtain ⟨kind, hkind⟩ := hf.kind
  exact (contained_enterStep hc hv hf).framed hi (contained_leaveStep hc hv hkind)

end

/-- An element that does not belong into its list is rejected with a failure report. -/
theorem contained_rejectElement {debug : Bool} {α : Type} {e : Value} {text : String}
    (he : Reads Store.KeepsTrees s₀ (Action.describedText e) text) (kind : String) :
    Act.Contained (Reported debug) s₀ (rejectElement kind e : Act σ α) := by
  refine Act.contained_reads he fun w hw => ?_
  have hc' := hw.classAttrs.trans hc
  have hlevel : w.store.depthLimit = 8 * w.store.size + 997 + 3 := by
    unfold Store.depthLimit
    omega
  obtain ⟨s, r, l, hrun, hg, hl, hreport⟩ := Store.runOn_raiseMessage
    (Store.pristine_of_classAttrs hc') (Store.plainNull_of_classAttrs hc')
    (.text (invalidElementText (plainKind kind) text)) α (8 * w.store.size + 997)
  rw [Act.runOn_action, Action.runOn_perform, hlevel, hrun]
  refine ⟨hg.keepsTrees, r, l, [], rfl, ⟨?_, ⟨_, _, hreport, rfl, rfl⟩, hl⟩, fun _ => ?_⟩
  · exact Store.pristine_of_classAttrs (hg.classAttrs.trans hc')
  · exact ⟨_, _, hreport, rfl, ⟨_, rfl⟩, [], rfl⟩

/-! What the walk of a tree is made of, where `visit` walks the trees below. -/

section

variable (hv : visitor.Tame options.debug s₀) {depth : Nat} {visit : Value → Act σ Unit}
  (hvisit : ∀ e, s₀.isTree options.table depth e = true →
    Act.Contained (Reported options.debug) s₀ (visit e))
include hv hvisit

theorem contained_walkVariant {e : Value} (he : s₀.isTree options.table depth e = true)
    (kind : String) :
    Act.Contained (Reported options.debug) s₀
      (walkVariant options visitor context visit kind e) := by
  have hname : Namable options Store.KeepsTrees s₀ (.variant kind e) :=
    ⟨⟨_, rfl⟩, fun _ => Store.reads_describedText hc (.inr he)⟩
  refine contained_frame hc hv hname ((hvisit e he).onReport fun r l stages w hw ht => ?_)
  cases depth with
  | zero => nomatch he
  | succ depth =>
    obtain ⟨q, n, rfl, hn, -⟩ := Store.isTree_succ hc he
    obtain ⟨_, hn'⟩ := hn.keepsTrees hw
    obtain ⟨w', hnoted, hk, hr⟩ :=
      noted_variant ht.report (refl_of Store.KeepsObjects _) hn'.gives_kind
    exact ⟨w', _, hnoted, hk.keepsTrees, ht.add hk hr⟩

theorem contained_walkElement {e : Value}
    (he : e.isDatum = true ∨ s₀.isTree options.table depth e = true) (kind : String) :
    Act.Contained (Reported options.debug) s₀
      (walkElement options visitor context visit kind e) := by
  obtain ⟨fits, hread, hfits⟩ := Store.reads_belongs hc he kind
  obtain ⟨text, htext⟩ := Store.reads_describedText hc he
  unfold Action.belongs at hread
  rcases hvar : variants? kind with - | classes
  · rw [hvar] at hread
    rw [walkElement_plain options visitor context visit hvar]
    refine Act.contained_reads hread ?_
    cases fits with
    | true => exact hvisit e (hfits rfl)
    | false => exact contained_rejectElement hc htext kind
  · rw [hvar] at hread
    rw [walkElement_variant options visitor context visit hvar]
    refine Act.contained_reads hread ?_
    cases fits with
    | true => exact contained_walkVariant hc hv hvisit (hfits rfl) kind
    | false => exact contained_rejectElement hc htext kind

theorem contained_walkList {s₁ : Store} (hs : s₀.KeepsTrees s₁) {nodes : Value}
    {items : List Value} (hh : Holds Store.KeepsTrees s₁ nodes (.ofItems items))
    (hi : ∀ e ∈ items, e.isDatum = true ∨ s₀.isTree options.table depth e = true)
    (kind : String) :
    Act.Contained (Reported options.debug) s₁
      (walkList options visitor context visit kind nodes) := by
  rw [walkList_eq]
  cases items with
  | nil => exact Act.contained_reads hh (Act.contained_pure ())
  | cons e items =>
    obtain ⟨htrue, hitems, hsize⟩ := hh
    refine Act.contained_reads htrue ?_
    have hc' := hs.classAttrs.trans hc
    have hname : Namable options Store.KeepsTrees s₁ (.list kind) := by
      refine ⟨⟨_, rfl⟩, fun _ => ⟨kind ++ "_list", fun s hs => ⟨s, ?_, refl_of Store.KeepsTrees s⟩⟩⟩
      rw [Action.runOn_perform, s.depthLimit_eq]
      exact Store.runOn_text_text (hs.classAttrs.trans hc') _
    have hv' : visitor.Tame options.debug s₁ := hv.mono hs
    refine contained_frame hc' hv' hname (Act.contained_reads hitems ?_)
    refine Act.contained_forM fun e he => Act.Contained.bind ?_ fun _ => ?_
    · exact ((contained_walkElement hc hv hvisit (hi e he) kind).within _).mono hs
    · exact Act.contained_reading hsize

theorem contained_walkLists {r : Ref} {n : NodeObject} (hn : s₀.Node r n)
    (hi : ∀ entry ∈ options.table.entries n.cls.kind, ∃ items,
      s₀.listed? n entry.1 = some items ∧
        ∀ e ∈ items, e.isDatum = true ∨ s₀.isTree options.table depth e = true) :
    Act.Contained (Reported options.debug) s₀
      (walkLists options visitor context visit (.text n.cls.kind) (.ref r)) := by
  refine Act.contained_reads
    (Store.reads_walkedAttrs Store.treeKeeping_keepsTrees hc options.table n.cls.kind) ?_
  refine Act.contained_forM fun (key, kind) he => Act.Contained.within ?_ _
  obtain ⟨items, hlisted, hall⟩ := hi _ he
  refine Act.contained_read fun s hs => ?_
  rcases hn.shows Store.treeKeeping_keepsTrees hlisted s hs with ⟨nodes, s', hr, hk, hh⟩ | ⟨hu, -⟩
  · exact ⟨nodes, s', hr, hk, contained_walkList hc hv hvisit (trans_of Store.KeepsTrees hs hk)
      hh hall kind⟩
  · cases items with
    | nil | cons => nomatch hu

end

/-- The walk of a tree. -/
theorem contained_walkNode (hv : visitor.Tame options.debug s₀) (depth : Nat) :
    ∀ v, s₀.isTree options.table depth v = true →
      Act.Contained (Reported options.debug) s₀
        (walkNode options visitor context depth v) := by
  induction depth with
  | zero => exact fun _ => nofun
  | succ depth ih =>
    intro v ht
    obtain ⟨r, n, rfl, hn, -, hi⟩ := Store.isTree_succ hc ht
    have hname : Namable options Store.KeepsTrees s₀ (.node (.text n.cls.kind) (.ref r)) :=
      ⟨⟨_, rfl⟩, fun _ => Store.reads_describedText hc (.inr ht)⟩
    rw [walkNode_succ]
    refine Act.contained_reads (hn.reads_kind Store.treeKeeping_keepsTrees) ?_
    exact contained_frame hc hv hname (contained_walkLists hc hv ih hn hi)

/-- The walk from a root. -/
theorem contained_walk (hv : visitor.Tame options.debug s₀) {root : Value}
    (hroot : [NodeClass.document, .schema].any (s₀.isInstance root) = true)
    (ht : s₀.isTree options.table options.depthLimit root = true) :
    Act.Contained (Reported options.debug) s₀ (walk options visitor context root) := by
  have hnode : Act.Contained (Reported options.debug) s₀
      (walkNode options visitor context options.depthLimit root) :=
    contained_walkNode hc hv _ root ht
  obtain ⟨depth, hdepth⟩ : ∃ depth, options.depthLimit = depth + 1 := by
    rcases hd : options.depthLimit with - | depth
    · rw [hd] at ht
      nomatch ht
    · exact ⟨depth, rfl⟩
  rw [hdepth] at ht
  obtain ⟨r, n, rfl, hn, hname, -⟩ := Store.isTree_succ hc ht
  refine Act.contained_reads (hn.reads_checkRoot Store.treeKeeping_keepsTrees hroot) ?_
  refine hnode.onReport fun r l stages w hw htelling => ?_
  -- Without logging there is nothing to do; otherwise the report has a text.
  by_cases hd : options.debug = true
  · obtain ⟨report, attrs, hreport, hs, ⟨message, hm⟩, texts, rfl⟩ := htelling.texts hd
    obtain ⟨_, hn'⟩ := hn.keepsTrees hw
    have hlog : Loggable options (.ref _) w.store (.text message) (texts.map .text) :=
      fun _ => ⟨⟨_, hn'.gives_describedText hname⟩, ⟨message, rfl⟩, texts, rfl⟩
    have htrail : w.store.Report r l (stageTexts [] ++ texts.map .text) := htelling.report
    obtain ⟨w', hnoted, hg, -⟩ :=
      noted_aborted hlog (refl_of Store.KeepsObjects _) htrail hreport hs hm
    refine ⟨w', texts.map .text, hnoted, hg.keepsTrees, ?_, fun _ => ?_⟩
    · exact htelling.report.keepsBut (hg.keepsBut l) (hg.get?_eq htelling.report.stages)
    · exact ⟨report, attrs, hreport.keepsObjects hg.keepsObjects, hs, ⟨message, hm⟩, texts, rfl⟩
  · refine ⟨w, stages, ?_, refl_of Store.KeepsTrees _, htelling⟩
    unfold FailedRun.noted
    dsimp only
    rw [if_pos htelling.report.isReport, if_neg hd]
    rfl

end

/-- **Failures stay reports.** A walk over a tree of the language, led by tame visitors or by them
in lockstep, ends normally or raises a failure report. -/
theorem walk_contained (options : WalkOptions) (books : Part σ Bookkeeping)
    (members : List (Visitor σ)) (context : Value) {root : Value} {w : World σ}
    (hc : w.store.classAttrs = [])
    (hroot : [NodeClass.document, .schema].any (w.store.isInstance root) = true)
    (htree : w.store.isTree options.table options.depthLimit root = true)
    (hm : ∀ visitor ∈ members, visitor.Tame options.debug w.store) :
    ∀ visitor ∈ lockstep books members :: members, ∃ outcome w',
      (walk options visitor context root).runOn w = (outcome, w') ∧
        (outcome = .ok () ∨ ∃ r l stages, outcome = .error (.raised r) ∧ w'.store.Report r l stages) := by
  intro visitor hvisitor
  have hv : visitor.Tame options.debug w.store := by
    rcases List.mem_cons.mp hvisitor with rfl | hmem
    · exact tame_lockstep hm
    · exact hm visitor hmem
  have hwalk : Act.Contained (Reported options.debug) w.store (walk options visitor context root) := by
    exact contained_walk hc hv hroot htree
  have hend := hwalk w (refl_of Store.KeepsTrees _)
  rcases hrun : (walk options visitor context root).runOn w with ⟨halt | -, w'⟩
  · rw [hrun] at hend
    obtain ⟨-, r, l, stages, rfl, ht⟩ := hend
    exact ⟨_, w', rfl, .inr ⟨r, l, stages, rfl, ht.report⟩⟩
  · exact ⟨_, w', rfl, .inl rfl⟩

end

/-! ### Errors that can be managed, and others -/

/-- An error with a text can be managed. -/
theorem Store.TextError.manageable {s : Store} {e : Ref} {cls : ErrorClass} {text : String}
    (h : s.TextError e cls text) (ho : cls.isOrdinary = true) (ht : text ≠ "") (debug : Bool) :
    s.Manageable debug e := by
  refine ⟨fun s => s.TextError e cls text, h, fun s' h' => ⟨h'.isErrorOf_general ho, none, ?_⟩⟩
  obtain ⟨s'', hr, hg⟩ := h'.gives_pruneSignal.perform (Grows.refl s') (Nat.le_refl _)
  exact ⟨s'', hr, hg.keepsTrees, h'.grows hg,
    fun _ => .inl ⟨_, _, (h'.grows hg).tells ht, fun _ => ⟨text, rfl⟩⟩⟩

/-- A visitor that only raises errors with a text is tame. -/
theorem raisingVisitor_tame {σ : Type} {s : Store} {kind text : String} (hc : s.classAttrs = [])
    (ht : text ≠ "") (debug : Bool) : (raisingVisitor (σ := σ) kind text).Tame debug s := by
  intro asked direction relayed w hw
  refine ⟨_, w, rfl, refl_of Store.KeepsTrees _, fun hook hhook args w' hw' => ?_⟩
  split at hhook
  · cases hhook
    have hg := w'.store.grows_alloc (.error (.ofArgs .badValue [.text text]))
    have herror : (w'.store.alloc (.error (.ofArgs .badValue [.text text]))).2.TextError
        w'.store.size .badValue text :=
      ⟨hg.classAttrs.trans (hw'.classAttrs.trans hc), w'.store.get?_alloc _, rfl, by decide⟩
    exact ⟨hg.keepsTrees, _, rfl, herror.manageable rfl ht debug⟩
  · nomatch hhook

/-- Visitors in lockstep, one of which fails for a field of an object. -/
theorem walk_contained_smallSchema :
    ∃ r l stages w', (walk .standard (lockstep ⟨id, fun b _ => b⟩
        [raisingVisitor "object_field_definition" "boom"]) .null (.ref 0)).runOn
        ⟨.smallSchema, [], .fresh 1⟩ = (.error (.raised r), w') ∧ w'.store.Report r l stages := by
  have htree : Store.smallSchema.isTree WalkOptions.standard.table WalkOptions.standard.depthLimit
      (.ref 0) = true := by decide +kernel
  have hroot : [NodeClass.document, .schema].any (Store.smallSchema.isInstance (.ref 0)) = true := rfl
  obtain ⟨outcome, w', hrun, hend⟩ := walk_contained .standard ⟨id, fun b _ => b⟩
    [raisingVisitor "object_field_definition" "boom"] .null (w := ⟨.smallSchema, [], .fresh 1⟩) rfl
    hroot htree (fun v hv => List.mem_singleton.mp hv ▸ raisingVisitor_tame rfl (by decide) _) _
    (List.mem_cons_self ..)
  have hfails : ((walk .standard (lockstep ⟨id, fun b _ => b⟩
      [raisingVisitor "object_field_definition" "boom"]) .null (.ref 0)).runOn
      ⟨.smallSchema, [], .fresh 1⟩).1.toBool = false := by decide +kernel
  rw [hrun] at hfails
  rcases hend with rfl | ⟨r, l, stages, rfl, hreport⟩
  · nomatch hfails
  · exact ⟨r, l, stages, w', hrun, hreport⟩

/-- A document without definitions. -/
def emptyDocument : Store where
  cells := #[
    .node ⟨.document, [("definitions", .ref 1)], .own [], none⟩,
    .tuple .frozen [] (.own [])]
  nextTag := 0
  classAttrs := []
  functionData := []

/-- A visitor whose method for entering a document raises an error with a property that cannot be
read in the place of a prune signal. -/
def unreadableVisitor {σ : Type} : Visitor σ where
  hook? lookup := return (if lookup.kind = .text "document" ∧ lookup.direction = .enter then
      some fun _ => (do
        let inner ← Action.call (.type (.error .badValue)) [.text "boom"]
        Action.raiseNew .propPrune [.text "x", inner] : Action Value)
    else none)

/-- The error that ended a run. -/
def raisedCell? {σ α : Type} (run : Except Halt α × World σ) : Option Cell :=
  match run.1 with
  | .error (.raised r) => run.2.store.get? r
  | _ => none

theorem eq_raised_of_raisedCell? {σ α : Type} {run : Except Halt α × World σ} {c : Cell}
    (h : raisedCell? run = some c) :
    ∃ r w', run = (.error (.raised r), w') ∧ w'.store.get? r = some c := by
  obtain ⟨outcome, w'⟩ := run
  unfold raisedCell? at h
  dsimp only at h
  split at h
  · exact ⟨_, w', rfl, h⟩
  · nomatch h

/-- The error that reading the prune signal raises gets out of the walk as it is. -/
theorem walk_contained_unreadable :
    ∃ r w', (walk .standard unreadableVisitor .null (.ref 0)).runOn ⟨emptyDocument, [], ()⟩ =
        (.error (.raised r), w') ∧
      w'.store.get? r = some (.error (.ofArgs .badValue [.text "boom"])) :=
  eq_raised_of_raisedCell? (by decide +kernel)

end GraphQLTree
