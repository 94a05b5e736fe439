import GraphQLTree.Proofs.View

/-! # The course of a walk

A visitor is led through the forest of a view that stands for the tree. The course of its walk is
described by rules over forests (`Course`): frames are entered and left in order, what is inside of
a frame is skipped if entering it prunes, and nothing is done after a failure. Between the steps the
walk reads, which changes nothing but the store and keeps the tree. The rules end where a step does
not keep the tree (`Stopped`); a visitor whose methods keep it never gets there.

That the walk takes such a course (`follows_walk`) is the only fact here about how it goes through
nodes, lists and variants; what holds of all courses is shown by induction on forests. -/

namespace GraphQLTree

section

variable {σ : Type} (options : WalkOptions) (visitor : Visitor σ) (context : Value)

/-- Enters a frame, and tells whether to skip what is inside. -/
abbrev enterFrame (f : Frame) : Act σ Bool := enterStep options visitor context f.kind f.node?

/-- Leaves a frame. -/
abbrev leaveFrame (f : Frame) : Act σ Unit := leaveStep visitor context f.kind f.node?

/-- Nothing but reading has happened. -/
def Quiet (keeps : Store → Store → Prop) (w w' : World σ) : Prop :=
  ∃ s, keeps w.store s ∧ w' = { w with store := s }

/-- What happens to a world in a walk through a forest inside the frames `above`, with the record of
it. -/
inductive Course (keeps : Store → Store → Prop) :
    Path → Forest → World σ → List (Mark σ) → World σ → Prop
  | done {above : Path} {w w' : World σ} : Quiet keeps w w' → Course keeps above .done w [] w'
  | frame {above : Path} {f : Frame} {inner rest : Forest} {w w₀ w₁ w₂ w₃ w' : World σ}
      {pruned : Bool} {seg seg' : List (Mark σ)} :
      Quiet keeps w w₀ → (enterFrame options visitor context f).runOn w₀ = (.ok pruned, w₁) →
      Course keeps (f :: above) (if pruned then .done else inner) w₁ seg w₂ →
      (leaveFrame visitor context f).runOn w₂ = (.ok (), w₃) → Course keeps above rest w₃ seg' w' →
      Course keeps above (.frame f inner rest) w
        (.entered (f :: above) :: hookMarks visitor context .enter f above w₀ ++
          ((if pruned then [.pruned (f :: above)] else []) ++
          (seg ++ (.left (f :: above) :: hookMarks visitor context .leave f above w₂ ++ seg')))) w'

/-- How a course can come to its end before the end of the forest. -/
inductive Stop
  | failed
  /-- A step did not keep the tree. -/
  | strayed

/-- A step from the world `w` ends a course. -/
def Stop.At {α : Type} (keeps : Store → Store → Prop) (w : World σ) :
    Stop → Except Halt α × World σ → Prop
  | failed, (.error _, _) => True
  | strayed, (.ok _, w') => ¬ keeps w.store w'.store
  | _, _ => False

/-- A walk through a forest comes to its end on the way. -/
inductive Stopped (keeps : Store → Store → Prop) : Stop → Path → Forest → World σ → Prop
  | broken (above : Path) (w : World σ) : Stopped keeps .failed above .broken w
  | enter {stop : Stop} {above : Path} {f : Frame} {inner rest : Forest} {w w₀ : World σ} :
      Quiet keeps w w₀ → stop.At keeps w₀ ((enterFrame options visitor context f).runOn w₀) →
      Stopped keeps stop above (.frame f inner rest) w
  | inner {stop : Stop} {above : Path} {f : Frame} {inner rest : Forest} {w w₀ w₁ : World σ} :
      Quiet keeps w w₀ → (enterFrame options visitor context f).runOn w₀ = (.ok false, w₁) →
      Stopped keeps stop (f :: above) inner w₁ → Stopped keeps stop above (.frame f inner rest) w
  | leave {stop : Stop} {above : Path} {f : Frame} {inner rest : Forest} {w w₀ w₁ w₂ : World σ}
      {pruned : Bool} {seg : List (Mark σ)} :
      Quiet keeps w w₀ → (enterFrame options visitor context f).runOn w₀ = (.ok pruned, w₁) →
      Course options visitor context keeps (f :: above) (if pruned then .done else inner) w₁ seg w₂ →
      stop.At keeps w₂ ((leaveFrame visitor context f).runOn w₂) →
      Stopped keeps stop above (.frame f inner rest) w
  | rest {stop : Stop} {above : Path} {f : Frame} {inner rest : Forest} {w w₀ w₁ w₂ w₃ : World σ}
      {pruned : Bool} {seg : List (Mark σ)} :
      Quiet keeps w w₀ → (enterFrame options visitor context f).runOn w₀ = (.ok pruned, w₁) →
      Course options visitor context keeps (f :: above) (if pruned then .done else inner) w₁ seg w₂ →
      (leaveFrame visitor context f).runOn w₂ = (.ok (), w₃) → Stopped keeps stop above rest w₃ →
      Stopped keeps stop above (.frame f inner rest) w

end

section

variable {σ : Type} {options : WalkOptions} {visitor : Visitor σ} {context : Value}
  {keeps : Store → Store → Prop} {above : Path} {g g' : Forest} {w w₁ w₂ : World σ}
  {seg seg' : List (Mark σ)} {stop : Stop}

theorem Stop.not_at_ok {α : Type} {x : α} (hk : keeps w.store w₁.store) :
    ¬ stop.At keeps w (Except.ok x, w₁) := by
  cases stop with
  | failed => exact id
  | strayed => exact fun h => h hk

theorem Quiet.store (h : Quiet keeps w w₁) : keeps w.store w₁.store := by
  obtain ⟨s, hs, rfl⟩ := h
  exact hs

theorem Quiet.state (h : Quiet keeps w w₁) : w₁.state = w.state := by
  obtain ⟨s, -, rfl⟩ := h
  rfl

/-- What stops a walk comes before all that is behind it. -/
theorem Stopped.append_left (h : Stopped options visitor context keeps stop above g w)
    (g' : Forest) : Stopped options visitor context keeps stop above (g.append g') w := by
  induction g generalizing w with
  | done => cases h
  | broken =>
    cases h with
    | broken => exact .broken above w
  | frame f inner rest _ ih =>
    cases h with
    | enter hq he => exact .enter hq he
    | inner hq he hi => exact .inner hq he hi
    | leave hq he hi hl => exact .leave hq he hi hl
    | rest hq he hi hl hr => exact .rest hq he hi hl (ih hr)

variable [IsPreorder Store keeps]

theorem Quiet.trans (h : Quiet keeps w w₁) (h' : Quiet keeps w₁ w₂) : Quiet keeps w w₂ := by
  obtain ⟨s, hs, rfl⟩ := h
  obtain ⟨s', hs', rfl⟩ := h'
  exact ⟨s', trans_of keeps hs hs', rfl⟩

/-- A course may begin with reading. -/
theorem Course.quiet (hq : Quiet keeps w w₁) (h : Course options visitor context keeps above g w₁ seg w₂) :
    Course options visitor context keeps above g w seg w₂ := by
  cases h with
  | done h => exact .done (hq.trans h)
  | frame h he hi hl hr => exact .frame (hq.trans h) he hi hl hr

theorem Stopped.quiet (hq : Quiet keeps w w₁)
    (h : Stopped options visitor context keeps stop above g w₁) :
    Stopped options visitor context keeps stop above g w := by
  cases h with
  | broken => exact .broken above w
  | enter h he => exact .enter (hq.trans h) he
  | inner h he hi => exact .inner (hq.trans h) he hi
  | leave h he hi hl => exact .leave (hq.trans h) he hi hl
  | rest h he hi hl hr => exact .rest (hq.trans h) he hi hl hr

theorem Course.append (h : Course options visitor context keeps above g w seg w₁)
    (h' : Course options visitor context keeps above g' w₁ seg' w₂) :
    Course options visitor context keeps above (g.append g') w (seg ++ seg') w₂ := by
  induction g generalizing w seg with
  | done =>
    cases h with
    | done hq => exact h'.quiet hq
  | broken => cases h
  | frame f inner rest _ ih =>
    cases h with
    | frame hq he hi hl hr =>
      have h := Course.frame hq he hi hl (ih hr)
      simpa only [Forest.append, List.append_assoc, List.cons_append] using h

theorem Stopped.append_right (h : Course options visitor context keeps above g w seg w₁)
    (h' : Stopped options visitor context keeps stop above g' w₁) :
    Stopped options visitor context keeps stop above (g.append g') w := by
  induction g generalizing w seg with
  | done =>
    cases h with
    | done hq => exact h'.quiet hq
  | broken => cases h
  | frame f inner rest _ ih =>
    cases h with
    | frame hq he hi hl hr => exact .rest hq he hi hl (ih hr)

end

/-- A frame whose kind is a text, which is entered and left keeping the tree. -/
structure Passable {σ : Type} (options : WalkOptions) (visitor : Visitor σ) (context : Value)
    (keeps : Store → Store → Prop) (s₀ : Store) (f : Frame) : Prop where
  kind : ∃ kind, f.kind = .text kind
  enter : Act.Keeping keeps s₀ (enterFrame options visitor context f)
  leave : Act.Keeping keeps s₀ (leaveFrame visitor context f)

theorem Act.Keeping.not_strayed {σ α : Type} {keeps : Store → Store → Prop} {s₀ : Store}
    {act : Act σ α} {w : World σ} (h : Act.Keeping keeps s₀ act) (hw : keeps s₀ w.store) :
    ¬ Stop.strayed.At keeps w (act.runOn w) := by
  rcases hr : act.runOn w with ⟨e | a, w'⟩
  · exact id
  · exact fun hn => hn (h hw hr)

/-! ### Walks take their course -/

section

variable {σ α : Type} (options : WalkOptions) (visitor : Visitor σ) (context : Value)
  (keeps : Store → Store → Prop) (s₀ : Store)

/-- From the world `w`, a step that keeps a record does what `act` does, which is to go through a
forest, unless the walk strays from it. -/
def FollowsFrom (w : World σ) (above : Path) (g : Forest) (act' : Act (Traced σ) Unit)
    (act : Act σ Unit) : Prop :=
  Stopped options visitor context keeps .strayed above g w ∨
  ∃ seg, Act.Records act' act w seg ∧
    match act.runOn w with
    | (.ok _, w') => keeps w.store w'.store ∧ Course options visitor context keeps above g w seg w'
    | (.error _, _) => Stopped options visitor context keeps .failed above g w

/-- From every world that keeps the tree of `s₀`, a step goes through a forest. -/
def Follows (above : Path) (g : Forest) (act' : Act (Traced σ) Unit) (act : Act σ Unit) : Prop :=
  ∀ w, keeps s₀ w.store → FollowsFrom options visitor context keeps w above g act' act

variable {options visitor context keeps s₀} {above : Path} {g g' : Forest}
  {act' : Act (Traced σ) Unit} {act : Act σ Unit}

theorem follows_broken (hr : ∀ w, ∃ seg, Act.Records act' act w seg)
    (hf : ∀ w, keeps s₀ w.store → ∀ w', act.runOn w ≠ (.ok (), w')) :
    Follows options visitor context keeps s₀ above .broken act' act := by
  intro w hw
  obtain ⟨seg, hseg⟩ := hr w
  refine .inr ⟨seg, hseg, ?_⟩
  rcases ha : act.runOn w with ⟨e | _, w'⟩
  · exact .broken above w
  · exact absurd ha (hf w hw w')

theorem Follows.onReport (h : Follows options visitor context keeps s₀ above g act' act)
    (note : Ref → Act σ Unit) :
    Follows options visitor context keeps s₀ above g (Act.onReport act' fun e => (note e).unmarked)
      (Act.onReport act note) := by
  intro w hw
  refine (h w hw).imp_right fun ⟨seg, hseg, hc⟩ => ⟨seg, hseg.onReport note, ?_⟩
  rcases ha : act.runOn w with ⟨e | _, w₁⟩
  · obtain ⟨e', w₂, hb⟩ := Act.onReport_error ha note
    rw [ha] at hc
    rw [hb]
    exact hc
  · rw [ha] at hc
    rw [Act.onReport_ok ha note]
    exact hc

/-- A course cannot go past what cannot be read. -/
theorem followsFrom_error {read : Action α} {x' : α → Act (Traced σ) Unit} {x : α → Act σ Unit}
    {w : World σ} {e : Halt} {s : Store} (hr : read.perform.runOn w.store = (.error e, s)) :
    FollowsFrom options visitor context keeps w above .broken
      (Act.placed (.inside above) (liftM read) >>= x') (liftM read >>= x) := by
  have ha : (liftM read : Act σ α).runOn w = (.error e, { w with store := s }) := by
    rw [Act.runOn_action, hr]
  have hrec := Act.records_placed_error (.inside above) (Act.records_unmarked (liftM read) w) ha
  refine .inr ⟨_, hrec.bind_error ha, ?_⟩
  rw [Act.runOn_bind_error ha]
  exact .broken above w

theorem Refuses.follows {read : Action α} {x' : α → Act (Traced σ) Unit} {x : α → Act σ Unit}
    (hr : Refuses keeps s₀ read) :
    Follows options visitor context keeps s₀ above .broken
      (Act.placed (.inside above) (liftM read) >>= x') (liftM read >>= x) := by
  intro w hw
  obtain ⟨e, s, he⟩ := hr w.store hw
  exact followsFrom_error he

theorem Follows.within (h : Follows options visitor context keeps s₀ above g act' act)
    (stage : Stage) :
    Follows options visitor context keeps s₀ above g (Act.within stage act')
      (Act.within stage act) :=
  h.onReport fun e => Action.recordStage (.ref e) stage.text

/-- A course cannot go past an element that does not belong into its list. -/
theorem follows_reject {read : Action Bool} {x' : Act (Traced σ) Unit} {x : Act σ Unit}
    {kind : String} {e : Value}
    (hr : ∀ s, keeps s₀ s → ∀ s', read.perform.runOn s ≠ (.ok true, s')) :
    Follows options visitor context keeps s₀ above .broken
      (Act.placed (.inside above) (liftM read) >>= fun belongs =>
        if belongs then x'
        else Act.placed (.inside above) (rejectElement kind e : Act σ Unit).unmarked)
      (liftM read >>= fun belongs => if belongs then x else rejectElement kind e) := by
  intro w hw
  rcases hs : read.perform.runOn w.store with ⟨halt | _ | _, s⟩
  · exact followsFrom_error hs
  · have ha : (liftM read : Act σ Bool).runOn w = (.ok false, { w with store := s }) := by
      rw [Act.runOn_action, hs]
    have hrec := Act.records_placed_ok (.inside above) (Act.records_unmarked (liftM read) w) ha
    obtain ⟨seg, hseg⟩ := Act.exists_records_placed (.inside above)
      (rejectElement kind e : Act σ Unit) { w with store := s }
    obtain ⟨halt, w₁, he⟩ := fails_rejectElement (α := Unit) kind e { w with store := s }
    refine .inr ⟨_, hrec.bind_ok ha hseg, ?_⟩
    rw [Act.runOn_bind_ok ha]
    change match (rejectElement kind e : Act σ Unit).runOn _ with | (.ok _, _) => _ | (.error _, _) => _
    rw [he]
    exact .broken above w
  · exact absurd hs (hr w.store hw s)

variable [IsPreorder Store keeps]

theorem follows_done :
    Follows options visitor context keeps s₀ above .done (pure ()) (pure ()) := by
  intro w _
  exact .inr ⟨[], Act.records_pure () w, refl_of keeps _, .done ⟨w.store, refl_of keeps _, rfl⟩⟩

theorem Follows.append {next' : Act (Traced σ) Unit} {next : Act σ Unit}
    (h : Follows options visitor context keeps s₀ above g act' act)
    (hn : Follows options visitor context keeps s₀ above g' next' next) :
    Follows options visitor context keeps s₀ above (g.append g') (act' >>= fun _ => next')
      (act >>= fun _ => next) := by
  intro w hw
  rcases h w hw with hs | ⟨seg, hseg, hc⟩
  · exact .inl (hs.append_left g')
  rcases ha : act.runOn w with ⟨e | _, w₁⟩
  · rw [ha] at hc
    refine .inr ⟨seg, hseg.bind_error ha, ?_⟩
    rw [Act.runOn_bind_error ha]
    exact hc.append_left g'
  · rw [ha] at hc
    obtain ⟨hk, hc⟩ := hc
    rcases hn w₁ (trans_of keeps hw hk) with hs | ⟨seg₁, hseg₁, hc₁⟩
    · exact .inl (Stopped.append_right hc hs)
    refine .inr ⟨seg ++ seg₁, hseg.bind_ok ha hseg₁, ?_⟩
    rw [Act.runOn_bind_ok ha]
    rcases hb : next.runOn w₁ with ⟨e | _, w₂⟩
    · rw [hb] at hc₁
      exact Stopped.append_right hc hc₁
    · rw [hb] at hc₁
      exact ⟨trans_of keeps hk hc₁.1, hc.append hc₁.2⟩

theorem follows_forM {β : Type} {x' : β → Act (Traced σ) Unit} {x : β → Act σ Unit}
    {forest : β → Forest} (l : List β)
    (h : ∀ b ∈ l, Follows options visitor context keeps s₀ above (forest b) (x' b) (x b)) :
    Follows options visitor context keeps s₀ above (.concat (l.map forest)) (l.forM x')
      (l.forM x) := by
  induction l with
  | nil => exact follows_done
  | cons b l ih =>
    exact (h b (List.mem_cons_self ..)).append (ih fun b' hb => h b' (List.mem_cons_of_mem b hb))

/-- Reading is no part of a course. -/
theorem followsFrom_ok {read : Action α} {a : α} {x' : α → Act (Traced σ) Unit} {x : α → Act σ Unit}
    {w : World σ} {s : Store} (hr : read.perform.runOn w.store = (.ok a, s))
    (hk : keeps w.store s)
    (h : FollowsFrom options visitor context keeps { w with store := s } above g (x' a) (x a)) :
    FollowsFrom options visitor context keeps w above g
      (Act.placed (.inside above) (liftM read) >>= x') (liftM read >>= x) := by
  have ha : (liftM read : Act σ α).runOn w = (.ok a, { w with store := s }) := by
    rw [Act.runOn_action, hr]
  have hrec := Act.records_placed_ok (.inside above) (Act.records_unmarked (liftM read) w) ha
  have hq : Quiet keeps w { w with store := s } := ⟨s, hk, rfl⟩
  rcases h with hs | ⟨seg, hseg, hc⟩
  · exact .inl (hs.quiet hq)
  refine .inr ⟨[] ++ seg, hrec.bind_ok ha hseg, ?_⟩
  rw [Act.runOn_bind_ok ha]
  rcases hb : (x a).runOn { w with store := s } with ⟨e | _, w₂⟩
  · rw [hb] at hc
    exact hc.quiet hq
  · rw [hb] at hc
    exact ⟨trans_of keeps hk hc.1, hc.2.quiet hq⟩

theorem Follows.mono {s₁ : Store} (h : Follows options visitor context keeps s₀ above g act' act)
    (hk : keeps s₀ s₁) : Follows options visitor context keeps s₁ above g act' act :=
  fun w hw => h w (trans_of keeps hk hw)

theorem Reads.follows {read : Action α} {a : α} {x' : α → Act (Traced σ) Unit}
    {x : α → Act σ Unit} (hr : Reads keeps s₀ read a)
    (h : Follows options visitor context keeps s₀ above g (x' a) (x a)) :
    Follows options visitor context keeps s₀ above g
      (Act.placed (.inside above) (liftM read) >>= x') (liftM read >>= x) := by
  intro w hw
  obtain ⟨s, hs, hk⟩ := hr w.store hw
  exact followsFrom_ok hs hk (h _ (trans_of keeps hw hk))

theorem Reads.follows_quietly {read : Action Unit} (hr : Reads keeps s₀ read ()) :
    Follows options visitor context keeps s₀ above .done
      (Act.placed (.inside above) (liftM read)) (liftM read) := by
  have hd : Follows options visitor context keeps s₀ above .done (pure ()) (pure ()) := follows_done
  have h := hr.follows hd
  rwa [bind_pure, bind_pure] at h

/-- How the course of a frame ends, after what is inside. -/
theorem course_leave {f : Frame} (inner : Forest) {w w₁ w₂ : World σ} {pruned : Bool}
    {seg : List (Mark σ)}
    (hr : (enterFrame options visitor context f).runOn w = (.ok pruned, w₁))
    (hc : Course options visitor context keeps (f :: above) (if pruned then .done else inner) w₁ seg
      w₂) (hk : keeps w.store w₂.store) :
    Stopped options visitor context keeps .strayed above (.frame f inner .done) w ∨
    ∃ seg', Act.Records (tracedLeave visitor context f above) (leaveFrame visitor context f) w₂ seg' ∧
      match (leaveFrame visitor context f).runOn w₂ with
      | (.ok _, w') => keeps w.store w'.store ∧
          Course options visitor context keeps above (.frame f inner .done) w
            (.entered (f :: above) :: hookMarks visitor context .enter f above w ++
              ((if pruned then [.pruned (f :: above)] else []) ++ (seg ++ seg'))) w'
      | (.error _, _) =>
          Stopped options visitor context keeps .failed above (.frame f inner .done) w := by
  have hq (w : World σ) : Quiet keeps w w := ⟨w.store, refl_of keeps _, rfl⟩
  rcases hr' : (leaveFrame visitor context f).runOn w₂ with ⟨e | _, w₃⟩
  · refine .inr ⟨_, records_tracedLeave_error above hr', .leave (hq w) hr hc ?_⟩
    rw [hr']
    exact trivial
  · by_cases hk' : keeps w₂.store w₃.store
    · have h := Course.frame (hq w) hr hc hr' (.done (hq w₃))
      rw [List.append_nil] at h
      exact .inr ⟨_, records_tracedLeave_ok above hr', trans_of keeps hk hk', h⟩
    · refine .inl (.leave (hq w) hr hc ?_)
      rw [hr']
      exact hk'

theorem follows_frame {f : Frame} {inner : Forest} {inner' : Act (Traced σ) Unit}
    {innerAct : Act σ Unit}
    (hi : Follows options visitor context keeps s₀ (f :: above) inner inner' innerAct) :
    Follows options visitor context keeps s₀ above (.frame f inner .done)
      (tracedFrame options visitor context f above inner')
      (Act.framed (enterFrame options visitor context f) innerAct (leaveFrame visitor context f)) := by
  intro w hw
  have hq (w : World σ) : Quiet keeps w w := ⟨w.store, refl_of keeps _, rfl⟩
  unfold FollowsFrom
  rcases hr : (enterFrame options visitor context f).runOn w with ⟨e | pruned, w₁⟩
  · refine .inr ⟨_, (records_tracedEnter_error above hr).framed_error hr, ?_⟩
    rw [Act.framed_error hr]
    refine .enter (hq w) ?_
    rw [hr]
    exact trivial
  by_cases hk : keeps w.store w₁.store
  swap
  · refine .inl (.enter (hq w) ?_)
    rw [hr]
    exact hk
  cases pruned with
  | false =>
    rw [Act.framed_entered hr]
    rcases hi w₁ (trans_of keeps hw hk) with hs | ⟨seg, hseg, hc⟩
    · exact .inl (.inner (hq w) hr hs)
    rcases hri : innerAct.runOn w₁ with ⟨e | _, w₂⟩
    · rw [hri] at hc
      refine .inr ⟨_, (records_tracedEnter_ok above hr).framed_entered hr (hseg.bind_error hri), ?_⟩
      rw [Act.runOn_bind_error hri]
      exact .inner (hq w) hr hc
    · rw [hri] at hc
      refine (course_leave inner hr hc.2 (trans_of keeps hk hc.1)).imp_right ?_
      rintro ⟨seg', hseg', hc'⟩
      refine ⟨_, (records_tracedEnter_ok above hr).framed_entered hr (hseg.bind_ok hri hseg'), ?_⟩
      rw [Act.runOn_bind_ok hri, List.append_assoc]
      exact hc'
  | true =>
    refine (course_leave inner hr (Course.done (hq w₁)) hk).imp_right ?_
    rintro ⟨seg', hseg', hc'⟩
    refine ⟨_, (records_tracedEnter_ok above hr).framed_pruned hr hseg', ?_⟩
    rw [Act.framed_pruned hr, List.append_assoc]
    exact hc'

/-- A course through frames that keep the tree keeps it. -/
theorem Course.store {w w' : World σ} {seg : List (Mark σ)}
    (hg : g.All (Passable options visitor context keeps s₀)) (hw : keeps s₀ w.store)
    (h : Course options visitor context keeps above g w seg w') : keeps w.store w'.store := by
  induction g generalizing above w w' seg with
  | done =>
    cases h with
    | done hq => exact hq.store
  | broken => cases h
  | frame f inner rest ihi ihr =>
    cases h with
    | @frame _ _ _ _ _ w₀ w₁ w₂ w₃ _ pruned _ _ hq he hi hl hr =>
      obtain ⟨hf, hgi, hgr⟩ := hg
      have h₀ := hq.store
      have h₁ := trans_of keeps h₀ (hf.enter (trans_of keeps hw h₀) he)
      have h₂ : keeps w₁.store w₂.store := by
        cases pruned with
        | true =>
          cases hi with
          | done hq => exact hq.store
        | false => exact ihi hgi (trans_of keeps hw h₁) hi
      have h₃ := trans_of keeps h₁ h₂
      have h₄ := trans_of keeps h₃ (hf.leave (trans_of keeps hw h₃) hl)
      exact trans_of keeps h₄ (ihr hgr (trans_of keeps hw h₄) hr)

/-- A walk through frames that keep the tree does not stray. -/
theorem not_strayed {w : World σ} (hg : g.All (Passable options visitor context keeps s₀))
    (hw : keeps s₀ w.store) : ¬ Stopped options visitor context keeps .strayed above g w := by
  induction g generalizing above w with
  | done => nofun
  | broken => nofun
  | frame f inner rest ihi ihr =>
    obtain ⟨hf, hgi, hgr⟩ := hg
    have hp : ∀ pruned : Bool, (if pruned then Forest.done else inner).All
        (Passable options visitor context keeps s₀) := by
      rintro (_ | _)
      · exact hgi
      · exact trivial
    intro h
    cases h with
    | enter hq he => exact hf.enter.not_strayed (trans_of keeps hw hq.store) he
    | inner hq he hi =>
      have h₀ := trans_of keeps hw hq.store
      exact ihi hgi (trans_of keeps h₀ (hf.enter h₀ he)) hi
    | leave hq he hi hl =>
      have h₀ := trans_of keeps hw hq.store
      have h₁ := trans_of keeps h₀ (hf.enter h₀ he)
      exact hf.leave.not_strayed (trans_of keeps h₁ (hi.store (hp _) h₁)) hl
    | rest hq he hi hl hr =>
      have h₀ := trans_of keeps hw hq.store
      have h₁ := trans_of keeps h₀ (hf.enter h₀ he)
      have h₂ := trans_of keeps h₁ (hi.store (hp _) h₁)
      exact ihr hgr (trans_of keeps h₂ (hf.leave h₂ hl)) hr

end

/-! ### Frames of a tree -/

/-- A frame whose kind is a text, and which has a text itself if what is skipped is logged. -/
structure Namable (options : WalkOptions) (keeps : Store → Store → Prop) (s₀ : Store) (f : Frame) :
    Prop where
  kind : ∃ kind, f.kind = .text kind
  text : options.debug = true → ∃ text, Reads keeps s₀ (Action.frameText f) text

section

variable {σ : Type} {options : WalkOptions} {keeps : Store → Store → Prop} {s₀ : Store} {f : Frame}

/-- All frames of a tree can be named. -/
theorem View.Stands.namable {view : View} {root : Value} (hS : view.Stands keeps s₀ options root)
    (depth : Nat) : (view.node options.table depth root).All (Namable options keeps s₀) := by
  refine all_node (fun {v key kind} hw => ?_) (fun {kind e} _ hb => ?_) (fun _ => id)
    (fun _ hb => hb.reached) (fun {v kind} hr _ => ?_) depth .root
  · exact ⟨⟨_, rfl⟩, fun hd => hS.listText hd hw⟩
  · exact ⟨⟨_, rfl⟩, fun hd => hS.nodeText hd hb.reached⟩
  · exact ⟨⟨_, rfl⟩, fun hd => hS.nodeText hd hr⟩

variable [IsPreorder Store keeps]

/-- What is logged when something is skipped changes nothing else. -/
theorem Namable.runOn_endEnter (hf : Namable options keeps s₀ f) (pruned : Bool) {w : World σ}
    (hw : keeps s₀ w.store) :
    ∃ w', (endEnter options f.kind f.node? pruned).runOn w = (.ok pruned, w') ∧
      keeps w.store w'.store ∧ w'.state = w.state := by
  unfold endEnter
  dsimp only
  split
  · rename_i h
    obtain ⟨text, ht⟩ := hf.text (Bool.and_eq_true_iff.mp h).2
    obtain ⟨s, hs, hk⟩ := ht w.store hw
    unfold Action.frameText at hs
    rcases hn : f.node? with - | node
    · rw [hn] at hs
      have ha : (liftM (Action.text f.kind) : Act σ String).runOn w =
          (.ok text, { w with store := s }) := by
        rw [Act.runOn_action, hs]
      exact ⟨_, Act.runOn_bind_ok ha _, hk, rfl⟩
    · rw [hn] at hs
      have ha : (liftM (Action.describedText node) : Act σ String).runOn w =
          (.ok text, { w with store := s }) := by
        rw [Act.runOn_action, hs]
      exact ⟨_, Act.runOn_bind_ok ha _, hk, rfl⟩
  · exact ⟨w, rfl, refl_of keeps _, rfl⟩

end

/-! ### Visitors that keep the tree -/

section

variable {σ : Type} {options : WalkOptions} {visitor : Visitor σ} {context : Value}
  {keeps : Store → Store → Prop} {s₀ : Store}

/-- Methods that keep the tree do so in a walk. -/
theorem Visitor.Harmless.judge (hv : visitor.Harmless keeps s₀) {kind : String}
    {direction : Direction} {w w' : World σ} {hook : Hook σ} (hw : keeps s₀ w.store)
    (hr : (visitor.hook? ⟨.text kind, direction, false⟩).runOn w = (.ok (some hook), w'))
    (args : List Value) (k : Value) (node? : Option Value) :
    Act.Keeping keeps s₀ (Act.judge (hook args) (abort k direction node?)) :=
  fun _ _ _ hw₁ h => hv.method hw hr args hw₁ (Act.judge_ok (fails_abort k direction node?) h)

variable [IsPreorder Store keeps]

theorem Visitor.Harmless.passable (hv : visitor.Harmless keeps s₀) {f : Frame}
    (hf : Namable options keeps s₀ f) : Passable options visitor context keeps s₀ f := by
  obtain ⟨kind, hk⟩ := hf.kind
  refine ⟨⟨kind, hk⟩, ?_, ?_⟩
  · rw [enterFrame, enterStep_eq]
    rw [hk]
    refine (hv.lookup kind _).bind fun w hook? w₁ hw hr => ?_
    cases hook? with
    | none => exact Act.keeping_pure false
    | some hook =>
      refine (hv.judge hw hr _ _ _).bind fun _ pruned _ _ _ => ?_
      rw [← hk]
      intro w₂ b w₃ hw₂ h
      obtain ⟨w₄, h₄, hk₄, -⟩ := hf.runOn_endEnter pruned hw₂
      obtain rfl : w₄ = w₃ := congrArg Prod.snd (h₄.symm.trans h)
      exact hk₄
  · rw [leaveFrame, leaveStep_eq, hk]
    refine (hv.lookup kind _).bind fun w hook? w₁ hw hr => ?_
    cases hook? with
    | none => exact Act.keeping_pure ()
    | some hook => exact (hv.judge hw hr _ _ _).bind fun _ _ _ _ _ => Act.keeping_pure ()

theorem all_passable {view : View} {root : Value} (hS : view.Stands keeps s₀ options root)
    (hv : visitor.Harmless keeps s₀) (depth : Nat) :
    (view.node options.table depth root).All (Passable options visitor context keeps s₀) :=
  (hS.namable depth).mono fun _ hf => hv.passable hf

end

/-! ### Walks over a tree that a view stands for -/

section

variable {σ : Type} {options : WalkOptions} {visitor : Visitor σ} {context : Value}
  {keeps : Store → Store → Prop} [IsPreorder Store keeps] {s₀ : Store} {view : View} {root : Value}
  (hS : view.Stands keeps s₀ options root)

section

variable {visit' : Path → Value → Act (Traced σ) Unit} {visit : Value → Act σ Unit}
  {forest : Value → Forest}
  (hn : ∀ above v, view.Reached options.table root v →
    Follows options visitor context keeps s₀ above (forest v) (visit' above v) (visit v))
include hS hn

theorem follows_element {v e : Value} {key kind : String} {elements : List Value}
    (hw : view.Walked options.table root v key kind) (hs : view.shown v key = .items elements)
    (he : e ∈ elements) (above : Path) :
    Follows options visitor context keeps s₀ above (view.element forest kind e)
      (tracedElement options visitor context visit' kind above e)
      (walkElement options visitor context visit kind e) := by
  have hf := hS.fits hw hs he
  unfold View.element
  by_cases hfits : view.fits kind e = true
  · obtain ⟨hw, nodeKind, hk, hm⟩ := hw
    have hreach := View.Reached.element hw hk hm hs he hfits
    rw [if_pos hfits] at hf ⊢
    unfold Action.belongs at hf
    unfold tracedElement
    rcases hc : variants? kind with - | classes
    · rw [hc] at hf
      rw [walkElement_plain options visitor context visit hc]
      exact hf.follows (hn above e hreach)
    · rw [hc] at hf
      rw [walkElement_variant options visitor context visit hc]
      refine hf.follows (follows_frame ?_)
      exact (hn _ e hreach).onReport _
  · rw [if_neg hfits] at hf ⊢
    unfold Action.belongs at hf
    unfold tracedElement
    rcases hc : variants? kind with - | classes
    · rw [hc] at hf
      rw [walkElement_plain options visitor context visit hc]
      exact follows_reject hf
    · rw [hc] at hf
      rw [walkElement_variant options visitor context visit hc]
      exact follows_reject hf

theorem follows_list {v nodes : Value} {key kind : String} {s : Store}
    (hw : view.Walked options.table root v key kind) (hk : keeps s₀ s)
    (hh : Holds keeps s nodes (view.shown v key)) (above : Path) :
    Follows options visitor context keeps s above (view.list forest kind (view.shown v key))
      (tracedList options visitor context visit' kind above nodes)
      (walkList options visitor context visit kind nodes) := by
  rw [walkList_eq]
  rcases hs : view.shown v key with - | - | - | elements
  · rw [hs] at hh
    exact hh.follows
  · rw [hs] at hh
    exact hh.follows follows_done
  · rw [hs] at hh
    exact hh.1.follows (follows_frame hh.2.follows)
  · rw [hs] at hh
    refine hh.1.follows (follows_frame (hh.2.1.follows (follows_forM elements ?_)))
    intro e hm
    have h := (follows_element hS hn hw hs hm (.list kind :: above)).mono hk
    have h' := (Follows.within h (.element (plainKind kind))).append hh.2.2.follows_quietly
    rwa [Forest.append_done] at h'

theorem follows_lists {v : Value} {kind : String} (hr : view.Reached options.table root v)
    (hk : view.kind? v = some kind) (above : Path) :
    Follows options visitor context keeps s₀ above
      (view.lists forest (options.table.entries kind) v)
      (tracedLists options visitor context visit' (.text kind) v above)
      (walkLists options visitor context visit (.text kind) v) := by
  have hkind := hS.kind hr
  rw [hk] at hkind
  refine hkind.2.follows (follows_forM _ ?_)
  rintro ⟨key, listKind⟩ hm
  have hw : view.Walked options.table root v key listKind := ⟨hr, kind, hk, hm⟩
  refine Follows.within (fun w hk => ?_) _
  rcases hS.shows hw w.store hk with ⟨nodes, s, hs, hk', hh⟩ | ⟨hu, e, s, hs⟩
  · have hk₁ := trans_of keeps hk hk'
    refine followsFrom_ok hs hk' ?_
    exact follows_list hS hn hw hk₁ hh above _ (refl_of keeps _)
  · dsimp only
    rw [hu]
    exact followsFrom_error hs

end

include hS in
theorem follows_node (depth : Nat) (above : Path) (v : Value)
    (hr : view.Reached options.table root v) :
    Follows options visitor context keeps s₀ above (view.node options.table depth v)
      (tracedNode options visitor context depth above v)
      (walkNode options visitor context depth v) := by
  induction depth generalizing above v with
  | zero =>
    refine follows_broken (Act.exists_records_placed _ (throw .tooDeep)) fun w _ w' => ?_
    nofun
  | succ depth ih =>
    have hkind := hS.kind hr
    rw [walkNode_succ]
    unfold View.node
    rcases hk : view.kind? v with - | kind
    · rw [hk] at hkind
      exact hkind.follows
    · rw [hk] at hkind
      refine hkind.1.follows (follows_frame ?_)
      exact follows_lists hS ih hr hk _

include hS in
/-- A walk over a tree that a view stands for goes through the forest of the view. -/
theorem follows_walk :
    Follows options visitor context keeps s₀ [] (view.node options.table options.depthLimit root)
      (tracedWalk options visitor context root) (walk options visitor context root) :=
  hS.accepted.follows ((follows_node hS _ [] root .root).onReport _)

end
end GraphQLTree
