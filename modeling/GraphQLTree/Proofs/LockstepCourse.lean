import GraphQLTree.Proofs.LockstepStep

/-! # The course of visitors in lockstep

The marks of visitors in lockstep are tied to the open frames: a mark that is not zero is the depth
of the frame at which the visitor pruned, so that it is never greater than the depth of the walk, and
leaving that frame is what sets it back. With this as the invariant, each visitor goes through the
forest as it does solo (`passed_forest`), whatever the others do. -/

namespace GraphQLTree

/-! ### Frames -/

/-- A visitor with something that is done before each of its methods. -/
def Visitor.announced {σ : Type} (before : Lookup → List Value → Act σ Unit) (visitor : Visitor σ) :
    Visitor σ where
  hook? lookup := return (← visitor.hook? lookup).map fun hook args => do
    before lookup args
    hook args

/-- What is not seen in the bookkeeping and the states of visitors. -/
def Sharing.Ignores {σ : Type} {τ : Nat → Type} (share : Sharing σ τ) (act : Act σ Unit) : Prop :=
  ∀ w, ∃ w', act.runOn w = (.ok (), w') ∧ w'.store = w.store ∧
    share.books.get w'.state = share.books.get w.state ∧
    ∀ i, share.own i w'.state = share.own i w.state

section

variable {σ : Type} {τ : Nat → Type} {share : Sharing σ τ} {keeps : Store → Store → Prop}
  {s₀ : Store} {members : List (Visitor σ)}
  {found : (i : Nat) → τ i → Value → Direction → Option (Hook σ)} {context : Value} {depth : Int}
  {round : Nat} {marks marks' : Nat → Int} {a a' : (i : Nat) → τ i} {w w' : World σ} {f : Frame}
  {options : WalkOptions} {before : Lookup → List Value → Act σ Unit}

/-- The method for a step that is not judged to fail in a walk. -/
theorem runOn_judge {run : Act σ Value} {answer : Value} (h : run.runOn w = (.ok answer, w'))
    (fatal : Ref → Act σ Bool) :
    (Act.judge run fatal).runOn w = (.ok (Action.asksToPrune answer), w') := by
  unfold Act.judge Act.handle
  rw [Act.runOn_tryCatch, Act.runOn_bind_ok h]
  rfl

theorem Amid.ignores (h : Amid share keeps s₀ members depth round marks a w) {act : Act σ Unit}
    (ha : share.Ignores act) :
    ∃ w', act.runOn w = (.ok (), w') ∧ w'.store = w.store ∧
      Amid share keeps s₀ members depth round marks a w' := by
  obtain ⟨w', hr, hs, hb, ho⟩ := ha w
  refine ⟨w', hr, hs, ?_, ?_, fun i hi => ?_⟩
  · rw [hs]
    exact h.store
  · rw [hb]
    exact h.books
  · rw [ho]
    exact h.own i hi

variable (share keeps s₀ members found before) in
/-- Looking up the methods for a frame that is entered gives those of all members, and starts with
the given depth, round and marks. -/
def Opens (f : Frame) (depth : Int) (round : Nat) (marks : Nat → Int) (a : (i : Nat) → τ i)
    (w : World σ) : Prop :=
  ∃ hooks w', (((lockstep share.books members).announced before).hook?
      ⟨f.kind, .enter, false⟩).runOn w = (.ok (some fun args => do
        before ⟨f.kind, .enter, false⟩ args
        Lockstep.enter share.books hooks args), w') ∧
    Hooked members found a f.kind .enter hooks ∧
    Amid share keeps s₀ members depth round marks a w' ∧ keeps w.store w'.store

variable [IsPreorder Store keeps]
  (hplain : ∀ (i : Nat) (v : Visitor σ), members[i]? = some v →
    v.Plain share keeps s₀ i (found i))
include hplain

/-- Below the root, the bookkeeping goes on. -/
theorem opens_below {kind : String} (hk : f.kind = .text kind) (hd : kind ≠ "document")
    (hs : kind ≠ "schema") (h : Amid share keeps s₀ members depth round marks a w) :
    Opens share keeps s₀ members found before f depth round marks a w := by
  obtain ⟨hooks, w', hr, hh, h', hk'⟩ := runOn_memberHooks hplain kind .enter h
  have hrestart : Lockstep.restartsAt ⟨.text kind, .enter, false⟩ = false := by
    simp [Lockstep.restartsAt, hd, hs]
  have hlook : ((lockstep share.books members).hook? ⟨.text kind, .enter, false⟩).runOn w =
      (.ok (some (Lockstep.enter share.books hooks)), w') := by
    unfold lockstep
    dsimp only
    rw [hrestart]
    exact Act.runOn_bind_ok hr _
  refine ⟨hooks, w', ?_, ?_, h', hk'⟩
  · rw [hk]
    exact Act.runOn_bind_ok hlook _
  · rwa [hk]

/-- At the root, the bookkeeping starts anew. -/
theorem opens_root {kind : String} (hk : f.kind = .text kind)
    (hd : kind = "document" ∨ kind = "schema") (hw : keeps s₀ w.store) :
    Opens share keeps s₀ members found before f 0 (share.books.get w.state).rounds.length
      (fun _ => 0) (fun i => share.own i w.state) w := by
  have h : Amid share keeps s₀ members 0 (share.books.get w.state).rounds.length (fun _ => 0)
      (fun i => share.own i w.state) { w with
        state := share.books.set ((share.books.get w.state).restart members.length) w.state } := by
    refine ⟨hw, ?_, fun i _ => share.own_set i _ _⟩
    dsimp only
    rw [share.get_set]
    exact Bookkeeping.marked_restart _ _
  obtain ⟨hooks, w', hr, hh, h', hk'⟩ := runOn_memberHooks hplain kind .enter h
  have hrestart : Lockstep.restartsAt ⟨.text kind, .enter, false⟩ = true := by
    rcases hd with rfl | rfl
    · rfl
    · rfl
  have hlook : ((lockstep share.books members).hook? ⟨.text kind, .enter, false⟩).runOn w =
      (.ok (some (Lockstep.enter share.books hooks)), w') := by
    unfold lockstep
    dsimp only
    rw [hrestart, if_pos rfl, Act.runOn_bind_ok (runOn_change ..)]
    exact Act.runOn_bind_ok hr _
  refine ⟨hooks, w', ?_, ?_, h', hk'⟩
  · rw [hk]
    exact Act.runOn_bind_ok hlook _
  · rwa [hk]

variable (hbefore : ∀ lookup args, share.Ignores (before lookup args))
include hbefore

theorem runOn_enterFrame (hf : Namable options keeps s₀ f)
    (ho : Opens share keeps s₀ members found before f depth round marks a w)
    (he : ∀ i < members.length,
      Enters share keeps s₀ found context f (depth + 1) i (marks i) (marks' i) (a i) (a' i)) :
    ∃ w', (enterFrame options ((lockstep share.books members).announced before) context f).runOn w =
        (.ok ((List.range members.length).all (marks' · != 0)), w') ∧
      Amid share keeps s₀ members (depth + 1) round marks' a' w' ∧ keeps w.store w'.store := by
  obtain ⟨hooks, w₁, hl, hh, h₁, hk₁⟩ := ho
  obtain ⟨w₂, hr₂, hs₂, h₂⟩ := h₁.ignores (hbefore ⟨f.kind, .enter, false⟩
    (hookArgs context f.node?))
  obtain ⟨w₃, hr, h₃, hk₃⟩ := runOn_enter hplain hh h₂ he
  have hj := runOn_judge ((Act.runOn_bind_ok hr₂ fun _ =>
    Lockstep.enter share.books hooks (hookArgs context f.node?)).trans hr)
    (abort f.kind .enter f.node?)
  have hasks : Action.asksToPrune (if (List.range members.length).all (marks' · != 0) then .skip
      else .null) = (List.range members.length).all (marks' · != 0) := by
    cases (List.range members.length).all (marks' · != 0) with
    | true => rfl
    | false => rfl
  rw [hasks] at hj
  obtain ⟨w₄, he, hk₄, hs⟩ := hf.runOn_endEnter
    ((List.range members.length).all (marks' · != 0)) h₃.store
  rw [hs₂] at hk₃
  rw [enterFrame, enterStep_eq, Act.runOn_bind_ok hl, Act.runOn_bind_ok hj, he]
  refine ⟨w₄, rfl, ⟨trans_of keeps h₃.store hk₄, ?_, ?_⟩,
    trans_of keeps hk₁ (trans_of keeps hk₃ hk₄)⟩
  · rw [hs]
    exact h₃.books
  · rw [hs]
    exact h₃.own

theorem runOn_leaveFrame (hf : Namable options keeps s₀ f)
    (h : Amid share keeps s₀ members (depth + 1) round marks a w)
    (hl : ∀ i < members.length,
      Leaves share keeps s₀ found context f (depth + 1) i (marks i) (marks' i) (a i) (a' i)) :
    ∃ w', (leaveFrame ((lockstep share.books members).announced before) context f).runOn w =
        (.ok (), w') ∧
      Amid share keeps s₀ members depth round marks' a' w' ∧ keeps w.store w'.store := by
  obtain ⟨kind, hk⟩ := hf.kind
  obtain ⟨hooks, w₁, hr₁, hh, h₁, hk₁⟩ := runOn_memberHooks hplain kind .leave h
  rw [← hk] at hh
  obtain ⟨w₂, hr₂, hs₂, h₂⟩ := h₁.ignores (hbefore ⟨f.kind, .leave, false⟩
    (hookArgs context f.node?))
  obtain ⟨w₃, hr, h₃, hk₃⟩ := runOn_leave hplain hh h₂ hl
  have hlook : ((lockstep share.books members).hook? ⟨f.kind, .leave, false⟩).runOn w =
      (.ok (some (Lockstep.leave share.books hooks)), w₁) := by
    rw [hk]
    exact Act.runOn_bind_ok hr₁ _
  have hlook' : (((lockstep share.books members).announced before).hook?
      ⟨f.kind, .leave, false⟩).runOn w = (.ok (some fun args => do
        before ⟨f.kind, .leave, false⟩ args
        Lockstep.leave share.books hooks args), w₁) := Act.runOn_bind_ok hlook _
  have hj := runOn_judge ((Act.runOn_bind_ok hr₂ fun _ =>
    Lockstep.leave share.books hooks (hookArgs context f.node?)).trans hr)
    (abort f.kind .leave f.node?)
  rw [hs₂] at hk₃
  rw [leaveFrame, leaveStep_eq, Act.runOn_bind_ok hlook']
  exact ⟨w₃, Act.runOn_bind_ok hj _, h₃, trans_of keeps hk₁ hk₃⟩

/-! ### Forests -/

/-- A walk of the members in lockstep gets through a forest, and ends with the same depth, round and
marks as it began with. -/
structure Passed (options : WalkOptions) (share : Sharing σ τ) (keeps : Store → Store → Prop)
    (s₀ : Store) (members : List (Visitor σ)) (context : Value)
    (before : Lookup → List Value → Act σ Unit) (above : Path) (g : Forest) (depth : Int)
    (round : Nat) (marks : Nat → Int) (a' : (i : Nat) → τ i) (w : World σ) : Prop where
  goes : ∀ stop, ¬ Stopped options ((lockstep share.books members).announced before) context keeps stop above g w
  ends : ∀ {seg w'}, Course options ((lockstep share.books members).announced before) context keeps above g w seg w' →
    Amid share keeps s₀ members depth round marks a' w'

/-- A frame, for all members: what is inside is walked through only if one of them is not
skipping. -/
theorem passed_frame {above : Path} {inner rest : Forest} (hf : Namable options keeps s₀ f)
    (hmarks : ∀ i < members.length, 0 ≤ marks i ∧ marks i ≤ depth)
    (hopen : ∀ w₀, Quiet keeps w w₀ →
      Opens share keeps s₀ members found before f depth round marks a w₀)
    (hsolo : ∀ i < members.length,
      Follow share keeps s₀ found context (.frame f inner rest) i (marks i) (a i) (a' i))
    (hinner : ∀ marks₁ a₁ a₂ w₁, (∀ i < members.length, 0 ≤ marks₁ i ∧ marks₁ i ≤ depth + 1) →
      (∃ i < members.length, marks₁ i = 0) →
      (∀ i < members.length,
        Follow share keeps s₀ found context inner i (marks₁ i) (a₁ i) (a₂ i)) →
      Amid share keeps s₀ members (depth + 1) round marks₁ a₁ w₁ →
      Passed options share keeps s₀ members context before (f :: above) inner (depth + 1) round marks₁ a₂
        w₁)
    (hrest : ∀ a₃ w₃, (∀ i < members.length,
        Follow share keeps s₀ found context rest i (marks i) (a₃ i) (a' i)) →
      Amid share keeps s₀ members depth round marks a₃ w₃ →
      Passed options share keeps s₀ members context before above rest depth round marks a' w₃) :
    Passed options share keeps s₀ members context before above (.frame f inner rest) depth round marks a'
      w := by
  -- what the frame does to each member
  have hsteps : ∀ i, ∃ mark' x₁ x₂ x₃, i < members.length →
      Enters share keeps s₀ found context f (depth + 1) i (marks i) mark' (a i) x₁ ∧
      (0 ≤ mark' ∧ mark' ≤ depth + 1) ∧
      Follow share keeps s₀ found context inner i mark' x₁ x₂ ∧
      Leaves share keeps s₀ found context f (depth + 1) i mark' (marks i) x₂ x₃ ∧
      Follow share keeps s₀ found context rest i (marks i) x₃ (a' i) := by
    intro i
    by_cases hi : i < members.length
    · obtain ⟨mark', x₁, x₂, x₃, h⟩ := (hsolo i hi).frame (hmarks i hi).1 (hmarks i hi).2
      exact ⟨mark', x₁, x₂, x₃, fun _ => h⟩
    · exact ⟨0, a i, a i, a i, fun h => absurd h hi⟩
  choose marks₁ a₁ a₂ a₃ hsteps using hsteps
  have henter := fun w₀ hq =>
    runOn_enterFrame hplain hbefore hf (hopen w₀ hq) fun i hi => (hsteps i hi).1
  have hinside : ∀ w₁, Amid share keeps s₀ members (depth + 1) round marks₁ a₁ w₁ →
      Passed options share keeps s₀ members context before (f :: above)
        (if (List.range members.length).all (marks₁ · != 0) then .done else inner) (depth + 1) round
        marks₁ a₂ w₁ := by
    intro w₁ h₁
    cases hp : (List.range members.length).all (marks₁ · != 0) with
    | true =>
      have hskip : ∀ i < members.length, a₁ i = a₂ i := by
        intro i hi
        have hne : marks₁ i ≠ 0 := by
          simpa using List.all_eq_true.mp hp i (List.mem_range.mpr hi)
        have hfollow := (hsteps i hi).2.2.1
        unfold Follow at hfollow
        rw [if_neg hne] at hfollow
        exact hfollow.symm
      refine ⟨fun _ => nofun, fun hc => ?_⟩
      cases hc with
      | done hq => exact (h₁.quiet hq).congr (fun _ _ => rfl) hskip
    | false =>
      obtain ⟨i, hi, hz⟩ := List.all_eq_false.mp hp
      exact hinner marks₁ a₁ a₂ w₁ (fun i hi => (hsteps i hi).2.1)
        ⟨i, List.mem_range.mp hi, by simpa using hz⟩ (fun i hi => (hsteps i hi).2.2.1) h₁
  have hleave : ∀ w₂, Amid share keeps s₀ members (depth + 1) round marks₁ a₂ w₂ → _ :=
    fun w₂ h₂ => runOn_leaveFrame hplain hbefore hf h₂ fun i hi => (hsteps i hi).2.2.2.1
  have hafter := fun w₃ => hrest a₃ w₃ fun i hi => (hsteps i hi).2.2.2.2
  refine ⟨fun stop h => ?_, fun h => ?_⟩
  · cases h with
    | @enter _ _ _ _ _ _ w₀ hq hat =>
      obtain ⟨w₁, he, h₁, hk⟩ := henter w₀ hq
      rw [he] at hat
      exact Stop.not_at_ok hk hat
    | @inner _ _ _ _ _ _ w₀ _ hq he hs =>
      obtain ⟨_, he', h₁, hk⟩ := henter w₀ hq
      have hp := Except.ok.inj (congrArg Prod.fst (he'.symm.trans he))
      obtain rfl := congrArg Prod.snd (he'.symm.trans he)
      have hin := hinside _ h₁
      rw [hp] at hin
      exact hin.goes stop hs
    | @leave _ _ _ _ _ _ w₀ _ w₂ _ _ hq he hc hat =>
      obtain ⟨_, he', h₁, hk⟩ := henter w₀ hq
      cases he'.symm.trans he
      obtain ⟨w₃, hl, h₃, hk₃⟩ := hleave w₂ ((hinside _ h₁).ends hc)
      rw [hl] at hat
      exact Stop.not_at_ok hk₃ hat
    | @rest _ _ _ _ _ _ w₀ _ w₂ _ _ _ hq he hc hl hs =>
      obtain ⟨_, he', h₁, hk⟩ := henter w₀ hq
      cases he'.symm.trans he
      obtain ⟨_, hl', h₃, hk₃⟩ := hleave w₂ ((hinside _ h₁).ends hc)
      cases hl'.symm.trans hl
      exact (hafter _ h₃).goes stop hs
  · cases h with
    | @frame _ _ _ _ _ w₀ _ w₂ _ _ _ _ _ hq he hc hl hr =>
      obtain ⟨_, he', h₁, hk⟩ := henter w₀ hq
      cases he'.symm.trans he
      obtain ⟨_, hl', h₃, hk₃⟩ := hleave w₂ ((hinside _ h₁).ends hc)
      cases hl'.symm.trans hl
      exact (hafter _ h₃).ends hr

omit hplain hbefore in
/-- At the end of a forest nothing is left to do. -/
theorem passed_done {above : Path} (hsolo : ∀ i < members.length,
      Follow share keeps s₀ found context .done i (marks i) (a i) (a' i))
    (h : Amid share keeps s₀ members depth round marks a w) :
    Passed options share keeps s₀ members context before above .done depth round marks a' w := by
  refine ⟨fun _ => nofun, fun hc => ?_⟩
  cases hc with
  | done hq =>
    exact (h.quiet hq).congr (fun _ _ => rfl) fun i hi => (hsolo i hi).done.symm

/-- A frame that is not the root of a document or a schema. -/
structure Nested (options : WalkOptions) (keeps : Store → Store → Prop) (s₀ : Store) (f : Frame) :
    Prop where
  namable : Namable options keeps s₀ f
  not_document : f.kind ≠ .text "document"
  not_schema : f.kind ≠ .text "schema"

/-- **Members in lockstep.** If each member that is not skipping can go through a forest solo, then
all of them go through it together, and each ends in the state in which it ends solo. -/
theorem passed_forest {above : Path} {g : Forest} (hg : g.All (Nested options keeps s₀))
    (hmarks : ∀ i < members.length, 0 ≤ marks i ∧ marks i ≤ depth)
    (hactive : ∃ i < members.length, marks i = 0)
    (hsolo : ∀ i < members.length,
      Follow share keeps s₀ found context g i (marks i) (a i) (a' i))
    (h : Amid share keeps s₀ members depth round marks a w) :
    Passed options share keeps s₀ members context before above g depth round marks a' w := by
  induction g generalizing above depth marks a a' w with
  | done => exact passed_done hsolo h
  | broken =>
    obtain ⟨i, hi, hz⟩ := hactive
    have hfollow := hsolo i hi
    unfold Follow at hfollow
    rw [if_pos hz] at hfollow
    nomatch hfollow
  | frame f inner rest ihi ihr =>
    obtain ⟨hf, hgi, hgr⟩ := hg
    obtain ⟨kind, hk⟩ := hf.namable.kind
    refine passed_frame hplain hbefore hf.namable hmarks (fun w₀ hq => ?_) hsolo ?_ ?_
    · refine opens_below hplain hk ?_ ?_ (h.quiet hq)
      · rintro rfl
        exact hf.not_document hk
      · rintro rfl
        exact hf.not_schema hk
    · intro marks₁ a₁ a₂ w₁ hm hact hfollow h₁
      exact ihi hgi hm hact hfollow h₁
    · intro a₃ w₃ hfollow h₃
      exact ihr hgr hmarks hactive hfollow h₃

/-- Members in lockstep, from the root of a document or a schema. -/
theorem passed_root {above : Path} {inner : Forest} {kind : String} {v : Value}
    (hf : Namable options keeps s₀ (.node (.text kind) v))
    (hk : kind = "document" ∨ kind = "schema") (hg : inner.All (Nested options keeps s₀))
    (hw : keeps s₀ w.store)
    (hsolo : ∀ i < members.length, Solo share keeps s₀ i (found i) context
      (.frame (.node (.text kind) v) inner .done) (share.own i w.state) (a' i)) :
    Passed options share keeps s₀ members context before above
      (.frame (.node (.text kind) v) inner .done) 0 (share.books.get w.state).rounds.length
      (fun _ => 0) a' w := by
  refine passed_frame (a := fun i => share.own i w.state) hplain hbefore hf (fun _ _ => by omega)
    (fun w₀ hq => ?_) (fun i hi => (if_pos rfl).mpr (hsolo i hi)) ?_ ?_
  · have ho : Opens share keeps s₀ members found before (.node (.text kind) v) 0
        (share.books.get w₀.state).rounds.length (fun _ => 0) (fun i => share.own i w₀.state) w₀ :=
      opens_root hplain rfl hk (trans_of keeps hw hq.store)
    rwa [hq.state] at ho
  · intro marks₁ a₁ a₂ w₁ hm hact hfollow h₁
    exact passed_forest hplain hbefore hg hm hact hfollow h₁
  · intro a₃ w₃ hfollow h₃
    exact passed_done hfollow h₃

/-! ### Walks -/

variable {view : View} {root : Value} {kind : String}

omit hbefore in
/-- A plain visitor that gets through a walk by itself goes through the forest solo. -/
theorem solo_of_walk (hS : view.Stands keeps s₀ options root) (hw : keeps s₀ w.store) {i : Nat}
    {v : Visitor σ} (hi : members[i]? = some v)
    (hr : (walk options v context root).runOn w = (.ok (), w')) :
    Solo share keeps s₀ i (found i) context (view.node options.table options.depthLimit root)
      (share.own i w.state) (share.own i w'.state) := by
  have hv := hplain i v hi
  have hn := hS.namable options.depthLimit
  have hf : Follows options v context keeps s₀ [] _ _ _ := follows_walk hS
  rcases hf w hw with hs | ⟨seg, -, hc⟩
  · exact absurd hs (not_strayed (hn.mono fun _ hf => hv.passable hf) hw)
  · rw [hr] at hc
    exact hv.solo hn hw hc.2

omit [IsPreorder Store keeps] hplain hbefore in
theorem View.Stands.nested_list (hS : view.Stands keeps s₀ options root) {v : Value}
    {key listKind : String} (hw : view.Walked options.table root v key listKind) :
    Nested options keeps s₀ (.list listKind) := by
  have hsuffix : ∀ name, Frame.kind (.list listKind) = .text name →
      "_list".toList <:+ name.toList := by
    intro name h
    rw [← Value.text.inj h]
    exact ⟨listKind.toList, String.toList_append.symm⟩
  refine ⟨⟨⟨_, rfl⟩, fun hd => hS.listText hd hw⟩, fun h => ?_, fun h => ?_⟩
  · exact absurd (hsuffix _ h) (by decide)
  · exact absurd (hsuffix _ h) (by decide)

omit [IsPreorder Store keeps] hplain hbefore in
theorem View.Stands.nested_variant (hS : view.Stands keeps s₀ options root) {listKind : String}
    {e : Value} (hv : variants? listKind ≠ none) (hb : view.Below options.table root e) :
    Nested options keeps s₀ (.variant listKind e) := by
  refine ⟨⟨⟨_, rfl⟩, fun hd => hS.nodeText hd hb.reached⟩, ?_, ?_⟩
  · rintro h
    obtain rfl : listKind = "document" := Value.text.inj h
    exact hv rfl
  · rintro h
    obtain rfl : listKind = "schema" := Value.text.inj h
    exact hv rfl

section

variable (hbelow : ∀ e, view.Below options.table root e →
  view.kind? e ≠ some "document" ∧ view.kind? e ≠ some "schema")
include hbelow

omit [IsPreorder Store keeps] hplain hbefore in
theorem View.Stands.nested_node (hS : view.Stands keeps s₀ options root) {v : Value}
    (hb : view.Below options.table root v) (hk : view.kind? v = some kind) :
    Nested options keeps s₀ (.node (.text kind) v) := by
  refine ⟨⟨⟨_, rfl⟩, fun hd => hS.nodeText hd hb.reached⟩, ?_, ?_⟩
  · rintro h
    obtain rfl : kind = "document" := Value.text.inj h
    exact (hbelow v hb).1 hk
  · rintro h
    obtain rfl : kind = "schema" := Value.text.inj h
    exact (hbelow v hb).2 hk

omit [IsPreorder Store keeps] hplain hbefore in
/-- All frames inside a root are nested, if no other document or schema is reached. -/
theorem nested_lists (hS : view.Stands keeps s₀ options root) (hk : view.kind? root = some kind)
    (depth : Nat) :
    (view.lists (view.node options.table depth) (options.table.entries kind) root).All
      (Nested options keeps s₀) :=
  View.all_lists hS.nested_list hS.nested_variant .root hk fun _ he =>
    View.all_node hS.nested_list hS.nested_variant (fun _ hb => hb.reached) (fun _ => id)
      (hS.nested_node hbelow) depth he

end

/-- Members that get through a walk each by itself get through it in lockstep, and each ends in the
state in which it ends by itself. -/
theorem lockstep_walk (hS : view.Stands keeps s₀ options root) (hdepth : 0 < options.depthLimit)
    (hk : view.kind? root = some kind) (hroot : kind = "document" ∨ kind = "schema")
    (hbelow : ∀ e, view.Below options.table root e →
      view.kind? e ≠ some "document" ∧ view.kind? e ≠ some "schema") (hw : keeps s₀ w.store)
    {ends : Nat → World σ}
    (hends : ∀ (i : Nat) (v : Visitor σ), members[i]? = some v →
      (walk options v context root).runOn w = (.ok (), ends i)) :
    ∃ w', (walk options ((lockstep share.books members).announced before) context root).runOn w = (.ok (), w') ∧
      ∀ i < members.length, share.own i w'.state = share.own i (ends i).state := by
  obtain ⟨depth, hd⟩ : ∃ depth, options.depthLimit = depth + 1 :=
    ⟨options.depthLimit - 1, by omega⟩
  have hforest : view.node options.table options.depthLimit root =
      .frame (.node (.text kind) root)
        (view.lists (view.node options.table depth) (options.table.entries kind) root) .done := by
    rw [hd]
    unfold View.node
    rw [hk]
  have hpassed : Passed options share keeps s₀ members context before []
      (view.node options.table options.depthLimit root) 0 (share.books.get w.state).rounds.length
      (fun _ => 0) (fun i => share.own i (ends i).state) w := by
    rw [hforest]
    refine passed_root hplain hbefore ⟨⟨kind, rfl⟩, fun hd => hS.nodeText hd .root⟩ hroot
      (nested_lists hbelow hS hk depth) hw fun i hi => ?_
    have hi' := List.getElem?_eq_getElem hi
    have hsolo := solo_of_walk hplain hS hw hi' (hends i _ hi')
    rwa [hforest] at hsolo
  have hf : Follows options ((lockstep share.books members).announced before) context keeps s₀ [] _ _ _ :=
    follows_walk hS
  rcases hf w hw with hs | ⟨seg, -, hc⟩
  · exact absurd hs (hpassed.goes .strayed)
  · rcases hr : (walk options ((lockstep share.books members).announced before) context root).runOn w with ⟨e | _, w'⟩
    · rw [hr] at hc
      exact absurd hc (hpassed.goes .failed)
    · rw [hr] at hc
      exact ⟨w', rfl, (hpassed.ends hc.2).own⟩

end
end GraphQLTree
