import GraphQLTree.Proofs.GroupWalk

/-! # Groups of visitors are flattened

It does not matter how visitors in lockstep are grouped: a walk of visitors in lockstep of which some are
visitors in lockstep themselves makes the same calls as a walk of all visitors in one lockstep, in the
same order, and ends in the same way (`walk_flattened`). The visitors must leave the bookkeepings alone.
The calls are told by records that are kept under the numbers of the visitors in one lockstep; keeping
them changes nothing (`tallies_lockstep`). -/

namespace GraphQLTree

/-! ### Members that keep a record -/

section

variable {σ : Type} {P : List Note → Prop} (hP : Piecewise P) (books : Part σ Bookkeeping)
include hP

theorem tallies_member {hook'? : Option (Hook (σ × List Note))} {hook? : Option (Hook σ)}
    (h : Option.Rel (HookTallies P) hook'? hook?) (d : Direction) (depth : Int) (args : List Value)
    (round i : Nat) :
    Act.Tallies P Eq (Lockstep.member d depth args books.lifted round i hook'?)
      (Lockstep.member d depth args books round i hook?) := by
  have hcalls : Option.Rel (CallsTally P args) hook'? hook? := by
    cases h with
    | none => exact .none
    | some h => exact .some (h args)
  cases d with
  | enter => exact tallies_enterMember books hP.nil hcalls round depth
  | leave => exact tallies_leaveMember books hP.nil hcalls round depth

theorem tallies_each {hooks' : List (Option (Hook (σ × List Note)))}
    {hooks : List (Option (Hook σ))} (h : List.Forall₂ (Option.Rel (HookTallies P)) hooks' hooks)
    (d : Direction) (depth : Int) (args : List Value) (round first : Nat) :
    Act.Tallies P Eq (Lockstep.each (Lockstep.member d depth args books.lifted round) first hooks')
      (Lockstep.each (Lockstep.member d depth args books round) first hooks) := by
  induction h generalizing first with
  | nil => exact (Act.agree_pure rfl).mono fun h => h ▸ hP.nil
  | cons hr _ ih =>
    exact (tallies_member hP books hr d depth args round first).bind hP fun _ _ _ => ih (first + 1)

theorem tallies_method {hooks' : List (Option (Hook (σ × List Note)))}
    {hooks : List (Option (Hook σ))} (h : List.Forall₂ (Option.Rel (HookTallies P)) hooks' hooks)
    (d : Direction) :
    HookTallies P (Lockstep.method books.lifted d hooks') (Lockstep.method books d hooks) := by
  intro args
  cases d with
  | enter =>
    refine .after hP.nil (agree_change books _) fun _ _ _ => ?_
    refine .after hP.nil (agree_read books) fun b' b hb => ?_
    subst hb
    refine (tallies_each hP books h .enter _ args _ 0).andThen fun _ _ _ => ?_
    refine (agree_read books).andThen fun b₁' b₁ hb₁ => ?_
    subst hb₁
    exact Act.agree_pure rfl
  | leave =>
    refine .after hP.nil (agree_read books) fun b' b hb => ?_
    subst hb
    refine .after hP.nil (agree_change books _) fun _ _ _ => ?_
    exact (tallies_each hP books h .leave _ args _ 0).andThen fun _ _ _ => Act.agree_pure rfl

/-- Visitors in lockstep that keep records do what they do without. -/
theorem tallies_lockstep {members' : List (Visitor (σ × List Note))} {members : List (Visitor σ)}
    (h : List.Forall₂ (Visitor.Tallies P) members' members) :
    (lockstep books.lifted members').Tallies P (lockstep books members) := by
  have hlookups (lookup : Lookup) : Act.Agree (List.Forall₂ (Option.Rel (HookTallies P)))
      (members'.mapM fun v => v.hook? lookup) (members.mapM fun v => v.hook? lookup) := by
    induction h with
    | nil => exact Act.agree_pure .nil
    | cons hv _ ih =>
      rw [List.mapM_cons, List.mapM_cons]
      refine (hv lookup).andThen fun hook'? hook? hr => ?_
      exact ih.andThen fun hooks' hooks hrs => Act.agree_pure (.cons hr hrs)
  intro lookup
  rw [lockstep_hook?, lockstep_hook?]
  unfold lockstepHooks
  rw [h.length_eq]
  have hmethods := (hlookups { lookup with relayed := true }).andThen
    fun hooks' hooks hrs => Act.agree_pure (R := Option.Rel (HookTallies P))
      (.some (tallies_method hP books hrs lookup.direction))
  split
  · rw [bind_assoc, bind_assoc]
    exact (agree_change books _).andThen fun _ _ _ => hmethods
  · exact hmethods

end

namespace Grouping

variable {σ : Type}

/-- Visitors in groups that keep a record of their calls, under their numbers among all visitors. -/
def recorded : Nat → Grouping σ → Grouping (σ × List Note)
  | _, nil => nil
  | i, single v rest => single (v.recorded i) (rest.recorded (i + 1))
  | i, group inner rest =>
    group (inner.recorded i) (rest.recorded (i + inner.visitors.length))

theorem visitors_recorded (G : Grouping σ) (i : Nat) :
    (G.recorded i).visitors = G.visitors.mapIdx fun j v => v.recorded (i + j) := by
  induction G generalizing i with
  | nil => rfl
  | single v rest ih =>
    unfold recorded visitors
    rw [ih, List.mapIdx_cons]
    refine congrArg _ (congrArg (List.mapIdx · _) (funext fun j => ?_))
    rw [Nat.add_assoc, Nat.add_comm 1]
  | group inner rest ih ih' =>
    unfold recorded visitors
    rw [ih, ih', List.mapIdx_append]
    refine congrArg _ (congrArg (List.mapIdx · _) (funext fun j => ?_))
    rw [Nat.add_assoc, Nat.add_comm j]

theorem tallies_recorded (i : Nat) (v : Visitor σ) :
    (v.recorded i).Tallies (fun _ => True) v := by
  intro lookup
  refine (recorded_tallies i v lookup).weaken fun hook'? hook? h => ?_
  cases h with
  | none => exact .none
  | some h => exact .some fun args => (h args).mono fun _ => trivial

theorem piecewise_true : Piecewise fun _ : List Note => True :=
  ⟨trivial, fun _ _ => trivial⟩

theorem tallies_visitors (G : Grouping σ) (i : Nat) :
    List.Forall₂ (Visitor.Tallies fun _ => True) (G.recorded i).visitors G.visitors := by
  induction G generalizing i with
  | nil => exact .nil
  | single v rest ih => exact .cons (tallies_recorded i v) (ih (i + 1))
  | group inner rest ih ih' => exact List.rel_append (ih i) (ih' (i + inner.visitors.length))

theorem tallies_members (books : Turns → Part σ Bookkeeping) (G : Grouping σ) (i : Nat)
    (p : Turns) :
    List.Forall₂ (Visitor.Tallies fun _ => True)
      ((G.recorded i).members (fun q => (books q).lifted) p) (G.members books p) := by
  induction G generalizing i p with
  | nil => exact .nil
  | single v rest ih => exact .cons (tallies_recorded i v) (ih (i + 1) _)
  | group inner rest ih ih' =>
    exact .cons (tallies_lockstep piecewise_true _ (ih i _)) (ih' (i + inner.visitors.length) _)

/-! ### New groups -/

/-- The number of members. -/
def width : Grouping σ → Nat
  | nil => 0
  | single _ rest => rest.width + 1
  | group _ rest => rest.width + 1

/-- All groups in a list of members are new. -/
def New (books : Turns → Part σ Bookkeeping) (state : σ) : Turns → Grouping σ → Prop
  | _, nil => True
  | p, single _ rest => rest.New books state (false :: p)
  | p, group inner rest => (books (true :: p)).get state = .fresh inner.width ∧
    inner.New books state (true :: p) ∧ rest.New books state (false :: p)

theorem New.holds {books : Turns → Part σ Bookkeeping} {state : σ} {p : Turns} {G : Grouping σ}
    (h : G.New books state p) : G.Holds 0 (fun q => (books q).get state) p
      (List.replicate G.visitors.length 0) (List.replicate G.width 0) := by
  induction G generalizing p with
  | nil => exact .nil
  | single v rest ih => exact .single (Int.le_refl 0) (Int.le_refl 0) (ih h)
  | group inner rest ih ih' =>
    obtain ⟨hfresh, hinner, hrest⟩ := h
    have hmark := groupMark_replicate inner.width
    have hshows : ((books (true :: p)).get state).Shows 0
        (groupDepth 0 (List.replicate inner.width 0)) (List.replicate inner.width 0) := by
      rw [hfresh, groupDepth_of_groupMark hmark]
      exact ⟨rfl, rfl, rfl⟩
    have hall := Holds.group (ih hinner) hshows (ih' hrest)
    rw [hmark, List.replicate_append_replicate] at hall
    unfold visitors
    rw [List.length_append]
    exact hall

theorem width_recorded (G : Grouping σ) (i : Nat) : (G.recorded i).width = G.width := by
  induction G generalizing i with
  | nil => rfl
  | single v rest ih => exact congrArg (· + 1) (ih _)
  | group inner rest _ ih => exact congrArg (· + 1) (ih _)

theorem New.recorded {books : Turns → Part σ Bookkeeping} {state : σ} {p : Turns} {G : Grouping σ}
    (h : G.New books state p) (notes : List Note) (i : Nat) :
    (G.recorded i).New (fun q => (books q).lifted) (state, notes) p := by
  induction G generalizing p i with
  | nil => exact trivial
  | single v rest ih => exact ih h _
  | group inner rest ih ih' =>
    obtain ⟨hfresh, hinner, hrest⟩ := h
    exact ⟨hfresh.trans (congrArg _ (inner.width_recorded i).symm), ih hinner i, ih' hrest _⟩

end Grouping

/-! ### Walks -/

section

variable {σ : Type} {books : Turns → Part σ Bookkeeping} {keeps : Store → Store → Prop}
  [IsPreorder Store keeps] {s₀ : Store} {options : WalkOptions} {context root : Value}
  {P : Frame → Prop} {G : Grouping σ}

omit [IsPreorder Store keeps] in
theorem Nested.restartsAt {f : Frame} (hf : Nested options keeps s₀ f) :
    Lockstep.restartsAt ⟨f.kind, .enter, false⟩ = false := by
  simp [Lockstep.restartsAt, hf.not_document, hf.not_schema]

/-- Visitors in groups lead their walk alongside the same visitors in one lockstep. -/
theorem Grouping.alongside {T T' : Face σ → Face σ → Prop} (hshelves : Shelves books)
    (hT : Unbooked books T) (hlogs : LogsTogether T) (hfalls : ∀ {a c}, T a c → T' a c)
    (hplain : ∀ v ∈ G.visitors, v.Detached books keeps s₀ T T' context P) :
    Alongside options context keeps s₀ (lockstep (books []) (G.members books []))
      (lockstep (books []) G.visitors) (fun f => Nested options keeps s₀ f ∧ P f)
      (fun f => Namable options keeps s₀ f ∧ P f) (G.Level books T) T' where
  falls := fun ⟨_, _, _, _, _, _, hheld, _⟩ => hfalls hheld.faces
  opens hf := ⟨hf.1.namable, hf.2⟩
  enters hf _ := stepsPair_enter hshelves hT hf.1.namable hf.2 hplain hlogs
    fun h => nomatch hf.1.restartsAt.symm.trans h
  leaves hf _ := stepsPair_leave hshelves hT hf.1 hf.2 hplain

omit [IsPreorder Store keeps] in
theorem Shelves.lifted (h : Shelves books) :
    Shelves fun q => ((books q).lifted : Part (σ × List Note) Bookkeeping) where
  lawful q := (h.lawful q).lifted
  other_set hq b state := h.other_set hq b state.1

theorem Unbooked.noted {T : Face σ → Face σ → Prop} (h : Unbooked books T) :
    Unbooked (fun q => (books q).lifted) (Noted T) where
  left q b hr := ⟨h.left q b hr.1, hr.2⟩
  right q b hr := ⟨h.right q b hr.1, hr.2⟩

omit [IsPreorder Store keeps] in
theorem Visitor.Detached.recorded {T T' : Face σ → Face σ → Prop} {v : Visitor σ}
    (h : v.Detached books keeps s₀ T T' context P) (i : Nat) :
    (v.recorded i).Detached (fun q => (books q).lifted) keeps s₀ (Noted T) (Noted T') context P where
  alike := h.alike.recorded i
  aloof q := (h.aloof q).recorded i

omit [IsPreorder Store keeps] in
theorem Grouping.Level.of_new {T : Face σ → Face σ → Prop} {a c : Face σ} (hr : T a c)
    (hnew : (books []).get a.1 = .fresh G.width) (hgroups : G.New books a.1 [])
    (hflat : (books []).get c.1 = .fresh G.visitors.length) : G.Level books T 0 a c := by
  refine ⟨fun q => (books q).get a.1, _, _, _, 0, 0, ⟨hr, fun _ => rfl, rfl⟩, hgroups.holds, ?_, ?_⟩
  · rw [hnew]
    exact ⟨rfl, rfl, rfl⟩
  · rw [hflat]
    exact ⟨rfl, rfl, rfl⟩

variable {S : σ → σ → Prop} {view : View} {troubles : Troubles} {w v : World σ}

/-- **Nesting is flattening.** Visitors in groups, to any depth, lead the same walk as the same
visitors in one lockstep, from a document or a schema: with the same calls in the same order, the same
end and the same log. -/
theorem walk_flattened (hshelves : Shelves books) (hbooks : Unbooked books (Beside S))
    (hroot : (view.Stands keeps s₀ options root ∧ view.Troubled troubles keeps s₀ options root) ∨
      ∃ failed, FailsAs keeps s₀ (Action.checkRoot root).perform failed)
    (hbelow : ∀ e, view.Below options.table root e →
      view.kind? e ≠ some "document" ∧ view.kind? e ≠ some "schema")
    (hplain : ∀ v ∈ G.visitors, v.Detached books keeps s₀ (Beside S) (Beside fun _ _ => True) context
      (view.Meets options.table root))
    (hw : keeps s₀ w.store) (hv : keeps s₀ v.store) (hlog : w.log = v.log)
    (hr : S w.state v.state) (hnew : (books []).get w.state = .fresh G.width)
    (hgroups : G.New books w.state []) (hflat : (books []).get v.state = .fresh G.visitors.length) :
    SameWalks options context root w v
      (lockstep (books []) (G.members books []))
      (lockstep (books []).lifted ((G.recorded 0).members (fun q => (books q).lifted) []))
      (lockstep (books []) G.visitors)
      (lockstep (books []).lifted (G.visitors.mapIdx fun i v => v.recorded i)) := by
  rcases hroot with ⟨hS, hT⟩ | ⟨failed, hrefused⟩
  case inr => exact .of_refused hw hv hlog hrefused ..
  have hvisitors : (G.recorded 0).visitors = G.visitors.mapIdx fun i v => v.recorded i := by
    rw [G.visitors_recorded]
    simp only [Nat.zero_add]
  have hrecorded : ∀ v ∈ (G.recorded 0).visitors, v.Detached (fun q => (books q).lifted) keeps s₀
      (Noted (Beside S)) (Noted (Beside fun _ _ => True)) context (view.Meets options.table root) := by
    intro v hv
    rw [hvisitors] at hv
    obtain ⟨i, hi, rfl⟩ := List.mem_mapIdx.mp hv
    exact (hplain _ (List.getElem_mem hi)).recorded i
  have hlogs : LogsTogether (Noted (Beside S)) :=
    LogsTogether.noted (logsTogether_beside S)
  have halongside : Alongside options context keeps s₀ _ _ _ _ _ (Noted (Beside fun _ _ => True)) :=
    Grouping.alongside hshelves.lifted hbooks.noted hlogs
      (fun hr => ⟨⟨trivial, hr.1.2⟩, hr.2⟩) hrecorded
  have hstart : (G.recorded 0).Level (fun q => (books q).lifted) (Noted (Beside S)) 0
      (w.traced []).face (v.traced []).face :=
    .of_new ⟨⟨hr, hlog⟩, rfl⟩ (hnew.trans (congrArg _ (G.width_recorded 0).symm))
      (hgroups.recorded [] 0) (hflat.trans (congrArg _ (by rw [hvisitors, List.length_mapIdx])))
  have hbelow' : view.BelowAll options.table root fun f =>
      Nested options keeps s₀ f ∧ view.Meets options.table root f := ⟨
    fun h => ⟨(hS.nestedBelow hbelow).list h, .list h⟩,
    fun hv h => ⟨(hS.nestedBelow hbelow).variant hv h, .variant hv h⟩,
    fun h hk => ⟨(hS.nestedBelow hbelow).node h hk, .node h hk⟩⟩
  have hwalk := halongside.walk hS hT hbelow' (fun kind hk => by
    have hmet : Namable options keeps s₀ (.node (.text kind) root) ∧
        view.Meets options.table root (.node (.text kind) root) :=
      ⟨⟨⟨kind, rfl⟩, fun hd => hS.nodeText hd .root⟩, .root hk⟩
    exact ⟨hmet, stepsPair_enter hshelves.lifted hbooks.noted hmet.1 hmet.2 hrecorded hlogs
      fun _ => rfl⟩) (w := w.traced []) (v := v.traced []) hw hv hstart
  rw [hvisitors] at hwalk
  obtain ⟨notes, -, hrun⟩ := walk_tallied Grouping.piecewise_true (tallies_lockstep
    Grouping.piecewise_true (books []) (G.tallies_members books 0 [])) options context root w
  obtain ⟨notes', -, hrun'⟩ := walk_tallied Grouping.piecewise_true (tallies_lockstep
    Grouping.piecewise_true (books []) (G.tallies_visitors 0)) options context root v
  rw [hvisitors] at hrun'
  exact .of_walksAlike (fun ⟨_, _, _, _, _, _, hheld, _⟩ => hheld.faces) hwalk ⟨notes, hrun⟩
    ⟨notes', hrun'⟩

end

/-! ### A group in a group -/

/-- A bookkeeping for each way to a group. -/
def shelf (q : Turns) : Part (Turns → Bookkeeping) Bookkeeping :=
  ⟨fun state => state q, fun b state => Function.update state q b⟩

theorem shelves_shelf : Shelves shelf where
  lawful q := by
    refine ⟨fun b state => ?_, fun state => ?_, fun b b' state => ?_⟩
    · exact Function.update_self q b state
    · exact Function.update_eq_self q state
    · exact Function.update_idem b' b state
  other_set hq b state := by
    exact Function.update_of_ne hq b state

theorem entering_aloof {σ β : Type} {part : Part σ β} {kind : String} {run : Act σ Value}
    (h : run.Aloof part) : (entering kind run).Aloof part where
  lookup _ := fun _ _ => rfl
  method := by
    intro lookup w hook w' hr args
    have hhook : (if lookup.kind = .text kind ∧ lookup.direction = .enter then
        some fun _ : List Value => run else none) = some hook :=
      Except.ok.inj (congrArg Prod.fst hr)
    split at hhook
    · obtain rfl := Option.some.inj hhook
      exact h
    · nomatch hhook

/-- A visitor that skips object definitions, in a group with an empty group, and one that fails for a
field, in a group of its own. -/
theorem walk_flattened_smallSchema :
    let skips : Visitor (Turns → Bookkeeping) := entering "object_definition" (pure .skip)
    let fails : Visitor (Turns → Bookkeeping) := raisingVisitor "object_field_definition" "boom"
    let G : Grouping (Turns → Bookkeeping) :=
      .group (.single skips (.group .nil .nil)) (.group (.single fails .nil) .nil)
    let start : World (Turns → Bookkeeping) :=
      ⟨.smallSchema, [], fun q => .fresh (if q = [true, false] then 1 else
        if q = [true, false, true] then 0 else 2)⟩
    SameWalks .standard .null (.ref 0) start start
      (lockstep (shelf []) [lockstep (shelf [true]) [skips, lockstep (shelf [true, false, true]) []],
        lockstep (shelf [true, false]) [fails]])
      (lockstep (shelf []).lifted ((G.recorded 0).members (fun q => (shelf q).lifted) []))
      (lockstep (shelf []) [skips, fails])
      (lockstep (shelf []).lifted [skips.recorded 0, fails.recorded 1]) := by
  intro skips fails G start
  have htroubled : Store.smallSchema.view.Troubled _ Store.Grows _ .standard (.ref 0) :=
    Store.view_troubled Store.treeKeeping_grows Store.smallSchema_ordinary rfl rfl
      ⟨fun _ => .tooDeep, fun _ _ => .tooDeep, fun _ _ => .tooDeep⟩
  have hbelow : ∀ e, Store.smallSchema.view.Below WalkOptions.standard.table (.ref 0) e →
      e ∈ [.ref 2, .ref 4, .ref 5] := fun e he => he.mem (by decide +kernel)
  have hkinds : ∀ e ∈ [Value.ref 2, .ref 4, .ref 5],
      Store.smallSchema.view.kind? e ≠ some "document" ∧
      Store.smallSchema.view.kind? e ≠ some "schema" := by decide +kernel
  have hskips : skips.Detached shelf Store.Grows .smallSchema (Beside fun _ _ => True)
      (Beside fun _ _ => True) .null
      (Store.smallSchema.view.Meets WalkOptions.standard.table (.ref 0)) := by
    refine ⟨entering_alike fun f _ s s' _ _ w v hw => ?_, fun q => entering_aloof fun _ _ => rfl⟩
    exact ⟨.goesOn true, .goesOn true, rfl, rfl, rfl, hw⟩
  have hfails : fails.Detached shelf Store.Grows .smallSchema (Beside fun _ _ => True)
      (Beside fun _ _ => True) .null
      (Store.smallSchema.view.Meets WalkOptions.standard.table (.ref 0)) :=
    ⟨raisingVisitor_alike id rfl _ (by decide), fun q => entering_aloof fun _ _ => rfl⟩
  exact walk_flattened (G := G) (S := fun _ _ => True) shelves_shelf
    ⟨fun _ _ h => ⟨trivial, h.2⟩, fun _ _ h => ⟨trivial, h.2⟩⟩
    (.inl ⟨Store.smallSchema_stands, htroubled⟩) (fun e he => hkinds e (hbelow e he))
    (List.forall_mem_cons.mpr ⟨hskips, List.forall_mem_singleton.mpr hfails⟩)
    (refl_of Store.Grows _) (refl_of Store.Grows _) rfl trivial rfl
    ⟨rfl, ⟨rfl, trivial, trivial⟩, rfl, trivial, trivial⟩ rfl

end GraphQLTree
