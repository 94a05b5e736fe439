import GraphQLTree.Proofs.Grouping

/-! # Steps of visitors in groups

Visitors in groups and the same visitors in one lockstep take their steps side by side: the method of a
group belongs to the methods of all visitors in it. All bookkeepings on both sides are known (`Held`),
so that reading them comes to nothing, and only calls of visitors are made on both sides at a time. What
is common to entering and leaving is that a step of a list of members is made up of steps for single
visitors and of steps for groups (`moves_list`). -/

namespace GraphQLTree

/-! ### Steps of one of two walks -/

namespace Act

variable {σ σ' α β γ : Type} {I I' : World σ → World σ' → Prop}
  {J : α → World σ → β → World σ' → Prop} {F : Halt → World σ → Halt → World σ' → Prop}
  {x : Act σ α} {y : Act σ' β}

theorem Pairs.after_left {z : Act σ γ} {c : γ} {f : γ → Act σ α}
    (hz : ∀ w v, I w v → ∃ w', z.runOn w = (.ok c, w') ∧ I' w' v) (h : Pairs I' J F (f c) y) :
    Pairs I J F (z >>= f) y := by
  intro w v hw
  obtain ⟨w', hr, hw'⟩ := hz w v hw
  rw [runOn_bind_ok hr]
  exact h hw'

theorem Pairs.after_right {z : Act σ' γ} {c : γ} {f : γ → Act σ' β}
    (hz : ∀ w v, I w v → ∃ v', z.runOn v = (.ok c, v') ∧ I' w v') (h : Pairs I' J F x (f c)) :
    Pairs I J F x (z >>= f) := by
  intro w v hw
  obtain ⟨v', hr, hv'⟩ := hz w v hw
  rw [runOn_bind_ok hr]
  exact h hv'

theorem Pairs.then_left {K : γ → World σ → β → World σ' → Prop} {f : α → Act σ γ}
    (h : Pairs I J F x y)
    (hf : ∀ a w b v, J a w b v → ∃ c w', (f a).runOn w = (.ok c, w') ∧ K c w' b v) :
    Pairs I K F (x >>= f) y := by
  intro w v hw
  have hrun := h hw
  rw [runOn_bind]
  revert hrun
  rcases x.runOn w with ⟨halt | a, w'⟩
  · rcases y.runOn v with ⟨halt' | b, v'⟩
    · exact id
    · exact False.elim
  · rcases y.runOn v with ⟨halt' | b, v'⟩
    · exact False.elim
    · intro hj
      obtain ⟨c, w₁, hr, hk⟩ := hf a w' b v' hj
      dsimp only
      rw [hr]
      exact hk

end Act

/-- The method of a group is judged in its own lockstep, while its visitors have been judged before. -/
theorem Act.Pairs.judge_left {σ σ' β : Type} {keeps : Store → Store → Prop}
    [IsPreorder Store keeps] {R' : Face σ → Face σ' → Prop} {f : Frame} {d : Direction}
    {s s' : Store} {I : World σ → World σ' → Prop} {K : Bool → World σ → β → World σ' → Prop}
    {x : Act σ Value} {y : Act σ' β}
    (h : Act.Pairs I (fun a w b v => K (Action.asksToPrune a) w b v) (DoomedAlike keeps R' f d s s')
      x y) :
    Act.Pairs I K (DoomedAlike keeps R' f d s s') (Act.judge x Lockstep.rethrow) y := by
  intro w v hw
  have hrun := h hw
  rcases hx : x.runOn w with ⟨halt | a, w'⟩
  · rcases hy : y.runOn v with ⟨halt' | b, v'⟩
    · rw [hx, hy] at hrun
      obtain ⟨failed, hd, hd', hfaces⟩ := hrun
      obtain ⟨s₁, hj, hk, hd₁⟩ := hd.judge_rethrow hx
      rw [hj]
      exact ⟨failed, hd₁, hd', hfaces.restore (trans_of keeps hfaces.left hk) hfaces.right⟩
    · rw [hx, hy] at hrun
      exact hrun.elim
  · rw [hx] at hrun
    rw [runOn_judge hx]
    revert hrun
    rcases y.runOn v with ⟨halt' | b, v'⟩
    · exact False.elim
    · exact id

/-! ### Bookkeepings that are known -/

section

variable {σ : Type}

/-- Bookkeepings of groups in one state, of which each can be changed without the others. -/
structure Shelves (books : Turns → Part σ Bookkeeping) : Prop where
  lawful : ∀ q, (books q).Lawful
  other_set : ∀ {q q'}, q ≠ q' → ∀ b state,
    (books q).get ((books q').set b state) = (books q).get state

/-- A relation for which bookkeepings do not matter. -/
structure Unbooked (books : Turns → Part σ Bookkeeping) (T : Face σ → Face σ → Prop) : Prop where
  left : ∀ {a c} q b, T a c → T ((books q).set b a.1, a.2) c
  right : ∀ {a c} q b, T a c → T a ((books q).set b c.1, c.2)

/-- Related states of visitors in groups and of visitors in one lockstep, with their bookkeepings. -/
structure Held (books : Turns → Part σ Bookkeeping) (T : Face σ → Face σ → Prop)
    (g : Turns → Bookkeeping) (flat : Bookkeeping) (a c : Face σ) : Prop where
  faces : T a c
  left : ∀ q, (books q).get a.1 = g q
  right : (books []).get c.1 = flat

variable {books : Turns → Part σ Bookkeeping} {T T' : Face σ → Face σ → Prop}
  {keeps : Store → Store → Prop} {s₀ s s' : Store} {g : Turns → Bookkeeping} {flat : Bookkeeping}
  {α β : Type} {J : α → World σ → β → World σ → Prop} {F : Halt → World σ → Halt → World σ → Prop}
  {x : Act σ α} {y : Act σ β}

theorem Twin.faced {w v : World σ} (h : Twin keeps (Held books T g flat) s s' w v) :
    Twin keeps T s s' w v :=
  ⟨h.left, h.right, h.faces.faces⟩

theorem pairs_readLeft {f : Bookkeeping → Act σ α} (q : Turns)
    (h : Act.Pairs (Twin keeps (Held books T g flat) s s') J F (f (g q)) y) :
    Act.Pairs (Twin keeps (Held books T g flat) s s') J F ((books q).read >>= f) y :=
  h.after_left fun w _ hw => ⟨w, congrArg (fun b => (Except.ok b, w)) (hw.faces.left q), hw⟩

theorem pairs_readRight {f : Bookkeeping → Act σ β}
    (h : Act.Pairs (Twin keeps (Held books T g flat) s s') J F x (f flat)) :
    Act.Pairs (Twin keeps (Held books T g flat) s s') J F x ((books []).read >>= f) :=
  h.after_right fun _ v hw => ⟨v, congrArg (fun b => (Except.ok b, v)) hw.faces.right, hw⟩

variable (hshelves : Shelves books) (hT : Unbooked books T)
include hshelves hT

theorem Held.change_left {a c : Face σ} (h : Held books T g flat a c) (q : Turns)
    (b : Bookkeeping) :
    Held books T (Function.update g q b) flat ((books q).set b a.1, a.2) c := by
  refine ⟨hT.left q b h.faces, fun q' => ?_, h.right⟩
  by_cases hq : q' = q
  · subst hq
    rw [Function.update_self]
    exact (hshelves.lawful q').get_set b a.1
  · rw [Function.update_of_ne hq, ← h.left q']
    exact hshelves.other_set hq b a.1

theorem Held.change_right {a c : Face σ} (h : Held books T g flat a c) (b : Bookkeeping) :
    Held books T g b a ((books []).set b c.1, c.2) :=
  ⟨hT.right [] b h.faces, h.left, (hshelves.lawful []).get_set b c.1⟩

/-- A bookkeeping of a group is changed. -/
theorem runOn_changeLeft {w v : World σ} (h : Twin keeps (Held books T g flat) s s' w v)
    (q : Turns) (c : Bookkeeping → Bookkeeping) :
    ∃ w', ((books q).change c).runOn w = (.ok (), w') ∧
      Twin keeps (Held books T (Function.update g q (c (g q))) flat) s s' w' v := by
  refine ⟨_, rfl, h.left, h.right, ?_⟩
  rw [← h.faces.left q]
  exact h.faces.change_left hshelves hT q _

/-- The bookkeeping of the one lockstep is changed. -/
theorem runOn_changeRight {w v : World σ} (h : Twin keeps (Held books T g flat) s s' w v)
    (c : Bookkeeping → Bookkeeping) :
    ∃ v', ((books []).change c).runOn v = (.ok (), v') ∧
      Twin keeps (Held books T g (c flat)) s s' w v' := by
  refine ⟨_, rfl, h.left, h.right, ?_⟩
  rw [← h.faces.right]
  exact h.faces.change_right hshelves hT _

theorem pairs_changeLeft {f : Unit → Act σ α} (q : Turns) (c : Bookkeeping → Bookkeeping)
    (h : Act.Pairs (Twin keeps (Held books T (Function.update g q (c (g q))) flat) s s') J F (f ())
      y) :
    Act.Pairs (Twin keeps (Held books T g flat) s s') J F ((books q).change c >>= f) y :=
  h.after_left fun _ _ hw => runOn_changeLeft hshelves hT hw q c

theorem pairs_changeRight {f : Unit → Act σ β} (c : Bookkeeping → Bookkeeping)
    (h : Act.Pairs (Twin keeps (Held books T g (c flat)) s s') J F x (f ())) :
    Act.Pairs (Twin keeps (Held books T g flat) s s') J F x ((books []).change c >>= f) :=
  h.after_right fun _ _ hw => runOn_changeRight hshelves hT hw c

end

/-! ### Visitors that leave the bookkeepings alone -/

section

variable {σ : Type} {books : Turns → Part σ Bookkeeping} (hshelves : Shelves books)
  {T T' : Face σ → Face σ → Prop} {keeps : Store → Store → Prop} {s₀ s s' : Store}
  {P : Frame → Prop} {context : Value} {f : Frame} {d : Direction} {g : Turns → Bookkeeping}
  {flat : Bookkeeping}
include hshelves

/-- Steps that leave the bookkeepings alone, with the bookkeepings. -/
theorem Twin.held {α β : Type} {x : Act σ α} {y : Act σ β} {w v : World σ}
    (hw : Twin keeps (Held books T g flat) s s' w v) (hx : ∀ q, x.Aloof (books q))
    (hy : ∀ q, y.Aloof (books q)) (h : Twin keeps T s s' (x.runOn w).2 (y.runOn v).2) :
    Twin keeps (Held books T g flat) s s' (x.runOn w).2 (y.runOn v).2 :=
  ⟨h.left, h.right, h.faces,
    fun q => ((hx q).get_eq (hshelves.lawful q) w).trans (hw.faces.left q),
    ((hy []).get_eq (hshelves.lawful []) v).trans hw.faces.right⟩

theorem CallsAlike.held {hook hook' : Hook σ} (h : CallsAlike keeps s₀ T T' context f d hook hook')
    (hx : ∀ q args, (hook args).Aloof (books q)) (hy : ∀ q args, (hook' args).Aloof (books q)) :
    CallsAlike keeps s₀ (Held books T g flat) T' context f d hook hook' := by
  intro s s' hs hs' w v hw
  obtain ⟨reply, reply', hc, hc', hclass, hafter⟩ := h s s' hs hs' w v hw.faced
  refine ⟨reply, reply', hc, hc', hclass, ?_⟩
  cases reply with
  | goesOn => exact hw.held hshelves (fun q => hx q _) (fun q => hy q _) hafter
  | fails => exact hafter

/-- Methods of a visitor that leaves the bookkeepings alone. -/
theorem MethodsAlike.held {kind : String} {hook? hook?' : Option (Hook σ)}
    (h : MethodsAlike keeps s₀ T T' context P kind d hook? hook?')
    (hx : ∀ hook, hook? = some hook → ∀ q args, (hook args).Aloof (books q))
    (hy : ∀ hook, hook?' = some hook → ∀ q args, (hook args).Aloof (books q)) :
    MethodsAlike keeps s₀ (Held books T g flat) T' context P kind d hook? hook?' := by
  cases h with
  | none => exact .none
  | some hcalls =>
    exact .some fun f hf hp => (hcalls f hf hp).held hshelves (hx _ rfl) (hy _ rfl)

/-- A visitor that leaves the bookkeepings alone is asked for a method on both sides. -/
theorem Visitor.Alike.pairs_held {visitor : Visitor σ}
    (h : visitor.Alike keeps s₀ T T' context P visitor) (ha : ∀ q, visitor.Aloof (books q))
    (kind : String) (d : Direction) (relayed : Bool) (hs : keeps s₀ s) (hs' : keeps s₀ s') :
    Act.Pairs (Twin keeps (Held books T g flat) s s')
      (fun hook? w hook?' v =>
        (∀ g flat, MethodsAlike keeps s₀ (Held books T g flat) T' context P kind d hook? hook?') ∧
        Twin keeps (Held books T g flat) s s' w v)
      (fun _ _ _ _ => False)
      (visitor.hook? ⟨.text kind, d, relayed⟩) (visitor.hook? ⟨.text kind, d, relayed⟩) := by
  intro w v hw
  have hrun := h kind d relayed s s' hs hs' hw.faced
  have hheld := hw.held hshelves (fun q => (ha q).lookup ⟨.text kind, d, relayed⟩)
    fun q => (ha q).lookup ⟨.text kind, d, relayed⟩
  have hmethod {w w' : World σ} {hook : Hook σ}
      (hr : (visitor.hook? ⟨.text kind, d, relayed⟩).runOn w = (.ok (some hook), w')) (q : Turns) :=
    (ha q).method hr
  revert hrun hheld
  rcases hr : (visitor.hook? ⟨.text kind, d, relayed⟩).runOn w with ⟨halt | hook?, w'⟩
  · rcases (visitor.hook? ⟨.text kind, d, relayed⟩).runOn v with ⟨halt' | hook?', v'⟩
    · exact fun hrun _ => hrun
    · exact fun hrun _ => hrun
  · rcases hr' : (visitor.hook? ⟨.text kind, d, relayed⟩).runOn v with ⟨halt | hook?', v'⟩
    · exact fun hrun _ => hrun
    · rintro ⟨hhooks, htwin⟩ hheld
      refine ⟨fun g flat => hhooks.held hshelves ?_ ?_, hheld htwin⟩
      · rintro hook rfl
        exact hmethod hr
      · rintro hook rfl
        exact hmethod hr'

end

/-! ### Methods -/

namespace Lockstep

variable {σ : Type}

/-- The method of visitors in lockstep. -/
def method (books : Part σ Bookkeeping) (d : Direction) (hooks : List (Option (Hook σ))) : Hook σ :=
  match d with
  | .enter => enter books hooks
  | .leave => leave books hooks

/-- What is done for one member, where the open steps are counted up to `depth`. -/
def member (d : Direction) (depth : Int) (args : List Value) (books : Part σ Bookkeeping)
    (round i : Nat) (hook? : Option (Hook σ)) : Act σ Unit :=
  match d with
  | .enter => enterMember books round depth args i hook?
  | .leave => leaveMember books round depth args i hook?

/-- What is done for each member in turn. -/
def each (body : Nat → Option (Hook σ) → Act σ Unit) (first : Nat) (hooks : List (Option (Hook σ))) :
    Act σ Unit :=
  (hooks.zipIdx first).forM fun (hook?, i) => body i hook?

variable {body : Nat → Option (Hook σ) → Act σ Unit} {first : Nat}

theorem each_append (hooks hooks' : List (Option (Hook σ))) :
    each body first (hooks ++ hooks') =
      (each body first hooks >>= fun _ => each body (first + hooks.length) hooks') := by
  unfold each
  rw [List.zipIdx_append]
  exact List.forM_append

/-- A loop in which nothing is done. -/
theorem runOn_each {hooks : List (Option (Hook σ))} {w : World σ}
    (h : ∀ i < hooks.length, ∀ hook?, (body (first + i) hook?).runOn w = (.ok (), w)) :
    (each body first hooks).runOn w = (.ok (), w) := by
  induction hooks generalizing first with
  | nil => rfl
  | cons hook? hooks ih =>
    refine (Act.runOn_bind_ok (h 0 (Nat.zero_lt_succ _) hook?) _).trans (ih fun i hi hook? => ?_)
    rw [Nat.add_assoc, Nat.add_comm 1]
    exact h (i + 1) (Nat.succ_lt_succ hi) hook?

end Lockstep

/-- The methods of the members of a list, and of all visitors in it, which are related by `R`. -/
inductive Grouping.Hooked {σ : Type} (R : Option (Hook σ) → Option (Hook σ) → Prop)
    (books : Turns → Part σ Bookkeeping) (d : Direction) :
    Turns → Grouping σ → List (Option (Hook σ)) → List (Option (Hook σ)) → Prop
  | nil {p : Turns} : Hooked R books d p nil [] []
  | single {p : Turns} {v : Visitor σ} {rest : Grouping σ} {hook? flat? : Option (Hook σ)}
      {hooks flats : List (Option (Hook σ))} : R hook? flat? →
      Hooked R books d (false :: p) rest hooks flats →
      Hooked R books d p (single v rest) (hook? :: hooks) (flat? :: flats)
  | group {p : Turns} {inner rest : Grouping σ}
      {hooks flats hooks' flats' : List (Option (Hook σ))} :
      Hooked R books d (true :: p) inner hooks flats →
      Hooked R books d (false :: p) rest hooks' flats' →
      Hooked R books d p (group inner rest)
        (some (Lockstep.method (books (true :: p)) d hooks) :: hooks') (flats ++ flats')

section

variable {σ : Type} {R : Option (Hook σ) → Option (Hook σ) → Prop}
  {books : Turns → Part σ Bookkeeping} {d : Direction} {p : Turns} {G : Grouping σ}
  {hooks flats : List (Option (Hook σ))} {n : Int} {g : Turns → Bookkeeping} {ms l : List Int}

theorem Grouping.Hooked.length (h : Grouping.Hooked R books d p G hooks flats) :
    flats.length = G.visitors.length := by
  induction h with
  | nil => rfl
  | single _ _ ih => exact congrArg (· + 1) ih
  | group _ _ ih ih' =>
    unfold Grouping.visitors
    rw [List.length_append, List.length_append, ih, ih']

theorem Grouping.Holds.length (h : G.Holds n g p ms l) : ms.length = G.visitors.length := by
  induction h with
  | nil => rfl
  | single _ _ _ ih => exact congrArg (· + 1) ih
  | group _ _ _ ih ih' =>
    unfold Grouping.visitors
    rw [List.length_append, List.length_append, ih, ih']

end

/-! ### Lookups -/

/-- A visitor that leaves the bookkeepings alone, and whose methods do not depend on them. -/
structure Visitor.Detached {σ : Type} (books : Turns → Part σ Bookkeeping)
    (keeps : Store → Store → Prop) (s₀ : Store) (T T' : Face σ → Face σ → Prop) (context : Value)
    (P : Frame → Prop) (visitor : Visitor σ) : Prop where
  alike : visitor.Alike keeps s₀ T T' context P visitor
  aloof : ∀ q, visitor.Aloof (books q)

theorem groupMark_replicate (count : Nat) : groupMark 0 (List.replicate count 0) = 0 := by
  cases count with
  | zero => rfl
  | succ count => exact if_pos (List.mem_cons_self ..)

theorem groupDepth_of_groupMark {n : Int} {marks : List Int} (h : groupMark n marks = 0) :
    groupDepth n marks = n :=
  if_pos h

namespace Grouping

variable {σ : Type} {books : Turns → Part σ Bookkeeping} {p : Turns} {G : Grouping σ}
  {restarts : Bool} {g g' : Turns → Bookkeeping}

/-- The bookkeepings in a list of members after the members were asked for their methods. -/
structure LookedUp (books : Turns → Part σ Bookkeeping) (restarts : Bool) (p : Turns)
    (G : Grouping σ) (g g' : Turns → Bookkeeping) : Prop where
  same : ∀ q, ¬ Beyond p q → g' q = g q
  goesOn : restarts = false → g' = g
  restarted : restarts = true → G.Holds 0 g' p (List.replicate G.visitors.length 0)
    (List.replicate (G.members books p).length 0)

/-- The bookkeepings of a group after the group was asked for its methods. -/
structure GroupLookedUp (books : Turns → Part σ Bookkeeping) (restarts : Bool) (p : Turns)
    (G : Grouping σ) (g g' : Turns → Bookkeeping) : Prop where
  same : ∀ q ≠ p, ¬ Beyond p q → g' q = g q
  goesOn : restarts = false → g' = g
  restarted : restarts = true → G.Holds 0 g' p (List.replicate G.visitors.length 0)
      (List.replicate (G.members books p).length 0) ∧
    ∃ round, (g' p).Shows round 0 (List.replicate (G.members books p).length 0)

theorem LookedUp.single {v : Visitor σ} (h : G.LookedUp books restarts (false :: p) g g') :
    (single v G).LookedUp books restarts p g g' where
  same q hq := h.same q fun hb => hq hb.of_cons
  goesOn := h.goesOn
  restarted hr := .single (Int.le_refl 0) (Int.le_refl 0) (h.restarted hr)

theorem GroupLookedUp.append {rest : Grouping σ} {g₁ : Turns → Bookkeeping}
    (h : G.GroupLookedUp books restarts (true :: p) g g₁)
    (h' : rest.LookedUp books restarts (false :: p) g₁ g') :
    (group G rest).LookedUp books restarts p g g' where
  same q hq := by
    have hne : q ≠ true :: p := by
      rintro rfl
      exact hq (beyond_cons true p)
    exact (h'.same q fun hb => hq hb.of_cons).trans (h.same q hne fun hb => hq hb.of_cons)
  goesOn hr := (h'.goesOn hr).trans (h.goesOn hr)
  restarted hr := by
    obtain ⟨hinner, round, hshows⟩ := h.restarted hr
    have hrest := h'.restarted hr
    have hsame : ∀ q, q = true :: p ∨ Beyond (true :: p) q → g' q = g₁ q :=
      fun q hq => h'.same q (Beyond.disjoint hq)
    have hmark := groupMark_replicate (G.members books (true :: p)).length
    have hall := Holds.group (hinner.congr fun q hq => hsame q (.inr hq))
      (by rwa [groupDepth_of_groupMark hmark, hsame _ (.inl rfl)]) hrest
    rw [hmark, List.replicate_append_replicate] at hall
    unfold Grouping.visitors Grouping.members
    rw [List.length_append]
    exact hall

/-- The methods of the members of a list and of all visitors in it, which are alike whatever the
bookkeepings are. -/
def HooksAlike (books : Turns → Part σ Bookkeeping) (keeps : Store → Store → Prop) (s₀ : Store)
    (T T' : Face σ → Face σ → Prop) (context : Value) (P : Frame → Prop) (kind : String)
    (d : Direction) : Turns → Grouping σ → List (Option (Hook σ)) → List (Option (Hook σ)) → Prop :=
  Hooked (fun hook? flat? => ∀ g flat,
    MethodsAlike keeps s₀ (Held books T g flat) T' context P kind d hook? flat?) books d

variable (hshelves : Shelves books) {T T' : Face σ → Face σ → Prop} (hT : Unbooked books T)
  {keeps : Store → Store → Prop} {s₀ s s' : Store} {P : Frame → Prop} {context : Value}
  {flat : Bookkeeping} (kind : String) (d : Direction)
include hshelves hT

/-- A group is asked for its methods, and all visitors in it. -/
theorem pairs_groupLookup
    (h : ∀ g, Act.Pairs (Twin keeps (Held books T g flat) s s')
      (fun hooks w flats v => HooksAlike books keeps s₀ T T' context P kind d p G hooks flats ∧
        ∃ g', G.LookedUp books (Lockstep.restartsAt ⟨.text kind, d, true⟩) p g g' ∧
          Twin keeps (Held books T g' flat) s s' w v)
      (fun _ _ _ _ => False)
      ((G.members books p).mapM fun v => v.hook? ⟨.text kind, d, true⟩)
      (G.visitors.mapM fun v => v.hook? ⟨.text kind, d, true⟩)) (relayed : Bool) :
    Act.Pairs (Twin keeps (Held books T g flat) s s')
      (fun hooks w flats v => HooksAlike books keeps s₀ T T' context P kind d p G hooks flats ∧
        ∃ g', G.GroupLookedUp books (Lockstep.restartsAt ⟨.text kind, d, relayed⟩) p g g' ∧
          Twin keeps (Held books T g' flat) s s' w v)
      (fun _ _ _ _ => False)
      (lockstepHooks (books p) (G.members books p) ⟨.text kind, d, relayed⟩)
      (G.visitors.mapM fun v => v.hook? ⟨.text kind, d, true⟩) := by
  have hr : Lockstep.restartsAt ⟨.text kind, d, relayed⟩ =
    Lockstep.restartsAt ⟨.text kind, d, true⟩ := rfl
  unfold lockstepHooks
  rw [hr]
  cases hrestart : Lockstep.restartsAt ⟨.text kind, d, true⟩ with
  | false =>
    rw [hrestart] at h
    refine (h g).mono (fun _ _ => id) ?_ fun _ _ _ _ => id
    rintro hooks w flats v ⟨hhooks, g', hg', hw⟩
    exact ⟨hhooks, g', ⟨fun q _ hq => hg'.same q hq, hg'.goesOn, nofun⟩, hw⟩
  | true =>
    rw [hrestart] at h
    refine pairs_changeLeft hshelves hT p _ ((h _).mono (fun _ _ => id) ?_ fun _ _ _ _ => id)
    rintro hooks w flats v ⟨hhooks, g', hg', hw⟩
    refine ⟨hhooks, g', ⟨fun q hq hb => ?_, nofun, fun hr => ⟨hg'.restarted hr, ?_⟩⟩, hw⟩
    · exact (hg'.same q hb).trans (Function.update_of_ne hq _ _)
    · rw [hg'.same p (not_beyond_self p), Function.update_self]
      exact ⟨_, Bookkeeping.shows_restart _ _⟩

/-- The members of a list are asked for their methods, and all visitors in it. -/
theorem pairs_lookups (hs : keeps s₀ s) (hs' : keeps s₀ s')
    (hplain : ∀ v ∈ G.visitors, v.Detached books keeps s₀ T T' context P) :
    Act.Pairs (Twin keeps (Held books T g flat) s s')
      (fun hooks w flats v => HooksAlike books keeps s₀ T T' context P kind d p G hooks flats ∧
        ∃ g', G.LookedUp books (Lockstep.restartsAt ⟨.text kind, d, true⟩) p g g' ∧
          Twin keeps (Held books T g' flat) s s' w v)
      (fun _ _ _ _ => False)
      ((G.members books p).mapM fun v => v.hook? ⟨.text kind, d, true⟩)
      (G.visitors.mapM fun v => v.hook? ⟨.text kind, d, true⟩) := by
  induction G generalizing p g with
  | nil => exact Act.pairs_pure fun w v hw => ⟨.nil, g, ⟨fun _ _ => rfl, fun _ => rfl, fun _ => .nil⟩, hw⟩
  | single v rest ih =>
    obtain ⟨hv, hrest⟩ := List.forall_mem_cons.mp hplain
    unfold Grouping.members Grouping.visitors
    rw [List.mapM_cons, List.mapM_cons]
    refine (hv.alike.pairs_held hshelves hv.aloof kind d true hs hs').bind fun hook? hook?' => ?_
    rintro w v ⟨hhook, hw⟩
    refine (ih hrest).bind (fun hooks flats => Act.pairs_pure ?_) hw
    rintro w v ⟨hhooks, g', hg', hw⟩
    exact ⟨.single hhook hhooks, g', hg'.single, hw⟩
  | group inner rest ih ih' =>
    obtain ⟨hinner, hrest⟩ := List.forall_mem_append.mp hplain
    unfold Grouping.members Grouping.visitors
    rw [List.mapM_cons, List.mapM_append, lockstep_hook?, bind_assoc]
    refine (pairs_groupLookup hshelves hT kind d (fun g => ih hinner) true).bind
      fun hooks flats => ?_
    rintro w v ⟨hhooks, g₁, hg₁, hw⟩
    refine (ih' hrest).bind (fun hooks' flats' => Act.pairs_pure ?_) hw
    rintro w v ⟨hhooks', g', hg', hw⟩
    exact ⟨.group hhooks hhooks', g', hg₁.append hg', hw⟩

end Grouping

/-! ### Steps -/

/-- The marks of the members at `c`, and those of all visitors in one lockstep. -/
structure BothShow (c : Turns) (round fround : Nat) (depth : Int) (marks flats : List Int)
    (g : Turns → Bookkeeping) (flat : Bookkeeping) : Prop where
  group : (g c).Shows round depth marks
  flat : flat.Shows fround depth flats

theorem BothShow.update {c : Turns} {round fround : Nat} {depth : Int} {marks flats : List Int}
    {g : Turns → Bookkeeping} {b flat : Bookkeeping} (hb : b.Shows round depth marks)
    (hflat : flat.Shows fround depth flats) :
    BothShow c round fround depth marks flats (Function.update g c b) flat := by
  refine ⟨?_, hflat⟩
  rw [Function.update_self]
  exact hb

section

variable {σ : Type} (books : Turns → Part σ Bookkeeping) (T : Face σ → Face σ → Prop)
  (keeps : Store → Store → Prop) (s s' : Store) (n n' depth : Int) (step : Int → Int → Prop)
  (body : Part σ Bookkeeping → Nat → Nat → Option (Hook σ) → Act σ Unit)
  (F : Halt → World σ → Halt → World σ → Prop)

/-- What is done for a single visitor, in a group and in the one lockstep. -/
def MovesSingle (hook? flat? : Option (Hook σ)) : Prop :=
  ∀ ⦃c g flat round fround done rest fdone frest m⦄, 0 ≤ m → m ≤ n →
    BothShow c round fround depth (done ++ m :: rest) (fdone ++ m :: frest) g flat →
    Act.Pairs (Twin keeps (Held books T g flat) s s')
      (fun _ w _ v => ∃ g' flat' m', Twin keeps (Held books T g' flat') s s' w v ∧
        (0 ≤ m' ∧ m' ≤ n') ∧ step m m' ∧
        BothShow c round fround depth (done ++ m' :: rest) (fdone ++ m' :: frest) g' flat' ∧
        ∀ q ≠ c, g' q = g q)
      F (body (books c) round done.length hook?) (body (books []) fround fdone.length flat?)

/-- What is done for a group that is a member, and for all visitors in it. -/
def MovesGroup (d : Direction) (p : Turns) (inner : Grouping σ) (hooks flats : List (Option (Hook σ))) :
    Prop :=
  ∀ ⦃c g flat round fround done rest fdone frest r ms l⦄, c ≠ p → ¬ Beyond p c →
    inner.Holds n g p ms l → (g p).Shows r (groupDepth n l) l →
    BothShow c round fround depth (done ++ groupMark n l :: rest) (fdone ++ (ms ++ frest)) g flat →
    Act.Pairs (Twin keeps (Held books T g flat) s s')
      (fun _ w _ v => ∃ g' flat' ms' l', Twin keeps (Held books T g' flat') s s' w v ∧
        inner.Holds n' g' p ms' l' ∧ (∃ r, (g' p).Shows r (groupDepth n' l') l') ∧
        step (groupMark n l) (groupMark n' l') ∧
        BothShow c round fround depth (done ++ groupMark n' l' :: rest) (fdone ++ (ms' ++ frest)) g'
          flat' ∧
        ∀ q ≠ c, ¬ (q = p ∨ Beyond p q) → g' q = g q)
      F (body (books c) round done.length (some (Lockstep.method (books p) d hooks)))
      (Lockstep.each (body (books []) fround) fdone.length flats)

/-- What is done for a list of members, and for all visitors in it. -/
def MovesList (p : Turns) (G : Grouping σ) (hooks flats : List (Option (Hook σ))) : Prop :=
  ∀ ⦃c g flat round fround done fdone frest ms l⦄, ¬ Beyond p c → G.Holds n g p ms l →
    BothShow c round fround depth (done ++ l) (fdone ++ (ms ++ frest)) g flat →
    Act.Pairs (Twin keeps (Held books T g flat) s s')
      (fun _ w _ v => ∃ g' flat' ms' l', Twin keeps (Held books T g' flat') s s' w v ∧
        G.Holds n' g' p ms' l' ∧ List.Forall₂ step l l' ∧
        BothShow c round fround depth (done ++ l') (fdone ++ (ms' ++ frest)) g' flat' ∧
        ∀ q ≠ c, ¬ Beyond p q → g' q = g q)
      F (Lockstep.each (body (books c) round) done.length hooks)
      (Lockstep.each (body (books []) fround) fdone.length flats)

variable {books T keeps s s' n n' depth step body F} {R : Option (Hook σ) → Option (Hook σ) → Prop}
  {d : Direction} {p : Turns} {G : Grouping σ} {hooks flats : List (Option (Hook σ))}

/-- **Lists of members.** A step of a list of members is made up of the steps of single visitors and of
groups. -/
theorem moves_list
    (hsingle : ∀ hook? flat?, R hook? flat? →
      MovesSingle books T keeps s s' n n' depth step body F hook? flat?)
    (hgroup : ∀ {p inner hooks flats}, flats.length = inner.visitors.length →
      MovesList books T keeps s s' n n' depth step body F p inner hooks flats →
      MovesGroup books T keeps s s' n n' depth step body F d p inner hooks flats)
    (h : G.Hooked R books d p hooks flats) :
    MovesList books T keeps s s' n n' depth step body F p G hooks flats := by
  induction h with
  | nil =>
    intro c g flat round fround done fdone frest ms l hc hholds hshown
    cases hholds
    exact Act.pairs_pure fun w v hw => ⟨g, flat, [], [], hw, .nil, .nil, hshown, fun _ _ _ => rfl⟩
  | @single p v rest hook? flat? hooks flats hr _ ih =>
    intro c g flat round fround done fdone frest ms l hc hholds hshown
    cases hholds with
    | @single _ _ _ m ms l h0 hn hholds =>
    refine (hsingle hook? flat? hr h0 hn hshown).bind fun _ _ => ?_
    rintro w v ⟨g₁, flat₁, m', hw, hm', hstep, hshown₁, hsame⟩
    have hholds₁ : rest.Holds n g₁ (false :: p) ms l := hholds.congr fun q hq =>
      hsame q fun heq => hc (heq ▸ hq.of_cons)
    rw [List.append_cons, List.append_cons fdone] at hshown₁
    have hrest := ih (fun hb => hc hb.of_cons) hholds₁ hshown₁
    rw [List.length_append, List.length_append] at hrest
    refine (hrest.mono (fun _ _ => id) ?_ fun _ _ _ _ => id) hw
    rintro - w - v ⟨g', flat', ms', l', hw, hholds', hsteps, hshown', hsame'⟩
    rw [← List.append_cons, ← List.append_cons] at hshown'
    exact ⟨g', flat', m' :: ms', m' :: l', hw, .single hm'.1 hm'.2 hholds', .cons hstep hsteps,
      hshown', fun q hq hb => (hsame' q hq fun h => hb h.of_cons).trans (hsame q hq)⟩
  | @group p inner rest hooks flats hooks' flats' hinner hrest ih ih' =>
    intro c g flat round fround done fdone frest ms l hc hholds hshown
    cases hholds with
    | @group _ _ _ r ms l ms' l' hin hshows hholds =>
    have hne : c ≠ true :: p := by
      rintro rfl
      exact hc (beyond_cons true p)
    rw [List.append_assoc] at hshown
    rw [Lockstep.each_append]
    refine (hgroup hinner.length ih hne (fun hb => hc hb.of_cons) hin hshows hshown).bind fun _ _ => ?_
    rintro w v ⟨g₁, flat₁, ms₁, l₁, hw, hin₁, ⟨r₁, hshows₁⟩, hstep, hshown₁, hsame⟩
    have hholds₁ : rest.Holds n g₁ (false :: p) ms' l' := hholds.congr fun q hq =>
      hsame q (fun heq => hc (heq ▸ hq.of_cons)) fun hb => Beyond.disjoint hb hq
    rw [List.append_cons, ← List.append_assoc fdone] at hshown₁
    have hlist := ih' (fun hb => hc hb.of_cons) hholds₁ hshown₁
    rw [List.length_append, List.length_append, hin₁.length, ← hinner.length] at hlist
    refine (hlist.mono (fun _ _ => id) ?_ fun _ _ _ _ => id) hw
    rintro - w - v ⟨g', flat', ms₂, l₂, hw, hholds', hsteps, hshown', hsame'⟩
    have hkept : ∀ q, q = true :: p ∨ Beyond (true :: p) q → g' q = g₁ q := by
      intro q hq
      refine hsame' q ?_ (Beyond.disjoint hq)
      rintro rfl
      exact hq.elim hne fun hb => hc hb.of_cons
    rw [← List.append_cons, List.append_assoc] at hshown'
    refine ⟨g', flat', ms₁ ++ ms₂, groupMark n' l₁ :: l₂, hw,
      .group (hin₁.congr fun q hq => hkept q (.inr hq)) (hkept _ (.inl rfl) ▸ hshows₁) hholds',
      .cons hstep hsteps, ?_, fun q hq hb => ?_⟩
    · rw [List.append_assoc]
      exact hshown'
    · refine (hsame' q hq fun h => hb h.of_cons).trans (hsame q hq ?_)
      rintro (rfl | h)
      · exact hb (beyond_cons true p)
      · exact hb h.of_cons

end

end GraphQLTree
