import GraphQLTree.Proofs.LockstepFailure

/-! # The first failure of visitors in lockstep

Plain visitors may fail in their walks, each by itself at a place of its own. In lockstep they fail
where the first of these failures is; of several at one place, that of the visitor with the smallest
number comes first. The failure looks the same as in the walk of this visitor by itself, and up to
there each visitor has got the calls that it gets by itself (`lockstep_fails_first`). -/

namespace GraphQLTree

/-! ### Walks as journeys -/

/-- A walk comes out as a journey does, where `own` tells the state of the visitor. -/
def Journey.Tells {σ S : Type} (own : σ → S) (journey : Journey S) :
    Except Halt Unit × World σ → Prop
  | (.ok _, w) => journey = .ends (own w.state)
  | (.error halt, w) => ∃ place failed, journey = .fails place failed (own w.state) ∧
      Failed.Seen w.store halt failed

/-- A record that the steps of a visitor only add to. -/
def Conduct.Records {S μ : Type} (D : Conduct S) (record : S → List μ) : Prop :=
  ∀ ⦃f d a r a'⦄, D f d a r a' → record a <+: record a'

section

variable {S μ : Type} {D : Conduct S} {record : S → List μ} {g : Track} {a a' : S} {k : Nat}

/-- The state at the end of a journey. -/
def Journey.state : Journey S → S
  | ends a => a
  | fails _ _ a => a

variable (hD : D.Determined) (hr : D.Records record)
include hr

theorem Goes.recorded {journey : Journey S} (h : Goes D g a journey) :
    record a <+: record journey.state := by
  induction h with
  | done | broken => exact List.prefix_refl _
  | enterFails he => exact hr he
  | innerFails he _ ih => exact (hr he).trans ih
  | leaveFails he _ hl ih => exact (hr he).trans (ih.trans (hr hl))
  | frame he _ hl ih => exact (hr he).trans (ih.trans (hr hl))
  | noted _ ih => exact ih
  | restFails _ _ ihi ihr => exact ihi.trans ihr
  | rest _ _ ihi ihr => exact ihi.trans ihr

include hD

/-- What is recorded on the way to a place is the first part of what is recorded on the journey. -/
theorem Gets.recorded {journey : Journey S} (h : Gets D g a k a') (hg : Goes D g a journey) :
    record a' <+: record journey.state := by
  induction h generalizing journey with
  | here => exact hg.recorded hr
  | inner he _ ih =>
    cases hg with
    | enterFails he' => nomatch (hD he he').1
    | innerFails he' hi' =>
      obtain ⟨-, rfl⟩ := hD he he'
      exact (ih hi' :)
    | leaveFails he' hi' hl' =>
      obtain ⟨hp, rfl⟩ := hD he he'
      cases hp
      exact (ih hi').trans (hr hl')
    | frame he' hi' hl' =>
      obtain ⟨hp, rfl⟩ := hD he he'
      cases hp
      exact (ih hi').trans (hr hl')
  | skipped he =>
    cases hg with
    | enterFails he' => nomatch (hD he he').1
    | innerFails he' => nomatch (hD he he').1
    | leaveFails he' hi' hl' =>
      obtain ⟨-, rfl⟩ := hD he he'
      exact (hi'.recorded hr).trans (hr hl')
    | frame he' hi' hl' =>
      obtain ⟨-, rfl⟩ := hD he he'
      exact (hi'.recorded hr).trans (hr hl')
  | left he hi hl =>
    have hsame := hg.unique hD (.frame he hi hl)
    rw [hsame]
    exact List.prefix_refl _
  | noted _ ih =>
    cases hg with
    | noted hi' => exact (ih hi' :)
    | restFails hi' hr' => exact (ih hi').trans (hr'.recorded hr)
    | rest hi' hr' => exact (ih hi').trans (hr'.recorded hr)
  | rest hi _ ih =>
    cases hg with
    | noted hi' => nomatch hi.unique hD hi'
    | restFails hi' hr' =>
      cases hi.unique hD hi'
      exact (ih hr' :)
    | rest hi' hr' =>
      cases hi.unique hD hi'
      exact ih hr'

end

/-! ### Records of visitors that may fail -/

section

variable {σ : Type} {τ : Nat → Type} {share : Sharing σ τ} {keeps : Store → Store → Prop}
  {s₀ : Store} {i : Nat} {visitor : Visitor σ} {context : Value}
  {found : τ i → Value → Direction → Option (Hook σ)}

/-- A method that keeps a record of its calls. -/
theorem runOn_markedHook (hook : Hook σ) (args : List Value) (m : Note)
    (w : World (σ × List Note)) :
    (do Act.mark m; (hook args).unmarked : Act (σ × List Note) Value).runOn w =
      (((hook args).runOn w.forget).1, ((hook args).runOn w.forget).2.traced (w.state.2 ++ [m])) :=
  (Act.records_unmarked (hook args) w.forget).marked m w.state.2

/-- The calls of the others are as they were, after a call of a visitor. -/
theorem Sharing.recorded_own_of_ne {j : Nat} (hj : j ≠ i) {call : HookCall} {w : World σ}
    {state : σ × List Note} (ho : share.own j w.state = share.own j state.1) :
    share.recorded.own j (w.traced (state.2 ++ [⟨some i, call⟩])).state =
      share.recorded.own j state := by
  refine Prod.ext ho ?_
  have hother : (some i == some j) = false := beq_false_of_ne fun h => hj (Option.some.inj h).symm
  dsimp only [Sharing.recorded, World.traced]
  rw [List.filter_append, List.filter_cons_of_neg (by simp [hother]), List.filter_nil,
    List.append_nil]

theorem Visitor.Candid.recorded (hv : visitor.Candid share keeps s₀ i found context) :
    (visitor.recorded i).Candid share.recorded keeps s₀ i (recordedFound i found) context where
  toPlain := hv.toPlain.recorded
  fails := @fun f direction _ w halt _ hw hh hr => by
    obtain ⟨hook, hf, rfl⟩ := Option.map_eq_some_iff.mp hh
    rw [runOn_markedHook] at hr
    obtain ⟨hhalt, rfl⟩ := Prod.mk.inj hr
    have hrun : (hook (hookArgs context f.node?)).runOn w.forget = (.error halt, _) :=
      Prod.ext hhalt rfl
    rcases hv.fails (w := w.forget) hw hf hrun with ⟨b, w₁, hj⟩ | ⟨hd, hk, ho⟩
    · refine .inl ⟨b, w₁.traced (w.state.2 ++
        [⟨some i, direction, f.kind, hookArgs context f.node?⟩]), ?_⟩
      rw [runOn_recordedHook, hj]
    · exact .inr ⟨hd, hk, fun j hj => Sharing.recorded_own_of_ne hj (ho j hj)⟩
  failsAgain := @fun f direction _ w halt _ failed v hw hh hr hd hv' ho => by
    obtain ⟨hook, hf, rfl⟩ := Option.map_eq_some_iff.mp hh
    rw [runOn_markedHook] at hr
    obtain ⟨hhalt, rfl⟩ := Prod.mk.inj hr
    have hrun : (hook (hookArgs context f.node?)).runOn w.forget = (.error halt, _) :=
      Prod.ext hhalt rfl
    obtain ⟨halt₁, w₁, hr₁, hd₁, ho₁⟩ := hv.failsAgain (w := w.forget) hw hf hrun hd
      (show keeps s₀ v.forget.store from hv') (congrArg Prod.fst ho)
    refine ⟨halt₁, w₁.traced (v.state.2 ++
      [⟨some i, direction, f.kind, hookArgs context f.node?⟩]), ?_, hd₁, Prod.ext ho₁ ?_⟩
    · rw [runOn_markedHook, hr₁]
    · dsimp only [Sharing.recorded, World.traced]
      rw [List.filter_append, List.filter_append]
      exact congrArg (· ++ _) (congrArg Prod.snd ho)

/-- A visitor adds its calls to its record. -/
theorem takes_records :
    (Takes share.recorded keeps s₀ i (recordedFound i found) context).Records Prod.snd := by
  have hadds : ∀ (state : σ × List Note) (w : World σ) (m : Note),
      (share.recorded.own i state).2 <+: (share.recorded.own i (w.traced (state.2 ++ [m])).state).2 := by
    intro state w m
    dsimp only [Sharing.recorded, World.traced]
    rw [List.filter_append]
    exact List.prefix_append _ _
  intro f d a r a' h
  cases r with
  | goesOn pruned =>
    unfold Takes Does at h
    dsimp only at h
    rcases hh : recordedFound i found a f.kind d with - | hook'
    · rw [hh] at h
      exact h.2 ▸ List.prefix_refl _
    · rw [hh] at h
      obtain ⟨w, w', -, rfl, hj, rfl⟩ := h
      obtain ⟨hook, -, rfl⟩ := Option.map_eq_some_iff.mp hh
      obtain ⟨w₁, -, rfl⟩ := recordedHook_ok hj
      exact hadds w.state w₁ _
  | fails failed =>
    obtain ⟨hook', w, halt, w', hh, -, rfl, hr, -, rfl⟩ := h
    obtain ⟨hook, -, rfl⟩ := Option.map_eq_some_iff.mp hh
    rw [runOn_markedHook] at hr
    obtain ⟨-, rfl⟩ := Prod.mk.inj hr
    exact hadds w.state _ _

/-- A walk of a visitor that keeps a record of its calls comes out as it does without. -/
theorem recorded_run (options : WalkOptions) (context root : Value) (w : World σ) (i : Nat)
    (v : Visitor σ) :
    ∃ calls, (walk options (v.recorded i) context root).runOn (w.traced []) =
        (((walk options v context root).runOn w).1,
          ((walk options v context root).runOn w).2.traced calls) ∧
      calls.filter (·.who == some i) = calls := by
  obtain ⟨calls, hwho, hrun⟩ :=
    walk_tallied (piecewise_who i) (recorded_tallies i v) options context root w
  refine ⟨calls, hrun, List.filter_eq_self.mpr fun n hn => ?_⟩
  rw [hwho n hn]
  exact beq_self_eq_true _

/-- The same for visitors in lockstep. -/
theorem recordedLockstep_run (options : WalkOptions) (context root : Value) (w : World σ)
    (books : Part σ Bookkeeping) (members : List (Visitor σ)) :
    ∃ notes, (walk options (recordedLockstep books members) context root).runOn (w.traced []) =
      (((walk options (lockstep books members) context root).runOn w).1,
        ((walk options (lockstep books members) context root).runOn w).2.traced notes) := by
  obtain ⟨notes, -, hrun⟩ :=
    walk_tallied piecewise_inOrder (recordedLockstep_tallies books members) options context root w
  exact ⟨notes, hrun⟩

end

/-! ### Walks -/

section

variable {σ : Type} {τ : Nat → Type} (share : Sharing σ τ) (keeps : Store → Store → Prop)
  (options : WalkOptions) (context root : Value) (track : Track) (w : World σ)

/-- The walk of a visitor by itself: it makes these calls, and comes out as a journey along a track. -/
structure SoloWalk (i : Nat) (found : τ i → Value → Direction → Option (Hook σ))
    (visitor : Visitor σ) (calls : List Note) (journey : Journey (τ i × List Note)) : Prop where
  recorded : (walk options (visitor.recorded i) context root).runOn (w.traced []) =
    (((walk options visitor context root).runOn w).1,
      ((walk options visitor context root).runOn w).2.traced calls)
  goes : Goes (Takes share.recorded keeps w.store i (recordedFound i found) context) track
    (share.own i w.state, []) journey
  tells : journey.Tells (fun state => (share.own i state, calls))
    ((walk options visitor context root).runOn w)

variable {share keeps options context root track w} {i : Nat} {members : List (Visitor σ)}
  {found : (i : Nat) → τ i → Value → Direction → Option (Hook σ)} [IsPreorder Store keeps]
  {view : View} {troubles : Troubles} {kind : String}
  (hcandid : ∀ (i : Nat) (v : Visitor σ), members[i]? = some v →
    v.Candid share keeps w.store i (found i) context)
  (hS : view.Stands keeps w.store options root)
  (hT : view.Troubled troubles keeps w.store options root)
  (hbelow : ∀ e, view.Below options.table root e →
    view.kind? e ≠ some "document" ∧ view.kind? e ≠ some "schema")
include hS hT hbelow

/-- The walk of a plain visitor by itself is a journey along the track of the tree. -/
theorem Visitor.Candid.exists_journey {s : Store} {visitor : Visitor σ}
    {found : τ i → Value → Direction → Option (Hook σ)}
    (hv : visitor.Candid share keeps s i found context) (hs : w.store = s) :
    ∃ journey, Goes (Takes share keeps s i found context)
        (view.trackNode troubles options.table options.depthLimit root) (share.own i w.state) journey ∧
      journey.Tells (share.own i) ((walk options visitor context root).runOn w) := by
  subst hs
  obtain ⟨shown, hshown⟩ := hT.described hS
  have hf (kind : String) : Namable options keeps w.store (.node (.text kind) root) :=
    ⟨⟨kind, rfl⟩, fun hd => hS.nodeText hd .root⟩
  have h := Company.follows_walk hv.led hS hT (hS.nestedBelow hbelow)
    (fun state _ => share.own i state = share.own i w.state) id
    (fun kind _ => hv.enters (hf kind) (refl_of keeps _) _) hshown w ⟨refl_of keeps _, rfl⟩
  revert h
  rcases (walk options visitor context root).runOn w with ⟨halt | _, w'⟩
  · rintro ⟨place, failed, a', log, hg, rfl, -, hfell⟩
    exact ⟨_, hg, place, failed, rfl, hfell.seen⟩
  · rintro ⟨a', hg, -, rfl⟩
    exact ⟨_, hg, rfl⟩

theorem Visitor.Candid.soloWalk {visitor : Visitor σ}
    {found : τ i → Value → Direction → Option (Hook σ)}
    (hv : visitor.Candid share keeps w.store i found context) :
    ∃ calls journey, SoloWalk share keeps options context root
      (view.trackNode troubles options.table options.depthLimit root) w i found visitor calls
      journey := by
  obtain ⟨calls, hrun, hown⟩ := recorded_run options context root w i visitor
  obtain ⟨journey, hg, ht⟩ := hv.recorded.exists_journey (w := w.traced []) hS hT hbelow rfl
  refine ⟨calls, journey, hrun, hg, ?_⟩
  rw [hrun] at ht
  revert ht
  rcases (walk options visitor context root).runOn w with ⟨halt | _, w'⟩
  · rintro ⟨place, failed, rfl, hseen⟩
    exact ⟨place, failed, congrArg (Journey.fails place failed) (Prod.ext rfl hown), hseen⟩
  · intro ht
    exact ht.trans (congrArg Journey.ends (Prod.ext rfl hown))

variable (hk : view.kind? root = some kind) (hroot : kind = "document" ∨ kind = "schema")
include hcandid hk hroot

/-- How the walk of plain visitors in lockstep comes out that keep a record of their calls. -/
theorem recordedLockstep_comesOut :
    match (walk options (recordedLockstep share.books members) context root).runOn (w.traced []) with
    | (.ok _, _) => ∃ t', Goes (Together (eachTakes share.recorded keeps w.store
        (fun i => recordedFound i (found i)) context) members.length)
        (view.trackNode troubles options.table options.depthLimit root)
        ⟨0, fun _ => 0, fun i => (share.own i w.state, [])⟩ (.ends t')
    | (.error halt, w') => ∃ place failed t', Goes (Together (eachTakes share.recorded keeps w.store
        (fun i => recordedFound i (found i)) context) members.length)
        (view.trackNode troubles options.table options.depthLimit root)
        ⟨0, fun _ => 0, fun i => (share.own i w.state, [])⟩ (.fails place failed t') ∧
        (∀ i < members.length, share.recorded.own i w'.state = t'.own i) ∧
        Failed.Seen w'.store halt failed := by
  have hf : Namable options keeps w.store (.node (.text kind) root) :=
    ⟨⟨kind, rfl⟩, fun hd => hS.nodeText hd .root⟩
  obtain ⟨shown, hshown⟩ := hT.described hS
  have hcandid' : ∀ (i : Nat) (v' : Visitor (σ × List Note)),
      (members.mapIdx fun i v => v.recorded i)[i]? = some v' →
      v'.Candid share.recorded keeps w.store i (recordedFound i (found i)) context := by
    intro i v' h
    rw [List.getElem?_mapIdx] at h
    obtain ⟨v, hv, rfl⟩ := Option.map_eq_some_iff.mp h
    exact (hcandid i v hv).recorded
  have hbefore : ∀ (lookup : Lookup) (args : List Value),
      share.recorded.Ignores (Act.mark (noteOf none lookup args)) :=
    fun lookup args => share.recorded_ignores ⟨lookup.direction, lookup.kind, args⟩
  have hopen := ensures_teamRoot hcandid' hbefore hf hroot (w.state, [])
  have h := Company.follows_walk (led_lockstep hcandid' hbefore) hS hT (hS.nestedBelow hbelow)
    (fun state _ => (w.state, []) = state) (fun h i _ => h ▸ rfl)
    (fun kind' hk' => Option.some.inj (hk.symm.trans hk') ▸ hopen) hshown (w.traced [])
    ⟨refl_of keeps _, rfl⟩
  have hlockstep : recordedLockstep share.books members =
      (lockstep share.recorded.books (members.mapIdx fun i v => v.recorded i)).announced
        fun lookup args => Act.mark (noteOf none lookup args) := rfl
  rw [List.length_mapIdx, ← hlockstep] at h
  revert h
  rcases (walk options (recordedLockstep share.books members) context root).runOn (w.traced [])
    with ⟨halt | _, w'⟩
  · rintro ⟨place, failed, t', log, hg, hfallen, -, hfell⟩
    exact ⟨place, failed, t', hg, hfallen, hfell.seen⟩
  · rintro ⟨t', hg, -⟩
    exact ⟨t', hg⟩

/-- **The first failure.** If the walk of one of some plain visitors from a document or a schema
fails, then so does their walk in lockstep. It fails as the walk of one of them does by itself,
at the first place where one of them fails, and of those at this place it is the one with the
smallest number. Up to there each of them has got the calls that it gets by itself: those before it
also at this place, those after it only at the places before, and none of them any more. -/
theorem lockstep_fails_first
    (hfails : ∃ (i : Nat) (v : Visitor σ) (halt : Halt) (w' : World σ), members[i]? = some v ∧
      (walk options v context root).runOn w = (.error halt, w')) :
    ∃ (calls : Nat → List Note) (journey : (i : Nat) → Journey (τ i × List Note)) (halt : Halt)
      (w' : World σ) (notes : List Note),
      (∀ (i : Nat) (v : Visitor σ), members[i]? = some v →
        SoloWalk share keeps options context root
          (view.trackNode troubles options.table options.depthLimit root) w i (found i) v (calls i)
          (journey i)) ∧
      (walk options (lockstep share.books members) context root).runOn w = (.error halt, w') ∧
      (walk options (recordedLockstep share.books members) context root).runOn (w.traced []) =
        (.error halt, w'.traced notes) ∧
      ∃ i < members.length, ∃ place failed,
        journey i = .fails place failed (share.own i w'.state, calls i) ∧
        notes.filter (·.who == some i) = calls i ∧ Failed.Seen w'.store halt failed ∧
        ∀ j < members.length, j ≠ i →
          (∀ place' failed' a, journey j = .fails place' failed' a →
            place < place' ∨ place = place' ∧ i < j) ∧
          notes.filter (·.who == some j) <+: calls j ∧
          Gets (Takes share.recorded keeps w.store j (recordedFound j (found j)) context)
            (view.trackNode troubles options.table options.depthLimit root)
            (share.own j w.state, []) (if j < i then place + 1 else place)
            (share.own j w'.state, notes.filter (·.who == some j)) := by
  have hsolo : ∀ i, ∃ calls journey, ∀ v, members[i]? = some v →
      SoloWalk share keeps options context root
        (view.trackNode troubles options.table options.depthLimit root) w i (found i) v calls
        journey := by
    intro i
    rcases hi : members[i]? with - | v
    · exact ⟨[], .ends (share.own i w.state, []), nofun⟩
    · obtain ⟨calls, journey, h⟩ := (hcandid i v hi).soloWalk hS hT hbelow
      exact ⟨calls, journey, fun _ hv => Option.some.inj hv ▸ h⟩
  choose calls journey hsolo using hsolo
  have hmember : ∀ i (hi : i < members.length), members[i]? = some members[i] :=
    fun i hi => List.getElem?_eq_getElem hi
  have hdetermined : ∀ i < members.length, Conduct.Determined
      (Takes share.recorded keeps w.store i (recordedFound i (found i)) context) :=
    fun i hi => (hcandid i _ (hmember i hi)).recorded.determined
  have hbounded : Team.Bounded members.length
      (⟨0, fun _ => 0, fun i => (share.own i w.state, [])⟩ : Team fun i => τ i × List Note) :=
    fun i _ => ⟨Int.le_refl _, Int.le_refl _⟩
  obtain ⟨i₀, v₀, halt₀, w₀, hi₀, hr₀⟩ := hfails
  have hlt₀ : i₀ < members.length := (List.getElem?_eq_some_iff.mp hi₀).1
  obtain ⟨notes, hnotes⟩ := recordedLockstep_run options context root w share.books members
  have hout := recordedLockstep_comesOut hcandid hS hT hbelow hk hroot
  rw [hnotes] at hout
  rcases hr : (walk options (lockstep share.books members) context root).runOn w with
    ⟨halt | _, w'⟩
  · rw [hr] at hout hnotes
    obtain ⟨place, failed, t', hg, hown, hseen⟩ := hout
    obtain ⟨i, hfirst⟩ := Together.fails hg hbounded ⟨i₀, hlt₀, rfl⟩
    have hi := hfirst.lt
    have hends : ∀ j < members.length, t'.own j =
        (share.own j w'.state, notes.filter (·.who == some j)) := fun j hj => (hown j hj).symm
    have hjourney : journey i = .fails place failed (t'.own i) :=
      (hsolo i _ (hmember i hi)).goes.unique (hdetermined i hi) hfirst.fails
    have hcalls : notes.filter (·.who == some i) = calls i := by
      have ht := (hsolo i _ (hmember i hi)).tells
      rw [hjourney, hends i hi] at ht
      revert ht
      rcases (walk options members[i] context root).runOn w with ⟨_ | _, wᵢ⟩
      · rintro ⟨_, _, heq, -⟩
        injection heq with _ _ heq
        exact congrArg Prod.snd heq
      · exact nofun
    refine ⟨calls, journey, halt, w', notes, hsolo, rfl, hnotes, i, hi, place, failed, ?_, hcalls,
      hseen, fun j hj hne => ?_⟩
    · rw [hjourney, hends i hi, hcalls]
    have hgets := hfirst.gets j hj hne rfl
    rw [hends j hj] at hgets
    have hgoes := (hsolo j _ (hmember j hj)).goes
    refine ⟨fun place' failed' a hj' => ?_, ?_, hgets⟩
    · rw [hj'] at hgoes
      have hle := hgets.le (hdetermined j hj) hgoes
      split at hle <;> omega
    · have hprefix := hgets.recorded (hdetermined j hj) takes_records hgoes
      have hstate : (journey j).state.2 = calls j := by
        have ht := (hsolo j _ (hmember j hj)).tells
        revert ht
        rcases (walk options members[j] context root).runOn w with ⟨_ | _, wⱼ⟩
        · rintro ⟨_, _, heq, -⟩
          rw [heq]
          rfl
        · intro heq
          rw [heq]
          rfl
      rwa [hstate] at hprefix
  · rw [hr] at hout
    obtain ⟨t', hg⟩ := hout
    have hgoes := (hsolo i₀ v₀ hi₀).goes
    have hends := ((Together.ends hg hbounded).2 i₀ hlt₀).2.1 rfl
    have heq := hgoes.unique (hdetermined i₀ hlt₀) hends
    have ht := (hsolo i₀ v₀ hi₀).tells
    rw [heq, hr₀] at ht
    obtain ⟨_, _, hbad, -⟩ := ht
    nomatch hbad

end

/-- Visitors that fail at a field and at an object. -/
def failingVisitor (i : Nat) : Visitor (Bookkeeping × (Nat → Nat)) :=
  raisingVisitor (if i = 0 then "object_field_definition" else "object_definition") "boom"

/-- Two visitors in lockstep that fail at different places of a schema. -/
theorem lockstep_fails_first_smallSchema :
    ∃ (halt : Halt) (w' : World (Bookkeeping × (Nat → Nat))) (notes : List Note),
      (walk .standard (lockstep counters.books [failingVisitor 0, failingVisitor 1]) .null
        (.ref 0)).runOn countingStart = (.error halt, w') ∧
      (walk .standard (recordedLockstep counters.books [failingVisitor 0, failingVisitor 1]) .null
        (.ref 0)).runOn (countingStart.traced []) = (.error halt, w'.traced notes) ∧
      ∃ i < 2, ∃ (halt₁ : Halt) (w₁ : World (Bookkeeping × (Nat → Nat))) (failed : Failed),
        (walk .standard ((failingVisitor i).recorded i) .null (.ref 0)).runOn
          (countingStart.traced []) = (.error halt₁, w₁.traced (notes.filter (·.who == some i))) ∧
        Failed.Seen w₁.store halt₁ failed ∧ Failed.Seen w'.store halt failed := by
  have hmember : ∀ i v, [failingVisitor 0, failingVisitor 1][i]? = some v →
      v = failingVisitor i := by
    intro i v h
    match i with
    | 0 => exact (Option.some.inj h).symm
    | 1 => exact (Option.some.inj h).symm
  have hbelow : ∀ e, Store.smallSchema.view.Below WalkOptions.standard.table (.ref 0) e →
      e ∈ [.ref 2, .ref 4, .ref 5] := fun e he => he.mem (by decide +kernel)
  have hkinds : ∀ e ∈ [Value.ref 2, .ref 4, .ref 5],
      Store.smallSchema.view.kind? e ≠ some "document" ∧
      Store.smallSchema.view.kind? e ≠ some "schema" := by decide +kernel
  have hcandid : ∀ (i : Nat) (v : Visitor _), [failingVisitor 0, failingVisitor 1][i]? = some v →
      v.Candid counters Store.Grows Store.smallSchema i (raisingHook?
        (if i = 0 then "object_field_definition" else "object_definition") "boom") .null := by
    intro i v h
    rw [hmember i v h]
    exact raisingVisitor_candid rfl (by decide) i .null
  have htroubled : Store.smallSchema.view.Troubled _ Store.Grows _ .standard (.ref 0) :=
    Store.view_troubled Store.treeKeeping_grows Store.smallSchema_ordinary rfl rfl
      ⟨fun _ => .tooDeep, fun _ _ => .tooDeep, fun _ _ => .tooDeep⟩
  have hfails : ((walk .standard (failingVisitor 0) .null (.ref 0)).runOn countingStart).1.toBool =
      false := by decide +kernel
  obtain ⟨halt₀, w₀, hr₀⟩ : ∃ halt w', (walk .standard (failingVisitor 0) .null (.ref 0)).runOn
      countingStart = (.error halt, w') := by
    rcases hr : (walk .standard (failingVisitor 0) .null (.ref 0)).runOn countingStart with
      ⟨halt | _, w'⟩
    · exact ⟨halt, w', rfl⟩
    · rw [hr] at hfails
      nomatch hfails
  obtain ⟨calls, journey, halt, w', notes, hsolo, hrun, hrecorded, i, hi, place, failed, hjourney,
    hcalls, hseen, -⟩ := lockstep_fails_first hcandid Store.smallSchema_stands htroubled
      (fun e he => hkinds e (hbelow e he)) rfl (.inr rfl) ⟨0, _, halt₀, w₀, rfl, hr₀⟩
  have hi : i < 2 := hi
  obtain ⟨hrecorded₁, -, htells⟩ := hsolo i (failingVisitor i) (by
    match i, hi with
    | 0, _ => rfl
    | 1, _ => rfl)
  rw [hjourney] at htells
  rcases hr : (walk .standard (failingVisitor i) .null (.ref 0)).runOn countingStart with
    ⟨halt₁ | _, w₁⟩
  · rw [hr] at htells hrecorded₁
    obtain ⟨_, _, heq, hseen₁⟩ := htells
    injection heq with _ heq
    rw [← heq] at hseen₁
    rw [← hcalls] at hrecorded₁
    exact ⟨halt, w', notes, hrun, hrecorded, i, hi, halt₁, w₁, failed, hrecorded₁, hseen₁, hseen⟩
  · rw [hr] at htells
    nomatch htells

end GraphQLTree
