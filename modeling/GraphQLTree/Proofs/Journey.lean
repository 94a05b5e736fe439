import GraphQLTree.Proofs.Outcome
import Mathlib.Data.Nat.Find

/-! # Journeys of visitors

A walk that may fail goes along a track: frames that are entered and left, parts whose failures get a
stage, and things that cannot be read. Each of the places where the walk can fail has a number
(`Track.size`), so that failures of different walks along one track can be compared. What the steps of
a visitor do to its state is left open, as a relation (`Conduct`); a journey is how the walk comes out
(`Goes`), and on its way it gets to the places one after the other (`Gets`).

The steps of a team are made of those of its members, one after the other: a member that prunes gets
no calls until the frame is left, and where one fails nobody after it is called (`Together`). A team
that comes to the end has been led there as each member is by itself (`Together.ends`). A team that
fails does so where the first of the members fails by itself, at the first place where one does; the
others have got to this place by themselves (`Together.fails`). -/

namespace GraphQLTree

/-! ### Tracks -/

/-- What a walk may come to. -/
inductive Track
  | done
  /-- Something that cannot be read, and the failure that comes of it. -/
  | broken (failed : Failed)
  | frame (f : Frame) (inner : Track)
  /-- A part whose failures pass a stage, and what comes after it. -/
  | noted (stage : Stage) (inner rest : Track)

/-- The number of places at which a walk along a track can fail: a frame is entered or left, or
something cannot be read. -/
def Track.size : Track → Nat
  | done => 0
  | broken _ => 1
  | frame _ inner => inner.size + 2
  | noted _ inner rest => inner.size + rest.size

/-- How a step comes out. -/
inductive Reply
  | goesOn (pruned : Bool)
  | fails (failed : Failed)

/-- What the steps into and out of frames do to a state. -/
abbrev Conduct (S : Type) := Frame → Direction → S → Reply → S → Prop

/-- How a walk along a track comes out. -/
inductive Journey (S : Type)
  | ends (a : S)
  | fails (place : Nat) (failed : Failed) (a : S)

section

variable {S : Type} (D : Conduct S)

/-- A walk along a track, from a state. -/
inductive Goes : Track → S → Journey S → Prop
  | done (a : S) : Goes .done a (.ends a)
  | broken (failed : Failed) (a : S) : Goes (.broken failed) a (.fails 0 failed a)
  | enterFails {f : Frame} {inner : Track} {a a' : S} {failed : Failed} :
      D f .enter a (.fails failed) a' → Goes (.frame f inner) a (.fails 0 failed a')
  | innerFails {f : Frame} {inner : Track} {a a₁ a' : S} {k : Nat} {failed : Failed} :
      D f .enter a (.goesOn false) a₁ → Goes inner a₁ (.fails k failed a') →
      Goes (.frame f inner) a (.fails (k + 1) failed a')
  | leaveFails {f : Frame} {inner : Track} {a a₁ a₂ a' : S} {pruned : Bool} {failed : Failed} :
      D f .enter a (.goesOn pruned) a₁ → Goes (if pruned then .done else inner) a₁ (.ends a₂) →
      D f .leave a₂ (.fails failed) a' →
      Goes (.frame f inner) a (.fails (inner.size + 1) failed a')
  | frame {f : Frame} {inner : Track} {a a₁ a₂ a' : S} {pruned pruned' : Bool} :
      D f .enter a (.goesOn pruned) a₁ → Goes (if pruned then .done else inner) a₁ (.ends a₂) →
      D f .leave a₂ (.goesOn pruned') a' → Goes (.frame f inner) a (.ends a')
  | noted {stage : Stage} {inner rest : Track} {a a' : S} {k : Nat} {failed : Failed} :
      Goes inner a (.fails k failed a') →
      Goes (.noted stage inner rest) a (.fails k (failed.noted stage) a')
  | restFails {stage : Stage} {inner rest : Track} {a a₁ a' : S} {k : Nat} {failed : Failed} :
      Goes inner a (.ends a₁) → Goes rest a₁ (.fails k failed a') →
      Goes (.noted stage inner rest) a (.fails (inner.size + k) failed a')
  | rest {stage : Stage} {inner rest : Track} {a a₁ a' : S} :
      Goes inner a (.ends a₁) → Goes rest a₁ (.ends a') → Goes (.noted stage inner rest) a (.ends a')

/-- A walk along a track gets to the place of a number, where it has a state. The places inside of a
frame that it skips are behind it at once. -/
inductive Gets : Track → S → Nat → S → Prop
  | here (g : Track) (a : S) : Gets g a 0 a
  | inner {f : Frame} {inner : Track} {a a₁ a' : S} {k : Nat} :
      D f .enter a (.goesOn false) a₁ → Gets inner a₁ k a' → Gets (.frame f inner) a (k + 1) a'
  | skipped {f : Frame} {inner : Track} {a a₁ : S} {k : Nat} :
      D f .enter a (.goesOn true) a₁ → k ≤ inner.size → Gets (.frame f inner) a (k + 1) a₁
  | left {f : Frame} {inner : Track} {a a₁ a₂ a' : S} {pruned pruned' : Bool} :
      D f .enter a (.goesOn pruned) a₁ → Goes D (if pruned then .done else inner) a₁ (.ends a₂) →
      D f .leave a₂ (.goesOn pruned') a' → Gets (.frame f inner) a (inner.size + 2) a'
  | noted {stage : Stage} {inner rest : Track} {a a' : S} {k : Nat} :
      Gets inner a k a' → Gets (.noted stage inner rest) a k a'
  | rest {stage : Stage} {inner rest : Track} {a a₁ a' : S} {k : Nat} :
      Goes D inner a (.ends a₁) → Gets rest a₁ k a' →
      Gets (.noted stage inner rest) a (inner.size + k) a'

/-- A step comes out in one way only. -/
def Conduct.Determined : Prop :=
  ∀ ⦃f d a r a' r₁ a₁⦄, D f d a r a' → D f d a r₁ a₁ → r = r₁ ∧ a' = a₁

end

section

variable {S : Type} {D : Conduct S} {g inner : Track} {a a' a₁ a₂ : S} {k q : Nat} {failed : Failed}
  {journey journey' : Journey S}

theorem Goes.lt_size (h : Goes D g a (.fails k failed a')) : k < g.size := by
  induction g generalizing a k failed with
  | done => cases h
  | broken =>
    cases h
    exact Nat.one_pos
  | frame f inner ih =>
    unfold Track.size
    cases h with
    | enterFails => omega
    | innerFails _ hi =>
      have := ih hi
      omega
    | leaveFails => omega
  | noted stage inner rest ihi ihr =>
    unfold Track.size
    cases h with
    | noted hi =>
      have := ihi hi
      omega
    | restFails _ hr =>
      have := ihr hr
      omega

/-- The end is behind all places. -/
theorem Goes.gets_size (h : Goes D g a (.ends a')) : Gets D g a g.size a' := by
  induction g generalizing a with
  | done =>
    cases h
    exact .here _ _
  | broken => cases h
  | frame f inner =>
    cases h with
    | frame he hi hl => exact .left he hi hl
  | noted stage inner rest _ ih =>
    cases h with
    | rest hi hr => exact .rest hi (ih hr)

theorem Gets.le_size (h : Gets D g a k a') : k ≤ g.size := by
  induction h with
  | here => exact Nat.zero_le _
  | inner _ _ ih =>
    unfold Track.size
    omega
  | skipped =>
    unfold Track.size
    omega
  | left => exact Nat.le_refl _
  | noted _ ih => exact Nat.le_add_right_of_le ih
  | rest _ _ ih => exact Nat.add_le_add_left ih _

/-- After a frame that was entered, a walk gets to the place where it is left. -/
theorem Gets.before_leave {f : Frame} {pruned : Bool} (he : D f .enter a (.goesOn pruned) a₁)
    (hi : Goes D (if pruned then .done else inner) a₁ (.ends a₂)) :
    Gets D (.frame f inner) a (inner.size + 1) a₂ := by
  cases pruned with
  | true =>
    cases hi
    exact .skipped he (Nat.le_refl _)
  | false => exact .inner he hi.gets_size

/-! Walks of different visitors along one track come out alike if their steps do. -/

section

variable {S' : Type} (Q Q' : S → S' → Prop)

/-- Steps that come out alike: both go on with `Q`, or both fail in the same way with `Q'`. -/
def Reply.Alike : Reply → S → Reply → S' → Prop
  | goesOn pruned, a, goesOn pruned', b => pruned = pruned' ∧ Q a b
  | fails failed, a, fails failed', b => failed = failed' ∧ Q' a b
  | _, _, _, _ => False

/-- Walks that come out alike. -/
def Journey.Alike : Journey S → Journey S' → Prop
  | ends a, ends b => Q a b
  | fails k failed a, fails k' failed' b => k = k' ∧ failed = failed' ∧ Q' a b
  | _, _ => False

variable {Q Q'}

theorem Goes.alike {D' : Conduct S'} (hfalls : ∀ {a b}, Q a b → Q' a b)
    (hstep : ∀ {f d a b r r' a' b'}, Q a b → D f d a r a' → D' f d b r' b' →
      Reply.Alike Q Q' r a' r' b')
    {b : S'} {other : Journey S'} (h : Goes D g a journey) (h' : Goes D' g b other) (hq : Q a b) :
    Journey.Alike Q Q' journey other := by
  induction h generalizing b other with
  | done =>
    cases h'
    exact hq
  | broken =>
    cases h'
    exact ⟨rfl, rfl, hfalls hq⟩
  | enterFails he =>
    cases h' with
    | enterFails he' => exact ⟨rfl, hstep hq he he'⟩
    | innerFails he' => exact (hstep hq he he').elim
    | leaveFails he' => exact (hstep hq he he').elim
    | frame he' => exact (hstep hq he he').elim
  | innerFails he _ ih =>
    cases h' with
    | enterFails he' => exact (hstep hq he he').elim
    | innerFails he' hi' =>
      obtain ⟨hk, hrest⟩ := ih hi' (hstep hq he he').2
      exact ⟨congrArg Nat.succ hk, hrest⟩
    | leaveFails he' hi' =>
      obtain ⟨rfl, hq₁⟩ := hstep hq he he'
      exact (ih hi' hq₁).elim
    | frame he' hi' =>
      obtain ⟨rfl, hq₁⟩ := hstep hq he he'
      exact (ih hi' hq₁).elim
  | leaveFails he _ hl ih =>
    cases h' with
    | enterFails he' => exact (hstep hq he he').elim
    | innerFails he' hi' =>
      obtain ⟨rfl, hq₁⟩ := hstep hq he he'
      exact (ih hi' hq₁).elim
    | leaveFails he' hi' hl' =>
      obtain ⟨rfl, hq₁⟩ := hstep hq he he'
      exact ⟨rfl, hstep (ih hi' hq₁) hl hl'⟩
    | frame he' hi' hl' =>
      obtain ⟨rfl, hq₁⟩ := hstep hq he he'
      exact (hstep (ih hi' hq₁) hl hl').elim
  | frame he _ hl ih =>
    cases h' with
    | enterFails he' => exact (hstep hq he he').elim
    | innerFails he' hi' =>
      obtain ⟨rfl, hq₁⟩ := hstep hq he he'
      exact (ih hi' hq₁).elim
    | leaveFails he' hi' hl' =>
      obtain ⟨rfl, hq₁⟩ := hstep hq he he'
      exact (hstep (ih hi' hq₁) hl hl').elim
    | frame he' hi' hl' =>
      obtain ⟨rfl, hq₁⟩ := hstep hq he he'
      exact (hstep (ih hi' hq₁) hl hl').2
  | noted _ ih =>
    cases h' with
    | noted hi' =>
      obtain ⟨hk, rfl, hq'⟩ := ih hi' hq
      exact ⟨hk, rfl, hq'⟩
    | restFails hi' => exact (ih hi' hq).elim
    | rest hi' => exact (ih hi' hq).elim
  | restFails _ _ ihi ihr =>
    cases h' with
    | noted hi' => exact (ihi hi' hq).elim
    | restFails hi' hr' =>
      obtain ⟨hk, hrest⟩ := ihr hr' (ihi hi' hq)
      exact ⟨congrArg _ hk, hrest⟩
    | rest hi' hr' => exact (ihr hr' (ihi hi' hq)).elim
  | rest _ _ ihi ihr =>
    cases h' with
    | noted hi' => exact (ihi hi' hq).elim
    | restFails hi' hr' => exact (ihr hr' (ihi hi' hq)).elim
    | rest hi' hr' => exact ihr hr' (ihi hi' hq)

end

/-- A walk comes out in one way only, if its steps do. -/
theorem Goes.unique (hD : D.Determined) (h : Goes D g a journey) (h' : Goes D g a journey') :
    journey = journey' := by
  have halike : Journey.Alike Eq Eq journey journey' := by
    refine h.alike id (fun {f d a b r r' a' b'} hab hd hd' => ?_) h' rfl
    subst hab
    obtain ⟨rfl, rfl⟩ := hD hd hd'
    cases r with
    | goesOn => exact ⟨rfl, rfl⟩
    | fails => exact ⟨rfl, rfl⟩
  cases journey with
  | ends =>
    cases journey' with
    | ends => exact congrArg Journey.ends halike
    | fails => exact halike.elim
  | fails =>
    cases journey' with
    | ends => exact halike.elim
    | fails =>
      obtain ⟨rfl, rfl, rfl⟩ := halike
      rfl

/-- A walk does not fail before the places that it gets to. -/
theorem Gets.le (hD : D.Determined) (h : Gets D g a k a') (hf : Goes D g a (.fails q failed a₁)) :
    k ≤ q := by
  induction h generalizing q failed with
  | here => exact Nat.zero_le q
  | inner he hg ih =>
    cases hf with
    | enterFails he' => nomatch (hD he he').1
    | innerFails he' hi' =>
      obtain ⟨-, rfl⟩ := hD he he'
      exact Nat.succ_le_succ (ih hi')
    | leaveFails => exact Nat.succ_le_succ hg.le_size
  | skipped he hk =>
    cases hf with
    | enterFails he' => nomatch (hD he he').1
    | innerFails he' hi' => nomatch (hD he he').1
    | leaveFails => omega
  | left he hi hl =>
    cases hf with
    | enterFails he' => nomatch (hD he he').1
    | innerFails he' hi' =>
      obtain ⟨hr, rfl⟩ := hD he he'
      cases hr
      nomatch hi.unique hD hi'
    | leaveFails he' hi' hl' =>
      obtain ⟨hr, rfl⟩ := hD he he'
      cases hr
      cases hi.unique hD hi'
      nomatch (hD hl hl').1
  | noted hg ih =>
    cases hf with
    | noted hi' => exact ih hi'
    | restFails => exact Nat.le_add_right_of_le hg.le_size
  | rest hi _ ih =>
    cases hf with
    | noted hi' => nomatch hi.unique hD hi'
    | restFails hi' hr' =>
      cases hi.unique hD hi'
      exact Nat.add_le_add_left (ih hr') _

end

/-! ### Teams -/

/-- The state of visitors in lockstep: the depth, the marks, and what each of them has of its own. -/
structure Team (τ : Nat → Type) where
  depth : Int
  marks : Nat → Int
  own : (i : Nat) → τ i

/-- Whether a visitor with a mark is called at a step of a depth. -/
def Direction.Calls : Direction → Int → Int → Prop
  | enter, _, mark => mark = 0
  | leave, depth, mark => mark = 0 ∨ mark = depth

/-- The mark of a visitor that was called at a step of a depth. -/
def Direction.markAfter : Direction → Int → Bool → Int
  | enter, depth, pruned => if pruned then depth else 0
  | leave, _, _ => 0

section

variable {τ : Nat → Type}

/-- The depth of a step of a team. -/
def Team.level (t : Team τ) : Direction → Int
  | .enter => t.depth + 1
  | .leave => t.depth

/-- The depth after a step. -/
def Team.depthAfter (t : Team τ) : Direction → Int
  | .enter => t.depth + 1
  | .leave => t.depth - 1

variable (D : (i : Nat) → Conduct (τ i)) (n : Nat)

/-- What a step of a depth does to the mark and the state of a member that gets through it. -/
def MemberStep (f : Frame) (d : Direction) (depth : Int) (i : Nat) (mark mark' : Int)
    (a a' : τ i) : Prop :=
  (d.Calls depth mark ∧ ∃ pruned, D i f d a (.goesOn pruned) a' ∧ mark' = d.markAfter depth pruned) ∨
    (¬ d.Calls depth mark ∧ mark' = mark ∧ a' = a)

/-- What a step does to a team: each member takes it in turn, until one fails. Entering a frame prunes
if all members are skipping then. -/
def Together : Conduct (Team τ) := fun f d t reply t' =>
  match reply with
  | .goesOn pruned =>
    t'.depth = t.depthAfter d ∧
    (∀ i < n, MemberStep D f d (t.level d) i (t.marks i) (t'.marks i) (t.own i) (t'.own i)) ∧
    (d = .enter → (pruned = true ↔ ∀ i < n, t'.marks i ≠ 0))
  | .fails failed =>
    ∃ i < n, d.Calls (t.level d) (t.marks i) ∧ D i f d (t.own i) (.fails failed) (t'.own i) ∧
      (∀ j < i, ∃ mark, MemberStep D f d (t.level d) j (t.marks j) mark (t.own j) (t'.own j)) ∧
      ∀ j < n, i < j → t'.own j = t.own j

/-- The marks of a team are depths at which its members may have pruned. -/
def Team.Bounded (t : Team τ) : Prop :=
  ∀ i < n, 0 ≤ t.marks i ∧ t.marks i ≤ t.depth

/-- A member that is not skipping has come to the end of a track by itself; one that is skipping has
stayed as it was. -/
def Kept (g : Track) (i : Nat) (mark : Int) (a a' : τ i) : Prop :=
  (mark = 0 → Goes (D i) g a (.ends a')) ∧ (mark ≠ 0 → a' = a)

variable {D n} {f : Frame} {g inner : Track} {i : Nat} {depth mark mark₁ : Int} {a a₁ a₂ : τ i}
  {t t' : Team τ} {k : Nat} {failed : Failed}

theorem MemberStep.entered (h : MemberStep D f .enter (depth + 1) i mark mark₁ a a₁)
    (hm : 0 ≤ mark ∧ mark ≤ depth) : 0 ≤ mark₁ ∧ mark₁ ≤ depth + 1 := by
  rcases h with ⟨-, pruned, -, rfl⟩ | ⟨-, rfl, -⟩
  · cases pruned with
    | true => exact ⟨by unfold Direction.markAfter; dsimp only; omega, Int.le_refl _⟩
    | false => exact ⟨Int.le_refl _, by unfold Direction.markAfter; dsimp only; omega⟩
  · omega

/-- A member inside of a frame: it has entered the frame, and gets to the place where it leaves it, or
it has been skipping from before the frame. -/
theorem MemberStep.inside (h : MemberStep D f .enter (depth + 1) i mark mark₁ a a₁)
    (hm : 0 ≤ mark ∧ mark ≤ depth) (hk : Kept D inner i mark₁ a₁ a₂) :
    (mark = 0 ∧ Direction.leave.Calls (depth + 1) mark₁ ∧
      ∃ pruned, D i f .enter a (.goesOn pruned) a₁ ∧
        Goes (D i) (if pruned then .done else inner) a₁ (.ends a₂)) ∨
    (mark ≠ 0 ∧ mark₁ = mark ∧ ¬ Direction.leave.Calls (depth + 1) mark₁ ∧ a₁ = a ∧ a₂ = a) := by
  rcases h with ⟨hc, pruned, hd, rfl⟩ | ⟨hc, rfl, rfl⟩
  · refine .inl ⟨hc, ?_, pruned, hd, ?_⟩
    · cases pruned with
      | true => exact .inr rfl
      | false => exact .inl rfl
    · cases pruned with
      | true =>
        obtain rfl := hk.2 (show depth + 1 ≠ 0 by omega)
        exact .done _
      | false => exact hk.1 rfl
  · have hc' : mark₁ ≠ 0 := hc
    refine .inr ⟨hc, rfl, ?_, rfl, hk.2 hc⟩
    rintro (h | h)
    · exact hc' h
    · omega

/-- What is inside of a frame, whether a team goes through it or not. -/
theorem Together.entered {pruned : Bool} {t₁ : Team τ}
    (h : Together D n f .enter t (.goesOn pruned) t₁) (hb : t.Bounded n) :
    t₁.depth = t.depth + 1 ∧ t₁.Bounded n ∧ (pruned = false → ∃ i < n, t₁.marks i = 0) := by
  obtain ⟨hdepth, hsteps, hp⟩ := h
  refine ⟨hdepth, fun i hi => ?_, ?_⟩
  · rw [hdepth]
    exact (hsteps i hi).entered (hb i hi)
  · rintro rfl
    by_contra hnone
    have := (hp rfl).mpr fun i hi h0 => hnone ⟨i, hi, h0⟩
    nomatch this

/-- A team that has come to the end of a frame: if it has skipped what is inside, then all members
are skipping it. -/
theorem Together.passed {pruned : Bool} {t₁ t₂ : Team τ}
    (he : Together D n f .enter t (.goesOn pruned) t₁)
    (hi : Goes (Together D n) (if pruned then .done else inner) t₁ (.ends t₂))
    (hinner : Goes (Together D n) inner t₁ (.ends t₂) → t₂.depth = t₁.depth ∧
      ∀ i < n, t₂.marks i = t₁.marks i ∧ Kept D inner i (t₁.marks i) (t₁.own i) (t₂.own i)) :
    t₂.depth = t₁.depth ∧
      ∀ i < n, t₂.marks i = t₁.marks i ∧ Kept D inner i (t₁.marks i) (t₁.own i) (t₂.own i) := by
  cases pruned with
  | false => exact hinner hi
  | true =>
    cases hi
    refine ⟨rfl, fun i hi => ⟨rfl, fun h0 => ?_, fun _ => rfl⟩⟩
    exact absurd h0 ((he.2.2 rfl).mp rfl i hi)

/-- **A team that gets through.** Each member that was not skipping has been led to the end of the
track as it is by itself, and the marks are those from before. -/
theorem Together.ends (h : Goes (Together D n) g t (.ends t')) (hb : t.Bounded n) :
    t'.depth = t.depth ∧
      ∀ i < n, t'.marks i = t.marks i ∧ Kept D g i (t.marks i) (t.own i) (t'.own i) := by
  induction g generalizing t t' with
  | done =>
    cases h
    exact ⟨rfl, fun i _ => ⟨rfl, fun _ => .done _, fun _ => rfl⟩⟩
  | broken => cases h
  | frame f inner ih =>
    cases h with
    | @frame _ _ _ t₁ t₂ _ pruned _ he hi hl =>
      obtain ⟨hdepth, hb₁, -⟩ := Together.entered he hb
      have hinner := Together.passed he hi fun hi => ih hi hb₁
      obtain ⟨hdepth', hleave, -⟩ := hl
      refine ⟨?_, fun i hi => ?_⟩
      · rw [hdepth']
        unfold Team.depthAfter
        dsimp only
        omega
      have hstep := hleave i hi
      obtain ⟨hmark, hkept⟩ := hinner.2 i hi
      have hlevel : t₂.level .leave = t.depth + 1 := hinner.1.trans hdepth
      rw [hlevel, hmark] at hstep
      rcases (he.2.1 i hi).inside (hb i hi) hkept with
        ⟨h0, hc, pruned', hd, hgoes⟩ | ⟨h0, hm, hc, ha₁, ha₂⟩
      · rcases hstep with ⟨-, pruned'', hd', hm'⟩ | ⟨hc', -⟩
        · exact ⟨hm'.trans h0.symm, fun _ => .frame hd hgoes hd', fun hne => absurd h0 hne⟩
        · exact absurd hc hc'
      · rcases hstep with ⟨hc', -⟩ | ⟨-, hm', ha⟩
        · exact absurd hc' hc
        · exact ⟨hm'.trans hm, fun h0' => absurd h0' h0, fun _ => ha.trans ha₂⟩
  | noted stage inner rest ihi ihr =>
    cases h with
    | @rest _ _ _ _ t₁ _ hi hr =>
      obtain ⟨hdepth, hinner⟩ := ihi hi hb
      have hb₁ : t₁.Bounded n := by
        intro i hi
        rw [hdepth, (hinner i hi).1]
        exact hb i hi
      obtain ⟨hdepth', hrest⟩ := ihr hr hb₁
      refine ⟨hdepth'.trans hdepth, fun i hi => ?_⟩
      obtain ⟨hm, hk⟩ := hinner i hi
      obtain ⟨hm', hk'⟩ := hrest i hi
      rw [hm] at hk'
      refine ⟨hm'.trans hm, fun h0 => .rest (hk.1 h0) (hk'.1 h0), fun h0 => ?_⟩
      exact (hk'.2 h0).trans (hk.2 h0)

/-! ### The member that fails first -/

variable (D n) in
/-- The member `i` of a team fails by itself at a place of a track. The members before it have got
past this place by themselves, and those after it have got to it; those that were skipping have
stayed as they were. -/
structure FailsFirst (g : Track) (t t' : Team τ) (place : Nat) (failed : Failed) (i : Nat) : Prop where
  lt : i < n
  active : t.marks i = 0
  fails : Goes (D i) g (t.own i) (.fails place failed (t'.own i))
  gets : ∀ j < n, j ≠ i → t.marks j = 0 →
    Gets (D j) g (t.own j) (if j < i then place + 1 else place) (t'.own j)
  skips : ∀ j < n, t.marks j ≠ 0 → t'.own j = t.own j

/-- The first number with a property. -/
theorem exists_first {P : Nat → Prop} (h : ∃ i < n, P i) : ∃ i < n, P i ∧ ∀ j < i, ¬ P j := by
  classical
  have hex : ∃ i, i < n ∧ P i := h
  refine ⟨Nat.find hex, (Nat.find_spec hex).1, (Nat.find_spec hex).2, fun j hj hp => ?_⟩
  exact Nat.find_min hex hj ⟨Nat.lt_trans hj (Nat.find_spec hex).1, hp⟩

theorem FailsFirst.of_broken (hact : ∃ i < n, t.marks i = 0) :
    ∃ i, FailsFirst D n (.broken failed) t t 0 failed i := by
  obtain ⟨i, hi, h0, hfirst⟩ := exists_first hact
  refine ⟨i, hi, h0, .broken _ _, fun j hj _ hj0 => ?_, fun _ _ _ => rfl⟩
  rw [if_neg fun hlt => hfirst j hlt hj0]
  exact .here _ _

/-- A member fails where a frame is entered. -/
theorem FailsFirst.of_enter (h : Together D n f .enter t (.fails failed) t') :
    ∃ i, FailsFirst D n (.frame f inner) t t' 0 failed i := by
  obtain ⟨i, hi, hc, hd, hbefore, hafter⟩ := h
  refine ⟨i, hi, hc, .enterFails hd, fun j hj hne hj0 => ?_, fun j hj hj0 => ?_⟩
  · by_cases hlt : j < i
    · rw [if_pos hlt]
      obtain ⟨mark, ⟨-, pruned, hd', -⟩ | ⟨hc', -⟩⟩ := hbefore j hlt
      · cases pruned with
        | true => exact .skipped hd' (Nat.zero_le _)
        | false => exact .inner hd' (.here _ _)
      · exact absurd hj0 hc'
    · rw [if_neg hlt, hafter j hj (by omega)]
      exact .here _ _
  · rcases Nat.lt_trichotomy j i with hlt | rfl | hlt
    · obtain ⟨mark, ⟨hc', -⟩ | ⟨-, -, ha⟩⟩ := hbefore j hlt
      · exact absurd hc' hj0
      · exact ha
    · exact absurd hc hj0
    · exact hafter j hj hlt

/-- A member fails inside of a frame. -/
theorem FailsFirst.of_inner {t₁ : Team τ} (hb : t.Bounded n) (he : Together D n f .enter t (.goesOn false) t₁)
    (h : FailsFirst D n inner t₁ t' k failed i) :
    FailsFirst D n (.frame f inner) t t' (k + 1) failed i := by
  have hk := h.fails.lt_size
  have hpruned : ∀ j < n, t.level .enter ≠ 0 := by
    intro j hj
    have := hb j hj
    unfold Team.level
    dsimp only
    omega
  refine ⟨h.lt, ?_, ?_, fun j hj hne hj0 => ?_, fun j hj hj0 => ?_⟩
  · rcases he.2.1 i h.lt with ⟨hc, -⟩ | ⟨-, hm, -⟩
    · exact hc
    · exact hm.symm.trans h.active
  · rcases he.2.1 i h.lt with ⟨hc, pruned, hd, hm⟩ | ⟨hc, hm, -⟩
    · cases pruned with
      | false => exact .innerFails hd h.fails
      | true => exact absurd (hm.symm.trans h.active) (hpruned i h.lt)
    · exact absurd (hm.symm.trans h.active) hc
  · rcases he.2.1 j hj with ⟨-, pruned, hd, hm⟩ | ⟨hc, -⟩
    · cases pruned with
      | false =>
        have hgets := h.gets j hj hne hm
        split
        · rename_i hlt
          rw [if_pos hlt] at hgets
          exact .inner hd hgets
        · rename_i hlt
          rw [if_neg hlt] at hgets
          exact .inner hd hgets
      | true =>
        rw [h.skips j hj fun h0 => hpruned j hj (hm.symm.trans h0)]
        split
        · exact .skipped hd hk
        · exact .skipped hd (Nat.le_of_lt hk)
    · exact absurd hj0 hc
  · rcases he.2.1 j hj with ⟨hc, -⟩ | ⟨-, hm, ha⟩
    · exact absurd hc hj0
    · exact (h.skips j hj (by rwa [hm])).trans ha

/-- A member fails where a frame is left. -/
theorem FailsFirst.of_leave {t₁ t₂ : Team τ} {pruned : Bool} (hb : t.Bounded n)
    (he : Together D n f .enter t (.goesOn pruned) t₁)
    (hi : Goes (Together D n) (if pruned then .done else inner) t₁ (.ends t₂))
    (hl : Together D n f .leave t₂ (.fails failed) t') :
    ∃ i, FailsFirst D n (.frame f inner) t t' (inner.size + 1) failed i := by
  obtain ⟨hdepth, hb₁, -⟩ := Together.entered he hb
  obtain ⟨hdepth', hinner⟩ := Together.passed he hi fun hi => Together.ends hi hb₁
  obtain ⟨i, hlt, hc, hd, hbefore, hafter⟩ := hl
  have hlevel : t₂.level .leave = t.depth + 1 := hdepth'.trans hdepth
  rw [hlevel] at hc hbefore
  have hinside (j : Nat) (hj : j < n) := (he.2.1 j hj).inside (hb j hj) (hinner j hj).2
  refine ⟨i, hlt, ?_, ?_, fun j hj hne hj0 => ?_, fun j hj hj0 => ?_⟩
  · rw [(hinner i hlt).1] at hc
    rcases hinside i hlt with ⟨h0, -⟩ | ⟨-, -, hc', -⟩
    · exact h0
    · exact absurd hc hc'
  · rw [(hinner i hlt).1] at hc
    rcases hinside i hlt with ⟨-, -, pruned', hd', hgoes⟩ | ⟨-, -, hc', -⟩
    · exact .leaveFails hd' hgoes hd
    · exact absurd hc hc'
  · rcases hinside j hj with ⟨-, hc', pruned', hd', hgoes⟩ | ⟨hne0, -⟩
    · by_cases hji : j < i
      · rw [if_pos hji]
        obtain ⟨mark, ⟨-, pruned'', hd'', -⟩ | ⟨hn, -⟩⟩ := hbefore j hji
        · exact .left hd' hgoes hd''
        · rw [(hinner j hj).1] at hn
          exact absurd hc' hn
      · rw [if_neg hji, hafter j hj (by omega)]
        exact Gets.before_leave hd' hgoes
    · exact absurd hj0 hne0
  · rcases hinside j hj with ⟨h0, -⟩ | ⟨-, -, hc', -, ha⟩
    · exact absurd h0 hj0
    · rcases Nat.lt_trichotomy j i with hji | rfl | hji
      · obtain ⟨mark, ⟨hn, -⟩ | ⟨-, -, ha'⟩⟩ := hbefore j hji
        · rw [(hinner j hj).1] at hn
          exact absurd hn hc'
        · exact ha'.trans ha
      · rw [(hinner j hj).1] at hc
        exact absurd hc hc'
      · exact (hafter j hj hji).trans ha

/-- **A team that fails.** It fails where the first of its members fails by itself, at the first place
where one does. -/
theorem Together.fails (h : Goes (Together D n) g t (.fails k failed t')) (hb : t.Bounded n)
    (hact : ∃ i < n, t.marks i = 0) : ∃ i, FailsFirst D n g t t' k failed i := by
  induction g generalizing t t' k failed with
  | done => cases h
  | broken =>
    cases h
    exact FailsFirst.of_broken hact
  | frame f inner ih =>
    cases h with
    | enterFails he => exact FailsFirst.of_enter he
    | innerFails he hi =>
      obtain ⟨-, hb₁, hact₁⟩ := Together.entered he hb
      obtain ⟨i, hfirst⟩ := ih hi hb₁ (hact₁ rfl)
      exact ⟨i, hfirst.of_inner hb he⟩
    | leaveFails he hi hl => exact FailsFirst.of_leave hb he hi hl
  | noted stage inner rest ihi ihr =>
    cases h with
    | noted hi =>
      obtain ⟨i, hfirst⟩ := ihi hi hb hact
      exact ⟨i, hfirst.lt, hfirst.active, .noted hfirst.fails,
        fun j hj hne hj0 => .noted (hfirst.gets j hj hne hj0), hfirst.skips⟩
    | @restFails _ _ _ _ t₁ _ k _ hi hr =>
      obtain ⟨hdepth, hinner⟩ := Together.ends hi hb
      have hb₁ : t₁.Bounded n := by
        intro i hi
        rw [hdepth, (hinner i hi).1]
        exact hb i hi
      have hact₁ : ∃ i < n, t₁.marks i = 0 := by
        obtain ⟨i, hi, h0⟩ := hact
        exact ⟨i, hi, (hinner i hi).1.trans h0⟩
      obtain ⟨i, hfirst⟩ := ihr hr hb₁ hact₁
      have h0 := (hinner i hfirst.lt).1.symm.trans hfirst.active
      refine ⟨i, hfirst.lt, h0, .restFails ((hinner i hfirst.lt).2.1 h0) hfirst.fails,
        fun j hj hne hj0 => ?_, fun j hj hj0 => ?_⟩
      · have hgets : Gets (D j) (.noted stage inner rest) (t.own j) (inner.size + _) (t'.own j) :=
          .rest ((hinner j hj).2.1 hj0) (hfirst.gets j hj hne ((hinner j hj).1.trans hj0))
        split
        · rename_i hlt
          rwa [if_pos hlt] at hgets
        · rename_i hlt
          rwa [if_neg hlt] at hgets
      · have hm := (hinner j hj).1
        exact (hfirst.skips j hj (by rwa [hm])).trans ((hinner j hj).2.2 hj0)

end

end GraphQLTree
