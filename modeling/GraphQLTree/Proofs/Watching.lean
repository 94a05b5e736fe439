import GraphQLTree.Proofs.Reuse

/-! # Visitors in lockstep under watch

What visitors in lockstep do is written down moment by moment, with the bookkeeping at each of them:
steps are entered and left, methods are called, visitors ask to skip what is inside and are released
again. Writing it down changes nothing (`watchedLockstep_tallies`). -/

namespace GraphQLTree

/-! ### What visitors in lockstep do -/

/-- What a step is about: a kind, and the arguments of the methods. -/
structure Occasion where
  kind : Value
  args : List Value

/-- What visitors in lockstep do, one thing after the other. -/
inductive Deed
  | entered (o : Occasion)
  /-- The method of the visitor of a number is called. -/
  | called (i : Nat) (direction : Direction) (o : Occasion)
  /-- The method that was called asked to skip what is inside. -/
  | pruned (i : Nat)
  /-- A step begins to be left. -/
  | leaving (o : Occasion)
  /-- A visitor that pruned at the step that is left, with or without a method for leaving it. -/
  | released (i : Nat) (hooked : Bool)
  | left

/-- Something that is done, with the bookkeeping right after it. -/
structure Moment where
  deed : Deed
  books : Bookkeeping

section

variable {σ : Type} (books : Part σ Bookkeeping)

/-- Writes down what is done. -/
def watch (deed : Deed) : Act (σ × List Moment) Unit := do
  let b ← books.read.unmarked
  Act.mark ⟨deed, b⟩

/-- Calls the method of one visitor when a step is entered, with a record. -/
def watchedEnterMember (round : Nat) (depth : Int) (o : Occasion) (i : Nat)
    (hook? : Option (Hook σ)) : Act (σ × List Moment) Unit := do
  match hook? with
  | none => return ()
  | some hook =>
    let b ← books.read.unmarked
    if b.mark round i = 0 then
      watch books (.called i .enter o)
      let pruned ← (Act.judge (hook o.args) Lockstep.rethrow).unmarked
      if pruned then
        (books.change (·.setMark round i depth)).unmarked
        watch books (.pruned i)

/-- Calls the methods of all visitors when a step is entered, with a record. -/
def watchedEnterMembers (hooks : List (Option (Hook σ))) (o : Occasion) :
    Act (σ × List Moment) Value := do
  let b ← books.read.unmarked
  hooks.zipIdx.forM fun (hook?, i) => watchedEnterMember books b.round b.depth o i hook?
  let b' ← books.read.unmarked
  return if (b'.marks b.round).all (· != 0) then .skip else .null

/-- Enters a step, with a record. -/
def watchedEnter (kind : Value) (hooks : List (Option (Hook σ))) : Hook (σ × List Moment) :=
  fun args => do
    (books.change fun b => { b with depth := b.depth + 1 }).unmarked
    watch books (.entered ⟨kind, args⟩)
    watchedEnterMembers books hooks ⟨kind, args⟩

/-- Calls the method of one visitor when a step is left, unless it is skipping, with a record. -/
def watchedLeaveHook (round : Nat) (o : Occasion) (i : Nat) (hook? : Option (Hook σ)) :
    Act (σ × List Moment) Unit := do
  match hook? with
  | none => return ()
  | some hook =>
    let b ← books.read.unmarked
    if b.mark round i = 0 then
      watch books (.called i .leave o)
      discard (Act.judge (hook o.args) Lockstep.rethrow).unmarked

/-- Calls the method of one visitor when a step is left, with a record. A visitor that pruned at this
step is released first. -/
def watchedLeaveMember (round : Nat) (depth : Int) (o : Occasion) (i : Nat)
    (hook? : Option (Hook σ)) : Act (σ × List Moment) Unit := do
  let b ← books.read.unmarked
  if b.mark round i = depth then
    (books.change (·.setMark round i 0)).unmarked
    watch books (.released i hook?.isSome)
  watchedLeaveHook books round o i hook?

/-- Leaves a step, with a record. -/
def watchedLeave (kind : Value) (hooks : List (Option (Hook σ))) : Hook (σ × List Moment) :=
  fun args => do
    let b ← books.read.unmarked
    (books.change fun b => { b with depth := b.depth - 1 }).unmarked
    watch books (.leaving ⟨kind, args⟩)
    hooks.zipIdx.forM fun (hook?, i) =>
      watchedLeaveMember books b.round b.depth ⟨kind, args⟩ i hook?
    watch books .left
    return .null

/-- Looks up the methods of visitors in lockstep, and starts the bookkeeping anew if need be. -/
def lockstepHooks (members : List (Visitor σ)) (lookup : Lookup) :
    Act σ (List (Option (Hook σ))) := do
  if Lockstep.restartsAt lookup then books.change (·.restart members.length)
  members.mapM (·.hook? { lookup with relayed := true })

/-- Visitors in lockstep that keep a record of what they do. -/
def watchedLockstep (members : List (Visitor σ)) : Visitor (σ × List Moment) where
  hook? lookup := do
    let hooks ← (lockstepHooks books members lookup).unmarked
    return some (match lookup.direction with
      | .enter => watchedEnter books lookup.kind hooks
      | .leave => watchedLeave books lookup.kind hooks)

end

/-! ### Keeping the record changes nothing -/

section

variable {σ : Type} (books : Part σ Bookkeeping)

/-- A step that keeps some record does what another one does. -/
abbrev Watches {α : Type} (act' : Act (σ × List Moment) α) (act : Act σ α) : Prop :=
  Act.Tallies (fun _ => True) Eq act' act

theorem piecewise_any {μ : Type} : Piecewise fun _ : List μ => True :=
  ⟨trivial, fun _ _ => trivial⟩

theorem watches_unmarked {α : Type} (act : Act σ α) : Watches act.unmarked act :=
  (Act.agree_unmarked act).mono fun _ => trivial

theorem Watches.bind {α β : Type} {x' : Act (σ × List Moment) α} {x : Act σ α}
    {f' : α → Act (σ × List Moment) β} {f : α → Act σ β} (hx : Watches x' x)
    (hf : ∀ a, Watches (f' a) (f a)) : Watches (x' >>= f') (x >>= f) := by
  refine Act.Tallies.bind piecewise_any hx fun a' a ha => ?_
  subst ha
  exact hf a'

/-- Something is written down first. -/
theorem Watches.watched {α : Type} {x' : Act (σ × List Moment) α} {x : Act σ α}
    (hx : Watches x' x) (deed : Deed) : Watches (watch books deed >>= fun _ => x') x := by
  have hw : Watches (watch books deed) (pure ()) := by
    intro w
    exact ⟨[⟨deed, books.get w.state⟩], trivial, (), rfl, fun _ => rfl⟩
  have h := hw.bind fun _ => hx
  rwa [pure_bind] at h

/-- Something is written down in the end. -/
theorem Watches.thenWatched {x' : Act (σ × List Moment) Unit} {x : Act σ Unit}
    (hx : Watches x' x) (deed : Deed) : Watches (x' >>= fun _ => watch books deed) x := by
  have h := hx.bind (f := pure) fun _ => (watches_unmarked (pure ())).watched books deed
  rwa [bind_pure] at h

variable (round : Nat) (depth : Int) (o : Occasion) (i : Nat) (hook? : Option (Hook σ))

theorem watches_enterMember :
    Watches (watchedEnterMember books round depth o i hook?)
      (Lockstep.enterMember books round depth o.args i hook?) := by
  unfold watchedEnterMember Lockstep.enterMember
  cases hook? with
  | none => exact watches_unmarked (pure ())
  | some hook =>
    refine (watches_unmarked books.read).bind fun b => ?_
    split
    · refine Watches.watched books ((watches_unmarked _).bind fun pruned => ?_) _
      split
      · exact (watches_unmarked _).thenWatched books _
      · exact watches_unmarked (pure ())
    · exact watches_unmarked (pure ())

theorem watches_leaveHook :
    Watches (watchedLeaveHook books round o i hook?)
      (match hook? with
        | none => return ()
        | some hook =>
          do if (← books.read).mark round i = 0 then
            discard (Act.judge (hook o.args) Lockstep.rethrow) : Act σ Unit) := by
  unfold watchedLeaveHook
  cases hook? with
  | none => exact watches_unmarked (pure ())
  | some hook =>
    refine (watches_unmarked books.read).bind fun b => ?_
    split
    · exact Watches.watched books ((watches_unmarked _).bind fun _ => watches_unmarked (pure ())) _
    · exact watches_unmarked (pure ())

theorem watches_leaveMember :
    Watches (watchedLeaveMember books round depth o i hook?)
      (Lockstep.leaveMember books round depth o.args i hook?) := by
  unfold watchedLeaveMember Lockstep.leaveMember
  refine (watches_unmarked books.read).bind fun b => ?_
  dsimp only
  split
  · refine (watches_unmarked _).bind fun _ => ?_
    exact (watches_leaveHook books round o i hook?).watched books _
  · exact watches_leaveHook books round o i hook?

variable (kind : Value) (hooks : List (Option (Hook σ)))

theorem watches_enterMembers :
    Watches (watchedEnterMembers books hooks o)
      (do
        let b ← books.read
        hooks.zipIdx.forM fun (hook?, i) => Lockstep.enterMember books b.round b.depth o.args i hook?
        return if ((← books.read).marks b.round).all (· != 0) then .skip else .null) := by
  refine (watches_unmarked books.read).bind fun b => ?_
  refine Watches.bind (Act.tallies_forM piecewise_any fun (hook?, i) _ =>
    watches_enterMember books b.round b.depth o i hook?) fun _ => ?_
  exact (watches_unmarked books.read).bind fun b' => watches_unmarked (pure _)

theorem watches_enter (args : List Value) :
    Watches (watchedEnter books kind hooks args) (Lockstep.enter books hooks args) := by
  refine (watches_unmarked _).bind fun _ => ?_
  exact (watches_enterMembers books ⟨kind, args⟩ hooks).watched books _

theorem watches_leave (args : List Value) :
    Watches (watchedLeave books kind hooks args) (Lockstep.leave books hooks args) := by
  refine (watches_unmarked books.read).bind fun b => ?_
  refine (watches_unmarked _).bind fun _ => ?_
  refine Watches.watched books ?_ _
  refine Watches.bind (Act.tallies_forM piecewise_any fun (hook?, i) _ =>
    watches_leaveMember books b.round b.depth ⟨kind, args⟩ i hook?) fun _ => ?_
  exact (watches_unmarked (pure _)).watched books _

theorem lockstep_hook? (members : List (Visitor σ)) (lookup : Lookup) :
    (lockstep books members).hook? lookup =
      lockstepHooks books members lookup >>= fun hooks =>
        pure (some (match lookup.direction with
          | .enter => Lockstep.enter books hooks
          | .leave => Lockstep.leave books hooks)) := by
  unfold lockstep lockstepHooks
  dsimp only
  split
  · exact (bind_assoc _ _ _).symm
  · rfl

/-- Visitors in lockstep that keep a record of what they do do what they do without. -/
theorem watchedLockstep_tallies (members : List (Visitor σ)) :
    (watchedLockstep books members).Tallies (fun _ => True) (lockstep books members) := by
  intro lookup
  rw [lockstep_hook?]
  refine (Act.agree_unmarked _).andThen fun hooks' hooks hh => Act.agree_pure ?_
  subst hh
  cases lookup.direction with
  | enter => exact .some fun args => watches_enter books lookup.kind hooks' args
  | leave => exact .some fun args => watches_leave books lookup.kind hooks' args

end
end GraphQLTree
