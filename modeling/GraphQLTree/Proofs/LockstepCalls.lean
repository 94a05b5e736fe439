import GraphQLTree.Proofs.LockstepCourse
import GraphQLTree.Proofs.Tally

/-! # The calls of visitors in lockstep

Plain visitors in lockstep get the calls that they get each by itself, and end in the states in which
they end each by itself (`lockstep_solo`). The calls are told by a record that visitors keep; keeping
it changes nothing. At each step the calls come in the order of the visitors. -/

namespace GraphQLTree

/-! ### Records of calls -/

/-- An entry of a record of calls: a call of the visitor of a number, or one of all visitors in
lockstep, which comes first at each step. -/
structure Note where
  who : Option Nat
  call : HookCall

/-- The entry for a method that was looked up. -/
def noteOf (who : Option Nat) (lookup : Lookup) (args : List Value) : Note :=
  ⟨who, lookup.direction, lookup.kind, args⟩

section

variable {σ μ β : Type}

/-- A part of a state beside a record. -/
def Part.lifted (part : Part σ β) : Part (σ × List μ) β where
  get state := part.get state.1
  set b state := (part.set b state.1, state.2)

/-- A visitor beside a record. -/
def Visitor.lifted (visitor : Visitor σ) : Visitor (σ × List μ) where
  hook? lookup := return (← (visitor.hook? lookup).unmarked).map fun hook args =>
    (hook args).unmarked

/-- A visitor that keeps a record of its calls, under its number. -/
def Visitor.recorded (i : Nat) (visitor : Visitor σ) : Visitor (σ × List Note) :=
  visitor.lifted.announced fun lookup args => Act.mark (noteOf (some i) lookup args)

/-- Visitors in lockstep that keep a record of their calls. -/
def recordedLockstep (books : Part σ Bookkeeping) (members : List (Visitor σ)) :
    Visitor (σ × List Note) :=
  (lockstep books.lifted (members.mapIdx fun i v => v.recorded i)).announced fun lookup args =>
    Act.mark (noteOf none lookup args)

end

/-- Calls of one and the same step: the numbers of the visitors rise. -/
def Rising (call : HookCall) : Nat → List Note → Prop
  | _, [] => True
  | k, n :: l => ∃ i, k ≤ i ∧ n = ⟨some i, call⟩ ∧ Rising call (i + 1) l

/-- A record of steps, with the calls of visitors at each of them in the order of their numbers. -/
inductive InOrder : List Note → Prop
  | nil : InOrder []
  | step {call : HookCall} {l later : List Note} : Rising call 0 l → InOrder later →
      InOrder (⟨none, call⟩ :: (l ++ later))

theorem Rising.mono {call : HookCall} {k k' : Nat} {l : List Note} (h : Rising call k' l)
    (hk : k ≤ k') : Rising call k l := by
  cases l with
  | nil => exact trivial
  | cons n l =>
    obtain ⟨i, hi, hn, hl⟩ := h
    exact ⟨i, Nat.le_trans hk hi, hn, hl⟩

theorem piecewise_inOrder : Piecewise InOrder := by
  refine ⟨.nil, fun {l l'} hl hl' => ?_⟩
  induction hl with
  | nil => exact hl'
  | step hr _ ih =>
    rw [List.cons_append, List.append_assoc]
    exact .step hr ih

/-- What one member adds to the record at a step: its call, or nothing. -/
def Once (call : HookCall) (i : Nat) (l : List Note) : Prop :=
  l = [] ∨ l = [⟨some i, call⟩]

theorem Once.append {call : HookCall} {i : Nat} {l l' : List Note} (h : Once call i l)
    (h' : Rising call (i + 1) l') : Rising call i (l ++ l') := by
  rcases h with rfl | rfl
  · exact h'.mono (Nat.le_succ i)
  · exact ⟨i, Nat.le_refl i, rfl, h'⟩

theorem Once.rising {call : HookCall} {i : Nat} {l : List Note} (h : Once call i l) :
    Rising call i l := by
  have hnil : Rising call (i + 1) [] := trivial
  have hl := h.append hnil
  rwa [List.append_nil] at hl

/-! ### Keeping the record changes nothing -/

section

variable {σ : Type}

/-- A method with a record of its calls. -/
theorem tallies_marked {α μ : Type} (m : μ) (act : Act σ α) :
    Act.Tallies (· = [m]) Eq (do Act.mark m; act.unmarked : Act (σ × List μ) α) act := by
  intro w
  have h := (Act.records_unmarked act w).marked m
  refine ⟨[m], rfl, ?_⟩
  rcases hr : act.runOn w with ⟨e | a, w'⟩
  · intro marks
    rw [h marks, hr]
  · refine ⟨a, rfl, fun marks => ?_⟩
    rw [h marks, hr]

/-- The methods of a visitor, with a record of their calls and without. -/
def HookNotes (i : Nat) (lookup : Lookup) (hook' : Hook (σ × List Note)) (hook : Hook σ) : Prop :=
  ∀ args, Act.Tallies (· = [noteOf (some i) lookup args]) Eq (hook' args) (hook args)

theorem recorded_hook? (i : Nat) (visitor : Visitor σ) (lookup : Lookup) :
    (visitor.recorded i).hook? lookup =
      (visitor.hook? lookup).unmarked >>= fun hook? => pure (hook?.map fun hook args => do
        Act.mark (noteOf (some i) lookup args)
        (hook args).unmarked) := by
  unfold Visitor.recorded Visitor.announced Visitor.lifted
  simp only [bind_assoc, pure_bind, Option.map_map]
  rfl

theorem agree_recorded (i : Nat) (visitor : Visitor σ) (lookup : Lookup) :
    Act.Agree (Option.Rel (HookNotes i lookup)) ((visitor.recorded i).hook? lookup)
      (visitor.hook? lookup) := by
  rw [recorded_hook?]
  refine (Act.agree_unmarked _).mapped _ fun hook'? hook? h => ?_
  subst h
  cases hook'? with
  | none => exact .none
  | some hook => exact .some fun args => tallies_marked _ (hook args)

/-- A visitor that keeps a record of its calls does what it does without. -/
theorem recorded_tallies (i : Nat) (visitor : Visitor σ) :
    (visitor.recorded i).Tallies (fun l => ∀ n ∈ l, n.who = some i) visitor := by
  intro lookup
  refine (agree_recorded i visitor lookup).weaken fun hook'? hook? h => ?_
  cases h with
  | none => exact .none
  | some h =>
    refine .some fun args => (h args).mono fun hl => ?_
    subst hl
    exact List.forall_mem_singleton.mpr rfl

theorem piecewise_who (i : Nat) : Piecewise fun l : List Note => ∀ n ∈ l, n.who = some i :=
  ⟨List.forall_mem_nil _, fun h h' => List.forall_mem_append.mpr ⟨h, h'⟩⟩

/-! The steps that visitors in lockstep are made of. -/

variable {α β : Type} (books : Part σ Bookkeeping)

theorem agree_read (part : Part σ β) :
    Act.Agree Eq (part.lifted.read : Act (σ × List Note) β) part.read :=
  Act.agree_unmarked part.read

theorem agree_change (part : Part σ β) (f : β → β) :
    Act.Agree Eq (part.lifted.change f : Act (σ × List Note) Unit) (part.change f) :=
  Act.agree_unmarked (part.change f)

variable {i : Nat} {lookup : Lookup} {hook'? : Option (Hook (σ × List Note))}
  {hook? : Option (Hook σ)}

/-- What the calls with these arguments add to the record has the property `P`. -/
def CallsTally (P : List Note → Prop) (args : List Value) (hook' : Hook (σ × List Note))
    (hook : Hook σ) : Prop :=
  Act.Tallies P Eq (hook' args) (hook args)

theorem HookNotes.once (h : Option.Rel (HookNotes i lookup) hook'? hook?) (args : List Value) :
    Option.Rel (CallsTally (Once ⟨lookup.direction, lookup.kind, args⟩ i) args) hook'? hook? := by
  cases h with
  | none => exact .none
  | some h => exact .some ((h args).mono .inr)

section

variable {P : List Note → Prop} (hP : P []) {args : List Value}
  (h : Option.Rel (CallsTally P args) hook'? hook?) (round : Nat) (depth : Int)
include hP h

theorem tallies_enterMember :
    Act.Tallies P Eq (Lockstep.enterMember books.lifted round depth args i hook'?)
      (Lockstep.enterMember books round depth args i hook?) := by
  unfold Lockstep.enterMember
  cases h with
  | none => exact (Act.agree_pure rfl).mono fun h => h ▸ hP
  | some h =>
    refine .after hP (agree_read books) fun b' b hb => ?_
    subst hb
    split
    · refine (Act.Tallies.judge h fun e => Act.agree_throw (.raised e)).andThen fun p' p hp => ?_
      subst hp
      split
      · exact agree_change books _
      · exact Act.agree_pure rfl
    · exact (Act.agree_pure rfl).mono fun h => h ▸ hP

omit h in
/-- What is done when a step is left before the method is called. -/
theorem Act.Tallies.afterUnmark {next' : Act (σ × List Note) Unit} {next : Act σ Unit}
    (h : Act.Tallies P Eq next' next) :
    Act.Tallies P Eq
      (do
        if (← books.lifted.read).mark round i = depth then
          books.lifted.change (·.setMark round i 0)
        next')
      (do
        if (← books.read).mark round i = depth then books.change (·.setMark round i 0)
        next) := by
  refine .after hP (agree_read books) fun b' b hb => ?_
  subst hb
  dsimp only
  split
  · exact .after hP (agree_change books _) fun _ _ _ => h
  · exact h

theorem tallies_leaveMember :
    Act.Tallies P Eq (Lockstep.leaveMember books.lifted round depth args i hook'?)
      (Lockstep.leaveMember books round depth args i hook?) := by
  unfold Lockstep.leaveMember
  cases h with
  | none =>
    exact ((Act.agree_pure rfl).mono fun h => h ▸ hP).afterUnmark books hP round depth
  | some h =>
    refine Act.Tallies.afterUnmark books hP round depth ?_
    refine .after hP (agree_read books) fun b' b hb => ?_
    subst hb
    split
    · exact (Act.Tallies.judge h fun e => Act.agree_throw (.raised e)).andThen
        fun _ _ _ => Act.agree_pure rfl
    · exact (Act.agree_pure rfl).mono fun h => h ▸ hP

end

/-! ### Steps of visitors in lockstep -/

/-- The methods of visitors from a number on, with a record of their calls and without. -/
inductive HooksNote (lookup : Lookup) :
    Nat → List (Option (Hook (σ × List Note))) → List (Option (Hook σ)) → Prop
  | nil (i : Nat) : HooksNote lookup i [] []
  | cons {i : Nat} {hook'? : Option (Hook (σ × List Note))} {hook? : Option (Hook σ)}
      {hooks' : List (Option (Hook (σ × List Note)))} {hooks : List (Option (Hook σ))} :
      Option.Rel (HookNotes i lookup) hook'? hook? → HooksNote lookup (i + 1) hooks' hooks →
      HooksNote lookup i (hook'? :: hooks') (hook? :: hooks)

theorem agree_lookups (lookup : Lookup) (members : List (Visitor σ)) (first : Nat) :
    Act.Agree (HooksNote lookup first)
      ((members.mapIdx fun i v => v.recorded (first + i)).mapM fun v => v.hook? lookup)
      (members.mapM fun v => v.hook? lookup) := by
  induction members generalizing first with
  | nil => exact Act.agree_pure (.nil first)
  | cons v members ih =>
    have hshift : (fun i (v : Visitor σ) => v.recorded (first + (i + 1))) =
        fun i v => v.recorded (first + 1 + i) := by
      funext i v
      rw [Nat.add_right_comm, Nat.add_assoc]
    rw [List.mapIdx_cons, hshift, List.mapM_cons, List.mapM_cons]
    refine (agree_recorded first v lookup).andThen fun hook'? hook? h => ?_
    refine (ih (first + 1)).andThen fun hooks' hooks hs => ?_
    exact Act.agree_pure (.cons h hs)

variable {hooks' : List (Option (Hook (σ × List Note)))} {hooks : List (Option (Hook σ))}

/-- A loop over the methods of all visitors, which calls each of them once at most. -/
theorem tallies_members {call : HookCall} {body' : Nat → Option (Hook (σ × List Note)) → _}
    {body : Nat → Option (Hook σ) → Act σ Unit}
    (h : ∀ i hook'? hook?, Option.Rel (HookNotes i lookup) hook'? hook? →
      Act.Tallies (Once call i) Eq (body' i hook'?) (body i hook?))
    (hh : HooksNote lookup i hooks' hooks) :
    Act.Tallies (Rising call i) Eq ((hooks'.zipIdx i).forM fun (hook?, i) => body' i hook?)
      ((hooks.zipIdx i).forM fun (hook?, i) => body i hook?) := by
  induction hh with
  | nil i => exact (Act.agree_pure rfl).mono fun h => h ▸ trivial
  | cons hr _ ih => exact (h _ _ _ hr).seq Once.append Once.rising fun _ _ _ => ih

/-- The method of visitors in lockstep for a step, with a record of their calls and without. -/
def StepNotes (lookup : Lookup) (hook' : Hook (σ × List Note)) (hook : Hook σ) : Prop :=
  ∀ args, Act.Tallies (Rising ⟨lookup.direction, lookup.kind, args⟩ 0) Eq (hook' args) (hook args)

theorem enter_notes (hh : HooksNote lookup 0 hooks' hooks) :
    StepNotes lookup (Lockstep.enter books.lifted hooks') (Lockstep.enter books hooks) := by
  intro args
  have hmember {i : Nat} {hook'? : Option (Hook (σ × List Note))} {hook? : Option (Hook σ)}
      (h : Option.Rel (HookNotes i lookup) hook'? hook?) {round : Nat} {depth : Int} :=
    tallies_enterMember books (i := i) (.inl rfl) (HookNotes.once h args) round depth
  refine .after trivial (agree_change books _) fun _ _ _ => ?_
  refine .after trivial (agree_read books) fun b' b hb => ?_
  subst hb
  refine (tallies_members (fun _ _ _ h => hmember h) hh).andThen fun _ _ _ => ?_
  refine (agree_read books).andThen fun b₁' b₁ hb₁ => ?_
  subst hb₁
  exact Act.agree_pure rfl

theorem leave_notes (hh : HooksNote lookup 0 hooks' hooks) :
    StepNotes lookup (Lockstep.leave books.lifted hooks') (Lockstep.leave books hooks) := by
  intro args
  have hmember {i : Nat} {hook'? : Option (Hook (σ × List Note))} {hook? : Option (Hook σ)}
      (h : Option.Rel (HookNotes i lookup) hook'? hook?) {round : Nat} {depth : Int} :=
    tallies_leaveMember books (i := i) (.inl rfl) (HookNotes.once h args) round depth
  refine .after trivial (agree_read books) fun b' b hb => ?_
  subst hb
  refine .after trivial (agree_change books _) fun _ _ _ => ?_
  exact (tallies_members (fun _ _ _ h => hmember h) hh).andThen
    fun _ _ _ => Act.agree_pure rfl

/-- A method with a note of all visitors in lockstep before it. -/
theorem Act.Tallies.announced {call : HookCall} {x' : Act (σ × List Note) Value}
    {x : Act σ Value} (h : Act.Tallies (Rising call 0) Eq x' x) :
    Act.Tallies InOrder Eq (do Act.mark ⟨none, call⟩; x') x := by
  intro w
  obtain ⟨seg, hseg, hrun⟩ := h w
  refine ⟨⟨none, call⟩ :: seg, ?_, ?_⟩
  · have := InOrder.step hseg .nil
    rwa [List.append_nil] at this
  · have hnext : ∀ marks, (Act.mark ⟨none, call⟩ >>= fun _ => x').runOn (w.traced marks) =
        x'.runOn (w.traced (marks ++ [⟨none, call⟩])) := fun _ => rfl
    rcases hr : x.runOn w with ⟨e | a, w'⟩
    · rw [hr] at hrun
      intro marks
      rw [hnext, hrun, List.append_assoc]
      rfl
    · rw [hr] at hrun
      obtain ⟨a', ha, hrun⟩ := hrun
      refine ⟨a', ha, fun marks => ?_⟩
      rw [hnext, hrun, List.append_assoc]
      rfl

theorem agree_lockstep (members : List (Visitor σ)) (lookup : Lookup) :
    Act.Agree (Option.Rel (StepNotes { lookup with relayed := true }))
      ((lockstep books.lifted (members.mapIdx fun i v => v.recorded i)).hook? lookup)
      ((lockstep books members).hook? lookup) := by
  have hmembers := agree_lookups { lookup with relayed := true } members 0
  simp only [Nat.zero_add] at hmembers
  obtain ⟨kind, direction, relayed⟩ := lookup
  unfold lockstep
  dsimp only
  rw [List.length_mapIdx]
  cases direction with
  | enter =>
    split
    · refine (agree_change books _).andThen fun _ _ _ => ?_
      exact hmembers.andThen fun _ _ hh => Act.agree_pure (.some (enter_notes books hh))
    · exact hmembers.andThen fun _ _ hh => Act.agree_pure (.some (enter_notes books hh))
  | leave => exact hmembers.andThen fun _ _ hh => Act.agree_pure (.some (leave_notes books hh))

/-- Visitors in lockstep that keep a record of their calls do what they do without, and the calls at
each step come in the order of the visitors. -/
theorem recordedLockstep_tallies (members : List (Visitor σ)) :
    (recordedLockstep books members).Tallies InOrder (lockstep books members) := by
  intro lookup
  refine (agree_lockstep books members lookup).mapped _ fun hook'? hook? h => ?_
  cases h with
  | none => exact .none
  | some h => exact .some fun args => (h args).announced

end

/-! ### Plain visitors with a record -/

section

variable {σ : Type} {τ : Nat → Type} {keeps : Store → Store → Prop} {s₀ : Store} {i : Nat}
  {visitor : Visitor σ}

/-- A state that is shared, beside a record: of that, its own calls belong to each visitor. -/
def Sharing.recorded (share : Sharing σ τ) :
    Sharing (σ × List Note) fun i => τ i × List Note where
  books := share.books.lifted
  own i state := (share.own i state.1, state.2.filter (·.who == some i))
  get_set b state := share.get_set b state.1
  own_set i b state := congrArg (·, _) (share.own_set i b state.1)

/-- The methods of a plain visitor, with a record of their calls. -/
def recordedFound (i : Nat) (found : τ i → Value → Direction → Option (Hook σ))
    (a : τ i × List Note) (kind : Value) (direction : Direction) :
    Option (Hook (σ × List Note)) :=
  (found a.1 kind direction).map fun hook args => do
    Act.mark ⟨some i, direction, kind, args⟩
    (hook args).unmarked

theorem runOn_recordedHook (hook : Hook σ) (args : List Value) (m : Note)
    (w : World (σ × List Note)) :
    (Act.judge (do Act.mark m; (hook args).unmarked) Lockstep.rethrow).runOn w =
      (((Act.judge (hook args) Lockstep.rethrow).runOn w.forget).1,
        ((Act.judge (hook args) Lockstep.rethrow).runOn w.forget).2.traced (w.state.2 ++ [m])) :=
  ((Act.records_unmarked (hook args) w.forget).marked m).judge Lockstep.rethrow w.state.2

/-- What the method of a visitor does beside a record, it does without. -/
theorem recordedHook_ok {hook : Hook σ} {args : List Value} {m : Note}
    {w w' : World (σ × List Note)} {b : Bool}
    (h : (Act.judge (do Act.mark m; (hook args).unmarked) Lockstep.rethrow).runOn w =
      (.ok b, w')) :
    ∃ w₁, (Act.judge (hook args) Lockstep.rethrow).runOn w.forget = (.ok b, w₁) ∧
      w' = w₁.traced (w.state.2 ++ [m]) := by
  rw [runOn_recordedHook] at h
  obtain ⟨hb, hw⟩ := Prod.mk.inj h
  exact ⟨_, Prod.ext hb rfl, hw.symm⟩

variable {share : Sharing σ τ} {found : τ i → Value → Direction → Option (Hook σ)}

theorem Visitor.Plain.recorded (hv : visitor.Plain share keeps s₀ i found) :
    (visitor.recorded i).Plain share.recorded keeps s₀ i (recordedFound i found) where
  lookup kind direction relayed w hw := by
    obtain ⟨w', hr, s, hs, rfl⟩ := hv.lookup kind direction relayed (w := w.forget) hw
    refine ⟨{ w with store := s }, ?_, s, hs, rfl⟩
    rw [recorded_hook?]
    have hr' : (visitor.hook? ⟨.text kind, direction, relayed⟩).unmarked.runOn w =
        (.ok (found (share.own i w.state.1) (.text kind) direction), { w with store := s }) := by
      have := Act.runOn_unmarked (visitor.hook? ⟨.text kind, direction, relayed⟩) w.forget w.state.2
      rw [hr] at this
      exact this
    exact Act.runOn_bind_ok hr' _
  method := @fun kind direction _ args w b _ hw hh hr => by
    obtain ⟨hook, hf, rfl⟩ := Option.map_eq_some_iff.mp hh
    obtain ⟨w₁, hr₁, rfl⟩ := recordedHook_ok hr
    obtain ⟨hk, hb, ho⟩ := hv.method (w := w.forget) hw hf hr₁
    refine ⟨hk, hb, fun j hj => Prod.ext (ho j hj) ?_⟩
    have hother : (some i == some j) = false := beq_false_of_ne fun h => hj (Option.some.inj h).symm
    dsimp only [Sharing.recorded, World.traced]
    rw [List.filter_append, List.filter_cons_of_neg (by simp [hother]), List.filter_nil,
      List.append_nil]
  again := @fun kind direction _ args w b _ v hw hh hr hv' ho => by
    obtain ⟨hook, hf, rfl⟩ := Option.map_eq_some_iff.mp hh
    obtain ⟨w₁, hr₁, rfl⟩ := recordedHook_ok hr
    obtain ⟨w₂, hr₂, ho₂⟩ := hv.again (w := w.forget) hw hf hr₁
      (show keeps s₀ v.forget.store from hv') (congrArg Prod.fst ho)
    have hrun := runOn_recordedHook hook args ⟨some i, direction, kind, args⟩ v
    rw [hr₂] at hrun
    refine ⟨_, hrun, Prod.ext ho₂ ?_⟩
    dsimp only [Sharing.recorded, World.traced]
    rw [List.filter_append, List.filter_append]
    exact congrArg (· ++ _) (congrArg Prod.snd ho)

/-- The note of a step is no visitor's own. -/
theorem Sharing.recorded_ignores (share : Sharing σ τ) (call : HookCall) :
    share.recorded.Ignores (Act.mark ⟨none, call⟩) := by
  intro w
  refine ⟨w.forget.traced (w.state.2 ++ [⟨none, call⟩]), rfl, rfl, rfl, fun i => ?_⟩
  refine Prod.ext rfl ?_
  dsimp only [Sharing.recorded, World.traced]
  rw [List.filter_append]
  exact List.append_nil _

end

/-! ### Walks -/

section

variable {σ : Type} {options : WalkOptions} {context root : Value} {w : World σ}

/-- A walk of a visitor that keeps a record of its calls. -/
theorem recorded_walk {i : Nat} {v : Visitor σ} {w' : World σ}
    (hr : (walk options v context root).runOn w = (.ok (), w')) :
    ∃ calls, (walk options (v.recorded i) context root).runOn (w.traced []) =
        (.ok (), w'.traced calls) ∧ calls.filter (·.who == some i) = calls := by
  obtain ⟨calls, hwho, hrun⟩ :=
    tallies_walk (piecewise_who i) (recorded_tallies i v) options context root w
  rw [hr] at hrun
  obtain ⟨_, -, hrun⟩ := hrun
  refine ⟨calls, hrun [], List.filter_eq_self.mpr fun n hn => ?_⟩
  rw [hwho n hn]
  exact beq_self_eq_true _

/-- A walk of visitors in lockstep, from one in which they keep a record of their calls. -/
theorem lockstep_of_recorded {books : Part σ Bookkeeping} {members : List (Visitor σ)}
    {w₁ : World (σ × List Note)}
    (hr : (walk options (recordedLockstep books members) context root).runOn (w.traced []) =
      (.ok (), w₁)) :
    ∃ w' notes, (walk options (lockstep books members) context root).runOn w = (.ok (), w') ∧
      w₁ = w'.traced notes ∧ InOrder notes := by
  obtain ⟨notes, horder, hrun⟩ :=
    tallies_walk piecewise_inOrder (recordedLockstep_tallies books members) options context root w
  rcases hw : (walk options (lockstep books members) context root).runOn w with ⟨e | ⟨⟩, w'⟩
  · rw [hw] at hrun
    nomatch (hrun []).symm.trans hr
  · rw [hw] at hrun
    obtain ⟨_, -, hrun⟩ := hrun
    exact ⟨w', notes, rfl, congrArg Prod.snd (hr.symm.trans (hrun [])), horder⟩

variable {τ : Nat → Type} {share : Sharing σ τ} {keeps : Store → Store → Prop}
  [IsPreorder Store keeps] {members : List (Visitor σ)}
  {found : (i : Nat) → τ i → Value → Direction → Option (Hook σ)} {view : View} {kind : String}
  {ends : Nat → World σ}

/-- **Lockstep and solo.** If plain visitors get through a walk from a document or a schema each by
itself, then they get through it in lockstep; each of them gets the calls that it gets by itself and
ends in the state in which it ends by itself; and the calls at each step come in the order of the
visitors. -/
theorem lockstep_solo
    (hplain : ∀ (i : Nat) (v : Visitor σ), members[i]? = some v →
      v.Plain share keeps w.store i (found i))
    (hS : view.Stands keeps w.store options root) (hdepth : 0 < options.depthLimit)
    (hk : view.kind? root = some kind) (hroot : kind = "document" ∨ kind = "schema")
    (hbelow : ∀ e, view.Below options.table root e →
      view.kind? e ≠ some "document" ∧ view.kind? e ≠ some "schema")
    (hends : ∀ (i : Nat) (v : Visitor σ), members[i]? = some v →
      (walk options v context root).runOn w = (.ok (), ends i)) :
    ∃ w' notes,
      (walk options (lockstep share.books members) context root).runOn w = (.ok (), w') ∧
      (walk options (recordedLockstep share.books members) context root).runOn (w.traced []) =
        (.ok (), w'.traced notes) ∧
      InOrder notes ∧
      ∀ (i : Nat) (v : Visitor σ), members[i]? = some v →
        share.own i w'.state = share.own i (ends i).state ∧
        (walk options (v.recorded i) context root).runOn (w.traced []) =
          (.ok (), (ends i).traced (notes.filter (·.who == some i))) := by
  have hsolo : ∀ i, ∃ calls, ∀ v, members[i]? = some v →
      (walk options (v.recorded i) context root).runOn (w.traced []) =
        (.ok (), (ends i).traced calls) ∧ calls.filter (·.who == some i) = calls := by
    intro i
    rcases hi : members[i]? with - | v
    · exact ⟨[], nofun⟩
    · obtain ⟨calls, h⟩ := recorded_walk (hends i v hi)
      exact ⟨calls, fun _ hv => Option.some.inj hv ▸ h⟩
  choose calls hcalls using hsolo
  have hmember : ∀ (i : Nat) (v' : Visitor (σ × List Note)),
      (members.mapIdx fun i v => v.recorded i)[i]? = some v' →
      ∃ v, members[i]? = some v ∧ v.recorded i = v' := by
    intro i v' h
    rw [List.getElem?_mapIdx] at h
    exact Option.map_eq_some_iff.mp h
  have hplain' : ∀ (i : Nat) (v' : Visitor (σ × List Note)),
      (members.mapIdx fun i v => v.recorded i)[i]? = some v' →
      v'.Plain share.recorded keeps w.store i (recordedFound i (found i)) := by
    intro i v' h
    obtain ⟨v, hv, rfl⟩ := hmember i v' h
    exact (hplain i v hv).recorded
  have hends' : ∀ (i : Nat) (v' : Visitor (σ × List Note)),
      (members.mapIdx fun i v => v.recorded i)[i]? = some v' →
      (walk options v' context root).runOn (w.traced []) =
        (.ok (), (fun i => (ends i).traced (calls i)) i) := by
    intro i v' h
    obtain ⟨v, hv, rfl⟩ := hmember i v' h
    exact (hcalls i v hv).1
  obtain ⟨w₁, hr, howns⟩ := lockstep_walk hplain'
    (fun lookup args => share.recorded_ignores ⟨lookup.direction, lookup.kind, args⟩) hS hdepth hk
    hroot hbelow (refl_of keeps _) hends'
  obtain ⟨w', notes, hw', rfl, horder⟩ := lockstep_of_recorded hr
  refine ⟨w', notes, hw', hr, horder, fun i v hi => ?_⟩
  obtain ⟨hrun, hown⟩ := hcalls i v hi
  have hboth := howns i (by
    rw [List.length_mapIdx]
    exact (List.getElem?_eq_some_iff.mp hi).1)
  refine ⟨congrArg Prod.fst hboth, ?_⟩
  have hnotes : notes.filter (·.who == some i) = (calls i).filter (·.who == some i) :=
    congrArg Prod.snd hboth
  rw [hnotes, hown]
  exact hrun

end

/-! ### Visitors with a state of their own -/

section

variable {σ : Type} {τ : Nat → Type}

/-- A part of a shared state that is the own state of the visitor of a number. -/
structure Sharing.Owns (share : Sharing σ τ) (i : Nat) (own : Part σ (τ i)) : Prop where
  get_eq : ∀ state, own.get state = share.own i state
  own_set : ∀ a state, share.own i (own.set a state) = a
  books_set : ∀ a state, share.books.get (own.set a state) = share.books.get state
  other_set : ∀ j ≠ i, ∀ a state, share.own j (own.set a state) = share.own j state

/-- The methods of a visitor with a state of its own. -/
def methodHook? {β : Type} (own : Part σ β)
    (method? : String → Direction → Option (List Value → β → Value × β)) :
    Value → Direction → Option (Hook σ)
  | .text kind, direction => (method? kind direction).map fun method args => do
      let a ← own.read
      own.change fun _ => (method args a).2
      return (method args a).1
  | _, _ => none

theorem methodHook?_run {β : Type} {own : Part σ β}
    {method? : String → Direction → Option (List Value → β → Value × β)} {kind : Value}
    {direction : Direction} {hook : Hook σ} (h : methodHook? own method? kind direction = some hook) :
    ∃ method : List Value → β → Value × β, ∀ args fatal w,
      (Act.judge (hook args) fatal).runOn w =
        (.ok (Action.asksToPrune (method args (own.get w.state)).1),
          { w with state := own.set (method args (own.get w.state)).2 w.state }) := by
  unfold methodHook? at h
  split at h
  · obtain ⟨method, -, rfl⟩ := Option.map_eq_some_iff.mp h
    exact ⟨method, fun _ _ _ => rfl⟩
  · nomatch h

theorem Visitor.ofMethods_plain {share : Sharing σ τ} {i : Nat} {own : Part σ (τ i)}
    (ho : share.Owns i own) (method? : String → Direction → Option (List Value → τ i → Value × τ i))
    (keeps : Store → Store → Prop) [IsPreorder Store keeps] (s₀ : Store) :
    (ofMethods own method?).Plain share keeps s₀ i fun _ => methodHook? own method? where
  lookup kind direction relayed w _ := ⟨w, rfl, w.store, refl_of keeps _, rfl⟩
  method _ hh hr := by
    obtain ⟨method, hrun⟩ := methodHook?_run hh
    rw [hrun] at hr
    obtain ⟨-, rfl⟩ := Prod.mk.inj hr
    exact ⟨refl_of keeps _, ho.books_set _ _, fun j hj => ho.other_set j hj _ _⟩
  again := @fun _ _ hook args w b _ w₁ _ hh hr _ hown => by
    obtain ⟨method, hrun⟩ := methodHook?_run hh
    rw [hrun] at hr
    obtain ⟨hb, rfl⟩ := Prod.mk.inj hr
    obtain rfl := Except.ok.inj hb
    rw [← ho.get_eq, ← ho.get_eq] at hown
    have hrun' := hrun args Lockstep.rethrow w₁
    rw [hown] at hrun'
    exact ⟨_, hrun', (ho.own_set _ _).trans (ho.own_set _ _).symm⟩

end

/-- Counters of visitors, beside a bookkeeping. -/
def counters : Sharing (Bookkeeping × (Nat → Nat)) fun _ => Nat where
  books := ⟨Prod.fst, fun b state => (b, state.2)⟩
  own i state := state.2 i
  get_set _ _ := rfl
  own_set _ _ _ := rfl

/-- The counter of the visitor of a number. -/
def counter (i : Nat) : Part (Bookkeeping × (Nat → Nat)) Nat :=
  ⟨fun state => state.2 i, fun n state => (state.1, Function.update state.2 i n)⟩

theorem counters_owns (i : Nat) : counters.Owns i (counter i) where
  get_eq _ := rfl
  own_set n state := by
    exact Function.update_self i n state.2
  books_set _ _ := rfl
  other_set j hj n state := by
    exact Function.update_of_ne hj n state.2

/-- The values in the walked attributes of a node. -/
def View.elements (view : View) (table : WalkTable) (v : Value) : List Value :=
  ((view.kind? v).elim [] table.entries).flatMap fun (key, _) =>
    match view.shown v key with
    | .items elements => elements
    | _ => []

theorem View.Below.mem {view : View} {table : WalkTable} {root e : Value} {l : List Value}
    (h : view.Below table root e) (hl : ∀ v ∈ root :: l, ∀ e ∈ view.elements table v, e ∈ l) :
    e ∈ l := by
  have hnext : ∀ {v kind key listKind elements e}, v ∈ root :: l → view.kind? v = some kind →
      (key, listKind) ∈ table.entries kind → view.shown v key = .items elements → e ∈ elements →
      e ∈ l := by
    intro v kind key listKind elements e hv hk hm hs he
    refine hl v hv e (List.mem_flatMap.mpr ⟨(key, listKind), ?_, ?_⟩)
    · rw [hk]
      exact hm
    · dsimp only
      rw [hs]
      exact he
  have hreached : ∀ {v}, view.Reached table root v → v ∈ root :: l := by
    intro v hv
    induction hv with
    | root => exact List.mem_cons_self ..
    | element _ hk hm hs he _ ih => exact List.mem_cons_of_mem _ (hnext ih hk hm hs he)
  obtain ⟨v, key, listKind, elements, ⟨hv, kind, hk, hm⟩, hs, he, -⟩ := h
  exact hnext (hreached hv) hk hm hs he

/-- Methods that count the fields of object definitions. -/
def countFields : String → Direction → Option (List Value → Nat → Value × Nat)
  | "object_field_definition", .enter => some fun _ n => (.null, n + 1)
  | _, _ => none

/-- Visitors of which the first one counts definitions, and the others count fields. -/
def countingVisitor (i : Nat) : Visitor (Bookkeeping × (Nat → Nat)) :=
  .ofMethods (counter i) (if i = 0 then countDefinitions else countFields)

/-- A schema, and visitors that have counted nothing. -/
def countingStart : World (Bookkeeping × (Nat → Nat)) :=
  ⟨.smallSchema, [], .fresh 2, fun _ => 0⟩

/-- How the walk of one of these visitors ends. -/
def countingEnd (i : Nat) : World (Bookkeeping × (Nat → Nat)) :=
  ((walk .standard (countingVisitor i) .null (.ref 0)).runOn countingStart).2

/-- Two visitors in lockstep, of which the first one prunes, over a schema. -/
theorem lockstep_solo_smallSchema :
    ∃ (w' : World (Bookkeeping × (Nat → Nat))) (notes : List Note),
      (walk .standard (lockstep counters.books [countingVisitor 0, countingVisitor 1]) .null
        (.ref 0)).runOn countingStart = (.ok (), w') ∧
      InOrder notes ∧
      ∀ i < 2, w'.state.2 i = (countingEnd i).state.2 i ∧
        (walk .standard ((countingVisitor i).recorded i) .null (.ref 0)).runOn
          (countingStart.traced []) =
            (.ok (), (countingEnd i).traced (notes.filter (·.who == some i))) := by
  have hmember : ∀ i v, [countingVisitor 0, countingVisitor 1][i]? = some v →
      i < 2 ∧ v = countingVisitor i := by
    intro i v h
    match i with
    | 0 => exact ⟨by omega, (Option.some.inj h).symm⟩
    | 1 => exact ⟨by omega, (Option.some.inj h).symm⟩
  have hok : ∀ i < 2, ((walk .standard (countingVisitor i) .null (.ref 0)).runOn
      countingStart).1.toBool = true := by decide +kernel
  have hbelow : ∀ e, Store.smallSchema.view.Below WalkOptions.standard.table (.ref 0) e →
      e ∈ [.ref 2, .ref 4, .ref 5] := fun e he => he.mem (by decide +kernel)
  have hkinds : ∀ e ∈ [Value.ref 2, .ref 4, .ref 5],
      Store.smallSchema.view.kind? e ≠ some "document" ∧
      Store.smallSchema.view.kind? e ≠ some "schema" := by decide +kernel
  have hplain : ∀ (i : Nat) (v : Visitor _), [countingVisitor 0, countingVisitor 1][i]? = some v →
      v.Plain counters Store.Grows Store.smallSchema i fun _ =>
        methodHook? (counter i) (if i = 0 then countDefinitions else countFields) := by
    intro i v h
    rw [(hmember i v h).2]
    exact Visitor.ofMethods_plain (counters_owns i) _ _ _
  have hends : ∀ (i : Nat) (v : Visitor _), [countingVisitor 0, countingVisitor 1][i]? = some v →
      (walk .standard v .null (.ref 0)).runOn countingStart =
        (.ok (), countingEnd i) := by
    intro i v h
    obtain ⟨hi, rfl⟩ := hmember i v h
    exact Prod.ext (eq_ok_of_toBool (hok i hi)) rfl
  obtain ⟨w', notes, hw', -, horder, hsame⟩ := lockstep_solo hplain Store.smallSchema_stands
    (by decide) rfl (.inr rfl) (fun e he => hkinds e (hbelow e he)) hends
  refine ⟨w', notes, hw', horder, fun i hi => ?_⟩
  exact hsame i (countingVisitor i) (by
    match i, hi with
    | 0, _ => rfl
    | 1, _ => rfl)

end GraphQLTree
