import GraphQLTree.Proofs.CallSequence

/-! # Plain visitors

Several visitors share one state, in which each of them has something of its own. A visitor is plain
if what its methods do depends on its own state and on their arguments only, and if they leave the
tree and the states of the others alone. What such a visitor does in a walk by itself is told by its
own states, without a world: it runs solo through the forest (`Visitor.Plain.solo`). -/

namespace GraphQLTree

/-- How a state is shared: it holds a bookkeeping, and something of each visitor's own beside it. -/
structure Sharing (σ : Type) (τ : Nat → Type) where
  books : Part σ Bookkeeping
  own : (i : Nat) → σ → τ i
  get_set : ∀ b state, books.get (books.set b state) = b
  own_set : ∀ i b state, own i (books.set b state) = own i state

section

variable {σ : Type} {τ : Nat → Type} (share : Sharing σ τ) (keeps : Store → Store → Prop)
  (s₀ : Store) (i : Nat) (found : τ i → Value → Direction → Option (Hook σ))

/-- The visitor of number `i` is plain: `found` tells its methods, which may depend on its own state. -/
structure Visitor.Plain (visitor : Visitor σ) : Prop where
  lookup : ∀ kind direction relayed {w}, keeps s₀ w.store →
    ∃ w', (visitor.hook? ⟨.text kind, direction, relayed⟩).runOn w =
      (.ok (found (share.own i w.state) (.text kind) direction), w') ∧ Quiet keeps w w'
  /-- A method leaves alone what is not the visitor's own. -/
  method : ∀ {kind direction hook args w b w'}, keeps s₀ w.store →
    found (share.own i w.state) kind direction = some hook →
    (Act.judge (hook args) Lockstep.rethrow).runOn w = (.ok b, w') →
    keeps w.store w'.store ∧ share.books.get w'.state = share.books.get w.state ∧
      ∀ j ≠ i, share.own j w'.state = share.own j w.state
  /-- A method does the same whenever the visitor's own state is the same. -/
  again : ∀ {kind direction hook args w b w' w₁}, keeps s₀ w.store →
    found (share.own i w.state) kind direction = some hook →
    (Act.judge (hook args) Lockstep.rethrow).runOn w = (.ok b, w') →
    keeps s₀ w₁.store → share.own i w₁.state = share.own i w.state →
    ∃ w₁', (Act.judge (hook args) Lockstep.rethrow).runOn w₁ = (.ok b, w₁') ∧
      share.own i w₁'.state = share.own i w'.state

variable (context : Value)

/-- At a step, a plain visitor with the state `a` asks to skip what is inside or not, and has the
state `a'` then. -/
def Does (f : Frame) (direction : Direction) (a : τ i) (pruned : Bool) (a' : τ i) : Prop :=
  match found a f.kind direction with
  | none => pruned = false ∧ a' = a
  | some hook => ∃ w w', keeps s₀ w.store ∧ share.own i w.state = a ∧
      (Act.judge (hook (hookArgs context f.node?)) Lockstep.rethrow).runOn w = (.ok pruned, w') ∧
      share.own i w'.state = a'

/-- A plain visitor goes through a forest by itself, from a state to another one. -/
inductive Solo : Forest → τ i → τ i → Prop
  | done (a : τ i) : Solo .done a a
  | frame {f : Frame} {inner rest : Forest} {a a₁ a₂ a₃ a' : τ i} {pruned pruned' : Bool} :
      Does share keeps s₀ i found context f .enter a pruned a₁ →
      Solo (if pruned then .done else inner) a₁ a₂ →
      Does share keeps s₀ i found context f .leave a₂ pruned' a₃ → Solo rest a₃ a' →
      Solo (.frame f inner rest) a a'

end

/-! ### A plain visitor by itself -/

section

variable {σ : Type} {τ : Nat → Type} {share : Sharing σ τ} {keeps : Store → Store → Prop}
  {s₀ : Store} {i : Nat}
  {found : τ i → Value → Direction → Option (Hook σ)} {visitor : Visitor σ}
  {options : WalkOptions} {context : Value} {f : Frame} {w w' : World σ}

/-- The method for a step, as it is called in a walk. -/
theorem Visitor.Plain.does (hv : visitor.Plain share keeps s₀ i found) {direction : Direction}
    {hook : Hook σ} {pruned : Bool} (hw : keeps s₀ w.store)
    (hh : found (share.own i w.state) f.kind direction = some hook)
    (hr : (Act.judge (hook (hookArgs context f.node?)) (abort f.kind direction f.node?)).runOn w =
      (.ok pruned, w')) :
    Does share keeps s₀ i found context f direction (share.own i w.state) pruned
        (share.own i w'.state) ∧ keeps w.store w'.store := by
  have hr' : (Act.judge (hook (hookArgs context f.node?)) Lockstep.rethrow).runOn w =
      (.ok pruned, w') := Act.judge_ok (fails_abort f.kind direction f.node?) hr
  refine ⟨?_, (hv.method hw hh hr').1⟩
  unfold Does
  rw [hh]
  exact ⟨w, w', hw, rfl, hr', rfl⟩

/-- What a plain visitor does at a step, it does in every world where it has the same state. -/
theorem Visitor.Plain.run (hv : visitor.Plain share keeps s₀ i found) {direction : Direction}
    {hook : Hook σ} {pruned : Bool} {a' : τ i} (hw : keeps s₀ w.store)
    (hh : found (share.own i w.state) f.kind direction = some hook)
    (hd : Does share keeps s₀ i found context f direction (share.own i w.state) pruned a') :
    ∃ w', (Act.judge (hook (hookArgs context f.node?)) Lockstep.rethrow).runOn w =
        (.ok pruned, w') ∧ keeps w.store w'.store ∧
      share.books.get w'.state = share.books.get w.state ∧ share.own i w'.state = a' ∧
      ∀ j ≠ i, share.own j w'.state = share.own j w.state := by
  unfold Does at hd
  rw [hh] at hd
  obtain ⟨w₀, w₀', hw₀, hown, hr, rfl⟩ := hd
  rw [← hown] at hh
  obtain ⟨w', hr', hown'⟩ := hv.again hw₀ hh hr hw hown.symm
  rw [hown] at hh
  obtain ⟨hk, hb, ho⟩ := hv.method hw hh hr'
  exact ⟨w', hr', hk, hb, hown', ho⟩

variable [IsPreorder Store keeps]

theorem Visitor.Plain.enter (hv : visitor.Plain share keeps s₀ i found)
    (hf : Namable options keeps s₀ f) {pruned : Bool} (hw : keeps s₀ w.store)
    (hr : (enterFrame options visitor context f).runOn w = (.ok pruned, w')) :
    Does share keeps s₀ i found context f .enter (share.own i w.state) pruned
        (share.own i w'.state) ∧ keeps w.store w'.store := by
  obtain ⟨kind, hk⟩ := hf.kind
  rw [enterFrame, enterStep_eq, hk] at hr
  obtain ⟨w₁, hl, hq⟩ := hv.lookup kind .enter false hw
  rw [Act.runOn_bind_ok hl, ← hk] at hr
  have hw₁ := trans_of keeps hw hq.store
  rw [← hq.state] at hr ⊢
  rcases hh : found (share.own i w₁.state) f.kind .enter with - | hook
  · rw [hh] at hr
    cases hr
    unfold Does
    rw [hh]
    exact ⟨⟨rfl, rfl⟩, hq.store⟩
  · rw [hh] at hr
    obtain ⟨pruned', w₂, hj, he⟩ := Act.bind_ok_iff.mp hr
    obtain ⟨hd, hk₂⟩ := hv.does hw₁ hh hj
    have hw₂ := trans_of keeps hw₁ hk₂
    obtain ⟨w₃, he', hk₃, hs⟩ := hf.runOn_endEnter pruned' hw₂
    rw [he'] at he
    cases he
    rw [hs]
    exact ⟨hd, trans_of keeps hq.store (trans_of keeps hk₂ hk₃)⟩

theorem Visitor.Plain.leave (hv : visitor.Plain share keeps s₀ i found)
    (hf : Namable options keeps s₀ f) (hw : keeps s₀ w.store)
    (hr : (leaveFrame visitor context f).runOn w = (.ok (), w')) :
    (∃ pruned, Does share keeps s₀ i found context f .leave (share.own i w.state) pruned
        (share.own i w'.state)) ∧ keeps w.store w'.store := by
  obtain ⟨kind, hk⟩ := hf.kind
  rw [leaveFrame, leaveStep_eq, hk] at hr
  obtain ⟨w₁, hl, hq⟩ := hv.lookup kind .leave false hw
  rw [Act.runOn_bind_ok hl, ← hk] at hr
  rw [← hq.state] at hr ⊢
  rcases hh : found (share.own i w₁.state) f.kind .leave with - | hook
  · rw [hh] at hr
    cases hr
    unfold Does
    rw [hh]
    exact ⟨⟨false, rfl, rfl⟩, hq.store⟩
  · rw [hh] at hr
    obtain ⟨pruned, w₂, hj, he⟩ := Act.bind_ok_iff.mp hr
    cases he
    obtain ⟨hd, hk₂⟩ := hv.does (trans_of keeps hw hq.store) hh hj
    exact ⟨⟨pruned, hd⟩, trans_of keeps hq.store hk₂⟩

/-- Frames are passable for plain visitors. -/
theorem Visitor.Plain.passable (hv : visitor.Plain share keeps s₀ i found)
    (hf : Namable options keeps s₀ f) : Passable options visitor context keeps s₀ f :=
  ⟨hf.kind, fun _ _ _ hw hr => (hv.enter hf hw hr).2, fun _ _ _ hw hr => (hv.leave hf hw hr).2⟩

/-- What a plain visitor does in the course of a walk is what it does solo. -/
theorem Visitor.Plain.solo (hv : visitor.Plain share keeps s₀ i found) {above : Path} {g : Forest}
    {seg : List (Mark σ)} (hg : g.All (Namable options keeps s₀)) (hw : keeps s₀ w.store)
    (h : Course options visitor context keeps above g w seg w') :
    Solo share keeps s₀ i found context g (share.own i w.state) (share.own i w'.state) := by
  induction g generalizing above w w' seg with
  | done =>
    cases h with
    | done hq =>
      rw [hq.state]
      exact .done _
  | broken => cases h
  | frame f inner rest ihi ihr =>
    cases h with
    | @frame _ _ _ _ _ w₀ w₁ w₂ w₃ _ pruned _ _ hq he hi hl hr =>
      obtain ⟨hf, hgi, hgr⟩ := hg
      have h₀ := trans_of keeps hw hq.store
      obtain ⟨hd, hk₁⟩ := hv.enter hf h₀ he
      have h₁ := trans_of keeps h₀ hk₁
      have hsolo : Solo share keeps s₀ i found context (if pruned then .done else inner)
          (share.own i w₁.state) (share.own i w₂.state) := by
        cases pruned with
        | true =>
          cases hi with
          | done hq' =>
            rw [hq'.state]
            exact .done _
        | false => exact ihi hgi h₁ hi
      have hpass : (if pruned then Forest.done else inner).All
          (Passable options visitor context keeps s₀) := by
        cases pruned with
        | true => exact trivial
        | false => exact hgi.mono fun _ hf => hv.passable hf
      have h₂ := trans_of keeps h₁ (hi.store hpass h₁)
      obtain ⟨⟨pruned', hd'⟩, hk₃⟩ := hv.leave hf h₂ hl
      rw [← hq.state]
      exact .frame hd hsolo hd' (ihr hgr (trans_of keeps h₂ hk₃) hr)

end

end GraphQLTree
