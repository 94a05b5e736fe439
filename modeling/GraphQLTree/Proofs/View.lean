import GraphQLTree.Proofs.Nesting
import GraphQLTree.Visitor.Lockstep
import Mathlib.Order.Defs.Unbundled

/-! # What a walk meets

A tree is seen by reading it: kinds, attributes, elements. A view says what is seen, without a
store. It stands for the tree in a store if every read gives what the view says, now and in every
store that keeps the tree; which changes keep it is left open, as a relation between stores. What a
walk meets is then a forest, computed from the view and the walk table alone (`View.node`).

A visitor that keeps the tree is led through this forest (`follows_walk`): its walk is the enter and
leave steps of the forest in order, with reads between them that change nothing that the visitor
can see. -/

namespace GraphQLTree

/-! ### Forests -/

/-- What a walk meets: frames with what is inside of them, up to the end or up to something that
cannot be read. -/
inductive Forest
  | done
  | broken
  | frame (f : Frame) (inner rest : Forest)

namespace Forest

/-- One forest behind the other. -/
def append : Forest → Forest → Forest
  | done, g => g
  | broken, _ => broken
  | frame f inner rest, g => frame f inner (rest.append g)

@[simp] theorem append_done (g : Forest) : g.append done = g := by
  induction g with
  | done | broken => rfl
  | frame f inner rest _ ih => rw [append, ih]

/-- Forests one behind the other. -/
def concat : List Forest → Forest
  | [] => done
  | g :: later => g.append (concat later)

/-- Whether all frames have a property. -/
def All (P : Frame → Prop) : Forest → Prop
  | done | broken => True
  | frame f inner rest => P f ∧ inner.All P ∧ rest.All P

theorem All.mono {P Q : Frame → Prop} {g : Forest} (h : g.All P) (hpq : ∀ f, P f → Q f) :
    g.All Q := by
  induction g with
  | done | broken => exact trivial
  | frame f inner rest ihi ihr => exact ⟨hpq f h.1, ihi h.2.1, ihr h.2.2⟩

theorem All.append {P : Frame → Prop} {g g' : Forest} (h : g.All P) (h' : g'.All P) :
    (g.append g').All P := by
  induction g with
  | done => exact h'
  | broken => exact trivial
  | frame f inner rest _ ih => exact ⟨h.1, h.2.1, ih h.2.2⟩

theorem all_concat {P : Frame → Prop} {l : List Forest} (h : ∀ g ∈ l, g.All P) :
    (concat l).All P := by
  induction l with
  | nil => exact trivial
  | cons g l ih =>
    exact (h g (List.mem_cons_self ..)).append (ih fun g' hg => h g' (List.mem_cons_of_mem g hg))

/-- All steps into and out of the frames. -/
def steps : Forest → List WalkStep
  | done | broken => []
  | frame f inner rest => (.enter, f) :: (inner.steps ++ (.leave, f) :: rest.steps)

theorem steps_wellNested (g : Forest) : WellNested g.steps := by
  induction g with
  | done | broken => exact .nil
  | frame f _ _ ihi ihr => exact .frame f ihi ihr

end Forest

/-! ### Views -/

/-- What a walked attribute shows. -/
inductive Shown
  | unreadable
  /-- Null, or anything else that is false. -/
  | nothing
  /-- Something that is true and has no elements. -/
  | unlisted
  | items (elements : List Value)

/-- What is shown by a sequence. -/
def Shown.ofItems : List Value → Shown
  | [] => nothing
  | elements => items elements

theorem Shown.ofItems_inj {l elements : List Value} (h : Shown.ofItems l = .items elements) :
    l = elements := by
  cases l with
  | nil => nomatch h
  | cons => exact Shown.items.inj h

/-- What is seen of a tree. -/
structure View where
  /-- The kind of a node, if it can be read. -/
  kind? : Value → Option String
  /-- What an attribute of a node shows. -/
  shown : Value → String → Shown
  /-- Whether a value belongs into a list of a kind. -/
  fits : String → Value → Bool

namespace View

variable (view : View)

/-- What is met at an element of a list, where `node` tells what is met at a node. -/
def element (node : Value → Forest) (kind : String) (e : Value) : Forest :=
  if view.fits kind e then
    match variants? kind with
    | some _ => .frame (.variant kind e) (node e) .done
    | none => node e
  else .broken

/-- What is met at a walked attribute. -/
def list (node : Value → Forest) (kind : String) : Shown → Forest
  | .unreadable => .broken
  | .nothing => .done
  | .unlisted => .frame (.list kind) .broken .done
  | .items elements =>
    .frame (.list kind) (.concat (elements.map (view.element node kind))) .done

/-- What is met inside a node: its walked attributes, in the order of the table. -/
def lists (node : Value → Forest) (entries : List (String × String)) (v : Value) : Forest :=
  .concat (entries.map fun (key, kind) => view.list node kind (view.shown v key))

/-- What is met at a node, down to a depth. -/
def node (table : WalkTable) : Nat → Value → Forest
  | 0, _ => .broken
  | depth + 1, v =>
    match view.kind? v with
    | none => .broken
    | some kind =>
      .frame (.node (.text kind) v)
        (view.lists (node table depth) (table.entries kind) v) .done

/-- The nodes that can be reached from a root. -/
inductive Reached (table : WalkTable) (root : Value) : Value → Prop
  | root : Reached table root root
  | element {v e : Value} {kind key listKind : String} {elements : List Value} :
      Reached table root v → view.kind? v = some kind → (key, listKind) ∈ table.entries kind →
      view.shown v key = .items elements → e ∈ elements → view.fits listKind e = true →
      Reached table root e

/-- Whether an attribute is walked, and of which kind its list is. -/
def Walked (table : WalkTable) (root v : Value) (key listKind : String) : Prop :=
  view.Reached table root v ∧ ∃ kind, view.kind? v = some kind ∧ (key, listKind) ∈ table.entries kind

/-- The nodes that are reached as elements of walked attributes. -/
def Below (table : WalkTable) (root e : Value) : Prop :=
  ∃ v key listKind elements, view.Walked table root v key listKind ∧
    view.shown v key = .items elements ∧ e ∈ elements ∧ view.fits listKind e = true

variable {view} {table : WalkTable} {root : Value}

theorem Below.reached {e : Value} (h : view.Below table root e) : view.Reached table root e := by
  obtain ⟨v, key, listKind, elements, ⟨hv, kind, hk, hm⟩, hs, he, hf⟩ := h
  exact .element hv hk hm hs he hf

/-! What holds of the frames of all nodes, lists and variants holds of all frames of a forest. -/

section

variable {P : Frame → Prop}
  (hlist : ∀ {v key kind}, view.Walked table root v key kind → P (.list kind))
  (hvariant : ∀ {kind e}, variants? kind ≠ none → view.Below table root e → P (.variant kind e))
include hlist hvariant

theorem all_lists {forest : Value → Forest} {v : Value} {kind : String}
    (hr : view.Reached table root v) (hk : view.kind? v = some kind)
    (hn : ∀ e, view.Below table root e → (forest e).All P) :
    (view.lists forest (table.entries kind) v).All P := by
  refine Forest.all_concat (List.forall_mem_map.mpr ?_)
  rintro ⟨key, listKind⟩ hm
  have hw : view.Walked table root v key listKind := ⟨hr, kind, hk, hm⟩
  dsimp only
  rcases hs : view.shown v key with - | - | - | elements
  · exact trivial
  · exact trivial
  · exact ⟨hlist hw, trivial, trivial⟩
  refine ⟨hlist hw, Forest.all_concat (List.forall_mem_map.mpr fun e he => ?_), trivial⟩
  unfold element
  split
  · rename_i hf
    have hb : view.Below table root e := ⟨v, key, listKind, elements, hw, hs, he, hf⟩
    rcases hv : variants? listKind with - | classes
    · exact hn e hb
    · exact ⟨hvariant (by simp [hv]) hb, hn e hb, trivial⟩
  · exact trivial

theorem all_node {R : Value → Prop} (hR : ∀ v, R v → view.Reached table root v)
    (hbelow : ∀ e, view.Below table root e → R e)
    (hnode : ∀ {v kind}, R v → view.kind? v = some kind → P (.node (.text kind) v)) (depth : Nat)
    {v : Value} (hv : R v) : (view.node table depth v).All P := by
  induction depth generalizing v with
  | zero => exact trivial
  | succ depth ih =>
    unfold node
    rcases hk : view.kind? v with - | kind
    · exact trivial
    · exact ⟨hnode hv hk, all_lists hlist hvariant (hR v hv) hk fun e he => ih (hbelow e he),
        trivial⟩

end

end View

/-! ### Reading in stores that keep a tree -/

/-- Whether a value belongs into a list of a kind. -/
def Action.belongs (kind : String) (e : Value) : Action Bool :=
  match variants? kind with
  | some classes => isOfAny (classes.map TypeValue.node) e
  | none => isOf (.node .node) e

/-- What is written to the log when a frame is skipped. -/
def Action.frameText (f : Frame) : Action String :=
  match f.node? with
  | none => text f.kind
  | some node => describedText node

section

variable {α : Type} (keeps : Store → Store → Prop) (s₀ : Store)

/-- In every store that keeps the tree of `s₀`, an action gives this answer and keeps the tree. -/
def Reads (act : Action α) (a : α) : Prop :=
  ∀ s, keeps s₀ s → ∃ s', act.perform.runOn s = (.ok a, s') ∧ keeps s s'

/-- In every store that keeps the tree of `s₀`, an action fails. -/
def Refuses (act : Action α) : Prop :=
  ∀ s, keeps s₀ s → ∃ e s', act.perform.runOn s = (.error e, s')

/-- A value shows its elements, now and later. -/
def Holds (nodes : Value) : Shown → Prop
  | .unreadable => Refuses keeps s₀ (Action.isTrue nodes)
  | .nothing => Reads keeps s₀ (Action.isTrue nodes) false
  | .unlisted => Reads keeps s₀ (Action.isTrue nodes) true ∧ Refuses keeps s₀ (Action.items nodes)
  | .items elements => Reads keeps s₀ (Action.isTrue nodes) true ∧
      Reads keeps s₀ (Action.items nodes) elements ∧
      Reads keeps s₀ (Action.checkSize nodes elements.length) ()

/-- An attribute of a node shows its elements. Its value need not be the same each time. -/
def Shows (v : Value) (key : String) (shown : Shown) : Prop :=
  ∀ s, keeps s₀ s →
    (∃ nodes s', (Action.attr v key).perform.runOn s = (.ok nodes, s') ∧ keeps s s' ∧
      Holds keeps s' nodes shown) ∨
    shown = .unreadable ∧ ∃ e s', (Action.attr v key).perform.runOn s = (.error e, s')

end

/-- A view stands for the tree under `root` in the store `s₀`: in all stores that keep the tree, it
is what is read. -/
structure View.Stands (view : View) (keeps : Store → Store → Prop) (s₀ : Store)
    (options : WalkOptions) (root : Value) : Prop where
  accepted : Reads keeps s₀ (Action.checkRoot root) ()
  kind : ∀ {v}, view.Reached options.table root v →
    match view.kind? v with
    | some kind => Reads keeps s₀ (Action.attr v "kind") (.text kind) ∧
        Reads keeps s₀ (Action.walkedAttrs options.table (.text kind)) (options.table.entries kind)
    | none => Refuses keeps s₀ (Action.attr v "kind")
  shows : ∀ {v key listKind}, view.Walked options.table root v key listKind →
    Shows keeps s₀ v key (view.shown v key)
  fits : ∀ {v key listKind elements e}, view.Walked options.table root v key listKind →
    view.shown v key = .items elements → e ∈ elements →
    if view.fits listKind e then Reads keeps s₀ (Action.belongs listKind e) true
    else ∀ s, keeps s₀ s → ∀ s', (Action.belongs listKind e).perform.runOn s ≠ (.ok true, s')
  /-- What can be skipped can be named, if that is logged. -/
  nodeText : options.debug = true → ∀ {v}, view.Reached options.table root v →
    ∃ text, Reads keeps s₀ (Action.describedText v) text
  listText : options.debug = true → ∀ {v key listKind},
    view.Walked options.table root v key listKind →
    ∃ text, Reads keeps s₀ (Action.text (.text (listKind ++ "_list"))) text

/-! ### Steps that keep a tree -/

namespace Act

variable {σ α β : Type} {keeps : Store → Store → Prop} {s₀ : Store}

/-- A step that keeps the tree of `s₀` whenever it succeeds. -/
def Keeping (keeps : Store → Store → Prop) (s₀ : Store) (act : Act σ α) : Prop :=
  ∀ ⦃w a w'⦄, keeps s₀ w.store → act.runOn w = (.ok a, w') → keeps w.store w'.store

variable [IsPreorder Store keeps]

theorem keeping_pure (a : α) : Keeping (σ := σ) keeps s₀ (pure a) := by
  intro w a' w' _ h
  obtain rfl : w = w' := congrArg Prod.snd h
  exact refl_of keeps _

theorem Keeping.bind {x : Act σ α} {f : α → Act σ β} (hx : Keeping keeps s₀ x)
    (hf : ∀ w a w₁, keeps s₀ w.store → x.runOn w = (.ok a, w₁) → Keeping keeps s₀ (f a)) :
    Keeping keeps s₀ (x >>= f) := by
  intro w b w' hw h
  obtain ⟨a, w₁, ha, hb⟩ := bind_ok_iff.mp h
  have h₁ := hx hw ha
  exact trans_of keeps h₁ (hf w a w₁ hw ha (trans_of keeps hw h₁) hb)

end Act

/-- A visitor whose methods keep the tree of `s₀`. -/
structure Visitor.Harmless {σ : Type} (keeps : Store → Store → Prop) (s₀ : Store)
    (visitor : Visitor σ) : Prop where
  lookup : ∀ kind direction, Act.Keeping keeps s₀ (visitor.hook? ⟨.text kind, direction, false⟩)
  method : ∀ {kind direction w hook w'}, keeps s₀ w.store →
    (visitor.hook? ⟨.text kind, direction, false⟩).runOn w = (.ok (some hook), w') →
    ∀ args, Act.Keeping keeps s₀ (Act.judge (hook args) Lockstep.rethrow)

end GraphQLTree
