import GraphQLTree.Proofs.Run

/-! # Traces of walks

A traced walk is a walk that keeps a record: what it enters and leaves, which methods it calls, what
they raise, where it prunes and where it fails. Each entry of the record holds a path, the frames
from what the entry is about up to the root. The paths are handed down by the walk itself; that they
agree with what was entered and not yet left is a theorem about walks, not a way to define them.

Keeping the record changes nothing (`tracedWalk_forget`): without it, a traced walk is the walk. -/

namespace GraphQLTree

/-! ### Frames and records -/

/-- What a walk enters and leaves. -/
inductive Frame
  | node (kind node : Value)
  /-- The elements of a list of the given kind. -/
  | list (kind : String)
  /-- An element of a list of variants of the given kind, before it is looked at as a node. -/
  | variant (kind : String) (element : Value)
  deriving DecidableEq, Repr

namespace Frame

/-- The kind that methods are looked up by. -/
def kind : Frame → Value
  | node kind _ => kind
  | list kind => .text (kind ++ "_list")
  | variant kind _ => .text kind

/-- The node that methods are called with. -/
def node? : Frame → Option Value
  | node _ v | variant _ v => some v
  | list _ => none

end Frame

/-- The frames from an inner one up to that of the root. -/
abbrev Path := List Frame

/-- Where a walk can fail. -/
inductive Place
  /-- While the innermost frame is entered. -/
  | entering (path : Path)
  /-- While the innermost frame is left. -/
  | leaving (path : Path)
  /-- Between the steps inside the innermost frame, as when an attribute is read. -/
  | inside (path : Path)
  deriving DecidableEq, Repr

/-- The frames around a place, with one that fails to be entered. -/
def Place.around : Place → Path
  | entering path => path
  | leaving path => path.tail
  | inside path => path

/-- A call of a method: what the method was looked up for, and what it is called with. -/
structure HookCall where
  direction : Direction
  kind : Value
  args : List Value
  deriving DecidableEq, Repr

/-- An entry of the record of a walk. -/
inductive Mark (σ : Type)
  /-- A step that enters something begins. -/
  | entered (path : Path)
  /-- A step that leaves something begins. -/
  | left (path : Path)
  /-- A method is called at a step. -/
  | called (call : HookCall) (path : Path)
  /-- That method ends, with an answer or with an error; the world is the one it leaves behind. -/
  | ended (call : HookCall) (path : Path) (outcome : Except Halt Value) (world : World σ)
  /-- The walk skips what is inside. -/
  | pruned (path : Path)
  | failed (place : Place)

/-- A state with a record, the latest entry last. -/
abbrev Traced (σ : Type) := σ × List (Mark σ)

namespace World

variable {σ μ : Type}

/-- A world with a record. -/
def traced (w : World σ) (marks : List μ) : World (σ × List μ) :=
  ⟨w.store, w.log, (w.state, marks)⟩

/-- A world without its record. -/
def forget (w : World (σ × List μ)) : World σ :=
  ⟨w.store, w.log, w.state.1⟩

end World

namespace Act

variable {σ μ α : Type}

/-- A step of a walk without a record as one of a walk that keeps it. -/
def unmarked (act : Act σ α) : Act (σ × List μ) α :=
  ExceptT.mk fun w =>
    let (outcome, w') := act.runOn w.forget
    (outcome, w'.traced w.state.2)

/-- Adds an entry to the record. -/
def mark (m : μ) : Act (σ × List μ) Unit :=
  modifyThe (World (σ × List μ)) fun w => w.forget.traced (w.state.2 ++ [m])

/-- A step at a place, where it is recorded if it fails. -/
def placed (place : Place) (act : Act (Traced σ) α) : Act (Traced σ) α :=
  tryCatch act fun halt => do
    mark (.failed place)
    throw halt

/-- A method that is called, with a record of the call and of how it ends. -/
def recorded (call : HookCall) (path : Path) (act : Act σ Value) : Act (Traced σ) Value := do
  mark (.called call path)
  ExceptT.mk fun w =>
    let (outcome, w') := act.runOn w.forget
    (outcome, w'.traced (w.state.2 ++ [.ended call path outcome w']))

end Act

/-- A visitor at a step, with a record of the calls of its methods. -/
def Visitor.watched {σ : Type} (visitor : Visitor σ) (path : Path) : Visitor (Traced σ) where
  hook? lookup := do
    match ← (visitor.hook? lookup).unmarked with
    | none => return none
    | some hook =>
      return some fun args => Act.recorded ⟨lookup.direction, lookup.kind, args⟩ path (hook args)

/-! ### Traced walks -/

section

variable {σ : Type} (options : WalkOptions) (visitor : Visitor σ) (context : Value)

/-- Enters a frame. -/
def tracedEnter (frame : Frame) (above : Path) : Act (Traced σ) Bool := do
  Act.mark (.entered (frame :: above))
  let pruned ← Act.placed (.entering (frame :: above))
    (enterStep options (visitor.watched (frame :: above)) context frame.kind frame.node?)
  if pruned then Act.mark (.pruned (frame :: above))
  return pruned

/-- Leaves a frame. -/
def tracedLeave (frame : Frame) (above : Path) : Act (Traced σ) Unit := do
  Act.mark (.left (frame :: above))
  Act.placed (.leaving (frame :: above))
    (leaveStep (visitor.watched (frame :: above)) context frame.kind frame.node?)

/-- A frame with what is done inside. -/
def tracedFrame (frame : Frame) (above : Path) (inner : Act (Traced σ) Unit) :
    Act (Traced σ) Unit :=
  Act.framed (tracedEnter options visitor context frame above) inner
    (tracedLeave visitor context frame above)

/-- Walks an element of a list, where `visit` walks a node. -/
def tracedElement (visit : Path → Value → Act (Traced σ) Unit) (kind : String) (above : Path)
    (element : Value) : Act (Traced σ) Unit := do
  match variants? kind with
  | some classes =>
    if ← Act.placed (.inside above) (Action.isOfAny (classes.map TypeValue.node) element) then
      tracedFrame options visitor context (.variant kind element) above
        (Act.onReport (visit (.variant kind element :: above) element) fun e => Act.unmarked do
          let words ← Action.kindWords (← Action.attr element "kind")
          Action.recordStage (.ref e) (Stage.variant words).text)
    else Act.placed (.inside above) (rejectElement kind element : Act σ Unit).unmarked
  | none =>
    if ← Act.placed (.inside above) (Action.isOf (.node .node) element) then visit above element
    else Act.placed (.inside above) (rejectElement kind element : Act σ Unit).unmarked

/-- Walks the elements of a list, where `visit` walks a node. -/
def tracedElements (visit : Path → Value → Act (Traced σ) Unit) (kind : String) (above : Path)
    (nodes : Value) : Act (Traced σ) Unit := do
  let elements ← Act.placed (.inside above) (Action.items nodes)
  elements.forM fun element => do
    Act.within (.element (plainKind kind))
      (tracedElement options visitor context visit kind above element)
    Act.placed (.inside above) (Action.checkSize nodes elements.length)

/-- Walks a list of nodes of a kind, where `visit` walks a node. -/
def tracedList (visit : Path → Value → Act (Traced σ) Unit) (kind : String) (above : Path)
    (nodes : Value) : Act (Traced σ) Unit := do
  if ← Act.placed (.inside above) (Action.isTrue nodes) then
    tracedFrame options visitor context (.list kind) above
      (tracedElements options visitor context visit kind (.list kind :: above) nodes)

/-- Walks the lists of a node, where `visit` walks a node. -/
def tracedLists (visit : Path → Value → Act (Traced σ) Unit) (kind node : Value) (above : Path) :
    Act (Traced σ) Unit := do
  let walked ← Act.placed (.inside above) (Action.walkedAttrs options.table kind)
  walked.forM fun (key, listKind) =>
    Act.within (.list (plainKind listKind)) do
      let nodes ← Act.placed (.inside above) (Action.attr node key)
      tracedList options visitor context visit listKind above nodes

/-- Walks a node, with `depth` levels of nesting to go. -/
def tracedNode (depth : Nat) (above : Path) (node : Value) : Act (Traced σ) Unit := do
  match depth with
  | 0 => Act.placed (.inside above) (throw .tooDeep)
  | depth + 1 =>
    let kind ← Act.placed (.inside above) (Action.attr node "kind")
    tracedFrame options visitor context (.node kind node) above
      (tracedLists options visitor context (tracedNode depth) kind node (.node kind node :: above))

/-- Walks from a root. -/
def tracedFrom (root : Value) : Act (Traced σ) Unit :=
  Act.onReport (tracedNode options visitor context options.depthLimit [] root) fun e =>
      Act.unmarked do
    if options.debug then
      let shown ← Action.describedText root
      let text ← Action.text (.ref e)
      Act.log ("Walk over " ++ shown ++ " aborted: " ++ text)

/-- Walks through a document or a schema. -/
def tracedWalk (root : Value) : Act (Traced σ) Unit := do
  Act.placed (.inside []) (Action.checkRoot root)
  tracedFrom options visitor context root

end

/-! ### Runs with a record -/

namespace Act

variable {σ μ α β : Type}

theorem runOn_unmarked (act : Act σ α) (w : World σ) (marks : List μ) :
    act.unmarked.runOn (w.traced marks) = ((act.runOn w).1, (act.runOn w).2.traced marks) := rfl

theorem runOn_mark (m : μ) (w : World σ) (marks : List μ) :
    (mark m).runOn (w.traced marks) = (.ok (), w.traced (marks ++ [m])) := rfl

/-- On the world `w`, a step that keeps a record does what the step `act` does, and adds `seg` to the
record. -/
def Records (act' : Act (σ × List μ) α) (act : Act σ α) (w : World σ) (seg : List μ) : Prop :=
  ∀ marks, act'.runOn (w.traced marks) =
    ((act.runOn w).1, (act.runOn w).2.traced (marks ++ seg))

theorem records_unmarked (act : Act σ α) (w : World σ) :
    Records (μ := μ) act.unmarked act w [] := by
  intro marks
  rw [runOn_unmarked, List.append_nil]

theorem records_pure (a : α) (w : World σ) : Records (μ := μ) (pure a) (pure a) w [] :=
  records_unmarked (pure a) w

theorem Records.bind_ok {x' : Act (σ × List μ) α} {x : Act σ α} {g : α → Act (σ × List μ) β}
    {f : α → Act σ β} {w w₁ : World σ} {a : α} {seg seg₁ : List μ}
    (hx : Records x' x w seg) (ha : x.runOn w = (.ok a, w₁)) (hf : Records (g a) (f a) w₁ seg₁) :
    Records (x' >>= g) (x >>= f) w (seg ++ seg₁) := by
  intro marks
  have hx' := hx marks
  rw [ha] at hx'
  rw [runOn_bind_ok hx', runOn_bind_ok ha, hf, List.append_assoc]

theorem Records.bind_error {x' : Act (σ × List μ) α} {x : Act σ α} {g : α → Act (σ × List μ) β}
    {f : α → Act σ β} {w w₁ : World σ} {e : Halt} {seg : List μ}
    (hx : Records x' x w seg) (he : x.runOn w = (.error e, w₁)) :
    Records (x' >>= g) (x >>= f) w seg := by
  intro marks
  have hx' := hx marks
  rw [he] at hx'
  rw [runOn_bind_error hx', runOn_bind_error he]

theorem Records.tryCatch_ok {x' : Act (σ × List μ) α} {x : Act σ α} {g : Halt → Act (σ × List μ) α}
    {f : Halt → Act σ α} {w w₁ : World σ} {a : α} {seg : List μ}
    (hx : Records x' x w seg) (ha : x.runOn w = (.ok a, w₁)) :
    Records (tryCatch x' g) (tryCatch x f) w seg := by
  intro marks
  have hx' := hx marks
  rw [ha] at hx'
  rw [runOn_tryCatch, runOn_tryCatch, hx', ha]

theorem Records.tryCatch_error {x' : Act (σ × List μ) α} {x : Act σ α}
    {g : Halt → Act (σ × List μ) α} {f : Halt → Act σ α} {w w₁ : World σ} {e : Halt}
    {seg seg₁ : List μ} (hx : Records x' x w seg) (he : x.runOn w = (.error e, w₁))
    (hf : Records (g e) (f e) w₁ seg₁) :
    Records (tryCatch x' g) (tryCatch x f) w (seg ++ seg₁) := by
  intro marks
  have hx' := hx marks
  rw [he] at hx'
  rw [runOn_tryCatch, runOn_tryCatch, hx', he]
  dsimp only
  rw [hf, List.append_assoc]

theorem Records.marked {x' : Act (σ × List μ) α} {x : Act σ α} {w : World σ} {seg : List μ}
    (hx : Records x' x w seg) (m : μ) :
    Records (mark m >>= fun _ => x') x w (m :: seg) := by
  intro marks
  rw [runOn_bind_ok (runOn_mark m w marks), hx, List.append_assoc]
  rfl

/-- What follows a step and keeps no record leaves its record as it is. -/
theorem Records.bind_unmarked {x' : Act (σ × List μ) α} {x : Act σ α} {w : World σ}
    {seg : List μ} (hx : Records x' x w seg) (f : α → Act σ β) :
    Records (x' >>= fun a => (f a).unmarked) (x >>= f) w seg := by
  rcases ha : x.runOn w with ⟨e | a, w₁⟩
  · exact hx.bind_error ha
  · have := hx.bind_ok (g := fun a => (f a).unmarked) (f := f) ha (records_unmarked (f a) w₁)
    rwa [List.append_nil] at this

theorem Records.tryCatch_unmarked {x' : Act (σ × List μ) α} {x : Act σ α} {w : World σ}
    {seg : List μ} (hx : Records x' x w seg) (f : Halt → Act σ α) :
    Records (tryCatch x' fun e => (f e).unmarked) (tryCatch x f) w seg := by
  rcases ha : x.runOn w with ⟨e | a, w₁⟩
  · have := hx.tryCatch_error (g := fun e => (f e).unmarked) (f := f) ha
      (records_unmarked (f e) w₁)
    rwa [List.append_nil] at this
  · exact hx.tryCatch_ok ha

/-! Steps that keep no record are made up of steps that keep none. -/

theorem unmarked_bind (x : Act σ α) (f : α → Act σ β) :
    ((x >>= f).unmarked : Act (σ × List μ) β) = x.unmarked >>= fun a => (f a).unmarked := by
  refine ext fun w => ?_
  have h := ((records_unmarked x w.forget).bind_unmarked f) w.state.2
  rw [List.append_nil] at h
  exact h.symm

theorem records_placed_ok {x' : Act (Traced σ) α} {x : Act σ α} {w w₁ : World σ} {a : α}
    {seg : List (Mark σ)} (place : Place) (hx : Records x' x w seg)
    (ha : x.runOn w = (.ok a, w₁)) : Records (placed place x') x w seg := by
  intro marks
  have hx' := hx marks
  rw [ha] at hx' ⊢
  unfold placed
  rw [runOn_tryCatch, hx']

theorem records_placed_error {x' : Act (Traced σ) α} {x : Act σ α} {w w₁ : World σ} {e : Halt}
    {seg : List (Mark σ)} (place : Place) (hx : Records x' x w seg)
    (he : x.runOn w = (.error e, w₁)) :
    Records (placed place x') x w (seg ++ [.failed place]) := by
  intro marks
  have hx' := hx marks
  rw [he] at hx' ⊢
  unfold placed
  rw [runOn_tryCatch, hx']
  dsimp only
  rw [runOn_bind_ok (runOn_mark _ _ _), runOn_throw, List.append_assoc]

theorem exists_records_placed (place : Place) (act : Act σ α) (w : World σ) :
    ∃ seg, Records (placed place act.unmarked) act w seg := by
  rcases hr : act.runOn w with ⟨e | a, w₁⟩
  · exact ⟨_, records_placed_error place (records_unmarked act w) hr⟩
  · exact ⟨_, records_placed_ok place (records_unmarked act w) hr⟩

theorem Records.tryCatch_eq {x' : Act (σ × List μ) α} {x : Act σ α} {w : World σ} {seg : List μ}
    (hx : Records x' x w seg) {f' : Halt → Act (σ × List μ) α} {f : Halt → Act σ α}
    (h : ∀ halt, f' halt = (f halt).unmarked) :
    Records (tryCatch x' f') (tryCatch x f) w seg := by
  rw [funext h]
  exact hx.tryCatch_unmarked f

/-- Handlers that keep no record add nothing to it. -/
theorem Records.handle {x' : Act (σ × List μ) α} {x : Act σ α} {w : World σ} {seg : List μ}
    (hx : Records x' x w seg) (f : Ref → Act σ α) :
    Records (Act.handle x' fun e => (f e).unmarked) (Act.handle x f) w seg := by
  unfold Act.handle
  refine hx.tryCatch_eq fun halt => ?_
  cases halt with
  | raised e =>
    dsimp only
    rw [unmarked_bind]
    refine congrArg (_ >>= ·) (funext fun s => ?_)
    split <;> rfl
  | tooDeep => rfl

theorem Records.handle_eq {x' : Act (σ × List μ) α} {x : Act σ α} {w : World σ} {seg : List μ}
    (hx : Records x' x w seg) {f' : Ref → Act (σ × List μ) α} {f : Ref → Act σ α}
    (h : ∀ e, f' e = (f e).unmarked) :
    Records (Act.handle x' f') (Act.handle x f) w seg := by
  rw [funext h]
  exact hx.handle f

theorem Records.onReport {x' : Act (σ × List μ) α} {x : Act σ α} {w : World σ}
    {seg : List μ} (hx : Records x' x w seg) (f : Ref → Act σ Unit) :
    Records (Act.onReport x' fun e => (f e).unmarked) (Act.onReport x f) w seg := by
  unfold Act.onReport
  refine hx.tryCatch_eq fun halt => ?_
  cases halt with
  | raised e =>
    dsimp only
    rw [unmarked_bind]
    refine congrArg (_ >>= ·) (funext fun s => ?_)
    split
    · rw [unmarked_bind]; rfl
    · rfl
  | tooDeep => rfl

theorem Records.judge {x' : Act (σ × List μ) Value} {x : Act σ Value} {w : World σ}
    {seg : List μ} (hx : Records x' x w seg) (f : Ref → Act σ Bool) :
    Records (Act.judge x' fun e => (f e).unmarked) (Act.judge x f) w seg := by
  unfold Act.judge
  refine (hx.bind_unmarked fun answer => pure (Action.asksToPrune answer)).handle_eq fun e => ?_
  rw [unmarked_bind]
  refine congrArg (_ >>= ·) (funext fun signal => ?_)
  cases signal <;> rfl

theorem runOn_getThe (w : World σ) : (getThe (World σ) : Act σ (World σ)).runOn w = (.ok w, w) :=
  rfl

end Act

/-! ### Methods with a record -/

section

variable {σ : Type}

/-- What the record gets from a method that is called on a world. -/
def runMarks (call : HookCall) (path : Path) (act : Act σ Value) (w : World σ) : List (Mark σ) :=
  [.called call path, .ended call path (act.runOn w).1 (act.runOn w).2]

theorem records_recorded (call : HookCall) (path : Path) (act : Act σ Value) (w : World σ) :
    Act.Records (Act.recorded call path act) act w (runMarks call path act w) := by
  intro marks
  unfold Act.recorded runMarks
  rw [Act.runOn_bind_ok (Act.runOn_mark _ _ _)]
  exact congrArg (fun l => ((act.runOn w).1, (act.runOn w).2.traced l)) (List.append_assoc ..)

variable (options : WalkOptions) (visitor : Visitor σ) (context : Value)

/-- What the record gets from the method for a step, if there is one. -/
def hookMarks (direction : Direction) (frame : Frame) (above : Path) (w : World σ) :
    List (Mark σ) :=
  match (visitor.hook? ⟨frame.kind, direction, false⟩).runOn w with
  | (.ok (some hook), w') =>
    let args := hookArgs context frame.node?
    runMarks ⟨direction, frame.kind, args⟩ (frame :: above) (hook args) w'
  | _ => []

theorem runOn_watched (path : Path) (lookup : Lookup) (w : World σ) (marks : List (Mark σ)) :
    ((visitor.watched path).hook? lookup).runOn (w.traced marks) =
      match (visitor.hook? lookup).runOn w with
      | (.ok hook?, w') =>
        (.ok (hook?.map fun hook args =>
          Act.recorded ⟨lookup.direction, lookup.kind, args⟩ path (hook args)), w'.traced marks)
      | (.error halt, w') => (.error halt, w'.traced marks) := by
  unfold Visitor.watched
  dsimp only
  rw [Act.runOn_bind, Act.runOn_unmarked]
  rcases (visitor.hook? lookup).runOn w with ⟨halt | _ | hook, w'⟩ <;> rfl

theorem abort_unmarked (kind : Value) (direction : Direction) (node? : Option Value) (e : Ref) :
    ((abort kind direction node? e : Act σ α).unmarked : Act (σ × List μ) α) =
      abort kind direction node? e := by
  unfold abort
  rw [Act.unmarked_bind]
  refine congrArg (_ >>= ·) (funext fun words => ?_)
  rw [Act.unmarked_bind]
  rfl

theorem endEnter_unmarked (kind : Value) (node? : Option Value) (pruned : Bool) :
    ((endEnter options kind node? pruned : Act σ Bool).unmarked : Act (σ × List μ) Bool) =
      endEnter options kind node? pruned := by
  unfold endEnter
  dsimp only
  split
  · cases node? with
    | none => rw [Act.unmarked_bind]; rfl
    | some node => rw [Act.unmarked_bind]; rfl
  · rfl

theorem records_enterStep (frame : Frame) (above : Path) (w : World σ) :
    Act.Records
      (enterStep options (visitor.watched (frame :: above)) context frame.kind frame.node?)
      (enterStep options visitor context frame.kind frame.node?) w
      (hookMarks visitor context .enter frame above w) := by
  intro marks
  rw [enterStep_eq, enterStep_eq, Act.runOn_bind, Act.runOn_bind, runOn_watched]
  unfold hookMarks
  rcases (visitor.hook? ⟨frame.kind, .enter, false⟩).runOn w with ⟨halt | _ | hook, w'⟩
  · simp
  · simp
  · have h := ((records_recorded ⟨.enter, frame.kind, hookArgs context frame.node?⟩
      (frame :: above) (hook (hookArgs context frame.node?)) w').judge
      (abort frame.kind .enter frame.node?)).bind_unmarked
      (endEnter options frame.kind frame.node?)
    simp only [abort_unmarked, endEnter_unmarked] at h
    exact h marks

theorem records_leaveStep (frame : Frame) (above : Path) (w : World σ) :
    Act.Records (leaveStep (visitor.watched (frame :: above)) context frame.kind frame.node?)
      (leaveStep visitor context frame.kind frame.node?) w
      (hookMarks visitor context .leave frame above w) := by
  intro marks
  rw [leaveStep_eq, leaveStep_eq, Act.runOn_bind, Act.runOn_bind, runOn_watched]
  unfold hookMarks
  rcases (visitor.hook? ⟨frame.kind, .leave, false⟩).runOn w with ⟨halt | _ | hook, w'⟩
  · simp
  · simp
  · have h := ((records_recorded ⟨.leave, frame.kind, hookArgs context frame.node?⟩
      (frame :: above) (hook (hookArgs context frame.node?)) w').judge
      (abort frame.kind .leave frame.node?)).bind_unmarked fun _ => pure ()
    simp only [abort_unmarked] at h
    exact h marks

variable {options visitor context} {w w₁ : World σ} {e : Halt} {frame : Frame}
  (above : Path)

theorem records_tracedEnter_error
    (hr : (enterStep options visitor context frame.kind frame.node?).runOn w = (.error e, w₁)) :
    Act.Records (tracedEnter options visitor context frame above)
      (enterStep options visitor context frame.kind frame.node?) w
      (.entered (frame :: above) :: hookMarks visitor context .enter frame above w ++
        [.failed (.entering (frame :: above))]) := by
  have h := Act.records_placed_error (.entering (frame :: above))
    (records_enterStep options visitor context frame above w) hr
  rw [List.cons_append]
  refine Act.Records.marked (fun marks => ?_) _
  have hm := h marks
  rw [hr] at hm
  rw [hr, Act.runOn_bind_error hm]

theorem records_tracedEnter_ok {pruned : Bool}
    (hr : (enterStep options visitor context frame.kind frame.node?).runOn w = (.ok pruned, w₁)) :
    Act.Records (tracedEnter options visitor context frame above)
      (enterStep options visitor context frame.kind frame.node?) w
      (.entered (frame :: above) :: hookMarks visitor context .enter frame above w ++
        if pruned then [.pruned (frame :: above)] else []) := by
  have h := Act.records_placed_ok (.entering (frame :: above))
    (records_enterStep options visitor context frame above w) hr
  rw [List.cons_append]
  refine Act.Records.marked (fun marks => ?_) _
  have hm := h marks
  rw [hr] at hm
  rw [hr, Act.runOn_bind_ok hm]
  cases pruned with
  | true =>
    rw [← List.append_assoc]
    rfl
  | false =>
    simp only [Bool.false_eq_true, if_false, List.append_nil]
    rfl

theorem records_tracedLeave_error
    (hr : (leaveStep visitor context frame.kind frame.node?).runOn w = (.error e, w₁)) :
    Act.Records (tracedLeave visitor context frame above)
      (leaveStep visitor context frame.kind frame.node?) w
      (.left (frame :: above) :: hookMarks visitor context .leave frame above w ++
        [.failed (.leaving (frame :: above))]) :=
  (Act.records_placed_error (.leaving (frame :: above))
    (records_leaveStep visitor context frame above w) hr).marked _

theorem records_tracedLeave_ok
    (hr : (leaveStep visitor context frame.kind frame.node?).runOn w = (.ok (), w₁)) :
    Act.Records (tracedLeave visitor context frame above)
      (leaveStep visitor context frame.kind frame.node?) w
      (.left (frame :: above) :: hookMarks visitor context .leave frame above w) :=
  (Act.records_placed_ok (.leaving (frame :: above))
    (records_leaveStep visitor context frame above w) hr).marked _

end

namespace Act

variable {σ : Type} {enter' : Act (Traced σ) Bool} {inner' leave' : Act (Traced σ) Unit}
  {enter : Act σ Bool} {inner leave : Act σ Unit} {w w₁ : World σ} {seg seg' : List (Mark σ)}

theorem Records.framed_error {e : Halt} (he : Records enter' enter w seg)
    (hr : enter.runOn w = (.error e, w₁)) :
    Records (framed enter' inner' leave') (framed enter inner leave) w seg := he.bind_error hr

theorem Records.framed_pruned (he : Records enter' enter w seg)
    (hr : enter.runOn w = (.ok true, w₁)) (hl : Records leave' leave w₁ seg') :
    Records (framed enter' inner' leave') (framed enter inner leave) w (seg ++ seg') :=
  he.bind_ok hr hl

theorem Records.framed_entered (he : Records enter' enter w seg)
    (hr : enter.runOn w = (.ok false, w₁))
    (hi : Records (inner' >>= fun _ => leave') (inner >>= fun _ => leave) w₁ seg') :
    Records (framed enter' inner' leave') (framed enter inner leave) w (seg ++ seg') :=
  he.bind_ok hr hi

end Act
end GraphQLTree
