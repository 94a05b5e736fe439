import GraphQLTree.Walk.Basic

/-! # Visitors in lockstep

Several visitors can share one walk. Each of them is called at each step, in order. A visitor that
prunes gets no calls until the step at which it pruned is left; the others are not affected. The
walk skips the children only if all visitors do.

The bookkeeping counts the open steps, and for each visitor it holds the count at which it pruned,
or zero. It starts anew when a document or a schema is entered, to drop what an aborted walk has
left behind. A call that is under way at that moment goes on with the marks it started with, so the
marks of earlier rounds are kept. -/

namespace GraphQLTree

/-- The bookkeeping of visitors in lockstep. -/
structure Bookkeeping where
  /-- The number of open steps. -/
  depth : Int
  /-- For each round, the depth at which each visitor pruned, or zero; the latest round is last. -/
  rounds : List (List Int)
  deriving DecidableEq, Repr

namespace Bookkeeping

/-- The bookkeeping of `count` new visitors. -/
def fresh (count : Nat) : Bookkeeping :=
  ⟨0, [List.replicate count 0]⟩

/-- A new round. -/
def restart (b : Bookkeeping) (count : Nat) : Bookkeeping :=
  ⟨0, b.rounds ++ [List.replicate count 0]⟩

/-- The number of the latest round. -/
def round (b : Bookkeeping) : Nat :=
  b.rounds.length - 1

/-- The marks of a round. -/
def marks (b : Bookkeeping) (round : Nat) : List Int :=
  b.rounds[round]?.getD []

/-- The marks of the latest round. -/
def skipping (b : Bookkeeping) : List Int :=
  b.marks b.round

/-- The mark of a visitor in a round. -/
def mark (b : Bookkeeping) (round i : Nat) : Int :=
  (b.marks round)[i]?.getD 0

/-- Sets the mark of a visitor in a round. -/
def setMark (b : Bookkeeping) (round i : Nat) (mark : Int) : Bookkeeping :=
  { b with rounds := b.rounds.modify round (·.set i mark) }

end Bookkeeping

/-- A part of a state. -/
structure Part (σ β : Type) where
  get : σ → β
  set : β → σ → σ

namespace Part

variable {σ β : Type} (part : Part σ β)

/-- Reads a part of the state of the visitors. -/
def read : Act σ β :=
  return part.get (← getThe (World σ)).state

/-- Changes a part of the state of the visitors. -/
def change (f : β → β) : Act σ Unit :=
  modifyThe (World σ) fun w => { w with state := part.set (f (part.get w.state)) w.state }

end Part

namespace Lockstep

variable {σ : Type} (books : Part σ Bookkeeping)

/-- The error of a member stays as it is. -/
def rethrow (e : Ref) : Act σ Bool :=
  throw (.raised e)

/-- Calls the method of one visitor when a step is entered, unless it is skipping. -/
def enterMember (round : Nat) (depth : Int) (args : List Value) (i : Nat)
    (hook? : Option (Hook σ)) : Act σ Unit := do
  match hook? with
  | none => return ()
  | some hook =>
    if (← books.read).mark round i = 0 then
      if ← Act.judge (hook args) rethrow then books.change (·.setMark round i depth)

/-- Enters a step: calls the methods, and prunes if all visitors are skipping now. -/
def enter (hooks : List (Option (Hook σ))) : Hook σ := fun args => do
  books.change fun b => { b with depth := b.depth + 1 }
  let b ← books.read
  hooks.zipIdx.forM fun (hook?, i) => enterMember books b.round b.depth args i hook?
  return if ((← books.read).marks b.round).all (· != 0) then .skip else .null

/-- Calls the method of one visitor when a step is left, unless it is skipping. A visitor that
pruned at this step is not skipping any more. -/
def leaveMember (round : Nat) (depth : Int) (args : List Value) (i : Nat)
    (hook? : Option (Hook σ)) : Act σ Unit := do
  if (← books.read).mark round i = depth then books.change (·.setMark round i 0)
  match hook? with
  | none => return ()
  | some hook =>
    if (← books.read).mark round i = 0 then discard (Act.judge (hook args) rethrow)

/-- Leaves a step. -/
def leave (hooks : List (Option (Hook σ))) : Hook σ := fun args => do
  let b ← books.read
  books.change fun b => { b with depth := b.depth - 1 }
  hooks.zipIdx.forM fun (hook?, i) => leaveMember books b.round b.depth args i hook?
  return .null

/-- Whether the bookkeeping starts anew at a look-up: when a document or a schema is entered. -/
def restartsAt (lookup : Lookup) : Bool :=
  lookup.direction = .enter && (lookup.kind = .text "document" || lookup.kind = .text "schema")

end Lockstep

/-- The visitor that runs the given ones in lockstep, with its bookkeeping in a part of the state.
It has a method for every kind. -/
def lockstep {σ : Type} (books : Part σ Bookkeeping) (members : List (Visitor σ)) : Visitor σ where
  hook? lookup := do
    if Lockstep.restartsAt lookup then books.change (·.restart members.length)
    let hooks ← members.mapM (·.hook? { lookup with relayed := true })
    return some (match lookup.direction with
      | .enter => Lockstep.enter books hooks
      | .leave => Lockstep.leave books hooks)

end GraphQLTree
