/-! # Slices with signed bounds

A bound counts from the end of a sequence if it is negative. A slice never fails: bounds beyond the
ends are moved to them. -/

namespace GraphQLTree

/-- The position meant by a signed bound in a sequence of the given length. -/
def position (length : Nat) (bound : Int) : Nat :=
  if 0 ≤ bound then min bound.toNat length else length - bound.natAbs

/-- The items before a signed bound. -/
def upTo {α : Type} (bound : Int) (items : List α) : List α :=
  items.take (position items.length bound)

/-- The items from a signed bound on. -/
def startingAt {α : Type} (bound : Int) (items : List α) : List α :=
  items.drop (position items.length bound)

/-! ### Slices with a step -/

/-- A bound of a slice with a step, moved into the range in which the step can reach items: from
zero to the length, and one lower if the step is negative. -/
def clampBound (length : Int) (backward : Bool) (bound : Int) : Int :=
  let bound := if bound < 0 then bound + length else bound
  let low := if backward then -1 else 0
  max low (min bound (length + low))

/-- The positions of a slice, at most `count` of them. -/
def strides (count : Nat) (start stop step : Int) : List Nat :=
  match count with
  | 0 => []
  | count + 1 =>
    if (0 < step && start < stop) || (step < 0 && stop < start) then
      start.toNat :: strides count (start + step) stop step
    else []

/-- The items from `start` to before `stop` at distance `step`; a missing bound is an end. -/
def slice {α : Type} (start? stop? : Option Int) (step : Int) (items : List α) : List α :=
  let length : Int := items.length
  let backward := decide (step < 0)
  let start := (start?.map (clampBound length backward)).getD (if backward then length - 1 else 0)
  let stop := (stop?.map (clampBound length backward)).getD (if backward then -1 else length)
  (strides items.length start stop step).filterMap (items[·]?)

end GraphQLTree
