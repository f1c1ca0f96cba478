/-!
# Chains of parents

Positions that each have a parent or none, as an array of optional positions.  Following parents
from a position either ends at a root or runs into a cycle.  `findCycles` lists every cycle once,
in the order of the first position from which it is reached, and each from the member that is
reached first; positions that were met before are not followed again.
-/

set_option autoImplicit false

namespace DynamicForms

/-- The parent of every position. -/
abbrev Parents := Array (Option Nat)

namespace Parents

/-- The parent of a position; one outside the array has none. -/
def parent? (parents : Parents) (i : Nat) : Option Nat := parents[i]?.join

/-- Follows parents from a position until a root, a position that is `done`, or one on the trail
behind; the trail has the latest position first.  In the last case the cycle comes second.
`fuel` bounds the length of the way. -/
def follow (parents : Parents) (done : List Nat) :
    (fuel : Nat) → (trail : List Nat) → Nat → List Nat × Option (List Nat)
  | 0, trail, _ => (trail, none)
  | fuel + 1, trail, i =>
    if done.contains i then (trail, none)
    else if trail.contains i then (trail, some (trail.reverse.dropWhile fun j => j != i))
    else
      match parents.parent? i with
      | none => (i :: trail, none)
      | some p => follow parents done fuel (i :: trail) p

/-- The cycles that are reached from some positions and not from those already done. -/
def cyclesFrom (parents : Parents) : (starts done : List Nat) → List (List Nat)
  | [], _ => []
  | start :: starts, done =>
    let (trail, cycle) := parents.follow done (parents.size + 1) [] start
    cycle.toList ++ parents.cyclesFrom starts (trail ++ done)

/-- All cycles. -/
def findCycles (parents : Parents) : List (List Nat) :=
  parents.cyclesFrom (List.range parents.size) []

/-- How many positions are met above a position before one is met again; `fuel` bounds their
number. -/
def climb (parents : Parents) : (fuel : Nat) → (seen : List Nat) → Nat → Nat
  | 0, _, _ => 0
  | fuel + 1, seen, i =>
    match parents.parent? i with
    | none => 0
    | some p => if seen.contains p then 0 else parents.climb fuel (p :: seen) p + 1

/-- How many different positions are above a position. -/
def height (parents : Parents) (i : Nat) : Nat := parents.climb (parents.size + 1) [i] i

end Parents

end DynamicForms
