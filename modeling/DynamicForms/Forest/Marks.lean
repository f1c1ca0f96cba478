import DynamicForms.Forest.Cycles

/-!
# Searching for cycles with marks

The search of `Parents.findCycles` as it is made in place: an array has a mark for every position,
the path of the latest walk is kept in the order of the walk, and the cycle that a walk has gone
round is cut off the path where the position stands that was met again.  Nothing comes out when a
position has no mark, when a cycle cannot be cut off, or when a walk does not end within its bound.
-/

set_option autoImplicit false

namespace DynamicForms

/-- What a search knows of a position. -/
inductive Mark where
  | unvisited
  /-- The position is on the path of the latest walk. -/
  | onPath
  | done
deriving DecidableEq, Repr

/-- How far a search for cycles has come. -/
structure CycleSearch where
  marks : Array Mark
  /-- The positions that the latest walk has passed, in the order of the walk. -/
  path : List Nat
  cycles : List (List Nat)
deriving DecidableEq, Repr

namespace CycleSearch

/-- The search among so many positions before its first walk. -/
def start (size : Nat) : CycleSearch := ⟨Array.replicate size .unvisited, [], []⟩

/-- The walk passes a position. -/
def enter (s : CycleSearch) (i : Nat) : CycleSearch :=
  { s with marks := s.marks.setIfInBounds i .onPath, path := s.path ++ [i] }

/-- The walk meets a position again: the path from there on is a cycle.  When the position is not
found on the path, the cycle starts at `fallback`, if that is given. -/
def close (s : CycleSearch) (fallback : Option Nat) (i : Nat) : Option CycleSearch :=
  match (s.path.idxOf? i).or fallback with
  | none => none
  | some first =>
    if first ≤ s.path.length then some { s with cycles := s.cycles ++ [s.path.drop first] }
    else none

/-- The walk is over. -/
def finish (s : CycleSearch) : CycleSearch :=
  { s with marks := s.path.foldl (fun marks i => marks.setIfInBounds i .done) s.marks }

end CycleSearch

namespace Parents

/-- Walks up, position after position, until there is no parent, or one that is done or was met on
the way; `fuel` bounds the number of steps. -/
def walk (parents : Parents) (fallback : Option Nat) :
    (fuel : Nat) → CycleSearch → Option Nat → Option CycleSearch
  | 0, _, _ => none
  | _ + 1, s, none => some s
  | fuel + 1, s, some i =>
    match s.marks[i]? with
    | none => none
    | some .done => some s
    | some .onPath => s.close fallback i
    | some .unvisited => parents.walk fallback fuel (s.enter i) (parents.parent? i)

/-- Walks from some positions, one after the other, each with a path of its own. -/
def searchFrom (parents : Parents) (fallback : Option Nat) :
    (starts : List Nat) → CycleSearch → Option CycleSearch
  | [], s => some s
  | start :: starts, s =>
    match parents.walk fallback (parents.size + 1) { s with path := [] } (some start) with
    | none => none
    | some s => parents.searchFrom fallback starts s.finish

/-- All cycles, found with marks. -/
def searchCycles (parents : Parents) (fallback : Option Nat) : Option (List (List Nat)) :=
  (parents.searchFrom fallback (List.range parents.size) (.start parents.size)).map (·.cycles)

end Parents

end DynamicForms
