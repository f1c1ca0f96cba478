import DynamicForms.Unicode.Table

/-!
# Sets of code points

A set of code points is kept as ascending spans with gaps between them.  Tables of the Unicode
standard are written as text, `41-5A 61-7A AA`, each word a code point or a span in hexadecimal;
`CodePoints.ofText` reads such a table and `CodePoints.contains` searches it by halving.
-/

set_option autoImplicit false

namespace DynamicForms.Unicode

/-- A set of code points as ascending spans, both ends included. -/
structure CodePoints where
  spans : Array (Nat × Nat)
deriving Repr

namespace CodePoints

/-- The set without elements. -/
def empty : CodePoints := ⟨#[]⟩

/-- The span of a row: its ends, or a single code point. -/
def spanOf : List Nat → Option (Nat × Nat)
  | [n] => some (n, n)
  | [low, high] => some (low, high)
  | _ => none

/-- The set a table of hexadecimal spans describes. -/
def ofText (text : String) : CodePoints := ⟨(readTable text).filterMap spanOf⟩

/-- Searches the spans from `low` up to but without `high`; each step halves the stretch, and
`steps` bounds their number. -/
def search (spans : Array (Nat × Nat)) (n : Nat) : (steps low high : Nat) → Bool
  | 0, _, _ => false
  | steps + 1, low, high =>
    if low < high then
      let middle := (low + high) / 2
      match spans[middle]? with
      | none => false
      | some (first, last) =>
        if n < first then search spans n steps low middle
        else if last < n then search spans n steps (middle + 1) high
        else true
    else false

/-- Whether a character is in the set. -/
def contains (s : CodePoints) (c : Char) : Bool :=
  search s.spans c.toNat (s.spans.size + 1) 0 s.spans.size

end CodePoints

end DynamicForms.Unicode
