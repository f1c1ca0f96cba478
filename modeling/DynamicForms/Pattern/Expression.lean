/-!
# Regular expressions

What a pattern means once its flags are resolved: tests of characters and of places, put together.
`Expression.size` estimates the memory of a compiled form, in which repetitions are spelt out.

Whether an expression occurs in a text is decided in one pass.  `Marked` carries a mark at every
character test; a mark says that the part of the text that was read so far may end with this test.
`Marked.step` moves the marks over one character.
-/

set_option autoImplicit false

namespace DynamicForms.Pattern

/-- The characters on both sides of a place in a text, as far as there are any. -/
structure Place where
  before : Option Char
  after : Option Char

/-- A regular expression. -/
inductive Expression where
  | empty
  /-- A place that passes a test. -/
  | place (test : Place → Bool)
  /-- A character that passes a test; `size` is what the test takes when it is compiled. -/
  | char (size : Nat) (test : Char → Bool)
  | sequence (first second : Expression)
  | choice (first second : Expression)
  | repetition (e : Expression) (low : Nat) (high : Option Nat)

namespace Expression

/-- The size of a state without transitions. -/
def stateSize : Nat := 32

/-- The estimated size of the compiled form. -/
def size : Expression → Nat
  | .empty | .place _ => stateSize
  | .char n _ => n
  | .sequence a b => a.size + b.size
  | .choice a b => a.size + b.size + 3 * stateSize
  | .repetition e low none => max low 1 * e.size + 2 * stateSize
  | .repetition e low (some high) =>
    low * e.size + (high - low) * (e.size + stateSize + 8) + stateSize

end Expression

/-- A regular expression in which repetitions are spelt out and character tests carry marks. -/
inductive Marked where
  | empty
  | place (test : Place → Bool)
  | char (mark : Bool) (test : Char → Bool)
  | sequence (first second : Marked)
  | choice (first second : Marked)
  /-- Once or more often. -/
  | loop (e : Marked)

namespace Marked

/-- So many copies in a row, and then something else. -/
def copies (e : Marked) : Nat → Marked → Marked
  | 0, next => next
  | n + 1, next => .sequence e (copies e n next)

/-- At most so many copies in a row. -/
def atMost (e : Marked) : Nat → Marked
  | 0 => .empty
  | n + 1 => .choice .empty (.sequence e (atMost e n))

/-- An expression without marks, for texts with fewer characters than `limit`.  More copies in a
row than that make no difference: one of them would have to be empty, and so could be any number
of others beside it. -/
def ofExpression (limit : Nat) : Expression → Marked
  | .empty => .empty
  | .place test => .place test
  | .char _ test => .char false test
  | .sequence a b => .sequence (ofExpression limit a) (ofExpression limit b)
  | .choice a b => .choice (ofExpression limit a) (ofExpression limit b)
  | .repetition e low high =>
    let e := ofExpression limit e
    match low, high with
    | 0, none => .choice .empty (.loop e)
    | least + 1, none => copies e (min least limit) (.loop e)
    | least, some most => copies e (min least limit) (atMost e (min (most - least) limit))

/-- Whether nothing at all matches at a place. -/
def isSkippable (p : Place) : Marked → Bool
  | .empty => true
  | .place test => test p
  | .char .. => false
  | .sequence a b => a.isSkippable p && b.isSkippable p
  | .choice a b => a.isSkippable p || b.isSkippable p
  | .loop e => e.isSkippable p

/-- Whether the text that was read up to a place may end there. -/
def isFinished (p : Place) : Marked → Bool
  | .empty | .place _ => false
  | .char mark _ => mark
  | .sequence a b => (a.isFinished p && b.isSkippable p) || b.isFinished p
  | .choice a b => a.isFinished p || b.isFinished p
  | .loop e => e.isFinished p

/-- Moves the marks over a character; `entered` tells whether the expression may start at the
place before it. -/
def step (p : Place) (c : Char) (entered : Bool) : Marked → Marked
  | .empty => .empty
  | .place test => .place test
  | .char _ test => .char (entered && test c) test
  | .sequence a b =>
    .sequence (a.step p c entered)
      (b.step p c ((entered && a.isSkippable p) || a.isFinished p))
  | .choice a b => .choice (a.step p c entered) (b.step p c entered)
  | .loop e => .loop (e.step p c (entered || e.isFinished p))

/-- Whether the expression occurs in the rest of a text, or ended before it. -/
def occursFrom (e : Marked) (before : Option Char) : List Char → Bool
  | [] =>
    let p : Place := ⟨before, none⟩
    e.isSkippable p || e.isFinished p
  | c :: rest =>
    let p : Place := ⟨before, some c⟩
    e.isSkippable p || e.isFinished p || (e.step p c true).occursFrom (some c) rest

end Marked

/-- Whether an expression occurs somewhere in a text. -/
def Expression.occursIn (e : Expression) (text : List Char) : Bool :=
  (Marked.ofExpression (text.length + 1) e).occursFrom none text

end DynamicForms.Pattern
