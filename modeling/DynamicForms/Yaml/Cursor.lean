/-!
# Places in YAML text

A cursor is a place in a text: what is left to read, and its number, line and column counted from
the start.  Layout in YAML hangs on columns and lines, so every reader of tokens works on cursors.
-/

set_option autoImplicit false

namespace DynamicForms.Yaml

/-- A space or a tab. -/
def isGap (c : Char) : Bool := c == ' ' || c == '\t'

/-- A character that ends a line. -/
def isBreak (c : Char) : Bool :=
  c == '\n' || c == '\r' || c == '\u0085' || c == '\u2028' || c == '\u2029'

/-- A space, a tab or the end of a line. -/
def isGapOrBreak (c : Char) : Bool := isGap c || isBreak c

/-- A character of names: an ASCII letter or digit, a low line or a dash. -/
def isNameChar (c : Char) : Bool := c.isAlphanum || c == '_' || c == '-'

/-- A character that may stand in YAML text at all. -/
def isPrintable (c : Char) : Bool :=
  let n := c.toNat
  n == 0x09 || n == 0x0A || n == 0x0D || (0x20 ≤ n && n ≤ 0x7E) || n == 0x85 ||
    (0xA0 ≤ n && n ≤ 0xFFFD) || 0x10000 ≤ n

/-- The byte order mark, which may start a line. -/
def byteOrderMark : Char := '\ufeff'

/-- A place in a text. -/
structure Cursor where
  rest : List Char
  /-- The number of characters before the place. -/
  index : Nat
  line : Nat
  column : Nat

namespace Cursor

def start (text : List Char) : Cursor := ⟨text, 0, 0, 0⟩

/-- The next character. -/
def peek? (p : Cursor) : Option Char := p.rest.head?

/-- The character after so many others. -/
def peekAt? (p : Cursor) (n : Nat) : Option Char := p.rest[n]?

/-- Whether a character comes next. -/
def isAt (p : Cursor) (c : Char) : Bool := p.peek? == some c

/-- Whether a gap, a break or the end stands behind so many characters. -/
def gapAt (p : Cursor) (n : Nat) : Bool := (p.peekAt? n).all isGapOrBreak

/-- Moves over characters of the same line. -/
def skip (p : Cursor) (n : Nat) : Cursor :=
  ⟨p.rest.drop n, p.index + n, p.line, p.column + n⟩

/-- Moves over the characters of the same line that pass a test. -/
def skipWhile (p : Cursor) (test : Char → Bool) : Cursor := p.skip (p.rest.takeWhile test).length

/-- Moves over a break if there is one, and answers how it counts in a text: as a line feed,
unless it is a line or paragraph separator. -/
def takeBreak (p : Cursor) : List Char × Cursor :=
  match p.rest with
  | '\r' :: '\n' :: rest => (['\n'], ⟨rest, p.index + 2, p.line + 1, 0⟩)
  | c :: rest =>
    let next : Cursor := ⟨rest, p.index + 1, p.line + 1, 0⟩
    if c = '\u2028' ∨ c = '\u2029' then ([c], next)
    else if isBreak c then (['\n'], next)
    else ([], p)
  | [] => ([], p)

/-- Moves to the end of the line. -/
def skipLine (p : Cursor) : Cursor := p.skipWhile fun c => !isBreak c

/-- Whether the line starts with a mark of three characters that divides documents. -/
def atDivider (p : Cursor) : Bool :=
  p.column == 0 && p.gapAt 3 &&
    (['-', '-', '-'].isPrefixOf p.rest || ['.', '.', '.'].isPrefixOf p.rest)

end Cursor

/-- What stands between the words of a scalar. -/
inductive Gap where
  /-- Spaces and tabs within a line. -/
  | blanks (cs : List Char)
  /-- The first break and those after it; the blanks around breaks do not count. -/
  | breaks (first more : List Char)

namespace Gap

/-- What a gap contributes to a scalar whose lines are folded: a single line feed becomes a space,
and of several all but the first are kept. -/
def folded : Gap → List Char
  | .blanks cs => cs
  | .breaks first more =>
    if first = ['\n'] then if more.isEmpty then [' '] else more else first ++ more

/-- Whether a line ends in the gap. -/
def hasBreak : Gap → Bool
  | .blanks _ => false
  | .breaks .. => true

/-- The gap with one more space or tab. -/
def addBlank (c : Char) : Gap → Gap
  | .blanks cs => .blanks (cs ++ [c])
  | gap => gap

/-- The gap with one more break. -/
def addBreak (cs : List Char) : Gap → Gap
  | .blanks _ => .breaks cs []
  | .breaks first more => .breaks first (more ++ cs)

end Gap

/-- Reads a gap to its end; `fuel` bounds the number of characters.  Below the column `indent` no
tab may follow a break. -/
def takeGap (indent : Nat) : (fuel : Nat) → Gap → Cursor → Option (Gap × Cursor)
  | 0, gap, p => some (gap, p)
  | fuel + 1, gap, p =>
    match p.rest with
    | [] => some (gap, p)
    | c :: _ =>
      if isGap c then
        if c = '\t' ∧ gap.hasBreak ∧ p.column < indent then none
        else takeGap indent fuel (gap.addBlank c) (p.skip 1)
      else if isBreak c then
        let (cs, next) := p.takeBreak
        takeGap indent fuel (gap.addBreak cs) next
      else some (gap, p)

end DynamicForms.Yaml
