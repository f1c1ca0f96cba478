import DynamicForms.Yaml.Cursor
import DynamicForms.Yaml.Token

/-!
# YAML scalars

Reading scalars in their five styles.  Plain and quoted scalars fold their lines.  Block scalars
keep lines or fold them, and find the column of their text by themselves unless it is given.
-/

set_option autoImplicit false

namespace DynamicForms.Yaml

/-! ## Plain scalars -/

/-- A character that ends a plain scalar inside brackets. -/
def isFlowIndicator (c : Char) : Bool := [',', '[', ']', '\x7b', '\x7d'].contains c

/-- Reads a word of a plain scalar.  A colon ends it before a gap; inside brackets a colon before
an indicator is an error. -/
def plainWord (inFlow : Bool) : List Char → Option (List Char)
  | [] => some []
  | c :: rest =>
    if isGapOrBreak c then some []
    else if c = ':' ∧ inFlow ∧ rest.head?.any (fun d => isFlowIndicator d || d == '?') then none
    else if c = ':' ∧ rest.head?.all isGapOrBreak then some []
    else if inFlow ∧ isFlowIndicator c then some []
    else (plainWord inFlow rest).map (c :: ·)

/-- Reads a plain scalar whose lines are indented by at least `indent`, and tells whether it ends
behind a break; `fuel` bounds the number of characters. -/
def plainText (inFlow : Bool) (indent : Nat) : (fuel : Nat) → Gap → Cursor →
    Option (List Char × Bool × Cursor)
  | 0, gap, p => some ([], gap.hasBreak, p)
  | fuel + 1, gap, p =>
    if p.atDivider || p.isAt '#' then some ([], gap.hasBreak, p)
    else do
      let word ← plainWord inFlow p.rest
      if word.isEmpty then some ([], gap.hasBreak, p)
      else
        let p := p.skip word.length
        let before := gap.folded ++ word
        if p.peek?.any isGapOrBreak then
          let (gap, p) ← takeGap indent (fuel + 1) (.blanks []) p
          if !inFlow ∧ p.column < indent then some (before, gap.hasBreak, p)
          else
            let (text, broken, p) ← plainText inFlow indent fuel gap p
            some (before ++ text, broken, p)
        else some (before, false, p)

/-! ## Quoted scalars -/

/-- The value of a hexadecimal digit. -/
def hexDigit? (c : Char) : Option Nat :=
  if c.isDigit then some (c.toNat - '0'.toNat)
  else if 'a' ≤ c ∧ c ≤ 'f' then some (c.toNat - 'a'.toNat + 10)
  else if 'A' ≤ c ∧ c ≤ 'F' then some (c.toNat - 'A'.toNat + 10)
  else none

/-- The number that a given count of hexadecimal digits stands for. -/
def hexNumber? (count : Nat) (cs : List Char) : Option Nat :=
  if cs.length < count then none
  else (cs.take count).foldlM (fun n c => (hexDigit? c).map (16 * n + ·)) 0

/-- The character of a number. -/
def charOf? (n : Nat) : Option Char := if n.isValidChar then some (Char.ofNat n) else none

/-- The character that an escape of one letter stands for. -/
def letterEscape? : Char → Option Char
  | '0' => some '\x00'
  | 'a' => some '\x07'
  | 'b' => some '\x08'
  | 't' => some '\t'
  | '\t' => some '\t'
  | 'n' => some '\n'
  | 'v' => some '\x0b'
  | 'f' => some '\x0c'
  | 'r' => some '\r'
  | 'e' => some '\x1b'
  | ' ' => some ' '
  | '"' => some '"'
  | '/' => some '/'
  | '\\' => some '\\'
  | 'N' => some '\u0085'
  | '_' => some '\u00a0'
  | 'L' => some '\u2028'
  | 'P' => some '\u2029'
  | _ => none

/-- How many digits follow the letter of a numeric escape. -/
def escapeDigits? : Char → Option Nat
  | 'x' => some 2
  | 'u' => some 4
  | 'U' => some 8
  | _ => none

/-- Reads an escape, the backslash being behind: the character and how many characters it takes. -/
def escape? : List Char → Option (Char × Nat)
  | [] => none
  | c :: rest =>
    match escapeDigits? c with
    | some count => ((hexNumber? count rest).bind charOf?).map (·, count + 1)
    | none => (letterEscape? c).map (·, 1)

/-- What ends a word of a quoted scalar. -/
inductive WordEnd where
  | quote
  | gap
  /-- A backslash at the end of a line. -/
  | escapedBreak

/-- Reads a word of a quoted scalar; `fuel` bounds the number of characters. -/
def quotedWord (single : Bool) : (fuel : Nat) → Cursor → Option (List Char × WordEnd × Cursor)
  | 0, _ => none
  | fuel + 1, p =>
    match single, p.rest with
    | _, [] => none
    | true, '\'' :: '\'' :: _ => do
      let (word, stop, p) ← quotedWord single fuel (p.skip 2)
      some ('\'' :: word, stop, p)
    | true, '\'' :: _ => some ([], .quote, p)
    | false, '"' :: _ => some ([], .quote, p)
    | false, '\\' :: rest =>
      if rest.head?.any isBreak then some ([], .escapedBreak, (p.skip 1).takeBreak.2)
      else do
        let (c, length) ← escape? rest
        let (word, stop, p) ← quotedWord single fuel (p.skip (length + 1))
        some (c :: word, stop, p)
    | _, c :: _ =>
      if isGapOrBreak c then some ([], .gap, p)
      else do
        let (word, stop, p) ← quotedWord single fuel (p.skip 1)
        some (c :: word, stop, p)

/-- Reads a quoted scalar up to and with its closing quote, the opening one being behind; `fuel`
bounds the number of characters. -/
def quotedText (single : Bool) : (fuel : Nat) → Cursor → Option (List Char × Cursor)
  | 0, _ => none
  | fuel + 1, p =>
    if p.atDivider then none
    else do
      let (word, stop, p) ← quotedWord single (fuel + 1) p
      match stop with
      | .quote => some (word, p.skip 1)
      | .gap | .escapedBreak =>
        let start := match stop with
          | .escapedBreak => Gap.breaks [] []
          | _ => Gap.blanks []
        let (gap, p) ← takeGap 0 (fuel + 1) start p
        let (text, p) ← quotedText single fuel p
        some (word ++ gap.folded ++ text, p)

/-! ## Block scalars -/

/-- What happens to the breaks at the end of a block scalar. -/
inductive Chomping where
  | strip
  | clip
  | keep

/-- The chomping of a sign. -/
def chomping? : Char → Option Chomping
  | '-' => some .strip
  | '+' => some .keep
  | _ => none

/-- The indentation of a digit; zero is none. -/
def indentation? (c : Char) : Option Nat :=
  if c.isDigit ∧ c ≠ '0' then some (c.toNat - '0'.toNat) else none

/-- Reads the chomping and the indentation behind the indicator of a block scalar, in either
order. -/
def blockHeader (p : Cursor) : Option (Chomping × Option Nat × Cursor) :=
  match p.peek?.bind chomping? with
  | some chomping =>
    let p := p.skip 1
    match p.peek? with
    | some c =>
      if c.isDigit then (indentation? c).map fun n => (chomping, some n, p.skip 1)
      else some (chomping, none, p)
    | none => some (chomping, none, p)
  | none =>
    match p.peek? with
    | some c =>
      if c.isDigit then do
        let n ← indentation? c
        let p := p.skip 1
        match p.peek?.bind chomping? with
        | some chomping => some (chomping, some n, p.skip 1)
        | none => some (.clip, some n, p)
      else some (.clip, none, p)
    | none => some (.clip, none, p)

/-- Moves over the rest of a line that may hold a comment only, and over its break. -/
def endLine (p : Cursor) : Option Cursor :=
  let p := p.skipWhile isGap
  let p := if p.isAt '#' then p.skipLine else p
  if p.peek?.all isBreak then some p.takeBreak.2 else none

/-- Reads the blank lines before a line of a block scalar, and its indentation.  While the column
of the text is not known all spaces count as indentation; `widest` is the greatest column that was
met.  `fuel` bounds the number of characters. -/
def blankLines (column : Option Nat) : (fuel widest : Nat) → Cursor →
    Option (List Char × Nat × Cursor)
  | 0, _, _ => none
  | fuel + 1, widest, p =>
    let spaces := (p.rest.takeWhile (· == ' ')).length
    let p := p.skip (match column with
      | none => spaces
      | some n => min spaces (n - p.column))
    let widest := max widest p.column
    if p.isAt '\t' ∧ column.all (p.column < ·) then none
    else if p.peek?.any isBreak then do
      let (cs, next) := p.takeBreak
      let (breaks, widest, p) ← blankLines column fuel widest next
      some (cs ++ breaks, widest, p)
    else some ([], widest, p)

/-- Reads the lines of a block scalar whose text stands at a column.  The breaks before a line come
in two parts, that of the line before it and those of blank lines; where lines are folded the first
one gives way unless one of the lines it divides starts with a blank.  Answers the text and the
breaks at its end; `fuel` bounds the number of characters. -/
def blockLines (literal : Bool) (column : Nat) : (fuel : Nat) → (first more : List Char) →
    (afterBlank : Bool) → Cursor → Option (List Char × List Char × List Char × Cursor)
  | 0, _, _, _, _ => none
  | fuel + 1, first, more, afterBlank, p =>
    if p.column = column ∧ !p.rest.isEmpty then do
      let startsBlank := p.peek?.any isGap
      let before :=
        if !literal ∧ first = ['\n'] ∧ !afterBlank ∧ !startsBlank then
          if more.isEmpty then [' '] else more
        else first ++ more
      let line := p.rest.takeWhile fun c => !isBreak c
      let (first, p) := (p.skip line.length).takeBreak
      let (more, _, p) ← blankLines (some column) (fuel + 1) 0 p
      let (text, first, more, p) ← blockLines literal column fuel first more startsBlank p
      some (before ++ line ++ text, first, more, p)
    else some ([], first, more, p)

/-- Reads a block scalar inside a collection of some indentation, the indicator being behind;
`fuel` bounds the number of characters. -/
def blockText (fuel : Nat) (literal : Bool) (indent : Int) (p : Cursor) :
    Option (List Char × Cursor) := do
  let (chomping, given, p) ← blockHeader p
  let p ← endLine p
  let column := given.map fun n => n + indent.toNat
  let (more, widest, p) ← blankLines column fuel 0 p
  let column := column.getD (max (max widest (indent + 1).toNat) 1)
  let (text, first, more, p) ← blockLines literal column fuel [] more false p
  match chomping with
  | .strip => some (text, p)
  | .clip => some (text ++ first, p)
  | .keep => some (text ++ first ++ more, p)

end DynamicForms.Yaml
