import DynamicForms.Pattern.Syntax
import DynamicForms.Text.Blank

/-!
# Escapes in patterns

Reading what follows a backslash, and the blanks and comments that a pattern may ignore.  All
readers of patterns answer what they found together with what is left of the text, and nothing
when the text is no pattern.
-/

set_option autoImplicit false

namespace DynamicForms.Pattern

/-- Skips blanks, and comments from a number sign to the end of its line. -/
def skipBlanks : (inComment : Bool) → List Char → List Char
  | _, [] => []
  | true, c :: rest => skipBlanks (c != '\n') rest
  | false, c :: rest =>
    if Text.isBlank c then skipBlanks false rest
    else if c = '#' then skipBlanks true rest
    else c :: rest

/-- Skips blanks and comments where they are ignored. -/
def skip (ignore : Bool) (cs : List Char) : List Char := if ignore then skipBlanks false cs else cs

/-- The value of a hexadecimal digit. -/
def hexValue? (c : Char) : Option Nat :=
  if c.isDigit then some (c.toNat - '0'.toNat)
  else if 'a' ≤ c ∧ c ≤ 'f' then some (c.toNat - 'a'.toNat + 10)
  else if 'A' ≤ c ∧ c ≤ 'F' then some (c.toNat - 'A'.toNat + 10)
  else none

/-- The character of a number. -/
def charOf? (n : Nat) : Option Char := if n.isValidChar then some (Char.ofNat n) else none

/-- Reads a given number of hexadecimal digits. -/
def readHexDigits (ignore : Bool) : (digits value : Nat) → List Char → Option (Nat × List Char)
  | 0, value, cs => some (value, cs)
  | _ + 1, _, [] => none
  | digits + 1, value, c :: rest =>
    (hexValue? c).bind fun d => readHexDigits ignore digits (16 * value + d) (skip ignore rest)

/-- Reads what stands before a closing brace; `fuel` bounds the number of characters. -/
def readBraced (ignore : Bool) : (fuel : Nat) → List Char → Option (List Char × List Char)
  | 0, _ => none
  | fuel + 1, cs =>
    match skip ignore cs with
    | [] => none
    | '\x7d' :: rest => some ([], rest)
    | c :: rest => (readBraced ignore fuel rest).map fun (name, rest) => (c :: name, rest)

/-- The number of at least one hexadecimal digit. -/
def hexNumber? : List Char → Option Nat
  | [] => none
  | cs => cs.foldlM (fun n c => (hexValue? c).map (16 * n + ·)) 0

/-- Reads a character by its number, in braces or of a given number of digits. -/
def readHex (ignore : Bool) (digits : Nat) (rest : List Char) : Option (Literal × List Char) := do
  match skip ignore rest with
  | '\x7b' :: rest =>
    let (name, rest) ← readBraced ignore (rest.length + 1) rest
    let c ← (hexNumber? name).bind charOf?
    some (⟨c, false⟩, skip ignore rest)
  | cs =>
    let (n, rest) ← readHexDigits ignore digits 0 cs
    let c ← charOf? n
    some (⟨c, digits == 2⟩, rest)

/-- Splits a text at the first place where a separator stands. -/
def splitAtFirst (separator : List Char) : List Char → Option (List Char × List Char)
  | [] => none
  | c :: rest =>
    if separator.isPrefixOf (c :: rest) then some ([], (c :: rest).drop separator.length)
    else (splitAtFirst separator rest).map fun (before, after) => (c :: before, after)

/-- The property that a name in braces asks for. -/
def PropertyQuery.ofBraced (name : List Char) : PropertyQuery :=
  let found := (splitAtFirst ['!', '='] name).or
    ((splitAtFirst [':'] name).or (splitAtFirst ['='] name))
  match found with
  | some (before, after) => .valued (String.ofList before) (String.ofList after)
  | none => .named (String.ofList name)

/-- Reads the name of a property, in braces or of one letter. -/
def readProperty (ignore : Bool) (rest : List Char) : Option (PropertyQuery × List Char) := do
  match skip ignore rest with
  | [] => none
  | '\\' :: _ => none
  | '\x7b' :: rest =>
    let (name, rest) ← readBraced ignore (rest.length + 1) rest
    some (.ofBraced name, rest)
  | c :: rest => some (.named (String.singleton c), skip ignore rest)

/-- A character of the name of a word boundary. -/
def isBoundaryChar (c : Char) : Bool := c.isAlpha || c == '-'

/-- The boundary of a name. -/
def boundary? : String → Option Assertion
  | "start" => some .wordStart
  | "end" => some .wordEnd
  | "start-half" => some .wordStartHalf
  | "end-half" => some .wordEndHalf
  | _ => none

/-- Reads a word boundary, which may have a name in braces; braces that start with anything else
belong to a repetition. -/
def readBoundary (ignore : Bool) (rest : List Char) : Option (Assertion × List Char) :=
  match rest with
  | '\x7b' :: inner =>
    match skip ignore inner with
    | [] => none
    | c :: cs =>
      if isBoundaryChar c then do
        let (name, rest) ← readBraced ignore (cs.length + 2) (c :: cs)
        let a ← boundary? (String.ofList name)
        some (a, rest)
      else some (.wordBoundary, rest)
  | _ => some (.wordBoundary, rest)

/-- Whether a character may follow a backslash to stand for itself. -/
def isEscapable (c : Char) : Bool :=
  c.toNat < 0x80 && !c.isAlphanum && c != '<' && c != '>'

/-- A character that stands for itself. -/
def Term.ofChar (c : Char) : Term := .literal ⟨c, false⟩

/-- Reads what follows a backslash. -/
def readEscape (ignore : Bool) : List Char → Option (Term × List Char)
  | [] => none
  | 'x' :: rest => (readHex ignore 2 rest).map fun (l, rest) => (.literal l, rest)
  | 'u' :: rest => (readHex ignore 4 rest).map fun (l, rest) => (.literal l, rest)
  | 'U' :: rest => (readHex ignore 8 rest).map fun (l, rest) => (.literal l, rest)
  | 'p' :: rest => (readProperty ignore rest).map fun (q, rest) => (.property false q, rest)
  | 'P' :: rest => (readProperty ignore rest).map fun (q, rest) => (.property true q, rest)
  | 'd' :: rest => some (.letter false .digit, rest)
  | 'D' :: rest => some (.letter true .digit, rest)
  | 's' :: rest => some (.letter false .space, rest)
  | 'S' :: rest => some (.letter true .space, rest)
  | 'w' :: rest => some (.letter false .word, rest)
  | 'W' :: rest => some (.letter true .word, rest)
  | 'a' :: rest => some (.ofChar '\x07', rest)
  | 'f' :: rest => some (.ofChar '\x0c', rest)
  | 't' :: rest => some (.ofChar '\t', rest)
  | 'n' :: rest => some (.ofChar '\n', rest)
  | 'r' :: rest => some (.ofChar '\r', rest)
  | 'v' :: rest => some (.ofChar '\x0b', rest)
  | 'A' :: rest => some (.assertion .textStart, rest)
  | 'z' :: rest => some (.assertion .textEnd, rest)
  | 'b' :: rest => (readBoundary ignore rest).map fun (a, rest) => (.assertion a, rest)
  | 'B' :: rest => some (.assertion .noWordBoundary, rest)
  | '<' :: rest => some (.assertion .wordStart, rest)
  | '>' :: rest => some (.assertion .wordEnd, rest)
  | c :: rest => if isEscapable c then some (.ofChar c, rest) else none

end DynamicForms.Pattern
