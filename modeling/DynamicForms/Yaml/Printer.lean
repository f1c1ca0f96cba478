import DynamicForms.Json.Printer
import DynamicForms.Yaml.Cursor
import DynamicForms.Yaml.Scalar
import DynamicForms.Yaml.Token

/-!
# Printing YAML

The layout of a value by indentation.  Entries and items have lines of their own; the items of a
sequence under a key stand at the column of the key, other collections two columns to the right
of what is around them.  Text is plain where that can be read back, a literal block where it has
several lines, and else in the quotes that allow it.
-/

set_option autoImplicit false

namespace DynamicForms.Yaml

/-! ## Which styles a text allows -/

/-- Whether a character can be written as it is. -/
def isPlainPrintable (c : Char) : Bool :=
  let n := c.toNat
  n == 0x0A || (0x20 ≤ n && n ≤ 0x7E) || (0xA0 ≤ n && n ≤ 0xFFFD && n != 0xFEFF) || 0x10000 ≤ n

/-- A character that a plain text cannot start with. -/
def startsNoPlain (c : Char) : Bool :=
  ['#', ',', '[', ']', '\x7b', '\x7d', '&', '*', '!', '|', '>', '\'', '"', '%', '@',
    '\u0060'].contains c

/-- Whether a text goes on with a gap, a break or not at all. -/
def endsWord : List Char → Bool
  | [] => true
  | c :: _ => isGapOrBreak c

/-- Whether a text would be cut short as a plain one: a colon at the end of a word, or a number
sign at the start of one. -/
def isCut (before : Char) : List Char → Bool
  | [] => false
  | c :: rest =>
    (c == ':' && endsWord rest) || (c == '#' && isGapOrBreak before) || isCut c rest

/-- Whether a text would be taken for something else than a plain scalar. -/
def hasIndicator : List Char → Bool
  | [] => false
  | text@(c :: rest) =>
    ['-', '-', '-'].isPrefixOf text || ['.', '.', '.'].isPrefixOf text || startsNoPlain c ||
      (['?', ':', '-'].contains c && endsWord rest) || isCut c rest

/-- Whether a character that passes the first test comes right before one that passes the
second. -/
def hasPair (first second : Char → Bool) : List Char → Bool
  | a :: b :: rest => (first a && second b) || hasPair first second (b :: rest)
  | _ => false

/-- Whether a character is a space. -/
def isSpace (c : Char) : Bool := c == ' '

/-- Whether a text has a character that has to be escaped, or a space at the end of a line that
is not the last one. -/
def needsEscapes (text : List Char) : Bool :=
  !text.all isPlainPrintable || hasPair isSpace isBreak text

/-- Whether a text can be written plain. -/
def allowsPlain (text : List Char) : Bool :=
  !needsEscapes text && !text.any isBreak && !hasIndicator text &&
    !text.head?.any isSpace && !text.getLast?.any isSpace

/-- Whether a text can be written in single quotes. -/
def allowsSingle (text : List Char) : Bool := !needsEscapes text && !hasPair isBreak isSpace text

/-- Whether a text can be written as a literal block. -/
def allowsLiteral (text : List Char) : Bool :=
  !needsEscapes text && !text.isEmpty && !text.getLast?.any isSpace

/-- The style of a text. -/
def styleOf (text : List Char) : ScalarStyle :=
  if text.contains '\n' then if allowsLiteral text then .literal else .doubleQuoted
  else if resolve text = .text ∧ !isPadded text ∧ allowsPlain text then .plain
  else if allowsSingle text then .singleQuoted
  else .doubleQuoted

/-! ## Scalars -/

/-- Spaces up to a column. -/
def spaces (column : Nat) : List Char := List.replicate column ' '

/-- A text whose lines are indented, but for empty ones and for the first one, unless `broken` says
that the text goes on behind a break. -/
def indentLines (column : Nat) : (broken : Bool) → List Char → List Char
  | _, [] => []
  | broken, c :: rest =>
    if isBreak c then c :: indentLines column true rest
    else if broken then spaces column ++ c :: indentLines column false rest
    else c :: indentLines column false rest

/-- Characters inside single quotes: a quote stands twice. -/
def singleQuotedChar (c : Char) : List Char := if c = '\'' then ['\'', '\''] else [c]

/-- The digits of a number in base sixteen, so many of them. -/
def hexDigits (count n : Nat) : List Char :=
  (List.range count).reverse.map fun i => ((n / Nat.pow 16 i % 16).digitChar).toUpper

/-- The name of a character that has a short escape. -/
def shortEscape? (c : Char) : Option Char :=
  ([(0x00, '0'), (0x07, 'a'), (0x08, 'b'), (0x09, 't'), (0x0A, 'n'), (0x0B, 'v'), (0x0C, 'f'),
    (0x0D, 'r'), (0x1B, 'e'), (0x22, '"'), (0x5C, '\\'), (0x85, 'N'), (0x2028, 'L'),
    (0x2029, 'P')].find? fun entry => entry.1 == c.toNat).map (·.2)

/-- A character inside double quotes. -/
def doubleQuotedChar (c : Char) : List Char :=
  match shortEscape? c with
  | some name => ['\\', name]
  | none =>
    if isPlainPrintable c then [c]
    else if c.toNat ≤ 0xFF then '\\' :: 'x' :: hexDigits 2 c.toNat
    else if c.toNat ≤ 0xFFFF then '\\' :: 'u' :: hexDigits 4 c.toNat
    else '\\' :: 'U' :: hexDigits 8 c.toNat

/-- A text in single quotes. -/
def singleQuoted (column : Nat) (text : List Char) : List Char :=
  '\'' :: (indentLines column false text).flatMap singleQuotedChar ++
    (if text.getLast?.any isBreak then spaces column else []) ++ ['\'']

/-- A text in double quotes. -/
def doubleQuoted (text : List Char) : List Char := '"' :: text.flatMap doubleQuotedChar ++ ['"']

/-- The mark for the indentation of a literal block, needed where its first line starts with a
space or is empty. -/
def indentHint (text : List Char) : List Char :=
  if text.head?.any fun c => isSpace c || isBreak c then ['2'] else []

/-- The mark for what becomes of the breaks at the end of a literal block: one is the rule. -/
def chompHint (text : List Char) : List Char :=
  match text.reverse with
  | [] => ['-']
  | c :: rest =>
    if !isBreak c then ['-'] else if rest.head?.all isBreak then ['+'] else []

/-- A text as a literal block, to the end of its last line. -/
def literalBlock (column : Nat) (text : List Char) : List Char :=
  '|' :: indentHint text ++ chompHint text ++ '\n' :: indentLines column true text ++
    if text.getLast?.any isBreak then [] else ['\n']

/-- A text to the end of its line; lines behind the first one start at a column. -/
def textLine (column : Nat) (text : List Char) : List Char :=
  match styleOf text with
  | .singleQuoted => singleQuoted column text ++ ['\n']
  | .doubleQuoted => doubleQuoted text ++ ['\n']
  | .literal => literalBlock column text
  | _ => text ++ ['\n']

/-- How numbers of the binary format stand in YAML text. -/
def realLayout : Number.Layout := ⟨false⟩

def numeralText : Json.Numeral → List Char
  | .whole n _ => Json.wholeText n
  | .real x => realLayout.text x

/-- Whether a key can stand before its colon on one line: it has no breaks and no more than 128
bytes. -/
def isSimpleKey (key : List Char) : Bool :=
  !key.any isBreak && (String.ofList key).utf8ByteSize ≤ 128

/-- A key on one line. -/
def keyText (key : List Char) : List Char := (textLine 0 key).dropLast

/-! ## Collections -/

mutual
/-- The lines of a sequence at a column; the first line starts there. -/
def itemLines (column : Nat) : List Json.Value → List Char
  | [] => []
  | v :: rest =>
    '-' :: ' ' :: inlineLines column v ++
      if rest.isEmpty then [] else spaces column ++ itemLines column rest

/-- The lines of a mapping at a column; the first line starts there. -/
def entryLines (column : Nat) : List (String × Json.Value) → List Char
  | [] => []
  | (key, v) :: rest =>
    (if isSimpleKey key.toList then keyText key.toList ++ ':' :: valueLines column v
     else
       '?' :: ' ' :: textLine (column + 2) key.toList ++ spaces column ++
         ':' :: ' ' :: inlineLines column v) ++
      if rest.isEmpty then [] else spaces column ++ entryLines column rest

/-- A value that starts on the line of a mark and the space behind it, in a collection at a
column. -/
def inlineLines (column : Nat) : Json.Value → List Char
  | .null => Json.nullWord ++ ['\n']
  | .boolean b => Json.booleanWord b ++ ['\n']
  | .number n => numeralText n ++ ['\n']
  | .string s => textLine (column + 2) s.toList
  | .array [] => ['[', ']', '\n']
  | .array (v :: rest) => itemLines (column + 2) (v :: rest)
  | .object [] => ['\x7b', '\x7d', '\n']
  | .object (entry :: rest) => entryLines (column + 2) (entry :: rest)

/-- A value behind the colon of its key, in a mapping at a column: collections go to the next
line, a sequence to the column of the key. -/
def valueLines (column : Nat) : Json.Value → List Char
  | .null => ' ' :: Json.nullWord ++ ['\n']
  | .boolean b => ' ' :: Json.booleanWord b ++ ['\n']
  | .number n => ' ' :: numeralText n ++ ['\n']
  | .string s => ' ' :: textLine (column + 2) s.toList
  | .array [] => [' ', '[', ']', '\n']
  | .array (v :: rest) => '\n' :: spaces column ++ itemLines column (v :: rest)
  | .object [] => [' ', '\x7b', '\x7d', '\n']
  | .object (entry :: rest) =>
    '\n' :: spaces (column + 2) ++ entryLines (column + 2) (entry :: rest)
end

/-- The lines of a value. -/
def lines : Json.Value → List Char
  | .array (v :: rest) => itemLines 0 (v :: rest)
  | .object (entry :: rest) => entryLines 0 (entry :: rest)
  | v => inlineLines 0 v

/-- The YAML text of a value. -/
def render (v : Json.Value) : String := String.ofList (lines v)

end DynamicForms.Yaml
