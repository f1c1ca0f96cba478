import DynamicForms.Json.Value
import DynamicForms.Number.Shortest

/-!
# Printing JSON

Two layouts of a value.  The compact one has no blanks at all.  The indented one gives every item
and every entry a line of its own, two spaces deeper than the brackets around it, and writes
empty arrays and objects as `[]` and an empty pair of braces.  Texts escape quotes, backslashes
and the characters below the space, and nothing else.
-/

set_option autoImplicit false

namespace DynamicForms.Json

/-- How numbers of the binary format stand in JSON text. -/
def realLayout : Number.Layout := ⟨true⟩

/-- The decimal text of a whole number. -/
def wholeText (n : Int) : List Char :=
  if n < 0 then '-' :: Number.decimalDigits n.natAbs else Number.decimalDigits n.natAbs

def Numeral.text : Numeral → List Char
  | .whole n _ => wholeText n
  | .real x => realLayout.text x

/-- A hexadecimal digit below sixteen, in lower case. -/
def hexDigit (n : Nat) : Char := Nat.digitChar n

/-- A character inside a JSON text literal. -/
def escapeChar (c : Char) : List Char :=
  if c = '"' then ['\\', '"']
  else if c = '\\' then ['\\', '\\']
  else if c = '\n' then ['\\', 'n']
  else if c = '\r' then ['\\', 'r']
  else if c = '\t' then ['\\', 't']
  else if c.toNat = 0x08 then ['\\', 'b']
  else if c.toNat = 0x0C then ['\\', 'f']
  else if c.toNat < 0x20 then
    ['\\', 'u', '0', '0', hexDigit (c.toNat / 16), hexDigit (c.toNat % 16)]
  else [c]

def textLiteral (s : String) : List Char := '"' :: s.toList.flatMap escapeChar ++ ['"']

/-- The words of JSON. -/
def nullWord : List Char := ['n', 'u', 'l', 'l']

@[inherit_doc nullWord]
def trueWord : List Char := ['t', 'r', 'u', 'e']

@[inherit_doc nullWord]
def falseWord : List Char := ['f', 'a', 'l', 's', 'e']

/-- The word for a truth value. -/
def booleanWord (b : Bool) : List Char := if b then trueWord else falseWord

namespace Value

mutual
/-- The layout without blanks. -/
def compact : Value → List Char
  | .null => nullWord
  | .boolean b => booleanWord b
  | .number n => n.text
  | .string s => textLiteral s
  | .array items => '[' :: compactItems items ++ [']']
  | .object entries => '\x7b' :: compactEntries entries ++ ['\x7d']

/-- Items without blanks, commas between them. -/
def compactItems : List Value → List Char
  | [] => []
  | [v] => v.compact
  | v :: rest => v.compact ++ ',' :: compactItems rest

/-- Entries without blanks, commas between them. -/
def compactEntries : List (String × Value) → List Char
  | [] => []
  | [(key, v)] => textLiteral key ++ ':' :: v.compact
  | (key, v) :: rest => textLiteral key ++ ':' :: v.compact ++ ',' :: compactEntries rest
end

/-- A new line that is indented. -/
def newLine (indent : Nat) : List Char := '\n' :: List.replicate indent ' '

mutual
/-- The layout with a line for every item and entry, inside brackets that stand at `indent`. -/
def indented (indent : Nat) : Value → List Char
  | .null => nullWord
  | .boolean b => booleanWord b
  | .number n => n.text
  | .string s => textLiteral s
  | .array [] => ['[', ']']
  | .array items => '[' :: indentedItems (indent + 2) items ++ newLine indent ++ [']']
  | .object [] => ['\x7b', '\x7d']
  | .object entries =>
    '\x7b' :: indentedEntries (indent + 2) entries ++ newLine indent ++ ['\x7d']

/-- Items, each on a line of its own. -/
def indentedItems (indent : Nat) : List Value → List Char
  | [] => []
  | [v] => newLine indent ++ v.indented indent
  | v :: rest => newLine indent ++ v.indented indent ++ ',' :: indentedItems indent rest

/-- Entries, each on a line of its own. -/
def indentedEntries (indent : Nat) : List (String × Value) → List Char
  | [] => []
  | [(key, v)] => newLine indent ++ textLiteral key ++ ':' :: ' ' :: v.indented indent
  | (key, v) :: rest =>
    newLine indent ++ textLiteral key ++ ':' :: ' ' :: v.indented indent ++
      ',' :: indentedEntries indent rest
end

def compactText (v : Value) : String := String.ofList v.compact

def indentedText (v : Value) : String := String.ofList (v.indented 0)

end Value

end DynamicForms.Json
