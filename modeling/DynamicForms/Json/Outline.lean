import DynamicForms.Json.NumberText

/-!
# Outlines of JSON text

An outline is what a text shows when it is read from the left: as much of a value as stands there
before the text breaks.  Where it breaks, the outline says how, so that a reader that walks an
outline in the order of the text meets faults in the order of the text.  Nothing is judged that
depends on what the reader wants: numbers keep their digits, and text literals keep two verdicts,
one for those who need the text and one for those who pass over it.
-/

set_option autoImplicit false

namespace DynamicForms.Json

/-- A text literal: its characters, or the first fault in it; and the first fault that also
those notice who pass over it. -/
structure Literal where
  content : Except Break String
  skipped : Option Break

mutual
/-- What a text shows of a value.  A word or number that starts and breaks off is `torn`; where
no value starts at all the text is `broken`. -/
inductive Outline where
  | null
  | boolean (b : Bool)
  | number (t : NumberText)
  | string (s : Literal)
  | array (items : Items)
  | object (entries : Entries)
  | torn (b : Break)
  | broken (b : Break)

/-- What a text shows of the items of an array, up to its end or to where it breaks. -/
inductive Items where
  | closed
  | broken (b : Break)
  | next (item : Outline) (rest : Items)

/-- What a text shows of the entries of an object, up to its end or to where it breaks.  A first
entry that does not start with a text literal is `odd`. -/
inductive Entries where
  | closed
  | broken (b : Break)
  | odd (key : Outline)
  | next (key : Literal) (value : Outline) (rest : Entries)
end

/-- The blanks of JSON. -/
def isSpace (c : Char) : Bool := c == ' ' || c == '\n' || c == '\t' || c == '\r'

/-- A text from its first character on that is no blank. -/
def skipSpaces (text : List Char) : List Char := text.dropWhile isSpace

/-- Reads the rest of a word. -/
def readWord : List Char → List Char → Except Break (List Char)
  | [], rest => .ok rest
  | _ :: _, [] => .error .unfinished
  | w :: word, c :: rest => if w = c then readWord word rest else .error .malformed

/-- Splits the digits off that a text starts with; there has to be one at least. -/
def readDigits (text : List Char) : Except Break (List Char × List Char) :=
  match text with
  | [] => .error .unfinished
  | c :: _ =>
    if c.isDigit then .ok (text.takeWhile Char.isDigit, text.dropWhile Char.isDigit)
    else .error .malformed

/-- Reads the digits before the point; only a single zero starts with one. -/
def readWhole (text : List Char) : Except Break (List Char × List Char) :=
  match readDigits text with
  | .ok ('0' :: _ :: _, _) => .error .malformed
  | result => result

/-- Reads the fraction, if there is one. -/
def readFraction : List Char → Except Break (Option (List Char) × List Char)
  | '.' :: rest => (readDigits rest).map fun (ds, rest) => (some ds, rest)
  | text => .ok (none, text)

/-- Reads the exponent, if there is one. -/
def readExponent : List Char → Except Break (Option (Bool × List Char) × List Char)
  | c :: rest =>
    if c = 'e' ∨ c = 'E' then
      let (minus, digits) := Number.splitSign rest
      (readDigits digits).map fun (ds, rest) => (some (minus, ds), rest)
    else .ok (none, c :: rest)
  | [] => .ok (none, [])

def readNumber (text : List Char) : Except Break (NumberText × List Char) := do
  let (negative, text) := match text with
    | '-' :: rest => (true, rest)
    | text => (false, text)
  let (whole, text) ← readWhole text
  let (fraction, text) ← readFraction text
  let (exponent, text) ← readExponent text
  return (⟨negative, whole, fraction, exponent⟩, text)

/-- The value of a hexadecimal digit. -/
def hexValue? (c : Char) : Option Nat :=
  if c.isDigit then some (c.toNat - '0'.toNat)
  else if 'a' ≤ c ∧ c ≤ 'f' then some (c.toNat - 'a'.toNat + 10)
  else if 'A' ≤ c ∧ c ≤ 'F' then some (c.toNat - 'A'.toNat + 10)
  else none

/-- Reads the four digits of a character number.  Fewer than four characters may still be four
bytes or more, and are then wrong rather than too few. -/
def readHex : List Char → Except Break (Nat × List Char)
  | a :: b :: c :: d :: rest =>
    match hexValue? a, hexValue? b, hexValue? c, hexValue? d with
    | some a, some b, some c, some d => .ok (((a * 16 + b) * 16 + c) * 16 + d, rest)
    | _, _, _, _ => .error .malformed
  | text => .error (if 4 ≤ (String.ofList text).utf8ByteSize then .malformed else .unfinished)

/-- The character of an escape of one letter. -/
def escapedChar? : Char → Option Char
  | '"' => some '"'
  | '\\' => some '\\'
  | '/' => some '/'
  | 'b' => some '\x08'
  | 'f' => some '\x0c'
  | 'n' => some '\n'
  | 'r' => some '\r'
  | 't' => some '\t'
  | _ => none

/-- The first and the second half of a character that is written as two numbers. -/
def isHighHalf (n : Nat) : Bool := 0xD800 ≤ n && n ≤ 0xDBFF

@[inherit_doc isHighHalf]
def isLowHalf (n : Nat) : Bool := 0xDC00 ≤ n && n ≤ 0xDFFF

/-- The character of two halves. -/
def joinHalves (high low : Nat) : Char :=
  .ofNat (0x10000 + (high - 0xD800) * 0x400 + (low - 0xDC00))

/-- Reads the second half of a character after its first. -/
def readLowHalf (high : Nat) : List Char → Except Break (Char × List Char)
  | [] => .error .unfinished
  | '\\' :: [] => .error .unfinished
  | '\\' :: 'u' :: rest =>
    match readHex rest with
    | .error b => .error b
    | .ok (low, rest) =>
      if isLowHalf low then .ok (joinHalves high low, rest) else .error .malformed
  | _ => .error .malformed

/-- Reads what follows a backslash. -/
def readEscape : List Char → Except Break (Char × List Char)
  | [] => .error .unfinished
  | 'u' :: rest =>
    match readHex rest with
    | .error b => .error b
    | .ok (n, rest) =>
      if isLowHalf n then .error .malformed
      else if isHighHalf n then readLowHalf n rest
      else .ok (.ofNat n, rest)
  | c :: rest =>
    match escapedChar? c with
    | some e => .ok (e, rest)
    | none => .error .malformed

/-- Reads the characters of a text literal after its opening quote; `fuel` bounds their number. -/
def readContent : (fuel : Nat) → List Char → Except Break (List Char)
  | 0, _ => .error .unfinished
  | _ + 1, [] => .error .unfinished
  | fuel + 1, c :: rest =>
    if c = '"' then .ok []
    else if c = '\\' then
      match readEscape rest with
      | .error b => .error b
      | .ok (e, rest) => (readContent fuel rest).map (e :: ·)
    else if c.toNat < 0x20 then .error .malformed
    else (readContent fuel rest).map (c :: ·)

/-- Passes over what follows a backslash. -/
def skipEscape : List Char → Except Break (List Char)
  | [] => .error .unfinished
  | 'u' :: rest => (readHex rest).map (·.2)
  | c :: rest => if (escapedChar? c).isSome then .ok rest else .error .malformed

/-- Passes over a text literal after its opening quote; `fuel` bounds its length. -/
def skipContent : (fuel : Nat) → List Char → Except Break (List Char)
  | 0, _ => .error .unfinished
  | _ + 1, [] => .error .unfinished
  | fuel + 1, c :: rest =>
    if c = '"' then .ok rest
    else if c = '\\' then
      match skipEscape rest with
      | .error b => .error b
      | .ok rest => skipContent fuel rest
    else if c.toNat < 0x20 then .error .malformed
    else skipContent fuel rest

/-- Reads a text literal after its opening quote, and the text behind it unless it breaks; `fuel`
bounds its length. -/
def readLiteral (fuel : Nat) (text : List Char) : Literal × Option (List Char) :=
  let content := (readContent fuel text).map String.ofList
  match skipContent fuel text with
  | .ok rest => (⟨content, none⟩, some rest)
  | .error b => (⟨content, some b⟩, none)

mutual
/-- Reads a value, and the text behind it unless the text breaks; `fuel` bounds the reading. -/
def readValue : (fuel : Nat) → List Char → Outline × Option (List Char)
  | 0, _ => (.broken .unfinished, none)
  | fuel + 1, text =>
    match skipSpaces text with
    | [] => (.broken .unfinished, none)
    | '"' :: rest => let (s, rest) := readLiteral fuel rest; (.string s, rest)
    | '[' :: rest => let (items, rest) := readItems fuel true rest; (.array items, rest)
    | '\x7b' :: rest => let (entries, rest) := readEntries fuel true rest; (.object entries, rest)
    | 'n' :: rest => match readWord ['u', 'l', 'l'] rest with
      | .ok rest => (.null, some rest)
      | .error b => (.torn b, none)
    | 't' :: rest => match readWord ['r', 'u', 'e'] rest with
      | .ok rest => (.boolean true, some rest)
      | .error b => (.torn b, none)
    | 'f' :: rest => match readWord ['a', 'l', 's', 'e'] rest with
      | .ok rest => (.boolean false, some rest)
      | .error b => (.torn b, none)
    | c :: rest =>
      if c = '-' ∨ c.isDigit then
        match readNumber (c :: rest) with
        | .ok (t, rest) => (.number t, some rest)
        | .error b => (.torn b, none)
      else (.broken .malformed, none)

/-- Reads items up to the closing bracket; a comma stands before each but the first. -/
def readItems : (fuel : Nat) → (first : Bool) → List Char → Items × Option (List Char)
  | 0, _, _ => (.broken .unfinished, none)
  | fuel + 1, first, text =>
    match skipSpaces text with
    | [] => (.broken .unfinished, none)
    | ']' :: rest => (.closed, some rest)
    | c :: rest =>
      if !first && c != ',' then (.broken .malformed, none)
      else
        match readValue fuel (if first then c :: rest else rest) with
        | (item, none) => (.next item (.broken .malformed), none)
        | (item, some rest) =>
          let (items, rest) := readItems fuel false rest
          (.next item items, rest)

/-- Reads entries up to the closing brace; a comma stands before each but the first. -/
def readEntries : (fuel : Nat) → (first : Bool) → List Char → Entries × Option (List Char)
  | 0, _, _ => (.broken .unfinished, none)
  | fuel + 1, first, text =>
    match skipSpaces text with
    | [] => (.broken .unfinished, none)
    | '\x7d' :: rest => (.closed, some rest)
    | '"' :: rest => if first then readEntry fuel rest else (.broken .malformed, none)
    | ',' :: rest =>
      if first then (.odd (.broken .malformed), none)
      else
        match skipSpaces rest with
        | '"' :: rest => readEntry fuel rest
        | [] => (.next ⟨.error .unfinished, some .unfinished⟩ (.broken .unfinished)
            (.broken .unfinished), none)
        | _ => (.next ⟨.error .malformed, some .malformed⟩ (.broken .malformed)
            (.broken .malformed), none)
    | c :: rest =>
      if first then (.odd (readValue fuel (c :: rest)).1, none) else (.broken .malformed, none)

/-- Reads an entry after the opening quote of its key, and those behind it. -/
def readEntry : (fuel : Nat) → List Char → Entries × Option (List Char)
  | 0, _ => (.broken .unfinished, none)
  | fuel + 1, text =>
    match readLiteral fuel text with
    | (key, none) => (.next key (.broken .malformed) (.broken .malformed), none)
    | (key, some rest) =>
      match skipSpaces rest with
      | [] => (.next key (.broken .unfinished) (.broken .unfinished), none)
      | ':' :: rest =>
        match readValue fuel rest with
        | (value, none) => (.next key value (.broken .malformed), none)
        | (value, some rest) =>
          let (entries, rest) := readEntries fuel false rest
          (.next key value entries, rest)
      | _ => (.next key (.broken .malformed) (.broken .malformed), none)
end

/-- The outline of a text, and what stands behind it unless the text breaks. -/
def Outline.ofText (text : List Char) : Outline × Option (List Char) :=
  readValue (3 * text.length + 3) text

mutual
/-- The first fault that also those notice who pass over the value. -/
def Outline.fault : Outline → Option Break
  | .null | .boolean _ | .number _ => none
  | .string s => s.skipped
  | .array items => items.fault
  | .object entries => entries.fault
  | .torn b | .broken b => some b

@[inherit_doc Outline.fault]
def Items.fault : Items → Option Break
  | .closed => none
  | .broken b => some b
  | .next item rest => item.fault.or rest.fault

@[inherit_doc Outline.fault]
def Entries.fault : Entries → Option Break
  | .closed => none
  | .broken b => some b
  | .odd _ => some .malformed
  | .next key value rest => key.skipped.or (value.fault.or rest.fault)
end

end DynamicForms.Json
