import DynamicForms.Yaml.Token.Scalar

/-!
# Anchors, tags and directives

Reading what may stand before a node or a document.  A tag is a handle, which stands for the start
of a name, and the rest of the name; percent signs in it escape bytes.
-/

set_option autoImplicit false

namespace DynamicForms.Yaml

/-- Reads the name of an anchor or an alias, the sign being behind. -/
def anchorName (p : Cursor) : Option (List Char × Cursor) :=
  let name := p.rest.takeWhile isNameChar
  let next := p.skip name.length
  if !name.isEmpty ∧ (next.gapAt 0 ∨
      next.peek?.any (['?', ':', ',', ']', '\x7d', '%', '@', '\u0060'].contains ·)) then
    some (name, next)
  else none

/-! ## Tags -/

/-- A character of the name of a tag.  In angle brackets commas and brackets are allowed as
well. -/
def isTagChar (verbatim : Bool) (c : Char) : Bool :=
  isNameChar c ||
    [';', '/', '?', ':', '@', '&', '=', '+', '$', '.', '%', '!', '~', '*', '\'', '(',
      ')'].contains c ||
    (verbatim && [',', '[', ']'].contains c)

/-- The byte of an escape. -/
def escapedByte? : List Char → Option Nat
  | '%' :: rest => hexNumber? 2 rest
  | _ => none

/-- The length and the leading bits of a character that starts with a byte. -/
def leadingByte? (byte : Nat) : Option (Nat × Nat) :=
  if byte < 0x80 then some (1, byte)
  else if 0xC0 ≤ byte ∧ byte < 0xE0 then some (2, byte - 0xC0)
  else if 0xE0 ≤ byte ∧ byte < 0xF0 then some (3, byte - 0xE0)
  else if 0xF0 ≤ byte ∧ byte < 0xF8 then some (4, byte - 0xF0)
  else none

/-- Adds the bits of so many escaped bytes that go on a character. -/
def trailingBytes : (count bits : Nat) → List Char → Option Nat
  | 0, bits, _ => some bits
  | count + 1, bits, cs => do
    let byte ← escapedByte? cs
    if 0x80 ≤ byte ∧ byte < 0xC0 then trailingBytes count (64 * bits + (byte - 0x80)) (cs.drop 3)
    else none

/-- Reads a character that is escaped byte by byte, and how many characters it takes. -/
def escapedChar? (cs : List Char) : Option (Char × Nat) := do
  let byte ← escapedByte? cs
  let (length, bits) ← leadingByte? byte
  let n ← trailingBytes (length - 1) bits (cs.drop 3)
  let c ← charOf? n
  some (c, 3 * length)

/-- Reads the characters of a tag; `fuel` bounds their number. -/
def tagChars (verbatim : Bool) : (fuel : Nat) → Cursor → Option (List Char × Cursor)
  | 0, p => some ([], p)
  | fuel + 1, p =>
    match p.rest with
    | [] => some ([], p)
    | c :: _ =>
      if !isTagChar verbatim c then some ([], p)
      else do
        let (c, length) ← if c = '%' then escapedChar? p.rest else some (c, 1)
        let (cs, p) ← tagChars verbatim fuel (p.skip length)
        some (c :: cs, p)

/-- Reads the part of a tag behind a handle, which cannot be empty. -/
def tagSuffix (fuel : Nat) (verbatim : Bool) (p : Cursor) : Option (List Char × Cursor) := do
  let (cs, p) ← tagChars verbatim fuel p
  if cs.isEmpty then none else some (cs, p)

/-- Reads a tag in angle brackets, the opening one being behind. -/
def verbatimTag (fuel : Nat) (p : Cursor) : Option (Token × Cursor) := do
  let (name, p) ← tagSuffix fuel true p
  if p.isAt '>' then some (.tag [] name, p.skip 1) else none

/-- Reads a tag by its handle and the rest of its name; the cursor stands at the exclamation
mark.  A mark on its own is the tag without a handle. -/
def shortTag (fuel : Nat) (p : Cursor) : Option (Token × Cursor) := do
  let name := (p.skip 1).rest.takeWhile isNameChar
  let next := p.skip (name.length + 1)
  if next.isAt '!' then
    let (suffix, next) ← tagSuffix fuel false (next.skip 1)
    some (.tag ('!' :: name ++ ['!']) suffix, next)
  else
    let (cs, next) ← tagChars false fuel next
    let suffix := name ++ cs
    some (if suffix.isEmpty then .tag [] ['!'] else .tag ['!'] suffix, next)

/-- Reads a tag; the cursor stands at the exclamation mark.  Inside brackets a comma may follow. -/
def readTag (fuel : Nat) (inFlow : Bool) (p : Cursor) : Option (Token × Cursor) := do
  let (t, p) ← if p.peekAt? 1 = some '<' then verbatimTag fuel (p.skip 2) else shortTag fuel p
  if p.gapAt 0 ∨ (inFlow ∧ p.isAt ',') then some (t, p) else none

/-! ## Directives -/

/-- Reads a number of at most nine digits. -/
def versionNumber (p : Cursor) : Option (Nat × Cursor) :=
  let ds := p.rest.takeWhile Char.isDigit
  if ds.isEmpty ∨ 9 < ds.length then none
  else some (ds.foldl (fun n c => 10 * n + (c.toNat - '0'.toNat)) 0, p.skip ds.length)

/-- Reads the version of a document. -/
def readVersion (p : Cursor) : Option (Token × Cursor) := do
  let (major, p) ← versionNumber (p.skipWhile isGap)
  if p.isAt '.' then
    let (minor, p) ← versionNumber (p.skip 1)
    some (.version major minor, p)
  else none

/-- Reads a handle of tags and what it stands for. -/
def readTagHandle (fuel : Nat) (p : Cursor) : Option (Token × Cursor) := do
  let p := p.skipWhile isGap
  if !p.isAt '!' then none
  else
    let name := (p.skip 1).rest.takeWhile isNameChar
    let next := p.skip (name.length + 1)
    let (handle, next) ←
      if next.isAt '!' then some ('!' :: name ++ ['!'], next.skip 1)
      else if name.isEmpty then some (['!'], next)
      else none
    if next.peek?.any isGap then
      let (start, next) ← tagSuffix fuel true (next.skipWhile isGap)
      if next.gapAt 0 then some (.tagHandle handle start, next) else none
    else none

/-- Reads a directive, the percent sign being behind. -/
def readDirective (fuel : Nat) (p : Cursor) : Option (Token × Cursor) := do
  let name := p.rest.takeWhile isNameChar
  let p := p.skip name.length
  if !p.gapAt 0 then none
  else
    let (t, p) ← match String.ofList name with
      | "YAML" => readVersion p
      | "TAG" => readTagHandle fuel p
      | _ => none
    let p ← endLine p
    some (t, p)

end DynamicForms.Yaml
