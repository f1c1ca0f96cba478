import DynamicForms.Yaml.Token.Property

/-!
# From text to tokens

Outside brackets the layout of YAML text is laid down by columns.  The lexer keeps the column of
every open collection, and closes those that a token stands to the left of.  A token that turns
out to be the key of a mapping only by the colon behind it is remembered as a possible key: the
marks for the key, and for the mapping if it starts there, are put in before it later on.
-/

set_option autoImplicit false

namespace DynamicForms.Yaml

/-- A token that a colon may turn into a key. -/
structure PossibleKey where
  /-- Whether nothing but a key can stand there. -/
  required : Bool
  /-- The number of tokens before it. -/
  number : Nat
  index : Nat
  line : Nat
  column : Nat

/-- The state between two tokens. -/
structure Lexer where
  place : Cursor
  /-- The tokens so far, the latest first. -/
  tokens : List Token
  /-- The number of the tokens so far. -/
  count : Nat
  /-- The column of the innermost collection outside brackets, or minus one. -/
  indent : Int
  /-- The columns of the collections around it, the innermost first. -/
  indents : List Int
  /-- The possible key inside the innermost brackets. -/
  key : Option PossibleKey
  /-- The possible keys around each pair of brackets, the innermost first. -/
  outerKeys : List (Option PossibleKey)
  /-- Whether a key may start here. -/
  keyAllowed : Bool

namespace Lexer

/-- The state at the start of a text. -/
def start (text : List Char) : Lexer := ⟨.start text, [], 0, -1, [], none, [], true⟩

/-- Whether the place is inside brackets. -/
def inFlow (l : Lexer) : Bool := !l.outerKeys.isEmpty

def add (l : Lexer) (t : Token) : Lexer :=
  { l with tokens := t :: l.tokens, count := l.count + 1 }

/-- Puts a token behind so many others. -/
def insertAt (l : Lexer) (number : Nat) (t : Token) : Lexer :=
  let later := l.count - number
  { l with tokens := l.tokens.take later ++ t :: l.tokens.drop later, count := l.count + 1 }

/-- Moves over characters of the line. -/
def advance (l : Lexer) (n : Nat) : Lexer := { l with place := l.place.skip n }

/-! ## Gaps -/

/-- Moves over gaps, comments and breaks to the next token; `fuel` bounds the number of lines.
Tabs do not count as gaps where a key may start outside brackets; a break makes it possible for a
key to start. -/
def skipGaps : (fuel : Nat) → Lexer → Lexer
  | 0, l => l
  | fuel + 1, l =>
    let p := if l.place.column = 0 ∧ l.place.isAt byteOrderMark then l.place.skip 1 else l.place
    let p := p.skipWhile fun c => c == ' ' || (c == '\t' && (l.inFlow || !l.keyAllowed))
    let p := if p.isAt '#' then p.skipLine else p
    if p.peek?.any isBreak then
      skipGaps fuel { l with place := p.takeBreak.2, keyAllowed := l.keyAllowed || !l.inFlow }
    else { l with place := p }

/-! ## Collections by indentation -/

/-- Closes the collections to the right of a column; `fuel` bounds their number. -/
def closeBeyond (column : Int) : (fuel : Nat) → Lexer → Lexer
  | 0, l => l
  | fuel + 1, l =>
    if l.inFlow ∨ l.indent ≤ column then l
    else
      closeBeyond column fuel
        { l.add .blockEnd with indent := l.indents.head?.getD (-1), indents := l.indents.tail }

/-- Closes the collections to the right of a column. -/
def close (l : Lexer) (column : Int) : Lexer := l.closeBeyond column (l.indents.length + 1)

/-- Opens a collection at a column, unless one is open there; its mark goes behind so many
tokens. -/
def openAt (l : Lexer) (column : Int) (number : Nat) (t : Token) : Lexer :=
  if l.inFlow ∨ column ≤ l.indent then l
  else { l.insertAt number t with indent := column, indents := l.indent :: l.indents }

/-- Opens a collection at the present place. -/
def openHere (l : Lexer) (t : Token) : Lexer := l.openAt l.place.column l.count t

/-! ## Possible keys -/

/-- Gives up a possible key; it must not be required. -/
def dropKey (l : Lexer) : Option Lexer :=
  if l.key.any PossibleKey.required then none else some { l with key := none }

/-- Notes that the next token may be a key. -/
def noteKey (l : Lexer) : Option Lexer :=
  if l.keyAllowed then do
    let l ← l.dropKey
    some { l with
      key := some
        { required := !l.inFlow && l.indent == l.place.column
          number := l.count
          index := l.place.index
          line := l.place.line
          column := l.place.column } }
  else some l

/-- Gives up a possible key that the place has left: a key stands on one line and is no longer
than 1024 characters. -/
def staleKey (p : Cursor) : Option PossibleKey → Option (Option PossibleKey)
  | none => some none
  | some k =>
    if k.line < p.line ∨ k.index + 1024 < p.index then if k.required then none else some none
    else some (some k)

/-- Gives up all possible keys that the place has left. -/
def dropStaleKeys (l : Lexer) : Option Lexer := do
  let key ← staleKey l.place l.key
  let outerKeys ← l.outerKeys.mapM (staleKey l.place)
  some { l with key := key, outerKeys := outerKeys }

/-! ## Tokens -/

/-- A token that may be a key. -/
def addNode (l : Lexer) (t : Token) (next : Cursor) : Option Lexer := do
  let l ← l.noteKey
  some { l.add t with place := next, keyAllowed := false }

/-- An opening bracket. -/
def openBracket (l : Lexer) (t : Token) : Option Lexer := do
  let l ← l.noteKey
  some { (l.add t).advance 1 with key := none, outerKeys := l.key :: l.outerKeys,
                                  keyAllowed := true }

/-- A closing bracket. -/
def closeBracket (l : Lexer) (t : Token) : Option Lexer := do
  let l ← l.dropKey
  let (key, outerKeys) := match l.outerKeys with
    | [] => (l.key, [])
    | key :: outerKeys => (key, outerKeys)
  some { (l.add t).advance 1 with key := key, outerKeys := outerKeys, keyAllowed := false }

def addComma (l : Lexer) : Option Lexer := do
  let l ← l.dropKey
  some { (l.add .comma).advance 1 with keyAllowed := true }

/-- The dash before an item. -/
def addItem (l : Lexer) : Option Lexer :=
  if !l.inFlow ∧ !l.keyAllowed then none
  else do
    let l ← (l.openHere .sequenceStart).dropKey
    some { (l.add .item).advance 1 with keyAllowed := true }

/-- The question mark before a key. -/
def addKey (l : Lexer) : Option Lexer :=
  if !l.inFlow ∧ !l.keyAllowed then none
  else do
    let l ← (l.openHere .mappingStart).dropKey
    some { (l.add .key).advance 1 with keyAllowed := !l.inFlow }

/-- The colon before a value, which may make a key of what stands before it. -/
def addValue (l : Lexer) : Option Lexer :=
  match l.key with
  | some k =>
    let l := (l.insertAt k.number .key).openAt k.column k.number .mappingStart
    some { (l.add .value).advance 1 with key := none, keyAllowed := false }
  | none =>
    if !l.inFlow ∧ !l.keyAllowed then none
    else
      let l := l.openHere .mappingStart
      some { (l.add .value).advance 1 with keyAllowed := !l.inFlow }

/-- A mark that divides documents, or a directive: all collections end before it. -/
def addDivider (l : Lexer) (t : Token) (next : Cursor) : Option Lexer := do
  let l ← (l.close (-1)).dropKey
  some { l.add t with place := next, keyAllowed := false }

/-! Fuel bounds the number of characters of scalars, anchors and tags. -/

def addBlockScalar (fuel : Nat) (l : Lexer) (literal : Bool) : Option Lexer := do
  let l ← l.dropKey
  let (text, next) ← blockText fuel literal l.indent (l.place.skip 1)
  some { l.add (.scalar (if literal then .literal else .folded) text) with
    place := next, keyAllowed := true }

/-- A quoted scalar. -/
def addQuoted (fuel : Nat) (l : Lexer) (single : Bool) : Option Lexer := do
  let (text, next) ← quotedText single fuel (l.place.skip 1)
  l.addNode (.scalar (if single then .singleQuoted else .doubleQuoted) text) next

/-- A plain scalar; behind a break that it ends with a key may start. -/
def addPlain (fuel : Nat) (l : Lexer) : Option Lexer := do
  let (text, broken, next) ←
    plainText l.inFlow (l.indent + 1).toNat fuel (.blanks []) l.place
  let l ← l.addNode (.scalar .plain text) next
  some { l with keyAllowed := broken }

/-- A character that no plain scalar starts with, some of them with exceptions. -/
def isIndicator (c : Char) : Bool :=
  isGapOrBreak c ||
    ['-', '?', ':', ',', '[', ']', '\x7b', '\x7d', '#', '&', '*', '!', '|', '>', '\'', '"', '%',
      '@', '\u0060'].contains c

/-- Whether a plain scalar starts with a character at the present place. -/
def startsPlain (l : Lexer) (c : Char) : Bool :=
  !isIndicator c || (c == '-' && !(l.place.peekAt? 1).any isGap) ||
    (!l.inFlow && (c == '?' || c == ':') && !l.place.gapAt 1)

/-- Reads the token that starts with a character at the present place. -/
def readToken (fuel : Nat) (l : Lexer) (c : Char) : Option Lexer :=
  let p := l.place
  if p.column = 0 ∧ c = '%' then do
    let (t, next) ← readDirective fuel (p.skip 1)
    l.addDivider t next
  else if p.atDivider then
    l.addDivider (if c = '-' then .documentStart else .documentEnd) (p.skip 3)
  else if c = '[' then l.openBracket .bracketOpen
  else if c = '\x7b' then l.openBracket .braceOpen
  else if c = ']' then l.closeBracket .bracketClose
  else if c = '\x7d' then l.closeBracket .braceClose
  else if c = ',' then l.addComma
  else if c = '-' ∧ p.gapAt 1 then l.addItem
  else if c = '?' ∧ (l.inFlow ∨ p.gapAt 1) then l.addKey
  else if c = ':' ∧ (l.inFlow ∨ p.gapAt 1) then l.addValue
  else if c = '*' then do
    let (name, next) ← anchorName (p.skip 1)
    l.addNode (.alias name) next
  else if c = '&' then do
    let (name, next) ← anchorName (p.skip 1)
    l.addNode (.anchor name) next
  else if c = '!' then do
    let (t, next) ← readTag fuel l.inFlow p
    l.addNode t next
  else if c = '|' ∧ !l.inFlow then l.addBlockScalar fuel true
  else if c = '>' ∧ !l.inFlow then l.addBlockScalar fuel false
  else if c = '\'' then l.addQuoted fuel true
  else if c = '"' then l.addQuoted fuel false
  else if l.startsPlain c then l.addPlain fuel
  else none

/-- Reads all tokens; `fuel` bounds the number of characters that are left, of which each token
takes at least one. -/
def run : (fuel : Nat) → Lexer → Option (List Token)
  | 0, _ => none
  | fuel + 1, l => do
    let l ← (l.skipGaps (fuel + 1)).dropStaleKeys
    let l := l.close l.place.column
    match l.place.peek? with
    | none =>
      let l ← (l.close (-1)).dropKey
      some l.tokens.reverse
    | some c =>
      let l ← l.readToken (fuel + 1) c
      run fuel l

end Lexer

def Token.ofText? (text : List Char) : Option (List Token) :=
  if text.all isPrintable then (Lexer.start text).run (text.length + 1) else none

end DynamicForms.Yaml
