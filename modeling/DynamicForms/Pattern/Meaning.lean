import DynamicForms.Pattern.Expression
import DynamicForms.Pattern.Syntax
import DynamicForms.Unicode.CaseOrbit
import DynamicForms.Unicode.Property
import DynamicForms.Unicode.Script

/-!
# The meaning of patterns

`Term.meaning?` resolves the flags of a pattern.  Without the flag for Unicode, classes hold ASCII
characters only and whatever could match a part of a character is not accepted.  Where case is
ignored a set is closed under case before it is negated.
-/

set_option autoImplicit false

namespace DynamicForms.Pattern

/-- The flags that matter for what a term means. -/
structure Flags where
  ignoreCase : Bool := false
  multiLine : Bool := false
  dotMatchesAll : Bool := false
  unicode : Bool := true
  carriageReturns : Bool := false
deriving DecidableEq, Repr

/-- The flags after a change. -/
def Flags.apply (f : Flags) (change : FlagChange) : Flags where
  ignoreCase := (change.state? .ignoreCase).getD f.ignoreCase
  multiLine := (change.state? .multiLine).getD f.multiLine
  dotMatchesAll := (change.state? .dotMatchesAll).getD f.dotMatchesAll
  unicode := (change.state? .unicode).getD f.unicode
  carriageReturns := (change.state? .carriageReturns).getD f.carriageReturns

/-- A set of characters, with what a test takes when it is compiled. -/
structure CharSet where
  size : Nat
  test : Char → Bool

/-! ## Classes -/

/-- A letter, a digit or the low line, all in ASCII. -/
def isAsciiWord (c : Char) : Bool := c.isAlphanum || c == '_'

/-- A blank in ASCII. -/
def isAsciiSpace (c : Char) : Bool := c == ' ' || (0x09 ≤ c.toNat && c.toNat ≤ 0x0D)

/-- A graphic character in ASCII. -/
def isAsciiGraphic (c : Char) : Bool := 0x21 ≤ c.toNat && c.toNat ≤ 0x7E

/-- The characters of a named ASCII class. -/
def AsciiClass.holds : AsciiClass → Char → Bool
  | .alnum, c => c.isAlphanum
  | .alpha, c => c.isAlpha
  | .ascii, c => c.toNat ≤ 0x7F
  | .blank, c => c == ' ' || c == '\t'
  | .cntrl, c => c.toNat ≤ 0x1F || c.toNat == 0x7F
  | .digit, c => c.isDigit
  | .graph, c => isAsciiGraphic c
  | .lower, c => c.isLower
  | .print, c => isAsciiGraphic c || c == ' '
  | .punct, c => isAsciiGraphic c && !c.isAlphanum
  | .space, c => isAsciiSpace c
  | .upper, c => c.isUpper
  | .word, c => isAsciiWord c
  | .xdigit, c => c.isDigit || ('a' ≤ c && c ≤ 'f') || ('A' ≤ c && c ≤ 'F')

/-- The characters of a class with a letter of its own. -/
def ClassLetter.holds (unicode : Bool) : ClassLetter → Char → Bool
  | .digit, c => if unicode then Unicode.Category.decimalNumber.holds c else c.isDigit
  | .space, c => if unicode then Text.isBlank c else isAsciiSpace c
  | .word, c => if unicode then Unicode.isWordCharacter c else isAsciiWord c

/-- What a class with a letter of its own takes. -/
def ClassLetter.size (unicode : Bool) : ClassLetter → Nat
  | .digit => if unicode then 1304 else 72
  | .space => if unicode then 392 else 72
  | .word => if unicode then 18936 else 104

/-! ## Properties -/

/-- A name in lower case, without blanks, low lines, dashes and all that is not ASCII; a leading
`is` does not count. -/
def normalName (name : String) : String :=
  let small := name.toList.map Char.toLower
  let counted := match small with
    | 'i' :: 's' :: rest => rest
    | cs => cs
  let kept := counted.filter fun c => c != ' ' && c != '_' && c != '-' && c.toNat ≤ 0x7F
  match small, kept with
  | 'i' :: 's' :: _, ['c'] => "isc"
  | _, _ => String.ofList kept

/-- The characters of a general category, or of one of the three sets that count as such. -/
def category? (name : String) : Option (Char → Bool) :=
  match name with
  | "any" => some fun _ => true
  | "assigned" => some Unicode.Category.assigned
  | "ascii" => some fun c => c.toNat ≤ 0x7F
  | name => (Unicode.Category.group? name).map Unicode.inCategories

/-- The characters of a property; names that mean both a property and a category mean the
category. -/
def PropertyQuery.test? : PropertyQuery → Option (Char → Bool)
  | .named name =>
    let name := normalName name
    (Unicode.property? name).or
      ((category? name).or ((Unicode.Script.ofName? name).map Unicode.Script.holds))
  | .valued name value =>
    let value := normalName value
    match normalName name with
    | "gc" | "generalcategory" => category? value
    | "sc" | "script" => (Unicode.Script.ofName? value).map Unicode.Script.holds
    | "scx" | "scriptextensions" => (Unicode.Script.ofName? value).map Unicode.Script.isUsed
    | _ => none

/-! ## Sets -/

/-- The other case of an ASCII letter. -/
def otherAsciiCase (c : Char) : Char := if c.isLower then c.toUpper else c.toLower

namespace CharSet

/-- The size of a set that spans all of Unicode. -/
def wideSize : Nat := 368

/-- The size of a property. -/
def propertySize : Nat := 8000

/-- The set closed under case, if case is ignored. -/
def folded (s : CharSet) (f : Flags) : CharSet :=
  if !f.ignoreCase then s
  else if f.unicode then ⟨s.size, fun c => (Unicode.orbit c).any s.test⟩
  else ⟨s.size, fun c => s.test c || s.test (otherAsciiCase c)⟩

/-- The set or its complement; a complement reaches beyond ASCII. -/
def negatedIf (s : CharSet) (f : Flags) (negated : Bool) : Option CharSet :=
  if !negated then some s
  else if f.unicode then some ⟨max s.size wideSize, fun c => !s.test c⟩
  else none

/-- The union of two sets. -/
def union (a b : CharSet) : CharSet := ⟨a.size + b.size, fun c => a.test c || b.test c⟩

/-- What an operator makes of two sets. -/
def operate (operator : SetOperator) (a b : CharSet) : CharSet :=
  ⟨a.size + b.size, fun c =>
    match operator with
    | .intersection => a.test c && b.test c
    | .difference => a.test c && !b.test c
    | .symmetricDifference => a.test c != b.test c⟩

/-- The characters of a class with a letter of its own. -/
def ofLetter (f : Flags) (negated : Bool) (letter : ClassLetter) : Option CharSet :=
  negatedIf ⟨letter.size f.unicode, letter.holds f.unicode⟩ f negated

/-- The characters of a property. -/
def ofProperty (f : Flags) (negated : Bool) (query : PropertyQuery) : Option CharSet :=
  if f.unicode then
    query.test?.bind fun test => (CharSet.folded ⟨propertySize, test⟩ f).negatedIf f negated
  else none

end CharSet

/-- Whether a character may be an element of a set. -/
def Literal.isAllowed (f : Flags) (l : Literal) : Bool := f.unicode || l.char.toNat ≤ 0x7F

mutual
/-- The characters of a set. -/
def ClassSet.meaning? (f : Flags) : ClassSet → Option CharSet
  | .literal l => if l.isAllowed f then some ⟨8 * l.char.utf8Size, fun c => c == l.char⟩ else none
  | .range low high =>
    if low.isAllowed f && high.isAllowed f then
      some ⟨if high.char.toNat ≤ 0x7F then 8 else 200, fun c => low.char ≤ c && c ≤ high.char⟩
    else none
  | .ascii negated name => (CharSet.folded ⟨32, name.holds⟩ f).negatedIf f negated
  | .letter negated letter => CharSet.ofLetter f negated letter
  | .property negated query => CharSet.ofProperty f negated query
  | .bracketed negated s => (s.meaning? f).bind fun set => (set.folded f).negatedIf f negated
  | .union items => unionOfItems f items
  | .operation operator l r => do
    let left ← l.meaning? f
    let right ← r.meaning? f
    some (.operate operator (left.folded f) (right.folded f))

/-- The characters of some items together. -/
def unionOfItems (f : Flags) : List ClassSet → Option CharSet
  | [] => some ⟨0, fun _ => false⟩
  | s :: rest => do
    let set ← s.meaning? f
    let others ← unionOfItems f rest
    some (set.union others)
end

/-! ## Places -/

/-- Whether a character is part of a word; the ends of a text are not. -/
def isWordPart (unicode : Bool) (c : Option Char) : Bool := c.any (ClassLetter.word.holds unicode)

/-- Whether a place is what an assertion asks for. -/
def Assertion.holds (f : Flags) (a : Assertion) (p : Place) : Bool :=
  let before := isWordPart f.unicode p.before
  let after := isWordPart f.unicode p.after
  match a with
  | .textStart => p.before.isNone
  | .textEnd => p.after.isNone
  | .lineStart =>
    p.before.isNone || (f.multiLine && (p.before == some '\n' ||
      (f.carriageReturns && p.before == some '\r' && p.after != some '\n')))
  | .lineEnd =>
    p.after.isNone || (f.multiLine &&
      if f.carriageReturns then
        p.after == some '\r' || (p.after == some '\n' && p.before != some '\r')
      else p.after == some '\n')
  | .wordBoundary => before != after
  | .noWordBoundary => before == after
  | .wordStart => !before && after
  | .wordEnd => before && !after
  | .wordStartHalf => !before
  | .wordEndHalf => !after

/-! ## Terms -/

/-- The characters that a dot stands for. -/
def dotSet (f : Flags) : Option CharSet :=
  if f.unicode then
    some ⟨CharSet.wideSize, fun c =>
      f.dotMatchesAll || (c != '\n' && !(f.carriageReturns && c == '\r'))⟩
  else none

/-- The expression of a set of characters. -/
def CharSet.expression (s : CharSet) : Expression :=
  .char (s.size + 2 * Expression.stateSize) s.test

/-- The expression of a character that stands for itself. -/
def Literal.meaning? (f : Flags) (l : Literal) : Option Expression :=
  let set : CharSet := ⟨8, fun c => c == l.char⟩
  if !f.unicode && l.byByte && 0x7F < l.char.toNat then none
  else if f.ignoreCase && (f.unicode || l.char.toNat ≤ 0x7F) then some (set.folded f).expression
  else some (.char (Expression.stateSize * l.char.utf8Size) set.test)

mutual
/-- What a term means under some flags, and the flags for what follows it in the group; nothing
when the flags do not admit it. -/
def Term.meaning? (f : Flags) : Term → Option (Expression × Flags)
  | .flags change => some (.empty, f.apply change)
  | .literal l => (l.meaning? f).map (·, f)
  | .dot => (dotSet f).map fun s => (s.expression, f)
  | .assertion a => some (.place (a.holds f), f)
  | .letter negated letter => (CharSet.ofLetter f negated letter).map fun s => (s.expression, f)
  | .property negated query => (CharSet.ofProperty f negated query).map fun s => (s.expression, f)
  | .bracketed negated s =>
    (ClassSet.meaning? f (.bracketed negated s)).map fun s => (s.expression, f)
  | .repetition t low high => (t.meaning? f).map fun (e, f) => (.repetition e low high, f)
  | .group change t => (t.meaning? (f.apply change)).map fun (e, _) => (e, f)
  | .sequence ts => sequenceMeaning? f ts
  | .choice ts => choiceMeaning? f ts

/-- What terms mean one after the other. -/
def sequenceMeaning? (f : Flags) : List Term → Option (Expression × Flags)
  | [] => some (.empty, f)
  | [t] => t.meaning? f
  | t :: rest => do
    let (e, f) ← t.meaning? f
    let (others, f) ← sequenceMeaning? f rest
    some (.sequence e others, f)

/-- What terms mean to choose among; the flags of a branch go on in the next one. -/
def choiceMeaning? (f : Flags) : List Term → Option (Expression × Flags)
  | [] => some (.char 0 fun _ => false, f)
  | [t] => t.meaning? f
  | t :: rest => do
    let (e, f) ← t.meaning? f
    let (others, f) ← choiceMeaning? f rest
    some (.choice e others, f)
end

end DynamicForms.Pattern
