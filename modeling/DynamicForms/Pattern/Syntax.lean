/-!
# The syntax of patterns

A pattern as it is written: `Term` for patterns and `ClassSet` for what stands between brackets.
Nothing is decided here about what flags make of a term.  `Term.nesting` counts the levels of a
term that lie inside each other.
-/

set_option autoImplicit false

namespace DynamicForms.Pattern

/-- A character that stands for itself. -/
structure Literal where
  char : Char
  /-- Whether it is written as a byte, by exactly two hexadecimal digits. -/
  byByte : Bool
deriving DecidableEq, Repr

/-- The classes that have a letter of their own. -/
inductive ClassLetter where
  | digit
  | space
  | word
deriving DecidableEq, Repr

/-- A Unicode property as it is asked for. -/
inductive PropertyQuery where
  | named (name : String)
  | valued (name value : String)
deriving DecidableEq, Repr

/-- The classes that are written between bracketed colons. -/
inductive AsciiClass where
  | alnum
  | alpha
  | ascii
  | blank
  | cntrl
  | digit
  | graph
  | lower
  | print
  | punct
  | space
  | upper
  | word
  | xdigit
deriving DecidableEq, Repr

def AsciiClass.ofName? : String → Option AsciiClass
  | "alnum" => some .alnum
  | "alpha" => some .alpha
  | "ascii" => some .ascii
  | "blank" => some .blank
  | "cntrl" => some .cntrl
  | "digit" => some .digit
  | "graph" => some .graph
  | "lower" => some .lower
  | "print" => some .print
  | "punct" => some .punct
  | "space" => some .space
  | "upper" => some .upper
  | "word" => some .word
  | "xdigit" => some .xdigit
  | _ => none

/-- The operators between sets of characters. -/
inductive SetOperator where
  | intersection
  | difference
  | symmetricDifference
deriving DecidableEq, Repr

/-- A set of characters between brackets. -/
inductive ClassSet where
  | literal (l : Literal)
  | range (low high : Literal)
  | ascii (negated : Bool) (name : AsciiClass)
  | letter (negated : Bool) (letter : ClassLetter)
  | property (negated : Bool) (query : PropertyQuery)
  | bracketed (negated : Bool) (set : ClassSet)
  | union (items : List ClassSet)
  | operation (operator : SetOperator) (left right : ClassSet)
deriving Repr

/-- A place in a text that a pattern may ask for. -/
inductive Assertion where
  | lineStart
  | lineEnd
  | textStart
  | textEnd
  | wordBoundary
  | noWordBoundary
  | wordStart
  | wordEnd
  | wordStartHalf
  | wordEndHalf
deriving DecidableEq, Repr

/-- The flags that change how a pattern is read or what it means. -/
inductive Flag where
  | ignoreCase
  | multiLine
  | dotMatchesAll
  | swapGreed
  | unicode
  | carriageReturns
  | ignoreBlanks
deriving DecidableEq, Repr

def Flag.ofLetter? : Char → Option Flag
  | 'i' => some .ignoreCase
  | 'm' => some .multiLine
  | 's' => some .dotMatchesAll
  | 'U' => some .swapGreed
  | 'u' => some .unicode
  | 'R' => some .carriageReturns
  | 'x' => some .ignoreBlanks
  | _ => none

/-- Flags that are set or cleared, each once. -/
abbrev FlagChange := List (Flag × Bool)

/-- Whether a change sets or clears a flag. -/
def FlagChange.state? (change : FlagChange) (flag : Flag) : Option Bool :=
  (change.find? fun entry => entry.1 == flag).map (·.2)

/-- A pattern as it is written. -/
inductive Term where
  /-- A change of flags for the rest of the group. -/
  | flags (change : FlagChange)
  | literal (l : Literal)
  /-- Any character, perhaps up to the end of the line. -/
  | dot
  | assertion (a : Assertion)
  | letter (negated : Bool) (letter : ClassLetter)
  | property (negated : Bool) (query : PropertyQuery)
  | bracketed (negated : Bool) (set : ClassSet)
  /-- At least `min` times, and at most `max` times if there is such a bound. -/
  | repetition (t : Term) (min : Nat) (max : Option Nat)
  /-- A group with a change of flags inside. -/
  | group (change : FlagChange) (t : Term)
  /-- Terms one after the other. -/
  | sequence (ts : List Term)
  /-- Terms to choose among. -/
  | choice (ts : List Term)
deriving Repr

/-- Terms one after the other; a single one stands for itself. -/
def Term.ofSequence : List Term → Term
  | [t] => t
  | ts => .sequence ts

/-- Terms to choose among; a single one stands for itself. -/
def Term.ofChoice : List Term → Term
  | [t] => t
  | ts => .choice ts

/-- Items of a set; a single one stands for itself. -/
def ClassSet.ofItems : List ClassSet → ClassSet
  | [s] => s
  | items => .union items

mutual
/-- How many brackets, unions and operations of a set lie inside each other. -/
def ClassSet.nesting : ClassSet → Nat
  | .bracketed _ s => s.nesting + 1
  | .union [] => 0
  | .union items => nestingOfItems items + 1
  | .operation _ l r => max l.nesting r.nesting + 1
  | _ => 0

/-- The deepest nesting of some items. -/
def nestingOfItems : List ClassSet → Nat
  | [] => 0
  | s :: rest => max s.nesting (nestingOfItems rest)
end

mutual
/-- How many compound terms lie inside each other. -/
def Term.nesting : Term → Nat
  | .bracketed _ s => s.nesting + 1
  | .repetition t _ _ => t.nesting + 1
  | .group _ t => t.nesting + 1
  | .sequence [] => 0
  | .sequence ts => nestingOfTerms ts + 1
  | .choice ts => nestingOfTerms ts + 1
  | _ => 0

/-- The deepest nesting of some terms. -/
def nestingOfTerms : List Term → Nat
  | [] => 0
  | t :: rest => max t.nesting (nestingOfTerms rest)
end

end DynamicForms.Pattern
