import DynamicForms.Pattern.ClassReading
import DynamicForms.Unicode.Property

/-!
# Reading patterns

`Term.ofText?` reads a whole pattern.  Groups, repetitions and choices are read here; a pattern in
which more than 250 compound terms lie inside each other is not accepted.
-/

set_option autoImplicit false

namespace DynamicForms.Pattern

/-- Reads digits; `fuel` bounds their number. -/
def readDigits (ignore : Bool) : (fuel : Nat) → List Char → List Char × List Char
  | 0, cs => ([], cs)
  | _ + 1, [] => ([], [])
  | fuel + 1, c :: rest =>
    if c.isDigit then
      let (ds, rest) := readDigits ignore fuel (skip ignore rest)
      (c :: ds, rest)
    else ([], c :: rest)

/-- Reads a count of 32 bits, with blanks around it. -/
def readCount (ignore : Bool) (cs : List Char) : Option (Nat × List Char) :=
  let cs := cs.dropWhile Text.isBlank
  let (ds, rest) := readDigits ignore cs.length cs
  let n := ds.foldl (fun n c => 10 * n + (c.toNat - '0'.toNat)) 0
  if ds.isEmpty ∨ UInt32.size ≤ n then none else some (n, rest.dropWhile Text.isBlank)

/-- Reads the bounds of a repetition, the opening brace being behind. -/
def readBounds (ignore : Bool) (cs : List Char) : Option ((Nat × Option Nat) × List Char) := do
  let (low, rest) ← readCount ignore (skip ignore cs)
  let (high, rest) ← match rest with
    | ',' :: rest =>
      match skip ignore rest with
      | '\x7d' :: rest => some (none, '\x7d' :: rest)
      | rest => (readCount ignore rest).map fun (high, rest) => (some high, rest)
    | rest => some (some low, rest)
  match rest with
  | '\x7d' :: rest => if high.all (low ≤ ·) then some ((low, high), skip ignore rest) else none
  | _ => none

/-- Skips the mark that makes a repetition a lazy one. -/
def skipLazy : List Char → List Char
  | '?' :: rest => rest
  | rest => rest

/-- Repeats the latest term, which comes first; there has to be one, and a change of flags is
none. -/
def repeatLatest (min : Nat) (max : Option Nat) : List Term → Option (List Term)
  | [] => none
  | .flags _ :: _ => none
  | t :: ts => some (.repetition t min max :: ts)

/-- Reads letters of flags up to the colon or the parenthesis that ends them, which comes second;
the latest flag comes first, and none may come twice. -/
def readFlags : (value dangling : Bool) → FlagChange → List Char →
    Option ((FlagChange × Char) × List Char)
  | _, _, _, [] => none
  | value, dangling, change, c :: rest =>
    if c = ':' ∨ c = ')' then if dangling then none else some ((change, c), rest)
    else if c = '-' then if value then readFlags false true change rest else none
    else
      match Flag.ofLetter? c with
      | none => none
      | some flag =>
        if change.any fun entry => entry.1 == flag then none
        else readFlags value false ((flag, value) :: change) rest

/-- A character that the name of a group may start with. -/
def startsGroupName (c : Char) : Bool := c == '_' || Unicode.isAlphabetic c

/-- A character that the name of a group may go on with. -/
def continuesGroupName (c : Char) : Bool :=
  startsGroupName c || ['.', '[', ']'].contains c ||
    Unicode.inCategories Unicode.Category.numbers c

/-- Reads the name of a group and the sign behind it. -/
def readGroupName (cs : List Char) : Option (List Char × List Char) :=
  match cs.takeWhile (· != '>'), cs.dropWhile (· != '>') with
  | c :: name, '>' :: rest =>
    if startsGroupName c && name.all continuesGroupName then some (c :: name, rest) else none
  | _, _ => none

/-- What an opening parenthesis turns out to open. -/
inductive Opening where
  | flags (change : FlagChange)
  | group (change : FlagChange) (name : Option (List Char))

/-- Reads what follows an opening parenthesis; looking ahead or behind is not supported. -/
def readOpening (ignore : Bool) (cs : List Char) : Option (Opening × List Char) := do
  match skip ignore cs with
  | '?' :: '=' :: _ | '?' :: '!' :: _ | '?' :: '<' :: '=' :: _ | '?' :: '<' :: '!' :: _ => none
  | '?' :: 'P' :: '<' :: rest | '?' :: '<' :: rest =>
    let (name, rest) ← readGroupName rest
    some (.group [] (some name), rest)
  | '?' :: rest =>
    let ((change, stop), rest) ← readFlags true false [] rest
    if stop = ':' then some (.group change none, rest)
    else if change.isEmpty then none
    else some (.flags change, rest)
  | cs => some (.group [] none, cs)

/-- The term of a group's branches and the terms of its last branch; the latest come first. -/
def joinBranches (branches ts : List Term) : Term :=
  .ofChoice (Term.ofSequence ts.reverse :: branches).reverse

/-- Reads a group up to its closing parenthesis or the end of the text, given the names of groups
so far; `fuel` bounds the number of characters. -/
def readBody : (fuel : Nat) → (ignore : Bool) → (names : List (List Char)) →
    (branches ts : List Term) → List Char → Option ((Term × List (List Char)) × List Char)
  | 0, _, _, _, _, _ => none
  | fuel + 1, ignore, names, branches, ts, cs =>
    match skip ignore cs with
    | [] => some ((joinBranches branches ts, names), [])
    | ')' :: rest => some ((joinBranches branches ts, names), ')' :: rest)
    | '|' :: rest => readBody fuel ignore names (.ofSequence ts.reverse :: branches) [] rest
    | '(' :: rest =>
      match readOpening ignore rest with
      | none => none
      | some (.flags change, rest) =>
        let inside := (change.state? .ignoreBlanks).getD ignore
        readBody fuel inside names branches (.flags change :: ts) rest
      | some (.group change name, rest) =>
        if name.any names.contains then none
        else
          let inside := (change.state? .ignoreBlanks).getD ignore
          match readBody fuel inside (name.toList ++ names) [] [] rest with
          | some ((t, names), ')' :: rest) =>
            readBody fuel ignore names branches (.group change t :: ts) rest
          | _ => none
    | '[' :: rest => do
      let (t, rest) ← readBracketed ignore rest
      readBody fuel ignore names branches (t :: ts) rest
    | '?' :: rest => do
      let ts ← repeatLatest 0 (some 1) ts
      readBody fuel ignore names branches ts (skipLazy rest)
    | '*' :: rest => do
      let ts ← repeatLatest 0 none ts
      readBody fuel ignore names branches ts (skipLazy rest)
    | '+' :: rest => do
      let ts ← repeatLatest 1 none ts
      readBody fuel ignore names branches ts (skipLazy rest)
    | '\x7b' :: rest => do
      let ((min, max), rest) ← readBounds ignore rest
      let ts ← repeatLatest min max ts
      readBody fuel ignore names branches ts (skipLazy rest)
    | '\\' :: rest => do
      let (t, rest) ← readEscape ignore rest
      readBody fuel ignore names branches (t :: ts) rest
    | '.' :: rest => readBody fuel ignore names branches (.dot :: ts) rest
    | '^' :: rest => readBody fuel ignore names branches (.assertion .lineStart :: ts) rest
    | '$' :: rest => readBody fuel ignore names branches (.assertion .lineEnd :: ts) rest
    | c :: rest => readBody fuel ignore names branches (.ofChar c :: ts) rest

/-- How deep compound terms may lie inside each other. -/
def maxNesting : Nat := 250

def Term.ofText? (text : String) : Option Term :=
  let cs := text.toList
  match readBody (cs.length + 1) false [] [] [] cs with
  | some ((t, _), []) => if t.nesting ≤ maxNesting then some t else none
  | _ => none

end DynamicForms.Pattern
