import DynamicForms.Pattern.Escape

/-!
# Sets of characters in patterns

Reading what stands between brackets: characters, ranges, classes, sets inside sets, and the
operators `&&`, `--` and `~~`, which all bind alike and to the left.
-/

set_option autoImplicit false

namespace DynamicForms.Pattern

/-- Looks for the first character that is neither blank nor the start of a comment. -/
def peekPastBlanks : (inComment : Bool) → List Char → Option Char
  | _, [] => none
  | inComment, c :: rest =>
    if Text.isBlank c then peekPastBlanks inComment rest
    else if !inComment && c == '#' then peekPastBlanks true rest
    else some c

/-- The character that decides whether a dash before it makes a range. -/
def peek (ignore : Bool) (rest : List Char) : Option Char :=
  if ignore then (peekPastBlanks false rest).or rest.head? else rest.head?

/-- Reads a character or an escape between brackets. -/
def readSetItem (ignore : Bool) : List Char → Option (Term × List Char)
  | [] => none
  | '\\' :: rest => readEscape ignore rest
  | c :: rest => some (.ofChar c, rest)

/-- A term as a part of a set; assertions and the dot cannot be one. -/
def Term.toSet? : Term → Option ClassSet
  | .literal l => some (.literal l)
  | .letter negated l => some (.letter negated l)
  | .property negated q => some (.property negated q)
  | _ => none

/-- A term as an end of a range. -/
def Term.toLiteral? : Term → Option Literal
  | .literal l => some l
  | _ => none

/-- Reads a part of a set or a range. -/
def readRange (ignore : Bool) (cs : List Char) : Option (ClassSet × List Char) := do
  let (first, rest) ← readSetItem ignore cs
  match skip ignore rest with
  | [] => none
  | '-' :: after =>
    let next := peek ignore after
    if next = some ']' ∨ next = some '-' then
      let set ← first.toSet?
      some (set, '-' :: after)
    else
      let (last, rest) ← readSetItem ignore (skip ignore after)
      let low ← first.toLiteral?
      let high ← last.toLiteral?
      if low.char ≤ high.char then some (.range low high, rest) else none
  | rest =>
    let set ← first.toSet?
    some (set, rest)

/-- Reads a class between bracketed colons, the opening bracket being behind. -/
def readAsciiClass : List Char → Option (ClassSet × List Char)
  | ':' :: rest =>
    let (negated, rest) := match rest with
      | '^' :: rest => (true, rest)
      | rest => (false, rest)
    match rest.dropWhile (· != ':') with
    | ':' :: ']' :: after =>
      (AsciiClass.ofName? (String.ofList (rest.takeWhile (· != ':')))).map fun name =>
        (.ascii negated name, after)
    | _ => none
  | _ => none

/-- Reads the dashes that a set may start with; the latest item comes first. -/
def readDashes (ignore : Bool) : (fuel : Nat) → (items : List ClassSet) → List Char →
    List ClassSet × List Char
  | 0, items, cs => (items, cs)
  | fuel + 1, items, cs =>
    match cs with
    | '-' :: rest => readDashes ignore fuel (.literal ⟨'-', false⟩ :: items) (skip ignore rest)
    | cs => (items, cs)

/-- Reads the start of a set, the opening bracket being behind: whether it is negated, and the
dashes or the closing bracket that stand for themselves there. -/
def readSetStart (ignore : Bool) (cs : List Char) : Bool × List ClassSet × List Char :=
  let (negated, cs) := match skip ignore cs with
    | '^' :: rest => (true, skip ignore rest)
    | cs => (false, cs)
  let (items, cs) := readDashes ignore cs.length [] cs
  match items, cs with
  | [], ']' :: rest => (negated, [.literal ⟨']', false⟩], skip ignore rest)
  | items, cs => (negated, items, cs)

/-- The set of the items after an operator, or of all items; the latest item comes first. -/
def joinSets (left : Option (SetOperator × ClassSet)) (items : List ClassSet) : ClassSet :=
  match left with
  | none => .ofItems items.reverse
  | some (operator, left) => .operation operator left (.ofItems items.reverse)

/-- Reads a set up to and with its closing bracket; `fuel` bounds the number of characters. -/
def readSet (ignore : Bool) : (fuel : Nat) → (left : Option (SetOperator × ClassSet)) →
    (items : List ClassSet) → List Char → Option (ClassSet × List Char)
  | 0, _, _, _ => none
  | fuel + 1, left, items, cs =>
    match skip ignore cs with
    | [] => none
    | ']' :: rest => some (joinSets left items, rest)
    | '[' :: rest =>
      match readAsciiClass rest with
      | some (item, rest) => readSet ignore fuel left (item :: items) rest
      | none => do
        let (negated, start, rest) := readSetStart ignore rest
        let (set, rest) ← readSet ignore fuel none start rest
        readSet ignore fuel left (.bracketed negated set :: items) rest
    | '&' :: '&' :: rest => readSet ignore fuel (some (.intersection, joinSets left items)) [] rest
    | '-' :: '-' :: rest => readSet ignore fuel (some (.difference, joinSets left items)) [] rest
    | '~' :: '~' :: rest =>
      readSet ignore fuel (some (.symmetricDifference, joinSets left items)) [] rest
    | cs => do
      let (item, rest) ← readRange ignore cs
      readSet ignore fuel left (item :: items) rest

/-- Reads a set, the opening bracket being behind. -/
def readBracketed (ignore : Bool) (cs : List Char) : Option (Term × List Char) := do
  let (negated, start, rest) := readSetStart ignore cs
  let (set, rest) ← readSet ignore (rest.length + 1) none start rest
  some (.bracketed negated set, rest)

end DynamicForms.Pattern
