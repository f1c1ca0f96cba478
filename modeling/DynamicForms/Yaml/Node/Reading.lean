import DynamicForms.Yaml.Node
import DynamicForms.Yaml.Token.Lexer

/-!
# From tokens to nodes

Recursive descent over the tokens of a text, which has to hold one document.  Every reader takes
what is left of the tokens and answers what is left behind its node.  Fuel bounds the depth of
the calls; each call but a few takes a token, so that three times the number of tokens is enough.
-/

set_option autoImplicit false

namespace DynamicForms.Yaml

/-- The tokens that are left, and the slots that names of anchors stand for so far. -/
structure Pending where
  tokens : List Token
  names : List (List Char × Nat)

namespace Pending

/-- The next token. -/
def peek? (s : Pending) : Option Token := s.tokens.head?

/-- Moves over a token. -/
def skip (s : Pending) : Pending := { s with tokens := s.tokens.tail }

/-- Moves over a token that has to come next. -/
def expect (s : Pending) (t : Token) : Option Pending :=
  if s.peek? = some t then some s.skip else none

/-- Whether one of some tokens comes next. -/
def isAt (s : Pending) (ts : List Token) : Bool := s.peek?.any ts.contains

/-- The slot of a name. -/
def slotOf? (s : Pending) (name : List Char) : Option Nat :=
  (s.names.find? fun entry => entry.1 == name).map (·.2)

/-- Lets a name stand for a new slot, whose number is that of the names so far.  A name that is
used again does not add to that number. -/
def bind (s : Pending) (name : List Char) : Nat × Pending :=
  let slot := s.names.length
  (slot, { s with names := (name, slot) :: s.names.filter fun entry => entry.1 != name })

end Pending

/-- The tags that need no directive. -/
def standardHandles : List (List Char × List Char) :=
  [(['!'], ['!']), (['!', '!'], "tag:yaml.org,2002:".toList)]

/-- The full name of a tag, given what handles stand for. -/
def fullTag? (handles : List (List Char × List Char)) (handle suffix : List Char) :
    Option (List Char) :=
  if handle.isEmpty then some suffix
  else (handles.find? fun entry => entry.1 == handle).map fun entry => entry.2 ++ suffix

/-- Takes an anchor, if one comes next. -/
def takeAnchor (s : Pending) : Option (List Char) × Pending :=
  match s.peek? with
  | some (.anchor name) => (some name, s.skip)
  | _ => (none, s)

/-- Takes a tag, if one comes next. -/
def takeTag (handles : List (List Char × List Char)) (s : Pending) :
    Option (Option (List Char) × Pending) :=
  match s.peek? with
  | some (.tag handle suffix) => (fullTag? handles handle suffix).map fun tag => (some tag, s.skip)
  | _ => some (none, s)

/-- Takes an anchor and a tag, in either order, and binds the anchor. -/
def takeProperties (handles : List (List Char × List Char)) (s : Pending) :
    Option (Properties × Pending) := do
  let (before, s) := takeAnchor s
  let (tag, s) ← takeTag handles s
  let (anchor, s) := if before.isNone ∧ tag.isSome then takeAnchor s else (before, s)
  match anchor with
  | none => some (⟨none, tag⟩, s)
  | some name =>
    let (slot, s) := s.bind name
    some (⟨some slot, tag⟩, s)

/-- The empty node behind properties; without them there is none. -/
def emptyNode (p : Properties) (s : Pending) : Option (Node × Pending) :=
  if p.slot.isSome ∨ p.tag.isSome then some (.scalar p .plain [], s) else none

/-- The tag of a scalar: an exclamation mark on its own does not count. -/
def scalarTag (tag : Option (List Char)) : Option (List Char) :=
  if tag = some ['!'] then none else tag

variable (handles : List (List Char × List Char))

mutual
/-- Reads a node.  Collections by indentation are allowed if `block` is set, and items without a
mark for the start of their sequence if `bare` is set. -/
def readNode : (fuel : Nat) → (block bare : Bool) → Pending → Option (Node × Pending)
  | 0, _, _, _ => none
  | fuel + 1, block, bare, s =>
    match s.peek? with
    | some (.alias name) => (s.slotOf? name).map fun slot => (.alias slot, s.skip)
    | _ => do
      let (p, s) ← takeProperties handles s
      match s.peek? with
      | some (.scalar style text) =>
        some (.scalar { p with tag := scalarTag p.tag } style text, s.skip)
      | some .bracketOpen =>
        let (items, s) ← readFlowItems fuel true s.skip
        some (.sequence p items, s)
      | some .braceOpen =>
        let (entries, s) ← readFlowEntries fuel true s.skip
        some (.mapping p entries, s)
      | some .item =>
        if bare then
          let (items, s) ← readBareItems fuel s
          some (.sequence p items, s)
        else emptyNode p s
      | some .sequenceStart =>
        if block then
          let (items, s) ← readItems fuel s.skip
          some (.sequence p items, s)
        else emptyNode p s
      | some .mappingStart =>
        if block then
          let (entries, s) ← readEntries fuel s.skip
          some (.mapping p entries, s)
        else emptyNode p s
      | _ => emptyNode p s

/-- Reads the items of a sequence by indentation. -/
def readItems : (fuel : Nat) → Pending → Option (List Node × Pending)
  | 0, _ => none
  | fuel + 1, s =>
    match s.peek? with
    | some .blockEnd => some ([], s.skip)
    | some .item => do
      let (node, s) ←
        if s.skip.isAt [.item, .blockEnd] then some (.empty, s.skip)
        else readNode fuel true false s.skip
      let (items, s) ← readItems fuel s
      some (node :: items, s)
    | _ => none

/-- Reads the items of a sequence that stands at the column of the mapping around it. -/
def readBareItems : (fuel : Nat) → Pending → Option (List Node × Pending)
  | 0, _ => none
  | fuel + 1, s =>
    if s.isAt [.item] then do
      let (node, s) ←
        if s.skip.isAt [.item, .key, .value, .blockEnd] then some (.empty, s.skip)
        else readNode fuel true false s.skip
      let (items, s) ← readBareItems fuel s
      some (node :: items, s)
    else some ([], s)

/-- Reads the entries of a mapping by indentation. -/
def readEntries : (fuel : Nat) → Pending → Option (List (Node × Node) × Pending)
  | 0, _ => none
  | fuel + 1, s =>
    match s.peek? with
    | some .blockEnd => some ([], s.skip)
    | some .key => do
      let (key, s) ← readPart fuel s.skip
      let (value, s) ← if s.isAt [.value] then readPart fuel s.skip else some (.empty, s)
      let (entries, s) ← readEntries fuel s
      some ((key, value) :: entries, s)
    | _ => none

/-- Reads a key or a value of a mapping by indentation. -/
def readPart : (fuel : Nat) → Pending → Option (Node × Pending)
  | 0, _ => none
  | fuel + 1, s =>
    if s.isAt [.key, .value, .blockEnd] then some (.empty, s) else readNode fuel true true s

/-- Reads the items of a sequence in brackets. -/
def readFlowItems : (fuel : Nat) → (first : Bool) → Pending → Option (List Node × Pending)
  | 0, _, _ => none
  | fuel + 1, first, s =>
    if s.isAt [.bracketClose] then some ([], s.skip)
    else do
      let s ← if first then some s else s.expect .comma
      if !first ∧ s.isAt [.bracketClose] then some ([], s.skip)
      else
        let (node, s) ←
          if s.isAt [.key] then readFlowPair fuel s.skip else readNode fuel false false s
        let (items, s) ← readFlowItems fuel false s
        some (node :: items, s)

/-- Reads an item that is a mapping of one entry; a sign that stands where its key should is
passed over. -/
def readFlowPair : (fuel : Nat) → Pending → Option (Node × Pending)
  | 0, _ => none
  | fuel + 1, s => do
    let (key, s) ←
      if s.isAt [.value, .comma, .bracketClose] then some (.empty, s.skip)
      else readNode fuel false false s
    let (value, s) ← readFlowValue fuel .bracketClose s
    some (.mapping {} [(key, value)], s)

/-- Reads the value behind a key in brackets, which may be missing. -/
def readFlowValue : (fuel : Nat) → (close : Token) → Pending → Option (Node × Pending)
  | 0, _, _ => none
  | fuel + 1, close, s =>
    if s.isAt [.value] ∧ !s.skip.isAt [.comma, close] then readNode fuel false false s.skip
    else some (.empty, if s.isAt [.value] then s.skip else s)

/-- Reads the entries of a mapping in braces. -/
def readFlowEntries :
    (fuel : Nat) → (first : Bool) → Pending → Option (List (Node × Node) × Pending)
  | 0, _, _ => none
  | fuel + 1, first, s =>
    if s.isAt [.braceClose] then some ([], s.skip)
    else do
      let s ← if first then some s else s.expect .comma
      if !first ∧ s.isAt [.braceClose] then some ([], s.skip)
      else
        let (entry, s) ←
          if s.isAt [.key] then readFlowEntry fuel s.skip
          else do
            let (key, s) ← readNode fuel false false s
            some ((key, .empty), s)
        let (entries, s) ← readFlowEntries fuel false s
        some (entry :: entries, s)

/-- Reads the key and the value of an entry in braces. -/
def readFlowEntry : (fuel : Nat) → Pending → Option ((Node × Node) × Pending)
  | 0, _ => none
  | fuel + 1, s => do
    let (key, s) ←
      if s.isAt [.value, .comma, .braceClose] then some (.empty, s)
      else readNode fuel false false s
    let (value, s) ← readFlowValue fuel .braceClose s
    some ((key, value), s)
end

/-! ## Documents -/

def Token.isDirective : Token → Bool
  | .version .. | .tagHandle .. => true
  | _ => false

/-- The versions of some directives. -/
def versionsOf (directives : List Token) : List (Nat × Nat) :=
  directives.filterMap fun
    | .version major minor => some (major, minor)
    | _ => none

/-- The handles of some directives, each with what it stands for. -/
def handlesOf (directives : List Token) : List (List Char × List Char) :=
  directives.filterMap fun
    | .tagHandle handle start => some (handle, start)
    | _ => none

/-- Whether the items of a list differ from each other. -/
def allDiffer {α : Type} [BEq α] : List α → Bool
  | [] => true
  | a :: rest => !rest.contains a && allDiffer rest

/-- Whether directives make sense together: one version at most, which is 1.1 or 1.2, and no
handle twice. -/
def validDirectives (directives : List Token) : Bool :=
  let versions := versionsOf directives
  versions.length ≤ 1 && versions.all (fun v => v == (1, 1) || v == (1, 2)) &&
    allDiffer ((handlesOf directives).map (·.1))

/-- Reads a node that takes up all tokens, but for the marks that end a document. -/
def readRoot (tokens : List Token) : Option Node := do
  let (node, s) ← readNode handles (3 * tokens.length + 3) true false ⟨tokens, []⟩
  if s.tokens.all (· == .documentEnd) then some node else none

/-- The node that tokens describe.  Without any tokens it is the empty one. -/
def Node.ofTokens? (tokens : List Token) : Option Node :=
  match tokens with
  | [] => some .empty
  | t :: _ =>
    if t.isDirective ∨ t = .documentStart then
      let directives := tokens.takeWhile Token.isDirective
      let handles := handlesOf directives ++ standardHandles
      match tokens.dropWhile Token.isDirective with
      | .documentStart :: content =>
        if !validDirectives directives then none
        else if content.all (· == .documentEnd) then some .empty
        else readRoot handles content
      | _ => none
    else readRoot standardHandles tokens

/-- The node that a text describes. -/
def Node.ofText? (text : String) : Option Node := do
  Node.ofTokens? (← Token.ofText? text.toList)

end DynamicForms.Yaml
