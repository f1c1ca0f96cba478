import DynamicForms.Json.Value
import DynamicForms.Schema.Record
import DynamicForms.Yaml.Node.Reading
import DynamicForms.Yaml.Scalar

/-!
# Decoding YAML

Typed readers of nodes.  Aliases are followed where they are met, and only so often: at most a
hundred times as often as the text has parts.  Nesting is bounded as well, so that a node that
contains an alias of itself cannot be read.  Readers do not tell why they fail.

Text may be any scalar, but numbers and truth values are plain ones.  Where a list or a record is
expected, nothing at all stands for an empty one.
-/

set_option autoImplicit false

namespace DynamicForms.Yaml

/-- A reader: how many aliases may still be followed is kept between its steps. -/
abbrev Decoding := StateT Nat Option

/-- What the slots hold. -/
abbrev Anchors := Nat → Option Node

/-- What the slots of a tree hold when all of it has been read: a slot that is filled twice keeps
what came last. -/
def Node.anchors (root : Node) : Anchors :=
  let all := root.anchored.reverse
  fun slot => (all.find? fun entry => entry.1 == slot).map (·.2)

/-- The node that an alias stands for; any other node stands for itself. -/
def follow (anchors : Anchors) (node : Node) : Decoding Node := do
  match node with
  | .alias slot =>
    match ← get with
    | 0 => failure
    | left + 1 =>
      set left
      match anchors slot with
      | some target => return target
      | none => failure
  | node => return node

/-- A part that may be missing. -/
def present {α : Type} : Option α → Decoding α
  | some a => pure a
  | none => failure

/-- Enters a collection, given how many may still be entered. -/
def enter {α : Type} (depth : Nat) (inside : Nat → Decoding α) : Decoding α :=
  match depth with
  | 0 => failure
  | depth + 1 => inside depth

/-! ## Tags -/

/-- The full name of a tag of the standard. -/
def standardTag (name : String) : List Char := ("tag:yaml.org,2002:" ++ name).toList

/-- The name of a tag that belongs to the text alone. -/
def localName? : Option (List Char) → Option (List Char)
  | some ('!' :: name) => some name
  | _ => none

/-- The text of a scalar that a number or a truth value may be read from: a plain one, or a
literal one with the tag of the type. -/
def typedText? (typeName : String) : Node → Option (List Char)
  | .scalar p style text =>
    if style = .plain ∨ (style = .literal ∧ p.tag = some (standardTag typeName)) then some text
    else none
  | _ => none

/-! ## Scalars -/

variable (anchors : Anchors)

/-- A text. -/
def decodeString (node : Node) : Decoding String := do
  match ← follow anchors node with
  | .scalar _ _ text => return String.ofList text
  | _ => failure

/-- A truth value. -/
def decodeBoolean (node : Node) : Decoding Bool := do
  present ((typedText? "bool" (← follow anchors node)).bind boolean?)

/-- A signed 64-bit number. -/
def decodeInt64 (node : Node) : Decoding Int64 := do
  return Int64.ofInt (← present ((typedText? "int" (← follow anchors node)).bind
    (signed? (UInt64.size / 2) (UInt64.size / 2))))

/-- An unsigned 64-bit number. -/
def decodeUInt64 (node : Node) : Decoding UInt64 := do
  let n ← present ((typedText? "int" (← follow anchors node)).bind (unsigned? UInt64.size))
  return UInt64.ofNat n

/-- Whether a node is nothing; `none` if it claims to be and is not. -/
def isNothing? : Node → Option Bool
  | .scalar p .plain text =>
    match p.tag with
    | none => some (text.isEmpty || isNullWord text)
    | some tag =>
      if tag = standardTag "null" then if isNullWord text then some true else none
      else some false
  | _ => some false

/-- Something, or nothing in its place. -/
def decodeOption {α : Type} (item : Node → Decoding α) (node : Node) : Decoding (Option α) := do
  let node ← follow anchors node
  if ← present (isNothing? node) then return none
  else return some (← item node)

/-- One of several names: a scalar, or a tag with nothing behind it. -/
def decodeVariant {α : Type} (ofName? : String → Option α) (node : Node) : Decoding α := do
  match ← follow anchors node with
  | .scalar p style text =>
    match localName? p.tag with
    | none => present (ofName? (String.ofList text))
    | some name =>
      if style = .plain ∧ (text.isEmpty ∨ isNullWord text) then
        present (ofName? (String.ofList name))
      else failure
  | _ => failure

/-! ## Collections -/

def decodeList {α : Type} (item : Nat → Node → Decoding α) (depth : Nat) (node : Node) :
    Decoding (List α) := do
  match ← follow anchors node with
  | .sequence _ items => enter depth fun depth => items.mapM (item depth)
  | .scalar _ .plain [] => return []
  | _ => failure

/-- The entries of a mapping, in the order of their keys; of two entries with one key the later
one counts. -/
def decodeMap {α : Type} (value : Nat → Node → Decoding α) (depth : Nat) (node : Node) :
    Decoding (List (String × α)) := do
  let add (depth : Nat) (all : List (String × α)) (entry : Node × Node) :
      Decoding (List (String × α)) := do
    let key ← decodeString anchors entry.1
    return insertEntry key (← value depth entry.2) all
  match ← follow anchors node with
  | .mapping _ entries => enter depth fun depth => entries.foldlM (add depth) []
  | .scalar _ .plain [] => return []
  | _ => failure

/-- Reads a record, given how its attributes are read into a draft. -/
def decodeRecord {Attribute Draft α : Type} (r : Record Attribute Draft α)
    (read : Nat → Attribute → Node → Draft → Decoding Draft) (depth : Nat) (node : Node) :
    Decoding α := do
  let add (depth : Nat) (draft : Draft) (entry : Node × Node) : Decoding Draft := do
    match r.ofName? (← decodeString anchors entry.1) with
    | none => return draft
    | some slot => if r.has draft slot then failure else read depth slot entry.2 draft
  let draft ← match ← follow anchors node with
    | .mapping _ entries => enter depth fun depth => entries.foldlM (add depth) r.start
    | .scalar _ .plain [] => pure r.start
    | _ => failure
  present (r.finish draft).toOption

/-! ## Any values -/

/-- A whole number, if 64 bits hold it. -/
def wholeValue (n : Int) : Option Json.Value :=
  if fits : Json.FitsWord n then some (.number (.whole n fits)) else none

/-- A number of the binary format; what is not finite counts as nothing. -/
def realValue : Option Number.Binary64 → Json.Value
  | some x => .number (.real x)
  | none => .null

/-- The value of a plain scalar. -/
def plainValue (text : List Char) : Option Json.Value :=
  match resolve text with
  | .null => some .null
  | .boolean b => some (.boolean b)
  | .whole n => wholeValue n
  | .real x => some (realValue x)
  | .text => some (.string (String.ofList text))

/-- The value of a scalar with a tag: the tags of the standard for scalars have to fit, others
stand for text. -/
def taggedValue (tag text : List Char) : Option Json.Value :=
  if tag = standardTag "bool" then (boolean? text).map .boolean
  else if tag = standardTag "int" then (whole? text).bind wholeValue
  else if tag = standardTag "float" then (real? text).map realValue
  else if tag = standardTag "null" then if isNullWord text then some .null else none
  else some (.string (String.ofList text))

/-- The value of a scalar. -/
def scalarValue (tag : Option (List Char)) (style : ScalarStyle) (text : List Char) :
    Option Json.Value :=
  match tag with
  | some tag => taggedValue tag text
  | none => if style = .plain then plainValue text else some (.string (String.ofList text))

/-- Any value, given how many collections may still be entered.  Tags of the text's own have no
meaning. -/
def decodeValue : (depth : Nat) → Node → Decoding Json.Value
  | 0, node => do
    match ← follow anchors node with
    | .scalar p style text =>
      if (localName? p.tag).isSome then failure else present (scalarValue p.tag style text)
    | _ => failure
  | depth + 1, node => do
    match ← follow anchors node with
    | .scalar p style text =>
      if (localName? p.tag).isSome then failure else present (scalarValue p.tag style text)
    | .sequence p items =>
      if (localName? p.tag).isSome then failure
      else
        let all ← items.mapM fun item => decodeValue depth item
        return .array all
    | .mapping p entries =>
      if (localName? p.tag).isSome then failure
      else
        let all ← entries.foldlM (fun all entry => do
          let key ← decodeString anchors entry.1
          return insertEntry key (← decodeValue depth entry.2) all) []
        return .object all
    | .alias _ => failure

/-! ## Whole texts -/

/-- How many collections may stand inside each other. -/
def maxDepth : Nat := 128

/-- How often aliases may be followed, in relation to the size of the text. -/
def maxFollowing : Nat := 100

/-- Reads a whole text. -/
def decodeText {α : Type} (decode : Anchors → Nat → Node → Decoding α) (text : String) :
    Option α := do
  let root ← Node.ofText? text
  (decode root.anchors maxDepth root).run' (maxFollowing * root.size)

end DynamicForms.Yaml
