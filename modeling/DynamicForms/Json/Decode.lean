import DynamicForms.Json.Outline
import DynamicForms.Json.Printer
import DynamicForms.Schema.Record
import DynamicForms.Text.Quoted

/-!
# Decoding JSON

Typed readers walk an outline in the order of its text and stop at the first fault: a break of
the text, or a `Problem`, a value of the wrong shape.  A reader knows how many containers it may
still enter; where none is left the text counts as malformed.  A record, which `Record` describes,
is an object of named attributes or an array of them in their order.
-/

set_option autoImplicit false

namespace DynamicForms.Json

/-- What stands where something else is expected. -/
inductive Found where
  | null
  | boolean (b : Bool)
  | number (n : Numeral)
  | string (s : String)
  | sequence
  | map
deriving DecidableEq, Repr

/-- How a message names what was found. -/
def Found.describe : Found → String
  | .null => "null"
  | .boolean b => "boolean `" ++ String.ofList (booleanWord b) ++ "`"
  | .number (.whole n h) => "integer `" ++ String.ofList (Numeral.whole n h).text ++ "`"
  | .number (.real x) => "floating point `" ++ String.ofList (Numeral.real x).text ++ "`"
  | .string s => "string " ++ Text.quote s
  | .sequence => "sequence"
  | .map => "map"

/-- The ways in which well-formed text has the wrong shape. -/
inductive Problem where
  | missingField (name : String)
  | duplicateField (name : String)
  | invalidType (found : Found) (expected : String)
  | invalidValue (found : Found) (expected : String)
  | invalidLength (length : Nat) (expected : String)
  | unknownVariant (name : String) (variants : List String)
  | refused (reason : String)
deriving DecidableEq, Repr

/-- Names between grave accents, as messages list them. -/
def listNames : List String → String
  | [] => "there are no variants"
  | [a] => "expected `" ++ a ++ "`"
  | [a, b] => "expected `" ++ a ++ "` or `" ++ b ++ "`"
  | names => "expected one of " ++ ", ".intercalate (names.map fun name => "`" ++ name ++ "`")

def Problem.message : Problem → String
  | .missingField name => "missing field `" ++ name ++ "`"
  | .duplicateField name => "duplicate field `" ++ name ++ "`"
  | .invalidType found expected =>
    "invalid type: " ++ found.describe ++ ", expected " ++ expected
  | .invalidValue found expected =>
    "invalid value: " ++ found.describe ++ ", expected " ++ expected
  | .invalidLength length expected =>
    "invalid length " ++ toString length ++ ", expected " ++ expected
  | .unknownVariant name variants =>
    "unknown variant `" ++ name ++ "`, " ++ listNames variants
  | .refused reason => reason

/-- Why a text is not accepted. -/
inductive Fault where
  | broken (b : Break)
  | wrong (p : Problem)
deriving DecidableEq, Repr

/-- The outcome of a reader. -/
abbrev Decoded (α : Type) := Except Fault α

/-- A break as the outcome of a reader. -/
def fail {α : Type} (b : Break) : Decoded α := .error (.broken b)

/-- A problem as the outcome of a reader. -/
def refuse {α : Type} (p : Problem) : Decoded α := .error (.wrong p)

/-- A part of a text that may be broken. -/
def intact {α : Type} : Except Break α → Decoded α
  | .ok a => .ok a
  | .error b => fail b

/-- The outcome where `expected` should stand and something else does.  Numbers and text literals
are read first and may turn out broken; arrays and objects are not looked into. -/
def mismatch {α : Type} (expected : String) : Outline → Decoded α
  | .null => refuse (.invalidType .null expected)
  | .boolean b => refuse (.invalidType (.boolean b) expected)
  | .number t => do
    let n ← intact t.value
    refuse (.invalidType (.number n) expected)
  | .string s => do
    let s ← intact s.content
    refuse (.invalidType (.string s) expected)
  | .array _ => refuse (.invalidType .sequence expected)
  | .object _ => refuse (.invalidType .map expected)
  | .torn b | .broken b => fail b

/-- A text. -/
def decodeString (expected : String) : Outline → Decoded String
  | .string s => intact s.content
  | o => mismatch expected o

/-- A truth value. -/
def decodeBoolean : Outline → Decoded Bool
  | .boolean b => .ok b
  | o => mismatch "a boolean" o

/-- A whole number of a range. -/
def decodeWhole (expected : String) (low high : Int) : Outline → Decoded Int
  | .number t => do
    match ← intact t.value with
    | .whole n fits =>
      if low ≤ n ∧ n < high then .ok n
      else refuse (.invalidValue (.number (.whole n fits)) expected)
    | .real x => refuse (.invalidType (.number (.real x)) expected)
  | o => mismatch expected o

/-- A signed 64-bit number. -/
def decodeInt64 (o : Outline) : Decoded Int64 :=
  (decodeWhole "i64" (-9223372036854775808) 9223372036854775808 o).map Int64.ofInt

/-- An unsigned 64-bit number. -/
def decodeUInt64 (o : Outline) : Decoded UInt64 :=
  (decodeWhole "usize" 0 18446744073709551616 o).map fun n => UInt64.ofNat n.toNat

/-- Something, or `null` in its place. -/
def decodeOption {α : Type} (item : Outline → Decoded α) : Outline → Decoded (Option α)
  | .null => .ok none
  | o => (item o).map some

/-- Enters a container, given how many may still be entered. -/
def enter {α : Type} (depth : Nat) (inside : Nat → Decoded α) : Decoded α :=
  match depth with
  | 0 => fail .malformed
  | depth + 1 => inside depth

/-- The items of an array. -/
def decodeItems {α : Type} (item : Outline → Decoded α) : Items → Decoded (List α)
  | .closed => .ok []
  | .broken b => fail b
  | .next o rest => do
    let x ← item o
    let xs ← decodeItems item rest
    return x :: xs

/-- An array. -/
def decodeList {α : Type} (item : Nat → Outline → Decoded α) (depth : Nat) :
    Outline → Decoded (List α)
  | .array items => enter depth fun depth => decodeItems (item depth) items
  | o => mismatch "a sequence" o

mutual
/-- Any value. -/
def decodeValue (depth : Nat) : Outline → Decoded Value
  | .null => .ok .null
  | .boolean b => .ok (.boolean b)
  | .number t => (intact t.value).map .number
  | .string s => (intact s.content).map .string
  | .array items => enter depth fun depth => (decodeValues depth items).map .array
  | .object entries => enter depth fun depth => (decodeEntries depth entries []).map .object
  | .torn b | .broken b => fail b

/-- The items of an array of any values. -/
def decodeValues (depth : Nat) : Items → Decoded (List Value)
  | .closed => .ok []
  | .broken b => fail b
  | .next o rest => do
    let v ← decodeValue depth o
    let vs ← decodeValues depth rest
    return v :: vs

/-- Enters the entries of an object into those that are there; a later entry replaces an earlier
one of the same key. -/
def decodeEntries (depth : Nat) :
    Entries → List (String × Value) → Decoded (List (String × Value))
  | .closed, all => .ok all
  | .broken b, _ => fail b
  | .odd _, _ => fail .malformed
  | .next key o rest, all => do
    let key ← intact key.content
    let v ← decodeValue depth o
    decodeEntries depth rest (insertEntry key v all)
end

/-- The entries of an object, in the order of their keys. -/
def decodeMap (depth : Nat) : Outline → Decoded (List (String × Value))
  | .object entries => enter depth fun depth => decodeEntries depth entries []
  | o => mismatch "a map" o

/-- One of several names: a text literal, or an object with that key and `null` under it. -/
def decodeVariant {α : Type} (variants : List String) (ofName? : String → Option α)
    (depth : Nat) : Outline → Decoded α
  | .string s => do named (← intact s.content)
  | .object entries => enter depth fun _ =>
    match entries with
    | .closed => fail .malformed
    | .broken b => fail b
    | .odd o => mismatch "variant identifier" o
    | .next key o rest => do
      let a ← named (← intact key.content)
      match o with
      | .null => pure ()
      | o => mismatch "unit" o
      match rest with
      | .closed => return a
      | .broken b => fail b
      | .odd _ | .next .. => fail .malformed
  | .broken b => fail b
  | _ => fail .malformed
where
  /-- The variant of a name. -/
  named (name : String) : Decoded α :=
    match ofName? name with
    | some a => .ok a
    | none => refuse (.unknownVariant name variants)

variable {Attribute Draft α : Type}

/-- How the attributes of a record are read into a draft, given how many containers may still be
entered. -/
abbrev ReadAttribute (Attribute Draft : Type) := Nat → Attribute → Outline → Draft → Decoded Draft

/-- Reads the entries of an object into a draft. -/
def decodeAttributes (r : Record Attribute Draft α) (read : ReadAttribute Attribute Draft)
    (depth : Nat) : Entries → Draft → Decoded α
  | .closed, draft =>
    match r.finish draft with
    | .ok a => .ok a
    | .error missing => refuse (.missingField (r.name missing))
  | .broken b, _ => fail b
  | .odd _, _ => fail .malformed
  | .next key o rest, draft => do
    match r.ofName? (← intact key.content) with
    | none =>
      match o.fault with
      | some b => fail b
      | none => decodeAttributes r read depth rest draft
    | some slot =>
      if r.has draft slot then refuse (.duplicateField (r.name slot))
      else
        let draft ← read depth slot o draft
        decodeAttributes r read depth rest draft

/-- Reads the items of an array into a draft, one for each attribute that is left. -/
def decodePositions (r : Record Attribute Draft α) [DecidableEq Attribute]
    (read : ReadAttribute Attribute Draft) (depth : Nat) :
    List Attribute → Items → Draft → Decoded α
  | _, .closed, draft =>
    match r.finish draft with
    | .ok a => .ok a
    | .error missing =>
      refuse (.invalidLength (r.attributes.idxOf missing)
        (r.title ++ " with " ++ toString r.attributes.length ++ " elements"))
  | _, .broken b, _ => fail b
  | [], .next _ _, _ => fail .malformed
  | slot :: slots, .next o rest, draft => do
    let draft ← read depth slot o draft
    decodePositions r read depth slots rest draft

/-- Reads a record: an object of named attributes, or an array of them in their order. -/
def decodeRecord (r : Record Attribute Draft α) [DecidableEq Attribute]
    (read : ReadAttribute Attribute Draft) (depth : Nat) : Outline → Decoded α
  | .object entries => enter depth fun depth => decodeAttributes r read depth entries r.start
  | .array items => enter depth fun depth => decodePositions r read depth r.attributes items r.start
  | o => mismatch r.title o

/-- How many containers may stand inside each other. -/
def maxDepth : Nat := 127

/-- Reads a whole text: one value with nothing but blanks behind it. -/
def decodeText {α : Type} (decode : Nat → Outline → Decoded α) (text : String) : Decoded α := do
  let (outline, rest) := Outline.ofText text.toList
  let a ← decode maxDepth outline
  if (rest.map skipSpaces) = some [] then return a else fail .malformed

/-- The value a text holds. -/
def Value.ofText (text : String) : Decoded Value := decodeText decodeValue text

end DynamicForms.Json
