import DynamicForms.Number.Literal

/-!
# What plain scalars stand for

A plain scalar is text unless it is one of the words for nothing, true and false, or a number.
Whole numbers may be written in the bases two, eight, ten and sixteen and have up to 128 bits.
`resolve` decides between these, `PlainScalar` is the outcome.
-/

set_option autoImplicit false

namespace DynamicForms.Yaml

/-- What a plain scalar stands for. -/
inductive PlainScalar where
  | null
  | boolean (b : Bool)
  | whole (n : Int)
  /-- A number of the binary 64-bit format; none is infinite or not a number. -/
  | real (x : Option Number.Binary64)
  | text
deriving DecidableEq

/-- The words for nothing. -/
def isNullWord (text : List Char) : Bool :=
  ["null", "Null", "NULL", "~"].contains (String.ofList text)

/-- The words for truth values. -/
def boolean? (text : List Char) : Option Bool :=
  match String.ofList text with
  | "true" | "True" | "TRUE" => some true
  | "false" | "False" | "FALSE" => some false
  | _ => none

/-- A text without its first plus sign. -/
def dropPlus : List Char → List Char
  | '+' :: rest => rest
  | text => text

/-- Whether a text starts with a sign. -/
def isSigned : List Char → Bool
  | '+' :: _ | '-' :: _ => true
  | _ => false

/-- Whether a text is a run of digits that starts with a needless zero, with or without a sign. -/
def isPadded (text : List Char) : Bool :=
  match (Number.splitSign text).2 with
  | '0' :: c :: rest => (c :: rest).all Char.isDigit
  | _ => false

/-- The value of a character as a digit. -/
def digitOf? (base : Nat) (c : Char) : Option Nat :=
  let n :=
    if c.isDigit then c.toNat - '0'.toNat
    else if 'a' ≤ c ∧ c ≤ 'f' then c.toNat - 'a'.toNat + 10
    else if 'A' ≤ c ∧ c ≤ 'F' then c.toNat - 'A'.toNat + 10
    else base
  if n < base then some n else none

/-- The number that digits of a base stand for. -/
def natural? (base : Nat) (ds : List Char) : Option Nat :=
  if ds.isEmpty then none
  else ds.foldlM (fun n c => (digitOf? base c).map (base * n + ·)) 0

/-- The number that digits stand for, the base being marked in front of them. -/
def basedNatural? : List Char → Option Nat
  | '0' :: 'x' :: ds => natural? 16 ds
  | '0' :: 'o' :: ds => natural? 8 ds
  | '0' :: 'b' :: ds => natural? 2 ds
  | ds => natural? 10 ds

/-- The whole number below a limit that a text without a minus stands for. -/
def unsigned? (limit : Nat) (text : List Char) : Option Nat :=
  if isPadded text then none else (basedNatural? (dropPlus text)).filter (· < limit)

/-- The magnitude up to a limit of the number that a text with a minus stands for. -/
def negated? (limit : Nat) (text : List Char) : Option Nat :=
  match text with
  | '-' :: rest => if isPadded text then none else (basedNatural? rest).filter (· ≤ limit)
  | _ => none

/-- The whole number that a text stands for, if it is below a limit, or not below the opposite of
another one. -/
def signed? (limit opposite : Nat) (text : List Char) : Option Int :=
  match unsigned? limit text with
  | some n => some n
  | none => (negated? opposite text).map fun n => -(n : Int)

/-- The number of the binary format that a text stands for. -/
def real? (text : List Char) : Option (Option Number.Binary64) :=
  if [".inf", ".Inf", ".INF", "-.inf", "-.Inf", "-.INF", "+.inf", "+.Inf", "+.INF", ".nan",
      ".NaN", ".NAN"].contains (String.ofList text) then some none
  else
    let rest := dropPlus text
    if rest.length < text.length ∧ isSigned rest then none
    else (Number.readReal rest).map some

/-- The whole number that a text stands for, if it is in the signed or the unsigned 128-bit
range. -/
def whole? : List Char → Option Int := signed? (Nat.pow 2 128) (Nat.pow 2 127)

/-- What a plain scalar stands for. -/
def resolve (text : List Char) : PlainScalar :=
  if text.isEmpty ∨ isNullWord text then .null
  else
    match boolean? text with
    | some b => .boolean b
    | none =>
      match whole? text with
      | some n => .whole n
      | none =>
        if isPadded text then .text
        else
          match real? text with
          | some x => .real x
          | none => .text

end DynamicForms.Yaml
