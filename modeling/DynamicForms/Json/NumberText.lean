import DynamicForms.Json.Value
import DynamicForms.Number.Literal

/-!
# Numbers in JSON text

The parts of a number as it is written, and its value.  A number without fraction and exponent
that fits 64 bits is whole; all others are numbers of the binary format.  Their value is built in
two rounded steps: the leading digits that fit 64 bits are taken as a number of the format, which
is then multiplied or divided by a power of ten.  A value too large for the format is no number.
-/

set_option autoImplicit false

namespace DynamicForms.Json

/-- Why a text ends to be JSON: something stands where it may not, or the text is over too
early. -/
inductive Break where
  | malformed
  | unfinished
deriving DecidableEq, Repr

/-- A number as it is written. -/
structure NumberText where
  negative : Bool
  whole : List Char
  fraction : Option (List Char)
  /-- The sign and the digits of the exponent. -/
  exponent : Option (Bool × List Char)
deriving DecidableEq, Repr

namespace NumberText

/-- Takes digits into a significand as long as it stays below `2 ^ 64`; what is left over comes
second. -/
def takeDigits : Nat → List Char → Nat × List Char
  | s, [] => (s, [])
  | s, c :: rest =>
    let next := 10 * s + (c.toNat - '0'.toNat)
    if next < UInt64.size then takeDigits next rest else (s, c :: rest)

/-- The magnitude `units * 10 ^ e` in rounded steps of at most 308 places; `none` when it is too
large. -/
def scale : (steps units : Nat) → Int → Option Nat
  | 0, _, _ => some 0
  | steps + 1, units, e =>
    if e.natAbs ≤ 308 then
      (Number.Binary64.ofNat (Nat.pow 10 e.natAbs)).bind fun power =>
        if 0 ≤ e then Number.Binary64.mul units power else Number.Binary64.div units power
    else if units = 0 then some 0
    else if 0 ≤ e then none
    else
      ((Number.Binary64.ofNat (Nat.pow 10 308)).bind
        (Number.Binary64.div units)).bind fun quotient =>
        scale steps quotient (e + 308)

/-- The number of the binary format with the given significand and decimal exponent. -/
def realOf (negative : Bool) (significand : Nat) (e : Int) : Except Break Numeral :=
  match (Number.Binary64.ofNat significand).bind fun units => scale 4 units e with
  | some units => .ok (.real ⟨negative, units⟩)
  | none => .error .malformed

/-- The largest exponent that is looked at; beyond it the sign of the exponent decides. -/
def maxExponent : Nat := 2147483647

/-- The number of the binary format that a text with a fraction, an exponent or very many digits
stands for. -/
def realValue (t : NumberText) : Except Break Numeral :=
  let (s, dropped) := takeDigits 0 t.whole
  let (significand, rest) := takeDigits s (t.fraction.getD [])
  let places := (t.fraction.getD []).length - rest.length
  let start : Int := dropped.length - places
  match t.exponent with
  | none => realOf t.negative significand start
  | some (minus, ds) =>
    let e := Number.digitsValue ds
    if maxExponent < e then
      if significand ≠ 0 ∧ !minus then .error .malformed else .ok (.real ⟨t.negative, 0⟩)
    else realOf t.negative significand (if minus then start - e else start + e)

/-- The numeral a text stands for. -/
def value (t : NumberText) : Except Break Numeral :=
  if t.fraction.isNone && t.exponent.isNone then
    let n := Number.digitsValue t.whole
    let m : Int := if t.negative then -n else n
    if h : FitsWord m ∧ (t.negative = true → n ≠ 0) then .ok (.whole m h.1)
    else t.realValue
  else t.realValue

end NumberText

end DynamicForms.Json
