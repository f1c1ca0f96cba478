import DynamicForms.Number.Binary64

/-!
# Shortest decimals

A number of the binary 64-bit format is written with the fewest decimal digits that still read
back as the number, and among those with the digits nearest to it.  `shortest` finds the digits
with whole-number arithmetic; `Layout` lays them out.  `twoPlaces` writes a number with exactly
two digits after the point instead.
-/

set_option autoImplicit false

namespace DynamicForms.Number

def decimalDigits (n : Nat) : List Char := Nat.toDigits 10 n

/-- A decimal fraction: `digits * 10 ^ exponent`. -/
structure Decimal where
  digits : Nat
  exponent : Int
deriving DecidableEq, Repr

/-- How many times `n` must be multiplied by ten until it reaches `d`. -/
def tensBelow (d : Nat) : (steps n : Nat) → Nat
  | 0, _ => 0
  | steps + 1, n => if d ≤ n then 0 else tensBelow d steps (10 * n) + 1

/-- The exponent of the first decimal digit of a positive magnitude. -/
def leadingExponent (units : Nat) : Int :=
  if Binary64.one ≤ units then (decimalDigits (units / Binary64.one)).length - 1
  else -(tensBelow Binary64.one 400 units : Int)

/-- The decimal of a given exponent that lies among the reals which round to the magnitude and
is nearest to it.  Magnitudes are compared in quarters of a unit, so that the ends of the
interval are whole; the ends belong to it when the significand is even. -/
def nearestAt (units : Nat) (exponent : Int) : Option Decimal :=
  let gap := Nat.pow 2 (Binary64.lastBit units)
  let significand := units / gap
  let value := 4 * units
  let low := value - (if significand = Nat.pow 2 52 ∧ 1 < gap then gap else 2 * gap)
  let high := value + 2 * gap
  let grid :=
    if 0 ≤ exponent then 4 * Binary64.one * Nat.pow 10 exponent.toNat else 4 * Binary64.one
  let scale := if 0 ≤ exponent then 1 else Nat.pow 10 (-exponent).toNat
  let inside (d : Nat) : Bool :=
    if significand % 2 = 0 then low * scale ≤ d * grid && d * grid ≤ high * scale
    else low * scale < d * grid && d * grid < high * scale
  let below := value * scale / grid
  let above := below + 1
  let toBelow := value * scale - below * grid
  let toAbove := above * grid - value * scale
  let belowFirst := if toBelow = toAbove then below % 2 == 0 else toBelow < toAbove
  if inside below && (belowFirst || !inside above) then some ⟨below, exponent⟩
  else if inside above then some ⟨above, exponent⟩
  else none

/-- Moves up to `steps` zeros at the end of the digits into the exponent. -/
def Decimal.trimZeros (x : Decimal) : (steps : Nat) → Decimal
  | 0 => x
  | steps + 1 =>
    if x.digits % 10 = 0 then Decimal.trimZeros ⟨x.digits / 10, x.exponent + 1⟩ steps else x

/-- The shortest decimal that reads back as a positive magnitude.  A grid may offer a power of
ten that belongs to a coarser one, hence the trimming. -/
def shortest (units : Nat) : Decimal :=
  let found := (List.range 17).findSome? fun (n : Nat) =>
    nearestAt units (leadingExponent units - n)
  (found.getD ⟨0, 0⟩).trimZeros 17

/-- How the digits of a number are laid out; the plain range is common to all layouts. -/
structure Layout where
  /-- Whether a positive exponent carries a plus sign. -/
  plusSign : Bool

/-- Zeros in a row. -/
def zeros (n : Nat) : List Char := List.replicate n '0'

/-- The layout of a positive decimal.  When the exponent of its first digit is from -5 to 15 the
number stands in full with at least one digit after the point; otherwise an exponent follows. -/
def Layout.digits (style : Layout) (x : Decimal) : List Char :=
  let ds := decimalDigits x.digits
  let leading := x.exponent + (ds.length - 1 : Nat)
  if -5 ≤ leading ∧ leading ≤ 15 then
    if 0 ≤ x.exponent then ds ++ zeros x.exponent.toNat ++ ['.', '0']
    else if 0 ≤ leading then
      ds.take (leading.toNat + 1) ++ '.' :: ds.drop (leading.toNat + 1)
    else '0' :: '.' :: zeros ((-leading).toNat - 1) ++ ds
  else
    let fraction := if ds.length = 1 then [] else '.' :: ds.drop 1
    let sign := if leading < 0 then ['-'] else if style.plusSign then ['+'] else []
    ds.take 1 ++ fraction ++ 'e' :: sign ++ decimalDigits leading.natAbs

/-- The text of a number: a sign when it is negative, and `0.0` for zero. -/
def Layout.text (style : Layout) (x : Binary64) : List Char :=
  let magnitude := if x.units = 0 then ['0', '.', '0'] else style.digits (shortest x.units)
  if x.negative then '-' :: magnitude else magnitude

/-- A magnitude with exactly two digits after the point, a tie going to the even digit. -/
def twoPlaces (units : Nat) : List Char :=
  let hundredths := divNearest (100 * units) Binary64.one
  let rest := hundredths % 100
  decimalDigits (hundredths / 100) ++ '.' :: decimalDigits (rest / 10) ++ decimalDigits (rest % 10)

end DynamicForms.Number
