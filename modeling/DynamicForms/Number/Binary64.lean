/-!
# Binary floating point

Finite numbers of the binary 64-bit format, kept exactly: every such number is a whole multiple
of the smallest positive one, the unit `2 ^ -1074`.  All rounding is done by one
function, `roundQuotient`, which rounds a fraction of units to the nearest number of the format,
a tie going to the neighbour whose significand is even.
-/

set_option autoImplicit false

namespace DynamicForms.Number

/-- `n / d` rounded to the nearest whole number, a tie going to the even neighbour. -/
def divNearest (n d : Nat) : Nat :=
  let q := n / d
  let r := n % d
  if 2 * r < d then q
  else if d < 2 * r then q + 1
  else if q % 2 = 0 then q else q + 1

/-- A finite number of the binary 64-bit format: its sign and its distance from zero in units. -/
structure Binary64 where
  negative : Bool
  units : Nat
deriving DecidableEq, Repr

namespace Binary64

/-- The number of units in one. -/
def one : Nat := Nat.pow 2 1074

/-- The power of two that is the weight of the last bit of a magnitude: the significand has
53 bits, or fewer near zero. -/
def lastBit (units : Nat) : Nat := if units < Nat.pow 2 53 then 0 else Nat.log2 units - 52

/-- The magnitude nearest to `n / d` units; `none` when it is too large for the format. -/
def roundQuotient (n d : Nat) : Option Nat :=
  let shift := lastBit (n / d)
  let units := divNearest n (d * Nat.pow 2 shift) * Nat.pow 2 shift
  if units < Nat.pow 2 2098 then some units else none

/-- The magnitude nearest to a whole number. -/
def ofNat (n : Nat) : Option Nat := roundQuotient (n * one) 1

/-- The product of two magnitudes. -/
def mul (a b : Nat) : Option Nat := roundQuotient (a * b) one

/-- The quotient of two magnitudes. -/
def div (a b : Nat) : Option Nat := roundQuotient (a * one) b

/-- The magnitude nearest to `n * 10 ^ e`.  Exponents far outside the format's range are decided
by the number of digits alone. -/
def ofDecimal (n : Nat) (e : Int) : Option Nat :=
  if n = 0 then some 0
  else
    let magnitude := (Nat.toDigits 10 n).length + e
    if 400 < magnitude then none
    else if magnitude < -400 then some 0
    else if 0 ≤ e then roundQuotient (n * Nat.pow 10 e.toNat * one) 1
    else roundQuotient (n * one) (Nat.pow 10 (-e).toNat)

/-- The number as a whole count of units; both zeros are zero. -/
def toInt (x : Binary64) : Int := if x.negative then -x.units else x.units

end Binary64

end DynamicForms.Number
