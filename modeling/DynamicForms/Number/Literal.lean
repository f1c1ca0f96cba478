import DynamicForms.Number.Shortest

/-!
# Decimal literals

Numbers as people write them: an optional sign, digits with an optional point among or around
them, and an optional exponent.  `readReal` reads such a text as a number of the binary 64-bit
format, rounded to nearest; a text whose value is too large for the format is no number.
-/

set_option autoImplicit false

namespace DynamicForms.Number

/-- The value of a run of decimal digits. -/
def digitsValue (ds : List Char) : Nat :=
  ds.foldl (fun n c => 10 * n + (c.toNat - '0'.toNat)) 0

/-- Whether a text is a non-empty run of decimal digits. -/
def isDigits (ds : List Char) : Bool := !ds.isEmpty && ds.all Char.isDigit

/-- A sign in front of a text, as whether it is a minus, and what follows. -/
def splitSign : List Char → Bool × List Char
  | '-' :: rest => (true, rest)
  | '+' :: rest => (false, rest)
  | text => (false, text)

/-- The exponent part of a literal; nothing at all is the exponent zero. -/
def readExponent : List Char → Option Int
  | [] => some 0
  | c :: rest =>
    if c = 'e' ∨ c = 'E' then
      let (negative, ds) := splitSign rest
      if isDigits ds then some (if negative then -(digitsValue ds : Int) else digitsValue ds)
      else none
    else none

def readUnsigned (text : List Char) : Option Decimal :=
  let whole := text.takeWhile Char.isDigit
  let (fraction, tail) := match text.dropWhile Char.isDigit with
    | '.' :: rest => (rest.takeWhile Char.isDigit, rest.dropWhile Char.isDigit)
    | rest => ([], rest)
  if whole.isEmpty && fraction.isEmpty then none
  else (readExponent tail).map fun e => ⟨digitsValue (whole ++ fraction), e - fraction.length⟩

/-- The number a literal stands for. -/
def readReal (text : List Char) : Option Binary64 :=
  let (negative, rest) := splitSign text
  (readUnsigned rest).bind fun x =>
    (Binary64.ofDecimal x.digits x.exponent).map fun units => ⟨negative, units⟩

end DynamicForms.Number
