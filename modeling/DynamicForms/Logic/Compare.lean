import DynamicForms.Text.LowerCase
import DynamicForms.Time.Reading

/-!
# Comparing texts

The order in which conditions see two texts: as numbers when both are numbers, else as moments
when both are moments, else character by character.  Blanks around numbers and moments do not
count.
-/

set_option autoImplicit false

namespace DynamicForms.Logic

/-- The number a text stands for, in units of the binary format. -/
def readNumber (text : List Char) : Option Int :=
  (Number.readReal (Text.trim text)).map Number.Binary64.toInt

/-- The moment a text stands for. -/
def readMoment (text : List Char) : Option Time.Moment := Time.readMoment (Text.trim text)

/-- The order of texts by the numbers of their characters. -/
def compareChars : List Char → List Char → Ordering
  | [], [] => .eq
  | [], _ :: _ => .lt
  | _ :: _, [] => .gt
  | a :: as, b :: bs =>
    match compare a.toNat b.toNat with
    | .eq => compareChars as bs
    | order => order

/-- The order of two texts. -/
def compareTexts (left right : List Char) : Ordering :=
  match readNumber left, readNumber right with
  | some a, some b => compare a b
  | _, _ =>
    match readMoment left, readMoment right with
    | some a, some b => a.compare b
    | _, _ => compareChars left right

/-- Whether a text occurs in another one. -/
def occursIn (part : List Char) : List Char → Bool
  | [] => part.isEmpty
  | c :: rest => part.isPrefixOf (c :: rest) || occursIn part rest

end DynamicForms.Logic
