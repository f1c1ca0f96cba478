import DynamicForms.Logic.Compare
import DynamicForms.Schema.Condition
import DynamicForms.Schema.Form

/-!
# Conditions on forms

Whether a condition holds for a form.  Only the value of the condition's trigger is looked at, and
nothing can go wrong: what cannot be compared does not hold.
-/

set_option autoImplicit false

namespace DynamicForms.Logic

open Json (Value)

/-- Equality without regard to case; `null` equals only the absence of a comparison value. -/
def textEquals (value : Value) (expected : Option String) : Bool :=
  match value.text?, expected with
  | none, none => true
  | some actual, some expected => Text.lowerCase actual == Text.lowerCase expected.toList
  | _, _ => false

/-- Whether the comparison value occurs in a text without regard to case. -/
def textContains (needle : String) (text : List Char) : Bool :=
  occursIn (Text.lowerCase needle.toList) (Text.lowerCase text)

/-- Whether a value contains the comparison value; for an array, whether one of its items
does. -/
def valueContains (value : Value) (expected : Option String) : Bool :=
  match expected with
  | none => false
  | some needle =>
    match value with
    | .array items => (Value.itemTexts items).any (textContains needle)
    | v => v.text?.any (textContains needle)

/-- The order of a value and the comparison value, if there are both. -/
def valueOrder (value : Value) (expected : Option String) : Option Ordering :=
  match value.text?, expected with
  | some actual, some expected => some (compareTexts actual expected.toList)
  | _, _ => none

/-- Whether a value stands in an operator's relation to a comparison value. -/
def holdsFor (operator : Operator) (value : Value) (expected : Option String) : Bool :=
  match operator with
  | .equals => textEquals value expected
  | .notEquals => !textEquals value expected
  | .contains => valueContains value expected
  | .greaterThan => valueOrder value expected == some .gt
  | .lessThan => valueOrder value expected == some .lt
  | .isEmpty => value.isBlank
  | .isNotEmpty => !value.isBlank

end DynamicForms.Logic

namespace DynamicForms

def Condition.holds (c : Condition) (form : Form) : Bool :=
  Logic.holdsFor c.operator (Form.value form c.trigger) c.value

end DynamicForms
