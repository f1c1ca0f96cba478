/-!
# Conditions

A condition belongs to a field and watches another one, its trigger.  When the trigger's value
stands in the operator's relation to the comparison value, the action is carried out on the
field: it is shown or hidden, enabled or disabled.
-/

set_option autoImplicit false

namespace DynamicForms

/-- How a condition compares. -/
inductive Operator where
  | equals
  | notEquals
  | contains
  | greaterThan
  | lessThan
  | isEmpty
  | isNotEmpty
deriving DecidableEq, Repr

namespace Operator

def all : List Operator :=
  [.equals, .notEquals, .contains, .greaterThan, .lessThan, .isEmpty, .isNotEmpty]

/-- The name of an operator in descriptors. -/
def name : Operator → String
  | .equals => "equals"
  | .notEquals => "notEquals"
  | .contains => "contains"
  | .greaterThan => "greaterThan"
  | .lessThan => "lessThan"
  | .isEmpty => "isEmpty"
  | .isNotEmpty => "isNotEmpty"

/-- All spellings that are read, each operator's name followed by its other spelling. -/
def spellings : List String :=
  ["equals", "notEquals", "not_equals", "contains", "greaterThan", "greater_than", "lessThan",
    "less_than", "isEmpty", "is_empty", "isNotEmpty", "is_not_empty"]

/-- The operator of a name in either spelling. -/
def ofName? : String → Option Operator
  | "equals" => some .equals
  | "notEquals" | "not_equals" => some .notEquals
  | "contains" => some .contains
  | "greaterThan" | "greater_than" => some .greaterThan
  | "lessThan" | "less_than" => some .lessThan
  | "isEmpty" | "is_empty" => some .isEmpty
  | "isNotEmpty" | "is_not_empty" => some .isNotEmpty
  | _ => none

/-- Whether the operator is of no use without a comparison value. -/
def needsComparisonValue : Operator → Bool
  | .contains | .greaterThan | .lessThan => true
  | _ => false

theorem ofName?_name (o : Operator) : ofName? o.name = some o := by cases o <;> rfl

end Operator

/-- The two states of a field that conditions drive. -/
inductive Axis where
  | visibility
  | enablement
deriving DecidableEq, Repr

def Axis.name : Axis → String
  | .visibility => "visibility"
  | .enablement => "enablement"

/-- What happens to a field when a condition holds. -/
inductive Action where
  | reveal
  | hide
  | enable
  | disable
deriving DecidableEq, Repr

namespace Action

/-- The name of an action in descriptors. -/
def name : Action → String
  | .reveal => "show"
  | .hide => "hide"
  | .enable => "enable"
  | .disable => "disable"

/-- The names of the actions. -/
def names : List String := ["show", "hide", "enable", "disable"]

def ofName? : String → Option Action
  | "show" => some .reveal
  | "hide" => some .hide
  | "enable" => some .enable
  | "disable" => some .disable
  | _ => none

/-- The state an action drives. -/
def axis : Action → Axis
  | .reveal | .hide => .visibility
  | .enable | .disable => .enablement

/-- The value an action gives to the state it drives. -/
def outcome : Action → Bool
  | .reveal | .enable => true
  | .hide | .disable => false

theorem ofName?_name (a : Action) : ofName? a.name = some a := by cases a <;> rfl

end Action

/-- A condition of a field. -/
structure Condition where
  /-- The id of the field whose value is looked at. -/
  trigger : String
  operator : Operator
  /-- The text the value is compared with. -/
  value : Option String
  action : Action
deriving DecidableEq, Repr

end DynamicForms
