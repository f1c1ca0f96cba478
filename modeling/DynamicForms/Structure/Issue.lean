import DynamicForms.Schema.Field
import DynamicForms.Text.Quoted

/-!
# Structural issues

What can be wrong with the structure of a module.  A finding is kept as its cause; `Finding.code`
names it for programs and `Issue.message` for people.
-/

set_option autoImplicit false

namespace DynamicForms

/-- The kinds of findings, those that are errors first. -/
inductive FindingKind where
  | duplicateId
  | unresolvedParent
  | selfParent
  | parentCycle
  | unknownTrigger
  | selfTrigger
  | missingComparisonValue
  | lengthBoundsInverted
  | deepNesting
deriving DecidableEq, Repr

namespace FindingKind

def all : List FindingKind :=
  [.duplicateId, .unresolvedParent, .selfParent, .parentCycle, .unknownTrigger, .selfTrigger,
    .missingComparisonValue, .lengthBoundsInverted, .deepNesting]

def code : FindingKind → String
  | .duplicateId => "DUPLICATE_ID"
  | .unresolvedParent => "UNRESOLVED_PARENT"
  | .selfParent => "SELF_PARENT"
  | .parentCycle => "PARENT_CYCLE"
  | .unknownTrigger => "UNKNOWN_TRIGGER"
  | .selfTrigger => "SELF_TRIGGER"
  | .missingComparisonValue => "MISSING_COMPARISON_VALUE"
  | .lengthBoundsInverted => "LENGTH_BOUNDS_INVERTED"
  | .deepNesting => "DEEP_NESTING"

end FindingKind

/-- What was found at a field. -/
inductive Finding where
  /-- The field's id is declared more than once. -/
  | duplicateId
  /-- The parent is no field of the module. -/
  | unresolvedParent (parent : String)
  /-- The field is its own parent. -/
  | selfParent
  /-- Following parents leads back to the field; the ids on the way, the first one once. -/
  | parentCycle (ids : List String)
  /-- The trigger of a condition is no field of the module. -/
  | unknownTrigger (trigger : String)
  /-- The field triggers a condition of its own. -/
  | selfTrigger (action : Action)
  /-- A condition lacks the value its operator needs. -/
  | missingComparisonValue (operator : Operator)
  /-- The least length is above the greatest. -/
  | lengthBoundsInverted (min max : UInt64)
  /-- The field is nested too deeply. -/
  | deepNesting (depth : Nat) (limit : UInt64)
deriving DecidableEq, Repr

def Finding.kind : Finding → FindingKind
  | .duplicateId => .duplicateId
  | .unresolvedParent _ => .unresolvedParent
  | .selfParent => .selfParent
  | .parentCycle _ => .parentCycle
  | .unknownTrigger _ => .unknownTrigger
  | .selfTrigger _ => .selfTrigger
  | .missingComparisonValue _ => .missingComparisonValue
  | .lengthBoundsInverted .. => .lengthBoundsInverted
  | .deepNesting .. => .deepNesting

def Finding.code (f : Finding) : String := f.kind.code

/-- A finding at a field. -/
structure Issue where
  field : String
  finding : Finding
deriving DecidableEq, Repr

namespace Issue

/-- What people are told about an issue. -/
def message (issue : Issue) : String :=
  match issue.finding with
  | .duplicateId => "field id " ++ Text.quote issue.field ++ " is declared more than once"
  | .unresolvedParent parent => "parent " ++ Text.quote parent ++ " does not exist in module"
  | .selfParent => "field lists itself as its parent"
  | .parentCycle ids => "parent cycle: " ++ " -> ".intercalate (ids ++ ids.take 1)
  | .unknownTrigger trigger =>
    "condition trigger " ++ Text.quote trigger ++ " does not exist in module"
  | .selfTrigger action => action.name ++ " condition is triggered by the field itself"
  | .missingComparisonValue operator => operator.name ++ " condition has no comparison value"
  | .lengthBoundsInverted min max =>
    "min_length " ++ toString min ++ " exceeds max_length " ++ toString max
  | .deepNesting depth limit => "depth " ++ toString depth ++ " exceeds " ++ toString limit

/-- An issue on one line. -/
def text (issue : Issue) : String :=
  "[" ++ issue.finding.code ++ "] " ++ issue.field ++ ": " ++ issue.message

end Issue

end DynamicForms
