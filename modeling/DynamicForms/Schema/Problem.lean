import DynamicForms.Schema.Condition
import DynamicForms.Schema.Config
import DynamicForms.Schema.Kind
import DynamicForms.Text.Quoted

/-!
# What can be wrong with parts of a descriptor

Names that stand for nothing, and settings that make no sense, each with its message; `parse`
reads a name and `check` looks at settings.
-/

set_option autoImplicit false

namespace DynamicForms

/-- A fault of a name or a setting. -/
inductive SchemaProblem where
  | unknownOperator (name : String)
  | unknownAction (name : String)
  | emptyKind
  /-- A warning is asked for beyond the depth zero. -/
  | noDepth
deriving DecidableEq, Repr

def SchemaProblem.message : SchemaProblem → String
  | .unknownOperator name => "unknown conditional operator: " ++ Text.quote name
  | .unknownAction name => "unknown conditional action: " ++ Text.quote name
  | .emptyKind => "field kind must not be empty"
  | .noDepth => "invalid configuration: max_depth_warning must be at least 1"

def Operator.parse (name : String) : Except SchemaProblem Operator :=
  match Operator.ofName? name with
  | some operator => .ok operator
  | none => .error (.unknownOperator name)

def Action.parse (name : String) : Except SchemaProblem Action :=
  match Action.ofName? name with
  | some action => .ok action
  | none => .error (.unknownAction name)

def Kind.parse (name : String) : Except SchemaProblem Kind :=
  match Kind.ofName? name with
  | some kind => .ok kind
  | none => .error .emptyKind

/-- The settings themselves, if they make sense. -/
def Config.check (config : Config) : Except SchemaProblem Config :=
  if config.isValid then .ok config else .error .noDepth

end DynamicForms
