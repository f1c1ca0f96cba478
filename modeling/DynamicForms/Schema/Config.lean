/-!
# Configuration

What a host can choose about the engine.  Everything has a default, so that an empty
configuration is the standard one.
-/

set_option autoImplicit false

namespace DynamicForms

/-- What a rule does that cannot be evaluated. -/
inductive FaultPolicy where
  /-- The value passes. -/
  | failOpen
  /-- The fault is reported as an error of the field. -/
  | report
deriving DecidableEq, Repr

namespace FaultPolicy

def name : FaultPolicy → String
  | .failOpen => "fail_open"
  | .report => "report"

/-- The names of the policies. -/
def names : List String := ["fail_open", "report"]

def ofName? : String → Option FaultPolicy
  | "fail_open" => some .failOpen
  | "report" => some .report
  | _ => none

end FaultPolicy

/-- The settings of the engine. -/
structure Config where
  faultPolicy : FaultPolicy := .failOpen
  /-- The depth beyond which nesting draws a warning. -/
  maxDepthWarning : Option UInt64 := none
  /-- Whether the rules of a module apply to each of its fields. -/
  moduleRulesApply : Bool := false
deriving DecidableEq, Repr

namespace Config

instance : Inhabited Config := ⟨{}⟩

/-- Whether the settings make sense: a depth to warn beyond is at least one. -/
def isValid (c : Config) : Bool := c.maxDepthWarning != some 0

end Config

end DynamicForms
