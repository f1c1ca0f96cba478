import DynamicForms.Dictionary
import DynamicForms.Validation.Rule

/-!
# Registries

The rules that are known by an id, together with the settings they were made for and the engine for
patterns.  Registering under an id that is taken replaces the rule.
-/

set_option autoImplicit false

namespace DynamicForms

/-- The ids of the standard rules. -/
def requiredId : String := "required"

@[inherit_doc requiredId]
def lengthId : String := "length"

@[inherit_doc requiredId]
def patternId : String := "pattern"

@[inherit_doc requiredId]
def emailId : String := "email"

/-- Rules by their ids. -/
structure Registry where
  rules : Dictionary Rule
  config : Config
  engine : PatternEngine

namespace Registry

/-- The registry without rules, with the standard settings. -/
def empty (engine : PatternEngine) : Registry := ⟨.empty, {}, engine⟩

/-- Puts a rule under an id. -/
def register (r : Registry) (id : String) (rule : Rule) : Registry :=
  { r with rules := r.rules.insert id rule }

/-- Drops the rule under an id. -/
def unregister (r : Registry) (id : String) : Registry := { r with rules := r.rules.erase id }

/-- The rule under an id. -/
def get? (r : Registry) (id : String) : Option Rule := r.rules.get? id

/-- Whether there is a rule under an id. -/
def contains (r : Registry) (id : String) : Bool := r.rules.contains id

/-- The ids in their order. -/
def ids (r : Registry) : List String := r.rules.keys

/-- The number of rules. -/
def size (r : Registry) : Nat := r.rules.size

/-- The registry of the standard rules. -/
def standard (engine : PatternEngine) (config : Config) : Registry where
  rules := .ofList
    [(requiredId, .required), (lengthId, .length), (patternId, .pattern engine config.faultPolicy),
      (emailId, .email)]
  config := config
  engine := engine

/-- How a policy shows itself. -/
def shownPolicy : FaultPolicy → String
  | .failOpen => "FailOpen"
  | .report => "Report"

/-- How settings show themselves. -/
def shownConfig (c : Config) : String :=
  "EngineConfig \x7b fault_policy: " ++ shownPolicy c.faultPolicy ++ ", max_depth_warning: " ++
    (match c.maxDepthWarning with
      | none => "None"
      | some n => "Some(" ++ toString n.toNat ++ ")") ++
    ", module_rules_apply_to_fields: " ++ (if c.moduleRulesApply then "true" else "false") ++
    " \x7d"

/-- How a registry shows itself: by the ids of its rules and its settings. -/
def shown (r : Registry) : String :=
  "RuleRegistry \x7b rules: [" ++ ", ".intercalate (r.ids.map Text.quote) ++ "], config: " ++
    shownConfig r.config ++ " \x7d"

end Registry

end DynamicForms
