import DynamicForms.Forest.Build
import DynamicForms.Validation.Registry

/-!
# Checking forms

The rules of a field run in a fixed order.  A required field comes first under the rule for
required fields, and when it fails nothing else runs; an optional field with a blank value passes
outright.  Then length and pattern are checked where the field sets them, and after them the rules
the field names, each once.  Ids under which no rule is registered are passed over, except that
the rules for required fields, lengths and patterns are always there.
-/

set_option autoImplicit false

namespace DynamicForms.Registry

/-- The rule under an id, or another one in its place. -/
def getOr (r : Registry) (id : String) (fallback : Rule) : Rule := (r.get? id).getD fallback

/-- The verdict of the rule under an id. -/
def run (r : Registry) (node : Node) (v : Json.Value) (form : Form) (id : String) : Verdict :=
  match r.get? id with
  | none => .valid
  | some rule => rule.check node v form

/-- The ids that are not among those that ran, each at its first place only. -/
def pending : (ran ids : List String) → List String
  | _, [] => []
  | ran, id :: ids => if id ∈ ran then pending ran ids else id :: pending (id :: ran) ids

/-- The rules that run because of a field's own settings, with their ids. -/
def implied (r : Registry) (f : Field) : List (String × Rule) :=
  (if f.hasLengthBounds then [(lengthId, r.getOr lengthId .length)] else []) ++
  if f.pattern.isSome then
    [(patternId, r.getOr patternId (.pattern r.engine r.config.faultPolicy))]
  else []

/-- The verdict of all rules but the one for required fields; `extra` holds ids of rules that run
after those the field names. -/
def checkRules (r : Registry) (node : Node) (v : Json.Value) (form : Form)
    (extra : List String) : Verdict :=
  let implied := r.implied node.field
  let ids := pending (requiredId :: implied.map (·.1)) (node.field.rules ++ extra)
  .joinAll (implied.map (fun entry => entry.2.check node v form) ++ ids.map (r.run node v form))

/-- The verdict on a field, with ids of rules that run after those the field names. -/
def checkWith (r : Registry) (node : Node) (v : Json.Value) (form : Form)
    (extra : List String) : Verdict :=
  if node.field.required then
    let verdict := (r.getOr requiredId .required).check node v form
    if verdict.isValid then r.checkRules node v form extra else verdict
  else if v.isBlank then .valid
  else r.checkRules node v form extra

/-- The verdict on a field. -/
def checkField (r : Registry) (node : Node) (v : Json.Value) (form : Form) : Verdict :=
  r.checkWith node v form []

/-- The ids of a module's rules that apply to each of its fields. -/
def appliedRules (r : Registry) (m : Module) : List String :=
  if r.config.moduleRulesApply then m.rules else []

/-- The verdict on a form: those on all fields of the module, in the order of display. -/
def checkModule (r : Registry) (m : Module) (form : Form) : Verdict :=
  .joinAll ((Forest.build m).nodesInOrder.map fun node =>
    r.checkWith node (form.value node.field.id) form (r.appliedRules m))

end DynamicForms.Registry
