import DynamicForms.Dictionary
import DynamicForms.Forest.Basic

/-!
# Dependencies

Which fields have to be looked at again when a value changes: those with a condition that the
changed field triggers.
-/

set_option autoImplicit false

namespace DynamicForms

/-- The fields with conditions on a trigger, by the trigger's id; the fields of each trigger
stand in the order of display, each once. -/
structure Dependencies where
  index : Dictionary (List String)
deriving DecidableEq

namespace Dependencies

/-- The fields that depend on a trigger. -/
def dependents (d : Dependencies) (trigger : String) : List String :=
  (d.index.get? trigger).getD []

/-- Whether some field depends on a trigger. -/
def isTrigger (d : Dependencies) (id : String) : Bool := d.index.contains id

/-- Notes that a field depends on a trigger. -/
def note (d : Dependencies) (trigger id : String) : Dependencies :=
  let ids := d.dependents trigger
  ⟨d.index.insert trigger (if ids.contains id then ids else ids ++ [id])⟩

/-- Notes the triggers of all conditions of a field. -/
def noteField (d : Dependencies) (f : Field) : Dependencies :=
  f.conditions.foldl (fun d c => d.note c.trigger f.id) d

/-- The dependencies among the fields of a forest. -/
def ofForest (forest : Forest) : Dependencies :=
  (forest.nodesInOrder.map (·.field)).foldl noteField ⟨.empty⟩

end Dependencies

end DynamicForms
