import DynamicForms.Forest.Basic
import DynamicForms.Logic.Condition

/-!
# States of fields

Whether the fields of a form are visible and enabled.  On each of the two axes the first condition
of a field that holds decides; if none does, a field with a condition that would show or enable it
waits hidden or disabled, and any other field is visible and enabled.  `States.cascade` hides and
disables what stands below a hidden or disabled field.
-/

set_option autoImplicit false

namespace DynamicForms

namespace Field

/-- The state of a field on an axis. -/
def decide (f : Field) (form : Form) (axis : Axis) : Bool :=
  let conditions := f.conditions.filter fun c => c.action.axis == axis
  match conditions.find? fun c => c.holds form with
  | some c => c.action.outcome
  | none => !conditions.any fun c => c.action.outcome

def isVisible (f : Field) (form : Form) : Bool := f.decide form .visibility

def isEnabled (f : Field) (form : Form) : Bool := f.decide form .enablement

end Field

/-- The states of the fields of a form, by their ids. -/
structure States where
  visible : Dictionary Bool
  enabled : Dictionary Bool
deriving DecidableEq

namespace States

/-- Whether a field is visible; a field that is not known is. -/
def isVisible (states : States) (id : String) : Bool := (states.visible.get? id).getD true

/-- Whether a field is enabled; a field that is not known is. -/
def isEnabled (states : States) (id : String) : Bool := (states.enabled.get? id).getD true

/-- The ids of the hidden fields. -/
def hidden (states : States) : List String :=
  (states.visible.entries.filter fun entry => !entry.2).map (·.1)

/-- The ids of the disabled fields. -/
def disabled (states : States) : List String :=
  (states.enabled.entries.filter fun entry => !entry.2).map (·.1)

/-- The states of all fields of a forest, each decided on its own. -/
def evaluate (forest : Forest) (form : Form) : States :=
  let fields := forest.nodes.toList.map (·.field)
  { visible := .ofList (fields.map fun f => (f.id, f.isVisible form))
    enabled := .ofList (fields.map fun f => (f.id, f.isEnabled form)) }

/-- Makes the state under a key false unless a condition is met. -/
def restrict (states : Dictionary Bool) (id : String) (allowed : Bool) : Dictionary Bool :=
  states.mapValues fun key state => if key = id then state && allowed else state

/-- Takes the states of a node's parent over to the node. -/
def inherit (forest : Forest) (states : States) (node : Node) : States :=
  match node.parent.bind forest.idAt? with
  | none => states
  | some parent =>
    { visible := restrict states.visible node.field.id (states.isVisible parent)
      enabled := restrict states.enabled node.field.id (states.isEnabled parent) }

/-- The states in which everything below a hidden field is hidden and everything below a disabled
field disabled; in the order of display a parent comes before its children. -/
def cascade (states : States) (forest : Forest) : States :=
  forest.nodesInOrder.foldl (inherit forest) states

end States

end DynamicForms
