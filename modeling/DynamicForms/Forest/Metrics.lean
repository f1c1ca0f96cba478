import DynamicForms.Forest.Basic
import DynamicForms.Number.Binary64

/-!
# Metrics

The shape of a forest in numbers.  The complexity counts every field once, every field below a
parent twice more and every field with conditions three times more.
-/

set_option autoImplicit false

namespace DynamicForms

/-- The shape of a forest in numbers. -/
structure Metrics where
  totalFields : Nat
  rootFields : Nat
  maxDepth : Nat
  /-- The mean depth of the nodes; zero when there are none. -/
  averageDepth : Number.Binary64
  conditionalFields : Nat
  linkedFields : Nat
  complexity : Nat
deriving DecidableEq, Repr

/-- A quotient of whole numbers in the binary format; zero when the divisor is. -/
def meanOf (sum count : Nat) : Number.Binary64 :=
  if count = 0 then ⟨false, 0⟩
  else ⟨false, (Number.Binary64.roundQuotient (sum * Number.Binary64.one) count).getD 0⟩

def Forest.metrics (forest : Forest) : Metrics :=
  let nodes := forest.nodes.toList
  let total := nodes.length
  let roots := (nodes.filter fun node => node.parent.isNone).length
  let conditional := (nodes.filter fun node => node.field.hasConditions).length
  let depths := nodes.map (·.depth)
  { totalFields := total
    rootFields := roots
    maxDepth := depths.max?.getD 0
    averageDepth := meanOf (depths.foldr (· + ·) 0) total
    conditionalFields := conditional
    linkedFields := total - roots
    complexity := total + 2 * (total - roots) + 3 * conditional }

end DynamicForms
