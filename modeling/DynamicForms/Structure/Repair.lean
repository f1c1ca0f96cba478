import DynamicForms.Schema.Field

/-!
# Repair and reparenting

Two operations that keep a module's structure sound.  `Module.repair` drops every parent that does
not exist or is the field itself; longer cycles are left for the forest to break.
`Module.wouldCycle` tells whether a field would come under itself if it got a new parent.
-/

set_option autoImplicit false

namespace DynamicForms

/-- The field without its parent if that is missing or the field itself. -/
def Field.withoutUnusableParent (ids : List String) (f : Field) : Field :=
  match f.parent with
  | none => f
  | some p => if p = f.id ∨ p ∉ ids then { f with parent := none } else f

namespace Module

/-- The module without the parents that are missing or the fields themselves. -/
def repair (m : Module) : Module :=
  { m with fields := m.fields.map (Field.withoutUnusableParent (m.fields.map (·.id))) }

/-- Whether following parents from an id leads to a field, before an id is met that was seen;
`fuel` bounds the number of ids. -/
def leadsTo (m : Module) (field : String) : (fuel : Nat) → (seen : List String) → String → Bool
  | 0, _, _ => false
  | fuel + 1, seen, id =>
    if id = field then true
    else if id ∈ seen then false
    else
      match (m.field? id).bind Field.parent with
      | none => false
      | some p => m.leadsTo field fuel (id :: seen) p

/-- Whether a field would be among its own ancestors if it got a new parent. -/
def wouldCycle (m : Module) (field newParent : String) : Bool :=
  m.leadsTo field (m.fields.length + 2) [] newParent

end Module

end DynamicForms
