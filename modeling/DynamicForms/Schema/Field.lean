import DynamicForms.Json.Value
import DynamicForms.Schema.Condition
import DynamicForms.Schema.Kind

/-!
# Fields and modules

A module describes a form as a flat list of fields.  A field names its parent, if it has one, by
its id; nothing is said here about ids that are declared twice, parents that do not exist or
parents in a circle, which building a forest and checking a module deal with.
-/

set_option autoImplicit false

namespace DynamicForms

/-- One of the options a field lets choose among. -/
structure Choice where
  value : String
  label : String
deriving DecidableEq, Repr

/-- The description of a field. -/
structure Field where
  id : String
  kind : Kind
  label : Option String
  /-- The place among the fields of the same parent; ties keep the order of declaration. -/
  order : Int64
  parent : Option String
  required : Bool
  minLength : Option UInt64
  maxLength : Option UInt64
  pattern : Option String
  /-- The ids of the rules a value has to pass. -/
  rules : List String
  conditions : List Condition
  choices : List Choice
  /-- Whatever the host wants to keep with the field, in the order of its keys. -/
  extensions : List (String × Json.Value)
deriving DecidableEq, Repr

namespace Field

/-- A field with nothing set. -/
def ofId (id : String) (kind : Kind) : Field where
  id := id
  kind := kind
  label := none
  order := 0
  parent := none
  required := false
  minLength := none
  maxLength := none
  pattern := none
  rules := []
  conditions := []
  choices := []
  extensions := []

/-- How messages call the field: by its label, or by its id when it has none. -/
def displayName (f : Field) : String := f.label.getD f.id

def hasConditions (f : Field) : Bool := !f.conditions.isEmpty

/-- Whether the length of the field's text is bounded. -/
def hasLengthBounds (f : Field) : Bool := f.minLength.isSome || f.maxLength.isSome

/-- Fields agree when they are equal up to the sign of zeros in their extensions. -/
def agrees (f g : Field) : Bool :=
  Json.Value.agreeEntries f.extensions g.extensions &&
    decide ({ f with extensions := [] } = { g with extensions := [] })

end Field

/-- The description of a form. -/
structure Module where
  id : String
  label : Option String
  fields : List Field
  /-- The ids of rules for the whole module. -/
  rules : List String
deriving DecidableEq, Repr

namespace Module

/-- A module with nothing in it. -/
def ofId (id : String) : Module := ⟨id, none, [], []⟩

/-- Lists of fields agree field by field. -/
def agreeFields : List Field → List Field → Bool
  | [], [] => true
  | f :: fs, g :: gs => f.agrees g && agreeFields fs gs
  | _, _ => false

/-- Modules agree when they are equal up to the sign of zeros in extensions. -/
def agrees (m n : Module) : Bool :=
  agreeFields m.fields n.fields && decide ({ m with fields := [] } = { n with fields := [] })

/-- The last declaration of an id among some fields. -/
def lastOf? (id : String) (fields : List Field) : Option Field :=
  fields.reverse.find? fun f => f.id == id

/-- The field of an id; of several declarations the last one counts. -/
def field? (m : Module) (id : String) : Option Field := lastOf? id m.fields

/-- Whether some field declares an id. -/
def contains (m : Module) (id : String) : Bool := m.fields.any fun f => f.id == id

/-- Adds a field at the end. -/
def addField (m : Module) (f : Field) : Module := { m with fields := m.fields ++ [f] }

/-- Adds a rule for the whole module. -/
def addRule (m : Module) (id : String) : Module := { m with rules := m.rules ++ [id] }

/-- Drops every field of an id. -/
def removeField (m : Module) (id : String) : Module :=
  { m with fields := m.fields.filter fun f => f.id != id }

/-- Changes the last declaration of an id among some fields. -/
def updateLast (id : String) (change : Field → Field) : List Field → List Field
  | [] => []
  | f :: rest =>
    if f.id = id ∧ (rest.all fun g => g.id != id) then change f :: rest
    else f :: updateLast id change rest

/-- Changes the field of an id; of several declarations the last one. -/
def updateField (m : Module) (id : String) (change : Field → Field) : Module :=
  { m with fields := updateLast id change m.fields }

/-- Gives the field of an id another parent, or none. -/
def reparent (m : Module) (id : String) (parent : Option String) : Module :=
  m.updateField id fun f => { f with parent := parent }

end Module

end DynamicForms
