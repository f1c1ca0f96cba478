/-!
# Kinds of fields

A field is of one of eleven standard kinds or of a kind that the host defines under a name of its
own.  A host's name is none of the standard ones and not empty; `Kind.ofName?` is the inverse of
`Kind.name`.
-/

set_option autoImplicit false

namespace DynamicForms

/-- The names a host cannot use for a kind of its own. -/
def standardKindNames : List String :=
  ["", "text", "textarea", "number", "email", "date", "datetime", "checkbox", "radio", "select",
    "multiselect", "group"]

/-- What a field holds and how it is shown. -/
inductive Kind where
  | text
  | textarea
  | number
  | email
  | date
  | datetime
  | checkbox
  | radio
  | select
  | multiselect
  | group
  | custom (hostName : String) (own : hostName ∉ standardKindNames)
deriving DecidableEq, Repr

namespace Kind

instance : Inhabited Kind := ⟨.text⟩

/-- The name of a kind in descriptors. -/
def name : Kind → String
  | .text => "text"
  | .textarea => "textarea"
  | .number => "number"
  | .email => "email"
  | .date => "date"
  | .datetime => "datetime"
  | .checkbox => "checkbox"
  | .radio => "radio"
  | .select => "select"
  | .multiselect => "multiselect"
  | .group => "group"
  | .custom hostName _ => hostName

/-- Whether a field of the kind chooses among given options. -/
def isChoice : Kind → Bool
  | .radio | .select | .multiselect => true
  | _ => false

/-- Whether the kind is a host's own. -/
def isCustom : Kind → Bool
  | .custom .. => true
  | _ => false

/-- The standard kind of a name. -/
def standard? : String → Option Kind
  | "text" => some .text
  | "textarea" => some .textarea
  | "number" => some .number
  | "email" => some .email
  | "date" => some .date
  | "datetime" => some .datetime
  | "checkbox" => some .checkbox
  | "radio" => some .radio
  | "select" => some .select
  | "multiselect" => some .multiselect
  | "group" => some .group
  | _ => none

/-- The kind of a name; the empty name has none. -/
def ofName? (name : String) : Option Kind :=
  if own : name ∈ standardKindNames then standard? name else some (.custom name own)

theorem ofName?_name (k : Kind) : ofName? k.name = some k := by
  cases k with
  | custom hostName own => simp [ofName?, name, own]
  | _ => rfl

end Kind

end DynamicForms
