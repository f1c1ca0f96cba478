import DynamicForms.Schema.Config
import DynamicForms.Schema.Field
import DynamicForms.Schema.Record

/-!
# The shape of descriptors

One `Record` for each kind of object in a descriptor: choices, conditions, fields, modules and
configurations.  Each has its attributes in the order of their positions, the names by which they
are called, and defaults for those that may be missing.  How an attribute is read is up to the
format.
-/

set_option autoImplicit false

namespace DynamicForms

/-! ## Choices -/

inductive ChoiceAttribute where
  | value
  | label
deriving DecidableEq

/-- A choice that is being read. -/
structure ChoiceDraft where
  value : Option String := none
  label : Option String := none

def choiceRecord : Record ChoiceAttribute ChoiceDraft Choice where
  title := "struct FieldOption"
  attributes := [.value, .label]
  name
    | .value => "value"
    | .label => "label"
  ofName?
    | "value" => some .value
    | "label" => some .label
    | _ => none
  start := {}
  has draft
    | .value => draft.value.isSome
    | .label => draft.label.isSome
  finish
    | ⟨none, _⟩ => .error .value
    | ⟨_, none⟩ => .error .label
    | ⟨some value, some label⟩ => .ok ⟨value, label⟩

/-! ## Conditions -/

inductive ConditionAttribute where
  | trigger
  | operator
  | value
  | action
deriving DecidableEq

/-- A condition that is being read. -/
structure ConditionDraft where
  trigger : Option String := none
  operator : Option Operator := none
  value : Option (Option String) := none
  action : Option Action := none

def conditionRecord : Record ConditionAttribute ConditionDraft Condition where
  title := "struct ConditionalRule"
  attributes := [.trigger, .operator, .value, .action]
  name
    | .trigger => "trigger_field"
    | .operator => "operator"
    | .value => "value"
    | .action => "action"
  ofName?
    | "trigger_field" | "trigger" => some .trigger
    | "operator" => some .operator
    | "value" => some .value
    | "action" => some .action
    | _ => none
  start := {}
  has draft
    | .trigger => draft.trigger.isSome
    | .operator => draft.operator.isSome
    | .value => draft.value.isSome
    | .action => draft.action.isSome
  finish
    | ⟨none, _, _, _⟩ => .error .trigger
    | ⟨_, none, _, _⟩ => .error .operator
    | ⟨_, _, _, none⟩ => .error .action
    | ⟨some trigger, some operator, value, some action⟩ =>
      .ok ⟨trigger, operator, value.join, action⟩

/-! ## Fields -/

inductive FieldAttribute where
  | id
  | kind
  | label
  | order
  | parent
  | required
  | minLength
  | maxLength
  | pattern
  | rules
  | conditions
  | choices
  | extensions
deriving DecidableEq

/-- A field that is being read. -/
structure FieldDraft where
  id : Option String := none
  kind : Option Kind := none
  label : Option (Option String) := none
  order : Option Int64 := none
  parent : Option (Option String) := none
  required : Option Bool := none
  minLength : Option (Option UInt64) := none
  maxLength : Option (Option UInt64) := none
  pattern : Option (Option String) := none
  rules : Option (List String) := none
  conditions : Option (List Condition) := none
  choices : Option (List Choice) := none
  extensions : Option (List (String × Json.Value)) := none

namespace FieldAttribute

/-- The attributes in the order of their positions. -/
def all : List FieldAttribute :=
  [.id, .kind, .label, .order, .parent, .required, .minLength, .maxLength, .pattern, .rules,
    .conditions, .choices, .extensions]

/-- The name of an attribute in descriptors. -/
def name : FieldAttribute → String
  | .id => "id"
  | .kind => "kind"
  | .label => "label"
  | .order => "order"
  | .parent => "parent_id"
  | .required => "required"
  | .minLength => "min_length"
  | .maxLength => "max_length"
  | .pattern => "pattern"
  | .rules => "rules"
  | .conditions => "conditions"
  | .choices => "options"
  | .extensions => "extensions"

/-- The attribute of a name; a kind may also be called a type. -/
def ofName? : String → Option FieldAttribute
  | "id" => some .id
  | "kind" | "type" => some .kind
  | "label" => some .label
  | "order" => some .order
  | "parent_id" => some .parent
  | "required" => some .required
  | "min_length" => some .minLength
  | "max_length" => some .maxLength
  | "pattern" => some .pattern
  | "rules" => some .rules
  | "conditions" => some .conditions
  | "options" => some .choices
  | "extensions" => some .extensions
  | _ => none

end FieldAttribute

namespace FieldDraft

/-- Whether an attribute has been met. -/
def has (draft : FieldDraft) : FieldAttribute → Bool
  | .id => draft.id.isSome
  | .kind => draft.kind.isSome
  | .label => draft.label.isSome
  | .order => draft.order.isSome
  | .parent => draft.parent.isSome
  | .required => draft.required.isSome
  | .minLength => draft.minLength.isSome
  | .maxLength => draft.maxLength.isSome
  | .pattern => draft.pattern.isSome
  | .rules => draft.rules.isSome
  | .conditions => draft.conditions.isSome
  | .choices => draft.choices.isSome
  | .extensions => draft.extensions.isSome

/-- The field of a draft; only the id cannot be missing. -/
def finish (draft : FieldDraft) : Except FieldAttribute Field :=
  match draft.id with
  | none => .error .id
  | some id => .ok {
      id := id
      kind := draft.kind.getD .text
      label := draft.label.join
      order := draft.order.getD 0
      parent := draft.parent.join
      required := draft.required.getD false
      minLength := draft.minLength.join
      maxLength := draft.maxLength.join
      pattern := draft.pattern.join
      rules := draft.rules.getD []
      conditions := draft.conditions.getD []
      choices := draft.choices.getD []
      extensions := draft.extensions.getD [] }

end FieldDraft

def fieldRecord : Record FieldAttribute FieldDraft Field where
  title := "struct FieldDescriptor"
  attributes := FieldAttribute.all
  name := FieldAttribute.name
  ofName? := FieldAttribute.ofName?
  start := {}
  has := FieldDraft.has
  finish := FieldDraft.finish

/-! ## Modules -/

inductive ModuleAttribute where
  | id
  | label
  | fields
  | rules
deriving DecidableEq

/-- A module that is being read. -/
structure ModuleDraft where
  id : Option String := none
  label : Option (Option String) := none
  fields : Option (List Field) := none
  rules : Option (List String) := none

def moduleRecord : Record ModuleAttribute ModuleDraft Module where
  title := "struct ModuleDescriptor"
  attributes := [.id, .label, .fields, .rules]
  name
    | .id => "id"
    | .label => "label"
    | .fields => "fields"
    | .rules => "rules"
  ofName?
    | "id" => some .id
    | "label" => some .label
    | "fields" => some .fields
    | "rules" => some .rules
    | _ => none
  start := {}
  has draft
    | .id => draft.id.isSome
    | .label => draft.label.isSome
    | .fields => draft.fields.isSome
    | .rules => draft.rules.isSome
  finish draft :=
    match draft.id with
    | none => .error .id
    | some id => .ok ⟨id, draft.label.join, draft.fields.getD [], draft.rules.getD []⟩

/-! ## Configurations -/

inductive ConfigAttribute where
  | faultPolicy
  | maxDepthWarning
  | moduleRulesApply
deriving DecidableEq

/-- A configuration that is being read. -/
structure ConfigDraft where
  faultPolicy : Option FaultPolicy := none
  maxDepthWarning : Option (Option UInt64) := none
  moduleRulesApply : Option Bool := none

/-- The configuration of a draft, with defaults for all that is missing. -/
def ConfigDraft.toConfig (draft : ConfigDraft) : Config where
  faultPolicy := draft.faultPolicy.getD .failOpen
  maxDepthWarning := draft.maxDepthWarning.join
  moduleRulesApply := draft.moduleRulesApply.getD false

def configRecord : Record ConfigAttribute ConfigDraft Config where
  title := "struct EngineConfig"
  attributes := [.faultPolicy, .maxDepthWarning, .moduleRulesApply]
  name
    | .faultPolicy => "fault_policy"
    | .maxDepthWarning => "max_depth_warning"
    | .moduleRulesApply => "module_rules_apply_to_fields"
  ofName?
    | "fault_policy" => some .faultPolicy
    | "max_depth_warning" => some .maxDepthWarning
    | "module_rules_apply_to_fields" => some .moduleRulesApply
    | _ => none
  start := {}
  has draft
    | .faultPolicy => draft.faultPolicy.isSome
    | .maxDepthWarning => draft.maxDepthWarning.isSome
    | .moduleRulesApply => draft.moduleRulesApply.isSome
  finish draft := .ok draft.toConfig

end DynamicForms
