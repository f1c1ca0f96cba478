import DynamicForms.Json.Printer
import DynamicForms.Schema.Config
import DynamicForms.Schema.Field
import DynamicForms.Schema.Form
import DynamicForms.Yaml.Printer

/-!
# Writing descriptors

Descriptors as JSON values, their attributes in the order of declaration, and as texts.  An
attribute that is not set, or holds an empty list, is left out; ids, kinds, orders and whether a
field is required are always written, and so are the fields of a module.
-/

set_option autoImplicit false

namespace DynamicForms

open Json

/-- An entry for something that may be missing. -/
def optionEntry {α : Type} (key : String) (toJson : α → Value) (a : Option α) :
    List (String × Value) :=
  match a with
  | none => []
  | some a => [(key, toJson a)]

/-- An entry for a list, unless it is empty. -/
def listEntry {α : Type} (key : String) (toJson : α → Value) (items : List α) :
    List (String × Value) :=
  if items.isEmpty then [] else [(key, .array (items.map toJson))]

theorem fitsWord_int64 (n : Int64) : FitsWord n.toInt := by
  have h1 := n.le_toInt
  have h2 := n.toInt_lt
  constructor <;> omega

theorem fitsWord_uint64 (n : UInt64) : FitsWord n.toNat := by
  have h := n.toNat_lt
  constructor <;> omega

/-- A signed 64-bit number. -/
def int64ToJson (n : Int64) : Value := .number (.whole n.toInt (fitsWord_int64 n))

/-- An unsigned 64-bit number. -/
def uint64ToJson (n : UInt64) : Value := .number (.whole n.toNat (fitsWord_uint64 n))

def Choice.toJson (c : Choice) : Value :=
  .object [("value", .string c.value), ("label", .string c.label)]

def Condition.toJson (c : Condition) : Value :=
  .object ([("trigger_field", .string c.trigger), ("operator", .string c.operator.name)] ++
    optionEntry "value" .string c.value ++ [("action", .string c.action.name)])

def Field.toJson (f : Field) : Value :=
  .object ([("id", .string f.id), ("kind", .string f.kind.name)] ++
    optionEntry "label" .string f.label ++
    [("order", int64ToJson f.order)] ++
    optionEntry "parent_id" .string f.parent ++
    [("required", .boolean f.required)] ++
    optionEntry "min_length" uint64ToJson f.minLength ++
    optionEntry "max_length" uint64ToJson f.maxLength ++
    optionEntry "pattern" .string f.pattern ++
    listEntry "rules" .string f.rules ++
    listEntry "conditions" Condition.toJson f.conditions ++
    listEntry "options" Choice.toJson f.choices ++
    if f.extensions.isEmpty then [] else [("extensions", .object f.extensions)])

def Module.toJson (m : Module) : Value :=
  .object ([("id", .string m.id)] ++ optionEntry "label" .string m.label ++
    [("fields", .array (m.fields.map Field.toJson))] ++ listEntry "rules" .string m.rules)

def Module.toJsonText (m : Module) : String := m.toJson.indentedText

def Module.toYamlText (m : Module) : String := Yaml.render m.toJson

def Form.toJson (form : Form) : Value := .object form.entries

end DynamicForms
