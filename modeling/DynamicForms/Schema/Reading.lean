import DynamicForms.Json.Decode
import DynamicForms.Schema.Form
import DynamicForms.Schema.Problem
import DynamicForms.Schema.Shape

/-!
# Reading descriptors from JSON

How JSON text holds the attributes of the records in `Schema.Shape`, and the readers of whole
texts.  `null` is accepted only for attributes that need not be set.
-/

set_option autoImplicit false

namespace DynamicForms

open Json

/-! ## Attributes -/

def readChoice : ReadAttribute ChoiceAttribute ChoiceDraft := fun _ slot o draft =>
  match slot with
  | .value => return { draft with value := ← decodeString "a string" o }
  | .label => return { draft with label := ← decodeString "a string" o }

def decodeChoice (depth : Nat) (o : Outline) : Decoded Choice :=
  decodeRecord choiceRecord readChoice depth o

def readCondition : ReadAttribute ConditionAttribute ConditionDraft := fun depth slot o draft =>
  match slot with
  | .trigger => return { draft with trigger := ← decodeString "a string" o }
  | .operator =>
    return { draft with operator := ← decodeVariant Operator.spellings Operator.ofName? depth o }
  | .value => return { draft with value := ← decodeOption (decodeString "a string") o }
  | .action => return { draft with action := ← decodeVariant Action.names Action.ofName? depth o }

def decodeCondition (depth : Nat) (o : Outline) : Decoded Condition :=
  decodeRecord conditionRecord readCondition depth o

/-- A kind, by its name. -/
def decodeKind (o : Outline) : Decoded Kind := do
  match Kind.ofName? (← decodeString "a string" o) with
  | some kind => return kind
  | none => refuse (.refused SchemaProblem.emptyKind.message)

def readField : ReadAttribute FieldAttribute FieldDraft := fun depth slot o draft =>
  match slot with
  | .id => return { draft with id := ← decodeString "a string" o }
  | .kind => return { draft with kind := ← decodeKind o }
  | .label => return { draft with label := ← decodeOption (decodeString "a string") o }
  | .order => return { draft with order := ← decodeInt64 o }
  | .parent => return { draft with parent := ← decodeOption (decodeString "a string") o }
  | .required => return { draft with required := ← decodeBoolean o }
  | .minLength => return { draft with minLength := ← decodeOption decodeUInt64 o }
  | .maxLength => return { draft with maxLength := ← decodeOption decodeUInt64 o }
  | .pattern => return { draft with pattern := ← decodeOption (decodeString "a string") o }
  | .rules => return { draft with rules := ← decodeList (fun _ => decodeString "a string") depth o }
  | .conditions => return { draft with conditions := ← decodeList decodeCondition depth o }
  | .choices => return { draft with choices := ← decodeList decodeChoice depth o }
  | .extensions => return { draft with extensions := ← decodeMap depth o }

def decodeField (depth : Nat) (o : Outline) : Decoded Field :=
  decodeRecord fieldRecord readField depth o

def readModule : ReadAttribute ModuleAttribute ModuleDraft := fun depth slot o draft =>
  match slot with
  | .id => return { draft with id := ← decodeString "a string" o }
  | .label => return { draft with label := ← decodeOption (decodeString "a string") o }
  | .fields => return { draft with fields := ← decodeList decodeField depth o }
  | .rules => return { draft with rules := ← decodeList (fun _ => decodeString "a string") depth o }

def decodeModule (depth : Nat) (o : Outline) : Decoded Module :=
  decodeRecord moduleRecord readModule depth o

def readConfig : ReadAttribute ConfigAttribute ConfigDraft := fun depth slot o draft =>
  match slot with
  | .faultPolicy =>
    return { draft with
      faultPolicy := ← decodeVariant FaultPolicy.names FaultPolicy.ofName? depth o }
  | .maxDepthWarning => return { draft with maxDepthWarning := ← decodeOption decodeUInt64 o }
  | .moduleRulesApply => return { draft with moduleRulesApply := ← decodeBoolean o }

def decodeConfig (depth : Nat) (o : Outline) : Decoded Config :=
  decodeRecord configRecord readConfig depth o

/-- The entries of a JSON object. -/
def decodeForm (depth : Nat) (o : Outline) : Decoded Form := do
  return Dictionary.ofList (← decodeMap depth o)

/-! ## Whole texts -/

/-- The module a JSON text describes. -/
def Module.ofJson (text : String) : Decoded Module := decodeText decodeModule text

/-- The field a JSON text describes. -/
def Field.ofJson (text : String) : Decoded Field := decodeText decodeField text

/-- The condition a JSON text describes. -/
def Condition.ofJson (text : String) : Decoded Condition := decodeText decodeCondition text

/-- The settings a JSON text describes, which need not make sense. -/
def Config.ofJson (text : String) : Decoded Config := decodeText decodeConfig text

/-- The form a JSON text holds. -/
def Form.ofJson (text : String) : Decoded Form := decodeText decodeForm text

end DynamicForms
