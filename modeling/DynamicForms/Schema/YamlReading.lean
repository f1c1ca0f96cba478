import DynamicForms.Schema.Form
import DynamicForms.Schema.Shape
import DynamicForms.Yaml.Decode

/-!
# Reading descriptors from YAML

How YAML text holds the attributes of the records in `Schema.Shape`, and the readers of whole
texts.  They do not tell why a text is not accepted.
-/

set_option autoImplicit false

namespace DynamicForms.Yaml

variable (anchors : Anchors)

/-! ## Attributes -/

def readChoice (_depth : Nat) (slot : ChoiceAttribute) (node : Node) (draft : ChoiceDraft) :
    Decoding ChoiceDraft :=
  match slot with
  | .value => return { draft with value := ← decodeString anchors node }
  | .label => return { draft with label := ← decodeString anchors node }

def decodeChoice (depth : Nat) (node : Node) : Decoding Choice :=
  decodeRecord anchors choiceRecord (readChoice anchors) depth node

def readCondition (_depth : Nat) (slot : ConditionAttribute) (node : Node)
    (draft : ConditionDraft) : Decoding ConditionDraft :=
  match slot with
  | .trigger => return { draft with trigger := ← decodeString anchors node }
  | .operator => return { draft with operator := ← decodeVariant anchors Operator.ofName? node }
  | .value => return { draft with value := ← decodeOption anchors (decodeString anchors) node }
  | .action => return { draft with action := ← decodeVariant anchors Action.ofName? node }

def decodeCondition (depth : Nat) (node : Node) : Decoding Condition :=
  decodeRecord anchors conditionRecord (readCondition anchors) depth node

/-- A kind, by its name. -/
def decodeKind (node : Node) : Decoding Kind := do
  present (Kind.ofName? (← decodeString anchors node))

def readField (depth : Nat) (slot : FieldAttribute) (node : Node) (draft : FieldDraft) :
    Decoding FieldDraft :=
  match slot with
  | .id => return { draft with id := ← decodeString anchors node }
  | .kind => return { draft with kind := ← decodeKind anchors node }
  | .label => return { draft with label := ← decodeOption anchors (decodeString anchors) node }
  | .order => return { draft with order := ← decodeInt64 anchors node }
  | .parent => return { draft with parent := ← decodeOption anchors (decodeString anchors) node }
  | .required => return { draft with required := ← decodeBoolean anchors node }
  | .minLength =>
    return { draft with minLength := ← decodeOption anchors (decodeUInt64 anchors) node }
  | .maxLength =>
    return { draft with maxLength := ← decodeOption anchors (decodeUInt64 anchors) node }
  | .pattern => return { draft with pattern := ← decodeOption anchors (decodeString anchors) node }
  | .rules =>
    return { draft with rules := ← decodeList anchors (fun _ => decodeString anchors) depth node }
  | .conditions =>
    return { draft with conditions := ← decodeList anchors (decodeCondition anchors) depth node }
  | .choices =>
    return { draft with choices := ← decodeList anchors (decodeChoice anchors) depth node }
  | .extensions =>
    return { draft with extensions := ← decodeMap anchors (decodeValue anchors) depth node }

def decodeField (depth : Nat) (node : Node) : Decoding Field :=
  decodeRecord anchors fieldRecord (readField anchors) depth node

def readModule (depth : Nat) (slot : ModuleAttribute) (node : Node) (draft : ModuleDraft) :
    Decoding ModuleDraft :=
  match slot with
  | .id => return { draft with id := ← decodeString anchors node }
  | .label => return { draft with label := ← decodeOption anchors (decodeString anchors) node }
  | .fields => return { draft with fields := ← decodeList anchors (decodeField anchors) depth node }
  | .rules =>
    return { draft with rules := ← decodeList anchors (fun _ => decodeString anchors) depth node }

def decodeModule (depth : Nat) (node : Node) : Decoding Module :=
  decodeRecord anchors moduleRecord (readModule anchors) depth node

def readConfig (_depth : Nat) (slot : ConfigAttribute) (node : Node) (draft : ConfigDraft) :
    Decoding ConfigDraft :=
  match slot with
  | .faultPolicy =>
    return { draft with faultPolicy := ← decodeVariant anchors FaultPolicy.ofName? node }
  | .maxDepthWarning =>
    return { draft with maxDepthWarning := ← decodeOption anchors (decodeUInt64 anchors) node }
  | .moduleRulesApply => return { draft with moduleRulesApply := ← decodeBoolean anchors node }

def decodeConfig (depth : Nat) (node : Node) : Decoding Config :=
  decodeRecord anchors configRecord (readConfig anchors) depth node

/-- The entries of a mapping. -/
def decodeForm (depth : Nat) (node : Node) : Decoding Form := do
  return Dictionary.ofList (← decodeMap anchors (decodeValue anchors) depth node)

end DynamicForms.Yaml

namespace DynamicForms

/-! ## Whole texts -/

/-- The module a YAML text describes. -/
def Module.ofYaml? (text : String) : Option Module := Yaml.decodeText Yaml.decodeModule text

/-- The settings a YAML text describes, which need not make sense. -/
def Config.ofYaml? (text : String) : Option Config := Yaml.decodeText Yaml.decodeConfig text

/-- The form a YAML text holds. -/
def Form.ofYaml? (text : String) : Option Form := Yaml.decodeText Yaml.decodeForm text

end DynamicForms
