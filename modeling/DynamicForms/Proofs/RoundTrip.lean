import DynamicForms.Proofs.RecordReading
import DynamicForms.Schema.Reading
import Mathlib.Control.Monad.Basic

/-!
# Round trips of descriptors and forms

Whatever text a module or a form was read from, its own JSON text is read as the same module or
form, so that reading and writing once brings every text into its final shape.  Numbers of the
binary format are left out: their shortest decimals may be read as a neighbour.

* `storable_of_decodeModule`, `storable_of_decodeForm` — what was read can be stored.
* `decodeField_toJson`, `decodeModule_toJson` — a descriptor is read off its own JSON value.
* `ofJson_toJson` — both round trips, over all texts.
-/

set_option autoImplicit false

namespace DynamicForms

open Json

variable {depth : Nat}

/-! ## What was read can be stored -/

/-- Whether all numbers in the extensions of a module are whole. -/
def Module.isExact (m : Module) : Bool := m.fields.all fun f => Value.exactEntries f.extensions

/-- Whether all numbers in a form are whole. -/
def Form.isExact (form : Form) : Bool := Value.exactEntries form.entries

theorem storable_of_decodeField {o : Outline} {f : Field}
    (h : decodeField (depth + 2) o = .ok f) : StorableEntries depth f.extensions := by
  refine decodeRecord_keeps
    (P := fun draft => ∀ entries, draft.extensions = some entries → StorableEntries depth entries)
    (Q := fun f => StorableEntries depth f.extensions) ?_ ?_ (by rintro _ ⟨⟩) h
  · intro slot o draft draft' hP hread
    cases slot with
    | extensions =>
      obtain ⟨entries, hentries, hdraft⟩ := bind_eq_ok_iff.1 hread
      cases hdraft
      rintro _ ⟨⟩
      exact storableEntries_of_decodeMap hentries
    | _ =>
      obtain ⟨_, -, hdraft⟩ := bind_eq_ok_iff.1 hread
      cases hdraft
      exact hP
  · intro draft f hP hfinish
    have hf : f.extensions = draft.extensions.getD [] := by
      simp only [fieldRecord, FieldDraft.finish] at hfinish
      split at hfinish
      · cases hfinish
      · cases hfinish
        rfl
    show StorableEntries depth f.extensions
    rw [hf]
    cases hentries : draft.extensions with
    | none => exact .nil
    | some entries => exact hP entries hentries

/-- **The extensions of a module that was read can be stored.** -/
theorem storable_of_decodeModule {o : Outline} {m : Module}
    (h : decodeModule (depth + 4) o = .ok m) :
    ∀ f ∈ m.fields, StorableEntries depth f.extensions := by
  refine decodeRecord_keeps
    (P := fun draft => ∀ fields, draft.fields = some fields →
      ∀ f ∈ fields, StorableEntries depth f.extensions)
    (Q := fun m => ∀ f ∈ m.fields, StorableEntries depth f.extensions) ?_ ?_ (by rintro _ ⟨⟩) h
  · intro slot o draft draft' hP hread
    cases slot with
    | fields =>
      obtain ⟨fields, hfields, hdraft⟩ := bind_eq_ok_iff.1 hread
      cases hdraft
      rintro _ ⟨⟩ f hf
      obtain ⟨o, ho⟩ := exists_of_mem_decodeList hfields f hf
      exact storable_of_decodeField ho
    | _ =>
      obtain ⟨_, -, hdraft⟩ := bind_eq_ok_iff.1 hread
      cases hdraft
      exact hP
  · intro draft m hP hfinish
    have hm : m.fields = draft.fields.getD [] := by
      simp only [moduleRecord] at hfinish
      split at hfinish
      · cases hfinish
      · cases hfinish
        rfl
    show ∀ f ∈ m.fields, StorableEntries depth f.extensions
    rw [hm]
    cases hfields : draft.fields with
    | none => exact List.forall_mem_nil _
    | some fields => exact hP fields hfields

theorem storable_of_decodeForm {o : Outline} {form : Form}
    (h : decodeForm (depth + 1) o = .ok form) : StorableEntries depth form.entries := by
  obtain ⟨entries, hentries, hform⟩ := bind_eq_ok_iff.1 h
  cases hform
  have hstorable := storableEntries_of_decodeMap hentries
  show StorableEntries depth (collectEntries entries)
  rwa [hstorable.keys.collectEntries_eq]

/-! ## Reading parts off their own values -/

theorem decodeWhole_outline {expected : String} {low high n : Int} (fits : FitsWord n)
    (h : low ≤ n ∧ n < high) :
    decodeWhole expected low high (Value.number (.whole n fits)).outline = .ok n := by
  rw [Value.outline, Numeral.outline_whole, decodeWhole, NumberText.value_ofWhole fits]
  simp only [intact, bind, Except.bind, if_pos h]

theorem decodeInt64_toJson (n : Int64) : decodeInt64 (int64ToJson n).outline = .ok n := by
  have hlow := n.le_toInt
  have hhigh := n.toInt_lt
  rw [decodeInt64, int64ToJson, decodeWhole_outline (fitsWord_int64 n) ⟨by omega, by omega⟩]
  simp [Except.map]

theorem decodeUInt64_toJson (n : UInt64) : decodeUInt64 (uint64ToJson n).outline = .ok n := by
  have hhigh := n.toNat_lt
  rw [decodeUInt64, uint64ToJson, decodeWhole_outline (fitsWord_uint64 n) ⟨by omega, by omega⟩]
  simp [Except.map]

theorem decodeOption_uint64ToJson (n : UInt64) :
    decodeOption decodeUInt64 (uint64ToJson n).outline = .ok (some n) := by
  have houtline : (uint64ToJson n).outline = .number (.ofWhole n.toNat) := by
    rw [uint64ToJson, Value.outline, Numeral.outline_whole]
  have hread := decodeUInt64_toJson n
  rw [houtline] at hread ⊢
  rw [decodeOption, hread]
  · rfl
  · exact nofun

theorem decodeItems_outlineItems {α : Type} {item : Outline → Decoded α} {toJson : α → Value}
    {xs : List α} (h : ∀ x ∈ xs, item (toJson x).outline = .ok x) :
    decodeItems item (Value.outlineItems (xs.map toJson)) = .ok xs := by
  induction xs with
  | nil => rfl
  | cons x xs ih =>
    obtain ⟨hx, hxs⟩ := List.forall_mem_cons.1 h
    rw [List.map_cons, Value.outlineItems, decodeItems, hx, ih hxs]
    rfl

theorem decodeList_toJson {α : Type} {item : Nat → Outline → Decoded α} {toJson : α → Value}
    {xs : List α} (h : ∀ x ∈ xs, item depth (toJson x).outline = .ok x) :
    decodeList item (depth + 1) (Value.array (xs.map toJson)).outline = .ok xs := by
  rw [Value.outline, decodeList, enter, decodeItems_outlineItems h]

theorem decodeVariant_name {α : Type} {variants : List String} {ofName? : String → Option α}
    {name : String} {a : α} (h : ofName? name = some a) :
    decodeVariant variants ofName? depth (Value.string name).outline = .ok a := by
  simp only [Value.outline, decodeVariant, intact, bind, Except.bind, decodeVariant.named, h]

theorem decodeKind_name (k : Kind) : decodeKind (Value.string k.name).outline = .ok k := by
  simp only [Value.outline, decodeKind, decodeString, intact, bind, Except.bind,
    Kind.ofName?_name]
  rfl

theorem join_map_some {α : Type} (a : Option α) : (a.map some).join = a := by
  cases a <;> rfl

/-! ## Choices and conditions

`entriesOf` is what an attribute is written as, which may be nothing; `put` is the draft in which
the reading of these entries leaves the attribute. -/

def Choice.entriesOf (c : Choice) : ChoiceAttribute → List (String × Value)
  | .value => [("value", .string c.value)]
  | .label => [("label", .string c.label)]

def ChoiceDraft.put (c : Choice) (draft : ChoiceDraft) : ChoiceAttribute → ChoiceDraft
  | .value => { draft with value := some c.value }
  | .label => { draft with label := some c.label }

theorem Choice.enters (c : Choice) (draft : ChoiceDraft) (slot : ChoiceAttribute)
    (hnew : choiceRecord.has draft slot = false) :
    Enters choiceRecord readChoice depth (c.entriesOf slot) draft (draft.put c slot) := by
  cases slot with
  | value => exact .entry rfl hnew rfl
  | label => exact .entry rfl hnew rfl

theorem decodeChoice_toJson (c : Choice) : decodeChoice (depth + 1) c.toJson.outline = .ok c :=
  Enters.decodeRecord_attributes c.enters
    (by rintro draft (_ | _) (_ | _) h <;> first | rfl | exact absurd rfl h)
    (by decide) (by decide) rfl

def Condition.entriesOf (c : Condition) : ConditionAttribute → List (String × Value)
  | .trigger => [("trigger_field", .string c.trigger)]
  | .operator => [("operator", .string c.operator.name)]
  | .value => optionEntry "value" .string c.value
  | .action => [("action", .string c.action.name)]

def ConditionDraft.put (c : Condition) (draft : ConditionDraft) :
    ConditionAttribute → ConditionDraft
  | .trigger => { draft with trigger := some c.trigger }
  | .operator => { draft with operator := some c.operator }
  | .value => { draft with value := c.value.map some }
  | .action => { draft with action := some c.action }

theorem Condition.enters (c : Condition) (draft : ConditionDraft) (slot : ConditionAttribute)
    (hnew : conditionRecord.has draft slot = false) :
    Enters conditionRecord readCondition depth (c.entriesOf slot) draft (draft.put c slot) := by
  cases slot with
  | trigger => exact .entry rfl hnew rfl
  | operator =>
    refine .entry rfl hnew ?_
    simp only [readCondition, decodeVariant_name (Operator.ofName?_name c.operator)]
    rfl
  | value =>
    exact .optional (.mk (·.value) fun draft value => { draft with value })
      rfl hnew (fun _ => rfl) rfl
  | action =>
    refine .entry rfl hnew ?_
    simp only [readCondition, decodeVariant_name (Action.ofName?_name c.action)]
    rfl

theorem decodeCondition_toJson (c : Condition) :
    decodeCondition (depth + 1) c.toJson.outline = .ok c := by
  have hentries : c.toJson = .object (conditionRecord.attributes.flatMap c.entriesOf) := by
    simp [Condition.toJson, conditionRecord, Condition.entriesOf]
  rw [hentries]
  refine Enters.decodeRecord_attributes c.enters ?_ (by decide) (by decide) ?_
  · rintro draft slot other h
    cases slot <;> cases other <;> first | rfl | exact absurd rfl h
  · simp [conditionRecord, ConditionDraft.put, join_map_some]

/-! ## Fields -/

def Field.entriesOf (f : Field) : FieldAttribute → List (String × Value)
  | .id => [("id", .string f.id)]
  | .kind => [("kind", .string f.kind.name)]
  | .label => optionEntry "label" .string f.label
  | .order => [("order", int64ToJson f.order)]
  | .parent => optionEntry "parent_id" .string f.parent
  | .required => [("required", .boolean f.required)]
  | .minLength => optionEntry "min_length" uint64ToJson f.minLength
  | .maxLength => optionEntry "max_length" uint64ToJson f.maxLength
  | .pattern => optionEntry "pattern" .string f.pattern
  | .rules => listEntry "rules" .string f.rules
  | .conditions => listEntry "conditions" Condition.toJson f.conditions
  | .choices => listEntry "options" Choice.toJson f.choices
  | .extensions => if f.extensions.isEmpty then [] else [("extensions", .object f.extensions)]

def FieldDraft.put (f : Field) (draft : FieldDraft) : FieldAttribute → FieldDraft
  | .id => { draft with id := some f.id }
  | .kind => { draft with kind := some f.kind }
  | .label => { draft with label := f.label.map some }
  | .order => { draft with order := some f.order }
  | .parent => { draft with parent := f.parent.map some }
  | .required => { draft with required := some f.required }
  | .minLength => { draft with minLength := f.minLength.map some }
  | .maxLength => { draft with maxLength := f.maxLength.map some }
  | .pattern => { draft with pattern := f.pattern.map some }
  | .rules => { draft with rules := Enters.listOf f.rules }
  | .conditions => { draft with conditions := Enters.listOf f.conditions }
  | .choices => { draft with choices := Enters.listOf f.choices }
  | .extensions => { draft with extensions := Enters.listOf f.extensions }

theorem Field.enters {f : Field} (h : StorableEntries (depth + 1) f.extensions)
    (hexact : Value.exactEntries f.extensions = true) (draft : FieldDraft) (slot : FieldAttribute)
    (hnew : fieldRecord.has draft slot = false) :
    Enters fieldRecord readField (depth + 2) (f.entriesOf slot) draft (draft.put f slot) := by
  cases slot with
  | id => exact .entry rfl hnew rfl
  | kind =>
    refine .entry rfl hnew ?_
    simp only [readField, decodeKind_name]
    rfl
  | label =>
    exact .optional (.mk (·.label) fun draft label => { draft with label })
      rfl hnew (fun _ => rfl) rfl
  | order =>
    refine .entry rfl hnew ?_
    simp only [readField, decodeInt64_toJson]
    rfl
  | parent =>
    exact .optional (.mk (·.parent) fun draft parent => { draft with parent })
      rfl hnew (fun _ => rfl) rfl
  | required => exact .entry rfl hnew rfl
  | minLength =>
    refine .optional (.mk (·.minLength) fun draft minLength => { draft with minLength })
      rfl hnew (fun n => ?_) rfl
    simp only [readField, decodeOption_uint64ToJson]
    rfl
  | maxLength =>
    refine .optional (.mk (·.maxLength) fun draft maxLength => { draft with maxLength })
      rfl hnew (fun n => ?_) rfl
    simp only [readField, decodeOption_uint64ToJson]
    rfl
  | pattern =>
    exact .optional (.mk (·.pattern) fun draft pattern => { draft with pattern })
      rfl hnew (fun _ => rfl) rfl
  | rules =>
    refine .unlessEmpty (.mk (·.rules) fun draft rules => { draft with rules }) rfl hnew ?_ rfl
    simp only [readField]
    rw [decodeList_toJson fun _ _ => rfl]
    rfl
  | conditions =>
    refine .unlessEmpty (.mk (·.conditions) fun draft conditions => { draft with conditions })
      rfl hnew ?_ rfl
    simp only [readField]
    rw [decodeList_toJson fun c _ => decodeCondition_toJson c]
    rfl
  | choices =>
    refine .unlessEmpty (.mk (·.choices) fun draft choices => { draft with choices })
      rfl hnew ?_ rfl
    simp only [readField]
    rw [decodeList_toJson fun c _ => decodeChoice_toJson c]
    rfl
  | extensions =>
    refine .unlessEmpty (.mk (·.extensions) fun draft extensions => { draft with extensions })
      rfl hnew ?_ rfl
    simp only [readField]
    rw [decodeMap_outline h hexact]
    rfl

theorem Field.toJson_eq (f : Field) :
    f.toJson = .object (fieldRecord.attributes.flatMap f.entriesOf) := by
  simp [Field.toJson, fieldRecord, FieldAttribute.all, Field.entriesOf]

/-- **A field is read off its own JSON value.** -/
theorem decodeField_toJson {f : Field} (h : StorableEntries (depth + 1) f.extensions)
    (hexact : Value.exactEntries f.extensions = true) :
    decodeField (depth + 3) f.toJson.outline = .ok f := by
  rw [f.toJson_eq]
  refine Enters.decodeRecord_attributes (Field.enters h hexact) ?_ (by decide) (by decide) ?_
  · rintro draft slot other h
    cases slot <;> cases other <;> first | rfl | exact absurd rfl h
  · simp [fieldRecord, FieldAttribute.all, FieldDraft.put, FieldDraft.finish, join_map_some,
      Enters.getD_listOf]

/-! ## Modules and forms -/

def Module.entriesOf (m : Module) : ModuleAttribute → List (String × Value)
  | .id => [("id", .string m.id)]
  | .label => optionEntry "label" .string m.label
  | .fields => [("fields", .array (m.fields.map Field.toJson))]
  | .rules => listEntry "rules" .string m.rules

def ModuleDraft.put (m : Module) (draft : ModuleDraft) : ModuleAttribute → ModuleDraft
  | .id => { draft with id := some m.id }
  | .label => { draft with label := m.label.map some }
  | .fields => { draft with fields := some m.fields }
  | .rules => { draft with rules := Enters.listOf m.rules }

theorem Module.enters {m : Module}
    (h : ∀ f ∈ m.fields, StorableEntries (depth + 1) f.extensions) (hexact : m.isExact = true)
    (draft : ModuleDraft) (slot : ModuleAttribute) (hnew : moduleRecord.has draft slot = false) :
    Enters moduleRecord readModule (depth + 4) (m.entriesOf slot) draft (draft.put m slot) := by
  cases slot with
  | id => exact .entry rfl hnew rfl
  | label =>
    exact .optional (.mk (·.label) fun draft label => { draft with label })
      rfl hnew (fun _ => rfl) rfl
  | fields =>
    have hfields : ∀ f ∈ m.fields, decodeField (depth + 3) f.toJson.outline = .ok f :=
      fun f hf => decodeField_toJson (h f hf) (List.all_eq_true.1 hexact f hf)
    refine .entry rfl hnew ?_
    simp only [readModule]
    rw [decodeList_toJson hfields]
    rfl
  | rules =>
    refine .unlessEmpty (.mk (·.rules) fun draft rules => { draft with rules }) rfl hnew ?_ rfl
    simp only [readModule]
    rw [decodeList_toJson fun _ _ => rfl]
    rfl

theorem Module.toJson_eq (m : Module) :
    m.toJson = .object (moduleRecord.attributes.flatMap m.entriesOf) := by
  simp [Module.toJson, moduleRecord, Module.entriesOf]

/-- **A module is read off its own JSON value.** -/
theorem decodeModule_toJson {m : Module}
    (h : ∀ f ∈ m.fields, StorableEntries (depth + 1) f.extensions) (hexact : m.isExact = true) :
    decodeModule (depth + 5) m.toJson.outline = .ok m := by
  rw [m.toJson_eq]
  refine Enters.decodeRecord_attributes (Module.enters h hexact) ?_ (by decide) (by decide) ?_
  · rintro draft slot other hne
    cases slot <;> cases other <;> first | rfl | exact absurd rfl hne
  · simp [moduleRecord, ModuleDraft.put, join_map_some, Enters.getD_listOf]

/-- **A form is read off its own JSON value.** -/
theorem decodeForm_toJson {form : Form} (h : StorableEntries depth form.entries)
    (hexact : form.isExact = true) : decodeForm (depth + 1) form.toJson.outline = .ok form := by
  rw [decodeForm, Form.toJson, decodeMap_outline h hexact]
  exact congrArg Except.ok (Dictionary.ext form.ascending.collectEntries_eq)

/-! ## Only extensions may hold numbers of the binary format -/

theorem exactEntries_flatMap {α : Type} {entriesOf : α → List (String × Value)} {slots : List α}
    (h : ∀ slot ∈ slots, Value.exactEntries (entriesOf slot) = true) :
    Value.exactEntries (slots.flatMap entriesOf) = true := by
  rw [Value.exactEntries_iff]
  intro entry hentry
  obtain ⟨slot, hslot, hmem⟩ := List.mem_flatMap.1 hentry
  exact Value.exactEntries_iff.1 (h slot hslot) entry hmem

theorem exactEntries_singleton {key : String} {v : Value} (h : v.isExact = true) :
    Value.exactEntries [(key, v)] = true := by
  rw [Value.exactEntries, h]
  rfl

theorem exactEntries_optionEntry {α : Type} {key : String} {toJson : α → Value} {a : Option α}
    (h : ∀ x, (toJson x).isExact = true) :
    Value.exactEntries (optionEntry key toJson a) = true := by
  cases a with
  | none => rfl
  | some x => exact exactEntries_singleton (h x)

theorem isExact_array_map {α : Type} {toJson : α → Value} {items : List α}
    (h : ∀ x ∈ items, (toJson x).isExact = true) :
    (Value.array (items.map toJson)).isExact = true := by
  rw [Value.isExact, Value.exactItems_iff, List.forall_mem_map]
  exact h

theorem exactEntries_unlessEmpty {α : Type} {key : String} {items : List α} {v : Value}
    (h : v.isExact = true) :
    Value.exactEntries (if items.isEmpty then [] else [(key, v)]) = true := by
  split
  · rfl
  · exact exactEntries_singleton h

theorem Condition.isExact_toJson (c : Condition) : c.toJson.isExact = true := by
  rw [Condition.toJson]
  cases c.value <;> rfl

theorem Field.isExact_toJson {f : Field} (h : Value.exactEntries f.extensions = true) :
    f.toJson.isExact = true := by
  rw [f.toJson_eq, Value.isExact]
  refine exactEntries_flatMap fun slot _ => ?_
  cases slot with
  | label | parent | pattern => exact exactEntries_optionEntry fun _ => rfl
  | minLength | maxLength => exact exactEntries_optionEntry fun _ => rfl
  | rules => exact exactEntries_unlessEmpty (isExact_array_map fun _ _ => rfl)
  | conditions => exact exactEntries_unlessEmpty (isExact_array_map fun c _ => c.isExact_toJson)
  | choices => exact exactEntries_unlessEmpty (isExact_array_map fun _ _ => rfl)
  | extensions => exact exactEntries_unlessEmpty h
  | _ => rfl

theorem Module.isExact_toJson {m : Module} (h : m.isExact = true) : m.toJson.isExact = true := by
  rw [m.toJson_eq, Value.isExact]
  refine exactEntries_flatMap fun slot _ => ?_
  cases slot with
  | id => rfl
  | label => exact exactEntries_optionEntry fun _ => rfl
  | fields =>
    exact exactEntries_singleton
      (isExact_array_map fun f hf => Field.isExact_toJson (List.all_eq_true.1 h f hf))
  | rules => exact exactEntries_unlessEmpty (isExact_array_map fun _ _ => rfl)

theorem Form.isExact_toJson {form : Form} (h : form.isExact = true) : form.toJson.isExact = true :=
  h

/-! ## Whole texts -/

theorem exists_of_decodeText {α : Type} {decode : Nat → Outline → Decoded α} {text : String}
    {a : α} (h : decodeText decode text = .ok a) : ∃ o, decode maxDepth o = .ok a := by
  rw [decodeText] at h
  cases houtline : Outline.ofText text.toList with
  | mk o rest =>
    rw [houtline] at h
    obtain ⟨b, hb, h⟩ := bind_eq_ok_iff.1 h
    split at h
    · cases h
      exact ⟨o, hb⟩
    · cases h

theorem ofJson_toJsonText {m : Module}
    (hstorable : ∀ f ∈ m.fields, StorableEntries 123 f.extensions) (hexact : m.isExact = true) :
    Module.ofJson m.toJsonText = .ok m := by
  rw [Module.ofJson, Module.toJsonText, Value.indentedText,
    decodeText_of_spells (spells_indented (Module.isExact_toJson hexact) 0)]
  exact decodeModule_toJson hstorable hexact

/-- **Round trips.**  However a text spells a module, the module's own text is read as the module,
so that a text that was read and written once stays as it is; and both layouts of a form that was
read are read as the form.  The extensions of the module and the values of the form have no
numbers of the binary format in them. -/
theorem ofJson_toJson :
    (∀ (text : String) (m : Module), Module.ofJson text = .ok m → m.isExact = true →
      Module.ofJson m.toJsonText = .ok m ∧
      (Module.ofJson m.toJsonText).map Module.toJsonText = .ok m.toJsonText) ∧
    ∀ (text : String) (form : Form), Form.ofJson text = .ok form → form.isExact = true →
      Form.ofJson form.toJson.compactText = .ok form ∧
      Form.ofJson form.toJson.indentedText = .ok form := by
  constructor
  · intro text m hread hexact
    obtain ⟨o, ho⟩ := exists_of_decodeText hread
    -- a module, its fields and their extensions take four of the containers
    have hstorable : ∀ f ∈ m.fields, StorableEntries 123 f.extensions := storable_of_decodeModule ho
    have hmodule : Module.ofJson m.toJsonText = .ok m := ofJson_toJsonText hstorable hexact
    refine ⟨hmodule, ?_⟩
    rw [hmodule]
    rfl
  · intro text form hread hexact
    obtain ⟨o, ho⟩ := exists_of_decodeText hread
    have hstorable : StorableEntries 126 form.entries := storable_of_decodeForm ho
    have hform : decodeForm maxDepth form.toJson.outline = .ok form :=
      decodeForm_toJson hstorable hexact
    constructor
    · rw [Form.ofJson, Value.compactText,
        decodeText_of_spells (spells_compact (Form.isExact_toJson hexact)), hform]
    · rw [Form.ofJson, Value.indentedText,
        decodeText_of_spells (spells_indented (Form.isExact_toJson hexact) 0), hform]

/-- A module in loose spelling: records as arrays and as objects, other names for attributes and
operators, a `null`, attributes that are left out and one that nobody knows. -/
def looseModuleText : String :=
  "[\"m\", null, [\x7b\"type\": \"date\", \"id\": \"b\", \"hint\": 1.5,
    \"conditions\": [[\"a\", \"is_empty\", null, \"hide\"]],
    \"extensions\": \x7b\"k\": [1, null], \"h\": \"\\u0041\"\x7d\x7d]]"

/-- The module in loose spelling. -/
def looseModule : Module where
  id := "m"
  label := none
  fields := [{ Field.ofId "b" .date with
    conditions := [⟨"a", .isEmpty, none, .hide⟩]
    extensions := [("h", .string "A"), ("k", .array [.number (.whole 1 (by decide)), .null])] }]
  rules := []

/-- A form in loose spelling: keys out of order, and one that is given twice. -/
def looseFormText : String := " \x7b\"b\" : [true, 7 ],\"a\":1, \"a\": null\x7d "

/-- The form in loose spelling. -/
def looseForm : Form :=
  .ofList [("a", .null), ("b", .array [.boolean true, .number (.whole 7 (by decide))])]

theorem ofJson_toJson_loose :
    (Module.ofJson looseModuleText = .ok looseModule ∧
      Module.ofJson looseModule.toJsonText = .ok looseModule) ∧
    Form.ofJson looseFormText = .ok looseForm ∧
      Form.ofJson looseForm.toJson.compactText = .ok looseForm := by
  have hmodule : Module.ofJson looseModuleText = .ok looseModule := by decide +kernel
  have hform : Form.ofJson looseFormText = .ok looseForm := by decide +kernel
  exact ⟨⟨hmodule, (ofJson_toJson.1 looseModuleText looseModule hmodule rfl).1⟩,
    hform, (ofJson_toJson.2 looseFormText looseForm hform rfl).1⟩

end DynamicForms
