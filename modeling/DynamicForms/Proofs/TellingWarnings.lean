import DynamicForms.Proofs.BlankValues
import DynamicForms.Proofs.OwnValues
import DynamicForms.Proofs.RepairedReport

/-!
# What warnings tell

A report warns of conditions and of bounds for lengths by looking at the declarations only.  What it
tells of them is true of every form that is filled in.

* `valueWarnings`, `ofKinds_missingComparisonValue`, `ofKinds_lengthBoundsInverted` — the warnings
  in a report are those that the conditions and the declarations draw, one by one.
* `Condition.holds_eq_false`, `Condition.exists_holds` — a condition that draws a warning never
  holds, and any other one without a comparison value holds at times.
* `Field.AdmitsLength`, `Field.leastLength` — the lengths within the bounds of a field, and the
  least that may be; `lengthWarnings_ne_nil_iff`: a field draws a warning when there are none.
* `isValid_check_length_iff`, `exists_text` — the rule for lengths passes the texts of these
  lengths, and there is one of each.
* `exists_lengthError` — with bounds that exclude each other any value that is entered is found too
  short or too long.
* `WarnsRightly`, `check_warnsRightly` — all this of the report on a module.
-/

set_option autoImplicit false

namespace DynamicForms

open Json (Value)
open Structure

/-! ## The warnings that are drawn -/

namespace Structure

/-- The warning that a condition of a field draws for the comparison value it lacks. -/
def valueWarnings (id : String) (c : Condition) : List Issue :=
  if c.operator.needsComparisonValue = true ∧ c.value = none then
    [⟨id, .missingComparisonValue c.operator⟩]
  else []

theorem valueWarnings_eq_nil_iff {id : String} {c : Condition} :
    valueWarnings id c = [] ↔ (c.value = none → c.operator.needsComparisonValue = false) := by
  unfold valueWarnings
  rw [ite_eq_right_iff, ← Bool.not_eq_true]
  simp only [List.cons_ne_nil, imp_false, not_and']

theorem ofKinds_conditionWarnings (ids : List String) (id : String) (c : Condition) :
    ofKinds [.missingComparisonValue] (conditionWarnings ids id c) = valueWarnings id c := by
  have htrigger : ofKinds [.missingComparisonValue]
      (if c.trigger = id then [⟨id, .selfTrigger c.action⟩]
        else if ids.contains c.trigger then [] else [⟨id, .unknownTrigger c.trigger⟩]) = [] := by
    refine ofKinds_eq_nil fun issue hissue => ?_
    split at hissue
    · simp [List.mem_singleton.1 hissue, Finding.kind]
    · split at hissue
      · cases hissue
      · simp [List.mem_singleton.1 hissue, Finding.kind]
  unfold conditionWarnings valueWarnings
  rw [ofKinds_append, htrigger, List.nil_append]
  simp only [Bool.and_eq_true, Option.isNone_iff_eq_none]
  refine ofKinds_eq_self fun issue hissue => ?_
  split at hissue
  · simp [List.mem_singleton.1 hissue, Finding.kind]
  · cases hissue

end Structure

section Drawn

variable (m : Module) (config : Config)

theorem ofKinds_warnings_check {kind : FindingKind} (hkind : kind ≠ .deepNesting) :
    ofKinds [kind] (m.check config).warnings =
      m.fields.flatMap fun f => ofKinds [kind] (fieldWarnings m.ids f) := by
  have hdepth : ofKinds [kind]
      (depthWarnings (parentsOfAll m.fields) config.maxDepthWarning m.ids) = [] := by
    refine ofKinds_eq_nil fun issue hissue => ?_
    rw [kind_of_mem_depthWarnings hissue, List.mem_singleton]
    exact hkind.symm
  rw [warnings_check, ofKinds_append, hdepth, List.append_nil, ofKinds_flatMap]

/-- **The warnings of missing comparison values** are those that the conditions draw. -/
theorem ofKinds_missingComparisonValue :
    ofKinds [.missingComparisonValue] (m.check config).warnings =
      m.fields.flatMap fun f => f.conditions.flatMap (valueWarnings f.id) := by
  rw [ofKinds_warnings_check m config (by decide)]
  refine List.flatMap_congr fun f _ => ?_
  have hlength : ofKinds [.missingComparisonValue] (lengthWarnings f) = [] :=
    ofKinds_eq_nil fun issue hissue => by simp [kind_of_mem_lengthWarnings hissue]
  unfold fieldWarnings
  rw [ofKinds_append, hlength, List.append_nil, ofKinds_flatMap]
  simp only [ofKinds_conditionWarnings]

/-- **The warnings of bounds** are those that the declarations draw. -/
theorem ofKinds_lengthBoundsInverted :
    ofKinds [.lengthBoundsInverted] (m.check config).warnings =
      m.fields.flatMap lengthWarnings := by
  rw [ofKinds_warnings_check m config (by decide)]
  refine List.flatMap_congr fun f _ => ?_
  have hconditions : ofKinds [.lengthBoundsInverted]
      (f.conditions.flatMap (conditionWarnings m.ids f.id)) = [] := by
    refine ofKinds_eq_nil fun issue hissue hkind => ?_
    obtain ⟨c, _, hc⟩ := List.mem_flatMap.1 hissue
    have hother := kind_of_mem_conditionWarnings hc
    rw [List.mem_singleton.1 hkind] at hother
    exact absurd hother (by decide)
  unfold fieldWarnings
  rw [ofKinds_append, hconditions, List.nil_append]
  exact ofKinds_eq_self fun issue hissue => by simp [kind_of_mem_lengthWarnings hissue]

end Drawn

/-! ## Conditions without a comparison value -/

namespace Condition

variable {c : Condition} (hvalue : c.value = none)

include hvalue

/-- **A condition that lacks the value it needs never holds.** -/
theorem holds_eq_false (hneeds : c.operator.needsComparisonValue = true) (form : Form) :
    c.holds form = false := by
  unfold holds Logic.holdsFor
  rw [hvalue]
  cases hop : c.operator with
  | contains => rfl
  | greaterThan | lessThan => simp [Logic.valueOrder]
  | equals | notEquals | isEmpty | isNotEmpty =>
    rw [hop] at hneeds
    cases hneeds

/-- **A condition that needs no value holds at times**: when nothing is entered, or when anything
is. -/
theorem exists_holds (hneeds : c.operator.needsComparisonValue = false) :
    ∃ form, c.holds form = true := by
  have hempty : Form.value .empty c.trigger = .null := rfl
  have hentered : Form.value (.insert .empty c.trigger (.string "x")) c.trigger = .string "x" := by
    rw [Form.value_insert, if_pos rfl]
  unfold holds Logic.holdsFor
  rw [hvalue]
  cases hop : c.operator with
  | equals | isEmpty =>
    refine ⟨.empty, ?_⟩
    rw [hempty]
    decide
  | notEquals | isNotEmpty =>
    refine ⟨.insert .empty c.trigger (.string "x"), ?_⟩
    rw [hentered]
    decide
  | contains | greaterThan | lessThan =>
    rw [hop] at hneeds
    cases hneeds

end Condition

/-! ## Bounds for lengths -/

/-- A length is within the bounds of a field. -/
def Field.AdmitsLength (f : Field) (n : Nat) : Prop :=
  (∀ min, f.minLength = some min → min.toNat ≤ n) ∧ ∀ max, f.maxLength = some max → n ≤ max.toNat

/-- The least length that a field asks for. -/
def Field.leastLength (f : Field) : Nat := (f.minLength.map UInt64.toNat).getD 0

section Lengths

variable {f : Field} {n : Nat}

theorem not_admitsLength_iff : ¬ f.AdmitsLength n ↔
    (∃ min, f.minLength = some min ∧ n < min.toNat) ∨
      ∃ max, f.maxLength = some max ∧ max.toNat < n := by
  unfold Field.AdmitsLength
  rw [not_and_or]
  simp only [not_forall, Nat.not_le, exists_prop]

theorem Field.AdmitsLength.leastLength (h : f.AdmitsLength n) : f.AdmitsLength f.leastLength := by
  unfold Field.leastLength
  cases hmin : f.minLength with
  | none => exact ⟨fun min h => by simp [hmin] at h, fun _ _ => Nat.zero_le _⟩
  | some min =>
    refine ⟨fun other hother => ?_, fun max hmax => (h.1 min hmin).trans (h.2 max hmax)⟩
    rw [hmin, Option.some.injEq] at hother
    rw [hother, Option.map_some, Option.getD_some]

/-- **Bounds draw no warning** when the least length is within them. -/
theorem lengthWarnings_eq_nil_iff : lengthWarnings f = [] ↔ f.AdmitsLength f.leastLength := by
  unfold lengthWarnings Field.AdmitsLength Field.leastLength
  cases f.minLength with
  | none => simp
  | some min =>
    cases f.maxLength with
    | none => simp
    | some max => simp [UInt64.le_iff_toNat_le]

/-- **Bounds draw a warning** when no length is within them. -/
theorem lengthWarnings_ne_nil_iff : lengthWarnings f ≠ [] ↔ ∀ n, ¬ f.AdmitsLength n := by
  rw [ne_eq, lengthWarnings_eq_nil_iff]
  exact ⟨fun hleast _ h => hleast h.leastLength, fun h => h _⟩

theorem lengthViolations_eq_nil_iff : Rule.lengthViolations f n = [] ↔ f.AdmitsLength n := by
  rw [List.eq_nil_iff_forall_not_mem]
  constructor
  · intro hnone
    by_contra hnot
    rcases not_admitsLength_iff.1 hnot with ⟨min, hmin⟩ | ⟨max, hmax⟩
    · exact hnone _ (Registry.mem_lengthViolations.2 (.inl ⟨min, rfl, hmin⟩))
    · exact hnone _ (Registry.mem_lengthViolations.2 (.inr ⟨max, rfl, hmax⟩))
  · intro hadmits a ha
    refine not_admitsLength_iff.2 ?_ hadmits
    rcases Registry.mem_lengthViolations.1 ha with ⟨min, _, hmin⟩ | ⟨max, _, hmax⟩
    · exact .inl ⟨min, hmin⟩
    · exact .inr ⟨max, hmax⟩

end Lengths

section Check

variable {node : Node} {v : Value} {form : Form}

/-- **The rule for lengths** passes the texts whose length is within the bounds. -/
theorem isValid_check_length_iff : (Rule.length.check node v form).isValid = true ↔
    ∀ text, v.text? = some text → node.field.AdmitsLength text.length := by
  rw [Verdict.isValid_iff]
  cases htext : v.text? with
  | none => simp [Rule.length, htext]
  | some text =>
    rw [Registry.errors_check_length htext, List.map_eq_nil_iff, lengthViolations_eq_nil_iff]
    simp

theorem exists_text (n : Nat) : ∃ v text, v ≠ Value.null ∧ v.text? = some text ∧ text.length = n :=
  ⟨.string (.ofList (.replicate n 'x')), _, nofun, by rw [Value.text?],
    by rw [String.toList_ofList, List.length_replicate]⟩

/-- **A field draws a warning of its bounds when no value passes** the rule for lengths. -/
theorem lengthWarnings_ne_nil_iff_check (node : Node) (form : Form) :
    lengthWarnings node.field ≠ [] ↔
      ∀ v, v ≠ .null → (Rule.length.check node v form).isValid = false := by
  rw [lengthWarnings_ne_nil_iff]
  constructor
  · intro hnone v hv
    obtain ⟨text, htext⟩ := Option.ne_none_iff_exists'.1 (mt Value.text?_eq_none_iff.1 hv)
    rw [← Bool.not_eq_true, isValid_check_length_iff]
    exact fun hall => hnone _ (hall text htext)
  · intro hfails n hadmits
    obtain ⟨v, text, hv, htext, rfl⟩ := exists_text n
    have hpasses : (Rule.length.check node v form).isValid = true := by
      rw [isValid_check_length_iff, htext]
      rintro _ ⟨⟩
      exact hadmits
    rw [hfails v hv] at hpasses
    cases hpasses

end Check

/-! ## Values that are entered -/

/-- The error says that a text is too short or too long. -/
def FieldError.IsLengthError (e : FieldError) : Prop :=
  e.code = "MIN_LENGTH" ∨ e.code = "MAX_LENGTH"

/-- **Of bounds that exclude each other** one is broken by any value that is entered, and the
standard rules tell so, whatever else they tell. -/
theorem exists_lengthError {engine : PatternEngine} {config : Config} {node : Node} {v : Value}
    {form : Form} {extra : List String} (hwarnings : lengthWarnings node.field ≠ [])
    (hblank : v.isBlank = false) :
    ∃ e ∈ ((Registry.standard engine config).checkWith node v form extra).errors,
      e.IsLengthError := by
  obtain ⟨violations, hspec, hverdict⟩ :=
    Registry.checkWith_standard engine config node v form extra
  obtain ⟨text, _, hviolations⟩ := hspec.entered hblank
  rw [hverdict]
  rcases not_admitsLength_iff.1 (lengthWarnings_ne_nil_iff.1 hwarnings text.length) with
    ⟨min, hmin⟩ | ⟨max, hmax⟩
  · exact ⟨_, List.mem_map_of_mem ((hviolations.tooShort_iff min).2 hmin), .inl rfl⟩
  · exact ⟨_, List.mem_map_of_mem ((hviolations.tooLong_iff max).2 hmax), .inr rfl⟩

/-! ## Main theorem -/

/-- What the warnings in a report on a module tell of the forms that are filled in. -/
structure WarnsRightly (m : Module) (report : Report) : Prop where
  /-- Every condition draws its own warning. -/
  missing_eq : ofKinds [.missingComparisonValue] report.warnings =
    m.fields.flatMap fun f => f.conditions.flatMap (valueWarnings f.id)
  never_holds : ∀ f ∈ m.fields, ∀ c ∈ f.conditions, valueWarnings f.id c ≠ [] →
    ∀ form, c.holds form = false
  exists_holds : ∀ f ∈ m.fields, ∀ c ∈ f.conditions, valueWarnings f.id c = [] →
    c.value = none → ∃ form, c.holds form = true
  /-- Every declaration draws its own warning. -/
  inverted_eq : ofKinds [.lengthBoundsInverted] report.warnings = m.fields.flatMap lengthWarnings
  inverted_iff : ∀ f ∈ m.fields, ∀ (node : Node) (form : Form), node.field = f →
    (lengthWarnings f ≠ [] ↔
      ∀ v, v ≠ .null → (Rule.length.check node v form).isValid = false)
  /-- Without the warning, a text passes that is as long as it has to be and no longer. -/
  least_passes : ∀ f ∈ m.fields, lengthWarnings f = [] →
    ∀ (node : Node) (v : Value) (form : Form) (text : List Char), node.field = f →
      v.text? = some text → text.length = f.leastLength →
      (Rule.length.check node v form).isValid = true
  /-- No value that is entered passes the standard rules, whatever ids of rules are added. -/
  inverted_entered : ∀ f ∈ m.fields, lengthWarnings f ≠ [] →
    ∀ (engine : PatternEngine) (config : Config) (node : Node) (v : Value) (form : Form)
      (extra : List String), node.field = f → v.isBlank = false →
      ∃ e ∈ ((Registry.standard engine config).checkWith node v form extra).errors, e.IsLengthError
  /-- Nor does it when a whole form is checked. -/
  inverted_inModule : ∀ id f, m.field? id = some f → lengthWarnings f ≠ [] →
    ∀ (engine : PatternEngine) (config : Config) (form : Form), (form.value id).isBlank = false →
      ∃ e ∈ ((Registry.standard engine config).checkModule m form).errorsFor id, e.IsLengthError

/-- **Warnings tell what is true of all forms**: of conditions that they never hold, and of bounds
that nothing is within them. -/
theorem check_warnsRightly (m : Module) (config : Config) : WarnsRightly m (m.check config) where
  missing_eq := ofKinds_missingComparisonValue m config
  never_holds := by
    intro f _ c _ hwarnings form
    rw [ne_eq, valueWarnings_eq_nil_iff, Classical.not_imp, Bool.not_eq_false] at hwarnings
    exact c.holds_eq_false hwarnings.1 hwarnings.2 form
  exists_holds := by
    intro f _ c _ hnone hvalue
    exact c.exists_holds hvalue (valueWarnings_eq_nil_iff.1 hnone hvalue)
  inverted_eq := ofKinds_lengthBoundsInverted m config
  inverted_iff := by
    rintro _ _ node form rfl
    exact lengthWarnings_ne_nil_iff_check node form
  least_passes := by
    rintro _ _ hnone node v form text rfl htext hlength
    rw [isValid_check_length_iff, htext]
    rintro _ ⟨⟩
    exact hlength ▸ lengthWarnings_eq_nil_iff.1 hnone
  inverted_entered := by
    rintro _ _ hwarnings engine config node v form extra rfl hblank
    exact exists_lengthError hwarnings hblank
  inverted_inModule := by
    rintro id f hf hwarnings engine config form hblank
    have hmem : f ∈ (Forest.build m).nodesInOrder.map (·.field) :=
      mem_fields_nodesInOrder.2 (Module.id_of_field? hf ▸ hf)
    obtain ⟨node, hnode, rfl⟩ := List.mem_map.1 hmem
    obtain rfl := Module.id_of_field? hf
    rw [errorsFor_checkModule hnode fun _ _ he =>
      Registry.field_of_mem_errors_checkWith (Registry.isLocal_standard engine config) he]
    exact exists_lengthError hwarnings hblank

end DynamicForms
