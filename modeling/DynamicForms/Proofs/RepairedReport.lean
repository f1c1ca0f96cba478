import DynamicForms.Proofs.Agreement
import DynamicForms.Proofs.RepairedForest

/-!
# Reports on repaired modules

A repair drops only parents that a report does not follow, so that the report on a repaired module
is the one on the module without what was repaired.

* `Field.UnusableParent`, `Field.IsRepair` — what a repair does to one declaration.
* `parentErrors_eq_nil_iff`, `usableParent?_eq_none` — a report complains about unusable parents,
  and does not follow them.
* `parentsOfAll_repair` — so the parents that a report follows are those of the module; its cycles
  and depths are, too.
* `Structure.ofKinds` — the issues of some kinds; `kind_of_mem_conditionWarnings` and the like say
  which warnings are of which.
* `errors_check_repair`, `warnings_check_repair` — what a report says on a repaired module.
* `Module.RepairedTo`, `repairedTo_repair` — what a repair does to a module, whatever is wrong with
  it, and what is left of its reports.
-/

set_option autoImplicit false

namespace DynamicForms

open Structure

/-! ## One declaration -/

namespace Field

variable {ids : List String} {f : Field}

/-- The parent is missing or the field itself. -/
def UnusableParent (ids : List String) (f : Field) : Prop :=
  ∃ p, f.parent = some p ∧ (p = f.id ∨ p ∉ ids)

/-- What a repair makes of a declaration: it loses its parent if that is unusable, and is the same
otherwise. -/
structure IsRepair (ids : List String) (f g : Field) : Prop where
  cleared : f.UnusableParent ids → g = { f with parent := none }
  kept : ¬ f.UnusableParent ids → g = f

theorem isRepair_withoutUnusableParent (ids : List String) (f : Field) :
    f.IsRepair ids (f.withoutUnusableParent ids) where
  cleared := by
    rintro ⟨p, hp, hunusable⟩
    unfold withoutUnusableParent
    simp only [hp, if_pos hunusable]
  kept := by
    intro husable
    unfold withoutUnusableParent
    cases hp : f.parent with
    | none => rfl
    | some p => exact if_neg fun hunusable => husable ⟨p, hp, hunusable⟩

/-- **No repaired field has an unusable parent.** -/
theorem not_unusableParent_withoutUnusableParent (ids : List String) (f : Field) :
    ¬ (f.withoutUnusableParent ids).UnusableParent ids := by
  rintro ⟨p, hp, hunusable⟩
  rw [parent_withoutUnusableParent, Option.filter_eq_some_iff, decide_eq_true_iff] at hp
  rw [id_withoutUnusableParent] at hunusable
  tauto

end Field

namespace Structure

variable {ids : List String} {f : Field}

theorem parentErrors_eq_nil_iff : parentErrors ids f = [] ↔ ¬ f.UnusableParent ids := by
  unfold parentErrors Field.UnusableParent
  cases f.parent with
  | none => simp
  | some p => by_cases hself : p = f.id <;> by_cases hmem : p ∈ ids <;> simp [hself, hmem]

theorem usableParent?_eq_none (h : f.UnusableParent ids) : usableParent? ids f = none := by
  refine Option.eq_none_iff_forall_ne_some.2 fun i hi => ?_
  obtain ⟨q, hq, hne, hlast⟩ := usableParent?_eq_some_iff.1 hi
  obtain ⟨p, hp, hself | hmissing⟩ := h <;> rw [hq, Option.some.injEq] at hp <;> subst hp
  · exact hne hself
  · exact hmissing (mem_of_lastIndexOf? hlast)

/-- **A repair leaves the parents that are followed.** -/
theorem usableParent?_withoutUnusableParent (ids : List String) (f : Field) :
    usableParent? ids (f.withoutUnusableParent ids) = usableParent? ids f := by
  by_cases h : f.UnusableParent ids
  · rw [(f.isRepair_withoutUnusableParent ids).cleared h, usableParent?_eq_none h]
    rfl
  · rw [(f.isRepair_withoutUnusableParent ids).kept h]

theorem fieldWarnings_withoutUnusableParent (ids : List String) (f : Field) :
    fieldWarnings ids (f.withoutUnusableParent ids) = fieldWarnings ids f := by
  rcases f.withoutUnusableParent_cases ids with h | h <;> rw [h]
  rfl

end Structure

/-! ## Some of the issues -/

namespace Structure

variable {kinds : List FindingKind} {issues : List Issue}

/-- The issues of some kinds, in their order. -/
def ofKinds (kinds : List FindingKind) (issues : List Issue) : List Issue :=
  issues.filter fun issue => issue.finding.kind ∈ kinds

theorem ofKinds_append (kinds : List FindingKind) (issues more : List Issue) :
    ofKinds kinds (issues ++ more) = ofKinds kinds issues ++ ofKinds kinds more := by
  unfold ofKinds
  rw [List.filter_append]

theorem ofKinds_eq_self (h : ∀ issue ∈ issues, issue.finding.kind ∈ kinds) :
    ofKinds kinds issues = issues := by
  unfold ofKinds
  rw [List.filter_eq_self]
  exact fun issue hissue => decide_eq_true (h issue hissue)

theorem ofKinds_eq_nil (h : ∀ issue ∈ issues, issue.finding.kind ∉ kinds) :
    ofKinds kinds issues = [] := by
  unfold ofKinds
  rw [List.filter_eq_nil_iff]
  exact fun issue hissue => by simpa using h issue hissue

theorem ofKinds_flatMap {α : Type} (kinds : List FindingKind) (g : α → List Issue) (l : List α) :
    ofKinds kinds (l.flatMap g) = l.flatMap fun a => ofKinds kinds (g a) :=
  List.filter_flatMap

theorem kind_of_mem_conditionWarnings {issue : Issue} {ids : List String} {id : String}
    {c : Condition} (h : issue ∈ conditionWarnings ids id c) :
    issue.finding.kind ∈
      [FindingKind.selfTrigger, .unknownTrigger, .missingComparisonValue] := by
  unfold conditionWarnings at h
  rcases List.mem_append.1 h with h | h
  · split at h
    · rw [List.mem_singleton.1 h]
      simp [Finding.kind]
    · split at h
      · cases h
      · rw [List.mem_singleton.1 h]
        simp [Finding.kind]
  · split at h
    · rw [List.mem_singleton.1 h]
      simp [Finding.kind]
    · cases h

theorem kind_of_mem_lengthWarnings {issue : Issue} {f : Field} (h : issue ∈ lengthWarnings f) :
    issue.finding.kind = .lengthBoundsInverted := by
  unfold lengthWarnings at h
  split at h
  · split at h
    · rw [List.mem_singleton.1 h]
      rfl
    · cases h
  · cases h

theorem kind_of_mem_depthWarnings {issue : Issue} {parents : Parents} {limit : Option UInt64}
    {ids : List String} (h : issue ∈ depthWarnings parents limit ids) :
    issue.finding.kind = .deepNesting := by
  unfold depthWarnings at h
  split at h
  · cases h
  · obtain ⟨⟨id, i⟩, _, hissue⟩ := List.mem_flatMap.1 h
    dsimp only at hissue
    split at hissue
    · rw [List.mem_singleton.1 hissue]
      rfl
    · cases hissue

end Structure

/-! ## All declarations -/

section Repair

variable (m : Module) (config : Config)

theorem repair_repair : m.repair.repair = m.repair := by
  have hfields : m.repair.fields.map (Field.withoutUnusableParent m.ids) = m.repair.fields := by
    rw [Module.fields_repair, List.map_map]
    refine List.map_congr_left fun f _ => ?_
    exact (Field.isRepair_withoutUnusableParent m.ids _).kept
      (f.not_unusableParent_withoutUnusableParent m.ids)
  have hrepair : m.repair.repair =
      { m.repair with fields := m.repair.fields.map (Field.withoutUnusableParent m.repair.ids) } :=
    rfl
  rw [hrepair, Module.ids_repair, hfields]

theorem forall₂_isRepair : List.Forall₂ (Field.IsRepair m.ids) m.fields m.repair.fields := by
  rw [Module.fields_repair, List.forall₂_map_right_iff]
  exact List.forall₂_same.2 fun f _ => f.isRepair_withoutUnusableParent m.ids

/-- **The parents that a report follows** are the same in the repaired module. -/
theorem parentsOfAll_repair : parentsOfAll m.repair.fields = parentsOfAll m.fields := by
  have hids : m.repair.fields.map (·.id) = m.ids := m.ids_repair
  unfold parentsOfAll
  rw [hids, Module.fields_repair, List.map_map]
  refine congrArg List.toArray (List.map_congr_left fun f _ => ?_)
  exact usableParent?_withoutUnusableParent m.ids f

/-- **The errors that are left** are those for ids and for cycles. -/
theorem errors_check_repair : (m.repair.check config).errors =
    ofKinds [.duplicateId, .parentCycle] (m.check config).errors := by
  have hparents : m.repair.fields.flatMap (parentErrors m.ids) = [] := by
    rw [Module.fields_repair, List.flatMap_map, List.flatMap_eq_nil_iff]
    intro f _
    exact parentErrors_eq_nil_iff.2 (f.not_unusableParent_withoutUnusableParent m.ids)
  have hdropped : ofKinds [.duplicateId, .parentCycle] (m.fields.flatMap (parentErrors m.ids)) =
      [] := by
    refine ofKinds_eq_nil fun issue hissue => ?_
    obtain ⟨f, _, hf⟩ := List.mem_flatMap.1 hissue
    rcases kind_of_mem_parentErrors hf with hkind | hkind <;> simp [hkind]
  have hduplicates : ofKinds [.duplicateId, .parentCycle] (duplicateErrors [] m.ids) =
      duplicateErrors [] m.ids :=
    ofKinds_eq_self fun issue hissue => by simp [kind_of_mem_duplicateErrors hissue]
  have hcycles : ofKinds [.duplicateId, .parentCycle]
      ((parentsOfAll m.fields).findCycles.flatMap (cycleErrors m.ids.toArray)) =
      (parentsOfAll m.fields).findCycles.flatMap (cycleErrors m.ids.toArray) := by
    refine ofKinds_eq_self fun issue hissue => ?_
    obtain ⟨cycle, _, hcycle⟩ := List.mem_flatMap.1 hissue
    simp [kind_of_mem_cycleErrors hcycle]
  rw [errors_check, errors_check, ofKinds_append, ofKinds_append, hduplicates, hdropped, hcycles,
    Module.ids_repair, hparents, parentsOfAll_repair]

/-- **The warnings are the same**, those for depth included. -/
theorem warnings_check_repair :
    (m.repair.check config).warnings = (m.check config).warnings := by
  have hwarnings : m.repair.fields.flatMap (fieldWarnings m.ids) =
      m.fields.flatMap (fieldWarnings m.ids) := by
    rw [Module.fields_repair, List.flatMap_map]
    exact List.flatMap_congr fun f _ => fieldWarnings_withoutUnusableParent m.ids f
  rw [warnings_check, warnings_check, Module.ids_repair, hwarnings, parentsOfAll_repair]

end Repair

/-! ## Main theorem -/

/-- What a repair has to do to a module, and what is then left of its reports. -/
structure Module.RepairedTo (m repaired : Module) : Prop where
  /-- Every declaration is repaired, those as well that do not count. -/
  fields : List.Forall₂ (Field.IsRepair m.ids) m.fields repaired.fields
  /-- Nothing but declarations is changed. -/
  with_fields : { repaired with fields := m.fields } = m
  /-- A second repair has nothing to do. -/
  again : repaired.repair = repaired
  /-- The errors for ids and for cycles are left, as they were and in their order. -/
  errors_eq : ∀ config, (repaired.check config).errors =
    ofKinds [.duplicateId, .parentCycle] (m.check config).errors
  /-- All warnings are left. -/
  warnings_eq : ∀ config, (repaired.check config).warnings = (m.check config).warnings

/-- **A repair mends unusable parents and nothing else**, and reports on the module tell of the rest
as before. -/
theorem repairedTo_repair (m : Module) : m.RepairedTo m.repair where
  fields := forall₂_isRepair m
  with_fields := rfl
  again := repair_repair m
  errors_eq := errors_check_repair m
  warnings_eq := warnings_check_repair m

end DynamicForms
