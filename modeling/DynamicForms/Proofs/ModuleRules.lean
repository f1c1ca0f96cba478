import DynamicForms.Proofs.LocalRules
import DynamicForms.Proofs.MappedFields
import DynamicForms.Proofs.RuleRuns

/-!
# Rules of a module

A module can list rules for all its fields.  They run as if every field listed them behind its own
ones.

* `fresh` — the ids of a list that count on a field and do not come up on it anyway.
* `runs_append`, `errors_checkWith_behind` — of further ids the fresh ones run, behind all others;
  `checkWith_eq_checkField`: where a field is not looked at any closer, none does.
* `RunsBehind` — rules that run in this way.
* `Module.listingRules`, `checkModule_listingRules` — the module whose fields list its rules, and
  the verdicts on it.
* `checkModule_moduleRules` — the rules of a module run as if its fields listed them, each at most
  once and behind the rules of the field.
-/

set_option autoImplicit false

namespace DynamicForms

open Json (Value)

namespace Registry

/-! ## Further ids -/

/-- The ids of a list that are heeded on a field and do not come up on it anyway: its settings do
not ask for them, and it does not list them itself. -/
def fresh (f : Field) (listed : List String) : List String :=
  (heeded f listed).filter fun id => id ∉ f.impliedIds ∧ id ∉ f.rules

section Behind

variable {r : Registry} {f : Field} {node : Node} {v : Value} {form : Form} {extra : List String}

theorem mem_heeded {id : String} {listed : List String} :
    id ∈ heeded f listed ↔ id ∈ listed ∧ (f.required = true ∨ id ≠ requiredId) := by
  unfold heeded
  rw [List.mem_filter, Bool.or_eq_true, bne_iff_ne]

/-- **Of further ids those run that did not come up before**, behind all others. -/
theorem runs_append (r : Registry) (f : Field) (first ids : List String) :
    r.runs f (first ++ ids) = r.runs f first ++ r.runs f (ids.filter fun id => id ∉ first) := by
  unfold runs
  rw [pending_append, List.append_nil, List.filterMap_append, pending_eq_filter ids first]

theorem filter_heeded_eq_fresh (f : Field) (listed : List String) :
    (heeded f listed).filter (fun id => id ∉ f.impliedIds ++ heeded f f.rules) =
      fresh f listed := by
  refine List.filter_congr fun id hid => ?_
  rw [decide_eq_decide, List.mem_append, not_or, mem_heeded,
    and_iff_left (mem_heeded.1 hid).2]

/-- **The errors of further rules come behind those of the rules of the field.** -/
theorem errors_checkWith_behind (hpast : r.GetsPast node v form) :
    (r.checkWith node v form extra).errors = (r.checkField node v form).errors ++
      errorsOf node v form (r.runs node.field (fresh node.field extra)) := by
  unfold checkField
  rw [errors_checkWith hpast, errors_checkWith hpast, List.append_nil]
  have hsplit : node.field.impliedIds ++ heeded node.field (node.field.rules ++ extra) =
      (node.field.impliedIds ++ heeded node.field node.field.rules) ++ heeded node.field extra := by
    unfold heeded
    rw [List.filter_append, List.append_assoc]
  rw [hsplit, runs_append, filter_heeded_eq_fresh]
  exact List.flatMap_append

/-- **Where a value does not get past the rule for required fields**, no further rule runs. -/
theorem checkWith_eq_checkField (hpast : ¬ r.GetsPast node v form) :
    r.checkWith node v form extra = r.checkField node v form := by
  unfold GetsPast at hpast
  unfold checkField checkWith
  cases hrequired : node.field.required with
  | true =>
    rw [hrequired, if_pos rfl] at hpast
    simp only [hpast, if_true, Bool.false_eq_true, if_false]
  | false =>
    rw [hrequired, if_neg Bool.false_ne_true, Bool.not_eq_false] at hpast
    simp only [hpast, if_true, Bool.false_eq_true, if_false]

theorem getsPast_standard_iff {engine : PatternEngine} {config : Config} :
    (standard engine config).GetsPast node v form ↔ v.isBlank = false := by
  unfold GetsPast
  rw [getOr_standard_required]
  cases hsetting : node.field.required with
  | false => simp
  | true =>
    cases hblank : v.isBlank <;>
      simp [Rule.required, Rule.requiredViolations, hsetting, hblank, Verdict.of]

/-- Rules that run on a value because of a list that is not the field's own: none if the value is
blank, and otherwise each fresh one once. -/
structure RunsBehind (r : Registry) (f : Field) (v : Value) (listed : List String)
    (late : List (String × Rule)) : Prop where
  blank : v.isBlank = true → late = []
  once : v.isBlank = false → r.RunsOnce f (fresh f listed) late

theorem exists_runsBehind_standard (engine : PatternEngine) (config : Config) (node : Node)
    (v : Value) (form : Form) (listed : List String) :
    ∃ late, (standard engine config).RunsBehind node.field v listed late ∧
      ((standard engine config).checkWith node v form listed).errors =
        ((standard engine config).checkField node v form).errors ++ errorsOf node v form late := by
  cases hblank : v.isBlank with
  | true =>
    refine ⟨[], ⟨fun _ => rfl, fun h => ?_⟩, ?_⟩
    · rw [hblank] at h
      cases h
    · rw [checkWith_eq_checkField (by rw [getsPast_standard_iff, hblank]; simp)]
      exact (List.append_nil _).symm
  | false =>
    refine ⟨_, ⟨fun h => ?_, fun _ => runsOnce_runs _ _ _⟩,
      errors_checkWith_behind (getsPast_standard_iff.2 hblank)⟩
    rw [hblank] at h
    cases h

end Behind

end Registry

/-! ## Main theorem -/

/-- The module whose fields list its rules behind their own. -/
def Module.listingRules (m : Module) : Module :=
  m.mapFields fun f => { f with rules := f.rules ++ m.rules }

open Registry

/-- **Rules of a module run as if its fields listed them.** -/
theorem checkModule_listingRules (engine : PatternEngine) (config : Config) (m : Module)
    (form : Form) :
    (standard engine { config with moduleRulesApply := true }).checkModule m form =
      (standard engine { config with moduleRulesApply := false }).checkModule m.listingRules
        form := by
  have hplaces : KeepsPlaces fun f => { f with rules := f.rules ++ m.rules } :=
    ⟨fun _ => rfl, fun _ => rfl, fun _ => rfl⟩
  unfold checkModule Module.listingRules
  rw [nodesInOrder_build_mapFields hplaces, List.map_map]
  congr 1
  refine List.map_congr_left fun node _ => ?_
  exact (checkWith_listing (isLocal_standard engine config) node (form.value node.field.id) form
    form (List.append_nil _)).symm

/-- **The rules of a module**, where they apply to its fields: the verdict on a form is the one on
the module whose fields list these rules behind their own.  So on each field they add only errors
behind those that are found without them; on a blank value they do not run, and otherwise those run
once that do not run anyway. -/
theorem checkModule_moduleRules (engine : PatternEngine) (config : Config) (m : Module)
    (form : Form) :
    (standard engine { config with moduleRulesApply := true }).checkModule m form =
      (standard engine { config with moduleRulesApply := false }).checkModule m.listingRules form ∧
    ∀ node ∈ (Forest.build m).nodesInOrder, ∃ late,
      (standard engine config).RunsBehind node.field (form.value node.field.id) m.rules late ∧
      ((standard engine { config with moduleRulesApply := true }).checkModule m form).errorsFor
          node.field.id =
        ((standard engine { config with moduleRulesApply := false }).checkModule m form).errorsFor
          node.field.id ++ errorsOf node (form.value node.field.id) form late := by
  refine ⟨checkModule_listingRules engine config m form, fun node hnode => ?_⟩
  obtain ⟨late, hlate, herrors⟩ := exists_runsBehind_standard engine config node
    (form.value node.field.id) form m.rules
  refine ⟨late, hlate, ?_⟩
  rw [errorsFor_checkModule hnode fun other e he =>
      field_of_mem_errors_checkWith (isLocal_standard _ _) he,
    errorsFor_checkModule hnode fun other e he =>
      field_of_mem_errors_checkWith (isLocal_standard _ _) he]
  exact herrors

end DynamicForms
