import DynamicForms.Proofs.RuleRuns
import Mathlib

/-!
# Standard rules that are not registered

What the settings of a field ask for is checked by the standard rules, be they registered or not.
Taking these rules out of the standard registry therefore changes no verdict, although what is
merely listed does not run any more.

* `Registry.without`, `get?_without` — a registry without the rules of some ids.
* `get?_standard_standIn` — the standard rules are the ones that stand in where none is registered.
* `check_standIn_eq_valid` — where the settings of a field do not ask for such a rule, it finds
  nothing wrong.
* `implied_without`, `run_without` — so the same is found wrong by the rules that are implied and by
  those that are listed.
* `checkWith_without`, `checkModule_without` — verdicts on fields and forms are the same.
-/

set_option autoImplicit false

namespace DynamicForms

open Json (Value)

namespace Registry

/-! ## Registries without some rules -/

/-- Drops the rules under some ids, one after the other. -/
def without (r : Registry) (ids : List String) : Registry := ids.foldl unregister r

theorem get?_unregister (r : Registry) (id other : String) :
    (r.unregister id).get? other = if other = id then none else r.get? other :=
  Dictionary.get?_erase r.rules id other

theorem settings_without (ids : List String) :
    ∀ r : Registry, (r.without ids).config = r.config ∧ (r.without ids).engine = r.engine := by
  induction ids with
  | nil => exact fun _ => ⟨rfl, rfl⟩
  | cons id ids ih => exact fun r => ih (r.unregister id)

/-- **What is left** are the rules under all other ids. -/
theorem get?_without (id : String) (ids : List String) :
    ∀ r : Registry, (r.without ids).get? id = if id ∈ ids then none else r.get? id := by
  induction ids with
  | nil => exact fun _ => rfl
  | cons dropped ids ih =>
    intro r
    show ((r.unregister dropped).without ids).get? id = _
    rw [ih, get?_unregister]
    by_cases hid : id = dropped
    · simp [hid]
    · simp [hid]

/-! ## Stand-ins -/

/-- The ids of the rules that are always there. -/
def alwaysThere : List String := [requiredId, lengthId, patternId]

variable {engine : PatternEngine} {config : Config} {node : Node} {v : Value} {form : Form}
  {id : String} {ids extra : List String}

/-- **The standard rules are the ones that stand in.** -/
theorem get?_standard_standIn (hid : id ∈ alwaysThere) :
    (standard engine config).get? id = some ((standard engine config).standIn id) := by
  rw [get?_standard]
  simp only [alwaysThere, List.mem_cons, List.not_mem_nil, or_false] at hid
  rcases hid with rfl | rfl | rfl <;> rfl

theorem getOr_without (hid : id ∈ alwaysThere) :
    ((standard engine config).without ids).getOr id ((standard engine config).standIn id) =
      (standard engine config).getOr id ((standard engine config).standIn id) := by
  unfold getOr
  rw [get?_without, get?_standard_standIn hid]
  split <;> rfl

/-- **A rule that the settings of a field do not ask for finds nothing wrong.** -/
theorem check_standIn_eq_valid (hid : id ∈ alwaysThere) (hnot : id ∉ node.field.impliedIds) :
    ((standard engine config).standIn id).check node v form = .valid := by
  rw [Field.mem_impliedIds, not_or, not_or] at hnot
  obtain ⟨hrequired, hlength, hpattern⟩ := hnot
  simp only [alwaysThere, List.mem_cons, List.not_mem_nil, or_false] at hid
  rcases hid with rfl | rfl | rfl
  · have hoff : node.field.required = false := by simpa using hrequired
    show Verdict.of node.field (Rule.requiredViolations node.field v) = .valid
    unfold Rule.requiredViolations
    rw [hoff]
    rfl
  · have hoff : node.field.hasLengthBounds = false := by simpa using hlength
    show Rule.length.check node v form = .valid
    cases htext : v.text? with
    | none => simp only [Rule.length, htext]
    | some text =>
      simp only [Rule.length, htext, lengthViolations_eq_nil hoff]
      rfl
  · have hoff : node.field.pattern = none := by simpa using hpattern
    show (Rule.pattern engine config.faultPolicy).check node v form = .valid
    simp only [Rule.pattern, hoff]

/-! ## Verdicts -/

theorem implied_without (f : Field) :
    ((standard engine config).without ids).implied f = (standard engine config).implied f := by
  have hpolicy : ((standard engine config).without ids).config.faultPolicy =
      config.faultPolicy := by
    rw [(settings_without ids _).1]
    rfl
  have hengine : ((standard engine config).without ids).engine = engine :=
    (settings_without ids _).2
  have hlength : ((standard engine config).without ids).getOr lengthId .length =
      (standard engine config).getOr lengthId .length := getOr_without (by decide)
  have hpattern : ((standard engine config).without ids).getOr patternId
      (.pattern engine config.faultPolicy) =
        (standard engine config).getOr patternId (.pattern engine config.faultPolicy) :=
    getOr_without (by decide)
  unfold implied
  rw [hpolicy, hengine, hlength, hpattern]
  rfl

/-- **Of rules that are merely listed**, those that were dropped would find nothing wrong. -/
theorem run_without (hids : ids ⊆ alwaysThere) (hnot : id ∉ node.field.impliedIds) :
    ((standard engine config).without ids).run node v form id =
      (standard engine config).run node v form id := by
  unfold run
  rw [get?_without]
  by_cases hid : id ∈ ids
  · rw [if_pos hid, get?_standard_standIn (hids hid)]
    exact (check_standIn_eq_valid (hids hid) hnot).symm
  · rw [if_neg hid]

theorem checkRules_without (hids : ids ⊆ alwaysThere) :
    ((standard engine config).without ids).checkRules node v form extra =
      (standard engine config).checkRules node v form extra := by
  have hlisted : ∀ id ∈ pending
      (requiredId :: ((standard engine config).implied node.field).map (·.1))
      (node.field.rules ++ extra), ((standard engine config).without ids).run node v form id =
        (standard engine config).run node v form id :=
    fun id hid => run_without hids (notMem_impliedIds_of_mem_pending hid)
  unfold checkRules
  simp only [implied_without, List.map_congr_left hlisted]

/-- **The verdict on a field is the same** when standard rules are dropped. -/
theorem checkWith_without (hids : ids ⊆ alwaysThere) (node : Node) (v : Value) (form : Form)
    (extra : List String) : ((standard engine config).without ids).checkWith node v form extra =
      (standard engine config).checkWith node v form extra := by
  have hrequired : ((standard engine config).without ids).getOr requiredId .required =
      (standard engine config).getOr requiredId .required := getOr_without (by decide)
  unfold checkWith
  rw [checkRules_without hids, hrequired]

end Registry

/-! ## Main theorem -/

open Registry

/-- **Standard rules need not be registered.**  Whichever of the rules for required fields, lengths
and patterns are dropped from the standard registry, fields and forms are checked as before, also
where fields or modules list the rules that were dropped. -/
theorem checkModule_without (engine : PatternEngine) (config : Config) (ids : List String)
    (hids : ids ⊆ alwaysThere) :
    (∀ node v form, ((standard engine config).without ids).checkField node v form =
      (standard engine config).checkField node v form) ∧
    ∀ m form, ((standard engine config).without ids).checkModule m form =
      (standard engine config).checkModule m form := by
  refine ⟨fun node v form => checkWith_without hids node v form [], fun m form => ?_⟩
  have hrules : ((standard engine config).without ids).appliedRules m =
      (standard engine config).appliedRules m := by
    unfold appliedRules
    rw [(settings_without ids _).1]
  unfold checkModule
  rw [hrules]
  simp only [checkWith_without hids]

/-- A required text of three characters at least, which have to be small letters. -/
def Field.strict : Field :=
  { Field.ofId "a" .text with required := true, minLength := some 3, pattern := some "^[a-z]+$" }

/-- A field that asks for three rules, one that asks for none but lists two, and a module that lists
them for all fields. -/
def Module.strict : Module :=
  { Module.ofId "strict" with
    fields := [.strict, { Field.ofId "b" .text with rules := [lengthId, patternId] }]
    rules := [patternId, requiredId] }

/-- The rules of the first field run although none of them is registered. -/
theorem checkModule_without_strict :
    [patternId, requiredId, lengthId] ⊆ alwaysThere ∧
    (((standard Pattern.engine { faultPolicy := .report, moduleRulesApply := true }).without
        [patternId, requiredId, lengthId]).checkModule .strict
          (.ofList [("a", .string "7"), ("b", .string "y")])).errors =
      [Violation.error .strict (.tooShort 3), Violation.error .strict .patternMismatch] := by
  have hids : [patternId, requiredId, lengthId] ⊆ alwaysThere := by decide
  have hnodes : (Forest.build .strict).nodesInOrder =
      [⟨.strict, 0, none, [], 0, "a"⟩,
        ⟨{ Field.ofId "b" .text with rules := [lengthId, patternId] }, 1, none, [], 0, "b"⟩] := by
    cbv
  refine ⟨hids, ?_⟩
  rw [(checkModule_without _ _ _ hids).2]
  unfold checkModule
  rw [hnodes]
  decide

end DynamicForms
