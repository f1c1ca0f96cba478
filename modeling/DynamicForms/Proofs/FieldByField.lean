import DynamicForms.Pattern.Matching
import DynamicForms.Proofs.LocalRules
import Mathlib

/-!
# Checking a form field by field

Unless the rules of a module apply to its fields, the verdict on a form is made of the verdicts on
its fields alone.

* `Verdict.joinAll_append_singleton`, `Verdict.joinAll_eq_foldl` — joining one more verdict, and
  joining all of them one after the other.
* `Verdict.isValid_joinAll` — verdicts that are joined are valid exactly if each of them is.
* `Forest.map_some_nodesInOrder` — in the order of display no place is passed over.
* `ChecksFieldByField` — what checking a form has to be.
* `checkModule_fieldByField` — it is, for any module; with the standard rules the errors of an id
  are those of its own field.
-/

set_option autoImplicit false

namespace DynamicForms

open Json (Value)

/-! ## Joining verdicts -/

namespace Verdict

theorem joinAll_append_singleton (verdicts : List Verdict) (verdict : Verdict) :
    joinAll (verdicts ++ [verdict]) = (joinAll verdicts).join verdict := by
  exact ext (by simp)

/-- **Verdicts can be joined one after the other.** -/
theorem joinAll_eq_foldl (verdicts : List Verdict) :
    joinAll verdicts = verdicts.foldl join valid := by
  induction verdicts using List.reverseRecOn with
  | nil => rfl
  | append_singleton verdicts verdict ih =>
    rw [joinAll_append_singleton, ih, List.foldl_append, List.foldl_cons, List.foldl_nil]

theorem isValid_joinAll {verdicts : List Verdict} :
    (joinAll verdicts).isValid = true ↔ ∀ verdict ∈ verdicts, verdict.isValid = true := by
  simp only [Verdict.isValid_iff, errors_joinAll, List.flatMap_eq_nil_iff]

end Verdict

/-! ## The nodes in the order of display -/

/-- Where every place has a node none is left out. -/
theorem Forest.map_some_nodesInOrder {forest : Forest}
    (hplaces : ∀ i ∈ forest.depthFirst, i < forest.size) :
    forest.nodesInOrder.map some = forest.depthFirst.map fun i => forest.nodes[i]? := by
  unfold nodesInOrder
  generalize forest.depthFirst = places at hplaces
  induction places with
  | nil => rfl
  | cons i places ih =>
    obtain ⟨hi, hrest⟩ := List.forall_mem_cons.1 hplaces
    have hnode := Array.getElem?_eq_getElem (show i < forest.nodes.size from hi)
    rw [List.filterMap_cons, hnode, List.map_cons, List.map_cons, ih hrest, hnode]

/-! ## Main theorem -/

/-- Checking a form is checking its fields: each on its own, with its own value. -/
structure ChecksFieldByField (r : Registry) (m : Module) (form : Form) : Prop where
  /-- The fields are taken in the order of display. -/
  walks : (Forest.build m).Walks (Forest.build m).roots (Forest.build m).depthFirst
  nodes_eq : (Forest.build m).nodesInOrder.map some =
    (Forest.build m).depthFirst.map fun i => (Forest.build m).nodes[i]?
  /-- No id is taken twice. -/
  ids_nodup : ((Forest.build m).nodesInOrder.map (·.field.id)).Nodup
  /-- No id is left out. -/
  mem_ids_iff : ∀ id, id ∈ (Forest.build m).nodesInOrder.map (·.field.id) ↔ id ∈ m.ids
  /-- Of several declarations of an id the last one is taken. -/
  field_eq : ∀ node ∈ (Forest.build m).nodesInOrder, m.field? node.field.id = some node.field
  /-- The verdicts on the fields are joined one after the other. -/
  joined : r.checkModule m form = (Forest.build m).nodesInOrder.foldl
    (fun verdict node => verdict.join (r.checkField node (form.value node.field.id) form)) .valid
  errors_eq : (r.checkModule m form).errors = (Forest.build m).nodesInOrder.flatMap fun node =>
    (r.checkField node (form.value node.field.id) form).errors
  isValid_iff : (r.checkModule m form).isValid = true ↔ ∀ node ∈ (Forest.build m).nodesInOrder,
    (r.checkField node (form.value node.field.id) form).isValid = true

section FieldByField

variable {r : Registry} {m : Module} {form : Form}

theorem checkModule_eq_joinAll (hoff : r.config.moduleRulesApply = false) :
    r.checkModule m form = .joinAll ((Forest.build m).nodesInOrder.map fun node =>
      r.checkField node (form.value node.field.id) form) := by
  unfold Registry.checkModule Registry.appliedRules Registry.checkField
  rw [hoff]
  rfl

theorem checksFieldByField (hoff : r.config.moduleRulesApply = false) :
    ChecksFieldByField r m form where
  walks := (Forest.depthFirst_spec (linked_build m)).1
  nodes_eq := Forest.map_some_nodesInOrder fun _ hi =>
    List.mem_range.1 ((Forest.depthFirst_spec (linked_build m)).2.mem_iff.1 hi)
  ids_nodup := nodup_ids_nodesInOrder m
  mem_ids_iff := fun _ => mem_ids_nodesInOrder
  field_eq := fun _ hnode => mem_fields_nodesInOrder.1 (List.mem_map_of_mem hnode)
  joined := by rw [checkModule_eq_joinAll hoff, Verdict.joinAll_eq_foldl, List.foldl_map]
  errors_eq := by rw [checkModule_eq_joinAll hoff, Verdict.errors_joinAll, List.flatMap_map]
  isValid_iff := by
    rw [checkModule_eq_joinAll hoff, Verdict.isValid_joinAll, List.forall_mem_map]

end FieldByField

section Standard

variable {engine : PatternEngine} {config : Config} {m : Module} {form : Form} {id : String}

theorem mem_nodesInOrder_of_find? {node : Node} (h : (Forest.build m).find? id = some node) :
    node ∈ (Forest.build m).nodesInOrder ∧ node.field.id = id := by
  obtain ⟨i, hnode, hid⟩ := find?_build_iff.1 h
  exact ⟨Forest.mem_nodesInOrder (linked_build m) hnode, hid⟩

/-- **With the standard rules the errors of an id** are those of its own field. -/
theorem errorsFor_checkModule_standard (hoff : config.moduleRulesApply = false) :
    ((Registry.standard engine config).checkModule m form).errorsFor id =
      match (Forest.build m).find? id with
      | none => []
      | some node =>
        ((Registry.standard engine config).checkField node (form.value id) form).errors := by
  have hchecks : ChecksFieldByField (Registry.standard engine config) m form :=
    checksFieldByField hoff
  have hblame {node : Node} {v : Value} {extra : List String} {e : FieldError} :
      e ∈ ((Registry.standard engine config).checkWith node v form extra).errors →
        e.field = node.field.id :=
    Registry.field_of_mem_errors_checkWith (Registry.isLocal_standard engine config)
  cases hfind : (Forest.build m).find? id with
  | some node =>
    obtain ⟨hnode, rfl⟩ := mem_nodesInOrder_of_find? hfind
    have happlied : (Registry.standard engine config).appliedRules m = [] :=
      if_neg (ne_true_of_eq_false hoff)
    rw [errorsFor_checkModule hnode fun other e he => hblame he, happlied]
    rfl
  | none =>
    have hfield : m.field? id = none := by
      rw [← field_find?_build, hfind, Option.map_none]
    unfold Verdict.errorsFor
    rw [hchecks.errors_eq, List.filter_eq_nil_iff]
    intro e he hid
    obtain ⟨node, hnode, he⟩ := List.mem_flatMap.1 he
    have hnodeField := hchecks.field_eq node hnode
    rw [← hblame he, beq_iff_eq.1 hid, hfield] at hnodeField
    cases hnodeField

end Standard

/-- **A form is checked field by field** when the rules of the module do not apply to its fields:
whatever the module looks like and whichever rules are registered.  With the standard rules the
errors of an id are those of its own field. -/
theorem checkModule_fieldByField (m : Module) (form : Form) :
    (∀ r : Registry, r.config.moduleRulesApply = false → ChecksFieldByField r m form) ∧
    ∀ (engine : PatternEngine) (config : Config), config.moduleRulesApply = false → ∀ id,
      ((Registry.standard engine config).checkModule m form).errorsFor id =
        match (Forest.build m).find? id with
        | none => []
        | some node =>
          ((Registry.standard engine config).checkField node (form.value id) form).errors :=
  ⟨fun _ hoff => checksFieldByField hoff, fun _ _ hoff _ => errorsFor_checkModule_standard hoff⟩

/-- A text with a parent that has to be entered. -/
def Field.needed (id parent : String) : Field :=
  { Field.ofId id .text with parent := some parent, required := true }

/-- Texts whose parents are in a circle or missing; the first one is declared twice. -/
def Module.circling : Module :=
  { Module.ofId "circling" with
    fields := [.ofId "a" .text, .needed "b" "a", .needed "c" "gone", .needed "a" "b"] }

/-- The circle is broken above `b`, and the last declaration of `a` is the one that counts. -/
theorem checkModule_fieldByField_circling :
    (Registry.standard Pattern.engine {}).config.moduleRulesApply = false ∧
    ((Registry.standard Pattern.engine {}).checkModule .circling
        (.insert .empty "c" (.string "x"))).errors =
      [⟨"b", "REQUIRED", "b is required", none⟩, ⟨"a", "REQUIRED", "a is required", none⟩] ∧
    ((Registry.standard Pattern.engine {}).checkModule .circling
        (.insert .empty "c" (.string "x"))).errorsFor "a" =
      [⟨"a", "REQUIRED", "a is required", none⟩] := by
  obtain ⟨hchecks, hstandard⟩ :=
    checkModule_fieldByField .circling (.insert .empty "c" (.string "x"))
  have hnodes : (Forest.build .circling).nodesInOrder =
      [⟨.needed "b" "a", 1, none, [2], 0, "b"⟩, ⟨.needed "a" "b", 3, some 0, [], 1, "b.a"⟩,
        ⟨.needed "c" "gone", 2, none, [], 0, "c"⟩] := by cbv
  have hfind : (Forest.build .circling).find? "a" =
      some ⟨.needed "a" "b", 3, some 0, [], 1, "b.a"⟩ := by cbv
  refine ⟨rfl, ?_, ?_⟩
  · rw [(hchecks (.standard Pattern.engine {}) rfl).errors_eq, hnodes]
    decide
  · rw [hstandard Pattern.engine {} rfl "a", hfind]
    decide

end DynamicForms
