import DynamicForms.Proofs.NamedTree
import DynamicForms.Proofs.Reparenting
import Mathlib

/-!
# Ancestors by ids

The check before a move follows the parents that declarations name, whether these are declared or
go round; the ancestors in a forest are what is left when missing parents count for nothing and
cycles are broken.

* `Forest.ancestorIds` — the ancestors of an id in a forest; `mem_ancestorIds`: what is above it.
* `find?_build_ancestors` — they give an id its depth and its path.
* `acyclic_parentId?`, `parentId?_of_cycleBreaks_eq_nil` — no id is above itself, and parents are
  the named ones if no cycle had to be broken.
* `wouldCycle_agrees` — a field is never found fit to go below itself or below what it is an
  ancestor of; and if no cycle had to be broken it is found fit for everything else.
-/

set_option autoImplicit false

namespace DynamicForms

open Relation

/-- The ancestors of an id from the nearest on. -/
def Forest.ancestorIds (forest : Forest) (id : String) : List String :=
  match forest.indexOf? id with
  | none => []
  | some i => forest.idsAt (forest.ancestors i)

section Build

variable {m : Module} {id other : String}

/-! ## What is above an id -/

theorem ascends_ancestorIds (m : Module) (id : String) :
    Ascends (Forest.build m).parentId? id ((Forest.build m).ancestorIds id) := by
  unfold Forest.ancestorIds
  split
  · rename_i hnone
    refine .top (Option.eq_none_iff_forall_ne_some.2 fun parent hparent => ?_)
    obtain ⟨i, hi⟩ := exists_idAt?_iff.2 (mem_ids_of_parentId? hparent)
    rw [indexOf?_build_iff.2 hi] at hnone
    cases hnone
  · rename_i i hi
    have hascends := Forest.ancestors_spec (linked_build m) i
    exact (ascends_parentId? hascends id (indexOf?_build_iff.1 hi)).1

/-- **The ancestors of an id are what is above it.** -/
theorem mem_ancestorIds : other ∈ (Forest.build m).ancestorIds id ↔
    Above (Forest.build m).parentId? id other :=
  (ascends_ancestorIds m id).mem_iff

/-- **Ancestors give an id its depth and its path.** -/
theorem find?_build_ancestors {node : Node} (h : (Forest.build m).find? id = some node) :
    node.depth = ((Forest.build m).ancestorIds id).length ∧
      node.path = joinPath (id :: (Forest.build m).ancestorIds id).reverse := by
  obtain ⟨above, habove, hdepth, hpath⟩ := find?_build_spec h
  rw [habove.unique (ascends_ancestorIds m id)] at hdepth hpath
  exact ⟨hdepth, hpath⟩

theorem acyclic_parentId? (m : Module) : Acyclic (Forest.build m).parentId? := by
  intro id hloop
  obtain ⟨parent, hparent⟩ := hloop.exists_up
  obtain ⟨i, hi⟩ := exists_idAt?_iff.2 (mem_ids_of_parentId? hparent)
  exact (linked_build m).acyclic i (((sameWays_parentId? m).above_iff hi hi).1 hloop)

/-! ## Parents of ids in the module and in its forest -/

theorem parentOf?_of_parentId? {parent : String}
    (h : (Forest.build m).parentId? id = some parent) : m.parentOf? id = some parent := by
  rw [parentId?_build] at h
  split at h
  · cases h
  · exact h

theorem namedParent?_of_parentId? {parent : String}
    (h : (Forest.build m).parentId? id = some parent) : m.namedParent? id = some parent :=
  (Module.parentOf?_eq_some_iff.1 (parentOf?_of_parentId? h)).1

theorem parentId?_of_cycleBreaks_eq_nil (h : (Forest.build m).diagnostics.cycleBreaks = []) :
    (Forest.build m).parentId? = m.parentOf? := by
  funext id
  rw [parentId?_build, h, if_neg List.not_mem_nil]

end Build

/-! ## Main theorem -/

/-- **The check before a move knows the ancestors.**  Whatever was broken in the module, it forbids
a field to go below itself or below an id that has the field among its ancestors; and if no cycle
had to be broken it forbids nothing else. -/
theorem wouldCycle_agrees (m : Module) (field parent : String) :
    (field = parent ∨ field ∈ (Forest.build m).ancestorIds parent →
      m.wouldCycle field parent = true) ∧
    ((Forest.build m).diagnostics.cycleBreaks = [] → field ∈ m.ids →
      (m.wouldCycle field parent = true ↔
        field = parent ∨ field ∈ (Forest.build m).ancestorIds parent)) := by
  constructor
  · rw [Module.wouldCycle_iff_atOrAbove]
    rintro (rfl | hancestor)
    · exact .refl
    · have habove := mem_ancestorIds.1 hancestor
      exact (habove.of_sub fun _ _ h => namedParent?_of_parentId? h).to_reflTransGen
  · intro hbreaks hfield
    rw [Module.wouldCycle_iff_atOrAbove, mem_ancestorIds, parentId?_of_cycleBreaks_eq_nil hbreaks,
      Module.above_parentOf?_iff hfield]
    exact reflTransGen_iff_eq_or_transGen

/-- A group with a group and a text in it, the inner group with a text of its own; below a parent
that is missing another text; and an id that is declared twice. -/
def Module.branching : Module :=
  { Module.ofId "branching" with
    fields := [.below "gone" "c", .ofId "a" .group, .below "a" "b", .below "b" "c",
      .below "a" "d", .below "gone" "e"] }

/-- In a module with a circle the check forbids what would close another one; in one without, what
it forbids is an ancestor. -/
theorem wouldCycle_agrees_branching :
    "a" ∈ (Forest.build .tangled).ancestorIds "b" ∧ Module.tangled.wouldCycle "a" "b" = true ∧
    (Forest.build .branching).diagnostics.cycleBreaks = [] ∧ "a" ∈ Module.branching.ids ∧
    Module.branching.wouldCycle "a" "c" = true ∧
    "a" ∈ (Forest.build .branching).ancestorIds "c" := by
  have hancestor : "a" ∈ (Forest.build .tangled).ancestorIds "b" := by
    have hids : (Forest.build .tangled).ancestorIds "b" = ["a"] := by cbv
    rw [hids]
    exact List.mem_singleton_self "a"
  have hbreaks : (Forest.build .branching).diagnostics.cycleBreaks = [] := by cbv
  have hdeclared : "a" ∈ Module.branching.ids := by decide
  have hforbidden : Module.branching.wouldCycle "a" "c" = true := by decide
  have hagrees := (wouldCycle_agrees .branching "a" "c").2 hbreaks hdeclared
  exact ⟨hancestor, (wouldCycle_agrees .tangled "a" "b").1 (.inr hancestor), hbreaks, hdeclared,
    hforbidden, (hagrees.1 hforbidden).resolve_left (by decide)⟩

end DynamicForms
