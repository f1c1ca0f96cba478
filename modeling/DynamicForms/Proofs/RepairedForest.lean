import DynamicForms.Forest.Metrics
import DynamicForms.Proofs.Loops
import DynamicForms.Proofs.MappedFields
import DynamicForms.Structure.Repair

/-!
# The forest of a repaired module

Repairing a module takes the parents away that are missing or the fields themselves.  Building its
forest drops these anyway.

* `parentOf?_repair`, `links_repair` — the parents of a repaired module are those of the module,
  loops left out.
* `tree_repair` — when all cycles are broken they are the same.
* `nodes_build_repair` — the nodes are the same up to their fields, which are repaired.
* `KeepsTree` — everything of a forest but its fields stays, and nothing is left to repair but
  what ids declared twice and longer cycles ask for.
* `build_repair_keepsTree` — it holds of any module and its repair.
-/

set_option autoImplicit false

namespace DynamicForms

open Structure

/-! ## The repaired module -/

namespace Field

theorem withoutUnusableParent_cases (ids : List String) (f : Field) :
    f.withoutUnusableParent ids = f ∨ f.withoutUnusableParent ids = { f with parent := none } := by
  unfold withoutUnusableParent
  split
  · exact .inl rfl
  · split
    · exact .inr rfl
    · exact .inl rfl

@[simp]
theorem id_withoutUnusableParent (ids : List String) (f : Field) :
    (f.withoutUnusableParent ids).id = f.id := by
  rcases withoutUnusableParent_cases ids f with h | h <;> rw [h]

@[simp]
theorem order_withoutUnusableParent (ids : List String) (f : Field) :
    (f.withoutUnusableParent ids).order = f.order := by
  rcases withoutUnusableParent_cases ids f with h | h <;> rw [h]

@[simp]
theorem hasConditions_withoutUnusableParent (ids : List String) (f : Field) :
    (f.withoutUnusableParent ids).hasConditions = f.hasConditions := by
  rcases withoutUnusableParent_cases ids f with h | h <;> rw [h]
  rfl

theorem parent_withoutUnusableParent (ids : List String) (f : Field) :
    (f.withoutUnusableParent ids).parent = f.parent.filter fun p => p ≠ f.id ∧ p ∈ ids := by
  unfold withoutUnusableParent
  split
  · rename_i hp
    rw [hp, Option.filter_none]
  · rename_i p hp
    rw [hp, Option.filter_some]
    split
    · rename_i h
      rw [if_neg (by rw [decide_eq_true_iff]; tauto)]
    · rename_i h
      rw [if_pos (by rw [decide_eq_true_iff]; tauto), hp]

end Field

namespace Module

variable (m : Module)

theorem repair_eq_mapFields : m.repair = m.mapFields (Field.withoutUnusableParent m.ids) := rfl

theorem fields_repair :
    m.repair.fields = m.fields.map (Field.withoutUnusableParent m.ids) := rfl

@[simp]
theorem ids_repair : m.repair.ids = m.ids := by
  rw [repair_eq_mapFields, ids_mapFields (Field.id_withoutUnusableParent m.ids)]

theorem contains_repair : m.repair.contains = m.contains := by
  rw [repair_eq_mapFields, contains_mapFields (Field.id_withoutUnusableParent m.ids)]

theorem duplicates_repair : m.repair.duplicates = m.duplicates := by
  rw [repair_eq_mapFields, duplicates_mapFields (Field.id_withoutUnusableParent m.ids)]

theorem kept_repair :
    m.repair.kept = m.kept.map (mapDeclaration (Field.withoutUnusableParent m.ids)) := by
  rw [repair_eq_mapFields, kept_mapFields (Field.id_withoutUnusableParent m.ids)]

theorem keptId?_repair : m.repair.keptId? = m.keptId? := by
  rw [repair_eq_mapFields, keptId?_mapFields (Field.id_withoutUnusableParent m.ids)]

theorem lookup_repair : m.repair.lookup = m.lookup := by
  rw [repair_eq_mapFields, lookup_mapFields (Field.id_withoutUnusableParent m.ids)]

theorem field?_repair (id : String) :
    m.repair.field? id = (m.field? id).map (Field.withoutUnusableParent m.ids) := by
  rw [repair_eq_mapFields, field?_mapFields (Field.id_withoutUnusableParent m.ids)]

variable {m}

theorem namedParent?_repair {id q : String} :
    m.repair.namedParent? id = some q ↔ m.namedParent? id = some q ∧ q ≠ id ∧ q ∈ m.ids := by
  unfold namedParent?
  rw [field?_repair]
  cases hf : m.field? id with
  | none => simp
  | some f =>
    rw [Option.map_some, Option.bind_some, Option.bind_some, Field.parent_withoutUnusableParent,
      Option.filter_eq_some_iff, decide_eq_true_iff, id_of_field? hf]

/-- **The parents of a repaired module** are those of the module, loops left out. -/
theorem parentOf?_repair (m : Module) : m.repair.parentOf? = withoutLoops m.parentOf? := by
  funext id
  refine Option.ext fun q => ?_
  rw [parentOf?_eq_some_iff, namedParent?_repair, ids_repair, withoutLoops_eq_some_iff,
    parentOf?_eq_some_iff]
  tauto

theorem links_repair (m : Module) : m.repair.links = m.links.dropLoops := by
  refine Parents.ext_parent? ?_ fun i => Option.ext fun p => ?_
  · rw [Parents.size_dropLoops]
    simp only [links, parentsOf, kept_repair, List.size_toArray, List.length_map]
  · rw [parent?_links, keptId?_repair, parentOf?_repair, Parents.parent?_dropLoops,
      withoutLoops_eq_some_iff, parent?_links]
    constructor
    · rintro ⟨id, q, hi, hq, hp⟩
      obtain ⟨hparent, hne⟩ := withoutLoops_eq_some_iff.1 hq
      refine ⟨⟨id, q, hi, hparent, hp⟩, ?_⟩
      rintro rfl
      rw [hi, Option.some.injEq] at hp
      exact hne hp.symm
    · rintro ⟨⟨id, q, hi, hparent, hp⟩, hne⟩
      refine ⟨id, q, hi, withoutLoops_eq_some_iff.2 ⟨hparent, ?_⟩, hp⟩
      rintro rfl
      exact hne (keptId?_inj hp hi)

/-- **When all cycles are broken the parents are the same.** -/
theorem tree_repair (m : Module) : m.repair.tree = m.tree := by
  unfold tree
  rw [links_repair, Parents.broken_dropLoops]

theorem roots_repair (m : Module) : m.repair.roots = m.roots := by
  unfold roots
  rw [tree_repair, kept_repair, childrenOf_map (Field.order_withoutUnusableParent m.ids)]

theorem linkedNodes_repair (m : Module) : m.repair.linkedNodes =
    m.linkedNodes.map (Node.mapField (Field.withoutUnusableParent m.ids)) := by
  unfold linkedNodes
  rw [tree_repair, kept_repair, linkedNodes_map (Field.order_withoutUnusableParent m.ids)]

theorem parent?_links_self_iff {i : Nat} {id : String} (hi : m.keptId? i = some id) :
    m.links.parent? i = some i ↔ m.namedParent? id = some id := by
  rw [← parentOf?_self_iff]
  constructor
  · intro hself
    obtain ⟨q, hq, hkept⟩ := m.sameWays_links.back hi hself
    rw [hi, Option.some.injEq] at hkept
    rw [hq, hkept]
  · intro hself
    obtain ⟨p, hp, hkept⟩ := m.sameWays_links.forth hi hself
    rw [hp, keptId?_inj hkept hi]

end Module

/-! ## Its forest -/

section Build

variable (m : Module)

/-- **The nodes are the same up to their fields**, which are repaired. -/
theorem nodes_build_repair : (Forest.build m.repair).nodes =
    (Forest.build m).nodes.map (Node.mapField (Field.withoutUnusableParent m.ids)) := by
  rw [nodes_build, nodes_build, Module.linkedNodes_repair, Module.roots_repair,
    place_map (Field.id_withoutUnusableParent m.ids)]

theorem map_nodes_build_repair {α : Type} {g : Node → α}
    (hg : ∀ node, g (node.mapField (Field.withoutUnusableParent m.ids)) = g node) :
    (Forest.build m.repair).nodes.map g = (Forest.build m).nodes.map g := by
  rw [nodes_build_repair, Array.map_map]
  congr 1
  funext node
  exact hg node

theorem metrics_build_repair : (Forest.build m.repair).metrics = (Forest.build m).metrics := by
  unfold Forest.metrics
  rw [nodes_build_repair, Array.toList_map]
  simp only [List.filter_map, List.map_map, List.length_map, Function.comp_def, Node.mapField,
    Field.hasConditions_withoutUnusableParent]

theorem orphans_build_repair : (Forest.build m.repair).diagnostics.orphans = [] := by
  rw [orphans_build, List.map_eq_nil_iff, List.filter_eq_nil_iff, Module.kept_repair,
    Module.contains_repair]
  intro d hd horphan
  obtain ⟨e, _, rfl⟩ := List.mem_map.1 hd
  obtain ⟨p, hp, hmissing⟩ := (Option.any_eq_true _ _).1 horphan
  unfold mapDeclaration at hp
  rw [Field.parent_withoutUnusableParent, Option.filter_eq_some_iff, decide_eq_true_iff] at hp
  rw [Module.contains_iff.2 hp.2.2] at hmissing
  cases hmissing

theorem cycleBreaks_build_repair : (Forest.build m.repair).diagnostics.cycleBreaks =
    (Forest.build m).diagnostics.cycleBreaks.filter fun id => m.namedParent? id ≠ some id := by
  rw [cycleBreaks_build, cycleBreaks_build, Module.links_repair, Parents.breaks_dropLoops,
    Module.keptId?_repair, List.filterMap_filter, List.filter_filterMap]
  refine List.filterMap_congr fun i _ => ?_
  cases hi : m.keptId? i with
  | none => simp
  | some id => simp [Option.filter_some, Module.parent?_links_self_iff hi]

end Build

/-! ## Main theorem -/

/-- What two forests have in common when the second one is built from the repaired module. -/
structure KeepsTree (m : Module) (forest forest' : Forest) : Prop where
  ids_eq : forest'.nodes.map (·.field.id) = forest.nodes.map (·.field.id)
  positions_eq : forest'.nodes.map Node.position = forest.nodes.map Node.position
  parents_eq : forest'.nodes.map Node.parent = forest.nodes.map Node.parent
  children_eq : forest'.nodes.map Node.children = forest.nodes.map Node.children
  depths_eq : forest'.nodes.map Node.depth = forest.nodes.map Node.depth
  paths_eq : forest'.nodes.map Node.path = forest.nodes.map Node.path
  lookup_eq : forest'.lookup = forest.lookup
  roots_eq : forest'.roots = forest.roots
  metrics_eq : forest'.metrics = forest.metrics
  orphans_eq : forest'.diagnostics.orphans = []
  duplicates_eq : forest'.diagnostics.duplicates = forest.diagnostics.duplicates
  /-- Cycles are broken as before, loops left out. -/
  cycleBreaks_eq : forest'.diagnostics.cycleBreaks =
    forest.diagnostics.cycleBreaks.filter fun id => m.namedParent? id ≠ some id

/-- **Repairing a module keeps its tree.** -/
theorem build_repair_keepsTree (m : Module) :
    KeepsTree m (Forest.build m) (Forest.build m.repair) where
  ids_eq := map_nodes_build_repair m fun _ => Field.id_withoutUnusableParent _ _
  positions_eq := map_nodes_build_repair m fun _ => rfl
  parents_eq := map_nodes_build_repair m fun _ => rfl
  children_eq := map_nodes_build_repair m fun _ => rfl
  depths_eq := map_nodes_build_repair m fun _ => rfl
  paths_eq := map_nodes_build_repair m fun _ => rfl
  lookup_eq := by rw [lookup_build, lookup_build, Module.lookup_repair]
  roots_eq := by rw [roots_build, roots_build, Module.roots_repair]
  metrics_eq := metrics_build_repair m
  orphans_eq := orphans_build_repair m
  duplicates_eq := Module.duplicates_repair m
  cycleBreaks_eq := cycleBreaks_build_repair m

end DynamicForms
