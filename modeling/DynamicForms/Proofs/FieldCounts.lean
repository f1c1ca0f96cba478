import DynamicForms.Proofs.Ancestors
import DynamicForms.Proofs.LastDeclarations

/-!
# What metrics count

Metrics are taken over the nodes of a finished forest.  Here they are read off the module and off
what was repaired while the forest was built.

* `Module.unparented` — the ids whose last declaration names no parent; `Module.mem_unparented`,
  `mem_orphans` say which ids these and the orphans are.
* `rootIds_build_perm` — every root is one of these or was made a root to break a cycle, and it is
  one of the three only.
* `ids_filter_nodes_perm` — what metrics count among nodes can be counted among ids.
* `exists_depth_eq`, `maxDepth_build_le` — above a node there is one of every lesser depth, and a
  way up has no more steps than there are nodes with a parent.
* `MetricsCount`, `build_metricsCount` — the metrics of a forest, whatever was repaired.
-/

set_option autoImplicit false

namespace DynamicForms

open Relation

/-! ## Roots -/

namespace Module

/-- The ids whose last declaration names no parent. -/
def unparented (m : Module) : List String :=
  (m.lastOnly.fields.filter fun f => f.parent.isNone).map (·.id)

variable {m : Module} {id : String}

theorem mem_lastOnly {f : Field} : f ∈ m.lastOnly.fields ↔ m.field? f.id = some f := by
  rw [← fields_kept, ← fields_build]
  exact mem_fields_build

theorem mem_unparented : id ∈ m.unparented ↔ id ∈ m.ids ∧ m.namedParent? id = none := by
  unfold unparented namedParent?
  rw [List.mem_map]
  constructor
  · rintro ⟨f, hf, rfl⟩
    obtain ⟨hlast, hnone⟩ := List.mem_filter.1 hf
    have hfield := mem_lastOnly.1 hlast
    rw [hfield, Option.bind_some]
    exact ⟨List.mem_map_of_mem (mem_of_field? hfield), Option.isNone_iff_eq_none.1 hnone⟩
  · rintro ⟨hid, hnone⟩
    obtain ⟨f, hf⟩ := Option.isSome_iff_exists.1 (isSome_field?_iff.2 hid)
    have hfid := id_of_field? hf
    rw [hf, Option.bind_some] at hnone
    refine ⟨f, List.mem_filter.2 ⟨mem_lastOnly.2 (hfid ▸ hf), ?_⟩, hfid⟩
    rw [hnone, Option.isNone_none]

theorem nodup_unparented (m : Module) : m.unparented.Nodup :=
  m.nodup_ids_lastOnly.sublist (List.filter_sublist.map _)

end Module

section Build

variable {m : Module} {id : String}

theorem mem_orphans : id ∈ (Forest.build m).diagnostics.orphans ↔
    ∃ parent, m.namedParent? id = some parent ∧ parent ∉ m.ids := by
  have hmissing : ∀ d : Declaration, (d.1.parent.any fun p => !m.contains p) = true ↔
      ∃ p, d.1.parent = some p ∧ p ∉ m.ids := by
    intro d
    rw [Option.any_eq_true]
    refine exists_congr fun p => and_congr_right fun _ => ?_
    rw [Bool.not_eq_true', ← Bool.not_eq_true, Module.contains_iff]
  rw [orphans_build, List.mem_map]
  constructor
  · rintro ⟨d, hd, rfl⟩
    obtain ⟨hkept, hd⟩ := List.mem_filter.1 hd
    rw [Module.namedParent?_of_mem_kept hkept]
    exact (hmissing d).1 hd
  · rintro ⟨p, hp, hnot⟩
    obtain ⟨d, hkept, rfl⟩ := Module.exists_mem_kept (Module.mem_ids_of_namedParent? hp)
    rw [Module.namedParent?_of_mem_kept hkept] at hp
    exact ⟨d, List.mem_filter.2 ⟨hkept, (hmissing d).2 ⟨p, hp, hnot⟩⟩, rfl⟩

theorem nodup_orphans (m : Module) : (Forest.build m).diagnostics.orphans.Nodup := by
  rw [orphans_build]
  exact m.nodup_ids_kept.sublist (List.filter_sublist.map _)

theorem exists_parentOf?_of_mem_cycleBreaks
    (h : id ∈ (Forest.build m).diagnostics.cycleBreaks) :
    ∃ parent, m.parentOf? id = some parent :=
  (mem_cycleBreaks.1 h).1.exists_up

/-- **Every root is accounted for** exactly once: it names no parent, or one that is missing, or a
cycle was broken there. -/
theorem rootIds_build_perm (m : Module) : (Forest.build m).rootIds.Perm
    (m.unparented ++ (Forest.build m).diagnostics.orphans ++
      (Forest.build m).diagnostics.cycleBreaks) := by
  have hnodup : (m.unparented ++ (Forest.build m).diagnostics.orphans ++
      (Forest.build m).diagnostics.cycleBreaks).Nodup := by
    rw [List.nodup_append, List.nodup_append]
    refine ⟨⟨m.nodup_unparented, nodup_orphans m, ?_⟩, nodup_cycleBreaks m, ?_⟩
    · rintro id hnone _ horphan rfl
      obtain ⟨parent, hparent, _⟩ := mem_orphans.1 horphan
      rw [(Module.mem_unparented.1 hnone).2] at hparent
      cases hparent
    · rintro id hid _ hbreak rfl
      obtain ⟨parent, hparent⟩ := exists_parentOf?_of_mem_cycleBreaks hbreak
      obtain ⟨hnamed, hdeclared⟩ := Module.parentOf?_eq_some_iff.1 hparent
      rcases List.mem_append.1 hid with hnone | horphan
      · rw [(Module.mem_unparented.1 hnone).2] at hnamed
        cases hnamed
      · obtain ⟨other, hother, hmissing⟩ := mem_orphans.1 horphan
        rw [hnamed, Option.some.injEq] at hother
        exact hmissing (hother ▸ hdeclared)
  rw [List.perm_ext_iff_of_nodup (nodup_rootIds m) hnodup]
  intro id
  rw [mem_rootIds, parentId?_build, List.mem_append, List.mem_append, Module.mem_unparented,
    mem_orphans]
  by_cases hbreak : id ∈ (Forest.build m).diagnostics.cycleBreaks
  · obtain ⟨parent, hparent⟩ := exists_parentOf?_of_mem_cycleBreaks hbreak
    simp [hbreak, Module.mem_ids_of_parentOf? hparent]
  · rw [if_neg hbreak]
    cases hnamed : m.namedParent? id with
    | none =>
      have hparent : m.parentOf? id = none := by
        unfold Module.parentOf?
        rw [hnamed, Option.filter_none]
      simp [hparent, hbreak]
    | some parent =>
      have hparent : m.parentOf? id = none ↔ parent ∉ m.ids := by
        unfold Module.parentOf?
        rw [hnamed, Option.filter_eq_none_iff]
        simp [Module.contains_iff]
      simp [hparent, hbreak, Module.mem_ids_of_namedParent? hnamed]

theorem length_rootIds (m : Module) :
    (Forest.build m).rootIds.length = (Forest.build m).roots.length := by
  unfold Forest.rootIds Forest.idsAt
  rw [List.filterMap_length_eq_length]
  intro i hi
  obtain ⟨id, hid⟩ := exists_idAt?_build ((linked_build m).mem_roots.1 hi).1
  rw [hid, Option.isSome_some]

/-! ## Counting nodes by their ids -/

theorem find?_build_iff_mem {node : Node} : (Forest.build m).find? id = some node ↔
    node ∈ (Forest.build m).nodes.toList ∧ node.field.id = id := by
  rw [find?_build_iff, List.mem_iff_getElem?]
  simp only [Array.getElem?_toList, exists_and_right]

/-- **What is counted among nodes** can be counted among the ids of the module. -/
theorem ids_filter_nodes_perm {p : Node → Bool} {q : String → Bool}
    (h : ∀ id node, (Forest.build m).find? id = some node → p node = q id) :
    (((Forest.build m).nodes.toList.filter p).map (·.field.id)).Perm (m.ids.dedup.filter q) := by
  have hnodup : (((Forest.build m).nodes.toList.filter p).map (·.field.id)).Nodup :=
    (nodup_ids_build m).sublist (List.filter_sublist.map _)
  rw [List.perm_ext_iff_of_nodup hnodup ((List.nodup_dedup _).filter _)]
  intro id
  rw [List.mem_map, List.mem_filter, List.mem_dedup]
  constructor
  · rintro ⟨node, hnode, rfl⟩
    obtain ⟨hmem, hp⟩ := List.mem_filter.1 hnode
    have hfind := find?_build_iff_mem.2 ⟨hmem, rfl⟩
    exact ⟨mem_ids_of_find?_build hfind, h _ node hfind ▸ hp⟩
  · rintro ⟨hid, hq⟩
    obtain ⟨node, hfind⟩ := exists_find?_build hid
    obtain ⟨hmem, hnodeId⟩ := find?_build_iff_mem.1 hfind
    exact ⟨node, List.mem_filter.2 ⟨hmem, (h id node hfind).trans hq⟩, hnodeId⟩

theorem length_filter_nodes {p : Node → Bool} {q : String → Bool}
    (h : ∀ id node, (Forest.build m).find? id = some node → p node = q id) :
    ((Forest.build m).nodes.toList.filter p).length = (m.ids.dedup.filter q).length := by
  simpa using (ids_filter_nodes_perm h).length_eq

theorem totalFields_build (m : Module) :
    (Forest.build m).metrics.totalFields = m.ids.dedup.length := by
  have h := length_filter_nodes (m := m) (p := fun _ => true) (q := fun _ => true) fun _ _ _ => rfl
  rwa [List.filter_true, List.filter_true] at h

theorem rootFields_build (m : Module) :
    (Forest.build m).metrics.rootFields = (Forest.build m).roots.length := by
  have hcount : (Forest.build m).metrics.rootFields =
      (m.ids.dedup.filter fun id => ((Forest.build m).parentId? id).isNone).length :=
    length_filter_nodes fun _ _ => isNone_parent_of_find?
  rw [hcount, ← length_rootIds]
  refine List.Perm.length_eq ?_
  rw [List.perm_ext_iff_of_nodup ((List.nodup_dedup _).filter _) (nodup_rootIds m)]
  intro id
  rw [mem_rootIds, List.mem_filter, List.mem_dedup, Option.isNone_iff_eq_none]

theorem rootFields_le (forest : Forest) :
    forest.metrics.rootFields ≤ forest.metrics.totalFields :=
  List.length_filter_le _ _

theorem linkedFields_build (m : Module) : (Forest.build m).metrics.linkedFields =
    (m.ids.dedup.filter fun id => ((Forest.build m).parentId? id).isSome).length := by
  have hsplit := List.length_eq_length_filter_add (l := (Forest.build m).nodes.toList)
    fun node => node.parent.isNone
  have hlinked : ((Forest.build m).nodes.toList.filter fun node => !node.parent.isNone).length =
      (m.ids.dedup.filter fun id => ((Forest.build m).parentId? id).isSome).length := by
    refine length_filter_nodes fun id node hnode => ?_
    rw [isNone_parent_of_find? hnode, Option.not_isNone]
  rw [← hlinked]
  unfold Forest.metrics
  dsimp only
  omega

/-! ## Depths -/

theorem mem_ids_of_atOrAbove {other : String} (hid : id ∈ m.ids)
    (h : AtOrAbove (Forest.build m).parentId? id other) : other ∈ m.ids := by
  rcases ReflTransGen.cases_tail h with rfl | ⟨child, _, hparent⟩
  · exact hid
  · exact (Module.parentOf?_eq_some_iff.1 (parentOf?_of_parentId? hparent)).2

/-- **Above a node there is one of every lesser depth.** -/
theorem exists_depth_eq {node : Node} (hnode : (Forest.build m).find? id = some node) {depth : Nat}
    (hdepth : depth ≤ node.depth) :
    ∃ other found, (Forest.build m).find? other = some found ∧ found.depth = depth := by
  rw [(find?_build_ancestors hnode).1] at hdepth
  obtain ⟨other, above, hother, habove, hlen⟩ :=
    (ascends_ancestorIds m id).exists_length_eq hdepth
  obtain ⟨found, hfound⟩ :=
    exists_find?_build (mem_ids_of_atOrAbove (mem_ids_of_find?_build hnode) hother)
  refine ⟨other, found, hfound, ?_⟩
  rw [(find?_build_ancestors hfound).1, (ascends_ancestorIds m other).unique habove, hlen]

theorem depth_le_linkedFields {node : Node} (hnode : (Forest.build m).find? id = some node) :
    node.depth ≤ (Forest.build m).metrics.linkedFields := by
  rw [(find?_build_ancestors hnode).1, linkedFields_build]
  refine (ascends_ancestorIds m id).length_le (acyclic_parentId? m) fun other parent hparent => ?_
  rw [List.mem_filter, List.mem_dedup, hparent, Option.isSome_some]
  exact ⟨mem_ids_of_parentId? hparent, rfl⟩

theorem Forest.maxDepth_eq (forest : Forest) :
    forest.metrics.maxDepth = ((forest.nodes.toList.map (·.depth)).max?).getD 0 := rfl

theorem depth_le_maxDepth {forest : Forest} {node : Node} (h : node ∈ forest.nodes.toList) :
    node.depth ≤ forest.metrics.maxDepth := by
  have hmem : node.depth ∈ forest.nodes.toList.map (·.depth) := List.mem_map_of_mem h
  rw [forest.maxDepth_eq]
  cases hlist : (forest.nodes.toList.map (·.depth)).max? with
  | none =>
    rw [List.max?_eq_none_iff.1 hlist] at hmem
    cases hmem
  | some greatest => exact (List.max?_eq_some_iff.1 hlist).2 _ hmem

theorem exists_depth_eq_maxDepth {forest : Forest} (h : forest.nodes.toList ≠ []) :
    ∃ node ∈ forest.nodes.toList, node.depth = forest.metrics.maxDepth := by
  rw [forest.maxDepth_eq]
  cases hlist : (forest.nodes.toList.map (·.depth)).max? with
  | none =>
    rw [List.max?_eq_none_iff, List.map_eq_nil_iff] at hlist
    exact absurd hlist h
  | some greatest => exact List.mem_map.1 (List.max?_mem hlist)

theorem nodes_build_ne_nil (h : m.fields ≠ []) : (Forest.build m).nodes.toList ≠ [] := by
  obtain ⟨f, fields, hfields⟩ := List.exists_cons_of_ne_nil h
  have hid : f.id ∈ m.ids := List.mem_map_of_mem (hfields ▸ List.mem_cons_self ..)
  obtain ⟨node, hnode⟩ := exists_find?_build hid
  exact List.ne_nil_of_mem (find?_build_iff_mem.1 hnode).1

/-- **All depths up to the greatest are those of nodes**, and no others. -/
theorem exists_depth_iff (h : m.fields ≠ []) {depth : Nat} :
    (∃ node ∈ (Forest.build m).nodes.toList, node.depth = depth) ↔
      depth ≤ (Forest.build m).metrics.maxDepth := by
  constructor
  · rintro ⟨node, hnode, rfl⟩
    exact depth_le_maxDepth hnode
  · intro hdepth
    obtain ⟨node, hnode, hmax⟩ := exists_depth_eq_maxDepth (nodes_build_ne_nil h)
    rw [← hmax] at hdepth
    obtain ⟨other, found, hfound, heq⟩ :=
      exists_depth_eq (find?_build_iff_mem.2 ⟨hnode, rfl⟩) hdepth
    exact ⟨found, (find?_build_iff_mem.1 hfound).1, heq⟩

theorem exists_mem_rootIds (h : m.fields ≠ []) : ∃ id, id ∈ (Forest.build m).rootIds := by
  obtain ⟨node, hnode, hdepth⟩ := (exists_depth_iff h).2 (Nat.zero_le _)
  have hfind := find?_build_iff_mem.2 ⟨hnode, rfl⟩
  rw [(find?_build_ancestors hfind).1, List.length_eq_zero_iff] at hdepth
  have hascends := ascends_ancestorIds m node.field.id
  rw [hdepth] at hascends
  cases hascends with
  | top htop => exact ⟨_, mem_rootIds.2 ⟨mem_ids_of_find?_build hfind, htop⟩⟩

/-- **No way up is longer** than there are fields below a parent. -/
theorem maxDepth_build_le (m : Module) :
    (Forest.build m).metrics.maxDepth ≤ (Forest.build m).metrics.linkedFields := by
  by_cases h : m.fields = []
  · have hnone : (Forest.build m).nodes.toList = [] := by
      refine List.eq_nil_iff_forall_not_mem.2 fun node hnode => ?_
      have hid := mem_ids_of_find?_build (find?_build_iff_mem.2 ⟨hnode, rfl⟩)
      rw [Module.ids, h] at hid
      cases hid
    rw [Forest.maxDepth_eq, hnone]
    exact Nat.zero_le _
  · obtain ⟨node, hnode, hmax⟩ := exists_depth_eq_maxDepth (nodes_build_ne_nil h)
    rw [← hmax]
    exact depth_le_linkedFields (find?_build_iff_mem.2 ⟨hnode, rfl⟩)

end Build

/-! ## Main theorem -/

/-- How the metrics of a forest are accounted for by the module and by what was repaired. -/
structure MetricsCount (m : Module) (forest : Forest) : Prop where
  totalFields_eq : forest.metrics.totalFields = m.ids.dedup.length
  rootFields_eq : forest.metrics.rootFields = forest.roots.length
  /-- The roots are of three kinds, and each is of one kind only. -/
  rootIds_perm : forest.rootIds.Perm
    (m.unparented ++ forest.diagnostics.orphans ++ forest.diagnostics.cycleBreaks)
  rootFields_eq_add : forest.metrics.rootFields =
    (m.lastOnly.fields.filter fun f => f.parent.isNone).length +
      forest.diagnostics.orphans.length + forest.diagnostics.cycleBreaks.length
  /-- There are no more roots than fields, so that taking them away never goes below zero. -/
  rootFields_le : forest.metrics.rootFields ≤ forest.metrics.totalFields
  rootFields_add_linkedFields :
    forest.metrics.rootFields + forest.metrics.linkedFields = forest.metrics.totalFields
  rootFields_pos : m.fields ≠ [] → 0 < forest.metrics.rootFields
  maxDepth_le : forest.metrics.maxDepth ≤ forest.metrics.linkedFields
  /-- No depth is left out. -/
  exists_depth_iff : m.fields ≠ [] → ∀ depth,
    (∃ node ∈ forest.nodes.toList, node.depth = depth) ↔ depth ≤ forest.metrics.maxDepth
  complexity_eq : forest.metrics.complexity =
    forest.metrics.totalFields + 2 * forest.metrics.linkedFields +
      3 * (m.lastOnly.fields.filter fun f => !f.conditions.isEmpty).length

/-- **Metrics are accounted for by the module and its repairs**, however broken the module is. -/
theorem build_metricsCount (m : Module) : MetricsCount m (Forest.build m) := by
  have hle := rootFields_le (Forest.build m)
  have hroots := rootFields_build m
  refine
    { totalFields_eq := totalFields_build m
      rootFields_eq := hroots
      rootIds_perm := rootIds_build_perm m
      rootFields_eq_add := ?_
      rootFields_le := hle
      rootFields_add_linkedFields := Nat.add_sub_cancel' hle
      rootFields_pos := fun h => ?_
      maxDepth_le := maxDepth_build_le m
      exists_depth_iff := fun h _ => exists_depth_iff h
      complexity_eq := ?_ }
  · rw [hroots, ← length_rootIds, (rootIds_build_perm m).length_eq, List.length_append,
      List.length_append, Module.unparented, List.length_map]
  · obtain ⟨id, hid⟩ := exists_mem_rootIds h
    rw [hroots, ← length_rootIds]
    exact List.length_pos_of_mem hid
  · have hconditional : (Forest.build m).metrics.conditionalFields =
        (m.lastOnly.fields.filter Field.hasConditions).length := by
      rw [conditionalFields_build, Module.fields_kept]
    rw [Forest.complexity_eq, hconditional]
    rfl

end DynamicForms
