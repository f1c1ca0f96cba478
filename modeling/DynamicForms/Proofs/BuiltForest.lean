import DynamicForms.Proofs.Breaks
import DynamicForms.Proofs.Declarations
import DynamicForms.Proofs.Placement

/-!
# The nodes of a built forest

* `linked_linkedNodes` — before they are placed the nodes are linked in both directions, by the
  parents that are left when all cycles are broken.
* `links_build`, `isPlaced_build` — placing keeps the links and places every node.
* `idAt?_build`, `parent?_build`, `children_build` — the node at a place stands for the declaration
  that is kept there.
-/

set_option autoImplicit false

namespace DynamicForms

theorem mem_sortByOrder {kept : Array Declaration} {is : List Nat} {i : Nat} :
    i ∈ sortByOrder kept is ↔ i ∈ is := by
  unfold sortByOrder
  exact List.mem_mergeSort

theorem nodup_sortByOrder {kept : Array Declaration} {is : List Nat} (h : is.Nodup) :
    (sortByOrder kept is).Nodup := by
  unfold sortByOrder
  exact (List.mergeSort_perm is _).nodup_iff.2 h

theorem mem_childrenOf {kept : Array Declaration} {parents : Parents} {parent : Option Nat}
    {i : Nat} :
    i ∈ childrenOf kept parents parent ↔ i < parents.size ∧ parents.parent? i = parent := by
  unfold childrenOf
  rw [mem_sortByOrder, List.mem_filter, List.mem_range, beq_iff_eq]

theorem nodup_childrenOf (kept : Array Declaration) (parents : Parents) (parent : Option Nat) :
    (childrenOf kept parents parent).Nodup := by
  unfold childrenOf
  exact nodup_sortByOrder (List.nodup_range.filter _)

namespace Module

variable {m : Module}

/-- The parents by places when all cycles are broken. -/
def tree (m : Module) : Parents := m.links.broken

@[simp]
theorem size_tree (m : Module) : m.tree.size = m.kept.length := by
  rw [tree, Parents.size_broken, links, parentsOf, List.size_toArray, List.length_map]

theorem tree_lt {i p : Nat} (h : m.tree.parent? i = some p) :
    i < m.kept.length ∧ p < m.kept.length := by
  have hi := Parents.lt_size_of_parent? h
  rw [size_tree] at hi
  obtain ⟨_, q, _, _, hp⟩ := parent?_links.1 (Parents.parent?_of_broken h)
  obtain ⟨d, hd, _⟩ := Option.map_eq_some_iff.1 hp
  exact ⟨hi, (List.getElem?_eq_some_iff.1 hd).1⟩

/-- The nodes of a module, linked and not placed yet. -/
def linkedNodes (m : Module) : Array Node := DynamicForms.linkedNodes m.kept.toArray m.tree

@[simp]
theorem size_linkedNodes (m : Module) : m.linkedNodes.size = m.kept.length := by
  simp [linkedNodes, DynamicForms.linkedNodes]

theorem getElem?_linkedNodes (m : Module) (i : Nat) :
    m.linkedNodes[i]? = m.kept[i]?.map fun d =>
      { field := d.1
        position := d.2
        parent := m.tree.parent? i
        children := childrenOf m.kept.toArray m.tree (some i)
        depth := 0
        path := "" } := by
  unfold linkedNodes DynamicForms.linkedNodes
  rw [Array.getElem?_mapIdx, List.getElem?_toArray]

theorem parentIn_linkedNodes (m : Module) : parentIn m.linkedNodes = m.tree.parent? := by
  funext i
  unfold parentIn
  rw [getElem?_linkedNodes]
  cases hd : m.kept[i]? with
  | some d => rfl
  | none =>
    cases hp : m.tree.parent? i with
    | none => rfl
    | some p =>
      have hlt := (tree_lt hp).1
      rw [List.getElem?_eq_getElem hlt] at hd
      cases hd

theorem idIn?_linkedNodes (m : Module) : idIn? m.linkedNodes = m.keptId? := by
  funext i
  unfold idIn? keptId?
  rw [getElem?_linkedNodes, Option.map_map]
  rfl

theorem childrenIn_linkedNodes (m : Module) :
    childrenIn m.linkedNodes = fun i => childrenOf m.kept.toArray m.tree (some i) := by
  funext i
  unfold childrenIn
  rw [getElem?_linkedNodes]
  cases hd : m.kept[i]? with
  | some d => rfl
  | none =>
    refine (List.eq_nil_iff_forall_not_mem.2 fun j hj => ?_).symm
    have hlt := (tree_lt (mem_childrenOf.1 hj).2).2
    rw [List.getElem?_eq_getElem hlt] at hd
    cases hd

/-- The roots of a module in the order of display. -/
def roots (m : Module) : List Nat := childrenOf m.kept.toArray m.tree none

/-- **The nodes are linked** in both directions and without cycles. -/
theorem linked_linkedNodes (m : Module) :
    Linked m.linkedNodes.size (parentIn m.linkedNodes) (childrenIn m.linkedNodes) m.roots := by
  rw [parentIn_linkedNodes, childrenIn_linkedNodes, size_linkedNodes]
  refine ⟨tree_lt, fun i => nodup_childrenOf _ _ _, ?_, nodup_childrenOf _ _ _, ?_, ?_⟩
  · intro i j
    rw [mem_childrenOf, size_tree]
    exact ⟨fun h => h.2, fun h => ⟨(tree_lt h).1, h⟩⟩
  · intro i
    unfold roots
    rw [mem_childrenOf, size_tree]
  · exact Parents.acyclic_broken m.links

end Module

/-! ## The finished forest -/

section Build

variable (m : Module)

theorem nodes_build : (Forest.build m).nodes = place m.linkedNodes m.roots := rfl

theorem roots_build : (Forest.build m).roots = m.roots := rfl

theorem lookup_build : (Forest.build m).lookup = m.lookup := rfl

theorem links_build : SameLinks m.linkedNodes (Forest.build m).nodes :=
  (place_spec m.linked_linkedNodes).1

theorem isPlaced_build (i : Nat) : IsPlaced (Forest.build m).nodes i :=
  (place_spec m.linked_linkedNodes).2 i

theorem size_build : (Forest.build m).size = m.kept.length := by
  unfold Forest.size
  rw [(links_build m).size_eq, Module.size_linkedNodes]

theorem parent?_build : (Forest.build m).parent? = m.tree.parent? := by
  rw [← Module.parentIn_linkedNodes, ← (links_build m).parentIn_eq]
  rfl

theorem children_build :
    (Forest.build m).children = fun i => childrenOf m.kept.toArray m.tree (some i) := by
  rw [← Module.childrenIn_linkedNodes, ← (links_build m).childrenIn_eq]
  rfl

theorem idAt?_build : (Forest.build m).idAt? = m.keptId? := by
  rw [← Module.idIn?_linkedNodes, ← (links_build m).idIn?_eq]
  rfl

/-- **The finished forest is linked** in both directions and without cycles. -/
theorem linked_build :
    Linked (Forest.build m).size (Forest.build m).parent? (Forest.build m).children
      (Forest.build m).roots := by
  have h := m.linked_linkedNodes
  rw [← (links_build m).parentIn_eq, ← (links_build m).childrenIn_eq,
    ← (links_build m).size_eq] at h
  exact h

end Build

end DynamicForms
