import DynamicForms.Proofs.BuiltForest

/-!
# Built forests are well formed

* `Forest.Walks` — a walk over the nodes from a stack comes to an end; no bound is part of it.
* `Forest.WellFormed` — what a forest of a module has to be: a bijection between ids and nodes,
  every node listed exactly once, no cycles, depths and paths that agree with the ancestors, and a
  walk that ends and meets every node once.
* `walk_spec`, `ancestors_spec` — the bounds of `Forest.walk` and `Forest.ancestors` are never
  reached.
* `build_wellFormed` — the forest built from any module is well formed.
-/

set_option autoImplicit false

namespace DynamicForms

namespace Forest

/-- Taking nodes from a stack, and putting the children of each there instead, ends and meets the
nodes in this order. -/
inductive Walks (forest : Forest) : List Nat → List Nat → Prop
  | done : Walks forest [] []
  | step {i : Nat} {node : Node} {stack rest : List Nat} (hnode : forest.nodes[i]? = some node)
    (hrest : Walks forest (node.children ++ stack) rest) : Walks forest (i :: stack) (i :: rest)

/-- The children of all nodes, list after list. -/
def allChildren (forest : Forest) : List Nat := forest.nodes.toList.flatMap Node.children

/-- What a forest of a module has to be, however broken the module is. -/
structure WellFormed (m : Module) (forest : Forest) : Prop where
  /-- The ids that can be looked up are those of the module. -/
  contains_iff : ∀ id, forest.contains id = true ↔ id ∈ m.ids
  /-- An id leads to the node that has it, and every node is found by its id. -/
  indexOf?_iff : ∀ id i, forest.indexOf? id = some i ↔ forest.idAt? i = some id
  indexOf?_lt : ∀ id i, forest.indexOf? id = some i → i < forest.size
  roots_lt : ∀ i ∈ forest.roots, i < forest.size
  parent_lt : ∀ i p, forest.parent? i = some p → p < forest.size
  children_lt : ∀ i, ∀ j ∈ forest.children i, j < forest.size
  /-- A node without a parent is listed once among the roots and nowhere else. -/
  root_once : ∀ i < forest.size, forest.parent? i = none →
    forest.roots.count i = 1 ∧ forest.allChildren.count i = 0
  /-- A node with a parent is listed once, among the children of its parent. -/
  child_once : ∀ i p, forest.parent? i = some p →
    forest.roots.count i = 0 ∧ forest.allChildren.count i = 1 ∧ i ∈ forest.children p
  /-- No node is its own ancestor. -/
  acyclic : Acyclic forest.parent?
  /-- Asking for parents ends, and `ancestors` lists what is met. -/
  ancestors_end : ∀ i, Ascends forest.parent? i (forest.ancestors i)
  depth_eq : ∀ i node, forest.nodes[i]? = some node → node.depth = (forest.ancestors i).length
  path_eq : ∀ i node, forest.nodes[i]? = some node →
    node.path = joinPath (forest.idsAt (i :: forest.ancestors i).reverse)
  /-- The walk from the roots ends. -/
  depthFirst_ends : forest.Walks forest.roots forest.depthFirst
  /-- The walk from the roots meets every node exactly once. -/
  depthFirst_perm : forest.depthFirst.Perm (List.range forest.size)
  nodesInOrder_perm : forest.nodesInOrder.Perm forest.nodes.toList

/-! ## Ways up and walks down -/

theorem filterMap_getElem?_range {α : Type} (l : List α) :
    (List.range l.length).filterMap (fun i => l[i]?) = l := by
  induction l using List.reverseRecOn with
  | nil => rfl
  | append_singleton l a ih =>
    have hfirst : (List.range l.length).filterMap (fun i => (l ++ [a])[i]?) = l := by
      refine Eq.trans (List.filterMap_congr fun i hi => ?_) ih
      rw [List.getElem?_append_left (List.mem_range.1 hi)]
    rw [List.length_append, List.length_singleton, List.range_succ, List.filterMap_append, hfirst]
    simp

theorem parent?_of_node {forest : Forest} {i : Nat} {node : Node}
    (h : forest.nodes[i]? = some node) : forest.parent? i = node.parent := by
  unfold parent?
  rw [h, Option.bind_some]

theorem idAt?_of_node {forest : Forest} {i : Nat} {node : Node}
    (h : forest.nodes[i]? = some node) : forest.idAt? i = some node.field.id := by
  unfold idAt?
  rw [h, Option.map_some]

theorem ancestorsUpTo_eq {forest : Forest} {i : Nat} {l : List Nat}
    (h : Ascends forest.parent? i l) :
    ∀ fuel, l.length ≤ fuel → forest.ancestorsUpTo fuel i = l := by
  induction h with
  | top htop =>
    intro fuel _
    cases fuel with
    | zero => rfl
    | succ fuel => simp [ancestorsUpTo, htop]
  | step hstep _ ih =>
    intro fuel hle
    rw [List.length_cons] at hle
    cases fuel with
    | zero => omega
    | succ fuel => simp [ancestorsUpTo, hstep, ih fuel (by omega)]

section Linked

variable {forest : Forest}
  (hl : Linked forest.size forest.parent? forest.children forest.roots)

include hl

/-- **Asking for parents ends** before the bound of `ancestors` is reached. -/
theorem ancestors_spec (i : Nat) : Ascends forest.parent? i (forest.ancestors i) := by
  obtain ⟨l, h⟩ := hl.exists_ascends i
  have hle := h.length_le hl.acyclic fun _ _ hp => List.mem_range.2 (hl.up_lt hp).1
  rw [List.length_range] at hle
  unfold ancestors
  rw [ancestorsUpTo_eq h forest.size hle]
  exact h

/-- **The walk ends** before its bound is reached, when it has visited every node. -/
theorem walk_spec : ∀ (fuel : Nat) (visited stack : List Nat),
    Traversal forest.size forest.parent? visited stack →
    forest.size ≤ fuel + visited.length →
    Traversal forest.size forest.parent? (visited ++ forest.walk fuel stack) [] ∧
      forest.Walks stack (forest.walk fuel stack) := by
  intro fuel
  induction fuel with
  | zero =>
    intro visited stack h hfuel
    have hnil := h.stack_eq_nil (by omega)
    subst hnil
    unfold walk
    rw [List.append_nil]
    exact ⟨h, .done⟩
  | succ fuel ih =>
    intro visited stack h hfuel
    cases stack with
    | nil =>
      unfold walk
      rw [List.append_nil]
      exact ⟨h, .done⟩
    | cons i stack =>
      have hlt : i < forest.nodes.size := h.lt (List.mem_append_right _ (List.mem_cons_self ..))
      have hnode := Array.getElem?_eq_getElem hlt
      have hdown : forest.children i = forest.nodes[i].children := by
        unfold children
        rw [hnode]
      obtain ⟨hall, hwalks⟩ := ih (visited ++ [i]) (forest.children i ++ stack)
        (h.step hl (List.Perm.refl _)) (by
          rw [List.length_append, List.length_singleton]
          omega)
      unfold walk
      rw [List.append_assoc, List.singleton_append] at hall
      rw [hdown] at hall hwalks ⊢
      exact ⟨hall, .step hnode hwalks⟩

theorem depthFirst_spec :
    forest.Walks forest.roots forest.depthFirst ∧
      forest.depthFirst.Perm (List.range forest.size) := by
  obtain ⟨hall, hwalks⟩ := walk_spec hl forest.size [] forest.roots
    (Traversal.start hl (List.Perm.refl _)) (by simp)
  exact ⟨hwalks, hall.perm_range hl⟩

theorem nodesInOrder_spec : forest.nodesInOrder.Perm forest.nodes.toList := by
  have hperm := (depthFirst_spec hl).2.filterMap fun i => forest.nodes[i]?
  have hall := filterMap_getElem?_range forest.nodes.toList
  rw [Array.length_toList] at hall
  simp only [Array.getElem?_toList] at hall
  unfold nodesInOrder
  unfold size at hperm
  rwa [hall] at hperm

theorem mem_nodesInOrder {i : Nat} {node : Node} (h : forest.nodes[i]? = some node) :
    node ∈ forest.nodesInOrder :=
  (nodesInOrder_spec hl).mem_iff.2 (List.mem_of_getElem? (Array.getElem?_toList ▸ h))

/-! ## Lists of children -/

theorem mem_allChildren {i : Nat} :
    i ∈ forest.allChildren ↔ ∃ p, forest.parent? i = some p := by
  unfold allChildren
  rw [List.mem_flatMap]
  constructor
  · rintro ⟨node, hnode, hi⟩
    obtain ⟨p, hp⟩ := List.getElem?_of_mem hnode
    rw [Array.getElem?_toList] at hp
    refine ⟨p, hl.mem_down.1 ?_⟩
    unfold children
    rw [hp]
    exact hi
  · rintro ⟨p, hp⟩
    have hlt : p < forest.nodes.size := (hl.up_lt hp).2
    have hi := hl.mem_down.2 hp
    unfold children at hi
    rw [Array.getElem?_eq_getElem hlt] at hi
    exact ⟨forest.nodes[p], by simp, hi⟩

theorem nodup_allChildren : forest.allChildren.Nodup := by
  have hdown : ∀ p (hp : p < forest.nodes.toList.length),
      forest.nodes.toList[p].children = forest.children p := by
    intro p hp
    unfold children
    rw [← Array.getElem?_toList, List.getElem?_eq_getElem hp]
  unfold allChildren
  rw [List.nodup_flatMap]
  constructor
  · intro node hnode
    obtain ⟨p, hp, rfl⟩ := List.getElem_of_mem hnode
    rw [hdown]
    exact hl.nodup_down p
  · rw [List.pairwise_iff_getElem]
    intro p q hp hq hlt
    show List.Disjoint forest.nodes.toList[p].children forest.nodes.toList[q].children
    rw [hdown, hdown]
    intro i hip hiq
    have heq := hl.mem_down.1 hip
    rw [hl.mem_down.1 hiq, Option.some.injEq] at heq
    omega

theorem count_of_root {i : Nat} (hi : i < forest.size) (htop : forest.parent? i = none) :
    forest.roots.count i = 1 ∧ forest.allChildren.count i = 0 := by
  refine ⟨List.count_eq_one_of_mem hl.nodup_roots (hl.mem_roots.2 ⟨hi, htop⟩), ?_⟩
  rw [List.count_eq_zero, mem_allChildren hl]
  rintro ⟨p, hp⟩
  rw [htop] at hp
  cases hp

theorem count_of_child {i p : Nat} (hp : forest.parent? i = some p) :
    forest.roots.count i = 0 ∧ forest.allChildren.count i = 1 ∧ i ∈ forest.children p := by
  refine ⟨?_, ?_, hl.mem_down.2 hp⟩
  · rw [List.count_eq_zero, hl.mem_roots, hp]
    rintro ⟨_, htop⟩
    cases htop
  · exact List.count_eq_one_of_mem (nodup_allChildren hl) ((mem_allChildren hl).2 ⟨p, hp⟩)

end Linked

end Forest

/-! ## Main theorem -/

theorem indexOf?_build_iff {m : Module} {id : String} {i : Nat} :
    (Forest.build m).indexOf? id = some i ↔ (Forest.build m).idAt? i = some id := by
  rw [idAt?_build]
  exact Module.get?_lookup

theorem contains_build_iff {m : Module} {id : String} :
    (Forest.build m).contains id = true ↔ id ∈ m.ids := by
  rw [← Module.contains_iff, ← Module.contains_lookup]
  rfl

/-- **Any module builds a well-formed forest.** -/
theorem build_wellFormed (m : Module) : (Forest.build m).WellFormed m := by
  have hl := linked_build m
  refine
    { contains_iff := fun _ => contains_build_iff
      indexOf?_iff := fun _ _ => indexOf?_build_iff
      indexOf?_lt := ?_
      roots_lt := fun i hi => (hl.mem_roots.1 hi).1
      parent_lt := fun i p hp => (hl.up_lt hp).2
      children_lt := fun i j hj => (hl.up_lt (hl.mem_down.1 hj)).1
      root_once := fun i hi htop => Forest.count_of_root hl hi htop
      child_once := fun i p hp => Forest.count_of_child hl hp
      acyclic := hl.acyclic
      ancestors_end := Forest.ancestors_spec hl
      depth_eq := ?_
      path_eq := ?_
      depthFirst_ends := (Forest.depthFirst_spec hl).1
      depthFirst_perm := (Forest.depthFirst_spec hl).2
      nodesInOrder_perm := Forest.nodesInOrder_spec hl }
  · intro id i hi
    obtain ⟨node, hnode, _⟩ := Option.map_eq_some_iff.1 (indexOf?_build_iff.1 hi)
    exact (Array.getElem?_eq_some_iff.1 hnode).1
  · intro i node hnode
    exact (isPlaced_build m i _ node (Forest.ancestors_spec hl i) hnode).1
  · intro i node hnode
    have hids : idsDown (Forest.build m).nodes (i :: (Forest.build m).ancestors i) =
        (Forest.build m).idsAt (i :: (Forest.build m).ancestors i).reverse := rfl
    rw [← hids]
    exact (isPlaced_build m i _ node (Forest.ancestors_spec hl i) hnode).2

end DynamicForms
