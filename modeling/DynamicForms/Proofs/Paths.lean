import DynamicForms.Proofs.Ancestors

/-!
# What paths tell

The path of a node joins the ids from the root down to it with points.  Ids may be any texts, so
that different ids may join to one path; but where no id contains a point nothing is lost.

* `splitAtPoints` — the parts of a text between its points; `splitAtPoints_joinPath`: of ids without
  points these are the ids, which may be empty.
* `Forest.chainIds` — the ids from the root down to an id; `path_build`, `length_chainIds` say that
  a path joins them and that there is one more of them than the node is deep.
* `splitAtPoints_path_iff` — a path splits into these ids just when none of them contains a point.
* `PathsTell`, `build_pathsTell` — then the path tells which node it is.
-/

set_option autoImplicit false

namespace DynamicForms

/-! ## Joining and splitting -/

/-- The parts of a text between its points, of which there is one at least. -/
def splitAtPoints (path : String) : List String := (path.toList.splitOn '.').map String.ofList

theorem toList_joinPath (ids : List String) :
    (joinPath ids).toList = ['.'].intercalate (ids.map String.toList) :=
  String.toList_intercalate

/-- **Ids without points are not lost** when they are joined. -/
theorem splitAtPoints_joinPath {ids : List String} (hne : ids ≠ [])
    (hfree : ∀ id ∈ ids, '.' ∉ id.toList) : splitAtPoints (joinPath ids) = ids := by
  have hsplit : (joinPath ids).toList.splitOn '.' = ids.map String.toList := by
    rw [toList_joinPath]
    exact List.splitOn_intercalate '.' (List.forall_mem_map.2 hfree) (List.map_eq_nil_iff.not.2 hne)
  unfold splitAtPoints
  rw [hsplit, List.map_map]
  exact List.map_id'' (fun _ => String.ofList_toList) ids

theorem notMem_of_mem_splitOn {text part : List Char} (h : part ∈ text.splitOn '.') :
    '.' ∉ part := by
  induction text generalizing part with
  | nil =>
    rw [List.splitOn_nil, List.mem_singleton] at h
    rw [h]
    exact List.not_mem_nil
  | cons c text ih =>
    obtain ⟨first, rest, hsplit⟩ := List.exists_cons_of_ne_nil (List.splitOn_ne_nil '.' text)
    rw [List.splitOn_cons_eq_if_modifyHead, hsplit] at h
    rw [hsplit] at ih
    split at h
    · rcases List.mem_cons.1 h with rfl | h
      · exact List.not_mem_nil
      · exact ih h
    · rename_i hc
      rcases List.mem_cons.1 h with rfl | h
      · rw [List.mem_cons, not_or]
        exact ⟨fun heq => hc (beq_iff_eq.2 heq.symm), ih (List.mem_cons_self ..)⟩
      · exact ih (List.mem_cons_of_mem _ h)

theorem notMem_of_mem_splitAtPoints {path part : String} (h : part ∈ splitAtPoints path) :
    '.' ∉ part.toList := by
  obtain ⟨chars, hchars, rfl⟩ := List.mem_map.1 h
  rw [String.toList_ofList]
  exact notMem_of_mem_splitOn hchars

/-! ## The paths of a forest -/

/-- The ids from the root down to an id. -/
def Forest.chainIds (forest : Forest) (id : String) : List String :=
  (id :: forest.ancestorIds id).reverse

theorem Forest.chainIds_ne_nil (forest : Forest) (id : String) : forest.chainIds id ≠ [] := by
  simp [chainIds]

theorem Forest.eq_of_chainIds_eq {forest : Forest} {id other : String}
    (h : forest.chainIds id = forest.chainIds other) : id = other :=
  (List.cons.inj (List.reverse_injective h)).1

section Build

variable {m : Module} {i : Nat} {node : Node}

theorem find?_of_getElem? (h : (Forest.build m).nodes[i]? = some node) :
    (Forest.build m).find? node.field.id = some node :=
  find?_build_iff.2 ⟨i, h, rfl⟩

theorem path_build (h : (Forest.build m).nodes[i]? = some node) :
    node.path = joinPath ((Forest.build m).chainIds node.field.id) :=
  (find?_build_ancestors (find?_of_getElem? h)).2

theorem length_chainIds (h : (Forest.build m).nodes[i]? = some node) :
    ((Forest.build m).chainIds node.field.id).length = node.depth + 1 := by
  unfold Forest.chainIds
  rw [List.length_reverse, List.length_cons, (find?_build_ancestors (find?_of_getElem? h)).1]

/-- **A path splits into its ids** just when none of them contains a point. -/
theorem splitAtPoints_path_iff (h : (Forest.build m).nodes[i]? = some node) :
    splitAtPoints node.path = (Forest.build m).chainIds node.field.id ↔
      ∀ id ∈ (Forest.build m).chainIds node.field.id, '.' ∉ id.toList := by
  rw [path_build h]
  constructor
  · intro hsplit id hid
    rw [← hsplit] at hid
    exact notMem_of_mem_splitAtPoints hid
  · exact splitAtPoints_joinPath (Forest.chainIds_ne_nil _ _)

/-- **Without points the path tells the node.** -/
theorem eq_of_path_eq {j : Nat} {other : Node} (h : (Forest.build m).nodes[i]? = some node)
    (hother : (Forest.build m).nodes[j]? = some other) (hpath : node.path = other.path)
    (hfree : ∀ id ∈ (Forest.build m).chainIds node.field.id, '.' ∉ id.toList)
    (hfree' : ∀ id ∈ (Forest.build m).chainIds other.field.id, '.' ∉ id.toList) : i = j := by
  have hchains : (Forest.build m).chainIds node.field.id =
      (Forest.build m).chainIds other.field.id := by
    rw [← (splitAtPoints_path_iff h).2 hfree, hpath, (splitAtPoints_path_iff hother).2 hfree']
  have hid := Forest.idAt?_of_node h
  rw [Forest.eq_of_chainIds_eq hchains] at hid
  exact idAt?_build_inj hid (Forest.idAt?_of_node hother)

end Build

/-! ## Main theorem -/

/-- What the paths of a forest tell of its nodes. -/
structure PathsTell (forest : Forest) : Prop where
  /-- The chain of an id ends with it, and each id but the first comes after its parent. -/
  ascends_chain : ∀ id, ∃ above, forest.chainIds id = (id :: above).reverse ∧
    Ascends forest.parentId? id above
  path_eq : ∀ (i : Nat) (node : Node), forest.nodes[i]? = some node →
    node.path = joinPath (forest.chainIds node.field.id)
  split_iff : ∀ (i : Nat) (node : Node), forest.nodes[i]? = some node →
    (splitAtPoints node.path = forest.chainIds node.field.id ↔
      ∀ id ∈ forest.chainIds node.field.id, '.' ∉ id.toList)
  /-- There are as many parts then as the depth asks for. -/
  length_split : ∀ (i : Nat) (node : Node), forest.nodes[i]? = some node →
    (∀ id ∈ forest.chainIds node.field.id, '.' ∉ id.toList) →
    (splitAtPoints node.path).length = node.depth + 1
  /-- Among nodes without points in their chains no two have the same path. -/
  eq_of_path_eq : ∀ (i j : Nat) (node other : Node), forest.nodes[i]? = some node →
    forest.nodes[j]? = some other → node.path = other.path →
    (∀ id ∈ forest.chainIds node.field.id, '.' ∉ id.toList) →
    (∀ id ∈ forest.chainIds other.field.id, '.' ∉ id.toList) → i = j
  /-- So the chain of one of two nodes with the same path contains a point. -/
  exists_point : ∀ (i j : Nat) (node other : Node), forest.nodes[i]? = some node →
    forest.nodes[j]? = some other → node.path = other.path → i ≠ j →
    ∃ id, (id ∈ forest.chainIds node.field.id ∨ id ∈ forest.chainIds other.field.id) ∧
      '.' ∈ id.toList

/-- **Paths tell nodes apart** unless their ids contain points, however broken the module is. -/
theorem build_pathsTell (m : Module) : PathsTell (Forest.build m) where
  ascends_chain := fun id => ⟨_, rfl, ascends_ancestorIds m id⟩
  path_eq := fun _ _ => path_build
  split_iff := fun _ _ => splitAtPoints_path_iff
  length_split := by
    intro i node h hfree
    rw [(splitAtPoints_path_iff h).2 hfree, length_chainIds h]
  eq_of_path_eq := fun _ _ _ _ => eq_of_path_eq
  exists_point := by
    intro i j node other h hother hpath hne
    by_contra hnone
    push Not at hnone
    exact hne (eq_of_path_eq h hother hpath (fun id hid => hnone id (.inl hid))
      fun id hid => hnone id (.inr hid))

/-- A root whose id contains a point has the path of a node that is no root. -/
example : (Forest.build { Module.ofId "m" with
    fields := [.ofId "a" .group, .below "a" "b", .ofId "a.b" .text] }).nodes.toList.map
      Node.path = ["a", "a.b", "a.b"] := by
  cbv

end DynamicForms
