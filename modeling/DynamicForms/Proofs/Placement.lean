import DynamicForms.Forest.Build
import DynamicForms.Proofs.Traversal

/-!
# Depths and paths

`place` walks from the roots down and gives every node its depth and its path.

* `SameLinks` — two arrays of nodes differ in depths and paths only.
* `IsPlaced` — a node has the number of its ancestors as its depth, and as its path the ids from
  the root down to it with points between them.
* `placeBelow_spec` — what the walk keeps, by induction over its steps.
* `place_spec` — every node is placed in the end, and no link has changed.
-/

set_option autoImplicit false

namespace DynamicForms

/-- Ids with points between them. -/
def joinPath (ids : List String) : String := ".".intercalate ids

/-- The parent of a node among others. -/
def parentIn (nodes : Array Node) (i : Nat) : Option Nat := nodes[i]?.bind Node.parent

/-- The children of a node among others. -/
def childrenIn (nodes : Array Node) (i : Nat) : List Nat :=
  match nodes[i]? with
  | none => []
  | some node => node.children

theorem childrenIn_eq_getD (nodes : Array Node) (i : Nat) :
    childrenIn nodes i = (nodes[i]?.map Node.children).getD [] := by
  unfold childrenIn
  cases nodes[i]? <;> rfl

/-- The id of a node among others. -/
def idIn? (nodes : Array Node) (i : Nat) : Option String := nodes[i]?.map (·.field.id)

/-- The ids from the last of some nodes to the first one. -/
def idsDown (nodes : Array Node) (is : List Nat) : List String :=
  is.reverse.filterMap (idIn? nodes)

/-- A node without depth and path. -/
def Node.unplaced (node : Node) : Node := { node with depth := 0, path := "" }

/-- Nothing but depths and paths is different. -/
def SameLinks (nodes nodes' : Array Node) : Prop :=
  nodes'.map Node.unplaced = nodes.map Node.unplaced

/-- A node has the depth and the path that its ancestors give it. -/
def IsPlaced (nodes : Array Node) (i : Nat) : Prop :=
  ∀ l node, Ascends (parentIn nodes) i l → nodes[i]? = some node →
    node.depth = l.length ∧ node.path = joinPath (idsDown nodes (i :: l))

/-! ## Paths -/

theorem joinPath_singleton (id : String) : joinPath [id] = id :=
  String.intercalate_singleton

theorem joinPath_append {ids more : List String} (h : ids ≠ []) (hmore : more ≠ []) :
    joinPath (ids ++ more) = joinPath ids ++ "." ++ joinPath more :=
  String.intercalate_append_of_ne_nil h hmore

theorem joinPath_append_singleton {ids : List String} (h : ids ≠ []) (id : String) :
    joinPath (ids ++ [id]) = joinPath ids ++ "." ++ id := by
  rw [joinPath_append h (List.cons_ne_nil _ _), joinPath_singleton]

theorem idsDown_cons {nodes : Array Node} {i : Nat} {node : Node} (h : nodes[i]? = some node)
    (is : List Nat) : idsDown nodes (i :: is) = idsDown nodes is ++ [node.field.id] := by
  simp [idsDown, idIn?, h]

/-! ## Links -/

namespace SameLinks

variable {nodes nodes' nodes'' : Array Node}

theorem refl (nodes : Array Node) : SameLinks nodes nodes := rfl

theorem trans (h : SameLinks nodes nodes') (h' : SameLinks nodes' nodes'') :
    SameLinks nodes nodes'' := Eq.trans h' h

theorem size_eq (h : SameLinks nodes nodes') : nodes'.size = nodes.size := by
  have hsize := congrArg Array.size h
  simpa using hsize

theorem getElem?_eq (h : SameLinks nodes nodes') (i : Nat) :
    nodes'[i]?.map Node.unplaced = nodes[i]?.map Node.unplaced := by
  rw [← Array.getElem?_map, ← Array.getElem?_map, h]

theorem parentIn_eq (h : SameLinks nodes nodes') : parentIn nodes' = parentIn nodes := by
  funext i
  have hi := congrArg (Option.bind · Node.parent) (h.getElem?_eq i)
  simp only [Option.bind_map] at hi
  exact hi

theorem idIn?_eq (h : SameLinks nodes nodes') : idIn? nodes' = idIn? nodes := by
  funext i
  have hi := congrArg (Option.map (·.field.id)) (h.getElem?_eq i)
  simp only [Option.map_map] at hi
  exact hi

theorem childrenIn_eq (h : SameLinks nodes nodes') : childrenIn nodes' = childrenIn nodes := by
  funext i
  have hi := congrArg (Option.map Node.children) (h.getElem?_eq i)
  simp only [Option.map_map] at hi
  rw [childrenIn_eq_getD, childrenIn_eq_getD]
  exact congrArg (Option.getD · []) hi

end SameLinks

theorem getElem?_placeAt (depth : Nat) (start : String) (is : List Nat) :
    ∀ (nodes : Array Node) (i : Nat), (placeAt depth start nodes is)[i]? =
      if i ∈ is then nodes[i]?.map (Node.placed depth start) else nodes[i]? := by
  induction is with
  | nil => intro nodes i; simp [placeAt]
  | cons j is ih =>
    intro nodes i
    have hcons : placeAt depth start nodes (j :: is) =
        placeAt depth start (nodes.modify j (Node.placed depth start)) is := rfl
    rw [hcons, ih, Array.getElem?_modify]
    by_cases hj : j = i
    · subst hj
      by_cases his : j ∈ is <;> cases nodes[j]? <;> simp [his, Node.placed]
    · by_cases his : i ∈ is <;> simp [his, hj, Ne.symm hj]

theorem sameLinks_placeAt (depth : Nat) (start : String) (nodes : Array Node) (is : List Nat) :
    SameLinks nodes (placeAt depth start nodes is) := by
  refine Array.ext_getElem? fun i => ?_
  rw [Array.getElem?_map, Array.getElem?_map, getElem?_placeAt]
  split
  · rw [Option.map_map]
    rfl
  · rfl

/-! ## The walk -/

section Walk

variable {nodes : Array Node} {roots : List Nat}

/-- What a step of the walk starts from: links as at the beginning, and everything visited or
waiting is placed. -/
structure Placing (nodes : Array Node) (met : List Nat) (now : Array Node) : Prop where
  links : SameLinks nodes now
  placed : ∀ i ∈ met, IsPlaced now i

theorem Placing.start (hl : Linked nodes.size (parentIn nodes) (childrenIn nodes) roots) :
    Placing nodes roots (placeAt 0 "" nodes roots) where
  links := sameLinks_placeAt 0 "" nodes roots
  placed := by
    intro i hi l node hl' hnode
    rw [(sameLinks_placeAt 0 "" nodes roots).parentIn_eq] at hl'
    have htop := (hl.mem_roots.1 hi).2
    cases hl' with
    | step hstep _ => rw [htop] at hstep; cases hstep
    | top _ =>
      have hids := idsDown_cons hnode []
      rw [hids]
      rw [getElem?_placeAt, if_pos hi] at hnode
      obtain ⟨before, _, rfl⟩ := Option.map_eq_some_iff.1 hnode
      exact ⟨rfl, by simp [idsDown, joinPath_singleton, Node.placed]⟩

/-- **One step**: the children of a placed node are placed below it, and nothing else moves. -/
theorem Placing.step (hl : Linked nodes.size (parentIn nodes) (childrenIn nodes) roots)
    {met : List Nat} {now : Array Node} (h : Placing nodes met now) {i : Nat} {node : Node}
    (hi : i ∈ met) (hnode : now[i]? = some node) :
    Placing nodes (met ++ node.children)
      (placeAt (node.depth + 1) (node.path ++ ".") now node.children) := by
  have hlinks := sameLinks_placeAt (node.depth + 1) (node.path ++ ".") now node.children
  have hdown : childrenIn now i = node.children := by simp [childrenIn, hnode]
  refine ⟨h.links.trans hlinks, ?_⟩
  intro j hj l child hup hchild
  have hup' := hup
  rw [hlinks.parentIn_eq] at hup'
  have hids : idsDown (placeAt (node.depth + 1) (node.path ++ ".") now node.children) (j :: l) =
      idsDown now (j :: l) := by
    unfold idsDown
    rw [hlinks.idIn?_eq]
  rw [hids]
  rw [getElem?_placeAt] at hchild
  split at hchild
  · rename_i hmem
    have hparent : parentIn now j = some i := by
      rw [h.links.parentIn_eq]
      refine hl.mem_down.1 ?_
      rw [← h.links.childrenIn_eq, hdown]
      exact hmem
    obtain ⟨before, hbefore, rfl⟩ := Option.map_eq_some_iff.1 hchild
    cases hup' with
    | top htop => rw [htop] at hparent; cases hparent
    | step hstep rest =>
      rename_i p l
      rw [hparent, Option.some.injEq] at hstep
      subst hstep
      obtain ⟨hdepth, hpath⟩ := h.placed i hi l node rest hnode
      refine ⟨by simp [Node.placed, hdepth], ?_⟩
      rw [idsDown_cons hbefore, joinPath_append_singleton (by simp [idsDown_cons hnode]), ← hpath]
      rfl
  · rename_i hmem
    rcases List.mem_append.1 hj with hj | hj
    · exact h.placed j hj l child hup' hchild
    · exact absurd hj hmem

theorem Placing.sub {met met' : List Nat} {now : Array Node} (h : Placing nodes met now)
    (hsub : met' ⊆ met) : Placing nodes met' now :=
  ⟨h.links, fun i hi => h.placed i (hsub hi)⟩

/-- **The whole walk** places all nodes: its fuel lasts. -/
theorem placeBelow_spec (hl : Linked nodes.size (parentIn nodes) (childrenIn nodes) roots) :
    ∀ (fuel : Nat) (visited stack : List Nat) (now : Array Node),
      Traversal nodes.size (parentIn nodes) visited stack →
      Placing nodes (visited ++ stack) now → nodes.size ≤ fuel + visited.length →
      Placing nodes (List.range nodes.size) (placeBelow fuel stack now) := by
  have hend : ∀ visited (now : Array Node), Traversal nodes.size (parentIn nodes) visited [] →
      Placing nodes (visited ++ []) now → Placing nodes (List.range nodes.size) now := by
    intro visited now ht h
    rw [List.append_nil] at h
    exact h.sub (ht.perm_range hl).symm.subset
  intro fuel
  induction fuel with
  | zero =>
    intro visited stack now ht h hfuel
    have hnil := ht.stack_eq_nil (by omega)
    subst hnil
    exact hend visited now ht h
  | succ fuel ih =>
    intro visited stack now ht h hfuel
    cases stack with
    | nil => exact hend visited now ht h
    | cons i stack =>
      have hlt : i < now.size := by
        rw [h.links.size_eq]
        exact ht.lt (List.mem_append_right _ (List.mem_cons_self ..))
      obtain ⟨node, hnode⟩ : ∃ node, now[i]? = some node := ⟨now[i], Array.getElem?_eq_getElem hlt⟩
      have hdown : node.children = childrenIn nodes i := by
        rw [← h.links.childrenIn_eq]
        simp [childrenIn, hnode]
      have hnext : node.children.reverse.Perm (childrenIn nodes i) := by
        rw [← hdown]
        exact List.reverse_perm _
      unfold placeBelow
      rw [hnode]
      refine ih (visited ++ [i]) (node.children.reverse ++ stack) _ (ht.step hl hnext) ?_ ?_
      · have hstep := h.step hl (List.mem_append_right _ (List.mem_cons_self ..)) hnode
        refine hstep.sub fun j hj => ?_
        rcases Traversal.mem_step.1 hj with hj | hj
        · exact List.mem_append_left _ hj
        · exact List.mem_append_right _ (List.mem_reverse.1 hj)
      · rw [List.length_append, List.length_singleton]
        omega

/-- **Every node is placed**, and no link has changed. -/
theorem place_spec (hl : Linked nodes.size (parentIn nodes) (childrenIn nodes) roots) :
    SameLinks nodes (place nodes roots) ∧ ∀ i, IsPlaced (place nodes roots) i := by
  have hperm := List.reverse_perm roots
  have h := placeBelow_spec hl nodes.size [] roots.reverse (placeAt 0 "" nodes roots)
    (Traversal.start hl hperm) ((Placing.start hl).sub hperm.subset) (by simp)
  refine ⟨h.links, fun i l node hup hnode => ?_⟩
  have hlt : i < nodes.size := by
    rw [← h.links.size_eq]
    exact (Array.getElem?_eq_some_iff.1 hnode).1
  exact h.placed i (List.mem_range.2 hlt) l node hup hnode

end Walk

end DynamicForms
