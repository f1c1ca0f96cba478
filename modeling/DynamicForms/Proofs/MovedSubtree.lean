import DynamicForms.Proofs.Ancestors
import DynamicForms.Proofs.DisplayOrder

/-!
# Moving a subtree

Giving a field another parent that closes no cycle moves the field with all that is below it, and
nothing else.

* `Ascends.exists_part` — a way up that comes by the changed field stays as it is up to there.
* `parentOf?_reparent`, `acyclic_reparent`, `rankOf?_reparent` — in the module afterwards only
  the field names another parent, there is still no cycle, and siblings go by the same ranks.
* `Forest.StandsBelow` — how much deeper an id is than another one above it, and what its path has
  more.
* `MovesRigidly`, `build_reparent_movesRigidly` — what the forests before and after have in common.
-/

set_option autoImplicit false

namespace DynamicForms

open Relation Structure

/-! ## Ways up when one link is changed -/

section Ways

variable {α : Type} {up up' : α → Option α} {a f : α} {l : List α}

/-- **A way up that comes by `f` stays up to there** when the link at `f` is changed. -/
theorem Ascends.exists_part (hoff : ∀ b, b ≠ f → up b = up' b) (h : Ascends up a l) (ha : a ≠ f)
    (hf : f ∈ l) : ∃ part,
      (∀ above, Ascends up f above → Ascends up a (part ++ f :: above)) ∧
      ∀ above, Ascends up' f above → Ascends up' a (part ++ f :: above) := by
  induction h with
  | top _ => cases hf
  | @step a p l hstep _ ih =>
    have hstep' : up' a = some p := (hoff a ha).symm.trans hstep
    by_cases hp : p = f
    · subst hp
      exact ⟨[], fun _ h => .step hstep h, fun _ h => .step hstep' h⟩
    · obtain ⟨part, hbefore, hafter⟩ := ih hp ((List.mem_cons.1 hf).resolve_left (Ne.symm hp))
      exact ⟨p :: part, fun above h => .step hstep (hbefore above h),
        fun above h => .step hstep' (hafter above h)⟩

theorem Above.of_eq_off (hup : Acyclic up) (hoff : ∀ b, b ≠ f → up b = up' b)
    (h : Above up a f) : Above up' a f := by
  have ha : a ≠ f := by
    rintro rfl
    exact hup a h
  rcases reflTransGen_iff_eq_or_transGen.1 (AtOrAbove.of_eq_off hoff h.to_reflTransGen) with
    heq | habove
  · exact absurd heq.symm ha
  · exact habove

end Ways

/-! ## The module afterwards -/

namespace Module

variable {m : Module} {field : String} {parent : Option String}

/-- **Only the field gets another parent**, if that is declared. -/
theorem parentOf?_reparent (hfield : field ∈ m.ids) (id : String) :
    (m.reparent field parent).parentOf? id =
      if id = field then parent.filter m.contains else m.parentOf? id := by
  have hcontains : (m.reparent field parent).contains = m.contains := by
    funext id
    rw [Bool.eq_iff_iff, contains_iff, contains_iff, ids_reparent]
  unfold parentOf?
  rw [namedParent?_reparent hfield, hcontains]
  split <;> rfl

/-- **A checked parent, or none, leaves the module without cycles.** -/
theorem acyclic_reparent (hm : Acyclic m.parentOf?) (hfield : field ∈ m.ids)
    (hparent : ∀ p, parent = some p → m.wouldCycle field p = false) :
    Acyclic (m.reparent field parent).parentOf? := by
  cases parent with
  | none =>
    refine fun id hloop => hm id (hloop.of_sub fun a b hab => ?_)
    rw [parentOf?_reparent hfield] at hab
    split at hab
    · cases hab
    · exact hab
  | some p =>
    have hedit : CheckedEdit m (m.reparent field (some p)) :=
      ⟨field, p, hparent p rfl, .moved (contains_iff.2 hfield)⟩
    exact hedit.acyclic hm

end Module

theorem rankOf?_reparent (m : Module) (field : String) (parent : Option String) :
    (Forest.build (m.reparent field parent)).rankOf? = (Forest.build m).rankOf? := by
  funext id
  rw [rankOf?_build, rankOf?_build, Module.rankOf?, Module.rankOf?, Module.ids_reparent,
    Module.field?_reparent]
  split
  · rename_i hid
    rw [hid, Option.bind_map]
    rfl
  · rfl

theorem idAt?_reparent (m : Module) (field : String) (parent : Option String) :
    (Forest.build (m.reparent field parent)).idAt? = (Forest.build m).idAt? := by
  have hkept : ∀ m : Module, m.kept.map (·.1.id) =
      (m.ids.zipIdx.filter fun d => lastIndexOf? m.ids d.1 == some d.2).map Prod.fst := by
    intro m
    have hzip : m.ids.zipIdx = m.fields.zipIdx.map fun d => (d.1.id, d.2) := List.zipIdx_map ..
    rw [Module.kept_eq_filter, hzip, List.filter_map, List.map_map]
    rfl
  funext i
  rw [idAt?_build, idAt?_build]
  unfold Module.keptId?
  rw [← List.getElem?_map, ← List.getElem?_map, hkept, hkept, Module.ids_reparent]

/-! ## Two forests -/

/-- An id stands by so much deeper than another one, and its path goes on from that one's in this
way. -/
def Forest.StandsBelow (forest : Forest) (top id : String) (depth : Nat) (rest : String) : Prop :=
  ∃ above node, forest.find? top = some above ∧ forest.find? id = some node ∧
    node.depth = above.depth + depth ∧ node.path = above.path ++ rest

section Build

variable {m : Module} {id top : String}

theorem standsBelow_of_ancestorIds {part : List String}
    (h : (Forest.build m).ancestorIds id = part ++ top :: (Forest.build m).ancestorIds top) :
    (Forest.build m).StandsBelow top id (part.length + 1)
      ("." ++ joinPath (part.reverse ++ [id])) := by
  have hmem : top ∈ (Forest.build m).ancestorIds id := by simp [h]
  have hid : id ∈ m.ids := by
    obtain ⟨p, hp⟩ := (mem_ancestorIds.1 hmem).exists_up
    exact mem_ids_of_parentId? hp
  have htop : top ∈ m.ids := by
    obtain ⟨x, _, hx⟩ := TransGen.tail'_iff.1 (mem_ancestorIds.1 hmem)
    exact (Module.parentOf?_eq_some_iff.1 (parentOf?_of_parentId? hx)).2
  obtain ⟨node, hnode⟩ := exists_find?_build hid
  obtain ⟨above, habove⟩ := exists_find?_build htop
  obtain ⟨hdepth, hpath⟩ := find?_build_ancestors hnode
  obtain ⟨hdepth', hpath'⟩ := find?_build_ancestors habove
  refine ⟨above, node, habove, hnode, ?_, ?_⟩
  · rw [hdepth, hdepth', h, List.length_append, List.length_cons]
    omega
  · have hsplit : (id :: (part ++ top :: (Forest.build m).ancestorIds top)).reverse =
        (top :: (Forest.build m).ancestorIds top).reverse ++ (part.reverse ++ [id]) := by simp
    rw [hpath, hpath', h, hsplit, joinPath_append (by simp) (by simp), String.append_assoc]

end Build

/-! ## The forest afterwards -/

section Move

variable {m : Module} {field : String} {parent : Option String}
  (hbreaks : (Forest.build m).diagnostics.cycleBreaks = []) (hfield : field ∈ m.ids)
  (hparent : ∀ p, parent = some p → m.wouldCycle field p = false)

include hbreaks hfield hparent

/-- **In the forest only the field gets another parent.** -/
theorem parentId?_build_reparent (id : String) :
    (Forest.build (m.reparent field parent)).parentId? id =
      if id = field then parent.filter m.contains else (Forest.build m).parentId? id := by
  have hm := Module.cycleBreaks_eq_nil_iff.1 hbreaks
  have hbreaks' := Module.cycleBreaks_eq_nil_iff.2 (Module.acyclic_reparent hm hfield hparent)
  rw [parentId?_of_cycleBreaks_eq_nil hbreaks, parentId?_of_cycleBreaks_eq_nil hbreaks',
    Module.parentOf?_reparent hfield]

theorem parentId?_build_reparent_of_ne {id : String} (hid : id ≠ field) :
    (Forest.build m).parentId? id = (Forest.build (m.reparent field parent)).parentId? id := by
  rw [parentId?_build_reparent hbreaks hfield hparent, if_neg hid]

/-- **Ids that are not below the field keep their ancestors**, and with them depths and paths. -/
theorem ancestorIds_build_reparent {id : String} (hid : id ≠ field)
    (hnot : field ∉ (Forest.build m).ancestorIds id) :
    (Forest.build (m.reparent field parent)).ancestorIds id =
      (Forest.build m).ancestorIds id := by
  refine (ascends_ancestorIds _ id).unique ((ascends_ancestorIds m id).congr fun b hb => ?_)
  refine parentId?_build_reparent_of_ne hbreaks hfield hparent ?_
  rintro rfl
  exact (List.mem_cons.1 hb).elim (fun heq => hid heq.symm) hnot

theorem mem_ancestorIds_build_reparent (id : String) :
    field ∈ (Forest.build (m.reparent field parent)).ancestorIds id ↔
      field ∈ (Forest.build m).ancestorIds id := by
  have hoff : ∀ id, id ≠ field → (Forest.build m).parentId? id =
      (Forest.build (m.reparent field parent)).parentId? id := fun _ hid =>
    parentId?_build_reparent_of_ne hbreaks hfield hparent hid
  rw [mem_ancestorIds, mem_ancestorIds]
  exact ⟨fun h => h.of_eq_off (acyclic_parentId? _) fun b hb => (hoff b hb).symm,
    fun h => h.of_eq_off (acyclic_parentId? m) hoff⟩

/-- **What is below the field stands below it as before.** -/
theorem standsBelow_build_reparent {id : String}
    (hbelow : field ∈ (Forest.build m).ancestorIds id) : ∃ depth rest,
    (Forest.build m).StandsBelow field id depth rest ∧
      (Forest.build (m.reparent field parent)).StandsBelow field id depth rest := by
  have hid : id ≠ field := by
    rintro rfl
    exact acyclic_parentId? m id (mem_ancestorIds.1 hbelow)
  obtain ⟨part, hbefore, hafter⟩ := (ascends_ancestorIds m id).exists_part
    (fun _ hb => parentId?_build_reparent_of_ne hbreaks hfield hparent hb) hid hbelow
  exact ⟨_, _,
    standsBelow_of_ancestorIds
      ((ascends_ancestorIds m id).unique (hbefore _ (ascends_ancestorIds m field))),
    standsBelow_of_ancestorIds
      ((ascends_ancestorIds _ id).unique (hafter _ (ascends_ancestorIds _ field)))⟩

/-- **Siblings other than the field keep their order.** -/
theorem childIds_build_reparent (id : String) :
    ((Forest.build (m.reparent field parent)).childIds id).filter (· ≠ field) =
      ((Forest.build m).childIds id).filter (· ≠ field) := by
  have hafter := inOrder_childIds_build (m.reparent field parent) id
  rw [Forest.BeforeId, rankOf?_reparent] at hafter
  refine hafter.filter_eq RanksBefore.asymm (inOrder_childIds_build m id) fun child hchild => ?_
  rw [parentId?_build_reparent_of_ne hbreaks hfield hparent (of_decide_eq_true hchild)]

theorem rootIds_build_reparent :
    (Forest.build (m.reparent field parent)).rootIds.filter (· ≠ field) =
      (Forest.build m).rootIds.filter (· ≠ field) := by
  have hafter := inOrder_rootIds_build (m.reparent field parent)
  rw [Forest.BeforeId, rankOf?_reparent] at hafter
  refine hafter.filter_eq RanksBefore.asymm (inOrder_rootIds_build m) fun id hid => ?_
  rw [parentId?_build_reparent_of_ne hbreaks hfield hparent (of_decide_eq_true hid),
    Module.ids_reparent]

end Move

/-! ## Main theorem -/

/-- What a move leaves of a forest: the field gets the parent if that is declared, and all that is
below the field goes with it. -/
structure MovesRigidly (m : Module) (field : String) (parent : Option String)
    (forest forest' : Forest) : Prop where
  idAt?_eq : forest'.idAt? = forest.idAt?
  parentId?_field : forest'.parentId? field = parent.filter m.contains
  parentId?_eq : ∀ id, id ≠ field → forest'.parentId? id = forest.parentId? id
  /-- What is not at or below the field stays as deep as it was, and under the same path. -/
  depth_eq : ∀ id, id ≠ field → field ∉ forest.ancestorIds id →
    (forest'.find? id).map Node.depth = (forest.find? id).map Node.depth
  path_eq : ∀ id, id ≠ field → field ∉ forest.ancestorIds id →
    (forest'.find? id).map Node.path = (forest.find? id).map Node.path
  /-- The same ids are below the field. -/
  below_iff : ∀ id, field ∈ forest'.ancestorIds id ↔ field ∈ forest.ancestorIds id
  /-- They are deeper than the field by as much, and their paths go on from its path alike. -/
  standsBelow : ∀ id, field ∈ forest.ancestorIds id → ∃ depth rest,
    forest.StandsBelow field id depth rest ∧ forest'.StandsBelow field id depth rest
  /-- Siblings other than the field keep their order. -/
  childIds_eq : ∀ id, (forest'.childIds id).filter (· ≠ field) =
    (forest.childIds id).filter (· ≠ field)
  rootIds_eq : forest'.rootIds.filter (· ≠ field) = forest.rootIds.filter (· ≠ field)

/-- **A checked move is rigid.**  In a module without cycles a field gets another parent, which was
checked and need not be declared, or none: the field goes with its subtree, and nothing else of the
forest changes. -/
theorem build_reparent_movesRigidly (m : Module) (field : String) (parent : Option String)
    (hbreaks : (Forest.build m).diagnostics.cycleBreaks = []) (hfield : field ∈ m.ids)
    (hparent : ∀ p, parent = some p → m.wouldCycle field p = false) :
    MovesRigidly m field parent (Forest.build m)
      (Forest.build (m.reparent field parent)) where
  idAt?_eq := idAt?_reparent m field parent
  parentId?_field := by rw [parentId?_build_reparent hbreaks hfield hparent, if_pos rfl]
  parentId?_eq := fun _ hid =>
    (parentId?_build_reparent_of_ne hbreaks hfield hparent hid).symm
  depth_eq := fun _ hid hnot => map_find?_congr (by rw [Module.ids_reparent]) fun hnode hnode' => by
    rw [(find?_build_ancestors hnode).1, (find?_build_ancestors hnode').1,
      ancestorIds_build_reparent hbreaks hfield hparent hid hnot]
  path_eq := fun _ hid hnot => map_find?_congr (by rw [Module.ids_reparent]) fun hnode hnode' => by
    rw [(find?_build_ancestors hnode).2, (find?_build_ancestors hnode').2,
      ancestorIds_build_reparent hbreaks hfield hparent hid hnot]
  below_iff := mem_ancestorIds_build_reparent hbreaks hfield hparent
  standsBelow := fun _ => standsBelow_build_reparent hbreaks hfield hparent
  childIds_eq := childIds_build_reparent hbreaks hfield hparent
  rootIds_eq := rootIds_build_reparent hbreaks hfield hparent

/-- The inner group goes below the text at the end, and its own text with it. -/
theorem build_reparent_movesRigidly_branching :
    (Forest.build .branching).diagnostics.cycleBreaks = [] ∧ "b" ∈ Module.branching.ids ∧
    Module.branching.wouldCycle "b" "e" = false ∧
    MovesRigidly .branching "b" (some "e") (Forest.build .branching)
      (Forest.build (Module.branching.reparent "b" (some "e"))) ∧
    ((Forest.build .branching).find? "c").map Node.path = some "a.b.c" ∧
    ((Forest.build (Module.branching.reparent "b" (some "e"))).find? "c").map Node.path =
      some "e.b.c" := by
  have hbreaks : (Forest.build .branching).diagnostics.cycleBreaks = [] := by cbv
  have hfield : "b" ∈ Module.branching.ids := by decide
  have hcheck : Module.branching.wouldCycle "b" "e" = false := by decide
  refine ⟨hbreaks, hfield, hcheck, build_reparent_movesRigidly _ _ _ hbreaks hfield ?_,
    by cbv, by cbv⟩
  rintro p ⟨⟩
  exact hcheck

end DynamicForms
