import DynamicForms.Proofs.Agreement
import DynamicForms.Proofs.DisplayOrder
import Mathlib

/-!
# The order of declaration

Where a field is declared decides which of several declarations counts, where cycles are broken
and how siblings of the same order stand.  Without any of these it does not matter.

* `field?_of_perm`, `parentOf?_of_perm` — in modules that declare every id once, ids mean the same
  whatever the order of the declarations is.
* `inOrder_childIds`, `inOrder_rootIds` — siblings stand in the order of their fields' `order`.
* `Forest.OrdersDiffer`, `idsInOrder_eq` — siblings with different orders are displayed in one
  order only.
* `SameByIds`, `build_permuted` — the forests of a module and of one that declares the same fields
  in another order, without cycles, are the same up to the order of siblings, and entirely so if
  siblings have different orders.
-/

set_option autoImplicit false

namespace DynamicForms

/-! ## Modules with the same fields -/

namespace Module

section Permuted

variable {m m' : Module} (hids : m.ids.Nodup) (h : m'.fields.Perm m.fields)

include h in
theorem ids_of_perm : m'.ids.Perm m.ids := h.map _

include h in
theorem contains_of_perm : m'.contains = m.contains := by
  funext id
  rw [Bool.eq_iff_iff, contains_iff, contains_iff, (ids_of_perm h).mem_iff]

include hids in
theorem field?_eq_some_iff_of_nodup {id : String} {f : Field} :
    m.field? id = some f ↔ f ∈ m.fields ∧ f.id = id := by
  constructor
  · exact fun hf => ⟨mem_of_field? hf, id_of_field? hf⟩
  · rintro ⟨hf, rfl⟩
    obtain ⟨g, hg⟩ := Option.isSome_iff_exists.1 (isSome_field?_iff.2 (List.mem_map_of_mem hf))
    rw [hg, List.inj_on_of_nodup_map hids (mem_of_field? hg) hf (id_of_field? hg)]

include hids h

theorem field?_of_perm : m'.field? = m.field? := by
  have hids' : m'.ids.Nodup := (ids_of_perm h).nodup_iff.2 hids
  funext id
  refine Option.ext fun f => ?_
  rw [field?_eq_some_iff_of_nodup hids, field?_eq_some_iff_of_nodup hids', h.mem_iff]

theorem parentOf?_of_perm : m'.parentOf? = m.parentOf? := by
  funext id
  unfold parentOf? namedParent?
  rw [field?_of_perm hids h, contains_of_perm h]

end Permuted

end Module

section Build

variable {m m' : Module} (hids : m.ids.Nodup) (h : m'.fields.Perm m.fields)

include hids h

/-- **The tree is the same** if there was no cycle to break. -/
theorem sameTree_of_perm (hbreaks : (Forest.build m).diagnostics.cycleBreaks = []) :
    SameTree m m' := by
  have hparents := Module.parentOf?_of_perm hids h
  refine .of_parentOf? (fun _ => (Module.ids_of_perm h).mem_iff) hparents ?_
  have hacyclic := Module.cycleBreaks_eq_nil_iff.1 hbreaks
  rw [hbreaks, Module.cycleBreaks_eq_nil_iff, hparents]
  exact hacyclic

theorem orphans_of_perm :
    (Forest.build m').diagnostics.orphans.Perm (Forest.build m).diagnostics.orphans := by
  have hids' : m'.ids.Nodup := (Module.ids_of_perm h).nodup_iff.2 hids
  rw [orphans_of_nodup hids, orphans_of_nodup hids', Module.contains_of_perm h]
  exact (h.filter _).map _

theorem conditionalFields_of_perm : (Forest.build m').metrics.conditionalFields =
    (Forest.build m).metrics.conditionalFields := by
  have hids' : m'.ids.Nodup := (Module.ids_of_perm h).nodup_iff.2 hids
  rw [conditionalFields_build, conditionalFields_build, fields_kept_of_nodup hids,
    fields_kept_of_nodup hids']
  exact (h.filter _).length_eq

end Build

/-! ## The order of siblings -/

/-- The order of an id's field. -/
def Module.orderOf (m : Module) (id : String) : Int :=
  ((m.field? id).map fun f => f.order.toInt).getD 0

/-- Some ids stand in the order of their fields. -/
def Module.InOrder (m : Module) (ids : List String) : Prop :=
  ids.Pairwise fun id other => m.orderOf id ≤ m.orderOf other

theorem Module.InOrder.congr {m m' : Module} (horder : m'.orderOf = m.orderOf) {ids : List String}
    (h : m'.InOrder ids) : m.InOrder ids := by
  unfold InOrder at *
  rwa [horder] at h

section Siblings

variable {m : Module} {id other : String}

theorem orderOf_eq {f : Field} (h : m.field? id = some f) : m.orderOf id = f.order.toInt := by
  unfold Module.orderOf
  rw [h, Option.map_some, Option.getD_some]

theorem inOrder_of_pairwise {ids : List String}
    (h : ids.Pairwise (Forest.build m).BeforeId) : m.InOrder ids := by
  refine h.imp fun {id other} hbefore => ?_
  obtain ⟨r, s, hr, hs, hlt⟩ := hbefore
  obtain ⟨node, hnode, rfl⟩ := Option.map_eq_some_iff.1 hr
  obtain ⟨node', hnode', rfl⟩ := Option.map_eq_some_iff.1 hs
  rw [orderOf_eq (field?_of_find? hnode), orderOf_eq (field?_of_find? hnode')]
  rcases Node.rank_lt_iff.1 hlt with hlt | ⟨heq, _⟩
  · exact hlt.le
  · exact heq.le

theorem inOrder_childIds (m : Module) (id : String) :
    m.InOrder ((Forest.build m).childIds id) :=
  inOrder_of_pairwise (inOrder_childIds_build m id).increasing

theorem inOrder_rootIds (m : Module) : m.InOrder (Forest.build m).rootIds :=
  inOrder_of_pairwise (inOrder_rootIds_build m).increasing

/-- No two siblings have the same order, and no two roots. -/
def Forest.OrdersDiffer (forest : Forest) : Prop :=
  (forest.nodes.toList.map fun node => (node.parent, node.field.order)).Nodup

/-- If siblings differ in their orders, ids with the same parent and order are the same. -/
theorem eq_of_orderOf_eq (hdiffer : (Forest.build m).OrdersDiffer) (hid : id ∈ m.ids)
    (hother : other ∈ m.ids)
    (hparent : (Forest.build m).parentId? id = (Forest.build m).parentId? other)
    (horder : m.orderOf id = m.orderOf other) : id = other := by
  obtain ⟨node, hnode⟩ := exists_find?_build hid
  obtain ⟨node', hnode'⟩ := exists_find?_build hother
  rw [orderOf_eq (field?_of_find? hnode), orderOf_eq (field?_of_find? hnode'),
    Int64.toInt_inj] at horder
  obtain ⟨i, hi, rfl⟩ := find?_build_iff.1 hnode
  obtain ⟨j, hj, rfl⟩ := find?_build_iff.1 hnode'
  have hiid := Forest.idAt?_of_node hi
  have hjid := Forest.idAt?_of_node hj
  have hplace : node.parent = node'.parent := by
    rw [← Forest.parent?_of_node hi, ← Forest.parent?_of_node hj]
    cases hp : (Forest.build m).parentId? node.field.id with
    | none =>
      rw [(parentId?_eq_none_iff hiid).1 hp, (parentId?_eq_none_iff hjid).1 (hparent ▸ hp)]
    | some parent =>
      obtain ⟨p, hpi, hpid⟩ := (sameWays_parentId? m).forth hiid hp
      obtain ⟨q, hqj, hqid⟩ := (sameWays_parentId? m).forth hjid (hparent ▸ hp)
      rw [hpi, hqj, idAt?_build_inj hpid hqid]
  have hsame : node = node' := List.inj_on_of_nodup_map hdiffer
    (List.mem_of_getElem? (Array.getElem?_toList ▸ hi))
    (List.mem_of_getElem? (Array.getElem?_toList ▸ hj)) (Prod.ext hplace horder)
  rw [hsame]

/-- **Siblings with different orders stand in one order only.** -/
theorem eq_of_perm_of_inOrder (hdiffer : (Forest.build m).OrdersDiffer) {ids ids' : List String}
    (hperm : ids'.Perm ids) (horder : m.InOrder ids) (horder' : m.InOrder ids')
    (hids : ∀ id ∈ ids, id ∈ m.ids)
    (hsiblings : ∀ id ∈ ids, ∀ other ∈ ids,
      (Forest.build m).parentId? id = (Forest.build m).parentId? other) : ids' = ids := by
  refine hperm.eq_of_pairwise ?_ horder' horder
  intro id other hid hother hle hge
  have hid := hperm.mem_iff.1 hid
  exact eq_of_orderOf_eq hdiffer (hids id hid) (hids other hother) (hsiblings id hid other hother)
    (Int.le_antisymm hle hge)

end Siblings

section Display

variable {m m' : Module} (h : SameTree m m') (horder : m'.orderOf = m.orderOf)
  (hdiffer : (Forest.build m).OrdersDiffer)

include h horder hdiffer

theorem childIds_eq : (Forest.build m').childIds = (Forest.build m).childIds := by
  funext id
  refine eq_of_perm_of_inOrder hdiffer (h.childIds_perm id) (inOrder_childIds m id)
    ((inOrder_childIds m' id).congr horder) ?_ ?_
  · exact fun child hchild => mem_ids_of_parentId? (mem_childIds.1 hchild)
  · intro child hchild other hother
    rw [mem_childIds.1 hchild, mem_childIds.1 hother]

theorem rootIds_eq : (Forest.build m').rootIds = (Forest.build m).rootIds := by
  refine eq_of_perm_of_inOrder hdiffer h.rootIds_perm (inOrder_rootIds m)
    ((inOrder_rootIds m').congr horder) ?_ ?_
  · exact fun root hroot => (mem_rootIds.1 hroot).1
  · intro root hroot other hother
    rw [(mem_rootIds.1 hroot).2, (mem_rootIds.1 hother).2]

theorem idsInOrder_eq : (Forest.build m').idsInOrder = (Forest.build m).idsInOrder := by
  have hsize : (Forest.build m').size = (Forest.build m).size := by
    simpa [size_build] using h.ids_kept_perm.length_eq
  rw [idsInOrder_build, idsInOrder_build, childIds_eq h horder hdiffer,
    rootIds_eq h horder hdiffer, hsize]

end Display

/-! ## Main theorem -/

/-- Two forests that are the same but for the places of their nodes and the order of siblings. -/
structure SameByIds (forest forest' : Forest) : Prop where
  parentId?_eq : ∀ id, forest'.parentId? id = forest.parentId? id
  depth_eq : ∀ id, (forest'.find? id).map Node.depth = (forest.find? id).map Node.depth
  path_eq : ∀ id, (forest'.find? id).map Node.path = (forest.find? id).map Node.path
  childIds_perm : ∀ id, (forest'.childIds id).Perm (forest.childIds id)
  rootIds_perm : forest'.rootIds.Perm forest.rootIds
  orphans_perm : forest'.diagnostics.orphans.Perm forest.diagnostics.orphans
  metrics_eq : forest'.metrics = forest.metrics
  /-- Unless siblings have the same order, they are displayed in the same order as well. -/
  idsInOrder_eq : forest.OrdersDiffer → forest'.idsInOrder = forest.idsInOrder

/-- **The order of declaration decides between siblings of the same order only**, as long as every
id is declared once and there is no cycle of parents to break. -/
theorem build_permuted (m m' : Module) (hids : m.ids.Nodup)
    (hbreaks : (Forest.build m).diagnostics.cycleBreaks = []) (h : m'.fields.Perm m.fields) :
    SameByIds (Forest.build m) (Forest.build m') := by
  have htree := sameTree_of_perm hids h hbreaks
  have horder : m'.orderOf = m.orderOf := by
    unfold Module.orderOf
    rw [Module.field?_of_perm hids h]
  exact
    { parentId?_eq := fun id => by rw [htree.parentId?_eq]
      depth_eq := fun id => htree.map_find?_eq htree.depth_eq
      path_eq := fun id => htree.map_find?_eq htree.path_eq
      childIds_perm := htree.childIds_perm
      rootIds_perm := htree.rootIds_perm
      orphans_perm := orphans_of_perm hids h
      metrics_eq := Forest.metrics_eq htree.sameShape (conditionalFields_of_perm hids h)
      idsInOrder_eq := idsInOrder_eq htree horder }

/-- A group with two texts, one of them declared before it, and two more roots; the parent of the
last one is missing. -/
def Module.scattered : Module :=
  { Module.ofId "scattered" with
    fields := [{ Field.ofId "c" .text with parent := some "a", order := 5 },
      { Field.ofId "b" .date with order := 2 }, { Field.ofId "a" .group with order := 1 },
      { Field.ofId "d" .text with
        parent := some "a", conditions := [⟨"b", .isEmpty, none, .hide⟩] },
      { Field.ofId "e" .text with parent := some "gone" }] }

/-- The same fields from the last to the first one. -/
def Module.scatteredBack : Module :=
  { Module.scattered with fields := Module.scattered.fields.reverse }

/-- Read backwards the module is displayed in the same order. -/
theorem build_permuted_scattered :
    Module.scattered.ids.Nodup ∧ (Forest.build .scattered).diagnostics.cycleBreaks = [] ∧
    Module.scatteredBack.fields.Perm Module.scattered.fields ∧
    (Forest.build .scattered).OrdersDiffer ∧
    SameByIds (Forest.build .scattered) (Forest.build .scatteredBack) ∧
    (Forest.build .scatteredBack).idsInOrder = ["e", "a", "d", "c", "b"] := by
  have hids : Module.scattered.ids.Nodup := by decide
  have hbreaks : (Forest.build .scattered).diagnostics.cycleBreaks = [] := by cbv
  have hperm : Module.scatteredBack.fields.Perm Module.scattered.fields := List.reverse_perm _
  have hdiffer : (Forest.build .scattered).OrdersDiffer := by
    have horders : (Forest.build .scattered).nodes.toList.map (fun node =>
        (node.parent, node.field.order)) =
        [(some 2, 5), (none, 2), (none, 1), (some 2, 0), (none, 0)] := by cbv
    unfold Forest.OrdersDiffer
    rw [horders]
    decide
  have hsame := build_permuted _ _ hids hbreaks hperm
  refine ⟨hids, hbreaks, hperm, hdiffer, hsame, ?_⟩
  rw [hsame.idsInOrder_eq hdiffer]
  cbv

end DynamicForms
