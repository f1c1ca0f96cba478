import DynamicForms.Forest.Metrics
import DynamicForms.Proofs.Dependents

/-!
# Forests seen by ids

Nodes stand at places, but what a forest is about are ids: which one stands below which, how deep,
under which path and in which order.

* `Forest.parentId?`, `childIds`, `rootIds`, `idsInOrder` — a forest with ids instead of places.
* `parentId?_build` — the parent of an id is the one its last declaration names, unless that is not
  declared or a cycle is broken there.
* `mem_childIds`, `mem_rootIds`, `find?_build_spec` — children, roots, depths and paths follow from
  the parents of the ids.
* `idsInOrder_build` — the order of display follows from the lists of roots and children.
* `SameTree` — two modules whose ids are the same and have the same parents; `depth_eq`, `path_eq`,
  `childIds_perm`, `rootIds_perm` and `sameShape` say what their forests then have in common.
-/

set_option autoImplicit false

namespace DynamicForms

namespace Forest

variable (forest : Forest)

/-- The parent of an id. -/
def parentId? (id : String) : Option String :=
  ((forest.indexOf? id).bind forest.parent?).bind forest.idAt?

/-- The children of an id in the order of display. -/
def childIds (id : String) : List String :=
  match forest.indexOf? id with
  | none => []
  | some i => forest.idsAt (forest.children i)

/-- The roots in the order of display. -/
def rootIds : List String := forest.idsAt forest.roots

/-- All ids in the order of display. -/
def idsInOrder : List String := forest.nodesInOrder.map (·.field.id)

theorem idsInOrder_eq_idsAt : forest.idsInOrder = forest.idsAt forest.depthFirst := by
  unfold idsInOrder nodesInOrder idsAt
  rw [List.map_filterMap]
  rfl

/-- Walks from the ids on a stack, each before its children; `fuel` bounds the number of ids that
are met. -/
def walkIds (children : String → List String) : (fuel : Nat) → (stack : List String) → List String
  | 0, _ => []
  | _ + 1, [] => []
  | fuel + 1, id :: stack => id :: walkIds children fuel (children id ++ stack)

end Forest

/-! ## The forest of a module -/

section Build

variable {m : Module} {i j : Nat} {id parent : String}

theorem lt_size_of_idAt?_build (hi : (Forest.build m).idAt? i = some id) :
    i < (Forest.build m).size := by
  obtain ⟨node, hnode, _⟩ := Option.map_eq_some_iff.1 hi
  exact (Array.getElem?_eq_some_iff.1 hnode).1

theorem idAt?_build_inj (hi : (Forest.build m).idAt? i = some id)
    (hj : (Forest.build m).idAt? j = some id) : i = j := by
  rw [idAt?_build] at hi hj
  exact Module.keptId?_inj hi hj

theorem exists_idAt?_iff : (∃ i, (Forest.build m).idAt? i = some id) ↔ id ∈ m.ids := by
  rw [idAt?_build]
  exact ⟨fun ⟨_, hi⟩ => Module.mem_ids_of_keptId? hi, Module.exists_keptId?⟩

theorem exists_find?_build (hid : id ∈ m.ids) :
    ∃ node, (Forest.build m).find? id = some node := by
  obtain ⟨i, hi⟩ := exists_idAt?_iff.2 hid
  obtain ⟨node, hnode, rfl⟩ := Option.map_eq_some_iff.1 hi
  exact ⟨node, find?_build_iff.2 ⟨i, hnode, rfl⟩⟩

theorem mem_ids_of_find?_build {node : Node} (h : (Forest.build m).find? id = some node) :
    id ∈ m.ids := by
  obtain ⟨i, hnode, rfl⟩ := find?_build_iff.1 h
  exact exists_idAt?_iff.1 ⟨i, Forest.idAt?_of_node hnode⟩

theorem map_nodes_build {α : Type} (m : Module) (g : Node → α) :
    (Forest.build m).nodes.toList.map g =
      (m.kept.map (·.1.id)).filterMap fun id => ((Forest.build m).find? id).map g := by
  have hids : m.kept.map (·.1.id) = (Forest.build m).nodes.toList.map (·.field.id) := by
    have h := congrArg (List.map Field.id) (fields_build m)
    rw [List.map_map, List.map_map] at h
    exact h.symm
  rw [hids, List.filterMap_map, ← List.filterMap_eq_map]
  refine List.filterMap_congr fun node hnode => ?_
  obtain ⟨i, hi⟩ := List.getElem?_of_mem hnode
  rw [Array.getElem?_toList] at hi
  rw [Function.comp_apply, Function.comp_apply, find?_build_iff.2 ⟨i, hi, rfl⟩, Option.map_some]

/-! ## Parents -/

theorem parentId?_of_idAt? (hi : (Forest.build m).idAt? i = some id) :
    (Forest.build m).parentId? id =
      ((Forest.build m).parent? i).bind (Forest.build m).idAt? := by
  unfold Forest.parentId?
  rw [indexOf?_build_iff.2 hi, Option.bind_some]

/-- **Following parents from id to id** is following them from place to place. -/
theorem sameWays_parentId? (m : Module) :
    SameWays (Forest.build m).parentId? (Forest.build m).parent?
      fun id i => (Forest.build m).idAt? i = some id where
  right_unique := idAt?_build_inj
  left_unique := by
    intro id other i hi hi'
    rw [hi, Option.some.injEq] at hi'
    exact hi'
  forth := by
    intro id i parent hi hparent
    rw [parentId?_of_idAt? hi] at hparent
    exact Option.bind_eq_some_iff.1 hparent
  back := by
    intro id i p hi hp
    obtain ⟨parent, hparent⟩ := exists_idAt?_parent hp
    refine ⟨parent, ?_, hparent⟩
    rw [parentId?_of_idAt? hi, hp, Option.bind_some, hparent]

theorem mem_ids_of_parentId? (h : (Forest.build m).parentId? id = some parent) : id ∈ m.ids := by
  obtain ⟨p, hp, _⟩ := Option.bind_eq_some_iff.1 h
  obtain ⟨i, hi, _⟩ := Option.bind_eq_some_iff.1 hp
  exact exists_idAt?_iff.1 ⟨i, indexOf?_build_iff.1 hi⟩

theorem parentId?_eq_none_iff (hi : (Forest.build m).idAt? i = some id) :
    (Forest.build m).parentId? id = none ↔ (Forest.build m).parent? i = none := by
  rw [Option.eq_none_iff_forall_ne_some, Option.eq_none_iff_forall_ne_some]
  constructor
  · intro hnone p hp
    obtain ⟨parent, hparent, _⟩ := (sameWays_parentId? m).back hi hp
    exact hnone parent hparent
  · intro hnone parent hparent
    obtain ⟨p, hp, _⟩ := (sameWays_parentId? m).forth hi hparent
    exact hnone p hp

/-- **The parent of an id** is the one that its last declaration names, unless a cycle is broken
there. -/
theorem parentId?_build (m : Module) (id : String) : (Forest.build m).parentId? id =
    if id ∈ (Forest.build m).diagnostics.cycleBreaks then none else m.parentOf? id := by
  refine Option.ext fun parent => ?_
  by_cases hid : id ∈ m.ids
  · obtain ⟨i, hi⟩ := exists_idAt?_iff.2 hid
    have hkept := hi
    rw [idAt?_build] at hkept
    rw [parentId?_of_idAt? hi, Option.bind_eq_some_iff, idAt?_build]
    constructor
    · rintro ⟨p, hp, hparent⟩
      obtain ⟨hbreak, q, hq, hpq⟩ := (parent?_build_eq_some_iff hkept).1 hp
      rw [hparent, Option.some.injEq] at hpq
      rw [if_neg hbreak, hq, hpq]
    · intro h
      split at h
      · cases h
      · rename_i hbreak
        obtain ⟨p, hp⟩ := Module.exists_keptId? (Module.parentOf?_eq_some_iff.1 h).2
        exact ⟨p, (parent?_build_eq_some_iff hkept).2 ⟨hbreak, parent, h, hp⟩, hp⟩
  · constructor
    · intro h
      exact absurd (mem_ids_of_parentId? h) hid
    · intro h
      split at h
      · cases h
      · exact absurd (Module.mem_ids_of_parentOf? h) hid

/-! ## Children and roots -/

theorem mem_idsAt {forest : Forest} {is : List Nat} :
    id ∈ forest.idsAt is ↔ ∃ i ∈ is, forest.idAt? i = some id := by
  unfold Forest.idsAt
  rw [List.mem_filterMap]

theorem nodup_idsAt_build {is : List Nat} (h : is.Nodup) : ((Forest.build m).idsAt is).Nodup :=
  h.filterMap fun _ _ _ hi hj => idAt?_build_inj hi hj

theorem childIds_of_idAt? (hi : (Forest.build m).idAt? i = some id) :
    (Forest.build m).childIds id = (Forest.build m).idsAt ((Forest.build m).children i) := by
  unfold Forest.childIds
  rw [indexOf?_build_iff.2 hi]

theorem mem_childIds :
    id ∈ (Forest.build m).childIds parent ↔ (Forest.build m).parentId? id = some parent := by
  unfold Forest.childIds
  constructor
  · intro h
    split at h
    · cases h
    · rename_i p hp
      obtain ⟨i, hi, hid⟩ := mem_idsAt.1 h
      rw [parentId?_of_idAt? hid, (linked_build m).mem_down.1 hi, Option.bind_some]
      exact indexOf?_build_iff.1 hp
  · intro h
    obtain ⟨i, hi⟩ := exists_idAt?_iff.2 (mem_ids_of_parentId? h)
    obtain ⟨p, hp, hparent⟩ := (sameWays_parentId? m).forth hi h
    simp only [indexOf?_build_iff.2 hparent]
    exact mem_idsAt.2 ⟨i, (linked_build m).mem_down.2 hp, hi⟩

theorem nodup_childIds (m : Module) (parent : String) :
    ((Forest.build m).childIds parent).Nodup := by
  unfold Forest.childIds
  split
  · exact List.nodup_nil
  · exact nodup_idsAt_build ((linked_build m).nodup_down _)

theorem mem_rootIds : id ∈ (Forest.build m).rootIds ↔
    id ∈ m.ids ∧ (Forest.build m).parentId? id = none := by
  unfold Forest.rootIds
  rw [mem_idsAt]
  constructor
  · rintro ⟨i, hi, hid⟩
    exact ⟨exists_idAt?_iff.1 ⟨i, hid⟩,
      (parentId?_eq_none_iff hid).2 ((linked_build m).mem_roots.1 hi).2⟩
  · rintro ⟨hid, hnone⟩
    obtain ⟨i, hi⟩ := exists_idAt?_iff.2 hid
    exact ⟨i, (linked_build m).mem_roots.2
      ⟨lt_size_of_idAt?_build hi, (parentId?_eq_none_iff hi).1 hnone⟩, hi⟩

theorem nodup_rootIds (m : Module) : (Forest.build m).rootIds.Nodup :=
  nodup_idsAt_build (linked_build m).nodup_roots

/-! ## Depths and paths -/

theorem ascends_parentId? {above : List Nat} (h : Ascends (Forest.build m).parent? i above) :
    ∀ id, (Forest.build m).idAt? i = some id →
      Ascends (Forest.build m).parentId? id ((Forest.build m).idsAt above) ∧
        ((Forest.build m).idsAt above).length = above.length := by
  induction h with
  | top htop => exact fun id hi => ⟨.top ((parentId?_eq_none_iff hi).2 htop), rfl⟩
  | @step i p above hp _ ih =>
    intro id hi
    obtain ⟨parent, hparent, hpid⟩ := (sameWays_parentId? m).back hi hp
    obtain ⟨hrest, hlen⟩ := ih parent hpid
    have hids : (Forest.build m).idsAt (p :: above) =
        parent :: (Forest.build m).idsAt above := by
      unfold Forest.idsAt
      rw [List.filterMap_cons_some hpid]
    rw [hids, List.length_cons, List.length_cons, hlen]
    exact ⟨.step hparent hrest, rfl⟩

/-- **The depth and the path of an id** are those that the ids above it give. -/
theorem find?_build_spec {node : Node} (h : (Forest.build m).find? id = some node) :
    ∃ above, Ascends (Forest.build m).parentId? id above ∧ node.depth = above.length ∧
      node.path = joinPath (id :: above).reverse := by
  obtain ⟨i, hnode, rfl⟩ := find?_build_iff.1 h
  have hascends := Forest.ancestors_spec (linked_build m) i
  have hi := Forest.idAt?_of_node hnode
  obtain ⟨hids, hlen⟩ := ascends_parentId? hascends _ hi
  obtain ⟨hdepth, hpath⟩ := isPlaced_build m i _ node hascends hnode
  have hdown : idsDown (Forest.build m).nodes ((Forest.build m).ancestors i) =
      ((Forest.build m).idsAt ((Forest.build m).ancestors i)).reverse := List.filterMap_reverse
  exact ⟨_, hids, by rw [hdepth, hlen], by rw [hpath, idsDown_cons hnode, hdown, List.reverse_cons]⟩

theorem isNone_parent_of_find? {node : Node} (h : (Forest.build m).find? id = some node) :
    node.parent.isNone = ((Forest.build m).parentId? id).isNone := by
  obtain ⟨i, hnode, rfl⟩ := find?_build_iff.1 h
  rw [Bool.eq_iff_iff, Option.isNone_iff_eq_none, Option.isNone_iff_eq_none,
    parentId?_eq_none_iff (Forest.idAt?_of_node hnode), Forest.parent?_of_node hnode]

/-! ## The order of display -/

theorem idsAt_walk (fuel : Nat) : ∀ stack : List Nat, (∀ i ∈ stack, i < (Forest.build m).size) →
    (Forest.build m).idsAt ((Forest.build m).walk fuel stack) =
      Forest.walkIds (Forest.build m).childIds fuel ((Forest.build m).idsAt stack) := by
  induction fuel with
  | zero => exact fun _ _ => rfl
  | succ fuel ih =>
    intro stack hstack
    cases stack with
    | nil => rfl
    | cons i stack =>
      obtain ⟨hi, hrest⟩ := List.forall_mem_cons.1 hstack
      obtain ⟨id, hid⟩ := exists_idAt?_build hi
      have hnext : ∀ j ∈ (Forest.build m).children i ++ stack, j < (Forest.build m).size := by
        intro j hj
        rcases List.mem_append.1 hj with hj | hj
        · exact ((linked_build m).up_lt ((linked_build m).mem_down.1 hj)).1
        · exact hrest j hj
      have hcons : ∀ is, (Forest.build m).idsAt (i :: is) = id :: (Forest.build m).idsAt is := by
        intro is
        unfold Forest.idsAt
        rw [List.filterMap_cons_some hid]
      rw [Forest.walk, hcons, ih _ hnext, hcons, Forest.walkIds, childIds_of_idAt? hid]
      unfold Forest.idsAt
      rw [List.filterMap_append]

/-- **The order of display** follows from the lists of roots and children. -/
theorem idsInOrder_build (m : Module) : (Forest.build m).idsInOrder =
    Forest.walkIds (Forest.build m).childIds (Forest.build m).size (Forest.build m).rootIds := by
  rw [Forest.idsInOrder_eq_idsAt]
  exact idsAt_walk _ _ fun i hi => ((linked_build m).mem_roots.1 hi).1

end Build

/-! ## Metrics -/

/-- Two metrics tell the same of the shape of a forest; they may differ in what they tell of
conditions. -/
structure Metrics.SameShape (a b : Metrics) : Prop where
  totalFields_eq : b.totalFields = a.totalFields
  rootFields_eq : b.rootFields = a.rootFields
  maxDepth_eq : b.maxDepth = a.maxDepth
  averageDepth_eq : b.averageDepth = a.averageDepth
  linkedFields_eq : b.linkedFields = a.linkedFields

theorem max?_eq_of_perm {l l' : List Nat} (h : l'.Perm l) : l'.max? = l.max? := by
  refine Option.ext fun n => ?_
  rw [List.max?_eq_some_iff, List.max?_eq_some_iff, h.mem_iff]
  exact and_congr_right fun _ => forall_congr' fun _ => by rw [h.mem_iff]

/-- **The shape of a forest** is told by the depths of its nodes and by which of them are roots. -/
theorem Forest.metrics_sameShape {forest forest' : Forest}
    (h : (forest'.nodes.toList.map fun node => (node.depth, node.parent.isNone)).Perm
      (forest.nodes.toList.map fun node => (node.depth, node.parent.isNone))) :
    forest.metrics.SameShape forest'.metrics := by
  have hdepths : (forest'.nodes.toList.map Node.depth).Perm
      (forest.nodes.toList.map Node.depth) := by
    have := h.map Prod.fst
    rwa [List.map_map, List.map_map] at this
  have hroots : (forest'.nodes.toList.filter fun node => node.parent.isNone).length =
      (forest.nodes.toList.filter fun node => node.parent.isNone).length := by
    have := (h.filter Prod.snd).length_eq
    rwa [List.filter_map, List.filter_map, List.length_map, List.length_map] at this
  have htotal : forest'.nodes.toList.length = forest.nodes.toList.length := by
    simpa using h.length_eq
  have hsum : (forest'.nodes.toList.map Node.depth).foldr (· + ·) 0 =
      (forest.nodes.toList.map Node.depth).foldr (· + ·) 0 := hdepths.sum_nat
  exact
    { totalFields_eq := htotal
      rootFields_eq := hroots
      maxDepth_eq := congrArg (Option.getD · 0) (max?_eq_of_perm hdepths)
      averageDepth_eq := congrArg₂ meanOf hsum htotal
      linkedFields_eq := congrArg₂ (· - ·) htotal hroots }

theorem Forest.complexity_eq (forest : Forest) : forest.metrics.complexity =
    forest.metrics.totalFields + 2 * forest.metrics.linkedFields +
      3 * forest.metrics.conditionalFields := rfl

theorem Forest.metrics_eq {forest forest' : Forest}
    (h : forest.metrics.SameShape forest'.metrics)
    (hconditional : forest'.metrics.conditionalFields = forest.metrics.conditionalFields) :
    forest'.metrics = forest.metrics := by
  obtain ⟨htotal, hroots, hmax, haverage, hlinked⟩ := h
  have hc := forest'.complexity_eq
  rw [htotal, hlinked, hconditional, ← forest.complexity_eq] at hc
  generalize forest'.metrics = a at *
  generalize forest.metrics = b at *
  cases a
  cases b
  simp_all

theorem conditionalFields_build (m : Module) : (Forest.build m).metrics.conditionalFields =
    ((m.kept.map (·.1)).filter Field.hasConditions).length := by
  rw [← fields_build, List.filter_map, List.length_map]
  rfl

/-! ## The same tree -/

theorem map_find?_congr {m m' : Module} {id : String} (hids : id ∈ m'.ids ↔ id ∈ m.ids)
    {α : Type} {g : Node → α}
    (hg : ∀ {node node'}, (Forest.build m).find? id = some node →
      (Forest.build m').find? id = some node' → g node' = g node) :
    ((Forest.build m').find? id).map g = ((Forest.build m).find? id).map g := by
  by_cases hid : id ∈ m.ids
  · obtain ⟨node, hnode⟩ := exists_find?_build hid
    obtain ⟨node', hnode'⟩ := exists_find?_build (hids.2 hid)
    rw [hnode, hnode', Option.map_some, Option.map_some, hg hnode hnode']
  · have hnone : ∀ {m : Module}, id ∉ m.ids → (Forest.build m).find? id = none := fun hid =>
      Option.eq_none_iff_forall_ne_some.2 fun _ hnode => hid (mem_ids_of_find?_build hnode)
    rw [hnone hid, hnone fun hmem => hid (hids.1 hmem)]

/-- Two modules whose ids are the same and have the same parents. -/
structure SameTree (m m' : Module) : Prop where
  mem_ids_iff : ∀ id, id ∈ m'.ids ↔ id ∈ m.ids
  parentId?_eq : (Forest.build m').parentId? = (Forest.build m).parentId?

namespace SameTree

variable {m m' : Module} {id : String}

theorem of_parentOf? (hids : ∀ id, id ∈ m'.ids ↔ id ∈ m.ids)
    (hparents : m'.parentOf? = m.parentOf?)
    (hbreaks : (Forest.build m').diagnostics.cycleBreaks =
      (Forest.build m).diagnostics.cycleBreaks) : SameTree m m' where
  mem_ids_iff := hids
  parentId?_eq := by
    funext id
    rw [parentId?_build, parentId?_build, hparents, hbreaks]

theorem map_find?_eq (h : SameTree m m') {α : Type} {g : Node → α}
    (hg : ∀ {node node'}, (Forest.build m).find? id = some node →
      (Forest.build m').find? id = some node' → g node' = g node) :
    ((Forest.build m').find? id).map g = ((Forest.build m).find? id).map g :=
  map_find?_congr (h.mem_ids_iff id) hg

section Node

variable {node node' : Node} (h : SameTree m m') (hnode : (Forest.build m).find? id = some node)
  (hnode' : (Forest.build m').find? id = some node')

include h hnode hnode'

theorem depth_eq : node'.depth = node.depth := by
  obtain ⟨above, habove, hdepth, _⟩ := find?_build_spec hnode
  obtain ⟨above', habove', hdepth', _⟩ := find?_build_spec hnode'
  rw [h.parentId?_eq] at habove'
  rw [hdepth, hdepth', habove'.unique habove]

theorem path_eq : node'.path = node.path := by
  obtain ⟨above, habove, _, hpath⟩ := find?_build_spec hnode
  obtain ⟨above', habove', _, hpath'⟩ := find?_build_spec hnode'
  rw [h.parentId?_eq] at habove'
  rw [hpath, hpath', habove'.unique habove]

theorem isNone_parent_eq : node'.parent.isNone = node.parent.isNone := by
  rw [isNone_parent_of_find? hnode, isNone_parent_of_find? hnode', h.parentId?_eq]

end Node

variable (h : SameTree m m')

include h

theorem childIds_perm (id : String) :
    ((Forest.build m').childIds id).Perm ((Forest.build m).childIds id) := by
  rw [List.perm_ext_iff_of_nodup (nodup_childIds m' id) (nodup_childIds m id)]
  intro child
  rw [mem_childIds, mem_childIds, h.parentId?_eq]

theorem rootIds_perm : (Forest.build m').rootIds.Perm (Forest.build m).rootIds := by
  rw [List.perm_ext_iff_of_nodup (nodup_rootIds m') (nodup_rootIds m)]
  intro id
  rw [mem_rootIds, mem_rootIds, h.parentId?_eq, h.mem_ids_iff]

theorem ids_kept_perm : (m'.kept.map (·.1.id)).Perm (m.kept.map (·.1.id)) := by
  have hmem : ∀ {m : Module} {id}, id ∈ m.kept.map (·.1.id) ↔ id ∈ m.ids := by
    intro m id
    rw [List.mem_map]
    exact ⟨fun ⟨_, hd, hid⟩ => hid ▸ Module.mem_ids_of_mem_kept hd, Module.exists_mem_kept⟩
  rw [List.perm_ext_iff_of_nodup m'.nodup_ids_kept m.nodup_ids_kept]
  intro id
  rw [hmem, hmem, h.mem_ids_iff]

theorem sameShape : (Forest.build m).metrics.SameShape (Forest.build m').metrics := by
  refine Forest.metrics_sameShape ?_
  rw [map_nodes_build, map_nodes_build]
  have hfind : ∀ id, ((Forest.build m').find? id).map (fun node => (node.depth, node.parent.isNone))
      = ((Forest.build m).find? id).map (fun node => (node.depth, node.parent.isNone)) :=
    fun id => h.map_find?_eq fun hnode hnode' =>
      Prod.ext (h.depth_eq hnode hnode') (h.isNone_parent_eq hnode hnode')
  simp only [hfind]
  exact h.ids_kept_perm.filterMap _

end SameTree

end DynamicForms
