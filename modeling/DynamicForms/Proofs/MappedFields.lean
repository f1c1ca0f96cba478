import DynamicForms.Proofs.Repairs

/-!
# Changing the fields of a module

Every field of a module is changed in the same way and keeps its id.

* `place_map`, `keptOf_map`, `linkedNodes_map` — the steps of building a forest do not look at what
  else fields say, siblings aside, which are ordered.
* `Module.mapFields` — a module with changed fields; `kept_mapFields`, `field?_mapFields` and others
  say that its declarations are the changed ones in the same places.
* `KeepsPlaces`, `build_mapFields` — if the fields keep their parents and orders as well, the forest
  is the same but for the fields of its nodes.
* `nodesInOrder_mapFields` — and so is the order of display.
-/

set_option autoImplicit false

namespace DynamicForms

/-- The node with its field replaced. -/
def Node.mapField (f : Field → Field) (node : Node) : Node := { node with field := f node.field }

/-- The declaration with its field replaced. -/
def mapDeclaration (f : Field → Field) (d : Declaration) : Declaration := (f d.1, d.2)

/-! ## The steps of building -/

section MapField

variable {f : Field → Field} (hid : ∀ field, (f field).id = field.id)

include hid

theorem placeAt_map (depth : Nat) (start : String) (nodes : Array Node) (is : List Nat) :
    placeAt depth start (nodes.map (Node.mapField f)) is =
      (placeAt depth start nodes is).map (Node.mapField f) := by
  refine Array.ext_getElem? fun i => ?_
  rw [getElem?_placeAt, Array.getElem?_map, Array.getElem?_map, getElem?_placeAt]
  split
  · rw [Option.map_map, Option.map_map]
    congr 1
    funext node
    simp only [Function.comp_apply, Node.placed, Node.mapField, hid]
  · rfl

theorem placeBelow_map (fuel : Nat) : ∀ (stack : List Nat) (nodes : Array Node),
    placeBelow fuel stack (nodes.map (Node.mapField f)) =
      (placeBelow fuel stack nodes).map (Node.mapField f) := by
  induction fuel with
  | zero => exact fun _ _ => rfl
  | succ fuel ih =>
    intro stack nodes
    cases stack with
    | nil => rfl
    | cons i stack =>
      unfold placeBelow
      rw [Array.getElem?_map]
      cases nodes[i]? with
      | none => exact ih stack nodes
      | some node =>
        simp only [Option.map_some]
        rw [placeAt_map hid, ih]
        rfl

/-- **Placing does not depend on what fields say** beyond their ids. -/
theorem place_map (nodes : Array Node) (roots : List Nat) :
    place (nodes.map (Node.mapField f)) roots = (place nodes roots).map (Node.mapField f) := by
  unfold place
  rw [placeAt_map hid, placeBelow_map hid, Array.size_map]

theorem keptOf_map (ds : List Declaration) :
    keptOf (ds.map (mapDeclaration f)) = (keptOf ds).map (mapDeclaration f) := by
  induction ds with
  | nil => rfl
  | cons d ds ih =>
    rw [List.map_cons, keptOf, keptOf, ih, List.any_map]
    simp only [Function.comp_def, mapDeclaration, hid]
    split <;> rfl

omit hid in
theorem childrenOf_map (horder : ∀ field, (f field).order = field.order)
    (kept : List Declaration) (parents : Parents) (parent : Option Nat) :
    childrenOf (kept.map (mapDeclaration f)).toArray parents parent =
      childrenOf kept.toArray parents parent := by
  unfold childrenOf sortByOrder
  simp only [List.getElem?_toArray, List.getElem?_map, Option.map_map, Function.comp_def,
    mapDeclaration, horder]

omit hid in
theorem linkedNodes_map (horder : ∀ field, (f field).order = field.order)
    (kept : List Declaration) (parents : Parents) :
    linkedNodes (kept.map (mapDeclaration f)).toArray parents =
      (linkedNodes kept.toArray parents).map (Node.mapField f) := by
  refine Array.ext_getElem? fun i => ?_
  unfold linkedNodes
  rw [Array.getElem?_mapIdx, Array.getElem?_map, Array.getElem?_mapIdx, List.getElem?_toArray,
    List.getElem?_toArray, List.getElem?_map, Option.map_map, Option.map_map]
  congr 1
  funext d
  simp only [Function.comp_apply, Node.mapField, childrenOf_map horder]
  rfl

end MapField

/-! ## The changed module -/

/-- The module with every declaration changed in the same way. -/
def Module.mapFields (f : Field → Field) (m : Module) : Module :=
  { m with fields := m.fields.map f }

namespace Module

section KeepsIds

variable {f : Field → Field} (hid : ∀ field, (f field).id = field.id) (m : Module)

include hid

theorem ids_mapFields : (m.mapFields f).ids = m.ids := by
  unfold ids mapFields
  rw [List.map_map]
  exact List.map_congr_left fun field _ => hid field

theorem contains_mapFields : (m.mapFields f).contains = m.contains := by
  funext id
  rw [Bool.eq_iff_iff, contains_iff, contains_iff, ids_mapFields hid]

theorem duplicates_mapFields : (m.mapFields f).duplicates = m.duplicates :=
  congrArg (repeatedAfter []) (ids_mapFields hid m)

theorem kept_mapFields : (m.mapFields f).kept = m.kept.map (mapDeclaration f) := by
  unfold kept mapFields
  rw [List.zipIdx_map]
  exact keptOf_map hid m.fields.zipIdx

theorem keptId?_mapFields : (m.mapFields f).keptId? = m.keptId? := by
  funext i
  unfold keptId?
  rw [kept_mapFields hid, List.getElem?_map, Option.map_map]
  simp only [Function.comp_def, mapDeclaration, hid]

theorem lookup_mapFields : (m.mapFields f).lookup = m.lookup := by
  unfold lookup lookupOf
  rw [kept_mapFields hid, List.zipIdx_map, List.map_map]
  congr 2
  funext ⟨d, i⟩
  exact congrArg (·, i) (hid d.1)

theorem field?_mapFields (id : String) : (m.mapFields f).field? id = (m.field? id).map f := by
  unfold field? lastOf? mapFields
  rw [← List.map_reverse, List.find?_map]
  simp only [Function.comp_def, hid]

end KeepsIds

end Module

/-! ## The same tree -/

/-- A change that leaves fields in their places. -/
structure KeepsPlaces (f : Field → Field) : Prop where
  id_eq : ∀ field, (f field).id = field.id
  parent_eq : ∀ field, (f field).parent = field.parent
  order_eq : ∀ field, (f field).order = field.order

namespace Forest

/-- The forest with the fields of its nodes replaced. -/
def mapFields (f : Field → Field) (forest : Forest) : Forest :=
  { forest with nodes := forest.nodes.map (Node.mapField f) }

variable (f : Field → Field) (forest : Forest)

theorem children_mapFields : (forest.mapFields f).children = forest.children := by
  funext i
  unfold children mapFields
  rw [Array.getElem?_map]
  cases forest.nodes[i]? <;> rfl

theorem walk_mapFields (fuel : Nat) :
    ∀ stack, (forest.mapFields f).walk fuel stack = forest.walk fuel stack := by
  induction fuel with
  | zero => exact fun _ => rfl
  | succ fuel ih =>
    intro stack
    cases stack with
    | nil => rfl
    | cons i stack =>
      unfold walk
      rw [children_mapFields, ih]

/-- **The order of display** is the same. -/
theorem nodesInOrder_mapFields :
    (forest.mapFields f).nodesInOrder = forest.nodesInOrder.map (Node.mapField f) := by
  have hplaces : (forest.mapFields f).depthFirst = forest.depthFirst := by
    unfold depthFirst
    rw [walk_mapFields]
    unfold size mapFields
    rw [Array.size_map]
  unfold nodesInOrder
  rw [hplaces, List.map_filterMap]
  unfold mapFields
  simp only [Array.getElem?_map]

end Forest

section Build

variable {f : Field → Field} (h : KeepsPlaces f) (m : Module)

include h

theorem links_mapFields : (m.mapFields f).links = m.links := by
  unfold Module.links parentsOf
  rw [Module.kept_mapFields h.id_eq, Module.lookup_mapFields h.id_eq, List.map_map]
  simp only [Function.comp_def, mapDeclaration, h.parent_eq]

theorem tree_mapFields : (m.mapFields f).tree = m.tree := by
  unfold Module.tree
  rw [links_mapFields h]

theorem roots_mapFields : (m.mapFields f).roots = m.roots := by
  unfold Module.roots
  rw [tree_mapFields h, Module.kept_mapFields h.id_eq, childrenOf_map h.order_eq]

theorem nodes_build_mapFields :
    (Forest.build (m.mapFields f)).nodes = (Forest.build m).nodes.map (Node.mapField f) := by
  have hlinked : (m.mapFields f).linkedNodes = m.linkedNodes.map (Node.mapField f) := by
    unfold Module.linkedNodes
    rw [tree_mapFields h, Module.kept_mapFields h.id_eq, linkedNodes_map h.order_eq]
  rw [nodes_build, nodes_build, hlinked, roots_mapFields h, place_map h.id_eq]

theorem orphans_build_mapFields :
    (Forest.build (m.mapFields f)).diagnostics.orphans = (Forest.build m).diagnostics.orphans := by
  rw [orphans_build, orphans_build, Module.kept_mapFields h.id_eq,
    Module.contains_mapFields h.id_eq, List.filter_map, List.map_map]
  simp only [Function.comp_def, mapDeclaration, h.id_eq, h.parent_eq]

/-- **The forest is the same but for the fields of its nodes.** -/
theorem build_mapFields : Forest.build (m.mapFields f) = (Forest.build m).mapFields f := by
  have hcycles : (Forest.build (m.mapFields f)).diagnostics.cycleBreaks =
      (Forest.build m).diagnostics.cycleBreaks := by
    rw [cycleBreaks_build, cycleBreaks_build, links_mapFields h, Module.keptId?_mapFields h.id_eq]
  refine (Forest.mk.injEq ..).mpr ⟨nodes_build_mapFields h m, ?_, roots_mapFields h m, ?_⟩
  · exact Module.lookup_mapFields h.id_eq m
  · exact (Diagnostics.mk.injEq ..).mpr
      ⟨orphans_build_mapFields h m, Module.duplicates_mapFields h.id_eq m, hcycles⟩

/-- **The nodes are displayed in the same order.** -/
theorem nodesInOrder_build_mapFields : (Forest.build (m.mapFields f)).nodesInOrder =
    (Forest.build m).nodesInOrder.map (Node.mapField f) := by
  rw [build_mapFields h, Forest.nodesInOrder_mapFields]

end Build

end DynamicForms
