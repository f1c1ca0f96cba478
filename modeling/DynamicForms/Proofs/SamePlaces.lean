import DynamicForms.Proofs.NamedTree
import Mathlib

/-!
# What a tree depends on

Linking fields, breaking cycles and giving out depths and paths reads nothing of the declarations
but their ids and the parents they name.

* `Module.names` — the ids and named parents of the kept declarations; `links_of_names`,
  `orphans_of_names`, `cycleBreaks_of_names` and others say what follows from them.
* `SamePlaces`, `samePlaces_of_names` — with the same names, the nodes of two forests stand for the
  same ids at the same places, and agree in their parents, depths and paths.
* `Field.SameLink`, `kept_sameLink` — modules that agree declaration by declaration keep
  declarations that do.
* `ReordersOnly`, `build_reordersOnly` — such modules have the same tree but for the order of
  children and roots, the same is mended in them, and only what the metrics tell of conditions is
  different.
-/

set_option autoImplicit false

namespace DynamicForms

/-! ## The same names -/

namespace Module

/-- The kept declarations by their ids and the parents they name. -/
def names (m : Module) : List (String × Option String) := m.kept.map fun d => (d.1.id, d.1.parent)

variable {m m' : Module} (h : m'.names = m.names)

include h

theorem ids_kept_of_names : m'.kept.map (·.1.id) = m.kept.map (·.1.id) := by
  have := congrArg (List.map Prod.fst) h
  unfold names at this
  rwa [List.map_map, List.map_map] at this

theorem keptId?_of_names : m'.keptId? = m.keptId? := by
  funext i
  unfold keptId?
  rw [← List.getElem?_map, ← List.getElem?_map, ids_kept_of_names h]

theorem lookup_of_names : m'.lookup = m.lookup := by
  have hlookup : ∀ m : Module, m.lookup =
      .ofList ((m.kept.map (·.1.id)).zipIdx.map fun entry => (entry.1, entry.2)) := by
    intro m
    rw [List.zipIdx_map, List.map_map]
    rfl
  rw [hlookup, hlookup, ids_kept_of_names h]

theorem links_of_names : m'.links = m.links := by
  have hlinks : ∀ m : Module,
      m.links = (m.names.map fun name => name.2.bind m.lookup.get?).toArray := by
    intro m
    unfold names
    rw [List.map_map]
    rfl
  rw [hlinks, hlinks, lookup_of_names h, h]

theorem tree_of_names : m'.tree = m.tree := by
  unfold tree
  rw [links_of_names h]

end Module

section Build

variable {m m' : Module} (h : m'.names = m.names)

include h

theorem orphans_of_names :
    (Forest.build m').diagnostics.orphans = (Forest.build m).diagnostics.orphans := by
  have horphans : ∀ m : Module, (Forest.build m).diagnostics.orphans =
      (m.names.filter fun name => name.2.any fun p => !m.lookup.contains p).map Prod.fst := by
    intro m
    unfold Module.names
    rw [List.filter_map, List.map_map]
    rfl
  rw [horphans, horphans, Module.lookup_of_names h, h]

theorem cycleBreaks_of_names :
    (Forest.build m').diagnostics.cycleBreaks = (Forest.build m).diagnostics.cycleBreaks := by
  rw [cycleBreaks_build, cycleBreaks_build, Module.links_of_names h, Module.keptId?_of_names h]

theorem indexOf?_of_names : (Forest.build m').indexOf? = (Forest.build m).indexOf? := by
  funext id
  unfold Forest.indexOf?
  rw [lookup_build, lookup_build, Module.lookup_of_names h]

theorem parent?_of_names : (Forest.build m').parent? = (Forest.build m).parent? := by
  rw [parent?_build, parent?_build, Module.tree_of_names h]

theorem idAt?_of_names : (Forest.build m').idAt? = (Forest.build m).idAt? := by
  rw [idAt?_build, idAt?_build, Module.keptId?_of_names h]

theorem sameTree_of_names : SameTree m m' where
  mem_ids_iff := fun id => by rw [← exists_idAt?_iff, ← exists_idAt?_iff, idAt?_of_names h]
  parentId?_eq := by
    funext id
    unfold Forest.parentId?
    rw [indexOf?_of_names h, parent?_of_names h, idAt?_of_names h]

theorem map_nodes_of_names {α : Type} {g : Node → α}
    (hg : ∀ {id node node'}, (Forest.build m).find? id = some node →
      (Forest.build m').find? id = some node' → g node' = g node) :
    (Forest.build m').nodes.map g = (Forest.build m).nodes.map g := by
  have hlist : (Forest.build m').nodes.toList.map g = (Forest.build m).nodes.toList.map g := by
    rw [map_nodes_build, map_nodes_build, Module.ids_kept_of_names h]
    exact List.filterMap_congr fun _ _ => (sameTree_of_names h).map_find?_eq hg
  apply Array.toList_inj.1
  rw [Array.toList_map, Array.toList_map, hlist]

end Build

/-- The nodes of two forests stand for the same ids at the same places, and have the same parents,
depths and paths; and the same parents were missing or dropped. -/
structure SamePlaces (forest forest' : Forest) : Prop where
  ids_eq : forest'.nodes.map (·.field.id) = forest.nodes.map (·.field.id)
  parents_eq : forest'.nodes.map Node.parent = forest.nodes.map Node.parent
  depths_eq : forest'.nodes.map Node.depth = forest.nodes.map Node.depth
  paths_eq : forest'.nodes.map Node.path = forest.nodes.map Node.path
  lookup_eq : forest'.lookup = forest.lookup
  orphans_eq : forest'.diagnostics.orphans = forest.diagnostics.orphans
  cycleBreaks_eq : forest'.diagnostics.cycleBreaks = forest.diagnostics.cycleBreaks

theorem parent_of_find? {m : Module} {id : String} {node : Node}
    (h : (Forest.build m).find? id = some node) :
    node.parent = ((Forest.build m).indexOf? id).bind (Forest.build m).parent? := by
  obtain ⟨i, hnode, rfl⟩ := find?_build_iff.1 h
  rw [indexOf?_build_iff.2 (Forest.idAt?_of_node hnode), Option.bind_some,
    Forest.parent?_of_node hnode]

theorem id_of_find? {m : Module} {id : String} {node : Node}
    (h : (Forest.build m).find? id = some node) : node.field.id = id := by
  obtain ⟨_, _, hid⟩ := find?_build_iff.1 h
  exact hid

/-- **With the same names the nodes stand at the same places**, and nothing else counts for what
is above them. -/
theorem samePlaces_of_names {m m' : Module} (h : m'.names = m.names) :
    SamePlaces (Forest.build m) (Forest.build m') where
  ids_eq := map_nodes_of_names h fun hnode hnode' => by rw [id_of_find? hnode, id_of_find? hnode']
  parents_eq := map_nodes_of_names h fun hnode hnode' => by
    rw [parent_of_find? hnode, parent_of_find? hnode', indexOf?_of_names h, parent?_of_names h]
  depths_eq := map_nodes_of_names h (sameTree_of_names h).depth_eq
  paths_eq := map_nodes_of_names h (sameTree_of_names h).path_eq
  lookup_eq := Module.lookup_of_names h
  orphans_eq := orphans_of_names h
  cycleBreaks_eq := cycleBreaks_of_names h

/-! ## Declarations that agree one by one -/

/-- Two declarations of the same id that name the same parent. -/
structure Field.SameLink (f g : Field) : Prop where
  id_eq : g.id = f.id
  parent_eq : g.parent = f.parent

/-- Two declarations that agree in this way, at the same place. -/
structure Declaration.SameLink (d e : Declaration) : Prop where
  field : d.1.SameLink e.1
  position_eq : e.2 = d.2

theorem forall₂_sameLink_zipIdx {fields fields' : List Field}
    (h : List.Forall₂ Field.SameLink fields fields') : ∀ first : Nat,
      List.Forall₂ Declaration.SameLink (fields.zipIdx first) (fields'.zipIdx first) := by
  induction h with
  | nil => exact fun _ => .nil
  | cons hfield _ ih =>
    intro first
    rw [List.zipIdx_cons, List.zipIdx_cons]
    exact .cons ⟨hfield, rfl⟩ (ih (first + 1))

theorem map_eq_of_forall₂ {α β γ : Type} {R : α → β → Prop} {f : α → γ} {g : β → γ} {l : List α}
    {l' : List β} (h : List.Forall₂ R l l') (hfg : ∀ {a b}, R a b → g b = f a) :
    l'.map g = l.map f := by
  induction h with
  | nil => rfl
  | cons hab _ ih => rw [List.map_cons, List.map_cons, hfg hab, ih]

section SameLink

variable {m m' : Module} (h : List.Forall₂ Field.SameLink m.fields m'.fields)

include h

theorem ids_sameLink : m'.ids = m.ids := map_eq_of_forall₂ h Field.SameLink.id_eq

/-- **The kept declarations agree as well**, one by one. -/
theorem kept_sameLink : List.Forall₂ Declaration.SameLink m.kept m'.kept := by
  rw [Module.kept_eq_filter, Module.kept_eq_filter, ids_sameLink h]
  refine List.rel_filter ?_ (forall₂_sameLink_zipIdx h 0)
  intro d e hlink
  simp only [hlink.field.id_eq, hlink.position_eq]

theorem names_sameLink : m'.names = m.names :=
  map_eq_of_forall₂ (kept_sameLink h) fun hlink =>
    Prod.ext hlink.field.id_eq hlink.field.parent_eq

theorem duplicates_sameLink : m'.duplicates = m.duplicates :=
  congrArg (repeatedAfter []) (ids_sameLink h)

theorem positions_sameLink :
    (Forest.build m').nodes.map Node.position = (Forest.build m).nodes.map Node.position := by
  have hpositions : ∀ m : Module,
      (Forest.build m).nodes.toList.map Node.position = m.kept.map Prod.snd := by
    intro m
    rw [← declarations_build, List.map_map]
    rfl
  apply Array.toList_inj.1
  rw [Array.toList_map, Array.toList_map, hpositions, hpositions,
    map_eq_of_forall₂ (kept_sameLink h) Declaration.SameLink.position_eq]

end SameLink

/-! ## Main theorem -/

/-- Two forests that differ in the order of children and roots, and in what fields say beyond their
ids and parents. -/
structure ReordersOnly (forest forest' : Forest) : Prop extends SamePlaces forest forest' where
  positions_eq : forest'.nodes.map Node.position = forest.nodes.map Node.position
  /-- The children of every node are the same, in some order. -/
  children_perm : ∀ i, (forest'.children i).Perm (forest.children i)
  roots_perm : forest'.roots.Perm forest.roots
  diagnostics_eq : forest'.diagnostics = forest.diagnostics
  /-- Only the number of fields with conditions can differ, and the complexity that counts them. -/
  sameShape : forest.metrics.SameShape forest'.metrics

theorem childrenOf_perm (kept kept' : Array Declaration) (parents : Parents)
    (parent : Option Nat) :
    (childrenOf kept' parents parent).Perm (childrenOf kept parents parent) := by
  unfold childrenOf sortByOrder
  exact (List.mergeSort_perm _ _).trans (List.mergeSort_perm _ _).symm

/-- **A tree depends on nothing but ids and parents**, however broken the module is: orders, kinds,
labels, rules and conditions can be changed without an effect on it, save on the order of
siblings. -/
theorem build_reordersOnly (m m' : Module) (h : List.Forall₂ Field.SameLink m.fields m'.fields) :
    ReordersOnly (Forest.build m) (Forest.build m') := by
  have hnames := names_sameLink h
  have hplaces := samePlaces_of_names hnames
  refine
    { toSamePlaces := hplaces
      positions_eq := positions_sameLink h
      children_perm := fun i => ?_
      roots_perm := ?_
      diagnostics_eq := (Diagnostics.mk.injEq ..).mpr
        ⟨hplaces.orphans_eq, duplicates_sameLink h, hplaces.cycleBreaks_eq⟩
      sameShape := (sameTree_of_names hnames).sameShape }
  · rw [children_build, children_build, Module.tree_of_names hnames]
    exact childrenOf_perm _ _ _ _
  · rw [roots_build, roots_build]
    unfold Module.roots
    rw [Module.tree_of_names hnames]
    exact childrenOf_perm _ _ _ _

/-- A text with a parent. -/
def Field.under (id parent : String) : Field :=
  { Field.ofId id .text with parent := some parent }

/-- Fields in a circle with two texts below it, one whose parent is missing, and an id that is
declared twice. -/
def Module.knotted : Module :=
  { Module.ofId "knotted" with
    fields := [.under "a" "b", .under "b" "a", .under "c" "a", .under "d" "a", .under "e" "gone",
      .ofId "f" .text, .under "f" "d"] }

/-- The same ids and parents with other kinds and orders, and a condition. -/
def Module.knottedAnew : Module :=
  { Module.ofId "knotted" with
    fields := [.under "a" "b", { Field.under "b" "a" with kind := .group, order := 7 },
      { Field.under "c" "a" with order := 5, conditions := [⟨"a", .isEmpty, none, .hide⟩] },
      { Field.under "d" "a" with label := some "D" }, .under "e" "gone", .ofId "f" .date,
      { Field.under "f" "d" with required := true }] }

/-- The circle is broken at the same field, and the texts below it change places. -/
theorem build_reordersOnly_knotted :
    List.Forall₂ Field.SameLink Module.knotted.fields Module.knottedAnew.fields ∧
    ReordersOnly (Forest.build .knotted) (Forest.build .knottedAnew) ∧
    (Forest.build .knotted).childIds "a" = ["b", "c", "d"] ∧
    (Forest.build .knottedAnew).childIds "a" = ["d", "c", "b"] := by
  have hlinks : List.Forall₂ Field.SameLink Module.knotted.fields Module.knottedAnew.fields :=
    .cons ⟨rfl, rfl⟩ (.cons ⟨rfl, rfl⟩ (.cons ⟨rfl, rfl⟩ (.cons ⟨rfl, rfl⟩ (.cons ⟨rfl, rfl⟩
      (.cons ⟨rfl, rfl⟩ (.cons ⟨rfl, rfl⟩ .nil))))))
  exact ⟨hlinks, build_reordersOnly _ _ hlinks, by cbv, by cbv⟩

end DynamicForms
