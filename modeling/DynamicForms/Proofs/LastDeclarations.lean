import DynamicForms.Proofs.Agreement
import DynamicForms.Proofs.SamePlaces

/-!
# The last declaration wins

An id that is declared more than once stands for its last declaration, and the others might as well
not be there.

* `Module.lastOnly` — a module without the declarations that another one of the same id follows.
* `fields_kept`, `fields_kept_lastOnly` — what is left are the kept declarations, which count from
  the start anew.
* `LastWins`, `build_lastWins` — the forest of what is left is the same but for these numbers, and
  looking an id up, in a module or in its forest, finds the last declaration.
-/

set_option autoImplicit false

namespace DynamicForms

/-! ## What is left of a module -/

/-- The fields that no later one of the same id follows. -/
def lastOfEach : List Field → List Field
  | [] => []
  | f :: rest => if rest.any fun g => g.id == f.id then lastOfEach rest else f :: lastOfEach rest

/-- The module without the declarations that another one of the same id follows. -/
def Module.lastOnly (m : Module) : Module := { m with fields := lastOfEach m.fields }

theorem map_fst_keptOf_zipIdx (fields : List Field) :
    ∀ first : Nat, (keptOf (fields.zipIdx first)).map (·.1) = lastOfEach fields := by
  induction fields with
  | nil => exact fun _ => rfl
  | cons f fields ih =>
    intro first
    have hlater : ((fields.zipIdx (first + 1)).any fun e => e.1.id == f.id) =
        fields.any fun g => g.id == f.id := by
      conv_rhs => rw [← List.zipIdx_map_fst (first + 1) fields, List.any_map]
      rfl
    rw [List.zipIdx_cons, keptOf, lastOfEach, hlater]
    split
    · exact ih (first + 1)
    · rw [List.map_cons, ih (first + 1)]

namespace Module

variable (m : Module)

/-- **What is left are the kept declarations.** -/
theorem fields_kept : m.kept.map (·.1) = m.lastOnly.fields := map_fst_keptOf_zipIdx m.fields 0

theorem nodup_ids_lastOnly : m.lastOnly.ids.Nodup := by
  have h := m.nodup_ids_kept
  unfold ids
  rw [← fields_kept, List.map_map]
  exact h

theorem fields_kept_lastOnly : m.lastOnly.kept.map (·.1) = m.kept.map (·.1) := by
  rw [fields_kept_of_nodup m.nodup_ids_lastOnly, fields_kept]

theorem names_lastOnly : m.lastOnly.names = m.names := by
  have h := congrArg (List.map fun f : Field => (f.id, f.parent)) m.fields_kept_lastOnly
  rw [List.map_map, List.map_map] at h
  exact h

end Module

/-! ## Its forest -/

theorem childrenOf_congr {kept kept' : List Declaration} (h : kept'.map (·.1) = kept.map (·.1))
    (parents : Parents) (parent : Option Nat) :
    childrenOf kept'.toArray parents parent = childrenOf kept.toArray parents parent := by
  have hfield : ∀ i : Nat, kept'[i]?.map (fun d => d.1.order.toInt) =
      kept[i]?.map fun d => d.1.order.toInt := by
    intro i
    have hi := congrArg (fun fields : List Field => fields[i]?.map (·.order.toInt)) h
    simp only [List.getElem?_map, Option.map_map] at hi
    exact hi
  unfold childrenOf sortByOrder
  simp only [List.getElem?_toArray, hfield]

section Build

variable (m : Module)

theorem roots_build_lastOnly : (Forest.build m.lastOnly).roots = (Forest.build m).roots := by
  rw [roots_build, roots_build]
  unfold Module.roots
  rw [Module.tree_of_names m.names_lastOnly, childrenOf_congr m.fields_kept_lastOnly]

theorem fields_build_lastOnly : (Forest.build m.lastOnly).nodes.map Node.field =
    (Forest.build m).nodes.map Node.field := by
  apply Array.toList_inj.1
  rw [Array.toList_map, Array.toList_map]
  exact (fields_build _).trans (m.fields_kept_lastOnly.trans (fields_build m).symm)

theorem children_build_lastOnly : (Forest.build m.lastOnly).nodes.map Node.children =
    (Forest.build m).nodes.map Node.children := by
  have hchildren : (Forest.build m.lastOnly).children = (Forest.build m).children := by
    rw [children_build, children_build, Module.tree_of_names m.names_lastOnly]
    funext i
    exact childrenOf_congr m.fields_kept_lastOnly _ _
  have hnode : ∀ {m : Module} {id : String} {node : Node}, (Forest.build m).find? id = some node →
      node.children = (((Forest.build m).indexOf? id).map (Forest.build m).children).getD [] := by
    intro m id node h
    obtain ⟨i, hi, rfl⟩ := find?_build_iff.1 h
    rw [indexOf?_build_iff.2 (Forest.idAt?_of_node hi)]
    unfold Forest.children
    simp [hi]
  refine map_nodes_of_names m.names_lastOnly fun h h' => ?_
  rw [hnode h, hnode h', indexOf?_of_names m.names_lastOnly, hchildren]

theorem metrics_build_lastOnly :
    (Forest.build m.lastOnly).metrics = (Forest.build m).metrics := by
  refine Forest.metrics_eq (sameTree_of_names m.names_lastOnly).sameShape ?_
  rw [conditionalFields_build, conditionalFields_build, m.fields_kept_lastOnly]

end Build

/-! ## Main theorem -/

/-- What a module, its forest and the forest of its last declarations have in common. -/
structure LastWins (m : Module) (forest forest' : Forest) : Prop
    extends SamePlaces forest forest' where
  fields_eq : forest'.nodes.map Node.field = forest.nodes.map Node.field
  children_eq : forest'.nodes.map Node.children = forest.nodes.map Node.children
  roots_eq : forest'.roots = forest.roots
  metrics_eq : forest'.metrics = forest.metrics
  /-- An id leads to the same declaration in the module and in its forest. -/
  find?_eq : ∀ id, (forest.find? id).map Node.field = m.field? id
  /-- That declaration is the one at the place that the node tells, and no later one has the id. -/
  declared : ∀ id node, forest.find? id = some node → m.fields[node.position]? = some node.field ∧
    ∀ i, node.position < i → m.ids[i]? ≠ some id
  contains_eq : ∀ id, forest.contains id = m.contains id

/-- **The last declaration wins**: the other ones of an id are not seen in the forest, and not found
in the module. -/
theorem build_lastWins (m : Module) :
    LastWins m (Forest.build m) (Forest.build m.lastOnly) where
  toSamePlaces := samePlaces_of_names m.names_lastOnly
  fields_eq := fields_build_lastOnly m
  children_eq := children_build_lastOnly m
  roots_eq := roots_build_lastOnly m
  metrics_eq := metrics_build_lastOnly m
  find?_eq := field_find?_build m
  declared := by
    intro id node h
    obtain ⟨hfield, hlast⟩ := declaration_of_find? h
    exact ⟨hfield, (lastIndexOf?_eq_some_iff.1 hlast).2⟩
  contains_eq := fun _ => Module.contains_lookup

end DynamicForms
