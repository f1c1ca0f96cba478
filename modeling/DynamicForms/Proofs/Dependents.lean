import DynamicForms.Logic.Dependencies
import DynamicForms.Logic.States
import DynamicForms.Proofs.Repairs
import DynamicForms.Proofs.WellFormed
import Mathlib.Data.List.Perm.Basic

/-!
# What the states of fields depend on

* `Dictionary.ext_get?` — dictionaries with the same value under every key are equal.
* `field_find?_build` — the node of an id holds the last declaration of the id.
* `mem_dependents_build` — the dependents of a trigger are exactly the fields with a condition on
  it, whatever node of the forest they are.
* `get?_on_evaluate` — each field's states are decided by its last declaration.
* `decide_congr` — a decision reads the form only at the triggers of the field's conditions.
-/

set_option autoImplicit false

namespace DynamicForms

/-! ## Dictionaries by their values -/

namespace Dictionary

variable {α : Type} {d e : Dictionary α} {key : String} {value : α}

theorem nodup_keys (d : Dictionary α) : (d.entries.map (·.1)).Nodup := by
  rw [List.Nodup, List.pairwise_map]
  refine d.ascending.imp fun {a b} hlt heq => ?_
  rw [heq] at hlt
  exact String.lt_irrefl _ hlt

theorem get?_eq_some_iff : d.get? key = some value ↔ (key, value) ∈ d.entries := by
  unfold get? lookupEntry
  rw [Option.map_eq_some_iff]
  constructor
  · rintro ⟨entry, hfind, rfl⟩
    have hkey : entry.1 = key := by simpa using List.find?_some hfind
    rw [← hkey]
    exact List.mem_of_find?_eq_some hfind
  · intro hmem
    obtain ⟨entry, hfind⟩ := Option.isSome_iff_exists.1
      ((List.find?_isSome (p := fun entry => entry.1 == key)).2 ⟨(key, value), hmem, by simp⟩)
    have hkey : entry.1 = key := by simpa using List.find?_some hfind
    have heq := List.inj_on_of_nodup_map d.nodup_keys (List.mem_of_find?_eq_some hfind) hmem hkey
    exact ⟨entry, hfind, by rw [heq]⟩

theorem mem_keys_iff : key ∈ d.keys ↔ ∃ value, d.get? key = some value := by
  unfold keys
  simp [get?_eq_some_iff]

/-- **Dictionaries with the same values are equal.** -/
theorem ext_get? (h : ∀ key, d.get? key = e.get? key) : d = e := by
  have hperm : d.entries.Perm e.entries := by
    refine (List.perm_ext_iff_of_nodup d.nodup_keys.of_map e.nodup_keys.of_map).2 ?_
    rintro ⟨key, value⟩
    rw [← get?_eq_some_iff, ← get?_eq_some_iff, h]
  refine ext (hperm.eq_of_pairwise ?_ d.ascending e.ascending)
  intro a b _ _ hlt hgt
  exact absurd hgt (String.lt_asymm hlt)

end Dictionary

/-! ## The nodes of a built forest by their ids -/

section Build

variable {m : Module}

theorem fields_build (m : Module) :
    (Forest.build m).nodes.toList.map (·.field) = m.kept.map (·.1) := by
  rw [← declarations_build, List.map_map]
  rfl

theorem mem_fields_build {f : Field} :
    f ∈ (Forest.build m).nodes.toList.map (·.field) ↔ m.field? f.id = some f := by
  rw [fields_build, List.mem_map]
  constructor
  · rintro ⟨d, hd, rfl⟩
    exact Module.field?_of_mem_kept hd
  · intro hf
    have hid : f.id ∈ m.ids := List.mem_map.2 ⟨f, Module.mem_of_field? hf, rfl⟩
    obtain ⟨d, hd, hdid⟩ := Module.exists_mem_kept hid
    have hfield := Module.field?_of_mem_kept hd
    rw [hdid, hf, Option.some.injEq] at hfield
    exact ⟨d, hd, hfield.symm⟩

theorem nodup_ids_build (m : Module) :
    ((Forest.build m).nodes.toList.map (·.field.id)).Nodup := by
  have h := congrArg (List.map Field.id) (fields_build m)
  rw [List.map_map, List.map_map] at h
  have hnodup := m.nodup_ids_kept
  exact h ▸ hnodup

theorem mem_fields_nodesInOrder {f : Field} :
    f ∈ (Forest.build m).nodesInOrder.map (·.field) ↔ m.field? f.id = some f := by
  rw [← mem_fields_build]
  exact ((Forest.nodesInOrder_spec (linked_build m)).map _).mem_iff

theorem nodup_ids_nodesInOrder (m : Module) :
    ((Forest.build m).nodesInOrder.map (·.field.id)).Nodup :=
  ((Forest.nodesInOrder_spec (linked_build m)).map _).nodup_iff.2 (nodup_ids_build m)

theorem mem_ids_nodesInOrder {id : String} :
    id ∈ (Forest.build m).nodesInOrder.map (·.field.id) ↔ id ∈ m.ids := by
  constructor
  · intro hid
    obtain ⟨node, hnode, rfl⟩ := List.mem_map.1 hid
    have hfield := mem_fields_nodesInOrder.1 (List.mem_map_of_mem hnode)
    exact List.mem_map_of_mem (Module.mem_of_field? hfield)
  · intro hid
    obtain ⟨d, hd, rfl⟩ := Module.exists_mem_kept hid
    obtain ⟨node, hnode, hfield⟩ := List.mem_map.1
      (mem_fields_nodesInOrder.2 (Module.field?_of_mem_kept hd))
    exact List.mem_map.2 ⟨node, hnode, congrArg Field.id hfield⟩

theorem exists_idAt?_build {i : Nat} (hi : i < (Forest.build m).size) :
    ∃ id, (Forest.build m).idAt? i = some id :=
  ⟨_, Forest.idAt?_of_node (Array.getElem?_eq_getElem hi)⟩

theorem exists_idAt?_parent {i p : Nat} (hp : (Forest.build m).parent? i = some p) :
    ∃ parent, (Forest.build m).idAt? p = some parent :=
  exists_idAt?_build ((linked_build m).up_lt hp).2

theorem find?_build_iff {id : String} {node : Node} : (Forest.build m).find? id = some node ↔
    ∃ i : Nat, (Forest.build m).nodes[i]? = some node ∧ node.field.id = id := by
  unfold Forest.find?
  rw [Option.bind_eq_some_iff]
  constructor
  · rintro ⟨i, hi, hnode⟩
    have hid := indexOf?_build_iff.1 hi
    rw [Forest.idAt?_of_node hnode, Option.some.injEq] at hid
    exact ⟨i, hnode, hid⟩
  · rintro ⟨i, hnode, rfl⟩
    exact ⟨i, indexOf?_build_iff.2 (Forest.idAt?_of_node hnode), hnode⟩

/-- **The node of an id holds its last declaration.** -/
theorem field_find?_build (m : Module) (id : String) :
    ((Forest.build m).find? id).map (·.field) = m.field? id := by
  refine Option.ext fun f => ?_
  rw [Option.map_eq_some_iff]
  constructor
  · rintro ⟨node, hnode, rfl⟩
    obtain ⟨i, hi, rfl⟩ := find?_build_iff.1 hnode
    exact mem_fields_build.1
      (List.mem_map_of_mem (List.mem_of_getElem? (Array.getElem?_toList ▸ hi)))
  · intro hfield
    obtain rfl := Module.id_of_field? hfield
    obtain ⟨node, hnode, rfl⟩ := List.mem_map.1 (mem_fields_build.2 hfield)
    obtain ⟨i, hi⟩ := List.getElem?_of_mem hnode
    exact ⟨node, find?_build_iff.2 ⟨i, Array.getElem?_toList ▸ hi, rfl⟩, rfl⟩

theorem field?_of_find? {id : String} {node : Node}
    (h : (Forest.build m).find? id = some node) : m.field? id = some node.field := by
  rw [← field_find?_build, h, Option.map_some]

theorem declaration_of_find? {id : String} {node : Node}
    (h : (Forest.build m).find? id = some node) :
    m.fields[node.position]? = some node.field ∧
      Structure.lastIndexOf? m.ids id = some node.position := by
  obtain ⟨i, hi, rfl⟩ := find?_build_iff.1 h
  have hkept : (node.field, node.position) ∈ m.kept := by
    rw [← declarations_build]
    exact List.mem_map.2 ⟨node, List.mem_of_getElem? (Array.getElem?_toList ▸ hi), rfl⟩
  exact Module.mem_kept.1 hkept

end Build

/-! ## The index -/

namespace Dependencies

variable {d : Dependencies} {trigger id k x : String}

theorem dependents_note : (d.note trigger id).dependents k =
    if k = trigger then
      if id ∈ d.dependents trigger then d.dependents trigger else d.dependents trigger ++ [id]
    else d.dependents k := by
  unfold note
  rw [dependents, Dictionary.get?_insert]
  split
  · simp only [List.contains_iff_mem, Option.getD_some]
  · rfl

theorem mem_dependents_note :
    x ∈ (d.note trigger id).dependents k ↔ x ∈ d.dependents k ∨ (k = trigger ∧ x = id) := by
  rw [dependents_note]
  by_cases hk : k = trigger
  · subst hk
    by_cases hid : id ∈ d.dependents k
    · simp only [if_pos, hid, true_and, iff_self_or]
      rintro rfl
      exact hid
    · simp [hid]
  · simp [hk]

theorem mem_dependents_noteField {f : Field} :
    x ∈ (d.noteField f).dependents k ↔
      x ∈ d.dependents k ∨ (x = f.id ∧ ∃ c ∈ f.conditions, c.trigger = k) := by
  unfold noteField
  induction f.conditions generalizing d with
  | nil => simp
  | cons c conditions ih =>
    rw [List.foldl_cons, ih, mem_dependents_note, List.exists_mem_cons_iff]
    constructor
    · rintro ((hx | ⟨rfl, rfl⟩) | ⟨rfl, hc⟩)
      · exact .inl hx
      · exact .inr ⟨rfl, .inl rfl⟩
      · exact .inr ⟨rfl, .inr hc⟩
    · rintro (hx | ⟨rfl, rfl | hc⟩)
      · exact .inl (.inl hx)
      · exact .inl (.inr ⟨rfl, rfl⟩)
      · exact .inr ⟨rfl, hc⟩

theorem mem_dependents_foldl {fields : List Field} :
    x ∈ (fields.foldl noteField d).dependents k ↔
      x ∈ d.dependents k ∨ ∃ f ∈ fields, f.id = x ∧ ∃ c ∈ f.conditions, c.trigger = k := by
  induction fields generalizing d with
  | nil => simp
  | cons f fields ih =>
    rw [List.foldl_cons, ih, mem_dependents_noteField, List.exists_mem_cons_iff, or_assoc,
      eq_comm (a := x)]

/-- **The dependents of a trigger** are the fields with a condition on it. -/
theorem mem_dependents_build {m : Module} :
    x ∈ (ofForest (Forest.build m)).dependents k ↔
      ∃ f, m.field? x = some f ∧ ∃ c ∈ f.conditions, c.trigger = k := by
  unfold ofForest
  rw [mem_dependents_foldl, or_iff_right (by simp [dependents, Dictionary.get?, Dictionary.empty,
    lookupEntry])]
  constructor
  · rintro ⟨f, hf, rfl, hc⟩
    exact ⟨f, mem_fields_nodesInOrder.1 hf, hc⟩
  · rintro ⟨f, hf, hc⟩
    have hid := Module.id_of_field? hf
    exact ⟨f, mem_fields_nodesInOrder.2 (hid ▸ hf), hid, hc⟩

end Dependencies

/-! ## Decisions -/

/-- **A decision reads the form only at the triggers** of the field's conditions. -/
theorem Field.decide_congr {f : Field} {form next : Form} (axis : Axis)
    (h : ∀ c ∈ f.conditions, form.value c.trigger = next.value c.trigger) :
    f.decide form axis = f.decide next axis := by
  have hholds : ∀ c ∈ f.conditions, c.holds form = c.holds next := by
    intro c hc
    unfold Condition.holds
    rw [h c hc]
  have hfind : (f.conditions.filter fun c => c.action.axis == axis).find? (fun c => c.holds form) =
      (f.conditions.filter fun c => c.action.axis == axis).find? fun c => c.holds next := by
    rw [← List.head?_filter, ← List.head?_filter]
    exact congrArg _ (List.filter_congr fun c hc => hholds c (List.mem_of_mem_filter hc))
  simp only [Field.decide, hfind]

namespace States

/-- The states of the fields on an axis. -/
def on (states : States) : Axis → Dictionary Bool
  | .visibility => states.visible
  | .enablement => states.enabled

theorem ext_on {s t : States} (h : ∀ axis, s.on axis = t.on axis) : s = t := by
  obtain ⟨visible, enabled⟩ := s
  obtain ⟨visible', enabled'⟩ := t
  have hvisible : visible = visible' := h .visibility
  have henabled : enabled = enabled' := h .enablement
  rw [hvisible, henabled]

theorem on_evaluate (forest : Forest) (form : Form) (axis : Axis) :
    (evaluate forest form).on axis =
      .ofList ((forest.nodes.toList.map (·.field)).map fun f => (f.id, f.decide form axis)) := by
  cases axis <;> rfl

/-- **The states of a field** are decided by its last declaration. -/
theorem get?_on_evaluate (m : Module) (form : Form) (axis : Axis) (id : String) :
    ((evaluate (Forest.build m) form).on axis).get? id =
      (m.field? id).map fun f => f.decide form axis := by
  have hkeys : (((Forest.build m).nodes.toList.map (·.field)).map
      fun f => (f.id, f.decide form axis)).map (·.1) =
      (Forest.build m).nodes.toList.map (·.field.id) := by
    rw [List.map_map, List.map_map]
    rfl
  refine Option.ext fun state => ?_
  rw [on_evaluate, Dictionary.get?_ofList_eq_some_iff (hkeys ▸ nodup_ids_build m), List.mem_map,
    Option.map_eq_some_iff]
  constructor
  · rintro ⟨f, hf, heq⟩
    obtain ⟨rfl, rfl⟩ := Prod.mk.inj heq
    exact ⟨f, mem_fields_build.1 hf, rfl⟩
  · rintro ⟨f, hf, rfl⟩
    have hid := Module.id_of_field? hf
    exact ⟨f, mem_fields_build.2 (hid ▸ hf), by rw [hid]⟩

end States

end DynamicForms
