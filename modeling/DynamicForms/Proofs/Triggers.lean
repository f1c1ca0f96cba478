import DynamicForms.Proofs.NamedTree

/-!
# Which fields a trigger moves

The index of dependencies is made in one pass over the fields in the order of display, and each
field enters the lists of all triggers of its conditions.

* `dependents_noteField` — one field: it goes to the end of the lists of its triggers, unless it
  stands there already, and all other lists stay.
* `dependents_foldl` — a pass over fields of different ids, by induction on them.
* `Filled`, `filled_ofForest` — no list of the index is empty, so a trigger is an id with a list.
* `ListsTriggered`, `listsTriggered_build` — the list of any text holds the fields with a condition
  on it, in the order of display.
-/

set_option autoImplicit false

namespace DynamicForms

/-- Whether some condition of a field is on a trigger. -/
def Field.isTriggeredBy (f : Field) (trigger : String) : Bool :=
  f.conditions.any fun c => c.trigger == trigger

namespace Dependencies

variable {d : Dependencies} {m : Module} {k : String}

/-! ## One list -/

theorem dependents_note_of_mem {id : String} (h : id ∈ d.dependents k) :
    (d.note k id).dependents k = d.dependents k := by
  rw [dependents_note, if_pos rfl, if_pos h]

theorem dependents_note_of_notMem {id : String} (h : id ∉ d.dependents k) :
    (d.note k id).dependents k = d.dependents k ++ [id] := by
  rw [dependents_note, if_pos rfl, if_neg h]

/-- **One field** goes to the end of the lists of its triggers. -/
theorem dependents_noteField (f : Field) : (d.noteField f).dependents k =
    if f.isTriggeredBy k = true ∧ f.id ∉ d.dependents k then d.dependents k ++ [f.id]
    else d.dependents k := by
  unfold noteField Field.isTriggeredBy
  induction f.conditions generalizing d with
  | nil => simp
  | cons c conditions ih =>
    rw [List.foldl_cons, ih, List.any_cons]
    by_cases hc : c.trigger = k
    · -- Once the field stands in the list the other conditions change nothing.
      subst hc
      by_cases hid : f.id ∈ d.dependents c.trigger
      · simp [dependents_note_of_mem hid, hid]
      · simp [dependents_note_of_notMem hid, hid]
    · have hkeep : (d.note c.trigger f.id).dependents k = d.dependents k := by
        rw [dependents_note, if_neg (Ne.symm hc)]
      have hbeq : (c.trigger == k) = false := by simpa using hc
      rw [hkeep, hbeq, Bool.false_or]

/-- **A pass over fields** appends those that the trigger moves, in their order. -/
theorem dependents_foldl {fields : List Field} (hnodup : (fields.map Field.id).Nodup)
    (hnew : ∀ f ∈ fields, f.id ∉ d.dependents k) :
    (fields.foldl noteField d).dependents k =
      d.dependents k ++ (fields.filter (·.isTriggeredBy k)).map Field.id := by
  induction fields generalizing d with
  | nil => simp
  | cons f fields ih =>
    obtain ⟨hf, hrest⟩ := List.nodup_cons.1 hnodup
    obtain ⟨hfirst, hlater⟩ := List.forall_mem_cons.1 hnew
    have hnote := dependents_noteField (d := d) (k := k) f
    by_cases htrigger : f.isTriggeredBy k = true
    · rw [if_pos ⟨htrigger, hfirst⟩] at hnote
      have hnext : ∀ g ∈ fields, g.id ∉ (d.noteField f).dependents k := by
        intro g hg hmem
        rw [hnote, List.mem_append, List.mem_singleton] at hmem
        rcases hmem with hmem | heq
        · exact hlater g hg hmem
        · exact hf (heq ▸ List.mem_map_of_mem hg)
      rw [List.foldl_cons, ih hrest hnext, hnote, List.filter_cons, if_pos htrigger,
        List.map_cons, List.append_assoc, List.singleton_append]
    · rw [if_neg (fun h => htrigger h.1)] at hnote
      have hnext : ∀ g ∈ fields, g.id ∉ (d.noteField f).dependents k := by
        intro g hg
        rw [hnote]
        exact hlater g hg
      rw [List.foldl_cons, ih hrest hnext, hnote, List.filter_cons, if_neg htrigger]

/-! ## No list is empty -/

/-- No list of the index is empty. -/
def Filled (d : Dependencies) : Prop := ∀ k ids, d.index.get? k = some ids → ids ≠ []

theorem Filled.note (h : d.Filled) (trigger id : String) : (d.note trigger id).Filled := by
  intro k ids hget
  unfold Dependencies.note at hget
  rw [Dictionary.get?_insert] at hget
  split at hget
  · rw [Option.some.injEq] at hget
    subst hget
    split
    · rename_i hid
      exact List.ne_nil_of_mem (List.contains_iff_mem.1 hid)
    · exact List.append_ne_nil_of_right_ne_nil _ (List.cons_ne_nil id [])
  · exact h k ids hget

theorem Filled.noteField (h : d.Filled) (f : Field) : (d.noteField f).Filled := by
  unfold Dependencies.noteField
  induction f.conditions generalizing d with
  | nil => exact h
  | cons c conditions ih => exact ih (h.note c.trigger f.id)

theorem Filled.foldl (h : d.Filled) (fields : List Field) :
    (fields.foldl Dependencies.noteField d).Filled := by
  induction fields generalizing d with
  | nil => exact h
  | cons f fields ih => exact ih (h.noteField f)

theorem filled_ofForest (forest : Forest) : (ofForest forest).Filled :=
  Filled.foldl (fun _ _ h => by cases h) _

theorem Filled.isTrigger_iff (h : d.Filled) : d.isTrigger k = true ↔ d.dependents k ≠ [] := by
  unfold isTrigger dependents Dictionary.contains
  cases hget : d.index.get? k with
  | none => simp
  | some ids => simpa using h k ids hget

/-! ## Main theorem -/

/-- What an index tells of a trigger, whether it is a field of the module or not. -/
structure ListsTriggered (d : Dependencies) (m : Module) (trigger : String) : Prop where
  /-- The ids in the order of display, without those whose last declaration has no condition on the
  trigger. -/
  dependents_eq : d.dependents trigger = (Forest.build m).idsInOrder.filter fun id =>
    (m.field? id).any (·.isTriggeredBy trigger)
  mem_iff : ∀ id, id ∈ d.dependents trigger ↔
    ∃ f, m.field? id = some f ∧ ∃ c ∈ f.conditions, c.trigger = trigger
  nodup : (d.dependents trigger).Nodup
  isTrigger_iff : d.isTrigger trigger = true ↔ d.dependents trigger ≠ []

theorem filter_idsInOrder (m : Module) (trigger : String) :
    ((Forest.build m).idsInOrder.filter fun id => (m.field? id).any (·.isTriggeredBy trigger)) =
      (((Forest.build m).nodesInOrder.map (·.field)).filter (·.isTriggeredBy trigger)).map
        Field.id := by
  have hids : (Forest.build m).idsInOrder =
      ((Forest.build m).nodesInOrder.map (·.field)).map Field.id := by
    rw [List.map_map]
    rfl
  rw [hids, List.filter_map]
  refine congrArg _ (List.filter_congr fun f hf => ?_)
  rw [Function.comp_apply, mem_fields_nodesInOrder.1 hf, Option.any_some]

/-- **The index lists under any text the fields that it triggers**, in the order of display. -/
theorem listsTriggered_build (m : Module) (trigger : String) :
    (ofForest (Forest.build m)).ListsTriggered m trigger := by
  have hnodup : (((Forest.build m).nodesInOrder.map (·.field)).map Field.id).Nodup := by
    rw [List.map_map]
    exact nodup_ids_nodesInOrder m
  have hnone : (⟨.empty⟩ : Dependencies).dependents trigger = [] := rfl
  have hlist : (ofForest (Forest.build m)).dependents trigger =
      (Forest.build m).idsInOrder.filter fun id =>
        (m.field? id).any (·.isTriggeredBy trigger) := by
    rw [filter_idsInOrder, ofForest, dependents_foldl hnodup (by simp [hnone]), hnone,
      List.nil_append]
  exact
    { dependents_eq := hlist
      mem_iff := fun _ => mem_dependents_build
      nodup := hlist ▸ (nodup_ids_nodesInOrder m).filter _
      isTrigger_iff := (filled_ofForest _).isTrigger_iff }

end Dependencies

end DynamicForms
