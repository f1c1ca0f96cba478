import DynamicForms.Proofs.Reevaluation

/-!
# What the cascade hides and disables

Taking the states of parents over to their children in one pass hides and disables exactly what
stands below a hidden or disabled field.

* `walk_parentsFirst`, `parent_mem_before` — in the order of display parents come before their
  children.
* `States.spread`, `on_cascade` — the cascade on one axis; the other axis has no part in it.
* `get?_foldl_inheritOn`, `get?_spread_of_notMem` — a pass leaves alone what it does not come by, so
  that a state is final when the turn of its node is over.
* `get?_spread_top`, `get?_spread_child` — roots keep their states, and the others take over the
  final states of their parents.
* `get?_spread_eq_true_iff` — a state is true in the end if it was, and all above it were.
* `spread_spread` — a second pass changes nothing.
* `States.CascadesIn`, `cascadesIn_evaluate` — what the cascade makes of the states of any module.
-/

set_option autoImplicit false

namespace DynamicForms

/-! ## Parents come first -/

namespace Forest

variable {forest : Forest}
  (hl : Linked forest.size forest.parent? forest.children forest.roots)

include hl

/-- **On a walk parents come before their children.** -/
theorem walk_parentsFirst : ∀ (fuel : Nat) (visited stack : List Nat),
    Traversal forest.size forest.parent? visited stack →
    ∀ before i after p, forest.walk fuel stack = before ++ i :: after →
      forest.parent? i = some p → p ∈ visited ++ before := by
  intro fuel
  induction fuel with
  | zero =>
    intro visited stack _ before i after p hwalk
    unfold walk at hwalk
    simp at hwalk
  | succ fuel ih =>
    intro visited stack h before i after p hwalk hp
    cases stack with
    | nil =>
      unfold walk at hwalk
      simp at hwalk
    | cons j stack =>
      unfold walk at hwalk
      cases before with
      | nil =>
        obtain ⟨rfl, _⟩ := List.cons.inj hwalk
        rw [List.append_nil]
        exact h.above (List.mem_append_right _ (List.mem_cons_self ..)) hp
      | cons k before =>
        obtain ⟨rfl, hrest⟩ := List.cons.inj hwalk
        have hmem := ih (visited ++ [j]) (forest.children j ++ stack)
          (h.step hl (List.Perm.refl _)) before i after p hrest hp
        rwa [List.append_assoc, List.singleton_append] at hmem

/-- **In the order of display parents come before their children.** -/
theorem parent_mem_before {before after : List Node} {node : Node} {parent : String}
    (horder : forest.nodesInOrder = before ++ node :: after)
    (hparent : node.parent.bind forest.idAt? = some parent) :
    parent ∈ before.map (·.field.id) := by
  unfold nodesInOrder at horder
  obtain ⟨first, rest, hplaces, hfirst, hrest⟩ := List.filterMap_eq_append_iff.1 horder
  obtain ⟨skipped, i, last, hrest, hskipped, hnode, _⟩ := List.filterMap_eq_cons_iff.1 hrest
  obtain ⟨p, hp, hid⟩ := Option.bind_eq_some_iff.1 hparent
  obtain ⟨above, habove, rfl⟩ := Option.map_eq_some_iff.1 hid
  have hup : forest.parent? i = some p := (parent?_of_node hnode).trans hp
  have hmem : p ∈ first ++ skipped := by
    refine walk_parentsFirst hl forest.size [] forest.roots (.start hl (List.Perm.refl _))
      (first ++ skipped) i last p ?_ hup
    unfold depthFirst at hplaces
    rw [hplaces, hrest, List.append_assoc]
  rcases List.mem_append.1 hmem with hmem | hmem
  · rw [← hfirst]
    exact List.mem_map_of_mem (List.mem_filterMap.2 ⟨p, hmem, habove⟩)
  · rw [hskipped p hmem] at habove
    cases habove

end Forest

/-! ## One axis -/

namespace States

/-- The states on one axis when all nodes take over those of their parents, in the order of
display. -/
def spread (forest : Forest) (states : Dictionary Bool) : Dictionary Bool :=
  forest.nodesInOrder.foldl (inheritOn forest) states

/-- **The cascade goes on each axis alone.** -/
theorem on_cascade (forest : Forest) (states : States) (axis : Axis) :
    (states.cascade forest).on axis = spread forest (states.on axis) := by
  unfold cascade spread
  generalize forest.nodesInOrder = nodes
  induction nodes generalizing states with
  | nil => rfl
  | cons node nodes ih => rw [List.foldl_cons, List.foldl_cons, ih, on_inherit]

variable {forest : Forest} {key : String}

theorem get?_foldl_inheritOn {nodes : List Node} (hkey : key ∉ nodes.map (·.field.id)) :
    ∀ states : Dictionary Bool,
      (nodes.foldl (inheritOn forest) states).get? key = states.get? key := by
  induction nodes with
  | nil => exact fun _ => rfl
  | cons node nodes ih =>
    intro states
    rw [List.map_cons, List.mem_cons, not_or] at hkey
    rw [List.foldl_cons, ih hkey.2, get?_inheritOn]
    cases node.parent.bind forest.idAt? with
    | none => rfl
    | some parent => simp [hkey.1]

theorem keys_inheritOn (states : Dictionary Bool) (node : Node) :
    (inheritOn forest states node).keys = states.keys := by
  unfold inheritOn
  cases node.parent.bind forest.idAt? with
  | none => rfl
  | some parent => simp [restrict, Dictionary.keys, Dictionary.mapValues, Function.comp_def]

/-- **No field comes or goes.** -/
theorem keys_spread (forest : Forest) (states : Dictionary Bool) :
    (spread forest states).keys = states.keys := by
  unfold spread
  generalize forest.nodesInOrder = nodes
  induction nodes generalizing states with
  | nil => rfl
  | cons node nodes ih => rw [List.foldl_cons, ih, keys_inheritOn]

theorem get?_inheritOn_false {states : Dictionary Bool} {node : Node}
    (h : states.get? key = some false) :
    (inheritOn forest states node).get? key = some false := by
  rw [get?_inheritOn]
  cases node.parent.bind forest.idAt? <;> simp [h]

/-- **No field comes to be shown or enabled.** -/
theorem get?_spread_false {states : Dictionary Bool} (h : states.get? key = some false) :
    (spread forest states).get? key = some false := by
  unfold spread
  generalize forest.nodesInOrder = nodes
  induction nodes generalizing states with
  | nil => exact h
  | cons node nodes ih => exact ih (get?_inheritOn_false h)

theorem get?_spread_of_notMem {before after : List Node} {node : Node}
    (horder : forest.nodesInOrder = before ++ node :: after)
    (hkey : key ∉ after.map (·.field.id)) (states : Dictionary Bool) :
    (spread forest states).get? key =
      (inheritOn forest (before.foldl (inheritOn forest) states) node).get? key := by
  unfold spread
  rw [horder, List.foldl_append, List.foldl_cons, get?_foldl_inheritOn hkey]

/-! ## Roots and children -/

section Build

variable {m : Module} {states : Dictionary Bool} {i p : Nat} {id parent : String}

theorem notMem_of_nodesInOrder {before after : List Node} {node : Node}
    (horder : (Forest.build m).nodesInOrder = before ++ node :: after) :
    node.field.id ∉ before.map (·.field.id) ∧ node.field.id ∉ after.map (·.field.id) ∧
      ∀ id ∈ before.map (·.field.id), id ∉ after.map (·.field.id) := by
  have hnodup := nodup_ids_nodesInOrder m
  rw [horder, List.map_append, List.map_cons, List.nodup_middle, List.nodup_cons,
    List.mem_append, not_or] at hnodup
  obtain ⟨⟨hbefore, hafter⟩, hrest⟩ := hnodup
  exact ⟨hbefore, hafter, fun id hid hlater => (List.nodup_append.1 hrest).2.2 id hid id hlater rfl⟩

/-- **What becomes of the state of a node**: a root keeps it, and any other node takes over the
final one of its parent. -/
theorem get?_spread {node : Node} (hnode : node ∈ (Forest.build m).nodesInOrder) :
    (spread (Forest.build m) states).get? node.field.id =
      match node.parent.bind (Forest.build m).idAt? with
      | none => states.get? node.field.id
      | some parent => (states.get? node.field.id).map
          (· && allows (spread (Forest.build m) states) parent) := by
  obtain ⟨before, after, horder⟩ := List.append_of_mem hnode
  obtain ⟨hbefore, hafter, hlater⟩ := notMem_of_nodesInOrder horder
  rw [get?_spread_of_notMem horder hafter, get?_inheritOn, get?_foldl_inheritOn hbefore]
  cases hparent : node.parent.bind (Forest.build m).idAt? with
  | none => rfl
  | some parent =>
    -- The parent came before, so that its state is final when the node takes it over.
    have hmem := Forest.parent_mem_before (linked_build m) horder hparent
    have hother : parent ≠ node.field.id := fun h => hbefore (h ▸ hmem)
    have hallows : allows (spread (Forest.build m) states) parent =
        allows (before.foldl (inheritOn (Forest.build m)) states) parent := by
      unfold allows
      rw [get?_spread_of_notMem horder (hlater parent hmem), get?_inheritOn, hparent]
      simp [hother]
    simp [hallows]

theorem get?_spread_at (hi : (Forest.build m).idAt? i = some id) :
    (spread (Forest.build m) states).get? id =
      match ((Forest.build m).parent? i).bind (Forest.build m).idAt? with
      | none => states.get? id
      | some parent => (states.get? id).map
          (· && allows (spread (Forest.build m) states) parent) := by
  obtain ⟨node, hnode, rfl⟩ := Option.map_eq_some_iff.1 hi
  rw [Forest.parent?_of_node hnode]
  exact get?_spread (Forest.mem_nodesInOrder (linked_build m) hnode)

/-- **Roots keep their states.** -/
theorem get?_spread_top (hi : (Forest.build m).idAt? i = some id)
    (htop : (Forest.build m).parent? i = none) :
    (spread (Forest.build m) states).get? id = states.get? id := by
  rw [get?_spread_at hi, htop, Option.bind_none]

/-- **The others take over the final states of their parents.** -/
theorem get?_spread_child (hi : (Forest.build m).idAt? i = some id)
    (hp : (Forest.build m).parent? i = some p) (hpid : (Forest.build m).idAt? p = some parent) :
    (spread (Forest.build m) states).get? id =
      (states.get? id).map (· && allows (spread (Forest.build m) states) parent) := by
  rw [get?_spread_at hi, hp, Option.bind_some, hpid]

theorem allows_iff (hknown : id ∈ states.keys) :
    allows states id = true ↔ states.get? id = some true := by
  obtain ⟨state, hstate⟩ := Dictionary.mem_keys_iff.1 hknown
  simp [allows, hstate]

/-- **A state is true in the end** if it was true, and with it all states above it. -/
theorem get?_spread_eq_true_iff (hknown : ∀ id ∈ m.ids, id ∈ states.keys) {above : List Nat}
    (habove : Ascends (Forest.build m).parent? i above) :
    ∀ id, (Forest.build m).idAt? i = some id →
      ((spread (Forest.build m) states).get? id = some true ↔
        ∀ j ∈ i :: above, ∀ other, (Forest.build m).idAt? j = some other →
          states.get? other = some true) := by
  induction habove with
  | top htop =>
    intro id hi
    rw [get?_spread_top hi htop]
    simp [hi]
  | @step i p above hp _ ih =>
    intro id hi
    obtain ⟨parent, hpid⟩ := exists_idAt?_parent hp
    have hparent : parent ∈ (spread (Forest.build m) states).keys := by
      rw [keys_spread]
      exact hknown parent (Module.mem_ids_of_keptId? (idAt?_build m ▸ hpid))
    rw [List.forall_mem_cons, ← ih parent hpid, ← allows_iff hparent, get?_spread_child hi hp hpid]
    simp [hi, Option.map_eq_some_iff]

/-- **Passing twice is passing once.** -/
theorem spread_spread (m : Module) (states : Dictionary Bool) :
    spread (Forest.build m) (spread (Forest.build m) states) = spread (Forest.build m) states := by
  have hplaces : ∀ i above, Ascends (Forest.build m).parent? i above →
      ∀ id, (Forest.build m).idAt? i = some id →
        (spread (Forest.build m) (spread (Forest.build m) states)).get? id =
          (spread (Forest.build m) states).get? id := by
    intro i above habove
    induction habove with
    | top htop => exact fun id hi => get?_spread_top hi htop
    | step hp _ ih =>
      intro id hi
      obtain ⟨parent, hpid⟩ := exists_idAt?_parent hp
      -- The parent keeps its state, so that it is taken over a second time.
      have hallows : allows (spread (Forest.build m) (spread (Forest.build m) states)) parent =
          allows (spread (Forest.build m) states) parent := by
        unfold allows
        rw [ih parent hpid]
      rw [get?_spread_child hi hp hpid, hallows, get?_spread_child hi hp hpid, Option.map_map]
      exact congrArg (Option.map · _) (funext fun state => by simp)
  refine Dictionary.ext_get? fun id => ?_
  by_cases hid : id ∈ m.ids
  · obtain ⟨i, hi⟩ := Module.exists_keptId? hid
    rw [← idAt?_build] at hi
    exact hplaces i _ (Forest.ancestors_spec (linked_build m) i) id hi
  · rw [← mem_ids_nodesInOrder] at hid
    exact get?_foldl_inheritOn hid _

end Build

end States

/-! ## Main theorem -/

/-- What the cascade has to make of the states of a module: what stands below a hidden field is
hidden, what stands below a disabled field is disabled, and nothing else changes. -/
structure States.CascadesIn (m : Module) (s : States) : Prop where
  /-- A field is shown in the end if it was shown, and with it all fields above it. -/
  true_iff : ∀ axis i id, (Forest.build m).idAt? i = some id →
    (((s.cascade (Forest.build m)).on axis).get? id = some true ↔
      ∀ j, AtOrAbove (Forest.build m).parent? i j → ∀ other,
        (Forest.build m).idAt? j = some other → (s.on axis).get? other = some true)
  keys_eq : ∀ axis, ((s.cascade (Forest.build m)).on axis).keys = (s.on axis).keys
  root_eq : ∀ axis i id, (Forest.build m).idAt? i = some id →
    (Forest.build m).parent? i = none →
    ((s.cascade (Forest.build m)).on axis).get? id = (s.on axis).get? id
  /-- Nothing comes to be shown. -/
  false_of_false : ∀ axis id, (s.on axis).get? id = some false →
    ((s.cascade (Forest.build m)).on axis).get? id = some false
  /-- Where two states agree on one axis, so they do in the end, whatever the other axis says. -/
  on_congr : ∀ axis other, (other : States).on axis = s.on axis →
    (other.cascade (Forest.build m)).on axis = (s.cascade (Forest.build m)).on axis
  /-- The cascade is complete after one pass. -/
  again : (s.cascade (Forest.build m)).cascade (Forest.build m) = s.cascade (Forest.build m)

theorem States.cascadesIn {m : Module} {s : States}
    (hknown : ∀ axis, ∀ id ∈ m.ids, id ∈ (s.on axis).keys) : s.CascadesIn m where
  true_iff := by
    intro axis i id hi
    have habove := Forest.ancestors_spec (linked_build m) i
    rw [on_cascade, get?_spread_eq_true_iff (hknown axis) habove id hi]
    simp only [List.mem_cons, habove.mem_iff, AtOrAbove,
      Relation.reflTransGen_iff_eq_or_transGen]
  keys_eq := by
    intro axis
    rw [on_cascade, keys_spread]
  root_eq := by
    intro axis i id hi htop
    rw [on_cascade, get?_spread_top hi htop]
  false_of_false := by
    intro axis id hfalse
    rw [on_cascade]
    exact get?_spread_false hfalse
  on_congr := by
    intro axis other heq
    rw [on_cascade, on_cascade, heq]
  again := ext_on fun axis => by rw [on_cascade, on_cascade, spread_spread]

/-- **The states of any module are known for exactly its ids, and cascade** down the trees that are
built from it, however broken its hierarchy is. -/
theorem cascadesIn_evaluate (m : Module) (form : Form) :
    (∀ axis, ((States.evaluate (Forest.build m) form).on axis).keys.Nodup ∧
      ∀ id, id ∈ ((States.evaluate (Forest.build m) form).on axis).keys ↔ id ∈ m.ids) ∧
    (States.evaluate (Forest.build m) form).CascadesIn m := by
  have hkeys : ∀ axis id,
      id ∈ ((States.evaluate (Forest.build m) form).on axis).keys ↔ id ∈ m.ids := by
    intro axis id
    rw [Dictionary.mem_keys_iff, ← Option.isSome_iff_exists, States.get?_on_evaluate,
      Option.isSome_map, Module.isSome_field?_iff]
  exact ⟨fun axis => ⟨Dictionary.nodup_keys _, hkeys axis⟩,
    States.cascadesIn fun axis id => (hkeys axis id).2⟩

end DynamicForms
