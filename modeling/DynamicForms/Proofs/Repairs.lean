import DynamicForms.Proofs.BuiltForest

/-!
# What building a forest repairs

* `sameWays_links` — following links is following parents from id to id.
* `mem_cycleBreaks`, `nodup_cycleBreaks` — of every cycle of parents the member whose kept
  declaration comes first loses its parent, and no other id does.
* `Module.cycleBreaks_eq_nil_iff` — so nothing is broken without cycles.
* `mem_duplicates`, `nodup_duplicates` — the ids that are declared more than once.
* `parent?_build_eq_some_iff`, `parent?_build_eq_none_iff` — which nodes keep the parents their
  declarations name, and which are roots.
* `RepairedOnly` — what was repaired and that nothing else was, read off the module.
* `build_repairedOnly` — it holds of the forest built from any module.
-/

set_option autoImplicit false

namespace DynamicForms

open Structure

namespace Module

variable {m : Module}

/-- The kept declaration of one id does not come after that of another. -/
def KeptBefore (m : Module) (id other : String) : Prop :=
  ∃ i j, lastIndexOf? m.ids id = some i ∧ lastIndexOf? m.ids other = some j ∧ i ≤ j

/-! ## Cycles by ids and by places -/

theorem mem_ids_of_parentOf? {id q : String} (h : m.parentOf? id = some q) : id ∈ m.ids :=
  mem_ids_of_namedParent? (parentOf?_eq_some_iff.1 h).1

theorem KeptBefore.antisymm {id other : String} (h : m.KeptBefore id other)
    (h' : m.KeptBefore other id) : id = other := by
  obtain ⟨i, j, hi, hj, hle⟩ := h
  obtain ⟨j', i', hj', hi', hle'⟩ := h'
  rw [hi, Option.some.injEq] at hi'
  rw [hj, Option.some.injEq] at hj'
  have hij : i = j := by omega
  have hid := (lastIndexOf?_eq_some_iff.1 hi).1
  rw [hij, (lastIndexOf?_eq_some_iff.1 hj).1, Option.some.injEq] at hid
  exact hid.symm

/-- The places of the kept declarations are in their order. -/
theorem keptBefore_iff {i j : Nat} {id other : String} (hi : m.keptId? i = some id)
    (hj : m.keptId? j = some other) : m.KeptBefore id other ↔ i ≤ j := by
  obtain ⟨d, hd, rfl⟩ := Option.map_eq_some_iff.1 hi
  obtain ⟨e, he, rfl⟩ := Option.map_eq_some_iff.1 hj
  obtain ⟨hilt, hdi⟩ := List.getElem?_eq_some_iff.1 hd
  obtain ⟨hjlt, hej⟩ := List.getElem?_eq_some_iff.1 he
  have hpos := List.pairwise_iff_getElem.1 m.pairwise_kept
  have hdpos := (mem_kept.1 (List.mem_of_getElem? hd)).2
  have hepos := (mem_kept.1 (List.mem_of_getElem? he)).2
  constructor
  · rintro ⟨a, b, ha, hb, hab⟩
    rw [hdpos, Option.some.injEq] at ha
    rw [hepos, Option.some.injEq] at hb
    by_contra hlt
    have hback := hpos j i hjlt hilt (by omega)
    rw [hdi, hej] at hback
    omega
  · intro hle
    refine ⟨d.2, e.2, hdpos, hepos, ?_⟩
    rcases Nat.lt_or_eq_of_le hle with hlt | rfl
    · have hup := hpos i j hilt hjlt hlt
      rw [hdi, hej] at hup
      omega
    · rw [← hdi, ← hej]

theorem keptBefore_iff_exists {i : Nat} {id other : String} (hi : m.keptId? i = some id) :
    m.KeptBefore id other ↔ ∃ j, m.keptId? j = some other ∧ i ≤ j := by
  constructor
  · intro h
    have hmem : other ∈ m.ids := by
      obtain ⟨_, _, _, hj, _⟩ := h
      exact mem_of_lastIndexOf? hj
    obtain ⟨j, hkept⟩ := exists_keptId? hmem
    exact ⟨j, hkept, (keptBefore_iff hi hkept).1 h⟩
  · rintro ⟨j, hkept, hle⟩
    exact (keptBefore_iff hi hkept).2 hle

/-- **The links are the parents of the ids**, by places instead of ids. -/
theorem sameWays_links (m : Module) :
    SameWays m.parentOf? m.links.parent? fun id i => m.keptId? i = some id where
  right_unique := fun hi hj => keptId?_inj hi hj
  left_unique := by
    intro id other i hi hi'
    rw [hi, Option.some.injEq] at hi'
    exact hi'
  forth := by
    intro id i q hi hq
    obtain ⟨_, hmem⟩ := parentOf?_eq_some_iff.1 hq
    obtain ⟨p, hp⟩ := exists_keptId? hmem
    exact ⟨p, parent?_links.2 ⟨id, q, hi, hq, hp⟩, hp⟩
  back := by
    intro id i p hi hp
    obtain ⟨id', q, hi', hq, hkept⟩ := parent?_links.1 hp
    rw [hi, Option.some.injEq] at hi'
    exact ⟨q, hi' ▸ hq, hkept⟩

end Module

/-! ## The members that lose their parents -/

section Breaks

variable {m : Module}

theorem cycleBreaks_build (m : Module) :
    (Forest.build m).diagnostics.cycleBreaks = m.links.breaks.filterMap m.keptId? := by
  refine List.filterMap_congr fun i _ => ?_
  rw [List.getElem?_toArray]
  rfl

theorem mem_cycleBreaks_iff_place {i : Nat} {id : String} (hi : m.keptId? i = some id) :
    id ∈ (Forest.build m).diagnostics.cycleBreaks ↔ i ∈ m.links.breaks := by
  rw [cycleBreaks_build, List.mem_filterMap]
  constructor
  · rintro ⟨j, hj, hkept⟩
    exact Module.keptId?_inj hkept hi ▸ hj
  · intro h
    exact ⟨i, h, hi⟩

/-- **The member of a cycle that is kept first loses its parent**, and no other id does. -/
theorem mem_cycleBreaks {id : String} :
    id ∈ (Forest.build m).diagnostics.cycleBreaks ↔
      Above m.parentOf? id id ∧ ∀ other, Above m.parentOf? id other → m.KeptBefore id other := by
  by_cases hid : id ∈ m.ids
  · obtain ⟨i, hi⟩ := Module.exists_keptId? hid
    rw [mem_cycleBreaks_iff_place hi, Parents.mem_breaks_of_sameWays m.sameWays_links hi]
    simp only [Module.keptBefore_iff_exists hi]
  · constructor
    · rw [cycleBreaks_build, List.mem_filterMap]
      rintro ⟨i, _, hi⟩
      exact absurd (Module.mem_ids_of_keptId? hi) hid
    · rintro ⟨hloop, _⟩
      obtain ⟨q, hq⟩ := hloop.exists_up
      exact absurd (Module.mem_ids_of_parentOf? hq) hid

theorem nodup_cycleBreaks (m : Module) : (Forest.build m).diagnostics.cycleBreaks.Nodup := by
  rw [cycleBreaks_build]
  exact (Parents.nodup_breaks m.links).filterMap fun _ _ _ hi hj => Module.keptId?_inj hi hj

theorem existsUnique_cycleBreak {id : String} (h : Above m.parentOf? id id) :
    ∃! b, b ∈ (Forest.build m).diagnostics.cycleBreaks ∧ Above m.parentOf? id b := by
  obtain ⟨q, hq⟩ := h.exists_up
  obtain ⟨i, hi⟩ := Module.exists_keptId? (Module.mem_ids_of_parentOf? hq)
  obtain ⟨j, hj, hij⟩ := Parents.exists_break ((m.sameWays_links.above_iff hi hi).1 h)
  obtain ⟨b, hb, hkept⟩ := m.sameWays_links.exists_above_back hi hij
  have hbreak := (mem_cycleBreaks_iff_place hkept).2 hj
  refine ⟨b, ⟨hbreak, hb⟩, ?_⟩
  rintro c ⟨hc, hic⟩
  -- Both lie on the cycle, so each is above the other and neither is kept later.
  have hbc : Above m.parentOf? b c :=
    Relation.TransGen.trans_right (above_back h hb.to_reflTransGen) hic
  have hcb : Above m.parentOf? c b :=
    Relation.TransGen.trans_right (above_back h hic.to_reflTransGen) hb
  exact ((mem_cycleBreaks.1 hc).2 b hcb).antisymm ((mem_cycleBreaks.1 hbreak).2 c hbc)

theorem Module.cycleBreaks_eq_nil_iff :
    (Forest.build m).diagnostics.cycleBreaks = [] ↔ Acyclic m.parentOf? := by
  rw [List.eq_nil_iff_forall_not_mem]
  constructor
  · intro hnone id hloop
    obtain ⟨b, ⟨hb, _⟩, _⟩ := existsUnique_cycleBreak hloop
    exact hnone b hb
  · intro hm id hid
    exact hm id (mem_cycleBreaks.1 hid).1

end Breaks

/-! ## Ids that are declared more than once -/

theorem mem_repeatedAfter {id : String} (ids : List String) :
    ∀ before : List String, id ∈ repeatedAfter before ids ↔
      before.count id ≤ 1 ∧ 2 ≤ before.count id + ids.count id := by
  induction ids with
  | nil =>
    intro before
    rw [repeatedAfter, List.count_nil]
    constructor
    · intro h
      cases h
    · intro h
      omega
  | cons x ids ih =>
    intro before
    have hcount := List.count_cons (a := id) (b := x) (l := before)
    have hcount' := List.count_cons (a := id) (b := x) (l := ids)
    by_cases hx : x = id
    · subst hx
      rw [beq_self_eq_true, if_pos rfl] at hcount hcount'
      unfold repeatedAfter
      split
      · rename_i hone
        simp only [List.mem_cons, true_or, true_iff]
        omega
      · rename_i hone
        rw [ih, hcount, hcount']
        omega
    · have hne : (x == id) = false := by simp [hx]
      rw [hne, if_neg Bool.false_ne_true, Nat.add_zero] at hcount hcount'
      unfold repeatedAfter
      split
      · rw [List.mem_cons, ih, hcount, hcount']
        simp only [Ne.symm hx, false_or]
      · rw [ih, hcount, hcount']

theorem nodup_repeatedAfter (ids : List String) :
    ∀ before : List String, (repeatedAfter before ids).Nodup := by
  induction ids with
  | nil => exact fun _ => List.nodup_nil
  | cons x ids ih =>
    intro before
    unfold repeatedAfter
    split
    · rename_i hone
      refine List.nodup_cons.2 ⟨?_, ih _⟩
      rw [mem_repeatedAfter, List.count_cons_self, hone]
      omega
    · exact ih _

theorem mem_duplicates {m : Module} {id : String} :
    id ∈ m.duplicates ↔ 2 ≤ m.ids.count id := by
  unfold Module.duplicates
  rw [mem_repeatedAfter, List.count_nil, Nat.zero_add]
  exact ⟨fun h => h.2, fun h => ⟨Nat.zero_le 1, h⟩⟩

theorem nodup_duplicates (m : Module) : m.duplicates.Nodup := nodup_repeatedAfter _ _

theorem duplicates_eq_nil_iff {m : Module} : m.duplicates = [] ↔ m.ids.Nodup := by
  rw [List.eq_nil_iff_forall_not_mem, List.nodup_iff_count_le_one]
  refine forall_congr' fun id => ?_
  rw [mem_duplicates]
  omega

/-! ## Parents of nodes -/

section Parents

variable {m : Module} {i : Nat} {id : String}

/-- **A node has the parent its declaration names**, unless a cycle was broken there. -/
theorem parent?_build_eq_some_iff (hi : m.keptId? i = some id) {p : Nat} :
    (Forest.build m).parent? i = some p ↔
      id ∉ (Forest.build m).diagnostics.cycleBreaks ∧
        ∃ q, m.parentOf? id = some q ∧ m.keptId? p = some q := by
  rw [parent?_build, mem_cycleBreaks_iff_place hi, Module.tree, Parents.parent?_broken]
  split
  · rename_i hbreak
    simp [hbreak]
  · rename_i hbreak
    rw [Module.parent?_links]
    constructor
    · rintro ⟨id', q, hi', hq, hp⟩
      rw [hi, Option.some.injEq] at hi'
      exact ⟨hbreak, q, hi' ▸ hq, hp⟩
    · rintro ⟨_, q, hq, hp⟩
      exact ⟨id, q, hi, hq, hp⟩

theorem parent?_build_eq_none_iff (hi : m.keptId? i = some id) :
    (Forest.build m).parent? i = none ↔
      id ∈ (Forest.build m).diagnostics.cycleBreaks ∨ m.parentOf? id = none := by
  rw [Option.eq_none_iff_forall_ne_some, Option.eq_none_iff_forall_ne_some]
  constructor
  · intro hnone
    by_contra hnot
    push Not at hnot
    obtain ⟨hbreak, q, hq⟩ := hnot
    obtain ⟨p, _, hp⟩ := m.sameWays_links.forth hi hq
    exact hnone p ((parent?_build_eq_some_iff hi).2 ⟨hbreak, q, hq, hp⟩)
  · intro h p hp
    obtain ⟨hbreak, q, hq, _⟩ := (parent?_build_eq_some_iff hi).1 hp
    rcases h with hmem | hnone
    · exact hbreak hmem
    · exact hnone q hq

end Parents

/-! ## Main theorem -/

/-- What a forest of a module repairs, and that it repairs nothing else.  The declarations that
count are the last ones of their ids, and parents are resolved to these. -/
structure RepairedOnly (m : Module) (forest : Forest) : Prop where
  /-- The nodes are the last declarations of all ids, in the order of declaration. -/
  nodes_eq : forest.nodes.toList.map (fun node => (node.field, node.position)) =
    m.fields.zipIdx.filter fun d => lastIndexOf? m.ids d.1.id == some d.2
  /-- A node has the parent its declaration names, unless a cycle was broken there. -/
  parent_iff : ∀ i p id, forest.idAt? i = some id →
    (forest.parent? i = some p ↔
      id ∉ forest.diagnostics.cycleBreaks ∧
        ∃ q, m.parentOf? id = some q ∧ forest.idAt? p = some q)
  /-- It is a root if it names no parent that is declared or if a cycle was broken there. -/
  root_iff : ∀ i id, forest.idAt? i = some id →
    (forest.parent? i = none ↔
      id ∈ forest.diagnostics.cycleBreaks ∨ m.parentOf? id = none)
  /-- Cycles are broken at the member that is kept first, and nowhere else. -/
  mem_cycleBreaks_iff : ∀ id, id ∈ forest.diagnostics.cycleBreaks ↔
    Above m.parentOf? id id ∧ ∀ other, Above m.parentOf? id other → m.KeptBefore id other
  nodup_cycleBreaks : forest.diagnostics.cycleBreaks.Nodup
  /-- Every cycle is broken exactly once. -/
  existsUnique_break : ∀ id, Above m.parentOf? id id →
    ∃! b, b ∈ forest.diagnostics.cycleBreaks ∧ Above m.parentOf? id b
  /-- Orphans are the kept declarations whose parent is not declared, in their order. -/
  orphans_eq : forest.diagnostics.orphans =
    ((m.fields.zipIdx.filter fun d => lastIndexOf? m.ids d.1.id == some d.2).filter
      fun d => d.1.parent.any fun p => !m.contains p).map (·.1.id)
  mem_duplicates_iff : ∀ id, id ∈ forest.diagnostics.duplicates ↔ 2 ≤ m.ids.count id
  nodup_duplicates : forest.diagnostics.duplicates.Nodup

theorem declarations_build (m : Module) :
    (Forest.build m).nodes.toList.map (fun node => (node.field, node.position)) = m.kept := by
  have h := congrArg (fun nodes => nodes.toList.map fun node => (node.field, node.position))
    (links_build m)
  simp only [Array.toList_map, List.map_map] at h
  refine Eq.trans h ?_
  unfold Module.linkedNodes linkedNodes
  rw [Array.toList_mapIdx, List.mapIdx_eq_zipIdx_map, List.map_map]
  exact List.zipIdx_map_fst 0 m.kept

theorem orphans_build (m : Module) :
    (Forest.build m).diagnostics.orphans =
      (m.kept.filter fun d => d.1.parent.any fun p => !m.contains p).map (·.1.id) := by
  have hcontains : m.lookup.contains = m.contains := funext fun _ => Module.contains_lookup
  rw [← hcontains]
  rfl

/-- **Building repairs what it must and nothing else.** -/
theorem build_repairedOnly (m : Module) : RepairedOnly m (Forest.build m) where
  nodes_eq := by
    rw [declarations_build, Module.kept_eq_filter]
  parent_iff := by
    intro i p id hi
    rw [idAt?_build] at hi ⊢
    exact parent?_build_eq_some_iff hi
  root_iff := by
    intro i id hi
    rw [idAt?_build] at hi
    exact parent?_build_eq_none_iff hi
  mem_cycleBreaks_iff := fun _ => mem_cycleBreaks
  nodup_cycleBreaks := nodup_cycleBreaks m
  existsUnique_break := fun _ => existsUnique_cycleBreak
  orphans_eq := by
    rw [orphans_build, Module.kept_eq_filter]
  mem_duplicates_iff := fun _ => mem_duplicates
  nodup_duplicates := nodup_duplicates m

end DynamicForms
