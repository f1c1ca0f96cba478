import DynamicForms.Forest.Build
import DynamicForms.Proofs.Cycles

/-!
# Breaking cycles

Of every cycle the smallest position is made a root.

* `mem_breaks` — a position is chosen exactly if it lies on a cycle and nothing smaller does on
  the same one; `nodup_breaks`: each is chosen once.
* `mem_breaks_of_sameWays` — the same, told of what the positions stand for.
* `parent?_broken` — all other positions keep their parents.
* `acyclic_broken` — no cycle is left.
-/

set_option autoImplicit false

namespace DynamicForms

namespace Parents

open Relation

variable {parents : Parents}

theorem mem_breaks_iff_min? {i : Nat} :
    i ∈ parents.breaks ↔ ∃ c ∈ parents.findCycles, c.min? = some i := by
  unfold breaks
  rw [List.mem_filterMap]

/-- **The smallest position of every cycle is chosen**, and no other one. -/
theorem mem_breaks {i : Nat} :
    i ∈ parents.breaks ↔
      Above parents.parent? i i ∧ ∀ j, Above parents.parent? i j → i ≤ j := by
  rw [mem_breaks_iff_min?]
  constructor
  · rintro ⟨c, hc, hmin⟩
    have hcycle := findCycles_isCycle hc
    obtain ⟨hi, hle⟩ := List.min?_eq_some_iff.1 hmin
    exact ⟨hcycle.above hi hi, fun j hj => hle j (hcycle.mem_of_atOrAbove hi hj.to_reflTransGen)⟩
  · rintro ⟨hloop, hle⟩
    obtain ⟨c, hc, hi⟩ := exists_mem_findCycles hloop
    have hcycle := findCycles_isCycle hc
    refine ⟨c, hc, List.min?_eq_some_iff.2 ⟨hi, fun j hj => ?_⟩⟩
    exact hle j (hcycle.above hi hj)

/-- **The positions that are chosen, by other names.** -/
theorem mem_breaks_of_sameWays {α : Type} {up : α → Option α} {R : α → Nat → Prop}
    (h : SameWays up parents.parent? R) {a : α} {i : Nat} (hR : R a i) :
    i ∈ parents.breaks ↔
      Above up a a ∧ ∀ b, Above up a b → ∃ j, R b j ∧ i ≤ j := by
  rw [mem_breaks, h.above_iff hR hR]
  refine and_congr_right fun _ => ?_
  constructor
  · intro hle b hb
    obtain ⟨j, hj, hRj⟩ := h.exists_above hR hb
    exact ⟨j, hRj, hle j hj⟩
  · intro hall j hj
    obtain ⟨b, hb, hRj⟩ := h.exists_above_back hR hj
    obtain ⟨k, hRk, hle⟩ := hall b hb
    rw [h.right_unique hRj hRk]
    exact hle

theorem nodup_breaks (parents : Parents) : parents.breaks.Nodup := by
  unfold breaks
  refine List.Pairwise.filterMap _ ?_ (disjoint_findCycles parents)
  intro c d hapart i hi j hj heq
  subst heq
  exact hapart (List.min?_eq_some_iff.1 hi).1 (List.min?_eq_some_iff.1 hj).1

theorem exists_break {i : Nat} (h : Above parents.parent? i i) :
    ∃ b ∈ parents.breaks, Above parents.parent? i b := by
  obtain ⟨c, hc, hi⟩ := exists_mem_findCycles h
  have hcycle := findCycles_isCycle hc
  obtain ⟨b, hmin⟩ := Option.isSome_iff_exists.1 (List.isSome_min?_of_ne_nil hcycle.ne_nil)
  have hb := (List.min?_eq_some_iff.1 hmin).1
  exact ⟨b, mem_breaks_iff_min?.2 ⟨c, hc, hmin⟩, hcycle.above hi hb⟩

theorem size_broken (parents : Parents) : parents.broken.size = parents.size := by
  simp [broken]

/-- **All other positions keep their parents.** -/
theorem parent?_broken (parents : Parents) (i : Nat) :
    parents.broken.parent? i = if i ∈ parents.breaks then none else parents.parent? i := by
  unfold broken parent?
  rw [Array.getElem?_mapIdx]
  simp only [List.contains_iff_mem]
  cases parents[i]? with
  | none => simp
  | some p => split <;> simp [*]

theorem parent?_of_broken {i p : Nat} (h : parents.broken.parent? i = some p) :
    parents.parent? i = some p := by
  rw [parent?_broken] at h
  split at h
  · cases h
  · exact h

theorem ext_parent? {parents parents' : Parents} (hsize : parents.size = parents'.size)
    (h : ∀ i, parents.parent? i = parents'.parent? i) : parents = parents' := by
  refine Array.ext hsize fun i hi hi' => ?_
  have heq := h i
  unfold parent? at heq
  rw [Array.getElem?_eq_getElem hi, Array.getElem?_eq_getElem hi', Option.join_some,
    Option.join_some] at heq
  exact heq

/-- **No cycle is left.** -/
theorem acyclic_broken (parents : Parents) : Acyclic parents.broken.parent? := by
  intro i hloop
  have hsub : ∀ j p, parents.broken.parent? j = some p → parents.parent? j = some p :=
    fun _ _ => parent?_of_broken
  obtain ⟨b, hb, hib⟩ := exists_break (hloop.of_sub hsub)
  -- The position chosen on the cycle has no parent any more, but lies on the cycle still.
  have hmet := atOrAbove_of_sub hsub hloop hib.to_reflTransGen
  obtain ⟨p, hp⟩ := (above_self_of_atOrAbove hloop hmet).exists_up
  rw [parent?_broken, if_pos hb] at hp
  cases hp

end Parents

end DynamicForms
