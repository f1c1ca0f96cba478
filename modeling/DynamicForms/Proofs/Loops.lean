import DynamicForms.Proofs.Breaks

/-!
# Dropping loops

A loop is a position that is its own parent.  With all loops dropped the same walks are made, and
they tell the same cycles but for the loops.

* `follow_dropLoops` — one walk, by induction over its steps; `findCycles_dropLoops`: all walks.
* `breaks_dropLoops` — the positions that are made roots stay the same and keep their order, but
  for the loops.
* `broken_dropLoops` — once all cycles are broken nothing is different any more.
-/

set_option autoImplicit false

namespace DynamicForms

namespace Parents

variable {parents : Parents}

/-- The parents with every loop made a root. -/
def dropLoops (parents : Parents) : Parents := parents.mapIdx fun i p => p.filter (· ≠ i)

@[simp]
theorem size_dropLoops (parents : Parents) : parents.dropLoops.size = parents.size := by
  simp [dropLoops]

theorem parent?_dropLoops (parents : Parents) :
    parents.dropLoops.parent? = withoutLoops parents.parent? := by
  funext i
  unfold dropLoops withoutLoops parent?
  rw [Array.getElem?_mapIdx]
  cases parents[i]? with
  | none => simp
  | some p => simp

/-! ## Walks -/

theorem one_lt_length_dropWhile {trail : List Nat} {i : Nat} (hhead : trail.head? ≠ some i)
    (hi : i ∈ trail) : 1 < (trail.reverse.dropWhile fun j => j != i).length := by
  cases trail with
  | nil => cases hi
  | cons j trail =>
    have hne : j ≠ i := by simpa using hhead
    have hmem : i ∈ trail := (List.mem_cons.1 hi).resolve_left (Ne.symm hne)
    have hrest : trail.reverse.dropWhile (fun j => j != i) ≠ [] := by
      obtain ⟨rest, heq⟩ := exists_dropWhile_eq (List.mem_reverse.2 hmem)
      exact heq ▸ List.cons_ne_nil i rest
    have hpos := List.length_pos_iff.2 hrest
    rw [List.reverse_cons, List.dropWhile_append, if_neg (by simpa using hrest),
      List.length_append, List.length_singleton]
    omega

theorem follow_loop (parents : Parents) {done trail : List Nat} {i : Nat} (hdone : i ∉ done)
    (htrail : i ∉ trail) (fuel : Nat) :
    ∃ cycle, parents.follow done fuel (i :: trail) i = (i :: trail, cycle) ∧
      (cycle.filter fun c => 1 < c.length) = none := by
  cases fuel with
  | zero => exact ⟨none, rfl, rfl⟩
  | succ fuel =>
    have hcycle : (i :: trail).reverse.dropWhile (fun j => j != i) = [i] := by
      have hrest : trail.reverse.dropWhile (fun j => j != i) = [] := by
        rw [List.dropWhile_eq_nil_iff]
        intro j hj
        have hne : j ≠ i := fun heq => htrail (heq ▸ List.mem_reverse.1 hj)
        simpa using hne
      simp [List.dropWhile_append, hrest]
    refine ⟨some [i], ?_, rfl⟩
    unfold follow
    rw [if_neg (by simpa using hdone), if_pos (by simp), hcycle]

/-- **A walk without the loops** passes the same positions, and tells the same cycle if that is no
loop. -/
theorem follow_dropLoops (parents : Parents) (done : List Nat) :
    ∀ (fuel : Nat) (trail : List Nat) (i : Nat), trail.head? ≠ some i →
      parents.dropLoops.follow done fuel trail i =
        ((parents.follow done fuel trail i).1,
          (parents.follow done fuel trail i).2.filter fun c => 1 < c.length) := by
  intro fuel
  induction fuel with
  | zero => exact fun _ _ _ => rfl
  | succ fuel ih =>
    intro trail i hhead
    unfold follow
    split
    · rfl
    · rename_i hdone
      rw [List.contains_iff_mem] at hdone
      split
      · rename_i htrail
        have hlen := one_lt_length_dropWhile hhead (by simpa using htrail)
        rw [Option.filter_some, if_pos (by simpa using hlen)]
      · rename_i htrail
        rw [List.contains_iff_mem] at htrail
        rw [parent?_dropLoops, withoutLoops]
        cases hp : parents.parent? i with
        | none => rfl
        | some p =>
          rw [Option.filter_some]
          by_cases hloop : p = i
          · subst hloop
            obtain ⟨cycle, hfollow, hfilter⟩ := follow_loop parents hdone htrail fuel
            rw [if_neg (by simp)]
            simp only [hfollow, hfilter]
          · rw [if_pos (by simpa using hloop)]
            refine ih (i :: trail) p ?_
            rw [List.head?_cons, ne_eq, Option.some.injEq]
            exact Ne.symm hloop

theorem cyclesFrom_dropLoops (parents : Parents) (starts : List Nat) :
    ∀ done : List Nat, parents.dropLoops.cyclesFrom starts done =
      (parents.cyclesFrom starts done).filter fun c => 1 < c.length := by
  induction starts with
  | nil => exact fun _ => rfl
  | cons start starts ih =>
    intro done
    unfold cyclesFrom
    rw [size_dropLoops, follow_dropLoops parents done _ [] start (by simp)]
    simp only [ih, List.filter_append, Option.toList_filter]

theorem findCycles_dropLoops (parents : Parents) :
    parents.dropLoops.findCycles = parents.findCycles.filter fun c => 1 < c.length := by
  unfold findCycles
  rw [size_dropLoops, cyclesFrom_dropLoops]

/-! ## Breaks -/

theorem IsCycle.one_lt_length_iff {cycle : List Nat} (h : IsCycle parents cycle) {i : Nat}
    (hi : i ∈ cycle) : 1 < cycle.length ↔ parents.parent? i ≠ some i := by
  constructor
  · intro hlen hself
    have hsub : cycle ⊆ [i] := by
      intro j hj
      have heq := eq_of_atOrAbove_loop hself (h.above hi hj).to_reflTransGen
      exact List.mem_singleton.2 heq
    have hle := h.nodup.length_le_of_subset hsub
    rw [List.length_singleton] at hle
    omega
  · intro hself
    by_contra hlen
    obtain ⟨a, l, rfl, hchain⟩ := h.exists_eq_cons
    rw [List.length_cons] at hlen
    have hnil : l = [] := List.length_eq_zero_iff.1 (by omega)
    subst hnil
    rw [List.mem_singleton.1 hi] at hself
    exact hself (List.isChain_cons_cons.1 hchain).1

theorem mem_breaks_of_loop {i : Nat} (h : parents.parent? i = some i) : i ∈ parents.breaks := by
  refine mem_breaks.2 ⟨.single h, fun j hj => ?_⟩
  rw [eq_of_atOrAbove_loop h hj.to_reflTransGen]

/-- **Without the loops the same positions are made roots**, in the same order. -/
theorem breaks_dropLoops (parents : Parents) :
    parents.dropLoops.breaks = parents.breaks.filter fun i => parents.parent? i ≠ some i := by
  unfold breaks
  rw [findCycles_dropLoops, List.filterMap_filter, List.filter_filterMap]
  refine List.filterMap_congr fun c hc => ?_
  cases hmin : c.min? with
  | none => simp
  | some i =>
    have hi := (List.min?_eq_some_iff.1 hmin).1
    have hiff := (findCycles_isCycle hc).one_lt_length_iff hi
    rw [Option.filter_some]
    simp only [decide_eq_true_iff, hiff]

/-- **Once all cycles are broken the loops make no difference.** -/
theorem broken_dropLoops (parents : Parents) : parents.dropLoops.broken = parents.broken := by
  refine ext_parent? (by rw [size_broken, size_broken, size_dropLoops]) fun i => ?_
  rw [parent?_broken, parent?_broken, breaks_dropLoops, parent?_dropLoops, withoutLoops]
  simp only [List.mem_filter, decide_eq_true_iff]
  by_cases hself : parents.parent? i = some i
  · have hbreak := mem_breaks_of_loop hself
    simp [hself, hbreak]
  · have hkeep : (parents.parent? i).filter (fun p => decide (p ≠ i)) = parents.parent? i := by
      cases hp : parents.parent? i with
      | none => rfl
      | some p =>
        rw [hp, Option.some.injEq] at hself
        rw [Option.filter_some, if_pos (by simpa using hself)]
    rw [hkeep]
    simp only [ne_eq, hself, not_false_eq_true, and_true]

end Parents

end DynamicForms
