import DynamicForms.Forest.Cycles
import DynamicForms.Proofs.Ascent
import Mathlib.Data.List.Nodup
import Mathlib.Data.List.TakeWhile

/-!
# Every cycle is listed once

`Parents.findCycles` walks up from every position in turn and leaves out what was met before.

* `IsCycle` — a round of different positions, each the child of the next one and the last one of
  the first.
* `Trail` — what holds while a walk goes up; `Trail.cycle`: a walk that meets itself has gone
  round a cycle.
* `follow_spec` — one walk.  Its fuel lasts, upwards it leaves nothing behind that is not done,
  and if there is a cycle among the positions it passes, that cycle is what it tells.
* `cyclesFrom_spec` — all walks, by induction over the starting positions.
* `findCycles_isCycle`, `disjoint_findCycles`, `exists_mem_findCycles` — only cycles are listed,
  no position twice, and every position on a cycle.
-/

set_option autoImplicit false

namespace DynamicForms

namespace Parents

variable {parents : Parents}

theorem lt_size_of_parent? {i p : Nat} (h : parents.parent? i = some p) : i < parents.size := by
  unfold parent? at h
  rw [Option.join_eq_some_iff] at h
  obtain ⟨hi, _⟩ := Array.getElem?_eq_some_iff.1 h
  exact hi

/-! ## Cycles -/

/-- A round of different positions, each the child of the next one and the last of the first. -/
structure IsCycle (parents : Parents) (cycle : List Nat) : Prop where
  ne_nil : cycle ≠ []
  nodup : cycle.Nodup
  linked : (cycle ++ cycle.take 1).IsChain fun i p => parents.parent? i = some p

namespace IsCycle

variable {cycle : List Nat}

theorem exists_eq_cons (h : IsCycle parents cycle) : ∃ a l, cycle = a :: l ∧
    (a :: l ++ [a]).IsChain fun i p => parents.parent? i = some p := by
  cases cycle with
  | nil => exact absurd rfl h.ne_nil
  | cons a l => exact ⟨a, l, rfl, h.linked⟩

theorem above (h : IsCycle parents cycle) {i j : Nat} (hi : i ∈ cycle) (hj : j ∈ cycle) :
    Above parents.parent? i j := by
  obtain ⟨a, l, rfl, hchain⟩ := h.exists_eq_cons
  have hia := above_of_isChain_append hchain hi
  rcases List.mem_cons.1 hj with rfl | hj
  · exact hia
  · exact hia.trans (above_of_isChain_cons hchain (List.mem_append_left _ hj))

theorem mem_of_atOrAbove (h : IsCycle parents cycle) {i j : Nat} (hi : i ∈ cycle)
    (hij : AtOrAbove parents.parent? i j) : j ∈ cycle := by
  induction hij with
  | refl => exact hi
  | tail _ hstep ih =>
    obtain ⟨a, l, rfl, hchain⟩ := h.exists_eq_cons
    have hmem := mem_of_isChain_append hchain ih hstep
    simp only [List.mem_append, List.mem_singleton] at hmem
    rcases hmem with hmem | rfl
    · exact hmem
    · exact List.mem_cons_self ..

end IsCycle

/-! ## One walk -/

/-- What is left of a list from a member on. -/
theorem exists_dropWhile_eq {l : List Nat} {i : Nat} (hi : i ∈ l) :
    ∃ rest, l.dropWhile (fun j => j != i) = i :: rest := by
  have hne : l.dropWhile (fun j => j != i) ≠ [] := by
    intro hnil
    rw [List.dropWhile_eq_nil_iff] at hnil
    simpa using hnil i hi
  obtain ⟨a, rest, heq⟩ := List.exists_cons_of_ne_nil hne
  have ha : a = i := by
    have hhead := List.head_dropWhile_not (fun j => j != i) hne
    simpa [heq] using hhead
  exact ⟨rest, ha ▸ heq⟩

/-- What holds while a walk goes up, its latest position first in the trail: each position on the
trail is the child of the one before it and the first one of `i`. -/
structure Trail (parents : Parents) (done trail : List Nat) (i : Nat) : Prop where
  linked : (i :: trail).IsChain fun p j => parents.parent? j = some p
  nodup : trail.Nodup
  fresh : ∀ j ∈ trail, j ∉ done

namespace Trail

variable {done trail : List Nat} {i : Nat}

theorem nil : Trail parents done [] i :=
  ⟨List.isChain_singleton i, List.nodup_nil, fun _ h => by cases h⟩

theorem cons (h : Trail parents done trail i) (hdone : i ∉ done) (htrail : i ∉ trail) {p : Nat}
    (hp : parents.parent? i = some p) : Trail parents done (i :: trail) p where
  linked := by
    rw [List.isChain_cons_cons]
    exact ⟨hp, h.linked⟩
  nodup := List.nodup_cons.2 ⟨htrail, h.nodup⟩
  fresh := by
    intro j hj
    rcases List.mem_cons.1 hj with rfl | hj
    · exact hdone
    · exact h.fresh j hj

theorem isChain_reverse (h : Trail parents done trail i) :
    (trail.reverse ++ [i]).IsChain fun j p => parents.parent? j = some p := by
  rw [← List.reverse_cons, List.isChain_reverse]
  exact h.linked

theorem above (h : Trail parents done trail i) {j : Nat} (hj : j ∈ trail) :
    Above parents.parent? j i :=
  above_of_isChain_append h.isChain_reverse (List.mem_reverse.2 hj)

theorem up_mem (h : Trail parents done trail i) {j p : Nat} (hj : j ∈ trail)
    (hp : parents.parent? j = some p) : p ∈ trail ∨ p = i := by
  have hmem := mem_of_isChain_append h.isChain_reverse (List.mem_reverse.2 hj) hp
  simpa using hmem

theorem length_le (h : Trail parents done trail i) : trail.length ≤ parents.size := by
  have hsub : trail ⊆ List.range parents.size := by
    intro j hj
    obtain ⟨p, hp⟩ := (h.above hj).exists_up
    exact List.mem_range.2 (lt_size_of_parent? hp)
  have hle := h.nodup.length_le_of_subset hsub
  rwa [List.length_range] at hle

/-- **A walk that meets itself has gone round a cycle.** -/
theorem cycle (h : Trail parents done trail i) (hi : i ∈ trail) :
    IsCycle parents (trail.reverse.dropWhile fun j => j != i) ∧
      i ∈ trail.reverse.dropWhile fun j => j != i := by
  have hsuffix := List.dropWhile_suffix (l := trail.reverse) fun j => j != i
  obtain ⟨l, heq⟩ := exists_dropWhile_eq (List.mem_reverse.2 hi)
  rw [heq] at hsuffix ⊢
  refine ⟨⟨List.cons_ne_nil _ _, ?_, ?_⟩, List.mem_cons_self ..⟩
  · exact List.Nodup.sublist hsuffix.sublist (List.nodup_reverse.2 h.nodup)
  · obtain ⟨before, hbefore⟩ := hsuffix
    have hchain := h.isChain_reverse
    rw [← hbefore, List.append_assoc] at hchain
    exact hchain.right_of_append

end Trail

/-- With a position its parent is listed too. -/
def UpClosed (parents : Parents) (done : List Nat) : Prop :=
  ∀ j ∈ done, ∀ p, parents.parent? j = some p → p ∈ done

theorem UpClosed.mem_of_atOrAbove {done : List Nat} (h : UpClosed parents done) {i j : Nat}
    (hi : i ∈ done) (hij : AtOrAbove parents.parent? i j) : j ∈ done := by
  induction hij with
  | refl => exact hi
  | tail _ hstep ih => exact h _ ih _ hstep

/-- What a walk from `i` with a trail behind it tells: the positions it has passed in the end and
the cycle it went round, if it did. -/
structure Walked (parents : Parents) (done trail : List Nat) (i : Nat)
    (passed : List Nat) (cycle : Option (List Nat)) : Prop where
  trail_sub : trail ⊆ passed
  met : i ∈ passed ∨ i ∈ done
  fresh : ∀ j ∈ passed, j ∉ done
  upClosed : UpClosed parents (passed ++ done)
  isCycle : ∀ c, cycle = some c → IsCycle parents c ∧ c ⊆ passed
  all : ∀ j ∈ passed, Above parents.parent? j j → ∃ c, cycle = some c ∧ j ∈ c

namespace Trail

variable {done trail : List Nat} {i : Nat}

theorem walked_done (h : Trail parents done trail i) (hdone : UpClosed parents done)
    (hi : i ∈ done) : Walked parents done trail i trail none where
  trail_sub := List.Subset.refl _
  met := .inr hi
  fresh := h.fresh
  upClosed := by
    intro j hj p hp
    rcases List.mem_append.1 hj with hj | hj
    · rcases h.up_mem hj hp with hmem | rfl
      · exact List.mem_append_left _ hmem
      · exact List.mem_append_right _ hi
    · exact List.mem_append_right _ (hdone j hj p hp)
  isCycle := fun c hc => by cases hc
  all := by
    intro j hj hloop
    have hback := above_back hloop (h.above hj).to_reflTransGen
    exact absurd (hdone.mem_of_atOrAbove hi hback) (h.fresh j hj)

theorem walked_cycle (h : Trail parents done trail i) (hdone : UpClosed parents done)
    (hi : i ∈ trail) :
    Walked parents done trail i trail (some (trail.reverse.dropWhile fun j => j != i)) where
  trail_sub := List.Subset.refl _
  met := .inl hi
  fresh := h.fresh
  upClosed := by
    intro j hj p hp
    rcases List.mem_append.1 hj with hj | hj
    · rcases h.up_mem hj hp with hmem | rfl
      · exact List.mem_append_left _ hmem
      · exact List.mem_append_left _ hi
    · exact List.mem_append_right _ (hdone j hj p hp)
  isCycle := by
    rintro c ⟨⟩
    refine ⟨(h.cycle hi).1, fun j hj => ?_⟩
    exact List.mem_reverse.1 ((List.dropWhile_suffix _).subset hj)
  all := by
    intro j hj hloop
    obtain ⟨hcycle, hmem⟩ := h.cycle hi
    have hback := above_back hloop (h.above hj).to_reflTransGen
    exact ⟨_, rfl, hcycle.mem_of_atOrAbove hmem hback⟩

/-- The walk ends at a root. -/
theorem walked_top (h : Trail parents done trail i) (hdone : UpClosed parents done)
    (hi : i ∉ done) (htop : parents.parent? i = none) :
    Walked parents done trail i (i :: trail) none where
  trail_sub := List.subset_cons_self ..
  met := .inl (List.mem_cons_self ..)
  fresh := by
    intro j hj
    rcases List.mem_cons.1 hj with rfl | hj
    · exact hi
    · exact h.fresh j hj
  upClosed := by
    intro j hj p hp
    simp only [List.cons_append, List.mem_cons, List.mem_append] at hj ⊢
    rcases hj with rfl | hj | hj
    · rw [htop] at hp
      cases hp
    · rcases h.up_mem hj hp with hmem | rfl
      · exact .inr (.inl hmem)
      · exact .inl rfl
    · exact .inr (.inr (hdone j hj p hp))
  isCycle := fun c hc => by cases hc
  all := by
    intro j hj hloop
    have hup : AtOrAbove parents.parent? j i := by
      rcases List.mem_cons.1 hj with rfl | hj
      · exact .refl
      · exact (h.above hj).to_reflTransGen
    obtain ⟨p, hp⟩ := (above_self_of_atOrAbove hloop hup).exists_up
    rw [htop] at hp
    cases hp

end Trail

/-- **One walk**: the fuel lasts to its end, and it tells what `Walked` says. -/
theorem follow_spec {done : List Nat} (hdone : UpClosed parents done) :
    ∀ (fuel : Nat) (trail : List Nat) (i : Nat), Trail parents done trail i →
      parents.size < fuel + trail.length →
      Walked parents done trail i (parents.follow done fuel trail i).1
        (parents.follow done fuel trail i).2 := by
  intro fuel
  induction fuel with
  | zero =>
    intro trail i h hfuel
    have := h.length_le
    omega
  | succ fuel ih =>
    intro trail i h hfuel
    unfold follow
    split
    · rename_i hi
      exact h.walked_done hdone (by simpa using hi)
    · rename_i hi
      rw [List.contains_iff_mem] at hi
      split
      · rename_i htrail
        exact h.walked_cycle hdone (by simpa using htrail)
      · rename_i htrail
        rw [List.contains_iff_mem] at htrail
        split
        · rename_i htop
          exact h.walked_top hdone hi htop
        · rename_i p hp
          have hlen : parents.size < fuel + (i :: trail).length := by
            rw [List.length_cons]
            omega
          have hnext := ih (i :: trail) p (h.cons hi htrail hp) hlen
          exact
            { hnext with
              trail_sub := fun j hj => hnext.trail_sub (List.mem_cons_of_mem _ hj)
              met := .inl (hnext.trail_sub (List.mem_cons_self ..)) }

/-! ## All walks -/

/-- What is listed for some starting positions when others are done. -/
structure Listing (parents : Parents) (starts done : List Nat) (cycles : List (List Nat)) :
    Prop where
  isCycle : ∀ c ∈ cycles, IsCycle parents c
  fresh : ∀ c ∈ cycles, ∀ j ∈ c, j ∉ done
  apart : cycles.Pairwise List.Disjoint
  all : ∀ j ∈ starts, j ∉ done → Above parents.parent? j j → ∃ c ∈ cycles, j ∈ c

theorem Listing.nil {done : List Nat} : Listing parents [] done [] where
  isCycle := fun _ hc => absurd hc List.not_mem_nil
  fresh := fun _ hc => absurd hc List.not_mem_nil
  apart := List.Pairwise.nil
  all := fun _ hj => absurd hj List.not_mem_nil

/-- A walk and the listing after it make a listing. -/
theorem Walked.listing {start : Nat} {starts done passed : List Nat} {cycle : Option (List Nat)}
    {cycles : List (List Nat)} (h : Walked parents done [] start passed cycle)
    (hrest : Listing parents starts (passed ++ done) cycles) :
    Listing parents (start :: starts) done (cycle.toList ++ cycles) where
  isCycle := by
    intro c hc
    rcases List.mem_append.1 hc with hc | hc
    · exact (h.isCycle c (Option.mem_toList.1 hc)).1
    · exact hrest.isCycle c hc
  fresh := by
    intro c hc j hj
    rcases List.mem_append.1 hc with hc | hc
    · exact h.fresh j ((h.isCycle c (Option.mem_toList.1 hc)).2 hj)
    · exact fun hdone => hrest.fresh c hc j hj (List.mem_append_right _ hdone)
  apart := by
    rw [List.pairwise_append]
    refine ⟨by cases cycle <;> simp, hrest.apart, fun c hc d hd j hjc hjd => ?_⟩
    have hpassed := (h.isCycle c (Option.mem_toList.1 hc)).2 hjc
    exact hrest.fresh d hd j hjd (List.mem_append_left _ hpassed)
  all := by
    intro j hj hfresh hloop
    by_cases hpassed : j ∈ passed
    · obtain ⟨c, hc, hjc⟩ := h.all j hpassed hloop
      exact ⟨c, List.mem_append_left _ (Option.mem_toList.2 hc), hjc⟩
    · rcases List.mem_cons.1 hj with rfl | hj
      · exact absurd h.met (not_or.2 ⟨hpassed, hfresh⟩)
      · obtain ⟨c, hc, hjc⟩ := hrest.all j hj (by simp [hpassed, hfresh]) hloop
        exact ⟨c, List.mem_append_right _ hc, hjc⟩

theorem cyclesFrom_cons (start : Nat) (starts done : List Nat) :
    parents.cyclesFrom (start :: starts) done =
      (parents.follow done (parents.size + 1) [] start).2.toList ++
        parents.cyclesFrom starts
          ((parents.follow done (parents.size + 1) [] start).1 ++ done) := rfl

theorem cyclesFrom_spec : ∀ (starts done : List Nat), UpClosed parents done →
    Listing parents starts done (parents.cyclesFrom starts done) := by
  intro starts
  induction starts with
  | nil =>
    intro done _
    exact .nil
  | cons start starts ih =>
    intro done hdone
    have hwalk := follow_spec hdone (parents.size + 1) [] start .nil (by simp)
    exact hwalk.listing (ih _ hwalk.upClosed)

theorem findCycles_spec (parents : Parents) :
    Listing parents (List.range parents.size) [] parents.findCycles :=
  cyclesFrom_spec _ [] fun _ h => by cases h

/-- **Only cycles are listed.** -/
theorem findCycles_isCycle {c : List Nat} (hc : c ∈ parents.findCycles) : IsCycle parents c :=
  (findCycles_spec parents).isCycle c hc

/-- **No position is listed twice.** -/
theorem disjoint_findCycles (parents : Parents) : parents.findCycles.Pairwise List.Disjoint :=
  (findCycles_spec parents).apart

/-- **Every position on a cycle is listed.** -/
theorem exists_mem_findCycles {i : Nat} (h : Above parents.parent? i i) :
    ∃ c ∈ parents.findCycles, i ∈ c := by
  obtain ⟨p, hp⟩ := h.exists_up
  exact (findCycles_spec parents).all i (List.mem_range.2 (lt_size_of_parent? hp))
    List.not_mem_nil h

end Parents

end DynamicForms
