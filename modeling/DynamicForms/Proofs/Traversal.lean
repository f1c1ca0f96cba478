import DynamicForms.Proofs.Ascent
import Mathlib.Data.List.Nodup

/-!
# Walking linked nodes with a stack

Nodes are linked in both directions: `up` gives the parent of a node, `down` lists its children,
and `roots` lists the nodes without a parent.  A walk takes the first node from a stack and puts
its children there instead.

* `Linked` — the two directions agree and there are no cycles.
* `Traversal` — what holds after every step of a walk, for the nodes that were visited and those
  on the stack.
* `Traversal.start`, `Traversal.step` — it holds at the start, and every step keeps it.
* `Traversal.perm_range` — when the stack is empty every node was visited exactly once.
-/

set_option autoImplicit false

namespace DynamicForms

/-- Links between `size` nodes that agree in both directions and have no cycles. -/
structure Linked (size : Nat) (up : Nat → Option Nat) (down : Nat → List Nat)
    (roots : List Nat) : Prop where
  up_lt : ∀ {i p : Nat}, up i = some p → i < size ∧ p < size
  nodup_down : ∀ i, (down i).Nodup
  mem_down : ∀ {i j : Nat}, j ∈ down i ↔ up j = some i
  nodup_roots : roots.Nodup
  mem_roots : ∀ {i : Nat}, i ∈ roots ↔ i < size ∧ up i = none
  acyclic : Acyclic up

/-- What holds after every step of a walk. -/
structure Traversal (size : Nat) (up : Nat → Option Nat) (visited stack : List Nat) : Prop where
  nodup : (visited ++ stack).Nodup
  lt : ∀ {i : Nat}, i ∈ visited ++ stack → i < size
  above : ∀ {i p : Nat}, i ∈ visited ++ stack → up i = some p → p ∈ visited
  below : ∀ {i p : Nat}, p ∈ visited → up i = some p → i ∈ visited ++ stack
  tops : ∀ {i : Nat}, i < size → up i = none → i ∈ visited ++ stack

variable {size : Nat} {up : Nat → Option Nat} {down : Nat → List Nat}
  {roots visited stack : List Nat}

theorem Linked.exists_ascends (h : Linked size up down roots) (i : Nat) :
    ∃ l, Ascends up i l :=
  h.acyclic.exists_ascends (fun _ _ hp => List.mem_range.2 (h.up_lt hp).1) i

namespace Traversal

theorem start (hl : Linked size up down roots) {first : List Nat} (hfirst : first.Perm roots) :
    Traversal size up [] first where
  nodup := hfirst.nodup_iff.2 hl.nodup_roots
  lt := fun hi => (hl.mem_roots.1 (hfirst.mem_iff.1 hi)).1
  above := by
    intro i p hi hp
    rw [(hl.mem_roots.1 (hfirst.mem_iff.1 hi)).2] at hp
    cases hp
  below := fun hp => absurd hp List.not_mem_nil
  tops := fun hi htop => hfirst.mem_iff.2 (hl.mem_roots.2 ⟨hi, htop⟩)

theorem mem_step {i j : Nat} {next : List Nat} :
    j ∈ (visited ++ [i]) ++ (next ++ stack) ↔ j ∈ visited ++ i :: stack ∨ j ∈ next := by
  simp only [List.mem_append, List.mem_cons, List.not_mem_nil, or_false]
  tauto

/-- **Every step keeps it**: the first node from the stack is visited, and its children, in any
order, are put there instead. -/
theorem step (hl : Linked size up down roots) {i : Nat} {next : List Nat}
    (h : Traversal size up visited (i :: stack)) (hnext : next.Perm (down i)) :
    Traversal size up (visited ++ [i]) (next ++ stack) := by
  have hmem : ∀ j, j ∈ next ↔ up j = some i := fun j => by rw [hnext.mem_iff, hl.mem_down]
  have hi : i ∉ visited := by
    intro hi
    exact (List.nodup_append.1 h.nodup).2.2 i hi i (List.mem_cons_self ..) rfl
  refine ⟨?_, ?_, ?_, ?_, ?_⟩
  · have hperm : ((visited ++ [i]) ++ (next ++ stack)).Perm ((visited ++ i :: stack) ++ next) := by
      rw [List.append_assoc, List.append_assoc]
      refine List.Perm.append_left visited ?_
      rw [List.singleton_append, List.cons_append]
      exact List.Perm.cons i List.perm_append_comm
    rw [hperm.nodup_iff, List.nodup_append]
    refine ⟨h.nodup, hnext.nodup_iff.2 (hl.nodup_down i), ?_⟩
    rintro j hj _ hchild rfl
    exact hi (h.above hj ((hmem j).1 hchild))
  · intro j hj
    rcases mem_step.1 hj with hj | hj
    · exact h.lt hj
    · exact (hl.up_lt ((hmem j).1 hj)).1
  · intro j p hj hp
    rcases mem_step.1 hj with hj | hj
    · exact List.mem_append_left _ (h.above hj hp)
    · rw [(hmem j).1 hj, Option.some.injEq] at hp
      rw [← hp]
      exact List.mem_append_right _ (List.mem_singleton_self i)
  · intro j p hp hup
    refine mem_step.2 ?_
    rcases List.mem_append.1 hp with hp | hp
    · exact .inl (h.below hp hup)
    · rw [List.mem_singleton.1 hp] at hup
      exact .inr ((hmem j).2 hup)
  · intro j hj htop
    exact mem_step.2 (.inl (h.tops hj htop))

theorem length_lt {i : Nat} (h : Traversal size up visited (i :: stack)) :
    visited.length < size := by
  have hsub : visited ++ i :: stack ⊆ List.range size := by
    intro j hj
    exact List.mem_range.2 (h.lt hj)
  have hle := h.nodup.length_le_of_subset hsub
  rw [List.length_range, List.length_append, List.length_cons] at hle
  omega

theorem stack_eq_nil (h : Traversal size up visited stack) (hlen : size ≤ visited.length) :
    stack = [] := by
  cases stack with
  | nil => rfl
  | cons i stack =>
    have := h.length_lt
    omega

/-- **When no node waits, every node was visited exactly once.** -/
theorem perm_range (hl : Linked size up down roots) (h : Traversal size up visited []) :
    visited.Perm (List.range size) := by
  have hall : ∀ i l, Ascends up i l → i < size → i ∈ visited := by
    intro i l hi
    induction hi with
    | top htop => exact fun hlt => by simpa using h.tops hlt htop
    | step hstep _ ih => exact fun _ => by simpa using h.below (ih (hl.up_lt hstep).2) hstep
  have hnodup : visited.Nodup := by simpa using h.nodup
  rw [List.perm_ext_iff_of_nodup hnodup List.nodup_range]
  intro i
  rw [List.mem_range]
  refine ⟨fun hi => h.lt (List.mem_append_left _ hi), fun hi => ?_⟩
  obtain ⟨l, hl⟩ := hl.exists_ascends i
  exact hall i l hl hi

end Traversal

end DynamicForms
