import Mathlib.Data.List.Chain
import Mathlib.Logic.Relation

/-!
# Following a partial function upwards

A partial function `up` leads from something to what stands right above it.

* `Above up a b` — `b` is met when `up` is followed from `a` for one step or more; `Above up a a`
  says that `a` lies on a cycle.
* `Ascends up a l` — following `up` from `a` comes to an end and meets exactly `l`.
* `above_back` — on a cycle every way up leads back: `up` has no choice.
* `SameWays` — two functions that are the same but for the names of what they lead through;
  `SameWays.above_iff`: then what is above what is the same too.
* `above_withoutLoops_iff` — leaving out what is its own parent takes no longer cycle away.
* `Ascends.mem_iff`, `Ascends.unique` — a way that ends meets all that is above its start, and it is
  the only one; `Ascends.notMem`: it never comes back to its start.
-/

set_option autoImplicit false

namespace DynamicForms

open Relation

variable {α β : Type} {up up' : α → Option α}

/-- `b` is met above `a`, after one step or more. -/
abbrev Above (up : α → Option α) : α → α → Prop := TransGen fun a b => up a = some b

/-- `b` is `a` or is met above it. -/
abbrev AtOrAbove (up : α → Option α) : α → α → Prop := ReflTransGen fun a b => up a = some b

/-- Nothing is above itself. -/
def Acyclic (up : α → Option α) : Prop := ∀ a, ¬ Above up a a

theorem Above.atOrAbove {a b p : α} (h : Above up a b) (hp : up a = some p) :
    AtOrAbove up p b := by
  obtain ⟨q, hq, hqb⟩ := TransGen.head'_iff.1 h
  rw [hp, Option.some.injEq] at hq
  rw [hq]
  exact hqb

theorem Above.exists_up {a b : α} (h : Above up a b) : ∃ p, up a = some p := by
  obtain ⟨p, hp, _⟩ := TransGen.head'_iff.1 h
  exact ⟨p, hp⟩

/-- **On a cycle every way up leads back.** -/
theorem above_back {a b : α} (hloop : Above up a a) (h : AtOrAbove up a b) : AtOrAbove up b a := by
  induction h with
  | refl => exact .refl
  | tail _ hbc ih =>
    rcases ReflTransGen.cases_head ih with rfl | ⟨p, hp, hpa⟩
    · exact hloop.atOrAbove hbc
    · rw [hbc, Option.some.injEq] at hp
      rw [hp]
      exact hpa

theorem above_self_of_atOrAbove {a b : α} (hloop : Above up a a) (h : AtOrAbove up a b) :
    Above up b b :=
  TransGen.trans_left (TransGen.trans_right (above_back hloop h) hloop) h

theorem atOrAbove_of_sub {a b : α} (hsub : ∀ x y, up' x = some y → up x = some y)
    (hloop : Above up' a a) (h : AtOrAbove up a b) : AtOrAbove up' a b := by
  induction h with
  | refl => exact .refl
  | tail _ hbc ih =>
    obtain ⟨p, hp⟩ := (above_self_of_atOrAbove hloop ih).exists_up
    have heq := hsub _ _ hp
    rw [hbc, Option.some.injEq] at heq
    rw [heq]
    exact ih.tail hp

theorem Above.of_sub {a b : α} (hsub : ∀ x y, up' x = some y → up x = some y)
    (h : Above up' a b) : Above up a b := by
  induction h with
  | single hab => exact .single (hsub _ _ hab)
  | tail _ hbc ih => exact ih.tail (hsub _ _ hbc)

/-- **Ways up are carried along a simulation.** -/
theorem Above.transfer {down : β → Option β} {R : α → β → Prop}
    (hR : ∀ a b p, R a b → up a = some p → ∃ q, down b = some q ∧ R p q)
    {a a' : α} {b : β} (hab : R a b) (h : Above up a a') : ∃ b', Above down b b' ∧ R a' b' := by
  induction h with
  | single hstep =>
    obtain ⟨q, hq, hpq⟩ := hR _ _ _ hab hstep
    exact ⟨q, .single hq, hpq⟩
  | tail _ hstep ih =>
    obtain ⟨c, hc, hRc⟩ := ih
    obtain ⟨q, hq, hpq⟩ := hR _ _ _ hRc hstep
    exact ⟨q, hc.tail hq, hpq⟩

/-! ## The same ways by other names -/

/-- `up` and `down` are the same function when `R` translates, one to one, what they lead
through. -/
structure SameWays (up : α → Option α) (down : β → Option β) (R : α → β → Prop) : Prop where
  right_unique : ∀ {a b b'}, R a b → R a b' → b = b'
  left_unique : ∀ {a a' b}, R a b → R a' b → a = a'
  forth : ∀ {a b p}, R a b → up a = some p → ∃ q, down b = some q ∧ R p q
  back : ∀ {a b q}, R a b → down b = some q → ∃ p, up a = some p ∧ R p q

namespace SameWays

variable {down : β → Option β} {R : α → β → Prop} {a a' : α} {b b' : β}

theorem exists_above (h : SameWays up down R) (hab : R a b) (ha : Above up a a') :
    ∃ b', Above down b b' ∧ R a' b' :=
  ha.transfer (fun _ _ _ hR hp => h.forth hR hp) hab

theorem exists_above_back (h : SameWays up down R) (hab : R a b) (hb : Above down b b') :
    ∃ a', Above up a a' ∧ R a' b' :=
  hb.transfer (R := fun b a => R a b) (fun _ _ _ hR hq => h.back hR hq) hab

/-- **What is above what is the same.** -/
theorem above_iff (h : SameWays up down R) (hab : R a b) (hab' : R a' b') :
    Above up a a' ↔ Above down b b' := by
  constructor
  · intro ha
    obtain ⟨c, hc, hR⟩ := h.exists_above hab ha
    rw [h.right_unique hab' hR]
    exact hc
  · intro hb
    obtain ⟨c, hc, hR⟩ := h.exists_above_back hab hb
    rw [h.left_unique hab' hR]
    exact hc

end SameWays

/-! ## Loops -/

theorem eq_of_atOrAbove_loop {a b : α} (hself : up a = some a) (h : AtOrAbove up a b) :
    b = a := by
  induction h with
  | refl => rfl
  | tail _ hstep ih =>
    rw [ih, hself, Option.some.injEq] at hstep
    exact hstep.symm

section Loops

variable [DecidableEq α]

/-- The ways up when nothing leads to itself any more. -/
def withoutLoops (up : α → Option α) (a : α) : Option α := (up a).filter (· ≠ a)

theorem withoutLoops_eq_some_iff {a p : α} :
    withoutLoops up a = some p ↔ up a = some p ∧ p ≠ a := by
  unfold withoutLoops
  rw [Option.filter_eq_some_iff, decide_eq_true_iff]

/-- **Longer cycles stay** without the loops, and nothing is lost above them. -/
theorem above_withoutLoops_iff {a b : α} (hloop : Above up a a) (hself : up a ≠ some a) :
    Above (withoutLoops up) a b ↔ Above up a b := by
  -- A loop on the way up would leave no way back.
  have hstep : ∀ {c p}, AtOrAbove up a c → up c = some p → withoutLoops up c = some p := by
    intro c p hc hp
    refine withoutLoops_eq_some_iff.2 ⟨hp, ?_⟩
    rintro rfl
    exact hself (eq_of_atOrAbove_loop hp (above_back hloop hc) ▸ hp)
  constructor
  · exact Above.of_sub fun _ _ h => (withoutLoops_eq_some_iff.1 h).1
  · intro h
    induction h with
    | single hp => exact .single (hstep .refl hp)
    | tail hc hp ih => exact ih.tail (hstep hc.to_reflTransGen hp)

/-- **What lies on a cycle without the loops**: what lies on a longer cycle with them. -/
theorem above_self_withoutLoops_iff {a : α} :
    Above (withoutLoops up) a a ↔ Above up a a ∧ up a ≠ some a := by
  constructor
  · intro h
    obtain ⟨p, hp⟩ := h.exists_up
    obtain ⟨hup, hne⟩ := withoutLoops_eq_some_iff.1 hp
    refine ⟨h.of_sub fun _ _ h => (withoutLoops_eq_some_iff.1 h).1, ?_⟩
    rw [hup, ne_eq, Option.some.injEq]
    exact hne
  · rintro ⟨hloop, hself⟩
    exact (above_withoutLoops_iff hloop hself).2 hloop

end Loops

/-! ## Chains -/

theorem Acyclic.nodup (hup : Acyclic up) {l : List α}
    (h : l.IsChain fun a b => up a = some b) : l.Nodup := by
  have habove : l.IsChain (Above up) := h.imp fun _ _ hab => .single hab
  rw [List.isChain_iff_pairwise] at habove
  refine habove.imp fun {a b} hab => ?_
  rintro rfl
  exact hup a hab

theorem above_of_isChain_cons {l : List α} {a b : α}
    (h : (a :: l).IsChain fun a b => up a = some b) (hb : b ∈ l) : Above up a b := by
  have habove : (a :: l).IsChain (Above up) := h.imp fun _ _ hab => .single hab
  rw [List.isChain_iff_pairwise, List.pairwise_cons] at habove
  exact habove.1 b hb

theorem above_of_isChain_append {l : List α} {a z : α}
    (h : (l ++ [z]).IsChain fun a b => up a = some b) (ha : a ∈ l) : Above up a z := by
  have habove : (l ++ [z]).IsChain (Above up) := h.imp fun _ _ hab => .single hab
  rw [List.isChain_iff_pairwise, List.pairwise_append] at habove
  exact habove.2.2 a ha z (List.mem_singleton_self z)

theorem mem_of_isChain_append {l : List α} {a p z : α}
    (h : (l ++ [z]).IsChain fun a b => up a = some b) (ha : a ∈ l) (hp : up a = some p) :
    p ∈ l ++ [z] := by
  induction l with
  | nil => cases ha
  | cons b l ih =>
    rw [List.cons_append, List.isChain_cons] at h
    rcases List.mem_cons.1 ha with rfl | ha
    · obtain ⟨q, l', heq⟩ : ∃ q l', l ++ [z] = q :: l' := List.exists_cons_of_ne_nil (by simp)
      have hq := h.1 q (by rw [heq]; rfl)
      rw [hp, Option.some.injEq] at hq
      rw [List.cons_append, heq, hq]
      exact List.mem_cons_of_mem _ (List.mem_cons_self ..)
    · exact List.mem_cons_of_mem _ (ih h.2 ha)

/-! ## Ways that end -/

/-- Following `up` from `a` ends, and meets `l` on the way, the nearest first. -/
inductive Ascends (up : α → Option α) : α → List α → Prop
  | top {a : α} (h : up a = none) : Ascends up a []
  | step {a p : α} {l : List α} (h : up a = some p) (rest : Ascends up p l) :
    Ascends up a (p :: l)

/-- **A way that ends meets exactly what is above its start.** -/
theorem Ascends.mem_iff {a b : α} {l : List α} (h : Ascends up a l) : b ∈ l ↔ Above up a b := by
  induction h with
  | top htop =>
    refine ⟨fun hb => absurd hb List.not_mem_nil, fun hb => ?_⟩
    obtain ⟨p, hp⟩ := hb.exists_up
    rw [htop] at hp
    cases hp
  | step hstep _ ih =>
    rw [List.mem_cons, ih]
    constructor
    · rintro (rfl | hb)
      · exact .single hstep
      · exact .head hstep hb
    · intro hb
      rcases reflTransGen_iff_eq_or_transGen.1 (hb.atOrAbove hstep) with heq | habove
      · exact .inl heq
      · exact .inr habove

theorem Ascends.unique {a : α} {l l' : List α} (h : Ascends up a l) (h' : Ascends up a l') :
    l = l' := by
  induction h generalizing l' with
  | top htop =>
    cases h' with
    | top _ => rfl
    | step hstep _ => rw [htop] at hstep; cases hstep
  | step hstep _ ih =>
    cases h' with
    | top htop => rw [htop] at hstep; cases hstep
    | step hstep' rest =>
      rw [hstep, Option.some.injEq] at hstep'
      subst hstep'
      rw [ih rest]

theorem Ascends.congr {a : α} {l : List α} (h : Ascends up a l)
    (hsame : ∀ b ∈ a :: l, up b = up' b) : Ascends up' a l := by
  induction h with
  | top htop => exact .top (hsame _ (List.mem_cons_self ..) ▸ htop)
  | step hstep _ ih =>
    obtain ⟨hfirst, hrest⟩ := List.forall_mem_cons.1 hsame
    exact .step (hfirst ▸ hstep) (ih hrest)

theorem Ascends.notMem {a : α} {l : List α} (h : Ascends up a l) : a ∉ l := by
  rw [h.mem_iff]
  induction h with
  | top htop =>
    intro hloop
    obtain ⟨p, hp⟩ := hloop.exists_up
    rw [htop] at hp
    cases hp
  | step hstep _ ih =>
    exact fun hloop => ih (above_self_of_atOrAbove hloop (.single hstep))

theorem Ascends.isChain {a : α} {l : List α} (h : Ascends up a l) :
    (a :: l).IsChain fun a b => up a = some b := by
  induction h with
  | top _ => exact List.isChain_singleton _
  | step hstep _ ih =>
    rw [List.isChain_cons_cons]
    exact ⟨hstep, ih⟩

theorem Acyclic.length_le (hup : Acyclic up) {steps : List α}
    (hsteps : ∀ a p, up a = some p → a ∈ steps) {l : List α} {z : α}
    (h : (l ++ [z]).IsChain fun a p => up a = some p) : l.length ≤ steps.length := by
  have hsub : l ⊆ steps := by
    intro a ha
    obtain ⟨p, hp⟩ := (above_of_isChain_append h ha).exists_up
    exact hsteps a p hp
  have hnodup : l.Nodup := (hup.nodup h).sublist (List.sublist_append_left l [z])
  exact hnodup.length_le_of_subset hsub

/-- **Without cycles every way ends**, with finitely many steps that can be made. -/
theorem Acyclic.exists_ascends (hup : Acyclic up) {steps : List α}
    (hsteps : ∀ a p, up a = some p → a ∈ steps) (a : α) : ∃ l, Ascends up a l := by
  suffices h : ∀ (k : Nat) (below : List α) (b : α),
      ((below ++ [b]).IsChain fun a p => up a = some p) → steps.length < k + below.length →
      ∃ l, Ascends up b l from
    h (steps.length + 1) [] a (List.isChain_singleton a) (by simp)
  -- `below` is the way that led to `b`; it grows while the number of steps left shrinks.
  intro k
  induction k with
  | zero =>
    intro below b hchain hk
    have := hup.length_le hsteps hchain
    omega
  | succ k ih =>
    intro below b hchain hk
    cases hb : up b with
    | none => exact ⟨[], .top hb⟩
    | some p =>
      have hnext : ((below ++ [b]) ++ [p]).IsChain fun a p => up a = some p := by
        rw [List.append_assoc, List.cons_append, List.nil_append,
          List.isChain_append_cons_cons]
        exact ⟨hchain, hb, List.isChain_singleton p⟩
      have hlen : steps.length < k + (below ++ [b]).length := by
        rw [List.length_append, List.length_singleton]
        omega
      obtain ⟨l, hl⟩ := ih (below ++ [b]) p hnext hlen
      exact ⟨p :: l, .step hb hl⟩

theorem Ascends.length_le (hup : Acyclic up) {steps : List α}
    (hsteps : ∀ a p, up a = some p → a ∈ steps) {a : α} {l : List α} (h : Ascends up a l) :
    l.length ≤ steps.length := by
  have hchain := h.isChain
  obtain ⟨before, z, heq⟩ := (List.eq_nil_or_concat (a :: l)).resolve_left (List.cons_ne_nil a l)
  rw [List.concat_eq_append] at heq
  rw [heq] at hchain
  have hle := hup.length_le hsteps hchain
  have hlen := congrArg List.length heq
  rw [List.length_cons, List.length_append, List.length_singleton] at hlen
  omega

theorem Ascends.exists_length_eq {a : α} {l : List α} (h : Ascends up a l) {n : Nat}
    (hn : n ≤ l.length) : ∃ b rest, AtOrAbove up a b ∧ Ascends up b rest ∧ rest.length = n := by
  induction h with
  | @top a htop => exact ⟨a, [], .refl, .top htop, (Nat.le_zero.1 hn).symm⟩
  | @step a p l hstep rest ih =>
    rcases Nat.le_succ_iff.1 hn with hle | rfl
    · obtain ⟨b, above, hb, habove, hlen⟩ := ih hle
      exact ⟨b, above, .head hstep hb, habove, hlen⟩
    · exact ⟨a, p :: l, .refl, .step hstep rest, rfl⟩

end DynamicForms
