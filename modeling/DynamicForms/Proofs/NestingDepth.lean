import DynamicForms.Proofs.Ancestors
import DynamicForms.Proofs.RepairedReport

/-!
# Warnings for deep nesting

A report tells how deep each declaration is nested without building a forest: it goes up from
parent to parent, loops left out, until there is none or one comes again.  The depths in a forest
are what is left when longer cycles are broken, too.

* `StepsUp` — this climb, without a bound on its length; `Parents.stepsUp_height`: it always ends,
  also on cycles, after as many steps as `Parents.height` tells.
* `Ascends.stepsUp`, `StepsUp.le_of_sub` — a way that ends is climbed to its end, and where links
  are left out the climb is not longer.
* `Module.RunsIntoCycle` — following parents from an id leads to a cycle of more than one id.
* `depth_le_height`, `height_eq_depth` — no id is deeper in the forest than the report tells, and
  ids that run into no cycle are as deep.
* `Module.depthWarning`, `WarnsOfDepth`, `check_warnsOfDepth` — what this means for the warnings.
-/

set_option autoImplicit false

namespace DynamicForms

open Relation Structure

/-! ## Climbing until something comes again -/

section Climb

variable {α β : Type} {up up' : α → Option α} {seen l : List α} {a : α} {n n' : Nat}

/-- Following `up` until nothing is above or something comes again that was `seen`; the number
counts the steps that are made. -/
inductive StepsUp (up : α → Option α) : (seen : List α) → α → Nat → Prop
  | top {seen : List α} {a : α} (htop : up a = none) : StepsUp up seen a 0
  | again {seen : List α} {a p : α} (hp : up a = some p) (hseen : p ∈ seen) : StepsUp up seen a 0
  | step {seen : List α} {a p : α} {n : Nat} (hp : up a = some p) (hfresh : p ∉ seen)
    (rest : StepsUp up (p :: seen) p n) : StepsUp up seen a (n + 1)

/-- **Where links are left out no more steps are made.** -/
theorem StepsUp.le_of_sub (h : StepsUp up seen a n) (h' : StepsUp up' seen a n')
    (hsub : ∀ x y, up' x = some y → up x = some y) : n' ≤ n := by
  induction h generalizing n' with
  | top htop =>
    cases h' with
    | top _ | again _ _ => exact Nat.zero_le _
    | step hp' _ _ =>
      rw [hsub _ _ hp'] at htop
      cases htop
  | again hp hseen =>
    cases h' with
    | top _ | again _ _ => exact Nat.zero_le _
    | step hp' hfresh _ =>
      rw [hsub _ _ hp', Option.some.injEq] at hp
      exact absurd (hp ▸ hseen) hfresh
  | step hp _ _ ih =>
    cases h' with
    | top _ | again _ _ => exact Nat.zero_le _
    | step hp' _ rest' =>
      rw [hsub _ _ hp', Option.some.injEq] at hp
      subst hp
      exact Nat.succ_le_succ (ih rest')

theorem StepsUp.unique (h : StepsUp up seen a n) (h' : StepsUp up seen a n') : n = n' :=
  Nat.le_antisymm (h'.le_of_sub h fun _ _ => id) (h.le_of_sub h' fun _ _ => id)

/-- **A way that ends is gone to its end**: nothing on it comes again. -/
theorem Ascends.stepsUp_of_notMem (h : Ascends up a l) (hfresh : ∀ b ∈ l, b ∉ seen) :
    StepsUp up seen a l.length := by
  induction h generalizing seen with
  | top htop => exact .top htop
  | step hstep rest ih =>
    refine .step hstep (hfresh _ (List.mem_cons_self ..)) (ih fun b hb hmem => ?_)
    rcases List.mem_cons.1 hmem with rfl | hmem
    · exact rest.notMem hb
    · exact hfresh b (List.mem_cons_of_mem _ hb) hmem

theorem Ascends.stepsUp (h : Ascends up a l) : StepsUp up [a] a l.length := by
  refine h.stepsUp_of_notMem fun b hb heq => ?_
  rw [List.mem_singleton.1 heq] at hb
  exact h.notMem hb

theorem SameWays.stepsUp {down : β → Option β} {R : α → β → Prop} {seen' : List β} {b : β}
    (h : SameWays up down R) (hsteps : StepsUp down seen' b n) (hab : R a b)
    (hseen : ∀ x y, R x y → (x ∈ seen ↔ y ∈ seen')) : StepsUp up seen a n := by
  induction hsteps generalizing a seen with
  | top htop =>
    refine .top (Option.eq_none_iff_forall_ne_some.2 fun p hp => ?_)
    obtain ⟨q, hq, _⟩ := h.forth hab hp
    rw [htop] at hq
    cases hq
  | again hq hmem =>
    obtain ⟨p, hp, hR⟩ := h.back hab hq
    exact .again hp ((hseen _ _ hR).2 hmem)
  | step hq hfresh _ ih =>
    obtain ⟨p, hp, hR⟩ := h.back hab hq
    refine .step hp (fun hmem => hfresh ((hseen _ _ hR).1 hmem)) (ih hR fun x y hxy => ?_)
    rw [List.mem_cons, List.mem_cons, hseen x y hxy]
    refine or_congr_left ⟨?_, ?_⟩
    · rintro rfl
      exact h.right_unique hxy hR
    · rintro rfl
      exact h.left_unique hxy hR

end Climb

namespace Parents

/-- The bound of a climb is never reached: but for the last one all positions that were seen have
parents, and none is seen twice. -/
theorem stepsUp_climb (parents : Parents) : ∀ (fuel : Nat) (seen : List Nat) (i : Nat),
    seen.Nodup → (∀ j ∈ seen, j = i ∨ j < parents.size) →
    parents.size + 1 < fuel + seen.length →
    StepsUp parents.parent? seen i (parents.climb fuel seen i) := by
  intro fuel
  induction fuel with
  | zero =>
    intro seen i hnodup hseen hfuel
    have hsub : seen ⊆ i :: List.range parents.size := by
      intro j hj
      rw [List.mem_cons, List.mem_range]
      exact hseen j hj
    have hle := hnodup.length_le_of_subset hsub
    rw [List.length_cons, List.length_range] at hle
    omega
  | succ fuel ih =>
    intro seen i hnodup hseen hfuel
    unfold climb
    split
    · rename_i htop
      exact .top htop
    · rename_i p hp
      split
      · rename_i hmem
        exact .again hp (List.contains_iff_mem.1 hmem)
      · rename_i hmem
        rw [List.contains_iff_mem] at hmem
        refine .step hp hmem (ih (p :: seen) p (List.nodup_cons.2 ⟨hmem, hnodup⟩) ?_ ?_)
        · intro j hj
          rcases List.mem_cons.1 hj with rfl | hj
          · exact .inl rfl
          · rcases hseen j hj with rfl | hlt
            · exact .inr (lt_size_of_parent? hp)
            · exact .inr hlt
        · rw [List.length_cons]
          omega

/-- **The climb ends** from every position, on cycles as well. -/
theorem stepsUp_height (parents : Parents) (i : Nat) :
    StepsUp parents.parent? [i] i (parents.height i) :=
  parents.stepsUp_climb _ [i] i (List.nodup_singleton i)
    (fun _ hj => .inl (List.mem_singleton.1 hj)) (by simp)

end Parents

/-! ## Depths told and depths built -/

theorem Round.two_le_length {α : Type} {up : α → Option α} {round : List α} {a : α}
    (h : Round up round) (ha : a ∈ round) (hself : up a ≠ some a) : 2 ≤ round.length := by
  obtain ⟨hne, _, hlinked⟩ := h
  match round with
  | [] => exact absurd rfl hne
  | [b] =>
    rw [List.mem_singleton.1 ha] at hself
    exact absurd (List.isChain_pair.1 hlinked) hself
  | _ :: _ :: _ => simp

/-- Following parents from an id leads to a cycle of more than one id. -/
def Module.RunsIntoCycle (m : Module) (id : String) : Prop :=
  ∃ round, Round m.parentOf? round ∧ 2 ≤ round.length ∧
    ∃ other ∈ round, AtOrAbove m.parentOf? id other

section Depths

variable {m : Module} {id other : String}

theorem withoutLoops_of_parentId? {parent : String}
    (h : (Forest.build m).parentId? id = some parent) :
    withoutLoops m.parentOf? id = some parent := by
  refine withoutLoops_eq_some_iff.2 ⟨parentOf?_of_parentId? h, ?_⟩
  rintro rfl
  exact acyclic_parentId? m parent (.single h)

/-- **Away from longer cycles a forest leaves out loops only.** -/
theorem parentId?_eq_withoutLoops (hid : ¬ m.RunsIntoCycle id)
    (hother : AtOrAbove m.parentOf? id other) :
    (Forest.build m).parentId? other = withoutLoops m.parentOf? other := by
  refine Option.ext fun parent => ⟨withoutLoops_of_parentId?, fun hparent => ?_⟩
  obtain ⟨hup, hne⟩ := withoutLoops_eq_some_iff.1 hparent
  have hkept : other ∉ (Forest.build m).diagnostics.cycleBreaks := by
    intro hbreak
    obtain ⟨round, hround, hmem⟩ := exists_round (mem_cycleBreaks.1 hbreak).1
    have hself : m.parentOf? other ≠ some other := by
      rw [hup, ne_eq, Option.some.injEq]
      exact hne
    exact hid ⟨round, hround, hround.two_le_length hmem hself, other, hmem, hother⟩
  rw [parentId?_build, if_neg hkept, hup]

theorem stepsUp_of_lastIndexOf? {i : Nat} (hi : lastIndexOf? m.ids id = some i) :
    StepsUp (withoutLoops m.parentOf?) [id] id ((parentsOfAll m.fields).height i) := by
  refine (sameWays_parentsOfAll m).stepsUp (Parents.stepsUp_height _ i) hi fun x y hxy => ?_
  rw [List.mem_singleton, List.mem_singleton]
  constructor
  · rintro rfl
    exact (sameWays_parentsOfAll m).right_unique hxy hi
  · rintro rfl
    exact (sameWays_parentsOfAll m).left_unique hxy hi

section Node

variable {node : Node} (hnode : (Forest.build m).find? id = some node)

include hnode

/-- **No id is deeper in the forest than the report tells.** -/
theorem depth_le_height : node.depth ≤ (parentsOfAll m.fields).height node.position := by
  rw [(find?_build_ancestors hnode).1]
  exact (stepsUp_of_lastIndexOf? (declaration_of_find? hnode).2).le_of_sub
    (ascends_ancestorIds m id).stepsUp fun _ _ => withoutLoops_of_parentId?

/-- **Ids that run into no longer cycle are as deep as it tells.** -/
theorem height_eq_depth (hid : ¬ m.RunsIntoCycle id) :
    (parentsOfAll m.fields).height node.position = node.depth := by
  have hascends := ascends_ancestorIds m id
  have hsame : ∀ other ∈ id :: (Forest.build m).ancestorIds id,
      (Forest.build m).parentId? other = withoutLoops m.parentOf? other := by
    intro other hother
    refine parentId?_eq_withoutLoops hid ?_
    rcases List.mem_cons.1 hother with rfl | hother
    · exact .refl
    · have habove := mem_ancestorIds.1 hother
      exact (habove.of_sub fun _ _ h => parentOf?_of_parentId? h).to_reflTransGen
  rw [(find?_build_ancestors hnode).1]
  exact (stepsUp_of_lastIndexOf? (declaration_of_find? hnode).2).unique
    (hascends.congr hsame).stepsUp

end Node

end Depths

/-! ## The warnings -/

/-- The warning that a declaration draws for its depth, if it draws one. -/
def Module.depthWarning (m : Module) (limit : UInt64) (d : Declaration) : List Issue :=
  let depth := (parentsOfAll m.fields).height d.2
  if limit.toNat < depth then [⟨d.1.id, .deepNesting depth limit⟩] else []

theorem ofKinds_fieldWarnings_deepNesting (ids : List String) (f : Field) :
    ofKinds [.deepNesting] (fieldWarnings ids f) = [] := by
  refine ofKinds_eq_nil fun issue hissue hkind => ?_
  rw [List.mem_singleton] at hkind
  unfold fieldWarnings at hissue
  rcases List.mem_append.1 hissue with h | h
  · obtain ⟨c, _, hc⟩ := List.mem_flatMap.1 h
    have hother := kind_of_mem_conditionWarnings hc
    rw [hkind] at hother
    exact absurd hother (by decide)
  · rw [kind_of_mem_lengthWarnings h] at hkind
    cases hkind

/-- **The warnings of depth in a report** are those that the declarations draw, one by one. -/
theorem depthWarnings_check (m : Module) (config : Config) (limit : UInt64) :
    ofKinds [.deepNesting] (m.check { config with maxDepthWarning := some limit }).warnings =
      m.fields.zipIdx.flatMap (m.depthWarning limit) := by
  have hzip : m.ids.zipIdx = m.fields.zipIdx.map fun d => (d.1.id, d.2) := List.zipIdx_map ..
  have hdepth : depthWarnings (parentsOfAll m.fields) (some limit) m.ids =
      m.fields.zipIdx.flatMap (m.depthWarning limit) := by
    unfold depthWarnings
    simp only [hzip, List.flatMap_map]
    rfl
  have hfields : ofKinds [.deepNesting] (m.fields.flatMap (fieldWarnings m.ids)) = [] := by
    rw [ofKinds_flatMap, List.flatMap_eq_nil_iff]
    exact fun f _ => ofKinds_fieldWarnings_deepNesting m.ids f
  have hkept : ofKinds [.deepNesting] (depthWarnings (parentsOfAll m.fields) (some limit) m.ids) =
      depthWarnings (parentsOfAll m.fields) (some limit) m.ids :=
    ofKinds_eq_self fun issue hissue => by simp [kind_of_mem_depthWarnings hissue]
  rw [warnings_check, ofKinds_append, hfields, List.nil_append, hkept, hdepth]

/-! ## Main theorem -/

/-- How the warnings of depth in a report agree with the depths in a forest. -/
structure WarnsOfDepth (m : Module) (limit : UInt64) (report : Report) (forest : Forest) :
    Prop where
  /-- Every declaration draws its own warning. -/
  drawn : ofKinds [.deepNesting] report.warnings =
    m.fields.zipIdx.flatMap (m.depthWarning limit)
  /-- No node that is too deep is passed over. -/
  exists_warning : ∀ id node, forest.find? id = some node → limit.toNat < node.depth →
    ∃ depth, node.depth ≤ depth ∧ ⟨id, .deepNesting depth limit⟩ ∈ report.warnings
  /-- The declaration of a node is as deep as the node, unless it runs into a cycle. -/
  height_eq : ∀ id node, forest.find? id = some node → ¬ m.RunsIntoCycle id →
    (parentsOfAll m.fields).height node.position = node.depth
  /-- So it draws a warning exactly if the node is too deep, and the warning states its depth. -/
  depthWarning_eq : ∀ id node, forest.find? id = some node → ¬ m.RunsIntoCycle id →
    (node.field, node.position) ∈ m.fields.zipIdx ∧
      m.depthWarning limit (node.field, node.position) =
        if limit.toNat < node.depth then [⟨id, .deepNesting node.depth limit⟩] else []

/-- **Reports warn of the depths that forests have.**  The climb that tells a depth ends whatever
the parents are; and whatever limit is set, a report warns of every node of the forest that is
deeper, and tells the depths of all that run into no cycle of more than one id. -/
theorem check_warnsOfDepth :
    (∀ (parents : Parents) (i : Nat), StepsUp parents.parent? [i] i (parents.height i)) ∧
    ∀ (m : Module) (config : Config) (limit : UInt64),
      WarnsOfDepth m limit (m.check { config with maxDepthWarning := some limit })
        (Forest.build m) := by
  refine ⟨Parents.stepsUp_height, fun m config limit => ?_⟩
  have hdrawn := depthWarnings_check m config limit
  have hid : ∀ {id node}, (Forest.build m).find? id = some node →
      node.field.id = id ∧ (node.field, node.position) ∈ m.fields.zipIdx := by
    intro id node hnode
    obtain ⟨_, _, hid⟩ := find?_build_iff.1 hnode
    exact ⟨hid, List.mem_zipIdx_iff_getElem?.2 (declaration_of_find? hnode).1⟩
  refine
    { drawn := hdrawn
      exists_warning := fun id node hnode hdeep => ?_
      height_eq := fun _ _ => height_eq_depth
      depthWarning_eq := fun id node hnode hcycle => ⟨(hid hnode).2, ?_⟩ }
  · have hheight := depth_le_height hnode
    refine ⟨_, hheight, ?_⟩
    have hmem : ⟨id, .deepNesting ((parentsOfAll m.fields).height node.position) limit⟩ ∈
        m.fields.zipIdx.flatMap (m.depthWarning limit) := by
      refine List.mem_flatMap.2 ⟨_, (hid hnode).2, ?_⟩
      unfold Module.depthWarning
      rw [if_pos (Nat.lt_of_lt_of_le hdeep hheight), (hid hnode).1]
      exact List.mem_singleton_self _
    rw [← hdrawn] at hmem
    exact List.mem_of_mem_filter hmem
  · unfold Module.depthWarning
    rw [height_eq_depth hnode hcycle, (hid hnode).1]

end DynamicForms
