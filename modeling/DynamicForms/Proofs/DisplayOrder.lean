import DynamicForms.Proofs.NamedTree
import Mathlib.Data.Prod.Lex

/-!
# The order of display

A forest is displayed by a walk with a stack.  What comes out is told here without a stack.

* `Preordered` — some nodes, each directly followed by everything below it; `Walks.preordered`: so
  does a walk display the nodes on its stack.
* `Preordered.exists_subtree`, `Preordered.mem_iff` — what follows a node directly is its subtree.
* `pairwise_mergeSort_of_pairwise` — sorting keeps what was in order before, as far as it may.
* `Node.rank` — siblings go by their orders, and by the places of their declarations if these are
  the same; `inOrder_childrenOf`, `inOrder_childIds_build`, `inOrder_rootIds_build`: so do all lists
  of siblings.
* `DisplaysAs` — what an order of display is, told of parents and ranks only;
  `DisplaysAs.unique`: there is no other one.
* `Module.shownParent?`, `Module.rankOf?` — the parents and ranks that the declarations of a module
  say; `parentId?_build_eq`, `rankOf?_build`: those of its forest are the same.
* `DisplaysInOrder`, `build_displaysInOrder` — every forest that is built displays the nodes of the
  declarations in this order, and the ids in the one that the module says.
-/

set_option autoImplicit false

namespace DynamicForms

open Relation
open Structure

section Generic

variable {α : Type} {children : α → List α} {up : α → Option α} {before : α → α → Prop}

/-! ## Nodes before what is below them -/

/-- Some nodes from the first to the last one, each followed by its children and all that is below
these in the same manner, before the next one comes. -/
inductive Preordered (children : α → List α) : List α → List α → Prop
  | nil : Preordered children [] []
  | cons {a : α} {next below rest : List α} (hbelow : Preordered children (children a) below)
    (hrest : Preordered children next rest) :
    Preordered children (a :: next) (a :: (below ++ rest))

namespace Preordered

variable {tops order order' : List α}

theorem append_iff {first second : List α} : Preordered children (first ++ second) order ↔
    ∃ l l', order = l ++ l' ∧ Preordered children first l ∧ Preordered children second l' := by
  induction first generalizing order with
  | nil =>
    constructor
    · exact fun h => ⟨[], order, rfl, .nil, h⟩
    · rintro ⟨l, l', rfl, h, h'⟩
      cases h
      exact h'
  | cons a first ih =>
    rw [List.cons_append]
    constructor
    · intro h
      cases h with
      | cons hbelow hrest =>
        obtain ⟨l, l', rfl, h, h'⟩ := ih.1 hrest
        exact ⟨_, l', by rw [List.cons_append, List.append_assoc], .cons hbelow h, h'⟩
    · rintro ⟨l, l', rfl, h, h'⟩
      cases h with
      | cons hbelow hrest =>
        rw [List.cons_append, List.append_assoc]
        exact .cons hbelow (ih.2 ⟨_, l', rfl, hrest, h'⟩)

/-- **There is one such order only.** -/
theorem unique (h : Preordered children tops order) (h' : Preordered children tops order') :
    order = order' := by
  induction h generalizing order' with
  | nil =>
    cases h'
    rfl
  | cons _ _ ihbelow ihrest =>
    cases h' with
    | cons hbelow hrest => rw [ihbelow hbelow, ihrest hrest]

/-- **What comes is what is at or below the first nodes.** -/
theorem mem_iff (hdown : ∀ i j, j ∈ children i ↔ up j = some i)
    (h : Preordered children tops order) {a : α} :
    a ∈ order ↔ ∃ top ∈ tops, AtOrAbove up a top := by
  induction h with
  | nil => simp
  | @cons top next below rest _ _ ihbelow ihrest =>
    rw [List.mem_cons, List.mem_append, ihbelow, ihrest, List.exists_mem_cons_iff, ← or_assoc]
    refine or_congr_left (Iff.trans ?_ (ReflTransGen.cases_tail_iff _ a top).symm)
    rw [eq_comm]
    refine or_congr_right (exists_congr fun child => ?_)
    rw [hdown, and_comm]

/-- **A node is directly followed by its subtree.** -/
theorem exists_subtree (h : Preordered children tops order) {a : α} (ha : a ∈ order) :
    ∃ first below rest, order = first ++ a :: (below ++ rest) ∧
      Preordered children (children a) below := by
  induction h with
  | nil => cases ha
  | @cons top next below rest hbelow _ ihbelow ihrest =>
    rcases List.mem_cons.1 ha with rfl | ha
    · exact ⟨[], below, rest, rfl, hbelow⟩
    · rcases List.mem_append.1 ha with ha | ha
      · obtain ⟨first, subtree, last, rfl, hsubtree⟩ := ihbelow ha
        exact ⟨top :: first, subtree, last ++ rest, by simp, hsubtree⟩
      · obtain ⟨first, subtree, last, rfl, hsubtree⟩ := ihrest ha
        exact ⟨top :: (below ++ first), subtree, last, by simp, hsubtree⟩

theorem filterMap {β : Type} {name : α → Option β} {children' : β → List β}
    (hchildren : ∀ a b, name a = some b → children' b = (children a).filterMap name)
    (h : Preordered children tops order) (hnamed : ∀ a ∈ order, ∃ b, name a = some b) :
    Preordered children' (tops.filterMap name) (order.filterMap name) := by
  induction h with
  | nil => exact .nil
  | @cons a next below rest _ _ ihbelow ihrest =>
    obtain ⟨b, hb⟩ := hnamed a (List.mem_cons_self ..)
    rw [List.filterMap_cons_some hb, List.filterMap_cons_some hb, List.filterMap_append]
    refine .cons ?_ (ihrest fun c hc => hnamed c (by simp [hc]))
    rw [hchildren a b hb]
    exact ihbelow fun c hc => hnamed c (by simp [hc])

end Preordered

/-! ## Lists in order -/

/-- A list has certain members, one before the other. -/
structure ListsInOrder (among : α → Prop) (before : α → α → Prop) (l : List α) : Prop where
  mem_iff : ∀ a, a ∈ l ↔ among a
  increasing : l.Pairwise before

/-- **Members that are strictly before each other stand in one order only.** -/
theorem ListsInOrder.unique {among : α → Prop} {l l' : List α}
    (hasymm : ∀ a b, before a b → ¬ before b a)
    (h : ListsInOrder among before l) (h' : ListsInOrder among before l') : l = l' := by
  have hnodup : ∀ {l : List α}, l.Pairwise before → l.Nodup := fun hl => hl.imp fun {a b} hab => by
    rintro rfl
    exact hasymm a a hab hab
  have hperm : l.Perm l' := by
    rw [List.perm_ext_iff_of_nodup (hnodup h.increasing) (hnodup h'.increasing)]
    exact fun a => (h.mem_iff a).trans (h'.mem_iff a).symm
  exact hperm.eq_of_pairwise (fun a b _ _ hab hba => absurd hba (hasymm a b hab))
    h.increasing h'.increasing

/-- **Lists that agree on some members have these in the same order.** -/
theorem ListsInOrder.filter_eq {among among' : α → Prop} {l l' : List α} {p : α → Bool}
    (hasymm : ∀ a b, before a b → ¬ before b a) (h : ListsInOrder among before l)
    (h' : ListsInOrder among' before l') (hsame : ∀ a, p a = true → (among a ↔ among' a)) :
    l.filter p = l'.filter p := by
  have hl : ListsInOrder (fun a => among' a ∧ p a = true) before (l.filter p) :=
    ⟨fun a => by rw [List.mem_filter, h.mem_iff, and_congr_left (hsame a)],
      h.increasing.filter p⟩
  have hl' : ListsInOrder (fun a => among' a ∧ p a = true) before (l'.filter p) :=
    ⟨fun a => by rw [List.mem_filter, h'.mem_iff], h'.increasing.filter p⟩
  exact hl.unique hasymm hl'

/-- An order of display: roots and children are listed in order, and each node stands before all
that is below it, and this before the next sibling.  It is told of parents and of what siblings go
by, and of nothing else. -/
def DisplaysAs (among : α → Prop) (up : α → Option α) (before : α → α → Prop)
    (order : List α) : Prop :=
  ∃ (roots : List α) (children : α → List α),
    ListsInOrder (fun a => among a ∧ up a = none) before roots ∧
    (∀ p, ListsInOrder (fun a => among a ∧ up a = some p) before (children p)) ∧
    Preordered children roots order

/-- **There is one order of display only.** -/
theorem DisplaysAs.unique {among : α → Prop} {order order' : List α}
    (hasymm : ∀ a b, before a b → ¬ before b a)
    (h : DisplaysAs among up before order) (h' : DisplaysAs among up before order') :
    order = order' := by
  obtain ⟨roots, children, hroots, hchildren, horder⟩ := h
  obtain ⟨roots', children', hroots', hchildren', horder'⟩ := h'
  have heq : children = children' := funext fun p => (hchildren p).unique hasymm (hchildren' p)
  rw [← heq, ← hroots.unique hasymm hroots'] at horder'
  exact horder.unique horder'

/-! ## Sorting -/

/-- What sorting a list by a preorder leaves: its members go up, and those that are alike stay in
the order they had. -/
theorem pairwise_mergeSort_of_pairwise {le : α → α → Bool} {l : List α}
    (trans : ∀ a b c, le a b → le b c → le a c) (total : ∀ a b, le a b || le b a)
    (h : l.Pairwise before) :
    (l.mergeSort le).Pairwise fun a b => le a b = true ∧ (le b a = true → before a b) := by
  rw [List.pairwise_iff_forall_sublist]
  intro a b hab
  have hle : le a b = true := by
    have hpair := (List.pairwise_mergeSort trans total l).sublist hab
    simpa using hpair
  refine ⟨hle, fun hge => ?_⟩
  -- The members that are like `a`, among them `b`, are the same before and after.
  let alike (c : α) : Bool := le a c && le c a
  have hsorted : (l.filter alike).Pairwise (le · ·) := by
    refine List.pairwise_of_forall_mem_list fun c hc d hd => ?_
    have hca := (Bool.and_eq_true_iff.1 (List.mem_filter.1 hc).2).2
    have had := (Bool.and_eq_true_iff.1 (List.mem_filter.1 hd).2).1
    exact trans c a d hca had
  have hsub := List.sublist_mergeSort trans total hsorted List.filter_sublist
  have hkeep : l.filter alike = (l.mergeSort le).filter alike := by
    have hself : (l.filter alike).filter alike = l.filter alike := by simp
    refine List.Sublist.eq_of_length (hself ▸ hsub.filter alike) ?_
    exact ((List.mergeSort_perm l le).filter alike).length_eq.symm
  have hrefl : le a a = true := by simpa using total a a
  have hpair : [a, b].filter alike = [a, b] := by simp [alike, hrefl, hle, hge]
  have hstay : [a, b].Sublist l := by
    have hfilter := hab.filter alike
    rw [hpair, ← hkeep] at hfilter
    exact hfilter.trans List.filter_sublist
  exact List.pairwise_pair.1 (h.sublist hstay)

end Generic

/-! ## The ranks of siblings -/

/-- What siblings go by: first by the orders of their fields, then by the places of their
declarations. -/
def Node.rank (node : Node) : Int ×ₗ Nat := toLex (node.field.order.toInt, node.position)

theorem Node.rank_lt_iff {a b : Node} : a.rank < b.rank ↔
    a.field.order.toInt < b.field.order.toInt ∨
      a.field.order.toInt = b.field.order.toInt ∧ a.position < b.position :=
  Prod.Lex.toLex_lt_toLex

/-- Both have ranks, and the first one has the smaller. -/
def RanksBefore {α : Type} (rank? : α → Option (Int ×ₗ Nat)) (a b : α) : Prop :=
  ∃ r s, rank? a = some r ∧ rank? b = some s ∧ r < s

theorem RanksBefore.asymm {α : Type} {rank? : α → Option (Int ×ₗ Nat)} (a b : α)
    (h : RanksBefore rank? a b) : ¬ RanksBefore rank? b a := by
  rintro ⟨s', r', hs', hr', hlt'⟩
  obtain ⟨r, s, hr, hs, hlt⟩ := h
  rw [hr, Option.some.injEq] at hr'
  rw [hs, Option.some.injEq] at hs'
  subst hr' hs'
  exact lt_asymm hlt hlt'

namespace Forest

/-- The rank of the node at a place. -/
def rankAt? (forest : Forest) (i : Nat) : Option (Int ×ₗ Nat) := forest.nodes[i]?.map Node.rank

/-- The rank of the node of an id. -/
def rankOf? (forest : Forest) (id : String) : Option (Int ×ₗ Nat) :=
  (forest.find? id).map Node.rank

/-- The node at a place ranks before the one at another place. -/
abbrev Before (forest : Forest) : Nat → Nat → Prop := RanksBefore forest.rankAt?

/-- The node of an id ranks before the one of another id. -/
abbrev BeforeId (forest : Forest) : String → String → Prop := RanksBefore forest.rankOf?

end Forest

section Build

variable {m : Module}

theorem getElem?_kept (m : Module) (i : Nat) :
    m.kept[i]? = (Forest.build m).nodes[i]?.map fun node => (node.field, node.position) := by
  rw [← declarations_build, List.getElem?_map, Array.getElem?_toList]

/-- Among places in order, those that the orders of their fields leave open are the earlier ones
first. -/
theorem before_of_le {i j : Nat} {a b : Node} (ha : (Forest.build m).nodes[i]? = some a)
    (hb : (Forest.build m).nodes[j]? = some b) (hle : a.field.order.toInt ≤ b.field.order.toInt)
    (hlt : b.field.order.toInt ≤ a.field.order.toInt → i < j) : (Forest.build m).Before i j := by
  refine ⟨a.rank, b.rank, by rw [Forest.rankAt?, ha, Option.map_some],
    by rw [Forest.rankAt?, hb, Option.map_some], Node.rank_lt_iff.2 ?_⟩
  rcases Int.lt_or_eq_of_le hle with horder | horder
  · exact .inl horder
  · have hi := getElem?_kept m i
    have hj := getElem?_kept m j
    rw [ha, Option.map_some] at hi
    rw [hb, Option.map_some] at hj
    obtain ⟨hilt, hi⟩ := List.getElem?_eq_some_iff.1 hi
    obtain ⟨hjlt, hj⟩ := List.getElem?_eq_some_iff.1 hj
    have hpos := List.pairwise_iff_getElem.1 m.pairwise_kept i j hilt hjlt (hlt horder.ge)
    rw [hi, hj] at hpos
    exact .inr ⟨horder, hpos⟩

/-- **Siblings are listed by their ranks.** -/
theorem inOrder_childrenOf (m : Module) (parent : Option Nat) :
    ListsInOrder (fun i => i < (Forest.build m).size ∧ (Forest.build m).parent? i = parent)
      (Forest.build m).Before (childrenOf m.kept.toArray m.tree parent) where
  mem_iff := fun i => by rw [mem_childrenOf, Module.size_tree, size_build, parent?_build]
  increasing := by
    have hmem : ∀ {i}, i ∈ childrenOf m.kept.toArray m.tree parent →
        ∃ a, (Forest.build m).nodes[i]? = some a ∧
          (m.kept.toArray[i]?.map fun d => d.1.order.toInt).getD 0 = a.field.order.toInt := by
      intro i hi
      have hlt : i < (Forest.build m).nodes.size := by
        have hlt := (mem_childrenOf.1 hi).1
        rw [Module.size_tree, ← size_build] at hlt
        exact hlt
      refine ⟨_, Array.getElem?_eq_getElem hlt, ?_⟩
      rw [List.getElem?_toArray, getElem?_kept, Array.getElem?_eq_getElem hlt]
      rfl
    have hrange : ((List.range m.tree.size).filter fun i =>
        m.tree.parent? i == parent).Pairwise (· < ·) := List.pairwise_lt_range.filter _
    refine (pairwise_mergeSort_of_pairwise ?_ ?_ hrange).imp_of_mem fun {i j} hi hj hij => ?_
    · intro i j k hij hjk
      simp only [decide_eq_true_iff] at hij hjk ⊢
      exact Int.le_trans hij hjk
    · intro i j
      simp only [Bool.or_eq_true, decide_eq_true_iff]
      exact Int.le_total _ _
    · obtain ⟨a, ha, hkey⟩ := hmem hi
      obtain ⟨b, hb, hkey'⟩ := hmem hj
      simp only [decide_eq_true_iff, hkey, hkey'] at hij
      exact before_of_le ha hb hij.1 hij.2

theorem rankOf?_of_idAt? {i : Nat} {id : String} (hi : (Forest.build m).idAt? i = some id) :
    (Forest.build m).rankOf? id = (Forest.build m).rankAt? i := by
  unfold Forest.rankOf? Forest.rankAt? Forest.find?
  rw [indexOf?_build_iff.2 hi, Option.bind_some]

theorem pairwise_beforeId_idsAt {is : List Nat} (h : is.Pairwise (Forest.build m).Before) :
    ((Forest.build m).idsAt is).Pairwise (Forest.build m).BeforeId := by
  unfold Forest.idsAt
  rw [List.pairwise_filterMap]
  refine h.imp fun {i j} hij id hi other hj => ?_
  obtain ⟨r, s, hr, hs, hlt⟩ := hij
  exact ⟨r, s, (rankOf?_of_idAt? hi).trans hr, (rankOf?_of_idAt? hj).trans hs, hlt⟩

/-- **The children of an id are listed by their ranks.** -/
theorem inOrder_childIds_build (m : Module) (parent : String) :
    ListsInOrder (fun id => (Forest.build m).parentId? id = some parent)
      (Forest.build m).BeforeId ((Forest.build m).childIds parent) where
  mem_iff := fun _ => mem_childIds
  increasing := by
    unfold Forest.childIds
    split
    · exact List.Pairwise.nil
    · rw [children_build]
      exact pairwise_beforeId_idsAt (inOrder_childrenOf m _).increasing

theorem inOrder_rootIds_build (m : Module) :
    ListsInOrder (fun id => id ∈ m.ids ∧ (Forest.build m).parentId? id = none)
      (Forest.build m).BeforeId (Forest.build m).rootIds where
  mem_iff := fun _ => mem_rootIds
  increasing := pairwise_beforeId_idsAt (inOrder_childrenOf m none).increasing

end Build

/-! ## What the declarations say -/

namespace Module

open Classical in
/-- The parent below which an id is displayed: the one that its last declaration names, unless this
is not declared, or the id is in a cycle of parents and kept before all others in it. -/
noncomputable def shownParent? (m : Module) (id : String) : Option String :=
  if Above m.parentOf? id id ∧ ∀ other, Above m.parentOf? id other → m.KeptBefore id other then none
  else m.parentOf? id

/-- What an id goes by among its siblings: the order of its last declaration, and the place of this
declaration among all. -/
def rankOf? (m : Module) (id : String) : Option (Int ×ₗ Nat) :=
  (m.field? id).bind fun f => (lastIndexOf? m.ids id).map fun i => toLex (f.order.toInt, i)

end Module

section Declared

variable (m : Module)

/-- **Ids have the parents that the declarations say.** -/
theorem parentId?_build_eq : (Forest.build m).parentId? = m.shownParent? := by
  funext id
  rw [parentId?_build, Module.shownParent?]
  by_cases hbreak : id ∈ (Forest.build m).diagnostics.cycleBreaks
  · rw [if_pos hbreak, if_pos (mem_cycleBreaks.1 hbreak)]
  · rw [if_neg hbreak, if_neg (mt mem_cycleBreaks.2 hbreak)]

/-- Nodes have the parents that the declarations say. -/
theorem parent?_build_iff_shownParent? {i p : Nat} {id : String}
    (hi : (Forest.build m).idAt? i = some id) :
    (Forest.build m).parent? i = some p ↔
      ∃ q, m.shownParent? id = some q ∧ (Forest.build m).idAt? p = some q := by
  rw [← parentId?_build_eq]
  constructor
  · intro hp
    exact (sameWays_parentId? m).back hi hp
  · rintro ⟨q, hq, hpq⟩
    obtain ⟨p', hp', hid⟩ := (sameWays_parentId? m).forth hi hq
    rw [hp', idAt?_build_inj hid hpq]

/-- **Ids have the ranks that the declarations say.** -/
theorem rankOf?_build : (Forest.build m).rankOf? = m.rankOf? := by
  funext id
  unfold Forest.rankOf? Module.rankOf?
  rw [← field_find?_build]
  cases hnode : (Forest.build m).find? id with
  | none => rfl
  | some node =>
    rw [(declaration_of_find? hnode).2]
    rfl

end Declared

/-! ## The walk -/

/-- **A walk displays each node before all that is below it**, and this before the next node on its
stack. -/
theorem Forest.Walks.preordered {forest : Forest} {stack order : List Nat}
    (h : forest.Walks stack order) : Preordered forest.children stack order := by
  induction h with
  | done => exact .nil
  | @step i node stack rest hnode _ ih =>
    obtain ⟨below, behind, rfl, hbelow, hbehind⟩ := Preordered.append_iff.1 ih
    have hdown : forest.children i = node.children := by
      unfold Forest.children
      rw [hnode]
    exact .cons (hdown ▸ hbelow) hbehind

/-- **A node is directly followed by all that is below it.** -/
theorem exists_subtree_depthFirst (m : Module) {i : Nat} (hi : i < (Forest.build m).size) :
    ∃ first below rest, (Forest.build m).depthFirst = first ++ i :: (below ++ rest) ∧
      ∀ j, j ∈ below ↔ i ∈ (Forest.build m).ancestors j := by
  have hl := linked_build m
  have hwalk := Forest.depthFirst_spec hl
  have hmem : i ∈ (Forest.build m).depthFirst := hwalk.2.mem_iff.2 (List.mem_range.2 hi)
  obtain ⟨first, below, rest, heq, hbelow⟩ := hwalk.1.preordered.exists_subtree hmem
  refine ⟨first, below, rest, heq, fun j => ?_⟩
  rw [hbelow.mem_iff fun _ _ => hl.mem_down, (Forest.ancestors_spec hl j).mem_iff]
  refine Iff.trans (exists_congr fun child => ?_) TransGen.tail'_iff.symm
  rw [hl.mem_down, and_comm]

/-- **A forest that is built displays ids in this manner.** -/
theorem preordered_idsInOrder (m : Module) : Preordered (Forest.build m).childIds
    (Forest.build m).rootIds (Forest.build m).idsInOrder := by
  have hspec := Forest.depthFirst_spec (linked_build m)
  rw [Forest.idsInOrder_eq_idsAt]
  refine hspec.1.preordered.filterMap (fun i id hi => childIds_of_idAt? hi) fun i hi => ?_
  have hlt : i < (Forest.build m).nodes.size := List.mem_range.1 (hspec.2.mem_iff.1 hi)
  exact ⟨_, Forest.idAt?_of_node (Array.getElem?_eq_getElem hlt)⟩

/-- **Ids are displayed as the declarations say.** -/
theorem displaysAs_idsInOrder (m : Module) : DisplaysAs (· ∈ m.ids) m.shownParent?
    (RanksBefore m.rankOf?) (Forest.build m).idsInOrder := by
  rw [← parentId?_build_eq, ← rankOf?_build]
  refine ⟨_, _, inOrder_rootIds_build m, fun parent => ?_, preordered_idsInOrder m⟩
  refine ⟨fun id => ?_, (inOrder_childIds_build m parent).increasing⟩
  rw [mem_childIds]
  exact ⟨fun h => ⟨mem_ids_of_parentId? h, h⟩, fun h => h.2⟩

/-! ## Main theorem -/

/-- How a forest displays the fields of a module. -/
structure DisplaysInOrder (m : Module) (forest : Forest) : Prop where
  /-- The nodes are the last declarations of all ids with their places, in the order of
  declaration. -/
  nodes_eq : forest.nodes.toList.map (fun node => (node.field, node.position)) =
    m.fields.zipIdx.filter fun d => lastIndexOf? m.ids d.1.id == some d.2
  /-- They have the parents that the declarations say. -/
  parent_iff : ∀ i p id, forest.idAt? i = some id →
    (forest.parent? i = some p ↔ ∃ q, m.shownParent? id = some q ∧ forest.idAt? p = some q)
  /-- They have the ranks that the declarations say. -/
  rank_eq : ∀ i id, forest.idAt? i = some id → forest.rankAt? i = m.rankOf? id
  /-- The roots are listed by their ranks. -/
  roots : ListsInOrder (fun i => i < forest.size ∧ forest.parent? i = none) forest.Before
    forest.roots
  /-- So are the children of every node. -/
  children : ∀ p, ListsInOrder (fun i => i < forest.size ∧ forest.parent? i = some p)
    forest.Before (forest.children p)
  /-- The walk from the roots is the recursive order. -/
  preordered : Preordered forest.children forest.roots forest.depthFirst
  /-- Every node is directly followed by all that is below it. -/
  subtree : ∀ i < forest.size, ∃ first below rest, forest.depthFirst =
    first ++ i :: (below ++ rest) ∧ ∀ j, j ∈ below ↔ i ∈ forest.ancestors j
  /-- Parents and ranks leave no other order of display. -/
  displaysAs_iff : ∀ order, DisplaysAs (fun i => i < forest.size) forest.parent? forest.Before
    order ↔ order = forest.depthFirst
  /-- So the declarations leave no other order of the ids. -/
  displaysIds_iff : ∀ order, DisplaysAs (· ∈ m.ids) m.shownParent? (RanksBefore m.rankOf?) order ↔
    order = forest.idsInOrder

/-- **Every module is displayed in the one order** that the parents, the orders and the places of
its declarations leave. -/
theorem build_displaysInOrder (m : Module) : DisplaysInOrder m (Forest.build m) := by
  have hroots := inOrder_childrenOf m none
  have hchildren : ∀ p, ListsInOrder
      (fun i => i < (Forest.build m).size ∧ (Forest.build m).parent? i = some p)
      (Forest.build m).Before ((Forest.build m).children p) := by
    intro p
    rw [children_build]
    exact inOrder_childrenOf m (some p)
  have hwalk := (Forest.depthFirst_spec (linked_build m)).1.preordered
  refine
    { nodes_eq := by rw [declarations_build, Module.kept_eq_filter]
      parent_iff := fun _ _ _ hi => parent?_build_iff_shownParent? m hi
      rank_eq := fun _ _ hi => by rw [← rankOf?_build, rankOf?_of_idAt? hi]
      roots := hroots
      children := hchildren
      preordered := hwalk
      subtree := fun _ hi => exists_subtree_depthFirst m hi
      displaysAs_iff := fun order => ⟨fun h => ?_, ?_⟩
      displaysIds_iff := fun order => ⟨fun h => ?_, ?_⟩ }
  · exact h.unique RanksBefore.asymm ⟨_, _, hroots, hchildren, hwalk⟩
  · rintro rfl
    exact ⟨_, _, hroots, hchildren, hwalk⟩
  · exact h.unique RanksBefore.asymm (displaysAs_idsInOrder m)
  · rintro rfl
    exact displaysAs_idsInOrder m

end DynamicForms
