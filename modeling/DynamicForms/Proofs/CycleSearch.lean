import DynamicForms.Forest.Marks
import DynamicForms.Proofs.Agreement

/-!
# The search for cycles, exactly

* `CycleSearch.Tells` — what the marks and the path of a search say when some positions are done;
  `Tells.enter`, `Tells.close`, `Tells.finish`: each step keeps to it, and a position that is marked
  as met is found on the path.
* `walk_follow` — one walk with marks is the walk of `Parents.follow`, by induction on its steps;
  `searchFrom_eq`: all walks.
* `searchCycles_eq` — the search with marks ends and finds the cycles of `Parents.findCycles`.
* `follow_cycle` — a walk lists its cycle from the member on that it comes to first.
* `ReachedFrom`, `cyclesFrom_reached` — cycles come in the order of the first positions from which
  they are reached.
* `ListsCycles`, `findCycles_exact` — each cycle is listed once and nothing else, and both searches
  agree.
* `Module.inRange_links`, `inRange_parentsOfAll` — the parents that a forest is built of, and those
  that a check follows, are in range.
-/

set_option autoImplicit false

namespace DynamicForms

/-! ## What marks say -/

/-- The mark of a position when some are done and some are on the path. -/
def Mark.of (done path : List Nat) (i : Nat) : Mark :=
  if i ∈ done then .done else if i ∈ path then .onPath else .unvisited

namespace CycleSearch

/-- The marks of so many positions say which of them are done and which are on the path, where no
position stands twice. -/
structure Tells (size : Nat) (done : List Nat) (s : CycleSearch) : Prop where
  marks_eq : ∀ i, s.marks[i]? = if i < size then some (Mark.of done s.path i) else none
  nodup : s.path.Nodup
  fresh : ∀ j ∈ s.path, j ∉ done
  lt : ∀ j ∈ s.path, j < size

variable {size : Nat} {done : List Nat} {s : CycleSearch} {i : Nat}

theorem tells_start (size : Nat) : Tells size [] (start size) where
  marks_eq := fun i => by simp [start, Mark.of, Array.getElem?_replicate]
  nodup := List.nodup_nil
  fresh := fun _ h => absurd h List.not_mem_nil
  lt := fun _ h => absurd h List.not_mem_nil

namespace Tells

theorem marks_of_done (h : Tells size done s) (hi : i < size) (hdone : i ∈ done) :
    s.marks[i]? = some .done := by
  rw [h.marks_eq, if_pos hi, Mark.of, if_pos hdone]

theorem marks_of_onPath (h : Tells size done s) (hpath : i ∈ s.path) :
    s.marks[i]? = some .onPath := by
  rw [h.marks_eq, if_pos (h.lt i hpath), Mark.of, if_neg (h.fresh i hpath), if_pos hpath]

theorem marks_of_unvisited (h : Tells size done s) (hi : i < size) (hdone : i ∉ done)
    (hpath : i ∉ s.path) : s.marks[i]? = some .unvisited := by
  rw [h.marks_eq, if_pos hi, Mark.of, if_neg hdone, if_neg hpath]

theorem length_le (h : Tells size done s) : s.path.length ≤ size := by
  have hsub : s.path ⊆ List.range size := fun j hj => List.mem_range.2 (h.lt j hj)
  have hle := h.nodup.length_le_of_subset hsub
  rwa [List.length_range] at hle

/-- **Passing a position** that is not marked. -/
theorem enter (h : Tells size done s) (hi : i < size) (hdone : i ∉ done) (hpath : i ∉ s.path) :
    Tells size done (s.enter i) where
  marks_eq := by
    intro j
    have hsize : i < s.marks.size := by
      have hget := h.marks_of_unvisited hi hdone hpath
      exact (Array.getElem?_eq_some_iff.1 hget).1
    unfold CycleSearch.enter
    rw [Array.getElem?_setIfInBounds]
    by_cases hij : i = j
    · subst hij
      simp [hsize, hi, Mark.of, hdone]
    · rw [if_neg hij, h.marks_eq]
      simp [Mark.of, Ne.symm hij]
  nodup := by
    rw [CycleSearch.enter, List.nodup_append_comm]
    exact List.nodup_cons.2 ⟨hpath, h.nodup⟩
  fresh := by
    intro j hj
    rcases List.mem_append.1 hj with hj | hj
    · exact h.fresh j hj
    · rwa [List.mem_singleton.1 hj]
  lt := by
    intro j hj
    rcases List.mem_append.1 hj with hj | hj
    · exact h.lt j hj
    · rwa [List.mem_singleton.1 hj]

/-- **A position that is marked as met is found on the path**, and a cycle is cut off there. -/
theorem close (hpath : i ∈ s.path) (fallback : Option Nat) :
    s.close fallback i =
      some { s with cycles := s.cycles ++ [s.path.dropWhile fun j => j != i] } := by
  have hfind : s.path.idxOf? i = some (s.path.findIdx (· == i)) :=
    List.findIdx?_eq_some_of_exists ⟨i, hpath, beq_self_eq_true i⟩
  have hdrop : s.path.drop (s.path.findIdx (· == i)) = s.path.dropWhile fun j => j != i := by
    rw [List.dropWhile_eq_drop_findIdx_not]
    simp only [bne, Bool.not_not]
  unfold CycleSearch.close
  rw [hfind, Option.some_or]
  simp only [if_pos (List.findIdx_le_length), hdrop]

theorem getElem?_foldl_done (path : List Nat) (j : Nat) : ∀ marks : Array Mark,
    (path.foldl (fun marks i => marks.setIfInBounds i .done) marks)[j]? =
      if j ∈ path then marks[j]?.map fun _ => Mark.done else marks[j]? := by
  induction path with
  | nil => simp
  | cons i path ih =>
    intro marks
    rw [List.foldl_cons, ih, Array.getElem?_setIfInBounds]
    by_cases hij : i = j
    · subst hij
      by_cases hi : i < marks.size <;> simp [hi]
    · simp [hij, Ne.symm hij]

/-- **The end of a walk**: what it passed is done. -/
theorem finish (h : Tells size done s) :
    Tells size (s.path.reverse ++ done) { s.finish with path := [] } where
  marks_eq := by
    intro j
    unfold CycleSearch.finish
    rw [getElem?_foldl_done, h.marks_eq]
    by_cases hj : j < size
    · by_cases hpath : j ∈ s.path <;> simp [hj, hpath, Mark.of]
    · simp [hj]
  nodup := List.nodup_nil
  fresh := fun _ h => absurd h List.not_mem_nil
  lt := fun _ h => absurd h List.not_mem_nil

end Tells

end CycleSearch

/-! ## Walks with marks -/

namespace Parents

open CycleSearch

variable {parents : Parents}

/-- Every parent is one of the positions. -/
def InRange (parents : Parents) : Prop := ∀ p ∈ parents, ∀ i ∈ p, i < parents.size

instance (parents : Parents) : Decidable parents.InRange := by
  unfold InRange
  infer_instance

theorem inRange_iff :
    parents.InRange ↔ ∀ i p, parents.parent? i = some p → p < parents.size := by
  unfold InRange parent?
  constructor
  · intro h i p hp
    rw [Option.join_eq_some_iff] at hp
    exact h _ (Array.mem_of_getElem? hp) p rfl
  · rintro h _ hmem p rfl
    obtain ⟨i, hi⟩ := Array.mem_iff_getElem?.1 hmem
    exact h i p (Option.join_eq_some_iff.2 hi)

theorem InRange.lt_size (h : parents.InRange) {i p : Nat} (hp : parents.parent? i = some p) :
    p < parents.size :=
  inRange_iff.1 h i p hp

/-- **One walk with marks** ends, and it is the walk of `follow`. -/
theorem walk_follow (h : parents.InRange) (fallback : Option Nat) {done : List Nat} :
    ∀ (fuel : Nat) (s : CycleSearch) (i : Nat), s.Tells parents.size done → i < parents.size →
      parents.size < fuel + s.path.length →
      ∃ t, parents.walk fallback fuel s (some i) = some t ∧ t.Tells parents.size done ∧
        t.path.reverse = (parents.follow done fuel s.path.reverse i).1 ∧
        t.cycles = s.cycles ++ (parents.follow done fuel s.path.reverse i).2.toList := by
  intro fuel
  induction fuel with
  | zero =>
    intro s i hs _ hfuel
    have := hs.length_le
    omega
  | succ fuel ih =>
    intro s i hs hi hfuel
    unfold walk follow
    by_cases hdone : i ∈ done
    · rw [hs.marks_of_done hi hdone, if_pos (by simpa using hdone)]
      exact ⟨s, rfl, hs, rfl, (List.append_nil _).symm⟩
    · rw [if_neg (by simpa using hdone)]
      by_cases hpath : i ∈ s.path
      · rw [hs.marks_of_onPath hpath, if_pos (by simpa using hpath)]
        refine ⟨_, Tells.close hpath fallback, ⟨hs.marks_eq, hs.nodup, hs.fresh, hs.lt⟩, rfl, ?_⟩
        rw [List.reverse_reverse]
        rfl
      · rw [hs.marks_of_unvisited hi hdone hpath, if_neg (by simpa using hpath)]
        have henter := hs.enter hi hdone hpath
        have hrev : (s.enter i).path.reverse = i :: s.path.reverse := by
          rw [CycleSearch.enter, List.reverse_append, List.reverse_singleton,
            List.singleton_append]
        have hlen : (s.enter i).path.length = s.path.length + 1 := by
          rw [CycleSearch.enter, List.length_append, List.length_singleton]
        have hle := henter.length_le
        cases hp : parents.parent? i with
        | none =>
          -- The last step asks for no mark, but it is counted.
          obtain ⟨k, rfl⟩ : ∃ k, fuel = k + 1 := ⟨fuel - 1, by omega⟩
          exact ⟨s.enter i, rfl, henter, hrev, (List.append_nil _).symm⟩
        | some p =>
          obtain ⟨t, hwalk, ht, hpassed, hcycles⟩ :=
            ih (s.enter i) p henter (h.lt_size hp) (by omega)
          rw [hrev] at hpassed hcycles
          exact ⟨t, hwalk, ht, hpassed, hcycles⟩

/-- **All walks with marks** are those of `cyclesFrom`. -/
theorem searchFrom_eq (h : parents.InRange) (fallback : Option Nat) :
    ∀ (starts done : List Nat) (s : CycleSearch), (∀ i ∈ starts, i < parents.size) →
      Tells parents.size done { s with path := [] } →
      ∃ t, parents.searchFrom fallback starts s = some t ∧
        t.cycles = s.cycles ++ parents.cyclesFrom starts done := by
  intro starts
  induction starts with
  | nil => exact fun _ s _ _ => ⟨s, rfl, (List.append_nil _).symm⟩
  | cons start starts ih =>
    intro done s hlt hs
    obtain ⟨hstart, hstarts⟩ := List.forall_mem_cons.1 hlt
    obtain ⟨t, hwalk, ht, hpassed, hcycles⟩ :=
      walk_follow h fallback (parents.size + 1) _ start hs hstart (by simp)
    obtain ⟨u, hsearch, hall⟩ := ih _ t.finish hstarts ht.finish
    refine ⟨u, ?_, ?_⟩
    · unfold searchFrom
      rw [hwalk]
      exact hsearch
    · have hcycle : t.finish.cycles =
          s.cycles ++ (parents.follow done (parents.size + 1) [] start).2.toList := hcycles
      rw [hall, hpassed, hcycle, List.append_assoc, cyclesFrom_cons]
      rfl

/-- **The search with marks ends and finds the cycles**, and it needs no fallback. -/
theorem searchCycles_eq (h : parents.InRange) (fallback : Option Nat) :
    parents.searchCycles fallback = some parents.findCycles := by
  obtain ⟨t, hsearch, hcycles⟩ := searchFrom_eq h fallback (List.range parents.size) []
    (.start parents.size) (fun _ hi => List.mem_range.1 hi) (tells_start parents.size)
  unfold searchCycles findCycles
  rw [hsearch, Option.map_some, hcycles]
  rfl

/-! ## Where cycles are reached -/

/-- The way up from a position comes to a cycle at the member that is listed first. -/
def ComesTo (parents : Parents) (start : Nat) (cycle : List Nat) : Prop :=
  ∃ before first, cycle.head? = some first ∧ (before ++ [first]).head? = some start ∧
    ((before ++ [first]).IsChain fun i p => parents.parent? i = some p) ∧ ∀ j ∈ before, j ∉ cycle

/-- A cycle is reached from a position, and from no smaller one. -/
structure ReachedFrom (parents : Parents) (start : Nat) (cycle : List Nat) : Prop where
  comesTo : ComesTo parents start cycle
  least : ∀ i < start, ∀ j ∈ cycle, ¬ AtOrAbove parents.parent? i j

theorem Trail.comesTo {done trail : List Nat} {i start : Nat} (h : Trail parents done trail i)
    (hi : i ∈ trail) (hstart : (i :: trail).getLast? = some start) :
    ComesTo parents start (trail.reverse.dropWhile fun j => j != i) := by
  obtain ⟨rest, hrest⟩ := exists_dropWhile_eq (List.mem_reverse.2 hi)
  have hsplit := List.takeWhile_append_dropWhile (p := fun j => j != i) (l := trail.reverse)
  rw [hrest] at hsplit ⊢
  generalize trail.reverse.takeWhile (fun j => j != i) = before at hsplit
  refine ⟨before, i, rfl, ?_, ?_, ?_⟩
  · have hhead : trail.reverse.head? = some start := by
      obtain ⟨j, trail, rfl⟩ := List.exists_cons_of_ne_nil (List.ne_nil_of_mem hi)
      rwa [List.getLast?_cons_cons, List.getLast?_eq_head?_reverse] at hstart
    rw [← hsplit] at hhead
    cases before <;> exact hhead
  · have hchain := h.isChain_reverse
    rw [← hsplit, List.append_cons before, List.append_assoc] at hchain
    exact hchain.left_of_append
  · have hnodup := List.nodup_reverse.2 h.nodup
    rw [← hsplit] at hnodup
    exact fun j hbefore hcycle => List.disjoint_of_nodup_append hnodup hbefore hcycle

/-- **A walk lists its cycle from the member on that it comes to first.** -/
theorem follow_comesTo {done : List Nat} {start : Nat} {cycle : List Nat} :
    ∀ (fuel : Nat) (trail : List Nat) (i : Nat), Trail parents done trail i →
      (i :: trail).getLast? = some start →
      (parents.follow done fuel trail i).2 = some cycle → ComesTo parents start cycle := by
  intro fuel
  induction fuel with
  | zero => exact fun _ _ _ _ hcycle => by cases hcycle
  | succ fuel ih =>
    intro trail i h hstart hcycle
    unfold follow at hcycle
    split at hcycle
    · cases hcycle
    · rename_i hdone
      rw [List.contains_iff_mem] at hdone
      split at hcycle
      · rename_i htrail
        cases hcycle
        exact h.comesTo (by simpa using htrail) hstart
      · rename_i htrail
        rw [List.contains_iff_mem] at htrail
        split at hcycle
        · cases hcycle
        · rename_i p hp
          refine ih (i :: trail) p (h.cons hdone htrail hp) ?_ hcycle
          rw [List.getLast?_cons_cons]
          exact hstart

/-- **Cycles come in the order of the positions from which they are reached**, given that all
smaller positions are done or will be started from. -/
theorem cyclesFrom_reached : ∀ (starts done : List Nat), UpClosed parents done →
    starts.Pairwise (· < ·) → (∀ s ∈ starts, ∀ i < s, i ∈ done ∨ i ∈ starts) →
    ∃ reached, reached.Sublist starts ∧
      List.Forall₂ (ReachedFrom parents) reached (parents.cyclesFrom starts done) := by
  intro starts
  induction starts with
  | nil => exact fun _ _ _ _ => ⟨[], List.Sublist.refl _, .nil⟩
  | cons start starts ih =>
    intro done hdone hsorted hbefore
    obtain ⟨hless, hrest⟩ := List.pairwise_cons.1 hsorted
    have hwalk := follow_spec hdone (parents.size + 1) [] start .nil (by simp)
    have hcome : ∀ cycle, (parents.follow done (parents.size + 1) [] start).2 = some cycle →
        ComesTo parents start cycle := fun _ => follow_comesTo _ _ _ .nil rfl
    rw [cyclesFrom_cons]
    generalize parents.follow done (parents.size + 1) [] start = walked at hwalk hcome
    obtain ⟨passed, cycle⟩ := walked
    obtain ⟨reached, hsub, hreached⟩ := ih (passed ++ done) hwalk.upClosed hrest (by
      intro s hs i hi
      rcases hbefore s (List.mem_cons_of_mem _ hs) i hi with hmem | hmem
      · exact .inl (List.mem_append_right _ hmem)
      · rcases List.mem_cons.1 hmem with rfl | hmem
        · exact .inl (List.mem_append.2 hwalk.met)
        · exact .inr hmem)
    cases cycle with
    | none => exact ⟨reached, hsub.cons start, hreached⟩
    | some cycle =>
      refine ⟨start :: reached, hsub.cons_cons start, .cons ⟨hcome cycle rfl, ?_⟩ hreached⟩
      intro i hi j hj hup
      have hmem : i ∈ done := by
        rcases hbefore start (List.mem_cons_self ..) i hi with hmem | hmem
        · exact hmem
        · rcases List.mem_cons.1 hmem with rfl | hmem
          · exact absurd hi (Nat.lt_irrefl _)
          · exact absurd (hless i hmem) (Nat.lt_asymm hi)
      exact hwalk.fresh j ((hwalk.isCycle cycle rfl).2 hj) (hdone.mem_of_atOrAbove hmem hup)

/-! ## Main theorem -/

/-- What a list of the cycles of some parents has to be. -/
structure ListsCycles (parents : Parents) (cycles : List (List Nat)) : Prop where
  /-- Each is a round of different positions, each the child of the next one and the last of the
  first. -/
  isCycle : ∀ c ∈ cycles, IsCycle parents c
  apart : cycles.Pairwise List.Disjoint
  /-- The positions on cycles are listed, and none on the way to a cycle. -/
  mem_iff : ∀ i, (∃ c ∈ cycles, i ∈ c) ↔ Above parents.parent? i i
  /-- Every cycle is listed once, from whichever member one sees it. -/
  once : ∀ c, IsCycle parents c → ∃! d, d ∈ cycles ∧ d.Perm c
  /-- They come in the order of the smallest positions from which they are reached. -/
  inOrder : ∃ starts : List Nat, starts.Pairwise (· < ·) ∧
    List.Forall₂ (ReachedFrom parents) starts cycles

theorem IsCycle.perm {c d : List Nat} (hc : IsCycle parents c) (hd : IsCycle parents d) {i : Nat}
    (hic : i ∈ c) (hid : i ∈ d) : d.Perm c := by
  refine (List.perm_ext_iff_of_nodup hd.nodup hc.nodup).2 fun j => ⟨fun hj => ?_, fun hj => ?_⟩
  · exact hc.mem_of_atOrAbove hic (hd.above hid hj).to_reflTransGen
  · exact hd.mem_of_atOrAbove hid (hc.above hic hj).to_reflTransGen

theorem existsUnique_findCycles {c : List Nat} (hc : IsCycle parents c) :
    ∃! d, d ∈ parents.findCycles ∧ d.Perm c := by
  obtain ⟨i, hi⟩ := List.exists_mem_of_ne_nil c hc.ne_nil
  obtain ⟨d, hd, hid⟩ := exists_mem_findCycles (hc.above hi hi)
  refine ⟨d, ⟨hd, hc.perm (findCycles_isCycle hd) hi hid⟩, ?_⟩
  rintro e ⟨he, hperm⟩
  by_contra hne
  have hsymm : Std.Symm fun a b : List Nat => a.Disjoint b := ⟨fun _ _ h _ hb ha => h ha hb⟩
  exact (disjoint_findCycles parents).forall he hd hne (hperm.mem_iff.2 hi) hid

theorem listsCycles_findCycles (parents : Parents) : ListsCycles parents parents.findCycles where
  isCycle := fun _ => findCycles_isCycle
  apart := disjoint_findCycles parents
  mem_iff := fun i => ⟨fun ⟨_, hc, hi⟩ => (findCycles_isCycle hc).above hi hi,
    exists_mem_findCycles⟩
  once := fun _ => existsUnique_findCycles
  inOrder := by
    have hnone : UpClosed parents [] := fun _ h => absurd h List.not_mem_nil
    obtain ⟨reached, hsub, hreached⟩ := cyclesFrom_reached (List.range parents.size) [] hnone
      List.pairwise_lt_range fun s hs i hi =>
        .inr (List.mem_range.2 (Nat.lt_trans hi (List.mem_range.1 hs)))
    exact ⟨reached, List.pairwise_lt_range.sublist hsub, hreached⟩

/-- **The search for cycles is exact**: it lists each cycle once and nothing else, and with marks it
ends and lists the same; also without a fallback, since a position that is marked as met is always
found on the path. -/
theorem findCycles_exact (h : parents.InRange) : ListsCycles parents parents.findCycles ∧
    ∀ fallback, parents.searchCycles fallback = some parents.findCycles :=
  ⟨listsCycles_findCycles parents, searchCycles_eq h⟩

/-- A way into a cycle, another one into that way, a loop and a root. -/
theorem findCycles_exact_tangled :
    let parents : Parents := #[some 1, some 2, some 1, some 0, some 4, none]
    parents.InRange ∧ ListsCycles parents [[1, 2], [4]] ∧
      ∀ fallback, parents.searchCycles fallback = some [[1, 2], [4]] :=
  ⟨by decide, findCycles_exact (by decide)⟩

end Parents

/-! ## Modules -/

/-- **A forest is built** of parents in range, however broken the module is. -/
theorem Module.inRange_links (m : Module) : m.links.InRange := by
  rw [Parents.inRange_iff]
  intro i p hp
  obtain ⟨_, q, _, _, hq⟩ := parent?_links.1 hp
  obtain ⟨d, hd, _⟩ := Option.map_eq_some_iff.1 hq
  obtain ⟨hlt, _⟩ := List.getElem?_eq_some_iff.1 hd
  simpa [links, parentsOf] using hlt

/-- **A module is checked** on parents in range as well. -/
theorem inRange_parentsOfAll (fields : List Field) :
    (Structure.parentsOfAll fields).InRange := by
  rw [Parents.inRange_iff]
  intro i p hp
  rw [parent?_parentsOfAll] at hp
  obtain ⟨f, _, hf⟩ := Option.bind_eq_some_iff.1 hp
  obtain ⟨_, _, _, hlast⟩ := usableParent?_eq_some_iff.1 hf
  obtain ⟨hlt, _⟩ := List.getElem?_eq_some_iff.1 (lastIndexOf?_eq_some_iff.1 hlast).1
  simpa [Structure.parentsOfAll] using hlt

end DynamicForms
