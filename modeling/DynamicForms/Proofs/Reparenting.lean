import DynamicForms.Proofs.Repairs
import DynamicForms.Structure.Repair

/-!
# Giving a field another parent

`Module.wouldCycle` looks at a module before a field gets another parent; what it answers is told
here of the module after that.

* `Round` — different members in a row, each right below the next one and the last one below the
  first; `exists_round`: what is above itself lies on a round.
* `Module.Climb` — the climb that `wouldCycle` makes, without a bound on its length;
  `climb_wouldCycle`: it comes to an end, with the answer of `wouldCycle`.
* `Climb.eq_true_iff` — the climb finds the field exactly if the field is met above its start.
* `Module.GivenParent` — one module is the other one after a field got another parent, or was
  added below it; `namedParent?_of_givenParent`: no other id has another parent then.
* `wouldCycle_exact` — the answer is right, all other cycles stay as they are, and edits that were
  checked never lead to a forest in which a cycle had to be broken.
-/

set_option autoImplicit false

namespace DynamicForms

open Relation

variable {α : Type} {up up' : α → Option α}

/-! ## Rounds -/

/-- Different members in a row, each right below the next one and the last below the first. -/
structure Round (up : α → Option α) (round : List α) : Prop where
  ne_nil : round ≠ []
  nodup : round.Nodup
  linked : (round ++ round.take 1).IsChain fun a b => up a = some b

namespace Round

variable {round : List α}

theorem above_self (h : Round up round) {a : α} (ha : a ∈ round) : Above up a a := by
  cases round with
  | nil => cases ha
  | cons b l =>
    have hlinked : (b :: l ++ [b]).IsChain fun a b => up a = some b := h.linked
    have hup : Above up a b := above_of_isChain_append hlinked ha
    rcases List.mem_cons.1 ha with rfl | ha
    · exact hup
    · exact hup.trans (above_of_isChain_cons hlinked (List.mem_append_left _ ha))

theorem of_links (h : Round up round)
    (hlinks : ∀ a ∈ round, ∀ b ∈ round, up a = some b → up' a = some b) : Round up' round where
  ne_nil := h.ne_nil
  nodup := h.nodup
  linked := by
    have hmem : ∀ a ∈ round ++ round.take 1, a ∈ round := by
      intro a ha
      rcases List.mem_append.1 ha with ha | ha
      · exact ha
      · exact List.mem_of_mem_take ha
    exact h.linked.imp_of_mem_imp fun a b ha hb hab => hlinks a (hmem a ha) b (hmem b hb) hab

end Round

theorem AtOrAbove.exists_way {a b : α} (h : AtOrAbove up a b) :
    ∃ l, (a :: l).Nodup ∧ ((a :: l).IsChain fun a b => up a = some b) ∧
      (a :: l).getLast? = some b := by
  induction h using ReflTransGen.head_induction_on with
  | refl => exact ⟨[], List.nodup_singleton b, List.isChain_singleton b, rfl⟩
  | @head a c hac _ ih =>
    obtain ⟨l, hnodup, hchain, hlast⟩ := ih
    by_cases ha : a ∈ c :: l
    · -- The way comes through `a` again and may start there.
      obtain ⟨before, after, heq⟩ := List.append_of_mem ha
      rw [heq] at hnodup hchain hlast
      refine ⟨after, (List.nodup_append.1 hnodup).2.1, hchain.right_of_append, ?_⟩
      rw [← hlast, List.getLast?_append_cons]
    · refine ⟨c :: l, List.nodup_cons.2 ⟨ha, hnodup⟩, ?_, ?_⟩
      · rw [List.isChain_cons_cons]
        exact ⟨hac, hchain⟩
      · rw [List.getLast?_cons_cons]
        exact hlast

/-- **What is above itself lies on a round.** -/
theorem exists_round {a : α} (h : Above up a a) : ∃ round, Round up round ∧ a ∈ round := by
  obtain ⟨p, hp, hback⟩ := TransGen.head'_iff.1 h
  obtain ⟨l, hnodup, hchain, hlast⟩ := AtOrAbove.exists_way hback
  refine ⟨p :: l, ⟨List.cons_ne_nil p l, hnodup, ?_⟩, List.mem_of_getLast? hlast⟩
  refine List.isChain_append.2 ⟨hchain, List.isChain_singleton p, ?_⟩
  intro x hx y hy
  rw [hlast, Option.mem_some_iff] at hx
  rw [List.take_succ_cons, List.head?_cons, Option.mem_some_iff] at hy
  rw [← hx, ← hy]
  exact hp

theorem acyclic_iff_no_round : Acyclic up ↔ ∀ round, ¬ Round up round := by
  constructor
  · intro hup round h
    obtain ⟨a, ha⟩ := List.exists_mem_of_ne_nil round h.ne_nil
    exact hup a (h.above_self ha)
  · intro hno a ha
    obtain ⟨round, h, _⟩ := exists_round ha
    exact hno round h

/-! ## One link changed -/

theorem AtOrAbove.of_eq_off {a f : α} (hoff : ∀ b, b ≠ f → up b = up' b)
    (h : AtOrAbove up a f) : AtOrAbove up' a f := by
  induction h using ReflTransGen.head_induction_on with
  | refl => exact .refl
  | @head a c hac _ ih =>
    by_cases ha : a = f
    · rw [ha]
    · refine ReflTransGen.head ?_ ih
      rw [← hoff a ha]
      exact hac

/-- **A new link at `f` closes a cycle** exactly if `f` was met above its target before. -/
theorem above_self_iff_of_eq_off {f p : α} (hoff : ∀ b, b ≠ f → up b = up' b)
    (hp : up' f = some p) : Above up' f f ↔ AtOrAbove up p f := by
  constructor
  · intro h
    exact AtOrAbove.of_eq_off (fun b hb => (hoff b hb).symm) (h.atOrAbove hp)
  · intro h
    exact TransGen.head' hp (AtOrAbove.of_eq_off hoff h)

namespace Module

variable {m m' : Module} {field parent : String}

/-! ## The climb -/

/-- Following the parents that are named, from an id on, until the field is met, or an id that was
`seen`, or one that names no parent; the last part tells whether the field was met. -/
inductive Climb (m : Module) (field : String) : (seen : List String) → String → Bool → Prop
  | found {seen : List String} : Climb m field seen field true
  | again {seen : List String} {id : String} (hne : id ≠ field) (hseen : id ∈ seen) :
    Climb m field seen id false
  | top {seen : List String} {id : String} (hne : id ≠ field) (hseen : id ∉ seen)
    (htop : m.namedParent? id = none) : Climb m field seen id false
  | step {seen : List String} {id p : String} {met : Bool} (hne : id ≠ field) (hseen : id ∉ seen)
    (hp : m.namedParent? id = some p) (rest : Climb m field (id :: seen) p met) :
    Climb m field seen id met

/-- **The climb ends** before its bound is reached: no id is passed twice, and each that is passed
is declared. -/
theorem climb_leadsTo : ∀ (fuel : Nat) (seen : List String) (id : String),
    seen.Nodup → seen ⊆ m.ids → m.fields.length < fuel + seen.length →
    m.Climb field seen id (m.leadsTo field fuel seen id) := by
  intro fuel
  induction fuel with
  | zero =>
    intro seen id hnodup hsub hfuel
    have hle := hnodup.length_le_of_subset hsub
    rw [ids, List.length_map] at hle
    omega
  | succ fuel ih =>
    intro seen id hnodup hsub hfuel
    unfold leadsTo
    split
    · rename_i heq
      rw [heq]
      exact .found
    · rename_i hne
      split
      · rename_i hseen
        exact .again hne hseen
      · rename_i hseen
        split
        · rename_i htop
          exact .top hne hseen htop
        · rename_i p hp
          refine .step hne hseen hp (ih (id :: seen) p (List.nodup_cons.2 ⟨hseen, hnodup⟩) ?_ ?_)
          · exact List.cons_subset.2 ⟨mem_ids_of_namedParent? hp, hsub⟩
          · rw [List.length_cons]
            omega

theorem climb_wouldCycle (m : Module) (field parent : String) :
    m.Climb field [] parent (m.wouldCycle field parent) :=
  climb_leadsTo _ [] parent List.nodup_nil (List.nil_subset _)
    (by simp only [List.length_nil]; omega)

/-- **The climb finds the field exactly if it is met above the start.**  What was seen leads only
to what was seen and to the id the climb has come to, and the field is not among it. -/
theorem Climb.eq_true_iff {seen : List String} {id : String} {met : Bool}
    (h : m.Climb field seen id met) (hfield : field ∉ seen)
    (hup : ∀ j ∈ seen, ∀ q, m.namedParent? j = some q → q ∈ seen ∨ q = id) :
    met = true ↔ AtOrAbove m.namedParent? id field := by
  induction h with
  | found => exact ⟨fun _ => .refl, fun _ => rfl⟩
  | @again seen id hne hseen =>
    have hclosed : ∀ {x}, AtOrAbove m.namedParent? id x → x ∈ seen := by
      intro x hx
      induction hx with
      | refl => exact hseen
      | tail _ hstep ih =>
        rcases hup _ ih _ hstep with hmem | rfl
        · exact hmem
        · exact hseen
    exact ⟨fun hmet => absurd hmet Bool.false_ne_true, fun hmet => absurd (hclosed hmet) hfield⟩
  | top hne hseen htop =>
    refine ⟨fun hmet => absurd hmet Bool.false_ne_true, fun hmet => ?_⟩
    rcases ReflTransGen.cases_head hmet with heq | ⟨p, hp, _⟩
    · exact absurd heq hne
    · rw [htop] at hp
      cases hp
  | @step seen id p met hne hseen hp _ ih =>
    have hnext : ∀ j ∈ id :: seen, ∀ q, m.namedParent? j = some q → q ∈ id :: seen ∨ q = p := by
      intro j hj q hq
      rcases List.mem_cons.1 hj with rfl | hj
      · rw [hp, Option.some.injEq] at hq
        exact .inr hq.symm
      · rcases hup j hj q hq with hmem | rfl
        · exact .inl (List.mem_cons_of_mem _ hmem)
        · exact .inl (List.mem_cons_self ..)
    rw [ih (by simp [Ne.symm hne, hfield]) hnext]
    constructor
    · exact ReflTransGen.head hp
    · intro hmet
      rcases ReflTransGen.cases_head hmet with heq | ⟨q, hq, hrest⟩
      · exact absurd heq hne
      · rw [hp, Option.some.injEq] at hq
        rw [hq]
        exact hrest

theorem wouldCycle_iff_atOrAbove :
    m.wouldCycle field parent = true ↔ AtOrAbove m.namedParent? parent field :=
  (climb_wouldCycle m field parent).eq_true_iff List.not_mem_nil fun _ hj => by cases hj

/-! ## The module afterwards -/

/-- The second module is the first one after a field got a parent: the last declaration of its id
if there is one, else a new field at the end. -/
inductive GivenParent (field parent : String) : Module → Module → Prop
  | moved {m : Module} (h : m.contains field = true) :
    GivenParent field parent m (m.reparent field (some parent))
  | added {m : Module} {f : Field} (h : m.contains field = false) (hid : f.id = field)
    (hparent : f.parent = some parent) : GivenParent field parent m (m.addField f)

theorem lastOf?_cons (id : String) (f : Field) (fields : List Field) :
    lastOf? id (f :: fields) = (lastOf? id fields).or (if f.id = id then some f else none) := by
  unfold lastOf?
  rw [List.reverse_cons, List.find?_append, List.find?_singleton]
  simp only [beq_iff_eq]

theorem lastOf?_eq_none_iff {id : String} {fields : List Field} :
    lastOf? id fields = none ↔ (fields.all fun f => f.id != id) = true := by
  simp [lastOf?]

/-- Only the last declaration of an id is changed. -/
theorem lastOf?_updateLast (id : String) (change : Field → Field)
    (hchange : ∀ f, (change f).id = f.id) (other : String) (fields : List Field) :
    lastOf? other (updateLast id change fields) =
      if other = id then (lastOf? id fields).map change else lastOf? other fields := by
  induction fields with
  | nil => simp [updateLast, lastOf?]
  | cons f fields ih =>
    unfold updateLast
    split
    · rename_i hlast
      obtain ⟨hid, hall⟩ := hlast
      rw [lastOf?_cons, lastOf?_cons, lastOf?_cons, hchange, hid,
        lastOf?_eq_none_iff.2 hall]
      by_cases hother : other = id
      · subst hother
        simp [lastOf?_eq_none_iff.2 hall]
      · simp [hother, Ne.symm hother]
    · rename_i hlast
      rw [lastOf?_cons, ih, lastOf?_cons, lastOf?_cons]
      by_cases hother : other = id
      · subst hother
        by_cases hid : f.id = other
        · -- A later declaration of the id exists, which hides this one.
          have hsome : lastOf? other fields ≠ none := fun h =>
            hlast ⟨hid, lastOf?_eq_none_iff.1 h⟩
          obtain ⟨g, hg⟩ := Option.ne_none_iff_exists'.1 hsome
          simp [hg]
        · simp [hid]
      · simp [hother]

theorem ids_updateField (m : Module) (id : String) (change : Field → Field)
    (hchange : ∀ f, (change f).id = f.id) : (m.updateField id change).ids = m.ids := by
  unfold updateField ids
  induction m.fields with
  | nil => rfl
  | cons f fields ih =>
    unfold updateLast
    split
    · rw [List.map_cons, List.map_cons, hchange]
    · rw [List.map_cons, List.map_cons, ih]

theorem field?_reparent (m : Module) (id : String) (parent : Option String) (other : String) :
    (m.reparent id parent).field? other =
      if other = id then (m.field? id).map fun f => { f with parent := parent }
      else m.field? other :=
  lastOf?_updateLast id (fun f => { f with parent := parent }) (fun _ => rfl) other m.fields

theorem field?_addField (m : Module) (f : Field) (id : String) :
    (m.addField f).field? id = if f.id = id then some f else m.field? id := by
  unfold addField field? lastOf?
  rw [List.reverse_append, List.reverse_singleton, List.singleton_append, List.find?_cons]
  by_cases h : f.id = id
  · simp [h]
  · have hne : (f.id == id) = false := by simp [h]
    rw [hne, if_neg h]

theorem exists_field? {id : String} (h : m.contains id = true) : ∃ f, m.field? id = some f := by
  obtain ⟨d, hd, rfl⟩ := exists_mem_kept (contains_iff.1 h)
  exact ⟨d.1, field?_of_mem_kept hd⟩

@[simp]
theorem ids_reparent (m : Module) (field : String) (parent : Option String) :
    (m.reparent field parent).ids = m.ids := ids_updateField m field _ fun _ => rfl

theorem namedParent?_reparent {parent : Option String} (hfield : field ∈ m.ids) (id : String) :
    (m.reparent field parent).namedParent? id =
      if id = field then parent else m.namedParent? id := by
  obtain ⟨f, hf⟩ := exists_field? (contains_iff.2 hfield)
  unfold namedParent?
  rw [field?_reparent, hf]
  split <;> rfl

theorem mem_ids_of_givenParent (h : GivenParent field parent m m') {id : String} :
    id ∈ m'.ids ↔ id ∈ m.ids ∨ id = field := by
  cases h with
  | moved hfield =>
    rw [contains_iff] at hfield
    rw [ids_reparent]
    exact ⟨.inl, fun hid => hid.elim (fun hid => hid) fun hid => hid ▸ hfield⟩
  | added _ hid _ =>
    subst hid
    simp [addField, ids]

/-- **Only the field has another parent afterwards.** -/
theorem namedParent?_of_givenParent (h : GivenParent field parent m m') (id : String) :
    m'.namedParent? id = if id = field then some parent else m.namedParent? id := by
  cases h with
  | moved hfield => exact namedParent?_reparent (contains_iff.1 hfield) id
  | @added f _ hid hparent =>
    subst hid
    unfold namedParent?
    rw [field?_addField]
    by_cases heq : id = f.id
    · rw [if_pos heq.symm, if_pos heq, Option.bind_some, hparent]
    · rw [if_neg (Ne.symm heq), if_neg heq]

/-! ## Its cycles -/

theorem above_parentOf?_iff {id other : String} (hother : other ∈ m.ids) :
    Above m.parentOf? id other ↔ Above m.namedParent? id other := by
  constructor
  · exact Above.of_sub fun _ _ h => (parentOf?_eq_some_iff.1 h).1
  · intro h
    induction h with
    | single hstep => exact .single (parentOf?_eq_some_iff.2 ⟨hstep, hother⟩)
    | tail _ hstep ih =>
      have hdeclared := mem_ids_of_namedParent? hstep
      exact (ih hdeclared).tail (parentOf?_eq_some_iff.2 ⟨hstep, hother⟩)

theorem above_self_parentOf?_iff {id : String} :
    Above m.parentOf? id id ↔ Above m.namedParent? id id := by
  constructor
  · exact Above.of_sub fun _ _ h => (parentOf?_eq_some_iff.1 h).1
  · intro hloop
    obtain ⟨p, hp⟩ := hloop.exists_up
    exact (above_parentOf?_iff (mem_ids_of_namedParent? hp)).2 hloop

/-- **The check tells whether the field will lie on a cycle.** -/
theorem wouldCycle_iff_above (h : GivenParent field parent m m') :
    m.wouldCycle field parent = true ↔ Above m'.parentOf? field field := by
  rw [wouldCycle_iff_atOrAbove, above_self_parentOf?_iff]
  refine (above_self_iff_of_eq_off ?_ ?_).symm
  · intro id hne
    rw [namedParent?_of_givenParent h, if_neg hne]
  · rw [namedParent?_of_givenParent h, if_pos rfl]

theorem parentOf?_iff_of_givenParent (h : GivenParent field parent m m') {id q : String}
    (hid : id ≠ field) (hq : q ≠ field) : m'.parentOf? id = some q ↔ m.parentOf? id = some q := by
  rw [parentOf?_eq_some_iff, parentOf?_eq_some_iff, namedParent?_of_givenParent h, if_neg hid,
    mem_ids_of_givenParent h, or_iff_left hq]

/-- **All cycles through other ids stay**, and none is new. -/
theorem round_iff_of_givenParent (h : GivenParent field parent m m') {round : List String}
    (hfield : field ∉ round) : Round m'.parentOf? round ↔ Round m.parentOf? round := by
  have hlink : ∀ a ∈ round, ∀ b ∈ round,
      (m'.parentOf? a = some b ↔ m.parentOf? a = some b) := fun a ha b hb =>
    parentOf?_iff_of_givenParent h (fun heq => hfield (heq ▸ ha)) fun heq => hfield (heq ▸ hb)
  constructor
  · exact fun hround => hround.of_links fun a ha b hb => (hlink a ha b hb).1
  · exact fun hround => hround.of_links fun a ha b hb => (hlink a ha b hb).2

/-! ## Runs of edits -/

/-- A field got another parent after this was found to close no cycle. -/
def CheckedEdit (m m' : Module) : Prop :=
  ∃ field parent, m.wouldCycle field parent = false ∧ GivenParent field parent m m'

/-- **A checked edit keeps a module free of cycles.** -/
theorem CheckedEdit.acyclic (h : CheckedEdit m m') (hm : Acyclic m.parentOf?) :
    Acyclic m'.parentOf? := by
  obtain ⟨field, parent, hno, hgiven⟩ := h
  rw [acyclic_iff_no_round] at hm ⊢
  intro round hround
  have hfield : field ∉ round := by
    intro hmem
    rw [(wouldCycle_iff_above hgiven).2 (hround.above_self hmem)] at hno
    cases hno
  exact hm round ((round_iff_of_givenParent hgiven hfield).1 hround)

theorem acyclic_of_checkedEdits (h : ReflTransGen CheckedEdit m m') (hm : Acyclic m.parentOf?) :
    Acyclic m'.parentOf? := by
  induction h with
  | refl => exact hm
  | tail _ hedit ih => exact hedit.acyclic ih

end Module

/-! ## Main theorem -/

/-- **The check before a field gets another parent is exact.**  Its climb ends; it answers `true`
exactly if the field lies on a cycle of parents afterwards, and else the cycles afterwards are
those from before that the field was not on.  So checked edits, however many, never lead from a
module without cycles to one whose forest had a cycle to break. -/
theorem wouldCycle_exact (m : Module) (field parent : String) :
    m.Climb field [] parent (m.wouldCycle field parent) ∧
      (∀ m', Module.GivenParent field parent m m' →
        (m.wouldCycle field parent = true ↔ ∃ round, Round m'.parentOf? round ∧ field ∈ round) ∧
        (m.wouldCycle field parent = false →
          ∀ round, Round m'.parentOf? round ↔ Round m.parentOf? round ∧ field ∉ round)) ∧
      ∀ m', ReflTransGen Module.CheckedEdit m m' →
        (Forest.build m).diagnostics.cycleBreaks = [] →
        (Forest.build m').diagnostics.cycleBreaks = [] := by
  refine ⟨m.climb_wouldCycle field parent, fun m' hgiven => ⟨?_, ?_⟩, ?_⟩
  · rw [Module.wouldCycle_iff_above hgiven]
    exact ⟨exists_round, fun ⟨_, hround, hmem⟩ => hround.above_self hmem⟩
  · intro hno round
    constructor
    · intro hround
      have hfield : field ∉ round := by
        intro hmem
        rw [(Module.wouldCycle_iff_above hgiven).2 (hround.above_self hmem)] at hno
        cases hno
      exact ⟨(Module.round_iff_of_givenParent hgiven hfield).1 hround, hfield⟩
    · rintro ⟨hround, hfield⟩
      exact (Module.round_iff_of_givenParent hgiven hfield).2 hround
  · intro m' hedits hnone
    rw [Module.cycleBreaks_eq_nil_iff] at hnone ⊢
    exact Module.acyclic_of_checkedEdits hedits hnone

/-- A text field below another field. -/
def Field.below (parent id : String) : Field := { Field.ofId id .text with parent := some parent }

/-- Two fields in a circle, and beside them a field with one below it. -/
def Module.tangled : Module :=
  { Module.ofId "tangled" with
    fields := [.below "y" "x", .below "x" "y", .ofId "a" .text, .below "a" "b"] }

/-- Below its child the field closes a cycle; below the circle it does not lie on one; and a field
that is added below it leaves the last two fields alone free of cycles. -/
theorem wouldCycle_exact_tangled :
    (Module.tangled.wouldCycle "a" "b" = true ∧
      ∃ round, Round (Module.tangled.reparent "a" (some "b")).parentOf? round ∧ "a" ∈ round) ∧
    (Module.tangled.wouldCycle "a" "x" = false ∧
      ∀ round, Round (Module.tangled.reparent "a" (some "x")).parentOf? round ↔
        Round Module.tangled.parentOf? round ∧ "a" ∉ round) ∧
    (Forest.build (((Module.ofId "m").addField (.ofId "a" .text)).addField
      (.below "a" "b"))).diagnostics.cycleBreaks = [] := by
  have hbelow : Module.tangled.wouldCycle "a" "b" = true := by decide
  have hbeside : Module.tangled.wouldCycle "a" "x" = false := by decide
  obtain ⟨_, hchild, _⟩ := wouldCycle_exact Module.tangled "a" "b"
  obtain ⟨_, hcircle, _⟩ := wouldCycle_exact Module.tangled "a" "x"
  obtain ⟨_, _, hrun⟩ := wouldCycle_exact ((Module.ofId "m").addField (.ofId "a" .text)) "b" "a"
  refine ⟨⟨hbelow, (hchild _ (.moved (by decide))).1.1 hbelow⟩,
    ⟨hbeside, (hcircle _ (.moved (by decide))).2 hbeside⟩, hrun _ (.single ?_) (by decide)⟩
  exact ⟨"b", "a", by decide, .added (by decide) rfl rfl⟩

end DynamicForms
