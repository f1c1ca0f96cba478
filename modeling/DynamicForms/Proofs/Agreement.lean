import DynamicForms.Proofs.Repairs

/-!
# Reports agree with built forests

A report reads every declaration of a module and follows parents without loops; a forest is built
of the last declarations only, and its cycles are loops as well as longer ones.

* `Report.errorIds` — the ids of the errors of one kind; `duplicateIds_check`,
  `mem_selfParentIds_check`, `unresolvedParentIds_check` and `parentCycleIds_check` say what they
  are for each kind.
* `sameWays_parentsOfAll` — among the last declarations a report follows the parents of the ids,
  loops left out.
* `mem_breaks_parentsOfAll` — so its cycles are those of the forest that are no loops, and start
  where the forest breaks them.
* `check_agrees` — a report has no errors exactly if the forest had nothing to repair, and its
  errors name what the forest repairs.
-/

set_option autoImplicit false

namespace DynamicForms

open Structure

/-! ## Errors by their kinds -/

namespace Structure

/-- The ids of the issues of a kind, in their order. -/
def idsOfKind (kind : FindingKind) (issues : List Issue) : List String :=
  (issues.filter fun issue => issue.finding.kind = kind).map (·.field)

theorem idsOfKind_append (kind : FindingKind) (issues more : List Issue) :
    idsOfKind kind (issues ++ more) = idsOfKind kind issues ++ idsOfKind kind more := by
  simp [idsOfKind]

theorem idsOfKind_flatMap {α : Type} (kind : FindingKind) (f : α → List Issue) (l : List α) :
    idsOfKind kind (l.flatMap f) = l.flatMap fun a => idsOfKind kind (f a) := by
  induction l with
  | nil => rfl
  | cons a l ih => rw [List.flatMap_cons, idsOfKind_append, ih, List.flatMap_cons]

theorem idsOfKind_map (kind : FindingKind) (finding : Finding) (ids : List String) :
    idsOfKind kind (ids.map fun id => ⟨id, finding⟩) = if finding.kind = kind then ids else [] := by
  unfold idsOfKind
  rw [List.filter_map, List.map_map]
  by_cases h : finding.kind = kind <;> simp [h, Function.comp_def]

theorem mem_idsOfKind {issue : Issue} {issues : List Issue} (h : issue ∈ issues) :
    issue.field ∈ idsOfKind issue.finding.kind issues := by
  unfold idsOfKind
  exact List.mem_map.2 ⟨issue, List.mem_filter.2 ⟨h, by simp⟩, rfl⟩

theorem duplicateErrors_eq (ids : List String) :
    ∀ before : List String,
      duplicateErrors before ids = (repeatedAfter before ids).map fun id => ⟨id, .duplicateId⟩ := by
  induction ids with
  | nil => intro before; rfl
  | cons id ids ih =>
    intro before
    unfold duplicateErrors repeatedAfter
    split
    · rw [ih, List.map_cons]
    · rw [ih]

theorem cycleErrors_eq (ids : Array String) (cycle : List Nat) :
    cycleErrors ids cycle = (cycle.min?.bind (ids[·]?)).toList.map fun id =>
      ⟨id, .parentCycle (cycle.filterMap (ids[·]?))⟩ := by
  unfold cycleErrors
  cases cycle.min?.bind (ids[·]?) <;> rfl

theorem kind_of_mem_duplicateErrors {issue : Issue} {before ids : List String}
    (h : issue ∈ duplicateErrors before ids) : issue.finding.kind = .duplicateId := by
  rw [duplicateErrors_eq] at h
  obtain ⟨id, _, rfl⟩ := List.mem_map.1 h
  rfl

theorem kind_of_mem_parentErrors {issue : Issue} {ids : List String} {f : Field}
    (h : issue ∈ parentErrors ids f) :
    issue.finding.kind = .selfParent ∨ issue.finding.kind = .unresolvedParent := by
  unfold parentErrors at h
  split at h
  · cases h
  · split at h
    · rw [List.mem_singleton.1 h]
      exact .inl rfl
    · split at h
      · cases h
      · rw [List.mem_singleton.1 h]
        exact .inr rfl

theorem kind_of_mem_cycleErrors {issue : Issue} {ids : Array String} {cycle : List Nat}
    (h : issue ∈ cycleErrors ids cycle) : issue.finding.kind = .parentCycle := by
  rw [cycleErrors_eq] at h
  obtain ⟨id, _, rfl⟩ := List.mem_map.1 h
  rfl

/-- What is wrong with the parent of a declaration. -/
def parentFault? (ids : List String) (f : Field) : Option FindingKind :=
  match f.parent with
  | none => none
  | some p =>
    if p = f.id then some .selfParent else if ids.contains p then none else some .unresolvedParent

theorem parentFault?_eq_selfParent_iff {ids : List String} {f : Field} :
    parentFault? ids f = some .selfParent ↔ f.parent = some f.id := by
  unfold parentFault?
  split
  · simp [*]
  · split
    · simp [*]
    · split <;> simp [*]

theorem parentFault?_eq_unresolvedParent_iff {ids : List String} {f : Field} (hf : f.id ∈ ids) :
    parentFault? ids f = some .unresolvedParent ↔ ∃ p, f.parent = some p ∧ p ∉ ids := by
  unfold parentFault?
  split
  · simp [*]
  · split
    · simp [*]
    · split <;> simp_all

theorem parentFault?_cases (ids : List String) (f : Field) :
    parentFault? ids f = none ∨ parentFault? ids f = some .selfParent ∨
      parentFault? ids f = some .unresolvedParent := by
  unfold parentFault?
  split
  · exact .inl rfl
  · split
    · exact .inr (.inl rfl)
    · split
      · exact .inl rfl
      · exact .inr (.inr rfl)

theorem idsOfKind_parentErrors (kind : FindingKind) (ids : List String) (f : Field) :
    idsOfKind kind (parentErrors ids f) =
      if parentFault? ids f = some kind then [f.id] else [] := by
  unfold parentErrors parentFault?
  cases f.parent with
  | none => rfl
  | some p =>
    by_cases hself : p = f.id
    · simp only [if_pos hself, Option.some.injEq]
      exact idsOfKind_map kind .selfParent [f.id]
    · by_cases hmem : p ∈ ids
      · simp [hself, hmem, idsOfKind]
      · simp only [if_neg hself, List.contains_iff_mem, if_neg hmem, Option.some.injEq]
        exact idsOfKind_map kind (.unresolvedParent p) [f.id]

theorem idsOfKind_flatMap_parentErrors (kind : FindingKind) (ids : List String)
    (fields : List Field) :
    idsOfKind kind (fields.flatMap (parentErrors ids)) =
      (fields.filter fun f => parentFault? ids f = some kind).map (·.id) := by
  rw [idsOfKind_flatMap]
  induction fields with
  | nil => rfl
  | cons f fields ih =>
    rw [List.flatMap_cons, ih, idsOfKind_parentErrors, List.filter_cons]
    by_cases h : parentFault? ids f = some kind <;> simp [h]

theorem filter_parentFault?_eq_nil {kind : FindingKind} (hself : kind ≠ .selfParent)
    (hunresolved : kind ≠ .unresolvedParent) (ids : List String) (fields : List Field) :
    (fields.filter fun f => parentFault? ids f = some kind) = [] := by
  refine List.filter_eq_nil_iff.2 fun f _ => ?_
  rcases parentFault?_cases ids f with h | h | h
  · simp [h]
  · simp [h, Ne.symm hself]
  · simp [h, Ne.symm hunresolved]

theorem idsOfKind_flatMap_cycleErrors (kind : FindingKind) (ids : Array String)
    (cycles : List (List Nat)) :
    idsOfKind kind (cycles.flatMap (cycleErrors ids)) =
      if .parentCycle = kind then (cycles.filterMap List.min?).filterMap (ids[·]?) else [] := by
  have hcycle : ∀ cycle, idsOfKind kind (cycleErrors ids cycle) =
      if .parentCycle = kind then (cycle.min?.bind (ids[·]?)).toList else [] := by
    intro cycle
    rw [cycleErrors_eq]
    exact idsOfKind_map kind (.parentCycle _) _
  rw [idsOfKind_flatMap]
  simp only [hcycle]
  split
  · rw [List.filterMap_filterMap, List.filterMap_eq_flatMap_toList]
  · simp

end Structure

/-- The ids of a report's errors of a kind, in the order of the errors. -/
def Report.errorIds (report : Report) (kind : FindingKind) : List String :=
  idsOfKind kind report.errors

section Errors

variable (m : Module) (config : Config)

theorem errors_check : (m.check config).errors =
    duplicateErrors [] m.ids ++ m.fields.flatMap (parentErrors m.ids) ++
      (parentsOfAll m.fields).findCycles.flatMap (cycleErrors m.ids.toArray) := rfl

theorem warnings_check : (m.check config).warnings =
    m.fields.flatMap (fieldWarnings m.ids) ++
      depthWarnings (parentsOfAll m.fields) config.maxDepthWarning m.ids := rfl

/-- **What the errors of a kind name.** -/
theorem errorIds_check (kind : FindingKind) : (m.check config).errorIds kind =
    (if .duplicateId = kind then m.duplicates else []) ++
      (m.fields.filter fun f => parentFault? m.ids f = some kind).map (·.id) ++
      if .parentCycle = kind then (parentsOfAll m.fields).breaks.filterMap (m.ids[·]?) else [] := by
  have hduplicates := idsOfKind_map kind .duplicateId (repeatedAfter [] m.ids)
  rw [← duplicateErrors_eq] at hduplicates
  unfold Report.errorIds Parents.breaks
  rw [errors_check, idsOfKind_append, idsOfKind_append, hduplicates, idsOfKind_flatMap_parentErrors,
    idsOfKind_flatMap_cycleErrors]
  simp only [List.getElem?_toArray]
  rfl

theorem duplicateIds_check : (m.check config).errorIds .duplicateId = m.duplicates := by
  rw [errorIds_check, filter_parentFault?_eq_nil (by decide) (by decide)]
  simp

theorem mem_selfParentIds_check {id : String} :
    id ∈ (m.check config).errorIds .selfParent ↔
      ∃ f ∈ m.fields, f.id = id ∧ f.parent = some id := by
  rw [errorIds_check]
  simp only [reduceCtorEq, if_false, List.nil_append, List.append_nil, List.mem_map,
    List.mem_filter, decide_eq_true_iff, parentFault?_eq_selfParent_iff]
  constructor
  · rintro ⟨f, ⟨hf, hself⟩, rfl⟩
    exact ⟨f, hf, rfl, hself⟩
  · rintro ⟨f, hf, rfl, hself⟩
    exact ⟨f, ⟨hf, hself⟩, rfl⟩

theorem unresolvedParentIds_check : (m.check config).errorIds .unresolvedParent =
    (m.fields.filter fun f => f.parent.any fun p => !m.contains p).map (·.id) := by
  have hfaults : (m.fields.filter fun f => parentFault? m.ids f = some .unresolvedParent) =
      m.fields.filter fun f => f.parent.any fun p => !m.contains p := by
    refine List.filter_congr fun f hf => ?_
    have hid : f.id ∈ m.ids := List.mem_map.2 ⟨f, hf, rfl⟩
    rw [Bool.eq_iff_iff, decide_eq_true_iff, parentFault?_eq_unresolvedParent_iff hid,
      Option.any_eq_true]
    refine exists_congr fun p => and_congr_right fun _ => ?_
    rw [Bool.not_eq_true', ← Bool.not_eq_true, Module.contains_iff]
  rw [errorIds_check, hfaults]
  simp

theorem parentCycleIds_check : (m.check config).errorIds .parentCycle =
    (parentsOfAll m.fields).breaks.filterMap (m.ids[·]?) := by
  rw [errorIds_check, filter_parentFault?_eq_nil (by decide) (by decide)]
  simp

theorem kind_of_mem_errors_check {issue : Issue} (h : issue ∈ (m.check config).errors) :
    issue.finding.kind ∈
      [FindingKind.duplicateId, .selfParent, .unresolvedParent, .parentCycle] := by
  rw [errors_check, List.mem_append, List.mem_append] at h
  rcases h with (h | h) | h
  · simp [kind_of_mem_duplicateErrors h]
  · obtain ⟨f, _, hf⟩ := List.mem_flatMap.1 h
    rcases kind_of_mem_parentErrors hf with hkind | hkind <;> simp [hkind]
  · obtain ⟨cycle, _, hcycle⟩ := List.mem_flatMap.1 h
    simp [kind_of_mem_cycleErrors hcycle]

end Errors

/-! ## Parents without loops -/

section Loops

variable {m : Module}

theorem parent?_parentsOfAll (fields : List Field) (i : Nat) :
    (parentsOfAll fields).parent? i =
      fields[i]?.bind (usableParent? (fields.map (·.id))) := by
  unfold parentsOfAll Parents.parent?
  rw [List.getElem?_toArray, List.getElem?_map]
  cases fields[i]? <;> rfl

theorem usableParent?_eq_some_iff {ids : List String} {f : Field} {p : Nat} :
    usableParent? ids f = some p ↔
      ∃ q, f.parent = some q ∧ q ≠ f.id ∧ lastIndexOf? ids q = some p := by
  unfold usableParent?
  rw [Option.bind_eq_some_iff]
  refine exists_congr fun q => and_congr_right fun _ => ?_
  split <;> simp [*]

theorem exists_field_of_lastIndexOf? {id : String} {i : Nat} (h : lastIndexOf? m.ids id = some i) :
    ∃ f, m.fields[i]? = some f ∧ f.id = id ∧ m.namedParent? id = f.parent := by
  have hget := (lastIndexOf?_eq_some_iff.1 h).1
  unfold Module.ids at h hget
  rw [List.getElem?_map] at hget
  obtain ⟨f, hf, hid⟩ := Option.map_eq_some_iff.1 hget
  refine ⟨f, hf, hid, ?_⟩
  unfold Module.namedParent? Module.field?
  rw [lastOf?_eq_bind, h, Option.bind_some, hf, Option.bind_some]

/-- **Among the last declarations a report follows the parents of the ids**, loops left out. -/
theorem sameWays_parentsOfAll (m : Module) :
    SameWays (withoutLoops m.parentOf?) (parentsOfAll m.fields).parent?
      fun id i => lastIndexOf? m.ids id = some i where
  right_unique := by
    intro id i j hi hj
    rw [hi, Option.some.injEq] at hj
    exact hj
  left_unique := by
    intro id other i hi hi'
    have hid := (lastIndexOf?_eq_some_iff.1 hi).1
    rw [(lastIndexOf?_eq_some_iff.1 hi').1, Option.some.injEq] at hid
    exact hid.symm
  forth := by
    intro id i q hi hq
    obtain ⟨hparent, hne⟩ := withoutLoops_eq_some_iff.1 hq
    obtain ⟨hnamed, hmem⟩ := Module.parentOf?_eq_some_iff.1 hparent
    obtain ⟨f, hf, rfl, heq⟩ := exists_field_of_lastIndexOf? hi
    obtain ⟨p, hp⟩ := exists_lastIndexOf? hmem
    refine ⟨p, ?_, hp⟩
    rw [parent?_parentsOfAll, hf, Option.bind_some, usableParent?_eq_some_iff]
    exact ⟨q, heq ▸ hnamed, hne, hp⟩
  back := by
    intro id i p hi hp
    obtain ⟨f, hf, rfl, heq⟩ := exists_field_of_lastIndexOf? hi
    rw [parent?_parentsOfAll, hf, Option.bind_some, usableParent?_eq_some_iff] at hp
    obtain ⟨q, hq, hne, hlast⟩ := hp
    refine ⟨q, withoutLoops_eq_some_iff.2 ⟨?_, hne⟩, hlast⟩
    exact Module.parentOf?_eq_some_iff.2 ⟨heq.trans hq, mem_of_lastIndexOf? hlast⟩

theorem lastIndexOf?_of_parent?_parentsOfAll {i j : Nat} {id : String}
    (h : (parentsOfAll m.fields).parent? j = some i) (hid : m.ids[i]? = some id) :
    lastIndexOf? m.ids id = some i := by
  rw [parent?_parentsOfAll] at h
  obtain ⟨f, _, hf⟩ := Option.bind_eq_some_iff.1 h
  obtain ⟨q, _, _, hlast⟩ := usableParent?_eq_some_iff.1 hf
  have hq := (lastIndexOf?_eq_some_iff.1 hlast).1
  have hsame : m.ids[i]? = some q := hq
  rw [hid, Option.some.injEq] at hsame
  rw [hsame]
  exact hlast

theorem lastIndexOf?_of_mem_breaks {i : Nat} {id : String}
    (hi : i ∈ (parentsOfAll m.fields).breaks) (hid : m.ids[i]? = some id) :
    lastIndexOf? m.ids id = some i := by
  obtain ⟨j, _, hj⟩ := Relation.TransGen.tail'_iff.1 (Parents.mem_breaks.1 hi).1
  exact lastIndexOf?_of_parent?_parentsOfAll hj hid

/-- **A report's cycles start where the forest breaks them**, and only loops are left out. -/
theorem mem_breaks_parentsOfAll {i : Nat} {id : String} (hi : lastIndexOf? m.ids id = some i) :
    i ∈ (parentsOfAll m.fields).breaks ↔
      id ∈ (Forest.build m).diagnostics.cycleBreaks ∧ m.namedParent? id ≠ some id := by
  rw [Parents.mem_breaks_of_sameWays (sameWays_parentsOfAll m) hi, mem_cycleBreaks,
    above_self_withoutLoops_iff, ne_eq, ne_eq, Module.parentOf?_self_iff, and_right_comm]
  refine and_congr_left fun hself => and_congr_right fun hloop => forall_congr' fun other => ?_
  rw [above_withoutLoops_iff hloop (mt Module.parentOf?_self_iff.1 hself)]
  refine imp_congr_right fun _ => ?_
  unfold Module.KeptBefore
  constructor
  · rintro ⟨j, hj, hle⟩
    exact ⟨i, j, hi, hj, hle⟩
  · rintro ⟨i', j, hi', hj, hle⟩
    rw [hi, Option.some.injEq] at hi'
    exact ⟨j, hj, hi' ▸ hle⟩

theorem mem_parentCycleIds_check (config : Config) {id : String} :
    id ∈ (m.check config).errorIds .parentCycle ↔
      id ∈ (Forest.build m).diagnostics.cycleBreaks ∧ m.namedParent? id ≠ some id := by
  rw [parentCycleIds_check, List.mem_filterMap]
  constructor
  · rintro ⟨i, hi, hid⟩
    exact (mem_breaks_parentsOfAll (lastIndexOf?_of_mem_breaks hi hid)).1 hi
  · intro h
    obtain ⟨q, hq⟩ := (mem_cycleBreaks.1 h.1).1.exists_up
    obtain ⟨i, hi⟩ := exists_lastIndexOf? (Module.mem_ids_of_parentOf? hq)
    exact ⟨i, (mem_breaks_parentsOfAll hi).2 h, (lastIndexOf?_eq_some_iff.1 hi).1⟩

theorem nodup_parentCycleIds_check (m : Module) (config : Config) :
    ((m.check config).errorIds .parentCycle).Nodup := by
  rw [parentCycleIds_check, List.Nodup, List.pairwise_filterMap]
  refine (Parents.nodup_breaks _).imp_of_mem fun {i j} hi hj hne id hid other hother => ?_
  rintro rfl
  have hlast := lastIndexOf?_of_mem_breaks hi hid
  rw [lastIndexOf?_of_mem_breaks hj hother, Option.some.injEq] at hlast
  exact hne hlast.symm

end Loops

theorem namedParent?_ne_of_cycleBreaks_eq_nil {m : Module}
    (h : (Forest.build m).diagnostics.cycleBreaks = []) {id : String} :
    m.namedParent? id ≠ some id := by
  intro hnamed
  exact Module.cycleBreaks_eq_nil_iff.1 h id (.single (Module.parentOf?_self_iff.2 hnamed))

/-! ## Modules that declare every id once -/

section Nodup

variable {m : Module}

theorem kept_of_nodup (h : m.ids.Nodup) : m.kept = m.fields.zipIdx := by
  rw [Module.kept_eq_filter, List.filter_eq_self]
  intro d hd
  have hget : m.ids[d.2]? = some d.1.id := by
    rw [Module.ids, List.getElem?_map, List.mem_zipIdx_iff_getElem?.1 hd, Option.map_some]
  rw [beq_iff_eq, lastIndexOf?_eq_some_iff]
  refine ⟨hget, fun j hlt hj => ?_⟩
  obtain ⟨hd2, heq⟩ := List.getElem?_eq_some_iff.1 hget
  obtain ⟨hj2, heq'⟩ := List.getElem?_eq_some_iff.1 hj
  have hsame := (h.getElem_inj_iff).1 (heq.trans heq'.symm)
  omega

theorem fields_kept_of_nodup (h : m.ids.Nodup) : m.kept.map (·.1) = m.fields := by
  rw [kept_of_nodup h]
  exact List.zipIdx_map_fst 0 m.fields

theorem orphans_of_nodup (h : m.ids.Nodup) : (Forest.build m).diagnostics.orphans =
    (m.fields.filter fun f => f.parent.any fun p => !m.contains p).map (·.id) := by
  rw [orphans_build, ← fields_kept_of_nodup h, List.filter_map, List.map_map]
  rfl

theorem namedParent?_of_nodup (h : m.ids.Nodup) {f : Field} (hf : f ∈ m.fields) :
    m.namedParent? f.id = f.parent := by
  obtain ⟨i, hi⟩ := List.getElem?_of_mem hf
  have hmem : (f, i) ∈ m.kept := by
    rw [kept_of_nodup h]
    exact List.mem_zipIdx_iff_getElem?.2 hi
  exact Module.namedParent?_of_mem_kept hmem

end Nodup

/-! ## Main theorem -/

/-- How the report on a module agrees with what its forest repairs. -/
structure Agrees (m : Module) (report : Report) (d : Diagnostics) : Prop where
  /-- No error is reported exactly if nothing had to be repaired. -/
  isValid_iff : report.isValid = true ↔ d.isClean = true
  duplicateIds_eq : report.errorIds .duplicateId = d.duplicates
  nodup_parentCycleIds : (report.errorIds .parentCycle).Nodup
  /-- Cycles are reported where they are broken, loops left out. -/
  mem_parentCycleIds_iff : ∀ id, id ∈ report.errorIds .parentCycle ↔
    id ∈ d.cycleBreaks ∧ m.namedParent? id ≠ some id
  /-- Loops that are broken are reported as such. -/
  selfParent_of_break : ∀ id ∈ d.cycleBreaks, m.namedParent? id = some id →
    id ∈ report.errorIds .selfParent
  unresolvedParent_of_orphan : ∀ id ∈ d.orphans, id ∈ report.errorIds .unresolvedParent
  unresolvedParentIds_eq : m.ids.Nodup → report.errorIds .unresolvedParent = d.orphans

section Agreement

variable (m : Module) (config : Config)

theorem mem_selfParentIds_of_break {id : String} (hnamed : m.namedParent? id = some id) :
    id ∈ (m.check config).errorIds .selfParent := by
  obtain ⟨f, hf, hparent⟩ := Option.bind_eq_some_iff.1 hnamed
  rw [mem_selfParentIds_check]
  exact ⟨f, Module.mem_of_field? hf, Module.id_of_field? hf, hparent⟩

theorem mem_unresolvedParentIds_of_orphan {id : String}
    (hid : id ∈ (Forest.build m).diagnostics.orphans) :
    id ∈ (m.check config).errorIds .unresolvedParent := by
  rw [orphans_build] at hid
  rw [unresolvedParentIds_check]
  obtain ⟨d, hd, rfl⟩ := List.mem_map.1 hid
  obtain ⟨hkept, hparent⟩ := List.mem_filter.1 hd
  have hfield := List.mem_of_getElem? (Module.mem_kept.1 hkept).1
  exact List.mem_map.2 ⟨d.1, List.mem_filter.2 ⟨hfield, hparent⟩, rfl⟩

theorem unresolvedParentIds_eq_orphans (hnodup : m.ids.Nodup) :
    (m.check config).errorIds .unresolvedParent = (Forest.build m).diagnostics.orphans := by
  rw [orphans_of_nodup hnodup, unresolvedParentIds_check]

/-- With no errors there was nothing to repair. -/
theorem isClean_of_isValid (h : (m.check config).isValid = true) :
    (Forest.build m).diagnostics.isClean = true := by
  have herrors : (m.check config).errors = [] := List.isEmpty_iff.1 h
  have hids : ∀ kind, (m.check config).errorIds kind = [] := by
    intro kind
    unfold Report.errorIds
    rw [herrors]
    rfl
  have horphans : (Forest.build m).diagnostics.orphans = [] := by
    refine List.eq_nil_iff_forall_not_mem.2 fun id hid => ?_
    have hmem := mem_unresolvedParentIds_of_orphan m config hid
    rw [hids] at hmem
    cases hmem
  have hduplicates : (Forest.build m).diagnostics.duplicates = [] :=
    (duplicateIds_check m config).symm.trans (hids _)
  have hbreaks : (Forest.build m).diagnostics.cycleBreaks = [] := by
    refine List.eq_nil_iff_forall_not_mem.2 fun id hid => ?_
    by_cases hnamed : m.namedParent? id = some id
    · have hmem := mem_selfParentIds_of_break m config hnamed
      rw [hids] at hmem
      cases hmem
    · have hmem := (mem_parentCycleIds_check config).2 ⟨hid, hnamed⟩
      rw [hids] at hmem
      cases hmem
  unfold Diagnostics.isClean
  rw [horphans, hduplicates, hbreaks]
  rfl

/-- With nothing to repair there are no errors. -/
theorem isValid_of_isClean (h : (Forest.build m).diagnostics.isClean = true) :
    (m.check config).isValid = true := by
  unfold Diagnostics.isClean at h
  simp only [Bool.and_eq_true, List.isEmpty_iff] at h
  obtain ⟨⟨horphans, hduplicates⟩, hbreaks⟩ := h
  have hnodup : m.ids.Nodup := duplicates_eq_nil_iff.1 hduplicates
  refine List.isEmpty_iff.2 (List.eq_nil_iff_forall_not_mem.2 fun issue hissue => ?_)
  have hid : issue.field ∈ (m.check config).errorIds issue.finding.kind := mem_idsOfKind hissue
  have hkind := kind_of_mem_errors_check m config hissue
  simp only [List.mem_cons, List.not_mem_nil, or_false] at hkind
  rcases hkind with hkind | hkind | hkind | hkind <;> rw [hkind] at hid
  · have hmem := (duplicateIds_check m config).trans hduplicates
    rw [hmem] at hid
    cases hid
  · obtain ⟨f, hf, heq, hself⟩ := (mem_selfParentIds_check m config).1 hid
    have hnamed := (namedParent?_of_nodup hnodup hf).trans hself
    rw [heq] at hnamed
    exact namedParent?_ne_of_cycleBreaks_eq_nil hbreaks hnamed
  · have hmem := (unresolvedParentIds_eq_orphans m config hnodup).trans horphans
    rw [hmem] at hid
    cases hid
  · have hmem := ((mem_parentCycleIds_check config).1 hid).1
    rw [hbreaks] at hmem
    cases hmem

/-- **Reports agree with built forests**, whatever is set for warnings. -/
theorem check_agrees : Agrees m (m.check config) (Forest.build m).diagnostics where
  isValid_iff := ⟨isClean_of_isValid m config, isValid_of_isClean m config⟩
  duplicateIds_eq := duplicateIds_check m config
  nodup_parentCycleIds := nodup_parentCycleIds_check m config
  mem_parentCycleIds_iff := fun _ => mem_parentCycleIds_check config
  selfParent_of_break := fun _ _ hnamed => mem_selfParentIds_of_break m config hnamed
  unresolvedParent_of_orphan := fun _ hid => mem_unresolvedParentIds_of_orphan m config hid
  unresolvedParentIds_eq := unresolvedParentIds_eq_orphans m config

end Agreement

end DynamicForms
