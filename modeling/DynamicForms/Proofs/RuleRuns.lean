import DynamicForms.Pattern.Matching
import DynamicForms.Proofs.StandardRules

/-!
# Which rules run on a value

A value that gets past the rule for required fields comes to the rules that the settings of its
field ask for, and then to those that are listed.  Rules are whatever a registry holds under their
ids.

* `Field.impliedIds`, `Registry.ruleOn?` — what the settings of a field ask for, and the rule that
  runs under an id.
* `Registry.RunsOnce` — of some ids that come up one after the other, each that has a rule runs
  once, at its first place; `RunsOnce.eq`: this leaves no choice.
* `pairwise_pending` — what runs later is ordered by first places.
* `runsOnce_runs`, `errors_checkRules` — the rules that run, and that a verdict consists of their
  errors.
* `checkWith_runsOnce` — every rule runs once, with one exception: the one for required fields does
  not run on other fields, although they list it.
* `listed_required_not_run` — the exception makes a difference to a rule of the host under that id.
-/

set_option autoImplicit false

namespace DynamicForms

open Json (Value)

/-- The ids of the rules that the settings of a field ask for, in their order. -/
def Field.impliedIds (f : Field) : List String :=
  (if f.required then [requiredId] else []) ++
  (if f.hasLengthBounds then [lengthId] else []) ++
  if f.pattern.isSome then [patternId] else []

theorem Field.nodup_impliedIds (f : Field) : f.impliedIds.Nodup := by
  unfold impliedIds
  cases f.required <;> cases f.hasLengthBounds <;> cases f.pattern.isSome <;> decide

theorem Field.mem_impliedIds {f : Field} {id : String} :
    id ∈ f.impliedIds ↔ (id = requiredId ∧ f.required = true) ∨
      (id = lengthId ∧ f.hasLengthBounds = true) ∨ (id = patternId ∧ f.pattern.isSome = true) := by
  unfold impliedIds
  cases f.required <;> cases f.hasLengthBounds <;> cases f.pattern.isSome <;> simp

namespace Registry

variable {r : Registry} {f : Field} {node : Node} {v : Value} {form : Form} {id : String}
  {ids extra : List String}

/-- A value gets past the rule for required fields: the rule passes it, or the field is not required
and the value not blank. -/
def GetsPast (r : Registry) (node : Node) (v : Value) (form : Form) : Prop :=
  if node.field.required then ((r.getOr requiredId .required).check node v form).isValid = true
  else v.isBlank = false

/-- The standard rule that stands in where none is registered under an id. -/
def standIn (r : Registry) (id : String) : Rule :=
  if id = requiredId then .required
  else if id = lengthId then .length
  else .pattern r.engine r.config.faultPolicy

/-- The rule that runs on a field under an id; only what the settings of the field ask for runs
without being registered. -/
def ruleOn? (r : Registry) (f : Field) (id : String) : Option Rule :=
  if id ∈ f.impliedIds then some (r.getOr id (r.standIn id)) else r.get? id

/-- Rules that run because their ids come up: every rule that has one of the ids runs once, at the
first place of its id, and under ids without a rule nothing runs. -/
structure RunsOnce (r : Registry) (f : Field) (ids : List String)
    (ran : List (String × Rule)) : Prop where
  nodup : (ran.map (·.1)).Nodup
  mem_iff : ∀ id rule, (id, rule) ∈ ran ↔ id ∈ ids ∧ r.ruleOn? f id = some rule
  inOrder : ran.Pairwise fun a b => ids.idxOf a.1 < ids.idxOf b.1

/-- **There is one way to run rules once.** -/
theorem RunsOnce.eq {ran others : List (String × Rule)} (h : r.RunsOnce f ids ran)
    (h' : r.RunsOnce f ids others) : ran = others := by
  have hperm : ran.Perm others := by
    refine (List.perm_ext_iff_of_nodup h.nodup.of_map h'.nodup.of_map).2 ?_
    rintro ⟨id, rule⟩
    rw [h.mem_iff, h'.mem_iff]
  refine hperm.eq_of_pairwise ?_ h.inOrder h'.inOrder
  intro a b _ _ hlt hgt
  omega

/-! ## First places -/

/-- **What runs later is ordered by first places.** -/
theorem pairwise_pending (ids : List String) :
    ∀ ran, (pending ran ids).Pairwise fun a b => ids.idxOf a < ids.idxOf b := by
  induction ids with
  | nil => exact fun _ => .nil
  | cons x ids ih =>
    -- Whatever is pending behind `x` is something else, so that all its places move by one.
    have hmoved : ∀ ran, x ∈ ran →
        (pending ran ids).Pairwise fun a b => (x :: ids).idxOf a < (x :: ids).idxOf b := by
      intro ran hx
      refine (ih ran).imp_of_mem fun {a b} ha hb hlt => ?_
      have hxa : x ≠ a := fun heq => ((mem_pending ids ran).1 ha).2 (heq ▸ hx)
      have hxb : x ≠ b := fun heq => ((mem_pending ids ran).1 hb).2 (heq ▸ hx)
      rw [List.idxOf_cons_ne ids hxa, List.idxOf_cons_ne ids hxb]
      exact Nat.succ_lt_succ hlt
    intro ran
    unfold pending
    split
    · rename_i hx
      exact hmoved ran hx
    · refine List.pairwise_cons.2 ⟨fun b hb => ?_, hmoved _ (List.mem_cons_self ..)⟩
      have hxb : x ≠ b := by
        rintro rfl
        exact ((mem_pending ids _).1 hb).2 (List.mem_cons_self ..)
      rw [List.idxOf_cons_self, List.idxOf_cons_ne ids hxb]
      exact Nat.succ_pos _

theorem pending_congr (ids : List String) :
    ∀ {ran ran' : List String}, (∀ id, id ∈ ran ↔ id ∈ ran') →
      pending ran ids = pending ran' ids := by
  induction ids with
  | nil => exact fun _ => rfl
  | cons x ids ih =>
    intro ran ran' h
    have hnext : ∀ id, id ∈ x :: ran ↔ id ∈ x :: ran' := fun id => by simp [h]
    unfold pending
    rw [ih h, ih hnext]
    simp only [h]

theorem pending_cons (x : String) (ids : List String) :
    ∀ ran, pending (x :: ran) ids = pending ran (ids.filter (· != x)) := by
  induction ids with
  | nil => exact fun _ => rfl
  | cons y ids ih =>
    intro ran
    by_cases hy : y = x
    · simp [pending, hy, ih]
    · have hswap : pending (y :: x :: ran) ids = pending (x :: y :: ran) ids :=
        pending_congr ids fun id => by simp only [List.mem_cons]; tauto
      have hmem : y ∈ x :: ran ↔ y ∈ ran := by simp [hy]
      rw [List.filter_cons_of_pos (by simpa using hy)]
      simp only [pending, hmem, ih, hswap]

/-- **What comes up later runs** unless it came up before. -/
theorem pending_append (first ids : List String) :
    ∀ ran, pending ran (first ++ ids) = pending ran first ++ pending (first ++ ran) ids := by
  induction first with
  | nil => exact fun _ => rfl
  | cons x first ih =>
    intro ran
    have hswap : pending (first ++ x :: ran) ids = pending (x :: first ++ ran) ids :=
      pending_congr ids fun id => by simp only [List.mem_append, List.mem_cons]; tauto
    rw [List.cons_append, pending, pending]
    split
    · rename_i hx
      -- Nothing is changed by an id that ran before.
      have hsame : pending (first ++ ran) ids = pending (x :: first ++ ran) ids := by
        refine pending_congr ids fun id => ?_
        simp only [List.mem_append, List.cons_append, List.mem_cons]
        exact ⟨.inr, fun h => h.elim (fun heq => .inr (heq ▸ hx)) fun h => h⟩
      rw [ih, hsame]
    · rw [ih, hswap]
      rfl

theorem pending_eq_self (ids : List String) :
    ∀ {ran}, ids.Nodup → (∀ id ∈ ids, id ∉ ran) → pending ran ids = ids := by
  induction ids with
  | nil => exact fun _ _ => rfl
  | cons x ids ih =>
    intro ran hnodup hran
    obtain ⟨hx, hids⟩ := List.nodup_cons.1 hnodup
    rw [pending, if_neg (hran x (List.mem_cons_self ..)), ih hids]
    intro id hid hmem
    rcases List.mem_cons.1 hmem with rfl | hmem
    · exact hx hid
    · exact hran id (List.mem_cons_of_mem _ hid) hmem

/-- **Ids that ran might as well not be listed.** -/
theorem pending_eq_filter (ids : List String) (ran : List String) :
    pending ran ids = pending [] (ids.filter fun id => id ∉ ran) := by
  induction ran generalizing ids with
  | nil => simp
  | cons x ran ih =>
    rw [pending_cons, ih, List.filter_filter]
    congr 1
    refine List.filter_congr fun id _ => ?_
    by_cases hid : id = x <;> simp [hid]

/-! ## The rules that run -/

/-- The rules that run when some ids come up, with their ids. -/
def runs (r : Registry) (f : Field) (ids : List String) : List (String × Rule) :=
  (pending [] ids).filterMap fun id => (r.ruleOn? f id).map (id, ·)

theorem map_fst_runs (r : Registry) (f : Field) (ids : List String) :
    (r.runs f ids).map (·.1) = (pending [] ids).filter fun id => (r.ruleOn? f id).isSome := by
  unfold runs
  rw [List.map_filterMap, ← List.filterMap_eq_filter]
  refine List.filterMap_congr fun id _ => ?_
  cases hrule : r.ruleOn? f id <;> simp [Option.guard, hrule]

/-- **The rules that run do so once.** -/
theorem runsOnce_runs (r : Registry) (f : Field) (ids : List String) :
    r.RunsOnce f ids (r.runs f ids) where
  nodup := by
    rw [map_fst_runs]
    exact (nodup_pending ids []).filter _
  mem_iff := by
    intro id rule
    unfold runs
    rw [List.mem_filterMap]
    constructor
    · rintro ⟨other, hother, heq⟩
      obtain ⟨found, hfound, heq⟩ := Option.map_eq_some_iff.1 heq
      obtain ⟨rfl, rfl⟩ := Prod.mk.inj heq
      exact ⟨((mem_pending ids []).1 hother).1, hfound⟩
    · rintro ⟨hid, hrule⟩
      exact ⟨id, (mem_pending ids []).2 ⟨hid, List.not_mem_nil⟩, by rw [hrule, Option.map_some]⟩
  inOrder := by
    have hids := (pairwise_pending ids []).filter fun id => (r.ruleOn? f id).isSome
    rw [← map_fst_runs, List.pairwise_map] at hids
    exact hids

/-! ## What comes up on a field -/

/-- The ids of a list that are heeded on a field: on one that is not required, not the one of the
rule for required fields. -/
def heeded (f : Field) (listed : List String) : List String :=
  listed.filter fun id => f.required || id != requiredId

theorem heeded_eq_self {listed : List String}
    (h : f.required = true ∨ requiredId ∉ listed) : heeded f listed = listed := by
  unfold heeded
  rw [List.filter_eq_self]
  intro id hid
  rw [Bool.or_eq_true, bne_iff_ne]
  exact h.imp_right fun hnot heq => hnot (heq ▸ hid)

theorem impliedIds_eq (r : Registry) (f : Field) :
    f.impliedIds = (if f.required then [requiredId] else []) ++ (r.implied f).map (·.1) := by
  unfold Field.impliedIds implied
  rw [List.append_assoc, List.map_append]
  cases f.hasLengthBounds <;> cases f.pattern.isSome <;> rfl

theorem notMem_impliedIds_of_mem_pending {listed : List String}
    (hid : id ∈ pending (requiredId :: (r.implied f).map (·.1)) listed) : id ∉ f.impliedIds := by
  have hnot := ((mem_pending _ _).1 hid).2
  rw [impliedIds_eq r f, List.mem_append]
  rintro (hrequired | himplied)
  · split at hrequired
    · exact hnot (List.mem_cons.2 (.inl (List.mem_singleton.1 hrequired)))
    · cases hrequired
  · exact hnot (List.mem_cons_of_mem _ himplied)

theorem pending_impliedIds_append (r : Registry) (f : Field) (listed : List String) :
    pending [] (f.impliedIds ++ heeded f listed) =
      f.impliedIds ++ pending (requiredId :: (r.implied f).map (·.1)) listed := by
  rw [pending_append, pending_eq_self _ f.nodup_impliedIds fun _ _ => List.not_mem_nil,
    List.append_nil]
  congr 1
  unfold heeded
  rw [impliedIds_eq r f]
  cases f.required with
  | true => simp
  | false => simp [pending_cons]

theorem filterMap_impliedIds (r : Registry) (f : Field) :
    (f.impliedIds.filterMap fun id => (r.ruleOn? f id).map (id, ·)) =
      (if f.required then [(requiredId, r.getOr requiredId .required)] else []) ++ r.implied f := by
  have hrun : ∀ id ∈ f.impliedIds, (r.ruleOn? f id).map (id, ·) =
      some (id, r.getOr id (r.standIn id)) := by
    intro id hid
    rw [ruleOn?, if_pos hid, Option.map_some]
  rw [List.filterMap_congr hrun, List.filterMap_eq_map']
  unfold Field.impliedIds implied
  cases f.required <;> cases f.hasLengthBounds <;> cases f.pattern.isSome <;> rfl

/-- What some rules find wrong, one after the other. -/
def errorsOf (node : Node) (v : Value) (form : Form) (ran : List (String × Rule)) :
    List FieldError :=
  ran.flatMap fun entry => (entry.2.check node v form).errors

/-- **A verdict consists of the errors of the rules that run.** -/
theorem errors_checkRules (r : Registry) (node : Node) (v : Value) (form : Form)
    (extra : List String) :
    (r.checkRules node v form extra).errors =
      errorsOf node v form (r.implied node.field) ++
        errorsOf node v form ((pending (requiredId :: (r.implied node.field).map (·.1))
          (node.field.rules ++ extra)).filterMap fun id =>
            (r.ruleOn? node.field id).map (id, ·)) := by
  have hlisted : ∀ id ∈ pending (requiredId :: (r.implied node.field).map (·.1))
      (node.field.rules ++ extra), (r.run node v form id).errors =
        errorsOf node v form ((r.ruleOn? node.field id).map (id, ·)).toList := by
    intro id hid
    unfold run ruleOn?
    rw [if_neg (notMem_impliedIds_of_mem_pending hid)]
    cases r.get? id <;> simp [errorsOf]
  unfold errorsOf at hlisted ⊢
  rw [List.filterMap_eq_flatMap_toList, List.flatMap_assoc, ← List.flatMap_congr hlisted]
  simp only [checkRules, Verdict.errors_joinAll, List.flatMap_append, List.flatMap_map]

theorem errors_checkWith (hpast : r.GetsPast node v form) :
    (r.checkWith node v form extra).errors = errorsOf node v form (r.runs node.field
      (node.field.impliedIds ++ heeded node.field (node.field.rules ++ extra))) := by
  have hruns : errorsOf node v form (r.runs node.field
      (node.field.impliedIds ++ heeded node.field (node.field.rules ++ extra))) =
      errorsOf node v form
        (if node.field.required then [(requiredId, r.getOr requiredId .required)] else []) ++
      (r.checkRules node v form extra).errors := by
    rw [errors_checkRules, runs, pending_impliedIds_append r, List.filterMap_append,
      filterMap_impliedIds]
    simp only [errorsOf, List.flatMap_append, List.append_assoc]
  rw [hruns]
  unfold GetsPast at hpast
  unfold checkWith
  cases hrequired : node.field.required with
  | true =>
    rw [hrequired, if_pos rfl] at hpast
    have hnone : ((r.getOr requiredId .required).check node v form).errors = [] :=
      Verdict.isValid_iff.1 hpast
    simp [hpast, hnone, errorsOf]
  | false =>
    rw [hrequired, if_neg Bool.false_ne_true] at hpast
    simp [hpast, errorsOf]

end Registry

/-! ## Main theorem -/

open Registry

/-- **Every rule runs once.**  Let a value get past the rule for required fields.  The ids that the
settings of the field ask for come up first, then those it lists and then the extra ones; each that
has a rule runs it once, at its first place, and the errors of the verdict are those of the rules
that run.  Only the rule for required fields does not run on another field that lists it. -/
theorem checkWith_runsOnce (r : Registry) (node : Node) (v : Value) (form : Form)
    (extra : List String) (hpast : r.GetsPast node v form) :
    ∃ ran, (r.checkWith node v form extra).errors = errorsOf node v form ran ∧
      (∀ others, r.RunsOnce node.field
        (node.field.impliedIds ++ heeded node.field (node.field.rules ++ extra)) others ↔
          others = ran) ∧
      (node.field.required = true ∨ requiredId ∉ node.field.rules ++ extra →
        r.RunsOnce node.field (node.field.impliedIds ++ (node.field.rules ++ extra)) ran) := by
  have hruns := runsOnce_runs r node.field
    (node.field.impliedIds ++ heeded node.field (node.field.rules ++ extra))
  refine ⟨_, errors_checkWith hpast, fun others => ⟨fun h => h.eq hruns, fun h => h ▸ hruns⟩, ?_⟩
  intro hall
  rwa [heeded_eq_self hall] at hruns ⊢

/-- A rule of the host that no value passes. -/
def Rule.unmet (name : String) : Rule :=
  .custom name fun node _ _ => .ofErrors [⟨node.field.id, name, "never right", none⟩]

/-- The node of a field that stands alone. -/
def Node.alone (f : Field) : Node := ⟨f, 0, none, [], 0, f.id⟩

/-- A text of three characters at least, which lists the rule for lengths as well, twice. -/
def Field.bounded : Field :=
  { Field.ofId "a" .text with minLength := some 3, rules := ["house", lengthId, "house", lengthId] }

/-- A rule of the host runs once in place of the one for lengths, and before the other one. -/
theorem checkWith_runsOnce_bounded :
    (((Registry.standard Pattern.engine {}).register "house" (.unmet "house")).register lengthId
        (.unmet lengthId)).GetsPast (.alone .bounded) (.string "x") .empty ∧
    ((((Registry.standard Pattern.engine {}).register "house" (.unmet "house")).register lengthId
        (.unmet lengthId)).checkWith (.alone .bounded) (.string "x") .empty
          ["house", "other"]).errors =
      [⟨"a", lengthId, "never right", none⟩, ⟨"a", "house", "never right", none⟩] := by
  have hpast : (((Registry.standard Pattern.engine {}).register "house"
      (.unmet "house")).register lengthId (.unmet lengthId)).GetsPast (.alone .bounded)
        (.string "x") .empty := by
    show Value.isBlank (.string "x") = false
    decide
  obtain ⟨ran, herrors, hran, _⟩ := checkWith_runsOnce _ _ _ _ ["house", "other"] hpast
  refine ⟨hpast, ?_⟩
  rw [herrors, ← (hran _).1 (runsOnce_runs _ _ _)]
  decide

/-- A text that is not required and lists the rule for required fields. -/
def Field.loose : Field := { Field.ofId "a" .text with rules := [requiredId] }

/-- **A listed rule that does not run.**  On a field that is not required nothing comes of a rule of
the host in place of the one for required fields, so that not all rules run once. -/
theorem listed_required_not_run :
    ((Registry.standard Pattern.engine {}).register requiredId (.unmet requiredId)).GetsPast
        (.alone .loose) (.string "x") .empty ∧
    ¬ ∃ ran, ((Registry.standard Pattern.engine {}).register requiredId
        (.unmet requiredId)).RunsOnce .loose (Field.loose.impliedIds ++ Field.loose.rules) ran ∧
      (((Registry.standard Pattern.engine {}).register requiredId
        (.unmet requiredId)).checkField (.alone .loose) (.string "x") .empty).errors =
          errorsOf (.alone .loose) (.string "x") .empty ran := by
  constructor
  · show Value.isBlank (.string "x") = false
    decide
  · rintro ⟨ran, hran, herrors⟩
    have hrule : (requiredId, Rule.unmet requiredId) ∈ ran :=
      (hran.mem_iff _ _).2 ⟨by decide, by rfl⟩
    have hnone : errorsOf (.alone .loose) (.string "x") .empty ran = [] := by
      rw [← herrors]
      decide
    have herror := List.flatMap_eq_nil_iff.1 hnone _ hrule
    cases herror

end DynamicForms
