import DynamicForms.Proofs.StandardRules

/-!
# Rules that look at a value alone

A rule of a registry is handed the whole form.  The standard rules make no use of it: they look at
the value and at the settings of its field, but not at the rules the field lists.

* `Rule.IsLocal`, `Registry.IsLocal` — the rules that do so and blame no other field;
  `isLocal_standard`: the standard rules do.
* `checkWith_listing` — with such rules, the verdict on a field depends on its value and on the ids
  that come up, whether the field lists them or they are extra.
* `field_of_mem_errors_checkWith`, `errorsFor_checkModule_local` — and the errors of an id are those
  of its own field.
-/

set_option autoImplicit false

namespace DynamicForms

open Json (Value)

/-- The node of a field that lists other rules. -/
def Node.listing (rules : List String) (node : Node) : Node :=
  { node with field := { node.field with rules := rules } }

/-- A rule that looks at the value and the settings of a field alone, and blames this field. -/
structure Rule.IsLocal (rule : Rule) : Prop where
  check_eq : ∀ (node : Node) (v : Value) (form next : Form) (rules : List String),
    rule.check (node.listing rules) v next = rule.check node v form
  field_eq : ∀ (node : Node) (v : Value) (form : Form), ∀ e ∈ (rule.check node v form).errors,
    e.field = node.field.id

namespace Rule

/-- The violations of a field are blamed on it. -/
theorem field_of_mem_errors_of {f : Field} {violations : List Violation} {e : FieldError}
    (he : e ∈ (Verdict.of f violations).errors) : e.field = f.id := by
  obtain ⟨_, _, rfl⟩ := List.mem_map.1 he
  rfl

theorem isLocal_required : required.IsLocal where
  check_eq := fun _ _ _ _ _ => rfl
  field_eq := fun _ _ _ _ he => field_of_mem_errors_of he

theorem isLocal_length : length.IsLocal where
  check_eq := fun _ _ _ _ _ => rfl
  field_eq := by
    intro node v form e he
    unfold length at he
    cases htext : v.text? with
    | none => simp [htext] at he
    | some text =>
      simp only [htext] at he
      exact field_of_mem_errors_of he

theorem isLocal_pattern (engine : PatternEngine) (policy : FaultPolicy) :
    (pattern engine policy).IsLocal where
  check_eq := fun _ _ _ _ _ => rfl
  field_eq := by
    intro node v form e he
    unfold pattern at he
    cases hpattern : node.field.pattern with
    | none => simp [hpattern] at he
    | some pattern =>
      cases htext : v.text? with
      | none => simp [hpattern, htext] at he
      | some text =>
        simp only [hpattern, htext] at he
        exact field_of_mem_errors_of he

theorem isLocal_email : email.IsLocal where
  check_eq := fun _ _ _ _ _ => rfl
  field_eq := fun _ _ _ _ he => field_of_mem_errors_of he

end Rule

namespace Registry

/-- All rules of a registry are local. -/
def IsLocal (r : Registry) : Prop := ∀ id rule, r.get? id = some rule → rule.IsLocal

/-- **The standard rules are local.** -/
theorem isLocal_standard (engine : PatternEngine) (config : Config) :
    (standard engine config).IsLocal := by
  intro id rule hrule
  rw [get?_standard] at hrule
  split at hrule
  · exact Option.some.inj hrule ▸ Rule.isLocal_email
  split at hrule
  · exact Option.some.inj hrule ▸ Rule.isLocal_pattern engine config.faultPolicy
  split at hrule
  · exact Option.some.inj hrule ▸ Rule.isLocal_length
  split at hrule
  · exact Option.some.inj hrule ▸ Rule.isLocal_required
  · cases hrule

section Local

variable {r : Registry} (hr : r.IsLocal)

include hr

theorem isLocal_getOr (id : String) {fallback : Rule} (h : fallback.IsLocal) :
    (r.getOr id fallback).IsLocal := by
  unfold getOr
  cases hrule : r.get? id with
  | none => exact h
  | some rule => exact hr id rule hrule

theorem isLocal_of_mem_implied {f : Field} {entry : String × Rule} (h : entry ∈ r.implied f) :
    entry.2.IsLocal := by
  unfold implied at h
  rcases List.mem_append.1 h with h | h
  · split at h
    · rw [List.mem_singleton.1 h]
      exact isLocal_getOr hr lengthId Rule.isLocal_length
    · cases h
  · split at h
    · rw [List.mem_singleton.1 h]
      exact isLocal_getOr hr patternId (Rule.isLocal_pattern _ _)
    · cases h

theorem run_listing (node : Node) (v : Value) (form next : Form) (rules : List String)
    (id : String) : r.run (node.listing rules) v next id = r.run node v form id := by
  unfold run
  cases hrule : r.get? id with
  | none => rfl
  | some rule => exact (hr id rule hrule).check_eq node v form next rules

/-- **The verdict on a field** depends on its value and on the ids that come up, and neither on the
rest of the form nor on which of these ids the field lists itself. -/
theorem checkWith_listing (node : Node) (v : Value) (form next : Form)
    {rules extra more : List String} (hids : rules ++ more = node.field.rules ++ extra) :
    r.checkWith (node.listing rules) v next more = r.checkWith node v form extra := by
  have hrules : r.checkRules (node.listing rules) v next more = r.checkRules node v form extra := by
    have himplied : ∀ entry ∈ r.implied node.field,
        entry.2.check (node.listing rules) v next = entry.2.check node v form :=
      fun entry hentry => (isLocal_of_mem_implied hr hentry).check_eq node v form next rules
    unfold checkRules
    show Verdict.joinAll ((r.implied node.field).map _ ++
      (pending _ (rules ++ more)).map (r.run (node.listing rules) v next)) = _
    rw [hids, List.map_congr_left himplied,
      funext fun id => run_listing hr node v form next rules id]
    rfl
  have hrequired : (r.getOr requiredId .required).check (node.listing rules) v next =
      (r.getOr requiredId .required).check node v form :=
    (isLocal_getOr hr requiredId Rule.isLocal_required).check_eq node v form next rules
  unfold checkWith
  rw [hrules, hrequired]
  rfl

theorem checkWith_form (node : Node) (v : Value) (form next : Form) (extra : List String) :
    r.checkWith node v next extra = r.checkWith node v form extra :=
  checkWith_listing hr node v form next rfl

section Blame

variable {node : Node} {v : Value} {form : Form} {extra : List String} {e : FieldError}

theorem field_of_mem_errors_checkRules (he : e ∈ (r.checkRules node v form extra).errors) :
    e.field = node.field.id := by
  unfold checkRules at he
  obtain ⟨verdict, hverdict, he⟩ := List.mem_flatMap.1 he
  rcases List.mem_append.1 hverdict with hverdict | hverdict
  · obtain ⟨entry, hentry, rfl⟩ := List.mem_map.1 hverdict
    exact (isLocal_of_mem_implied hr hentry).field_eq node v form e he
  · obtain ⟨id, _, rfl⟩ := List.mem_map.1 hverdict
    unfold run at he
    cases hrule : r.get? id with
    | none => simp [hrule] at he
    | some rule =>
      simp only [hrule] at he
      exact (hr id rule hrule).field_eq node v form e he

/-- **The errors of a field are blamed on it.** -/
theorem field_of_mem_errors_checkWith (he : e ∈ (r.checkWith node v form extra).errors) :
    e.field = node.field.id := by
  unfold checkWith at he
  split at he
  · have hrequired := isLocal_getOr hr requiredId Rule.isLocal_required
    simp only at he
    split at he
    · exact field_of_mem_errors_checkRules hr he
    · exact hrequired.field_eq node v form e he
  · split at he
    · cases he
    · exact field_of_mem_errors_checkRules hr he

end Blame

/-- **The errors of an id** are those of the nodes that have it. -/
theorem errorsFor_checkModule_local (m : Module) (form : Form) (id : String) :
    (r.checkModule m form).errorsFor id =
      ((Forest.build m).nodesInOrder.filter fun node => node.field.id == id).flatMap fun node =>
        (r.checkWith node (form.value id) form (r.appliedRules m)).errors := by
  unfold checkModule Verdict.errorsFor
  rw [Verdict.errors_joinAll, List.flatMap_map, List.filter_flatMap]
  generalize (Forest.build m).nodesInOrder = nodes
  induction nodes with
  | nil => rfl
  | cons node nodes ih =>
    rw [List.flatMap_cons, ih]
    by_cases hid : node.field.id = id
    · rw [List.filter_cons_of_pos (by simpa using hid), List.flatMap_cons, hid]
      congr 1
      rw [List.filter_eq_self]
      intro e he
      rw [beq_iff_eq, ← hid]
      exact field_of_mem_errors_checkWith hr he
    · have hnone : ((r.checkWith node (form.value node.field.id) form
          (r.appliedRules m)).errors.filter fun e => e.field == id) = [] := by
        rw [List.filter_eq_nil_iff]
        intro e he
        rw [beq_iff_eq, field_of_mem_errors_checkWith hr he]
        exact hid
      rw [List.filter_cons_of_neg (by simpa using hid), hnone, List.nil_append]

end Local

end Registry

end DynamicForms
