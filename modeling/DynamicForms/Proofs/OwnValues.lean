import DynamicForms.Proofs.LocalRules

/-!
# What is read of a form

With local rules the errors of a field depend on its own value only, and neither rules nor
conditions tell a `null` from a missing value.

* `Form.value_insert`, `Form.value_erase` — the values of a form in which one was changed.
* `errorsFor_congr`, `checkModule_congr`, `evaluate_congr` — the errors of an id depend on its own
  value; verdicts and states depend on values alone.
* `ReadsOwnValues`, `readsOwnValues` — what follows for any module and registry of local rules.
* `readsOwnValues_standard` — the standard rules are such.
-/

set_option autoImplicit false

namespace DynamicForms

open Json (Value)

/-! ## Values after a change -/

namespace Form

theorem value_insert (form : Form) (id other : String) (v : Value) :
    Form.value (form.insert id v) other = if other = id then v else form.value other := by
  unfold value
  rw [Dictionary.get?_insert]
  split <;> rfl

theorem value_erase (form : Form) (id other : String) :
    Form.value (form.erase id) other = if other = id then .null else form.value other := by
  unfold value
  rw [Dictionary.get?_erase]
  split <;> rfl

theorem value_insert_null {form : Form} {id : String} (h : form.value id = .null)
    (other : String) : Form.value (form.insert id .null) other = form.value other := by
  rw [value_insert]
  split
  · rename_i heq
    rw [heq, h]
  · rfl

theorem value_erase_null {form : Form} {id : String} (h : form.value id = .null)
    (other : String) : Form.value (form.erase id) other = form.value other := by
  rw [value_erase]
  split
  · rename_i heq
    rw [heq, h]
  · rfl

end Form

/-! ## What depends on which values -/

section Congr

variable {r : Registry} {m : Module} {form next : Form}

/-- **The errors of an id depend on its own value.** -/
theorem errorsFor_congr (hr : r.IsLocal) {id : String} (h : form.value id = next.value id) :
    (r.checkModule m form).errorsFor id = (r.checkModule m next).errorsFor id := by
  rw [Registry.errorsFor_checkModule_local hr, Registry.errorsFor_checkModule_local hr, h]
  refine List.flatMap_congr fun node _ => ?_
  rw [Registry.checkWith_form hr node (next.value id) form next]

/-- **A verdict depends on values alone.** -/
theorem checkModule_congr (hr : r.IsLocal) (h : ∀ id, form.value id = next.value id) :
    r.checkModule m form = r.checkModule m next := by
  unfold Registry.checkModule
  congr 1
  refine List.map_congr_left fun node _ => ?_
  rw [h, Registry.checkWith_form hr node _ form next]

/-- **States depend on values alone.** -/
theorem evaluate_congr (forest : Forest) (h : ∀ id, form.value id = next.value id) :
    States.evaluate forest form = States.evaluate forest next := by
  refine States.ext_on fun axis => ?_
  rw [States.on_evaluate, States.on_evaluate]
  congr 1
  refine List.map_congr_left fun f _ => ?_
  rw [Field.decide_congr axis fun c _ => h c.trigger]

end Congr

/-! ## Main theorem -/

/-- Of a form only values are read, for the errors of an id only its own one, and a `null` is as
good as no value. -/
structure ReadsOwnValues (r : Registry) (m : Module) : Prop where
  errorsFor_eq : ∀ (id : String) (form next : Form), form.value id = next.value id →
    (r.checkModule m form).errorsFor id = (r.checkModule m next).errorsFor id
  /-- Entering another value changes no errors but those of its own field. -/
  errorsFor_insert : ∀ (form : Form) (id other : String) (v : Value), other ≠ id →
    (r.checkModule m (form.insert id v)).errorsFor other = (r.checkModule m form).errorsFor other
  errorsFor_erase : ∀ (form : Form) (id other : String), other ≠ id →
    (r.checkModule m (form.erase id)).errorsFor other = (r.checkModule m form).errorsFor other
  /-- Forms with the same values are not told apart, whichever of them say `null`. -/
  verdict_eq : ∀ form next : Form, (∀ id, form.value id = next.value id) →
    r.checkModule m form = r.checkModule m next
  states_eq : ∀ form next : Form, (∀ id, form.value id = next.value id) →
    States.evaluate (Forest.build m) form = States.evaluate (Forest.build m) next
  insert_null : ∀ (form : Form) (id : String), form.value id = .null →
    r.checkModule m (form.insert id .null) = r.checkModule m form ∧
      States.evaluate (Forest.build m) (form.insert id .null) =
        States.evaluate (Forest.build m) form
  erase_null : ∀ (form : Form) (id : String), form.value id = .null →
    r.checkModule m (form.erase id) = r.checkModule m form ∧
      States.evaluate (Forest.build m) (form.erase id) = States.evaluate (Forest.build m) form

theorem readsOwnValues {r : Registry} (hr : r.IsLocal) (m : Module) : ReadsOwnValues r m where
  errorsFor_eq := fun _ _ _ h => errorsFor_congr hr h
  errorsFor_insert := by
    intro form id other v hne
    refine errorsFor_congr hr ?_
    rw [Form.value_insert, if_neg hne]
  errorsFor_erase := by
    intro form id other hne
    refine errorsFor_congr hr ?_
    rw [Form.value_erase, if_neg hne]
  verdict_eq := fun _ _ h => checkModule_congr hr h
  states_eq := fun _ _ h => evaluate_congr _ h
  insert_null := fun _ _ h =>
    ⟨checkModule_congr hr (Form.value_insert_null h), evaluate_congr _ (Form.value_insert_null h)⟩
  erase_null := fun _ _ h =>
    ⟨checkModule_congr hr (Form.value_erase_null h), evaluate_congr _ (Form.value_erase_null h)⟩

/-- **With the standard rules each field is checked by its own value**, whatever the module and
the engine for patterns. -/
theorem readsOwnValues_standard (engine : PatternEngine) (config : Config) (m : Module) :
    ReadsOwnValues (Registry.standard engine config) m :=
  readsOwnValues (Registry.isLocal_standard engine config) m

end DynamicForms
