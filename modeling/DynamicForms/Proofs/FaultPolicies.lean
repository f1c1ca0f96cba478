import DynamicForms.Proofs.MappedFields
import DynamicForms.Proofs.StandardRules

/-!
# Faults of patterns

A pattern that cannot be used is a fault of the module, not of a value.  The policy decides whether
faults are reported, and nothing else depends on them.

* `Field.withoutFault` — a field without its pattern if that cannot be used.
* `Verdict.withoutFaults` — the errors of a verdict that tell of no fault.
* `StandardViolations.withoutFaults` — what is wrong with a value apart from faults is what is wrong
  with it where no fault is reported.
* `errors_checkWith_quiet`, `errors_checkModule_quiet` — so it is for errors of fields and of
  modules; `withoutFaults_checkModule`, `errors_checkModule_failOpen`: on one module and under one
  policy.
* `FaultsAside`, `faultsAside` — with the standard rules a form is checked as if there were no
  faults, whatever the module says.
-/

set_option autoImplicit false

namespace DynamicForms

open Json (Value)

/-! ## Fields without faults -/

namespace Field

/-- The field without its pattern if that cannot be used. -/
def withoutFault (engine : PatternEngine) (f : Field) : Field :=
  { f with pattern := f.pattern.filter fun text => (engine.compile text).isOk }

theorem keepsPlaces_withoutFault (engine : PatternEngine) : KeepsPlaces (withoutFault engine) :=
  ⟨fun _ => rfl, fun _ => rfl, fun _ => rfl⟩

variable {engine : PatternEngine} {f g : Field}

theorem usable_withoutFault_iff {text : String} {compiled : engine.Compiled} :
    (f.withoutFault engine).pattern = some text ∧ engine.compile text = .ok compiled ↔
      f.pattern = some text ∧ engine.compile text = .ok compiled := by
  unfold withoutFault
  rw [Option.filter_eq_some_iff, and_assoc, and_congr_right_iff]
  intro _
  refine and_iff_right_of_imp fun hok => ?_
  rw [hok]
  rfl

theorem compile_withoutFault_ne_error {text : String} {fault : engine.Fault}
    (h : (f.withoutFault engine).pattern = some text) : engine.compile text ≠ .error fault := by
  unfold withoutFault at h
  rw [Option.filter_eq_some_iff] at h
  intro herror
  rw [herror] at h
  cases h.2

theorem withoutFault_withoutFault (engine : PatternEngine) (f : Field) :
    (f.withoutFault engine).withoutFault engine = f.withoutFault engine := by
  unfold withoutFault
  simp only [Option.filter_filter, Bool.and_self]

/-- Nothing comes of a fault of a field: there is none, or it is passed over. -/
def Quiet (engine : PatternEngine) (config : Config) (f : Field) : Prop :=
  ∀ text fault, f.pattern = some text → engine.compile text = .error fault →
    config.faultPolicy ≠ .report

theorem quiet_withoutFault (engine : PatternEngine) (config : Config) (f : Field) :
    (f.withoutFault engine).Quiet engine config :=
  fun _ _ htext herror => absurd herror (compile_withoutFault_ne_error htext)

end Field

/-! ## Violations and errors without faults -/

/-- Whether a violation is the fault of a rule. -/
def Violation.isFault : Violation → Bool
  | .unusablePattern .. => true
  | _ => false

theorem Violation.code_eq_iff {a : Violation} : a.code = "RULE_FAULT" ↔ a.isFault = true := by
  cases a <;> simp [code, isFault]

namespace Verdict

/-- The errors that do not tell of the fault of a rule. -/
def withoutFaults (verdict : Verdict) : List FieldError :=
  verdict.errors.filter fun e => e.code != "RULE_FAULT"

theorem withoutFaults_of (f : Field) (violations : List Violation) :
    (of f violations).withoutFaults =
      (violations.filter fun a => !a.isFault).map (Violation.error f) := by
  unfold withoutFaults
  rw [errors_of, List.filter_map]
  congr 1
  refine List.filter_congr fun a _ => ?_
  rw [Function.comp_apply, Bool.eq_iff_iff, bne_iff_ne, Bool.not_eq_true', ← Bool.not_eq_true,
    ← Violation.code_eq_iff]
  rfl

theorem withoutFaults_joinAll (verdicts : List Verdict) :
    (joinAll verdicts).withoutFaults = verdicts.flatMap withoutFaults := by
  unfold withoutFaults
  rw [errors_joinAll]
  exact List.filter_flatMap

end Verdict

section Violations

variable {engine : PatternEngine} {config quiet : Config} {email : Prop} {f g : Field} {v : Value}
  {text : List Char} {violations : List Violation}

theorem TextViolations.withoutFaults (h : TextViolations engine config email f text violations)
    (hsame : g.withoutFault engine = f.withoutFault engine) (hquiet : g.Quiet engine quiet) :
    TextViolations engine quiet email g text (violations.filter fun a => !a.isFault) where
  inOrder := h.inOrder.filter _
  not_required := fun hmem => h.not_required (List.mem_of_mem_filter hmem)
  tooShort_iff := by
    intro min
    have hmin : g.minLength = f.minLength := (congrArg Field.minLength hsame :)
    rw [hmin, ← h.tooShort_iff, List.mem_filter]
    exact and_iff_left rfl
  tooLong_iff := by
    intro max
    have hmax : g.maxLength = f.maxLength := (congrArg Field.maxLength hsame :)
    rw [hmax, ← h.tooLong_iff, List.mem_filter]
    exact and_iff_left rfl
  patternMismatch_iff := by
    rw [List.mem_filter, and_iff_left (by rfl), h.patternMismatch_iff]
    refine exists_congr fun pattern => exists_congr fun compiled => ?_
    rw [← and_assoc, ← and_assoc, ← Field.usable_withoutFault_iff, ← hsame,
      Field.usable_withoutFault_iff]
  unusablePattern_iff := by
    intro pattern reason
    refine iff_of_false ?_ fun ⟨_, _, htext, herror, hreport⟩ => hquiet _ _ htext herror hreport
    rw [List.mem_filter]
    rintro ⟨_, hnot⟩
    cases hnot
  invalidEmail_iff := by
    rw [← h.invalidEmail_iff, List.mem_filter]
    exact and_iff_left rfl

/-- **What is wrong with a value apart from faults** is what is wrong with it where no fault is
reported. -/
theorem StandardViolations.withoutFaults (h : StandardViolations engine config email f v violations)
    (hsame : g.withoutFault engine = f.withoutFault engine) (hquiet : g.Quiet engine quiet) :
    StandardViolations engine quiet email g v (violations.filter fun a => !a.isFault) := by
  have hrequired : g.required = f.required := (congrArg Field.required hsame :)
  refine ⟨fun hreq hblank => ?_, fun hreq hblank => ?_, fun hentered => ?_⟩
  · rw [h.missing (hrequired ▸ hreq) hblank]
    rfl
  · rw [h.absent (hrequired ▸ hreq) hblank]
    rfl
  · obtain ⟨text, htext, hviolations⟩ := h.entered hentered
    exact ⟨text, htext, hviolations.withoutFaults hsame hquiet⟩

end Violations

/-! ## Verdicts without faults -/

section Verdicts

variable (engine : PatternEngine) (config quiet : Config) {change : Field → Field}

theorem errors_checkWith_quiet {node : Node} {v : Value} {form : Form} {extra : List String}
    (hsame : (change node.field).withoutFault engine = node.field.withoutFault engine)
    (hquiet : (change node.field).Quiet engine quiet) :
    ((Registry.standard engine quiet).checkWith (node.mapField change) v form extra).errors =
      ((Registry.standard engine config).checkWith node v form extra).withoutFaults := by
  obtain ⟨violations, hspec, heq⟩ := Registry.checkWith_standard engine config node v form extra
  have hrules : (node.mapField change).field.rules = node.field.rules :=
    (congrArg Field.rules hsame :)
  have herror : Violation.error (node.mapField change).field = Violation.error node.field :=
    (congrArg Violation.error hsame :)
  obtain ⟨others, hothers, heq'⟩ :=
    Registry.checkWith_standard engine quiet (node.mapField change) v form extra
  rw [hrules] at hothers
  rw [heq, heq', Verdict.withoutFaults_of, ← hothers.eq (hspec.withoutFaults hsame hquiet),
    ← herror]
  rfl

/-- **The errors of a module where no fault is reported** are those that tell of none. -/
theorem errors_checkModule_quiet (hplaces : KeepsPlaces change)
    (hsame : ∀ f, (change f).withoutFault engine = f.withoutFault engine)
    (hquiet : ∀ f, (change f).Quiet engine quiet)
    (hrules : quiet.moduleRulesApply = config.moduleRulesApply) (m : Module) (form : Form) :
    ((Registry.standard engine quiet).checkModule (m.mapFields change) form).errors =
      ((Registry.standard engine config).checkModule m form).withoutFaults := by
  have happlied : (Registry.standard engine quiet).appliedRules (m.mapFields change) =
      (Registry.standard engine config).appliedRules m := by
    unfold Registry.appliedRules Registry.standard
    rw [hrules]
    rfl
  unfold Registry.checkModule
  rw [Verdict.withoutFaults_joinAll, List.flatMap_map, nodesInOrder_build_mapFields hplaces,
    happlied]
  show List.flatMap _ (List.map _ (List.map _ _)) = _
  rw [List.map_map, List.flatMap_map]
  refine List.flatMap_congr fun node _ => ?_
  rw [← errors_checkWith_quiet engine config quiet (hsame node.field) (hquiet node.field)]
  have hid : (change node.field).id = node.field.id := hplaces.id_eq _
  simp only [Function.comp_apply, Node.mapField, hid]

end Verdicts

section Modules

variable (engine : PatternEngine) (config : Config) (m : Module) (form : Form)

/-- **Errors that tell of no fault** come up without the patterns that cannot be used as well. -/
theorem withoutFaults_checkModule :
    ((Registry.standard engine config).checkModule m form).withoutFaults =
      ((Registry.standard engine config).checkModule (m.mapFields (Field.withoutFault engine))
        form).errors :=
  (errors_checkModule_quiet engine config config (Field.keepsPlaces_withoutFault engine)
    (Field.withoutFault_withoutFault engine) (Field.quiet_withoutFault engine config) rfl m
    form).symm

/-- **Passing faults over** takes them out of the errors, and nothing else. -/
theorem errors_checkModule_failOpen :
    ((Registry.standard engine { config with faultPolicy := .failOpen }).checkModule m
        form).errors =
      ((Registry.standard engine { config with faultPolicy := .report }).checkModule m
        form).withoutFaults := by
  have hquiet : ∀ f : Field, f.Quiet engine { config with faultPolicy := .failOpen } := by
    intro f text fault _ _ hreport
    cases hreport
  have h := errors_checkModule_quiet engine { config with faultPolicy := .report }
    { config with faultPolicy := .failOpen } ⟨fun _ => rfl, fun _ => rfl, fun _ => rfl⟩
    (fun _ => rfl) hquiet rfl m form
  rwa [Module.mapFields, List.map_id'] at h

theorem Module.mapFields_withoutFault_of_some (chosen : Field → Bool) :
    (m.mapFields fun f => if chosen f then f.withoutFault engine else f).mapFields
        (Field.withoutFault engine) = m.mapFields (Field.withoutFault engine) := by
  unfold mapFields
  rw [List.map_map]
  congr 1
  refine List.map_congr_left fun f _ => ?_
  rw [Function.comp_apply]
  split
  · exact Field.withoutFault_withoutFault engine f
  · rfl

end Modules

/-! ## Main theorem -/

/-- Under the standard rules a form is checked as if there were no faults: the policy decides
whether they are reported, and they neither hide nor cause any other error. -/
structure FaultsAside (engine : PatternEngine) (config : Config) (m : Module) (form : Form) :
    Prop where
  /-- Where faults are passed over, there are the errors that are reported elsewhere, without the
  faults. -/
  failOpen_eq :
    ((Registry.standard engine { config with faultPolicy := .failOpen }).checkModule m
        form).errors =
      ((Registry.standard engine { config with faultPolicy := .report }).checkModule m
        form).withoutFaults
  failOpen_none :
    ∀ e ∈ ((Registry.standard engine { config with faultPolicy := .failOpen }).checkModule m
      form).errors, e.code ≠ "RULE_FAULT"
  /-- The other errors are those of the module without the patterns that cannot be used. -/
  others_eq : ((Registry.standard engine config).checkModule m form).withoutFaults =
    ((Registry.standard engine config).checkModule (m.mapFields (Field.withoutFault engine))
      form).errors
  /-- They stay the same if only some of these patterns are taken out. -/
  others_eq_of_some : ∀ chosen : Field → Bool,
    ((Registry.standard engine config).checkModule
      (m.mapFields fun f => if chosen f then f.withoutFault engine else f) form).withoutFaults =
    ((Registry.standard engine config).checkModule m form).withoutFaults

/-- **Faults of patterns stand aside**, on any module and form and with any engine. -/
theorem faultsAside (engine : PatternEngine) (config : Config) (m : Module) (form : Form) :
    FaultsAside engine config m form := by
  have hfailOpen := errors_checkModule_failOpen engine config m form
  refine ⟨hfailOpen, ?_, withoutFaults_checkModule engine config m form, fun chosen => ?_⟩
  · intro e he
    rw [hfailOpen] at he
    exact bne_iff_ne.1 (List.mem_filter.1 he).2
  · rw [withoutFaults_checkModule, withoutFaults_checkModule, Module.mapFields_withoutFault_of_some]

end DynamicForms
