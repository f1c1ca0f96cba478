import DynamicForms.Logic.Condition
import DynamicForms.Pattern.Matching
import DynamicForms.Proofs.Layouts
import DynamicForms.Proofs.LocalRules

/-!
# Blank values

A value counts as nothing entered when its text is blank.  What this means is said here on values
instead of texts, and everything that asks whether something was entered is shown to mean the
same by it.

* `Blank` — values of which nothing is entered; `isBlank_iff`: these are the ones with a blank text.
* `exists_inked_numeral` — a number shows a character that is no blank.
* `isBlankText_intercalate` — of texts joined by commas there is one at most, and a blank one.
* `Registry.checkNoted` — the check of a field with effects: each rule that runs is noted before it
  does; `checkNoted_pure`: without effects it is the check of a field.
* `checkWith_missing`, `checkNoted_missing`, `checkNoted_absent` — a required value that is blank,
  and an optional one.
* `blankThroughout` — conditions and rules agree on what is blank.
-/

set_option autoImplicit false

namespace DynamicForms

open Json (Value)

/-! ## Blank texts -/

namespace Text

theorem isBlankText_eq_false {text : List Char} {c : Char} (hc : c ∈ text)
    (hblank : isBlank c = false) : isBlankText text = false := by
  rw [← Bool.not_eq_true, isBlankText_iff]
  intro hall
  rw [hall c hc] at hblank
  cases hblank

theorem isBlank_of_isDigit {c : Char} (h : c.isDigit = true) : isBlank c = false := by
  obtain ⟨hlow, hhigh⟩ := Char.isDigit_iff_toNat.1 h
  have hzero : '0'.toNat = 48 := rfl
  have hnine : '9'.toNat = 57 := rfl
  simp only [isBlank, Bool.or_eq_false_iff, Bool.and_eq_false_iff, decide_eq_false_iff_not,
    beq_eq_false_iff_ne]
  omega

/-- **Of texts joined by commas there is one at most, and a blank one.** -/
theorem isBlankText_intercalate (texts : List (List Char)) :
    isBlankText (List.intercalate [','] texts) = true ↔
      texts.length ≤ 1 ∧ ∀ text ∈ texts, isBlankText text = true := by
  rcases texts with _ | ⟨first, _ | ⟨second, rest⟩⟩
  · simp [isBlankText_iff]
  · simp
  · have hcomma : ',' ∈ List.intercalate [','] (first :: second :: rest) := by
      rw [List.intercalate_cons_cons]
      simp
    rw [isBlankText_eq_false hcomma (by decide)]
    simp

end Text

namespace Json

/-! ## Numbers -/

theorem isBlank_of_mem_wholeText {n : Int} {c : Char} (h : c ∈ wholeText n) :
    Text.isBlank c = false := by
  unfold wholeText at h
  split at h
  · rcases List.mem_cons.1 h with rfl | h
    · decide
    · exact Text.isBlank_of_isDigit (isDigit_of_mem_decimalDigits h)
  · exact Text.isBlank_of_isDigit (isDigit_of_mem_decimalDigits h)

theorem exists_inked_layout (style : Number.Layout) (x : Number.Decimal) :
    ∃ c ∈ style.digits x, Text.isBlank c = false := by
  obtain ⟨d, ds, hds, hdigit⟩ := exists_decimalDigits_eq_cons x.digits
  have hd := Text.isBlank_of_isDigit hdigit
  unfold Number.Layout.digits
  simp only [hds]
  split
  · split
    · exact ⟨d, by simp, hd⟩
    · split
      · exact ⟨'.', by simp, by decide⟩
      · exact ⟨'0', by simp, by decide⟩
  · exact ⟨d, by simp, hd⟩

/-- **A number shows a character that is no blank.** -/
theorem exists_inked_numeral (n : Numeral) : ∃ c ∈ n.text, Text.isBlank c = false := by
  cases n with
  | whole n fits =>
    obtain ⟨c, rest, hc, -⟩ := exists_wholeText_eq_cons n
    have hmem : c ∈ wholeText n := by
      rw [hc]
      exact List.mem_cons_self ..
    exact ⟨c, hmem, isBlank_of_mem_wholeText hmem⟩
  | real x =>
    have hmagnitude : ∃ c ∈ if x.units = 0 then ['0', '.', '0']
        else realLayout.digits (Number.shortest x.units), Text.isBlank c = false := by
      split
      · exact ⟨'0', by simp, by decide⟩
      · exact exists_inked_layout realLayout _
    obtain ⟨c, hc, hink⟩ := hmagnitude
    refine ⟨c, ?_, hink⟩
    simp only [Numeral.text, Number.Layout.text]
    cases x.negative with
    | true => exact List.mem_cons_of_mem _ hc
    | false => exact hc

namespace Value

/-! ## Blank values -/

/-- Values of which nothing is entered. -/
inductive Blank : Value → Prop
  | null : Blank .null
  | string {s : String} (blank : ∀ c ∈ s.toList, Text.isBlank c = true) : Blank (.string s)
  /-- At most one item is not `null`, and it is blank itself. -/
  | array {items : List Value} (atMostOne : (items.filter (· ≠ .null)).length ≤ 1)
    (blank : ∀ v ∈ items, Blank v) : Blank (.array items)

theorem isBlank_of_text? {v : Value} {text : List Char} (h : v.text? = some text) :
    v.isBlank = Text.isBlankText text := by
  unfold isBlank
  rw [h]

theorem isBlank_null : Value.null.isBlank = true := by
  unfold isBlank text?
  rfl

theorem isBlank_boolean (b : Bool) : (Value.boolean b).isBlank = false := by
  rw [isBlank_of_text? (show (Value.boolean b).text? = some (booleanWord b) by rw [text?])]
  cases b <;> decide

theorem isBlank_number (n : Numeral) : (Value.number n).isBlank = false := by
  obtain ⟨c, hc, hink⟩ := exists_inked_numeral n
  rw [isBlank_of_text? (show (Value.number n).text? = some n.text by rw [text?])]
  exact Text.isBlankText_eq_false hc hink

theorem isBlank_object (entries : List (String × Value)) :
    (Value.object entries).isBlank = false := by
  have htext : (Value.object entries).text? = some (Value.object entries).compact := by rw [text?]
  rw [isBlank_of_text? htext]
  refine Text.isBlankText_eq_false (c := '\x7b') ?_ (by decide)
  rw [compact]
  simp

theorem isBlank_string_iff (s : String) :
    (Value.string s).isBlank = true ↔ ∀ c ∈ s.toList, Text.isBlank c = true := by
  rw [isBlank_of_text? (show (Value.string s).text? = some s.toList by rw [text?]),
    Text.isBlankText_iff]

theorem length_itemTexts (items : List Value) :
    (itemTexts items).length = (items.filter (· ≠ .null)).length := by
  rw [itemTexts_eq]
  induction items with
  | nil => rfl
  | cons v items ih =>
    by_cases hnull : v = .null
    · rw [hnull, List.filterMap_cons_none (by rw [text?]), ih]
      simp
    · obtain ⟨text, htext⟩ := Option.ne_none_iff_exists'.1 (mt text?_eq_none_iff.1 hnull)
      simpa [hnull, htext] using ih

/-- **An array is blank** when one item at most is not `null`, and all are blank. -/
theorem isBlank_array_iff (items : List Value) :
    (Value.array items).isBlank = true ↔
      (items.filter (· ≠ .null)).length ≤ 1 ∧ ∀ v ∈ items, v.isBlank = true := by
  have htext : (Value.array items).text? = some (List.intercalate [','] (itemTexts items)) := by
    rw [text?]
  rw [isBlank_of_text? htext, Text.isBlankText_intercalate, length_itemTexts]
  refine and_congr_right fun _ => ?_
  simp only [itemTexts_eq, List.mem_filterMap]
  constructor
  · intro hall v hv
    cases htext : v.text? with
    | none =>
      rw [text?_eq_none_iff.1 htext]
      exact isBlank_null
    | some text =>
      rw [isBlank_of_text? htext]
      exact hall text ⟨v, hv, htext⟩
  · rintro hall text ⟨v, hv, htext⟩
    rw [← isBlank_of_text? htext]
    exact hall v hv

/-- **A value has a blank text when nothing of it is entered.** -/
theorem isBlank_iff (v : Value) : v.isBlank = true ↔ Blank v := by
  induction v using Value.induction with
  | null => exact iff_of_true isBlank_null .null
  | boolean b =>
    rw [isBlank_boolean]
    exact iff_of_false Bool.false_ne_true nofun
  | number n =>
    rw [isBlank_number]
    exact iff_of_false Bool.false_ne_true nofun
  | object entries =>
    rw [isBlank_object]
    exact iff_of_false Bool.false_ne_true nofun
  | string s =>
    rw [isBlank_string_iff]
    exact ⟨.string, fun | .string h => h⟩
  | array items ih =>
    rw [isBlank_array_iff]
    constructor
    · exact fun ⟨hone, hall⟩ => .array hone fun v hv => (ih v hv).1 (hall v hv)
    · exact fun | .array hone hall => ⟨hone, fun v hv => (ih v hv).2 (hall v hv)⟩

end Value

end Json

/-! ## Rules that run -/

namespace Registry

section Noted

variable {m : Type → Type} [Monad m]

/-- Runs a rule after a note of its id. -/
def runNoted (note : String → m Unit) (node : Node) (v : Value) (form : Form) (id : String)
    (rule : Rule) : m Verdict := do
  note id
  pure (rule.check node v form)

/-- Runs the rule under an id, if there is one, after a note of the id. -/
def runIdNoted (note : String → m Unit) (r : Registry) (node : Node) (v : Value) (form : Form)
    (id : String) : m Verdict :=
  match r.get? id with
  | none => pure .valid
  | some rule => runNoted note node v form id rule

/-- The verdict of all rules but the one for required fields, with a note of each that runs. -/
def checkRulesNoted (note : String → m Unit) (r : Registry) (node : Node) (v : Value) (form : Form)
    (extra : List String) : m Verdict := do
  let implied := r.implied node.field
  let ids := pending (requiredId :: implied.map (·.1)) (node.field.rules ++ extra)
  let first ← implied.mapM fun entry => runNoted note node v form entry.1 entry.2
  let others ← ids.mapM (runIdNoted note r node v form)
  pure (.joinAll (first ++ others))

/-- The verdict on a field, with a note of each rule that runs.  Notes may have any effect. -/
def checkNoted (note : String → m Unit) (r : Registry) (node : Node) (v : Value) (form : Form)
    (extra : List String) : m Verdict :=
  if node.field.required then do
    let verdict ← runNoted note node v form requiredId (r.getOr requiredId .required)
    if verdict.isValid then r.checkRulesNoted note node v form extra else pure verdict
  else if v.isBlank then pure .valid
  else r.checkRulesNoted note node v form extra

variable [LawfulMonad m] (r : Registry) (node : Node) (v : Value) (form : Form)

theorem runNoted_pure (id : String) (rule : Rule) :
    runNoted (m := m) (fun _ => pure ()) node v form id rule = pure (rule.check node v form) := by
  rw [runNoted, pure_bind]

theorem runIdNoted_pure (id : String) :
    runIdNoted (m := m) (fun _ => pure ()) r node v form id = pure (r.run node v form id) := by
  unfold runIdNoted run
  cases r.get? id with
  | none => rfl
  | some rule => exact runNoted_pure node v form id rule

theorem checkRulesNoted_pure (extra : List String) :
    checkRulesNoted (m := m) (fun _ => pure ()) r node v form extra =
      pure (r.checkRules node v form extra) := by
  unfold checkRulesNoted checkRules
  simp only [runNoted_pure, funext (runIdNoted_pure r node v form), List.mapM_pure, pure_bind]

/-- **Notes without effects leave the verdict on the field.** -/
theorem checkNoted_pure (extra : List String) :
    checkNoted (m := m) (fun _ => pure ()) r node v form extra =
      pure (r.checkWith node v form extra) := by
  unfold checkNoted checkWith
  rw [checkRulesNoted_pure, runNoted_pure, pure_bind]
  cases node.field.required with
  | true => exact (apply_ite pure _ _ _).symm
  | false => exact (apply_ite pure _ _ _).symm

end Noted

/-! ## Blank values of fields -/

section Fields

variable {engine : PatternEngine} {config : Config} {r : Registry} {node : Node} {v : Value}
  {form : Form} {extra : List String}

theorem checkWith_missing (hrequired : node.field.required = true) (hblank : v.isBlank = true) :
    (standard engine config).checkWith node v form extra = .of node.field [.required] := by
  obtain ⟨violations, hspec, hverdict⟩ := checkWith_standard engine config node v form extra
  rw [hverdict, hspec.missing hrequired hblank]

/-- **A required value is found missing when it is blank.** -/
theorem hasCode_checkWith_standard_iff (hrequired : node.field.required = true) :
    ((standard engine config).checkWith node v form extra).hasCode "REQUIRED" = true ↔
      v.isBlank = true := by
  constructor
  · intro hcode
    by_contra hblank
    obtain ⟨violations, hspec, hverdict⟩ := checkWith_standard engine config node v form extra
    obtain ⟨_, _, htext⟩ := hspec.entered (Bool.not_eq_true _ ▸ hblank)
    rw [hverdict] at hcode
    obtain ⟨e, he, hcode⟩ := List.any_eq_true.1 hcode
    obtain ⟨a, ha, rfl⟩ := List.mem_map.1 he
    have hcode : a.code = "REQUIRED" := beq_iff_eq.1 hcode
    have hrequired : a = .required := by
      cases a <;> simp [Violation.code] at hcode ⊢
    exact htext.not_required (hrequired ▸ ha)
  · intro hblank
    rw [checkWith_missing hrequired hblank]
    rfl

/-- **Of a required value that is blank** only the rule for required fields is asked. -/
theorem checkNoted_missing {m : Type → Type} [Monad m] [LawfulMonad m] (note : String → m Unit)
    (hrequired : node.field.required = true) (hblank : v.isBlank = true) :
    checkNoted note (standard engine config) node v form extra =
      (do note requiredId; pure (.of node.field [.required])) := by
  have hcheck : Rule.required.check node v form = .of node.field [.required] := by
    simp [Rule.required, Rule.requiredViolations, hrequired, hblank]
  unfold checkNoted runNoted
  rw [if_pos hrequired, getOr_standard_required, hcheck, bind_assoc]
  simp only [pure_bind]
  rfl

/-- **Of an optional value that is blank** no rule is asked, whatever is registered. -/
theorem checkNoted_absent {m : Type → Type} [Monad m] (note : String → m Unit)
    (hoptional : node.field.required = false) (hblank : v.isBlank = true) :
    checkNoted note r node v form extra = pure .valid := by
  unfold checkNoted
  rw [hoptional, if_neg Bool.false_ne_true, if_pos hblank]

theorem checkWith_absent (hoptional : node.field.required = false) (hblank : v.isBlank = true) :
    r.checkWith node v form extra = .valid := by
  unfold checkWith
  rw [hoptional, if_neg Bool.false_ne_true, if_pos hblank]

end Fields

end Registry

/-! ## Main theorem -/

open Registry

/-- What follows from a value being blank or not, wherever it is looked at. -/
structure BlankThroughout (v : Value) : Prop where
  isEmpty_iff : ∀ (c : Condition) (form : Form), c.operator = .isEmpty →
    form.value c.trigger = v → (c.holds form = true ↔ v.Blank)
  isNotEmpty_iff : ∀ (c : Condition) (form : Form), c.operator = .isNotEmpty →
    form.value c.trigger = v → (c.holds form = true ↔ ¬ v.Blank)
  required_iff : ∀ (engine : PatternEngine) (config : Config) (node : Node) (form : Form)
    (extra : List String), node.field.required = true →
    (((standard engine config).checkWith node v form extra).hasCode "REQUIRED" = true ↔ v.Blank)
  /-- That it is missing is all that is found wrong with a required value that is blank, and all
  that is looked for. -/
  required_alone : ∀ (engine : PatternEngine) (config : Config) (node : Node) (form : Form)
    (extra : List String), node.field.required = true → v.Blank →
    (standard engine config).checkWith node v form extra = .of node.field [.required] ∧
    ∀ (m : Type → Type) [Monad m] [LawfulMonad m] (note : String → m Unit),
      checkNoted note (standard engine config) node v form extra =
        (do note requiredId; pure (.of node.field [.required]))
  /-- The same is found when the whole form is checked. -/
  required_inModule : ∀ (engine : PatternEngine) (config : Config) (module : Module) (form : Form)
    (node : Node), node ∈ (Forest.build module).nodesInOrder → form.value node.field.id = v →
    node.field.required = true →
    (((standard engine config).checkModule module form).errorsFor node.field.id =
      [Violation.error node.field .required] ↔ v.Blank)
  /-- Nothing is found wrong with an optional value that is blank, and nothing looked for. -/
  optional : ∀ (r : Registry) (node : Node) (form : Form) (extra : List String),
    node.field.required = false → v.Blank →
    r.checkWith node v form extra = .valid ∧
    ∀ (m : Type → Type) [Monad m] (note : String → m Unit),
      checkNoted note r node v form extra = pure .valid

/-- **Conditions and rules agree on what is blank**: a value of which nothing is entered, be it
`null`, a text of blanks or an array of such a value. -/
theorem blankThroughout (v : Value) : (v.isBlank = true ↔ v.Blank) ∧ BlankThroughout v := by
  have hiff := Value.isBlank_iff v
  refine ⟨hiff, ?_, ?_, ?_, ?_, ?_, ?_⟩
  · intro c form hop hvalue
    rw [Condition.holds, hop, hvalue]
    exact hiff
  · intro c form hop hvalue
    rw [Condition.holds, hop, hvalue, Logic.holdsFor, Bool.not_eq_true', ← Bool.not_eq_true, hiff]
  · intro engine config node form extra hrequired
    rw [hasCode_checkWith_standard_iff hrequired, hiff]
  · intro engine config node form extra hrequired hblank
    exact ⟨checkWith_missing hrequired (hiff.2 hblank), fun m _ _ note =>
      checkNoted_missing note hrequired (hiff.2 hblank)⟩
  · intro engine config module form node hnode hvalue hrequired
    have hblame : ∀ other : Node, ∀ e ∈ ((standard engine config).checkWith other
        (form.value other.field.id) form ((standard engine config).appliedRules module)).errors,
        e.field = other.field.id :=
      fun _ _ he => field_of_mem_errors_checkWith (isLocal_standard engine config) he
    rw [errorsFor_checkModule hnode hblame, hvalue]
    constructor
    · intro herrors
      have hcode : ((standard engine config).checkWith node v form
          ((standard engine config).appliedRules module)).hasCode "REQUIRED" = true := by
        rw [Verdict.hasCode, herrors]
        rfl
      exact hiff.1 ((hasCode_checkWith_standard_iff hrequired).1 hcode)
    · intro hblank
      rw [checkWith_missing hrequired (hiff.2 hblank)]
      rfl
  · intro r node form extra hoptional hblank
    exact ⟨checkWith_absent hoptional (hiff.2 hblank), fun m _ note =>
      checkNoted_absent note hoptional (hiff.2 hblank)⟩

/-- An array with a blank text inside another one is missing where a value is required. -/
theorem blankThroughout_nested :
    Value.Blank (.array [.null, .array [.string " ", .null]]) ∧
    (standard Pattern.engine {}).checkWith
        ⟨{ Field.ofId "a" .text with required := true }, 0, none, [], 0, "a"⟩
        (.array [.null, .array [.string " ", .null]]) .empty [] =
      .ofErrors [⟨"a", "REQUIRED", "a is required", none⟩] := by
  obtain ⟨hiff, hthroughout⟩ := blankThroughout (.array [.null, .array [.string " ", .null]])
  have hblank := hiff.1 (by decide)
  exact ⟨hblank, (hthroughout.required_alone Pattern.engine {} _ .empty [] rfl hblank).1⟩

/-- Two items that are not `null` leave a comma in the text, though both are blank. -/
example : ¬ Value.Blank (.array [.array [], .array []]) := by
  rw [← Value.isBlank_iff]
  decide

end DynamicForms
