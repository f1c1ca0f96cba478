import DynamicForms.Pattern.Matching
import DynamicForms.Proofs.Dependents
import DynamicForms.Validation.Checking

/-!
# The verdict of the standard rules

With the standard rules alone, the errors of a field follow from its own settings, whatever ids of
rules are listed, how often and in which order.  What a pattern does to a text, and what is wrong
with a text that is no pattern, is up to the engine of the registry: the results hold for each.

* `Text.EmailShape` — the shape of an email address as a split into three parts;
  `isEmailShaped_iff`: it is what the check looks for.
* `StandardViolations` — what is wrong with a value: which violations there are, and their order;
  `StandardViolations.eq`: they are one list.
* `mem_pending`, `nodup_pending` — the ids that run after the implied rules, each once.
* `errors_checkRules_standard`, `checkWith_standard` — the verdicts as lists of violations.
* `checkModule_standard` — the errors of each field of a module are the standard violations.
-/

set_option autoImplicit false

namespace DynamicForms

open Json (Value)

/-! ## Email addresses -/

namespace Text

/-- A user, an at sign, a host, a point and what the host is in; none of the three is empty, and
there are no other at signs and no blanks. -/
def EmailShape (text : List Char) : Prop :=
  ∃ user host top : List Char, text = user ++ '@' :: (host ++ '.' :: top) ∧
    (user ≠ [] ∧ host ≠ [] ∧ top ≠ []) ∧
    ('@' ∉ user ∧ '@' ∉ host ++ '.' :: top) ∧ ∀ c ∈ text, isBlank c = false

/-- A point inside a text splits it into two parts that are not empty. -/
theorem hasInnerPoint_iff {domain : List Char} :
    hasInnerPoint domain = true ↔
      ∃ host top : List Char, domain = host ++ '.' :: top ∧ host ≠ [] ∧ top ≠ [] := by
  unfold hasInnerPoint
  rw [List.contains_iff_mem]
  constructor
  · intro h
    obtain ⟨first, rest, rfl⟩ : ∃ first rest, domain = first :: rest := by
      cases domain with
      | nil => cases h
      | cons first rest => exact ⟨first, rest, rfl⟩
    rw [List.drop_succ_cons, List.drop_zero] at h
    obtain ⟨before, after, hsplit⟩ := List.append_of_mem h
    have hne : rest ≠ [] := by
      rintro rfl
      cases h
    refine ⟨first :: before, after ++ [rest.getLast hne], ?_, List.cons_ne_nil _ _, by simp⟩
    calc first :: rest = first :: (rest.dropLast ++ [rest.getLast hne]) := by
          rw [List.dropLast_append_getLast]
      _ = first :: before ++ '.' :: (after ++ [rest.getLast hne]) := by
          rw [hsplit, List.append_assoc, List.cons_append, List.cons_append]
  · rintro ⟨host, top, rfl, hhost, htop⟩
    obtain ⟨first, rest, rfl⟩ := List.exists_cons_of_ne_nil hhost
    rw [List.cons_append, List.drop_succ_cons, List.drop_zero,
      List.dropLast_append_of_ne_nil (List.cons_ne_nil _ _),
      List.dropLast_cons_of_ne_nil htop]
    simp

/-- **The check finds the shape of an email address.** -/
theorem isEmailShaped_iff {text : List Char} : isEmailShaped text = true ↔ EmailShape text := by
  unfold isEmailShaped EmailShape
  constructor
  · intro h
    cases hrest : text.dropWhile (fun c => c != '@') with
    | nil => simp [hrest] at h
    | cons c domain =>
      have hc : c = '@' := by
        have hhead := List.head_dropWhile_not (fun c => c != '@') (l := text) (by simp [hrest])
        simpa [hrest] using hhead
      subst hc
      simp only [hrest, Bool.and_eq_true, Bool.not_eq_true', List.isEmpty_eq_false_iff,
        List.contains_eq_mem, decide_eq_false_iff_not, List.any_eq_false] at h
      obtain ⟨⟨⟨huser, hdomain⟩, hpoint⟩, hblank⟩ := h
      obtain ⟨host, top, rfl, hhost, htop⟩ := hasInnerPoint_iff.1 hpoint
      refine ⟨_, host, top, ?_, ⟨huser, hhost, htop⟩, ⟨?_, hdomain⟩, ?_⟩
      · rw [← hrest, List.takeWhile_append_dropWhile]
      · intro hat
        simpa using List.mem_takeWhile_imp hat
      · intro c hc
        simpa using hblank c hc
  · rintro ⟨user, host, top, rfl, ⟨huser, hhost, htop⟩, ⟨hat, hdomain⟩, hblank⟩
    have hall : ∀ c ∈ user, (c != '@') = true := by
      intro c hc
      rw [bne_iff_ne]
      rintro rfl
      exact hat hc
    have htake : (user ++ '@' :: (host ++ '.' :: top)).takeWhile (fun c => c != '@') = user := by
      rw [List.takeWhile_append_of_pos hall]
      simp
    have hdrop : (user ++ '@' :: (host ++ '.' :: top)).dropWhile (fun c => c != '@') =
        '@' :: (host ++ '.' :: top) := by
      rw [List.dropWhile_append_of_pos hall]
      simp
    have hpoint := hasInnerPoint_iff.2 ⟨host, top, rfl, hhost, htop⟩
    simp only [htake, hdrop, hpoint, Bool.and_eq_true, Bool.not_eq_true',
      List.isEmpty_eq_false_iff, List.contains_eq_mem, decide_eq_false_iff_not, List.any_eq_false]
    exact ⟨⟨⟨huser, hdomain⟩, trivial⟩, fun c hc => by simpa using hblank c hc⟩

end Text

/-! ## The violations -/

/-- The place of a violation among others. -/
def Violation.rank : Violation → Nat
  | .required => 0
  | .tooShort _ => 1
  | .tooLong _ => 2
  | .patternMismatch | .unusablePattern .. => 3
  | .invalidEmail => 4

/-- What the standard rules find wrong with a text that is not blank: `email` tells whether it has
to be an email address. -/
structure TextViolations (engine : PatternEngine) (config : Config) (email : Prop) (f : Field)
    (text : List Char) (violations : List Violation) : Prop where
  /-- They stand in a fixed order, each at most once. -/
  inOrder : violations.Pairwise fun a b => a.rank < b.rank
  not_required : .required ∉ violations
  tooShort_iff : ∀ min, .tooShort min ∈ violations ↔
    f.minLength = some min ∧ text.length < min.toNat
  tooLong_iff : ∀ max, .tooLong max ∈ violations ↔
    f.maxLength = some max ∧ max.toNat < text.length
  patternMismatch_iff : .patternMismatch ∈ violations ↔
    ∃ pattern compiled, f.pattern = some pattern ∧ engine.compile pattern = .ok compiled ∧
      engine.occursIn compiled text = false
  unusablePattern_iff : ∀ pattern reason, .unusablePattern pattern reason ∈ violations ↔
    ∃ fault, reason = engine.faultText fault ∧ f.pattern = some pattern ∧
      engine.compile pattern = .error fault ∧ config.faultPolicy = .report
  invalidEmail_iff : .invalidEmail ∈ violations ↔ email ∧ ¬ Text.EmailShape (Text.trim text)

/-- What the standard rules find wrong with a value of a field. -/
structure StandardViolations (engine : PatternEngine) (config : Config) (email : Prop)
    (f : Field) (v : Value) (violations : List Violation) : Prop where
  /-- A required value is missing, and nothing else is looked at. -/
  missing : f.required = true → v.isBlank = true → violations = [.required]
  /-- A value that is not required may be missing. -/
  absent : f.required = false → v.isBlank = true → violations = []
  entered : v.isBlank = false →
    ∃ text, v.text? = some text ∧ TextViolations engine config email f text violations

section Unique

variable {engine : PatternEngine} {config : Config} {email : Prop} {f : Field} {v : Value}
  {text : List Char} {violations others : List Violation}

theorem TextViolations.eq (h : TextViolations engine config email f text violations)
    (h' : TextViolations engine config email f text others) : violations = others := by
  have hmem : ∀ a, a ∈ violations ↔ a ∈ others := by
    intro a
    cases a with
    | required => exact iff_of_false h.not_required h'.not_required
    | tooShort min => rw [h.tooShort_iff, h'.tooShort_iff]
    | tooLong max => rw [h.tooLong_iff, h'.tooLong_iff]
    | patternMismatch => rw [h.patternMismatch_iff, h'.patternMismatch_iff]
    | invalidEmail => rw [h.invalidEmail_iff, h'.invalidEmail_iff]
    | unusablePattern pattern reason => rw [h.unusablePattern_iff, h'.unusablePattern_iff]
  have hnodup : ∀ {l : List Violation}, (l.Pairwise fun a b => a.rank < b.rank) → l.Nodup := by
    intro l hl
    refine hl.imp fun {a b} hlt heq => ?_
    rw [heq] at hlt
    exact Nat.lt_irrefl _ hlt
  have hperm := (List.perm_ext_iff_of_nodup (hnodup h.inOrder) (hnodup h'.inOrder)).2 hmem
  refine hperm.eq_of_pairwise ?_ h.inOrder h'.inOrder
  intro a b _ _ hlt hgt
  omega

/-- **The violations are one list.** -/
theorem StandardViolations.eq (h : StandardViolations engine config email f v violations)
    (h' : StandardViolations engine config email f v others) : violations = others := by
  cases hblank : v.isBlank with
  | true =>
    cases hrequired : f.required with
    | true => rw [h.missing hrequired hblank, h'.missing hrequired hblank]
    | false => rw [h.absent hrequired hblank, h'.absent hrequired hblank]
  | false =>
    obtain ⟨text, htext, hlist⟩ := h.entered hblank
    obtain ⟨text', htext', hlist'⟩ := h'.entered hblank
    rw [htext, Option.some.injEq] at htext'
    subst htext'
    exact hlist.eq hlist'

end Unique

/-! ## Each rule runs once -/

/-- If one element at most gives anything, a `flatMap` is what that element gives. -/
theorem flatMap_eq_of_nodup {α β κ : Type} (key : α → κ) {l : List α} (hl : (l.map key).Nodup)
    {a : α} (ha : a ∈ l) {g : α → List β} (hg : ∀ b ∈ l, key b ≠ key a → g b = []) :
    l.flatMap g = g a := by
  obtain ⟨before, after, rfl⟩ := List.append_of_mem ha
  rw [List.map_append, List.map_cons, List.nodup_middle, List.nodup_cons, ← List.map_append] at hl
  have hne : ∀ b ∈ before ++ after, key b ≠ key a := fun b hb heq =>
    hl.1 (List.mem_map.2 ⟨b, hb, heq⟩)
  have hbefore : before.flatMap g = [] := List.flatMap_eq_nil_iff.2 fun b hb =>
    hg b (by simp [hb]) (hne b (List.mem_append_left _ hb))
  have hafter : after.flatMap g = [] := List.flatMap_eq_nil_iff.2 fun b hb =>
    hg b (by simp [hb]) (hne b (List.mem_append_right _ hb))
  rw [List.flatMap_append, List.flatMap_cons, hbefore, hafter, List.nil_append, List.append_nil]

namespace Registry

theorem mem_pending {id : String} (ids : List String) :
    ∀ ran : List String, id ∈ pending ran ids ↔ id ∈ ids ∧ id ∉ ran := by
  induction ids with
  | nil => simp [pending]
  | cons x ids ih =>
    intro ran
    unfold pending
    split
    · rename_i hx
      rw [ih, List.mem_cons]
      constructor
      · exact fun h => ⟨.inr h.1, h.2⟩
      · rintro ⟨rfl | hid, hran⟩
        · exact absurd hx hran
        · exact ⟨hid, hran⟩
    · rename_i hx
      rw [List.mem_cons, List.mem_cons, ih, List.mem_cons]
      by_cases hid : id = x
      · simp [hid, hx]
      · simp [hid]

theorem nodup_pending (ids : List String) : ∀ ran : List String, (pending ran ids).Nodup := by
  induction ids with
  | nil => exact fun _ => List.nodup_nil
  | cons x ids ih =>
    intro ran
    unfold pending
    split
    · exact ih ran
    · refine List.nodup_cons.2 ⟨?_, ih _⟩
      rw [mem_pending]
      exact fun h => h.2 (List.mem_cons_self ..)

/-! ## The standard registry -/

variable (engine : PatternEngine) (config : Config)

theorem get?_standard (id : String) :
    (standard engine config).get? id =
      if id = emailId then some .email
      else if id = patternId then some (.pattern engine config.faultPolicy)
      else if id = lengthId then some .length
      else if id = requiredId then some .required
      else none := by
  show (Dictionary.ofList (((([] ++ [(requiredId, Rule.required)]) ++ [(lengthId, Rule.length)]) ++
    [(patternId, Rule.pattern engine config.faultPolicy)]) ++ [(emailId, Rule.email)])).get? id = _
  rw [Dictionary.get?_ofList_concat, Dictionary.get?_ofList_concat, Dictionary.get?_ofList_concat,
    Dictionary.get?_ofList_concat]
  rfl

theorem getOr_standard_required :
    (standard engine config).getOr requiredId .required = .required := by
  unfold getOr
  rw [get?_standard]
  rfl

theorem getOr_standard_length : (standard engine config).getOr lengthId .length = .length := by
  unfold getOr
  rw [get?_standard]
  rfl

theorem getOr_standard_pattern :
    (standard engine config).getOr patternId (.pattern engine config.faultPolicy) =
      .pattern engine config.faultPolicy := by
  unfold getOr
  rw [get?_standard]
  rfl

variable {engine config} {node : Node} {v : Value} {form : Form} {text : List Char} {id : String}

/-- The violations of the pattern of a field by a text. -/
def patternViolations (engine : PatternEngine) (config : Config) (f : Field) (text : List Char) :
    List Violation :=
  match f.pattern with
  | none => []
  | some pattern =>
    Rule.patternViolations engine config.faultPolicy pattern (engine.compile pattern) text

theorem lengthViolations_eq_nil {f : Field} (h : f.hasLengthBounds = false) (n : Nat) :
    Rule.lengthViolations f n = [] := by
  unfold Field.hasLengthBounds at h
  rw [Bool.or_eq_false_iff, Option.isSome_eq_false_iff, Option.isSome_eq_false_iff,
    Option.isNone_iff_eq_none, Option.isNone_iff_eq_none] at h
  unfold Rule.lengthViolations
  rw [h.1, h.2]
  rfl

theorem errors_check_length (htext : v.text? = some text) :
    (Rule.length.check node v form).errors =
      (Rule.lengthViolations node.field text.length).map (Violation.error node.field) := by
  simp only [Rule.length, htext, Verdict.errors_of]

theorem errors_check_pattern (htext : v.text? = some text) :
    ((Rule.pattern engine config.faultPolicy).check node v form).errors =
      (patternViolations engine config node.field text).map (Violation.error node.field) := by
  simp only [Rule.pattern, patternViolations, htext]
  cases node.field.pattern <;> rfl

theorem mem_implied {r : Registry} {f : Field} :
    id ∈ (r.implied f).map (·.1) ↔
      (id = lengthId ∧ f.hasLengthBounds = true) ∨ (id = patternId ∧ f.pattern.isSome = true) := by
  unfold implied
  cases f.hasLengthBounds <;> cases f.pattern.isSome <;> simp

theorem errors_implied (form : Form) (htext : v.text? = some text) :
    ((standard engine config).implied node.field).flatMap
        (fun entry => (entry.2.check node v form).errors) =
      (Rule.lengthViolations node.field text.length ++
        patternViolations engine config node.field text).map (Violation.error node.field) := by
  have hpolicy : (standard engine config).config.faultPolicy = config.faultPolicy := rfl
  have hengine : (standard engine config).engine = engine := rfl
  unfold implied
  rw [hpolicy, hengine, getOr_standard_length, getOr_standard_pattern, List.flatMap_append,
    List.map_append]
  congr 1
  · cases hbounds : node.field.hasLengthBounds with
    | true => simp [errors_check_length htext]
    | false => simp [lengthViolations_eq_nil hbounds]
  · cases hnode : node.field.pattern with
    | some pattern => simp [errors_check_pattern htext]
    | none => simp [patternViolations, hnode]

/-- Beyond the implied rules only the one for email addresses finds anything wrong. -/
theorem errors_run_standard (htext : v.text? = some text) (hblank : v.isBlank = false)
    (hid : id ∉ requiredId :: ((standard engine config).implied node.field).map (·.1)) :
    ((standard engine config).run node v form id).errors =
      if id = emailId then
        if Text.isEmailShaped (Text.trim text) then []
        else [Violation.error node.field .invalidEmail]
      else [] := by
  rw [List.mem_cons, mem_implied, not_or, not_or, not_and, not_and] at hid
  obtain ⟨hrequired, hlength, hpattern⟩ := hid
  unfold run
  rw [get?_standard]
  by_cases hemail : id = emailId
  · simp only [if_pos hemail, Rule.email, Rule.emailViolations, hblank, Bool.false_eq_true,
      if_false, htext, Verdict.of]
    split <;> rfl
  rw [if_neg hemail, if_neg hemail]
  by_cases hidPattern : id = patternId
  · have hnone : node.field.pattern = none := by simpa using hpattern hidPattern
    rw [if_pos hidPattern]
    simp only [errors_check_pattern htext, patternViolations, hnone, List.map_nil]
  rw [if_neg hidPattern]
  by_cases hidLength : id = lengthId
  · have hnone : node.field.hasLengthBounds = false := by simpa using hlength hidLength
    rw [if_pos hidLength]
    simp only [errors_check_length htext, lengthViolations_eq_nil hnone, List.map_nil]
  · rw [if_neg hidLength, if_neg hrequired]
    rfl

/-- What is wrong with a text that is not blank, as a list. -/
def textViolations (engine : PatternEngine) (config : Config) (ids : List String) (f : Field)
    (text : List Char) : List Violation :=
  Rule.lengthViolations f text.length ++ patternViolations engine config f text ++
    if emailId ∈ ids ∧ Text.isEmailShaped (Text.trim text) = false then [.invalidEmail] else []

/-- **Each rule runs once**, whatever ids are listed. -/
theorem errors_checkRules_standard (htext : v.text? = some text) (hblank : v.isBlank = false)
    (extra : List String) :
    ((standard engine config).checkRules node v form extra).errors =
      (textViolations engine config (node.field.rules ++ extra) node.field text).map
        (Violation.error node.field) := by
  have hemail : emailId ∉
      requiredId :: ((standard engine config).implied node.field).map (·.1) := by
    rw [List.mem_cons, mem_implied]
    rintro (heq | ⟨heq, _⟩ | ⟨heq, _⟩) <;> exact absurd heq (by decide)
  have hpending : (pending (requiredId :: ((standard engine config).implied node.field).map (·.1))
      (node.field.rules ++ extra)).flatMap
        (fun id => ((standard engine config).run node v form id).errors) =
      (if emailId ∈ node.field.rules ++ extra ∧ Text.isEmailShaped (Text.trim text) = false
        then [Violation.invalidEmail] else []).map (Violation.error node.field) := by
    have hrun : ∀ id ∈ pending
        (requiredId :: ((standard engine config).implied node.field).map (·.1))
        (node.field.rules ++ extra), ((standard engine config).run node v form id).errors =
        if id = emailId then
          if Text.isEmailShaped (Text.trim text) then []
          else [Violation.error node.field .invalidEmail]
        else [] := fun id hid =>
      errors_run_standard htext hblank ((mem_pending _ _).1 hid).2
    by_cases hlisted : emailId ∈ node.field.rules ++ extra
    · have hmem := (mem_pending (node.field.rules ++ extra) _).2 ⟨hlisted, hemail⟩
      rw [flatMap_eq_of_nodup (fun id => id) (by simpa using nodup_pending _ _) hmem]
      · rw [hrun _ hmem, if_pos rfl]
        cases Text.isEmailShaped (Text.trim text) <;> simp [hlisted]
      · intro id hid hne
        rw [hrun id hid, if_neg hne]
    · rw [if_neg fun h => hlisted h.1, List.map_nil, List.flatMap_eq_nil_iff]
      intro id hid
      rw [hrun id hid, if_neg]
      rintro rfl
      exact hlisted ((mem_pending _ _).1 hid).1
  unfold textViolations
  rw [List.map_append, ← errors_implied form htext, ← hpending]
  simp only [checkRules, Verdict.errors_joinAll, List.flatMap_append, List.flatMap_map]

/-! ## The lists hold the standard violations -/

theorem mem_lengthViolations {f : Field} {n : Nat} {a : Violation} :
    a ∈ Rule.lengthViolations f n ↔
      (∃ min, a = .tooShort min ∧ f.minLength = some min ∧ n < min.toNat) ∨
        ∃ max, a = .tooLong max ∧ f.maxLength = some max ∧ max.toNat < n := by
  unfold Rule.lengthViolations
  rw [List.mem_append]
  refine or_congr ?_ ?_
  · cases f.minLength with
    | none => simp
    | some min => by_cases h : n < min.toNat <;> simp [h]
  · cases f.maxLength with
    | none => simp
    | some max => by_cases h : max.toNat < n <;> simp [h]

theorem mem_patternViolations {f : Field} {a : Violation} :
    a ∈ patternViolations engine config f text ↔
      (a = .patternMismatch ∧ ∃ pattern compiled, f.pattern = some pattern ∧
        engine.compile pattern = .ok compiled ∧ engine.occursIn compiled text = false) ∨
      ∃ pattern fault, a = .unusablePattern pattern (engine.faultText fault) ∧
        f.pattern = some pattern ∧ engine.compile pattern = .error fault ∧
          config.faultPolicy = .report := by
  unfold patternViolations
  cases f.pattern with
  | none => simp
  | some pattern =>
    cases hcompiled : engine.compile pattern with
    | ok compiled =>
      cases hoccurs : engine.occursIn compiled text <;>
        simp [Rule.patternViolations, hcompiled, hoccurs]
    | error fault =>
      cases hpolicy : config.faultPolicy <;> simp [Rule.patternViolations, hcompiled]

theorem rank_of_mem_lengthViolations {f : Field} {n : Nat} {a : Violation}
    (h : a ∈ Rule.lengthViolations f n) : a.rank ≤ 2 := by
  rcases mem_lengthViolations.1 h with ⟨_, rfl, _⟩ | ⟨_, rfl, _⟩ <;> simp [Violation.rank]

theorem rank_of_mem_patternViolations {f : Field} {a : Violation}
    (h : a ∈ patternViolations engine config f text) : a.rank = 3 := by
  rcases mem_patternViolations.1 h with ⟨rfl, _⟩ | ⟨_, _, rfl, _⟩ <;> rfl

theorem pairwise_lengthViolations (f : Field) (n : Nat) :
    (Rule.lengthViolations f n).Pairwise fun a b => a.rank < b.rank := by
  unfold Rule.lengthViolations
  cases f.minLength with
  | none =>
    cases f.maxLength with
    | none => exact .nil
    | some max => by_cases h : max.toNat < n <;> simp [h]
  | some min =>
    cases f.maxLength with
    | none => by_cases h : n < min.toNat <;> simp [h]
    | some max =>
      by_cases h : n < min.toNat <;> by_cases h' : max.toNat < n <;> simp [h, h', Violation.rank]

theorem pairwise_patternViolations (f : Field) :
    (patternViolations engine config f text).Pairwise fun a b => a.rank < b.rank := by
  unfold patternViolations
  cases f.pattern with
  | none => exact .nil
  | some pattern =>
    cases hcompiled : engine.compile pattern with
    | ok compiled =>
      cases hoccurs : engine.occursIn compiled text <;>
        simp [Rule.patternViolations, hcompiled, hoccurs]
    | error fault =>
      cases hpolicy : config.faultPolicy <;> simp [Rule.patternViolations, hcompiled]

/-- **The list of violations of a text** holds what is wrong with it, in order. -/
theorem textViolations_spec (engine : PatternEngine) (config : Config) (ids : List String)
    (f : Field) (text : List Char) :
    TextViolations engine config (emailId ∈ ids) f text
      (textViolations engine config ids f text) := by
  have hmem : ∀ a, a ∈ textViolations engine config ids f text ↔
      (a ∈ Rule.lengthViolations f text.length ∨ a ∈ patternViolations engine config f text) ∨
        a = .invalidEmail ∧ emailId ∈ ids ∧ ¬ Text.EmailShape (Text.trim text) := by
    intro a
    unfold textViolations
    rw [List.mem_append, List.mem_append, ← Text.isEmailShaped_iff, Bool.not_eq_true]
    split <;> simp [*]
  refine ⟨?_, ?_, ?_, ?_, ?_, ?_, ?_⟩
  · unfold textViolations
    rw [List.pairwise_append, List.pairwise_append]
    refine ⟨⟨pairwise_lengthViolations f _, pairwise_patternViolations f, ?_⟩, ?_, ?_⟩
    · intro a ha b hb
      have hlow := rank_of_mem_lengthViolations ha
      have hhigh := rank_of_mem_patternViolations hb
      omega
    · split <;> simp
    · intro a ha b hb
      have hb : b.rank = 4 := by
        split at hb
        · rw [List.mem_singleton.1 hb]
          rfl
        · cases hb
      rcases List.mem_append.1 ha with ha | ha
      · have hlow := rank_of_mem_lengthViolations ha
        omega
      · have hlow := rank_of_mem_patternViolations ha
        omega
  all_goals simp [hmem, mem_lengthViolations, mem_patternViolations]

/-! ## Verdicts on fields -/

/-- **The verdict on a value** is the list of its standard violations. -/
theorem checkWith_standard (engine : PatternEngine) (config : Config) (node : Node) (v : Value)
    (form : Form) (extra : List String) :
    ∃ violations,
      StandardViolations engine config (emailId ∈ node.field.rules ++ extra) node.field v
          violations ∧
        (standard engine config).checkWith node v form extra = .of node.field violations := by
  have hentered : v.isBlank = false → ∃ violations,
      StandardViolations engine config (emailId ∈ node.field.rules ++ extra) node.field v
          violations ∧
        (standard engine config).checkRules node v form extra = .of node.field violations := by
    intro hblank
    obtain ⟨text, htext⟩ : ∃ text, v.text? = some text := by
      refine Option.ne_none_iff_exists'.1 fun hnone => ?_
      simp [Value.isBlank, hnone] at hblank
    refine ⟨textViolations engine config (node.field.rules ++ extra) node.field text,
      ⟨fun _ h => ?_, fun _ h => ?_, fun _ => ⟨text, htext, textViolations_spec ..⟩⟩, ?_⟩
    · rw [hblank] at h
      cases h
    · rw [hblank] at h
      cases h
    · exact Verdict.ext (errors_checkRules_standard htext hblank extra)
  unfold checkWith
  rw [getOr_standard_required]
  cases hsetting : node.field.required with
  | true =>
    cases hblank : v.isBlank with
    | true =>
      refine ⟨[.required], ⟨fun _ _ => rfl, fun h => ?_, fun h => ?_⟩, ?_⟩
      · rw [hsetting] at h
        cases h
      · rw [hblank] at h
        cases h
      · simp [Rule.required, Rule.requiredViolations, hsetting, hblank, Verdict.of]
    | false =>
      obtain ⟨violations, hspec, heq⟩ := hentered hblank
      refine ⟨violations, hspec, ?_⟩
      simp [Rule.required, Rule.requiredViolations, hblank, heq]
  | false =>
    cases hblank : v.isBlank with
    | true =>
      refine ⟨[], ⟨fun h => ?_, fun _ _ => rfl, fun h => ?_⟩, ?_⟩
      · rw [hsetting] at h
        cases h
      · rw [hblank] at h
        cases h
      · simp
    | false =>
      obtain ⟨violations, hspec, heq⟩ := hentered hblank
      refine ⟨violations, hspec, ?_⟩
      simp [heq]

end Registry

/-! ## Main theorem -/

/-- The rule for email addresses applies to a field of a module. -/
def EmailApplies (config : Config) (m : Module) (f : Field) : Prop :=
  emailId ∈ f.rules ∨ config.moduleRulesApply = true ∧ emailId ∈ m.rules

theorem emailApplies_iff {engine : PatternEngine} {config : Config} {m : Module} {f : Field} :
    emailId ∈ f.rules ++ (Registry.standard engine config).appliedRules m ↔
      EmailApplies config m f := by
  have happly :
      (Registry.standard engine config).config.moduleRulesApply = config.moduleRulesApply := rfl
  unfold Registry.appliedRules EmailApplies
  rw [List.mem_append, happly]
  cases config.moduleRulesApply <;> simp

/-- The errors of a field are those of its node. -/
theorem errorsFor_checkModule {r : Registry} {m : Module} {form : Form} {node : Node}
    (hnode : node ∈ (Forest.build m).nodesInOrder)
    (hfield : ∀ other : Node, ∀ e ∈ (r.checkWith other (form.value other.field.id) form
      (r.appliedRules m)).errors, e.field = other.field.id) :
    (r.checkModule m form).errorsFor node.field.id =
      (r.checkWith node (form.value node.field.id) form (r.appliedRules m)).errors := by
  unfold Registry.checkModule Verdict.errorsFor
  rw [Verdict.errors_joinAll, List.flatMap_map, List.filter_flatMap,
    flatMap_eq_of_nodup (fun node => node.field.id) (nodup_ids_nodesInOrder m) hnode,
    List.filter_eq_self]
  · exact fun e he => by simp [hfield node e he]
  · intro other _ hne
    rw [List.filter_eq_nil_iff]
    intro e he
    rw [hfield other e he, beq_iff_eq]
    exact hne

/-- **The errors of a field of a module** under the standard rules: what is wrong with the value is
one list of violations, which the settings of the field, the text of the value and the engine for
patterns decide, and the errors of the field are the errors of these. -/
theorem checkModule_standard (engine : PatternEngine) (config : Config) (m : Module) (form : Form)
    (id : String) (f : Field) (hf : m.field? id = some f) :
    ∃ violations, (∀ others, StandardViolations engine config (EmailApplies config m f) f
        (form.value id) others ↔ others = violations) ∧
      ((Registry.standard engine config).checkModule m form).errorsFor id =
        violations.map (Violation.error f) := by
  have hmem : f ∈ (Forest.build m).nodesInOrder.map (·.field) :=
    ((Forest.nodesInOrder_spec (linked_build m)).map _).mem_iff.2
      (mem_fields_build.2 (Module.id_of_field? hf ▸ hf))
  obtain ⟨node, hnode, rfl⟩ := List.mem_map.1 hmem
  have hid : node.field.id = id := Module.id_of_field? hf
  subst hid
  obtain ⟨violations, hspec, hverdict⟩ := Registry.checkWith_standard engine config node
    (form.value node.field.id) form ((Registry.standard engine config).appliedRules m)
  rw [propext emailApplies_iff] at hspec
  refine ⟨violations, fun others => ⟨fun h => h.eq hspec, fun h => h ▸ hspec⟩, ?_⟩
  rw [errorsFor_checkModule hnode, hverdict]
  · rfl
  · intro other e he
    obtain ⟨_, _, heq⟩ := Registry.checkWith_standard engine config other
      (form.value other.field.id) form ((Registry.standard engine config).appliedRules m)
    rw [heq] at he
    obtain ⟨_, _, rfl⟩ := List.mem_map.1 he
    rfl

/-- A required text of three small letters at least that has to be an email address, as its rules
say twice. -/
def Field.mail : Field :=
  { Field.ofId "mail" .text with
    required := true, minLength := some 3, pattern := some "^[a-z]+$",
    rules := ["email", "required", "email"] }

/-- Two characters that are no address break three rules, each once. -/
theorem checkModule_standard_mail :
    ((Registry.standard Pattern.engine {}).checkModule ((Module.ofId "m").addField .mail)
      (.insert .empty "mail" (.string "x@"))).errorsFor "mail" =
        [Violation.error .mail (.tooShort 3), Violation.error .mail .patternMismatch,
          Violation.error .mail .invalidEmail] := by
  obtain ⟨violations, hspec, herrors⟩ := checkModule_standard Pattern.engine {}
    ((Module.ofId "m").addField .mail) (.insert .empty "mail" (.string "x@")) "mail" .mail
    (by decide)
  have hvalue : Form.value (.insert .empty "mail" (.string "x@")) "mail" = .string "x@" := by decide
  have hpattern : ∃ compiled, Pattern.engine.compile "^[a-z]+$" = .ok compiled ∧
      Pattern.engine.occursIn compiled ['x', '@'] = false := ⟨_, rfl, by decide⟩
  have hlist : [.tooShort 3, .patternMismatch, .invalidEmail] = violations := by
    refine (hspec _).1 ⟨fun _ h => ?_, fun _ h => ?_, fun _ => ⟨['x', '@'], ?_, ?_⟩⟩
    · rw [hvalue] at h
      revert h
      decide
    · rw [hvalue] at h
      revert h
      decide
    · rw [hvalue]
      decide
    · have hshape : ¬ Text.EmailShape (Text.trim ['x', '@']) := by
        rw [← Text.isEmailShaped_iff]
        decide
      obtain ⟨compiled, hcompiled, hoccurs⟩ := hpattern
      refine ⟨by simp [Violation.rank], by simp, ?_, ?_, ?_, ?_, ?_⟩
      · intro min
        simp only [List.mem_cons, Violation.tooShort.injEq, reduceCtorEq, List.not_mem_nil,
          or_false]
        constructor
        · rintro rfl
          exact ⟨rfl, by decide⟩
        · rintro ⟨hmin, _⟩
          exact (Option.some.inj hmin).symm
      all_goals simp [Field.mail, Field.ofId, EmailApplies, emailId, hshape, hcompiled, hoccurs]
  rw [herrors, ← hlist]
  rfl

end DynamicForms
