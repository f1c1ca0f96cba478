import DynamicForms.Proofs.Dependents
import DynamicForms.Validation.PatternCache
import Mathlib.Data.List.Dedup

/-!
# A cache of patterns is not noticed

However often a rule for patterns is asked, and about which values, the patterns it keeps from one
call to the next make no difference.  Nothing is assumed of the engine but that it answers the same
whenever it is asked the same.

* `PatternCache.checkAll` — some calls in a row, each with the cache that the one before it left.
* `PatternCache.Holds` — what a cache holds after some texts were compiled: the outcome of each of
  them, and nothing else.
* `compile_spec`, `check_spec` — one call keeps to that, and answers what the rule without a cache
  does; `checkAll_spec`: any number of calls, by induction on them.
* `PatternCache.Unnoticed`, `checkAll_unnoticed` — every call answers what it does with a fresh
  cache, and the cache ends with one entry for each pattern that was needed.
-/

set_option autoImplicit false

namespace DynamicForms

namespace PatternCache

variable {engine : PatternEngine} {cache : PatternCache engine} {texts : List String}

/-- A value to be checked, with the node of its field. -/
abbrev Call := Node × Json.Value

/-- The pattern that a call needs: none when nothing was entered or the field has no pattern. -/
def needed (call : Call) : Option String :=
  if call.2 = .null then none else call.1.field.pattern

/-- The verdicts on some values in a row, and the cache after them. -/
def checkAll (policy : FaultPolicy) (cache : PatternCache engine) :
    List Call → List Verdict × PatternCache engine
  | [] => ([], cache)
  | call :: calls =>
    let (verdict, cache) := cache.check policy call.1 call.2
    let (verdicts, cache) := cache.checkAll policy calls
    (verdict :: verdicts, cache)

/-! ## What a cache holds -/

/-- The cache holds the outcomes of some texts, good or bad, and nothing else. -/
def Holds (cache : PatternCache engine) (texts : List String) : Prop :=
  ∀ text, cache.compiled.get? text = if text ∈ texts then some (engine.compile text) else none

theorem holds_empty : (empty : PatternCache engine).Holds [] := fun _ => by
  rw [if_neg List.not_mem_nil]
  rfl

theorem Holds.congr {texts' : List String} (h : cache.Holds texts)
    (hmem : ∀ text, text ∈ texts' ↔ text ∈ texts) : cache.Holds texts' := by
  intro text
  simp only [h text, hmem text]

theorem Holds.entries_perm (h : cache.Holds texts) :
    cache.compiled.entries.Perm (texts.dedup.map fun text => (text, engine.compile text)) := by
  have hright : (texts.dedup.map fun text => (text, engine.compile text)).Nodup :=
    texts.nodup_dedup.map fun _ _ heq => (Prod.mk.inj heq).1
  refine (List.perm_ext_iff_of_nodup cache.compiled.nodup_keys.of_map hright).2 ?_
  rintro ⟨text, outcome⟩
  rw [← Dictionary.get?_eq_some_iff, h text, List.mem_map]
  by_cases htext : text ∈ texts
  · simp [htext]
  · simp only [if_neg htext, List.mem_dedup, Prod.mk.injEq, reduceCtorEq, false_iff]
    rintro ⟨_, hmem, rfl, _⟩
    exact htext hmem

/-! ## One call -/

/-- **Compiling** answers the outcome of the text, which the cache holds from then on. -/
theorem compile_spec (h : cache.Holds texts) (text : String) :
    (cache.compile text).1 = engine.compile text ∧
      (cache.compile text).2.Holds (text :: texts) := by
  have hget := h text
  unfold compile
  by_cases htext : text ∈ texts
  · rw [if_pos htext] at hget
    rw [hget]
    refine ⟨rfl, h.congr fun other => ?_⟩
    simp only [List.mem_cons, or_iff_right_iff_imp]
    rintro rfl
    exact htext
  · rw [if_neg htext] at hget
    rw [hget]
    refine ⟨rfl, fun other => ?_⟩
    rw [Dictionary.get?_insert, h other]
    by_cases heq : other = text
    · subst heq
      simp
    · rw [if_neg heq]
      simp only [List.mem_cons, heq, false_or]

/-- **One call** answers what the rule without a cache does, and leaves the cache with the pattern
that it needs. -/
theorem check_spec (h : cache.Holds texts) (policy : FaultPolicy) (call : Call) (form : Form) :
    (cache.check policy call.1 call.2).1 = (Rule.pattern engine policy).check call.1 call.2 form ∧
      (cache.check policy call.1 call.2).2.Holds ((needed call).toList ++ texts) := by
  obtain ⟨node, v⟩ := call
  cases hpattern : node.field.pattern with
  | none =>
    simp only [check, Rule.pattern, needed, hpattern, ite_self, Option.toList_none,
      List.nil_append, true_and]
    exact h
  | some pattern =>
    cases htext : v.text? with
    | none =>
      obtain rfl := Json.Value.text?_eq_none_iff.1 htext
      simp only [check, Rule.pattern, needed, hpattern, htext, if_true, Option.toList_none,
        List.nil_append, true_and]
      exact h
    | some text =>
      have hv : v ≠ .null := by
        rw [ne_eq, ← Json.Value.text?_eq_none_iff, htext]
        simp
      obtain ⟨houtcome, hcache⟩ := compile_spec h pattern
      simp only [check, Rule.pattern, needed, hpattern, htext, if_neg hv, houtcome,
        Option.toList_some, List.singleton_append, true_and]
      exact hcache

/-! ## Calls in a row -/

/-- **Any number of calls** answer what the rule without a cache does. -/
theorem checkAll_spec (policy : FaultPolicy) (form : Form) (calls : List Call) :
    ∀ (cache : PatternCache engine) (texts : List String), cache.Holds texts →
      (cache.checkAll policy calls).1 =
          calls.map (fun call => (Rule.pattern engine policy).check call.1 call.2 form) ∧
        (cache.checkAll policy calls).2.Holds (calls.filterMap needed ++ texts) := by
  induction calls with
  | nil => exact fun _ _ h => ⟨rfl, h⟩
  | cons call calls ih =>
    intro cache texts h
    obtain ⟨hverdict, hnext⟩ := check_spec h policy call form
    obtain ⟨hverdicts, hlast⟩ := ih _ _ hnext
    refine ⟨by rw [checkAll, List.map_cons, ← hverdict, ← hverdicts], ?_⟩
    refine hlast.congr fun text => ?_
    rw [List.filterMap_cons]
    cases needed call <;> simp [or_left_comm]

/-! ## Main theorem -/

/-- What some calls with a cache of their own answer and leave. -/
structure Unnoticed (policy : FaultPolicy) (calls : List Call) (verdicts : List Verdict)
    (cache : PatternCache engine) : Prop where
  /-- Every call answers what it does when nothing was compiled before. -/
  verdicts_eq : verdicts = calls.map fun call =>
    ((empty : PatternCache engine).check policy call.1 call.2).1
  /-- That is what the rule without a cache answers, whatever the form. -/
  verdicts_eq_rule : ∀ form,
    verdicts = calls.map fun call => (Rule.pattern engine policy).check call.1 call.2 form
  /-- Each pattern that was needed has one entry with its outcome, and there are no others. -/
  entries_perm : cache.compiled.entries.Perm
    ((calls.filterMap needed).dedup.map fun text => (text, engine.compile text))

/-- **The cache is not noticed**, however many calls are made and whatever the engine. -/
theorem checkAll_unnoticed (engine : PatternEngine) (policy : FaultPolicy) (calls : List Call) :
    Unnoticed policy calls ((empty : PatternCache engine).checkAll policy calls).1
      ((empty : PatternCache engine).checkAll policy calls).2 := by
  have hspec := fun form =>
    checkAll_spec policy form calls (empty : PatternCache engine) [] holds_empty
  refine ⟨?_, fun form => (hspec form).1, ?_⟩
  · rw [(hspec .empty).1]
    exact List.map_congr_left fun call _ => (check_spec holds_empty policy call .empty).1.symm
  · have hlast := (hspec .empty).2
    rw [List.append_nil] at hlast
    exact hlast.entries_perm

end PatternCache

end DynamicForms
