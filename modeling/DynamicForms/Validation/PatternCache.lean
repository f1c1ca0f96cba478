import DynamicForms.Validation.Rule

/-!
# Compiled patterns

A cache of patterns by their texts, for hosts that check many values: a pattern is compiled when
it is first met, and its outcome, good or bad, is kept.  `PatternCache.check` answers what
`Rule.pattern` does, whatever the engine.
-/

set_option autoImplicit false

namespace DynamicForms

/-- The patterns that an engine compiled so far, or failed to. -/
structure PatternCache (engine : PatternEngine) where
  compiled : Dictionary (Except engine.Fault engine.Compiled)

namespace PatternCache

variable {engine : PatternEngine}

/-- The cache without patterns. -/
def empty : PatternCache engine := ⟨.empty⟩

/-- The pattern of a text, and the cache that holds it. -/
def compile (cache : PatternCache engine) (text : String) :
    Except engine.Fault engine.Compiled × PatternCache engine :=
  match cache.compiled.get? text with
  | some outcome => (outcome, cache)
  | none =>
    let outcome := engine.compile text
    (outcome, ⟨cache.compiled.insert text outcome⟩)

/-- The verdict of the rule for patterns on a value, and the cache after it. -/
def check (cache : PatternCache engine) (policy : FaultPolicy) (node : Node) (v : Json.Value) :
    Verdict × PatternCache engine :=
  match node.field.pattern, v.text? with
  | some pattern, some text =>
    let (outcome, cache) := cache.compile pattern
    (.of node.field (Rule.patternViolations engine policy pattern outcome text), cache)
  | _, _ => (.valid, cache)

end PatternCache

end DynamicForms
