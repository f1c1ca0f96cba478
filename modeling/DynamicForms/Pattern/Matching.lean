import DynamicForms.Pattern.Engine
import DynamicForms.Pattern.Meaning
import DynamicForms.Pattern.Reading

/-!
# Matching patterns

`Pattern.ofText` reads a pattern once; the result tells of any text whether the pattern occurs in
it.  A pattern fails to be one when it cannot be read or would take too much memory, by an estimate.
Not all properties of characters are known here that an engine may know.  So `Pattern.engine` is but
the engine that the program runs with: what is proved of validation holds for every engine.
-/

set_option autoImplicit false

namespace DynamicForms

/-- Why a text is no pattern. -/
inductive PatternFault where
  | malformed
  | tooLarge
deriving DecidableEq, Repr

/-- What people are told about a fault. -/
def PatternFault.text (maxSize : Nat) : PatternFault → String
  | .malformed => "regex parse error"
  | .tooLarge => "Compiled regex exceeds size limit of " ++ toString maxSize ++ " bytes."

/-- A pattern that is ready for use. -/
structure Pattern where
  expression : Pattern.Expression

namespace Pattern

/-- The memory that the compiled form of a pattern may take. -/
def maxSize : Nat := 10485760

def ofText (text : String) : Except PatternFault Pattern :=
  match (Term.ofText? text).bind (Term.meaning? {}) with
  | none => .error .malformed
  | some (e, _) => if e.size ≤ maxSize then .ok ⟨e⟩ else .error .tooLarge

def occursIn (p : Pattern) (text : List Char) : Bool := p.expression.occursIn text

/-- The engine that the program runs with. -/
def engine : PatternEngine where
  Compiled := Pattern
  Fault := PatternFault
  compile := ofText
  occursIn := occursIn
  faultText := PatternFault.text maxSize

end Pattern

end DynamicForms
