/-!
# Engines for patterns

Validation does not read patterns itself.  It leaves that to an engine, of which it knows only what
stands here: an engine compiles a text or says what is wrong with it, and tells whether what it
compiled occurs in a text.  An engine answers the same whenever it is asked the same.
-/

set_option autoImplicit false

namespace DynamicForms

/-- What reads patterns and finds them in texts. -/
structure PatternEngine where
  /-- A pattern that is ready for use. -/
  Compiled : Type
  /-- Why a text is no pattern. -/
  Fault : Type
  compile : String → Except Fault Compiled
  occursIn : Compiled → List Char → Bool
  /-- What people are told about a fault. -/
  faultText : Fault → String

end DynamicForms
