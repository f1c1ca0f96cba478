import DynamicForms.Forest.Basic
import DynamicForms.Pattern.Engine
import DynamicForms.Schema.Config
import DynamicForms.Schema.Form
import DynamicForms.Text.Quoted
import DynamicForms.Validation.Email
import DynamicForms.Validation.Verdict

/-!
# Rules

A rule looks at the value of a field and answers a verdict; it may look at the rest of the form as
well.  The four standard rules see values as texts and only know the failures listed as
`Violation`.  Patterns are compiled and matched by an engine.  A pattern that it cannot compile is a
fault of the rule, not of the value; the policy says whether it is passed over or reported.
-/

set_option autoImplicit false

namespace DynamicForms

/-- The ways in which a value fails a standard rule. -/
inductive Violation where
  | required
  | tooShort (min : UInt64)
  | tooLong (max : UInt64)
  | patternMismatch
  | invalidEmail
  /-- The pattern is none, so that the value could not be looked at. -/
  | unusablePattern (pattern reason : String)
deriving DecidableEq, Repr

namespace Violation

def code : Violation → String
  | .required => "REQUIRED"
  | .tooShort _ => "MIN_LENGTH"
  | .tooLong _ => "MAX_LENGTH"
  | .patternMismatch => "PATTERN_MISMATCH"
  | .invalidEmail => "INVALID_EMAIL"
  | .unusablePattern .. => "RULE_FAULT"

/-- What people are told about a violation by a field of a given name. -/
def message (name : String) : Violation → String
  | .required => name ++ " is required"
  | .tooShort min => name ++ " must be at least " ++ toString min.toNat ++ " characters"
  | .tooLong max => name ++ " must be at most " ++ toString max.toNat ++ " characters"
  | .patternMismatch => name ++ " has an invalid format"
  | .invalidEmail => name ++ " must be a valid email address"
  | .unusablePattern pattern reason =>
    "rule could not be evaluated: invalid pattern " ++ Text.quote pattern ++ ": " ++ reason

def error (f : Field) (v : Violation) : FieldError :=
  ⟨f.id, v.code, v.message f.displayName, none⟩

end Violation

/-- The verdict on a field with some violations. -/
def Verdict.of (f : Field) (violations : List Violation) : Verdict :=
  .ofErrors (violations.map (Violation.error f))

@[simp]
theorem Verdict.errors_of (f : Field) (violations : List Violation) :
    (Verdict.of f violations).errors = violations.map (Violation.error f) := rfl

@[simp]
theorem Verdict.of_nil (f : Field) : Verdict.of f [] = .valid := rfl

/-- A rule for the values of fields. -/
structure Rule where
  /-- How the rule shows itself to people who look into a registry. -/
  shown : String
  check : Node → Json.Value → Form → Verdict

namespace Rule

/-- A rule of the host. -/
def custom (name : String) (check : Node → Json.Value → Form → Verdict) : Rule :=
  ⟨"FnRule \x7b name: " ++ Text.quote name ++ ", .. \x7d", check⟩

/-! ## Required -/

/-- A required field needs a value that is not blank. -/
def requiredViolations (f : Field) (v : Json.Value) : List Violation :=
  if f.required && v.isBlank then [.required] else []

def required : Rule where
  shown := "RequiredRule"
  check node v _ := .of node.field (requiredViolations node.field v)

/-! ## Length -/

/-- The bounds that a text of some length is outside of. -/
def lengthViolations (f : Field) (length : Nat) : List Violation :=
  (match f.minLength with
    | some min => if length < min.toNat then [Violation.tooShort min] else []
    | none => []) ++
  match f.maxLength with
  | some max => if max.toNat < length then [Violation.tooLong max] else []
  | none => []

/-- The rule for the length of texts, in characters. -/
def length : Rule where
  shown := "LengthRule"
  check node v _ :=
    match v.text? with
    | none => .valid
    | some text => .of node.field (lengthViolations node.field text.length)

/-! ## Pattern -/

/-- What a text does to a pattern that was compiled, successfully or not. -/
def patternViolations (engine : PatternEngine) (policy : FaultPolicy) (pattern : String)
    (compiled : Except engine.Fault engine.Compiled) (text : List Char) : List Violation :=
  match compiled with
  | .ok p => if engine.occursIn p text then [] else [.patternMismatch]
  | .error fault =>
    match policy with
    | .failOpen => []
    | .report => [.unusablePattern pattern (engine.faultText fault)]

/-- The rule for patterns, which have to occur in the text. -/
def pattern (engine : PatternEngine) (policy : FaultPolicy) : Rule where
  shown := "PatternRule"
  check node v _ :=
    match node.field.pattern, v.text? with
    | some pattern, some text =>
      .of node.field (patternViolations engine policy pattern (engine.compile pattern) text)
    | _, _ => .valid

/-! ## Email -/

/-- A value that is not blank has to be an email address, blanks around it aside. -/
def emailViolations (v : Json.Value) : List Violation :=
  if v.isBlank then []
  else
    match v.text? with
    | none => []
    | some text => if Text.isEmailShaped (Text.trim text) then [] else [.invalidEmail]

/-- The rule for email addresses. -/
def email : Rule := ⟨"EmailRule", fun node v _ => .of node.field (emailViolations v)⟩

end Rule

end DynamicForms
