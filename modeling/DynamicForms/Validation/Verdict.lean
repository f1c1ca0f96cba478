import DynamicForms.Json.Printer

/-!
# Verdicts

What validation finds wrong with the values of fields.  A verdict holds a list of errors and says
whether it is valid, which it is when there are none; it cannot say anything else.  Verdicts are
joined by putting their errors one after the other.
-/

set_option autoImplicit false

namespace DynamicForms

/-- An error of a field. -/
structure FieldError where
  field : String
  code : String
  message : String
  /-- A second message, for instance in another language. -/
  secondary : Option String
deriving DecidableEq, Repr

namespace FieldError

/-- An error on a line. -/
def text (e : FieldError) : String := e.field ++ " [" ++ e.code ++ "]: " ++ e.message

/-- An error on a line, its second message included. -/
def line (e : FieldError) : String :=
  e.text ++ (match e.secondary with
    | none => ""
    | some message => " / " ++ message) ++ "\n"

def toJson (e : FieldError) : Json.Value :=
  .object ([("field_id", .string e.field), ("code", .string e.code),
    ("message", .string e.message)] ++
    match e.secondary with
    | none => []
    | some message => [("secondary_message", .string message)])

end FieldError

/-- The errors that were found, and whether there are none. -/
structure Verdict where
  isValid : Bool
  errors : List FieldError
  isValid_eq : isValid = errors.isEmpty
deriving DecidableEq, Repr

namespace Verdict

/-- The verdict with some errors. -/
def ofErrors (errors : List FieldError) : Verdict := ⟨errors.isEmpty, errors, rfl⟩

/-- The verdict without errors. -/
def valid : Verdict := ⟨true, [], rfl⟩

instance : Inhabited Verdict := ⟨valid⟩

/-- Verdicts with the same errors say the same. -/
@[ext]
theorem ext {v w : Verdict} (h : v.errors = w.errors) : v = w := by
  obtain ⟨isValid, errors, heq⟩ := v
  obtain ⟨isValid', errors', heq'⟩ := w
  obtain rfl : errors = errors' := h
  rw [← heq'] at heq
  subst heq
  rfl

@[simp]
theorem errors_ofErrors (errors : List FieldError) : (ofErrors errors).errors = errors := rfl

@[simp]
theorem errors_valid : valid.errors = [] := rfl

@[simp]
theorem isValid_ofErrors (errors : List FieldError) :
    (ofErrors errors).isValid = errors.isEmpty := rfl

@[simp]
theorem isValid_valid : valid.isValid = true := rfl

theorem isValid_iff {v : Verdict} : v.isValid = true ↔ v.errors = [] := by
  rw [v.isValid_eq, List.isEmpty_iff]

/-- The errors of a verdict and then those of another one. -/
def join (v w : Verdict) : Verdict := ofErrors (v.errors ++ w.errors)

/-- The errors of some verdicts in a row. -/
def joinAll (vs : List Verdict) : Verdict := ofErrors (vs.flatMap errors)

@[simp]
theorem errors_join (v w : Verdict) : (v.join w).errors = v.errors ++ w.errors := rfl

@[simp]
theorem errors_joinAll (vs : List Verdict) : (joinAll vs).errors = vs.flatMap errors := rfl

def errorsFor (v : Verdict) (field : String) : List FieldError :=
  v.errors.filter fun e => e.field == field

/-- Whether some error has a code. -/
def hasCode (v : Verdict) (code : String) : Bool := v.errors.any fun e => e.code == code

/-- A verdict on lines: its errors, and a last line that sums it up. -/
def text (v : Verdict) : String :=
  if v.isValid then "valid\n"
  else
    String.join (v.errors.map FieldError.line) ++
      "invalid: " ++ toString v.errors.length ++ " error(s)\n"

def toJson (v : Verdict) : Json.Value :=
  .object [("is_valid", .boolean v.isValid), ("errors", .array (v.errors.map FieldError.toJson))]

end Verdict

end DynamicForms
