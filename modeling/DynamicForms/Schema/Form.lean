import DynamicForms.Dictionary
import DynamicForms.Json.Printer
import DynamicForms.Text.Blank

/-!
# Forms

The values that were entered, by the ids of their fields.  A field without a value and one whose
value is `null` are the same: nothing was entered.  Rules and conditions look at values as texts;
`Value.text?` alone decides how a value reads, and `Value.isBlank` when it counts as nothing.
-/

set_option autoImplicit false

namespace DynamicForms

namespace Json.Value

mutual
/-- A value as text: texts as they are, the items of an array joined by commas, objects in their
compact layout.  Only `null` has no text. -/
def text? : Value → Option (List Char)
  | .null => none
  | .boolean b => some (booleanWord b)
  | .number n => some n.text
  | .string s => some s.toList
  | .array items => some (List.intercalate [','] (itemTexts items))
  | .object entries => some (Value.object entries).compact

/-- The texts of those items that have one. -/
def itemTexts : List Value → List (List Char)
  | [] => []
  | v :: rest =>
    match v.text? with
    | none => itemTexts rest
    | some text => text :: itemTexts rest
end

/-- Only `null` has no text. -/
theorem text?_eq_none_iff {v : Value} : v.text? = none ↔ v = .null := by
  cases v <;> simp [text?]

theorem itemTexts_eq (items : List Value) : itemTexts items = items.filterMap text? := by
  induction items with
  | nil => rfl
  | cons v items ih => cases htext : v.text? <;> simp [itemTexts, htext, ih]

/-- Whether a value counts as nothing: it has no text or a blank one. -/
def isBlank (v : Value) : Bool :=
  match v.text? with
  | none => true
  | some text => Text.isBlankText text

end Json.Value

/-- The values of a form. -/
abbrev Form := Dictionary Json.Value

/-- The value of a field, `null` when none was entered. -/
def Form.value (form : Form) (id : String) : Json.Value := (form.get? id).getD .null

end DynamicForms
