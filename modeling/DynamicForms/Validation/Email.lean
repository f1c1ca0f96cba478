import DynamicForms.Text.Blank

/-!
# Email addresses

The shape of a text that passes for an email address: something before the only at sign, and
behind it a domain with a point inside, all without blanks.
-/

set_option autoImplicit false

namespace DynamicForms.Text

/-- Whether a point stands somewhere between the first and the last character. -/
def hasInnerPoint (domain : List Char) : Bool := (domain.drop 1).dropLast.contains '.'

/-- Whether a text has the shape of an email address. -/
def isEmailShaped (text : List Char) : Bool :=
  let user := text.takeWhile fun c => c != '@'
  match text.dropWhile fun c => c != '@' with
  | [] => false
  | _ :: domain =>
    !user.isEmpty && !domain.contains '@' && hasInnerPoint domain && !text.any isBlank

end DynamicForms.Text
