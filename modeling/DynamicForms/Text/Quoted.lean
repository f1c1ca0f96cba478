import DynamicForms.Unicode.Property

/-!
# Quoted text

How messages show a text: between double quotes, with what would not show itself escaped.  Quotes
and backslashes take a backslash, tab, line feed, carriage return and the null character have
letters of their own, and other characters that are unprintable or attach to the one before them
are written by their number, as in `\u{200b}`.
-/

set_option autoImplicit false

namespace DynamicForms.Text

/-- The lower-case hexadecimal digits of a number. -/
def hexDigits (n : Nat) : List Char := Nat.toDigits 16 n

/-- Whether a character stands for itself inside quotes. -/
def showsItself (c : Char) : Bool :=
  if c.toNat < 0x7F then 0x20 ≤ c.toNat
  else Unicode.isPrintable c && !Unicode.extendsGrapheme c

/-- A character as it stands inside quotes. -/
def quoteChar (c : Char) : List Char :=
  if c = '"' then ['\\', '"']
  else if c = '\\' then ['\\', '\\']
  else if c = '\n' then ['\\', 'n']
  else if c = '\t' then ['\\', 't']
  else if c = '\r' then ['\\', 'r']
  else if c.toNat = 0 then ['\\', '0']
  else if showsItself c then [c]
  else '\\' :: 'u' :: '\x7b' :: hexDigits c.toNat ++ ['\x7d']

/-- A text between quotes. -/
def quote (text : String) : String :=
  String.ofList ('"' :: text.toList.flatMap quoteChar ++ ['"'])

end DynamicForms.Text
