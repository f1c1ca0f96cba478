import DynamicForms.Text.Blank
import DynamicForms.Number.Literal
import DynamicForms.Time.Calendar

/-!
# Reading dates and times

Four ways to write a moment.  A time stamp has numbers of fixed width, perhaps a fraction of a
second, and an offset from universal time or the letter Z.  The other three give a date alone, or
a date and a time of day divided by a T or by blanks; there, numbers may be shorter than usual and
have blanks before them, and a year may have a sign and any number of digits.
-/

set_option autoImplicit false

namespace DynamicForms.Time

/-- A reader of the beginning of a text, with the text behind it. -/
abbrev Reader (α : Type) := List Char → Option (α × List Char)

/-- A number of at least `min` and at most `max` digits. -/
def number (min max : Nat) : Reader Nat := fun text =>
  let ds := (text.take max).takeWhile Char.isDigit
  if min ≤ ds.length then some (Number.digitsValue ds, text.drop ds.length) else none

/-- A given character. -/
def character (c : Char) : Reader Unit
  | d :: rest => if c = d then some ((), rest) else none
  | [] => none

/-- A fraction of a second after its point, in billionths; digits beyond the ninth are passed
over. -/
def fraction : Reader Nat := fun text =>
  let ds := text.takeWhile Char.isDigit
  if ds.isEmpty then none
  else
    let kept := ds.take 9
    some (Number.digitsValue kept * Nat.pow 10 (9 - kept.length), text.drop ds.length)

/-- The fraction of a second, if there is one. -/
def optionalFraction : Reader Nat
  | '.' :: rest => fraction rest
  | text => some (0, text)

/-- The sign of an offset, as whether it is a minus; a true minus sign counts as one. -/
def offsetSign : Reader Bool
  | '+' :: rest => some (false, rest)
  | '-' :: rest => some (true, rest)
  | '−' :: rest => some (true, rest)
  | _ => none

/-- An offset from universal time in seconds, less than a day either way. -/
def offset : Reader Int
  | 'Z' :: rest | 'z' :: rest => some (0, rest)
  | text => do
    let (minus, text) ← offsetSign text
    let (hours, text) ← number 2 2 text
    let ((), text) ← character ':' text
    let (minutes, text) ← number 2 2 text
    if hours < 24 ∧ minutes < 60 then
      let seconds : Int := hours * 3600 + minutes * 60
      some (if minus then -seconds else seconds, text)
    else none

/-- What divides the date of a time stamp from its time of day. -/
def stampDivider : Reader Unit
  | 'T' :: rest | 't' :: rest | ' ' :: rest => some ((), rest)
  | _ => none

def readStamp (text : List Char) : Option Moment := do
  let (year, text) ← number 4 4 text
  let ((), text) ← character '-' text
  let (month, text) ← number 2 2 text
  let ((), text) ← character '-' text
  let (day, text) ← number 2 2 text
  let ((), text) ← stampDivider text
  let (hour, text) ← number 2 2 text
  let ((), text) ← character ':' text
  let (minute, text) ← number 2 2 text
  let ((), text) ← character ':' text
  let (second, text) ← number 2 2 text
  let (nanos, text) ← optionalFraction text
  let (ahead, text) ← offset text
  let clock : Clock := ⟨hour, minute, second, nanos⟩
  if text.isEmpty && isDate year month day && clock.isValid then
    some (momentOf (dayNumber year month day) clock ahead)
  else none

/-- A number of one or two digits with blanks before it. -/
def shortNumber : Reader Nat := fun text => number 1 2 (Text.trimStart text)

/-- A year with blanks before it: at most four digits, or a sign and any number of digits. -/
def yearNumber : Reader Int := fun text =>
  match Text.trimStart text with
  | '-' :: rest => (number 1 rest.length rest).map fun (n, rest) => (-(n : Int), rest)
  | '+' :: rest => (number 1 rest.length rest).map fun (n, rest) => ((n : Int), rest)
  | text => (number 1 4 text).map fun (n, rest) => ((n : Int), rest)

/-- A date, as the number of its day. -/
def date : Reader Int := fun text => do
  let (year, text) ← yearNumber text
  let ((), text) ← character '-' text
  let (month, text) ← shortNumber text
  let ((), text) ← character '-' text
  let (day, text) ← shortNumber text
  if isDate year month day then some (dayNumber year month day, text) else none

/-- A time of day. -/
def clock : Reader Clock := fun text => do
  let (hour, text) ← shortNumber text
  let ((), text) ← character ':' text
  let (minute, text) ← shortNumber text
  let ((), text) ← character ':' text
  let (second, text) ← shortNumber text
  let c : Clock := ⟨hour, minute, second, 0⟩
  if c.isValid then some (c, text) else none

/-- A date and a time of day with something between them. -/
def readDateAndClock (divider : Reader Unit) (text : List Char) : Option Moment := do
  let (day, text) ← date text
  let ((), text) ← divider text
  let (c, text) ← clock text
  if text.isEmpty then some (momentOf day c 0) else none

/-- Blanks, or nothing. -/
def blanks : Reader Unit := fun text => some ((), Text.trimStart text)

/-- The first moment of a date. -/
def readDate (text : List Char) : Option Moment := do
  let (day, text) ← date text
  if text.isEmpty then some (momentOf day ⟨0, 0, 0, 0⟩ 0) else none

/-- The moment a text stands for, written in any of the four ways. -/
def readMoment (text : List Char) : Option Moment :=
  (readStamp text).or <|
    (readDateAndClock (character 'T') text).or <|
      (readDateAndClock blanks text).or (readDate text)

end DynamicForms.Time
