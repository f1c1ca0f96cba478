/-!
# The calendar

Dates of the Gregorian calendar, extended to all years, and the moments that are built from them.
A moment counts seconds from the first day of 1970; the fraction is kept apart, because a leap
second is written as a fraction of one second or more after second 59.
-/

set_option autoImplicit false

namespace DynamicForms.Time

/-- Whether a year has a 29th of February. -/
def isLeapYear (year : Int) : Bool :=
  year % 4 == 0 && (year % 100 != 0 || year % 400 == 0)

/-- The number of days in a month. -/
def daysInMonth (year : Int) (month : Nat) : Nat :=
  if month = 2 then (if isLeapYear year then 29 else 28)
  else if month = 4 ∨ month = 6 ∨ month = 9 ∨ month = 11 then 30
  else 31

/-- The years that have dates. -/
def isYear (year : Int) : Bool := -262143 ≤ year && year ≤ 262142

/-- Whether year, month and day make a date. -/
def isDate (year : Int) (month day : Nat) : Bool :=
  isYear year && 1 ≤ month && month ≤ 12 && 1 ≤ day && day ≤ daysInMonth year month

/-- The number of days before a year, counted from the year 0. -/
def daysBeforeYear (year : Int) : Int :=
  let y := year - 1
  365 * year + y / 4 - y / 100 + y / 400

/-- The number of days of a year before a month. -/
def daysBeforeMonth (year : Int) (month : Nat) : Nat :=
  (List.range (month - 1)).foldl (fun days m => days + daysInMonth year (m + 1)) 0

/-- The number of days from the first of January 1970 to a date. -/
def dayNumber (year : Int) (month day : Nat) : Int :=
  daysBeforeYear year - daysBeforeYear 1970 + daysBeforeMonth year month + (day - 1)

/-- A moment. -/
structure Moment where
  seconds : Int
  /-- The fraction in billionths of a second, at least one second in a leap second. -/
  nanos : Nat
deriving DecidableEq, Repr

def Moment.compare (a b : Moment) : Ordering :=
  match Ord.compare a.seconds b.seconds with
  | .eq => Ord.compare a.nanos b.nanos
  | order => order

/-- A time of day; second 60 is a leap second. -/
structure Clock where
  hour : Nat
  minute : Nat
  second : Nat
  nanos : Nat
deriving DecidableEq, Repr

/-- Whether a time of day exists. -/
def Clock.isValid (c : Clock) : Bool := c.hour < 24 && c.minute < 60 && c.second ≤ 60

/-- The moment of a date and a time of day, `offset` seconds ahead of universal time. -/
def momentOf (day : Int) (c : Clock) (offset : Int) : Moment :=
  let second := min c.second 59
  let leap := if c.second = 60 then 1000000000 else 0
  ⟨day * 86400 + c.hour * 3600 + c.minute * 60 + second - offset, leap + c.nanos⟩

end DynamicForms.Time
